import Paperwork.Proofs.Report.Accounting

/-!
# Reports and the order of declaration

What is recorded for the input fields of a template solves one equation for each of them: its
outcome in view of the recorded values is its recorded value (`settles_checkInputs`). Along the
dependencies, each of which points backwards, the equations have no other solution
(`Settles.get?_eq`). So fields that are declared in another order, with every field still after the
one it depends on, have the same report (`evaluate_order_independent`).
-/

namespace Paperwork

open Template

/-! ## Fields in an order that their dependencies allow -/

/-- Fields with distinct names, each one declared after the field that it depends on. -/
structure InOrder (fs : List Field) : Prop where
  distinct : (fs.map (·.name)).Nodup
  backwards : EachAfter (fun before f => ∀ n, f.dependsOn = some n → n ∈ before.map (·.name)) fs

theorem inOrder_of_ofDefinition {d : Definition} {t : Template} (h : ofDefinition d = .ok t) :
    InOrder t.fields :=
  ⟨(scoped_of_ofDefinition h).inputs_distinct, dependsOn_declared_before h⟩

variable {input : Json} {fs others rest : List Field} {f : Field}

theorem InOrder.of_append (h : InOrder (fs ++ rest)) : InOrder fs := by
  refine ⟨?_, h.backwards.of_append⟩
  have hdistinct := h.distinct
  rw [List.map_append, List.nodup_append'] at hdistinct
  exact hdistinct.1

/-- A field depends on a field before it. -/
theorem InOrder.exists_dependency (h : InOrder (fs ++ f :: rest)) {n : String}
    (hn : f.dependsOn = some n) : ∃ g ∈ fs, g.name = n :=
  List.mem_map.mp (h.backwards fs f rest rfl n hn)

/-! ## The equations -/

/-- Whether a field may stay empty is up to the truth of its dependency's value. -/
theorem Field.isWaived_congr_isTruthy {a b : Fields}
    (h : ∀ n, f.dependsOn = some n →
      (a.get? n).map Value.isTruthy = (b.get? n).map Value.isTruthy) :
    f.isWaived a = f.isWaived b := by
  unfold Field.isWaived
  cases hdependsOn : f.dependsOn with
  | none => rfl
  | some n =>
    have hn := h n hdependsOn
    cases ha : a.get? n <;> cases hb : b.get? n <;> simp_all

/-- Values that hold for each field the value that is recorded for it in view of them. -/
def Settles (input : Json) (fs : List Field) (values : Fields) : Prop :=
  ∀ f ∈ fs, values.get? f.name = some (f.outcome (f.rawInput? input) values).1

/-- What is recorded for a field is its outcome in view of all that is recorded. -/
theorem InOrder.outcome_checkInputs (h : InOrder fs) (hf : f ∈ fs) :
    (checkInputs input fs).fields.get? f.name =
        some (f.outcome (f.rawInput? input) (checkInputs input fs).fields).1 ∧
      (checkInputs input fs).errors.get? f.name =
        some (f.outcome (f.rawInput? input) (checkInputs input fs).fields).2 := by
  obtain ⟨before, after, rfl⟩ := List.append_of_mem hf
  have hdistinct := h.distinct
  rw [List.map_append, List.nodup_append'] at hdistinct
  have hseen : f.isWaived (checkInputs input before).fields =
      f.isWaived (checkInputs input (before ++ f :: after)).fields := by
    refine Field.isWaived_congr fun n hn => ?_
    have hbefore := h.backwards before f after rfl n hn
    exact (get?_checkInputs_append fun hlater => hdistinct.2.2 hbefore hlater).symm
  have houtcome : outcomeAfter input before f = f.outcome (f.rawInput? input)
      (checkInputs input (before ++ f :: after)).fields := Field.outcome_congr hseen
  rw [← houtcome]
  exact eachAfter_checkInputs h.distinct before f after rfl

theorem InOrder.settles_checkInputs (h : InOrder fs) :
    Settles input fs (checkInputs input fs).fields :=
  fun _ hf => (h.outcome_checkInputs hf).1

/-- The equations are solved by one value for each field, found from one field to the next. -/
theorem Settles.get?_eq {a b : Fields} (h : InOrder fs) (ha : Settles input fs a)
    (hb : Settles input fs b) : ∀ f ∈ fs, a.get? f.name = b.get? f.name := by
  induction fs using List.reverseRecOn with
  | nil => simp
  | append_singleton fs g ih =>
    have hbefore : ∀ f ∈ fs, a.get? f.name = b.get? f.name :=
      ih h.of_append (fun f hf => ha f (List.mem_append_left _ hf))
        fun f hf => hb f (List.mem_append_left _ hf)
    have hlast : a.get? g.name = b.get? g.name := by
      have hseen : g.isWaived a = g.isWaived b := Field.isWaived_congr fun n hn => by
        obtain ⟨f, hf, rfl⟩ := h.exists_dependency hn
        exact hbefore f hf
      rw [ha g (by simp), hb g (by simp), Field.outcome_congr hseen]
    intro f hf
    rcases List.mem_append.mp hf with hf | hf
    · exact hbefore f hf
    · rw [List.mem_singleton.mp hf]
      exact hlast

/-! ## Two orders -/

/-- The same fields in two orders are recorded with the same values. -/
theorem fields_checkInputs_of_perm (h : InOrder fs) (hothers : InOrder others)
    (hperm : fs.Perm others) :
    (checkInputs input fs).fields = (checkInputs input others).fields := by
  refine Dict.ext_get? fun n => ?_
  by_cases hn : n ∈ fs.map (·.name)
  · obtain ⟨f, hf, rfl⟩ := List.mem_map.mp hn
    have hsettles : Settles input fs (checkInputs input others).fields :=
      fun f hf => hothers.settles_checkInputs f (hperm.mem_iff.mp hf)
    exact Settles.get?_eq h h.settles_checkInputs hsettles f hf
  · have hothersNames : n ∉ others.map (·.name) := mt (hperm.map _).mem_iff.mpr hn
    rw [(get?_checkInputs_of_not_mem hn).1, (get?_checkInputs_of_not_mem hothersNames).1]

/-- The same fields in two orders have the same messages. -/
theorem errors_checkInputs_of_perm (h : InOrder fs) (hothers : InOrder others)
    (hperm : fs.Perm others) :
    (checkInputs input fs).errors = (checkInputs input others).errors := by
  refine Dict.ext_get? fun n => ?_
  by_cases hn : n ∈ fs.map (·.name)
  · obtain ⟨f, hf, rfl⟩ := List.mem_map.mp hn
    rw [(h.outcome_checkInputs hf).2, (hothers.outcome_checkInputs (hperm.mem_iff.mp hf)).2,
      fields_checkInputs_of_perm h hothers hperm]
  · have hothersNames : n ∉ others.map (·.name) := mt (hperm.map _).mem_iff.mpr hn
    rw [(get?_checkInputs_of_not_mem hn).2, (get?_checkInputs_of_not_mem hothersNames).2]

theorem checkInputs_of_perm (h : InOrder fs) (hothers : InOrder others)
    (hperm : fs.Perm others) : checkInputs input fs = checkInputs input others := by
  have hfields : (checkInputs input fs).fields = (checkInputs input others).fields :=
    fields_checkInputs_of_perm h hothers hperm
  have herrors : (checkInputs input fs).errors = (checkInputs input others).errors :=
    errors_checkInputs_of_perm h hothers hperm
  have hcount : (checkInputs input fs).errorCount = (checkInputs input others).errorCount := by
    rw [errorCount_checkInputs h.distinct, errorCount_checkInputs hothers.distinct]
    simp only [Report.rejection?, herrors]
    exact hperm.countP_eq _
  generalize checkInputs input fs = r at hfields herrors hcount ⊢
  cases r
  congr

theorem evaluate_of_perm {t s : Template} (ht : InOrder t.fields) (hs : InOrder s.fields)
    (hperm : t.fields.Perm s.fields) (hderived : t.derived = s.derived) :
    t.evaluate input = s.evaluate input := by
  rw [evaluate_eq, evaluate_eq, checkInputs_of_perm ht hs hperm, hderived]

/--
Templates with the same fields in two orders and the same derived values give the same report or the
same defect for every input. What is recorded for a field, value and message, is up to the field
itself, to its raw input and to whether the value that is recorded for its dependency holds: where
these agree it is the same in the reports of any two templates for any two inputs.
-/
theorem evaluate_order_independent {d e : Definition} {t s : Template}
    (ht : ofDefinition d = .ok t) (hs : ofDefinition e = .ok s) :
    (t.fields.Perm s.fields → t.derived = s.derived →
      ∀ input, t.evaluate input = s.evaluate input) ∧
    ∀ f, f ∈ t.fields → f ∈ s.fields → ∀ (input other : Json) (q r : Report),
      t.evaluate input = .ok q → s.evaluate other = .ok r →
      f.rawInput? input = f.rawInput? other →
      (∀ n, f.dependsOn = some n →
        (q.fields.get? n).map Value.isTruthy = (r.fields.get? n).map Value.isTruthy) →
      q.fields.get? f.name = r.fields.get? f.name ∧
        q.errors.get? f.name = r.errors.get? f.name := by
  refine ⟨fun hperm hderived input => ?_, fun f hft hfs input other q r hq hr hraw htruth => ?_⟩
  · exact evaluate_of_perm (inOrder_of_ofDefinition ht) (inOrder_of_ofDefinition hs) hperm hderived
  · obtain ⟨hvalue, hmessage⟩ := outcome_of_evaluate ht hq hft fun _ _ => rfl
    obtain ⟨hotherValue, hotherMessage⟩ := outcome_of_evaluate hs hr hfs fun _ _ => rfl
    have houtcome : f.outcome (f.rawInput? input) q.fields =
        f.outcome (f.rawInput? other) r.fields := by
      rw [hraw]
      exact Field.outcome_congr (Field.isWaived_congr_isTruthy htruth)
    rw [hvalue, hmessage, hotherValue, hotherMessage, houtcome]
    exact ⟨rfl, rfl⟩

/-! ## A lease that asks for the tenant last -/

/-- The lease with the tenant behind the spouse, who stays behind the question for the marriage. -/
def leaseTenantLast : Definition where
  name := "lease"
  fields := [
    .field { name := "married", kind := .boolean, default := some (.text "no") },
    .group { group := "spouse", fields := [{ name := "name", dependsOn := some "married" }] },
    .field { name := "tenant" }]
  derived := lease.derived

/-- The template of a lease that asks for the tenant last. -/
def leaseTenantLastTemplate : Template where
  name := "lease"
  layout := [.field "married", .group "spouse" "spouse" ["spouse.name"], .field "tenant"]
  fields := leaseTemplate.fields.tail ++ leaseTemplate.fields.take 1
  derived := leaseTemplate.derived
  documents := []

theorem ofDefinition_leaseTenantLast :
    ofDefinition leaseTenantLast = .ok leaseTenantLastTemplate := rfl

theorem leaseTenantLast_same_report :
    ofDefinition lease = .ok leaseTemplate ∧
      ofDefinition leaseTenantLast = .ok leaseTenantLastTemplate ∧
      leaseTemplate.fields.Perm leaseTenantLastTemplate.fields ∧
      leaseTemplate.fields ≠ leaseTenantLastTemplate.fields ∧
      ∀ input, leaseTemplate.evaluate input = leaseTenantLastTemplate.evaluate input := by
  have hperm : leaseTemplate.fields.Perm leaseTenantLastTemplate.fields := by decide
  exact ⟨ofDefinition_lease, ofDefinition_leaseTenantLast, hperm, by decide,
    (evaluate_order_independent ofDefinition_lease ofDefinition_leaseTenantLast).1 hperm rfl⟩

end Paperwork
