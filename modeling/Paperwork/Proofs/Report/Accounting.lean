import Paperwork.Proofs.Dict
import Paperwork.Proofs.Report.Types

/-!
# What a report lists

A report has one entry in its errors for each input field, counts those that are messages and lists
them by name, and it has values for the input fields and, if there is no message, for the derived
ones (`evaluate_accounts`). What a rejected field has recorded is what the fields that depend on it
have looked at.
-/

namespace Paperwork

open Template

/-- The message of the rejection recorded under a name, if there is one. -/
def Report.rejection? (r : Report) (name : String) : Option String := (r.errors.get? name).join

theorem Report.rejection?_eq_some_iff {r : Report} {n m : String} :
    r.rejection? n = some m ↔ r.errors.get? n = some (some m) := by
  rw [Report.rejection?, Option.join_eq_some_iff]

/-! ## Messages -/

section Messages

variable {r : Report}

theorem Report.mem_messages_iff {n m : String} :
    (n, m) ∈ r.messages ↔ r.rejection? n = some m := by
  rw [Report.rejection?_eq_some_iff, ← Dict.mem_toList_iff, Report.messages, List.mem_filterMap]
  constructor
  · rintro ⟨⟨k, message⟩, hmem, heq⟩
    obtain ⟨_, rfl, hpair⟩ := Option.map_eq_some_iff.mp heq
    cases hpair
    exact hmem
  · intro hmem
    exact ⟨(n, some m), hmem, rfl⟩

theorem Report.messages_inKeyOrder (r : Report) : InKeyOrder r.messages := by
  unfold InKeyOrder Report.messages
  rw [List.pairwise_filterMap]
  refine r.errors.inOrder.imp fun {a b} hlt x hx y hy => ?_
  obtain ⟨_, -, rfl⟩ := Option.map_eq_some_iff.mp hx
  obtain ⟨_, -, rfl⟩ := Option.map_eq_some_iff.mp hy
  exact hlt

/-- There are as many messages as names with a message. -/
theorem Report.length_messages {names : List String} (hnodup : names.Nodup)
    (hkeys : ∀ n, n ∈ r.errors.keys ↔ n ∈ names) :
    r.messages.length = names.countP fun n => (r.rejection? n).isSome := by
  have hcount := Dict.countP_toList hnodup hkeys fun e => e.join.isSome
  unfold Report.rejection?
  rw [← hcount, Report.messages, List.length_filterMap_eq_countP]
  refine List.countP_congr fun e _ => ?_
  rw [Option.isSome_map, Option.join_some]

end Messages

/-! ## Input fields -/

variable {input : Json} {fs : List Field}

/-- The rejections that are counted are those that are recorded. -/
theorem errorCount_checkInputs (hnodup : (fs.map (·.name)).Nodup) :
    (checkInputs input fs).errorCount =
      fs.countP fun f => ((checkInputs input fs).rejection? f.name).isSome := by
  induction fs using List.reverseRecOn with
  | nil => rfl
  | append_singleton fs g ih =>
    rw [List.map_append, List.nodup_append'] at hnodup
    obtain ⟨hnodup, -, hdisjoint⟩ := hnodup
    have hearlier : ∀ f ∈ fs, (checkInputs input (fs ++ [g])).rejection? f.name =
        (checkInputs input fs).rejection? f.name := by
      intro f hf
      have hne : f.name ≠ g.name := fun h =>
        hdisjoint (List.mem_map_of_mem hf) (by rw [h]; exact List.mem_singleton_self _)
      rw [Report.rejection?, errors_checkInputs_concat, Dict.get?_insert, if_neg hne,
        Report.rejection?]
    have hlast : (checkInputs input (fs ++ [g])).rejection? g.name =
        (outcomeAfter input fs g).2 := by
      rw [Report.rejection?, errors_checkInputs_concat, Dict.get?_insert, if_pos rfl,
        Option.join_some]
    have hcount : fs.countP (fun f => ((checkInputs input (fs ++ [g])).rejection? f.name).isSome) =
        fs.countP fun f => ((checkInputs input fs).rejection? f.name).isSome :=
      List.countP_congr fun f hf => by rw [hearlier f hf]
    rw [errorCount_checkInputs_concat, List.countP_append, List.countP_singleton, hlast, hcount,
      ih hnodup]

/-- There is an entry for a name, and a value, exactly if it is that of a field. -/
theorem isSome_checkInputs_iff (hnodup : (fs.map (·.name)).Nodup) {n : String} :
    (((checkInputs input fs).errors.get? n).isSome ↔ n ∈ fs.map (·.name)) ∧
      (((checkInputs input fs).fields.get? n).isSome ↔ n ∈ fs.map (·.name)) := by
  by_cases hn : n ∈ fs.map (·.name)
  · obtain ⟨f, hf, rfl⟩ := List.mem_map.mp hn
    obtain ⟨before, after, heq⟩ := List.append_of_mem hf
    have hfield : (checkInputs input fs).fields.get? f.name = some (outcomeAfter input before f).1 ∧
        (checkInputs input fs).errors.get? f.name = some (outcomeAfter input before f).2 :=
      eachAfter_checkInputs hnodup before f after heq
    rw [hfield.1, hfield.2]
    simp [hn]
  · rw [(get?_checkInputs_of_not_mem hn).1, (get?_checkInputs_of_not_mem hn).2]
    simp [hn]

/-! ## What a field looks at -/

/-- What becomes of a field is up to its raw input and to whether it may stay empty. -/
theorem Field.outcome_congr {f : Field} {raw : Option Json} {a b : Fields}
    (h : f.isWaived a = f.isWaived b) : f.outcome raw a = f.outcome raw b := by
  have hcheck : f.check raw a = f.check raw b := by
    unfold Field.check
    cases Value.ofRaw? raw with
    | none => rfl
    | some v => simp only [h]
  rw [Field.outcome, Field.outcome, hcheck]

/-- A rejected field has recorded its raw input as it came. -/
theorem Field.outcome_of_rejected {f : Field} {raw : Option Json} {prior : Fields} {m : String}
    (h : (f.outcome raw prior).2 = some m) : (f.outcome raw prior).1 = Value.echo raw := by
  unfold Field.outcome at h ⊢
  cases hcheck : f.check raw prior with
  | ok v => simp [hcheck] at h
  | error e => rfl

section Reports

variable {d : Definition} {t : Template} {r : Report}

/-- A field has the outcome that it has in view of the value reported for its dependency. -/
theorem outcome_of_evaluate (h : ofDefinition d = .ok t) (hr : t.evaluate input = .ok r)
    {f : Field} (hf : f ∈ t.fields) {prior : Fields}
    (hprior : ∀ n, f.dependsOn = some n → prior.get? n = r.fields.get? n) :
    r.fields.get? f.name = some (f.outcome (f.rawInput? input) prior).1 ∧
      r.errors.get? f.name = some (f.outcome (f.rawInput? input) prior).2 := by
  have ht := scoped_of_ofDefinition h
  obtain ⟨before, after, heq⟩ := List.append_of_mem hf
  have hseen : f.isWaived (checkInputs input before).fields = f.isWaived prior := by
    refine Field.isWaived_congr fun n hn => ?_
    have hbefore := dependsOn_declared_before h before f after heq n hn
    rw [hprior n hn, get?_before_of_evaluate ht hr heq hbefore]
  have houtcome : outcomeAfter input before f = f.outcome (f.rawInput? input) prior :=
    Field.outcome_congr hseen
  rw [← houtcome]
  exact eachAfter_of_evaluate ht hr before f after heq

theorem mem_errors_keys_iff (ht : t.Scoped) (hr : t.evaluate input = .ok r) {n : String} :
    n ∈ r.errors.keys ↔ n ∈ t.inputNames := by
  rw [Dict.mem_keys_iff, (errors_of_evaluate hr).2]
  exact (isSome_checkInputs_iff ht.inputs_distinct).1

/-- Derived values are there exactly if no field was rejected. -/
theorem mem_fields_keys_iff (ht : t.Scoped) (hr : t.evaluate input = .ok r) {n : String} :
    n ∈ r.fields.keys ↔ n ∈ t.inputNames ∨ r.errorCount = 0 ∧ n ∈ t.derivedNames := by
  rw [Dict.mem_keys_iff]
  have hinput : ((checkInputs input t.fields).fields.get? n).isSome ↔ n ∈ t.inputNames :=
    (isSome_checkInputs_iff ht.inputs_distinct).2
  by_cases hcount : r.errorCount = 0
  · have hcompletes := completes_of_evaluate ht hr hcount
    simp only [hcount, true_and]
    by_cases hderived : n ∈ t.derivedNames
    · obtain ⟨x, hx, rfl⟩ := List.mem_map.mp hderived
      obtain ⟨v, hv, -⟩ := hcompletes.holds x hx
      rw [hv]
      simp [hderived]
    · rw [hcompletes.kept n hderived, hinput]
      simp [hderived, inputNames]
  · have hfields : r.fields = (checkInputs input t.fields).fields := by
      rcases evaluate_eq_ok_iff.mp hr with ⟨-, rfl⟩ | ⟨hzero, -⟩
      · rfl
      · exact absurd ((errors_of_evaluate hr).1.trans hzero) hcount
    rw [hfields, hinput]
    simp [hcount, inputNames]

/-- The count of a report is that of its rejected fields, and there is a message for each. -/
theorem errorCount_of_evaluate (ht : t.Scoped) (hr : t.evaluate input = .ok r) :
    r.errorCount = t.fields.countP (fun f => (r.rejection? f.name).isSome) ∧
      r.errorCount = r.messages.length := by
  obtain ⟨hcount, herrors⟩ := errors_of_evaluate hr
  have hrejection : ∀ n, r.rejection? n = (checkInputs input t.fields).rejection? n := by
    intro n
    rw [Report.rejection?, Report.rejection?, herrors]
  have hfields : r.errorCount = t.fields.countP fun f => (r.rejection? f.name).isSome := by
    simp only [hrejection]
    rw [hcount, errorCount_checkInputs ht.inputs_distinct]
  refine ⟨hfields, ?_⟩
  rw [Report.length_messages ht.inputs_distinct fun n => mem_errors_keys_iff ht hr, hfields,
    inputNames, List.countP_map]
  rfl

end Reports

/-! ## Accounts -/

/--
A report has an entry for each input field, and the entries that are messages are counted, one for
each rejected field, and listed by name. There is a value for each input field, and one for each
derived field exactly if nothing was rejected. A rejected field has recorded its raw input as it
came, the empty text if there was none; and every field that depends on it has the outcome that goes
with this value.
-/
theorem evaluate_accounts {d : Definition} {t : Template} (h : ofDefinition d = .ok t)
    {input : Json} {r : Report} (hr : t.evaluate input = .ok r) :
    (∀ n, n ∈ r.errors.keys ↔ n ∈ t.inputNames) ∧
    r.errorCount = t.fields.countP (fun f => (r.rejection? f.name).isSome) ∧
    r.errorCount = r.messages.length ∧ InKeyOrder r.messages ∧
    (∀ n m, (n, m) ∈ r.messages ↔ n ∈ t.inputNames ∧ r.errors.get? n = some (some m)) ∧
    (∀ n, n ∈ r.fields.keys ↔ n ∈ t.inputNames ∨ r.errorCount = 0 ∧ n ∈ t.derivedNames) ∧
    ∀ f ∈ t.fields, ∀ m, r.errors.get? f.name = some (some m) →
      r.fields.get? f.name = some (Value.echo (f.rawInput? input)) ∧
      (f.rawInput? input = none → r.fields.get? f.name = some (.text "")) ∧
      ∀ g ∈ t.fields, g.dependsOn = some f.name → ∀ prior : Fields,
        prior.get? f.name = some (Value.echo (f.rawInput? input)) →
          r.fields.get? g.name = some (g.outcome (g.rawInput? input) prior).1 ∧
          r.errors.get? g.name = some (g.outcome (g.rawInput? input) prior).2 := by
  have ht := scoped_of_ofDefinition h
  obtain ⟨hcount, hlength⟩ := errorCount_of_evaluate ht hr
  refine ⟨fun n => mem_errors_keys_iff ht hr, hcount, hlength, r.messages_inKeyOrder,
    fun n m => ?_, fun n => mem_fields_keys_iff ht hr, fun f hf m hm => ?_⟩
  · rw [Report.mem_messages_iff, Report.rejection?_eq_some_iff]
    refine (and_iff_right_of_imp fun hm => ?_).symm
    rw [← mem_errors_keys_iff ht hr, Dict.mem_keys_iff, hm]
    rfl
  · obtain ⟨hvalue, hmessage⟩ := outcome_of_evaluate h hr hf (fun _ _ => rfl)
    rw [hm, Option.some.injEq] at hmessage
    rw [Field.outcome_of_rejected hmessage.symm] at hvalue
    refine ⟨hvalue, fun hnone => ?_, fun g hg hdepends prior hprior => ?_⟩
    · rw [hvalue, hnone]
      rfl
    · refine outcome_of_evaluate h hr hg fun n hn => ?_
      rw [hdepends, Option.some.injEq] at hn
      rw [← hn, hprior, hvalue]

/-- A tenant who gives no plain answer to the question whether there is a spouse. -/
def vagueInput : Json := .object [("married", .text "perhaps"), ("tenant", .text "Ada")]

/-- The report of a tenant who gives no plain answer. -/
def vagueReport : Report where
  fields := Dict.ofList
    [("tenant", .text "Ada"), ("married", .text "perhaps"), ("spouse.name", .text "")]
  errors := Dict.ofList [("tenant", none),
    ("married", some "Value of married must be true/false/yes/no"),
    ("spouse.name", some "Field spouse.name is required")]
  errorCount := 2

theorem evaluate_vague : leaseTemplate.evaluate vagueInput = .ok vagueReport := rfl

/-- An answer that is rejected still counts as one, so the spouse is asked for. -/
theorem vagueReport_accounts :
    ofDefinition lease = .ok leaseTemplate ∧
      leaseTemplate.evaluate vagueInput = .ok vagueReport ∧
      vagueReport.errorCount = vagueReport.messages.length ∧
      "title" ∉ vagueReport.fields.keys ∧
      ∃ f ∈ leaseTemplate.fields, ∃ g ∈ leaseTemplate.fields, g.dependsOn = some f.name ∧
        vagueReport.fields.get? f.name = some (.text "perhaps") ∧
        ∀ prior : Fields, prior.get? f.name = some (.text "perhaps") →
          vagueReport.errors.get? g.name = some (g.outcome (g.rawInput? vagueInput) prior).2 := by
  obtain ⟨-, -, hlength, -, -, hkeys, hrejected⟩ :=
    evaluate_accounts ofDefinition_lease evaluate_vague
  have hmarried : leaseTemplate.fields[1] ∈ leaseTemplate.fields := List.getElem_mem _
  have hspouse : leaseTemplate.fields[2] ∈ leaseTemplate.fields := List.getElem_mem _
  obtain ⟨hvalue, -, hdependent⟩ := hrejected _ hmarried _ rfl
  refine ⟨ofDefinition_lease, evaluate_vague, hlength, ?_, _, hmarried, _, hspouse, rfl, hvalue,
    fun prior hprior => (hdependent _ hspouse rfl prior hprior).2⟩
  rw [hkeys]
  decide

end Paperwork
