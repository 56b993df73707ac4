import Paperwork.Proofs.Field.Types
import Paperwork.Proofs.Report.Derived

/-!
# Types of recorded values

An accepted field records a value of its type. There is one exception: a required field without a
default whose dependency does not hold records an empty list if that is its input
(`evaluate_accepts_typed`). The values that a field looks at when it is checked are those of the
finished report, since no later field is recorded under an earlier name.
-/

namespace Paperwork

open Template

/-- Whether a field may stay empty is up to the value of its dependency alone. -/
theorem Field.isWaived_congr {f : Field} {a b : Fields}
    (h : ∀ n, f.dependsOn = some n → a.get? n = b.get? n) : f.isWaived a = f.isWaived b := by
  unfold Field.isWaived
  cases hdependsOn : f.dependsOn with
  | none => rfl
  | some n => simp only [h n hdependsOn]

/-- An accepted field has passed its check. -/
theorem Field.check_of_accepted {f : Field} {raw : Option Json} {prior : Fields}
    (h : (f.outcome raw prior).2 = none) :
    f.check raw prior = .ok (f.outcome raw prior).1 := by
  unfold Field.outcome at h ⊢
  cases hcheck : f.check raw prior with
  | ok v => rfl
  | error e => simp [hcheck] at h

/-! ## Earlier values in the finished report -/

variable {input : Json} {fs rest : List Field}

/-- Fields under other names leave a recorded value alone. -/
theorem get?_checkInputs_append {n : String} (h : n ∉ rest.map (·.name)) :
    (checkInputs input (fs ++ rest)).fields.get? n = (checkInputs input fs).fields.get? n := by
  induction rest using List.reverseRecOn with
  | nil => rw [List.append_nil]
  | append_singleton rest f ih =>
    rw [List.map_append, List.mem_append, not_or] at h
    have hne : n ≠ f.name := fun heq => h.2 (by simp [heq])
    rw [← List.append_assoc, fields_checkInputs_concat, Dict.get?_insert, if_neg hne, ih h.1]

variable {d : Definition} {t : Template} {r : Report}

/-- The report holds the values that a field has met when it was checked. -/
theorem get?_before_of_evaluate (ht : t.Scoped) (hr : t.evaluate input = .ok r)
    {before after : List Field} {f : Field} (heq : t.fields = before ++ f :: after) {n : String}
    (hn : n ∈ before.map (·.name)) :
    r.fields.get? n = (checkInputs input before).fields.get? n := by
  have hnames : t.inputNames = before.map (·.name) ++ (f :: after).map (·.name) := by
    rw [inputNames, heq, List.map_append]
  have hmem : n ∈ t.inputNames := by rw [hnames]; exact List.mem_append_left _ hn
  have hdistinct := ht.inputs_distinct
  rw [hnames, List.nodup_append'] at hdistinct
  rw [get?_of_evaluate ht hr hmem, heq]
  exact get?_checkInputs_append fun hlater => hdistinct.2.2 hn hlater

/-- An accepted field is checked against the values of the report before the derived ones. -/
theorem check_of_evaluate (h : Template.ofDefinition d = .ok t) (hr : t.evaluate input = .ok r)
    {f : Field} (hf : f ∈ t.fields) (haccepted : r.errors.get? f.name = some none) :
    ∃ v prior, r.fields.get? f.name = some v ∧ f.check (f.rawInput? input) prior = .ok v ∧
      f.isWaived prior = f.isWaived r.fields := by
  have ht := scoped_of_ofDefinition h
  obtain ⟨before, after, heq⟩ := List.append_of_mem hf
  obtain ⟨hvalue, hmessage⟩ := eachAfter_of_evaluate ht hr before f after heq
  rw [haccepted, Option.some.injEq] at hmessage
  refine ⟨_, (checkInputs input before).fields, hvalue, Field.check_of_accepted hmessage.symm, ?_⟩
  refine Field.isWaived_congr fun n hn => ?_
  have hbefore := dependsOn_declared_before h before f after heq n hn
  exact (get?_before_of_evaluate ht hr heq hbefore).symm

theorem mem_resolved {earlier : List String} {f : Field} (h : f ∈ resolved earlier fs) :
    ∃ g ∈ fs, ∃ dependsOn, f = { g with dependsOn } := by
  induction fs generalizing earlier with
  | nil => simp [resolved] at h
  | cons g rest ih =>
    rcases List.mem_cons.mp h with rfl | h
    · exact ⟨g, List.mem_cons_self, _, rfl⟩
    · obtain ⟨g', hg', dependsOn, rfl⟩ := ih h
      exact ⟨g', List.mem_cons_of_mem _ hg', dependsOn, rfl⟩

/-- Every field of a template that is made of a definition has a default of its type. -/
theorem hasType_default_of_ofDefinition (h : Template.ofDefinition d = .ok t) {f : Field}
    (hf : f ∈ t.fields) : f.HasType f.default := by
  obtain ⟨declared, hmade, hfields⟩ := (Definition.describes_of_ofDefinition h).fields
  rw [hfields] at hf
  obtain ⟨g, hg, dependsOn, rfl⟩ := mem_resolved hf
  obtain ⟨e, -, he⟩ := exists_left_of_forall₂ hmade hg
  have hdefault : g.HasType g.default := Field.hasType_default he
  exact hdefault

/-! ## Accepted values -/

/--
The value of an accepted field is of the type of the field or an empty list. It is an empty list
exactly when that is the input of a required field without a default whose dependency does not hold.
-/
theorem evaluate_accepts_typed {d : Definition} {t : Template}
    (h : Template.ofDefinition d = .ok t) {input : Json} {r : Report}
    (hr : t.evaluate input = .ok r) {f : Field} (hf : f ∈ t.fields)
    (haccepted : r.errors.get? f.name = some none) :
    ∃ v, r.fields.get? f.name = some v ∧ (f.HasType v ∨ v = .list []) ∧
      (v = .list [] ↔ f.KeepsEmptyList (f.rawInput? input) r.fields) := by
  obtain ⟨v, prior, hvalue, hcheck, hwaived⟩ := check_of_evaluate h hr hf haccepted
  refine ⟨v, hvalue, ?_, ?_, fun hkeeps => ?_⟩
  · exact (Field.hasType_of_check (hasType_default_of_ofDefinition h hf) hcheck).imp_right And.left
  · rintro rfl
    rcases Field.hasType_of_check (hasType_default_of_ofDefinition h hf) hcheck with htype | htype
    · exact absurd htype (Field.not_hasType_list f [])
    · exact { htype.2 with waived := hwaived ▸ htype.2.waived }
  · have hkept : f.check (f.rawInput? input) prior = .ok (.list []) :=
      Field.check_of_keepsEmptyList { hkeeps with waived := hwaived.trans hkeeps.waived }
    rw [hcheck] at hkept
    exact Except.ok.inj hkept

/-- A tenant who is not married gives an empty list of spouses. -/
def emptySpouseInput : Json := .object [("spouse.name", .array []), ("tenant", .text "Ada")]

/-- The report of a tenant with an empty list of spouses. -/
def emptySpouseReport : Report where
  fields := Dict.ofList [("tenant", .text "Ada"), ("married", .flag false),
    ("spouse.name", .list []), ("heading", .text "ADA"), ("title", .text "ADA!")]
  errors := Dict.ofList [("tenant", none), ("married", none), ("spouse.name", none)]
  errorCount := 0

theorem evaluate_emptySpouse : leaseTemplate.evaluate emptySpouseInput = .ok emptySpouseReport :=
  rfl

theorem emptySpouseReport_typed :
    Template.ofDefinition lease = .ok leaseTemplate ∧
      leaseTemplate.evaluate emptySpouseInput = .ok emptySpouseReport ∧
      ∃ f ∈ leaseTemplate.fields, emptySpouseReport.errors.get? f.name = some none ∧
        ∃ v, emptySpouseReport.fields.get? f.name = some v ∧ (f.HasType v ∨ v = .list []) ∧
          (v = .list [] ↔
            f.KeepsEmptyList (f.rawInput? emptySpouseInput) emptySpouseReport.fields) :=
  ⟨ofDefinition_lease, evaluate_emptySpouse, _, .tail _ (.tail _ (.head _)), rfl,
    evaluate_accepts_typed ofDefinition_lease evaluate_emptySpouse (.tail _ (.tail _ (.head _)))
      rfl⟩

/-- The list stands for the text field of an accepted spouse. -/
theorem emptySpouse_accepted_untyped :
    Template.ofDefinition lease = .ok leaseTemplate ∧
      leaseTemplate.evaluate emptySpouseInput = .ok emptySpouseReport ∧
      ∃ f ∈ leaseTemplate.fields, f.kind = .string ∧
        emptySpouseReport.errors.get? f.name = some none ∧
        emptySpouseReport.fields.get? f.name = some (.list []) :=
  ⟨ofDefinition_lease, rfl, _, .tail _ (.tail _ (.head _)), rfl, rfl, rfl⟩

end Paperwork
