import Paperwork.Proofs.Json.Objects
import Paperwork.Proofs.Report.Order
import Paperwork.Schema.Input

/-!
# Fields that are left out

An input leaves a field out if it gives nothing, null or the empty text for it. Such a field takes
its default. Without one it is rejected if it is needed in view of the recorded values, and it is
the empty text if it is not (`takesDefault_of_records`). The names that the schema of an input lists
as required are those of the fields that are needed whatever else is recorded
(`requires_iff_isMandatory`). To leave a field out is the same as to give its default
(`evaluate_giving_defaults`), and a value of its own is accepted or rejected whatever else is left
out (`outcome_of_given`).
-/

namespace Paperwork

open Template

/-! ## One field -/

namespace Field

variable {f : Field} {input : Json} {raw : Option Json} {values prior : Fields}

/-- An input leaves a field out: it gives nothing, null or the empty text for it. -/
def IsLeftOut (f : Field) (input : Json) : Prop :=
  f.rawInput? input = none ∨ f.rawInput? input = some .null ∨ f.rawInput? input = some (.text "")

/-- A field is needed: it is required, and it depends on no field or on one that holds. -/
def IsNeeded (f : Field) (values : Fields) : Prop :=
  f.required = true ∧ (f.dependsOn = none ∨
    ∃ n v, f.dependsOn = some n ∧ values.get? n = some v ∧ v.isTruthy = true)

theorem IsLeftOut.ofRaw?_eq (h : f.IsLeftOut input) :
    Value.ofRaw? (f.rawInput? input) = some .empty := by
  rcases h with h | h | h <;> rw [h] <;> rfl

theorem isNeeded_iff : f.IsNeeded values ↔ f.required = true ∧ f.isWaived values = false := by
  unfold IsNeeded isWaived
  refine and_congr_right fun _ => ?_
  cases f.dependsOn with
  | none => simp
  | some n => cases hv : values.get? n <;> simp [hv]

theorem checkValue_empty_of_default (htype : f.HasType f.default)
    (hdefault : f.default.isEmpty = false) : f.checkValue .empty prior = .ok f.default := by
  have hfill : f.fill .empty = f.default := if_pos (by rw [hdefault]; rfl)
  rw [checkValue, hfill, if_neg (by simp [hdefault])]
  exact conform_of_hasType htype

theorem fill_empty_of_no_default (hdefault : f.default.isEmpty = true) : f.fill .empty = .empty :=
  if_neg (by simp [hdefault])

theorem checkValue_empty_of_isNeeded (hdefault : f.default.isEmpty = true)
    (h : f.IsNeeded prior) : f.checkValue .empty prior = .error .missing := by
  obtain ⟨hrequired, hwaived⟩ := isNeeded_iff.mp h
  rw [checkValue, fill_empty_of_no_default hdefault, if_pos (by rw [hrequired]; rfl),
    if_neg (by simp [hwaived])]

theorem checkValue_empty_of_not_isNeeded (htype : f.HasType f.default)
    (hdefault : f.default.isEmpty = true) (h : ¬ f.IsNeeded prior) :
    f.checkValue .empty prior = .ok .empty := by
  rw [isNeeded_iff, not_and, Bool.not_eq_false] at h
  rw [checkValue, fill_empty_of_no_default hdefault]
  by_cases hrequired : f.required = true
  · rw [if_pos (by rw [hrequired]; rfl), if_pos (h hrequired)]
  · rw [if_neg (by simp [hrequired])]
    rw [htype.eq_empty hdefault] at htype
    exact conform_of_hasType htype

/-- To give the default of a field is the same as to leave the field out. -/
theorem outcome_default (htype : f.HasType f.default) (h : f.IsLeftOut input) (prior : Fields) :
    f.outcome (some f.default.toJson) prior = f.outcome (f.rawInput? input) prior := by
  cases hdefault : f.default.isEmpty with
  | true =>
    rw [htype.eq_empty hdefault]
    exact outcome_toJson h.ofRaw?_eq
  | false =>
    have hempty : f.checkValue .empty prior = .ok f.default :=
      checkValue_empty_of_default htype hdefault
    rw [outcome_of_ok ((check_of_ofRaw? h.ofRaw?_eq).trans hempty)]
    exact outcome_of_ok
      ((check_of_ofRaw? (Value.ofRaw?_toJson _)).trans (checkValue_again hempty))

/-- What becomes of a field that is given something is up to what it is given. -/
theorem outcome_of_given (hleft : ¬ f.IsLeftOut input)
    (hlist : f.rawInput? input ≠ some (.array [])) (a b : Fields) :
    f.outcome (f.rawInput? input) a = f.outcome (f.rawInput? input) b := by
  have hcheck : f.check (f.rawInput? input) a = f.check (f.rawInput? input) b := by
    cases hraw : Value.ofRaw? (f.rawInput? input) with
    | none => rw [check_of_ofRaw?_eq_none hraw, check_of_ofRaw?_eq_none hraw]
    | some v =>
      have hempty : v.isEmpty = false := by
        rw [← Bool.not_eq_true, Value.isEmpty_ofRaw?_iff hraw]
        rintro (h | h | h | h)
        · exact hleft (.inl h)
        · exact hleft (.inr (.inl h))
        · exact hleft (.inr (.inr h))
        · exact hlist h
      rw [check_of_ofRaw? hraw, check_of_ofRaw? hraw, checkValue, checkValue,
        fill_of_not_isEmpty hempty, if_neg (by simp [hempty]), if_neg (by simp [hempty])]
  rw [outcome, outcome, hcheck]

/-- What a report holds of a field that is left out. -/
structure TakesDefault (f : Field) (r : Report) : Prop where
  filled : f.default.isEmpty = false →
    r.fields.get? f.name = some f.default ∧ r.errors.get? f.name = some none
  rejected : f.default.isEmpty = true →
    (r.errors.get? f.name = some (some ("Field " ++ f.name ++ " is required")) ↔
      f.IsNeeded r.fields)
  accepted : f.default.isEmpty = true → ¬ f.IsNeeded r.fields →
    r.fields.get? f.name = some (.text "") ∧ r.errors.get? f.name = some none

end Field

/-! ## All fields of an input -/

/-- A report of an input: what its fields have recorded, possibly with the derived values. -/
def Template.Records (t : Template) (input : Json) (r : Report) : Prop :=
  r = checkInputs input t.fields ∨ t.evaluate input = .ok r

variable {d : Definition} {t : Template} {input other : Json} {r : Report} {f : Field}

theorem Template.Records.outcome (hr : t.Records input r) (h : ofDefinition d = .ok t)
    (hf : f ∈ t.fields) :
    r.fields.get? f.name = some (f.outcome (f.rawInput? input) r.fields).1 ∧
      r.errors.get? f.name = some (f.outcome (f.rawInput? input) r.fields).2 := by
  rcases hr with rfl | hr
  · exact (inOrder_of_ofDefinition h).outcome_checkInputs hf
  · exact outcome_of_evaluate h hr hf fun _ _ => rfl

theorem takesDefault_of_records (h : ofDefinition d = .ok t) (hr : t.Records input r)
    (hf : f ∈ t.fields) (hleft : f.IsLeftOut input) : f.TakesDefault r := by
  have htype : f.HasType f.default := hasType_default_of_ofDefinition h hf
  obtain ⟨hvalue, hmessage⟩ := hr.outcome h hf
  have hcheck : f.check (f.rawInput? input) r.fields = f.checkValue .empty r.fields :=
    Field.check_of_ofRaw? hleft.ofRaw?_eq
  have haccepted (hdefault : f.default.isEmpty = true) (hneeded : ¬ f.IsNeeded r.fields) :
      r.fields.get? f.name = some (.text "") ∧ r.errors.get? f.name = some none := by
    rw [Field.checkValue_empty_of_not_isNeeded htype hdefault hneeded] at hcheck
    rw [hvalue, hmessage, Field.outcome_of_ok hcheck]
    exact ⟨rfl, rfl⟩
  refine ⟨fun hdefault => ?_, fun hdefault => ⟨fun hrejected => ?_, fun hneeded => ?_⟩, haccepted⟩
  · rw [Field.checkValue_empty_of_default htype hdefault] at hcheck
    rw [hvalue, hmessage, Field.outcome_of_ok hcheck]
    exact ⟨rfl, rfl⟩
  · by_contra hneeded
    rw [(haccepted hdefault hneeded).2] at hrejected
    cases hrejected
  · rw [Field.checkValue_empty_of_isNeeded hdefault hneeded] at hcheck
    rw [hmessage, Field.outcome_of_error hcheck]
    rfl

/-- An input that gives some fields that are left out their defaults has the same report. -/
theorem evaluate_giving_defaults (h : ofDefinition d = .ok t)
    (hgiven : ∀ f ∈ t.fields, f.rawInput? other = f.rawInput? input ∨
      f.IsLeftOut input ∧ f.rawInput? other = some f.default.toJson) :
    t.evaluate other = t.evaluate input := by
  have hchecked : checkInputs other t.fields = checkInputs input t.fields := by
    refine checkInputs_congr fun f hf prior => ?_
    rcases hgiven f hf with hsame | ⟨hleft, hdefault⟩
    · rw [hsame]
    · rw [hdefault]
      exact Field.outcome_default (hasType_default_of_ofDefinition h hf) hleft prior
  rw [evaluate_eq, evaluate_eq, hchecked]

/-! ## The fields that a schema requires -/

/-- The schema of the input of a template lists a name as required. -/
def Template.Requires (t : Template) (name : String) : Prop :=
  ∃ names, t.inputSchema.member? "required" = some (Json.texts names) ∧ name ∈ names

theorem member?_required_inputSchema (t : Template) :
    t.inputSchema.member? "required" = some (Json.texts t.mandatory) := by
  rw [inputSchema, Json.member?_objectOf (by simp)]
  rfl

theorem requires_iff_mem_mandatory {name : String} : t.Requires name ↔ name ∈ t.mandatory := by
  rw [Template.Requires, member?_required_inputSchema]
  constructor
  · rintro ⟨names, hnames, hmem⟩
    have htexts : t.mandatory.map Json.text = names.map Json.text :=
      Json.array.inj (Option.some.inj hnames)
    rw [List.map_injective_iff.mpr (fun _ _ => Json.text.inj) htexts]
    exact hmem
  · exact fun hmem => ⟨_, rfl, hmem⟩

theorem requires_iff_isMandatory (ht : t.Scoped) (hf : f ∈ t.fields) :
    t.Requires f.name ↔ f.isMandatory = true := by
  rw [requires_iff_mem_mandatory, mandatory, List.mem_map]
  constructor
  · rintro ⟨g, hg, hname⟩
    obtain ⟨hg, hmandatory⟩ := List.mem_filter.mp hg
    rwa [List.inj_on_of_nodup_map ht.inputs_distinct hg hf hname] at hmandatory
  · exact fun hmandatory => ⟨f, List.mem_filter.mpr ⟨hf, hmandatory⟩, rfl⟩

theorem Field.isMandatory_iff :
    f.isMandatory = true ↔
      f.required = true ∧ f.dependsOn = none ∧ f.default.isEmpty = true := by
  simp [isMandatory, and_assoc]

/-- Of a field that is not mandatory and has no dependency, nothing is missing if it is left out. -/
theorem Field.TakesDefault.accepted_of_not_isMandatory (h : f.TakesDefault r)
    (hmandatory : ¬ f.isMandatory = true) (hdependsOn : f.dependsOn = none) :
    r.errors.get? f.name = some none := by
  cases hdefault : f.default.isEmpty with
  | false => exact (h.filled hdefault).2
  | true =>
    refine (h.accepted hdefault fun hneeded => hmandatory ?_).2
    exact Field.isMandatory_iff.mpr ⟨hneeded.1, hdependsOn, hdefault⟩

/--
A field that is left out takes its default, or else is rejected if it is needed and the empty text
if it is not. So a field that the schema requires is rejected by every input that leaves it out, and
one that it does not require and that has no dependency is accepted. An input that leaves out only
fields of the latter kind has the same report as if it gave them their defaults, and every field
that it has rejected is given: unless that is an empty list, the field is rejected with the same
message whatever other fields an input gives or leaves out.
-/
theorem inputSchema_agrees_with_evaluate (h : ofDefinition d = .ok t) :
    (∀ input r, t.Records input r → ∀ f ∈ t.fields, f.IsLeftOut input → f.TakesDefault r) ∧
    (∀ f ∈ t.fields, t.Requires f.name → ∀ input, f.IsLeftOut input →
      ∃ r, t.evaluate input = .ok r ∧
        r.errors.get? f.name = some (some ("Field " ++ f.name ++ " is required"))) ∧
    (∀ f ∈ t.fields, ¬ t.Requires f.name → f.dependsOn = none → ∀ input, f.IsLeftOut input →
      ∀ r, t.Records input r → r.errors.get? f.name = some none) ∧
    ∀ input, (∀ f ∈ t.fields, f.IsLeftOut input → ¬ t.Requires f.name ∧ f.dependsOn = none) →
      (∀ other, (∀ f ∈ t.fields, f.rawInput? other = f.rawInput? input ∨
          f.IsLeftOut input ∧ f.rawInput? other = some f.default.toJson) →
        t.evaluate other = t.evaluate input) ∧
      ∀ r, t.Records input r → ∀ f ∈ t.fields, ∀ m, r.errors.get? f.name = some (some m) →
        ¬ f.IsLeftOut input ∧
        (f.rawInput? input ≠ some (.array []) →
          ∀ other, f.rawInput? other = f.rawInput? input →
            ∃ q, t.evaluate other = .ok q ∧ q.errors.get? f.name = some (some m)) := by
  have ht : t.Scoped := scoped_of_ofDefinition h
  have haccepted : ∀ f ∈ t.fields, ¬ t.Requires f.name → f.dependsOn = none →
      ∀ input, f.IsLeftOut input → ∀ r, t.Records input r →
        r.errors.get? f.name = some none := by
    intro f hf hrequires hdependsOn input hleft r hr
    rw [requires_iff_isMandatory ht hf] at hrequires
    exact (takesDefault_of_records h hr hf hleft).accepted_of_not_isMandatory hrequires hdependsOn
  refine ⟨fun input r hr f hf => takesDefault_of_records h hr hf,
    fun f hf hrequires input hleft => ?_, haccepted,
    fun input honly => ⟨fun other => evaluate_giving_defaults h, ?_⟩⟩
  · obtain ⟨hrequired, hdependsOn, hdefault⟩ :=
      Field.isMandatory_iff.mp ((requires_iff_isMandatory ht hf).mp hrequires)
    have hrejected := ((takesDefault_of_records h (.inl rfl) hf hleft).rejected hdefault).mpr
      ⟨hrequired, .inl hdependsOn⟩
    exact ⟨_, evaluate_of_rejected ht hf hrejected, hrejected⟩
  · intro r hr f hf m hm
    have hgiven : ¬ f.IsLeftOut input := by
      intro hleft
      obtain ⟨hrequires, hdependsOn⟩ := honly f hf hleft
      rw [haccepted f hf hrequires hdependsOn input hleft r hr] at hm
      cases hm
    refine ⟨hgiven, fun hlist other hsame => ?_⟩
    have hchecked : t.Records other (checkInputs other t.fields) := .inl rfl
    have hrejected : (checkInputs other t.fields).errors.get? f.name = some (some m) := by
      rw [(hchecked.outcome h hf).2, hsame, Field.outcome_of_given hgiven hlist _ r.fields,
        ← (hr.outcome h hf).2]
      exact hm
    exact ⟨_, evaluate_of_rejected ht hf hrejected, hrejected⟩

/-! ## A lease with fields left out -/

/-- The name of the tenant is given as a truth value, and the marriage is left out. -/
def unnamedInput : Json := .object [("spouse.name", .text "Bo"), ("tenant", .bool true)]

/-- The same tenant says not to be married, which is what is taken to be the case by default. -/
def unnamedUnmarriedInput : Json :=
  .object [("married", .bool false), ("spouse.name", .text "Bo"), ("tenant", .bool true)]

theorem leaseTemplate_agrees_with_schema :
    ofDefinition lease = .ok leaseTemplate ∧
      leaseTemplate.fields[2].TakesDefault vagueReport ∧
      leaseTemplate.fields[2].IsNeeded vagueReport.fields ∧
      (∃ r, leaseTemplate.evaluate (.object []) = .ok r ∧
        r.errors.get? "tenant" = some (some "Field tenant is required")) ∧
      (checkInputs (.object []) leaseTemplate.fields).errors.get? "married" = some none ∧
      leaseTemplate.evaluate unnamedUnmarriedInput = leaseTemplate.evaluate unnamedInput ∧
      ∃ q, leaseTemplate.evaluate unnamedUnmarriedInput = .ok q ∧
        q.errors.get? "tenant" = some (some "Value of tenant must be text") := by
  obtain ⟨htakes, hrequired, haccepted, honly⟩ :=
    inputSchema_agrees_with_evaluate ofDefinition_lease
  have htenant : leaseTemplate.fields[0] ∈ leaseTemplate.fields := List.getElem_mem _
  have hmarried : leaseTemplate.fields[1] ∈ leaseTemplate.fields := List.getElem_mem _
  have hspouse : leaseTemplate.fields[2] ∈ leaseTemplate.fields := List.getElem_mem _
  have htenantRequired : leaseTemplate.Requires "tenant" :=
    requires_iff_mem_mandatory.mpr (by decide)
  have hmarriedOptional : ¬ leaseTemplate.Requires "married" :=
    mt requires_iff_mem_mandatory.mp (by decide)
  have honlyMarried : ∀ f ∈ leaseTemplate.fields, f.IsLeftOut unnamedInput →
      ¬ leaseTemplate.Requires f.name ∧ f.dependsOn = none := by
    intro f hf hleft
    rcases List.mem_cons.mp hf with rfl | hf
    · rcases hleft with h | h | h <;> cases h
    rcases List.mem_cons.mp hf with rfl | hf
    · exact ⟨hmarriedOptional, rfl⟩
    obtain rfl := List.mem_singleton.mp hf
    rcases hleft with h | h | h
    · cases h
    · cases h
    · exact absurd (Json.text.inj (Option.some.inj h)) (by decide)
  obtain ⟨hdefaults, hgiven⟩ := honly unnamedInput honlyMarried
  refine ⟨ofDefinition_lease, ?_, ?_, ?_, ?_, ?_, ?_⟩
  · exact htakes vagueInput _ (.inr evaluate_vague) _ hspouse (.inl rfl)
  · exact ⟨rfl, .inr ⟨_, _, rfl, rfl, rfl⟩⟩
  · exact hrequired _ htenant htenantRequired _ (.inl rfl)
  · exact haccepted _ hmarried hmarriedOptional rfl _ (.inl rfl) _ (.inl rfl)
  · refine hdefaults unnamedUnmarriedInput fun f hf => ?_
    rcases List.mem_cons.mp hf with rfl | hf
    · exact .inl rfl
    rcases List.mem_cons.mp hf with rfl | hf
    · exact .inr ⟨.inl rfl, rfl⟩
    obtain rfl := List.mem_singleton.mp hf
    exact .inl rfl
  · exact (hgiven _ (.inl rfl) _ htenant _ rfl).2 nofun unnamedUnmarriedInput rfl

end Paperwork
