import Paperwork.Proofs.Schema.Omission

/-!
# The sample input of a template

A sample gives every field a value that is not empty, so what becomes of it is up to the type of
the field alone (`check_sample`). The sample value is of that type with one exception: a choice
whose default is the empty text is given a made-up text, which need not be one of its options
(`hasType_sample_iff`). So the fields that the sample input has rejected are those choices
(`sampleInput_is_valid_iff`).
-/

namespace Paperwork

open Template

/-! ## One field -/

namespace Field

variable {f : Field} {prior : Fields}

/-- The sample value of a choice is made up, and it is none of the options. -/
def MissesSample (f : Field) : Prop :=
  f.kind = .choice ∧ f.default.isEmpty = true ∧ "example-" ++ f.name ∉ f.options

instance (f : Field) : Decidable f.MissesSample :=
  inferInstanceAs (Decidable (f.kind = .choice ∧ f.default.isEmpty = true ∧
    "example-" ++ f.name ∉ f.options))

theorem isEmpty_sample (f : Field) : f.sample.isEmpty = false := by
  unfold sample
  split
  · split
    · rfl
    · simp [Value.isEmpty]
  · simpa using ‹¬ f.default.isEmpty = true›

theorem hasType_sample_iff (htype : f.HasType f.default) :
    f.HasType f.sample ↔ ¬ f.MissesSample := by
  unfold MissesSample
  cases hdefault : f.default.isEmpty with
  | false =>
    have hsample : f.sample = f.default := if_neg (by simp [hdefault])
    rw [hsample]
    simpa using htype
  | true =>
    unfold HasType sample
    rw [if_pos hdefault]
    -- The made-up value is of every type but, perhaps, that of a choice.
    cases f.kind <;> simp [FieldKind.Holds]

/-- A sample value is not replaced by a default, so only its type counts. -/
theorem check_sample (f : Field) (prior : Fields) :
    f.check (some f.sample.toJson) prior = f.conform f.sample := by
  have hempty : f.sample.isEmpty = false := isEmpty_sample f
  rw [check_of_ofRaw? (Value.ofRaw?_toJson _), checkValue, fill_of_not_isEmpty hempty,
    if_neg (by simp [hempty])]

theorem conform_sample_of_missesSample (h : f.MissesSample) :
    f.conform f.sample = .error .notAnOption := by
  obtain ⟨hkind, hdefault, hoption⟩ := h
  have hsample : f.sample = .text ("example-" ++ f.name) := by rw [sample, if_pos hdefault, hkind]
  rw [hsample]
  unfold conform
  rw [hkind]
  exact if_neg (by simpa using hoption)

theorem outcome_sample (htype : f.HasType f.default) (prior : Fields) :
    f.outcome (some f.sample.toJson) prior =
      (f.sample, if f.MissesSample then some (f.rejectionMessage .notAnOption) else none) := by
  by_cases hmisses : f.MissesSample
  · have hrejected := (check_sample f prior).trans (conform_sample_of_missesSample hmisses)
    rw [outcome_of_error hrejected, Value.echo_eq_of_ofRaw? (Value.ofRaw?_toJson _),
      if_pos hmisses]
  · have haccepted := (check_sample f prior).trans
      (conform_of_hasType ((hasType_sample_iff htype).mpr hmisses))
    rw [outcome_of_ok haccepted, if_neg hmisses]

end Field

/-! ## All fields -/

variable {d : Definition} {t : Template} {r : Report} {f : Field}

/-- The sample gives every field its sample value. -/
theorem rawInput?_sampleInput (ht : t.Scoped) (hf : f ∈ t.fields) :
    f.rawInput? t.sampleInput = some f.sample.toJson := by
  have hnames : ((t.fields.map fun f => (f.name, f.sample.toJson)).map (·.1)).Nodup := by
    rw [List.map_map]
    exact ht.inputs_distinct
  have hmember : t.sampleInput.member? f.name = some f.sample.toJson := by
    rw [sampleInput, Json.member?_objectOf hnames]
    have hentry := (entryAt_filterMap (fun g : Field => some g.sample.toJson)
      ht.inputs_distinct).1 f hf
    simpa using hentry
  rw [Field.rawInput?, hmember]

theorem records_sample (h : ofDefinition d = .ok t) (hr : t.Records t.sampleInput r)
    (hf : f ∈ t.fields) :
    r.fields.get? f.name = some f.sample ∧
      r.errors.get? f.name =
        some (if f.MissesSample then some (f.rejectionMessage .notAnOption) else none) := by
  obtain ⟨hvalue, hmessage⟩ := hr.outcome h hf
  rw [rawInput?_sampleInput (scoped_of_ofDefinition h) hf,
    Field.outcome_sample (hasType_default_of_ofDefinition h hf)] at hvalue hmessage
  exact ⟨hvalue, hmessage⟩

/-- The rejected fields of the sample are counted. -/
theorem errorCount_sample (h : ofDefinition d = .ok t) (hr : t.Records t.sampleInput r) :
    r.errorCount = t.fields.countP fun f => decide f.MissesSample := by
  have hcount : (checkInputs t.sampleInput t.fields).errorCount =
      t.fields.countP fun f => decide f.MissesSample := by
    rw [errorCount_checkInputs (scoped_of_ofDefinition h).inputs_distinct]
    refine List.countP_congr fun f hf => ?_
    rw [Report.rejection?, (records_sample h (.inl rfl) hf).2, Option.join_some]
    by_cases hmisses : f.MissesSample <;> simp [hmisses]
  rcases hr with rfl | hr
  · exact hcount
  · exact (errors_of_evaluate hr).1.trans hcount

/--
What is recorded for each field of the sample input is its sample value. It is rejected, as none of
the options, exactly if the field is a choice that is given a made-up value outside of them, and all
rejected fields are counted. So the sample is evaluated to a report without rejected fields, or to
the defect of a derived value, exactly if no field of the template is such a choice.
-/
theorem sampleInput_is_valid_iff (h : ofDefinition d = .ok t) :
    (∀ r, t.Records t.sampleInput r →
      r.errorCount = t.fields.countP (fun f => decide f.MissesSample) ∧
      ∀ f ∈ t.fields, r.fields.get? f.name = some f.sample ∧
        (f.MissesSample →
          r.errors.get? f.name = some (some (f.rejectionMessage .notAnOption))) ∧
        (¬ f.MissesSample → r.errors.get? f.name = some none)) ∧
    (((∃ r, t.evaluate t.sampleInput = .ok r ∧ r.errorCount = 0) ∨
        ∃ name cause, t.evaluate t.sampleInput = .error (.derived name cause)) ↔
      ∀ f ∈ t.fields, ¬ f.MissesSample) := by
  have ht : t.Scoped := scoped_of_ofDefinition h
  have hchecked : (checkInputs t.sampleInput t.fields).errorCount =
      t.fields.countP fun f => decide f.MissesSample := errorCount_sample h (.inl rfl)
  have hzero : (checkInputs t.sampleInput t.fields).errorCount = 0 ↔
      ∀ f ∈ t.fields, ¬ f.MissesSample := by
    rw [hchecked, List.countP_eq_zero]
    simp only [decide_eq_true_eq]
  refine ⟨fun r hr => ⟨errorCount_sample h hr, fun f hf => ?_⟩, ?_, fun hnone => ?_⟩
  · obtain ⟨hvalue, hmessage⟩ := records_sample h hr hf
    refine ⟨hvalue, fun hmisses => ?_, fun hfits => ?_⟩
    · rw [hmessage, if_pos hmisses]
    · rw [hmessage, if_neg hfits]
  · rintro (⟨r, hr, hcount⟩ | ⟨name, cause, hdefect⟩)
    · exact hzero.mp ((errors_of_evaluate hr).1.symm.trans hcount)
    · exact hzero.mp (evaluate_eq_error_iff.mp hdefect).1
  · exact evaluate_of_accepted ht (hzero.mpr hnone)

/-! ## The samples of a lease and of a stamp -/

/-- The sample of a lease has no rejected field. -/
theorem leaseTemplate_sample_is_valid :
    ofDefinition lease = .ok leaseTemplate ∧
      (∀ f ∈ leaseTemplate.fields, ¬ f.MissesSample) ∧
      ((∃ r, leaseTemplate.evaluate leaseTemplate.sampleInput = .ok r ∧ r.errorCount = 0) ∨
        ∃ name cause,
          leaseTemplate.evaluate leaseTemplate.sampleInput = .error (.derived name cause)) := by
  have hfits : ∀ f ∈ leaseTemplate.fields, ¬ f.MissesSample := by decide
  exact ⟨ofDefinition_lease, hfits, (sampleInput_is_valid_iff ofDefinition_lease).2.mpr hfits⟩

/-- A letter with or without a stamp on it. -/
def stamp : Definition where
  name := "stamp"
  fields := [
    .field { name := "mark", kind := .choice, options := some ["", "draft"], required := false }]

/-- The template of a stamp; its default is to have none. -/
def stampTemplate : Template where
  name := "stamp"
  layout := [.field "mark"]
  fields := [⟨"mark", "mark", none, .choice, ["", "draft"], .text "", false, none, none, none⟩]
  derived := []
  documents := []

/-- No stamp is called like the made-up text of the sample. -/
theorem stampTemplate_sample_is_rejected :
    ofDefinition stamp = .ok stampTemplate ∧
      ∃ r, stampTemplate.evaluate stampTemplate.sampleInput = .ok r ∧ r.errorCount = 1 ∧
        r.fields.get? "mark" = some (.text "example-mark") ∧
        r.errors.get? "mark" =
          some (some "Value of mark must be one of: \"\", \"draft\"") :=
  ⟨rfl, _, rfl, rfl, rfl, rfl⟩

end Paperwork
