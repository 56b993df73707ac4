import Paperwork.Proofs.Report.Derived
import Paperwork.Proofs.Session.Payloads

/-!
# Two ways to generate

Documents are generated from an input, or from the fields that its evaluation has answered with.
Both ways leave the same disk and the same answer, although the fields travel as text in between
(`generation_agrees`). Only an input that is nested too deeply is answered differently: the failure
names the channel that it is sent on (`deepInput_answers_differ`).
-/

namespace Paperwork

theorem Policy.permits_iff {p : Policy} {r : Report} :
    p.permits r = true ↔ p = .relaxed ∨ r.errorCount = 0 := by
  cases p <;> simp [permits, Report.isValid]

theorem Policy.not_permits_iff {p : Policy} {r : Report} :
    p.permits r = false ↔ p = .strict ∧ r.errorCount ≠ 0 := by
  cases p <;> simp [permits, Report.isValid]

theorem Report.member?_fields (r : Report) :
    r.toJson.member? "fields" = some r.fields.toJson := by
  simp [toJson, Json.objectOf, Json.member?, Json.memberIn?_putMember]

/-! ## Operations -/

namespace Session

variable (s : Session) (disk : Disk)

/-- To evaluate and generate is to evaluate, and then to generate from the fields of the report. -/
theorem evaluateAndGenerate_eq (input : Json) (directory : String) :
    s.evaluateAndGenerate disk input directory =
      match s.evaluate input with
      | .error e => ⟨s, disk, .error e⟩
      | .ok r =>
        if s.policy.permits r then
          let turn := s.generateDocuments disk r.fields directory
          { turn with answer := turn.answer.map fun g => ⟨r, some g⟩ }
        else ⟨s, disk, .ok ⟨r, none⟩⟩ := by
  rw [evaluateAndGenerate, evaluate]
  unfold generateDocuments
  cases s.current with
  | error e => rfl
  | ok t =>
    dsimp only [bind, Except.bind]
    cases t.evaluate input <;> rfl

/--
An input and the fields of its report lead to the same session and disk, and to the same failure or
to the same report of what was generated; the answer to the input adds the report of the evaluation.
-/
inductive SameGeneration (report : Json) : Turn Json → Turn Json → Prop
  | failed (s : Session) (disk : Disk) (e : SessionError) :
    SameGeneration report ⟨s, disk, .error e⟩ ⟨s, disk, .error e⟩
  | generated (s : Session) (disk : Disk) (generation : Json) :
    SameGeneration report
      ⟨s, disk, .ok (Json.objectOf [("evaluation", report), ("generation", generation)])⟩
      ⟨s, disk, .ok generation⟩

theorem sameGeneration_of_permits {input : Json} {r : Report} (hr : s.evaluate input = .ok r)
    (hpermits : s.policy.permits r) (directory : String) :
    SameGeneration r.toJson
      (encoded (s.evaluateAndGenerate disk input directory) SessionOutcome.toJson)
      (encoded (s.generateDocuments disk r.fields directory) GenerationReport.toJson) := by
  rw [evaluateAndGenerate_eq, hr]
  simp only [hpermits, if_true]
  obtain ⟨after, left, answer⟩ := s.generateDocuments disk r.fields directory
  cases answer with
  | error e => exact .failed after left e
  | ok g => exact .generated after left g.toJson

theorem encoded_of_error {input : Json} {e : SessionError} (h : s.evaluate input = .error e)
    (directory : String) :
    encoded (s.evaluateAndGenerate disk input directory) SessionOutcome.toJson =
      ⟨s, disk, .error e⟩ := by
  rw [evaluateAndGenerate_eq, h]
  rfl

theorem encoded_of_not_permits {input : Json} {r : Report} (hr : s.evaluate input = .ok r)
    (hpermits : s.policy.permits r = false) (directory : String) :
    encoded (s.evaluateAndGenerate disk input directory) SessionOutcome.toJson =
      ⟨s, disk, .ok (Json.objectOf [("evaluation", r.toJson), ("generation", .null)])⟩ := by
  rw [evaluateAndGenerate_eq, hr]
  simp only [hpermits]
  rfl

/-! ## Requests -/

section Requests

variable {payload directory : String} {v : Json}

theorem handle_evaluate (h : Spells payload [("input", v)]) :
    s.handle disk Channel.evaluateTemplate.name payload =
      ⟨s, disk, (Channel.evaluateTemplate.inputOf v >>= s.evaluate).map Report.toJson⟩ := by
  rw [handle, Request.ofText_name, Channel.request_evaluate h]
  cases Channel.evaluateTemplate.inputOf v <;> rfl

theorem handle_input (h : Spells payload [("input", v), ("out_dir", .text directory)])
    (hv : v ≠ .null) :
    s.handle disk Channel.generateDocuments.name payload =
      match Channel.generateDocuments.inputOf v with
      | .error e => ⟨s, disk, .error e⟩
      | .ok input =>
        encoded (s.evaluateAndGenerate disk input directory) SessionOutcome.toJson := by
  rw [handle, Request.ofText_name, Channel.request_input h hv]
  cases Channel.generateDocuments.inputOf v <;> rfl

theorem handle_fields {fields : Fields}
    (h : Spells payload [("fields", fields.toJson), ("out_dir", .text directory)]) :
    s.handle disk Channel.generateDocuments.name payload =
      encoded (s.generateDocuments disk fields directory) GenerationReport.toJson := by
  rw [handle, Request.ofText_name, Channel.request_fields h]
  rfl

end Requests

end Session

/-- All channels read the same input, or each refuses it in its own name as nested too deeply. -/
theorem Channel.inputOf_cases (v : Json) :
    (v.depth < Json.levels ∧ ∃ input, ∀ c : Channel, c.inputOf v = .ok input) ∨
      (Json.levels ≤ v.depth ∧
        ∀ c : Channel, c.inputOf v = .error (.request c.name DecodeError.tooDeep.message)) := by
  have hread := Tree.within_json? Json.reading v (Json.levels - 1)
  rcases Nat.lt_or_ge v.depth Json.levels with hdepth | hdepth
  · obtain ⟨input, hinput⟩ := hread.exists_ok (Nat.le_sub_one_of_lt hdepth)
    refine .inl ⟨hdepth, input, fun c => ?_⟩
    rw [inputOf, innerJson, hinput]
    rfl
  · have hlimit : Json.levels - 1 < v.depth := Nat.lt_of_lt_of_le (by decide) hdepth
    refine .inr ⟨hdepth, fun c => ?_⟩
    rw [inputOf, innerJson, hread.eq_tooDeep hlimit]
    rfl

theorem Value.numberFree_toJson (v : Value) : v.toJson.NumberFree := by
  cases v with
  | text s => exact .text s
  | flag b => exact .bool b
  | list items =>
    refine .array fun i hi => ?_
    obtain ⟨s, -, rfl⟩ := List.mem_map.mp hi
    exact .text s

/-- The compact text of fields and a directory asks for documents from these fields. -/
theorem spells_fields (fields : Fields) (directory : String) :
    Spells (Json.object [("fields", fields.toJson), ("out_dir", .text directory)]).compact
      [("fields", fields.toJson), ("out_dir", .text directory)] := by
  refine spells_compact fun m hm => ?_
  rcases List.mem_pair.mp hm with rfl | rfl
  · refine .object fun e he => ?_
    obtain ⟨x, -, rfl⟩ := List.mem_map.mp he
    exact x.2.numberFree_toJson
  · exact .text directory

/--
An input that is not null is sent to be evaluated, and to generate documents. If it is nested too
deeply, both answers are failures that differ in the channel that they name. Otherwise a failure to
evaluate it is the answer to both. If its evaluation is answered with a report whose fields may be
used under the policy, then sending these fields back generates the same documents on the same disk,
and the input is answered with both reports. If the policy does not permit to use them, the input is
answered with the report alone, and the disk stays as it is.
-/
theorem generation_agrees (s : Session) (disk : Disk) {v : Json} (hv : v ≠ .null)
    (directory : String) {asked given : String} (hasked : Spells asked [("input", v)])
    (hgiven : Spells given [("input", v), ("out_dir", .text directory)]) :
    let evaluate := Channel.evaluateTemplate
    let generate := Channel.generateDocuments
    let evaluated := s.handle disk evaluate.name asked
    let generated := s.handle disk generate.name given
    (Json.levels ≤ v.depth →
      evaluated.answer = .error (.request evaluate.name DecodeError.tooDeep.message) ∧
      generated = ⟨s, disk, .error (.request generate.name DecodeError.tooDeep.message)⟩) ∧
    (v.depth < Json.levels →
      ∀ e, evaluated.answer = .error e → generated = ⟨s, disk, .error e⟩) ∧
    ∀ R, evaluated.answer = .ok R → ∃ r : Report, R = r.toJson ∧
      ∃ F, R.member? "fields" = some F ∧
        (s.policy = .relaxed ∨ r.errorCount = 0 →
          let members := [("fields", F), ("out_dir", .text directory)]
          Spells (Json.object members).compact members ∧
          ∀ sent, Spells sent members →
            Session.SameGeneration R generated (s.handle disk generate.name sent)) ∧
        (s.policy = .strict ∧ r.errorCount ≠ 0 →
          generated =
            ⟨s, disk, .ok (Json.objectOf [("evaluation", R), ("generation", .null)])⟩) := by
  dsimp only
  rw [Session.handle_evaluate s disk hasked, Session.handle_input s disk hgiven hv]
  obtain ⟨hdepth, input, hinput⟩ | ⟨hdepth, hdeep⟩ := Channel.inputOf_cases v
  · have hevaluated : Channel.evaluateTemplate.inputOf v >>= s.evaluate = s.evaluate input := by
      rw [hinput]
      rfl
    rw [hevaluated, hinput]
    dsimp only
    refine ⟨fun hle => absurd hdepth (Nat.not_lt.mpr hle), fun _ e he => ?_, fun R hR => ?_⟩
    · exact Session.encoded_of_error s disk (map_eq_error_iff.mp he) directory
    · obtain ⟨r, hr, rfl⟩ := map_eq_ok_iff.mp hR
      refine ⟨r, rfl, r.fields.toJson, r.member?_fields, fun hpolicy => ?_, fun hpolicy => ?_⟩
      · refine ⟨spells_fields r.fields directory, fun sent hsent => ?_⟩
        rw [Session.handle_fields s disk hsent]
        have hpermits := Policy.permits_iff.mpr hpolicy
        exact Session.sameGeneration_of_permits s disk hr hpermits directory
      · have hpermits := Policy.not_permits_iff.mpr hpolicy
        exact Session.encoded_of_not_permits s disk hr hpermits directory
  · rw [hdeep, hdeep]
    refine ⟨fun _ => ⟨rfl, rfl⟩, fun hlt => absurd hlt (Nat.not_lt.mpr hdepth), fun R hR => ?_⟩
    cases hR

/-! ## A lease for a married tenant -/

/-- A session with the lease loaded. -/
def leaseSession (policy : Policy) : Session := ⟨policy, Word.render, some leaseTemplate⟩

/-- The input of a tenant who is married. -/
def marriedInput : Json := .object [("married", .text "yes"),
  ("spouse", .object [("name", .text "Bob \"B\" Stone")]), ("tenant", .text "Ada")]

/-- The report of a tenant who is married. -/
def marriedReport : Report where
  fields := Dict.ofList [("tenant", .text "Ada"), ("married", .flag true),
    ("spouse.name", .text "Bob \"B\" Stone"), ("heading", .text "ADA"), ("title", .text "ADA!")]
  errors := Dict.ofList [("tenant", none), ("married", none), ("spouse.name", none)]
  errorCount := 0

theorem numberFree_married : marriedInput.NumberFree := by
  refine .object fun m hm => ?_
  simp only [List.mem_cons, List.not_mem_nil, or_false] at hm
  rcases hm with rfl | rfl | rfl
  · exact .text _
  · exact .object fun m hm => by
      obtain rfl := List.mem_singleton.mp hm
      exact .text _
  · exact .text _

/-- A value without numbers can be sent as an input. -/
theorem spells_input {v : Json} (h : v.NumberFree) (directory : String) :
    Spells (Json.object [("input", v)]).compact [("input", v)] ∧
      Spells (Json.object [("input", v), ("out_dir", .text directory)]).compact
        [("input", v), ("out_dir", .text directory)] := by
  refine ⟨spells_compact fun m hm => ?_, spells_compact fun m hm => ?_⟩
  · obtain rfl := List.mem_singleton.mp hm
    exact h
  · rcases List.mem_pair.mp hm with rfl | rfl
    · exact h
    · exact .text directory

/-- The fields of the report generate what the input generates. -/
theorem marriedInput_agrees :
    let disk := Disk.blank ["desk"]
    let s := leaseSession .relaxed
    let asked := (Json.object [("input", marriedInput)]).compact
    let given := (Json.object [("input", marriedInput), ("out_dir", .text "out")]).compact
    marriedInput ≠ .null ∧ Spells asked [("input", marriedInput)] ∧
      Spells given [("input", marriedInput), ("out_dir", .text "out")] ∧
      (s.handle disk Channel.evaluateTemplate.name asked).answer = .ok marriedReport.toJson ∧
      ∃ F, marriedReport.toJson.member? "fields" = some F ∧
        Session.SameGeneration marriedReport.toJson
          (s.handle disk Channel.generateDocuments.name given)
          (s.handle disk Channel.generateDocuments.name
            (Json.object [("fields", F), ("out_dir", .text "out")]).compact) := by
  obtain ⟨hasked, hgiven⟩ := spells_input numberFree_married "out"
  have hne : marriedInput ≠ .null := Json.noConfusion
  have hanswer : ((leaseSession .relaxed).handle (Disk.blank ["desk"])
      Channel.evaluateTemplate.name (Json.object [("input", marriedInput)]).compact).answer =
        .ok marriedReport.toJson := by
    rw [Session.handle_evaluate _ _ hasked]
    rfl
  obtain ⟨-, -, hreport⟩ :=
    generation_agrees (leaseSession .relaxed) (Disk.blank ["desk"]) hne "out" hasked hgiven
  obtain ⟨r, -, F, hF, hpermitted, -⟩ := hreport _ hanswer
  obtain ⟨hspells, hsame⟩ := hpermitted (.inl rfl)
  exact ⟨hne, hasked, hgiven, hanswer, F, hF, hsame _ hspells⟩

/-! ## Input that is nested too deeply -/

/-- An empty array inside of a number of arrays. -/
def nested : Nat → Json
  | 0 => .array []
  | n + 1 => .array [nested n]

theorem depth_nested (n : Nat) : (nested n).depth = n + 1 := by
  induction n with
  | zero => rfl
  | succ n ih => rw [nested, Json.depth, Json.itemsDepth, Json.itemsDepth, ih, Nat.max_zero]

theorem numberFree_nested (n : Nat) : (nested n).NumberFree := by
  induction n with
  | zero => exact .array fun i hi => absurd hi List.not_mem_nil
  | succ n ih =>
    refine .array fun i hi => ?_
    obtain rfl := List.mem_singleton.mp hi
    exact ih

/-- What a session with a lease answers to the compact text of an object. -/
def leaseAnswer (channel : Channel) (members : List (String × Json)) : Except SessionError Json :=
  ((leaseSession .strict).handle (Disk.blank ["desk"]) channel.name
    (Json.object members).compact).answer

/-- An input with one level of nesting too many is answered with two different failures. -/
theorem deepInput_answers_differ :
    nested 126 ≠ .null ∧
    Spells (Json.object [("input", nested 126)]).compact [("input", nested 126)] ∧
    Spells (Json.object [("input", nested 126), ("out_dir", .text "out")]).compact
      [("input", nested 126), ("out_dir", .text "out")] ∧
    ∃ e, leaseAnswer .evaluateTemplate [("input", nested 126)] = .error e ∧
      leaseAnswer .generateDocuments [("input", nested 126), ("out_dir", .text "out")] ≠
        .error e := by
  obtain ⟨hasked, hgiven⟩ := spells_input (numberFree_nested 126) "out"
  have hne : nested 126 ≠ .null := Json.noConfusion
  have hdeep : ∀ c : Channel, c.inputOf (nested 126) =
      .error (.request c.name DecodeError.tooDeep.message) := by
    obtain ⟨hlt, -⟩ | ⟨-, hdeep⟩ := Channel.inputOf_cases (nested 126)
    · rw [depth_nested] at hlt
      exact absurd hlt (by decide)
    · exact hdeep
  refine ⟨hne, hasked, hgiven, .request Channel.evaluateTemplate.name DecodeError.tooDeep.message,
    ?_, ?_⟩
  · rw [leaseAnswer, Session.handle_evaluate _ _ hasked, hdeep]
    rfl
  · rw [leaseAnswer, Session.handle_input _ _ hgiven hne, hdeep]
    simp [Channel.name]

end Paperwork
