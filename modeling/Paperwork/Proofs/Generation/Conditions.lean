import Paperwork.Proofs.Generation.Delivery

/-!
# Conditions that fail

Conditions are settled before any document is generated. So a run fails exactly with the first
document whose condition fails for good, and by then no document was filled and nothing was written
(`generate_fails_atomically`). To say the former, runs are also described for renderers that keep a
state, such as an account of their calls; for renderers without one, these are the runs of
`Template.generate` (`Template.generateIn_eq`).
-/

namespace Paperwork

variable {fields : Fields} {ds : List Document} {d : Document}

/-! ## Failing conditions -/

/-- The condition of a document fails, and not for want of a field. -/
def Document.FailsWith (fields : Fields) (d : Document) (cause : EvalError) : Prop :=
  d.conditions.eval fields = .error cause ∧ ∀ n, cause ≠ .undefinedField n

/-- The defect of the first document whose condition fails. -/
def IsFirstFailure (fields : Fields) (ds : List Document) (defect : Defect) : Prop :=
  ∃ before d after cause, ds = before ++ d :: after ∧
    (∀ e ∈ before, ∀ c, ¬ e.FailsWith fields c) ∧ d.FailsWith fields cause ∧
    defect = .condition d.name cause

theorem Document.isDue_eq_error_iff {cause : EvalError} :
    d.isDue fields = .error cause ↔ d.FailsWith fields cause := by
  unfold isDue FailsWith
  split
  · rename_i v hv
    simp [hv]
  · rename_i n hundefined
    rw [hundefined, Except.error.injEq]
    constructor
    · intro h
      cases h
    · rintro ⟨rfl, hcause⟩
      exact absurd rfl (hcause n)
  · rename_i c hc hfails
    rw [hfails, Except.error.injEq, Except.error.injEq]
    constructor
    · rintro rfl
      exact ⟨rfl, fun n hn => hc n hn⟩
    · exact And.left

theorem Document.isDue_of_undefined {n : String}
    (h : d.conditions.eval fields = .error (.undefinedField n)) : d.isDue fields = .ok false := by
  rw [isDue, h]

theorem Document.not_failsWith_of_isDue {due : Bool} (h : d.isDue fields = .ok due)
    (cause : EvalError) : ¬ d.FailsWith fields cause := by
  rw [← isDue_eq_error_iff, h]
  intro heq
  cases heq

theorem isFirstFailure_cons_of_failsWith {cause : EvalError} (h : d.FailsWith fields cause)
    {defect : Defect} :
    IsFirstFailure fields (d :: ds) defect ↔ defect = .condition d.name cause := by
  constructor
  · rintro ⟨_ | ⟨e, before⟩, f, after, cause', heq, hbefore, hf, rfl⟩
    · obtain ⟨rfl, -⟩ := List.cons.inj heq
      rw [← Document.isDue_eq_error_iff] at h hf
      rw [hf, Except.error.injEq] at h
      rw [h]
    · obtain ⟨rfl, -⟩ := List.cons.inj heq
      exact absurd h (hbefore d List.mem_cons_self cause)
  · rintro rfl
    exact ⟨[], d, ds, cause, rfl, by simp, h, rfl⟩

theorem isFirstFailure_cons_of_not_failsWith (h : ∀ cause, ¬ d.FailsWith fields cause)
    {defect : Defect} :
    IsFirstFailure fields (d :: ds) defect ↔ IsFirstFailure fields ds defect := by
  constructor
  · rintro ⟨_ | ⟨e, before⟩, f, after, cause, heq, hbefore, hf, rfl⟩
    · obtain ⟨rfl, -⟩ := List.cons.inj heq
      exact absurd hf (h cause)
    · obtain ⟨-, rfl⟩ := List.cons.inj heq
      exact ⟨before, f, after, cause, rfl, (List.forall_mem_cons.mp hbefore).2, hf, rfl⟩
  · rintro ⟨before, f, after, cause, rfl, hbefore, hf, rfl⟩
    exact ⟨d :: before, f, after, cause, rfl, List.forall_mem_cons.mpr ⟨h, hbefore⟩, hf, rfl⟩

/-- Whether documents are due fails with the first condition that fails. -/
theorem dueDocuments_eq_error_iff {defect : Defect} :
    dueDocuments fields ds = .error defect ↔ IsFirstFailure fields ds defect := by
  induction ds with
  | nil =>
    have hnone : ¬ IsFirstFailure fields [] defect := by
      rintro ⟨before, d, after, -, heq, -⟩
      simp at heq
    simp [dueDocuments, hnone]
  | cons d rest ih =>
    rw [dueDocuments]
    cases hdue : d.isDue fields with
    | error cause =>
      rw [isFirstFailure_cons_of_failsWith (Document.isDue_eq_error_iff.mp hdue),
        Except.error.injEq, eq_comm]
    | ok due =>
      rw [isFirstFailure_cons_of_not_failsWith (Document.not_failsWith_of_isDue hdue), ← ih]
      dsimp only
      rw [bind_eq_error_iff]
      refine or_iff_left ?_
      rintro ⟨others, -, h⟩
      cases h

theorem exists_isFirstFailure_iff :
    (∃ defect, IsFirstFailure fields ds defect) ↔ ∃ d ∈ ds, ∃ cause, d.FailsWith fields cause := by
  induction ds with
  | nil => simp [IsFirstFailure]
  | cons d rest ih =>
    rw [List.exists_mem_cons_iff, ← ih]
    by_cases hd : ∃ cause, d.FailsWith fields cause
    · obtain ⟨cause, hcause⟩ := hd
      simp only [isFirstFailure_cons_of_failsWith hcause, exists_eq, true_iff]
      exact .inl ⟨cause, hcause⟩
    · have hnone : ∀ cause, ¬ d.FailsWith fields cause := not_exists.mp hd
      simp only [isFirstFailure_cons_of_not_failsWith hnone, hd, false_or]

/-- A document whose condition reads a field without a value may as well not be there. -/
theorem dueDocuments_of_undefined {before after : List Document} {n : String}
    (h : d.conditions.eval fields = .error (.undefinedField n)) :
    dueDocuments fields (before ++ d :: after) = dueDocuments fields (before ++ after) := by
  induction before with
  | nil =>
    rw [List.nil_append, List.nil_append, dueDocuments, Document.isDue_of_undefined h]
    cases dueDocuments fields after <;> rfl
  | cons e before ih =>
    rw [List.cons_append, List.cons_append, dueDocuments, dueDocuments, ih]

/-! ## Renderers with a state -/

/-- A way to fill a document that changes a state of its own. -/
abbrev StatefulRenderer (σ : Type) :=
  ByteArray → Fields → Delimiters → σ → Except RenderError ByteArray × σ

/-- What a run can change: the state of the renderer, and the disk. -/
structure Scene (σ : Type) where
  state : σ
  disk : Disk

/-- A renderer with a state fills every document as one without a state does. -/
def Imitates {σ : Type} (render : StatefulRenderer σ) (renderer : Renderer) : Prop :=
  ∀ payload fields delimiters state,
    (render payload fields delimiters state).1 = renderer payload fields delimiters

section Stateful

variable {σ : Type} {render : StatefulRenderer σ} {renderer : Renderer} {directory : String}
  {scene : Scene σ}

/-- Fills a document, calling the renderer if there is a payload. -/
def Document.fillIn (render : StatefulRenderer σ) (fields : Fields) (state : σ) (d : Document) :
    Except GenerationError ByteArray × σ :=
  match d.contents with
  | none => (.error (.missingPayload d.name), state)
  | some payload =>
    let (filled, state) := render payload fields .brackets state
    (filled.mapError .render, state)

/-- Generates a document below a directory. -/
def Document.generateIn (render : StatefulRenderer σ) (fields : Fields) (directory : String)
    (scene : Scene σ) (d : Document) : Outcome × Scene σ :=
  match d.fileName fields with
  | .error fault => (.error ⟨d.name, .outputName d.outFile fault⟩, scene)
  | .ok filename =>
    let path := Path.join directory filename
    match d.fillIn render fields scene.state with
    | (.error e, state) => (.error ⟨filename, e⟩, { scene with state })
    | (.ok bytes, state) => match scene.disk.write path bytes with
      | .error cause => (.error ⟨filename, .write path cause⟩, { scene with state })
      | .ok disk => (.ok ⟨path, filename⟩, ⟨state, disk⟩)

/-- Generates documents in turn and adds what becomes of them to a report. -/
def generateAllIn (render : StatefulRenderer σ) (fields : Fields) (directory : String) :
    List Document → GenerationReport → Scene σ → GenerationReport × Scene σ
  | [], report, scene => (report, scene)
  | d :: rest, report, scene =>
    let (outcome, scene) := d.generateIn render fields directory scene
    generateAllIn render fields directory rest (report.record outcome) scene

/-- Generates the documents of a template that are due; the scene is there also after a failure. -/
def Template.generateIn (t : Template) (render : StatefulRenderer σ) (fields : Fields)
    (directory : String) (scene : Scene σ) : Except Defect GenerationReport × Scene σ :=
  match dueDocuments fields t.documents with
  | .error defect => (.error defect, scene)
  | .ok due =>
    let (report, scene) := generateAllIn render fields directory due .blank scene
    (.ok report, scene)

theorem Document.fillIn_fst (h : Imitates render renderer) (d : Document) (fields : Fields)
    (state : σ) : (d.fillIn render fields state).1 = d.fill renderer fields := by
  unfold fillIn fill
  cases d.contents with
  | none => rfl
  | some payload =>
    show (render payload fields .brackets state).1.mapError GenerationError.render = _
    rw [h]

theorem Document.generateIn_eq (h : Imitates render renderer) (d : Document) (fields : Fields)
    (directory : String) (scene : Scene σ) :
    (d.generateIn render fields directory scene).1 =
        (d.generate renderer fields directory scene.disk).1 ∧
      (d.generateIn render fields directory scene).2.disk =
        (d.generate renderer fields directory scene.disk).2 := by
  have hfill := fillIn_fst h d fields scene.state
  unfold generateIn generate writeTo
  cases hname : d.fileName fields with
  | error fault => exact ⟨rfl, rfl⟩
  | ok filename =>
    rcases hfilled : d.fillIn render fields scene.state with ⟨answer, state⟩
    rw [hfilled] at hfill
    rw [← hfill]
    cases answer with
    | error e => exact ⟨rfl, rfl⟩
    | ok bytes =>
      dsimp only [bind, Except.bind]
      cases scene.disk.write (Path.join directory filename) bytes <;> exact ⟨rfl, rfl⟩

theorem generateAllIn_eq (h : Imitates render renderer) (ds : List Document) (fields : Fields)
    (directory : String) (r : GenerationReport) (scene : Scene σ) :
    (generateAllIn render fields directory ds r scene).1 =
        (generateAll renderer fields directory ds r scene.disk).1 ∧
      (generateAllIn render fields directory ds r scene).2.disk =
        (generateAll renderer fields directory ds r scene.disk).2 := by
  induction ds generalizing r scene with
  | nil => exact ⟨rfl, rfl⟩
  | cons d rest ih =>
    obtain ⟨houtcome, hdisk⟩ := Document.generateIn_eq h d fields directory scene
    rw [generateAll_cons, ← houtcome, ← hdisk]
    exact ih _ _

/-- For a renderer without a state, a run is one of the template. -/
theorem Template.generateIn_eq (t : Template) (h : Imitates render renderer) :
    t.generate renderer fields directory scene.disk =
      (t.generateIn render fields directory scene).1.map fun r =>
        (r, (t.generateIn render fields directory scene).2.disk) := by
  unfold generate generateIn
  cases hdue : dueDocuments fields t.documents with
  | error defect => rfl
  | ok due =>
    obtain ⟨hreport, hdisk⟩ := generateAllIn_eq h due fields directory .blank scene
    show Except.ok _ = Except.ok _
    rw [hreport, hdisk]

theorem Template.generateIn_eq_error_iff (t : Template) {defect : Defect} :
    (t.generateIn render fields directory scene).1 = .error defect ↔
      IsFirstFailure fields t.documents defect := by
  rw [← dueDocuments_eq_error_iff]
  unfold generateIn
  cases dueDocuments fields t.documents <;> simp

theorem Template.generateIn_of_isFirstFailure (t : Template) {defect : Defect}
    (h : IsFirstFailure fields t.documents defect) :
    t.generateIn render fields directory scene = (.error defect, scene) := by
  rw [generateIn, dueDocuments_eq_error_iff.mpr h]

end Stateful

/-- A run of a template fails with the first of its conditions that fails. -/
theorem Template.generate_eq_error_iff {t : Template} {renderer : Renderer} {directory : String}
    {disk : Disk} {defect : Defect} :
    t.generate renderer fields directory disk = .error defect ↔
      IsFirstFailure fields t.documents defect := by
  rw [← dueDocuments_eq_error_iff, Template.generate, bind_eq_error_iff]
  refine or_iff_left ?_
  rintro ⟨due, -, h⟩
  cases h

/-- A document whose condition reads a field without a value makes no difference to a run. -/
theorem Template.generate_of_undefined {t : Template} {renderer : Renderer} {directory : String}
    {disk : Disk} {before after : List Document} {n : String}
    (hdocuments : t.documents = before ++ d :: after)
    (h : d.conditions.eval fields = .error (.undefinedField n)) :
    t.generate renderer fields directory disk =
      ({ t with documents := before ++ after } : Template).generate renderer fields directory
        disk := by
  rw [Template.generate, Template.generate, hdocuments, dueDocuments_of_undefined h]

/-! ## Failing runs -/

/--
A run fails if and only if the condition of some document fails for another reason than the want of
a field. The failure is that of the first such document, under its name. Then the scene is as it was
before the run, whatever state the renderer keeps and whatever documents come before. A document
whose condition fails for want of a field leaves the run as it would be without it.
-/
theorem generate_fails_atomically (t : Template) (fields : Fields) (directory : String) :
    (∀ (renderer : Renderer) (disk : Disk) (defect : Defect),
      t.generate renderer fields directory disk = .error defect ↔
        IsFirstFailure fields t.documents defect) ∧
    ((∃ defect, IsFirstFailure fields t.documents defect) ↔
      ∃ d ∈ t.documents, ∃ cause, d.FailsWith fields cause) ∧
    (∀ (σ : Type) (render : StatefulRenderer σ) (scene : Scene σ),
      (∀ defect, (t.generateIn render fields directory scene).1 = .error defect ↔
        IsFirstFailure fields t.documents defect) ∧
      (∀ defect, IsFirstFailure fields t.documents defect →
        t.generateIn render fields directory scene = (.error defect, scene)) ∧
      ∀ renderer, Imitates render renderer →
        t.generate renderer fields directory scene.disk =
          (t.generateIn render fields directory scene).1.map fun r =>
            (r, (t.generateIn render fields directory scene).2.disk)) ∧
    ∀ before d after n, t.documents = before ++ d :: after →
      d.conditions.eval fields = .error (.undefinedField n) →
        (∀ cause, ¬ d.FailsWith fields cause) ∧
        ∀ (renderer : Renderer) (disk : Disk),
          t.generate renderer fields directory disk =
            ({ t with documents := before ++ after } : Template).generate renderer fields directory
              disk := by
  refine ⟨fun renderer disk defect => Template.generate_eq_error_iff, exists_isFirstFailure_iff,
    fun σ render scene => ?_, fun before d after n hdocuments hundefined => ?_⟩
  · exact ⟨fun defect => t.generateIn_eq_error_iff,
      fun defect hfails => t.generateIn_of_isFirstFailure hfails,
      fun renderer himitates => t.generateIn_eq himitates⟩
  · exact ⟨Document.not_failsWith_of_isDue (Document.isDue_of_undefined hundefined),
      fun renderer disk => Template.generate_of_undefined hdocuments hundefined⟩

/-- A renderer that keeps documents as they are and counts its calls. -/
def counting : StatefulRenderer Nat := fun payload _ _ calls => (.ok payload, calls + 1)

/-- The letters, and a receipt whose condition looks for the first item of a text. -/
def receiptDefinition : Definition :=
  { lettersDefinition with
    documents := lettersDefinition.documents ++
      [{ name := "receipt", outFile := "client",
         conditions := some (.object [("arr", .object [("name", .text "client"),
           ("op", .text "field")]), ("op", .text "index"), ("pos", .number (.natural 0))]) }] }

/-- The letters and the receipt with their payloads. -/
def lettersWithReceipt : Template :=
  { letters with
    documents := letters.documents ++
      [{ name := "receipt", outFile := "client", conditions := .index (.field "client") 0,
         contents := some ⟨#[81]⟩ }] }

/-- Names for letters when it is not known whether the bill is overdue. -/
def undecidedFields : Fields := Dict.ofList [("client", .text "Acme"), ("project", .text "Tower")]

/-- The offer and the bill are due, but for the receipt neither is filled or written. -/
theorem lettersWithReceipt_fails :
    (∃ t, Template.ofDefinition receiptDefinition = .ok t ∧
      t.loaded? lettersStore = .ok lettersWithReceipt) ∧
    lettersWithReceipt.generateIn counting undecidedFields "out" ⟨0, lettersDisk⟩ =
        (.error (.condition "receipt" (.typeMismatch "index" .list .text)), ⟨0, lettersDisk⟩) ∧
      lettersWithReceipt.generate copying undecidedFields "out" lettersDisk =
        .error (.condition "receipt" (.typeMismatch "index" .list .text)) ∧
      lettersWithReceipt.generate copying undecidedFields "out" lettersDisk =
        ({ lettersWithReceipt with
            documents := letters.documents.take 2 ++ lettersWithReceipt.documents.drop 3 }
          : Template).generate copying undecidedFields "out" lettersDisk := by
  obtain ⟨hfails, -, hstateful, hundefined⟩ :=
    generate_fails_atomically lettersWithReceipt undecidedFields "out"
  have hfirst : IsFirstFailure undecidedFields lettersWithReceipt.documents
      (.condition "receipt" (.typeMismatch "index" .list .text)) :=
    dueDocuments_eq_error_iff.mp (by with_unfolding_all rfl)
  refine ⟨⟨_, rfl, rfl⟩, (hstateful Nat counting ⟨0, lettersDisk⟩).2.1 _ hfirst,
    (hfails _ _ _).mpr hfirst, ?_⟩
  exact (hundefined _ letters.documents[2] _ "overdue" rfl (by with_unfolding_all rfl)).2 _ _

end Paperwork
