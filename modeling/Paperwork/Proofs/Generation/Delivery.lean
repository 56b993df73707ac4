import Paperwork.Generation
import Paperwork.Proofs.Disk.Writing
import Paperwork.Proofs.Outcome
import Paperwork.Template.Build
import Paperwork.Template.Payload

/-!
# What documents leave on a disk

A document that is generated leaves one file below the directory, and one that fails leaves the disk
as it is (`generate_cases`). Since no such file changes where other names of the directory lead to,
generating documents in turn gives each of them the outcome that it has on the disk before all of
them, adds these outcomes to the report and puts the files on the disk in turn (`generateAll_eq`). A
report lists files and failures in the order in which they come, and its count is kept in step
(`IsCounted.recordAll`).
-/

namespace Paperwork

namespace Document

variable {renderer : Renderer} {fields : Fields} {directory : String} {disk disk' : Disk}
  {d : Document}

/-! ## Names of files -/

theorem fileName_of_text {s : String} (h : fields.get? d.outFile = some (.text s)) :
    d.fileName fields = match Path.fileName? s with
      | some base => .ok (base ++ ".docx")
      | none => .error .empty := by
  cases hname : Path.fileName? s <;> simp only [fileName, h, hname]

/-- An extension makes no name lead elsewhere. -/
theorem isFileName_append_docx {base : String} (h : Path.IsFileName base) :
    Path.IsFileName (base ++ ".docx") := by
  have hlong : ∀ short : String, short.length < 5 → base ++ ".docx" ≠ short := by
    rintro _ hshort rfl
    have hdocx : (".docx" : String).length = 5 := rfl
    rw [String.length_append, hdocx] at hshort
    omega
  refine ⟨⟨hlong "" (by decide), hlong "." (by decide)⟩, hlong ".." (by decide), ?_⟩
  rw [String.toList_append, List.mem_append, not_or]
  exact ⟨h.not_slash, by decide⟩

/-- The name of a file is that of something below a directory, with an extension. -/
theorem exists_base_of_fileName {name : String} (h : d.fileName fields = .ok name) :
    ∃ base, Path.IsFileName base ∧ name = base ++ ".docx" := by
  unfold fileName at h
  split at h
  · cases h
  · split at h
    · rename_i base hbase
      cases h
      exact ⟨base, Path.isFileName_of_fileName? hbase, rfl⟩
    · cases h
  · cases h

theorem isFileName_of_fileName {name : String} (h : d.fileName fields = .ok name) :
    Path.IsFileName name := by
  obtain ⟨base, hbase, rfl⟩ := exists_base_of_fileName h
  exact isFileName_append_docx hbase

/-! ## One document -/

/-- The file that a document leaves below a directory: its location and its bytes. -/
def delivery? (renderer : Renderer) (fields : Fields) (directory : String) (disk : Disk)
    (d : Document) : Option (Location × ByteArray) :=
  match d.fileName fields, d.fill renderer fields with
  | .ok filename, .ok bytes =>
    match disk.target (Path.join directory filename) with
    | .ok place => some (place, bytes)
    | .error _ => none
  | _, _ => none

/-- A file of a document: its name, its bytes, and the location that its path leads to. -/
structure Delivers (renderer : Renderer) (fields : Fields) (directory : String) (disk : Disk)
    (d : Document) (filename : String) (place : Location) (bytes : ByteArray) : Prop where
  fileName_eq : d.fileName fields = .ok filename
  fill_eq : d.fill renderer fields = .ok bytes
  target_eq : disk.target (Path.join directory filename) = .ok place

/-- A document leaves one file, or it fails and leaves nothing. -/
theorem generate_cases (renderer : Renderer) (fields : Fields) (directory : String) (disk : Disk)
    (d : Document) :
    (∃ filename place bytes, d.Delivers renderer fields directory disk filename place bytes ∧
      d.delivery? renderer fields directory disk = some (place, bytes) ∧
      d.generate renderer fields directory disk =
        (.ok ⟨Path.join directory filename, filename⟩, disk.put place (.file bytes))) ∨
    ∃ failure, d.delivery? renderer fields directory disk = none ∧
      d.generate renderer fields directory disk = (.error failure, disk) := by
  cases hname : d.fileName fields with
  | error fault =>
    exact .inr ⟨_, by rw [delivery?, hname], by rw [generate, hname]⟩
  | ok filename =>
    cases hfill : d.fill renderer fields with
    | error e =>
      refine .inr ⟨⟨filename, e⟩, by rw [delivery?, hname, hfill], ?_⟩
      rw [generate, hname]
      simp only [writeTo, hfill]
      rfl
    | ok bytes =>
      cases htarget : disk.target (Path.join directory filename) with
      | error cause =>
        refine .inr ⟨⟨filename, .write (Path.join directory filename) cause⟩, ?_, ?_⟩
        · simp only [delivery?, hname, hfill, htarget]
        · rw [generate, hname]
          simp only [writeTo, hfill, Disk.write, htarget]
          rfl
      | ok place =>
        refine .inl ⟨filename, place, bytes, ⟨hname, hfill, htarget⟩, ?_, ?_⟩
        · simp only [delivery?, hname, hfill, htarget]
        · rw [generate, hname]
          simp only [writeTo, hfill, Disk.write, htarget]
          rfl

/-- A document that is generated leaves its paths of other names where they lead to. -/
theorem sameTargets_generate :
    Disk.SameTargets directory disk (d.generate renderer fields directory disk).2 := by
  rcases generate_cases renderer fields directory disk d with
    ⟨filename, place, bytes, hdelivers, -, heq⟩ | ⟨failure, -, heq⟩
  · rw [heq]
    exact Disk.sameTargets_put (isFileName_of_fileName hdelivers.fileName_eq)
      hdelivers.target_eq bytes
  · rw [heq]
    exact .refl directory disk

/-- What becomes of a document depends on where the paths below the directory lead to. -/
theorem generate_congr (h : Disk.SameTargets directory disk disk') :
    (d.generate renderer fields directory disk').1 = (d.generate renderer fields directory disk).1 ∧
      d.delivery? renderer fields directory disk' = d.delivery? renderer fields directory disk := by
  cases hname : d.fileName fields with
  | error fault => simp only [generate, delivery?, hname, and_self]
  | ok filename =>
    have htarget := h filename (isFileName_of_fileName hname)
    cases hfill : d.fill renderer fields with
    | error e =>
      simp only [generate, delivery?, hname, writeTo, hfill, and_true]
      rfl
    | ok bytes =>
      simp only [generate, delivery?, hname, writeTo, hfill, Disk.write, htarget, and_true]
      cases disk.target (Path.join directory filename) <;> rfl

/-- The disk after a document has its file in addition. -/
theorem generate_snd :
    (d.generate renderer fields directory disk).2 =
      disk.putFiles (d.delivery? renderer fields directory disk).toList := by
  rcases generate_cases renderer fields directory disk d with
    ⟨filename, place, bytes, -, hdelivery, heq⟩ | ⟨failure, hdelivery, heq⟩
  · rw [heq, hdelivery]
    rfl
  · rw [heq, hdelivery]
    rfl

/-- A document that leaves a file is reported as generated. -/
theorem delivers_of_delivery? {file : Location × ByteArray}
    (h : d.delivery? renderer fields directory disk = some file) :
    ∃ filename, d.Delivers renderer fields directory disk filename file.1 file.2 ∧
      (d.generate renderer fields directory disk).1 =
        .ok ⟨Path.join directory filename, filename⟩ := by
  rcases generate_cases renderer fields directory disk d with
    ⟨filename, place, bytes, hdelivers, hdelivery, heq⟩ | ⟨failure, hdelivery, -⟩
  · rw [hdelivery] at h
    cases h
    exact ⟨filename, hdelivers, by rw [heq]⟩
  · rw [hdelivery] at h
    cases h

/-- A generated document has delivered its file. -/
theorem delivers_of_generate {f : GeneratedFile}
    (h : (d.generate renderer fields directory disk).1 = .ok f) :
    ∃ place bytes, d.Delivers renderer fields directory disk f.filename place bytes ∧
      d.delivery? renderer fields directory disk = some (place, bytes) ∧
      f.path = Path.join directory f.filename := by
  rcases generate_cases renderer fields directory disk d with
    ⟨filename, place, bytes, hdelivers, hdelivery, heq⟩ | ⟨failure, -, heq⟩
  · rw [heq] at h
    cases h
    exact ⟨place, bytes, hdelivers, hdelivery, rfl⟩
  · rw [heq] at h
    cases h

end Document

/-! ## Reports -/

namespace GenerationReport

variable {r : GenerationReport} {f : GeneratedFile} {os : List Outcome}

/-- The failure of an outcome. -/
def failure? : Outcome → Option DocumentFailure
  | .ok _ => none
  | .error e => some e

/-- A report with outcomes added in turn. -/
def recordAll (r : GenerationReport) (os : List Outcome) : GenerationReport := os.foldl record r

/-- The report of outcomes. -/
def ofOutcomes (os : List Outcome) : GenerationReport := blank.recordAll os

theorem recordAll_cons (o : Outcome) : r.recordAll (o :: os) = (r.record o).recordAll os := rfl

theorem files_recordAll : (r.recordAll os).files = r.files ++ os.filterMap Except.toOption := by
  induction os generalizing r with
  | nil => exact (List.append_nil _).symm
  | cons o rest ih =>
    rw [recordAll_cons, ih]
    cases o with
    | ok f => exact List.append_assoc r.files [f] _
    | error e => rfl

theorem failures_recordAll : (r.recordAll os).failures = r.failures ++ os.filterMap failure? := by
  induction os generalizing r with
  | nil => exact (List.append_nil _).symm
  | cons o rest ih =>
    rw [recordAll_cons, ih]
    cases o with
    | ok f => rfl
    | error e => exact List.append_assoc r.failures [e] _

theorem files_ofOutcomes : (ofOutcomes os).files = os.filterMap Except.toOption := files_recordAll

theorem failures_ofOutcomes : (ofOutcomes os).failures = os.filterMap failure? := failures_recordAll

theorem mem_files_ofOutcomes : f ∈ (ofOutcomes os).files ↔ .ok f ∈ os := by
  simp only [files_ofOutcomes, List.mem_filterMap, toOption_eq_some_iff, exists_eq_right]

/-- The count of a report is that of its failures. -/
def IsCounted (r : GenerationReport) : Prop := r.errorCount = r.failures.length

theorem isCounted_blank : blank.IsCounted := rfl

theorem IsCounted.record (h : r.IsCounted) (o : Outcome) : (r.record o).IsCounted := by
  cases o with
  | ok f => exact h
  | error e =>
    show r.errorCount + 1 = (r.failures ++ [e]).length
    rw [h, List.length_append, List.length_singleton]

theorem IsCounted.recordAll (h : r.IsCounted) (os : List Outcome) : (r.recordAll os).IsCounted := by
  induction os generalizing r with
  | nil => exact h
  | cons o rest ih => exact ih (h.record o)

theorem isCounted_ofOutcomes (os : List Outcome) : (ofOutcomes os).IsCounted :=
  isCounted_blank.recordAll os

end GenerationReport

/-! ## Documents in turn -/

section

variable {renderer : Renderer} {fields : Fields} {directory : String} {disk disk' : Disk}
  {ds : List Document} {r : GenerationReport}

/-- The files that documents leave, each as it would be the first one. -/
def deliveries (renderer : Renderer) (fields : Fields) (directory : String) (disk : Disk)
    (ds : List Document) : List (Location × ByteArray) :=
  ds.filterMap (·.delivery? renderer fields directory disk)

/-- What becomes of documents, each as if it were the first one. -/
def outcomes (renderer : Renderer) (fields : Fields) (directory : String) (disk : Disk)
    (ds : List Document) : List Outcome :=
  ds.map fun d => (d.generate renderer fields directory disk).1

theorem deliveries_cons (d : Document) :
    deliveries renderer fields directory disk (d :: ds) =
      (d.delivery? renderer fields directory disk).toList ++
        deliveries renderer fields directory disk ds := by
  unfold deliveries
  cases hdelivery : d.delivery? renderer fields directory disk with
  | none => rw [List.filterMap_cons_none hdelivery, Option.toList_none, List.nil_append]
  | some file =>
    rw [List.filterMap_cons_some hdelivery, Option.toList_some, List.singleton_append]

theorem files_outcomes : (GenerationReport.ofOutcomes
      (outcomes renderer fields directory disk ds)).files =
    ds.filterMap fun d => (d.generate renderer fields directory disk).1.toOption := by
  rw [GenerationReport.files_ofOutcomes, outcomes, List.filterMap_map]
  rfl

theorem outcomes_congr (h : Disk.SameTargets directory disk disk') :
    outcomes renderer fields directory disk' ds = outcomes renderer fields directory disk ds :=
  List.map_congr_left fun _ _ => (Document.generate_congr h).1

theorem deliveries_congr (h : Disk.SameTargets directory disk disk') :
    deliveries renderer fields directory disk' ds = deliveries renderer fields directory disk ds :=
  List.filterMap_congr fun _ _ => (Document.generate_congr h).2

theorem generateAll_cons (d : Document) :
    generateAll renderer fields directory (d :: ds) r disk =
      generateAll renderer fields directory ds
        (r.record (d.generate renderer fields directory disk).1)
        (d.generate renderer fields directory disk).2 := rfl

/-- Generating in turn gives each document what it would get as the first one. -/
theorem generateAll_eq :
    generateAll renderer fields directory ds r disk =
      (r.recordAll (outcomes renderer fields directory disk ds),
        disk.putFiles (deliveries renderer fields directory disk ds)) := by
  induction ds generalizing r disk with
  | nil => rfl
  | cons d rest ih =>
    have hsame : Disk.SameTargets directory disk (d.generate renderer fields directory disk).2 :=
      Document.sameTargets_generate
    rw [generateAll_cons, ih, outcomes_congr hsame, deliveries_congr hsame, Document.generate_snd,
      deliveries_cons, Disk.putFiles_append]
    rfl

theorem mem_deliveries {file : Location × ByteArray} :
    file ∈ deliveries renderer fields directory disk ds ↔
      ∃ d ∈ ds, d.delivery? renderer fields directory disk = some file :=
  List.mem_filterMap

/-- Each file is left where the path leads to that it is reported at. -/
theorem forall₂_target_deliveries :
    List.Forall₂ (fun f file => disk.target f.path = .ok file.1)
      (GenerationReport.ofOutcomes (outcomes renderer fields directory disk ds)).files
      (deliveries renderer fields directory disk ds) := by
  rw [files_outcomes]
  induction ds with
  | nil => exact .nil
  | cons d rest ih =>
    rcases Document.generate_cases renderer fields directory disk d with
      ⟨filename, place, bytes, hdelivers, hdelivery, heq⟩ | ⟨failure, hdelivery, heq⟩
    · rw [deliveries_cons, hdelivery,
        List.filterMap_cons_some (b := ⟨Path.join directory filename, filename⟩)
          (by rw [heq]; rfl)]
      exact .cons hdelivers.target_eq ih
    · rw [deliveries_cons, hdelivery,
        List.filterMap_cons_none (by rw [heq]; rfl)]
      exact ih

/-- Every file is left where no directory stands. -/
theorem areFree_deliveries : disk.AreFree (deliveries renderer fields directory disk ds) := by
  intro file hfile
  obtain ⟨d, -, hdelivery⟩ := mem_deliveries.mp hfile
  obtain ⟨filename, hdelivers, -⟩ := Document.delivers_of_delivery? hdelivery
  obtain ⟨-, -, -, -, hfree⟩ := Disk.leads_of_target
    (Document.isFileName_of_fileName hdelivers.fileName_eq) hdelivers.target_eq
  exact hfree

/-- Documents that are generated in turn leave the paths below the directory alone. -/
theorem sameTargets_generateAll :
    Disk.SameTargets directory disk (generateAll renderer fields directory ds r disk).2 := by
  induction ds generalizing r disk with
  | nil => exact .refl directory disk
  | cons d rest ih => exact .trans Document.sameTargets_generate ih

end

/-! ## Conditions -/

/-- Whether the condition of a document holds. -/
def Document.isEmitted (fields : Fields) (d : Document) : Bool :=
  match d.conditions.eval fields with
  | .ok v => v.isTruthy
  | .error _ => false

theorem Document.isDue_eq_ok {fields : Fields} {d : Document} {due : Bool}
    (h : d.isDue fields = .ok due) : d.isEmitted fields = due := by
  unfold isDue at h
  unfold isEmitted
  split at h
  · rename_i v hv
    cases h
    rw [hv]
  · rename_i hundefined
    cases h
    rw [hundefined]
  · cases h

/-- The documents that are due are those whose conditions hold; no condition may fail. -/
theorem dueDocuments_eq_ok_iff {fields : Fields} {ds due : List Document} :
    dueDocuments fields ds = .ok due ↔
      (∀ d ∈ ds, d.isDue fields = .ok (d.isEmitted fields)) ∧
        ds.filter (·.isEmitted fields) = due := by
  induction ds generalizing due with
  | nil => simp [dueDocuments]
  | cons d rest ih =>
    rw [dueDocuments, List.forall_mem_cons]
    cases hdue : d.isDue fields with
    | error cause => simp
    | ok emitted =>
      have hemitted := Document.isDue_eq_ok hdue
      simp only [bind_eq_ok_iff, pure_eq_ok_iff, ih, hemitted, true_and]
      constructor
      · rintro ⟨others, ⟨hrest, rfl⟩, rfl⟩
        refine ⟨hrest, ?_⟩
        cases emitted <;> simp [hemitted]
      · rintro ⟨hrest, rfl⟩
        refine ⟨_, ⟨hrest, rfl⟩, ?_⟩
        cases emitted <;> simp [hemitted]

theorem mem_of_dueDocuments {fields : Fields} {ds due : List Document} {d : Document}
    (h : dueDocuments fields ds = .ok due) (hd : d ∈ due) : d ∈ ds := by
  obtain ⟨-, rfl⟩ := dueDocuments_eq_ok_iff.mp h
  exact List.mem_of_mem_filter hd

/-- A run of a template generates its due documents in turn. -/
theorem Template.generate_eq_ok_iff {t : Template} {renderer : Renderer} {fields : Fields}
    {directory : String} {disk after : Disk} {r : GenerationReport} :
    t.generate renderer fields directory disk = .ok (r, after) ↔
      ∃ due, dueDocuments fields t.documents = .ok due ∧
        r = .ofOutcomes (outcomes renderer fields directory disk due) ∧
        after = disk.putFiles (deliveries renderer fields directory disk due) := by
  simp only [Template.generate, bind_eq_ok_iff, pure_eq_ok_iff, generateAll_eq, Prod.mk.injEq,
    GenerationReport.ofOutcomes]
  constructor
  · rintro ⟨due, hdue, rfl, rfl⟩
    exact ⟨due, hdue, rfl, rfl⟩
  · rintro ⟨due, hdue, rfl, rfl⟩
    exact ⟨due, hdue, rfl, rfl⟩

/-! ## Letters -/

/-- A way to fill a document that keeps it as it is. -/
def copying : Renderer := fun payload _ _ => .ok payload

/-- An offer, a bill, and a reminder if the bill is overdue. -/
def lettersDefinition : Definition where
  name := "letters"
  fields := [.field { name := "client" }, .field { name := "project" },
    .field { name := "overdue", kind := .boolean }]
  documents := [{ name := "offer", outFile := "client" }, { name := "bill", outFile := "project" },
    { name := "reminder", outFile := "project",
      conditions := some (.object [("name", .text "overdue"), ("op", .text "field")]) }]

/-- The payloads of letters. -/
def lettersStore (name : String) : Except String ByteArray :=
  match [("offer", 79), ("bill", 66), ("reminder", 82), ("receipt", 81)].lookup name with
  | some b => .ok ⟨#[b]⟩
  | none => .error name

/-- The letters with their payloads. -/
def letters : Template where
  name := "letters"
  layout := [.field "client", .field "project", .field "overdue"]
  fields := [⟨"client", "client", none, .string, [], .text "", true, none, none, none⟩,
    ⟨"project", "project", none, .string, [], .text "", true, none, none, none⟩,
    ⟨"overdue", "overdue", none, .boolean, [], .flag false, true, none, none, none⟩]
  derived := []
  documents := [
    { name := "offer", outFile := "client", conditions := .literal (.flag true),
      contents := some ⟨#[79]⟩ },
    { name := "bill", outFile := "project", conditions := .literal (.flag true),
      contents := some ⟨#[66]⟩ },
    { name := "reminder", outFile := "project", conditions := .field "overdue",
      contents := some ⟨#[82]⟩ }]

theorem letters_are_loaded : ∃ t, Template.ofDefinition lettersDefinition = .ok t ∧
    t.loaded? lettersStore = .ok letters := ⟨_, rfl, rfl⟩

/-- A disk with a directory for letters. -/
def lettersDisk : Disk := ⟨[(["out"], .directory)], []⟩

/-- Names for the letters about a tower. -/
def towerFields : Fields := Dict.ofList
  [("client", .text "Acme"), ("project", .text "../2026/Tower/."), ("overdue", .flag false)]

/-- The report of the letters about a tower. -/
def towerReport : GenerationReport :=
  ⟨[⟨"out/Acme.docx", "Acme.docx"⟩, ⟨"out/Tower.docx", "Tower.docx"⟩], [], 0⟩

/-- The disk with the letters about a tower. -/
def towerDisk : Disk := lettersDisk.putFiles
  [(["out", "Acme.docx"], ⟨#[79]⟩), (["out", "Tower.docx"], ⟨#[66]⟩)]

theorem generate_tower :
    letters.generate copying towerFields "out" lettersDisk = .ok (towerReport, towerDisk) := by
  with_unfolding_all rfl

end Paperwork
