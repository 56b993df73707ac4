import Paperwork.Command.Run
import Paperwork.Proofs.Generation.Overwriting
import Paperwork.Proofs.Session.Agreement

/-!
# Rows of a batch

What a row of a batch leads to is what it leads to on its own (`Batch.Treats`), because the files of
the rows before it do not change where the paths of its own files lead to (`treats_turn`). So a row
with rejected fields or failing documents does not affect the rows after it
(`runBatch_treats_rows`). A record that is no row ends the batch, and so does a row with an
expression that fails: then no later row is treated, and the failure is that of the record alone
(`defective_row_ends_batch`).
-/

namespace Paperwork

open Disk

variable {t : Template} {directory : String} {start disk : Disk} {input : Json}
  {columns : List String}

/-! ## One run on two disks -/

/-- A file is put where the path leads to that it is reported at. -/
def IsPutAt (disk : Disk) (f : GeneratedFile) (file : Location × ByteArray) : Prop :=
  disk.target f.path = .ok file.1

/-- A run of a template on a disk with the same paths puts the same files on it. -/
theorem Template.generate_congr {renderer : Renderer} {fields : Fields}
    (h : SameTargets directory start disk) :
    (∃ g files, t.generate renderer fields directory start = .ok (g, start.putFiles files) ∧
      List.Forall₂ (IsPutAt start) g.files files ∧
      t.generate renderer fields directory disk = .ok (g, disk.putFiles files)) ∨
    ∃ defect, t.generate renderer fields directory start = .error defect ∧
      t.generate renderer fields directory disk = .error defect := by
  cases hdue : dueDocuments fields t.documents with
  | error defect =>
    right
    refine ⟨defect, ?_, ?_⟩
    · rw [generate, hdue]
      rfl
    · rw [generate, hdue]
      rfl
  | ok due =>
    left
    refine ⟨.ofOutcomes (outcomes renderer fields directory start due),
      deliveries renderer fields directory start due, ?_, forall₂_target_deliveries, ?_⟩
    · exact generate_eq_ok_iff.mpr ⟨due, hdue, rfl, rfl⟩
    · exact generate_eq_ok_iff.mpr
        ⟨due, hdue, by rw [outcomes_congr h], by rw [deliveries_congr h]⟩

namespace Batch

/-! ## One row -/

/-- What the input of a row leads to on its own, and the files that it leaves. -/
inductive Treats (t : Template) (directory : String) (start : Disk) (input : Json) :
    Except Defect SessionOutcome → List (Location × ByteArray) → Prop
  | rejected {r : Report} (evaluates : t.evaluate input = .ok r) (rejects : r.errorCount ≠ 0) :
      Treats t directory start input (.ok ⟨r, none⟩) []
  | generated {r : Report} {g : GenerationReport} {files : List (Location × ByteArray)}
      (evaluates : t.evaluate input = .ok r) (accepts : r.errorCount = 0)
      (generates : t.generate Word.render r.fields directory start =
        .ok (g, start.putFiles files)) (puts : List.Forall₂ (IsPutAt start) g.files files) :
      Treats t directory start input (.ok ⟨r, some g⟩) files
  | underived {defect : Defect} (fails : t.evaluate input = .error defect) :
      Treats t directory start input (.error defect) []
  | undecided {r : Report} {defect : Defect} (evaluates : t.evaluate input = .ok r)
      (accepts : r.errorCount = 0)
      (fails : t.generate Word.render r.fields directory start = .error defect) :
      Treats t directory start input (.error defect) []

/-- The session of a batch. -/
def session (t : Template) : Session := ⟨.strict, Word.render, some t⟩

theorem Treats.unique {a b : Except Defect SessionOutcome}
    {files files' : List (Location × ByteArray)} (h : Treats t directory start input a files)
    (h' : Treats t directory start input b files') :
    a = b := by
  cases h <;> cases h' <;> simp_all

/-- A row after others is treated as it is on its own. -/
theorem treats_turn (h : SameTargets directory start disk) (input : Json) :
    (∃ o files, Treats t directory start input (.ok o) files ∧
      SameTargets directory start (disk.putFiles files) ∧
      (session t).evaluateAndGenerate disk input directory =
        ⟨session t, disk.putFiles files, .ok o⟩) ∨
    ∃ defect, Treats t directory start input (.error defect) [] ∧
      (session t).evaluateAndGenerate disk input directory =
        ⟨session t, disk, .error (.evaluation defect)⟩ := by
  have hcurrent : (session t).current = .ok t := rfl
  unfold Session.evaluateAndGenerate
  rw [hcurrent]
  dsimp only
  cases hreport : t.evaluate input with
  | error defect => exact .inr ⟨defect, .underived hreport, rfl⟩
  | ok r =>
    dsimp only
    by_cases hvalid : r.errorCount = 0
    · have hpermits : (session t).policy.permits r = true := Policy.permits_iff.mpr (.inr hvalid)
      have hrenderer : (session t).renderer = Word.render := rfl
      rw [if_pos hpermits, Session.generateWith, hrenderer]
      rcases Template.generate_congr h with ⟨g, files, halone, hputs, hnow⟩ |
        ⟨defect, halone, hnow⟩
      · rw [hnow]
        exact .inl ⟨⟨r, some g⟩, files, .generated hreport hvalid halone hputs,
          h.trans (sameTargets_of_generate hnow), rfl⟩
      · rw [hnow]
        exact .inr ⟨defect, .undecided hreport hvalid halone, rfl⟩
    · have hpermits : (session t).policy.permits r = false :=
        Policy.not_permits_iff.mpr ⟨rfl, hvalid⟩
      rw [if_neg (by simp [hpermits])]
      exact .inl ⟨⟨r, none⟩, [], .rejected hreport hvalid, h, rfl⟩

/-! ## Rows in turn -/

/-- A record that ends a batch. -/
inductive Ends (t : Template) (directory : String) (start : Disk) (columns : List String) :
    Except Csv.Fault (List String) → BatchStop → Prop
  | unreadable (cause : Csv.Fault) :
      Ends t directory start columns (.error cause) (.record cause)
  | defective {cells : List String} {defect : Defect}
      (h : Treats t directory start (inputOf columns cells) (.error defect) []) :
      Ends t directory start columns (.ok cells) (.session (.evaluation defect))

/-- A row that was treated, and the files that it left. -/
structure TreatedRow extends RowOutcome where
  files : List (Location × ByteArray)

/-- A row led to what its cells lead to on their own. -/
def IsTreated (t : Template) (directory : String) (start : Disk) (columns cells : List String)
    (row : TreatedRow) : Prop :=
  Treats t directory start (inputOf columns cells) (.ok row.outcome) row.files

/-- Rows are treated as they are on their own, up to the first record that ends the batch. -/
theorem treat_treats (h : SameTargets directory start disk) (columns : List String)
    (number : Nat) (records : List (Except Csv.Fault (List String))) :
    ∃ done rest rows, records = done.map .ok ++ rest ∧
      List.Forall₂ (IsTreated t directory start columns) done rows ∧
      rows.map (·.number) = List.range' number done.length ∧
      (treat (session t) directory columns number disk records).rows = rows.map (·.toRowOutcome) ∧
      (treat (session t) directory columns number disk records).disk =
        disk.putFiles (rows.flatMap (·.files)) ∧
      (rest = [] ∧ (treat (session t) directory columns number disk records).stop = none ∨
        ∃ record later stop, rest = record :: later ∧
          Ends t directory start columns record stop ∧
          (treat (session t) directory columns number disk records).stop = some stop) := by
  -- all the rest needs of the disk is that paths below the directory lead where they led at first
  induction records generalizing number disk with
  | nil => exact ⟨[], [], [], rfl, .nil, rfl, rfl, rfl, .inl ⟨rfl, rfl⟩⟩
  | cons record others ih =>
    cases record with
    | error cause =>
      exact ⟨[], .error cause :: others, [], rfl, .nil, rfl, rfl, rfl,
        .inr ⟨.error cause, others, _, rfl, .unreadable cause, rfl⟩⟩
    | ok cells =>
      unfold treat
      rcases treats_turn (t := t) h (inputOf columns cells) with
        ⟨o, files, htreats, hnext, hturn⟩ | ⟨defect, htreats, hturn⟩
      · obtain ⟨done, rest, rows, hrecords, htreated, hnumbers, hrows, hdisk, hstop⟩ :=
          ih hnext (number + 1)
        rw [hturn]
        refine ⟨cells :: done, rest, ⟨⟨number, o⟩, files⟩ :: rows, ?_, .cons htreats htreated,
          ?_, ?_, ?_, hstop⟩
        · rw [hrecords]
          rfl
        · rw [List.map_cons, hnumbers]
          rfl
        · rw [List.map_cons, ← hrows]
        · rw [List.flatMap_cons, putFiles_append, ← hdisk]
      · rw [hturn]
        exact ⟨[], .ok cells :: others, [], rfl, .nil, rfl, rfl, rfl,
          .inr ⟨.ok cells, others, _, rfl, .defective htreats, rfl⟩⟩

/-- A record that is a row without rejected fields, all of whose documents are generated. -/
def Succeeds (t : Template) (directory : String) (start : Disk) (columns : List String)
    (record : Except Csv.Fault (List String)) : Prop :=
  ∃ cells r g files, record = .ok cells ∧
    Treats t directory start (inputOf columns cells) (.ok ⟨r, some g⟩) files ∧ g.errorCount = 0

theorem Ends.not_succeeds {record : Except Csv.Fault (List String)} {stop : BatchStop}
    (h : Ends t directory start columns record stop) :
    ¬ Succeeds t directory start columns record := by
  rintro ⟨cells, r, g, files, hrecord, htreats, -⟩
  cases h with
  | unreadable cause => cases hrecord
  | defective hfails =>
    obtain rfl := Except.ok.inj hrecord
    cases htreats.unique hfails

theorem IsTreated.succeeds_iff {cells : List String} {row : TreatedRow}
    (h : IsTreated t directory start columns cells row) :
    Succeeds t directory start columns (.ok cells) ↔ row.isFailed = false := by
  constructor
  · rintro ⟨cells', r, g, files', hcells, htreats, hcount⟩
    obtain rfl := Except.ok.inj hcells
    have houtcome := Except.ok.inj (Treats.unique h htreats)
    rw [RowOutcome.isFailed, houtcome]
    simp [hcount]
  · intro hrow
    rw [RowOutcome.isFailed] at hrow
    split at hrow
    · cases hrow
    · rename_i g hg
      refine ⟨cells, row.outcome.evaluation, g, row.files, rfl, ?_, by simpa using hrow⟩
      rwa [← hg]

theorem forall_succeeds_iff {done : List (List String)} {rows : List TreatedRow}
    (h : List.Forall₂ (IsTreated t directory start columns) done rows) :
    (∀ cells ∈ done, Succeeds t directory start columns (.ok cells)) ↔
      ∀ row ∈ rows, row.isFailed = false := by
  induction h with
  | nil => simp
  | cons htreats _ ih => rw [List.forall_mem_cons, List.forall_mem_cons, ih, htreats.succeeds_iff]

theorem failedCount_eq_zero_iff {b : Batch} :
    b.failedCount = 0 ↔ ∀ row ∈ b.rows, row.isFailed = false := by
  rw [failedCount, List.length_eq_zero_iff, List.filter_eq_nil_iff]
  simp

end Batch

/-- There is a line about every row, and it starts with the label of the row. -/
theorem RowOutcome.lines_eq_cons (row : RowOutcome) :
    ∃ text others, row.lines = (row.label ++ text) :: others := by
  rw [lines]
  split
  · refine ⟨"invalid (" ++ "; ".intercalate
      (row.outcome.evaluation.messages.map fun m => m.1 ++ ": " ++ m.2) ++ ")", [], ?_⟩
    simp only [String.append_assoc]
  · exact ⟨_, _, by rw [String.append_assoc]⟩

/-! ## The command -/

namespace Command

open Batch

variable {disk : Disk} {usual asked : Option String} {template path : String} {bytes : ByteArray}
  {sheet : Sheet}

/-- The failure that ends a batch. -/
def stopFailure : BatchStop → CommandError
  | .record cause => .sheet cause
  | .session cause => .session cause

theorem openSession_of_ofPath (h : Package.ofPath disk template = .ok t) :
    openSession disk template .strict = .ok (Batch.session t) := by
  rw [openSession, Session.loadPackage, h]
  rfl

theorem runBatch_eq (htemplate : Package.ofPath disk template = .ok t)
    (hdirectory : openDirectory disk asked usual = .ok (directory, start))
    (hread : start.read path = .ok bytes) (hsheet : Sheet.ofBytes bytes = .ok sheet) :
    runBatch disk usual template path asked =
      let b := Batch.ofSheet (Batch.session t) start sheet directory
      ⟨b.lines, b.disk, batchFailure b⟩ := by
  unfold runBatch
  rw [openSession_of_ofPath htemplate, hdirectory]
  dsimp only [bind, Except.bind, pure, Except.pure]
  rw [hread]
  dsimp only [Except.mapError]
  rw [hsheet]

/--
A batch treats the rows of its sheet in their order, all of them or those up to the first record
that ends the batch. Every row that is treated leads to what it leads to on its own, whatever the
rows before it led to; there is a line about it, and the files of all these rows are put on the
disk in turn. A record that ends the batch is no row, or a row with an expression that fails. The
batch succeeds exactly if all records are rows without rejected fields and without failures.
-/
theorem runBatch_treats_rows (htemplate : Package.ofPath disk template = .ok t)
    (hdirectory : openDirectory disk asked usual = .ok (directory, start))
    (hread : start.read path = .ok bytes) (hsheet : Sheet.ofBytes bytes = .ok sheet) :
    ∃ done rest rows, sheet.rows = done.map .ok ++ rest ∧
      List.Forall₂ (IsTreated t directory start sheet.columns) done rows ∧
      rows.map (·.number) = List.range' 1 done.length ∧
      (runBatch disk usual template path asked).printed = rows.flatMap (·.lines) ∧
      (∀ row ∈ rows, ∃ text others, row.lines = (row.label ++ text) :: others) ∧
      (runBatch disk usual template path asked).disk = start.putFiles (rows.flatMap (·.files)) ∧
      (rest = [] ∨ ∃ record later stop, rest = record :: later ∧
        Ends t directory start sheet.columns record stop ∧
        (runBatch disk usual template path asked).failure = some (stopFailure stop)) ∧
      ((runBatch disk usual template path asked).failure = none ↔
        ∀ record ∈ sheet.rows, Succeeds t directory start sheet.columns record) := by
  obtain ⟨done, rest, rows, hrecords, htreated, hnumbers, hrows, hdisk, hstop⟩ :=
    treat_treats (t := t) (.refl directory start) sheet.columns 1 sheet.rows
  rw [runBatch_eq htemplate hdirectory hread hsheet]
  refine ⟨done, rest, rows, hrecords, htreated, hnumbers, ?_,
    fun row _ => row.lines_eq_cons, hdisk, ?_, ?_⟩
  · show Batch.lines _ = _
    rw [Batch.lines, Batch.ofSheet, hrows, List.flatMap_map]
  · rcases hstop with ⟨hrest, -⟩ | ⟨record, later, stop, hrest, hends, hstop⟩
    · exact .inl hrest
    · refine .inr ⟨record, later, stop, hrest, hends, ?_⟩
      show batchFailure _ = _
      rw [batchFailure, Batch.ofSheet, hstop]
      cases stop <;> rfl
  · show batchFailure _ = none ↔ _
    rw [batchFailure, Batch.ofSheet]
    rcases hstop with ⟨rfl, hstop⟩ | ⟨record, later, stop, rfl, hends, hstop⟩
    · have hall : (∀ record ∈ sheet.rows, Succeeds t directory start sheet.columns record) ↔
          ∀ row ∈ rows, row.isFailed = false := by
        rw [hrecords, List.append_nil, List.forall_mem_map, forall_succeeds_iff htreated]
      have hcount : (treat (session t) directory sheet.columns 1 start sheet.rows).failedCount = 0 ↔
          ∀ row ∈ rows, row.isFailed = false := by
        rw [failedCount_eq_zero_iff, hrows, List.forall_mem_map]
      rw [hstop, hall, ← hcount]
      simp
    · have hfails : ¬ ∀ record ∈ sheet.rows, Succeeds t directory start sheet.columns record :=
        fun hall => hends.not_succeeds (hall record (by simp [hrecords]))
      rw [hstop]
      cases stop <;> simp [hfails]

/-! ## Guests and codes -/

/-- A Word document without placeholders. -/
def letterPayload : ByteArray :=
  Archive.ofEntries [⟨"word/document.xml", .stored, "<w:t>letter</w:t>".toUTF8⟩]

/-- A disk with a package of one document and a sheet. -/
def batchDisk (definition sheet : String) : Disk where
  nodes := [
    (["work", "package"], .directory),
    (["work", "package", "template.json"], .file definition.toUTF8),
    (["work", "package", "letter"], .file letterPayload),
    (["work", "rows.csv"], .file sheet.toUTF8)]
  workDir := ["work"]

/-- The batch of the sheet. -/
def batchRun (definition sheet : String) : Run :=
  runBatch (batchDisk definition sheet) none "package" "rows.csv" (some "out")

/-- A letter for Ada only, under a file name that may be missing. -/
def guestsText : String :=
  "\x7b\"name\":\"guests\",\"fields\":[\x7b\"name\":\"name\"\x7d," ++
  "\x7b\"name\":\"file\",\"required\":false\x7d]," ++
  "\"documents\":[\x7b\"name\":\"letter\",\"outFile\":\"file\",\"conditions\":\x7b\"op\":\"eq\"," ++
  "\"left\":\x7b\"op\":\"field\",\"name\":\"name\"\x7d,\"right\":\"Ada\"\x7d\x7d]\x7d"

/-- A guest without a name, one whose letter fails, and one without a letter. -/
def guestsSheet : String := "name,file\n,\nAda,\nBob,\n"

theorem guests_are_treated :
    (batchRun guestsText guestsSheet).printed =
        ["row 1: invalid (name: Field name is required)", "row 2: generated ",
          "row 2: failed letter: output file name field `file` is empty", "row 3: generated "] ∧
      ∃ t start, ∃ sheet : Sheet, ∃ done rows,
        Package.ofPath (batchDisk guestsText guestsSheet) "package" = .ok t ∧
        sheet.rows = done.map .ok ∧ done = [["", ""], ["Ada", ""], ["Bob", ""]] ∧
        List.Forall₂ (IsTreated t "out" start sheet.columns) done rows ∧
        ¬ ∀ record ∈ sheet.rows, Succeeds t "out" start sheet.columns record := by
  have hrun : ((batchRun guestsText guestsSheet).printed,
      (batchRun guestsText guestsSheet).failure) =
      (["row 1: invalid (name: Field name is required)", "row 2: generated ",
        "row 2: failed letter: output file name field `file` is empty", "row 3: generated "],
        some (.complaint (.failedRows 2 3))) := by decide +kernel
  obtain ⟨hprinted, hfailure⟩ := Prod.mk.inj hrun
  have hloaded :
      (Package.ofPath (batchDisk guestsText guestsSheet) "package").toOption.isSome := by
    decide +kernel
  have hopened : ((openDirectory (batchDisk guestsText guestsSheet) (some "out")
      none).toOption.bind fun opened => (opened.2.read "rows.csv").toOption.bind fun bytes =>
        (Sheet.ofBytes bytes).toOption.map fun sheet =>
          (opened.1, sheet.rows.map Except.toOption)) =
      some ("out", [some ["", ""], some ["Ada", ""], some ["Bob", ""]]) := by decide +kernel
  obtain ⟨t, ht⟩ := Option.isSome_iff_exists.mp hloaded
  obtain ⟨⟨directory, start⟩, hdirectory, hopened⟩ := Option.bind_eq_some_iff.mp hopened
  obtain ⟨bytes, hread, hopened⟩ := Option.bind_eq_some_iff.mp hopened
  obtain ⟨sheet, hsheet, hopened⟩ := Option.map_eq_some_iff.mp hopened
  obtain ⟨rfl, hcells⟩ := Prod.mk.inj hopened
  rw [toOption_eq_some_iff] at ht hdirectory hread hsheet
  obtain ⟨done, rest, rows, hrecords, htreated, -, -, -, -, hstop, hsucceeds⟩ :=
    runBatch_treats_rows ht hdirectory hread hsheet
  obtain rfl : rest = [] := by
    rcases hstop with hrest | ⟨record, later, stop, -, -, hstop⟩
    · exact hrest
    · have hsame := hfailure.symm.trans hstop
      cases stop <;> cases hsame
  rw [List.append_nil] at hrecords
  have hdone : done = [["", ""], ["Ada", ""], ["Bob", ""]] := by
    rw [hrecords, List.map_map] at hcells
    exact List.map_injective_iff.mpr (fun _ _ => Option.some.inj) hcells
  refine ⟨hprinted, t, start, sheet, done, rows, ht, hrecords, hdone, htreated, fun hall => ?_⟩
  have hnone := hsucceeds.mpr hall
  exact absurd (hfailure.symm.trans hnone) (by simp)

/-- Letters under the second part of a code. -/
def codesText : String :=
  "\x7b\"name\":\"codes\",\"fields\":[\x7b\"name\":\"code\"\x7d],\"derived\":[" ++
  "\x7b\"name\":\"part\",\"expression\":\x7b\"op\":\"index\",\"arr\":\x7b\"op\":\"split\"," ++
  "\"arg\":\x7b\"op\":\"field\",\"name\":\"code\"\x7d,\"delimiter\":\"-\"\x7d," ++
  "\"pos\":1\x7d\x7d]," ++
  "\"documents\":[\x7b\"name\":\"letter\",\"outFile\":\"part\"\x7d]\x7d"

/-- A code without a second part, and one with it. -/
def codesSheet : String := "code\na\nb-c\n"

theorem defective_row_ends_batch :
    (Sheet.ofBytes codesSheet.toUTF8).toOption.map
        (fun sheet => (sheet.columns, sheet.rows.map Except.toOption)) =
        some (["code"], [some ["a"], some ["b-c"]]) ∧
      (∃ t r due, Package.ofPath (batchDisk codesText codesSheet) "package" = .ok t ∧
        t.evaluate (inputOf ["code"] ["b-c"]) = .ok r ∧ r.errorCount = 0 ∧
        dueDocuments r.fields t.documents = .ok due ∧ due.map (·.name) = ["letter"]) ∧
      (batchRun codesText codesSheet).printed = [] ∧
      (batchRun codesText codesSheet).disk.filesBelow ["work", "out"] = [] ∧
      (batchRun codesText codesSheet).failure =
        some (.session (.evaluation (.derived "part" (.indexOutOfRange 1 1)))) := by
  have hsecond : ((Package.ofPath (batchDisk codesText codesSheet) "package").toOption.bind
      fun t => (t.evaluate (inputOf ["code"] ["b-c"])).toOption.bind fun r =>
        (dueDocuments r.fields t.documents).toOption.map fun due =>
          (r.errorCount, due.map (·.name))) = some (0, ["letter"]) := by decide +kernel
  obtain ⟨t, ht, hsecond⟩ := Option.bind_eq_some_iff.mp hsecond
  obtain ⟨r, hr, hsecond⟩ := Option.bind_eq_some_iff.mp hsecond
  obtain ⟨due, hdue, hsecond⟩ := Option.map_eq_some_iff.mp hsecond
  obtain ⟨hcount, hnames⟩ := Prod.mk.inj hsecond
  rw [toOption_eq_some_iff] at ht hr hdue
  have hrun : ((batchRun codesText codesSheet).printed,
      (batchRun codesText codesSheet).disk.filesBelow ["work", "out"],
      (batchRun codesText codesSheet).failure) =
      ([], [], some (.session (.evaluation (.derived "part" (.indexOutOfRange 1 1))))) := by
    decide +kernel
  obtain ⟨hprinted, hrun⟩ := Prod.mk.inj hrun
  obtain ⟨hfiles, hfailure⟩ := Prod.mk.inj hrun
  exact ⟨by decide +kernel, ⟨t, r, due, ht, hr, hcount, hdue, hnames⟩, hprinted, hfiles, hfailure⟩

end Command

end Paperwork
