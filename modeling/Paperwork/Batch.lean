import Paperwork.Csv
import Paperwork.Session.Basic

/-!
# Batches

Every row of a sheet is an input, with the names of the columns as field names. Rows are treated in
their order. A rejected row or a failing document lets the next rows have their turn; a record that
is no row and a defect of the template end the batch.
-/

namespace Paperwork

/-- What became of a row. -/
structure RowOutcome where
  number : Nat
  outcome : SessionOutcome

/-- Why a batch ends before its last row. -/
inductive BatchStop where
  | record (cause : Csv.Fault)
  | session (cause : SessionError)
deriving DecidableEq, Repr

/-- A batch: the rows that were treated, the disk after them, and what ended it early. -/
structure Batch where
  rows : List RowOutcome
  disk : Disk
  stop : Option BatchStop

namespace RowOutcome

/-- Whether fields were rejected or a document failed. -/
def isFailed (r : RowOutcome) : Bool :=
  match r.outcome.generation with
  | none => true
  | some g => 0 < g.errorCount

/-- The start of a line about a row. -/
def label (r : RowOutcome) : String := "row " ++ toString r.number ++ ": "

/-- The lines about a row: its rejections, or its documents and then its failures. -/
def lines (r : RowOutcome) : List String :=
  match r.outcome.generation with
  | none =>
    let messages := r.outcome.evaluation.messages.map fun m => m.1 ++ ": " ++ m.2
    [r.label ++ "invalid (" ++ "; ".intercalate messages ++ ")"]
  | some g =>
    (r.label ++ "generated " ++ ", ".intercalate (g.files.map (·.filename)))
      :: g.failures.map fun e => r.label ++ "failed " ++ e.filename ++ ": " ++ e.error.message

end RowOutcome

namespace Batch

/-- A row as an input. Of two columns of one name the later counts. -/
def inputOf (columns cells : List String) : Json :=
  Json.objectOf ((columns.zip cells).map fun c => (c.1, .text c.2))

/-- Treats rows from a number on, each on the disk that the one before it left. -/
def treat (s : Session) (directory : String) (columns : List String) :
    Nat → Disk → List (Except Csv.Fault (List String)) → Batch
  | _, disk, [] => ⟨[], disk, none⟩
  | _, disk, .error cause :: _ => ⟨[], disk, some (.record cause)⟩
  | number, disk, .ok cells :: rest =>
    let turn := s.evaluateAndGenerate disk (inputOf columns cells) directory
    match turn.answer with
    | .error cause => ⟨[], turn.disk, some (.session cause)⟩
    | .ok outcome =>
      let others := treat s directory columns (number + 1) turn.disk rest
      { others with rows := ⟨number, outcome⟩ :: others.rows }

/-- Treats all rows of a sheet. -/
def ofSheet (s : Session) (disk : Disk) (sheet : Sheet) (directory : String) : Batch :=
  treat s directory sheet.columns 1 disk sheet.rows

/-- The number of rows that failed. -/
def failedCount (b : Batch) : Nat := (b.rows.filter (·.isFailed)).length

/-- The lines about all rows. -/
def lines (b : Batch) : List String := b.rows.flatMap RowOutcome.lines

end Batch

end Paperwork
