import Paperwork.Disk.Basic
import Paperwork.Report
import Paperwork.Word.Document

/-!
# Generating documents

All conditions are evaluated before anything is written. The documents whose conditions hold are
then filled and written one by one; a failing document does not stop the others.
-/

namespace Paperwork

/-- What is wrong with the value that names a file. -/
inductive NameFault where
  | notText
  | noValue
  | empty
deriving DecidableEq, Repr

/-- The wording of a fault. -/
def NameFault.message : NameFault → String
  | notText => "must be text"
  | noValue => "has no value"
  | empty => "is empty"

/-- Why a document is not generated. -/
inductive GenerationError where
  | missingPayload (document : String)
  | outputName (field : String) (fault : NameFault)
  | render (cause : RenderError)
  | write (path : String) (cause : DiskError)
deriving DecidableEq, Repr

/-- The wording of a failure. -/
def GenerationError.message : GenerationError → String
  | missingPayload document => "document payload `" ++ document ++ "` was not loaded"
  | outputName field fault => "output file name field `" ++ field ++ "` " ++ fault.message
  | render cause => "render failed: " ++ cause.message
  | write path cause => "failed to write " ++ path ++ ": " ++ cause.message

/-- A generated document. -/
structure GeneratedFile where
  path : String
  filename : String
deriving DecidableEq, Repr

/-- A document that was not generated, under the name of its file or else its own. -/
structure DocumentFailure where
  filename : String
  error : GenerationError
deriving DecidableEq, Repr

/-- What became of a document that was due. -/
abbrev Outcome := Except DocumentFailure GeneratedFile

/-- What became of the documents that were due: their files, their failures and how many failed. -/
structure GenerationReport where
  files : List GeneratedFile
  failures : List DocumentFailure
  errorCount : Nat
deriving DecidableEq, Repr

namespace GenerationReport

/-- The report before any document is generated. -/
def blank : GenerationReport := ⟨[], [], 0⟩

/-- Adds what became of a document. -/
def record (r : GenerationReport) : Outcome → GenerationReport
  | .ok f => { r with files := r.files ++ [f] }
  | .error e => { r with failures := r.failures ++ [e], errorCount := r.errorCount + 1 }

/-- The JSON form of a report. -/
def toJson (r : GenerationReport) : Json :=
  Json.objectOf [
    ("generated_files", .array (r.files.map fun f =>
      Json.objectOf [("path", .text f.path), ("filename", .text f.filename)])),
    ("errors", .array (r.failures.map fun e =>
      Json.objectOf [("filename", .text e.filename), ("error", .text e.error.message)])),
    ("error_count", Json.count r.errorCount)]

end GenerationReport

/-! ## Conditions -/

/-- Whether a document is due. A condition on a field without a value does not hold. -/
def Document.isDue (fields : Fields) (d : Document) : Except EvalError Bool :=
  match d.conditions.eval fields with
  | .ok v => .ok v.isTruthy
  | .error (.undefinedField _) => .ok false
  | .error cause => .error cause

/-- The documents that are due; the first failing condition is a defect. -/
def dueDocuments (fields : Fields) : List Document → Except Defect (List Document)
  | [] => .ok []
  | d :: rest => match d.isDue fields with
    | .error cause => .error (.condition d.name cause)
    | .ok due => do
      let others ← dueDocuments fields rest
      pure (if due then d :: others else others)

/-! ## Documents -/

/-- The name of the file of a document: the last component of a field's text, with an extension. -/
def Document.fileName (fields : Fields) (d : Document) : Except NameFault String :=
  match fields.get? d.outFile with
  | none => .error .noValue
  | some (.text s) => match Path.fileName? s with
    | some base => .ok (base ++ ".docx")
    | none => .error .empty
  | some _ => .error .notText

/-- The filled document. -/
def Document.fill (renderer : Renderer) (fields : Fields) (d : Document) :
    Except GenerationError ByteArray :=
  match d.contents with
  | none => .error (.missingPayload d.name)
  | some payload => (renderer payload fields .brackets).mapError .render

/-- Fills a document and writes it to a path. -/
def Document.writeTo (renderer : Renderer) (fields : Fields) (path : String) (disk : Disk)
    (d : Document) : Except GenerationError Disk := do
  let bytes ← d.fill renderer fields
  (disk.write path bytes).mapError (.write path)

/-- Generates a document below a directory. -/
def Document.generate (renderer : Renderer) (fields : Fields) (directory : String) (disk : Disk)
    (d : Document) : Outcome × Disk :=
  match d.fileName fields with
  | .error fault => (.error ⟨d.name, .outputName d.outFile fault⟩, disk)
  | .ok filename =>
    let path := Path.join directory filename
    match d.writeTo renderer fields path disk with
    | .ok disk => (.ok ⟨path, filename⟩, disk)
    | .error e => (.error ⟨filename, e⟩, disk)

/-- Generates documents in turn and adds what becomes of them to a report. -/
def generateAll (renderer : Renderer) (fields : Fields) (directory : String) :
    List Document → GenerationReport → Disk → GenerationReport × Disk
  | [], report, disk => (report, disk)
  | d :: rest, report, disk =>
    let (outcome, disk) := d.generate renderer fields directory disk
    generateAll renderer fields directory rest (report.record outcome) disk

/-- Generates the documents of a template that are due. -/
def Template.generate (t : Template) (renderer : Renderer) (fields : Fields) (directory : String)
    (disk : Disk) : Except Defect (GenerationReport × Disk) := do
  let due ← dueDocuments fields t.documents
  pure (generateAll renderer fields directory due .blank disk)

/-! ## Policies -/

/-- Whether documents are generated from an input with rejected fields. -/
inductive Policy where
  | strict
  | relaxed
deriving DecidableEq, Repr

/-- The word for a policy. -/
def Policy.word : Policy → String
  | strict => "strict"
  | relaxed => "relaxed"

/-- Whether a policy permits to generate from a report. -/
def Policy.permits (p : Policy) (r : Report) : Bool :=
  match p with
  | strict => r.isValid
  | relaxed => true

end Paperwork
