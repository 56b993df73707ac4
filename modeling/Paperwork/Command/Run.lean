import Paperwork.Batch
import Paperwork.Command.Arguments
import Paperwork.Schema.Definition
import Paperwork.Schema.Input
import Paperwork.Session.Channel

/-!
# Running commands

A run prints texts, one after the other with a line break behind each, may change the disk, and may
fail. What is printed before a failure stays printed.
-/

namespace Paperwork

/-- What a run leaves behind. -/
structure Run where
  printed : List String
  disk : Disk
  failure : Option CommandError

namespace Run

/-- A run that changes nothing but prints, or fails. -/
def ofPrinted (disk : Disk) : Except CommandError (List String) → Run
  | .ok printed => ⟨printed, disk, none⟩
  | .error e => ⟨[], disk, some e⟩

/-- A run that fails if a number is not zero. -/
def unlessZero (printed : List String) (disk : Disk) (n : Nat) (complaint : Nat → Complaint) :
    Run :=
  ⟨printed, disk, if n = 0 then none else some (.complaint (complaint n))⟩

/-- The exit status of a run. -/
def status (r : Run) : Nat := (r.failure.map CommandError.status).getD 0

end Run

namespace Command

/-- A session with the template of a package. -/
def openSession (disk : Disk) (template : String) (policy : Policy) :
    Except CommandError Session :=
  let turn := (Session.start policy).loadPackage disk template
  match turn.answer with
  | .ok _ => .ok turn.session
  | .error e => .error (.session e)

/-- Reads the JSON object of a file. -/
def readInput (disk : Disk) (path : String) : Except CommandError Json := do
  let bytes ← (disk.read path).mapError .disk
  if (String.fromUTF8? bytes).isNone then throw (.encoding path)
  let tree ← (Json.read bytes).mapError fun e => .json e.message
  let input ← (tree.json? Json.reading Json.levels).mapError fun e => .json e.message
  if input.isObject then pure input else throw (.complaint (.notAnObject path))

/-- The directory for documents, made if it is missing: the one asked for, or else the usual one. -/
def openDirectory (disk : Disk) (asked usual : Option String) :
    Except CommandError (String × Disk) :=
  let directory := asked.getD (usual.getD ".")
  if directory == "" then .error (.complaint .emptyDirectory)
  else match disk.makeDirectories directory with
    | .ok disk => .ok (directory, disk)
    | .error e => .error (.disk e)

/-! ## What is shown -/

/-- The text of a form or its JSON form, as the session answers it. -/
def shown (answer : Json) : String :=
  match (answer.member? "text").bind Json.text? with
  | some text => text
  | none => answer.pretty

/-- The payload of a request for a form. -/
def describeRequest (input : Option Json) (format : FormFormat) : Json :=
  Json.objectOf ((input.map fun i => ("input", i)).toList
    ++ [("format", .text (match format with | .text => "text" | .json => "json"))])

/-- The lines about rejected fields. -/
def rejectionLines (r : Report) : List String :=
  if r.isValid then [] else "Errors:" :: r.messages.map fun m => "  " ++ m.1 ++ " - " ++ m.2

/-- The lines about documents. -/
def documentLines (g : GenerationReport) : List String :=
  g.files.map (fun f => "Generated " ++ f.path)
    ++ g.failures.map fun e => "Failed " ++ e.filename ++ ": " ++ e.error.message

/-! ## The commands -/

/-- Shows the form of a template. -/
def runDescribe (disk : Disk) (template : String) (input : Option String)
    (format : FormFormat) : Except CommandError (List String) := do
  let s ← openSession disk template .strict
  let input ← input.mapM (readInput disk)
  let payload := (describeRequest input format).compact
  match (s.handle disk Channel.describeTemplate.name payload).answer with
  | .ok answer => pure [shown answer]
  | .error e => throw (.complaint (.undescribed e))

/-- Shows something of a template. -/
def runShow (disk : Disk) (template : String) (view : Template → Json) :
    Except CommandError (List String) :=
  match Package.ofPath disk template with
  | .ok t => .ok [(view t).pretty]
  | .error e => .error (.package e)

/-- Shows the values and rejections of an input. -/
def runEvaluate (disk : Disk) (template input : String) : Run :=
  let report : Except CommandError Report := do
    let s ← openSession disk template .strict
    (s.evaluate (← readInput disk input)).mapError .session
  match report with
  | .error e => ⟨[], disk, some e⟩
  | .ok r =>
    .unlessZero (r.fields.toJson.pretty :: rejectionLines r) disk r.errorCount .rejectedFields

/-- Generates the documents of an input. -/
def runGenerate (disk : Disk) (usual : Option String) (template input : String)
    (directory : Option String) (policy : Policy) : Run :=
  let prepared : Except CommandError (Session × Json × String × Disk) := do
    let s ← openSession disk template policy
    let input ← readInput disk input
    let (directory, disk) ← openDirectory disk directory usual
    pure (s, input, directory, disk)
  match prepared with
  | .error e => ⟨[], disk, some e⟩
  | .ok (s, input, directory, disk) =>
    let turn := s.evaluateAndGenerate disk input directory
    match turn.answer with
    | .error e => ⟨[], turn.disk, some (.session e)⟩
    | .ok ⟨r, none⟩ =>
      ⟨rejectionLines r, turn.disk, some (.complaint (.nothingGenerated r.errorCount))⟩
    | .ok ⟨r, some g⟩ =>
      .unlessZero (rejectionLines r ++ documentLines g) turn.disk g.errorCount .failedDocuments

/-- The failure of a batch. -/
def batchFailure (b : Batch) : Option CommandError :=
  match b.stop with
  | some (.record cause) => some (.sheet cause)
  | some (.session cause) => some (.session cause)
  | none =>
    if b.failedCount = 0 then none
    else some (.complaint (.failedRows b.failedCount b.rows.length))

/-- Generates the documents of every row of a sheet. -/
def runBatch (disk : Disk) (usual : Option String) (template sheet : String)
    (directory : Option String) : Run :=
  let prepared : Except CommandError (Session × String × Disk) := do
    let s ← openSession disk template .strict
    let (directory, disk) ← openDirectory disk directory usual
    pure (s, directory, disk)
  match prepared with
  | .error e => ⟨[], disk, some e⟩
  | .ok (s, directory, disk) =>
    let read : Except CommandError Sheet := do
      (Sheet.ofBytes (← (disk.read sheet).mapError .disk)).mapError .sheet
    match read with
    | .error e => ⟨[], disk, some e⟩
    | .ok sheet =>
      let b := Batch.ofSheet s disk sheet directory
      ⟨b.lines, b.disk, batchFailure b⟩

/-- Runs a command. The usual directory for documents may be set from outside. -/
def run (disk : Disk) (usual : Option String) : Command → Run
  | .describe template input format => .ofPrinted disk (runDescribe disk template input format)
  | .definitionSchema => ⟨[Schema.definition.pretty], disk, none⟩
  | .inputSchema template => .ofPrinted disk (runShow disk template Template.inputSchema)
  | .sampleInput template => .ofPrinted disk (runShow disk template Template.sampleInput)
  | .evaluate template input => runEvaluate disk template input
  | .generate template input directory policy =>
    runGenerate disk usual template input directory policy
  | .batch template sheet directory => runBatch disk usual template sheet directory

end Command

/-- Runs a command line. -/
def CommandLine.run (disk : Disk) (usual : Option String) (arguments : List String) : Run :=
  match CommandLine.read arguments with
  | .ok c => c.run disk usual
  | .error .help => ⟨CommandLine.usage, disk, none⟩
  | .error .version => ⟨[CommandLine.versionLine], disk, none⟩
  | .error (.misuse cause) => ⟨[], disk, some (.usage cause)⟩

end Paperwork
