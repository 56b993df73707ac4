import Paperwork.Form
import Paperwork.Generation
import Paperwork.Package

/-!
# Sessions

A session holds the current template, which a successful load replaces. Operations answer from the
current template; only generating documents changes the disk.
-/

namespace Paperwork

/-- Why a session does not do what it is asked for. -/
inductive SessionError where
  | noTemplate
  | config (reason : String)
  | request (channel reason : String)
  | missingParameter
  | unknownChannel (name : String)
  | package (cause : PackageError)
  | template (cause : TemplateError)
  | evaluation (cause : Defect)
deriving DecidableEq, Repr

/-- The wording of a failure. -/
def SessionError.message : SessionError → String
  | noTemplate => "no template is loaded"
  | config reason => "failed to parse config: " ++ reason
  | request channel reason => "invalid `" ++ channel ++ "` request: " ++ reason
  | missingParameter => "`generate-documents` request needs either `fields` or `input`"
  | unknownChannel name => "unknown channel '" ++ name ++ "'"
  | package cause => cause.message
  | template cause => "invalid template: " ++ cause.message
  | evaluation cause => "evaluation failed: " ++ cause.message

/-- A session: its policy, its way to fill documents, and the current template. -/
structure Session where
  policy : Policy
  renderer : Renderer
  template : Option Template

/-- What an operation leads to: the session and the disk after it, and its answer. -/
structure Turn (α : Type) where
  session : Session
  disk : Disk
  answer : Except SessionError α

/-- What became of an input: its report, and that of the documents if any were to be generated. -/
structure SessionOutcome where
  evaluation : Report
  generation : Option GenerationReport

/-- The JSON form of an outcome. -/
def SessionOutcome.toJson (o : SessionOutcome) : Json :=
  Json.objectOf [("evaluation", o.evaluation.toJson),
    ("generation", (o.generation.map GenerationReport.toJson).getD .null)]

namespace Session

/-- A session for Word documents without a template. -/
def start (policy : Policy) : Session := ⟨policy, Word.render, none⟩

/-- The current template. -/
def current (s : Session) : Except SessionError Template :=
  match s.template with
  | some t => .ok t
  | none => .error .noTemplate

/-- Makes a template the current one, if it is one at all. -/
def install (s : Session) (disk : Disk) : Except SessionError Template → Turn Summary
  | .ok t => ⟨{ s with template := some t }, disk, .ok t.summary⟩
  | .error e => ⟨s, disk, .error e⟩

/-- Loads a definition. -/
def loadDefinition (s : Session) (disk : Disk) (d : Definition) : Turn Summary :=
  s.install disk ((Template.ofDefinition d).mapError .template)

/-- Loads the package that a path leads to. -/
def loadPackage (s : Session) (disk : Disk) (path : String) : Turn Summary :=
  s.install disk ((Package.ofPath disk path).mapError .package)

/-- The report of an input. -/
def evaluate (s : Session) (input : Json) : Except SessionError Report := do
  ((← s.current).evaluate input).mapError .evaluation

/-- Generates documents of a template; a failure leaves the disk as it is. -/
def generateWith (s : Session) (disk : Disk) (t : Template) (fields : Fields)
    (directory : String) : Turn GenerationReport :=
  match t.generate s.renderer fields directory disk with
  | .ok (report, disk) => ⟨s, disk, .ok report⟩
  | .error cause => ⟨s, disk, .error (.evaluation cause)⟩

/-- Generates documents from fields. -/
def generateDocuments (s : Session) (disk : Disk) (fields : Fields) (directory : String) :
    Turn GenerationReport :=
  match s.current with
  | .error e => ⟨s, disk, .error e⟩
  | .ok t => s.generateWith disk t fields directory

/-- Evaluates an input and generates documents if the policy permits it. -/
def evaluateAndGenerate (s : Session) (disk : Disk) (input : Json) (directory : String) :
    Turn SessionOutcome :=
  match s.current with
  | .error e => ⟨s, disk, .error e⟩
  | .ok t => match t.evaluate input with
    | .error cause => ⟨s, disk, .error (.evaluation cause)⟩
    | .ok report =>
      if s.policy.permits report then
        let turn := s.generateWith disk t report.fields directory
        { turn with answer := turn.answer.map fun g => ⟨report, some g⟩ }
      else ⟨s, disk, .ok ⟨report, none⟩⟩

/-- The form of the current template, blank or filled from an input. -/
def form (s : Session) (input : Option Json) : Except SessionError Form := do
  let t ← s.current
  match input with
  | none => pure (t.form none)
  | some input => match t.evaluate input with
    | .ok report => pure (t.form (some report))
    | .error cause => .error (.evaluation cause)

end Session

end Paperwork
