import Paperwork.Session.Request

/-!
# Answering requests

A request is read as a whole before the session acts on it, so a payload that asks for nothing
sensible changes nothing.
-/

namespace Paperwork.Session

/-- The JSON form of an answer. -/
def encoded {α : Type} (turn : Turn α) (toJson : α → Json) : Turn Json :=
  { turn with answer := turn.answer.map toJson }

/-- The form of a template in a format. -/
def describe (s : Session) (input : Option Json) (format : FormFormat) :
    Except SessionError Json := do
  let form ← s.form input
  match format with
  | .json => pure form.toJson
  | .text => pure (Json.objectOf [("text", .text form.text)])

/-- Does what a request asks for. -/
def perform (s : Session) (disk : Disk) : Request → Turn Json
  | .loadPackage path => encoded (s.loadPackage disk path) Summary.toJson
  | .loadDefinition d => encoded (s.loadDefinition disk d) Summary.toJson
  | .evaluate input => ⟨s, disk, (s.evaluate input).map Report.toJson⟩
  | .generateFields fields directory =>
    encoded (s.generateDocuments disk fields directory) GenerationReport.toJson
  | .generateInput input directory =>
    encoded (s.evaluateAndGenerate disk input directory) SessionOutcome.toJson
  | .describe input format => ⟨s, disk, s.describe input format⟩

/-- Answers a request on a channel. -/
def handle (s : Session) (disk : Disk) (channel payload : String) : Turn Json :=
  match Request.ofText channel payload with
  | .ok request => s.perform disk request
  | .error e => ⟨s, disk, .error e⟩

end Paperwork.Session

