import Paperwork.Definition.Decode
import Paperwork.Json.Reader
import Paperwork.Yaml.Reader

/-!
# Definitions as text

A definition is written as JSON or as YAML; the name of its file tells which.
-/

namespace Paperwork

/-- The format of a text. -/
inductive DefinitionFormat where
  | yaml
  | json
deriving DecidableEq, Repr

/-- Whether a text ends with another one. -/
def endsWith (s ending : String) : Bool := ending.toList.isSuffixOf s.toList

/-- The format that a file name stands for. -/
def DefinitionFormat.ofFileName (name : String) : DefinitionFormat :=
  if endsWith name ".json" then json else yaml

/-- Why a text is not a definition. -/
inductive SourceError where
  | yaml (reason : String)
  | json (reason : String)
deriving DecidableEq, Repr

/-- The wording of a fault. -/
def SourceError.message : SourceError → String
  | yaml reason => "invalid YAML definition: " ++ reason
  | json reason => "invalid JSON definition: " ++ reason

namespace Definition

/-- The definition that a JSON text spells. -/
def ofJsonText (bytes : ByteArray) : Except SourceError Definition :=
  match Json.read bytes with
  | .error e => .error (.json e.message)
  | .ok t => (ofTree? Json.reading Json.levels t).mapError (.json ·.message)

/-- The definition that a YAML text spells. -/
def ofYamlText (bytes : ByteArray) : Except SourceError Definition :=
  match Yaml.read outline bytes with
  | .error e => .error (.yaml e.message)
  | .ok t => (ofTree? Yaml.reading Yaml.levels t).mapError (.yaml ·.message)

/-- The definition that a text spells. -/
def ofText (format : DefinitionFormat) (bytes : ByteArray) : Except SourceError Definition :=
  match format with
  | .yaml => ofYamlText bytes
  | .json => ofJsonText bytes

end Definition

end Paperwork
