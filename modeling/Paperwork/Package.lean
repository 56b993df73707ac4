import Paperwork.Archive.Reader
import Paperwork.Definition.Source
import Paperwork.Disk.Basic
import Paperwork.Template.Build
import Paperwork.Template.Payload

/-!
# Template packages

A package is an archive or a directory with a definition and the payloads of its documents, each
under the name of its document.
-/

namespace Paperwork

/-- Why a file of a package cannot be read. -/
inductive ReadFault where
  | disk (cause : DiskError)
  | damage (cause : Archive.Damage)
deriving DecidableEq, Repr

/-- The wording of a fault. -/
def ReadFault.message : ReadFault → String
  | disk cause => cause.message
  | damage cause => cause.message

/-- Why a package cannot be loaded. -/
inductive PackageError where
  | read (path : String) (cause : ReadFault)
  | archive (cause : Archive.Fault)
  | missingDefinition
  | source (cause : SourceError)
  | template (cause : TemplateError)
  | missingDocument (name : String)
deriving DecidableEq, Repr

/-- The wording of a failure. -/
def PackageError.message : PackageError → String
  | read path cause => "failed to read " ++ path ++ ": " ++ cause.message
  | archive cause => "malformed template archive: " ++ cause.message
  | missingDefinition =>
    "template package has no template.yml, template.yaml or template.json"
  | source cause => cause.message
  | template cause => "invalid template: " ++ cause.message
  | missingDocument name => "document `" ++ name ++ "` is missing from the template package"

namespace Package

/-- The names of definitions in the order in which they are looked for. -/
def definitionNames : List String := ["template.yml", "template.yaml", "template.json"]

/-- A way to read the files of a package. -/
abbrev Fetch := String → Except PackageError ByteArray

/-- The template of a definition in a package. -/
def readTemplate (format : DefinitionFormat) (bytes : ByteArray) :
    Except PackageError Template := do
  let d ← (Definition.ofText format bytes).mapError .source
  (Template.ofDefinition d).mapError .template

/-- Loads a package, given which names it has, the formats they stand for and how to read files. -/
def load (has : String → Bool) (format : String → DefinitionFormat) (fetch : Fetch) :
    Except PackageError Template :=
  match definitionNames.find? has with
  | none => .error .missingDefinition
  | some name => do
    let t ← readTemplate (format name) (← fetch name)
    t.loaded? fetch

/-! ## Archives -/

/-- Reads the member of a name. -/
def readMember (a : Archive) : Fetch := fun name =>
  match a.listing? name with
  | none => .error (.missingDocument name)
  | some l => match a.open? l with
    | .error cause => .error (.archive cause)
    | .ok m => m.contents?.mapError fun cause => .read name (.damage cause)

/-- Loads a package from the bytes of an archive. -/
def ofArchive (bytes : ByteArray) : Except PackageError Template :=
  match Archive.ofBytes? bytes with
  | .error cause => .error (.archive cause)
  | .ok a => load a.names.contains .ofFileName (readMember a)

/-! ## Directories -/

/-- Reads the file of a name below a directory. -/
def readFile (disk : Disk) (directory : String) : Fetch := fun name =>
  let path := Path.join directory name
  if disk.isFile path then (disk.read path).mapError fun cause => .read path (.disk cause)
  else .error (.missingDocument name)

/-- The format that the path of a name below a directory stands for. -/
def formatBelow (directory name : String) : DefinitionFormat :=
  .ofFileName (Path.join directory name)

/-- Loads a package from a directory. -/
def ofDirectory (disk : Disk) (directory : String) : Except PackageError Template :=
  load (fun name => disk.isFile (Path.join directory name)) (formatBelow directory)
    (readFile disk directory)

/-- The names looked up in a directory: definitions, and the documents of the one in use. -/
def fileNames (disk : Disk) (directory : String) : List String :=
  let documents := match definitionNames.find? fun n => disk.isFile (Path.join directory n) with
    | none => []
    | some name =>
      match readFile disk directory name >>= readTemplate (formatBelow directory name) with
      | .ok t => t.documents.map (·.name)
      | .error _ => []
  definitionNames ++ documents

/-- Loads the package that a path leads to, a directory or else an archive. -/
def ofPath (disk : Disk) (path : String) : Except PackageError Template :=
  if disk.isDirectory path then ofDirectory disk path
  else match disk.read path with
    | .error cause => .error (.read path (.disk cause))
    | .ok bytes => ofArchive bytes

end Package

end Paperwork
