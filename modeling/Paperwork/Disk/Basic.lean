import Paperwork.Disk.Path

/-!
# Disks

A disk holds files and directories at locations, the components below its root. Paths are followed
component by component, so that a file in the middle of a path is told from a missing one.
-/

namespace Paperwork

/-- The components below the root of a disk. -/
abbrev Location := List String

/-- What stands at a location. -/
inductive Node where
  | file (contents : ByteArray)
  | directory

/-- Whether two nodes are both directories, or files with the same bytes. -/
def Node.same : Node → Node → Bool
  | file a, file b => a.toList == b.toList
  | directory, directory => true
  | _, _ => false

/-- Why the disk refuses an operation. -/
inductive DiskError where
  | notFound
  | notADirectory
  | isADirectory
  | nameTooLong
  | nul
deriving DecidableEq, Repr

/-- The wording of a refusal. -/
def DiskError.message : DiskError → String
  | notFound => "No such file or directory (os error 2)"
  | notADirectory => "Not a directory (os error 20)"
  | isADirectory => "Is a directory (os error 21)"
  | nameTooLong => "File name too long (os error 36)"
  | nul => "file name contained an unexpected NUL byte"

/-- A disk and the directory that relative paths start from. -/
structure Disk where
  nodes : List (Location × Node)
  workDir : Location

namespace Disk

/-- What stands at a location; the root and the directories above the working one always stand. -/
def node? (d : Disk) (place : Location) : Option Node :=
  if place.isPrefixOf d.workDir then some .directory else d.nodes.lookup place

/-- Puts a file or a directory at a location. -/
def put (d : Disk) (place : Location) (n : Node) : Disk :=
  { d with nodes := (place, n) :: d.nodes.filter fun e => e.1 != place }

/-- A disk with nothing in its working directory. -/
def blank (workDir : Location) : Disk := ⟨[], workDir⟩

/-! ## Following paths -/

/-- Bytes that a name may have. -/
def maxNameLength : Nat := 255

/-- Bytes that a path may have. -/
def maxPathLength : Nat := 4095

/-- Steps from a directory to a component of it. -/
def step (d : Disk) (place : Location) (component : String) : Except DiskError Location :=
  match d.node? place with
  | none => .error .notFound
  | some (.file _) => .error .notADirectory
  | some .directory =>
    if !Path.isProper component then .ok place
    else if component == ".." then .ok place.dropLast
    else if maxNameLength < component.utf8ByteSize then .error .nameTooLong
    else .ok (place ++ [component])

/-- Follows components that all have to be there. -/
def follow (d : Disk) : Location → List String → Except DiskError Location
  | place, [] => match d.node? place with
    | some _ => .ok place
    | none => .error .notFound
  | place, c :: rest => do follow d (← d.step place c) rest

/-- The location where the components of a path start; some texts are no path. -/
def origin (d : Disk) (path : String) : Except DiskError Location :=
  if path == "" then .error .notFound
  else if path.toList.contains '\x00' then .error .nul
  else if maxPathLength < path.utf8ByteSize then .error .nameTooLong
  else .ok (if Path.isAbsolute path then [] else d.workDir)

/-- The location that a path leads to. -/
def find (d : Disk) (path : String) : Except DiskError Location := do
  d.follow (← d.origin path) (Path.components path)

/-- What stands where a path leads to. -/
def look? (d : Disk) (path : String) : Option Node :=
  match d.find path with
  | .ok place => d.node? place
  | .error _ => none

def isDirectory (d : Disk) (path : String) : Bool :=
  match d.look? path with
  | some .directory => true
  | _ => false

def isFile (d : Disk) (path : String) : Bool :=
  match d.look? path with
  | some (.file _) => true
  | _ => false

/-! ## Reading and writing -/

/-- The contents of the file that a path leads to. -/
def read (d : Disk) (path : String) : Except DiskError ByteArray := do
  match d.node? (← d.find path) with
  | some (.file contents) => .ok contents
  | some .directory => .error .isADirectory
  | none => .error .notFound

/-- The location of a file that a path names: its directory is there, and it is not one itself. -/
def target (d : Disk) (path : String) : Except DiskError Location := do
  let components := Path.components path
  let parent ← d.follow (← d.origin path) components.dropLast
  match components.getLast? with
  | none => .error .notFound
  | some name =>
    let place ← d.step parent name
    if place = parent || name == ".." then .error .isADirectory
    else match d.node? place with
      | some .directory => .error .isADirectory
      | _ => .ok place

/-- Writes a file, in the place of an earlier one. -/
def write (d : Disk) (path : String) (contents : ByteArray) : Except DiskError Disk := do
  pure (d.put (← d.target path) (.file contents))

/-- Follows components and makes the directories that are missing. -/
def makeAll (d : Disk) : Location → List String → Except DiskError Disk
  | place, [] => match d.node? place with
    | some .directory => .ok d
    | _ => .error .notADirectory
  | place, c :: rest => do
    let next ← d.step place c
    match d.node? next with
    | some _ => makeAll d next rest
    | none => makeAll (d.put next .directory) next rest

/-- Makes the directory of a path and all directories above it. -/
def makeDirectories (d : Disk) (path : String) : Except DiskError Disk := do
  d.makeAll (← d.origin path) (Path.components path)

/-- The files below a location, each with the components behind it. -/
def filesBelow (d : Disk) (place : Location) : List (List String × ByteArray) :=
  d.nodes.filterMap fun (l, n) => match n with
    | .file contents =>
      if place.isPrefixOf l && place != l then some (l.drop place.length, contents) else none
    | .directory => none

end Disk

end Paperwork
