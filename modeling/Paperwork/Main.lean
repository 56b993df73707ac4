import Paperwork.Command.Run

/-!
# The command line

What a command may look at is taken over from the file system into a disk. The command runs on that
disk, and what it changed there is then written back.
-/

namespace Paperwork.RealDisk

/-- The location of a path, where two dots lead up. -/
def placeOf (disk : Disk) (path : String) : Location :=
  (Path.components path).foldl (fun place c =>
    if c == ".." then place.dropLast else if Path.isProper c then place ++ [c] else place)
    (if Path.isAbsolute path then [] else disk.workDir)

/-- The path of a location. -/
def pathOf (place : Location) : String := "/" ++ "/".intercalate place

/-- Takes over what stands at a location. -/
def observeAt (disk : Disk) (place : Location) : IO Disk := do
  try
    let path ← IO.FS.realPath (pathOf place)
    if ← path.isDir then pure (disk.put place .directory)
    else pure (disk.put place (.file (← IO.FS.readBinFile path)))
  catch _ => pure disk

/-- Takes over what a path leads to, and the directories on the way. -/
def observe (disk : Disk) (path : String) : IO Disk := do
  let place := placeOf disk path
  (List.range (place.length + 1)).foldlM (fun disk n => observeAt disk (place.take n)) disk

/-- Takes over the directories inside of a directory. -/
def observeInner (disk : Disk) (path : String) : IO Disk := do
  let disk ← observe disk path
  let place := placeOf disk path
  try
    let entries ← (← IO.FS.realPath (pathOf place)).readDir
    entries.foldlM (fun disk entry => do
      if ← entry.path.isDir then pure (disk.put (place ++ [entry.fileName]) .directory)
      else pure disk) disk
  catch _ => pure disk

/-- Takes over a package: its files are known once its definition is. -/
def observePackage (disk : Disk) (path : String) : IO Disk := do
  let disk ← observe disk path
  if disk.isDirectory path then
    let observeFiles (disk : Disk) : IO Disk :=
      (Package.fileNames disk path).foldlM (fun disk name =>
        observe disk (Path.join path name)) disk
    observeFiles (← observeFiles disk)
  else pure disk

/-- Takes over all that a command may look at. -/
def observeFor (disk : Disk) (usual : Option String) (c : Command) : IO Disk := do
  let disk ← c.template?.toList.foldlM observePackage disk
  let disk ← c.input?.toList.foldlM observe disk
  (c.directory? <|> usual <|> some ".").toList.foldlM observeInner disk

/-- Writes back what changed, each directory before what it holds. -/
def writeBack (before after : Disk) : IO Unit := do
  let changed := after.nodes.filter fun e => match before.nodes.lookup e.1 with
    | some node => !node.same e.2
    | none => true
  let ordered := changed.mergeSort fun a b => a.1.length ≤ b.1.length
  for (place, node) in ordered do
    match node with
    | .directory => IO.FS.createDirAll (pathOf place)
    | .file contents => IO.FS.writeBinFile (pathOf place) contents

end Paperwork.RealDisk

open Paperwork

/-- Runs the arguments on the file system, and answers with the exit status. -/
def main (arguments : List String) : IO UInt32 := do
  let usual ← IO.getEnv "DOCGEN_OUTPUT_DIR"
  let blank := Disk.blank (Path.components (← IO.currentDir).toString |>.filter Path.isProper)
  let before ← match CommandLine.read arguments with
    | .ok c => RealDisk.observeFor blank usual c
    | .error _ => pure blank
  let run := CommandLine.run before usual arguments
  RealDisk.writeBack before run.disk
  for text in run.printed do IO.println text
  match run.failure with
  | none => pure 0
  | some e => do
    IO.eprintln ("Error: " ++ e.report)
    pure (UInt32.ofNat e.status)
