import Paperwork.Archive.Checksum
import Paperwork.Archive.Inflate
import Paperwork.Archive.Sorted

/-!
# Archives

An archive lists members, each with a name, packed data and a checksum. A member is opened before
it is unpacked: opening fails for members that cannot be read at all, unpacking for damaged data.
-/

namespace Paperwork.Archive

/-- The ways to pack data. -/
inductive Method where
  | stored
  | deflated
  | wideDeflated
  | sorted
deriving DecidableEq, Repr

namespace Method

/-- All methods. -/
def all : List Method := [stored, deflated, wideDeflated, sorted]

/-- The number that stands for a method. -/
def code : Method → Nat
  | stored => 0
  | deflated => 8
  | wideDeflated => 9
  | sorted => 12

/-- The method that a number stands for. -/
def ofCode? (code : Nat) : Option Method := all.find? (·.code == code)

/-- Whether new members are packed by a method. The wide form is for reading only. -/
def isWritten (m : Method) : Bool := m != wideDeflated

end Method

/-- Why an archive, or one of its members, cannot be read. -/
inductive Fault where
  | noDirectory
  | locked
  | noHeader
  | unknownMethod
deriving DecidableEq, Repr

/-- The wording of a fault. -/
def Fault.message : Fault → String
  | noDirectory => "no central directory was found"
  | locked => "a password is required"
  | noHeader => "invalid local header"
  | unknownMethod => "the compression method is not supported"

/-- What is wrong with the data of a member. -/
inductive Damage where
  | checksum
  | deflated
  | wideDeflated
  | sorted (cause : Halt)
deriving DecidableEq, Repr

/-- The wording of a damage. -/
def Damage.message : Damage → String
  | checksum => "Invalid checksum"
  | deflated => "corrupt deflate stream"
  | wideDeflated => "invalid deflate64"
  | sorted .short => "decompression not finished but EOF reached"
  | sorted .damaged => "bzip2: invalid data"
  | sorted .foreign => "bzip2: bz2 header missing"

/-- A member as it is packed. -/
structure Member where
  name : String
  method : Method
  checksum : UInt32
  size : Nat
  packed : ByteArray

/-- A file in an archive. -/
structure Entry where
  name : String
  method : Method
  contents : ByteArray

namespace Member

/-- The bytes of a member, before they are checked. -/
def unpacked? (m : Member) : Except Damage ByteArray :=
  match m.method with
  | .stored => .ok m.packed
  | .deflated => match inflate? .usual m.packed with
    | some bytes => .ok bytes
    | none => .error .deflated
  | .wideDeflated => match inflate? .wide m.packed with
    | some bytes => .ok bytes
    | none => .error .wideDeflated
  | .sorted => (Sorted.contents? m.packed).mapError .sorted

/-- The bytes of a member. -/
def contents? (m : Member) : Except Damage ByteArray := do
  let bytes ← m.unpacked?
  if Archive.checksum bytes = m.checksum then .ok bytes else .error .checksum

/-- Unpacks a member. -/
def entry? (m : Member) : Option Entry :=
  match m.contents? with
  | .error _ => none
  | .ok contents => some ⟨m.name, m.method, contents⟩

end Member

/-- Packs a file. -/
def Entry.pack (e : Entry) : Member where
  name := e.name
  method := e.method
  checksum := Archive.checksum e.contents
  size := e.contents.size
  packed := match e.method with
    | .stored => e.contents
    | .deflated | .wideDeflated => ⟨(storedBlocks e.contents.toList).toArray⟩
    | .sorted => ⟨(Sorted.storedBytes e.contents.toList).toArray⟩

end Paperwork.Archive
