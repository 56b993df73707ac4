import Paperwork.Archive.Basic
import Paperwork.Archive.Directory

/-!
# Reading archives

An archive is read by its central directory. The local header of a member is looked at when the
member is opened, so a header that is not there does no harm to other members.
-/

namespace Paperwork

/-- An archive: its bytes, and the entries of its directory. -/
structure Archive where
  file : ByteArray
  listings : List Archive.Listing

namespace Archive

/-- The archive that bytes hold. -/
def ofBytes? (file : ByteArray) : Except Fault Archive :=
  match listings? file with
  | some listings => .ok ⟨file, listings⟩
  | none => .error .noDirectory

/-- The names of the members in the order of the directory. -/
def names (a : Archive) : List String := a.listings.map (·.name)

/-- The entry of a name. -/
def listing? (a : Archive) (name : String) : Option Listing := a.listings.find? (·.name == name)

/-- The mark of a local header. -/
def localMark : Nat := 0x04034b50

/-- Where the data behind a local header starts. -/
def dataStart? (file : ByteArray) (header : Nat) : Option Nat := do
  if (← numberAt? file header 4) != localMark then none
  else some (header + 30 + (← numberAt? file (header + 26) 2) + (← numberAt? file (header + 28) 2))

/-- Opens the member of an entry. -/
def open? (a : Archive) (l : Listing) : Except Fault Member :=
  if l.encrypted || l.keyed then .error .locked
  else match dataStart? a.file l.header with
    | none => .error .noHeader
    | some start => match Method.ofCode? l.methodCode with
      | none => .error .unknownMethod
      | some method =>
        let stop := min a.file.size (start + l.packedSize)
        .ok ⟨l.name, method, l.checksum, l.size, a.file.extract start stop⟩

/-- The members of the archive that bytes hold, all of them opened. -/
def members? (file : ByteArray) : Except Fault (List Member) := do
  let a ← ofBytes? file
  a.listings.mapM a.open?

end Archive

end Paperwork
