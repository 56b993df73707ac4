import Paperwork.Archive.Basic

/-!
# Writing archives

Each member is a local header and its packed data; the central directory and the end record follow.
-/

namespace Paperwork.Archive

/-- A number as bytes, the lowest byte first. -/
def numberBytes : Nat → Nat → List UInt8
  | 0, _ => []
  | width + 1, n => UInt8.ofNat (n % 256) :: numberBytes width (n / 256)

/-- Numbers as bytes, each with its width. -/
def fieldBytes (fields : List (Nat × Nat)) : List UInt8 :=
  fields.flatMap fun f => numberBytes f.1 f.2

namespace Member

/-- The bytes of a name. -/
def nameBytes (m : Member) : List UInt8 := m.name.toUTF8.toList

/-- The flag that says that a name is not plain ASCII. -/
def flags (m : Member) : Nat := if m.nameBytes.all (· < 128) then 0 else 2048

/-- The fields that a local header shares with the central directory. -/
def sharedFields (m : Member) : List (Nat × Nat) :=
  [(2, 20), (2, m.flags), (2, m.method.code), (2, 0), (2, 0x21), (4, m.checksum.toNat),
    (4, m.packed.size), (4, m.size), (2, m.nameBytes.length), (2, 0)]

/-- The local header and the data of a member. -/
def localRecord (m : Member) : List UInt8 :=
  fieldBytes ((4, 0x04034b50) :: m.sharedFields) ++ m.nameBytes ++ m.packed.toList

/-- The entry of a member in the central directory. -/
def directoryRecord (header : Nat) (m : Member) : List UInt8 :=
  fieldBytes ([(4, 0x02014b50), (2, 20)] ++ m.sharedFields ++ [(2, 0), (2, 0), (2, 0), (4, 0),
    (4, header)]) ++ m.nameBytes

end Member

/-- The entries of the central directory, given where the first local header is. -/
def directoryRecords : Nat → List Member → List UInt8
  | _, [] => []
  | header, m :: rest =>
    m.directoryRecord header ++ directoryRecords (header + m.localRecord.length) rest

/-- The bytes of an archive. -/
def write (members : List Member) : ByteArray :=
  let files := members.flatMap Member.localRecord
  let directory := directoryRecords 0 members
  let count := members.length
  let ending := fieldBytes [(4, 0x06054b50), (2, 0), (2, 0), (2, count), (2, count),
    (4, directory.length), (4, files.length), (2, 0)]
  ⟨(files ++ directory ++ ending).toArray⟩

/-- The archive of files. -/
def ofEntries (entries : List Entry) : ByteArray := write (entries.map Entry.pack)

end Paperwork.Archive
