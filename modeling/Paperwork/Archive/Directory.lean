import Paperwork.Archive.Listing

/-!
# The central directory

An end record stands behind the central directory and tells where the directory was when the archive
was written; bytes put in front of the archive move everything behind them. Large archives have a
second end record, and a locator for it right before the first.

End records are tried from the end of the file. The first one that leads to a readable directory
counts.
-/

namespace Paperwork.Archive

/-- Where a central directory starts, how far the archive was moved, and the number of entries. -/
structure Directory where
  start : Nat
  shift : Nat
  count : Nat
deriving DecidableEq, Repr

/-! ## Marks -/

/-- The mark of the end record. -/
def endMark : Nat := 0x06054b50

/-- The mark of the end record of large archives. -/
def largeEndMark : Nat := 0x06064b50

/-- The mark of the locator. -/
def locatorMark : Nat := 0x07064b50

/-- The mark of an entry of the central directory. -/
def directoryMark : Nat := 0x02014b50

/-- The number of bytes of an entry before its name. -/
def listingSize : Nat := 46

/-- The places of a mark from a start on and before a stop. -/
def placesOf (file : ByteArray) (mark start stop : Nat) : List Nat :=
  (List.range' start (stop - start)).filter fun i => numberAt? file i 4 == some mark

/-! ## End records -/

/-- An end record: where it is, its disks, the numbers of entries, and where the directory was. -/
structure EndRecord where
  place : Nat
  disk : Nat
  directoryDisk : Nat
  here : Nat
  total : Nat
  directory : Nat

/-- The end record at a place; its comment has to end within the file. -/
def endRecordAt? (file : ByteArray) (place : Nat) : Option EndRecord := do
  let number (offset width : Nat) := numberAt? file (place + offset) width
  if (← number 0 4) != endMark || file.size < place + 22 + (← number 20 2) then none
  else
    some ⟨place, ← number 4 2, ← number 6 2, ← number 8 2, ← number 10 2, ← number 16 4⟩

/-- The directory of an end record. Its first entry tells how far the archive was moved. -/
def EndRecord.directory? (file : ByteArray) (r : EndRecord) : Option Directory :=
  let moved (shift : Nat) : Option Directory :=
    if r.disk != r.directoryDisk then none else some ⟨r.directory + shift, shift, r.here⟩
  if r.total = 0 then moved (r.place - r.directory)
  else if r.place ≤ r.directory then none
  else match placesOf file directoryMark r.directory r.place with
    | [] => none
    | first :: _ => moved (first - r.directory)

/-! ## Large archives -/

/-- A locator: where it is, the disk and the place of the large end record, the number of disks. -/
structure Locator where
  place : Nat
  disk : Nat
  target : Nat
  disks : Nat

/-- The locator before an end record that leaves numbers to the large one. -/
def EndRecord.locator? (file : ByteArray) (r : EndRecord) : Option Locator := do
  if (r.total != 0xFFFF && r.directory != 0xFFFFFFFF) || r.place < 20 then none
  else
    let place := r.place - 20
    if (← numberAt? file place 4) != locatorMark then none
    else
      some ⟨place, ← numberAt? file (place + 4) 4, ← numberAt? file (place + 8) 8,
        ← numberAt? file (place + 16) 4⟩

/-- A large end record. -/
structure LargeEndRecord where
  place : Nat
  writer : Nat
  reader : Nat
  disk : Nat
  directoryDisk : Nat
  here : Nat
  total : Nat
  directory : Nat

/-- The large end record at a place. It ends at the locator, and its directory ends before it. -/
def Locator.recordAt? (file : ByteArray) (k : Locator) (place : Nat) : Option LargeEndRecord := do
  let number (offset width : Nat) := numberAt? file (place + offset) width
  let length ← number 4 8
  let directoryDisk ← number 20 4
  let total ← number 32 8
  let directory ← number 48 8
  if length < 44 || place + 12 + length != k.place || directoryDisk != k.disk
      || place < listingSize * total + directory then none
  else
    some ⟨place, ← number 12 2, ← number 14 2, ← number 16 4, directoryDisk, ← number 24 8, total,
      directory⟩

/-- The directory of a large archive. The large end record tells how far the archive was moved. -/
def Locator.directory? (file : ByteArray) (k : Locator) : Option Directory :=
  if k.place ≤ k.target || 1 < k.disks then none
  else do
    let r ← (placesOf file largeEndMark k.target k.place).findSome? (k.recordAt? file)
    let shift := r.place - k.target
    if r.total < r.here || r.writer < r.reader || r.disk != r.directoryDisk then none
    else some ⟨r.directory + shift, shift, r.total⟩

/-! ## Entries -/

/-- The entry of the directory at a place, and the place after it. -/
def Directory.listingAt? (file : ByteArray) (d : Directory) (place : Nat) :
    Option (Listing × Nat) := do
  let number (offset width : Nat) := numberAt? file (place + offset) width
  if (← number 0 4) != directoryMark then none
  else
    let flags ← number 8 2
    let text (bytes : ByteArray) : String :=
      if flags.testBit 11 then Text.ofBytes bytes else Text.ofBytes437 bytes
    let nameLength ← number 28 2
    let extraLength ← number 30 2
    let commentLength ← number 32 2
    let listing (nameBytes comment : ByteArray) : Option Listing := do
      some {
        name := text nameBytes
        nameBytes
        comment := text comment
        methodCode := ← number 10 2
        encrypted := flags.testBit 0
        keyed := false
        checksum := UInt32.ofNat (← number 16 4)
        packedSize := ← number 20 4
        size := ← number 24 4
        header := ← number 42 4
      }
    let place := place + listingSize
    let nameBytes ← bytesAt? file place nameLength
    let extra ← bytesAt? file (place + nameLength) extraLength
    let comment ← bytesAt? file (place + nameLength + extraLength) commentLength
    let written ← (← listing nameBytes comment).amended? extra
    let l := { written with header := written.header + d.shift }
    if d.start ≤ l.header then none
    else some (l, place + nameLength + extraLength + commentLength)

/-- Some entries of the directory from a place on. -/
def Directory.listingsFrom? (file : ByteArray) (d : Directory) : Nat → Nat → Option (List Listing)
  | 0, _ => some []
  | n + 1, place => do
    let (l, next) ← d.listingAt? file place
    some (l :: (← d.listingsFrom? file n next))

/-- Puts an entry in the place of an earlier one of its name, or at the end. -/
def putListing (listings : List Listing) (l : Listing) : List Listing :=
  if listings.any (·.name == l.name) then listings.map fun k => if k.name == l.name then l else k
  else listings ++ [l]

/-- The entries of a directory. Of entries with one name the last one counts. -/
def Directory.listings? (file : ByteArray) (d : Directory) : Option (List Listing) := do
  let found ← d.listingsFrom? file d.count d.start
  some (found.foldl putListing [])

/-- The entries that the end record at a place leads to. -/
def listingsAt? (file : ByteArray) (place : Nat) : Option (List Listing) := do
  let r ← endRecordAt? file place
  let d ← match r.locator? file with
    | some k => k.directory? file
    | none => r.directory? file
  d.listings? file

/-- The entries of the directory of a file. -/
def listings? (file : ByteArray) : Option (List Listing) :=
  (List.range (file.size - 21)).reverse.findSome? (listingsAt? file)

end Paperwork.Archive
