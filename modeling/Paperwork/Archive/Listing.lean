import Paperwork.Archive.Checksum
import Paperwork.Text.Decoding

/-!
# Entries of the directory

An entry of the central directory names a member and tells where its local header is. Extra fields
behind the name may change what the entry says: they hold numbers that are too large for it, a name
in UTF-8, or how the member is encrypted. Fields that end early end the reading of fields; what they
said up to there counts. Fields that contradict themselves make the entry unreadable.
-/

namespace Paperwork.Archive

/-- The number that some bytes spell, the lowest byte first. -/
def numberAt? (file : ByteArray) (place : Nat) : Nat → Option Nat
  | 0 => some 0
  | n + 1 => do
    let low ← file[place]?
    let high ← numberAt? file (place + 1) n
    some (low.toNat + 256 * high)

/-- The bytes from a place on. -/
def bytesAt? (file : ByteArray) (place count : Nat) : Option ByteArray :=
  if file.size < place + count then none else some (file.extract place (place + count))

/-- An entry of the central directory. -/
structure Listing where
  name : String
  /-- The name as it is written. -/
  nameBytes : ByteArray
  comment : String
  methodCode : Nat
  /-- The entry says that a password is needed. -/
  encrypted : Bool
  /-- An extra field says how the member is encrypted. -/
  keyed : Bool
  checksum : UInt32
  packedSize : Nat
  size : Nat
  /-- Where the local header was written. -/
  header : Nat

/-- What an extra field leads to. -/
inductive Amended where
  | next (entry : Listing) (place : Nat)
  | short (entry : Listing)
  | faulty

/-- Goes behind a field that changes nothing. -/
def Listing.pass (l : Listing) (extra : ByteArray) (stop : Nat) : Amended :=
  if extra.size < stop then .short l else .next l stop

/-! ## Large numbers -/

/-- The number in an entry that says that the true one is in an extra field. -/
def largeMark : Nat := 0xFFFFFFFF

/-- A number of an entry that may be large. -/
structure LargeField where
  get : Listing → Nat
  put : Listing → Nat → Listing

/-- The numbers that may be large, in the order in which a field gives them. -/
def largeFields : List LargeField :=
  [⟨(·.size), fun l n => { l with size := n }⟩,
    ⟨(·.packedSize), fun l n => { l with packedSize := n }⟩,
    ⟨(·.header), fun l n => { l with header := n }⟩]

/--
Replaces numbers, either all of them or those that are marked. Without a place the field ended
before the last one.
-/
def putLarge (extra : ByteArray) (all : Bool) :
    List LargeField → (place : Nat) → Listing → Listing × Option Nat
  | [], place, l => (l, some place)
  | f :: rest, place, l =>
    if all || f.get l == largeMark then
      match numberAt? extra place 8 with
      | none => (l, none)
      | some n => putLarge extra all rest (place + 8) (f.put l n)
    else putLarge extra all rest place l

/-- The field of large numbers. A field of 24 bytes or more gives all of them. -/
def Listing.amendLarge (l : Listing) (extra : ByteArray) (place length : Nat) : Amended :=
  match putLarge extra (24 ≤ length) largeFields place l with
  | (l, none) => .short l
  | (l, some stop) =>
    if place + length < stop then .faulty else l.pass extra (place + length)

/-! ## Times -/

/-- A field of times of creation and use, whose parts have fixed sizes. -/
def Listing.amendTimes (l : Listing) (extra : ByteArray) (place length : Nat) : Amended :=
  if length != 32 then .faulty
  else match numberAt? extra (place + 4) 2 with
    | none => .short l
    | some tag =>
      if tag != 1 then .faulty
      else match numberAt? extra (place + 6) 2 with
        | none => .short l
        | some size => if size != 24 then .faulty else l.pass extra (place + length)

/--
A field of times, of which the first byte tells those that are given. A field of five bytes gives
one time, whatever the first byte tells.
-/
def Listing.amendStamps (l : Listing) (extra : ByteArray) (place length : Nat) : Amended :=
  match numberAt? extra place 1 with
  | none => .short l
  | some given =>
    let count := (List.range 8).countP given.testBit
    if (length != 5 && length != 1 + 4 * count) || 8 ≤ given then .faulty
    else l.pass extra (place + length)

/-! ## Texts -/

/-- The text of a field in UTF-8, which holds the checksum of the bytes that it stands for. -/
inductive Replacement where
  | text (s : String) (bytes : ByteArray)
  | short
  | faulty

/-- Reads the text that stands for some bytes. -/
def replacementAt (extra bytes : ByteArray) (place length : Nat) : Replacement :=
  match numberAt? extra (place + 1) 4 with
  | none => .short
  | some sum =>
    if length < 5 then .faulty
    else match bytesAt? extra (place + 5) (length - 5) with
      | none => .short
      | some content => match String.fromUTF8? content with
        | some s => if (checksum bytes).toNat == sum then .text s content else .faulty
        | none => .faulty

/-- The field of a comment in UTF-8. -/
def Listing.amendComment (l : Listing) (extra : ByteArray) (place length : Nat) : Amended :=
  match replacementAt extra l.comment.toUTF8 place length with
  | .short => .short l
  | .faulty => .faulty
  | .text s _ => .next { l with comment := s } (place + length)

/-- The field of a name in UTF-8. -/
def Listing.amendName (l : Listing) (extra : ByteArray) (place length : Nat) : Amended :=
  match replacementAt extra l.nameBytes place length with
  | .short => .short l
  | .faulty => .faulty
  | .text s bytes => .next { l with name := s, nameBytes := bytes } (place + length)

/-! ## Encryption -/

/-- The method of members whose own method is in an extra field. -/
def keyedCode : Nat := 99

/-- The field of encryption: a version, the letters `AE`, the strength and the method. -/
def Listing.amendKey (l : Listing) (extra : ByteArray) (place length : Nat) : Amended :=
  if length != 7 then .faulty
  else
    let parts : Option (Nat × Nat × Nat × Nat) := do
      some (← numberAt? extra place 2, ← numberAt? extra (place + 2) 2,
        ← numberAt? extra (place + 4) 1, ← numberAt? extra (place + 5) 2)
    match parts with
    | none => .short l
    | some (version, letters, strength, code) =>
      if letters == 0x4541 && [1, 2].contains version && [1, 2, 3].contains strength then
        .next { l with methodCode := code, keyed := true } (place + length)
      else .faulty

/-! ## All fields -/

/-- Reads one extra field. -/
def Listing.amend (l : Listing) (extra : ByteArray) (place : Nat) : Amended :=
  match numberAt? extra place 2, numberAt? extra (place + 2) 2 with
  | some kind, some length =>
    let place := place + 4
    match kind with
    | 0x0001 => l.amendLarge extra place length
    | 0x000a => l.amendTimes extra place length
    | 0x5455 => l.amendStamps extra place length
    | 0x6375 => l.amendComment extra place length
    | 0x7075 => l.amendName extra place length
    | 0x9901 => l.amendKey extra place length
    | _ => l.pass extra (place + length)
  | _, _ => .short l

/-- Reads extra fields from a place on. A field takes at least four bytes. -/
def Listing.amendFrom (extra : ByteArray) : Nat → (place : Nat) → Listing → Option Listing
  | 0, _, l => some l
  | fuel + 1, place, l =>
    if extra.size ≤ place then some l
    else match l.amend extra place with
      | .next l place => amendFrom extra fuel place l
      | .short l => some l
      | .faulty => none

/-- The entry that extra fields make of an entry. -/
def Listing.amended? (l : Listing) (extra : ByteArray) : Option Listing := do
  let l ← Listing.amendFrom extra extra.size 0 l
  if l.methodCode == keyedCode && !l.keyed then none else some l

end Paperwork.Archive
