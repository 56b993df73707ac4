import Paperwork.Unicode.Text
import Paperwork.Unicode.Table.Case

/-!
# Letter case

Case mapping of texts and the orbits of simple case folding. Texts map character by character,
except that a capital sigma at the end of a word becomes the final small sigma.
-/

namespace Paperwork.Unicode

/-- Reads a packed mapping: distance, count and images of each entry. -/
def readMapping : Nat → List Nat → Nat → List (Nat × List Char)
  | 0, _, _ => []
  | fuel + 1, distance :: count :: rest, last =>
    let code := last + distance
    (code, (rest.take count).map Char.ofNat) :: readMapping fuel (rest.drop count) code
  | _, _, _ => []

/-- The entries of a packed mapping in increasing order. -/
def mappingOf (packed : List String) : Array (Nat × List Char) :=
  let numbers := (unpack packed).toList
  (readMapping numbers.length numbers 0).toArray

/-- The images of a code point between two places of a sorted mapping. -/
def searchMapping (mapping : Array (Nat × List Char)) (code : Nat) :
    Nat → Nat → Nat → Option (List Char)
  | 0, _, _ => none
  | fuel + 1, low, high =>
    if low < high then
      let middle := (low + high) / 2
      match mapping[middle]? with
      | none => none
      | some entry =>
        if entry.1 = code then some entry.2
        else if entry.1 < code then searchMapping mapping code fuel (middle + 1) high
        else searchMapping mapping code fuel low middle
    else none

def upperMapping : Array (Nat × List Char) := mappingOf Table.upper

def lowerMapping : Array (Nat × List Char) := mappingOf Table.lower

/-- The upper case of a character, which may be several characters. -/
def upperChar (c : Char) : List Char :=
  if c.val < 128 then [c.toUpper]
  else (searchMapping upperMapping c.toNat 16 0 upperMapping.size).getD [c]

/-- The lower case of a character outside of any text. -/
def lowerChar (c : Char) : List Char :=
  if c.val < 128 then [c.toLower]
  else (searchMapping lowerMapping c.toNat 16 0 lowerMapping.size).getD [c]

/-- Whether a character has case. -/
def isCased (c : Char) : Bool :=
  if c.val < 128 then c.isAlpha else casedCodes.contains c.toNat

/-- Whether a character is passed over when neighbours with case are looked for. -/
def isCaseIgnorable (c : Char) : Bool := caseIgnorableCodes.contains c.toNat

/-- Whether the first character that is not passed over has case. -/
def casedFirst (cs : List Char) : Bool :=
  match cs.dropWhile isCaseIgnorable with
  | [] => false
  | c :: _ => isCased c

/-- The capital sigma. -/
def capitalSigma : Char := '\u03a3'

/-- Lower case after the characters `before`, the nearest one first. -/
def lowerFrom (before : List Char) : List Char → List Char
  | [] => []
  | c :: rest =>
    let image :=
      if c = capitalSigma then
        if casedFirst before && !casedFirst rest then ['\u03c2'] else ['\u03c3']
      else lowerChar c
    image ++ lowerFrom (c :: before) rest

/-- A text in upper case. -/
def upper (s : String) : String := String.ofList (s.toList.flatMap upperChar)

/-- A text in lower case. -/
def lower (s : String) : String := String.ofList (lowerFrom [] s.toList)

/-! ## Case folding -/

/-- The members of an orbit from the first one and the distances. -/
def members (first : Nat) : List Nat → List Nat
  | [] => [first]
  | d :: rest => first :: members (first + d) rest

/-- Reads packed orbits: size, distance of the first member, distances between members. -/
def readOrbits : Nat → List Nat → Nat → List (List Nat)
  | 0, _, _ => []
  | fuel + 1, size :: distance :: rest, last =>
    let first := last + distance
    members first (rest.take (size - 1)) :: readOrbits fuel (rest.drop (size - 1)) first
  | _, _, _ => []

/-- Sets of characters that differ in case only. -/
def orbits (_ : Unit) : List (List Nat) :=
  let numbers := (unpack Table.orbits).toList
  readOrbits numbers.length numbers 0

/-- Adds the characters that differ from members in case only. -/
def CodeSet.foldCase (s : CodeSet) : CodeSet :=
  s.union (.ofRanges (((orbits ()).filter fun orbit => orbit.any s.contains).flatMap
    fun orbit => orbit.map fun c => (c, c)))

/-- Adds the ASCII letters that differ from members in case only. -/
def CodeSet.foldAsciiCase (s : CodeSet) : CodeSet :=
  let letters := List.range 26
  s.union (.ofRanges (letters.flatMap fun i =>
    if s.contains (65 + i) || s.contains (97 + i) then [(65 + i, 65 + i), (97 + i, 97 + i)]
    else []))

end Paperwork.Unicode
