/-!
# Text from bytes

Bytes that need not be UTF-8 still have a text: each longest start of a character that goes no
further counts as one replacement character. Names of old archives use code page 437.
-/

namespace Paperwork.Text

/-- What the first byte of a character tells: how many bytes follow, and the range of the next. -/
def leadByte? (b : UInt8) : Option (Nat × UInt8 × UInt8) :=
  if 0xC2 ≤ b && b ≤ 0xDF then some (1, 0x80, 0xBF)
  else if b == 0xE0 then some (2, 0xA0, 0xBF)
  else if b == 0xED then some (2, 0x80, 0x9F)
  else if 0xE1 ≤ b && b ≤ 0xEF then some (2, 0x80, 0xBF)
  else if b == 0xF0 then some (3, 0x90, 0xBF)
  else if 0xF1 ≤ b && b ≤ 0xF3 then some (3, 0x80, 0xBF)
  else if b == 0xF4 then some (3, 0x80, 0x8F)
  else none

/-- The bytes that may follow a first byte, at most a number of them. -/
def followers (more : Nat) (low high : UInt8) (bytes : List UInt8) : List UInt8 :=
  match more, bytes with
  | 0, _ => []
  | _, [] => []
  | n + 1, b :: rest =>
    if low ≤ b && b ≤ high then b :: followers n 0x80 0xBF rest else []

/-- The code point of a first byte and all its followers. -/
def codeOf (lead : UInt8) (tail : List UInt8) : Nat :=
  let bits := if tail.length == 1 then lead.toNat % 32
    else if tail.length == 2 then lead.toNat % 16
    else lead.toNat % 8
  tail.foldl (fun n b => n * 64 + b.toNat % 64) bits

/-- Decodes characters in turn. -/
def decodeChars : Nat → List UInt8 → List Char
  | 0, _ => []
  | _, [] => []
  | fuel + 1, b :: rest =>
    if b < 0x80 then Char.ofNat b.toNat :: decodeChars fuel rest
    else match leadByte? b with
      | none => '\ufffd' :: decodeChars fuel rest
      | some (more, low, high) =>
        let tail := followers more low high rest
        let c := if tail.length == more then Char.ofNat (codeOf b tail) else '\ufffd'
        c :: decodeChars fuel (rest.drop tail.length)

/-- The text of bytes, with replacement characters for what is no UTF-8. -/
def ofBytes (bytes : ByteArray) : String :=
  match String.fromUTF8? bytes with
  | some s => s
  | none => String.ofList (decodeChars bytes.size bytes.toList)

/-- The characters of code page 437 from 128 on. -/
def upperHalf437 : Array Char :=
  ("ÇüéâäàåçêëèïîìÄÅÉæÆôöòûùÿÖÜ¢£¥₧ƒáíóúñÑªº¿⌐¬½¼¡«»░▒▓│┤╡╢╖╕╣║╗╝╜╛┐└┴┬├─┼╞╟╚╔╩╦╠═╬╧╨╤╥╙╘╒╓╫╪┘┌"
    ++ "█▄▌▐▀αßΓπΣσµτΦΘΩδ∞φε∩≡±≥≤⌠⌡÷≈°∙·√ⁿ²■\u00a0").toList.toArray

/-- The text of bytes of code page 437. -/
def ofBytes437 (bytes : ByteArray) : String :=
  String.ofList (bytes.toList.map fun b =>
    if b < 128 then Char.ofNat b.toNat else (upperHalf437[b.toNat - 128]?).getD '\ufffd')

end Paperwork.Text
