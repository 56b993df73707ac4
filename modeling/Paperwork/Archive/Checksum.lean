/-!
# Checksums

The cyclic checksum of 32 bits. Archives take bits from the low end of a byte, over the reversed
polynomial `0xEDB88320`; sorted data takes them from the high end, over `0x04C11DB7`.
-/

namespace Paperwork.Archive

/-- One bit of the division. -/
def shiftBit (state : UInt32) : UInt32 :=
  if state &&& 1 == 1 then (state >>> 1) ^^^ 0xEDB88320 else state >>> 1

/-- The eight bits of a byte. -/
def feedByte (state : UInt32) (b : UInt8) : UInt32 :=
  Nat.repeat shiftBit 8 (state ^^^ b.toUInt32)

/-- The checksum of bytes. -/
def checksum (bytes : ByteArray) : UInt32 :=
  bytes.foldl feedByte 0xFFFFFFFF ^^^ 0xFFFFFFFF

/-- One bit of the division from the high end. -/
def shiftHighBit (state : UInt32) : UInt32 :=
  if state >>> 31 == 1 then (state <<< 1) ^^^ 0x04C11DB7 else state <<< 1

/-- The eight bits of a byte from the high end. -/
def feedHighByte (state : UInt32) (b : UInt8) : UInt32 :=
  Nat.repeat shiftHighBit 8 (state ^^^ (b.toUInt32 <<< 24))

/-- The checksum of bytes from the high end. -/
def highChecksum (bytes : ByteArray) : UInt32 :=
  bytes.foldl feedHighByte 0xFFFFFFFF ^^^ 0xFFFFFFFF

end Paperwork.Archive
