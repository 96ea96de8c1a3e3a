/-!
# Checksums of archive members

The cyclic redundancy check of 32 bits with the reflected polynomial `edb88320`: the message,
complemented at both ends, is divided bit by bit and the remainder kept.
-/

namespace Enhance.Archive

/-- The remainder after one more bit. -/
def crcShift (remainder : UInt32) : UInt32 :=
  if remainder &&& 1 = 1 then (remainder >>> 1) ^^^ 0xedb88320 else remainder >>> 1

/-- The remainder after one more byte. -/
def crcByte (remainder : UInt32) (byte : UInt8) : UInt32 :=
  (List.range 8).foldl (fun r _ => crcShift r) (remainder ^^^ byte.toUInt32)

/-- The checksum of bytes. -/
def crc32 (bytes : List UInt8) : Nat :=
  (bytes.foldl crcByte 0xffffffff ^^^ 0xffffffff).toNat

end Enhance.Archive
