/-! # Checksums

Two checksums guard an image file: `crc32` over every chunk, and `adler32` over the data in a
stream. Both are folds over the bytes, so a checksum can be continued behind any prefix. -/

namespace BiomeAtlas.Checksum

/-- One bit of the division by the polynomial of the cyclic redundancy check, lowest bit first. -/
def crcBit (remainder : UInt32) : UInt32 :=
  if remainder &&& 1 = 1 then (remainder >>> 1) ^^^ 0xEDB88320 else remainder >>> 1

/-- The remainder after one more byte. -/
def crcByte (remainder : UInt32) (byte : UInt8) : UInt32 :=
  (List.range 8).foldl (fun remainder _ => crcBit remainder) (remainder ^^^ byte.toUInt32)

/-- The cyclic redundancy check of some bytes. -/
def crc32 (bytes : ByteArray) : UInt32 :=
  bytes.foldl crcByte 0xFFFFFFFF ^^^ 0xFFFFFFFF

/-- The modulus of the sums: the largest prime below `2 ^ 16`. -/
def adlerModulus : UInt32 := 65521

/-- The sum of the bytes, and the sum of these sums, after one more byte. -/
def adlerByte (sums : UInt32 × UInt32) (byte : UInt8) : UInt32 × UInt32 :=
  let first := (sums.1 + byte.toUInt32) % adlerModulus
  (first, (sums.2 + first) % adlerModulus)

/-- Both sums over some bytes, in one word. -/
def adler32 (bytes : ByteArray) : UInt32 :=
  let (first, second) := bytes.foldl adlerByte (1, 0)
  second <<< 16 ||| first

end BiomeAtlas.Checksum
