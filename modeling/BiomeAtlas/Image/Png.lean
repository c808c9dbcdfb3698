import BiomeAtlas.Fault
import BiomeAtlas.Image.Basic
import BiomeAtlas.Image.Checksum

/-! # Image files

An image file begins with a signature, and then holds chunks: a header with the size, the pixels,
and an end mark. The pixels are kept row by row, each row behind a byte that says how it was
filtered, in a compressed stream.

`Png.encode` writes rows without filtering and streams without compression. `Png.decode?` reads the
files that are written this way. -/

namespace BiomeAtlas

namespace Png

/-- Why an image cannot be written. -/
inductive EncodeError where
  /-- The image has no pixels. -/
  | empty
  /-- The number of bytes is not that of the pixels. -/
  | pixelCount
  /-- The number of bytes does not fit a 64-bit word. -/
  | overflow
  deriving DecidableEq, Repr

/-- The first bytes of an image file. -/
def signature : ByteArray := ⟨#[137, 80, 78, 71, 13, 10, 26, 10]⟩

/-- The four bytes of a word, the highest first. -/
def bigEndian (word : UInt32) : ByteArray :=
  ⟨#[(word >>> 24).toUInt8, (word >>> 16).toUInt8, (word >>> 8).toUInt8, word.toUInt8]⟩

/-- The two bytes of a number below `2 ^ 16`, the lower first. -/
def littleEndian (n : Nat) : ByteArray :=
  ⟨#[UInt8.ofNat n, UInt8.ofNat (n / 256)]⟩

/-- A chunk: the length of its data, its kind, the data, and the check of kind and data. -/
def chunk (kind : String) (data : ByteArray) : ByteArray :=
  let body := kind.toUTF8 ++ data
  bigEndian (UInt32.ofNat data.size) ++ body ++ bigEndian (Checksum.crc32 body)

/-- What follows the size in a header: eight bits for each of four components, and the usual
methods. -/
def format : ByteArray := ⟨#[8, 6, 0, 0, 0]⟩

/-- How many bytes a block of a stream may hold. -/
def blockLimit : Nat := 65535

/-- The blocks of a stream that hold the bytes from a position on. The last block, which may be
empty, is marked. -/
def blocks (data : ByteArray) (start : Nat) : ByteArray :=
  if start + blockLimit < data.size then
    ByteArray.mk #[0] ++ littleEndian blockLimit ++ littleEndian 0 ++
      data.extract start (start + blockLimit)
      ++ blocks data (start + blockLimit)
  else
    ByteArray.mk #[1] ++ littleEndian (data.size - start) ++
      littleEndian (blockLimit - (data.size - start))
      ++ data.extract start data.size
termination_by data.size - start
decreasing_by simp only [blockLimit] at *; omega

/-- A stream without compression. -/
def stream (data : ByteArray) : ByteArray :=
  ByteArray.mk #[0x78, 0x01] ++ blocks data 0 ++ bigEndian (Checksum.adler32 data)

/-- The rows of an image, each behind the mark that it is not filtered. -/
def rows (image : Image) : ByteArray :=
  (List.range image.height).foldl (fun data z =>
    (data.push 0) ++ ⟨image.pixels.extract (4 * image.width * z) (4 * image.width * (z + 1))⟩)
    .empty

/-- The file of an image whose sides fit the size fields. -/
def encode (image : Image) : Except EncodeError ByteArray := do
  if image.width = 0 ∨ image.height = 0 then throw .empty
  if wordLimit ≤ 4 * image.width * image.height then throw .overflow
  if image.pixels.size ≠ 4 * image.width * image.height then throw .pixelCount
  return signature
    ++ chunk "IHDR"
      (bigEndian (UInt32.ofNat image.width) ++ bigEndian (UInt32.ofNat image.height) ++ format)
    ++ chunk "IDAT" (stream (rows image)) ++ chunk "IEND" .empty

/-! ## Reading -/

/-- The word in four bytes from a position on. -/
def word? (bytes : ByteArray) (start : Nat) : Option Nat := do
  let digit (i : Nat) : Option Nat := bytes[start + i]?.map UInt8.toNat
  return ((← digit 0) * 256 + (← digit 1)) * 65536 + (← digit 2) * 256 + (← digit 3)

/-- The data of the chunk at a position, and the position behind it. -/
def chunk? (kind : String) (bytes : ByteArray) (start : Nat) : Option (ByteArray × Nat) := do
  let length ← word? bytes start
  let body := bytes.extract (start + 4) (start + 8 + length)
  guard (body.size = 4 + length)
  guard (body.extract 0 4 == kind.toUTF8)
  guard ((← word? bytes (start + 8 + length)) = (Checksum.crc32 body).toNat)
  return (body.extract 4 body.size, start + 12 + length)

/-- The bytes in the blocks from a position on, and the position behind the last block. The first
argument bounds the number of blocks. -/
def blocks? : Nat → ByteArray → Nat → ByteArray → Option (ByteArray × Nat)
  | 0, _, _, _ => none
  | bound + 1, bytes, start, data => do
    let mark ← bytes[start]?
    let length := (← bytes[start + 1]?).toNat + 256 * (← bytes[start + 2]?).toNat
    let content := bytes.extract (start + 5) (start + 5 + length)
    guard (content.size = length)
    match mark with
    | 0 => blocks? bound bytes (start + 5 + length) (data ++ content)
    | 1 => return (data ++ content, start + 5 + length)
    | _ => none

/-- The data in a stream without compression. -/
def stream? (bytes : ByteArray) : Option ByteArray := do
  let (data, start) ← blocks? bytes.size bytes 2 .empty
  guard ((← word? bytes start) = (Checksum.adler32 data).toNat)
  return data

/-- The pixels in rows that are not filtered. -/
def pixels? (width height : Nat) (data : ByteArray) : Option (Array UInt8) :=
  if data.size ≠ (4 * width + 1) * height then none
  else (List.range height).foldlM (fun (pixels : Array UInt8) z =>
    let start := (4 * width + 1) * z
    if data[start]? = some 0 then
      some (pixels ++ data.data.extract (start + 1) (start + 1 + 4 * width))
    else none) #[]

/-- The image in a file. -/
def decode? (bytes : ByteArray) : Option Image := do
  guard (bytes.extract 0 8 == signature)
  let (header, start) ← chunk? "IHDR" bytes 8
  let width ← word? header 0
  let height ← word? header 4
  guard (header.extract 8 header.size == format)
  let (packed, start) ← chunk? "IDAT" bytes start
  let _ ← chunk? "IEND" bytes start
  return { width, height, pixels := ← pixels? width height (← stream? packed) }

end Png

end BiomeAtlas
