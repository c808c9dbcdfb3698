import BiomeAtlas.Ron.Number

/-! # Texts, characters and bytes

A text stands between quotes and may hold line ends; a backslash begins an escape, or joins a line
and the next one. A raw text begins with the letter `r` and ends at a quote with as many number
signs behind it as stand before its first quote; it has no escapes. Single characters stand between
apostrophes, and sequences of bytes are marked with the letter `b`. -/

namespace BiomeAtlas.Ron

/-- The byte written as two hexadecimal digits, and what follows it. -/
def hexByte? : List Char → Option (UInt8 × List Char)
  | high :: low :: rest => do
    let n := 16 * (← Text.hexDigit? high) + (← Text.hexDigit? low)
    return (UInt8.ofNat n, rest)
  | _ => none

/-- The character that some bytes encode. -/
def charOfBytes? (bytes : List UInt8) : Option Char := do
  match (← String.fromUTF8? ⟨bytes.toArray⟩).toList with
  | [c] => some c
  | _ => none

/-- A character whose encoding is written byte by byte: the bytes read so far do not encode it yet,
and up to `more` bytes may follow. -/
def laterBytes? : Nat → List UInt8 → List Char → Option (Char × List Char)
  | more + 1, bytes, '\\' :: 'x' :: rest => do
    let (byte, rest) ← hexByte? rest
    let bytes := bytes ++ [byte]
    match charOfBytes? bytes with
    | some c => return (c, rest)
    | none => laterBytes? more bytes rest
  | _, _, _ => none

/-- The character with a code point of one to six hexadecimal digits, which are closed by a
brace. -/
def codePoint? (text : List Char) : Option (Char × List Char) := do
  let digits := (text.take 6).takeWhile (· != '\x7d')
  guard (!digits.isEmpty && digits.all fun c => (Text.hexDigit? c).isSome)
  let n ← digits? 16 0 digits
  match text.drop digits.length with
  | '\x7d' :: rest => if n.isValidChar then return (Char.ofNat n, rest) else none
  | _ => none

/-- The character that an escape stands for, and what follows it. Only in texts may the encoding of
a character be spread over several bytes. -/
def escape? (spread : Bool) : List Char → Option (Char × List Char)
  | '\'' :: rest => some ('\'', rest)
  | '"' :: rest => some ('"', rest)
  | '\\' :: rest => some ('\\', rest)
  | 'n' :: rest => some ('\n', rest)
  | 'r' :: rest => some ('\r', rest)
  | 't' :: rest => some ('\t', rest)
  | '0' :: rest => some ('\x00', rest)
  | 'x' :: rest => do
    let (byte, rest) ← hexByte? rest
    match charOfBytes? [byte] with
    | some c => return (c, rest)
    | none => if spread then laterBytes? 3 [byte] rest else none
  | 'u' :: '\x7b' :: rest => codePoint? rest
  | _ => none

/-- The bytes that an escape stands for, and what follows it. -/
def byteEscape? : List Char → Option (List UInt8 × List Char)
  | 'x' :: rest => (hexByte? rest).map fun (byte, rest) => ([byte], rest)
  | text => (escape? false text).map fun (c, rest) => (c.toString.toUTF8.toList, rest)

/-- Why a text is refused. -/
inductive TextFault where
  /-- There is no opening quote. -/
  | unopened
  /-- There is no closing quote. -/
  | unclosed
  /-- A backslash begins no escape, although a closing quote follows. -/
  | badEscape
  deriving DecidableEq, Repr

/-- What follows the end of a line behind a backslash, and the blanks and line ends after it: none
of this counts. -/
def afterLineEnd? : List Char → Option (List Char)
  | '\n' :: rest | '\r' :: '\n' :: rest =>
    some (rest.dropWhile fun c => c == ' ' || c == '\t' || c == '\n' || c == '\r')
  | _ => none

/-- What is read up to a closing quote, and what follows it. Characters stand for something by
`plain`, and what follows a backslash by `escape?`. The first argument bounds the number of
characters. -/
def quoted {α : Type} (plain : Char → List α) (escape? : List Char → Option (List α × List Char)) :
    Nat → List Char → Except TextFault (List α × List Char)
  | 0, _ | _, [] => .error .unclosed
  | _ + 1, '"' :: rest => .ok ([], rest)
  | bound + 1, '\\' :: rest =>
    match afterLineEnd? rest with
    | some rest => quoted plain escape? bound rest
    | none =>
      match escape? rest with
      | some (first, rest) =>
        (quoted plain escape? bound rest).map fun (later, rest) => (first ++ later, rest)
      | none => .error (if rest.contains '"' then .badEscape else .unclosed)
  | bound + 1, c :: rest =>
    (quoted plain escape? bound rest).map fun (later, rest) => (plain c ++ later, rest)

/-- The characters before the first place where a mark stands, and what follows the mark. -/
def splitAt? (mark : List Char) : List Char → Option (List Char × List Char)
  | [] => none
  | c :: rest =>
    match afterPrefix? mark (c :: rest) with
    | some after => some ([], after)
    | none => (splitAt? mark rest).map fun (text, after) => (c :: text, after)

/-- The characters of a raw text without its letter, and what follows it. -/
def raw (text : List Char) : Except TextFault (List Char × List Char) :=
  let signs := text.takeWhile (· == '#')
  match text.dropWhile (· == '#') with
  | '"' :: rest =>
    match splitAt? ('"' :: signs) rest with
    | some split => .ok split
    | none => .error .unclosed
  | _ => .error .unopened

/-- The characters of a text, and what follows it. -/
def characters : List Char → Except TextFault (List Char × List Char)
  | '"' :: rest =>
    quoted (fun c => [c]) (fun text => (escape? true text).map fun (c, rest) => ([c], rest))
      rest.length rest
  | 'r' :: rest => raw rest
  | _ => .error .unopened

/-- The bytes of a sequence of bytes, and what follows it. -/
def byteSequence : List Char → Except TextFault (List UInt8 × List Char)
  | 'b' :: '"' :: rest => quoted (fun c => c.toString.toUTF8.toList) byteEscape? rest.length rest
  | 'b' :: 'r' :: rest =>
    (raw rest).map fun (chars, rest) => ((String.ofList chars).toUTF8.toList, rest)
  | _ => .error .unopened

namespace Scanner

/-- Takes a text. -/
def text : Scanner String := fun text =>
  (characters text).toOption.map fun (chars, rest) => (String.ofList chars, rest)

/-- Takes a sequence of bytes. -/
def bytes : Scanner (List UInt8) := fun text =>
  (byteSequence text).toOption

/-- Takes a single byte, which counts as a whole number. -/
def byte : Scanner Number
  | 'b' :: '\'' :: '\\' :: 'x' :: rest => do
    match ← hexByte? rest with
    | (byte, '\'' :: rest) => some (.integer byte.toNat (some .u8), rest)
    | _ => none
  | 'b' :: '\'' :: '\\' :: c :: rest => do
    if c == 'u' then none
    else match ← escape? false (c :: rest) with
      | (c, '\'' :: rest) => some (.integer c.toNat (some .u8), rest)
      | _ => none
  | 'b' :: '\'' :: c :: '\'' :: rest =>
    if c.toNat < 128 then some (.integer c.toNat (some .u8), rest) else none
  | _ => none

/-- Takes a single character. -/
def character : Scanner Char
  | '\'' :: '\\' :: rest => do
    match ← escape? false rest with
    | (c, '\'' :: rest) => some (c, rest)
    | _ => none
  | '\'' :: c :: '\'' :: rest => some (c, rest)
  | _ => none

end Scanner

end BiomeAtlas.Ron
