import BiomeAtlas.Unicode.Identifier

/-! # Scanning

A `Scanner` takes characters from the front of a text, or fails. This module holds the smallest
scanners: single characters, fixed words, runs of characters, and the gaps between tokens, which are
made of blanks and comments. -/

namespace BiomeAtlas.Ron

/-- Takes characters from the front of a text, or fails. -/
abbrev Scanner := StateT (List Char) Option

/-- Characters that separate tokens. -/
def isBlank (c : Char) : Bool :=
  c == ' ' || c == '\t' || c == '\n' || c == '\r' || c == '\x0b' || c == '\x0c' ||
    c == '\u0085' || c == '\u200e'
    || c == '\u200f' || c == '\u2028' || c == '\u2029'

/-- Where in the gap between two tokens a position is. -/
inductive Gap where
  /-- Between blanks and comments. -/
  | outside
  /-- In a comment that ends with the line. -/
  | line
  /-- In a comment that holds `depth` further open comments. -/
  | block (depth : Nat)

/-- What follows a gap. A comment that is never closed, and a slash that opens none, are refused. -/
def afterGap? : Gap → List Char → Option (List Char)
  | .outside, [] => some []
  | .outside, '/' :: '/' :: rest => afterGap? .line rest
  | .outside, '/' :: '*' :: rest => afterGap? (.block 0) rest
  | .outside, c :: rest =>
    if isBlank c then afterGap? .outside rest else if c == '/' then none else some (c :: rest)
  | .line, [] => some []
  | .line, c :: rest => afterGap? (if c == '\n' then .outside else .line) rest
  | .block _, [] => none
  | .block depth, '/' :: '*' :: rest => afterGap? (.block (depth + 1)) rest
  | .block 0, '*' :: '/' :: rest => afterGap? .outside rest
  | .block (depth + 1), '*' :: '/' :: rest => afterGap? (.block depth) rest
  | .block depth, _ :: rest => afterGap? (.block depth) rest

/-- What follows a fixed beginning, if the text has it. -/
def afterPrefix? : List Char → List Char → Option (List Char)
  | [], text => some text
  | c :: fixed, d :: text => if c == d then afterPrefix? fixed text else none
  | _ :: _, [] => none

namespace Scanner

/-- Skips the gap before the next token. -/
def gap : Scanner Unit := fun text => do
  return ((), ← afterGap? .outside text)

/-- The next character, which stays in place. -/
def peek? : Scanner (Option Char) := fun text => some (text.head?, text)

/-- Takes the next character. -/
def next : Scanner Char
  | [] => none
  | c :: rest => some (c, rest)

/-- Takes a character if it is the next one. -/
def accept (c : Char) : Scanner Bool
  | [] => some (false, [])
  | d :: rest => some (if d == c then (true, rest) else (false, d :: rest))

/-- Takes a character that has to be the next one. -/
def expect (c : Char) : Scanner Unit
  | [] => none
  | d :: rest => if d == c then some ((), rest) else none

/-- Takes the characters of a fixed text if they come next. -/
def acceptText (fixed : String) : Scanner Bool := fun text =>
  match afterPrefix? fixed.toList text with
  | some rest => some (true, rest)
  | none => some (false, text)

/-- Takes a fixed word if it comes next and ends there. -/
def acceptWord (word : String) : Scanner Bool := fun text =>
  match afterPrefix? word.toList text with
  | some rest =>
    some (if rest.head?.any Unicode.isIdentifierContinue then (false, text) else (true, rest))
  | none => some (false, text)

/-- Takes the first of several words that comes next. -/
def acceptWords : List String → Scanner Bool
  | [] => return false
  | word :: others => do
    if ← acceptWord word then return true
    acceptWords others

/-- Takes all characters up to the first one outside a class. -/
def run (inside : Char → Bool) : Scanner (List Char) := fun text =>
  some (text.takeWhile inside, text.dropWhile inside)

/-- Takes a comma and the gaps around it, if one comes next. -/
def comma : Scanner Bool := do
  gap
  if ← accept ',' then
    gap
    return true
  return false

end Scanner

/-! ## Identifiers -/

/-- Characters of identifiers that are marked as raw. -/
def isRawContinue (c : Char) : Bool :=
  c == '.' || c == '+' || c == '-' || Unicode.isIdentifierContinue c

/-- Whether an identifier may begin with the character. -/
def isNameStart (c : Char) : Bool :=
  c == '_' || Unicode.isIdentifierStart c

/-- What looks like an identifier but opens a text or a sequence of bytes. -/
def literalMarks : List String := ["b\"", "b'", "br#", "br\"", "r\"", "r#\"", "r##"]

/-- The identifier that comes next, if one does, and what follows it. -/
def identifier? (text : List Char) : Option (String × List Char) :=
  if literalMarks.any fun mark => mark.toList.isPrefixOf text then none
  else match text with
    | 'r' :: '#' :: raw =>
      let name := raw.takeWhile isRawContinue
      if name.isEmpty then none else some (String.ofList name, raw.dropWhile isRawContinue)
    | c :: rest =>
      if isNameStart c then
        some (String.ofList (c :: rest.takeWhile Unicode.isIdentifierContinue),
          rest.dropWhile Unicode.isIdentifierContinue)
      else none
    | [] => none

/-- Takes an identifier that has to come next and that is not continued by raw characters. -/
def Scanner.identifier : Scanner String := fun text => do
  let (name, rest) ← identifier? text
  if rest.head?.any isRawContinue then none else some (name, rest)

end BiomeAtlas.Ron
