import BiomeAtlas.Pattern.Basic
import BiomeAtlas.Text.Hexadecimal
import BiomeAtlas.Unicode.Alphanumeric
import BiomeAtlas.Unicode.Space

/-! # Reading patterns

`Pattern.parse?` reads a whole text as a pattern. Patterns stand in a directive of the log, between
braces, and so never hold a closing brace; the notations that end with one, which count repetitions
and name characters and classes, are refused.

With the flag `x`, blanks and comments between the marks do not count. A comment begins with a
number sign and ends with the line. -/

namespace BiomeAtlas

namespace Pattern

/-- What is left to be read, and what was found out so far. -/
structure Reading where
  /-- The rest of the text. -/
  rest : List Char
  /-- The names of the groups so far. -/
  names : List (List Char) := []
  /-- Whether blanks and comments do not count. -/
  spaced : Bool := false

/-- Takes characters from the front of a text, or fails. -/
abbrev Reader := StateT Reading Option

/-- What follows blanks and comments; the first argument tells whether a comment is open. -/
def afterBlanks : Bool → List Char → List Char
  | _, [] => []
  | true, c :: rest => afterBlanks (c != '\n') rest
  | false, c :: rest =>
    if Unicode.isSpace c then afterBlanks false rest
    else if c == '#' then afterBlanks true rest
    else c :: rest

/-- The next character behind blanks. A number sign counts as a blank here, but only once. -/
def peekAfterBlanks (text : List Char) : Option Char :=
  match text.dropWhile Unicode.isSpace with
  | '#' :: rest => (rest.dropWhile Unicode.isSpace).head?
  | rest => rest.head?

namespace Reader

/-- Goes on at some rest of the text. -/
def continueAt (rest : List Char) : Reader Unit :=
  modify fun reading => { reading with rest }

/-- Skips blanks and comments if they do not count. -/
def skipBlanks : Reader Unit :=
  modify fun reading => { reading with
    rest := if reading.spaced then afterBlanks false reading.rest else reading.rest }

/-- Takes the next character. -/
def next : Reader Char := do
  match (← get).rest with
  | c :: rest =>
    continueAt rest
    return c
  | [] => failure

/-- Takes a character that has to be the next one. -/
def expect (c : Char) : Reader Unit := do
  guard ((← next) == c)

/-- Takes hexadecimal digits, going on from a number. -/
def hexDigits : Nat → Nat → Reader Nat
  | 0, n => return n
  | count + 1, n => do
    skipBlanks
    hexDigits count (16 * n + (← Text.hexDigit? (← next)))

/-- Takes the character with a code point of so many hexadecimal digits. -/
def codePoint (count : Nat) : Reader Char := do
  let n ← hexDigits count 0
  guard (decide n.isValidChar)
  return Char.ofNat n

/-- Whether a character that stands for itself may follow a backslash. -/
def isEscapable (c : Char) : Bool :=
  isAscii c && !c.isAlphanum && c != '<' && c != '>'

/-- Takes what follows a backslash. -/
def escape : Reader Pattern := do
  match ← next with
  | 'x' => return .literal (← codePoint 2) true
  | 'u' => return .literal (← codePoint 4) false
  | 'U' => return .literal (← codePoint 8) false
  | 'd' | 's' | 'w' => return .kind false
  | 'D' | 'S' | 'W' => return .kind true
  | 'a' => return .literal '\x07' false
  | 'f' => return .literal '\x0c' false
  | 't' => return .literal '\t' false
  | 'n' => return .literal '\n' false
  | 'r' => return .literal '\r' false
  | 'v' => return .literal '\x0b' false
  | 'A' | 'z' => return .boundary
  | 'b' | 'B' | '<' | '>' => return .wordBoundary
  | c =>
    guard (isEscapable c)
    return .literal c false

/-- Takes a pattern of a single character that is no mark of its own. -/
def single : Reader Pattern := do
  match ← next with
  | '\\' => escape
  | '.' => return .anyChar
  | '^' | '$' => return .boundary
  | c => return .literal c false

/-! ## Sets of characters -/

/-- The names of the classes. -/
def classNames : List String :=
  ["alnum", "alpha", "ascii", "blank", "cntrl", "digit", "graph", "lower", "print", "punct",
    "space", "upper", "word", "xdigit"]

/-- The class with a name between colons that comes next behind a bracket, and what follows it. -/
def namedClass? : List Char → Option (CharSet × List Char)
  | ':' :: text =>
    let (negated, text) :=
      match text with
      | '^' :: rest => (true, rest)
      | rest => (false, rest)
    match text.dropWhile (· != ':') with
    | ':' :: ']' :: rest =>
      if classNames.contains (String.ofList (text.takeWhile (· != ':'))) then
        some (.named negated, rest)
      else none
    | _ => none
  | _ => none

/-- Takes one end of a range, or an escape that is none. -/
def setItem : Reader Pattern := do
  match ← next with
  | '\\' => escape
  | c => return .literal c false

/-- Takes a character, a class or a range. -/
def setRange : Reader CharSet := do
  let first ← setItem
  skipBlanks
  let { rest, spaced, .. } ← get
  let single := match rest with
    | '-' :: rest =>
      [some '-', some ']'].contains (if spaced then peekAfterBlanks rest else rest.head?)
    | _ => true
  if single then
    match first with
    | .literal c _ => return .char c
    | .kind negated => return .kind negated
    | _ => failure
  else
    expect '-'
    skipBlanks
    match first, ← setItem with
    | .literal first _, .literal last _ =>
      guard (decide (first ≤ last))
      return .range first last
    | _, _ => failure

/-- Takes the minus signs at the front of a set. -/
def minusSigns : Nat → Reader (List CharSet)
  | 0 => failure
  | bound + 1 => do
    match (← get).rest with
    | '-' :: rest =>
      continueAt rest
      skipBlanks
      return .char '-' :: (← minusSigns bound)
    | _ => return []

/-- Takes the front of a set: a mark of the characters outside of it, minus signs, and a closing
bracket that closes nothing because it comes first. -/
def setFront : Reader (Bool × List CharSet) := do
  skipBlanks
  let negated := (← get).rest.head? == some '^'
  if negated then
    let _ ← next
    skipBlanks
  let signs ← minusSigns ((← get).rest.length + 1)
  if signs.isEmpty && (← get).rest.head? == some ']' then
    let _ ← next
    return (negated, [.char ']'])
  else
    return (negated, signs)

/-- The set that is joined from the left side of an operation, if there is one, and the parts that
follow it. -/
def joined (left? : Option CharSet) (parts : List CharSet) : CharSet :=
  match left? with
  | some left => .combined left (.ofParts parts.reverse)
  | none => .ofParts parts.reverse

/-- Takes a set up to its closing bracket. The first argument bounds the number of steps; the others
are the left side of an operation and, last one first, the parts behind it. -/
def setRest : Nat → Option CharSet → List CharSet → Reader CharSet
  | 0, _, _ => failure
  | fuel + 1, left?, parts => do
    skipBlanks
    match (← get).rest with
    | ']' :: rest =>
      continueAt rest
      return joined left? parts
    | '&' :: '&' :: rest | '-' :: '-' :: rest | '~' :: '~' :: rest =>
      continueAt rest
      setRest fuel (some (joined left? parts)) []
    | '[' :: rest =>
      match namedClass? rest with
      | some (named, rest) =>
        continueAt rest
        setRest fuel left? (named :: parts)
      | none =>
        continueAt rest
        let (negated, front) ← setFront
        let inside ← setRest fuel none front.reverse
        setRest fuel left? (.bracketed negated inside :: parts)
    | _ => setRest fuel left? ((← setRange) :: parts)

/-- Takes what follows an opening bracket. -/
def charSet (fuel : Nat) : Reader Pattern := do
  let (negated, front) ← setFront
  return .charSet negated (← setRest fuel none front.reverse)

/-! ## Groups -/

/-- Whether a name may begin with the character. -/
def isNameStart (c : Char) : Bool :=
  c == '_' || Unicode.isAlphabetic c

/-- Whether a name may go on with the character. -/
def isNameContinue (c : Char) : Bool :=
  c == '_' || c == '.' || c == '[' || c == ']' || Unicode.isAlphanumeric c

/-- Takes the name of a group, which no other group may have, and the mark behind it. -/
def groupName : Reader Unit := do
  let { rest, names, .. } ← get
  let name := rest.takeWhile (· != '>')
  guard (name.head?.any isNameStart && name.all isNameContinue && !names.contains name)
  modify fun reading => { reading with rest := rest.drop name.length, names := name :: names }
  expect '>'

/-- Takes the letters of flags, up to the mark behind them. -/
def flagLetters : Reader FlagLetters := do
  let rest := (← get).rest
  let letters := rest.takeWhile fun c => c != ':' && c != ')'
  guard (letters.all (fun c => ['i', 'm', 's', 'U', 'u', 'R', 'x', '-'].contains c) &&
    decide letters.Nodup)
  guard (letters.getLast? != some '-')
  continueAt (rest.drop letters.length)
  return letters

/-- Lets blanks and comments count or not count, as flags say. -/
def applySpaced (letters : FlagLetters) : Reader Unit :=
  modify fun reading => { reading with spaced := (letters.state? 'x').getD reading.spaced }

mutual

/-- Takes a pattern up to the end of a group or of the text. The first argument bounds the number of
steps; the others are, last one first, the branches so far and the parts of the last branch. -/
def branches : Nat → List Pattern → List Pattern → Reader Pattern
  | 0, _, _ => failure
  | fuel + 1, done, parts => do
    skipBlanks
    match (← get).rest with
    | [] | ')' :: _ => return .ofBranches (.ofParts parts.reverse :: done).reverse
    | '|' :: rest =>
      continueAt rest
      branches fuel (.ofParts parts.reverse :: done) []
    | '(' :: rest =>
      continueAt rest
      branches fuel done ((← group fuel) :: parts)
    | '[' :: rest =>
      continueAt rest
      branches fuel done ((← charSet fuel) :: parts)
    | '*' :: rest | '+' :: rest | '?' :: rest =>
      match parts with
      | part :: earlier =>
        guard part.isRepeatable
        continueAt (if rest.head? == some '?' then rest.drop 1 else rest)
        branches fuel done (.repeated part :: earlier)
      | [] => failure
    | '\x7b' :: _ => failure
    | _ => branches fuel done ((← single) :: parts)

/-- Takes what follows an opening parenthesis. -/
def group : Nat → Reader Pattern
  | 0 => failure
  | fuel + 1 => do
    skipBlanks
    match (← get).rest with
    | '?' :: 'P' :: '<' :: rest | '?' :: '<' :: rest =>
      continueAt rest
      groupName
      groupRest fuel []
    | '?' :: rest =>
      continueAt rest
      let letters ← flagLetters
      if (← next) == ':' then
        groupRest fuel letters
      else
        guard !letters.isEmpty
        applySpaced letters
        return .flags letters
    | _ => groupRest fuel []

/-- Takes the inside of a group with some flags, and the closing parenthesis. -/
def groupRest : Nat → FlagLetters → Reader Pattern
  | 0, _ => failure
  | fuel + 1, letters => do
    let spaced := (← get).spaced
    applySpaced letters
    let inside ← branches fuel [] []
    expect ')'
    modify fun reading => { reading with spaced }
    return .group letters inside

end

end Reader

/-- The pattern that a text is. -/
def parse? (text : List Char) : Option Pattern := do
  match ← (Reader.branches (3 * text.length + 3) [] []).run { rest := text } with
  | (pattern, { rest := [], .. }) => some pattern
  | _ => none

end Pattern

end BiomeAtlas
