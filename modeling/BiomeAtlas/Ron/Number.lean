import BiomeAtlas.Ron.Scanner
import BiomeAtlas.Ron.Value
import BiomeAtlas.Text.Decimal
import BiomeAtlas.Text.Hexadecimal

/-! # Numbers

Whole numbers are written in base two, eight, ten or sixteen, with underscores between the digits,
and may end with the name of a type. Numbers with a fraction or an exponent follow the usual
notation. Which of the two a notation is depends on its characters alone; a whole number that is too
large counts as a number of the second kind. Two points in a row never belong to a number: they
stand between the ends of a range. -/

namespace BiomeAtlas.Ron

/-- Characters of whole numbers. -/
def isIntChar (c : Char) : Bool :=
  (Text.hexDigit? c).isSome || c == '_'

/-- Characters of numbers with a fraction or an exponent. -/
def isDecimalChar (c : Char) : Bool :=
  c.isDigit || c == 'e' || c == 'E' || c == '.' || c == '+' || c == '-' || c == '_'

/-- The number that digits stand for, going on from a number. Underscores do not count. -/
def digits? (base : Nat) : Nat → List Char → Option Nat
  | n, [] => some n
  | n, c :: rest =>
    if c == '_' then digits? base n rest
    else match Text.hexDigit? c with
      | some digit => if digit < base then digits? base (n * base + digit) rest else none
      | none => none

/-- The base of a whole number, and its digits without the mark of the base. -/
def splitBase : List Char → Nat × List Char
  | '0' :: 'b' :: rest => (2, rest)
  | '0' :: 'o' :: rest => (8, rest)
  | '0' :: 'x' :: rest => (16, rest)
  | text => (10, text)

/-- The whole number at the front of a text without a sign, and what follows it. -/
def natural? (text : List Char) : Option (Nat × List Char) :=
  let (base, rest) := splitBase text
  let digits := rest.takeWhile isIntChar
  if digits.isEmpty || digits.head? == some '_' then none
  else (digits? base 0 digits).map fun n => (n, rest.dropWhile isIntChar)

/-- The type whose name comes next, and what follows it. -/
def suffix? (text : List Char) : Option (IntType × List Char) :=
  IntType.all.findSome? fun type =>
    match Scanner.acceptWord type.name text with
    | some (true, rest) => some (type, rest)
    | _ => none

/-- A number with a sign. -/
def signed (negative : Bool) (n : Nat) : Int :=
  if negative then -n else n

/-- The whole number at the front of a text, and what follows it. A number without a type has to fit
a type of 64 bits. -/
def integer? (text : List Char) : Option (Number × List Char) := do
  let (negative, rest) := Text.splitSign text
  let (n, rest) ← natural? rest
  match suffix? rest with
  | some (type, rest) =>
    guard (type.contains (signed negative n))
    return (.integer (signed negative n) (some type), rest)
  | none =>
    guard ((if negative then IntType.i64 else IntType.u64).contains (signed negative n))
    return (.integer (signed negative n) none, rest)

/-- A number without its underscores, each of which has to follow a digit or the mark of the
exponent. -/
def withoutUnderscores? : Bool → List Char → Option (List Char)
  | _, [] => some []
  | allowed, c :: rest =>
    if c == '_' then if allowed then withoutUnderscores? allowed rest else none
    else
      let allowed :=
        if c.isDigit || c == 'e' || c == 'E' then true else if c == '.' then false else allowed
      (withoutUnderscores? allowed rest).map (c :: ·)

/-- Words for infinite and undefined numbers. -/
def specials : List String :=
  (["inf", "NaN"]).flatMap fun name => [name, name ++ "f32", name ++ "f64"]

/-- The same words with a sign. -/
def signedSpecials : List String :=
  (["+", "-"]).flatMap fun sign => specials.map fun name => sign ++ name

/-- The characters at the front of a text that may belong to a number with a fraction or an
exponent, and what follows them. -/
def decimalRun : List Char → List Char × List Char
  | '.' :: '.' :: rest => ([], '.' :: '.' :: rest)
  | c :: rest =>
    if isDecimalChar c then
      let (run, rest) := decimalRun rest
      (c :: run, rest)
    else ([], c :: rest)
  | [] => ([], [])

/-- The characters of a text before some rest of it. -/
def before (text rest : List Char) : String :=
  String.ofList (text.take (text.length - rest.length))

/-- The number with a fraction or an exponent at the front of a text, and what follows it. -/
def decimal? (text : List Char) : Option (Number × List Char) := do
  match Scanner.acceptWords signedSpecials text with
  | some (true, rest) => return (.decimal (before text rest), rest)
  | _ =>
    let (run, rest) := decimalRun text
    let digits ← withoutUnderscores? false run
    guard (Text.isDecimal digits)
    match Scanner.acceptWords ["f32", "f64"] rest with
    | some (true, after) => return (.decimal (String.ofList digits), after)
    | _ => return (.decimal (String.ofList digits), rest)

/-- Whether the characters that come next go on as a number with a fraction or an exponent beyond
the digits of a whole number. -/
def looksDecimal (text : List Char) : Bool :=
  let (_, rest) := Text.splitSign text
  decide ((rest.takeWhile isIntChar).length < (decimalRun rest).1.length)

/-- Takes a number that begins with a digit, a sign or a point. -/
def Scanner.number : Scanner Number := fun text =>
  if looksDecimal text then decimal? text else (integer? text).orElse fun _ => decimal? text

end BiomeAtlas.Ron
