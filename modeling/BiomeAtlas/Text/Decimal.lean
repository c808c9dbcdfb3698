/-! # Decimal numbers

Numbers as decimal digits, with or without a sign. There is no limit to the number of digits, and
nothing else may stand beside them. Whole numbers are read as what they stand for; numbers with a
fraction or an exponent are only recognised. -/

namespace BiomeAtlas.Text

/-- The number that decimal digits stand for, going on from a number. -/
def digits? : Nat → List Char → Option Nat
  | n, [] => some n
  | n, c :: rest => if c.isDigit then digits? (10 * n + (c.toNat - '0'.toNat)) rest else none

/-- The number that a text of one digit or more stands for. -/
def natural? (text : List Char) : Option Nat :=
  if text.isEmpty then none else digits? 0 text

/-- A number with or without a sign. -/
def integer? (text : String) : Option Int :=
  match text.toList with
  | '-' :: digits => (natural? digits).map fun n => -n
  | '+' :: digits => (natural? digits).map fun n => n
  | digits => (natural? digits).map fun n => n

/-- The sign at the front of a text, and what follows it. -/
def splitSign : List Char → Bool × List Char
  | '+' :: rest => (false, rest)
  | '-' :: rest => (true, rest)
  | text => (false, text)

/-- Whether the exponent of a number, with its mark, is complete or missing. -/
def isExponent : List Char → Bool
  | [] => true
  | mark :: rest =>
    let (_, digits) := splitSign rest
    (mark == 'e' || mark == 'E') && !digits.isEmpty && digits.all Char.isDigit

/-- Whether a text is a number in the usual notation: digits around a point, and an exponent. -/
def isDecimal (text : List Char) : Bool :=
  let (_, body) := splitSign text
  let (whole, rest) := (body.takeWhile Char.isDigit, body.dropWhile Char.isDigit)
  match rest with
  | '.' :: rest =>
    let (fraction, rest) := (rest.takeWhile Char.isDigit, rest.dropWhile Char.isDigit)
    (!whole.isEmpty || !fraction.isEmpty) && isExponent rest
  | _ => !whole.isEmpty && isExponent rest

end BiomeAtlas.Text
