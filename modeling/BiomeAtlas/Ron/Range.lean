import BiomeAtlas.Ron.Text

/-! # Numbers and ranges

A number is a word such as `inf`, a byte, or digits. Two points behind a number, or in place of one,
make a range: they follow the first number at once, and the last one follows them at once. An equals
sign behind the points closes the range, and then there has to be a last number. -/

namespace BiomeAtlas.Ron

/-- Whether a number that is no word comes next. -/
def opensNumber : List Char → Bool
  | '.' :: '.' :: _ => false
  | 'b' :: '\'' :: _ => true
  | c :: _ => c.isDigit || c == '+' || c == '-' || c == '.'
  | [] => false

namespace Scanner

/-- Takes a number of any kind, if one comes next. -/
def number? : Scanner (Option Number) := do
  let text ← get
  if ← acceptWords specials then
    return some (.decimal (before text (← get)))
  else if opensNumber text then
    some <$> if text.head? == some 'b' then byte else number
  else
    return none

/-- Takes a number or a range of numbers, if one comes next. -/
def range? : Scanner (Option Value) := do
  let first? ← number?
  if ← acceptText ".." then
    let closed ← accept '='
    let last? ← number?
    guard (!closed || last?.isSome)
    return some (.range first? last? closed)
  else
    return first?.map .number

end Scanner

end BiomeAtlas.Ron
