import BiomeAtlas.Ron.Text

/-! # What an optional value holds

If the members of a tuple or a record need no parentheses of their own, then what the parentheses
behind `Some` hold is found out by looking ahead, before anything is read. `Payload.ofText?` looks
for an identifier with a colon behind it, and otherwise for a comma outside of all brackets with
something behind it.

Looking ahead knows nothing of values but brackets, commas, comments, and the literals that may hold
any of these. -/

namespace BiomeAtlas.Ron

/-- What the parentheses of an optional value hold. -/
inductive Payload where
  /-- Nothing. -/
  | nothing
  /-- A single value. -/
  | value
  /-- The members of a tuple. -/
  | items
  /-- The members of a record. -/
  | fields
  deriving DecidableEq, Repr

namespace Scanner

/-- Skips a literal if one comes next. One that is never closed is refused. -/
def skipLiteral {α : Type} (read : List Char → Except TextFault (α × List Char)) :
    Scanner Unit := fun text =>
  match read text with
  | .ok (_, rest) => some ((), rest)
  | .error .unclosed => none
  | .error _ => some ((), text)

/-- Skips a character between apostrophes if one comes next. -/
def skipCharacter : Scanner Unit := fun text =>
  match character text with
  | some (_, rest) => some ((), rest)
  | none => some ((), text)

/-- Whether a comma comes before the closing bracket, inside no other brackets and with something
behind it. The first argument bounds the number of characters, the second one is the number of
brackets that are open. -/
def separates : Nat → Nat → Scanner Bool
  | 0, _ => failure
  | bound + 1, depth => do
    gap
    skipCharacter
    skipLiteral characters
    skipLiteral byteSequence
    match ← next, depth with
    | '(', _ | '[', _ | '\x7b', _ => separates bound (depth + 1)
    | ')', 0 | ']', 0 | '\x7d', 0 => return false
    | ')', depth + 1 | ']', depth + 1 | '\x7d', depth + 1 => separates bound depth
    | ',', 0 => do
      gap
      return (← peek?) != some ')'
    | _, _ => separates bound depth

end Scanner

namespace Payload

/-- What the rest of the parentheses holds, if no colon is at its front. -/
def unnamed? (text : List Char) : Option Payload := do
  let (several, _) ← Scanner.separates (text.length + 1) 0 text
  return if several then items else value

/-- What the parentheses hold at whose inside a text begins; nothing if that cannot be told. -/
def ofText? (text : List Char) : Option Payload := do
  let text ← afterGap? .outside text
  if text.head? == some ')' then return nothing
  match identifier? text with
  | none => unnamed? text
  | some (_, rest) =>
    match ← afterGap? .outside rest with
    | ':' :: _ => return fields
    | ')' :: _ => return value
    | ',' :: rest => return if (← afterGap? .outside rest).head? == some ')' then value else items
    | rest => unnamed? rest

end Payload

end BiomeAtlas.Ron
