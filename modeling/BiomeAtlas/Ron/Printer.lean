import BiomeAtlas.Ron.Value
import BiomeAtlas.Unicode.Visible

/-! # Writing RON

`Value.render` writes a value so that people can read it: the members of a list, a tuple, a record
or a dictionary stand on lines of their own, indented by four blanks a level and each closed by a
comma. Below `lineDepth` levels the members share one line. In texts, characters that do not show
are written as escapes. -/

namespace BiomeAtlas.Ron

/-- How many levels are spread over lines. -/
def lineDepth : Nat := 4

/-- The hexadecimal digits of a number, without leading zeros. -/
def hexDigits (n : Nat) : List Char :=
  Nat.toDigits 16 n

/-- How a character is written between quotes or apostrophes. -/
def escaped (c : Char) : List Char :=
  match c with
  | '\x00' => ['\\', '0']
  | '\t' => ['\\', 't']
  | '\r' => ['\\', 'r']
  | '\n' => ['\\', 'n']
  | '\\' | '"' | '\'' => ['\\', c]
  | c => if Unicode.isVisible c then [c] else ['\\', 'u', '\x7b'] ++ hexDigits c.toNat ++ ['\x7d']

/-- A text with its quotes. -/
def quote (text : String) : List Char :=
  '"' :: (text.toList.flatMap escaped ++ ['"'])

/-- The blanks before a line at some level. -/
def indentation (level : Nat) : List Char :=
  List.replicate (4 * level) ' '

/-- Members on one line, with commas between them. -/
def inLine : List (List Char) → List Char
  | [] => []
  | [member] => member
  | member :: later => member ++ [',', ' '] ++ inLine later

/-- Members between two marks at some level. -/
def enclosed (opening closing : Char) (level : Nat) (members : List (List Char)) : List Char :=
  if members.isEmpty then [opening, closing]
  else if level < lineDepth then
    let line (member : List Char) : List Char := indentation (level + 1) ++ member ++ [',', '\n']
    [opening, '\n'] ++ members.flatMap line ++ indentation level ++ [closing]
  else opening :: (inLine members ++ [closing])

/-- How a byte is written. -/
def escapedByte (byte : UInt8) : List Char :=
  ['\\', 'x'] ++ (if byte < 16 then ['0'] else []) ++ hexDigits byte.toNat

/-- How a number is written. -/
def Number.write : Number → List Char
  | integer value type? =>
    (toString value).toList ++ (type?.map fun type => type.name.toList).getD []
  | decimal digits => digits.toList

namespace Value

mutual

/-- How a value is written at some level. -/
def write (level : Nat) : Value → List Char
  | word name => name.toList
  | bool value => (if value then "true" else "false").toList
  | number value => value.write
  | range first? last? closed =>
    (first?.map Number.write).getD [] ++ (if closed then "..=" else "..").toList ++
      (last?.map Number.write).getD []
  | char value => '\'' :: (escaped value ++ ['\''])
  | text value => quote value
  | bytes value => ['b', '"'] ++ value.flatMap escapedByte ++ ['"']
  | absent => "None".toList
  | present value => "Some(".toList ++ value.write level ++ [')']
  | list items => enclosed '[' ']' level (writeItems (level + 1) items)
  | map members => enclosed '\x7b' '\x7d' level (writeEntries (level + 1) members)
  | tuple name? items =>
    (name?.getD "").toList ++ enclosed '(' ')' level (writeItems (level + 1) items)
  | record name? members =>
    (name?.getD "").toList ++ enclosed '(' ')' level (writeFields (level + 1) members)

/-- How the members of a list or a tuple are written. -/
def writeItems (level : Nat) : List Value → List (List Char)
  | [] => []
  | item :: later => item.write level :: writeItems level later

/-- How the members of a dictionary are written. -/
def writeEntries (level : Nat) : List (Value × Value) → List (List Char)
  | [] => []
  | (key, value) :: later =>
    (key.write level ++ [':', ' '] ++ value.write level) :: writeEntries level later

/-- How the members of a record are written. -/
def writeFields (level : Nat) : List (String × Value) → List (List Char)
  | [] => []
  | (name, value) :: later =>
    (name.toList ++ [':', ' '] ++ value.write level) :: writeFields level later

end

/-- A value as a text of its own. -/
def render (value : Value) : String :=
  String.ofList (value.write 0)

end Value

end BiomeAtlas.Ron
