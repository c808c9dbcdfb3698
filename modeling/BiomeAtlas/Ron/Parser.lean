import BiomeAtlas.Ron.Payload
import BiomeAtlas.Ron.Range

/-! # Reading RON

`Document.parse?` reads a whole text as one value. The grammar is that of a document whose meaning
is not known in advance: a parenthesis opens a record if an identifier and a colon follow, and a
tuple otherwise.

Nesting is bounded: entering a list, a tuple, a record or a dictionary takes one step, and so does
each of its members and the value that is marked as present; `nestingLimit` steps are allowed.

A document may begin with attributes. One kind of them turns on extensions of the notation, the
others name what the document is about and do not count. -/

namespace BiomeAtlas.Ron

/-- How deep values may be nested, in steps. -/
def nestingLimit : Nat := 128

/-- Whether the members behind an opening parenthesis are named. -/
def namesMembers (text : List Char) : Bool :=
  match do afterGap? .outside (← identifier? (← afterGap? .outside text)).2 with
  | some (':' :: _) => true
  | _ => false

namespace Scanner

mutual

/-- Takes a value. The first argument bounds the number of steps, the second one the nesting. -/
def value (options : Extensions) : Nat → Nat → Scanner Value
  | 0, _ => failure
  | fuel + 1, budget => do
    if ← acceptWord "true" then return .bool true
    if ← acceptWord "false" then return .bool false
    if ← acceptWord "Some" then
      gap
      guard (0 < budget)
      if ← accept '(' then
        gap
        let inner ← payload options fuel (budget - 1)
        let _ ← comma
        expect ')'
        return .present inner
      guard options.implicitSome
      return .present (← value options fuel (budget - 1))
    if ← acceptWord "None" then return .absent
    if ← acceptText "()" then return .tuple none []
    if let some number ← range? then return number
    match identifier? (← get) with
    | some (name, rest) =>
      set rest
      gap
      if (← peek?) == some '(' then group options fuel budget (some name) else return .word name
    | none =>
      match ← peek? with
      | some '(' => group options fuel budget none
      | some '[' =>
        expect '['
        guard (0 < budget)
        let members ← items options fuel (budget - 1) ']' true
        expect ']'
        return .list members
      | some '\x7b' =>
        expect '\x7b'
        guard (0 < budget)
        let members ← entries options fuel (budget - 1) true
        expect '\x7d'
        return .map members
      | some '"' | some 'r' => return .text (← text)
      | some 'b' => return .bytes (← bytes)
      | some '\'' => return .char (← character)
      | _ => failure
termination_by structural fuel => fuel

/-- Takes what the parentheses of an optional value hold, up to the closing one. -/
def payload (options : Extensions) : Nat → Nat → Scanner Value
  | 0, _ => failure
  | fuel + 1, budget => do
    match ← if options.bareMembers then Payload.ofText? (← get) else some Payload.value with
    | .nothing => return .tuple none []
    | .value => value options fuel budget
    | .items =>
      guard (0 < budget)
      return .tuple none (← items options fuel (budget - 1) ')' true)
    | .fields =>
      guard (0 < budget)
      return .record none (← fields options fuel (budget - 1) true)
termination_by structural fuel => fuel

/-- Takes a tuple or a record. -/
def group (options : Extensions) : Nat → Nat → Option String → Scanner Value
  | 0, _, _ => failure
  | fuel + 1, budget, name? => do
    expect '('
    guard (0 < budget)
    if namesMembers (← get) then
      let members ← fields options fuel (budget - 1) true
      expect ')'
      return .record name? members
    else
      let members ← items options fuel (budget - 1) ')' true
      expect ')'
      return .tuple name? members
termination_by structural fuel => fuel

/-- Takes the members of a list or a tuple up to the closing mark. Before every member but the first
one there has to be a comma; `comma` tells whether there was one. -/
def items (options : Extensions) : Nat → Nat → Char → Bool → Scanner (List Value)
  | 0, _, _, _ => failure
  | fuel + 1, budget, closing, separated => do
    gap
    if (← peek?) == some closing then return []
    guard (separated && 0 < budget)
    let first ← value options fuel (budget - 1)
    let separated ← comma
    return first :: (← items options fuel budget closing separated)
termination_by structural fuel => fuel

/-- Takes the members of a record up to the closing mark. -/
def fields (options : Extensions) : Nat → Nat → Bool → Scanner (List (String × Value))
  | 0, _, _ => failure
  | fuel + 1, budget, separated => do
    gap
    if (← peek?) == some ')' then return []
    guard (separated && 0 < budget)
    let name ← identifier
    gap
    expect ':'
    gap
    let first ← value options fuel (budget - 1)
    let separated ← comma
    return (name, first) :: (← fields options fuel budget separated)
termination_by structural fuel => fuel

/-- Takes the members of a dictionary up to the closing mark. -/
def entries (options : Extensions) : Nat → Nat → Bool → Scanner (List (Value × Value))
  | 0, _, _ => failure
  | fuel + 1, budget, separated => do
    gap
    if (← peek?) == some '\x7d' then return []
    guard (separated && 0 < budget)
    let key ← value options fuel (budget - 1)
    gap
    expect ':'
    gap
    let first ← value options fuel (budget - 1)
    let separated ← comma
    return (key, first) :: (← entries options fuel budget separated)
termination_by structural fuel => fuel

end

/-- Takes fixed texts and the gaps behind them. -/
def sequence : List String → Scanner Unit
  | [] => return ()
  | fixed :: later => do
    guard (← acceptText fixed)
    gap
    sequence later

/-- The settings that an extension changes; nothing for a name that is no extension. -/
def extend (options : Extensions) (name : String) : Option Extensions :=
  match name with
  | "unwrap_newtypes" => some options
  | "unwrap_variant_newtypes" => some { options with bareMembers := true }
  | "implicit_some" => some { options with implicitSome := true }
  | "explicit_struct_names" => some { options with explicitNames := true }
  | _ => none

/-- Takes the names of extensions, up to the closing mark. The first argument bounds their
number. -/
def extensionNames : Nat → Extensions → Scanner Extensions
  | 0, _ => failure
  | bound + 1, options => do
    let options ← extend options (← identifier)
    let separated ← comma
    if (← peek?).any Unicode.isIdentifierContinue then
      guard separated
      extensionNames bound options
    else
      return options

/-- Takes the inside of an attribute: a list of extensions, or a text about the document. The first
argument bounds the number of extensions. -/
def attributeBody (bound : Nat) (options : Extensions) : Scanner Extensions := do
  if ← acceptWord "enable" then
    gap
    sequence ["("]
    let options ← extensionNames bound options
    gap
    sequence [")"]
    return options
  else
    guard (← acceptWords ["type", "schema"])
    gap
    sequence ["="]
    let _ ← text
    gap
    return options

/-- Takes the attributes at the front of a document. The first argument bounds their number. -/
def attributes : Nat → Extensions → Scanner Extensions
  | 0, _ => failure
  | bound + 1, options => do
    if (← peek?) == some '#' then
      sequence ["#", "!", "["]
      let options ← attributeBody bound options
      sequence ["]"]
      attributes bound options
    else
      return options

end Scanner

/-- The document that a text is. -/
def Document.parse? (text : String) : Option Document := do
  let bound := 2 * text.length + 2
  let scan : Scanner Document := do
    Scanner.gap
    let options ← Scanner.attributes bound {}
    let value ← Scanner.value options bound nestingLimit
    Scanner.gap
    return ⟨options, value⟩
  match ← scan text.toList with
  | (document, []) => some document
  | _ => none

end BiomeAtlas.Ron
