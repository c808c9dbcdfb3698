/-! # Patterns

A pattern describes texts: it is a regular expression, kept as the tree of its notation. Which texts
it describes is not computed here; what counts is whether there is a matcher for it, and
`Pattern.isSupported` tells.

A matcher reads bytes one by one, and has no tables of the characters above ASCII. So word
boundaries, the classes `\d`, `\s` and `\w`, and letters of either case need the flag `-u`, with
which a pattern is about bytes; and with that flag it must not match a byte that is only a part of a
character. -/

namespace BiomeAtlas

/-- A set of characters, as it is written between brackets. -/
inductive CharSet where
  /-- No character. -/
  | empty
  /-- A single character. -/
  | char (c : Char)
  /-- The characters from one to another. -/
  | range (first last : Char)
  /-- A class with a name, or the characters outside of it; it has ASCII characters only. -/
  | named (negated : Bool)
  /-- One of the classes of digits, blanks and word characters, or the characters outside of it. -/
  | kind (negated : Bool)
  /-- The characters of several sets. -/
  | union (parts : List CharSet)
  /-- The characters that two sets share, or that one has and the other lacks. -/
  | combined (left right : CharSet)
  /-- A set with brackets of its own, or the characters outside of it. -/
  | bracketed (negated : Bool) (inside : CharSet)
  deriving Repr, Inhabited

/-- Letters of flags that are turned on, and behind a minus sign of those that are turned off. -/
abbrev FlagLetters := List Char

/-- What a flag is set to, if it is set at all. -/
def FlagLetters.state? (letters : FlagLetters) (flag : Char) : Option Bool :=
  if letters.contains flag then some (!(letters.takeWhile (· != flag)).contains '-') else none

/-- A regular expression. -/
inductive Pattern where
  /-- The empty text. -/
  | empty
  /-- A single character; it counts as a byte if it is written as two hexadecimal digits. -/
  | literal (c : Char) (asByte : Bool)
  /-- Any character. -/
  | anyChar
  /-- The beginning or the end of a line or a text. -/
  | boundary
  /-- The beginning or the end of a word, or a place that is neither. -/
  | wordBoundary
  /-- A digit, a blank or a word character, or any character but these. -/
  | kind (negated : Bool)
  /-- A character inside or outside of a set. -/
  | charSet (negated : Bool) (inside : CharSet)
  /-- Flags for what follows, up to the end of the group. -/
  | flags (letters : FlagLetters)
  /-- A pattern several times, or perhaps not at all. -/
  | repeated (inside : Pattern)
  /-- A pattern in parentheses, with flags of its own. -/
  | group (letters : FlagLetters) (inside : Pattern)
  /-- One pattern after the other. -/
  | sequence (parts : List Pattern)
  /-- One pattern or the other. -/
  | choice (branches : List Pattern)
  deriving Repr, Inhabited

/-- The flags that matter to a matcher. -/
structure PatternFlags where
  /-- Letters match in either case. -/
  anyCase : Bool := false
  /-- Characters above ASCII are characters, not bytes. -/
  unicode : Bool := true

/-- The flags after some of them are set. -/
def PatternFlags.change (flags : PatternFlags) (letters : FlagLetters) : PatternFlags where
  anyCase := (letters.state? 'i').getD flags.anyCase
  unicode := (letters.state? 'u').getD flags.unicode

/-- Whether a character belongs to ASCII. -/
def isAscii (c : Char) : Bool :=
  decide (c.toNat < 128)

namespace CharSet

/-- The union of some sets; a single one is kept as it is. -/
def ofParts : List CharSet → CharSet
  | [] => empty
  | [part] => part
  | parts => union parts

mutual

/-- How deep the set is nested. -/
def depth : CharSet → Nat
  | empty | char _ | range _ _ | named _ | kind _ => 0
  | union parts => depthOfParts parts + 1
  | combined left right => max left.depth right.depth + 1
  | bracketed _ inside => inside.depth + 1

/-- How deep the deepest of several sets is nested. -/
def depthOfParts : List CharSet → Nat
  | [] => 0
  | part :: later => max part.depth (depthOfParts later)

end

/-- Whether a part of a set can be matched under some flags; `ascii` tells whether it has ASCII
characters only. -/
def admits (flags : PatternFlags) (ascii : Bool) : Bool :=
  if flags.unicode then !flags.anyCase else ascii

mutual

/-- Whether there is a matcher for the set. -/
def isSupported (flags : PatternFlags) : CharSet → Bool
  | empty => true
  | char c => admits flags (isAscii c)
  | range _ last => admits flags (isAscii last)
  | named negated => admits flags (!negated)
  | kind negated => !flags.unicode && !negated
  | union parts => areSupported flags parts
  | combined left right => left.isSupported flags && right.isSupported flags
  | bracketed negated inside => inside.isSupported flags && (flags.unicode || !negated)

/-- Whether there are matchers for several sets. -/
def areSupported (flags : PatternFlags) : List CharSet → Bool
  | [] => true
  | part :: later => part.isSupported flags && areSupported flags later

end

end CharSet

namespace Pattern

/-- One pattern after the other; a single one is kept as it is. -/
def ofParts : List Pattern → Pattern
  | [] => empty
  | [part] => part
  | parts => sequence parts

/-- One pattern or the other; a single one is kept as it is. -/
def ofBranches : List Pattern → Pattern
  | [branch] => branch
  | branches => choice branches

/-- Whether the pattern may be repeated. -/
def isRepeatable : Pattern → Bool
  | empty | flags _ => false
  | _ => true

mutual

/-- How deep the pattern is nested. -/
def depth : Pattern → Nat
  | empty | literal _ _ | anyChar | boundary | wordBoundary | kind _ | flags _ => 0
  | charSet _ inside => inside.depth + 1
  | repeated inside | group _ inside => inside.depth + 1
  | sequence parts | choice parts => depthOfParts parts + 1

/-- How deep the deepest of several patterns is nested. -/
def depthOfParts : List Pattern → Nat
  | [] => 0
  | part :: later => max part.depth (depthOfParts later)

end

mutual

/-- The flags behind a pattern; nothing if there is no matcher for it. -/
def flagsAfter? (current : PatternFlags) : Pattern → Option PatternFlags
  | empty | boundary => some current
  | literal c asByte =>
    if if current.unicode then current.anyCase else asByte && !isAscii c then none else some current
  | anyChar => if current.unicode then some current else none
  | wordBoundary => if current.unicode then none else some current
  | kind negated => if current.unicode || negated then none else some current
  | charSet negated inside =>
    if (CharSet.bracketed negated inside).isSupported current then some current else none
  | flags letters => some (current.change letters)
  | repeated inside => inside.flagsAfter? current
  | group letters inside => (inside.flagsAfter? (current.change letters)).map fun _ => current
  | sequence parts | choice parts => flagsAfterParts? current parts

/-- The flags behind several patterns; nothing if there is no matcher for one of them. -/
def flagsAfterParts? (current : PatternFlags) : List Pattern → Option PatternFlags
  | [] => some current
  | part :: later => do flagsAfterParts? (← part.flagsAfter? current) later

end

/-- How deep patterns may be nested. -/
def depthLimit : Nat := 250

/-- Whether there is a matcher for the pattern. -/
def isSupported (pattern : Pattern) : Bool :=
  decide (pattern.depth ≤ depthLimit) && (pattern.flagsAfter? {}).isSome

end Pattern

end BiomeAtlas
