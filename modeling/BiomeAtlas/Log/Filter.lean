import BiomeAtlas.Pattern.Parser
import BiomeAtlas.Settings.Basic
import BiomeAtlas.Text.Decimal
import BiomeAtlas.Text.Pieces
import BiomeAtlas.Unicode.Alphanumeric
import BiomeAtlas.Unicode.Space

/-! # The log and its filter

The log is a file of records, one a line. Only errors are recorded here. Whether they are is decided
by directives, separated by commas: each names a level, and may name the part of the program and the
fields it is for. Directives that make no sense are ignored; among them are those that want a field
to have a content but do not describe that content by a number or a pattern.

A directive for a part of the program is stronger than one for all of it, the stronger the longer
the name of the part is; of two directives for the same part the one with more fields is stronger,
and otherwise the later one. Directives that depend on where the program has come from, or on the
content of a field, never apply to errors; if there are no other directives, errors are recorded
only if there are none of these either. -/

namespace BiomeAtlas

/-- How much is written to the log; every level includes those before it. -/
inductive LogLevel where
  | off | error | warn | info | debug | trace
  deriving DecidableEq, Repr

namespace LogLevel

/-- The levels, in the order of their numbers. -/
def all : List LogLevel := [off, error, warn, info, debug, trace]

/-- The name of a level. -/
def name : LogLevel → String
  | off => "off"
  | error => "error"
  | warn => "warn"
  | info => "info"
  | debug => "debug"
  | trace => "trace"

/-- The number that decimal digits stand for, behind an optional plus sign. -/
def number? : List Char → Option Nat
  | '+' :: digits => Text.natural? digits
  | digits => Text.natural? digits

/-- The level with a given number, or with a given name in letters of either case. -/
def ofText? (text : List Char) : Option LogLevel :=
  match (number? text).bind fun n => all[n]? with
  | some level => some level
  | none => all.find? fun level => level.name.toList == text.map Char.toLower

end LogLevel

/-- A rule on what is recorded. -/
structure LogDirective where
  /-- The part of the program it is for; all of it if there is none. -/
  target? : Option (List Char) := none
  /-- Whether it is for certain places the program has come from. -/
  inSpan : Bool := false
  /-- What it wants to know about a field, if anything: a name, or a name and a content. -/
  field? : Option (List Char) := none
  /-- How much is recorded. -/
  level : LogLevel
  deriving DecidableEq, Repr

namespace LogDirective

/-- Reads what follows the target, its places and its fields: an equals sign and a level, or
nothing. -/
def levelOf? : List Char → Option LogLevel
  | [] | ['='] => some .trace
  | '=' :: level => LogLevel.ofText? level
  | _ => none

/-- Words for infinite and undefined numbers, in small letters. -/
def specials : List String := ["inf", "infinity", "nan"]

/-- Whether a text is a number, with or without a sign. -/
def isNumber (text : List Char) : Bool :=
  let (_, body) := Text.splitSign text
  Text.isDecimal text || specials.contains (String.ofList (body.map Char.toLower))

/-- Whether what a directive wants to know about a field makes sense: what follows the name and an
equals sign has to be a number or a pattern. -/
def isFieldTest (field : List Char) : Bool :=
  match Text.pieces '=' field with
  | _ :: content :: _ => isNumber content || (Pattern.parse? content).any Pattern.isSupported
  | _ => true

/-- Reads what follows an opening bracket: a place or a field in braces or both, up to the closing
bracket, and a level. -/
def bracketed? (target : List Char) (text : List Char) : Option LogDirective :=
  let span := text.takeWhile fun c => c != ']' && c != '\x7b'
  match text.drop span.length with
  | ']' :: rest =>
    (levelOf? rest).map fun level => { target? := some target, inSpan := true, level }
  | '\x7b' :: rest =>
    let field := rest.takeWhile (· != '\x7d')
    match rest.drop field.length with
    | '\x7d' :: ']' :: rest =>
      if field.isEmpty || !isFieldTest field then none
      else (levelOf? rest).map fun level =>
        { target? := some target, inSpan := !span.isEmpty, field? := some field, level }
    | _ => none
  | _ => none

/-- Whether a directive that does not begin with a bracket may begin with the character. -/
def isStart (c : Char) : Bool :=
  c == '-' || c == ':' || c == '_' || Unicode.isAlphanumeric c

/-- The directive that a text is. A single word is a level, or else a target. -/
def parse? (text : List Char) : Option LogDirective :=
  match text with
  | '[' :: rest => (bracketed? [] rest).map fun directive => { directive with target? := none }
  | c :: _ =>
    if !isStart c then none
    else
      let word := text.takeWhile fun c => c != '=' && c != '['
      match text.drop word.length with
      | '[' :: rest => bracketed? word rest
      | [] =>
        match LogLevel.ofText? word with
        | some level => some { level }
        | none => some { target? := some word, level := .trace }
      | rest => (levelOf? rest).map fun level => { target? := some word, level }
  | [] => none

/-- Whether the directive depends only on the part of the program and on the names of fields. -/
def isStatic (directive : LogDirective) : Bool :=
  !directive.inSpan && !directive.field?.any fun field => field.contains '='

/-- How specific the directive is: the length of its target, and the number of its fields. -/
def rank (directive : LogDirective) : Nat × Nat :=
  ((directive.target?.map fun target => target.length + 1).getD 0,
    if directive.field?.isSome then 1 else 0)

end LogDirective

namespace Log

/-- The directives in force when none are given. -/
def defaultFilter : String := "info"

/-- The name of the log file. -/
def fileName : String := "nebula-biomes.log"

/-- The part of the program that records errors. -/
def target : String := "nebula_biomemap"

/-- The field of a record that holds its message. -/
def messageField : String := "message"

/-- The directives that settings ask for. -/
def filterDirectives (settings? : Option Settings) : String :=
  match settings? with
  | none => defaultFilter
  | some settings =>
    let level := Unicode.trimmed settings.debug.logLevel.toList
    if level.isEmpty then defaultFilter else String.ofList level

/-- The directives in a text that make sense. -/
def directives (text : String) : List LogDirective :=
  (Text.pieces ',' text.toList).filterMap LogDirective.parse?

/-- Whether a directive can apply to errors. -/
def concerns (directive : LogDirective) : Bool :=
  directive.isStatic && directive.target?.all (fun part => part.isPrefixOf target.toList)
    && directive.field?.all (· == messageField.toList)

/-- The strongest of several directives. -/
def strongest? (directives : List LogDirective) : Option LogDirective :=
  directives.foldl (fun best? directive =>
    match best? with
    | some best =>
      let (length, fields) := best.rank
      let (newLength, newFields) := directive.rank
      if newLength < length || (newLength == length && decide (newFields < fields)) then some best
      else some directive
    | none => some directive) none

/-- Whether errors are recorded. -/
def recordsErrors (text : String) : Bool :=
  let directives := directives text
  if directives.isEmpty then true
  else (strongest? (directives.filter concerns)).any fun directive => directive.level != .off

end Log

end BiomeAtlas
