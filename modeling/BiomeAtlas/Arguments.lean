import BiomeAtlas.Settings.Basic
import BiomeAtlas.Text.Decimal

/-! # Command-line arguments

Arguments name settings to be used instead of stored ones: a switch and its value, either as two
arguments or as one with an equals sign between them.

Arguments are read from left to right. The value of a switch is looked at when the next known switch
comes, or at the end; until then an argument that means nothing is the worse mistake. With an equals
sign the value is looked at once. -/

namespace BiomeAtlas

/-- What can be set by arguments. -/
inductive Switch where
  | seed | minX | minZ | tilesX | tilesZ | output | logLevel | config
  deriving DecidableEq, Repr

namespace Switch

/-- All switches. -/
def all : List Switch := [seed, minX, minZ, tilesX, tilesZ, output, logLevel, config]

/-- The name behind the two hyphens. -/
def name : Switch → String
  | seed => "seed"
  | minX => "min-x"
  | minZ => "min-z"
  | tilesX => "tiles-x"
  | tilesZ => "tiles-z"
  | output => "output"
  | logLevel => "log-level"
  | config => "config"

/-- Whether the value may begin with a hyphen. Then the next argument is the value, whatever it
is. -/
def allowsHyphen : Switch → Bool
  | seed | minX | minZ => true
  | _ => false

/-- The switch with a given name. -/
def ofName? (name : String) : Option Switch :=
  all.find? fun switch => switch.name == name

end Switch

/-- Why nothing is read off the arguments. -/
inductive ArgumentError where
  /-- Help is asked for. -/
  | helpRequested
  /-- An argument is neither a switch nor the value of one. -/
  | unknown (argument : String)
  /-- A switch has no value. -/
  | missingValue (switch : Switch)
  /-- A path is empty. -/
  | emptyPath (switch : Switch)
  /-- A switch is used twice. -/
  | repeated (switch : Switch)
  /-- A value is not a number in the range of the switch. -/
  | unreadable (switch : Switch) (value : String)
  /-- A value is given to the request for help. -/
  | valueForHelp
  deriving DecidableEq, Repr

namespace ArgumentError

/-- The wording of a reason. -/
def message : ArgumentError → String
  | helpRequested =>
    "usage: " ++ String.intercalate " " (Switch.all.map fun switch => s!"[--{switch.name} VALUE]")
  | unknown argument => s!"unexpected argument '{argument}'"
  | missingValue switch => s!"a value is required for --{switch.name}"
  | emptyPath switch => s!"the path given to --{switch.name} is empty"
  | repeated switch => s!"--{switch.name} is used more than once"
  | unreadable switch value => s!"invalid value '{value}' for --{switch.name}"
  | valueForHelp => "--help takes no value"

end ArgumentError

/-- What the arguments say. -/
structure Arguments where
  /-- The world seed. -/
  seed? : Option Int64 := none
  /-- World coordinate of the left edge. -/
  minX? : Option Coord := none
  /-- World coordinate of the top edge. -/
  minZ? : Option Coord := none
  /-- Tiles in a row. -/
  tilesX? : Option UInt64 := none
  /-- Rows of tiles. -/
  tilesZ? : Option UInt64 := none
  /-- The image file. -/
  output? : Option Path := none
  /-- What is written to the log. -/
  logLevel? : Option String := none
  /-- The directory of settings. -/
  config? : Option Path := none
  deriving DecidableEq, Repr

/-! ## Values -/

/-- A number from `low` to `high`. -/
def integerWithin? (low high : Int) (text : String) : Option Int := do
  let n ← Text.integer? text
  guard (low ≤ n ∧ n ≤ high)
  return n

/-- A number of 64 bits without a minus sign, even if it is zero. -/
def wordValue? (text : String) : Option UInt64 := do
  guard (text.toList.head? ≠ some '-')
  return UInt64.ofNat (← integerWithin? 0 (wordLimit - 1) text).toNat

namespace Arguments

/-- Sets what a switch stands for. -/
def assign (arguments : Arguments) (switch : Switch) (value : String) :
    Except ArgumentError Arguments :=
  let number {α : Type} (read : Option α) (use : α → Arguments) : Except ArgumentError Arguments :=
    match read with
    | some n => .ok (use n)
    | none => .error (.unreadable switch value)
  let coordinate : Option Coord :=
    (integerWithin? Int32.minValue.toInt Int32.maxValue.toInt value).map Int32.ofInt
  let path (use : Path → Arguments) : Except ArgumentError Arguments :=
    if value.isEmpty then .error (.emptyPath switch) else .ok (use ⟨value⟩)
  match switch with
  | .seed =>
    number ((integerWithin? Int64.minValue.toInt Int64.maxValue.toInt value).map Int64.ofInt)
      fun n => { arguments with seed? := some n }
  | .minX => number coordinate fun n => { arguments with minX? := some n }
  | .minZ => number coordinate fun n => { arguments with minZ? := some n }
  | .tilesX => number (wordValue? value) fun n => { arguments with tilesX? := some n }
  | .tilesZ => number (wordValue? value) fun n => { arguments with tilesZ? := some n }
  | .output => path fun p => { arguments with output? := some p }
  | .logLevel => .ok { arguments with logLevel? := some value }
  | .config => path fun p => { arguments with config? := some p }

/-! ## Reading -/

/-- What has been read off the arguments so far. -/
structure Progress where
  /-- What the switches say whose values have been looked at. -/
  arguments : Arguments := {}
  /-- Those switches. -/
  used : List Switch := []
  /-- The last switch, with its value if there is one, as long as it has not been looked at. -/
  pending? : Option (Switch × Option String) := none
  /-- Whether an argument of two hyphens has ended the switches. -/
  closed : Bool := false

namespace Progress

/-- Looks at a switch and its value. -/
def use (progress : Progress) (switch : Switch) (value? : Option String) :
    Except ArgumentError Progress :=
  match value? with
  | none => .error (.missingValue switch)
  | some value => do
    if progress.used.contains switch then throw (.repeated switch)
    return { progress with
      arguments := ← progress.arguments.assign switch value, used := switch :: progress.used }

/-- Looks at the last switch. -/
def settle (progress : Progress) : Except ArgumentError Progress :=
  match progress.pending? with
  | none => .ok progress
  | some (switch, value?) => { progress with pending? := none }.use switch value?

/-- Looks at the last switch, and then answers the request for help. -/
def help (progress : Progress) : Except ArgumentError Progress := do
  let _ ← progress.settle
  throw .helpRequested

/-- Reads a switch, given without its two hyphens. -/
def long (progress : Progress) (argument : String) (text : List Char) :
    Except ArgumentError Progress := do
  let name := String.ofList (text.takeWhile (· != '='))
  let value? := match text.dropWhile (· != '=') with
    | [] => none
    | _ :: value => some (String.ofList value)
  if name == "help" then
    if value?.isSome then throw .valueForHelp
    progress.help
  else match Switch.ofName? name with
    | none => throw (.unknown argument)
    | some switch =>
      let progress ← progress.settle
      if value?.isSome then progress.use switch value?
      else return { progress with pending? := some (switch, none) }

/-- Reads an argument that is not the value of the switch before it. -/
def plain (progress : Progress) (argument : String) : Except ArgumentError Progress :=
  if progress.closed then .error (.unknown argument)
  else match argument.toList with
    | ['-', '-'] => .ok { progress with closed := true }
    | '-' :: '-' :: text => progress.long argument text
    | '-' :: 'h' :: _ => progress.help
    | _ => .error (.unknown argument)

/-- Whether an argument is taken as the value of a switch before it. -/
def takes (progress : Progress) (switch : Switch) (argument : String) : Bool :=
  !progress.closed && (switch.allowsHyphen || argument == "-" || argument.toList.head? != some '-')

/-- Reads the next argument. -/
def step (progress : Progress) (argument : String) : Except ArgumentError Progress :=
  match progress.pending? with
  | some (switch, none) =>
    if progress.takes switch argument then
      .ok { progress with pending? := some (switch, some argument) }
    else progress.plain argument
  | _ => progress.plain argument

end Progress

/-- What a list of arguments says. -/
def parse (arguments : List String) : Except ArgumentError Arguments := do
  let progress ← arguments.foldlM Progress.step {}
  return (← progress.settle).arguments

end Arguments

/-- Settings with what the arguments say instead. -/
def Settings.override (settings : Settings) (arguments : Arguments) : Settings :=
  let map := settings.map
  { settings with
    world.seed := arguments.seed?.getD settings.world.seed
    map := { map with
      minX := arguments.minX?.getD map.minX
      minZ := arguments.minZ?.getD map.minZ
      tilesX := arguments.tilesX?.getD map.tilesX
      tilesZ := arguments.tilesZ?.getD map.tilesZ
      output := arguments.output?.getD map.output }
    debug.logLevel := arguments.logLevel?.getD settings.debug.logLevel }

end BiomeAtlas
