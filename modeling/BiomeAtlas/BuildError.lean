import BiomeAtlas.Alphabet
import BiomeAtlas.Size

/-! # Reasons to refuse a chain of stages

Everything that can be wrong with a chain or with its numbers is found while the chain is wired.
`BuildError` lists the causes; `BuildError.message` is their wording. -/

namespace BiomeAtlas

/-- Why a stage, a chain or a set of parameters is refused. -/
inductive BuildError where
  /-- The tiles a stage would read hold values it cannot interpret. -/
  | alphabetMismatch (stage : String) (expected found : Alphabet)
  /-- The tiles a stage would read have the wrong size. -/
  | sizeMismatch (stage : String) (expected found : Size)
  /-- A number is outside the range from 0 to `max`. -/
  | outOfRange (name : String) (value max : Int32)
  /-- A uniform choice among no values. -/
  | invalidRange (range : Int32)
  /-- A group has no biome to turn into. -/
  | emptyCandidates (group : Group) (rare : Bool)
  /-- A stage would write a value that its alphabet does not contain. -/
  | valueOutsideAlphabet (stage : String) (value : Cell) (alphabet : Alphabet)
  /-- A stage would produce tiles without cells. -/
  | emptyTile (size : Size)
  /-- The chain has no stages. -/
  | emptyChain
  /-- The chain begins with a stage that is not a source. -/
  | missingSource (stage : String)
  /-- A source stands behind another stage. -/
  | misplacedSource (stage : String)
  /-- A tile size on the way does not fit a 64-bit word. -/
  | sizeOverflow
  deriving DecidableEq, Repr

namespace BuildError

/-- The wording of a cause. -/
def message : BuildError → String
  | alphabetMismatch stage expected found =>
    s!"{stage}: upstream produces {found.name} values but {expected.name} values are required"
  | sizeMismatch stage expected found =>
    s!"{stage}: upstream tile is {found.text}, expected {expected.text}"
  | outOfRange name value max => s!"{name} must be within 0..={max}, got {value}"
  | invalidRange range => s!"choice range must be positive, got {range}"
  | emptyCandidates group rare =>
    "empty " ++ (if rare then "rare" else "normal") ++
      s!" candidate list for the {group.name} group"
  | valueOutsideAlphabet stage value alphabet =>
    s!"{stage}: value {value} is not part of the {alphabet.name} alphabet"
  | emptyTile size => s!"tile size must be non-zero, got {size.text}"
  | emptyChain => "stage chain is empty"
  | missingSource stage => s!"stage chain must start with a source stage, found {stage}"
  | misplacedSource stage => s!"source stage {stage} may only appear first in a chain"
  | sizeOverflow => "tile size does not fit a 64-bit word"

end BuildError

/-- Accepts a number from 0 to `max`. -/
def checkRange (name : String) (value max : Int32) : Except BuildError Unit :=
  if 0 ≤ value ∧ value ≤ max then .ok () else .error (.outOfRange name value max)

/-- Accepts a chance out of a hundred. -/
def checkPercent (name : String) (value : Int32) : Except BuildError Unit :=
  checkRange name value 100

/-- Accepts a chance out of a thousand. -/
def checkPermille (name : String) (value : Int32) : Except BuildError Unit :=
  checkRange name value 1000

/-- Accepts a table in which every group has candidates. -/
def CandidateTable.validate (table : CandidateTable) : Except BuildError Unit :=
  match table.firstEmpty? with
  | none => .ok ()
  | some (group, rare) => .error (.emptyCandidates group rare)

end BiomeAtlas
