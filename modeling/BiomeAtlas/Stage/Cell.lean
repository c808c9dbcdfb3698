import BiomeAtlas.Alphabet
import BiomeAtlas.Grid.Basic

/-! # Rules on single cells

A cell rule changes every cell from its own value and the noise at its world column. -/

namespace BiomeAtlas

/-- The rules that look at one cell at a time. -/
inductive CellRule where
  /-- Turns open water into land of a uniform group, at `chance` columns out of a thousand. -/
  | addIslands (chance : Int32)
  /-- Turns `old` into `new`, at `chance` columns out of a thousand. -/
  | replaceRandomly (old new : Cell) (chance : Int32)
  /-- Writes `new` at `chance` columns out of a thousand. -/
  | setRandomly (chance : Int32) (new : Cell)
  /-- Marks groups as rare, at `chance` columns out of a thousand. -/
  | rareGroups (chance : Int32)
  /-- Turns groups into biomes, drawn from the lists of a table. -/
  | materialize (table : CandidateTable)
  deriving DecidableEq, Repr

namespace CellRule

/-- The name of the stage. -/
def name : CellRule → String
  | addIslands _ => "add_islands"
  | replaceRandomly .. => "replace_randomly"
  | setRandomly .. => "set_randomly"
  | rareGroups _ => "rare_groups"
  | materialize _ => "materialize"

/-- What the rule has to be given. -/
def reads : CellRule → Alphabet
  | addIslands _ | rareGroups _ => .group
  | replaceRandomly .. | setRandomly .. => .region
  | materialize _ => .rareGroup

/-- What the rule writes when it is given tiles of some alphabet. -/
def writes : CellRule → Alphabet → Alphabet
  | addIslands _, _ => .group
  | replaceRandomly .., found | setRandomly .., found => found
  | rareGroups _, _ => .rareGroup
  | materialize _, _ => .biome

/-- The entry of a list that the noise draws at a column, each with the same chance. -/
def drawn (noise : Noise) (x z : Coord) (candidates : List Biome) : Except Fault Cell :=
  match candidates[(noise.roll x z).toNatClampNeg % candidates.length]? with
  | some biome => .ok biome.id
  | none => .error .noCandidates

/-- The new value of a cell at a world column. -/
def apply (rule : CellRule) (noise : Noise) (value : Cell) (x z : Coord) : Except Fault Cell :=
  match rule with
  | addIslands chance =>
    let roll := noise.roll x z
    .ok (if value = Group.ocean.id ∧ roll % 1000 < chance then roll / 1003 % Group.maxLand + 1
      else value)
  | replaceRandomly old new chance =>
    .ok (if value == old && noise.rollPermille x z chance then new else value)
  | setRandomly chance new => .ok (if noise.rollPermille x z chance then new else value)
  | rareGroups chance => .ok (if noise.rollPermille x z chance then value ||| rareFlag else value)
  | materialize table => drawn noise x z (table.candidates value)

/-- The column that the rule counts from: for the choice of biomes the anchor that was asked for,
for all other rules the one of the tile at hand. -/
def anchor (rule : CellRule) (grid : Grid) (minX minZ : Coord) : Coord × Coord :=
  match rule with
  | materialize _ => (minX, minZ)
  | _ => (grid.minX, grid.minZ)

/-- The tile that becomes of a tile which was asked for at an anchor. -/
def generate (rule : CellRule) (noise : Noise) (grid : Grid) (minX minZ : Coord) :
    Except Fault Grid :=
  let (firstX, firstZ) := rule.anchor grid minX minZ
  grid.mapColumns firstX firstZ (rule.apply noise)

end CellRule

end BiomeAtlas
