import BiomeAtlas.Alphabet
import BiomeAtlas.Biome.Climate
import BiomeAtlas.Biome.Variants
import BiomeAtlas.Grid.Basic

/-! # Rules on a cell and its direct neighbours

A cross rule decides a cell from the cell itself and the four cells that share an edge with it. The
stage that applies it reads a tile with a halo of one cell, so that the neighbours are known at the
border of its own tile too. -/

namespace BiomeAtlas

/-- A cell and its four direct neighbours. -/
structure Cross where
  center : Cell
  above : Cell
  below : Cell
  left : Cell
  right : Cell
  deriving DecidableEq, Repr

namespace Cross

/-- The cross around a local position of a tile, read off the same tile with a halo. -/
def around (haloed : Grid) (x z : Nat) : Except Fault Cross := do
  return {
    center := ← haloed.get (x + 1) (z + 1)
    above := ← haloed.get (x + 1) z
    below := ← haloed.get (x + 1) (z + 2)
    left := ← haloed.get x (z + 1)
    right := ← haloed.get (x + 2) (z + 1) }

/-- The four neighbours. -/
def neighbours (cross : Cross) : List Cell :=
  [cross.above, cross.below, cross.left, cross.right]

end Cross

/-- The rules that look at direct neighbours. -/
inductive CrossRule where
  /-- Removes single cells that stand out. -/
  | smooth
  /-- Turns land at the coast into beach. -/
  | beaches
  /-- Puts temperate land between groups that must not touch. -/
  | groupEdges
  /-- Softens borders between biomes that do not go together. -/
  | biomeEdges
  /-- Marks the borders between regions as river. -/
  | river
  /-- Places the biome numbered `new` in open water, at `chance` columns out of a thousand. -/
  | addToOcean (chance : Int32) (new : Cell)
  deriving DecidableEq, Repr

namespace CrossRule

/-- The name of the stage. -/
def name : CrossRule → String
  | smooth => "smooth"
  | beaches => "beaches"
  | groupEdges => "group_edges"
  | biomeEdges => "biome_edges"
  | river => "river"
  | addToOcean .. => "add_to_ocean"

/-- What the rule has to be given. -/
def reads : CrossRule → Alphabet
  | smooth | river => .region
  | groupEdges => .group
  | beaches | biomeEdges | addToOcean .. => .biome

/-- What the rule writes when it is given tiles of some alphabet. -/
def writes : CrossRule → Alphabet → Alphabet
  | smooth, found => found
  | groupEdges, _ => .group
  | river, _ => .river
  | beaches, _ | biomeEdges, _ | addToOcean .., _ => .biome

/-- Where both pairs of opposite neighbours agree, noise picks one of the pairs; where one pair
agrees, that pair wins. -/
def smoothed (noise : Noise) (cross : Cross) (x z : Coord) : Cell :=
  if cross.left = cross.right ∧ cross.above = cross.below then
    if noise.roll x z % 2 = 0 then cross.left else cross.above
  else if cross.above = cross.below then cross.above
  else if cross.left = cross.right then cross.left
  else cross.center

/-- Land next to open water becomes the beach that belongs to it. -/
def beached (cross : Cross) : Cell :=
  if !isOcean cross.center && cross.neighbours.any isOcean then beachOf cross.center
  else cross.center

/-- Groups that deserts may touch. -/
def bordersDesert (value : Cell) : Bool :=
  value == Group.ocean.id || value == Group.desert.id || value == Group.temperate.id

/-- Deserts keep to the groups they may touch, and ice does not touch deserts. -/
def separated (cross : Cross) : Cell :=
  if cross.center = Group.desert.id then
    if cross.neighbours.any fun value => !bordersDesert value then Group.temperate.id
    else cross.center
  else if cross.center = Group.ice.id then
    if cross.neighbours.any fun value => value == Group.desert.id then Group.temperate.id
    else cross.center
  else cross.center

/-- The biome that a biome turns into at a border with the given neighbours. -/
def edgeOf (biome : Biome) (neighbours : List Cell) : Biome :=
  match biome with
  | .desert | .desertM | .desertHills => if neighbours.any isVeryCold then .plains else biome
  | .mesaPlateau | .mesaPlateauF | .mesaPlateauFM | .mesaPlateauM =>
    if neighbours.any fun value => !bordersMesa value then .desert else biome
  | .jungle => if neighbours.any fun value => !bordersJungle value then .jungleEdge else biome
  | .jungleM => if neighbours.any fun value => !bordersJungle value then .jungleEdgeM else biome
  | .swampland | .swamplandM => if neighbours.any isRainless then .plains else biome
  | _ => biome

/-- A cell that holds a biome becomes the edge of that biome. -/
def edged (cross : Cross) : Cell :=
  match Biome.ofId? cross.center with
  | some biome => (edgeOf biome cross.neighbours).id
  | none => cross.center

/-- A cell with a neighbour that differs from it lies on a border. -/
def bordered (cross : Cross) : Cell :=
  if cross.neighbours.any fun value => value != cross.center then Biome.river.id else 0

/-- Open water with at most one neighbour that is not open water. -/
def isOpenWater (cross : Cross) : Bool :=
  isOcean cross.center && decide (3 ≤ cross.neighbours.countP isOcean)

/-- The value of a cell at a world column. -/
def apply (rule : CrossRule) (noise : Noise) (cross : Cross) (x z : Coord) : Cell :=
  match rule with
  | smooth => smoothed noise cross x z
  | beaches => beached cross
  | groupEdges => separated cross
  | biomeEdges => edged cross
  | river => bordered cross
  | addToOcean chance new =>
    if isOpenWater cross && noise.rollPermille x z chance then new else cross.center

/-- The tile of a given size at an anchor, from the tile around it that has a halo of one cell. -/
def generate (rule : CrossRule) (noise : Noise) (size : Size) (haloed : Grid) (minX minZ : Coord) :
    Except Fault Grid :=
  Grid.tabulate minX minZ size fun x z =>
    return rule.apply noise (← Cross.around haloed x z) (minX + Int32.ofNat x)
      (minZ + Int32.ofNat z)

end CrossRule

end BiomeAtlas
