import BiomeAtlas.Alphabet
import BiomeAtlas.Grid.Basic

/-! # Sources

A source is a stage that reads no other stage: every cell is drawn from the noise at its world
column. The split into land and water additionally makes the origin of the world temperate land, so
that there is always land to begin on. -/

namespace BiomeAtlas

/-- The rules a chain can begin with. -/
inductive Source where
  /-- Uniform numbers from zero to below `range`; they only tell regions apart. -/
  | choice (range : Int32)
  /-- Land of a uniform group at `threshold` columns out of a hundred, and open water elsewhere. -/
  | landOcean (threshold : Int32)
  deriving DecidableEq, Repr

namespace Source

/-- The name of the stage. -/
def name : Source → String
  | choice _ => "choice"
  | landOcean _ => "land_ocean"

/-- What the stage writes. -/
def writes : Source → Alphabet
  | choice _ => .region
  | landOcean _ => .group

/-- The value drawn at a column. -/
def draw (source : Source) (noise : Noise) (x z : Coord) : Cell :=
  let roll := noise.roll x z
  match source with
  | choice range => roll % range
  | landOcean threshold =>
      if roll % 100 < threshold then roll / 101 % Group.maxLand + 1 else Group.ocean.id

/-- Whether the origin of the world is made temperate land. -/
def settlesOrigin : Source → Bool
  | choice _ => false
  | landOcean _ => true

/-- The tile at an anchor. -/
def generate (source : Source) (noise : Noise) (size : Size) (minX minZ : Coord) :
    Except Fault Grid := do
  let drawn ← Grid.tabulate minX minZ size fun x z =>
    return source.draw noise (minX + Int32.ofNat x) (minZ + Int32.ofNat z)
  if source.settlesOrigin && drawn.containsWorld 0 0 then
    drawn.set minX.toInt.natAbs minZ.toInt.natAbs Group.temperate.id
  else
    return drawn

end Source

end BiomeAtlas
