import BiomeAtlas.Stage.Blend
import BiomeAtlas.Stage.Cell
import BiomeAtlas.Stage.Cross
import BiomeAtlas.Stage.Source
import BiomeAtlas.Stage.Zoom
import BiomeAtlas.TileStore

/-! # Stages

A `Stage` produces tiles of one size at any anchor. It owns the stages it reads, so a stage is a
tree whose leaves are sources. `Stage.generate` is the meaning of a stage: the tile at an anchor,
computed in the presence of a tile store that only `Stage.cached` looks at.

The constructors do not check that a stage fits the ones it reads; the functions in
`BiomeAtlas.Stage.Wiring` do. -/

namespace BiomeAtlas

/-- A producer of tiles. -/
inductive Stage where
  /-- A rule that draws every cell from noise. -/
  | source (rule : Source) (noise : Noise) (size : Size)
  /-- A given function of the world column. -/
  | sampled (name : String) (alphabet : Alphabet) (size : Size) (field : Coord → Coord → Cell)
  /-- Doubles the resolution of the stage it reads. -/
  | zoom (noise : Noise) (size : Size) (coarser : Stage)
  /-- Changes cells by looking at their direct neighbours. -/
  | cross (rule : CrossRule) (noise : Noise) (size : Size) (input : Stage)
  /-- Changes single cells. -/
  | cell (rule : CellRule) (noise : Noise) (input : Stage)
  /-- Combines the tiles of two stages. -/
  | blend (rule : BlendRule) (base overlay : Stage)
  /-- Keeps the tiles of a stage in the store, under the given stage number. -/
  | cached (number : UInt32) (input : Stage)

/-- Computations that may use the tile store and may fail. -/
abbrev Generation := StateT TileStore (Except Fault)

namespace Stage

/-- The name of the stage. -/
def name : Stage → String
  | source rule .. => rule.name
  | sampled name .. => name
  | zoom .. => "zoom"
  | cross rule .. => rule.name
  | cell rule .. => rule.name
  | blend rule .. => rule.name
  | cached _ input => input.name

/-- The size of the tiles the stage produces. -/
def size : Stage → Size
  | source _ _ size => size
  | sampled _ _ size _ => size
  | zoom _ size _ => size
  | cross _ _ size _ => size
  | cell _ _ input => input.size
  | blend _ base _ => base.size
  | cached _ input => input.size

/-- The values the stage writes. -/
def alphabet : Stage → Alphabet
  | source rule .. => rule.writes
  | sampled _ alphabet .. => alphabet
  | zoom _ _ coarser => coarser.alphabet
  | cross rule _ _ input => rule.writes input.alphabet
  | cell rule _ input => rule.writes input.alphabet
  | blend .. => .biome
  | cached _ input => input.alphabet

/-- The tile at an anchor. -/
def generate : Stage → Coord → Coord → Generation Grid
  | source rule noise size, minX, minZ => rule.generate noise size minX minZ
  | sampled _ _ size field, minX, minZ =>
    Grid.tabulate minX minZ size fun x z =>
      return field (minX + Int32.ofNat x) (minZ + Int32.ofNat z)
  | zoom noise size coarser, minX, minZ => do
    let lower ← coarser.generate (coarse minX) (coarse minZ)
    lower.zoomed noise size minX minZ
  | cross rule noise size input, minX, minZ => do
    let haloed ← input.generate (minX - 1) (minZ - 1)
    rule.generate noise size haloed minX minZ
  | cell rule noise input, minX, minZ => do
    let grid ← input.generate minX minZ
    rule.generate noise grid minX minZ
  | blend rule base overlay, minX, minZ => do
    let second ← overlay.generate minX minZ
    let first ← base.generate minX minZ
    first.blend second rule.apply
  | cached number input, minX, minZ =>
    TileStore.fetch ⟨number, minX, minZ, input.size⟩ (input.generate minX minZ)

end Stage

end BiomeAtlas
