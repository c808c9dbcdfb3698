import BiomeAtlas.Alphabet
import BiomeAtlas.Biome.Climate
import BiomeAtlas.Biome.Variants

/-! # Rules on two tiles

A blend rule combines a tile of biomes, cell by cell, with a second tile of the same size: a mask,
or a map of rivers. -/

namespace BiomeAtlas

/-- The rules that combine two tiles. -/
inductive BlendRule where
  /-- Puts the elevated counterpart of a biome wherever the mask is not zero. -/
  | alternateBiomes
  /-- Puts the rarer counterpart of a biome wherever the mask is not zero. -/
  | mVariants
  /-- Lays rivers over the biomes. -/
  | mixRivers
  deriving DecidableEq, Repr

namespace BlendRule

/-- The name of the stage. -/
def name : BlendRule → String
  | alternateBiomes => "alternate_biomes"
  | mVariants => "m_variants"
  | mixRivers => "mix_rivers"

/-- What the second tile has to hold. -/
def readsOverlay : BlendRule → Alphabet
  | alternateBiomes | mVariants => .region
  | mixRivers => .river

/-- A cell with its biome replaced where the mask is not zero and a counterpart exists. -/
def masked (counterpart : Biome → Option Biome) (value mask : Cell) : Cell :=
  if mask = 0 then value
  else match (Biome.ofId? value).bind counterpart with
    | some biome => biome.id
    | none => value

/-- A cell with a river through it: rivers end at open water and freeze in the cold. -/
def withRiver (value marker : Cell) : Cell :=
  if isOcean value || marker != Biome.river.id then value
  else if isVeryCold value then Biome.frozenRiver.id
  else Biome.river.id

/-- The new value of a cell, from its biome and the cell of the second tile. -/
def apply : BlendRule → Cell → Cell → Cell
  | alternateBiomes => masked Biome.hills
  | mVariants => masked Biome.rarer
  | mixRivers => withRiver

end BlendRule

end BiomeAtlas
