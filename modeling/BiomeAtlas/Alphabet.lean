import BiomeAtlas.Biome.Basic
import BiomeAtlas.Group

/-! # Alphabets

An alphabet is the set of values that the tiles of a stage may hold. A stage states the alphabet it
reads and the one it writes; two stages fit together when the reader accepts the alphabet of the
writer (`Alphabet.accepts`). Accepting is inclusion: a reader accepts an alphabet only if it
contains all of its members. -/

namespace BiomeAtlas

/-- The sets of values that stages read and write. -/
inductive Alphabet where
  /-- Any value: regions of a map that only differ from each other, and masks. -/
  | region
  /-- Climate groups. -/
  | group
  /-- Climate groups, with or without the rare flag. -/
  | rareGroup
  /-- Finished biomes. -/
  | biome
  /-- Zero, or the number of the river biome. -/
  | river
  deriving DecidableEq, Repr

namespace Alphabet

/-- The alphabets in their usual order. -/
def all : List Alphabet := [region, group, rareGroup, biome, river]

/-- The name used in messages. -/
def name : Alphabet → String
  | region => "region"
  | group => "group"
  | rareGroup => "rare group"
  | biome => "biome"
  | river => "river"

/-- Whether a stage that reads the first alphabet can work on tiles of the second one. -/
def accepts : Alphabet → Alphabet → Bool
  | region, _ => true
  | rareGroup, found => found == group || found == rareGroup
  | reads, found => reads == found

/-- Whether a value belongs to the alphabet. -/
def contains : Alphabet → Cell → Bool
  | region, _ => true
  | group, value => isGroup value
  | rareGroup, value => isRareGroup value
  | biome, value => isBiomeId value
  | river, value => value == 0 || value == Biome.river.id

end Alphabet

end BiomeAtlas
