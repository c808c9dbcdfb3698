import BiomeAtlas.Noise

/-! # Biomes

The closed list of biomes a finished map is made of. A biome has three spellings: the number stored
in a cell (`Biome.id`), the identifier used in settings files (`Biome.ident`) and a display name
(`Biome.name`).

Numbers 0 to 39 are the base biomes. A rarer counterpart of a base biome, where there is one, has
the number of the base biome plus `variantOffset`. `Biome.ofId?` inverts `Biome.id`, and every other
number names no biome. -/

namespace BiomeAtlas

/-- Distance between the number of a base biome and the number of its rarer counterpart. -/
def variantOffset : Int32 := 128

/-- The biomes, in the order of their numbers. -/
inductive Biome where
  | ocean | plains | desert | extremeHills | forest | taiga | swampland | river | nether | theEnd
  | frozenOcean | frozenRiver | icePlains | iceMountains | mushroomIsland | mushroomShore | beach
  | desertHills | forestHills | taigaHills | extremeHillsEdge | jungle | jungleHills | jungleEdge
  | deepOcean | stoneBeach | coldBeach | birchForest | birchForestHills | roofedForest | coldTaiga
  | coldTaigaHills | megaTaiga | megaTaigaHills | extremeHillsPlus | savanna | savannaPlateau | mesa
  | mesaPlateauF | mesaPlateau
  | sunflowerPlains | desertM | extremeHillsM | flowerForest | taigaM | swamplandM | icePlainsSpikes
  | jungleM | jungleEdgeM | birchForestM | birchForestHillsM | roofedForestM | coldTaigaM
  | megaSpruceTaiga | megaSpruceTaigaHills | extremeHillsPlusM | savannaM | savannaPlateauM
  | mesaBryce | mesaPlateauFM | mesaPlateauM
  deriving DecidableEq, Repr, Inhabited

namespace Biome

/-- The number stored in cells. -/
def id : Biome → Cell
  | ocean => 0
  | plains => 1
  | desert => 2
  | extremeHills => 3
  | forest => 4
  | taiga => 5
  | swampland => 6
  | river => 7
  | nether => 8
  | theEnd => 9
  | frozenOcean => 10
  | frozenRiver => 11
  | icePlains => 12
  | iceMountains => 13
  | mushroomIsland => 14
  | mushroomShore => 15
  | beach => 16
  | desertHills => 17
  | forestHills => 18
  | taigaHills => 19
  | extremeHillsEdge => 20
  | jungle => 21
  | jungleHills => 22
  | jungleEdge => 23
  | deepOcean => 24
  | stoneBeach => 25
  | coldBeach => 26
  | birchForest => 27
  | birchForestHills => 28
  | roofedForest => 29
  | coldTaiga => 30
  | coldTaigaHills => 31
  | megaTaiga => 32
  | megaTaigaHills => 33
  | extremeHillsPlus => 34
  | savanna => 35
  | savannaPlateau => 36
  | mesa => 37
  | mesaPlateauF => 38
  | mesaPlateau => 39
  | sunflowerPlains => 129
  | desertM => 130
  | extremeHillsM => 131
  | flowerForest => 132
  | taigaM => 133
  | swamplandM => 134
  | icePlainsSpikes => 140
  | jungleM => 149
  | jungleEdgeM => 151
  | birchForestM => 155
  | birchForestHillsM => 156
  | roofedForestM => 157
  | coldTaigaM => 158
  | megaSpruceTaiga => 160
  | megaSpruceTaigaHills => 161
  | extremeHillsPlusM => 162
  | savannaM => 163
  | savannaPlateauM => 164
  | mesaBryce => 165
  | mesaPlateauFM => 166
  | mesaPlateauM => 167

/-- The base biomes; the position in the list is the number. -/
def bases : Array Biome := #[
  ocean, plains, desert, extremeHills, forest, taiga, swampland, river, nether, theEnd, frozenOcean,
  frozenRiver, icePlains, iceMountains, mushroomIsland, mushroomShore, beach,
  desertHills, forestHills, taigaHills, extremeHillsEdge, jungle, jungleHills, jungleEdge,
  deepOcean, stoneBeach, coldBeach, birchForest, birchForestHills, roofedForest, coldTaiga,
  coldTaigaHills, megaTaiga, megaTaigaHills, extremeHillsPlus, savanna, savannaPlateau, mesa,
  mesaPlateauF, mesaPlateau ]

/-- The rarer counterparts; the position in the list is the number of the base biome. -/
def counterparts : Array (Option Biome) := #[
  none, some sunflowerPlains, some desertM, some extremeHillsM, some flowerForest, some taigaM,
  some swamplandM, none, none, none, none, none, some icePlainsSpikes, none, none, none,
  none, none, none, none, none, some jungleM, none, some jungleEdgeM, none, none, none,
  some birchForestM, some birchForestHillsM, some roofedForestM, some coldTaigaM, none,
  some megaSpruceTaiga, some megaSpruceTaigaHills, some extremeHillsPlusM, some savannaM,
  some savannaPlateauM, some mesaBryce, some mesaPlateauFM, some mesaPlateauM
  ]

/-- Every biome, in the order of the numbers. -/
def all : List Biome :=
  bases.toList ++ counterparts.toList.filterMap fun found => found

/-- The biome with a given number. -/
def ofId? (value : Cell) : Option Biome :=
  if value < 0 then none
  else if value < variantOffset then bases[value.toNatClampNeg]?
  else counterparts[(value - variantOffset).toNatClampNeg]?.join

/-- Whether the biome is the rarer counterpart of a base biome. -/
def isVariant (biome : Biome) : Bool :=
  decide (variantOffset ≤ biome.id)

/-- The identifier used in settings files. -/
def ident : Biome → String
  | ocean => "Ocean"
  | plains => "Plains"
  | desert => "Desert"
  | extremeHills => "ExtremeHills"
  | forest => "Forest"
  | taiga => "Taiga"
  | swampland => "Swampland"
  | river => "River"
  | nether => "Nether"
  | theEnd => "End"
  | frozenOcean => "FrozenOcean"
  | frozenRiver => "FrozenRiver"
  | icePlains => "IcePlains"
  | iceMountains => "IceMountains"
  | mushroomIsland => "MushroomIsland"
  | mushroomShore => "MushroomShore"
  | beach => "Beach"
  | desertHills => "DesertHills"
  | forestHills => "ForestHills"
  | taigaHills => "TaigaHills"
  | extremeHillsEdge => "ExtremeHillsEdge"
  | jungle => "Jungle"
  | jungleHills => "JungleHills"
  | jungleEdge => "JungleEdge"
  | deepOcean => "DeepOcean"
  | stoneBeach => "StoneBeach"
  | coldBeach => "ColdBeach"
  | birchForest => "BirchForest"
  | birchForestHills => "BirchForestHills"
  | roofedForest => "RoofedForest"
  | coldTaiga => "ColdTaiga"
  | coldTaigaHills => "ColdTaigaHills"
  | megaTaiga => "MegaTaiga"
  | megaTaigaHills => "MegaTaigaHills"
  | extremeHillsPlus => "ExtremeHillsPlus"
  | savanna => "Savanna"
  | savannaPlateau => "SavannaPlateau"
  | mesa => "Mesa"
  | mesaPlateauF => "MesaPlateauF"
  | mesaPlateau => "MesaPlateau"
  | sunflowerPlains => "SunflowerPlains"
  | desertM => "DesertM"
  | extremeHillsM => "ExtremeHillsM"
  | flowerForest => "FlowerForest"
  | taigaM => "TaigaM"
  | swamplandM => "SwamplandM"
  | icePlainsSpikes => "IcePlainsSpikes"
  | jungleM => "JungleM"
  | jungleEdgeM => "JungleEdgeM"
  | birchForestM => "BirchForestM"
  | birchForestHillsM => "BirchForestHillsM"
  | roofedForestM => "RoofedForestM"
  | coldTaigaM => "ColdTaigaM"
  | megaSpruceTaiga => "MegaSpruceTaiga"
  | megaSpruceTaigaHills => "MegaSpruceTaigaHills"
  | extremeHillsPlusM => "ExtremeHillsPlusM"
  | savannaM => "SavannaM"
  | savannaPlateauM => "SavannaPlateauM"
  | mesaBryce => "MesaBryce"
  | mesaPlateauFM => "MesaPlateauFM"
  | mesaPlateauM => "MesaPlateauM"

/-- The display name. -/
def name : Biome → String
  | ocean => "ocean"
  | plains => "plains"
  | desert => "desert"
  | extremeHills => "extreme_hills"
  | forest => "forest"
  | taiga => "taiga"
  | swampland => "swampland"
  | river => "river"
  | nether => "nether"
  | theEnd => "end"
  | frozenOcean => "frozen_ocean"
  | frozenRiver => "frozen_river"
  | icePlains => "ice_plains"
  | iceMountains => "ice_mountains"
  | mushroomIsland => "mushroom_island"
  | mushroomShore => "mushroom_shore"
  | beach => "beach"
  | desertHills => "desert_hills"
  | forestHills => "forest_hills"
  | taigaHills => "taiga_hills"
  | extremeHillsEdge => "extreme_hills_edge"
  | jungle => "jungle"
  | jungleHills => "jungle_hills"
  | jungleEdge => "jungle_edge"
  | deepOcean => "deep_ocean"
  | stoneBeach => "stone_beach"
  | coldBeach => "cold_beach"
  | birchForest => "birch_forest"
  | birchForestHills => "birch_forest_hills"
  | roofedForest => "roofed_forest"
  | coldTaiga => "cold_taiga"
  | coldTaigaHills => "cold_taiga_hills"
  | megaTaiga => "mega_taiga"
  | megaTaigaHills => "mega_taiga_hills"
  | extremeHillsPlus => "extreme_hills_plus"
  | savanna => "savanna"
  | savannaPlateau => "savanna_plateau"
  | mesa => "mesa"
  | mesaPlateauF => "mesa_plateau_f"
  | mesaPlateau => "mesa_plateau"
  | sunflowerPlains => "sunflower_plains"
  | desertM => "desert_m"
  | extremeHillsM => "extreme_hills_m"
  | flowerForest => "flower_forest"
  | taigaM => "taiga_m"
  | swamplandM => "swampland_m"
  | icePlainsSpikes => "ice_plains_spikes"
  | jungleM => "jungle_m"
  | jungleEdgeM => "jungle_edge_m"
  | birchForestM => "birch_forest_m"
  | birchForestHillsM => "birch_forest_hills_m"
  | roofedForestM => "roofed_forest_m"
  | coldTaigaM => "cold_taiga_m"
  | megaSpruceTaiga => "mega_spruce_taiga"
  | megaSpruceTaigaHills => "mega_spruce_taiga_hills"
  | extremeHillsPlusM => "extreme_hills_plus_m"
  | savannaM => "savanna_m"
  | savannaPlateauM => "savanna_plateau_m"
  | mesaBryce => "mesa_bryce"
  | mesaPlateauFM => "mesa_plateau_fm"
  | mesaPlateauM => "mesa_plateau_m"

/-- The biome with a given identifier. -/
def ofIdent? (text : String) : Option Biome :=
  all.find? fun biome => biome.ident == text

end Biome

/-- Whether a cell value is the number of a biome. -/
def isBiomeId (value : Cell) : Bool :=
  (Biome.ofId? value).isSome

end BiomeAtlas
