import BiomeAtlas.Biome.Basic

/-! # Substitutions of biomes

Three fixed tables: the beach a biome turns into at the coast, its elevated counterpart, and the
rarer counterpart that is placed instead of it under a mask. The beach table is total on cell
values: a value is first reduced to a base number, so that rarer counterparts share the beach of
their base biome and no value is left without a beach. -/

namespace BiomeAtlas

namespace Biome

/-- The beach of each base biome; the position in the list is the number. -/
def beaches : Array Biome := #[
  ocean, beach, beach, stoneBeach, beach, coldBeach, swampland, river, nether, theEnd,
  coldBeach, coldBeach, coldBeach, coldBeach, mushroomShore, mushroomShore, beach, beach, beach,
  coldBeach, stoneBeach, beach, beach, beach, ocean, stoneBeach, coldBeach, beach, beach, beach,
  coldBeach, coldBeach, stoneBeach, stoneBeach, stoneBeach, beach, beach, mesa, mesa, mesa
  ]

/-- The elevated counterpart, where there is one. -/
def hills : Biome → Option Biome
  | birchForest => some birchForestHills
  | desert => some desertHills
  | extremeHills => some extremeHillsPlus
  | forest => some forestHills
  | icePlains => some iceMountains
  | jungle => some jungleHills
  | megaTaiga => some megaTaigaHills
  | mesaPlateau | mesaPlateauF | mesaPlateauM | mesaPlateauFM => some mesa
  | plains => some forest
  | roofedForest => some plains
  | savanna => some savannaPlateau
  | taiga => some taigaHills
  | _ => none

/-- The rarer counterpart placed under a mask, where there is one. -/
def rarer : Biome → Option Biome
  | plains => some sunflowerPlains
  | desert => some desertM
  | extremeHills => some extremeHillsM
  | forest => some flowerForest
  | taiga => some taigaM
  | swampland => some swamplandM
  | jungle => some jungleM
  | jungleEdge => some jungleEdgeM
  | birchForest => some birchForestM
  | birchForestHills => some birchForestHillsM
  | roofedForest => some roofedForestM
  | coldTaiga => some coldTaigaM
  | extremeHillsPlus => some extremeHillsPlusM
  | savanna => some savannaM
  | savannaPlateau => some savannaPlateauM
  | mesa | mesaPlateau => some mesaBryce
  | mesaPlateauF => some mesaPlateauFM
  | _ => none

end Biome

/-- The position of a cell value in the beach table: the number of the base biome, and for values
that name no biome a position obtained by wrapping. -/
def beachIndex (value : Cell) : Fin Biome.beaches.size :=
  ⟨(value.toInt.emod variantOffset.toInt).toNat % Biome.beaches.size, Nat.mod_lt _ (by decide)⟩

/-- The beach placed at a coastal cell. -/
def beachOf (value : Cell) : Cell :=
  Biome.beaches[beachIndex value].id

end BiomeAtlas
