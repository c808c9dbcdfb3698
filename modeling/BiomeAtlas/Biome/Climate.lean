import BiomeAtlas.Biome.Basic

/-! # Climate

The classes of biomes that the edge, beach and river rules ask about. Each class is a set of biomes,
and a cell value belongs to it when it is the number of a biome in the set; other values belong to
no class. -/

namespace BiomeAtlas

namespace Biome

/-- Cold enough to freeze rivers and to keep deserts away. -/
def isVeryCold : Biome → Bool
  | frozenOcean | frozenRiver | icePlains | iceMountains | coldBeach | coldTaiga | coldTaigaHills
  | icePlainsSpikes | coldTaigaM => true
  | _ => false

/-- Never sees rain; a swamp cannot border it. -/
def isRainless : Biome → Bool
  | desert | desertHills | desertM | savanna | savannaM | savannaPlateau | savannaPlateauM | mesa
  | mesaBryce | mesaPlateau | mesaPlateauF | mesaPlateauFM | mesaPlateauM | nether | theEnd => true
  | _ => false

/-- May border a mesa plateau as it is. -/
def bordersMesa : Biome → Bool
  | desert | mesa | mesaBryce | mesaPlateau | mesaPlateauF | mesaPlateauFM | mesaPlateauM | ocean
  | deepOcean => true
  | _ => false

/-- May border a jungle as it is. -/
def bordersJungle : Biome → Bool
  | jungle | jungleM | jungleEdge | jungleEdgeM | jungleHills => true
  | _ => false

end Biome

/-- Open water. Beaches and rivers never overwrite it. -/
def isOcean (value : Cell) : Bool :=
  value == Biome.ocean.id || value == Biome.deepOcean.id

/-- Whether a cell holds a biome that freezes rivers. -/
def isVeryCold (value : Cell) : Bool :=
  (Biome.ofId? value).any Biome.isVeryCold

/-- Whether a cell holds a biome without rain. -/
def isRainless (value : Cell) : Bool :=
  (Biome.ofId? value).any Biome.isRainless

/-- Whether a cell holds a biome that may border a mesa plateau. -/
def bordersMesa (value : Cell) : Bool :=
  (Biome.ofId? value).any Biome.bordersMesa

/-- Whether a cell holds a biome that may border a jungle. -/
def bordersJungle (value : Cell) : Bool :=
  (Biome.ofId? value).any Biome.bordersJungle

end BiomeAtlas
