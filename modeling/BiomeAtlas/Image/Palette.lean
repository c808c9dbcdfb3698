import BiomeAtlas.Biome.Basic
import BiomeAtlas.Group

/-! # Palettes

The colours of biomes and of climate groups on a rendered map. A value that names nothing is shown
in magenta. -/

namespace BiomeAtlas

/-- An opaque colour. -/
structure Color where
  red : UInt8
  green : UInt8
  blue : UInt8
  deriving DecidableEq, Repr, Hashable

namespace Color

/-- The colour of values that name nothing. -/
def unknown : Color := ⟨255, 0, 255⟩

/-- One component made brighter, up to the largest value. -/
def lift (amount component : UInt8) : UInt8 :=
  if component ≤ 255 - amount then component + amount else 255

/-- The colour with every component made brighter. -/
def brighter (color : Color) (amount : UInt8) : Color :=
  ⟨lift amount color.red, lift amount color.green, lift amount color.blue⟩

end Color

/-- The colour of a biome. -/
def Biome.color : Biome → Color
  | ocean => ⟨0, 0, 112⟩
  | deepOcean => ⟨0, 0, 48⟩
  | frozenOcean => ⟨144, 144, 160⟩
  | river => ⟨0, 0, 255⟩
  | frozenRiver => ⟨160, 160, 255⟩
  | beach => ⟨250, 222, 85⟩
  | stoneBeach => ⟨162, 162, 132⟩
  | coldBeach => ⟨250, 240, 192⟩
  | plains | sunflowerPlains => ⟨141, 179, 96⟩
  | desert | desertM => ⟨250, 148, 24⟩
  | desertHills => ⟨210, 95, 18⟩
  | extremeHills | extremeHillsM => ⟨96, 96, 96⟩
  | extremeHillsPlus | extremeHillsPlusM | extremeHillsEdge => ⟨80, 112, 80⟩
  | forest | flowerForest => ⟨5, 102, 33⟩
  | forestHills => ⟨34, 85, 28⟩
  | birchForest | birchForestM => ⟨48, 116, 68⟩
  | birchForestHills | birchForestHillsM => ⟨31, 95, 50⟩
  | roofedForest | roofedForestM => ⟨64, 81, 26⟩
  | taiga | taigaM => ⟨11, 102, 89⟩
  | taigaHills => ⟨22, 57, 51⟩
  | coldTaiga | coldTaigaM => ⟨49, 85, 74⟩
  | coldTaigaHills => ⟨36, 63, 54⟩
  | megaTaiga | megaSpruceTaiga => ⟨89, 102, 81⟩
  | megaTaigaHills | megaSpruceTaigaHills => ⟨69, 79, 62⟩
  | swampland | swamplandM => ⟨7, 249, 178⟩
  | icePlains | icePlainsSpikes => ⟨255, 255, 255⟩
  | iceMountains => ⟨160, 160, 160⟩
  | mushroomIsland => ⟨230, 0, 230⟩
  | mushroomShore => ⟨160, 0, 255⟩
  | jungle | jungleM => ⟨83, 123, 9⟩
  | jungleHills => ⟨44, 66, 5⟩
  | jungleEdge | jungleEdgeM => ⟨98, 139, 23⟩
  | savanna | savannaM => ⟨189, 178, 95⟩
  | savannaPlateau | savannaPlateauM => ⟨167, 157, 100⟩
  | mesa | mesaBryce => ⟨217, 69, 21⟩
  | mesaPlateau | mesaPlateauM => ⟨202, 140, 101⟩
  | mesaPlateauF | mesaPlateauFM => ⟨176, 151, 101⟩
  | nether => ⟨255, 0, 0⟩
  | theEnd => ⟨128, 128, 255⟩

/-- The colour of a cell that holds a biome. -/
def biomeColor (value : Cell) : Color :=
  match Biome.ofId? value with
  | some biome => biome.color
  | none => .unknown

/-- The colour of a cell that holds a group; rare groups are brighter. -/
def groupColor (value : Cell) : Color :=
  let group := value &&& ~~~rareFlag
  let base : Color :=
    if group = Group.ocean.id then ⟨20, 50, 180⟩
    else if group = Group.desert.id then ⟨220, 190, 80⟩
    else if group = Group.temperate.id then ⟨60, 150, 50⟩
    else if group = Group.mountains.id then ⟨130, 110, 90⟩
    else if group = Group.ice.id then ⟨220, 230, 240⟩
    else .unknown
  if value &&& rareFlag = 0 then base else base.brighter 35

end BiomeAtlas
