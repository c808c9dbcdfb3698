import BiomeAtlas.BuildError

/-! # Parameters of the world

The numbers and tables that shape a world. Chances are out of a thousand, the share of land is out
of a hundred, and the numbers of doublings are bounded by `maxZoomLevels`. `LayerParams.validate`
names the first parameter out of range. -/

namespace BiomeAtlas

/-- The largest number of doublings that can be asked for. -/
def maxZoomLevels : UInt32 := 8

/-- A random exchange of one biome for another. -/
structure Replacement where
  /-- The biome to exchange. -/
  old : Biome
  /-- The biome to put in its place. -/
  new : Biome
  /-- How often, out of a thousand cells that hold `old`. -/
  chancePermille : Int32
  deriving DecidableEq, Repr

/-- The parameters of the standard chain of stages. -/
structure LayerParams where
  /-- Share of land in the first split into land and water. -/
  landThresholdPercent : Int32 := 30
  /-- Chance of an island in open water. -/
  islandChancePermille : Int32 := 30
  /-- Chance of a group being rare. -/
  rareBiomeChancePermille : Int32 := 50
  /-- Exchanges of biomes, made in order. -/
  replacements : List Replacement := [⟨.plains, .sunflowerPlains, 20⟩]
  /-- Chance of a mushroom island in open water. -/
  oceanSeedChancePermille : Int32 := 8
  /-- Chance of open water being deep. -/
  deepOceanChancePermille : Int32 := 300
  /-- Doublings between the split into land and water and the first islands; more of them make
  larger continents. -/
  continentZoomLevels : UInt32 := 1
  /-- Doublings of the map whose borders become rivers; more of them put rivers further apart. -/
  riverZoomLevels : UInt32 := 5
  /-- The biomes of each group. -/
  groupBiomes : CandidateTable := .standard
  deriving DecidableEq, Repr, Inhabited

/-- Accepts a number of doublings. A larger number is reported as a cell-sized number, clamped if
need be. -/
def checkZoomLevels (name : String) (levels : UInt32) : Except BuildError Unit :=
  if levels ≤ maxZoomLevels then .ok ()
  else .error
    (.outOfRange name (Int32.ofNat (min levels.toNat (1 <<< 31 - 1))) maxZoomLevels.toInt32)

namespace LayerParams

/-- Accepts parameters that are all in range. -/
def validate (params : LayerParams) : Except BuildError Unit := do
  checkPercent "land_threshold_percent" params.landThresholdPercent
  checkPermille "island_chance_permille" params.islandChancePermille
  checkPermille "rare_biome_chance_permille" params.rareBiomeChancePermille
  checkPermille "ocean_seed_chance_permille" params.oceanSeedChancePermille
  checkPermille "deep_ocean_chance_permille" params.deepOceanChancePermille
  for replacement in params.replacements do
    checkPermille "replacement.chance_permille" replacement.chancePermille
  checkZoomLevels "continent_zoom_levels" params.continentZoomLevels
  checkZoomLevels "river_zoom_levels" params.riverZoomLevels
  params.groupBiomes.validate

end LayerParams

end BiomeAtlas
