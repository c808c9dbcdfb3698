import BiomeAtlas.Chain.Basic
import BiomeAtlas.LayerParams

/-! # The chain of the world

The standard chain: continents and islands as climate groups, groups made to fit each other, biomes
drawn for them, then the finer and finer details of the map. Two masks and a map of rivers come from
chains of their own. -/

namespace BiomeAtlas.Chain

/-- The mask under which biomes become their elevated counterparts. -/
def hillsMask : Chain :=
  empty
  |>.stage (.source (.choice 2)) 200
  |>.zoomed 2 201

/-- The mask under which biomes become their rarer counterparts. -/
def rarerMask : Chain :=
  empty
  |>.stage (.source (.choice 2)) 300
  |>.stage .zoom 301
  |>.stage (.cell (.setRandomly 800 0)) 302
  |>.stage .zoom 303
  |>.stage (.cross .smooth) 304

/-- The map of rivers: the borders of large regions, smoothed while they are doubled. -/
def rivers (levels : UInt32) : Chain :=
  empty
  |>.stage (.source (.choice 4)) 400
  |>.zoomed levels.toNat 401
  |>.stage (.cross .river) 420
  |>.stage (.cross .smooth) 421
  |>.stage .zoom 422
  |>.stage (.cross .smooth) 423

/-- The groups of the world, ready to draw biomes for. -/
def groups (params : LayerParams) : Chain :=
  empty
  |>.stage (.source (.landOcean params.landThresholdPercent)) 1
  |>.zoomed params.continentZoomLevels.toNat 10
  |>.stage .zoom 20
  |>.stage (.cell (.addIslands params.islandChancePermille)) 21
  |>.stage .zoom 22
  |>.stage (.cell (.addIslands params.islandChancePermille)) 23
  |>.stage .zoom 24
  |>.stage (.cross .groupEdges) 25
  |>.stage (.cross .smooth) 26
  |>.stage (.cell (.rareGroups params.rareBiomeChancePermille)) 27

/-- A chain of biomes with random exchanges behind it, whose offsets count up from `first`. -/
def replaced (chain : Chain) : List Replacement → Int32 → Chain
  | [], _ => chain
  | replacement :: later, first =>
    (chain.stage (.cell (.replaceRandomly replacement.old.id replacement.new.id
      replacement.chancePermille)) first).replaced
      later (first + 1)

/-- The chain of the world. -/
def world (params : LayerParams) : Chain :=
  groups params
  |>.stage (.cell (.materialize params.groupBiomes)) 28
  |>.replaced params.replacements 100
  |>.stage (.cross (.addToOcean params.oceanSeedChancePermille Biome.mushroomIsland.id)) 40
  |>.stage (.cross (.addToOcean params.deepOceanChancePermille Biome.deepOcean.id)) 41
  |>.stage .zoom 42
  |>.blend .alternateBiomes hillsMask 43
  |>.stage .zoom 44
  |>.stage (.cross .biomeEdges) 45
  |>.stage .zoom 46
  |>.blend .mVariants rarerMask 47
  |>.stage (.cross .beaches) 48
  |>.stage (.cross .smooth) 49
  |>.stage .zoom 50
  |>.stage (.cross .smooth) 51
  |>.blend .mixRivers (rivers params.riverZoomLevels) 52

end BiomeAtlas.Chain
