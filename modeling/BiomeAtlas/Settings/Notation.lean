import BiomeAtlas.Ron.Parser
import BiomeAtlas.Ron.Printer
import BiomeAtlas.Settings.Basic

/-! # Settings as text

Settings are written in RON, as records of records. `Settings.toValue` is the form in which they are
written; `Settings.ofDocument?` accepts that form and any shorter one: a field that is missing has
its default, and fields with other names do not count. Only a replacement has to name all of its
fields.

A record may carry the name of its kind, and has to if the document asks for names. -/

namespace BiomeAtlas

namespace Ron

/-- The fields of a record of a given kind. None of the `known` fields may occur twice. -/
def Value.fields? (explicitNames : Bool) (kind : String) (known : List String) :
    Value → Option (List (String × Value))
  | .record name? fields => do
    guard (if explicitNames then name? = some kind else name?.all (· == kind))
    guard (known.all fun name => decide ((fields.filter fun field => field.1 == name).length ≤ 1))
    return fields
  | .tuple name? [] => do
    guard (if explicitNames then name? = some kind else name?.all (· == kind))
    return []
  | _ => none

/-- The value of a field, or a default if the field is missing. -/
def fieldOr {α : Type} (fields : List (String × Value)) (name : String) (default : α)
    (read : Value → Option α) :
    Option α :=
  match fields.lookup name with
  | some value => read value
  | none => some default

/-- The value of a field that must not be missing. -/
def field? {α : Type} (fields : List (String × Value)) (name : String) (read : Value → Option α) :
    Option α := do
  read (← fields.lookup name)

/-- A whole number of a type. -/
def Value.whole? (type : IntType) : Value → Option Int
  | .number (.integer n type?) => if type?.all (· == type) && type.contains n then some n else none
  | _ => none

/-- A whole number of 32 bits. -/
def Value.int32? (value : Value) : Option Int32 :=
  (value.whole? .i32).map Int32.ofInt

/-- A whole number of 64 bits. -/
def Value.int64? (value : Value) : Option Int64 :=
  (value.whole? .i64).map Int64.ofInt

/-- A natural number of 32 bits. -/
def Value.uint32? (value : Value) : Option UInt32 :=
  (value.whole? .u32).map fun n => UInt32.ofNat n.toNat

/-- A natural number of 64 bits. -/
def Value.uint64? (value : Value) : Option UInt64 :=
  (value.whole? .u64).map fun n => UInt64.ofNat n.toNat

/-- A text. -/
def Value.text? : Value → Option String
  | .text content => some content
  | _ => none

/-- The members of a list. -/
def Value.list? {α : Type} (read : Value → Option α) : Value → Option (List α)
  | .list items => items.mapM read
  | _ => none

/-- A whole number. -/
def Value.ofInt (n : Int) : Value :=
  .number (.integer n none)

end Ron

open Ron

/-! ## Biomes and groups -/

/-- The biome that a value names. -/
def Biome.ofValue? : Value → Option Biome
  | .word name => Biome.ofIdent? name
  | _ => none

/-- A biome is written as its name. -/
def Biome.toValue (biome : Biome) : Value :=
  .word biome.ident

/-- A list of biomes for every group. -/
def candidatesOfValue? : Value → Option (ByGroup (List Biome))
  | .tuple none lists => do ByGroup.ofList? (← lists.mapM (Value.list? Biome.ofValue?))
  | _ => none

/-- The lists of the groups are written as a tuple. -/
def candidatesToValue (lists : ByGroup (List Biome)) : Value :=
  .tuple none (lists.toList.map fun biomes => .list (biomes.map Biome.toValue))

namespace CandidateTable

/-- The table that a value stands for. -/
def ofValue? (explicitNames : Bool) (value : Value) : Option CandidateTable := do
  let fields ← value.fields? explicitNames "GroupBiomes" ["normal", "rare"]
  return {
    normal := ← fieldOr fields "normal" standard.normal candidatesOfValue?
    rare := ← fieldOr fields "rare" standard.rare candidatesOfValue? }

/-- How a table is written. -/
def toValue (table : CandidateTable) : Value :=
  .record none [("normal", candidatesToValue table.normal), ("rare", candidatesToValue table.rare)]

end CandidateTable

/-! ## Parameters -/

namespace Replacement

/-- The replacement that a value stands for. -/
def ofValue? (explicitNames : Bool) (value : Value) : Option Replacement := do
  let fields ← value.fields? explicitNames "Replacement" ["from", "to", "chance_permille"]
  return {
    old := ← field? fields "from" Biome.ofValue?
    new := ← field? fields "to" Biome.ofValue?
    chancePermille := ← field? fields "chance_permille" Value.int32? }

/-- How a replacement is written. -/
def toValue (replacement : Replacement) : Value :=
  .record none [("from", replacement.old.toValue), ("to", replacement.new.toValue),
    ("chance_permille", .ofInt replacement.chancePermille.toInt)]

end Replacement

namespace LayerParams

/-- The names of the parameters. -/
def names : List String :=
  ["land_threshold_percent", "island_chance_permille", "rare_biome_chance_permille", "replacements",
    "ocean_seed_chance_permille", "deep_ocean_chance_permille", "continent_zoom_levels",
    "river_zoom_levels", "group_biomes"]

/-- The parameters that a value stands for. -/
def ofValue? (explicitNames : Bool) (value : Value) : Option LayerParams := do
  let fields ← value.fields? explicitNames "LayerParams" names
  let default : LayerParams := {}
  return {
    landThresholdPercent :=
      ← fieldOr fields "land_threshold_percent" default.landThresholdPercent Value.int32?
    islandChancePermille :=
      ← fieldOr fields "island_chance_permille" default.islandChancePermille Value.int32?
    rareBiomeChancePermille :=
      ← fieldOr fields "rare_biome_chance_permille" default.rareBiomeChancePermille Value.int32?
    replacements :=
      ← fieldOr fields "replacements" default.replacements
        (Value.list? (Replacement.ofValue? explicitNames))
    oceanSeedChancePermille :=
      ← fieldOr fields "ocean_seed_chance_permille" default.oceanSeedChancePermille Value.int32?
    deepOceanChancePermille :=
      ← fieldOr fields "deep_ocean_chance_permille" default.deepOceanChancePermille Value.int32?
    continentZoomLevels :=
      ← fieldOr fields "continent_zoom_levels" default.continentZoomLevels Value.uint32?
    riverZoomLevels := ← fieldOr fields "river_zoom_levels" default.riverZoomLevels Value.uint32?
    groupBiomes := ← fieldOr fields "group_biomes" default.groupBiomes
      (CandidateTable.ofValue? explicitNames) }

/-- How parameters are written. -/
def toValue (params : LayerParams) : Value :=
  .record none [("land_threshold_percent", .ofInt params.landThresholdPercent.toInt),
    ("island_chance_permille", .ofInt params.islandChancePermille.toInt),
    ("rare_biome_chance_permille", .ofInt params.rareBiomeChancePermille.toInt),
    ("replacements", .list (params.replacements.map Replacement.toValue)),
    ("ocean_seed_chance_permille", .ofInt params.oceanSeedChancePermille.toInt),
    ("deep_ocean_chance_permille", .ofInt params.deepOceanChancePermille.toInt),
    ("continent_zoom_levels", .ofInt params.continentZoomLevels.toNat),
    ("river_zoom_levels", .ofInt params.riverZoomLevels.toNat),
    ("group_biomes", params.groupBiomes.toValue)]

end LayerParams

/-! ## Settings -/

namespace WorldSettings

/-- The world that a value stands for. -/
def ofValue? (explicitNames : Bool) (value : Value) : Option WorldSettings := do
  let fields ← value.fields? explicitNames "WorldConfig" ["seed"]
  return { seed := ← fieldOr fields "seed" 0 Value.int64? }

/-- How a world is written. -/
def toValue (world : WorldSettings) : Value :=
  .record none [("seed", .ofInt world.seed.toInt)]

end WorldSettings

namespace MapSettings

/-- The names of the fields. -/
def names : List String :=
  ["min_x", "min_z", "tiles_x", "tiles_z", "tile_size", "cache_tiles", "threads", "output"]

/-- The region that a value stands for. -/
def ofValue? (explicitNames : Bool) (value : Value) : Option MapSettings := do
  let fields ← value.fields? explicitNames "MapConfig" names
  let default : MapSettings := {}
  return {
    minX := ← fieldOr fields "min_x" default.minX Value.int32?
    minZ := ← fieldOr fields "min_z" default.minZ Value.int32?
    tilesX := ← fieldOr fields "tiles_x" default.tilesX Value.uint64?
    tilesZ := ← fieldOr fields "tiles_z" default.tilesZ Value.uint64?
    tileSize := ← fieldOr fields "tile_size" default.tileSize Value.uint64?
    cacheTiles := ← fieldOr fields "cache_tiles" default.cacheTiles Value.uint64?
    threads := ← fieldOr fields "threads" default.threads Value.uint64?
    output := ← fieldOr fields "output" default.output fun value => value.text?.map Path.mk }

/-- How a region is written. -/
def toValue (map : MapSettings) : Value :=
  .record none [("min_x", .ofInt map.minX.toInt), ("min_z", .ofInt map.minZ.toInt),
    ("tiles_x", .ofInt map.tilesX.toNat), ("tiles_z", .ofInt map.tilesZ.toNat),
    ("tile_size", .ofInt map.tileSize.toNat), ("cache_tiles", .ofInt map.cacheTiles.toNat),
    ("threads", .ofInt map.threads.toNat), ("output", .text map.output.text)]

end MapSettings

namespace DebugSettings

/-- The settings of the log that a value stands for. -/
def ofValue? (explicitNames : Bool) (value : Value) : Option DebugSettings := do
  let fields ← value.fields? explicitNames "DebugConfig" ["log_level"]
  return { logLevel := ← fieldOr fields "log_level" (DebugSettings.logLevel {}) Value.text? }

/-- How the settings of the log are written. -/
def toValue (debug : DebugSettings) : Value :=
  .record none [("log_level", .text debug.logLevel)]

end DebugSettings

namespace Settings

/-- The settings that a document stands for. -/
def ofDocument? (document : Document) : Option Settings := do
  let explicitNames := document.extensions.explicitNames
  let fields ← document.value.fields? explicitNames "Config" ["world", "layers", "map", "debug"]
  return {
    world := ← fieldOr fields "world" {} (WorldSettings.ofValue? explicitNames)
    layers := ← fieldOr fields "layers" {} (LayerParams.ofValue? explicitNames)
    map := ← fieldOr fields "map" {} (MapSettings.ofValue? explicitNames)
    debug := ← fieldOr fields "debug" {} (DebugSettings.ofValue? explicitNames) }

/-- How settings are written. -/
def toValue (settings : Settings) : Value :=
  .record none [("world", settings.world.toValue), ("layers", settings.layers.toValue),
    ("map", settings.map.toValue), ("debug", settings.debug.toValue)]

/-- The settings that a text stands for. -/
def parse? (text : String) : Option Settings := do
  ofDocument? (← Document.parse? text)

/-- The text of settings. -/
def render (settings : Settings) : String :=
  settings.toValue.render

end Settings

end BiomeAtlas
