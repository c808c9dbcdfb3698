import BiomeAtlas.Files.Basic
import BiomeAtlas.Pipeline

/-! # Settings

What a map is drawn from: the world, the parameters of its stages, the region on the map, and what
is written to the log.

`Settings.validate` accepts exactly the settings for which a map can be drawn: the parameters are in
range, the map is not empty, both sides fit the size fields of an image file, and the bytes of all
pixels can be counted in a 64-bit word. -/

namespace BiomeAtlas

/-- Which world. -/
structure WorldSettings where
  /-- The world seed. The same seed always yields the same map. -/
  seed : Int64 := 0
  deriving DecidableEq, Repr, Inhabited

/-- Which part of the world is drawn, and how. -/
structure MapSettings where
  /-- World coordinate of the left edge. -/
  minX : Coord := -256
  /-- World coordinate of the top edge. -/
  minZ : Coord := -256
  /-- Tiles in a row. -/
  tilesX : UInt64 := 32
  /-- Rows of tiles. -/
  tilesZ : UInt64 := 32
  /-- Columns and rows of one tile. -/
  tileSize : UInt64 := UInt64.ofNat defaultTileSize
  /-- How many tiles are kept; none for zero. -/
  cacheTiles : UInt64 := 0
  /-- How many workers share the tiles; as many as there are processors for zero. -/
  threads : UInt64 := 0
  /-- The image file. -/
  output : Path := ⟨"biomes.png"⟩
  deriving DecidableEq, Repr

/-- What is written to the log. -/
structure DebugSettings where
  /-- The least severe level, or a list of directives. -/
  logLevel : String := "info"
  deriving DecidableEq, Repr, Inhabited

/-- All settings. -/
structure Settings where
  /-- The world. -/
  world : WorldSettings := {}
  /-- The parameters of its stages. -/
  layers : LayerParams := {}
  /-- The region on the map. -/
  map : MapSettings := {}
  /-- The log. -/
  debug : DebugSettings := {}
  deriving DecidableEq, Repr

/-- What is wrong with the region on the map. -/
inductive MapFlaw where
  /-- A tile has no cells. -/
  | emptyTile
  /-- There are no tiles. -/
  | noTiles
  /-- The image is too large. -/
  | tooLarge
  deriving DecidableEq, Repr

namespace MapFlaw

/-- The wording of a flaw. -/
def message : MapFlaw → String
  | emptyTile => "tile_size must be non-zero"
  | noTiles => "tiles_x and tiles_z must be non-zero"
  | tooLarge => "map is too large"

end MapFlaw

/-- Why settings cannot be read, written or used. -/
inductive SettingsError where
  /-- The file cannot be read. -/
  | unreadable (cause : FileError)
  /-- The file, or its directory, cannot be written. -/
  | unwritable (cause : FileError)
  /-- The text of the file does not stand for settings. -/
  | malformed
  /-- A parameter of the stages is out of range. -/
  | invalidLayers (cause : BuildError)
  /-- The region on the map is unusable. -/
  | invalidMap (flaw : MapFlaw)
  deriving DecidableEq, Repr

namespace SettingsError

/-- The wording of a cause. -/
def message : SettingsError → String
  | unreadable cause => s!"failed to read config: {cause.message}"
  | unwritable cause => s!"failed to write config: {cause.message}"
  | malformed => "failed to parse config: not in the notation of settings"
  | invalidLayers cause => s!"invalid layer parameters: {cause.message}"
  | invalidMap flaw => s!"invalid map settings: {flaw.message}"

end SettingsError

/-- The first number that does not fit a size field of an image file. -/
def sideLimit : Nat := 1 <<< 32

namespace MapSettings

/-- The size of one tile. -/
def tile (map : MapSettings) : Size :=
  ⟨map.tileSize.toNat, map.tileSize.toNat⟩

/-- The size of the image, in pixels. -/
def imageSize (map : MapSettings) : Size :=
  ⟨map.tilesX.toNat * map.tileSize.toNat, map.tilesZ.toNat * map.tileSize.toNat⟩

/-- Accepts a region that is not empty and whose image is not too large. -/
def validate (map : MapSettings) : Except MapFlaw Unit := do
  if map.tileSize = 0 then throw .emptyTile
  if map.tilesX = 0 ∨ map.tilesZ = 0 then throw .noTiles
  unless map.imageSize.width < sideLimit ∧ map.imageSize.height < sideLimit ∧
      map.imageSize.cells * 4 < wordLimit do
    throw .tooLarge

end MapSettings

namespace Settings

/-- Accepts settings for which a map can be drawn. -/
def validate (settings : Settings) : Except SettingsError Unit := do
  settings.layers.validate.mapError .invalidLayers
  settings.map.validate.mapError .invalidMap

/-- Whether settings differ at most in the spelling of the path of the image file. -/
def Same (settings other : Settings) : Prop :=
  { settings with map.output := other.map.output } = other ∧
    settings.map.output.Same other.map.output

instance (settings other : Settings) : Decidable (settings.Same other) :=
  inferInstanceAs (Decidable (_ ∧ _))

end Settings

end BiomeAtlas
