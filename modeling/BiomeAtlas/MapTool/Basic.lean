import BiomeAtlas.Image.Png
import BiomeAtlas.Settings.Basic

/-! # Drawing a map

`MapTool.draw` goes from settings to an image file: it checks the settings, builds the pipeline,
resolves the region, and draws every cell as one pixel. -/

namespace BiomeAtlas

/-- Why there is no map. -/
inductive MapError where
  /-- The settings are unusable. -/
  | settings (cause : SettingsError)
  /-- The stages cannot be built. -/
  | build (cause : BuildError)
  /-- The image file cannot be made. -/
  | file (path : Path) (cause : FileError)
  /-- A side does not fit the size field of an image file. -/
  | tooLarge (size : Size)
  /-- The image cannot be written as a file. -/
  | encode (cause : Png.EncodeError)
  /-- The tiles of the region cannot be computed. -/
  | fault (cause : Fault)
  deriving DecidableEq, Repr

namespace MapError

/-- The wording of a cause. -/
def message : MapError → String
  | settings cause => cause.message
  | build cause => s!"failed to build pipeline: {cause.message}"
  | file path cause => s!"failed to write {path.text}: {cause.message}"
  | tooLarge size => s!"map of {size.text} pixels is too large to encode"
  | encode .empty => "failed to encode png: there are no pixels"
  | encode .pixelCount => "failed to encode png: wrong number of bytes"
  | encode .overflow => "failed to encode png: too many bytes"
  | fault cause => "failed to compute the map: " ++ cause.message?.getD "out of range"

end MapError

/-- What has been drawn. -/
structure MapSummary where
  /-- The size of the image, in pixels. -/
  size : Size
  /-- The number of different biomes on the map. -/
  distinctBiomes : Nat
  deriving DecidableEq, Repr

namespace Settings

/-- What the pipeline of a map is built from. -/
def pipelineSpec (settings : Settings) : PipelineSpec where
  seed := settings.world.seed
  params := settings.layers
  tileSize := settings.map.tile
  cacheCapacity := settings.map.cacheTiles.toNat

end Settings

namespace MapTool

/-- The pipeline of a map, for usable settings. -/
def buildPipeline (settings : Settings) : Except MapError Pipeline := do
  settings.validate.mapError .settings
  settings.pipelineSpec.build.mapError .build

/-- The region on the map. -/
def resolve (pipeline : Pipeline) (map : MapSettings) : Except Fault Grid := do
  let (region, _) ← pipeline.resolveRegion map.minX map.minZ map.tilesX.toNat map.tilesZ.toNat
  return region

/-- The biomes on the map. -/
def region (settings : Settings) : Except MapError Grid := do
  let pipeline ← buildPipeline settings
  (resolve pipeline settings.map).mapError .fault

/-- How many different values the cells of a region have. -/
def distinctValues (region : Grid) : Nat :=
  (Std.HashSet.ofList region.values.toList).size

variable {m : Type → Type} [Monad m] [Files m]

/-- Writes an image to a file; the directories above it are made if need be. The file is made before
the image is encoded, and stays empty if that fails. -/
def writeImage (path : Path) (image : Image) : ExceptT MapError m Unit := do
  if sideLimit ≤ image.width ∨ sideLimit ≤ image.height then
    throw (.tooLarge ⟨image.width, image.height⟩)
  let atPath (operation : m (Except FileError Unit)) : ExceptT MapError m Unit :=
    ExceptT.mk (return (← operation).mapError (.file path))
  match path.parent? with
  | some above => unless above.text.isEmpty do
      atPath (Files.makeDirectories above)
  | none => pure ()
  atPath (Files.write path .empty)
  match Png.encode image with
  | .ok bytes => atPath (Files.write path bytes)
  | .error cause => throw (.encode cause)

/-- Draws the map that settings ask for. -/
def draw (settings : Settings) : ExceptT MapError m MapSummary := do
  let region ← ExceptT.mk (pure (region settings))
  writeImage settings.map.output (.render biomeColor region)
  return { size := region.size, distinctBiomes := distinctValues region }

end MapTool

end BiomeAtlas
