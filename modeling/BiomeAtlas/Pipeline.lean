import BiomeAtlas.Chain.Build
import BiomeAtlas.Chain.World

/-! # Pipelines

A pipeline is a chain that has been built for a world seed and a tile size, together with its tile
store if it has one. `Pipeline.resolve` yields one tile, `Pipeline.resolveRegion` a rectangle of
tiles as one grid.

A tile does not depend on the other tiles, nor on what the store holds. So the tiles of a region can
be resolved in any order and by any number of workers; here they are resolved row by row. -/

namespace BiomeAtlas

/-- The size of tiles when none is asked for. -/
def defaultTileSize : Nat := 16

/-- What a pipeline is built from. -/
structure PipelineSpec where
  /-- The world seed. -/
  seed : Int64
  /-- The parameters of the world; they have to be in range even if another chain is given. -/
  params : LayerParams := {}
  /-- The size of the tiles. -/
  tileSize : Size := ⟨defaultTileSize, defaultTileSize⟩
  /-- How many tiles the store keeps; there is no store for zero. -/
  cacheCapacity : Nat := 0
  /-- The chain to build instead of the chain of the world. -/
  chain? : Option Chain := none

/-- A chain built for a seed and a tile size. -/
structure Pipeline where
  /-- The world seed. -/
  seed : Int64
  /-- The last stage of the chain. -/
  root : Stage
  /-- The number of stages, those of secondary chains included. -/
  stageCount : Nat
  /-- The tile store; it is there only if it has room for tiles. -/
  store : TileStore
  /-- Whether the stages use the tile store. -/
  cached : Bool

namespace PipelineSpec

/-- The chain to build. -/
def chain (spec : PipelineSpec) : Chain :=
  spec.chain?.getD (.world spec.params)

/-- Builds the pipeline. -/
def build (spec : PipelineSpec) : Except BuildError Pipeline := do
  spec.params.validate
  let cached := spec.cacheCapacity != 0
  let chain := spec.chain
  let (root, store) ← (chain.build cached (foldSeed spec.seed) spec.tileSize).run
    (.empty spec.cacheCapacity)
  return { seed := spec.seed, root, stageCount := chain.stageCount, store, cached }

end PipelineSpec

namespace Pipeline

/-- The size of the tiles. -/
def tileSize (pipeline : Pipeline) : Size :=
  pipeline.root.size

/-- The values of the tiles. -/
def alphabet (pipeline : Pipeline) : Alphabet :=
  pipeline.root.alphabet

/-- How many tiles the store holds. -/
def cachedTiles (pipeline : Pipeline) : Nat :=
  if pipeline.cached then pipeline.store.stored else 0

/-- The tile at an anchor, and the pipeline afterwards. -/
def resolve (pipeline : Pipeline) (minX minZ : Coord) : Except Fault (Grid × Pipeline) := do
  let (tile, store) ← (pipeline.root.generate minX minZ).run pipeline.store
  return (tile, { pipeline with store })

/-- The anchors of `tilesX` by `tilesZ` adjacent tiles, row by row. -/
def anchors (size : Size) (minX minZ : Coord) (tilesX tilesZ : Nat) : List (Coord × Coord) :=
  (List.range (tilesX * tilesZ)).map fun i =>
    (minX + Int32.ofNat (i % tilesX * size.width), minZ + Int32.ofNat (i / tilesX * size.height))

/-- Resolves the tiles at some anchors and pastes them into a grid. -/
def resolveInto (pipeline : Pipeline) (region : Grid) :
    List (Coord × Coord) → Except Fault (Grid × Pipeline)
  | [] => .ok (region, pipeline)
  | (x, z) :: later => do
    let (tile, pipeline) ← pipeline.resolve x z
    pipeline.resolveInto (← region.paste tile) later

/-- `tilesX` by `tilesZ` adjacent tiles as one grid, and the pipeline afterwards. -/
def resolveRegion (pipeline : Pipeline) (minX minZ : Coord) (tilesX tilesZ : Nat) :
    Except Fault (Grid × Pipeline) := do
  let size := pipeline.tileSize
  let width := tilesX * size.width
  let height := tilesZ * size.height
  if wordLimit ≤ width ∨ wordLimit ≤ height ∨ wordLimit ≤ tilesX * tilesZ then
    throw .wordRange
  let region ← Grid.zero minX minZ ⟨width, height⟩
  pipeline.resolveInto region (anchors size minX minZ tilesX tilesZ)

end Pipeline

end BiomeAtlas
