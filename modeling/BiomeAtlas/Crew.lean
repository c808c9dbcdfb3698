import BiomeAtlas.Pipeline
import BiomeAtlas.Work

/-! # Resolving a region with several workers

The tiles of a region are the jobs of a crew. All jobs are queued before the first worker begins. A
worker takes the job at the front, generates the tile on the store that all workers share, delivers
it, and takes the next job; it leaves when no job is left. The one who has ordered the region pastes
the tiles in the order of their delivery, while the workers go on, and is done when all of them have
left and all tiles have been pasted.

Which worker does something next is not determined: `Crew.Step` relates a crew to each crew that it
may become. -/

namespace BiomeAtlas

/-- A worker. -/
inductive Worker where
  /-- Waits for a job. -/
  | idle
  /-- Generates a tile, or is about to deliver it. -/
  | busy (work : Work Grid)

/-- A crew and what is in flight between its members. -/
structure Crew where
  /-- The anchors of the tiles that nobody works on yet. -/
  jobs : List (Coord × Coord)
  /-- The workers who have not left. -/
  workers : List Worker
  /-- The tiles that wait to be pasted, in the order of their delivery. -/
  delivered : List Grid
  /-- The store that the workers share. -/
  store : TileStore
  /-- The region as far as it has been pasted. -/
  region : Grid

namespace Crew

/-- What may happen next, in a crew that generates tiles of the stage `root`. -/
inductive Step (root : Stage) : Crew → Crew → Prop
  /-- A worker takes the job at the front. -/
  | take {crew : Crew} {before after : List Worker} {x z : Coord} {jobs : List (Coord × Coord)}
      (hworkers : crew.workers = before ++ .idle :: after) (hjobs : crew.jobs = (x, z) :: jobs) :
      Step root crew { crew with jobs, workers := before ++ .busy (root.work x z) :: after }
  /-- A worker uses the store once. -/
  | use {crew : Crew} {before after : List Worker} {work next : Work Grid} {store : TileStore}
      (hworkers : crew.workers = before ++ .busy work :: after)
      (hstep : work.step? crew.store = some (next, store)) :
      Step root crew { crew with workers := before ++ .busy next :: after, store }
  /-- A worker delivers a tile. -/
  | deliver {crew : Crew} {before after : List Worker} {tile : Grid}
      (hworkers : crew.workers = before ++ .busy (.done (.ok tile)) :: after) :
      Step root crew { crew with
        workers := before ++ .idle :: after, delivered := crew.delivered ++ [tile] }
  /-- A worker leaves, since no job is left. -/
  | leave {crew : Crew} {before after : List Worker}
      (hworkers : crew.workers = before ++ .idle :: after)
      (hjobs : crew.jobs = []) : Step root crew { crew with workers := before ++ after }
  /-- The tile that was delivered first is pasted. -/
  | paste {crew : Crew} {tile region : Grid} {delivered : List Grid}
      (hdelivered : crew.delivered = tile :: delivered)
      (hpaste : crew.region.paste tile = .ok region) :
      Step root crew { crew with delivered, region }

/-- A worker has met with a fault, or a tile cannot be pasted. -/
inductive Fails (crew : Crew) : Fault → Prop
  | work {fault : Fault} (hmem : .busy (.done (.error fault)) ∈ crew.workers) : Fails crew fault
  | paste {fault : Fault} {tile : Grid} {delivered : List Grid}
      (hdelivered : crew.delivered = tile :: delivered)
      (hpaste : crew.region.paste tile = .error fault) : Fails crew fault

/-- Everybody has left, and everything has been pasted. -/
structure Finished (crew : Crew) : Prop where
  workers_eq : crew.workers = []
  delivered_eq : crew.delivered = []

/-- What a crew may have become after a number of steps. -/
inductive Reaches (root : Stage) (start : Crew) : Nat → Crew → Prop
  | start : Reaches root start 0 start
  | step {n : Nat} {crew next : Crew} (h : Reaches root start n crew)
      (hstep : Step root crew next) :
      Reaches root start (n + 1) next

end Crew

/-- The crew for a region of `tilesX` by `tilesZ` adjacent tiles, before it begins. It has no more
workers than jobs and, if there are jobs, at least one worker. -/
def Pipeline.crew (pipeline : Pipeline) (minX minZ : Coord) (tilesX tilesZ threads : Nat) :
    Except Fault Crew := do
  let size := pipeline.tileSize
  let width := tilesX * size.width
  let height := tilesZ * size.height
  if wordLimit ≤ width ∨ wordLimit ≤ height ∨ wordLimit ≤ tilesX * tilesZ then
    throw .wordRange
  let region ← Grid.zero minX minZ ⟨width, height⟩
  let jobs := anchors size minX minZ tilesX tilesZ
  let workers := List.replicate (min (max threads 1) jobs.length) .idle
  return { jobs, workers, delivered := [], store := pipeline.store, region }

end BiomeAtlas
