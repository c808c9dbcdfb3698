import BiomeAtlas.Stage.Basic

/-! # Work on a shared store

Several workers may generate tiles on one store at the same time. What a worker still has to do is a
`Work`: it ends with a result, or it asks the store for one thing and goes on with the answer. In
between, other workers may ask the store as well.

`Stage.work` generates a tile in this way. One worker on its own does with `Work.run` what
`Stage.generate` does. -/

namespace BiomeAtlas

namespace TileStore

/-- Whether another tile would be kept. -/
def hasRoom (store : TileStore) : Bool :=
  decide (store.stored < store.capacity)

/-- Stores a generated tile unless the key has been taken or the store has been filled in the
meantime, and answers the tile to use. The entry of the key is locked until this is done, and a full
store stays full, so that this counts as one operation. -/
def settle (key : TileKey) (tile : Grid) (store : TileStore) : Grid × TileStore :=
  match store.find? key with
  | some existing => (existing, store)
  | none =>
    if store.hasRoom then
      (tile, { store with tiles := store.tiles.insert key tile, stored := store.stored + 1 })
    else
      (tile, store)

end TileStore

/-- A computation that uses the store one operation at a time. -/
inductive Work (α : Type) where
  /-- Nothing is left to do. -/
  | done (result : Except Fault α)
  /-- Looks for the tile of a key. -/
  | find (key : TileKey) (next : Option Grid → Work α)
  /-- Asks whether another tile would be kept. -/
  | room (next : Bool → Work α)
  /-- Offers a tile. -/
  | settle (key : TileKey) (tile : Grid) (next : Grid → Work α)

namespace Work
variable {α β : Type}

/-- Goes on with the result; a fault ends the work. -/
protected def bind : Work α → (α → Work β) → Work β
  | done (.ok a), f => f a
  | done (.error fault), _ => done (.error fault)
  | find key next, f => find key fun found? => (next found?).bind f
  | room next, f => room fun hasRoom => (next hasRoom).bind f
  | settle key tile next, f => settle key tile fun kept => (next kept).bind f

instance : Monad Work where
  pure a := done (.ok a)
  bind := Work.bind

instance : MonadLift (Except Fault) Work where
  monadLift := done

/-- The tile of a key: the stored one, or else the one the generator makes, which is offered to the
store if it has room. -/
def fetch (key : TileKey) (generate : Work Grid) : Work Grid :=
  find key fun
    | some tile => pure tile
    | none => do
      let tile ← generate
      room fun hasRoom => if hasRoom then settle key tile pure else pure tile

/-- The next operation on the store, if there is anything left to do. -/
def step? : Work α → TileStore → Option (Work α × TileStore)
  | done _, _ => none
  | find key next, store => some (next (store.find? key), store)
  | room next, store => some (next store.hasRoom, store)
  | settle key tile next, store =>
    let (kept, store) := store.settle key tile
    some (next kept, store)

/-- All operations, one after the other. -/
def run : Work α → Generation α
  | done result => result
  | find key next => do (next ((← get).find? key)).run
  | room next => do (next (← get).hasRoom).run
  | settle key tile next => do (next (← modifyGet (TileStore.settle key tile))).run

end Work

/-- Generates the tile at an anchor, one operation on the store at a time. -/
def Stage.work : Stage → Coord → Coord → Work Grid
  | source rule noise size, minX, minZ => rule.generate noise size minX minZ
  | sampled _ _ size field, minX, minZ =>
    Grid.tabulate minX minZ size fun x z =>
      return field (minX + Int32.ofNat x) (minZ + Int32.ofNat z)
  | zoom noise size coarser, minX, minZ => do
    let lower ← coarser.work (coarse minX) (coarse minZ)
    lower.zoomed noise size minX minZ
  | cross rule noise size input, minX, minZ => do
    let haloed ← input.work (minX - 1) (minZ - 1)
    rule.generate noise size haloed minX minZ
  | cell rule noise input, minX, minZ => do
    let grid ← input.work minX minZ
    rule.generate noise grid minX minZ
  | blend rule base overlay, minX, minZ => do
    let second ← overlay.work minX minZ
    let first ← base.work minX minZ
    first.blend second rule.apply
  | cached number input, minX, minZ =>
    Work.fetch ⟨number, minX, minZ, input.size⟩ (input.work minX minZ)

end BiomeAtlas
