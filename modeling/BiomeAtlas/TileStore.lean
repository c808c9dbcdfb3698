import Std.Data.HashMap
import BiomeAtlas.Grid.Basic

/-! # The store of tiles

Neighbouring tiles are generated from overlapping coarser tiles. A `TileStore` keeps tiles that have
been generated, so that asking for the same one again costs a look-up. It is bounded and only ever
grows: once `capacity` tiles are stored, further tiles are generated but not kept, and a stored tile
is never replaced.

`TileStore.fetch` is the only way to ask for a tile: it runs the given generator if, and only if,
the tile is absent. A generator may fetch other tiles in turn. `TileStore.Session` describes such
nested requests as data, and `Session.run` also counts how many generators ran. -/

namespace BiomeAtlas

deriving instance Hashable for Size

/-- The name of one tile: the number of the stage that owns it, its anchor and its size. -/
structure TileKey where
  /-- A number handed out by `TileStore.register`. -/
  stage : UInt32
  /-- World coordinate of the first column. -/
  minX : Coord
  /-- World coordinate of the first row. -/
  minZ : Coord
  /-- Columns and rows. -/
  size : Size
  deriving DecidableEq, Repr, Hashable

/-- A bounded collection of tiles. -/
structure TileStore where
  /-- How many tiles are kept at most. -/
  capacity : Nat
  /-- The stored tiles. -/
  tiles : Std.HashMap TileKey Grid
  /-- How many tiles have been stored. -/
  stored : Nat
  /-- The number the next stage gets. -/
  nextStage : UInt32

namespace TileStore

/-- A store without tiles. -/
def empty (capacity : Nat) : TileStore :=
  ⟨capacity, ∅, 0, 0⟩

/-- Whether nothing has been stored yet. -/
def isEmpty (store : TileStore) : Bool :=
  store.stored == 0

/-- The stored tile of a key. -/
def find? (store : TileStore) (key : TileKey) : Option Grid :=
  store.tiles[key]?

/-- Hands out a number for a stage. Numbers are handed out in order. -/
def register (store : TileStore) : UInt32 × TileStore :=
  (store.nextStage, { store with nextStage := store.nextStage + 1 })

/-- Offers a generated tile, and answers the tile to use: the stored one if the key is taken, else
the offered one, which is kept while there is room. -/
def keep (key : TileKey) (tile : Grid) (store : TileStore) : Grid × TileStore :=
  if store.capacity ≤ store.stored then
    (tile, store)
  else
    match store.find? key with
    | some existing => (existing, store)
    | none =>
      (tile, { store with tiles := store.tiles.insert key tile, stored := store.stored + 1 })

/-- The tile of a key: the stored one, or else the one the generator makes, which is offered to the
store. The generator sees the store and may change it. -/
def fetch {m : Type → Type} [Monad m] (key : TileKey) (generate : StateT TileStore m Grid) :
    StateT TileStore m Grid := do
  match (← get).find? key with
  | some tile => return tile
  | none =>
    let tile ← generate
    modifyGet (keep key tile)

/-- A sequence of requests to a store that ends with a tile. Each request may depend on the answers
to earlier ones. -/
inductive Session where
  /-- Ends with a tile. -/
  | finish (tile : Grid)
  /-- Asks for the number of a new stage. -/
  | register (next : UInt32 → Session)
  /-- Asks for a tile, with a session that generates it if it is absent. -/
  | fetch (key : TileKey) (generate : Session) (next : Grid → Session)

/-- Runs a session and counts the generators that run, nested ones included. -/
def Session.run : Session → StateT TileStore (StateM Nat) Grid
  | .finish tile => return tile
  | .register next => do
    let stage ← modifyGet TileStore.register
    (next stage).run
  | .fetch key generate next => do
    let tile ← TileStore.fetch key do
      modifyThe Nat (· + 1)
      generate.run
    (next tile).run

end TileStore

end BiomeAtlas
