import BiomeAtlas.Work

/-! # Calls on a shared store

Threads that share a store ask it for tiles at the same time. A `Call` is one such request, as far
as it has come. It uses the store one operation at a time:

* it looks for the tile, and returns it if it is there;
* otherwise it generates the tile, and returns it if the count of stored tiles has reached the
  capacity;
* otherwise it locks the entry of the key, and returns the tile that another call has stored there
  in the meantime;
* if there is none, it counts its tile. In time, it stores the tile; too late, it takes the tile off
  the count again.

So the count runs ahead of the tiles, and for a while it may even exceed the capacity. It is a
natural number here: there are never as many tiles and calls as a 64-bit word has values.

`Traffic` is a store together with all calls that have been made on it, and `Traffic.Step` says what
may happen next: a further call is made, or one of those that have not returned takes a step. Which
thread makes a call is not recorded, since nothing depends on it. A generator that asks for tiles in
its turn makes further calls before its own call goes on. Looking for a tile waits for nobody; if it
waited for locked entries, less could happen.

One call on its own does what `TileStore.fetch` does. -/

namespace BiomeAtlas

/-- How far a call for a tile has come, and the tile it holds. -/
inductive Call.Progress where
  /-- Is about to look for the tile. -/
  | looking
  /-- Has found no tile, and generates one. -/
  | generating
  /-- Is about to ask whether the store has room. -/
  | offering (tile : Grid)
  /-- Is about to lock the entry of its key. -/
  | entering (tile : Grid)
  /-- Has locked the entry, and is about to look at it. -/
  | inspecting (tile : Grid)
  /-- Has found the entry vacant, and is about to count its tile. -/
  | counting (tile : Grid)
  /-- Has counted its tile in time, and is about to store it. -/
  | storing (tile : Grid)
  /-- Has counted its tile too late, and is about to take it off the count. -/
  | withdrawing (tile : Grid)
  /-- Is about to unlock the entry. -/
  | leaving (tile : Grid)
  /-- Is over. -/
  | returned (tile : Grid)

/-- A call for the tile of a key. -/
structure Call where
  /-- The tile that is asked for. -/
  key : TileKey
  /-- How far the call has come. -/
  progress : Call.Progress

namespace Call

/-- Whether the call is over. -/
def isOver (call : Call) : Bool :=
  match call.progress with
  | .returned _ => true
  | _ => false

/-- Whether the next step of the call locks the entry of its key. -/
def isEntering (call : Call) : Bool :=
  match call.progress with
  | .entering _ => true
  | _ => false

/-- Whether the call has locked the entry of its key. -/
def isInside (call : Call) : Bool :=
  match call.progress with
  | .inspecting _ | .counting _ | .storing _ | .withdrawing _ | .leaving _ => true
  | _ => false

/-- Whether the call has reserved room for its tile: it has counted the tile in time, but not stored
it yet. -/
def isStoring (call : Call) : Bool :=
  match call.progress with
  | .storing _ => true
  | _ => false

/-- Whether the tile of the call is on the count although it came too late. -/
def isWithdrawing (call : Call) : Bool :=
  match call.progress with
  | .withdrawing _ => true
  | _ => false

/-- The call after its next step. The generator for a key makes the tile `make key`. -/
def next (make : TileKey → Grid) (call : Call) (store : TileStore) : Call :=
  { call with
    progress :=
      match call.progress with
      | .looking =>
        match store.find? call.key with
        | some tile => .returned tile
        | none => .generating
      | .generating => .offering (make call.key)
      | .offering tile => if store.hasRoom then .entering tile else .returned tile
      | .entering tile => .inspecting tile
      | .inspecting tile =>
        match store.find? call.key with
        | some existing => .leaving existing
        | none => .counting tile
      | .counting tile => if store.hasRoom then .storing tile else .withdrawing tile
      | .storing tile | .withdrawing tile => .leaving tile
      | .leaving tile | .returned tile => .returned tile }

/-- The store after the next step of the call. -/
def effect (call : Call) (store : TileStore) : TileStore :=
  match call.progress with
  | .counting _ => { store with stored := store.stored + 1 }
  | .storing tile => { store with tiles := store.tiles.insert call.key tile }
  | .withdrawing _ => { store with stored := store.stored - 1 }
  | _ => store

end Call

/-- A store and all the calls that have been made on it. -/
structure Traffic where
  store : TileStore
  calls : List Call

namespace Traffic

/-- A store without tiles, before the first call. -/
def opened (capacity : Nat) : Traffic :=
  ⟨.empty capacity, []⟩

/-- No call has locked the entry of the key. -/
def Unlocked (traffic : Traffic) (key : TileKey) : Prop :=
  ∀ call ∈ traffic.calls, call.key = key → call.isInside = false

/-- No call is in progress. -/
def Quiet (traffic : Traffic) : Prop :=
  ∀ call ∈ traffic.calls, call.isOver = true

/-- How many calls have reserved room for a tile that they have not stored yet. -/
def reserved (traffic : Traffic) : Nat :=
  traffic.calls.countP Call.isStoring

/-- A call takes a step. The one that is about to lock an entry can do so if no other call has
locked it. -/
inductive Advance (make : TileKey → Grid) : Traffic → Traffic → Prop
  | step {traffic : Traffic} {before after : List Call} {call : Call}
      (hcalls : traffic.calls = before ++ call :: after)
      (hopen : call.isOver = false) (hfree : call.isEntering = true → traffic.Unlocked call.key) :
      Advance make traffic ⟨call.effect traffic.store,
        before ++ call.next make traffic.store :: after⟩

/-- What may happen next: a call is made, or one takes a step. -/
inductive Step (make : TileKey → Grid) : Traffic → Traffic → Prop
  | arrive {traffic : Traffic} (key : TileKey) :
      Step make traffic { traffic with calls := traffic.calls ++ [⟨key, .looking⟩] }
  | advance {traffic next : Traffic} (h : Advance make traffic next) : Step make traffic next

/-- What the traffic may have become. -/
inductive Reaches (make : TileKey → Grid) (start : Traffic) : Traffic → Prop
  | start : Reaches make start start
  | step {traffic next : Traffic} (h : Reaches make start traffic)
      (hstep : Step make traffic next) : Reaches make start next

/-- What the traffic may have become after a number of steps, if no further call was made. -/
inductive Settles (make : TileKey → Grid) (start : Traffic) : Nat → Traffic → Prop
  | start : Settles make start 0 start
  | step {n : Nat} {traffic next : Traffic} (h : Settles make start n traffic)
      (hstep : Advance make traffic next) :
      Settles make start (n + 1) next

end Traffic

end BiomeAtlas
