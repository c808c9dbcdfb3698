import BiomeAtlas.Proofs.Tile

/-! # Stores

A store answers requests from memory, and generating one tile puts others into it. This module says
when that makes no difference: each number belongs to at most one stage, the owner of the number,
and every stored tile is the tile of the owner at the anchor of its key (`Orderly`). A stage whose
places in the store are its own then yields its tile (`Stage.yields_generate`,
`Orderly.yields_fetch`) and leaves the store orderly, whether or not there is room, because what it
offers to the store is already known to be its tile.
-/
namespace BiomeAtlas

/-! ## Running -/

section Running
variable {ε α β : Type} {store : TileStore}

theorem run_bind_eq_ok {making : StateT TileStore (Except ε) α}
    {next : α → StateT TileStore (Except ε) β} {b : β × TileStore} :
    (making >>= next).run store = .ok b ↔
      ∃ a store₁, making.run store = .ok (a, store₁) ∧ (next a).run store₁ = .ok b := by
  change (making.run store >>= fun made => (next made.1).run made.2) = .ok b ↔ _
  rw [bind_eq_ok]
  constructor
  · rintro ⟨⟨a, store₁⟩, hmaking, hnext⟩; exact ⟨a, store₁, hmaking, hnext⟩
  · rintro ⟨a, store₁, hmaking, hnext⟩; exact ⟨(a, store₁), hmaking, hnext⟩

theorem run_lift_eq_ok {result : Except ε α} {a : α} {store' : TileStore} :
    (liftM result : StateT TileStore (Except ε) α).run store = .ok (a, store') ↔
    result = .ok a ∧ store' = store := by
  cases result with
  | error e =>
      constructor
      · intro h; cases h
      · rintro ⟨h, _⟩; cases h
  | ok found =>
      constructor
      · intro h; cases h; exact ⟨rfl, rfl⟩
      · rintro ⟨h, rfl⟩; cases h; rfl

end Running

/-! ## Computations with a store -/

/-- From every store with the invariant, the computation ends as expected, in a store with the
invariant. -/
def Yields {α : Type} (invariant : TileStore → Prop) (making : Generation α)
    (expected : Except Fault α) : Prop :=
  ∀ store, invariant store → ∃ store', making.run store = expected.map (fun a => (a, store')) ∧
    invariant store'

section Yields
variable {α β : Type} {invariant : TileStore → Prop}

theorem yields_lift (expected : Except Fault α) : Yields invariant (liftM expected) expected := by
  intro store h
  cases expected with
  | error e => exact ⟨store, rfl, h⟩
  | ok a => exact ⟨store, rfl, h⟩

theorem yields_bind {making : Generation α} {expected : Except Fault α} {next : α → Generation β}
    {nextExpected : α → Except Fault β} (h : Yields invariant making expected)
    (hnext : ∀ a, Yields invariant (next a) (nextExpected a)) :
    Yields invariant (making >>= next) (expected >>= nextExpected) := by
  intro store hstore
  obtain ⟨store₁, hrun, hstore₁⟩ := h store hstore
  change ∃ store', (making.run store >>= fun made => (next made.1).run made.2) = _ ∧ _
  rw [hrun]
  cases expected with
  | error e => exact ⟨store₁, rfl, hstore₁⟩
  | ok a => exact hnext a store₁ hstore₁

end Yields

namespace Stage

/-- Every place in a store is one that the stage behind it owns. -/
def Places (owns : UInt32 → Stage → Prop) : Stage → Prop
  | source .. | sampled .. => True
  | zoom _ _ input | cross _ _ _ input | cell _ _ input => input.Places owns
  | blend _ base overlay => base.Places owns ∧ overlay.Places owns
  | cached number input => owns number input ∧ input.Places owns

theorem Places.mono {owns owns' : UInt32 → Stage → Prop}
    (h : ∀ number input, owns number input → owns' number input) :
    ∀ {stage : Stage}, stage.Places owns → stage.Places owns'
  | source .., _ | sampled .., _ => trivial
  | zoom _ _ input, hplaces | cross _ _ _ input, hplaces | cell _ _ input, hplaces =>
      @mono _ _ h input hplaces
  | blend _ base overlay, hplaces => ⟨@mono _ _ h base hplaces.1, @mono _ _ h overlay hplaces.2⟩
  | cached _ input, hplaces => ⟨h _ _ hplaces.1, @mono _ _ h input hplaces.2⟩

/-- A stage without places in a store. -/
theorem places_bare (owns : UInt32 → Stage → Prop) : ∀ stage : Stage, stage.bare.Places owns
  | source .. | sampled .. => trivial
  | zoom _ _ input | cross _ _ _ input | cell _ _ input => places_bare owns input
  | blend _ base overlay => ⟨places_bare owns base, places_bare owns overlay⟩
  | cached _ input => places_bare owns input

/-- **Generating yields the tile** of the stage, if asking for a stored tile does so at every place
in a store. -/
theorem yields_generate {owns : UInt32 → Stage → Prop} {invariant : TileStore → Prop}
    (hfetch : ∀ number input minX minZ, owns number input →
      Yields invariant (input.generate minX minZ) (input.tile minX minZ) →
      Yields invariant (TileStore.fetch ⟨number, minX, minZ, input.size⟩ (input.generate minX minZ))
        (input.tile minX minZ)) :
    ∀ {stage : Stage}, stage.Places owns → ∀ minX minZ,
      Yields invariant (stage.generate minX minZ) (stage.tile minX minZ)
  | source .., _, _, _ => yields_lift _
  | sampled .., _, _, _ => yields_lift _
  | zoom _ _ input, h, _, _ =>
      yields_bind (@yields_generate _ _ hfetch input h _ _) fun _ => yields_lift _
  | cross _ _ _ input, h, _, _ =>
      yields_bind (@yields_generate _ _ hfetch input h _ _) fun _ => yields_lift _
  | cell _ _ input, h, _, _ =>
      yields_bind (@yields_generate _ _ hfetch input h _ _) fun _ => yields_lift _
  | blend _ base overlay, h, _, _ =>
      yields_bind (@yields_generate _ _ hfetch overlay h.2 _ _) fun _ =>
        yields_bind (@yields_generate _ _ hfetch base h.1 _ _) fun _ => yields_lift _
  | cached number input, h, minX, minZ =>
      hfetch number input minX minZ h.1 (@yields_generate _ _ hfetch input h.2 minX minZ)

/-- Without places in a store, the store stays as it is. -/
theorem run_generate_bare (stage : Stage) (minX minZ : Coord) (store : TileStore) :
    (stage.bare.generate minX minZ).run store = (stage.tile minX minZ).map fun tile =>
      (tile, store) := by
  have hyields : Yields (· = store) (stage.bare.generate minX minZ) (stage.bare.tile minX minZ) :=
    yields_generate (fun _ _ _ _ h => h.elim) (places_bare (fun _ _ => False) stage) minX minZ
  obtain ⟨_, hrun, rfl⟩ := hyields store rfl
  rw [hrun, tile_bare]

end Stage

/-! ## Stores -/

namespace TileStore
variable {store : TileStore} {key key' : TileKey} {tile found : Grid}

theorem find?_empty (capacity : Nat) : (empty capacity).find? key = none := by
  simp [find?, empty]

/-- The store with one more tile. -/
def insert (store : TileStore) (key : TileKey) (tile : Grid) : TileStore :=
  { store with tiles := store.tiles.insert key tile, stored := store.stored + 1 }

theorem find?_insert :
    (store.insert key tile).find? key' = if key = key' then some tile else store.find? key' := by
  simp [find?, insert, Std.HashMap.getElem?_insert]

/-- A tile with a new key makes one tile more. -/
theorem size_insert {store : TileStore} {key : TileKey} (hnone : store.find? key = none)
    (tile : Grid) :
    (store.tiles.insert key tile).size = store.tiles.size + 1 := by
  have hnew : key ∉ store.tiles := by
    intro hmem
    have hsome := Std.HashMap.mem_iff_isSome_getElem?.mp hmem
    rw [show store.tiles[key]? = none from hnone] at hsome
    cases hsome
  rw [Std.HashMap.size_insert, if_neg hnew]

/-- **Offering a tile**: there is no room, or the key is taken, or the tile is stored. -/
theorem keep_cases (store : TileStore) (key : TileKey) (tile : Grid) :
    (store.capacity ≤ store.stored ∧ keep key tile store = (tile, store)) ∨
    (∃ existing, store.find? key = some existing ∧ keep key tile store = (existing, store)) ∨
    (store.stored < store.capacity ∧ store.find? key = none ∧
      keep key tile store = (tile, store.insert key tile)) := by
  unfold keep
  by_cases hfull : store.capacity ≤ store.stored
  · rw [if_pos hfull]
    exact Or.inl ⟨hfull, rfl⟩
  · rw [if_neg hfull]
    cases hfind : store.find? key with
    | some existing => exact Or.inr (Or.inl ⟨existing, rfl, rfl⟩)
    | none => exact Or.inr (Or.inr ⟨Nat.lt_of_not_le hfull, rfl, rfl⟩)

/-- **Asking for a tile**: the stored one, or else the one that is made, which is offered to the
store. -/
theorem run_fetch {making : Generation Grid} : (fetch key making).run store =
    match store.find? key with
    | some tile => .ok (tile, store)
    | none => making.run store >>= fun made => .ok (keep key made.1 made.2) := by
  unfold fetch
  change StateT.run (match store.find? key with | some tile => _ | none => _) store = _
  cases store.find? key <;> rfl

end TileStore

/-! ## Owners -/

/-- The owner of each number that has been handed out; nobody owns a number of a stage that was
given up. -/
abbrev Owners := List (Option Stage)

/-- The number belongs to the stage. -/
def Owners.Owns (owners : Owners) (number : UInt32) (stage : Stage) : Prop :=
  owners[number.toNat]? = some (some stage)

theorem Owners.Owns.append {owners more : Owners} {number : UInt32} {stage : Stage}
    (h : owners.Owns number stage) :
    Owners.Owns (owners ++ more) number stage := by
  obtain ⟨hlt, -⟩ := List.getElem?_eq_some_iff.mp h
  rw [Owns, List.getElem?_append_left hlt]
  exact h

/-- A number has one owner. -/
theorem Owners.Owns.unique {owners : Owners} {number : UInt32} {stage stage' : Stage}
    (h : owners.Owns number stage) (h' : owners.Owns number stage') : stage' = stage :=
  Option.some.inj (Option.some.inj (h'.symm.trans h))

/-- **An orderly store**: numbers are handed out in order, and every stored tile is the tile of the
owner of its number. -/
structure Orderly (owners : Owners) (store : TileStore) : Prop where
  nextStage_eq : store.nextStage = UInt32.ofNat owners.length
  honest : ∀ key tile, store.find? key = some tile →
    ∃ input, owners.Owns key.stage input ∧ input.size = key.size ∧
      input.tile key.minX key.minZ = .ok tile

namespace Orderly
variable {owners : Owners} {store : TileStore}

theorem empty (capacity : Nat) : Orderly [] (.empty capacity) where
  nextStage_eq := rfl
  honest key tile h := by
    rw [TileStore.find?_empty] at h
    cases h

/-- New numbers have no stored tiles yet. -/
theorem handOut (h : Orderly owners store) (more : Owners) :
    Orderly (owners ++ more) { store with nextStage := UInt32.ofNat (owners ++ more).length } where
  nextStage_eq := rfl
  honest key tile hfind := by
    obtain ⟨input, howns, hsize, htile⟩ := h.honest key tile hfind
    exact ⟨input, howns.append, hsize, htile⟩

/-- What is found under a key of an owner is the tile of the owner. -/
theorem tile_eq (h : Orderly owners store) {number : UInt32} {input : Stage}
    {minX minZ : Coord} {tile : Grid} (howns : owners.Owns number input)
    (hfind : store.find? ⟨number, minX, minZ, input.size⟩ = some tile) :
    input.tile minX minZ = .ok tile := by
  obtain ⟨owner, howner, -, htile⟩ := h.honest _ _ hfind
  cases howns.unique howner
  exact htile

theorem insert (h : Orderly owners store) {number : UInt32} {input : Stage}
    {minX minZ : Coord} {tile : Grid} (howns : owners.Owns number input)
    (htile : input.tile minX minZ = .ok tile) :
    Orderly owners (store.insert ⟨number, minX, minZ, input.size⟩ tile) where
  nextStage_eq := h.nextStage_eq
  honest key found hfind := by
    rw [TileStore.find?_insert] at hfind
    split at hfind
    · rename_i hkey
      cases hkey
      cases hfind
      exact ⟨input, howns, rfl, htile⟩
    · exact h.honest key found hfind

/-- Offering the tile of an owner is answered with it. -/
theorem keep (h : Orderly owners store) {number : UInt32} {input : Stage}
    {minX minZ : Coord} {tile : Grid} (howns : owners.Owns number input)
    (htile : input.tile minX minZ = .ok tile) :
    ∃ store', TileStore.keep ⟨number, minX, minZ, input.size⟩ tile store = (tile, store') ∧
      Orderly owners store' := by
  rcases store.keep_cases ⟨number, minX, minZ, input.size⟩ tile with
    ⟨-, hkeep⟩ | ⟨existing, hfind, hkeep⟩ | ⟨-, -, hkeep⟩
  · exact ⟨store, hkeep, h⟩
  · have hsame := (h.tile_eq howns hfind).symm.trans htile
    cases hsame
    exact ⟨store, hkeep, h⟩
  · exact ⟨_, hkeep, h.insert howns htile⟩

/-- Asking for the tile of an owner yields it, from memory or not. -/
theorem yields_fetch {number : UInt32} {input : Stage} {minX minZ : Coord}
    (howns : owners.Owns number input)
    (h : Yields (Orderly owners) (input.generate minX minZ) (input.tile minX minZ)) :
    Yields (Orderly owners)
      (TileStore.fetch ⟨number, minX, minZ, input.size⟩ (input.generate minX minZ))
      (input.tile minX minZ) := by
  intro store hstore
  rw [TileStore.run_fetch]
  cases hfind : store.find? ⟨number, minX, minZ, input.size⟩ with
  | some tile =>
      rw [hstore.tile_eq howns hfind]
      exact ⟨store, rfl, hstore⟩
  | none =>
      obtain ⟨store₁, hrun, hstore₁⟩ := h store hstore
      rw [hrun]
      cases htile : input.tile minX minZ with
      | error e => exact ⟨store₁, rfl, hstore₁⟩
      | ok tile =>
          obtain ⟨store₂, hkeep, hstore₂⟩ := hstore₁.keep howns htile
          exact ⟨store₂, congrArg Except.ok hkeep, hstore₂⟩

end Orderly

end BiomeAtlas
