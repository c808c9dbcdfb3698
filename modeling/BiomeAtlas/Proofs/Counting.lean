import Mathlib.Data.Finset.Card
import BiomeAtlas.Proofs.Closure

/-! # How many tiles are stored

A pipeline with a store ends up with the same number of stored tiles in whatever order it is asked
for tiles: as many as there are different requests to its doublings, as long as there is room for
them (`PipelineSpec.cachedTiles_eq`).

The requests are those of the pipeline without a store, which really makes all of them:
`Stage.noted` generates a tile and notes every request to a doubling. With a store many of them are
not made, since an answer from memory hides the requests below it. But what is below has been stored
before, because a tile is offered to the store only after it has been generated. So until the store
is full, every stored tile has the tiles below it stored as well (`TileStore.Closed`), and nothing
that was asked for is missing (`TileStore.Grows`).
-/
namespace BiomeAtlas

/-! ## Requests without a store -/

/-- A request to a doubling: which one it is, in the order of building, and the anchor it is asked
at. -/
structure Request where
  doubling : Nat
  minX : Coord
  minZ : Coord
  deriving DecidableEq

namespace Stage

/-- Generates a tile without a store, and notes the requests to doublings. The doublings are counted
from `first` on. -/
def noted : Stage → Nat → Coord → Coord → StateT (List Request) (Except Fault) Grid
  | source rule noise size, _, minX, minZ => rule.generate noise size minX minZ
  | sampled _ _ size field, _, minX, minZ =>
    Grid.tabulate minX minZ size fun x z =>
      return field (minX + Int32.ofNat x) (minZ + Int32.ofNat z)
  | zoom noise size coarser, first, minX, minZ => do
    modify (· ++ [⟨first + coarser.doublings, minX, minZ⟩])
    let lower ← coarser.noted first (coarse minX) (coarse minZ)
    lower.zoomed noise size minX minZ
  | cross rule noise size input, first, minX, minZ => do
    let haloed ← input.noted first (minX - 1) (minZ - 1)
    rule.generate noise size haloed minX minZ
  | cell rule noise input, first, minX, minZ => do
    let grid ← input.noted first minX minZ
    rule.generate noise grid minX minZ
  | blend rule base overlay, first, minX, minZ => do
    let upper ← overlay.noted (first + base.doublings) minX minZ
    let lower ← base.noted first minX minZ
    lower.blend upper rule.apply
  | cached _ input, first, minX, minZ => input.noted first minX minZ

/-- Generates tiles at some anchors, one after the other, without a store, and notes the requests to
doublings. -/
def notedAll (stage : Stage) : List (Coord × Coord) → StateT (List Request) (Except Fault) Unit
  | [] => return
  | (x, z) :: later => do
    let _ ← stage.noted 0 x z
    stage.notedAll later

/-- The requests to doublings that a tile is made from. -/
def requests : Stage → Nat → Coord → Coord → List Request
  | source .., _, _, _ | sampled .., _, _, _ => []
  | zoom _ _ coarser, first, minX, minZ =>
    ⟨first + coarser.doublings, minX, minZ⟩ :: coarser.requests first (coarse minX) (coarse minZ)
  | cross _ _ _ input, first, minX, minZ => input.requests first (minX - 1) (minZ - 1)
  | cell _ _ input, first, minX, minZ | cached _ input, first, minX, minZ =>
      input.requests first minX minZ
  | blend _ base overlay, first, minX, minZ =>
    overlay.requests (first + base.doublings) minX minZ ++ base.requests first minX minZ

section Noting
variable {α β : Type} {making : StateT (List Request) (Except Fault) α} {expected : Except Fault α}
  {asked : List Request}

/-- The computation ends as expected, and notes the given requests if it succeeds. -/
def Notes (making : StateT (List Request) (Except Fault) α) (expected : Except Fault α)
    (asked : List Request) : Prop :=
  ∀ log, making.run log = expected.map fun a => (a, log ++ asked)

theorem notes_lift (expected : Except Fault α) : Notes (liftM expected) expected [] := by
  intro log
  rw [List.append_nil]
  cases expected <;> rfl

theorem Notes.bind {next : α → StateT (List Request) (Except Fault) β}
    {nextExpected : α → Except Fault β} {nextAsked : List Request} (h : Notes making expected asked)
    (hnext : ∀ a, Notes (next a) (nextExpected a) nextAsked) :
    Notes (making >>= next) (expected >>= nextExpected) (asked ++ nextAsked) := by
  intro log
  change (making.run log >>= fun made => (next made.1).run made.2) = _
  rw [h log]
  cases expected with
  | error e => rfl
  | ok a =>
      rw [← List.append_assoc]
      exact hnext a (log ++ asked)

theorem Notes.finish (h : Notes making expected asked) (last : α → Except Fault β) :
    Notes (making >>= fun a => liftM (last a)) (expected >>= last) asked := by
  have hbind := h.bind fun a => notes_lift (last a)
  rwa [List.append_nil] at hbind

theorem Notes.note (h : Notes making expected asked) (request : Request) :
    Notes (modify (· ++ [request]) >>= fun _ => making) expected (request :: asked) := by
  intro log
  change making.run (log ++ [request]) = _
  rw [h, List.append_assoc]
  rfl

end Noting

/-- **Noting does not change the tile**, and it notes the requests that the tile is made from. -/
theorem notes_noted : ∀ (stage : Stage) (first : Nat) (minX minZ : Coord),
    Notes (stage.noted first minX minZ) (stage.tile minX minZ) (stage.requests first minX minZ)
  | source .., _, _, _ => notes_lift _
  | sampled .., _, _, _ => notes_lift _
  | zoom _ _ coarser, _, _, _ => ((notes_noted coarser _ _ _).finish _).note _
  | cross _ _ _ input, _, _, _ => (notes_noted input _ _ _).finish _
  | cell _ _ input, _, _, _ => (notes_noted input _ _ _).finish _
  | blend _ base overlay, _, _, _ =>
      (notes_noted overlay _ _ _).bind fun _ => (notes_noted base _ _ _).finish _
  | cached _ input, _, _, _ => notes_noted input _ _ _

/-- Without a store, a noted tile is the tile that is generated. -/
theorem noted_bare_eq (stage : Stage) (first : Nat) (minX minZ : Coord) (log : List Request)
    (store : TileStore) :
    ((stage.bare.noted first minX minZ).run log).map Prod.fst =
      ((stage.bare.generate minX minZ).run store).map Prod.fst := by
  rw [notes_noted, run_generate_bare, tile_bare]
  cases stage.tile minX minZ <;> rfl

/-- If all the tiles exist, all the requests that they are made from are noted. -/
theorem run_notedAll (stage : Stage) : ∀ {anchors : List (Coord × Coord)} (log : List Request),
    (∀ anchor ∈ anchors, ∃ tile, stage.tile anchor.1 anchor.2 = .ok tile) →
    (stage.notedAll anchors).run log =
      .ok ((), log ++ anchors.flatMap fun anchor => stage.requests 0 anchor.1 anchor.2)
  | [], log, _ => by
      rw [List.flatMap_nil, List.append_nil]
      rfl
  | (x, z) :: later, log, h => by
      obtain ⟨tile, htile⟩ := h (x, z) (List.mem_cons_self ..)
      have hnoted := notes_noted stage 0 x z log
      rw [htile] at hnoted
      have hlater := run_notedAll stage (log ++ stage.requests 0 x z) fun anchor hmem =>
        h anchor (List.mem_cons_of_mem _ hmem)
      rw [notedAll, StateT.run_bind, hnoted, List.flatMap_cons, ← List.append_assoc]
      exact hlater

@[simp] theorem doublings_bare : ∀ stage : Stage, stage.bare.doublings = stage.doublings
  | source .. | sampled .. => rfl
  | zoom _ _ input => congrArg (· + 1) (doublings_bare input)
  | cross _ _ _ input | cell _ _ input | cached _ input => doublings_bare input
  | blend _ base overlay => congrArg₂ (· + ·) (doublings_bare base) (doublings_bare overlay)

/-! ## Requests with a store -/

/-- The keys that a tile is made from, if the store answers none of the requests. -/
def keys : Stage → Coord → Coord → List TileKey
  | source .., _, _ | sampled .., _, _ => []
  | zoom _ _ coarser, minX, minZ => coarser.keys (coarse minX) (coarse minZ)
  | cross _ _ _ input, minX, minZ => input.keys (minX - 1) (minZ - 1)
  | cell _ _ input, minX, minZ => input.keys minX minZ
  | blend _ base overlay, minX, minZ => overlay.keys minX minZ ++ base.keys minX minZ
  | cached number input, minX, minZ => ⟨number, minX, minZ, input.size⟩ :: input.keys minX minZ

end Stage

/-- The request that a key stands for. -/
def TileKey.request (key : TileKey) : Request :=
  ⟨key.stage.toNat, key.minX, key.minZ⟩

namespace Stage

/-- With numbers in order, the keys stand for the requests that are made without a store. -/
theorem map_request_keys :
    ∀ {stage : Stage} {first : Nat} (minX minZ : Coord), stage.Numbered first →
    (stage.keys minX minZ).map TileKey.request = stage.bare.requests first minX minZ
  | source .., _, _, _, _ | sampled .., _, _, _, _ => rfl
  | zoom .., _, _, _, h => h.elim
  | cross _ _ _ input, _, _, _, h => @map_request_keys input _ _ _ h
  | cell _ _ input, _, _, _, h => @map_request_keys input _ _ _ h
  | blend _ base overlay, first, minX, minZ, h => by
      rw [keys, List.map_append, @map_request_keys overlay _ minX minZ h.2,
        @map_request_keys base _ minX minZ h.1]
      simp only [bare, requests, doublings_bare]
  | cached number (zoom _ _ coarser), first, minX, minZ, h => by
      rw [keys, keys, List.map_cons, map_request_keys _ _ h.2, TileKey.request, h.1]
      simp only [bare, requests, doublings_bare]
  | cached _ (source ..), _, _, _, h | cached _ (sampled ..), _, _, _, h
  | cached _ (cross ..), _, _, _, h => h.elim
  | cached _ (cell ..), _, _, _, h | cached _ (blend ..), _, _, _, h
  | cached _ (cached ..), _, _, _, h => h.elim

/-- Keys have the size of the stage that owns their number. -/
theorem owns_of_mem_keys {owns : UInt32 → Stage → Prop} {key : TileKey} :
    ∀ {stage : Stage} {minX minZ : Coord}, stage.Places owns → key ∈ stage.keys minX minZ → ∃ input,
      owns key.stage input ∧ input.size = key.size
  | source .., _, _, _, h | sampled .., _, _, _, h => by cases h
  | zoom _ _ input, _, _, hplaces, h | cross _ _ _ input, _, _, hplaces, h =>
      @owns_of_mem_keys _ _ input _ _ hplaces h
  | cell _ _ input, _, _, hplaces, h => @owns_of_mem_keys _ _ input _ _ hplaces h
  | blend _ base overlay, _, _, hplaces, h => by
      rcases List.mem_append.mp h with h | h
      · exact owns_of_mem_keys hplaces.2 h
      · exact owns_of_mem_keys hplaces.1 h
  | cached _ input, _, _, hplaces, h => by
      rcases List.mem_cons.mp h with rfl | h
      · exact ⟨input, hplaces.1, rfl⟩
      · exact owns_of_mem_keys hplaces.2 h

end Stage

/-! ## How a store grows -/

namespace TileStore

/-- The tile of the key is stored. -/
def Holds (store : TileStore) (key : TileKey) : Prop :=
  ∃ tile, store.find? key = some tile

/-- No further tile will be stored. -/
def Full (store : TileStore) : Prop :=
  store.capacity ≤ store.stored

/-- The number of stored tiles is kept right. -/
structure Counted (store : TileStore) : Prop where
  stored_eq : store.stored = store.tiles.size
  stored_le : store.stored ≤ store.capacity

/-- Unless the store is full, every stored tile has what it was made from stored as well. -/
def Closed (owners : Owners) (store : TileStore) : Prop :=
  ¬ store.Full → ∀ key, store.Holds key → ∀ input, owners.Owns key.stage input →
    ∀ below ∈ input.keys key.minX key.minZ, store.Holds below

theorem holds_insert_iff {store : TileStore} {key key' : TileKey} {tile : Grid} :
    (store.insert key tile).Holds key' ↔ key = key' ∨ store.Holds key' := by
  unfold Holds
  rw [find?_insert]
  by_cases hkey : key = key'
  · simp [hkey]
  · simp [hkey]

/-- **How a store grows** while the keys in `asked` are asked for: it forgets nothing, it stores
nothing but what is asked for, and unless it is full in the end it has stored all of that. -/
structure Grows (owners : Owners) (store : TileStore) (asked : List TileKey)
    (later : TileStore) : Prop where
  capacity_eq : later.capacity = store.capacity
  stored_le : store.stored ≤ later.stored
  holds : ∀ key, store.Holds key → later.Holds key
  holds_or_mem : ∀ key, later.Holds key → store.Holds key ∨ key ∈ asked
  counted : store.Counted → later.Counted
  closed : store.Closed owners → later.Closed owners
  complete : store.Closed owners → ¬ later.Full → ∀ key ∈ asked, later.Holds key

namespace Grows
variable {owners : Owners} {store next later : TileStore} {asked more : List TileKey}

theorem refl (owners : Owners) (store : TileStore) : Grows owners store [] store where
  capacity_eq := rfl
  stored_le := Nat.le_refl _
  holds _ h := h
  holds_or_mem _ h := Or.inl h
  counted h := h
  closed h := h
  complete _ _ _ h := by cases h

theorem full (h : Grows owners store asked later) (hfull : store.Full) : later.Full := by
  have hcapacity := h.capacity_eq
  have hstored := h.stored_le
  unfold Full at *
  omega

theorem trans (h : Grows owners store asked next) (h' : Grows owners next more later) :
    Grows owners store (asked ++ more) later where
  capacity_eq := h'.capacity_eq.trans h.capacity_eq
  stored_le := Nat.le_trans h.stored_le h'.stored_le
  holds key hkey := h'.holds key (h.holds key hkey)
  holds_or_mem key hkey := by
    rcases h'.holds_or_mem key hkey with hkey | hmem
    · rcases h.holds_or_mem key hkey with hkey | hmem
      · exact Or.inl hkey
      · exact Or.inr (List.mem_append_left _ hmem)
    · exact Or.inr (List.mem_append_right _ hmem)
  counted hcounted := h'.counted (h.counted hcounted)
  closed hclosed := h'.closed (h.closed hclosed)
  complete hclosed hroom key hmem := by
    rcases List.mem_append.mp hmem with hmem | hmem
    · exact h'.holds key (h.complete hclosed (fun hfull => hroom (h'.full hfull)) key hmem)
    · exact h'.complete (h.closed hclosed) hroom key hmem

/-- An answer from memory changes nothing: what is below the answer is stored already. -/
theorem hit {key : TileKey} {input : Stage} (howns : owners.Owns key.stage input)
    (hkey : store.Holds key) :
    Grows owners store (key :: input.keys key.minX key.minZ) store where
  capacity_eq := rfl
  stored_le := Nat.le_refl _
  holds _ h := h
  holds_or_mem _ h := Or.inl h
  counted h := h
  closed h := h
  complete hclosed hroom other hmem := by
    rcases List.mem_cons.mp hmem with rfl | hmem
    · exact hkey
    · exact hclosed hroom key hkey input howns other hmem

/-- A tile is offered after it has been made, so what is below it is stored before it. -/
theorem offer {key : TileKey} {input : Stage} {tile : Grid} (howns : owners.Owns key.stage input)
    (h : Grows owners store (input.keys key.minX key.minZ) next) :
    Grows owners store (key :: input.keys key.minX key.minZ) (TileStore.keep key tile next).2 := by
  rcases next.keep_cases key tile with
    ⟨hfull, hkeep⟩ | ⟨existing, hfind, hkeep⟩ | ⟨hroom, hnone, hkeep⟩
  · -- the store is full and stays as it is
    rw [hkeep]
    exact { h with
      holds_or_mem :=
        fun other hother => (h.holds_or_mem other hother).imp_right (List.mem_cons_of_mem _)
      complete := fun _ hroom => absurd hfull hroom }
  · -- the tile has been stored while it was made
    rw [hkeep]
    refine { h with
      holds_or_mem :=
        fun other hother => (h.holds_or_mem other hother).imp_right (List.mem_cons_of_mem _)
      complete := fun hclosed hroom other hmem => ?_ }
    rcases List.mem_cons.mp hmem with rfl | hmem
    · exact ⟨existing, hfind⟩
    · exact h.complete hclosed hroom other hmem
  · -- the tile is stored, and there was room for all that is below it
    rw [hkeep]
    have hnext : ¬ next.Full := Nat.not_le_of_lt hroom
    refine ⟨h.capacity_eq, Nat.le_succ_of_le h.stored_le, fun other hother => ?_,
      fun other hother => ?_, fun hcounted => ?_,
      fun hclosed _ other hother owner howner below hmem => ?_, fun hclosed _ other hmem => ?_⟩
    · exact holds_insert_iff.mpr (Or.inr (h.holds other hother))
    · rcases holds_insert_iff.mp hother with rfl | hother
      · exact Or.inr (List.mem_cons_self ..)
      · exact (h.holds_or_mem other hother).imp_right (List.mem_cons_of_mem _)
    · refine ⟨?_, hroom⟩
      rw [insert, (h.counted hcounted).stored_eq, size_insert hnone]
    · rcases holds_insert_iff.mp hother with rfl | hother
      · cases howns.unique howner
        exact holds_insert_iff.mpr (Or.inr (h.complete hclosed hnext below hmem))
      · exact holds_insert_iff.mpr
          (Or.inr (h.closed hclosed hnext other hother owner howner below hmem))
    · rcases List.mem_cons.mp hmem with rfl | hmem
      · exact holds_insert_iff.mpr (Or.inl rfl)
      · exact holds_insert_iff.mpr (Or.inr (h.complete hclosed hnext other hmem))

end Grows

end TileStore

/-- **Generating a tile** makes the store grow by what the tile is made from. -/
theorem Stage.grows_generate {owners : Owners} {tile : Grid} : ∀ {stage : Stage} {minX minZ : Coord}
    {store later : TileStore}, stage.Places owners.Owns →
    (stage.generate minX minZ).run store = .ok (tile, later) →
    store.Grows owners (stage.keys minX minZ) later
  | source .., _, _, _, _, _, h | sampled .., _, _, _, _, _, h => by
      obtain ⟨-, rfl⟩ := run_lift_eq_ok.mp h
      exact .refl owners _
  | zoom _ _ input, _, _, _, _, hplaces, h | cross _ _ _ input, _, _, _, _, hplaces, h => by
      obtain ⟨made, next, hmade, hlast⟩ := run_bind_eq_ok.mp h
      obtain ⟨-, rfl⟩ := run_lift_eq_ok.mp hlast
      exact @grows_generate _ made input _ _ _ _ hplaces hmade
  | cell _ _ input, _, _, _, _, hplaces, h => by
      obtain ⟨made, next, hmade, hlast⟩ := run_bind_eq_ok.mp h
      obtain ⟨-, rfl⟩ := run_lift_eq_ok.mp hlast
      exact @grows_generate _ made input _ _ _ _ hplaces hmade
  | blend _ base overlay, _, _, _, _, hplaces, h => by
      obtain ⟨upper, store₁, hupper, hrest⟩ := run_bind_eq_ok.mp h
      obtain ⟨lower, store₂, hlower, hlast⟩ := run_bind_eq_ok.mp hrest
      obtain ⟨-, rfl⟩ := run_lift_eq_ok.mp hlast
      exact (@grows_generate _ upper overlay _ _ _ _ hplaces.2 hupper).trans
        (@grows_generate _ lower base _ _ _ _ hplaces.1 hlower)
  | cached number input, minX, minZ, store, _, hplaces, h => by
      rw [generate, TileStore.run_fetch] at h
      cases hfind : store.find? ⟨number, minX, minZ, input.size⟩ with
      | some found =>
          rw [hfind] at h
          cases h
          exact @TileStore.Grows.hit _ _ ⟨number, minX, minZ, input.size⟩ input hplaces.1 ⟨_, hfind⟩
      | none =>
          rw [hfind] at h
          obtain ⟨⟨made, next⟩, hmade, hkeep⟩ := bind_eq_ok.mp h
          have hgrows := @grows_generate _ made input _ _ _ _ hplaces.2 hmade
          have hoffer := @TileStore.Grows.offer _ _ _ ⟨number, minX, minZ,
            input.size⟩ input made hplaces.1 hgrows
          rwa [Except.ok.inj hkeep] at hoffer

/-! ## Counting -/

namespace TileStore

theorem mem_keys_iff {store : TileStore} {key : TileKey} :
    key ∈ store.tiles.keys.toFinset ↔ store.Holds key := by
  rw [List.mem_toFinset, Std.HashMap.mem_keys, Std.HashMap.mem_iff_isSome_getElem?,
    Option.isSome_iff_exists]
  rfl

/-- **Counting.** A store that was empty before the keys in `asked` were asked for holds as many
tiles as there are different keys among them, or as it has room for. -/
theorem Grows.stored_eq {owners : Owners} {store later : TileStore} {asked : List TileKey}
    (h : store.Grows owners asked later) (hempty : ∀ key, ¬ store.Holds key)
    (hstored : store.Counted) :
    later.stored = min store.capacity asked.toFinset.card := by
  have hcount := h.counted hstored
  have hcard : later.tiles.keys.toFinset.card = later.stored := by
    rw [List.toFinset_card_of_nodup Std.HashMap.nodup_keys, Std.HashMap.length_keys,
      hcount.stored_eq]
  have hcapacity := h.capacity_eq
  have hroom := hcount.stored_le
  have hsub : later.tiles.keys.toFinset ⊆ asked.toFinset := by
    intro key hkey
    rcases h.holds_or_mem key (mem_keys_iff.mp hkey) with hkey | hmem
    · exact absurd hkey (hempty key)
    · exact List.mem_toFinset.mpr hmem
  by_cases hfull : later.Full
  · -- a full store holds as many tiles as it has room for, and at most those that were asked for
    have hle := Finset.card_le_card hsub
    unfold Full at hfull
    omega
  · -- otherwise nothing that was asked for is missing
    have hclosed : store.Closed owners := fun _ key hkey => absurd hkey (hempty key)
    have hsup : asked.toFinset ⊆ later.tiles.keys.toFinset := by
      intro key hkey
      exact mem_keys_iff.mpr (h.complete hclosed hfull key (List.mem_toFinset.mp hkey))
    have hle := Finset.card_le_card hsub
    have hge := Finset.card_le_card hsup
    unfold Full at hfull
    omega

end TileStore

/-- Keys of one stage stand for different requests. -/
theorem card_requests {owners : Owners} {asked : List TileKey}
    (h : ∀ key ∈ asked, ∃ input, owners.Owns key.stage input ∧ input.size = key.size) :
    (asked.map TileKey.request).toFinset.card = asked.toFinset.card := by
  have himage : (asked.map TileKey.request).toFinset = asked.toFinset.image TileKey.request := by
    ext request
    simp
  rw [himage]
  refine Finset.card_image_of_injOn fun key hkey other hother hsame => ?_
  obtain ⟨input, howns, hsize⟩ := h key (List.mem_toFinset.mp hkey)
  obtain ⟨owner, howner, hsize'⟩ := h other (List.mem_toFinset.mp hother)
  have hfields := Request.mk.inj hsame
  have hstage : key.stage = other.stage := UInt32.toNat_inj.mp hfields.1
  rw [hstage] at howns
  cases howns.unique howner
  cases key
  cases other
  simp only [TileKey.mk.injEq]
  exact ⟨hstage, hfields.2.1, hfields.2.2, hsize.symm.trans hsize'⟩

/-! ## Pipelines -/

namespace Pipeline
variable {owners : Owners} {pipeline after : Pipeline} {chain : Chain}
  {folded : Int32} {size : Size}

/-- Resolves tiles at some anchors, one after the other. -/
def resolveAll (pipeline : Pipeline) : List (Coord × Coord) → Except Fault Pipeline
  | [] => .ok pipeline
  | (x, z) :: later => do
    let (_, next) ← pipeline.resolve x z
    next.resolveAll later

/-- The keys that the tiles at some anchors are made from. -/
def keys (pipeline : Pipeline) (anchors : List (Coord × Coord)) : List TileKey :=
  anchors.flatMap fun anchor => pipeline.root.keys anchor.1 anchor.2

theorem grows_resolveAll : ∀ {anchors : List (Coord × Coord)} {pipeline : Pipeline},
    pipeline.root.Places owners.Owns → pipeline.resolveAll anchors = .ok after →
    pipeline.store.Grows owners (pipeline.keys anchors) after.store ∧ after.cached = pipeline.cached
  | [], pipeline, _, h => by
      cases h
      exact ⟨.refl owners _, rfl⟩
  | (x, z) :: later, pipeline, hplaces, h => by
      obtain ⟨⟨tile, next⟩, hresolve, hlater⟩ := bind_eq_ok.mp h
      obtain ⟨⟨made, store⟩, hgenerate, hnext⟩ := bind_eq_ok.mp hresolve
      cases hnext
      obtain ⟨hgrows, hcached⟩ := @grows_resolveAll later { pipeline with store } hplaces hlater
      exact ⟨(Stage.grows_generate hplaces hgenerate).trans hgrows, hcached⟩

/-- Resolving succeeds exactly if all the tiles exist. -/
theorem Runs.exists_resolveAll_iff : ∀ {anchors : List (Coord × Coord)} {pipeline : Pipeline},
    pipeline.Runs chain folded size → ((∃ after, pipeline.resolveAll anchors = .ok after) ↔
      ∀ anchor ∈ anchors, ∃ tile, pipeline.root.tile anchor.1 anchor.2 = .ok tile)
  | [], pipeline, _ => iff_of_true ⟨pipeline, rfl⟩ fun _ h => by cases h
  | (x, z) :: later, pipeline, h => by
      obtain ⟨store, hrun⟩ := Chain.Serves.exists_run_generate h x z
      rw [List.forall_mem_cons]
      cases htile : pipeline.root.tile x z with
      | error e =>
          rw [htile] at hrun
          refine iff_of_false ?_ fun hall => ?_
          · rintro ⟨after, hafter⟩
            obtain ⟨made, hresolve, -⟩ := bind_eq_ok.mp hafter
            obtain ⟨made, hmade, -⟩ := bind_eq_ok.mp hresolve
            rw [hrun] at hmade
            cases hmade
          · obtain ⟨⟨tile, htile⟩, -⟩ := hall
            cases htile
      | ok tile =>
          rw [htile] at hrun
          have hresolve : pipeline.resolve x z = .ok (tile, { pipeline with store }) :=
            bind_eq_ok.mpr ⟨(tile, store), hrun, rfl⟩
          have hnext := (Runs.resolve h hresolve).2.1
          have hlater := @Runs.exists_resolveAll_iff later _ hnext
          have hstep : pipeline.resolveAll ((x, z) :: later) =
              Pipeline.resolveAll { pipeline with store } later := by
            rw [resolveAll, hresolve]
            rfl
          rw [hstep, hlater]
          exact (and_iff_right ⟨tile, rfl⟩).symm

end Pipeline

namespace PipelineSpec
variable {spec : PipelineSpec} {pipeline : Pipeline}

/-- A new pipeline with a store, for a chain with numbers for all its doublings: these are numbered
in order, and the store counts the keys that it is asked for. -/
theorem exists_owners_of_build (hcapacity : spec.cacheCapacity ≠ 0)
    (hroom : spec.chain.doublings ≤ 2 ^ 32) (hbuild : spec.build = .ok pipeline) :
    ∃ owners : Owners, pipeline.root.Places owners.Owns ∧ pipeline.root.Numbered 0 ∧
      ∀ anchors after, pipeline.resolveAll anchors = .ok after →
        after.cachedTiles = min spec.cacheCapacity (pipeline.keys anchors).toFinset.card := by
  obtain ⟨owners, hnumbers, hcached⟩ := numbers_of_build hcapacity hroom hbuild
  refine ⟨owners, hnumbers.places, hnumbers.numbered, fun anchors after hafter => ?_⟩
  obtain ⟨hgrows, hstays⟩ := Pipeline.grows_resolveAll hnumbers.places hafter
  rw [hnumbers.store_eq] at hgrows
  have hstored := hgrows.stored_eq (fun key hkey => ?_) ⟨rfl, Nat.zero_le _⟩
  · rw [Pipeline.cachedTiles, hstays, hcached, if_pos rfl, hstored]
    rfl
  · obtain ⟨tile, htile⟩ := hkey
    have hnone := @TileStore.find?_empty key spec.cacheCapacity
    cases hnone.symm.trans htile

/-- **The number of stored tiles does not depend on the order of requests.** Let a pipeline have
been built with a store, and let tiles be resolved at some anchors. They are there, as far as memory
goes. Then as many tiles are stored as different requests to doublings are noted when the pipeline
without a store makes the same tiles, those of secondary chains included, or as the store has room
for. To note the requests does not change what is generated. And whatever list the same anchors are
in, in another order or with repetitions, the number of stored tiles is the same.

The doublings are told apart by 32-bit numbers, so the chain is to have `2 ^ 32` of them at most: of
more, two would share a number and with it their keys. -/
theorem cachedTiles_eq (hcapacity : spec.cacheCapacity ≠ 0) (hroom : spec.chain.doublings ≤ 2 ^ 32)
    (hbuild : spec.build = .ok pipeline) :
    ∃ alone, PipelineSpec.build { spec with cacheCapacity := 0 } = .ok alone ∧
      (∀ first minX minZ log store, ((alone.root.noted first minX minZ).run log).map Prod.fst =
        ((alone.root.generate minX minZ).run store).map Prod.fst) ∧
      ∀ anchors, (spec.tileSize.Addressable (2 * spec.chain.stageCount) → ∃ after,
        pipeline.resolveAll anchors = .ok after) ∧
      ∀ after, pipeline.resolveAll anchors = .ok after →
        (∃ log, (alone.root.notedAll anchors).run [] = .ok ((), log) ∧
          after.cachedTiles = min spec.cacheCapacity log.toFinset.card) ∧
        ∀ anchors', (∀ anchor, anchor ∈ anchors' ↔ anchor ∈ anchors) →
          ∃ after', pipeline.resolveAll anchors' = .ok after' ∧
            after'.cachedTiles = after.cachedTiles := by
  have hruns := runs_of_build hroom hbuild
  have hmakes := Chain.Serves.makes hruns
  obtain ⟨owners, hplaces, hnumbered, hcount⟩ := exists_owners_of_build hcapacity hroom hbuild
  have hvalid := (check_bind_eq_ok.mp hbuild).1
  have halone : PipelineSpec.build { spec with cacheCapacity := 0 } =
      .ok ⟨spec.seed, pipeline.root.bare, spec.chain.stageCount, .empty 0, false⟩ :=
    check_bind_eq_ok.mpr ⟨hvalid, bind_eq_ok.mpr ⟨_, hmakes.run_build_alone (.empty 0), rfl⟩⟩
  refine ⟨_, halone, pipeline.root.noted_bare_eq,
    fun anchors => ⟨fun haddressable => ?_, fun after hafter => ⟨?_, fun anchors' hsame => ?_⟩⟩⟩
  · rw [hruns.exists_resolveAll_iff]
    intro anchor _
    rw [← Stage.tile_bare]
    refine Stage.exists_tile hmakes.wired ?_
    rw [hmakes.size_eq, hmakes.count_eq]
    exact haddressable
  · -- each key stands for one request of the pipeline without a store
    have htiles := hruns.exists_resolveAll_iff.mp ⟨after, hafter⟩
    rw [← Stage.tile_bare pipeline.root] at htiles
    have hrequests :
        (anchors.flatMap fun anchor => pipeline.root.bare.requests 0 anchor.1 anchor.2) =
        (pipeline.keys anchors).map TileKey.request := by
      rw [Pipeline.keys, List.map_flatMap]
      simp only [Stage.map_request_keys _ _ hnumbered]
    refine ⟨_, Stage.run_notedAll _ [] htiles, ?_⟩
    rw [List.nil_append, hrequests, card_requests, hcount anchors after hafter]
    intro key hkey
    obtain ⟨anchor, -, hmem⟩ := List.mem_flatMap.mp hkey
    exact Stage.owns_of_mem_keys hplaces hmem
  · have htiles := hruns.exists_resolveAll_iff.mp ⟨after, hafter⟩
    obtain ⟨after', hafter'⟩ :=
      hruns.exists_resolveAll_iff.mpr fun anchor hmem => htiles anchor ((hsame anchor).mp hmem)
    have hkeys : (pipeline.keys anchors').toFinset = (pipeline.keys anchors).toFinset := by
      ext key
      simp only [Pipeline.keys, List.mem_toFinset, List.mem_flatMap, hsame]
    refine ⟨after', hafter', ?_⟩
    rw [hcount anchors' after' hafter', hcount anchors after hafter, hkeys]

/-- The mask of the rarer biomes with room for four tiles, asked at two anchors, one of them
twice. -/
theorem rarerMask_cachedTiles : ∃ pipeline alone after log,
    (PipelineSpec.build ⟨7, {}, ⟨3, 2⟩, 4, some Chain.rarerMask⟩ = .ok pipeline ∧
      PipelineSpec.build ⟨7, {}, ⟨3, 2⟩, 0, some Chain.rarerMask⟩ = .ok alone ∧
      Chain.rarerMask.doublings ≤ 2 ^ 32) ∧
    pipeline.resolveAll [(0, 0), (5, -3), (0, 0)] = .ok after ∧
    (alone.root.notedAll [(0, 0), (5, -3), (0, 0)]).run [] = .ok ((), log) ∧
    after.cachedTiles = min 4 log.toFinset.card := by
  obtain ⟨pipeline, hbuild⟩ := @exists_build ⟨7, {}, ⟨3, 2⟩, 4, some Chain.rarerMask⟩
    (LayerParams.validate_eq_ok_iff.mp rfl) Chain.wellFormed_rarerMask rfl (by decide)
  have hroom : Chain.rarerMask.doublings ≤ 2 ^ 32 := by decide
  obtain ⟨alone, halone, -, hanchors⟩ :=
    @cachedTiles_eq ⟨7, {}, ⟨3, 2⟩, 4, some Chain.rarerMask⟩ pipeline (by decide) hroom hbuild
  obtain ⟨hexists, hcounts⟩ := hanchors [(0, 0), (5, -3), (0, 0)]
  obtain ⟨after, hafter⟩ := hexists (by decide)
  obtain ⟨⟨log, hlog, hcount⟩, -⟩ := hcounts after hafter
  exact ⟨pipeline, alone, after, log, ⟨hbuild, halone, hroom⟩, hafter, hlog, hcount⟩

end PipelineSpec

end BiomeAtlas
