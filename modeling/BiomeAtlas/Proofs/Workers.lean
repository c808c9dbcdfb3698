import BiomeAtlas.Crew
import BiomeAtlas.Proofs.Store

/-! # Work in progress

What a worker does on a shared store is cut into single operations. Done without interruption they
amount to generating the tile (`Stage.run_work`). When other workers use the store in between, the
worker still ends with the tile, as long as everybody leaves the store orderly: that is what the
work in progress keeps to at every operation (`Work.Keeps`, `Stage.keeps_work`). And it comes to an
end: the number of operations is bounded by the number of places in the store (`Work.Within`,
`Stage.within_work`).
-/
namespace BiomeAtlas

/-! ## One of several -/

section Several
variable {α : Type} {before after : List α} {one other : α}

/-- When one of several has changed, the others are still there. -/
theorem eq_or_mem_replaced (h : other ∈ before ++ one :: after) (replacement : α) :
    other = one ∨ other ∈ before ++ replacement :: after := by
  rcases List.mem_append.mp h with h | h
  · exact Or.inr (List.mem_append_left _ h)
  · rcases List.mem_cons.mp h with h | h
    · exact Or.inl h
    · exact Or.inr (List.mem_append_right _ (List.mem_cons_of_mem _ h))

theorem mem_replaced (before after : List α) (one : α) : one ∈ before ++ one :: after :=
  List.mem_append_right _ (List.mem_cons_self ..)

theorem mem_of_mem_rest (h : other ∈ before ++ after) (one : α) :
    other ∈ before ++ one :: after := by
  rcases List.mem_append.mp h with h | h
  · exact List.mem_append_left _ h
  · exact List.mem_append_right _ (List.mem_cons_of_mem _ h)

theorem mem_rest (h : other ∈ before ++ one :: after) : other = one ∨ other ∈ before ++ after := by
  rcases List.mem_append.mp h with h | h
  · exact Or.inr (List.mem_append_left _ h)
  · exact (List.mem_cons.mp h).imp_right (List.mem_append_right _)

end Several

/-! ## One worker -/

namespace TileStore
variable {store : TileStore} {key : TileKey} {tile : Grid}

/-- **Settling a tile**: the key has been taken, or there is no room, or the tile is stored. -/
theorem settle_cases (store : TileStore) (key : TileKey) (tile : Grid) :
    (∃ existing, store.find? key = some existing ∧ settle key tile store = (existing, store)) ∨
    settle key tile store = (tile, store) ∨
    settle key tile store = (tile, store.insert key tile) := by
  unfold settle
  cases hfind : store.find? key with
  | some existing => exact Or.inl ⟨existing, rfl, rfl⟩
  | none =>
      cases hroom : store.hasRoom with
      | false => exact Or.inr (Or.inl rfl)
      | true => exact Or.inr (Or.inr rfl)

/-- To offer a tile is to ask whether there is room, and to settle the tile if there is. -/
theorem keep_eq :
    keep key tile store = if store.hasRoom then settle key tile store else (tile, store) := by
  unfold keep settle hasRoom
  by_cases hfull : store.capacity ≤ store.stored
  · rw [if_pos hfull, decide_eq_false (Nat.not_lt_of_le hfull)]
    rfl
  · rw [if_neg hfull, decide_eq_true (Nat.lt_of_not_le hfull)]
    rfl

end TileStore

namespace Work
variable {α β : Type}

theorem run_bind (f : α → Work β) :
    ∀ work : Work α, (work >>= f).run = work.run >>= fun a => (f a).run
  | done (.ok _) | done (.error _) => rfl
  | find key next => by
      funext store
      exact congrFun (run_bind f (next (store.find? key))) store
  | room next => by
      funext store
      exact congrFun (run_bind f (next store.hasRoom)) store
  | settle key tile next => by
      funext store
      exact congrFun (run_bind f (next (store.settle key tile).1)) (store.settle key tile).2

theorem run_find (key : TileKey) (next : Option Grid → Work α) (store : TileStore) :
    (find key next).run store = (next (store.find? key)).run store :=
  rfl

/-- Looking for the tile, making it and offering it is what asking for it does. -/
theorem run_fetch (key : TileKey) (work : Work Grid) :
    (fetch key work).run = TileStore.fetch key work.run := by
  funext store
  refine Eq.trans ?_ (@TileStore.run_fetch store key work.run).symm
  cases hfind : store.find? key with
  | some tile =>
      rw [fetch, run_find, hfind]
      rfl
  | none =>
      rw [fetch, run_find, hfind]
      dsimp only
      rw [run_bind]
      refine congrArg (work.run.run store >>= ·) (funext fun made => ?_)
      change (if made.2.hasRoom then settle key made.1 pure
        else pure made.1 : Work Grid).run made.2 = _
      rw [TileStore.keep_eq]
      cases made.2.hasRoom <;> rfl

end Work

namespace Stage

/-- **One worker on its own** generates the tile. -/
theorem run_work :
    ∀ (stage : Stage) (minX minZ : Coord), (stage.work minX minZ).run = stage.generate minX minZ
  | source .., _, _ | sampled .., _, _ => rfl
  | zoom noise size coarser, minX, minZ => by
      rw [work, Work.run_bind, run_work coarser]
      rfl
  | cross _ _ _ input, minX, minZ => by
      rw [work, Work.run_bind, run_work input]
      rfl
  | cell _ _ input, minX, minZ => by
      rw [work, Work.run_bind, run_work input]
      rfl
  | blend _ base overlay, minX, minZ => by
      rw [work, Work.run_bind, run_work overlay, generate]
      congr 1
      funext second
      rw [Work.run_bind, run_work base]
      rfl
  | cached number input, minX, minZ => by
      rw [work, Work.run_fetch, run_work input]
      rfl

end Stage

/-! ## Several workers -/

namespace Work
variable {α β : Type} {invariant : TileStore → Prop}

/-- Whatever happens to the store between two operations, as long as the invariant holds at each of
them, the work keeps the invariant and ends as expected. -/
def Keeps (invariant : TileStore → Prop) : Work α → Except Fault α → Prop
  | done result, expected => result = expected
  | find key next, expected =>
      ∀ store, invariant store → (next (store.find? key)).Keeps invariant expected
  | room next, expected => ∀ hasRoom, (next hasRoom).Keeps invariant expected
  | settle key tile next, expected => ∀ store, invariant store →
      invariant (store.settle key tile).2 ∧
      (next (store.settle key tile).1).Keeps invariant expected

theorem Keeps.step {work next : Work α} {expected : Except Fault α} {store later : TileStore}
    (h : work.Keeps invariant expected) (hstore : invariant store)
    (hstep : work.step? store = some (next, later)) :
    invariant later ∧ next.Keeps invariant expected := by
  cases work with
  | done result => cases hstep
  | find key rest =>
      cases hstep
      exact ⟨hstore, h store hstore⟩
  | room rest =>
      cases hstep
      exact ⟨hstore, h store.hasRoom⟩
  | settle key tile rest =>
      cases hstep
      exact h store hstore

theorem Keeps.bind {f : α → Work β} {expected : Except Fault α}
    {nextExpected : α → Except Fault β} :
    ∀ {work : Work α}, work.Keeps invariant expected →
      (∀ a, expected = .ok a → (f a).Keeps invariant (nextExpected a)) →
      (work >>= f).Keeps invariant (expected >>= nextExpected)
  | done (.ok a), h, hnext => by
      cases h
      exact hnext a rfl
  | done (.error _), h, _ => by
      cases h
      rfl
  | find .., h, hnext => fun store hstore => Keeps.bind (h store hstore) hnext
  | room .., h, hnext => fun hasRoom => Keeps.bind (h hasRoom) hnext
  | settle .., h, hnext =>
      fun store hstore => ⟨(h store hstore).1, Keeps.bind (h store hstore).2 hnext⟩

theorem Keeps.finish {work : Work α} {expected : Except Fault α} (h : work.Keeps invariant expected)
    (last : α → Except Fault β) :
    (work >>= fun a => done (last a)).Keeps invariant (expected >>= last) :=
  h.bind fun _ _ => rfl

/-- At most `n` operations are left. -/
def Within : Work α → Nat → Prop
  | done _, _ => True
  | find _ next, n => ∃ m < n, ∀ found?, (next found?).Within m
  | room next, n => ∃ m < n, ∀ hasRoom, (next hasRoom).Within m
  | settle _ _ next, n => ∃ m < n, ∀ kept, (next kept).Within m

theorem Within.mono {work : Work α} {m n : Nat} (h : work.Within m) (hle : m ≤ n) :
    work.Within n := by
  cases work with
  | done result => trivial
  | find | room | settle =>
      obtain ⟨k, hk, h⟩ := h
      exact ⟨k, Nat.lt_of_lt_of_le hk hle, h⟩

theorem Within.step {work next : Work α} {n : Nat} {store later : TileStore} (h : work.Within n)
    (hstep : work.step? store = some (next, later)) : ∃ m < n, next.Within m := by
  cases work with
  | done result => cases hstep
  | find | room | settle =>
      obtain ⟨m, hm, h⟩ := h
      cases hstep
      exact ⟨m, hm, h _⟩

theorem Within.bind {f : α → Work β} {n : Nat} :
    ∀ {work : Work α} {m : Nat}, work.Within m → (∀ a, (f a).Within n) →
    (work >>= f).Within (m + n)
  | done (.ok a), m, _, hf => (hf a).mono (Nat.le_add_left n m)
  | done (.error _), _, _, _ => trivial
  | find .., _, ⟨k, hk, h⟩, hf =>
      ⟨k + n, Nat.add_lt_add_right hk n, fun found? => Within.bind (h found?) hf⟩
  | room .., _, ⟨k, hk, h⟩, hf =>
      ⟨k + n, Nat.add_lt_add_right hk n, fun hasRoom => Within.bind (h hasRoom) hf⟩
  | settle .., _, ⟨k, hk, h⟩, hf =>
      ⟨k + n, Nat.add_lt_add_right hk n, fun kept => Within.bind (h kept) hf⟩

theorem Within.finish {work : Work α} {n : Nat} (h : work.Within n) (last : α → Except Fault β) :
    (work >>= fun a => done (last a)).Within n := by
  have hlast : ∀ a, (done (last a)).Within 0 := fun _ => trivial
  exact h.bind hlast

/-- Asking for a tile takes three operations, besides those for making it. -/
theorem within_fetch {key : TileKey} {work : Work Grid} {n : Nat} (h : work.Within n) :
    (fetch key work).Within (n + 3) := by
  refine ⟨n + 2, Nat.lt_succ_self _, fun found? => ?_⟩
  cases found? with
  | some tile => trivial
  | none =>
      have hoffer : ∀ made,
          (room fun hasRoom => if hasRoom then settle key made pure else pure made).Within 2 := by
        intro made
        refine ⟨1, Nat.lt_succ_self _, fun hasRoom => ?_⟩
        cases hasRoom with
        | false => trivial
        | true => exact ⟨0, Nat.zero_lt_one, fun _ => trivial⟩
      exact h.bind hoffer

end Work

namespace Orderly
variable {owners : Owners} {store : TileStore} {number : UInt32} {input : Stage}
  {minX minZ : Coord} {tile : Grid}

/-- Settling the tile of an owner is answered with it. -/
theorem settle (h : Orderly owners store) (howns : owners.Owns number input)
    (htile : input.tile minX minZ = .ok tile) :
    (store.settle ⟨number, minX, minZ, input.size⟩ tile).1 = tile ∧
      Orderly owners (store.settle ⟨number, minX, minZ, input.size⟩ tile).2 := by
  rcases store.settle_cases ⟨number, minX, minZ, input.size⟩ tile with
    ⟨existing, hfind, hsettle⟩ | hsettle | hsettle
  · rw [hsettle]
    exact ⟨Except.ok.inj ((h.tile_eq howns hfind).symm.trans htile), h⟩
  · rw [hsettle]
    exact ⟨rfl, h⟩
  · rw [hsettle]
    exact ⟨rfl, h.insert howns htile⟩

/-- Asking for the tile of an owner keeps an orderly store, and ends with the tile. -/
theorem keeps_fetch {work : Work Grid} (howns : owners.Owns number input)
    (h : work.Keeps (Orderly owners) (input.tile minX minZ)) :
    (Work.fetch ⟨number, minX, minZ, input.size⟩ work).Keeps (Orderly owners)
      (input.tile minX minZ) := by
  intro store hstore
  cases hfind : store.find? ⟨number, minX, minZ, input.size⟩ with
  | some tile => exact (hstore.tile_eq howns hfind).symm
  | none =>
      -- the tile that is made is offered only if there seems to be room, and comes back anyway
      have hoffer : ∀ made, input.tile minX minZ = .ok made → (Work.room fun hasRoom =>
          if hasRoom then .settle ⟨number, minX, minZ, input.size⟩ made pure
          else pure made).Keeps (Orderly owners) (.ok made) := by
        intro made hmade hasRoom
        cases hasRoom with
        | false => rfl
        | true =>
            intro store' hstore'
            obtain ⟨hsame, hlater⟩ := hstore'.settle howns hmade
            exact ⟨hlater, congrArg Except.ok hsame⟩
      have hmaking := h.bind hoffer
      rwa [show (input.tile minX minZ >>= fun made => .ok made) = input.tile minX minZ from
        bind_pure _] at hmaking

end Orderly

namespace Stage

/-- How often making a tile uses the store, at most. -/
def operations : Stage → Nat
  | source .. | sampled .. => 0
  | zoom _ _ input | cross _ _ _ input | cell _ _ input => input.operations
  | blend _ base overlay => overlay.operations + base.operations
  | cached _ input => input.operations + 3

theorem within_work :
    ∀ (stage : Stage) (minX minZ : Coord), (stage.work minX minZ).Within stage.operations
  | source .., _, _ | sampled .., _, _ => trivial
  | zoom _ _ input, _, _ | cross _ _ _ input, _, _ => (within_work input _ _).finish _
  | cell _ _ input, _, _ => (within_work input _ _).finish _
  | blend _ base overlay, _, _ =>
      (within_work overlay _ _).bind fun _ => (within_work base _ _).finish _
  | cached _ input, _, _ => Work.within_fetch (within_work input _ _)

/-- **Many workers on one store**: each of them ends with the tile of the stage, if the store is
orderly whenever it uses it, and leaves the store orderly. -/
theorem keeps_work {owners : Owners} : ∀ {stage : Stage}, stage.Places owners.Owns → ∀ minX minZ,
    (stage.work minX minZ).Keeps (Orderly owners) (stage.tile minX minZ)
  | source .., _, _, _ | sampled .., _, _, _ => rfl
  | zoom _ _ input, h, _, _ | cross _ _ _ input, h, _, _ => (@keeps_work _ input h _ _).finish _
  | cell _ _ input, h, _, _ => (@keeps_work _ input h _ _).finish _
  | blend _ base overlay, h, _, _ =>
      (@keeps_work _ overlay h.2 _ _).bind fun _ _ => (@keeps_work _ base h.1 _ _).finish _
  | cached _ input, h, _, _ => Orderly.keeps_fetch h.1 (@keeps_work _ input h.2 _ _)

end Stage

end BiomeAtlas
