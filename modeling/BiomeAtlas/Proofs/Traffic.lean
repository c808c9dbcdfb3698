import Mathlib.Algebra.GroupWithZero.Nat
import BiomeAtlas.Proofs.Calls

/-! # Calls that interleave

Any number of calls may be under way on a shared store, and their steps may follow each other in any
order. The store is safe all the same (`Traffic.Reaches.store_is_safe`). Three invariants carry
this: at most one call has locked an entry, and what it has found vacant stays vacant
(`Traffic.Exclusive`); the count is the number of stored tiles, of tiles that room has been reserved
for and of tiles that came too late (`Traffic.Balanced`); and all tiles around are those that their
generators make (`Traffic.Honest`).

A call that has the store to itself does what `TileStore.fetch` does (`Traffic.Settles.run_fetch`).
-/
namespace BiomeAtlas

theorem countP_replaced {α : Type} (p : α → Bool) (before after : List α) (one : α) :
    (before ++ one :: after).countP p =
      before.countP p + after.countP p + if p one then 1 else 0 := by
  rw [List.countP_append, List.countP_cons, Nat.add_assoc]

namespace Traffic
variable {make : TileKey → Grid} {capacity : Nat} {traffic later : Traffic}
  {before after : List Call} {call other : Call}

/-! ## One call inside -/

/-- At most one call has locked the entry of a key, and an entry that was found vacant stays so
until its tile is stored. -/
structure Exclusive (traffic : Traffic) : Prop where
  one : ∀ key, traffic.calls.countP (Call.locks key) ≤ 1
  vacant : ∀ call ∈ traffic.calls, call.foundVacant = true → traffic.store.find? call.key = none

/-- Besides a call that has locked an entry there is no other one. -/
theorem Exclusive.key_ne (h : traffic.Exclusive) (hcalls : traffic.calls = before ++ call :: after)
    (hcall : call.isInside = true) (hmem : other ∈ before ++ after)
    (hother : other.isInside = true) :
    call.key ≠ other.key := by
  intro hkey
  have hone := h.one other.key
  have hmany : 0 < (before ++ after).countP (Call.locks other.key) :=
    List.countP_pos_iff.mpr ⟨other, hmem, Call.locks_iff.mpr ⟨hother, rfl⟩⟩
  rw [List.countP_append] at hmany
  rw [hcalls, countP_replaced, if_pos (Call.locks_iff.mpr ⟨hcall, hkey⟩)] at hone
  omega

/-- A call that enters finds nobody inside. -/
theorem Exclusive.one_advance (h : traffic.Exclusive)
    (hcalls : traffic.calls = before ++ call :: after)
    (hfree : call.isEntering = true → traffic.Unlocked call.key) (key : TileKey) :
    (before ++ call.next make traffic.store :: after).countP (Call.locks key) ≤ 1 := by
  have hone := h.one key
  rw [hcalls, countP_replaced] at hone
  rw [countP_replaced]
  by_cases hnext : (call.next make traffic.store).locks key = true
  · obtain ⟨hinside, hkey⟩ := Call.locks_iff.mp hnext
    rw [Call.key_next] at hkey
    rw [if_pos hnext]
    rcases Call.isInside_next hinside with hinside | hentering
    · rwa [if_pos (Call.locks_iff.mpr ⟨hinside, hkey⟩)] at hone
    · have hunlocked := hfree hentering
      rw [Unlocked, hcalls] at hunlocked
      have hnone : (before ++ call :: after).countP (Call.locks key) = 0 := by
        refine List.countP_eq_zero.mpr fun other hmem hlocks => ?_
        obtain ⟨hinside, hsame⟩ := Call.locks_iff.mp hlocks
        cases (hunlocked other hmem (hsame.trans hkey.symm)).symm.trans hinside
      rw [countP_replaced] at hnone
      omega
  · rw [if_neg hnext]
    omega

/-- The only tile that is stored goes into an entry that nobody else has found vacant. -/
theorem Exclusive.vacant_advance (h : traffic.Exclusive)
    (hcalls : traffic.calls = before ++ call :: after)
    (hmem : other ∈ before ++ call.next make traffic.store :: after)
    (hother : other.foundVacant = true) :
    (call.effect traffic.store).find? other.key = none := by
  have hcall : call ∈ traffic.calls := hcalls ▸ mem_replaced before after call
  cases hstoring : call.isStoring with
  | false =>
      rw [Call.find?_effect hstoring]
      rcases eq_or_mem_replaced hmem call with rfl | hmem
      · rcases Call.vacant_next hother with hvacant | hnone
        · exact h.vacant call hcall hvacant
        · exact hnone
      · exact h.vacant other (hcalls ▸ hmem) hother
  | true =>
      obtain ⟨tile, hprogress, hfind⟩ := Call.exists_storing hstoring
      rcases mem_rest hmem with rfl | hrest
      · simp [Call.next, Call.foundVacant, hprogress] at hother
      have hinside := Call.isInside_of_foundVacant (Call.foundVacant_of_isStoring hstoring)
      rw [hfind, if_neg (h.key_ne hcalls hinside hrest (Call.isInside_of_foundVacant hother))]
      exact h.vacant other (hcalls ▸ mem_of_mem_rest hrest call) hother

theorem Exclusive.step (h : traffic.Exclusive) (hstep : Step make traffic later) :
    later.Exclusive := by
  cases hstep with
  | arrive key =>
      constructor
      · intro key'
        rw [List.countP_append]
        exact h.one key'
      · intro call hmem hvacant
        rcases List.mem_append.mp hmem with hmem | hmem
        · exact h.vacant call hmem hvacant
        · cases List.mem_singleton.mp hmem
          cases hvacant
  | advance hadvance =>
      cases hadvance with
      | step hcalls hopen hfree =>
          exact ⟨h.one_advance hcalls hfree,
            fun other hmem hother => h.vacant_advance hcalls hmem hother⟩

/-! ## The count -/

/-- How many calls have counted their tiles too late, and have not taken them off the count yet. -/
def surplus (traffic : Traffic) : Nat :=
  traffic.calls.countP Call.isWithdrawing

/-- The count of the store is right for the calls that are under way. -/
def Balanced (capacity : Nat) (traffic : Traffic) : Prop :=
  traffic.store.Counts capacity traffic.reserved traffic.surplus

theorem Balanced.step (h : traffic.Balanced capacity) (hexclusive : traffic.Exclusive)
    (hstep : Step make traffic later) :
    later.Balanced capacity := by
  cases hstep with
  | arrive key =>
      rw [Balanced, reserved, surplus, List.countP_append, List.countP_append]
      exact h
  | advance hadvance =>
      cases hadvance with
      | @step before after call hcalls hopen hfree =>
          rw [Balanced, reserved, surplus, hcalls, countP_replaced, countP_replaced] at h
          rw [Balanced, reserved, surplus, countP_replaced, countP_replaced]
          exact call.counts_effect make h
            (hexclusive.vacant call (hcalls ▸ mem_replaced before after call))

/-! ## Tiles -/

/-- Every tile that is stored or held by a call is the one that the generator for its key makes. -/
structure Honest (make : TileKey → Grid) (traffic : Traffic) : Prop where
  stored : ∀ key tile, traffic.store.find? key = some tile → tile = make key
  held : ∀ call ∈ traffic.calls, ∀ tile, call.tile? = some tile → tile = make call.key

theorem Honest.step (h : traffic.Honest make) (hstep : Step make traffic later) :
    later.Honest make := by
  cases hstep with
  | arrive key =>
      refine ⟨h.stored, fun call hmem tile htile => ?_⟩
      rcases List.mem_append.mp hmem with hmem | hmem
      · exact h.held call hmem tile htile
      · cases List.mem_singleton.mp hmem
        cases htile
  | advance hadvance =>
      cases hadvance with
      | @step before after call hcalls hopen hfree =>
          have hcall : call ∈ traffic.calls := hcalls ▸ mem_replaced before after call
          constructor
          · intro key tile hfind
            rcases Call.find?_of_find?_effect hfind with hfind | ⟨rfl, htile⟩
            · exact h.stored key tile hfind
            · exact h.held call hcall tile htile
          · intro other hmem tile htile
            rcases eq_or_mem_replaced hmem call with rfl | hmem
            · rcases Call.tile?_next htile with htile | hfind | hmade
              · exact h.held call hcall tile htile
              · exact h.stored call.key tile hfind
              · exact hmade
            · exact h.held other (hcalls ▸ hmem) tile htile

/-! ## Coming to an end -/

/-- **Somebody can go on**, as long as a call is in progress: a call that has locked an entry waits
for nobody, and if there is none, no entry is locked. -/
theorem exists_advance (make : TileKey → Grid) (h : ¬traffic.Quiet) :
    ∃ next, Advance make traffic next := by
  have hgo : ∀ call ∈ traffic.calls, call.isOver = false →
      (call.isEntering = true → traffic.Unlocked call.key) →
      ∃ next, Advance make traffic next := by
    intro call hmem hopen hfree
    obtain ⟨before, after, hcalls⟩ := List.append_of_mem hmem
    exact ⟨_, .step hcalls hopen hfree⟩
  by_cases hinside : ∃ call ∈ traffic.calls, call.isInside = true
  · obtain ⟨call, hmem, hinside⟩ := hinside
    refine hgo call hmem (Call.isOver_of_isInside hinside) fun hentering => ?_
    cases (Call.isEntering_of_isInside hinside).symm.trans hentering
  · obtain ⟨call, hmem, hopen⟩ : ∃ call ∈ traffic.calls, call.isOver = false := by
      by_cases hsome : ∃ call ∈ traffic.calls, call.isOver = false
      · exact hsome
      · exact (h fun call hmem => Bool.of_not_eq_false fun hopen => hsome ⟨call, hmem, hopen⟩).elim
    exact hgo call hmem hopen fun _ other hother _ =>
      Bool.of_not_eq_true fun hlocked => hinside ⟨other, hother, hlocked⟩

/-- How many steps the calls take at most until all are over. -/
def stepsLeft (traffic : Traffic) : Nat :=
  (traffic.calls.map Call.stepsLeft).sum

theorem stepsLeft_lt (h : Advance make traffic later) : later.stepsLeft < traffic.stepsLeft := by
  cases h with
  | @step before after call hcalls hopen hfree =>
      have hless := Call.stepsLeft_next_lt make traffic.store hopen
      simp only [stepsLeft, hcalls, List.map_append, List.map_cons, List.sum_append, List.sum_cons]
      omega

theorem Settles.add_stepsLeft_le {n : Nat} (h : Settles make traffic n later) :
    n + later.stepsLeft ≤ traffic.stepsLeft := by
  induction h with
  | start => exact Nat.le_of_eq (Nat.zero_add _)
  | step _ hstep ih =>
      have hless := stepsLeft_lt hstep
      omega

theorem stepsLeft_le (traffic : Traffic) : traffic.stepsLeft ≤ 8 * traffic.calls.length := by
  rw [stepsLeft]
  induction traffic.calls with
  | nil => exact Nat.le_refl 0
  | cons call calls ih =>
      have hcall := call.stepsLeft_le
      rw [List.map_cons, List.sum_cons, List.length_cons]
      omega

/-! ## All that can happen -/

/-- **The invariant** of all that can happen to a store with this capacity. -/
structure Sound (make : TileKey → Grid) (capacity : Nat) (traffic : Traffic) : Prop where
  exclusive : traffic.Exclusive
  balanced : traffic.Balanced capacity
  honest : traffic.Honest make

theorem sound_opened (make : TileKey → Grid) (capacity : Nat) :
    Sound make capacity (opened capacity) where
  exclusive := ⟨fun _ => Nat.zero_le 1, fun _ hmem => nomatch hmem⟩
  balanced := ⟨rfl, rfl, Nat.zero_le capacity, fun h => nomatch h⟩
  honest := by
    refine ⟨fun key tile hfind => ?_, fun _ hmem => nomatch hmem⟩
    cases (TileStore.find?_empty capacity).symm.trans hfind

theorem Sound.step (h : Sound make capacity traffic) (hstep : Step make traffic later) :
    Sound make capacity later :=
  ⟨h.exclusive.step hstep, h.balanced.step h.exclusive hstep, h.honest.step hstep⟩

theorem Sound.reaches (h : Sound make capacity traffic) (hreaches : Reaches make traffic later) :
    Sound make capacity later := by
  induction hreaches with
  | start => exact h
  | step _ hstep ih => exact ih.step hstep

/-- No stored tile is ever replaced or removed. -/
theorem Sound.find?_reaches {key : TileKey} {tile : Grid} (h : Sound make capacity traffic)
    (hreaches : Reaches make traffic later) (hfind : traffic.store.find? key = some tile) :
    later.store.find? key = some tile := by
  induction hreaches with
  | start => exact hfind
  | @step between later hreaches hstep ih =>
      cases hstep with
      | arrive => exact ih
      | advance hadvance =>
          cases hadvance with
          | @step before after call hcalls =>
              have hvacant := (h.reaches hreaches).exclusive.vacant call
                (hcalls ▸ mem_replaced before after call)
              exact Call.find?_effect_of_some hvacant ih

/-- When no call is in progress, only the stored tiles are on the count. -/
theorem Balanced.stored_eq_size (h : traffic.Balanced capacity) (hquiet : traffic.Quiet) :
    traffic.store.stored = traffic.store.tiles.size := by
  have hreserved : traffic.reserved = 0 :=
    List.countP_eq_zero.mpr fun call hmem => by simp [Call.share_of_isOver (hquiet call hmem)]
  have hsurplus : traffic.surplus = 0 :=
    List.countP_eq_zero.mpr fun call hmem => by simp [Call.share_of_isOver (hquiet call hmem)]
  rw [h.stored_eq, hreserved, hsurplus, Nat.add_zero]

/-- The count never runs ahead of the tiles by more than the number of calls. -/
theorem Balanced.stored_le (h : traffic.Balanced capacity) :
    traffic.store.stored ≤ traffic.store.tiles.size + traffic.calls.length := by
  have hshares : ∀ calls : List Call,
      calls.countP Call.isStoring + calls.countP Call.isWithdrawing ≤ calls.length := by
    intro calls
    induction calls with
    | nil => exact Nat.le_refl 0
    | cons call calls ih =>
        have hone := call.share_le
        rw [List.countP_cons, List.countP_cons, List.length_cons]
        rw [Call.share] at hone
        omega
  have hall := hshares traffic.calls
  rw [h.stored_eq, reserved, surplus]
  omega

/-! ## A call on its own -/

section Alone
variable {store : TileStore} {n : Nat} {key : TileKey}

/-- A call that has the store to itself, and the store, after a number of steps. -/
def alone (make : TileKey → Grid) (call : Call) (store : TileStore) : Nat → Call × TileStore
  | 0 => (call, store)
  | n + 1 => ((alone make call store n).1.next make (alone make call store n).2,
      (alone make call store n).1.effect (alone make call store n).2)

theorem Settles.alone_eq (h : Settles make ⟨store, [call]⟩ n later) :
    later = ⟨(alone make call store n).2, [(alone make call store n).1]⟩ := by
  induction h with
  | start => rfl
  | @step n between later h hstep ih =>
      subst ih
      cases hstep with
      | @step before after other hcalls =>
          obtain ⟨rfl, rfl, rfl⟩ : before = [] ∧ other = (alone make call store n).1 ∧
              after = [] := by
            cases before with
            | nil => cases hcalls; exact ⟨rfl, rfl, rfl⟩
            | cons first before => simp at hcalls
          rfl

/-- After its end, a call stays as it is. -/
theorem alone_add (hover : (alone make call store n).1.isOver = true) (more : Nat) :
    alone make call store (n + more) = alone make call store n := by
  induction more with
  | zero => rfl
  | succ more ih =>
      rw [← Nat.add_assoc, alone, ih]
      generalize alone make call store n = running at hover
      obtain ⟨⟨key, progress⟩, store⟩ := running
      cases progress with
      | returned => rfl
      | _ => cases hover

/-- Eight steps are enough for what `TileStore.fetch` does in one go. -/
theorem run_fetch_eq_alone (make : TileKey → Grid) (key : TileKey)
    (store : TileStore) : ∃ tile later,
      (TileStore.fetch key (pure (make key)) : Generation Grid).run store = .ok (tile, later) ∧
      alone make ⟨key, .looking⟩ store 8 = (⟨key, .returned tile⟩, later) := by
  rw [TileStore.run_fetch]
  cases hfind : store.find? key with
  | some tile => exact ⟨tile, store, rfl, by simp [alone, Call.next, Call.effect, hfind]⟩
  | none =>
      refine ⟨(TileStore.keep key (make key) store).1,
        (TileStore.keep key (make key) store).2, rfl, ?_⟩
      rw [TileStore.keep_eq]
      cases hroom : store.hasRoom with
      | false => simp [alone, Call.next, Call.effect, hfind, hroom]
      | true => simp [alone, Call.next, Call.effect, hfind, TileStore.settle, hroom]

/-- **A call on its own** ends as `TileStore.fetch` does. -/
theorem Settles.run_fetch (h : Settles make ⟨store, [⟨key, .looking⟩]⟩ n later)
    (hquiet : later.Quiet) : ∃ tile, (TileStore.fetch key (pure (make key)) : Generation Grid).run
      store = .ok (tile, later.store) ∧
      later.calls = [⟨key, .returned tile⟩] := by
  obtain ⟨tile, last, hfetch, hlast⟩ := run_fetch_eq_alone make key store
  have hsteps : n ≤ 8 := by
    have hbound := h.add_stepsLeft_le
    have hmost := stepsLeft_le ⟨store, [⟨key, .looking⟩]⟩
    simp only [List.length_singleton] at hmost
    omega
  have hlater := h.alone_eq
  have hover : (alone make ⟨key, .looking⟩ store n).1.isOver = true :=
    hquiet _ (hlater ▸ List.mem_singleton.mpr rfl)
  rw [← alone_add hover (8 - n), Nat.add_sub_cancel' hsteps, hlast] at hlater
  subst hlater
  exact ⟨tile, hfetch, rfl⟩

end Alone

/-! ## The store is safe -/

/-- While there is room and nobody has locked the entry, a call for a tile that is not stored can
come as far as counting it. -/
theorem Reaches.arrive {start : Traffic} (h : Reaches make start traffic) (key : TileKey)
    (hfree : traffic.Unlocked key) (hnone : traffic.store.find? key = none)
    (hroom : traffic.store.hasRoom = true) :
    Reaches make start ⟨traffic.store, traffic.calls ++ [⟨key, .counting (make key)⟩]⟩ := by
  have hgo : ∀ now afterwards : Call.Progress,
      Reaches make start ⟨traffic.store, traffic.calls ++ [⟨key, now⟩]⟩ →
      (Call.mk key now).isOver = false →
      ((Call.mk key now).isEntering = true →
        Unlocked ⟨traffic.store, traffic.calls ++ [⟨key, now⟩]⟩ key) →
      (Call.mk key now).next make traffic.store = ⟨key, afterwards⟩ →
      (Call.mk key now).effect traffic.store = traffic.store →
      Reaches make start ⟨traffic.store, traffic.calls ++ [⟨key, afterwards⟩]⟩ := by
    intro now afterwards hnow hopen hunlocked hnext heffect
    have hstep := Reaches.step hnow (.advance (.step rfl hopen hunlocked))
    rwa [hnext, heffect] at hstep
  have hlooking := Reaches.step h (.arrive key)
  have hgenerating :=
    hgo .looking .generating hlooking rfl (fun h => by cases h) (by simp [Call.next, hnone]) rfl
  have hoffering := hgo _ (.offering (make key)) hgenerating rfl (fun h => by cases h) rfl rfl
  have hentering := hgo _ (.entering (make key)) hoffering rfl (fun h => by cases h)
    (by simp [Call.next, hroom]) rfl
  have hinspecting := by
    refine hgo _ (.inspecting (make key)) hentering rfl (fun _ other hmem hkey => ?_) rfl rfl
    rcases List.mem_append.mp hmem with hmem | hmem
    · exact hfree other hmem hkey
    · cases List.mem_singleton.mp hmem
      rfl
  exact hgo _ _ hinspecting rfl (fun h => by cases h) (by simp [Call.next, hnone]) rfl

/-- **The store is safe**, however many calls are made, and however their steps follow each other.
It never has more tiles than its capacity, keeps the tiles that it has, and has the right tile for
each key; every call returns the tile of its key. The count shows that the store is full exactly
when all room is taken or reserved by calls that are about to store a tile, so a tile is turned away
only then; and when no call is in progress, it is the number of tiles. If no further call is made,
all calls are over after eight steps each, and until then one of them can go on. -/
theorem Reaches.store_is_safe (h : Reaches make (opened capacity) traffic) :
    traffic.store.tiles.size ≤ capacity ∧
      (∀ later, Reaches make traffic later → ∀ key tile, traffic.store.find? key = some tile →
        later.store.find? key = some tile) ∧
      (∀ key tile, traffic.store.find? key = some tile → tile = make key) ∧
      (∀ call ∈ traffic.calls, ∀ tile, call.progress = .returned tile → tile = make call.key) ∧
      (traffic.store.hasRoom = false ↔ traffic.store.tiles.size + traffic.reserved = capacity) ∧
      (traffic.Quiet → traffic.store.stored = traffic.store.tiles.size) ∧
      ∀ n later, Settles make traffic n later →
        n ≤ 8 * traffic.calls.length ∧ (later.Quiet ∨ ∃ next, Advance make later next) := by
  have hsound := (sound_opened make capacity).reaches h
  refine ⟨?_, fun later hlater key tile => hsound.find?_reaches hlater, hsound.honest.stored, ?_,
    hsound.balanced.hasRoom_eq_false_iff, hsound.balanced.stored_eq_size,
    fun n later hsettles => ⟨?_, ?_⟩⟩
  · have hwithin := hsound.balanced.within
    omega
  · intro call hmem tile hover
    exact hsound.honest.held call hmem tile (by rw [Call.tile?, hover])
  · have hbound := hsettles.add_stepsLeft_le
    have hmost := traffic.stepsLeft_le
    omega
  · exact Classical.or_iff_not_imp_left.mpr (exists_advance make)

/-- Two calls for different tiles pass the first look at the count together, although there is room
for one tile only. -/
theorem two_calls_for_one_place :
    ∃ (make : TileKey → Grid) (traffic : Traffic), Reaches make (opened 1) traffic ∧
    traffic.store.stored = 2 ∧ traffic.store.tiles.size ≤ 1 ∧
    traffic.store.tiles.size + traffic.reserved = 1 := by
  have hempty : ∀ key, (opened 1).store.find? key = none := fun _ => TileStore.find?_empty 1
  have hstart :
    Reaches (fun key => ⟨key.minX, key.minZ, ⟨1, 1⟩, #[0], rfl⟩) (opened 1) (opened 1) := .start
  have hfirst := hstart.arrive ⟨0, 0, 0, ⟨1, 1⟩⟩ (fun _ hmem => by cases hmem) (hempty _) rfl
  have hsecond := hfirst.arrive ⟨0, 1, 0, ⟨1, 1⟩⟩
    (fun call hmem hkey => by cases List.mem_singleton.mp hmem; cases hkey) (hempty _) rfl
  have hinTime :=
    Reaches.step hsecond (.advance (@Advance.step _ _ [] _ _ rfl rfl (fun h => by cases h)))
  have htooLate :=
    Reaches.step hinTime (.advance (@Advance.step _ _ [_] _ _ rfl rfl (fun h => by cases h)))
  obtain ⟨hsize, -, -, -, hfull, -⟩ := Reaches.store_is_safe htooLate
  exact ⟨_, _, htooLate, rfl, hsize, hfull.mp rfl⟩

end Traffic
end BiomeAtlas
