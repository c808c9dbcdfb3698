import BiomeAtlas.Proofs.Workers
import BiomeAtlas.Traffic

/-! # Calls

A call for a tile uses the store one operation at a time. This module says what one step of a call
does: to the tiles (`Call.find?_effect_of_some`, `Call.find?_of_find?_effect`), to the count
(`Call.accounts`, `Call.counts_effect`), and to the call itself (`Call.tile?_next`,
`Call.stepsLeft_next_lt`).
-/
namespace BiomeAtlas

namespace Call
variable {make : TileKey → Grid} {call : Call} {store : TileStore} {key : TileKey}

/-- The tile that a call holds. -/
def tile? (call : Call) : Option Grid :=
  match call.progress with
  | .looking | .generating => none
  | .offering tile | .entering tile | .inspecting tile | .counting tile | .storing tile
  | .withdrawing tile | .leaving tile
  | .returned tile => some tile

/-- Whether the call has found the entry of its key vacant, and has left it so. -/
def foundVacant (call : Call) : Bool :=
  match call.progress with
  | .counting _ | .storing _ | .withdrawing _ => true
  | _ => false

/-- Whether the call has locked the entry of a key. -/
def locks (key : TileKey) (call : Call) : Bool :=
  call.isInside && decide (call.key = key)

theorem locks_iff : call.locks key = true ↔ call.isInside = true ∧ call.key = key := by
  rw [locks, Bool.and_eq_true, decide_eq_true_iff]

/-- How many steps a call takes at most until it is over. -/
def stepsLeft (call : Call) : Nat :=
  match call.progress with
  | .looking => 8
  | .generating => 7
  | .offering _ => 6
  | .entering _ => 5
  | .inspecting _ => 4
  | .counting _ => 3
  | .storing _ | .withdrawing _ => 2
  | .leaving _ => 1
  | .returned _ => 0

@[simp] theorem key_next : (call.next make store).key = call.key := rfl

/-- A step changes the tiles only if it stores one. -/
theorem tiles_effect (h : call.isStoring = false) : (call.effect store).tiles = store.tiles := by
  unfold effect
  split
  · rfl
  · rename_i hprogress
    simp [isStoring, hprogress] at h
  · rfl
  · rfl

theorem find?_effect (h : call.isStoring = false) :
    (call.effect store).find? key = store.find? key := by
  rw [TileStore.find?, tiles_effect h, TileStore.find?]

/-- Storing a tile puts it into the entry of the call. -/
theorem exists_storing (h : call.isStoring = true) : ∃ tile, call.progress = .storing tile ∧
    ∀ store key,
      (call.effect store).find? key = if call.key = key then some tile else store.find? key := by
  cases hprogress : call.progress with
  | storing tile =>
      refine ⟨tile, rfl, fun store key => ?_⟩
      simp [effect, hprogress, TileStore.find?, Std.HashMap.getElem?_insert]
  | _ => simp [isStoring, hprogress] at h

theorem foundVacant_of_isStoring (h : call.isStoring = true) : call.foundVacant = true := by
  obtain ⟨tile, hprogress, -⟩ := exists_storing h
  simp [foundVacant, hprogress]

theorem isInside_of_foundVacant (h : call.foundVacant = true) : call.isInside = true := by
  unfold foundVacant at h
  split at h <;> simp_all [isInside]

/-- What a call that is not over has on the count: a tile that room has been reserved for, or a tile
that came too late. -/
def share (call : Call) : Nat × Nat :=
  (if call.isStoring then 1 else 0, if call.isWithdrawing then 1 else 0)

/-- **What a step does to the count.** Most steps leave it alone. A tile is counted in time or too
late, a tile in time is stored, and one that came too late is taken off the count. -/
inductive Accounts (make : TileKey → Grid) (store : TileStore) (call : Call) : Prop
  | leaves (heffect : call.effect store = store) (hshare : call.share = (0, 0))
      (hnext : (call.next make store).share = (0, 0))
  | countsInTime (hroom : store.hasRoom = true)
      (heffect : call.effect store = { store with stored := store.stored + 1 })
      (hshare : call.share = (0, 0)) (hnext : (call.next make store).share = (1, 0))
  | countsTooLate (hroom : store.hasRoom = false)
      (heffect : call.effect store = { store with stored := store.stored + 1 })
      (hshare : call.share = (0, 0)) (hnext : (call.next make store).share = (0, 1))
  | stores (tile : Grid) (hvacant : call.foundVacant = true)
      (heffect : call.effect store = { store with tiles := store.tiles.insert call.key tile })
      (hshare : call.share = (1, 0)) (hnext : (call.next make store).share = (0, 0))
  | withdraws (heffect : call.effect store = { store with stored := store.stored - 1 })
      (hshare : call.share = (0, 1)) (hnext : (call.next make store).share = (0, 0))

theorem accounts (make : TileKey → Grid) (store : TileStore) (call : Call) :
    call.Accounts make store := by
  obtain ⟨key, progress⟩ := call
  cases progress with
  | looking =>
      refine .leaves rfl rfl ?_
      cases hfind : store.find? key <;> simp [share, next, isStoring, isWithdrawing, hfind]
  | inspecting tile =>
      refine .leaves rfl rfl ?_
      cases hfind : store.find? key <;> simp [share, next, isStoring, isWithdrawing, hfind]
  | offering tile =>
      refine .leaves rfl rfl ?_
      cases hroom : store.hasRoom <;> simp [share, next, isStoring, isWithdrawing, hroom]
  | counting tile =>
      cases hroom : store.hasRoom with
      | true =>
          exact .countsInTime hroom rfl rfl (by simp [share, next, isStoring, isWithdrawing, hroom])
      | false =>
          exact .countsTooLate hroom rfl rfl
            (by simp [share, next, isStoring, isWithdrawing, hroom])
  | storing tile => exact .stores tile rfl rfl rfl rfl
  | withdrawing tile => exact .withdraws rfl rfl rfl
  | generating | entering | leaving | returned => exact .leaves rfl rfl rfl

/-- A call has one tile on the count at most. -/
theorem share_le (call : Call) : call.share.1 + call.share.2 ≤ 1 := by
  cases hprogress : call.progress <;> simp [share, isStoring, isWithdrawing, hprogress]

/-- A call that is over has nothing on the count. -/
theorem share_of_isOver (h : call.isOver = true) :
    call.isStoring = false ∧ call.isWithdrawing = false := by
  unfold isOver at h
  split at h <;> simp_all [isStoring, isWithdrawing]

/-- A call finds its entry vacant by looking at it. -/
theorem vacant_next (h : (call.next make store).foundVacant = true) :
    call.foundVacant = true ∨ store.find? call.key = none := by
  cases hprogress : call.progress with
  | inspecting tile =>
      cases hfind : store.find? call.key with
      | none => exact Or.inr rfl
      | some existing => simp [next, foundVacant, hprogress, hfind] at h
  | counting | storing | withdrawing => simp [foundVacant, hprogress]
  | looking =>
      cases hfind : store.find? call.key <;> simp [next, foundVacant, hprogress, hfind] at h
  | offering tile => cases hroom : store.hasRoom <;> simp [next, foundVacant, hprogress, hroom] at h
  | generating | entering | leaving | returned => simp [next, foundVacant, hprogress] at h

/-- A call comes to be inside by entering. -/
theorem isInside_next (h : (call.next make store).isInside = true) :
    call.isInside = true ∨ call.isEntering = true := by
  cases hprogress : call.progress with
  | entering | inspecting | counting | storing | withdrawing | leaving =>
      simp [isInside, isEntering, hprogress]
  | looking => cases hfind : store.find? call.key <;> simp [next, isInside, hprogress, hfind] at h
  | offering tile => cases hroom : store.hasRoom <;> simp [next, isInside, hprogress, hroom] at h
  | generating | returned => simp [next, isInside, hprogress] at h

/-- A call holds its tile, or a stored one, or the one that it has just generated. -/
theorem tile?_next {tile : Grid} (h : (call.next make store).tile? = some tile) :
    call.tile? = some tile ∨ store.find? call.key = some tile ∨ tile = make call.key := by
  cases hprogress : call.progress with
  | looking =>
      cases hfind : store.find? call.key with
      | none => simp [next, tile?, hprogress, hfind] at h
      | some existing => exact Or.inr (Or.inl (by simpa [next, tile?, hprogress, hfind] using h))
  | generating => exact Or.inr (Or.inr (by simpa [next, tile?, hprogress, eq_comm] using h))
  | inspecting =>
      cases hfind : store.find? call.key with
      | none => exact Or.inl (by simpa [next, tile?, hprogress, hfind] using h)
      | some existing => exact Or.inr (Or.inl (by simpa [next, tile?, hprogress, hfind] using h))
  | offering | counting =>
      cases hroom : store.hasRoom <;>
        exact Or.inl (by simpa [next, tile?, hprogress, hroom] using h)
  | entering | storing | withdrawing | leaving | returned =>
      exact Or.inl (by simpa [next, tile?, hprogress] using h)

/-- What is stored after a step was stored before, or is the tile of the call. -/
theorem find?_of_find?_effect {tile : Grid} (h : (call.effect store).find? key = some tile) :
    store.find? key = some tile ∨ call.key = key ∧ call.tile? = some tile := by
  cases hstoring : call.isStoring with
  | false => exact Or.inl (find?_effect hstoring ▸ h)
  | true =>
      obtain ⟨stored, hprogress, hfind⟩ := exists_storing hstoring
      rw [hfind] at h
      split at h
      · rename_i hkey
        exact Or.inr ⟨hkey, by rw [tile?, hprogress]; exact h⟩
      · exact Or.inl h

/-- **What is stored stays**, since a tile is only stored where none was found. -/
theorem find?_effect_of_some {tile : Grid}
    (hvacant : call.foundVacant = true → store.find? call.key = none)
    (h : store.find? key = some tile) : (call.effect store).find? key = some tile := by
  cases hstoring : call.isStoring with
  | false => exact (find?_effect hstoring).trans h
  | true =>
      obtain ⟨stored, -, hfind⟩ := exists_storing hstoring
      have hne : call.key ≠ key := by
        rintro rfl
        cases (hvacant (foundVacant_of_isStoring hstoring)).symm.trans h
      rw [hfind, if_neg hne, h]

/-- A call comes closer to its end with every step. -/
theorem stepsLeft_next_lt (make : TileKey → Grid) (store : TileStore) (h : call.isOver = false) :
    (call.next make store).stepsLeft < call.stepsLeft := by
  cases hprogress : call.progress with
  | looking | inspecting =>
      cases hfind : store.find? call.key <;> simp [next, stepsLeft, hprogress, hfind]
  | offering | counting => cases hroom : store.hasRoom <;> simp [next, stepsLeft, hprogress, hroom]
  | returned => simp [isOver, hprogress] at h
  | generating | entering | storing | withdrawing | leaving => simp [next, stepsLeft, hprogress]

theorem stepsLeft_le (call : Call) : call.stepsLeft ≤ 8 := by
  unfold stepsLeft
  split <;> decide

theorem isOver_of_isInside (h : call.isInside = true) : call.isOver = false := by
  unfold isInside at h
  split at h <;> simp_all [isOver]

theorem isEntering_of_isInside (h : call.isInside = true) : call.isEntering = false := by
  unfold isInside at h
  split at h <;> simp_all [isEntering]

end Call

/-- **What is on the count** of a store: the stored tiles, those that room has been reserved for,
and those that came too late. Only when there is no room left for a tile, one can come too late. -/
structure TileStore.Counts (capacity reserved surplus : Nat) (store : TileStore) : Prop where
  capacity_eq : store.capacity = capacity
  stored_eq : store.stored = store.tiles.size + reserved + surplus
  within : store.tiles.size + reserved ≤ capacity
  full : 0 < surplus → store.tiles.size + reserved = capacity

/-- The count shows that there is no room exactly if all room is taken or reserved. -/
theorem TileStore.Counts.hasRoom_eq_false_iff {store : TileStore} {capacity reserved surplus : Nat}
    (h : store.Counts capacity reserved surplus) :
    store.hasRoom = false ↔ store.tiles.size + reserved = capacity := by
  obtain ⟨hcapacity, hstored, hwithin, hfull⟩ := h
  rw [TileStore.hasRoom, decide_eq_false_iff_not, hcapacity, hstored]
  omega

/-- A step keeps the count right, given what the other calls have on it. -/
theorem Call.counts_effect {store : TileStore} {call : Call} {capacity reserved surplus : Nat}
    (make : TileKey → Grid)
    (h : store.Counts capacity (reserved + call.share.1) (surplus + call.share.2))
    (hvacant : call.foundVacant = true → store.find? call.key = none) :
    (call.effect store).Counts capacity (reserved + (call.next make store).share.1)
      (surplus + (call.next make store).share.2) := by
  have hroom := h.hasRoom_eq_false_iff
  cases call.accounts make store with
  | leaves heffect hshare hnext =>
      rw [heffect, hnext]
      rwa [hshare] at h
  | countsInTime hhas heffect hshare hnext =>
      rw [heffect, hnext]
      rw [hshare] at h hroom
      have hleft : store.tiles.size + reserved ≠ capacity := fun hall => by
        cases hhas.symm.trans (hroom.mpr hall)
      obtain ⟨hcapacity, hstored, hwithin, hfull⟩ := h
      constructor <;> simp only at * <;> omega
  | countsTooLate hnone heffect hshare hnext =>
      rw [heffect, hnext]
      rw [hshare] at h hroom
      have hall := hroom.mp hnone
      obtain ⟨hcapacity, hstored, hwithin, hfull⟩ := h
      constructor <;> simp only at * <;> omega
  | stores tile hfound heffect hshare hnext =>
      rw [heffect, hnext]
      rw [hshare] at h
      obtain ⟨hcapacity, hstored, hwithin, hfull⟩ := h
      have hnew := TileStore.size_insert (hvacant hfound) tile
      constructor <;> simp only at * <;> omega
  | withdraws heffect hshare hnext =>
      rw [heffect, hnext]
      rw [hshare] at h
      obtain ⟨hcapacity, hstored, hwithin, hfull⟩ := h
      constructor <;> simp only at * <;> omega

end BiomeAtlas
