import Mathlib.Algebra.Group.Int.Defs
import Mathlib.Algebra.Group.Nat.Defs
import BiomeAtlas.Proofs.Coordinates
import BiomeAtlas.Proofs.Doubling
import BiomeAtlas.Proofs.Pasting

/-! # Windows and world columns

Pasting finds the place of a tile from its anchor alone, by a distance that wraps, and then compares
sizes. Seen from outside, it does what its name says: a tile is accepted exactly if all its world
columns lie in the grid, and afterwards the grid holds the tile where the tile lies and what it held
before everywhere else (`Grid.pasting_by_columns`).

A window is a tile that was cut out of a grid. Put back, it changes nothing, as long as its first
cell lies in the grid (`Grid.window_returns`). A window without cells may begin right behind the
last column or row, where cutting still accepts it; pasting refuses it there
(`Grid.empty_window_is_refused`).
-/
namespace BiomeAtlas
namespace Grid
variable {grid tile window target pasted : Grid} {size : Size} {x z i j : Nat} {column row : Coord}

/-! ## Stretches of coordinates -/

/-- **A stretch of coordinates lies in another one** exactly if it begins there and does not reach
past its end. -/
theorem stretch_within_iff {anchor start : Coord} {extent limit : Nat} (hextent : extent ≠ 0)
    (hlimit : limit < 2 ^ 32) :
    (∀ column : Coord, (column - start).toUInt32.toNat < extent →
      (column - anchor).toUInt32.toNat < limit) ↔
      (start - anchor).toUInt32.toNat + extent ≤ limit := by
  constructor
  · intro h
    have hstart : (start - anchor).toUInt32.toNat < limit := h start <| by
      rw [Int32.sub_self]
      exact Nat.pos_of_ne_zero hextent
    refine Nat.le_of_not_lt fun hover => ?_
    -- the stretch also has the first coordinate behind the end of the other one
    have hend : limit - (start - anchor).toUInt32.toNat < 2 ^ 32 := by omega
    have hbehind := h (start + Int32.ofNat (limit - (start - anchor).toUInt32.toNat)) <| by
      rw [distance_add_ofNat hend]
      omega
    rw [distance_add anchor start, distance_add_ofNat hend] at hbehind
    omega
  · intro h column hcolumn
    rw [distance_add anchor start column]
    exact Nat.lt_of_le_of_lt (Nat.mod_le _ _) (by omega)

/-- Inside the outer one of two stretches, the coordinates of the inner one are those in its
part. -/
theorem distance_mem_iff {anchor start column : Coord} {extent limit : Nat}
    (hlimit : limit < 2 ^ 32) (hfits : (start - anchor).toUInt32.toNat + extent ≤ limit)
    (hcolumn : (column - anchor).toUInt32.toNat < limit) :
    ((start - anchor).toUInt32.toNat ≤ (column - anchor).toUInt32.toNat ∧
      (column - anchor).toUInt32.toNat < (start - anchor).toUInt32.toNat + extent) ↔
    (column - start).toUInt32.toNat < extent := by
  have hsum := distance_add anchor start column
  have hbound : (column - start).toUInt32.toNat < 2 ^ 32 := UInt32.toNat_lt _
  omega

/-! ## World columns -/

/-- Two grids of one extent have the same places. -/
theorem Occupies.localIndex?_eq (h : pasted.Occupies grid.minX grid.minZ grid.size)
    (column row : Coord) :
    pasted.localIndex? column row = grid.localIndex? column row := by
  simp only [localIndex?, h.minX_eq, h.minZ_eq, h.size_eq]

/-- **A tile fits** exactly if all its world columns lie in the grid. -/
theorem exists_place_iff (hwidth : grid.size.width < 2 ^ 32) (hheight : grid.size.height < 2 ^ 32)
    (hcolumns : tile.size.width ≠ 0) (hrows : tile.size.height ≠ 0) :
    (∃ x z, grid.localIndex? tile.minX tile.minZ = some (x, z) ∧
      grid.covers x z tile.size = .ok true) ↔
      ∀ column row, tile.containsWorld column row = true →
        grid.containsWorld column row = true := by
  have hword : 2 ^ 32 < wordLimit := by decide
  have hfits : (∃ x z, grid.localIndex? tile.minX tile.minZ = some (x, z) ∧
      grid.covers x z tile.size = .ok true) ↔
      (tile.minX - grid.minX).toUInt32.toNat + tile.size.width ≤ grid.size.width ∧
        (tile.minZ - grid.minZ).toUInt32.toNat + tile.size.height ≤ grid.size.height := by
    simp only [localIndex?_eq_some_iff, covers_eq_true_iff]
    constructor
    · rintro ⟨x, z, ⟨-, rfl, rfl⟩, ⟨-, hx⟩, -, hz⟩
      exact ⟨hx, hz⟩
    · rintro ⟨hx, hz⟩
      exact ⟨_, _, ⟨⟨by omega, by omega⟩, rfl, rfl⟩, ⟨by omega, hx⟩, by omega, hz⟩
  rw [hfits, ← stretch_within_iff hcolumns hwidth, ← stretch_within_iff hrows hheight]
  simp only [containsWorld_eq_true_iff]
  constructor
  · rintro ⟨hx, hz⟩ column row ⟨hcolumn, hrow⟩
    exact ⟨hx column hcolumn, hz row hrow⟩
  · -- the anchor of the tile completes a column to a place, and a row as well
    intro h
    have hanchorX : (tile.minX - tile.minX).toUInt32.toNat < tile.size.width := by
      rw [Int32.sub_self]
      exact Nat.pos_of_ne_zero hcolumns
    have hanchorZ : (tile.minZ - tile.minZ).toUInt32.toNat < tile.size.height := by
      rw [Int32.sub_self]
      exact Nat.pos_of_ne_zero hrows
    exact ⟨fun column hcolumn => (h column tile.minZ ⟨hcolumn, hanchorZ⟩).1,
      fun row hrow => (h tile.minX row ⟨hanchorX, hrow⟩).2⟩

/-- What a grid with the rows of a tile holds at a world column. -/
theorem ShowsRows.getWorld?_eq (hwidth : grid.size.width < 2 ^ 32)
    (hheight : grid.size.height < 2 ^ 32)
    (hplace : grid.localIndex? tile.minX tile.minZ = some (x, z))
    (hcovers : grid.covers x z tile.size = .ok true)
    (h : grid.ShowsRows tile x z tile.size.height pasted) (column row : Coord) :
    pasted.getWorld? column row =
      if tile.containsWorld column row = true then
        tile.getWorld? column row else grid.getWorld? column row := by
  obtain ⟨-, rfl, rfl⟩ := localIndex?_eq_some_iff.mp hplace
  obtain ⟨⟨-, hfitsX⟩, -, hfitsZ⟩ := covers_eq_true_iff.mp hcovers
  by_cases hgrid : grid.containsWorld column row = true
  · have hin := containsWorld_eq_true_iff.mp hgrid
    have hat : grid.localIndex? column row =
        some ((column - grid.minX).toUInt32.toNat, (row - grid.minZ).toUInt32.toNat) :=
      localIndex?_eq_some_iff.mpr ⟨hin, rfl, rfl⟩
    have hunder :=
      and_congr (distance_mem_iff hwidth hfitsX hin.1) (distance_mem_iff hheight hfitsZ hin.2)
    rw [getWorld?_eq_toOption ((h.occupies.localIndex?_eq column row).trans hat),
      h.get_eq _ _ hin.1 hin.2]
    simp only [hunder, containsWorld_eq_true_iff]
    by_cases htile : (column - tile.minX).toUInt32.toNat < tile.size.width ∧
      (row - tile.minZ).toUInt32.toNat < tile.size.height
    · have hsumX := distance_add grid.minX tile.minX column
      have hsumZ := distance_add grid.minZ tile.minZ row
      rw [if_pos htile, if_pos htile, hsumX, hsumZ, Nat.mod_eq_of_lt (by omega),
        Nat.mod_eq_of_lt (by omega), Nat.add_sub_cancel_left, Nat.add_sub_cancel_left]
      exact (getWorld?_eq_toOption (localIndex?_eq_some_iff.mpr ⟨htile, rfl, rfl⟩)).symm
    · rw [if_neg htile, if_neg htile]
      exact (getWorld?_eq_toOption hat).symm
  · -- a column outside the grid is not one of the tile either
    have htile : ¬ tile.containsWorld column row = true := by
      intro hin
      obtain ⟨hcolumn, hrow⟩ := containsWorld_eq_true_iff.mp hin
      exact hgrid <| containsWorld_eq_true_iff.mpr
        ⟨(stretch_within_iff (Nat.ne_zero_of_lt hcolumn) hwidth).mpr hfitsX column hcolumn,
          (stretch_within_iff (Nat.ne_zero_of_lt hrow) hheight).mpr hfitsZ row hrow⟩
    have hnone : grid.localIndex? column row = none := Option.not_isSome_iff_eq_none.mp hgrid
    rw [if_neg htile, getWorld?, getWorld?, h.occupies.localIndex?_eq, hnone]
    rfl

/-- **Pasting, seen by world columns.** -/
theorem pasting_by_columns (grid tile : Grid) (hwidth : grid.size.width < 2 ^ 32)
    (hheight : grid.size.height < 2 ^ 32) (hcolumns : tile.size.width ≠ 0)
    (hrows : tile.size.height ≠ 0) :
    ((∃ pasted, tile.pasteInto.run.run grid = (.ok (), pasted)) ↔
      ∀ column row, tile.containsWorld column row = true → grid.containsWorld column row = true) ∧
    (∀ fault after, tile.pasteInto.run.run grid = (.error fault, after) → after = grid) ∧
    ∀ pasted, tile.pasteInto.run.run grid = (.ok (), pasted) →
      pasted.Occupies grid.minX grid.minZ grid.size ∧ ∀ column row, pasted.getWorld? column row =
        if tile.containsWorld column row = true then
          tile.getWorld? column row else grid.getWorld? column row := by
  rw [← exists_place_iff hwidth hheight hcolumns hrows]
  rcases pasteInto_cases grid tile with
    ⟨x, z, pasted, hplace, hcovers, hrun, hshows⟩ | ⟨hmisfit, fault, hrun⟩
  · rw [hrun]
    refine ⟨iff_of_true ⟨pasted, rfl⟩ ⟨x, z, hplace, hcovers⟩, fun _ _ h => ?_, fun after h => ?_⟩
    · cases h
    · cases h
      exact ⟨hshows.occupies, hshows.getWorld?_eq hwidth hheight hplace hcovers⟩
  · rw [hrun]
    refine ⟨iff_of_false (fun ⟨_, h⟩ => ?_) fun ⟨x, z, hplace, hcovers⟩ =>
      hmisfit x z hplace hcovers, fun _ _ h => ?_, fun _ h => ?_⟩
    · cases h
    · cases h
      rfl
    · cases h

/-- A grid of three columns and two rows that goes on behind the largest coordinate. -/
def seam : Grid := ⟨Int32.maxValue, -1, ⟨3, 2⟩, #[1, 2, 3, 4, 5, 6], rfl⟩

/-- A tile with the columns behind it. -/
def seamTile : Grid := ⟨Int32.minValue, 0, ⟨2, 1⟩, #[7, 8], rfl⟩

/-- A tile is pasted behind the largest coordinate; the column in front of it keeps its value. -/
theorem seamTile_is_pasted :
    (seam.size.width < 2 ^ 32 ∧ seam.size.height < 2 ^ 32 ∧ seamTile.size.width ≠ 0 ∧
    seamTile.size.height ≠ 0) ∧ ∃ pasted, seamTile.pasteInto.run.run seam = (.ok (), pasted) ∧
      pasted.getWorld? Int32.minValue 0 = some 7 ∧ pasted.getWorld? Int32.maxValue 0 = some 4 := by
  obtain ⟨hfits, -, hpasted⟩ :=
    pasting_by_columns seam seamTile (by decide) (by decide) (by decide) (by decide)
  have hrun : seamTile.pasteInto.run.run seam =
    (.ok (), ⟨Int32.maxValue, -1, ⟨3, 2⟩, #[1, 2, 3, 4, 7, 8], rfl⟩) := rfl
  obtain ⟨-, hcolumns⟩ := hpasted _ hrun
  refine ⟨by decide, _, hrun, ?_, ?_⟩
  · rw [hcolumns]
    rfl
  · rw [hcolumns]
    rfl

/-! ## Windows -/

/-- **Cutting a window.** If the grid covers it and memory can hold it, it is there, and shows the
cells of the grid. -/
theorem exists_window (hcovers : grid.covers x z size = .ok true) (hroom : size.cells < cellLimit) :
    ∃ window, grid.window x z size = .ok window ∧
      window.Occupies (grid.worldX x) (grid.worldZ z) size ∧
      ∀ i j, i < size.width → j < size.height → window.get i j = grid.get (x + i) (z + j) := by
  obtain ⟨⟨-, hwidth⟩, -, hheight⟩ := covers_eq_true_iff.mp hcovers
  obtain ⟨values, hcut, hcount, hread⟩ :=
      @exists_cuts grid.values grid.size.width x z size hwidth <| by
    rw [grid.size_values, Size.cells, Nat.mul_comm grid.size.width]
    exact Nat.mul_le_mul_right _ hheight
  have hfull : values.size = size.cells := hcount.trans (Nat.mul_comm ..)
  refine ⟨⟨grid.worldX x, grid.worldZ z, size, values, hfull⟩, bind_eq_ok.mpr ⟨true, hcovers, ?_⟩,
    ⟨rfl, rfl, rfl⟩, fun i j hi hj => get_congr ⟨hi, hj⟩ ⟨by omega, by omega⟩ (hread i j hi hj)⟩
  rw [if_pos rfl, if_pos hroom]
  exact bind_eq_ok.mpr ⟨values, hcut, ofValues_eq_ok_iff.mpr
    ⟨Nat.lt_of_lt_of_le hroom cellLimit_le_wordLimit, hfull, ⟨rfl, rfl, rfl⟩, rfl⟩⟩

/-- A window that has been cut lies inside the grid and shows its cells. -/
theorem window_eq_ok (h : grid.window x z size = .ok window) : grid.covers x z size = .ok true ∧
    window.Occupies (grid.worldX x) (grid.worldZ z) size ∧
      ∀ i j, i < size.width → j < size.height → window.get i j = grid.get (x + i) (z + j) := by
  obtain ⟨inside, hinside, hcut⟩ := bind_eq_ok.mp h
  cases inside with
  | false => cases hcut
  | true =>
      rw [if_pos rfl] at hcut
      split at hcut
      · rename_i hroom
        obtain ⟨made, hmade, hat, hcells⟩ := exists_window hinside hroom
        cases h.symm.trans hmade
        exact ⟨hinside, hat, hcells⟩
      · cases hcut

/-- The place that pasting finds for a window: the one where it was cut out, if there is a cell. -/
theorem localIndex?_window (hwidth : grid.size.width < 2 ^ 32) (hheight : grid.size.height < 2 ^ 32)
    (htarget : target.Occupies grid.minX grid.minZ grid.size)
    (h : grid.window x z size = .ok window) :
    target.localIndex? window.minX window.minZ =
      if x < grid.size.width ∧ z < grid.size.height then some (x, z) else none := by
  obtain ⟨hcovers, hat, -⟩ := window_eq_ok h
  obtain ⟨⟨-, hx⟩, -, hz⟩ := covers_eq_true_iff.mp hcovers
  simp only [localIndex?, hat.minX_eq, hat.minZ_eq, htarget.minX_eq, htarget.minZ_eq,
    htarget.size_eq, worldX, worldZ]
  rw [distance_add_ofNat (by omega), distance_add_ofNat (by omega)]

/-- **Putting a window into a grid of the same extent** copies the cells it shows, if its first cell
lies in the grid. -/
theorem exists_paste_window (hwidth : grid.size.width < 2 ^ 32)
    (hheight : grid.size.height < 2 ^ 32) (htarget : target.Occupies grid.minX grid.minZ grid.size)
    (h : grid.window x z size = .ok window) (hfirst : x < grid.size.width ∧ z < grid.size.height) :
    ∃ pasted, target.paste window = .ok pasted ∧ pasted.Occupies grid.minX grid.minZ grid.size ∧
      ∀ i j, i < grid.size.width → j < grid.size.height → pasted.get i j =
        if (x ≤ i ∧ i < x + size.width) ∧
        (z ≤ j ∧ j < z + size.height) then grid.get i j else target.get i j := by
  obtain ⟨hcovers, hat, hcells⟩ := window_eq_ok h
  have hplace := localIndex?_window hwidth hheight htarget h
  rw [if_pos hfirst] at hplace
  rw [← hat.size_eq] at hcovers
  have hcovers' : target.covers x z window.size = .ok true := by
    rw [covers_eq_true_iff, htarget.size_eq]
    exact covers_eq_true_iff.mp hcovers
  obtain ⟨pasted, hpaste⟩ := exists_paste_iff.mpr ⟨x, z, hplace, hcovers'⟩
  obtain ⟨-, -, -, -, hpasted, -⟩ := paste_eq_ok hpaste
  rw [htarget.minX_eq, htarget.minZ_eq, htarget.size_eq] at hpasted
  refine ⟨pasted, hpaste, hpasted, fun i j hi hj => ?_⟩
  rw [get_of_paste hpaste hplace (htarget.size_eq ▸ hi) (htarget.size_eq ▸ hj), hat.size_eq]
  by_cases hin : (x ≤ i ∧ i < x + size.width) ∧ (z ≤ j ∧ j < z + size.height)
  · rw [if_pos hin, if_pos hin, hcells (i - x) (j - z) (by omega) (by omega),
      Nat.add_sub_cancel' hin.1.1, Nat.add_sub_cancel' hin.2.1]
  · rw [if_neg hin, if_neg hin]

/-- The columns behind the largest coordinate. -/
def seamWindow : Grid := ⟨Int32.minValue, -1, ⟨2, 2⟩, #[2, 3, 5, 6], rfl⟩

/-- **A window can be put back where it was cut out**, if its first cell lies in the grid, as it
does for every window that has cells. It then changes nothing, and in a grid of zeros it shows what
it was cut from. A window that has no first cell in the grid is refused. -/
theorem window_returns (hwidth : grid.size.width < 2 ^ 31) (hheight : grid.size.height < 2 ^ 31)
    (h : grid.window x z size = .ok window) :
    (size.width ≠ 0 → size.height ≠ 0 → x < grid.size.width ∧ z < grid.size.height) ∧
    (x < grid.size.width ∧ z < grid.size.height → grid.paste window = .ok grid ∧
      (grid.size.cells < cellLimit → ∃ blank pasted,
        zero grid.minX grid.minZ grid.size = .ok blank ∧
        blank.paste window = .ok pasted ∧ pasted.Occupies grid.minX grid.minZ grid.size ∧
        ∀ i j, i < grid.size.width → j < grid.size.height → pasted.get i j =
          if (x ≤ i ∧ i < x + size.width) ∧
          (z ≤ j ∧ j < z + size.height) then grid.get i j else .ok 0)) ∧
    (¬ (x < grid.size.width ∧ z < grid.size.height) → ∀ target : Grid,
      target.Occupies grid.minX grid.minZ grid.size →
      target.paste window = .error (.tileMisfit size window.minX window.minZ)) := by
  have hwide : grid.size.width < 2 ^ 32 := by omega
  have hhigh : grid.size.height < 2 ^ 32 := by omega
  obtain ⟨hcovers, hat, -⟩ := window_eq_ok h
  obtain ⟨⟨-, hx⟩, -, hz⟩ := covers_eq_true_iff.mp hcovers
  refine ⟨fun hcolumns hrows => by omega, fun hfirst => ⟨?_, fun hroom => ?_⟩,
    fun hnone target htarget => ?_⟩
  · obtain ⟨pasted, hpaste, hpasted, hcells⟩ :=
      exists_paste_window hwide hhigh ⟨rfl, rfl, rfl⟩ h hfirst
    rw [hpaste, eq_of_get hpasted fun i j hi hj => (hcells i j hi hj).trans (ite_self _)]
  · obtain ⟨blank, hblank, hzero, hzeros⟩ := @exists_zero grid.minX grid.minZ grid.size hroom
    obtain ⟨pasted, hpaste, hpasted, hcells⟩ := exists_paste_window hwide hhigh hzero h hfirst
    refine ⟨blank, pasted, hblank, hpaste, hpasted, fun i j hi hj => ?_⟩
    rw [hcells i j hi hj, hzeros i j hi hj]
  · have hplace := localIndex?_window hwide hhigh htarget h
    rw [if_neg hnone] at hplace
    rw [paste, run_pasteInto, hplace, hat.size_eq]

/-- A window that reaches the last column and the last row of a grid that wraps. -/
theorem seam_window_returns : (seam.size.width < 2 ^ 31 ∧ seam.size.height < 2 ^ 31 ∧
    seam.window 1 0 ⟨2, 2⟩ = .ok seamWindow) ∧
    seam.paste seamWindow = .ok seam ∧
    ∃ blank pasted, zero seam.minX seam.minZ seam.size = .ok blank ∧
      blank.paste seamWindow = .ok pasted ∧
      pasted.values = #[0, 2, 3, 0, 5, 6] := by
  have hcut : seam.window 1 0 ⟨2, 2⟩ = .ok seamWindow := rfl
  obtain ⟨hfirst, hreturns, -⟩ := window_returns (by decide) (by decide) hcut
  obtain ⟨hback, hblank⟩ := hreturns (hfirst (by decide) (by decide))
  obtain ⟨blank, pasted, hzero, hpaste, -, -⟩ := hblank (by decide)
  refine ⟨⟨by decide, by decide, hcut⟩, hback, blank, pasted, hzero, hpaste, ?_⟩
  cases hzero
  cases hpaste
  rfl

/-- Behind the last column of a grid, a window without columns can be cut out but not put back. -/
theorem empty_window_is_refused : ¬ ∀ (grid window : Grid) (x z : Nat) (size : Size),
    grid.size.width < 2 ^ 31 → grid.size.height < 2 ^ 31 → grid.window x z size = .ok window →
    ∃ pasted, grid.paste window = .ok pasted := by
  intro h
  obtain ⟨pasted, hpaste⟩ :=
    h ⟨10, 20, ⟨2, 2⟩, #[1, 2, 11, 12], rfl⟩ ⟨12, 20, ⟨0, 2⟩, #[], rfl⟩ 2 0 ⟨0, 2⟩
    (by decide) (by decide) rfl
  cases hpaste

end Grid
end BiomeAtlas
