import BiomeAtlas.Proofs.Cells

/-! # Pasting, cell by cell

A tile is pasted at the local position of its anchor, row by row. Pasting succeeds exactly if the
tile reaches past no side of the grid from there on (`Grid.exists_paste_iff`). It then overwrites
the cells that the tile covers, and no other ones (`Grid.get_of_paste`). The invariant of the loop
is that the rows before the current one have been written (`Grid.ShowsRows`); a tile that does not
fit is refused before the first row (`Grid.pasteInto_cases`).
-/
namespace BiomeAtlas

/-! ## Overwriting several places -/

section Overwriting
variable {cells : Array Cell} {place : Nat → Nat}

theorem getElem?_fold_set_of_ne {k : Nat} (n : Nat) (value : (i : Nat) → i < n → Cell)
    (hne : ∀ i < n, place i ≠ k) :
    (n.fold (fun i h cells => cells.setIfInBounds (place i) (value i h)) cells)[k]? =
      cells[k]? := by
  induction n with
  | zero => rfl
  | succ n ih =>
      rw [Nat.fold_succ, Array.getElem?_setIfInBounds_ne (hne n (Nat.lt_succ_self n))]
      exact ih _ fun i hi => hne i (Nat.lt_succ_of_lt hi)

/-- What is written last at a place stays, and no place is written twice. -/
theorem getElem?_fold_set (n : Nat) (value : (i : Nat) → i < n → Cell)
    (hinj : ∀ i < n, ∀ j < n, place i = place j → i = j)
    (i : Nat) (hi : i < n) (hplace : place i < cells.size) :
    (n.fold (fun i h cells => cells.setIfInBounds (place i) (value i h)) cells)[place i]? =
      some (value i hi) := by
  induction n with
  | zero => exact absurd hi (Nat.not_lt_zero i)
  | succ n ih =>
      rw [Nat.fold_succ]
      by_cases hlast : i = n
      · subst hlast
        rw [Array.getElem?_setIfInBounds_self, size_fold_set, if_pos hplace]
      · have hi' : i < n := by omega
        have hne : place n ≠ place i := by
          intro hsame
          exact hlast (hinj i hi n (Nat.lt_succ_self n) hsame.symm)
        rw [Array.getElem?_setIfInBounds_ne hne]
        exact ih _ (fun a ha b hb => hinj a (Nat.lt_succ_of_lt ha) b (Nat.lt_succ_of_lt hb)) hi'

/-- After a row has been written, its cells are read where it lies, and the former ones everywhere
else. -/
theorem getElem?_putRow {row : Array Cell} {start : Nat}
    (h : start + row.size ≤ cells.size) (k : Nat) :
    (putRow row start cells)[k]? = if start ≤ k ∧
    k < start + row.size then row[k - start]? else cells[k]? := by
  by_cases hk : start ≤ k ∧ k < start + row.size
  · obtain ⟨n, rfl⟩ := Nat.exists_eq_add_of_le hk.1
    have hn : n < row.size := by omega
    rw [if_pos hk, Nat.add_sub_cancel_left, Array.getElem?_eq_getElem hn]
    exact @getElem?_fold_set cells (start + ·) row.size (fun i _ => row[i])
      (fun _ _ _ _ => Nat.add_left_cancel) n hn (by omega)
  · rw [if_neg hk]
    exact @getElem?_fold_set_of_ne cells (start + ·) k row.size (fun i _ => row[i]) fun i hi => by
      omega

end Overwriting

/-! ## Computations in place -/

section InPlace
variable {σ ε α β : Type} {state next : σ}

theorem run_bind_of_ok {first : ExceptT ε (StateM σ) α} {a : α}
    (h : first.run.run state = (.ok a, next)) (later : α → ExceptT ε (StateM σ) β) :
    (first >>= later).run.run state = (later a).run.run next := by
  rw [ExceptT.run_bind, StateT.run_bind, h]
  rfl

/-- The rule of loops, for steps that work in place. -/
theorem exists_forM_range {step : Nat → ExceptT ε (StateM σ) Unit}
    (invariant : Nat → σ → Prop) {start : σ} (hstart : invariant 0 start) {n : Nat}
    (hstep : ∀ i state, i < n → invariant i state →
      ∃ next, (step i).run.run state = (.ok (), next) ∧ invariant (i + 1) next) :
    ∃ last, (forM (List.range n) step).run.run start = (.ok (), last) ∧ invariant n last := by
  induction n with
  | zero => exact ⟨start, rfl, hstart⟩
  | succ n ih =>
      obtain ⟨state, hloop, hstate⟩ := ih fun i state hi => hstep i state (Nat.lt_succ_of_lt hi)
      obtain ⟨last, hlast, hinvariant⟩ := hstep n state (Nat.lt_succ_self n) hstate
      refine ⟨last, ?_, hinvariant⟩
      rw [List.range_succ, List.forM_append, run_bind_of_ok hloop]
      exact run_bind_of_ok hlast _

end InPlace

namespace Grid
variable {grid tile pasted state : Grid} {x z i j : Nat}

/-- A grid is its extent and its cells. -/
theorem eq_of_get {other : Grid} (hat : other.Occupies grid.minX grid.minZ grid.size)
    (h : ∀ i j, i < grid.size.width → j < grid.size.height → other.get i j = grid.get i j) :
    other = grid := by
  obtain ⟨hminX, hminZ, hsize⟩ := hat
  have hvalues : other.values = grid.values := by
    refine Array.ext (by rw [other.size_values, grid.size_values, hsize]) fun k hk hk' => ?_
    obtain ⟨⟨hcolumn, hrow⟩, hindex⟩ := position_of_lt hk'
    obtain ⟨value, hvalue⟩ := exists_get hcolumn hrow
    have hplace := (get_eq_ok_iff.mp hvalue).2
    have hplace' := (get_eq_ok_iff.mp ((h _ _ hcolumn hrow).trans hvalue)).2
    rw [index, hsize, ← index, hindex, Array.getElem?_eq_getElem hk, Option.some.injEq] at hplace'
    rw [hindex, Array.getElem?_eq_getElem hk', Option.some.injEq] at hplace
    exact hplace'.trans hplace.symm
  cases other
  cases grid
  cases hminX; cases hminZ; cases hsize; cases hvalues
  rfl

/-- Reading is looking up an index. -/
theorem get_congr {other : Grid} {i' j' : Nat} (hplace : i < grid.size.width ∧ j < grid.size.height)
    (hplace' : i' < other.size.width ∧ j' < other.size.height)
    (h : grid.values[grid.index i j]? = other.values[other.index i' j']?) :
    grid.get i j = other.get i' j' := by
  rw [get, get, if_pos hplace, if_pos hplace', h]

/-- The cells of one row of a grid. -/
theorem exists_row (hj : j < grid.size.height) :
    ∃ row, grid.row j = .ok row ∧ row.size = grid.size.width ∧
    ∀ i, i < grid.size.width → row[i]? = grid.values[grid.index i j]? := by
  have hend : j * grid.size.width + grid.size.width ≤ grid.values.size := by
    rw [grid.size_values, Size.cells, Nat.mul_comm grid.size.width, ← Nat.succ_mul]
    exact Nat.mul_le_mul_right _ hj
  refine ⟨_, if_pos hend, ?_, fun i hi => ?_⟩
  · rw [Array.size_extract]
    omega
  · rw [Array.getElem?_extract, if_pos (by omega), index, Nat.add_comm]

/-- The first rows of a tile have been written into a grid at the local position `(x, z)`, and
nothing else. -/
structure ShowsRows (grid tile : Grid) (x z rows : Nat) (state : Grid) : Prop where
  occupies : state.Occupies grid.minX grid.minZ grid.size
  get_eq : ∀ i j, i < grid.size.width → j < grid.size.height → state.get i j =
    if (x ≤ i ∧ i < x + tile.size.width) ∧
    (z ≤ j ∧ j < z + rows) then tile.get (i - x) (j - z) else grid.get i j

/-- An index lies in the part of a row that a tile covers if its place does. -/
theorem covered_iff {width extent a b : Nat} (hi : i < width) (hfits : x + extent ≤ width) :
    (x + a * width ≤ i + b * width ∧ i + b * width < x + a * width + extent) ↔
    b = a ∧ x ≤ i ∧ i < x + extent := by
  rcases Nat.lt_trichotomy b a with hlt | rfl | hgt
  · have hrows : (b + 1) * width ≤ a * width := Nat.mul_le_mul_right _ hlt
    rw [Nat.succ_mul] at hrows
    omega
  · omega
  · have hrows : (a + 1) * width ≤ b * width := Nat.mul_le_mul_right _ hgt
    rw [Nat.succ_mul] at hrows
    omega

/-- **One row more.** -/
theorem ShowsRows.exists_pasteRow (hwidth : x + tile.size.width ≤ grid.size.width)
    (hheight : z + tile.size.height ≤ grid.size.height) (hj : j < tile.size.height)
    (h : grid.ShowsRows tile x z j state) :
    ∃ next, (tile.pasteRow x z j).run.run state = (.ok (), next) ∧
      grid.ShowsRows tile x z (j + 1) next := by
  obtain ⟨row, hrow, hcount, hread⟩ := exists_row hj
  obtain ⟨hminX, hminZ, hsize⟩ := h.occupies
  have hroom : x + (z + j) * state.size.width + row.size ≤ state.values.size := by
    have hrows : (z + j + 1) * grid.size.width ≤ grid.size.height * grid.size.width :=
      Nat.mul_le_mul_right _ (by omega)
    rw [state.size_values, hsize, Size.cells, Nat.mul_comm grid.size.width grid.size.height, hcount]
    rw [Nat.succ_mul] at hrows
    omega
  refine ⟨{ state with
    values := putRow row (x + (z + j) * state.size.width) state.values
    size_values := by
      rw [size_putRow, state.size_values] }, ?_, ⟨hminX, hminZ, hsize⟩, fun i k hi hk => ?_⟩
  · unfold pasteRow
    rw [hrow]
    change (if _ then _ else _ : ExceptT Fault (StateM Grid) Unit).run.run state = _
    rw [if_pos hroom]
    rfl
  · have hcells := @getElem?_putRow state.values row _ hroom (i + k * state.size.width)
    rw [hcount] at hcells
    rw [← hsize] at hwidth hi hk
    by_cases hcovered : k = z + j ∧ x ≤ i ∧ i < x + tile.size.width
    · obtain ⟨rfl, hle, hlt⟩ := hcovered
      rw [if_pos ⟨⟨hle, hlt⟩, by omega⟩, Nat.add_sub_cancel_left]
      refine get_congr ⟨hi, hk⟩ ⟨by omega, hj⟩ (hcells.trans ?_)
      rw [if_pos ((covered_iff hi hwidth).mpr ⟨rfl, hle, hlt⟩), ← hread (i - x) (by omega)]
      congr 1
      omega
    · have hkept : (putRow row (x + (z + j) * state.size.width) state.values)[state.index i k]? =
          state.values[state.index i k]? := by
        rw [index, hcells, if_neg fun hin => hcovered ((covered_iff hi hwidth).mp hin)]
      refine Eq.trans (b := state.get i k) (get_congr ⟨hi, hk⟩ ⟨hi, hk⟩ hkept) ?_
      rw [h.get_eq i k (hsize ▸ hi) (hsize ▸ hk)]
      have hrows : (x ≤ i ∧ i < x + tile.size.width) ∧ (z ≤ k ∧ k < z + j) ↔
          (x ≤ i ∧ i < x + tile.size.width) ∧ (z ≤ k ∧ k < z + (j + 1)) := by omega
      simp only [hrows]

theorem run_pasteInto (grid tile : Grid) : tile.pasteInto.run.run grid =
    match grid.localIndex? tile.minX tile.minZ with
    | none => (.error (.tileMisfit tile.size tile.minX tile.minZ), grid)
    | some (x, z) =>
      match grid.covers x z tile.size with
      | .ok true => (forM (List.range tile.size.height) (tile.pasteRow x z)).run.run grid
      | .ok false => (.error (.tileMisfit tile.size tile.minX tile.minZ), grid)
      | .error fault => (.error fault, grid) := by
  unfold pasteInto
  change (match grid.localIndex? tile.minX tile.minZ with
    | none => _
    | some (x, z) => _ : ExceptT Fault (StateM Grid) Unit).run.run grid = _
  cases grid.localIndex? tile.minX tile.minZ with
  | none => rfl
  | some place =>
      obtain ⟨x, z⟩ := place
      dsimp only
      change ((liftM (grid.covers x z tile.size) >>= fun inside => _) : ExceptT Fault (StateM Grid)
        Unit).run.run grid = _
      cases grid.covers x z tile.size with
      | error fault => rfl
      | ok inside => cases inside <;> rfl

/-- **How pasting ends.** A tile that fits is written row by row. One that does not fit is refused,
and the grid at hand stays as it was. -/
theorem pasteInto_cases (grid tile : Grid) :
    (∃ x z pasted, grid.localIndex? tile.minX tile.minZ = some (x, z) ∧
      grid.covers x z tile.size = .ok true ∧
      tile.pasteInto.run.run grid = (.ok (), pasted) ∧
      grid.ShowsRows tile x z tile.size.height pasted) ∨
    ((∀ x z, grid.localIndex? tile.minX tile.minZ = some (x, z) →
      grid.covers x z tile.size ≠ .ok true) ∧
      ∃ fault, tile.pasteInto.run.run grid = (.error fault, grid)) := by
  rw [run_pasteInto]
  cases hplace : grid.localIndex? tile.minX tile.minZ with
  | none => exact Or.inr ⟨fun _ _ => nofun, _, rfl⟩
  | some place =>
      obtain ⟨x, z⟩ := place
      dsimp only
      cases hcovers : grid.covers x z tile.size with
      | error fault =>
          refine Or.inr ⟨fun x z h hin => ?_, fault, rfl⟩
          cases h
          cases hcovers.symm.trans hin
      | ok inside =>
          cases inside with
          | false =>
              refine Or.inr ⟨fun x z h hin => ?_, _, rfl⟩
              cases h
              cases hcovers.symm.trans hin
          | true =>
              obtain ⟨⟨-, hwidth⟩, -, hheight⟩ := covers_eq_true_iff.mp hcovers
              have hstart : grid.ShowsRows tile x z 0 grid :=
                ⟨⟨rfl, rfl, rfl⟩, fun i j _ _ => (if_neg fun h => by omega).symm⟩
              obtain ⟨pasted, hrun, hshows⟩ := exists_forM_range (grid.ShowsRows tile x z) hstart
                fun j state hj h => h.exists_pasteRow hwidth hheight hj
              exact Or.inl ⟨x, z, pasted, rfl, hcovers, hrun, hshows⟩

/-- **When pasting succeeds**: the grid reaches far enough from the place of the tile on. -/
theorem exists_paste_iff : (∃ pasted, grid.paste tile = .ok pasted) ↔
    ∃ x z, grid.localIndex? tile.minX tile.minZ = some (x, z) ∧
      grid.covers x z tile.size = .ok true := by
  unfold paste
  rcases pasteInto_cases grid tile with
    ⟨x, z, pasted, hplace, hcovers, hrun, -⟩ | ⟨hmisfit, fault, hrun⟩
  · rw [hrun]
    exact iff_of_true ⟨pasted, rfl⟩ ⟨x, z, hplace, hcovers⟩
  · rw [hrun]
    refine iff_of_false (fun ⟨_, h⟩ => by cases h) fun ⟨x, z, hplace, hcovers⟩ =>
      hmisfit x z hplace hcovers

theorem paste_eq_ok (h : grid.paste tile = .ok pasted) :
    ∃ x z, grid.localIndex? tile.minX tile.minZ = some (x, z) ∧
    grid.covers x z tile.size = .ok true ∧ pasted.Occupies grid.minX grid.minZ grid.size ∧
      grid.ShowsRows tile x z tile.size.height pasted := by
  unfold paste at h
  rcases pasteInto_cases grid tile with
    ⟨x, z, after, hplace, hcovers, hrun, hshows⟩ | ⟨-, fault, hrun⟩
  · rw [hrun] at h
    cases h
    exact ⟨x, z, hplace, hcovers, hshows.occupies, hshows⟩
  · rw [hrun] at h
    cases h

/-- **What pasting changes**: the cells under the tile are those of the tile, and all other cells
stay as they are. -/
theorem get_of_paste (h : grid.paste tile = .ok pasted)
    (hplace : grid.localIndex? tile.minX tile.minZ = some (x, z))
    (hi : i < grid.size.width) (hj : j < grid.size.height) : pasted.get i j =
      if (x ≤ i ∧ i < x + tile.size.width) ∧
      (z ≤ j ∧ j < z + tile.size.height) then tile.get (i - x) (j - z)
      else grid.get i j := by
  obtain ⟨x', z', hplace', -, -, hshows⟩ := paste_eq_ok h
  cases hplace.symm.trans hplace'
  exact hshows.get_eq i j hi hj

end Grid
end BiomeAtlas
