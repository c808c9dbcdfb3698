import BiomeAtlas.Proofs.Cells
import BiomeAtlas.Stage.Zoom

/-! # Doubling, cell by cell

A coarse tile is doubled block by block, while an index and two coarse cells are carried along. What
comes out is said here one cell at a time: `Grid.doubledCell` is the cell at a place of the doubled
tile, by the parity of its column and row.

The invariant of the two nested loops is that all blocks before the current one are filled in
(`Grid.Fills`). One block more is `Sweep.exists_advance`, a row of blocks `Grid.exists_doubleRow`,
and all rows `Grid.exists_doubled`.
-/
namespace BiomeAtlas

/-- What a cell becomes by doubling, from its place in the block, the column where the block begins,
the cell that the block comes from and the next ones to the right, below and across. -/
def Noise.interpolate (noise : Noise) (blockX blockZ : Coord) (placeX placeZ : Nat)
    (corner right below across : Cell) : Cell :=
  match placeX, placeZ with
  | 0, 0 => corner
  | 0, _ => noise.chooseTwo blockX (blockZ + 1) corner below
  | _, 0 => noise.chooseTwo blockX (blockZ - 1) corner right
  | _, _ => noise.chooseFour blockX blockZ corner right below across

/-! ## Loops -/

/-- **The rule of loops.** If every step succeeds and leads from the invariant to the invariant, so
does the loop. -/
theorem exists_foldlM_range {σ ε : Type} {step : σ → Nat → Except ε σ}
    (invariant : Nat → σ → Prop) {start : σ} (hstart : invariant 0 start) :
    ∀ {n : Nat}, (∀ i state, i < n → invariant i state →
      ∃ next, step state i = .ok next ∧ invariant (i + 1) next) →
    ∃ last, (List.range n).foldlM step start = .ok last ∧ invariant n last
  | 0, _ => ⟨start, rfl, hstart⟩
  | n + 1, hstep => by
      obtain ⟨state, hloop, hstate⟩ := exists_foldlM_range invariant hstart fun i state hi =>
        hstep i state (Nat.lt_succ_of_lt hi)
      obtain ⟨last, hlast, hinvariant⟩ := hstep n state (Nat.lt_succ_self n) hstate
      refine ⟨last, ?_, hinvariant⟩
      rw [List.range_succ, List.foldlM_append, hloop]
      exact bind_eq_ok.mpr ⟨state, rfl, bind_eq_ok.mpr ⟨last, hlast, rfl⟩⟩

/-- What every step keeps if it succeeds is kept by the loop. -/
theorem of_foldlM_eq_ok {σ α ε : Type} {step : σ → α → Except ε σ} (invariant : σ → Prop)
    (hstep : ∀ state a next, invariant state → step state a = .ok next → invariant next) :
    ∀ {list : List α} {start last : σ}, invariant start → list.foldlM step start = .ok last →
      invariant last
  | [], _, _, hstart, h => Except.ok.inj h ▸ hstart
  | _ :: _, _, _, hstart, h => by
      obtain ⟨next, hnext, hrest⟩ := bind_eq_ok.mp h
      exact of_foldlM_eq_ok invariant hstep (hstep _ _ _ hstart hnext) hrest

/-! ## One block -/

theorem exists_overwrite {cells : Array Cell} {index : Nat} (h : index < cells.size)
    (value : Cell) :
    ∃ later, overwrite cells index value = .ok later ∧ later.size = cells.size ∧
      ∀ i, later[i]? = if index = i then some value else cells[i]? := by
  refine ⟨_, if_pos h, Array.size_setIfInBounds, fun i => ?_⟩
  rw [Array.getElem?_setIfInBounds, if_pos h]

/-- **One block.** Its four cells are the corner and the interpolated ones, and all other cells
stay. -/
theorem Sweep.exists_advance (noise : Noise) (blockX blockZ : Coord) {stride : Nat}
    (right across : Cell) (sweep : Sweep) (hstride : 2 ≤ stride)
    (hindex : sweep.index + 1 + stride < sweep.cells.size) :
    ∃ later, sweep.advance noise blockX blockZ stride right across = .ok later ∧
      later.index = sweep.index + 2 ∧ later.corner = right ∧ later.below = across ∧
      later.cells.size = sweep.cells.size ∧
      (∀ p q, p < 2 → q < 2 → later.cells[sweep.index + p + q * stride]? =
        some (noise.interpolate blockX blockZ p q sweep.corner right sweep.below across)) ∧
      ∀ i, (∀ p q, p < 2 → q < 2 → i ≠ sweep.index + p + q * stride) →
        later.cells[i]? = sweep.cells[i]? := by
  obtain ⟨index, corner, below, cells⟩ := sweep
  dsimp only at hindex ⊢
  obtain ⟨cells₁, hcells₁, hsize₁, hread₁⟩ := @exists_overwrite cells index (by omega) corner
  obtain ⟨cells₂, hcells₂, hsize₂, hread₂⟩ :=
    @exists_overwrite cells₁ (index + stride) (by omega)
      (noise.chooseTwo blockX (blockZ + 1) corner below)
  obtain ⟨cells₃, hcells₃, hsize₃, hread₃⟩ :=
    @exists_overwrite cells₂ (index + 1) (by omega)
      (noise.chooseTwo blockX (blockZ - 1) corner right)
  obtain ⟨cells₄, hcells₄, hsize₄, hread₄⟩ :=
    @exists_overwrite cells₃ (index + 1 + stride) (by omega)
      (noise.chooseFour blockX blockZ corner right below across)
  refine ⟨⟨index + 2, right, across, cells₄⟩, ?_, rfl, rfl, rfl, by dsimp only; omega, ?_, ?_⟩
  · exact bind_eq_ok.mpr ⟨cells₁, hcells₁,
      bind_eq_ok.mpr ⟨cells₂, hcells₂, bind_eq_ok.mpr ⟨cells₃, hcells₃,
      bind_eq_ok.mpr ⟨cells₄, hcells₄, rfl⟩⟩⟩⟩
  · intro p q hp hq
    simp only [hread₄, hread₃, hread₂, hread₁]
    obtain rfl | rfl : p = 0 ∨ p = 1 := by omega
    · obtain rfl | rfl : q = 0 ∨ q = 1 := by omega
      · rw [if_neg (by omega), if_neg (by omega), if_neg (by omega), if_pos (by omega)]
        simp only [Noise.interpolate]
      · rw [if_neg (by omega), if_neg (by omega), if_pos (by omega)]; simp only [Noise.interpolate]
    · obtain rfl | rfl : q = 0 ∨ q = 1 := by omega
      · rw [if_neg (by omega), if_pos (by omega)]; simp only [Noise.interpolate]
      · rw [if_pos (by omega)]; simp only [Noise.interpolate]
  · intro i hother
    have h₁ := hother 0 0 (by decide) (by decide)
    have h₂ := hother 0 1 (by decide) (by decide)
    have h₃ := hother 1 0 (by decide) (by decide)
    have h₄ := hother 1 1 (by decide) (by decide)
    simp only [hread₄, hread₃, hread₂, hread₁]
    rw [if_neg (by omega), if_neg (by omega), if_neg (by omega), if_neg (by omega)]

namespace Grid
variable {lower tile : Grid} {noise : Noise} {size : Size} {minX minZ firstX firstZ : Coord}

/-- One cell of the doubled tile of a coarse tile that was asked for at a column. -/
def doubledCell (lower : Grid) (noise : Noise) (firstX firstZ : Coord) (x z : Nat) :
    Except Fault Cell := do
  let (a, b) := (x / 2, z / 2)
  let blockX := (firstX + Int32.ofNat a) * 2
  let blockZ := (firstZ + Int32.ofNat b) * 2
  let corner ← lower.get a b
  let right ← lower.get (a + 1) b
  let below ← lower.get a (b + 1)
  let across ← lower.get (a + 1) (b + 1)
  return match x % 2, z % 2 with
    | 0, 0 => corner
    | 0, _ => noise.chooseTwo blockX (blockZ + 1) corner below
    | _, 0 => noise.chooseTwo blockX (blockZ - 1) corner right
    | _, _ => noise.chooseFour blockX blockZ corner right below across

/-- The cells of a block that comes from a coarse cell. -/
theorem doubledCell_eq {x z : Nat} {corner right below across : Cell}
    (hcorner : lower.get (x / 2) (z / 2) = .ok corner)
    (hright : lower.get (x / 2 + 1) (z / 2) = .ok right)
    (hbelow : lower.get (x / 2) (z / 2 + 1) = .ok below)
    (hacross : lower.get (x / 2 + 1) (z / 2 + 1) = .ok across) :
    lower.doubledCell noise firstX firstZ x z =
      .ok (noise.interpolate ((firstX + Int32.ofNat (x / 2)) * 2)
        ((firstZ + Int32.ofNat (z / 2)) * 2) (x % 2) (z % 2) corner right below across) := by
  simp only [doubledCell, hcorner, hright, hbelow, hacross]
  rfl

/-- A place of the doubled tile that comes before a block: in a row of blocks above it, or to its
left. -/
def Before (a b x z : Nat) : Prop :=
  z / 2 < b ∨ z / 2 = b ∧ x / 2 < a

/-- The cells before a block are filled in. -/
structure Fills (lower : Grid) (noise : Noise) (firstX firstZ : Coord) (a b : Nat)
    (cells : Array Cell) : Prop where
  size_eq : cells.size = lower.doubledSize.cells
  read : ∀ x z, x < lower.doubledSize.width → z < lower.doubledSize.height → Before a b x z →
    ∃ value, lower.doubledCell noise firstX firstZ x z = .ok value ∧
      cells[x + z * lower.doubledSize.width]? = some value

/-- A sweep through a row of blocks has come to the next block. -/
structure SweepsTo (lower : Grid) (noise : Noise) (firstX firstZ : Coord) (b a : Nat)
    (sweep : Sweep) : Prop where
  index_eq : sweep.index = b * 2 * lower.doubledSize.width + a * 2
  corner_eq : lower.get a b = .ok sweep.corner
  below_eq : lower.get a (b + 1) = .ok sweep.below
  fills : lower.Fills noise firstX firstZ a b sweep.cells

/-- **One block more.** -/
theorem exists_doubleBlock {a b : Nat} {sweep : Sweep} (ha : a < lower.size.width - 1)
    (hb : b < lower.size.height - 1) (h : lower.SweepsTo noise firstX firstZ b a sweep) :
    ∃ later, lower.doubleBlock noise firstX firstZ b sweep a = .ok later ∧
      lower.SweepsTo noise firstX firstZ b (a + 1) later := by
  obtain ⟨hindex, hcorner, hbelow, hsize, hread⟩ := h
  obtain ⟨right, hright⟩ := @exists_get lower (a + 1) b (by omega) (by omega)
  obtain ⟨across, hacross⟩ := @exists_get lower (a + 1) (b + 1) (by omega) (by omega)
  have hwidth : lower.doubledSize.width = (lower.size.width - 1) * 2 := rfl
  have hheight : lower.doubledSize.height = (lower.size.height - 1) * 2 := rfl
  -- the indices of the block, seen as places
  have hplace : ∀ p q, sweep.index + p + q * lower.doubledSize.width =
      (a * 2 + p) + (b * 2 + q) * lower.doubledSize.width := by
    intro p q
    rw [hindex, Nat.add_mul]
    omega
  obtain ⟨later, hadvance, hindex', hcorner', hbelow', hsize', hblock, hrest⟩ :=
    sweep.exists_advance noise ((firstX + Int32.ofNat a) * 2) ((firstZ + Int32.ofNat b) * 2) right
        across (by omega : 2 ≤ lower.doubledSize.width) (by
      have hlast := @Size.place_lt lower.doubledSize (a * 2 + 1) (b * 2 + 1) (by omega) (by omega)
      have hcell := hplace 1 1
      omega)
  refine ⟨later, bind_eq_ok.mpr ⟨right, hright,
    bind_eq_ok.mpr ⟨across, hacross, hadvance⟩⟩, by omega, hcorner' ▸ hright,
    hbelow' ▸ hacross, hsize'.trans hsize, fun x z hx hz hbefore => ?_⟩
  by_cases hin : x / 2 = a ∧ z / 2 = b
  · obtain ⟨rfl, rfl⟩ := hin
    refine ⟨_, doubledCell_eq hcorner hright hbelow hacross, ?_⟩
    rw [← hblock (x % 2) (z % 2) (Nat.mod_lt _ (by decide)) (Nat.mod_lt _ (by decide)), hplace,
      Nat.div_add_mod', Nat.div_add_mod']
  · obtain ⟨value, hcell, hvalue⟩ := hread x z hx hz (by unfold Before at hbefore ⊢; omega)
    refine ⟨value, hcell, (hrest _ fun p q hp hq hsame => hin ?_).trans hvalue⟩
    rw [hplace] at hsame
    have hxz := mod_div_of_lt hx (z := z)
    have hpq := @mod_div_of_lt lower.doubledSize.width (a * 2 + p) (b * 2 + q) (by omega)
    rw [hsame] at hxz
    omega

/-- **One row of blocks more.** -/
theorem exists_doubleRow {b : Nat} {cells : Array Cell} (hwidth : 0 < lower.size.width)
    (hb : b < lower.size.height - 1) (h : lower.Fills noise firstX firstZ 0 b cells) :
    ∃ later, lower.doubleRow noise firstX firstZ cells b = .ok later ∧
      lower.Fills noise firstX firstZ 0 (b + 1) later := by
  obtain ⟨corner, hcorner⟩ := @exists_get lower 0 b (by omega) (by omega)
  obtain ⟨below, hbelow⟩ := @exists_get lower 0 (b + 1) (by omega) (by omega)
  have hstart : lower.SweepsTo noise firstX firstZ b 0 ⟨b * 2 * lower.doubledSize.width, corner,
    below, cells⟩ := ⟨rfl, hcorner, hbelow, h⟩
  obtain ⟨swept, hswept, -, -, -, hsize, hread⟩ :=
    exists_foldlM_range (lower.SweepsTo noise firstX firstZ b) hstart
    fun a _ ha hsweep => exists_doubleBlock ha hb hsweep
  refine ⟨swept.cells, bind_eq_ok.mpr ⟨corner, hcorner,
    bind_eq_ok.mpr ⟨below, hbelow, bind_eq_ok.mpr ⟨swept, hswept, rfl⟩⟩⟩,
    hsize, fun x z hx hz hbefore => hread x z hx hz ?_⟩
  have hblocks : lower.doubledSize.width = (lower.size.width - 1) * 2 := rfl
  unfold Before at hbefore ⊢
  omega

/-- **Doubling.** All cells are written, unless memory cannot hold them. -/
theorem exists_doubled (hsize : lower.size.isEmpty = false)
    (hcells : lower.doubledSize.cells < cellLimit) :
    ∃ cells, lower.doubled noise firstX firstZ = .ok cells ∧ cells.size = lower.doubledSize.cells ∧
      ∀ x z, x < lower.doubledSize.width → z < lower.doubledSize.height →
        ∃ value, lower.doubledCell noise firstX firstZ x z = .ok value ∧
          cells[x + z * lower.doubledSize.width]? = some value := by
  have hwidth : 0 < lower.size.width := by
    simp only [Size.isEmpty, Bool.or_eq_false_iff, beq_eq_false_iff_ne] at hsize
    omega
  have hstart :
      lower.Fills noise firstX firstZ 0 0 (Array.replicate lower.doubledSize.cells 0) := by
    refine ⟨Array.size_replicate, fun x z _ _ hbefore => ?_⟩
    unfold Before at hbefore
    omega
  obtain ⟨cells, hloop, hfills⟩ := exists_foldlM_range (lower.Fills noise firstX firstZ 0) hstart
    fun b _ hb hfills => exists_doubleRow hwidth hb hfills
  refine ⟨cells, ?_, hfills.size_eq, fun x z hx hz => hfills.read x z hx hz ?_⟩
  · unfold doubled
    rw [if_neg (by rw [hsize]; decide), if_pos hcells, hloop]
  · have hblocks : lower.doubledSize.height = (lower.size.height - 1) * 2 := rfl
    unfold Before
    omega

/-- Only a tile with cells is doubled, and only if memory can hold what comes out. -/
theorem of_doubled_eq_ok {cells : Array Cell} (h : lower.doubled noise firstX firstZ = .ok cells) :
    lower.size.isEmpty = false ∧ lower.doubledSize.cells < cellLimit := by
  unfold doubled at h
  split at h
  · cases h
  · rename_i hlower
    split at h
    · rename_i hroom
      exact ⟨Bool.eq_false_iff.mpr hlower, hroom⟩
    · cases h

/-! ## Cutting a tile -/

/-- The cells of a slice. -/
theorem exists_slice {cells : Array Cell} {start width : Nat} (h : start + width ≤ cells.size) :
    ∃ row, slice cells start (start + width) = .ok row ∧ row.size = width ∧ ∀ i, i < width →
      row[i]? = cells[start + i]? := by
  refine ⟨_, if_pos h, ?_, fun i hi => ?_⟩
  · rw [Array.size_extract]
    omega
  · rw [Array.getElem?_extract, if_pos (by omega)]

/-- The first rows of a tile have been cut out at a place. -/
structure Cuts (cells : Array Cell) (stride x z width rows : Nat) (values : Array Cell) : Prop where
  size_eq : values.size = rows * width
  read : ∀ i j, i < width → j < rows → values[i + j * width]? = cells[(x + i) + (z + j) * stride]?

/-- **One row more.** -/
theorem Cuts.exists_cutRow {cells values : Array Cell} {stride x z width rows : Nat}
    (h : Cuts cells stride x z width rows values)
    (hinside : (rows + z) * stride + x + width ≤ cells.size) :
    ∃ later, cutRow cells stride x z width values rows = .ok later ∧
      Cuts cells stride x z width (rows + 1) later := by
  obtain ⟨row, hrow, hsize, hread⟩ := exists_slice hinside
  refine ⟨values ++ row, bind_eq_ok.mpr ⟨row, hrow, rfl⟩, ?_, fun i j hi hj => ?_⟩
  · rw [Array.size_append, h.size_eq, hsize, Nat.succ_mul]
  · rw [Array.getElem?_append, h.size_eq]
    obtain hlt | rfl := Nat.lt_succ_iff_lt_or_eq.mp hj
    · have hplace : i + j * width < width * rows := @Size.place_lt ⟨width, rows⟩ i j hi hlt
      rw [if_pos (Nat.mul_comm width rows ▸ hplace), h.read i j hi hlt]
    · rw [if_neg (by omega), Nat.add_sub_cancel, hread i hi, Nat.add_comm z j]
      congr 1
      omega

/-- **Cutting out a tile.** All its rows are there if it reaches neither past the end of a row nor
past the last one. -/
theorem exists_cuts {cells : Array Cell} {stride x z : Nat} {size : Size}
    (hwidth : x + size.width ≤ stride) (hheight : (z + size.height) * stride ≤ cells.size) :
    ∃ values,
      (List.range size.height).foldlM (cutRow cells stride x z size.width) #[] = .ok values ∧
      Cuts cells stride x z size.width size.height values := by
  have hempty : Cuts cells stride x z size.width 0 #[] :=
    ⟨(Nat.zero_mul _).symm, fun _ _ _ h => by cases h⟩
  refine exists_foldlM_range _ hempty fun j values (hj : j < size.height) hcuts =>
    hcuts.exists_cutRow ?_
  have hrows : (j + z + 1) * stride ≤ (z + size.height) * stride :=
    Nat.mul_le_mul_right _ (by omega)
  rw [Nat.succ_mul] at hrows
  omega

theorem ofValues_eq_ok_iff {values : Array Cell} : ofValues minX minZ size values = .ok tile ↔
    size.cells < wordLimit ∧ values.size = size.cells ∧ tile.Occupies minX minZ size ∧
    tile.values = values := by
  unfold ofValues
  constructor
  · intro h
    split at h
    · rename_i hword
      split at h
      · rename_i hsize
        cases h
        exact ⟨hword, hsize, ⟨rfl, rfl, rfl⟩, rfl⟩
      · cases h
    · cases h
  · rintro ⟨hword, hsize, ⟨rfl, rfl, rfl⟩, rfl⟩
    rw [if_pos hword, dif_pos hsize]

/-- **Doubling to a tile.** If memory can hold the doubled tile and the part that is cut from it,
the tile is there, and each of its cells is a cell of the doubled tile, counted from the phase of
the anchor on. -/
theorem exists_zoomed (hlower : lower.size.isEmpty = false)
    (hdoubled : lower.doubledSize.cells < cellLimit) (hcells : size.cells < cellLimit)
    (hwidth : phase minX + size.width ≤ lower.doubledSize.width)
    (hheight : phase minZ + size.height ≤ lower.doubledSize.height) :
    ∃ tile, lower.zoomed noise size minX minZ = .ok tile ∧ tile.Occupies minX minZ size ∧
      ∀ i j, i < size.width → j < size.height →
        lower.doubledCell noise (coarse minX) (coarse minZ) (phase minX + i) (phase minZ + j) =
          tile.get i j := by
  obtain ⟨cells, hmade, hsize, hread⟩ :=
    @exists_doubled lower noise (coarse minX) (coarse minZ) hlower hdoubled
  obtain ⟨values, hcut, hcount, hvalues⟩ :=
      @exists_cuts cells lower.doubledSize.width (phase minX) (phase minZ) size hwidth <| by
    rw [hsize, Size.cells, Nat.mul_comm lower.doubledSize.width]
    exact Nat.mul_le_mul_right _ hheight
  have hfull : values.size = size.cells := hcount.trans (Nat.mul_comm ..)
  refine ⟨⟨minX, minZ, size, values, hfull⟩, bind_eq_ok.mpr ⟨cells, hmade, ?_⟩, ⟨rfl, rfl, rfl⟩,
    fun i j hi hj => ?_⟩
  · rw [if_pos hcells]
    exact bind_eq_ok.mpr ⟨values, hcut, ofValues_eq_ok_iff.mpr
      ⟨Nat.lt_of_lt_of_le hcells cellLimit_le_wordLimit, hfull, ⟨rfl, rfl, rfl⟩, rfl⟩⟩
  · obtain ⟨value, hcell, hvalue⟩ := hread (phase minX + i) (phase minZ + j) (by omega) (by omega)
    rw [hcell]
    exact (get_eq_ok_iff.mpr ⟨⟨hi, hj⟩, (hvalues i j hi hj).trans hvalue⟩).symm

/-- What is made by doubling was cut from the doubled tile. -/
theorem exists_of_zoomed (h : lower.zoomed noise size minX minZ = .ok tile) :
    size.cells < cellLimit ∧ tile.Occupies minX minZ size ∧
      ∃ cells, lower.doubled noise (coarse minX) (coarse minZ) = .ok cells ∧ ∀ value ∈ tile.values,
        value ∈ cells := by
  obtain ⟨cells, hdoubled, h⟩ := bind_eq_ok.mp h
  split at h
  · rename_i hcells
    obtain ⟨values, hcut, h⟩ := bind_eq_ok.mp h
    obtain ⟨-, -, hat, rfl⟩ := ofValues_eq_ok_iff.mp h
    refine ⟨hcells, hat, cells, hdoubled,
      of_foldlM_eq_ok (fun values => ∀ value ∈ values, value ∈ cells) ?_ ?_ hcut⟩
    · intro values j later hvalues hrow value hmem
      obtain ⟨row, hslice, hrow⟩ := bind_eq_ok.mp hrow
      cases hrow
      rcases Array.mem_append.mp hmem with hmem | hmem
      · exact hvalues value hmem
      · unfold slice at hslice
        split at hslice
        · cases hslice
          obtain ⟨k, -, rfl⟩ := Array.mem_extract_iff_getElem.mp hmem
          exact Array.getElem_mem _
        · cases hslice
    · intro value hmem
      cases Array.not_mem_empty value hmem
  · cases h

/-- A tile made by doubling lies where it was asked for. -/
theorem occupies_of_zoomed (h : lower.zoomed noise size minX minZ = .ok tile) :
    tile.Occupies minX minZ size :=
  (exists_of_zoomed h).2.1

/-- A tile made by doubling has no other cells than the doubled tile. -/
theorem exists_doubledCell (h : lower.zoomed noise size minX minZ = .ok tile) {value : Cell}
    (hvalue : value ∈ tile.values) :
    ∃ x z, lower.doubledCell noise (coarse minX) (coarse minZ) x z = .ok value := by
  obtain ⟨-, -, cells, hdoubled, hmem⟩ := exists_of_zoomed h
  obtain ⟨hlower, hroom⟩ := of_doubled_eq_ok hdoubled
  obtain ⟨made, hmade, hsize, hread⟩ :=
    @exists_doubled lower noise (coarse minX) (coarse minZ) hlower hroom
  cases hdoubled.symm.trans hmade
  obtain ⟨i, hi, rfl⟩ := Array.mem_iff_getElem.mp (hmem value hvalue)
  obtain ⟨⟨hx, hz⟩, hindex⟩ := Size.place_of_lt (hsize ▸ hi)
  obtain ⟨found, hcell, hfound⟩ := hread _ _ hx hz
  rw [hindex, Array.getElem?_eq_getElem hi] at hfound
  cases hfound
  exact ⟨_, _, hcell⟩

/-- **Doubling.** Each cell of the finer tile is a cell of the doubled tile, counted from the phase
of the anchor on. -/
theorem cells_of_zoomed (hwidth : phase minX + size.width ≤ lower.doubledSize.width)
    (hheight : phase minZ + size.height ≤ lower.doubledSize.height)
    (h : lower.zoomed noise size minX minZ = .ok tile) :
    tile.Occupies minX minZ size ∧ ∀ i j, i < size.width → j < size.height →
      lower.doubledCell noise (coarse minX) (coarse minZ) (phase minX + i) (phase minZ + j) =
        tile.get i j := by
  obtain ⟨hcells, -, cells, hdoubled, -⟩ := exists_of_zoomed h
  obtain ⟨hlower, hroom⟩ := of_doubled_eq_ok hdoubled
  obtain ⟨made, hmade, hat, hread⟩ :=
    @exists_zoomed lower noise size minX minZ hlower hroom hcells hwidth hheight
  cases h.symm.trans hmade
  exact ⟨hat, hread⟩

end Grid
end BiomeAtlas
