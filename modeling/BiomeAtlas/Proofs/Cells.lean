import BiomeAtlas.Grid.Window

/-! # Tiles, cell by cell

A grid is its anchor, its size and what `Grid.get` reads at each local position. This module says
once, for every way of making a grid by a rule, when it succeeds and which cells it makes:
`Grid.tabulate_eq_ok_iff` for the evaluation of a rule at every position, and from it
`mapColumns_eq_ok_iff` and `blend_eq_ok_iff`. Nothing after it looks at the order of evaluation.

World columns are the second view. A column inside a grid has one local position
(`localIndex?_eq_some_iff`), and reading the column is reading that position
(`getWorld?_eq_toOption`).
-/
namespace BiomeAtlas

/-- A computation that continues another one succeeds if, and only if, both succeed. -/
theorem bind_eq_ok {ε α β : Type} {x : Except ε α} {f : α → Except ε β} {b : β} :
    (x >>= f) = .ok b ↔ ∃ a, x = .ok a ∧ f a = .ok b := by
  cases x with
  | error e =>
      constructor
      · intro h; cases h
      · rintro ⟨_, h, _⟩; cases h
  | ok a =>
      constructor
      · intro h; exact ⟨a, rfl, h⟩
      · rintro ⟨_, h, hb⟩; cases h; exact hb

/-- Evaluating at every index succeeds if, and only if, the evaluation at each index does. -/
theorem ofFnM_eq_ok_iff {ε α : Type} : ∀ {n : Nat} {f : Fin n → Except ε α} {values : Vector α n},
    Vector.ofFnM f = .ok values ↔ ∀ i : Fin n, f i = .ok values[i]
  | 0, f, values => by
      rw [Vector.ofFnM_zero, show values = #v[] from Vector.eq_empty]
      exact ⟨fun _ i => i.elim0, fun _ => rfl⟩
  | n + 1, f, values => by
      rw [Vector.ofFnM_succ]
      constructor
      · intro h i
        obtain ⟨front, hfront, h⟩ := bind_eq_ok.mp h
        obtain ⟨last, hlast, h⟩ := bind_eq_ok.mp h
        cases h
        rw [ofFnM_eq_ok_iff] at hfront
        cases i using Fin.lastCases with
        | last => simpa using hlast
        | cast i => simpa using hfront i
      · intro h
        have hfront : Vector.ofFnM (fun i : Fin n => f i.castSucc) = .ok values.pop := by
          rw [ofFnM_eq_ok_iff]
          intro i
          simpa using h i.castSucc
        have hlast : f (Fin.last n) = .ok values.back := by
          simpa [Vector.back] using h (Fin.last n)
        rw [hfront]
        refine bind_eq_ok.mpr ⟨_, rfl, bind_eq_ok.mpr ⟨_, hlast, ?_⟩⟩
        exact congrArg Except.ok (Vector.push_pop_back values)

/-- Counting row by row, the position is found back from the count. -/
theorem mod_div_of_lt {width x z : Nat} (hx : x < width) :
    (x + z * width) % width = x ∧ (x + z * width) / width = z := by
  rw [Nat.add_mul_mod_self_right, Nat.mod_eq_of_lt hx,
    Nat.add_mul_div_right _ _ (Nat.zero_lt_of_lt hx), Nat.div_eq_of_lt hx,
    Nat.zero_add]
  exact ⟨rfl, rfl⟩

theorem cellLimit_le_wordLimit : cellLimit ≤ wordLimit := by decide

/-- Every place of a size has an index among its cells. -/
theorem Size.place_lt {size : Size} {x z : Nat} (hx : x < size.width) (hz : z < size.height) :
    x + z * size.width < size.cells :=
  calc x + z * size.width < size.width + z * size.width := Nat.add_lt_add_right hx _
    _ = (z + 1) * size.width := by rw [Nat.succ_mul, Nat.add_comm]
    _ ≤ size.height * size.width := Nat.mul_le_mul_right _ hz
    _ = size.width * size.height := Nat.mul_comm ..

/-- Every index belongs to a place. -/
theorem Size.place_of_lt {size : Size} {i : Nat} (hi : i < size.cells) :
    (i % size.width < size.width ∧ i / size.width < size.height) ∧
    i % size.width + i / size.width * size.width = i := by
  have hcells : i < size.width * size.height := hi
  have hwidth : 0 < size.width := Nat.pos_of_ne_zero fun h0 => by simp [h0] at hcells
  refine ⟨⟨Nat.mod_lt _ hwidth, Nat.div_lt_of_lt_mul hcells⟩, ?_⟩
  rw [Nat.mul_comm]
  exact Nat.mod_add_div i _

namespace Grid
variable {grid tile : Grid} {minX minZ : Coord} {size : Size} {x z : Nat} {value : Cell}

/-! ## Single cells -/

theorem index_lt (hx : x < grid.size.width) (hz : z < grid.size.height) :
    grid.index x z < grid.values.size := by
  rw [grid.size_values]
  exact Size.place_lt hx hz

theorem get_eq_ok_iff : grid.get x z = .ok value ↔
    (x < grid.size.width ∧ z < grid.size.height) ∧ grid.values[grid.index x z]? = some value := by
  unfold get
  by_cases h : x < grid.size.width ∧ z < grid.size.height
  · rw [if_pos h]
    cases hv : grid.values[grid.index x z]? with
    | none => simp
    | some v => simp [h]
  · rw [if_neg h]
    simp [h]

/-- Every position inside a grid holds a value. -/
theorem exists_get (hx : x < grid.size.width) (hz : z < grid.size.height) :
    ∃ value, grid.get x z = .ok value := by
  have hi := index_lt hx hz
  exact ⟨grid.values[grid.index x z], get_eq_ok_iff.mpr ⟨⟨hx, hz⟩, Array.getElem?_eq_getElem hi⟩⟩

theorem get_lt (h : grid.get x z = .ok value) : x < grid.size.width ∧ z < grid.size.height :=
  (get_eq_ok_iff.mp h).1

/-- Each place in the list of values belongs to a position. -/
theorem position_of_lt {i : Nat} (hi : i < grid.values.size) :
    (i % grid.size.width < grid.size.width ∧ i / grid.size.width < grid.size.height) ∧
      grid.index (i % grid.size.width) (i / grid.size.width) = i :=
  Size.place_of_lt (grid.size_values ▸ hi)

/-- Each value of a grid is read at some position. -/
theorem exists_get_of_mem (h : value ∈ grid.values) : ∃ x z, grid.get x z = .ok value := by
  obtain ⟨i, hi, rfl⟩ := Array.mem_iff_getElem.mp h
  obtain ⟨hinside, hindex⟩ := position_of_lt hi
  refine ⟨_, _, get_eq_ok_iff.mpr ⟨hinside, ?_⟩⟩
  rw [hindex]
  exact Array.getElem?_eq_getElem hi

theorem mem_of_get (h : grid.get x z = .ok value) : value ∈ grid.values :=
  Array.mem_of_getElem? (get_eq_ok_iff.mp h).2

/-- The position is found back from the place in the list of values. -/
theorem mod_div_index (hx : x < grid.size.width) :
    grid.index x z % grid.size.width = x ∧ grid.index x z / grid.size.width = z :=
  mod_div_of_lt hx

/-- Different positions have different places in the list of values. -/
theorem index_inj {x' z' : Nat} (hx : x < grid.size.width) (hx' : x' < grid.size.width)
    (h : grid.index x z = grid.index x' z') : x = x' ∧ z = z' := by
  obtain ⟨hcolumn, hrow⟩ := @mod_div_index grid x z hx
  obtain ⟨hcolumn', hrow'⟩ := @mod_div_index grid x' z' hx'
  rw [h] at hcolumn hrow
  exact ⟨hcolumn.symm.trans hcolumn', hrow.symm.trans hrow'⟩

/-! ## Whole grids -/

/-- Where a grid lies: its anchor and its size. -/
structure Occupies (grid : Grid) (minX minZ : Coord) (size : Size) : Prop where
  minX_eq : grid.minX = minX
  minZ_eq : grid.minZ = minZ
  size_eq : grid.size = size

/-- Overwriting a cell succeeds inside the grid, and changes that cell only. -/
theorem set_eq_ok_iff : grid.set x z value = .ok tile ↔
    (x < grid.size.width ∧ z < grid.size.height) ∧ tile.Occupies grid.minX grid.minZ grid.size ∧
      tile.values = grid.values.setIfInBounds (grid.index x z) value := by
  unfold set
  split
  · rename_i h
    constructor
    · intro he
      cases he
      exact ⟨h, ⟨rfl, rfl, rfl⟩, rfl⟩
    · rintro ⟨-, ⟨hminX, hminZ, hsize⟩, hvalues⟩
      cases tile
      cases hminX; cases hminZ; cases hsize; cases hvalues
      rfl
  · rename_i h
    constructor
    · intro he; cases he
    · rintro ⟨h', _⟩; exact absurd h' h

theorem get_of_set (h : grid.set x z value = .ok tile) {i j : Nat} (hi : i < grid.size.width) :
    tile.get i j = if i = x ∧ j = z then .ok value else grid.get i j := by
  obtain ⟨⟨hx, hz⟩, hat, hvalues⟩ := set_eq_ok_iff.mp h
  have hindex : tile.index i j = grid.index i j := by rw [index, index, hat.size_eq]
  unfold get
  rw [hindex, hat.size_eq, hvalues]
  by_cases hij : i = x ∧ j = z
  · obtain ⟨rfl, rfl⟩ := hij
    rw [if_pos ⟨hx, hz⟩, if_pos ⟨rfl, rfl⟩, Array.getElem?_setIfInBounds_self,
      if_pos (index_lt hx hz)]
  · have hne : grid.index x z ≠ grid.index i j := by
      intro he
      obtain ⟨rfl, rfl⟩ := index_inj hx hi he
      exact hij ⟨rfl, rfl⟩
    rw [if_neg hij, Array.getElem?_setIfInBounds_ne hne]

/-- A grid of zeros, if memory can hold it. -/
theorem exists_zero (hroom : size.cells < cellLimit) :
    ∃ blank, zero minX minZ size = .ok blank ∧ blank.Occupies minX minZ size ∧
      ∀ i j, i < size.width → j < size.height → blank.get i j = .ok 0 := by
  refine ⟨_, if_pos hroom, ⟨rfl, rfl, rfl⟩, fun i j hi hj => get_eq_ok_iff.mpr ⟨⟨hi, hj⟩, ?_⟩⟩
  exact Array.getElem?_replicate.trans (if_pos (Size.place_lt hi hj))

/-- **Evaluating a rule at every position.** The grid is there if its cells can be stored and the
rule succeeds everywhere, and then each cell is what the rule says. -/
theorem tabulate_eq_ok_iff {cell : Nat → Nat → Except Fault Cell} :
    tabulate minX minZ size cell = .ok grid ↔
      size.cells < cellLimit ∧ grid.Occupies minX minZ size ∧
        ∀ x z, x < size.width → z < size.height → cell x z = grid.get x z := by
  unfold tabulate
  split
  · rename_i hroom
    constructor
    · intro h
      obtain ⟨values, hvalues, h⟩ := bind_eq_ok.mp h
      cases h
      rw [ofFnM_eq_ok_iff] at hvalues
      refine ⟨hroom, ⟨rfl, rfl, rfl⟩, fun x z hx hz => ?_⟩
      have hi : x + z * size.width < size.cells := by
        have := @index_lt ⟨minX, minZ, size, values.toArray, values.size_toArray⟩ x z hx hz
        rwa [Vector.size_toArray] at this
      have hcell := hvalues ⟨x + z * size.width, hi⟩
      obtain ⟨hcolumn, hrow⟩ := @mod_div_of_lt size.width x z hx
      simp only [hcolumn, hrow] at hcell
      rw [hcell]
      refine (get_eq_ok_iff.mpr ⟨⟨hx, hz⟩, ?_⟩).symm
      rw [index, Array.getElem?_eq_getElem (by simpa using hi)]
      simp
    · rintro ⟨-, ⟨rfl, rfl, rfl⟩, hcell⟩
      have hvector : Vector.ofFnM (fun i : Fin grid.size.cells =>
          cell (i % grid.size.width) (i / grid.size.width)) =
          .ok (⟨grid.values, grid.size_values⟩ : Vector Cell grid.size.cells) := by
        rw [ofFnM_eq_ok_iff]
        intro i
        have hi : i < grid.size.width * grid.size.height := i.isLt
        have hwidth : 0 < grid.size.width := Nat.pos_of_ne_zero fun h0 => by simp [h0] at hi
        have hx := Nat.mod_lt i.val hwidth
        have hz := Nat.div_lt_of_lt_mul hi
        rw [hcell _ _ hx hz, get_eq_ok_iff]
        refine ⟨⟨hx, hz⟩, ?_⟩
        rw [index, Nat.mul_comm, Nat.mod_add_div,
          Array.getElem?_eq_getElem (by rw [grid.size_values]; exact i.isLt)]
        rfl
      rw [hvector]
      rfl
  · rename_i hroom
    constructor
    · intro h; cases h
    · rintro ⟨h, _⟩; exact absurd h hroom

theorem mapColumns_eq_ok_iff {firstX firstZ : Coord}
    {rule : Cell → Coord → Coord → Except Fault Cell} :
    grid.mapColumns firstX firstZ rule = .ok tile ↔
      grid.size.cells < cellLimit ∧ tile.Occupies grid.minX grid.minZ grid.size ∧
        ∀ x z value, grid.get x z = .ok value →
          rule value (firstX + Int32.ofNat x) (firstZ + Int32.ofNat z) = tile.get x z := by
  unfold mapColumns
  rw [tabulate_eq_ok_iff]
  refine and_congr_right fun _ => and_congr_right fun _ =>
    ⟨fun h x z value hv => ?_, fun h x z hx hz => ?_⟩
  · rw [← h x z (get_lt hv).1 (get_lt hv).2, hv]
    rfl
  · obtain ⟨value, hv⟩ := exists_get hx hz
    rw [← h x z value hv, hv]
    rfl

/-- Combining two grids succeeds if the second one covers the first. -/
theorem blend_eq_ok_iff {overlay : Grid} {rule : Cell → Cell → Cell} :
    grid.blend overlay rule = .ok tile ↔
      grid.size.cells < cellLimit ∧ tile.Occupies grid.minX grid.minZ grid.size ∧
        ∀ x z value, grid.get x z = .ok value →
          ∃ other, overlay.get x z = .ok other ∧ tile.get x z = .ok (rule value other) := by
  unfold blend
  rw [tabulate_eq_ok_iff]
  refine and_congr_right fun _ => and_congr_right fun hat =>
    ⟨fun h x z value hv => ?_, fun h x z hx hz => ?_⟩
  · have hcell := h x z (get_lt hv).1 (get_lt hv).2
    obtain ⟨made, hmade⟩ : ∃ made, tile.get x z = .ok made :=
      exists_get (hat.size_eq ▸ (get_lt hv).1) (hat.size_eq ▸ (get_lt hv).2)
    rw [hmade, hv] at hcell
    change (overlay.get x z >>= fun other => .ok (rule value other)) = .ok made at hcell
    obtain ⟨other, hother, hcell⟩ := bind_eq_ok.mp hcell
    cases hcell
    exact ⟨other, hother, hmade⟩
  · obtain ⟨value, hv⟩ := exists_get hx hz
    obtain ⟨other, hother, hmade⟩ := h x z value hv
    rw [hmade, hv, hother]
    rfl

theorem reaches_eq_true_iff {start extent limit : Nat} :
    reaches start extent limit = .ok true ↔ start + extent < wordLimit ∧
    start + extent ≤ limit := by
  unfold reaches
  split
  · rename_i h
    simp [h]
  · rename_i h
    simp [h]

theorem covers_eq_true_iff : grid.covers x z size = .ok true ↔
    (x + size.width < wordLimit ∧ x + size.width ≤ grid.size.width) ∧
      (z + size.height < wordLimit ∧ z + size.height ≤ grid.size.height) := by
  unfold covers
  rw [bind_eq_ok, ← reaches_eq_true_iff, ← reaches_eq_true_iff]
  constructor
  · rintro ⟨inside, hinside, h⟩
    cases inside with
    | false => cases h
    | true => exact ⟨hinside, h⟩
  · rintro ⟨hx, hz⟩
    exact ⟨true, hx, hz⟩

/-! ## World columns -/

/-- A world column inside a grid lies at exactly one local position. -/
theorem localIndex?_eq_some_iff {column row : Coord} : grid.localIndex? column row = some (x, z) ↔
    (x < grid.size.width ∧ z < grid.size.height) ∧
      x = (column - grid.minX).toUInt32.toNat ∧ z = (row - grid.minZ).toUInt32.toNat := by
  simp only [localIndex?]
  split
  · rename_i h
    simp only [Option.some.injEq, Prod.mk.injEq]
    constructor
    · rintro ⟨rfl, rfl⟩; exact ⟨h, rfl, rfl⟩
    · rintro ⟨-, rfl, rfl⟩; exact ⟨rfl, rfl⟩
  · rename_i h
    constructor
    · intro he; cases he
    · rintro ⟨hin, rfl, rfl⟩; exact absurd hin h

theorem containsWorld_eq_true_iff {column row : Coord} : grid.containsWorld column row = true ↔
    (column - grid.minX).toUInt32.toNat < grid.size.width ∧
    (row - grid.minZ).toUInt32.toNat < grid.size.height := by
  simp only [containsWorld, localIndex?]
  split
  · rename_i h
    exact iff_of_true rfl h
  · rename_i h
    exact iff_of_false (by simp) h

/-- Counting from a coordinate the distance to another one leads there. -/
theorem add_ofNat_distance (start column : Coord) :
    start + Int32.ofNat (column - start).toUInt32.toNat = column := by
  have : Int32.ofNat (column - start).toUInt32.toNat = column - start := by
    rw [← Int32.toBitVec_inj]
    simp
  rw [this, Int32.add_comm, Int32.sub_add_cancel]

/-- Reading a world column is reading its local position, if it has one. -/
theorem getWorld?_eq_toOption {column row : Coord}
    (hplace : grid.localIndex? column row = some (x, z)) :
    grid.getWorld? column row = (grid.get x z).toOption := by
  obtain ⟨⟨hx, hz⟩, -⟩ := localIndex?_eq_some_iff.mp hplace
  obtain ⟨value, hvalue⟩ := exists_get hx hz
  rw [getWorld?, hplace, hvalue]
  exact (get_eq_ok_iff.mp hvalue).2

/-- Every world column inside a grid has a local position with a value. -/
theorem getWorld?_eq_get {column row : Coord} (h : grid.containsWorld column row = true) :
    ∃ x z value, grid.worldX x = column ∧ grid.worldZ z = row ∧
      grid.get x z = .ok value ∧ grid.getWorld? column row = some value := by
  obtain ⟨⟨x, z⟩, hxz⟩ := Option.isSome_iff_exists.mp h
  obtain ⟨⟨hx, hz⟩, hcolumn, hrow⟩ := localIndex?_eq_some_iff.mp hxz
  obtain ⟨value, hv⟩ := exists_get hx hz
  refine ⟨x, z, value, ?_, ?_, hv, ?_⟩
  · rw [worldX, hcolumn, add_ofNat_distance]
  · rw [worldZ, hrow, add_ofNat_distance]
  · rw [getWorld?_eq_toOption hxz, hv]
    rfl

end Grid
end BiomeAtlas
