import Mathlib.Algebra.Group.Int.Defs
import Mathlib.Algebra.Group.Nat.Defs
import BiomeAtlas.Pipeline
import BiomeAtlas.Proofs.Coordinates
import BiomeAtlas.Proofs.Pasting
import BiomeAtlas.Proofs.Tile
import BiomeAtlas.Proofs.Wiring

/-! # Tiles side by side

The tiles of a region have one size and lie side by side (`Layout`). As long as no two columns of
the region have the same coordinate, each tile has a place of its own. So pasting one writes its own
cells and no others (`Layout.Fits.shows_paste`), and it does not matter in which order, or how
often, the tiles are pasted.
-/
namespace BiomeAtlas

/-- Adjacent tiles of one size. -/
structure Layout where
  minX : Coord
  minZ : Coord
  tile : Size
  tilesX : Nat
  tilesZ : Nat

namespace Layout

/-- The size of all tiles together. -/
def size (layout : Layout) : Size :=
  ⟨layout.tilesX * layout.tile.width, layout.tilesZ * layout.tile.height⟩

/-- The first coordinate of a column of tiles. -/
def anchorX (layout : Layout) (tx : Nat) : Coord :=
  layout.minX + Int32.ofNat (tx * layout.tile.width)

/-- The first coordinate of a row of tiles. -/
def anchorZ (layout : Layout) (tz : Nat) : Coord :=
  layout.minZ + Int32.ofNat (tz * layout.tile.height)

/-- The tile is one of those that lie side by side. -/
def Has (layout : Layout) (tx tz : Nat) : Prop :=
  tx < layout.tilesX ∧ tz < layout.tilesZ

/-- There are no columns or rows that have the same coordinate. -/
structure Narrow (layout : Layout) : Prop where
  width_lt : layout.size.width < 2 ^ 32
  height_lt : layout.size.height < 2 ^ 32
  nonempty : layout.tile.isEmpty = false

/-- There are no columns or rows that have the same coordinate, and the cells can be stored. -/
structure Fits (layout : Layout) : Prop where
  width_lt : layout.size.width < 2 ^ 32
  height_lt : layout.size.height < 2 ^ 32
  cells_lt : layout.size.cells < cellLimit
  nonempty : layout.tile.isEmpty = false

/-- A column lies in one column of tiles only. -/
theorem block_iff {width a b i : Nat} (hi : i < width) :
    (a * width ≤ b * width + i ∧ b * width + i < a * width + width) ↔ b = a := by
  constructor
  · rintro ⟨hle, hlt⟩
    have hblock : (b * width + i) / width = a := Nat.div_eq_of_lt_le hle (by rwa [Nat.succ_mul])
    rw [Nat.add_comm, (mod_div_of_lt hi).2] at hblock
    exact hblock
  · rintro rfl
    omega

/-- The place of a column of tiles is inside the region. -/
theorem block_le {width a n : Nat} (h : a < n) : a * width + width ≤ n * width := by
  rw [← Nat.succ_mul]
  exact Nat.mul_le_mul_right width h

variable {layout : Layout} {root : Stage} {region tile : Grid} {tx tz : Nat}

/-- Neither the sides of the region nor the number of tiles leave the range of a word. -/
theorem Narrow.words (h : layout.Narrow) : ¬ (wordLimit ≤ layout.tilesX * layout.tile.width ∨
    wordLimit ≤ layout.tilesZ * layout.tile.height ∨
    wordLimit ≤ layout.tilesX * layout.tilesZ) := by
  obtain ⟨hnonemptyX, hnonemptyZ⟩ := Size.isEmpty_eq_false_iff.mp h.nonempty
  have hwidth : layout.tilesX * layout.tile.width < 2 ^ 32 := h.width_lt
  have hheight : layout.tilesZ * layout.tile.height < 2 ^ 32 := h.height_lt
  have hX := Nat.le_mul_of_pos_right layout.tilesX (Nat.pos_of_ne_zero hnonemptyX)
  have hZ := Nat.le_mul_of_pos_right layout.tilesZ (Nat.pos_of_ne_zero hnonemptyZ)
  have hcount : layout.tilesX * layout.tilesZ < 2 ^ 32 * 2 ^ 32 :=
    Nat.mul_lt_mul'' (Nat.lt_of_le_of_lt hX hwidth) (Nat.lt_of_le_of_lt hZ hheight)
  have hword : wordLimit = 2 ^ 32 * 2 ^ 32 := by decide
  omega

/-- Nor does the number of cells. -/
theorem Narrow.cells_lt (h : layout.Narrow) : layout.size.cells < wordLimit := by
  have hcells : layout.size.cells < 2 ^ 32 * 2 ^ 32 := Nat.mul_lt_mul'' h.width_lt h.height_lt
  have hword : wordLimit = 2 ^ 32 * 2 ^ 32 := by decide
  omega

theorem Narrow.fits (h : layout.Narrow) (hcells : layout.size.cells < cellLimit) : layout.Fits :=
  ⟨h.width_lt, h.height_lt, hcells, h.nonempty⟩

theorem Fits.narrow (h : layout.Fits) : layout.Narrow :=
  ⟨h.width_lt, h.height_lt, h.nonempty⟩

theorem mem_anchors_iff {x z : Coord} :
    (x, z) ∈ Pipeline.anchors layout.tile layout.minX layout.minZ layout.tilesX layout.tilesZ ↔
      ∃ tx tz, layout.Has tx tz ∧ x = layout.anchorX tx ∧ z = layout.anchorZ tz := by
  rw [Pipeline.anchors, List.mem_map]
  constructor
  · rintro ⟨i, hi, hanchor⟩
    have hi := List.mem_range.mp hi
    have hpos : 0 < layout.tilesX := Nat.pos_of_ne_zero fun h0 => by simp [h0] at hi
    obtain ⟨rfl, rfl⟩ := Prod.mk.inj hanchor
    exact ⟨i % layout.tilesX, i / layout.tilesX,
      ⟨Nat.mod_lt _ hpos, Nat.div_lt_of_lt_mul hi⟩, rfl, rfl⟩
  · rintro ⟨tx, tz, ⟨hx, hz⟩, rfl, rfl⟩
    refine ⟨tx + tz * layout.tilesX, List.mem_range.mpr ?_, ?_⟩
    · have hle := @block_le layout.tilesX tz layout.tilesZ hz
      rw [Nat.mul_comm layout.tilesX]
      omega
    · obtain ⟨hcolumn, hrow⟩ := @mod_div_of_lt layout.tilesX tx tz hx
      rw [hcolumn, hrow]
      rfl

/-- The region shows the cells of the tile. -/
def Shows (layout : Layout) (root : Stage) (region : Grid) (tx tz : Nat) : Prop :=
  ∀ tile, root.tile (layout.anchorX tx) (layout.anchorZ tz) = .ok tile →
    ∀ i j, i < layout.tile.width → j < layout.tile.height →
      region.get (tx * layout.tile.width + i) (tz * layout.tile.height + j) = tile.get i j

/-- A tile of the region is pasted at its place. -/
theorem Fits.localIndex?_eq (h : layout.Fits) (hhas : layout.Has tx tz)
    (hregion : region.Occupies layout.minX layout.minZ layout.size)
    (htile : root.tile (layout.anchorX tx) (layout.anchorZ tz) = .ok tile) :
    region.localIndex? tile.minX tile.minZ =
      some (tx * layout.tile.width, tz * layout.tile.height) := by
  have hat := Stage.tile_occupies htile
  obtain ⟨hnonemptyX, hnonemptyZ⟩ := Size.isEmpty_eq_false_iff.mp h.nonempty
  have hx := @block_le layout.tile.width tx layout.tilesX hhas.1
  have hz := @block_le layout.tile.height tz layout.tilesZ hhas.2
  have hwidth := h.width_lt
  have hheight := h.height_lt
  simp only [size] at hwidth hheight
  rw [Grid.localIndex?_eq_some_iff, hregion.size_eq, hregion.minX_eq, hregion.minZ_eq, hat.minX_eq,
    hat.minZ_eq, anchorX, anchorZ, distance_add_ofNat (by omega), distance_add_ofNat (by omega)]
  refine ⟨?_, rfl, rfl⟩
  simp only [size]
  omega

/-- No tile belongs to two places. -/
theorem Fits.place_unique (h : layout.Fits) {tx' tz' : Nat} (hhas : layout.Has tx tz)
    (hhas' : layout.Has tx' tz') (hregion : region.Occupies layout.minX layout.minZ layout.size)
    (htile : root.tile (layout.anchorX tx) (layout.anchorZ tz) = .ok tile)
    (htile' : root.tile (layout.anchorX tx') (layout.anchorZ tz') = .ok tile) :
    tx' = tx ∧ tz' = tz := by
  obtain ⟨hnonemptyX, hnonemptyZ⟩ := Size.isEmpty_eq_false_iff.mp h.nonempty
  have hplaces :=
    (h.localIndex?_eq hhas' hregion htile').symm.trans (h.localIndex?_eq hhas hregion htile)
  obtain ⟨hcolumn, hrow⟩ := Prod.mk.inj (Option.some.inj hplaces)
  exact ⟨Nat.eq_of_mul_eq_mul_right (Nat.pos_of_ne_zero hnonemptyX) hcolumn,
    Nat.eq_of_mul_eq_mul_right (Nat.pos_of_ne_zero hnonemptyZ) hrow⟩

/-- **Pasting a tile of the region** is possible, and from then on the region shows it, besides
those it has shown before. -/
theorem Fits.shows_paste (h : layout.Fits) (hsize : root.size = layout.tile)
    (hhas : layout.Has tx tz) (hregion : region.Occupies layout.minX layout.minZ layout.size)
    (htile : root.tile (layout.anchorX tx) (layout.anchorZ tz) = .ok tile) :
    ∃ pasted, region.paste tile = .ok pasted ∧ pasted.Occupies layout.minX layout.minZ layout.size ∧
      ∀ tx' tz', layout.Has tx' tz' →
        layout.Shows root region tx' tz' ∨
        root.tile (layout.anchorX tx') (layout.anchorZ tz') = .ok tile →
        layout.Shows root pasted tx' tz' := by
  have hplace := h.localIndex?_eq hhas hregion htile
  have htileSize := (Stage.tile_occupies htile).size_eq
  rw [hsize] at htileSize
  have hcovers :
      region.covers (tx * layout.tile.width) (tz * layout.tile.height) tile.size = .ok true := by
    have hx := @block_le layout.tile.width tx layout.tilesX hhas.1
    have hz := @block_le layout.tile.height tz layout.tilesZ hhas.2
    have hwidth := h.width_lt
    have hheight := h.height_lt
    have hword : 2 ^ 32 < wordLimit := by decide
    rw [Grid.covers_eq_true_iff, hregion.size_eq, htileSize]
    simp only [size] at hwidth hheight ⊢
    omega
  obtain ⟨pasted, hpaste⟩ := Grid.exists_paste_iff.mpr ⟨_, _, hplace, hcovers⟩
  obtain ⟨_, _, -, -, hat, -⟩ := Grid.paste_eq_ok hpaste
  rw [hregion.minX_eq, hregion.minZ_eq, hregion.size_eq] at hat
  refine ⟨pasted, hpaste, hat, fun tx' tz' hhas' hshows found hfound i j hi hj => ?_⟩
  have hx' := @block_le layout.tile.width tx' layout.tilesX hhas'.1
  have hz' := @block_le layout.tile.height tz' layout.tilesZ hhas'.2
  rw [Grid.get_of_paste hpaste hplace (by rw [hregion.size_eq]; simp only [size]; omega)
    (by rw [hregion.size_eq]; simp only [size]; omega), htileSize]
  simp only [block_iff hi, block_iff hj]
  by_cases hsame : tx' = tx ∧ tz' = tz
  · obtain ⟨rfl, rfl⟩ := hsame
    cases htile.symm.trans hfound
    rw [if_pos ⟨rfl, rfl⟩, Nat.add_sub_cancel_left, Nat.add_sub_cancel_left]
  · -- the cells of a tile that lies elsewhere are not under this one
    rw [if_neg hsame]
    rcases hshows with hshows | htile'
    · exact hshows found hfound i j hi hj
    · exact absurd (h.place_unique hhas hhas' hregion htile htile') hsame

/-- Every cell of a region is a cell of one of its tiles. -/
theorem Fits.position (h : layout.Fits) {x z : Nat} (hx : x < layout.size.width)
    (hz : z < layout.size.height) :
    layout.Has (x / layout.tile.width) (z / layout.tile.height) ∧
    x % layout.tile.width < layout.tile.width ∧
      z % layout.tile.height < layout.tile.height := by
  obtain ⟨hwidth, hheight⟩ := Size.isEmpty_eq_false_iff.mp h.nonempty
  refine ⟨⟨Nat.div_lt_of_lt_mul ?_, Nat.div_lt_of_lt_mul ?_⟩,
    Nat.mod_lt _ (Nat.pos_of_ne_zero hwidth), Nat.mod_lt _ (Nat.pos_of_ne_zero hheight)⟩
  · rw [Nat.mul_comm]; exact hx
  · rw [Nat.mul_comm]; exact hz

/-- A region that shows all its tiles holds their cells. -/
theorem Fits.get_of_shows (h : layout.Fits)
    (hshows : ∀ tx tz, layout.Has tx tz → layout.Shows root region tx tz) {x z : Nat}
    (hx : x < layout.size.width) (hz : z < layout.size.height)
    (htile : root.tile (layout.anchorX (x / layout.tile.width))
      (layout.anchorZ (z / layout.tile.height)) = .ok tile) :
    region.get x z = tile.get (x % layout.tile.width) (z % layout.tile.height) := by
  obtain ⟨hhas, hcolumn, hrow⟩ := h.position hx hz
  have hcell := hshows _ _ hhas tile htile _ _ hcolumn hrow
  rwa [Nat.div_add_mod', Nat.div_add_mod'] at hcell

end Layout

end BiomeAtlas
