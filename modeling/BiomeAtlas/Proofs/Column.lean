import BiomeAtlas.Proofs.Coordinates
import BiomeAtlas.Proofs.Plan

/-! # Columns

A stage is asked for tiles, but what it puts into a cell only depends on the world column of the
cell. `Stage.column` says which value that is, by recursion on the stage and without mentioning
sizes, anchors or tiles; `Chain.column` says it for the stage that a chain makes.

What a tile holds at a place inside it is said first, at any anchor: `Stage.cellAt`
(`Stage.holds_tile`). That a tile shows the column function (`Stage.shows_tile`) is then a matter of
coordinates. It does as long as the tile and two columns for every stage around it do not wrap
(`Unwrapped`); the halos of cross rules and the interpolation of doublings stay inside that margin.
Nothing is said here of tiles that wrap, where a doubling halves the anchor once and then counts on.
-/
namespace BiomeAtlas

/-! ## Column functions -/

/-- A draw, and temperate land at the origin of the world where the source settles it. -/
def Source.column (source : Source) (noise : Noise) (x z : Coord) : Cell :=
  if source.settlesOrigin = true ∧ x = 0 ∧ z = 0 then Group.temperate.id else source.draw noise x z

/-- The doubling of a column function: the column of the block, and next to it an interpolation that
the noise decides at the corner of the block. -/
def doubledColumn (noise : Noise) (lower : Coord → Coord → Cell) (x z : Coord) : Cell :=
  let (a, b) := (coarse x, coarse z)
  match phase x, phase z with
  | 0, 0 => lower a b
  | 0, _ => noise.chooseTwo (a * 2) (b * 2 + 1) (lower a b) (lower a (b + 1))
  | _, 0 => noise.chooseTwo (a * 2) (b * 2 - 1) (lower a b) (lower (a + 1) b)
  | _, _ =>
      noise.chooseFour (a * 2) (b * 2) (lower a b) (lower (a + 1) b) (lower a (b + 1))
        (lower (a + 1) (b + 1))

/-- The cross around a column. -/
def Cross.at (input : Coord → Coord → Cell) (x z : Coord) : Cross where
  center := input x z
  above := input x (z - 1)
  below := input x (z + 1)
  left := input (x - 1) z
  right := input (x + 1) z

/-- What a cell rule makes of a value; a value that nothing can be drawn for stays as it is. -/
def CellRule.value (rule : CellRule) (noise : Noise) (value : Cell) (x z : Coord) : Cell :=
  match rule.apply noise value x z with
  | .ok made => made
  | .error _ => value

/-- **The column function of a stage**: the value it puts at a world column. -/
def Stage.column : Stage → Coord → Coord → Cell
  | source rule noise _ => rule.column noise
  | sampled _ _ _ field => field
  | zoom noise _ coarser => doubledColumn noise coarser.column
  | cross rule noise _ input => fun x z => rule.apply noise (Cross.at input.column x z) x z
  | cell rule noise input => fun x z => rule.value noise (input.column x z) x z
  | blend rule base overlay => fun x z => rule.apply (base.column x z) (overlay.column x z)
  | cached _ input => input.column

/-- The column function of one step, over that of the steps before it. -/
def Layer.column (layer : Layer) (noise : Noise) (input : Coord → Coord → Cell) :
    Coord → Coord → Cell :=
  match layer with
  | .source rule => rule.column noise
  | .zoom => doubledColumn noise input
  | .cross rule => fun x z => rule.apply noise (Cross.at input x z) x z
  | .cell rule => fun x z => rule.value noise (input x z) x z

/-- **The column function of a chain** for a folded world seed. -/
def Chain.column : Chain → Int32 → Coord → Coord → Cell
  | empty, _ => fun _ _ => 0
  | stage before layer offset, folded =>
      layer.column ⟨stageSeed folded offset⟩ (before.column folded)
  | blend before rule secondary offset, folded => fun x z =>
    rule.apply (before.column folded x z) (secondary.column (stageSeed folded offset) x z)

/-- The size a chain is built at does not show in the columns. -/
theorem Chain.Makes.column_eq {chain : Chain} {folded : Int32} {size : Size} {made : Stage}
    (h : chain.Makes folded size made) : made.column = chain.column folded := by
  induction h with
  | source h => obtain ⟨-, -, rfl⟩ := Stage.ofSource_eq_ok_iff.mp h; rfl
  | zoom _ h ih =>
      obtain ⟨-, -, rfl⟩ := Stage.ofZoom_eq_ok_iff.mp h
      simp only [Stage.column, column, Layer.column, ih]
  | cross _ _ h ih =>
      obtain ⟨-, -, -, rfl⟩ := Stage.ofCross_eq_ok_iff.mp h
      simp only [Stage.column, column, Layer.column, ih]
  | cell _ h ih =>
      obtain ⟨-, rfl⟩ := Stage.ofCell_eq_ok_iff.mp h
      simp only [Stage.column, column, Layer.column, ih]
  | blend _ _ h ih ih' =>
      obtain ⟨-, -, rfl⟩ := Stage.ofBlend_eq_ok_iff.mp h
      simp only [Stage.column, column, ih, ih']

/-! ## Tiles, place by place -/

theorem doubledColumn_eq (noise : Noise) (lower : Coord → Coord → Cell) (x z : Coord) :
    doubledColumn noise lower x z =
      noise.interpolate (coarse x * 2) (coarse z * 2) (phase x) (phase z)
      (lower (coarse x) (coarse z)) (lower (coarse x + 1) (coarse z))
        (lower (coarse x) (coarse z + 1))
      (lower (coarse x + 1) (coarse z + 1)) :=
  rfl

/-- The cell at a place of the tile of a source: the one as far in as the anchor is away from the
origin is settled. -/
def Source.cellAt (source : Source) (noise : Noise) (size : Size) (minX minZ : Coord)
    (i j : Nat) : Cell :=
  if source.settlesOrigin = true ∧
      ((0 - minX).toUInt32.toNat < size.width ∧ i = minX.toInt.natAbs) ∧
      (0 - minZ).toUInt32.toNat < size.height ∧ j = minZ.toInt.natAbs
  then Group.temperate.id
  else source.draw noise (minX + Int32.ofNat i) (minZ + Int32.ofNat j)

/-- **The cell at a place of a tile**, whether the tile wraps or not. A doubling halves the anchor
and counts on from there. -/
def Stage.cellAt : Stage → Coord → Coord → Nat → Nat → Cell
  | source rule noise size, minX, minZ, i, j => rule.cellAt noise size minX minZ i j
  | sampled _ _ _ field, minX, minZ, i, j => field (minX + Int32.ofNat i) (minZ + Int32.ofNat j)
  | zoom noise _ coarser, minX, minZ, i, j =>
    let (x, z) := (phase minX + i, phase minZ + j)
    let (a, b) := (x / 2, z / 2)
    let lower := coarser.cellAt (coarse minX) (coarse minZ)
    noise.interpolate ((coarse minX + Int32.ofNat a) * 2) ((coarse minZ + Int32.ofNat b) * 2)
      (x % 2) (z % 2)
      (lower a b) (lower (a + 1) b) (lower a (b + 1)) (lower (a + 1) (b + 1))
  | cross rule noise _ input, minX, minZ, i, j =>
    let haloed := input.cellAt (minX - 1) (minZ - 1)
    let around := {
      center := haloed (i + 1) (j + 1)
      above := haloed (i + 1) j
      below := haloed (i + 1) (j + 2)
      left := haloed i (j + 1)
      right := haloed (i + 2) (j + 1) }
    rule.apply noise around (minX + Int32.ofNat i) (minZ + Int32.ofNat j)
  | cell rule noise input, minX, minZ, i, j =>
    rule.value noise (input.cellAt minX minZ i j) (minX + Int32.ofNat i) (minZ + Int32.ofNat j)
  | blend rule base overlay, minX, minZ, i, j =>
    rule.apply (base.cellAt minX minZ i j) (overlay.cellAt minX minZ i j)
  | cached _ input, minX, minZ, i, j => input.cellAt minX minZ i j

/-- Every cell of a tile holds the value given for its place. -/
def Grid.Holds (grid : Grid) (cells : Nat → Nat → Cell) : Prop :=
  ∀ i j, i < grid.size.width → j < grid.size.height → grid.get i j = .ok (cells i j)

section Steps
variable {noise : Noise} {size : Size} {minX minZ : Coord} {tile : Grid}
  {cells others : Nat → Nat → Cell}

theorem Source.holds_generate {source : Source}
    (h : source.generate noise size minX minZ = .ok tile) :
    tile.Holds (source.cellAt noise size minX minZ) := by
  obtain ⟨hat, hcells⟩ := Source.cells_of_generate h
  intro i j hi hj
  rw [hat.size_eq] at hi hj
  have horigin : ((source.settlesOrigin && tile.containsWorld 0 0) = true ∧
        i = minX.toInt.natAbs ∧ j = minZ.toInt.natAbs) ↔
      (source.settlesOrigin = true ∧
        ((0 - minX).toUInt32.toNat < size.width ∧ i = minX.toInt.natAbs) ∧
        (0 - minZ).toUInt32.toNat < size.height ∧ j = minZ.toInt.natAbs) := by
    rw [Bool.and_eq_true, Grid.containsWorld_eq_true_iff, hat.size_eq, hat.minX_eq, hat.minZ_eq]
    constructor
    · rintro ⟨⟨hsettles, hx, hz⟩, hi', hj'⟩; exact ⟨hsettles, ⟨hx, hi'⟩, hz, hj'⟩
    · rintro ⟨hsettles, ⟨hx, hi'⟩, hz, hj'⟩; exact ⟨⟨hsettles, hx, hz⟩, hi', hj'⟩
  rw [hcells i j hi hj]
  simp only [Source.cellAt, horigin]

/-- All four coarse cells that a cell is made from lie inside the coarse tile. -/
theorem Grid.holds_zoomed {lower : Grid} (hlower : lower.Holds cells)
    (hsize : lower.size = size.halved) (h : lower.zoomed noise size minX minZ = .ok tile) :
    tile.Holds fun i j =>
      let (x, z) := (phase minX + i, phase minZ + j)
      let (a, b) := (x / 2, z / 2)
      noise.interpolate ((coarse minX + Int32.ofNat a) * 2) ((coarse minZ + Int32.ofNat b) * 2)
        (x % 2) (z % 2)
        (cells a b) (cells (a + 1) b) (cells a (b + 1)) (cells (a + 1) (b + 1)) := by
  obtain ⟨hwidth, hheight⟩ := phase_add_le hsize minX minZ
  obtain ⟨hmade, hcells⟩ := cells_of_zoomed hwidth hheight h
  intro i j hi hj
  rw [hmade.size_eq] at hi hj
  have hphaseX := phase_eq minX
  have hphaseZ := phase_eq minZ
  have hread : ∀ a b, a ≤ (phase minX + i) / 2 + 1 → b ≤ (phase minZ + j) / 2 + 1 →
      lower.get a b = .ok (cells a b) := by
    intro a b ha hb
    apply hlower <;> simp only [hsize, Size.halved] <;> omega
  rw [← hcells i j hi hj, doubledCell_eq (hread _ _ (Nat.le_succ _) (Nat.le_succ _))
    (hread _ _ (Nat.le_refl _) (Nat.le_succ _)) (hread _ _ (Nat.le_succ _) (Nat.le_refl _))
      (hread _ _ (Nat.le_refl _) (Nat.le_refl _))]

theorem Stage.holds_zoom {coarser : Stage} {lower : Grid}
    (hlower : lower.Holds (coarser.cellAt (coarse minX) (coarse minZ)))
    (hsize : lower.size = size.halved) (h : lower.zoomed noise size minX minZ = .ok tile) :
    tile.Holds ((zoom noise size coarser).cellAt minX minZ) :=
  Grid.holds_zoomed hlower hsize h

/-- The halo of one cell on each side holds the neighbours. -/
theorem Stage.holds_cross {rule : CrossRule} {input : Stage} {haloed : Grid}
    (hhaloed : haloed.Holds (input.cellAt (minX - 1) (minZ - 1)))
    (hat : haloed.Occupies (minX - 1) (minZ - 1) ⟨size.width + 2, size.height + 2⟩)
    (h : rule.generate noise size haloed minX minZ = .ok tile) :
    tile.Holds ((cross rule noise size input).cellAt minX minZ) := by
  obtain ⟨hmade, hcells⟩ := CrossRule.cells_of_generate h
  intro i j hi hj
  rw [hmade.size_eq] at hi hj
  obtain ⟨cross, hcross, hcell⟩ := hcells i j hi hj
  have hread : ∀ a b, a ≤ i + 2 → b ≤ j + 2 →
      haloed.get a b = .ok (input.cellAt (minX - 1) (minZ - 1) a b) := by
    intro a b ha hb
    apply hhaloed <;> simp only [hat.size_eq] <;> omega
  simp only [Cross.around, hread _ _ (Nat.le_succ _) (Nat.le_succ _),
    hread _ _ (Nat.le_succ _) (Nat.le_add_right _ _), hread _ _ (Nat.le_succ _) (Nat.le_refl _),
    hread _ _ (Nat.le_add_right _ _) (Nat.le_succ _),
    hread _ _ (Nat.le_refl _) (Nat.le_succ _)] at hcross
  cases hcross
  exact hcell

/-- A tile that lies where it was asked for has one anchor to count from. -/
theorem CellRule.anchor_of_occupies (rule : CellRule) {grid : Grid}
    (hat : grid.Occupies minX minZ size) : rule.anchor grid minX minZ = (minX, minZ) := by
  cases rule with
  | materialize table => rfl
  | _ => rw [anchor, hat.minX_eq, hat.minZ_eq]; nofun

theorem CellRule.generate_eq (rule : CellRule) {grid : Grid} (hat : grid.Occupies minX minZ size) :
    rule.generate noise grid minX minZ = grid.mapColumns minX minZ (rule.apply noise) := by
  simp only [generate, rule.anchor_of_occupies hat]

theorem CellRule.holds_generate {rule : CellRule} {grid : Grid} (hgrid : grid.Holds cells)
    (hat : grid.Occupies minX minZ size) (h : rule.generate noise grid minX minZ = .ok tile) :
    tile.Holds fun i j =>
      rule.value noise (cells i j) (minX + Int32.ofNat i) (minZ + Int32.ofNat j) := by
  rw [rule.generate_eq hat] at h
  obtain ⟨-, hmade, hcells⟩ := Grid.mapColumns_eq_ok_iff.mp h
  intro i j hi hj
  obtain ⟨value, hvalue⟩ := Grid.exists_get hi hj
  rw [hmade.size_eq] at hi hj
  have hcell := hcells i j _ (hgrid i j hi hj)
  rw [hvalue] at hcell
  rw [hvalue]
  simp only [CellRule.value, hcell]

theorem BlendRule.holds_blend {rule : BlendRule} {base overlay : Grid} (hbase : base.Holds cells)
    (hoverlay : overlay.Holds others) (hsize : overlay.size = base.size)
    (h : base.blend overlay rule.apply = .ok tile) :
    tile.Holds fun i j => rule.apply (cells i j) (others i j) := by
  obtain ⟨-, hmade, hcells⟩ := Grid.blend_eq_ok_iff.mp h
  intro i j hi hj
  rw [hmade.size_eq] at hi hj
  obtain ⟨value, hvalue, hcell⟩ := hcells i j _ (hbase i j hi hj)
  rw [hoverlay i j (hsize ▸ hi) (hsize ▸ hj)] at hvalue
  cases hvalue
  exact hcell

end Steps

/-- **What a tile holds.** A tile of a wired stage holds at each place the cell of the stage at that
place. -/
theorem Stage.holds_tile {stage : Stage} (hwired : stage.Wired) :
    ∀ {minX minZ : Coord} {tile : Grid}, stage.tile minX minZ = .ok tile →
      tile.Holds (stage.cellAt minX minZ) := by
  induction hwired with
  | source _ _ =>
      intro minX minZ tile h
      exact Source.holds_generate h
  | sampled =>
      intro minX minZ tile h
      obtain ⟨-, hmade, hcells⟩ := Grid.tabulate_eq_ok_iff.mp h
      intro i j hi hj
      exact (hcells i j (hmade.size_eq ▸ hi) (hmade.size_eq ▸ hj)).symm
  | zoom _ hinput _ ih =>
      intro minX minZ tile h
      obtain ⟨lower, hlower, h⟩ := bind_eq_ok.mp h
      exact holds_zoom (ih hlower) ((tile_occupies hlower).size_eq.trans hinput) h
  | cross _ hinput _ _ ih =>
      intro minX minZ tile h
      obtain ⟨haloed, hhaloed, h⟩ := bind_eq_ok.mp h
      obtain ⟨-, hsize⟩ := Size.haloed?_eq_some_iff.mp hinput
      exact holds_cross (ih hhaloed) (hsize ▸ tile_occupies hhaloed) h
  | cell _ _ ih =>
      intro minX minZ tile h
      obtain ⟨grid, hgrid, h⟩ := bind_eq_ok.mp h
      exact CellRule.holds_generate (ih hgrid) (tile_occupies hgrid) h
  | blend hsize _ _ _ ih ih' =>
      intro minX minZ tile h
      obtain ⟨second, hsecond, h⟩ := bind_eq_ok.mp h
      obtain ⟨first, hfirst, h⟩ := bind_eq_ok.mp h
      refine BlendRule.holds_blend (ih hfirst) (ih' hsecond) ?_ h
      rw [(tile_occupies hfirst).size_eq, (tile_occupies hsecond).size_eq, hsize]
  | cached _ ih =>
      intro minX minZ tile h
      exact ih h

/-! ## Tiles show columns -/

/-- Every cell of a tile holds the value of a column function at its world column. -/
def Grid.Shows (grid : Grid) (column : Coord → Coord → Cell) : Prop :=
  ∀ i j, i < grid.size.width → j < grid.size.height →
    grid.get i j = .ok (column (grid.worldX i) (grid.worldZ j))

/-- A tile that shows a column function answers for world columns. -/
theorem Grid.Shows.getWorld?_eq {grid : Grid} {column : Coord → Coord → Cell}
    (h : grid.Shows column) {x z : Coord} (hin : grid.containsWorld x z = true) :
    grid.getWorld? x z = some (column x z) := by
  obtain ⟨i, j, value, rfl, rfl, hv, hworld⟩ := Grid.getWorld?_eq_get hin
  rw [hworld]
  have hread := h i j (Grid.get_lt hv).1 (Grid.get_lt hv).2
  rw [hv] at hread
  exact congrArg some (Except.ok.inj hread)

/-- What is doubled shows the doubled columns. -/
theorem Grid.Shows.zoomed {lower tile : Grid} {column : Coord → Coord → Cell} {noise : Noise}
    {size : Size} {minX minZ : Coord} {margin : Nat} (h : lower.Shows column)
    (hat : lower.Occupies (coarse minX) (coarse minZ) size.halved)
    (hX : Unwrapped minX size.width margin) (hZ : Unwrapped minZ size.height margin)
    (hmade : lower.zoomed noise size minX minZ = .ok tile) :
    tile.Shows (doubledColumn noise column) := by
  have hlower : lower.Holds fun a b =>
      column (coarse minX + Int32.ofNat a) (coarse minZ + Int32.ofNat b) := by
    intro a b ha hb
    rw [h a b ha hb, worldX, worldZ, hat.minX_eq, hat.minZ_eq]
  obtain ⟨hminX, hminZ, hsize⟩ := occupies_of_zoomed hmade
  intro i j hi hj
  rw [holds_zoomed hlower hat.size_eq hmade i j hi hj, doubledColumn_eq, worldX,
    worldZ, hminX, hminZ]
  rw [hsize] at hi hj
  simp only [ofNat_succ, coarse_add (hX.lt hi), coarse_add (hZ.lt hj), phase_add]

section Columns
variable {minX minZ : Coord} {i j : Nat}

/-- The settled cell of a tile is the one at the origin, unless the tile reaches around the whole
world. -/
theorem Source.cellAt_eq_column (source : Source) (noise : Noise) {size : Size}
    (hX : minX.toInt + size.width ≤ 2 ^ 32) (hZ : minZ.toInt + size.height ≤ 2 ^ 32)
    (hi : i < size.width) (hj : j < size.height) :
    source.cellAt noise size minX minZ i j = source.column noise (minX + Int32.ofNat i)
    (minZ + Int32.ofNat j) := by
  simp only [Source.cellAt, Source.column, offset_eq_iff hX hi, offset_eq_iff hZ hj]

/-- A cell of a doubled tile is made from the cells of the coarse tile: the cells to the right of
and below the one that it comes from are part of that tile. -/
theorem Stage.cellAt_zoom {noise : Noise} {size : Size} {coarser : Stage} {lower : Nat → Nat → Cell}
    (hlower : ∀ a b, a < size.halved.width → b < size.halved.height →
      coarser.cellAt (coarse minX) (coarse minZ) a b = lower a b) (hi : i < size.width)
    (hj : j < size.height) :
    (zoom noise size coarser).cellAt minX minZ i j =
      let (a, b) := ((phase minX + i) / 2, (phase minZ + j) / 2)
      noise.interpolate ((coarse minX + Int32.ofNat a) * 2) ((coarse minZ + Int32.ofNat b) * 2)
        ((phase minX + i) % 2) ((phase minZ + j) % 2) (lower a b) (lower (a + 1) b)
          (lower a (b + 1)) (lower (a + 1) (b + 1)) := by
  have hphaseX := phase_eq minX
  have hphaseZ := phase_eq minZ
  have hx : (phase minX + i) / 2 + 1 < size.width / 2 + 2 := by omega
  have hz : (phase minZ + j) / 2 + 1 < size.height / 2 + 2 := by omega
  simp only [cellAt, hlower _ _ (Nat.lt_of_succ_lt hx) (Nat.lt_of_succ_lt hz),
    hlower _ _ hx (Nat.lt_of_succ_lt hz), hlower _ _ (Nat.lt_of_succ_lt hx) hz, hlower _ _ hx hz]

/-- A cell is made from the cells around it in the tile with a halo. -/
theorem Stage.cellAt_cross {rule : CrossRule} {noise : Noise} {size : Size} {input : Stage}
    {haloed : Nat → Nat → Cell} (hinput : ∀ a b, a < size.width + 2 → b < size.height + 2 →
      input.cellAt (minX - 1) (minZ - 1) a b = haloed a b)
    (hi : i < size.width) (hj : j < size.height) :
    (cross rule noise size input).cellAt minX minZ i j =
      let around := {
        center := haloed (i + 1) (j + 1)
        above := haloed (i + 1) j
        below := haloed (i + 1) (j + 2)
        left := haloed i (j + 1)
        right := haloed (i + 2) (j + 1) }
      rule.apply noise around (minX + Int32.ofNat i) (minZ + Int32.ofNat j) := by
  have hx : i < size.width + 2 ∧ i + 1 < size.width + 2 ∧ i + 2 < size.width + 2 := by omega
  have hz : j < size.height + 2 ∧ j + 1 < size.height + 2 ∧ j + 2 < size.height + 2 := by omega
  simp only [cellAt, hinput _ _ hx.2.1 hz.2.1, hinput _ _ hx.2.1 hz.1, hinput _ _ hx.2.1 hz.2.2,
    hinput _ _ hx.1 hz.2.1, hinput _ _ hx.2.2 hz.2.1]

/-- The cross around a cell is the cross around its column: the halo moves the anchor by one. -/
theorem Stage.cellAt_cross_column {rule : CrossRule} {noise : Noise} {size : Size} {input : Stage}
    {column : Coord → Coord → Cell} (hinput : ∀ a b, a < size.width + 2 → b < size.height + 2 →
      input.cellAt (minX - 1) (minZ - 1) a b = column (minX - 1 + Int32.ofNat a)
      (minZ - 1 + Int32.ofNat b))
    (hi : i < size.width) (hj : j < size.height) :
    (cross rule noise size input).cellAt minX minZ i j =
      rule.apply noise (Cross.at column (minX + Int32.ofNat i) (minZ + Int32.ofNat j))
        (minX + Int32.ofNat i) (minZ + Int32.ofNat j) := by
  rw [cellAt_cross hinput hi hj]
  simp only [Cross.at, before_add _ i, before_add _ j, before_add_one _ i, before_add_one _ j,
    before_add_two _ i, before_add_two _ j]

/-- **A cell only depends on its column** and not on the anchor of the tile, provided that the tile
and two columns for every stage around it do not wrap. -/
theorem Stage.cellAt_eq_column {stage : Stage} (hwired : stage.Wired) :
    ∀ {minX minZ : Coord} {i j : Nat}, Unwrapped minX stage.size.width (2 * stage.count) →
      Unwrapped minZ stage.size.height (2 * stage.count) →
    i < stage.size.width → j < stage.size.height →
    stage.cellAt minX minZ i j = stage.column (minX + Int32.ofNat i) (minZ + Int32.ofNat j) := by
  -- Each stage has two columns more than its input needs, so the margin shrinks with every step
  -- into the tree.
  induction hwired with
  | source _ _ =>
      intro minX minZ i j hX hZ hi hj
      exact Source.cellAt_eq_column _ _ hX.reach hZ.reach hi hj
  | sampled => intros; rfl
  | zoom _ hinput _ ih =>
      intro minX minZ i j hX hZ hi hj
      rw [hinput] at ih
      rw [cellAt_zoom (fun a b => ih hX.halved hZ.halved) hi hj]
      simp only [column, doubledColumn_eq, ofNat_succ, coarse_add (hX.lt hi),
        coarse_add (hZ.lt hj), phase_add]
  | cross _ hinput _ _ ih =>
      intro minX minZ i j hX hZ hi hj
      obtain ⟨-, hsize⟩ := Size.haloed?_eq_some_iff.mp hinput
      rw [hsize] at ih
      exact cellAt_cross_column (fun a b => ih hX.halo hZ.halo) hi hj
  | cell _ _ ih =>
      intro minX minZ i j hX hZ hi hj
      rw [cellAt, column,
        ih (hX.mono (by simp only [count]; omega)) (hZ.mono (by simp only [count]; omega)) hi hj]
  | @blend rule base overlay hsize _ _ _ ih ih' =>
      intro minX minZ i j hX hZ hi hj
      have hcount : 2 * base.count ≤ 2 * (blend rule base overlay).count ∧
          2 * overlay.count ≤ 2 * (blend rule base overlay).count := by
        simp only [count]; omega
      rw [hsize] at ih'
      rw [cellAt, column, ih (hX.mono hcount.1) (hZ.mono hcount.1) hi hj,
        ih' (hX.mono hcount.2) (hZ.mono hcount.2) hi hj]
  | cached _ ih =>
      intro minX minZ i j hX hZ hi hj
      exact ih hX hZ hi hj

end Columns

/-- **Tiles show columns.** A tile of a wired stage shows the column function of the stage, provided
that the tile and two columns for every stage around it do not wrap. -/
theorem Stage.shows_tile {stage : Stage} (hwired : stage.Wired) {minX minZ : Coord} {tile : Grid}
    (hX : Unwrapped minX stage.size.width (2 * stage.count))
    (hZ : Unwrapped minZ stage.size.height (2 * stage.count))
    (h : stage.tile minX minZ = .ok tile) : tile.Shows stage.column := by
  have hat := tile_occupies h
  intro i j hi hj
  rw [Stage.holds_tile hwired h i j hi hj, Grid.worldX, Grid.worldZ, hat.minX_eq, hat.minZ_eq,
    Stage.cellAt_eq_column hwired hX hZ (hat.size_eq ▸ hi) (hat.size_eq ▸ hj)]

end BiomeAtlas
