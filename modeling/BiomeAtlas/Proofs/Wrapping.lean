import BiomeAtlas.Proofs.Lattice
import BiomeAtlas.Proofs.Seamless

/-! # Tiles that wrap

Coordinates go on from the largest to the smallest one, and so do tiles. A doubling halves the
anchor of a tile once and counts on from there. Behind the largest coordinate it therefore asks for
columns half of all coordinates away from the ones that a tile asks for which begins there. This
module says when that can be seen.

With at most one doubling it cannot: the noise does not see the highest bit of a coordinate, and the
one column that is not drawn from noise, the origin, lies far away. So all tiles show the column
function of the chain (`Chain.Makes.cellAt_eq_column`). With one doubling on top of another it can,
since the doubled columns do not repeat any more. Then a tile shows the columns of the world
unrolled, in which a coordinate has one place in front of the largest one and another place behind
it (`Chain.unrolled`), and tiles agree at the columns that they both have in front of it or both
behind it.
-/
namespace BiomeAtlas

/-! ## Coordinates half the world apart -/

/-- Two coordinates are equal, or half of all coordinates apart with more than `margin` coordinates
between each of them and the ones where the sign changes. -/
def Alike (margin : Nat) (x x' : Coord) : Prop :=
  x = x' ∨ x.toInt % 2 ^ 31 = x'.toInt % 2 ^ 31 ∧ margin < x.toInt.natAbs ∧
    x.toInt.natAbs + margin < 2 ^ 31

namespace Alike
variable {margin n : Nat} {x x' start : Coord}

theorem mono (h : Alike margin x x') (hn : n ≤ margin) : Alike n x x' := by
  rcases h with rfl | ⟨hhalf, hlow, hhigh⟩
  · exact .inl rfl
  · exact .inr ⟨hhalf, by omega, by omega⟩

theorem lowBits_eq (h : Alike margin x x') : lowBits x = lowBits x' := by
  rcases h with rfl | ⟨hhalf, -, -⟩
  · rfl
  · exact lowBits_eq_iff.mpr hhalf

/-- Neither is the origin unless both are. -/
theorem eq_zero_iff (h : Alike margin x x') : x = 0 ↔ x' = 0 := by
  rcases h with rfl | ⟨hhalf, hlow, hhigh⟩
  · rfl
  · rw [← Int32.toInt_inj, ← Int32.toInt_inj, Int32.toInt_zero]
    omega

theorem sub_one (h : Alike (margin + 1) x x') : Alike margin (x - 1) (x' - 1) := by
  rcases h with rfl | ⟨hhalf, hlow, hhigh⟩
  · exact .inl rfl
  · have hbounds := toInt_bounds x'
    have hx := @toInt_sub_one x (by omega)
    have hx' := @toInt_sub_one x' (by omega)
    exact .inr ⟨by omega, by omega, by omega⟩

theorem add_one (h : Alike (margin + 1) x x') : Alike margin (x + 1) (x' + 1) := by
  rcases h with rfl | ⟨hhalf, hlow, hhigh⟩
  · exact .inl rfl
  · have hbounds := toInt_bounds x'
    have hx := @toInt_add_ofNat x 1 (by omega)
    have hx' := @toInt_add_ofNat x' 1 (by omega)
    rw [show Int32.ofNat 1 = 1 from rfl] at hx hx'
    exact .inr ⟨by omega, by omega, by omega⟩

/-- Half the coordinate of a column, counted from half the anchor, is alike to it wherever the tile
wraps. -/
theorem coarse_add (h : n + 2 * margin + 4 ≤ 2 ^ 31) (start : Coord) :
    Alike margin (coarse start + Int32.ofNat ((phase start + n) / 2))
      (coarse (start + Int32.ofNat n)) := by
  by_cases hwraps : start.toInt + n < 2 ^ 31
  · exact .inl (BiomeAtlas.coarse_add hwraps)
  · -- the count goes on a quarter of the way around the world from the origin, half the wrapped
    -- coordinate lies opposite
    have hphase := phase_eq start
    have hturns := toInt_add_ofNat_emod start n
    have hstart := toInt_bounds start
    have hmoved := toInt_bounds (start + Int32.ofNat n)
    have hcoarse := toInt_coarse start
    have hcounted := @toInt_add_ofNat (coarse start) ((phase start + n) / 2) (by omega)
    have hhalf := toInt_coarse (start + Int32.ofNat n)
    exact .inr ⟨by omega, by omega, by omega⟩

/-- Doubling the coordinates makes them equal. -/
theorem mul_two (h : Alike margin x x') : x * 2 = x' * 2 := by
  have htwice : ∀ c : Coord, (c * 2).toInt % 2 ^ 32 = c.toInt * 2 % 2 ^ 32 := by
    intro c
    rw [Int32.toInt_mul]
    exact Int.bmod_emod
  rcases h with rfl | ⟨hhalf, -, -⟩
  · rfl
  · have hx := htwice x
    have hx' := htwice x'
    have hbounds := toInt_bounds (x * 2)
    have hbounds' := toInt_bounds (x' * 2)
    rw [← Int32.toInt_inj]
    omega

end Alike

/-! ## Columns that look alike -/

section Rules
variable {x x' z z' : Coord} (hx : lowBits x = lowBits x') (hz : lowBits z = lowBits z')
include hx hz

theorem Source.draw_congr (source : Source) (noise : Noise) :
    source.draw noise x z = source.draw noise x' z' := by
  simp only [draw, Noise.roll_congr hx hz]

theorem CrossRule.apply_congr (rule : CrossRule) (noise : Noise) (cross : Cross) :
    rule.apply noise cross x z = rule.apply noise cross x' z' := by
  cases rule <;> simp only [apply, smoothed, Noise.roll_congr hx hz, Noise.rollPermille_congr hx hz]

theorem CellRule.value_congr (rule : CellRule) (noise : Noise) (value : Cell) :
    rule.value noise value x z = rule.value noise value x' z' := by
  cases rule <;> simp only [CellRule.value, apply, drawn, Noise.roll_congr hx hz,
    Noise.rollPermille_congr hx hz]

end Rules

/-- The most doublings that are stacked on top of each other. -/
def Chain.doublingDepth : Chain → Nat
  | empty => 0
  | stage before layer _ =>
    match layer with
    | .zoom => before.doublingDepth + 1
    | .source _ | .cross _ | .cell _ => before.doublingDepth
  | blend before _ secondary _ => max before.doublingDepth secondary.doublingDepth

/-- Without doublings, columns half of all coordinates apart hold the same value, except around the
origin: every cross rule looks one column further. -/
theorem Chain.column_alike :
    ∀ {chain : Chain} {folded : Int32} {x x' z z' : Coord}, chain.doublingDepth = 0 →
    Alike chain.stageCount x x' → Alike chain.stageCount z z' →
    chain.column folded x z = chain.column folded x' z'
  | empty, _, _, _, _, _, _, _, _ => rfl
  | stage before layer offset, folded, x, x', z, z', hdepth, hx, hz => by
      have hbits := hx.lowBits_eq
      have hbits' := hz.lowBits_eq
      have hmono := hx.mono (Nat.le_succ before.stageCount)
      have hmono' := hz.mono (Nat.le_succ before.stageCount)
      cases layer with
      | source rule =>
          simp only [column, Layer.column, Source.column, hx.eq_zero_iff, hz.eq_zero_iff,
            rule.draw_congr hbits hbits']
      | zoom => cases hdepth
      | cross rule =>
          have hbefore : before.doublingDepth = 0 := hdepth
          simp only [column, Layer.column, Cross.at, column_alike hbefore hmono hmono',
            column_alike hbefore hx.sub_one hmono', column_alike hbefore hx.add_one hmono',
            column_alike hbefore hmono hz.sub_one, column_alike hbefore hmono hz.add_one,
            rule.apply_congr hbits hbits']
      | cell rule =>
          have hbefore : before.doublingDepth = 0 := hdepth
          simp only [column, Layer.column, column_alike hbefore hmono hmono',
            rule.value_congr hbits hbits']
  | blend before rule secondary offset, folded, x, x', z, z', hdepth, hx, hz => by
      have hdepths : before.doublingDepth = 0 ∧ secondary.doublingDepth = 0 := by
        simp only [doublingDepth] at hdepth
        omega
      have hcount : before.stageCount ≤ (before.blend rule secondary offset).stageCount ∧
          secondary.stageCount ≤ (before.blend rule secondary offset).stageCount := by
        simp only [stageCount]
        omega
      simp only [column, column_alike hdepths.1 (hx.mono hcount.1) (hz.mono hcount.1),
        column_alike hdepths.2 (hx.mono hcount.2) (hz.mono hcount.2)]

/-! ## At most one doubling -/

/-- The tile and `margin` more columns and rows reach around less than a quarter of the world. -/
def Size.Narrow (size : Size) (margin : Nat) : Prop :=
  size.width + margin ≤ 2 ^ 30 ∧ size.height + margin ≤ 2 ^ 30

instance (size : Size) (margin : Nat) : Decidable (size.Narrow margin) :=
  inferInstanceAs (Decidable (_ ∧ _))

namespace Size.Narrow
variable {size : Size} {margin n : Nat}

theorem mono (h : size.Narrow margin) (hn : n ≤ margin) : size.Narrow n :=
  ⟨by have := h.1; omega, by have := h.2; omega⟩

theorem halved (h : size.Narrow (2 * (n + 1))) : size.halved.Narrow (2 * n) :=
  ⟨by have := h.1; simp only [Size.halved]; omega, by have := h.2; simp only [Size.halved]; omega⟩

theorem haloed {larger : Size} (h : size.Narrow (2 * (n + 1)))
    (hlarger : size.haloed? = some larger) :
    larger.Narrow (2 * n) := by
  obtain ⟨-, rfl⟩ := Size.haloed?_eq_some_iff.mp hlarger
  exact ⟨by have := h.1; simp only; omega, by have := h.2; simp only; omega⟩

/-- Memory can hold all the tiles on the way. -/
theorem addressable (h : size.Narrow margin) : size.Addressable margin := by
  obtain ⟨hwidth, hheight⟩ := h
  calc (size.width + margin + 4) * (size.height + margin + 4)
      ≤ (2 ^ 30 + 4) * (2 ^ 30 + 4) := Nat.mul_le_mul (by omega) (by omega)
    _ < cellLimit := by decide

end Size.Narrow

namespace Chain.Makes
variable {chain : Chain} {folded : Int32} {size : Size} {made : Stage}

/-- **One doubling does not show the wrap.** With at most one doubling on top of each other a cell
only depends on its column, whatever the anchor. -/
theorem cellAt_eq_column (h : chain.Makes folded size made) : chain.doublingDepth ≤ 1 →
    size.Narrow (2 * chain.stageCount) → ∀ (minX minZ : Coord) (i j : Nat), i < size.width →
    j < size.height →
    made.cellAt minX minZ i j =
      chain.column folded (minX + Int32.ofNat i) (minZ + Int32.ofNat j) := by
  induction h with
  | source h =>
      intro _ hsize minX minZ i j hi hj
      obtain ⟨-, -, rfl⟩ := Stage.ofSource_eq_ok_iff.mp h
      -- a tile that wraps still ends before it comes back to its own anchor
      have hX := toInt_bounds minX
      have hZ := toInt_bounds minZ
      have hwidth := hsize.1
      have hheight := hsize.2
      exact Source.cellAt_eq_column _ _ (by omega) (by omega) hi hj
  | @zoom before offset folded size coarser made hbefore h ih =>
      intro hdepth hsize minX minZ i j hi hj
      obtain ⟨-, -, rfl⟩ := Stage.ofZoom_eq_ok_iff.mp h
      -- nothing is doubled below, so coarse columns that are alike hold the same value
      have hflat : before.doublingDepth = 0 := Nat.le_zero.mp (Nat.le_of_succ_le_succ hdepth)
      rw [Stage.cellAt_zoom (ih (by omega) hsize.halved (coarse minX) (coarse minZ)) hi hj]
      have hwidth := hsize.1
      have hheight := hsize.2
      simp only [stageCount] at hwidth hheight
      have hX : Alike (before.stageCount + 1) (coarse minX + Int32.ofNat ((phase minX + i) / 2))
          (coarse (minX + Int32.ofNat i)) := Alike.coarse_add (by omega) minX
      have hZ : Alike (before.stageCount + 1) (coarse minZ + Int32.ofNat ((phase minZ + j) / 2))
          (coarse (minZ + Int32.ofNat j)) := Alike.coarse_add (by omega) minZ
      have hX' := hX.mono (Nat.le_succ _)
      have hZ' := hZ.mono (Nat.le_succ _)
      simp only [column, Layer.column, doubledColumn_eq, phase_add, ofNat_succ,
        hX.mul_two, hZ.mul_two, column_alike hflat hX' hZ', column_alike hflat hX.add_one hZ',
        column_alike hflat hX' hZ.add_one, column_alike hflat hX.add_one hZ.add_one]
  | @cross before rule offset folded size haloed input made hhalo hbefore h ih =>
      intro hdepth hsize minX minZ i j hi hj
      obtain ⟨-, -, -, rfl⟩ := Stage.ofCross_eq_ok_iff.mp h
      have hinput := ih hdepth (hsize.haloed hhalo) (minX - 1) (minZ - 1)
      obtain ⟨-, rfl⟩ := Size.haloed?_eq_some_iff.mp hhalo
      exact Stage.cellAt_cross_column hinput hi hj
  | cell _ h ih =>
      intro hdepth hsize minX minZ i j hi hj
      obtain ⟨-, rfl⟩ := Stage.ofCell_eq_ok_iff.mp h
      simp only [Stage.cellAt, column, Layer.column,
        ih hdepth (hsize.mono (by simp only [stageCount]; omega)) minX minZ i j hi hj]
  | blend _ _ h ih ih' =>
      intro hdepth hsize minX minZ i j hi hj
      obtain ⟨-, -, rfl⟩ := Stage.ofBlend_eq_ok_iff.mp h
      simp only [doublingDepth] at hdepth
      simp only [Stage.cellAt, column,
        ih (by omega) (hsize.mono (by simp only [stageCount]; omega)) minX minZ i j hi hj,
        ih' (by omega) (hsize.mono (by simp only [stageCount]; omega)) minX minZ i j hi hj]

end Chain.Makes

/-! ## The world unrolled -/

/-- The doubling of a column function of the unrolled world. -/
def unrolledDoubling (noise : Noise) (lower : Int → Int → Cell) (x z : Int) : Cell :=
  let (a, b) := (x / 2, z / 2)
  noise.interpolate (Int32.ofInt a * 2) (Int32.ofInt b * 2) (x % 2).toNat (z % 2).toNat
    (lower a b) (lower (a + 1) b) (lower a (b + 1)) (lower (a + 1) (b + 1))

/-- The column function of one step in the unrolled world, over that of the steps before it. -/
def Layer.unrolled (layer : Layer) (noise : Noise) (input : Int → Int → Cell) (x z : Int) : Cell :=
  match layer with
  | .source rule => rule.column noise (Int32.ofInt x) (Int32.ofInt z)
  | .zoom => unrolledDoubling noise input x z
  | .cross rule =>
    let around := {
      center := input x z
      above := input x (z - 1)
      below := input x (z + 1)
      left := input (x - 1) z
      right := input (x + 1) z }
    rule.apply noise around (Int32.ofInt x) (Int32.ofInt z)
  | .cell rule => rule.value noise (input x z) (Int32.ofInt x) (Int32.ofInt z)

/-- **The columns of the unrolled world**: integers in place of coordinates, so that halving never
meets a wrapped one. Only what is drawn from noise still sees coordinates. -/
def Chain.unrolled : Chain → Int32 → Int → Int → Cell
  | empty, _, _, _ => 0
  | stage before layer offset, folded, x, z =>
      layer.unrolled ⟨stageSeed folded offset⟩ (before.unrolled folded) x z
  | blend before rule secondary offset, folded, x, z =>
    rule.apply (before.unrolled folded x z) (secondary.unrolled (stageSeed folded offset) x z)

theorem ofInt_toInt_add (start : Coord) (n : Nat) :
    Int32.ofInt (start.toInt + n) = start + Int32.ofNat n := by
  rw [Int32.ofInt_add, Int32.ofInt_toInt]
  rfl

/-- `margin` coordinates before an anchor do not wrap. -/
def Clear (start : Coord) (margin : Nat) : Prop :=
  -2 ^ 31 + (margin : Int) ≤ start.toInt

instance (start : Coord) (margin : Nat) : Decidable (Clear start margin) :=
  inferInstanceAs (Decidable (_ ≤ _))

namespace Clear
variable {start : Coord} {margin n : Nat}

theorem mono (h : Clear start margin) (hn : n ≤ margin) : Clear start n := by
  unfold Clear at *
  omega

/-- Counting from the coordinate before an anchor. -/
theorem places (h : Clear start (2 * (n + 1))) (i : Nat) :
    (start - 1).toInt + i = start.toInt + i - 1 ∧
    (start - 1).toInt + ↑(i + 1) = start.toInt + i ∧
    (start - 1).toInt + ↑(i + 2) = start.toInt + i + 1 := by
  unfold Clear at h
  rw [toInt_sub_one (by omega)]
  omega

theorem halo (h : Clear start (2 * (n + 1))) : Clear (start - 1) (2 * n) := by
  unfold Clear at *
  rw [toInt_sub_one (by omega)]
  omega

theorem halved (h : Clear start (2 * (n + 1))) (hn : 2 * (n + 1) ≤ 2 ^ 30) :
    Clear (coarse start) (2 * n) := by
  unfold Clear at *
  rw [toInt_coarse]
  omega

end Clear

namespace Chain.Makes
variable {chain : Chain} {folded : Int32} {size : Size} {made : Stage}

/-- **Tiles show the unrolled world**, as far as the columns before their anchors do not wrap. -/
theorem cellAt_eq_unrolled (h : chain.Makes folded size made) : size.Narrow (2 * chain.stageCount) →
    ∀ {minX minZ : Coord}, Clear minX (2 * chain.stageCount) → Clear minZ (2 * chain.stageCount) →
    ∀ {i j : Nat}, i < size.width → j < size.height →
    made.cellAt minX minZ i j = chain.unrolled folded (minX.toInt + i) (minZ.toInt + j) := by
  induction h with
  | source h =>
      intro hsize minX minZ _ _ i j hi hj
      obtain ⟨-, -, rfl⟩ := Stage.ofSource_eq_ok_iff.mp h
      have hX := toInt_bounds minX
      have hZ := toInt_bounds minZ
      have hwidth := hsize.1
      have hheight := hsize.2
      rw [unrolled, Layer.unrolled, ofInt_toInt_add, ofInt_toInt_add]
      exact Source.cellAt_eq_column _ _ (by omega) (by omega) hi hj
  | @zoom before offset folded size coarser made hbefore h ih =>
      intro hsize minX minZ hX hZ i j hi hj
      obtain ⟨-, -, rfl⟩ := Stage.ofZoom_eq_ok_iff.mp h
      have hmargin : 2 * (before.stageCount + 1) ≤ 2 ^ 30 :=
        Nat.le_trans (Nat.le_add_left _ _) hsize.1
      rw [Stage.cellAt_zoom (fun a b =>
        ih hsize.halved (hX.halved hmargin) (hZ.halved hmargin)) hi hj]
      -- without wrapping, halving and counting on can be exchanged
      have hhalf : ∀ (start : Coord) (k : Nat),
          (start.toInt + k) / 2 = (coarse start).toInt + ↑((phase start + k) / 2) ∧
          ((start.toInt + k) % 2).toNat = (phase start + k) % 2 := by
        intro start k
        have hphase := phase_eq start
        rw [toInt_coarse]
        omega
      simp only [unrolled, Layer.unrolled, unrolledDoubling, (hhalf minX i).1, (hhalf minX i).2,
        (hhalf minZ j).1, (hhalf minZ j).2, ofInt_toInt_add, Int.natCast_succ, Int.add_assoc]
  | @cross before rule offset folded size haloed input made hhalo hbefore h ih =>
      intro hsize minX minZ hX hZ i j hi hj
      obtain ⟨-, -, -, rfl⟩ := Stage.ofCross_eq_ok_iff.mp h
      have hinput := fun a b => @ih (hsize.haloed hhalo) _ _ hX.halo hZ.halo a b
      obtain ⟨-, rfl⟩ := Size.haloed?_eq_some_iff.mp hhalo
      rw [Stage.cellAt_cross hinput hi hj]
      obtain ⟨hleft, hmiddle, hright⟩ := hX.places i
      obtain ⟨hupper, hcenter, hlower⟩ := hZ.places j
      simp only [unrolled, Layer.unrolled, ofInt_toInt_add, hleft, hmiddle, hright, hupper,
        hcenter, hlower]
  | @cell before rule offset folded size input made _ h ih =>
      intro hsize minX minZ hX hZ i j hi hj
      obtain ⟨-, rfl⟩ := Stage.ofCell_eq_ok_iff.mp h
      have hcount : 2 * before.stageCount ≤ 2 * (before.stageCount + 1) :=
        Nat.mul_le_mul_left 2 (Nat.le_succ _)
      simp only [Stage.cellAt, unrolled, Layer.unrolled, ofInt_toInt_add,
        ih (hsize.mono hcount) (hX.mono hcount) (hZ.mono hcount) hi hj]
  | @blend before secondary rule offset folded size base overlay made _ _ h ih ih' =>
      intro hsize minX minZ hX hZ i j hi hj
      obtain ⟨-, -, rfl⟩ := Stage.ofBlend_eq_ok_iff.mp h
      have hcount : 2 * before.stageCount ≤ 2 * (before.blend rule secondary offset).stageCount ∧
          2 * secondary.stageCount ≤ 2 * (before.blend rule secondary offset).stageCount := by
        simp only [stageCount]
        omega
      simp only [Stage.cellAt, unrolled,
        ih (hsize.mono hcount.1) (hX.mono hcount.1) (hZ.mono hcount.1) hi hj,
        ih' (hsize.mono hcount.2) (hX.mono hcount.2) (hZ.mono hcount.2) hi hj]

end Chain.Makes

/-! ## Tiles in use -/

/-- The place of a coordinate in the unrolled world, counted on from an anchor: coordinates below
the anchor come after the largest one. -/
def place (start c : Coord) : Int :=
  if c.toInt < start.toInt then c.toInt + 2 ^ 32 else c.toInt

theorem place_add {start : Coord} {n : Nat} (h : n ≤ 2 ^ 30) :
    place start (start + Int32.ofNat n) = start.toInt + n := by
  have hturns := toInt_add_ofNat_emod start n
  have hstart := toInt_bounds start
  have hmoved := toInt_bounds (start + Int32.ofNat n)
  unfold place
  split <;> omega

namespace Chain.Serves
variable {chain : Chain} {folded : Int32} {size : Size} {stage : Stage} {store later : TileStore}
  {minX minZ : Coord} {tile : Grid}

/-- What is read at a world column of a tile is the cell at its place. -/
theorem exists_cellAt (h : chain.Serves folded size stage store)
    (hrun : (stage.generate minX minZ).run store = .ok (tile, later)) {x z : Coord}
    (hin : tile.containsWorld x z = true) :
    ∃ i j, i < size.width ∧ j < size.height ∧ x = minX + Int32.ofNat i ∧ z = minZ + Int32.ofNat j ∧
      tile.getWorld? x z = some (stage.bare.cellAt minX minZ i j) := by
  have hmakes := h.makes
  have htile := h.tile_eq hrun
  have hat := Stage.tile_occupies htile
  obtain ⟨i, j, value, rfl, rfl, hvalue, hworld⟩ := Grid.getWorld?_eq_get hin
  have hbounds := Grid.get_lt hvalue
  have hcell := Stage.holds_tile hmakes.wired htile i j hbounds.1 hbounds.2
  rw [hvalue] at hcell
  rw [hat.size_eq, hmakes.size_eq] at hbounds
  refine ⟨i, j, hbounds.1, hbounds.2, ?_, ?_, ?_⟩
  · rw [Grid.worldX, hat.minX_eq]
  · rw [Grid.worldZ, hat.minZ_eq]
  · rw [hworld, Except.ok.inj hcell]

/-- With at most one doubling on top of each other a tile shows the column function of the chain, at
any anchor. -/
theorem getWorld?_eq_column (h : chain.Serves folded size stage store)
    (hdepth : chain.doublingDepth ≤ 1) (hsize : size.Narrow (2 * chain.stageCount))
    (hrun : (stage.generate minX minZ).run store = .ok (tile, later))
    {x z : Coord} (hin : tile.containsWorld x z = true) :
    tile.getWorld? x z = some (chain.column folded x z) := by
  obtain ⟨i, j, hi, hj, rfl, rfl, hworld⟩ := h.exists_cellAt hrun hin
  rw [hworld, h.makes.cellAt_eq_column hdepth hsize minX minZ i j hi hj]

/-- A tile shows the unrolled world at the places of its columns. -/
theorem getWorld?_eq_unrolled (h : chain.Serves folded size stage store)
    (hsize : size.Narrow (2 * chain.stageCount)) (hX : Clear minX (2 * chain.stageCount))
    (hZ : Clear minZ (2 * chain.stageCount))
    (hrun : (stage.generate minX minZ).run store = .ok (tile, later)) {x z : Coord}
    (hin : tile.containsWorld x z = true) :
    tile.getWorld? x z = some (chain.unrolled folded (place minX x) (place minZ z)) := by
  obtain ⟨i, j, hi, hj, rfl, rfl, hworld⟩ := h.exists_cellAt hrun hin
  have hwidth := hsize.1
  have hheight := hsize.2
  rw [hworld, h.makes.cellAt_eq_unrolled hsize hX hZ hi hj, place_add (by omega),
    place_add (by omega)]

section Two
variable {size₁ size₂ : Size} {stage₁ stage₂ : Stage} {store₁ store₂ : TileStore}
  {minX₁ minZ₁ minX₂ minZ₂ : Coord}

/-- **Tiles that wrap agree**, but for stacked doublings. Let a chain be in use at two sizes and let
two anchors be given, at which the tiles may wrap. The tiles are there. With at most one doubling on
top of each other, both hold the value of the column function of the chain at every world column
that they both contain. With any number of doublings they hold the same value if the columns before
the anchors do not wrap and both have the column in front of the largest coordinate, or both behind
it, along each axis. -/
theorem wrapped_tiles_agree (h₁ : chain.Serves folded size₁ stage₁ store₁)
    (h₂ : chain.Serves folded size₂ stage₂ store₂) (hsize₁ : size₁.Narrow (2 * chain.stageCount))
    (hsize₂ : size₂.Narrow (2 * chain.stageCount)) :
    (∃ tile₁ later₁, (stage₁.generate minX₁ minZ₁).run store₁ = .ok (tile₁, later₁)) ∧
    (∃ tile₂ later₂, (stage₂.generate minX₂ minZ₂).run store₂ = .ok (tile₂, later₂)) ∧
    ∀ tile₁ tile₂ later₁ later₂, (stage₁.generate minX₁ minZ₁).run store₁ = .ok (tile₁, later₁) →
      (stage₂.generate minX₂ minZ₂).run store₂ = .ok (tile₂, later₂) →
      ∀ x z, tile₁.containsWorld x z = true → tile₂.containsWorld x z = true →
        (chain.doublingDepth ≤ 1 → tile₁.getWorld? x z = some (chain.column folded x z) ∧
          tile₂.getWorld? x z = some (chain.column folded x z)) ∧
        (Clear minX₁ (2 * chain.stageCount) → Clear minZ₁ (2 * chain.stageCount) →
          Clear minX₂ (2 * chain.stageCount) → Clear minZ₂ (2 * chain.stageCount) →
          (x < minX₁ ↔ x < minX₂) → (z < minZ₁ ↔ z < minZ₂) →
          tile₁.getWorld? x z = tile₂.getWorld? x z) := by
  refine ⟨h₁.exists_tile hsize₁.addressable _ _, h₂.exists_tile hsize₂.addressable _ _, ?_⟩
  intro tile₁ tile₂ later₁ later₂ hrun₁ hrun₂ x z hin₁ hin₂
  constructor
  · intro hdepth
    exact ⟨h₁.getWorld?_eq_column hdepth hsize₁ hrun₁ hin₁,
      h₂.getWorld?_eq_column hdepth hsize₂ hrun₂ hin₂⟩
  · intro hX₁ hZ₁ hX₂ hZ₂ hx hz
    rw [Int32.lt_iff_toInt_lt, Int32.lt_iff_toInt_lt] at hx hz
    rw [h₁.getWorld?_eq_unrolled hsize₁ hX₁ hZ₁ hrun₁ hin₁,
      h₂.getWorld?_eq_unrolled hsize₂ hX₂ hZ₂ hrun₂ hin₂]
    simp only [place, hx, hz]

end Two
end Chain.Serves

/-- Regions, doubled once. -/
def Chain.doubledRegions : Chain :=
  empty
  |>.stage (.source (.choice 1000)) 0
  |>.stage .zoom 0

/-- Regions, doubled twice. -/
def Chain.redoubledRegions : Chain :=
  doubledRegions
  |>.stage .zoom 0

namespace Chain.Serves

/-- At the smallest coordinate, a tile that wraps agrees with one that begins there for regions that
are doubled once, and with another one that wraps for regions that are doubled twice. -/
theorem regions_wrapped_tiles_agree :
    (∃ stage, doubledRegions.Serves 0 ⟨2, 1⟩ stage (.empty 0) ∧
      Size.Narrow ⟨2, 1⟩ (2 * doubledRegions.stageCount) ∧
      doubledRegions.doublingDepth ≤ 1 ∧
      ∃ tile₁ tile₂ later₁ later₂,
        (stage.generate 2147483647 0).run (.empty 0) = .ok (tile₁, later₁) ∧
        (stage.generate (-2147483648) 0).run (.empty 0) = .ok (tile₂, later₂) ∧
        tile₁.getWorld? (-2147483648) 0 = some (doubledRegions.column 0 (-2147483648) 0) ∧
        tile₂.getWorld? (-2147483648) 0 = some (doubledRegions.column 0 (-2147483648) 0)) ∧
    ∃ stage, redoubledRegions.Serves 0 ⟨3, 1⟩ stage (.empty 0) ∧
      Size.Narrow ⟨3, 1⟩ (2 * redoubledRegions.stageCount) ∧
      (Clear 2147483646 (2 * redoubledRegions.stageCount) ∧
        Clear 2147483647 (2 * redoubledRegions.stageCount) ∧
        Clear 0 (2 * redoubledRegions.stageCount)) ∧
      ((-2147483648 : Coord) < 2147483646 ↔ (-2147483648 : Coord) < 2147483647) ∧
      ∃ tile₁ tile₂ later₁ later₂,
        (stage.generate 2147483646 0).run (.empty 0) = .ok (tile₁, later₁) ∧
        (stage.generate 2147483647 0).run (.empty 0) = .ok (tile₂, later₂) ∧
        tile₁.getWorld? (-2147483648) 0 = tile₂.getWorld? (-2147483648) 0 := by
  constructor
  · have hbuild : (doubledRegions.build false 0 ⟨2, 1⟩).run (.empty 0) = .ok (_, .empty 0) := rfl
    have hserves : doubledRegions.Serves 0 ⟨2, 1⟩ _ (.empty 0) := .alone hbuild
    have hsize : Size.Narrow ⟨2, 1⟩ (2 * doubledRegions.stageCount) := by decide
    obtain ⟨⟨tile₁, later₁, hrun₁⟩, ⟨tile₂, later₂, hrun₂⟩, hagree⟩ :=
      @wrapped_tiles_agree _ _ _ _ _ _ _ _ 2147483647 0 (-2147483648) 0 hserves hserves hsize hsize
    have hvalues := (hagree _ _ _ _ hrun₁ hrun₂ (-2147483648) 0
      ((hserves.containsWorld_iff hrun₁).mpr (by decide))
      ((hserves.containsWorld_iff hrun₂).mpr (by decide))).1 (by decide)
    exact ⟨_, hserves, hsize, by decide, tile₁, tile₂, later₁, later₂, hrun₁, hrun₂, hvalues⟩
  · have hbuild : (redoubledRegions.build false 0 ⟨3, 1⟩).run (.empty 0) = .ok (_, .empty 0) := rfl
    have hserves : redoubledRegions.Serves 0 ⟨3, 1⟩ _ (.empty 0) := .alone hbuild
    have hsize : Size.Narrow ⟨3, 1⟩ (2 * redoubledRegions.stageCount) := by decide
    obtain ⟨⟨tile₁, later₁, hrun₁⟩, ⟨tile₂, later₂, hrun₂⟩, hagree⟩ :=
      @wrapped_tiles_agree _ _ _ _ _ _ _ _ 2147483646 0 2147483647 0 hserves hserves hsize hsize
    have hvalue := (hagree _ _ _ _ hrun₁ hrun₂ (-2147483648) 0
      ((hserves.containsWorld_iff hrun₁).mpr (by decide))
      ((hserves.containsWorld_iff hrun₂).mpr (by decide))).2 (by decide) (by decide) (by decide)
      (by decide) (by decide)
      (by decide)
    exact ⟨_, hserves, hsize, by decide, by decide, tile₁, tile₂, later₁, later₂, hrun₁,
      hrun₂, hvalue⟩

/-- For regions that are doubled twice, a tile that wraps does not agree at the smallest coordinate
with one that begins there. -/
theorem redoubled_tiles_disagree :
    ∃ stage, redoubledRegions.Serves (foldSeed 0) ⟨2, 1⟩ stage (.empty 0) ∧
      ∃ tile₁ tile₂ later₁ later₂,
        (stage.generate 2147483647 0).run (.empty 0) = .ok (tile₁, later₁) ∧
        (stage.generate (-2147483648) 0).run (.empty 0) = .ok (tile₂, later₂) ∧
        tile₁.containsWorld 2147483647 0 = true ∧ tile₁.containsWorld (-2147483648) 0 = true ∧
        tile₂.containsWorld (-2147483648) 0 = true ∧
        tile₁.getWorld? (-2147483648) 0 = some 928 ∧
        tile₂.getWorld? (-2147483648) 0 = some 239 := by
  obtain ⟨stage, hstage⟩ : ∃ stage : Stage, stage =
      .zoom ⟨0⟩ ⟨2, 1⟩ (.zoom ⟨0⟩ ⟨3, 2⟩ (.source (.choice 1000) ⟨0⟩ ⟨3, 3⟩)) := ⟨_, rfl⟩
  have hbuild : (redoubledRegions.build false (foldSeed 0) ⟨2, 1⟩).run (.empty 0) =
      .ok (stage, .empty 0) := by
    rw [hstage]
    rfl
  have hserves : redoubledRegions.Serves (foldSeed 0) ⟨2, 1⟩ stage (.empty 0) := .alone hbuild
  obtain ⟨tile₁, later₁, hrun₁⟩ := hserves.exists_tile (by decide) 2147483647 0
  obtain ⟨tile₂, later₂, hrun₂⟩ := hserves.exists_tile (by decide) (-2147483648) 0
  have hvalue₁ : ((stage.generate 2147483647 0).run (.empty 0)).toOption.bind
      (fun made => made.1.getWorld? (-2147483648) 0) = some 928 := by
    rw [hstage]
    decide +kernel
  have hvalue₂ : ((stage.generate (-2147483648) 0).run (.empty 0)).toOption.bind
      (fun made => made.1.getWorld? (-2147483648) 0) = some 239 := by
    rw [hstage]
    decide +kernel
  rw [hrun₁, Except.toOption, Option.bind_some] at hvalue₁
  rw [hrun₂, Except.toOption, Option.bind_some] at hvalue₂
  exact ⟨stage, hserves, tile₁, tile₂, later₁, later₂, hrun₁, hrun₂,
    (hserves.containsWorld_iff hrun₁).mpr (by decide),
    (hserves.containsWorld_iff hrun₁).mpr (by decide),
    (hserves.containsWorld_iff hrun₂).mpr (by decide), hvalue₁, hvalue₂⟩

end Chain.Serves

end BiomeAtlas
