import BiomeAtlas.Proofs.Room
import BiomeAtlas.Proofs.Column
import BiomeAtlas.Proofs.Values

/-! # Doublings on top of each other

A doubling writes each cell by the parity of its column and row (`Stage.cells_of_generate_zoom`).
Doublings on top of each other do not drift: however many there are, a column takes its value from
the source column that it lies on, or from the next one, and the first column of a block of source
columns from the one it lies on (`Stage.Stack.never_drifts`).

One doubling may look one column ahead, so that the distance seems to grow with the number of
doublings. It does not, since only odd columns look ahead (`exists_doubledColumn_eq`): looking ahead
at one level leads onto the first column of a block at most, and from there no level below looks
ahead (`Samples.succ`).
-/
namespace BiomeAtlas

/-! ## One doubling -/

section Zoom
variable {noise : Noise} {size : Size} {coarser : Stage} {minX minZ : Coord}
  {store later : TileStore} {lower : Grid}

/-- A doubling answers if memory can hold the tile that the coarse tile doubles to. -/
theorem Stage.exists_generate_zoom (noise : Noise)
    (hlower : (coarser.generate (coarse minX) (coarse minZ)).run store = .ok (lower, later))
    (hsize : lower.size = size.halved) (hroom : lower.doubledSize.cells < cellLimit) :
    ∃ tile, ((zoom noise size coarser).generate minX minZ).run store = .ok (tile, later) := by
  obtain ⟨hwidth, hheight⟩ := Grid.phase_add_le hsize minX minZ
  have hself : size.cells ≤ lower.doubledSize.cells := Nat.mul_le_mul (by omega) (by omega)
  obtain ⟨tile, htile, -⟩ :=
    @Grid.exists_zoomed lower noise size minX minZ (by rw [hsize]; rfl) hroom
    (Nat.lt_of_le_of_lt hself hroom) hwidth hheight
  exact ⟨tile, run_bind_eq_ok.mpr ⟨lower, later, hlower, run_lift_eq_ok.mpr ⟨htile, rfl⟩⟩⟩

/-- **A doubling, cell by cell.** If the coarse tile is as large as it has to be, the doubling
answers whenever memory can hold the tile that the coarse tile doubles to, and then each cell is
what the parity of its column and row says. -/
theorem Stage.cells_of_generate_zoom {cells : Nat → Nat → Cell}
    (hlower : (coarser.generate (coarse minX) (coarse minZ)).run store = .ok (lower, later))
    (hsize : lower.size = size.halved) (hcells : lower.Holds cells) :
    (lower.doubledSize.cells < cellLimit →
      ∃ tile, ((zoom noise size coarser).generate minX minZ).run store = .ok (tile, later)) ∧
    ∀ tile last, ((zoom noise size coarser).generate minX minZ).run store = .ok (tile, last) →
      tile.Occupies minX minZ size ∧ ∀ i j, i < size.width → j < size.height →
        let (x, z) := (phase minX + i, phase minZ + j)
        let (a, b) := (x / 2, z / 2)
        let blockX := (coarse minX + Int32.ofNat a) * 2
        let blockZ := (coarse minZ + Int32.ofNat b) * 2
        (x % 2 = 0 → z % 2 = 0 → tile.get i j = .ok (cells a b)) ∧
        (x % 2 = 0 → z % 2 = 1 →
          tile.get i j = .ok (noise.chooseTwo blockX (blockZ + 1) (cells a b) (cells a (b + 1)))) ∧
        (x % 2 = 1 → z % 2 = 0 →
          tile.get i j = .ok (noise.chooseTwo blockX (blockZ - 1) (cells a b) (cells (a + 1) b))) ∧
        (x % 2 = 1 → z % 2 = 1 → tile.get i j = .ok
          (noise.chooseFour blockX blockZ (cells a b) (cells (a + 1) b) (cells a (b + 1))
            (cells (a + 1) (b + 1)))) := by
  refine ⟨exists_generate_zoom noise hlower hsize, ?_⟩
  intro tile last h
  obtain ⟨_, _, hsame, h⟩ := run_bind_eq_ok.mp h
  cases hlower.symm.trans hsame
  obtain ⟨hmade, -⟩ := run_lift_eq_ok.mp h
  have hat' := Grid.occupies_of_zoomed hmade
  refine ⟨hat', fun i j hi hj => ?_⟩
  have hcell := Grid.holds_zoomed hcells hsize hmade i j (hat'.size_eq ▸ hi) (hat'.size_eq ▸ hj)
  dsimp only at hcell ⊢
  refine ⟨?_, ?_, ?_, ?_⟩ <;> intro hx hz <;> rw [hcell, hx, hz] <;> simp only [Noise.interpolate]

/-- Columns with numbers of their own, doubled to a tile with an odd anchor and an odd size: the
first cell lies next to a copied one, and the second one is copied. -/
theorem Stage.cells_of_generate_zoom_odd : ∃ tile later,
    ((zoom ⟨12⟩ ⟨7, 5⟩ (sampled "columns" .region ⟨5, 4⟩ fun x z => x * 1000 + z)).generate (-3)
      6).run (.empty 0) = .ok (tile, later) ∧
    tile.get 0 0 = .ok ((⟨12⟩ : Noise).chooseTwo (-4) 5 (-1997) (-997)) ∧
    tile.get 1 0 = .ok (-997) := by
  let source : Stage := sampled "columns" .region ⟨5, 4⟩ fun x z => x * 1000 + z
  have hwired : source.Wired := .sampled
  obtain ⟨lower, hlower⟩ := @exists_tile source hwired (-2) 3 (by decide)
  have hat := tile_occupies hlower
  have hrun : (source.generate (coarse (-3)) (coarse 6)).run (.empty 0) = .ok (lower, .empty 0) :=
    run_lift_eq_ok.mpr ⟨hlower, rfl⟩
  obtain ⟨hanswers, hcells⟩ := @cells_of_generate_zoom ⟨12⟩ ⟨7,
    5⟩ source (-3) 6 _ _ _ _ hrun hat.size_eq (holds_tile hwired hlower)
  obtain ⟨tile, htile⟩ := hanswers (by rw [Grid.doubledSize, hat.size_eq]; decide)
  obtain ⟨-, hread⟩ := hcells tile _ htile
  obtain ⟨-, -, hfirst, -⟩ := hread 0 0 (by decide) (by decide)
  obtain ⟨hsecond, -⟩ := hread 1 0 (by decide) (by decide)
  exact ⟨tile, _, htile, hfirst rfl rfl, hsecond rfl rfl⟩

end Zoom

/-! ## Where a column takes its value from -/

/-- **The source column of a column**, `n` doublings further down: the column that it lies on, or
the next one, unless it is the first one of a block. -/
def Samples (n : Nat) (x u : Coord) : Prop :=
  ∃ a : Int, (a = 0 ∨ a = 1) ∧ (2 ^ n ∣ x.toInt → a = 0) ∧ u.toInt = (x.toInt >>> n) + a

theorem samples_zero (x : Coord) : Samples 0 x x :=
  ⟨0, Or.inl rfl, fun _ => rfl, by rw [Int.shiftRight_zero, Int.add_zero]⟩

theorem shiftRight_eq (h : Int) (n : Nat) : h >>> n = h / 2 ^ n := by
  rw [Int.shiftRight_eq_div_pow]
  norm_cast

/-- A source column reappears where its block begins. -/
theorem Samples.eq_of_mul {n : Nat} {x u u' : Coord} (h : Samples n x u')
    (hx : x.toInt = u.toInt * 2 ^ n) : u' = u := by
  obtain ⟨a, -, hfirst, hu⟩ := h
  have hpos : (0 : Int) < 2 ^ n := Int.pow_pos (by decide)
  rw [hfirst ⟨u.toInt, by rw [hx, Int.mul_comm]⟩, shiftRight_eq, hx,
    Int.mul_ediv_cancel _ (Int.ne_of_gt hpos), Int.add_zero] at hu
  exact Int32.toInt_inj.mp hu

/-- Counting on by one, a shifted number goes up where a multiple is reached. -/
theorem add_one_shiftRight (h : Int) (n : Nat) :
    (h + 1) >>> n = (h >>> n) + if (2 : Int) ^ n ∣ h + 1 then 1 else 0 := by
  have hpos : (0 : Int) < 2 ^ n := Int.pow_pos (by decide)
  rw [shiftRight_eq, shiftRight_eq]
  generalize (2 : Int) ^ n = m at hpos ⊢
  split
  · rename_i hmultiple
    obtain ⟨q, hq⟩ := hmultiple
    have hh : h = (m - 1) + m * (q - 1) := by rw [Int.mul_sub, Int.mul_one, ← hq]; omega
    rw [hq, Int.mul_ediv_cancel_left q (Int.ne_of_gt hpos), hh,
      Int.add_mul_ediv_left _ _ (Int.ne_of_gt hpos), Int.ediv_eq_zero_of_lt (by omega) (by omega)]
    omega
  · rename_i hnone
    obtain ⟨hlow, hhigh⟩ := (Int.ediv_eq_iff_of_pos hpos).mp (rfl : h / m = h / m)
    have hne : h + 1 ≠ h / m * m + m :=
      fun heq => hnone ⟨h / m + 1, by rw [heq, Int.mul_add, Int.mul_one, Int.mul_comm]⟩
    rw [Int.add_zero, Int.ediv_eq_iff_of_pos hpos]
    omega

/-- **One level more.** Only odd columns look ahead. Looking ahead onto the first column of a block
leads to the next source column, and no further; anywhere else it does not lead out of the block. -/
theorem Samples.succ {n : Nat} {x y u : Coord} (hy : y = coarse x ∨ y = coarse x + 1 ∧ phase x ≠ 0)
    (h : Samples n y u) :
    Samples (n + 1) x u := by
  obtain ⟨a, ha, hfirst, hu⟩ := h
  have hshift : x.toInt >>> (n + 1) = (coarse x).toInt >>> n := by
    rw [Nat.add_comm, Int.shiftRight_add, toInt_coarse,
      show x.toInt >>> (1 : Nat) = x.toInt / 2 from shiftRight_eq _ 1]
  have hphase := phase_eq x
  have hdvd : (2 : Int) ^ (n + 1) ∣ x.toInt → phase x = 0 ∧ (2 : Int) ^ n ∣ (coarse x).toInt := by
    rintro ⟨k, hk⟩
    have hhalf : x.toInt = 2 * (2 ^ n * k) := by rw [hk, Int.pow_succ]; grind
    rw [toInt_coarse]
    exact ⟨by omega, k, by omega⟩
  rcases hy with rfl | ⟨rfl, hodd⟩
  · exact ⟨a, ha, fun h => hfirst (hdvd h).2, by rw [hshift, hu]⟩
  · have hnext : (coarse x + 1).toInt = (coarse x).toInt + 1 := by
      have hhigh := x.toInt_lt
      exact @toInt_add_ofNat (coarse x) 1 (by rw [toInt_coarse]; omega)
    rw [hnext] at hfirst hu
    rw [add_one_shiftRight] at hu
    split at hu
    · rename_i hmultiple
      rw [hfirst hmultiple] at hu
      exact ⟨1, Or.inr rfl, fun h => absurd (hdvd h).1 hodd, by omega⟩
    · exact ⟨a, ha, fun h => absurd (hdvd h).1 hodd, by omega⟩

/-- **A doubled column** copies the coarse column that it lies on, or, if it is odd, possibly the
next one. -/
theorem exists_doubledColumn_eq (noise : Noise) (lower : Coord → Coord → Cell)
    (x z : Coord) : ∃ x' z', (x' = coarse x ∨ x' = coarse x + 1 ∧ phase x ≠ 0) ∧
      (z' = coarse z ∨ z' = coarse z + 1 ∧ phase z ≠ 0) ∧
      doubledColumn noise lower x z = lower x' z' := by
  rw [doubledColumn_eq]
  unfold Noise.interpolate
  split
  · exact ⟨_, _, Or.inl rfl, Or.inl rfl, rfl⟩
  · rename_i hz
    rcases noise.chooseTwo_eq (coarse x * 2) (coarse z * 2 + 1) (lower (coarse x) (coarse z))
      (lower (coarse x) (coarse z + 1))
      with heq | heq
    · exact ⟨_, _, Or.inl rfl, Or.inl rfl, heq⟩
    · exact ⟨_, _, Or.inl rfl, Or.inr ⟨rfl, hz⟩, heq⟩
  · rename_i hx
    rcases noise.chooseTwo_eq (coarse x * 2) (coarse z * 2 - 1) (lower (coarse x) (coarse z))
      (lower (coarse x + 1) (coarse z))
      with heq | heq
    · exact ⟨_, _, Or.inl rfl, Or.inl rfl, heq⟩
    · exact ⟨_, _, Or.inr ⟨rfl, hx⟩, Or.inl rfl, heq⟩
  · rename_i hx hz _
    have hmem := noise.chooseFour_mem (coarse x * 2) (coarse z * 2) (lower (coarse x) (coarse z))
      (lower (coarse x + 1) (coarse z)) (lower (coarse x) (coarse z + 1))
        (lower (coarse x + 1) (coarse z + 1))
    simp only [List.mem_cons, List.not_mem_nil, or_false] at hmem
    rcases hmem with heq | heq | heq | heq
    · exact ⟨_, _, Or.inl rfl, Or.inl rfl, heq⟩
    · exact ⟨_, _, Or.inr ⟨rfl, hx⟩, Or.inl rfl, heq⟩
    · exact ⟨_, _, Or.inl rfl, Or.inr ⟨rfl, hz⟩, heq⟩
    · exact ⟨_, _, Or.inr ⟨rfl, hx⟩, Or.inr ⟨rfl, hz⟩, heq⟩

/-! ## Many doublings -/

namespace Stage
variable {base stage : Stage} {n : Nat} {minX minZ : Coord} {store later : TileStore} {tile : Grid}
  {column : Coord → Coord → Cell}

/-- A number of doublings on top of a stage, each of any size and with any noise. -/
inductive Stack (base : Stage) : Nat → Stage → Prop
  | base : Stack base 0 base
  | zoom {n : Nat} {coarser : Stage} (noise : Noise) {size : Size} (h : Stack base n coarser)
      (hsize : coarser.size = size.halved) : Stack base (n + 1) (zoom noise size coarser)

/-- The tiles of the stage are windows of a column function, provided that a tile and two columns
around it do not wrap. -/
def Windows (base : Stage) (column : Coord → Coord → Cell) : Prop :=
  ∀ minX minZ store, Unwrapped minX base.size.width 2 → Unwrapped minZ base.size.height 2 →
    ∃ tile later, (base.generate minX minZ).run store = .ok (tile, later) ∧
      tile.Occupies minX minZ base.size ∧ tile.Shows column

/-- A wired stage of its own is such a stage if memory can hold its tiles. -/
theorem windows_of_wired (hwired : base.Wired) (hbare : base.bare = base) (hcount : base.count = 1)
    (hroom : base.size.Addressable 2) : base.Windows base.column := by
  intro minX minZ store hX hZ
  obtain ⟨tile, htile⟩ := @exists_tile base hwired minX minZ (hcount ▸ hroom)
  have hrun := run_generate_bare base minX minZ store
  rw [hbare, htile] at hrun
  exact ⟨tile, store, hrun, tile_occupies htile,
    shows_tile hwired (hcount ▸ hX) (hcount ▸ hZ) htile⟩

namespace Stack

/-- **What a stack shows.** There is a column function again, and each column takes its value from a
source column. -/
theorem exists_column (h : Stack base n stage) (hbase : base.Windows column) :
    ∃ stacked : Coord → Coord → Cell,
      (∀ x z, ∃ u v, Samples n x u ∧ Samples n z v ∧ stacked x z = column u v) ∧
      ∀ {minX minZ store tile later}, Unwrapped minX stage.size.width (2 * (n + 1)) →
        Unwrapped minZ stage.size.height (2 * (n + 1)) →
        (stage.generate minX minZ).run store = .ok (tile, later) →
        tile.Occupies minX minZ stage.size ∧ tile.Shows stacked := by
  induction h with
  | base =>
      refine ⟨column, fun x z => ⟨x, z, samples_zero x, samples_zero z, rfl⟩,
        fun {minX minZ store tile later} hX hZ hrun => ?_⟩
      obtain ⟨_, _, hsame, hat, hshows⟩ := hbase minX minZ store hX hZ
      cases hrun.symm.trans hsame
      exact ⟨hat, hshows⟩
  | @zoom n coarser noise size h hsize ih =>
      obtain ⟨below, hbelow, hcoarser⟩ := ih
      rw [hsize] at hcoarser
      refine ⟨doubledColumn noise below, fun x z => ?_,
        fun {minX minZ store tile later} hX hZ hrun => ?_⟩
      · obtain ⟨x', z', hx, hz, heq⟩ := exists_doubledColumn_eq noise below x z
        obtain ⟨u, v, hu, hv, hvalue⟩ := hbelow x' z'
        exact ⟨u, v, hu.succ hx, hv.succ hz, heq.trans hvalue⟩
      · obtain ⟨lower, _, hlower, hrun⟩ := run_bind_eq_ok.mp hrun
        obtain ⟨hmade, -⟩ := run_lift_eq_ok.mp hrun
        obtain ⟨hat, hshows⟩ := hcoarser hX.halved hZ.halved hlower
        exact ⟨Grid.occupies_of_zoomed hmade, hshows.zoomed hat hX hZ hmade⟩

/-- If memory can hold the tiles on the way, a stack answers. -/
theorem exists_tile (h : Stack base n stage) (hbase : base.Windows column) : ∀ {minX minZ store},
    Unwrapped minX stage.size.width (2 * (n + 1)) → Unwrapped minZ stage.size.height (2 * (n + 1)) →
    stage.size.Addressable (2 * n) → ∃ tile later,
      (stage.generate minX minZ).run store = .ok (tile, later) := by
  induction h with
  | base =>
      intro minX minZ store hX hZ _
      obtain ⟨tile, later, hrun, -⟩ := hbase minX minZ store hX hZ
      exact ⟨tile, later, hrun⟩
  | @zoom n coarser noise size h hsize ih =>
      intro minX minZ store hX hZ hroom
      obtain ⟨_, -, hcoarser⟩ := h.exists_column hbase
      rw [hsize] at ih hcoarser
      have hhalved : size.halved.Addressable (2 * n) :=
        hroom.mono (by simp only [Stage.size, Size.halved]; omega)
          (by simp only [Stage.size, Size.halved]; omega)
      obtain ⟨lower, later, hlower⟩ := ih hX.halved hZ.halved hhalved
      obtain ⟨hat, -⟩ := hcoarser hX.halved hZ.halved hlower
      have hdoubled : lower.doubledSize.cells < cellLimit := by
        refine hroom.cells_lt ?_ ?_ <;>
          simp only [Grid.doubledSize, hat.size_eq, Stage.size, Size.halved] <;> omega
      obtain ⟨tile, htile⟩ := exists_generate_zoom noise hlower hat.size_eq hdoubled
      exact ⟨tile, later, htile⟩

/-- **Stacked doublings never drift.** Let a tile be given such that it, two columns for every
doubling and two more around it do not wrap. A stack over windows of a column function answers with
the tile whenever memory can hold the tiles on the way. Each column of the tile takes its value from
the source column that it lies on, or from the next one, and the first column of a block from the
one that it lies on. So every source column reappears where its block begins. -/
theorem never_drifts (h : Stack base n stage) (hbase : base.Windows column)
    (hX : Unwrapped minX stage.size.width (2 * n + 2))
    (hZ : Unwrapped minZ stage.size.height (2 * n + 2)) :
    (stage.size.Addressable (2 * n) → ∃ tile later,
      (stage.generate minX minZ).run store = .ok (tile, later)) ∧
    ∀ tile later, (stage.generate minX minZ).run store = .ok (tile, later) →
      tile.Occupies minX minZ stage.size ∧
      (∀ x z, tile.containsWorld x z = true →
        ∃ u v, Samples n x u ∧ Samples n z v ∧ tile.getWorld? x z = some (column u v)) ∧
      ∀ u v x z : Coord, x.toInt = u.toInt * 2 ^ n → z.toInt = v.toInt * 2 ^ n →
        tile.containsWorld x z = true →
        tile.getWorld? x z = some (column u v) := by
  obtain ⟨stacked, hsamples, hshows⟩ := h.exists_column hbase
  refine ⟨h.exists_tile hbase hX hZ, fun tile later hrun => ?_⟩
  obtain ⟨hat, hshow⟩ := hshows hX hZ hrun
  refine ⟨hat, fun x z hin => ?_, fun u v x z hx hz hin => ?_⟩
  · obtain ⟨u, v, hu, hv, hvalue⟩ := hsamples x z
    exact ⟨u, v, hu, hv, by rw [hshow.getWorld?_eq hin, hvalue]⟩
  · obtain ⟨u', v', hu, hv, hvalue⟩ := hsamples x z
    rw [hshow.getWorld?_eq hin, hvalue, hu.eq_of_mul hx, hv.eq_of_mul hz]

/-- Columns with numbers of their own, doubled twice, at an anchor left of the origin. -/
theorem twice_doubled_copies : ∃ tile later,
    ((Stage.zoom ⟨5⟩ ⟨6, 5⟩
      (Stage.zoom ⟨7⟩ ⟨5, 4⟩ (sampled "columns" .region ⟨4, 4⟩ fun x z => x * 1000 + z))).generate
      (-5) 3).run (.empty 0) = .ok (tile, later) ∧ tile.getWorld? (-4) 4 = some (-999) := by
  let source : Stage := sampled "columns" .region ⟨4, 4⟩ fun x z => x * 1000 + z
  have hstack : source.Stack 2 (Stage.zoom ⟨5⟩ ⟨6, 5⟩ (Stage.zoom ⟨7⟩ ⟨5, 4⟩ source)) :=
    .zoom _ (.zoom _ .base rfl) rfl
  have hbase : source.Windows fun x z => x * 1000 + z :=
    windows_of_wired .sampled rfl rfl (by decide)
  obtain ⟨hanswers, hcolumns⟩ :=
    @never_drifts _ _ _ (-5) 3 (.empty 0) _ hstack hbase (by decide) (by decide)
  obtain ⟨tile, later, hrun⟩ := hanswers (by decide)
  obtain ⟨⟨hminX, hminZ, hsize⟩, -, hcopied⟩ := hcolumns tile later hrun
  have hin : tile.containsWorld (-4) 4 = true := by
    rw [Grid.containsWorld_eq_true_iff, hminX, hminZ, hsize]
    decide
  exact ⟨tile, later, hrun, hcopied (-1) 1 (-4) 4 rfl rfl hin⟩

end Stack

end Stage

/-- Doublings at the end of a chain are made into a stack. -/
theorem Chain.Makes.exists_stack {chain : Chain} {folded first : Int32} :
    ∀ {n : Nat} {size : Size} {made : Stage}, (chain.zoomed n first).Makes folded size made →
      ∃ coarsest base, chain.Makes folded coarsest base ∧ base.Stack n made
  | 0, size, made, h => ⟨size, made, h, .base⟩
  | n + 1, size, made, h => by
      rw [zoomed] at h
      generalize hzoomed : chain.zoomed n first = before at h
      cases h with
      | zoom hbefore hmade =>
          subst hzoomed
          obtain ⟨-, hsize, rfl⟩ := Stage.ofZoom_eq_ok_iff.mp hmade
          obtain ⟨coarsest, base, hbase, hstack⟩ := exists_stack hbefore
          exact ⟨coarsest, base, hbase, .zoom _ hstack hsize⟩

end BiomeAtlas
