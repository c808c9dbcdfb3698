import BiomeAtlas.Proofs.Column
import BiomeAtlas.Proofs.Sharing

/-! # Maps without seams

Tiles of one chain fit together. Whatever sizes the chain is built at and wherever the tiles begin,
two tiles hold the same value at every world column that both contain (`Chain.Serves.tiles_agree`):
the value of the column function of the chain, `Chain.column`. So a region comes out the same
however it is divided into tiles.

This is said of tiles with room around them: neither a tile nor the two columns for every stage
around it reach past the largest or the smallest coordinate.
-/
namespace BiomeAtlas.Chain

section One
variable {chain : Chain} {folded : Int32} {size : Size} {stage : Stage} {store later : TileStore}
  {minX minZ : Coord} {tile : Grid}

theorem Serves.occupies (h : chain.Serves folded size stage store)
    (hrun : (stage.generate minX minZ).run store = .ok (tile, later)) :
    tile.Occupies minX minZ size :=
  h.makes.size_eq ▸ Stage.tile_occupies (h.tile_eq hrun)

/-- The columns of a tile are those less far from its anchor than it is wide and high. -/
theorem Serves.containsWorld_iff (h : chain.Serves folded size stage store)
    (hrun : (stage.generate minX minZ).run store = .ok (tile, later)) {x z : Coord} :
    tile.containsWorld x z = true ↔
      (x - minX).toUInt32.toNat < size.width ∧ (z - minZ).toUInt32.toNat < size.height := by
  have hat := h.occupies hrun
  rw [Grid.containsWorld_eq_true_iff, hat.minX_eq, hat.minZ_eq, hat.size_eq]

/-- A tile holds at each place the cell of the stage that the chain makes, whether the tile wraps or
not. -/
theorem Serves.get_eq_cellAt (h : chain.Serves folded size stage store)
    (hrun : (stage.generate minX minZ).run store = .ok (tile, later)) {i j : Nat}
    (hi : i < size.width) (hj : j < size.height) :
    tile.get i j = .ok (stage.bare.cellAt minX minZ i j) := by
  have hat := h.occupies hrun
  exact Stage.holds_tile h.makes.wired (h.tile_eq hrun) i j (hat.size_eq ▸ hi) (hat.size_eq ▸ hj)

/-- A tile holds the values of the column function of the chain. -/
theorem Serves.getWorld?_eq (h : chain.Serves folded size stage store)
    (hX : Unwrapped minX size.width (2 * chain.stageCount))
    (hZ : Unwrapped minZ size.height (2 * chain.stageCount))
    (hrun : (stage.generate minX minZ).run store = .ok (tile, later)) {x z : Coord}
    (hin : tile.containsWorld x z = true) :
    tile.getWorld? x z = some (chain.column folded x z) := by
  have hmakes := h.makes
  rw [← hmakes.size_eq, ← hmakes.count_eq] at hX hZ
  have hshows := Stage.shows_tile hmakes.wired hX hZ (h.tile_eq hrun)
  rw [hmakes.column_eq] at hshows
  exact hshows.getWorld?_eq hin

end One

section Two
variable {chain : Chain} {folded : Int32} {size₁ size₂ : Size} {stage₁ stage₂ : Stage}
  {store₁ store₂ : TileStore} {minX₁ minZ₁ minX₂ minZ₂ : Coord}

/-- **Tiles agree.** Let a chain be in use at two sizes, each with a store or without one, and let
two anchors be given such that the tiles and two columns for every stage around them do not wrap.
Then the tiles are there, as far as memory goes, and at every world column that both contain they
hold the same value, which is the one of the column function of the chain. -/
theorem Serves.tiles_agree (h₁ : chain.Serves folded size₁ stage₁ store₁)
    (h₂ : chain.Serves folded size₂ stage₂ store₂)
    (hX₁ : Unwrapped minX₁ size₁.width (2 * chain.stageCount))
    (hZ₁ : Unwrapped minZ₁ size₁.height (2 * chain.stageCount))
    (hX₂ : Unwrapped minX₂ size₂.width (2 * chain.stageCount))
    (hZ₂ : Unwrapped minZ₂ size₂.height (2 * chain.stageCount)) :
    (size₁.Addressable (2 * chain.stageCount) →
      ∃ tile later, (stage₁.generate minX₁ minZ₁).run store₁ = .ok (tile, later)) ∧
    (size₂.Addressable (2 * chain.stageCount) →
      ∃ tile later, (stage₂.generate minX₂ minZ₂).run store₂ = .ok (tile, later)) ∧
    ∀ tile₁ tile₂ later₁ later₂, (stage₁.generate minX₁ minZ₁).run store₁ = .ok (tile₁, later₁) →
      (stage₂.generate minX₂ minZ₂).run store₂ = .ok (tile₂, later₂) →
      ∀ x z, tile₁.containsWorld x z = true → tile₂.containsWorld x z = true →
        tile₁.getWorld? x z = tile₂.getWorld? x z ∧
        tile₁.getWorld? x z = some (chain.column folded x z) := by
  refine ⟨fun hroom => h₁.exists_tile hroom _ _, fun hroom => h₂.exists_tile hroom _ _, ?_⟩
  intro tile₁ tile₂ later₁ later₂ hrun₁ hrun₂ x z hin₁ hin₂
  have hvalue₁ := h₁.getWorld?_eq hX₁ hZ₁ hrun₁ hin₁
  have hvalue₂ := h₂.getWorld?_eq hX₂ hZ₂ hrun₂ hin₂
  exact ⟨hvalue₁.trans hvalue₂.symm, hvalue₁⟩

end Two

/-- Two tiles of the mask of the rarer biomes, of different sizes and at anchors of different
parity, at the origin. -/
theorem rarerMask_tiles_agree : ∃ stage₁ stage₂,
    (rarerMask.Serves 7 ⟨4, 3⟩ stage₁ (.empty 0) ∧ rarerMask.Serves 7 ⟨2, 2⟩ stage₂ (.empty 0)) ∧
    (Unwrapped (-3) 4 (2 * rarerMask.stageCount) ∧ Unwrapped (-2) 3 (2 * rarerMask.stageCount) ∧
      Unwrapped 0 2 (2 * rarerMask.stageCount) ∧ Unwrapped (-1) 2 (2 * rarerMask.stageCount)) ∧
    ∃ tile₁ tile₂ later₁ later₂, (stage₁.generate (-3) (-2)).run (.empty 0) = .ok (tile₁, later₁) ∧
      (stage₂.generate 0 (-1)).run (.empty 0) = .ok (tile₂, later₂) ∧
      tile₁.getWorld? 0 0 = tile₂.getWorld? 0 0 ∧
      tile₁.getWorld? 0 0 = some (rarerMask.column 7 0 0) := by
  have hserves : ∀ size : Size, size.isEmpty = false → rarerMask.Roomy size →
      ∃ stage, rarerMask.Serves 7 size stage (.empty 0) := by
    intro size hsize hroom
    obtain ⟨made, hmade⟩ := exists_makes 7 wellFormed_rarerMask.beginsWithSource
      wellFormed_rarerMask.composes hsize hroom
    exact ⟨made, .alone (hmade.run_build_alone (.empty 0))⟩
  obtain ⟨stage₁, h₁⟩ := hserves ⟨4, 3⟩ rfl (by decide)
  obtain ⟨stage₂, h₂⟩ := hserves ⟨2, 2⟩ rfl (by decide)
  have hbounds : Unwrapped (-3) 4 (2 * rarerMask.stageCount) ∧
      Unwrapped (-2) 3 (2 * rarerMask.stageCount) ∧
      Unwrapped 0 2 (2 * rarerMask.stageCount) ∧ Unwrapped (-1) 2 (2 * rarerMask.stageCount) := by
    decide
  obtain ⟨hX₁, hZ₁, hX₂, hZ₂⟩ := hbounds
  obtain ⟨hexists₁, hexists₂, hagree⟩ := Serves.tiles_agree h₁ h₂ hX₁ hZ₁ hX₂ hZ₂
  obtain ⟨tile₁, later₁, hrun₁⟩ := hexists₁ (by decide)
  obtain ⟨tile₂, later₂, hrun₂⟩ := hexists₂ (by decide)
  have hin : tile₁.containsWorld 0 0 = true ∧ tile₂.containsWorld 0 0 = true := by
    have hat₁ := Stage.tile_occupies (h₁.tile_eq hrun₁)
    have hat₂ := Stage.tile_occupies (h₂.tile_eq hrun₂)
    rw [h₁.makes.size_eq] at hat₁
    rw [h₂.makes.size_eq] at hat₂
    rw [Grid.containsWorld_eq_true_iff, Grid.containsWorld_eq_true_iff, hat₁.minX_eq,
      hat₁.minZ_eq, hat₁.size_eq, hat₂.minX_eq, hat₂.minZ_eq, hat₂.size_eq]
    decide
  exact ⟨stage₁, stage₂, ⟨h₁, h₂⟩, ⟨hX₁, hZ₁, hX₂, hZ₂⟩, tile₁, tile₂, later₁, later₂, hrun₁, hrun₂,
    hagree tile₁ tile₂ later₁ later₂ hrun₁ hrun₂ 0 0 hin.1 hin.2⟩

end BiomeAtlas.Chain
