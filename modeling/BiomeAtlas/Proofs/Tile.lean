import BiomeAtlas.Chain.Build
import BiomeAtlas.Proofs.Doubling

/-! # Stages without a store

`Stage.generate` carries a tile store along, which may answer requests from memory. What a stage
means does not depend on it: `Stage.tile` is the tile at an anchor computed from the stage alone,
and `Stage.bare` is the stage without its places in a store. That generating yields `Stage.tile`, as
long as the store is in order, is the subject of `BiomeAtlas.Proofs.Store`.

The first part says which cells each kind of stage makes out of the cells it reads.
-/
namespace BiomeAtlas

/-! ## The cells each rule makes -/

namespace CrossRule
variable {rule : CrossRule} {noise : Noise} {size : Size} {haloed tile : Grid} {minX minZ : Coord}

/-- Each cell is decided from the cross around it. -/
theorem cells_of_generate (h : rule.generate noise size haloed minX minZ = .ok tile) :
    tile.Occupies minX minZ size ∧ ∀ i j, i < size.width → j < size.height →
      ∃ cross, Cross.around haloed i j = .ok cross ∧
        tile.get i j =
          .ok (rule.apply noise cross (minX + Int32.ofNat i) (minZ + Int32.ofNat j)) := by
  obtain ⟨-, hat, hcells⟩ := Grid.tabulate_eq_ok_iff.mp h
  refine ⟨hat, fun i j hi hj => ?_⟩
  obtain ⟨value, hvalue⟩ : ∃ value, tile.get i j = .ok value :=
    Grid.exists_get (hat.size_eq ▸ hi) (hat.size_eq ▸ hj)
  have hcell := hcells i j hi hj
  rw [hvalue] at hcell
  obtain ⟨cross, hcross, hcell⟩ := bind_eq_ok.mp hcell
  cases hcell
  exact ⟨cross, hcross, hvalue⟩

end CrossRule

namespace Source
variable {source : Source} {noise : Noise} {size : Size} {tile : Grid} {minX minZ : Coord}

/-- Each cell is drawn at its column, except for the cell taken for the origin of the world. -/
theorem cells_of_generate (h : source.generate noise size minX minZ = .ok tile) :
    tile.Occupies minX minZ size ∧ ∀ i j, i < size.width → j < size.height →
      tile.get i j = .ok (
        if (source.settlesOrigin && tile.containsWorld 0 0) = true ∧ i = minX.toInt.natAbs ∧
        j = minZ.toInt.natAbs then Group.temperate.id
        else source.draw noise (minX + Int32.ofNat i) (minZ + Int32.ofNat j)) := by
  obtain ⟨drawn, hdrawn, h⟩ := bind_eq_ok.mp h
  obtain ⟨-, hat, hcells⟩ := Grid.tabulate_eq_ok_iff.mp hdrawn
  have hcontains : tile.size = drawn.size → tile.minX = drawn.minX → tile.minZ = drawn.minZ →
      tile.containsWorld 0 0 = drawn.containsWorld 0 0 := by
    intro hs hx hz
    simp only [Grid.containsWorld, Grid.localIndex?, hs, hx, hz]
  split at h
  · rename_i hsettle
    obtain ⟨-, hset, -⟩ := Grid.set_eq_ok_iff.mp h
    refine ⟨⟨hset.minX_eq.trans hat.minX_eq, hset.minZ_eq.trans hat.minZ_eq,
      hset.size_eq.trans hat.size_eq⟩, fun i j hi hj => ?_⟩
    rw [Grid.get_of_set h (hat.size_eq ▸ hi), hcontains hset.size_eq hset.minX_eq hset.minZ_eq,
      ← hcells i j hi hj]
    by_cases hij : i = minX.toInt.natAbs ∧ j = minZ.toInt.natAbs
    · rw [if_pos hij, if_pos ⟨hsettle, hij⟩]
    · rw [if_neg hij, if_neg fun hp => hij hp.2]
      rfl
  · rename_i hsettle
    cases h
    refine ⟨hat, fun i j hi hj => ?_⟩
    rw [if_neg fun hp => hsettle hp.1, ← hcells i j hi hj]
    rfl

end Source

/-! ## Stages -/

namespace Stage

/-- The tile at an anchor, computed from the stage alone. -/
def tile : Stage → Coord → Coord → Except Fault Grid
  | source rule noise size, minX, minZ => rule.generate noise size minX minZ
  | sampled _ _ size field, minX, minZ =>
    Grid.tabulate minX minZ size fun x z =>
      return field (minX + Int32.ofNat x) (minZ + Int32.ofNat z)
  | zoom noise size coarser, minX, minZ => do
    let lower ← coarser.tile (coarse minX) (coarse minZ)
    lower.zoomed noise size minX minZ
  | cross rule noise size input, minX, minZ => do
    let haloed ← input.tile (minX - 1) (minZ - 1)
    rule.generate noise size haloed minX minZ
  | cell rule noise input, minX, minZ => do
    let grid ← input.tile minX minZ
    rule.generate noise grid minX minZ
  | blend rule base overlay, minX, minZ => do
    let second ← overlay.tile minX minZ
    let first ← base.tile minX minZ
    first.blend second rule.apply
  | cached _ input, minX, minZ => input.tile minX minZ

/-- The stage without its places in a store. -/
def bare : Stage → Stage
  | source rule noise size => source rule noise size
  | sampled name alphabet size field => sampled name alphabet size field
  | zoom noise size coarser => zoom noise size coarser.bare
  | cross rule noise size input => cross rule noise size input.bare
  | cell rule noise input => cell rule noise input.bare
  | blend rule base overlay => blend rule base.bare overlay.bare
  | cached _ input => input.bare

/-- The number of stages in the tree; a place in a store is not a stage. -/
def count : Stage → Nat
  | source .. | sampled .. => 1
  | zoom _ _ input | cross _ _ _ input | cell _ _ input => input.count + 1
  | blend _ base overlay => base.count + (overlay.count + 1)
  | cached _ input => input.count

@[simp] theorem size_bare : ∀ stage : Stage, stage.bare.size = stage.size
  | source .. | sampled .. | zoom .. | cross .. => rfl
  | cell _ _ input | cached _ input => size_bare input
  | blend _ base _ => size_bare base

@[simp] theorem alphabet_bare : ∀ stage : Stage, stage.bare.alphabet = stage.alphabet
  | source .. | sampled .. | blend .. => rfl
  | zoom _ _ input | cached _ input => alphabet_bare input
  | cross rule _ _ input => congrArg rule.writes (alphabet_bare input)
  | cell rule _ input => congrArg rule.writes (alphabet_bare input)

/-- Places in a store do not change what a stage means. -/
@[simp] theorem tile_bare : ∀ stage : Stage, stage.bare.tile = stage.tile
  | source .. | sampled .. => rfl
  | zoom _ _ input => by funext minX minZ; simp only [bare, tile, tile_bare input]
  | cross _ _ _ input => by funext minX minZ; simp only [bare, tile, tile_bare input]
  | cell _ _ input => by funext minX minZ; simp only [bare, tile, tile_bare input]
  | blend _ base overlay => by
    funext minX minZ; simp only [bare, tile, tile_bare base, tile_bare overlay]
  | cached _ input => tile_bare input

/-- A tile lies where it was asked for and has the size of the stage. -/
theorem tile_occupies {tile : Grid} : ∀ {stage : Stage} {minX minZ : Coord},
    stage.tile minX minZ = .ok tile → tile.Occupies minX minZ stage.size
  | source .., _, _, h => (Source.cells_of_generate h).1
  | sampled .., _, _, h => (Grid.tabulate_eq_ok_iff.mp h).2.1
  | zoom .., _, _, h => by
      obtain ⟨lower, -, h⟩ := bind_eq_ok.mp h
      exact Grid.occupies_of_zoomed h
  | cross .., _, _, h => by
      obtain ⟨haloed, -, h⟩ := bind_eq_ok.mp h
      exact (CrossRule.cells_of_generate h).1
  | cell _ _ input, _, _, h => by
      obtain ⟨grid, hgrid, h⟩ := bind_eq_ok.mp h
      have hinput := tile_occupies hgrid
      have hmade := (Grid.mapColumns_eq_ok_iff.mp h).2.1
      rwa [hinput.minX_eq, hinput.minZ_eq, hinput.size_eq] at hmade
  | blend _ base _, _, _, h => by
      obtain ⟨second, -, h⟩ := bind_eq_ok.mp h
      obtain ⟨first, hfirst, h⟩ := bind_eq_ok.mp h
      have hbase := tile_occupies hfirst
      have hmade := (Grid.blend_eq_ok_iff.mp h).2.1
      rwa [hbase.minX_eq, hbase.minZ_eq, hbase.size_eq] at hmade
  | cached _ input, _, _, h => @tile_occupies tile input _ _ h

end Stage
end BiomeAtlas
