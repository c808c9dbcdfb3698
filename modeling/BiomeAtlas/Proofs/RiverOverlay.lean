import BiomeAtlas.Proofs.Parameters
import BiomeAtlas.Proofs.Seamless

/-! # Rivers are an overlay

The map of rivers comes from a chain of its own and is laid over the finished biomes in the last
step. So the number of doublings in that chain, which spaces the rivers, moves rivers and changes
nothing else: two worlds that only differ in it agree at a cell, or one of them has a river there
where the other one has none (`PipelineSpec.Reaches.differ_in_rivers`).

The reason is that both chains are the same up to the last step, and a step does not see what comes
behind it: neither the seeds nor the sizes of the stages below depend on the overlay. What the
overlay does to a cell is then a matter of one rule, whatever the markers are
(`BlendRule.withRiver_differ`). Biomes that are rivers already, by the table of candidates or by an
exchange, look the same with a river through them.
-/
namespace BiomeAtlas

/-! ## One cell under two maps of rivers -/

/-- A river runs through a cell that has neither open water nor a river without it: a frozen river
if the biome is very cold, a river otherwise. -/
structure Crossed (value crossed : Cell) : Prop where
  dry : isOcean value = false
  not_river : value ≠ Biome.river.id
  not_frozen : value ≠ Biome.frozenRiver.id
  eq : crossed = if isVeryCold value = true then Biome.frozenRiver.id else Biome.river.id

namespace BlendRule

/-- The overlay keeps a cell or puts a river through it. -/
theorem withRiver_eq_or_crossed (value marker : Cell) :
    withRiver value marker = value ∨ Crossed value (withRiver value marker) := by
  unfold withRiver
  by_cases hkept : (isOcean value || marker != Biome.river.id) = true
  · exact Or.inl (if_pos hkept)
  · rw [if_neg hkept]
    by_cases hriver : value = Biome.river.id
    · subst hriver
      exact Or.inl (by decide)
    · by_cases hfrozen : value = Biome.frozenRiver.id
      · subst hfrozen
        exact Or.inl (by decide)
      · have hdry : isOcean value = false := by
          cases hocean : isOcean value with
          | false => rfl
          | true => exact absurd (by rw [hocean, Bool.true_or]) hkept
        exact Or.inr ⟨hdry, hriver, hfrozen, rfl⟩

/-- Two overlays over the same biome agree, or one of them has a river and the other one has the
biome. -/
theorem withRiver_differ (value marker marker' : Cell) :
    withRiver value marker = withRiver value marker' ∨
    Crossed (withRiver value marker) (withRiver value marker') ∨
      Crossed (withRiver value marker') (withRiver value marker) := by
  rcases withRiver_eq_or_crossed value marker with h | h
  · rcases withRiver_eq_or_crossed value marker' with h' | h'
    · exact Or.inl (h.trans h'.symm)
    · rw [h]
      exact Or.inr (Or.inl h')
  · rcases withRiver_eq_or_crossed value marker' with h' | h'
    · rw [h']
      exact Or.inr (Or.inr h)
    · exact Or.inl (h.eq.trans h'.eq.symm)

end BlendRule

/-! ## One chain under two maps of rivers -/

namespace Chain

/-- Chains that only differ in the map of rivers differ in rivers, at every place of every tile. -/
theorem Makes.cellAt_differ {before rivers rivers' : Chain} {offset folded : Int32} {size : Size}
    {made made' : Stage} (h : (before.blend .mixRivers rivers offset).Makes folded size made)
    (h' : (before.blend .mixRivers rivers' offset).Makes folded size made')
    (minX minZ : Coord) (i j : Nat) :
    made.cellAt minX minZ i j = made'.cellAt minX minZ i j ∨
      Crossed (made.cellAt minX minZ i j) (made'.cellAt minX minZ i j) ∨
      Crossed (made'.cellAt minX minZ i j) (made.cellAt minX minZ i j) := by
  cases h with
  | blend hbefore _ hmade =>
      cases h' with
      | blend hbefore' _ hmade' =>
          obtain rfl := hbefore.unique hbefore'
          obtain ⟨-, -, rfl⟩ := Stage.ofBlend_eq_ok_iff.mp hmade
          obtain ⟨-, -, rfl⟩ := Stage.ofBlend_eq_ok_iff.mp hmade'
          exact BlendRule.withRiver_differ _ _ _

/-- The chain without its last step. -/
def dropLast : Chain → Chain
  | empty => empty
  | stage before _ _ => before
  | blend before _ _ _ => before

/-- The number of doublings that spaces the rivers only occurs in the map of rivers. -/
theorem world_eq_blend (params : LayerParams) (levels : UInt32) :
    world { params with riverZoomLevels := levels } =
      (world params).dropLast.blend .mixRivers (rivers levels) 52 :=
  rfl

end Chain

/-! ## Two worlds -/

namespace PipelineSpec
variable {spec spec' : PipelineSpec} {pipeline pipeline' : Pipeline}

/-- **The setting for rivers only moves rivers.** Let two pipelines of the world, with stores or
without, be built for the same seed and tile size from parameters that agree but for the number of
doublings of the map of rivers, and let them be in any states. At every anchor both resolve a tile,
as far as memory goes. At each place the two tiles hold the same value, or exactly one of the values
is a river: a frozen one if the other value is very cold, which is neither open water nor a
river. -/
theorem Reaches.differ_in_rivers (h : spec.Reaches pipeline) (h' : spec'.Reaches pipeline')
    (hworld : spec.chain? = none) (hworld' : spec'.chain? = none) (hseed : spec'.seed = spec.seed)
    (hsize : spec'.tileSize = spec.tileSize)
    (hparams : spec'.params = { spec.params with riverZoomLevels := spec'.params.riverZoomLevels })
    (minX minZ : Coord) :
    (spec.tileSize.Addressable (2 * (Chain.world spec.params).stageCount) →
      ∃ tile after, pipeline.resolve minX minZ = .ok (tile, after)) ∧
    (spec.tileSize.Addressable (2 * (Chain.world spec'.params).stageCount) →
      ∃ tile' after', pipeline'.resolve minX minZ = .ok (tile', after')) ∧
    ∀ tile after tile' after', pipeline.resolve minX minZ = .ok (tile, after) →
      pipeline'.resolve minX minZ = .ok (tile', after') →
      (tile.Occupies minX minZ spec.tileSize ∧ tile'.Occupies minX minZ spec.tileSize) ∧
      ∀ i j, i < spec.tileSize.width → j < spec.tileSize.height → ∃ value value',
        tile.get i j = .ok value ∧ tile'.get i j = .ok value' ∧
          (value = value' ∨ Crossed value value' ∨ Crossed value' value) := by
  obtain ⟨hruns, -⟩ := h.world hworld
  obtain ⟨hruns', -⟩ := h'.world hworld'
  rw [hseed, hsize] at hruns'
  refine ⟨fun hroom => hruns.exists_resolve hroom minX minZ,
    fun hroom => hruns'.exists_resolve hroom minX minZ, ?_⟩
  intro tile after tile' after' hresolve hresolve'
  obtain ⟨store, hrun, rfl⟩ := Pipeline.resolve_eq_ok_iff.mp hresolve
  obtain ⟨store', hrun', rfl⟩ := Pipeline.resolve_eq_ok_iff.mp hresolve'
  refine ⟨⟨hruns.occupies hrun, hruns'.occupies hrun'⟩, fun i j hi hj => ?_⟩
  refine ⟨_, _, hruns.get_eq_cellAt hrun hi hj, hruns'.get_eq_cellAt hrun' hi hj, ?_⟩
  -- both chains are the same below the overlay
  have hmakes := hruns.makes
  have hmakes' := hruns'.makes
  rw [hparams, Chain.world_eq_blend] at hmakes'
  have hsame : spec.params = { spec.params with riverZoomLevels := spec.params.riverZoomLevels } :=
    rfl
  rw [hsame, Chain.world_eq_blend] at hmakes
  exact hmakes.cellAt_differ hmakes' minX minZ i j

/-- The default world, and the same one with a store and rivers that are as close together as can
be, at the origin. -/
theorem default_world_differs_in_rivers : ∃ pipeline pipeline',
    (Reaches ⟨5, {}, ⟨1, 1⟩, 0, none⟩ pipeline ∧
      Reaches ⟨5, { riverZoomLevels := 0 }, ⟨1, 1⟩, 8, none⟩ pipeline') ∧
    ∃ tile after tile' after' value value', pipeline.resolve 0 0 = .ok (tile, after) ∧
      pipeline'.resolve 0 0 = .ok (tile', after') ∧ tile.get 0 0 = .ok value ∧
      tile'.get 0 0 = .ok value' ∧
      (value = value' ∨ Crossed value value' ∨ Crossed value' value) := by
  obtain ⟨pipeline, hpipeline, -⟩ := @exists_build_world ⟨5, {}, ⟨1, 1⟩, 0, none⟩ rfl
    (LayerParams.validate_eq_ok_iff.mp rfl) (by decide) (by decide) (by decide)
  obtain ⟨pipeline', hpipeline', -⟩ :=
    @exists_build_world ⟨5, { riverZoomLevels := 0 }, ⟨1, 1⟩, 8, none⟩ rfl
    (LayerParams.validate_eq_ok_iff.mp rfl) (by decide) (by decide) (by decide)
  have hreaches := Reaches.built hpipeline
  have hreaches' := Reaches.built hpipeline'
  obtain ⟨hexists, hexists', hdiffer⟩ := hreaches.differ_in_rivers hreaches' rfl rfl rfl rfl rfl 0 0
  obtain ⟨tile, after, hresolve⟩ := hexists (by decide)
  obtain ⟨tile', after', hresolve'⟩ := hexists' (by decide)
  obtain ⟨-, hcells⟩ := hdiffer tile after tile' after' hresolve hresolve'
  obtain ⟨value, value', hvalue, hvalue', hcell⟩ := hcells 0 0 (by decide) (by decide)
  exact ⟨pipeline, pipeline', ⟨hreaches, hreaches'⟩, tile, after, tile', after', value, value',
    hresolve, hresolve', hvalue, hvalue', hcell⟩

end PipelineSpec
end BiomeAtlas
