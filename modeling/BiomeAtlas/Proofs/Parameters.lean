import BiomeAtlas.Proofs.Closure

/-! # Parameters are checked once

The parameters of a world are checked twice: by `LayerParams.validate`, all at once, and by the
wiring functions, each number where the stage is wired that it belongs to. The two agree
(`LayerParams.validate_eq_ok_iff_exists_build`). What is accepted in advance is never refused later,
so that a pipeline of the world can be built from it; and what is refused in advance could not have
been wired.

The one parameter that the wiring functions do not look at is the number of doublings: any number of
them can be wired. So the agreement is said of parameters in which both numbers of doublings are in
range.

Only the last steps of the chain of the world can be short of room. Before them the size is halved,
and from then on the halos of the world are far smaller than what has become free.
-/
namespace BiomeAtlas

namespace Chain
variable {params : LayerParams}

/-! ## What a world that composes says about its parameters -/

theorem composes_of_zoomed {chain : Chain} {first : Int32} :
    ∀ count, (chain.zoomed count first).Composes → chain.Composes
  | 0, h => h
  | count + 1, h => composes_of_zoomed count h.1

theorem composes_of_replaced : ∀ {replacements : List Replacement} {chain : Chain} {first : Int32},
    (chain.replaced replacements first).Composes → chain.Composes ∧
      ∀ replacement ∈ replacements, 0 ≤ replacement.chancePermille ∧
        replacement.chancePermille ≤ 1000
  | [], _, _, h => ⟨h, fun _ hmem => by cases hmem⟩
  | replacement :: later, chain, first, h => by
      obtain ⟨⟨hchain, hfits⟩, hlater⟩ := @composes_of_replaced later _ (first + 1) h
      exact ⟨hchain, List.forall_mem_cons.mpr ⟨hfits.inRange, hlater⟩⟩

/-- **Valid parameters are those that make the world compose**, as long as the numbers of doublings
are in range. -/
theorem valid_iff_composes_world (hcontinent : params.continentZoomLevels ≤ maxZoomLevels)
    (hriver : params.riverZoomLevels ≤ maxZoomLevels) : params.Valid ↔ (world params).Composes := by
  constructor
  · intro h
    exact (wellFormed_world h).composes
  · intro h
    -- from the last step to the first: the details, the biomes, the groups
    obtain ⟨⟨⟨⟨⟨⟨⟨⟨⟨⟨⟨⟨⟨hexchanged, hseeds⟩, hdeep⟩, -⟩, -⟩, -⟩, -⟩, -⟩, -⟩, -⟩, -⟩, -⟩, -⟩, -⟩ := h
    obtain ⟨⟨hgroups, hmaterialize⟩, hreplacements⟩ := composes_of_replaced hexchanged
    obtain ⟨⟨⟨⟨⟨⟨⟨⟨hcontinents, -⟩, -⟩, -⟩, hislands⟩, -⟩, -⟩, -⟩, hrare⟩ := hgroups
    obtain ⟨-, hland⟩ := composes_of_zoomed _ hcontinents
    exact ⟨hland, hislands.inRange, hrare.inRange, hseeds.inRange, hdeep.inRange, hreplacements,
      hcontinent, hriver, hmaterialize.candidates⟩

/-! ## Room for the world -/

theorem hasRoom_zoomed {rule : Source} {offset first : Int32} : ∀ (count : Nat) (size : Size),
    ((empty.stage (.source rule) offset).zoomed count first).HasRoom size
  | 0, _ => trivial
  | count + 1, size => hasRoom_zoomed count size.halved

theorem hasRoom_replaced :
    ∀ {replacements : List Replacement} {chain : Chain} {first : Int32} {size : Size},
    (chain.replaced replacements first).HasRoom size ↔ chain.HasRoom size
  | [], _, _, _ => Iff.rfl
  | _ :: later, _, first, _ => @hasRoom_replaced later _ (first + 1) _

/-- **One halo is all the room that the world asks for.** -/
theorem hasRoom_world {size : Size} (hwidth : size.width + 2 < wordLimit)
    (hheight : size.height + 2 < wordLimit) :
    (world params).HasRoom size := by
  have hlimit : wordLimit = 2 ^ 64 := by decide
  -- one inequality for each side of each halo; all but those of the outermost halo are about sizes
  -- that have been halved
  simp only [world, groups, rivers, hillsMask, rarerMask, HasRoom, hasRoom_replaced, hasRoom_zoomed,
    Size.halved, and_true]
  omega

/-- The chain of the world makes a stage of every size with room for one halo. -/
theorem exists_makes_world (h : params.Valid) (folded : Int32) {size : Size}
    (hsize : size.width ≠ 0 ∧ size.height ≠ 0) (hwidth : size.width + 2 < wordLimit)
    (hheight : size.height + 2 < wordLimit) :
    ∃ made, (world params).Makes folded size made := by
  have hwell := wellFormed_world h
  exact exists_makes_of_hasRoom folded hwell.beginsWithSource hwell.composes
    (Size.isEmpty_eq_false_iff.mpr hsize)
    (hasRoom_world hwidth hheight)

end Chain

/-- A pipeline of the world is built from valid parameters at every size with room for one halo. It
resolves tiles of biomes of that size, and has the stages of the chain of the world, no more and no
fewer. -/
theorem PipelineSpec.exists_build_world {spec : PipelineSpec} (hworld : spec.chain? = none)
    (hvalid : spec.params.Valid) (hsize : spec.tileSize.width ≠ 0 ∧ spec.tileSize.height ≠ 0)
    (hwidth : spec.tileSize.width + 2 < wordLimit)
    (hheight : spec.tileSize.height + 2 < wordLimit) :
    ∃ pipeline, spec.build = .ok pipeline ∧ pipeline.alphabet = .biome ∧
      pipeline.tileSize = spec.tileSize ∧
      pipeline.stageCount = (Chain.world spec.params).stageCount ∧
      pipeline.root.count = pipeline.stageCount := by
  have hchain : spec.chain = .world spec.params := by rw [PipelineSpec.chain, hworld]; rfl
  obtain ⟨made, hmade⟩ := Chain.exists_makes_world hvalid (foldSeed spec.seed) hsize hwidth hheight
  obtain ⟨pipeline, hbuild, hroot, hcount⟩ := exists_build_of_makes hvalid (hchain ▸ hmade)
  rw [hchain] at hcount
  refine ⟨pipeline, hbuild, ?_, ?_, hcount, ?_⟩
  · rw [Pipeline.alphabet, ← Stage.alphabet_bare, hroot, hmade.alphabet_eq, Chain.writes_world]
  · rw [Pipeline.tileSize, ← Stage.size_bare, hroot, hmade.size_eq]
  · rw [hcount, ← Stage.count_bare, hroot, hmade.count_eq]

/-! ## The two checks agree -/

namespace LayerParams
variable {params : LayerParams} {size : Size}

/-- **The validator and the wiring agree.** Let both numbers of doublings be in range, and let a
tile have cells and room for one halo. Then the parameters validate if, and only if, the chain of
the world is built, for any seed and with any store or without one. And from parameters that
validate a pipeline is built for every world seed and every capacity of its store: it resolves tiles
of biomes of the size that was asked for, and has the stages of the chain of the world, no more and
no fewer. -/
theorem validate_eq_ok_iff_exists_build (hcontinent : params.continentZoomLevels ≤ maxZoomLevels)
    (hriver : params.riverZoomLevels ≤ maxZoomLevels) (hsize : size.width ≠ 0 ∧ size.height ≠ 0)
    (hwidth : size.width + 2 < wordLimit) (hheight : size.height + 2 < wordLimit) :
    (∀ (cached : Bool) (folded : Int32) (store : TileStore), params.validate = .ok () ↔
      ∃ built store',
        ((Chain.world params).build cached folded size).run store = .ok (built, store')) ∧
    (params.validate = .ok () → ∀ (seed : Int64) (cacheCapacity : Nat),
      ∃ pipeline, PipelineSpec.build ⟨seed, params, size, cacheCapacity, none⟩ = .ok pipeline ∧
        pipeline.alphabet = .biome ∧ pipeline.tileSize = size ∧
        pipeline.stageCount = (Chain.world params).stageCount ∧
        pipeline.root.count = pipeline.stageCount) := by
  constructor
  · intro cached folded store
    rw [validate_eq_ok_iff]
    constructor
    · intro hvalid
      obtain ⟨made, hmade⟩ := Chain.exists_makes_world hvalid folded hsize hwidth hheight
      obtain ⟨built, store', hbuild, -⟩ := hmade.exists_build cached store
      exact ⟨built, store', hbuild⟩
    · rintro ⟨built, store', hbuild⟩
      exact (Chain.valid_iff_composes_world hcontinent hriver).mpr
        (Chain.makes_of_build hbuild).composes
  · intro hvalidate seed cacheCapacity
    exact PipelineSpec.exists_build_world rfl (validate_eq_ok_iff.mp hvalidate) hsize hwidth hheight

/-- A pipeline with a store for the widest tile that has room for one halo, from parameters with as
many doublings as can be asked for. And a world with a chance that is out of range: neither does it
validate nor is it built. -/
theorem widest_world_is_built :
    ((8 : UInt32) ≤ maxZoomLevels ∧ 2 ^ 64 - 3 + 2 < wordLimit ∧ 1 + 2 < wordLimit) ∧
    (validate { continentZoomLevels := 8, riverZoomLevels := 8 } = .ok () ∧
      ∃ pipeline, PipelineSpec.build ⟨-1, { continentZoomLevels := 8, riverZoomLevels := 8 },
        ⟨2 ^ 64 - 3, 1⟩, 5, none⟩ = .ok pipeline ∧ pipeline.alphabet = .biome ∧
    pipeline.tileSize = ⟨2 ^ 64 - 3, 1⟩) ∧
    ¬ ∃ built store', ((Chain.world { deepOceanChancePermille := 1001 }).build true 0 ⟨2 ^ 64 - 3,
      1⟩).run (.empty 3) = .ok (built, store') := by
  refine ⟨by decide, ⟨rfl, ?_⟩, ?_⟩
  · obtain ⟨pipeline, hbuild, halphabet, hsize, -⟩ := (@validate_eq_ok_iff_exists_build
      { continentZoomLevels := 8, riverZoomLevels := 8 } ⟨2 ^ 64 - 3, 1⟩ (by decide) (by decide)
        (by decide) (by decide)
      (by decide)).2 rfl (-1) 5
    exact ⟨pipeline, hbuild, halphabet, hsize⟩
  · intro hbuild
    have hvalidate := ((@validate_eq_ok_iff_exists_build { deepOceanChancePermille := 1001 }
      ⟨2 ^ 64 - 3, 1⟩ (by decide) (by decide) (by decide) (by decide) (by decide)).1 true 0
      (.empty 3)).mpr hbuild
    exact absurd (validate_eq_ok_iff.mp hvalidate).deepOcean.2 (by decide)

end LayerParams
end BiomeAtlas
