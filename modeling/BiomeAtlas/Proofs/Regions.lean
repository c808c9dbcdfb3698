import BiomeAtlas.Proofs.Closure
import BiomeAtlas.Proofs.Crews

/-! # Regions

A region of adjacent tiles is the same grid however it is put together
(`PipelineSpec.Uses.region_eq_tiles`). Its cells are those of its tiles, whether these are resolved
one after the other or by any number of workers, and in whatever order the workers deliver them.
-/
namespace BiomeAtlas

/-! ## Pipelines in use -/

/-- **The states of a pipeline in use**: as it was built, after tiles have been resolved, and at any
moment while a crew resolves a region. -/
inductive PipelineSpec.Uses (spec : PipelineSpec) : Pipeline → Prop
  | built {pipeline : Pipeline} (h : spec.build = .ok pipeline) : Uses spec pipeline
  | resolved {pipeline after : Pipeline} {minX minZ : Coord} {tile : Grid} (h : Uses spec pipeline)
      (hrun : pipeline.resolve minX minZ = .ok (tile, after)) : Uses spec after
  | crew {pipeline : Pipeline} {minX minZ : Coord} {tilesX tilesZ threads n : Nat}
      {start crew : Crew} (h : Uses spec pipeline)
      (hstart : pipeline.crew minX minZ tilesX tilesZ threads = .ok start)
      (hrun : Crew.Reaches pipeline.root start n crew) :
      Uses spec { pipeline with store := crew.store }

namespace Pipeline
variable {owners : Owners} {pipeline after : Pipeline} {minX minZ : Coord}
  {tilesX tilesZ threads : Nat} {start : Crew}

/-- The store is orderly, and the places in it are those of the root. -/
structure Tidy (pipeline : Pipeline) (owners : Owners) : Prop where
  places : pipeline.root.Places owners.Owns
  orderly : Orderly owners pipeline.store

/-- A tidy pipeline resolves the tiles of its root, and stays tidy. -/
theorem Tidy.exists_resolve (h : pipeline.Tidy owners) (minX minZ : Coord) : ∃ store,
    pipeline.resolve minX minZ =
      (pipeline.root.tile minX minZ).map (fun tile => (tile, { pipeline with store })) ∧
      Orderly owners store := by
  obtain ⟨store, hrun, horderly⟩ :=
    Stage.yields_generate (fun _ _ _ _ => Orderly.yields_fetch) h.places minX minZ
    pipeline.store h.orderly
  refine ⟨store, ?_, horderly⟩
  rw [resolve, hrun]
  cases pipeline.root.tile minX minZ <;> rfl

theorem Tidy.resolve {tile : Grid} (h : pipeline.Tidy owners)
    (hrun : pipeline.resolve minX minZ = .ok (tile, after)) :
    pipeline.root.tile minX minZ = .ok tile ∧ after.Tidy owners ∧ after.root = pipeline.root := by
  obtain ⟨store, hresolve, horderly⟩ := h.exists_resolve minX minZ
  rw [hrun] at hresolve
  cases htile : pipeline.root.tile minX minZ with
  | error e =>
      rw [htile] at hresolve
      cases hresolve
  | ok found =>
      rw [htile] at hresolve
      cases hresolve
      exact ⟨rfl, ⟨h.places, horderly⟩, rfl⟩

/-- A crew that is put together begins with all jobs in the queue, and a region without tiles. -/
theorem crew_eq_ok_iff : pipeline.crew minX minZ tilesX tilesZ threads = .ok start ↔
    ¬ (wordLimit ≤ tilesX * pipeline.tileSize.width ∨
      wordLimit ≤ tilesZ * pipeline.tileSize.height ∨
      wordLimit ≤ tilesX * tilesZ) ∧
    ∃ region, Grid.zero minX minZ ⟨tilesX * pipeline.tileSize.width,
      tilesZ * pipeline.tileSize.height⟩ = .ok region ∧
      start = ⟨anchors pipeline.tileSize minX minZ tilesX tilesZ,
        List.replicate (min (max threads 1)
          (anchors pipeline.tileSize minX minZ tilesX tilesZ).length) .idle, [],
        pipeline.store, region⟩ := by
  unfold crew
  dsimp only
  split
  · rename_i hlarge
    exact iff_of_false (fun h => by cases h) fun h => h.1 hlarge
  · rename_i hsmall
    rw [and_iff_right hsmall, bind_eq_ok]
    exact exists_congr fun region => and_congr_right fun _ => ok_eq_ok_iff

theorem resolveRegion_eq_ok_iff {region : Grid} :
    pipeline.resolveRegion minX minZ tilesX tilesZ = .ok (region, after) ↔
    ¬ (wordLimit ≤ tilesX * pipeline.tileSize.width ∨
      wordLimit ≤ tilesZ * pipeline.tileSize.height ∨
      wordLimit ≤ tilesX * tilesZ) ∧
    ∃ blank, Grid.zero minX minZ ⟨tilesX * pipeline.tileSize.width,
      tilesZ * pipeline.tileSize.height⟩ = .ok blank ∧
      pipeline.resolveInto blank (anchors pipeline.tileSize minX minZ tilesX tilesZ) =
        .ok (region, after) := by
  unfold resolveRegion
  dsimp only
  split
  · rename_i hlarge
    exact iff_of_false (fun h => by cases h) fun h => h.1 hlarge
  · rename_i hsmall
    rw [and_iff_right hsmall]
    exact bind_eq_ok

end Pipeline

namespace PipelineSpec
variable {spec : PipelineSpec} {pipeline : Pipeline}

/-- A pipeline as it was built is tidy. -/
theorem exists_tidy_of_build (hroom : spec.chain.doublings ≤ 2 ^ 32)
    (h : spec.build = .ok pipeline) :
    ∃ owners, pipeline.Tidy owners := by
  by_cases hcapacity : spec.cacheCapacity = 0
  · -- without a store there are no places in it, and it stays empty
    obtain ⟨-, h⟩ := check_bind_eq_ok.mp h
    obtain ⟨⟨root, store⟩, hbuild, h⟩ := bind_eq_ok.mp h
    rw [hcapacity] at hbuild h
    cases h
    have halone := (Chain.makes_of_build hbuild).run_build_alone (.empty 0)
    obtain ⟨hroot, hstore⟩ := Prod.mk.inj (Except.ok.inj (halone.symm.trans hbuild))
    refine ⟨[], ?_, ?_⟩
    · change root.Places _
      rw [← hroot]
      exact Stage.places_bare _ _
    · change Orderly [] store
      rw [← hstore]
      exact .empty 0
  · obtain ⟨owners, hnumbers, -⟩ := numbers_of_build hcapacity hroom h
    refine ⟨owners, hnumbers.places, ?_⟩
    rw [hnumbers.store_eq]
    exact (Orderly.empty spec.cacheCapacity).handOut owners

/-- **A pipeline in use** is tidy, and its root is still the stage that was built. -/
theorem Uses.exists_tidy (hroom : spec.chain.doublings ≤ 2 ^ 32) (h : spec.Uses pipeline) :
    spec.chain.Makes (foldSeed spec.seed) spec.tileSize pipeline.root.bare ∧ ∃ owners,
      pipeline.Tidy owners := by
  induction h with
  | built h => exact ⟨(runs_of_build hroom h).makes, exists_tidy_of_build hroom h⟩
  | resolved _ hrun ih =>
      obtain ⟨hmakes, owners, htidy⟩ := ih
      obtain ⟨-, hafter, hroot⟩ := htidy.resolve hrun
      exact ⟨hroot ▸ hmakes, owners, hafter⟩
  | @crew pipeline _ _ _ _ _ _ start _ _ hstart hrun ih =>
      obtain ⟨hmakes, owners, htidy⟩ := ih
      obtain ⟨-, blank, -, hcrew⟩ := Pipeline.crew_eq_ok_iff.mp hstart
      have hsound : start.Sound owners pipeline.root fun _ _ => True := by
        rw [hcrew]
        refine ⟨htidy.orderly, fun _ _ _ => trivial, fun work hmem => ?_,
          fun tile hmem => by cases hmem⟩
        cases (List.mem_replicate.mp hmem).2
      exact ⟨hmakes, owners, htidy.places, (hsound.reaches htidy.places hrun).orderly⟩

end PipelineSpec

/-! ## Tile by tile -/

namespace Pipeline
variable {owners : Owners} {layout : Layout}

/-- **One tile after the other**: the region shows each of them from the time it has been pasted. -/
theorem Tidy.exists_resolveInto (hfits : layout.Fits) :
    ∀ {anchors : List (Coord × Coord)} {pipeline : Pipeline} {region : Grid},
    pipeline.Tidy owners → pipeline.root.size = layout.tile →
    region.Occupies layout.minX layout.minZ layout.size →
    (∀ x z, (x, z) ∈ anchors → Crew.Asked layout x z ∧ ∃ tile, pipeline.root.tile x z = .ok tile) →
    ∃ result after, pipeline.resolveInto region anchors = .ok (result, after) ∧
      result.Occupies layout.minX layout.minZ layout.size ∧
      ∀ tx tz, layout.Has tx tz →
        layout.Shows pipeline.root region tx tz ∨ (layout.anchorX tx, layout.anchorZ tz) ∈ anchors →
        layout.Shows pipeline.root result tx tz
  | [], pipeline, region, _, _, hregion, _ => by
      refine ⟨region, pipeline, rfl, hregion, fun tx tz _ h => ?_⟩
      rcases h with h | h
      · exact h
      · cases h
  | (x, z) :: later, pipeline, region, htidy, hsize, hregion, hanchors => by
      obtain ⟨⟨tx, tz, hhas, rfl, rfl⟩, tile, htile⟩ := hanchors x z (List.mem_cons_self ..)
      obtain ⟨store, hresolve, horderly⟩ :=
        htidy.exists_resolve (layout.anchorX tx) (layout.anchorZ tz)
      rw [htile] at hresolve
      obtain ⟨pasted, hpaste, hat, hshown⟩ := hfits.shows_paste hsize hhas hregion htile
      obtain ⟨result, after, hlater, hresult, hall⟩ :=
        @Tidy.exists_resolveInto hfits later { pipeline with store } pasted
        ⟨htidy.places, horderly⟩ hsize hat fun x z hmem =>
          hanchors x z (List.mem_cons_of_mem _ hmem)
      refine ⟨result, after, ?_, hresult, fun tx' tz' hhas' h => hall tx' tz' hhas' ?_⟩
      · rw [resolveInto, hresolve]
        exact bind_eq_ok.mpr ⟨_, rfl, bind_eq_ok.mpr ⟨pasted, hpaste, hlater⟩⟩
      · rcases h with h | h
        · exact Or.inl (hshown tx' tz' hhas' (Or.inl h))
        · rcases List.mem_cons.mp h with heq | hmem
          · obtain ⟨hx, hz⟩ := Prod.mk.inj heq
            exact Or.inl (hshown tx' tz' hhas' (Or.inr (by rw [hx, hz, htile])))
          · exact Or.inr hmem

end Pipeline

/-! ## By any number of workers -/

namespace Pipeline
variable {owners : Owners} {pipeline : Pipeline} {layout : Layout}

/-- When a crew begins, all tiles are in the queue. -/
theorem Tidy.complete_crew {blank : Grid} (htidy : pipeline.Tidy owners) (threads : Nat)
    (hblank : blank.Occupies layout.minX layout.minZ layout.size) :
    let jobs := anchors layout.tile layout.minX layout.minZ layout.tilesX layout.tilesZ
    Crew.Complete owners pipeline.root layout
      ⟨jobs, List.replicate (min (max threads 1) jobs.length) .idle, [],
        pipeline.store, blank⟩ := by
  refine ⟨⟨htidy.orderly, fun x z hmem => ?_, fun work hmem => ?_, fun tile hmem => ?_⟩, hblank,
    fun tx tz hhas => ?_, fun hnobody => ?_⟩
  · exact Layout.mem_anchors_iff.mp hmem
  · cases (List.mem_replicate.mp hmem).2
  · cases hmem
  · exact .queued (Layout.mem_anchors_iff.mpr ⟨tx, tz, hhas, rfl, rfl⟩)
  · have hnone := (List.replicate_eq_nil_iff _).mp hnobody
    change anchors _ _ _ _ _ = []
    exact List.length_eq_zero_iff.mp (by omega)

/-- **One region**: all tiles of a layout together are what results one after the other, and by any
number of workers. -/
theorem Tidy.exists_region (htidy : pipeline.Tidy owners) (hsize : pipeline.tileSize = layout.tile)
    (hfits : layout.Fits) (htiles : ∀ tx tz, layout.Has tx tz → ∃ tile,
      pipeline.root.tile (layout.anchorX tx) (layout.anchorZ tz) = .ok tile) :
    ∃ region : Grid, region.Occupies layout.minX layout.minZ layout.size ∧
      (∀ tx tz, layout.Has tx tz → layout.Shows pipeline.root region tx tz) ∧
      (∃ after, pipeline.resolveRegion layout.minX layout.minZ layout.tilesX layout.tilesZ =
        .ok (region, after)) ∧
      ∀ threads, ∃ start,
        pipeline.crew layout.minX layout.minZ layout.tilesX layout.tilesZ threads = .ok start ∧
        start.Succeeds pipeline.root region := by
  obtain ⟨blank, hblank, hat, -⟩ := Grid.exists_zero hfits.cells_lt
  obtain ⟨region, after, hrun, hregion, hshows⟩ :=
      htidy.exists_resolveInto hfits hsize hat fun x z hmem => by
    obtain ⟨tx, tz, hhas, hx, hz⟩ := Layout.mem_anchors_iff.mp hmem
    exact ⟨⟨tx, tz, hhas, hx, hz⟩, hx ▸ hz ▸ htiles tx tz hhas⟩
  have hall : ∀ tx tz, layout.Has tx tz → layout.Shows pipeline.root region tx tz := by
    intro tx tz hhas
    exact hshows tx tz hhas (Or.inr (Layout.mem_anchors_iff.mpr ⟨tx, tz, hhas, rfl, rfl⟩))
  refine ⟨region, hregion, hall, ⟨after, ?_⟩, fun threads => ?_⟩
  · rw [resolveRegion_eq_ok_iff, hsize]
    exact ⟨hfits.narrow.words, blank, hblank, hrun⟩
  · have hcomplete := htidy.complete_crew threads hat
    refine ⟨_, crew_eq_ok_iff.mpr ⟨hsize ▸ hfits.narrow.words, blank, hsize ▸ hblank, rfl⟩, ?_⟩
    rw [hsize]
    refine hcomplete.succeeds htidy.places hsize hfits ⟨_, Crew.allWithin_replicate _,
      Nat.le_refl _⟩ htiles
      fun grid hgrid hgridShows => ?_
    -- there is only one grid that shows all the tiles
    refine Grid.eq_of_get ?_ fun x z hx hz => ?_
    · rw [hregion.minX_eq, hregion.minZ_eq, hregion.size_eq]
      exact hgrid
    · rw [hregion.size_eq] at hx hz
      obtain ⟨tile, htile⟩ := htiles _ _ (hfits.position hx hz).1
      rw [hfits.get_of_shows hgridShows hx hz htile, hfits.get_of_shows hall hx hz htile]

end Pipeline

namespace PipelineSpec
variable {spec : PipelineSpec} {pipeline : Pipeline} {minX minZ : Coord} {tilesX tilesZ : Nat}

/-- **A region is made of its tiles.** Let a pipeline be in use and a region be asked for in which
no two columns and no two rows have the same coordinate and whose cells memory can hold. As far as
memory goes, each of its tiles can be resolved; let that be so. Then there is one grid, at the
anchor of the region and of its size, with the cells of these tiles, and it is the grid that results
when the tiles are resolved one after the other. It also results with any number of workers, in
whatever order they use the store and deliver the tiles: they come to an end, nothing fails on the
way, and the grid is whole. -/
theorem Uses.region_eq_tiles (hroom : spec.chain.doublings ≤ 2 ^ 32) (h : spec.Uses pipeline)
    (hwidth : tilesX * spec.tileSize.width < 2 ^ 32)
    (hheight : tilesZ * spec.tileSize.height < 2 ^ 32)
    (hcells : tilesX * spec.tileSize.width * (tilesZ * spec.tileSize.height) < cellLimit) :
    (spec.tileSize.Addressable (2 * spec.chain.stageCount) →
      ∀ x z, ∃ tile after, pipeline.resolve x z = .ok (tile, after)) ∧
    ((∀ tx tz, tx < tilesX → tz < tilesZ → ∃ tile after,
      pipeline.resolve (minX + Int32.ofNat (tx * spec.tileSize.width))
        (minZ + Int32.ofNat (tz * spec.tileSize.height)) = .ok (tile, after)) →
      ∃ region : Grid,
        region.Occupies minX minZ ⟨tilesX * spec.tileSize.width, tilesZ * spec.tileSize.height⟩ ∧
        (∀ x z, x < tilesX * spec.tileSize.width → z < tilesZ * spec.tileSize.height →
          ∃ tile after value,
            pipeline.resolve (minX + Int32.ofNat (x / spec.tileSize.width * spec.tileSize.width))
                (minZ + Int32.ofNat (z / spec.tileSize.height * spec.tileSize.height)) =
              .ok (tile, after) ∧
          tile.get (x % spec.tileSize.width) (z % spec.tileSize.height) = .ok value ∧
          region.get x z = .ok value) ∧
        (∃ after, pipeline.resolveRegion minX minZ tilesX tilesZ = .ok (region, after)) ∧
        ∀ threads, ∃ start, pipeline.crew minX minZ tilesX tilesZ threads = .ok start ∧
          start.Succeeds pipeline.root region) := by
  obtain ⟨hmakes, owners, htidy⟩ := h.exists_tidy hroom
  have hsize : pipeline.root.size = spec.tileSize := by rw [← Stage.size_bare, hmakes.size_eq]
  refine ⟨fun haddressable x z => ?_, fun htiles => ?_⟩
  · obtain ⟨tile, htile⟩ := @Stage.exists_tile pipeline.root.bare hmakes.wired x z
      (by rw [hmakes.size_eq, hmakes.count_eq]; exact haddressable)
    obtain ⟨store, hresolve, -⟩ := htidy.exists_resolve x z
    rw [← Stage.tile_bare, htile] at hresolve
    exact ⟨tile, _, hresolve⟩
  · have hnonempty : spec.tileSize.isEmpty = false := hmakes.nonempty
    have hfits : Layout.Fits ⟨minX, minZ, spec.tileSize, tilesX, tilesZ⟩ :=
      ⟨hwidth, hheight, hcells, hnonempty⟩
    have hexists : ∀ tx tz, Layout.Has ⟨minX, minZ, spec.tileSize, tilesX, tilesZ⟩ tx tz →
        ∃ tile, pipeline.root.tile (minX + Int32.ofNat (tx * spec.tileSize.width))
          (minZ + Int32.ofNat (tz * spec.tileSize.height)) = .ok tile := by
      intro tx tz hhas
      obtain ⟨tile, after, hresolve⟩ := htiles tx tz hhas.1 hhas.2
      exact ⟨tile, (htidy.resolve hresolve).1⟩
    obtain ⟨region, hregion, hshows, hsequential, hcrews⟩ :=
      @Pipeline.Tidy.exists_region owners pipeline
      ⟨minX, minZ, spec.tileSize, tilesX, tilesZ⟩ htidy hsize hfits hexists
    refine ⟨region, hregion, fun x z hx hz => ?_, hsequential, hcrews⟩
    obtain ⟨hhas, hcolumn, hrow⟩ := hfits.position hx hz
    obtain ⟨tile, after, hresolve⟩ := htiles _ _ hhas.1 hhas.2
    have htile := (htidy.resolve hresolve).1
    have hat := Stage.tile_occupies htile
    obtain ⟨value, hvalue⟩ :=
      @Grid.exists_get tile (x % spec.tileSize.width) (z % spec.tileSize.height)
      (by rw [hat.size_eq, hsize]; exact hcolumn) (by rw [hat.size_eq, hsize]; exact hrow)
    exact ⟨tile, after, value, hresolve, hvalue,
      (hfits.get_of_shows hshows hx hz htile).trans hvalue⟩

/-- Two by three tiles of the mask of the rarer biomes, on a store with room for four tiles, at an
anchor where columns wrap. -/
theorem Uses.rarerMask_region_eq_tiles : ∃ pipeline,
    (PipelineSpec.Uses ⟨7, {}, ⟨3, 2⟩, 4, some Chain.rarerMask⟩ pipeline ∧
      Chain.rarerMask.doublings ≤ 2 ^ 32 ∧
      2 * 3 < 2 ^ 32 ∧ 3 * 2 < 2 ^ 32 ∧ 2 * 3 * (3 * 2) < cellLimit) ∧
    (∀ tx tz, tx < 2 → tz < 3 → ∃ tile after,
      pipeline.resolve (2147483645 + Int32.ofNat (tx * 3)) (-1 + Int32.ofNat (tz * 2)) =
        .ok (tile, after)) ∧
    ∃ region : Grid, region.Occupies 2147483645 (-1) ⟨6, 6⟩ ∧
      (∃ after, pipeline.resolveRegion 2147483645 (-1) 2 3 = .ok (region, after)) ∧
      ∀ threads, ∃ start, pipeline.crew 2147483645 (-1) 2 3 threads = .ok start ∧
        start.Succeeds pipeline.root region := by
  obtain ⟨pipeline, hbuild⟩ := @exists_build ⟨7, {}, ⟨3, 2⟩, 4, some Chain.rarerMask⟩
    (LayerParams.validate_eq_ok_iff.mp rfl) Chain.wellFormed_rarerMask rfl (by decide)
  have huses := Uses.built hbuild
  have hroom : Chain.rarerMask.doublings ≤ 2 ^ 32 := by decide
  obtain ⟨hresolves, hregions⟩ :=
    @Uses.region_eq_tiles ⟨7, {}, ⟨3, 2⟩, 4, some Chain.rarerMask⟩ pipeline 2147483645 (-1) 2 3
    hroom huses (by decide) (by decide) (by decide)
  have htiles := hresolves (by decide)
  obtain ⟨region, hregion, -, hsequential, hcrews⟩ := hregions fun tx tz _ _ => htiles _ _
  exact ⟨pipeline, ⟨huses, hroom, by decide, by decide, by decide⟩, fun tx tz _ _ => htiles _ _,
    region, hregion, hsequential, hcrews⟩

/-- All tiles of a region can be resolved, and still no memory can hold the region. -/
theorem Uses.region_has_too_many_cells : ∃ pipeline,
    PipelineSpec.Uses ⟨0, {}, ⟨65536, 65536⟩, 0,
      some (Chain.empty.stage (.source (.choice 2)) 1)⟩ pipeline ∧
    (32768 * 65536 < 2 ^ 32 ∧ ∀ x z, ∃ tile after, pipeline.resolve x z = .ok (tile, after)) ∧
    pipeline.resolveRegion 0 0 32768 32768 = .error .tooManyCells ∧
    ∀ threads, pipeline.crew 0 0 32768 32768 threads = .error .tooManyCells := by
  have hbuild : PipelineSpec.build ⟨0, {}, ⟨65536, 65536⟩, 0,
      some (Chain.empty.stage (.source (.choice 2)) 1)⟩ =
      .ok ⟨0, .source (.choice 2) ⟨1⟩ ⟨65536, 65536⟩, 1, .empty 0, false⟩ := rfl
  have huses := Uses.built hbuild
  have hrange : (Source.choice 2).InRange := Int32.lt_iff_toInt_lt.mpr (by decide)
  refine ⟨_, huses, ⟨by decide, fun x z => ?_⟩, ?_, fun threads => ?_⟩
  · obtain ⟨-, owners, htidy⟩ := huses.exists_tidy (by decide)
    obtain ⟨tile, htile⟩ :=
      @Stage.exists_tile (.source (.choice 2) ⟨1⟩ ⟨65536, 65536⟩) (.source rfl hrange) x z
      (by decide)
    obtain ⟨store, hresolve, -⟩ := htidy.exists_resolve x z
    exact ⟨tile, _, hresolve.trans (congrArg (Except.map _) htile)⟩
  · rfl
  · rfl

end PipelineSpec

end BiomeAtlas
