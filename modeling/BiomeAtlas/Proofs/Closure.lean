import BiomeAtlas.Pipeline
import BiomeAtlas.Proofs.World

/-! # Alphabets are kept

Every cell that a stage writes is a member of the alphabet that the stage reports. The rules do
their part (`BiomeAtlas.Proofs.Values`); this module puts it together for stages, for chains and for
the world.

A stage honours its alphabet with respect to labels for the numbers of a store: from a store in
which every tile is in the alphabet of its number, it makes a tile of its own alphabet and leaves
such a store. One more stage on top of stages that honour their alphabets honours its own
(`Stage.honours_of_over`), and so do the stages that chains make.
-/
namespace BiomeAtlas

/-! ## Stages on top of stages -/

/-- Every stored tile is in the alphabet of its number. -/
def TileStore.Labelled (labels : UInt32 → Alphabet) (store : TileStore) : Prop :=
  ∀ key tile, store.find? key = some tile → tile.Within (labels key.stage)

theorem TileStore.Labelled.insert {labels : UInt32 → Alphabet} {store : TileStore}
    {key : TileKey} {tile : Grid} (h : store.Labelled labels)
    (htile : tile.Within (labels key.stage)) : (store.insert key tile).Labelled labels := by
  intro key' found hfind
  rw [find?_insert] at hfind
  split at hfind
  · rename_i hkey
    cases hkey
    cases hfind
    exact htile
  · exact h key' found hfind

namespace Stage
variable {labels : UInt32 → Alphabet}

/-- **The stage honours the alphabet it reports**, with any store whose tiles are as labelled. -/
def Honours (labels : UInt32 → Alphabet) (stage : Stage) : Prop :=
  ∀ minX minZ store tile store', store.Labelled labels →
    (stage.generate minX minZ).run store = .ok (tile, store') →
    tile.Within stage.alphabet ∧ store'.Labelled labels

/-- **One stage put on top of others** by the wiring functions, where all the others have a
property. A stage that keeps tiles needs the label of its number to be the alphabet of the stage it
keeps the tiles of. -/
inductive Over (upstream : Stage → Prop) (labels : UInt32 → Alphabet) : Stage → Prop
  | source {rule : Source} {seed : Int32} {size : Size} {stage : Stage}
      (h : ofSource rule seed size = .ok stage) :
      Over upstream labels stage
  | zoom {seed : Int32} {size : Size} {input stage : Stage} (hinput : upstream input)
      (h : ofZoom seed size input = .ok stage) : Over upstream labels stage
  | cross {rule : CrossRule} {seed : Int32} {size : Size} {input stage : Stage}
      (hinput : upstream input) (h : ofCross rule seed size input = .ok stage) :
      Over upstream labels stage
  | cell {rule : CellRule} {seed : Int32} {input stage : Stage} (hinput : upstream input)
      (h : ofCell rule seed input = .ok stage) : Over upstream labels stage
  | blend {rule : BlendRule} {base overlay stage : Stage} (hbase : upstream base)
      (hoverlay : upstream overlay) (h : ofBlend rule base overlay = .ok stage) :
      Over upstream labels stage
  | cached {input : Stage} {store : TileStore} (hinput : upstream input)
      (hlabel : labels store.nextStage = input.alphabet) :
      Over upstream labels ((ofCached input).run store).1

/-- A given function of the world column, whose values are members of the alphabet it is given
with. -/
theorem honours_sampled {name : String} {alphabet : Alphabet} {size : Size}
    {field : Coord → Coord → Cell} (h : ∀ x z, alphabet.contains (field x z) = true) :
    (sampled name alphabet size field).Honours labels := by
  intro minX minZ store tile store' hstore hrun
  obtain ⟨hmade, rfl⟩ := run_lift_eq_ok.mp hrun
  obtain ⟨-, hat, hcells⟩ := Grid.tabulate_eq_ok_iff.mp hmade
  refine ⟨Grid.within_of_get hat.size_eq fun i j hi hj =>
    ⟨_, (hcells i j hi hj).symm, h _ _⟩, hstore⟩

theorem honours_cached {number : UInt32} {input : Stage} (hinput : input.Honours labels)
    (hlabel : labels number = input.alphabet) : (cached number input).Honours labels := by
  intro minX minZ store tile store' hstore hrun
  change tile.Within input.alphabet ∧ _
  rw [generate, TileStore.run_fetch] at hrun
  cases hfind : store.find? ⟨number, minX, minZ, input.size⟩ with
  | some found =>
      rw [hfind] at hrun
      cases hrun
      exact ⟨hlabel ▸ hstore _ _ hfind, hstore⟩
  | none =>
      rw [hfind] at hrun
      obtain ⟨⟨made, store₁⟩, hmade, hrun⟩ := bind_eq_ok.mp hrun
      obtain ⟨hwithin, hstore₁⟩ := hinput _ _ _ _ _ hstore hmade
      have hkeep := Except.ok.inj hrun
      -- a tile that nested requests have stored is as labelled as one stored from the start
      rcases store₁.keep_cases ⟨number, minX, minZ, input.size⟩ made with
        ⟨-, heq⟩ | ⟨existing, hexisting, heq⟩ | ⟨-, -, heq⟩
      · cases hkeep.symm.trans heq
        exact ⟨hwithin, hstore₁⟩
      · cases hkeep.symm.trans heq
        exact ⟨hlabel ▸ hstore₁ _ _ hexisting, hstore₁⟩
      · cases hkeep.symm.trans heq
        exact ⟨hwithin, hstore₁.insert (hlabel ▸ hwithin)⟩

/-- **A stage over stages that honour their alphabets honours its own.** -/
theorem honours_of_over {stage : Stage} (h : stage.Over (Honours labels) labels) :
    stage.Honours labels := by
  cases h with
  | source h =>
      obtain ⟨-, -, rfl⟩ := ofSource_eq_ok_iff.mp h
      intro minX minZ store tile store' hstore hrun
      obtain ⟨hmade, rfl⟩ := run_lift_eq_ok.mp hrun
      exact ⟨Source.within hmade, hstore⟩
  | zoom hinput h =>
      obtain ⟨-, -, rfl⟩ := ofZoom_eq_ok_iff.mp h
      intro minX minZ store tile store' hstore hrun
      obtain ⟨lower, store₁, hlower, hrun⟩ := run_bind_eq_ok.mp hrun
      obtain ⟨hwithin, hstore₁⟩ := hinput _ _ _ _ _ hstore hlower
      obtain ⟨hmade, rfl⟩ := run_lift_eq_ok.mp hrun
      exact ⟨Grid.within_zoomed hwithin hmade, hstore₁⟩
  | cross hinput h =>
      obtain ⟨-, -, hfits, rfl⟩ := ofCross_eq_ok_iff.mp h
      intro minX minZ store tile store' hstore hrun
      obtain ⟨haloed, store₁, hhaloed, hrun⟩ := run_bind_eq_ok.mp hrun
      obtain ⟨hwithin, hstore₁⟩ := hinput _ _ _ _ _ hstore hhaloed
      obtain ⟨hmade, rfl⟩ := run_lift_eq_ok.mp hrun
      exact ⟨CrossRule.within hfits hwithin hmade, hstore₁⟩
  | cell hinput h =>
      obtain ⟨hfits, rfl⟩ := ofCell_eq_ok_iff.mp h
      intro minX minZ store tile store' hstore hrun
      obtain ⟨grid, store₁, hgrid, hrun⟩ := run_bind_eq_ok.mp hrun
      obtain ⟨hwithin, hstore₁⟩ := hinput _ _ _ _ _ hstore hgrid
      obtain ⟨hmade, rfl⟩ := run_lift_eq_ok.mp hrun
      exact ⟨CellRule.within hfits hwithin hmade, hstore₁⟩
  | blend hbase hoverlay h =>
      obtain ⟨-, hfits, rfl⟩ := ofBlend_eq_ok_iff.mp h
      intro minX minZ store tile store' hstore hrun
      obtain ⟨second, store₁, hsecond, hrun⟩ := run_bind_eq_ok.mp hrun
      obtain ⟨-, hstore₁⟩ := hoverlay _ _ _ _ _ hstore hsecond
      obtain ⟨first, store₂, hfirst, hrun⟩ := run_bind_eq_ok.mp hrun
      obtain ⟨hwithin, hstore₂⟩ := hbase _ _ _ _ _ hstore₁ hfirst
      obtain ⟨hmade, rfl⟩ := run_lift_eq_ok.mp hrun
      exact ⟨BlendRule.within hfits hwithin hmade, hstore₂⟩
  | cached hinput hlabel => exact honours_cached hinput hlabel

end Stage

/-! ## Chains -/

namespace Chain
variable {chain : Chain} {folded : Int32} {size : Size} {stage made : Stage}
  {store later : TileStore} {minX minZ : Coord} {tile : Grid}

/-- Step by step, a chain puts stages on stages that honour their alphabets. -/
theorem Makes.honours (labels : UInt32 → Alphabet) (h : chain.Makes folded size made) :
    made.Honours labels := by
  induction h with
  | source h => exact Stage.honours_of_over (.source h)
  | zoom _ h ih => exact Stage.honours_of_over (.zoom ih h)
  | cross _ _ h ih => exact Stage.honours_of_over (.cross ih h)
  | cell _ h ih => exact Stage.honours_of_over (.cell ih h)
  | blend _ _ h ih ih' => exact Stage.honours_of_over (.blend ih ih' h)

/-- A chain in use keeps the alphabet it reports. -/
theorem Serves.within (h : chain.Serves folded size stage store)
    (hrun : (stage.generate minX minZ).run store = .ok (tile, later)) :
    tile.Within stage.alphabet := by
  -- Alone, the stage makes the same tile, and an empty store is as labelled, whatever the labels.
  have halone := Stage.run_generate_bare stage minX minZ (.empty 0)
  rw [← Stage.tile_bare, h.tile_eq hrun] at halone
  have hempty : (TileStore.empty 0).Labelled fun _ => .region := fun _ _ _ _ _ => rfl
  have hwithin := (h.makes.honours _ minX minZ _ tile _ hempty halone).1
  rwa [Stage.alphabet_bare] at hwithin

end Chain

/-! ## Worlds -/

/-- **The states of a pipeline**: as it was built, and after tiles and regions have been
resolved. -/
inductive PipelineSpec.Reaches (spec : PipelineSpec) : Pipeline → Prop
  | built {pipeline : Pipeline} (h : spec.build = .ok pipeline) : Reaches spec pipeline
  | resolved {pipeline after : Pipeline} {minX minZ : Coord} {tile : Grid}
      (h : Reaches spec pipeline) (hrun : pipeline.resolve minX minZ = .ok (tile, after)) :
      Reaches spec after
  | resolvedRegion {pipeline after : Pipeline} {minX minZ : Coord} {tilesX tilesZ : Nat}
      {region : Grid} (h : Reaches spec pipeline)
      (hrun : pipeline.resolveRegion minX minZ tilesX tilesZ = .ok (region, after)) :
      Reaches spec after

namespace Pipeline
variable {chain : Chain} {folded : Int32} {size : Size} {pipeline after : Pipeline}
  {minX minZ : Coord} {tile : Grid}

/-- The pipeline holds a chain in use. -/
abbrev Runs (pipeline : Pipeline) (chain : Chain) (folded : Int32) (size : Size) : Prop :=
  chain.Serves folded size pipeline.root pipeline.store

/-- To resolve a tile is to ask the stage for it, and to keep the store. -/
theorem resolve_eq_ok_iff : pipeline.resolve minX minZ = .ok (tile, after) ↔
    ∃ store, (pipeline.root.generate minX minZ).run pipeline.store = .ok (tile, store) ∧
      after = { pipeline with store } := by
  constructor
  · intro h
    obtain ⟨⟨found, store⟩, hgenerate, h⟩ := bind_eq_ok.mp h
    cases h
    exact ⟨store, hgenerate, rfl⟩
  · rintro ⟨store, hgenerate, rfl⟩
    exact bind_eq_ok.mpr ⟨(tile, store), hgenerate, rfl⟩

/-- A pipeline resolves a tile, if memory can hold what the tile is made from. -/
theorem Runs.exists_resolve (h : pipeline.Runs chain folded size)
    (hroom : size.Addressable (2 * chain.stageCount)) (minX minZ : Coord) :
    ∃ tile after, pipeline.resolve minX minZ = .ok (tile, after) := by
  obtain ⟨tile, store, hgenerate⟩ := h.exists_tile hroom minX minZ
  exact ⟨tile, _, resolve_eq_ok_iff.mpr ⟨store, hgenerate, rfl⟩⟩

theorem Runs.resolve (h : pipeline.Runs chain folded size)
    (hrun : pipeline.resolve minX minZ = .ok (tile, after)) :
    tile.Within pipeline.alphabet ∧ after.Runs chain folded size ∧
    after.alphabet = pipeline.alphabet := by
  obtain ⟨store, hgenerate, rfl⟩ := resolve_eq_ok_iff.mp hrun
  exact ⟨h.within hgenerate, h.ask hgenerate, rfl⟩

theorem Runs.resolveInto :
    ∀ {anchors : List (Coord × Coord)} {pipeline : Pipeline} {region result : Grid},
    pipeline.Runs chain folded size → region.Within pipeline.alphabet →
    pipeline.resolveInto region anchors = .ok (result, after) →
    result.Within pipeline.alphabet ∧ after.Runs chain folded size
  | [], _, _, _, h, hregion, hrun => by
      cases hrun
      exact ⟨hregion, h⟩
  | (x, z) :: later, pipeline, region, result, h, hregion, hrun => by
      obtain ⟨⟨tile, next⟩, hresolve, hrun⟩ := bind_eq_ok.mp hrun
      obtain ⟨pasted, hpaste, hrun⟩ := bind_eq_ok.mp hrun
      obtain ⟨htile, hnext, halphabet⟩ := Runs.resolve h hresolve
      have hpasted := Grid.within_paste hregion htile hpaste
      rw [← halphabet] at hpasted ⊢
      exact Runs.resolveInto hnext hpasted hrun

theorem Runs.resolveRegion {tilesX tilesZ : Nat} {region : Grid}
    (h : pipeline.Runs chain folded size)
    (hrun : pipeline.resolveRegion minX minZ tilesX tilesZ = .ok (region, after)) :
    region.Within pipeline.alphabet ∧ after.Runs chain folded size := by
  unfold Pipeline.resolveRegion at hrun
  dsimp only at hrun
  split at hrun
  · cases hrun
  · obtain ⟨blank, hblank, hrun⟩ := bind_eq_ok.mp hrun
    exact h.resolveInto (Grid.within_zero hblank) hrun

end Pipeline

namespace PipelineSpec
variable {spec : PipelineSpec} {pipeline : Pipeline}

/-- A pipeline is built from valid parameters and a chain that makes a stage of the tile size; its
root is that stage, up to places in the store. -/
theorem exists_build_of_makes {made : Stage} (hvalid : spec.params.Valid)
    (hmade : spec.chain.Makes (foldSeed spec.seed) spec.tileSize made) :
    ∃ pipeline, spec.build = .ok pipeline ∧ pipeline.root.bare = made ∧
      pipeline.stageCount = spec.chain.stageCount := by
  obtain ⟨root, store, hbuild, hroot⟩ :=
    hmade.exists_build (spec.cacheCapacity != 0) (.empty spec.cacheCapacity)
  exact ⟨_, check_bind_eq_ok.mpr ⟨LayerParams.validate_eq_ok_iff.mpr hvalid,
    bind_eq_ok.mpr ⟨_, hbuild, rfl⟩⟩, hroot, rfl⟩

/-- A pipeline can be built from valid parameters and a well-formed chain. -/
theorem exists_build (hvalid : spec.params.Valid) (hwell : spec.chain.WellFormed)
    (hsize : spec.tileSize.isEmpty = false) (hroomy : spec.chain.Roomy spec.tileSize) :
    ∃ pipeline, spec.build = .ok pipeline := by
  obtain ⟨made, hmade⟩ :=
    Chain.exists_makes (foldSeed spec.seed) hwell.beginsWithSource hwell.composes hsize hroomy
  obtain ⟨pipeline, hbuild, -⟩ := exists_build_of_makes hvalid hmade
  exact ⟨pipeline, hbuild⟩

/-- A new pipeline with a store: its doublings have all the numbers that have been handed out. -/
theorem numbers_of_build (hcapacity : spec.cacheCapacity ≠ 0)
    (hroom : spec.chain.doublings ≤ 2 ^ 32) (h : spec.build = .ok pipeline) :
    ∃ owners, Chain.Numbers []
      (.empty spec.cacheCapacity) spec.chain.doublings pipeline.root pipeline.store owners ∧
      pipeline.cached = true := by
  obtain ⟨-, h⟩ := check_bind_eq_ok.mp h
  obtain ⟨⟨root, store⟩, hbuild, h⟩ := bind_eq_ok.mp h
  have hcached : (spec.cacheCapacity != 0) = true := bne_iff_ne.mpr hcapacity
  rw [hcached] at hbuild h
  cases h
  obtain ⟨_, _, hcheck, hwire⟩ := run_bind_eq_ok.mp hbuild
  obtain ⟨-, rfl⟩ := run_lift_eq_ok.mp hcheck
  obtain ⟨owners, hnumbers⟩ := Chain.exists_numbers spec.chain [] rfl
    (by rw [List.length_nil, Nat.zero_add]; exact hroom) hwire
  exact ⟨owners, hnumbers, rfl⟩

theorem runs_of_build (hroom : spec.chain.doublings ≤ 2 ^ 32) (h : spec.build = .ok pipeline) :
    pipeline.Runs spec.chain (foldSeed spec.seed) spec.tileSize := by
  obtain ⟨-, h⟩ := check_bind_eq_ok.mp h
  obtain ⟨⟨root, store⟩, hbuild, h⟩ := bind_eq_ok.mp h
  cases h
  cases hcached : spec.cacheCapacity != 0 with
  | false =>
      rw [hcached] at hbuild
      exact .alone hbuild
  | true =>
      rw [hcached] at hbuild
      exact .shared (.build .start hbuild) (by rw [Nat.zero_add]; exact hroom)
        (List.mem_singleton_self _)

theorem Reaches.runs (hroom : spec.chain.doublings ≤ 2 ^ 32) (h : spec.Reaches pipeline) :
    pipeline.Runs spec.chain (foldSeed spec.seed) spec.tileSize := by
  induction h with
  | built h => exact runs_of_build hroom h
  | resolved _ hrun ih => exact (ih.resolve hrun).2.1
  | resolvedRegion _ hrun ih => exact (ih.resolveRegion hrun).2

/-- Only valid parameters lead to a pipeline. -/
theorem Reaches.valid (h : spec.Reaches pipeline) : spec.params.Valid := by
  induction h with
  | built h => exact LayerParams.validate_eq_ok_iff.mp (check_bind_eq_ok.mp h).1
  | resolved _ _ ih | resolvedRegion _ _ ih => exact ih

/-- A pipeline of the world runs the chain of the world, and its tiles are to hold biomes. -/
theorem Reaches.world (hchain : spec.chain? = none) (h : spec.Reaches pipeline) :
    pipeline.Runs (.world spec.params) (foldSeed spec.seed) spec.tileSize ∧
    pipeline.alphabet = .biome := by
  have hspec : spec.chain = .world spec.params := by rw [PipelineSpec.chain, hchain]; rfl
  have hruns := h.runs (by rw [hspec]; exact Chain.doublings_world h.valid)
  rw [hspec] at hruns
  refine ⟨hruns, ?_⟩
  rw [Pipeline.alphabet, ← Stage.alphabet_bare, hruns.makes.alphabet_eq, Chain.writes_world]

end PipelineSpec

/-- **Alphabets are kept.** A chain in use, with a store or without one, answers at every anchor
with a tile of the alphabet it reports, as far as memory goes; if it shares a store, no more than
`2 ^ 32` numbers have been handed out to the stages of this store (`Chain.Serves`). So does every
stage put on top of stages that keep theirs. And every cell of the tiles and the regions that a
pipeline of the world resolves is the number of a biome: a world never runs out of numbers for its
stages. -/
theorem alphabets_are_kept :
    (∀ (chain : Chain) (folded : Int32) (size : Size) (stage : Stage) (store : TileStore),
      chain.Serves folded size stage store → ∀ minX minZ,
        (size.Addressable (2 * chain.stageCount) →
          ∃ tile later, (stage.generate minX minZ).run store = .ok (tile, later)) ∧
        ∀ tile later, (stage.generate minX minZ).run store = .ok (tile, later) →
          tile.Within stage.alphabet) ∧
    (∀ (labels : UInt32 → Alphabet) (stage : Stage), stage.Over (Stage.Honours labels) labels →
      stage.Honours labels) ∧
    ∀ (spec : PipelineSpec) (pipeline : Pipeline), spec.chain? = none → spec.Reaches pipeline →
      (∀ minX minZ tile after, pipeline.resolve minX minZ = .ok (tile, after) →
        ∀ value ∈ tile.values, ∃ biome : Biome, biome.id = value) ∧
      ∀ minX minZ tilesX tilesZ region after,
        pipeline.resolveRegion minX minZ tilesX tilesZ = .ok (region, after) →
        ∀ value ∈ region.values, ∃ biome : Biome, biome.id = value := by
  refine ⟨fun chain folded size stage store h minX minZ =>
    ⟨fun hroom => h.exists_tile hroom minX minZ, ?_⟩, ?_, ?_⟩
  · intro tile later hrun
    exact h.within hrun
  · intro labels stage h
    exact Stage.honours_of_over h
  · intro spec pipeline hchain h
    obtain ⟨hruns, hbiome⟩ := h.world hchain
    constructor
    · intro minX minZ tile after hrun value hmem
      have hwithin := (hruns.resolve hrun).1
      rw [hbiome] at hwithin
      exact Alphabet.contains_biome_iff.mp (hwithin value hmem)
    · intro minX minZ tilesX tilesZ region after hrun value hmem
      have hwithin := (hruns.resolveRegion hrun).1
      rw [hbiome] at hwithin
      exact Alphabet.contains_biome_iff.mp (hwithin value hmem)

/-- The world of the default parameters, on a store with room for eight tiles, and a doubling of a
field of ice. -/
theorem default_world_keeps_biomes : ∃ pipeline stage,
    (PipelineSpec.Reaches ⟨5, {}, ⟨1, 1⟩, 8, none⟩ pipeline ∧
      Stage.ofZoom 1 ⟨1, 1⟩ (.sampled "ice" .group ⟨2, 2⟩ fun _ _ => Group.ice.id) = .ok stage) ∧
    (∃ tile after, pipeline.resolve 0 0 = .ok (tile, after) ∧ tile.Within pipeline.alphabet ∧
      ∀ value ∈ tile.values, ∃ biome : Biome, biome.id = value) ∧
    stage.Honours fun _ => .region := by
  have hvalid : LayerParams.Valid {} := LayerParams.validate_eq_ok_iff.mp rfl
  have hwell := Chain.wellFormed_world hvalid
  obtain ⟨made, hmade⟩ :=
    @Chain.exists_makes (.world {}) (foldSeed 5) ⟨1, 1⟩ hwell.beginsWithSource hwell.composes rfl
    (by decide)
  obtain ⟨built, store, hbuild, -⟩ := hmade.exists_build true (.empty 8)
  have hspec : PipelineSpec.build ⟨5, {}, ⟨1, 1⟩, 8, none⟩ =
      .ok ⟨5, built, (Chain.world {}).stageCount, store, true⟩ :=
    check_bind_eq_ok.mpr ⟨LayerParams.validate_eq_ok_iff.mpr hvalid,
      bind_eq_ok.mpr ⟨(built, store), hbuild, rfl⟩⟩
  have hreaches := PipelineSpec.Reaches.built hspec
  obtain ⟨hchains, hover, hworlds⟩ := alphabets_are_kept
  obtain ⟨hexists, hwithin⟩ := hchains _ _ _ _ _ (hreaches.world rfl).1 0 0
  obtain ⟨tile, later, hrun⟩ := hexists (by decide)
  have hresolve : Pipeline.resolve ⟨5, built, (Chain.world {}).stageCount, store, true⟩ 0 0 =
      .ok (tile, ⟨5, built, (Chain.world {}).stageCount, later, true⟩) :=
    bind_eq_ok.mpr ⟨(tile, later), hrun, rfl⟩
  have hice :
      (Stage.sampled "ice" .group ⟨2, 2⟩ fun _ _ => Group.ice.id).Honours fun _ => .region :=
    Stage.honours_sampled fun _ _ => by decide
  have hzoom : Stage.ofZoom 1 ⟨1, 1⟩ (.sampled "ice" .group ⟨2, 2⟩ fun _ _ => Group.ice.id) =
      .ok (.zoom ⟨1⟩ ⟨1, 1⟩ (.sampled "ice" .group ⟨2, 2⟩ fun _ _ => Group.ice.id)) := rfl
  exact ⟨_, _, ⟨hreaches, hzoom⟩,
    ⟨tile, _, hresolve, hwithin tile later hrun, (hworlds _ _ rfl hreaches).1 _ _ _ _ hresolve⟩,
    hover _ _ (.zoom hice hzoom)⟩

end BiomeAtlas
