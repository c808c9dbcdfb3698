import BiomeAtlas.Proofs.Regions

/-! # Nothing but memory runs out

When a region is resolved, two things can be short: the range of a word in which sizes are counted,
and memory. The margin of a chain (`Chain.margin`) says by how much tiles on the way are larger than
the tiles of the region, and that of the world is small (`Chain.margin_world_le`). So where the
region itself and a slightly larger tile can be counted, only memory is left.

A region is then resolved, one tile after the other or by a crew, unless memory cannot hold the
region or a tile on the way (`Pipeline.Tidy.manages`). No tile is ever pasted at a place where it
does not fit.
-/
namespace BiomeAtlas

/-! ## The margin of a chain -/

/-- By how many columns and rows a step reads more than it writes, up to halving. -/
def Layer.margin : Layer → Nat
  | source _ | cell _ => 0
  | zoom | cross _ => 2

namespace Chain
variable {chain : Chain} {folded first : Int32} {size : Size} {made : Stage}

/-- By how many columns and rows tiles on the way to a tile of the chain may be larger. -/
def margin : Chain → Nat
  | empty => 0
  | stage before layer _ => before.margin + layer.margin
  | blend before _ secondary _ => max before.margin secondary.margin

theorem Makes.margin_eq (h : chain.Makes folded size made) : made.margin = chain.margin := by
  induction h with
  | source h =>
      obtain ⟨-, -, rfl⟩ := Stage.ofSource_eq_ok_iff.mp h
      rfl
  | zoom _ h ih =>
      obtain ⟨-, -, rfl⟩ := Stage.ofZoom_eq_ok_iff.mp h
      exact congrArg (· + 2) ih
  | cross _ _ h ih =>
      obtain ⟨-, -, -, rfl⟩ := Stage.ofCross_eq_ok_iff.mp h
      exact congrArg (· + 2) ih
  | cell _ h ih =>
      obtain ⟨-, rfl⟩ := Stage.ofCell_eq_ok_iff.mp h
      exact ih
  | blend _ _ h ih ih' =>
      obtain ⟨-, -, rfl⟩ := Stage.ofBlend_eq_ok_iff.mp h
      exact congrArg₂ max ih ih'

theorem margin_zoomed : ∀ count, (chain.zoomed count first).margin = chain.margin + 2 * count
  | 0 => rfl
  | count + 1 => by
      rw [zoomed, margin, margin_zoomed count, Layer.margin]
      omega

theorem margin_replaced : ∀ {chain : Chain} (replacements : List Replacement) {first : Int32},
    (chain.replaced replacements first).margin = chain.margin
  | _, [], _ => rfl
  | _, _ :: later, _ => margin_replaced later

/-- **The margin of the world is small**, since both numbers of doublings that can be chosen are
bounded. -/
theorem margin_world_le {params : LayerParams} (h : params.Valid) : (world params).margin ≤ 46 := by
  have hcontinent : params.continentZoomLevels.toNat ≤ 8 :=
    UInt32.le_iff_toNat_le.mp h.continentLevels
  have hriver : params.riverZoomLevels.toNat ≤ 8 := UInt32.le_iff_toNat_le.mp h.riverLevels
  simp only [world, groups, rivers, hillsMask, rarerMask, margin, Layer.margin, margin_replaced,
    margin_zoomed]
  omega

end Chain

/-! ## One tile after the other -/

namespace Grid
variable {minX minZ : Coord} {size : Size} {blank : Grid}

/-- A region can be begun unless memory cannot hold it. -/
theorem answers_zero (hword : size.cells < wordLimit) :
    Answers (zero minX minZ size) (size.cells < cellLimit) := by
  unfold zero
  by_cases hroom : size.cells < cellLimit
  · rw [if_pos hroom]
    exact .of_exists ⟨_, rfl⟩
  · rw [if_neg hroom, oversize, if_pos hword]
    exact Or.inr ⟨rfl, hroom⟩

theorem zero_eq_ok (h : zero minX minZ size = .ok blank) :
    size.cells < cellLimit ∧ blank.Occupies minX minZ size := by
  unfold zero at h
  split at h
  · rename_i hroom
    cases h
    exact ⟨hroom, rfl, rfl, rfl⟩
  · cases h

end Grid

namespace Pipeline
variable {owners : Owners} {pipeline : Pipeline} {layout : Layout} {room : Prop}

/-- Pasting needs no room: what answers tile by tile answers as a whole. -/
theorem Tidy.answers_resolveInto (hfits : layout.Fits) :
    ∀ {anchors : List (Coord × Coord)} {pipeline : Pipeline} {region : Grid},
    pipeline.Tidy owners → pipeline.root.size = layout.tile →
    region.Occupies layout.minX layout.minZ layout.size →
    (∀ x z, (x, z) ∈ anchors → Crew.Asked layout x z ∧ Answers (pipeline.root.tile x z) room) →
    Answers (pipeline.resolveInto region anchors) room
  | [], _, _, _, _, _, _ => .of_exists ⟨_, rfl⟩
  | (x, z) :: later, pipeline, region, htidy, hsize, hregion, hanchors => by
      obtain ⟨⟨tx, tz, hhas, rfl, rfl⟩, htile⟩ := hanchors x z (List.mem_cons_self ..)
      obtain ⟨store, hresolve, horderly⟩ :=
        htidy.exists_resolve (layout.anchorX tx) (layout.anchorZ tz)
      rcases htile with ⟨tile, htile⟩ | ⟨hfault, hnone⟩
      · rw [htile] at hresolve
        obtain ⟨pasted, hpaste, hat, -⟩ := hfits.shows_paste hsize hhas hregion htile
        have hlater := @Tidy.answers_resolveInto hfits later { pipeline with store } pasted
          ⟨htidy.places, horderly⟩ hsize hat fun x z hmem =>
            hanchors x z (List.mem_cons_of_mem _ hmem)
        rw [resolveInto, hresolve]
        change Answers (region.paste tile >>= fun pasted =>
          resolveInto { pipeline with store } pasted later) room
        rw [hpaste]
        exact hlater
      · rw [hfault] at hresolve
        rw [resolveInto, hresolve]
        exact Or.inr ⟨rfl, hnone⟩

/-- Whatever is pasted, a region stays where it is. -/
theorem occupies_resolveInto :
    ∀ {anchors : List (Coord × Coord)} {pipeline after : Pipeline} {region result : Grid},
    pipeline.resolveInto region anchors = .ok (result, after) →
    result.Occupies region.minX region.minZ region.size
  | [], _, _, _, _, h => by
      cases h
      exact ⟨rfl, rfl, rfl⟩
  | (x, z) :: later, pipeline, _, region, _, h => by
      obtain ⟨⟨tile, next⟩, -, h⟩ := bind_eq_ok.mp h
      obtain ⟨pasted, hpaste, h⟩ := bind_eq_ok.mp h
      obtain ⟨_, _, -, -, hat, -⟩ := Grid.paste_eq_ok hpaste
      have hresult := @occupies_resolveInto later _ _ _ _ h
      rwa [hat.minX_eq, hat.minZ_eq, hat.size_eq] at hresult

/-! ## Regions that memory may be too small for -/

variable {crew : Crew} {threads : Nat}

/-- One tile after the other, a region is resolved unless memory cannot hold it or a tile on the
way. -/
theorem Tidy.answers_resolveRegion (htidy : pipeline.Tidy owners)
    (hsize : pipeline.tileSize = layout.tile) (hnarrow : layout.Narrow)
    (htiles : ∀ x z, Answers (pipeline.root.tile x z) room) :
    Answers (pipeline.resolveRegion layout.minX layout.minZ layout.tilesX layout.tilesZ)
      (layout.size.cells < cellLimit ∧ room) := by
  unfold resolveRegion
  dsimp only
  rw [hsize, if_neg hnarrow.words]
  refine (Grid.answers_zero hnarrow.cells_lt).bind fun blank hblank => ?_
  obtain ⟨hcells, hat⟩ := Grid.zero_eq_ok hblank
  refine htidy.answers_resolveInto (hnarrow.fits hcells) hsize hat fun x z hmem => ?_
  exact ⟨Layout.mem_anchors_iff.mp hmem, htiles x z⟩

theorem occupies_resolveRegion {after : Pipeline} {region : Grid}
    (hsize : pipeline.tileSize = layout.tile) (h : pipeline.resolveRegion layout.minX layout.minZ
      layout.tilesX layout.tilesZ = .ok (region, after)) :
    region.Occupies layout.minX layout.minZ layout.size := by
  obtain ⟨-, blank, hblank, h⟩ := resolveRegion_eq_ok_iff.mp h
  rw [hsize] at hblank
  obtain ⟨-, hat⟩ := Grid.zero_eq_ok hblank
  have hregion := occupies_resolveInto h
  rwa [hat.minX_eq, hat.minZ_eq, hat.size_eq] at hregion

/-- A crew is put together unless memory cannot hold the region. -/
theorem answers_crew (hsize : pipeline.tileSize = layout.tile) (hnarrow : layout.Narrow) :
    Answers (pipeline.crew layout.minX layout.minZ layout.tilesX layout.tilesZ threads)
      (layout.size.cells < cellLimit) := by
  unfold crew
  dsimp only
  rw [hsize, if_neg hnarrow.words]
  exact (Grid.answers_zero hnarrow.cells_lt).bind_exists fun _ _ => ⟨_, rfl⟩

/-- What a crew that resolves the region may have become. -/
def Employs (pipeline : Pipeline) (layout : Layout) (threads : Nat) (crew : Crew) : Prop :=
  ∃ start n, pipeline.crew layout.minX layout.minZ layout.tilesX layout.tilesZ threads = .ok start ∧
    Crew.Reaches pipeline.root start n crew

/-- A crew that has been put together has a region that fits, and accounts for all its tiles from
then on. -/
theorem Tidy.complete_of_employs (htidy : pipeline.Tidy owners)
    (hsize : pipeline.tileSize = layout.tile) (hnarrow : layout.Narrow)
    (hcrew : pipeline.Employs layout threads crew) :
    layout.Fits ∧ crew.Complete owners pipeline.root layout := by
  obtain ⟨start, n, hstart, hreaches⟩ := hcrew
  obtain ⟨-, blank, hblank, rfl⟩ := crew_eq_ok_iff.mp hstart
  rw [hsize] at hblank hreaches
  obtain ⟨hcells, hat⟩ := Grid.zero_eq_ok hblank
  have hfits : layout.Fits := hnarrow.fits hcells
  exact ⟨hfits, (htidy.complete_crew threads hat).reaches htidy.places hsize hfits hreaches⟩

end Pipeline

/-! ## All that can happen to a region -/

namespace Pipeline

/-- Memory can hold the region, and every tile on the way to one of its tiles. -/
def HasRoom (pipeline : Pipeline) (layout : Layout) : Prop :=
  layout.size.cells < cellLimit ∧ pipeline.root.Holdable

/-- **A region that only memory can be too small for.** No size that is computed on the way leaves
the range of a word, tiles are pasted where they fit, and the one fault that is left is that memory
cannot hold the region or a tile on the way. Where it can, there is the region, one tile after the
other and by any number of workers. -/
structure Manages (pipeline : Pipeline) (layout : Layout) : Prop where
  words : ∀ buffer ∈ pipeline.root.buffers, buffer.width < wordLimit ∧ buffer.height < wordLimit ∧
    buffer.cells < wordLimit
  answers : Answers (pipeline.resolveRegion layout.minX layout.minZ layout.tilesX layout.tilesZ)
    (pipeline.HasRoom layout)
  extent : ∀ region after,
    pipeline.resolveRegion layout.minX layout.minZ layout.tilesX layout.tilesZ =
      .ok (region, after) →
    region.Occupies layout.minX layout.minZ layout.size
  begins : ∀ threads,
    Answers (pipeline.crew layout.minX layout.minZ layout.tilesX layout.tilesZ threads)
      (layout.size.cells < cellLimit)
  extents : ∀ threads crew, pipeline.Employs layout threads crew →
    crew.region.Occupies layout.minX layout.minZ layout.size
  pastes : ∀ threads crew, pipeline.Employs layout threads crew → ∀ tile delivered,
    crew.delivered = tile :: delivered →
    ∃ region, crew.region.paste tile = .ok region
  faults : ∀ threads crew, pipeline.Employs layout threads crew → ∀ fault, crew.Fails fault →
    fault = .tooManyCells ∧ ¬ pipeline.root.Holdable
  whole : pipeline.HasRoom layout → ∃ region : Grid,
    region.Occupies layout.minX layout.minZ layout.size ∧
    (∃ after, pipeline.resolveRegion layout.minX layout.minZ layout.tilesX layout.tilesZ =
      .ok (region, after)) ∧
    ∀ threads, ∃ start,
      pipeline.crew layout.minX layout.minZ layout.tilesX layout.tilesZ threads = .ok start ∧
      start.Succeeds pipeline.root region

variable {owners : Owners} {pipeline : Pipeline} {layout : Layout}

/-- **A tidy pipeline manages a region** whose sides are coordinates, if a slightly larger tile can
be counted. -/
theorem Tidy.manages (htidy : pipeline.Tidy owners) (hwired : pipeline.root.Wired)
    (hsize : pipeline.tileSize = layout.tile) (hnarrow : layout.Narrow)
    (hword : layout.tile.Representable pipeline.root.margin) : pipeline.Manages layout := by
  have hroot : pipeline.root.size = layout.tile := hsize
  rw [← hroot] at hword
  have htiles : ∀ x z, Answers (pipeline.root.tile x z) pipeline.root.Holdable :=
    fun x z => Stage.answers_tile hwired hword
  refine {
    words := fun buffer hmem => ?_
    answers := htidy.answers_resolveRegion hsize hnarrow htiles
    extent := fun region after hrun => occupies_resolveRegion hsize hrun
    begins := fun threads => answers_crew hsize hnarrow
    extents := fun threads crew hcrew => (htidy.complete_of_employs hsize hnarrow hcrew).2.region_at
    pastes := fun threads crew hcrew tile delivered hdelivered => ?_
    faults := fun threads crew hcrew fault hfails => ?_
    whole := fun hroom => ?_ }
  · obtain ⟨hwide, hhigh⟩ := Stage.buffers_le hwired buffer hmem
    have hlimit := hword.lt_wordLimit
    exact ⟨by omega, by omega, hword.cells_lt hwide hhigh⟩
  · obtain ⟨hfits, haccounts⟩ := htidy.complete_of_employs hsize hnarrow hcrew
    exact haccounts.exists_paste hsize hfits hdelivered
  · obtain ⟨hfits, haccounts⟩ := htidy.complete_of_employs hsize hnarrow hcrew
    obtain ⟨tx, tz, hhas, herror⟩ := haccounts.error_of_fails hsize hfits hfails
    exact (htiles _ _).eq_of_error herror
  · have hfits : layout.Fits := hnarrow.fits hroom.1
    obtain ⟨region, hat, -, hsequential, hcrews⟩ :=
      htidy.exists_region hsize hfits fun tx tz _ => (htiles _ _).exists_of_room hroom.2
    exact ⟨region, hat, hsequential, hcrews⟩

end Pipeline

/-! ## Pipelines of the world -/

namespace PipelineSpec.Uses
variable {spec : PipelineSpec} {pipeline : Pipeline}

/-- In a pipeline of the world that is in use, tiles on the way are larger by the margin of the
world. -/
theorem margin_le (h : spec.Uses pipeline) (hworld : spec.chain? = none)
    (hvalid : spec.params.Valid) :
    pipeline.root.Wired ∧ pipeline.root.size = spec.tileSize ∧ pipeline.root.margin ≤ 46 := by
  have hchain : spec.chain = .world spec.params := by rw [PipelineSpec.chain, hworld]; rfl
  obtain ⟨hmakes, -⟩ := h.exists_tidy (hchain ▸ Chain.doublings_world hvalid)
  refine ⟨Stage.wired_bare_iff.mp hmakes.wired, by rw [← Stage.size_bare, hmakes.size_eq], ?_⟩
  rw [← Stage.margin_bare, hmakes.margin_eq, hchain]
  exact Chain.margin_world_le hvalid

/-- Memory can hold all tiles on the way, if it can hold a tile that is larger by the margin of the
world. -/
theorem holdable (h : spec.Uses pipeline) (hworld : spec.chain? = none) (hvalid : spec.params.Valid)
    (hroom : spec.tileSize.Addressable 46) : pipeline.root.Holdable := by
  obtain ⟨hwired, hsize, hmargin⟩ := h.margin_le hworld hvalid
  rw [← hsize] at hroom
  exact Stage.holdable_of_margin hwired (hroom.mono (by omega) (by omega))

/-- **A pipeline of the world in use manages every region** whose sides are coordinates. Its tiles
may be of any size that can be counted together with the margin of the world. -/
theorem manages (h : spec.Uses pipeline) (hworld : spec.chain? = none) (hvalid : spec.params.Valid)
    {layout : Layout} (hsize : layout.tile = spec.tileSize) (hnarrow : layout.Narrow)
    (hword : layout.tile.Representable 46) :
    pipeline.Manages layout := by
  have hchain : spec.chain = .world spec.params := by rw [PipelineSpec.chain, hworld]; rfl
  obtain ⟨-, owners, htidy⟩ := h.exists_tidy (hchain ▸ Chain.doublings_world hvalid)
  obtain ⟨hwired, hroot, hmargin⟩ := h.margin_le hworld hvalid
  exact htidy.manages hwired (hroot.trans hsize.symm) hnarrow (hword.mono (by omega) (by omega))

end PipelineSpec.Uses

end BiomeAtlas
