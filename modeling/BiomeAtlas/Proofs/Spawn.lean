import BiomeAtlas.Proofs.Continents
import BiomeAtlas.Proofs.Parameters
import BiomeAtlas.Proofs.Shores

/-! # The origin of the world

The split into land and water makes the origin temperate land, so that there is land to begin on.
This module follows the origin through the chain of the world.

Doublings, islands and the edges of groups leave the origin alone, so it is still temperate when the
groups are finished (`Chain.Continental.column_origin`), in every tile that contains it
(`Chain.Continental.temperate_at_origin`). Behind that, every step but one kind keeps land land:
biomes are drawn from the lists of land groups, exchanged for other land, put at edges and beaches,
or crossed by rivers. The exception is smoothing. It overwrites a cell between two opposite cells
that agree, and when these are open water it drowns the cell, the origin of the world like any other
(`Chain.drowns_of_column`). There are worlds where this happens
(`PipelineSpec.default_origin_is_drowned`). So the origin is habitable unless one of the smoothings
drowns it (`PipelineSpec.Reaches.origin_dry_or_drowned`).
-/
namespace BiomeAtlas

/-! ## Rules on land

Open water is named by the same predicate for groups and for biomes: the group of open water has the
number of the ocean. -/

section Rules
variable {noise : Noise} {value : Cell} {x z : Coord}

theorem CellRule.dry_replaceRandomly {old new : Cell} {chance : Int32}
    (hvalue : isOcean value = false) (hnew : isOcean new = false) :
    isOcean ((replaceRandomly old new chance).value noise value x z) = false := by
  simp only [CellRule.value, apply]
  split
  · exact hnew
  · exact hvalue

theorem CellRule.rareGroups_eq (noise : Noise) (value : Cell) (chance : Int32) (x z : Coord) :
    (rareGroups chance).value noise value x z = value ∨
    (rareGroups chance).value noise value x z = value ||| rareFlag := by
  simp only [CellRule.value, apply]
  split
  · exact Or.inr rfl
  · exact Or.inl rfl

/-- A biome drawn from a list without open water. -/
theorem CellRule.dry_materialize {table : CandidateTable} (hvalue : isOcean value = false)
    (htable : ∀ biome ∈ table.candidates value, isOcean biome.id = false) :
    isOcean ((materialize table).value noise value x z) = false := by
  simp only [CellRule.value, apply, drawn]
  split
  · rename_i made hmade
    split at hmade
    · rename_i biome hbiome
      cases hmade
      exact htable biome (List.mem_of_getElem? hbiome)
    · cases hmade
  · exact hvalue

/-- The standard lists of a land group are land, with the rare flag or without it. -/
theorem CandidateTable.dry_standard {group : Group} (h : isOcean group.id = false) :
    (∀ biome ∈ standard.candidates group.id, isOcean biome.id = false) ∧
      ∀ biome ∈ standard.candidates (group.id ||| rareFlag), isOcean biome.id = false := by
  cases group with
  | ocean => exact absurd h (by decide)
  | desert | temperate | mountains | ice => decide

theorem CrossRule.dry_edgeOf {biome : Biome} {neighbours : List Cell}
    (h : isOcean biome.id = false) :
    isOcean (edgeOf biome neighbours).id = false := by
  rw [edgeOf_eq]
  split
  · revert h
    cases biome <;> decide
  · exact h

theorem CrossRule.dry_edged {cross : Cross} (h : isOcean cross.center = false) :
    isOcean (edged cross) = false := by
  unfold edged
  split
  · rename_i biome hbiome
    rw [← Biome.id_eq_of_ofId? hbiome] at h
    exact dry_edgeOf h
  · exact h

/-- What is placed in open water is placed nowhere else. -/
theorem CrossRule.addToOcean_eq_center {cross : Cross} {chance : Int32} {new : Cell}
    (h : isOcean cross.center = false) :
    (addToOcean chance new).apply noise cross x z = cross.center := by
  simp only [apply, isOpenWater, h, Bool.false_and, Bool.false_eq_true, if_false]

/-- Smoothing turns land into open water only between two opposite cells of it. -/
theorem CrossRule.between_of_smoothed {cross : Cross} (h : isOcean cross.center = false)
    (hsmoothed : isOcean (smoothed noise cross x z) = true) :
    (cross.left = cross.right ∧ isOcean cross.left = true) ∨
    (cross.above = cross.below ∧ isOcean cross.above = true) := by
  rcases smoothed_cases noise cross x z with hkept | ⟨side, hside, hopposite⟩
  · rw [hkept, h] at hsmoothed
    cases hsmoothed
  · cases side with
    | above => exact .inr ⟨hside.trans hopposite.symm, (congrArg isOcean hside).trans hsmoothed⟩
    | below => exact .inr ⟨hopposite.trans hside.symm, (congrArg isOcean hopposite).trans hsmoothed⟩
    | left => exact .inl ⟨hside.trans hopposite.symm, (congrArg isOcean hside).trans hsmoothed⟩
    | right => exact .inl ⟨hopposite.trans hside.symm, (congrArg isOcean hopposite).trans hsmoothed⟩

/-- The counterparts of biomes are land. -/
theorem BlendRule.dry_masked {counterpart : Biome → Option Biome} {mask : Cell}
    (hcounterpart : ∀ biome other, counterpart biome = some other → isOcean other.id = false)
    (h : isOcean value = false) : isOcean (masked counterpart value mask) = false := by
  unfold masked
  split
  · exact h
  · split
    · rename_i other hother
      obtain ⟨biome, -, hother⟩ := Option.bind_eq_some_iff.mp hother
      exact hcounterpart biome other hother
    · exact h

theorem BlendRule.dry_apply (rule : BlendRule) {other : Cell} (h : isOcean value = false) :
    isOcean (rule.apply value other) = false := by
  cases rule with
  | alternateBiomes =>
      refine dry_masked (fun biome hills hhills => ?_) h
      cases biome <;> cases hhills <;> decide
  | mVariants =>
      refine dry_masked (fun biome rarer hrarer => ?_) h
      cases biome <;> cases hrarer <;> decide
  | mixRivers =>
      simp only [apply, withRiver]
      split
      · exact h
      · split <;> decide

end Rules

/-! ## Chains at the origin -/

/-- The origin is the corner of its block, which a doubling keeps. -/
theorem doubledColumn_origin (noise : Noise) (lower : Coord → Coord → Cell) :
    doubledColumn noise lower 0 0 = lower 0 0 :=
  rfl

/-- A doubling copies one of the four cells around. -/
theorem doubledColumn_mem (noise : Noise) (lower : Coord → Coord → Cell) (x z : Coord) :
    doubledColumn noise lower x z ∈ [lower (coarse x) (coarse z), lower (coarse x + 1) (coarse z),
      lower (coarse x) (coarse z + 1), lower (coarse x + 1) (coarse z + 1)] :=
  noise.interpolate_mem ..

/-- The numbers of a step are in range. -/
def Layer.InRange : Layer → Prop
  | .source rule => rule.InRange
  | .zoom => True
  | .cross rule => rule.InRange
  | .cell rule => rule.InRange

namespace Chain
variable {chain before secondary : Chain} {folded offset : Int32}

/-- The column function of a chain that composes takes values in the alphabet of the chain. -/
theorem contains_column : ∀ {chain : Chain} (folded : Int32), chain.Composes → ∀ x z : Coord,
    chain.writes.contains (chain.column folded x z) = true
  | empty, _, _, _, _ => rfl
  | stage _ (.source rule) _, _, _, x, z => by
      simp only [writes, Layer.writes, column, Layer.column, Source.column]
      split
      · rename_i horigin
        cases rule with
        | choice range => cases horigin.1
        | landOcean threshold => exact Alphabet.contains_group_iff.mpr ⟨.temperate, rfl⟩
      · exact rule.contains_draw _ x z
  | stage before .zoom offset, folded, h, x, z => by
      have hread : ∀ value ∈ [before.column folded (coarse x) (coarse z),
          before.column folded (coarse x + 1) (coarse z), before.column folded (coarse x)
            (coarse z + 1), before.column folded (coarse x + 1) (coarse z + 1)],
          before.writes.contains value = true := by
        simp only [List.mem_cons, List.not_mem_nil, or_false]
        rintro value (rfl | rfl | rfl | rfl) <;> exact contains_column folded h.1 _ _
      exact hread _ (doubledColumn_mem ⟨stageSeed folded offset⟩ (before.column folded) x z)
  | stage before (.cross rule) _, folded, h, x, z => by
      refine CrossRule.contains_apply h.2 ?_
      simp only [Cross.at, Cross.neighbours, List.mem_cons, List.not_mem_nil, or_false]
      rintro value (rfl | rfl | rfl | rfl | rfl) <;> exact contains_column folded h.1 _ _
  | stage before (.cell rule) offset, folded, h, x, z => by
      obtain ⟨made, hmade⟩ := @CellRule.exists_apply ⟨stageSeed folded offset⟩ rule h.2.candidates
        (before.column folded x z) x z
      simp only [column, Layer.column, CellRule.value, hmade]
      exact CellRule.contains_apply h.2 (contains_column folded h.1 x z) hmade
  | blend before rule _ _, folded, h, x, z => by
      have hvalue := contains_column folded h.1 x z
      rw [Alphabet.accepts_biome_iff.mp h.2.2.accepts] at hvalue
      exact rule.contains_apply hvalue

/-- **Chains of groups**: a split into land and water, and then doublings, islands and edges in any
order. -/
inductive Continental : Chain → Prop
  | landOcean (threshold offset : Int32) :
      Continental (empty.stage (.source (.landOcean threshold)) offset)
  | zoom {before : Chain} (offset : Int32) (h : Continental before) :
      Continental (before.stage .zoom offset)
  | addIslands {before : Chain} (chance offset : Int32) (h : Continental before) :
      Continental (before.stage (.cell (.addIslands chance)) offset)
  | groupEdges {before : Chain} (offset : Int32) (h : Continental before) :
      Continental (before.stage (.cross .groupEdges) offset)

/-- **The origin stays temperate** up to the edges of groups. -/
theorem Continental.column_origin (h : chain.Continental) :
    chain.column folded 0 0 = Group.temperate.id := by
  induction h with
  | landOcean threshold offset => rfl
  | @zoom before offset _ ih =>
      exact (doubledColumn_origin ⟨stageSeed folded offset⟩ (before.column folded)).trans ih
  | addIslands chance offset _ ih =>
      -- islands rise out of water only
      simp only [column, Layer.column, CellRule.value, CellRule.apply, ih]
      exact if_neg fun hrises => absurd hrises.1 (by decide)
  | groupEdges offset _ ih =>
      -- only deserts and ice give way
      simp only [column, Layer.column, CrossRule.apply, CrossRule.separated, Cross.at, ih]
      exact (if_neg (by decide)).trans (if_neg (by decide))

theorem Continental.zoomed {first : Int32} (h : chain.Continental) :
    ∀ count, (chain.zoomed count first).Continental
  | 0 => h
  | count + 1 => .zoom _ (zoomed h count)

/-! ## Tiles at the origin -/

/-- The numbers of all steps are in range. -/
def InRange : Chain → Prop
  | empty => True
  | stage before layer _ => before.InRange ∧ layer.InRange
  | blend before _ secondary _ => before.InRange ∧ secondary.InRange

theorem Continental.writes_eq (h : chain.Continental) : chain.writes = .group := by
  induction h with
  | zoom _ _ ih => exact ih
  | landOcean | addIslands | groupEdges => rfl

/-- Only the numbers can be wrong. -/
theorem Continental.wellFormed (h : chain.Continental) (hrange : chain.InRange) :
    chain.WellFormed := by
  induction h with
  | landOcean threshold offset => exact wellFormed_source hrange.2
  | zoom offset _ ih => exact (ih hrange.1).zoom
  | addIslands chance offset hbefore ih =>
      exact (ih hrange.1).cell ⟨hrange.2, trivial,
        fun _ h => (by cases h), by rw [hbefore.writes_eq]; rfl⟩
  | groupEdges offset hbefore ih =>
      exact (ih hrange.1).cross (fits_cross hrange.2 rfl (by rw [hbefore.writes_eq]; rfl))

/-- **Tiles are temperate at the origin** up to the edges of groups. Let the numbers of the chain be
in range, and let a tile be given that contains the origin and does not wrap, nor do two columns for
every stage around it. Then the chain can be built, with a store or without one. However it is in
use, it answers with the tile, as far as memory goes, and the tile is temperate at the origin. -/
theorem Continental.temperate_at_origin {size : Size} {minX minZ : Coord} (h : chain.Continental)
    (hrange : chain.InRange) (hX : Unwrapped minX size.width (2 * chain.stageCount))
    (hZ : Unwrapped minZ size.height (2 * chain.stageCount))
    (hinX : minX.toInt ≤ 0 ∧ 0 < minX.toInt + size.width)
    (hinZ : minZ.toInt ≤ 0 ∧ 0 < minZ.toInt + size.height) :
    (∀ cached store, ∃ stage later,
      (chain.build cached folded size).run store = .ok (stage, later)) ∧
    ∀ stage store, chain.Serves folded size stage store →
      (size.Addressable (2 * chain.stageCount) → ∃ tile later,
        (stage.generate minX minZ).run store = .ok (tile, later)) ∧
      ∀ tile later, (stage.generate minX minZ).run store = .ok (tile, later) →
        tile.containsWorld 0 0 = true ∧ tile.getWorld? 0 0 = some Group.temperate.id := by
  refine ⟨fun cached store => ?_,
    fun stage store hserves => ⟨fun hroom => hserves.exists_tile hroom minX minZ, ?_⟩⟩
  · have hwell := h.wellFormed hrange
    have hsize : size.isEmpty = false := Size.isEmpty_eq_false_iff.mpr ⟨by omega, by omega⟩
    -- a tile that does not wrap has room for the halos of all stages
    have hroomy : chain.Roomy size := by
      have hlimit : wordLimit = 2 ^ 64 := rfl
      have hX' := hX
      have hZ' := hZ
      unfold Unwrapped at hX' hZ'
      unfold Roomy
      omega
    obtain ⟨made, hmakes⟩ := exists_makes folded hwell.beginsWithSource hwell.composes hsize hroomy
    obtain ⟨stage, later, hbuild, -⟩ := hmakes.exists_build cached store
    exact ⟨stage, later, hbuild⟩
  · intro tile later hrun
    have hin :=
      (hserves.containsWorld_iff hrun).mpr ⟨hX.contains_origin hinX, hZ.contains_origin hinZ⟩
    exact ⟨hin, by rw [hserves.getWorld?_eq hX hZ hrun hin, h.column_origin]⟩

/-- A tile that begins left of the origin and above it. -/
theorem smallContinents_origin :
    ∃ stage, (smallContinents 60 200).Serves 5 ⟨3, 2⟩ stage (.empty 0) ∧
    ∃ tile later, (stage.generate (-2) (-1)).run (.empty 0) = .ok (tile, later) ∧
      tile.containsWorld 0 0 = true ∧
      tile.getWorld? 0 0 = some Group.temperate.id := by
  have hcontinental : (smallContinents 60 200).Continental :=
    .groupEdges 4 (.addIslands 200 3 (.zoom 2 (.landOcean 60 1)))
  have hrange : (smallContinents 60 200).InRange :=
    ⟨⟨⟨⟨trivial, (by decide : (0 : Int32) ≤ 60 ∧ (60 : Int32) ≤ 100)⟩, trivial⟩,
      (by decide : (0 : Int32) ≤ 200 ∧ (200 : Int32) ≤ 1000)⟩, trivial⟩
  obtain ⟨hbuilds, hanswers⟩ := @Continental.temperate_at_origin _ 5 ⟨3, 2⟩ (-2) (-1)
    hcontinental hrange (by decide) (by decide) (by decide) (by decide)
  obtain ⟨stage, later, hbuild⟩ := hbuilds false (.empty 0)
  have hserves : (smallContinents 60 200).Serves 5 ⟨3, 2⟩ stage (.empty 0) := .alone hbuild
  obtain ⟨hexists, horigin⟩ := hanswers stage (.empty 0) hserves
  obtain ⟨tile, after, hrun⟩ := hexists (by decide)
  obtain ⟨hin, hvalue⟩ := horigin tile after hrun
  exact ⟨stage, hserves, tile, after, hrun, hin, hvalue⟩

/-! ## What drowns the origin -/

/-- A smoothing behind the chain turns the origin from land into open water. The origin then lies
between two opposite neighbours of the same open water. -/
structure Drowns (before : Chain) (folded offset : Int32) : Prop where
  dry : isOcean (before.column folded 0 0) = false
  between : (before.column folded (-1) 0 = before.column folded 1 0 ∧
    isOcean (before.column folded (-1) 0) = true) ∨
    (before.column folded 0 (-1) = before.column folded 0 1 ∧
      isOcean (before.column folded 0 (-1)) = true)
  drowned : isOcean ((before.stage (.cross .smooth) offset).column folded 0 0) = true

theorem drowns_of_column (hdry : isOcean (before.column folded 0 0) = false)
    (hdrowned : isOcean ((before.stage (.cross .smooth) offset).column folded 0 0) = true) :
    before.Drowns folded offset :=
  ⟨hdry, CrossRule.between_of_smoothed hdry hdrowned, hdrowned⟩

/-- **One of the smoothings of a chain drowns the origin.** Secondary chains do not count. -/
inductive DrownsOrigin (folded : Int32) : Chain → Prop
  | here {before : Chain} {offset : Int32} (h : before.Drowns folded offset) :
      DrownsOrigin folded (before.stage (.cross .smooth) offset)
  | stage {before : Chain} {layer : Layer} {offset : Int32} (h : DrownsOrigin folded before) :
      DrownsOrigin folded (before.stage layer offset)
  | blend {before secondary : Chain} {rule : BlendRule} {offset : Int32}
      (h : DrownsOrigin folded before) :
      DrownsOrigin folded (before.blend rule secondary offset)

/-- The origin is not open water, unless a smoothing drowned it. -/
def Settled (chain : Chain) (folded : Int32) : Prop :=
  isOcean (chain.column folded 0 0) = true → chain.DrownsOrigin folded

namespace Settled

theorem of_dry (h : isOcean (chain.column folded 0 0) = false) : chain.Settled folded := by
  intro hocean
  rw [h] at hocean
  cases hocean

/-- A step that keeps land at the origin. -/
theorem stage {layer : Layer} (h : before.Settled folded)
    (hkeeps : isOcean (before.column folded 0 0) = false →
    isOcean ((before.stage layer offset).column folded 0 0) = false) :
    (before.stage layer offset).Settled folded := by
  cases hdry : isOcean (before.column folded 0 0) with
  | true => exact fun _ => .stage (h hdry)
  | false => exact of_dry (hkeeps hdry)

theorem continental (h : chain.Continental) : chain.Settled folded := by
  refine of_dry ?_
  rw [h.column_origin]
  decide

theorem zoom (h : before.Settled folded) : (before.stage .zoom offset).Settled folded :=
  h.stage id

theorem smooth (h : before.Settled folded) :
    (before.stage (.cross .smooth) offset).Settled folded := by
  intro hocean
  cases hdry : isOcean (before.column folded 0 0) with
  | true => exact .stage (h hdry)
  | false => exact .here (drowns_of_column hdry hocean)

/-- Groups become biomes. A rare group is no group by its number any more, so the two steps are
taken at once. -/
theorem materialize {chance first second : Int32} (h : before.Settled folded)
    (hcomposes : before.Composes) (hwrites : before.writes = .group) :
    ((before.stage (.cell (.rareGroups chance)) first).stage (.cell (.materialize .standard))
      second).Settled folded := by
  cases hdry : isOcean (before.column folded 0 0) with
  | true => exact fun _ => .stage (.stage (h hdry))
  | false =>
      have hgroup := contains_column folded hcomposes 0 0
      rw [hwrites] at hgroup
      obtain ⟨group, hid⟩ := Alphabet.contains_group_iff.mp hgroup
      rw [← hid] at hdry
      obtain ⟨hnormal, hrare⟩ := CandidateTable.dry_standard hdry
      refine of_dry ?_
      simp only [column, Layer.column, ← hid]
      rcases CellRule.rareGroups_eq ⟨stageSeed folded first⟩ group.id chance 0 0 with heq | heq
      · rw [heq]
        exact CellRule.dry_materialize hdry hnormal
      · have hflagged : isOcean (group.id ||| rareFlag) = false := by cases group <;> decide
        rw [heq]
        exact CellRule.dry_materialize hflagged hrare

theorem replaced :
    ∀ {replacements : List Replacement} {chain : Chain} {first : Int32}, chain.Settled folded →
    (∀ replacement ∈ replacements, isOcean replacement.new.id = false) →
    (chain.replaced replacements first).Settled folded
  | [], _, _, h, _ => h
  | replacement :: later, chain, first, h, hnew => by
      obtain ⟨hnew, hlater⟩ := List.forall_mem_cons.mp hnew
      have hstep : (chain.stage (.cell
          (.replaceRandomly replacement.old.id replacement.new.id replacement.chancePermille))
          first).Settled folded := h.stage fun hdry => CellRule.dry_replaceRandomly hdry hnew
      exact @replaced later _ (first + 1) hstep hlater

theorem addToOcean {chance : Int32} {new : Cell} (h : before.Settled folded) :
    (before.stage (.cross (.addToOcean chance new)) offset).Settled folded :=
  h.stage fun hdry => (congrArg isOcean (CrossRule.addToOcean_eq_center hdry)).trans hdry

theorem biomeEdges (h : before.Settled folded) :
    (before.stage (.cross .biomeEdges) offset).Settled folded :=
  h.stage fun hdry => CrossRule.dry_edged hdry

theorem beaches (h : before.Settled folded) (hcomposes : before.Composes)
    (hwrites : before.writes = .biome) :
    (before.stage (.cross .beaches) offset).Settled folded :=
  h.stage fun hdry => (@CrossRule.isOcean_beached (Cross.at (before.column folded) 0 0)
    (hwrites ▸ contains_column folded hcomposes 0 0)).trans hdry

theorem blend {rule : BlendRule} (h : before.Settled folded) :
    (before.blend rule secondary offset).Settled folded := by
  cases hdry : isOcean (before.column folded 0 0) with
  | true => exact fun _ => .blend (h hdry)
  | false => exact of_dry (rule.dry_apply hdry)

end Settled

/-- **The origin of the world is settled**, for the standard candidates and exchanges that do not
make water. -/
theorem settled_world {params : LayerParams} (h : params.Valid)
    (htable : params.groupBiomes = .standard) (hnew : ∀ replacement ∈ params.replacements,
      isOcean replacement.new.id = false) (folded : Int32) :
    (world params).Settled folded := by
  -- before the groups become biomes, and before the beaches, the alphabet counts as well
  obtain ⟨⟨⟨⟨⟨hplain, -⟩, -⟩, -⟩, -⟩, -⟩ := (wellFormed_world h).composes
  obtain ⟨hsmoothed, -⟩ := (wellFormed_groups h).composes
  refine .blend ?_
  refine .smooth ?_
  refine .zoom ?_
  refine .smooth ?_
  refine .beaches ?_ hplain rfl
  refine .blend ?_
  refine .zoom ?_
  refine .biomeEdges ?_
  refine .zoom ?_
  refine .blend ?_
  refine .zoom ?_
  refine .addToOcean ?_
  refine .addToOcean ?_
  refine .replaced ?_ hnew
  rw [htable]
  refine .materialize ?_ hsmoothed rfl
  refine .smooth ?_
  refine .continental (.groupEdges _ (.zoom _ ?_))
  refine .addIslands _ _ (.zoom _ ?_)
  refine .addIslands _ _ (.zoom _ ?_)
  exact (Continental.landOcean params.landThresholdPercent 1).zoomed
    params.continentZoomLevels.toNat

/-- In the default world with this seed the origin is ocean: the first smoothing already drowns
it. -/
theorem column_world_258 : (world {}).column (foldSeed 258) 0 0 = Biome.ocean.id := by
  obtain ⟨made, hmade⟩ := @exists_makes_world {} (LayerParams.validate_eq_ok_iff.mp rfl)
    (foldSeed 258) ⟨1, 1⟩ (by decide)
    (by decide) (by decide)
  have hbuild := hmade.run_build_alone (.empty 0)
  have hserves : (world {}).Serves (foldSeed 258) ⟨1, 1⟩ made (.empty 0) := .alone hbuild
  obtain ⟨tile, later, hrun⟩ := hserves.exists_tile (by decide) 0 0
  have hin : tile.containsWorld 0 0 = true := (hserves.containsWorld_iff hrun).mpr (by decide)
  -- the only way to know is to make the tile
  have hvalue :
      (((world {}).build false (foldSeed 258) ⟨1, 1⟩).run (.empty 0)).toOption.bind (fun built =>
      ((built.1.generate 0 0).run (.empty 0)).toOption.bind fun made => made.1.getWorld? 0 0) =
          some Biome.ocean.id := by
    decide +kernel
  rw [hbuild, Except.toOption, Option.bind_some, hrun, Except.toOption, Option.bind_some] at hvalue
  exact Option.some.inj ((hserves.getWorld?_eq (by decide) (by decide) hrun hin).symm.trans hvalue)

end Chain

/-! ## The origin of resolved tiles -/

namespace PipelineSpec
variable {spec : PipelineSpec} {pipeline : Pipeline} {minX minZ : Coord}

/-- **The origin is habitable unless a smoothing drowns it.** Let a pipeline of the world, with a
store or without one and in any state, have the standard candidates and no exchange that makes open
water. It resolves a tile, as far as memory goes, at every anchor such that the tile and two columns
for every stage around it do not wrap. If the tile contains the origin of the world, it holds a
biome there; and if that is open water, then one of the smoothings of the chain turned the origin
from land into it. -/
theorem Reaches.origin_dry_or_drowned (h : spec.Reaches pipeline) (hworld : spec.chain? = none)
    (htable : spec.params.groupBiomes = .standard)
    (hnew : ∀ replacement ∈ spec.params.replacements, isOcean replacement.new.id = false)
    (hX : Unwrapped minX spec.tileSize.width (2 * (Chain.world spec.params).stageCount))
    (hZ : Unwrapped minZ spec.tileSize.height (2 * (Chain.world spec.params).stageCount)) :
    (spec.tileSize.Addressable (2 * (Chain.world spec.params).stageCount) →
      ∃ tile after, pipeline.resolve minX minZ = .ok (tile, after)) ∧
    ∀ tile after, pipeline.resolve minX minZ = .ok (tile, after) → tile.containsWorld 0 0 = true →
      ∃ biome : Biome, tile.getWorld? 0 0 = some biome.id ∧
        (isOcean biome.id = true →
          (Chain.world spec.params).DrownsOrigin (foldSeed spec.seed)) := by
  obtain ⟨hruns, -⟩ := h.world hworld
  refine ⟨fun hroom => hruns.exists_resolve hroom minX minZ, ?_⟩
  intro tile after hresolve hin
  obtain ⟨store, hrun, rfl⟩ := Pipeline.resolve_eq_ok_iff.mp hresolve
  have hvalue := hruns.getWorld?_eq hX hZ hrun hin
  have hbiome :=
    Chain.contains_column (foldSeed spec.seed) (Chain.wellFormed_world h.valid).composes 0 0
  rw [Chain.writes_world] at hbiome
  obtain ⟨biome, hid⟩ := Alphabet.contains_biome_iff.mp hbiome
  refine ⟨biome, by rw [hid]; exact hvalue, fun hocean => ?_⟩
  rw [hid] at hocean
  exact Chain.settled_world h.valid htable hnew _ hocean

/-- The default world with this seed resolves a tile whose origin is ocean. -/
theorem exists_ocean_origin : ∃ pipeline tile after, Reaches ⟨258, {}, ⟨1, 1⟩, 0, none⟩ pipeline ∧
    pipeline.resolve 0 0 = .ok (tile, after) ∧ tile.containsWorld 0 0 = true ∧
      tile.getWorld? 0 0 = some Biome.ocean.id := by
  obtain ⟨pipeline, hbuild, -⟩ := @exists_build_world ⟨258, {}, ⟨1, 1⟩, 0, none⟩ rfl
    (LayerParams.validate_eq_ok_iff.mp rfl) (by decide) (by decide) (by decide)
  have hreaches := Reaches.built hbuild
  obtain ⟨hruns, -⟩ := hreaches.world rfl
  obtain ⟨tile, after, hresolve⟩ := hruns.exists_resolve (by decide) 0 0
  obtain ⟨store, hrun, rfl⟩ := Pipeline.resolve_eq_ok_iff.mp hresolve
  have hin : tile.containsWorld 0 0 = true := (hruns.containsWorld_iff hrun).mpr (by decide)
  have hvalue := hruns.getWorld?_eq (by decide) (by decide) hrun hin
  rw [Chain.column_world_258] at hvalue
  exact ⟨pipeline, tile, _, hreaches, hresolve, hin, hvalue⟩

/-- So a smoothing drowns the origin of the default world with this seed. -/
theorem default_origin_is_drowned :
    ∃ pipeline tile after, Reaches ⟨258, {}, ⟨1, 1⟩, 0, none⟩ pipeline ∧
    ((∀ replacement ∈ ({} : LayerParams).replacements, isOcean replacement.new.id = false) ∧
      Unwrapped 0 1 (2 * (Chain.world {}).stageCount)) ∧
    pipeline.resolve 0 0 = .ok (tile, after) ∧ tile.getWorld? 0 0 = some Biome.ocean.id ∧
      (Chain.world {}).DrownsOrigin (foldSeed 258) := by
  obtain ⟨pipeline, tile, after, hreaches, hresolve, hin, hvalue⟩ := exists_ocean_origin
  have hnew : ∀ replacement ∈ ({} : LayerParams).replacements,
      isOcean replacement.new.id = false := by
    decide
  have hbounds : Unwrapped 0 1 (2 * (Chain.world {}).stageCount) := by decide
  obtain ⟨-, horigin⟩ := hreaches.origin_dry_or_drowned rfl rfl hnew hbounds hbounds
  obtain ⟨biome, hbiome, hdrowned⟩ := horigin tile after hresolve hin
  have hid : Biome.ocean.id = biome.id := Option.some.inj (hvalue.symm.trans hbiome)
  exact ⟨pipeline, tile, after, hreaches, ⟨hnew, hbounds⟩, hresolve, hvalue, hdrowned (hid ▸ rfl)⟩

/-- It is not the case that the origin of every such world is habitable. -/
theorem origin_is_not_always_habitable :
    ¬ ∀ (spec : PipelineSpec) (pipeline : Pipeline) (minX minZ : Coord) (tile : Grid)
    (after : Pipeline), spec.Reaches pipeline → spec.chain? = none → spec.params.validate = .ok () →
    spec.params.groupBiomes = .standard →
    (∀ replacement ∈ spec.params.replacements, isOcean replacement.new.id = false) →
    pipeline.resolve minX minZ = .ok (tile, after) → tile.containsWorld 0 0 = true →
    ∃ value, tile.getWorld? 0 0 = some value ∧ isOcean value = false := by
  intro hclaim
  obtain ⟨pipeline, tile, after, hreaches, hresolve, hin, hvalue⟩ := exists_ocean_origin
  obtain ⟨value, hdry, hland⟩ :=
    hclaim _ pipeline 0 0 tile after hreaches rfl rfl rfl (by decide) hresolve hin
  rw [hvalue] at hdry
  cases hdry
  exact absurd hland (by decide)

end PipelineSpec
end BiomeAtlas
