import BiomeAtlas.Proofs.Parameters
import BiomeAtlas.Proofs.Seamless

/-! # Where biomes come from

A world draws biomes from the lists of its parameters, exchanges them, and later turns biomes into
others: at borders, at coasts, under the two masks, and where rivers run. `LayerParams.Yields` lists
these ways, and no biome comes onto a map by another one (`Chain.cellsIn_world`,
`PipelineSpec.Reaches.yields`).

The tables of substitutions are indexed by numbers, some of them by remainders, and know all biomes,
the two that belong to other worlds included. But an entry that leads to one of these two only
stands at the place of the same biome. So a map holds them only if the parameters ask for them
(`PipelineSpec.Reaches.otherworld_free`).
-/
namespace BiomeAtlas

/-! ## The ways a biome comes about -/

/-- **Biomes that a world can hold.** Each way is one rule of the chain of the world: the lists of
candidates and the exchanges first, then what is placed in open water, what a biome turns into, and
rivers. -/
inductive LayerParams.Yields (params : LayerParams) : Biome → Prop
  | normal {biome : Biome} (group : Group) (h : biome ∈ params.groupBiomes.normal.get group) :
      Yields params biome
  | rare {biome : Biome} (group : Group) (h : biome ∈ params.groupBiomes.rare.get group) :
      Yields params biome
  | exchanged {replacement : Replacement} (h : replacement ∈ params.replacements)
      (hold : Yields params replacement.old) :
      Yields params replacement.new
  | mushroomIsland : Yields params .mushroomIsland
  | deepOcean : Yields params .deepOcean
  | edge {biome : Biome} (neighbours : List Cell) (h : Yields params biome) :
      Yields params (CrossRule.edgeOf biome neighbours)
  | beach {biome : Biome} (h : Yields params biome) :
      Yields params Biome.beaches[beachIndex biome.id]
  | hills {biome other : Biome} (h : Yields params biome) (hother : biome.hills = some other) :
      Yields params other
  | rarer {biome other : Biome} (h : Yields params biome) (hother : biome.rarer = some other) :
      Yields params other
  | river : Yields params .river
  | frozenRiver : Yields params .frozenRiver

/-- The cell holds a biome that the world can hold. -/
def LayerParams.YieldsCell (params : LayerParams) (value : Cell) : Prop :=
  ∃ biome, params.Yields biome ∧ biome.id = value

/-- Numbers tell biomes apart. -/
theorem Biome.eq_of_id_eq {biome other : Biome} (h : biome.id = other.id) : biome = other :=
  Option.some.inj (by rw [← ofId?_id, h, ofId?_id])

/-! ## Rules -/

section Rules
variable {params : LayerParams} {noise : Noise} {value : Cell} {x z : Coord}

/-- A biome stays as it is at a border, or turns into one of four. -/
theorem CrossRule.edgeOf_cases (biome : Biome) (neighbours : List Cell) :
    edgeOf biome neighbours = biome ∨
    edgeOf biome neighbours ∈ [Biome.plains, .desert, .jungleEdge, .jungleEdgeM] := by
  rw [edgeOf_eq]
  split
  · cases biome <;> decide
  · exact .inl rfl

theorem LayerParams.yieldsCell_beached {cross : Cross} (h : params.YieldsCell cross.center) :
    params.YieldsCell (CrossRule.beached cross) := by
  unfold CrossRule.beached
  split
  · obtain ⟨biome, hyields, hid⟩ := h
    rw [← hid]
    exact ⟨_, hyields.beach, rfl⟩
  · exact h

theorem LayerParams.yieldsCell_edged {cross : Cross} (h : params.YieldsCell cross.center) :
    params.YieldsCell (CrossRule.edged cross) := by
  obtain ⟨biome, hyields, hid⟩ := h
  rw [CrossRule.edged, ← hid, Biome.ofId?_id]
  exact ⟨_, hyields.edge _, rfl⟩

theorem LayerParams.yieldsCell_placed {chance : Int32} {biome : Biome} {cross : Cross}
    (hbiome : params.Yields biome) (h : params.YieldsCell cross.center) :
    params.YieldsCell ((CrossRule.addToOcean chance biome.id).apply noise cross x z) := by
  simp only [CrossRule.apply]
  split
  · exact ⟨biome, hbiome, rfl⟩
  · exact h

theorem LayerParams.yieldsCell_exchanged {replacement : Replacement}
    (hmem : replacement ∈ params.replacements) (h : params.YieldsCell value) :
    params.YieldsCell ((CellRule.replaceRandomly replacement.old.id replacement.new.id
      replacement.chancePermille).value noise value x z) := by
  simp only [CellRule.value, CellRule.apply]
  split
  · rename_i hchanged
    obtain ⟨biome, hyields, hid⟩ := h
    have hold : biome.id = replacement.old.id :=
      hid.trans (eq_of_beq ((Bool.and_eq_true ..).mp hchanged).1)
    exact ⟨_, .exchanged hmem (Biome.eq_of_id_eq hold ▸ hyields), rfl⟩
  · exact h

/-- Every number draws from one of the lists, and no list is empty. -/
theorem LayerParams.yieldsCell_materialized (hcomplete : params.groupBiomes.Complete) :
    params.YieldsCell ((CellRule.materialize params.groupBiomes).value noise value x z) := by
  have hmem : ∀ biome ∈ params.groupBiomes.candidates value, params.Yields biome := by
    intro biome hbiome
    unfold CandidateTable.candidates at hbiome
    dsimp only at hbiome
    split at hbiome
    · exact .normal _ hbiome
    · exact .rare _ hbiome
  have hcandidates : (CellRule.materialize params.groupBiomes).HasCandidates := hcomplete
  obtain ⟨made, hmade⟩ : ∃ made,
      (CellRule.materialize params.groupBiomes).apply noise value x z = .ok made :=
    CellRule.exists_apply hcandidates value x z
  have hdrawn := hmade
  simp only [CellRule.apply, CellRule.drawn] at hdrawn
  split at hdrawn
  · rename_i biome hbiome
    simp only [CellRule.value, hmade]
    exact ⟨biome, hmem biome (List.mem_of_getElem? hbiome), Except.ok.inj hdrawn⟩
  · cases hdrawn

theorem LayerParams.yieldsCell_masked {counterpart : Biome → Option Biome} {mask : Cell}
    (hcounterpart : ∀ biome other, params.Yields biome → counterpart biome = some other →
      params.Yields other)
    (h : params.YieldsCell value) :
    params.YieldsCell (BlendRule.masked counterpart value mask) := by
  unfold BlendRule.masked
  split
  · exact h
  · obtain ⟨biome, hyields, hid⟩ := h
    rw [← hid, Biome.ofId?_id, Option.bind_some]
    cases hother : counterpart biome with
    | none => exact ⟨biome, hyields, rfl⟩
    | some other => exact ⟨other, hcounterpart biome other hyields hother, rfl⟩

/-- Whatever the second tile holds. -/
theorem LayerParams.yieldsCell_blended (rule : BlendRule) {other : Cell}
    (h : params.YieldsCell value) :
    params.YieldsCell (rule.apply value other) := by
  cases rule with
  | alternateBiomes => exact yieldsCell_masked (fun _ _ => .hills) h
  | mVariants => exact yieldsCell_masked (fun _ _ => .rarer) h
  | mixRivers =>
      simp only [BlendRule.apply, BlendRule.withRiver]
      split
      · exact h
      · split
        · exact ⟨_, .frozenRiver, rfl⟩
        · exact ⟨_, .river, rfl⟩

end Rules

/-! ## Chains -/

namespace Chain

/-- Every cell of every tile of the stages that the chain makes has a property. -/
def CellsIn (chain : Chain) (P : Cell → Prop) : Prop :=
  ∀ ⦃folded : Int32⦄ ⦃size : Size⦄ ⦃made : Stage⦄, chain.Makes folded size made →
    ∀ (minX minZ : Coord) (i j : Nat), P (made.cellAt minX minZ i j)

namespace CellsIn
variable {before secondary : Chain} {P Q : Cell → Prop} {offset : Int32}

theorem any (chain : Chain) : chain.CellsIn fun _ => True :=
  fun _ _ _ _ _ _ _ _ => trivial

theorem zoom (h : before.CellsIn P) : (before.stage .zoom offset).CellsIn P := by
  intro folded size made hmakes minX minZ i j
  cases hmakes with
  | zoom hbefore hmade =>
      obtain ⟨-, -, rfl⟩ := Stage.ofZoom_eq_ok_iff.mp hmade
      have hlower := h hbefore (coarse minX) (coarse minZ)
      refine List.forall_mem_cons.mpr ⟨hlower _ _, ?_⟩ _ (Noise.interpolate_mem ..)
      simp only [List.forall_mem_cons, hlower, true_and]
      intro value hmem
      cases hmem

theorem cross {rule : CrossRule} (h : before.CellsIn P)
    (hrule : ∀ (noise : Noise) (cross : Cross) (x z : Coord),
    (∀ value ∈ cross.center :: cross.neighbours, P value) → Q (rule.apply noise cross x z)) :
    (before.stage (.cross rule) offset).CellsIn Q := by
  intro folded size made hmakes minX minZ i j
  cases hmakes with
  | cross hhalo hbefore hmade =>
      obtain ⟨-, -, -, rfl⟩ := Stage.ofCross_eq_ok_iff.mp hmade
      have haround := h hbefore (minX - 1) (minZ - 1)
      refine hrule _ _ _ _ ?_
      simp only [Cross.neighbours, List.forall_mem_cons, haround, true_and]
      intro value hmem
      cases hmem

theorem smooth (h : before.CellsIn P) : (before.stage (.cross .smooth) offset).CellsIn P :=
  h.cross fun noise cross x z hcross => hcross _ (CrossRule.smoothed_mem noise cross x z)

theorem cell {rule : CellRule} (h : before.CellsIn P)
    (hrule : ∀ (noise : Noise) (value : Cell) (x z : Coord), P value →
      Q (rule.value noise value x z)) :
    (before.stage (.cell rule) offset).CellsIn Q := by
  intro folded size made hmakes minX minZ i j
  cases hmakes with
  | cell hbefore hmade =>
      obtain ⟨-, rfl⟩ := Stage.ofCell_eq_ok_iff.mp hmade
      exact hrule _ _ _ _ (h hbefore minX minZ i j)

/-- What the secondary chain makes does not matter. -/
theorem blend {rule : BlendRule} (h : before.CellsIn P)
    (hrule : ∀ value other, P value → Q (rule.apply value other)) :
    (before.blend rule secondary offset).CellsIn Q := by
  intro folded size made hmakes minX minZ i j
  cases hmakes with
  | blend hbefore _ hmade =>
      obtain ⟨-, -, rfl⟩ := Stage.ofBlend_eq_ok_iff.mp hmade
      exact hrule _ _ (h hbefore minX minZ i j)

variable {params : LayerParams}

theorem replaced : ∀ {replacements : List Replacement} {chain : Chain} {first : Int32},
    chain.CellsIn params.YieldsCell →
    (∀ replacement ∈ replacements, replacement ∈ params.replacements) →
    (chain.replaced replacements first).CellsIn params.YieldsCell
  | [], _, _, h, _ => h
  | replacement :: later, chain, first, h, hmem => by
      obtain ⟨hhead, hlater⟩ := List.forall_mem_cons.mp hmem
      have hstep : (chain.stage (.cell
          (.replaceRandomly replacement.old.id replacement.new.id replacement.chancePermille))
          first).CellsIn params.YieldsCell :=
          h.cell fun _ _ _ _ => LayerParams.yieldsCell_exchanged hhead
      exact @replaced later _ (first + 1) hstep hlater

end CellsIn

/-- **Every biome of a world comes about in one of the ways listed**, at every place of every tile,
whether the tile wraps or not. -/
theorem cellsIn_world {params : LayerParams} (h : params.Valid) :
    (world params).CellsIn params.YieldsCell := by
  have hcenter : ∀ {cross : Cross},
      (∀ value ∈ cross.center :: cross.neighbours, params.YieldsCell value) →
      params.YieldsCell cross.center := fun hcross => hcross _ List.mem_cons_self
  -- from the last step to the first, down to the one that draws biomes
  refine .blend ?_ fun _ _ => LayerParams.yieldsCell_blended .mixRivers
  refine .smooth ?_
  refine .zoom ?_
  refine .smooth ?_
  refine .cross ?_ fun _ _ _ _ hcross => LayerParams.yieldsCell_beached (hcenter hcross)
  refine .blend ?_ fun _ _ => LayerParams.yieldsCell_blended .mVariants
  refine .zoom ?_
  refine .cross ?_ fun _ _ _ _ hcross => LayerParams.yieldsCell_edged (hcenter hcross)
  refine .zoom ?_
  refine .blend ?_ fun _ _ => LayerParams.yieldsCell_blended .alternateBiomes
  refine .zoom ?_
  refine .cross ?_ fun _ _ _ _ hcross => LayerParams.yieldsCell_placed .deepOcean (hcenter hcross)
  refine .cross ?_ fun _ _ _ _ hcross =>
    LayerParams.yieldsCell_placed .mushroomIsland (hcenter hcross)
  refine .replaced ?_ fun _ hmem => hmem
  exact (CellsIn.any _).cell fun _ _ _ _ _ => LayerParams.yieldsCell_materialized h.candidates

end Chain

/-! ## Biomes of other worlds -/

/-- A biome that belongs to another world. -/
def Biome.IsOtherworld (biome : Biome) : Prop :=
  biome = .nether ∨ biome = .theEnd

instance (biome : Biome) : Decidable biome.IsOtherworld :=
  inferInstanceAs (Decidable (_ ∨ _))

namespace Biome

/-- The beach of a biome is such a biome only if the biome is, and then it is the same one. -/
theorem beach_otherworld : ∀ {biome : Biome}, beaches[beachIndex biome.id].IsOtherworld →
    beaches[beachIndex biome.id] = biome := by
  intro biome
  cases biome <;> decide

theorem not_otherworld_of_hills :
    ∀ {biome other : Biome}, biome.hills = some other → ¬ other.IsOtherworld := by
  intro biome other h
  cases biome <;> cases h <;> decide

theorem not_otherworld_of_rarer :
    ∀ {biome other : Biome}, biome.rarer = some other → ¬ other.IsOtherworld := by
  intro biome other h
  cases biome <;> cases h <;> decide

theorem edge_otherworld {biome : Biome} {neighbours : List Cell}
    (h : (CrossRule.edgeOf biome neighbours).IsOtherworld) :
    CrossRule.edgeOf biome neighbours = biome := by
  rcases CrossRule.edgeOf_cases biome neighbours with heq | hmem
  · exact heq
  · have hedges : ∀ other ∈ [plains, desert, jungleEdge, jungleEdgeM], ¬ other.IsOtherworld := by
      decide
    exact absurd h (hedges _ hmem)

end Biome

/-- **A biome of another world has to be asked for**: by a list of candidates, or by an exchange
that puts it somewhere. -/
theorem LayerParams.Yields.asked {params : LayerParams} {biome : Biome} (h : params.Yields biome)
    (hother : biome.IsOtherworld) :
    (∃ group, biome ∈ params.groupBiomes.normal.get group ∨
      biome ∈ params.groupBiomes.rare.get group) ∨
      ∃ replacement ∈ params.replacements, replacement.new = biome := by
  -- the ways that turn a biome into another one lead back to the same biome, or nowhere
  induction h with
  | normal group hmem => exact Or.inl ⟨group, Or.inl hmem⟩
  | rare group hmem => exact Or.inl ⟨group, Or.inr hmem⟩
  | exchanged hmem _ _ => exact Or.inr ⟨_, hmem, rfl⟩
  | edge neighbours _ ih =>
      have heq := Biome.edge_otherworld hother
      rw [heq] at hother ⊢
      exact ih hother
  | beach _ ih =>
      have heq := Biome.beach_otherworld hother
      rw [heq] at hother ⊢
      exact ih hother
  | hills _ hhills _ => exact absurd hother (Biome.not_otherworld_of_hills hhills)
  | rarer _ hrarer _ => exact absurd hother (Biome.not_otherworld_of_rarer hrarer)
  | mushroomIsland | deepOcean | river | frozenRiver => exact absurd hother (by decide)

/-! ## Worlds -/

namespace PipelineSpec
variable {spec : PipelineSpec} {pipeline after : Pipeline} {minX minZ : Coord} {tile : Grid}

/-- Every cell of a tile of the world holds a biome that the world can hold. -/
theorem Reaches.yields (h : spec.Reaches pipeline) (hworld : spec.chain? = none)
    (hresolve : pipeline.resolve minX minZ = .ok (tile, after)) :
    ∀ value ∈ tile.values, spec.params.YieldsCell value := by
  obtain ⟨hruns, -⟩ := h.world hworld
  obtain ⟨store, hrun, rfl⟩ := Pipeline.resolve_eq_ok_iff.mp hresolve
  have hat := hruns.occupies hrun
  intro value hmem
  obtain ⟨i, j, hget⟩ := Grid.exists_get_of_mem hmem
  have hin := Grid.get_lt hget
  rw [hat.size_eq] at hin
  rw [hruns.get_eq_cellAt hrun hin.1 hin.2] at hget
  cases hget
  exact Chain.cellsIn_world h.valid hruns.makes minX minZ i j

/-- **No other worlds unless they are asked for.** Let neither the Nether nor the End be a candidate
of any group, with the rare flag or without it, nor what an exchange puts in the place of another
biome. Let a pipeline be built from such parameters for any seed, tile size and capacity of its
store, and be in any state. At every anchor it resolves a tile, as far as memory goes; the tile
begins at the anchor and has the tile size; and none of its cells is Nether or End. -/
theorem Reaches.otherworld_free (h : spec.Reaches pipeline) (hworld : spec.chain? = none)
    (hnormal : ∀ group, ∀ biome ∈ spec.params.groupBiomes.normal.get group,
      biome ≠ .nether ∧ biome ≠ .theEnd)
    (hrare : ∀ group, ∀ biome ∈ spec.params.groupBiomes.rare.get group,
      biome ≠ .nether ∧ biome ≠ .theEnd)
    (hexchanges : ∀ replacement ∈ spec.params.replacements, replacement.new ≠ .nether ∧
      replacement.new ≠ .theEnd)
    (minX minZ : Coord) :
    (spec.tileSize.Addressable (2 * (Chain.world spec.params).stageCount) →
      ∃ tile after, pipeline.resolve minX minZ = .ok (tile, after)) ∧
    ∀ tile after, pipeline.resolve minX minZ = .ok (tile, after) →
      tile.Occupies minX minZ spec.tileSize ∧
      ∀ value ∈ tile.values, value ≠ Biome.nether.id ∧ value ≠ Biome.theEnd.id := by
  obtain ⟨hruns, -⟩ := h.world hworld
  refine ⟨fun hroom => hruns.exists_resolve hroom minX minZ, fun tile after hresolve => ?_⟩
  obtain ⟨store, hrun, -⟩ := Pipeline.resolve_eq_ok_iff.mp hresolve
  refine ⟨hruns.occupies hrun, fun value hmem => ?_⟩
  have hfree : ∀ biome, spec.params.Yields biome → ¬ biome.IsOtherworld := by
    intro biome hyields hother
    rcases hyields.asked hother with ⟨group, hlisted | hlisted⟩ | ⟨replacement, hreplacement, rfl⟩
    · exact hother.elim (hnormal group biome hlisted).1 (hnormal group biome hlisted).2
    · exact hother.elim (hrare group biome hlisted).1 (hrare group biome hlisted).2
    · exact hother.elim (hexchanges replacement hreplacement).1
        (hexchanges replacement hreplacement).2
  obtain ⟨biome, hyields, rfl⟩ := h.yields hworld hresolve value hmem
  exact ⟨fun hid => hfree biome hyields (Or.inl (Biome.eq_of_id_eq hid)),
    fun hid => hfree biome hyields (Or.inr (Biome.eq_of_id_eq hid))⟩

/-- A world that exchanges what is not there for something else, at an anchor whose tile wraps. -/
theorem exchanging_world_is_otherworld_free : ∃ pipeline tile after,
    Reaches ⟨5, { replacements := [⟨.nether, .mesa, 1000⟩, ⟨.plains, .sunflowerPlains, 20⟩] },
      ⟨3, 2⟩, 8, none⟩ pipeline ∧
    pipeline.resolve 2147483647 (-1) = .ok (tile, after) ∧
      ∀ value ∈ tile.values, value ≠ Biome.nether.id ∧ value ≠ Biome.theEnd.id := by
  obtain ⟨pipeline, hbuild, -⟩ := @exists_build_world
    ⟨5, { replacements := [⟨.nether, .mesa, 1000⟩, ⟨.plains, .sunflowerPlains, 20⟩] },
      ⟨3, 2⟩, 8, none⟩ rfl
    (LayerParams.validate_eq_ok_iff.mp rfl) (by decide) (by decide) (by decide)
  have hreaches := Reaches.built hbuild
  have hlists : ∀ group,
      (∀ biome ∈ CandidateTable.standard.normal.get group, biome ≠ .nether ∧ biome ≠ .theEnd) ∧
      ∀ biome ∈ CandidateTable.standard.rare.get group, biome ≠ .nether ∧ biome ≠ .theEnd := by
    intro group
    cases group <;> decide
  obtain ⟨hexists, hfree⟩ :=
    hreaches.otherworld_free rfl (fun group => (hlists group).1) (fun group => (hlists group).2)
    (by decide) 2147483647 (-1)
  obtain ⟨tile, after, hresolve⟩ := hexists (by decide)
  exact ⟨pipeline, tile, after, hreaches, hresolve, (hfree tile after hresolve).2⟩

end PipelineSpec
end BiomeAtlas
