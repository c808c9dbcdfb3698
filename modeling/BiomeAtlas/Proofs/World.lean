import BiomeAtlas.Proofs.Sharing
import BiomeAtlas.Proofs.Values

/-! # The chain of the world

Parameters are `Valid` if every number is in its range and no list of candidates is empty, and this
is what `LayerParams.validate` accepts. With valid parameters the chain of the world is well-formed
(`Chain.wellFormed_world`), writes biomes, and has few doublings: the two numbers of doublings that
can be chosen are bounded.
-/
namespace BiomeAtlas

/-! ## Valid parameters -/

/-- **Valid parameters.** -/
structure LayerParams.Valid (params : LayerParams) : Prop where
  land : 0 ≤ params.landThresholdPercent ∧ params.landThresholdPercent ≤ 100
  islands : 0 ≤ params.islandChancePermille ∧ params.islandChancePermille ≤ 1000
  rareGroups : 0 ≤ params.rareBiomeChancePermille ∧ params.rareBiomeChancePermille ≤ 1000
  oceanSeeds : 0 ≤ params.oceanSeedChancePermille ∧ params.oceanSeedChancePermille ≤ 1000
  deepOcean : 0 ≤ params.deepOceanChancePermille ∧ params.deepOceanChancePermille ≤ 1000
  replacements : ∀ replacement ∈ params.replacements,
    0 ≤ replacement.chancePermille ∧ replacement.chancePermille ≤ 1000
  continentLevels : params.continentZoomLevels ≤ maxZoomLevels
  riverLevels : params.riverZoomLevels ≤ maxZoomLevels
  candidates : params.groupBiomes.Complete

/-- A loop that checks every entry of a list. -/
theorem forIn_check_eq_ok_iff {ε α : Type} {check : α → Except ε Unit} : ∀ {entries : List α},
    (forIn entries PUnit.unit fun entry _ => do
      check entry
      pure (ForInStep.yield PUnit.unit)) = .ok PUnit.unit ↔ ∀ entry ∈ entries, check entry = .ok ()
  | [] => iff_of_true rfl fun _ h => by cases h
  | entry :: later => by
      rw [List.forIn_cons, List.forall_mem_cons, ← forIn_check_eq_ok_iff]
      cases check entry with
      | error e => simp [bind, Except.bind]
      | ok u => simp [bind, Except.bind, pure, Except.pure]

theorem checkZoomLevels_eq_ok_iff {name : String} {levels : UInt32} :
    checkZoomLevels name levels = .ok () ↔ levels ≤ maxZoomLevels := by
  rw [checkZoomLevels, ite_eq_ok_iff, and_iff_left rfl]

theorem LayerParams.validate_eq_ok_iff {params : LayerParams} :
    params.validate = .ok () ↔ params.Valid := by
  unfold validate
  rw [check_bind_eq_ok, check_bind_eq_ok, check_bind_eq_ok, check_bind_eq_ok, check_bind_eq_ok,
    check_bind_eq_ok, check_bind_eq_ok, check_bind_eq_ok, forIn_check_eq_ok_iff,
    CandidateTable.validate_eq_ok_iff, checkZoomLevels_eq_ok_iff, checkZoomLevels_eq_ok_iff]
  simp only [checkPercent, checkPermille, checkRange_eq_ok_iff]
  constructor
  · rintro ⟨hland, hislands, hrare, hseeds, hdeep, hreplacements, hcontinent, hriver, hcandidates⟩
    exact ⟨hland, hislands, hrare, hseeds, hdeep, hreplacements, hcontinent, hriver, hcandidates⟩
  · rintro ⟨hland, hislands, hrare, hseeds, hdeep, hreplacements, hcontinent, hriver, hcandidates⟩
    exact ⟨hland, hislands, hrare, hseeds, hdeep, hreplacements, hcontinent, hriver, hcandidates⟩

namespace Chain
variable {chain secondary : Chain} {offset : Int32}

/-! ## Well-formed chains, step by step -/

theorem wellFormed_source {rule : Source} (h : rule.InRange) :
    (empty.stage (.source rule) offset).WellFormed :=
  ⟨beginsWithSource_stage.mpr (Or.inl ⟨rfl, rfl⟩), trivial, h⟩

theorem WellFormed.zoom (h : chain.WellFormed) : (chain.stage .zoom offset).WellFormed :=
  ⟨beginsWithSource_stage.mpr (Or.inr ⟨h.beginsWithSource, rfl⟩), h.composes, rfl⟩

theorem WellFormed.cross {rule : CrossRule} (h : chain.WellFormed)
    (hfits : rule.Fits chain.writes) :
    (chain.stage (.cross rule) offset).WellFormed :=
  ⟨beginsWithSource_stage.mpr (Or.inr ⟨h.beginsWithSource, rfl⟩), h.composes, hfits⟩

theorem WellFormed.cell {rule : CellRule} (h : chain.WellFormed) (hfits : rule.Fits chain.writes) :
    (chain.stage (.cell rule) offset).WellFormed :=
  ⟨beginsWithSource_stage.mpr (Or.inr ⟨h.beginsWithSource, rfl⟩), h.composes, hfits⟩

theorem WellFormed.blend {rule : BlendRule} (h : chain.WellFormed)
    (hsecondary : secondary.WellFormed) (hfits : rule.Fits chain.writes secondary.writes) :
    (chain.blend rule secondary offset).WellFormed :=
  ⟨beginsWithSource_blend.mpr h.beginsWithSource, h.composes,
    ⟨hsecondary.beginsWithSource, hsecondary.composes⟩, hfits⟩

theorem WellFormed.zoomed {first : Int32} (h : chain.WellFormed) :
    ∀ count, (chain.zoomed count first).WellFormed
  | 0 => h
  | count + 1 => (zoomed h count).zoom

theorem writes_zoomed {first : Int32} : ∀ count, (chain.zoomed count first).writes = chain.writes
  | 0 => rfl
  | count + 1 => writes_zoomed count

theorem writes_replaced : ∀ {chain : Chain} (replacements : List Replacement) {first : Int32},
    (chain.replaced replacements first).writes = chain.writes
  | _, [], _ => rfl
  | _, _ :: later, _ => writes_replaced later

theorem WellFormed.replaced :
    ∀ {chain : Chain} {replacements : List Replacement} {first : Int32}, chain.WellFormed →
    chain.writes = .biome →
    (∀ replacement ∈ replacements, 0 ≤ replacement.chancePermille ∧
      replacement.chancePermille ≤ 1000) →
    (chain.replaced replacements first).WellFormed
  | _, [], _, h, _, _ => h
  | chain, replacement :: later, first, h, hwrites, hranges => by
      obtain ⟨hrange, hlater⟩ := List.forall_mem_cons.mp hranges
      have hfits : (CellRule.replaceRandomly replacement.old.id replacement.new.id
          replacement.chancePermille).Fits chain.writes := by
        refine ⟨hrange, trivial, fun value htarget => ?_, rfl⟩
        cases htarget
        rw [hwrites]
        exact Alphabet.contains_id _
      exact @replaced _ later (first + 1) (h.cell hfits) hwrites hlater

/-! ## The world -/

section World
variable {params : LayerParams}

/-- A rule without a target. -/
theorem fits_cross {rule : CrossRule} {found : Alphabet} (hrange : rule.InRange)
    (htarget : rule.target? = none) (haccepts : rule.reads.accepts found = true) :
    rule.Fits found :=
  ⟨hrange, fun _ h => (by rw [htarget] at h; cases h), haccepts⟩

theorem wellFormed_hillsMask : hillsMask.WellFormed := by
  have hrange : (Source.choice 2).InRange := (by decide : (0 : Int32) < 2)
  exact (wellFormed_source hrange).zoomed 2

theorem wellFormed_rivers (levels : UInt32) : (rivers levels).WellFormed := by
  have hrange : (Source.choice 4).InRange := (by decide : (0 : Int32) < 4)
  refine .cross ?_ (fits_cross trivial rfl rfl)
  refine .zoom ?_
  refine .cross ?_ (fits_cross trivial rfl rfl)
  refine .cross ?_ (fits_cross trivial rfl rfl)
  exact (wellFormed_source hrange).zoomed levels.toNat

theorem wellFormed_groups (h : params.Valid) : (groups params).WellFormed := by
  have hrange : (Source.landOcean params.landThresholdPercent).InRange := h.land
  have hislands : ∀ found, found = .group →
      (CellRule.addIslands params.islandChancePermille).Fits found := by
    rintro found rfl
    exact ⟨h.islands, trivial, fun _ htarget => (by cases htarget), rfl⟩
  refine .cell ?_ ⟨h.rareGroups, trivial, fun _ htarget => (by cases htarget), rfl⟩
  refine .cross ?_ (fits_cross trivial rfl rfl)
  refine .cross ?_ (fits_cross trivial rfl rfl)
  refine .zoom ?_
  refine .cell ?_ (hislands _ rfl)
  refine .zoom ?_
  refine .cell ?_ (hislands _ (writes_zoomed _))
  refine .zoom ?_
  exact (wellFormed_source hrange).zoomed params.continentZoomLevels.toNat

/-- **The chain of the world is well-formed** for valid parameters. -/
theorem wellFormed_world (h : params.Valid) : (world params).WellFormed := by
  have hplaced : ∀ {chance new found}, 0 ≤ chance ∧ chance ≤ 1000 →
      Alphabet.biome.contains new = true → found = .biome →
      (CrossRule.addToOcean chance new).Fits found := by
    rintro chance new found hchance hnew rfl
    exact ⟨hchance, fun _ htarget => (by cases htarget; exact hnew), rfl⟩
  refine .blend ?_ (wellFormed_rivers _) ⟨rfl, rfl⟩
  refine .cross ?_ (fits_cross trivial rfl rfl)
  refine .zoom ?_
  refine .cross ?_ (fits_cross trivial rfl rfl)
  refine .cross ?_ (fits_cross trivial rfl rfl)
  refine .blend ?_ wellFormed_rarerMask ⟨rfl, rfl⟩
  refine .zoom ?_
  refine .cross ?_ (fits_cross trivial rfl rfl)
  refine .zoom ?_
  refine .blend ?_ wellFormed_hillsMask ⟨rfl, rfl⟩
  refine .zoom ?_
  refine .cross ?_ (hplaced h.deepOcean (Alphabet.contains_id _) rfl)
  refine .cross ?_ (hplaced h.oceanSeeds (Alphabet.contains_id _) (writes_replaced _))
  refine .replaced ?_ rfl h.replacements
  exact .cell (wellFormed_groups h) ⟨trivial, h.candidates,
    fun _ htarget => (by cases htarget), rfl⟩

theorem writes_world : (world params).writes = .biome := rfl

/-! ## Doublings -/

theorem doublings_zoomed {chain : Chain} {first : Int32} : ∀ count,
    (chain.zoomed count first).doublings = chain.doublings + count
  | 0 => rfl
  | count + 1 => by
      rw [zoomed, doublings, doublings_zoomed count, Nat.add_assoc]

theorem doublings_replaced : ∀ {chain : Chain} (replacements : List Replacement) {first : Int32},
    (chain.replaced replacements first).doublings = chain.doublings
  | _, [], _ => rfl
  | _, _ :: later, _ => doublings_replaced later

/-- The world has few doublings. -/
theorem doublings_world (h : params.Valid) : (world params).doublings ≤ 2 ^ 32 := by
  have hcontinent := UInt32.le_iff_toNat_le.mp h.continentLevels
  have hriver := UInt32.le_iff_toNat_le.mp h.riverLevels
  simp only [world, groups, rivers, hillsMask, rarerMask, doublings, doublings_replaced,
    doublings_zoomed]
  change params.continentZoomLevels.toNat ≤ 8 at hcontinent
  change params.riverZoomLevels.toNat ≤ 8 at hriver
  omega

end World

end Chain

end BiomeAtlas
