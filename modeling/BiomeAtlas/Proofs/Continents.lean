import BiomeAtlas.Proofs.Seamless
import BiomeAtlas.Proofs.Values

/-! # More land

A larger share of land, or more islands, never drown a column that was dry: whatever is done to the
groups afterwards, by doubling them, by further islands and by keeping deserts and ice apart, land
of the map with less of it is land of the other one (`Chain.LandGrows.tiles_keep_land`).

The groups themselves may change everywhere. A column that turns from water into land early is drawn
a group of its own, which is doubled, and which its neighbours see. So nothing is said of groups but
whether they are land (`StaysLand`), and each step is shown to go by that alone: a doubling picks a
place before it looks at what is there, islands only rise out of water, and land that is kept apart
from other land stays land.
-/
namespace BiomeAtlas

/-- Where the first value is land, the second one is. -/
def StaysLand (value value' : Cell) : Prop :=
  value ≠ Group.ocean.id → value' ≠ Group.ocean.id

/-! ## Doublings pick places

What a doubling puts at a column is one of up to four values; which of them does not depend on the
values. So a relation between the values of two maps holds between the doubled maps as well. -/

namespace Noise
variable {noise : Noise} {R : Cell → Cell → Prop} {a b c d a' b' c' d' : Cell}

theorem chooseTwo_rel (x z : Coord) (ha : R a a') (hb : R b b') :
    R (noise.chooseTwo x z a b) (noise.chooseTwo x z a' b') := by
  unfold chooseTwo
  split
  · exact ha
  · exact hb

theorem chooseFour_rel (x z : Coord) (ha : R a a') (hb : R b b') (hc : R c c') (hd : R d d') :
    R (noise.chooseFour x z a b c d) (noise.chooseFour x z a' b' c' d') := by
  simp only [chooseFour]
  split
  · exact ha
  · split
    · exact hb
    · split
      · exact hc
      · exact hd

theorem interpolate_rel (blockX blockZ : Coord) (placeX placeZ : Nat) (ha : R a a')
    (hb : R b b') (hc : R c c') (hd : R d d') :
    R (noise.interpolate blockX blockZ placeX placeZ a b c d)
      (noise.interpolate blockX blockZ placeX placeZ a' b' c' d') := by
  unfold interpolate
  split
  · exact ha
  · exact chooseTwo_rel _ _ ha hc
  · exact chooseTwo_rel _ _ ha hb
  · exact chooseFour_rel _ _ ha hb hc hd

end Noise

/-! ## Steps of two maps -/

section Steps
variable {noise : Noise} {value value' : Cell}

/-- Land by a lower threshold is land by a higher one. The origin is land by any of them. -/
theorem Source.staysLand_cellAt {threshold threshold' : Int32}
    (h : threshold ≤ threshold') (size : Size) (minX minZ : Coord) (i j : Nat) :
    StaysLand ((Source.landOcean threshold).cellAt noise size minX minZ i j)
      ((Source.landOcean threshold').cellAt noise size minX minZ i j) := by
  intro hland
  simp only [cellAt, settlesOrigin, draw, true_and] at hland ⊢
  split at hland
  · rename_i horigin
    rw [if_pos horigin]
    decide
  · rename_i horigin
    rw [if_neg horigin]
    split at hland
    · rename_i hroll
      rw [if_pos (Int32.lt_of_lt_of_le hroll h)]
      exact drawnGroup_ne_ocean (noise.toInt_roll_nonneg _ _) (by decide)
    · exact absurd rfl hland

/-- Islands that rise by a smaller chance rise by a larger one, unless there is land already. -/
theorem CellRule.staysLand_addIslands {chance chance' : Int32} (h : chance ≤ chance')
    (hvalue : StaysLand value value') (x z : Coord) :
    StaysLand ((addIslands chance).value noise value x z)
    ((addIslands chance').value noise value' x z) := by
  intro hland
  simp only [CellRule.value, apply] at hland ⊢
  by_cases hwater' : value' = Group.ocean.id
  · -- what is water with more land is water with less, so the first island has to have risen here
    have hwater : value = Group.ocean.id := Classical.not_not.mp fun hne => hvalue hne hwater'
    by_cases hroll : noise.roll x z % 1000 < chance
    · rw [if_pos ⟨hwater', Int32.lt_of_lt_of_le hroll h⟩]
      exact drawnGroup_ne_ocean (noise.toInt_roll_nonneg x z) (by decide)
    · rw [if_neg fun hrises => hroll hrises.2] at hland
      exact absurd hwater hland
  · rw [if_neg fun hrises => hwater' hrises.1]
    exact hwater'

/-- Keeping groups apart makes no water, and no land of water. -/
theorem CrossRule.separated_eq_ocean_iff {cross : Cross} :
    separated cross = Group.ocean.id ↔ cross.center = Group.ocean.id := by
  rcases separated_cases cross with ⟨hkept, -⟩ | ⟨hmade, side, hclashes⟩
  · rw [hkept]
  · rw [hmade]
    refine iff_of_false (by decide) fun hocean => ?_
    rw [hocean, clashes_of_ne (by decide) (by decide)] at hclashes
    cases hclashes

theorem CrossRule.staysLand_separated {cross cross' : Cross}
    (h : StaysLand cross.center cross'.center) :
    StaysLand (separated cross) (separated cross') := by
  intro hland hwater
  exact h (fun hcenter => hland (separated_eq_ocean_iff.mpr hcenter))
    (separated_eq_ocean_iff.mp hwater)

end Steps

/-! ## Chains of two maps -/

namespace Chain

/-- **More land by the same steps**: chains of groups that do the same things in the same order and
with the same seeds, where the second one asks for no less land, and for no fewer islands at each
step that makes islands. -/
inductive LandGrows : Chain → Chain → Prop
  | landOcean {threshold threshold' : Int32} (offset : Int32) (h : threshold ≤ threshold') :
      LandGrows (empty.stage (.source (.landOcean threshold)) offset)
        (empty.stage (.source (.landOcean threshold')) offset)
  | zoom {before before' : Chain} (offset : Int32) (h : LandGrows before before') :
      LandGrows (before.stage .zoom offset) (before'.stage .zoom offset)
  | addIslands {before before' : Chain} {chance chance' : Int32} (offset : Int32)
      (h : LandGrows before before') (hchance : chance ≤ chance') :
      LandGrows (before.stage (.cell (.addIslands chance)) offset)
      (before'.stage (.cell (.addIslands chance')) offset)
  | groupEdges {before before' : Chain} (offset : Int32) (h : LandGrows before before') :
      LandGrows (before.stage (.cross .groupEdges) offset)
        (before'.stage (.cross .groupEdges) offset)

namespace LandGrows
variable {chain chain' : Chain}

/-- **Land stays land**, at every place of every tile, whether the tile wraps or not. -/
theorem staysLand (h : chain.LandGrows chain') :
    ∀ {folded : Int32} {size : Size} {made made' : Stage},
    chain.Makes folded size made → chain'.Makes folded size made' →
    ∀ (minX minZ : Coord) (i j : Nat),
      StaysLand (made.cellAt minX minZ i j) (made'.cellAt minX minZ i j) := by
  induction h with
  | landOcean offset hthreshold =>
      intro folded size made made' hmade hmade' minX minZ i j
      cases hmade with
      | source hmade =>
          cases hmade' with
          | source hmade' =>
              obtain ⟨-, -, rfl⟩ := Stage.ofSource_eq_ok_iff.mp hmade
              obtain ⟨-, -, rfl⟩ := Stage.ofSource_eq_ok_iff.mp hmade'
              exact Source.staysLand_cellAt hthreshold size minX minZ i j
  | zoom offset _ ih =>
      intro folded size made made' hmade hmade' minX minZ i j
      cases hmade with
      | zoom hbefore hmade =>
          cases hmade' with
          | zoom hbefore' hmade' =>
              obtain ⟨-, -, rfl⟩ := Stage.ofZoom_eq_ok_iff.mp hmade
              obtain ⟨-, -, rfl⟩ := Stage.ofZoom_eq_ok_iff.mp hmade'
              -- the four coarse cells have the same places in both maps
              have hlower := ih hbefore hbefore' (coarse minX) (coarse minZ)
              exact Noise.interpolate_rel _ _ _ _ (hlower _ _) (hlower _ _)
                (hlower _ _) (hlower _ _)
  | addIslands offset _ hchance ih =>
      intro folded size made made' hmade hmade' minX minZ i j
      cases hmade with
      | cell hbefore hmade =>
          cases hmade' with
          | cell hbefore' hmade' =>
              obtain ⟨-, rfl⟩ := Stage.ofCell_eq_ok_iff.mp hmade
              obtain ⟨-, rfl⟩ := Stage.ofCell_eq_ok_iff.mp hmade'
              exact CellRule.staysLand_addIslands hchance (ih hbefore hbefore' minX minZ i j) _ _
  | groupEdges offset _ ih =>
      intro folded size made made' hmade hmade' minX minZ i j
      cases hmade with
      | cross hhalo hbefore hmade =>
          cases hmade' with
          | cross hhalo' hbefore' hmade' =>
              obtain ⟨-, -, -, rfl⟩ := Stage.ofCross_eq_ok_iff.mp hmade
              obtain ⟨-, -, -, rfl⟩ := Stage.ofCross_eq_ok_iff.mp hmade'
              cases hhalo.symm.trans hhalo'
              -- the neighbours may differ in any way, only the cell itself counts
              exact CrossRule.staysLand_separated
                (ih hbefore hbefore' (minX - 1) (minZ - 1) (i + 1) (j + 1))

/-- **Land grows with its tunables.** Let two chains of groups do the same with the same seeds, and
let the second one ask for no less land and for no fewer islands. Let both be in use for the same
folded seed and size, with stores or without. At every anchor both answer with a tile, as far as
memory goes; the tiles begin at the anchor and have the size; and at each place where the first one
does not hold open water, the second one does not either. -/
theorem tiles_keep_land (h : chain.LandGrows chain') {folded : Int32} {size : Size}
    {stage stage' : Stage} {store store' : TileStore}
    (hserves : chain.Serves folded size stage store)
    (hserves' : chain'.Serves folded size stage' store') (minX minZ : Coord) :
    (size.Addressable (2 * chain.stageCount) →
      ∃ tile later, (stage.generate minX minZ).run store = .ok (tile, later)) ∧
    (size.Addressable (2 * chain'.stageCount) →
      ∃ tile' later', (stage'.generate minX minZ).run store' = .ok (tile', later')) ∧
    ∀ tile later tile' later', (stage.generate minX minZ).run store = .ok (tile, later) →
      (stage'.generate minX minZ).run store' = .ok (tile', later') →
      (tile.Occupies minX minZ size ∧ tile'.Occupies minX minZ size) ∧
      ∀ i j, i < size.width → j < size.height → ∃ value value', tile.get i j = .ok value ∧
        tile'.get i j = .ok value' ∧
        (value ≠ Group.ocean.id → value' ≠ Group.ocean.id) := by
  refine ⟨fun hroom => hserves.exists_tile hroom minX minZ,
    fun hroom => hserves'.exists_tile hroom minX minZ, ?_⟩
  intro tile later tile' later' hrun hrun'
  refine ⟨⟨hserves.occupies hrun, hserves'.occupies hrun'⟩, fun i j hi hj => ?_⟩
  exact ⟨_, _, hserves.get_eq_cellAt hrun hi hj, hserves'.get_eq_cellAt hrun' hi hj,
    h.staysLand hserves.makes hserves'.makes minX minZ i j⟩

end LandGrows

/-- Land and water, doubled once, with islands and the groups kept apart. -/
def smallContinents (threshold chance : Int32) : Chain :=
  empty
  |>.stage (.source (.landOcean threshold)) 1
  |>.stage .zoom 2
  |>.stage (.cell (.addIslands chance)) 3
  |>.stage (.cross .groupEdges) 4

/-- With hardly any land and with a good deal of it, at an anchor whose tile wraps. -/
theorem LandGrows.smallContinents_keep_land :
    (smallContinents 2 10).LandGrows (smallContinents 60 200) ∧
    ∃ stage stage', ((smallContinents 2 10).Serves 5 ⟨2, 2⟩ stage (.empty 0) ∧
      (smallContinents 60 200).Serves 5 ⟨2, 2⟩ stage' (.empty 0)) ∧
    ∃ tile later tile' later', (stage.generate 2147483647 (-1)).run (.empty 0) = .ok (tile, later) ∧
      (stage'.generate 2147483647 (-1)).run (.empty 0) = .ok (tile', later') ∧
      ∃ value value', tile.get 1 1 = .ok value ∧ tile'.get 1 1 = .ok value' ∧
        (value ≠ Group.ocean.id → value' ≠ Group.ocean.id) := by
  have hgrows : (smallContinents 2 10).LandGrows (smallContinents 60 200) :=
    .groupEdges 4 (.addIslands 3 (.zoom 2 (.landOcean 1 (by decide))) (by decide))
  have hbuild :
    ((smallContinents 2 10).build false 5 ⟨2, 2⟩).run (.empty 0) = .ok (_, .empty 0) := rfl
  have hbuild' :
    ((smallContinents 60 200).build false 5 ⟨2, 2⟩).run (.empty 0) = .ok (_, .empty 0) := rfl
  have hserves : (smallContinents 2 10).Serves 5 ⟨2, 2⟩ _ (.empty 0) := .alone hbuild
  have hserves' : (smallContinents 60 200).Serves 5 ⟨2, 2⟩ _ (.empty 0) := .alone hbuild'
  obtain ⟨hexists, hexists', hkeep⟩ := hgrows.tiles_keep_land hserves hserves' 2147483647 (-1)
  obtain ⟨tile, later, hrun⟩ := hexists (by decide)
  obtain ⟨tile', later', hrun'⟩ := hexists' (by decide)
  obtain ⟨-, hland⟩ := hkeep tile later tile' later' hrun hrun'
  exact ⟨hgrows, _, _, ⟨hserves, hserves'⟩, tile, later, tile', later', hrun, hrun',
    hland 1 1 (by decide) (by decide)⟩

end Chain
end BiomeAtlas
