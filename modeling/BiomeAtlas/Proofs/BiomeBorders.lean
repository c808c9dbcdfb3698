import BiomeAtlas.Proofs.Passes
import BiomeAtlas.Proofs.Provenance

/-! # Borders of biomes

A biome turns into its edge where it has a neighbour that it rejects (`CrossRule.edgeOf_eq`).
Deserts reject very cold biomes, swamps biomes without rain, jungles and mesa plateaus all biomes
but a few. All columns are rewritten in one pass and judge their neighbours by what these were
before it, so the question is what they reject afterwards.

Jungles and swamps are safe: no rewriting makes a biome that they reject out of one that they do not
(`CrossRule.biomeEdges_shelters`). Deserts and mesa plateaus feed each other. A plateau turns into a
desert without having been asked what a desert rejects, and a desert turns into plains, which
plateaus reject. These two are the only bad borders of deserts and plateaus that one pass leaves
behind (`CrossRule.biomeEdges_bad_border_iff`), and it does leave them
(`CrossRule.biomeEdges_leaves_bad_borders`).
-/
namespace BiomeAtlas

namespace Biome
variable {biome : Biome}

/-! ## What biomes reject -/

/-- The deserts. -/
def deserts : List Biome := [desert, desertM, desertHills]

/-- The mesa plateaus. -/
def mesaPlateaus : List Biome := [mesaPlateau, mesaPlateauF, mesaPlateauFM, mesaPlateauM]

/-- The jungles that have an edge. -/
def jungles : List Biome := [jungle, jungleM]

/-- The swamps. -/
def swamps : List Biome := [swampland, swamplandM]

theorem rejects_of_mem_deserts : ∀ biome ∈ deserts, biome.rejects = BiomeAtlas.isVeryCold := by
  simp [deserts, rejects]

theorem rejects_of_mem_mesaPlateaus :
    ∀ biome ∈ mesaPlateaus, biome.rejects = fun value => !BiomeAtlas.bordersMesa value := by
  simp [mesaPlateaus, rejects]

theorem rejects_of_mem_jungles :
    ∀ biome ∈ jungles, biome.rejects = fun value => !BiomeAtlas.bordersJungle value := by
  simp [jungles, rejects]

theorem rejects_of_mem_swamps : ∀ biome ∈ swamps, biome.rejects = BiomeAtlas.isRainless := by
  simp [swamps, rejects]

/-- Among the biomes that reject others, the edges only make the desert, and only of mesa
plateaus. -/
theorem edge_cases (h : biome.edge ∈ deserts ++ mesaPlateaus ++ jungles ++ swamps) :
    biome.edge = desert ∧ biome ∈ mesaPlateaus := by
  revert h
  cases biome <;> decide

theorem isVeryCold_edge (biome : Biome) : biome.edge.isVeryCold = biome.isVeryCold := by
  cases biome <;> rfl

theorem bordersJungle_edge (biome : Biome) : biome.edge.bordersJungle = biome.bordersJungle := by
  cases biome <;> rfl

theorem isRainless_of_edge (h : biome.edge.isRainless = true) : biome.isRainless = true := by
  revert h
  cases biome <;> decide

theorem bordersMesa_edge (h : biome ≠ desert) : biome.edge.bordersMesa = biome.bordersMesa := by
  revert h
  cases biome <;> decide

theorem any_ofId?_id (biome : Biome) (test : Biome → Bool) :
    (ofId? biome.id).any test = test biome := by
  rw [ofId?_id, Option.any_some]

end Biome

namespace CrossRule
variable {cross : Cross} {biome : Biome} {noise : Noise} {column : Coord → Coord → Cell}
  {x z : Coord} {side : Side}

/-! ## One column -/

theorem edged_of_rejects (hcenter : cross.center = biome.id)
    (h : biome.rejects (cross.get side) = true) :
    edged cross = biome.edge.id := by
  simp only [edged, hcenter, Biome.ofId?_id, edgeOf_eq,
    if_pos (Cross.any_neighbours_iff.mpr ⟨side, h⟩)]

theorem edged_of_accepts (hcenter : cross.center = biome.id)
    (h : ∀ side, biome.rejects (cross.get side) = false) :
    edged cross = biome.id := by
  simp only [edged, hcenter, Biome.ofId?_id, edgeOf_eq, Cross.any_neighbours_eq_false_iff.mpr h,
    Bool.false_eq_true, if_false]

/-- A cell stays as it is, or it holds a biome beside one that this biome rejects. -/
theorem edged_cases (cross : Cross) :
    edged cross = cross.center ∨ ∃ biome : Biome, cross.center = biome.id ∧
    edged cross = biome.edge.id ∧ ∃ side, biome.rejects (cross.get side) = true := by
  cases hfound : Biome.ofId? cross.center with
  | none => exact .inl (by rw [edged, hfound])
  | some biome =>
      have hcenter := (Biome.id_eq_of_ofId? hfound).symm
      by_cases h : ∃ side, biome.rejects (cross.get side) = true
      · obtain ⟨side, hside⟩ := h
        exact .inr ⟨biome, hcenter, edged_of_rejects hcenter hside, side, hside⟩
      · rw [not_exists] at h
        have hkept := edged_of_accepts hcenter fun side => Bool.eq_false_iff.mpr (h side)
        exact .inl (hkept.trans hcenter.symm)

/-- **Survivors.** A biome that rejects others survives where it rejects no neighbour. The edges
make no such biome, except deserts out of mesa plateaus. -/
theorem edged_eq_id_cases (hmem : biome ∈
    Biome.deserts ++ Biome.mesaPlateaus ++ Biome.jungles ++ Biome.swamps)
    (h : edged cross = biome.id) :
    (cross.center = biome.id ∧ ∀ side, biome.rejects (cross.get side) = false) ∨
      (biome = .desert ∧ ∃ plateau ∈ Biome.mesaPlateaus, cross.center = plateau.id) := by
  rcases edged_cases cross with hkept | ⟨inner, hcenter, hedge, -⟩
  · have hcenter := hkept.symm.trans h
    refine .inl ⟨hcenter, fun side => Bool.eq_false_iff.mpr fun hside => ?_⟩
    -- a biome that rejects others is not its own edge
    have hedge := Biome.eq_of_id_eq ((edged_of_rejects hcenter hside).symm.trans h)
    obtain ⟨hdesert, hplateau⟩ := Biome.edge_cases (hedge.symm ▸ hmem)
    rw [← hedge, hdesert] at hplateau
    exact absurd hplateau (by decide)
  · have hmade := Biome.eq_of_id_eq (hedge.symm.trans h)
    obtain ⟨hdesert, hplateau⟩ := Biome.edge_cases (hmade.symm ▸ hmem)
    exact .inr ⟨hmade.symm.trans hdesert, inner, hplateau, hcenter⟩

/-- A class of biomes that the edges neither leave nor enter. -/
theorem any_edged {test : Biome → Bool} (h : ∀ biome : Biome, test biome.edge = test biome)
    (cross : Cross) :
    (Biome.ofId? (edged cross)).any test = (Biome.ofId? cross.center).any test := by
  rcases edged_cases cross with hkept | ⟨biome, hcenter, hedge, -⟩
  · rw [hkept]
  · rw [hedge, hcenter, Biome.any_ofId?_id, Biome.any_ofId?_id, h]

theorem isVeryCold_edged (cross : Cross) : isVeryCold (edged cross) = isVeryCold cross.center :=
  any_edged Biome.isVeryCold_edge cross

theorem bordersJungle_edged (cross : Cross) :
    bordersJungle (edged cross) = bordersJungle cross.center :=
  any_edged Biome.bordersJungle_edge cross

/-- The edges make no biome without rain out of one with rain. -/
theorem isRainless_of_edged (cross : Cross) (h : isRainless (edged cross) = true) :
    isRainless cross.center = true := by
  rcases edged_cases cross with hkept | ⟨biome, hcenter, hedge, -⟩
  · rwa [hkept] at h
  · rw [isRainless, hedge, Biome.any_ofId?_id] at h
    rw [isRainless, hcenter, Biome.any_ofId?_id]
    exact Biome.isRainless_of_edge h

/-- What may border a mesa plateau still may afterwards, unless it was a desert that turned into
plains. -/
theorem bordersMesa_edged_eq_false_iff (cross : Cross) (h : bordersMesa cross.center = true) :
    bordersMesa (edged cross) = false ↔ cross.center = Biome.desert.id ∧ ∃ side,
      isVeryCold (cross.get side) = true := by
  rcases edged_cases cross with hkept | ⟨biome, hcenter, hedge, side, hside⟩
  · rw [hkept, h]
    refine iff_of_false (by decide) ?_
    rintro ⟨hdesert, side, hcold⟩
    rw [hkept.symm.trans (edged_of_rejects hdesert hcold)] at hdesert
    cases hdesert
  · by_cases hdesert : biome = .desert
    · subst hdesert
      rw [hedge]
      exact iff_of_true rfl ⟨hcenter, side, hside⟩
    · rw [bordersMesa, hcenter, Biome.any_ofId?_id] at h
      rw [bordersMesa, hedge, Biome.any_ofId?_id, Biome.bordersMesa_edge hdesert, h]
      exact iff_of_false (by decide) fun hcold =>
        hdesert (Biome.eq_of_id_eq (hcenter.symm.trans hcold.1))

/-! ## One pass -/

/-- The survivors on a map that the edges have made. -/
theorem pass_biomeEdges_eq_id_cases
    (hmem : biome ∈ Biome.deserts ++ Biome.mesaPlateaus ++ Biome.jungles ++ Biome.swamps)
    (h : biomeEdges.pass noise column x z = biome.id) :
    (column x z = biome.id ∧ ∀ side : Side, biome.rejects (side.beside column x z) = false) ∨
      (biome = .desert ∧ ∃ plateau ∈ Biome.mesaPlateaus, column x z = plateau.id) := by
  have hedged : edged (Cross.at column x z) = biome.id := h
  have hcases := edged_eq_id_cases hmem hedged
  simp only [Cross.get_at] at hcases
  exact hcases

/-- **Bad borders of deserts and mesa plateaus are made by the pass itself.** The edges turn every
map of biomes into a map in which a desert of any kind has a very cold neighbour exactly where a
mesa plateau beside that neighbour has just turned into the desert, and a mesa plateau has a
neighbour that it rejects exactly where a desert has just turned into plains there, beside a very
cold neighbour of its own. -/
theorem biomeEdges_bad_border_iff (column : Coord → Coord → Cell) (seed : Int32) :
    let edges := biomeEdges.pass ⟨seed⟩ column
    biomeEdges.Turns seed column edges ∧
    (∀ biome ∈ Biome.deserts, ∀ (x z : Coord) (side : Side), edges x z = biome.id →
      (isVeryCold (side.beside edges x z) = true ↔ biome = .desert ∧
        (∃ plateau ∈ Biome.mesaPlateaus, column x z = plateau.id) ∧
        isVeryCold (side.beside column x z) = true)) ∧
    (∀ biome ∈ Biome.mesaPlateaus, ∀ (x z : Coord) (side : Side), edges x z = biome.id →
      (bordersMesa (side.beside edges x z) = false ↔ side.beside column x z = Biome.desert.id ∧
        ∃ other : Side, isVeryCold (other.beside column (x + side.dx) (z + side.dz)) = true)) := by
  intro edges
  refine ⟨turns_pass _ _ _, ?_, ?_⟩
  · intro biome hmem x z side hbiome
    have hcold : isVeryCold (side.beside edges x z) = isVeryCold (side.beside column x z) :=
      isVeryCold_edged (Cross.at column (x + side.dx) (z + side.dz))
    rw [hcold]
    rcases pass_biomeEdges_eq_id_cases (by simp [hmem]) hbiome with
      ⟨-, haccepts⟩ | ⟨hdesert, hplateau⟩
    · have hside := haccepts side
      rw [Biome.rejects_of_mem_deserts biome hmem] at hside
      rw [hside]
      exact iff_of_false (by decide) fun h => Bool.false_ne_true h.2.2
    · exact ⟨fun h => ⟨hdesert, hplateau, h⟩, fun h => h.2.2⟩
  · intro biome hmem x z side hbiome
    rcases pass_biomeEdges_eq_id_cases (by simp [hmem]) hbiome with ⟨-, haccepts⟩ | ⟨rfl, -⟩
    · have hside := haccepts side
      rw [Biome.rejects_of_mem_mesaPlateaus biome hmem, Bool.not_eq_false'] at hside
      have hlost :=
        bordersMesa_edged_eq_false_iff (Cross.at column (x + side.dx) (z + side.dz)) hside
      simp only [Cross.get_at] at hlost
      exact hlost
    · exact absurd hmem (by decide)

/-- A row of ice plains with a desert, a mesa and two mesa plateaus in it. -/
def plateausInIce (x : Coord) : Biome :=
  if x = 1 then .desert
  else if x = 2 ∨ x = 4 then .mesaPlateau
  else if x = 3 then .mesa
  else .icePlains

/-- Both kinds of bad borders come about. The desert turns into plains, and the plateau beside it,
with the mesa on its other side, stays. The plateau behind the mesa turns into a desert beside ice
plains. -/
theorem biomeEdges_leaves_bad_borders :
    let column : Coord → Coord → Cell := fun x _ => (plateausInIce x).id
    let edges := biomeEdges.pass ⟨0⟩ column
    (∀ x z, Alphabet.biome.contains (column x z) = true) ∧
      (edges 4 0 = Biome.desert.id ∧ isVeryCold (Side.right.beside edges 4 0) = true) ∧
      edges 2 0 = Biome.mesaPlateau.id ∧ bordersMesa (Side.left.beside edges 2 0) = false := by
  refine ⟨fun x z => Alphabet.contains_id _, ?_⟩
  decide +kernel

/-- **Jungles and swamps are sheltered.** The edges turn every map of biomes into a map in which a
jungle only has neighbours that may border it, and a swamp has no neighbour without rain. -/
theorem biomeEdges_shelters (column : Coord → Coord → Cell) (seed : Int32) :
    let edges := biomeEdges.pass ⟨seed⟩ column
    biomeEdges.Turns seed column edges ∧
    (∀ biome ∈ Biome.jungles, ∀ (x z : Coord) (side : Side), edges x z = biome.id →
      bordersJungle (side.beside edges x z) = true) ∧
    (∀ biome ∈ Biome.swamps, ∀ (x z : Coord) (side : Side), edges x z = biome.id →
      isRainless (side.beside edges x z) = false) := by
  intro edges
  refine ⟨turns_pass _ _ _, ?_, ?_⟩
  · intro biome hmem x z side hbiome
    rcases pass_biomeEdges_eq_id_cases (by simp [hmem]) hbiome with ⟨-, haccepts⟩ | ⟨rfl, -⟩
    · have hside := haccepts side
      rw [Biome.rejects_of_mem_jungles biome hmem, Bool.not_eq_false'] at hside
      exact (bordersJungle_edged (Cross.at column (x + side.dx) (z + side.dz))).trans hside
    · exact absurd hmem (by decide)
  · intro biome hmem x z side hbiome
    rcases pass_biomeEdges_eq_id_cases (by simp [hmem]) hbiome with ⟨-, haccepts⟩ | ⟨rfl, -⟩
    · have hside := haccepts side
      rw [Biome.rejects_of_mem_swamps biome hmem] at hside
      refine Bool.eq_false_iff.mpr fun hrainless => ?_
      have hbefore : isRainless (side.beside column x z) = true :=
        isRainless_of_edged (Cross.at column (x + side.dx) (z + side.dz)) hrainless
      rw [hside] at hbefore
      cases hbefore
    · exact absurd hmem (by decide)

end CrossRule
end BiomeAtlas
