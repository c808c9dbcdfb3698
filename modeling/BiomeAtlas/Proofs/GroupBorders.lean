import BiomeAtlas.Proofs.Passes
import BiomeAtlas.Proofs.Spawn

/-! # Borders of groups

Deserts must not touch mountains or ice. The edges of groups see to it in one pass: a desert stays
only where all four neighbours may touch it, and what may touch a desert still may after the pass,
although all columns are rewritten at the same time. So deserts are kept apart
(`CrossRule.desertsApart_pass`), and a second pass finds nothing to do
(`CrossRule.groupEdges_separates`).

The chain of the world smooths the map next. Smoothing knows nothing of groups: it lays a value over
a column that lies between two columns of this value. Where such a bridge is laid beside a column
that keeps its value, a desert comes to lie beside mountains or ice. This is the only way
(`CrossRule.smoothing_joins_at_bridges`), and there are worlds where it happens
(`CrossRule.smoothing_joins_groups`).
-/
namespace BiomeAtlas

/-- **Deserts apart**: every neighbour of a desert may touch it. -/
def DesertsApart (map : Coord → Coord → Cell) : Prop :=
  ∀ (x z : Coord) (side : Side), map x z = Group.desert.id →
    CrossRule.bordersDesert (side.beside map x z) = true

namespace DesertsApart
variable {map : Coord → Coord → Cell} {x z : Coord} {side : Side} {value : Cell}

theorem beside_ne (h : DesertsApart map) (hvalue : CrossRule.bordersDesert value = false)
    (hdesert : map x z = Group.desert.id) :
    side.beside map x z ≠ value := by
  intro hbeside
  have hborders := h x z side hdesert
  rw [hbeside, hvalue] at hborders
  cases hborders

/-- Neighbours are neighbours of each other. -/
theorem borders_of_beside (h : DesertsApart map) (hdesert : side.beside map x z = Group.desert.id) :
    CrossRule.bordersDesert (map x z) = true := by
  have hborders := h (x + side.dx) (z + side.dz) side.opposite hdesert
  rwa [Side.beside_opposite] at hborders

end DesertsApart

namespace CrossRule
variable {noise : Noise} {cross : Cross} {column : Coord → Coord → Cell} {x z : Coord}
  {value : Cell}

theorem bordersDesert_iff : bordersDesert value = true ↔
    value = Group.desert.id ∨ value = Group.ocean.id ∨ value = Group.temperate.id := by
  simp only [bordersDesert, Bool.or_eq_true, beq_iff_eq]
  rw [or_assoc, or_left_comm]

/-! ## Edges of groups -/

/-- What may touch a desert still may afterwards. -/
theorem bordersDesert_separated (h : bordersDesert cross.center = true) :
    bordersDesert (separated cross) = true := by
  rcases separated_cases cross with ⟨hkept, -⟩ | ⟨hmade, -⟩
  · rwa [hkept]
  · rw [hmade]
    rfl

theorem desertsApart_pass (noise : Noise) (column : Coord → Coord → Cell) :
    DesertsApart (groupEdges.pass noise column) := by
  intro x z side hdesert
  change separated (Cross.at column x z) = Group.desert.id at hdesert
  rcases separated_cases (Cross.at column x z) with ⟨hkept, hclashes⟩ | ⟨hmade, -⟩
  · have hside := hclashes side
    rw [← hkept, hdesert, clashes_desert, Bool.not_eq_false', Cross.get_at] at hside
    exact bordersDesert_separated hside
  · rw [hmade] at hdesert
    exact absurd hdesert (by decide)

/-- Groups that clash with none of the others stay. -/
theorem separated_of_ne (hdesert : cross.center ≠ Group.desert.id)
    (hice : cross.center ≠ Group.ice.id) :
    separated cross = cross.center := by
  rcases separated_cases cross with ⟨hkept, -⟩ | ⟨-, side, hclashes⟩
  · exact hkept
  · rw [clashes_of_ne hdesert hice] at hclashes
    cases hclashes

/-- Where deserts are apart, no group clashes with a neighbour. -/
theorem clashes_beside (h : DesertsApart column) (side : Side) :
    clashes (column x z) (side.beside column x z) = false := by
  by_cases hdesert : column x z = Group.desert.id
  · rw [hdesert, clashes_desert, h x z side hdesert]
    rfl
  · by_cases hice : column x z = Group.ice.id
    · rw [hice, clashes_ice, beq_eq_false_iff_ne]
      intro hside
      have hborders := h.borders_of_beside hside
      rw [hice] at hborders
      exact absurd hborders (by decide)
    · exact clashes_of_ne hdesert hice _

/-- Where deserts are apart, the edges change nothing. -/
theorem groupEdges_pass_eq (h : DesertsApart column) : groupEdges.pass noise column = column := by
  funext x z
  rcases separated_cases (Cross.at column x z) with ⟨hkept, -⟩ | ⟨-, side, hclashes⟩
  · exact hkept
  · rw [Cross.get_at] at hclashes
    exact absurd hclashes (Bool.eq_false_iff.mp (clashes_beside h side))

/-- **Groups that must not touch are kept apart.** The edges turn every map of groups into a map in
which no desert has mountains or ice as a direct neighbour, and in which open water, mountains and
temperate land lie where they lay before. A further pass turns that map into itself. -/
theorem groupEdges_separates (column : Coord → Coord → Cell) (seed : Int32) :
    let edges := groupEdges.pass ⟨seed⟩ column
    groupEdges.Turns seed column edges ∧
    (∀ (x z : Coord) (side : Side), edges x z = Group.desert.id →
      side.beside edges x z ≠ Group.mountains.id ∧ side.beside edges x z ≠ Group.ice.id) ∧
    (∀ x z, column x z ∈ [Group.ocean.id, Group.mountains.id, Group.temperate.id] →
      edges x z = column x z) ∧
    ∀ again, groupEdges.Turns again edges edges := by
  have hapart := desertsApart_pass ⟨seed⟩ column
  refine ⟨turns_pass _ _ _, ?_, ?_, ?_⟩
  · intro x z side hdesert
    exact ⟨hapart.beside_ne (by decide) hdesert, hapart.beside_ne (by decide) hdesert⟩
  · intro x z hkept
    have hdesert : column x z ≠ Group.desert.id :=
      fun hdesert => absurd (hdesert ▸ hkept) (by decide)
    have hice : column x z ≠ Group.ice.id := fun hice => absurd (hice ▸ hkept) (by decide)
    exact separated_of_ne hdesert hice
  · intro again
    have hturns := turns_pass groupEdges again (groupEdges.pass ⟨seed⟩ column)
    rwa [groupEdges_pass_eq hapart] at hturns

/-! ## Smoothing behind the edges -/

/-- Seen from any side, the two neighbours lie on that side and across from it, or on the two sides
between. -/
theorem pass_smooth_cases (noise : Noise) (column : Coord → Coord → Cell) (x z : Coord)
    (side : Side) :
    let value := smooth.pass noise column x z
    column x z = value ∨
    (side.beside column x z = value ∧ side.opposite.beside column x z = value) ∨
      (side.turned.beside column x z = value ∧ side.turned.opposite.beside column x z = value) := by
  intro value
  have hcases : value = column x z ∨ ∃ other : Side, other.beside column x z = value ∧
      other.opposite.beside column x z = value := by
    have hcross := smoothed_cases noise (Cross.at column x z) x z
    simp only [Cross.get_at] at hcross
    exact hcross
  rcases hcases with hkept | ⟨other, hfirst, hsecond⟩
  · exact .inl hkept.symm
  · refine .inr ?_
    rcases side.eq_cases other with (rfl | rfl) | rfl | rfl
    · exact .inl ⟨hfirst, hsecond⟩
    · rw [Side.opposite_opposite] at hsecond
      exact .inl ⟨hsecond, hfirst⟩
    · exact .inr ⟨hfirst, hsecond⟩
    · rw [Side.opposite_opposite] at hsecond
      exact .inr ⟨hsecond, hfirst⟩

/-- **A bridge.** Open water or temperate land lies between two neighbours, neither of them on the
given side or across from it, and takes the value that both of them have. -/
structure Bridged (before after : Coord → Coord → Cell) (side : Side) (x z : Coord) : Prop where
  neutral : before x z = Group.ocean.id ∨ before x z = Group.temperate.id
  pier : side.turned.beside before x z = after x z
  otherPier : side.turned.opposite.beside before x z = after x z

/-- Where deserts were apart before smoothing, a desert only touches what it must not if one of the
two is a bridge. -/
theorem bridged_of_touching {side : Side} (h : DesertsApart column)
    (hvalue : bordersDesert value = false)
    (hdesert : smooth.pass noise column x z = Group.desert.id)
    (hbeside : side.beside (smooth.pass noise column) x z = value) :
    (column x z = Group.desert.id ∧
      Bridged column (smooth.pass noise column) side (x + side.dx) (z + side.dz)) ∨
      (side.beside column x z = value ∧ Bridged column (smooth.pass noise column) side x z) := by
  have hne : value ≠ Group.desert.id := by
    rintro rfl
    cases hvalue
  have hneutral : ∀ {found}, bordersDesert found = true → found ≠ Group.desert.id →
      found = Group.ocean.id ∨ found = Group.temperate.id :=
    fun hborders hfound => (bordersDesert_iff.mp hborders).resolve_left hfound
  have hhere := pass_smooth_cases noise column x z side
  have hthere := pass_smooth_cases noise column (x + side.dx) (z + side.dz) side
  rw [Side.beside] at hbeside
  rw [hdesert] at hhere
  rw [hbeside, Side.beside_opposite] at hthere
  rcases hhere with hkept | ⟨halong, -⟩ | ⟨hpier, hotherPier⟩
  · rcases hthere with hkept' | ⟨-, halong'⟩ | ⟨hpier', hotherPier'⟩
    · exact absurd hkept' (h.beside_ne hvalue hkept)
    · exact absurd (halong'.symm.trans hkept) hne
    · refine .inl ⟨hkept, hneutral (h x z side hkept) fun hfound => ?_, hpier'.trans hbeside.symm,
        hotherPier'.trans hbeside.symm⟩
      exact absurd hpier' (h.beside_ne hvalue hfound)
  · -- the column beside was desert, so it cannot have been `value`, nor can any neighbour of it
    rcases hthere with hkept' | ⟨-, halong'⟩ | ⟨hpier', -⟩
    · exact absurd (hkept'.symm.trans halong) hne
    · have hborders := h (x + side.dx) (z + side.dz) side.opposite halong
      rw [Side.beside_opposite, halong', hvalue] at hborders
      cases hborders
    · exact absurd hpier' (h.beside_ne hvalue halong)
  · rcases hthere with hkept' | ⟨-, halong'⟩ | ⟨hpier', -⟩
    · refine .inr ⟨hkept', hneutral (h.borders_of_beside hpier) fun hfound => ?_,
        hpier.trans hdesert.symm, hotherPier.trans hdesert.symm⟩
      exact absurd hkept' (h.beside_ne hvalue hfound)
    · have hborders := h.borders_of_beside hpier
      rw [halong', hvalue] at hborders
      cases hborders
    · -- the piers on the same side of the two columns are neighbours
      rw [Side.beside_comm] at hpier'
      exact absurd hpier' (h.beside_ne hvalue hpier)

/-- **Smoothing joins groups at bridges only.** Behind the edges, smoothing turns every map of
groups into a map in which a desert has mountains or ice as a direct neighbour only if smoothing
laid a bridge at exactly one of the two columns: it was open water or temperate land between two
columns of its new value, which lie neither on the side of the other column nor across from it, and
the other column kept its value. -/
theorem smoothing_joins_at_bridges (column : Coord → Coord → Cell) (seed seed' : Int32) :
    let edges := groupEdges.pass ⟨seed⟩ column
    let smoothed := smooth.pass ⟨seed'⟩ edges
    (groupEdges.Turns seed column edges ∧ smooth.Turns seed' edges smoothed) ∧
    ∀ (x z : Coord) (side : Side), smoothed x z = Group.desert.id →
      side.beside smoothed x z = Group.mountains.id ∨ side.beside smoothed x z = Group.ice.id →
      (edges x z = smoothed x z ∧ Bridged edges smoothed side (x + side.dx) (z + side.dz)) ∨
        (side.beside edges x z = side.beside smoothed x z ∧ Bridged edges smoothed side x z) := by
  intro edges smoothed
  refine ⟨⟨turns_pass _ _ _, turns_pass _ _ _⟩, ?_⟩
  intro x z side hdesert hbeside
  have hvalue : bordersDesert (side.beside smoothed x z) = false := by
    rcases hbeside with hbeside | hbeside <;> rw [hbeside] <;> decide
  rw [hdesert]
  exact bridged_of_touching (desertsApart_pass ⟨seed⟩ column) hvalue hdesert rfl

/-- The chain of the default world does lay such bridges. For the folded seed 109, the temperate
column between two deserts at (14, 0) becomes a desert, and the mountains below it stay. -/
theorem smoothing_joins_groups : ∃ before : Chain,
    let smoothing := (before.stage (.cross .groupEdges) 25).stage (.cross .smooth) 26
    Chain.groups {} = smoothing.stage (.cell (.rareGroups 50)) 27 ∧
    (∀ x z, Alphabet.group.contains (before.column 109 x z) = true) ∧
    smoothing.column 109 =
      smooth.pass ⟨stageSeed 109 26⟩ (groupEdges.pass ⟨stageSeed 109 25⟩ (before.column 109)) ∧
    smoothing.column 109 14 0 = Group.desert.id ∧
    Side.below.beside (smoothing.column 109) 14 0 = Group.mountains.id := by
  have hvalid : ({} : LayerParams).Valid := LayerParams.validate_eq_ok_iff.mp rfl
  refine ⟨_, rfl, ?_, rfl, ?_⟩
  · obtain ⟨⟨⟨hcomposes, -⟩, -⟩, -⟩ := (Chain.wellFormed_groups hvalid).composes
    exact Chain.contains_column 109 hcomposes
  · decide +kernel

end CrossRule
end BiomeAtlas
