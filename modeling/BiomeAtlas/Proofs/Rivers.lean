import Mathlib.Combinatorics.SimpleGraph.Connectivity.Connected
import BiomeAtlas.Proofs.Passes

/-! # Rivers

A river runs along the borders of regions: it marks a column if, and only if, one of the four
neighbours has another value (`CrossRule.pass_river_eq_id_iff`). Being different is mutual, so where
two neighbours differ both of them are marked, and a river is two columns wide.

Borders are local, but rivers separate regions as a whole. Columns are the vertices of a graph,
joined with their direct neighbours (`columnGraph`). A walk that leaves a region has a step that
leaves it, and both ends of this step are marked; a connected set of columns without rivers has no
such step, so it lies in one region (`CrossRule.rivers_separate`).
-/
namespace BiomeAtlas

/-! ## Walks over columns -/

/-- The second column is a direct neighbour of the first one, maybe across the end of the
coordinates. -/
def Adjacent (here there : Coord × Coord) : Prop :=
  ∃ side : Side, there = (here.1 + side.dx, here.2 + side.dz)

theorem Adjacent.symm {here there : Coord × Coord} (h : Adjacent here there) :
    Adjacent there here := by
  obtain ⟨x, z⟩ := here
  obtain ⟨side, rfl⟩ := h
  exact ⟨side.opposite, Prod.ext (side.add_dx_opposite x).symm (side.add_dz_opposite z).symm⟩

theorem not_adjacent_self (here : Coord × Coord) : ¬ Adjacent here here := by
  rintro ⟨side, h⟩
  exact side.add_ne_self here.1 here.2 h.symm

/-- The graph of the world columns, in which direct neighbours are joined. -/
def columnGraph : SimpleGraph (Coord × Coord) where
  Adj := Adjacent
  symm := ⟨fun _ _ => Adjacent.symm⟩
  loopless := ⟨not_adjacent_self⟩

/-- A walk to another value has a step to another value. -/
theorem exists_dart_ne {V α : Type} {G : SimpleGraph V} {f : V → α} {a b : V} (walk : G.Walk a b)
    (hne : f a ≠ f b) :
    ∃ step ∈ walk.darts, f step.fst ≠ f step.snd := by
  obtain ⟨step, hmem, hinside, houtside⟩ := walk.exists_boundary_dart {c | f c = f a} rfl hne.symm
  exact ⟨step, hmem, fun hsame => houtside (hsame.symm.trans hinside)⟩

namespace CrossRule
variable {noise : Noise} {cross : Cross} {column : Coord → Coord → Cell} {x z : Coord}
  {a b : Coord × Coord}

/-! ## Marked columns -/

theorem bordered_eq_id_iff :
    bordered cross = Biome.river.id ↔ ∃ side, cross.get side ≠ cross.center := by
  have hany := @Cross.any_neighbours_iff cross fun value => value != cross.center
  simp only [bne_iff_ne] at hany
  rw [← hany, bordered]
  by_cases hborder : (cross.neighbours.any fun value => value != cross.center) = true
  · rw [if_pos hborder]
    exact iff_of_true rfl hborder
  · rw [if_neg hborder]
    exact iff_of_false (by decide) hborder

/-- **Rivers run along borders** and nowhere else. -/
theorem pass_river_eq_id_iff :
    river.pass noise column x z = Biome.river.id ↔ ∃ side : Side,
      side.beside column x z ≠ column x z := by
  have hborder := @bordered_eq_id_iff (Cross.at column x z)
  simp only [Cross.get_at] at hborder
  exact hborder

/-- Both of two neighbours that differ are marked. -/
theorem marked_of_adjacent (hadj : Adjacent a b) (hne : column a.1 a.2 ≠ column b.1 b.2) :
    river.pass noise column a.1 a.2 = Biome.river.id := by
  obtain ⟨side, rfl⟩ := hadj
  exact pass_river_eq_id_iff.mpr ⟨side, hne.symm⟩

/-- **Rivers separate regions.** The rule turns every map into a map with the following properties.
On every path between two columns of different value there are two consecutive columns that are
marked as river. A column is marked only if it has a direct neighbour of another value. And a
connected set of columns that are not marked lies inside one region. -/
theorem rivers_separate (column : Coord → Coord → Cell) (seed : Int32) :
    let rivers := river.pass ⟨seed⟩ column
    river.Turns seed column rivers ∧
    (∀ (a b : Coord × Coord) (path : columnGraph.Walk a b), column a.1 a.2 ≠ column b.1 b.2 →
      ∃ step ∈ path.darts, rivers step.fst.1 step.fst.2 = Biome.river.id ∧
        rivers step.snd.1 step.snd.2 = Biome.river.id) ∧
    (∀ x z, rivers x z = Biome.river.id → ∃ side : Side, side.beside column x z ≠ column x z) ∧
    ∀ dry : Set (Coord × Coord), (columnGraph.induce dry).Preconnected →
      (∀ c ∈ dry, rivers c.1 c.2 ≠ Biome.river.id) → ∀ a ∈ dry, ∀ b ∈ dry,
        column a.1 a.2 = column b.1 b.2 := by
  intro rivers
  refine ⟨turns_pass _ _ _, ?_, fun x z => pass_river_eq_id_iff.mp, ?_⟩
  · intro a b path hne
    obtain ⟨step, hmem, hstep⟩ := @exists_dart_ne _ _ _ (fun c => column c.1 c.2) _ _ path hne
    exact ⟨step, hmem, marked_of_adjacent step.adj hstep,
      marked_of_adjacent step.adj.symm hstep.symm⟩
  · intro dry hconnected hunmarked a ha b hb
    by_contra hne
    obtain ⟨path⟩ := hconnected ⟨a, ha⟩ ⟨b, hb⟩
    obtain ⟨step, -, hstep⟩ :=
      @exists_dart_ne _ _ _ (fun c : dry => column c.val.1 c.val.2) _ _ path hne
    exact hunmarked step.fst step.fst.property (marked_of_adjacent step.adj hstep)

end CrossRule
end BiomeAtlas
