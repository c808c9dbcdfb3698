import BiomeAtlas.Stage.Cross

/-! # Direct neighbours

A cross rule decides a cell by the cells beside it. Here these are told apart by their `Side`: what
is said of any side is said of all four of them, and a step to a side and the step to the opposite
side cancel each other.

Three of the rules get the form in which the rest of the theory uses them. Smoothing keeps a cell or
copies two neighbours across from each other (`CrossRule.smoothed_cases`). A group keeps its place
where it clashes with no neighbour, and makes way for temperate land elsewhere
(`CrossRule.separated_cases`). The edges of biomes are many cases of one rule: a biome turns into
its edge where it has a neighbour that it rejects (`CrossRule.edgeOf_eq`).
-/
namespace BiomeAtlas

/-! ## Sides -/

/-- The sides on which a column has a direct neighbour. -/
inductive Side where
  | above
  | below
  | left
  | right
  deriving DecidableEq, Repr

namespace Side
variable {column : Coord → Coord → Cell} {x z : Coord}

/-- The step to the neighbour, from column to column. -/
def dx : Side → Coord
  | above | below => 0
  | left => -1
  | right => 1

/-- The step to the neighbour, from row to row. -/
def dz : Side → Coord
  | above => -1
  | below => 1
  | left | right => 0

/-- The side across the column. -/
def opposite : Side → Side
  | above => below
  | below => above
  | left => right
  | right => left

/-- The next side, clockwise. -/
def turned : Side → Side
  | above => right
  | right => below
  | below => left
  | left => above

/-- The value of the neighbour on a side. -/
def beside (side : Side) (column : Coord → Coord → Cell) (x z : Coord) : Cell :=
  column (x + side.dx) (z + side.dz)

/-- Seen from any side, the four sides are that one, the opposite one and the two between them. -/
theorem eq_cases (side other : Side) :
    (other = side ∨ other = side.opposite) ∨ other = side.turned ∨
    other = side.turned.opposite := by
  cases side <;> cases other <;> decide

theorem opposite_opposite (side : Side) : side.opposite.opposite = side := by
  cases side <;> rfl

theorem add_dx_opposite (side : Side) (x : Coord) : x + side.dx + side.opposite.dx = x := by
  cases side <;> simp only [opposite, dx] <;> grind

theorem add_dz_opposite (side : Side) (z : Coord) : z + side.dz + side.opposite.dz = z := by
  cases side <;> simp only [opposite, dz] <;> grind

/-- A neighbour is another column. -/
theorem add_ne_self (side : Side) (x z : Coord) : (x + side.dx, z + side.dz) ≠ (x, z) := by
  intro h
  obtain ⟨hx, hz⟩ := Prod.mk.inj h
  cases side with
  | above | below => simp only [dz] at hz; grind
  | left | right => simp only [dx] at hx; grind

/-- The neighbour of the neighbour on the opposite side is the column itself. -/
theorem beside_opposite (side : Side) :
    side.opposite.beside column (x + side.dx) (z + side.dz) = column x z := by
  rw [beside, add_dx_opposite, add_dz_opposite]

/-- Two steps lead to the same column in either order. -/
theorem beside_comm (side other : Side) : other.beside column (x + side.dx) (z + side.dz) =
    side.beside column (x + other.dx) (z + other.dz) := by
  have hswap : ∀ c step step' : Coord, c + step + step' = c + step' + step := by grind
  rw [beside, beside, hswap, hswap z]

end Side

namespace Cross
variable {cross : Cross} {test : Cell → Bool}

/-- The neighbour on a side. -/
def get (cross : Cross) : Side → Cell
  | .above => cross.above
  | .below => cross.below
  | .left => cross.left
  | .right => cross.right

theorem get_mem_neighbours (cross : Cross) (side : Side) : cross.get side ∈ cross.neighbours := by
  cases side <;> simp [get, neighbours]

theorem any_neighbours_iff :
    cross.neighbours.any test = true ↔ ∃ side, test (cross.get side) = true := by
  simp only [neighbours, List.any_cons, List.any_nil, Bool.or_false, Bool.or_eq_true]
  constructor
  · rintro (h | h | h | h)
    · exact ⟨.above, h⟩
    · exact ⟨.below, h⟩
    · exact ⟨.left, h⟩
    · exact ⟨.right, h⟩
  · rintro ⟨side, h⟩
    cases side with
    | above => exact .inl h
    | below => exact .inr (.inl h)
    | left => exact .inr (.inr (.inl h))
    | right => exact .inr (.inr (.inr h))

theorem any_neighbours_eq_false_iff :
    cross.neighbours.any test = false ↔ ∀ side, test (cross.get side) = false := by
  rw [← Bool.not_eq_true, any_neighbours_iff, not_exists]
  simp only [Bool.not_eq_true]

end Cross

/-! ## Smoothing -/

namespace CrossRule

/-- A smoothed column keeps its value, or it takes the value of two neighbours on opposite sides. -/
theorem smoothed_cases (noise : Noise) (cross : Cross) (x z : Coord) :
    smoothed noise cross x z = cross.center ∨
    ∃ side, cross.get side = smoothed noise cross x z ∧
      cross.get side.opposite = smoothed noise cross x z := by
  unfold smoothed
  split
  · rename_i hboth
    split
    · exact .inr ⟨.left, rfl, hboth.1.symm⟩
    · exact .inr ⟨.above, rfl, hboth.2.symm⟩
  · split
    · rename_i hvertical
      exact .inr ⟨.above, rfl, hvertical.symm⟩
    · split
      · rename_i hhorizontal
        exact .inr ⟨.left, rfl, hhorizontal.symm⟩
      · exact .inl rfl

/-- Smoothing copies the cell or one of its neighbours. -/
theorem smoothed_mem (noise : Noise) (cross : Cross) (x z : Coord) :
    smoothed noise cross x z ∈ cross.center :: cross.neighbours := by
  rcases smoothed_cases noise cross x z with hkept | ⟨side, hside, -⟩
  · rw [hkept]
    exact List.mem_cons_self
  · rw [← hside]
    exact List.mem_cons_of_mem _ (cross.get_mem_neighbours side)

/-! ## Edges of groups -/

/-- Whether a group must not touch a neighbour. Deserts say so of most groups, and ice says so of
deserts. -/
def clashes (group neighbour : Cell) : Bool :=
  (group == Group.desert.id && !bordersDesert neighbour) ||
    (group == Group.ice.id && neighbour == Group.desert.id)

theorem clashes_desert (neighbour : Cell) :
    clashes Group.desert.id neighbour = !bordersDesert neighbour :=
  Bool.or_false _

theorem clashes_ice (neighbour : Cell) :
    clashes Group.ice.id neighbour = (neighbour == Group.desert.id) :=
  rfl

theorem clashes_of_ne {group : Cell} (hdesert : group ≠ Group.desert.id)
    (hice : group ≠ Group.ice.id) (neighbour : Cell) :
    clashes group neighbour = false := by
  simp only [clashes, beq_eq_false_iff_ne.mpr hdesert, beq_eq_false_iff_ne.mpr hice, Bool.false_and,
    Bool.or_false]

/-- **One rule for all groups.** -/
theorem separated_eq (cross : Cross) :
    separated cross =
      if cross.neighbours.any (clashes cross.center) then Group.temperate.id else cross.center := by
  unfold separated
  by_cases hdesert : cross.center = Group.desert.id
  · rw [if_pos hdesert, hdesert, funext clashes_desert]
  · rw [if_neg hdesert]
    by_cases hice : cross.center = Group.ice.id
    · rw [if_pos hice, hice, funext clashes_ice]
    · have hnone : cross.neighbours.any (clashes cross.center) = false :=
        Cross.any_neighbours_eq_false_iff.mpr fun side => clashes_of_ne hdesert hice _
      rw [if_neg hice, hnone, if_neg Bool.false_ne_true]

/-- A group stays where it clashes with no neighbour, and makes way for temperate land elsewhere. -/
theorem separated_cases (cross : Cross) :
    (separated cross = cross.center ∧ ∀ side, clashes cross.center (cross.get side) = false) ∨
      (separated cross = Group.temperate.id ∧ ∃ side,
        clashes cross.center (cross.get side) = true) := by
  rw [separated_eq]
  by_cases hany : cross.neighbours.any (clashes cross.center) = true
  · exact .inr ⟨if_pos hany, Cross.any_neighbours_iff.mp hany⟩
  · exact .inl ⟨if_neg hany, Cross.any_neighbours_eq_false_iff.mp (Bool.eq_false_iff.mpr hany)⟩

end CrossRule

/-! ## Edges of biomes -/

namespace Biome

/-- Whether the biome turns into its edge beside the value. -/
def rejects : Biome → Cell → Bool
  | desert | desertM | desertHills => BiomeAtlas.isVeryCold
  | mesaPlateau | mesaPlateauF | mesaPlateauFM | mesaPlateauM =>
      fun value => !BiomeAtlas.bordersMesa value
  | jungle | jungleM => fun value => !BiomeAtlas.bordersJungle value
  | swampland | swamplandM => BiomeAtlas.isRainless
  | _ => fun _ => false

/-- What the biome turns into beside a value that it rejects. -/
def edge : Biome → Biome
  | desert | desertM | desertHills | swampland | swamplandM => plains
  | mesaPlateau | mesaPlateauF | mesaPlateauFM | mesaPlateauM => desert
  | jungle => jungleEdge
  | jungleM => jungleEdgeM
  | biome => biome

end Biome

/-- **One rule for all edges.** -/
theorem CrossRule.edgeOf_eq (biome : Biome) (neighbours : List Cell) :
    edgeOf biome neighbours = if neighbours.any biome.rejects then biome.edge else biome := by
  cases biome <;> first | rfl | exact (ite_self _).symm

end BiomeAtlas
