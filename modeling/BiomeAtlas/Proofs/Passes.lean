import BiomeAtlas.Proofs.Column
import BiomeAtlas.Proofs.Neighbours
import BiomeAtlas.Proofs.Room

/-! # One pass of a rule

A cross rule rewrites all columns of a map at once, each of them from the values that the column and
its four direct neighbours had before. The map that comes out is a function of the world column
again, `CrossRule.pass`, and tiles are windows of it (`CrossRule.turns_pass`): wherever a stage
draws the map before, the rule on top of it draws the map after, in tiles of any size and at any
anchor, coordinates that wrap included. So what is said of two neighbouring columns of
`CrossRule.pass` holds whether they lie in one tile or in two.

A cell rule rewrites every column from its own value alone, and is treated in the same way
(`CellRule.pass`, `CellRule.turns_pass`).
-/
namespace BiomeAtlas

theorem Cross.get_at (column : Coord → Coord → Cell) (x z : Coord) (side : Side) :
    (Cross.at column x z).get side = side.beside column x z := by
  cases side <;> simp only [Cross.get, Cross.at, Side.beside, Side.dx, Side.dz, Int32.add_zero,
    Int32.sub_eq_add_neg]

/-- The map that a rule makes of a map. -/
def CrossRule.pass (rule : CrossRule) (noise : Noise) (column : Coord → Coord → Cell)
    (x z : Coord) : Cell :=
  rule.apply noise (Cross.at column x z) x z

/-- Asked for the tile at an anchor, the stage answers with a window of a map. -/
def Stage.Draws (stage : Stage) (column : Coord → Coord → Cell) (minX minZ : Coord)
    (store : TileStore) : Prop :=
  ∃ tile later, (stage.generate minX minZ).run store = .ok (tile, later) ∧
    tile.Occupies minX minZ stage.size ∧ tile.Shows column

/-- **The rule turns one map into another.** A stage with the rule draws the second map wherever its
input draws the first one around the tile, if memory can hold the tile. -/
def CrossRule.Turns (rule : CrossRule) (seed : Int32)
    (before after : Coord → Coord → Cell) : Prop :=
  ∀ (size : Size) (input made : Stage) (minX minZ : Coord) (store : TileStore),
    Stage.ofCross rule seed size input = .ok made → size.cells < cellLimit →
    input.Draws before (minX - 1) (minZ - 1) store → made.Draws after minX minZ store

/-- The map that a cell rule makes of a map. -/
def CellRule.pass (rule : CellRule) (noise : Noise) (column : Coord → Coord → Cell)
    (x z : Coord) : Cell :=
  rule.value noise (column x z) x z

/-- **The cell rule turns one map into another.** A stage with the rule draws the second map
wherever its input draws the first one, if memory can hold the tile. -/
def CellRule.Turns (rule : CellRule) (seed : Int32) (before after : Coord → Coord → Cell) : Prop :=
  ∀ (input made : Stage) (minX minZ : Coord) (store : TileStore),
    Stage.ofCell rule seed input = .ok made → input.size.cells < cellLimit →
    input.Draws before minX minZ store → made.Draws after minX minZ store

/-- Every map is drawn by some stage. -/
theorem Stage.draws_sampled (name : String) (alphabet : Alphabet) {size : Size}
    (column : Coord → Coord → Cell) (minX minZ : Coord) (store : TileStore)
    (hroom : size.cells < cellLimit) :
    (sampled name alphabet size column).Draws column minX minZ store := by
  have hanswers :
      Answers ((sampled name alphabet size column).tile minX minZ) (size.cells < cellLimit) :=
    Grid.answers_tabulate (Nat.lt_of_lt_of_le hroom cellLimit_le_wordLimit) fun _ _ _ _ => ⟨_, rfl⟩
  obtain ⟨tile, htile⟩ := hanswers.exists_of_room hroom
  have hat := tile_occupies htile
  refine ⟨tile, store, run_lift_eq_ok.mpr ⟨htile, rfl⟩, hat, fun i j hi hj => ?_⟩
  rw [holds_tile .sampled htile i j hi hj, Grid.worldX, Grid.worldZ, hat.minX_eq, hat.minZ_eq]
  rfl

/-- **One pass.** Every rule turns every map into the map that it makes of it. -/
theorem CrossRule.turns_pass (rule : CrossRule) (seed : Int32) (column : Coord → Coord → Cell) :
    rule.Turns seed column (rule.pass ⟨seed⟩ column) := by
  intro size input made minX minZ store hmade hroom hdraws
  obtain ⟨-, hinput, -, rfl⟩ := Stage.ofCross_eq_ok_iff.mp hmade
  obtain ⟨-, hsize⟩ := Size.haloed?_eq_some_iff.mp hinput
  obtain ⟨haloed, later, hrun, hat, hshows⟩ := hdraws
  rw [hsize] at hat
  obtain ⟨tile, htile⟩ : ∃ tile, rule.generate ⟨seed⟩ size haloed minX minZ = .ok tile :=
    (answers_generate (Nat.lt_of_lt_of_le hroom cellLimit_le_wordLimit) hat.size_eq).exists_of_room
      hroom
  obtain ⟨hmadeAt, -⟩ := cells_of_generate htile
  -- the tile with a halo might as well be one of a stage that samples the map
  have hholds : haloed.Holds
      ((Stage.sampled "" .region haloed.size column).cellAt (minX - 1) (minZ - 1)) := by
    intro a b ha hb
    rw [hshows a b ha hb, Grid.worldX, Grid.worldZ, hat.minX_eq, hat.minZ_eq]
    rfl
  refine ⟨tile, later,
    run_bind_eq_ok.mpr ⟨haloed, later, hrun, run_lift_eq_ok.mpr ⟨htile, rfl⟩⟩, hmadeAt, ?_⟩
  intro i j hi hj
  rw [Stage.holds_cross hholds hat htile i j hi hj, Grid.worldX, Grid.worldZ, hmadeAt.minX_eq,
    hmadeAt.minZ_eq]
  rw [hmadeAt.size_eq] at hi hj
  rw [Stage.cellAt_cross_column (fun _ _ _ _ => rfl) hi hj, pass]

/-- One pass of a cell rule. -/
theorem CellRule.turns_pass (rule : CellRule) (seed : Int32) (column : Coord → Coord → Cell) :
    rule.Turns seed column (rule.pass ⟨seed⟩ column) := by
  intro input made minX minZ store hmade hroom hdraws
  obtain ⟨hfits, rfl⟩ := Stage.ofCell_eq_ok_iff.mp hmade
  obtain ⟨grid, later, hrun, hat, hshows⟩ := hdraws
  rw [← hat.size_eq] at hroom
  obtain ⟨tile, htile⟩ : ∃ tile, rule.generate ⟨seed⟩ grid minX minZ = .ok tile :=
    (Grid.answers_mapColumns (Nat.lt_of_lt_of_le hroom cellLimit_le_wordLimit)
      (exists_apply hfits.candidates)).exists_of_room hroom
  obtain ⟨-, ⟨hminX, hminZ, hsize⟩, -⟩ := Grid.mapColumns_eq_ok_iff.mp htile
  refine ⟨tile, later, run_bind_eq_ok.mpr ⟨grid, later, hrun, run_lift_eq_ok.mpr ⟨htile, rfl⟩⟩,
    ⟨hminX.trans hat.minX_eq, hminZ.trans hat.minZ_eq, hsize.trans hat.size_eq⟩, ?_⟩
  intro i j hi hj
  have hholds : grid.Holds fun i j => column (minX + Int32.ofNat i) (minZ + Int32.ofNat j) := by
    intro i j hi hj
    rw [hshows i j hi hj, Grid.worldX, Grid.worldZ, hat.minX_eq, hat.minZ_eq]
  rw [holds_generate hholds hat htile i j hi hj, Grid.worldX, Grid.worldZ, hminX, hminZ,
    hat.minX_eq, hat.minZ_eq, pass]

end BiomeAtlas
