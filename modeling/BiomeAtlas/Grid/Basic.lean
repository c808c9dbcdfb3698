import BiomeAtlas.Fault

/-! # Tiles of cells

A `Grid` is a rectangle of cells whose first cell lies at a world column, its anchor. Cells are
stored row by row. World columns wrap, so a grid anchored close to the largest coordinate goes on at
the smallest one; `Grid.localIndex?` finds the place of a world column by subtracting the anchor
with wrap-around.

Grids are made with `Grid.tabulate`, which evaluates a rule at every local position, and read with
`Grid.get` (local positions) or `Grid.getWorld?` (world columns). -/

namespace BiomeAtlas

/-- A rectangle of cells, anchored at a world column. -/
structure Grid where
  /-- World coordinate of the first column. -/
  minX : Coord
  /-- World coordinate of the first row. -/
  minZ : Coord
  /-- Number of columns and rows. -/
  size : Size
  /-- The cells, row by row. -/
  values : Array Cell
  /-- There is one value for each cell. -/
  size_values : values.size = size.cells
  deriving DecidableEq

namespace Grid

/-- Why there is no room for the cells of a grid of some size. -/
def oversize (size : Size) : Fault :=
  if size.cells < wordLimit then .tooManyCells else .wordRange

/-- The grid with every cell zero. -/
def zero (minX minZ : Coord) (size : Size) : Except Fault Grid :=
  if size.cells < cellLimit then
    .ok ⟨minX, minZ, size, Array.replicate size.cells 0, Array.size_replicate⟩
  else
    .error (oversize size)

/-- The grid with the given cells, row by row. -/
def ofValues (minX minZ : Coord) (size : Size) (values : Array Cell) : Except Fault Grid :=
  if size.cells < wordLimit then
    if h : values.size = size.cells then .ok ⟨minX, minZ, size, values, h⟩
    else .error (.bufferLength size)
  else
    .error .wordRange

/-- The grid made by evaluating `cell` at every local position, row by row. The first fault ends the
evaluation. -/
def tabulate (minX minZ : Coord) (size : Size) (cell : Nat → Nat → Except Fault Cell) :
    Except Fault Grid :=
  if size.cells < cellLimit then do
    let values : Vector Cell size.cells ← Vector.ofFnM fun i =>
      cell (i % size.width) (i / size.width)
    return ⟨minX, minZ, size, values.toArray, values.size_toArray⟩
  else
    .error (oversize size)

/-- World coordinate of a local column. -/
def worldX (grid : Grid) (x : Nat) : Coord :=
  grid.minX + Int32.ofNat x

/-- World coordinate of a local row. -/
def worldZ (grid : Grid) (z : Nat) : Coord :=
  grid.minZ + Int32.ofNat z

/-- The position in the list of cells of a local position. -/
def index (grid : Grid) (x z : Nat) : Nat :=
  x + z * grid.size.width

/-- The cell at a local position. -/
def get (grid : Grid) (x z : Nat) : Except Fault Cell :=
  if x < grid.size.width ∧ z < grid.size.height then
    match grid.values[grid.index x z]? with
    | some value => .ok value
    | none => .error .outOfBounds
  else
    .error .outOfBounds

/-- The grid with one cell overwritten. -/
def set (grid : Grid) (x z : Nat) (value : Cell) : Except Fault Grid :=
  if x < grid.size.width ∧ z < grid.size.height then
    .ok { grid with
      values := grid.values.setIfInBounds (grid.index x z) value
      size_values := by rw [Array.size_setIfInBounds, grid.size_values] }
  else
    .error .outOfBounds

/-- The local position of a world column, for the columns inside the grid. Columns are counted from
the anchor on and wrap. -/
def localIndex? (grid : Grid) (x z : Coord) : Option (Nat × Nat) :=
  let dx := (x - grid.minX).toUInt32.toNat
  let dz := (z - grid.minZ).toUInt32.toNat
  if dx < grid.size.width ∧ dz < grid.size.height then some (dx, dz) else none

/-- Whether a world column lies inside the grid. -/
def containsWorld (grid : Grid) (x z : Coord) : Bool :=
  (grid.localIndex? x z).isSome

/-- The cell at a world column inside the grid. -/
def getWorld? (grid : Grid) (x z : Coord) : Option Cell := do
  let (dx, dz) ← grid.localIndex? x z
  grid.values[grid.index dx dz]?

/-- The cells of one row. -/
def row (grid : Grid) (z : Nat) : Except Fault (Array Cell) :=
  let start := z * grid.size.width
  if start + grid.size.width ≤ grid.values.size then
    .ok (grid.values.extract start (start + grid.size.width))
  else
    .error .outOfBounds

/-- The grid with every cell changed by the same function. -/
def map (grid : Grid) (f : Cell → Cell) : Grid :=
  { grid with
    values := grid.values.map f
    size_values := by rw [Array.size_map, grid.size_values] }

/-- The grid of the same extent in which a rule changes every cell. The rule also sees the column,
which is counted from the given first one. -/
def mapColumns (grid : Grid) (firstX firstZ : Coord)
    (rule : Cell → Coord → Coord → Except Fault Cell) : Except Fault Grid :=
  tabulate grid.minX grid.minZ grid.size fun x z => do
    rule (← grid.get x z) (firstX + Int32.ofNat x) (firstZ + Int32.ofNat z)

/-- The grid in which every cell is combined with the cell of a second grid at the same local
position. -/
def blend (grid overlay : Grid) (rule : Cell → Cell → Cell) : Except Fault Grid :=
  tabulate grid.minX grid.minZ grid.size fun x z =>
    return rule (← grid.get x z) (← overlay.get x z)

end Grid

end BiomeAtlas
