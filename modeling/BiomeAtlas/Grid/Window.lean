import BiomeAtlas.Grid.Basic

/-! # Windows and pasting

`Grid.window` cuts a rectangle out of a grid by local position; `Grid.paste` writes a tile into a
grid at the world columns the tile lies on. Both go through the rectangle row by row, and find a row
by its index in the list of cells.

A tile is pasted in place: `Grid.pasteInto` works on the grid at hand, and leaves one behind whether
it succeeds or not. -/

namespace BiomeAtlas

/-- Whether `extent` steps from `start` on stay within `limit`; a fault if the end is not even a
64-bit word. -/
def reaches (start extent limit : Nat) : Except Fault Bool :=
  if start + extent < wordLimit then .ok (decide (start + extent ≤ limit)) else .error .wordRange

/-- The cells from one index up to another. -/
def slice (cells : Array Cell) (start stop : Nat) : Except Fault (Array Cell) :=
  if stop ≤ cells.size then .ok (cells.extract start stop) else .error .outOfBounds

/-- Appends the row `j` of a tile that is cut out at the place `(x, z)`; the rows of the cells are
`stride` cells long. -/
def cutRow (cells : Array Cell) (stride x z width : Nat) (values : Array Cell) (j : Nat) :
    Except Fault (Array Cell) := do
  let start := (j + z) * stride + x
  return values ++ (← slice cells start (start + width))

theorem size_fold_set {cells : Array Cell} {place : Nat → Nat} (n : Nat)
    (value : (i : Nat) → i < n → Cell) :
    (n.fold (fun i h cells => cells.setIfInBounds (place i) (value i h)) cells).size =
      cells.size := by
  induction n with
  | zero => rfl
  | succ n ih => rw [Nat.fold_succ, Array.size_setIfInBounds, ih]

/-- The cells with those from an index on overwritten by a row. -/
def putRow (row : Array Cell) (start : Nat) (cells : Array Cell) : Array Cell :=
  row.size.fold (fun i _ cells => cells.setIfInBounds (start + i) row[i]) cells

@[simp] theorem size_putRow (row : Array Cell) (start : Nat) (cells : Array Cell) :
    (putRow row start cells).size = cells.size :=
  size_fold_set row.size fun i _ => row[i]

namespace Grid

/-- Whether a rectangle at a local position lies inside the grid. Columns are looked at first. -/
def covers (grid : Grid) (x z : Nat) (size : Size) : Except Fault Bool := do
  if ← reaches x size.width grid.size.width then
    reaches z size.height grid.size.height
  else
    return false

/-- The rectangle of the given size whose first cell is at the local position `(x, z)`. -/
def window (grid : Grid) (x z : Nat) (size : Size) : Except Fault Grid := do
  if ← grid.covers x z size then
    if size.cells < cellLimit then
      let values ← (List.range size.height).foldlM
        (cutRow grid.values grid.size.width x z size.width) #[]
      ofValues (grid.worldX x) (grid.worldZ z) size values
    else
      throw (oversize size)
  else
    throw (.windowExceeds size x z grid.size)

/-! ## Pasting -/

/-- Writes the row `j` of a tile that lies at the local position `(x, z)` into the grid at hand. -/
def pasteRow (tile : Grid) (x z j : Nat) : ExceptT Fault (StateM Grid) Unit := do
  let row ← tile.row j
  let start := x + (z + j) * (← getThe Grid).size.width
  if start + row.size ≤ (← getThe Grid).values.size then
    modify fun grid => { grid with
      values := putRow row start grid.values
      size_values := by rw [size_putRow, grid.size_values] }
  else
    throw .outOfBounds

/-- Writes a tile into the grid at hand, at the world columns the tile lies on. The tile has to lie
inside the grid. -/
def pasteInto (tile : Grid) : ExceptT Fault (StateM Grid) Unit := do
  match (← getThe Grid).localIndex? tile.minX tile.minZ with
  | none => throw (.tileMisfit tile.size tile.minX tile.minZ)
  | some (x, z) =>
    if ← (← getThe Grid).covers x z tile.size then
      forM (List.range tile.size.height) (tile.pasteRow x z)
    else
      throw (.tileMisfit tile.size tile.minX tile.minZ)

/-- The grid with a tile written into it. -/
def paste (grid tile : Grid) : Except Fault Grid :=
  match tile.pasteInto.run.run grid with
  | (.ok (), pasted) => .ok pasted
  | (.error fault, _) => .error fault

end Grid

end BiomeAtlas
