import BiomeAtlas.Grid.Window

/-! # Doubling

Doubling spreads a tile over twice the columns and rows. Every cell of the coarse tile, together
with its neighbours to the right and below, yields a block of two by two cells:

* top left, the coarse cell itself;
* top right, the cell or its right neighbour;
* bottom left, the cell or the one below;
* bottom right, any of the four.

Noise decides at the fine column of the block, so a column comes out the same in every tile it is
part of.

`Grid.doubled` goes through the blocks row by row. It carries the coarse cells on the left of a
block along (`Sweep`), so that it reads only those on the right, and writes into the list of all
cells of the doubled tile. A tile may begin in the middle of a block: `Grid.zoomed` then cuts its
rows from the doubled tile one cell further in. -/

namespace BiomeAtlas

/-- The coordinate of the coarse cell a coordinate belongs to. -/
def coarse (coord : Coord) : Coord :=
  coord >>> 1

/-- How far a coordinate lies inside its block. -/
def phase (coord : Coord) : Nat :=
  (coord &&& 1).toNatClampNeg

/-- The cells with one of them overwritten. -/
def overwrite (cells : Array Cell) (index : Nat) (value : Cell) : Except Fault (Array Cell) :=
  if index < cells.size then .ok (cells.setIfInBounds index value) else .error .outOfBounds

/-- A sweep through a row of blocks, as far as it has come. -/
structure Sweep where
  /-- The index of the first cell of the next block. -/
  index : Nat
  /-- The coarse cell that the next block comes from. -/
  corner : Cell
  /-- The coarse cell below it. -/
  below : Cell
  /-- The cells of the doubled tile, row by row. -/
  cells : Array Cell

/-- Writes the next block; its rows lie `stride` indices apart. -/
def Sweep.advance (noise : Noise) (blockX blockZ : Coord) (stride : Nat) (right across : Cell) :
    Sweep → Except Fault Sweep
  | ⟨index, corner, below, cells⟩ => do
    let cells ← overwrite cells index corner
    let cells ← overwrite cells (index + stride) (noise.chooseTwo blockX (blockZ + 1) corner below)
    let cells ← overwrite cells (index + 1) (noise.chooseTwo blockX (blockZ - 1) corner right)
    let cells ← overwrite cells (index + 1 + stride)
      (noise.chooseFour blockX blockZ corner right below across)
    return ⟨index + 2, right, across, cells⟩

namespace Grid

/-- The size of the tile that a coarse tile doubles to: its last column and row only serve as
neighbours. -/
def doubledSize (lower : Grid) : Size :=
  ⟨(lower.size.width - 1) * 2, (lower.size.height - 1) * 2⟩

/-- Writes the next block of a row, which comes from the coarse cell at `(x, z)`. Coarse columns are
counted from the one that was asked for. -/
def doubleBlock (lower : Grid) (noise : Noise) (firstX firstZ : Coord) (z : Nat) (sweep : Sweep)
    (x : Nat) : Except Fault Sweep := do
  let right ← lower.get (x + 1) z
  let across ← lower.get (x + 1) (z + 1)
  let (blockX, blockZ) := ((firstX + Int32.ofNat x) * 2, (firstZ + Int32.ofNat z) * 2)
  sweep.advance noise blockX blockZ lower.doubledSize.width right across

/-- Writes a row of blocks, from left to right. -/
def doubleRow (lower : Grid) (noise : Noise) (firstX firstZ : Coord) (cells : Array Cell)
    (z : Nat) : Except Fault (Array Cell) := do
  let corner ← lower.get 0 z
  let below ← lower.get 0 (z + 1)
  let start : Sweep := ⟨z * 2 * lower.doubledSize.width, corner, below, cells⟩
  let blocks := List.range (lower.size.width - 1)
  let swept ← blocks.foldlM (lower.doubleBlock noise firstX firstZ z) start
  return swept.cells

/-- The cells of the tile that a coarse tile doubles to, row by row. The coarse tile was asked for
at the column `(firstX, firstZ)`. -/
def doubled (lower : Grid) (noise : Noise) (firstX firstZ : Coord) : Except Fault (Array Cell) :=
  if lower.size.isEmpty then
    .error .wordRange
  else if lower.doubledSize.cells < cellLimit then
    (List.range (lower.size.height - 1)).foldlM (lower.doubleRow noise firstX firstZ)
      (Array.replicate lower.doubledSize.cells 0)
  else
    .error (oversize lower.doubledSize)

/-- The tile of a given size at an anchor, cut from the doubled coarse tile. -/
def zoomed (lower : Grid) (noise : Noise) (size : Size) (minX minZ : Coord) :
    Except Fault Grid := do
  let cells ← lower.doubled noise (coarse minX) (coarse minZ)
  if size.cells < cellLimit then
    let values ← (List.range size.height).foldlM
      (cutRow cells lower.doubledSize.width (phase minX) (phase minZ) size.width) #[]
    ofValues minX minZ size values
  else
    throw (oversize size)

end Grid

end BiomeAtlas
