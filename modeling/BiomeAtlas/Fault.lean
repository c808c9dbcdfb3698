import BiomeAtlas.Noise
import BiomeAtlas.Size

/-! # Faults

A fault is a broken promise inside the library: a cell outside its tile, a window or a tile that
does not fit, a size that leaves the range of a 64-bit word. Reading and writing cells is checked,
and a failed check is reported as a `Fault` instead of yielding a value. Memory is assumed to
suffice for every tile whose cells can be addressed. -/

namespace BiomeAtlas

/-- What went wrong in a computation on tiles. -/
inductive Fault where
  /-- A cell or a row outside the tile was asked for. -/
  | outOfBounds
  /-- A size or a position left the range of a 64-bit word. -/
  | wordRange
  /-- A tile has more cells than can be addressed. -/
  | tooManyCells
  /-- The number of values is not the number of cells of the tile. -/
  | bufferLength (size : Size)
  /-- A window at `(x, z)` extends past the grid it is cut from. -/
  | windowExceeds (window : Size) (x z : Nat) (grid : Size)
  /-- A tile lies at least partly outside the grid it is pasted into. -/
  | tileMisfit (tile : Size) (minX minZ : Coord)
  /-- A biome was to be drawn from an empty list. -/
  | noCandidates
  deriving DecidableEq, Repr

namespace Fault

/-- The wording of a fault, for those faults that have one. -/
def message? : Fault → Option String
  | outOfBounds | wordRange | tooManyCells | noCandidates => none
  | bufferLength size => some s!"grid buffer length does not match {size.text}"
  | windowExceeds window x z grid => some s!"window {window.text} at ({x}, {z}) exceeds {grid.text}"
  | tileMisfit tile minX minZ =>
      some s!"{tile.text} tile at ({minX}, {minZ}) does not fit in the target grid"

end Fault

end BiomeAtlas
