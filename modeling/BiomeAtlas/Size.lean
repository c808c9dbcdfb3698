/-! # Tile sizes

A tile is `width` columns wide and `height` rows high. Sizes are natural numbers, but a stored size
has to fit a 64-bit word: sums and products that leave that range are refused where they arise (as
in `Size.haloed?`) instead of wrapping. -/

namespace BiomeAtlas

/-- The first number that does not fit a 64-bit word. -/
def wordLimit : Nat := 1 <<< 64

/-- The first number of cells that memory cannot hold: a cell takes four bytes, and half the
addresses of a 64-bit word are in use. -/
def cellLimit : Nat := 1 <<< 61

/-- The number itself if it fits a 64-bit word. -/
def fitWord? (n : Nat) : Option Nat :=
  if n < wordLimit then some n else none

/-- The size of a tile, in columns and rows. -/
structure Size where
  /-- Columns of one row. -/
  width : Nat
  /-- Rows. -/
  height : Nat
  deriving DecidableEq, Repr

namespace Size

/-- No columns or no rows. -/
def isEmpty (size : Size) : Bool :=
  size.width == 0 || size.height == 0

/-- The size with a halo of one cell on every side, which is what a stage needs that looks at direct
neighbours. -/
def haloed? (size : Size) : Option Size := do
  return ⟨← fitWord? (size.width + 2), ← fitWord? (size.height + 2)⟩

/-- The half-resolution size from which a tile of this size can be doubled: one more block than half
the tile, for an anchor in the middle of a block, and one column and row to interpolate towards. -/
def halved (size : Size) : Size :=
  ⟨size.width / 2 + 2, size.height / 2 + 2⟩

/-- The number of cells. -/
def cells (size : Size) : Nat :=
  size.width * size.height

/-- The size as text, columns first. -/
def text (size : Size) : String :=
  s!"{size.width}x{size.height}"

end Size

end BiomeAtlas
