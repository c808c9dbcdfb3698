import Std.Data.HashSet
import BiomeAtlas.Grid.Basic
import BiomeAtlas.Image.Palette

/-! # Images

An image is a rectangle of pixels, row by row, four bytes each: red, green, blue and opacity.
`Image.render` draws a grid with one pixel for each cell. -/

namespace BiomeAtlas

/-- A rectangle of pixels. -/
structure Image where
  /-- Pixels of one row. -/
  width : Nat
  /-- Rows. -/
  height : Nat
  /-- The bytes of the pixels, row by row. -/
  pixels : Array UInt8
  deriving DecidableEq

namespace Image

/-- Draws a grid, one pixel for each cell. -/
def render (palette : Cell → Color) (grid : Grid) : Image where
  width := grid.size.width
  height := grid.size.height
  pixels := grid.values.flatMap fun value =>
    let color := palette value
    #[color.red, color.green, color.blue, 255]

/-- The colour and the opacity of a pixel inside the image. -/
def pixel? (image : Image) (x z : Nat) : Option (Color × UInt8) := do
  guard (x < image.width ∧ z < image.height)
  let start := (x + z * image.width) * 4
  return (⟨← image.pixels[start]?, ← image.pixels[start + 1]?, ← image.pixels[start + 2]?⟩,
    ← image.pixels[start + 3]?)

/-- The colours of the pixels, without their opacity. -/
def colors (image : Image) : List Color :=
  (List.range (image.pixels.size / 4)).filterMap fun i => do
    return ⟨← image.pixels[4 * i]?, ← image.pixels[4 * i + 1]?, ← image.pixels[4 * i + 2]?⟩

/-- How many different colours there are. -/
def distinctColors (image : Image) : Nat :=
  (Std.HashSet.ofList image.colors).size

end Image

end BiomeAtlas
