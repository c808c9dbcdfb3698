/-! # Lattice noise

Every random decision of the generator is a pure function of a stage seed and a world column.
`Noise.raw` hashes a column to a non-negative 32-bit number; neighbouring columns agree in its
low-order bits, so all other decisions go through `Noise.roll`, which divides by `decorrelation`
before any remainder is taken.

All arithmetic is on 32-bit words and wraps, for columns as well as for seeds. A 64-bit world seed
enters through `foldSeed`, and each stage derives its own seed from it with `stageSeed`. -/

namespace BiomeAtlas

/-- A world coordinate. World columns are pairs of coordinates; both axes wrap after the largest
32-bit value. -/
abbrev Coord := Int32

/-- The value held by one cell of a tile. What it means depends on the alphabet of the tile. -/
abbrev Cell := Int32

/-- Divisor that discards the correlated low-order bits of the raw hash. -/
def decorrelation : Int32 := 7

/-- A source of lattice noise: one 32-bit seed. -/
structure Noise where
  /-- The seed all values are derived from. -/
  seed : Int32
  deriving DecidableEq, Repr

namespace Noise

/-- The hash before masking: a cubic polynomial of the mixed column number, so that all columns are
treated alike. -/
def mixed (noise : Noise) (x z : Coord) : Int32 :=
  let n := x + z * 57 + noise.seed * (57 * 57)
  let n := (n <<< 13) ^^^ n
  n * (n * n * 15731 + 789221) + 1376312589

/-- The raw hash of a column. Masking the sign bit makes it non-negative. -/
def raw (noise : Noise) (x z : Coord) : Int32 :=
  noise.mixed x z &&& 0x7fffffff

/-- The decorrelated hash of a column; non-negative. -/
def roll (noise : Noise) (x z : Coord) : Int32 :=
  noise.raw x z / decorrelation

/-- Succeeds at `chance` columns out of a thousand: never for `chance ≤ 0`, always for
`chance ≥ 1000`. -/
def rollPermille (noise : Noise) (x z : Coord) (chance : Int32) : Bool :=
  decide (noise.roll x z % 1000 < chance)

/-- Picks one of two values. -/
def chooseTwo (noise : Noise) (x z : Coord) (a b : Cell) : Cell :=
  if noise.roll x z &&& 1 = 0 then a else b

/-- Picks one of four values. -/
def chooseFour (noise : Noise) (x z : Coord) (a b c d : Cell) : Cell :=
  let pick := noise.roll x z % 4
  if pick = 0 then a else if pick = 1 then b else if pick = 2 then c else d

end Noise

/-- Folds a world seed onto the 32-bit seeds of the noise: the exclusive or of its two halves. -/
def foldSeed (world : Int64) : Int32 :=
  (world ^^^ (world >>> 32)).toInt32

/-- The seed of one stage: the folded world seed moved by the offset of the stage. -/
def stageSeed (folded offset : Int32) : Int32 :=
  folded + offset

end BiomeAtlas
