/-! # Sets of code points

A set of code points is written down as the increasing list of its boundaries: the points where
membership changes, beginning outside the set. A code point belongs to the set if an odd number of
boundaries lies at or below it. -/

namespace BiomeAtlas.Unicode

/-- Whether a code point belongs to the set with the given boundaries. -/
def within : List Nat → Nat → Bool
  | [], _ => false
  | boundary :: later, point => decide (boundary ≤ point) && !within later point

end BiomeAtlas.Unicode
