import Mathlib.Algebra.Group.Int.Defs
import Mathlib.Algebra.Group.Nat.Defs
import BiomeAtlas.Stage.Zoom

/-! # Coordinates

World coordinates are 32-bit words that wrap. Read as integers they behave like integers as long as
nothing leaves the range: this module says so for counting on from an anchor, for the step of a halo
and for halving, which rounds down and leaves the phase as the remainder.

A tile that keeps away from the largest and the smallest coordinate is `Unwrapped`, and so are the
tiles that a halo or a doubling reads.
-/
namespace BiomeAtlas

/-! ## Coordinates as integers -/

theorem toInt_bounds (c : Coord) : -2 ^ 31 ≤ c.toInt ∧ c.toInt < 2 ^ 31 :=
  ⟨c.le_toInt, c.toInt_lt⟩

/-- Counting on from a coordinate is exact up to whole turns around the world. -/
theorem toInt_add_ofNat_emod (start : Coord) (n : Nat) :
    (start + Int32.ofNat n).toInt % 2 ^ 32 = (start.toInt + n) % 2 ^ 32 := by
  rw [Int32.toInt_add, Int32.toInt_ofNat', show Int32.size = 2 ^ 32 from rfl, Int.add_bmod_bmod]
  exact Int.bmod_emod

theorem toInt_add_ofNat {start : Coord} {n : Nat} (h : start.toInt + n < 2 ^ 31) :
    (start + Int32.ofNat n).toInt = start.toInt + n := by
  have hturns := toInt_add_ofNat_emod start n
  have hstart := toInt_bounds start
  have hmoved := toInt_bounds (start + Int32.ofNat n)
  omega

theorem toInt_sub_one {start : Coord} (h : -2 ^ 31 < start.toInt) :
    (start - 1).toInt = start.toInt - 1 := by
  have hhigh := start.toInt_lt
  rw [Int32.toInt_sub, Int32.toInt_one]
  exact Int.bmod_eq_of_le_mul_two (by omega) (by omega)

theorem toInt_coarse (c : Coord) : (coarse c).toInt = c.toInt / 2 := by
  change ((c >>> 1).toBitVec).toInt = c.toBitVec.toInt / 2
  rw [show (c >>> 1).toBitVec = c.toBitVec.sshiftRight 1 from rfl, BitVec.toInt_sshiftRight,
    Int.shiftRight_eq_div_pow]
  rfl

theorem toInt_and_one (c : Coord) : (c &&& 1).toInt = c.toInt % 2 := by
  change (c.toBitVec &&& 1#32).toInt = c.toBitVec.toInt % 2
  have hnat : (c.toBitVec &&& 1#32).toNat = c.toBitVec.toNat % 2 := by
    rw [BitVec.toNat_and]
    exact Nat.and_one_is_mod _
  -- the sign moves a coordinate by an even number, so the lowest bit is always the remainder
  rw [BitVec.toInt_eq_toNat_cond, BitVec.toInt_eq_toNat_cond, hnat]
  split <;> split <;> omega

theorem phase_eq (c : Coord) : (phase c : Int) = c.toInt % 2 := by
  rw [phase, ← Int32.toNat_toInt, toInt_and_one]
  omega

/-- A tile fits into the tile that is doubled for it, wherever it begins in a block. -/
theorem Grid.phase_add_le {lower : Grid} {size : Size} (h : lower.size = size.halved)
    (minX minZ : Coord) :
    phase minX + size.width ≤ lower.doubledSize.width ∧
    phase minZ + size.height ≤ lower.doubledSize.height := by
  have hphaseX := phase_eq minX
  have hphaseZ := phase_eq minZ
  simp only [Grid.doubledSize, h, Size.halved]
  omega

theorem ofNat_succ (start : Coord) (n : Nat) :
    start + Int32.ofNat (n + 1) = start + Int32.ofNat n + 1 := by
  rw [Int32.ofNat_add, ← Int32.add_assoc]
  rfl

/-- Half the coordinate of a column, counted from half the anchor. -/
theorem coarse_add {start : Coord} {n : Nat} (h : start.toInt + n < 2 ^ 31) :
    coarse start + Int32.ofNat ((phase start + n) / 2) = coarse (start + Int32.ofNat n) := by
  have hphase := phase_eq start
  have hlow := start.le_toInt
  rw [← Int32.toInt_inj, toInt_coarse, toInt_add_ofNat h, toInt_add_ofNat, toInt_coarse]
  · omega
  · rw [toInt_coarse]; omega

/-- The phase goes on alternating where coordinates wrap. -/
theorem phase_add (start : Coord) (n : Nat) :
    phase (start + Int32.ofNat n) = (phase start + n) % 2 := by
  have hphase := phase_eq start
  have hmoved := phase_eq (start + Int32.ofNat n)
  have hturns := toInt_add_ofNat_emod start n
  omega

/-! ## Distances -/

/-- Counting up from a coordinate and measuring the distance gives the count back. -/
theorem distance_add_ofNat {start : Coord} {n : Nat} (h : n < 2 ^ 32) :
    (start + Int32.ofNat n - start).toUInt32.toNat = n := by
  have hsame : start + Int32.ofNat n - start = Int32.ofNat n := by
    rw [Int32.add_comm, Int32.add_sub_cancel]
  rw [hsame]
  exact UInt32.toNat_ofNat_of_lt' h

/-- Distances add up, and wrap. -/
theorem distance_add (anchor start column : Coord) : (column - anchor).toUInt32.toNat =
    ((start - anchor).toUInt32.toNat + (column - start).toUInt32.toNat) % 2 ^ 32 := by
  have hsum : column - anchor = (start - anchor) + (column - start) := by grind
  rw [hsum]
  exact BitVec.toNat_add _ _

/-- The origin of the world lies as far from a coordinate as its sign-changed value says, counting
on past the largest one. -/
theorem distance_origin (start : Coord) :
    ((0 - start).toUInt32.toNat : Int) = -start.toInt % 2 ^ 32 := by
  have hdistance : (0 - start).toUInt32.toNat = (2 ^ 32 - start.toBitVec.toNat) % 2 ^ 32 := by
    change (0#32 - start.toBitVec).toNat = _
    rw [BitVec.toNat_sub]
    simp
  have hstart : start.toInt = start.toBitVec.toInt := rfl
  have hword := start.toBitVec.isLt
  rw [BitVec.toInt_eq_toNat_cond] at hstart
  rw [hdistance]
  split at hstart <;> omega

/-! ## Counting on from the coordinate before -/

section Before
variable (start : Coord) (n : Nat)

theorem before_add : start - 1 + Int32.ofNat n = start + Int32.ofNat n - 1 := by
  grind

theorem before_add_one : start - 1 + Int32.ofNat (n + 1) = start + Int32.ofNat n := by
  rw [Int32.ofNat_add]
  grind

theorem before_add_two : start - 1 + Int32.ofNat (n + 2) = start + Int32.ofNat n + 1 := by
  rw [Int32.ofNat_add]
  grind

end Before

/-! ## Coordinates that do not wrap -/

/-- `extent` coordinates from `start` on, and `margin` more on both sides, are in order. -/
def Unwrapped (start : Coord) (extent margin : Nat) : Prop :=
  -2 ^ 31 + (margin : Int) ≤ start.toInt ∧ start.toInt + extent + margin ≤ 2 ^ 31

instance (start : Coord) (extent margin : Nat) : Decidable (Unwrapped start extent margin) :=
  inferInstanceAs (Decidable (_ ∧ _))

namespace Unwrapped
variable {start : Coord} {extent margin n : Nat}

theorem lt (h : Unwrapped start extent margin) (hn : n < extent) : start.toInt + n < 2 ^ 31 := by
  have := h.2
  omega

theorem reach (h : Unwrapped start extent margin) : start.toInt + extent ≤ 2 ^ 32 := by
  have := h.2
  omega

theorem mono (h : Unwrapped start extent margin) (hn : n ≤ margin) : Unwrapped start extent n :=
  ⟨by have := h.1; omega, by have := h.2; omega⟩

/-- A halo uses up one of the two columns that each stage has around its tile. -/
theorem halo (h : Unwrapped start extent (2 * (n + 1))) :
    Unwrapped (start - 1) (extent + 2) (2 * n) := by
  obtain ⟨hlow, hhigh⟩ := h
  unfold Unwrapped
  rw [toInt_sub_one (by omega)]
  constructor <;> omega

/-- Halving leaves more room than it needs. -/
theorem halved (h : Unwrapped start extent (2 * (n + 1))) :
    Unwrapped (coarse start) (extent / 2 + 2) (2 * n) := by
  obtain ⟨hlow, hhigh⟩ := h
  unfold Unwrapped
  rw [toInt_coarse]
  constructor <;> omega

/-- A tile that does not wrap contains the origin if it begins at or before it and ends behind
it. -/
theorem contains_origin (h : Unwrapped start extent margin)
    (hin : start.toInt ≤ 0 ∧ 0 < start.toInt + extent) :
    (0 - start).toUInt32.toNat < extent := by
  have hdistance := distance_origin start
  have hlow := h.1
  omega

end Unwrapped

/-- Inside a tile that does not reach around the whole world, the cell of the origin is the one that
lies as far in as the anchor is away. -/
theorem offset_eq_iff {start : Coord} {extent i : Nat} (h : start.toInt + extent ≤ 2 ^ 32)
    (hi : i < extent) :
    (0 - start).toUInt32.toNat < extent ∧ i = start.toInt.natAbs ↔ start + Int32.ofNat i = 0 := by
  have hdistance := distance_origin start
  have hturns := toInt_add_ofNat_emod start i
  have hstart := toInt_bounds start
  have hmoved := toInt_bounds (start + Int32.ofNat i)
  -- for an anchor behind the origin the distance counts on past the largest coordinate, farther
  -- than the tile reaches
  rw [← Int32.toInt_inj, Int32.toInt_zero]
  omega

end BiomeAtlas
