import Mathlib.Algebra.Group.Int.Defs
import Mathlib.Algebra.Group.Nat.Defs
import BiomeAtlas.Proofs.Lattice

/-! # The seeds that noise tells apart

A seed only moves the lattice: the hash of a column is the hash of seed zero at another column of
the row through the origin (`Noise.raw_eq_row`). If two seeds had the same noise everywhere, the
hash would therefore repeat along this row, and the difference of the seeds, times an odd number,
would be a period. Multiples of a period are periods, and each number that is not zero in the lower
31 bits has a multiple that is `2 ^ 30` there. But after `2 ^ 30` columns the hash does not repeat
(`Noise.not_repeats_half`).

So noise tells two seeds apart exactly if they differ in the lower 31 bits
(`Noise.seeds_told_apart`). It does not see the highest bit, although that bit belongs to the seeds
that world seeds are folded to (`Noise.opposite_seeds_share_noise`).
-/
namespace BiomeAtlas

/-- A number that a power of two does not divide has a multiple that is half of that power, up to
whole powers. -/
theorem exists_mul_two_pow_mod {w n : Nat} (h : n % 2 ^ (w + 1) ≠ 0) :
    ∃ k, n * 2 ^ k % 2 ^ (w + 1) = 2 ^ w := by
  induction w generalizing n with
  | zero => exact ⟨0, by omega⟩
  | succ w ih =>
      rcases Nat.mod_two_eq_zero_or_one n with heven | hodd
      · -- half of an even number is not divided by half of the power
        obtain ⟨half, rfl⟩ := Nat.dvd_of_mod_eq_zero heven
        have hhalf : half % 2 ^ (w + 1) ≠ 0 := by
          intro h0
          rw [Nat.pow_succ' (n := w + 1), Nat.mul_mod_mul_left, h0] at h
          exact h rfl
        obtain ⟨k, hk⟩ := ih hhalf
        refine ⟨k, ?_⟩
        rw [Nat.mul_assoc, Nat.pow_succ' (n := w + 1), Nat.mul_mod_mul_left, hk, Nat.pow_succ']
      · refine ⟨w + 1, ?_⟩
        rw [Nat.pow_succ' (n := w + 1), Nat.mul_mod_mul_right, hodd, Nat.one_mul]

theorem toNat_lowBits_ofNat (n : Nat) : (lowBits (Int32.ofNat n)).toNat = n % 2 ^ 31 := by
  change ((BitVec.ofNat 32 n).setWidth 31).toNat = n % 2 ^ 31
  rw [BitVec.toNat_setWidth, BitVec.toNat_ofNat]
  omega

/-- Every seed is one that a world seed is folded to. -/
theorem exists_foldSeed_eq (seed : Int32) : ∃ world, foldSeed world = seed := by
  refine ⟨Int64.ofBitVec (seed.toBitVec.setWidth 64), ?_⟩
  have hword : (foldSeed (Int64.ofBitVec (seed.toBitVec.setWidth 64))).toBitVec =
      (seed.toBitVec.setWidth 64 ^^^
        (seed.toBitVec.setWidth 64).sshiftRight 32).signExtend 32 := rfl
  -- the upper half of such a world seed is zero, so nothing is folded into the lower half
  rw [← Int32.toBitVec_inj, hword, BitVec.signExtend_eq_setWidth_of_le _ (by decide)]
  ext i hi
  have hupper : 32 + i < 64 := by omega
  simp [BitVec.getLsbD_sshiftRight, hupper]

namespace Noise

/-- The hash of seed zero along the row through the origin. -/
def row (number : Int32) : Int32 :=
  (⟨0⟩ : Noise).raw number 0

/-- **A seed moves the lattice**: all columns and seeds are numbered alike. -/
theorem raw_eq_row (noise : Noise) (x z : Coord) :
    noise.raw x z = row (x + z * 57 + noise.seed * (57 * 57)) := by
  simp only [row, raw, mixed, Int32.zero_mul, Int32.add_zero]

/-- The hash repeats along the row through the origin. -/
def Repeats (period : Int32) : Prop :=
  ∀ number, row (number + period) = row number

theorem Repeats.congr {period period' : Int32} (hlow : lowBits period = lowBits period')
    (h : Repeats period) :
    Repeats period' := by
  intro number
  have hsame : lowBits (number + period') = lowBits (number + period) := by
    rw [lowBits_add, lowBits_add, hlow]
  exact (raw_congr rfl hsame rfl).trans (h number)

/-- Multiples of a period are periods. -/
theorem Repeats.mul {period : Int32} (h : Repeats period) (n : Nat) :
    Repeats (period * Int32.ofNat n) := by
  intro number
  induction n with
  | zero => rw [show period * Int32.ofNat 0 = 0 from Int32.mul_zero, Int32.add_zero]
  | succ n ih =>
      have hnext :
          number + period * Int32.ofNat (n + 1) = number + period * Int32.ofNat n + period := by
        rw [Int32.ofNat_add]
        grind
      rw [hnext, h, ih]

/-- The cubic polynomial at the two ends of the period. -/
theorem not_repeats_half : ¬ Repeats 0x40000000 :=
  fun h => absurd (h 0) (by decide)

/-- **The hash has no periods** besides those that the highest bit makes. -/
theorem Repeats.lowBits_eq_zero {period : Int32} (h : Repeats period) : lowBits period = 0#31 := by
  refine Decidable.byContradiction fun hne => ?_
  have hmod : (lowBits period).toNat % 2 ^ (30 + 1) ≠ 0 := by
    rw [Nat.mod_eq_of_lt (lowBits period).isLt]
    exact fun h0 => hne (BitVec.eq_of_toNat_eq h0)
  obtain ⟨k, hk⟩ := exists_mul_two_pow_mod hmod
  refine not_repeats_half ((h.mul (2 ^ k)).congr ?_)
  rw [lowBits_mul, ← BitVec.toNat_inj, BitVec.toNat_mul, toNat_lowBits_ofNat, Nat.mul_mod_mod, hk]
  rfl

/-- Two seeds have the same noise everywhere exactly if they agree in the lower bits. -/
theorem forall_raw_eq_iff {a b : Int32} :
    (∀ x z, (⟨a⟩ : Noise).raw x z = (⟨b⟩ : Noise).raw x z) ↔ lowBits a = lowBits b := by
  constructor
  · intro h
    have hrepeats : Repeats ((b - a) * (57 * 57)) := by
      intro number
      have hcolumn := h (number - a * (57 * 57)) 0
      rw [raw_eq_row, raw_eq_row] at hcolumn
      have ha : number - a * (57 * 57) + 0 * 57 + a * (57 * 57) = number := by grind
      have hb : number - a * (57 * 57) + 0 * 57 + b * (57 * 57) = number + (b - a) * (57 * 57) := by
        grind
      rw [ha, hb] at hcolumn
      exact hcolumn.symm
    have hzero := hrepeats.lowBits_eq_zero
    rw [lowBits_mul] at hzero
    -- an odd number has an inverse among the lower bits
    have hdifference : lowBits (b - a) = 0#31 :=
      calc lowBits (b - a) = lowBits (b - a) * (lowBits (57 * 57) * 1674230865#31) := by
            rw [show lowBits (57 * 57) * 1674230865#31 = 1#31 by decide, BitVec.mul_one]
        _ = 0#31 := by rw [← BitVec.mul_assoc, hzero, BitVec.zero_mul]
    calc lowBits a = lowBits a + lowBits (b - a) := by rw [hdifference, BitVec.add_zero]
      _ = lowBits b := by rw [← lowBits_add, Int32.add_comm, Int32.sub_add_cancel]
  · intro h x z
    exact raw_congr h rfl rfl

/-- **Which seeds noise tells apart.** World seeds are folded to all 32-bit seeds. Of these, the
noise tells two apart exactly if they differ in the lower 31 bits, and so it does for the seeds of
any stage. -/
theorem seeds_told_apart : (∀ seed, ∃ world, foldSeed world = seed) ∧ ∀ a b : Int32,
    ((∃ x z, (⟨a⟩ : Noise).raw x z ≠ (⟨b⟩ : Noise).raw x z) ↔ lowBits a ≠ lowBits b) ∧
    ∀ offset,
      (∃ x z, (⟨stageSeed a offset⟩ : Noise).raw x z ≠ (⟨stageSeed b offset⟩ : Noise).raw x z) ↔
      lowBits a ≠ lowBits b := by
  have hdiffer : ∀ a b : Int32, (∃ x z, (⟨a⟩ : Noise).raw x z ≠ (⟨b⟩ : Noise).raw x z) ↔
      lowBits a ≠ lowBits b := by
    intro a b
    rw [Ne, ← forall_raw_eq_iff]
    simp only [Classical.not_forall, Ne]
  refine ⟨exists_foldSeed_eq, fun a b => ⟨hdiffer a b, fun offset => ?_⟩⟩
  rw [hdiffer, stageSeed, stageSeed, lowBits_add, lowBits_add]
  exact not_congr (BitVec.add_left_inj _)

/-- Two seeds that are half of all words apart have the same noise everywhere. -/
theorem opposite_seeds_share_noise :
    ¬ ∀ a b : Int32, a ≠ b → ∃ x z, (⟨a⟩ : Noise).raw x z ≠ (⟨b⟩ : Noise).raw x z := by
  intro h
  obtain ⟨x, z, hne⟩ := h 0 Int32.minValue (by decide)
  exact hne (raw_congr (by decide) rfl rfl)

end Noise
end BiomeAtlas
