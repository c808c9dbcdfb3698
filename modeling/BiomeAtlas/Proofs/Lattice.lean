import Mathlib.Algebra.Group.Int.Defs
import Mathlib.Algebra.Group.Nat.Defs
import BiomeAtlas.Noise

/-! # What the noise sees

The hash of a column works on 32-bit words, but each of its operations makes the lower 31 bits of
the result from the lower 31 bits of the arguments alone, and the mask at the end drops the highest
bit. So the hash sees neither the sign of a coordinate nor the sign of a seed (`Noise.raw_congr`):
along both axes it repeats after half of all coordinates.
-/
namespace BiomeAtlas

/-- A word without its highest bit. -/
def lowBits (word : Int32) : BitVec 31 :=
  word.toBitVec.setWidth 31

@[simp] theorem lowBits_add (a b : Int32) : lowBits (a + b) = lowBits a + lowBits b :=
  BitVec.setWidth_add _ _ (by decide)

@[simp] theorem lowBits_mul (a b : Int32) : lowBits (a * b) = lowBits a * lowBits b :=
  BitVec.setWidth_mul _ _ (by decide)

@[simp] theorem lowBits_xor (a b : Int32) : lowBits (a ^^^ b) = lowBits a ^^^ lowBits b :=
  BitVec.setWidth_xor

@[simp] theorem lowBits_shiftLeft (a : Int32) : lowBits (a <<< 13) = lowBits a <<< 13 :=
  BitVec.setWidth_shiftLeft_of_le (by decide)

/-- Words with the same lower bits are equal or half of all words apart. -/
theorem lowBits_eq_iff {a b : Int32} :
    lowBits a = lowBits b ↔ a.toInt % 2 ^ 31 = b.toInt % 2 ^ 31 := by
  have hremainder : ∀ word : Int32, ((lowBits word).toNat : Int) = word.toInt % 2 ^ 31 := by
    intro word
    change ((word.toBitVec.setWidth 31).toNat : Int) = word.toBitVec.toInt % 2 ^ 31
    rw [BitVec.toNat_setWidth, BitVec.toInt_eq_toNat_cond]
    split <;> omega
  rw [← BitVec.toNat_inj, ← hremainder, ← hremainder]
  omega

/-- Masking the highest bit keeps the lower ones and nothing else. -/
theorem and_mask_eq {a b : Int32} (h : lowBits a = lowBits b) :
    a &&& 0x7fffffff = b &&& 0x7fffffff := by
  have hmask : ∀ word : Int32, (word &&& 0x7fffffff).toBitVec.toNat = (lowBits word).toNat := by
    intro word
    change word.toBitVec.toNat &&& 2 ^ 31 - 1 = (word.toBitVec.setWidth 31).toNat
    rw [BitVec.toNat_setWidth, Nat.and_two_pow_sub_one_eq_mod]
  rw [← Int32.toBitVec_inj, ← BitVec.toNat_inj, hmask, hmask, h]

namespace Noise
variable {noise noise' : Noise} {x x' z z' : Coord}

/-- The hash before masking passes on the lower bits, from the mixed column number to the cubic
polynomial. -/
theorem lowBits_mixed (hseed : lowBits noise.seed = lowBits noise'.seed)
    (hx : lowBits x = lowBits x') (hz : lowBits z = lowBits z') :
    lowBits (noise.mixed x z) = lowBits (noise'.mixed x' z') := by
  simp only [mixed, lowBits_add, lowBits_mul, lowBits_xor, lowBits_shiftLeft, hseed, hx, hz]

/-- **The hash does not see signs**: it only depends on the lower 31 bits of the seed and of the
coordinates. -/
theorem raw_congr (hseed : lowBits noise.seed = lowBits noise'.seed) (hx : lowBits x = lowBits x')
    (hz : lowBits z = lowBits z') : noise.raw x z = noise'.raw x' z' :=
  and_mask_eq (lowBits_mixed hseed hx hz)

theorem roll_congr (hx : lowBits x = lowBits x') (hz : lowBits z = lowBits z') :
    noise.roll x z = noise.roll x' z' := by
  rw [roll, roll, raw_congr rfl hx hz]

theorem rollPermille_congr (hx : lowBits x = lowBits x') (hz : lowBits z = lowBits z')
    (chance : Int32) :
    noise.rollPermille x z chance = noise.rollPermille x' z' chance := by
  rw [rollPermille, rollPermille, roll_congr hx hz]

end Noise

end BiomeAtlas
