import Riscv32Sim.Lib.HighProduct
import Riscv32Sim.Lib.TracedArith

/-!
# High multiplication

`iss/arith.hpp` computes the high word of a 64-bit product in 32-bit arithmetic: the unsigned one
from 16-bit limbs, the signed ones from the unsigned one on the absolute values. Signed overflow
is two's-complement wraparound.

## Main definitions

* `mulhu`, `mulh`, `mulhsu`: the functions of `arith.hpp`
* `mulhuSum₁`, `mulhuSum₂`, `mulhuSum₃`: the sums that `mulhu` forms

## Main results

* `mulhu_eq`, `mulh_eq`, `mulhsu_eq`: each is the high word of the exact product
-/

namespace Riscv32Sim

open HighProduct
open TracedArith (slt_zero_iff)

/-- `mulhu`. -/
def mulhu (a b : BitVec 32) : BitVec 32 :=
  let a₀ : BitVec 32 := (a.setWidth 16).setWidth 32
  let a₁ := a >>> 16
  let b₀ : BitVec 32 := (b.setWidth 16).setWidth 32
  let b₁ := b >>> 16
  let t := a₁ * b₀ + ((a₀ * b₀) >>> 16)
  let y₁ : BitVec 16 := t.setWidth 16
  let y₂ : BitVec 16 := (t >>> 16).setWidth 16
  let t := a₀ * b₁ + y₁.setWidth 32
  let t := a₁ * b₁ + y₂.setWidth 32 + (t >>> 16)
  let y₂ : BitVec 16 := t.setWidth 16
  let y₃ : BitVec 16 := (t >>> 16).setWidth 16
  (y₃.setWidth 32 <<< 16) ||| y₂.setWidth 32

/-- `mulh`. -/
def mulh (a b : BitVec 32) : BitVec 32 :=
  let negate := a.slt 0 != b.slt 0
  let res := mulhu (if a.slt 0 then -a else a) (if b.slt 0 then -b else b)
  if negate then ~~~res + (if a * b = 0 then 1 else 0) else res

/-- `mulhsu`. -/
def mulhsu (a b : BitVec 32) : BitVec 32 :=
  let negate := a.slt 0
  let res := mulhu (if a.slt 0 then -a else a) b
  if negate then ~~~res + (if a * b = 0 then 1 else 0) else res

/-- The two halves of a word put back together. -/
theorem halves_or (t : BitVec 32) :
    (((t >>> 16).setWidth 16).setWidth 32 <<< 16) ||| (t.setWidth 16).setWidth 32 = t := by
  apply BitVec.eq_of_getLsbD_eq
  intro i hi
  rcases Nat.lt_or_ge i 16 with h | h
  · simp [h, hi]
  · simp [hi, show ¬ i < 16 by omega, show i - 16 < 16 by omega, show i - 16 < 32 by omega,
      show 16 + (i - 16) = i by omega]

theorem toNat_low (a : BitVec 32) : ((a.setWidth 16).setWidth 32).toNat = a.toNat % 2 ^ 16 := by
  rw [BitVec.toNat_setWidth, BitVec.toNat_setWidth, Nat.mod_eq_of_lt]
  omega

theorem toNat_high (a : BitVec 32) : (a >>> 16).toNat = a.toNat / 2 ^ 16 := by
  rw [BitVec.toNat_ushiftRight, Nat.shiftRight_eq_div_pow]

/-- A product of two limbs and a carry do not wrap. -/
theorem toNat_limb_mul_add {x y z : BitVec 32} (hx : x.toNat < 2 ^ 16) (hy : y.toNat < 2 ^ 16)
    (hz : z.toNat < 2 ^ 16) : (x * y + z).toNat = x.toNat * y.toNat + z.toNat := by
  have hlt : x.toNat * y.toNat + z.toNat < 2 ^ 32 := mul_add_lt hx hy hz
  rw [BitVec.toNat_add, BitVec.toNat_mul, Nat.mod_add_mod, Nat.mod_eq_of_lt hlt]

theorem toNat_limb_mul {x y : BitVec 32} (hx : x.toNat < 2 ^ 16) (hy : y.toNat < 2 ^ 16) :
    (x * y).toNat = x.toNat * y.toNat := by
  have h := toNat_limb_mul_add hx hy (z := 0#32) (by decide)
  rwa [BitVec.add_zero] at h

/-- The low limb of a word, `static_cast<uint32_t>(static_cast<uint16_t>(a))`. -/
def lowLimb (a : BitVec 32) : BitVec 32 := (a.setWidth 16).setWidth 32

/-- The first sum of `mulhu`. -/
def mulhuSum₁ (a b : BitVec 32) : BitVec 32 :=
  (a >>> 16) * lowLimb b + ((lowLimb a * lowLimb b) >>> 16)

/-- The second sum of `mulhu`. -/
def mulhuSum₂ (a b : BitVec 32) : BitVec 32 :=
  lowLimb a * (b >>> 16) + lowLimb (mulhuSum₁ a b)

/-- The last sum of `mulhu`. -/
def mulhuSum₃ (a b : BitVec 32) : BitVec 32 :=
  (a >>> 16) * (b >>> 16) + lowLimb (mulhuSum₁ a b >>> 16) + (mulhuSum₂ a b >>> 16)

/-- `mulhu` takes its last sum apart and puts it together again. -/
theorem mulhu_eq_mulhuSum₃ (a b : BitVec 32) : mulhu a b = mulhuSum₃ a b := halves_or _

section Limbs

variable (a b : BitVec 32)

theorem toNat_lowLimb_lt : (lowLimb a).toNat < 2 ^ 16 := by
  rw [lowLimb, toNat_low]
  omega

theorem toNat_highLimb_lt : (a >>> 16).toNat < 2 ^ 16 := by
  have ha := a.isLt
  rw [toNat_high]
  omega

/-- The first sum does not wrap. -/
theorem toNat_mulhuSum₁ :
    (mulhuSum₁ a b).toNat =
      (a >>> 16).toNat * (lowLimb b).toNat + (lowLimb a).toNat * (lowLimb b).toNat / 2 ^ 16 := by
  rw [mulhuSum₁, toNat_limb_mul_add (toNat_highLimb_lt a) (toNat_lowLimb_lt b)
    (toNat_highLimb_lt _), toNat_high (lowLimb a * lowLimb b),
    toNat_limb_mul (toNat_lowLimb_lt a) (toNat_lowLimb_lt b)]

/-- The second sum does not wrap. -/
theorem toNat_mulhuSum₂ :
    (mulhuSum₂ a b).toNat =
      (lowLimb a).toNat * (b >>> 16).toNat + (mulhuSum₁ a b).toNat % 2 ^ 16 := by
  rw [mulhuSum₂, toNat_limb_mul_add (toNat_lowLimb_lt a) (toNat_highLimb_lt b)
    (toNat_lowLimb_lt _), lowLimb, lowLimb, toNat_low (mulhuSum₁ a b)]

/-- The sums are those of the schoolbook method, whose result is the exact high word. -/
theorem mulhu_sums_eq :
    (a >>> 16).toNat * (b >>> 16).toNat + (mulhuSum₁ a b).toNat / 2 ^ 16 +
      (mulhuSum₂ a b).toNat / 2 ^ 16 = a.toNat * b.toNat / 2 ^ 32 := by
  have hlimbs : ∀ x : BitVec 32, (x >>> 16).toNat * 2 ^ 16 + (lowLimb x).toNat = x.toNat := by
    intro x
    rw [lowLimb, toNat_low, toNat_high]
    omega
  have hexact := limbHigh_eq (B := 2 ^ 16) (by omega) (lowLimb a).toNat (a >>> 16).toNat
    (lowLimb b).toNat (b >>> 16).toNat
  rw [limbHigh, hlimbs, hlimbs, ← toNat_mulhuSum₁, ← toNat_mulhuSum₂] at hexact
  exact hexact

/-- The last sum does not wrap: the exact high word is below `2 ^ 32`. -/
theorem toNat_mulhuSum₃ :
    (mulhuSum₃ a b).toNat =
      (a >>> 16).toNat * (b >>> 16).toNat + (mulhuSum₁ a b).toNat / 2 ^ 16 +
        (mulhuSum₂ a b).toNat / 2 ^ 16 := by
  have hhigh : a.toNat * b.toNat / 2 ^ 32 < 2 ^ 32 :=
    Nat.div_lt_of_lt_mul (Nat.mul_lt_mul_of_lt_of_lt a.isLt b.isLt)
  have hlimb : (lowLimb (mulhuSum₁ a b >>> 16)).toNat = (mulhuSum₁ a b).toNat / 2 ^ 16 := by
    have hlt := toNat_highLimb_lt (mulhuSum₁ a b)
    rw [lowLimb, toNat_low, Nat.mod_eq_of_lt hlt, toNat_high]
  have hsum := mulhu_sums_eq a b
  rw [mulhuSum₃, BitVec.toNat_add, BitVec.toNat_add, hlimb,
    toNat_limb_mul (toNat_highLimb_lt a) (toNat_highLimb_lt b), toNat_high (mulhuSum₂ a b),
    Nat.mod_add_mod, hsum, Nat.mod_eq_of_lt hhigh]

end Limbs

/-- **`mulhu` is the high word of the unsigned product**; no sum in it wraps. -/
theorem toNat_mulhu (a b : BitVec 32) : (mulhu a b).toNat = a.toNat * b.toNat / 2 ^ 32 := by
  rw [mulhu_eq_mulhuSum₃, toNat_mulhuSum₃, mulhu_sums_eq]

theorem mulhu_eq (a b : BitVec 32) :
    mulhu a b = BitVec.ofNat 32 (a.toNat * b.toNat / 2 ^ 32) := by
  rw [← toNat_mulhu, BitVec.ofNat_toNat, BitVec.setWidth_eq]

/-! ## Signed products -/

/-- The absolute value of an operand; that of the least integer is its own bit pattern. -/
theorem toNat_abs_eq (a : BitVec 32) :
    (((if a.slt 0 then -a else a) : BitVec 32).toNat : ℤ) = |a.toInt| := by
  have hlt := a.isLt
  split_ifs with h
  · -- `-a` wraps only at zero, which is not negative
    rw [slt_zero_iff] at h
    rw [abs_of_neg h, BitVec.toNat_neg]
    rw [BitVec.toInt_eq_toNat_bmod, Int.bmod_def] at h ⊢
    omega
  · rw [slt_zero_iff, not_lt] at h
    rw [abs_of_nonneg h]
    rw [BitVec.toInt_eq_toNat_bmod, Int.bmod_def] at h ⊢
    omega

/-- The high word of a negative product, from the unsigned one of the absolute values. -/
theorem ofInt_high_of_neg {a b c d : BitVec 32} {x y : ℤ} (hneg : x * y = -(c.toNat * d.toNat : ℕ))
    (hx : a = BitVec.ofInt 32 x) (hy : b = BitVec.ofInt 32 y) :
    ~~~mulhu c d + (if a * b = 0 then 1 else 0) = BitVec.ofInt 32 (x * y / 2 ^ 32) := by
  -- the source tests the low word of the signed product, which vanishes with the unsigned one
  have hzero : a * b = 0 ↔ c.toNat * d.toNat % 2 ^ 32 = 0 := by
    rw [hx, hy, ← BitVec.ofInt_mul, hneg, BitVec.ofInt_neg, BitVec.ofInt_natCast, ← BitVec.toNat_inj]
    rw [BitVec.toNat_neg, BitVec.toNat_ofNat]
    change _ = 0 ↔ _
    omega
  have hhigh := ofInt_neg_ediv 32 (c.toNat * d.toNat)
  rw [hneg, hhigh, ← mulhu_eq]
  simp only [hzero]

/-- The high word of a product that the absolute values give without a sign. -/
theorem ofInt_high_of_nonneg {c d : BitVec 32} {x y : ℤ} (h : x * y = (c.toNat * d.toNat : ℕ)) :
    mulhu c d = BitVec.ofInt 32 (x * y / 2 ^ 32) := by
  have hdiv : x * y / 2 ^ 32 = (c.toNat * d.toNat / 2 ^ 32 : ℕ) := by
    rw [h]
    rfl
  rw [hdiv, BitVec.ofInt_natCast, mulhu_eq]

/-- **`mulh` is the high word of the signed product.** -/
theorem mulh_eq (a b : BitVec 32) :
    mulh a b = BitVec.ofInt 32 (a.toInt * b.toInt / 2 ^ 32) := by
  have hc := toNat_abs_eq a
  have hd := toNat_abs_eq b
  unfold mulh
  -- the source negates the high word of the absolute values when the signs differ
  by_cases ha : a.toInt < 0 <;> by_cases hb : b.toInt < 0
  · rw [(slt_zero_iff a).mpr ha, (slt_zero_iff b).mpr hb] at *
    refine ofInt_high_of_nonneg ?_
    rw [Nat.cast_mul, hc, hd, abs_of_neg ha, abs_of_neg hb, neg_mul_neg]
  · rw [(slt_zero_iff a).mpr ha, Bool.eq_false_iff.mpr (mt (slt_zero_iff b).mp hb)] at *
    refine ofInt_high_of_neg ?_ a.ofInt_toInt.symm b.ofInt_toInt.symm
    rw [Nat.cast_mul, hc, hd, abs_of_neg ha, abs_of_nonneg (not_lt.mp hb), neg_mul, neg_neg]
  · rw [Bool.eq_false_iff.mpr (mt (slt_zero_iff a).mp ha), (slt_zero_iff b).mpr hb] at *
    refine ofInt_high_of_neg ?_ a.ofInt_toInt.symm b.ofInt_toInt.symm
    rw [Nat.cast_mul, hc, hd, abs_of_nonneg (not_lt.mp ha), abs_of_neg hb, mul_neg, neg_neg]
  · rw [Bool.eq_false_iff.mpr (mt (slt_zero_iff a).mp ha),
      Bool.eq_false_iff.mpr (mt (slt_zero_iff b).mp hb)] at *
    refine ofInt_high_of_nonneg ?_
    rw [Nat.cast_mul, hc, hd, abs_of_nonneg (not_lt.mp ha), abs_of_nonneg (not_lt.mp hb)]

/-- **`mulhsu` is the high word of the product of a signed and an unsigned word.** -/
theorem mulhsu_eq (a b : BitVec 32) :
    mulhsu a b = BitVec.ofInt 32 (a.toInt * b.toNat / 2 ^ 32) := by
  have hc := toNat_abs_eq a
  have hb : b = BitVec.ofInt 32 b.toNat := by
    rw [BitVec.ofInt_natCast, BitVec.ofNat_toNat, BitVec.setWidth_eq]
  unfold mulhsu
  by_cases ha : a.toInt < 0
  · rw [(slt_zero_iff a).mpr ha] at *
    refine ofInt_high_of_neg ?_ a.ofInt_toInt.symm hb
    rw [Nat.cast_mul, hc, abs_of_neg ha, neg_mul, neg_neg]
  · rw [Bool.eq_false_iff.mpr (mt (slt_zero_iff a).mp ha)] at *
    refine ofInt_high_of_nonneg ?_
    rw [Nat.cast_mul, hc, abs_of_nonneg (not_lt.mp ha)]

end Riscv32Sim
