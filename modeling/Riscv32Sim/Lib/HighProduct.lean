import Mathlib.Data.BitVec
import Mathlib.Tactic.Linarith
import Mathlib.Tactic.Positivity
import Mathlib.Tactic.Ring

/-!
# The high half of a product

The high half of a product of two-limb numbers by the schoolbook method, and the high half of a
negative product from the high half of its absolute value.

## Main definitions

* `HighProduct.limbHigh B a₀ a₁ b₀ b₁`: the high half of `(a₁ * B + a₀) * (b₁ * B + b₀)`

## Main results

* `HighProduct.limbHigh_eq`: the schoolbook method is exact, in every base
* `HighProduct.mul_add_lt`: its partial sums fit in two limbs
* `HighProduct.ofInt_neg_ediv`: the high half of a negated product
* `HighProduct.ofInt_ediv_append_ofInt`: the two halves of a product put together
-/

namespace HighProduct

/-- The high half of a product of two-limb numbers, by the schoolbook method. -/
def limbHigh (B a₀ a₁ b₀ b₁ : ℕ) : ℕ :=
  a₁ * b₁ + (a₁ * b₀ + a₀ * b₀ / B) / B + (a₀ * b₁ + (a₁ * b₀ + a₀ * b₀ / B) % B) / B

/-- **The schoolbook method is exact.** -/
theorem limbHigh_eq {B : ℕ} (hB : 0 < B) (a₀ a₁ b₀ b₁ : ℕ) :
    limbHigh B a₀ a₁ b₀ b₁ = (a₁ * B + a₀) * (b₁ * B + b₀) / (B * B) := by
  obtain ⟨t, ht⟩ : ∃ t, t = a₁ * b₀ + a₀ * b₀ / B := ⟨_, rfl⟩
  -- divide by `B` twice: the first division leaves `t`, whose low limb carries into the second
  have hdiv : (a₁ * B + a₀) * (b₁ * B + b₀) / B = t + a₀ * b₁ + a₁ * b₁ * B := by
    have hprod : (a₁ * B + a₀) * (b₁ * B + b₀) =
        a₀ * b₀ + B * (a₁ * b₁ * B + a₁ * b₀ + a₀ * b₁) := by ring
    rw [hprod, Nat.add_mul_div_left _ _ hB, ht]
    ring
  have hsplit : t + a₀ * b₁ + a₁ * b₁ * B = a₀ * b₁ + t % B + (a₁ * b₁ + t / B) * B := by
    calc t + a₀ * b₁ + a₁ * b₁ * B = B * (t / B) + t % B + a₀ * b₁ + a₁ * b₁ * B := by
          rw [Nat.div_add_mod]
      _ = a₀ * b₁ + t % B + (a₁ * b₁ + t / B) * B := by ring
  rw [← Nat.div_div_eq_div_mul, hdiv, hsplit, Nat.add_mul_div_right _ _ hB, limbHigh, ← ht]
  ring

/-- A product of limbs and a carry of one limb fit in two limbs. -/
theorem mul_add_lt {B x y z : ℕ} (hx : x < B) (hy : y < B) (hz : z < B) : x * y + z < B * B := by
  have hxy : x * y ≤ (B - 1) * (B - 1) := Nat.mul_le_mul (by omega) (by omega)
  have hsq : (B - 1) * (B - 1) + (B - 1) < B * B := by
    obtain ⟨C, rfl⟩ : ∃ C, B = C + 1 := ⟨B - 1, by omega⟩
    rw [Nat.add_sub_cancel]
    nlinarith
  omega

/-- The high half of a negated product: the complement of the high half, plus one when the low
half is zero. -/
theorem ofInt_neg_ediv (w p : ℕ) :
    BitVec.ofInt w (-(p : ℤ) / 2 ^ w) =
      ~~~BitVec.ofNat w (p / 2 ^ w) + if p % 2 ^ w = 0 then 1 else 0 := by
  have hpos : (0 : ℤ) < 2 ^ w := by positivity
  have hmod : (p : ℤ) = 2 ^ w * (p / 2 ^ w : ℕ) + (p % 2 ^ w : ℕ) := by
    exact_mod_cast (Nat.div_add_mod p (2 ^ w)).symm
  have hlt : ((p % 2 ^ w : ℕ) : ℤ) < 2 ^ w := by
    exact_mod_cast Nat.mod_lt p (Nat.two_pow_pos w)
  rw [BitVec.not_eq_neg_add]
  rcases Nat.eq_zero_or_pos (p % 2 ^ w) with h0 | h0
  · -- the division is exact
    have hdiv : -(p : ℤ) / 2 ^ w = -((p / 2 ^ w : ℕ) : ℤ) := by
      rw [hmod, h0, Nat.cast_zero, add_zero, ← mul_neg, Int.mul_ediv_cancel_left _ hpos.ne']
    rw [hdiv, if_pos h0, BitVec.ofInt_neg, BitVec.ofInt_natCast]
    exact (BitVec.sub_add_cancel _ _).symm
  · -- the floor of the negated quotient is one lower
    have hdiv : -(p : ℤ) / 2 ^ w = -((p / 2 ^ w : ℕ) : ℤ) - 1 := by
      rw [Int.ediv_eq_iff_of_pos hpos]
      constructor
      · nlinarith
      · nlinarith [(by exact_mod_cast h0 : (0 : ℤ) < (p % 2 ^ w : ℕ))]
    rw [hdiv, if_neg h0.ne', Int.sub_eq_add_neg, BitVec.ofInt_add, BitVec.ofInt_neg,
      BitVec.ofInt_neg, BitVec.ofInt_natCast, BitVec.sub_eq_add_neg]
    simp

/-- The remainder by a square has two digits. -/
theorem emod_mul_self {B : ℤ} (hB : 0 < B) (x : ℤ) : x % (B * B) = x / B % B * B + x % B := by
  have hx : x = x / B % B * B + x % B + B * B * (x / B / B) := by
    calc x = B * (x / B) + x % B := (Int.mul_ediv_add_emod x B).symm
      _ = B * (B * (x / B / B) + x / B % B) + x % B := by rw [Int.mul_ediv_add_emod (x / B) B]
      _ = x / B % B * B + x % B + B * B * (x / B / B) := by ring
  have hlow := Int.emod_nonneg x hB.ne'
  have hlow' := Int.emod_lt_of_pos x hB
  have hhigh := Int.emod_nonneg (x / B) hB.ne'
  have hhigh' := Int.emod_lt_of_pos (x / B) hB
  conv_lhs => rw [hx]
  rw [Int.add_mul_emod_self_left, Int.emod_eq_of_lt]
  · positivity
  · nlinarith

/-- The high and the low word of an integer put together. -/
theorem ofInt_ediv_append_ofInt (w : ℕ) (x : ℤ) :
    BitVec.ofInt w (x / 2 ^ w) ++ BitVec.ofInt w x = BitVec.ofInt (w + w) x := by
  have hpos : (0 : ℤ) < 2 ^ w := by positivity
  have htoNat : ∀ (n : ℕ) (y : ℤ), ((BitVec.ofInt n y).toNat : ℤ) = y % 2 ^ n := by
    intro n y
    have hn : (0 : ℤ) < 2 ^ n := by positivity
    rw [BitVec.toNat_ofInt, Nat.cast_pow, Nat.cast_ofNat,
      Int.toNat_of_nonneg (Int.emod_nonneg y hn.ne')]
  apply BitVec.eq_of_toNat_eq
  rw [BitVec.toNat_append, ← Nat.shiftLeft_add_eq_or_of_lt (BitVec.ofInt w x).isLt, Nat.shiftLeft_eq]
  apply Int.natCast_inj.mp
  push_cast
  rw [htoNat, htoNat, htoNat, pow_add, emod_mul_self hpos]

end HighProduct
