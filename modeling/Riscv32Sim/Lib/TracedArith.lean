import Mathlib.Data.BitVec

/-!
# Arithmetic with a trace of its operations

An integer operation on machine words may have no defined result: a signed one whose exact result
does not fit the word, a division by zero, and a shift by the width of the word or more. A traced
computation yields its value together with the operations it has evaluated, so that it can be asked
afterwards whether each of them was defined. The value of an undefined operation is wraparound, or
what the computation names for it.

## Main definitions

* `ArithOp w`, `ArithOp.Defined`: the operations on `w`-bit words, and when they are defined
* `Traced w α`: a value and the operations evaluated for it
* `Traced.Defined`: every operation evaluated is defined

## Main results

* `Traced.defined_bind_iff`, `Traced.defined_ite`: a sequence is defined when its parts are, and a
  choice when the branch it takes is
* `ArithOp.defined_neg_iff`, `ArithOp.defined_mul_iff`: when negation and product are defined
* `ArithOp.defined_sdiv`, `ArithOp.defined_srem`: guarded divisions are defined
-/

namespace TracedArith

variable {w : ℕ}

/-- The operations on `w`-bit words that may be undefined. -/
inductive ArithOp (w : ℕ)
  | neg (a : BitVec w)
  | mul (a b : BitVec w)
  | sdiv (a b : BitVec w)
  | srem (a b : BitVec w)
  | udiv (a b : BitVec w)
  | urem (a b : BitVec w)
  | shl (a count : BitVec w)
  | lshr (a count : BitVec w)
  | ashr (a count : BitVec w)
  deriving DecidableEq, Repr

/-- The signed `w`-bit integers. -/
def InRange (w : ℕ) (x : ℤ) : Prop := -2 ^ (w - 1) ≤ x ∧ x ≤ 2 ^ (w - 1) - 1

instance (w : ℕ) (x : ℤ) : Decidable (InRange w x) := inferInstanceAs (Decidable (_ ∧ _))

theorem inRange_toInt (a : BitVec w) : InRange w a.toInt := by
  have hlow := a.le_toInt
  have hhigh := a.toInt_lt
  exact ⟨hlow, by omega⟩

theorem slt_zero_iff (a : BitVec w) : a.slt 0 = true ↔ a.toInt < 0 := by
  rw [BitVec.slt_iff_toInt_lt, BitVec.ofNat_eq_ofNat, BitVec.toInt_zero]

namespace ArithOp

/-- The operation is defined. A remainder is undefined with its quotient. -/
def Defined : ArithOp w → Prop
  | .neg a => InRange w (-a.toInt)
  | .mul a b => InRange w (a.toInt * b.toInt)
  | .sdiv a b => b ≠ 0 ∧ InRange w (a.toInt.tdiv b.toInt)
  | .srem a b => b ≠ 0 ∧ InRange w (a.toInt.tdiv b.toInt) ∧ InRange w (a.toInt.tmod b.toInt)
  | .udiv _ b | .urem _ b => b ≠ 0
  | .shl _ count | .lshr _ count | .ashr _ count => count.toNat < w

instance (op : ArithOp w) : Decidable op.Defined :=
  match op with
  | .neg a => inferInstanceAs (Decidable (InRange w (-a.toInt)))
  | .mul a b => inferInstanceAs (Decidable (InRange w (a.toInt * b.toInt)))
  | .sdiv a b => inferInstanceAs (Decidable (b ≠ 0 ∧ InRange w (a.toInt.tdiv b.toInt)))
  | .srem a b => inferInstanceAs (Decidable
      (b ≠ 0 ∧ InRange w (a.toInt.tdiv b.toInt) ∧ InRange w (a.toInt.tmod b.toInt)))
  | .udiv _ b | .urem _ b => inferInstanceAs (Decidable (b ≠ 0))
  | .shl _ count | .lshr _ count | .ashr _ count => inferInstanceAs (Decidable (count.toNat < w))

/-- The result, under wraparound. -/
def result : ArithOp w → BitVec w
  | .neg a => -a
  | .mul a b => a * b
  | .sdiv a b => a.sdiv b
  | .srem a b => a.srem b
  | .udiv a b => a / b
  | .urem a b => a % b
  | .shl a count => a <<< count.toNat
  | .lshr a count => a >>> count.toNat
  | .ashr a count => a.sshiftRight count.toNat

/-- A negation is undefined at the least integer only. -/
theorem defined_neg_iff (hw : 0 < w) (a : BitVec w) : (neg a).Defined ↔ a ≠ BitVec.intMin w := by
  obtain ⟨hlow, hhigh⟩ := inRange_toInt a
  have hmin : a = BitVec.intMin w ↔ a.toInt = -2 ^ (w - 1) := by
    rw [← BitVec.toInt_inj, BitVec.toInt_intMin_of_pos hw]
  rw [Defined, InRange, Ne, hmin]
  omega

/-- The largest magnitude of a product with these signs. -/
def mulLimit (a b : BitVec w) : ℕ := if a.slt 0 != b.slt 0 then 2 ^ (w - 1) else 2 ^ (w - 1) - 1

/-- A product can be tested in advance, by a division of magnitudes. -/
def MulFits (a b : BitVec w) : Prop := b = 0 ∨ a.toInt.natAbs ≤ mulLimit a b / b.toInt.natAbs

instance (a b : BitVec w) : Decidable (MulFits a b) := inferInstanceAs (Decidable (_ ∨ _))

/-- The sign of a product. -/
theorem mul_nonpos_of_slt_ne {a b : BitVec w} (h : a.slt 0 ≠ b.slt 0) : a.toInt * b.toInt ≤ 0 := by
  by_cases ha : a.toInt < 0
  · have hb : ¬ b.toInt < 0 := fun hb =>
      h (((slt_zero_iff a).mpr ha).trans ((slt_zero_iff b).mpr hb).symm)
    exact Int.mul_nonpos_of_nonpos_of_nonneg ha.le (not_lt.mp hb)
  · have hb : b.toInt < 0 := by
      by_contra hb
      rw [← slt_zero_iff, Bool.not_eq_true] at ha hb
      exact h (ha.trans hb.symm)
    exact Int.mul_nonpos_of_nonneg_of_nonpos (not_lt.mp ha) hb.le

theorem mul_nonneg_of_slt_eq {a b : BitVec w} (h : a.slt 0 = b.slt 0) : 0 ≤ a.toInt * b.toInt := by
  have hsign : a.toInt < 0 ↔ b.toInt < 0 := by rw [← slt_zero_iff, ← slt_zero_iff, h]
  by_cases ha : a.toInt < 0
  · exact Int.mul_nonneg_of_nonpos_of_nonpos ha.le (hsign.mp ha).le
  · exact Int.mul_nonneg (not_lt.mp ha) (not_lt.mp (mt hsign.mpr ha))

/-- A product is defined when the test says that it fits. -/
theorem defined_mul_iff (a b : BitVec w) : (mul a b).Defined ↔ MulFits a b := by
  have hlimit : (0 : ℤ) < 2 ^ (w - 1) := Int.pow_pos (by decide)
  rw [Defined, InRange, MulFits]
  by_cases hb : b = 0
  · rw [hb, BitVec.ofNat_eq_ofNat, BitVec.toInt_zero, Int.mul_zero]
    exact iff_of_true ⟨by omega, by omega⟩ (Or.inl rfl)
  · have hne : b.toInt ≠ 0 := fun h => hb (BitVec.eq_of_toInt_eq (by simpa using h))
    have hpos : 0 < b.toInt.natAbs := Int.natAbs_pos.mpr hne
    rw [or_iff_right hb, Nat.le_div_iff_mul_le hpos, ← Int.natAbs_mul, mulLimit]
    have hcast : ((2 ^ (w - 1) : ℕ) : ℤ) = 2 ^ (w - 1) := by norm_cast
    split_ifs with hsign
    · have hprod := mul_nonpos_of_slt_ne (bne_iff_ne.mp hsign)
      omega
    · have hprod := mul_nonneg_of_slt_eq (by simpa using hsign)
      omega

/-- A quotient is defined unless it is that of the least integer by `-1`. -/
theorem defined_sdiv {a b : BitVec w} (hb : b ≠ 0)
    (hover : ¬ (a = BitVec.intMin w ∧ b = -1)) : (sdiv a b).Defined := by
  refine ⟨hb, ?_⟩
  rw [← BitVec.toInt_sdiv_of_ne_or_ne a b (not_and_or.mp hover)]
  exact inRange_toInt _

theorem defined_srem {a b : BitVec w} (hb : b ≠ 0)
    (hover : ¬ (a = BitVec.intMin w ∧ b = -1)) : (srem a b).Defined := by
  refine ⟨hb, (defined_sdiv hb hover).2, ?_⟩
  rw [← BitVec.toInt_srem]
  exact inRange_toInt _

end ArithOp

/-! ## Traced computations -/

/-- A value and the operations evaluated for it. -/
structure Traced (w : ℕ) (α : Type) where
  value : α
  ops : List (ArithOp w)

namespace Traced

variable {α β : Type}

instance : Monad (Traced w) where
  pure x := ⟨x, []⟩
  bind t f := ⟨(f t.value).value, t.ops ++ (f t.value).ops⟩

/-- Evaluate one operation. -/
def eval (op : ArithOp w) : Traced w (BitVec w) := ⟨op.result, [op]⟩

/-- Evaluate one operation, with the value `x` where it is not defined. -/
def evalOr (op : ArithOp w) (x : BitVec w) : Traced w (BitVec w) :=
  ⟨if op.Defined then op.result else x, [op]⟩

/-- Every operation evaluated is defined. -/
def Defined (t : Traced w α) : Prop := ∀ op ∈ t.ops, op.Defined

instance (t : Traced w α) : Decidable t.Defined :=
  inferInstanceAs (Decidable (∀ op ∈ t.ops, op.Defined))

@[simp] theorem value_pure (x : α) : (pure x : Traced w α).value = x := rfl

@[simp] theorem value_bind (t : Traced w α) (f : α → Traced w β) :
    (t >>= f).value = (f t.value).value := rfl

@[simp] theorem value_eval (op : ArithOp w) : (eval op).value = op.result := rfl

@[simp] theorem defined_pure (x : α) : (pure x : Traced w α).Defined :=
  fun _ h => absurd h List.not_mem_nil

/-- A sequence is defined when its parts are. -/
@[simp] theorem defined_bind_iff (t : Traced w α) (f : α → Traced w β) :
    (t >>= f).Defined ↔ t.Defined ∧ (f t.value).Defined :=
  List.forall_mem_append

/-- A choice is defined when the branch it takes is. -/
theorem defined_ite {p : Prop} [Decidable p] {t u : Traced w α} (ht : p → t.Defined)
    (hu : ¬ p → u.Defined) : (if p then t else u).Defined := by
  split_ifs with h
  · exact ht h
  · exact hu h

@[simp] theorem defined_eval_iff (op : ArithOp w) : (eval op).Defined ↔ op.Defined :=
  List.forall_mem_singleton

@[simp] theorem value_evalOr (op : ArithOp w) (x : BitVec w) :
    (evalOr op x).value = if op.Defined then op.result else x := rfl

@[simp] theorem defined_evalOr_iff (op : ArithOp w) (x : BitVec w) :
    (evalOr op x).Defined ↔ op.Defined :=
  List.forall_mem_singleton

end Traced

end TracedArith
