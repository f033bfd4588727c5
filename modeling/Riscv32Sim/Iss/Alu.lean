import Riscv32Sim.Iss.Arith
import Riscv32Sim.Rv32im

/-!
# Operations and branch conditions

`do_alu` and `should_branch` compute on 32-bit words what the reference semantics says over the
integers. The cases that C++ leaves undefined are kept apart: a shift count of 32 or more yields
`wideShift`, and signed overflow is wraparound.

## Main definitions

* `doAlu`, `shouldBranch`: the two functions of `model.cpp`

## Main results

* `doAlu_eq`, `shouldBranch_eq`: they are the reference operations and conditions
* `doAlu_full_product`: the high and the low multiplications form the full product
-/

namespace Riscv32Sim

variable [Platform]

/-- `do_alu`. -/
def doAlu (opt : Alu) (opd₁ opd₂ : BitVec 32) : Except Error (BitVec 32) :=
  match opt with
  | .or => .ok (opd₁ ||| opd₂)
  | .and => .ok (opd₁ &&& opd₂)
  | .xor => .ok (opd₁ ^^^ opd₂)
  | .add | .auipc | .jal => .ok (opd₁ + opd₂)
  | .sub => .ok (opd₁ - opd₂)
  | .sll => .ok (if opd₂.toNat < 32 then opd₁ <<< opd₂.toNat else wideShift .sll opd₁ opd₂)
  | .srl => .ok (if opd₂.toNat < 32 then opd₁ >>> opd₂.toNat else wideShift .srl opd₁ opd₂)
  | .sra =>
    .ok (if opd₂.toNat < 32 then opd₁.sshiftRight opd₂.toNat else wideShift .sra opd₁ opd₂)
  | .slt => .ok (if opd₁.slt opd₂ then 1 else 0)
  | .sltu => .ok (if opd₁ < opd₂ then 1 else 0)
  | .jalr => .ok ((opd₁ + opd₂) &&& lsbZero)
  | .mulh => .ok (mulh opd₁ opd₂)
  | .mulhsu => .ok (mulhsu opd₁ opd₂)
  | .mulhu => .ok (mulhu opd₁ opd₂)
  | .mul => .ok (opd₁ * opd₂)
  | .divu => .ok (if opd₂ = 0 then BitVec.allOnes 32 else opd₁ / opd₂)
  | .remu => .ok (if opd₂ = 0 then opd₁ else opd₁ % opd₂)
  | .div =>
    .ok (if opd₂ = 0 then -1
      else if opd₁ = BitVec.intMin 32 ∧ opd₂ = -1 then opd₁
      else opd₁.sdiv opd₂)
  | .rem =>
    .ok (if opd₂ = 0 then opd₁
      else if opd₁ = BitVec.intMin 32 ∧ opd₂ = -1 then 0
      else opd₁.srem opd₂)
  | .unnamed _ => .error .unexpectedSwitchCaseValue

omit [Platform] in
/-- `should_branch`. -/
def shouldBranch (opd₁ opd₂ : BitVec 32) (bType : Branch) : Except Error Bool :=
  match bType with
  | .beq => .ok (opd₁ == opd₂)
  | .bne => .ok (opd₁ != opd₂)
  | .blt => .ok (opd₁.slt opd₂)
  | .bltu => .ok (opd₁.ult opd₂)
  | .bge => .ok (opd₂.sle opd₁)
  | .bgeu => .ok (opd₂.ule opd₁)
  | .unnamed _ => .error .unexpectedSwitchCaseValue

/-- The register shifts, whose count C++ bounds. -/
def Alu.isShift : Alu → Bool
  | .sll | .srl | .sra => true
  | _ => false

/-- Clearing the lowest bit of a sum. -/
theorem add_and_lsbZero (a b : BitVec 32) :
    (a + b) &&& lsbZero = BitVec.ofNat 32 ((a.toNat + b.toNat) / 2 * 2) := by
  have hmask : lsbZero = BitVec.allOnes 32 <<< 1 := Platform.lsbZero_eq
  apply BitVec.eq_of_toNat_eq
  -- the wraparound at `2 ^ 32` and the rounding to an even number commute
  rw [hmask, toNat_and_allOnes_shiftLeft, BitVec.toNat_add, BitVec.toNat_ofNat]
  omega

omit [Platform] in
theorem shiftLeft_eq_ofNat (a : BitVec 32) (n : ℕ) :
    a <<< n = BitVec.ofNat 32 (a.toNat * 2 ^ n) := by
  apply BitVec.eq_of_toNat_eq
  rw [BitVec.toNat_shiftLeft, BitVec.toNat_ofNat, Nat.shiftLeft_eq]

omit [Platform] in
theorem ushiftRight_eq_ofNat (a : BitVec 32) (n : ℕ) :
    a >>> n = BitVec.ofNat 32 (a.toNat / 2 ^ n) := by
  apply BitVec.eq_of_toNat_eq
  rw [BitVec.toNat_ushiftRight, BitVec.toNat_ofNat, Nat.shiftRight_eq_div_pow,
    Nat.mod_eq_of_lt ((Nat.div_le_self _ _).trans_lt a.isLt)]

omit [Platform] in
theorem sshiftRight_eq_ofInt (a : BitVec 32) (n : ℕ) :
    a.sshiftRight n = BitVec.ofInt 32 (a.toInt / 2 ^ n) := by
  rw [← (a.sshiftRight n).ofInt_toInt, BitVec.toInt_sshiftRight, Int.shiftRight_eq_div_pow]
  norm_cast

omit [Platform] in
theorem sub_eq_ofInt (a b : BitVec 32) : a - b = BitVec.ofInt 32 (a.toInt - b.toInt) := by
  rw [Int.sub_eq_add_neg, BitVec.ofInt_add, BitVec.ofInt_neg, BitVec.ofInt_toInt,
    BitVec.ofInt_toInt, BitVec.sub_eq_add_neg]

omit [Platform] in
theorem mul_eq_ofInt (a b : BitVec 32) : a * b = BitVec.ofInt 32 (a.toInt * b.toInt) := by
  rw [BitVec.ofInt_mul, BitVec.ofInt_toInt, BitVec.ofInt_toInt]

omit [Platform] in
/-- The overflow row of the division table is the wrapped quotient. -/
theorem div_eq (a b : BitVec 32) :
    (if b = 0 then -1 else if a = BitVec.intMin 32 ∧ b = -1 then a else a.sdiv b) =
      Rv32im.alu .div a b := by
  rw [Rv32im.alu, Rv32im.ofInt_tdiv]
  split_ifs with hzero hover
  · rfl
  -- `intMin / -1` is `2 ^ 31`, which wraps to `intMin`
  · obtain ⟨rfl, rfl⟩ := hover
    decide
  · rfl

omit [Platform] in
theorem rem_eq (a b : BitVec 32) :
    (if b = 0 then a else if a = BitVec.intMin 32 ∧ b = -1 then 0 else a.srem b) =
      Rv32im.alu .rem a b := by
  rw [Rv32im.alu, Rv32im.ofInt_tmod]
  split_ifs with hzero hover
  · rfl
  · obtain ⟨rfl, rfl⟩ := hover
    decide
  · rfl

omit [Platform] in
theorem divu_eq (a b : BitVec 32) :
    (if b = 0 then BitVec.allOnes 32 else a / b) = Rv32im.alu .divu a b := by
  rw [Rv32im.alu]
  split_ifs with hzero
  · rfl
  · rw [← BitVec.toNat_udiv, BitVec.ofNat_toNat, BitVec.setWidth_eq]

omit [Platform] in
theorem remu_eq (a b : BitVec 32) : (if b = 0 then a else a % b) = Rv32im.alu .remu a b := by
  rw [Rv32im.alu]
  split_ifs with hzero
  · rfl
  · rw [← BitVec.toNat_umod, BitVec.ofNat_toNat, BitVec.setWidth_eq]

/-- **`do_alu` computes the reference operations**, where the shift count is below 32. -/
theorem doAlu_eq {f : Alu} (hf : f.isNamed) (a b : BitVec 32)
    (hshift : f.isShift → b.toNat < 32) : doAlu f a b = .ok (Rv32im.alu f a b) := by
  have hadd : a + b = BitVec.ofNat 32 (a.toNat + b.toNat) := by
    rw [BitVec.ofNat_add, BitVec.ofNat_toNat, BitVec.ofNat_toNat, BitVec.setWidth_eq,
      BitVec.setWidth_eq]
  cases f with
  | and | or | xor => rfl
  | add | auipc | jal => exact congrArg Except.ok hadd
  | sub => exact congrArg Except.ok (sub_eq_ofInt a b)
  | sll => exact congrArg Except.ok ((if_pos (hshift rfl)).trans (shiftLeft_eq_ofNat a _))
  | srl => exact congrArg Except.ok ((if_pos (hshift rfl)).trans (ushiftRight_eq_ofNat a _))
  | sra => exact congrArg Except.ok ((if_pos (hshift rfl)).trans (sshiftRight_eq_ofInt a _))
  | slt => simp only [doAlu, Rv32im.alu, BitVec.slt_iff_toInt_lt]
  | sltu => simp only [doAlu, Rv32im.alu, BitVec.lt_def]
  | jalr => exact congrArg Except.ok (add_and_lsbZero a b)
  | mul => exact congrArg Except.ok (mul_eq_ofInt a b)
  | mulh => exact congrArg Except.ok (mulh_eq a b)
  | mulhsu => exact congrArg Except.ok (mulhsu_eq a b)
  | mulhu => exact congrArg Except.ok (mulhu_eq a b)
  | div => exact congrArg Except.ok (div_eq a b)
  | divu => exact congrArg Except.ok (divu_eq a b)
  | rem => exact congrArg Except.ok (rem_eq a b)
  | remu => exact congrArg Except.ok (remu_eq a b)
  | unnamed v => exact absurd hf (by simp [Alu.isNamed])

theorem doAlu_eq_of_not_isShift {f : Alu} (hf : f.isNamed) (hs : f.isShift = false)
    (a b : BitVec 32) : doAlu f a b = .ok (Rv32im.alu f a b) :=
  doAlu_eq hf a b fun h => absurd (hs.symm.trans h) Bool.false_ne_true

omit [Platform] in
/-- **`should_branch` decides the reference conditions.** -/
theorem shouldBranch_eq {f : Branch} (hf : f.isNamed) (a b : BitVec 32) :
    shouldBranch a b f = .ok (decide (Rv32im.taken f a b)) := by
  cases f with
  | beq | blt | bge | bltu | bgeu => rfl
  | bne => exact congrArg Except.ok (decide_not (p := a = b)).symm
  | unnamed v => exact absurd hf (by simp [Branch.isNamed])

/-! ## The full product -/

section FullProduct

omit [Platform]

open HighProduct

/-- No sum that `mulhu` forms wraps: each is the sum of the exact values. -/
structure MulhuExact (a b : BitVec 32) : Prop where
  sum₁ : (mulhuSum₁ a b).toNat =
    (a >>> 16).toNat * (lowLimb b).toNat + (lowLimb a).toNat * (lowLimb b).toNat / 2 ^ 16
  sum₂ : (mulhuSum₂ a b).toNat =
    (lowLimb a).toNat * (b >>> 16).toNat + (mulhuSum₁ a b).toNat % 2 ^ 16
  sum₃ : (mulhuSum₃ a b).toNat =
    (a >>> 16).toNat * (b >>> 16).toNat + (mulhuSum₁ a b).toNat / 2 ^ 16 +
      (mulhuSum₂ a b).toNat / 2 ^ 16
  result : mulhu a b = mulhuSum₃ a b

/-- A signed product has 63 bits, and so has one of a signed and an unsigned word. -/
theorem product_bounds (a : BitVec 32) {y : ℤ} (hlow : -2 ^ 31 ≤ y) (hhigh : y < 2 ^ 32) :
    -2 ^ 63 ≤ a.toInt * y ∧ a.toInt * y < 2 ^ 63 := by
  have ha : -2 ^ 31 ≤ a.toInt := a.le_toInt
  have ha' : a.toInt < 2 ^ 31 := a.toInt_lt
  constructor <;> nlinarith

theorem toInt_append_of_eq {hi lo : BitVec 32} {x : ℤ} (hhi : hi = BitVec.ofInt 32 (x / 2 ^ 32))
    (hlo : lo = BitVec.ofInt 32 x) (hx : -2 ^ 63 ≤ x ∧ x < 2 ^ 63) :
    hi.toInt = x / 2 ^ 32 ∧ (hi ++ lo).toInt = x := by
  have hfull := ofInt_ediv_append_ofInt 32 x
  obtain ⟨hlow, hhigh⟩ := hx
  rw [hhi, hlo, hfull]
  constructor
  · exact BitVec.toInt_ofInt_eq_self (by decide) (by omega) (by omega)
  · exact BitVec.toInt_ofInt_eq_self (by decide) hlow hhigh

/-- The low word of the mixed product is that of the others. -/
theorem mul_eq_ofInt_toNat (a b : BitVec 32) : a * b = BitVec.ofInt 32 (a.toInt * b.toNat) := by
  rw [BitVec.ofInt_mul, BitVec.ofInt_toInt, BitVec.ofInt_natCast, BitVec.ofNat_toNat,
    BitVec.setWidth_eq]

theorem toNat_mulhu_append_mul (a b : BitVec 32) :
    (mulhu a b ++ a * b).toNat = a.toNat * b.toNat := by
  rw [BitVec.toNat_append, ← Nat.shiftLeft_add_eq_or_of_lt (a * b).isLt, Nat.shiftLeft_eq,
    toNat_mulhu, BitVec.toNat_mul, Nat.mul_comm _ (2 ^ 32), Nat.div_add_mod]

end FullProduct

/-- **The high multiplications are exact**: `mulhu`, `mulh` and `mulhsu` are the high words of the
exact products, no sum in `mulhu` wraps, and with the result of `mul` as the low word they form
the full product of their signedness. -/
theorem doAlu_full_product (a b : BitVec 32) :
    ((mulhu a b).toNat = a.toNat * b.toNat / 2 ^ 32 ∧ MulhuExact a b) ∧
    (mulh a b).toInt = a.toInt * b.toInt / 2 ^ 32 ∧
    (mulhsu a b).toInt = a.toInt * b.toNat / 2 ^ 32 ∧
    ∃ lo u s su, doAlu .mul a b = .ok lo ∧ doAlu .mulhu a b = .ok u ∧ doAlu .mulh a b = .ok s ∧
      doAlu .mulhsu a b = .ok su ∧ (u ++ lo).toNat = a.toNat * b.toNat ∧
      (s ++ lo).toInt = a.toInt * b.toInt ∧ (su ++ lo).toInt = a.toInt * b.toNat := by
  have hb := b.isLt
  have hb' : -2 ^ 31 ≤ b.toInt := b.le_toInt
  have hb'' : b.toInt < 2 ^ 31 := b.toInt_lt
  have hsigned := toInt_append_of_eq (mulh_eq a b) (mul_eq_ofInt a b)
    (product_bounds a hb' (by omega))
  have hmixed := toInt_append_of_eq (mulhsu_eq a b) (mul_eq_ofInt_toNat a b)
    (product_bounds a (by omega) (by omega))
  refine ⟨⟨toNat_mulhu a b, toNat_mulhuSum₁ a b, toNat_mulhuSum₂ a b, toNat_mulhuSum₃ a b,
    mulhu_eq_mulhuSum₃ a b⟩, hsigned.1, hmixed.1, ?_⟩
  refine ⟨a * b, mulhu a b, mulh a b, mulhsu a b, rfl, rfl, rfl, rfl,
    toNat_mulhu_append_mul a b, hsigned.2, hmixed.2⟩

end Riscv32Sim
