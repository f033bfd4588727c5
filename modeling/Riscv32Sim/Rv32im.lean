import Riscv32Sim.Common
import Riscv32Sim.Lib.LittleEndian

/-!
# Reference semantics of RV32IM

The meaning of the integer instructions, in the arithmetic of the integers and over a flat byte
memory. It is stated from the instruction set, not from the simulator: the results are reduced
modulo `2 ^ 32` once, at the end.

## Main definitions

* `Rv32im.State`: registers, memory and pc
* `Rv32im.alu`, `Rv32im.loadValue`, `Rv32im.taken`: operations, loads and branch conditions
* `Rv32im.nextPc`, `Rv32im.exec`: the address of the next instruction, and one instruction

## Main results

* `Rv32im.div_rem_spec`, `Rv32im.divu_remu_spec`: the division tables
-/

namespace Riscv32Sim

namespace Rv32im

open LittleEndian

/-- The architectural state of the integer instructions. -/
@[ext] structure State where
  x : RegIndex → BitVec 32
  mem : ByteMemory 32
  pc : BitVec 32

/-- Write a register; register 0 keeps its value. -/
def State.setReg (σ : State) (rd : RegIndex) (v : BitVec 32) : State :=
  { σ with x := fun i => if i = rd ∧ rd ≠ 0 then v else σ.x i }

/-- Continue at `pc`. -/
def State.jump (σ : State) (pc : BitVec 32) : State := { σ with pc := pc }

/-- The arithmetic and logical operations. Division truncates towards zero; a division by zero
yields all ones and leaves the dividend as remainder. -/
def alu : Alu → BitVec 32 → BitVec 32 → BitVec 32
  | .and, a, b => a &&& b
  | .or, a, b => a ||| b
  | .xor, a, b => a ^^^ b
  | .add, a, b | .auipc, a, b | .jal, a, b => BitVec.ofNat 32 (a.toNat + b.toNat)
  | .jalr, a, b => BitVec.ofNat 32 ((a.toNat + b.toNat) / 2 * 2)
  | .sub, a, b => BitVec.ofInt 32 (a.toInt - b.toInt)
  | .sll, a, b => BitVec.ofNat 32 (a.toNat * 2 ^ b.toNat)
  | .srl, a, b => BitVec.ofNat 32 (a.toNat / 2 ^ b.toNat)
  | .sra, a, b => BitVec.ofInt 32 (a.toInt / 2 ^ b.toNat)
  | .slt, a, b => if a.toInt < b.toInt then 1 else 0
  | .sltu, a, b => if a.toNat < b.toNat then 1 else 0
  | .mul, a, b => BitVec.ofInt 32 (a.toInt * b.toInt)
  | .mulh, a, b => BitVec.ofInt 32 (a.toInt * b.toInt / 2 ^ 32)
  | .mulhsu, a, b => BitVec.ofInt 32 (a.toInt * b.toNat / 2 ^ 32)
  | .mulhu, a, b => BitVec.ofNat 32 (a.toNat * b.toNat / 2 ^ 32)
  | .div, a, b => if b = 0 then BitVec.ofInt 32 (-1) else BitVec.ofInt 32 (a.toInt.tdiv b.toInt)
  | .divu, a, b => if b = 0 then BitVec.ofNat 32 (2 ^ 32 - 1) else BitVec.ofNat 32 (a.toNat / b.toNat)
  | .rem, a, b => if b = 0 then a else BitVec.ofInt 32 (a.toInt.tmod b.toInt)
  | .remu, a, b => if b = 0 then a else BitVec.ofNat 32 (a.toNat % b.toNat)
  | .unnamed _, _, _ => 0

/-- The value of a load, sign- or zero-extended. -/
def loadValue (m : ByteMemory 32) (a : BitVec 32) : Load → BitVec 32
  | .lb => BitVec.signExtend 32 (load m a 1)
  | .lh => BitVec.signExtend 32 (load m a 2)
  | .lw => load m a 4
  | .lbu => BitVec.setWidth 32 (load m a 1)
  | .lhu => BitVec.setWidth 32 (load m a 2)
  | .unnamed _ => 0

/-- The memory after a store of the low bytes of `v`. -/
def storeValue (m : ByteMemory 32) (a v : BitVec 32) : Store → ByteMemory 32
  | .sb => store m a 1 (v.setWidth 8)
  | .sh => store m a 2 (v.setWidth 16)
  | .sw => store m a 4 v
  | .unnamed _ => m

/-- The branch conditions. -/
def taken : Branch → BitVec 32 → BitVec 32 → Prop
  | .beq, a, b => a = b
  | .bne, a, b => a ≠ b
  | .blt, a, b => a.toInt < b.toInt
  | .bge, a, b => b.toInt ≤ a.toInt
  | .bltu, a, b => a.toNat < b.toNat
  | .bgeu, a, b => b.toNat ≤ a.toNat
  | .unnamed _, _, _ => False

instance (f : Branch) (a b : BitVec 32) : Decidable (taken f a b) :=
  match f with
  | .beq => inferInstanceAs (Decidable (a = b))
  | .bne => inferInstanceAs (Decidable (a ≠ b))
  | .blt => inferInstanceAs (Decidable (a.toInt < b.toInt))
  | .bge => inferInstanceAs (Decidable (b.toInt ≤ a.toInt))
  | .bltu => inferInstanceAs (Decidable (a.toNat < b.toNat))
  | .bgeu => inferInstanceAs (Decidable (b.toNat ≤ a.toNat))
  | .unnamed _ => inferInstanceAs (Decidable False)

/-- The address of the next instruction: two bytes on from a compressed one, four from the
others. -/
def nextPc (op : Op) (pc : BitVec 32) : BitVec 32 :=
  BitVec.ofNat 32 (pc.toNat + if op.isCompressed then 2 else 4)

/-- One instruction. A jump links to the next instruction and continues at its result. -/
def exec (op : Op) (σ : State) : State :=
  let next := nextPc op σ.pc
  let addr := σ.x op.rs1 + op.imm
  match op.opt with
  | .alu f =>
    let res := alu f (if op.usePc then σ.pc else σ.x op.rs1) (if op.hasImm then op.imm else σ.x op.rs2)
    if f = .jal ∨ f = .jalr then (σ.setReg op.rd next).jump res
    else (σ.setReg op.rd res).jump next
  | .load l => (σ.setReg op.rd (loadValue σ.mem addr l)).jump next
  | .store w => State.jump { σ with mem := storeValue σ.mem addr (σ.x op.rs2) w } next
  | .branch b =>
    if taken b (σ.x op.rs1) (σ.x op.rs2) then σ.jump (σ.pc + op.imm) else σ.jump next
  | _ => σ

/-! ## The division tables -/

/-- **Signed division**: the tables of the instruction set, and the division law. -/
structure DivRemSpec (a b q r : BitVec 32) : Prop where
  zero_div : b = 0 → q = BitVec.ofInt 32 (-1)
  zero_rem : b = 0 → r = a
  overflow_div : a = BitVec.intMin 32 → b = BitVec.ofInt 32 (-1) → q = a
  overflow_rem : a = BitVec.intMin 32 → b = BitVec.ofInt 32 (-1) → r = 0
  law : b ≠ 0 → ¬ (a = BitVec.intMin 32 ∧ b = BitVec.ofInt 32 (-1)) →
    a.toInt = b.toInt * q.toInt + r.toInt
  rem_lt : b ≠ 0 → r.toInt.natAbs < b.toInt.natAbs
  rem_sign : b ≠ 0 → r ≠ 0 → (0 < r.toInt ↔ 0 < a.toInt)

/-- **Unsigned division**: the tables of the instruction set, and the division law. -/
structure DivuRemuSpec (a b q r : BitVec 32) : Prop where
  zero_div : b = 0 → q.toNat = 2 ^ 32 - 1
  zero_rem : b = 0 → r = a
  law : b ≠ 0 → a.toNat = b.toNat * q.toNat + r.toNat
  rem_lt : b ≠ 0 → r.toNat < b.toNat

theorem ofInt_tdiv (a b : BitVec 32) : BitVec.ofInt 32 (a.toInt.tdiv b.toInt) = a.sdiv b := by
  apply BitVec.eq_of_toInt_eq
  rw [BitVec.toInt_ofInt, BitVec.toInt_sdiv]

theorem ofInt_tmod (a b : BitVec 32) : BitVec.ofInt 32 (a.toInt.tmod b.toInt) = a.srem b := by
  rw [← BitVec.toInt_srem, BitVec.ofInt_toInt]

theorem div_rem_spec (a b : BitVec 32) : DivRemSpec a b (alu .div a b) (alu .rem a b) := by
  have hdiv : b ≠ 0 → alu .div a b = a.sdiv b := fun hb => by rw [alu, if_neg hb, ofInt_tdiv]
  have hrem : b ≠ 0 → alu .rem a b = a.srem b := fun hb => by rw [alu, if_neg hb, ofInt_tmod]
  have htoInt : b ≠ 0 → b.toInt ≠ 0 := fun hb h => hb (BitVec.eq_of_toInt_eq h)
  constructor
  · exact fun hb => if_pos hb
  · exact fun hb => if_pos hb
  · rintro rfl rfl
    decide
  · rintro rfl rfl
    decide
  · intro hb hover
    rw [hdiv hb, hrem hb, BitVec.toInt_srem, BitVec.toInt_sdiv_of_ne_or_ne]
    · exact (Int.mul_tdiv_add_tmod _ _).symm
    · exact not_and_or.mp hover
  · intro hb
    rw [hrem hb, BitVec.toInt_srem, Int.natAbs_tmod]
    exact Nat.mod_lt _ (Int.natAbs_pos.mpr (htoInt hb))
  · intro hb hr
    rw [hrem hb] at hr ⊢
    have hne : (a.toInt.tmod b.toInt) ≠ 0 := by
      rw [← BitVec.toInt_srem]
      exact fun h => hr (BitVec.eq_of_toInt_eq h)
    have hsign := Int.sign_tmod a.toInt b.toInt
    rw [if_neg (mt Int.tmod_eq_zero_of_dvd hne)] at hsign
    rw [BitVec.toInt_srem, ← Int.sign_eq_one_iff_pos, hsign, Int.sign_eq_one_iff_pos]

theorem divu_remu_spec (a b : BitVec 32) : DivuRemuSpec a b (alu .divu a b) (alu .remu a b) := by
  have ha := a.isLt
  have hdiv : b ≠ 0 → (alu .divu a b).toNat = a.toNat / b.toNat := fun hb => by
    rw [alu, if_neg hb, BitVec.toNat_ofNat, Nat.mod_eq_of_lt]
    exact (Nat.div_le_self _ _).trans_lt ha
  have hrem : b ≠ 0 → (alu .remu a b).toNat = a.toNat % b.toNat := fun hb => by
    rw [alu, if_neg hb, BitVec.toNat_ofNat, Nat.mod_eq_of_lt]
    exact (Nat.mod_le _ _).trans_lt ha
  constructor
  · exact fun hb => by rw [alu, if_pos hb]; rfl
  · exact fun hb => if_pos hb
  · intro hb
    rw [hdiv hb, hrem hb, Nat.div_add_mod]
  · intro hb
    rw [hrem hb]
    exact Nat.mod_lt _ (Nat.pos_of_ne_zero fun h => hb (BitVec.eq_of_toNat_eq h))

end Rv32im

end Riscv32Sim
