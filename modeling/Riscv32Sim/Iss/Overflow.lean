import Riscv32Sim.Iss.Exec
import Riscv32Sim.Lib.TracedArith

/-!
# Undefined arithmetic

The divisions of `do_alu` are guarded, so that none of them has a zero divisor or overflows. The
multiplications are not: `mul` and `mulh` form a signed product, and `mulh` and `mulhsu` negate
their operands. Nor are the shifts, which take the second operand as their count. The operations
are evaluated here with a trace of the C++ arithmetic that may be undefined.

## Main definitions

* `mulhTraced`, `mulhsuTraced`, `doAluTraced`: `mulh`, `mulhsu` and `do_alu` with their arithmetic
* `Model.handleAluTraced`: `handle_alu` with the arithmetic of `do_alu`
* `Alu.Safe`: the operands at which the arithmetic of an operation is defined

## Main results

* `value_doAluTraced`, `Model.value_handleAluTraced`: the traced evaluation computes `do_alu` and
  `handle_alu`
* `defined_doAluTraced_iff`: when the arithmetic of an operation of the extension M is defined
* `Model.handleAlu_shift_iff`: when a register shift uses the low five bits of its count
-/

namespace Riscv32Sim

open TracedArith TracedArith.ArithOp TracedArith.Traced

/-- `a < 0 ? -a : a`. -/
def absTraced (a : BitVec 32) : Traced 32 (BitVec 32) :=
  if a.slt 0 then eval (.neg a) else pure a

/-- `mulh`, with its signed arithmetic. -/
def mulhTraced (a b : BitVec 32) : Traced 32 (BitVec 32) := do
  let negate := a.slt 0 != b.slt 0
  let res := mulhu (← absTraced a) (← absTraced b)
  if negate then
    let product ← eval (.mul a b)
    return ~~~res + (if product = 0 then 1 else 0)
  else
    return res

/-- `mulhsu`, with its signed arithmetic: the product is unsigned. -/
def mulhsuTraced (a b : BitVec 32) : Traced 32 (BitVec 32) := do
  let negate := a.slt 0
  let res := mulhu (← absTraced a) b
  if negate then
    return ~~~res + (if a * b = 0 then 1 else 0)
  else
    return res

/-- The operations of the extension M. -/
def Alu.isExtensionM : Alu → Bool
  | .mul | .mulh | .mulhsu | .mulhu | .div | .divu | .rem | .remu => true
  | _ => false

section Traced

variable [Platform]

/-- `do_alu`, with the signed arithmetic and the divisions of the extension M, and the shifts. -/
def doAluTraced (opt : Alu) (opd₁ opd₂ : BitVec 32) : Traced 32 (Except Error (BitVec 32)) :=
  match opt with
  | .mulh => do return .ok (← mulhTraced opd₁ opd₂)
  | .mulhsu => do return .ok (← mulhsuTraced opd₁ opd₂)
  | .mulhu => return .ok (mulhu opd₁ opd₂)
  | .mul => do return .ok (← eval (.mul opd₁ opd₂))
  | .divu =>
    if opd₂ = 0 then return .ok (BitVec.allOnes 32)
    else do return .ok (← eval (.udiv opd₁ opd₂))
  | .remu =>
    if opd₂ = 0 then return .ok opd₁
    else do return .ok (← eval (.urem opd₁ opd₂))
  | .div =>
    if opd₂ = 0 then return .ok (-1)
    else if opd₁ = BitVec.intMin 32 ∧ opd₂ = -1 then return .ok opd₁
    else do return .ok (← eval (.sdiv opd₁ opd₂))
  | .rem =>
    if opd₂ = 0 then return .ok opd₁
    else if opd₁ = BitVec.intMin 32 ∧ opd₂ = -1 then return .ok 0
    else do return .ok (← eval (.srem opd₁ opd₂))
  | .sll => do return .ok (← evalOr (.shl opd₁ opd₂) (wideShift .sll opd₁ opd₂))
  | .srl => do return .ok (← evalOr (.lshr opd₁ opd₂) (wideShift .srl opd₁ opd₂))
  | .sra => do return .ok (← evalOr (.ashr opd₁ opd₂) (wideShift .sra opd₁ opd₂))
  | opt => return doAlu opt opd₁ opd₂

/-! ## The traced evaluation computes `do_alu` -/

omit [Platform] in
@[simp] theorem value_absTraced (a : BitVec 32) :
    (absTraced a).value = if a.slt 0 then -a else a := by
  unfold absTraced
  split_ifs <;> rfl

omit [Platform] in
theorem value_mulhTraced (a b : BitVec 32) : (mulhTraced a b).value = mulh a b := by
  rw [mulhTraced, mulh, value_bind, value_bind, value_absTraced, value_absTraced]
  by_cases hneg : (a.slt 0 != b.slt 0) = true
  · rw [if_pos hneg, if_pos hneg, value_bind, value_eval, value_pure, ArithOp.result]
  · rw [if_neg hneg, if_neg hneg, value_pure]

omit [Platform] in
theorem value_mulhsuTraced (a b : BitVec 32) : (mulhsuTraced a b).value = mulhsu a b := by
  rw [mulhsuTraced, mulhsu, value_bind, value_absTraced]
  by_cases hneg : a.slt 0 = true
  · simp only [if_pos hneg, value_pure]
  · simp only [if_neg hneg, value_pure]

/-- **The traced evaluation computes `do_alu`.** -/
theorem value_doAluTraced (opt : Alu) (a b : BitVec 32) :
    (doAluTraced opt a b).value = doAlu opt a b := by
  cases opt with
  | mulh => exact congrArg Except.ok (value_mulhTraced a b)
  | mulhsu => exact congrArg Except.ok (value_mulhsuTraced a b)
  | divu | remu | div | rem =>
    unfold doAluTraced doAlu
    dsimp only
    split_ifs <;> rfl
  | _ => rfl

/-! ## The operands at which it is defined -/

/-- The operands at which the arithmetic of an operation is defined. -/
def Alu.Safe (opt : Alu) (a b : BitVec 32) : Prop :=
  match opt with
  | .mul => MulFits a b
  | .mulh =>
    a ≠ BitVec.intMin 32 ∧ b ≠ BitVec.intMin 32 ∧ (a.slt 0 ≠ b.slt 0 → MulFits a b)
  | .mulhsu => a ≠ BitVec.intMin 32
  | _ => True

omit [Platform] in
/-- The least integer has no absolute value. -/
theorem defined_absTraced_iff (a : BitVec 32) :
    (absTraced a).Defined ↔ a ≠ BitVec.intMin 32 := by
  unfold absTraced
  split_ifs with h
  · rw [defined_eval_iff, defined_neg_iff (by decide)]
  · have hne : a ≠ BitVec.intMin 32 := by
      rintro rfl
      exact h (by decide)
    exact iff_of_true (defined_pure a) hne

omit [Platform] in
theorem defined_mulhTraced_iff (a b : BitVec 32) :
    (mulhTraced a b).Defined ↔ Alu.Safe .mulh a b := by
  unfold mulhTraced
  rw [defined_bind_iff, defined_bind_iff, defined_absTraced_iff, defined_absTraced_iff, Alu.Safe]
  dsimp only
  -- the product is formed only when the signs differ
  split_ifs with h
  · have hne : a.slt 0 ≠ b.slt 0 := bne_iff_ne.mp h
    rw [defined_bind_iff, defined_eval_iff, defined_mul_iff]
    constructor
    · rintro ⟨ha, hb, hmul, -⟩
      exact ⟨ha, hb, fun _ => hmul⟩
    · rintro ⟨ha, hb, hmul⟩
      exact ⟨ha, hb, hmul hne, defined_pure _⟩
  · have heq : a.slt 0 = b.slt 0 := by simpa using h
    constructor
    · rintro ⟨ha, hb, -⟩
      exact ⟨ha, hb, fun hne => absurd heq hne⟩
    · rintro ⟨ha, hb, -⟩
      exact ⟨ha, hb, defined_pure _⟩

omit [Platform] in
theorem defined_mulhsuTraced_iff (a b : BitVec 32) :
    (mulhsuTraced a b).Defined ↔ Alu.Safe .mulhsu a b := by
  unfold mulhsuTraced
  rw [defined_bind_iff, defined_absTraced_iff, Alu.Safe]
  dsimp only
  split_ifs <;> simp

omit [Platform] in
/-- A result is defined when the evaluation that yields it is. -/
theorem defined_ok_iff (t : Traced 32 (BitVec 32)) :
    (do return Except.ok (← t) : Traced 32 (Except Error (BitVec 32))).Defined ↔ t.Defined := by
  simp

omit [Platform] in
theorem defined_ok_eval {op : ArithOp 32} (h : op.Defined) :
    (do return Except.ok (← eval op) : Traced 32 (Except Error (BitVec 32))).Defined :=
  (defined_ok_iff _).mpr ((defined_eval_iff op).mpr h)

/-- A signed division is reached only with a divisor that is not zero and a quotient that fits. -/
theorem defined_div (a b : BitVec 32) : (doAluTraced .div a b).Defined := by
  apply defined_ite (fun _ => defined_pure _)
  intro hzero
  apply defined_ite (fun _ => defined_pure _)
  intro hover
  exact defined_ok_eval (defined_sdiv hzero hover)

theorem defined_rem (a b : BitVec 32) : (doAluTraced .rem a b).Defined := by
  apply defined_ite (fun _ => defined_pure _)
  intro hzero
  apply defined_ite (fun _ => defined_pure _)
  intro hover
  exact defined_ok_eval (defined_srem hzero hover)

/-- **When the arithmetic of the extension M is defined**: the divisions are, at all operands; the
multiplications are when no signed product and no negation overflows. -/
theorem defined_doAluTraced_iff {opt : Alu} (hopt : opt.isExtensionM = true) (a b : BitVec 32) :
    (doAluTraced opt a b).Defined ↔ opt.Safe a b := by
  cases opt with
  | mul =>
    rw [doAluTraced, defined_ok_iff, defined_eval_iff, defined_mul_iff]
    rfl
  | mulh => exact (defined_ok_iff _).trans (defined_mulhTraced_iff a b)
  | mulhsu => exact (defined_ok_iff _).trans (defined_mulhsuTraced_iff a b)
  | mulhu => exact iff_of_true (defined_pure _) trivial
  | div => exact iff_of_true (defined_div a b) trivial
  | rem => exact iff_of_true (defined_rem a b) trivial
  | divu | remu =>
    refine iff_of_true ?_ trivial
    apply defined_ite (fun _ => defined_pure _)
    exact fun hzero => defined_ok_eval hzero
  | _ => exact absurd hopt Bool.false_ne_true

/-! ## Register shifts -/

/-- A shift is defined when the second operand is below 32. -/
theorem defined_doAluTraced_shift_iff {f : Alu} (hf : f.isShift = true) (a b : BitVec 32) :
    (doAluTraced f a b).Defined ↔ b.toNat < 32 := by
  cases f with
  | sll | srl | sra => exact (defined_ok_iff _).trans (defined_evalOr_iff _ _)
  | _ => exact absurd hf Bool.false_ne_true

namespace Model

/-- `model::handle_alu`, with the arithmetic of `do_alu`. -/
def handleAluTraced (s : Model) : Traced 32 (Except Error Model) :=
  match s.dec.opt.getAlu with
  | .error error => return .error error
  | .ok opt => do
    let res ← doAluTraced opt s.opd₁ s.opd₂
    return do
      let res ← res
      match opt with
      | .jal | .jalr => return (s.writeGpr s.dec.rd (s.pc + s.dec.length)).setPc res
      | _ => return s.writeGpr s.dec.rd res

/-- **The traced evaluation computes `handle_alu`.** -/
theorem value_handleAluTraced (s : Model) : s.handleAluTraced.value = s.handleAlu := by
  unfold handleAluTraced handleAlu
  cases s.dec.opt.getAlu with
  | error => rfl
  | ok opt =>
    dsimp only [bind, Except.bind]
    rw [← value_doAluTraced]
    rfl

/-- The arithmetic of `handle_alu` is that of `do_alu`. -/
theorem defined_handleAluTraced_iff {s : Model} {f : Alu} (hopt : s.dec.opt = .alu f) :
    s.handleAluTraced.Defined ↔ (doAluTraced f s.opd₁ s.opd₂).Defined := by
  have hget : s.dec.opt.getAlu = .ok f := by rw [hopt]; rfl
  simp only [handleAluTraced, hget, defined_bind_iff]
  exact and_iff_left (defined_pure _)

omit [Platform] in
/-- What the decoder yields for `sll`, `srl` and `sra`: a shift of a register by a register. -/
structure IsRegisterShift (op : Op) (f : Alu) : Prop where
  opt : op.opt = .alu f
  shift : f.isShift = true
  hasImm : op.hasImm = false
  usePc : op.usePc = false

/-- **When a register shift uses the low five bits of its count**, in a shift that is defined:
exactly when the count register has no others, since `do_alu` shifts by all of them. -/
theorem handleAlu_shift_iff {e : Model} {f : Alu} (h : IsRegisterShift e.dec f) :
    ((∃ e', e.handleAlu = .ok e' ∧
      e'.regf = e.regf.write e.dec.rd (Rv32im.alu f (e.regf.read e.dec.rs1)
        (BitVec.ofNat 32 ((e.regf.read e.dec.rs2).toNat % 32)))) ∧
      e.handleAluTraced.Defined) ↔
    (e.regf.read e.dec.rs2).toNat < 32 := by
  have hopd₁ : e.opd₁ = e.regf.read e.dec.rs1 := by rw [opd₁, h.usePc]; rfl
  have hopd₂ : e.opd₂ = e.regf.read e.dec.rs2 := by rw [opd₂, h.hasImm]; rfl
  rw [defined_handleAluTraced_iff h.opt, defined_doAluTraced_shift_iff h.shift, hopd₂]
  refine ⟨And.right, fun hlt => ⟨?_, hlt⟩⟩
  have hnamed : f.isNamed := by
    have hshift := h.shift
    revert hshift
    cases f <;> simp [Alu.isShift, Alu.isNamed]
  have hjump : ¬ isJump f = true := by
    have hshift := h.shift
    revert hshift
    cases f <;> simp [Alu.isShift, isJump]
  have hv := doAlu_eq hnamed e.opd₁ e.opd₂ fun _ => by rwa [hopd₂]
  refine ⟨_, handleAlu_eq h.opt hv, ?_⟩
  rw [if_neg hjump, writeGpr_regf, hopd₁, hopd₂, Nat.mod_eq_of_lt hlt, BitVec.ofNat_toNat,
    BitVec.setWidth_eq]

end Model

end Traced

namespace Model

/-- `sll x1, x2, x3`. -/
def sll : Op :=
  { imm := 0, opt := .alu .sll, tgt := .alu, rd := 1, rs1 := 2, rs2 := 3, hasImm := false,
    usePc := false, isCompressed := false }

/-- The simulator about to execute `sll` with the count `v`. -/
def shifting (v : BitVec 32) : Model :=
  { single sll with
    curState := { (single sll).curState with dec := sll }
    regf := (RegFile.init.write 2 1).write 3 v }

/-- A shift by 31 is defined, and sets the highest bit. -/
theorem handleAlu_shift_31 :
    let _ : Platform := Platform.always sll
    IsRegisterShift (shifting 31).dec .sll ∧
      (∃ e', (shifting 31).handleAlu = .ok e' ∧
        e'.regf = (shifting 31).regf.write 1 0x80000000) ∧
      (shifting 31).handleAluTraced.Defined := by
  intro _
  have hshift : IsRegisterShift (shifting 31).dec .sll := ⟨rfl, rfl, rfl, rfl⟩
  exact ⟨hshift, (handleAlu_shift_iff hshift).mpr (by decide)⟩

/-- A shift by 32 is not defined in the code, where the instruction shifts by 0. -/
theorem not_handleAlu_shift_32 :
    let _ : Platform := Platform.always sll
    IsRegisterShift (shifting 32).dec .sll ∧
      ¬ ((∃ e', (shifting 32).handleAlu = .ok e' ∧
        e'.regf = (shifting 32).regf.write 1 (Rv32im.alu .sll 1 0)) ∧
        (shifting 32).handleAluTraced.Defined) := by
  intro _
  refine ⟨⟨rfl, rfl, rfl, rfl⟩, fun h => ?_⟩
  -- the one operation that it evaluates is the shift by the whole register
  have hundefined : ¬ (shifting 32).handleAluTraced.Defined := by decide
  exact hundefined h.2

end Model

/-- The product of 3 and -2 is defined. -/
theorem defined_doAluTraced_mul :
    let _ : Platform := Platform.always Op.empty
    (doAluTraced .mul 3 (-2)).Defined := by
  intro _
  have hfits : MulFits (3 : BitVec 32) (-2) := by decide
  exact (defined_doAluTraced_iff rfl 3 (-2)).mpr hfits

/-- Each multiplication but `mulhu` overflows: the square of `2 ^ 16`, and the negation of the least
integer. -/
theorem not_defined_doAluTraced :
    let _ : Platform := Platform.always Op.empty
    ¬ (doAluTraced .mul 0x10000 0x10000).Defined ∧
      ¬ (doAluTraced .mulh 0x80000000 1).Defined ∧
      ¬ (doAluTraced .mulhsu 0x80000000 1).Defined := by
  intro _
  exact ⟨by decide, by decide, by decide⟩

end Riscv32Sim
