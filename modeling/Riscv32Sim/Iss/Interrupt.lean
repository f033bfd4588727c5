import Riscv32Sim.Iss.Fault
import Riscv32Sim.Iss.Privilege

/-!
# Returning from a timer interrupt

`commit` takes the interrupt after it has installed the next pc, and `save_pc` saves the rounded
address after that one. `mret` returns to the saved address, so the program does not resume where
it was interrupted.

## Main definitions

* `Model.interrupted`, `Model.handler`: a program with a timer interrupt due, and its handler

## Main results

* `Model.pc_commit_mret`: where an interrupted program resumes
* `Model.pc_commit_mret_ne`: it is not the address of its next instruction
-/

namespace Riscv32Sim

namespace Model

section Interrupt

variable [Platform]

theorem savedPc_intTimerM (p : BitVec 32) :
    savedPc .intTimerM p = ((p &&& 0xFFFFFFFC#32) + 4) &&& 0xFFFFFFFC#32 := by
  have hnot : ¬ (TrapCause.intTimerM.isEcall = true ∨ TrapCause.intTimerM = .expBreakpoint) := by
    decide
  rw [savedPc, if_neg hnot, Platform.tvecBaseAddr_eq]

/-- The address that a timer interrupt saves is not that of the next instruction. -/
theorem savedPc_intTimerM_ne (p : BitVec 32) : savedPc .intTimerM p ≠ p := by
  have hp := p.isLt
  intro h
  have hn := congrArg BitVec.toNat h
  rw [toNat_savedPc (by decide)] at hn
  -- a multiple of 4, plus 4, is no address that rounds down to it
  omega

omit [Platform] in
/-- In machine mode the cause and the address of a trap are in `mcause` and `mepc`. -/
theorem privCsr_of_machine {s : Model} (hmode : s.mode.m = .machine) :
    s.mode.privCsr .ucause = Csr.mcause.toInt ∧ s.mode.privCsr .uepc = Csr.mepc.toInt := by
  rw [mode_eq_of_machine hmode]
  exact ⟨rfl, rfl⟩

/-- A timer interrupt in machine mode saves the rounded address of the instruction after the
next. -/
theorem mepc_commit_of_takesTimer {s : Model} (hmode : s.mode.m = .machine) (h : s.TakesTimer) :
    s.commit.csrf.read Csr.mepc.toInt = savedPc .intTimerM s.pcNext := by
  have hepc := (privCsr_of_machine (show s.updatePc.pushTimer.mode.m = _ from hmode)).2
  rw [csrf_commit_of_takesTimer h, ← hepc, read_trapCsrs_uepc]
  rfl

theorem mcause_commit_of_takesTimer {s : Model} (hmode : s.mode.m = .machine) (h : s.TakesTimer) :
    s.commit.csrf.read Csr.mcause.toInt = TrapCause.intTimerM.toInt := by
  have hcause := (privCsr_of_machine (show s.updatePc.pushTimer.mode.m = _ from hmode)).1
  rw [csrf_commit_of_takesTimer h, ← hcause, read_trapCsrs_ucause]

/-- The interrupted program resumes at the address that the interrupt saved, when `mepc` is the
saved one as the `mret` is executed. -/
theorem pc_commit_mret {s s₂ s₃ : Model} (hmode : s.mode.m = .machine) (htake : s.TakesTimer)
    (hmepc : s₂.entered.csrf.read Csr.mepc.toInt = s.commit.csrf.read Csr.mepc.toInt)
    (hmret : s₂.decoded.tgt = .mret) (hstep : s₂.step = .ok s₃) (hno : ¬ s₃.TakesTimer) :
    s₃.commit.pc = savedPc .intTimerM s.pcNext := by
  obtain rfl := Except.ok.inj ((step_of_mret hmret).symm.trans hstep)
  rw [pc_commit_of_not_takesTimer hno, pcNext, handleMret_pcNext, hmepc,
    mepc_commit_of_takesTimer hmode htake]

/-- **An interrupted program does not resume where it was.** When `commit` takes the timer
interrupt in machine mode, with `s.pcNext` the address of the next instruction, and the handler
leaves `mepc` alone and returns by `mret` with a `commit` that takes no interrupt, the pc is a
different one, for every address and every handler. -/
theorem pc_commit_mret_ne {s s₂ s₃ : Model} (hmode : s.mode.m = .machine) (htake : s.TakesTimer)
    (hmepc : s₂.entered.csrf.read Csr.mepc.toInt = s.commit.csrf.read Csr.mepc.toInt)
    (hmret : s₂.decoded.tgt = .mret) (hstep : s₂.step = .ok s₃) (hno : ¬ s₃.TakesTimer) :
    s₃.commit.pc ≠ s.pcNext := by
  rw [pc_commit_mret hmode htake hmepc hmret hstep hno]
  exact savedPc_intTimerM_ne s.pcNext

end Interrupt

/-- A memory in which the word at 0x1000 is greater than the one at 0x2000. -/
def overdue : AddressRouter :=
  .init ⟨fun key => if key = 0x1000 then some ⟨0, Vector.replicate 4096 1⟩ else none, 1⟩ 0x1000
    0x2000

/-- The simulator of one instruction with a timer interrupt due, enabled, and the interrupt
enable bit of `mstatus` set. -/
def interrupted (op : Op) : Model :=
  { single op with
    allowedPcs := [(0, 0xFFFFFFFF)]
    opts := ⟨0x1000, 0x2000, true⟩
    mem := overdue
    csrf := (CsrFile.init.write Csr.mie.toInt 0x80).write Csr.mstatus.toInt 0x8 }

section Overdue

variable [Platform]

theorem read8_overdue (a : BitVec 32) :
    overdue.page.read8 a = if a &&& SparseMemory.mask = 0x1000 then 1 else 0 := by
  unfold SparseMemory.read8 overdue AddressRouter.init
  dsimp only
  split_ifs <;> simp

theorem takesTimer_interrupted (op : Op) : (interrupted op).TakesTimer := by
  have hmie : (interrupted op).csrf.read Csr.mie.toInt = 0x80 :=
    (CsrFile.read_write_of_ne _ _ (by decide)).trans (CsrFile.read_write_self ..)
  have hmstatus : (interrupted op).csrf.read Csr.mstatus.toInt = 0x8 :=
    CsrFile.read_write_self ..
  refine ⟨⟨rfl, ?_⟩, by rw [hmie]; decide, by rw [hmstatus]; decide⟩
  change overdue.page.read64 0x2000 < overdue.page.read64 0x1000
  simp only [SparseMemory.read64, SparseMemory.read32, SparseMemory.read16, read8_overdue]
  decide

/-- The handler at its `mret`: it has disabled the timer interrupt. -/
def handler (s : Model) : Model := { s.commit with csrf := s.commit.csrf.write Csr.mie.toInt 0 }

omit [Platform] in
theorem isValidPc_of_allowedPcs_eq {s : Model} (h : s.allowedPcs = [(0, 0xFFFFFFFF)]) :
    s.isValidPc = true := by
  have hpc := s.pc.isLt
  rw [isValidPc, isAddressInitialized, h]
  simp only [List.any_cons, List.any_nil, Bool.or_false, Bool.and_eq_true, decide_eq_true_eq,
    BitVec.le_def, BitVec.toNat_setWidth]
  refine ⟨Nat.zero_le _, ?_⟩
  change s.pc.toNat % 2 ^ 64 ≤ 0xFFFFFFFF
  omega

theorem entered_handler_csrf (op : Op) :
    (handler (interrupted op)).entered.csrf =
      (interrupted op).commit.csrf.write Csr.mie.toInt 0 := by
  have hallowed : (handler (interrupted op)).allowedPcs = [(0, 0xFFFFFFFF)] :=
    commit_allowedPcs (interrupted op)
  exact entered_csrf_of_isValidPc (isValidPc_of_allowedPcs_eq hallowed)

/-- The handler leaves `mepc` alone, and its return takes no interrupt. -/
theorem handler_returns {op : Op} (hmret : (handler (interrupted op)).decoded.tgt = .mret) :
    (handler (interrupted op)).entered.csrf.read Csr.mepc.toInt =
      (interrupted op).commit.csrf.read Csr.mepc.toInt ∧
    ∃ s₃, (handler (interrupted op)).step = .ok s₃ ∧ ¬ s₃.TakesTimer := by
  have hent := entered_handler_csrf op
  refine ⟨?_, _, step_of_mret hmret, fun h => ?_⟩
  · rw [hent, CsrFile.read_write_of_ne _ _ (by decide)]
  · -- `mret` enables interrupts again, but the timer interrupt is off in `mie`
    have hmie := h.2.1
    rw [handleMret_csrf, CsrFile.read_write_of_ne _ _ (by decide), hent,
      CsrFile.read_write_self] at hmie
    exact absurd hmie (by decide)

end Overdue

/-- The theorem at a program interrupted at address 0. -/
theorem pc_commit_mret_ne_interrupted :
    let _ : Platform := Platform.always mret
    (interrupted mret).TakesTimer ∧
    ∃ s₃, (handler (interrupted mret)).step = .ok s₃ ∧ ¬ s₃.TakesTimer ∧
      s₃.commit.pc ≠ (interrupted mret).pcNext := by
  intro _
  have hmret : (handler (interrupted mret)).decoded.tgt = .mret :=
    congrArg Op.tgt (decoded_always mret _)
  obtain ⟨hmepc, s₃, hstep, hno⟩ := handler_returns hmret
  have htake := takesTimer_interrupted mret
  exact ⟨htake, s₃, hstep, hno, pc_commit_mret_ne rfl htake hmepc hmret hstep hno⟩

/-- Interrupted at address 0, the program resumes at address 4. -/
theorem pc_commit_mret_interrupted :
    let _ : Platform := Platform.always mret
    (interrupted mret).mode.m = .machine ∧ (interrupted mret).TakesTimer ∧
    (interrupted mret).pcNext = 0 ∧
    ∃ s₃, (handler (interrupted mret)).step = .ok s₃ ∧ ¬ s₃.TakesTimer ∧ s₃.commit.pc = 4 := by
  intro _
  have hmret : (handler (interrupted mret)).decoded.tgt = .mret :=
    congrArg Op.tgt (decoded_always mret _)
  obtain ⟨hmepc, s₃, hstep, hno⟩ := handler_returns hmret
  have htake := takesTimer_interrupted mret
  refine ⟨rfl, htake, rfl, s₃, hstep, hno, ?_⟩
  rw [pc_commit_mret rfl htake hmepc hmret hstep hno, savedPc_intTimerM]
  rfl

end Model

end Riscv32Sim
