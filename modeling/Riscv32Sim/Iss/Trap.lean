import Riscv32Sim.Iss.Model

/-!
# What a trap does

One lemma for each component of the state that `trap`, `handle_mret` and `commit` write or leave
alone. The proofs about traps use these lemmas and do not unfold the functions.

## Main definitions

* `Model.savedPc`: the address a trap saves
* `Model.handlerEntry`: the base of the trap handler of the current mode
* `Model.trapCsrs`: the CSR file after an exception
* `Model.TimerDue`, `Model.TakesTimer`: when `commit` marks, and when it takes, a timer interrupt

## Main results

* `Model.enterTrap_csrf`, `Model.enterTrap_pcNext`: what a trap writes
* `Model.commit_eq`: the cases of `commit`
-/

namespace Riscv32Sim

/-- The causes of `ecall`. -/
def TrapCause.isEcall : TrapCause → Bool
  | .expEcallFromHsMode | .expEcallFromMMode | .expEcallFromVsMode | .expEcallFromUVuMode => true
  | _ => false

variable [Platform]

namespace Model

/-! ## Entering a handler -/

/-- The address that `save_pc` saves. -/
def savedPc (cause : TrapCause) (pc : BitVec 32) : BitVec 32 :=
  if cause.isEcall ∨ cause = .expBreakpoint then pc &&& tvecBaseAddr
  else ((pc &&& tvecBaseAddr) + 4) &&& tvecBaseAddr

/-- Clearing the mode bits of `mtvec` rounds down to a multiple of four. -/
theorem toNat_and_tvecBaseAddr (p : BitVec 32) :
    (p &&& tvecBaseAddr).toNat = p.toNat / 4 * 4 := by
  have hmask : tvecBaseAddr = BitVec.allOnes 32 <<< 2 := Platform.tvecBaseAddr_eq
  rw [hmask, toNat_and_allOnes_shiftLeft]
  rfl

/-- Every trap but those of `ecall` and `ebreak` saves the multiple of four after the pc. -/
theorem toNat_savedPc {cause : TrapCause} (h : ¬ (cause.isEcall = true ∨ cause = .expBreakpoint))
    (p : BitVec 32) : (savedPc cause p).toNat = (p.toNat / 4 * 4 + 4) % 2 ^ 32 := by
  have hp := p.isLt
  have hadd : ((p &&& tvecBaseAddr) + 4).toNat = (p.toNat / 4 * 4 + 4) % 2 ^ 32 := by
    rw [BitVec.toNat_add, toNat_and_tvecBaseAddr]
    rfl
  -- the sum is a multiple of four again, also where it wraps
  rw [savedPc, if_neg h, toNat_and_tvecBaseAddr, hadd]
  omega

/-- The base of the trap handler of the current mode. -/
def handlerEntry (s : Model) : BitVec 32 :=
  s.csrf.read (s.mode.privCsr .utvec) &&& tvecBaseAddr

omit [Platform] in
/-- An `ecall` with the number of the exit call. -/
def Exits (s : Model) (cause : TrapCause) : Prop := cause.isEcall = true ∧ s.regf.read 17 = 93

omit [Platform] in
instance (s : Model) (cause : TrapCause) : Decidable (s.Exits cause) :=
  inferInstanceAs (Decidable (_ ∧ _))

/-- The memory after a trap: the exit call stores its argument at `tohost`. -/
def trapMem (s : Model) (cause : TrapCause) : AddressRouter :=
  if s.Exits cause then s.mem.write32 s.tohostAddr (s.regf.read 10) else s.mem

/-- The CSR file after an exception. -/
def trapCsrs (s : Model) (cause : TrapCause) : CsrFile :=
  ((s.csrf.write (s.mode.privCsr .ucause) cause.toInt).write (s.mode.privCsr .utval) 0).write
    (s.mode.privCsr .uepc) (savedPc cause s.pc)

theorem trapMem_of_not_isEcall (s : Model) {cause : TrapCause} (h : cause.isEcall = false) :
    s.trapMem cause = s.mem :=
  if_neg fun hex => Bool.false_ne_true (h.symm.trans hex.1)

section HandleSysExit

variable (s : Model)

@[simp] theorem handleSysExit_curState : s.handleSysExit.curState = s.curState := by
  unfold handleSysExit; split_ifs <;> rfl

@[simp] theorem handleSysExit_allowedPcs : s.handleSysExit.allowedPcs = s.allowedPcs := by
  unfold handleSysExit; split_ifs <;> rfl

@[simp] theorem handleSysExit_opts : s.handleSysExit.opts = s.opts := by
  unfold handleSysExit; split_ifs <;> rfl

@[simp] theorem handleSysExit_tohostAddr : s.handleSysExit.tohostAddr = s.tohostAddr := by
  unfold handleSysExit; split_ifs <;> rfl

@[simp] theorem handleSysExit_mode : s.handleSysExit.mode = s.mode := by
  unfold handleSysExit; split_ifs <;> rfl

@[simp] theorem handleSysExit_regf : s.handleSysExit.regf = s.regf := by
  unfold handleSysExit; split_ifs <;> rfl

@[simp] theorem handleSysExit_csrf : s.handleSysExit.csrf = s.csrf := by
  unfold handleSysExit; split_ifs <;> rfl

end HandleSysExit

/-- `save_pc` writes the saved address, and an `ecall` then checks for the exit call. -/
theorem savePc_eq (s : Model) (cause : TrapCause) :
    s.savePc cause =
      if cause.isEcall then
        (s.writeCsr (s.mode.privCsr .uepc) (savedPc cause s.pc)).handleSysExit
      else s.writeCsr (s.mode.privCsr .uepc) (savedPc cause s.pc) := by
  cases cause <;> rfl

section EnterTrap

variable (s : Model) (cause : TrapCause) (vector : BitVec 32)

@[simp] theorem enterTrap_allowedPcs : (s.enterTrap cause vector).allowedPcs = s.allowedPcs := by
  rw [enterTrap, savePc_eq]; split_ifs <;> simp

@[simp] theorem enterTrap_opts : (s.enterTrap cause vector).opts = s.opts := by
  rw [enterTrap, savePc_eq]; split_ifs <;> simp

@[simp] theorem enterTrap_tohostAddr : (s.enterTrap cause vector).tohostAddr = s.tohostAddr := by
  rw [enterTrap, savePc_eq]; split_ifs <;> simp

@[simp] theorem enterTrap_mode : (s.enterTrap cause vector).mode = s.mode := by
  rw [enterTrap, savePc_eq]; split_ifs <;> simp

@[simp] theorem enterTrap_regf : (s.enterTrap cause vector).regf = s.regf := by
  rw [enterTrap, savePc_eq]; split_ifs <;> simp

@[simp] theorem enterTrap_dec : (s.enterTrap cause vector).curState.dec = s.curState.dec := by
  rw [enterTrap, savePc_eq]; split_ifs <;> simp

@[simp] theorem enterTrap_pc : (s.enterTrap cause vector).curState.pc.pc = s.curState.pc.pc := by
  rw [enterTrap, savePc_eq]; split_ifs <;> simp

@[simp] theorem enterTrap_gprStaged :
    (s.enterTrap cause vector).curState.gprStaged = s.curState.gprStaged := by
  rw [enterTrap, savePc_eq]; split_ifs <;> simp

/-- A trap stages the entry of the handler. -/
@[simp] theorem enterTrap_pcNext :
    (s.enterTrap cause vector).curState.pc.pcNext = s.handlerEntry + vector := by
  -- the cause and the value are written before the vector is read
  have hcause : s.mode.privCsr .utvec ≠ s.mode.privCsr .ucause :=
    s.mode.privCsr_ne rfl rfl (by decide)
  have htval : s.mode.privCsr .utvec ≠ s.mode.privCsr .utval :=
    s.mode.privCsr_ne rfl rfl (by decide)
  rw [enterTrap, savePc_eq]
  split_ifs <;>
    simp [handlerEntry, CsrFile.read_write_of_ne _ _ hcause, CsrFile.read_write_of_ne _ _ htval]

/-- A trap writes the cause, the value and the saved address of its mode. -/
@[simp] theorem enterTrap_csrf : (s.enterTrap cause vector).csrf = s.trapCsrs cause := by
  rw [enterTrap, savePc_eq]
  split_ifs <;> simp [trapCsrs, pc]

@[simp] theorem enterTrap_mem : (s.enterTrap cause vector).mem = s.trapMem cause := by
  rw [enterTrap, savePc_eq]
  unfold trapMem Exits handleSysExit
  split_ifs <;> simp_all

@[simp] theorem enterTrap_isDone :
    (s.enterTrap cause vector).isDone = (s.isDone || decide (s.Exits cause)) := by
  rw [enterTrap, savePc_eq]
  unfold Exits handleSysExit
  split_ifs <;> simp_all

end EnterTrap

/-! ## The CSR file after an exception -/

section TrapCsrs

variable (s : Model) (cause : TrapCause)

@[simp] theorem read_trapCsrs_uepc :
    (s.trapCsrs cause).read (s.mode.privCsr .uepc) = savedPc cause s.pc :=
  CsrFile.read_write_self ..

@[simp] theorem read_trapCsrs_ucause :
    (s.trapCsrs cause).read (s.mode.privCsr .ucause) = cause.toInt := by
  rw [trapCsrs, CsrFile.read_write_of_ne _ _ (s.mode.privCsr_ne rfl rfl (by decide)),
    CsrFile.read_write_of_ne _ _ (s.mode.privCsr_ne rfl rfl (by decide)), CsrFile.read_write_self]

@[simp] theorem read_trapCsrs_utval :
    (s.trapCsrs cause).read (s.mode.privCsr .utval) = 0 := by
  rw [trapCsrs, CsrFile.read_write_of_ne _ _ (s.mode.privCsr_ne rfl rfl (by decide)),
    CsrFile.read_write_self]

variable {s}

/-- The other registers keep their value. -/
theorem read_trapCsrs_of_ne {a : CsrAddr} (hcause : a ≠ s.mode.privCsr .ucause)
    (htval : a ≠ s.mode.privCsr .utval) (hepc : a ≠ s.mode.privCsr .uepc) :
    (s.trapCsrs cause).read a = s.csrf.read a := by
  rw [trapCsrs, CsrFile.read_write_of_ne _ _ hepc, CsrFile.read_write_of_ne _ _ htval,
    CsrFile.read_write_of_ne _ _ hcause]

variable (s)

/-- A register that is a trap register in no mode keeps its value in every mode. -/
theorem read_trapCsrs_of_low {a : CsrAddr}
    (h : ∀ c ∈ [Csr.ucause, .utval, .uepc], a &&& 0xFF ≠ c.toInt &&& 0xFF) :
    (s.trapCsrs cause).read a = s.csrf.read a := by
  apply read_trapCsrs_of_ne
  · exact s.mode.ne_privCsr (h .ucause (by simp))
  · exact s.mode.ne_privCsr (h .utval (by simp))
  · exact s.mode.ne_privCsr (h .uepc (by simp))

/-- In every mode, a trap leaves the status and the enable bits alone. -/
theorem read_trapCsrs_of_enable {c : Csr} (hc : c = .mstatus ∨ c = .mie) :
    (s.trapCsrs cause).read c.toInt = s.csrf.read c.toInt := by
  apply read_trapCsrs_of_low
  rcases hc with rfl | rfl <;> decide

end TrapCsrs

/-! ## Exceptions -/

theorem isInterrupt_eq (cause : TrapCause) :
    cause.isInterrupt = (cause.toInt &&& 0x80000000#32 != 0) := by
  rw [TrapCause.isInterrupt, Platform.signBit_eq]

/-- The exceptions that `step` raises. -/
inductive IsException : TrapCause → Prop
  | accessFault : IsException .expInstAccessFault
  | illegal : IsException .expInstIllegal
  | breakpoint : IsException .expBreakpoint
  | ecall {cause : TrapCause} (h : cause.isEcall = true) : IsException cause

/-- An exception enters the handler at its base. -/
theorem trap_of_isException {cause : TrapCause} (h : IsException cause) (s : Model) :
    s.trap cause = s.enterTrap cause 0 := by
  have hint : cause.isInterrupt = false := by
    rw [isInterrupt_eq]
    cases h with
    | accessFault | illegal | breakpoint => rfl
    | ecall h => cases cause <;> first | rfl | exact absurd h (by decide)
  rw [trap, hint]
  rfl

omit [Platform] in
theorem isEcall_ecallCause (s : Model) : s.ecallCause.isEcall = true := by
  unfold ecallCause
  cases s.mode.m <;> rfl

omit [Platform] in
theorem isException_ecallCause (s : Model) : IsException s.ecallCause :=
  .ecall s.isEcall_ecallCause

/-! ## Returning from a handler -/

omit [Platform] in
/-- The status that `mret` pops. -/
def popStatus (mstatus : BitVec 32) : BitVec 32 :=
  Status.set (Status.set (Status.set (Status.set mstatus Status.mie (mstatus.getLsbD Status.mpie))
    Status.mpie true) Status.mpp true) (Status.mpp + 1) true

omit [Platform] in
/-- The mode that `mret` returns to. -/
def previousMode (mstatus : BitVec 32) : Privilege :=
  Privilege.ofBits (mstatus.getLsbD (Status.mpp + 1)) (mstatus.getLsbD Status.mpp)

section HandleMret

omit [Platform]

variable (s : Model)

@[simp] theorem handleMret_mode :
    s.handleMret.mode = .ofMode (previousMode (s.csrf.read Csr.mstatus.toInt)) := rfl

@[simp] theorem handleMret_csrf : s.handleMret.csrf =
    s.csrf.write Csr.mstatus.toInt (popStatus (s.csrf.read Csr.mstatus.toInt)) := rfl

/-- `mret` stages the saved pc. -/
@[simp] theorem handleMret_pcNext :
    s.handleMret.curState.pc.pcNext = s.csrf.read Csr.mepc.toInt :=
  s.csrf.read_write_of_ne (popStatus (s.csrf.read Csr.mstatus.toInt))
    (show Csr.mepc.toInt ≠ Csr.mstatus.toInt by decide)

end HandleMret

omit [Platform] in
theorem getLsbD_popStatus (mstatus : BitVec 32) (i : ℕ) :
    (popStatus mstatus).getLsbD i =
      if i = Status.mie then mstatus.getLsbD Status.mpie
      else if i = Status.mpie ∨ i = Status.mpp ∨ i = Status.mpp + 1 then true
      else mstatus.getLsbD i := by
  unfold popStatus
  rw [Status.getLsbD_set _ _ _ _ (by decide), Status.getLsbD_set _ _ _ _ (by decide),
    Status.getLsbD_set _ _ _ _ (by decide), Status.getLsbD_set _ _ _ _ (by decide)]
  -- the four bits are different, so the order of the assignments does not matter
  have hmie : Status.mie = 3 := rfl
  have hmpie : Status.mpie = 7 := rfl
  have hmpp : Status.mpp = 11 := rfl
  split_ifs <;> first | rfl | omega

/-! ## The timer -/

/-- `commit` marks a timer interrupt as pending. -/
def TimerDue (s : Model) : Prop :=
  s.opts.mtiEnabled = true ∧ s.mem.read64 s.opts.mtimecmp < s.mem.read64 s.opts.mtime

/-- `commit` takes the timer interrupt. -/
def TakesTimer (s : Model) : Prop :=
  s.TimerDue ∧ (s.csrf.read Csr.mie.toInt).getLsbD 7 = true ∧
    (s.csrf.read Csr.mstatus.toInt).getLsbD Status.mie = true

instance (s : Model) : Decidable s.TimerDue := inferInstanceAs (Decidable (_ ∧ _))

instance (s : Model) : Decidable s.TakesTimer := inferInstanceAs (Decidable (_ ∧ _ ∧ _))

theorem not_takesTimer_of_mtiEnabled {s : Model} (h : s.opts.mtiEnabled = false) :
    ¬ s.TakesTimer :=
  fun htake => Bool.false_ne_true (h.symm.trans htake.1.1)

theorem toNat_code_intTimerM : TrapCause.intTimerM.code.toNat = 7 := by
  rw [TrapCause.code, Platform.msbZero_eq]
  rfl

/-- Whether a pending timer interrupt is taken depends on the two enable bits. -/
theorem takes_setPending (s : Model) :
    (s.setPending .intTimerM).takes .intTimerM =
      ((s.csrf.read Csr.mie.toInt).getLsbD 7 &&
        (s.csrf.read Csr.mstatus.toInt).getLsbD Status.mie) := by
  have hmie : Csr.mie.toInt ≠ Csr.mip.toInt := by decide
  have hmstatus : Csr.mstatus.toInt ≠ Csr.mip.toInt := by decide
  simp only [takes, setPending, writeCsr_csrf, toNat_code_intTimerM, CsrFile.read_write_self,
    CsrFile.read_write_of_ne _ _ hmie, CsrFile.read_write_of_ne _ _ hmstatus,
    Status.getLsbD_set _ 7 7 true (by decide), if_true, Bool.and_true]

/-- The part of a timer interrupt before it enters the handler: it marks the request, withdraws
it and pushes the status. -/
@[simps! curState_pc allowedPcs opts tohostAddr mem mode regf isDone]
def pushTimer (s : Model) : Model :=
  let s := s.setPending .intTimerM
  let mip := s.csrf.read Csr.mip.toInt
  (s.writeCsr Csr.mip.toInt (Status.set mip 7 false)).writeCsr Csr.mstatus.toInt
    (pushStatus (s.csrf.read Csr.mstatus.toInt))

section Commit

variable (s : Model)

/-- The three cases of `interrupt_pending`. -/
theorem interruptPending_eq :
    s.interruptPending =
      if s.TakesTimer then
        (s.pushTimer.enterTrap .intTimerM (TrapCause.intTimerM.code * 4)).updatePc
      else if s.TimerDue then s.setPending .intTimerM
      else s := by
  have hint : TrapCause.intTimerM.isInterrupt = true := by rw [isInterrupt_eq]; rfl
  change (if s.TimerDue then (s.setPending .intTimerM).trap .intTimerM else s) = _
  by_cases hdue : s.TimerDue
  -- a request that is not taken stays pending
  · rw [if_pos hdue, if_pos hdue, trap, if_pos hint, takes_setPending]
    by_cases htake : s.TakesTimer
    · rw [if_pos htake, if_pos (Bool.and_eq_true_iff.mpr htake.2), toNat_code_intTimerM]
      rfl
    · rw [if_neg htake, if_neg fun h => htake ⟨hdue, Bool.and_eq_true_iff.mp h⟩]
  · rw [if_neg hdue, if_neg hdue, if_neg fun h => hdue h.1]

/-- The three cases of `commit`. -/
theorem commit_eq :
    s.commit =
      (if s.TakesTimer then
        (s.updatePc.pushTimer.enterTrap .intTimerM (TrapCause.intTimerM.code * 4)).updatePc
      else if s.TimerDue then s.updatePc.setPending .intTimerM
      else s.updatePc).clearStaged := by
  rw [commit, interruptPending_eq]
  rfl

/-- Only the request and the status change before the handler is entered. -/
theorem read_pushTimer_csrf_of_ne {a : CsrAddr} (hmip : a ≠ Csr.mip.toInt)
    (hmstatus : a ≠ Csr.mstatus.toInt) : s.pushTimer.csrf.read a = s.csrf.read a := by
  simp only [pushTimer, setPending, writeCsr_csrf, CsrFile.read_write_of_ne _ _ hmip,
    CsrFile.read_write_of_ne _ _ hmstatus]

@[simp] theorem commit_regf : s.commit.regf = s.regf := by
  rw [commit_eq]; split_ifs <;> simp

@[simp] theorem commit_mem : s.commit.mem = s.mem := by
  have hmem := s.updatePc.pushTimer.trapMem_of_not_isEcall
    (show TrapCause.intTimerM.isEcall = _ from rfl)
  rw [commit_eq]; split_ifs <;> simp [hmem]

@[simp] theorem commit_mode : s.commit.mode = s.mode := by
  rw [commit_eq]; split_ifs <;> simp

@[simp] theorem commit_isDone : s.commit.isDone = s.isDone := by
  rw [commit_eq]; split_ifs <;> simp [Exits, TrapCause.isEcall]

@[simp] theorem commit_opts : s.commit.opts = s.opts := by
  rw [commit_eq]; split_ifs <;> simp

@[simp] theorem commit_tohostAddr : s.commit.tohostAddr = s.tohostAddr := by
  rw [commit_eq]; split_ifs <;> simp

@[simp] theorem commit_allowedPcs : s.commit.allowedPcs = s.allowedPcs := by
  rw [commit_eq]; split_ifs <;> simp

variable {s}

/-- Without an interrupt, `commit` installs the staged pc. -/
theorem pc_commit_of_not_takesTimer (h : ¬ s.TakesTimer) : s.commit.pc = s.pcNext := by
  rw [commit_eq, if_neg h]; split_ifs <;> simp [pc]

/-- Without an interrupt, `commit` writes `mip` only. -/
theorem read_commit_of_not_takesTimer (h : ¬ s.TakesTimer) {a : CsrAddr}
    (ha : a ≠ Csr.mip.toInt) : s.commit.csrf.read a = s.csrf.read a := by
  rw [commit_eq, if_neg h]
  split_ifs
  · simp only [clearStaged_csrf, setPending, writeCsr_csrf, updatePc_csrf,
      CsrFile.read_write_of_ne _ _ ha]
  · rfl

/-- With an interrupt, `commit` installs the entry of the handler. -/
theorem pc_commit_of_takesTimer (h : s.TakesTimer) :
    s.commit.pc = s.updatePc.pushTimer.handlerEntry + TrapCause.intTimerM.code * 4 := by
  rw [commit_eq, if_pos h]
  exact enterTrap_pcNext ..

/-- With an interrupt, `commit` writes the trap registers of the mode over the pushed status. -/
theorem csrf_commit_of_takesTimer (h : s.TakesTimer) :
    s.commit.csrf = s.updatePc.pushTimer.trapCsrs .intTimerM := by
  rw [commit_eq, if_pos h]
  simp

end Commit

end Model

end Riscv32Sim
