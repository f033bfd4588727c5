import Riscv32Sim.Iss.Interrupt

/-!
# Exceptions and their return

An exception pushes nothing onto `mstatus`, which `mret` pops all the same. It leaves interrupts
enabled too, so that `commit` may take a timer interrupt before the first instruction of the
handler, over the cause and the address that the exception saved.

## Main definitions

* `Model.Raises`: the exception that an instruction raises itself
* `Model.Restored`: an exception and the return from it have restored the status
* `Model.Kept`: an exception survives the following `commit`
* `Model.Undisturbed`: an instruction leaves the access fault that precedes it alone

## Main results

* `Model.restored_iff`: when an exception and its return restore the status
* `Model.kept_iff`: when an exception survives a simultaneous interrupt
-/

namespace Riscv32Sim

namespace Model

section Exception

variable [Platform]

/-- The exception that the instruction at the pc raises itself. -/
inductive Raises (s : Model) : TrapCause → Prop
  | illegal (htgt : s.decoded.tgt = .illegal) : Raises s .expInstIllegal
  | denied (sys : Sys) (htgt : s.decoded.tgt = .csr) (hopt : s.decoded.opt = .sys sys)
    (himm : s.decoded.imm.toNat < 4096) (hdenied : s.fetched.CsrDenied sys) :
    Raises s .expInstIllegal
  | ebreak (htgt : s.decoded.tgt = .ebreak) : Raises s .expBreakpoint
  | ecall (htgt : s.decoded.tgt = .ecall) : Raises s s.ecallCause

theorem csrDenied_entered_iff (s : Model) (sys : Sys) :
    s.entered.CsrDenied sys ↔ s.fetched.CsrDenied sys := by
  simp only [CsrDenied, dec, entered_dec, entered_mode, fetched_curState_dec, fetched_mode]

/-- The exception is the last thing that the step does. -/
theorem step_of_raises {s : Model} {cause : TrapCause} (h : Raises s cause) :
    s.step = .ok (s.entered.enterTrap cause 0) := by
  have hdec : s.entered.dec = s.decoded := s.entered_dec
  rw [step_eq]
  cases h with
  | illegal htgt => exact exec_illegal (hdec ▸ htgt)
  | denied sys htgt hopt himm hdenied =>
    rw [exec_csr (hdec ▸ htgt) (hdec ▸ hopt) (hdec ▸ himm),
      if_pos ((s.csrDenied_entered_iff sys).mpr hdenied)]
  | ebreak htgt => exact exec_ebreak (hdec ▸ htgt)
  | ecall htgt =>
    have hcause : s.entered.ecallCause = s.ecallCause := by rw [ecallCause, entered_mode, ecallCause]
    rw [exec_ecall (hdec ▸ htgt), hcause]

theorem handlerEntry_entered {s : Model} (hmode : s.mode.m = .machine) :
    s.entered.handlerEntry = s.csrf.read Csr.mtvec.toInt &&& tvecBaseAddr := by
  rw [handlerEntry_of_machine (s.entered_mode ▸ hmode), read_entered_of_low]
  decide

/-! ## The status after the return -/

/-- After the return from the exception taken in `s`, the interrupt enable bit has its value from
before, the mode is machine, and no bit has changed that `mret` does not manage. -/
structure Restored (s s₃ : Model) : Prop where
  mie : (s₃.csrf.read Csr.mstatus.toInt).getLsbD Status.mie =
    (s.csrf.read Csr.mstatus.toInt).getLsbD Status.mie
  mode : s₃.mode.m = .machine
  other : ∀ i, i ≠ Status.mie → i ≠ Status.mpie → i ≠ Status.mpp → i ≠ Status.mpp + 1 →
    (s₃.csrf.read Csr.mstatus.toInt).getLsbD i = (s.csrf.read Csr.mstatus.toInt).getLsbD i

theorem read_mstatus_entered_enterTrap (s : Model) (cause : TrapCause) (vector : BitVec 32) :
    (s.entered.enterTrap cause vector).csrf.read Csr.mstatus.toInt =
      s.csrf.read Csr.mstatus.toInt := by
  rw [enterTrap_csrf, read_trapCsrs_of_enable _ _ (Or.inl rfl),
    read_entered_of_enable _ (Or.inl rfl)]

omit [Platform] in
/-- `mret` pops what was never pushed. -/
theorem restored_handleMret_iff {s e : Model}
    (h : e.csrf.read Csr.mstatus.toInt = s.csrf.read Csr.mstatus.toInt) :
    Restored s e.handleMret ↔
      (s.csrf.read Csr.mstatus.toInt).getLsbD Status.mpie =
        (s.csrf.read Csr.mstatus.toInt).getLsbD Status.mie ∧
      previousMode (s.csrf.read Csr.mstatus.toInt) = .machine := by
  have hread : e.handleMret.csrf.read Csr.mstatus.toInt =
      popStatus (s.csrf.read Csr.mstatus.toInt) := by
    rw [handleMret_csrf, CsrFile.read_write_self, h]
  have hmode : e.handleMret.mode.m = previousMode (s.csrf.read Csr.mstatus.toInt) := by
    rw [handleMret_mode, h]
    rfl
  constructor
  · intro hres
    have hmie := hres.mie
    rw [hread, getLsbD_popStatus, if_pos rfl] at hmie
    exact ⟨hmie, hmode.symm.trans hres.mode⟩
  · rintro ⟨hmie, hprev⟩
    refine ⟨?_, hmode.trans hprev, fun i h₁ h₂ h₃ h₄ => ?_⟩
    · rw [hread, getLsbD_popStatus, if_pos rfl, hmie]
    · -- the other bits are not popped
      have hnot : ¬ (i = Status.mpie ∨ i = Status.mpp ∨ i = Status.mpp + 1) := by tauto
      rw [hread, getLsbD_popStatus, if_neg h₁, if_neg hnot]

/-- **When an exception and its return restore the status**: exactly when `mstatus` happened to
hold, before the exception, what the exception should have pushed. -/
theorem restored_iff {s : Model} {cause : TrapCause} (h : Raises s cause) :
    ∃ s₁, s.step = .ok s₁ ∧
      ∀ s₂ : Model, s₂.csrf.read Csr.mstatus.toInt = s₁.csrf.read Csr.mstatus.toInt →
        s₂.decoded.tgt = .mret →
        ∃ s₃, s₂.step = .ok s₃ ∧
          (Restored s s₃ ↔
            (s.csrf.read Csr.mstatus.toInt).getLsbD Status.mpie =
              (s.csrf.read Csr.mstatus.toInt).getLsbD Status.mie ∧
            previousMode (s.csrf.read Csr.mstatus.toInt) = .machine) := by
  refine ⟨_, step_of_raises h, fun s₂ hkept hmret => ⟨_, step_of_mret hmret, ?_⟩⟩
  -- the handler returns with the status from before the exception
  apply restored_handleMret_iff
  rw [read_entered_of_enable _ (Or.inl rfl), hkept, read_mstatus_entered_enterTrap]

end Exception

/-- The decoder of a program in which the word 0 is illegal and every other word is `mret`. -/
@[reducible] def trapping : Platform :=
  Platform.ofDecoder (fun _ => mret) fun x => if x = 0 then Op.empty else mret

/-- The program at an illegal instruction, with an `mret` as its handler. -/
def excepting (mstatus : BitVec 32) : Model :=
  { single Op.empty with
    allowedPcs := [(0, 0xFFFFFFFF)]
    mem := overdue
    csrf := (CsrFile.init.write Csr.mtvec.toInt 0x1000).write Csr.mstatus.toInt mstatus }

theorem decoded_excepting (mstatus : BitVec 32) :
    @Model.decoded trapping (excepting mstatus) = Op.empty := by
  let _ : Platform := trapping
  have hword : (excepting mstatus).mem.read32 (excepting mstatus).pc = 0 := by
    change overdue.page.read32 0 = 0
    simp only [SparseMemory.read32, SparseMemory.read16, read8_overdue]
    decide
  rw [decoded, hword]
  rfl

theorem raises_excepting (mstatus : BitVec 32) :
    @Raises trapping (excepting mstatus) .expInstIllegal :=
  @Raises.illegal trapping _ (congrArg Op.tgt (decoded_excepting mstatus))

/-- The illegal instruction is followed by the `mret`, and no interrupt is taken in between. -/
theorem commit_excepting {mstatus : BitVec 32} {s₁ : Model}
    (h : @Model.step trapping (excepting mstatus) = .ok s₁) :
    let _ : Platform := trapping
    s₁.commit.csrf.read Csr.mstatus.toInt = s₁.csrf.read Csr.mstatus.toInt ∧
    s₁.commit.decoded.tgt = .mret := by
  intro _
  obtain rfl := Except.ok.inj ((step_of_raises (raises_excepting mstatus)).symm.trans h)
  have hopts : ((excepting mstatus).entered.enterTrap .expInstIllegal 0).opts =
      (excepting mstatus).opts := by
    rw [enterTrap_opts, entered_opts]
  have hno : ¬ ((excepting mstatus).entered.enterTrap .expInstIllegal 0).TakesTimer := by
    intro htake
    have hmti := htake.1.1
    rw [hopts] at hmti
    exact absurd hmti Bool.false_ne_true
  refine ⟨read_commit_of_not_takesTimer hno (by decide), ?_⟩
  have hpc : ((excepting mstatus).entered.enterTrap .expInstIllegal 0).commit.pc = 0x1000 := by
    have hmtvec : (excepting mstatus).csrf.read Csr.mtvec.toInt = 0x1000 :=
      (CsrFile.read_write_of_ne _ _ (by decide)).trans (CsrFile.read_write_self ..)
    rw [pc_commit_of_not_takesTimer hno, pcNext, enterTrap_pcNext, handlerEntry_entered rfl, hmtvec,
      Platform.tvecBaseAddr_eq]
    rfl
  have hmem : ((excepting mstatus).entered.enterTrap .expInstIllegal 0).commit.mem = overdue := by
    rw [commit_mem, enterTrap_mem, trapMem_of_not_isEcall _ rfl, entered_mem]
    rfl
  have hword : overdue.read32 0x1000 = 0x01010101 := by
    change overdue.page.read32 0x1000 = 0x01010101
    simp only [SparseMemory.read32, SparseMemory.read16, read8_overdue]
    decide
  rw [decoded, hmem, hpc, hword]
  rfl

/-- With `mstatus` in the state that `mret` leaves it in, the exception restores it. -/
theorem restored_excepting :
    let _ : Platform := trapping
    ∃ s₁ s₃, (excepting 0x1888).step = .ok s₁ ∧ s₁.commit.step = .ok s₃ ∧
      Restored (excepting 0x1888) s₃ := by
  intro _
  obtain ⟨s₁, hs₁, hreturn⟩ := restored_iff (raises_excepting 0x1888)
  obtain ⟨hkept, hmret⟩ := commit_excepting hs₁
  obtain ⟨s₃, hs₃, hiff⟩ := hreturn s₁.commit hkept hmret
  exact ⟨s₁, s₃, hs₁, hs₃, hiff.mpr (by decide)⟩

/-- With interrupts enabled and nothing pushed, it does not. -/
theorem not_restored_excepting :
    let _ : Platform := trapping
    (excepting 0x8).mode.m = .machine ∧ Raises (excepting 0x8) .expInstIllegal ∧
    ∃ s₁ s₃, (excepting 0x8).step = .ok s₁ ∧
      s₁.commit.csrf.read Csr.mstatus.toInt = s₁.csrf.read Csr.mstatus.toInt ∧
      s₁.commit.decoded.tgt = .mret ∧ s₁.commit.step = .ok s₃ ∧
      ¬ Restored (excepting 0x8) s₃ := by
  intro _
  have hraises := raises_excepting 0x8
  obtain ⟨hkept, hmret⟩ := commit_excepting (step_of_raises hraises)
  refine ⟨rfl, hraises, _, _, step_of_raises hraises, hkept, hmret, step_of_mret hmret, fun h => ?_⟩
  rw [restored_handleMret_iff] at h
  · exact absurd h.1 (by decide)
  · rw [read_entered_of_enable _ (Or.inl rfl), hkept, read_mstatus_entered_enterTrap]

section Kept

variable [Platform]

/-! ## The exception and a simultaneous interrupt -/

/-- After the `commit` that follows the step from `s` to `s₁`, the cause and the address are those
that the exception saved and the pc is the entry of its handler: no interrupt was taken in
between. -/
structure Kept (s : Model) (cause : TrapCause) (s₁ : Model) : Prop where
  mcause : s₁.commit.csrf.read Csr.mcause.toInt = cause.toInt
  mepc : s₁.commit.csrf.read Csr.mepc.toInt = savedPc cause s.pc
  pc : s₁.commit.pc = s.csrf.read Csr.mtvec.toInt &&& tvecBaseAddr
  notTaken : ¬ s₁.TakesTimer

/-- The step has left the exception for `commit` to install. -/
structure Staged (s : Model) (cause : TrapCause) (s₁ : Model) : Prop where
  mcause : s₁.csrf.read Csr.mcause.toInt = cause.toInt
  mepc : s₁.csrf.read Csr.mepc.toInt = savedPc cause s.pc
  pcNext : s₁.pcNext = s.csrf.read Csr.mtvec.toInt &&& tvecBaseAddr

theorem kept_iff_staged (s : Model) (cause : TrapCause) (s₁ : Model) :
    Kept s cause s₁ ↔ Staged s cause s₁ ∧ ¬ s₁.TakesTimer := by
  constructor
  · intro h
    have hread := @read_commit_of_not_takesTimer _ s₁ h.notTaken
    refine ⟨⟨?_, ?_, ?_⟩, h.notTaken⟩
    · rw [← h.mcause, hread (by decide)]
    · rw [← h.mepc, hread (by decide)]
    · rw [← h.pc, pc_commit_of_not_takesTimer h.notTaken]
  · rintro ⟨h, hno⟩
    refine ⟨?_, ?_, ?_, hno⟩
    · rw [read_commit_of_not_takesTimer hno (by decide), h.mcause]
    · rw [read_commit_of_not_takesTimer hno (by decide), h.mepc]
    · rw [pc_commit_of_not_takesTimer hno, h.pcNext]

/-- Whether the interrupt is taken depends on the options, the memory and the two enable bits. -/
theorem takesTimer_congr {s s' : Model} (hopts : s'.opts = s.opts) (hmem : s'.mem = s.mem)
    (hcsr : ∀ c : Csr, c = .mstatus ∨ c = .mie → s'.csrf.read c.toInt = s.csrf.read c.toInt) :
    s'.TakesTimer ↔ s.TakesTimer := by
  rw [TakesTimer, TimerDue, hopts, hmem, hcsr .mie (Or.inr rfl), hcsr .mstatus (Or.inl rfl)]
  rfl

/-- An exception in machine mode leaves itself for `commit` to install. -/
theorem staged_enterTrap {s : Model} (hmode : s.mode.m = .machine) (cause : TrapCause) :
    Staged s cause (s.entered.enterTrap cause 0) := by
  obtain ⟨hcause, hepc⟩ := privCsr_of_machine (s.entered_mode.symm ▸ hmode : s.entered.mode.m = _)
  refine ⟨?_, ?_, ?_⟩
  · rw [enterTrap_csrf, ← hcause, read_trapCsrs_ucause]
  · rw [enterTrap_csrf, ← hepc, read_trapCsrs_uepc, pc, entered_pc]
  · rw [pcNext, enterTrap_pcNext, handlerEntry_entered hmode]
    exact BitVec.add_zero _

theorem trapMem_entered (s : Model) (cause : TrapCause) :
    s.entered.trapMem cause = s.trapMem cause := by
  have hexits : s.entered.Exits cause ↔ s.Exits cause := by
    rw [Exits, entered_regf]
    rfl
  by_cases h : s.Exits cause
  · rw [trapMem, trapMem, if_pos h, if_pos (hexits.mpr h), entered_mem, entered_tohostAddr,
      entered_regf]
  · rw [trapMem, trapMem, if_neg h, if_neg (mt hexits.mp h), entered_mem]

theorem takesTimer_entered_enterTrap_iff (s : Model) (cause : TrapCause) :
    (s.entered.enterTrap cause 0).TakesTimer ↔
      TakesTimer { s with mem := s.trapMem cause } := by
  apply takesTimer_congr
  · rw [enterTrap_opts, entered_opts]
  · rw [enterTrap_mem, trapMem_entered]
  · intro c hc
    rw [enterTrap_csrf, read_trapCsrs_of_enable _ _ hc, read_entered_of_enable _ hc]

/-- The instruction decoded in `e` leaves the exception that was taken before it alone: it neither
jumps elsewhere nor overwrites the cause or the address, nor does it trap, and with the memory and
the CSRs that it leaves `commit` takes no interrupt. -/
def Undisturbed (e : Model) : Prop :=
  match e.dec.tgt with
  | .alu => ∃ f v, e.dec.opt = .alu f ∧ doAlu f e.opd₁ e.opd₂ = .ok v ∧
      (isJump f → v = e.pcNext) ∧ ¬ e.TakesTimer
  | .load => ¬ e.TakesTimer
  | .store => ∃ w, e.dec.opt = .store w ∧
      ¬ TakesTimer { e with
        mem := e.mem.writeAs (e.regf.read e.dec.rs1 + e.dec.imm) (storeWidth w)
          ((e.regf.read e.dec.rs2).setWidth _) }
  | .branch => ∃ b, e.dec.opt = .branch b ∧
      (Rv32im.taken b (e.regf.read e.dec.rs1) (e.regf.read e.dec.rs2) →
        e.dec.imm + e.pc = e.pcNext) ∧ ¬ e.TakesTimer
  | .csr => ∃ sys, e.dec.opt = .sys sys ∧ ¬ e.CsrDenied sys ∧
      (csrWrites e.dec sys →
        (csrAddr e.dec = Csr.mcause.toInt ∨ csrAddr e.dec = Csr.mepc.toInt) →
          e.csrf.read (csrAddr e.dec) = e.csrNew sys) ∧
      ¬ TakesTimer { e with
        csrf := if csrWrites e.dec sys then e.csrf.write (csrAddr e.dec) (e.csrNew sys) else e.csrf }
  | .mret => e.csrf.read Csr.mepc.toInt = e.pcNext ∧
      ¬ TakesTimer { e with
        csrf := e.csrf.write Csr.mstatus.toInt (popStatus (e.csrf.read Csr.mstatus.toInt)) }
  | .illegal | .ebreak | .ecall => False

/-- Two states that agree in what an exception saves and stages. -/
structure Held (e e' : Model) : Prop where
  mcause : e'.csrf.read Csr.mcause.toInt = e.csrf.read Csr.mcause.toInt
  mepc : e'.csrf.read Csr.mepc.toInt = e.csrf.read Csr.mepc.toInt
  pcNext : e'.pcNext = e.pcNext

omit [Platform] in
theorem held_setPc_iff (e : Model) (link v : BitVec 32) :
    Held e ((e.writeGpr e.dec.rd link).setPc v) ↔ v = e.pcNext :=
  ⟨fun h => h.pcNext, fun h => ⟨rfl, rfl, h⟩⟩

omit [Platform] in
/-- A write to a CSR holds the exception unless it changes the cause or the address. -/
theorem held_csr_iff (e : Model) (writes : Bool) (a : CsrAddr) (v tmp : BitVec 32) :
    Held e ((if writes then e.writeCsr a v else e).writeGpr e.dec.rd tmp) ↔
      (writes → (a = Csr.mcause.toInt ∨ a = Csr.mepc.toInt) → e.csrf.read a = v) := by
  cases writes with
  | false => exact ⟨fun _ h => absurd h Bool.false_ne_true, fun _ => ⟨rfl, rfl, rfl⟩⟩
  | true =>
    -- a register keeps its value unless it is the one written, with another value
    have hread : ∀ b, (e.csrf.write a v).read b = e.csrf.read b ↔ (a = b → e.csrf.read a = v) := by
      intro b
      rw [CsrFile.read_write]
      split_ifs with hb
      · exact ⟨fun h _ => hb ▸ h.symm, fun h => hb ▸ (h hb.symm).symm⟩
      · exact ⟨fun _ h => absurd h.symm hb, fun _ => rfl⟩
    constructor
    · rintro h - (ha | ha)
      · exact (hread _).mp h.mcause ha
      · exact (hread _).mp h.mepc ha
    · intro h
      exact ⟨(hread _).mpr fun ha => h rfl (Or.inl ha), (hread _).mpr fun ha => h rfl (Or.inr ha),
        rfl⟩

omit [Platform] in
theorem held_mret_iff (e : Model) :
    Held e e.handleMret ↔ e.csrf.read Csr.mepc.toInt = e.pcNext := by
  have hread : ∀ a, a ≠ Csr.mstatus.toInt → e.handleMret.csrf.read a = e.csrf.read a := by
    intro a ha
    rw [handleMret_csrf, CsrFile.read_write_of_ne _ _ ha]
  constructor
  · intro h
    exact e.handleMret_pcNext.symm.trans h.pcNext
  · intro h
    exact ⟨hread _ (by decide), hread _ (by decide), e.handleMret_pcNext.trans h⟩

/-- A second exception overwrites the cause of the first. -/
theorem not_held_enterTrap {e : Model} {cause : TrapCause} (hmode : e.mode.m = .machine)
    (hfault : e.csrf.read Csr.mcause.toInt = TrapCause.expInstAccessFault.toInt)
    (hcause : cause.toInt ≠ TrapCause.expInstAccessFault.toInt) :
    ¬ Held e (e.enterTrap cause 0) := by
  intro h
  have hmcause := h.mcause
  rw [enterTrap_csrf, ← (privCsr_of_machine hmode).1, read_trapCsrs_ucause,
    (privCsr_of_machine hmode).1, hfault] at hmcause
  exact hcause hmcause

/-- **After a fault in machine mode, the exception survives exactly when the instruction leaves it
undisturbed.** -/
theorem held_iff_undisturbed {e e' : Model} (hwf : e.dec.WellFormed) (h : e.exec = .ok e')
    (hmode : e.mode.m = .machine)
    (hfault : e.csrf.read Csr.mcause.toInt = TrapCause.expInstAccessFault.toInt) :
    Held e e' ∧ ¬ e'.TakesTimer ↔ Undisturbed e := by
  -- the instructions that trap are not undisturbed, and their cause is not that of the fault
  have htrap : ∀ {cause : TrapCause}, cause.toInt ≠ TrapCause.expInstAccessFault.toInt →
      ¬ Undisturbed e →
      (Held e (e.enterTrap cause 0) ∧ ¬ (e.enterTrap cause 0).TakesTimer ↔ Undisturbed e) :=
    fun hcause hnot =>
      iff_of_false (fun h => not_held_enterTrap hmode hfault hcause h.1) hnot
  cases executed_of_exec hwf h with
  | alu f v htgt hopt hv hj =>
    have hund : Undisturbed e ↔ ¬ e.TakesTimer := by simp [Undisturbed, htgt, hopt, hv, hj]
    rw [hund]
    exact ⟨fun h => h.2, fun h => ⟨⟨rfl, rfl, rfl⟩, h⟩⟩
  | jump f v htgt hopt hv hj =>
    have hund : Undisturbed e ↔ v = e.pcNext ∧ ¬ e.TakesTimer := by
      simp [Undisturbed, htgt, hopt, hv, hj]
    rw [hund, held_setPc_iff]
    rfl
  | load l v htgt hopt hv =>
    have hund : Undisturbed e ↔ ¬ e.TakesTimer := by simp [Undisturbed, htgt]
    rw [hund]
    exact ⟨fun h => h.2, fun h => ⟨⟨rfl, rfl, rfl⟩, h⟩⟩
  | store w htgt hopt =>
    have hund : Undisturbed e ↔ ¬ TakesTimer { e with
        mem := e.mem.writeAs (e.regf.read e.dec.rs1 + e.dec.imm) (storeWidth w)
          ((e.regf.read e.dec.rs2).setWidth _) } := by
      simp [Undisturbed, htgt, hopt]
    rw [hund]
    exact ⟨fun h => h.2, fun h => ⟨⟨rfl, rfl, rfl⟩, h⟩⟩
  | taken b htgt hopt ht =>
    have hund : Undisturbed e ↔ e.dec.imm + e.pc = e.pcNext ∧ ¬ e.TakesTimer := by
      simp [Undisturbed, htgt, hopt, ht]
    rw [hund]
    exact ⟨fun h => ⟨h.1.pcNext, h.2⟩, fun h => ⟨⟨rfl, rfl, h.1⟩, h.2⟩⟩
  | untaken b htgt hopt ht =>
    have hund : Undisturbed e ↔ ¬ e.TakesTimer := by simp [Undisturbed, htgt, hopt, ht]
    rw [hund]
    exact ⟨fun h => h.2, fun h => ⟨⟨rfl, rfl, rfl⟩, h⟩⟩
  | csr sys htgt hopt hd =>
    have hund : Undisturbed e ↔
        (csrWrites e.dec sys →
          (csrAddr e.dec = Csr.mcause.toInt ∨ csrAddr e.dec = Csr.mepc.toInt) →
            e.csrf.read (csrAddr e.dec) = e.csrNew sys) ∧
        ¬ TakesTimer { e with
          csrf := if csrWrites e.dec sys then e.csrf.write (csrAddr e.dec) (e.csrNew sys)
            else e.csrf } := by
      simp [Undisturbed, htgt, hopt, hd]
    rw [held_csr_iff, hund]
    cases csrWrites e.dec sys <;> rfl
  | denied sys htgt hopt hd => exact htrap (by decide) (by simp [Undisturbed, htgt, hopt, hd])
  | mret htgt =>
    rw [held_mret_iff]
    simp only [Undisturbed, htgt]
    rfl
  | illegal htgt => exact htrap (by decide) (by simp [Undisturbed, htgt])
  | ebreak htgt => exact htrap (by decide) (by simp [Undisturbed, htgt])
  | ecall htgt =>
    have hcause : e.ecallCause.toInt ≠ TrapCause.expInstAccessFault.toInt := by
      rw [ecallCause, hmode]
      decide
    exact htrap hcause (by simp [Undisturbed, htgt])

/-- The access fault leaves itself for `commit` to install, if nothing follows. -/
theorem staged_faulted {s : Model} (hmode : s.mode.m = .machine) :
    Staged s .expInstAccessFault s.faulted := by
  obtain ⟨hcause, hepc⟩ := privCsr_of_machine hmode
  refine ⟨?_, ?_, ?_⟩
  · rw [faulted_csrf, ← hcause, read_trapCsrs_ucause]
  · rw [faulted_csrf, ← hepc, read_trapCsrs_uepc]
  · rw [pcNext, faulted_pcNext, handlerEntry_of_machine hmode]

theorem staged_iff_held {s s₁ : Model} (hmode : s.mode.m = .machine) :
    Staged s .expInstAccessFault s₁ ↔ Held s.faulted s₁ := by
  have hf := staged_faulted hmode
  constructor
  · intro h
    exact ⟨h.mcause.trans hf.mcause.symm, h.mepc.trans hf.mepc.symm, h.pcNext.trans hf.pcNext.symm⟩
  · intro h
    exact ⟨h.mcause.trans hf.mcause, h.mepc.trans hf.mepc, h.pcNext.trans hf.pcNext⟩

theorem kept_iff_of_raises {s : Model} {cause : TrapCause} (hmode : s.mode.m = .machine)
    (h : Raises s cause) :
    (∃ s₁, s.step = .ok s₁ ∧ Kept s cause s₁) ↔
      ¬ TakesTimer { s with mem := s.trapMem cause } := by
  have hstep := step_of_raises h
  -- the exception pushes nothing, so the interrupt is enabled after it as it was before
  rw [← takesTimer_entered_enterTrap_iff]
  constructor
  · rintro ⟨s₁, hs₁, hkept⟩
    obtain rfl := Except.ok.inj (hstep.symm.trans hs₁)
    exact hkept.notTaken
  · intro hno
    exact ⟨_, hstep, (kept_iff_staged ..).mpr ⟨staged_enterTrap hmode cause, hno⟩⟩

theorem kept_iff_of_fault {s : Model} (hmode : s.mode.m = .machine) (hpc : s.isValidPc = false)
    (hwf : s.decoded.WellFormed) :
    (∃ s₁, s.step = .ok s₁ ∧ Kept s .expInstAccessFault s₁) ↔ Undisturbed s.faulted := by
  have hdec : s.faulted.dec = s.decoded := s.faulted_dec
  have hfmode : s.faulted.mode.m = .machine := s.faulted_mode.symm ▸ hmode
  have hexec := step_of_not_isValidPc hpc
  have hiff : ∀ s₁, s.step = .ok s₁ → (Kept s .expInstAccessFault s₁ ↔ Undisturbed s.faulted) := by
    intro s₁ hs₁
    rw [kept_iff_staged, staged_iff_held hmode]
    exact held_iff_undisturbed (hdec.symm ▸ hwf) (hexec ▸ hs₁) hfmode (staged_faulted hmode).mcause
  constructor
  · rintro ⟨s₁, hs₁, hkept⟩
    exact (hiff s₁ hs₁).mp hkept
  · intro hund
    obtain ⟨s₁, hs₁⟩ := exists_step hwf
    exact ⟨s₁, hs₁, (hiff s₁ hs₁).mpr hund⟩

/-- **When an exception survives a simultaneous interrupt.** An exception that the instruction
raises does exactly when the timer interrupt is not due or not enabled, with the memory that the
exit call leaves; the access fault does exactly when the instruction that is executed after it
leaves it undisturbed. -/
theorem kept_iff {s : Model} (hmode : s.mode.m = .machine) (hwf : s.decoded.WellFormed) :
    (∀ cause, Raises s cause →
      ((∃ s₁, s.step = .ok s₁ ∧ Kept s cause s₁) ↔
        ¬ TakesTimer { s with mem := s.trapMem cause })) ∧
    (s.isValidPc = false →
      ((∃ s₁, s.step = .ok s₁ ∧ Kept s .expInstAccessFault s₁) ↔ Undisturbed s.faulted)) :=
  ⟨fun _ h => kept_iff_of_raises hmode h, fun hpc => kept_iff_of_fault hmode hpc hwf⟩

end Kept

/-- Without a timer, the illegal instruction of `excepting` reaches its handler. -/
theorem kept_excepting :
    let _ : Platform := trapping
    (excepting 0x8).mode.m = .machine ∧ Raises (excepting 0x8) .expInstIllegal ∧
    ∃ s₁, (excepting 0x8).step = .ok s₁ ∧ Kept (excepting 0x8) .expInstIllegal s₁ := by
  intro _
  have hraises := raises_excepting 0x8
  have hwf : (excepting 0x8).decoded.WellFormed :=
    .illegal (congrArg Op.tgt (decoded_excepting 0x8))
  refine ⟨rfl, hraises, ((kept_iff rfl hwf).1 _ hraises).mpr fun h => ?_⟩
  exact absurd h.1.1 Bool.false_ne_true

/-- With a timer interrupt due and enabled, an illegal instruction does not: its cause is lost. -/
theorem not_kept_interrupted :
    let _ : Platform := Platform.always Op.empty
    (interrupted Op.empty).mode.m = .machine ∧ Raises (interrupted Op.empty) .expInstIllegal ∧
    ∃ s₁, (interrupted Op.empty).step = .ok s₁ ∧
      s₁.commit.csrf.read Csr.mcause.toInt = TrapCause.intTimerM.toInt ∧
      ¬ Kept (interrupted Op.empty) .expInstIllegal s₁ := by
  intro _
  have hraises : Raises (interrupted Op.empty) .expInstIllegal :=
    .illegal (congrArg Op.tgt (decoded_always Op.empty _))
  have htake : ((interrupted Op.empty).entered.enterTrap .expInstIllegal 0).TakesTimer := by
    rw [takesTimer_entered_enterTrap_iff, trapMem_of_not_isEcall _ rfl]
    exact takesTimer_interrupted Op.empty
  refine ⟨rfl, hraises, _, step_of_raises hraises, ?_, fun h => h.notTaken htake⟩
  apply mcause_commit_of_takesTimer _ htake
  rw [enterTrap_mode, entered_mode]
  rfl

end Model

end Riscv32Sim
