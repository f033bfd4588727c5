import Riscv32Sim.Iss.Frame

/-!
# The instruction access fault

`step` raises the fault for a pc outside the executable ranges and then executes the instruction
it fetched there. The fault is precise only where that instruction happens to change nothing.

## Main definitions

* `Model.Precise`: the step had the effects of the fault and no others
* `Model.Unchanged`: two states that agree in what a program can see
* `Model.Inert`: the instruction, executed in a state, changes nothing

## Main results

* `Model.unchanged_iff_inert`: the two notions agree
* `Model.step_precise_iff`: when the fault is precise
-/

namespace Riscv32Sim

namespace Model

/-- Two states that agree in the registers, the memory, the mode, the CSRs, the staged pc and the
halting flag. -/
structure Unchanged [Platform] (e e' : Model) : Prop where
  gpr : e'.regf = e.regf
  byte : e'.mem.read8 = e.mem.read8
  pageByte : e'.mem.page.read8 = e.mem.page.read8
  done : e'.isDone = e.isDone
  mode : e'.mode = e.mode
  csr : e'.csrf = e.csrf
  pcNext : e'.pcNext = e.pcNext

/-- A write of `v` to `rd` changes no register. -/
def KeepsGpr (e : Model) (v : BitVec 32) : Prop := e.dec.rd = 0 ∨ e.regf.read e.dec.rd = v

section Fault

variable [Platform]

/-- The instruction decoded in `e` changes nothing: its result is already in `rd`, the value it
stores already in memory, its target the staged pc. An instruction that traps is not inert. -/
def Inert (e : Model) : Prop :=
  match e.dec.tgt with
  | .alu => ∃ f v, e.dec.opt = .alu f ∧ doAlu f e.opd₁ e.opd₂ = .ok v ∧
      if isJump f then e.KeepsGpr (e.pc + e.dec.length) ∧ v = e.pcNext else e.KeepsGpr v
  | .load => ∃ v, e.load = .ok v ∧ e.KeepsGpr v
  | .store => ∃ w, e.dec.opt = .store w ∧
      e.mem.readAs (e.regf.read e.dec.rs1 + e.dec.imm) (storeWidth w) =
        (e.regf.read e.dec.rs2).setWidth _ ∧
      e.isDone = (e.regf.read e.dec.rs1 + e.dec.imm == e.tohostAddr)
  | .branch => ∃ b, e.dec.opt = .branch b ∧
      (Rv32im.taken b (e.regf.read e.dec.rs1) (e.regf.read e.dec.rs2) →
        e.dec.imm + e.pc = e.pcNext)
  | .csr => ∃ sys, e.dec.opt = .sys sys ∧ ¬ e.CsrDenied sys ∧ e.KeepsGpr (e.csrOld sys) ∧
      (csrWrites e.dec sys → e.csrf.read (csrAddr e.dec) = e.csrNew sys)
  | .mret => (e.csrf.read Csr.mstatus.toInt).getLsbD Status.mie = true ∧
      (e.csrf.read Csr.mstatus.toInt).getLsbD Status.mpie = true ∧
      previousMode (e.csrf.read Csr.mstatus.toInt) = .machine ∧
      e.csrf.read Csr.mepc.toInt = e.pcNext
  | .illegal | .ebreak | .ecall => False

omit [Platform] in
/-- `mret` leaves the status alone when there is nothing to pop. -/
theorem popStatus_eq_self_iff (mstatus : BitVec 32) :
    popStatus mstatus = mstatus ↔
      mstatus.getLsbD Status.mie = true ∧ mstatus.getLsbD Status.mpie = true ∧
        previousMode mstatus = .machine := by
  have hprev : previousMode mstatus = .machine ↔
      mstatus.getLsbD (Status.mpp + 1) = true ∧ mstatus.getLsbD Status.mpp = true := by
    unfold previousMode
    cases mstatus.getLsbD (Status.mpp + 1) <;> cases mstatus.getLsbD Status.mpp <;> decide
  constructor
  · intro h
    have hbit : ∀ i, mstatus.getLsbD i = (popStatus mstatus).getLsbD i := fun i => by rw [h]
    -- `mret` sets MPIE and MPP, and MIE to the old MPIE
    have hmpie : mstatus.getLsbD Status.mpie = true := (hbit _).trans (getLsbD_popStatus _ _)
    refine ⟨?_, hmpie, hprev.mpr ⟨?_, ?_⟩⟩
    · exact ((hbit _).trans (getLsbD_popStatus _ _)).trans hmpie
    · exact (hbit _).trans (getLsbD_popStatus _ _)
    · exact (hbit _).trans (getLsbD_popStatus _ _)
  · rintro ⟨hmie, hmpie, hpp⟩
    obtain ⟨hhi, hlo⟩ := hprev.mp hpp
    apply BitVec.eq_of_getLsbD_eq
    intro i hi
    rw [getLsbD_popStatus]
    split_ifs with h₁ h₂
    · rw [h₁, hmie, hmpie]
    · rcases h₂ with rfl | rfl | rfl
      · exact hmpie.symm
      · exact hlo.symm
      · exact hhi.symm
    · rfl

/-- A second exception leaves its own cause. -/
theorem not_unchanged_enterTrap {e : Model} {cause : TrapCause}
    (hfault : e.csrf.read (e.mode.privCsr .ucause) = TrapCause.expInstAccessFault.toInt)
    (hcause : cause.toInt ≠ TrapCause.expInstAccessFault.toInt) :
    ¬ Unchanged e (e.enterTrap cause 0) := by
  intro h
  have hcsr := h.csr
  rw [enterTrap_csrf] at hcsr
  rw [← hcsr, read_trapCsrs_ucause] at hfault
  exact hcause hfault

/-- A write of a register changes nothing else. -/
theorem unchanged_writeGpr_iff (e : Model) (v : BitVec 32) :
    Unchanged e (e.writeGpr e.dec.rd v) ↔ e.KeepsGpr v := by
  rw [KeepsGpr, ← RegFile.write_eq_self_iff]
  exact ⟨fun h => h.gpr, fun h => ⟨h, rfl, rfl, rfl, rfl, rfl, rfl⟩⟩

theorem unchanged_jump_iff (e : Model) (link v : BitVec 32) :
    Unchanged e ((e.writeGpr e.dec.rd link).setPc v) ↔ e.KeepsGpr link ∧ v = e.pcNext := by
  rw [KeepsGpr, ← RegFile.write_eq_self_iff]
  exact ⟨fun h => ⟨h.gpr, h.pcNext⟩, fun h => ⟨h.1, rfl, rfl, rfl, rfl, rfl, h.2⟩⟩

theorem unchanged_store_iff (e : Model) (a : BitVec 32) (w : Width) (v : BitVec (8 * w.bytes))
    (done : Bool) :
    Unchanged e { e with mem := e.mem.writeAs a w v, isDone := done } ↔
      e.mem.readAs a w = v ∧ e.isDone = done := by
  rw [← AddressRouter.writeAs_unchanged_iff]
  exact ⟨fun h => ⟨⟨h.byte, h.pageByte⟩, h.done.symm⟩,
    fun h => ⟨rfl, h.1.1, h.1.2, h.2.symm, rfl, rfl, rfl⟩⟩

theorem unchanged_csr_iff (e : Model) (writes : Bool) (a : CsrAddr) (v tmp : BitVec 32) :
    Unchanged e ((if writes then e.writeCsr a v else e).writeGpr e.dec.rd tmp) ↔
      e.KeepsGpr tmp ∧ (writes → e.csrf.read a = v) := by
  rw [← CsrFile.write_eq_self_iff]
  cases writes with
  | false =>
    exact (e.unchanged_writeGpr_iff tmp).trans ⟨fun h => ⟨h, fun h' => nomatch h'⟩, fun h => h.1⟩
  | true =>
    rw [KeepsGpr, ← RegFile.write_eq_self_iff]
    exact ⟨fun h => ⟨h.gpr, fun _ => h.csr⟩, fun h => ⟨h.1, rfl, rfl, rfl, rfl, h.2 rfl, rfl⟩⟩

theorem unchanged_mret_iff {e : Model} (hmode : e.mode = .ofMode .machine) :
    Unchanged e e.handleMret ↔
      (e.csrf.read Csr.mstatus.toInt).getLsbD Status.mie = true ∧
      (e.csrf.read Csr.mstatus.toInt).getLsbD Status.mpie = true ∧
      previousMode (e.csrf.read Csr.mstatus.toInt) = .machine ∧
      e.csrf.read Csr.mepc.toInt = e.pcNext := by
  have hpop := popStatus_eq_self_iff (e.csrf.read Csr.mstatus.toInt)
  constructor
  · intro h
    have hcsr := h.csr
    rw [handleMret_csrf, CsrFile.write_eq_self_iff] at hcsr
    obtain ⟨hmie, hmpie, hpp⟩ := hpop.mp hcsr.symm
    exact ⟨hmie, hmpie, hpp, e.handleMret_pcNext.symm.trans h.pcNext⟩
  · rintro ⟨hmie, hmpie, hpp, hpc⟩
    refine ⟨rfl, rfl, rfl, rfl, ?_, ?_, e.handleMret_pcNext.trans hpc⟩
    · rw [handleMret_mode, hpp, hmode]
    · rw [handleMret_csrf, CsrFile.write_eq_self_iff]
      exact (hpop.mpr ⟨hmie, hmpie, hpp⟩).symm

/-- **After a fault in machine mode, an instruction changes nothing exactly when it is inert.** -/
theorem unchanged_iff_inert {e e' : Model} (hwf : e.dec.WellFormed) (h : e.exec = .ok e')
    (hmode : e.mode = .ofMode .machine)
    (hfault : e.csrf.read (e.mode.privCsr .ucause) = TrapCause.expInstAccessFault.toInt) :
    Unchanged e e' ↔ Inert e := by
  -- an instruction that traps is a second exception, and it is not inert
  have htrap : ∀ {cause : TrapCause}, cause.toInt ≠ TrapCause.expInstAccessFault.toInt →
      ¬ Inert e → (Unchanged e (e.enterTrap cause 0) ↔ Inert e) :=
    fun hcause hnot => iff_of_false (not_unchanged_enterTrap hfault hcause) hnot
  cases executed_of_exec hwf h with
  | alu f v htgt hopt hv hj =>
    have hinert : Inert e ↔ e.KeepsGpr v := by simp [Inert, htgt, hopt, hv, hj]
    rw [hinert]
    exact e.unchanged_writeGpr_iff v
  | jump f v htgt hopt hv hj =>
    have hinert : Inert e ↔ e.KeepsGpr (e.pc + e.dec.length) ∧ v = e.pcNext := by
      simp [Inert, htgt, hopt, hv, hj]
    rw [hinert]
    exact e.unchanged_jump_iff _ v
  | load l v htgt hopt hv =>
    have hinert : Inert e ↔ e.KeepsGpr v := by simp [Inert, htgt, hv]
    rw [hinert]
    exact e.unchanged_writeGpr_iff v
  | store w htgt hopt =>
    rw [unchanged_store_iff]
    simp [Inert, htgt, hopt]
  | taken b htgt hopt ht =>
    have hinert : Inert e ↔ e.dec.imm + e.pc = e.pcNext := by simp [Inert, htgt, hopt, ht]
    rw [hinert]
    exact ⟨fun h => h.pcNext, fun h => ⟨rfl, rfl, rfl, rfl, rfl, rfl, h⟩⟩
  | untaken b htgt hopt ht =>
    have hinert : Inert e := by simp [Inert, htgt, hopt, ht]
    exact iff_of_true ⟨rfl, rfl, rfl, rfl, rfl, rfl, rfl⟩ hinert
  | csr sys htgt hopt hd =>
    have hinert : Inert e ↔ e.KeepsGpr (e.csrOld sys) ∧
        (csrWrites e.dec sys → e.csrf.read (csrAddr e.dec) = e.csrNew sys) := by
      simp [Inert, htgt, hopt, hd]
    rw [hinert, unchanged_csr_iff]
  | denied sys htgt hopt hd => exact htrap (by decide) (by simp [Inert, htgt, hopt, hd])
  | mret htgt =>
    rw [unchanged_mret_iff hmode]
    simp [Inert, htgt]
  | illegal htgt => exact htrap (by decide) (by simp [Inert, htgt])
  | ebreak htgt => exact htrap (by decide) (by simp [Inert, htgt])
  | ecall htgt =>
    have hcause : e.ecallCause.toInt ≠ TrapCause.expInstAccessFault.toInt := by
      rw [ecallCause, hmode]
      decide
    exact htrap hcause (by simp [Inert, htgt])

/-- The step from `s` to `s'` had the effects of the access fault and no others: no register, no
memory byte, neither the halting flag nor the mode has changed, the CSRs are those that the fault
leaves, and the pc that `commit` installs is the entry of the handler. -/
structure Precise (s s' : Model) : Prop where
  gpr : s'.regf = s.regf
  byte : s'.mem.read8 = s.mem.read8
  pageByte : s'.mem.page.read8 = s.mem.page.read8
  done : s'.isDone = s.isDone
  mode : s'.mode = s.mode
  mcause : s'.csrf.read Csr.mcause.toInt = TrapCause.expInstAccessFault.toInt
  csr : s'.csrf = s.trapCsrs .expInstAccessFault
  pc : s'.updatePc.pc = s.csrf.read Csr.mtvec.toInt &&& tvecBaseAddr

omit [Platform] in
theorem mode_eq_of_machine {s : Model} (h : s.mode.m = .machine) : s.mode = .ofMode .machine := by
  rw [s.mode.eq_ofMode, h]

theorem handlerEntry_of_machine {s : Model} (h : s.mode.m = .machine) :
    s.handlerEntry = s.csrf.read Csr.mtvec.toInt &&& tvecBaseAddr := by
  rw [handlerEntry, mode_eq_of_machine h]
  rfl

section Faulted

variable (s : Model)

@[simp] theorem faulted_dec : s.faulted.curState.dec = s.decoded := by simp [faulted]

@[simp] theorem faulted_regf : s.faulted.regf = s.regf := by simp [faulted]

@[simp] theorem faulted_mode : s.faulted.mode = s.mode := by simp [faulted]

@[simp] theorem faulted_csrf : s.faulted.csrf = s.trapCsrs .expInstAccessFault := by
  simp [faulted]
  rfl

@[simp] theorem faulted_pcNext : s.faulted.curState.pc.pcNext = s.handlerEntry :=
  (s.fetched.enterTrap_pcNext _ _).trans (BitVec.add_zero _)

end Faulted

/-- What is precise in the step is what the instruction leaves unchanged after the fault. -/
theorem precise_iff_unchanged {s s' : Model} (hmode : s.mode.m = .machine)
    (hpc : s.isValidPc = false) : Precise s s' ↔ Unchanged s.faulted s' := by
  -- the fault itself has changed the trap registers and the staged pc only
  have hent : s.faulted = s.entered := by rw [entered, hpc]; rfl
  have hentry := handlerEntry_of_machine hmode
  have hregf := s.faulted_regf
  have hmem : s.faulted.mem = s.mem := by rw [hent, entered_mem]
  have hdone : s.faulted.isDone = s.isDone := by rw [hent, entered_isDone]
  have hcause : Csr.mcause.toInt = s.mode.privCsr .ucause := by
    rw [mode_eq_of_machine hmode]
    rfl
  constructor
  · intro h
    exact ⟨h.gpr.trans hregf.symm, by rw [h.byte, hmem], by rw [h.pageByte, hmem],
      h.done.trans hdone.symm, h.mode.trans s.faulted_mode.symm, h.csr.trans s.faulted_csrf.symm,
      (h.pc.trans hentry.symm).trans s.faulted_pcNext.symm⟩
  · intro h
    have hcsr := h.csr.trans s.faulted_csrf
    exact ⟨h.gpr.trans hregf, by rw [h.byte, hmem], by rw [h.pageByte, hmem],
      h.done.trans hdone, h.mode.trans s.faulted_mode,
      by rw [hcsr, hcause, read_trapCsrs_ucause], hcsr,
      (h.pcNext.trans s.faulted_pcNext).trans hentry⟩

theorem precise_iff_inert {s s' : Model} (hmode : s.mode.m = .machine) (hpc : s.isValidPc = false)
    (hwf : s.decoded.WellFormed) (hstep : s.step = .ok s') : Precise s s' ↔ Inert s.faulted := by
  have hexec : s.faulted.exec = .ok s' := by rw [← step_of_not_isValidPc hpc, hstep]
  have hdec : s.faulted.dec = s.decoded := s.faulted_dec
  rw [precise_iff_unchanged hmode hpc]
  refine unchanged_iff_inert (hdec.symm ▸ hwf) hexec ?_ ?_
  · exact s.faulted_mode.trans (mode_eq_of_machine hmode)
  · rw [faulted_mode, faulted_csrf, read_trapCsrs_ucause]

/-- **When the instruction access fault is precise**: exactly when the instruction found at the
invalid pc, executed after the fault, changes nothing. -/
theorem step_precise_iff {s : Model} (hmode : s.mode.m = .machine) (hpc : s.isValidPc = false)
    (hwf : s.decoded.WellFormed) :
    (∃ s', s.step = .ok s' ∧ Precise s s') ↔ Inert s.faulted := by
  constructor
  · rintro ⟨s', hstep, hprecise⟩
    exact (precise_iff_inert hmode hpc hwf hstep).mp hprecise
  · intro hinert
    obtain ⟨s', hstep⟩ := exists_step hwf
    exact ⟨s', hstep, (precise_iff_inert hmode hpc hwf hstep).mpr hinert⟩

end Fault

/-- `addi x0, x0, 5`. -/
def nop : Op := { addi with rd := 0 }

/-- The simulator of one instruction outside the executable ranges. -/
def singleOutside (op : Op) : Model := { single op with allowedPcs := [] }

/-- A fault at an instruction without effect is precise. -/
theorem precise_nop :
    (singleOutside nop).isValidPc = false ∧
    ∃ s', @Model.step (Platform.always nop) (singleOutside nop) = .ok s' ∧
      @Precise (Platform.always nop) (singleOutside nop) s' := by
  let _ : Platform := Platform.always nop
  have hdec : (singleOutside nop).decoded = nop := decoded_always nop _
  have hwf : (singleOutside nop).decoded.WellFormed := hdec.symm ▸ .alu .add rfl rfl rfl
  have hfdec : (singleOutside nop).faulted.dec = nop := (faulted_dec _).trans hdec
  refine ⟨rfl, (step_precise_iff (s := singleOutside nop) rfl rfl hwf).mpr ?_⟩
  unfold Inert
  rw [hfdec]
  exact ⟨.add, _, rfl, rfl, Or.inl (congrArg Op.rd hfdec)⟩

/-- A fault at `addi x1, x0, 5` is not: the register changes. -/
theorem not_precise_addi :
    (singleOutside addi).mode.m = .machine ∧ (singleOutside addi).isValidPc = false ∧
    ∃ s', @Model.step (Platform.always addi) (singleOutside addi) = .ok s' ∧
      ¬ @Precise (Platform.always addi) (singleOutside addi) s' := by
  let _ : Platform := Platform.always addi
  have hdec : (singleOutside addi).decoded = addi := decoded_always addi _
  have hwf : (singleOutside addi).decoded.WellFormed := hdec.symm ▸ .alu .add rfl rfl rfl
  have hfdec : (singleOutside addi).faulted.dec = addi := (faulted_dec _).trans hdec
  obtain ⟨s', hstep⟩ := exists_step hwf
  refine ⟨rfl, rfl, s', hstep, fun h => ?_⟩
  have hinert := (precise_iff_inert rfl rfl hwf hstep).mp h
  unfold Inert at hinert
  rw [hfdec] at hinert
  obtain ⟨f, v, hopt, hv, hkeep⟩ := hinert
  obtain rfl : Alu.add = f := OpType.alu.inj hopt
  obtain rfl := Except.ok.inj hv
  rcases hkeep with hrd | hread
  · exact absurd ((congrArg Op.rd hfdec).symm.trans hrd) (by decide)
  · rw [opd₁, opd₂, hfdec, faulted_regf] at hread
    exact absurd hread (by decide)

end Model

end Riscv32Sim
