import Riscv32Sim.Iss.Alignment
import Riscv32Sim.Iss.Entry
import Riscv32Sim.Lib.Latch

/-!
# The timer interrupt

`commit` compares `mtime` with `mtimecmp`, marks the timer interrupt as pending in `mip` and takes
it when it is enabled. The comparison is strict. The request is withdrawn only when the interrupt
is taken: over a run, bit 7 of `mip` is a latch that a due timer sets and a taken interrupt resets,
and raising `mtimecmp` does not reset it.

## Main definitions

* `Model.Untaken`, `Model.Taken`: what `commit` does without and with an interrupt
* `Model.Resumed`: the status after the return from the interrupt
* `Model.mtip`: the request of the timer in `mip`
* `Model.WritesMip`: the instruction writes `mip`

## Main results

* `Model.commit_exact`: the exact effect of `commit`, and of an interrupt followed by `mret`
* `Model.taken_iff_le_iff`: when the interrupt is taken at the threshold
* `Model.Run.mtip_eq_run`: the request is a latch
* `Model.Run.mtip_withdrawn_iff`: when no request survives the re-arming of the timer
-/

namespace Riscv32Sim

namespace Model

/-! ## The effect of `commit` -/

section Commit

variable [Platform]

/-- The request of the timer. -/
def mtip (s : Model) : Bool := (s.csrf.read Csr.mip.toInt).getLsbD 7

/-- The bits of `mip` after a `commit`, in every mode: the request of the timer is a latch, and
the others are left alone. -/
theorem getLsbD_mip_commit (s : Model) (i : ℕ) :
    (s.commit.csrf.read Csr.mip.toInt).getLsbD i =
      if i = 7 then Latch.next TimerDue TakesTimer s.mtip s
      else (s.csrf.read Csr.mip.toInt).getLsbD i := by
  have hmstatus : Csr.mip.toInt ≠ Csr.mstatus.toInt := by decide
  have hbits : ∀ v b, (Status.set v 7 b).getLsbD i = if i = 7 then b else v.getLsbD i :=
    fun v b => Status.getLsbD_set v 7 i b (by decide)
  unfold Latch.next
  by_cases htake : s.TakesTimer
  · -- the request is marked, and withdrawn as it is taken
    have hread : s.commit.csrf.read Csr.mip.toInt =
        Status.set (Status.set (s.csrf.read Csr.mip.toInt) 7 true) 7 false := by
      rw [csrf_commit_of_takesTimer htake, read_trapCsrs_of_low _ _ (by decide)]
      simp only [pushTimer, setPending, writeCsr_csrf, updatePc_csrf, toNat_code_intTimerM,
        CsrFile.read_write_of_ne _ _ hmstatus, CsrFile.read_write_self]
    rw [hread, hbits, hbits, if_pos htake]
    split_ifs <;> rfl
  · rw [commit_eq, if_neg htake, if_neg htake]
    by_cases hdue : s.TimerDue
    · have hread : (s.updatePc.setPending .intTimerM).csrf.read Csr.mip.toInt =
          Status.set (s.csrf.read Csr.mip.toInt) 7 true := by
        simp only [setPending, writeCsr_csrf, updatePc_csrf, toNat_code_intTimerM,
          CsrFile.read_write_self]
      rw [if_pos hdue, if_pos hdue, clearStaged_csrf, hread, hbits]
    · rw [if_neg hdue, if_neg hdue]
      split_ifs with hi
      · rw [hi]
        rfl
      · rfl

theorem mtip_commit (s : Model) : s.commit.mtip = Latch.next TimerDue TakesTimer s.mtip s :=
  (s.getLsbD_mip_commit 7).trans (if_pos rfl)

omit [Platform] in
/-- The bits of the status that an interrupt pushes. -/
theorem getLsbD_pushStatus (mstatus : BitVec 32) (i : ℕ) :
    (pushStatus mstatus).getLsbD i =
      if i = Status.mie then false
      else if i = Status.mpie then mstatus.getLsbD Status.mie
      else if i = Status.mpp ∨ i = Status.mpp + 1 then true
      else mstatus.getLsbD i := by
  have hmie : Status.mie = 3 := rfl
  have hmpie : Status.mpie = 7 := rfl
  have hmpp : Status.mpp = 11 := rfl
  unfold pushStatus
  dsimp only
  simp only [Status.getLsbD_set _ Status.mie _ _ (show Status.mie < 32 by decide),
    Status.getLsbD_set _ Status.mpie _ _ (show Status.mpie < 32 by decide),
    Status.getLsbD_set _ Status.mpp _ _ (show Status.mpp < 32 by decide),
    Status.getLsbD_set _ (Status.mpp + 1) _ _ (show Status.mpp + 1 < 32 by decide)]
  split_ifs <;> first | rfl | omega

/-- `commit` has installed the staged pc and cleared the staged changes, and has marked the timer
interrupt as pending if it was due; nothing else has changed. -/
structure Untaken (s s' : Model) : Prop where
  frame : s' = { s with
    csrf := s'.csrf
    curState := { s.curState with
      pc := { s.curState.pc with pc := s.pcNext }, gprStaged := [], csrStaged := [] } }
  mip : ∀ i, (s'.csrf.read Csr.mip.toInt).getLsbD i =
    (decide (i = 7 ∧ s.TimerDue) || (s.csrf.read Csr.mip.toInt).getLsbD i)
  otherCsr : ∀ a, a ≠ Csr.mip.toInt → s'.csrf.read a = s.csrf.read a

/-- `commit` has taken the timer interrupt. -/
structure Taken (s s' : Model) : Prop where
  mip : ∀ i, (s'.csrf.read Csr.mip.toInt).getLsbD i =
    (decide (i ≠ 7) && (s.csrf.read Csr.mip.toInt).getLsbD i)
  mstatus : ∀ i, (s'.csrf.read Csr.mstatus.toInt).getLsbD i =
    if i = Status.mie then false
    else if i = Status.mpie ∨ i = Status.mpp ∨ i = Status.mpp + 1 then true
    else (s.csrf.read Csr.mstatus.toInt).getLsbD i
  mcause : s'.csrf.read Csr.mcause.toInt = 0x80000007
  mtval : s'.csrf.read Csr.mtval.toInt = 0
  regf : s'.regf = s.regf
  mem : s'.mem = s.mem
  mode : s'.mode = s.mode

/-- The return from the interrupt has enabled interrupts again, in machine mode. -/
structure Resumed (s s₃ : Model) : Prop where
  mstatus : ∀ i, (s₃.csrf.read Csr.mstatus.toInt).getLsbD i =
    (decide (i = Status.mie ∨ i = Status.mpie ∨ i = Status.mpp ∨ i = Status.mpp + 1) ||
      (s.csrf.read Csr.mstatus.toInt).getLsbD i)
  mode : s₃.mode.m = .machine

theorem untaken_commit {s : Model} (h : ¬ s.TakesTimer) : Untaken s s.commit := by
  refine ⟨?_, fun i => ?_, fun a ha => read_commit_of_not_takesTimer h ha⟩
  · rw [commit_eq, if_neg h]
    split_ifs <;> rfl
  · rw [getLsbD_mip_commit, Latch.next, if_neg h]
    by_cases hi : i = 7
    · by_cases hdue : s.TimerDue
      · simp [hi, hdue]
      · simp [hi, hdue, mtip]
    · simp [hi]

theorem taken_commit {s : Model} (hmode : s.mode.m = .machine) (h : s.TakesTimer) :
    Taken s s.commit := by
  have hmode' : s.updatePc.pushTimer.mode.m = .machine := hmode
  refine ⟨fun i => ?_, fun i => ?_, ?_, ?_, s.commit_regf, s.commit_mem, s.commit_mode⟩
  · rw [getLsbD_mip_commit, Latch.next, if_pos h]
    by_cases hi : i = 7
    · simp [hi]
    · simp [hi]
  · -- the trap registers are written over the pushed status
    have hread : s.commit.csrf.read Csr.mstatus.toInt =
        pushStatus (s.csrf.read Csr.mstatus.toInt) := by
      rw [csrf_commit_of_takesTimer h, read_trapCsrs_of_enable _ _ (Or.inl rfl)]
      simp only [pushTimer, setPending, writeCsr_csrf, updatePc_csrf, CsrFile.read_write_self,
        CsrFile.read_write_of_ne _ _ (show Csr.mstatus.toInt ≠ Csr.mip.toInt by decide)]
    rw [hread, getLsbD_pushStatus, h.2.2]
    split_ifs <;> first | rfl | simp_all
  · exact mcause_commit_of_takesTimer hmode h
  · have htval : s.updatePc.pushTimer.mode.privCsr .utval = Csr.mtval.toInt := by
      rw [mode_eq_of_machine hmode']
      rfl
    rw [csrf_commit_of_takesTimer h, ← htval, read_trapCsrs_utval]

/-- `mret` pops the status that the interrupt has pushed. -/
theorem resumed_handleMret {s e : Model} (htaken : Taken s s.commit)
    (h : e.csrf.read Csr.mstatus.toInt = s.commit.csrf.read Csr.mstatus.toInt) :
    Resumed s e.handleMret := by
  have hmie : Status.mie = 3 := rfl
  have hmpie : Status.mpie = 7 := rfl
  have hmpp : Status.mpp = 11 := rfl
  refine ⟨fun i => ?_, ?_⟩
  · rw [handleMret_csrf, CsrFile.read_write_self, getLsbD_popStatus, h, htaken.mstatus,
      htaken.mstatus]
    -- the enable bit comes from MPIE, which the interrupt has set
    by_cases hi : i = Status.mie
    · simp [hi, hmie, hmpie]
    · by_cases hpushed : i = Status.mpie ∨ i = Status.mpp ∨ i = Status.mpp + 1
      · simp [hi, hpushed]
      · simp [hi, hpushed]
  · -- MPP is 11
    rw [handleMret_mode, h, previousMode, htaken.mstatus, htaken.mstatus]
    rfl

/-- **The exact effect of `commit` in machine mode**, and of an interrupt followed by `mret`: when
the interrupt is not taken, the pc is installed and the request marked; when it is taken, the
status is pushed, and the `mret` that follows pops it. -/
theorem commit_exact {s : Model} (hmode : s.mode.m = .machine) :
    (¬ s.TakesTimer → Untaken s s.commit) ∧
    (s.TakesTimer → Taken s s.commit ∧
      ∀ s₂ : Model, s₂.csrf.read Csr.mstatus.toInt = s.commit.csrf.read Csr.mstatus.toInt →
        s₂.decoded.tgt = .mret → ∃ s₃, s₂.step = .ok s₃ ∧ Resumed s s₃) := by
  refine ⟨untaken_commit, fun htake => ⟨taken_commit hmode htake, fun s₂ hkept hmret => ?_⟩⟩
  refine ⟨_, step_of_mret hmret, resumed_handleMret (taken_commit hmode htake) ?_⟩
  rw [read_entered_of_enable _ (Or.inl rfl), hkept]

end Commit

/-- The same simulator with the interrupt disabled. -/
def masked : Model := { interrupted mret with csrf := .init }

/-- An interrupt, and the return from it; and one that is disabled, and only marked. -/
theorem commit_exact_interrupted :
    let _ : Platform := Platform.always mret
    ((interrupted mret).TakesTimer ∧ Taken (interrupted mret) (interrupted mret).commit ∧
      ∃ s₃, (interrupted mret).commit.step = .ok s₃ ∧ Resumed (interrupted mret) s₃) ∧
    ¬ masked.TakesTimer ∧ Untaken masked masked.commit ∧ masked.commit.mtip = true := by
  intro _
  have htake := takesTimer_interrupted mret
  have hmode : (interrupted mret).mode.m = .machine := rfl
  have hmret : (interrupted mret).commit.decoded.tgt = .mret :=
    congrArg Op.tgt (decoded_always mret _)
  obtain ⟨htaken, hreturn⟩ := (commit_exact hmode).2 htake
  refine ⟨⟨htake, htaken, hreturn _ rfl hmret⟩, ?_⟩
  have hdue : masked.TimerDue := htake.1
  have hno : ¬ masked.TakesTimer := fun h => absurd h.2.1 (by decide)
  refine ⟨hno, (commit_exact (s := masked) hmode).1 hno, ?_⟩
  rw [mtip_commit, Latch.next, if_neg hno, if_pos hdue]

/-! ## The threshold -/

section Threshold

variable [Platform]

/-- `commit` has taken the interrupt exactly when the state before it says so: otherwise it has
left the interrupt enable bit alone. -/
theorem taken_commit_iff {s : Model} (hmode : s.mode.m = .machine)
    (hmie : (s.csrf.read Csr.mstatus.toInt).getLsbD Status.mie = true) :
    Taken s s.commit ↔ s.TakesTimer := by
  refine ⟨fun htaken => ?_, taken_commit hmode⟩
  by_contra hno
  have hpushed := htaken.mstatus Status.mie
  rw [if_pos rfl, (untaken_commit hno).otherCsr _ (by decide), hmie] at hpushed
  exact Bool.false_ne_true hpushed.symm

/-- **When the interrupt is taken at the threshold**: an enabled timer interrupt is taken exactly
when `mtime` has reached `mtimecmp`, unless the two are equal. -/
theorem taken_iff_le_iff {s : Model} (hmode : s.mode.m = .machine)
    (hmti : s.opts.mtiEnabled = true)
    (henabled : (s.csrf.read Csr.mie.toInt).getLsbD 7 = true)
    (hmie : (s.csrf.read Csr.mstatus.toInt).getLsbD Status.mie = true) :
    (Taken s s.commit ↔ s.mem.read64 s.opts.mtimecmp ≤ s.mem.read64 s.opts.mtime) ↔
      s.mem.read64 s.opts.mtime ≠ s.mem.read64 s.opts.mtimecmp := by
  have htakes : s.TakesTimer ↔ s.mem.read64 s.opts.mtimecmp < s.mem.read64 s.opts.mtime :=
    ⟨fun h => h.1.2, fun h => ⟨⟨hmti, h⟩, henabled, hmie⟩⟩
  rw [taken_commit_iff hmode hmie, htakes, BitVec.lt_def, BitVec.le_def, ne_eq, ← BitVec.toNat_inj]
  omega

end Threshold

/-- A timer past its threshold. -/
theorem taken_iff_le_interrupted :
    let _ : Platform := Platform.always mret
    Taken (interrupted mret) (interrupted mret).commit ↔
      (interrupted mret).mem.read64 0x2000 ≤ (interrupted mret).mem.read64 0x1000 := by
  intro _
  obtain ⟨⟨hmti, hlt⟩, henabled, hmie⟩ := takesTimer_interrupted mret
  have hne : (interrupted mret).mem.read64 0x1000 ≠ (interrupted mret).mem.read64 0x2000 :=
    fun heq => absurd (heq ▸ hlt) (BitVec.lt_irrefl _)
  exact (taken_iff_le_iff rfl hmti henabled hmie).mpr hne

/-- The simulator with the timer interrupt enabled, `mtime` and `mtimecmp` both 0. -/
def atThreshold : Model :=
  { single Op.empty with
    opts := ⟨0x8000, 0x8100, true⟩
    csrf := (CsrFile.init.write Csr.mie.toInt 0x80).write Csr.mstatus.toInt 0x8 }

/-- At the threshold the interrupt is not taken. -/
theorem not_taken_atThreshold :
    let _ : Platform := Platform.ofTable []
    (atThreshold.mode.m = .machine ∧ atThreshold.opts.mtiEnabled = true ∧
      (atThreshold.csrf.read Csr.mie.toInt).getLsbD 7 = true ∧
      (atThreshold.csrf.read Csr.mstatus.toInt).getLsbD Status.mie = true) ∧
    atThreshold.mem.read64 atThreshold.opts.mtimecmp ≤ atThreshold.mem.read64 atThreshold.opts.mtime ∧
    ¬ Taken atThreshold atThreshold.commit := by
  intro _
  have hmie : (atThreshold.csrf.read Csr.mstatus.toInt).getLsbD Status.mie = true := by decide
  have hequal : atThreshold.mem.read64 atThreshold.opts.mtimecmp =
      atThreshold.mem.read64 atThreshold.opts.mtime := rfl
  refine ⟨⟨rfl, rfl, by decide, hmie⟩, hequal ▸ BitVec.le_refl _, fun htaken => ?_⟩
  have hlt := ((taken_commit_iff rfl hmie).mp htaken).1.2
  exact BitVec.lt_irrefl _ (hequal ▸ hlt)

/-! ## Withdrawing the request -/

section Request

variable [Platform]

/-- The instruction at the pc writes `mip`. -/
def WritesMip (s : Model) : Prop :=
  s.decoded.tgt = .csr ∧ csrAddr s.decoded = Csr.mip.toInt ∧
    s.mode.canWrite s.decoded.imm = true ∧
    ∃ sys, s.decoded.opt = .sys sys ∧ csrWrites s.decoded sys = true

/-- A trap does not write `mip`, in any mode. -/
theorem mtip_enterTrap (s : Model) (cause : TrapCause) (vector : BitVec 32) :
    (s.enterTrap cause vector).mtip = s.mtip := by
  rw [mtip, enterTrap_csrf, read_trapCsrs_of_low _ _ (by decide), mtip]

theorem mtip_entered (s : Model) : s.entered.mtip = s.mtip := by
  rw [mtip, read_entered_of_low _ (by decide), mtip]

theorem mtip_csr {e e' : Model} (h : e.csr = .ok e')
    (hno : ∀ sys, e.dec.opt = .sys sys → csrWrites e.dec sys = true →
      e.mode.canWrite e.dec.imm = true → Csr.mip.toInt ≠ csrAddr e.dec) :
    e'.mtip = e.mtip := by
  obtain ⟨sys, hopt, hout⟩ := csrOutcome_of_csr h
  cases hout with
  | refused =>
    rw [trap_of_isException .illegal]
    exact mtip_enterTrap ..
  | reads tmp => rfl
  | writes v tmp hwrites hw =>
    have hne := hno sys hopt hwrites hw
    exact congrArg (BitVec.getLsbD · 7) (CsrFile.read_write_of_ne _ _ hne)

/-- An instruction that does not write `mip` leaves the request alone. -/
theorem mtip_step {s s' : Model} (hno : ¬ s.WritesMip) (h : s.step = .ok s') :
    s'.mtip = s.mtip := by
  have hdec : s.entered.dec = s.decoded := s.entered_dec
  rw [← mtip_entered s]
  rw [step_eq] at h
  cases effect_of_exec h with
  | csr v tmp htgt hw =>
    -- an `Effect` does not say which form the instruction has, so this goes back to `csr`
    simp only [exec, htgt] at h
    refine mtip_csr h fun sys hopt hwrites hcan heq => ?_
    rw [hdec] at htgt hopt hwrites hcan heq
    exact hno ⟨htgt, heq.symm, s.entered_mode ▸ hcan, sys, hopt, hwrites⟩
  | mret htgt =>
    have hne : Csr.mip.toInt ≠ Csr.mstatus.toInt := by decide
    exact congrArg (BitVec.getLsbD · 7) (CsrFile.read_write_of_ne _ _ hne)
  | trap cause hexc hecall => exact mtip_enterTrap ..
  | gpr | jump | store | branch | skip => rfl

omit [Platform] in
theorem mtip_tick_iterate (n : ℕ) (s : Model) : (tick^[n] s).mtip = s.mtip := by
  obtain ⟨mtime, hn⟩ := tick_iterate_eq n s
  rw [hn]
  rfl

/-- The first pair of calls of a run keeps the request up to its `commit`. -/
theorem Run.mtip_of_cons {s : Model} {p : Model × Model} {l : List (Model × Model)}
    (h : Run s (p :: l)) (hno : ¬ p.1.WritesMip) : p.2.mtip = s.mtip ∧ Run p.2.commit l := by
  cases h with
  | @cons s s' l m n hstep h =>
    refine ⟨?_, h⟩
    change ¬ (tick^[m] s).WritesMip at hno
    change (tick^[n] s').mtip = s.mtip
    rw [mtip_tick_iterate, mtip_step hno hstep, mtip_tick_iterate]

/-- **The request is a latch.** Before each `commit` of a run it is what the earlier ones have left
of it: a due timer sets it, and taking the interrupt resets it. -/
theorem Run.mtip_eq_run {l₁ l₂ : List (Model × Model)} {p : Model × Model} {s : Model}
    (h : Run s (l₁ ++ p :: l₂)) (hno : ∀ q ∈ l₁ ++ p :: l₂, ¬ q.1.WritesMip) :
    p.2.mtip = Latch.run TimerDue TakesTimer s.mtip (l₁.map Prod.snd) := by
  induction l₁ generalizing s with
  | nil => exact (h.mtip_of_cons (hno p List.mem_cons_self)).1
  | cons q l₁ ih =>
    obtain ⟨hfirst, hrest⟩ := h.mtip_of_cons (hno q List.mem_cons_self)
    rw [ih hrest fun r hr => hno r (List.mem_cons_of_mem q hr), mtip_commit, hfirst]
    rfl

/-- The timer has been re-armed: `mtime` is below `mtimecmp`. -/
def Rearmed (s : Model) : Prop := s.mem.read64 s.opts.mtime < s.mem.read64 s.opts.mtimecmp

/-- A timer that is re-armed is not due, so that `commit` leaves the request as it is. -/
theorem mtip_commit_of_rearmed {s : Model} (h : s.Rearmed) : s.commit.mtip = s.mtip := by
  have hdue : ¬ s.TimerDue := fun hdue => BitVec.lt_asymm h hdue.2
  rw [mtip_commit, Latch.next, if_neg fun htake => hdue htake.1, if_neg hdue]

/-- **When no request survives the re-arming of the timer**, in a run of a program that does not
write `mip`: exactly when no `commit` finds the timer re-armed after an earlier one has found it
due without taking the interrupt, and none in between has taken it. -/
theorem Run.mtip_withdrawn_iff {opts : Options} {entry : BitVec 32}
    {progbitRanges : List (BitVec 64 × BitVec 64)} {tohostAddr : BitVec 32} {mem : AddressRouter}
    {l : List (Model × Model)} (h : Run (Model.init opts entry progbitRanges tohostAddr mem) l)
    (hno : ∀ p ∈ l, ¬ p.1.WritesMip) :
    (∀ p ∈ l, p.2.Rearmed → p.2.commit.mtip = false) ↔
      ∀ l₁ p l₂, l = l₁ ++ p :: l₂ → p.2.Rearmed →
        ¬ Latch.Held TimerDue TakesTimer (l₁.map Prod.snd) := by
  -- the request before a `commit` of the run, from the initial state without one
  have hlatch : ∀ l₁ p l₂, l = l₁ ++ p :: l₂ →
      (p.2.mtip = true ↔ Latch.Held TimerDue TakesTimer (l₁.map Prod.snd)) := by
    rintro l₁ p l₂ rfl
    have hinit : (Model.init opts entry progbitRanges tohostAddr mem).mtip = false :=
      BitVec.getLsbD_zero
    rw [h.mtip_eq_run hno, Latch.run_eq_true_iff, hinit]
    exact or_iff_left fun hset => Bool.false_ne_true hset.1
  constructor
  · intro hall l₁ p l₂ hl harmed
    have hclear := hall p (by simp [hl]) harmed
    rw [mtip_commit_of_rearmed harmed] at hclear
    rw [← hlatch l₁ p l₂ hl, hclear]
    exact Bool.false_ne_true
  · intro hall p hp harmed
    obtain ⟨l₁, l₂, hl⟩ := List.append_of_mem hp
    rw [mtip_commit_of_rearmed harmed, ← Bool.not_eq_true, hlatch l₁ p l₂ hl]
    exact hall l₁ p l₂ hl harmed

end Request

section Steps

variable [Platform] {s : Model}

/-- What an addition of an immediate does. -/
theorem exists_step_addi (hvalid : s.isValidPc) (htgt : s.decoded.tgt = .alu)
    (hopt : s.decoded.opt = .alu .add) (hpc : s.decoded.usePc = false)
    (himm : s.decoded.hasImm = true) :
    ∃ s', s.step = .ok s' ∧
      s'.regf = s.regf.write s.decoded.rd (s.regf.read s.decoded.rs1 + s.decoded.imm) ∧
      s'.mem = s.mem ∧ s'.csrf = s.csrf ∧ s'.pcNext = s.pc + s.decoded.length := by
  have hval : doAlu .add s.fetched.opd₁ s.fetched.opd₂ =
      .ok (s.regf.read s.decoded.rs1 + s.decoded.imm) := by
    have hpc' : s.fetched.dec.usePc = false := hpc
    have himm' : s.fetched.dec.hasImm = true := himm
    rw [opd₁, opd₂, hpc', himm']
    rfl
  refine ⟨_, (step_of_isValidPc hvalid).trans (exec_alu htgt hopt hval), ?_⟩
  exact ⟨rfl, rfl, rfl, rfl⟩

/-- What a store of a word does. -/
theorem exists_step_sw (htgt : s.decoded.tgt = .store) (hopt : s.decoded.opt = .store .sw) :
    ∃ s', s.step = .ok s' ∧
      s'.mem.page = s.mem.page.write32 s.accessAddr (s.regf.read s.decoded.rs2) := by
  have hwf : s.decoded.WellFormed := .store .sw htgt hopt rfl
  obtain ⟨s', hstep⟩ := exists_step hwf
  obtain ⟨w, mem, hopt', hmem, rfl⟩ := exists_of_step_store hstep htgt
  obtain rfl : Store.sw = w := OpType.store.inj (hopt.symm.trans hopt')
  refine ⟨_, hstep, ?_⟩
  rw [← Except.ok.inj hmem]
  rfl

end Steps

/-- `addi x2, x0, 2`. -/
def addiTwo : Op :=
  { imm := 2, opt := .alu .add, tgt := .alu, rd := 2, rs1 := 0, rs2 := 0, hasImm := true,
    usePc := false, isCompressed := false }

/-- `sw x2, 0x104(x0)`. -/
def swHigh : Op :=
  { imm := 0x104, opt := .store .sw, tgt := .store, rd := 0, rs1 := 0, rs2 := 2, hasImm := false,
    usePc := false, isCompressed := false }

/-- The decoder of the two instructions. -/
@[reducible] def rearming : Platform :=
  Platform.ofTable [(0x00200113, addiTwo), (0x10202223, swHigh)]

/-- A program that raises `mtimecmp` in its second instruction, and its data. -/
def raising (data : List (BitVec 32 × BitVec 32)) : List (BitVec 32 × BitVec 32) :=
  [(0, 0x00200113), (4, 0x10202223)] ++ data

/-- The simulator of this program, with the timer on. -/
def timed (data : List (BitVec 32 × BitVec 32)) : Model :=
  @assembled rearming ⟨0x200, 0x100, true⟩ 0 (raising data)

/-- The first instruction writes a register only. -/
theorem exists_step_timed {data : List (BitVec 32 × BitVec 32)}
    (hword : LittleEndian.load (SparseMemory.imageBytes (raising data)) 0 4 = 0x00200113#32) :
    let _ : Platform := rearming
    (timed data).decoded = addiTwo ∧
    ∃ s, (timed data).step = .ok s ∧ s.regf.read 2 = 2 ∧ s.mem = (timed data).mem ∧
      s.csrf = .init ∧ s.pcNext = 4 := by
  intro _
  have hread : (timed data).mem.read32 (timed data).pc = 0x00200113#32 := by
    rw [timed, assembled_pc, read32_assembled, hword]
  have hdec : (timed data).decoded = addiTwo := by
    rw [decoded_of_read32 hread]
    rfl
  obtain ⟨s, hstep, hregf, hmem, hcsrf, hnext⟩ :=
    exists_step_addi (s := timed data) (isValidPc_of_allowedPcs_eq rfl) (congrArg Op.tgt hdec)
      (congrArg Op.opt hdec) (congrArg Op.usePc hdec) (congrArg Op.hasImm hdec)
  have hpc : (timed data).pc = 0 := assembled_pc ..
  rw [hdec] at hregf
  refine ⟨hdec, s, hstep, ?_, hmem, hcsrf, ?_⟩
  · rw [hregf, RegFile.read_write]
    rfl
  · rw [hnext, hdec, hpc]
    rfl

/-- The timer registers that `commit` compares, while the memory is that of an image. -/
theorem read64_of_page {data : List (BitVec 32 × BitVec 32)} {s : Model} :
    let _ : Platform := rearming
    s.opts = ⟨0x200, 0x100, true⟩ → s.mem.page = .image data →
    s.mem.read64 s.opts.mtime = LittleEndian.load (SparseMemory.imageBytes data) 0x200 8 ∧
    s.mem.read64 s.opts.mtimecmp = LittleEndian.load (SparseMemory.imageBytes data) 0x100 8 := by
  intro _ hopts hpage
  rw [hopts, AddressRouter.read64, AddressRouter.read64, hpage]
  exact ⟨SparseMemory.read64_image .., SparseMemory.read64_image ..⟩

/-- With `mtimecmp` above `mtime` from the start, there is no request. -/
theorem mtip_withdrawn_timed :
    let _ : Platform := rearming
    ∃ s, (timed [(0x104, 1)]).step = .ok s ∧ s.Rearmed ∧ s.commit.mtip = false := by
  intro _
  obtain ⟨hdec, s, hstep, -, hmem, -, -⟩ := @exists_step_timed [(0x104, 1)] (by decide)
  have hopts : s.opts = ⟨0x200, 0x100, true⟩ := (Reachable.sameConfig (.step .init hstep)).1
  have hpage : s.mem.page = .image (raising [(0x104, 1)]) := by rw [hmem, timed, page_assembled]
  have harmed : s.Rearmed := by
    obtain ⟨hmtime, hmtimecmp⟩ := read64_of_page hopts hpage
    rw [Rearmed, hmtime, hmtimecmp]
    decide
  have hrun : Run (timed [(0x104, 1)]) [(timed [(0x104, 1)], s)] := .cons 0 0 hstep (.nil _)
  have hno : ∀ p ∈ [(timed [(0x104, 1)], s)], ¬ p.1.WritesMip := by
    intro p hp hw
    obtain rfl := List.mem_singleton.mp hp
    exact absurd (hdec ▸ hw.1) (by decide)
  have hclear := (Run.mtip_withdrawn_iff hrun hno).mpr ?_
  · exact ⟨s, hstep, harmed, hclear (timed [(0x104, 1)], s) (List.mem_singleton_self _) harmed⟩
  · -- no `commit` precedes the only one
    intro l₁ p l₂ hl _
    cases l₁ with
    | nil => exact Latch.not_held_nil _ _
    | cons q l₁ => simp at hl

/-- With `mtime` 1 and `mtimecmp` 0 at first, the request is marked and not taken, and the store
to `mtimecmp` does not withdraw it. -/
theorem mtip_rearmed :
    let _ : Platform := rearming
    ∃ l, Run (timed [(0x200, 1)]) l ∧ (timed [(0x200, 1)]).opts.mtiEnabled = true ∧
      (∀ p ∈ l, ¬ p.1.WritesMip) ∧ ¬ ∀ p ∈ l, p.2.Rearmed → p.2.commit.mtip = false := by
  intro _
  obtain ⟨hdec, s, hstep, hreg, hmem, hcsrf, hnext⟩ := @exists_step_timed [(0x200, 1)] (by decide)
  obtain ⟨hopts, -, hallowed⟩ := Reachable.sameConfig (.step .init hstep)
  have hpage : s.mem.page = .image (raising [(0x200, 1)]) := by rw [hmem, timed, page_assembled]
  -- the first `commit` marks the request, and the interrupt is disabled
  have hdue : s.TimerDue := by
    obtain ⟨hmtime, hmtimecmp⟩ := read64_of_page hopts hpage
    refine ⟨congrArg Options.mtiEnabled hopts, ?_⟩
    rw [hmtime, hmtimecmp]
    decide
  have htake : ¬ s.TakesTimer := by
    intro h
    have hmie := h.2.1
    rw [hcsrf] at hmie
    exact absurd hmie (by decide)
  have hmarked : s.commit.mtip = true := by
    rw [mtip_commit, Latch.next, if_neg htake, if_pos hdue]
  -- the second instruction raises `mtimecmp`
  have hpc : s.commit.pc = 4 := (pc_commit_of_not_takesTimer htake).trans hnext
  have hdec' : s.commit.decoded = swHigh := by
    have hread : s.commit.mem.read32 s.commit.pc = 0x10202223#32 := by
      rw [hpc, commit_mem, AddressRouter.read32, hpage, SparseMemory.read32_image]
      decide
    rw [decoded_of_read32 hread]
    rfl
  obtain ⟨s', hstep', hpage'⟩ := exists_step_sw (congrArg Op.tgt hdec') (congrArg Op.opt hdec')
  have haddr : s.commit.accessAddr = 0x104 := by
    rw [accessAddr, hdec']
    exact congrArg (· + 0x104) s.commit.regf.read_zero
  have hpage₂ : s'.mem.page = .image (raising [(0x200, 1)] ++ [(0x104, 2)]) := by
    rw [hpage', haddr, hdec', commit_regf, commit_mem, hpage, ← SparseMemory.image_write32]
    exact congrArg _ hreg
  have hopts' : s'.opts = ⟨0x200, 0x100, true⟩ :=
    (Reachable.sameConfig (.step (.commit (.step .init hstep)) hstep')).1
  have harmed : s'.Rearmed := by
    obtain ⟨hmtime, hmtimecmp⟩ := read64_of_page hopts' hpage₂
    rw [Rearmed, hmtime, hmtimecmp]
    decide
  have hno : ¬ s.commit.WritesMip := fun hw => absurd (hdec' ▸ hw.1) (by decide)
  have hrun : Run (timed [(0x200, 1)]) [(timed [(0x200, 1)], s), (s.commit, s')] :=
    .cons 0 0 hstep (.cons 0 0 hstep' (.nil _))
  refine ⟨_, hrun, rfl, fun p hp hw => ?_, fun hall => ?_⟩
  · rcases List.mem_pair.mp hp with rfl | rfl
    · exact absurd (hdec ▸ hw.1) (by decide)
    · exact hno hw
  · have hclear := hall (s.commit, s') (by simp) harmed
    rw [mtip_commit_of_rearmed harmed, mtip_step hno hstep', hmarked] at hclear
    exact Bool.false_ne_true hclear.symm

end Model

end Riscv32Sim
