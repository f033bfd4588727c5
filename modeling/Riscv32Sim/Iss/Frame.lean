import Riscv32Sim.Iss.Exec

/-!
# The frame of a run

What a call of `step` or `commit` can change, at every point of every run of the main loop. The
invariant that register 0 is 0 is part of the type of the register file; the other clauses hold
of one call in any state, and the configuration of the simulator is the same along the run.

## Main definitions

* `Model.MayWrite`: the bytes an instruction may write
* `Model.StepFrame`, `Model.CommitFrame`: what a call leaves alone
* `Model.SameConfig`: two states of one simulator

## Main results

* `Model.step_frame`, `Model.commit_frame`: the frames of the two calls
* `Model.Reachable.frame`: the frame of a whole run
-/

namespace Riscv32Sim

namespace Model

section Frame

variable [Platform]

/-! ## What an instruction can change -/

/-- The byte at `a` is one of those that the instruction `op` addresses by a store, or one of the
word at `tohost` when it is the exit call. -/
def MayWrite (s : Model) (op : Op) (a : BitVec 32) : Prop :=
  (op.tgt = .store ∧ ∃ w, op.opt = .store w ∧
    (a - (s.regf.read op.rs1 + op.imm)).toNat < (storeWidth w).bytes) ∨
  (op.tgt = .ecall ∧ s.regf.read 17 = 93 ∧ (a - s.tohostAddr).toNat < 4)

namespace Effect

variable {e e' : Model}

theorem gpr_frame (h : Effect e e') {i : RegIndex} (hne : e'.regf.read i ≠ e.regf.read i) :
    i = e.dec.rd ∧ (e.dec.tgt = .alu ∨ e.dec.tgt = .load ∨ e.dec.tgt = .csr) := by
  have hrd : ∀ v, (e.regf.write e.dec.rd v).read i ≠ e.regf.read i → i = e.dec.rd := by
    intro v hv
    by_contra hi
    exact hv (e.regf.read_write_of_ne v hi)
  cases h with
  | gpr v htgt => exact ⟨hrd v hne, htgt⟩
  | jump link v htgt => exact ⟨hrd link hne, Or.inl htgt⟩
  | csr v tmp htgt hw => exact ⟨hrd tmp hne, Or.inr (Or.inr htgt)⟩
  | trap cause h hecall => exact absurd (by rw [enterTrap_regf]) hne
  | store | branch | skip | mret => exact absurd rfl hne

/-- The memory after an instruction is the same outside the bytes it may write. -/
theorem mem_frame (h : Effect e e') {a : BitVec 32} (ha : ¬ e.MayWrite e.dec a) :
    e'.mem.read8 a = e.mem.read8 a ∧ e'.mem.page.read8 a = e.mem.page.read8 a := by
  cases h with
  | store w mem htgt hmem hopt =>
    obtain rfl := eq_writeAs_of_storeMem hmem
    exact e.mem.read8_writeAs_of_not_lt _ fun hlt => ha (Or.inl ⟨htgt, w, hopt, hlt⟩)
  | trap cause h hecall =>
    rw [enterTrap_mem, trapMem]
    split_ifs with hex
    · -- the exit call writes a word at `tohost`
      exact e.mem.read8_writeAs_of_not_lt (w := .word) (e.regf.read 10) fun hlt =>
        ha (Or.inr ⟨hecall hex.1, hex.2, hlt⟩)
    · exact ⟨rfl, rfl⟩
  | gpr | jump | branch | skip | csr | mret => exact ⟨rfl, rfl⟩

theorem pc_eq (h : Effect e e') : e'.pc = e.pc := by
  cases h with
  | trap cause h hecall => exact enterTrap_pc ..
  | gpr | jump | store | branch | skip | csr | mret => rfl

theorem mode_frame (h : Effect e e') (hne : e'.mode ≠ e.mode) : e.dec.tgt = .mret := by
  cases h with
  | mret htgt => exact htgt
  | trap cause h hecall => exact absurd (enterTrap_mode ..) hne
  | gpr | jump | store | branch | skip | csr => exact absurd rfl hne

theorem csr_frame (h : Effect e e') {a : CsrAddr} (hne : e'.csrf.read a ≠ e.csrf.read a) :
    a = e.mode.privCsr .ucause ∨ a = e.mode.privCsr .utval ∨ a = e.mode.privCsr .uepc ∨
      (e.dec.tgt = .csr ∧ a = csrAddr e.dec) ∨ (e.dec.tgt = .mret ∧ a = Csr.mstatus.toInt) := by
  have hwrite : ∀ {addr v}, (e.csrf.write addr v).read a ≠ e.csrf.read a → a = addr := by
    intro addr v hv
    by_contra hi
    exact hv (e.csrf.read_write_of_ne v hi)
  cases h with
  | csr v tmp htgt hw => exact Or.inr (Or.inr (Or.inr (Or.inl ⟨htgt, hwrite hne⟩)))
  | mret htgt => exact Or.inr (Or.inr (Or.inr (Or.inr ⟨htgt, hwrite hne⟩)))
  | trap cause h hecall =>
    rw [enterTrap_csrf] at hne
    by_contra hno
    simp only [not_or] at hno
    exact hne (read_trapCsrs_of_ne cause hno.1 hno.2.1 hno.2.2.1)
  | gpr | jump | store | branch | skip => exact absurd rfl hne

end Effect

omit [Platform] in
/-- The two states have the same options, `tohost` address and executable ranges. -/
def SameConfig (s s' : Model) : Prop :=
  s'.opts = s.opts ∧ s'.tohostAddr = s.tohostAddr ∧ s'.allowedPcs = s.allowedPcs

theorem Effect.sameConfig {e e' : Model} (h : Effect e e') : SameConfig e e' := by
  cases h with
  | trap cause h hecall =>
    exact ⟨enterTrap_opts .., enterTrap_tohostAddr .., enterTrap_allowedPcs ..⟩
  | gpr | jump | store | branch | skip | csr | mret => exact ⟨rfl, rfl, rfl⟩

/-! ## One call -/

/-- What a call of `step` that takes `s` to `s'` leaves alone. -/
structure StepFrame (s s' : Model) : Prop where
  gpr : ∀ i, s'.regf.read i ≠ s.regf.read i →
    i = s.decoded.rd ∧ (s.decoded.tgt = .alu ∨ s.decoded.tgt = .load ∨ s.decoded.tgt = .csr)
  byte : ∀ a, s'.mem.read8 a ≠ s.mem.read8 a → s.MayWrite s.decoded a
  pageByte : ∀ a, s'.mem.page.read8 a ≠ s.mem.page.read8 a → s.MayWrite s.decoded a
  pc : s'.pc = s.pc
  mode : s'.mode ≠ s.mode → s.decoded.tgt = .mret
  csr : ∀ a, s'.csrf.read a ≠ s.csrf.read a →
    a = s.mode.privCsr .ucause ∨ a = s.mode.privCsr .utval ∨ a = s.mode.privCsr .uepc ∨
      (s.decoded.tgt = .csr ∧ a = csrAddr s.decoded) ∨
      (s.decoded.tgt = .mret ∧ a = Csr.mstatus.toInt)

/-- What a call of `commit` that takes `s` to `s'` leaves alone. -/
structure CommitFrame (s s' : Model) : Prop where
  gpr : ∀ i, s'.regf.read i = s.regf.read i
  byte : ∀ a, s'.mem.read8 a = s.mem.read8 a
  pageByte : ∀ a, s'.mem.page.read8 a = s.mem.page.read8 a
  mode : s'.mode = s.mode
  csr : ∀ a, s'.csrf.read a ≠ s.csrf.read a →
    a = Csr.mip.toInt ∨ a = Csr.mstatus.toInt ∨ a = s.mode.privCsr .ucause ∨
      a = s.mode.privCsr .utval ∨ a = s.mode.privCsr .uepc

theorem effect_of_step {s s' : Model} (h : s.step = .ok s') : Effect s.entered s' :=
  effect_of_exec (s.step_eq ▸ h)

theorem step_frame {s s' : Model} (h : s.step = .ok s') : StepFrame s s' := by
  have heff := effect_of_step h
  -- the instruction is executed with the registers, memory and mode of `s`
  have hwrite : ∀ a, s.entered.MayWrite s.entered.dec a → s.MayWrite s.decoded a := by
    intro a ha
    simpa [MayWrite, dec] using ha
  have hdec : s.entered.dec = s.decoded := s.entered_dec
  constructor
  · intro i hi
    rw [← s.entered_regf] at hi
    exact hdec ▸ heff.gpr_frame hi
  · intro a hne
    by_contra ha
    rw [(heff.mem_frame (mt (hwrite a) ha)).1, entered_mem] at hne
    exact hne rfl
  · intro a hne
    by_contra ha
    rw [(heff.mem_frame (mt (hwrite a) ha)).2, entered_mem] at hne
    exact hne rfl
  · exact heff.pc_eq.trans s.entered_pc
  · intro hmode
    rw [← s.entered_mode] at hmode
    exact hdec ▸ heff.mode_frame hmode
  · intro a hne
    by_contra hno
    simp only [not_or] at hno
    obtain ⟨hcause, htval, hepc, hcsr, hmret⟩ := hno
    -- neither the fault before the instruction nor the instruction itself has written `a`
    have hent := read_entered_of_ne hcause htval hepc
    rw [← hent] at hne
    have hframe := heff.csr_frame hne
    rw [hdec, entered_mode] at hframe
    rcases hframe with h | h | h | h | h
    · exact hcause h
    · exact htval h
    · exact hepc h
    · exact hcsr h
    · exact hmret h

theorem commit_frame (s : Model) : CommitFrame s s.commit := by
  refine ⟨fun i => by rw [commit_regf], fun a => by rw [commit_mem], fun a => by rw [commit_mem],
    s.commit_mode, fun a hne => ?_⟩
  by_contra hno
  simp only [not_or] at hno
  obtain ⟨hmip, hmstatus, hcause, htval, hepc⟩ := hno
  apply hne
  by_cases htake : s.TakesTimer
  -- the push writes `mip` and `mstatus`, the entry into the handler the registers of the mode
  · rw [csrf_commit_of_takesTimer htake]
    exact (read_trapCsrs_of_ne (s := s.updatePc.pushTimer) _ hcause htval hepc).trans
      (s.updatePc.read_pushTimer_csrf_of_ne hmip hmstatus)
  · exact read_commit_of_not_takesTimer htake hmip

/-! ## Whole runs -/

theorem SameConfig.step {s₀ s s' : Model} (hs : SameConfig s₀ s) (h : s.step = .ok s') :
    SameConfig s₀ s' := by
  obtain ⟨hopts, htohost, hallowed⟩ := (effect_of_step h).sameConfig
  exact ⟨hopts.trans (s.entered_opts.trans hs.1), htohost.trans (s.entered_tohostAddr.trans hs.2.1),
    hallowed.trans (s.entered_allowedPcs.trans hs.2.2)⟩

theorem Reachable.sameConfig {s₀ s : Model} {p : Phase} (h : Reachable s₀ p s) :
    SameConfig s₀ s := by
  induction h with
  | init => exact ⟨rfl, rfl, rfl⟩
  | step _ hstep ih => exact ih.step hstep
  | commit _ ih =>
    exact ⟨(commit_opts _).trans ih.1, (commit_tohostAddr _).trans ih.2.1,
      (commit_allowedPcs _).trans ih.2.2⟩
  | tick _ ih => exact ih

/-- **The frame of a whole run** from the initial state: register 0 is 0, the configuration is
that of the start, and each call of `step` and `commit` stays within its frame. -/
theorem Reachable.frame {opts : Options} {entry : BitVec 32}
    {progbitRanges : List (BitVec 64 × BitVec 64)} {tohostAddr : BitVec 32} {mem : AddressRouter}
    {p : Phase} {s : Model}
    (h : Reachable (Model.init opts entry progbitRanges tohostAddr mem) p s) :
    s.regf.read 0 = 0 ∧
    (s.opts = opts ∧ s.tohostAddr = tohostAddr ∧ s.allowedPcs = progbitRanges) ∧
    (p = .ready → ∀ s', s.step = .ok s' → StepFrame s s') ∧
    (p = .stepped → CommitFrame s s.commit) :=
  ⟨s.regf.read_zero, h.sameConfig, fun _ _ => step_frame, fun _ => s.commit_frame⟩

end Frame

/-- `addi x1, x0, 5`. -/
def addi : Op :=
  { imm := 5, opt := .alu .add, tgt := .alu, rd := 1, rs1 := 0, rs2 := 0, hasImm := true,
    usePc := false, isCompressed := false }

/-- The frame of the first `commit` of a run. -/
theorem frame_addi :
    ∃ s', @Model.step (Platform.always addi) (single addi) = .ok s' ∧ s'.regf.read 0 = 0 ∧
      @CommitFrame (Platform.always addi) s' (@Model.commit (Platform.always addi) s') := by
  let _ : Platform := Platform.always addi
  have hwf : (single addi).decoded.WellFormed :=
    (decoded_always addi (single addi)).symm ▸ .alu .add rfl rfl rfl
  obtain ⟨s', hstep⟩ := exists_step hwf
  have h := Reachable.frame (.step .init hstep)
  exact ⟨s', hstep, h.1, h.2.2.2 rfl⟩

end Model

end Riscv32Sim
