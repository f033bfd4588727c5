import Riscv32Sim.Iss.Halt

/-!
# The alignment of the pc

Every path that assigns the pc keeps it even, but one: `mret` installs `mepc` as it is, and
software may have written any value there. `jalr` and the trap entry mask the address.

## Main definitions

* `Aligned`: an even address
* `Op.AlignedTargets`: what the decoder guarantees of branches and jumps
* `Model.MisalignedMret`: an `mret` with an odd `mepc`
* `Model.Run`: the runs of `step` and `commit`, with the states before the two calls

## Main results

* `Model.aligned_pcNext_step_iff`: the staged pc after one call of `step`
* `Model.Run.aligned_iff`: when the pc is even after every `commit` of a run
-/

namespace Riscv32Sim

/-- An even address. -/
def Aligned (a : BitVec 32) : Prop := a.toNat % 2 = 0

instance (a : BitVec 32) : Decidable (Aligned a) := inferInstanceAs (Decidable (_ = _))

theorem Aligned.add {a b : BitVec 32} (ha : Aligned a) (hb : Aligned b) : Aligned (a + b) := by
  unfold Aligned at *
  rw [BitVec.toNat_add]
  omega

/-- Clearing low bits aligns an address. -/
theorem aligned_and_shiftLeft (a : BitVec 32) {k : ℕ} (hk : 0 < k) :
    Aligned (a &&& BitVec.allOnes 32 <<< k) := by
  obtain ⟨j, rfl⟩ := Nat.exists_eq_add_of_lt hk
  rw [Aligned, toNat_and_allOnes_shiftLeft, pow_succ, ← Nat.mul_assoc]
  exact Nat.mul_mod_left ..

/-- The immediate of a branch is even, and a `jal` adds an even immediate to the pc. -/
structure Op.AlignedTargets (op : Op) : Prop where
  branch : op.tgt = .branch → Aligned op.imm
  jal : op.opt = .alu .jal → op.usePc = true ∧ op.hasImm = true ∧ Aligned op.imm

theorem Op.aligned_length (op : Op) : Aligned op.length := by
  unfold Op.length
  split_ifs <;> decide

namespace Model

section Alignment

variable [Platform]

/-! ## One call of `step` -/

theorem aligned_handlerEntry (s : Model) : Aligned s.handlerEntry := by
  rw [Aligned, handlerEntry, toNat_and_tvecBaseAddr]
  omega

/-- The next instruction is an `mret`, and `mepc` is odd. -/
def MisalignedMret (s : Model) : Prop :=
  s.decoded.tgt = .mret ∧ ¬ Aligned (s.entered.csrf.read Csr.mepc.toInt)

/-- The pc that is staged before the instruction is executed. -/
theorem aligned_entered_pcNext {s : Model} (hpc : Aligned s.pc) : Aligned s.entered.pcNext := by
  unfold entered faulted
  split_ifs
  · exact hpc.add s.decoded.aligned_length
  · rw [pcNext, enterTrap_pcNext]
    exact (aligned_handlerEntry _).add (by decide)

/-- `jal` adds an even immediate to the pc, and `jalr` masks its target. -/
theorem aligned_exec_alu {e e' : Model} (hop : e.dec.AlignedTargets) (hpc : Aligned e.pc)
    (hnext : Aligned e.pcNext) (htgt : e.dec.tgt = .alu) (h : e.exec = .ok e') :
    Aligned e'.pcNext := by
  obtain ⟨f, v, hopt, hv, rfl⟩ := exists_of_exec_alu htgt h
  cases f with
  | jal =>
    obtain ⟨hpc', himm, heven⟩ := hop.jal hopt
    have hval : v = e.pc + e.dec.imm := by
      rw [opd₁, opd₂, hpc', himm] at hv
      exact (Except.ok.inj hv).symm
    rw [hval]
    exact hpc.add heven
  | jalr =>
    have hmask : lsbZero = BitVec.allOnes 32 <<< 1 := Platform.lsbZero_eq
    have hval : v = (e.opd₁ + e.opd₂) &&& BitVec.allOnes 32 <<< 1 := by
      rw [← hmask]
      exact (Except.ok.inj hv).symm
    rw [hval]
    exact aligned_and_shiftLeft _ (by decide)
  | _ => exact hnext

theorem aligned_exec_branch {e e' : Model} (hop : e.dec.AlignedTargets) (hpc : Aligned e.pc)
    (hnext : Aligned e.pcNext) (htgt : e.dec.tgt = .branch) (h : e.exec = .ok e') :
    Aligned e'.pcNext := by
  rcases eq_or_eq_of_exec_branch htgt h with rfl | rfl
  · exact (hop.branch htgt).add hpc
  · exact hnext

/-- Every instruction but `mret` stages an even pc. -/
theorem aligned_exec {e e' : Model} (hop : e.dec.AlignedTargets) (hpc : Aligned e.pc)
    (hnext : Aligned e.pcNext) (hmret : e.dec.tgt ≠ .mret) (h : e.exec = .ok e') :
    Aligned e'.pcNext := by
  -- an `Effect` does not say where a jump or a branch goes, so these go back to the instruction
  cases effect_of_exec h with
  | jump link v htgt => exact aligned_exec_alu hop hpc hnext htgt h
  | branch v htgt => exact aligned_exec_branch hop hpc hnext htgt h
  | mret htgt => exact absurd htgt hmret
  | trap cause hexc hecall =>
    rw [pcNext, enterTrap_pcNext]
    exact e.aligned_handlerEntry.add (by decide)
  | gpr | store | skip | csr => exact hnext

/-- **The staged pc after one call of `step`** is even, unless that executes an `mret` with an odd
`mepc`. -/
theorem aligned_pcNext_step_iff {s s' : Model} (hop : s.decoded.AlignedTargets)
    (hpc : Aligned s.pc) (h : s.step = .ok s') : Aligned s'.pcNext ↔ ¬ s.MisalignedMret := by
  by_cases hmret : s.decoded.tgt = .mret
  · obtain rfl := Except.ok.inj ((step_of_mret hmret).symm.trans h)
    rw [pcNext, handleMret_pcNext]
    simp [MisalignedMret, hmret]
  · refine iff_of_true ?_ fun hmis => hmret hmis.1
    rw [step_eq] at h
    have hdec : s.entered.dec = s.decoded := s.entered_dec
    refine aligned_exec (hdec.symm ▸ hop) ?_ (aligned_entered_pcNext hpc) (hdec.symm ▸ hmret) h
    rwa [pc, entered_pc]

/-! ## Runs -/

/-- The pc after a `commit`: the entry of a handler is even, and otherwise it is the staged one. -/
theorem aligned_commit_iff (s : Model) :
    Aligned s.commit.pc ↔ (¬ s.TakesTimer → Aligned s.pcNext) := by
  by_cases htake : s.TakesTimer
  · refine iff_of_true ?_ fun h => absurd htake h
    rw [pc_commit_of_takesTimer htake]
    refine (aligned_handlerEntry _).add ?_
    rw [Aligned, BitVec.toNat_mul, toNat_code_intTimerM]
    decide
  · rw [pc_commit_of_not_takesTimer htake]
    exact ⟨fun h _ => h, fun h => h htake⟩

/-- The runs of `step` and `commit` from `s`: for each pair of calls the state before `step` and
the state before `commit`. The timer thread runs before both. -/
inductive Run : Model → List (Model × Model) → Prop
  | nil (s : Model) : Run s []
  | cons {s s' : Model} {l : List (Model × Model)} (m n : ℕ)
    (hstep : (tick^[m] s).step = .ok s') (h : Run (tick^[n] s').commit l) :
    Run s ((tick^[m] s, tick^[n] s') :: l)

omit [Platform] in
@[simp] theorem tick_iterate_curState (n : ℕ) (s : Model) :
    (tick^[n] s).curState = s.curState := by
  obtain ⟨mtime, hn⟩ := tick_iterate_eq n s
  rw [hn]

/-- What the decoder guarantees holds of the instruction that is executed. -/
theorem alignedTargets_decoded (hdecode : ∀ x, (decode x).AlignedTargets)
    (hdecode16 : ∀ x, (decode16 x).AlignedTargets) (s : Model) : s.decoded.AlignedTargets := by
  unfold decoded
  dsimp only
  split_ifs
  · exact hdecode16 _
  · exact hdecode _

theorem Run.aligned_commit_iff (hdecode : ∀ x, (decode x).AlignedTargets)
    (hdecode16 : ∀ x, (decode16 x).AlignedTargets) {s : Model} {l : List (Model × Model)}
    (hs : Aligned s.pc) (h : Run s l) :
    (∀ p ∈ l, Aligned p.2.commit.pc) ↔ ∀ p ∈ l, p.1.MisalignedMret → p.2.TakesTimer := by
  induction h with
  | nil s => simp
  | @cons s s' l m n hstep h ih =>
    have hpc : Aligned (tick^[m] s).pc := by rwa [pc, tick_iterate_curState]
    have hstaged := aligned_pcNext_step_iff (alignedTargets_decoded hdecode hdecode16 _) hpc hstep
    -- one pair of calls, then the rest of the run from the even pc that it has left
    have hpair : Aligned (tick^[n] s').commit.pc ↔
        ((tick^[m] s).MisalignedMret → (tick^[n] s').TakesTimer) := by
      rw [Model.aligned_commit_iff, pcNext, tick_iterate_curState, hstaged]
      tauto
    rw [List.forall_mem_cons, List.forall_mem_cons, ← hpair]
    exact and_congr_right fun heven => ih heven

/-- **When the pc is even after every `commit`** of a run from an even entry address: exactly when
every `mret` with an odd `mepc` is followed by a `commit` that takes an interrupt. -/
theorem Run.aligned_iff (hdecode : ∀ x, (decode x).AlignedTargets)
    (hdecode16 : ∀ x, (decode16 x).AlignedTargets) {opts : Options} {entry : BitVec 32}
    {progbitRanges : List (BitVec 64 × BitVec 64)} {tohostAddr : BitVec 32} {mem : AddressRouter}
    (hentry : Aligned entry) {l : List (Model × Model)}
    (h : Run (Model.init opts entry progbitRanges tohostAddr mem) l) :
    (∀ p ∈ l, Aligned p.2.commit.pc) ↔ ∀ p ∈ l, p.1.MisalignedMret → p.2.TakesTimer := by
  refine h.aligned_commit_iff hdecode hdecode16 ?_
  change Aligned (Platform.hartState entry).pc.pc
  rwa [Platform.hartState_pc]

/-- An `mret` at a valid pc, with the timer off, installs `mepc`. -/
theorem exists_step_mret {s : Model} (hmret : s.decoded.tgt = .mret) (hvalid : s.isValidPc)
    (hmti : s.opts.mtiEnabled = false) :
    ∃ s', s.step = .ok s' ∧ s'.commit.pc = s.csrf.read Csr.mepc.toInt := by
  have hopts : s.entered.handleMret.opts = s.opts := s.entered_opts
  refine ⟨_, step_of_mret hmret, ?_⟩
  rw [pc_commit_of_not_takesTimer (not_takesTimer_of_mtiEnabled (hopts ▸ hmti)), pcNext,
    handleMret_pcNext, entered_csrf_of_isValidPc hvalid]

end Alignment

theorem alignedTargets_addi : addi.AlignedTargets :=
  ⟨fun h => absurd h (by decide), fun h => absurd h (by decide)⟩

/-- The pc is even after the first pair of calls of a program of `addi`. -/
theorem aligned_addi :
    let _ : Platform := Platform.always addi
    ∃ s', (single addi).step = .ok s' ∧ Aligned s'.commit.pc := by
  intro _
  have hdec : (single addi).decoded = addi := decoded_always addi _
  have hwf : (single addi).decoded.WellFormed := hdec.symm ▸ .alu .add rfl rfl rfl
  obtain ⟨s', hstep⟩ := exists_step hwf
  have hrun : Run (single addi) [(single addi, s')] := .cons 0 0 hstep (.nil _)
  have hno : ∀ p ∈ [(single addi, s')], p.1.MisalignedMret → p.2.TakesTimer := by
    intro p hp hmis
    obtain rfl := List.mem_singleton.mp hp
    exact absurd (hdec ▸ hmis.1) (by decide)
  have heven := (Run.aligned_iff (fun _ => alignedTargets_addi) (fun _ => alignedTargets_addi)
    (by decide) hrun).mpr hno
  exact ⟨s', hstep, heven (single addi, s') (List.mem_singleton_self _)⟩

/-- `csrrwi x0, mepc, 1`. -/
def csrrwi : Op :=
  { imm := 0x341, opt := .sys .csrrwi, tgt := .csr, rd := 0, rs1 := 1, rs2 := 0, hasImm := true,
    usePc := false, isCompressed := false }

/-- The platform whose decoder reads the word 0 as the write of `mepc`, and every other word as
`mret`. -/
@[reducible] def returningOdd : Platform :=
  Platform.ofDecoder (fun _ => mret) fun x => if x = 0 then csrrwi else mret

/-- A program that writes 1 to `mepc`, at the end of a page of zeros, and returns there. -/
def oddReturn : Model :=
  @Model.init returningOdd ⟨0, 0, false⟩ 0xFFC [(0, 0xFFFFFFFF)] 0x100 overdue

/-- The first step stages the address of the `mret` and writes `mepc`. -/
theorem exists_step_oddReturn :
    let _ : Platform := returningOdd
    ∃ s, oddReturn.step = .ok s ∧ s.pcNext = 0x1000 ∧ s.mem = overdue ∧
      s.csrf.read Csr.mepc.toInt = 1 := by
  intro _
  have hdec : oddReturn.decoded = csrrwi := by
    have hword : oddReturn.mem.read32 oddReturn.pc = 0 := by
      change overdue.page.read32 0xFFC = 0
      simp only [SparseMemory.read32, SparseMemory.read16, read8_overdue]
      decide
    rw [decoded, hword]
    rfl
  have hdec' : oddReturn.fetched.dec = csrrwi := hdec
  have hperm : ¬ oddReturn.fetched.CsrDenied .csrrwi := by
    rw [CsrDenied, hdec']
    decide
  have hvalid : oddReturn.isValidPc := isValidPc_of_allowedPcs_eq rfl
  have hstep := step_of_isValidPc hvalid
  rw [exec_csr (congrArg Op.tgt hdec') (congrArg Op.opt hdec') (by rw [hdec']; decide),
    if_neg hperm, csrNew, hdec'] at hstep
  refine ⟨_, hstep, ?_, rfl, CsrFile.read_write_self ..⟩
  change oddReturn.pc + oddReturn.decoded.length = 0x1000
  rw [hdec]
  rfl

/-- The `mret` returns to the odd address. -/
theorem not_aligned_oddReturn :
    let _ : Platform := returningOdd
    ((∀ x, (decode x).AlignedTargets) ∧ (∀ x, (decode16 x).AlignedTargets) ∧ Aligned 0xFFC) ∧
    ∃ l, Run oddReturn l ∧ ¬ ∀ p ∈ l, Aligned p.2.commit.pc := by
  intro _
  have hmret : mret.AlignedTargets :=
    ⟨fun h => absurd h (by decide), fun h => absurd h (by decide)⟩
  have hcsrrwi : csrrwi.AlignedTargets :=
    ⟨fun h => absurd h (by decide), fun h => absurd h (by decide)⟩
  have hdecode16 : ∀ x, (decode16 x).AlignedTargets := by
    intro x
    change (if x = 0 then csrrwi else mret).AlignedTargets
    split_ifs
    · exact hcsrrwi
    · exact hmret
  refine ⟨⟨fun _ => hmret, hdecode16, by decide⟩, ?_⟩
  -- the first pair of calls leaves 1 in `mepc`, the second returns there
  obtain ⟨s, hstep, hnext, hmem, hmepc⟩ := exists_step_oddReturn
  obtain ⟨hopts, -, hallowed⟩ := Reachable.sameConfig (.step .init hstep)
  have htake : ¬ s.TakesTimer := not_takesTimer_of_mtiEnabled (by rw [hopts]; rfl)
  have hpc : s.commit.pc = 0x1000 := (pc_commit_of_not_takesTimer htake).trans hnext
  have hdec : s.commit.decoded = mret := by
    have hword : s.commit.mem.read32 s.commit.pc = 0x01010101 := by
      rw [hpc, commit_mem, hmem]
      change overdue.page.read32 0x1000 = _
      simp only [SparseMemory.read32, SparseMemory.read16, read8_overdue]
      decide
    rw [decoded, hword]
    rfl
  have hvalid : s.commit.isValidPc :=
    isValidPc_of_allowedPcs_eq ((commit_allowedPcs s).trans hallowed)
  have hmti : s.commit.opts.mtiEnabled = false := by rw [commit_opts, hopts]; rfl
  obtain ⟨s', hstep', hpc'⟩ := exists_step_mret (congrArg Op.tgt hdec) hvalid hmti
  have hodd : s'.commit.pc = 1 := by
    rw [hpc', read_commit_of_not_takesTimer htake (by decide), hmepc]
  have hrun : Run oddReturn [(oddReturn, s), (s.commit, s')] :=
    .cons 0 0 hstep (.cons 0 0 hstep' (.nil _))
  refine ⟨_, hrun, fun h => ?_⟩
  have heven := h (s.commit, s') (by simp)
  rw [hodd] at heven
  exact absurd heven (by decide)

end Model

end Riscv32Sim
