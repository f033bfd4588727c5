import Riscv32Sim.Iss.Fault
import Riscv32Sim.Lib.ChangeLog

/-!
# The staged changes

`step` stages a record of each write to the register file and to the CSR file, and `main` prints
them before `commit` clears the lists. The records undo the step. They redo it as well, unless the
instruction writes a value other than 0 to register 0: the record then has the value, and the
register does not.

## Main definitions

* `undoGpr`, `undoCsr`, `redoGpr`, `redoCsr`: a file after the records of a log
* `Model.LoggedBy`, `Model.Logged`: the staged records undo what has happened, and redo the writes
  to CSRs
* `Model.rdValue`, `Model.LosesValue`: the value that an instruction writes to `rd`, and when
  register 0 drops it

## Main results

* `Model.logged_step`: every step is logged
* `Model.Reachable.undo`: in every run, the staged records undo the step
* `Model.Reachable.redo_iff`: when they redo it
-/

namespace Riscv32Sim

/-- Store `prev` of each record at its index, from last to first. -/
def undoGpr : List GprChange → (RegIndex → BitVec 32) → RegIndex → BitVec 32 :=
  ChangeLog.undo (fun i => i.setWidth 8) GprChange.index GprChange.prev

@[inherit_doc undoGpr]
def undoCsr : List CsrChange → (CsrAddr → BitVec 32) → CsrAddr → BitVec 32 :=
  ChangeLog.undo (fun a => a.setWidth 16) CsrChange.index CsrChange.prev

/-- Store `next` of each record at its index, from first to last. -/
def redoGpr : List GprChange → (RegIndex → BitVec 32) → RegIndex → BitVec 32 :=
  ChangeLog.replay (fun i => i.setWidth 8) GprChange.index GprChange.next

@[inherit_doc redoGpr]
def redoCsr : List CsrChange → (CsrAddr → BitVec 32) → CsrAddr → BitVec 32 :=
  ChangeLog.replay (fun a => a.setWidth 16) CsrChange.index CsrChange.next

/-! ## One record -/

/-- A record names one register. -/
theorem setWidth_injective {v w : ℕ} (h : v ≤ w) :
    Function.Injective fun x : BitVec v => x.setWidth w := by
  intro x y hxy
  have hnat := congrArg BitVec.toNat hxy
  have hle : 2 ^ v ≤ 2 ^ w := Nat.pow_le_pow_right (by decide) h
  simp only [BitVec.toNat_setWidth] at hnat
  rw [Nat.mod_eq_of_lt (by omega), Nat.mod_eq_of_lt (by omega)] at hnat
  exact BitVec.eq_of_toNat_eq hnat

/-- The record of a write to the register file undoes it, also at register 0. -/
theorem undoGpr_write (f : RegFile) (index : RegIndex) (data : BitVec 32) :
    undoGpr [f.change index data] (f.write index data).read = f.read := by
  rw [undoGpr, ChangeLog.undo_singleton]
  refine (ChangeLog.store_eq_iff (setWidth_injective (by decide)) index _ _ _).mpr ⟨rfl, ?_⟩
  intro i hi
  exact (f.read_write_of_ne data hi).symm

/-- It redoes the write unless that is a write to register 0 of a value other than 0. -/
theorem redoGpr_write_iff (f : RegFile) (index : RegIndex) (data : BitVec 32) :
    redoGpr [f.change index data] f.read = (f.write index data).read ↔ (index = 0 → data = 0) := by
  rw [redoGpr, ChangeLog.replay_singleton]
  refine (ChangeLog.store_eq_iff (setWidth_injective (by decide)) index _ _ _).trans ?_
  constructor
  · rintro ⟨hself, -⟩ rfl
    rw [RegFile.read_zero] at hself
    exact hself.symm
  · intro h
    refine ⟨?_, fun i hi => f.read_write_of_ne data hi⟩
    rcases eq_or_ne index 0 with rfl | hne
    · rw [RegFile.read_zero]
      exact (h rfl).symm
    · rw [RegFile.read_write, if_pos ⟨rfl, hne⟩]
      rfl

theorem undoCsr_write (f : CsrFile) (addr : CsrAddr) (v : BitVec 32) :
    undoCsr [f.change addr v] (f.write addr v).read = f.read := by
  rw [undoCsr, ChangeLog.undo_singleton]
  refine (ChangeLog.store_eq_iff (setWidth_injective (by decide)) addr _ _ _).mpr ⟨rfl, ?_⟩
  intro a ha
  exact (f.read_write_of_ne v ha).symm

theorem redoCsr_write (f : CsrFile) (addr : CsrAddr) (v : BitVec 32) :
    redoCsr [f.change addr v] f.read = (f.write addr v).read := by
  rw [redoCsr, ChangeLog.replay_singleton]
  refine (ChangeLog.store_eq_iff (setWidth_injective (by decide)) addr _ _ _).mpr ⟨?_, ?_⟩
  · exact f.read_write_self addr v
  · exact fun a ha => f.read_write_of_ne v ha

namespace Model

/-! ## Logged changes of the state -/

/-- Between `e` and `e'` the records `g` and `c` have been staged. They undo what has happened to
the two files, and `c` redoes it. -/
structure LoggedBy (e e' : Model) (g : List GprChange) (c : List CsrChange) : Prop where
  gprStaged : e'.curState.gprStaged = e.curState.gprStaged ++ g
  csrStaged : e'.curState.csrStaged = e.curState.csrStaged ++ c
  undoGpr : undoGpr g e'.regf.read = e.regf.read
  undoCsr : undoCsr c e'.csrf.read = e.csrf.read
  redoCsr : redoCsr c e.csrf.read = e'.csrf.read

/-- What has happened between `e` and `e'` is in the staged records. -/
def Logged (e e' : Model) : Prop := ∃ g c, LoggedBy e e' g c

/-- Nothing has happened to the two files. -/
theorem logged_of_eq {e e' : Model} (hg : e'.curState.gprStaged = e.curState.gprStaged)
    (hc : e'.curState.csrStaged = e.curState.csrStaged) (hregf : e'.regf = e.regf)
    (hcsrf : e'.csrf = e.csrf) : Logged e e' := by
  refine ⟨[], [], ?_, ?_, ?_, ?_, ?_⟩
  · rw [hg, List.append_nil]
  · rw [hc, List.append_nil]
  · rw [hregf, undoGpr, ChangeLog.undo_nil]
  · rw [hcsrf, undoCsr, ChangeLog.undo_nil]
  · rw [hcsrf, redoCsr, ChangeLog.replay_nil]

theorem Logged.trans {e e' e'' : Model} (h : Logged e e') (h' : Logged e' e'') : Logged e e'' := by
  obtain ⟨g, c, h⟩ := h
  obtain ⟨g', c', h'⟩ := h'
  refine ⟨g ++ g', c ++ c', ?_, ?_, ?_, ?_, ?_⟩
  · rw [h'.gprStaged, h.gprStaged, List.append_assoc]
  · rw [h'.csrStaged, h.csrStaged, List.append_assoc]
  -- the records of the second part are undone first, and redone last
  · calc undoGpr (g ++ g') e''.regf.read
        = undoGpr g (undoGpr g' e''.regf.read) := ChangeLog.undo_append ..
      _ = e.regf.read := by rw [h'.undoGpr, h.undoGpr]
  · calc undoCsr (c ++ c') e''.csrf.read
        = undoCsr c (undoCsr c' e''.csrf.read) := ChangeLog.undo_append ..
      _ = e.csrf.read := by rw [h'.undoCsr, h.undoCsr]
  · calc redoCsr (c ++ c') e.csrf.read
        = redoCsr c' (redoCsr c e.csrf.read) := ChangeLog.replay_append ..
      _ = e''.csrf.read := by rw [h.redoCsr, h'.redoCsr]

theorem logged_writeGpr (e : Model) (index : RegIndex) (val : BitVec 32) :
    Logged e (e.writeGpr index val) :=
  ⟨[e.regf.change index val], [], rfl, (List.append_nil _).symm, undoGpr_write .., rfl, rfl⟩

theorem logged_writeCsr (e : Model) (index : CsrAddr) (val : BitVec 32) :
    Logged e (e.writeCsr index val) :=
  ⟨[], [e.csrf.change index val], (List.append_nil _).symm, rfl, rfl, undoCsr_write ..,
    redoCsr_write ..⟩

theorem logged_setPc (e : Model) (v : BitVec 32) : Logged e (e.setPc v) :=
  logged_of_eq rfl rfl rfl rfl

section Log

variable [Platform]

theorem logged_handleSysExit (e : Model) : Logged e e.handleSysExit := by
  apply logged_of_eq <;> simp

theorem logged_savePc (e : Model) (cause : TrapCause) : Logged e (e.savePc cause) := by
  rw [savePc_eq]
  split_ifs
  · exact (logged_writeCsr ..).trans (logged_handleSysExit _)
  · exact logged_writeCsr ..

/-- A trap writes three CSRs, and logs each of them. -/
theorem logged_enterTrap (e : Model) (cause : TrapCause) (vector : BitVec 32) :
    Logged e (e.enterTrap cause vector) :=
  (((logged_writeCsr ..).trans (logged_writeCsr ..)).trans (logged_setPc ..)).trans
    (logged_savePc ..)

omit [Platform] in
theorem logged_handleMret (e : Model) : Logged e e.handleMret :=
  ((logged_writeCsr ..).trans (logged_setPc ..)).trans (logged_of_eq rfl rfl rfl rfl)

theorem Effect.logged {e e' : Model} (h : Effect e e') : Logged e e' := by
  cases h with
  | gpr v htgt => exact logged_writeGpr ..
  | jump link v htgt => exact (logged_writeGpr ..).trans (logged_setPc ..)
  | store w mem htgt hmem hopt => exact logged_of_eq rfl rfl rfl rfl
  | branch v htgt => exact logged_setPc ..
  | skip htgt => exact logged_of_eq rfl rfl rfl rfl
  | csr v tmp htgt hw => exact (logged_writeCsr ..).trans (logged_writeGpr ..)
  | mret htgt => exact logged_handleMret e
  | trap cause h hecall => exact logged_enterTrap ..

/-- A fault before the instruction is logged as well. -/
theorem logged_entered (s : Model) : Logged s s.entered := by
  have hfetch : Logged s s.fetched := logged_of_eq rfl rfl rfl rfl
  unfold entered faulted
  split_ifs
  · exact hfetch
  · exact hfetch.trans (logged_enterTrap ..)

/-- **Every step is logged**, whether it traps, traps twice or writes a CSR several times. -/
theorem logged_step {s s' : Model} (h : s.step = .ok s') : Logged s s' :=
  s.logged_entered.trans (effect_of_step h).logged

/-! ## Undoing a step -/

/-- An iteration starts with no staged records. -/
theorem Reachable.staged_eq_nil {s₀ s : Model} {p : Phase} (h : Reachable s₀ p s)
    (h₀ : s₀.curState.gprStaged = [] ∧ s₀.curState.csrStaged = []) (hp : p = .ready) :
    s.curState.gprStaged = [] ∧ s.curState.csrStaged = [] := by
  induction h with
  | init => exact h₀
  | step _ hstep ih => exact absurd hp (by decide)
  | commit _ ih => exact ⟨rfl, rfl⟩
  | tick _ ih => exact ih hp

theorem staged_init (opts : Options) (entry : BitVec 32)
    (progbitRanges : List (BitVec 64 × BitVec 64)) (tohostAddr : BitVec 32) (mem : AddressRouter) :
    (Model.init opts entry progbitRanges tohostAddr mem).curState.gprStaged = [] ∧
      (Model.init opts entry progbitRanges tohostAddr mem).curState.csrStaged = [] :=
  ⟨Platform.hartState_gprStaged entry, Platform.hartState_csrStaged entry⟩

/-- **The staged records are a complete undo log**: in every run an iteration starts without any,
those that its step stages undo the step, and `commit` clears them. -/
theorem Reachable.undo {opts : Options} {entry : BitVec 32}
    {progbitRanges : List (BitVec 64 × BitVec 64)} {tohostAddr : BitVec 32} {mem : AddressRouter}
    {s : Model} (h : Reachable (Model.init opts entry progbitRanges tohostAddr mem) .ready s) :
    (s.curState.gprStaged = [] ∧ s.curState.csrStaged = []) ∧
    (s.decoded.WellFormed → ∃ s', s.step = .ok s') ∧
    ∀ s', s.step = .ok s' →
      (undoGpr s'.curState.gprStaged s'.regf.read = s.regf.read ∧
        undoCsr s'.curState.csrStaged s'.csrf.read = s.csrf.read) ∧
      s'.commit.curState.gprStaged = [] ∧ s'.commit.curState.csrStaged = [] := by
  have hnil := h.staged_eq_nil (staged_init ..) rfl
  refine ⟨hnil, exists_step, fun s' hstep => ⟨?_, rfl, rfl⟩⟩
  obtain ⟨g, c, hlog⟩ := logged_step hstep
  rw [hlog.gprStaged, hlog.csrStaged, hnil.1, hnil.2]
  exact ⟨hlog.undoGpr, hlog.undoCsr⟩

/-! ## Redoing a step -/

/-- The value that the instruction decoded in `e` writes to `rd`, if it writes one: the result of
an operation or the link of a jump, the loaded value, or the old value of the CSR. -/
def rdValue (e : Model) : Option (BitVec 32) :=
  match e.dec.tgt, e.dec.opt with
  | .alu, .alu f =>
    if isJump f then some (e.pc + e.dec.length) else (doAlu f e.opd₁ e.opd₂).toOption
  | .load, .load _ => e.load.toOption
  | .csr, .sys sys => if e.CsrDenied sys then none else some (e.csrOld sys)
  | _, _ => none

/-- The instruction decoded in `e` writes a value other than 0 to register 0. -/
def LosesValue (e : Model) : Prop := e.dec.rd = 0 ∧ ∃ v, e.rdValue = some v ∧ v ≠ 0

/-- The register file and the records of it after an instruction. -/
theorem exists_exec_rdValue {e : Model} (hwf : e.dec.WellFormed) :
    ∃ e', e.exec = .ok e' ∧ e'.regf = e.rdValue.elim e.regf (e.regf.write e.dec.rd) ∧
      e'.curState.gprStaged =
        e.curState.gprStaged ++ (e.rdValue.map (e.regf.change e.dec.rd)).toList := by
  obtain ⟨e', hexec, hex⟩ := exists_executed hwf
  refine ⟨e', hexec, ?_⟩
  cases hex with
  | alu f v htgt hopt hv hj =>
    simp only [rdValue, htgt, hopt, hv, if_neg hj]
    exact ⟨rfl, rfl⟩
  | jump f v htgt hopt hv hj =>
    simp only [rdValue, htgt, hopt, if_pos hj]
    exact ⟨rfl, rfl⟩
  | load l v htgt hopt hv =>
    simp only [rdValue, htgt, hopt, hv]
    exact ⟨rfl, rfl⟩
  | csr sys htgt hopt hd =>
    simp only [rdValue, htgt, hopt, if_neg hd]
    split_ifs <;> exact ⟨rfl, rfl⟩
  -- the other instructions write no register
  | mret htgt =>
    simp only [rdValue, htgt]
    exact ⟨rfl, (List.append_nil _).symm⟩
  | denied sys htgt hopt hd => simp [rdValue, htgt, hopt, hd]
  | store w htgt | taken b htgt | untaken b htgt | illegal htgt | ebreak htgt | ecall htgt =>
    simp [rdValue, htgt]

/-- The records of the registers redo the step unless it writes a value other than 0 to
register 0. -/
theorem redoGpr_step_iff {s s' : Model} (hwf : s.decoded.WellFormed)
    (hnil : s.curState.gprStaged = []) (hstep : s.step = .ok s') :
    redoGpr s'.curState.gprStaged s.regf.read = s'.regf.read ↔ ¬ s.entered.LosesValue := by
  obtain ⟨s'', hexec, hregf, hgpr⟩ := exists_exec_rdValue (s.entered_dec.symm ▸ hwf)
  obtain rfl := Except.ok.inj (hexec.symm.trans (s.step_eq.symm.trans hstep))
  rw [hgpr, hregf, entered_gprStaged, hnil, entered_regf, LosesValue, List.nil_append]
  cases hv : s.entered.rdValue with
  | none => simp [redoGpr]
  | some v =>
    refine (redoGpr_write_iff s.regf s.entered.dec.rd v).trans ?_
    simp

/-- **When the staged records are a redo log**: in every run those of the CSRs redo the step, and
those of the registers do unless the instruction writes a value other than 0 to register 0. -/
theorem Reachable.redo_iff {opts : Options} {entry : BitVec 32}
    {progbitRanges : List (BitVec 64 × BitVec 64)} {tohostAddr : BitVec 32} {mem : AddressRouter}
    {s : Model} (h : Reachable (Model.init opts entry progbitRanges tohostAddr mem) .ready s)
    (hwf : s.decoded.WellFormed) :
    (∃ s', s.step = .ok s' ∧
      redoGpr s'.curState.gprStaged s.regf.read = s'.regf.read ∧
      redoCsr s'.curState.csrStaged s.csrf.read = s'.csrf.read) ↔
    ¬ s.entered.LosesValue := by
  have hnil := h.staged_eq_nil (staged_init ..) rfl
  obtain ⟨s', hstep⟩ := exists_step hwf
  have hcsr : redoCsr s'.curState.csrStaged s.csrf.read = s'.csrf.read := by
    obtain ⟨g, c, hlog⟩ := logged_step hstep
    rw [hlog.csrStaged, hnil.2]
    exact hlog.redoCsr
  rw [← redoGpr_step_iff hwf hnil.1 hstep]
  constructor
  · rintro ⟨s'', hstep', hredo, -⟩
    obtain rfl := Except.ok.inj (hstep.symm.trans hstep')
    exact hredo
  · exact fun hredo => ⟨s', hstep, hredo, hcsr⟩

end Log

/-- The first step of a program of `addi` is undone. -/
theorem undo_addi :
    let _ : Platform := Platform.always addi
    ∃ s', (single addi).step = .ok s' ∧
      undoGpr s'.curState.gprStaged s'.regf.read = (single addi).regf.read := by
  intro _
  have hdec : (single addi).decoded = addi := decoded_always addi _
  obtain ⟨-, hexists, hundo⟩ := Reachable.undo (.init : Reachable (single addi) .ready _)
  obtain ⟨s', hstep⟩ := hexists (hdec.symm ▸ .alu .add rfl rfl rfl)
  exact ⟨s', hstep, (hundo s' hstep).1.1⟩

/-- It is redone as well. -/
theorem redo_addi :
    let _ : Platform := Platform.always addi
    ∃ s', (single addi).step = .ok s' ∧
      redoGpr s'.curState.gprStaged (single addi).regf.read = s'.regf.read := by
  intro _
  have hdec : (single addi).decoded = addi := decoded_always addi _
  have hlose : ¬ (single addi).entered.LosesValue := by
    rintro ⟨hrd, -⟩
    rw [dec, entered_dec, hdec] at hrd
    exact absurd hrd (by decide)
  obtain ⟨s', hstep, hredo, -⟩ :=
    (Reachable.redo_iff (.init : Reachable (single addi) .ready _)
      (hdec.symm ▸ .alu .add rfl rfl rfl)).mpr hlose
  exact ⟨s', hstep, hredo⟩

/-- The record of `addi x0, x0, 5` has the value 5 for a register that stays 0. -/
theorem not_redo_nop :
    let _ : Platform := Platform.always nop
    ∃ s', (single nop).step = .ok s' ∧
      redoGpr s'.curState.gprStaged (single nop).regf.read ≠ s'.regf.read := by
  intro _
  have hdec : (single nop).decoded = nop := decoded_always nop _
  have hwf : (single nop).decoded.WellFormed := hdec.symm ▸ .alu .add rfl rfl rfl
  have hlose : (single nop).entered.LosesValue := by
    have hentered : (single nop).entered.dec = nop := (entered_dec _).trans hdec
    have hvalue : (single nop).entered.rdValue = some 5 := by
      simp only [rdValue, opd₁, opd₂, hentered]
      change (doAlu .add ((single nop).entered.regf.read 0) 5).toOption = some 5
      rw [RegFile.read_zero]
      rfl
    exact ⟨congrArg Op.rd hentered, 5, hvalue, by decide⟩
  obtain ⟨s', hstep⟩ := exists_step hwf
  exact ⟨s', hstep, fun hredo => (redoGpr_step_iff hwf rfl hstep).mp hredo hlose⟩

end Model

end Riscv32Sim
