import Riscv32Sim.Iss.Frame

/-!
# Refinement of RV32IM

One iteration of the main loop, `step` followed by `commit`, computes the reference semantics of
the integer instructions. The memory of the reference state is read through the byte accesses of
the router or through those of the page map: an access outside the timer windows does not tell
the two apart.

## Main definitions

* `View`: a reading of the memory as bytes, and `View.Sees`: an access goes through it
* `Model.arch`: the architectural state
* `Model.DataOutsideTimers`, `Model.ShiftInRange`, `Model.TimerDisabled`: the preconditions

## Main results

* `Model.load_eq`: a load yields the reference value
* `Model.arch_commit_step`: one iteration in one view
* `Model.step_commit_refines_rv32im`: the refinement
-/

namespace Riscv32Sim

open LittleEndian

section Views

variable [Platform]

/-- A reading of the memory as bytes. -/
abbrev View := AddressRouter → ByteMemory 32

/-- An access of width `w` at `a` loads from and stores to the bytes of the view. -/
def View.Sees (view : View) (r : AddressRouter) (a : BitVec 32) (w : Width) : Prop :=
  r.readAs a w = load (view r) a w.bytes ∧
    ∀ v, view (r.writeAs a w v) = store (view r) a w.bytes v

/-- The accesses outside the timer windows go through the byte accesses of the router. -/
theorem sees_read8 {r : AddressRouter} {a : BitVec 32} {w : Width}
    (h : ∀ i < w.bytes, ¬ r.Routed (a + BitVec.ofNat 32 i)) :
    View.Sees AddressRouter.read8 r a w := by
  rcases eq_or_ne w .byte with rfl | hw
  · exact r.seesOneMemory_byte a
  · exact AddressRouter.seesOneMemory_of_not_routed hw h

/-- The accesses outside the timer windows go through the page map. -/
theorem sees_page {r : AddressRouter} {a : BitVec 32} {w : Width}
    (h : ∀ i < w.bytes, ¬ r.Routed (a + BitVec.ofNat 32 i)) :
    View.Sees (fun r => r.page.read8) r a w := by
  rcases eq_or_ne w .byte with rfl | hw
  · -- only the byte accesses are routed, and this one is not
    have ha : ¬ r.Routed a := by simpa using h 0 (by decide)
    refine ⟨?_, fun v => funext fun x => ?_⟩
    · exact (AddressRouter.read8_of_not_routed ha).trans (load_one _ a).symm
    · exact (r.page_write8_apply a x v).trans ((if_neg ha).trans (congrFun (store_one _ a v) x).symm)
  · refine ⟨?_, fun v => ?_⟩
    · rw [r.readAs_of_ne_byte a hw]
      exact r.page.readAs_eq_load a w
    · rw [r.writeAs_of_ne_byte a hw]
      exact r.page.read8_writeAs a w v

end Views

/-- A byte or a halfword shifted up and arithmetically down again is sign-extended. -/
theorem sshiftRight_shiftLeft_setWidth {n k : ℕ} (x : BitVec n) (hn : 0 < n) (hk : n + k = 32) :
    (x.setWidth 32 <<< k).sshiftRight k = x.signExtend 32 := by
  apply BitVec.eq_of_getLsbD_eq
  intro i hi
  have hmsb : (x.setWidth 32 <<< k).msb = x.msb := by
    rw [BitVec.msb_eq_getLsbD_last, BitVec.msb_eq_getLsbD_last, BitVec.getLsbD_shiftLeft,
      BitVec.getLsbD_setWidth, show 32 - 1 - k = n - 1 by omega]
    simp [show ¬ 31 < k by omega, show n - 1 < 32 by omega]
  rw [BitVec.getLsbD_sshiftRight, BitVec.getLsbD_signExtend, hmsb, BitVec.getLsbD_shiftLeft,
    BitVec.getLsbD_setWidth, Nat.add_sub_cancel_left]
  -- the low `n` bits are those of `x`; the others are copies of the sign
  by_cases h : i < n
  · simp [h, hi, show k + i < 32 by omega]
  · simp [h, hi, show ¬ k + i < 32 by omega]

namespace Model

/-- The width of a load. -/
def loadWidth : Load → Width
  | .lb | .lbu => .byte
  | .lh | .lhu => .half
  | .lw | .unnamed _ => .word

/-- The width of the data access of an instruction. -/
def dataWidth : OpType → Option Width
  | .load l => some (loadWidth l)
  | .store w => some (storeWidth w)
  | _ => none

/-- The architectural state, with the memory read through `view`. -/
def arch (view : View) (s : Model) : Rv32im.State := ⟨s.regf.read, view s.mem, s.pc⟩

section Refinement

variable [Platform]

/-- The data bytes that the instruction accesses are outside the timer windows. -/
def DataOutsideTimers (s : Model) : Prop :=
  ∀ w, dataWidth s.decoded.opt = some w → ∀ i < w.bytes,
    ¬ s.mem.Routed (s.regf.read s.decoded.rs1 + s.decoded.imm + BitVec.ofNat 32 i)

/-- The count of a shift is below 32. -/
def ShiftInRange (s : Model) : Prop :=
  ∀ f, s.decoded.opt = .alu f → f.isShift → s.fetched.opd₂.toNat < 32

omit [Platform] in
/-- Timer interrupts are disabled: by the option, in `mie` or in `mstatus`. -/
def TimerDisabled (s : Model) : Prop :=
  s.opts.mtiEnabled = false ∨ (s.csrf.read Csr.mie.toInt).getLsbD 7 = false ∨
    (s.csrf.read Csr.mstatus.toInt).getLsbD Status.mie = false

/-- The instructions of the reference semantics. -/
def IsInteger (s : Model) : Prop :=
  s.decoded.tgt = .alu ∨ s.decoded.tgt = .load ∨ s.decoded.tgt = .store ∨ s.decoded.tgt = .branch

theorem TimerDisabled.not_takesTimer {s : Model} (h : s.TimerDisabled) : ¬ s.TakesTimer := by
  rcases h with h | h | h
  · exact not_takesTimer_of_mtiEnabled h
  · rintro ⟨-, hmie, -⟩
    exact Bool.false_ne_true (h.symm.trans hmie)
  · rintro ⟨-, -, hmstatus⟩
    exact Bool.false_ne_true (h.symm.trans hmstatus)

/-- After a `commit` that takes no interrupt, the pc is the staged one. -/
theorem arch_commit (view : View) {s : Model} (h : ¬ s.TakesTimer) :
    arch view s.commit = ⟨s.regf.read, view s.mem, s.pcNext⟩ := by
  rw [arch, commit_regf, commit_mem, pc_commit_of_not_takesTimer h]

/-- A load yields the reference value. -/
theorem load_eq {view : View} {e : Model} {l : Load} (hopt : e.dec.opt = .load l) (hl : l.isNamed)
    (hsees : view.Sees e.mem (e.regf.read e.dec.rs1 + e.dec.imm) (loadWidth l)) :
    e.load = .ok (Rv32im.loadValue (view e.mem) (e.regf.read e.dec.rs1 + e.dec.imm) l) := by
  have hget : e.dec.opt.getLoad = .ok l := by rw [hopt]; rfl
  simp only [Model.load, hget, bind, Except.bind]
  cases l with
  | lb =>
    have hread : e.mem.read8 _ = _ := hsees.1
    rw [hread]
    exact congrArg Except.ok (sshiftRight_shiftLeft_setWidth _ (by decide) (by decide))
  | lh =>
    have hread : e.mem.read16 _ = _ := hsees.1
    rw [hread]
    exact congrArg Except.ok (sshiftRight_shiftLeft_setWidth _ (by decide) (by decide))
  | lw => exact congrArg Except.ok hsees.1
  | lbu => exact congrArg (fun v : BitVec 8 => Except.ok (v.setWidth 32)) hsees.1
  | lhu => exact congrArg (fun v : BitVec 16 => Except.ok (v.setWidth 32)) hsees.1
  | unnamed v => exact absurd hl (by simp [Load.isNamed])

/-- A store leaves the reference memory. -/
theorem view_writeAs {view : View} {r : AddressRouter} {a val : BitVec 32} {w : Store}
    (hw : w.isNamed) (hsees : view.Sees r a (storeWidth w)) :
    view (r.writeAs a (storeWidth w) (val.setWidth _)) = Rv32im.storeValue (view r) a val w := by
  cases w with
  | sb => exact hsees.2 _
  | sh => exact hsees.2 _
  | sw => exact (hsees.2 _).trans (congrArg (LittleEndian.store (view r) a 4) val.setWidth_eq)
  | unnamed v => exact absurd hw (by simp [Store.isNamed])

omit [Platform] in
/-- The simulator adds the length of the instruction to the pc. -/
theorem add_length_eq_nextPc (op : Op) (pc : BitVec 32) : pc + op.length = Rv32im.nextPc op pc := by
  rw [Rv32im.nextPc, BitVec.ofNat_add, BitVec.ofNat_toNat, BitVec.setWidth_eq, Op.length]
  split_ifs <;> rfl

/-- One iteration of the main loop, in one view of the memory. -/
theorem arch_commit_step {view : View} {s : Model} (hpc : s.isValidPc) (hwf : s.decoded.WellFormed)
    (hint : s.IsInteger) (hshift : s.ShiftInRange) (htimer : s.TimerDisabled)
    (hsees : ∀ w, dataWidth s.decoded.opt = some w →
      view.Sees s.mem (s.regf.read s.decoded.rs1 + s.decoded.imm) w) :
    ∃ s', s.step = .ok s' ∧ arch view s'.commit = Rv32im.exec s.decoded (arch view s) := by
  have hstep := step_of_isValidPc hpc
  -- none of these instructions writes a CSR
  have hno : ∀ t : Model, t.opts = s.opts → t.csrf = s.csrf → ¬ t.TakesTimer := by
    intro t hopts hcsrf
    refine TimerDisabled.not_takesTimer ?_
    unfold TimerDisabled
    rw [hopts, hcsrf]
    exact htimer
  cases hwf with
  | alu f htgt hopt hf =>
    have hv := doAlu_eq hf s.fetched.opd₁ s.fetched.opd₂ (hshift f hopt)
    refine ⟨_, hstep.trans (exec_alu htgt hopt hv), ?_⟩
    by_cases hj : isJump f = true
    · have hjump : f = .jal ∨ f = .jalr := by
        revert hj
        cases f <;> simp [isJump]
      rw [if_pos hj]
      refine (arch_commit view ?_).trans ?_
      · exact hno _ rfl rfl
      simp only [Rv32im.exec, hopt, if_pos hjump, ← add_length_eq_nextPc]
      rfl
    · have hjump : ¬ (f = .jal ∨ f = .jalr) := by
        rintro (rfl | rfl) <;> exact hj rfl
      rw [if_neg hj]
      refine (arch_commit view ?_).trans ?_
      · exact hno _ rfl rfl
      simp only [Rv32im.exec, hopt, if_neg hjump, ← add_length_eq_nextPc]
      rfl
  | load l htgt hopt hl =>
    have hv := load_eq (e := s.fetched) hopt hl (hsees _ (by rw [hopt]; rfl))
    refine ⟨_, hstep.trans (exec_load htgt hv), ?_⟩
    refine (arch_commit view ?_).trans ?_
    · exact hno _ rfl rfl
    simp only [Rv32im.exec, hopt, ← add_length_eq_nextPc]
    rfl
  | store w htgt hopt hw =>
    have hmem : view (s.mem.writeAs (s.regf.read s.decoded.rs1 + s.decoded.imm) (storeWidth w)
        ((s.regf.read s.decoded.rs2).setWidth _)) = _ :=
      view_writeAs hw (hsees _ (by rw [hopt]; rfl))
    refine ⟨_, hstep.trans (exec_store htgt hopt hw), ?_⟩
    refine (arch_commit view ?_).trans ?_
    · exact hno _ rfl rfl
    simp only [Rv32im.exec, hopt, ← add_length_eq_nextPc]
    exact congrArg (fun m => Rv32im.State.mk s.regf.read m (s.pc + s.decoded.length)) hmem
  | branch b htgt hopt hb =>
    refine ⟨_, hstep.trans (exec_branch htgt hopt hb), ?_⟩
    have htaken : Rv32im.taken b (s.fetched.regf.read s.fetched.dec.rs1)
        (s.fetched.regf.read s.fetched.dec.rs2) ↔
      Rv32im.taken b ((arch view s).x s.decoded.rs1) ((arch view s).x s.decoded.rs2) := Iff.rfl
    simp only [Rv32im.exec, hopt, ← add_length_eq_nextPc]
    by_cases ht : Rv32im.taken b (s.fetched.regf.read s.fetched.dec.rs1)
        (s.fetched.regf.read s.fetched.dec.rs2)
    · rw [if_pos ht, if_pos (htaken.mp ht)]
      refine (arch_commit view ?_).trans ?_
      · exact hno _ rfl rfl
      exact congrArg (Rv32im.State.mk s.regf.read (view s.mem)) (BitVec.add_comm _ _)
    · rw [if_neg ht, if_neg (mt htaken.mpr ht)]
      exact arch_commit view (hno _ rfl rfl)
  | csr _ htgt _ _ | mret htgt | illegal htgt | ebreak htgt | ecall htgt =>
    rcases hint with h | h | h | h <;> exact absurd (htgt.symm.trans h) (by decide)

/-- **`step` followed by `commit` refines RV32IM.** From a valid pc, an integer instruction whose
data lie outside the timer windows, whose shift count is below 32, with timer interrupts
disabled, leaves the registers, the memory bytes and the pc of the reference semantics; and the
division operations satisfy the tables of the instruction set. -/
theorem step_commit_refines_rv32im {s : Model} (hpc : s.isValidPc) (hwf : s.decoded.WellFormed)
    (hint : s.IsInteger) (hdata : s.DataOutsideTimers) (hshift : s.ShiftInRange)
    (htimer : s.TimerDisabled) :
    (∃ s', s.step = .ok s' ∧
      arch AddressRouter.read8 s'.commit =
        Rv32im.exec s.decoded (arch AddressRouter.read8 s) ∧
      arch (fun r => r.page.read8) s'.commit =
        Rv32im.exec s.decoded (arch (fun r => r.page.read8) s)) ∧
    (∀ a b, ∃ q r, doAlu .div a b = .ok q ∧ doAlu .rem a b = .ok r ∧ Rv32im.DivRemSpec a b q r) ∧
    ∀ a b, ∃ q r, doAlu .divu a b = .ok q ∧ doAlu .remu a b = .ok r ∧
      Rv32im.DivuRemuSpec a b q r := by
  refine ⟨?_, fun a b => ?_, fun a b => ?_⟩
  · obtain ⟨s', hs', hrouter⟩ := arch_commit_step hpc hwf hint hshift htimer fun w hw =>
      sees_read8 (hdata w hw)
    obtain ⟨s'', hs'', hpage⟩ := arch_commit_step hpc hwf hint hshift htimer fun w hw =>
      sees_page (hdata w hw)
    -- the two views are of the same step
    obtain rfl : s' = s'' := Except.ok.inj (hs'.symm.trans hs'')
    exact ⟨s', hs', hrouter, hpage⟩
  · exact ⟨_, _, doAlu_eq_of_not_isShift rfl rfl a b, doAlu_eq_of_not_isShift rfl rfl a b,
      Rv32im.div_rem_spec a b⟩
  · exact ⟨_, _, doAlu_eq_of_not_isShift rfl rfl a b, doAlu_eq_of_not_isShift rfl rfl a b,
      Rv32im.divu_remu_spec a b⟩

end Refinement

/-- `sw x2, 64(x1)`. -/
def sw : Op :=
  { imm := 64, opt := .store .sw, tgt := .store, rd := 0, rs1 := 1, rs2 := 2, hasImm := true,
    usePc := false, isCompressed := false }

/-- The simulator about to store a word at 0x80. -/
def storing : Model :=
  { single sw with regf := (RegFile.init.write 1 0x40).write 2 0x12345678 }

/-- A store beside the timer windows puts the low byte of the register first. -/
theorem refines_sw :
    let _ : Platform := Platform.always sw
    ∃ s', storing.step = .ok s' ∧
      arch AddressRouter.read8 s'.commit = Rv32im.exec sw (arch AddressRouter.read8 storing) ∧
      s'.commit.mem.read8 0x80 = 0x78 ∧ storing.mem.read8 0x80 = 0 := by
  intro _
  have hdec : storing.decoded = sw := decoded_always sw _
  have hwf : storing.decoded.WellFormed := hdec.symm ▸ .store .sw rfl rfl rfl
  have hint : storing.IsInteger := Or.inr (Or.inr (Or.inl (congrArg Op.tgt hdec)))
  have hdata : storing.DataOutsideTimers := by
    intro w hw
    have hword : w = .word := by
      rw [hdec] at hw
      exact (Option.some.inj hw).symm
    subst hword
    decide
  have hshift : storing.ShiftInRange := by
    intro f hf
    rw [hdec] at hf
    exact absurd hf (by simp [sw])
  obtain ⟨⟨s', hstep, harch, -⟩, -⟩ :=
    step_commit_refines_rv32im (s := storing) rfl hwf hint hdata hshift (Or.inl rfl)
  rw [hdec] at harch
  have hbyte : (Rv32im.exec sw (arch AddressRouter.read8 storing)).mem 0x80 = 0x78 := by decide
  exact ⟨s', hstep, harch, (congrFun (congrArg Rv32im.State.mem harch) 0x80).trans hbyte, by decide⟩

end Model

end Riscv32Sim
