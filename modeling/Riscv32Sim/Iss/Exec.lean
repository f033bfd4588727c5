import Riscv32Sim.Iss.Trap

/-!
# What an instruction does

`Effect e e'` says what executing the instruction decoded in `e` can do to it: every result of
`exec` has one of its forms. The forward equations say which one, for a well-formed instruction.

## Main definitions

* `Model.CsrDenied`, `Model.csrOld`, `Model.csrNew`: the outcome of a `csr` instruction
* `Model.CsrOutcome`, `Model.Effect`: the possible results of `csr` and of `exec`
* `Model.entered`: the state in which `step` executes the instruction
* `Model.Executed`: the results of the well-formed instructions

## Main results

* `Model.csr_eq`: `csr` in one equation
* `Model.exists_of_exec_alu`, `Model.exists_of_exec_store`: what an instruction that returns has done
* `Model.effect_of_exec`: every result of `exec` is an `Effect`
* `Model.step_eq`: `step` is `exec` from `entered`
* `Model.exists_executed`: a well-formed instruction returns, with the result `Executed` gives
-/

namespace Riscv32Sim

variable [Platform]

namespace Model

/-! ## The `csr` instructions -/

omit [Platform] in
/-- The instruction reads the CSR. -/
def csrReads (op : Op) (sys : Sys) : Bool := sys ≠ .csrrwi || op.rd ≠ 0

omit [Platform] in
/-- The instruction writes the CSR. -/
def csrWrites (op : Op) : Sys → Bool
  | .csrrw | .csrrwi | .csrrsi | .csrrci => true
  | .csrrs | .csrrc => op.rs1 ≠ 0
  | .other => false

omit [Platform] in
/-- The CSR that the instruction names. -/
def csrAddr (op : Op) : CsrAddr := op.imm.setWidth 12

omit [Platform] in
/-- The value that the instruction puts in `rd`. -/
def csrOld (s : Model) (sys : Sys) : BitVec 32 :=
  if csrReads s.dec sys then s.csrf.read (csrAddr s.dec) else 0

omit [Platform] in
/-- The value that the instruction puts in the CSR. -/
def csrNew (s : Model) (sys : Sys) : BitVec 32 :=
  match sys with
  | .csrrw => s.regf.read s.dec.rs1
  | .csrrs => s.regf.read s.dec.rs1 ||| s.csrOld sys
  | .csrrc => s.csrOld sys &&& logicalNot (s.regf.read s.dec.rs1)
  | .csrrwi => s.dec.rs1.setWidth 32
  | .csrrsi => s.dec.rs1.setWidth 32 ||| s.csrOld sys
  | .csrrci => logicalNot (s.dec.rs1.setWidth 32) &&& s.csrOld sys
  | .other => 0

/-- The access is refused. -/
def CsrDenied (s : Model) (sys : Sys) : Prop :=
  (csrReads s.dec sys ∧ ¬ s.mode.canRead s.dec.imm) ∨
    (csrWrites s.dec sys ∧ ¬ s.mode.canWrite s.dec.imm)

instance (s : Model) (sys : Sys) : Decidable (s.CsrDenied sys) :=
  inferInstanceAs (Decidable (_ ∨ _))

omit [Platform] in
theorem checkAt_of_lt {w : ℕ} {addr : BitVec w} (h : addr.toNat < 4096) :
    CsrFile.checkAt addr = .ok (addr.setWidth 12) :=
  if_pos h

omit [Platform] in
/-- The narrowing of the address to 16 bits loses nothing. -/
theorem setWidth_setWidth_imm (imm : BitVec 32) : (imm.setWidth 16).setWidth 12 = imm.setWidth 12 := by
  apply BitVec.eq_of_getLsbD_eq
  intro i hi
  simp [hi]

/-- The register and immediate forms, once the CSR has been read. -/
theorem csrReg_eq (s : Model) (sys : Sys) (himm : s.dec.imm.toNat < 4096) :
    s.csrReg sys (s.csrOld sys) =
      .ok (if csrWrites s.dec sys ∧ ¬ s.mode.canWrite s.dec.imm then s.trap .expInstIllegal
        else (if csrWrites s.dec sys then s.writeCsr (csrAddr s.dec) (s.csrNew sys)
          else s).writeGpr s.dec.rd (s.csrOld sys)) := by
  have hreg := s.mode.canRead_regIndex s.dec.rs1
  have hlt : (s.dec.imm.setWidth 16).toNat < 4096 := by
    rw [BitVec.toNat_setWidth]
    omega
  have haddr : CsrFile.checkAt (s.dec.imm.setWidth 16) = .ok (csrAddr s.dec) := by
    rw [checkAt_of_lt hlt, setWidth_setWidth_imm, csrAddr]
  -- `csrrs` and `csrrc` with register 0 do not write, so they pass without the check
  by_cases hw : s.mode.canWrite s.dec.imm = true
  · cases sys with
    | csrrw | csrrwi | csrrsi | csrrci | other =>
      simp [csrReg, csrImm, csrWrites, csrNew, hreg, haddr, hw, bind, Except.bind, pure, Except.pure]
    | csrrs | csrrc =>
      by_cases h0 : s.dec.rs1 = 0#5 <;>
        simp [csrReg, csrImm, csrWrites, csrNew, hreg, haddr, hw, h0, bind, Except.bind, pure,
          Except.pure]
  · cases sys with
    | csrrw | csrrwi | csrrsi | csrrci | other =>
      simp [csrReg, csrImm, csrWrites, hreg, hw, pure, Except.pure]
    | csrrs | csrrc =>
      by_cases h0 : s.dec.rs1 = 0#5 <;>
        simp [csrReg, csrImm, csrWrites, hreg, hw, h0, pure, Except.pure]

/-- **A `csr` instruction**: it is refused, or it writes the CSR if it has to and puts the old
value in `rd`. -/
theorem csr_eq {s : Model} {sys : Sys} (hopt : s.dec.opt = .sys sys)
    (himm : s.dec.imm.toNat < 4096) :
    s.csr =
      .ok (if s.CsrDenied sys then s.trap .expInstIllegal
        else (if csrWrites s.dec sys then s.writeCsr (csrAddr s.dec) (s.csrNew sys)
          else s).writeGpr s.dec.rd (s.csrOld sys)) := by
  have hreg := s.csrReg_eq sys himm
  have hcheck : CsrFile.checkAt s.dec.imm = .ok (csrAddr s.dec) := checkAt_of_lt himm
  have hsys : s.dec.opt.getSys = .ok sys := by rw [hopt]; rfl
  -- the two reads of the source, one behind the check and one that is skipped
  have hcsr : s.csr =
      if csrReads s.dec sys then
        if s.mode.canRead s.dec.imm then s.csrReg sys (s.csrf.read (csrAddr s.dec))
        else .ok (s.trap .expInstIllegal)
      else s.csrReg sys 0 := by
    simp only [csr, hsys, hcheck, csrReads, bind, Except.bind, pure, Except.pure, ne_eq,
      Bool.or_eq_true, decide_eq_true_eq]
  rw [hcsr]
  by_cases hr : csrReads s.dec sys = true
  · have hold : s.csrOld sys = s.csrf.read (csrAddr s.dec) := if_pos hr
    rw [if_pos hr, ← hold]
    by_cases hc : s.mode.canRead s.dec.imm = true
    · have hdenied : s.CsrDenied sys ↔ csrWrites s.dec sys ∧ ¬ s.mode.canWrite s.dec.imm := by
        simp [CsrDenied, hc]
      rw [if_pos hc, hreg]
      simp only [hdenied]
    · rw [if_neg hc, if_pos (show s.CsrDenied sys from Or.inl ⟨hr, hc⟩)]
  · have hold : s.csrOld sys = 0 := if_neg hr
    have hdenied : s.CsrDenied sys ↔ csrWrites s.dec sys ∧ ¬ s.mode.canWrite s.dec.imm := by
      simp [CsrDenied, hr]
    rw [if_neg hr, ← hold, hreg]
    simp only [hdenied]

/-! ## Stores -/

omit [Platform] in
/-- The width of a store. -/
def storeWidth : Store → Width
  | .sb => .byte
  | .sh => .half
  | .sw | .unnamed _ => .word

/-- A store writes the low bytes of the register. -/
theorem storeMem_of_isNamed {w : Store} (hw : w.isNamed) (mem : AddressRouter)
    (addr val : BitVec 32) :
    storeMem mem addr val w = .ok (mem.writeAs addr (storeWidth w) (val.setWidth _)) := by
  cases w with
  | sb | sh => rfl
  | sw => exact congrArg (fun v => Except.ok (mem.write32 addr v)) val.setWidth_eq.symm
  | unnamed v => exact absurd hw (by simp [Store.isNamed])

theorem eq_writeAs_of_storeMem {w : Store} {mem mem' : AddressRouter} {addr val : BitVec 32}
    (h : storeMem mem addr val w = .ok mem') :
    mem' = mem.writeAs addr (storeWidth w) (val.setWidth _) := by
  have hw : w.isNamed := by
    cases w with
    | sb | sh | sw => rfl
    | unnamed v => exact absurd h (by simp [storeMem, throw, throwThe, MonadExceptOf.throw])
  rw [storeMem_of_isNamed hw] at h
  exact (Except.ok.inj h).symm

/-! ## Every result of `exec` -/

/-- What executing the instruction decoded in `e` can do. -/
inductive Effect (e : Model) : Model → Prop
  | gpr (v : BitVec 32) (htgt : e.dec.tgt = .alu ∨ e.dec.tgt = .load ∨ e.dec.tgt = .csr) :
    Effect e (e.writeGpr e.dec.rd v)
  | jump (link v : BitVec 32) (htgt : e.dec.tgt = .alu) :
    Effect e ((e.writeGpr e.dec.rd link).setPc v)
  | store (w : Store) (mem : AddressRouter) (htgt : e.dec.tgt = .store)
    (hmem : storeMem e.mem (e.regf.read e.dec.rs1 + e.dec.imm) (e.regf.read e.dec.rs2) w = .ok mem)
    (hopt : e.dec.opt = .store w) :
    Effect e { e with mem := mem, isDone := e.regf.read e.dec.rs1 + e.dec.imm == e.tohostAddr }
  | branch (v : BitVec 32) (htgt : e.dec.tgt = .branch) : Effect e (e.setPc v)
  | skip (htgt : e.dec.tgt = .branch) : Effect e e
  | csr (v tmp : BitVec 32) (htgt : e.dec.tgt = .csr) (hw : e.mode.canWrite e.dec.imm = true) :
    Effect e ((e.writeCsr (csrAddr e.dec) v).writeGpr e.dec.rd tmp)
  | mret (htgt : e.dec.tgt = .mret) : Effect e e.handleMret
  | trap (cause : TrapCause) (h : IsException cause) (hecall : cause.isEcall → e.dec.tgt = .ecall)
    (hne : cause ≠ .expInstAccessFault) : Effect e (e.enterTrap cause 0)

theorem effect_illegal (e : Model) : Effect e (e.trap .expInstIllegal) := by
  rw [trap_of_isException .illegal]
  exact .trap _ .illegal (fun h => absurd h (by decide)) (by decide)

omit [Platform] in
/-- A computation that returns has returned at each of its steps. -/
theorem exists_of_bind_eq_ok {α β : Type} {x : Except Error α} {f : α → Except Error β} {r : β}
    (h : x >>= f = .ok r) : ∃ a, x = .ok a ∧ f a = .ok r := by
  cases x with
  | error err => exact absurd h (by simp [bind, Except.bind])
  | ok a => exact ⟨a, rfl, h⟩

omit [Platform] in
theorem eq_csrAddr_of_checkAt {e : Model} {addr : CsrAddr}
    (h : CsrFile.checkAt (e.dec.imm.setWidth 16) = .ok addr) : addr = csrAddr e.dec := by
  unfold CsrFile.checkAt at h
  split_ifs at h with hlt
  rw [← Except.ok.inj h, setWidth_setWidth_imm, csrAddr]

/-- The immediate forms write the CSR and `rd`, or only `rd`, or trap. -/
theorem csrImm_cases {e e' : Model} {sys : Sys} {tmp : BitVec 32}
    (h : e.csrImm sys tmp = .ok e') :
    ((sys = .csrrwi ∨ sys = .csrrsi ∨ sys = .csrrci) ∧
      ((∃ v, e.mode.canWrite e.dec.imm = true ∧
        e' = (e.writeCsr (csrAddr e.dec) v).writeGpr e.dec.rd tmp) ∨
      e' = e.trap .expInstIllegal)) ∨
    (¬ (sys = .csrrwi ∨ sys = .csrrsi ∨ sys = .csrrci) ∧ e' = e.writeGpr e.dec.rd tmp) := by
  by_cases hsys : sys = .csrrwi ∨ sys = .csrrsi ∨ sys = .csrrci
  · refine Or.inl ⟨hsys, ?_⟩
    by_cases hw : e.mode.canWrite e.dec.imm = true
    · simp only [csrImm, if_pos hsys, if_pos hw] at h
      obtain ⟨addr, haddr, h⟩ := exists_of_bind_eq_ok h
      obtain rfl := eq_csrAddr_of_checkAt haddr
      exact Or.inl ⟨_, hw, (Except.ok.inj h).symm⟩
    · simp only [csrImm, if_pos hsys, if_neg hw] at h
      exact Or.inr (Except.ok.inj h).symm
  · simp only [csrImm, if_neg hsys] at h
    exact Or.inr ⟨hsys, (Except.ok.inj h).symm⟩

/-- What a `csr` instruction can do: it is refused, it reads, or it writes the CSR that it may
write. -/
inductive CsrOutcome (e : Model) (sys : Sys) : Model → Prop
  | refused : CsrOutcome e sys (e.trap .expInstIllegal)
  | reads (tmp : BitVec 32) : CsrOutcome e sys (e.writeGpr e.dec.rd tmp)
  | writes (v tmp : BitVec 32) (hwrites : csrWrites e.dec sys = true)
    (hw : e.mode.canWrite e.dec.imm = true) :
    CsrOutcome e sys ((e.writeCsr (csrAddr e.dec) v).writeGpr e.dec.rd tmp)

theorem csrOutcome_of_csrReg {e e' : Model} {sys : Sys} {tmp : BitVec 32}
    (h : e.csrReg sys tmp = .ok e') : CsrOutcome e sys e' := by
  by_cases hsys : sys = .csrrw ∨ (sys = .csrrs ∧ e.dec.rs1 ≠ 0) ∨ (sys = .csrrc ∧ e.dec.rs1 ≠ 0)
  · have hreg := e.mode.canRead_regIndex e.dec.rs1
    by_cases hw : e.mode.canWrite e.dec.imm = true
    · simp only [csrReg, if_pos hsys, if_pos hreg, if_pos hw] at h
      obtain ⟨addr, haddr, h⟩ := exists_of_bind_eq_ok h
      obtain rfl := eq_csrAddr_of_checkAt haddr
      -- a register form is no immediate form: nothing follows but the write of `rd`
      rcases csrImm_cases h with ⟨himm, -⟩ | ⟨-, rfl⟩
      · rcases hsys with rfl | ⟨rfl, -⟩ | ⟨rfl, -⟩ <;> exact absurd himm (by decide)
      · refine .writes _ _ ?_ hw
        rcases hsys with rfl | ⟨rfl, hrs1⟩ | ⟨rfl, hrs1⟩
        · rfl
        · simpa [csrWrites] using hrs1
        · simpa [csrWrites] using hrs1
    · simp only [csrReg, if_pos hsys, if_pos hreg, if_neg hw] at h
      obtain rfl := Except.ok.inj h
      exact .refused
  · simp only [csrReg, if_neg hsys] at h
    rcases csrImm_cases h with ⟨himm, ⟨v, hw, rfl⟩ | rfl⟩ | ⟨-, rfl⟩
    · refine .writes _ _ ?_ hw
      rcases himm with rfl | rfl | rfl <;> rfl
    · exact .refused
    · exact .reads _

theorem csrOutcome_of_csr {e e' : Model} (h : e.csr = .ok e') :
    ∃ sys, e.dec.opt = .sys sys ∧ CsrOutcome e sys e' := by
  obtain ⟨sys, hsys, h⟩ := exists_of_bind_eq_ok h
  refine ⟨sys, ?_, ?_⟩
  · cases hopt : e.dec.opt with
    | sys sys' => rw [hopt] at hsys; rw [Except.ok.inj hsys]
    | _ => rw [hopt] at hsys; exact absurd hsys (by simp [OpType.getSys])
  · split_ifs at h with hr hc
    · obtain ⟨addr, -, h⟩ := exists_of_bind_eq_ok h
      exact csrOutcome_of_csrReg h
    · obtain rfl := Except.ok.inj h
      exact .refused
    · exact csrOutcome_of_csrReg h

theorem effect_of_csr {e e' : Model} (htgt : e.dec.tgt = .csr) (h : e.csr = .ok e') :
    Effect e e' := by
  obtain ⟨sys, -, hout⟩ := csrOutcome_of_csr h
  cases hout with
  | refused => exact e.effect_illegal
  | reads tmp => exact .gpr _ (Or.inr (Or.inr htgt))
  | writes v tmp hwrites hw => exact .csr _ _ htgt hw

omit [Platform] in
/-- The operations that jump. -/
def isJump : Alu → Bool
  | .jal | .jalr => true
  | _ => false

/-- An operation that returns has written its result, or jumped there and written the link. -/
theorem exists_of_exec_alu {e e' : Model} (htgt : e.dec.tgt = .alu) (h : e.exec = .ok e') :
    ∃ f v, e.dec.opt = .alu f ∧ doAlu f e.opd₁ e.opd₂ = .ok v ∧
      e' = if isJump f then (e.writeGpr e.dec.rd (e.pc + e.dec.length)).setPc v
        else e.writeGpr e.dec.rd v := by
  simp only [exec, htgt] at h
  obtain ⟨f, hf, h⟩ := exists_of_bind_eq_ok h
  obtain ⟨v, hv, h⟩ := exists_of_bind_eq_ok h
  refine ⟨f, v, ?_, hv, ?_⟩
  · cases hopt : e.dec.opt with
    | alu f' => rw [hopt] at hf; rw [Except.ok.inj hf]
    | _ => rw [hopt] at hf; exact absurd hf (by simp [OpType.getAlu])
  · cases f <;> exact (Except.ok.inj h).symm

/-- A branch that returns has been taken, or it has not. -/
theorem eq_or_eq_of_exec_branch {e e' : Model} (htgt : e.dec.tgt = .branch)
    (h : e.exec = .ok e') : e' = e.setPc (e.dec.imm + e.pc) ∨ e' = e := by
  simp only [exec, htgt] at h
  obtain ⟨b, -, h⟩ := exists_of_bind_eq_ok h
  obtain ⟨taken, -, h⟩ := exists_of_bind_eq_ok h
  obtain rfl := Except.ok.inj h
  split_ifs
  · exact Or.inl rfl
  · exact Or.inr rfl

/-- A store that returns has written memory and set or cleared `is_done`. -/
theorem exists_of_exec_store {e e' : Model} (htgt : e.dec.tgt = .store) (h : e.exec = .ok e') :
    ∃ w mem, e.dec.opt = .store w ∧
      storeMem e.mem (e.regf.read e.dec.rs1 + e.dec.imm) (e.regf.read e.dec.rs2) w = .ok mem ∧
      e' = { e with
        mem := mem, isDone := e.regf.read e.dec.rs1 + e.dec.imm == e.tohostAddr } := by
  simp only [exec, htgt] at h
  obtain ⟨w, hw, h⟩ := exists_of_bind_eq_ok h
  obtain ⟨mem, hmem, h⟩ := exists_of_bind_eq_ok h
  refine ⟨w, mem, ?_, hmem, (Except.ok.inj h).symm⟩
  -- `std::get` has thrown for every other alternative
  cases hopt : e.dec.opt with
  | store w' => rw [hopt] at hw; rw [Except.ok.inj hw]
  | _ => rw [hopt] at hw; exact absurd hw (by simp [OpType.getStore])

/-- **Every result of `exec` is an `Effect`.** -/
theorem effect_of_exec {e e' : Model} (h : e.exec = .ok e') : Effect e e' := by
  cases htgt : e.dec.tgt with
  | store =>
    obtain ⟨w, mem, hopt, hmem, rfl⟩ := exists_of_exec_store htgt h
    exact .store w mem htgt hmem hopt
  | alu =>
    obtain ⟨f, v, -, -, rfl⟩ := exists_of_exec_alu htgt h
    split_ifs
    · exact .jump _ _ htgt
    · exact .gpr _ (Or.inl htgt)
  | load =>
    simp only [exec, htgt] at h
    obtain ⟨v, -, h⟩ := exists_of_bind_eq_ok h
    obtain rfl := Except.ok.inj h
    exact .gpr _ (Or.inr (Or.inl htgt))
  | branch =>
    rcases eq_or_eq_of_exec_branch htgt h with rfl | rfl
    · exact .branch _ htgt
    · exact .skip htgt
  | csr =>
    simp only [exec, htgt] at h
    exact effect_of_csr htgt h
  | mret =>
    simp only [exec, htgt] at h
    obtain rfl := Except.ok.inj h
    exact .mret htgt
  | ecall =>
    simp only [exec, htgt] at h
    obtain rfl := Except.ok.inj h
    rw [trap_of_isException e.isException_ecallCause]
    refine .trap _ e.isException_ecallCause (fun _ => htgt) fun heq => ?_
    exact absurd (heq ▸ e.isEcall_ecallCause) (by decide)
  | illegal =>
    simp only [exec, htgt] at h
    obtain rfl := Except.ok.inj h
    exact e.effect_illegal
  | ebreak =>
    simp only [exec, htgt] at h
    obtain rfl := Except.ok.inj h
    rw [trap_of_isException .breakpoint]
    exact .trap _ .breakpoint (fun h => absurd h (by decide)) (by decide)

/-! ## The result of each instruction -/

theorem handleAlu_eq {e : Model} {f : Alu} {v : BitVec 32} (hopt : e.dec.opt = .alu f)
    (hv : doAlu f e.opd₁ e.opd₂ = .ok v) :
    e.handleAlu =
      .ok (if isJump f then (e.writeGpr e.dec.rd (e.pc + e.dec.length)).setPc v
        else e.writeGpr e.dec.rd v) := by
  have hget : e.dec.opt.getAlu = .ok f := by rw [hopt]; rfl
  simp only [handleAlu, hget, hv, bind, Except.bind, pure, Except.pure]
  cases f <;> rfl

theorem exec_alu {e : Model} {f : Alu} {v : BitVec 32} (htgt : e.dec.tgt = .alu)
    (hopt : e.dec.opt = .alu f) (hv : doAlu f e.opd₁ e.opd₂ = .ok v) :
    e.exec =
      .ok (if isJump f then (e.writeGpr e.dec.rd (e.pc + e.dec.length)).setPc v
        else e.writeGpr e.dec.rd v) := by
  simp only [exec, htgt, handleAlu_eq hopt hv]

theorem exec_load {e : Model} {v : BitVec 32} (htgt : e.dec.tgt = .load) (hv : e.load = .ok v) :
    e.exec = .ok (e.writeGpr e.dec.rd v) := by
  simp only [exec, htgt, handleLoad, hv, bind, Except.bind, pure, Except.pure]

theorem exec_store {e : Model} {w : Store} (htgt : e.dec.tgt = .store) (hopt : e.dec.opt = .store w)
    (hw : w.isNamed) :
    e.exec =
      .ok { e with
        mem := e.mem.writeAs (e.regf.read e.dec.rs1 + e.dec.imm) (storeWidth w)
          ((e.regf.read e.dec.rs2).setWidth _)
        isDone := e.regf.read e.dec.rs1 + e.dec.imm == e.tohostAddr } := by
  have hget : e.dec.opt.getStore = .ok w := by rw [hopt]; rfl
  simp only [exec, htgt, Model.store, hget, storeMem_of_isNamed hw, bind, Except.bind, pure,
    Except.pure]

theorem exec_branch {e : Model} {b : Branch} (htgt : e.dec.tgt = .branch)
    (hopt : e.dec.opt = .branch b) (hb : b.isNamed) :
    e.exec =
      .ok (if Rv32im.taken b (e.regf.read e.dec.rs1) (e.regf.read e.dec.rs2) then
        e.setPc (e.dec.imm + e.pc) else e) := by
  have hget : e.dec.opt.getBranch = .ok b := by rw [hopt]; rfl
  simp only [exec, htgt, handleBranch, hget, shouldBranch_eq hb, bind, Except.bind, pure,
    Except.pure, decide_eq_true_eq]

theorem exec_csr {e : Model} {sys : Sys} (htgt : e.dec.tgt = .csr) (hopt : e.dec.opt = .sys sys)
    (himm : e.dec.imm.toNat < 4096) :
    e.exec =
      .ok (if e.CsrDenied sys then e.enterTrap .expInstIllegal 0
        else (if csrWrites e.dec sys then e.writeCsr (csrAddr e.dec) (e.csrNew sys)
          else e).writeGpr e.dec.rd (e.csrOld sys)) := by
  rw [← trap_of_isException .illegal]
  simp only [exec, htgt, csr_eq hopt himm]

theorem exec_mret {e : Model} (htgt : e.dec.tgt = .mret) :
    e.exec = .ok e.handleMret := by
  simp only [exec, htgt]

theorem exec_ecall {e : Model} (htgt : e.dec.tgt = .ecall) :
    e.exec = .ok (e.enterTrap e.ecallCause 0) := by
  rw [← trap_of_isException e.isException_ecallCause]
  simp only [exec, htgt]

theorem exec_illegal {e : Model} (htgt : e.dec.tgt = .illegal) :
    e.exec = .ok (e.enterTrap .expInstIllegal 0) := by
  rw [← trap_of_isException .illegal]
  simp only [exec, htgt]

theorem exec_ebreak {e : Model} (htgt : e.dec.tgt = .ebreak) :
    e.exec = .ok (e.enterTrap .expBreakpoint 0) := by
  rw [← trap_of_isException .breakpoint]
  simp only [exec, htgt]

/-- Every named operation returns. -/
theorem exists_doAlu {f : Alu} (hf : f.isNamed) (a b : BitVec 32) : ∃ v, doAlu f a b = .ok v := by
  cases f with
  | unnamed v => exact absurd hf (by simp [Alu.isNamed])
  | _ => exact ⟨_, rfl⟩

/-- Every named load returns. -/
theorem exists_load {e : Model} {l : Load} (hopt : e.dec.opt = .load l) (hl : l.isNamed) :
    ∃ v, e.load = .ok v := by
  have hget : e.dec.opt.getLoad = .ok l := by rw [hopt]; rfl
  simp only [Model.load, hget, bind, Except.bind]
  cases l with
  | unnamed v => exact absurd hl (by simp [Load.isNamed])
  | _ => exact ⟨_, rfl⟩

/-! ## The state in which the instruction is executed -/

/-- The state after the fetch, with the address of the next instruction staged. -/
@[simps! curState_pc_pc curState_pc_pcNext curState_dec allowedPcs opts tohostAddr mem mode regf
  csrf isDone]
def fetched (s : Model) : Model := s.fetch.setPc (s.pc + s.decoded.length)

/-- The state after the access fault that an invalid pc raises. -/
def faulted (s : Model) : Model := s.fetched.enterTrap .expInstAccessFault 0

/-- The state in which `step` executes the instruction. -/
def entered (s : Model) : Model := if s.isValidPc then s.fetched else s.faulted

/-- `step` executes the instruction, after a fault as well. -/
theorem step_eq (s : Model) : s.step = s.entered.exec := by
  change (if s.isValidPc then s.fetched else s.fetched.trap .expInstAccessFault).exec = _
  rw [trap_of_isException .accessFault]
  rfl

theorem step_of_isValidPc {s : Model} (h : s.isValidPc) : s.step = s.fetched.exec := by
  rw [step_eq, entered, if_pos h]

/-- The instruction at an invalid pc is executed as well, after the fault. -/
theorem step_of_not_isValidPc {s : Model} (h : s.isValidPc = false) : s.step = s.faulted.exec := by
  rw [step_eq, entered, h]
  rfl

section Entered

variable (s : Model)

@[simp] theorem entered_dec : s.entered.curState.dec = s.decoded := by
  unfold entered faulted; split_ifs <;> simp

@[simp] theorem entered_pc : s.entered.curState.pc.pc = s.curState.pc.pc := by
  unfold entered faulted; split_ifs <;> simp

@[simp] theorem entered_allowedPcs : s.entered.allowedPcs = s.allowedPcs := by
  unfold entered faulted; split_ifs <;> simp

@[simp] theorem entered_opts : s.entered.opts = s.opts := by
  unfold entered faulted; split_ifs <;> simp

@[simp] theorem entered_tohostAddr : s.entered.tohostAddr = s.tohostAddr := by
  unfold entered faulted; split_ifs <;> simp

@[simp] theorem entered_mem : s.entered.mem = s.mem := by
  have hmem := s.fetched.trapMem_of_not_isEcall (show TrapCause.expInstAccessFault.isEcall = _ from rfl)
  unfold entered faulted; split_ifs <;> simp [hmem]

@[simp] theorem entered_mode : s.entered.mode = s.mode := by
  unfold entered faulted; split_ifs <;> simp

@[simp] theorem entered_regf : s.entered.regf = s.regf := by
  unfold entered faulted; split_ifs <;> simp

@[simp] theorem entered_isDone : s.entered.isDone = s.isDone := by
  unfold entered faulted; split_ifs <;> simp [Exits, TrapCause.isEcall]

@[simp] theorem entered_gprStaged : s.entered.curState.gprStaged = s.curState.gprStaged := by
  unfold entered faulted
  split_ifs
  · rfl
  · exact enterTrap_gprStaged ..

variable {s}

/-- A fault writes the trap registers of the mode and no other CSR. -/
theorem read_entered_of_ne {a : CsrAddr} (hcause : a ≠ s.mode.privCsr .ucause)
    (htval : a ≠ s.mode.privCsr .utval) (hepc : a ≠ s.mode.privCsr .uepc) :
    s.entered.csrf.read a = s.csrf.read a := by
  unfold entered faulted
  split_ifs
  · rfl
  · rw [enterTrap_csrf]
    exact read_trapCsrs_of_ne _ hcause htval hepc

variable (s)

theorem read_entered_of_low {a : CsrAddr}
    (h : ∀ c ∈ [Csr.ucause, .utval, .uepc], a &&& 0xFF ≠ c.toInt &&& 0xFF) :
    s.entered.csrf.read a = s.csrf.read a := by
  unfold entered faulted
  split_ifs
  · rfl
  · rw [enterTrap_csrf, read_trapCsrs_of_low _ _ h]
    rfl

theorem read_entered_of_enable {c : Csr} (hc : c = .mstatus ∨ c = .mie) :
    s.entered.csrf.read c.toInt = s.csrf.read c.toInt := by
  apply read_entered_of_low
  rcases hc with rfl | rfl <;> decide

end Entered

theorem step_of_mret {s : Model} (htgt : s.decoded.tgt = .mret) :
    s.step = .ok s.entered.handleMret := by
  rw [step_eq]
  exact exec_mret ((congrArg Op.tgt s.entered_dec).trans htgt)

theorem step_of_ecall {s : Model} (htgt : s.decoded.tgt = .ecall) :
    s.step = .ok (s.entered.enterTrap s.entered.ecallCause 0) := by
  rw [step_eq]
  exact exec_ecall ((congrArg Op.tgt s.entered_dec).trans htgt)

theorem entered_csrf_of_isValidPc {s : Model} (h : s.isValidPc) : s.entered.csrf = s.csrf := by
  rw [entered, if_pos h]
  rfl

/-! ## Well-formed instructions -/

/-- What a well-formed instruction does, with the exact result. -/
inductive Executed (e : Model) : Model → Prop
  | alu (f : Alu) (v : BitVec 32) (htgt : e.dec.tgt = .alu) (hopt : e.dec.opt = .alu f)
      (hv : doAlu f e.opd₁ e.opd₂ = .ok v) (hj : ¬ isJump f) : Executed e (e.writeGpr e.dec.rd v)
  | jump (f : Alu) (v : BitVec 32) (htgt : e.dec.tgt = .alu) (hopt : e.dec.opt = .alu f)
      (hv : doAlu f e.opd₁ e.opd₂ = .ok v) (hj : isJump f) :
      Executed e ((e.writeGpr e.dec.rd (e.pc + e.dec.length)).setPc v)
  | load (l : Load) (v : BitVec 32) (htgt : e.dec.tgt = .load) (hopt : e.dec.opt = .load l)
      (hv : e.load = .ok v) : Executed e (e.writeGpr e.dec.rd v)
  | store (w : Store) (htgt : e.dec.tgt = .store) (hopt : e.dec.opt = .store w) :
      Executed e { e with
        mem := e.mem.writeAs (e.regf.read e.dec.rs1 + e.dec.imm) (storeWidth w)
          ((e.regf.read e.dec.rs2).setWidth _)
        isDone := e.regf.read e.dec.rs1 + e.dec.imm == e.tohostAddr }
  | taken (b : Branch) (htgt : e.dec.tgt = .branch) (hopt : e.dec.opt = .branch b)
      (ht : Rv32im.taken b (e.regf.read e.dec.rs1) (e.regf.read e.dec.rs2)) :
      Executed e (e.setPc (e.dec.imm + e.pc))
  | untaken (b : Branch) (htgt : e.dec.tgt = .branch) (hopt : e.dec.opt = .branch b)
      (ht : ¬ Rv32im.taken b (e.regf.read e.dec.rs1) (e.regf.read e.dec.rs2)) : Executed e e
  | csr (sys : Sys) (htgt : e.dec.tgt = .csr) (hopt : e.dec.opt = .sys sys)
      (hd : ¬ e.CsrDenied sys) :
      Executed e ((if csrWrites e.dec sys then e.writeCsr (csrAddr e.dec) (e.csrNew sys)
        else e).writeGpr e.dec.rd (e.csrOld sys))
  | denied (sys : Sys) (htgt : e.dec.tgt = .csr) (hopt : e.dec.opt = .sys sys)
      (hd : e.CsrDenied sys) : Executed e (e.enterTrap .expInstIllegal 0)
  | mret (htgt : e.dec.tgt = .mret) : Executed e e.handleMret
  | illegal (htgt : e.dec.tgt = .illegal) : Executed e (e.enterTrap .expInstIllegal 0)
  | ebreak (htgt : e.dec.tgt = .ebreak) : Executed e (e.enterTrap .expBreakpoint 0)
  | ecall (htgt : e.dec.tgt = .ecall) : Executed e (e.enterTrap e.ecallCause 0)

/-- A well-formed instruction is executed without an exception of the simulator. -/
theorem exists_executed {e : Model} (hwf : e.dec.WellFormed) :
    ∃ e', e.exec = .ok e' ∧ Executed e e' := by
  cases hwf with
  | alu f htgt hopt hf =>
    obtain ⟨v, hv⟩ := exists_doAlu hf e.opd₁ e.opd₂
    refine ⟨_, exec_alu htgt hopt hv, ?_⟩
    split_ifs with hj
    · exact .jump f v htgt hopt hv hj
    · exact .alu f v htgt hopt hv hj
  | load l htgt hopt hl =>
    obtain ⟨v, hv⟩ := exists_load hopt hl
    exact ⟨_, exec_load htgt hv, .load l v htgt hopt hv⟩
  | store w htgt hopt hw => exact ⟨_, exec_store htgt hopt hw, .store w htgt hopt⟩
  | branch b htgt hopt hb =>
    refine ⟨_, exec_branch htgt hopt hb, ?_⟩
    split_ifs with ht
    · exact .taken b htgt hopt ht
    · exact .untaken b htgt hopt ht
  | csr sys htgt hopt himm =>
    refine ⟨_, exec_csr htgt hopt himm, ?_⟩
    by_cases hd : e.CsrDenied sys
    · rw [if_pos hd]
      exact .denied sys htgt hopt hd
    · rw [if_neg hd]
      exact .csr sys htgt hopt hd
  | mret htgt => exact ⟨_, exec_mret htgt, .mret htgt⟩
  | illegal htgt => exact ⟨_, exec_illegal htgt, .illegal htgt⟩
  | ebreak htgt => exact ⟨_, exec_ebreak htgt, .ebreak htgt⟩
  | ecall htgt => exact ⟨_, exec_ecall htgt, .ecall htgt⟩

theorem executed_of_exec {e e' : Model} (hwf : e.dec.WellFormed) (h : e.exec = .ok e') :
    Executed e e' := by
  obtain ⟨e'', hexec, hex⟩ := exists_executed hwf
  obtain rfl := Except.ok.inj (hexec.symm.trans h)
  exact hex

theorem exists_step {s : Model} (hwf : s.decoded.WellFormed) : ∃ s', s.step = .ok s' := by
  rw [step_eq]
  rw [← entered_dec] at hwf
  obtain ⟨s', hexec, -⟩ := exists_executed hwf
  exact ⟨s', hexec⟩

end Model

end Riscv32Sim
