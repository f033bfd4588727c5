import Riscv32Sim.Iss.Privilege

/-!
# The `csr` instructions

What `model::csr` does against what the instruction set says. The clearing forms complement their
mask with the logical negation `!`, and the immediate forms count as writing when their immediate
is zero.

## Main definitions

* `Model.csrSpec`: the value that the instruction set gives the CSR
* `Model.ReadModifyWrite`: the result of a permitted access
* `Model.MustTrap`: the accesses that the instruction set refuses
* `Model.RefusesRead`: the accesses that the instruction set permits and `csr` refuses
* `Model.FailsCheck`: the checks of `model::csr` that raise an illegal instruction
* `Model.Refused`: a refused access has changed nothing but the trap registers

## Main results

* `Model.csrDenied_iff_mustTrap_or`: the accesses that `csr` refuses
* `Model.csr_rmw_iff`: when a permitted access has the specified result
* `Model.csr_traps_iff`: when the refused accesses are those that trap
* `Model.refused_of_failsCheck`: a refused access is atomic
-/

namespace Riscv32Sim

namespace Model

/-! ## Read, modify, write -/

/-- The value of the CSR that the instruction names. -/
def csrValue (e : Model) : BitVec 32 := e.csrf.read (csrAddr e.dec)

/-- The value that the instruction set gives the CSR. -/
def csrSpec (e : Model) : Sys → BitVec 32
  | .csrrw => e.regf.read e.dec.rs1
  | .csrrs => e.csrValue ||| e.regf.read e.dec.rs1
  | .csrrc => e.csrValue &&& ~~~e.regf.read e.dec.rs1
  | .csrrwi => e.dec.rs1.setWidth 32
  | .csrrsi => e.csrValue ||| e.dec.rs1.setWidth 32
  | .csrrci => e.csrValue &&& ~~~e.dec.rs1.setWidth 32
  | .other => e.csrValue

/-- The CSR has the specified value, `rd` the old one, and nothing else has changed. -/
structure ReadModifyWrite (e : Model) (sys : Sys) (e' : Model) : Prop where
  csr : e'.csrf.read (csrAddr e.dec) = e.csrSpec sys
  rd : e.dec.rd ≠ 0 → e'.regf.read e.dec.rd = e.csrValue
  otherCsr : ∀ a, a ≠ csrAddr e.dec → e'.csrf.read a = e.csrf.read a
  otherGpr : ∀ i, i ≠ e.dec.rd ∨ i = 0 → e'.regf.read i = e.regf.read i

/-- Clearing the bits of `m` in `v` with `!m` gives what it gives with `~m`. -/
def ClearsAs (v m : BitVec 32) : Prop := if m = 0 then v.toNat < 2 else v &&& ~~~m = 0

instance (v m : BitVec 32) : Decidable (ClearsAs v m) :=
  inferInstanceAs (Decidable (if m = 0 then v.toNat < 2 else v &&& ~~~m = 0))

theorem and_logicalNot_eq_iff (v m : BitVec 32) :
    v &&& logicalNot m = v &&& ~~~m ↔ ClearsAs v m := by
  by_cases hm : m = 0
  · have hone : v &&& 1#32 = v ↔ v.toNat < 2 := by
      rw [← BitVec.toNat_inj, BitVec.toNat_and]
      change v.toNat &&& 1 = v.toNat ↔ _
      rw [Nat.and_one_is_mod]
      omega
    have hall : v &&& ~~~(0 : BitVec 32) = v := BitVec.and_allOnes
    rw [ClearsAs, if_pos hm, logicalNot, if_pos hm, hm, hall]
    exact hone
  · rw [ClearsAs, if_neg hm, logicalNot, if_neg hm]
    simp [eq_comm]

/-- The instruction does not clear, or it clears as specified. -/
def ClearsExactly (e : Model) : Sys → Prop
  | .csrrc => e.dec.rs1 ≠ 0 → ClearsAs e.csrValue (e.regf.read e.dec.rs1)
  | .csrrci => ClearsAs e.csrValue (e.dec.rs1.setWidth 32)
  | _ => True

theorem csrOld_eq_csrValue {e : Model} {sys : Sys} (h : sys ≠ .csrrwi ∨ e.dec.rd ≠ 0) :
    e.csrOld sys = e.csrValue := by
  have hreads : csrReads e.dec sys = true := by simpa [csrReads] using h
  rw [csrOld, if_pos hreads, csrValue]

/-- The value in the CSR after a permitted access. -/
def csrResult (e : Model) (sys : Sys) : BitVec 32 :=
  if csrWrites e.dec sys then e.csrNew sys else e.csrValue

/-- The CSR gets the specified value exactly when the instruction clears as specified. -/
theorem csrResult_eq_csrSpec_iff {e : Model} {sys : Sys} (hsys : sys ≠ .other) :
    e.csrResult sys = e.csrSpec sys ↔ ClearsExactly e sys := by
  have hx : e.regf.read 0#5 = 0#32 := e.regf.read_zero
  -- `csrrs` and `csrrc` with register 0 do not write, and their mask is 0
  cases sys with
  | csrrw | csrrwi => exact ⟨fun _ => trivial, fun _ => rfl⟩
  | csrrs =>
    have hold : e.csrOld .csrrs = e.csrValue := csrOld_eq_csrValue (Or.inl (by decide))
    refine ⟨fun _ => trivial, fun _ => ?_⟩
    by_cases h0 : e.dec.rs1 = 0#5
    · simp [csrResult, csrWrites, csrSpec, h0, hx]
    · simp [csrResult, csrWrites, csrNew, csrSpec, h0, hold, BitVec.or_comm]
  | csrrc =>
    have hold : e.csrOld .csrrc = e.csrValue := csrOld_eq_csrValue (Or.inl (by decide))
    by_cases h0 : e.dec.rs1 = 0#5
    · have hall : e.csrValue &&& ~~~0#32 = e.csrValue := BitVec.and_allOnes
      simp only [csrResult, csrWrites, csrSpec, ClearsExactly, h0, hx, hall]
      simp
    · rw [csrResult, csrWrites, if_pos (by simpa using h0), csrNew, hold, csrSpec,
        and_logicalNot_eq_iff]
      exact ⟨fun h _ => h, fun h => h h0⟩
  | csrrsi =>
    have hold : e.csrOld .csrrsi = e.csrValue := csrOld_eq_csrValue (Or.inl (by decide))
    refine ⟨fun _ => trivial, fun _ => ?_⟩
    simp [csrResult, csrWrites, csrNew, csrSpec, hold, BitVec.or_comm]
  | csrrci =>
    have hold : e.csrOld .csrrci = e.csrValue := csrOld_eq_csrValue (Or.inl (by decide))
    rw [csrResult, csrWrites, if_pos rfl, csrNew, hold, csrSpec, BitVec.and_comm,
      and_logicalNot_eq_iff]
    rfl
  | other => exact absurd rfl hsys

/-! ## Which accesses the instruction set refuses -/

/-- The bits 11:10 of the address are set. -/
def IsReadOnly (a : CsrAddr) : Prop := a.toNat / 2 ^ 10 = 3

instance (a : CsrAddr) : Decidable (IsReadOnly a) := inferInstanceAs (Decidable (_ = _))

theorem isReadOnly_csrAddr_iff (op : Op) :
    IsReadOnly (csrAddr op) ↔ op.imm.toNat / 2 ^ 10 % 2 ^ 2 = 3 := by
  rw [IsReadOnly, csrAddr, BitVec.toNat_setWidth]
  omega

/-- The instruction writes the CSR, in the instruction set. -/
def csrMustWrite (op : Op) : Sys → Bool
  | .csrrw | .csrrwi => true
  | .csrrs | .csrrc | .csrrsi | .csrrci => op.rs1 ≠ 0
  | .other => false

/-- The instruction set refuses the access. -/
def MustTrap (e : Model) (sys : Sys) : Prop :=
  e.mode.m.toInt < csrLevel (csrAddr e.dec) ∨
    csrMustWrite e.dec sys = true ∧ IsReadOnly (csrAddr e.dec)

instance (e : Model) (sys : Sys) : Decidable (MustTrap e sys) :=
  inferInstanceAs (Decidable (_ ∨ _))

/-- The instruction set permits the access, and `csr` refuses it: an immediate form with the
immediate zero, on a read-only CSR that its mode may read. -/
def RefusesRead (e : Model) (sys : Sys) : Prop :=
  (sys = .csrrsi ∨ sys = .csrrci) ∧ e.dec.rs1 = 0 ∧ IsReadOnly (csrAddr e.dec) ∧
    csrLevel (csrAddr e.dec) ≤ e.mode.m.toInt

instance (e : Model) (sys : Sys) : Decidable (RefusesRead e sys) :=
  inferInstanceAs (Decidable (_ ∧ _))

section Csr

variable [Platform]

/-- An access that is not refused writes the CSR and `rd`, and nothing else. -/
theorem csr_of_not_csrDenied {e : Model} {sys : Sys} (hopt : e.dec.opt = .sys sys)
    (himm : e.dec.imm.toNat < 4096) (hperm : ¬ e.CsrDenied sys) :
    ∃ e', e.csr = .ok e' ∧ e'.regf = e.regf.write e.dec.rd (e.csrOld sys) ∧
      ∀ a, e'.csrf.read a = if a = csrAddr e.dec then e.csrResult sys else e.csrf.read a := by
  refine ⟨_, csr_eq hopt himm, ?_, fun a => ?_⟩
  -- the CSR is written before `rd`, and the two files are independent
  · rw [if_neg hperm]
    split_ifs <;> rfl
  · rw [if_neg hperm, csrResult]
    by_cases hw : csrWrites e.dec sys = true
    · rw [if_pos hw, if_pos hw]
      exact CsrFile.read_write ..
    · rw [if_neg hw, if_neg hw]
      split_ifs with ha
      · rw [ha]
        rfl
      · rfl

/-- An access is refused for the level of the CSR, or for a write to a read-only one. -/
theorem csrDenied_iff {e : Model} {sys : Sys} (hsys : sys ≠ .other) :
    e.CsrDenied sys ↔
      e.mode.m.toInt < csrLevel (csrAddr e.dec) ∨
        csrWrites e.dec sys = true ∧ IsReadOnly (csrAddr e.dec) := by
  have hread : ¬ e.mode.canRead e.dec.imm = true ↔ e.mode.m.toInt < csrLevel (csrAddr e.dec) := by
    rw [PrivilegedMode.canRead_iff, Nat.not_le, csrLevel_csrAddr]
  have hwrite : ¬ e.mode.canWrite e.dec.imm = true ↔
      IsReadOnly (csrAddr e.dec) ∨ e.mode.m.toInt < csrLevel (csrAddr e.dec) := by
    rw [PrivilegedMode.canWrite_iff, not_and_or, not_not, Nat.not_le, isReadOnly_csrAddr_iff,
      csrLevel_csrAddr]
  -- the forms that do not read, or do not write, check the level all the same
  have hchecks : csrReads e.dec sys = true ∨ csrWrites e.dec sys = true := by
    cases sys with
    | other => exact absurd rfl hsys
    | csrrwi => exact Or.inr rfl
    | _ => exact Or.inl rfl
  rw [CsrDenied, hread, hwrite]
  tauto

/-- The access traps exactly when it is refused: otherwise it records a write of `rd`. -/
theorem csr_eq_trap_iff {e : Model} {sys : Sys} (hopt : e.dec.opt = .sys sys)
    (himm : e.dec.imm.toNat < 4096) :
    e.csr = .ok (e.trap .expInstIllegal) ↔ e.CsrDenied sys := by
  rw [csr_eq hopt himm]
  constructor
  · intro h
    by_contra hperm
    rw [if_neg hperm, trap_of_isException .illegal] at h
    -- a trap stages no record of a register
    have hlen := congrArg (fun s => s.curState.gprStaged.length) (Except.ok.inj h)
    revert hlen
    split_ifs <;> simp
  · intro hdenied
    rw [if_pos hdenied]

/-- The accesses that `csr` refuses are those that the instruction set refuses, and the reads of
read-only CSRs in an immediate form. -/
theorem csrDenied_iff_mustTrap_or {e : Model} {sys : Sys} (hsys : sys ≠ .other) :
    e.CsrDenied sys ↔ MustTrap e sys ∨ RefusesRead e sys := by
  rw [csrDenied_iff hsys, MustTrap, RefusesRead, ← Nat.not_lt]
  cases sys with
  | other => exact absurd rfl hsys
  | csrrw | csrrs | csrrc | csrrwi => simp [csrWrites, csrMustWrite]
  | csrrsi | csrrci =>
    simp only [csrWrites, csrMustWrite, decide_eq_true_eq]
    tauto

/-- The trap of a refused read goes unseen: its registers have the values that it writes, and `rd`
that of the CSR. -/
structure TrapUnseen (e : Model) : Prop where
  cause : e.csrf.read (e.mode.privCsr .ucause) = TrapCause.expInstIllegal.toInt
  tval : e.csrf.read (e.mode.privCsr .utval) = 0
  epc : e.csrf.read (e.mode.privCsr .uepc) = savedPc .expInstIllegal e.pc
  rd : e.dec.rd ≠ 0 → e.regf.read e.dec.rd = e.csrValue

omit [Platform] in
/-- A trap register is not read-only. -/
theorem privCsr_ne_of_isReadOnly (mode : PrivilegedMode) {a : CsrAddr} (ha : IsReadOnly a)
    {c : Csr} (hc : c ∈ [Csr.ucause, .utval, .uepc]) : mode.privCsr c ≠ a := by
  obtain rfl | rfl | rfl : c = .ucause ∨ c = .utval ∨ c = .uepc := by simpa using hc
  all_goals
    rintro rfl
    revert ha
    rw [mode.eq_ofMode]
    cases mode.m <;> decide

/-- A trap has the specified result when it goes unseen. -/
theorem readModifyWrite_trap_iff {e : Model} {sys : Sys} (h : RefusesRead e sys) :
    ReadModifyWrite e sys (e.trap .expInstIllegal) ↔ TrapUnseen e := by
  obtain ⟨hsys, hrs1, hro, -⟩ := h
  have hregf : (e.trap .expInstIllegal).regf = e.regf := by
    rw [trap_of_isException .illegal, enterTrap_regf]
  have hcsrf : (e.trap .expInstIllegal).csrf = e.trapCsrs .expInstIllegal := by
    rw [trap_of_isException .illegal, enterTrap_csrf]
  have hne : ∀ c ∈ [Csr.ucause, .utval, .uepc], e.mode.privCsr c ≠ csrAddr e.dec :=
    fun c hc => privCsr_ne_of_isReadOnly e.mode hro hc
  constructor
  · intro hrmw
    have hother := hrmw.otherCsr
    rw [hcsrf] at hother
    refine ⟨?_, ?_, ?_, fun hrd => ?_⟩
    · exact (hother _ (hne .ucause (by simp))).symm.trans (read_trapCsrs_ucause e _)
    · exact (hother _ (hne .utval (by simp))).symm.trans (read_trapCsrs_utval e _)
    · exact (hother _ (hne .uepc (by simp))).symm.trans (read_trapCsrs_uepc e _)
    · exact hregf ▸ hrmw.rd hrd
  · intro hunseen
    have hsame : ∀ a, (e.trap .expInstIllegal).csrf.read a = e.csrf.read a := by
      intro a
      rw [hcsrf]
      by_cases hcause : a = e.mode.privCsr .ucause
      · rw [hcause, read_trapCsrs_ucause, hunseen.cause]
      by_cases htval : a = e.mode.privCsr .utval
      · rw [htval, read_trapCsrs_utval, hunseen.tval]
      by_cases hepc : a = e.mode.privCsr .uepc
      · rw [hepc, read_trapCsrs_uepc, hunseen.epc]
      exact read_trapCsrs_of_ne _ hcause htval hepc
    refine ⟨?_, fun hrd => ?_, fun a _ => hsame a, fun i _ => by rw [hregf]⟩
    · -- neither form changes the CSR under an empty mask
      have hall : e.csrValue &&& ~~~0#32 = e.csrValue := BitVec.and_allOnes
      have hor : e.csrValue ||| 0#32 = e.csrValue := BitVec.or_zero
      rw [hsame]
      rcases hsys with rfl | rfl
      · rw [csrSpec, hrs1]
        exact hor.symm
      · rw [csrSpec, hrs1]
        exact hall.symm
    · rw [hregf]
      exact hunseen.rd hrd

omit [Platform] in
/-- An access that is not refused has the specified result when it clears as specified. -/
theorem readModifyWrite_iff_of_not_csrDenied {e e' : Model} {sys : Sys} (hsys : sys ≠ .other)
    (hregf : e'.regf = e.regf.write e.dec.rd (e.csrOld sys))
    (hcsrf : ∀ a, e'.csrf.read a = if a = csrAddr e.dec then e.csrResult sys else e.csrf.read a) :
    ReadModifyWrite e sys e' ↔ ClearsExactly e sys := by
  have hself : e'.csrf.read (csrAddr e.dec) = e.csrResult sys := (hcsrf _).trans (if_pos rfl)
  rw [← csrResult_eq_csrSpec_iff hsys]
  refine ⟨fun h => hself.symm.trans h.csr, fun hspec => ?_⟩
  refine ⟨hself.trans hspec, fun hrd => ?_, fun a ha => ?_, fun i hi => ?_⟩
  · rw [hregf, RegFile.read_write, if_pos ⟨rfl, hrd⟩, csrOld_eq_csrValue (Or.inr hrd)]
  · rw [hcsrf, if_neg ha]
  · rw [hregf]
    rcases hi with hne | rfl
    · exact e.regf.read_write_of_ne _ hne
    · rw [RegFile.read_zero, RegFile.read_zero]

/-- **When a permitted access has the specified result**: the writing and the setting forms
always, the clearing ones exactly when the logical negation of their mask clears the same bits as
its complement; but an immediate form that reads a read-only CSR traps, and then the result is the
specified one only if the trap goes unseen. -/
theorem csr_rmw_iff {e : Model} {sys : Sys} (hsys : sys ≠ .other) (hopt : e.dec.opt = .sys sys)
    (himm : e.dec.imm.toNat < 4096) (hperm : ¬ MustTrap e sys) :
    (∃ e', e.csr = .ok e' ∧ ReadModifyWrite e sys e') ↔
      (RefusesRead e sys → TrapUnseen e) ∧ (¬ RefusesRead e sys → ClearsExactly e sys) := by
  have hdenied : e.CsrDenied sys ↔ RefusesRead e sys :=
    (csrDenied_iff_mustTrap_or hsys).trans (or_iff_right hperm)
  by_cases hrefused : RefusesRead e sys
  · have hcsr := (csr_eq_trap_iff hopt himm).mpr (hdenied.mpr hrefused)
    rw [← readModifyWrite_trap_iff hrefused, hcsr]
    constructor
    · rintro ⟨e', hok, h⟩
      obtain rfl := Except.ok.inj hok
      exact ⟨fun _ => h, absurd hrefused⟩
    · exact fun h => ⟨_, rfl, h.1 hrefused⟩
  · obtain ⟨e', hcsr, hregf, hcsrf⟩ := csr_of_not_csrDenied hopt himm (mt hdenied.mp hrefused)
    rw [← readModifyWrite_iff_of_not_csrDenied hsys hregf hcsrf, hcsr]
    constructor
    · rintro ⟨e'', hok, h⟩
      obtain rfl := Except.ok.inj hok
      exact ⟨fun h => absurd h hrefused, fun _ => h⟩
    · exact fun h => ⟨_, rfl, h.2 hrefused⟩

/-! ## Traps -/

/-- **When the refused accesses are those that trap**: unless an immediate form with the immediate
zero names a read-only CSR that its mode may read. -/
theorem csr_traps_iff {e : Model} {sys : Sys} (hsys : sys ≠ .other) (hopt : e.dec.opt = .sys sys)
    (himm : e.dec.imm.toNat < 4096) :
    (e.csr = .ok (e.trap .expInstIllegal) ↔ MustTrap e sys) ↔
      ¬ ((sys = .csrrsi ∨ sys = .csrrci) ∧ e.dec.rs1 = 0 ∧ IsReadOnly (csrAddr e.dec) ∧
        csrLevel (csrAddr e.dec) ≤ e.mode.m.toInt) := by
  rw [csr_eq_trap_iff hopt himm, csrDenied_iff_mustTrap_or hsys]
  -- the two kinds exclude each other: a form with the immediate zero does not write
  have hexcl : RefusesRead e sys → ¬ MustTrap e sys := by
    rintro ⟨hsi, hrs1, -, hlevel⟩ (hlow | ⟨hwrite, -⟩)
    · exact Nat.not_lt.mpr hlevel hlow
    · rcases hsi with rfl | rfl <;> simp [csrMustWrite, hrs1] at hwrite
  change (MustTrap e sys ∨ RefusesRead e sys ↔ MustTrap e sys) ↔ ¬ RefusesRead e sys
  constructor
  · exact fun hiff hrefused => hexcl hrefused (hiff.mp (Or.inr hrefused))
  · exact fun hnot => or_iff_left hnot

/-! ## Refused accesses -/

/-- The access fails one of the checks of `model::csr`, one constructor for each place that raises
an illegal instruction. -/
inductive FailsCheck (e : Model) (sys : Sys) : Prop
  | read (hreads : sys ≠ .csrrwi ∨ e.dec.rd ≠ 0) (h : e.mode.canRead e.dec.imm = false)
  | regIndex (hreg : sys = .csrrw ∨ (sys = .csrrs ∧ e.dec.rs1 ≠ 0) ∨ (sys = .csrrc ∧ e.dec.rs1 ≠ 0))
    (h : e.mode.canRead (e.dec.rs1.setWidth 32) = false)
  | regWrite (hreg : sys = .csrrw ∨ (sys = .csrrs ∧ e.dec.rs1 ≠ 0) ∨ (sys = .csrrc ∧ e.dec.rs1 ≠ 0))
    (h : e.mode.canWrite e.dec.imm = false)
  | immWrite (himm : sys = .csrrwi ∨ sys = .csrrsi ∨ sys = .csrrci)
    (h : e.mode.canWrite e.dec.imm = false)

/-- The accesses that fail a check are the refused ones: that of the register index never fails. -/
theorem failsCheck_iff (e : Model) (sys : Sys) : FailsCheck e sys ↔ e.CsrDenied sys := by
  constructor
  · rintro (⟨hreads, h⟩ | ⟨-, h⟩ | ⟨hreg, h⟩ | ⟨himm, h⟩)
    · exact Or.inl ⟨by simpa [csrReads] using hreads, by simp [h]⟩
    · exact absurd (e.mode.canRead_regIndex e.dec.rs1) (by simp [h])
    · refine Or.inr ⟨?_, by simp [h]⟩
      rcases hreg with rfl | ⟨rfl, hrs1⟩ | ⟨rfl, hrs1⟩
      · rfl
      · simpa [csrWrites] using hrs1
      · simpa [csrWrites] using hrs1
    · refine Or.inr ⟨?_, by simp [h]⟩
      rcases himm with rfl | rfl | rfl <;> rfl
  · rintro (⟨hreads, h⟩ | ⟨hwrites, h⟩)
    · exact .read (by simpa [csrReads] using hreads) (by simpa using h)
    · have hcheck : e.mode.canWrite e.dec.imm = false := by simpa using h
      cases sys with
      | csrrw => exact .regWrite (Or.inl rfl) hcheck
      | csrrs => exact .regWrite (Or.inr (Or.inl ⟨rfl, by simpa [csrWrites] using hwrites⟩)) hcheck
      | csrrc => exact .regWrite (Or.inr (Or.inr ⟨rfl, by simpa [csrWrites] using hwrites⟩)) hcheck
      | csrrwi => exact .immWrite (Or.inl rfl) hcheck
      | csrrsi => exact .immWrite (Or.inr (Or.inl rfl)) hcheck
      | csrrci => exact .immWrite (Or.inr (Or.inr rfl)) hcheck
      | other => exact absurd hwrites Bool.false_ne_true

/-- No register, no byte of memory, not the mode and not `is_done` has changed, the trap registers
of the mode are the only CSRs that may have, and the base of the handler is staged. -/
structure Refused (e e' : Model) : Prop where
  regf : e'.regf = e.regf
  mem : e'.mem = e.mem
  mode : e'.mode = e.mode
  isDone : e'.isDone = e.isDone
  csr : ∀ a, a ≠ e.mode.privCsr .ucause → a ≠ e.mode.privCsr .utval → a ≠ e.mode.privCsr .uepc →
    e'.csrf.read a = e.csrf.read a
  pcNext : e'.pcNext = e.csrf.read (e.mode.privCsr .utvec) &&& tvecBaseAddr

theorem refused_trap_illegal (e : Model) : Refused e (e.trap .expInstIllegal) := by
  have hecall : TrapCause.expInstIllegal.isEcall = false := rfl
  rw [trap_of_isException .illegal]
  refine ⟨by simp, ?_, by simp, ?_, fun a hcause htval hepc => ?_, ?_⟩
  · rw [enterTrap_mem, e.trapMem_of_not_isEcall hecall]
  · simp [Exits, hecall]
  · rw [enterTrap_csrf, read_trapCsrs_of_ne _ hcause htval hepc]
  · rw [Model.pcNext, enterTrap_pcNext, handlerEntry]
    exact BitVec.add_zero _

/-- **A refused access is atomic.** Whichever check of `model::csr` fails, the instruction traps
before it has written a register or a CSR. -/
theorem refused_of_failsCheck {e : Model} {sys : Sys} (hopt : e.dec.opt = .sys sys)
    (himm : e.dec.imm.toNat < 4096) (h : FailsCheck e sys) :
    ∃ e', e.csr = .ok e' ∧ Refused e e' :=
  ⟨_, (csr_eq_trap_iff hopt himm).mpr ((failsCheck_iff e sys).mp h), e.refused_trap_illegal⟩

end Csr

/-- `csrrc x1, mstatus, x2`. -/
def csrrc : Op :=
  { imm := 0x300, opt := .sys .csrrc, tgt := .csr, rd := 1, rs1 := 2, rs2 := 0, hasImm := true,
    usePc := false, isCompressed := false }

/-- The simulator about to clear the bits of `m` in the value `v` of `mstatus`. -/
def clearing (v m : BitVec 32) : Model :=
  { single csrrc with
    curState := { (single csrrc).curState with dec := csrrc }
    regf := RegFile.init.write 2 m
    csrf := CsrFile.init.write Csr.mstatus.toInt v }

/-- Clearing all bits that are set. -/
theorem csr_rmw_clearing :
    ¬ MustTrap (clearing 0x0F 0xFF) .csrrc ∧
    ∃ e', @Model.csr (Platform.always csrrc) (clearing 0x0F 0xFF) = .ok e' ∧
      ReadModifyWrite (clearing 0x0F 0xFF) .csrrc e' := by
  let _ : Platform := Platform.always csrrc
  have hperm : ¬ MustTrap (clearing 0x0F 0xFF) .csrrc := by decide
  refine ⟨hperm, (csr_rmw_iff (by decide) rfl (by decide) hperm).mpr ⟨?_, fun _ _ => by decide⟩⟩
  exact fun h => absurd h (by decide)

/-- Clearing the low four of eight bits clears all of them. -/
theorem not_csr_rmw_clearing :
    ¬ MustTrap (clearing 0xFF 0x0F) .csrrc ∧
    ¬ ∃ e', @Model.csr (Platform.always csrrc) (clearing 0xFF 0x0F) = .ok e' ∧
      ReadModifyWrite (clearing 0xFF 0x0F) .csrrc e' := by
  let _ : Platform := Platform.always csrrc
  refine ⟨by decide, ?_⟩
  rintro ⟨e', hcsr, hrmw⟩
  have hperm : ¬ (clearing 0xFF 0x0F).CsrDenied .csrrc := by decide
  obtain ⟨e'', hcsr', -, hcsrf⟩ := csr_of_not_csrDenied rfl (by decide) hperm
  obtain rfl := Except.ok.inj (hcsr.symm.trans hcsr')
  have hresult : (clearing 0xFF 0x0F).csrResult .csrrc = (clearing 0xFF 0x0F).csrSpec .csrrc :=
    ((hcsrf _).trans (if_pos rfl)).symm.trans hrmw.csr
  exact absurd hresult (by decide)

/-- `csrrsi x1, 0xF14, u`. -/
def csrrsi (u : RegIndex) : Op :=
  { imm := 0xF14, opt := .sys .csrrsi, tgt := .csr, rd := 1, rs1 := u, rs2 := 0, hasImm := true,
    usePc := false, isCompressed := false }

/-- The simulator about to execute `csrrsi`, in machine mode. -/
def setting (u : RegIndex) : Model :=
  { single (csrrsi u) with curState := { (single (csrrsi u)).curState with dec := csrrsi u } }

/-- A write to a read-only CSR is refused, and traps. -/
theorem csr_traps_setting :
    @Model.csr (Platform.always (csrrsi 1)) (setting 1) =
      .ok (@Model.trap (Platform.always (csrrsi 1)) (setting 1) .expInstIllegal) := by
  let _ : Platform := Platform.always (csrrsi 1)
  have hmust : MustTrap (setting 1) .csrrsi := Or.inr ⟨rfl, rfl⟩
  exact ((csr_traps_iff (by decide) rfl (by decide)).mpr fun h => absurd h.2.1 (by decide)).mpr hmust

/-- A read of a read-only CSR traps as well, in the immediate form. -/
theorem not_csr_traps_setting :
    ¬ (@Model.csr (Platform.always (csrrsi 0)) (setting 0) =
      .ok (@Model.trap (Platform.always (csrrsi 0)) (setting 0) .expInstIllegal) ↔
        MustTrap (setting 0) .csrrsi) := by
  let _ : Platform := Platform.always (csrrsi 0)
  have htrap : (setting 0).csr = .ok ((setting 0).trap .expInstIllegal) :=
    (csr_eq_trap_iff rfl (by decide)).mpr (by decide)
  have hmust : ¬ MustTrap (setting 0) .csrrsi := by
    rintro (hlevel | ⟨hwrite, -⟩)
    · exact absurd hlevel (by decide)
    · exact absurd hwrite (by decide)
  exact fun h => hmust (h.mp htrap)

/-- The write to a read-only CSR changes nothing. -/
theorem refused_setting :
    let _ : Platform := Platform.always (csrrsi 1)
    FailsCheck (setting 1) .csrrsi ∧ ∃ e', (setting 1).csr = .ok e' ∧ Refused (setting 1) e' := by
  intro _
  have hfails : FailsCheck (setting 1) .csrrsi := .immWrite (Or.inr (Or.inl rfl)) (by decide)
  exact ⟨hfails, refused_of_failsCheck rfl (by decide) hfails⟩

end Model

end Riscv32Sim
