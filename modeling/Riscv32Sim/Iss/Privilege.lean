import Riscv32Sim.Iss.Frame

/-!
# Privilege

Below machine mode, an instruction that traps or writes a CSR reaches the registers of its own
level at most: a trap writes the registers of the current mode, and `csr` checks the level of the
address. `mret` checks nothing.

## Main definitions

* `csrLevel`: the privilege level in a CSR address
* `Model.Confined`: no escalation by one call of `step`

## Main results

* `Model.confined_of_ne_mret`: every other instruction is confined
* `Model.not_confined_of_mret`: `mret` is not, in any state below machine mode
* `Model.step_confined_iff`: the two together
-/

namespace Riscv32Sim

/-- Bits 9 and 8 of a CSR address. -/
def csrLevel (a : CsrAddr) : ℕ := a.toNat / 2 ^ 8 % 2 ^ 2

/-- The trap registers of a mode are at its level. -/
theorem csrLevel_privCsr (mode : PrivilegedMode) {c : Csr} (hc : c.toInt &&& 0x300 = 0) :
    csrLevel (mode.privCsr c) = mode.m.toInt := by
  rw [mode.eq_ofMode]
  change csrLevel ((PrivilegedMode.ofMode mode.m).privCsr c) = mode.m.toInt
  revert hc
  cases mode.m <;> cases c <;> decide

namespace Model

/-- The step from `s` to `s'` raises neither the mode nor a CSR of a higher level. -/
def Confined (s s' : Model) : Prop :=
  s'.mode.m.toInt ≤ s.mode.m.toInt ∧
    ∀ a, s.mode.m.toInt < csrLevel a → s'.csrf.read a = s.csrf.read a

section Confined

variable [Platform]

/-- A CSR above the level of the mode is none of its trap registers. -/
theorem read_entered_of_lt {s : Model} {a : CsrAddr} (h : s.mode.m.toInt < csrLevel a) :
    s.entered.csrf.read a = s.csrf.read a := by
  have hne : ∀ c : Csr, c.toInt &&& 0x300 = 0 → a ≠ s.mode.privCsr c := by
    rintro c hc rfl
    rw [csrLevel_privCsr _ hc] at h
    exact lt_irrefl _ h
  exact read_entered_of_ne (hne .ucause rfl) (hne .utval rfl) (hne .uepc rfl)

omit [Platform] in
/-- The level that `priv` extracts is the level of the CSR. -/
theorem csrLevel_csrAddr (op : Op) : csrLevel (csrAddr op) = op.imm.toNat / 2 ^ 8 % 2 ^ 2 := by
  rw [csrLevel, csrAddr, BitVec.toNat_setWidth]
  omega

/-- A `csr` instruction writes a register of the level of the mode at most. -/
theorem csrLevel_csrAddr_le {e : Model} (hw : e.mode.canWrite e.dec.imm = true) :
    csrLevel (csrAddr e.dec) ≤ e.mode.m.toInt := by
  rw [csrLevel_csrAddr]
  exact (PrivilegedMode.canRead_iff _ _).mp (PrivilegedMode.canRead_of_canWrite hw)

/-- Every instruction other than `mret` is confined. -/
theorem confined_of_ne_mret {s s' : Model} (h : s.step = .ok s') (hmret : s.decoded.tgt ≠ .mret) :
    Confined s s' := by
  have heff := effect_of_step h
  have hmode : s'.mode = s.mode := by
    by_contra hne
    exact hmret ((step_frame h).mode hne)
  refine ⟨by rw [hmode], fun a ha => ?_⟩
  rw [← read_entered_of_lt ha]
  by_contra hne
  rw [← s.entered_mode] at ha
  have hlevel : ∀ c : Csr, c.toInt &&& 0x300 = 0 → a ≠ s.entered.mode.privCsr c := by
    rintro c hc rfl
    rw [csrLevel_privCsr _ hc] at ha
    exact lt_irrefl _ ha
  -- the only writes are those of a trap, of a `csr` instruction that passed the check, and of `mret`
  cases heff with
  | csr v tmp htgt hw =>
    have hne' : a ≠ csrAddr s.entered.dec := by
      rintro rfl
      exact absurd (csrLevel_csrAddr_le hw) (not_le.mpr ha)
    exact hne (s.entered.csrf.read_write_of_ne v hne')
  | mret htgt => exact hmret (s.entered_dec ▸ htgt)
  | trap cause h hecall =>
    rw [enterTrap_csrf] at hne
    exact hne (read_trapCsrs_of_ne cause (hlevel .ucause rfl) (hlevel .utval rfl)
      (hlevel .uepc rfl))
  | gpr | jump | store | branch | skip => exact hne rfl

/-- Below machine mode `mret` escalates: either it returns to machine mode, or it sets the
previous mode in `mstatus` to machine. -/
theorem not_confined_of_mret {s : Model} (hmode : s.mode.m ≠ .machine)
    (htgt : s.decoded.tgt = .mret) : ∃ s', s.step = .ok s' ∧ ¬ Confined s s' := by
  have hlt : s.mode.m.toInt < 3 := by
    revert hmode
    cases s.mode.m <;> decide
  refine ⟨_, step_of_mret htgt, fun ⟨hle, hcsr⟩ => ?_⟩
  have hread : s.entered.csrf.read Csr.mstatus.toInt = s.csrf.read Csr.mstatus.toInt :=
    read_entered_of_lt hlt
  -- `mstatus` is out of reach, so `mret` must have left it alone; but it sets the previous mode
  -- to machine, and so it has returned to machine mode
  have hpop := hcsr Csr.mstatus.toInt hlt
  rw [handleMret_csrf, CsrFile.read_write_self, hread] at hpop
  rw [handleMret_mode, hread, ← hpop] at hle
  have hpp : previousMode (popStatus (s.csrf.read Csr.mstatus.toInt)) = .machine := by
    rw [previousMode, getLsbD_popStatus, getLsbD_popStatus]
    rfl
  rw [hpp] at hle
  exact absurd hle (not_le.mpr hlt)

/-- **No privilege escalation, except by `mret`.** -/
theorem step_confined_iff {s : Model} (hmode : s.mode.m ≠ .machine) :
    (∀ s', s.step = .ok s' → Confined s s') ↔ s.decoded.tgt ≠ .mret := by
  constructor
  · intro h htgt
    obtain ⟨s', hstep, hesc⟩ := not_confined_of_mret hmode htgt
    exact hesc (h s' hstep)
  · exact fun hmret s' hstep => confined_of_ne_mret hstep hmret

end Confined

/-- `mret`. -/
def mret : Op := { Op.empty with tgt := .mret }

/-- The simulator of one instruction in user mode. -/
def singleUser (op : Op) : Model := { single op with mode := .ofMode .user }

/-- `addi` in user mode is confined. -/
theorem confined_addi :
    (singleUser addi).mode.m ≠ .machine ∧
    ∀ s', @Model.step (Platform.always addi) (singleUser addi) = .ok s' →
      Confined (singleUser addi) s' := by
  let _ : Platform := Platform.always addi
  have hmode : (singleUser addi).mode.m ≠ .machine := by decide
  have hdec : (singleUser addi).decoded = addi := decoded_always addi _
  exact ⟨hmode, (step_confined_iff hmode).mpr (hdec ▸ by decide)⟩

/-- `mret` in user mode is not. -/
theorem not_confined_mret :
    ∃ s', @Model.step (Platform.always mret) (singleUser mret) = .ok s' ∧
      ¬ Confined (singleUser mret) s' := by
  let _ : Platform := Platform.always mret
  have hdec : (singleUser mret).decoded = mret := decoded_always mret _
  exact not_confined_of_mret (by decide) (congrArg Op.tgt hdec)

end Model

end Riscv32Sim
