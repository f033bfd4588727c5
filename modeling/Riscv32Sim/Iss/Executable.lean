import Riscv32Sim.Iss.Entry
import Riscv32Sim.Iss.Log
import Riscv32Sim.Loader

/-!
# The executable sections

`step` checks that the pc lies in an executable section before it executes the instruction there.
The check is made at the first byte: the others may lie outside.

## Main definitions

* `Executable`: the addresses of the executable sections
* `Model.GoesOn`: no access fault has been raised between two states
* `Straddles`: an instruction that starts in an executable section and leaves them

## Main results

* `Model.goesOn_iff_isValidPc`: `step` raises an access fault when the pc is not valid
* `Model.goesOn_iff`: `step` checks the first byte of the instruction
* `Model.goesOn_iff_forall_iff`: when that covers the whole instruction
-/

namespace Riscv32Sim

/-- The addresses of the executable sections. -/
def Executable (sections : List Section) (a : ℕ) : Prop := ∃ s ∈ sections, s.Executes a

/-- An instruction of `n` bytes that starts in an executable section, and has a byte in none. -/
def Straddles (sections : List Section) (a n : ℕ) : Prop :=
  Executable sections a ∧ ∃ i < n, ¬ Executable sections (a + i)

instance (sections : List Section) (a : ℕ) : Decidable (Executable sections a) :=
  inferInstanceAs (Decidable (∃ s ∈ sections, s.Executes a))

namespace Model

section Executable

variable [Platform]

/-- No access fault has been raised on the way from `s` to `s'`: the changes of CSRs that have been
staged do not start with those that the trap makes. -/
def GoesOn (s s' : Model) : Prop :=
  ¬ (s.trap .expInstAccessFault).curState.csrStaged <+: s'.curState.csrStaged

/-- The records of a trap. -/
def trapRecords (s : Model) (cause : TrapCause) : List CsrChange :=
  let f := s.csrf.write (s.mode.privCsr .ucause) cause.toInt
  let f' := f.write (s.mode.privCsr .utval) 0
  [s.csrf.change (s.mode.privCsr .ucause) cause.toInt, f.change (s.mode.privCsr .utval) 0,
    f'.change (s.mode.privCsr .uepc) (savedPc cause s.pc)]

theorem csrStaged_enterTrap (s : Model) (cause : TrapCause) (vector : BitVec 32) :
    (s.enterTrap cause vector).curState.csrStaged =
      s.curState.csrStaged ++ s.trapRecords cause := by
  rw [enterTrap, savePc_eq]
  split_ifs <;> simp [trapRecords, pc]

theorem csrStaged_trap_accessFault (s : Model) :
    (s.trap .expInstAccessFault).curState.csrStaged =
      s.curState.csrStaged ++ s.trapRecords .expInstAccessFault := by
  rw [trap_of_isException .accessFault, csrStaged_enterTrap]

/-- No instruction raises an access fault: the others have another cause, and an instruction that
does not trap stages one record at most. -/
theorem Effect.goesOn {e e' : Model} (h : Effect e e') : GoesOn e e' := by
  intro hprefix
  rw [csrStaged_trap_accessFault] at hprefix
  have hshort : e'.curState.csrStaged.length ≤ e.curState.csrStaged.length + 1 → False := by
    intro hle
    have hlen := hprefix.length_le
    rw [List.length_append] at hlen
    change _ + 3 ≤ _ at hlen
    omega
  cases h with
  | gpr | jump | store | branch | skip => exact hshort (Nat.le_succ _)
  | csr | mret => exact hshort (List.length_append.le)
  | trap cause hexc hecall hne =>
    rw [csrStaged_enterTrap, List.prefix_append_right_inj] at hprefix
    have hcause : (1 : BitVec 32) = cause.toInt :=
      congrArg CsrChange.next (List.cons_prefix_cons.mp hprefix).1
    cases hexc with
    | accessFault => exact hne rfl
    | illegal | breakpoint => exact absurd hcause (by decide)
    | ecall hecall => cases cause <;> first | exact absurd hcause (by decide) | exact hne rfl

/-- **`step` raises an access fault when the pc is not valid**, and then only. -/
theorem goesOn_iff_isValidPc {s s' : Model} (hstep : s.step = .ok s') :
    s.GoesOn s' ↔ s.isValidPc = true := by
  rw [step_eq] at hstep
  have heff := effect_of_exec hstep
  unfold entered at heff
  split_ifs at heff with hvalid
  · -- the fetch stages nothing
    have hfetched : s.fetched.GoesOn s' := heff.goesOn
    rw [GoesOn, csrStaged_trap_accessFault] at hfetched
    refine iff_of_true ?_ hvalid
    rw [GoesOn, csrStaged_trap_accessFault]
    exact hfetched
  · refine iff_of_false (not_not_intro ?_) hvalid
    -- the instruction adds its records to those of the fault
    obtain ⟨g, c, hlog⟩ := heff.logged
    rw [hlog.csrStaged, faulted, csrStaged_enterTrap, csrStaged_trap_accessFault]
    exact List.prefix_append _ _

/-- **`step` checks the first byte of the instruction.** -/
theorem goesOn_iff {s s' : Model} {sections : List Section} (hstep : s.step = .ok s')
    (h : s.allowedPcs = Loader.progbitRanges sections) :
    s.GoesOn s' ↔ Executable sections s.pc.toNat := by
  have hpc : (s.pc.setWidth 64).toNat = s.pc.toNat := Section.toNat_setWidth_64 _
  rw [goesOn_iff_isValidPc hstep, isValidPc, isAddressInitialized, h, Executable, ← hpc,
    ← Loader.exists_progbitRange_iff]
  simp

/-- **When the check covers the whole instruction**: unless that starts in an executable section
and does not end in one. -/
theorem goesOn_iff_forall_iff {s s' : Model} {sections : List Section} (hstep : s.step = .ok s')
    (h : s.allowedPcs = Loader.progbitRanges sections) :
    (s.GoesOn s' ↔ ∀ i < s.decoded.length.toNat, Executable sections (s.pc.toNat + i)) ↔
      ¬ Straddles sections s.pc.toNat s.decoded.length.toNat := by
  have hpos : 0 < s.decoded.length.toNat := by
    unfold Op.length
    split_ifs <;> decide
  rw [goesOn_iff hstep h, Straddles]
  constructor
  · rintro hiff ⟨hfirst, i, hi, hout⟩
    exact hout (hiff.mp hfirst i hi)
  · intro hnot
    refine ⟨fun hfirst i hi => ?_, fun hall => hall 0 hpos⟩
    by_contra hout
    exact hnot ⟨hfirst, i, hi, hout⟩

end Executable

/-- The program of one `nop` at 0x1000, in an executable section of `size` bytes. -/
def inSection (size : BitVec 32) : Model :=
  { @fetching (Platform.ofTable [(0x00500013, nop)]) 0x1000 0x00500013 with
    allowedPcs := Loader.progbitRanges [⟨shtProgbits, 6, 0x1000, size⟩] }

theorem decoded_inSection (size : BitVec 32) :
    let _ : Platform := Platform.ofTable [(0x00500013, nop)]
    (inSection size).decoded = nop := by
  intro _
  have hdec : (inSection size).decoded = (fetching 0x1000 0x00500013).decoded := rfl
  rw [hdec, decoded_fetching]
  rfl

theorem exists_step_inSection (size : BitVec 32) :
    let _ : Platform := Platform.ofTable [(0x00500013, nop)]
    ∃ s', (inSection size).step = .ok s' := by
  intro _
  have hwf : (inSection size).decoded.WellFormed :=
    (decoded_inSection size).symm ▸ .alu .add rfl rfl rfl
  exact exists_step hwf

/-- In a section of four bytes the whole instruction is checked. -/
theorem goesOn_iff_inSection :
    let _ : Platform := Platform.ofTable [(0x00500013, nop)]
    ∃ s', (inSection 4).step = .ok s' ∧ ((inSection 4).GoesOn s' ↔
      ∀ i < 4, Executable [⟨shtProgbits, 6, 0x1000, 4⟩] (0x1000 + i)) := by
  intro _
  obtain ⟨s', hstep⟩ := exists_step_inSection 4
  have hcheck := goesOn_iff_forall_iff hstep
    (show (inSection 4).allowedPcs = Loader.progbitRanges [⟨shtProgbits, 6, 0x1000, 4⟩] from rfl)
  rw [decoded_inSection] at hcheck
  refine ⟨s', hstep, hcheck.mpr ?_⟩
  rintro ⟨-, i, hi, hout⟩
  have hlt : i < 4 := hi
  refine hout ⟨_, List.mem_singleton_self _, ⟨rfl, by decide⟩, Nat.le_add_right .., ?_⟩
  change 0x1000 + i < 0x1000 + 4
  omega

/-- In a section of two bytes, two bytes of the instruction lie outside, and `step` executes it
without an access fault. -/
theorem goesOn_inSection :
    let _ : Platform := Platform.ofTable [(0x00500013, nop)]
    (inSection 2).decoded.length = 4 ∧ (inSection 2).pc = 0x1000 ∧
      ∃ s', (inSection 2).step = .ok s' ∧ (inSection 2).GoesOn s' ∧
        ¬ ∀ i < 4, Executable [⟨shtProgbits, 6, 0x1000, 2⟩] (0x1000 + i) := by
  intro _
  obtain ⟨s', hstep⟩ := exists_step_inSection 2
  refine ⟨by rw [decoded_inSection]; rfl, rfl, s', hstep, ?_, by decide⟩
  rw [goesOn_iff hstep (show (inSection 2).allowedPcs =
    Loader.progbitRanges [⟨shtProgbits, 6, 0x1000, 2⟩] from rfl)]
  decide

end Model

end Riscv32Sim
