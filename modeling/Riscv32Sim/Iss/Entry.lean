import Riscv32Sim.Iss.Exception

/-!
# What a trap saves, and where it goes

`save_pc` rounds the pc down to a multiple of four with the mask of `mtvec`, whatever the cause,
and for every cause but `ecall` and `ebreak` it adds four. The handler is entered at the base of
`mtvec`, an interrupt at its slot of the table there: the two low bits of `mtvec` are never read.

## Main definitions

* `Model.specEntry`: the entry that the mode bits of `mtvec` choose
* `Platform.ofTable`, `Model.assembled`: a program given by its encodings

## Main results

* `Model.mepc_step_eq_pc_iff`: when `ecall` and `ebreak` save their own address
* `Model.mepc_step_of_illegal`: an illegal instruction saves the address after it
* `Model.trap_enters`: where every trap goes in machine mode
-/

namespace Riscv32Sim

/-! ## Programs -/

/-- The platform whose decoder knows the encodings of a table, and reads every other word as an
illegal instruction. -/
@[reducible] def Platform.ofTable (table : List (BitVec 32 × Op)) : Platform :=
  Platform.ofDecoder (fun x => (table.lookup x).getD Op.empty)
    fun x => (table.lookup (x &&& 0xFFFF)).getD Op.empty

namespace SparseMemory

open LittleEndian

variable [Platform]

/-- The memory that holds the given words. -/
def image (words : List (BitVec 32 × BitVec 32)) : SparseMemory :=
  words.foldl (fun m p => m.write32 p.1 p.2) .empty

omit [Platform] in
/-- Its bytes. -/
def imageBytes (words : List (BitVec 32 × BitVec 32)) : ByteMemory 32 :=
  words.foldl (fun f p => store f p.1 4 p.2) fun _ => 0

theorem read8_image (words : List (BitVec 32 × BitVec 32)) :
    (image words).read8 = imageBytes words := by
  -- from any memory, the words are stored one after the other
  have hfold : ∀ m : SparseMemory, (words.foldl (fun m p => m.write32 p.1 p.2) m).read8 =
      words.foldl (fun f p => store f p.1 4 p.2) m.read8 := by
    induction words with
    | nil => exact fun m => rfl
    | cons p words ih =>
      intro m
      rw [List.foldl_cons, List.foldl_cons, ih, read8_write32]
  exact (hfold .empty).trans rfl

theorem read32_image (words : List (BitVec 32 × BitVec 32)) (a : BitVec 32) :
    (image words).read32 a = load (imageBytes words) a 4 := by
  rw [read32_eq_load, read8_image]

theorem read64_image (words : List (BitVec 32 × BitVec 32)) (a : BitVec 32) :
    (image words).read64 a = load (imageBytes words) a 8 := by
  rw [read64_eq_load, read8_image]

/-- A store adds a word to the image. -/
theorem image_write32 (words : List (BitVec 32 × BitVec 32)) (a w : BitVec 32) :
    (image words).write32 a w = image (words ++ [(a, w)]) := by
  rw [image, image, List.foldl_append]
  rfl

end SparseMemory

namespace Model

section Assembled

variable [Platform]

/-- The simulator of a program entered at `pc`, where every address is executable. -/
def assembled (opts : Options) (pc : BitVec 32) (words : List (BitVec 32 × BitVec 32)) : Model :=
  .init opts pc [(0, 0xFFFFFFFF)] 0x300 (.init (.image words) opts.mtime opts.mtimecmp)

@[simp] theorem assembled_pc (opts : Options) (pc : BitVec 32)
    (words : List (BitVec 32 × BitVec 32)) : (assembled opts pc words).pc = pc :=
  Platform.hartState_pc pc

theorem page_assembled (opts : Options) (pc : BitVec 32) (words : List (BitVec 32 × BitVec 32)) :
    (assembled opts pc words).mem.page = .image words :=
  rfl

theorem read32_assembled (opts : Options) (pc : BitVec 32)
    (words : List (BitVec 32 × BitVec 32)) (a : BitVec 32) :
    (assembled opts pc words).mem.read32 a = LittleEndian.load (SparseMemory.imageBytes words) a 4 :=
  SparseMemory.read32_image words a

/-- The instruction is that of the word at the pc. -/
theorem decoded_of_read32 {s : Model} {x : BitVec 32} (h : s.mem.read32 s.pc = x) :
    s.decoded = if x &&& 0b11 ≠ 0b11 then decode16 x else decode x := by
  rw [decoded, h]

/-- The program with the word `x` at its entry address, and the timer off. -/
def fetching (pc x : BitVec 32) : Model := assembled ⟨0x8000, 0x8100, false⟩ pc [(pc, x)]

@[simp] theorem fetching_pc (pc x : BitVec 32) : (fetching pc x).pc = pc := assembled_pc ..

theorem decoded_fetching (pc x : BitVec 32) :
    (fetching pc x).decoded = if x &&& 0b11 ≠ 0b11 then decode16 x else decode x := by
  apply decoded_of_read32
  rw [fetching_pc]
  exact SparseMemory.read32_write32 ..

end Assembled

/-! ## The saved address -/

section SavedPc

variable [Platform]

theorem and_tvecBaseAddr_eq_self_iff (p : BitVec 32) :
    p &&& tvecBaseAddr = p ↔ p.toNat % 4 = 0 := by
  rw [← BitVec.toNat_inj, toNat_and_tvecBaseAddr]
  omega

/-- In machine mode, an exception leaves the saved address in `mepc`. -/
theorem mepc_enterTrap {e : Model} (hmode : e.mode.m = .machine) (cause : TrapCause)
    (vector : BitVec 32) :
    (e.enterTrap cause vector).csrf.read Csr.mepc.toInt = savedPc cause e.pc := by
  rw [enterTrap_csrf, ← (privCsr_of_machine hmode).2, read_trapCsrs_uepc]

/-- The saved address after a step that raises an exception. -/
theorem exists_step_of_raises {s : Model} {cause : TrapCause} (hmode : s.mode.m = .machine)
    (h : Raises s cause) :
    ∃ s', s.step = .ok s' ∧ s'.csrf.read Csr.mepc.toInt = savedPc cause s.pc := by
  refine ⟨_, step_of_raises h, ?_⟩
  rw [mepc_enterTrap (s.entered_mode.symm ▸ hmode), pc, entered_pc]

/-- **When `ecall` and `ebreak` save their own address**: exactly at a multiple of four, and so
not at every address of a compressed instruction. -/
theorem mepc_step_eq_pc_iff {s : Model} (hmode : s.mode.m = .machine)
    (h : s.decoded.tgt = .ecall ∨ s.decoded.tgt = .ebreak) :
    (∃ s', s.step = .ok s' ∧ s'.csrf.read Csr.mepc.toInt = s.pc) ↔ s.pc.toNat % 4 = 0 := by
  obtain ⟨cause, hraises, hcause⟩ : ∃ cause, Raises s cause ∧
      (cause.isEcall = true ∨ cause = .expBreakpoint) := by
    rcases h with htgt | htgt
    · exact ⟨_, .ecall htgt, Or.inl s.isEcall_ecallCause⟩
    · exact ⟨_, .ebreak htgt, Or.inr rfl⟩
  obtain ⟨s', hstep, hmepc⟩ := exists_step_of_raises hmode hraises
  have hsaved : savedPc cause s.pc = s.pc &&& tvecBaseAddr := if_pos hcause
  rw [← and_tvecBaseAddr_eq_self_iff, ← hsaved]
  constructor
  · rintro ⟨s'', hstep', hmepc'⟩
    obtain rfl := Except.ok.inj (hstep.symm.trans hstep')
    exact hmepc.symm.trans hmepc'
  · intro hself
    exact ⟨s', hstep, hmepc.trans hself⟩

/-- **An illegal instruction does not save its own address**: at a multiple of four it saves the
address after it, whether the encoding is illegal or the access to a CSR is refused. -/
theorem mepc_step_of_illegal {s : Model} (hmode : s.mode.m = .machine)
    (haligned : s.pc.toNat % 4 = 0) (h : Raises s .expInstIllegal) :
    ∃ s', s.step = .ok s' ∧ s'.csrf.read Csr.mepc.toInt = s.pc + 4 ∧
      s'.csrf.read Csr.mepc.toInt ≠ s.pc := by
  obtain ⟨s', hstep, hmepc⟩ := exists_step_of_raises hmode h
  have hpc := s.pc.isLt
  have hadd : (s.pc + 4).toNat = (s.pc.toNat + 4) % 2 ^ 32 := BitVec.toNat_add ..
  have hsaved : savedPc .expInstIllegal s.pc = s.pc + 4 := by
    apply BitVec.eq_of_toNat_eq
    rw [toNat_savedPc (by decide), hadd]
    omega
  refine ⟨s', hstep, hmepc.trans hsaved, fun heq => ?_⟩
  have hn := congrArg BitVec.toNat (hsaved.symm.trans (hmepc.symm.trans heq))
  omega

end SavedPc

/-- `ecall`. -/
def ecall : Op :=
  { imm := 0, opt := .monostate, tgt := .ecall, rd := 0, rs1 := 0, rs2 := 0, hasImm := false,
    usePc := false, isCompressed := false }

/-- `c.ebreak`. -/
def cEbreak : Op :=
  { imm := 0, opt := .monostate, tgt := .ebreak, rd := 0, rs1 := 0, rs2 := 0, hasImm := false,
    usePc := false, isCompressed := true }

/-- An `ecall` at address 4 saves that address. -/
theorem mepc_step_ecall :
    let _ : Platform := Platform.ofTable [(0x00000073, ecall)]
    (fetching 4 0x00000073).decoded.tgt = .ecall ∧
    ∃ s', (fetching 4 0x00000073).step = .ok s' ∧ s'.csrf.read Csr.mepc.toInt = 4 := by
  intro _
  have htgt : (fetching 4 0x00000073).decoded.tgt = .ecall := by
    rw [decoded_fetching]
    rfl
  have haligned : (fetching 4 0x00000073).pc.toNat % 4 = 0 := by
    rw [fetching_pc]
    rfl
  exact ⟨htgt, (mepc_step_eq_pc_iff rfl (Or.inl htgt)).mpr haligned⟩

/-- A `c.ebreak` at address 2 saves address 0. -/
theorem mepc_step_cEbreak :
    let _ : Platform := Platform.ofTable [(0x9002, cEbreak)]
    ((fetching 2 0x9002).mode.m = .machine ∧ (fetching 2 0x9002).isValidPc ∧
      (fetching 2 0x9002).decoded.tgt = .ebreak ∧ (fetching 2 0x9002).pc = 2) ∧
    ∃ s', (fetching 2 0x9002).step = .ok s' ∧ s'.csrf.read Csr.mepc.toInt = 0 := by
  intro _
  have htgt : (fetching 2 0x9002).decoded.tgt = .ebreak := by
    rw [decoded_fetching]
    rfl
  obtain ⟨s', hstep, hmepc⟩ := exists_step_of_raises rfl (.ebreak htgt)
  rw [fetching_pc] at hmepc
  exact ⟨⟨rfl, isValidPc_of_allowedPcs_eq rfl, htgt, rfl⟩, s', hstep, hmepc.trans (by decide)⟩

/-- `csrrw x0, mhartid, x1`. -/
def csrrwHartid : Op :=
  { imm := 0xF14, opt := .sys .csrrw, tgt := .csr, rd := 0, rs1 := 1, rs2 := 0, hasImm := true,
    usePc := false, isCompressed := false }

/-- A refused access at address 4 saves address 8. -/
theorem mepc_step_csrrwHartid :
    let _ : Platform := Platform.ofTable [(0xF1409073, csrrwHartid)]
    Raises (fetching 4 0xF1409073) .expInstIllegal ∧
    ∃ s', (fetching 4 0xF1409073).step = .ok s' ∧ s'.csrf.read Csr.mepc.toInt = 4 + 4 ∧
      s'.csrf.read Csr.mepc.toInt ≠ 4 := by
  intro _
  have hdec : (fetching 4 0xF1409073).decoded = csrrwHartid := by
    rw [decoded_fetching]
    rfl
  have hraises : Raises (fetching 4 0xF1409073) .expInstIllegal := by
    refine .denied .csrrw (congrArg Op.tgt hdec) (congrArg Op.opt hdec) (by rw [hdec]; decide) ?_
    rw [CsrDenied, dec, fetched_curState_dec, hdec]
    decide
  have haligned : (fetching 4 0xF1409073).pc.toNat % 4 = 0 := by
    rw [fetching_pc]
    rfl
  exact ⟨hraises, mepc_step_of_illegal rfl haligned hraises⟩

/-- The illegal word 0 at address 0 saves address 4. -/
theorem mepc_step_zero :
    let _ : Platform := Platform.ofTable []
    ((fetching 0 0).mode.m = .machine ∧ (fetching 0 0).isValidPc ∧
      Raises (fetching 0 0) .expInstIllegal ∧ (fetching 0 0).pc = 0) ∧
    ∃ s', (fetching 0 0).step = .ok s' ∧ s'.csrf.read Csr.mepc.toInt = 4 := by
  intro _
  have htgt : (fetching 0 0).decoded.tgt = .illegal := by
    rw [decoded_fetching]
    rfl
  obtain ⟨s', hstep, hmepc⟩ := exists_step_of_raises rfl (.illegal htgt)
  rw [fetching_pc] at hmepc
  exact ⟨⟨rfl, isValidPc_of_allowedPcs_eq rfl, .illegal htgt, rfl⟩, s', hstep,
    hmepc.trans (by decide)⟩

/-! ## The entry of the handler -/

/-- `mtvec` with the two mode bits cleared. -/
def tvecBase (mtvec : BitVec 32) : BitVec 32 := mtvec &&& 0xFFFFFFFC#32

section Entry

variable [Platform]

/-- The entry that the mode bits choose: an interrupt enters at its slot of the table when they
are 1, and at the base when they are 0, as an exception does. -/
def specEntry (mtvec : BitVec 32) (cause : TrapCause) : BitVec 32 :=
  tvecBase mtvec + if cause.isInterrupt ∧ mtvec &&& 3 = 1 then 4 * cause.code else 0

theorem handlerEntry_eq {s : Model} (hmode : s.mode.m = .machine) :
    s.handlerEntry = tvecBase (s.csrf.read Csr.mtvec.toInt) := by
  rw [handlerEntry_of_machine hmode, Platform.tvecBaseAddr_eq, tvecBase]

/-- An exception stages the base, and installs nothing yet. -/
theorem trap_of_not_isInterrupt {s : Model} {cause : TrapCause} (hmode : s.mode.m = .machine)
    (h : cause.isInterrupt = false) :
    (s.trap cause).pcNext = tvecBase (s.csrf.read Csr.mtvec.toInt) ∧ (s.trap cause).pc = s.pc := by
  have htrap : s.trap cause = s.enterTrap cause 0 := by rw [trap, h]; rfl
  rw [htrap]
  refine ⟨?_, enterTrap_pc ..⟩
  rw [pcNext, enterTrap_pcNext, handlerEntry_eq hmode]
  exact BitVec.add_zero _

/-- An interrupt that is taken installs its slot of the table. -/
theorem trap_of_takes {s : Model} {cause : TrapCause} (hmode : s.mode.m = .machine)
    (h : cause.isInterrupt = true) (htake : s.takes cause = true) :
    (s.trap cause).pcNext = tvecBase (s.csrf.read Csr.mtvec.toInt) + 4 * cause.code ∧
    (s.trap cause).pc = tvecBase (s.csrf.read Csr.mtvec.toInt) + 4 * cause.code := by
  have hmip : Csr.mtvec.toInt ≠ Csr.mip.toInt := by decide
  have hmstatus : Csr.mtvec.toInt ≠ Csr.mstatus.toInt := by decide
  rw [trap, if_pos h, if_pos htake]
  dsimp only
  -- the request and the status are written before `mtvec` is read
  set e := (s.writeCsr Csr.mip.toInt _).writeCsr Csr.mstatus.toInt _ with he
  have hentry : e.handlerEntry = tvecBase (s.csrf.read Csr.mtvec.toInt) := by
    have hmode' : e.mode.m = .machine := hmode
    rw [handlerEntry_eq hmode', he, writeCsr_csrf, CsrFile.read_write_of_ne _ _ hmstatus,
      writeCsr_csrf, CsrFile.read_write_of_ne _ _ hmip]
  have hnext : (e.enterTrap cause (cause.code * 4)).pcNext =
      tvecBase (s.csrf.read Csr.mtvec.toInt) + 4 * cause.code := by
    rw [pcNext, enterTrap_pcNext, hentry, BitVec.mul_comm]
  exact ⟨hnext, hnext⟩

/-- **Where a trap goes in machine mode.** An exception stages the base of `mtvec`; an interrupt
that is taken installs the base plus four times its code, whatever the mode bits. -/
theorem trap_enters {s : Model} (hmode : s.mode.m = .machine) (cause : TrapCause) :
    (cause.isInterrupt = false →
      (s.trap cause).pcNext = tvecBase (s.csrf.read Csr.mtvec.toInt)) ∧
    (cause.isInterrupt = true → s.takes cause = true →
      (s.trap cause).pcNext = tvecBase (s.csrf.read Csr.mtvec.toInt) + 4 * cause.code ∧
      (s.trap cause).pc = tvecBase (s.csrf.read Csr.mtvec.toInt) + 4 * cause.code) :=
  ⟨fun h => (trap_of_not_isInterrupt hmode h).1, fun h htake => trap_of_takes hmode h htake⟩

end Entry

/-- The simulator with an enabled timer interrupt pending. -/
def requested (mtvec : BitVec 32) : Model :=
  { single Op.empty with
    csrf := (((CsrFile.init.write Csr.mie.toInt 0x80).write Csr.mip.toInt 0x80).write
      Csr.mstatus.toInt 0x8).write Csr.mtvec.toInt mtvec }

/-- With the vectored mode, the timer interrupt enters at its slot. -/
theorem trap_enters_requested :
    let _ : Platform := Platform.ofTable []
    (requested 0x1001).takes .intTimerM = true ∧
      ((requested 0x1001).trap .intTimerM).pc = 0x101C := by
  intro _
  have htake : (requested 0x1001).takes .intTimerM = true := by decide
  have hpc := ((trap_enters (show (requested 0x1001).mode.m = .machine from rfl) .intTimerM).2
    (by decide) htake).2
  exact ⟨htake, hpc.trans (by decide)⟩

/-- With the direct mode, it enters there as well. -/
theorem trap_requested_ne_specEntry :
    let _ : Platform := Platform.ofTable []
    ((requested 0x1000).mode.m = .machine ∧ (requested 0x1000).takes .intTimerM = true ∧
      (requested 0x1000).csrf.read Csr.mtvec.toInt = 0x1000) ∧
    ((requested 0x1000).trap .intTimerM).pc = 0x101C ∧ specEntry 0x1000 .intTimerM = 0x1000 := by
  intro _
  have htake : (requested 0x1000).takes .intTimerM = true := by decide
  have hpc := (trap_of_takes (show (requested 0x1000).mode.m = .machine from rfl) (by decide)
    htake).2
  exact ⟨⟨rfl, htake, rfl⟩, hpc.trans (by decide), by decide⟩

end Model

end Riscv32Sim
