import Mathlib.Data.BitVec
import Mathlib.Tactic.Simps.Basic

/-!
# The decoded instruction and what the submodules provide

The simulator is written against two git submodules, `riscv32-sim-common` and
`riscv32-decoder`. Their data types are fixed by the code that uses them: the enumerators by
`format_helpers.hpp`, the fields by `json_export_helpers.hpp`. Their functions and constants are
not in the repository, and the model takes them as a parameter, `Platform`, together with the
documented facts the simulator relies on. The two-phase program counter is assumed to be what its
name and its uses say: `set` stages the next pc, and `update` installs it.

## Main definitions

* `Op`, `Op.WellFormed`: a decoded instruction
* `HartState`: the two-phase program counter, the instruction and the staged changes
* `Platform`: the decoder, the bit-field helper, the masks and the initial hart state
* `Platform.ofDecoder`, `Platform.always`: the platform of a decoder, and of one instruction
-/

namespace Riscv32Sim

/-- The exceptions of the C++ code; none is caught, so each of them ends the simulation. -/
inductive Error
  /-- `model::unexpected_switch_case_value` -/
  | unexpectedSwitchCaseValue
  /-- `std::bad_variant_access`, from `std::get` on an `op_type` -/
  | badVariantAccess
  /-- `std::out_of_range`, from `std::array::at` -/
  | outOfRange
  deriving DecidableEq, Repr

/-- A general-purpose register index. The decoder yields indices below 32, so the assertions
of `reg_file` hold by type. -/
abbrev RegIndex := BitVec 5

/-- `enum class target`. -/
inductive Target
  | load | store | alu | branch | csr | mret | illegal | ebreak | ecall
  deriving DecidableEq, Repr

/-- `enum class alu`. A C++ enumeration can also hold a value that none of its enumerators
names; such a value is `unnamed`, and every `switch` sends it to its default case. -/
inductive Alu
  | and | or | xor | add | sub | sll | srl | sra | slt | sltu
  | mul | mulh | mulhsu | mulhu | div | divu | rem | remu
  | auipc | jal | jalr
  | unnamed (v : BitVec 8)
  deriving DecidableEq, Repr

/-- `enum class masks::load`. -/
inductive Load
  | lb | lh | lw | lbu | lhu
  | unnamed (v : BitVec 8)
  deriving DecidableEq, Repr

/-- `enum class masks::store`. -/
inductive Store
  | sb | sh | sw
  | unnamed (v : BitVec 8)
  deriving DecidableEq, Repr

/-- `enum class masks::branch`. -/
inductive Branch
  | beq | bne | blt | bge | bltu | bgeu
  | unnamed (v : BitVec 8)
  deriving DecidableEq, Repr

/-- `enum class masks::sys`. -/
inductive Sys
  | csrrw | csrrs | csrrc | csrrwi | csrrsi | csrrci | other
  deriving DecidableEq, Repr

/-- The variant `op_type`. -/
inductive OpType
  | monostate
  | alu (a : Alu)
  | load (l : Load)
  | store (s : Store)
  | branch (b : Branch)
  | sys (s : Sys)
  deriving DecidableEq, Repr

namespace OpType

/-- `std::get<enum alu>`. -/
def getAlu : OpType → Except Error Alu
  | .alu a => .ok a
  | _ => .error .badVariantAccess

/-- `std::get<enum masks::load>`. -/
def getLoad : OpType → Except Error Load
  | .load l => .ok l
  | _ => .error .badVariantAccess

/-- `std::get<enum masks::store>`. -/
def getStore : OpType → Except Error Store
  | .store s => .ok s
  | _ => .error .badVariantAccess

/-- `std::get<enum masks::branch>`. -/
def getBranch : OpType → Except Error Branch
  | .branch b => .ok b
  | _ => .error .badVariantAccess

/-- `std::get<masks::sys>`. -/
def getSys : OpType → Except Error Sys
  | .sys s => .ok s
  | _ => .error .badVariantAccess

end OpType

/-- `struct op`, a decoded instruction. -/
structure Op where
  imm : BitVec 32
  opt : OpType
  tgt : Target
  rd : RegIndex
  rs1 : RegIndex
  rs2 : RegIndex
  hasImm : Bool
  usePc : Bool
  isCompressed : Bool
  deriving DecidableEq, Repr

/-- The length in bytes of the instruction: `is_compressed ? 2 : 4`. -/
def Op.length (op : Op) : BitVec 32 := if op.isCompressed then 2 else 4

/-- The value is one of the enumerators. -/
def Alu.isNamed : Alu → Bool
  | .unnamed _ => false
  | _ => true

@[inherit_doc Alu.isNamed]
def Load.isNamed : Load → Bool
  | .unnamed _ => false
  | _ => true

@[inherit_doc Alu.isNamed]
def Store.isNamed : Store → Bool
  | .unnamed _ => false
  | _ => true

@[inherit_doc Alu.isNamed]
def Branch.isNamed : Branch → Bool
  | .unnamed _ => false
  | _ => true

/-- What the decoder yields: an `opt` of the kind the target needs, and for a `csr` instruction
the twelve bits of its address. -/
inductive Op.WellFormed (op : Op) : Prop
  | alu (f : Alu) (htgt : op.tgt = .alu) (hopt : op.opt = .alu f) (hf : f.isNamed)
  | load (l : Load) (htgt : op.tgt = .load) (hopt : op.opt = .load l) (hl : l.isNamed)
  | store (w : Store) (htgt : op.tgt = .store) (hopt : op.opt = .store w) (hw : w.isNamed)
  | branch (b : Branch) (htgt : op.tgt = .branch) (hopt : op.opt = .branch b) (hb : b.isNamed)
  | csr (sys : Sys) (htgt : op.tgt = .csr) (hopt : op.opt = .sys sys) (himm : op.imm.toNat < 4096)
  | mret (htgt : op.tgt = .mret)
  | illegal (htgt : op.tgt = .illegal)
  | ebreak (htgt : op.tgt = .ebreak)
  | ecall (htgt : op.tgt = .ecall)

/-- `class program_counter` of `riscv32-sim-common`: the pc and the pc staged for the next
instruction. The class is not in the repository; that `set` stages and `update` installs is the
assumption that `step` and `commit` are stated under. -/
structure ProgramCounter where
  pc : BitVec 32
  pcNext : BitVec 32
  deriving DecidableEq, Repr

namespace ProgramCounter

/-- `program_counter::set` stages the next pc. -/
@[simps] def set (p : ProgramCounter) (v : BitVec 32) : ProgramCounter := { p with pcNext := v }

/-- `program_counter::update` installs the staged pc. -/
@[simps] def update (p : ProgramCounter) : ProgramCounter := { p with pc := p.pcNext }

end ProgramCounter

/-- `struct gpr_change`. -/
structure GprChange where
  index : BitVec 8
  prev : BitVec 32
  next : BitVec 32
  deriving DecidableEq, Repr

/-- `struct csr_change`. -/
structure CsrChange where
  index : BitVec 16
  prev : BitVec 32
  next : BitVec 32
  deriving DecidableEq, Repr

/-- `struct hart_state`. -/
structure HartState where
  pc : ProgramCounter
  instr : BitVec 32
  dec : Op
  gprStaged : List GprChange
  csrStaged : List CsrChange
  deriving DecidableEq, Repr

/-- What the repository does not contain: the decoder, the helper `offset`, the masks, the
constructor of `hart_state`, and the value the compiled code yields for a shift count that C++
leaves undefined. The `Prop` fields are the documented facts the simulator relies on. -/
class Platform where
  decode : BitVec 32 → Op
  decode16 : BitVec 32 → Op
  /-- `offset(x, lo, hi)`, the bits `lo..hi` of `x` -/
  offset {w : ℕ} (x : BitVec w) (lo hi : ℕ) : BitVec w
  getLsbD_offset {w : ℕ} (x : BitVec w) (lo hi i : ℕ) :
    (offset x lo hi).getLsbD i = (decide (lo + i ≤ hi) && x.getLsbD (lo + i))
  /-- `masks::sign_bit` -/
  signBit : BitVec 32
  signBit_eq : signBit = 0x80000000#32
  /-- `masks::msb_zero` -/
  msbZero : BitVec 32
  msbZero_eq : msbZero = 0x7FFFFFFF#32
  /-- `masks::lsb_zero` -/
  lsbZero : BitVec 32
  lsbZero_eq : lsbZero = 0xFFFFFFFE#32
  /-- `masks::tvec::base_addr` -/
  tvecBaseAddr : BitVec 32
  tvecBaseAddr_eq : tvecBaseAddr = 0xFFFFFFFC#32
  /-- `hart_state{entry}` -/
  hartState : BitVec 32 → HartState
  hartState_pc (entry : BitVec 32) : (hartState entry).pc.pc = entry
  hartState_gprStaged (entry : BitVec 32) : (hartState entry).gprStaged = []
  hartState_csrStaged (entry : BitVec 32) : (hartState entry).csrStaged = []
  /-- `opd_1` shifted by a count of 32 or more -/
  wideShift : Alu → BitVec 32 → BitVec 32 → BitVec 32

export Platform (decode decode16 offset getLsbD_offset signBit msbZero lsbZero tvecBaseAddr
  wideShift)

/-- An instruction that does nothing the model looks at: the content of `dec` before the first
fetch. -/
def Op.empty : Op :=
  { imm := 0, opt := .monostate, tgt := .illegal, rd := 0, rs1 := 0, rs2 := 0, hasImm := false,
    usePc := false, isCompressed := false }

/-- The platform of a decoder, with the submodule's helpers as documented. -/
@[reducible] def Platform.ofDecoder (decode decode16 : BitVec 32 → Op) : Platform where
  decode := decode
  decode16 := decode16
  offset x lo hi := (x >>> lo) &&& BitVec.ofNat _ (2 ^ (hi + 1 - lo) - 1)
  getLsbD_offset {w} x lo hi i := by
    rw [BitVec.getLsbD_and, BitVec.getLsbD_ushiftRight, BitVec.getLsbD_ofNat,
      Nat.testBit_two_pow_sub_one, Bool.and_comm]
    by_cases hi' : i < w
    · simp [hi', show i < hi + 1 - lo ↔ lo + i ≤ hi by omega]
    · simp [hi', BitVec.getLsbD_of_ge x (lo + i) (by omega)]
  signBit := 0x80000000#32
  signBit_eq := rfl
  msbZero := 0x7FFFFFFF#32
  msbZero_eq := rfl
  lsbZero := 0xFFFFFFFE#32
  lsbZero_eq := rfl
  tvecBaseAddr := 0xFFFFFFFC#32
  tvecBaseAddr_eq := rfl
  hartState entry :=
    { pc := ⟨entry, entry⟩, instr := 0, dec := Op.empty, gprStaged := [], csrStaged := [] }
  hartState_pc _ := rfl
  hartState_gprStaged _ := rfl
  hartState_csrStaged _ := rfl
  -- the shifter of the host masks the count
  wideShift
    | .sll, a, b => a <<< (b.toNat % 32)
    | .srl, a, b => a >>> (b.toNat % 32)
    | _, a, b => a.sshiftRight (b.toNat % 32)

/-- The platform whose decoder reads every word as `op`. -/
@[reducible] def Platform.always (op : Op) : Platform :=
  Platform.ofDecoder (fun _ => op) fun _ => op

section Offset

variable [Platform] {w : ℕ}

/-- The value of a bit field. -/
theorem toNat_offset (x : BitVec w) (lo k : ℕ) :
    (offset x lo (lo + k)).toNat = x.toNat / 2 ^ lo % 2 ^ (k + 1) := by
  apply Nat.eq_of_testBit_eq
  intro i
  rw [← BitVec.getLsbD, getLsbD_offset, Nat.testBit_mod_two_pow, Nat.testBit_div_two_pow,
    ← BitVec.getLsbD, Nat.add_comm i lo]
  simp only [Nat.add_le_add_iff_left, Nat.lt_succ_iff]

/-- Extracting the low `n` bits keeps them and clears the others. -/
theorem toNat_offset_zero (x : BitVec w) (n : ℕ) :
    (offset x 0 n).toNat = x.toNat % 2 ^ (n + 1) := by
  have h := toNat_offset x 0 n
  rwa [Nat.zero_add, pow_zero, Nat.div_one] at h

theorem toNat_offset_zero_lt (x : BitVec w) (n : ℕ) : (offset x 0 n).toNat < 2 ^ (n + 1) := by
  rw [toNat_offset_zero]
  exact Nat.mod_lt _ (Nat.two_pow_pos _)

/-- A bit field narrowed to its width is the extracted field. -/
theorem setWidth_offset (x : BitVec w) (lo k : ℕ) :
    (offset x lo (lo + k)).setWidth (k + 1) = x.extractLsb' lo (k + 1) := by
  apply BitVec.eq_of_getLsbD_eq
  intro i hi
  rw [BitVec.getLsbD_setWidth, getLsbD_offset, BitVec.getLsbD_extractLsb']
  simp [hi, show lo + i ≤ lo + k by omega]

end Offset

/-- Clearing the low `k` bits rounds down to a multiple of `2 ^ k`. -/
theorem toNat_and_allOnes_shiftLeft {w : ℕ} (x : BitVec w) (k : ℕ) :
    (x &&& BitVec.allOnes w <<< k).toNat = x.toNat / 2 ^ k * 2 ^ k := by
  apply Nat.eq_of_testBit_eq
  intro i
  rw [Nat.testBit_mul_two_pow, Nat.testBit_div_two_pow, ← BitVec.getLsbD, ← BitVec.getLsbD,
    BitVec.getLsbD_and, BitVec.getLsbD_shiftLeft, BitVec.getLsbD_allOnes]
  by_cases hk : k ≤ i
  · rw [Nat.sub_add_cancel hk]
    rcases Nat.lt_or_ge i w with hi | hi
    · simp [hk, hi, show i - k < w by omega, show ¬ i < k by omega]
    · simp [BitVec.getLsbD_of_ge x i hi]
  · simp [hk, Nat.lt_of_not_le hk]

end Riscv32Sim
