import Mathlib.Logic.Function.Basic
import Riscv32Sim.Common

/-!
# Control and status registers, privilege modes and trap causes

The CSR file is an array of 4096 words. Its addresses carry the privilege level that may access
them in bits 8 and 9, and the mode keeps the address bits of its own level in `base`, so that
the registers of the current mode are found by one bitwise or.

An address that the C++ code computes from the enumeration `csr` and from `base` is below 4096,
and `at` does not throw on it; such addresses are `CsrAddr`. Only the address of a `csr`
instruction is checked, by `CsrFile.checkAt`.

## Main definitions

* `CsrAddr`, `Csr`, `CsrFile`: the CSR file
* `Status.set`: the bits of `mstatus`, `mie` and `mip`
* `Privilege`, `PrivilegedMode`: the mode and its access checks
* `TrapCause`: the causes of exceptions and interrupts

## Main results

* `PrivilegedMode.canRead_iff`, `PrivilegedMode.canRead_of_canWrite`: the access checks
* `PrivilegedMode.privCsr_ne`: the trap registers of a mode are different registers
-/

namespace Riscv32Sim

/-- A valid index of the CSR file. -/
abbrev CsrAddr := BitVec 12

/-- The enumerators of `enum class csr` that the simulator names, and their machine-mode
counterparts. -/
inductive Csr
  | utvec | uepc | ucause | utval
  | mstatus | mie | mtvec | mepc | mcause | mtval | mip
  deriving DecidableEq, Repr

/-- `to_int`. -/
def Csr.toInt : Csr → CsrAddr
  | utvec => 0x005
  | uepc => 0x041
  | ucause => 0x042
  | utval => 0x043
  | mstatus => 0x300
  | mie => 0x304
  | mtvec => 0x305
  | mepc => 0x341
  | mcause => 0x342
  | mtval => 0x343
  | mip => 0x344

/-- `class csr_file`. -/
@[ext] structure CsrFile where
  csrs : CsrAddr → BitVec 32

namespace CsrFile

/-- `csrs{}`. -/
def init : CsrFile := ⟨fun _ => 0⟩

/-- The bounds check of `std::array::at`. -/
def checkAt {w : ℕ} (addr : BitVec w) : Except Error CsrAddr :=
  if addr.toNat < 4096 then .ok (addr.setWidth 12) else .error .outOfRange

/-- `csr_file::read`. -/
def read (f : CsrFile) (addr : CsrAddr) : BitVec 32 := f.csrs addr

/-- `csr_file::write`. -/
def write (f : CsrFile) (addr : CsrAddr) (v : BitVec 32) : CsrFile :=
  ⟨Function.update f.csrs addr v⟩

/-- The record that the staging overloads of `csr_file::write` append. -/
def change (f : CsrFile) (addr : CsrAddr) (v : BitVec 32) : CsrChange :=
  ⟨addr.setWidth 16, f.read addr, v⟩

theorem read_write (f : CsrFile) (addr a : CsrAddr) (v : BitVec 32) :
    (f.write addr v).read a = if a = addr then v else f.read a :=
  Function.update_apply ..

@[simp] theorem read_write_self (f : CsrFile) (addr : CsrAddr) (v : BitVec 32) :
    (f.write addr v).read addr = v :=
  Function.update_self ..

theorem read_write_of_ne (f : CsrFile) {addr a : CsrAddr} (v : BitVec 32) (h : a ≠ addr) :
    (f.write addr v).read a = f.read a :=
  Function.update_of_ne h ..

theorem write_eq_self_iff (f : CsrFile) (addr : CsrAddr) (v : BitVec 32) :
    f.write addr v = f ↔ f.read addr = v := by
  constructor
  · intro h
    rw [← h, read_write_self]
  · rintro rfl
    exact CsrFile.ext (Function.update_eq_self addr f.csrs)

end CsrFile

namespace Status

/-- `status::mie`. -/
def mie : ℕ := 3

/-- `status::mpie`. -/
def mpie : ℕ := 7

/-- `status::mpp`. -/
def mpp : ℕ := 11

/-- Assignment to a bit of a `std::bitset<32>`. -/
def set (v : BitVec 32) (i : ℕ) (b : Bool) : BitVec 32 :=
  if b then v ||| BitVec.twoPow 32 i else v &&& ~~~ BitVec.twoPow 32 i

theorem getLsbD_set (v : BitVec 32) (i j : ℕ) (b : Bool) (hi : i < 32) :
    (set v i b).getLsbD j = if j = i then b else v.getLsbD j := by
  have hpow : (BitVec.twoPow 32 i).getLsbD j = decide (j = i) := by
    rw [BitVec.getLsbD_twoPow]
    simp [hi, eq_comm]
  rcases eq_or_ne j i with rfl | hne
  · cases b <;> simp [set, hi]
  · cases b
    · rcases Nat.lt_or_ge j 32 with hj | hj
      · simp [set, hne, hj]
      · simp [set, hne, BitVec.getLsbD_of_ge _ j hj]
    · simp [set, hpow, hne]

end Status

/-- `enum class privilege`. -/
inductive Privilege
  | user | supervisor | hypervisor | machine
  deriving DecidableEq, Repr

/-- `to_int`. -/
def Privilege.toInt : Privilege → ℕ
  | user => 0b00
  | supervisor => 0b01
  | hypervisor => 0b10
  | machine => 0b11

/-- `static_cast<privilege>((hi << 1) | lo)`. -/
def Privilege.ofBits : (hi lo : Bool) → Privilege
  | false, false => .user
  | false, true => .supervisor
  | true, false => .hypervisor
  | true, true => .machine

/-- `class privileged_mode`. The constructor and `set_mode` keep `base` at the address bits of
the mode. -/
@[ext] structure PrivilegedMode where
  m : Privilege
  base : CsrAddr
  base_eq : base = BitVec.ofNat 12 m.toInt <<< 8

namespace PrivilegedMode

/-- `privileged_mode::set_mode`, and the constructor. -/
def ofMode (m : Privilege) : PrivilegedMode := ⟨m, BitVec.ofNat 12 m.toInt <<< 8, rfl⟩

theorem eq_ofMode (mode : PrivilegedMode) : mode = ofMode mode.m :=
  PrivilegedMode.ext rfl mode.base_eq

/-- `privileged_mode::priv_csr`. -/
def privCsr (mode : PrivilegedMode) (c : Csr) : CsrAddr := mode.base ||| c.toInt

section Checks

variable [Platform]

/-- `privileged_mode::priv`. -/
def priv (addr : BitVec 32) : BitVec 8 := (offset addr 8 9).setWidth 8

/-- `privileged_mode::readonly`. -/
def readonly (addr : BitVec 32) : Bool := offset addr 10 11 == 0b11

/-- `privileged_mode::can_write`. -/
def canWrite (mode : PrivilegedMode) (addr : BitVec 32) : Bool :=
  !readonly addr && decide ((priv addr).toNat ≤ mode.m.toInt)

/-- `privileged_mode::can_read`. -/
def canRead (mode : PrivilegedMode) (addr : BitVec 32) : Bool :=
  decide ((priv addr).toNat ≤ mode.m.toInt)

/-- `priv` is the field of bits 8 and 9. -/
theorem toNat_priv (addr : BitVec 32) : (priv addr).toNat = addr.toNat / 2 ^ 8 % 2 ^ 2 := by
  have hoff := toNat_offset addr 8 1
  rw [priv, BitVec.toNat_setWidth, hoff, Nat.mod_eq_of_lt]
  omega

theorem canRead_iff (mode : PrivilegedMode) (addr : BitVec 32) :
    mode.canRead addr = true ↔ addr.toNat / 2 ^ 8 % 2 ^ 2 ≤ mode.m.toInt := by
  rw [canRead, decide_eq_true_iff, toNat_priv]

theorem canWrite_iff (mode : PrivilegedMode) (addr : BitVec 32) :
    mode.canWrite addr = true ↔
      addr.toNat / 2 ^ 10 % 2 ^ 2 ≠ 3 ∧ addr.toNat / 2 ^ 8 % 2 ^ 2 ≤ mode.m.toInt := by
  have hro : readonly addr = true ↔ addr.toNat / 2 ^ 10 % 2 ^ 2 = 3 := by
    rw [readonly, beq_iff_eq, ← BitVec.toNat_inj, toNat_offset addr 10 1]
    rfl
  rw [canWrite, Bool.and_eq_true, Bool.not_eq_true', ← Bool.not_eq_true, hro, decide_eq_true_iff,
    toNat_priv]

/-- What may be written may be read. -/
theorem canRead_of_canWrite {mode : PrivilegedMode} {addr : BitVec 32}
    (h : mode.canWrite addr = true) : mode.canRead addr = true :=
  (Bool.and_eq_true_iff.mp h).2

/-- The check of the register index in `model::csr` always succeeds. -/
theorem canRead_regIndex (mode : PrivilegedMode) (i : RegIndex) :
    mode.canRead (i.setWidth 32) = true := by
  have hi := i.isLt
  rw [canRead_iff, BitVec.toNat_setWidth]
  omega

end Checks

/-- The registers that a trap writes and reads are different registers, in every mode. -/
theorem privCsr_ne (mode : PrivilegedMode) {c c' : Csr}
    (hc : c.toInt &&& 0x300 = 0) (hc' : c'.toInt &&& 0x300 = 0) (hne : c.toInt ≠ c'.toInt) :
    mode.privCsr c ≠ mode.privCsr c' := by
  rw [mode.eq_ofMode]
  revert hc hc' hne
  cases mode.m <;> cases c <;> cases c' <;> decide

/-- The mode contributes the bits 8 and 9 of the address only. -/
theorem privCsr_and_low (mode : PrivilegedMode) (c : Csr) :
    mode.privCsr c &&& 0xFF = c.toInt &&& 0xFF := by
  rw [mode.eq_ofMode]
  cases mode.m <;> cases c <;> rfl

theorem ne_privCsr (mode : PrivilegedMode) {a : CsrAddr} {c : Csr}
    (h : a &&& 0xFF ≠ c.toInt &&& 0xFF) : a ≠ mode.privCsr c := by
  rintro rfl
  exact h (mode.privCsr_and_low c)

end PrivilegedMode

/-- `enum class trap_cause`. -/
inductive TrapCause
  | expInstAddrMisaligned | expInstAccessFault | expInstIllegal | expBreakpoint
  | expLoadAddrMisaligned | expLoadAccessFault | expStoreAddrMisaligned | expStoreAccessFault
  | expEcallFromUVuMode | expEcallFromHsMode | expEcallFromVsMode | expEcallFromMMode
  | expInstPageFault | expLoadPageFault | expStorePageFault
  | expInstGuestPageFault | expLoadGuestPageFault | expInstVirtual | expStoreGuestPageFault
  | intSwS | intSwVs | intSwM | intTimerS | intTimerVs | intTimerM
  | intExternalS | intExternalVs | intExternalM | intExternalSGuest
  deriving DecidableEq, Repr

/-- `to_int`. -/
def TrapCause.toInt : TrapCause → BitVec 32
  | expInstAddrMisaligned => 0x0
  | expInstAccessFault => 0x1
  | expInstIllegal => 0x2
  | expBreakpoint => 0x3
  | expLoadAddrMisaligned => 0x4
  | expLoadAccessFault => 0x5
  | expStoreAddrMisaligned => 0x6
  | expStoreAccessFault => 0x7
  | expEcallFromUVuMode => 0x8
  | expEcallFromHsMode => 0x9
  | expEcallFromVsMode => 0x10
  | expEcallFromMMode => 0x11
  | expInstPageFault => 0x12
  | expLoadPageFault => 0x13
  | expStorePageFault => 0x15
  | expInstGuestPageFault => 0x20
  | expLoadGuestPageFault => 0x21
  | expInstVirtual => 0x22
  | expStoreGuestPageFault => 0x23
  | intSwS => 0x80000001
  | intSwVs => 0x80000002
  | intSwM => 0x80000003
  | intTimerS => 0x80000005
  | intTimerVs => 0x80000006
  | intTimerM => 0x80000007
  | intExternalS => 0x80000009
  | intExternalVs => 0x80000010
  | intExternalM => 0x80000011
  | intExternalSGuest => 0x80000012

end Riscv32Sim
