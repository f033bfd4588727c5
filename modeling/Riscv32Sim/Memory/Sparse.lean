import Mathlib.Logic.Function.Basic
import Riscv32Sim.Common
import Riscv32Sim.Lib.LittleEndian

/-!
# Sparse paged memory

`sparse_memory` is a map from page keys to owned arrays of 4096 bytes, and
`sparse_memory_accessor` reads and writes it in units of one, two, four and eight bytes. The
wide accesses are built from the byte accesses of the same class: `read8` inside
`sparse_memory_accessor<Derived>::read16` names `sparse_memory_accessor<Derived>::read8`,
whatever `Derived` is.

## Main definitions

* `SparseMemory`: the page map
* `SparseMemory.read8` … `read64`, `write8` … `write64`: the accessors

## Main results

* `SparseMemory.read8_write8`: a byte write changes the byte it addresses and no other
* `SparseMemory.read16_eq_load` …: a wide read is a little-endian load of the bytes
* `SparseMemory.read8_write16` …: a wide write is a little-endian store of the bytes
-/

namespace Riscv32Sim

open LittleEndian

/-- `std::unique_ptr<uint8_t[]>` to a page: the address `make_unique` returned, which tells one
allocation from another, and the bytes it owns. -/
structure Page where
  ptr : ℕ
  bytes : Vector (BitVec 8) 4096

/-- `sparse_memory`: the page map, and the address of the next allocation. -/
structure SparseMemory where
  page : BitVec 32 → Option Page
  heap : ℕ

namespace SparseMemory

/-- `sparse_memory_accessor_base::page_size`. -/
def pageSize : BitVec 32 := 4096#32

/-- `sparse_memory_accessor_base::mask`. -/
def mask : BitVec 32 := 0xFFFFF000#32

/-- The empty page map. -/
def empty : SparseMemory := ⟨fun _ => none, 0⟩

/-- `page.emplace(key, std::make_unique<uint8_t[]>(page_size))`, at an absent key. -/
def emplace (m : SparseMemory) (key : BitVec 32) : SparseMemory :=
  ⟨Function.update m.page key (some ⟨m.heap, Vector.replicate 4096 0⟩), m.heap + 1⟩

/-- `ensure_page_exists`; its result, the key, is `addr & mask`. -/
def ensurePageExists (m : SparseMemory) (addr : BitVec 32) : SparseMemory :=
  if (m.page (addr &&& mask)).isSome then m else m.emplace (addr &&& mask)

/-- Replace the bytes of the page at `key`, if there is one. -/
def modify (m : SparseMemory) (key : BitVec 32)
    (f : Vector (BitVec 8) 4096 → Vector (BitVec 8) 4096) : SparseMemory :=
  ⟨Function.update m.page key ((m.page key).map fun p => ⟨p.ptr, f p.bytes⟩), m.heap⟩

@[simp] theorem page_emplace_self (m : SparseMemory) (key : BitVec 32) :
    (m.emplace key).page key = some ⟨m.heap, Vector.replicate 4096 0⟩ :=
  Function.update_self ..

theorem page_emplace_of_ne (m : SparseMemory) {key k : BitVec 32} (h : k ≠ key) :
    (m.emplace key).page k = m.page k :=
  Function.update_of_ne h _ _

@[simp] theorem page_modify_self (m : SparseMemory) (key : BitVec 32)
    (f : Vector (BitVec 8) 4096 → Vector (BitVec 8) 4096) :
    (m.modify key f).page key = (m.page key).map fun p => ⟨p.ptr, f p.bytes⟩ :=
  Function.update_self ..

theorem page_modify_of_ne (m : SparseMemory) {key k : BitVec 32} (h : k ≠ key)
    (f : Vector (BitVec 8) 4096 → Vector (BitVec 8) 4096) : (m.modify key f).page k = m.page k :=
  Function.update_of_ne h _ _

variable [Platform]

/-- The index `offset(addr, 0U, 11U)` of an address in its page. -/
def pageOffset (addr : BitVec 32) : Fin 4096 :=
  ⟨(offset addr 0 11).toNat, toNat_offset_zero_lt addr 11⟩

/-- `sparse_memory_accessor::read8`. -/
def read8 (m : SparseMemory) (off : BitVec 32) : BitVec 8 :=
  match m.page (off &&& mask) with
  | none => 0
  | some p => p.bytes[(pageOffset off).val]

/-- `sparse_memory_accessor::read16`; the operands are promoted to `int`. -/
def read16 (m : SparseMemory) (off : BitVec 32) : BitVec 16 :=
  ((m.read8 off).setWidth 32 ||| ((m.read8 (off + 1)).setWidth 32 <<< 8)).setWidth 16

/-- `sparse_memory_accessor::read32`. -/
def read32 (m : SparseMemory) (off : BitVec 32) : BitVec 32 :=
  (m.read16 off).setWidth 32 ||| ((m.read16 (off + 2)).setWidth 32 <<< 16)

/-- `sparse_memory_accessor::read64`. -/
def read64 (m : SparseMemory) (off : BitVec 32) : BitVec 64 :=
  (m.read32 off).setWidth 64 ||| ((m.read32 (off + 4)).setWidth 64 <<< 32)

/-- `sparse_memory_accessor::write8`. -/
def write8 (m : SparseMemory) (off : BitVec 32) (b : BitVec 8) : SparseMemory :=
  (m.ensurePageExists off).modify (off &&& mask) fun bytes =>
    bytes.set (pageOffset off) b (pageOffset off).isLt

/-- `sparse_memory_accessor::write16`. -/
def write16 (m : SparseMemory) (off : BitVec 32) (h : BitVec 16) : SparseMemory :=
  (m.write8 off ((offset h 0 7).setWidth 8)).write8 (off + 1) ((offset h 8 15).setWidth 8)

/-- `sparse_memory_accessor::write32`. -/
def write32 (m : SparseMemory) (off : BitVec 32) (w : BitVec 32) : SparseMemory :=
  (m.write16 off ((offset w 0 15).setWidth 16)).write16 (off + 2) ((offset w 16 31).setWidth 16)

/-- `sparse_memory_accessor::write64`. -/
def write64 (m : SparseMemory) (off : BitVec 32) (dw : BitVec 64) : SparseMemory :=
  (m.write32 off (((dw <<< 32) >>> 32).setWidth 32)).write32 (off + 4) ((dw >>> 32).setWidth 32)

/-! ## Addresses and pages -/

omit [Platform] in
theorem toNat_and_mask (a : BitVec 32) : (a &&& mask).toNat = a.toNat - a.toNat % 4096 := by
  have hmask : mask = BitVec.allOnes 32 <<< 12 := rfl
  rw [hmask, toNat_and_allOnes_shiftLeft]
  omega

theorem val_pageOffset (a : BitVec 32) : (pageOffset a).val = a.toNat % 4096 :=
  toNat_offset_zero a 11

/-- An address is its page key and its index in the page. -/
theorem eq_of_key_of_offset {a b : BitVec 32} (hkey : a &&& mask = b &&& mask)
    (hoff : pageOffset a = pageOffset b) : a = b := by
  have hk := congrArg BitVec.toNat hkey
  have ho := congrArg Fin.val hoff
  rw [toNat_and_mask, toNat_and_mask] at hk
  rw [val_pageOffset, val_pageOffset] at ho
  apply BitVec.eq_of_toNat_eq
  omega

@[simp] theorem read8_empty (a : BitVec 32) : empty.read8 a = 0 := rfl

/-- Allocating the page of `a` changes no byte. -/
@[simp] theorem read8_ensurePageExists (m : SparseMemory) (a x : BitVec 32) :
    (m.ensurePageExists a).read8 x = m.read8 x := by
  unfold ensurePageExists
  split_ifs with h
  · rfl
  · have hnone : m.page (a &&& mask) = none := by simpa using h
    -- a fresh page holds the zeros that an absent one reads as
    by_cases hx : x &&& mask = a &&& mask
    · simp [read8, hx, hnone]
    · simp [read8, page_emplace_of_ne m hx]

omit [Platform] in
/-- The page of an address, after `ensure_page_exists`. -/
theorem exists_page_ensurePageExists (m : SparseMemory) (a : BitVec 32) :
    ∃ p, (m.ensurePageExists a).page (a &&& mask) = some p := by
  unfold ensurePageExists
  split_ifs with h
  · exact Option.isSome_iff_exists.mp h
  · exact ⟨_, m.page_emplace_self _⟩

omit [Platform] in
theorem page_ensurePageExists_of_ne (m : SparseMemory) {a k : BitVec 32} (h : k ≠ a &&& mask) :
    (m.ensurePageExists a).page k = m.page k := by
  unfold ensurePageExists
  split_ifs
  · rfl
  · exact m.page_emplace_of_ne h

/-- **A byte write changes the byte it addresses and no other.** -/
theorem read8_write8 (m : SparseMemory) (a x : BitVec 32) (b : BitVec 8) :
    (m.write8 a b).read8 x = if x = a then b else m.read8 x := by
  obtain ⟨p, hp⟩ := m.exists_page_ensurePageExists a
  rw [← m.read8_ensurePageExists a x]
  by_cases hx : x &&& mask = a &&& mask
  · -- in the same page, the index tells the two addresses apart
    have hiff : x = a ↔ pageOffset a = pageOffset x :=
      ⟨fun h => by rw [h], fun h => eq_of_key_of_offset hx h.symm⟩
    simp only [write8, read8, hx, page_modify_self, hp, Option.map_some, hiff, Vector.getElem_set,
      Fin.ext_iff]
  · have hne : x ≠ a := fun h => hx (by rw [h])
    simp only [write8, read8, page_modify_of_ne _ hx, hne, if_false]

/-! ## Wide accesses -/

/-- **A two-byte read is the little-endian load of its bytes.** -/
theorem read16_eq_load (m : SparseMemory) (a : BitVec 32) : m.read16 a = load m.read8 a 2 := by
  have h := load_add m.read8 a 1 1 32 (by decide)
  rw [load_one, load_one] at h
  exact h

theorem read32_eq_load (m : SparseMemory) (a : BitVec 32) : m.read32 a = load m.read8 a 4 := by
  have h := load_add m.read8 a 2 2 32 (by decide)
  rw [← read16_eq_load, ← read16_eq_load, BitVec.setWidth_eq] at h
  exact h

theorem read64_eq_load (m : SparseMemory) (a : BitVec 32) : m.read64 a = load m.read8 a 8 := by
  have h := load_add m.read8 a 4 4 64 (by decide)
  rw [← read32_eq_load, ← read32_eq_load, BitVec.setWidth_eq] at h
  exact h

theorem read8_write8_eq_store (m : SparseMemory) (a : BitVec 32) (b : BitVec 8) :
    (m.write8 a b).read8 = store m.read8 a 1 b := by
  rw [store_one]
  exact funext fun x => m.read8_write8 a x b

/-- **A two-byte write is the little-endian store of its bytes.** -/
theorem read8_write16 (m : SparseMemory) (a : BitVec 32) (h : BitVec 16) :
    (m.write16 a h).read8 = store m.read8 a 2 h := by
  rw [write16, read8_write8_eq_store, read8_write8_eq_store, setWidth_offset h 0 7,
    setWidth_offset h 8 7]
  exact (store_add m.read8 a (m := 1) (n := 1) (by decide) (by decide) h).symm

theorem read8_write32 (m : SparseMemory) (a w : BitVec 32) :
    (m.write32 a w).read8 = store m.read8 a 4 w := by
  rw [write32, read8_write16, read8_write16, setWidth_offset w 0 15, setWidth_offset w 16 15]
  exact (store_add m.read8 a (m := 2) (n := 2) (by decide) (by decide) w).symm

/-- A word is read back at the address it was written to, whatever its alignment. -/
@[simp] theorem read32_write32 (m : SparseMemory) (a w : BitVec 32) :
    (m.write32 a w).read32 a = w := by
  rw [read32_eq_load, read8_write32]
  exact load_store m.read8 a (n := 4) (by decide) w

theorem read8_write64 (m : SparseMemory) (a : BitVec 32) (dw : BitVec 64) :
    (m.write64 a dw).read8 = store m.read8 a 8 dw := by
  -- the source cuts the halves out by shifts
  have hlow : ((dw <<< 32) >>> 32).setWidth 32 = dw.extractLsb' 0 32 := by
    apply BitVec.eq_of_getLsbD_eq
    intro i hi
    rw [BitVec.getLsbD_setWidth, BitVec.getLsbD_ushiftRight, BitVec.getLsbD_shiftLeft,
      BitVec.getLsbD_extractLsb', Nat.zero_add, Nat.add_sub_cancel_left]
    simp [hi, show 32 + i < 64 by omega]
  have hhigh : (dw >>> 32).setWidth 32 = dw.extractLsb' 32 32 := by
    apply BitVec.eq_of_getLsbD_eq
    intro i hi
    simp [hi]
  rw [write64, read8_write32, read8_write32, hlow, hhigh]
  exact (store_add m.read8 a (m := 4) (n := 4) (by decide) (by decide) dw).symm

end SparseMemory

end Riscv32Sim
