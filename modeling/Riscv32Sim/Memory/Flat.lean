import Riscv32Sim.Lib.Automaton
import Riscv32Sim.Memory.Sparse

/-!
# The page map refines a flat memory

The purpose of the page map is a memory of `2 ^ 32` bytes that are zero until they are written.
Both are automata that answer reads and perform writes of one, two, four and eight bytes, and
the relation "every byte reads the same" is a bisimulation between them.

## Main definitions

* `Width`, `Access`: the reads and writes of an accessor
* `SparseMemory.access`, `flatAccess`: an access of the page map, and of the flat memory
* `SparseMemory.WellFormed`: the keys are page aligned and the pages distinct allocations
* `SparseMemory.Keeps`: no page is replaced

## Main results

* `SparseMemory.isBisim_read8`: the page map and the flat memory are bisimilar
* `SparseMemory.run_access_refines_flat`: the replies of every run of accesses
-/

namespace Riscv32Sim

open LittleEndian

/-- The widths of a memory access. -/
inductive Width
  | byte | half | word | dword
  deriving DecidableEq, Repr

/-- The number of bytes of an access. -/
def Width.bytes : Width → ℕ
  | .byte => 1
  | .half => 2
  | .word => 4
  | .dword => 8

theorem Width.bytes_le (w : Width) : w.bytes ≤ 8 := by cases w <;> decide

/-- A read or a write through an accessor. -/
inductive Access
  | read (w : Width) (off : BitVec 32)
  | write (w : Width) (off : BitVec 32) (v : BitVec (8 * w.bytes))

/-- The reply to an access: the value of a read. -/
abbrev Reply := Option (Σ w : Width, BitVec (8 * w.bytes))

/-- An access of the flat memory. -/
def flatAccess (f : ByteMemory 32) : Access → ByteMemory 32 × Reply
  | .read w off => (f, some ⟨w, load f off w.bytes⟩)
  | .write w off v => (store f off w.bytes v, none)

namespace SparseMemory

section Access

variable [Platform]

/-- The read of each width. -/
def readAs (m : SparseMemory) (off : BitVec 32) : (w : Width) → BitVec (8 * w.bytes)
  | .byte => m.read8 off
  | .half => m.read16 off
  | .word => m.read32 off
  | .dword => m.read64 off

/-- The write of each width. -/
def writeAs (m : SparseMemory) (off : BitVec 32) : (w : Width) → BitVec (8 * w.bytes) → SparseMemory
  | .byte => fun v => m.write8 off v
  | .half => fun v => m.write16 off v
  | .word => fun v => m.write32 off v
  | .dword => fun v => m.write64 off v

/-- An access of the page map. -/
def access (m : SparseMemory) : Access → SparseMemory × Reply
  | .read w off => (m, some ⟨w, m.readAs off w⟩)
  | .write w off v => (m.writeAs off w v, none)

theorem readAs_eq_load (m : SparseMemory) (off : BitVec 32) (w : Width) :
    m.readAs off w = load m.read8 off w.bytes := by
  cases w with
  | byte => exact (load_one m.read8 off).symm
  | half => exact m.read16_eq_load off
  | word => exact m.read32_eq_load off
  | dword => exact m.read64_eq_load off

theorem read8_writeAs (m : SparseMemory) (off : BitVec 32) (w : Width)
    (v : BitVec (8 * w.bytes)) : (m.writeAs off w v).read8 = store m.read8 off w.bytes v := by
  cases w with
  | byte => exact m.read8_write8_eq_store off v
  | half => exact m.read8_write16 off v
  | word => exact m.read8_write32 off v
  | dword => exact m.read8_write64 off v

/-- **The page map and the flat memory are bisimilar**: every byte reads the same. -/
theorem isBisim_read8 : Automaton.IsBisim access flatAccess fun m f => m.read8 = f := by
  rintro m f (⟨w, off⟩ | ⟨w, off, v⟩) rfl
  · exact ⟨rfl, by simp only [access, flatAccess, readAs_eq_load]⟩
  · exact ⟨m.read8_writeAs off w v, rfl⟩

end Access

/-! ## The pages -/

/-- Each key is a page address and each page an allocation made before the next one. -/
structure WellFormed (m : SparseMemory) : Prop where
  aligned : ∀ k p, m.page k = some p → k.toNat % 4096 = 0
  allocated : ∀ k p, m.page k = some p → p.ptr < m.heap

/-- Every page of `m` is still in `m'`, as the same allocation. -/
def Keeps (m m' : SparseMemory) : Prop :=
  ∀ k p, m.page k = some p → ∃ p', m'.page k = some p' ∧ p'.ptr = p.ptr

theorem wellFormed_empty : WellFormed empty :=
  ⟨fun _ _ h => (nomatch h), fun _ _ h => (nomatch h)⟩

theorem Keeps.refl (m : SparseMemory) : m.Keeps m := fun _ p h => ⟨p, h, rfl⟩

theorem Keeps.trans {m m' m'' : SparseMemory} (h : m.Keeps m') (h' : m'.Keeps m'') :
    m.Keeps m'' := by
  intro k p hp
  obtain ⟨p', hp', hptr⟩ := h k p hp
  obtain ⟨p'', hp'', hptr'⟩ := h' k p' hp'
  exact ⟨p'', hp'', hptr'.trans hptr⟩

theorem toNat_and_mask_mod (a : BitVec 32) : (a &&& mask).toNat % 4096 = 0 := by
  rw [toNat_and_mask]
  omega

theorem keeps_ensurePageExists (m : SparseMemory) (a : BitVec 32) :
    m.Keeps (m.ensurePageExists a) := by
  intro k p hp
  unfold ensurePageExists
  split_ifs with h
  · exact ⟨p, hp, rfl⟩
  · -- the new page is at a key that had none
    have hne : k ≠ a &&& mask := by
      rintro rfl
      simp [hp] at h
    exact ⟨p, (m.page_emplace_of_ne hne).trans hp, rfl⟩

theorem keeps_modify (m : SparseMemory) (key : BitVec 32)
    (f : Vector (BitVec 8) 4096 → Vector (BitVec 8) 4096) : m.Keeps (m.modify key f) := by
  intro k p hp
  rcases eq_or_ne k key with rfl | hne
  · exact ⟨⟨p.ptr, f p.bytes⟩, by simp [hp], rfl⟩
  · exact ⟨p, (m.page_modify_of_ne hne f).trans hp, rfl⟩

theorem WellFormed.ensurePageExists {m : SparseMemory} (hm : m.WellFormed) (a : BitVec 32) :
    (m.ensurePageExists a).WellFormed := by
  unfold SparseMemory.ensurePageExists
  split_ifs with h
  · exact hm
  · refine ⟨fun k p hp => ?_, fun k p hp => ?_⟩
    · rcases eq_or_ne k (a &&& mask) with rfl | hne
      · exact toNat_and_mask_mod a
      · exact hm.aligned k p ((m.page_emplace_of_ne hne).symm.trans hp)
    · rcases eq_or_ne k (a &&& mask) with rfl | hne
      · obtain rfl := Option.some.inj ((m.page_emplace_self _).symm.trans hp)
        exact Nat.lt_succ_self m.heap
      · exact Nat.lt_succ_of_lt (hm.allocated k p ((m.page_emplace_of_ne hne).symm.trans hp))

theorem WellFormed.modify {m : SparseMemory} (hm : m.WellFormed) (key : BitVec 32)
    (f : Vector (BitVec 8) 4096 → Vector (BitVec 8) 4096) : (m.modify key f).WellFormed := by
  -- the pages of the result are pages of `m` with other bytes
  have hpage : ∀ k p, (m.modify key f).page k = some p → ∃ q, m.page k = some q ∧ q.ptr = p.ptr := by
    intro k p hp
    rcases eq_or_ne k key with rfl | hne
    · rw [page_modify_self, Option.map_eq_some_iff] at hp
      obtain ⟨q, hq, rfl⟩ := hp
      exact ⟨q, hq, rfl⟩
    · exact ⟨p, (m.page_modify_of_ne hne f).symm.trans hp, rfl⟩
  refine ⟨fun k p hp => ?_, fun k p hp => ?_⟩
  · obtain ⟨q, hq, -⟩ := hpage k p hp
    exact hm.aligned k q hq
  · obtain ⟨q, hq, hptr⟩ := hpage k p hp
    exact hptr ▸ hm.allocated k q hq

/-- What every write does to the pages: the map stays well formed and no page is replaced. -/
def Sound (m m' : SparseMemory) : Prop := m.Keeps m' ∧ (m.WellFormed → m'.WellFormed)

theorem Sound.trans {m m' m'' : SparseMemory} (h : m.Sound m') (h' : m'.Sound m'') : m.Sound m'' :=
  ⟨h.1.trans h'.1, fun hm => h'.2 (h.2 hm)⟩

variable [Platform]

theorem sound_write8 (m : SparseMemory) (a : BitVec 32) (b : BitVec 8) : m.Sound (m.write8 a b) :=
  ⟨(m.keeps_ensurePageExists a).trans (keeps_modify _ _ _),
    fun hm => (hm.ensurePageExists a).modify _ _⟩

theorem sound_write16 (m : SparseMemory) (a : BitVec 32) (h : BitVec 16) :
    m.Sound (m.write16 a h) :=
  (m.sound_write8 _ _).trans (sound_write8 _ _ _)

theorem sound_write32 (m : SparseMemory) (a w : BitVec 32) : m.Sound (m.write32 a w) :=
  (m.sound_write16 _ _).trans (sound_write16 _ _ _)

theorem sound_write64 (m : SparseMemory) (a : BitVec 32) (dw : BitVec 64) :
    m.Sound (m.write64 a dw) :=
  (m.sound_write32 _ _).trans (sound_write32 _ _ _)

theorem sound_access (m : SparseMemory) (x : Access) : m.Sound (m.access x).1 := by
  rcases x with ⟨w, off⟩ | ⟨w, off, v⟩
  · exact ⟨Keeps.refl m, id⟩
  · cases w with
    | byte => exact m.sound_write8 off v
    | half => exact m.sound_write16 off v
    | word => exact m.sound_write32 off v
    | dword => exact m.sound_write64 off v

/-- **The page map refines a flat memory.** Every run of accesses from the empty page map gets
the replies of a memory of `2 ^ 32` zero bytes. After any part `xs` of a run the keys are page
aligned, the pages have 4096 bytes and are allocations already made, none of them is replaced in
the rest `ys` of the run, and a read leaves the map alone. -/
theorem run_access_refines_flat (xs ys : List Access) :
    (Automaton.run access empty xs).2 = (Automaton.run flatAccess (fun _ => 0) xs).2 ∧
    (∀ k p, (Automaton.run access empty xs).1.page k = some p →
      k.toNat % 4096 = 0 ∧ p.bytes.toArray.size = 4096 ∧
        p.ptr < (Automaton.run access empty xs).1.heap) ∧
    (Automaton.run access empty xs).1.Keeps
      (Automaton.run access (Automaton.run access empty xs).1 ys).1 ∧
    ∀ w off, ((Automaton.run access empty xs).1.access (.read w off)).1 =
      (Automaton.run access empty xs).1 := by
  -- the invariant, the bisimulation and the relation across a run, each from one step
  have hwf : (Automaton.run access empty xs).1.WellFormed :=
    Automaton.run_invariant (fun m x => (m.sound_access x).2) wellFormed_empty xs
  refine ⟨?_, fun k p hp => ⟨hwf.aligned k p hp, p.bytes.size_toArray, hwf.allocated k p hp⟩, ?_,
    fun _ _ => rfl⟩
  · exact (isBisim_read8.run (funext read8_empty) xs).2
  · exact Automaton.run_rel Keeps.refl (fun _ _ _ h h' => h.trans h')
      (fun m x => (m.sound_access x).1) _ ys

end SparseMemory

end Riscv32Sim
