import Mathlib.Data.Int.Basic
import Riscv32Sim.Memory.Sparse

/-!
# The block write

`sparse_memory_accessor_base::write` copies a buffer into the page map, one page per iteration.
Each iteration copies up to the end of the destination page, however many bytes are left: the
last one reads past the end of the buffer and overwrites the page up to its end, `blockEnd`.

A source is a partial function of the index: `none` where reading it is an access outside the
object it points into.

## Main definitions

* `memcpy`: a copy into a page
* `SparseMemory.write`, `SparseMemory.writePage`: the loop, and one iteration of it
* `blockEnd va n`: the end of the page that holds the last of `n` bytes from `va`
* `readLength va n`: the number of bytes that the loop reads
* `SparseMemory.Written`: the memory after a block write

## Main results

* `memcpy_eq_some`: what a copy leaves in the page
* `SparseMemory.write_eq_some`: the loop terminates, and what it leaves in memory
* `SparseMemory.isSome_write_list_iff`: when the loop stays within its source
* `SparseMemory.page_of_write`: the pages that the loop allocates
* `SparseMemory.exists_written`: a block write reads back
-/

namespace Riscv32Sim

/-- `std::memcpy` of `n` bytes to index `off` of a page: `none` when it would read outside the
source or write outside the page. -/
def memcpy (dst : Vector (BitVec 8) 4096) (off : ℕ) (src : ℕ → Option (BitVec 8)) :
    ℕ → Option (Vector (BitVec 8) 4096)
  | 0 => some dst
  | n + 1 =>
    (memcpy dst off src n).bind fun dst =>
      (src n).bind fun b => if h : off + n < 4096 then some (dst.set (off + n) b) else none

theorem memcpy_eq_some (dst : Vector (BitVec 8) 4096) {off n : ℕ} (hoff : off + n ≤ 4096)
    {src : ℕ → Option (BitVec 8)} {data : ℕ → BitVec 8} (hsrc : ∀ i < n, src i = some (data i)) :
    ∃ d, memcpy dst off src n = some d ∧
      ∀ j (hj : j < 4096), d[j] = if off ≤ j ∧ j < off + n then data (j - off) else dst[j] := by
  induction n with
  | zero => exact ⟨dst, rfl, fun j hj => by rw [if_neg (by omega)]⟩
  | succ n ih =>
    obtain ⟨d, hd, hget⟩ := ih (by omega) fun i hi => hsrc i (by omega)
    refine ⟨d.set (off + n) (data n), ?_, fun j hj => ?_⟩
    · simp only [memcpy, hd, hsrc n (by omega), Option.bind_some,
        dif_pos (show off + n < 4096 by omega)]
    · -- the last byte copied, or one of those before it
      rw [Vector.getElem_set, hget j hj]
      rcases eq_or_ne (off + n) j with rfl | hne
      · rw [if_pos rfl, if_pos (by omega), Nat.add_sub_cancel_left]
      · rw [if_neg hne]
        simp only [show off ≤ j ∧ j < off + n ↔ off ≤ j ∧ j < off + (n + 1) by omega]

/-- A copy that fits in the page reads each of its bytes. -/
theorem isSome_memcpy_iff (dst : Vector (BitVec 8) 4096) {off n : ℕ} (hoff : off + n ≤ 4096)
    (src : ℕ → Option (BitVec 8)) :
    (memcpy dst off src n).isSome = true ↔ ∀ i < n, (src i).isSome = true := by
  constructor
  · intro h
    induction n with
    | zero => exact fun i hi => absurd hi (Nat.not_lt_zero i)
    | succ n ih =>
      -- a copy that returns has read the last byte, after those before it
      obtain ⟨d, hd⟩ := Option.isSome_iff_exists.mp h
      obtain ⟨d', hd', hlast⟩ := Option.bind_eq_some_iff.mp hd
      obtain ⟨b, hb, -⟩ := Option.bind_eq_some_iff.mp hlast
      intro i hi
      rcases Nat.lt_succ_iff_lt_or_eq.mp hi with hlt | rfl
      · exact ih (by omega) (Option.isSome_iff_exists.mpr ⟨d', hd'⟩) i hlt
      · exact Option.isSome_iff_exists.mpr ⟨b, hb⟩
  · intro h
    have hsrc : ∀ i < n, src i = some ((src i).getD 0) := fun i hi => by
      obtain ⟨b, hb⟩ := Option.isSome_iff_exists.mp (h i hi)
      rw [hb, Option.getD_some]
    obtain ⟨d, hd, -⟩ := memcpy_eq_some dst hoff hsrc
    exact Option.isSome_iff_exists.mpr ⟨d, hd⟩

/-- The end of the page that holds the last of `n` bytes from `va`. -/
def blockEnd (va : BitVec 32) (n : ℕ) : ℕ := (va.toNat + n + 4095) / 4096 * 4096

/-- The number of bytes that a block write of `n` bytes to `va` reads. -/
def readLength (va : BitVec 32) (n : ℕ) : ℕ := if n = 0 then 0 else blockEnd va n - va.toNat

theorem readLength_le (va : BitVec 32) (n : ℕ) : n ≤ readLength va n := by
  unfold readLength blockEnd
  split_ifs <;> omega

namespace SparseMemory

/-- `write_block` into the page at `key`; the pointer it returns is the source advanced by
`n`. -/
def writeBlock (m : SparseMemory) (key : BitVec 32) (off : ℕ) (ptr : ℕ → Option (BitVec 8)) (n : ℕ) :
    Option SparseMemory :=
  (m.page key).bind fun p => (memcpy p.bytes off ptr n).map fun bytes => m.modify key fun _ => bytes

section Write

variable [Platform]

/-- `page_size - off`, the bytes from an address to the end of its page. -/
def pageEnd (va : BitVec 32) : BitVec 32 := pageSize - offset va 0 11

theorem toNat_pageEnd (va : BitVec 32) : (pageEnd va).toNat = 4096 - va.toNat % 4096 := by
  have hoff : (offset va 0 11).toNat = va.toNat % 4096 := toNat_offset_zero va 11
  rw [pageEnd, BitVec.toNat_sub, hoff]
  change (2 ^ 32 - va.toNat % 4096 + 4096) % 2 ^ 32 = _
  omega

theorem toNat_pageEnd_pos (va : BitVec 32) : 0 < (pageEnd va).toNat := by
  rw [toNat_pageEnd]
  omega

/-- `sparse_memory_accessor_base::write`. -/
def write (m : SparseMemory) (va : BitVec 32) (ptr : ℕ → Option (BitVec 8)) (size : ℤ) :
    Option SparseMemory :=
  if 0 < size then
    ((m.ensurePageExists va).writeBlock (va &&& mask) (offset va 0 11).toNat ptr
      (pageEnd va).toNat).bind fun m =>
        m.write (va + pageEnd va) (fun i => ptr ((pageEnd va).toNat + i))
          (size - (pageEnd va).toNat)
  else some m
  termination_by size.toNat
  decreasing_by
    have := toNat_pageEnd_pos va
    omega

/-- One iteration of the loop. -/
def writePage (m : SparseMemory) (va : BitVec 32) (ptr : ℕ → Option (BitVec 8)) :
    Option SparseMemory :=
  (m.ensurePageExists va).writeBlock (va &&& mask) (offset va 0 11).toNat ptr (pageEnd va).toNat

@[simp] theorem write_zero (m : SparseMemory) (va : BitVec 32) (ptr : ℕ → Option (BitVec 8)) :
    m.write va ptr 0 = some m := by
  rw [write, if_neg (by omega)]

/-- The count may go below zero in the last iteration, and the loop then ends as at zero. -/
theorem write_of_pos (m : SparseMemory) (va : BitVec 32) (ptr : ℕ → Option (BitVec 8)) {n : ℕ}
    (hn : 0 < n) :
    m.write va ptr n = (m.writePage va ptr).bind fun m =>
      m.write (va + pageEnd va) (fun i => ptr ((pageEnd va).toNat + i))
        (n - (pageEnd va).toNat : ℕ) := by
  rw [write, if_pos (by omega), writePage]
  rcases Nat.le_total (pageEnd va).toNat n with hle | hge
  · rw [Nat.cast_sub hle]
  · have hzero : n - (pageEnd va).toNat = 0 := by omega
    rw [hzero]
    refine Option.bind_congr fun m' _ => ?_
    rw [write, if_neg (by omega), Nat.cast_zero, write_zero]

/-! ## The bytes -/

/-- An iteration reads the source as far as the end of the destination page. -/
theorem isSome_writePage_iff (m : SparseMemory) (va : BitVec 32) (ptr : ℕ → Option (BitVec 8)) :
    (m.writePage va ptr).isSome = true ↔ ∀ i < (pageEnd va).toNat, (ptr i).isSome = true := by
  obtain ⟨p, hp⟩ := m.exists_page_ensurePageExists va
  have hoff : (offset va 0 11).toNat = va.toNat % 4096 := toNat_offset_zero va 11
  have hend := toNat_pageEnd va
  rw [writePage, writeBlock, hp, Option.bind_some, Option.isSome_map, isSome_memcpy_iff]
  omega

/-- The bytes that an iteration and those after it read, also where the address wraps. -/
theorem readLength_of_pos (va : BitVec 32) {n : ℕ} (hn : 0 < n) :
    readLength va n =
      (pageEnd va).toNat + readLength (va + pageEnd va) (n - (pageEnd va).toNat) := by
  have hva := va.isLt
  have hend := toNat_pageEnd va
  have hnext : (va + pageEnd va).toNat = (va.toNat + (pageEnd va).toNat) % 2 ^ 32 :=
    BitVec.toNat_add ..
  unfold readLength blockEnd
  rw [hnext, if_neg (by omega)]
  split_ifs <;> omega

/-- **The block write reads the source up to the end of a page**, for every address and every
count. -/
theorem isSome_write_iff (n : ℕ) : ∀ (m : SparseMemory) (va : BitVec 32)
    (ptr : ℕ → Option (BitVec 8)),
    (m.write va ptr n).isSome = true ↔ ∀ i < readLength va n, (ptr i).isSome = true := by
  induction n using Nat.strong_induction_on with
  | _ n ih =>
    intro m va ptr
    rcases Nat.eq_zero_or_pos n with rfl | hn
    · simp [readLength]
    · have hpos := toNat_pageEnd_pos va
      rw [write_of_pos m va ptr hn, readLength_of_pos va hn]
      constructor
      · intro h i hi
        obtain ⟨m', hm'⟩ := Option.isSome_iff_exists.mp h
        obtain ⟨m₁, hm₁, hrest⟩ := Option.bind_eq_some_iff.mp hm'
        -- the index is read by this iteration or by a later one
        rcases Nat.lt_or_ge i (pageEnd va).toNat with hlt | hge
        · exact (isSome_writePage_iff m va ptr).mp (Option.isSome_iff_exists.mpr ⟨m₁, hm₁⟩) i hlt
        · have hread := (ih _ (by omega) m₁ _ _).mp (Option.isSome_iff_exists.mpr ⟨m', hrest⟩)
            (i - (pageEnd va).toNat) (by omega)
          rwa [Nat.add_sub_cancel' hge] at hread
      · intro h
        obtain ⟨m₁, hm₁⟩ := Option.isSome_iff_exists.mp
          ((isSome_writePage_iff m va ptr).mpr fun i hi => h i (by omega))
        rw [hm₁, Option.bind_some, ih _ (by omega)]
        exact fun i hi => h _ (by omega)

/-- **When a block write stays within its source** of `src.length` bytes: exactly when there is
nothing to write, or the last byte goes to the end of a page. -/
theorem isSome_write_list_iff (m : SparseMemory) (va : BitVec 32) (src : List (BitVec 8)) :
    (m.write va (fun i => src[i]?) src.length).isSome = true ↔
      src = [] ∨ (va.toNat + src.length) % 4096 = 0 := by
  have hbound : (∀ i < readLength va src.length, (src[i]?).isSome = true) ↔
      readLength va src.length ≤ src.length := by
    simp only [isSome_getElem?]
    exact ⟨fun h => Nat.le_of_not_lt fun hlt => Nat.lt_irrefl _ (h _ hlt), fun h i hi => by omega⟩
  rw [isSome_write_iff, hbound, ← List.length_eq_zero_iff]
  unfold readLength blockEnd
  split_ifs <;> omega

/-- One iteration copies the bytes from `va` to the end of its page. -/
theorem exists_writePage (m : SparseMemory) (va : BitVec 32) {ptr : ℕ → Option (BitVec 8)}
    {data : ℕ → BitVec 8} (hsrc : ∀ i < (pageEnd va).toNat, ptr i = some (data i)) :
    ∃ m', m.writePage va ptr = some m' ∧
      ∀ x : BitVec 32, m'.read8 x =
        if va.toNat ≤ x.toNat ∧ x.toNat < va.toNat + (pageEnd va).toNat then
          data (x.toNat - va.toNat)
        else m.read8 x := by
  obtain ⟨p, hp⟩ := m.exists_page_ensurePageExists va
  have hoff : (offset va 0 11).toNat = va.toNat % 4096 := toNat_offset_zero va 11
  have hend := toNat_pageEnd va
  have hfits : (offset va 0 11).toNat + (pageEnd va).toNat ≤ 4096 := by omega
  obtain ⟨d, hd, hget⟩ := memcpy_eq_some p.bytes hfits hsrc
  refine ⟨(m.ensurePageExists va).modify (va &&& mask) fun _ => d, ?_, fun x => ?_⟩
  · simp only [writePage, writeBlock, hp, hd, Option.bind_some, Option.map_some]
  · rw [← m.read8_ensurePageExists va x]
    have hkeyx := toNat_and_mask x
    have hkeyv := toNat_and_mask va
    by_cases hx : x &&& mask = va &&& mask
    · -- the same page: the index of `x` decides
      have hxn := congrArg BitVec.toNat hx
      simp only [read8, hx, page_modify_self, hp, Option.map_some, hget, val_pageOffset, hoff]
      rw [show x.toNat % 4096 - va.toNat % 4096 = x.toNat - va.toNat by omega]
      simp only [show va.toNat % 4096 ≤ x.toNat % 4096 ∧
          x.toNat % 4096 < va.toNat % 4096 + (pageEnd va).toNat ↔
        va.toNat ≤ x.toNat ∧ x.toNat < va.toNat + (pageEnd va).toNat by omega]
    · -- another page: the copy does not leave the page of `va`
      have hout : ¬ (va.toNat ≤ x.toNat ∧ x.toNat < va.toNat + (pageEnd va).toNat) := by
        intro hin
        exact hx (BitVec.eq_of_toNat_eq (by omega))
      rw [if_neg hout]
      simp only [read8, page_modify_of_ne _ hx]

/-- **The block write terminates and copies up to the end of a page.** The bytes from `va` to
`blockEnd va n` become those of the source, and no other byte changes. -/
theorem write_eq_some (n : ℕ) : ∀ (m : SparseMemory) (va : BitVec 32)
    {ptr : ℕ → Option (BitVec 8)} {data : ℕ → BitVec 8}, 0 < n → va.toNat + n ≤ 2 ^ 32 →
    (∀ i, va.toNat + i < blockEnd va n → ptr i = some (data i)) →
    ∃ m', m.write va ptr n = some m' ∧
      ∀ x : BitVec 32, m'.read8 x =
        if va.toNat ≤ x.toNat ∧ x.toNat < blockEnd va n then data (x.toNat - va.toNat)
        else m.read8 x := by
  -- strong induction on the bytes left; an iteration takes at least one
  induction n using Nat.strong_induction_on with
  | _ n ih =>
    intro m va ptr data hn hfit hsrc
    have hend := toNat_pageEnd va
    have hpos := toNat_pageEnd_pos va
    have hpage : ∀ i < (pageEnd va).toNat, ptr i = some (data i) := fun i hi =>
      hsrc i (by unfold blockEnd; omega)
    obtain ⟨m₁, hm₁, hread₁⟩ := m.exists_writePage va hpage
    rw [write_of_pos m va ptr hn, hm₁, Option.bind_some]
    rcases Nat.lt_or_ge (pageEnd va).toNat n with hmore | hlast
    · -- more pages follow: the next address is the start of the next page
      have hnext : (va + pageEnd va).toNat = va.toNat + (pageEnd va).toNat := by
        rw [BitVec.toNat_add, Nat.mod_eq_of_lt (by omega)]
      have hblock : blockEnd (va + pageEnd va) (n - (pageEnd va).toNat) = blockEnd va n := by
        unfold blockEnd
        rw [hnext, show va.toNat + (pageEnd va).toNat + (n - (pageEnd va).toNat) = va.toNat + n
          by omega]
      have hrest : ∀ i, (va + pageEnd va).toNat + i <
          blockEnd (va + pageEnd va) (n - (pageEnd va).toNat) →
          ptr ((pageEnd va).toNat + i) = some (data ((pageEnd va).toNat + i)) := fun i hi =>
        hsrc _ (by omega)
      obtain ⟨m', hm', hread'⟩ := ih (n - (pageEnd va).toNat) (by omega) m₁ (va + pageEnd va)
        (by omega) (by omega) hrest
      refine ⟨m', hm', fun x => ?_⟩
      have hle : va.toNat + (pageEnd va).toNat ≤ blockEnd va n := by
        unfold blockEnd
        omega
      rw [hread' x, hread₁ x, hblock, hnext]
      -- a byte is copied by this iteration, by a later one, or by none
      split_ifs with h₁ h₂ h₃ h₄ h₅
      · rw [show (pageEnd va).toNat + (x.toNat - (va.toNat + (pageEnd va).toNat)) =
          x.toNat - va.toNat by omega]
      · omega
      · rfl
      · omega
      · omega
      · rfl
    · -- the last page
      have hblock : blockEnd va n = va.toNat + (pageEnd va).toNat := by
        unfold blockEnd
        omega
      have hzero : n - (pageEnd va).toNat = 0 := by omega
      refine ⟨m₁, ?_, fun x => ?_⟩
      · rw [hzero, Nat.cast_zero, write_zero]
      · rw [hread₁ x, hblock]

/-! ## The pages -/

omit [Platform] in
/-- The page at the key `k` intersects the `n` bytes from `va`. -/
def Touches (va : BitVec 32) (n : ℕ) (k : BitVec 32) : Prop :=
  ∃ x : BitVec 32, va.toNat ≤ x.toNat ∧ x.toNat < va.toNat + n ∧ x &&& mask = k

/-- The page of the first byte, and those of the bytes that the later iterations write. -/
theorem touches_iff {va : BitVec 32} {n : ℕ} (hn : 0 < n) (hfit : va.toNat + n ≤ 2 ^ 32)
    (k : BitVec 32) :
    Touches va n k ↔
      k = va &&& mask ∨ Touches (va + pageEnd va) (n - (pageEnd va).toNat) k := by
  have hend := toNat_pageEnd va
  have hnext : (va + pageEnd va).toNat = (va.toNat + (pageEnd va).toNat) % 2 ^ 32 :=
    BitVec.toNat_add ..
  have hkeyv := toNat_and_mask va
  constructor
  · rintro ⟨x, hle, hlt, rfl⟩
    have hx := x.isLt
    have hkeyx := toNat_and_mask x
    rcases Nat.lt_or_ge x.toNat (va.toNat + (pageEnd va).toNat) with hpage | hpage
    · exact Or.inl (BitVec.eq_of_toNat_eq (by omega))
    · exact Or.inr ⟨x, by omega, by omega, rfl⟩
  · rintro (rfl | ⟨x, hle, hlt, rfl⟩)
    · exact ⟨va, Nat.le_refl _, by omega, rfl⟩
    · exact ⟨x, by omega, by omega, rfl⟩

/-- An iteration allocates the page of its address, and replaces no other. -/
theorem page_of_writePage {m m' : SparseMemory} {va : BitVec 32} {ptr : ℕ → Option (BitVec 8)}
    (h : m.writePage va ptr = some m') :
    (m'.page (va &&& mask)).isSome = true ∧ ∀ k, k ≠ va &&& mask → m'.page k = m.page k := by
  obtain ⟨p, hp, hcopy⟩ := Option.bind_eq_some_iff.mp h
  obtain ⟨bytes, -, rfl⟩ := Option.map_eq_some_iff.mp hcopy
  refine ⟨?_, fun k hk => ?_⟩
  · rw [page_modify_self, hp]
    rfl
  · rw [page_modify_of_ne _ hk, page_ensurePageExists_of_ne m hk]

/-- **A block write allocates the pages it writes to, and replaces no other.** -/
theorem page_of_write (n : ℕ) : ∀ {m m' : SparseMemory} {va : BitVec 32}
    {ptr : ℕ → Option (BitVec 8)}, va.toNat + n ≤ 2 ^ 32 → m.write va ptr n = some m' →
    ∀ k, (Touches va n k → (m'.page k).isSome = true) ∧
      (¬ Touches va n k → m'.page k = m.page k) := by
  induction n using Nat.strong_induction_on with
  | _ n ih =>
    intro m m' va ptr hfit h k
    rcases Nat.eq_zero_or_pos n with rfl | hn
    · rw [Nat.cast_zero, write_zero, Option.some_inj] at h
      refine ⟨?_, fun _ => by rw [h]⟩
      rintro ⟨x, hle, hlt, -⟩
      omega
    · have hpos := toNat_pageEnd_pos va
      have hend := toNat_pageEnd va
      have hnext : (va + pageEnd va).toNat = (va.toNat + (pageEnd va).toNat) % 2 ^ 32 :=
        BitVec.toNat_add ..
      rw [write_of_pos m va ptr hn] at h
      obtain ⟨m₁, hm₁, hrest⟩ := Option.bind_eq_some_iff.mp h
      obtain ⟨hself, hother⟩ := page_of_writePage hm₁
      obtain ⟨hlater, hkept⟩ := ih _ (by omega) (by omega) hrest k
      rw [touches_iff hn hfit]
      by_cases htouch : Touches (va + pageEnd va) (n - (pageEnd va).toNat) k
      · exact ⟨fun _ => hlater htouch, fun hnot => absurd (Or.inr htouch) hnot⟩
      · -- no later iteration writes to the page
        rw [hkept htouch]
        refine ⟨?_, fun hnot => hother k fun hk => hnot (Or.inl hk)⟩
        rintro (rfl | hk)
        · exact hself
        · exact absurd hk htouch

/-- Each byte after a block write that returns, of no bytes as well. -/
theorem read8_of_write {m m' : SparseMemory} {va : BitVec 32} {ptr : ℕ → Option (BitVec 8)} {n : ℕ}
    (hfit : va.toNat + n ≤ 2 ^ 32) (h : m.write va ptr n = some m') (x : BitVec 32) :
    m'.read8 x =
      if va.toNat ≤ x.toNat ∧ x.toNat < va.toNat + readLength va n then
        (ptr (x.toNat - va.toNat)).getD 0
      else m.read8 x := by
  rcases Nat.eq_zero_or_pos n with rfl | hn
  · rw [Nat.cast_zero, write_zero, Option.some_inj] at h
    have hlen : readLength va 0 = 0 := rfl
    rw [← h, hlen, if_neg (by omega)]
  · have hend : va.toNat + readLength va n = blockEnd va n := by
      unfold readLength blockEnd
      rw [if_neg (by omega)]
      omega
    have hread := (isSome_write_iff n m va ptr).mp (Option.isSome_iff_exists.mpr ⟨m', h⟩)
    have hsrc : ∀ i, va.toNat + i < blockEnd va n → ptr i = some ((ptr i).getD 0) := by
      intro i hi
      obtain ⟨b, hb⟩ := Option.isSome_iff_exists.mp (hread i (by omega))
      rw [hb, Option.getD_some]
    obtain ⟨m'', hm'', hbytes⟩ := write_eq_some n m va hn hfit hsrc
    obtain rfl := Option.some_inj.mp (h.symm.trans hm'')
    rw [hend]
    exact hbytes x

/-- After a block write of the `n` bytes of `ptr` to `va`: they read back, no page that the bytes
do not intersect has changed, nor any byte below `va`, and the pages present are the former ones
and those that the bytes intersect. -/
structure Written (m : SparseMemory) (va : BitVec 32) (ptr : ℕ → Option (BitVec 8)) (n : ℕ)
    (m' : SparseMemory) : Prop where
  read : ∀ i < n, some (m'.read8 (va + BitVec.ofNat 32 i)) = ptr i
  below : ∀ x : BitVec 32, x.toNat < va.toNat → m'.read8 x = m.read8 x
  page : ∀ k, ¬ Touches va n k → m'.page k = m.page k
  present : ∀ k, (m'.page k).isSome = true ↔ (m.page k).isSome = true ∨ Touches va n k

/-- **A block write reads back.** It terminates for every page map and every source that is
readable as far as the loop reads. -/
theorem exists_written (m : SparseMemory) {va : BitVec 32} {ptr : ℕ → Option (BitVec 8)} {n : ℕ}
    (hfit : va.toNat + n ≤ 2 ^ 32) (hsrc : ∀ i < readLength va n, (ptr i).isSome = true) :
    ∃ m', m.write va ptr n = some m' ∧ Written m va ptr n m' := by
  obtain ⟨m', hm'⟩ := Option.isSome_iff_exists.mp ((isSome_write_iff n m va ptr).mpr hsrc)
  have hpages := page_of_write n hfit hm'
  refine ⟨m', hm', fun i hi => ?_, fun x hx => ?_, fun k hk => (hpages k).2 hk, fun k => ?_⟩
  · have haddr : (va + BitVec.ofNat 32 i).toNat = va.toNat + i := by
      rw [BitVec.toNat_add, BitVec.toNat_ofNat]
      omega
    have hlen := readLength_le va n
    obtain ⟨b, hb⟩ := Option.isSome_iff_exists.mp (hsrc i (by omega))
    rw [read8_of_write hfit hm', haddr, if_pos (by omega), Nat.add_sub_cancel_left, hb,
      Option.getD_some]
  · rw [read8_of_write hfit hm', if_neg (by omega)]
  · -- a page is present if the bytes intersect it, and as before if they do not
    by_cases htouch : Touches va n k
    · exact iff_of_true ((hpages k).1 htouch) (Or.inr htouch)
    · rw [(hpages k).2 htouch]
      exact (or_iff_left htouch).symm

end Write

/-- Two bytes across a page boundary, from a source that goes on to the end of the second page. -/
theorem exists_written_two :
    let _ : Platform := Platform.always Op.empty
    ∃ m', empty.write 0xFFF (fun _ => some 0x13) 2 = some m' ∧
      Written empty 0xFFF (fun _ => some 0x13) 2 m' := by
  intro _
  exact empty.exists_written (n := 2) (by decide) fun _ _ => rfl

/-- A block write of one byte to address 0 reads past it. -/
theorem write_one_eq_none :
    let _ : Platform := Platform.always Op.empty
    empty.write 0 (fun i => [0x13#8][i]?) [0x13#8].length = none := by
  intro _
  have hlen : readLength 0 1 = 4096 := rfl
  have hnot : ¬ (empty.write 0 (fun i => [0x13#8][i]?) (1 : ℕ)).isSome = true := by
    rw [isSome_write_iff, hlen]
    intro h
    exact absurd (h 1 (by decide)) (by decide)
  simpa using hnot

end SparseMemory

end Riscv32Sim
