import Mathlib.Data.BitVec

/-!
# Little-endian byte memories

A byte memory over `w`-bit addresses is a function from addresses to bytes. A wide access
touches consecutive addresses, wrapping at `2 ^ w`: a load assembles them with the first byte
lowest, a store takes them apart again. Every fact about a wide access is a fact about its
bytes: a load is determined by its bits, a store by the byte it leaves at each address.

## Main definitions

* `ByteMemory w`: byte memories with `w`-bit addresses
* `load m a n`: the little-endian value of the `n` bytes from `a`
* `store m a n v`: the memory after writing the `n` bytes of `v` from `a`

## Main results

* `getLsbD_load`: the bits of a load are the bits of its bytes
* `load_eq_load_iff`: two loads agree when the bytes they touch do
* `load_add`: a load joins two loads
* `store_add`: a store splits into two stores
* `store_eq_self_iff`: a store of the value that is already there
-/

namespace LittleEndian

variable {w : ℕ}

/-- Byte memories over `w`-bit addresses. -/
abbrev ByteMemory (w : ℕ) := BitVec w → BitVec 8

/-- The little-endian value of the `n` bytes from `a`. -/
def load (m : ByteMemory w) (a : BitVec w) : (n : ℕ) → BitVec (8 * n)
  | 0 => 0#0
  | n + 1 => load m (a + 1#w) n ++ m a

/-- The memory after writing the `n` bytes of `v` from `a`. -/
def store (m : ByteMemory w) (a : BitVec w) (n : ℕ) (v : BitVec (8 * n)) : ByteMemory w :=
  fun x => if (x - a).toNat < n then v.extractLsb' (8 * (x - a).toNat) 8 else m x

/-- Byte `i` of a value. -/
def byteAt {k : ℕ} (v : BitVec k) (i : ℕ) : BitVec 8 := v.extractLsb' (8 * i) 8

/-- The bytes of a field of a value, when the field starts at byte `m` and has `n` bytes. -/
theorem byteAt_extractLsb {k : ℕ} (v : BitVec k) {m n i : ℕ} (hi : i < n) :
    byteAt (v.extractLsb' (8 * m) (8 * n)) i = byteAt v (m + i) := by
  apply BitVec.eq_of_getLsbD_eq
  intro j hj
  simp only [byteAt, BitVec.getLsbD_extractLsb', hj, decide_true, Bool.true_and,
    show 8 * i + j < 8 * n by omega]
  rw [show 8 * m + (8 * i + j) = 8 * (m + i) + j by omega]

/-- Two values with no byte in common. -/
theorem byteAt_zero_ne_byteAt_allOnes {n i : ℕ} (hi : i < n) :
    byteAt (0#(8 * n)) i ≠ byteAt (BitVec.allOnes (8 * n)) i := by
  intro h
  have hbit := congrArg (fun v => v.getLsbD 0) h
  simp [byteAt, show 8 * i < 8 * n by omega] at hbit

theorem getLsbD_load (m : ByteMemory w) (a : BitVec w) (n i : ℕ) :
    (load m a n).getLsbD i =
      (decide (i < 8 * n) && (m (a + BitVec.ofNat w (i / 8))).getLsbD (i % 8)) := by
  induction n generalizing a i with
  | zero => simp
  | succ n ih =>
    rw [load, BitVec.getLsbD_append, ih]
    rcases Nat.lt_or_ge i 8 with hi | hi
    · have h₁ : i < 8 * (n + 1) := by omega
      simp [hi, h₁, Nat.div_eq_of_lt hi, Nat.mod_eq_of_lt hi]
    · -- the remaining bytes start one address further on
      have hdiv : i / 8 = (i - 8) / 8 + 1 := by omega
      have hmod : i % 8 = (i - 8) % 8 := by omega
      have hlt : (i - 8 < 8 * n) ↔ (i < 8 * (n + 1)) := by omega
      have haddr : a + 1#w + BitVec.ofNat w ((i - 8) / 8) = a + BitVec.ofNat w (i / 8) := by
        rw [hdiv, BitVec.ofNat_add, BitVec.add_assoc, BitVec.add_comm (1#w)]
      rw [if_neg (by omega)]
      simp only [hlt, haddr, hmod]

/-- The value of a load: its first byte is the lowest. -/
theorem toNat_load_succ (m : ByteMemory w) (a : BitVec w) (n : ℕ) :
    (load m a (n + 1)).toNat = (load m (a + 1#w) n).toNat * 256 + (m a).toNat := by
  rw [load, BitVec.toNat_append, ← Nat.shiftLeft_add_eq_or_of_lt (m a).isLt, Nat.shiftLeft_eq]

/-- Two loads agree exactly when the bytes they touch do. -/
theorem load_eq_load_iff {w' : ℕ} {m : ByteMemory w} {m' : ByteMemory w'} {a : BitVec w}
    {a' : BitVec w'} {n : ℕ} :
    load m a n = load m' a' n ↔
      ∀ i < n, m (a + BitVec.ofNat w i) = m' (a' + BitVec.ofNat w' i) := by
  constructor
  · intro h i hi
    apply BitVec.eq_of_getLsbD_eq
    intro j hj
    -- bit `j` of byte `i` is bit `8 * i + j` of the loaded value
    have hbit : (load m a n).getLsbD (8 * i + j) = (load m' a' n).getLsbD (8 * i + j) := by rw [h]
    rw [getLsbD_load, getLsbD_load, show (8 * i + j) / 8 = i by omega,
      show (8 * i + j) % 8 = j by omega] at hbit
    simpa [show 8 * i + j < 8 * n by omega] using hbit
  · intro h
    apply BitVec.eq_of_getLsbD_eq
    intro i hi
    rw [getLsbD_load, getLsbD_load, h (i / 8) (by omega)]

@[simp] theorem load_one (m : ByteMemory w) (a : BitVec w) : load m a 1 = m a := by
  apply BitVec.eq_of_getLsbD_eq
  intro i hi
  rw [getLsbD_load, Nat.div_eq_of_lt hi, Nat.mod_eq_of_lt hi, BitVec.add_zero]
  simp [hi]

/-- A load of `m + n` bytes joins its low `m` bytes and its high `n` bytes, in registers of any
width that holds the result. -/
theorem load_add (f : ByteMemory w) (a : BitVec w) (m n W : ℕ) (hW : 8 * (m + n) ≤ W) :
    ((load f a m).setWidth W ||| (load f (a + BitVec.ofNat w m) n).setWidth W <<< (8 * m)).setWidth
        (8 * (m + n)) = load f a (m + n) := by
  apply BitVec.eq_of_getLsbD_eq
  intro i hi
  have haddr : 8 * m ≤ i → a + BitVec.ofNat w m + BitVec.ofNat w ((i - 8 * m) / 8) =
      a + BitVec.ofNat w (i / 8) := fun h => by
    rw [BitVec.add_assoc, ← BitVec.ofNat_add, show m + (i - 8 * m) / 8 = i / 8 by omega]
  simp only [BitVec.getLsbD_setWidth, BitVec.getLsbD_or, BitVec.getLsbD_shiftLeft, getLsbD_load, hi,
    show i < W by omega, show i - 8 * m < W by omega, decide_true, Bool.true_and]
  -- bit `i` comes from the low part below `8 * m`, from the shifted high part above
  by_cases hlow : i < 8 * m
  · simp [hlow]
  · rw [haddr (by omega), show (i - 8 * m) % 8 = i % 8 by omega]
    simp [hlow, show i - 8 * m < 8 * n by omega]

/-- A store leaves the bytes of its value at the addresses it touches. -/
theorem store_apply_of_lt (m : ByteMemory w) (a : BitVec w) {n : ℕ} (v : BitVec (8 * n))
    {x : BitVec w} (hx : (x - a).toNat < n) : store m a n v x = byteAt v (x - a).toNat :=
  if_pos hx

/-- A store leaves every other byte alone. -/
theorem store_apply_of_not_lt (m : ByteMemory w) (a : BitVec w) {n : ℕ} (v : BitVec (8 * n))
    {x : BitVec w} (hx : ¬ (x - a).toNat < n) : store m a n v x = m x :=
  if_neg hx

/-- An address is any other address plus the distance between them. -/
theorem eq_add_ofNat_sub {a x : BitVec w} : x = a + BitVec.ofNat w (x - a).toNat := by
  rw [BitVec.ofNat_toNat, BitVec.setWidth_eq, BitVec.add_comm, BitVec.sub_add_cancel]

/-- The distance from `a` to an address `i` bytes further on. -/
theorem toNat_add_sub_self (a : BitVec w) {i : ℕ} (hi : i < 2 ^ w) :
    (a + BitVec.ofNat w i - a).toNat = i := by
  rw [BitVec.add_comm, BitVec.add_sub_cancel, BitVec.toNat_ofNat, Nat.mod_eq_of_lt hi]

/-- The distance from `a` and the distance from `m` bytes after `a`. -/
theorem toNat_sub_add (a x : BitVec w) {m : ℕ} (hm : m < 2 ^ w) :
    (x - (a + BitVec.ofNat w m)).toNat =
      if m ≤ (x - a).toNat then (x - a).toNat - m else (x - a).toNat + 2 ^ w - m := by
  have hsub : x - (a + BitVec.ofNat w m) = (x - a) - BitVec.ofNat w m :=
    (BitVec.sub_sub x a _).symm
  have hlt := (x - a).isLt
  rw [hsub, BitVec.toNat_sub, BitVec.toNat_ofNat, Nat.mod_eq_of_lt hm]
  -- the distance wraps exactly for an address in the first `m` bytes
  split_ifs with h
  · rw [show 2 ^ w - m + (x - a).toNat = ((x - a).toNat - m) + 2 ^ w by omega,
      Nat.add_mod_right, Nat.mod_eq_of_lt (by omega)]
  · rw [Nat.mod_eq_of_lt (by omega)]
    omega

theorem store_one (m : ByteMemory w) (a : BitVec w) (b : BitVec 8) :
    store m a 1 b = fun x => if x = a then b else m x := by
  funext x
  have hiff : (x - a).toNat < 1 ↔ x = a := by
    constructor
    · intro h
      rw [eq_add_ofNat_sub (a := a) (x := x), Nat.lt_one_iff.mp h, BitVec.add_zero]
    · rintro rfl
      simp
  simp only [store, hiff]
  split_ifs with h
  · subst h
    rw [BitVec.sub_self]
    exact BitVec.extractLsb'_eq_self
  · rfl

/-- A store of `m + n` bytes is the store of its low `m` bytes and then of its high `n`. -/
theorem store_add (f : ByteMemory w) (a : BitVec w) {m n : ℕ} (hmn : m + n ≤ 2 ^ w) (hn : 0 < n)
    (v : BitVec (8 * (m + n))) :
    store f a (m + n) v =
      store (store f a m (v.extractLsb' 0 (8 * m))) (a + BitVec.ofNat w m) n
        (v.extractLsb' (8 * m) (8 * n)) := by
  funext x
  have hdist := toNat_sub_add a x (m := m) (by omega)
  by_cases hlow : (x - a).toNat < m
  · -- a low byte: the second store does not reach it
    rw [if_neg (by omega)] at hdist
    rw [store_apply_of_lt _ _ _ (by omega), store_apply_of_not_lt _ _ _ (by omega),
      store_apply_of_lt _ _ _ hlow]
    have hbyte := byteAt_extractLsb v (m := 0) hlow
    rw [Nat.zero_add] at hbyte
    exact hbyte.symm
  · rw [if_pos (by omega)] at hdist
    by_cases hhigh : (x - a).toNat < m + n
    · -- a high byte: the second store writes it
      rw [store_apply_of_lt _ _ _ hhigh, store_apply_of_lt _ _ _ (by omega), hdist,
        byteAt_extractLsb v (by omega), Nat.add_sub_cancel' (by omega)]
    · -- a byte that neither store reaches
      rw [store_apply_of_not_lt _ _ _ hhigh, store_apply_of_not_lt _ _ _ (by omega),
        store_apply_of_not_lt _ _ _ hlow]

/-- The bytes of a loaded value are those of the memory. -/
theorem byteAt_load (m : ByteMemory w) (a : BitVec w) {n i : ℕ} (hi : i < n) :
    byteAt (load m a n) i = m (a + BitVec.ofNat w i) := by
  apply BitVec.eq_of_getLsbD_eq
  intro j hj
  rw [byteAt, BitVec.getLsbD_extractLsb', getLsbD_load, show (8 * i + j) / 8 = i by omega,
    show (8 * i + j) % 8 = j by omega]
  simp [hj, show 8 * i + j < 8 * n by omega]

/-- Two values with the same bytes are equal. -/
theorem eq_of_byteAt_eq {n : ℕ} {u v : BitVec (8 * n)} (h : ∀ i < n, byteAt u i = byteAt v i) :
    u = v := by
  apply BitVec.eq_of_getLsbD_eq
  intro k hk
  have hbit := congrArg (fun b => b.getLsbD (k % 8)) (h (k / 8) (by omega))
  simp only [byteAt, BitVec.getLsbD_extractLsb', show k % 8 < 8 by omega, decide_true,
    Bool.true_and, Nat.div_add_mod] at hbit
  exact hbit

/-- A store changes nothing exactly when the value is already there. -/
theorem store_eq_self_iff (m : ByteMemory w) (a : BitVec w) {n : ℕ} (hn : n ≤ 2 ^ w)
    (v : BitVec (8 * n)) : store m a n v = m ↔ load m a n = v := by
  constructor
  · intro h
    apply eq_of_byteAt_eq
    intro i hi
    have hdist := toNat_add_sub_self a (i := i) (by omega)
    have hbyte := congrFun h (a + BitVec.ofNat w i)
    rw [store_apply_of_lt _ _ _ (by omega), hdist] at hbyte
    rw [byteAt_load m a hi, hbyte]
  · rintro rfl
    funext x
    by_cases hx : (x - a).toNat < n
    · rw [store_apply_of_lt _ _ _ hx, byteAt_load m a hx, ← eq_add_ofNat_sub]
    · exact store_apply_of_not_lt _ _ _ hx

/-- A load reads back what a store at its address has left. -/
theorem load_store (m : ByteMemory w) (a : BitVec w) {n : ℕ} (hn : n ≤ 2 ^ w)
    (v : BitVec (8 * n)) : load (store m a n v) a n = v := by
  apply eq_of_byteAt_eq
  intro i hi
  have hdist := toNat_add_sub_self a (i := i) (by omega)
  rw [byteAt_load _ a hi, store_apply_of_lt _ _ _ (by omega), hdist]

end LittleEndian
