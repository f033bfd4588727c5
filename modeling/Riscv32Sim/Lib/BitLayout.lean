import Mathlib.Data.BitVec

/-!
# Layouts of machine words

Manuals give the encoding of an instruction as a row of boxes: each is a constant, or some bits
of a field. A decoder cuts the word into pieces with shifts and masks, compares some of them
with constants and assembles the others to operands. Since shifts and masks only move bits, the
source of each bit of such a piece can be followed through the expression that computes it. This
decides, for all words with a layout at once, which way the decoder goes and what it reads.

## Main definitions

* `Wire`, `Slice`, `Layout`: the bits of a word, in terms of the fields
* `Expr`: the expressions of a decoder, with the operations of C on words
* `Expr.wire`: the source of a bit of the value of an expression
* `Switch`: decision trees of nested `switch` statements

## Main results

* `Expr.denotes_wire`: the source of a bit gives its value
* `Switch.eval_of_run`: a decision followed on the layout is the decision on every word with it
* `Expr.getLsbD_of_reads`: an expression that reads a field reads it from every word
-/

namespace BitLayout

variable {ι α : Type*} {n k : ℕ}

/-- Where a bit comes from: it is constant, or it is a bit of a field. -/
inductive Wire (ι : Type*)
  | const (b : Bool)
  | bit (name : ι) (j : ℕ)
  deriving DecidableEq

/-- The value of a bit, given the fields. -/
def Wire.value (env : ι → BitVec k) : Wire ι → Bool
  | const b => b
  | bit name j => (env name).getLsbD j

/-- A box of a layout: a constant, or the bits from `hi` down to `lo` of a field. -/
inductive Slice (ι : Type*)
  | fixed (width value : ℕ)
  | field (name : ι) (hi lo : ℕ)

namespace Slice

/-- The number of bits of a box. -/
def width : Slice ι → ℕ
  | fixed width _ => width
  | field _ hi lo => hi + 1 - lo

/-- Bit `j` of a box. -/
def wire : Slice ι → ℕ → Wire ι
  | fixed _ value, j => .const (value.testBit j)
  | field name _ lo, j => .bit name (lo + j)

end Slice

/-- A layout, the highest box first. -/
abbrev Layout (ι : Type*) := List (Slice ι)

namespace Layout

/-- Bit `i` of a row of boxes, the lowest box first. -/
def wireFrom : List (Slice ι) → ℕ → Option (Wire ι)
  | [], _ => none
  | s :: L, i => if i < s.width then some (s.wire i) else wireFrom L (i - s.width)

/-- Bit `i` of a layout. -/
def wire (L : Layout ι) (i : ℕ) : Option (Wire ι) := wireFrom L.reverse i

/-- The lowest bits of a word have a layout. The bits above it are arbitrary. -/
def Matches (L : Layout ι) (env : ι → BitVec k) (v : BitVec n) : Prop :=
  ∀ i w, L.wire i = some w → v.getLsbD i = w.value env

/-- The number of bits of a layout. -/
def width (L : Layout ι) : ℕ := (L.map Slice.width).sum

theorem wireFrom_of_width_le {L : List (Slice ι)} {i : ℕ} (h : (L.map Slice.width).sum ≤ i) :
    wireFrom L i = none := by
  induction L generalizing i with
  | nil => rfl
  | cons s L ih =>
    rw [List.map_cons, List.sum_cons] at h
    rw [wireFrom, if_neg (by omega)]
    exact ih (by omega)

/-- A layout is compared with a word on finitely many bits. -/
theorem matches_iff {L : Layout ι} {env : ι → BitVec k} {v : BitVec n} :
    L.Matches env v ↔ ∀ i < L.width, ∀ w ∈ L.wire i, v.getLsbD i = w.value env := by
  refine ⟨fun h i _ w hw => h i w hw, fun h i w hw => ?_⟩
  rcases Nat.lt_or_ge i L.width with hi | hi
  · exact h i hi w hw
  · have hnone : L.wire i = none := by
      apply wireFrom_of_width_le
      rwa [List.map_reverse, List.sum_reverse]
    exact absurd (hnone ▸ hw) (by simp)

instance (L : Layout ι) (env : ι → BitVec k) (v : BitVec n) : Decidable (L.Matches env v) :=
  decidable_of_iff _ matches_iff.symm

end Layout

/-! ## What is known of a bit -/

/-- The bit `b` has the value of its source, where this is known. -/
def Denotes (env : ι → BitVec k) (w : Option (Wire ι)) (b : Bool) : Prop :=
  ∀ v ∈ w, b = v.value env

theorem denotes_none (env : ι → BitVec k) (b : Bool) : Denotes env none b :=
  fun _ h => absurd h (Option.not_mem_none _)

theorem denotes_const (env : ι → BitVec k) (b : Bool) : Denotes env (some (.const b)) b := by
  rintro v ⟨⟩
  rfl

variable {env : ι → BitVec k} {a b : Bool}

theorem Denotes.eq_const {c : Bool} (h : Denotes env (some (.const c)) b) : b = c := h _ rfl

theorem Denotes.eq_value {w : Wire ι} (h : Denotes env (some w) b) : b = w.value env := h _ rfl

variable [DecidableEq ι]

/-- The disjunction of two bits. -/
def orWire : Option (Wire ι) → Option (Wire ι) → Option (Wire ι)
  | some (.const false), w | w, some (.const false) => w
  | some (.const true), _ | _, some (.const true) => some (.const true)
  | v, w => if v = w then v else none

/-- The conjunction of two bits. -/
def andWire : Option (Wire ι) → Option (Wire ι) → Option (Wire ι)
  | some (.const true), w | w, some (.const true) => w
  | some (.const false), _ | _, some (.const false) => some (.const false)
  | v, w => if v = w then v else none

theorem Denotes.or {v w : Option (Wire ι)} (hv : Denotes env v a) (hw : Denotes env w b) :
    Denotes env (orWire v w) (a || b) := by
  unfold orWire
  split
  · rw [hv.eq_const, Bool.false_or]
    exact hw
  · rw [hw.eq_const, Bool.or_false]
    exact hv
  · rw [hv.eq_const, Bool.true_or]
    exact denotes_const env true
  · rw [hw.eq_const, Bool.or_true]
    exact denotes_const env true
  · split_ifs with h
    · subst h
      intro x hx
      rw [hv x hx, hw x hx, Bool.or_self]
    · exact denotes_none env _

theorem Denotes.and {v w : Option (Wire ι)} (hv : Denotes env v a) (hw : Denotes env w b) :
    Denotes env (andWire v w) (a && b) := by
  unfold andWire
  split
  · rw [hv.eq_const, Bool.true_and]
    exact hw
  · rw [hw.eq_const, Bool.and_true]
    exact hv
  · rw [hv.eq_const, Bool.false_and]
    exact denotes_const env false
  · rw [hw.eq_const, Bool.and_false]
    exact denotes_const env false
  · split_ifs with h
    · subst h
      intro x hx
      rw [hv x hx, hw x hx, Bool.and_self]
    · exact denotes_none env _

/-! ## Expressions -/

/-- An expression over a word. -/
inductive Expr
  | word
  | lit (c : ℕ)
  | shiftLeft (e : Expr) (j : ℕ)
  | shiftRight (e : Expr) (j : ℕ)
  | sshiftRight (e : Expr) (j : ℕ)
  | or (e f : Expr)
  | and (e f : Expr)
  | add (e f : Expr)

namespace Expr

instance (c : ℕ) : OfNat Expr c := ⟨lit c⟩
instance : HShiftLeft Expr ℕ Expr := ⟨shiftLeft⟩
instance : HShiftRight Expr ℕ Expr := ⟨shiftRight⟩
instance : OrOp Expr := ⟨or⟩
instance : AndOp Expr := ⟨and⟩
instance : Add Expr := ⟨add⟩

/-- The value of an expression. -/
def eval (v : BitVec n) : Expr → BitVec n
  | word => v
  | lit c => BitVec.ofNat n c
  | shiftLeft e j => e.eval v <<< j
  | shiftRight e j => e.eval v >>> j
  | sshiftRight e j => (e.eval v).sshiftRight j
  | or e f => e.eval v ||| f.eval v
  | and e f => e.eval v &&& f.eval v
  | add e f => e.eval v + f.eval v

/-- The source of bit `i` of the value of an expression over a word of `n` bits with the bits `W`.
The bits of a sum are known where the summands have no bit in common. -/
def wire (n : ℕ) (W : ℕ → Option (Wire ι)) : Expr → ℕ → Option (Wire ι)
  | word, i => W i
  | lit c, i => some (.const (c.testBit i))
  | shiftLeft e j, i => if i < j then some (.const false) else e.wire n W (i - j)
  | shiftRight e j, i => if i + j < n then e.wire n W (i + j) else some (.const false)
  | sshiftRight e j, i => e.wire n W (if i + j < n then i + j else n - 1)
  | or e f, i => orWire (e.wire n W i) (f.wire n W i)
  | and e f, i => andWire (e.wire n W i) (f.wire n W i)
  | add e f, i =>
    if ∀ j < n, andWire (e.wire n W j) (f.wire n W j) = some (.const false) then
      orWire (e.wire n W i) (f.wire n W i)
    else none

variable {L : Layout ι} {v : BitVec n}

/-- **The source of a bit gives its value.** -/
theorem denotes_wire (h : L.Matches env v) (e : Expr) {i : ℕ} (hi : i < n) :
    Denotes env (e.wire n L.wire i) ((e.eval v).getLsbD i) := by
  induction e generalizing i with
  | word => exact h i
  | lit c =>
    rw [eval, BitVec.getLsbD_ofNat, decide_eq_true hi, Bool.true_and]
    exact denotes_const env _
  | shiftLeft e j ih =>
    rw [eval, wire, BitVec.getLsbD_shiftLeft]
    split_ifs with hij
    · simpa [hij] using denotes_const env false
    · simpa [hij, hi] using ih (i := i - j) (by omega)
  | shiftRight e j ih =>
    rw [eval, wire, BitVec.getLsbD_ushiftRight, Nat.add_comm j i]
    split_ifs with hij
    · exact ih hij
    · rw [BitVec.getLsbD_of_ge _ _ (by omega)]
      exact denotes_const env false
  | sshiftRight e j ih =>
    rw [eval, wire, BitVec.getLsbD_sshiftRight, decide_eq_false (by omega), Bool.not_false,
      Bool.true_and, Nat.add_comm j i]
    split_ifs with hij
    · exact ih hij
    · rw [BitVec.msb_eq_getLsbD_last]
      exact ih (by omega)
  | or e f ihe ihf =>
    rw [eval, wire, BitVec.getLsbD_or]
    exact (ihe hi).or (ihf hi)
  | and e f ihe ihf =>
    rw [eval, wire, BitVec.getLsbD_and]
    exact (ihe hi).and (ihf hi)
  | add e f ihe ihf =>
    rw [wire]
    split_ifs with hdisj
    · have hand : e.eval v &&& f.eval v = 0#n := by
        apply BitVec.eq_of_getLsbD_eq
        intro j hj
        have hj' := (ihe hj).and (ihf hj)
        rw [hdisj j hj] at hj'
        rw [BitVec.getLsbD_and, hj'.eq_const, BitVec.getLsbD_zero]
      rw [eval, BitVec.add_eq_or_of_and_eq_zero _ _ hand, BitVec.getLsbD_or]
      exact (ihe hi).or (ihf hi)
    · exact denotes_none env _

/-! ## Operands -/

/-- The lowest `m` bits of an expression have the given sources. -/
def reads (n : ℕ) (W : ℕ → Option (Wire ι)) (e : Expr) (m : ℕ) (r : ℕ → Wire ι) : Bool :=
  (List.range m).all fun i => e.wire n W i = some (r i)

/-- **An expression that reads a field reads it from every word.** -/
theorem getLsbD_of_reads (h : L.Matches env v) {e : Expr} {m : ℕ} {r : ℕ → Wire ι}
    (hr : e.reads n L.wire m r) (hm : m ≤ n) {i : ℕ} (hi : i < m) :
    (e.eval v).getLsbD i = (r i).value env := by
  have hwire := List.all_eq_true.mp hr i (List.mem_range.mpr hi)
  have hden := denotes_wire h e (i := i) (by omega)
  rw [of_decide_eq_true hwire] at hden
  exact hden.eq_value

/-! ## Comparisons with constants -/

/-- The bits from here on are zero, whatever the word is. -/
def size (n : ℕ) : Expr → ℕ
  | lit c => c.log2 + 1
  | shiftRight e j => e.size n - j
  | or e f => max (e.size n) (f.size n)
  | and e f => min (e.size n) (f.size n)
  | add e f => max (e.size n) (f.size n) + 1
  | _ => n

omit [DecidableEq ι] in
theorem toNat_eval_lt (v : BitVec n) (e : Expr) : (e.eval v).toNat < 2 ^ e.size n := by
  have hle : ∀ {i j : ℕ}, i ≤ j → 2 ^ i ≤ 2 ^ j := Nat.pow_le_pow_right Nat.two_pos
  induction e with
  | lit c =>
    rw [eval, BitVec.toNat_ofNat]
    exact (Nat.mod_le _ _).trans_lt Nat.lt_log2_self
  | shiftRight e j ih =>
    rw [eval, BitVec.toNat_ushiftRight, Nat.shiftRight_eq_div_pow,
      Nat.div_lt_iff_lt_mul (Nat.two_pow_pos j), size, ← Nat.pow_add]
    exact ih.trans_le (hle (by omega))
  | or e f ihe ihf =>
    rw [eval, BitVec.toNat_or]
    exact Nat.or_lt_two_pow (ihe.trans_le (hle (le_max_left _ _)))
      (ihf.trans_le (hle (le_max_right _ _)))
  | and e f ihe ihf =>
    rw [eval, BitVec.toNat_and, size]
    rcases min_cases (e.size n) (f.size n) with ⟨heq, -⟩ | ⟨heq, -⟩
    · rw [heq]
      exact Nat.and_le_left.trans_lt ihe
    · rw [heq]
      exact Nat.and_le_right.trans_lt ihf
  | add e f ihe ihf =>
    have he := ihe.trans_le (hle (le_max_left (e.size n) (f.size n)))
    have hf := ihf.trans_le (hle (le_max_right (e.size n) (f.size n)))
    rw [eval, BitVec.toNat_add, size, Nat.pow_succ]
    exact (Nat.mod_le _ _).trans_lt (by omega)
  | _ => exact BitVec.isLt _

omit [DecidableEq ι] in
theorem getLsbD_of_size_le (v : BitVec n) (e : Expr) {i : ℕ} (h : e.size n ≤ i) :
    (e.eval v).getLsbD i = false :=
  Nat.testBit_lt_two_pow ((e.toNat_eval_lt v).trans_le (Nat.pow_le_pow_right Nat.two_pos h))

/-- The bit is known to be `c`. -/
def isConst (w : Option (Wire ι)) (c : Bool) : Bool :=
  match w with
  | some (.const b) => b == c
  | _ => false

omit [DecidableEq ι] in
theorem eq_of_isConst {w : Option (Wire ι)} {c : Bool} (h : isConst w c) :
    w = some (.const c) := by
  unfold isConst at h
  split at h
  · rw [beq_iff_eq.mp h]
  · exact absurd h Bool.false_ne_true

/-- The value is known to be `c`. -/
def isLit (n : ℕ) (W : ℕ → Option (Wire ι)) (e : Expr) (c : ℕ) : Bool :=
  c < 2 ^ e.size n && (List.range (e.size n)).all fun i => isConst (e.wire n W i) (c.testBit i)

theorem eval_of_isLit (h : L.Matches env v) {e : Expr} {c : ℕ} (hlit : e.isLit n L.wire c) :
    e.eval v = BitVec.ofNat n c := by
  obtain ⟨hlt, hall⟩ := (Bool.and_eq_true _ _).mp hlit
  apply BitVec.eq_of_getLsbD_eq
  intro i hi
  rw [BitVec.getLsbD_ofNat, decide_eq_true hi, Bool.true_and]
  rcases Nat.lt_or_ge i (e.size n) with hsize | hsize
  · have hden := denotes_wire h e hi
    rw [eq_of_isConst (List.all_eq_true.mp hall i (List.mem_range.mpr hsize))] at hden
    exact hden.eq_const
  · rw [getLsbD_of_size_le v e hsize, Nat.testBit_lt_two_pow]
    exact (of_decide_eq_true hlt).trans_le (Nat.pow_le_pow_right Nat.two_pos hsize)

end Expr

/-- The bits from `hi` down to `lo` of a field are not `value`. -/
structure Exclusion (ι : Type*) where
  name : ι
  hi : ℕ
  lo : ℕ
  value : ℕ

/-- The exclusion holds. -/
def Exclusion.Holds (env : ι → BitVec k) (x : Exclusion ι) : Prop :=
  (env x.name).extractLsb' x.lo (x.hi + 1 - x.lo) ≠ BitVec.ofNat _ x.value

instance (env : ι → BitVec k) (x : Exclusion ι) : Decidable (x.Holds env) :=
  inferInstanceAs (Decidable (_ ≠ _))

namespace Expr

/-- The value is known not to be `c`: a bit differs, or it contains a field that would have to have
the excluded value. -/
def isNotLit (n : ℕ) (W : ℕ → Option (Wire ι)) (xs : List (Exclusion ι)) (e : Expr) (c : ℕ) :
    Bool :=
  (List.range (min n (e.size n))).any (fun i => isConst (e.wire n W i) !c.testBit i) ||
    xs.any fun x => (List.range (x.hi + 1 - x.lo)).all fun j =>
      (List.range (min n (e.size n))).any fun i =>
        e.wire n W i = some (.bit x.name (x.lo + j)) && c.testBit i == x.value.testBit j

variable {L : Layout ι} {v : BitVec n}

theorem eval_ne_of_isNotLit (h : L.Matches env v) {xs : List (Exclusion ι)}
    (hx : ∀ x ∈ xs, x.Holds env) {e : Expr} {c : ℕ} (hnot : e.isNotLit n L.wire xs c) :
    e.eval v ≠ BitVec.ofNat n c := by
  intro heq
  have hbit : ∀ i < n, ∀ w, e.wire n L.wire i = some w → c.testBit i = w.value env := by
    intro i hi w hw
    have hden := denotes_wire h e hi
    rw [hw, heq, BitVec.getLsbD_ofNat, decide_eq_true hi, Bool.true_and] at hden
    exact hden.eq_value
  rcases (Bool.or_eq_true _ _).mp hnot with hany | hany
  · obtain ⟨i, hi, hw⟩ := List.any_eq_true.mp hany
    have hlt := (lt_min_iff.mp (List.mem_range.mp hi)).1
    exact Bool.not_ne_self _ (hbit i hlt _ (eq_of_isConst hw)).symm
  · obtain ⟨x, hxs, hall⟩ := List.any_eq_true.mp hany
    refine hx x hxs (BitVec.eq_of_getLsbD_eq fun j hj => ?_)
    obtain ⟨i, hi, hw⟩ := List.any_eq_true.mp (List.all_eq_true.mp hall j (List.mem_range.mpr hj))
    obtain ⟨hwire, hval⟩ := (Bool.and_eq_true _ _).mp hw
    have hlt := (lt_min_iff.mp (List.mem_range.mp hi)).1
    have heq := hbit i hlt _ (of_decide_eq_true hwire)
    rw [BitVec.getLsbD_extractLsb', BitVec.getLsbD_ofNat, decide_eq_true hj, Bool.true_and,
      Bool.true_and]
    exact heq.symm.trans (beq_iff_eq.mp hval)

end Expr

/-! ## Decisions -/

/-- Nested `switch` statements. -/
inductive Switch (α : Type*)
  | leaf (a : α)
  | case (sel : Expr) (c : ℕ) (yes no : Switch α)

namespace Switch

/-- `switch (sel) { case c: t; … default: t }`. -/
def on (sel : Expr) (cases : List (ℕ × Switch α)) (default : Switch α) : Switch α :=
  cases.foldr (fun p t => case sel p.1 p.2 t) default

/-- The leaf that a word reaches. -/
def eval (v : BitVec n) : Switch α → α
  | leaf a => a
  | case sel c yes no => if sel.eval v = BitVec.ofNat n c then yes.eval v else no.eval v

/-- The leaf that all words with the bits `W` reach, where the exclusions hold. -/
def run (n : ℕ) (W : ℕ → Option (Wire ι)) (xs : List (Exclusion ι)) : Switch α → Option α
  | leaf a => some a
  | case sel c yes no =>
    if sel.isLit n W c then yes.run n W xs
    else if sel.isNotLit n W xs c then no.run n W xs
    else none

/-- **A decision followed on the layout is the decision on every word with it.** -/
theorem eval_of_run {L : Layout ι} {v : BitVec n} (h : L.Matches env v) {xs : List (Exclusion ι)}
    (hx : ∀ x ∈ xs, x.Holds env) {t : Switch α} {a : α} (ha : t.run n L.wire xs = some a) :
    t.eval v = a := by
  induction t with
  | leaf b => exact Option.some.inj ha
  | case sel c yes no ihyes ihno =>
    rw [run] at ha
    rw [eval]
    split_ifs at ha with hlit hnot
    · rw [if_pos (Expr.eval_of_isLit h hlit)]
      exact ihyes ha
    · rw [if_neg (Expr.eval_ne_of_isNotLit h hx hnot)]
      exact ihno ha

/-- The leaves of a decision tree. -/
def leaves : Switch α → List α
  | leaf a => [a]
  | case _ _ yes no => yes.leaves ++ no.leaves

theorem eval_mem_leaves (t : Switch α) (v : BitVec n) : t.eval v ∈ t.leaves := by
  induction t with
  | leaf a => exact List.mem_singleton_self a
  | case sel c yes no ihyes ihno =>
    rw [eval, leaves, List.mem_append]
    split_ifs
    · exact .inl ihyes
    · exact .inr ihno

end Switch

end BitLayout
