import Riscv32Sim.Disas.Decode
import Mathlib.Data.List.Basic

/-!
# The listing of the disassembler

A decoded instruction is printed into the caller's buffer: the word in hexadecimal, then the
pieces that the format of the operation names, each appended to what is in the buffer, with blanks
up to fixed columns. Here the C strings and their buffers are modelled with their bounds, and the
listing is shown to be the text meant wherever this fits into the buffer.

## Main definitions

* `printed`: what a character of a format prints
* `append`, `pad`: the operations on the buffer
* `disasmInst`: the listing of an instruction in a buffer
* `listing`: the text meant

## Main results

* `disasm_fits`: every listing fits into 85 bytes, and a buffer holds it exactly if it fits
-/

namespace Riscv32Sim
namespace Disas

open BitLayout

/-! ## Numbers -/

/-- `%0<width>x` -/
def hex (width v : ℕ) : List Char := (Nat.toDigits 16 v).leftpad width '0'

/-- `%d` -/
def decimal : ℤ → List Char
  | .ofNat v => Nat.toDigits 10 v
  | .negSucc v => '-' :: Nat.toDigits 10 (v + 1)

/-- `snprintf` into a buffer of `n` bytes. -/
def snprintf (n : ℕ) (s : List Char) : List Char := s.take (n - 1)

/-! ## What is printed -/

/-- `rv_ireg_name_sym` -/
def rvIregNameSym : List String :=
  ["zero", "ra", "sp", "gp", "tp", "t0", "t1", "t2", "s0", "s1", "a0", "a1", "a2", "a3", "a4",
    "a5", "a6", "a7", "s2", "s3", "s4", "s5", "s6", "s7", "s8", "s9", "s10", "s11", "t3", "t4",
    "t5", "t6"]

/-- `rv_freg_name_sym` -/
def rvFregNameSym : List String :=
  ["ft0", "ft1", "ft2", "ft3", "ft4", "ft5", "ft6", "ft7", "fs0", "fs1", "fa0", "fa1", "fa2",
    "fa3", "fa4", "fa5", "fa6", "fa7", "fs2", "fs3", "fs4", "fs5", "fs6", "fs7", "fs8", "fs9",
    "fs10", "fs11", "ft8", "ft9", "ft10", "ft11"]

/-- What `decode_inst_format` does to the buffer: it appends a string, or blanks up to a column. -/
inductive Piece
  | text (s : List Char)
  | padTo (column : ℕ)

/-- The name of a register, if the index is inside the table. -/
def regName (names : List String) (index : BitVec 8) : Option (List Piece) :=
  names[index.toNat]?.map fun name => [.text name.toList]

/-- The name of a rounding mode. -/
def rmName (rm : BitVec 8) : String :=
  if rm = 0 then "rne" else if rm = 1 then "rtz" else if rm = 2 then "rdn"
  else if rm = 3 then "rup" else if rm = 4 then "rmm" else if rm = 7 then "dyn" else "inv"

/-- The letters of a fence operand. -/
def fenceSet (set : BitVec 8) : List Piece :=
  (if set &&& 8 ≠ 0 then [.text ['i']] else []) ++ (if set &&& 4 ≠ 0 then [.text ['o']] else []) ++
    (if set &&& 2 ≠ 0 then [.text ['r']] else []) ++ (if set &&& 1 ≠ 0 then [.text ['w']] else [])

/-- The name of a control and status register, or its number. -/
def csrText (imm : BitVec 32) : List Char :=
  match csrName (imm &&& 0xfff).toNat with
  | some name => name.toList
  | none => snprintf 64 ("0x".toList ++ hex 3 (imm &&& 0xfff).toNat)

/-- What a character of a format prints. The lookup of a register name fails outside of the
table. -/
def printed (d : RvDecode) (tab : ℕ) : Char → Option (List Piece)
  | 'O' => some [.text (opcodeData d.op).name.toList]
  | '(' => some [.text ['(']]
  | ',' => some [.text [',']]
  | ')' => some [.text [')']]
  | '0' => regName rvIregNameSym d.rd
  | '1' => regName rvIregNameSym d.rs1
  | '2' => regName rvIregNameSym d.rs2
  | '3' => regName rvFregNameSym d.rd
  | '4' => regName rvFregNameSym d.rs1
  | '5' => regName rvFregNameSym d.rs2
  | '6' => regName rvFregNameSym d.rs3
  | '7' => some [.text (snprintf 64 (decimal d.rs1.toNat))]
  | 'i' => some [.text (snprintf 64 (decimal d.imm.toInt))]
  | 'o' =>
    some [.text (snprintf 64 (decimal d.imm.toInt)), .padTo (tab * 2),
      .text (snprintf 64 ("# 0x".toList ++ hex 0 (d.pc + d.imm.signExtend 64).toNat))]
  | 'c' => some [.text (csrText d.imm)]
  | 'r' => some [.text (rmName d.rm).toList]
  | 'p' => some (fenceSet d.pred)
  | 's' => some (fenceSet d.succ)
  | '\t' => some [.padTo tab]
  | 'A' => some (if d.aq ≠ 0 then [.text ".aq".toList] else [])
  | 'R' => some (if d.rl ≠ 0 then [.text ".rl".toList] else [])
  | _ => some []

/-- `inst_length` -/
def instLength (inst : BitVec 64) : ℕ :=
  if inst &&& 0b11 ≠ 0b11 then 2
  else if inst &&& 0b11100 ≠ 0b11100 then 4
  else if inst &&& 0b111111 = 0b011111 then 6
  else if inst &&& 0b1111111 = 0b0111111 then 8
  else 0

/-- The instruction word at the head of a listing. -/
def instHex (inst : BitVec 64) : List Char :=
  match instLength inst with
  | 2 => hex 4 inst.toNat ++ List.replicate 14 ' '
  | 4 => hex 8 inst.toNat ++ List.replicate 10 ' '
  | 6 => hex 12 inst.toNat ++ List.replicate 6 ' '
  | _ => hex 16 inst.toNat ++ List.replicate 2 ' '

/-- What is printed after the instruction word. -/
def pieces (d : RvDecode) (tab : ℕ) : Option (List Piece) :=
  ((opcodeData d.op).format.text.toList.mapM (printed d tab)).map List.flatten

/-! ## Buffers

The string in a buffer of `n` bytes, which the terminating zero follows. -/

/-- `append`. The bound that it gives `strncat` leaves no room for the zero, so that this can be
written behind the buffer. -/
def append (n : ℕ) (buf s : List Char) : Option (List Char) :=
  if buf.length + 1 < n then
    if (buf ++ s.take (n - buf.length)).length < n then some (buf ++ s.take (n - buf.length))
    else none
  else some buf

/-- `while (strlen(buf) < column) append(buf, " ", n)` -/
def pad (n column : ℕ) : ℕ → List Char → Option (List Char)
  | 0, buf => if buf.length < column then none else some buf
  | fuel + 1, buf =>
    if buf.length < column then (append n buf [' ']).bind (pad n column fuel) else some buf

/-- A piece is printed into a buffer of `n` bytes. -/
def Piece.print (n fuel : ℕ) (buf : List Char) : Piece → Option (List Char)
  | text s => append n buf s
  | padTo column => pad n column fuel buf

/-- `decode_inst_format` -/
def decodeInstFormat (n tab fuel : ℕ) (d : RvDecode) : Option (List Char) :=
  -- without a byte for the zero the buffer holds no string
  if n = 0 then none
  else do
    let ps ← pieces d tab
    ps.foldlM (Piece.print n fuel) (snprintf n (instHex d.inst))

/-- `disasm_inst` -/
def disasmInst (n fuel : ℕ) (isa : RvIsa) (pc inst : BitVec 64) : Option (List Char) :=
  decodeInstFormat n 32 fuel (decoded isa pc inst)

/-! ## The text meant -/

/-- A piece is added to a text. -/
def Piece.add (t : List Char) : Piece → List Char
  | text s => t ++ s
  | padTo column => t ++ List.replicate (column - t.length) ' '

/-- The listing of an instruction. -/
def listing (isa : RvIsa) (pc inst : BitVec 64) : Option (List Char) :=
  (pieces (decoded isa pc inst) 32).map fun ps => ps.foldl Piece.add (instHex inst)

/-! ## Printing into a buffer -/

theorem append_eq {n : ℕ} {buf s : List Char} (h : (buf ++ s).length < n) :
    append n buf s = some (buf ++ s) := by
  rw [List.length_append] at h
  unfold append
  split_ifs with hroom hlt
  · rw [List.take_of_length_le (by omega)]
  · rw [List.take_of_length_le (by omega), List.length_append] at hlt
    exact absurd h hlt
  · rw [List.eq_nil_of_length_eq_zero (show s.length = 0 by omega), List.append_nil]

theorem length_of_append {n : ℕ} {buf s r : List Char} (hbuf : buf.length < n)
    (h : append n buf s = some r) : r.length < n := by
  unfold append at h
  split_ifs at h with hroom hlt
  · rw [← Option.some.inj h]
    exact hlt
  · rw [← Option.some.inj h]
    exact hbuf

theorem pad_eq {n column fuel : ℕ} {buf : List Char} (hfuel : column - buf.length ≤ fuel)
    (h : (buf ++ List.replicate (column - buf.length) ' ').length < n) :
    pad n column fuel buf = some (buf ++ List.replicate (column - buf.length) ' ') := by
  induction fuel generalizing buf with
  | zero =>
    rw [pad, if_neg (by omega), show column - buf.length = 0 by omega]
    simp
  | succ fuel ih =>
    rw [pad]
    split_ifs with hlt
    · have hstep : buf ++ List.replicate (column - buf.length) ' ' =
          (buf ++ [' ']) ++ List.replicate (column - (buf ++ [' ']).length) ' ' := by
        rw [List.append_assoc, List.singleton_append, ← List.replicate_succ, List.length_append,
          List.length_singleton]
        congr 2
        omega
      rw [hstep] at h ⊢
      rw [append_eq (by rw [List.length_append] at h; omega), Option.bind_some]
      exact ih (by rw [List.length_append, List.length_singleton]; omega) h
    · rw [show column - buf.length = 0 by omega, List.replicate_zero, List.append_nil]

theorem length_of_pad {n column fuel : ℕ} {buf r : List Char} (hbuf : buf.length < n)
    (h : pad n column fuel buf = some r) : r.length < n := by
  induction fuel generalizing buf with
  | zero =>
    rw [pad] at h
    split_ifs at h
    exact Option.some.inj h ▸ hbuf
  | succ fuel ih =>
    rw [pad] at h
    split_ifs at h
    · obtain ⟨buf', happend, hpad⟩ := Option.bind_eq_some_iff.mp h
      exact ih (length_of_append hbuf happend) hpad
    · exact Option.some.inj h ▸ hbuf

namespace Piece

theorem length_le_length_add (t : List Char) (p : Piece) : t.length ≤ (p.add t).length := by
  cases p <;> simp [add]

/-- The loop of a piece ends within `fuel` rounds. -/
def Ends (fuel : ℕ) : Piece → Prop
  | text _ => True
  | padTo column => column ≤ fuel

theorem print_eq {n fuel : ℕ} {buf : List Char} {p : Piece} (hends : p.Ends fuel)
    (h : (p.add buf).length < n) : p.print n fuel buf = some (p.add buf) := by
  cases p with
  | text s => exact append_eq h
  | padTo column => exact pad_eq ((Nat.sub_le _ _).trans hends) h

theorem length_of_print {n fuel : ℕ} {buf r : List Char} {p : Piece} (hbuf : buf.length < n)
    (h : p.print n fuel buf = some r) : r.length < n := by
  cases p with
  | text s => exact length_of_append hbuf h
  | padTo column => exact length_of_pad hbuf h

theorem length_le_length_foldl_add (t : List Char) (ps : List Piece) :
    t.length ≤ (ps.foldl add t).length := by
  induction ps generalizing t with
  | nil => exact le_rfl
  | cons p ps ih => exact (length_le_length_add t p).trans (ih (p.add t))

/-- A text that fits into the buffer is printed into it. -/
theorem foldlM_print_eq {n fuel : ℕ} {buf : List Char} {ps : List Piece}
    (hends : ∀ p ∈ ps, p.Ends fuel) (h : (ps.foldl add buf).length < n) :
    ps.foldlM (print n fuel) buf = some (ps.foldl add buf) := by
  induction ps generalizing buf with
  | nil => rfl
  | cons p ps ih =>
    have hp := (length_le_length_foldl_add (p.add buf) ps).trans_lt h
    rw [List.foldlM_cons, print_eq (hends p List.mem_cons_self) hp]
    exact ih (fun q hq => hends q (List.mem_cons_of_mem p hq)) h

/-- What is in the buffer fits into it. -/
theorem length_of_foldlM_print {n fuel : ℕ} {buf r : List Char} {ps : List Piece}
    (hbuf : buf.length < n) (h : ps.foldlM (print n fuel) buf = some r) : r.length < n := by
  induction ps generalizing buf with
  | nil => exact Option.some.inj h ▸ hbuf
  | cons p ps ih =>
    rw [List.foldlM_cons] at h
    obtain ⟨buf', hprint, hfold⟩ := Option.bind_eq_some_iff.mp h
    exact ih (length_of_print hbuf hprint) hfold

end Piece

theorem decodeInstFormat_eq_iff {n tab fuel : ℕ} {d : RvDecode} {ps : List Piece}
    (hps : pieces d tab = some ps) (hends : ∀ p ∈ ps, p.Ends fuel) :
    decodeInstFormat n tab fuel d = some (ps.foldl Piece.add (instHex d.inst)) ↔
      (ps.foldl Piece.add (instHex d.inst)).length < n := by
  have hhex := Piece.length_le_length_foldl_add (instHex d.inst) ps
  rw [decodeInstFormat, hps]
  constructor
  · intro h
    split_ifs at h with hn
    refine Piece.length_of_foldlM_print ?_ h
    rw [snprintf, List.length_take]
    omega
  · intro h
    rw [if_neg (by omega), snprintf, List.take_of_length_le (by omega)]
    exact Piece.foldlM_print_eq hends h

/-! ## The length of a listing -/

theorem length_hex {width v : ℕ} (hv : v < 2 ^ 64) (hwidth : width ≤ 16) :
    (hex width v).length ≤ 16 := by
  have hdigits : (Nat.toDigits 16 v).length ≤ 16 :=
    (Nat.length_toDigits_le_iff (by decide) (by decide)).mpr (hv.trans_le (by decide))
  rw [hex, List.length_leftpad]
  omega

theorem length_instHex (inst : BitVec 64) : (instHex inst).length ≤ 30 := by
  have hlen : ∀ width ≤ 16, (hex width inst.toNat).length ≤ 16 :=
    fun width hwidth => length_hex inst.isLt hwidth
  unfold instHex
  split
  · have := hlen 4 (by decide)
    simp only [List.length_append, List.length_replicate]
    omega
  · have := hlen 8 (by decide)
    simp only [List.length_append, List.length_replicate]
    omega
  · have := hlen 12 (by decide)
    simp only [List.length_append, List.length_replicate]
    omega
  · have := hlen 16 (by decide)
    simp only [List.length_append, List.length_replicate]
    omega

theorem length_decimal {i : ℤ} (hlo : -2 ^ 31 ≤ i) (hhi : i < 2 ^ 31) :
    (decimal i).length ≤ 11 := by
  have hdigits : ∀ v : ℕ, v ≤ 2 ^ 31 → (Nat.toDigits 10 v).length ≤ 10 := fun v hv =>
    (Nat.length_toDigits_le_iff (by decide) (by decide)).mpr (hv.trans_lt (by decide))
  cases i with
  | ofNat v =>
    have hv : (v : ℤ) < 2 ^ 31 := hhi
    exact (hdigits v (by omega)).trans (by decide)
  | negSucc v =>
    have := hdigits (v + 1) (by omega)
    rw [decimal, List.length_cons]
    omega

theorem length_toList_le (s : String) : s.toList.length ≤ s.utf8ByteSize := by
  rw [← String.ofList_toList (s := s), String.toList_ofList]
  induction s.toList with
  | nil => exact Nat.zero_le _
  | cons c cs ih =>
    rw [String.ofList_cons, String.utf8ByteSize_append, String.utf8ByteSize_singleton,
      List.length_cons]
    have := c.utf8Size_pos
    omega

theorem length_csrText (imm : BitVec 32) : (csrText imm).length ≤ 14 := by
  unfold csrText
  split
  next name hname =>
    have hall : ∀ p ∈ csrNames, p.2.utf8ByteSize ≤ 14 := by decide +kernel
    obtain ⟨l₁, l₂, heq, -⟩ := List.lookup_eq_some_iff.mp hname
    exact (length_toList_le name).trans
      (hall _ (heq ▸ List.mem_append_right l₁ List.mem_cons_self))
  next =>
    have hlt : (imm &&& 0xfff).toNat < 16 ^ 3 := by
      rw [BitVec.toNat_and]
      exact Nat.and_le_right.trans_lt (by decide)
    have hdigits := (Nat.length_toDigits_le_iff (by decide) (by decide)).mpr hlt
    rw [snprintf, List.length_take, List.length_append, hex, List.length_leftpad]
    have : "0x".toList.length = 2 := by decide
    omega

theorem length_name (op : RvOp) : (opcodeData op).name.toList.length ≤ 10 := by
  refine (length_toList_le _).trans ?_
  cases op <;> decide

/-- How far a character of a format can lengthen a listing. -/
def grown (length : ℕ) : Char → ℕ
  | 'O' => length + 10
  | '(' | ',' | ')' => length + 1
  | '0' | '1' | '2' | '3' | '4' | '5' | '6' | 'p' | 's' => length + 4
  | '7' => length + 2
  | 'i' => length + 11
  | 'o' => max (length + 11) 64 + 20
  | 'c' => length + 14
  | 'r' | 'A' | 'R' => length + 3
  | '\t' => max length 32
  | _ => length

theorem grown_mono {m n : ℕ} (h : m ≤ n) (c : Char) : grown m c ≤ grown n c := by
  unfold grown
  split <;> omega

theorem exists_regName {names : List String} (hlen : names.length = 32)
    (hname : ∀ s ∈ names, s.toList.length ≤ 4) {index : BitVec 8} (hindex : index.toNat < 32) :
    ∃ s, regName names index = some [.text s] ∧ s.length ≤ 4 := by
  have hlt : index.toNat < names.length := hlen ▸ hindex
  refine ⟨names[index.toNat].toList, ?_, hname _ (List.getElem_mem hlt)⟩
  rw [regName, List.getElem?_eq_getElem hlt]
  rfl

theorem exists_iregName {index : BitVec 8} (hindex : index.toNat < 32) :
    ∃ s, regName rvIregNameSym index = some [.text s] ∧ s.length ≤ 4 :=
  exists_regName rfl (by decide) hindex

theorem exists_fregName {index : BitVec 8} (hindex : index.toNat < 32) :
    ∃ s, regName rvFregNameSym index = some [.text s] ∧ s.length ≤ 4 :=
  exists_regName rfl (by decide) hindex

theorem le_grown (m : ℕ) (c : Char) : m ≤ grown m c := by
  unfold grown
  split <;> omega

/-- The loops of the pieces end, and they lengthen a listing no further than to `f`. -/
def Piece.Within (ps : List Piece) (f : ℕ → ℕ) : Prop :=
  (∀ p ∈ ps, p.Ends 64) ∧ ∀ t, (ps.foldl add t).length ≤ f t.length

theorem Piece.within_text {s : List Char} {k : ℕ} (hs : s.length ≤ k) :
    Within [.text s] (· + k) := by
  refine ⟨fun p hp => ?_, fun t => ?_⟩
  · rw [List.mem_singleton.mp hp]
    trivial
  · rw [List.foldl_cons, List.foldl_nil, add, List.length_append]
    exact Nat.add_le_add_left hs _

theorem Piece.within_padTo {column : ℕ} (h : column ≤ 64) : Within [.padTo column] (max · column) := by
  refine ⟨fun p hp => ?_, fun t => ?_⟩
  · rw [List.mem_singleton.mp hp]
    exact h
  · rw [List.foldl_cons, List.foldl_nil, add, List.length_append, List.length_replicate]
    change _ ≤ max t.length column
    omega

theorem Piece.Within.append {ps qs : List Piece} {f g : ℕ → ℕ} (hp : Within ps f)
    (hq : Within qs g) (hg : ∀ {i j}, i ≤ j → g i ≤ g j) : Within (ps ++ qs) fun m => g (f m) := by
  refine ⟨fun p hmem => ?_, fun t => ?_⟩
  · exact (List.mem_append.mp hmem).elim (hp.1 p) (hq.1 p)
  · rw [List.foldl_append]
    exact (hq.2 _).trans (hg (hp.2 t))

/-- The address follows the offset in column 64, or right behind a longer line. -/
theorem Piece.within_offset {s r : List Char} (hs : s.length ≤ 11) (hr : r.length ≤ 20) :
    Within [.text s, .padTo 64, .text r] fun m => max (m + 11) 64 + 20 :=
  ((within_text hs).append (within_padTo le_rfl) fun h => max_le_max_right 64 h).append
    (within_text hr) fun h => Nat.add_le_add_right h 20

theorem within_fenceSet (set : BitVec 8) : Piece.Within (fenceSet set) (· + 4) := by
  unfold fenceSet
  refine ⟨fun p hp => ?_, fun t => ?_⟩
  · have htext : ∃ s, p = .text s := by
      split_ifs at hp <;> simp at hp <;> grind
    obtain ⟨s, rfl⟩ := htext
    trivial
  · split_ifs <;> simp [Piece.add]

theorem exists_printed {d : RvDecode} (h : d.InBounds) (c : Char) :
    ∃ ps, printed d 32 c = some ps ∧ Piece.Within ps (grown · c) := by
  have hone : ∀ s : List Char, s.length ≤ 1 → Piece.Within [.text s] (· + 1) :=
    fun s hs => Piece.within_text hs
  have himm := length_decimal (i := d.imm.toInt) (by have := d.imm.le_toInt; simpa using this)
    (by have := d.imm.toInt_lt; simpa using this)
  have htake : ∀ (s : List Char) (k : ℕ), s.length ≤ k → (snprintf 64 s).length ≤ k :=
    fun s k hs => (List.length_take_le' _ s).trans hs
  unfold printed
  split
  · exact ⟨_, rfl, Piece.within_text (length_name d.op)⟩
  · exact ⟨_, rfl, hone _ le_rfl⟩
  · exact ⟨_, rfl, hone _ le_rfl⟩
  · exact ⟨_, rfl, hone _ le_rfl⟩
  · obtain ⟨s, hs, hlen⟩ := exists_iregName h.rd
    exact ⟨_, hs, Piece.within_text hlen⟩
  · obtain ⟨s, hs, hlen⟩ := exists_iregName h.rs1
    exact ⟨_, hs, Piece.within_text hlen⟩
  · obtain ⟨s, hs, hlen⟩ := exists_iregName h.rs2
    exact ⟨_, hs, Piece.within_text hlen⟩
  · obtain ⟨s, hs, hlen⟩ := exists_fregName h.rd
    exact ⟨_, hs, Piece.within_text hlen⟩
  · obtain ⟨s, hs, hlen⟩ := exists_fregName h.rs1
    exact ⟨_, hs, Piece.within_text hlen⟩
  · obtain ⟨s, hs, hlen⟩ := exists_fregName h.rs2
    exact ⟨_, hs, Piece.within_text hlen⟩
  · obtain ⟨s, hs, hlen⟩ := exists_fregName h.rs3
    exact ⟨_, hs, Piece.within_text hlen⟩
  · refine ⟨_, rfl, Piece.within_text (htake _ 2 ?_)⟩
    exact (Nat.length_toDigits_le_iff (by decide) (by decide)).mpr (h.rs1.trans (by decide))
  · exact ⟨_, rfl, Piece.within_text (htake _ 11 himm)⟩
  · refine ⟨_, rfl, Piece.within_offset (htake _ 11 himm) (htake _ 20 ?_)⟩
    rw [List.length_append]
    exact Nat.add_le_add (show "# 0x".toList.length ≤ 4 by decide)
      (length_hex (BitVec.isLt _) (by decide))
  · exact ⟨_, rfl, Piece.within_text (length_csrText d.imm)⟩
  · refine ⟨_, rfl, Piece.within_text (k := 3) ?_⟩
    unfold rmName
    split_ifs <;> decide
  · exact ⟨_, rfl, within_fenceSet d.pred⟩
  · exact ⟨_, rfl, within_fenceSet d.succ⟩
  · exact ⟨_, rfl, Piece.within_padTo (by decide)⟩
  · split_ifs
    · exact ⟨_, rfl, Piece.within_text (k := 3) (by decide)⟩
    · exact ⟨[], rfl, by simp, fun t => le_grown t.length 'A'⟩
  · split_ifs
    · exact ⟨_, rfl, Piece.within_text (k := 3) (by decide)⟩
    · exact ⟨[], rfl, by simp, fun t => le_grown t.length 'R'⟩
  · exact ⟨[], rfl, by simp, fun t => le_grown t.length _⟩

theorem foldl_grown_mono {m n : ℕ} (h : m ≤ n) (cs : List Char) :
    cs.foldl grown m ≤ cs.foldl grown n := by
  induction cs generalizing m n with
  | nil => exact h
  | cons c cs ih => exact ih (grown_mono h c)

theorem exists_mapM_printed {d : RvDecode} (h : d.InBounds) (cs : List Char) :
    ∃ pss, cs.mapM (printed d 32) = some pss ∧
      Piece.Within pss.flatten fun m => cs.foldl grown m := by
  induction cs with
  | nil => exact ⟨[], rfl, by simp, fun t => le_rfl⟩
  | cons c cs ih =>
    obtain ⟨ps, hps, hwithin⟩ := exists_printed h c
    obtain ⟨pss, hpss, hrest⟩ := ih
    refine ⟨ps :: pss, by rw [List.mapM_cons, hps, hpss]; rfl, ?_⟩
    exact hwithin.append hrest fun hij => foldl_grown_mono hij cs

theorem grown_text (f : RvFmt) : f.text.toList.foldl grown 30 ≤ 84 := by
  cases f <;> decide

/-- **Every listing fits.** The register fields of a decoded instruction are inside the tables of
names, every listing has at most 84 characters, and a buffer of `n` bytes holds it after a call,
whose loops end, exactly if it fits there with its terminating zero. -/
theorem disasm_fits (isa : RvIsa) (pc inst : BitVec 64) :
    ∃ t, listing isa pc inst = some t ∧ t.length ≤ 84 ∧
      ∀ n fuel, 64 ≤ fuel → (disasmInst n fuel isa pc inst = some t ↔ t.length < n) := by
  obtain ⟨pss, hpss, hends, hlen⟩ := exists_mapM_printed (inBounds_decoded isa pc inst)
    (opcodeData (decoded isa pc inst).op).format.text.toList
  have hps : pieces (decoded isa pc inst) 32 = some pss.flatten := by
    rw [pieces, hpss]
    rfl
  refine ⟨pss.flatten.foldl Piece.add (instHex inst), by rw [listing, hps]; rfl, ?_, ?_⟩
  · have hgrown := grown_text (opcodeData (decoded isa pc inst).op).format
    exact ((hlen _).trans (foldl_grown_mono (length_instHex inst) _)).trans hgrown
  · intro n fuel hfuel
    have hends' : ∀ p ∈ pss.flatten, p.Ends fuel := by
      intro p hp
      cases p with
      | text s => trivial
      | padTo column => exact (hends _ hp).trans hfuel
    have hiff := decodeInstFormat_eq_iff (n := n) hps hends'
    rwa [decoded_inst] at hiff

end Disas
end Riscv32Sim
