import Mathlib.Data.List.Pairwise
import Riscv32Sim.Memory.Block
import Riscv32Sim.Memory.Router

/-!
# The loader

The loader checks the header of an ELF file and copies its `PT_LOAD` segments into the page map
with the block write. A block write runs to the end of a page, so what a segment leaves after its
own bytes is what happens to follow its buffer, over whatever an earlier segment put there.

`ELFIO` is a submodule; `Elf` is what it hands to the loader, and the bytes after the buffer of a
segment are a parameter. Its constants are assumed to be those of the ELF format.

## Main definitions

* `Elf`, `Segment`, `Section`: the ELF file as `ELFIO` presents it
* `Loader.check`, `Loader.load`: the two constructors of the loader
* `Segment.Covers`, `Segment.Spills`: the addresses of a segment, and those it overwrites
* `IsImage`: the program image of a list of segments
* `imageOf`: its bytes
* `Loader.progbitRanges`: the ranges of the executable sections
* `ElfFile`, `ElfFile.symbol`: the file with its sections and symbols

## Main results

* `exists_loadSegments`: each byte is the one of the last segment that writes it
* `Loader.load_isImage_iff`: when the loader builds the program image
* `Loader.exists_progbitRange_iff`: the ranges cover the executable sections
-/

namespace Riscv32Sim

/-- `ELFIO::segment`. -/
structure Segment where
  type : BitVec 32
  virtualAddress : BitVec 32
  bytes : List (BitVec 8)
  deriving DecidableEq

/-- `ELFIO::PT_LOAD`; the submodule is assumed to have the value of the ELF format. -/
def ptLoad : BitVec 32 := 1

/-- `ELFIO::section` of a 32-bit file. The getters widen the flags, the address and the size to 64
bits. -/
structure Section where
  type : BitVec 32
  flags : BitVec 32
  address : BitVec 32
  size : BitVec 32
  deriving DecidableEq

/-- `ELFIO::SHT_PROGBITS`; the submodule is assumed to have the value of the ELF format. -/
def shtProgbits : BitVec 32 := 1

/-- `ELFIO::SHF_EXECINSTR`; the submodule is assumed to have the value of the ELF format. -/
def shfExecinstr : BitVec 64 := 4

/-- The part of `ELFIO::elfio` that the loader checks and copies. -/
structure Elf where
  loads : Bool
  elfClass : BitVec 8
  machine : BitVec 16
  segments : List Segment

/-- `ELFIO::ELFCLASS32`; the submodule is assumed to have the value of the ELF format. -/
def elfClass32 : BitVec 8 := 1

/-- `ELFIO::EM_RISCV`; the submodule is assumed to have the value of the ELF format. -/
def emRiscv : BitVec 16 := 243

/-- `loader_error` with its message, and the undefined behaviour of a copy outside its source. -/
inductive LoaderError
  | message (text : String)
  | undefined
  deriving DecidableEq, Repr

namespace Segment

/-- The bytes readable from `get_data()`: those of the segment, and `rest` after its buffer. -/
def byteFrom (rest : Segment → ℕ → BitVec 8) (s : Segment) (i : ℕ) : BitVec 8 :=
  (s.bytes[i]?).getD (rest s (i - s.bytes.length))

/-- The addresses of the file bytes of a segment. -/
def Covers (s : Segment) (a : BitVec 32) : Prop :=
  s.virtualAddress.toNat ≤ a.toNat ∧ a.toNat < s.virtualAddress.toNat + s.bytes.length

/-- The addresses from the end of a segment to the end of its last page. -/
def Spills (s : Segment) (a : BitVec 32) : Prop :=
  s.bytes ≠ [] ∧ s.virtualAddress.toNat + s.bytes.length ≤ a.toNat ∧
    a.toNat < blockEnd s.virtualAddress s.bytes.length

/-- Two segments share no address. -/
def Disjoint (s t : Segment) : Prop := ∀ a, s.Covers a → ¬ t.Covers a

/-- The segment does not wrap past `2 ^ 32`. -/
def Fits (s : Segment) : Prop := s.virtualAddress.toNat + s.bytes.length ≤ 2 ^ 32

instance (s : Segment) (a : BitVec 32) : Decidable (s.Covers a) :=
  inferInstanceAs (Decidable (_ ∧ _))

instance (s : Segment) (a : BitVec 32) : Decidable (s.Spills a) :=
  inferInstanceAs (Decidable (_ ∧ _ ∧ _))

instance (s : Segment) : Decidable s.Fits := inferInstanceAs (Decidable (_ ≤ _))

end Segment

section Load

variable [Platform]

/-- The loop of the constructor: `mem.write` for each `PT_LOAD` segment. -/
def loadSegments (rest : Segment → ℕ → BitVec 8) : List Segment → SparseMemory → Option SparseMemory
  | [], m => some m
  | s :: ss, m =>
    if s.type = ptLoad then
      (m.write s.virtualAddress (fun i => some (s.byteFrom rest i)) s.bytes.length).bind
        (loadSegments rest ss)
    else loadSegments rest ss m

namespace Loader

/-- `loader::loader(file_name)`. -/
def check (elf : Elf) : Except LoaderError Unit :=
  if !elf.loads then .error (.message "File is not an ELF file")
  else if elf.elfClass ≠ elfClass32 then .error (.message "Only 32-bit binaries are supported")
  else if elf.machine ≠ emRiscv then .error (.message "Loaded ELF does not target RISC-V")
  else if elf.segments.length = 0 then .error (.message "Loaded ELF has no segments")
  else .ok ()

/-- `loader::loader(file_name, mem)`. -/
def load (rest : Segment → ℕ → BitVec 8) (elf : Elf) (mem : AddressRouter) :
    Except LoaderError AddressRouter := do
  check elf
  match loadSegments rest elf.segments mem.page with
  | some page => .ok { mem with page := page }
  | none => .error .undefined

end Loader

/-! ## The byte each address ends with -/

section Image

omit [Platform]

/-- The addresses a block write of the segment changes. -/
def Segment.Writes (s : Segment) (a : BitVec 32) : Prop := s.Covers a ∨ s.Spills a

instance (s : Segment) (a : BitVec 32) : Decidable (s.Writes a) :=
  inferInstanceAs (Decidable (_ ∨ _))

/-- The byte at `a` after the segments have been written in order, starting from `b`. -/
def imageByte (rest : Segment → ℕ → BitVec 8) (a : BitVec 32) : List Segment → BitVec 8 → BitVec 8
  | [], b => b
  | s :: ss, b =>
    imageByte rest a ss
      (if s.Writes a then s.byteFrom rest (a.toNat - s.virtualAddress.toNat) else b)

theorem imageByte_append (rest : Segment → ℕ → BitVec 8) (a : BitVec 32) (ss ts : List Segment)
    (b : BitVec 8) : imageByte rest a (ss ++ ts) b = imageByte rest a ts (imageByte rest a ss b) := by
  induction ss generalizing b with
  | nil => rfl
  | cons s ss ih => exact ih _

theorem imageByte_of_not_writes {rest : Segment → ℕ → BitVec 8} {a : BitVec 32} {ss : List Segment}
    (h : ∀ s ∈ ss, ¬ s.Writes a) (b : BitVec 8) : imageByte rest a ss b = b := by
  induction ss generalizing b with
  | nil => rfl
  | cons s ss ih =>
    rw [imageByte, if_neg (h s (List.mem_cons_self ..))]
    exact ih (fun t ht => h t (List.mem_cons_of_mem _ ht)) b

/-- A covered byte is read from the buffer of its segment. -/
theorem Segment.byteFrom_of_covers {s : Segment} {a : BitVec 32} (h : s.Covers a)
    (rest : Segment → ℕ → BitVec 8) :
    s.bytes[a.toNat - s.virtualAddress.toNat]? =
      some (s.byteFrom rest (a.toNat - s.virtualAddress.toNat)) := by
  obtain ⟨hle, hlt⟩ := h
  rw [byteFrom, List.getElem?_eq_getElem (by omega), Option.getD_some]

/-- A spilled byte is what follows the buffer of its segment. -/
theorem Segment.byteFrom_of_not_covers {s : Segment} {a : BitVec 32} (h : s.Writes a)
    (hc : ¬ s.Covers a) (c : BitVec 8) :
    s.byteFrom (fun _ _ => c) (a.toNat - s.virtualAddress.toNat) = c := by
  rcases h with h | ⟨-, hle, -⟩
  · exact absurd h hc
  · rw [byteFrom, List.getElem?_eq_none (by omega), Option.getD_none]

/-- Segments that do not cover an address leave there what follows their buffers. -/
theorem imageByte_of_not_covers {a : BitVec 32} {ss : List Segment} (h : ∀ s ∈ ss, ¬ s.Covers a)
    (c : BitVec 8) : imageByte (fun _ _ => c) a ss c = c := by
  induction ss with
  | nil => rfl
  | cons s ss ih =>
    have hs : (if s.Writes a then s.byteFrom (fun _ _ => c) (a.toNat - s.virtualAddress.toNat)
        else c) = c := by
      split_ifs with hw
      · exact s.byteFrom_of_not_covers hw (h s (List.mem_cons_self ..)) c
      · rfl
    rw [imageByte, hs]
    exact ih fun t ht => h t (List.mem_cons_of_mem _ ht)

/-- The segments the loader copies. -/
def loadable (ss : List Segment) : List Segment := ss.filter (·.type = ptLoad)

end Image

/-- What a block write of one segment leaves at each address. -/
theorem exists_write_segment (rest : Segment → ℕ → BitVec 8) {s : Segment} (hfit : s.Fits)
    (m : SparseMemory) :
    ∃ m', m.write s.virtualAddress (fun i => some (s.byteFrom rest i)) s.bytes.length = some m' ∧
      ∀ a, m'.read8 a =
        if s.Writes a then s.byteFrom rest (a.toNat - s.virtualAddress.toNat) else m.read8 a := by
  rcases eq_or_ne s.bytes [] with hnil | hne
  · refine ⟨m, ?_, fun a => ?_⟩
    · rw [hnil]
      exact m.write_zero _ _
    · rw [if_neg]
      rintro (⟨hle, hlt⟩ | ⟨hne, -⟩)
      · rw [hnil, List.length_nil] at hlt
        omega
      · exact hne hnil
  · have hpos : 0 < s.bytes.length := List.length_pos_iff.mpr hne
    have hsrc : ∀ i, s.virtualAddress.toNat + i < blockEnd s.virtualAddress s.bytes.length →
        (fun i => some (s.byteFrom rest i)) i = some (s.byteFrom rest i) := fun i _ => rfl
    obtain ⟨m', hm', hread⟩ :=
      SparseMemory.write_eq_some s.bytes.length m s.virtualAddress hpos hfit hsrc
    refine ⟨m', hm', fun a => ?_⟩
    have hiff : s.Writes a ↔ s.virtualAddress.toNat ≤ a.toNat ∧
        a.toNat < blockEnd s.virtualAddress s.bytes.length := by
      have hend : s.virtualAddress.toNat + s.bytes.length ≤
          blockEnd s.virtualAddress s.bytes.length := by
        unfold blockEnd
        omega
      constructor
      · rintro (⟨hle, hlt⟩ | ⟨-, hle, hlt⟩)
        · exact ⟨hle, by omega⟩
        · exact ⟨by omega, hlt⟩
      · rintro ⟨hle, hlt⟩
        rcases Nat.lt_or_ge a.toNat (s.virtualAddress.toNat + s.bytes.length) with h | h
        · exact Or.inl ⟨hle, h⟩
        · exact Or.inr ⟨hne, h, hlt⟩
    simp only [hread a, hiff]

/-- **Each byte is the one of the last segment that writes it.** -/
theorem exists_loadSegments (rest : Segment → ℕ → BitVec 8) (ss : List Segment)
    (hfit : ∀ s ∈ loadable ss, s.Fits) (m : SparseMemory) :
    ∃ m', loadSegments rest ss m = some m' ∧
      ∀ a, m'.read8 a = imageByte rest a (loadable ss) (m.read8 a) := by
  induction ss generalizing m with
  | nil => exact ⟨m, rfl, fun a => rfl⟩
  | cons s ss ih =>
    by_cases hs : s.type = ptLoad
    · have hload : loadable (s :: ss) = s :: loadable ss :=
        List.filter_cons_of_pos (decide_eq_true hs)
      rw [hload] at hfit ⊢
      obtain ⟨m₁, hm₁, hread₁⟩ := exists_write_segment rest (hfit s (List.mem_cons_self ..)) m
      obtain ⟨m', hm', hread'⟩ := ih (fun t ht => hfit t (List.mem_cons_of_mem _ ht)) m₁
      refine ⟨m', ?_, fun a => ?_⟩
      · rw [loadSegments, if_pos hs, hm₁, Option.bind_some, hm']
      · rw [hread' a, hread₁ a, imageByte]
    · have hload : loadable (s :: ss) = loadable ss :=
        List.filter_cons_of_neg (by simpa using hs)
      rw [hload] at hfit ⊢
      rw [loadSegments, if_neg hs]
      exact ih hfit m

/-! ## The program image -/

/-- The program image of the segments: their file bytes, and zero everywhere else. -/
structure IsImage (ss : List Segment) (m : SparseMemory) : Prop where
  file : ∀ s ∈ ss, ∀ i (h : i < s.bytes.length),
    m.read8 (s.virtualAddress + BitVec.ofNat 32 i) = s.bytes[i]
  zero : ∀ a, (∀ s ∈ ss, ¬ s.Covers a) → m.read8 a = 0

/-- The loader, started on an empty memory, builds the program image, whatever follows the
buffers of the segments. -/
def Loader.BuildsImage (elf : Elf) (mtimeAddr mtimecmpAddr : BitVec 32) : Prop :=
  ∀ rest, ∃ r, Loader.load rest elf (.init .empty mtimeAddr mtimecmpAddr) = .ok r ∧
    IsImage (loadable elf.segments) r.page

omit [Platform] in
/-- Each byte that a segment overwrites after its end is a file byte of a later segment. -/
def SpillsRewritten (ss : List Segment) : Prop :=
  ∀ pre s post, ss = pre ++ s :: post → ∀ a, s.Spills a → ∃ t ∈ post, t.Covers a

omit [Platform] in
theorem Segment.Covers.eq_add {s : Segment} {a : BitVec 32} (h : s.Covers a) :
    a = s.virtualAddress + BitVec.ofNat 32 (a.toNat - s.virtualAddress.toNat) := by
  obtain ⟨hle, hlt⟩ := h
  apply BitVec.eq_of_toNat_eq
  have ha := a.isLt
  rw [BitVec.toNat_add, BitVec.toNat_ofNat, Nat.add_mod_mod, Nat.add_sub_cancel' hle,
    Nat.mod_eq_of_lt ha]

/-- An address holds the same byte in every image of the same segments. -/
theorem IsImage.read8_eq {ss : List Segment} {m m' : SparseMemory} (h : IsImage ss m)
    (h' : IsImage ss m') (a : BitVec 32) : m.read8 a = m'.read8 a := by
  by_cases hc : ∃ s ∈ ss, s.Covers a
  · obtain ⟨s, hs, hcov⟩ := hc
    have hlt : a.toNat - s.virtualAddress.toNat < s.bytes.length := by
      have := hcov.1
      have := hcov.2
      omega
    rw [hcov.eq_add, h.file s hs _ hlt, h'.file s hs _ hlt]
  · have hnone : ∀ s ∈ ss, ¬ s.Covers a := fun s hs hcov => hc ⟨s, hs, hcov⟩
    rw [h.zero a hnone, h'.zero a hnone]

omit [Platform] in
/-- Where the spilled bytes are rewritten, no segment after `s` writes a byte of `s`. -/
theorem SpillsRewritten.not_writes {pre post : List Segment} {s : Segment} {a : BitVec 32}
    (h : SpillsRewritten (pre ++ s :: post))
    (hdisj : (pre ++ s :: post).Pairwise Segment.Disjoint) (hs : s.Covers a) :
    ∀ t ∈ post, ¬ t.Writes a := by
  have hpost : ∀ t ∈ post, ¬ t.Covers a := fun t ht =>
    List.rel_of_pairwise_cons (List.pairwise_append.mp hdisj).2.1 ht a hs
  rintro t ht (hcov | hspill)
  · exact hpost t ht hcov
  · -- the segment that rewrites the byte comes after `t`, hence after `s`
    obtain ⟨mid, last, rfl⟩ := List.append_of_mem ht
    obtain ⟨u, hu, hcov⟩ := h (pre ++ s :: mid) t last (by simp) a hspill
    exact hpost u (by simp [hu]) hcov

/-- The image is built when the spilled bytes are rewritten. -/
theorem SpillsRewritten.isImage {ss : List Segment} (h : SpillsRewritten ss)
    (hdisj : ss.Pairwise Segment.Disjoint) (hfit : ∀ s ∈ ss, s.Fits)
    {rest : Segment → ℕ → BitVec 8} {m : SparseMemory}
    (hm : ∀ a, m.read8 a = imageByte rest a ss 0) : IsImage ss m := by
  constructor
  · intro s hs i hi
    have hadd : (s.virtualAddress + BitVec.ofNat 32 i).toNat = s.virtualAddress.toNat + i := by
      have := hfit s hs
      unfold Segment.Fits at this
      rw [BitVec.toNat_add, BitVec.toNat_ofNat, Nat.add_mod_mod, Nat.mod_eq_of_lt (by omega)]
    have hcov : s.Covers (s.virtualAddress + BitVec.ofNat 32 i) := by
      unfold Segment.Covers
      omega
    -- `s` writes its own byte, and nothing after `s` does
    obtain ⟨pre, post, rfl⟩ := List.append_of_mem hs
    have hwrites : s.Writes (s.virtualAddress + BitVec.ofNat 32 i) := Or.inl hcov
    rw [hm, imageByte_append, imageByte, if_pos hwrites,
      imageByte_of_not_writes (h.not_writes hdisj hcov)]
    have hbyte := s.byteFrom_of_covers hcov rest
    rw [hadd, Nat.add_sub_cancel_left] at hbyte ⊢
    rw [List.getElem?_eq_getElem hi] at hbyte
    exact (Option.some.inj hbyte).symm
  · intro a hnone
    -- a byte spilled here would be a file byte of a later segment
    rw [hm, imageByte_of_not_writes]
    rintro s hs (hcov | hspill)
    · exact hnone s hs hcov
    · obtain ⟨pre, post, rfl⟩ := List.append_of_mem hs
      obtain ⟨t, ht, hcov⟩ := h pre s post rfl a hspill
      exact hnone t (by simp [ht]) hcov

/-- A load that passes the checks of the header is the loop over the segments. -/
theorem Loader.exists_load {elf : Elf} (hcheck : Loader.check elf = .ok ())
    (hfit : ∀ s ∈ loadable elf.segments, s.Fits) (rest : Segment → ℕ → BitVec 8)
    (mtimeAddr mtimecmpAddr : BitVec 32) :
    ∃ r, Loader.load rest elf (.init .empty mtimeAddr mtimecmpAddr) = .ok r ∧
      ∀ a, r.page.read8 a = imageByte rest a (loadable elf.segments) 0 := by
  obtain ⟨m, hm, hread⟩ := exists_loadSegments rest elf.segments hfit .empty
  refine ⟨{ AddressRouter.init .empty mtimeAddr mtimecmpAddr with page := m }, ?_, hread⟩
  simp only [Loader.load, hcheck, AddressRouter.init, hm]
  rfl

/-- The loader does not move the timer windows. -/
theorem Loader.addrs_of_load {rest : Segment → ℕ → BitVec 8} {elf : Elf} {mem r : AddressRouter}
    (h : Loader.load rest elf mem = .ok r) :
    r.mtimeAddr = mem.mtimeAddr ∧ r.mtimecmpAddr = mem.mtimecmpAddr := by
  unfold Loader.load at h
  cases hcheck : Loader.check elf with
  | error e => simp [hcheck, bind, Except.bind] at h
  | ok u =>
    simp only [hcheck, bind, Except.bind] at h
    split at h
    · obtain rfl := Except.ok.inj h
      exact ⟨rfl, rfl⟩
    · exact absurd h (by simp)

/-- The bytes of a list of segments, and 0 everywhere else. -/
def imageOf (ss : List Segment) : LittleEndian.ByteMemory 32 := fun a =>
  match ss.find? (·.Covers a) with
  | some s => s.bytes.getD (a.toNat - s.virtualAddress.toNat) 0
  | none => 0

theorem IsImage.read8_eq_imageOf {ss : List Segment} {m : SparseMemory} (h : IsImage ss m) :
    m.read8 = imageOf ss := by
  funext a
  unfold imageOf
  cases hfind : ss.find? (·.Covers a) with
  | none =>
    refine h.zero a fun s hs => ?_
    have hnone := List.find?_eq_none.mp hfind s hs
    simpa using hnone
  | some s =>
    have hcov : s.Covers a := by simpa using List.find?_some hfind
    have hlt : a.toNat - s.virtualAddress.toNat < s.bytes.length := by
      obtain ⟨hle, hlt⟩ := hcov
      omega
    have hfile := h.file s (List.mem_of_find?_eq_some hfind) _ hlt
    rw [← hcov.eq_add] at hfile
    change _ = s.bytes.getD _ 0
    rw [hfile, List.getD_eq_getElem?_getD, List.getElem?_eq_getElem hlt]
    rfl

/-- **The loader builds the image exactly when the spilled bytes are rewritten.** -/
theorem Loader.buildsImage_iff {elf : Elf} (hcheck : Loader.check elf = .ok ())
    (hdisj : (loadable elf.segments).Pairwise Segment.Disjoint)
    (hfit : ∀ s ∈ loadable elf.segments, s.Fits) (mtimeAddr mtimecmpAddr : BitVec 32) :
    Loader.BuildsImage elf mtimeAddr mtimecmpAddr ↔ SpillsRewritten (loadable elf.segments) := by
  constructor
  · intro h pre s post hsplit a hspill
    by_contra hnone
    -- with `c` after every buffer, the spilled byte is `c`; the image has one byte there
    have hbyte : ∀ c : BitVec 8, ∃ m : SparseMemory, IsImage (loadable elf.segments) m ∧
        m.read8 a = c := by
      intro c
      obtain ⟨r, hr, himage⟩ := h fun _ _ => c
      obtain ⟨r', hr', hread⟩ := Loader.exists_load hcheck hfit (fun _ _ => c) mtimeAddr mtimecmpAddr
      obtain rfl : r = r' := Except.ok.inj (hr.symm.trans hr')
      refine ⟨r.page, himage, ?_⟩
      have hnot : ¬ s.Covers a := fun hcov => absurd hspill.2.1 (not_le.mpr hcov.2)
      have hwrites : s.Writes a := Or.inr hspill
      rw [hread a, hsplit, imageByte_append, imageByte, if_pos hwrites,
        s.byteFrom_of_not_covers hwrites hnot]
      exact imageByte_of_not_covers (fun t ht hcov => hnone ⟨t, ht, hcov⟩) c
    obtain ⟨m₀, hm₀, hread₀⟩ := hbyte 0
    obtain ⟨m₁, hm₁, hread₁⟩ := hbyte 1
    have := hm₀.read8_eq hm₁ a
    rw [hread₀, hread₁] at this
    exact absurd this (by decide)
  · intro h rest
    obtain ⟨r, hr, hread⟩ := Loader.exists_load hcheck hfit rest mtimeAddr mtimecmpAddr
    exact ⟨r, hr, h.isImage hdisj hfit hread⟩

/-! ## Every order of the segments -/

omit [Platform] in
theorem Segment.spills_iff_of_fits {s : Segment} (hfit : s.Fits) :
    (∃ a, s.Spills a) ↔
      s.bytes ≠ [] ∧ (s.virtualAddress.toNat + s.bytes.length) % 4096 ≠ 0 := by
  unfold Segment.Fits at hfit
  constructor
  · rintro ⟨a, hne, hle, hlt⟩
    unfold blockEnd at hlt
    exact ⟨hne, by omega⟩
  · rintro ⟨hne, hmod⟩
    refine ⟨BitVec.ofNat 32 (s.virtualAddress.toNat + s.bytes.length), hne, ?_⟩
    unfold blockEnd
    rw [BitVec.toNat_ofNat, Nat.mod_eq_of_lt (by omega)]
    omega

omit [Platform] in
/-- Every order rewrites the spilled bytes only when there are none: the last segment of an order
has nothing after it. -/
theorem forall_perm_spillsRewritten_iff {ss : List Segment}
    (hfit : ∀ s ∈ loadable ss, s.Fits) :
    (∀ ts, ts.Perm ss → SpillsRewritten (loadable ts)) ↔
      ∀ s ∈ loadable ss, s.bytes ≠ [] →
        (s.virtualAddress.toNat + s.bytes.length) % 4096 = 0 := by
  constructor
  · intro h s hs hne
    by_contra hmod
    obtain ⟨a, ha⟩ := (Segment.spills_iff_of_fits (hfit s hs)).mpr ⟨hne, hmod⟩
    have hmem : s ∈ ss := (List.mem_filter.mp hs).1
    have htype := (List.mem_filter.mp hs).2
    obtain ⟨pre, post, rfl⟩ := List.append_of_mem hmem
    -- the order in which `s` comes last
    have hlast : loadable (pre ++ post ++ [s]) = loadable (pre ++ post) ++ [s] := by
      rw [loadable, List.filter_append]
      exact congrArg _ (List.filter_cons_of_pos htype)
    obtain ⟨t, ht, -⟩ := h (pre ++ post ++ [s]) (by
      rw [List.append_assoc]
      exact (List.perm_append_singleton s post).append_left pre) _ s [] hlast a ha
    exact absurd ht (List.not_mem_nil)
  · intro h ts hperm pre s post hsplit a ha
    have hs : s ∈ loadable ss := (hperm.filter _).subset (by rw [← loadable, hsplit]; simp)
    obtain ⟨hne, hmod⟩ := (Segment.spills_iff_of_fits (hfit s hs)).mp ⟨a, ha⟩
    exact absurd (h s hs hne) hmod

/-- **When the loader builds the program image.** For segments that are disjoint and do not wrap,
it does so in the order of the file exactly when each byte overwritten after the end of a segment
is a file byte of a later one, and in every order exactly when each segment ends at the end of a
page. -/
theorem Loader.load_isImage_iff {elf : Elf} (hcheck : Loader.check elf = .ok ())
    (hdisj : (loadable elf.segments).Pairwise Segment.Disjoint)
    (hfit : ∀ s ∈ loadable elf.segments, s.Fits) (mtimeAddr mtimecmpAddr : BitVec 32) :
    (Loader.BuildsImage elf mtimeAddr mtimecmpAddr ↔ SpillsRewritten (loadable elf.segments)) ∧
    ((∀ ts, ts.Perm elf.segments →
        Loader.BuildsImage { elf with segments := ts } mtimeAddr mtimecmpAddr) ↔
      ∀ s ∈ loadable elf.segments, s.bytes ≠ [] →
        (s.virtualAddress.toNat + s.bytes.length) % 4096 = 0) := by
  refine ⟨Loader.buildsImage_iff hcheck hdisj hfit mtimeAddr mtimecmpAddr, ?_⟩
  rw [← forall_perm_spillsRewritten_iff hfit]
  refine forall₂_congr fun ts hperm => ?_
  -- the hypotheses do not depend on the order
  have hload : (loadable ts).Perm (loadable elf.segments) := hperm.filter _
  have hcheck' : Loader.check { elf with segments := ts } = .ok () := by
    simpa only [Loader.check, hperm.length_eq] using hcheck
  refine Loader.buildsImage_iff hcheck' ?_ ?_ mtimeAddr mtimecmpAddr
  · exact hload.symm.pairwise hdisj fun h a ht hs => h a hs ht
  · exact fun s hs => hfit s (hload.subset hs)

end Load

/-- A file with one segment. -/
def Elf.single (va : BitVec 32) (bytes : List (BitVec 8)) : Elf :=
  { loads := true, elfClass := elfClass32, machine := emRiscv,
    segments := [⟨ptLoad, va, bytes⟩] }

/-- A segment of one byte at the start of a page is not loaded as the image: the byte after it is
read from behind the buffer. -/
theorem Loader.not_buildsImage_single :
    Loader.check (Elf.single 0x1000 [1]) = .ok () ∧
    (loadable (Elf.single 0x1000 [1]).segments).Pairwise Segment.Disjoint ∧
    (∀ s ∈ loadable (Elf.single 0x1000 [1]).segments, s.Fits) ∧
    ¬ @Loader.BuildsImage (Platform.always Op.empty) (Elf.single 0x1000 [1]) 0 0 := by
  let _ : Platform := Platform.always Op.empty
  have hdisj : (loadable (Elf.single 0x1000 [1]).segments).Pairwise Segment.Disjoint :=
    List.pairwise_singleton _ _
  have hfit : ∀ s ∈ loadable (Elf.single 0x1000 [1]).segments, s.Fits := by decide
  have hcheck : Loader.check (Elf.single 0x1000 [1]) = .ok () := rfl
  refine ⟨hcheck, hdisj, hfit, fun h => ?_⟩
  have hrewritten := (Loader.buildsImage_iff hcheck hdisj hfit 0 0).mp h
  obtain ⟨t, ht, -⟩ := hrewritten [] ⟨ptLoad, 0x1000, [1]⟩ [] rfl 0x1001 (by decide)
  exact absurd ht List.not_mem_nil

/-- A file with two segments, the last two bytes of a page. -/
def Elf.pair : Elf :=
  { loads := true, elfClass := elfClass32, machine := emRiscv,
    segments := [⟨ptLoad, 0xFFE, [6]⟩, ⟨ptLoad, 0xFFF, [7]⟩] }

/-- The second segment is what the first one overwrites. -/
theorem spillsRewritten_pair : SpillsRewritten (loadable Elf.pair.segments) := by
  intro pre s post hsplit a hspill
  have hsegments : [⟨ptLoad, 0xFFE, [6]⟩, ⟨ptLoad, 0xFFF, [7]⟩] = pre ++ s :: post := hsplit
  have hend : ∀ va : BitVec 32, va = 0xFFE ∨ va = 0xFFF → blockEnd va 1 = 0x1000 := by
    rintro va (rfl | rfl) <;> decide
  obtain ⟨-, hlow, hhigh⟩ := hspill
  rcases pre with _ | ⟨p, pre⟩
  · obtain ⟨rfl, rfl⟩ := List.cons_eq_cons.mp hsegments
    rw [List.length_singleton, hend _ (Or.inl rfl)] at hhigh
    exact ⟨_, List.mem_singleton_self _, hlow, hhigh⟩
  · have htail := (List.cons_eq_cons.mp hsegments).2
    rcases pre with _ | ⟨q, pre⟩
    · -- the second segment ends with the page
      obtain ⟨rfl, rfl⟩ := List.cons_eq_cons.mp htail
      rw [List.length_singleton, hend _ (Or.inr rfl)] at hhigh
      exact absurd (hlow.trans_lt hhigh) (lt_irrefl _)
    · exact absurd (List.cons_eq_cons.mp htail).2 (by simp)

/-- Two segments of one page are loaded as the image in this order, and not in every order. -/
theorem Loader.buildsImage_pair :
    let _ : Platform := Platform.always Op.empty
    Loader.BuildsImage Elf.pair 0 0 ∧
      ¬ ∀ ts, ts.Perm Elf.pair.segments →
        Loader.BuildsImage { Elf.pair with segments := ts } 0 0 := by
  intro _
  have hdisj : (loadable Elf.pair.segments).Pairwise Segment.Disjoint := by
    refine List.pairwise_pair.mpr fun a hfirst hsecond => ?_
    have hlt : a.toNat < 0xFFF := hfirst.2
    have hle : 0xFFF ≤ a.toNat := hsecond.1
    omega
  obtain ⟨horder, hall⟩ :=
    Loader.load_isImage_iff (show Loader.check Elf.pair = .ok () from rfl) hdisj (by decide) 0 0
  refine ⟨horder.mpr spillsRewritten_pair, fun h => ?_⟩
  exact absurd (hall.mp h ⟨ptLoad, 0xFFE, [6]⟩ (by decide) (by decide)) (by decide)

/-! ## The executable ranges -/

namespace Section

/-- The condition of the loop of `loader::progbit_ranges`. -/
def isExecutable (s : Section) : Bool :=
  s.type = shtProgbits ∧ s.flags.setWidth 64 &&& shfExecinstr ≠ 0 ∧ 0 < s.size.setWidth 64

/-- The range of a section, with its last address included, in 64-bit arithmetic. -/
def range (s : Section) : BitVec 64 × BitVec 64 :=
  (s.address.setWidth 64, s.address.setWidth 64 + s.size.setWidth 64 - 1)

/-- The addresses of an executable section. -/
def Executes (s : Section) (a : ℕ) : Prop :=
  (s.type = shtProgbits ∧ s.flags.setWidth 64 &&& shfExecinstr ≠ 0) ∧
    s.address.toNat ≤ a ∧ a < s.address.toNat + s.size.toNat

instance (s : Section) (a : ℕ) : Decidable (s.Executes a) := inferInstanceAs (Decidable (_ ∧ _))

theorem toNat_setWidth_64 (v : BitVec 32) : (v.setWidth 64).toNat = v.toNat := by
  have hv := v.isLt
  rw [BitVec.toNat_setWidth]
  omega

/-- The end of the range of a section that is not empty does not wrap. -/
theorem toNat_range_snd {s : Section} (h : 0 < s.size.toNat) :
    s.range.2.toNat = s.address.toNat + s.size.toNat - 1 := by
  have haddr := s.address.isLt
  have hsize := s.size.isLt
  have hsum : (s.address.setWidth 64 + s.size.setWidth 64).toNat =
      s.address.toNat + s.size.toNat := by
    rw [BitVec.toNat_add, toNat_setWidth_64, toNat_setWidth_64, Nat.mod_eq_of_lt]
    omega
  have hle : 1#64 ≤ s.address.setWidth 64 + s.size.setWidth 64 := by
    rw [BitVec.le_def, hsum]
    change 1 ≤ _
    omega
  change (s.address.setWidth 64 + s.size.setWidth 64 - 1#64).toNat = _
  rw [BitVec.toNat_sub_of_le hle, hsum]
  rfl

/-- The addresses of the range of an executable section are its own. -/
theorem executes_iff (s : Section) (a : BitVec 64) :
    s.isExecutable = true ∧ s.range.1 ≤ a ∧ a ≤ s.range.2 ↔ s.Executes a.toNat := by
  have hstart : s.range.1.toNat = s.address.toNat := toNat_setWidth_64 _
  have hpos : 0 < s.size.setWidth 64 ↔ 0 < s.size.toNat := by
    rw [BitVec.lt_def, toNat_setWidth_64]
    rfl
  rw [isExecutable, decide_eq_true_iff, hpos, Executes, BitVec.le_def, BitVec.le_def, hstart]
  constructor
  · rintro ⟨⟨htype, hflags, hne⟩, hle, hge⟩
    rw [toNat_range_snd hne] at hge
    exact ⟨⟨htype, hflags⟩, hle, by omega⟩
  · rintro ⟨⟨htype, hflags⟩, hle, hlt⟩
    -- a section with an address in it is not empty
    have hne : 0 < s.size.toNat := by omega
    rw [toNat_range_snd hne]
    exact ⟨⟨htype, hflags, hne⟩, hle, by omega⟩

end Section

namespace Loader

/-- `loader::progbit_ranges`. -/
def progbitRanges : List Section → List (BitVec 64 × BitVec 64)
  | [] => []
  | s :: ss => if s.isExecutable then s.range :: progbitRanges ss else progbitRanges ss

/-- **The ranges cover the executable sections**, and nothing else. -/
theorem exists_progbitRange_iff (sections : List Section) (a : BitVec 64) :
    (∃ r ∈ progbitRanges sections, r.1 ≤ a ∧ a ≤ r.2) ↔ ∃ s ∈ sections, s.Executes a.toNat := by
  induction sections with
  | nil => simp [progbitRanges]
  | cons s ss ih =>
    rw [progbitRanges, List.exists_mem_cons_iff, ← s.executes_iff, ← ih]
    by_cases hexec : s.isExecutable = true
    · simp [hexec]
    · simp [hexec]

end Loader

/-! ## The symbols -/

/-- What `ELFIO` hands to the loader: the file with its sections, its entry point and the values
of its symbols. -/
structure ElfFile extends Elf where
  sections : List Section
  entry : BitVec 32
  getSymbol : String → Option (BitVec 64)

/-- `loader::symbol`. -/
def ElfFile.symbol (file : ElfFile) (str : String) : Except LoaderError (BitVec 32) :=
  match file.getSymbol str with
  | some value => .ok (value.setWidth 32)
  | none => .error (.message s!"unable to find '{str}' symbol in the ELF file")

end Riscv32Sim
