import Riscv32Sim.Memory.Router

/-!
# The timer windows

The byte accesses of `address_router` choose between the two timer registers and the page map by
range tests in 32-bit arithmetic, and index the registers with `std::array::at`. No index is out of
bounds, and the bytes form one memory wherever the windows lie. A window at the top of the address
space is not mapped at all: its end wraps to zero.

The timer thread increments the first byte of `mtime`, which does not carry into the others.

## Main definitions

* `AddressRouter.read8Checked`, `write8Checked`: the byte accesses, with `std::array::at`
* `AddressRouter.Place`: what a byte access reaches
* `AddressRouter.Mapped`: the windows as they are meant
* `AddressRouter.runner`: the loop of the timer thread

## Main results

* `AddressRouter.bytes_form_memory`: the byte accesses never throw and obey the memory law
* `AddressRouter.mapped_iff`: when the windows are mapped as they are meant
* `AddressRouter.mtime_counts_iff`: when `mtime` counts as one register
-/

namespace Riscv32Sim

open LittleEndian

namespace AddressRouter

/-! ## Checked byte accesses -/

section Checked

/-- `v.at(i).load()`. -/
def loadAt (v : Vector (BitVec 8) 8) (i : BitVec 32) : Except Error (BitVec 8) :=
  if h : i.toNat < 8 then .ok v[i.toNat] else .error .outOfRange

/-- `v.at(i).store(b)`. -/
def storeAt (v : Vector (BitVec 8) 8) (i : BitVec 32) (b : BitVec 8) :
    Except Error (Vector (BitVec 8) 8) :=
  if h : i.toNat < 8 then .ok (v.set i.toNat b) else .error .outOfRange

variable [Platform]

/-- `address_router::read8`, with the bounds checks of `at`. -/
def read8Checked (r : AddressRouter) (off : BitVec 32) : Except Error (BitVec 8) :=
  if InWindow r.mtimeAddr off then loadAt r.mtime (off - r.mtimeAddr)
  else if InWindow r.mtimecmpAddr off then loadAt r.mtimecmp (off - r.mtimecmpAddr)
  else .ok (r.page.read8 off)

/-- `address_router::write8`, with the bounds checks of `at`. -/
def write8Checked (r : AddressRouter) (off : BitVec 32) (b : BitVec 8) :
    Except Error AddressRouter :=
  if InWindow r.mtimeAddr off then do
    let mtime ← storeAt r.mtime (off - r.mtimeAddr) b
    return { r with mtime := mtime }
  else if InWindow r.mtimecmpAddr off then do
    let mtimecmp ← storeAt r.mtimecmp (off - r.mtimecmpAddr) b
    return { r with mtimecmp := mtimecmp }
  else return { r with page := r.page.write8 off b }

omit [Platform] in
theorem loadAt_of_inWindow (v : Vector (BitVec 8) 8) {base off : BitVec 32} (h : InWindow base off) :
    loadAt v (off - base) = .ok (timerByte v h) :=
  dif_pos h.sub_lt

omit [Platform] in
theorem storeAt_of_inWindow (v : Vector (BitVec 8) 8) {base off : BitVec 32} (h : InWindow base off)
    (b : BitVec 8) : storeAt v (off - base) b = .ok (setTimerByte v h b) :=
  dif_pos h.sub_lt

/-- A byte read does not throw. -/
theorem read8Checked_eq (r : AddressRouter) (off : BitVec 32) :
    r.read8Checked off = .ok (r.read8 off) := by
  unfold read8Checked read8
  by_cases h₁ : InWindow r.mtimeAddr off
  · rw [if_pos h₁, dif_pos h₁, loadAt_of_inWindow _ h₁]
  · rw [if_neg h₁, dif_neg h₁]
    by_cases h₂ : InWindow r.mtimecmpAddr off
    · rw [if_pos h₂, dif_pos h₂, loadAt_of_inWindow _ h₂]
    · rw [if_neg h₂, dif_neg h₂]

/-- A byte write does not throw. -/
theorem write8Checked_eq (r : AddressRouter) (off : BitVec 32) (b : BitVec 8) :
    r.write8Checked off b = .ok (r.write8 off b) := by
  unfold write8Checked write8
  by_cases h₁ : InWindow r.mtimeAddr off
  · rw [if_pos h₁, dif_pos h₁, storeAt_of_inWindow _ h₁]
    rfl
  · rw [if_neg h₁, dif_neg h₁]
    by_cases h₂ : InWindow r.mtimecmpAddr off
    · rw [if_pos h₂, dif_pos h₂, storeAt_of_inWindow _ h₂]
      rfl
    · rw [if_neg h₂, dif_neg h₂]
      rfl

/-- A sequence of byte writes. -/
def writeBytes (r : AddressRouter) (writes : List (BitVec 32 × BitVec 8)) :
    Except Error AddressRouter :=
  writes.foldlM (fun r w => r.write8Checked w.1 w.2) r

/-- No write of a sequence throws. -/
theorem writeBytes_eq (r : AddressRouter) (writes : List (BitVec 32 × BitVec 8)) :
    r.writeBytes writes = .ok (writes.foldl (fun r w => r.write8 w.1 w.2) r) := by
  rw [writeBytes]
  simp only [write8Checked_eq]
  exact List.foldlM_pure

/-- The windows stay where they are. -/
theorem write8_addrs (r : AddressRouter) (off : BitVec 32) (b : BitVec 8) :
    (r.write8 off b).mtimeAddr = r.mtimeAddr ∧ (r.write8 off b).mtimecmpAddr = r.mtimecmpAddr := by
  unfold write8
  split_ifs <;> exact ⟨rfl, rfl⟩

theorem foldl_write8_addrs (r : AddressRouter) (writes : List (BitVec 32 × BitVec 8)) :
    (writes.foldl (fun r w => r.write8 w.1 w.2) r).mtimeAddr = r.mtimeAddr ∧
      (writes.foldl (fun r w => r.write8 w.1 w.2) r).mtimecmpAddr = r.mtimecmpAddr := by
  induction writes generalizing r with
  | nil => exact ⟨rfl, rfl⟩
  | cons w writes ih =>
    obtain ⟨hmtime, hmtimecmp⟩ := r.write8_addrs w.1 w.2
    rw [← hmtime, ← hmtimecmp]
    exact ih _

/-- The bytes after a sequence of writes are those of a flat memory. -/
theorem read8_foldl_write8 (r : AddressRouter) (writes : List (BitVec 32 × BitVec 8)) :
    (writes.foldl (fun r w => r.write8 w.1 w.2) r).read8 =
      writes.foldl (fun m w => store m w.1 1 w.2) r.read8 := by
  symm
  apply List.foldl_hom
  exact fun r w => (r.read8_write8_eq_store w.1 w.2).symm

/-- **The byte accesses never throw and obey the memory law**, wherever the windows lie and
whatever the registers hold at first: after any sequence of writes the bytes are those of a flat
memory, and a further write changes the byte it addresses and no other. -/
theorem bytes_form_memory (r₀ : AddressRouter) (writes : List (BitVec 32 × BitVec 8)) :
    ∃ r, r₀.writeBytes writes = .ok r ∧
      (r.mtimeAddr = r₀.mtimeAddr ∧ r.mtimecmpAddr = r₀.mtimecmpAddr) ∧
      (∀ x, r.read8Checked x = .ok (writes.foldl (fun m w => store m w.1 1 w.2) r₀.read8 x)) ∧
      ∀ a b, ∃ r', r.write8Checked a b = .ok r' ∧
        ∀ x, ∃ former, r.read8Checked x = .ok former ∧
          r'.read8Checked x = .ok (if x = a then b else former) := by
  refine ⟨_, r₀.writeBytes_eq writes, r₀.foldl_write8_addrs writes, fun x => ?_, fun a b => ?_⟩
  · rw [read8Checked_eq, read8_foldl_write8]
  · refine ⟨_, write8Checked_eq _ a b, fun x => ⟨_, read8Checked_eq _ x, ?_⟩⟩
    rw [read8Checked_eq, read8_write8]

end Checked

/-! ## The windows -/

section Place

/-- What a byte access reaches: a byte of a timer register, or the page map. -/
inductive Place
  | mtime (i : Fin 8)
  | mtimecmp (i : Fin 8)
  | page
  deriving DecidableEq, Repr

variable [Platform]

/-- The byte at a place; in the page map it is the one at the address. -/
def Place.load (r : AddressRouter) (a : BitVec 32) : Place → BitVec 8
  | .mtime i => r.mtime.get i
  | .mtimecmp i => r.mtimecmp.get i
  | .page => r.page.read8 a

/-- The router after a byte is stored at a place. -/
def Place.store (r : AddressRouter) (a : BitVec 32) (b : BitVec 8) : Place → AddressRouter
  | .mtime i => { r with mtime := r.mtime.set i.val b i.isLt }
  | .mtimecmp i => { r with mtimecmp := r.mtimecmp.set i.val b i.isLt }
  | .page => { r with page := r.page.write8 a b }

/-- With the windows at these addresses, the byte accesses at `a` reach `p`, whatever the router
holds. -/
def Reaches (mtimeAddr mtimecmpAddr a : BitVec 32) (p : Place) : Prop :=
  ∀ r : AddressRouter, r.mtimeAddr = mtimeAddr → r.mtimecmpAddr = mtimecmpAddr →
    r.read8 a = p.load r a ∧ ∀ b, r.write8 a b = p.store r a b

omit [Platform] in
/-- The eight addresses from `base`, in the integers. -/
def InSpan (base a : BitVec 32) : Prop := base.toNat ≤ a.toNat ∧ a.toNat ≤ base.toNat + 7

instance (base a : BitVec 32) : Decidable (InSpan base a) := inferInstanceAs (Decidable (_ ∧ _))

/-- The windows as they are meant: each maps its eight addresses to the bytes of its register, in
the integers, and every other address belongs to the page map. -/
structure Mapped (mtimeAddr mtimecmpAddr a : BitVec 32) : Prop where
  mtime (i : Fin 8) :
    Reaches mtimeAddr mtimecmpAddr a (.mtime i) ↔ a.toNat = mtimeAddr.toNat + i
  mtimecmp (i : Fin 8) :
    Reaches mtimeAddr mtimecmpAddr a (.mtimecmp i) ↔ a.toNat = mtimecmpAddr.toNat + i
  page : Reaches mtimeAddr mtimecmpAddr a .page ↔
    ¬ InSpan mtimeAddr a ∧ ¬ InSpan mtimecmpAddr a

omit [Platform] in
/-- The place the source selects, by its two range tests. -/
def place (mtimeAddr mtimecmpAddr a : BitVec 32) : Place :=
  if h : InWindow mtimeAddr a then .mtime ⟨(a - mtimeAddr).toNat, h.sub_lt⟩
  else if h : InWindow mtimecmpAddr a then .mtimecmp ⟨(a - mtimecmpAddr).toNat, h.sub_lt⟩
  else .page

/-- The read and the write select the same place. -/
theorem reaches_place (mtimeAddr mtimecmpAddr a : BitVec 32) :
    Reaches mtimeAddr mtimecmpAddr a (place mtimeAddr mtimecmpAddr a) := by
  rintro r rfl rfl
  unfold place read8 write8
  split_ifs with h₁ h₂
  · exact ⟨rfl, fun b => rfl⟩
  · exact ⟨rfl, fun b => rfl⟩
  · exact ⟨rfl, fun b => rfl⟩

omit [Platform] in
theorem get_set (v : Vector (BitVec 8) 8) (i j : Fin 8) (b : BitVec 8) :
    (v.set i.val b i.isLt).get j = if j = i then b else v.get j := by
  split_ifs with h
  · subst h
    exact Vector.getElem_set_self j.isLt
  · exact Vector.getElem_set_ne i.isLt j.isLt fun hval => h (Fin.ext hval.symm)

/-- A store changes the place it addresses and no other. -/
theorem Place.load_store (r : AddressRouter) (a : BitVec 32) (b : BitVec 8) (p q : Place) :
    q.load (p.store r a b) a = if q = p then b else q.load r a := by
  cases p with
  | mtime i =>
    cases q with
    | mtime j =>
      simp only [Place.mtime.injEq]
      exact get_set r.mtime i j b
    | mtimecmp j => rfl
    | page => rfl
  | mtimecmp i =>
    cases q with
    | mtime j => rfl
    | mtimecmp j =>
      simp only [Place.mtimecmp.injEq]
      exact get_set r.mtimecmp i j b
    | page => rfl
  | page =>
    cases q with
    | mtime j => rfl
    | mtimecmp j => rfl
    | page =>
      rw [if_pos rfl]
      exact (r.page.read8_write8 a a b).trans (if_pos rfl)

theorem Place.load_init (mtimeAddr mtimecmpAddr a : BitVec 32) (p : Place) :
    p.load (init .empty mtimeAddr mtimecmpAddr) a = 0 := by
  cases p with
  | mtime i => exact Vector.getElem_replicate ..
  | mtimecmp i => exact Vector.getElem_replicate ..
  | page => rfl

/-- Two places are told apart by a store into a fresh router. -/
theorem Place.store_injective {mtimeAddr mtimecmpAddr a : BitVec 32} {p q : Place}
    (h : p.store (init .empty mtimeAddr mtimecmpAddr) a 1 =
      q.store (init .empty mtimeAddr mtimecmpAddr) a 1) : p = q := by
  by_contra hne
  have hload := congrArg (fun r => p.load r a) h
  simp only [Place.load_store, if_pos, if_neg hne, Place.load_init] at hload
  exact absurd hload (by decide)

theorem reaches_iff (mtimeAddr mtimecmpAddr a : BitVec 32) (p : Place) :
    Reaches mtimeAddr mtimecmpAddr a p ↔ place mtimeAddr mtimecmpAddr a = p := by
  constructor
  · intro h
    have hp := (h (init .empty mtimeAddr mtimecmpAddr) rfl rfl).2 1
    have hplace := (reaches_place mtimeAddr mtimecmpAddr a (init .empty _ _) rfl rfl).2 1
    exact Place.store_injective (hplace.symm.trans hp)
  · rintro rfl
    exact reaches_place _ _ _

section Meant

omit [Platform]

variable {mtimeAddr mtimecmpAddr a : BitVec 32}

theorem InSpan.sub_lt {base : BitVec 32} (h : InSpan base a) : a.toNat - base.toNat < 8 := by
  obtain ⟨-, hend⟩ := h
  omega

/-- The place that is meant, by range tests in the integers. -/
def meant (mtimeAddr mtimecmpAddr a : BitVec 32) : Place :=
  if h : InSpan mtimeAddr a then .mtime ⟨a.toNat - mtimeAddr.toNat, h.sub_lt⟩
  else if h : InSpan mtimecmpAddr a then .mtimecmp ⟨a.toNat - mtimecmpAddr.toNat, h.sub_lt⟩
  else .page

theorem inSpan_of_eq {base : BitVec 32} {i : Fin 8} (h : a.toNat = base.toNat + i) :
    InSpan base a := by
  have hi := i.isLt
  constructor <;> omega

theorem InSpan.sub_eq_iff {base : BitVec 32} (h : InSpan base a) (i : Fin 8) :
    (⟨a.toNat - base.toNat, h.sub_lt⟩ : Fin 8) = i ↔ a.toNat = base.toNat + i := by
  have hle := h.1
  rw [Fin.ext_iff]
  change a.toNat - base.toNat = i.val ↔ _
  omega

theorem meant_eq_mtime_iff (i : Fin 8) :
    meant mtimeAddr mtimecmpAddr a = .mtime i ↔ a.toNat = mtimeAddr.toNat + i := by
  by_cases h : InSpan mtimeAddr a
  · rw [meant, dif_pos h, Place.mtime.injEq, h.sub_eq_iff]
  · refine iff_of_false ?_ (mt inSpan_of_eq h)
    rw [meant, dif_neg h]
    split_ifs <;> exact not_false

theorem meant_eq_mtimecmp_iff (i : Fin 8)
    (hdisj : mtimeAddr.toNat + 7 < mtimecmpAddr.toNat ∨ mtimecmpAddr.toNat + 7 < mtimeAddr.toNat) :
    meant mtimeAddr mtimecmpAddr a = .mtimecmp i ↔ a.toNat = mtimecmpAddr.toNat + i := by
  by_cases h : InSpan mtimecmpAddr a
  · have hnot : ¬ InSpan mtimeAddr a := by
      rintro ⟨hle, hend⟩
      obtain ⟨hle', hend'⟩ := h
      omega
    rw [meant, dif_neg hnot, dif_pos h, Place.mtimecmp.injEq, h.sub_eq_iff]
  · refine iff_of_false ?_ (mt inSpan_of_eq h)
    rw [meant, dif_neg h]
    split_ifs <;> exact not_false

theorem meant_eq_page_iff :
    meant mtimeAddr mtimecmpAddr a = .page ↔ ¬ InSpan mtimeAddr a ∧ ¬ InSpan mtimecmpAddr a := by
  unfold meant
  split_ifs with h₁ h₂
  · simp [h₁]
  · simp [h₂]
  · simp [h₁, h₂]

/-- The range test of the source, in the integers: at the top of the address space the end of the
window wraps to zero, and no address passes. -/
theorem inWindow_iff {base : BitVec 32} (h : base ≤ 0xFFFFFFF8) :
    InWindow base a ↔ base ≠ 0xFFFFFFF8 ∧ InSpan base a := by
  have hbase : base.toNat ≤ 0xFFFFFFF8 := h
  have htop : base ≠ 0xFFFFFFF8 ↔ base.toNat ≠ 0xFFFFFFF8 := BitVec.toNat_ne_iff_ne.symm
  have ha := a.isLt
  rw [InWindow, InSpan, BitVec.le_def, BitVec.lt_def, BitVec.toNat_add, htop]
  change base.toNat ≤ a.toNat ∧ a.toNat < (base.toNat + 8) % 2 ^ 32 ↔ _
  omega

/-- Below the top of the address space the test is that of the integers. -/
theorem inWindow_iff_of_not_top {base : BitVec 32} (h : base ≤ 0xFFFFFFF8)
    (htop : ¬ (0xFFFFFFF8 ≤ a ∧ base = 0xFFFFFFF8)) :
    InWindow base a ↔ InSpan base a := by
  rw [inWindow_iff h, and_iff_right_iff_imp]
  rintro hin rfl
  exact htop ⟨hin.1, rfl⟩

theorem place_eq_meant (hmtime : mtimeAddr ≤ 0xFFFFFFF8) (hmtimecmp : mtimecmpAddr ≤ 0xFFFFFFF8)
    (htop : ¬ (0xFFFFFFF8 ≤ a ∧ (mtimeAddr = 0xFFFFFFF8 ∨ mtimecmpAddr = 0xFFFFFFF8))) :
    place mtimeAddr mtimecmpAddr a = meant mtimeAddr mtimecmpAddr a := by
  rw [and_or_left, not_or] at htop
  have hwin := inWindow_iff_of_not_top hmtime htop.1
  have hwin' := inWindow_iff_of_not_top hmtimecmp htop.2
  unfold place meant
  by_cases hin : InSpan mtimeAddr a
  · rw [dif_pos (hwin.mpr hin), dif_pos hin]
    simp only [BitVec.toNat_sub_of_le (BitVec.le_def.mpr hin.1)]
  · rw [dif_neg (mt hwin.mp hin), dif_neg hin]
    by_cases hin' : InSpan mtimecmpAddr a
    · rw [dif_pos (hwin'.mpr hin'), dif_pos hin']
      simp only [BitVec.toNat_sub_of_le (BitVec.le_def.mpr hin'.1)]
    · rw [dif_neg (mt hwin'.mp hin'), dif_neg hin']

/-- In a window at the top of the address space the source selects the page map. -/
theorem place_ne_meant (hmtime : mtimeAddr ≤ 0xFFFFFFF8) (hmtimecmp : mtimecmpAddr ≤ 0xFFFFFFF8)
    (hdisj : mtimeAddr.toNat + 7 < mtimecmpAddr.toNat ∨ mtimecmpAddr.toNat + 7 < mtimeAddr.toNat)
    (ha : 0xFFFFFFF8 ≤ a) (htop : mtimeAddr = 0xFFFFFFF8 ∨ mtimecmpAddr = 0xFFFFFFF8) :
    place mtimeAddr mtimecmpAddr a ≠ meant mtimeAddr mtimecmpAddr a := by
  have hlow : 0xFFFFFFF8 ≤ a.toNat := ha
  have hhigh := a.isLt
  have hpage : place mtimeAddr mtimecmpAddr a = .page := by
    rw [place, dif_neg, dif_neg]
    · rw [inWindow_iff hmtimecmp]
      rintro ⟨hne, -, hend⟩
      obtain rfl := htop.resolve_right hne
      change 0xFFFFFFF8 + 7 < _ ∨ _ < 0xFFFFFFF8 at hdisj
      omega
    · rw [inWindow_iff hmtime]
      rintro ⟨hne, -, hend⟩
      obtain rfl := htop.resolve_left hne
      change _ < 0xFFFFFFF8 ∨ 0xFFFFFFF8 + 7 < _ at hdisj
      omega
  rw [hpage, ne_comm, Ne, meant_eq_page_iff, not_and_or, not_not, not_not]
  have hend : a.toNat ≤ 0xFFFFFFF8 + 7 := by omega
  rcases htop with rfl | rfl
  · exact Or.inl ⟨hlow, hend⟩
  · exact Or.inr ⟨hlow, hend⟩

end Meant

/-- The windows are mapped as they are meant when the source selects the place that is meant. -/
theorem mapped_iff_place_eq {mtimeAddr mtimecmpAddr a : BitVec 32}
    (hdisj : mtimeAddr.toNat + 7 < mtimecmpAddr.toNat ∨ mtimecmpAddr.toNat + 7 < mtimeAddr.toNat) :
    Mapped mtimeAddr mtimecmpAddr a ↔
      place mtimeAddr mtimecmpAddr a = meant mtimeAddr mtimecmpAddr a := by
  constructor
  · rintro ⟨hm, hc, hp⟩
    cases h : meant mtimeAddr mtimecmpAddr a with
    | mtime i => exact (reaches_iff ..).mp ((hm i).mpr ((meant_eq_mtime_iff i).mp h))
    | mtimecmp i => exact (reaches_iff ..).mp ((hc i).mpr ((meant_eq_mtimecmp_iff i hdisj).mp h))
    | page => exact (reaches_iff ..).mp (hp.mpr (meant_eq_page_iff.mp h))
  · intro h
    refine ⟨fun i => ?_, fun i => ?_, ?_⟩
    · rw [reaches_iff, h, meant_eq_mtime_iff]
    · rw [reaches_iff, h, meant_eq_mtimecmp_iff i hdisj]
    · rw [reaches_iff, h, meant_eq_page_iff]

/-- **When the windows are mapped as they are meant**: unless the address lies in a window at the
top of the address space. -/
theorem mapped_iff {mtimeAddr mtimecmpAddr a : BitVec 32} (hmtime : mtimeAddr ≤ 0xFFFFFFF8)
    (hmtimecmp : mtimecmpAddr ≤ 0xFFFFFFF8)
    (hdisj : mtimeAddr.toNat + 7 < mtimecmpAddr.toNat ∨ mtimecmpAddr.toNat + 7 < mtimeAddr.toNat) :
    Mapped mtimeAddr mtimecmpAddr a ↔
      ¬ (0xFFFFFFF8 ≤ a ∧ (mtimeAddr = 0xFFFFFFF8 ∨ mtimecmpAddr = 0xFFFFFFF8)) := by
  rw [mapped_iff_place_eq hdisj]
  constructor
  · rintro h ⟨ha, htop⟩
    exact place_ne_meant hmtime hmtimecmp hdisj ha htop h
  · exact place_eq_meant hmtime hmtimecmp

end Place

/-- With the windows at 0x200BFF8 and 0x2004000, the third byte of `mtime` is at 0x200BFFA. -/
theorem mapped_low :
    @Mapped (Platform.always Op.empty) 0x200BFF8 0x2004000 0x200BFFA :=
  let _ : Platform := Platform.always Op.empty
  (mapped_iff (by decide) (by decide) (by decide)).mpr (by decide)

/-- A window at 0xFFFFFFF8 is meant to hold the last eight addresses, and holds none of them: a
byte written at 0xFFFFFFF8 goes to the page map. -/
theorem not_mapped_top :
    let _ : Platform := Platform.always Op.empty
    Reaches 0xFFFFFFF8 0 0xFFFFFFF8 .page ∧ ¬ Mapped 0xFFFFFFF8 0 0xFFFFFFF8 := by
  intro _
  have hpage : Reaches 0xFFFFFFF8 0 0xFFFFFFF8 .page := (reaches_iff ..).mpr (by decide)
  exact ⟨hpage, fun h => (h.page.mp hpage).1 (by decide)⟩

/-! ## The timer thread -/

section Runner

/-- `runner`: the loop of the timer thread, over its readings of `is_exiting || pending_interrupt`.
The thread then sleeps until the next reading. -/
def runner : List Bool → AddressRouter → AddressRouter
  | [], r => r
  | stop :: stops, r => if stop then r else runner stops r.tick

/-- The loop makes one increment for each reading before the first that stops it. -/
theorem runner_eq_iterate (stops : List Bool) (r : AddressRouter) :
    runner stops r = tick^[(stops.takeWhile fun stop => !stop).length] r := by
  induction stops generalizing r with
  | nil => rfl
  | cons stop stops ih =>
    cases stop with
    | false => exact ih r.tick
    | true => rfl

/-- The value of `mtime`. -/
def mtimeValue (r : AddressRouter) : ℕ := (timerValue r.mtime).toNat

/-- The bytes of a register, as a memory of its own. -/
def timerBytes (v : Vector (BitVec 8) 8) : ByteMemory 3 := fun i => v.get i.toFin

/-- The value of a register, from its first byte and the others. -/
theorem toNat_timerValue (v : Vector (BitVec 8) 8) :
    (timerValue v).toNat = (load (timerBytes v) 1#3 7).toNat * 256 + (v.get 0).toNat :=
  toNat_load_succ (timerBytes v) 0 7

/-- The bytes from the second on do not depend on the first. -/
theorem load_timerBytes_set (v : Vector (BitVec 8) 8) (b : BitVec 8) :
    load (timerBytes (v.set 0 b (by decide))) 1#3 7 = load (timerBytes v) 1#3 7 := by
  rw [load_eq_load_iff]
  intro i hi
  have hpos : (1#3 + BitVec.ofNat 3 i).toNat ≠ 0 := by
    rw [BitVec.toNat_add, BitVec.toNat_ofNat]
    change (1 + i % 2 ^ 3) % 2 ^ 3 ≠ 0
    omega
  exact Vector.getElem_set_ne _ _ hpos.symm

/-- An increment of `mtime` stays in its first byte. -/
theorem mtimeValue_tick (r : AddressRouter) :
    r.tick.mtimeValue = r.mtimeValue / 256 * 256 + (r.mtimeValue + 1) % 256 := by
  have hbyte := (r.mtime.get 0).isLt
  have hfirst : r.tick.mtime.get 0 = r.mtime.get 0 + 1 := Vector.getElem_set_self (by decide)
  have hrest : load (timerBytes r.tick.mtime) 1#3 7 = load (timerBytes r.mtime) 1#3 7 :=
    load_timerBytes_set ..
  rw [mtimeValue, mtimeValue, toNat_timerValue, toNat_timerValue, hrest, hfirst,
    BitVec.toNat_add]
  change _ * 256 + (_ + 1) % 2 ^ 8 = _
  omega

/-- **The value of `mtime` after `k` iterations**: its first byte counts modulo 256. -/
theorem mtimeValue_tick_iterate (r : AddressRouter) (k : ℕ) :
    (tick^[k] r).mtimeValue = r.mtimeValue / 256 * 256 + (r.mtimeValue + k) % 256 := by
  induction k with
  | zero => exact (Nat.div_add_mod' _ _).symm
  | succ k ih =>
    rw [Function.iterate_succ_apply', mtimeValue_tick, ih]
    omega

/-- Over its first `k` iterations the thread counts a 64-bit register: after each of them the value
is that of a 64-bit counter, and it grows until that wraps. -/
structure Counts (r : AddressRouter) (k : ℕ) : Prop where
  value : ∀ j ≤ k, (tick^[j] r).mtimeValue = (r.mtimeValue + j) % 2 ^ 64
  increasing : ∀ i j, i < j → j ≤ k → r.mtimeValue + j < 2 ^ 64 →
    (tick^[i] r).mtimeValue < (tick^[j] r).mtimeValue

theorem mtimeValue_tick_iterate_eq_iff (r : AddressRouter) (k : ℕ) :
    (tick^[k] r).mtimeValue = (r.mtimeValue + k) % 2 ^ 64 ↔
      (r.mtimeValue % 256 + k) % 2 ^ 64 < 256 := by
  have hlt : r.mtimeValue < 2 ^ 64 := (timerValue r.mtime).isLt
  rw [mtimeValue_tick_iterate]
  omega

theorem counts_iff (r : AddressRouter) (k : ℕ) :
    r.Counts k ↔ r.mtimeValue % 256 + k < 256 := by
  have hlt : r.mtimeValue < 2 ^ 64 := (timerValue r.mtime).isLt
  constructor
  · intro h
    by_contra hcarry
    -- the iteration that carries out of the first byte
    have hvalue := h.value (256 - r.mtimeValue % 256) (by omega)
    rw [mtimeValue_tick_iterate_eq_iff] at hvalue
    omega
  · intro hlow
    refine ⟨fun j hj => ?_, fun i j hij hj hwrap => ?_⟩
    · rw [mtimeValue_tick_iterate_eq_iff]
      omega
    · rw [mtimeValue_tick_iterate, mtimeValue_tick_iterate]
      omega

/-- **When `mtime` counts as one register**: exactly as long as its first byte does not carry; after
`k` iterations alone the value is also right when the lost carries have gone all the way round. -/
theorem mtime_counts_iff (r : AddressRouter) (k : ℕ) :
    (r.Counts k ↔ r.mtimeValue % 256 + k < 256) ∧
    ((tick^[k] r).mtimeValue = (r.mtimeValue + k) % 2 ^ 64 ↔
      (r.mtimeValue % 256 + k) % 2 ^ 64 < 256) :=
  ⟨counts_iff r k, mtimeValue_tick_iterate_eq_iff r k⟩

/-- From zero, the value is zero again after 256 iterations. -/
theorem mtime_carry_lost :
    (init SparseMemory.empty 0 0).mtimeValue = 0 ∧
      (tick^[256] (init SparseMemory.empty 0 0)).mtimeValue = 0 ∧
      ¬ (init SparseMemory.empty 0 0).Counts 256 := by
  have hzero : (init SparseMemory.empty 0 0).mtimeValue = 0 := by decide
  refine ⟨hzero, ?_, ?_⟩
  · rw [mtimeValue_tick_iterate, hzero]
  · rw [counts_iff, hzero]
    omega

end Runner

end AddressRouter

end Riscv32Sim
