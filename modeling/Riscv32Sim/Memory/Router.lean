import Riscv32Sim.Memory.Flat

/-!
# The address router

`address_router` puts the two 64-bit timer registers over the page map. It overrides the byte
accesses only. The wide accesses are inherited from `sparse_memory_accessor<address_router>`,
whose bodies name the byte accesses of that class, so a wide access goes to the page map whether
or not its bytes lie in a timer window.

## Main definitions

* `AddressRouter`: the page map, the windows and the timer registers
* `AddressRouter.Routed`: the addresses the byte accesses send to a timer register
* `AddressRouter.SeesOneMemory`: an access of a width agrees with the byte accesses

## Main results

* `AddressRouter.read8_write8`: byte accesses obey the memory law in every configuration
* `AddressRouter.seesOneMemory_iff`: a wide access agrees with the byte accesses exactly when
  it touches no routed address
-/

namespace Riscv32Sim

open LittleEndian

/-- `class address_router`. The timer registers are arrays of eight atomic bytes. -/
structure AddressRouter where
  page : SparseMemory
  mtimeAddr : BitVec 32
  mtimecmpAddr : BitVec 32
  mtimecmp : Vector (BitVec 8) 8
  mtime : Vector (BitVec 8) 8

/-- `off >= base && off < base + 8`, in 32-bit arithmetic. -/
def InWindow (base off : BitVec 32) : Prop := base ≤ off ∧ off < base + 8

instance (base off : BitVec 32) : Decidable (InWindow base off) :=
  inferInstanceAs (Decidable (_ ∧ _))

/-- The index into a timer register is in bounds, so that `at` does not throw. -/
theorem InWindow.sub_lt {base off : BitVec 32} (h : InWindow base off) :
    (off - base).toNat < 8 := by
  obtain ⟨hle, hlt⟩ := h
  rw [BitVec.le_def] at hle
  rw [BitVec.lt_def, BitVec.toNat_add] at hlt
  have hbase := base.isLt
  have hoff := off.isLt
  rw [BitVec.toNat_sub_of_le hle]
  change off.toNat < (base.toNat + 8) % 2 ^ 32 at hlt
  omega

/-- The byte of a timer register at an address of its window. -/
def timerByte (v : Vector (BitVec 8) 8) {base off : BitVec 32} (h : InWindow base off) : BitVec 8 :=
  have := h.sub_lt
  v[(off - base).toNat]

/-- Store a byte of a timer register. -/
def setTimerByte (v : Vector (BitVec 8) 8) {base off : BitVec 32} (h : InWindow base off)
    (b : BitVec 8) : Vector (BitVec 8) 8 :=
  v.set (off - base).toNat b h.sub_lt

theorem timerByte_setTimerByte (v : Vector (BitVec 8) 8) {base a x : BitVec 32}
    (ha : InWindow base a) (hx : InWindow base x) (b : BitVec 8) :
    timerByte (setTimerByte v ha b) hx = if x = a then b else timerByte v hx := by
  have hidx : (a - base).toNat = (x - base).toNat ↔ x = a := by
    constructor
    · intro h
      rw [← BitVec.sub_add_cancel x base, ← BitVec.eq_of_toNat_eq h, BitVec.sub_add_cancel]
    · rintro rfl
      rfl
  simp only [timerByte, setTimerByte, Vector.getElem_set, hidx]

namespace AddressRouter

/-- The constructor: both registers start at zero. -/
def init (page : SparseMemory) (mtimeAddr mtimecmpAddr : BitVec 32) : AddressRouter :=
  ⟨page, mtimeAddr, mtimecmpAddr, Vector.replicate 8 0, Vector.replicate 8 0⟩

/-- One iteration of the timer thread: `mtime.at(0).fetch_add(1)`. -/
def tick (r : AddressRouter) : AddressRouter :=
  { r with mtime := r.mtime.set 0 (r.mtime[0] + 1) }

section Accessors

variable [Platform]

/-- `address_router::read8`. -/
def read8 (r : AddressRouter) (off : BitVec 32) : BitVec 8 :=
  if h : InWindow r.mtimeAddr off then timerByte r.mtime h
  else if h : InWindow r.mtimecmpAddr off then timerByte r.mtimecmp h
  else r.page.read8 off

/-- `address_router::write8`. -/
def write8 (r : AddressRouter) (off : BitVec 32) (b : BitVec 8) : AddressRouter :=
  if h : InWindow r.mtimeAddr off then { r with mtime := setTimerByte r.mtime h b }
  else if h : InWindow r.mtimecmpAddr off then { r with mtimecmp := setTimerByte r.mtimecmp h b }
  else { r with page := r.page.write8 off b }

/-- The inherited `sparse_memory_accessor::read16`. -/
def read16 (r : AddressRouter) (off : BitVec 32) : BitVec 16 := r.page.read16 off

/-- The inherited `sparse_memory_accessor::read32`. -/
def read32 (r : AddressRouter) (off : BitVec 32) : BitVec 32 := r.page.read32 off

/-- The inherited `sparse_memory_accessor::read64`. -/
def read64 (r : AddressRouter) (off : BitVec 32) : BitVec 64 := r.page.read64 off

/-- The inherited `sparse_memory_accessor::write16`. -/
def write16 (r : AddressRouter) (off : BitVec 32) (h : BitVec 16) : AddressRouter :=
  { r with page := r.page.write16 off h }

/-- The inherited `sparse_memory_accessor::write32`. -/
def write32 (r : AddressRouter) (off : BitVec 32) (w : BitVec 32) : AddressRouter :=
  { r with page := r.page.write32 off w }

/-- The inherited `sparse_memory_accessor::write64`. -/
def write64 (r : AddressRouter) (off : BitVec 32) (dw : BitVec 64) : AddressRouter :=
  { r with page := r.page.write64 off dw }

/-- The read of each width. -/
def readAs (r : AddressRouter) (off : BitVec 32) : (w : Width) → BitVec (8 * w.bytes)
  | .byte => r.read8 off
  | .half => r.read16 off
  | .word => r.read32 off
  | .dword => r.read64 off

/-- The write of each width. -/
def writeAs (r : AddressRouter) (off : BitVec 32) : (w : Width) → BitVec (8 * w.bytes) → AddressRouter
  | .byte => fun v => r.write8 off v
  | .half => fun v => r.write16 off v
  | .word => fun v => r.write32 off v
  | .dword => fun v => r.write64 off v

/-- The addresses that the byte accesses send to a timer register. -/
def Routed (r : AddressRouter) (a : BitVec 32) : Prop :=
  InWindow r.mtimeAddr a ∨ InWindow r.mtimecmpAddr a

instance (r : AddressRouter) (a : BitVec 32) : Decidable (r.Routed a) :=
  inferInstanceAs (Decidable (_ ∨ _))

/-! ## Byte accesses -/

theorem read8_of_not_routed {r : AddressRouter} {a : BitVec 32} (h : ¬ r.Routed a) :
    r.read8 a = r.page.read8 a := by
  rw [Routed, not_or] at h
  rw [read8, dif_neg h.1, dif_neg h.2]

/-- A routed byte does not depend on the page map. -/
theorem read8_of_routed {r : AddressRouter} {a : BitVec 32} (h : r.Routed a) (m : SparseMemory) :
    ({ r with page := m } : AddressRouter).read8 a = r.read8 a := by
  unfold read8
  split_ifs with h₁ h₂
  · rfl
  · rfl
  · exact absurd h (not_or.mpr ⟨h₁, h₂⟩)

/-- **Byte accesses obey the memory law**, for every position of the two windows. -/
theorem read8_write8 (r : AddressRouter) (a x : BitVec 32) (b : BitVec 8) :
    (r.write8 a b).read8 x = if x = a then b else r.read8 x := by
  -- the three stores are tried in the same order by the read and by the write
  by_cases ha : InWindow r.mtimeAddr a
  · by_cases hx : InWindow r.mtimeAddr x
    · simp only [write8, read8, dif_pos ha, dif_pos hx, timerByte_setTimerByte]
    · have hne : x ≠ a := fun h => hx (h ▸ ha)
      simp only [write8, read8, dif_pos ha, dif_neg hx, if_neg hne]
  · by_cases ha' : InWindow r.mtimecmpAddr a
    · by_cases hx : InWindow r.mtimeAddr x
      · have hne : x ≠ a := fun h => ha (h ▸ hx)
        simp only [write8, read8, dif_neg ha, dif_pos ha', dif_pos hx, if_neg hne]
      · by_cases hx' : InWindow r.mtimecmpAddr x
        · simp only [write8, read8, dif_neg ha, dif_pos ha', dif_neg hx, dif_pos hx',
            timerByte_setTimerByte]
        · have hne : x ≠ a := fun h => hx' (h ▸ ha')
          simp only [write8, read8, dif_neg ha, dif_pos ha', dif_neg hx, dif_neg hx', if_neg hne]
    · by_cases hx : r.Routed x
      · have hne : x ≠ a := fun h => not_or.mpr ⟨ha, ha'⟩ (h ▸ hx)
        rw [write8, dif_neg ha, dif_neg ha', read8_of_routed hx, if_neg hne]
      · rw [write8, dif_neg ha, dif_neg ha', read8_of_not_routed hx, read8_of_not_routed (by exact hx),
          SparseMemory.read8_write8]

theorem read8_write8_eq_store (r : AddressRouter) (a : BitVec 32) (b : BitVec 8) :
    (r.write8 a b).read8 = store r.read8 a 1 b := by
  rw [store_one]
  exact funext fun x => r.read8_write8 a x b

/-! ## Wide accesses -/

/-- A wide read is a read of the page map. -/
theorem readAs_of_ne_byte (r : AddressRouter) (off : BitVec 32) {w : Width} (hw : w ≠ .byte) :
    r.readAs off w = r.page.readAs off w := by
  cases w with
  | byte => exact absurd rfl hw
  | half => rfl
  | word => rfl
  | dword => rfl

/-- A wide write is a write of the page map. -/
theorem writeAs_of_ne_byte (r : AddressRouter) (off : BitVec 32) {w : Width} (hw : w ≠ .byte)
    (v : BitVec (8 * w.bytes)) :
    r.writeAs off w v = { r with page := r.page.writeAs off w v } := by
  cases w with
  | byte => exact absurd rfl hw
  | half => rfl
  | word => rfl
  | dword => rfl

/-- A store into the page map, seen through the byte accesses: it reaches the addresses that
are not routed. -/
theorem read8_writeAs_apply (r : AddressRouter) (off : BitVec 32) {w : Width} (hw : w ≠ .byte)
    (v : BitVec (8 * w.bytes)) (x : BitVec 32) :
    (r.writeAs off w v).read8 x =
      if r.Routed x then r.read8 x else store r.page.read8 off w.bytes v x := by
  rw [writeAs_of_ne_byte r off hw]
  split_ifs with hx
  · exact read8_of_routed hx _
  · rw [read8_of_not_routed (by exact hx), SparseMemory.read8_writeAs]

/-- A byte write of the router, seen in the page map. -/
theorem page_write8_apply (r : AddressRouter) (off x : BitVec 32) (b : BitVec 8) :
    (r.write8 off b).page.read8 x =
      if r.Routed off then r.page.read8 x else if x = off then b else r.page.read8 x := by
  by_cases h₁ : InWindow r.mtimeAddr off
  · rw [if_pos (show r.Routed off from Or.inl h₁), write8, dif_pos h₁]
  · by_cases h₂ : InWindow r.mtimecmpAddr off
    · rw [if_pos (show r.Routed off from Or.inr h₂), write8, dif_neg h₁, dif_pos h₂]
    · rw [if_neg (show ¬ r.Routed off from not_or.mpr ⟨h₁, h₂⟩), write8, dif_neg h₁, dif_neg h₂,
        SparseMemory.read8_write8]

theorem page_write8_of_ne (r : AddressRouter) {off x : BitVec 32} (b : BitVec 8) (h : x ≠ off) :
    (r.write8 off b).page.read8 x = r.page.read8 x := by
  rw [page_write8_apply, if_neg h, ite_self]

/-- A write changes no byte outside its range, neither of the router nor of the page map. -/
theorem read8_writeAs_of_not_lt (r : AddressRouter) {off x : BitVec 32} {w : Width}
    (v : BitVec (8 * w.bytes)) (h : ¬ (x - off).toNat < w.bytes) :
    (r.writeAs off w v).read8 x = r.read8 x ∧
      (r.writeAs off w v).page.read8 x = r.page.read8 x := by
  rcases eq_or_ne w .byte with rfl | hw
  · have hne : x ≠ off := by
      rintro rfl
      exact h (by rw [BitVec.sub_self]; decide)
    constructor
    · exact (r.read8_write8 off x v).trans (if_neg hne)
    · exact r.page_write8_of_ne v hne
  · constructor
    · rw [read8_writeAs_apply r off hw, store_apply_of_not_lt _ _ _ h]
      split_ifs with hx
      · rfl
      · exact (read8_of_not_routed hx).symm
    · rw [writeAs_of_ne_byte r off hw, SparseMemory.read8_writeAs, store_apply_of_not_lt _ _ _ h]

theorem write8_unchanged_iff (r : AddressRouter) (off : BitVec 32) (b : BitVec 8) :
    ((r.write8 off b).read8 = r.read8 ∧ (r.write8 off b).page.read8 = r.page.read8) ↔
      r.read8 off = b := by
  constructor
  · rintro ⟨h, -⟩
    rw [← h, read8_write8, if_pos rfl]
  · rintro rfl
    refine ⟨funext fun x => ?_, funext fun x => ?_⟩
    · rw [read8_write8]
      split_ifs with hx
      · rw [hx]
      · rfl
    · rw [page_write8_apply]
      split_ifs with hr hx
      · rfl
      · rw [hx, read8_of_not_routed hr]
      · rfl

/-- A write changes no byte, of the router or of the page map, exactly when the read of its width
yields the value already. -/
theorem writeAs_unchanged_iff (r : AddressRouter) (off : BitVec 32) (w : Width)
    (v : BitVec (8 * w.bytes)) :
    ((r.writeAs off w v).read8 = r.read8 ∧ (r.writeAs off w v).page.read8 = r.page.read8) ↔
      r.readAs off w = v := by
  have hsmall := w.bytes_le
  rcases eq_or_ne w .byte with rfl | hw
  · exact r.write8_unchanged_iff off v
  · rw [readAs_of_ne_byte r off hw, SparseMemory.readAs_eq_load,
      ← store_eq_self_iff _ _ (by omega)]
    constructor
    · -- the clause on the page map is enough, and the one on the router follows from it
      rintro ⟨-, h⟩
      rwa [writeAs_of_ne_byte r off hw, SparseMemory.read8_writeAs] at h
    · intro h
      refine ⟨funext fun x => ?_, ?_⟩
      · rw [read8_writeAs_apply r off hw, h]
        split_ifs with hx
        · rfl
        · exact (read8_of_not_routed hx).symm
      · rw [writeAs_of_ne_byte r off hw, SparseMemory.read8_writeAs, h]

/-- An access of width `w` at `off` agrees with the byte accesses: its value is the
little-endian composition of the bytes, and after a write each byte of the range is the byte of
the value and every other byte is unchanged. -/
def SeesOneMemory (r : AddressRouter) (w : Width) (off : BitVec 32) : Prop :=
  r.readAs off w = load r.read8 off w.bytes ∧
    ∀ v, (r.writeAs off w v).read8 = store r.read8 off w.bytes v

/-- The little-endian value of a timer register. -/
def timerValue (v : Vector (BitVec 8) 8) : BitVec 64 :=
  load (fun i : BitVec 3 => v[i.toNat]) 0 8

/-- A 64-bit read of the page map is the value of a timer register exactly when the map has the
bytes of the register under it. -/
theorem read64_eq_timerValue_iff (m : SparseMemory) (v : Vector (BitVec 8) 8) (base : BitVec 32) :
    m.read64 base = timerValue v ↔
      ∀ i : Fin 8, m.read8 (base + BitVec.ofNat 32 i.val) = v[i.val] := by
  have hbytes : ∀ i : Fin 8, ((0 : BitVec 3) + BitVec.ofNat 3 i.val).toNat = i.val := by decide
  rw [SparseMemory.read64_eq_load, timerValue]
  refine load_eq_load_iff.trans ⟨fun h i => ?_, fun h i hi => ?_⟩
  · simpa only [hbytes i] using h i.val i.isLt
  · simpa only [hbytes ⟨i, hi⟩] using h ⟨i, hi⟩

/-- A wide access that agrees with the byte accesses touches no routed address: a routed byte
keeps its value whatever is written. -/
theorem SeesOneMemory.not_routed {r : AddressRouter} {w : Width} {off : BitVec 32}
    (h : r.SeesOneMemory w off) (hw : w ≠ .byte) {i : ℕ} (hi : i < w.bytes) :
    ¬ r.Routed (off + BitVec.ofNat 32 i) := by
  intro hrouted
  have hsmall := w.bytes_le
  -- the byte would have to be that of every value written
  have hbyte : ∀ v : BitVec (8 * w.bytes), r.read8 (off + BitVec.ofNat 32 i) = byteAt v i := by
    intro v
    have hv := congrFun (h.2 v) (off + BitVec.ofNat 32 i)
    have hdist := toNat_add_sub_self off (i := i) (by omega)
    rw [read8_writeAs_apply r off hw, if_pos hrouted, store_apply_of_lt _ _ _ (by omega),
      hdist] at hv
    exact hv
  exact byteAt_zero_ne_byteAt_allOnes hi ((hbyte _).symm.trans (hbyte _))

/-- A wide access that touches no routed address agrees with the byte accesses. -/
theorem seesOneMemory_of_not_routed {r : AddressRouter} {w : Width} {off : BitVec 32}
    (hw : w ≠ .byte) (hfree : ∀ i < w.bytes, ¬ r.Routed (off + BitVec.ofNat 32 i)) :
    r.SeesOneMemory w off := by
  refine ⟨?_, fun v => funext fun x => ?_⟩
  · rw [readAs_of_ne_byte r off hw, SparseMemory.readAs_eq_load, load_eq_load_iff]
    exact fun i hi => (read8_of_not_routed (hfree i hi)).symm
  · rw [read8_writeAs_apply r off hw]
    -- inside the range nothing is routed; outside it nothing is written
    by_cases hin : (x - off).toNat < w.bytes
    · have hx : ¬ r.Routed x := eq_add_ofNat_sub (a := off) (x := x) ▸ hfree _ hin
      rw [if_neg hx, store_apply_of_lt _ _ _ hin, store_apply_of_lt _ _ _ hin]
    · rw [store_apply_of_not_lt _ _ _ hin, store_apply_of_not_lt _ _ _ hin]
      split_ifs with hx
      · rfl
      · exact (read8_of_not_routed hx).symm

theorem seesOneMemory_byte (r : AddressRouter) (off : BitVec 32) : r.SeesOneMemory .byte off :=
  ⟨(load_one r.read8 off).symm, r.read8_write8_eq_store off⟩

/-- **When the access widths of the router see one memory**: a wide access agrees with the byte
accesses exactly when it touches no routed address. In particular the 64-bit reads with which
`interrupt_pending` compares the timers are the timer registers only where the page map under
the window happens to hold the same bytes. -/
theorem seesOneMemory_iff (r : AddressRouter) (w : Width) (off : BitVec 32) :
    (r.SeesOneMemory w off ↔
      w = .byte ∨ ∀ i < w.bytes, ¬ r.Routed (off + BitVec.ofNat 32 i)) ∧
    (r.read64 r.mtimeAddr = timerValue r.mtime ↔
      ∀ i : Fin 8, r.page.read8 (r.mtimeAddr + BitVec.ofNat 32 i.val) = r.mtime[i.val]) ∧
    (r.read64 r.mtimecmpAddr = timerValue r.mtimecmp ↔
      ∀ i : Fin 8, r.page.read8 (r.mtimecmpAddr + BitVec.ofNat 32 i.val) = r.mtimecmp[i.val]) := by
  refine ⟨?_, read64_eq_timerValue_iff _ _ _, read64_eq_timerValue_iff _ _ _⟩
  rcases eq_or_ne w .byte with rfl | hw
  · exact ⟨fun _ => Or.inl rfl, fun _ => r.seesOneMemory_byte off⟩
  constructor
  · exact fun h => Or.inr fun i hi => h.not_routed hw hi
  · rintro (rfl | hfree)
    · exact absurd rfl hw
    · exact seesOneMemory_of_not_routed hw hfree

end Accessors

/-- With the windows at their default address 0, a two-byte write of 1 at 0 is not seen by a byte
read: the byte read is of the timer register, which is still 0. -/
theorem not_seesOneMemory_default :
    ¬ @SeesOneMemory (Platform.always Op.empty) (init SparseMemory.empty 0 0) .half 0 := by
  let _ : Platform := Platform.always Op.empty
  intro h
  exact h.not_routed (by decide) (i := 0) (by decide) (by decide)

end AddressRouter

end Riscv32Sim
