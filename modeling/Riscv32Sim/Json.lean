import Riscv32Sim.Common

/-!
# The JSON export

The serializers of `json_export_helpers.hpp`. They see an enumeration as its underlying value and
a register index as the byte in which it is stored, and so the records are repeated here in these
terms. `op_type` is packed into one byte, each alternative in a range of its own. Its `from_json`
assigns the alternative and goes on to the `throw` at its end.

The library is not in the repository. It is a parameter, `Nlohmann`, that reads back what it has
written.

## Main definitions

* `Nlohmann`: the library, with what its documentation says of the accessors
* `Export.OpType`, `Export.Op`, `Export.HartState`: the exported records
* `toJson`, `fromJson`: the serializers
* `Export.OpType.assign`: what `from_json` assigns before it throws
* `Export.plain`: a library whose values are trees

## Main results

* `Export.OpType.assign_toJson`: the assigned alternative is the exported one
* `Export.HartState.fromJsonWith_toJson`: everything else is read back as it was
* `Export.HartState.fromJson_toJson_ne`: no exported state can be read back
-/

namespace Riscv32Sim

/-- The exceptions of the library and of the serializers. -/
inductive JsonError
  /-- `std::runtime_error("cannot parse")` -/
  | cannotParse
  /-- `json::out_of_range`, from `at` -/
  | outOfRange (key : String)
  /-- `json::type_error` -/
  | typeError
  deriving DecidableEq, Repr

/-- `nlohmann::json`. The `Prop` fields are documented: `at` gives the value of a key, `get` gives
back a value that the type can hold, and any number is converted without an exception. -/
class Nlohmann where
  /-- `json` -/
  Json : Type
  object : List (String × Json) → Json
  array : List Json → Json
  number : ℤ → Json
  boolean : Bool → Json
  /-- `j.at(key)` -/
  field : Json → String → Except JsonError Json
  field_object (fields : List (String × Json)) (key : String) :
    field (object fields) key = (fields.lookup key).elim (.error (.outOfRange key)) .ok
  /-- `get` of an unsigned integer of `w` bits -/
  getUInt (w : ℕ) : Json → Except JsonError (BitVec w)
  getUInt_number {w : ℕ} (v : BitVec w) : getUInt w (number v.toNat) = .ok v
  exists_getUInt_number (w : ℕ) (n : ℤ) : ∃ v, getUInt w (number n) = .ok v
  /-- `get` of an enumeration -/
  getEnum : Json → Except JsonError ℤ
  getEnum_number (n : ℤ) : getEnum (number n) = .ok n
  /-- `get<bool>` -/
  getBool : Json → Except JsonError Bool
  getBool_boolean (b : Bool) : getBool (boolean b) = .ok b
  /-- `get` of a `std::vector` -/
  getVector {α : Type} (get : Json → Except JsonError α) : Json → Except JsonError (List α)
  getVector_map {α : Type} {put : α → Json} {get : Json → Except JsonError α}
    (h : ∀ a, get (put a) = .ok a) (l : List α) : getVector get (array (l.map put)) = .ok l

namespace Nlohmann

variable [Nlohmann]

/-- The value of an unsigned integer. -/
def ofUInt {w : ℕ} (v : BitVec w) : Json := number v.toNat

@[simp] theorem getUInt_ofUInt {w : ℕ} (v : BitVec w) : getUInt w (ofUInt v) = .ok v :=
  getUInt_number v

@[simp] theorem field_cons_self (key : String) (j : Json) (fields : List (String × Json)) :
    field (object ((key, j) :: fields)) key = .ok j := by
  rw [field_object, List.lookup_cons_self, Option.elim_some]

@[simp] theorem field_cons_of_ne {key k : String} (h : key ≠ k) (j : Json)
    (fields : List (String × Json)) :
    field (object ((k, j) :: fields)) key = field (object fields) key := by
  rw [field_object, field_object, List.lookup_cons, beq_false_of_ne h]

end Nlohmann

/-! ## Records without an enumeration -/

section Serializers

variable [Nlohmann]

open Nlohmann

/-- `to_json(json &, const gpr_change &)`. -/
def GprChange.toJson (c : GprChange) : Json :=
  object [("index", ofUInt c.index), ("prev", ofUInt c.prev), ("next", ofUInt c.next)]

/-- `from_json(const json &, gpr_change &)`. -/
def GprChange.fromJson (j : Json) : Except JsonError GprChange := do
  let index ← getUInt 8 (← field j "index")
  let prev ← getUInt 32 (← field j "prev")
  let next ← getUInt 32 (← field j "next")
  return ⟨index, prev, next⟩

/-- `to_json(json &, const csr_change &)`. -/
def CsrChange.toJson (c : CsrChange) : Json :=
  object [("index", ofUInt c.index), ("prev", ofUInt c.prev), ("next", ofUInt c.next)]

/-- `from_json(const json &, csr_change &)`. -/
def CsrChange.fromJson (j : Json) : Except JsonError CsrChange := do
  let index ← getUInt 16 (← field j "index")
  let prev ← getUInt 32 (← field j "prev")
  let next ← getUInt 32 (← field j "next")
  return ⟨index, prev, next⟩

/-- `to_json(json &, const program_counter &)`. -/
def ProgramCounter.toJson (p : ProgramCounter) : Json :=
  object [("pc", ofUInt p.pc), ("pc_next", ofUInt p.pcNext)]

/-- `from_json(const json &, program_counter &)`. -/
def ProgramCounter.fromJson (j : Json) : Except JsonError ProgramCounter := do
  let pc ← getUInt 32 (← field j "pc")
  let pcNext ← getUInt 32 (← field j "pc_next")
  return ⟨pc, pcNext⟩

theorem GprChange.fromJson_toJson (c : GprChange) : fromJson c.toJson = .ok c := by
  simp [fromJson, toJson, bind, Except.bind, pure, Except.pure]

theorem CsrChange.fromJson_toJson (c : CsrChange) : fromJson c.toJson = .ok c := by
  simp [fromJson, toJson, bind, Except.bind, pure, Except.pure]

theorem ProgramCounter.fromJson_toJson (p : ProgramCounter) : fromJson p.toJson = .ok p := by
  simp [fromJson, toJson, bind, Except.bind, pure, Except.pure]

end Serializers

namespace Export

/-! ## The packed variant -/

/-- `op_type`, with the enumerators as their underlying values. -/
inductive OpType
  | monostate
  | alu (a : BitVec 8)
  | load (l : BitVec 8)
  | store (s : BitVec 8)
  | branch (b : BitVec 8)
  | sys (s : BitVec 8)
  deriving DecidableEq, Repr

namespace OpType

/-- The enumerators that the ranges have room for. -/
def InRange : OpType → Prop
  | .monostate => True
  | .alu a => a.toNat < 51
  | .load l => l.toNat < 10
  | .store s => s.toNat < 10
  | .branch b => b.toNat < 10
  | .sys s => s.toNat < 19

/-- `if (x >= lo && x <= hi) type = E{x -= lo};`, for the enumeration `E` with the alternative
`mk`. -/
def tryRange (lo hi : ℕ) (mk : BitVec 8 → OpType) : BitVec 8 × OpType → BitVec 8 × OpType
  | (x, type) =>
    if lo ≤ x.toNat ∧ x.toNat ≤ hi then (x - BitVec.ofNat 8 lo, mk (x - BitVec.ofNat 8 lo))
    else (x, type)

/-- The assignments of `adl_serializer<op_type>::from_json`. Each of them also moves the byte `x`,
which the later tests read. -/
def assign (x : BitVec 8) (type : OpType) : OpType :=
  let p := (x, if x = 0 then .monostate else type)
  let p := tryRange 1 19 .sys p
  let p := tryRange 20 29 .branch p
  let p := tryRange 30 39 .store p
  let p := tryRange 40 49 .load p
  (tryRange 50 100 .alu p).2

section TryRange

variable {lo hi : ℕ} {x v : BitVec 8} {mk : BitVec 8 → OpType} {type : OpType}

/-- A byte in the range is moved to the enumerator. -/
theorem tryRange_of_mem (hx : x.toNat = lo + v.toNat) (h : x.toNat ≤ hi) :
    tryRange lo hi mk (x, type) = (v, mk v) := by
  have hsub : x - BitVec.ofNat 8 lo = v := by
    apply BitVec.eq_of_toNat_eq
    have hlt := x.isLt
    rw [BitVec.toNat_sub, BitVec.toNat_ofNat]
    omega
  rw [tryRange, if_pos ⟨by omega, h⟩, hsub]

theorem tryRange_of_not_mem (h : x.toNat < lo ∨ hi < x.toNat) :
    tryRange lo hi mk (x, type) = (x, type) := by
  rw [tryRange, if_neg (by omega)]

end TryRange

section Serializer

variable [Nlohmann]

open Nlohmann

/-- `adl_serializer<op_type>::to_json`. -/
def toJson : OpType → Json
  | .alu a => number (50 + a.toNat)
  | .load l => number (40 + l.toNat)
  | .store s => number (30 + s.toNat)
  | .branch b => number (20 + b.toNat)
  | .sys s => number (1 + s.toNat)
  | .monostate => number 0

/-- `adl_serializer<op_type>::from_json`. No path returns before the `throw`. -/
def fromJson (type : OpType) (j : Json) : Except JsonError OpType := do
  let x ← getUInt 8 j
  let _ := assign x type
  throw .cannotParse

/-- The byte of an alternative, in the range that starts at `k`. -/
theorem getUInt_number_add {k : ℕ} {v : BitVec 8} (h : k + v.toNat < 2 ^ 8) :
    ∃ x : BitVec 8, getUInt 8 (number (k + v.toNat)) = .ok x ∧ x.toNat = k + v.toNat := by
  have hx : (BitVec.ofNat 8 (k + v.toNat)).toNat = k + v.toNat := by
    rw [BitVec.toNat_ofNat, Nat.mod_eq_of_lt h]
  have hget := getUInt_number (BitVec.ofNat 8 (k + v.toNat))
  rw [hx, Nat.cast_add] at hget
  exact ⟨_, hget, hx⟩

/-- **The alternative that `from_json` assigns** before it throws is the one that `to_json` has
packed. -/
theorem assign_toJson {o : OpType} (h : o.InRange) (type : OpType) :
    ∃ x, getUInt 8 o.toJson = .ok x ∧ assign x type = o := by
  -- the byte passes over the ranges below its own, and once it has been moved to the enumerator
  -- it is below those that follow
  cases o with
  | monostate => exact ⟨0, getUInt_number 0, rfl⟩
  | sys v =>
    have hv : v.toNat < 19 := h
    obtain ⟨x, hget, hx⟩ := getUInt_number_add (k := 1) (v := v) (by omega)
    refine ⟨x, hget, ?_⟩
    simp (disch := omega) only [assign, tryRange_of_mem hx, tryRange_of_not_mem]
  | branch v =>
    have hv : v.toNat < 10 := h
    obtain ⟨x, hget, hx⟩ := getUInt_number_add (k := 20) (v := v) (by omega)
    refine ⟨x, hget, ?_⟩
    simp (disch := omega) only [assign, tryRange_of_mem hx, tryRange_of_not_mem]
  | store v =>
    have hv : v.toNat < 10 := h
    obtain ⟨x, hget, hx⟩ := getUInt_number_add (k := 30) (v := v) (by omega)
    refine ⟨x, hget, ?_⟩
    simp (disch := omega) only [assign, tryRange_of_mem hx, tryRange_of_not_mem]
  | load v =>
    have hv : v.toNat < 10 := h
    obtain ⟨x, hget, hx⟩ := getUInt_number_add (k := 40) (v := v) (by omega)
    refine ⟨x, hget, ?_⟩
    simp (disch := omega) only [assign, tryRange_of_mem hx, tryRange_of_not_mem]
  | alu v =>
    have hv : v.toNat < 51 := h
    obtain ⟨x, hget, hx⟩ := getUInt_number_add (k := 50) (v := v) (by omega)
    refine ⟨x, hget, ?_⟩
    simp (disch := omega) only [assign, tryRange_of_mem hx, tryRange_of_not_mem]

/-- `from_json` throws on the byte of every alternative. -/
theorem fromJson_toJson (type o : OpType) : fromJson type o.toJson = .error .cannotParse := by
  have hget : ∃ x, getUInt 8 o.toJson = .ok x := by
    cases o <;> exact exists_getUInt_number 8 _
  obtain ⟨x, hx⟩ := hget
  rw [fromJson, hx]
  rfl

end Serializer

end OpType

/-! ## The hart state -/

/-- `struct op`. -/
structure Op where
  imm : BitVec 32
  opt : OpType
  tgt : ℤ
  rd : BitVec 8
  rs1 : BitVec 8
  rs2 : BitVec 8
  hasImm : Bool
  usePc : Bool
  isCompressed : Bool
  deriving DecidableEq, Repr

/-- `struct hart_state`. -/
structure HartState where
  pc : ProgramCounter
  instr : BitVec 32
  dec : Op
  gprStaged : List GprChange
  csrStaged : List CsrChange
  deriving DecidableEq, Repr

section HartState

variable [Nlohmann]

open Nlohmann

/-- `to_json(json &, const op &)`. -/
def Op.toJson (op : Op) : Json :=
  object [("imm", ofUInt op.imm), ("opt", op.opt.toJson), ("tgt", number op.tgt),
    ("rd", ofUInt op.rd), ("rs1", ofUInt op.rs1), ("rs2", ofUInt op.rs2),
    ("has_imm", boolean op.hasImm), ("use_pc", boolean op.usePc),
    ("is_compressed", boolean op.isCompressed)]

/-- `from_json(const json &, op &)`, over the `from_json` of `op_type` that it calls. -/
def Op.fromJsonWith (fromOpt : Json → Except JsonError OpType) (j : Json) :
    Except JsonError Op := do
  let imm ← getUInt 32 (← field j "imm")
  let opt ← fromOpt (← field j "opt")
  let tgt ← getEnum (← field j "tgt")
  let rd ← getUInt 8 (← field j "rd")
  let rs1 ← getUInt 8 (← field j "rs1")
  let rs2 ← getUInt 8 (← field j "rs2")
  let hasImm ← getBool (← field j "has_imm")
  let usePc ← getBool (← field j "use_pc")
  let isCompressed ← getBool (← field j "is_compressed")
  return { imm, opt, tgt, rd, rs1, rs2, hasImm, usePc, isCompressed }

/-- `to_json(json &, const hart_state &)`. -/
def HartState.toJson (hs : HartState) : Json :=
  object [("pc", hs.pc.toJson), ("instr", ofUInt hs.instr), ("dec", hs.dec.toJson),
    ("gpr_staged", array (hs.gprStaged.map GprChange.toJson)),
    ("csr_staged", array (hs.csrStaged.map CsrChange.toJson))]

/-- `from_json(const json &, hart_state &)`, over the `from_json` of `op_type`. -/
def HartState.fromJsonWith (fromOpt : Json → Except JsonError OpType) (j : Json) :
    Except JsonError HartState := do
  let pc ← ProgramCounter.fromJson (← field j "pc")
  let instr ← getUInt 32 (← field j "instr")
  let dec ← Op.fromJsonWith fromOpt (← field j "dec")
  let gprStaged ← getVector GprChange.fromJson (← field j "gpr_staged")
  let csrStaged ← getVector CsrChange.fromJson (← field j "csr_staged")
  return { pc, instr, dec, gprStaged, csrStaged }

/-- `from_json(const json &, hart_state &)`; the `opt` of a new `hart_state` is a monostate. -/
def HartState.fromJson : Json → Except JsonError HartState :=
  HartState.fromJsonWith (OpType.fromJson .monostate)

/-- Everything but `opt` is read back as it was. -/
theorem Op.fromJsonWith_toJson (fromOpt : Json → Except JsonError OpType) (op : Op) :
    fromJsonWith fromOpt op.toJson =
      (fromOpt op.opt.toJson).map fun opt => { op with opt := opt } := by
  cases hopt : fromOpt op.opt.toJson <;>
    simp [fromJsonWith, toJson, getEnum_number, getBool_boolean, hopt, bind,
      Except.bind, pure, Except.pure, Except.map]

/-- **Everything but the variant is read back as it was**, the lists of changes included. -/
theorem HartState.fromJsonWith_toJson (fromOpt : Json → Except JsonError OpType)
    (hs : HartState) :
    fromJsonWith fromOpt hs.toJson =
      (fromOpt hs.dec.opt.toJson).map fun opt =>
        { hs with dec := { hs.dec with opt := opt } } := by
  have hgpr := getVector_map GprChange.fromJson_toJson hs.gprStaged
  have hcsr := getVector_map CsrChange.fromJson_toJson hs.csrStaged
  cases hopt : fromOpt hs.dec.opt.toJson <;>
    simp [fromJsonWith, toJson, ProgramCounter.fromJson_toJson,
      Op.fromJsonWith_toJson, hopt, hgpr, hcsr, bind, Except.bind, pure, Except.pure, Except.map]

/-- With a `from_json` of `op_type` that returned what it assigns, every state in range would be
read back. -/
theorem HartState.fromJsonWith_assign {hs : HartState} (h : hs.dec.opt.InRange) :
    fromJsonWith (fun j => (getUInt 8 j).map fun x => .assign x .monostate) hs.toJson = .ok hs := by
  obtain ⟨x, hget, hassign⟩ := OpType.assign_toJson h .monostate
  rw [fromJsonWith_toJson, hget]
  simp [Except.map, hassign]

/-- The exception of `op_type` passes through the records around it. -/
theorem HartState.fromJson_toJson (hs : HartState) :
    fromJson hs.toJson = .error .cannotParse := by
  rw [fromJson, fromJsonWith_toJson, OpType.fromJson_toJson]
  rfl

/-- **No exported state can be read back**: `from_json` throws on the export of every one. -/
theorem HartState.fromJson_toJson_ne (hs : HartState) :
    fromJson hs.toJson ≠ .ok hs ∧ fromJson hs.toJson = .error .cannotParse := by
  rw [fromJson_toJson]
  exact ⟨by simp, rfl⟩

end HartState

/-! ## A library whose values are trees -/

/-- A JSON value. -/
inductive Value
  | number (n : ℤ)
  | boolean (b : Bool)
  | array (elems : List Value)
  | object (fields : List (String × Value))

namespace Value

/-- `at`. -/
def field : Value → String → Except JsonError Value
  | .object fields, key => (fields.lookup key).elim (.error (.outOfRange key)) .ok
  | _, _ => .error .typeError

/-- `get` of an unsigned integer, a boolean or an enumeration. -/
def getInt : Value → Except JsonError ℤ
  | .number n => .ok n
  | .boolean b => .ok b.toNat
  | _ => .error .typeError

/-- `get<bool>`. -/
def getBool : Value → Except JsonError Bool
  | .boolean b => .ok b
  | _ => .error .typeError

/-- `get` of a `std::vector`. -/
def getVector {α : Type} (get : Value → Except JsonError α) : Value → Except JsonError (List α)
  | .array elems => elems.mapM get
  | _ => .error .typeError

/-- A list whose elements are read back is read back. -/
theorem getVector_map {α : Type} {put : α → Value} {get : Value → Except JsonError α}
    (h : ∀ a, get (put a) = .ok a) (l : List α) : (array (l.map put)).getVector get = .ok l := by
  change (l.map put).mapM get = .ok l
  induction l with
  | nil => rfl
  | cons a l ih =>
    rw [List.map_cons, List.mapM_cons, h, ih]
    rfl

end Value

/-- A library whose values are trees. -/
@[reducible] def plain : Nlohmann where
  Json := Value
  object := .object
  array := .array
  number := .number
  boolean := .boolean
  field := Value.field
  field_object _ _ := rfl
  getUInt w j := j.getInt.map (BitVec.ofInt w)
  getUInt_number {w} v := by
    change Except.ok (BitVec.ofInt w v.toNat) = .ok v
    rw [BitVec.ofInt_natCast, BitVec.ofNat_toNat, BitVec.setWidth_eq]
  exists_getUInt_number w n := ⟨BitVec.ofInt w n, rfl⟩
  getEnum := Value.getInt
  getEnum_number _ := rfl
  getBool := Value.getBool
  getBool_boolean _ := rfl
  getVector get j := j.getVector get
  getVector_map := Value.getVector_map

/-- A state with no instruction decoded and no changes. -/
def HartState.zero : HartState :=
  { pc := ⟨0, 0⟩, instr := 0,
    dec := { imm := 0, opt := .monostate, tgt := 0, rd := 0, rs1 := 0, rs2 := 0, hasImm := false,
             usePc := false, isCompressed := false },
    gprStaged := [], csrStaged := [] }

/-- The zero state is in range and cannot be read back. -/
theorem HartState.not_fromJson_toJson_zero :
    letI := plain
    zero.dec.opt.InRange ∧ ¬ fromJson zero.toJson = .ok zero := by
  let _ := plain
  refine ⟨trivial, ?_⟩
  rw [fromJson_toJson]
  simp

end Export

end Riscv32Sim
