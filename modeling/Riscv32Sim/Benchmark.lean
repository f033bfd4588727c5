import Riscv32Sim.Iss.Alu

/-!
# The static operation switch

`benchmark/` compares `do_alu` with a second implementation: one specialisation of `alu_function`
for each operation, and a fold over a pack of operations that joins the results with `|`. At most one
operation of the pack is selected, and `|` is idempotent, so the fold is the selected result however
often the operation is repeated.

## Main definitions

* `Benchmark.aluFunction`: the specialisations of `alu_function`
* `Benchmark.doAluSwitch`, `Benchmark.doAluStatic`: the fold, and its instance
* `Benchmark.doAlu`: the copy of `do_alu` it is compared with

## Main results

* `Benchmark.doAluSwitch_agrees`: the two implementations agree
-/

namespace Riscv32Sim

namespace Benchmark

/-- `std::runtime_error`. -/
structure RuntimeError where
  what : String
  deriving DecidableEq, Repr

/-- The exception that the benchmark throws. -/
def asd : RuntimeError := ⟨"asd"⟩

/-- The operations of a pack. The primary template of `alu_function` has no definition and only the
enumerators have a specialisation, so no other value can be in a pack. -/
abbrev AluOp := { f : Alu // f.isNamed = true }

section Switch

variable [Platform]
-- what this build yields for a shift count of 32 or more
variable (wide : Alu → BitVec 32 → BitVec 32 → BitVec 32)

/-- `alu_function<Opt>::exec`. -/
def aluFunction : AluOp → BitVec 32 → BitVec 32 → BitVec 32
  | ⟨.or, _⟩, a, b => a ||| b
  | ⟨.xor, _⟩, a, b => a ^^^ b
  | ⟨.add, _⟩, a, b => a + b
  | ⟨.auipc, _⟩, a, b => a + b
  | ⟨.jal, _⟩, a, b => a + b
  | ⟨.sub, _⟩, a, b => a - b
  | ⟨.sll, _⟩, a, b => if b.toNat < 32 then a <<< b.toNat else wide .sll a b
  | ⟨.srl, _⟩, a, b => if b.toNat < 32 then a >>> b.toNat else wide .srl a b
  | ⟨.sra, _⟩, a, b => if b.toNat < 32 then a.sshiftRight b.toNat else wide .sra a b
  | ⟨.slt, _⟩, a, b => if a.slt b then 1 else 0
  | ⟨.sltu, _⟩, a, b => if a < b then 1 else 0
  | ⟨.jalr, _⟩, a, b => (a + b) &&& lsbZero
  | ⟨.mulh, _⟩, a, b => mulh a b
  | ⟨.mulhsu, _⟩, a, b => mulhsu a b
  | ⟨.mulhu, _⟩, a, b => mulhu a b
  | ⟨.mul, _⟩, a, b => a * b
  | ⟨.and, _⟩, a, b => a &&& b
  | ⟨.divu, _⟩, a, b => if b = 0 then BitVec.allOnes 32 else a / b
  | ⟨.remu, _⟩, a, b => if b = 0 then a else a % b
  | ⟨.rem, _⟩, a, b =>
    if b = 0 then a else if a = BitVec.intMin 32 ∧ b = -1 then 0 else a.srem b
  | ⟨.div, _⟩, a, b =>
    if b = 0 then -1 else if a = BitVec.intMin 32 ∧ b = -1 then a else a.sdiv b

/-- `do_alu_op<Opt>`. -/
def doAluOp (op : AluOp) (opd₁ opd₂ : BitVec 32) : BitVec 32 := aluFunction wide op opd₁ opd₂

omit [Platform] in
/-- `is_alu_op<Opt>`. -/
def isAluOp (op : AluOp) (opt : Alu) : Bool := opt == op.val

/-- `do_alu_switch<Ops...>`. The empty pack has a specialisation of its own. -/
def doAluSwitch (ops : List AluOp) (opt : Alu) (opd₁ opd₂ : BitVec 32) :
    Except RuntimeError (BitVec 32) :=
  match ops with
  | [] => .error asd
  | op :: ops =>
    if (op :: ops).any fun op => isAluOp op opt then
      -- `((opt == Ops ? do_alu_op<Ops>(opd_1, opd_2) : 0) | ...)`
      .ok ((op :: ops).foldr
        (fun op acc => (if opt = op.val then doAluOp wide op opd₁ opd₂ else 0) ||| acc) 0)
    else .error asd

omit [Platform] in
/-- The pack of `do_alu_static`. -/
def staticOps : List AluOp :=
  [⟨.or, rfl⟩, ⟨.and, rfl⟩, ⟨.xor, rfl⟩, ⟨.add, rfl⟩, ⟨.auipc, rfl⟩, ⟨.jal, rfl⟩, ⟨.sub, rfl⟩,
    ⟨.sll, rfl⟩, ⟨.srl, rfl⟩, ⟨.sra, rfl⟩, ⟨.slt, rfl⟩, ⟨.sltu, rfl⟩, ⟨.jalr, rfl⟩, ⟨.mulh, rfl⟩,
    ⟨.mulhsu, rfl⟩, ⟨.mulhu, rfl⟩, ⟨.mul, rfl⟩, ⟨.divu, rfl⟩, ⟨.remu, rfl⟩, ⟨.div, rfl⟩, ⟨.rem, rfl⟩]

/-- `do_alu_static`. -/
def doAluStatic (opt : Alu) (opd₁ opd₂ : BitVec 32) : Except RuntimeError (BitVec 32) :=
  doAluSwitch wide staticOps opt opd₁ opd₂

/-- `do_alu` of `benchmark/alu.cpp`: the switch of the simulator, with another exception in its
default case. -/
def doAlu (opt : Alu) (opd₁ opd₂ : BitVec 32) : Except RuntimeError (BitVec 32) :=
  (Riscv32Sim.doAlu opt opd₁ opd₂).mapError fun _ => asd

/-! ## Agreement -/

omit [Platform] in
/-- A fold that joins the selected entries with `|` is the value they share, however many they
are. -/
theorem foldr_or_select {α : Type} {p : α → Prop} [DecidablePred p] {w : ℕ} {g : α → BitVec w}
    {v : BitVec w} (hg : ∀ x, p x → g x = v) (l : List α) :
    l.foldr (fun x acc => (if p x then g x else 0) ||| acc) 0 = if ∃ x ∈ l, p x then v else 0 := by
  induction l with
  | nil => simp
  | cons x l ih =>
    rw [List.foldr_cons, ih]
    by_cases hx : p x
    · -- a repeated entry adds nothing: `v ||| v = v`
      by_cases hl : ∃ y ∈ l, p y
      · simp [hx, hl, hg x hx]
      · simp [hx, hl, hg x hx]
    · simp [hx]

omit [Platform] in
theorem any_isAluOp_iff (ops : List AluOp) (opt : Alu) :
    (ops.any fun op => isAluOp op opt) = true ↔ ∃ op ∈ ops, opt = op.val := by
  simp [isAluOp]

/-- An operation of the pack is selected. -/
theorem doAluSwitch_of_mem {ops : List AluOp} {op : AluOp} (h : op ∈ ops) (a b : BitVec 32) :
    doAluSwitch wide ops op.val a b = .ok (aluFunction wide op a b) := by
  have hsel : ∃ x ∈ ops, op.val = x.val := ⟨op, h, rfl⟩
  have hshare : ∀ x : AluOp, op.val = x.val → doAluOp wide x a b = aluFunction wide op a b := by
    intro x hx
    rw [doAluOp, Subtype.ext hx]
  cases ops with
  | nil => exact absurd h List.not_mem_nil
  | cons op' ops =>
    rw [doAluSwitch, if_pos ((any_isAluOp_iff _ _).mpr hsel), foldr_or_select hshare, if_pos hsel]

/-- An operation that is not in the pack throws. -/
theorem doAluSwitch_of_not_mem {ops : List AluOp} {opt : Alu} (h : opt ∉ ops.map Subtype.val)
    (a b : BitVec 32) : doAluSwitch wide ops opt a b = .error asd := by
  cases ops with
  | nil => rfl
  | cons op ops =>
    rw [doAluSwitch, if_neg]
    rw [any_isAluOp_iff]
    rintro ⟨x, hx, rfl⟩
    exact h (List.mem_map_of_mem hx)

theorem doAluSwitch_throws_iff (ops : List AluOp) (opt : Alu) (a b : BitVec 32) :
    (∃ e, doAluSwitch wide ops opt a b = .error e) ↔ opt ∉ ops.map Subtype.val := by
  constructor
  · rintro ⟨e, he⟩ hmem
    obtain ⟨op, hop, rfl⟩ := List.mem_map.mp hmem
    rw [doAluSwitch_of_mem wide hop] at he
    cases he
  · exact fun h => ⟨asd, doAluSwitch_of_not_mem wide h a b⟩

/-- **Each specialisation computes the operation of `do_alu`**, for a shift by less than 32. -/
theorem doAlu_eq_aluFunction (op : AluOp) (a b : BitVec 32)
    (hb : op.val.isShift = true → b.toNat < 32) :
    Riscv32Sim.doAlu op.val a b = .ok (aluFunction wide op a b) := by
  obtain ⟨f, hf⟩ := op
  cases f with
  | sll | srl | sra =>
    have hlt := hb rfl
    simp only [Riscv32Sim.doAlu, aluFunction, if_pos hlt]
  | unnamed v => exact absurd hf Bool.false_ne_true
  | _ => rfl

omit [Platform] in
/-- The pack of `do_alu_static` has every operation. -/
theorem mem_staticOps (op : AluOp) : op ∈ staticOps := by
  obtain ⟨f, hf⟩ := op
  cases f with
  | unnamed v => exact absurd hf Bool.false_ne_true
  | _ => simp [staticOps]

/-- **The two implementations agree**, for a shift by less than 32: for every pack, an operation in
it has the result of `do_alu`, the simulator's and the copy's, and the others throw; and the static
pack throws with the simulator, and only then. -/
theorem doAluSwitch_agrees (ops : List AluOp) (opt : Alu) (a b : BitVec 32)
    (hb : opt.isShift = true → b.toNat < 32) :
    (opt ∈ ops.map Subtype.val → ∃ v, doAluSwitch wide ops opt a b = .ok v ∧
      Riscv32Sim.doAlu opt a b = .ok v ∧ doAlu opt a b = .ok v) ∧
    ((∃ e, doAluSwitch wide ops opt a b = .error e) ↔ opt ∉ ops.map Subtype.val) ∧
    ((∃ v, doAluStatic wide opt a b = .ok v ∧ Riscv32Sim.doAlu opt a b = .ok v) ∨
      (doAluStatic wide opt a b = .error asd ∧
        Riscv32Sim.doAlu opt a b = .error .unexpectedSwitchCaseValue)) := by
  refine ⟨fun hmem => ?_, doAluSwitch_throws_iff wide ops opt a b, ?_⟩
  · obtain ⟨op, hop, rfl⟩ := List.mem_map.mp hmem
    have hval := doAlu_eq_aluFunction wide op a b hb
    refine ⟨_, doAluSwitch_of_mem wide hop a b, hval, ?_⟩
    rw [doAlu, hval]
    rfl
  · by_cases hnamed : opt.isNamed = true
    · exact Or.inl ⟨_, doAluSwitch_of_mem wide (mem_staticOps ⟨opt, hnamed⟩) a b,
        doAlu_eq_aluFunction wide ⟨opt, hnamed⟩ a b hb⟩
    · cases opt with
      | unnamed v => exact Or.inr ⟨rfl, rfl⟩
      | _ => exact absurd rfl hnamed

end Switch

/-- A pack with a repeated entry, at the overflowing division. -/
theorem doAluSwitch_agrees_div :
    let _ : Platform := Platform.always Op.empty
    let wide : Alu → BitVec 32 → BitVec 32 → BitVec 32 := fun _ a _ => a
    ∃ v, doAluSwitch wide [⟨.div, rfl⟩, ⟨.add, rfl⟩, ⟨.div, rfl⟩] .div (BitVec.intMin 32) (-1) = .ok v ∧
      Riscv32Sim.doAlu .div (BitVec.intMin 32) (-1) = .ok v ∧
      doAlu .div (BitVec.intMin 32) (-1) = .ok v := by
  intro _ wide
  exact (doAluSwitch_agrees wide [⟨.div, rfl⟩, ⟨.add, rfl⟩, ⟨.div, rfl⟩] .div (BitVec.intMin 32) (-1)
    (by decide)).1 (by decide)

end Benchmark

end Riscv32Sim
