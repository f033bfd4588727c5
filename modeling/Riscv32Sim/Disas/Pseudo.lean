import Riscv32Sim.Disas.Format

/-!
# The pseudo-instructions of a listing

A line of a listing stands for a mnemonic and its operands. The disassembler prefers
pseudo-instructions, which the assembly language defines as other instructions. Here the definition
is applied to the decoded operands, and the result is compared with the instruction that the line
was printed for. It is not said that an assembler takes the printed text: `lui` and `auipc` show the
word that is added and not its upper bits, and a rounding mode is shown before the other operands.

## Main definitions

* `RvDecode.assembly`: the mnemonic and the operands of a line
* `expand`: the definition of a pseudo-instruction, applied to its operands
* `Garbled`: the instructions whose line stands for another one

## Main results

* `printed_of_token`: the line shows the operands
* `expand_decoded_iff`: a line expands to its instruction, except for the garbled ones
-/

namespace Riscv32Sim
namespace Disas

/-! ## Operands -/

/-- What an operand of the assembly language is. -/
inductive OperandKind
  | x | f | imm | offset | csr | zimm | rm | pred | succ | aq | rl
  deriving DecidableEq

/-- An operand. -/
structure Operand where
  kind : OperandKind
  value : BitVec 32
  deriving DecidableEq

/-- The fields of a decoded instruction that operands show. -/
inductive Source
  | rd | rs1 | rs2 | rs3 | imm | csr | rm | pred | succ | aq | rl
  deriving DecidableEq

/-- The value of a field. -/
def Source.read (d : RvDecode) : Source → BitVec 32
  | rd => d.rd.setWidth 32
  | rs1 => d.rs1.setWidth 32
  | rs2 => d.rs2.setWidth 32
  | rs3 => d.rs3.setWidth 32
  | imm => d.imm
  | csr => d.imm &&& 0xfff
  | rm => d.rm.setWidth 32
  | pred => d.pred.setWidth 32
  | succ => d.succ.setWidth 32
  | aq => d.aq.setWidth 32
  | rl => d.rl.setWidth 32

/-- The operand that a character of a format shows. -/
def token : Char → Option (OperandKind × Source)
  | '0' => some (.x, .rd)
  | '1' => some (.x, .rs1)
  | '2' => some (.x, .rs2)
  | '3' => some (.f, .rd)
  | '4' => some (.f, .rs1)
  | '5' => some (.f, .rs2)
  | '6' => some (.f, .rs3)
  | '7' => some (.zimm, .rs1)
  | 'i' => some (.imm, .imm)
  | 'o' => some (.offset, .imm)
  | 'c' => some (.csr, .csr)
  | 'r' => some (.rm, .rm)
  | 'p' => some (.pred, .pred)
  | 's' => some (.succ, .succ)
  | 'A' => some (.aq, .aq)
  | 'R' => some (.rl, .rl)
  | _ => none

/-- How an operand is printed. -/
def Operand.print (pc : BitVec 64) (tab : ℕ) (o : Operand) : Option (List Piece) :=
  match o.kind with
  | .x => regName rvIregNameSym (o.value.setWidth 8)
  | .f => regName rvFregNameSym (o.value.setWidth 8)
  | .imm => some [.text (snprintf 64 (decimal o.value.toInt))]
  | .offset =>
    some [.text (snprintf 64 (decimal o.value.toInt)), .padTo (tab * 2),
      .text (snprintf 64 ("# 0x".toList ++ hex 0 (pc + o.value.signExtend 64).toNat))]
  | .csr => some [.text (csrText o.value)]
  | .zimm => some [.text (snprintf 64 (decimal o.value.toNat))]
  | .rm => some [.text (rmName (o.value.setWidth 8)).toList]
  | .pred => some (fenceSet (o.value.setWidth 8))
  | .succ => some (fenceSet (o.value.setWidth 8))
  | .aq => some (if o.value ≠ 0 then [.text ".aq".toList] else [])
  | .rl => some (if o.value ≠ 0 then [.text ".rl".toList] else [])

/-- The line shows the operands. -/
theorem printed_of_token {c : Char} {k : OperandKind} {s : Source} (h : token c = some (k, s))
    (d : RvDecode) (tab : ℕ) : printed d tab c = Operand.print d.pc tab ⟨k, s.read d⟩ := by
  have hwidth : ∀ v : BitVec 8, (v.setWidth 32).setWidth 8 = v := fun v => by simp
  have hnat : ∀ v : BitVec 8, (v.setWidth 32).toNat = v.toNat :=
    fun v => BitVec.toNat_setWidth_of_le (by decide)
  have hzero : ∀ v : BitVec 8, v.setWidth 32 = 0#32 ↔ v = 0#8 := fun v => by
    rw [← BitVec.toNat_inj, ← BitVec.toNat_inj, hnat]
    rfl
  unfold token at h
  split at h <;> cases h <;>
    simp [printed, Operand.print, Source.read, hwidth, hnat, hzero, csrText, BitVec.and_assoc,
      - BitVec.toNat_setWidth]

/-- The operands that a format shows. -/
def RvFmt.tokens (f : RvFmt) : List (OperandKind × Source) := f.text.toList.filterMap token

/-- The operands of a line. -/
def RvDecode.operands (d : RvDecode) : List Operand :=
  (opcodeData d.op).format.tokens.map fun p => ⟨p.1, p.2.read d⟩

/-- The mnemonic and the operands of a line. -/
def RvDecode.assembly (d : RvDecode) : RvOp × List Operand := (d.op, d.operands)

/-! ## Expanding a line -/

/-- What stands for an operand in the definition of a pseudo-instruction. -/
inductive Arg
  | param (i : ℕ)
  | lit (v : BitVec 32)
  deriving DecidableEq

/-- The definition of a pseudo-instruction: the kinds of its operands, and the instruction that it
stands for. -/
structure Alias where
  params : List OperandKind
  op : RvOp
  args : List (OperandKind × Arg)

/-- The pseudo-instructions of the assembly language. -/
def aliasOf : RvOp → Option Alias
  | .nop => some ⟨[], .addi, [(.x, .lit 0), (.x, .lit 0), (.imm, .lit 0)]⟩
  | .mv => some ⟨[.x, .x], .addi, [(.x, .param 0), (.x, .param 1), (.imm, .lit 0)]⟩
  | .not => some ⟨[.x, .x], .xori, [(.x, .param 0), (.x, .param 1), (.imm, .lit (-1))]⟩
  | .neg => some ⟨[.x, .x], .sub, [(.x, .param 0), (.x, .lit 0), (.x, .param 1)]⟩
  | .negw => some ⟨[.x, .x], .subw, [(.x, .param 0), (.x, .lit 0), (.x, .param 1)]⟩
  | .sextW => some ⟨[.x, .x], .addiw, [(.x, .param 0), (.x, .param 1), (.imm, .lit 0)]⟩
  | .seqz => some ⟨[.x, .x], .sltiu, [(.x, .param 0), (.x, .param 1), (.imm, .lit 1)]⟩
  | .snez => some ⟨[.x, .x], .sltu, [(.x, .param 0), (.x, .lit 0), (.x, .param 1)]⟩
  | .sltz => some ⟨[.x, .x], .slt, [(.x, .param 0), (.x, .param 1), (.x, .lit 0)]⟩
  | .sgtz => some ⟨[.x, .x], .slt, [(.x, .param 0), (.x, .lit 0), (.x, .param 1)]⟩
  | .fmvS => some ⟨[.f, .f], .fsgnjS, [(.f, .param 0), (.f, .param 1), (.f, .param 1)]⟩
  | .fabsS => some ⟨[.f, .f], .fsgnjxS, [(.f, .param 0), (.f, .param 1), (.f, .param 1)]⟩
  | .fnegS => some ⟨[.f, .f], .fsgnjnS, [(.f, .param 0), (.f, .param 1), (.f, .param 1)]⟩
  | .fmvD => some ⟨[.f, .f], .fsgnjD, [(.f, .param 0), (.f, .param 1), (.f, .param 1)]⟩
  | .fabsD => some ⟨[.f, .f], .fsgnjxD, [(.f, .param 0), (.f, .param 1), (.f, .param 1)]⟩
  | .fnegD => some ⟨[.f, .f], .fsgnjnD, [(.f, .param 0), (.f, .param 1), (.f, .param 1)]⟩
  | .fmvQ => some ⟨[.f, .f], .fsgnjQ, [(.f, .param 0), (.f, .param 1), (.f, .param 1)]⟩
  | .fabsQ => some ⟨[.f, .f], .fsgnjxQ, [(.f, .param 0), (.f, .param 1), (.f, .param 1)]⟩
  | .fnegQ => some ⟨[.f, .f], .fsgnjnQ, [(.f, .param 0), (.f, .param 1), (.f, .param 1)]⟩
  | .beqz => some ⟨[.x, .offset], .beq, [(.x, .param 0), (.x, .lit 0), (.offset, .param 1)]⟩
  | .bnez => some ⟨[.x, .offset], .bne, [(.x, .param 0), (.x, .lit 0), (.offset, .param 1)]⟩
  | .blez => some ⟨[.x, .offset], .bge, [(.x, .lit 0), (.x, .param 0), (.offset, .param 1)]⟩
  | .bgez => some ⟨[.x, .offset], .bge, [(.x, .param 0), (.x, .lit 0), (.offset, .param 1)]⟩
  | .bltz => some ⟨[.x, .offset], .blt, [(.x, .param 0), (.x, .lit 0), (.offset, .param 1)]⟩
  | .bgtz => some ⟨[.x, .offset], .blt, [(.x, .lit 0), (.x, .param 0), (.offset, .param 1)]⟩
  | .ble => some ⟨[.x, .x, .offset], .bge, [(.x, .param 1), (.x, .param 0), (.offset, .param 2)]⟩
  | .bleu => some ⟨[.x, .x, .offset], .bgeu, [(.x, .param 1), (.x, .param 0), (.offset, .param 2)]⟩
  | .bgt => some ⟨[.x, .x, .offset], .blt, [(.x, .param 1), (.x, .param 0), (.offset, .param 2)]⟩
  | .bgtu => some ⟨[.x, .x, .offset], .bltu, [(.x, .param 1), (.x, .param 0), (.offset, .param 2)]⟩
  | .j => some ⟨[.offset], .jal, [(.x, .lit 0), (.offset, .param 0)]⟩
  | .jr => some ⟨[.x], .jalr, [(.x, .lit 0), (.x, .param 0), (.imm, .lit 0)]⟩
  | .ret => some ⟨[], .jalr, [(.x, .lit 0), (.x, .lit 1), (.imm, .lit 0)]⟩
  | .rdcycle => some ⟨[.x], .csrrs, [(.x, .param 0), (.csr, .lit 0xc00), (.x, .lit 0)]⟩
  | .rdtime => some ⟨[.x], .csrrs, [(.x, .param 0), (.csr, .lit 0xc01), (.x, .lit 0)]⟩
  | .rdinstret => some ⟨[.x], .csrrs, [(.x, .param 0), (.csr, .lit 0xc02), (.x, .lit 0)]⟩
  | .rdcycleh => some ⟨[.x], .csrrs, [(.x, .param 0), (.csr, .lit 0xc80), (.x, .lit 0)]⟩
  | .rdtimeh => some ⟨[.x], .csrrs, [(.x, .param 0), (.csr, .lit 0xc81), (.x, .lit 0)]⟩
  | .rdinstreth => some ⟨[.x], .csrrs, [(.x, .param 0), (.csr, .lit 0xc82), (.x, .lit 0)]⟩
  | .frcsr => some ⟨[.x], .csrrs, [(.x, .param 0), (.csr, .lit 0x003), (.x, .lit 0)]⟩
  | .frrm => some ⟨[.x], .csrrs, [(.x, .param 0), (.csr, .lit 0x002), (.x, .lit 0)]⟩
  | .frflags => some ⟨[.x], .csrrs, [(.x, .param 0), (.csr, .lit 0x001), (.x, .lit 0)]⟩
  | .fscsr => some ⟨[.x, .x], .csrrw, [(.x, .param 0), (.csr, .lit 0x003), (.x, .param 1)]⟩
  | .fsrm => some ⟨[.x, .x], .csrrw, [(.x, .param 0), (.csr, .lit 0x002), (.x, .param 1)]⟩
  | .fsflags => some ⟨[.x, .x], .csrrw, [(.x, .param 0), (.csr, .lit 0x001), (.x, .param 1)]⟩
  | .fsrmi => some ⟨[.x, .zimm], .csrrwi, [(.x, .param 0), (.csr, .lit 0x002), (.zimm, .param 1)]⟩
  | .fsflagsi =>
    some ⟨[.x, .zimm], .csrrwi, [(.x, .param 0), (.csr, .lit 0x001), (.zimm, .param 1)]⟩
  | _ => none

/-- An argument, given the operands. -/
def Arg.value (os : List Operand) : Arg → BitVec 32
  | param i => (os[i]?.map Operand.value).getD 0
  | lit v => v

/-- The instruction that a line stands for: the definition of its pseudo-instruction, applied to the
operands. -/
def expand (line : RvOp × List Operand) : RvOp × List Operand :=
  match aliasOf line.1 with
  | none => line
  | some a =>
    if line.2.map Operand.kind = a.params then
      (a.op, a.args.map fun p => ⟨p.1, p.2.value line.2⟩)
    else line

/-- The line of an instruction under another mnemonic. -/
def RvDecode.line (d : RvDecode) (op : RvOp) : RvOp × List Operand :=
  (op, (opcodeData op).format.tokens.map fun p => ⟨p.1, p.2.read d⟩)

theorem assembly_with (d : RvDecode) (op : RvOp) (codec : RvCodec) :
    ({ d with op, codec } : RvDecode).assembly = d.line op := by
  have hread : ∀ s : Source, s.read { d with op, codec } = s.read d := fun s => by cases s <;> rfl
  simp only [RvDecode.assembly, RvDecode.operands, RvDecode.line, hread]

theorem assembly_eq_line (d : RvDecode) : d.assembly = d.line d.op := rfl

/-! ## Lines that stand for their instruction -/

/-- What a constraint says of a field. -/
def RvcConstraint.forces : RvcConstraint → Source → Option (BitVec 32)
  | rdEqRa, .rd => some 1
  | rdEqX0, .rd => some 0
  | rs1EqX0, .rs1 => some 0
  | rs2EqX0, .rs2 => some 0
  | rs1EqRa, .rs1 => some 1
  | immEqZero, .imm => some 0
  | immEqN1, .imm => some (-1)
  | immEqP1, .imm => some 1
  | csrEq0x001, .csr => some 0x001
  | csrEq0x002, .csr => some 0x002
  | csrEq0x003, .csr => some 0x003
  | csrEq0xc00, .csr => some 0xc00
  | csrEq0xc01, .csr => some 0xc01
  | csrEq0xc02, .csr => some 0xc02
  | csrEq0xc80, .csr => some 0xc80
  | csrEq0xc81, .csr => some 0xc81
  | csrEq0xc82, .csr => some 0xc82
  | _, _ => none

theorem read_of_check {d : RvDecode} {c : RvcConstraint} {s : Source} {v : BitVec 32}
    (hcheck : c.check d) (hforces : c.forces s = some v) : s.read d = v := by
  unfold RvcConstraint.forces at hforces
  split at hforces <;> cases hforces <;>
    simp only [RvcConstraint.check, decide_eq_true_eq] at hcheck <;>
    rw [Source.read, hcheck] <;> rfl

/-- An argument of a pseudo-instruction stands for a field, under the constraints `cs`, where the
pseudo-instruction has the operands `ts`. -/
def Arg.StandsFor (cs : List RvcConstraint) (ts : List (OperandKind × Source)) (s : Source) :
    Arg → Prop
  | param i => ts[i]?.map Prod.snd = some s
  | lit v => ∃ c ∈ cs, c.forces s = some v

instance (cs : List RvcConstraint) (ts : List (OperandKind × Source)) (s : Source) (a : Arg) :
    Decidable (a.StandsFor cs ts s) :=
  match a with
  | .param i => inferInstanceAs (Decidable (ts[i]?.map Prod.snd = some s))
  | .lit v => inferInstanceAs (Decidable (∃ c ∈ cs, c.forces s = some v))

/-- A pseudo-instruction stands for the instructions that it is printed for. -/
def RvCompData.Faithful (c : RvCompData) (op : RvOp) : Prop :=
  match aliasOf c.op with
  | none => c.op = op
  | some a =>
    a.op = op ∧ (opcodeData c.op).format.tokens.map Prod.fst = a.params ∧
      List.Forall₂
        (fun p t => p.1 = t.1 ∧ p.2.StandsFor c.constraints (opcodeData c.op).format.tokens t.2)
        a.args (opcodeData op).format.tokens

instance (c : RvCompData) (op : RvOp) : Decidable (c.Faithful op) := by
  unfold RvCompData.Faithful
  split <;> infer_instance

theorem Arg.value_of_standsFor {d : RvDecode} {cs : List RvcConstraint}
    {ts : List (OperandKind × Source)} {s : Source} {a : Arg} (h : a.StandsFor cs ts s)
    (hcheck : checkConstraints d cs) :
    a.value (ts.map fun p => ⟨p.1, p.2.read d⟩) = s.read d := by
  cases a with
  | param i =>
    obtain ⟨t, ht, rfl⟩ := Option.map_eq_some_iff.mp h
    rw [value, List.getElem?_map, ht]
    rfl
  | lit v =>
    obtain ⟨c, hc, hforces⟩ := h
    exact (read_of_check (List.all_eq_true.mp hcheck c hc) hforces).symm

theorem expand_line_of_faithful {d : RvDecode} {c : RvCompData} {op : RvOp} (h : c.Faithful op)
    (hcheck : checkConstraints d c.constraints) : expand (d.line c.op) = d.line op := by
  unfold RvCompData.Faithful at h
  unfold expand
  cases ha : aliasOf c.op with
  | none =>
    rw [ha] at h
    rw [show aliasOf (d.line c.op).1 = none from ha]
    exact congrArg d.line h
  | some a =>
    rw [ha] at h
    obtain ⟨hop, hparams, hargs⟩ := h
    rw [show aliasOf (d.line c.op).1 = some a from ha]
    have hkinds : (d.line c.op).2.map Operand.kind = a.params := by
      rw [RvDecode.line, List.map_map]
      exact hparams
    have hvalues : a.args.map (fun p => (⟨p.1, p.2.value (d.line c.op).2⟩ : Operand)) =
        (d.line op).2 := by
      change _ = (opcodeData op).format.tokens.map fun p => (⟨p.1, p.2.read d⟩ : Operand)
      rw [← List.forall₂_eq_eq_eq, List.forall₂_map_left_iff, List.forall₂_map_right_iff]
      exact hargs.imp fun p t hpt => by
        rw [hpt.1, ← Arg.value_of_standsFor hpt.2 hcheck]
        rfl
    change (if _ then _ else _) = _
    rw [if_pos hkinds, hop, hvalues]
    rfl

/-! ## Lines that stand for another instruction -/

/-- The sign injections. -/
def signInjections : List RvOp :=
  [.fsgnjS, .fsgnjnS, .fsgnjxS, .fsgnjD, .fsgnjnD, .fsgnjxD, .fsgnjQ, .fsgnjnQ, .fsgnjxQ]

/-- The pseudo-instructions for sign injections. -/
def floatMoves : List RvOp :=
  [.fmvS, .fnegS, .fabsS, .fmvD, .fnegD, .fabsD, .fmvQ, .fnegQ, .fabsQ]

/-- An instruction whose line stands for another one: `ret` is printed for all jumps relative to
`ra`, and `fmv`, `fneg` and `fabs` are printed with the names of integer registers. -/
def Garbled (line : RvOp × List Operand) : Prop :=
  match line.2 with
  | [rd, rs1, arg] =>
    line.1 = .jalr ∧ rd.value = 0 ∧ rs1.value = 1 ∧ arg.value ≠ 0 ∨
      line.1 ∈ signInjections ∧ arg.value = rs1.value
  | _ => False

instance (line : RvOp × List Operand) : Decidable (Garbled line) := by
  unfold Garbled
  split <;> infer_instance

/-- The pseudo-instructions of the tables. -/
theorem pseudo_cases (op : RvOp) : ∀ c ∈ (opcodeData op).pseudo,
    c.Faithful op ∨ (op = .jalr ∧ c.op = .ret ∧ c.constraints = rvccJalrRet) ∨
      (op ∈ signInjections ∧ c.op ∈ floatMoves ∧ c.constraints = rvccRs2EqRs1) := by
  cases op <;> decide +kernel

theorem pseudo_signInjections :
    ∀ op ∈ signInjections, (opcodeData op).pseudo ≠ [] ∧
      ∀ c ∈ (opcodeData op).pseudo, c.op ∈ floatMoves ∧ c.constraints = rvccRs2EqRs1 := by
  decide +kernel

/-- A move is printed with other operands than it has. -/
theorem expand_floatMove (d : RvDecode) {op : RvOp} (h : op ∈ floatMoves) :
    expand (d.line op) = d.line op := by
  have hkinds : ∀ op ∈ floatMoves, ∀ a ∈ aliasOf op,
      (opcodeData op).format.tokens.map Prod.fst ≠ a.params := by decide +kernel
  unfold expand
  split
  · rfl
  case h_2 a ha =>
    rw [if_neg]
    rw [RvDecode.line, List.map_map]
    exact hkinds op h a ha

theorem expand_ret (d : RvDecode) : expand (d.line .ret) = (.jalr, [⟨.x, 0⟩, ⟨.x, 1⟩, ⟨.imm, 0⟩]) :=
  rfl

theorem line_jalr (d : RvDecode) :
    d.line .jalr = (.jalr, [⟨.x, d.rd.setWidth 32⟩, ⟨.x, d.rs1.setWidth 32⟩, ⟨.imm, d.imm⟩]) :=
  rfl

theorem liftPseudo_of_some {d : RvDecode} {c : RvCompData}
    (h : ((opcodeData d.op).pseudo.find? fun c => checkConstraints d c.constraints) = some c) :
    (decodeInstLiftPseudo d).assembly = d.line c.op := by
  rw [decodeInstLiftPseudo, h]
  exact assembly_with d c.op _

theorem line_signInjection (d : RvDecode) {op : RvOp} (h : op ∈ signInjections) :
    d.line op = (op, [⟨.f, d.rd.setWidth 32⟩, ⟨.f, d.rs1.setWidth 32⟩, ⟨.f, d.rs2.setWidth 32⟩]) := by
  have htokens : ∀ op ∈ signInjections,
      (opcodeData op).format.tokens = [(.f, .rd), (.f, .rs1), (.f, .rs2)] := by decide +kernel
  rw [RvDecode.line, htokens op h]
  rfl

theorem garbled_iff (d : RvDecode) : Garbled d.assembly ↔
    d.op = .jalr ∧ d.rd = 0 ∧ d.rs1 = 1 ∧ d.imm ≠ 0 ∨ d.op ∈ signInjections ∧ d.rs2 = d.rs1 := by
  have hinj : ∀ v w : BitVec 8, v.setWidth 32 = w.setWidth 32 ↔ v = w := fun v w =>
    ⟨fun h => by simpa using congrArg (BitVec.setWidth 8) h, fun h => h ▸ rfl⟩
  rw [assembly_eq_line]
  by_cases hjalr : d.op = .jalr
  · have hdisj : RvOp.jalr ∉ signInjections := by decide
    rw [hjalr, line_jalr]
    exact or_congr (and_congr Iff.rfl (and_congr (hinj d.rd 0) (and_congr (hinj d.rs1 1) Iff.rfl)))
      (by simp [hdisj])
  · by_cases hsign : d.op ∈ signInjections
    · rw [line_signInjection d hsign]
      exact or_congr (by simp [hjalr]) (and_congr Iff.rfl (hinj d.rs2 d.rs1))
    · unfold Garbled
      split <;> simp [RvDecode.line, hjalr, hsign]

theorem expand_liftPseudo {d : RvDecode} (hd : aliasOf d.op = none) (h : ¬Garbled d.assembly) :
    expand (decodeInstLiftPseudo d).assembly = d.assembly := by
  rw [garbled_iff] at h
  cases hfind : (opcodeData d.op).pseudo.find? fun c => checkConstraints d c.constraints with
  | none =>
    rw [decodeInstLiftPseudo, hfind, expand, show aliasOf d.assembly.1 = none from hd]
  | some c =>
    have hcheck := List.find?_some hfind
    rw [liftPseudo_of_some hfind, assembly_eq_line]
    rcases pseudo_cases d.op c (List.mem_of_find?_eq_some hfind) with
      hfaith | ⟨hop, hret, hcs⟩ | ⟨hop, -, hcs⟩
    · exact expand_line_of_faithful hfaith hcheck
    · obtain ⟨hrd, hrs1⟩ : d.rd = 0 ∧ d.rs1 = 1 := by
        simpa [hcs, checkConstraints, rvccJalrRet, RvcConstraint.check] using hcheck
      have himm : d.imm = 0 := by
        by_contra hne
        exact h (.inl ⟨hop, hrd, hrs1, hne⟩)
      rw [hret, expand_ret, hop, line_jalr, hrd, hrs1, himm]
      rfl
    · have hrs : d.rs2 = d.rs1 := by
        simpa [hcs, checkConstraints, rvccRs2EqRs1, RvcConstraint.check] using hcheck
      exact absurd (.inr ⟨hop, hrs⟩) h

theorem expand_liftPseudo_of_garbled {d : RvDecode} (h : Garbled d.assembly) :
    expand (decodeInstLiftPseudo d).assembly ≠ d.assembly := by
  rcases (garbled_iff d).mp h with ⟨hop, hrd, hrs1, himm⟩ | ⟨hop, hrs⟩
  · have hfind : ((opcodeData d.op).pseudo.find? fun c => checkConstraints d c.constraints) =
        some ⟨.ret, rvccJalrRet⟩ := by
      rw [hop]
      change (rvcpJalr.find? _) = _
      rw [rvcpJalr, List.find?_cons_of_pos]
      simp [checkConstraints, rvccJalrRet, RvcConstraint.check, hrd, hrs1]
    rw [liftPseudo_of_some hfind, expand_ret, assembly_eq_line, hop, line_jalr]
    intro heq
    simp only [Prod.mk.injEq, List.cons.injEq, Operand.mk.injEq] at heq
    exact himm heq.2.2.2.1.2.symm
  · obtain ⟨hne, hall⟩ := pseudo_signInjections d.op hop
    obtain ⟨c, hfind⟩ : ∃ c,
        ((opcodeData d.op).pseudo.find? fun c => checkConstraints d c.constraints) = some c := by
      obtain ⟨c, hc⟩ := List.exists_mem_of_ne_nil _ hne
      apply Option.isSome_iff_exists.mp
      rw [List.find?_isSome]
      refine ⟨c, hc, ?_⟩
      rw [(hall c hc).2]
      simp [checkConstraints, rvccRs2EqRs1, RvcConstraint.check, hrs]
    have hmove := (hall c (List.mem_of_find?_eq_some hfind)).1
    rw [liftPseudo_of_some hfind, expand_floatMove d hmove]
    intro heq
    have hdisj : ∀ op ∈ signInjections, op ∉ floatMoves := by decide
    have hop' : c.op = d.op := congrArg Prod.fst heq
    exact hdisj d.op hop (hop' ▸ hmove)

/-! ## Decoded instructions -/

/-- Undoing the compression gives no pseudo-instruction. -/
theorem aliasOf_decompressed (isa : RvIsa) (pc inst : BitVec 64) :
    aliasOf (decompressed isa pc inst).op = none := by
  have hleaves : ∀ op ∈ (opcodeTree isa).leaves,
      aliasOf op = none ∧ aliasOf ((opcodeData op).decomp isa) = none := by
    cases isa <;> decide +kernel
  obtain ⟨hop, hdecomp⟩ := hleaves _ ((opcodeTree isa).eval_mem_leaves inst)
  unfold decompressed decodeInstDecompress
  split_ifs
  · rfl
  · exact hdecomp
  · exact hop

theorem expand_liftPseudo_iff {d : RvDecode} (hd : aliasOf d.op = none) :
    expand (decodeInstLiftPseudo d).assembly = d.assembly ↔ ¬Garbled d.assembly :=
  ⟨fun heq h => expand_liftPseudo_of_garbled h heq, expand_liftPseudo hd⟩

/-- **The line of an instruction expands to this instruction, except for the garbled ones.** -/
theorem expand_decoded_iff (isa : RvIsa) (pc inst : BitVec 64) :
    expand (decoded isa pc inst).assembly = (decompressed isa pc inst).assembly ↔
      ¬Garbled (decompressed isa pc inst).assembly :=
  expand_liftPseudo_iff (aliasOf_decompressed isa pc inst)

end Disas
end Riscv32Sim
