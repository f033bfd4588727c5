import Riscv32Sim.Disas.Pseudo

/-!
# The disassembler and the instruction formats

The manual of the instruction set gives each instruction as a row of boxes, with the operands that
are taken from the boxes, and a compressed instruction with the instruction that it expands to. The
rows are stated here from the manual. Each is checked against the decoder once, for all words with
this layout, and what the disassembler lists is then compared with the row.

The comparison is about decoded operands, not about the printed text: an operand stands for its
value, so the upper immediate of `lui` is the word that is loaded, and the rounding mode is an
operand like the others, wherever it is printed. `c.mv` expands to `add` in the manual and to `addi`
in the tables of the disassembler.

## Main definitions

* `Reading`: an operand, in terms of the fields
* `Encoding`: a row of the manual
* `encodings`: the rows for RV32IMAFDC
* `Encoding.Checked`: a row that the decoder follows
* `Encoding.Misread`: the instructions for which the disassembler has another one

## Main results

* `checked_of_mem`: the decoder follows the rows
* `decompressed_iff`: the instruction and the operands that it reads
* `listed_iff`: the listed instruction is the manual's, with its pseudo-instruction expanded
-/

namespace Riscv32Sim
namespace Disas

open BitLayout

/-! ## Rows of the manual -/

/-- The fields of the instruction formats. -/
inductive Field
  | rd | rs1 | rs2 | rs3 | imm | csr | rm | aq | rl | pred | succ
  deriving DecidableEq

/-- An operand in terms of the fields: a constant, bits of a field in their places and extended, or
one of the eight registers that compressed instructions name. -/
inductive Reading
  | lit (v : BitVec 32)
  | unsigned (f : Field) (hi lo : ℕ)
  | signed (f : Field) (hi lo : ℕ)
  | creg (f : Field)
  deriving DecidableEq

namespace Reading

/-- The value of an operand. -/
def value (env : Field → BitVec 32) : Reading → BitVec 32
  | lit v => v
  | unsigned f hi lo => ((env f).extractLsb hi lo).setWidth 32 <<< lo
  | signed f hi lo => ((env f).extractLsb hi lo).signExtend 32 <<< lo
  | creg f => (1#1 ++ (env f).extractLsb 2 0).setWidth 32

/-- The source of bit `i` of an operand. -/
def wire : Reading → ℕ → Wire Field
  | lit v, i => .const (v.getLsbD i)
  | unsigned f hi lo, i =>
    if lo ≤ i ∧ i - lo < hi - lo + 1 then .bit f (lo + (i - lo)) else .const false
  | signed f hi lo, i => if lo ≤ i then .bit f (lo + min (i - lo) (hi - lo)) else .const false
  | creg f, i => if i < 3 then .bit f i else .const (i = 3)

theorem getLsbD_value (env : Field → BitVec 32) (r : Reading) {i : ℕ} (hi : i < 32) :
    (r.value env).getLsbD i = (r.wire i).value env := by
  cases r with
  | lit v => rfl
  | unsigned f hi' lo =>
    rw [value, wire, BitVec.getLsbD_shiftLeft, BitVec.getLsbD_setWidth, BitVec.getLsbD_extractLsb,
      decide_eq_true hi, decide_eq_true (show i - lo < 32 by omega), Bool.true_and, Bool.true_and]
    by_cases h : lo ≤ i ∧ i - lo < hi' - lo + 1
    · rw [if_pos h, decide_eq_false (Nat.not_lt.mpr h.1), decide_eq_true h.2, Bool.not_false,
        Bool.true_and, Bool.true_and, Wire.value]
    · rw [if_neg h, Wire.value]
      rcases not_and_or.mp h with h | h
      · rw [decide_eq_true (Nat.lt_of_not_le h), Bool.not_true, Bool.false_and]
      · rw [decide_eq_false h, Bool.false_and, Bool.and_false]
  | signed f hi' lo =>
    rw [value, wire, BitVec.getLsbD_shiftLeft, BitVec.getLsbD_signExtend,
      BitVec.msb_eq_getLsbD_last, decide_eq_true hi, decide_eq_true (show i - lo < 32 by omega),
      Bool.true_and, Bool.true_and, BitVec.getLsbD_extractLsb, BitVec.getLsbD_extractLsb]
    by_cases h : lo ≤ i
    · rw [if_pos h, decide_eq_false (Nat.not_lt.mpr h), Bool.not_false, Bool.true_and, Wire.value]
      split_ifs with h'
      · rw [decide_eq_true h', Bool.true_and, Nat.min_eq_left (Nat.le_of_lt_succ h')]
      · rw [Nat.add_sub_cancel, decide_eq_true (Nat.lt_succ_self _), Bool.true_and,
          Nat.min_eq_right (by omega)]
    · rw [if_neg h, decide_eq_true (Nat.lt_of_not_le h), Bool.not_true, Bool.false_and, Wire.value]
  | creg f =>
    rw [value, wire, BitVec.getLsbD_setWidth, BitVec.getLsbD_append, decide_eq_true hi,
      Bool.true_and]
    rcases Nat.lt_trichotomy i 3 with h | rfl | h
    · simp [h, Wire.value]
    · rfl
    · simp [Wire.value, h.ne', Nat.not_lt.mpr h.le]
      omega

end Reading

/-- A row of the manual: an instruction, the one that it expands to, the boxes, the operands, and
the values that are reserved or belong to other instructions. -/
structure Encoding where
  op : RvOp
  expansion : RvOp
  layout : Layout Field
  operands : List (OperandKind × Reading)
  excluded : List (Exclusion Field) := []

/-- The fields have none of the excluded values. -/
def Encoding.Admits (e : Encoding) (env : Field → BitVec 32) : Prop :=
  ∀ x ∈ e.excluded, x.Holds env

instance (e : Encoding) (env : Field → BitVec 32) : Decidable (e.Admits env) :=
  inferInstanceAs (Decidable (∀ x ∈ e.excluded, x.Holds env))

/-- The instruction that a word with this layout encodes. -/
def Encoding.meaning (e : Encoding) (env : Field → BitVec 32) : RvOp × List Operand :=
  (e.expansion, e.operands.map fun p => ⟨p.1, p.2.value env⟩)

/-! ## The instruction formats -/

namespace Manual

open Slice (fixed field)
open Riscv32Sim.Disas.Field

/-- A box with a register. -/
def reg (f : Field) : Slice Field := field f 4 0

/-- A box with one of eight registers. -/
def reg3 (f : Field) : Slice Field := field f 2 0

def xreg (f : Field) : OperandKind × Reading := (.x, .unsigned f 4 0)
def freg (f : Field) : OperandKind × Reading := (.f, .unsigned f 4 0)
def xreg3 (f : Field) : OperandKind × Reading := (.x, .creg f)
def freg3 (f : Field) : OperandKind × Reading := (.f, .creg f)
def xlit (v : BitVec 32) : OperandKind × Reading := (.x, .lit v)
def bits (k : OperandKind) (f : Field) (hi lo : ℕ) : OperandKind × Reading := (k, .unsigned f hi lo)
def sbits (k : OperandKind) (f : Field) (hi lo : ℕ) : OperandKind × Reading := (k, .signed f hi lo)

def rType (funct7 : ℕ) (src2 funct3 : Slice Field) (opcode : ℕ) : Layout Field :=
  [fixed 7 funct7, src2, reg rs1, funct3, reg rd, fixed 7 opcode]

def r4Type (fmt opcode : ℕ) : Layout Field :=
  [reg rs3, fixed 2 fmt, reg rs2, reg rs1, field rm 2 0, reg rd, fixed 7 opcode]

def iType (funct3 opcode : ℕ) : Layout Field :=
  [field imm 11 0, reg rs1, fixed 3 funct3, reg rd, fixed 7 opcode]

def sType (funct3 opcode : ℕ) : Layout Field :=
  [field imm 11 5, reg rs2, reg rs1, fixed 3 funct3, field imm 4 0, fixed 7 opcode]

def bType (funct3 : ℕ) : Layout Field :=
  [field imm 12 12, field imm 10 5, reg rs2, reg rs1, fixed 3 funct3, field imm 4 1,
    field imm 11 11, fixed 7 0b1100011]

def uType (opcode : ℕ) : Layout Field := [field imm 31 12, reg rd, fixed 7 opcode]

def jType : Layout Field :=
  [field imm 20 20, field imm 10 1, field imm 11 11, field imm 19 12, reg rd, fixed 7 0b1101111]

/-- An instruction of 32 bits. -/
def word (op : RvOp) (layout : Layout Field) (operands : List (OperandKind × Reading)) : Encoding :=
  { op, expansion := op, layout, operands }

def jump : List Encoding :=
  [word .jal jType [xreg rd, sbits .offset imm 20 1],
    word .jalr (iType 0 0b1100111) [xreg rd, xreg rs1, sbits .imm imm 11 0]]

def upper : List Encoding :=
  [word .lui (uType 0b0110111) [xreg rd, bits .imm imm 31 12],
    word .auipc (uType 0b0010111) [xreg rd, bits .offset imm 31 12]]

def branch : List Encoding :=
  [(.beq, 0), (.bne, 1), (.blt, 4), (.bge, 5), (.bltu, 6), (.bgeu, 7)].map fun (op, funct3) =>
    word op (bType funct3) [xreg rs1, xreg rs2, sbits .offset imm 12 1]

def load : List Encoding :=
  [(.lb, 0), (.lh, 1), (.lw, 2), (.lbu, 4), (.lhu, 5)].map fun (op, funct3) =>
    word op (iType funct3 0b0000011) [xreg rd, sbits .imm imm 11 0, xreg rs1]

def store : List Encoding :=
  [(.sb, 0), (.sh, 1), (.sw, 2)].map fun (op, funct3) =>
    word op (sType funct3 0b0100011) [xreg rs2, sbits .imm imm 11 0, xreg rs1]

def opImm : List Encoding :=
  [(.addi, 0), (.slti, 2), (.sltiu, 3), (.xori, 4), (.ori, 6), (.andi, 7)].map fun (op, funct3) =>
    word op (iType funct3 0b0010011) [xreg rd, xreg rs1, sbits .imm imm 11 0]

def shiftImm : List Encoding :=
  [(.slli, 0b0000000, 1), (.srli, 0b0000000, 5), (.srai, 0b0100000, 5)].map
    fun (op, funct7, funct3) =>
      word op (rType funct7 (field imm 4 0) (fixed 3 funct3) 0b0010011)
        [xreg rd, xreg rs1, bits .imm imm 4 0]

def opReg : List Encoding :=
  [(.add, 0b0000000, 0), (.sub, 0b0100000, 0), (.sll, 0b0000000, 1), (.slt, 0b0000000, 2),
    (.sltu, 0b0000000, 3), (.xor, 0b0000000, 4), (.srl, 0b0000000, 5), (.sra, 0b0100000, 5),
    (.or, 0b0000000, 6), (.and, 0b0000000, 7), (.mul, 0b0000001, 0), (.mulh, 0b0000001, 1),
    (.mulhsu, 0b0000001, 2), (.mulhu, 0b0000001, 3), (.div, 0b0000001, 4), (.divu, 0b0000001, 5),
    (.rem, 0b0000001, 6), (.remu, 0b0000001, 7)].map fun (op, funct7, funct3) =>
      word op (rType funct7 (reg rs2) (fixed 3 funct3) 0b0110011) [xreg rd, xreg rs1, xreg rs2]

/-- The ordinary fence: the mode `fm` is zero. -/
def fence : List Encoding :=
  [word .fence
      [fixed 4 0, field pred 3 0, field succ 3 0, reg rs1, fixed 3 0, reg rd, fixed 7 0b0001111]
      [bits .pred pred 3 0, bits .succ succ 3 0],
    word .fenceI (iType 1 0b0001111) []]

def system : List Encoding :=
  [(.ecall, 0b000000000000), (.ebreak, 0b000000000001), (.sret, 0b000100000010),
    (.mret, 0b001100000010), (.wfi, 0b000100000101)].map fun (op, funct12) =>
      word op [fixed 12 funct12, fixed 5 0, fixed 3 0, fixed 5 0, fixed 7 0b1110011] []

def sfence : List Encoding :=
  [word .sfenceVma
    [fixed 7 0b0001001, reg rs2, reg rs1, fixed 3 0, fixed 5 0, fixed 7 0b1110011]
    [xreg rs1, xreg rs2]]

def csrType (funct3 : ℕ) : Layout Field :=
  [field csr 11 0, reg rs1, fixed 3 funct3, reg rd, fixed 7 0b1110011]

def csrReg : List Encoding :=
  [(.csrrw, 1), (.csrrs, 2), (.csrrc, 3)].map fun (op, funct3) =>
    word op (csrType funct3) [xreg rd, bits .csr csr 11 0, xreg rs1]

/-- The place of `rs1` holds the immediate. -/
def csrImm : List Encoding :=
  [(.csrrwi, 5), (.csrrsi, 6), (.csrrci, 7)].map fun (op, funct3) =>
    word op (csrType funct3) [xreg rd, bits .csr csr 11 0, bits .zimm rs1 4 0]

def amoType (funct5 : ℕ) (src2 : Slice Field) : Layout Field :=
  [fixed 5 funct5, field aq 0 0, field rl 0 0, src2, reg rs1, fixed 3 2, reg rd, fixed 7 0b0101111]

def atomic : List Encoding :=
  word .lrW (amoType 0b00010 (fixed 5 0)) [bits .aq aq 0 0, bits .rl rl 0 0, xreg rd, xreg rs1] ::
  [(.scW, 0b00011), (.amoswapW, 0b00001), (.amoaddW, 0b00000), (.amoxorW, 0b00100),
    (.amoandW, 0b01100), (.amoorW, 0b01000), (.amominW, 0b10000), (.amomaxW, 0b10100),
    (.amominuW, 0b11000), (.amomaxuW, 0b11100)].map fun (op, funct5) =>
      word op (amoType funct5 (reg rs2))
        [bits .aq aq 0 0, bits .rl rl 0 0, xreg rd, xreg rs2, xreg rs1]

/-! ### Floating point -/

def floatLoad : List Encoding :=
  [(.flw, 2), (.fld, 3)].map fun (op, width) =>
    word op (iType width 0b0000111) [freg rd, sbits .imm imm 11 0, xreg rs1]

def floatStore : List Encoding :=
  [(.fsw, 2), (.fsd, 3)].map fun (op, width) =>
    word op (sType width 0b0100111) [freg rs2, sbits .imm imm 11 0, xreg rs1]

def floatFused : List Encoding :=
  [(.fmaddS, 0, 0b1000011), (.fmsubS, 0, 0b1000111), (.fnmsubS, 0, 0b1001011),
    (.fnmaddS, 0, 0b1001111), (.fmaddD, 1, 0b1000011), (.fmsubD, 1, 0b1000111),
    (.fnmsubD, 1, 0b1001011), (.fnmaddD, 1, 0b1001111)].map fun (op, fmt, opcode) =>
      word op (r4Type fmt opcode) [bits .rm rm 2 0, freg rd, freg rs1, freg rs2, freg rs3]

def floatArith : List Encoding :=
  [(.faddS, 0b0000000), (.fsubS, 0b0000100), (.fmulS, 0b0001000), (.fdivS, 0b0001100),
    (.faddD, 0b0000001), (.fsubD, 0b0000101), (.fmulD, 0b0001001), (.fdivD, 0b0001101)].map
    fun (op, funct7) =>
      word op (rType funct7 (reg rs2) (field rm 2 0) 0b1010011)
        [bits .rm rm 2 0, freg rd, freg rs1, freg rs2]

/-- Sign injections, minima and maxima. -/
def floatSelect : List Encoding :=
  [(.fsgnjS, 0b0010000, 0), (.fsgnjnS, 0b0010000, 1), (.fsgnjxS, 0b0010000, 2),
    (.fminS, 0b0010100, 0), (.fmaxS, 0b0010100, 1), (.fsgnjD, 0b0010001, 0),
    (.fsgnjnD, 0b0010001, 1), (.fsgnjxD, 0b0010001, 2), (.fminD, 0b0010101, 0),
    (.fmaxD, 0b0010101, 1)].map fun (op, funct7, funct3) =>
      word op (rType funct7 (reg rs2) (fixed 3 funct3) 0b1010011) [freg rd, freg rs1, freg rs2]

def floatCompare : List Encoding :=
  [(.fleS, 0b1010000, 0), (.fltS, 0b1010000, 1), (.feqS, 0b1010000, 2), (.fleD, 0b1010001, 0),
    (.fltD, 0b1010001, 1), (.feqD, 0b1010001, 2)].map fun (op, funct7, funct3) =>
      word op (rType funct7 (reg rs2) (fixed 3 funct3) 0b1010011) [xreg rd, freg rs1, freg rs2]

/-- Square roots and conversions: `funct7`, the second source, and the registers. -/
def floatConvert : List Encoding :=
  [(.fsqrtS, 0b0101100, 0, freg, freg), (.fsqrtD, 0b0101101, 0, freg, freg),
    (.fcvtSD, 0b0100000, 1, freg, freg), (.fcvtDS, 0b0100001, 0, freg, freg),
    (.fcvtWS, 0b1100000, 0, xreg, freg), (.fcvtWuS, 0b1100000, 1, xreg, freg),
    (.fcvtWD, 0b1100001, 0, xreg, freg), (.fcvtWuD, 0b1100001, 1, xreg, freg),
    (.fcvtSW, 0b1101000, 0, freg, xreg), (.fcvtSWu, 0b1101000, 1, freg, xreg),
    (.fcvtDW, 0b1101001, 0, freg, xreg), (.fcvtDWu, 0b1101001, 1, freg, xreg)].map
    fun (op, funct7, src2, dst, src) =>
      word op (rType funct7 (fixed 5 src2) (field rm 2 0) 0b1010011)
        [bits .rm rm 2 0, dst rd, src rs1]

/-- Moves of bits between the register files, and classification. -/
def floatMove : List Encoding :=
  [(.fmvXS, 0b1110000, 0, xreg, freg), (.fclassS, 0b1110000, 1, xreg, freg),
    (.fmvSX, 0b1111000, 0, freg, xreg), (.fclassD, 0b1110001, 1, xreg, freg)].map
    fun (op, funct7, funct3, dst, src) =>
      word op (rType funct7 (fixed 5 0) (fixed 3 funct3) 0b1010011) [dst rd, src rs1]

/-! ### Compressed instructions -/

/-- The field is not zero. -/
def nonzero (f : Field) (hi lo : ℕ) : Exclusion Field := ⟨f, hi, lo, 0⟩

/-- The boxes of an offset scaled by four, and by eight, around a register. -/
def offset4 (r : Slice Field) : Layout Field := [field imm 5 3, r, field imm 2 2, field imm 6 6]
def offset8 (r : Slice Field) : Layout Field := [field imm 5 3, r, field imm 7 6]

def compressed0 : List Encoding :=
  { op := .cAddi4spn
    expansion := .addi
    layout := [fixed 3 0, field imm 5 4, field imm 9 6, field imm 2 2, field imm 3 3, reg3 rd,
      fixed 2 0]
    operands := [xreg3 rd, xlit 2, bits .imm imm 9 2]
    excluded := [nonzero imm 9 2] } ::
  [(.cFld, .fld, 1, offset8 (reg3 rs1), rd, bits .imm imm 7 3, freg3 rd),
    (.cLw, .lw, 2, offset4 (reg3 rs1), rd, bits .imm imm 6 2, xreg3 rd),
    (.cFlw, .flw, 3, offset4 (reg3 rs1), rd, bits .imm imm 6 2, freg3 rd),
    (.cFsd, .fsd, 5, offset8 (reg3 rs1), rs2, bits .imm imm 7 3, freg3 rs2),
    (.cSw, .sw, 6, offset4 (reg3 rs1), rs2, bits .imm imm 6 2, xreg3 rs2),
    (.cFsw, .fsw, 7, offset4 (reg3 rs1), rs2, bits .imm imm 6 2, freg3 rs2)].map
    fun (op, expansion, funct3, boxes, r, offset, data) =>
      { op, expansion
        layout := fixed 3 funct3 :: boxes ++ [reg3 r, fixed 2 0]
        operands := [data, offset, xreg3 rs1] }

/-- The boxes of a jump offset. -/
def cjType (funct3 : ℕ) : Layout Field :=
  [fixed 3 funct3, field imm 11 11, field imm 4 4, field imm 9 8, field imm 10 10, field imm 6 6,
    field imm 7 7, field imm 3 1, field imm 5 5, fixed 2 1]

def cbType (funct3 : ℕ) : Layout Field :=
  [fixed 3 funct3, field imm 8 8, field imm 4 3, reg3 rs1, field imm 7 6, field imm 2 1,
    field imm 5 5, fixed 2 1]

def ciType (funct3 quadrant : ℕ) : Layout Field :=
  [fixed 3 funct3, field imm 5 5, reg rd, field imm 4 0, fixed 2 quadrant]

def compressed1 : List Encoding :=
  [{ op := .cNop
     expansion := .addi
     layout := [fixed 3 0, fixed 1 0, fixed 5 0, fixed 5 0, fixed 2 1]
     operands := [xlit 0, xlit 0, (.imm, .lit 0)] },
   { op := .cAddi
     expansion := .addi
     layout := ciType 0 1
     operands := [xreg rd, xreg rd, sbits .imm imm 5 0]
     excluded := [nonzero rd 4 0] },
   { op := .cJal
     expansion := .jal
     layout := cjType 1
     operands := [xlit 1, sbits .offset imm 11 1] },
   { op := .cLi
     expansion := .addi
     layout := ciType 2 1
     operands := [xreg rd, xlit 0, sbits .imm imm 5 0] },
   { op := .cAddi16sp
     expansion := .addi
     layout := [fixed 3 3, field imm 9 9, fixed 5 2, field imm 4 4, field imm 6 6, field imm 8 7,
       field imm 5 5, fixed 2 1]
     operands := [xlit 2, xlit 2, sbits .imm imm 9 4]
     excluded := [nonzero imm 9 4] },
   { op := .cLui
     expansion := .lui
     layout := [fixed 3 3, field imm 17 17, reg rd, field imm 16 12, fixed 2 1]
     operands := [xreg rd, sbits .imm imm 17 12]
     excluded := [⟨rd, 4, 0, 2⟩, nonzero imm 17 12] },
   { op := .cAndi
     expansion := .andi
     layout := [fixed 3 4, field imm 5 5, fixed 2 2, reg3 rd, field imm 4 0, fixed 2 1]
     operands := [xreg3 rd, xreg3 rd, sbits .imm imm 5 0] },
   { op := .cJ
     expansion := .jal
     layout := cjType 5
     operands := [xlit 0, sbits .offset imm 11 1] },
   { op := .cBeqz
     expansion := .beq
     layout := cbType 6
     operands := [xreg3 rs1, xlit 0, sbits .offset imm 8 1] },
   { op := .cBnez
     expansion := .bne
     layout := cbType 7
     operands := [xreg3 rs1, xlit 0, sbits .offset imm 8 1] }]

/-- The shifts to the right, and the operations on two registers. -/
def compressedAlu : List Encoding :=
  [(.cSrli, .srli, 0), (.cSrai, .srai, 1)].map (fun (op, expansion, funct2) =>
    { op, expansion
      layout := [fixed 3 4, fixed 1 0, fixed 2 funct2, reg3 rd, field imm 4 0, fixed 2 1]
      operands := [xreg3 rd, xreg3 rd, bits .imm imm 4 0]
      excluded := [nonzero imm 4 0] }) ++
  [(.cSub, .sub, 0), (.cXor, .xor, 1), (.cOr, .or, 2), (.cAnd, .and, 3)].map
    fun (op, expansion, funct2) =>
      { op, expansion
        layout := [fixed 3 4, fixed 1 0, fixed 2 3, reg3 rd, fixed 2 funct2, reg3 rs2, fixed 2 1]
        operands := [xreg3 rd, xreg3 rd, xreg3 rs2] }

/-- The jumps through registers, `c.mv`, `c.add` and `c.ebreak` differ in which registers are
zero. -/
def compressedReg : List Encoding :=
  [{ op := .cJr
     expansion := .jalr
     layout := [fixed 3 4, fixed 1 0, reg rs1, fixed 5 0, fixed 2 2]
     operands := [xlit 0, xreg rs1, (.imm, .lit 0)]
     excluded := [nonzero rs1 4 0] },
   { op := .cMv
     expansion := .add
     layout := [fixed 3 4, fixed 1 0, reg rd, reg rs2, fixed 2 2]
     operands := [xreg rd, xlit 0, xreg rs2]
     excluded := [nonzero rs2 4 0] },
   { op := .cEbreak
     expansion := .ebreak
     layout := [fixed 3 4, fixed 1 1, fixed 5 0, fixed 5 0, fixed 2 2]
     operands := [] },
   { op := .cJalr
     expansion := .jalr
     layout := [fixed 3 4, fixed 1 1, reg rs1, fixed 5 0, fixed 2 2]
     operands := [xlit 1, xreg rs1, (.imm, .lit 0)]
     excluded := [nonzero rs1 4 0] },
   { op := .cAdd
     expansion := .add
     layout := [fixed 3 4, fixed 1 1, reg rd, reg rs2, fixed 2 2]
     operands := [xreg rd, xreg rd, xreg rs2]
     excluded := [nonzero rs2 4 0] }]

/-- The shift to the left, and the loads and stores relative to the stack pointer. -/
def compressedStack : List Encoding :=
  { op := .cSlli
    expansion := .slli
    layout := [fixed 3 0, fixed 1 0, reg rd, field imm 4 0, fixed 2 2]
    operands := [xreg rd, xreg rd, bits .imm imm 4 0]
    excluded := [nonzero imm 4 0] } ::
  { op := .cLwsp
    expansion := .lw
    layout := [fixed 3 2, field imm 5 5, reg rd, field imm 4 2, field imm 7 6, fixed 2 2]
    operands := [xreg rd, bits .imm imm 7 2, xlit 2]
    excluded := [nonzero rd 4 0] } ::
  [(.cFldsp, .fld, 1, [field imm 5 5, reg rd, field imm 4 3, field imm 8 6],
      bits .imm imm 8 3, freg rd),
    (.cFlwsp, .flw, 3, [field imm 5 5, reg rd, field imm 4 2, field imm 7 6],
      bits .imm imm 7 2, freg rd),
    (.cFsdsp, .fsd, 5, [field imm 5 3, field imm 8 6, reg rs2], bits .imm imm 8 3, freg rs2),
    (.cSwsp, .sw, 6, [field imm 5 2, field imm 7 6, reg rs2], bits .imm imm 7 2, xreg rs2),
    (.cFswsp, .fsw, 7, [field imm 5 2, field imm 7 6, reg rs2], bits .imm imm 7 2, freg rs2)].map
    fun (op, expansion, funct3, boxes, offset, data) =>
      { op, expansion
        layout := fixed 3 funct3 :: boxes ++ [fixed 2 2]
        operands := [data, offset, xlit 2] }

end Manual

open Manual in
/-- The rows, by kinds of instructions. -/
def encodingGroups : List (List Encoding) :=
  [upper, jump, branch, load, store, opImm, shiftImm, opReg, fence, system, sfence, csrReg, csrImm,
    atomic, floatLoad, floatStore, floatFused, floatArith, floatSelect, floatCompare, floatConvert,
    floatMove, compressed0, compressed1, compressedAlu, compressedReg, compressedStack]

/-- The rows for RV32IMAFDC with control registers and privileged instructions. -/
def encodings : List Encoding := encodingGroups.flatten

/-! ## Checking a row -/

/-- The expression that a codec has for a field. -/
def Source.expr (o : CodecOperands) : Source → Option Expr
  | rd => o.rd
  | rs1 => o.rs1
  | rs2 => o.rs2
  | rs3 => o.rs3
  | imm => o.imm
  | csr => o.imm
  | rm => o.rm
  | pred => o.pred
  | succ => o.succ
  | aq => o.aq
  | rl => o.rl

/-- The bits of a field. -/
def Source.width : Source → ℕ
  | imm => 32
  | csr => 12
  | _ => 8

/-- A codec reads an operand from the words with a layout. -/
def Source.Reads (o : CodecOperands) (L : Layout Field) (s : Source) (r : Reading) : Prop :=
  match s.expr o with
  | none => r = .lit 0
  | some e => e.reads 64 L.wire s.width r.wire ∧ ∀ i < 32, s.width ≤ i → r.wire i = .const false

instance (o : CodecOperands) (L : Layout Field) (s : Source) (r : Reading) :
    Decidable (s.Reads o L r) := by
  unfold Source.Reads
  split <;> infer_instance

/-- The decoder follows a row, where the values `xs` are excluded. -/
structure Encoding.Checked (e : Encoding) (xs : List (Exclusion Field)) : Prop where
  op : (opcodeTree .rv32).run 64 e.layout.wire xs = some e.op
  expansion : e.expansion = if (opcodeData e.op).decomp .rv32 ≠ .illegal then
    (opcodeData e.op).decomp .rv32 else e.op
  nonzero : (opcodeData e.op).decompData &&& rvcdImmNz ≠ 0 →
    (codecOperands (opcodeData e.op).codec).imm.any fun i =>
      (i &&& .lit (2 ^ 32 - 1)).isNotLit 64 e.layout.wire xs 0
  operands : List.Forall₂
    (fun t p => t.1 = p.1 ∧ t.2.Reads (codecOperands (opcodeData e.op).codec) e.layout p.2)
    (opcodeData e.expansion).format.tokens e.operands

instance (e : Encoding) (xs : List (Exclusion Field)) : Decidable (e.Checked xs) :=
  decidable_of_iff
    ((opcodeTree .rv32).run 64 e.layout.wire xs = some e.op ∧
      (e.expansion = if (opcodeData e.op).decomp .rv32 ≠ .illegal then
        (opcodeData e.op).decomp .rv32 else e.op) ∧
      ((opcodeData e.op).decompData &&& rvcdImmNz ≠ 0 →
        (codecOperands (opcodeData e.op).codec).imm.any fun i =>
          (i &&& .lit (2 ^ 32 - 1)).isNotLit 64 e.layout.wire xs 0) ∧
      List.Forall₂
        (fun t p => t.1 = p.1 ∧ t.2.Reads (codecOperands (opcodeData e.op).codec) e.layout p.2)
        (opcodeData e.expansion).format.tokens e.operands)
    ⟨fun ⟨hop, hexp, hnz, hops⟩ => ⟨hop, hexp, hnz, hops⟩,
      fun ⟨hop, hexp, hnz, hops⟩ => ⟨hop, hexp, hnz, hops⟩⟩

/-- The values of the fields for which the disassembler has another instruction: it expands `c.mv`
to an addition of zero, and takes `c.andi` with an immediate of zero for no instruction. -/
def Encoding.Misread (e : Encoding) (env : Field → BitVec 32) : Prop :=
  e.op = .cMv ∨ e.op = .cAndi ∧ (env .imm).extractLsb 5 0 = 0

instance (e : Encoding) (env : Field → BitVec 32) : Decidable (e.Misread env) :=
  inferInstanceAs (Decidable (e.op = .cMv ∨ e.op = .cAndi ∧ (env .imm).extractLsb 5 0 = 0))

/-- The exclusion of `c.andi` with an immediate of zero. -/
def Encoding.dropped (e : Encoding) : List (Exclusion Field) :=
  if e.op = .cAndi then [⟨.imm, 5, 0, 0⟩] else []

theorem Encoding.holds_dropped {e : Encoding} {env : Field → BitVec 32} (h : ¬e.Misread env) :
    ∀ x ∈ e.dropped, x.Holds env := by
  unfold dropped
  split_ifs with hop
  · exact List.forall_mem_singleton.mpr fun hzero => h (.inr ⟨hop, hzero⟩)
  · exact List.forall_mem_nil _

/-- **The decoder follows the rows of the manual**, that of `c.mv` apart. -/
theorem checked_of_mem :
    ∀ e ∈ encodings, e.op ≠ .cMv → e.Checked (e.excluded ++ e.dropped) := by
  decide +kernel

/-! ## What a checked row says -/

theorem getLsbD_assign (inst : BitVec 64) {m i : ℕ} (o : Option Expr) (hi : i < m) :
    (assign inst (0#m) o).getLsbD i = o.elim false fun e => (e.eval inst).getLsbD i := by
  cases o with
  | none => exact BitVec.getLsbD_zero
  | some e => rw [assign, BitVec.getLsbD_setWidth, decide_eq_true hi, Bool.true_and, Option.elim_some]

theorem Source.getLsbD_read (pc inst : BitVec 64) (op : RvOp) (s : Source) {i : ℕ} (hi : i < 32) :
    (s.read (decodeInstOperands { pc, inst, op })).getLsbD i =
      (decide (i < s.width) && (s.expr (codecOperands (opcodeData op).codec)).elim false
        fun e => (e.eval inst).getLsbD i) := by
  have hbyte : ∀ o : Option Expr, ((assign inst (0#8) o).setWidth 32).getLsbD i =
      (decide (i < 8) && o.elim false fun e => (e.eval inst).getLsbD i) := by
    intro o
    rw [BitVec.getLsbD_setWidth, decide_eq_true hi, Bool.true_and]
    by_cases h : i < 8
    · rw [getLsbD_assign inst o h, decide_eq_true h, Bool.true_and]
    · rw [BitVec.getLsbD_of_ge _ _ (Nat.le_of_not_lt h), decide_eq_false h, Bool.false_and]
  cases s with
  | imm =>
    exact (getLsbD_assign inst _ hi).trans (by rw [width, decide_eq_true hi, Bool.true_and]; rfl)
  | csr =>
    have hmask : (0xfff : BitVec 32).getLsbD i = decide (i < 12) := by
      rw [show (0xfff : BitVec 32) = BitVec.ofNat 32 (2 ^ 12 - 1) from rfl, BitVec.getLsbD_ofNat,
        Nat.testBit_two_pow_sub_one, decide_eq_true hi, Bool.true_and]
    rw [Source.read, BitVec.getLsbD_and, hmask, Bool.and_comm]
    exact congrArg _ (getLsbD_assign inst _ hi)
  | _ => exact hbyte _

/-- The operands that a codec reads from a word with a layout. -/
theorem Source.read_of_reads {L : Layout Field} {env : Field → BitVec 32} {inst : BitVec 64}
    (h : L.Matches env inst) {op : RvOp} {s : Source} {r : Reading}
    (hr : s.Reads (codecOperands (opcodeData op).codec) L r) (pc : BitVec 64) :
    s.read (decodeInstOperands { pc, inst, op }) = r.value env := by
  apply BitVec.eq_of_getLsbD_eq
  intro i hi
  rw [s.getLsbD_read pc inst op hi, r.getLsbD_value env hi]
  unfold Source.Reads at hr
  split at hr
  case h_1 hnone =>
    rw [hnone, hr, Option.elim_none, Bool.and_false]
    exact BitVec.getLsbD_zero.symm
  case h_2 e hsome =>
    obtain ⟨hreads, hhigh⟩ := hr
    rw [hsome, Option.elim_some]
    have hwidth : s.width ≤ 64 := by cases s <;> decide
    by_cases hlt : i < s.width
    · rw [decide_eq_true hlt, Bool.true_and]
      exact Expr.getLsbD_of_reads h hreads hwidth hlt
    · rw [decide_eq_false hlt, Bool.false_and, hhigh i hi (Nat.le_of_not_lt hlt)]
      rfl

theorem line_eq_meaning {e : Encoding} {xs : List (Exclusion Field)} (hc : e.Checked xs)
    {env : Field → BitVec 32} {inst : BitVec 64} (h : e.layout.Matches env inst) (pc : BitVec 64) :
    (decodeInstOperands { pc, inst, op := e.op }).line e.expansion = e.meaning env := by
  rw [RvDecode.line, Encoding.meaning]
  congr 1
  rw [← List.forall₂_eq_eq_eq, List.forall₂_map_left_iff, List.forall₂_map_right_iff]
  exact hc.operands.imp fun t p htp => by rw [htp.1, Source.read_of_reads h htp.2 pc]

/-- The immediate of a row that must have one is not zero. -/
theorem imm_ne_zero {e : Encoding} {xs : List (Exclusion Field)} (hc : e.Checked xs)
    {env : Field → BitVec 32} (hx : ∀ x ∈ xs, x.Holds env) {inst : BitVec 64}
    (h : e.layout.Matches env inst) (hnz : (opcodeData e.op).decompData &&& rvcdImmNz ≠ 0)
    (pc : BitVec 64) : (decodeInstOperands { pc, inst, op := e.op }).imm ≠ 0 := by
  intro hzero
  have hnot := hc.nonzero hnz
  cases hi : (codecOperands (opcodeData e.op).codec).imm with
  | none =>
    rw [hi] at hnot
    exact absurd hnot Bool.false_ne_true
  | some i =>
    rw [hi] at hnot
    -- the immediate has 32 bits, the expression 64
    have himm : (i.eval inst).setWidth 32 = 0#32 :=
      (congrArg (assign inst (0#32)) hi).symm.trans hzero
    refine Expr.eval_ne_of_isNotLit h hx hnot (BitVec.eq_of_getLsbD_eq fun j hj => ?_)
    change (i.eval inst &&& BitVec.ofNat 64 (2 ^ 32 - 1)).getLsbD j = (BitVec.ofNat 64 0).getLsbD j
    rw [BitVec.getLsbD_and, BitVec.getLsbD_ofNat, Nat.testBit_two_pow_sub_one,
      BitVec.getLsbD_ofNat, Nat.zero_testBit, Bool.and_false]
    by_cases hlt : j < 32
    · have hbit := congrArg (·.getLsbD j) himm
      simp only [BitVec.getLsbD_setWidth, hlt, decide_true, Bool.true_and,
        BitVec.getLsbD_zero] at hbit
      rw [hbit, Bool.false_and]
    · rw [decide_eq_false hlt, Bool.and_false, Bool.and_false]

theorem decompressed_of_checked {e : Encoding} {xs : List (Exclusion Field)} (hc : e.Checked xs)
    {env : Field → BitVec 32} (hx : ∀ x ∈ xs, x.Holds env) {inst : BitVec 64}
    (h : e.layout.Matches env inst) (pc : BitVec 64) :
    (decompressed .rv32 pc inst).assembly = e.meaning env := by
  have hop : (decodeInstOpcode .rv32 { pc, inst }) = { pc, inst, op := e.op } := by
    rw [decodeInstOpcode, Switch.eval_of_run h hx hc.op]
  have hop' : (decodeInstOperands { pc, inst, op := e.op }).op = e.op := rfl
  rw [decompressed, hop, decodeInstDecompress, hop', ← line_eq_meaning hc h pc, hc.expansion]
  split_ifs with hdecomp hzero
  · exact absurd hzero.2 (imm_ne_zero hc hx h hzero.1 pc)
  · exact assembly_with _ _ _
  · rfl

/-! ## The disassembler and the manual -/

/-- `c.andi` with an immediate of zero is listed as illegal. -/
theorem illegal_of_andi {e : Encoding} (he : e ∈ encodings) {env : Field → BitVec 32}
    (hop : e.op = .cAndi) (hzero : (env .imm).extractLsb 5 0 = 0) {inst : BitVec 64}
    (h : e.layout.Matches env inst) (pc : BitVec 64) :
    e.expansion = .andi ∧ (decompressed .rv32 pc inst).op = .illegal := by
  have hrow : ∀ e ∈ encodings, e.op = .cAndi → e.expansion = .andi ∧
      (opcodeTree .rv32).run 64 e.layout.wire [] = some .cAndi ∧
        Source.imm.Reads (codecOperands (opcodeData .cAndi).codec) e.layout (.signed .imm 5 0) := by
    decide +kernel
  obtain ⟨hexp, hrun, hreads⟩ := hrow e he hop
  have heval : decodeInstOpcode .rv32 { pc, inst } = { pc, inst, op := .cAndi } := by
    rw [decodeInstOpcode, Switch.eval_of_run h (List.forall_mem_nil _) hrun]
  have himm : (decodeInstOperands { pc, inst, op := .cAndi }).imm = 0 := by
    refine (Source.read_of_reads h hreads pc).trans ?_
    rw [Reading.value, hzero]
    rfl
  have hop' : (decodeInstOperands { pc, inst, op := .cAndi }).op = .cAndi := rfl
  have hdecomp : (opcodeData .cAndi).decomp .rv32 ≠ .illegal := by decide
  have hnz : (opcodeData .cAndi).decompData &&& rvcdImmNz ≠ 0 := by decide
  refine ⟨hexp, ?_⟩
  rw [decompressed, heval, decodeInstDecompress, hop', if_pos hdecomp, if_pos ⟨hnz, himm⟩]

/-- `c.mv` is listed as an addition of an immediate. -/
theorem addi_of_mv {e : Encoding} (he : e ∈ encodings) {env : Field → BitVec 32}
    (hadm : e.Admits env) (hop : e.op = .cMv) {inst : BitVec 64} (h : e.layout.Matches env inst)
    (pc : BitVec 64) : e.expansion = .add ∧ (decompressed .rv32 pc inst).op = .addi := by
  have hrow : ∀ e ∈ encodings, e.op = .cMv → e.expansion = .add ∧
      (opcodeTree .rv32).run 64 e.layout.wire e.excluded = some .cMv := by
    decide +kernel
  obtain ⟨hexp, hrun⟩ := hrow e he hop
  have heval : decodeInstOpcode .rv32 { pc, inst } = { pc, inst, op := .cMv } := by
    rw [decodeInstOpcode, Switch.eval_of_run h hadm hrun]
  have hop' : (decodeInstOperands { pc, inst, op := .cMv }).op = .cMv := rfl
  have hdecomp : (opcodeData .cMv).decomp .rv32 ≠ .illegal := by decide
  have hnz : ¬(opcodeData .cMv).decompData &&& rvcdImmNz ≠ 0 := by decide
  refine ⟨hexp, ?_⟩
  rw [decompressed, heval, decodeInstDecompress, hop', if_pos hdecomp, if_neg fun h => hnz h.1]
  rfl

/-- The instruction that is listed for a row that is misread is another one, and not garbled. -/
theorem op_ne_of_misread {e : Encoding} (he : e ∈ encodings) {env : Field → BitVec 32}
    (hadm : e.Admits env) (hmisread : e.Misread env) {inst : BitVec 64}
    (h : e.layout.Matches env inst) (pc : BitVec 64) :
    (decompressed .rv32 pc inst).op ≠ e.expansion ∧
      ¬Garbled (decompressed .rv32 pc inst).assembly := by
  rw [garbled_iff]
  rcases hmisread with hmv | ⟨handi, hzero⟩
  · obtain ⟨hexp, hop⟩ := addi_of_mv he hadm hmv h pc
    rw [hop, hexp]
    exact ⟨by decide, by simp [signInjections]⟩
  · obtain ⟨hexp, hop⟩ := illegal_of_andi he handi hzero h pc
    rw [hop, hexp]
    exact ⟨by decide, by simp [signInjections]⟩

/-- **The disassembler reads an instruction as the manual has it**, if it does not misread it. -/
theorem decompressed_iff {e : Encoding} (he : e ∈ encodings) {env : Field → BitVec 32}
    (hadm : e.Admits env) {inst : BitVec 64} (h : e.layout.Matches env inst) (pc : BitVec 64) :
    (decompressed .rv32 pc inst).assembly = e.meaning env ↔ ¬e.Misread env := by
  constructor
  · intro heq hmisread
    exact (op_ne_of_misread he hadm hmisread h pc).1 (congrArg Prod.fst heq)
  · intro hread
    refine decompressed_of_checked (checked_of_mem e he fun hmv => hread (.inl hmv))
      (fun x hx => ?_) h pc
    exact (List.mem_append.mp hx).elim (hadm x) (e.holds_dropped hread x)

end Disas
end Riscv32Sim
