import Riscv32Sim.Disas.Opcode
import Riscv32Sim.Lib.BitLayout

/-!
# The decoder of the disassembler

The disassembler finds the operation of an instruction with nested `switch` statements over pieces
of the word, reads the operands that its codec names, replaces a compressed instruction by the one
that it stands for, and lifts the result to a pseudo-instruction where the constraints allow it.

## Main definitions

* `opcodeTree`: the `switch` statements
* `codecOperands`: what each codec reads
* `decompressed`: an instruction without its compression
* `decoded`: the same, lifted to a pseudo-instruction
-/

namespace Riscv32Sim
namespace Disas

open BitLayout

/-- A decoded instruction. -/
@[ext]
structure RvDecode where
  pc : BitVec 64
  inst : BitVec 64
  imm : BitVec 32 := 0
  op : RvOp := .illegal
  codec : RvCodec := .illegal
  rd : BitVec 8 := 0
  rs1 : BitVec 8 := 0
  rs2 : BitVec 8 := 0
  rs3 : BitVec 8 := 0
  rm : BitVec 8 := 0
  pred : BitVec 8 := 0
  succ : BitVec 8 := 0
  aq : BitVec 8 := 0
  rl : BitVec 8 := 0

/-- The instruction word, in the expressions of the decoder. -/
abbrev inst : Expr := .word

/-! ## The operation -/

/-- `(inst >> j) & mask` -/
def masked (j mask : ℕ) : Expr := inst >>> j &&& .lit mask

/-- A `switch` statement over operations, which are illegal by default. -/
def switch (sel : Expr) (cases : List (ℕ × Switch RvOp)) (default : RvOp := .illegal) :
    Switch RvOp :=
  .on sel cases (.leaf default)

/-- Compressed instructions, quadrant 0. -/
def opcodeC0 (isa : RvIsa) : Switch RvOp :=
  switch (masked 13 0b111) [
    (0, .leaf .cAddi4spn), (1, .leaf (if isa = .rv128 then .cLq else .cFld)), (2, .leaf .cLw),
    (3, .leaf (if isa = .rv32 then .cFlw else .cLd)),
    (5, .leaf (if isa = .rv128 then .cSq else .cFsd)), (6, .leaf .cSw),
    (7, .leaf (if isa = .rv32 then .cFsw else .cSd))]

/-- Compressed instructions, quadrant 1. -/
def opcodeC1 (isa : RvIsa) : Switch RvOp :=
  switch (masked 13 0b111) [
    (0, switch (masked 2 0b11111111111) [(0, .leaf .cNop)] .cAddi),
    (1, .leaf (if isa = .rv32 then .cJal else .cAddiw)), (2, .leaf .cLi),
    (3, switch (masked 7 0b11111) [(2, .leaf .cAddi16sp)] .cLui),
    (4, switch (masked 10 0b11) [
      (0, .leaf .cSrli), (1, .leaf .cSrai), (2, .leaf .cAndi),
      (3, switch (masked 10 0b100 ||| masked 5 0b011) [
        (0, .leaf .cSub), (1, .leaf .cXor), (2, .leaf .cOr), (3, .leaf .cAnd), (4, .leaf .cSubw),
        (5, .leaf .cAddw)])]),
    (5, .leaf .cJ), (6, .leaf .cBeqz), (7, .leaf .cBnez)]

/-- Compressed instructions, quadrant 2. -/
def opcodeC2 (isa : RvIsa) : Switch RvOp :=
  switch (masked 13 0b111) [
    (0, .leaf .cSlli), (1, .leaf (if isa = .rv128 then .cLqsp else .cFldsp)), (2, .leaf .cLwsp),
    (3, .leaf (if isa = .rv32 then .cFlwsp else .cLdsp)),
    (4, switch (masked 12 0b1) [
      (0, switch (masked 2 0b11111) [(0, .leaf .cJr)] .cMv),
      (1, switch (masked 2 0b11111) [
        (0, switch (masked 7 0b11111) [(0, .leaf .cEbreak)] .cJalr)] .cAdd)]),
    (5, .leaf (if isa = .rv128 then .cSqsp else .cFsdsp)), (6, .leaf .cSwsp),
    (7, .leaf (if isa = .rv32 then .cFswsp else .cSdsp))]

/-- Atomic memory operations. -/
def opcodeAmo : Switch RvOp :=
  switch (masked 24 0b11111000 ||| masked 12 0b00000111) [
    (2, .leaf .amoaddW), (3, .leaf .amoaddD), (4, .leaf .amoaddQ), (10, .leaf .amoswapW),
    (11, .leaf .amoswapD), (12, .leaf .amoswapQ),
    (18, switch (masked 20 0b11111) [(0, .leaf .lrW)]),
    (19, switch (masked 20 0b11111) [(0, .leaf .lrD)]),
    (20, switch (masked 20 0b11111) [(0, .leaf .lrQ)]), (26, .leaf .scW), (27, .leaf .scD),
    (28, .leaf .scQ), (34, .leaf .amoxorW), (35, .leaf .amoxorD), (36, .leaf .amoxorQ),
    (66, .leaf .amoorW), (67, .leaf .amoorD), (68, .leaf .amoorQ), (98, .leaf .amoandW),
    (99, .leaf .amoandD), (100, .leaf .amoandQ), (130, .leaf .amominW), (131, .leaf .amominD),
    (132, .leaf .amominQ), (162, .leaf .amomaxW), (163, .leaf .amomaxD), (164, .leaf .amomaxQ),
    (194, .leaf .amominuW), (195, .leaf .amominuD), (196, .leaf .amominuQ), (226, .leaf .amomaxuW),
    (227, .leaf .amomaxuD), (228, .leaf .amomaxuQ)]

/-- Operations on registers. -/
def opcodeOp : Switch RvOp :=
  switch (masked 22 0b1111111000 ||| masked 12 0b0000000111) [
    (0, .leaf .add), (1, .leaf .sll), (2, .leaf .slt), (3, .leaf .sltu), (4, .leaf .xor),
    (5, .leaf .srl), (6, .leaf .or), (7, .leaf .and), (8, .leaf .mul), (9, .leaf .mulh),
    (10, .leaf .mulhsu), (11, .leaf .mulhu), (12, .leaf .div), (13, .leaf .divu), (14, .leaf .rem),
    (15, .leaf .remu), (256, .leaf .sub), (261, .leaf .sra)]

/-- Operations on the lower words of registers. -/
def opcodeOp32 : Switch RvOp :=
  switch (masked 22 0b1111111000 ||| masked 12 0b0000000111) [
    (0, .leaf .addw), (1, .leaf .sllw), (5, .leaf .srlw), (8, .leaf .mulw), (12, .leaf .divw),
    (13, .leaf .divuw), (14, .leaf .remw), (15, .leaf .remuw), (256, .leaf .subw),
    (261, .leaf .sraw)]

/-- Floating-point operations. -/
def opcodeOpFp : Switch RvOp :=
  switch (masked 25 0b1111111) [
    (0, .leaf .faddS), (1, .leaf .faddD), (3, .leaf .faddQ), (4, .leaf .fsubS), (5, .leaf .fsubD),
    (7, .leaf .fsubQ), (8, .leaf .fmulS), (9, .leaf .fmulD), (11, .leaf .fmulQ),
    (12, .leaf .fdivS), (13, .leaf .fdivD), (15, .leaf .fdivQ),
    (16, switch (masked 12 0b111) [
      (0, .leaf .fsgnjS), (1, .leaf .fsgnjnS), (2, .leaf .fsgnjxS)]),
    (17, switch (masked 12 0b111) [
      (0, .leaf .fsgnjD), (1, .leaf .fsgnjnD), (2, .leaf .fsgnjxD)]),
    (19, switch (masked 12 0b111) [
      (0, .leaf .fsgnjQ), (1, .leaf .fsgnjnQ), (2, .leaf .fsgnjxQ)]),
    (20, switch (masked 12 0b111) [(0, .leaf .fminS), (1, .leaf .fmaxS)]),
    (21, switch (masked 12 0b111) [(0, .leaf .fminD), (1, .leaf .fmaxD)]),
    (23, switch (masked 12 0b111) [(0, .leaf .fminQ), (1, .leaf .fmaxQ)]),
    (32, switch (masked 20 0b11111) [(1, .leaf .fcvtSD), (3, .leaf .fcvtSQ)]),
    (33, switch (masked 20 0b11111) [(0, .leaf .fcvtDS), (3, .leaf .fcvtDQ)]),
    (35, switch (masked 20 0b11111) [(0, .leaf .fcvtQS), (1, .leaf .fcvtQD)]),
    (44, switch (masked 20 0b11111) [(0, .leaf .fsqrtS)]),
    (45, switch (masked 20 0b11111) [(0, .leaf .fsqrtD)]),
    (47, switch (masked 20 0b11111) [(0, .leaf .fsqrtQ)]),
    (80, switch (masked 12 0b111) [(0, .leaf .fleS), (1, .leaf .fltS), (2, .leaf .feqS)]),
    (81, switch (masked 12 0b111) [(0, .leaf .fleD), (1, .leaf .fltD), (2, .leaf .feqD)]),
    (83, switch (masked 12 0b111) [(0, .leaf .fleQ), (1, .leaf .fltQ), (2, .leaf .feqQ)]),
    (96, switch (masked 20 0b11111) [
      (0, .leaf .fcvtWS), (1, .leaf .fcvtWuS), (2, .leaf .fcvtLS), (3, .leaf .fcvtLuS)]),
    (97, switch (masked 20 0b11111) [
      (0, .leaf .fcvtWD), (1, .leaf .fcvtWuD), (2, .leaf .fcvtLD), (3, .leaf .fcvtLuD)]),
    (99, switch (masked 20 0b11111) [
      (0, .leaf .fcvtWQ), (1, .leaf .fcvtWuQ), (2, .leaf .fcvtLQ), (3, .leaf .fcvtLuQ)]),
    (104, switch (masked 20 0b11111) [
      (0, .leaf .fcvtSW), (1, .leaf .fcvtSWu), (2, .leaf .fcvtSL), (3, .leaf .fcvtSLu)]),
    (105, switch (masked 20 0b11111) [
      (0, .leaf .fcvtDW), (1, .leaf .fcvtDWu), (2, .leaf .fcvtDL), (3, .leaf .fcvtDLu)]),
    (107, switch (masked 20 0b11111) [
      (0, .leaf .fcvtQW), (1, .leaf .fcvtQWu), (2, .leaf .fcvtQL), (3, .leaf .fcvtQLu)]),
    (112, switch (masked 17 0b11111000 ||| masked 12 0b00000111) [
      (0, .leaf .fmvXS), (1, .leaf .fclassS)]),
    (113, switch (masked 17 0b11111000 ||| masked 12 0b00000111) [
      (0, .leaf .fmvXD), (1, .leaf .fclassD)]),
    (115, switch (masked 17 0b11111000 ||| masked 12 0b00000111) [
      (0, .leaf .fmvXQ), (1, .leaf .fclassQ)]),
    (120, switch (masked 17 0b11111000 ||| masked 12 0b00000111) [(0, .leaf .fmvSX)]),
    (121, switch (masked 17 0b11111000 ||| masked 12 0b00000111) [(0, .leaf .fmvDX)]),
    (123, switch (masked 17 0b11111000 ||| masked 12 0b00000111) [(0, .leaf .fmvQX)])]

/-- System instructions. -/
def opcodeSystem : Switch RvOp :=
  switch (masked 12 0b111) [
    (0, switch (masked 20 0b111111100000 ||| masked 7 0b000000011111) [
      (0, switch (masked 15 0b1111111111) [
        (0, .leaf .ecall), (32, .leaf .ebreak), (64, .leaf .uret)]),
      (256, switch (masked 20 0b11111) [
        (2, switch (masked 15 0b11111) [(0, .leaf .sret)]), (4, .leaf .sfenceVm),
        (5, switch (masked 15 0b11111) [(0, .leaf .wfi)])]),
      (288, .leaf .sfenceVma), (512, switch (masked 15 0b1111111111) [(64, .leaf .hret)]),
      (768, switch (masked 15 0b1111111111) [(64, .leaf .mret)]),
      (1952, switch (masked 15 0b1111111111) [(576, .leaf .dret)])]),
    (1, .leaf .csrrw), (2, .leaf .csrrs), (3, .leaf .csrrc), (5, .leaf .csrrwi),
    (6, .leaf .csrrsi), (7, .leaf .csrrci)]

/-- Operations on the lower double words of registers. -/
def opcodeOp64 : Switch RvOp :=
  switch (masked 22 0b1111111000 ||| masked 12 0b0000000111) [
    (0, .leaf .addd), (1, .leaf .slld), (5, .leaf .srld), (8, .leaf .muld), (12, .leaf .divd),
    (13, .leaf .divud), (14, .leaf .remd), (15, .leaf .remud), (256, .leaf .subd),
    (261, .leaf .srad)]

/-- Instructions of 32 bits. -/
def opcode32 : Switch RvOp :=
  switch (masked 2 0b11111) [
    (0, switch (masked 12 0b111) [
      (0, .leaf .lb), (1, .leaf .lh), (2, .leaf .lw), (3, .leaf .ld), (4, .leaf .lbu),
      (5, .leaf .lhu), (6, .leaf .lwu), (7, .leaf .ldu)]),
    (1, switch (masked 12 0b111) [(2, .leaf .flw), (3, .leaf .fld), (4, .leaf .flq)]),
    (3, switch (masked 12 0b111) [(0, .leaf .fence), (1, .leaf .fenceI), (2, .leaf .lq)]),
    (4, switch (masked 12 0b111) [
      (0, .leaf .addi), (1, switch (masked 27 0b11111) [(0, .leaf .slli)]), (2, .leaf .slti),
      (3, .leaf .sltiu), (4, .leaf .xori),
      (5, switch (masked 27 0b11111) [(0, .leaf .srli), (8, .leaf .srai)]), (6, .leaf .ori),
      (7, .leaf .andi)]),
    (5, .leaf .auipc),
    (6, switch (masked 12 0b111) [
      (0, .leaf .addiw), (1, switch (masked 25 0b1111111) [(0, .leaf .slliw)]),
      (5, switch (masked 25 0b1111111) [(0, .leaf .srliw), (32, .leaf .sraiw)])]),
    (8, switch (masked 12 0b111) [
      (0, .leaf .sb), (1, .leaf .sh), (2, .leaf .sw), (3, .leaf .sd), (4, .leaf .sq)]),
    (9, switch (masked 12 0b111) [(2, .leaf .fsw), (3, .leaf .fsd), (4, .leaf .fsq)]),
    (11, opcodeAmo), (12, opcodeOp), (13, .leaf .lui), (14, opcodeOp32),
    (16, switch (masked 25 0b11) [
      (0, .leaf .fmaddS), (1, .leaf .fmaddD), (3, .leaf .fmaddQ)]),
    (17, switch (masked 25 0b11) [
      (0, .leaf .fmsubS), (1, .leaf .fmsubD), (3, .leaf .fmsubQ)]),
    (18, switch (masked 25 0b11) [
      (0, .leaf .fnmsubS), (1, .leaf .fnmsubD), (3, .leaf .fnmsubQ)]),
    (19, switch (masked 25 0b11) [
      (0, .leaf .fnmaddS), (1, .leaf .fnmaddD), (3, .leaf .fnmaddQ)]),
    (20, opcodeOpFp),
    (22, switch (masked 12 0b111) [
      (0, .leaf .addid), (1, switch (masked 26 0b111111) [(0, .leaf .sllid)]),
      (5, switch (masked 26 0b111111) [(0, .leaf .srlid), (16, .leaf .sraid)])]),
    (24, switch (masked 12 0b111) [
      (0, .leaf .beq), (1, .leaf .bne), (4, .leaf .blt), (5, .leaf .bge), (6, .leaf .bltu),
      (7, .leaf .bgeu)]),
    (25, switch (masked 12 0b111) [(0, .leaf .jalr)]), (27, .leaf .jal), (28, opcodeSystem),
    (30, opcodeOp64)]

/-- The nested `switch` statements of `decode_inst_opcode`. -/
def opcodeTree (isa : RvIsa) : Switch RvOp :=
  switch (masked 0 0b11) [
    (0, opcodeC0 isa), (1, opcodeC1 isa), (2, opcodeC2 isa), (3, opcode32)]

/-- `decode_inst_opcode` -/
def decodeInstOpcode (isa : RvIsa) (d : RvDecode) : RvDecode :=
  { d with op := (opcodeTree isa).eval d.inst }

/-! ## The operands -/

def operandRd : Expr := inst <<< 52 >>> 59
def operandRs1 : Expr := inst <<< 44 >>> 59
def operandRs2 : Expr := inst <<< 39 >>> 59
def operandRs3 : Expr := inst <<< 32 >>> 59
def operandAq : Expr := inst <<< 37 >>> 63
def operandRl : Expr := inst <<< 38 >>> 63
def operandPred : Expr := inst <<< 36 >>> 60
def operandSucc : Expr := inst <<< 40 >>> 60
def operandRm : Expr := inst <<< 49 >>> 61
def operandShamt5 : Expr := inst <<< 39 >>> 59
def operandShamt6 : Expr := inst <<< 38 >>> 58
def operandShamt7 : Expr := inst <<< 37 >>> 57
def operandCrdq : Expr := inst <<< 59 >>> 61
def operandCrs1q : Expr := inst <<< 54 >>> 61
def operandCrs1rdq : Expr := inst <<< 54 >>> 61
def operandCrs2q : Expr := inst <<< 59 >>> 61
def operandCrd : Expr := inst <<< 52 >>> 59
def operandCrs1 : Expr := inst <<< 52 >>> 59
def operandCrs1rd : Expr := inst <<< 52 >>> 59
def operandCrs2 : Expr := inst <<< 57 >>> 59
def operandCimmsh5 : Expr := inst <<< 57 >>> 59
def operandCsr12 : Expr := inst <<< 32 >>> 52
def operandImm12 : Expr := (inst <<< 32).sshiftRight 52
def operandImm20 : Expr := (inst <<< 32).sshiftRight 44 <<< 12
def operandJimm20 : Expr :=
  (inst <<< 32).sshiftRight 63 <<< 20 ||| inst <<< 33 >>> 54 <<< 1 |||
    inst <<< 43 >>> 63 <<< 11 ||| inst <<< 44 >>> 56 <<< 12
def operandSimm12 : Expr := (inst <<< 32).sshiftRight 57 <<< 5 ||| inst <<< 52 >>> 59
def operandSbimm12 : Expr :=
  (inst <<< 32).sshiftRight 63 <<< 12 ||| inst <<< 33 >>> 58 <<< 5 ||| inst <<< 52 >>> 60 <<< 1 |||
    inst <<< 56 >>> 63 <<< 11
def operandCimmsh6 : Expr := inst <<< 51 >>> 63 <<< 5 ||| inst <<< 57 >>> 59
def operandCimmi : Expr := (inst <<< 51).sshiftRight 63 <<< 5 ||| inst <<< 57 >>> 59
def operandCimmui : Expr := (inst <<< 51).sshiftRight 63 <<< 17 ||| inst <<< 57 >>> 59 <<< 12
def operandCimmlwsp : Expr :=
  inst <<< 51 >>> 63 <<< 5 ||| inst <<< 57 >>> 61 <<< 2 ||| inst <<< 60 >>> 62 <<< 6
def operandCimmldsp : Expr :=
  inst <<< 51 >>> 63 <<< 5 ||| inst <<< 57 >>> 62 <<< 3 ||| inst <<< 59 >>> 61 <<< 6
def operandCimmlqsp : Expr :=
  inst <<< 51 >>> 63 <<< 5 ||| inst <<< 57 >>> 63 <<< 4 ||| inst <<< 58 >>> 60 <<< 6
def operandCimm16sp : Expr :=
  (inst <<< 51).sshiftRight 63 <<< 9 ||| inst <<< 57 >>> 63 <<< 4 ||| inst <<< 58 >>> 63 <<< 6 |||
    inst <<< 59 >>> 62 <<< 7 ||| inst <<< 61 >>> 63 <<< 5
def operandCimmj : Expr :=
  (inst <<< 51).sshiftRight 63 <<< 11 ||| inst <<< 52 >>> 63 <<< 4 ||| inst <<< 53 >>> 62 <<< 8 |||
    inst <<< 55 >>> 63 <<< 10 ||| inst <<< 56 >>> 63 <<< 6 ||| inst <<< 57 >>> 63 <<< 7 |||
    inst <<< 58 >>> 61 <<< 1 ||| inst <<< 61 >>> 63 <<< 5
def operandCimmb : Expr :=
  (inst <<< 51).sshiftRight 63 <<< 8 ||| inst <<< 52 >>> 62 <<< 3 ||| inst <<< 57 >>> 62 <<< 6 |||
    inst <<< 59 >>> 62 <<< 1 ||| inst <<< 61 >>> 63 <<< 5
def operandCimmswsp : Expr := inst <<< 51 >>> 60 <<< 2 ||| inst <<< 55 >>> 62 <<< 6
def operandCimmsdsp : Expr := inst <<< 51 >>> 61 <<< 3 ||| inst <<< 54 >>> 61 <<< 6
def operandCimmsqsp : Expr := inst <<< 51 >>> 62 <<< 4 ||| inst <<< 53 >>> 60 <<< 6
def operandCimm4spn : Expr :=
  inst <<< 51 >>> 62 <<< 4 ||| inst <<< 53 >>> 60 <<< 6 ||| inst <<< 57 >>> 63 <<< 2 |||
    inst <<< 58 >>> 63 <<< 3
def operandCimmw : Expr :=
  inst <<< 51 >>> 61 <<< 3 ||| inst <<< 57 >>> 63 <<< 2 ||| inst <<< 58 >>> 63 <<< 6
def operandCimmd : Expr := inst <<< 51 >>> 61 <<< 3 ||| inst <<< 57 >>> 62 <<< 6
def operandCimmq : Expr :=
  inst <<< 51 >>> 62 <<< 4 ||| inst <<< 53 >>> 63 <<< 8 ||| inst <<< 57 >>> 62 <<< 6

/-- The fields that `decode_inst_operands` sets, and what it sets them to. -/
structure CodecOperands where
  rd : Option Expr := none
  rs1 : Option Expr := none
  rs2 : Option Expr := none
  rs3 : Option Expr := none
  rm : Option Expr := none
  pred : Option Expr := none
  succ : Option Expr := none
  aq : Option Expr := none
  rl : Option Expr := none
  imm : Option Expr := none

def rvIregZero : Expr := 0
def rvIregRa : Expr := 1
def rvIregSp : Expr := 2

/-- The cases of `decode_inst_operands`. -/
def codecOperands : RvCodec → CodecOperands
  | .illegal => {}
  | .none => { rd := rvIregZero, rs1 := rvIregZero, rs2 := rvIregZero, imm := some 0 }
  | .u => { rd := operandRd, rs1 := rvIregZero, rs2 := rvIregZero, imm := operandImm20 }
  | .uj => { rd := operandRd, rs1 := rvIregZero, rs2 := rvIregZero, imm := operandJimm20 }
  | .i => { rd := operandRd, rs1 := operandRs1, rs2 := rvIregZero, imm := operandImm12 }
  | .iSh5 => { rd := operandRd, rs1 := operandRs1, rs2 := rvIregZero, imm := operandShamt5 }
  | .iSh6 => { rd := operandRd, rs1 := operandRs1, rs2 := rvIregZero, imm := operandShamt6 }
  | .iSh7 => { rd := operandRd, rs1 := operandRs1, rs2 := rvIregZero, imm := operandShamt7 }
  | .iCsr => { rd := operandRd, rs1 := operandRs1, rs2 := rvIregZero, imm := operandCsr12 }
  | .s => { rd := rvIregZero, rs1 := operandRs1, rs2 := operandRs2, imm := operandSimm12 }
  | .sb => { rd := rvIregZero, rs1 := operandRs1, rs2 := operandRs2, imm := operandSbimm12 }
  | .r => { rd := operandRd, rs1 := operandRs1, rs2 := operandRs2, imm := some 0 }
  | .rM => { rd := operandRd, rs1 := operandRs1, rs2 := operandRs2, rm := operandRm, imm := some 0 }
  | .r4M =>
    { rd := operandRd, rs1 := operandRs1, rs2 := operandRs2, rs3 := operandRs3, rm := operandRm,
      imm := some 0 }
  | .rA =>
    { rd := operandRd, rs1 := operandRs1, rs2 := operandRs2, aq := operandAq, rl := operandRl,
      imm := some 0 }
  | .rL =>
    { rd := operandRd, rs1 := operandRs1, rs2 := rvIregZero, aq := operandAq, rl := operandRl,
      imm := some 0 }
  | .rF =>
    { rd := rvIregZero, rs1 := rvIregZero, rs2 := rvIregZero, pred := operandPred,
      succ := operandSucc, imm := some 0 }
  | .cb =>
    { rd := rvIregZero, rs1 := some (operandCrs1q + 8), rs2 := rvIregZero, imm := operandCimmb }
  | .cbImm =>
    { rd := some (operandCrs1rdq + 8), rs1 := some (operandCrs1rdq + 8), rs2 := rvIregZero,
      imm := operandCimmi }
  | .cbSh5 =>
    { rd := some (operandCrs1rdq + 8), rs1 := some (operandCrs1rdq + 8), rs2 := rvIregZero,
      imm := operandCimmsh5 }
  | .cbSh6 =>
    { rd := some (operandCrs1rdq + 8), rs1 := some (operandCrs1rdq + 8), rs2 := rvIregZero,
      imm := operandCimmsh6 }
  | .ci => { rd := operandCrs1rd, rs1 := operandCrs1rd, rs2 := rvIregZero, imm := operandCimmi }
  | .ciSh5 =>
    { rd := operandCrs1rd, rs1 := operandCrs1rd, rs2 := rvIregZero, imm := operandCimmsh5 }
  | .ciSh6 =>
    { rd := operandCrs1rd, rs1 := operandCrs1rd, rs2 := rvIregZero, imm := operandCimmsh6 }
  | .ci16sp => { rd := rvIregSp, rs1 := rvIregSp, rs2 := rvIregZero, imm := operandCimm16sp }
  | .ciLwsp => { rd := operandCrd, rs1 := rvIregSp, rs2 := rvIregZero, imm := operandCimmlwsp }
  | .ciLdsp => { rd := operandCrd, rs1 := rvIregSp, rs2 := rvIregZero, imm := operandCimmldsp }
  | .ciLqsp => { rd := operandCrd, rs1 := rvIregSp, rs2 := rvIregZero, imm := operandCimmlqsp }
  | .ciLi => { rd := operandCrd, rs1 := rvIregZero, rs2 := rvIregZero, imm := operandCimmi }
  | .ciLui => { rd := operandCrd, rs1 := rvIregZero, rs2 := rvIregZero, imm := operandCimmui }
  | .ciNone => { rd := rvIregZero, rs1 := rvIregZero, rs2 := rvIregZero, imm := some 0 }
  | .ciw4spn =>
    { rd := some (operandCrdq + 8), rs1 := rvIregSp, rs2 := rvIregZero, imm := operandCimm4spn }
  | .cj => { rd := rvIregZero, rs1 := rvIregZero, rs2 := rvIregZero, imm := operandCimmj }
  | .cjJal => { rd := rvIregRa, rs1 := rvIregZero, rs2 := rvIregZero, imm := operandCimmj }
  | .clLw =>
    { rd := some (operandCrdq + 8), rs1 := some (operandCrs1q + 8), rs2 := rvIregZero,
      imm := operandCimmw }
  | .clLd =>
    { rd := some (operandCrdq + 8), rs1 := some (operandCrs1q + 8), rs2 := rvIregZero,
      imm := operandCimmd }
  | .clLq =>
    { rd := some (operandCrdq + 8), rs1 := some (operandCrs1q + 8), rs2 := rvIregZero,
      imm := operandCimmq }
  | .cr => { rd := operandCrs1rd, rs1 := operandCrs1rd, rs2 := operandCrs2, imm := some 0 }
  | .crMv => { rd := operandCrd, rs1 := operandCrs2, rs2 := rvIregZero, imm := some 0 }
  | .crJalr => { rd := rvIregRa, rs1 := operandCrs1, rs2 := rvIregZero, imm := some 0 }
  | .crJr => { rd := rvIregZero, rs1 := operandCrs1, rs2 := rvIregZero, imm := some 0 }
  | .cs =>
    { rd := some (operandCrs1rdq + 8), rs1 := some (operandCrs1rdq + 8),
      rs2 := some (operandCrs2q + 8), imm := some 0 }
  | .csSw =>
    { rd := rvIregZero, rs1 := some (operandCrs1q + 8), rs2 := some (operandCrs2q + 8),
      imm := operandCimmw }
  | .csSd =>
    { rd := rvIregZero, rs1 := some (operandCrs1q + 8), rs2 := some (operandCrs2q + 8),
      imm := operandCimmd }
  | .csSq =>
    { rd := rvIregZero, rs1 := some (operandCrs1q + 8), rs2 := some (operandCrs2q + 8),
      imm := operandCimmq }
  | .cssSwsp => { rd := rvIregZero, rs1 := rvIregSp, rs2 := operandCrs2, imm := operandCimmswsp }
  | .cssSdsp => { rd := rvIregZero, rs1 := rvIregSp, rs2 := operandCrs2, imm := operandCimmsdsp }
  | .cssSqsp => { rd := rvIregZero, rs1 := rvIregSp, rs2 := operandCrs2, imm := operandCimmsqsp }

/-- The assignment of an operand to a field, which is cut to its width. -/
def assign (inst : BitVec 64) {m : ℕ} (old : BitVec m) : Option Expr → BitVec m
  | none => old
  | some e => (e.eval inst).setWidth m

/-- `decode_inst_operands` -/
def decodeInstOperands (d : RvDecode) : RvDecode :=
  let codec := (opcodeData d.op).codec
  let o := codecOperands codec
  { d with
    codec
    rd := assign d.inst d.rd o.rd
    rs1 := assign d.inst d.rs1 o.rs1
    rs2 := assign d.inst d.rs2 o.rs2
    rs3 := assign d.inst d.rs3 o.rs3
    rm := assign d.inst d.rm o.rm
    pred := assign d.inst d.pred o.pred
    succ := assign d.inst d.succ o.succ
    aq := assign d.inst d.aq o.aq
    rl := assign d.inst d.rl o.rl
    imm := assign d.inst d.imm o.imm }

/-! ## Compressed instructions -/

/-- The operation that a compressed instruction stands for. -/
def OpcodeData.decomp (data : OpcodeData) : RvIsa → RvOp
  | .rv32 => data.decompRv32
  | .rv64 => data.decompRv64
  | .rv128 => data.decompRv128

/-- `decode_inst_decompress` -/
def decodeInstDecompress (isa : RvIsa) (d : RvDecode) : RvDecode :=
  if (opcodeData d.op).decomp isa ≠ .illegal then
    if (opcodeData d.op).decompData &&& rvcdImmNz ≠ 0 ∧ d.imm = 0 then { d with op := .illegal }
    else
      { d with
        op := (opcodeData d.op).decomp isa
        codec := (opcodeData ((opcodeData d.op).decomp isa)).codec }
  else d

/-! ## Pseudo-instructions -/

/-- One constraint of `check_constraints`. -/
def RvcConstraint.check (d : RvDecode) : RvcConstraint → Bool
  | rdEqRa => d.rd = 1
  | rdEqX0 => d.rd = 0
  | rs1EqX0 => d.rs1 = 0
  | rs2EqX0 => d.rs2 = 0
  | rs2EqRs1 => d.rs2 = d.rs1
  | rs1EqRa => d.rs1 = 1
  | immEqZero => d.imm = 0
  | immEqN1 => d.imm = -1
  | immEqP1 => d.imm = 1
  | csrEq0x001 => d.imm = 0x001
  | csrEq0x002 => d.imm = 0x002
  | csrEq0x003 => d.imm = 0x003
  | csrEq0xc00 => d.imm = 0xc00
  | csrEq0xc01 => d.imm = 0xc01
  | csrEq0xc02 => d.imm = 0xc02
  | csrEq0xc80 => d.imm = 0xc80
  | csrEq0xc81 => d.imm = 0xc81
  | csrEq0xc82 => d.imm = 0xc82

/-- `check_constraints` -/
def checkConstraints (d : RvDecode) (cs : List RvcConstraint) : Bool := cs.all (·.check d)

/-- `decode_inst_lift_pseudo`: the first pseudo-instruction whose constraints hold. -/
def decodeInstLiftPseudo (d : RvDecode) : RvDecode :=
  match (opcodeData d.op).pseudo.find? fun c => checkConstraints d c.constraints with
  | none => d
  | some c => { d with op := c.op, codec := (opcodeData c.op).codec }

/-! ## The stages together -/

/-- The instruction with its operands, compression undone. -/
def decompressed (isa : RvIsa) (pc inst : BitVec 64) : RvDecode :=
  decodeInstDecompress isa (decodeInstOperands (decodeInstOpcode isa { pc, inst }))

/-- The instruction as `disasm_inst` formats it. -/
def decoded (isa : RvIsa) (pc inst : BitVec 64) : RvDecode :=
  decodeInstLiftPseudo (decompressed isa pc inst)

/-- Undoing the compression leaves the operands. -/
theorem exists_decompress (isa : RvIsa) (d : RvDecode) :
    ∃ op codec, decodeInstDecompress isa d = { d with op, codec } := by
  unfold decodeInstDecompress
  split_ifs
  · exact ⟨.illegal, d.codec, rfl⟩
  · exact ⟨_, _, rfl⟩
  · exact ⟨d.op, d.codec, rfl⟩

/-- Lifting to a pseudo-instruction leaves the operands. -/
theorem exists_liftPseudo (d : RvDecode) :
    ∃ op codec, decodeInstLiftPseudo d = { d with op, codec } := by
  unfold decodeInstLiftPseudo
  split
  · exact ⟨d.op, d.codec, rfl⟩
  · exact ⟨_, _, rfl⟩

/-- The operands are those that the codec of the encoded operation reads. -/
theorem exists_decoded (isa : RvIsa) (pc inst : BitVec 64) :
    ∃ op codec, decoded isa pc inst =
      { decodeInstOperands (decodeInstOpcode isa { pc, inst }) with op, codec } := by
  obtain ⟨op, codec, hdecomp⟩ :=
    exists_decompress isa (decodeInstOperands (decodeInstOpcode isa { pc, inst }))
  obtain ⟨op', codec', hlift⟩ := exists_liftPseudo (decompressed isa pc inst)
  refine ⟨op', codec', ?_⟩
  rw [decoded, hlift, decompressed, hdecomp]

@[simp] theorem decoded_inst (isa : RvIsa) (pc inst : BitVec 64) :
    (decoded isa pc inst).inst = inst := by
  obtain ⟨op, codec, heq⟩ := exists_decoded isa pc inst
  rw [heq]
  rfl

/-! ## Widths -/

/-- The fields have no more bits than the instruction has for them. -/
structure RvDecode.InBounds (d : RvDecode) : Prop where
  rd : d.rd.toNat < 32
  rs1 : d.rs1.toNat < 32
  rs2 : d.rs2.toNat < 32
  rs3 : d.rs3.toNat < 32
  rm : d.rm.toNat < 8
  pred : d.pred.toNat < 16
  succ : d.succ.toNat < 16
  aq : d.aq.toNat < 2
  rl : d.rl.toNat < 2

theorem toNat_assign_lt (inst : BitVec 64) {e : Option Expr} {k : ℕ}
    (he : ∀ f ∈ e, f.size 64 ≤ k) : (assign inst (0#8) e).toNat < 2 ^ k := by
  cases e with
  | none => exact Nat.two_pow_pos k
  | some f =>
    have hlt := (f.toNat_eval_lt inst).trans_le
      (Nat.pow_le_pow_right Nat.two_pos (he f rfl) : 2 ^ f.size 64 ≤ 2 ^ k)
    rw [assign, BitVec.toNat_setWidth]
    exact (Nat.mod_le _ _).trans_lt hlt

/-- A codec reads its registers from five bits, or from three bits with eight added. -/
theorem size_registers (c : RvCodec) :
    (∀ f ∈ (codecOperands c).rd, f.size 64 ≤ 5) ∧ (∀ f ∈ (codecOperands c).rs1, f.size 64 ≤ 5) ∧
      (∀ f ∈ (codecOperands c).rs2, f.size 64 ≤ 5) ∧
      ∀ f ∈ (codecOperands c).rs3, f.size 64 ≤ 5 := by
  cases c <;> decide

theorem size_modes (c : RvCodec) :
    (∀ f ∈ (codecOperands c).rm, f.size 64 ≤ 3) ∧ (∀ f ∈ (codecOperands c).pred, f.size 64 ≤ 4) ∧
      (∀ f ∈ (codecOperands c).succ, f.size 64 ≤ 4) ∧
      (∀ f ∈ (codecOperands c).aq, f.size 64 ≤ 1) ∧ ∀ f ∈ (codecOperands c).rl, f.size 64 ≤ 1 := by
  cases c <;> decide

theorem inBounds_decoded (isa : RvIsa) (pc inst : BitVec 64) : (decoded isa pc inst).InBounds := by
  obtain ⟨op, codec, heq⟩ := exists_decoded isa pc inst
  obtain ⟨hrd, hrs1, hrs2, hrs3⟩ :=
    size_registers (opcodeData (decodeInstOpcode isa { pc, inst }).op).codec
  obtain ⟨hrm, hpred, hsucc, haq, hrl⟩ :=
    size_modes (opcodeData (decodeInstOpcode isa { pc, inst }).op).codec
  rw [heq]
  exact ⟨toNat_assign_lt inst hrd, toNat_assign_lt inst hrs1, toNat_assign_lt inst hrs2,
    toNat_assign_lt inst hrs3, toNat_assign_lt inst hrm, toNat_assign_lt inst hpred,
    toNat_assign_lt inst hsucc, toNat_assign_lt inst haq, toNat_assign_lt inst hrl⟩

end Disas
end Riscv32Sim
