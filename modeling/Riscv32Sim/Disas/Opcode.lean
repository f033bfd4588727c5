import Mathlib.Data.Nat.Notation

/-!
# The opcode table of the disassembler

The operations that the disassembler knows, and for each of them its name, the codec with which
its operands are read, the format in which it is printed, the pseudo-instructions that it is
printed as under constraints on its operands, and, for a compressed instruction, the operation
that it stands for.

## Main definitions

* `RvOp`, `RvCodec`, `RvcConstraint`: operations, codecs, constraints
* `OpcodeData`, `opcodeData`: the table
* `csrName`: the names of the control and status registers
-/

namespace Riscv32Sim
namespace Disas

/-- The base instruction sets. -/
inductive RvIsa
  | rv32 | rv64 | rv128
  deriving DecidableEq

/-- The operations, compressed instructions and pseudo-instructions included. -/
inductive RvOp
  | illegal | lui | auipc | jal | jalr | beq | bne | blt | bge | bltu | bgeu | lb | lh | lw | lbu
  | lhu | sb | sh | sw | addi | slti | sltiu | xori | ori | andi | slli | srli | srai | add | sub
  | sll | slt | sltu | xor | srl | sra | or | and | fence | fenceI | lwu | ld | sd | addiw | slliw
  | srliw | sraiw | addw | subw | sllw | srlw | sraw | ldu | lq | sq | addid | sllid | srlid
  | sraid | addd | subd | slld | srld | srad | mul | mulh | mulhsu | mulhu | div | divu | rem
  | remu | mulw | divw | divuw | remw | remuw | muld | divd | divud | remd | remud | lrW | scW
  | amoswapW | amoaddW | amoxorW | amoorW | amoandW | amominW | amomaxW | amominuW | amomaxuW
  | lrD | scD | amoswapD | amoaddD | amoxorD | amoorD | amoandD | amominD | amomaxD | amominuD
  | amomaxuD | lrQ | scQ | amoswapQ | amoaddQ | amoxorQ | amoorQ | amoandQ | amominQ | amomaxQ
  | amominuQ | amomaxuQ | ecall | ebreak | uret | sret | hret | mret | dret | sfenceVm | sfenceVma
  | wfi | csrrw | csrrs | csrrc | csrrwi | csrrsi | csrrci | flw | fsw | fmaddS | fmsubS | fnmsubS
  | fnmaddS | faddS | fsubS | fmulS | fdivS | fsgnjS | fsgnjnS | fsgnjxS | fminS | fmaxS | fsqrtS
  | fleS | fltS | feqS | fcvtWS | fcvtWuS | fcvtSW | fcvtSWu | fmvXS | fclassS | fmvSX | fcvtLS
  | fcvtLuS | fcvtSL | fcvtSLu | fld | fsd | fmaddD | fmsubD | fnmsubD | fnmaddD | faddD | fsubD
  | fmulD | fdivD | fsgnjD | fsgnjnD | fsgnjxD | fminD | fmaxD | fcvtSD | fcvtDS | fsqrtD | fleD
  | fltD | feqD | fcvtWD | fcvtWuD | fcvtDW | fcvtDWu | fclassD | fcvtLD | fcvtLuD | fmvXD
  | fcvtDL | fcvtDLu | fmvDX | flq | fsq | fmaddQ | fmsubQ | fnmsubQ | fnmaddQ | faddQ | fsubQ
  | fmulQ | fdivQ | fsgnjQ | fsgnjnQ | fsgnjxQ | fminQ | fmaxQ | fcvtSQ | fcvtQS | fcvtDQ | fcvtQD
  | fsqrtQ | fleQ | fltQ | feqQ | fcvtWQ | fcvtWuQ | fcvtQW | fcvtQWu | fclassQ | fcvtLQ | fcvtLuQ
  | fcvtQL | fcvtQLu | fmvXQ | fmvQX | cAddi4spn | cFld | cLw | cFlw | cFsd | cSw | cFsw | cNop
  | cAddi | cJal | cLi | cAddi16sp | cLui | cSrli | cSrai | cAndi | cSub | cXor | cOr | cAnd
  | cSubw | cAddw | cJ | cBeqz | cBnez | cSlli | cFldsp | cLwsp | cFlwsp | cJr | cMv | cEbreak
  | cJalr | cAdd | cFsdsp | cSwsp | cFswsp | cLd | cSd | cAddiw | cLdsp | cSdsp | cLq | cSq
  | cLqsp | cSqsp | nop | mv | not | neg | negw | sextW | seqz | snez | sltz | sgtz | fmvS | fabsS
  | fnegS | fmvD | fabsD | fnegD | fmvQ | fabsQ | fnegQ | beqz | bnez | blez | bgez | bltz | bgtz
  | ble | bleu | bgt | bgtu | j | ret | jr | rdcycle | rdtime | rdinstret | rdcycleh | rdtimeh
  | rdinstreth | frcsr | frrm | frflags | fscsr | fsrm | fsflags | fsrmi | fsflagsi
  deriving DecidableEq

/-- How the operands of an instruction are laid out. -/
inductive RvCodec
  | illegal | none | u | uj | i | iSh5 | iSh6 | iSh7 | iCsr | s | sb | r | rM | r4M | rA | rL | rF
  | cb | cbImm | cbSh5 | cbSh6 | ci | ciSh5 | ciSh6 | ci16sp | ciLwsp | ciLdsp | ciLqsp | ciLi
  | ciLui | ciNone | ciw4spn | cj | cjJal | clLw | clLd | clLq | cr | crMv | crJalr | crJr | cs
  | csSw | csSd | csSq | cssSwsp | cssSdsp | cssSqsp
  deriving DecidableEq

/-- The constraints under which a pseudo-instruction stands for an instruction. -/
inductive RvcConstraint
  | rdEqRa | rdEqX0 | rs1EqX0 | rs2EqX0 | rs2EqRs1 | rs1EqRa | immEqZero | immEqN1 | immEqP1
  | csrEq0x001 | csrEq0x002 | csrEq0x003 | csrEq0xc00 | csrEq0xc01 | csrEq0xc02 | csrEq0xc80
  | csrEq0xc81 | csrEq0xc82
  deriving DecidableEq

/-- The formats in which instructions are printed. -/
inductive RvFmt
  | none | rs1 | offset | predSucc | rs1Rs2 | rdImm | rdOffset | rdRs1Rs2 | frdRs1 | rdFrs1
  | rdFrs1Frs2 | frdFrs1Frs2 | rmFrdFrs1 | rmFrdRs1 | rmRdFrs1 | rmFrdFrs1Frs2 | rmFrdFrs1Frs2Frs3
  | rdRs1Imm | rdRs1Offset | rdOffsetRs1 | frdOffsetRs1 | rdCsrRs1 | rdCsrZimm | rs2OffsetRs1
  | frs2OffsetRs1 | rs1Rs2Offset | rs2Rs1Offset | aqrlRdRs2Rs1 | aqrlRdRs1 | rd | rdZimm | rdRs1
  | rdRs2 | rs1Offset | rs2Offset

/-- A pseudo-instruction, with its constraints. -/
structure RvCompData where
  op : RvOp
  constraints : List RvcConstraint

/-- The immediate of a compressed instruction is not zero. -/
def rvcdImmNz : ℕ := 0x1

/-- An immediate of zero makes the compressed instruction a hint. -/
def rvcdImmNzHint : ℕ := 0x2

/-- What the disassembler knows of an operation. -/
structure OpcodeData where
  name : String
  codec : RvCodec
  format : RvFmt
  pseudo : List RvCompData := []
  decompRv32 : RvOp := .illegal
  decompRv64 : RvOp := .illegal
  decompRv128 : RvOp := .illegal
  decompData : ℕ := 0

/-! ## Formats -/

/-- The format strings. -/
def RvFmt.text : RvFmt → String
  | none => "O\t"
  | rs1 => "O\t1"
  | offset => "O\to"
  | predSucc => "O\tp,s"
  | rs1Rs2 => "O\t1,2"
  | rdImm => "O\t0,i"
  | rdOffset => "O\t0,o"
  | rdRs1Rs2 => "O\t0,1,2"
  | frdRs1 => "O\t3,1"
  | rdFrs1 => "O\t0,4"
  | rdFrs1Frs2 => "O\t0,4,5"
  | frdFrs1Frs2 => "O\t3,4,5"
  | rmFrdFrs1 => "O\tr,3,4"
  | rmFrdRs1 => "O\tr,3,1"
  | rmRdFrs1 => "O\tr,0,4"
  | rmFrdFrs1Frs2 => "O\tr,3,4,5"
  | rmFrdFrs1Frs2Frs3 => "O\tr,3,4,5,6"
  | rdRs1Imm => "O\t0,1,i"
  | rdRs1Offset => "O\t0,1,i"
  | rdOffsetRs1 => "O\t0,i(1)"
  | frdOffsetRs1 => "O\t3,i(1)"
  | rdCsrRs1 => "O\t0,c,1"
  | rdCsrZimm => "O\t0,c,7"
  | rs2OffsetRs1 => "O\t2,i(1)"
  | frs2OffsetRs1 => "O\t5,i(1)"
  | rs1Rs2Offset => "O\t1,2,o"
  | rs2Rs1Offset => "O\t2,1,o"
  | aqrlRdRs2Rs1 => "OAR\t0,2,(1)"
  | aqrlRdRs1 => "OAR\t0,(1)"
  | rd => "O\t0"
  | rdZimm => "O\t0,7"
  | rdRs1 => "O\t0,1"
  | rdRs2 => "O\t0,2"
  | rs1Offset => "O\t1,o"
  | rs2Offset => "O\t2,o"

/-! ## Constraints and pseudo-instructions -/

def rvccLast : List RvcConstraint := []
def rvccImmEqZero : List RvcConstraint := [.immEqZero]
def rvccImmEqN1 : List RvcConstraint := [.immEqN1]
def rvccImmEqP1 : List RvcConstraint := [.immEqP1]
def rvccRs1EqX0 : List RvcConstraint := [.rs1EqX0]
def rvccRs2EqX0 : List RvcConstraint := [.rs2EqX0]
def rvccRs2EqRs1 : List RvcConstraint := [.rs2EqRs1]
def rvccJalJ : List RvcConstraint := [.rdEqX0]
def rvccJalJal : List RvcConstraint := [.rdEqRa]
def rvccJalrJr : List RvcConstraint := [.rdEqX0, .immEqZero]
def rvccJalrJalr : List RvcConstraint := [.rdEqRa, .immEqZero]
def rvccJalrRet : List RvcConstraint := [.rdEqX0, .rs1EqRa]
def rvccAddiNop : List RvcConstraint := [.rdEqX0, .rs1EqX0, .immEqZero]
def rvccRdcycle : List RvcConstraint := [.rs1EqX0, .csrEq0xc00]
def rvccRdtime : List RvcConstraint := [.rs1EqX0, .csrEq0xc01]
def rvccRdinstret : List RvcConstraint := [.rs1EqX0, .csrEq0xc02]
def rvccRdcycleh : List RvcConstraint := [.rs1EqX0, .csrEq0xc80]
def rvccRdtimeh : List RvcConstraint := [.rs1EqX0, .csrEq0xc81]
def rvccRdinstreth : List RvcConstraint := [.rs1EqX0, .csrEq0xc82]
def rvccFrcsr : List RvcConstraint := [.rs1EqX0, .csrEq0x003]
def rvccFrrm : List RvcConstraint := [.rs1EqX0, .csrEq0x002]
def rvccFrflags : List RvcConstraint := [.rs1EqX0, .csrEq0x001]
def rvccFscsr : List RvcConstraint := [.csrEq0x003]
def rvccFsrm : List RvcConstraint := [.csrEq0x002]
def rvccFsflags : List RvcConstraint := [.csrEq0x001]
def rvccFsrmi : List RvcConstraint := [.csrEq0x002]
def rvccFsflagsi : List RvcConstraint := [.csrEq0x001]

def rvcpJal : List RvCompData := [⟨.j, rvccJalJ⟩, ⟨.jal, rvccJalJal⟩]
def rvcpJalr : List RvCompData := [⟨.ret, rvccJalrRet⟩, ⟨.jr, rvccJalrJr⟩, ⟨.jalr, rvccJalrJalr⟩]
def rvcpBeq : List RvCompData := [⟨.beqz, rvccRs2EqX0⟩]
def rvcpBne : List RvCompData := [⟨.bnez, rvccRs2EqX0⟩]
def rvcpBlt : List RvCompData := [⟨.bltz, rvccRs2EqX0⟩, ⟨.bgtz, rvccRs1EqX0⟩, ⟨.bgt, rvccLast⟩]
def rvcpBge : List RvCompData := [⟨.blez, rvccRs1EqX0⟩, ⟨.bgez, rvccRs2EqX0⟩, ⟨.ble, rvccLast⟩]
def rvcpBltu : List RvCompData := [⟨.bgtu, rvccLast⟩]
def rvcpBgeu : List RvCompData := [⟨.bleu, rvccLast⟩]
def rvcpAddi : List RvCompData := [⟨.nop, rvccAddiNop⟩, ⟨.mv, rvccImmEqZero⟩]
def rvcpSltiu : List RvCompData := [⟨.seqz, rvccImmEqP1⟩]
def rvcpXori : List RvCompData := [⟨.not, rvccImmEqN1⟩]
def rvcpSub : List RvCompData := [⟨.neg, rvccRs1EqX0⟩]
def rvcpSlt : List RvCompData := [⟨.sltz, rvccRs2EqX0⟩, ⟨.sgtz, rvccRs1EqX0⟩]
def rvcpSltu : List RvCompData := [⟨.snez, rvccRs1EqX0⟩]
def rvcpAddiw : List RvCompData := [⟨.sextW, rvccImmEqZero⟩]
def rvcpSubw : List RvCompData := [⟨.negw, rvccRs1EqX0⟩]
def rvcpCsrrw : List RvCompData :=
  [⟨.fscsr, rvccFscsr⟩, ⟨.fsrm, rvccFsrm⟩, ⟨.fsflags, rvccFsflags⟩]
def rvcpCsrrs : List RvCompData :=
  [⟨.rdcycle, rvccRdcycle⟩, ⟨.rdtime, rvccRdtime⟩, ⟨.rdinstret, rvccRdinstret⟩,
  ⟨.rdcycleh, rvccRdcycleh⟩, ⟨.rdtimeh, rvccRdtimeh⟩, ⟨.rdinstreth, rvccRdinstreth⟩,
  ⟨.frcsr, rvccFrcsr⟩, ⟨.frrm, rvccFrrm⟩, ⟨.frflags, rvccFrflags⟩]
def rvcpCsrrwi : List RvCompData := [⟨.fsrmi, rvccFsrmi⟩, ⟨.fsflagsi, rvccFsflagsi⟩]
def rvcpFsgnjS : List RvCompData := [⟨.fmvS, rvccRs2EqRs1⟩]
def rvcpFsgnjnS : List RvCompData := [⟨.fnegS, rvccRs2EqRs1⟩]
def rvcpFsgnjxS : List RvCompData := [⟨.fabsS, rvccRs2EqRs1⟩]
def rvcpFsgnjD : List RvCompData := [⟨.fmvD, rvccRs2EqRs1⟩]
def rvcpFsgnjnD : List RvCompData := [⟨.fnegD, rvccRs2EqRs1⟩]
def rvcpFsgnjxD : List RvCompData := [⟨.fabsD, rvccRs2EqRs1⟩]
def rvcpFsgnjQ : List RvCompData := [⟨.fmvQ, rvccRs2EqRs1⟩]
def rvcpFsgnjnQ : List RvCompData := [⟨.fnegQ, rvccRs2EqRs1⟩]
def rvcpFsgnjxQ : List RvCompData := [⟨.fabsQ, rvccRs2EqRs1⟩]

/-! ## The table -/

/-- The opcode table. -/
def opcodeData : RvOp → OpcodeData
  | .illegal => { name := "illegal", codec := .illegal, format := .none }
  | .lui => { name := "lui", codec := .u, format := .rdImm }
  | .auipc => { name := "auipc", codec := .u, format := .rdOffset }
  | .jal => { name := "jal", codec := .uj, format := .rdOffset, pseudo := rvcpJal }
  | .jalr => { name := "jalr", codec := .i, format := .rdRs1Offset, pseudo := rvcpJalr }
  | .beq => { name := "beq", codec := .sb, format := .rs1Rs2Offset, pseudo := rvcpBeq }
  | .bne => { name := "bne", codec := .sb, format := .rs1Rs2Offset, pseudo := rvcpBne }
  | .blt => { name := "blt", codec := .sb, format := .rs1Rs2Offset, pseudo := rvcpBlt }
  | .bge => { name := "bge", codec := .sb, format := .rs1Rs2Offset, pseudo := rvcpBge }
  | .bltu => { name := "bltu", codec := .sb, format := .rs1Rs2Offset, pseudo := rvcpBltu }
  | .bgeu => { name := "bgeu", codec := .sb, format := .rs1Rs2Offset, pseudo := rvcpBgeu }
  | .lb => { name := "lb", codec := .i, format := .rdOffsetRs1 }
  | .lh => { name := "lh", codec := .i, format := .rdOffsetRs1 }
  | .lw => { name := "lw", codec := .i, format := .rdOffsetRs1 }
  | .lbu => { name := "lbu", codec := .i, format := .rdOffsetRs1 }
  | .lhu => { name := "lhu", codec := .i, format := .rdOffsetRs1 }
  | .sb => { name := "sb", codec := .s, format := .rs2OffsetRs1 }
  | .sh => { name := "sh", codec := .s, format := .rs2OffsetRs1 }
  | .sw => { name := "sw", codec := .s, format := .rs2OffsetRs1 }
  | .addi => { name := "addi", codec := .i, format := .rdRs1Imm, pseudo := rvcpAddi }
  | .slti => { name := "slti", codec := .i, format := .rdRs1Imm }
  | .sltiu => { name := "sltiu", codec := .i, format := .rdRs1Imm, pseudo := rvcpSltiu }
  | .xori => { name := "xori", codec := .i, format := .rdRs1Imm, pseudo := rvcpXori }
  | .ori => { name := "ori", codec := .i, format := .rdRs1Imm }
  | .andi => { name := "andi", codec := .i, format := .rdRs1Imm }
  | .slli => { name := "slli", codec := .iSh7, format := .rdRs1Imm }
  | .srli => { name := "srli", codec := .iSh7, format := .rdRs1Imm }
  | .srai => { name := "srai", codec := .iSh7, format := .rdRs1Imm }
  | .add => { name := "add", codec := .r, format := .rdRs1Rs2 }
  | .sub => { name := "sub", codec := .r, format := .rdRs1Rs2, pseudo := rvcpSub }
  | .sll => { name := "sll", codec := .r, format := .rdRs1Rs2 }
  | .slt => { name := "slt", codec := .r, format := .rdRs1Rs2, pseudo := rvcpSlt }
  | .sltu => { name := "sltu", codec := .r, format := .rdRs1Rs2, pseudo := rvcpSltu }
  | .xor => { name := "xor", codec := .r, format := .rdRs1Rs2 }
  | .srl => { name := "srl", codec := .r, format := .rdRs1Rs2 }
  | .sra => { name := "sra", codec := .r, format := .rdRs1Rs2 }
  | .or => { name := "or", codec := .r, format := .rdRs1Rs2 }
  | .and => { name := "and", codec := .r, format := .rdRs1Rs2 }
  | .fence => { name := "fence", codec := .rF, format := .predSucc }
  | .fenceI => { name := "fence.i", codec := .none, format := .none }
  | .lwu => { name := "lwu", codec := .i, format := .rdOffsetRs1 }
  | .ld => { name := "ld", codec := .i, format := .rdOffsetRs1 }
  | .sd => { name := "sd", codec := .s, format := .rs2OffsetRs1 }
  | .addiw => { name := "addiw", codec := .i, format := .rdRs1Imm, pseudo := rvcpAddiw }
  | .slliw => { name := "slliw", codec := .iSh5, format := .rdRs1Imm }
  | .srliw => { name := "srliw", codec := .iSh5, format := .rdRs1Imm }
  | .sraiw => { name := "sraiw", codec := .iSh5, format := .rdRs1Imm }
  | .addw => { name := "addw", codec := .r, format := .rdRs1Rs2 }
  | .subw => { name := "subw", codec := .r, format := .rdRs1Rs2, pseudo := rvcpSubw }
  | .sllw => { name := "sllw", codec := .r, format := .rdRs1Rs2 }
  | .srlw => { name := "srlw", codec := .r, format := .rdRs1Rs2 }
  | .sraw => { name := "sraw", codec := .r, format := .rdRs1Rs2 }
  | .ldu => { name := "ldu", codec := .i, format := .rdOffsetRs1 }
  | .lq => { name := "lq", codec := .i, format := .rdOffsetRs1 }
  | .sq => { name := "sq", codec := .s, format := .rs2OffsetRs1 }
  | .addid => { name := "addid", codec := .i, format := .rdRs1Imm }
  | .sllid => { name := "sllid", codec := .iSh6, format := .rdRs1Imm }
  | .srlid => { name := "srlid", codec := .iSh6, format := .rdRs1Imm }
  | .sraid => { name := "sraid", codec := .iSh6, format := .rdRs1Imm }
  | .addd => { name := "addd", codec := .r, format := .rdRs1Rs2 }
  | .subd => { name := "subd", codec := .r, format := .rdRs1Rs2 }
  | .slld => { name := "slld", codec := .r, format := .rdRs1Rs2 }
  | .srld => { name := "srld", codec := .r, format := .rdRs1Rs2 }
  | .srad => { name := "srad", codec := .r, format := .rdRs1Rs2 }
  | .mul => { name := "mul", codec := .r, format := .rdRs1Rs2 }
  | .mulh => { name := "mulh", codec := .r, format := .rdRs1Rs2 }
  | .mulhsu => { name := "mulhsu", codec := .r, format := .rdRs1Rs2 }
  | .mulhu => { name := "mulhu", codec := .r, format := .rdRs1Rs2 }
  | .div => { name := "div", codec := .r, format := .rdRs1Rs2 }
  | .divu => { name := "divu", codec := .r, format := .rdRs1Rs2 }
  | .rem => { name := "rem", codec := .r, format := .rdRs1Rs2 }
  | .remu => { name := "remu", codec := .r, format := .rdRs1Rs2 }
  | .mulw => { name := "mulw", codec := .r, format := .rdRs1Rs2 }
  | .divw => { name := "divw", codec := .r, format := .rdRs1Rs2 }
  | .divuw => { name := "divuw", codec := .r, format := .rdRs1Rs2 }
  | .remw => { name := "remw", codec := .r, format := .rdRs1Rs2 }
  | .remuw => { name := "remuw", codec := .r, format := .rdRs1Rs2 }
  | .muld => { name := "muld", codec := .r, format := .rdRs1Rs2 }
  | .divd => { name := "divd", codec := .r, format := .rdRs1Rs2 }
  | .divud => { name := "divud", codec := .r, format := .rdRs1Rs2 }
  | .remd => { name := "remd", codec := .r, format := .rdRs1Rs2 }
  | .remud => { name := "remud", codec := .r, format := .rdRs1Rs2 }
  | .lrW => { name := "lr.w", codec := .rL, format := .aqrlRdRs1 }
  | .scW => { name := "sc.w", codec := .rA, format := .aqrlRdRs2Rs1 }
  | .amoswapW => { name := "amoswap.w", codec := .rA, format := .aqrlRdRs2Rs1 }
  | .amoaddW => { name := "amoadd.w", codec := .rA, format := .aqrlRdRs2Rs1 }
  | .amoxorW => { name := "amoxor.w", codec := .rA, format := .aqrlRdRs2Rs1 }
  | .amoorW => { name := "amoor.w", codec := .rA, format := .aqrlRdRs2Rs1 }
  | .amoandW => { name := "amoand.w", codec := .rA, format := .aqrlRdRs2Rs1 }
  | .amominW => { name := "amomin.w", codec := .rA, format := .aqrlRdRs2Rs1 }
  | .amomaxW => { name := "amomax.w", codec := .rA, format := .aqrlRdRs2Rs1 }
  | .amominuW => { name := "amominu.w", codec := .rA, format := .aqrlRdRs2Rs1 }
  | .amomaxuW => { name := "amomaxu.w", codec := .rA, format := .aqrlRdRs2Rs1 }
  | .lrD => { name := "lr.d", codec := .rL, format := .aqrlRdRs1 }
  | .scD => { name := "sc.d", codec := .rA, format := .aqrlRdRs2Rs1 }
  | .amoswapD => { name := "amoswap.d", codec := .rA, format := .aqrlRdRs2Rs1 }
  | .amoaddD => { name := "amoadd.d", codec := .rA, format := .aqrlRdRs2Rs1 }
  | .amoxorD => { name := "amoxor.d", codec := .rA, format := .aqrlRdRs2Rs1 }
  | .amoorD => { name := "amoor.d", codec := .rA, format := .aqrlRdRs2Rs1 }
  | .amoandD => { name := "amoand.d", codec := .rA, format := .aqrlRdRs2Rs1 }
  | .amominD => { name := "amomin.d", codec := .rA, format := .aqrlRdRs2Rs1 }
  | .amomaxD => { name := "amomax.d", codec := .rA, format := .aqrlRdRs2Rs1 }
  | .amominuD => { name := "amominu.d", codec := .rA, format := .aqrlRdRs2Rs1 }
  | .amomaxuD => { name := "amomaxu.d", codec := .rA, format := .aqrlRdRs2Rs1 }
  | .lrQ => { name := "lr.q", codec := .rL, format := .aqrlRdRs1 }
  | .scQ => { name := "sc.q", codec := .rA, format := .aqrlRdRs2Rs1 }
  | .amoswapQ => { name := "amoswap.q", codec := .rA, format := .aqrlRdRs2Rs1 }
  | .amoaddQ => { name := "amoadd.q", codec := .rA, format := .aqrlRdRs2Rs1 }
  | .amoxorQ => { name := "amoxor.q", codec := .rA, format := .aqrlRdRs2Rs1 }
  | .amoorQ => { name := "amoor.q", codec := .rA, format := .aqrlRdRs2Rs1 }
  | .amoandQ => { name := "amoand.q", codec := .rA, format := .aqrlRdRs2Rs1 }
  | .amominQ => { name := "amomin.q", codec := .rA, format := .aqrlRdRs2Rs1 }
  | .amomaxQ => { name := "amomax.q", codec := .rA, format := .aqrlRdRs2Rs1 }
  | .amominuQ => { name := "amominu.q", codec := .rA, format := .aqrlRdRs2Rs1 }
  | .amomaxuQ => { name := "amomaxu.q", codec := .rA, format := .aqrlRdRs2Rs1 }
  | .ecall => { name := "ecall", codec := .none, format := .none }
  | .ebreak => { name := "ebreak", codec := .none, format := .none }
  | .uret => { name := "uret", codec := .none, format := .none }
  | .sret => { name := "sret", codec := .none, format := .none }
  | .hret => { name := "hret", codec := .none, format := .none }
  | .mret => { name := "mret", codec := .none, format := .none }
  | .dret => { name := "dret", codec := .none, format := .none }
  | .sfenceVm => { name := "sfence.vm", codec := .r, format := .rs1 }
  | .sfenceVma => { name := "sfence.vma", codec := .r, format := .rs1Rs2 }
  | .wfi => { name := "wfi", codec := .none, format := .none }
  | .csrrw => { name := "csrrw", codec := .iCsr, format := .rdCsrRs1, pseudo := rvcpCsrrw }
  | .csrrs => { name := "csrrs", codec := .iCsr, format := .rdCsrRs1, pseudo := rvcpCsrrs }
  | .csrrc => { name := "csrrc", codec := .iCsr, format := .rdCsrRs1 }
  | .csrrwi => { name := "csrrwi", codec := .iCsr, format := .rdCsrZimm, pseudo := rvcpCsrrwi }
  | .csrrsi => { name := "csrrsi", codec := .iCsr, format := .rdCsrZimm }
  | .csrrci => { name := "csrrci", codec := .iCsr, format := .rdCsrZimm }
  | .flw => { name := "flw", codec := .i, format := .frdOffsetRs1 }
  | .fsw => { name := "fsw", codec := .s, format := .frs2OffsetRs1 }
  | .fmaddS => { name := "fmadd.s", codec := .r4M, format := .rmFrdFrs1Frs2Frs3 }
  | .fmsubS => { name := "fmsub.s", codec := .r4M, format := .rmFrdFrs1Frs2Frs3 }
  | .fnmsubS => { name := "fnmsub.s", codec := .r4M, format := .rmFrdFrs1Frs2Frs3 }
  | .fnmaddS => { name := "fnmadd.s", codec := .r4M, format := .rmFrdFrs1Frs2Frs3 }
  | .faddS => { name := "fadd.s", codec := .rM, format := .rmFrdFrs1Frs2 }
  | .fsubS => { name := "fsub.s", codec := .rM, format := .rmFrdFrs1Frs2 }
  | .fmulS => { name := "fmul.s", codec := .rM, format := .rmFrdFrs1Frs2 }
  | .fdivS => { name := "fdiv.s", codec := .rM, format := .rmFrdFrs1Frs2 }
  | .fsgnjS => { name := "fsgnj.s", codec := .r, format := .frdFrs1Frs2, pseudo := rvcpFsgnjS }
  | .fsgnjnS => { name := "fsgnjn.s", codec := .r, format := .frdFrs1Frs2, pseudo := rvcpFsgnjnS }
  | .fsgnjxS => { name := "fsgnjx.s", codec := .r, format := .frdFrs1Frs2, pseudo := rvcpFsgnjxS }
  | .fminS => { name := "fmin.s", codec := .r, format := .frdFrs1Frs2 }
  | .fmaxS => { name := "fmax.s", codec := .r, format := .frdFrs1Frs2 }
  | .fsqrtS => { name := "fsqrt.s", codec := .rM, format := .rmFrdFrs1 }
  | .fleS => { name := "fle.s", codec := .r, format := .rdFrs1Frs2 }
  | .fltS => { name := "flt.s", codec := .r, format := .rdFrs1Frs2 }
  | .feqS => { name := "feq.s", codec := .r, format := .rdFrs1Frs2 }
  | .fcvtWS => { name := "fcvt.w.s", codec := .rM, format := .rmRdFrs1 }
  | .fcvtWuS => { name := "fcvt.wu.s", codec := .rM, format := .rmRdFrs1 }
  | .fcvtSW => { name := "fcvt.s.w", codec := .rM, format := .rmFrdRs1 }
  | .fcvtSWu => { name := "fcvt.s.wu", codec := .rM, format := .rmFrdRs1 }
  | .fmvXS => { name := "fmv.x.s", codec := .r, format := .rdFrs1 }
  | .fclassS => { name := "fclass.s", codec := .r, format := .rdFrs1 }
  | .fmvSX => { name := "fmv.s.x", codec := .r, format := .frdRs1 }
  | .fcvtLS => { name := "fcvt.l.s", codec := .rM, format := .rmRdFrs1 }
  | .fcvtLuS => { name := "fcvt.lu.s", codec := .rM, format := .rmRdFrs1 }
  | .fcvtSL => { name := "fcvt.s.l", codec := .rM, format := .rmFrdRs1 }
  | .fcvtSLu => { name := "fcvt.s.lu", codec := .rM, format := .rmFrdRs1 }
  | .fld => { name := "fld", codec := .i, format := .frdOffsetRs1 }
  | .fsd => { name := "fsd", codec := .s, format := .frs2OffsetRs1 }
  | .fmaddD => { name := "fmadd.d", codec := .r4M, format := .rmFrdFrs1Frs2Frs3 }
  | .fmsubD => { name := "fmsub.d", codec := .r4M, format := .rmFrdFrs1Frs2Frs3 }
  | .fnmsubD => { name := "fnmsub.d", codec := .r4M, format := .rmFrdFrs1Frs2Frs3 }
  | .fnmaddD => { name := "fnmadd.d", codec := .r4M, format := .rmFrdFrs1Frs2Frs3 }
  | .faddD => { name := "fadd.d", codec := .rM, format := .rmFrdFrs1Frs2 }
  | .fsubD => { name := "fsub.d", codec := .rM, format := .rmFrdFrs1Frs2 }
  | .fmulD => { name := "fmul.d", codec := .rM, format := .rmFrdFrs1Frs2 }
  | .fdivD => { name := "fdiv.d", codec := .rM, format := .rmFrdFrs1Frs2 }
  | .fsgnjD => { name := "fsgnj.d", codec := .r, format := .frdFrs1Frs2, pseudo := rvcpFsgnjD }
  | .fsgnjnD => { name := "fsgnjn.d", codec := .r, format := .frdFrs1Frs2, pseudo := rvcpFsgnjnD }
  | .fsgnjxD => { name := "fsgnjx.d", codec := .r, format := .frdFrs1Frs2, pseudo := rvcpFsgnjxD }
  | .fminD => { name := "fmin.d", codec := .r, format := .frdFrs1Frs2 }
  | .fmaxD => { name := "fmax.d", codec := .r, format := .frdFrs1Frs2 }
  | .fcvtSD => { name := "fcvt.s.d", codec := .rM, format := .rmFrdFrs1 }
  | .fcvtDS => { name := "fcvt.d.s", codec := .rM, format := .rmFrdFrs1 }
  | .fsqrtD => { name := "fsqrt.d", codec := .rM, format := .rmFrdFrs1 }
  | .fleD => { name := "fle.d", codec := .r, format := .rdFrs1Frs2 }
  | .fltD => { name := "flt.d", codec := .r, format := .rdFrs1Frs2 }
  | .feqD => { name := "feq.d", codec := .r, format := .rdFrs1Frs2 }
  | .fcvtWD => { name := "fcvt.w.d", codec := .rM, format := .rmRdFrs1 }
  | .fcvtWuD => { name := "fcvt.wu.d", codec := .rM, format := .rmRdFrs1 }
  | .fcvtDW => { name := "fcvt.d.w", codec := .rM, format := .rmFrdRs1 }
  | .fcvtDWu => { name := "fcvt.d.wu", codec := .rM, format := .rmFrdRs1 }
  | .fclassD => { name := "fclass.d", codec := .r, format := .rdFrs1 }
  | .fcvtLD => { name := "fcvt.l.d", codec := .rM, format := .rmRdFrs1 }
  | .fcvtLuD => { name := "fcvt.lu.d", codec := .rM, format := .rmRdFrs1 }
  | .fmvXD => { name := "fmv.x.d", codec := .r, format := .rdFrs1 }
  | .fcvtDL => { name := "fcvt.d.l", codec := .rM, format := .rmFrdRs1 }
  | .fcvtDLu => { name := "fcvt.d.lu", codec := .rM, format := .rmFrdRs1 }
  | .fmvDX => { name := "fmv.d.x", codec := .r, format := .frdRs1 }
  | .flq => { name := "flq", codec := .i, format := .frdOffsetRs1 }
  | .fsq => { name := "fsq", codec := .s, format := .frs2OffsetRs1 }
  | .fmaddQ => { name := "fmadd.q", codec := .r4M, format := .rmFrdFrs1Frs2Frs3 }
  | .fmsubQ => { name := "fmsub.q", codec := .r4M, format := .rmFrdFrs1Frs2Frs3 }
  | .fnmsubQ => { name := "fnmsub.q", codec := .r4M, format := .rmFrdFrs1Frs2Frs3 }
  | .fnmaddQ => { name := "fnmadd.q", codec := .r4M, format := .rmFrdFrs1Frs2Frs3 }
  | .faddQ => { name := "fadd.q", codec := .rM, format := .rmFrdFrs1Frs2 }
  | .fsubQ => { name := "fsub.q", codec := .rM, format := .rmFrdFrs1Frs2 }
  | .fmulQ => { name := "fmul.q", codec := .rM, format := .rmFrdFrs1Frs2 }
  | .fdivQ => { name := "fdiv.q", codec := .rM, format := .rmFrdFrs1Frs2 }
  | .fsgnjQ => { name := "fsgnj.q", codec := .r, format := .frdFrs1Frs2, pseudo := rvcpFsgnjQ }
  | .fsgnjnQ => { name := "fsgnjn.q", codec := .r, format := .frdFrs1Frs2, pseudo := rvcpFsgnjnQ }
  | .fsgnjxQ => { name := "fsgnjx.q", codec := .r, format := .frdFrs1Frs2, pseudo := rvcpFsgnjxQ }
  | .fminQ => { name := "fmin.q", codec := .r, format := .frdFrs1Frs2 }
  | .fmaxQ => { name := "fmax.q", codec := .r, format := .frdFrs1Frs2 }
  | .fcvtSQ => { name := "fcvt.s.q", codec := .rM, format := .rmFrdFrs1 }
  | .fcvtQS => { name := "fcvt.q.s", codec := .rM, format := .rmFrdFrs1 }
  | .fcvtDQ => { name := "fcvt.d.q", codec := .rM, format := .rmFrdFrs1 }
  | .fcvtQD => { name := "fcvt.q.d", codec := .rM, format := .rmFrdFrs1 }
  | .fsqrtQ => { name := "fsqrt.q", codec := .rM, format := .rmFrdFrs1 }
  | .fleQ => { name := "fle.q", codec := .r, format := .rdFrs1Frs2 }
  | .fltQ => { name := "flt.q", codec := .r, format := .rdFrs1Frs2 }
  | .feqQ => { name := "feq.q", codec := .r, format := .rdFrs1Frs2 }
  | .fcvtWQ => { name := "fcvt.w.q", codec := .rM, format := .rmRdFrs1 }
  | .fcvtWuQ => { name := "fcvt.wu.q", codec := .rM, format := .rmRdFrs1 }
  | .fcvtQW => { name := "fcvt.q.w", codec := .rM, format := .rmFrdRs1 }
  | .fcvtQWu => { name := "fcvt.q.wu", codec := .rM, format := .rmFrdRs1 }
  | .fclassQ => { name := "fclass.q", codec := .r, format := .rdFrs1 }
  | .fcvtLQ => { name := "fcvt.l.q", codec := .rM, format := .rmRdFrs1 }
  | .fcvtLuQ => { name := "fcvt.lu.q", codec := .rM, format := .rmRdFrs1 }
  | .fcvtQL => { name := "fcvt.q.l", codec := .rM, format := .rmFrdRs1 }
  | .fcvtQLu => { name := "fcvt.q.lu", codec := .rM, format := .rmFrdRs1 }
  | .fmvXQ => { name := "fmv.x.q", codec := .r, format := .rdFrs1 }
  | .fmvQX => { name := "fmv.q.x", codec := .r, format := .frdRs1 }
  | .cAddi4spn => ⟨"c.addi4spn", .ciw4spn, .rdRs1Imm, [], .addi, .addi, .addi, rvcdImmNz⟩
  | .cFld => ⟨"c.fld", .clLd, .frdOffsetRs1, [], .fld, .fld, .illegal, 0⟩
  | .cLw => ⟨"c.lw", .clLw, .rdOffsetRs1, [], .lw, .lw, .lw, 0⟩
  | .cFlw => ⟨"c.flw", .clLw, .frdOffsetRs1, [], .flw, .illegal, .illegal, 0⟩
  | .cFsd => ⟨"c.fsd", .csSd, .frs2OffsetRs1, [], .fsd, .fsd, .illegal, 0⟩
  | .cSw => ⟨"c.sw", .csSw, .rs2OffsetRs1, [], .sw, .sw, .sw, 0⟩
  | .cFsw => ⟨"c.fsw", .csSw, .frs2OffsetRs1, [], .fsw, .illegal, .illegal, 0⟩
  | .cNop => ⟨"c.nop", .ciNone, .none, [], .addi, .addi, .addi, 0⟩
  | .cAddi => ⟨"c.addi", .ci, .rdRs1Imm, [], .addi, .addi, .addi, rvcdImmNzHint⟩
  | .cJal => ⟨"c.jal", .cjJal, .rdOffset, [], .jal, .illegal, .illegal, 0⟩
  | .cLi => ⟨"c.li", .ciLi, .rdRs1Imm, [], .addi, .addi, .addi, 0⟩
  | .cAddi16sp => ⟨"c.addi16sp", .ci16sp, .rdRs1Imm, [], .addi, .addi, .addi, rvcdImmNz⟩
  | .cLui => ⟨"c.lui", .ciLui, .rdImm, [], .lui, .lui, .lui, rvcdImmNz⟩
  | .cSrli => ⟨"c.srli", .cbSh6, .rdRs1Imm, [], .srli, .srli, .srli, rvcdImmNz⟩
  | .cSrai => ⟨"c.srai", .cbSh6, .rdRs1Imm, [], .srai, .srai, .srai, rvcdImmNz⟩
  | .cAndi => ⟨"c.andi", .cbImm, .rdRs1Imm, [], .andi, .andi, .andi, rvcdImmNz⟩
  | .cSub => ⟨"c.sub", .cs, .rdRs1Rs2, [], .sub, .sub, .sub, 0⟩
  | .cXor => ⟨"c.xor", .cs, .rdRs1Rs2, [], .xor, .xor, .xor, 0⟩
  | .cOr => ⟨"c.or", .cs, .rdRs1Rs2, [], .or, .or, .or, 0⟩
  | .cAnd => ⟨"c.and", .cs, .rdRs1Rs2, [], .and, .and, .and, 0⟩
  | .cSubw => ⟨"c.subw", .cs, .rdRs1Rs2, [], .subw, .subw, .subw, 0⟩
  | .cAddw => ⟨"c.addw", .cs, .rdRs1Rs2, [], .addw, .addw, .addw, 0⟩
  | .cJ => ⟨"c.j", .cj, .rdOffset, [], .jal, .jal, .jal, 0⟩
  | .cBeqz => ⟨"c.beqz", .cb, .rs1Rs2Offset, [], .beq, .beq, .beq, 0⟩
  | .cBnez => ⟨"c.bnez", .cb, .rs1Rs2Offset, [], .bne, .bne, .bne, 0⟩
  | .cSlli => ⟨"c.slli", .ciSh6, .rdRs1Imm, [], .slli, .slli, .slli, rvcdImmNz⟩
  | .cFldsp => ⟨"c.fldsp", .ciLdsp, .frdOffsetRs1, [], .fld, .fld, .fld, 0⟩
  | .cLwsp => ⟨"c.lwsp", .ciLwsp, .rdOffsetRs1, [], .lw, .lw, .lw, 0⟩
  | .cFlwsp => ⟨"c.flwsp", .ciLwsp, .frdOffsetRs1, [], .flw, .illegal, .illegal, 0⟩
  | .cJr => ⟨"c.jr", .crJr, .rdRs1Offset, [], .jalr, .jalr, .jalr, 0⟩
  | .cMv => ⟨"c.mv", .crMv, .rdRs1Rs2, [], .addi, .addi, .addi, 0⟩
  | .cEbreak => ⟨"c.ebreak", .ciNone, .none, [], .ebreak, .ebreak, .ebreak, 0⟩
  | .cJalr => ⟨"c.jalr", .crJalr, .rdRs1Offset, [], .jalr, .jalr, .jalr, 0⟩
  | .cAdd => ⟨"c.add", .cr, .rdRs1Rs2, [], .add, .add, .add, 0⟩
  | .cFsdsp => ⟨"c.fsdsp", .cssSdsp, .frs2OffsetRs1, [], .fsd, .fsd, .fsd, 0⟩
  | .cSwsp => ⟨"c.swsp", .cssSwsp, .rs2OffsetRs1, [], .sw, .sw, .sw, 0⟩
  | .cFswsp => ⟨"c.fswsp", .cssSwsp, .frs2OffsetRs1, [], .fsw, .illegal, .illegal, 0⟩
  | .cLd => ⟨"c.ld", .clLd, .rdOffsetRs1, [], .illegal, .ld, .ld, 0⟩
  | .cSd => ⟨"c.sd", .csSd, .rs2OffsetRs1, [], .illegal, .sd, .sd, 0⟩
  | .cAddiw => ⟨"c.addiw", .ci, .rdRs1Imm, [], .illegal, .addiw, .addiw, 0⟩
  | .cLdsp => ⟨"c.ldsp", .ciLdsp, .rdOffsetRs1, [], .illegal, .ld, .ld, 0⟩
  | .cSdsp => ⟨"c.sdsp", .cssSdsp, .rs2OffsetRs1, [], .illegal, .sd, .sd, 0⟩
  | .cLq => ⟨"c.lq", .clLq, .rdOffsetRs1, [], .illegal, .illegal, .lq, 0⟩
  | .cSq => ⟨"c.sq", .csSq, .rs2OffsetRs1, [], .illegal, .illegal, .sq, 0⟩
  | .cLqsp => ⟨"c.lqsp", .ciLqsp, .rdOffsetRs1, [], .illegal, .illegal, .lq, 0⟩
  | .cSqsp => ⟨"c.sqsp", .cssSqsp, .rs2OffsetRs1, [], .illegal, .illegal, .sq, 0⟩
  | .nop => { name := "nop", codec := .i, format := .none }
  | .mv => { name := "mv", codec := .i, format := .rdRs1 }
  | .not => { name := "not", codec := .i, format := .rdRs1 }
  | .neg => { name := "neg", codec := .r, format := .rdRs2 }
  | .negw => { name := "negw", codec := .r, format := .rdRs2 }
  | .sextW => { name := "sext.w", codec := .i, format := .rdRs1 }
  | .seqz => { name := "seqz", codec := .i, format := .rdRs1 }
  | .snez => { name := "snez", codec := .r, format := .rdRs2 }
  | .sltz => { name := "sltz", codec := .r, format := .rdRs1 }
  | .sgtz => { name := "sgtz", codec := .r, format := .rdRs2 }
  | .fmvS => { name := "fmv.s", codec := .r, format := .rdRs1 }
  | .fabsS => { name := "fabs.s", codec := .r, format := .rdRs1 }
  | .fnegS => { name := "fneg.s", codec := .r, format := .rdRs1 }
  | .fmvD => { name := "fmv.d", codec := .r, format := .rdRs1 }
  | .fabsD => { name := "fabs.d", codec := .r, format := .rdRs1 }
  | .fnegD => { name := "fneg.d", codec := .r, format := .rdRs1 }
  | .fmvQ => { name := "fmv.q", codec := .r, format := .rdRs1 }
  | .fabsQ => { name := "fabs.q", codec := .r, format := .rdRs1 }
  | .fnegQ => { name := "fneg.q", codec := .r, format := .rdRs1 }
  | .beqz => { name := "beqz", codec := .sb, format := .rs1Offset }
  | .bnez => { name := "bnez", codec := .sb, format := .rs1Offset }
  | .blez => { name := "blez", codec := .sb, format := .rs2Offset }
  | .bgez => { name := "bgez", codec := .sb, format := .rs1Offset }
  | .bltz => { name := "bltz", codec := .sb, format := .rs1Offset }
  | .bgtz => { name := "bgtz", codec := .sb, format := .rs2Offset }
  | .ble => { name := "ble", codec := .sb, format := .rs2Rs1Offset }
  | .bleu => { name := "bleu", codec := .sb, format := .rs2Rs1Offset }
  | .bgt => { name := "bgt", codec := .sb, format := .rs2Rs1Offset }
  | .bgtu => { name := "bgtu", codec := .sb, format := .rs2Rs1Offset }
  | .j => { name := "j", codec := .uj, format := .offset }
  | .ret => { name := "ret", codec := .i, format := .none }
  | .jr => { name := "jr", codec := .i, format := .rs1 }
  | .rdcycle => { name := "rdcycle", codec := .iCsr, format := .rd }
  | .rdtime => { name := "rdtime", codec := .iCsr, format := .rd }
  | .rdinstret => { name := "rdinstret", codec := .iCsr, format := .rd }
  | .rdcycleh => { name := "rdcycleh", codec := .iCsr, format := .rd }
  | .rdtimeh => { name := "rdtimeh", codec := .iCsr, format := .rd }
  | .rdinstreth => { name := "rdinstreth", codec := .iCsr, format := .rd }
  | .frcsr => { name := "frcsr", codec := .iCsr, format := .rd }
  | .frrm => { name := "frrm", codec := .iCsr, format := .rd }
  | .frflags => { name := "frflags", codec := .iCsr, format := .rd }
  | .fscsr => { name := "fscsr", codec := .iCsr, format := .rdRs1 }
  | .fsrm => { name := "fsrm", codec := .iCsr, format := .rdRs1 }
  | .fsflags => { name := "fsflags", codec := .iCsr, format := .rdRs1 }
  | .fsrmi => { name := "fsrmi", codec := .iCsr, format := .rdZimm }
  | .fsflagsi => { name := "fsflagsi", codec := .iCsr, format := .rdZimm }

/-- The names of the control and status registers. -/
def csrNames : List (ℕ × String) :=
  [(0x0000, "ustatus"), (0x0001, "fflags"), (0x0002, "frm"), (0x0003, "fcsr"), (0x0004, "uie"),
  (0x0005, "utvec"), (0x0007, "utvt"), (0x0008, "vstart"), (0x0009, "vxsat"), (0x000a, "vxrm"),
  (0x000f, "vcsr"), (0x0040, "uscratch"), (0x0041, "uepc"), (0x0042, "ucause"), (0x0043, "utval"),
  (0x0044, "uip"), (0x0045, "unxti"), (0x0046, "uintstatus"), (0x0048, "uscratchcsw"),
  (0x0049, "uscratchcswl"), (0x0100, "sstatus"), (0x0102, "sedeleg"), (0x0103, "sideleg"),
  (0x0104, "sie"), (0x0105, "stvec"), (0x0106, "scounteren"), (0x0107, "stvt"),
  (0x0140, "sscratch"), (0x0141, "sepc"), (0x0142, "scause"), (0x0143, "stval"), (0x0144, "sip"),
  (0x0145, "snxti"), (0x0146, "sintstatus"), (0x0148, "sscratchcsw"), (0x0149, "sscratchcswl"),
  (0x0180, "satp"), (0x0200, "vsstatus"), (0x0204, "vsie"), (0x0205, "vstvec"),
  (0x0240, "vsscratch"), (0x0241, "vsepc"), (0x0242, "vscause"), (0x0243, "vstval"),
  (0x0244, "vsip"), (0x0280, "vsatp"), (0x0300, "mstatus"), (0x0301, "misa"), (0x0302, "medeleg"),
  (0x0303, "mideleg"), (0x0304, "mie"), (0x0305, "mtvec"), (0x0306, "mcounteren"),
  (0x0307, "mtvt"), (0x0310, "mstatush"), (0x0320, "mcountinhibit"), (0x0323, "mhpmevent3"),
  (0x0324, "mhpmevent4"), (0x0325, "mhpmevent5"), (0x0326, "mhpmevent6"), (0x0327, "mhpmevent7"),
  (0x0328, "mhpmevent8"), (0x0329, "mhpmevent9"), (0x032a, "mhpmevent10"),
  (0x032b, "mhpmevent11"), (0x032c, "mhpmevent12"), (0x032d, "mhpmevent13"),
  (0x032e, "mhpmevent14"), (0x032f, "mhpmevent15"), (0x0330, "mhpmevent16"),
  (0x0331, "mhpmevent17"), (0x0332, "mhpmevent18"), (0x0333, "mhpmevent19"),
  (0x0334, "mhpmevent20"), (0x0335, "mhpmevent21"), (0x0336, "mhpmevent22"),
  (0x0337, "mhpmevent23"), (0x0338, "mhpmevent24"), (0x0339, "mhpmevent25"),
  (0x033a, "mhpmevent26"), (0x033b, "mhpmevent27"), (0x033c, "mhpmevent28"),
  (0x033d, "mhpmevent29"), (0x033e, "mhpmevent30"), (0x033f, "mhpmevent31"), (0x0340, "mscratch"),
  (0x0341, "mepc"), (0x0342, "mcause"), (0x0343, "mtval"), (0x0344, "mip"), (0x0345, "mnxti"),
  (0x0346, "mintstatus"), (0x0348, "mscratchcsw"), (0x0349, "mscratchcswl"), (0x034a, "mtinst"),
  (0x034b, "mtval2"), (0x03a0, "pmpcfg0"), (0x03a1, "pmpcfg1"), (0x03a2, "pmpcfg2"),
  (0x03a3, "pmpcfg3"), (0x03b0, "pmpaddr0"), (0x03b1, "pmpaddr1"), (0x03b2, "pmpaddr2"),
  (0x03b3, "pmpaddr3"), (0x03b4, "pmpaddr4"), (0x03b5, "pmpaddr5"), (0x03b6, "pmpaddr6"),
  (0x03b7, "pmpaddr7"), (0x03b8, "pmpaddr8"), (0x03b9, "pmpaddr9"), (0x03ba, "pmpaddr10"),
  (0x03bb, "pmpaddr11"), (0x03bc, "pmpaddr12"), (0x03bd, "pmpaddr13"), (0x03be, "pmpaddr14"),
  (0x03bf, "pmpaddr15"), (0x0600, "hstatus"), (0x0602, "hedeleg"), (0x0603, "hideleg"),
  (0x0604, "hie"), (0x0605, "htimedelta"), (0x0606, "hcounteren"), (0x0607, "hgeie"),
  (0x0615, "htimedeltah"), (0x0643, "htval"), (0x0644, "hip"), (0x0645, "hvip"),
  (0x064a, "htinst"), (0x0680, "hgatp"), (0x07a0, "tselect"), (0x07a1, "tdata1"),
  (0x07a2, "tdata2"), (0x07a3, "tdata3"), (0x07a4, "tinfo"), (0x07a5, "tcontrol"),
  (0x07a8, "mcontext"), (0x07a9, "mnoise"), (0x07aa, "scontext"), (0x07b0, "dcsr"),
  (0x07b1, "dpc"), (0x07b2, "dscratch0"), (0x07b3, "dscratch1"), (0x0b00, "mcycle"),
  (0x0b02, "minstret"), (0x0b03, "mhpmcounter3"), (0x0b04, "mhpmcounter4"),
  (0x0b05, "mhpmcounter5"), (0x0b06, "mhpmcounter6"), (0x0b07, "mhpmcounter7"),
  (0x0b08, "mhpmcounter8"), (0x0b09, "mhpmcounter9"), (0x0b0a, "mhpmcounter10"),
  (0x0b0b, "mhpmcounter11"), (0x0b0c, "mhpmcounter12"), (0x0b0d, "mhpmcounter13"),
  (0x0b0e, "mhpmcounter14"), (0x0b0f, "mhpmcounter15"), (0x0b10, "mhpmcounter16"),
  (0x0b11, "mhpmcounter17"), (0x0b12, "mhpmcounter18"), (0x0b13, "mhpmcounter19"),
  (0x0b14, "mhpmcounter20"), (0x0b15, "mhpmcounter21"), (0x0b16, "mhpmcounter22"),
  (0x0b17, "mhpmcounter23"), (0x0b18, "mhpmcounter24"), (0x0b19, "mhpmcounter25"),
  (0x0b1a, "mhpmcounter26"), (0x0b1b, "mhpmcounter27"), (0x0b1c, "mhpmcounter28"),
  (0x0b1d, "mhpmcounter29"), (0x0b1e, "mhpmcounter30"), (0x0b1f, "mhpmcounter31"),
  (0x0b80, "mcycleh"), (0x0b82, "minstreth"), (0x0b83, "mhpmcounter3h"),
  (0x0b84, "mhpmcounter4h"), (0x0b85, "mhpmcounter5h"), (0x0b86, "mhpmcounter6h"),
  (0x0b87, "mhpmcounter7h"), (0x0b88, "mhpmcounter8h"), (0x0b89, "mhpmcounter9h"),
  (0x0b8a, "mhpmcounter10h"), (0x0b8b, "mhpmcounter11h"), (0x0b8c, "mhpmcounter12h"),
  (0x0b8d, "mhpmcounter13h"), (0x0b8e, "mhpmcounter14h"), (0x0b8f, "mhpmcounter15h"),
  (0x0b90, "mhpmcounter16h"), (0x0b91, "mhpmcounter17h"), (0x0b92, "mhpmcounter18h"),
  (0x0b93, "mhpmcounter19h"), (0x0b94, "mhpmcounter20h"), (0x0b95, "mhpmcounter21h"),
  (0x0b96, "mhpmcounter22h"), (0x0b97, "mhpmcounter23h"), (0x0b98, "mhpmcounter24h"),
  (0x0b99, "mhpmcounter25h"), (0x0b9a, "mhpmcounter26h"), (0x0b9b, "mhpmcounter27h"),
  (0x0b9c, "mhpmcounter28h"), (0x0b9d, "mhpmcounter29h"), (0x0b9e, "mhpmcounter30h"),
  (0x0b9f, "mhpmcounter31h"), (0x0c00, "cycle"), (0x0c01, "time"), (0x0c02, "instret"),
  (0x0c03, "hpmcounter3"), (0x0c04, "hpmcounter4"), (0x0c05, "hpmcounter5"),
  (0x0c06, "hpmcounter6"), (0x0c07, "hpmcounter7"), (0x0c08, "hpmcounter8"),
  (0x0c09, "hpmcounter9"), (0x0c0a, "hpmcounter10"), (0x0c0b, "hpmcounter11"),
  (0x0c0c, "hpmcounter12"), (0x0c0d, "hpmcounter13"), (0x0c0e, "hpmcounter14"),
  (0x0c0f, "hpmcounter15"), (0x0c10, "hpmcounter16"), (0x0c11, "hpmcounter17"),
  (0x0c12, "hpmcounter18"), (0x0c13, "hpmcounter19"), (0x0c14, "hpmcounter20"),
  (0x0c15, "hpmcounter21"), (0x0c16, "hpmcounter22"), (0x0c17, "hpmcounter23"),
  (0x0c18, "hpmcounter24"), (0x0c19, "hpmcounter25"), (0x0c1a, "hpmcounter26"),
  (0x0c1b, "hpmcounter27"), (0x0c1c, "hpmcounter28"), (0x0c1d, "hpmcounter29"),
  (0x0c1e, "hpmcounter30"), (0x0c1f, "hpmcounter31"), (0x0c20, "vl"), (0x0c21, "vtype"),
  (0x0c22, "vlenb"), (0x0c80, "cycleh"), (0x0c81, "timeh"), (0x0c82, "instreth"),
  (0x0c83, "hpmcounter3h"), (0x0c84, "hpmcounter4h"), (0x0c85, "hpmcounter5h"),
  (0x0c86, "hpmcounter6h"), (0x0c87, "hpmcounter7h"), (0x0c88, "hpmcounter8h"),
  (0x0c89, "hpmcounter9h"), (0x0c8a, "hpmcounter10h"), (0x0c8b, "hpmcounter11h"),
  (0x0c8c, "hpmcounter12h"), (0x0c8d, "hpmcounter13h"), (0x0c8e, "hpmcounter14h"),
  (0x0c8f, "hpmcounter15h"), (0x0c90, "hpmcounter16h"), (0x0c91, "hpmcounter17h"),
  (0x0c92, "hpmcounter18h"), (0x0c93, "hpmcounter19h"), (0x0c94, "hpmcounter20h"),
  (0x0c95, "hpmcounter21h"), (0x0c96, "hpmcounter22h"), (0x0c97, "hpmcounter23h"),
  (0x0c98, "hpmcounter24h"), (0x0c99, "hpmcounter25h"), (0x0c9a, "hpmcounter26h"),
  (0x0c9b, "hpmcounter27h"), (0x0c9c, "hpmcounter28h"), (0x0c9d, "hpmcounter29h"),
  (0x0c9e, "hpmcounter30h"), (0x0c9f, "hpmcounter31h"), (0x0e12, "hgeip"), (0x0f11, "mvendorid"),
  (0x0f12, "marchid"), (0x0f13, "mimpid"), (0x0f14, "mhartid"), (0x0f15, "mentropy")]

/-- The name of a control and status register, if it has one. -/
def csrName (csrno : ℕ) : Option String := csrNames.lookup csrno

end Disas
end Riscv32Sim
