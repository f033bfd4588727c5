import Riscv32Sim.Iss.Alu
import Riscv32Sim.Memory.Router
import Riscv32Sim.RegFile
import Riscv32Sim.Zicsr

/-!
# The simulator

`class model` executes one instruction per `step` and installs its pc, and takes a pending timer
interrupt, in `commit`. The methods are state transformers here; those that can throw return
`Except Error`.

## Main definitions

* `Model`: the state of the simulator
* `Model.trap`, `Model.savePc`: exceptions and interrupts
* `Model.csr`, `Model.load`, `Model.store`, `Model.handleMret` …: the instructions
* `Model.step`, `Model.commit`: one iteration of the main loop
* `Model.Reachable`: the states of the runs of the main loop
-/

namespace Riscv32Sim

/-- The part of `struct options` that the model reads. -/
structure Options where
  mtime : BitVec 32
  mtimecmp : BitVec 32
  mtiEnabled : Bool
  deriving DecidableEq, Repr

/-- `class model`. -/
structure Model where
  curState : HartState
  allowedPcs : List (BitVec 64 × BitVec 64)
  opts : Options
  tohostAddr : BitVec 32
  mem : AddressRouter
  mode : PrivilegedMode
  regf : RegFile
  csrf : CsrFile
  isDone : Bool

namespace Model

/-- The installed pc, `static_cast<uint32_t>(cur_state.pc)`. -/
abbrev pc (s : Model) : BitVec 32 := s.curState.pc.pc

/-- The staged pc. -/
abbrev pcNext (s : Model) : BitVec 32 := s.curState.pc.pcNext

/-- The decoded instruction. -/
abbrev dec (s : Model) : Op := s.curState.dec

/-- `pc.set(v)`. -/
@[simps] def setPc (s : Model) (v : BitVec 32) : Model :=
  { s with curState := { s.curState with pc := s.curState.pc.set v } }

/-- `pc.update()`. -/
@[simps] def updatePc (s : Model) : Model :=
  { s with curState := { s.curState with pc := s.curState.pc.update } }

/-- `model::write(reg_file &, …)`. -/
@[simps] def writeGpr (s : Model) (index : RegIndex) (val : BitVec 32) : Model :=
  { s with
    regf := s.regf.write index val
    curState := { s.curState with
      gprStaged := s.curState.gprStaged ++ [s.regf.change index val] } }

/-- `model::write(csr_file &, …)`. -/
@[simps] def writeCsr (s : Model) (index : CsrAddr) (val : BitVec 32) : Model :=
  { s with
    csrf := s.csrf.write index val
    curState := { s.curState with
      csrStaged := s.curState.csrStaged ++ [s.csrf.change index val] } }

/-- `model::is_address_initialized`. -/
def isAddressInitialized (ranges : List (BitVec 64 × BitVec 64)) (address : BitVec 64) : Bool :=
  ranges.any fun range => decide (range.1 ≤ address) && decide (address ≤ range.2)

/-- `model::is_valid_pc` at the installed pc. -/
def isValidPc (s : Model) : Bool := isAddressInitialized s.allowedPcs (s.pc.setWidth 64)

end Model

variable [Platform]

/-- `(to_int(cause) & masks::sign_bit) != 0U`. -/
def TrapCause.isInterrupt (cause : TrapCause) : Bool := (cause.toInt &&& signBit) != 0

/-- `to_int(cause) & masks::msb_zero`. -/
def TrapCause.code (cause : TrapCause) : BitVec 32 := cause.toInt &&& msbZero

namespace Model

/-- `model::model`, with what the loader found in the file. -/
def init (opts : Options) (entry : BitVec 32) (progbitRanges : List (BitVec 64 × BitVec 64))
    (tohostAddr : BitVec 32) (mem : AddressRouter) : Model where
  curState := Platform.hartState entry
  allowedPcs := progbitRanges
  opts := opts
  tohostAddr := tohostAddr
  mem := mem
  mode := .ofMode .machine
  regf := .init
  csrf := .init
  isDone := false

/-- The instruction at the pc: `is_compressed(x) ? decode16(x) : decode(x)`. -/
def decoded (s : Model) : Op :=
  let x := s.mem.read32 s.pc
  if x &&& 0b11 ≠ 0b11 then decode16 x else decode x

/-- `model::fetch`. -/
@[simps] def fetch (s : Model) : Model :=
  { s with curState := { s.curState with dec := s.decoded, instr := s.mem.read32 s.pc } }

/-! ## Traps -/

/-- `model::handle_sys_exit`. -/
def handleSysExit (s : Model) : Model :=
  if s.regf.read 17 = 93 then
    { s with mem := s.mem.write32 s.tohostAddr (s.regf.read 10), isDone := true }
  else s

/-- `model::save_pc`. -/
def savePc (s : Model) (cause : TrapCause) : Model :=
  let epc := s.pc &&& tvecBaseAddr
  match cause with
  | .expEcallFromHsMode | .expEcallFromMMode | .expEcallFromVsMode | .expEcallFromUVuMode =>
    (s.writeCsr (s.mode.privCsr .uepc) epc).handleSysExit
  | .expBreakpoint => s.writeCsr (s.mode.privCsr .uepc) epc
  | _ => s.writeCsr (s.mode.privCsr .uepc) ((epc + 4) &&& tvecBaseAddr)

/-- The part of `model::trap` that exceptions and interrupts share; an interrupt enters `vector`
bytes after the base of the handler. -/
def enterTrap (s : Model) (cause : TrapCause) (vector : BitVec 32) : Model :=
  let s := s.writeCsr (s.mode.privCsr .ucause) cause.toInt
  let s := s.writeCsr (s.mode.privCsr .utval) 0
  let tvec := s.csrf.read (s.mode.privCsr .utvec)
  (s.setPc ((tvec &&& tvecBaseAddr) + vector)).savePc cause

/-- The status an interrupt pushes: the previous mode is machine, the previous enable bit is the
current one, and interrupts are off. -/
def pushStatus (mstatus : BitVec 32) : BitVec 32 :=
  let mstatus := Status.set mstatus Status.mpp true
  let mstatus := Status.set mstatus (Status.mpp + 1) true
  let mstatus := Status.set mstatus Status.mpie (mstatus.getLsbD Status.mie)
  Status.set mstatus Status.mie false

/-- The local `take` of `model::trap`. -/
def takes (s : Model) (cause : TrapCause) : Bool :=
  let i := cause.code.toNat
  (s.csrf.read Csr.mie.toInt).getLsbD i && (s.csrf.read Csr.mip.toInt).getLsbD i &&
    (s.csrf.read Csr.mstatus.toInt).getLsbD Status.mie

/-- `model::trap`. -/
def trap (s : Model) (cause : TrapCause) : Model :=
  if cause.isInterrupt then
    if s.takes cause then
      let mstatus := s.csrf.read Csr.mstatus.toInt
      let mip := s.csrf.read Csr.mip.toInt
      let s := s.writeCsr Csr.mip.toInt (Status.set mip cause.code.toNat false)
      let s := s.writeCsr Csr.mstatus.toInt (pushStatus mstatus)
      (s.enterTrap cause (cause.code * 4)).updatePc
    else s
  else s.enterTrap cause 0

/-- `model::ecall_cause`. -/
def ecallCause (s : Model) : TrapCause :=
  match s.mode.m with
  | .user => .expEcallFromUVuMode
  | .supervisor => .expEcallFromVsMode
  | .hypervisor => .expEcallFromHsMode
  | .machine => .expEcallFromMMode

/-- `model::set_pending`. -/
@[simps! curState_pc allowedPcs opts tohostAddr mem mode regf isDone]
def setPending (s : Model) (cause : TrapCause) : Model :=
  let mip := s.csrf.read Csr.mip.toInt
  s.writeCsr Csr.mip.toInt (Status.set mip cause.code.toNat true)

/-! ## Instructions -/

/-- `model::handle_branch`. -/
def handleBranch (s : Model) : Except Error Model := do
  let opt ← s.dec.opt.getBranch
  let taken ← shouldBranch (s.regf.read s.dec.rs1) (s.regf.read s.dec.rs2) opt
  return if taken then s.setPc (s.dec.imm + s.pc) else s

/-- `model::load`. -/
def load (s : Model) : Except Error (BitVec 32) := do
  let addr := s.regf.read s.dec.rs1 + s.dec.imm
  match ← s.dec.opt.getLoad with
  | .lb => return ((s.mem.read8 addr).setWidth 32 <<< 24).sshiftRight 24
  | .lh => return ((s.mem.read16 addr).setWidth 32 <<< 16).sshiftRight 16
  | .lw => return s.mem.read32 addr
  | .lbu => return (s.mem.read8 addr).setWidth 32
  | .lhu => return (s.mem.read16 addr).setWidth 32
  | .unnamed _ => throw .unexpectedSwitchCaseValue

/-- `model::handle_load`. -/
def handleLoad (s : Model) : Except Error Model := do
  return s.writeGpr s.dec.rd (← s.load)

/-- `opd_1` of `model::handle_alu`. -/
def opd₁ (s : Model) : BitVec 32 := if s.dec.usePc then s.pc else s.regf.read s.dec.rs1

/-- `opd_2` of `model::handle_alu`. -/
def opd₂ (s : Model) : BitVec 32 := if s.dec.hasImm then s.dec.imm else s.regf.read s.dec.rs2

/-- `model::handle_alu`. -/
def handleAlu (s : Model) : Except Error Model := do
  let opt ← s.dec.opt.getAlu
  let res ← doAlu opt s.opd₁ s.opd₂
  match opt with
  | .jal | .jalr => return (s.writeGpr s.dec.rd (s.pc + s.dec.length)).setPc res
  | _ => return s.writeGpr s.dec.rd res

/-- The switch of `model::store`. -/
def storeMem (mem : AddressRouter) (addr val : BitVec 32) : Store → Except Error AddressRouter
  | .sb => return mem.write8 addr (val.setWidth 8)
  | .sh => return mem.write16 addr (val.setWidth 16)
  | .sw => return mem.write32 addr val
  | .unnamed _ => throw .unexpectedSwitchCaseValue

/-- `model::store`. -/
def store (s : Model) : Except Error Model := do
  let addr := s.regf.read s.dec.rs1 + s.dec.imm
  let mem ← storeMem s.mem addr (s.regf.read s.dec.rs2) (← s.dec.opt.getStore)
  return { s with mem := mem, isDone := addr == s.tohostAddr }

/-- Logical negation of a word, `!v`. -/
def logicalNot (v : BitVec 32) : BitVec 32 := if v = 0 then 1 else 0

/-- `model::csr` from the check of the immediate forms on. -/
def csrImm (s : Model) (sys : Sys) (tmp : BitVec 32) : Except Error Model :=
  if sys = .csrrwi ∨ sys = .csrrsi ∨ sys = .csrrci then
    let i : BitVec 32 := s.dec.rs1.setWidth 32
    let i := if sys = .csrrsi then i ||| tmp else i
    let i := if sys = .csrrci then logicalNot i &&& tmp else i
    if s.mode.canWrite s.dec.imm then do
      let addr ← CsrFile.checkAt (s.dec.imm.setWidth 16)
      return (s.writeCsr addr i).writeGpr s.dec.rd tmp
    else return s.trap .expInstIllegal
  else return s.writeGpr s.dec.rd tmp

/-- `model::csr` from the check of the register forms on. -/
def csrReg (s : Model) (sys : Sys) (tmp : BitVec 32) : Except Error Model :=
  if sys = .csrrw ∨ (sys = .csrrs ∧ s.dec.rs1 ≠ 0) ∨ (sys = .csrrc ∧ s.dec.rs1 ≠ 0) then
    -- the source tests the register index here, not the CSR address
    if s.mode.canRead (s.dec.rs1.setWidth 32) then
      let i := s.regf.read s.dec.rs1
      let i := if sys = .csrrs then i ||| tmp else i
      let i := if sys = .csrrc then tmp &&& logicalNot i else i
      if s.mode.canWrite s.dec.imm then do
        let addr ← CsrFile.checkAt (s.dec.imm.setWidth 16)
        (s.writeCsr addr i).csrImm sys tmp
      else return s.trap .expInstIllegal
    else return s.trap .expInstIllegal
  else s.csrImm sys tmp

/-- `model::csr`. -/
def csr (s : Model) : Except Error Model := do
  let sys ← s.dec.opt.getSys
  if sys ≠ .csrrwi ∨ s.dec.rd ≠ 0 then
    if s.mode.canRead s.dec.imm then
      let addr ← CsrFile.checkAt s.dec.imm
      s.csrReg sys (s.csrf.read addr)
    else return s.trap .expInstIllegal
  else s.csrReg sys 0

/-- `model::handle_mret`. -/
def handleMret (s : Model) : Model :=
  let mstat := s.csrf.read Csr.mstatus.toInt
  let pp := Privilege.ofBits (mstat.getLsbD (Status.mpp + 1)) (mstat.getLsbD Status.mpp)
  let mstat := Status.set mstat Status.mie (mstat.getLsbD Status.mpie)
  let mstat := Status.set mstat Status.mpie true
  let mstat := Status.set mstat Status.mpp true
  let mstat := Status.set mstat (Status.mpp + 1) true
  let s := s.writeCsr Csr.mstatus.toInt mstat
  let s := s.setPc (s.csrf.read Csr.mepc.toInt)
  { s with mode := .ofMode pp }

/-- `model::exec`. -/
def exec (s : Model) : Except Error Model :=
  match s.dec.tgt with
  | .store => s.store
  | .alu => s.handleAlu
  | .load => s.handleLoad
  | .branch => s.handleBranch
  | .csr => s.csr
  | .mret => .ok s.handleMret
  | .ecall => .ok (s.trap s.ecallCause)
  | .illegal => .ok (s.trap .expInstIllegal)
  | .ebreak => .ok (s.trap .expBreakpoint)

/-! ## The main loop -/

/-- `model::step`. -/
def step (s : Model) : Except Error Model :=
  let s := s.fetch
  let s := s.setPc (s.pc + s.dec.length)
  let s := if s.isValidPc then s else s.trap .expInstAccessFault
  s.exec

/-- `model::interrupt_pending`. -/
def interruptPending (s : Model) : Model :=
  if s.opts.mtiEnabled ∧ s.mem.read64 s.opts.mtimecmp < s.mem.read64 s.opts.mtime then
    (s.setPending .intTimerM).trap .intTimerM
  else s

/-- `csr_staged.clear()` and `gpr_staged.clear()`. -/
@[simps] def clearStaged (s : Model) : Model :=
  { s with curState := { s.curState with csrStaged := [], gprStaged := [] } }

/-- `model::commit`. -/
def commit (s : Model) : Model := s.updatePc.interruptPending.clearStaged

/-- One increment of `mtime` by the timer thread. -/
def tick (s : Model) : Model := { s with mem := s.mem.tick }

/-- Where the main loop is: about to call `step`, or about to call `commit`. -/
inductive Phase
  | ready | stepped
  deriving DecidableEq, Repr

/-- The states of the runs of the main loop from the initial state, with the increments of the
timer thread between the calls. -/
inductive Reachable (s₀ : Model) : Phase → Model → Prop
  | init : Reachable s₀ .ready s₀
  | step {s s' : Model} : Reachable s₀ .ready s → s.step = .ok s' → Reachable s₀ .stepped s'
  | commit {s : Model} : Reachable s₀ .stepped s → Reachable s₀ .ready s.commit
  | tick {p : Phase} {s : Model} : Reachable s₀ p s → Reachable s₀ p s.tick

/-- The simulator of a program whose words all decode to `op`, at address 0. -/
def single (op : Op) : Model :=
  @Model.init (Platform.always op) ⟨0, 0, false⟩ 0 [(0, 0)] 0x100 (.init .empty 0x200 0x208)

omit [Platform] in
@[simp] theorem decoded_always (op : Op) (s : Model) :
    @Model.decoded (Platform.always op) s = op :=
  ite_self op

end Model

end Riscv32Sim
