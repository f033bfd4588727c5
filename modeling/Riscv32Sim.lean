import Riscv32Sim.Lib.LittleEndian
import Riscv32Sim.Lib.Automaton
import Riscv32Sim.Lib.Interleaving
import Riscv32Sim.Common
import Riscv32Sim.Memory.Sparse
import Riscv32Sim.Memory.Flat
import Riscv32Sim.Memory.Router
import Riscv32Sim.Loader
import Riscv32Sim.RegFile
import Riscv32Sim.Zicsr
import Riscv32Sim.Iss.Arith
import Riscv32Sim.Rv32im
import Riscv32Sim.Iss.Alu
import Riscv32Sim.Iss.Model
import Riscv32Sim.Iss.Trap
import Riscv32Sim.Iss.Exec
import Riscv32Sim.Iss.Frame
import Riscv32Sim.Iss.Privilege
import Riscv32Sim.Iss.Refinement
import Riscv32Sim.Iss.Fault
import Riscv32Sim.Iss.Interrupt
import Riscv32Sim.Iss.Exception
import Riscv32Sim.Iss.Csr
import Riscv32Sim.Iss.Halt
import Riscv32Sim.Iss.Log
import Riscv32Sim.Iss.Alignment
import Riscv32Sim.Json
import Riscv32Sim.Iss.Entry
import Riscv32Sim.Lib.Latch
import Riscv32Sim.Iss.Timer
import Riscv32Sim.Iss.Executable
import Riscv32Sim.Memory.Window
import Riscv32Sim.Benchmark
import Riscv32Sim.Iss.Overflow
import Riscv32Sim.Iss.Schedule
import Riscv32Sim.Iss.Machine
import Riscv32Sim.Main
import Riscv32Sim.Ipc
import Riscv32Sim.Lib.BitLayout
import Riscv32Sim.Disas.Opcode
import Riscv32Sim.Disas.Decode
import Riscv32Sim.Disas.Format
import Riscv32Sim.Disas.Pseudo
import Riscv32Sim.Disas.Manual
