import Riscv32Sim.Iss.Entry
import Riscv32Sim.Iss.Log
import Riscv32Sim.Iss.Machine
import Riscv32Sim.Lib.Interleaving
import Riscv32Sim.Loader

/-!
# The simulator as a concurrent program

`run` loads the file, starts the timer thread if it was asked for, and drives the model. At its end
the destructor of `mti_source` sets `is_exiting`, notifies the condition variable and joins the
thread. `is_exiting` is set without the mutex, so the notification can be lost between the test of
the predicate and the wait; the thread then waits for its timeout.

Each call of `step` and of `commit` reads or writes at most one byte of the atomic array that the
two threads share, so it is one action of the main thread.

## Main definitions

* `RunOptions`, `boot`: what `run` constructs before its loop
* `System`, `System.mainStep`, `System.timerStep`, `System.act`: the two threads
* `Model.Driven`: the runs of the loop of `main`, with the test of `--step`
* `System.Traced`: a state of the threads and the run of the loop that the main thread has made
* `System.Sync`: what the two threads know of each other

## Main results

* `System.follows`: whatever the interleaving, the model goes through a run of the loop, and the
  output is that of its instructions
* `System.shutdown`: the program shuts down
* `System.main_exits`: a loaded program that exits is run to its exit
* `System.log_leads_back`: the log leads back to the initial registers
* `System.output_unique`: the output does not depend on the interleaving
-/

namespace Riscv32Sim

/-- The part of `options` that `run` reads once it has decided to simulate. The name of an output
file is empty if it was not given. -/
structure RunOptions extends Options where
  tohostSym : String := "tohost"
  jsonOutput : String := ""
  disasOutput : String := ""
  fstep : Bool := false
  deriving DecidableEq, Repr

/-- Where the main thread is in `run`. -/
inductive MainPc
  /-- at the head of the loop -/
  | test
  | step
  | print
  | commit
  /-- behind the loop -/
  | exit
  /-- in `mti_source::set_exiting` -/
  | store
  | notify
  | join
  | returned
  /-- `step` has thrown, and the program has been terminated -/
  | threw (e : Error)
  deriving DecidableEq, Repr

/-- Where the timer thread is in `runner`. -/
inductive RunnerPc
  /-- not started, as `--timer` was not given -/
  | absent
  /-- at the head of the loop -/
  | testExiting
  | testPending
  | fetchAdd
  | lock
  /-- in `wait_for` -/
  | pred
  | wait
  | blocked
  | relock (timedOut : Bool)
  | lastPred
  /-- at the end of the body -/
  | unlock
  | finished
  deriving DecidableEq, Repr

/-- What `run` writes: the instructions on the screen, the lines of the log, the lines of the
disassembly and the elements of `state_export`. -/
structure Output where
  screen : List Op := []
  log : List (GprChange ⊕ CsrChange) := []
  disas : List (BitVec 32 × BitVec 32) := []
  stateExport : List Op := []
  deriving DecidableEq

/-- The two threads and what they share. -/
structure System where
  model : Model
  main : MainPc
  runner : RunnerPc
  isExiting : Bool
  pendingInterrupt : ℤ
  locked : Bool
  out : Output
  /-- the contents of the JSON file, once it is written -/
  stateFile : Option (List Op)
  /-- the value in the last line of the log -/
  exitCode : Option (BitVec 32)

/-- The actions: of the main thread, with the character that it reads if it reads one, and of the
timer thread, with whether a wait ends by its timeout. -/
inductive Act
  | main (c : ℤ)
  | timer (timedOut : Bool)
  deriving DecidableEq, Repr

/-- The actions of the main thread. -/
def Act.isMain : Act → Bool
  | .main _ => true
  | .timer _ => false

section Main

variable [Platform]

/-- The initializers of `mem`, `rout` and `model` in `run`. -/
def boot (rest : Segment → ℕ → BitVec 8) (file : ElfFile) (opt : RunOptions) :
    Except LoaderError Model := do
  let rout ← Loader.load rest file.toElf (.init .empty opt.mtime opt.mtimecmp)
  let tohost ← file.symbol opt.tohostSym
  return .init opt.toOptions file.entry (Loader.progbitRanges file.sections) tohost rout

/-- What the body of the loop writes between `step` and `commit`. -/
def Output.report (opt : RunOptions) (s : Model) (o : Output) : Output where
  screen := o.screen ++ [s.dec]
  log := o.log ++ s.curState.gprStaged.map .inl ++ s.curState.csrStaged.map .inr
  disas := if opt.disasOutput ≠ "" then o.disas ++ [(s.pc, s.curState.instr)] else o.disas
  stateExport := if opt.jsonOutput ≠ "" then o.stateExport ++ [s.dec] else o.stateExport

namespace System

/-- `run` after its initializers, at the head of the loop. -/
def init (opt : RunOptions) (model : Model) : System where
  model := model
  main := .test
  runner := if opt.mtiEnabled then .testExiting else .absent
  isExiting := false
  pendingInterrupt := 0
  locked := false
  out := {}
  stateFile := none
  exitCode := none

/-- One action of the main thread. -/
def mainStep (opt : RunOptions) (c : ℤ) (s : System) : Option System :=
  match s.main with
  | .test =>
    some { s with
      main := if (opt.fstep && c == 'q'.toNat) || !s.model.isDone then .step else .exit }
  | .step =>
    match s.model.step with
    | .ok model => some { s with model := model, main := .print }
    | .error e => some { s with main := .threw e }
  | .print => some { s with out := s.out.report opt s.model, main := .commit }
  | .commit => some { s with model := s.model.commit, main := .test }
  | .exit =>
    some { s with
      stateFile := if opt.jsonOutput ≠ "" then some s.out.stateExport else none
      exitCode := some s.model.tohost
      -- `mt` is null without `--timer`
      main := if opt.mtiEnabled then .store else .returned }
  | .store => some { s with isExiting := true, main := .notify }
  | .notify => some { s with main := .join }
  | .join => if s.runner = .finished then some { s with main := .returned } else none
  | .returned | .threw _ => none

/-- One action of the timer thread. A wait ends by the notification, by its timeout or spuriously;
`relock` knows whether the timeout had passed. -/
def timerStep (timedOut : Bool) (s : System) : Option System :=
  match s.runner with
  | .absent | .finished => none
  | .testExiting => some { s with runner := if s.isExiting then .finished else .testPending }
  | .testPending => some { s with runner := if s.pendingInterrupt ≠ 0 then .finished else .fetchAdd }
  | .fetchAdd => some { s with model := s.model.tick, runner := .lock }
  | .lock => if s.locked then none else some { s with locked := true, runner := .pred }
  | .pred => some { s with runner := if s.isExiting then .unlock else .wait }
  | .wait => some { s with locked := false, runner := .blocked }
  | .blocked => some { s with runner := .relock timedOut }
  | .relock timedOut =>
    if s.locked then none
    else some { s with locked := true, runner := if timedOut then .lastPred else .pred }
  -- the value of `wait_for` is not used
  | .lastPred => some { s with runner := .unlock }
  | .unlock => some { s with locked := false, runner := .testExiting }

/-- One action; none after an exception has terminated the program. -/
def act (opt : RunOptions) (s : System) : Act → Option System
  | .main c => s.mainStep opt c
  | .timer timedOut =>
    match s.main with
    | .threw _ => none
    | _ => s.timerStep timedOut

end System

/-! ## The main thread follows the loop -/

namespace Model

/-- The runs of `while ((opt.fstep && std::cin.get() == 'q') || !model.done())`: as `Loop`, but with
`--step` a run may go on after the program has exited. -/
inductive Driven (fstep : Bool) (s₀ : Model) : List Model → Model → Prop
  | start : Driven fstep s₀ [] s₀
  | iterate {trace : List Model} {s s' : Model} (m n : ℕ) (h : Driven fstep s₀ trace s)
    (hgo : fstep = true ∨ s.isDone = false) (hstep : (tick^[m] s).step = .ok s') :
    Driven fstep s₀ (trace ++ [tick^[m] s]) (tick^[n] s').commit

/-- Without `--step` these are the runs of the loop. -/
theorem Driven.loop {s₀ s : Model} {trace : List Model} (h : Driven false s₀ trace s) :
    Loop s₀ trace s := by
  induction h with
  | start => exact .start
  | iterate m n h hgo hstep ih =>
    exact ih.iterate m n (hgo.resolve_left Bool.false_ne_true) hstep

/-- The lines of the log about the iteration that starts in `s`. -/
def logLines (s : Model) : List (GprChange ⊕ CsrChange) :=
  match s.step with
  | .ok s' => s'.curState.gprStaged.map .inl ++ s'.curState.csrStaged.map .inr
  | .error _ => []

end Model

open Model

/-- The output of the iterations of a run. -/
def outputOf (opt : RunOptions) (trace : List Model) : Output where
  screen := trace.map decoded
  log := trace.flatMap logLines
  disas := if opt.disasOutput ≠ "" then trace.map fun s => (s.pc, s.mem.read32 s.pc) else []
  stateExport := if opt.jsonOutput ≠ "" then trace.map decoded else []

/-- Where the main thread is in a run of the loop, the state of the model there, and the iterations
whose output has been written. -/
inductive Follows (fstep : Bool) (s₀ : Model) : MainPc → Model → List Model → Prop
  | test {trace : List Model} {s : Model} (k : ℕ) (h : Driven fstep s₀ trace s) :
    Follows fstep s₀ .test (tick^[k] s) trace
  | step {trace : List Model} {s : Model} (k : ℕ) (h : Driven fstep s₀ trace s)
    (hgo : fstep = true ∨ s.isDone = false) : Follows fstep s₀ .step (tick^[k] s) trace
  | print {trace : List Model} {s s' : Model} (m n : ℕ) (h : Driven fstep s₀ trace s)
    (hgo : fstep = true ∨ s.isDone = false) (hstep : (tick^[m] s).step = .ok s') :
    Follows fstep s₀ .print (tick^[n] s') trace
  | commit {trace : List Model} {s s' : Model} (m n : ℕ) (h : Driven fstep s₀ trace s)
    (hgo : fstep = true ∨ s.isDone = false) (hstep : (tick^[m] s).step = .ok s') :
    Follows fstep s₀ .commit (tick^[n] s') (trace ++ [tick^[m] s])
  | threw {trace : List Model} {s : Model} {e : Error} (k : ℕ) (h : Driven fstep s₀ trace s)
    (hgo : fstep = true ∨ s.isDone = false) (herr : (tick^[k] s).step = .error e) :
    Follows fstep s₀ (.threw e) (tick^[k] s) trace
  | left {trace : List Model} {s : Model} {pc : MainPc} (k : ℕ) (h : Driven fstep s₀ trace s)
    (hdone : s.isDone = true)
    (hpc : pc = .exit ∨ pc = .store ∨ pc = .notify ∨ pc = .join ∨ pc = .returned) :
    Follows fstep s₀ pc (tick^[k] s) trace

/-- An increment of the timer thread. -/
theorem Follows.of_tick {fstep : Bool} {s₀ s : Model} {pc : MainPc} {trace : List Model}
    (h : Follows fstep s₀ pc s trace) (hpc : ∀ e, pc ≠ .threw e) :
    Follows fstep s₀ pc s.tick trace := by
  cases h with
  | test k h =>
    rw [← Function.iterate_succ_apply' Model.tick]
    exact .test _ h
  | step k h hgo =>
    rw [← Function.iterate_succ_apply' Model.tick]
    exact .step _ h hgo
  | print m n h hgo hstep =>
    rw [← Function.iterate_succ_apply' Model.tick]
    exact .print m _ h hgo hstep
  | commit m n h hgo hstep =>
    rw [← Function.iterate_succ_apply' Model.tick]
    exact .commit m _ h hgo hstep
  | threw k h hgo herr => exact absurd rfl (hpc _)
  | left k h hdone hpc' =>
    rw [← Function.iterate_succ_apply' Model.tick]
    exact .left _ h hdone hpc'

/-- Between two iterations, and behind the loop, the whole run has been written. -/
theorem Follows.exists_driven {fstep : Bool} {s₀ s : Model} {pc : MainPc} {trace : List Model}
    (h : Follows fstep s₀ pc s trace) (hpc : pc = .test ∨ pc = .returned) :
    ∃ u k, Driven fstep s₀ trace u ∧ s = tick^[k] u := by
  cases h with
  | test k h | left k h hdone hpc' => exact ⟨_, k, h, rfl⟩
  | step | print | commit | threw => simp at hpc

/-- The run whose output has been written. When `main` has returned it is the whole run. -/
theorem Follows.exists_loop {s₀ s : Model} {pc : MainPc} {trace : List Model}
    (h : Follows false s₀ pc s trace) :
    ∃ u, Loop s₀ trace u ∧ (pc = .returned → u.isDone = true ∧ SameButMtime u s) := by
  cases h with
  | test k h | step k h hgo | print m n h hgo hstep | threw k h hgo herr =>
    exact ⟨_, h.loop, by simp⟩
  | commit m n h hgo hstep => exact ⟨_, (h.iterate m n hgo hstep).loop, by simp⟩
  | left k h hdone hpc => exact ⟨_, h.loop, fun _ => ⟨hdone, sameButMtime_tick_iterate k _⟩⟩

namespace Model

/-- The instruction and its encoding are those of the other state. -/
def SameInstr (e e' : Model) : Prop := e'.dec = e.dec ∧ e'.curState.instr = e.curState.instr

omit [Platform] in
theorem SameInstr.trans {e e' e'' : Model} (h : SameInstr e e') (h' : SameInstr e' e'') :
    SameInstr e e'' :=
  ⟨h'.1.trans h.1, h'.2.trans h.2⟩

theorem sameInstr_enterTrap (e : Model) (cause : TrapCause) (vector : BitVec 32) :
    SameInstr e (e.enterTrap cause vector) := by
  unfold SameInstr dec
  rw [enterTrap, savePc_eq]
  split_ifs <;> simp

theorem Effect.sameInstr {e e' : Model} (h : Effect e e') : SameInstr e e' := by
  cases h with
  | trap cause => exact sameInstr_enterTrap ..
  | gpr | jump | store | branch | skip | csr | mret => exact ⟨rfl, rfl⟩

/-- The hart state that an iteration leaves names the instruction that it has executed. -/
theorem hart_step {s s' : Model} (h : s.step = .ok s') :
    s'.dec = s.decoded ∧ s'.curState.instr = s.mem.read32 s.pc ∧ s'.pc = s.pc := by
  have hfetched : s.fetched.curState.instr = s.mem.read32 s.pc := rfl
  have hentered : SameInstr s.fetched s.entered := by
    unfold entered faulted
    split_ifs
    · exact ⟨rfl, rfl⟩
    · exact sameInstr_enterTrap ..
  obtain ⟨hdec, hinstr⟩ := hentered.trans (effect_of_step h).sameInstr
  exact ⟨hdec, hinstr.trans hfetched, (step_frame h).pc⟩

end Model

/-- The body of the loop writes the output of one more iteration. -/
theorem report_outputOf (opt : RunOptions) {trace : List Model} {s s' : Model} (n : ℕ)
    (hstep : s.step = .ok s') :
    (outputOf opt trace).report opt (Model.tick^[n] s') = outputOf opt (trace ++ [s]) := by
  obtain ⟨hdec, hinstr, hpc⟩ := hart_step hstep
  obtain ⟨v, hv⟩ := tick_iterate_eq n s'
  have hlines : s.logLines =
      s'.curState.gprStaged.map .inl ++ s'.curState.csrStaged.map .inr := by
    rw [logLines, hstep]
  rw [hv]
  simp only [outputOf, Output.report, List.map_append, List.map_singleton, List.flatMap_append,
    List.flatMap_singleton, hlines, List.append_assoc]
  simp only [dec, pc] at hdec hpc ⊢
  rw [hdec, hinstr, hpc]
  congr 1
  · split_ifs <;> rfl
  · split_ifs <;> rfl

namespace System

/-! ## What an action does -/

/-- The actions, one constructor for each place of a thread. -/
inductive Step (opt : RunOptions) (s : System) : Act → System → Prop
  | go (c : ℤ) (hpc : s.main = .test) (hgo : opt.fstep = true ∨ s.model.isDone = false) :
    Step opt s (.main c) { s with main := .step }
  | leave (c : ℤ) (hpc : s.main = .test) (hdone : s.model.isDone = true) :
    Step opt s (.main c) { s with main := .exit }
  | step (c : ℤ) (hpc : s.main = .step) {m : Model} (hstep : s.model.step = .ok m) :
    Step opt s (.main c) { s with model := m, main := .print }
  | throw (c : ℤ) (hpc : s.main = .step) {e : Error} (herr : s.model.step = .error e) :
    Step opt s (.main c) { s with main := .threw e }
  | print (c : ℤ) (hpc : s.main = .print) :
    Step opt s (.main c) { s with out := s.out.report opt s.model, main := .commit }
  | commit (c : ℤ) (hpc : s.main = .commit) :
    Step opt s (.main c) { s with model := s.model.commit, main := .test }
  | exit (c : ℤ) (hpc : s.main = .exit) :
    Step opt s (.main c) { s with
      stateFile := if opt.jsonOutput ≠ "" then some s.out.stateExport else none
      exitCode := some s.model.tohost
      main := if opt.mtiEnabled then .store else .returned }
  | store (c : ℤ) (hpc : s.main = .store) :
    Step opt s (.main c) { s with isExiting := true, main := .notify }
  | notify (c : ℤ) (hpc : s.main = .notify) : Step opt s (.main c) { s with main := .join }
  | join (c : ℤ) (hpc : s.main = .join) (hfin : s.runner = .finished) :
    Step opt s (.main c) { s with main := .returned }
  | timer (t : Bool) (hpc : ∀ e, s.main ≠ .threw e) {s' : System}
    (hstep : s.timerStep t = some s') : Step opt s (.timer t) s'

theorem step_of_act {opt : RunOptions} {s s' : System} {a : Act} (h : s.act opt a = some s') :
    Step opt s a s' := by
  cases a with
  | main c =>
    simp only [act, mainStep] at h
    cases hpc : s.main with
    | test =>
      rw [hpc] at h
      obtain rfl := Option.some.inj h
      split_ifs with hgo
      · simp only [Bool.or_eq_true, Bool.and_eq_true, Bool.not_eq_true'] at hgo
        exact .go c hpc (hgo.imp_left And.left)
      · simp only [Bool.or_eq_true, Bool.not_eq_true', not_or, Bool.not_eq_false] at hgo
        exact .leave c hpc hgo.2
    | step =>
      rw [hpc] at h
      cases hstep : s.model.step with
      | ok m =>
        simp only [hstep] at h
        obtain rfl := Option.some.inj h
        exact .step c hpc hstep
      | error e =>
        simp only [hstep] at h
        obtain rfl := Option.some.inj h
        exact .throw c hpc hstep
    | join =>
      rw [hpc] at h
      simp only at h
      split_ifs at h with hfin
      obtain rfl := Option.some.inj h
      exact .join c hpc hfin
    | print => rw [hpc] at h; obtain rfl := Option.some.inj h; exact .print c hpc
    | commit => rw [hpc] at h; obtain rfl := Option.some.inj h; exact .commit c hpc
    | exit => rw [hpc] at h; obtain rfl := Option.some.inj h; exact .exit c hpc
    | store => rw [hpc] at h; obtain rfl := Option.some.inj h; exact .store c hpc
    | notify => rw [hpc] at h; obtain rfl := Option.some.inj h; exact .notify c hpc
    | returned | threw e => rw [hpc] at h; exact absurd h (by simp)
  | timer t =>
    simp only [act] at h
    split at h
    · exact absurd h (by simp)
    · exact .timer t (by assumption) h

/-- What the timer thread leaves alone. -/
structure TimerFrame (s s' : System) : Prop where
  main : s'.main = s.main
  isExiting : s'.isExiting = s.isExiting
  pending : s'.pendingInterrupt = s.pendingInterrupt
  out : s'.out = s.out
  stateFile : s'.stateFile = s.stateFile
  exitCode : s'.exitCode = s.exitCode
  model : s'.model = s.model ∨ s.runner = .fetchAdd ∧ s'.model = s.model.tick

omit [Platform] in
theorem timerFrame {s s' : System} {t : Bool} (h : s.timerStep t = some s') : TimerFrame s s' := by
  unfold timerStep at h
  cases hpc : s.runner with
  | absent | finished => simp [hpc] at h
  | fetchAdd =>
    rw [hpc] at h
    obtain rfl := Option.some.inj h
    exact ⟨rfl, rfl, rfl, rfl, rfl, rfl, Or.inr ⟨hpc, rfl⟩⟩
  | lock | relock t' =>
    simp only [hpc] at h
    split_ifs at h
    all_goals
      obtain rfl := Option.some.inj h
      exact ⟨rfl, rfl, rfl, rfl, rfl, rfl, Or.inl rfl⟩
  | testExiting | testPending | pred | wait | blocked | lastPred | unlock =>
    rw [hpc] at h
    obtain rfl := Option.some.inj h
    exact ⟨rfl, rfl, rfl, rfl, rfl, rfl, Or.inl rfl⟩

/-! ## The loop -/

/-- The main thread has made a run of the loop, and written the output of its iterations. -/
def Traced (opt : RunOptions) (s₀ : Model) (s : System) (trace : List Model) : Prop :=
  Follows opt.fstep s₀ s.main s.model trace ∧ s.out = outputOf opt trace

theorem traced_init (opt : RunOptions) (s₀ : Model) : Traced opt s₀ (init opt s₀) [] := by
  refine ⟨.test 0 .start, ?_⟩
  simp only [outputOf, List.map_nil, List.flatMap_nil, ite_self]
  rfl

/-- One action keeps to the loop. -/
theorem Traced.of_act {opt : RunOptions} {s₀ : Model} {s s' : System} {trace : List Model} {a : Act}
    (h : Traced opt s₀ s trace) (hact : s.act opt a = some s') :
    ∃ trace', Traced opt s₀ s' trace' := by
  obtain ⟨m, pc, runner, isExiting, pending, locked, out, file, code⟩ := s
  obtain ⟨hfollows, hout⟩ : Follows opt.fstep s₀ pc m trace ∧ out = outputOf opt trace := h
  cases step_of_act hact with
  | timer t hpc hstep =>
    have hframe := timerFrame hstep
    refine ⟨trace, ?_, hframe.out.trans hout⟩
    rw [hframe.main]
    rcases hframe.model with hmodel | ⟨-, hmodel⟩
    · rwa [hmodel]
    · rw [hmodel]
      exact hfollows.of_tick hpc
  | go c hpc hgo =>
    obtain rfl : pc = .test := hpc
    cases hfollows with
    | test k h => exact ⟨trace, .step k h (by simpa using hgo), hout⟩
    | left k h hdone hpc => simp at hpc
  | leave c hpc hdone =>
    obtain rfl : pc = .test := hpc
    cases hfollows with
    | test k h => exact ⟨trace, .left k h (by simpa using hdone) (Or.inl rfl), hout⟩
    | left k h hdone hpc => simp at hpc
  | step c hpc hstep =>
    obtain rfl : pc = .step := hpc
    cases hfollows with
    | step k h hgo => exact ⟨trace, .print k 0 h hgo hstep, hout⟩
    | left k h hdone hpc => simp at hpc
  | throw c hpc herr =>
    obtain rfl : pc = .step := hpc
    cases hfollows with
    | step k h hgo => exact ⟨trace, .threw k h hgo herr, hout⟩
    | left k h hdone hpc => simp at hpc
  | print c hpc =>
    obtain rfl : pc = .print := hpc
    cases hfollows with
    | print k n h hgo hstep =>
      refine ⟨_, .commit k n h hgo hstep, ?_⟩
      rw [← report_outputOf opt n hstep, ← hout]
    | left k h hdone hpc => simp at hpc
  | commit c hpc =>
    obtain rfl : pc = .commit := hpc
    cases hfollows with
    | commit k n h hgo hstep => exact ⟨_, .test 0 (h.iterate k n hgo hstep), hout⟩
    | left k h hdone hpc => simp at hpc
  -- behind the loop the model stays as it is
  | exit c hpc =>
    obtain rfl : pc = .exit := hpc
    cases hfollows with
    | left k h hdone hpc => exact ⟨trace, .left k h hdone (by split_ifs <;> simp), hout⟩
  | store c hpc =>
    obtain rfl : pc = .store := hpc
    cases hfollows with
    | left k h hdone hpc => exact ⟨trace, .left k h hdone (by simp), hout⟩
  | notify c hpc =>
    obtain rfl : pc = .notify := hpc
    cases hfollows with
    | left k h hdone hpc => exact ⟨trace, .left k h hdone (by simp), hout⟩
  | join c hpc hfin =>
    obtain rfl : pc = .join := hpc
    cases hfollows with
    | left k h hdone hpc => exact ⟨trace, .left k h hdone (by simp), hout⟩

/-- **Whatever the interleaving, the model goes through a run of the loop, and the output is that
of its instructions.** -/
theorem follows {opt : RunOptions} {s₀ : Model} {s : System} {as : List Act}
    (h : Interleaving.Run (act opt) (init opt s₀) as s) : ∃ trace, Traced opt s₀ s trace :=
  h.invariant (P := fun s => ∃ trace, Traced opt s₀ s trace) (fun ⟨_, h⟩ hact => h.of_act hact)
    ⟨[], traced_init opt s₀⟩

/-! ## The threads -/

end System

/-- The timer thread holds the mutex. -/
def RunnerPc.Holds (pc : RunnerPc) : Prop :=
  pc = .pred ∨ pc = .wait ∨ pc = .lastPred ∨ pc = .unlock

/-- The destructor of `mti_source` has set `is_exiting`. -/
def MainPc.HasSet (pc : MainPc) : Prop := pc = .notify ∨ pc = .join

namespace System

/-- What the two threads know of each other. -/
structure Sync (opt : RunOptions) (s : System) : Prop where
  pending : s.pendingInterrupt = 0
  absent : s.runner = .absent ↔ opt.mtiEnabled = false
  locked : s.locked = true ↔ s.runner.Holds
  finished : s.runner = .finished → s.isExiting = true
  exiting : s.isExiting = true → s.main.HasSet ∨ s.main = .returned
  hasSet : s.main.HasSet → s.isExiting = true
  started : s.main = .store ∨ s.isExiting = true → opt.mtiEnabled = true
  returned : s.main = .returned → s.runner = .absent ∨ s.runner = .finished

omit [Platform] in
theorem sync_init (opt : RunOptions) (s₀ : Model) : Sync opt (init opt s₀) := by
  constructor <;> cases hmti : opt.mtiEnabled <;>
    simp [init, hmti, RunnerPc.Holds, MainPc.HasSet]

theorem Sync.of_act {opt : RunOptions} {s s' : System} {a : Act} (h : Sync opt s)
    (hact : s.act opt a = some s') : Sync opt s' := by
  obtain ⟨m, pc, runner, isExiting, pending, locked, out, file, code⟩ := s
  obtain ⟨hpending, habsent, hlocked, hfinished, hexiting, hhasSet, hstarted, hreturned⟩ := h
  have hstep' := step_of_act hact
  clear hact
  cases hstep' with
  | go c hpc | leave c hpc | step c hpc | throw c hpc | print c hpc | commit c hpc =>
    simp only at hpc
    subst hpc
    constructor <;> simp_all [MainPc.HasSet]
  | exit c hpc | store c hpc | notify c hpc | join c hpc =>
    simp only at hpc
    subst hpc
    constructor <;> cases hmti : opt.mtiEnabled <;> simp_all [MainPc.HasSet]
  | timer t hpc hstep =>
    cases runner with
    | absent | finished => simp [timerStep] at hstep
    | lock | relock t' =>
      simp only [timerStep] at hstep
      split_ifs at hstep with hfree
      all_goals
        obtain rfl := Option.some.inj hstep
        clear hstep
        constructor <;> simp_all [RunnerPc.Holds]
    | testExiting | pred =>
      obtain rfl := Option.some.inj hstep
      clear hstep
      cases isExiting <;> constructor <;> simp_all [RunnerPc.Holds]
    | testPending | fetchAdd | wait | blocked | lastPred | unlock =>
      obtain rfl := Option.some.inj hstep
      clear hstep
      constructor <;> simp_all [RunnerPc.Holds]

theorem Sync.reachable {opt : RunOptions} {s₀ : Model} {s : System} {as : List Act}
    (h : Interleaving.Run (act opt) (init opt s₀) as s) : Sync opt s :=
  h.invariant Sync.of_act (sync_init opt s₀)

omit [Platform] in
/-- The timer thread can always go on: nobody else takes its mutex, and a wait has a timeout. -/
theorem Sync.exists_timerStep {opt : RunOptions} {s : System} (h : Sync opt s)
    (habsent : s.runner ≠ .absent) (hfin : s.runner ≠ .finished) (t : Bool) :
    ∃ s', s.timerStep t = some s' := by
  have hfree : ¬ s.runner.Holds → s.locked = false := fun hno => by
    rw [← Bool.not_eq_true, h.locked]
    exact hno
  unfold timerStep
  cases hpc : s.runner with
  | absent => exact absurd hpc habsent
  | finished => exact absurd hpc hfin
  | lock | relock t' => exact ⟨_, by rw [hfree (by simp [hpc, RunnerPc.Holds])]; rfl⟩
  | testExiting | testPending | fetchAdd | pred | wait | blocked | lastPred | unlock =>
    exact ⟨_, rfl⟩

/-- There is no deadlock: until the program returns or throws, the main thread can go on, or it
waits for the timer thread, and that can. -/
theorem Sync.exists_act {opt : RunOptions} {s : System} (h : Sync opt s)
    (hreturned : s.main ≠ .returned) (hthrew : ∀ e, s.main ≠ .threw e) :
    (∀ c, ∃ s', s.act opt (.main c) = some s') ∨
      s.main = .join ∧ ∀ t, ∃ s', s.act opt (.timer t) = some s' := by
  simp only [act, mainStep]
  cases hpc : s.main with
  | returned => exact absurd hpc hreturned
  | threw e => exact absurd hpc (hthrew e)
  | step => cases s.model.step with | _ => exact Or.inl fun c => ⟨_, rfl⟩
  | join =>
    by_cases hfin : s.runner = .finished
    · exact Or.inl fun c => ⟨_, if_pos hfin⟩
    · have hmti := h.started (Or.inr (h.hasSet (Or.inr hpc)))
      have habsent : s.runner ≠ .absent := fun ha => by simp [h.absent.mp ha] at hmti
      exact Or.inr ⟨rfl, h.exists_timerStep habsent hfin⟩
  | test | print | commit | exit | store | notify => exact Or.inl fun c => ⟨_, rfl⟩

/-! ## The shutdown -/

end System

/-- A bound on the actions of the timer thread once `is_exiting` is set. -/
def RunnerPc.rank : RunnerPc → ℕ
  | .wait | .testPending => 6
  | .blocked | .fetchAdd => 5
  | .relock _ | .lock => 4
  | .pred | .lastPred => 3
  | .unlock => 2
  | .testExiting => 1
  | .finished | .absent => 0

/-- A bound on the actions of the main thread once `is_exiting` is set. -/
def MainPc.rank : MainPc → ℕ
  | .notify => 2
  | .join => 1
  | _ => 0

namespace System

omit [Platform] in
/-- Once `is_exiting` is set, each action of the timer thread brings it nearer to its end. -/
theorem rank_timerStep {s s' : System} {t : Bool} (hset : s.isExiting = true)
    (h : s.timerStep t = some s') : s'.runner.rank + 1 ≤ s.runner.rank := by
  unfold timerStep at h
  cases hpc : s.runner with
  | absent | finished => simp [hpc] at h
  | lock | relock t' =>
    simp only [hpc] at h
    split_ifs at h
    all_goals
      obtain rfl := Option.some.inj h
      simp [RunnerPc.rank]
  | testExiting | pred =>
    rw [hpc] at h
    obtain rfl := Option.some.inj h
    simp [RunnerPc.rank, hset]
  | testPending =>
    rw [hpc] at h
    obtain rfl := Option.some.inj h
    simp only [RunnerPc.rank]
    split_ifs <;> simp
  | fetchAdd | wait | blocked | lastPred | unlock =>
    rw [hpc] at h
    obtain rfl := Option.some.inj h
    simp [RunnerPc.rank]

/-- Once `is_exiting` is set, each action brings the program nearer to its end. -/
theorem rank_act {opt : RunOptions} {s s' : System} {a : Act} (hsync : Sync opt s)
    (hset : s.isExiting = true) (hact : s.act opt a = some s') :
    s'.isExiting = true ∧
      s'.runner.rank + s'.main.rank + 1 ≤ s.runner.rank + s.main.rank := by
  have hmain := hsync.exiting hset
  cases step_of_act hact with
  | go c hpc | leave c hpc | step c hpc | throw c hpc | print c hpc | commit c hpc | exit c hpc
  | store c hpc => simp [hpc, MainPc.HasSet] at hmain
  | notify c hpc | join c hpc => exact ⟨hset, by simp [hpc, MainPc.rank]⟩
  | timer t hpc hstep =>
    have hframe := timerFrame hstep
    have hrank := rank_timerStep hset hstep
    rw [hframe.main]
    exact ⟨hframe.isExiting.trans hset, by omega⟩

/-- The model stays as it was in `m`, but for one increment that the timer thread may be about to
make. -/
def LastTick (m : Model) (s : System) : Prop :=
  s.model = m ∨ s.model = m.tick ∧ s.runner ≠ .testPending ∧ s.runner ≠ .fetchAdd

omit [Platform] in
theorem LastTick.of_timerStep {m : Model} {s s' : System} {t : Bool} (hset : s.isExiting = true)
    (h : LastTick m s) (hstep : s.timerStep t = some s') : LastTick m s' := by
  unfold timerStep at hstep
  cases hpc : s.runner with
  | absent | finished => simp [hpc] at hstep
  | fetchAdd =>
    rw [hpc] at hstep
    obtain rfl := Option.some.inj hstep
    rcases h with hm | ⟨-, -, hne⟩
    · exact Or.inr ⟨congrArg tick hm, by simp, by simp⟩
    · exact absurd hpc hne
  | testPending =>
    rw [hpc] at hstep
    obtain rfl := Option.some.inj hstep
    exact h.imp_right fun ⟨_, hne, _⟩ => absurd hpc hne
  | lock | relock t' =>
    simp only [hpc] at hstep
    split_ifs at hstep
    all_goals
      obtain rfl := Option.some.inj hstep
      exact h.imp_right fun ⟨hm, _⟩ => ⟨hm, by simp, by simp⟩
  | testExiting | pred =>
    rw [hpc] at hstep
    obtain rfl := Option.some.inj hstep
    exact h.imp_right fun ⟨hm, _⟩ => ⟨hm, by simp [hset], by simp [hset]⟩
  | wait | blocked | lastPred | unlock =>
    rw [hpc] at hstep
    obtain rfl := Option.some.inj hstep
    exact h.imp_right fun ⟨hm, _⟩ => ⟨hm, by simp, by simp⟩

theorem LastTick.of_act {opt : RunOptions} {m : Model} {s s' : System} {a : Act}
    (hsync : Sync opt s) (hset : s.isExiting = true) (h : LastTick m s)
    (hact : s.act opt a = some s') : LastTick m s' := by
  have hmain := hsync.exiting hset
  cases step_of_act hact with
  | go c hpc | leave c hpc | step c hpc | throw c hpc | print c hpc | commit c hpc | exit c hpc
  | store c hpc => simp [hpc, MainPc.HasSet] at hmain
  | notify c hpc | join c hpc => exact h
  | timer t hpc hstep => exact h.of_timerStep hset hstep

/-- **The program shuts down.** From the moment that `is_exiting` is set, the program makes at most
eight more actions, however the two threads are interleaved, whether the notification is lost or
not, and it is not stuck before `main` has returned. `mtime` is incremented at most once more, and
when `main` has returned the timer thread is finished. -/
theorem shutdown {opt : RunOptions} {s₀ : Model} {s s' : System} {as bs : List Act}
    (h : Interleaving.Run (act opt) (init opt s₀) as s) (hset : s.isExiting = true)
    (h' : Interleaving.Run (act opt) s bs s') :
    bs.length ≤ 8 ∧ (s'.main ≠ .returned → ∃ a s'', s'.act opt a = some s'') ∧
    (s'.model = s.model ∨ s'.model = s.model.tick) ∧
    (s'.main = .returned → s'.runner = .finished) := by
  have hsync := Sync.reachable h
  have hsync' := Sync.reachable (h.append h')
  have hset' : s'.isExiting = true :=
    (h'.invariant (P := fun s => Sync opt s ∧ s.isExiting = true)
      (fun hs hact => ⟨hs.1.of_act hact, (rank_act hs.1 hs.2 hact).1⟩) ⟨hsync, hset⟩).2
  have hmain' := hsync'.exiting hset'
  refine ⟨?_, fun hne => ?_, ?_, fun hreturned => ?_⟩
  · have hcount := h'.countP_add_le (P := fun s => Sync opt s ∧ s.isExiting = true)
      (fun _ => true) (fun s => s.runner.rank + s.main.rank)
      (fun hs hact => ⟨hs.1.of_act hact, (rank_act hs.1 hs.2 hact).1⟩)
      (fun hs hact => (rank_act hs.1 hs.2 hact).2) ⟨hsync, hset⟩
    have hrunner : s.runner.rank ≤ 6 := by cases s.runner <;> simp [RunnerPc.rank]
    have hmain : s.main.rank ≤ 2 := by cases s.main <;> simp [MainPc.rank]
    rw [List.countP_true] at hcount
    omega
  · have hthrew : ∀ e, s'.main ≠ .threw e := fun e he => by simp [he, MainPc.HasSet] at hmain'
    rcases hsync'.exists_act hne hthrew with hact | ⟨-, hact⟩
    · exact ⟨_, hact 0⟩
    · exact ⟨_, hact false⟩
  · have hlast := (h'.invariant (P := fun t => (Sync opt t ∧ t.isExiting = true) ∧
      LastTick s.model t) (fun hs hact => ⟨⟨hs.1.1.of_act hact, (rank_act hs.1.1 hs.1.2 hact).1⟩,
        hs.2.of_act hs.1.1 hs.1.2 hact⟩) ⟨⟨hsync, hset⟩, Or.inl rfl⟩).2
    exact hlast.imp_right And.left
  · refine (hsync'.returned hreturned).resolve_left fun habsent => ?_
    have hmti := hsync'.started (Or.inr hset')
    exact absurd ((hsync'.absent.mp habsent).symm.trans hmti) Bool.false_ne_true

/-! ## The exit -/

/-- How many actions the main thread has left where it is, when `left` iterations are left that it
has not written. -/
def mainRank (left : ℕ) : MainPc → ℕ
  | .test => 4 * left + 5
  | .step => 4 * left + 4
  | .print => 4 * left + 3
  | .commit => 4 * left + 6
  | .exit => 4
  | .store => 3
  | .notify => 2
  | .join => 1
  | .returned | .threw _ => 0

end System

namespace ElfFile

/-- What the simulator is told about the program of a file. -/
def config (file : ElfFile) (opt : RunOptions) (tohost : BitVec 32) : Rv32im.Config :=
  ⟨Loader.progbitRanges file.sections, tohost, opt.mtime, opt.mtimecmp⟩

/-- The machine with the image of a file, at its entry point. -/
def start (file : ElfFile) : Rv32im.State :=
  ⟨fun _ => 0, imageOf (loadable file.segments), file.entry⟩

end ElfFile

/-- What `boot` returns. -/
theorem exists_boot {opt : RunOptions} {file : ElfFile} (hcheck : Loader.check file.toElf = .ok ())
    (hdisj : (loadable file.segments).Pairwise Segment.Disjoint)
    (hfit : ∀ s ∈ loadable file.segments, s.Fits)
    (hspill : SpillsRewritten (loadable file.segments)) {tohost : BitVec 32}
    (hsym : file.symbol opt.tohostSym = .ok tohost) (rest : Segment → ℕ → BitVec 8) :
    ∃ s₀, boot rest file opt = .ok s₀ ∧ s₀.archPage = file.start ∧
      s₀.config = file.config opt tohost ∧ s₀.TimerDisabled ∧ s₀.isDone = false := by
  obtain ⟨r, hr, hread⟩ := Loader.exists_load hcheck hfit rest opt.mtime opt.mtimecmp
  obtain ⟨hmtime, hmtimecmp⟩ := Loader.addrs_of_load hr
  have hpage := (hspill.isImage hdisj hfit hread).read8_eq_imageOf
  refine ⟨.init opt.toOptions file.entry (Loader.progbitRanges file.sections) tohost r, ?_, ?_, ?_,
    ?_, rfl⟩
  · rw [boot, hr, hsym]
    rfl
  · refine Rv32im.State.ext rfl hpage ?_
    exact Platform.hartState_pc file.entry
  · simp only [Model.config, Model.init, hmtime, hmtimecmp]
    rfl
  · -- a CSR file starts with zeros
    refine Or.inr (Or.inl ?_)
    change (CsrFile.init.read Csr.mie.toInt).getLsbD 7 = false
    decide

/-- What `boot` returns is an initial state of the model. -/
theorem eq_init_of_boot {opt : RunOptions} {file : ElfFile} {rest : Segment → ℕ → BitVec 8}
    {s₀ : Model} (h : boot rest file opt = .ok s₀) :
    ∃ tohost rout, s₀ = .init opt.toOptions file.entry (Loader.progbitRanges file.sections) tohost
      rout := by
  unfold boot at h
  cases hload : Loader.load rest file.toElf (.init .empty opt.mtime opt.mtimecmp) with
  | error e => simp [hload, bind, Except.bind] at h
  | ok rout =>
    cases hsym : file.symbol opt.tohostSym with
    | error e => simp [hload, hsym, bind, Except.bind] at h
    | ok tohost =>
      simp only [hload, hsym, bind, Except.bind] at h
      exact ⟨tohost, rout, (Except.ok.inj h).symm⟩

namespace System

/-- What the main thread has left to do in the run of a program that exits in its step `n`. -/
structure Progress (opt : RunOptions) (s₀ : Model) (n : ℕ) (code : BitVec 32) (s : System)
    (trace : List Model) : Prop where
  traced : Traced opt s₀ s trace
  length_le : trace.length ≤ n + 1
  more : s.main = .step ∨ s.main = .print → trace.length ≤ n
  undone : s.main = .test → s.model.isDone = false → trace.length ≤ n
  noThrow : ∀ e, s.main ≠ .threw e
  last : s.main = .store ∨ s.main.HasSet ∨ s.main = .returned →
    trace.length = n + 1 ∧ s.model.tohost = code

section Exits

variable {opt : RunOptions} {s₀ : Model} {n : ℕ} {code : BitVec 32}

/-- A run of the loop of a program that exits makes progress. -/
theorem Traced.progress (hfstep : opt.fstep = false) (h₀ : s₀.isDone = false)
    (htimer : s₀.TimerDisabled) (hexit : Rv32im.Exits s₀.config s₀.archPage n code) {s : System}
    {trace : List Model} (h : Traced opt s₀ s trace) : Progress opt s₀ n code s trace := by
  obtain ⟨m, pc, runner, isExiting, pending, locked, out, file, exitCode⟩ := s
  have hfollows : Follows opt.fstep s₀ pc m trace := h.1
  rw [hfstep] at hfollows
  have hundone : ∀ {trace : List Model} {u : Model}, Driven false s₀ trace u →
      u.isDone = false → trace.length ≤ n := fun hrun hno => by
    obtain ⟨hle, hdone, -, -⟩ := hrun.loop.exits h₀ htimer hexit
    have hne : ¬ _ := fun heq => Bool.false_ne_true (hno.symm.trans (hdone.mpr heq))
    omega
  cases hfollows with
  | test k hrun =>
    obtain ⟨hle, -⟩ := hrun.loop.exits h₀ htimer hexit
    exact ⟨h, hle, by simp, fun _ hno => hundone hrun (by simpa using hno), by simp,
      by simp [MainPc.HasSet]⟩
  | step k hrun hgo =>
    have hle := hundone hrun (hgo.resolve_left Bool.false_ne_true)
    exact ⟨h, by omega, fun _ => hle, by simp, by simp, by simp [MainPc.HasSet]⟩
  | print k j hrun hgo hstep =>
    have hle := hundone hrun (hgo.resolve_left Bool.false_ne_true)
    exact ⟨h, by omega, fun _ => hle, by simp, by simp, by simp [MainPc.HasSet]⟩
  | commit k j hrun hgo hstep =>
    have hle := hundone hrun (hgo.resolve_left Bool.false_ne_true)
    refine ⟨h, ?_, by simp, by simp, by simp, by simp [MainPc.HasSet]⟩
    rw [List.length_append, List.length_singleton]
    omega
  | threw k hrun hgo herr =>
    -- an instruction of the program does not throw
    obtain ⟨-, -, hok, -⟩ := hrun.loop.exits h₀ htimer hexit
    obtain ⟨s', hs'⟩ := hok (hgo.resolve_left Bool.false_ne_true) k
    exact absurd (herr.symm.trans hs') (by simp)
  | left k hrun hdone hpc =>
    obtain ⟨hle, hiff, -, hcode⟩ := hrun.loop.exits h₀ htimer hexit
    refine ⟨h, hle, fun hpc' => ?_, fun hpc' => ?_, fun e hpc' => ?_, fun _ =>
      ⟨hiff.mp hdone, hcode hdone k⟩⟩
    · rcases hpc with rfl | rfl | rfl | rfl | rfl <;> simp at hpc'
    · rcases hpc with rfl | rfl | rfl | rfl | rfl <;> simp at hpc'
    · rcases hpc with rfl | rfl | rfl | rfl | rfl <;> simp at hpc'

theorem Progress.screen_length {s : System} {trace : List Model}
    (h : Progress opt s₀ n code s trace) : s.out.screen.length = trace.length := by
  rw [h.traced.2, outputOf, List.length_map]

/-- Every action of the main thread brings it nearer to its end. -/
theorem Progress.mainRank_act {s s' : System} {trace : List Model} {a : Act}
    (h : Progress opt s₀ n code s trace) (hact : s.act opt a = some s') :
    mainRank (n + 1 - s'.out.screen.length) s'.main + a.isMain.toNat ≤
      mainRank (n + 1 - s.out.screen.length) s.main := by
  have hlen := h.screen_length
  cases step_of_act hact with
  | timer t hpc hstep =>
    have hframe := timerFrame hstep
    rw [hframe.main, hframe.out]
    exact Nat.le_refl _
  | go c hpc hgo => simp [hpc, mainRank, Act.isMain]
  | leave c hpc hdone =>
    simp only [hpc, mainRank, Act.isMain, Bool.toNat_true]
    omega
  | step c hpc hstep => simp [hpc, mainRank, Act.isMain]
  | throw c hpc herr => simp [hpc, mainRank, Act.isMain]
  | print c hpc =>
    have hmore := h.more (Or.inr hpc)
    simp only [hpc, mainRank, Act.isMain, Bool.toNat_true, Output.report, List.length_append,
      List.length_singleton]
    omega
  | commit c hpc => simp [hpc, mainRank, Act.isMain]
  | exit c hpc => cases opt.mtiEnabled <;> simp [hpc, mainRank, Act.isMain]
  | store c hpc => simp [hpc, mainRank, Act.isMain]
  | notify c hpc => simp [hpc, mainRank, Act.isMain]
  | join c hpc hfin => simp [hpc, mainRank, Act.isMain]

end Exits

/-- What has been written behind the loop. -/
def Written (opt : RunOptions) (s : System) : Prop :=
  s.main = .store ∨ s.main.HasSet ∨ s.main = .returned →
    s.exitCode = some s.model.tohost ∧
      s.stateFile = if opt.jsonOutput ≠ "" then some s.out.stateExport else none

theorem Written.of_act {opt : RunOptions} {s s' : System} {a : Act} (h : Written opt s)
    (hact : s.act opt a = some s') : Written opt s' := by
  cases step_of_act hact with
  | go c hpc | leave c hpc | step c hpc | throw c hpc | print c hpc | commit c hpc =>
    simp [Written, MainPc.HasSet]
  | exit c hpc => exact fun _ => ⟨rfl, rfl⟩
  | store c hpc => exact fun _ => h (Or.inl hpc)
  | notify c hpc => exact fun _ => h (Or.inr (Or.inl (Or.inl hpc)))
  | join c hpc hfin => exact fun _ => h (Or.inr (Or.inl (Or.inr hpc)))
  | timer t hpc hstep =>
    have hframe := timerFrame hstep
    have htohost : s'.model.tohost = s.model.tohost := by
      rcases hframe.model with hmodel | ⟨-, hmodel⟩
      · rw [hmodel]
      · rw [hmodel]
        exact tick_iterate_tohost 1 s.model
    intro hpc'
    rw [hframe.main] at hpc'
    rw [hframe.exitCode, hframe.stateFile, hframe.out, htohost]
    exact h hpc'

theorem Written.reachable {opt : RunOptions} {s₀ : Model} {s : System} {as : List Act}
    (h : Interleaving.Run (act opt) (init opt s₀) as s) : Written opt s :=
  h.invariant Written.of_act (by simp [Written, init, MainPc.HasSet])

/-- **A loaded program is run to its exit.** For every file whose segments are disjoint and whose
spilled bytes are written again by later segments, with a program that exits in its step `n` and
that the simulator executes faithfully until then, without `--step` and however the two threads are
interleaved: the main thread makes at most `4 * n + 9` actions; until it has returned it can go on,
or it waits for the timer thread, and that can; and when it has returned it has written the exit
code of the program, and the instructions that the machine fetches, to the screen and into the JSON
file. -/
theorem main_exits {opt : RunOptions} {file : ElfFile} (hcheck : Loader.check file.toElf = .ok ())
    (hdisj : (loadable file.segments).Pairwise Segment.Disjoint)
    (hfit : ∀ s ∈ loadable file.segments, s.Fits)
    (hspill : SpillsRewritten (loadable file.segments)) {tohost : BitVec 32}
    (hsym : file.symbol opt.tohostSym = .ok tohost) (hfstep : opt.fstep = false) {n : ℕ}
    {code : BitVec 32} (hexit : Rv32im.Exits (file.config opt tohost) file.start n code)
    (rest : Segment → ℕ → BitVec 8) :
    ∃ s₀, boot rest file opt = .ok s₀ ∧
      ∀ as s, Interleaving.Run (act opt) (init opt s₀) as s →
        as.countP Act.isMain ≤ 4 * n + 9 ∧
        ((∀ c, ∃ s', s.act opt (.main c) = some s') ∨
          (s.main = .join ∧ ∀ t, ∃ s', s.act opt (.timer t) = some s') ∨
          (s.main = .returned ∧ s.exitCode = some code ∧
            s.out.screen =
              (List.range (n + 1)).map (fun k => Rv32im.fetch (Rv32im.next^[k] file.start)) ∧
            s.stateFile = if opt.jsonOutput ≠ "" then some s.out.screen else none)) := by
  obtain ⟨s₀, hboot, harch, hconfig, htimer, h₀⟩ :=
    exists_boot hcheck hdisj hfit hspill hsym rest
  rw [← hconfig, ← harch] at hexit
  refine ⟨s₀, hboot, fun as s hrun => ⟨?_, ?_⟩⟩
  · have hcount := hrun.countP_add_le (P := fun s => ∃ trace, Progress opt s₀ n code s trace)
      Act.isMain (fun s => mainRank (n + 1 - s.out.screen.length) s.main)
      (fun ⟨_, h⟩ hact => (h.traced.of_act hact).imp fun _ h' => h'.progress hfstep h₀ htimer hexit)
      (fun ⟨_, h⟩ hact => h.mainRank_act hact)
      ⟨[], (traced_init opt s₀).progress hfstep h₀ htimer hexit⟩
    have hinit : mainRank (n + 1 - (init opt s₀).out.screen.length) (init opt s₀).main =
        4 * (n + 1) + 5 := rfl
    omega
  · obtain ⟨trace, htraced⟩ := follows hrun
    have hprog := htraced.progress hfstep h₀ htimer hexit
    by_cases hreturned : s.main = .returned
    · obtain ⟨hlen, hcode⟩ := hprog.last (Or.inr (Or.inr hreturned))
      obtain ⟨hexitCode, hfile⟩ := Written.reachable hrun (Or.inr (Or.inr hreturned))
      have hfollows := htraced.1
      rw [hreturned, hfstep] at hfollows
      obtain ⟨u, hloop, -⟩ := hfollows.exists_loop
      have hdecoded := hloop.decoded_trace h₀ htimer hexit
      rw [hlen, harch] at hdecoded
      refine Or.inr (Or.inr ⟨hreturned, hexitCode.trans (congrArg some hcode), ?_, ?_⟩)
      · rw [htraced.2, outputOf, hdecoded]
      · rw [hfile, htraced.2]
        simp only [outputOf]
        split_ifs <;> rfl
    · rcases (Sync.reachable hrun).exists_act hreturned hprog.noThrow with hact | hjoin
      · exact Or.inl hact
      · exact Or.inr (Or.inl hjoin)

/-! ## The log -/

end System

/-- The records of the register file in a log. -/
def gprRecords (log : List (GprChange ⊕ CsrChange)) : List GprChange := log.filterMap Sum.getLeft?

/-- The records of the CSR file in a log. -/
def csrRecords (log : List (GprChange ⊕ CsrChange)) : List CsrChange := log.filterMap Sum.getRight?

omit [Platform] in
@[simp] theorem gprRecords_append (l l' : List (GprChange ⊕ CsrChange)) :
    gprRecords (l ++ l') = gprRecords l ++ gprRecords l' := List.filterMap_append

omit [Platform] in
@[simp] theorem csrRecords_append (l l' : List (GprChange ⊕ CsrChange)) :
    csrRecords (l ++ l') = csrRecords l ++ csrRecords l' := List.filterMap_append

omit [Platform] in
@[simp] theorem gprRecords_lines (g : List GprChange) (c : List CsrChange) :
    gprRecords (g.map .inl ++ c.map .inr) = g := by
  have hgpr : Sum.getLeft? ∘ (Sum.inl : GprChange → GprChange ⊕ CsrChange) = some := rfl
  have hcsr : Sum.getLeft? ∘ (Sum.inr : CsrChange → GprChange ⊕ CsrChange) = fun _ => none := rfl
  rw [gprRecords, List.filterMap_append, List.filterMap_map, List.filterMap_map, hgpr, hcsr,
    List.filterMap_some]
  simp

omit [Platform] in
@[simp] theorem csrRecords_lines (g : List GprChange) (c : List CsrChange) :
    csrRecords (g.map .inl ++ c.map .inr) = c := by
  have hgpr : Sum.getRight? ∘ (Sum.inl : GprChange → GprChange ⊕ CsrChange) = fun _ => none := rfl
  have hcsr : Sum.getRight? ∘ (Sum.inr : CsrChange → GprChange ⊕ CsrChange) = some := rfl
  rw [csrRecords, List.filterMap_append, List.filterMap_map, List.filterMap_map, hgpr, hcsr,
    List.filterMap_some]
  simp

namespace Model

/-- The log of a run leads back from its last state to its first one. -/
structure LoggedRun (s₀ s : Model) (log : List (GprChange ⊕ CsrChange)) : Prop where
  undoGpr : undoGpr (gprRecords log) s.regf.read = s₀.regf.read
  undoCsr : s₀.opts.mtiEnabled = false → undoCsr (csrRecords log) s.csrf.read = s₀.csrf.read
  redoCsr : s₀.opts.mtiEnabled = false → redoCsr (csrRecords log) s₀.csrf.read = s.csrf.read

/-- Without `--timer`, `commit` leaves the CSRs alone. -/
theorem commit_csrf_of_not_enabled {s : Model} (h : s.opts.mtiEnabled = false) :
    s.commit.csrf = s.csrf := by
  have hno : ¬ (s.updatePc.opts.mtiEnabled = true ∧
      s.updatePc.mem.read64 s.updatePc.opts.mtimecmp < s.updatePc.mem.read64 s.updatePc.opts.mtime) :=
    fun hdue => Bool.false_ne_true (h.symm.trans hdue.1)
  rw [commit, interruptPending, if_neg hno]
  rfl

/-- One more iteration. The increments of the timer thread are not logged, and change no
register. -/
theorem LoggedRun.iterate {s₀ s s' : Model} {log : List (GprChange ⊕ CsrChange)}
    (h : LoggedRun s₀ s log) (hopts : s.opts = s₀.opts)
    (hnil : s.curState.gprStaged = [] ∧ s.curState.csrStaged = []) (m n : ℕ)
    (hstep : (tick^[m] s).step = .ok s') :
    LoggedRun s₀ (tick^[n] s').commit (log ++ logLines (tick^[m] s)) := by
  -- the ticks on both sides of the step change `mtime` only
  obtain ⟨v, hv⟩ := tick_iterate_eq m s
  obtain ⟨v', hv'⟩ := tick_iterate_eq n s'
  obtain ⟨g, c, hlog⟩ := logged_step hstep
  have hlines : logLines (tick^[m] s) = g.map .inl ++ c.map .inr := by
    rw [logLines, hstep]
    simp only [hlog.gprStaged, hlog.csrStaged]
    rw [hv]
    simp only [hnil.1, hnil.2, List.nil_append]
  have hgpr : (tick^[n] s').commit.regf = s'.regf := by rw [commit_regf, hv']
  have hcsr : s₀.opts.mtiEnabled = false → (tick^[n] s').commit.csrf = s'.csrf := fun hno => by
    have hopts' : s'.opts = s.opts := by
      rw [(Reachable.sameConfig (.step .init hstep)).1, hv]
    rw [commit_csrf_of_not_enabled, hv']
    rw [hv']
    exact (congrArg Options.mtiEnabled (hopts'.trans hopts)).trans hno
  have hundo := hlog.undoGpr
  have hundoCsr := hlog.undoCsr
  have hredo := hlog.redoCsr
  rw [hv] at hundo hundoCsr hredo
  rw [hlines]
  -- the new records are undone first, and redone last
  refine ⟨?_, fun hno => ?_, fun hno => ?_⟩
  · rw [gprRecords_append, gprRecords_lines, Riscv32Sim.undoGpr, ChangeLog.undo_append, hgpr]
    exact (congrArg _ hundo).trans h.undoGpr
  · rw [csrRecords_append, csrRecords_lines, Riscv32Sim.undoCsr, ChangeLog.undo_append, hcsr hno]
    exact (congrArg _ hundoCsr).trans (h.undoCsr hno)
  · rw [csrRecords_append, csrRecords_lines, Riscv32Sim.redoCsr, ChangeLog.replay_append, hcsr hno]
    refine Eq.trans ?_ hredo
    exact congrArg _ (h.redoCsr hno)

/-- What a run keeps for its log: nothing is staged at the head of the loop. -/
theorem Driven.loggedRun {fstep : Bool} {s₀ s : Model} {trace : List Model}
    (h₀ : s₀.curState.gprStaged = [] ∧ s₀.curState.csrStaged = [])
    (h : Driven fstep s₀ trace s) :
    LoggedRun s₀ s (trace.flatMap logLines) ∧ s.opts = s₀.opts ∧
      s.curState.gprStaged = [] ∧ s.curState.csrStaged = [] := by
  induction h with
  | start => exact ⟨⟨rfl, fun _ => rfl, fun _ => rfl⟩, rfl, h₀⟩
  | @iterate trace s s' m n h hgo hstep ih =>
    obtain ⟨hlog, hopts, hnil⟩ := ih
    refine ⟨?_, ?_, rfl, rfl⟩
    · rw [List.flatMap_append, List.flatMap_singleton]
      exact hlog.iterate hopts hnil m n hstep
    · obtain ⟨v, hv⟩ := tick_iterate_eq m s
      obtain ⟨v', hv'⟩ := tick_iterate_eq n s'
      rw [commit_opts, hv', (Reachable.sameConfig (.step .init hstep)).1, hv]
      exact hopts

end Model

namespace System

/-- **The log leads back to the initial registers.** Whenever the main thread is at the head of the
loop or has returned, the records of the register file that it has written, undone from the last
one to the first, lead from the registers back to zeros. Without `--timer` those of the CSR file do
so as well, and redone from zeros they lead to the CSRs. -/
theorem log_leads_back {opt : RunOptions} {file : ElfFile} {rest : Segment → ℕ → BitVec 8}
    {s₀ : Model} (hboot : boot rest file opt = .ok s₀) {s : System} {as : List Act}
    (h : Interleaving.Run (act opt) (init opt s₀) as s)
    (hpc : s.main = .test ∨ s.main = .returned) :
    undoGpr (gprRecords s.out.log) s.model.regf.read = (fun _ => 0) ∧
    (opt.mtiEnabled = false →
      undoCsr (csrRecords s.out.log) s.model.csrf.read = (fun _ => 0) ∧
      redoCsr (csrRecords s.out.log) (fun _ => 0) = s.model.csrf.read) := by
  obtain ⟨tohost, r, rfl⟩ := eq_init_of_boot hboot
  obtain ⟨trace, hfollows, hout⟩ := follows h
  have hlog : s.out.log = trace.flatMap logLines := by rw [hout]; rfl
  obtain ⟨u, k, hrun, hmodel⟩ := hfollows.exists_driven hpc
  obtain ⟨hlogged, -⟩ := hrun.loggedRun (staged_init ..)
  obtain ⟨v, hv⟩ := tick_iterate_eq k u
  rw [hlog, hmodel, hv]
  exact ⟨hlogged.undoGpr, fun hno => ⟨hlogged.undoCsr hno, hlogged.redoCsr hno⟩⟩

end System

/-! ## The output -/

/-- The output of an iteration does not depend on `mtime`, unless it loads a byte of it. -/
theorem Model.SameButMtime.reports {s t : Model} (h : SameButMtime s t)
    (hload : ¬ s.LoadsMtime s.decoded) :
    t.decoded = s.decoded ∧ (t.pc, t.mem.read32 t.pc) = (s.pc, s.mem.read32 s.pc) ∧
      t.logLines = s.logLines := by
  obtain ⟨v, rfl⟩ := h
  refine ⟨rfl, rfl, ?_⟩
  obtain ⟨v', hv'⟩ := step_withMtime v hload
  rw [logLines, hv', logLines]
  cases s.step with
  | ok s' => rfl
  | error e => rfl

theorem outputOf_congr (opt : RunOptions) {trace trace' : List Model}
    (h : List.Forall₂ SameButMtime trace trace')
    (hload : ∀ u ∈ trace, ¬ u.LoadsMtime u.decoded) : outputOf opt trace' = outputOf opt trace := by
  induction h with
  | nil => rfl
  | @cons s t trace trace' hhead htail ih =>
    obtain ⟨hdec, hpc, hlog⟩ := hhead.reports (hload s List.mem_cons_self)
    have ih := ih fun u hu => hload u (List.mem_cons_of_mem s hu)
    simp only [outputOf, Output.mk.injEq] at ih ⊢
    obtain ⟨hscreen, hlines, hdisas, hexport⟩ := ih
    simp only [List.map_cons, List.flatMap_cons, hdec, hpc, hlog, hscreen, hlines, true_and,
      and_true]
    split_ifs at hdisas ⊢
    · rw [hdisas]
    · rfl

namespace System

/-- **The output does not depend on the interleaving.** If, without `--step`, a run of the program
has returned, and no instruction of it loads a byte of `mtime`, then every other run with the same
options writes the output of the first iterations of this one, and where it returns, it has written
the same output, the same JSON file and the same exit code. -/
theorem output_unique {opt : RunOptions} (hfstep : opt.fstep = false) {s₀ : Model} {s t : System}
    {as bs : List Act} {trace : List Model} (hs : Interleaving.Run (act opt) (init opt s₀) as s)
    (hreturned : s.main = .returned) (htraced : Traced opt s₀ s trace)
    (hload : ∀ u ∈ trace, ¬ u.LoadsMtime u.decoded)
    (ht : Interleaving.Run (act opt) (init opt s₀) bs t) :
    (∃ k, t.out = outputOf opt (trace.take k)) ∧
    (t.main = .returned →
      t.out = s.out ∧ t.stateFile = s.stateFile ∧ t.exitCode = s.exitCode) := by
  obtain ⟨trace', hfollows', hout'⟩ := follows ht
  obtain ⟨hfollows, hout⟩ := htraced
  rw [hfstep] at hfollows hfollows'
  obtain ⟨u, hloop, hu⟩ := hfollows.exists_loop
  obtain ⟨u', hloop', hu'⟩ := hfollows'.exists_loop
  obtain ⟨hdone, hus⟩ := hu hreturned
  obtain ⟨htake, hlast⟩ := hloop.sameButMtime_take hload hdone hloop'
  have hout'' : t.out = outputOf opt (trace.take trace'.length) :=
    hout'.trans (outputOf_congr opt htake fun x hx => hload x (List.mem_of_mem_take hx))
  refine ⟨⟨_, hout''⟩, fun hreturned' => ?_⟩
  obtain ⟨hdone', hus'⟩ := hu' hreturned'
  obtain ⟨hlen, huu'⟩ := hlast hdone'
  have heq : t.out = s.out := by rw [hout'', hlen, List.take_length, hout]
  obtain ⟨hcode, hfile⟩ := Written.reachable hs (Or.inr (Or.inr hreturned))
  obtain ⟨hcode', hfile'⟩ := Written.reachable ht (Or.inr (Or.inr hreturned'))
  have htohost : t.model.tohost = s.model.tohost := by
    obtain ⟨v, hv⟩ := hus.symm.trans (huu'.trans hus')
    rw [hv]
    rfl
  exact ⟨heq, by rw [hfile', hfile, heq], by rw [hcode', hcode, htohost]⟩

end System

end Main

/-! ## A program of two instructions -/

open Model

/-- A file with the program `addi x1, x0, 5`, `sw x1, 0x100(x0)` at the end of a page. -/
def tohostFile : ElfFile where
  loads := true
  elfClass := elfClass32
  machine := emRiscv
  segments := [⟨ptLoad, 0xFF8, [0x93, 0x00, 0x50, 0x00, 0x23, 0x20, 0x10, 0x10]⟩]
  sections := [⟨shtProgbits, 4, 0xFF8, 8⟩]
  entry := 0xFF8
  getSymbol str := if str = "tohost" then some 0x100 else none

/-- `sw x1, 0x100(x0)`. -/
def swOne : Op := { storeTo 0x100 with rs2 := 1 }

/-- The decoder of the two instructions. -/
@[reducible] def twoInstructions : Platform :=
  Platform.ofTable [(0x00500093, addi), (0x10102023, swOne)]

/-- Timer interrupts, and a JSON file. -/
def timerOptions : RunOptions where
  mtime := 0x200
  mtimecmp := 0x208
  mtiEnabled := true
  jsonOutput := "out.json"

/-- The segment ends with its page. -/
theorem spillsRewritten_tohostFile : SpillsRewritten (loadable tohostFile.segments) := by
  have hfit : ∀ s ∈ loadable tohostFile.segments, s.Fits := by decide
  exact (forall_perm_spillsRewritten_iff hfit).mpr (by decide) _ (.refl _)

/-- The machine with this program fetches an addition and then a store, which exits with 5. -/
theorem exits_tohostFile :
    let _ : Platform := twoInstructions
    Rv32im.Exits (tohostFile.config timerOptions 0x100) tohostFile.start 1 5 := by
  intro _
  have hadd : Rv32im.fetch tohostFile.start = addi := by decide
  have hstore : Rv32im.fetch (Rv32im.next^[1] tohostFile.start) = swOne := by decide
  have haddr : Rv32im.accessAddr (Rv32im.next^[1] tohostFile.start) = 0x100 := by decide
  refine ⟨fun k hk => ?_, fun k hk => ?_, Or.inl ?_, by decide⟩
  · obtain rfl : k = 0 := by omega
    refine ⟨by decide, hadd ▸ .alu .add rfl rfl rfl, Or.inl (congrArg Op.tgt hadd), ?_, ?_⟩
    · rintro f hopt hf
      obtain rfl := OpType.alu.inj (hopt.symm.trans (congrArg Op.opt hadd))
      exact absurd hf (by decide)
    · intro w hw
      exact absurd (hw.symm.trans (congrArg (dataWidth ·.opt) hadd)) (by simp [addi, dataWidth])
  · obtain rfl : k = 0 := by omega
    decide
  · refine ⟨by decide, hstore ▸ .store .sw rfl rfl rfl, ?_, ?_, ?_⟩
    · exact Or.inr (Or.inr (Or.inl (congrArg Op.tgt hstore)))
    · intro f hopt hf
      exact absurd (hopt.symm.trans (congrArg Op.opt hstore)) (by simp [swOne, storeTo])
    · intro w hw
      obtain rfl : w = .word :=
        Option.some.inj (hw.symm.trans (congrArg (dataWidth ·.opt) hstore))
      rw [haddr]
      decide

namespace System

/-- The file is run to the exit of its program. -/
theorem main_exits_tohostFile :
    let _ : Platform := twoInstructions
    ∃ s₀, boot (fun _ _ => 0) tohostFile timerOptions = .ok s₀ ∧
      ∀ as s, Interleaving.Run (act timerOptions) (init timerOptions s₀) as s →
        as.countP Act.isMain ≤ 13 ∧
        (s.main = .returned → s.exitCode = some 5 ∧ s.out.screen = [addi, swOne]) := by
  intro _
  obtain ⟨s₀, hboot, hrun⟩ := @main_exits _ timerOptions tohostFile rfl
    (List.pairwise_singleton _ _) (by decide) spillsRewritten_tohostFile 0x100 rfl rfl 1 5
    exits_tohostFile fun _ _ => 0
  refine ⟨s₀, hboot, fun as s h => ⟨(hrun as s h).1, fun hreturned => ?_⟩⟩
  rcases (hrun as s h).2 with hact | ⟨hjoin, -⟩ | ⟨-, hcode, hscreen, -⟩
  · obtain ⟨s', hs'⟩ := hact 0
    exact absurd hs' (by simp [act, mainStep, hreturned])
  · exact absurd (hreturned.symm.trans hjoin) (by decide)
  · exact ⟨hcode, hscreen.trans (by decide)⟩

/-- An iteration of the main thread on its own. -/
theorem run_iteration [Platform] {opt : RunOptions} {s : System} {s' : Model}
    (htest : s.main = .test) (hundone : s.model.isDone = false) (hstep : s.model.step = .ok s') :
    Interleaving.Run (act opt) s [.main 0, .main 0, .main 0, .main 0]
      { s with model := s'.commit, out := s.out.report opt s', main := .test } := by
  have hgo : act opt s (.main 0) = some { s with main := .step } := by
    simp [act, mainStep, htest, hundone]
  have hcall : act opt { s with main := .step } (.main 0) =
      some { s with model := s', main := .print } := by
    simp [act, mainStep, hstep]
  exact .cons hgo (.cons hcall (.cons rfl (.cons rfl (.nil _))))

/-- A run of the program of one store: the main thread sets `is_exiting`, the timer thread sees it
before it has made an increment, and `main` returns. -/
theorem exists_run_storeTo :
    let _ : Platform := Platform.always (storeTo 0x100)
    ∀ s₀ : Model, s₀.isDone = false → s₀.tohostAddr = 0x100 →
      ∃ as s bs t, Interleaving.Run (act timerOptions) (init timerOptions s₀) as s ∧
        s.isExiting = true ∧ Interleaving.Run (act timerOptions) s bs t ∧ t.main = .returned := by
  intro _ s₀ hundone htohost
  have hdec : s₀.decoded = storeTo 0x100 := decoded_always _ _
  obtain ⟨s', hstep⟩ := exists_step (s := s₀) (hdec.symm ▸ wellFormed_storeTo 0x100)
  have hdone : s'.isDone = true := by
    rw [isDone_step_of_store hstep (congrArg Op.tgt hdec), accessAddr, hdec, htohost]
    change s₀.regf.read 0 + 0x100 = (0x100 : BitVec 32)
    rw [RegFile.read_zero]
    rfl
  let s₁ : System :=
    { init timerOptions s₀ with
      model := s'.commit, out := (init timerOptions s₀).out.report timerOptions s' }
  have hrun : Interleaving.Run (act timerOptions) (init timerOptions s₀) _ s₁ :=
    run_iteration rfl hundone hstep
  have htest : act timerOptions s₁ (.main 0) = some { s₁ with main := .exit } := by
    simp [act, mainStep, init, s₁, hdone, timerOptions]
  let s₂ : System :=
    { s₁ with
      stateFile := some s₁.out.stateExport, exitCode := some s'.commit.tohost, main := .store }
  have hexit : act timerOptions { s₁ with main := .exit } (.main 0) = some s₂ := rfl
  let s₃ : System := { s₂ with isExiting := true, main := .notify }
  -- the flag is set, then the timer thread finishes, then the main thread joins it
  have hlast : Interleaving.Run (act timerOptions) s₁ [.main 0, .main 0, .main 0] s₃ :=
    .cons htest (.cons hexit (.cons rfl (.nil s₃)))
  refine ⟨_, s₃, [.timer false, .main 0, .main 0],
    { s₃ with runner := .finished, main := .returned }, hrun.append hlast, rfl, ?_, rfl⟩
  have hjoin : act timerOptions { s₃ with runner := .finished } (.main 0) =
      some { s₃ with runner := .finished, main := .join } := rfl
  exact .cons rfl (.cons hjoin (.cons rfl (.nil _)))

/-- The program of one store shuts down. -/
theorem shutdown_storeTo :
    let _ : Platform := Platform.always (storeTo 0x100)
    ∃ as s bs t, Interleaving.Run (act timerOptions)
        (init timerOptions (single (storeTo 0x100))) as s ∧
      Interleaving.Run (act timerOptions) s bs t ∧ bs.length ≤ 8 ∧ t.runner = .finished := by
  intro _
  obtain ⟨as, s, bs, t, h, hset, h', hreturned⟩ := exists_run_storeTo (single _) rfl rfl
  obtain ⟨hlen, -, -, hfin⟩ := shutdown h hset h'
  exact ⟨as, s, bs, t, h, h', hlen, hfin hreturned⟩

/-- Its output does not depend on the interleaving. -/
theorem output_unique_storeTo :
    let _ : Platform := Platform.always (storeTo 0x100)
    ∃ as s, Interleaving.Run (act timerOptions)
        (init timerOptions (single (storeTo 0x100))) as s ∧
      ∀ bs t, Interleaving.Run (act timerOptions)
        (init timerOptions (single (storeTo 0x100))) bs t →
        t.main = .returned → t.out = s.out ∧ t.exitCode = s.exitCode := by
  intro _
  obtain ⟨as, s, bs, t, h, -, h', hreturned⟩ := exists_run_storeTo (single _) rfl rfl
  obtain ⟨trace, htraced⟩ := follows (h.append h')
  have hload : ∀ u ∈ trace, ¬ u.LoadsMtime u.decoded := by
    rintro u - ⟨htgt, -⟩
    rw [decoded_always] at htgt
    exact absurd htgt (by decide)
  refine ⟨_, t, h.append h', fun bs' t' ht' hreturned' => ?_⟩
  obtain ⟨hout, -, hcode⟩ :=
    (output_unique rfl (h.append h') hreturned htraced hload ht').2 hreturned'
  exact ⟨hout, hcode⟩

/-- `csrrwi x1, 0x340, 5`. -/
def swapScratch : Op :=
  { imm := 0x340, opt := .sys .csrrwi, tgt := .csr, rd := 1, rs1 := 5, rs2 := 0, hasImm := true,
    usePc := false, isCompressed := false }

theorem step_swapScratch {s : Model} (hvalid : s.isValidPc) (hmode : s.mode.m = .machine) :
    let _ : Platform := Platform.always swapScratch
    s.step = .ok ((s.fetched.writeCsr 0x340 5).writeGpr 1 (s.csrf.read 0x340)) := by
  intro _
  have hdec : s.fetched.dec = swapScratch := decoded_always swapScratch s
  have hno : ¬ s.fetched.CsrDenied .csrrwi := by
    rw [CsrDenied, hdec, fetched_mode, mode_eq_of_machine hmode]
    decide
  have hold : s.fetched.csrOld .csrrwi = s.csrf.read 0x340 := by
    rw [csrOld, hdec]
    rfl
  have hnew : s.fetched.csrNew .csrrwi = 5 := by
    rw [csrNew, hdec]
    rfl
  have hexec := @exec_csr _ s.fetched .csrrwi (by rw [hdec]; rfl) (by rw [hdec]; rfl)
    (by rw [hdec]; decide)
  rw [step_of_isValidPc hvalid, hexec, if_neg hno, hold, hnew, hdec]
  rfl

/-- Without `--timer`. -/
def plainOptions : RunOptions := { timerOptions with mtiEnabled := false }

/-- After two writes of 5 to `mscratch`, the log undoes that of the old value to x1, and those of
the CSR. -/
theorem log_leads_back_swapScratch :
    let _ : Platform := Platform.always swapScratch
    ∃ s₀ as s, boot (fun _ _ => 0) tohostFile plainOptions = .ok s₀ ∧
      Interleaving.Run (act plainOptions) (init plainOptions s₀) as s ∧
      s.out.log = [.inl ⟨1, 0, 0⟩, .inr ⟨0x340, 0, 5⟩, .inl ⟨1, 0, 5⟩, .inr ⟨0x340, 5, 5⟩] ∧
      s.model.regf.read 1 = 5 ∧ s.model.csrf.read 0x340 = 5 ∧
      undoGpr (gprRecords s.out.log) s.model.regf.read = (fun _ => 0) ∧
      undoCsr (csrRecords s.out.log) s.model.csrf.read = fun _ => 0 := by
  intro _
  obtain ⟨s₀, hboot, -⟩ := @exists_boot _ plainOptions tohostFile rfl
    (List.pairwise_singleton _ _) (by decide) spillsRewritten_tohostFile 0x100 rfl fun _ _ => 0
  obtain ⟨tohost, r, rfl⟩ := eq_init_of_boot hboot
  let s₀ : Model := .init plainOptions.toOptions tohostFile.entry
    (Loader.progbitRanges tohostFile.sections) tohost r
  let s₁ : Model := (s₀.fetched.writeCsr 0x340 5).writeGpr 1 (s₀.csrf.read 0x340)
  let s₂ : Model :=
    (s₁.commit.fetched.writeCsr 0x340 5).writeGpr 1 (s₁.commit.csrf.read 0x340)
  have hstep : s₀.step = .ok s₁ := step_swapScratch rfl rfl
  have hmti : s₁.opts.mtiEnabled = false := rfl
  have hnext : s₁.pcNext = 0xFFC := by
    change s₀.pc + s₀.decoded.length = 0xFFC
    rw [decoded_always]
    rfl
  have hvalid : s₁.commit.isValidPc := by
    rw [isValidPc, pc_commit_of_not_takesTimer (not_takesTimer_of_mtiEnabled hmti), hnext,
      commit_allowedPcs]
    rfl
  have hstep' : s₁.commit.step = .ok s₂ :=
    step_swapScratch hvalid (congrArg PrivilegedMode.m s₁.commit_mode)
  let t₁ : System :=
    { init plainOptions s₀ with
      model := s₁.commit, out := (init plainOptions s₀).out.report plainOptions s₁, main := .test }
  have hrun : Interleaving.Run (act plainOptions) (init plainOptions s₀) _ t₁ :=
    run_iteration rfl rfl hstep
  have hrun' : Interleaving.Run (act plainOptions) t₁ _
      { t₁ with model := s₂.commit, out := t₁.out.report plainOptions s₂, main := .test } :=
    run_iteration rfl rfl hstep'
  obtain ⟨hgpr, hcsr⟩ := log_leads_back hboot (hrun.append hrun') (Or.inl rfl)
  exact ⟨_, _, _, hboot, hrun.append hrun', rfl, rfl, rfl, hgpr, (hcsr rfl).1⟩

end System

end Riscv32Sim
