import Riscv32Sim.Iss.Schedule
import Riscv32Sim.Memory.Window

/-!
# Whole runs refine the RV32IM machine

The reference semantics of one instruction gives a machine: fetch at the pc, execute, repeat. A
run of the main loop goes through the states of this machine, however the timer thread is
interleaved with it, as long as the program stays inside the part of the instruction set that the
simulator executes faithfully. What that part is, is said of the states of the machine, so it is a
property of the program. Where the machine exits, the loop stops, with its exit code.

## Main definitions

* `Rv32im.fetch`, `Rv32im.next`, `Rv32im.exitCode`: the machine
* `Rv32im.Config`: what the simulator has been told about the program
* `Rv32im.Faithful`: the states whose instruction the simulator executes as the machine does
* `Rv32im.Exits`: the program exits after so many steps, with this code

## Main results

* `Model.Loop.refines`: a run of the main loop goes through the states of the machine
* `Model.Loop.exits`: the main loop stops where the machine exits, with its exit code
-/

namespace Riscv32Sim

open LittleEndian

section Machine

variable [Platform]

namespace Rv32im

/-- The instruction at the pc. -/
def fetch (σ : State) : Op :=
  let x := load σ.mem σ.pc 4
  if x &&& 0b11 ≠ 0b11 then decode16 x else decode x

/-- One step of the machine. -/
def next (σ : State) : State := exec (fetch σ) σ

/-- The address that a load or a store accesses. -/
def accessAddr (σ : State) : BitVec 32 := σ.x (fetch σ).rs1 + (fetch σ).imm

/-- The second operand of an operation. -/
def operand (σ : State) : BitVec 32 :=
  if (fetch σ).hasImm then (fetch σ).imm else σ.x (fetch σ).rs2

/-- The exit code, if the instruction ends the program: the exit call leaves its argument, a store
to `tohost` the word that is there afterwards. -/
def exitCode (tohost : BitVec 32) (σ : State) : Option (BitVec 32) :=
  match (fetch σ).tgt with
  | .ecall => if σ.x 17 = 93 then some (σ.x 10) else none
  | .store => if accessAddr σ = tohost then some (load (next σ).mem tohost 4) else none
  | _ => none

omit [Platform] in
/-- What the simulator has been told about the program: its executable ranges, the address of
`tohost` and the timer windows. -/
structure Config where
  ranges : List (BitVec 64 × BitVec 64)
  tohost : BitVec 32
  mtimeAddr : BitVec 32
  mtimecmpAddr : BitVec 32

/-- The simulator executes the instruction as the machine does: it is an integer instruction in an
executable range, its shift count is below 32 and its data are outside the timer windows. -/
structure Faithful (c : Config) (σ : State) : Prop where
  executable : Model.isAddressInitialized c.ranges (σ.pc.setWidth 64) = true
  wellFormed : (fetch σ).WellFormed
  integer : (fetch σ).tgt = .alu ∨ (fetch σ).tgt = .load ∨ (fetch σ).tgt = .store ∨
    (fetch σ).tgt = .branch
  shift : ∀ f, (fetch σ).opt = .alu f → f.isShift → (operand σ).toNat < 32
  data : ∀ w, Model.dataWidth (fetch σ).opt = some w → ∀ i < w.bytes,
    ¬ (InWindow c.mtimeAddr (accessAddr σ + BitVec.ofNat 32 i) ∨
      InWindow c.mtimecmpAddr (accessAddr σ + BitVec.ofNat 32 i))

/-- The program exits in its step `n`, counted from 0, with the exit code `code`. -/
structure Exits (c : Config) (σ : State) (n : ℕ) (code : BitVec 32) : Prop where
  faithful : ∀ k < n, Faithful c (next^[k] σ)
  running : ∀ k < n, exitCode c.tohost (next^[k] σ) = none
  last : Faithful c (next^[n] σ) ∨ (fetch (next^[n] σ)).tgt = .ecall
  exit : exitCode c.tohost (next^[n] σ) = some code

end Rv32im

namespace Model

/-- The architectural state, with the memory of the page map. -/
def archPage (s : Model) : Rv32im.State := arch (fun r => r.page.read8) s

/-- The configuration of the simulator. -/
def config (s : Model) : Rv32im.Config :=
  ⟨s.allowedPcs, s.tohostAddr, s.mem.mtimeAddr, s.mem.mtimecmpAddr⟩

/-! ## One iteration -/

theorem decoded_eq_fetch (s : Model) : s.decoded = Rv32im.fetch s.archPage := by
  have hword : s.mem.read32 s.pc = LittleEndian.load s.archPage.mem s.archPage.pc 4 :=
    s.mem.page.read32_eq_load s.pc
  rw [decoded, hword]
  rfl

theorem accessAddr_eq (s : Model) : s.accessAddr = Rv32im.accessAddr s.archPage := by
  rw [accessAddr, decoded_eq_fetch]
  rfl

/-- `mtime` belongs neither to the state of the machine nor to the configuration. -/
theorem SameButMtime.archPage_eq {s t : Model} (h : SameButMtime s t) :
    t.archPage = s.archPage ∧ t.config = s.config ∧ (t.TimerDisabled ↔ s.TimerDisabled) := by
  obtain ⟨v, rfl⟩ := h
  exact ⟨rfl, rfl, Iff.rfl⟩

omit [Platform] in
/-- No integer instruction is a `csr` instruction or an `mret`. -/
theorem not_csr_of_integer {op : Op}
    (h : op.tgt = .alu ∨ op.tgt = .load ∨ op.tgt = .store ∨ op.tgt = .branch) :
    op.tgt ≠ .csr ∧ op.tgt ≠ .mret := by
  rcases h with h | h | h | h <;> exact ⟨by simp [h], by simp [h]⟩

/-- An integer instruction leaves the status and the enable bits alone. -/
theorem read_step_of_isInteger {s s' : Model} (hint : s.IsInteger) (hstep : s.step = .ok s')
    {c : Csr} (hc : c = .mstatus ∨ c = .mie) :
    s'.csrf.read c.toInt = s.csrf.read c.toInt := by
  obtain ⟨hcsr, hmret⟩ := not_csr_of_integer hint
  have hlow : ∀ d ∈ [Csr.ucause, .utval, .uepc], c.toInt &&& 0xFF ≠ d.toInt &&& 0xFF := by
    rcases hc with rfl | rfl <;> decide
  by_contra hne
  rcases (step_frame hstep).csr _ hne with h | h | h | ⟨h, -⟩ | ⟨h, -⟩
  · exact s.mode.ne_privCsr (hlow .ucause (by simp)) h
  · exact s.mode.ne_privCsr (hlow .utval (by simp)) h
  · exact s.mode.ne_privCsr (hlow .uepc (by simp)) h
  · exact hcsr h
  · exact hmret h

/-- An integer instruction leaves timer interrupts disabled. -/
theorem TimerDisabled.commit_step {s s' : Model} (h : s.TimerDisabled) (hint : s.IsInteger)
    (hstep : s.step = .ok s') : s'.commit.TimerDisabled := by
  have hopts : s'.opts = s.opts := (Reachable.sameConfig (.step .init hstep)).1
  have hs' : s'.TimerDisabled := by
    unfold TimerDisabled
    rw [hopts, read_step_of_isInteger hint hstep (Or.inr rfl),
      read_step_of_isInteger hint hstep (Or.inl rfl)]
    exact h
  unfold TimerDisabled
  rw [commit_opts, read_commit_of_not_takesTimer hs'.not_takesTimer (by decide),
    read_commit_of_not_takesTimer hs'.not_takesTimer (by decide)]
  exact hs'

/-- A write does not move the windows. -/
theorem writeAs_addrs (r : AddressRouter) (a : BitVec 32) (w : Width) (v : BitVec (8 * w.bytes)) :
    (r.writeAs a w v).mtimeAddr = r.mtimeAddr ∧ (r.writeAs a w v).mtimecmpAddr = r.mtimecmpAddr := by
  rcases eq_or_ne w .byte with rfl | hw
  · exact r.write8_addrs a v
  · rw [r.writeAs_of_ne_byte a hw]
    exact ⟨rfl, rfl⟩

/-- The configuration is the same after an iteration. -/
theorem config_commit_step {s s' : Model} (hstep : s.step = .ok s') :
    s'.commit.config = s.config := by
  obtain ⟨-, htohost, hpcs⟩ := Reachable.sameConfig (.step .init hstep)
  have haddrs : s'.mem.mtimeAddr = s.mem.mtimeAddr ∧ s'.mem.mtimecmpAddr = s.mem.mtimecmpAddr := by
    rw [← s.entered_mem]
    cases effect_of_step hstep with
    | store w mem htgt hmem hopt =>
      obtain rfl := eq_writeAs_of_storeMem hmem
      exact writeAs_addrs ..
    | trap cause h hecall =>
      rw [enterTrap_mem, trapMem]
      split_ifs <;> exact ⟨rfl, rfl⟩
    | gpr | jump | branch | skip | csr | mret => exact ⟨rfl, rfl⟩
  simp only [config, commit_allowedPcs, commit_tohostAddr, commit_mem, htohost, hpcs, haddrs]

/-- **One iteration is one step of the machine.** -/
theorem archPage_commit_step {s : Model} (hfaith : Rv32im.Faithful s.config s.archPage)
    (htimer : s.TimerDisabled) :
    ∃ s', s.step = .ok s' ∧ s'.commit.archPage = Rv32im.next s.archPage ∧
      s'.commit.TimerDisabled ∧ s'.commit.config = s.config := by
  have hdec := s.decoded_eq_fetch
  have hint : s.IsInteger := by
    unfold IsInteger
    rw [hdec]
    exact hfaith.integer
  have hshift : s.ShiftInRange := by
    intro f hf hs
    rw [hdec] at hf
    have hlt := hfaith.shift f hf hs
    rwa [Rv32im.operand, ← hdec] at hlt
  have hsees : ∀ w, dataWidth s.decoded.opt = some w →
      View.Sees (fun r => r.page.read8) s.mem (s.regf.read s.decoded.rs1 + s.decoded.imm) w := by
    intro w hw
    refine sees_page fun i hi => ?_
    have hdata := hfaith.data w (hdec ▸ hw) i hi
    rw [Rv32im.accessAddr, ← hdec] at hdata
    exact hdata
  obtain ⟨s', hstep, harch⟩ := arch_commit_step hfaith.executable (hdec ▸ hfaith.wellFormed) hint
    hshift htimer hsees
  refine ⟨s', hstep, ?_, htimer.commit_step hint hstep, config_commit_step hstep⟩
  rw [Rv32im.next, ← hdec]
  exact harch

/-! ## Whole runs -/

/-- The state reached after `n` iterations is the state of the machine after `n` steps. -/
structure At (s₀ : Model) (n : ℕ) (s : Model) : Prop where
  arch : s.archPage = Rv32im.next^[n] s₀.archPage
  timer : s.TimerDisabled
  config : s.config = s₀.config

theorem At.congr {s₀ s t : Model} {n : ℕ} (h : At s₀ n s) (hst : SameButMtime s t) : At s₀ n t := by
  obtain ⟨harch, hconfig, htimer⟩ := hst.archPage_eq
  exact ⟨harch.trans h.arch, htimer.mpr h.timer, hconfig.trans h.config⟩

/-- One more iteration. -/
theorem At.iterate {s₀ s : Model} {k : ℕ} (h : At s₀ k s)
    (hfaith : Rv32im.Faithful s₀.config (Rv32im.next^[k] s₀.archPage)) (m n : ℕ) :
    ∃ s', (tick^[m] s).step = .ok s' ∧ At s₀ (k + 1) (tick^[n] s').commit := by
  have hcur := h.congr (sameButMtime_tick_iterate m s)
  obtain ⟨s', hstep, harch, htimer, hconfig⟩ :=
    archPage_commit_step (by rwa [hcur.arch, hcur.config]) hcur.timer
  refine ⟨s', hstep, At.congr ⟨?_, htimer, hconfig.trans hcur.config⟩
    (sameButMtime_tick_iterate n s').commit⟩
  rw [harch, hcur.arch, Function.iterate_succ_apply']

/-- **A run of the main loop goes through the states of the machine**, however the timer thread is
interleaved with it. -/
theorem Loop.refines {s₀ s : Model} {trace : List Model} (h : Loop s₀ trace s)
    (htimer : s₀.TimerDisabled)
    (hfaith : ∀ k < trace.length, Rv32im.Faithful s₀.config (Rv32im.next^[k] s₀.archPage)) :
    At s₀ trace.length s := by
  induction h with
  | start => exact ⟨rfl, htimer, rfl⟩
  | @iterate trace s s' m n h hdone hstep ih =>
    rw [List.length_append, List.length_singleton] at hfaith ⊢
    have hs := ih fun k hk => hfaith k (by omega)
    obtain ⟨s'', hstep', hs''⟩ := hs.iterate (hfaith trace.length (by omega)) m n
    obtain rfl := Except.ok.inj (hstep.symm.trans hstep')
    exact hs''

/-! ## The exit -/

/-- The instructions that halt the simulator are those that end the program. -/
theorem halts_iff_exitCode (s : Model) :
    s.Halts ↔ ∃ code, Rv32im.exitCode s.tohostAddr s.archPage = some code := by
  have hx : ∀ i, s.archPage.x i = s.regf.read i := fun i => rfl
  simp only [Halts, Rv32im.exitCode, accessAddr_eq, decoded_eq_fetch, hx]
  cases (Rv32im.fetch s.archPage).tgt with
  | store => by_cases h : Rv32im.accessAddr s.archPage = s.tohostAddr <;> simp [h]
  | ecall => by_cases h : s.regf.read 17#5 = 93#32 <;> simp [h]
  | load | alu | branch | csr | mret | illegal | ebreak => simp

/-- The exit code that the simulator reports is that of the machine. -/
theorem tohost_commit_step {s s' : Model} (hstep : s.step = .ok s') {code : BitVec 32}
    (hexit : Rv32im.exitCode s.tohostAddr s.archPage = some code)
    (harch : s.decoded.tgt = .store → s'.commit.archPage = Rv32im.next s.archPage) :
    s'.commit.tohost = code := by
  unfold Rv32im.exitCode at hexit
  cases htgt : (Rv32im.fetch s.archPage).tgt with
  | ecall =>
    simp only [htgt] at hexit
    split_ifs at hexit with h93
    rw [← Option.some.inj hexit, commit_tohost]
    exact tohost_step_of_ecall hstep (by rwa [decoded_eq_fetch]) h93
  | store =>
    simp only [htgt] at hexit
    split_ifs at hexit with haddr
    have hmem := harch (by rwa [decoded_eq_fetch])
    have htohost : s'.tohostAddr = s.tohostAddr := (Reachable.sameConfig (.step .init hstep)).2.1
    rw [← Option.some.inj hexit, ← hmem, tohost, commit_tohostAddr, htohost]
    exact SparseMemory.read32_eq_load ..
  | load | alu | branch | csr | mret | illegal | ebreak => simp [htgt] at hexit

/-- Where a run of a program that exits can be: in a state of the machine before the exit, or
after it with the exit code. -/
theorem Loop.at_or_exited {s₀ s : Model} {trace : List Model} (h : Loop s₀ trace s)
    (h₀ : s₀.isDone = false) (htimer : s₀.TimerDisabled) {n : ℕ} {code : BitVec 32}
    (hexit : Rv32im.Exits s₀.config s₀.archPage n code) :
    (trace.length ≤ n ∧ At s₀ trace.length s ∧ s.isDone = false) ∨
      (trace.length = n + 1 ∧ s.isDone = true ∧ s.tohost = code) := by
  induction h with
  | start => exact Or.inl ⟨Nat.zero_le n, ⟨rfl, htimer, rfl⟩, h₀⟩
  | @iterate trace s s' m n' h hdone hstep ih =>
    rw [List.length_append, List.length_singleton]
    rcases ih with ⟨hle, hat, -⟩ | ⟨-, hset, -⟩
    · have hcur := hat.congr (sameButMtime_tick_iterate m s)
      have hhalts := (tick^[m] s).halts_iff_exitCode
      have htohost : (tick^[m] s).tohostAddr = s₀.config.tohost :=
        congrArg Rv32im.Config.tohost hcur.config
      rw [hcur.arch, htohost] at hhalts
      have hflag : (tick^[n'] s').commit.isDone = true ↔ (tick^[m] s).Halts := by
        rw [commit_isDone, tick_iterate_isDone, isDone_step_iff hstep, tick_iterate_isDone, hdone]
        simp
      rcases Nat.lt_or_eq_of_le hle with hlt | heq
      · -- the program goes on
        obtain ⟨s'', hstep', hnext⟩ := hat.iterate (hexit.faithful _ hlt) m n'
        obtain rfl := Except.ok.inj (hstep.symm.trans hstep')
        refine Or.inl ⟨hlt, hnext, ?_⟩
        rw [← Bool.not_eq_true, hflag, hhalts, hexit.running _ hlt]
        simp
      · -- the last instruction
        have hlast := hexit.exit
        rw [← heq] at hlast
        refine Or.inr ⟨by omega, hflag.mpr (hhalts.mpr ⟨code, hlast⟩), ?_⟩
        have hcommit := (sameButMtime_tick_iterate n' s').commit
        have htohost' : (tick^[n'] s').commit.tohost = s'.commit.tohost := by
          obtain ⟨v, hv⟩ := hcommit
          rw [hv]
          rfl
        rw [htohost']
        refine tohost_commit_step hstep (by rwa [hcur.arch, htohost]) fun hstore => ?_
        have hfaith : Rv32im.Faithful s₀.config (Rv32im.next^[n] s₀.archPage) := by
          refine hexit.last.resolve_right fun hecall => ?_
          rw [decoded_eq_fetch, hcur.arch, heq, hecall] at hstore
          exact absurd hstore (by decide)
        rw [← heq] at hfaith
        obtain ⟨s'', hstep', hnext⟩ := hat.iterate hfaith m 0
        obtain rfl := Except.ok.inj (hstep.symm.trans hstep')
        rw [hcur.arch, ← Function.iterate_succ_apply' Rv32im.next]
        exact hnext.arch
    · exact absurd (hdone.symm.trans hset) Bool.false_ne_true

/-- The instructions of the run are those that the machine fetches. -/
theorem Loop.decoded_trace {s₀ s : Model} {trace : List Model} (h : Loop s₀ trace s)
    (h₀ : s₀.isDone = false) (htimer : s₀.TimerDisabled) {n : ℕ} {code : BitVec 32}
    (hexit : Rv32im.Exits s₀.config s₀.archPage n code) :
    trace.map decoded =
      (List.range trace.length).map fun k => Rv32im.fetch (Rv32im.next^[k] s₀.archPage) := by
  induction h with
  | start => rfl
  | @iterate trace s s' m n' h hdone hstep ih =>
    rcases h.at_or_exited h₀ htimer hexit with ⟨-, hat, -⟩ | ⟨-, hset, -⟩
    · have hcur := hat.congr (sameButMtime_tick_iterate m s)
      rw [List.map_append, ih, List.length_append, List.length_singleton, List.range_succ,
        List.map_append, List.map_singleton, List.map_singleton, decoded_eq_fetch, hcur.arch]
    · exact absurd (hdone.symm.trans hset) Bool.false_ne_true

/-- **The main loop stops where the program exits.** For every program that the simulator executes
faithfully and that exits in its step `n`, and for every interleaving with the timer thread: the
loop never gets stuck, it stops after iteration `n + 1` and not before, and the exit code that
`main` reports is that of the program. -/
theorem Loop.exits {s₀ s : Model} {trace : List Model} (h : Loop s₀ trace s)
    (h₀ : s₀.isDone = false) (htimer : s₀.TimerDisabled) {n : ℕ} {code : BitVec 32}
    (hexit : Rv32im.Exits s₀.config s₀.archPage n code) :
    trace.length ≤ n + 1 ∧ (s.isDone = true ↔ trace.length = n + 1) ∧
    (s.isDone = false → ∀ m, ∃ s', (tick^[m] s).step = .ok s') ∧
    (s.isDone = true → ∀ m, (tick^[m] s).tohost = code) := by
  rcases h.at_or_exited h₀ htimer hexit with ⟨hle, hat, hdone⟩ | ⟨hlen, hdone, hcode⟩
  · refine ⟨by omega, ?_, fun _ m => ?_, fun hset => ?_⟩
    · simp only [hdone, Bool.false_eq_true, false_iff]
      omega
    · have hcur := hat.congr (sameButMtime_tick_iterate m s)
      have hdec : (tick^[m] s).decoded = Rv32im.fetch (Rv32im.next^[trace.length] s₀.archPage) := by
        rw [decoded_eq_fetch, hcur.arch]
      rcases Nat.lt_or_eq_of_le hle with hlt | heq
      · exact exists_step (hdec ▸ (hexit.faithful _ hlt).wellFormed)
      · rcases heq ▸ hexit.last with hfaith | hecall
        · exact exists_step (hdec ▸ hfaith.wellFormed)
        · exact ⟨_, step_of_ecall (hdec ▸ hecall)⟩
    · exact absurd (hdone.symm.trans hset) Bool.false_ne_true
  · refine ⟨by omega, by simp [hdone, hlen], fun hundone => ?_, fun _ m => ?_⟩
    · exact absurd (hundone.symm.trans hdone) Bool.false_ne_true
    · rw [tick_iterate_tohost, hcode]

end Model

end Machine

namespace Model

/-- The machine that runs the program of one store to `tohost`. -/
private theorem fetch_storeTo :
    let _ : Platform := Platform.always (storeTo 0x100)
    Rv32im.fetch (single (storeTo 0x100)).archPage = storeTo 0x100 := by
  intro _
  exact ite_self _

private theorem accessAddr_storeTo :
    let _ : Platform := Platform.always (storeTo 0x100)
    Rv32im.accessAddr (single (storeTo 0x100)).archPage = 0x100 := by
  intro _
  rw [Rv32im.accessAddr, fetch_storeTo]
  rfl

private theorem faithful_storeTo :
    let _ : Platform := Platform.always (storeTo 0x100)
    Rv32im.Faithful (single (storeTo 0x100)).config (single (storeTo 0x100)).archPage := by
  intro _
  refine ⟨rfl, fetch_storeTo ▸ wellFormed_storeTo 0x100, ?_, ?_, ?_⟩
  · rw [fetch_storeTo]
    exact Or.inr (Or.inr (Or.inl rfl))
  · rw [fetch_storeTo]
    exact fun f hf => absurd hf (by simp [storeTo])
  · rw [fetch_storeTo, accessAddr_storeTo]
    intro w hw
    obtain rfl : w = .word := (Option.some.inj hw).symm
    decide

/-- The first iteration of the program of one store. -/
private theorem loop_storeTo :
    let _ : Platform := Platform.always (storeTo 0x100)
    ∃ s, Loop (single (storeTo 0x100)) [single (storeTo 0x100)] s := by
  intro _
  obtain ⟨s', hstep⟩ := exists_step (s := single (storeTo 0x100))
    ((decoded_always _ _).symm ▸ wellFormed_storeTo 0x100)
  exact ⟨_, .iterate 0 0 .start rfl hstep⟩

/-- The iteration of the program of one store is the step of the machine. -/
theorem refines_storeTo :
    let _ : Platform := Platform.always (storeTo 0x100)
    ∃ s, Loop (single (storeTo 0x100)) [single (storeTo 0x100)] s ∧
      s.archPage = Rv32im.next (single (storeTo 0x100)).archPage := by
  intro _
  obtain ⟨s, hloop⟩ := loop_storeTo
  have hfaith : ∀ k < 1, Rv32im.Faithful (single (storeTo 0x100)).config
      (Rv32im.next^[k] (single (storeTo 0x100)).archPage) := by
    intro k hk
    obtain rfl : k = 0 := by omega
    exact faithful_storeTo
  have hat := (hloop.refines (Or.inl rfl) hfaith).arch
  rw [List.length_singleton, Function.iterate_one] at hat
  exact ⟨s, hloop, hat⟩

end Model

end Riscv32Sim
