import Mathlib.Data.List.Forall2
import Riscv32Sim.Iss.Halt
import Riscv32Sim.Iss.Refinement

/-!
# The timer thread and the main loop

The timer thread increments `mtime` while the main loop runs. The loop itself compares the timers
with 64-bit reads, which go to the page map, so what the thread does is seen by one kind of
instruction only: a byte load inside the window of `mtime`. Without such a load, a run does not
depend on how the two threads are interleaved.

## Main definitions

* `Model.SameButMtime`: two states that differ in the bytes of `mtime` at most
* `Model.LoadsMtime`: the instructions that see these bytes
* `Model.Scheduled`: the runs of the main loop under a given interleaving

## Main results

* `Model.step_withMtime`, `Model.commit_withMtime`: one call from two such states
* `Model.Scheduled.exists_sameButMtime`: two interleavings of one run
* `Model.Loop.schedule_independent`: a run does not depend on the interleaving
-/

namespace Riscv32Sim

namespace Model

/-- The state with other bytes in `mtime`. -/
@[simps] def withMtime (s : Model) (v : Vector (BitVec 8) 8) : Model :=
  { s with mem := { s.mem with mtime := v } }

/-- The two states differ in the bytes of `mtime` at most. -/
def SameButMtime (s t : Model) : Prop := ∃ v, t = s.withMtime v

theorem SameButMtime.refl (s : Model) : SameButMtime s s := ⟨s.mem.mtime, rfl⟩

theorem SameButMtime.symm {s t : Model} (h : SameButMtime s t) : SameButMtime t s := by
  obtain ⟨v, rfl⟩ := h
  exact ⟨s.mem.mtime, rfl⟩

theorem SameButMtime.trans {s t u : Model} (h : SameButMtime s t) (h' : SameButMtime t u) :
    SameButMtime s u := by
  obtain ⟨v, rfl⟩ := h
  obtain ⟨v', rfl⟩ := h'
  exact ⟨v', rfl⟩

/-- The increments of the timer thread. -/
theorem sameButMtime_tick_iterate (n : ℕ) (s : Model) : SameButMtime s (tick^[n] s) :=
  tick_iterate_eq n s

/-! ## One call -/

section Schedule

variable [Platform] (e : Model) (v : Vector (BitVec 8) 8)

omit [Platform] in
theorem setPc_withMtime (a : BitVec 32) : (e.withMtime v).setPc a = (e.setPc a).withMtime v := rfl

omit [Platform] in
theorem updatePc_withMtime : (e.withMtime v).updatePc = e.updatePc.withMtime v := rfl

omit [Platform] in
theorem writeCsr_withMtime (a : CsrAddr) (x : BitVec 32) :
    (e.withMtime v).writeCsr a x = (e.writeCsr a x).withMtime v := rfl

theorem handleSysExit_withMtime : (e.withMtime v).handleSysExit = e.handleSysExit.withMtime v := by
  unfold handleSysExit
  split_ifs with h h' h'
  · rfl
  · exact absurd h h'
  · exact absurd h' h
  · rfl

theorem savePc_withMtime (cause : TrapCause) :
    (e.withMtime v).savePc cause = (e.savePc cause).withMtime v := by
  rw [savePc_eq, savePc_eq, apply_ite (withMtime · v), ← handleSysExit_withMtime]
  rfl

theorem enterTrap_withMtime (cause : TrapCause) (vector : BitVec 32) :
    (e.withMtime v).enterTrap cause vector = (e.enterTrap cause vector).withMtime v := by
  simp only [enterTrap, withMtime_mode, withMtime_csrf, writeCsr_withMtime, setPc_withMtime,
    savePc_withMtime]

theorem trap_withMtime (cause : TrapCause) :
    (e.withMtime v).trap cause = (e.trap cause).withMtime v := by
  have htakes : (e.withMtime v).takes cause = e.takes cause := rfl
  simp only [trap, htakes, withMtime_csrf, writeCsr_withMtime, enterTrap_withMtime,
    updatePc_withMtime]
  by_cases hint : cause.isInterrupt = true
  · by_cases htake : e.takes cause = true
    · simp only [if_pos hint, if_pos htake]
    · simp only [if_pos hint, if_neg htake]
  · simp only [if_neg hint]

theorem csrImm_withMtime (sys : Sys) (tmp : BitVec 32) :
    (e.withMtime v).csrImm sys tmp = (withMtime · v) <$> e.csrImm sys tmp := by
  simp only [csrImm, apply_ite ((withMtime · v) <$> ·), map_bind, map_pure, trap_withMtime]
  rfl

theorem csrReg_withMtime (sys : Sys) (tmp : BitVec 32) :
    (e.withMtime v).csrReg sys tmp = (withMtime · v) <$> e.csrReg sys tmp := by
  simp only [csrReg, apply_ite ((withMtime · v) <$> ·), map_bind, map_pure, trap_withMtime,
    writeCsr_withMtime, csrImm_withMtime]
  rfl

theorem csr_withMtime : (e.withMtime v).csr = (withMtime · v) <$> e.csr := by
  simp only [csr, apply_ite ((withMtime · v) <$> ·), map_bind, map_pure, trap_withMtime,
    csrReg_withMtime]
  rfl

theorem handleAlu_withMtime : (e.withMtime v).handleAlu = (withMtime · v) <$> e.handleAlu := by
  simp only [handleAlu, map_bind]
  refine bind_congr fun opt => ?_
  refine bind_congr fun res => ?_
  cases opt <;> rfl

omit [Platform] in
theorem handleBranch_withMtime :
    (e.withMtime v).handleBranch = (withMtime · v) <$> e.handleBranch := by
  simp only [handleBranch, map_bind]
  refine bind_congr fun opt => ?_
  refine bind_congr fun taken => ?_
  cases taken <;> rfl

omit [Platform] in
theorem handleMret_withMtime : (e.withMtime v).handleMret = e.handleMret.withMtime v := rfl

theorem interruptPending_withMtime :
    (e.withMtime v).interruptPending = e.interruptPending.withMtime v := by
  have hset : (e.withMtime v).setPending .intTimerM = (e.setPending .intTimerM).withMtime v := rfl
  simp only [interruptPending, hset, trap_withMtime, apply_ite (withMtime · v)]
  rfl

theorem commit_withMtime : (e.withMtime v).commit = e.commit.withMtime v := by
  rw [commit, updatePc_withMtime, interruptPending_withMtime]
  rfl

theorem SameButMtime.commit {s t : Model} (h : SameButMtime s t) :
    SameButMtime s.commit t.commit := by
  obtain ⟨v, rfl⟩ := h
  exact ⟨v, commit_withMtime s v⟩

omit [Platform] in
/-- The instruction `op` loads a byte of `mtime`. Every other load goes to the page map. -/
def LoadsMtime (s : Model) (op : Op) : Prop :=
  op.tgt = .load ∧ ∃ l, op.opt = .load l ∧ loadWidth l = .byte ∧
    InWindow s.mem.mtimeAddr (s.regf.read op.rs1 + op.imm)

theorem read8_withMtime (r : AddressRouter) (a : BitVec 32) (h : ¬ InWindow r.mtimeAddr a) :
    ({ r with mtime := v } : AddressRouter).read8 a = r.read8 a := by
  simp only [AddressRouter.read8, dif_neg h]

variable {e}

theorem load_withMtime (htgt : e.dec.tgt = .load) (h : ¬ e.LoadsMtime e.dec) :
    (e.withMtime v).load = e.load := by
  have hdec : (e.withMtime v).dec = e.dec := rfl
  have h16 : (e.withMtime v).mem.read16 = e.mem.read16 := rfl
  have h32 : (e.withMtime v).mem.read32 = e.mem.read32 := rfl
  simp only [Model.load, hdec, withMtime_regf, h16, h32]
  cases hopt : e.dec.opt with
  | load l =>
    have h8 : loadWidth l = .byte → (e.withMtime v).mem.read8 (e.regf.read e.dec.rs1 + e.dec.imm) =
        e.mem.read8 (e.regf.read e.dec.rs1 + e.dec.imm) := by
      intro hl
      exact read8_withMtime v e.mem _ fun hin => h ⟨htgt, l, hopt, hl, hin⟩
    cases l with
    | lb | lbu => simp only [OpType.getLoad, bind, Except.bind, h8 rfl]
    | lh | lw | lhu | unnamed => simp only [OpType.getLoad, bind, Except.bind]
  | _ => simp only [OpType.getLoad, bind, Except.bind]

theorem storeMem_withMtime (r : AddressRouter) (addr val : BitVec 32) (w : Store) :
    ∃ v', storeMem { r with mtime := v } addr val w =
      (fun r' : AddressRouter => { r' with mtime := v' }) <$> storeMem r addr val w := by
  cases w with
  | sb =>
    simp only [storeMem, AddressRouter.write8]
    split_ifs
    · exact ⟨_, rfl⟩
    · exact ⟨_, rfl⟩
    · exact ⟨_, rfl⟩
  | sh | sw | unnamed => exact ⟨v, rfl⟩

theorem exec_withMtime (h : ¬ e.LoadsMtime e.dec) :
    ∃ v', (e.withMtime v).exec = (withMtime · v') <$> e.exec := by
  have hdec : (e.withMtime v).dec = e.dec := rfl
  simp only [exec, hdec]
  cases htgt : e.dec.tgt with
  | store =>
    cases hget : e.dec.opt.getStore with
    | ok w =>
      obtain ⟨v', hmem⟩ := storeMem_withMtime v e.mem (e.regf.read e.dec.rs1 + e.dec.imm)
        (e.regf.read e.dec.rs2) w
      refine ⟨v', ?_⟩
      have hleft : (e.withMtime v).mem = { e.mem with mtime := v } := rfl
      simp only [Model.store, hdec, hget, withMtime_regf, hleft, hmem, bind, Except.bind]
      cases storeMem e.mem (e.regf.read e.dec.rs1 + e.dec.imm) (e.regf.read e.dec.rs2) w <;> rfl
    | error err =>
      refine ⟨v, ?_⟩
      simp only [Model.store, hdec, hget, bind, Except.bind]
      rfl
  | alu => exact ⟨v, handleAlu_withMtime e v⟩
  | load =>
    refine ⟨v, ?_⟩
    simp only [handleLoad, load_withMtime v htgt h, map_bind]
    rfl
  | branch => exact ⟨v, handleBranch_withMtime e v⟩
  | csr => exact ⟨v, csr_withMtime e v⟩
  | mret => exact ⟨v, congrArg Except.ok (handleMret_withMtime e v)⟩
  | ecall => exact ⟨v, congrArg Except.ok (trap_withMtime e v _)⟩
  | illegal => exact ⟨v, congrArg Except.ok (trap_withMtime e v _)⟩
  | ebreak => exact ⟨v, congrArg Except.ok (trap_withMtime e v _)⟩


variable (e)

theorem entered_withMtime : (e.withMtime v).entered = e.entered.withMtime v := by
  have hvalid : (e.withMtime v).isValidPc = e.isValidPc := rfl
  have hfaulted : (e.withMtime v).faulted = e.faulted.withMtime v :=
    enterTrap_withMtime e.fetched v _ _
  rw [entered, entered, hvalid, hfaulted]
  split_ifs <;> rfl

variable {e}

/-- One call of `step` from two states that differ in `mtime`. -/
theorem step_withMtime {s : Model} (h : ¬ s.LoadsMtime s.decoded) :
    ∃ v', (s.withMtime v).step = (withMtime · v') <$> s.step := by
  rw [step_eq, step_eq, entered_withMtime]
  refine exec_withMtime v fun hload => h ?_
  simpa [LoadsMtime, dec] using hload

/-! ## Whole runs -/

/-- The runs of the main loop under an interleaving: the numbers of increments that the timer
thread makes before each call of `step` and before each call of `commit`. -/
inductive Scheduled (s₀ : Model) : List (ℕ × ℕ) → List Model → Model → Prop
  | start : Scheduled s₀ [] [] s₀
  | iterate {sched : List (ℕ × ℕ)} {trace : List Model} {s s' : Model} (m n : ℕ)
    (h : Scheduled s₀ sched trace s) (hdone : s.isDone = false)
    (hstep : (tick^[m] s).step = .ok s') :
    Scheduled s₀ (sched ++ [(m, n)]) (trace ++ [tick^[m] s]) (tick^[n] s').commit

theorem Scheduled.length_eq {s₀ s : Model} {sched : List (ℕ × ℕ)} {trace : List Model}
    (h : Scheduled s₀ sched trace s) : trace.length = sched.length := by
  induction h with
  | start => rfl
  | iterate m n h hdone hstep ih => rw [List.length_append, List.length_append, ih]; rfl

/-- Every run of the main loop has an interleaving. -/
theorem Loop.exists_scheduled {s₀ s : Model} {trace : List Model} (h : Loop s₀ trace s) :
    ∃ sched, Scheduled s₀ sched trace s := by
  induction h with
  | start => exact ⟨[], .start⟩
  | iterate m n h hdone hstep ih =>
    obtain ⟨sched, hsched⟩ := ih
    exact ⟨_, hsched.iterate m n hdone hstep⟩

/-- One iteration from two states that differ in `mtime`, with other increments. -/
theorem SameButMtime.iterate {s t s' : Model} (h : SameButMtime s t)
    (hload : ¬ s.LoadsMtime s.decoded) (hstep : s.step = .ok s') (n n' : ℕ) :
    ∃ t', t.step = .ok t' ∧ SameButMtime (tick^[n] s').commit (tick^[n'] t').commit := by
  obtain ⟨v, rfl⟩ := h
  obtain ⟨v', hv'⟩ := step_withMtime v hload
  refine ⟨s'.withMtime v', by rw [hv', hstep]; rfl, ?_⟩
  have hs' : SameButMtime (tick^[n] s') (tick^[n'] (s'.withMtime v')) :=
    (sameButMtime_tick_iterate n s').symm.trans
      (SameButMtime.trans ⟨v', rfl⟩ (sameButMtime_tick_iterate n' _))
  exact hs'.commit

/-- **Two interleavings of one run.** If no instruction of the run loads a byte of `mtime`, then
every other interleaving has a run of the same length, whose states differ in `mtime` at most. -/
theorem Scheduled.exists_sameButMtime {s₀ t₀ s : Model} {sched : List (ℕ × ℕ)} {trace : List Model}
    (h₀ : SameButMtime s₀ t₀) (h : Scheduled s₀ sched trace s)
    (hload : ∀ u ∈ trace, ¬ u.LoadsMtime u.decoded) {sched' : List (ℕ × ℕ)}
    (hlen : sched'.length = sched.length) :
    ∃ trace' t, Scheduled t₀ sched' trace' t ∧ List.Forall₂ SameButMtime trace trace' ∧
      SameButMtime s t := by
  induction h generalizing sched' with
  | start =>
    obtain rfl := List.length_eq_zero_iff.mp hlen
    exact ⟨[], t₀, .start, .nil, h₀⟩
  | @iterate sched trace s s' m n h hdone hstep ih =>
    -- the last pair of the other interleaving belongs to this iteration
    obtain ⟨init, ⟨m', n'⟩, rfl⟩ : ∃ init p, sched' = init ++ [p] :=
      (List.eq_nil_or_concat' sched').resolve_left fun hnil => by simp [hnil] at hlen
    obtain ⟨trace', t, ht, htrace, hst⟩ := ih
      (fun u hu => hload u (List.mem_append_left _ hu)) (by simpa using hlen)
    have hcur : SameButMtime (tick^[m] s) (tick^[m'] t) :=
      (sameButMtime_tick_iterate m s).symm.trans (hst.trans (sameButMtime_tick_iterate m' t))
    obtain ⟨t', htstep, hnext⟩ :=
      hcur.iterate (hload _ (List.mem_append_right _ (List.mem_singleton_self _))) hstep n n'
    have htdone : t.isDone = false := by
      obtain ⟨v, rfl⟩ := hst
      exact hdone
    exact ⟨_, _, ht.iterate m' n' htdone htstep, List.rel_append htrace (.cons hcur .nil), hnext⟩

/-- An interleaving has one run. -/
theorem Scheduled.unique {s₀ s t : Model} {sched : List (ℕ × ℕ)} {trace trace' : List Model}
    (h : Scheduled s₀ sched trace s) (h' : Scheduled s₀ sched trace' t) :
    trace = trace' ∧ s = t := by
  induction h generalizing trace' t with
  | start =>
    generalize hnil : ([] : List (ℕ × ℕ)) = sched at h'
    cases h' with
    | start => exact ⟨rfl, rfl⟩
    | iterate => exact absurd hnil (by simp)
  | iterate m n h hdone hstep ih =>
    generalize hcat : _ ++ [(m, n)] = sched at h'
    cases h' with
    | start => exact absurd hcat (by simp)
    | iterate m' n' h' hdone' hstep' =>
      obtain ⟨rfl, hpair⟩ := List.append_inj' hcat rfl
      obtain ⟨rfl, rfl⟩ := Prod.mk.inj (List.singleton_inj.mp hpair)
      obtain ⟨rfl, rfl⟩ := ih h'
      obtain rfl := Except.ok.inj (hstep.symm.trans hstep')
      exact ⟨rfl, rfl⟩

/-- A run passes through shorter ones, and the test at the head of each further iteration has seen
the flag clear. -/
theorem Scheduled.exists_take {s₀ s : Model} {sched : List (ℕ × ℕ)} {trace : List Model}
    (h : Scheduled s₀ sched trace s) {k : ℕ} (hk : k < sched.length) :
    ∃ u, Scheduled s₀ (sched.take k) (trace.take k) u ∧ u.isDone = false := by
  induction h with
  | start => exact absurd hk (Nat.not_lt_zero k)
  | @iterate sched trace s s' m n h hdone hstep ih =>
    have hlen := h.length_eq
    rw [List.length_append, List.length_singleton] at hk
    rw [List.take_append_of_le_length (by omega), List.take_append_of_le_length (by omega)]
    rcases Nat.lt_succ_iff_lt_or_eq.mp hk with hlt | rfl
    · exact ih hlt
    · rw [List.take_length, ← hlen, List.take_length]
      exact ⟨_, h, hdone⟩

/-- Where a run is done, no run under any interleaving is longer. -/
theorem Scheduled.length_le {s₀ s t : Model} {sched sched' : List (ℕ × ℕ)}
    {trace trace' : List Model} (h : Scheduled s₀ sched trace s)
    (hload : ∀ u ∈ trace, ¬ u.LoadsMtime u.decoded) (hdone : s.isDone = true)
    (h' : Scheduled s₀ sched' trace' t) : sched'.length ≤ sched.length := by
  by_contra hlong
  rw [not_le] at hlong
  -- after as many iterations as the first run, the other one is done as well
  obtain ⟨u, hu, hundone⟩ := h'.exists_take hlong
  obtain ⟨_, _, ht', -, v, rfl⟩ := h.exists_sameButMtime (.refl s₀) hload
    (List.length_take_of_le (Nat.le_of_lt hlong) : (sched'.take sched.length).length = _)
  obtain ⟨-, rfl⟩ := ht'.unique hu
  exact Bool.false_ne_true (hundone.symm.trans hdone)

/-- A run that is done goes through the states of every other run, up to `mtime`. -/
theorem Loop.sameButMtime_take {s₀ s t : Model} {trace trace' : List Model} (h : Loop s₀ trace s)
    (hload : ∀ u ∈ trace, ¬ u.LoadsMtime u.decoded) (hdone : s.isDone = true)
    (h' : Loop s₀ trace' t) :
    List.Forall₂ SameButMtime (trace.take trace'.length) trace' ∧
      (t.isDone = true → trace'.length = trace.length ∧ SameButMtime s t) := by
  obtain ⟨sched, h⟩ := h.exists_scheduled
  obtain ⟨sched', h'⟩ := h'.exists_scheduled
  have hle := h.length_le hload hdone h'
  rw [h'.length_eq, h.length_eq]
  rcases Nat.lt_or_eq_of_le hle with hlt | heq
  · obtain ⟨u, hu, hundone⟩ := h.exists_take hlt
    obtain ⟨trace'', t'', ht'', htrace, v, hv⟩ := hu.exists_sameButMtime (.refl s₀)
      (fun x hx => hload x (List.mem_of_mem_take hx)) (List.length_take_of_le hle).symm
    obtain ⟨rfl, rfl⟩ := h'.unique ht''
    refine ⟨htrace, fun hset => ?_⟩
    rw [hv] at hset
    exact absurd (hundone.symm.trans hset) Bool.false_ne_true
  · obtain ⟨trace'', t'', ht'', htrace, hst⟩ := h.exists_sameButMtime (.refl s₀) hload heq
    obtain ⟨rfl, rfl⟩ := h'.unique ht''
    rw [heq, ← h.length_eq, List.take_length]
    exact ⟨htrace, fun _ => ⟨rfl, hst⟩⟩

/-- **A run does not depend on the interleaving of the two threads.** For every run of the main
loop in which no instruction loads a byte of `mtime`, and every other interleaving: the loop has
exactly one run of the same length, through states that differ in `mtime` at most; and where the
first run is done, no run under any interleaving is longer. -/
theorem Loop.schedule_independent {s₀ s : Model} {trace : List Model} (h : Loop s₀ trace s)
    (hload : ∀ u ∈ trace, ¬ u.LoadsMtime u.decoded) (sched : List (ℕ × ℕ)) :
    (sched.length = trace.length →
      ∃ trace' t, Scheduled s₀ sched trace' t ∧ List.Forall₂ SameButMtime trace trace' ∧
        SameButMtime s t ∧
        ∀ trace'' t', Scheduled s₀ sched trace'' t' → trace'' = trace' ∧ t' = t) ∧
    (s.isDone = true → ∀ trace' t, Scheduled s₀ sched trace' t → trace'.length ≤ trace.length) := by
  obtain ⟨sched₀, h₀⟩ := h.exists_scheduled
  constructor
  · intro hlen
    obtain ⟨trace', t, ht, htrace, hst⟩ :=
      h₀.exists_sameButMtime (.refl s₀) hload (hlen.trans h₀.length_eq)
    exact ⟨trace', t, ht, htrace, hst, fun _ _ ht' => ht'.unique ht⟩
  · intro hdone trace' t ht
    rw [ht.length_eq, h₀.length_eq]
    exact h₀.length_le hload hdone ht

end Schedule

/-- A program of additions runs for ever. -/
theorem exists_loop_addi (n : ℕ) :
    let _ : Platform := Platform.always addi
    ∃ trace s, Loop (single addi) trace s ∧ trace.length = n ∧ s.isDone = false := by
  intro _
  have hdec : ∀ s : Model, s.decoded = addi := decoded_always _
  induction n with
  | zero => exact ⟨_, _, .start, rfl, rfl⟩
  | succ n ih =>
    obtain ⟨trace, s, hloop, hlen, hdone⟩ := ih
    obtain ⟨s', hstep⟩ := exists_step (s := s) ((hdec s).symm ▸ .alu .add rfl rfl rfl)
    refine ⟨_, _, .iterate 0 0 hloop hdone hstep, ?_, ?_⟩
    · rw [List.length_append, hlen]
      rfl
    · rw [Function.iterate_zero, id_eq, commit_isDone, isDone_step_of_ne hstep, hdone]
      all_goals
        rw [hdec]
        decide

/-- Two additions, with eight increments before the second `step` and two after it, are those with
no increment; and whatever the timer thread does, a program that stores to `tohost` makes one
iteration. -/
theorem schedule_independent_storeTo :
    (let _ : Platform := Platform.always addi
      ∃ trace s, Loop (single addi) trace s ∧ ∃ trace' t,
        Scheduled (single addi) [(3, 5), (0, 2)] trace' t ∧ trace.length = 2 ∧
          List.Forall₂ SameButMtime trace trace' ∧ SameButMtime s t) ∧
    (let _ : Platform := Platform.always (storeTo 0x100)
      ∀ sched trace t, Scheduled (single (storeTo 0x100)) sched trace t → trace.length ≤ 1) := by
  constructor
  · intro _
    obtain ⟨trace, s, hloop, hlen, -⟩ := exists_loop_addi 2
    have hload : ∀ u ∈ trace, ¬ u.LoadsMtime u.decoded := by
      rintro u - ⟨htgt, -⟩
      rw [decoded_always] at htgt
      exact absurd htgt (by decide)
    obtain ⟨trace', t, ht, htrace, hst, -⟩ :=
      (hloop.schedule_independent hload [(3, 5), (0, 2)]).1 hlen.symm
    exact ⟨trace, s, hloop, trace', t, ht, hlen, htrace, hst⟩
  · intro _ sched trace t ht
    have hdec : ∀ s : Model, s.decoded = storeTo 0x100 := decoded_always _
    obtain ⟨s', hstep⟩ := exists_step (s := single (storeTo 0x100))
      ((hdec _).symm ▸ wellFormed_storeTo 0x100)
    have hloop : Loop (single (storeTo 0x100)) [single (storeTo 0x100)] s'.commit :=
      .iterate 0 0 .start rfl hstep
    have hdone : s'.commit.isDone = true := by
      rw [commit_isDone, isDone_step_of_store hstep (congrArg Op.tgt (hdec _)), accessAddr, hdec]
      rfl
    have hload : ∀ u ∈ [single (storeTo 0x100)], ¬ u.LoadsMtime u.decoded := by
      rintro u - ⟨htgt, -⟩
      rw [hdec] at htgt
      exact absurd htgt (by decide)
    exact (hloop.schedule_independent hload sched).2 hdone trace t ht

end Model

end Riscv32Sim
