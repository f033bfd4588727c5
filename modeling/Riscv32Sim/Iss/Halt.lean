import Riscv32Sim.Iss.Interrupt

/-!
# Halting

The main loop calls `step` and `commit` until `done` returns true. Two instructions set the flag: a
store to `tohost`, and an `ecall` with the number of the exit call. A store to any other address
clears it.

## Main definitions

* `Model.tohost`: the exit code that `main` reports
* `Model.Halts`, `Model.StoresElsewhere`: the instructions that set and that clear the flag
* `Model.Loop`: the runs of the main loop, with the states its iterations started in
* `Model.Calls`: the sequences of calls of `step` and `commit`, in any order

## Main results

* `Model.isDone_step_iff`: the flag after one call of `step`
* `Model.Loop.exit`: the loop stops after the first halting instruction, with its exit code
* `Model.Calls.halted_iff`: the flag stays set as long as no store clears it
-/

namespace Riscv32Sim

namespace Model

section Halt

variable [Platform]

/-- `model::tohost`. -/
def tohost (s : Model) : BitVec 32 := s.mem.read32 s.tohostAddr

/-- The address of the next instruction's access, if that is a load or a store. -/
def accessAddr (s : Model) : BitVec 32 := s.regf.read s.decoded.rs1 + s.decoded.imm

/-- The next instruction is a store to `tohost`, or the exit call. -/
def Halts (s : Model) : Prop :=
  (s.decoded.tgt = .store ∧ s.accessAddr = s.tohostAddr) ∨
    (s.decoded.tgt = .ecall ∧ s.regf.read 17 = 93)

/-- The next instruction is a store, and not to `tohost`. -/
def StoresElsewhere (s : Model) : Prop :=
  s.decoded.tgt = .store ∧ s.accessAddr ≠ s.tohostAddr

/-! ## One call -/

/-- What a step that executes a store has done. -/
theorem exists_of_step_store {s s' : Model} (h : s.step = .ok s') (htgt : s.decoded.tgt = .store) :
    ∃ w mem, s.decoded.opt = .store w ∧
      storeMem s.mem s.accessAddr (s.regf.read s.decoded.rs2) w = .ok mem ∧
      s' = { s.entered with mem := mem, isDone := s.accessAddr == s.tohostAddr } := by
  rw [step_eq] at h
  have hdec : s.entered.dec = s.decoded := s.entered_dec
  obtain ⟨w, mem, hopt, hmem, rfl⟩ := exists_of_exec_store (hdec ▸ htgt) h
  -- the fault of an invalid pc leaves the registers and the memory alone
  have haddr : s.entered.regf.read s.entered.dec.rs1 + s.entered.dec.imm = s.accessAddr := by
    rw [hdec, entered_regf, accessAddr]
  rw [haddr, hdec, entered_regf, entered_mem] at hmem
  refine ⟨w, mem, hdec ▸ hopt, hmem, ?_⟩
  simp only [haddr, entered_tohostAddr]

/-- A store sets the flag or clears it. -/
theorem isDone_step_of_store {s s' : Model} (h : s.step = .ok s') (htgt : s.decoded.tgt = .store) :
    s'.isDone = true ↔ s.accessAddr = s.tohostAddr := by
  obtain ⟨w, mem, -, -, rfl⟩ := exists_of_step_store h htgt
  exact beq_iff_eq

/-- An `ecall` sets the flag or leaves it. -/
theorem isDone_step_of_ecall {s s' : Model} (h : s.step = .ok s') (htgt : s.decoded.tgt = .ecall) :
    s'.isDone = true ↔ s.isDone = true ∨ s.regf.read 17 = 93 := by
  obtain rfl := Except.ok.inj ((step_of_ecall htgt).symm.trans h)
  simp [Exits, isEcall_ecallCause]

/-- Every other instruction leaves it. -/
theorem isDone_step_of_ne {s s' : Model} (h : s.step = .ok s') (hstore : s.decoded.tgt ≠ .store)
    (hecall : s.decoded.tgt ≠ .ecall) : s'.isDone = s.isDone := by
  rw [← s.entered_isDone]
  rw [← s.entered_dec] at hstore hecall
  cases effect_of_step h with
  | store w mem htgt hmem hopt => exact absurd htgt hstore
  | trap cause h hcause =>
    have hno : ¬ s.entered.Exits cause := fun hex => hecall (hcause hex.1)
    simp [hno]
  | gpr | jump | branch | skip | csr | mret => rfl

/-- **The flag after one call of `step`**: a halting instruction sets it, a store elsewhere clears
it, and every other instruction leaves it. -/
theorem isDone_step_iff {s s' : Model} (h : s.step = .ok s') :
    s'.isDone = true ↔ s.Halts ∨ (s.isDone = true ∧ ¬ s.StoresElsewhere) := by
  by_cases hstore : s.decoded.tgt = .store
  · rw [isDone_step_of_store h hstore]
    simp [Halts, StoresElsewhere, hstore]
  · by_cases hecall : s.decoded.tgt = .ecall
    · rw [isDone_step_of_ecall h hecall]
      simp only [Halts, StoresElsewhere, hecall, reduceCtorEq, false_and, false_or, true_and,
        not_false_eq_true, and_true]
      exact or_comm
    · rw [isDone_step_of_ne h hstore hecall]
      simp [Halts, StoresElsewhere, hstore, hecall]

/-- The exit call leaves its argument at `tohost`. -/
theorem tohost_step_of_ecall {s s' : Model} (h : s.step = .ok s') (htgt : s.decoded.tgt = .ecall)
    (hexit : s.regf.read 17 = 93) : s'.tohost = s.regf.read 10 := by
  obtain rfl := Except.ok.inj ((step_of_ecall htgt).symm.trans h)
  have hexits : s.entered.Exits s.entered.ecallCause :=
    ⟨isEcall_ecallCause _, by rwa [entered_regf]⟩
  simp only [tohost, enterTrap_mem, enterTrap_tohostAddr, trapMem, if_pos hexits, entered_regf]
  exact SparseMemory.read32_write32 ..

/-- A store of a word to `tohost` leaves the register there. -/
theorem tohost_step_of_sw {s s' : Model} (h : s.step = .ok s') (htgt : s.decoded.tgt = .store)
    (hopt : s.decoded.opt = .store .sw) (haddr : s.accessAddr = s.tohostAddr) :
    s'.tohost = s.regf.read s.decoded.rs2 := by
  obtain ⟨w, mem, hw, hmem, rfl⟩ := exists_of_step_store h htgt
  obtain rfl := OpType.store.inj (hopt.symm.trans hw)
  obtain rfl := Except.ok.inj hmem
  rw [tohost, haddr, ← s.entered_tohostAddr]
  exact SparseMemory.read32_write32 ..

/-! ## The main loop -/

omit [Platform] in
/-- The timer thread writes `mtime` only. -/
theorem tick_iterate_eq (n : ℕ) (s : Model) :
    ∃ mtime, tick^[n] s = { s with mem := { s.mem with mtime := mtime } } := by
  induction n with
  | zero => exact ⟨s.mem.mtime, rfl⟩
  | succ n ih =>
    obtain ⟨mtime, hn⟩ := ih
    exact ⟨_, by rw [Function.iterate_succ_apply', hn]; rfl⟩

omit [Platform] in
@[simp] theorem tick_iterate_isDone (n : ℕ) (s : Model) : (tick^[n] s).isDone = s.isDone := by
  obtain ⟨mtime, hn⟩ := tick_iterate_eq n s
  rw [hn]

@[simp] theorem tick_iterate_tohost (n : ℕ) (s : Model) : (tick^[n] s).tohost = s.tohost := by
  obtain ⟨mtime, hn⟩ := tick_iterate_eq n s
  rw [hn]
  rfl

@[simp] theorem commit_tohost (s : Model) : s.commit.tohost = s.tohost := by
  rw [tohost, commit_mem, commit_tohostAddr, tohost]

/-- The runs of `while (!model.done())`, the loop of `main` without `--step`, from `s₀`: the states
in which the iterations so far have called `step`, and the state at the next test. The timer thread
runs before `step` and before `commit`. -/
inductive Loop (s₀ : Model) : List Model → Model → Prop
  | start : Loop s₀ [] s₀
  | iterate {trace : List Model} {s s' : Model} (m n : ℕ) (h : Loop s₀ trace s)
    (hdone : s.isDone = false) (hstep : (tick^[m] s).step = .ok s') :
    Loop s₀ (trace ++ [tick^[m] s]) (tick^[n] s').commit

/-- As long as the loop runs, no instruction has halted. -/
theorem Loop.not_halts {s₀ s : Model} {trace : List Model} (h : Loop s₀ trace s)
    (hdone : s.isDone = false) : ∀ t ∈ trace, ¬ t.Halts := by
  induction h with
  | start => exact fun t ht => absurd ht List.not_mem_nil
  | iterate m n h hdone' hstep ih =>
    intro t ht hhalts
    rcases List.mem_append.mp ht with ht | ht
    · exact ih hdone' t ht hhalts
    · obtain rfl := List.mem_singleton.mp ht
      have hset := (isDone_step_iff hstep).mpr (Or.inl hhalts)
      rw [commit_isDone, tick_iterate_isDone] at hdone
      exact Bool.false_ne_true (hdone.symm.trans hset)

/-- The loop is done exactly after the first halting instruction. -/
theorem Loop.isDone_iff {s₀ s : Model} {trace : List Model} (h₀ : s₀.isDone = false)
    (h : Loop s₀ trace s) :
    s.isDone = true ↔
      ∃ pre last, trace = pre ++ [last] ∧ last.Halts ∧ ∀ t ∈ pre, ¬ t.Halts := by
  cases h with
  | start => simp [h₀]
  | iterate m n h hdone hstep =>
    -- the test at the head of the loop has seen the flag clear
    rw [commit_isDone, tick_iterate_isDone, isDone_step_iff hstep, tick_iterate_isDone, hdone]
    constructor
    · rintro (hhalts | ⟨hset, -⟩)
      · exact ⟨_, _, rfl, hhalts, h.not_halts hdone⟩
      · exact absurd hset Bool.false_ne_true
    · rintro ⟨pre, last, heq, hhalts, -⟩
      obtain ⟨-, hlast⟩ := List.append_inj' heq rfl
      obtain rfl := List.singleton_inj.mp hlast
      exact Or.inl hhalts

/-- After its last iteration the loop leaves the exit code at `tohost`. -/
theorem Loop.tohost_eq {s₀ s last : Model} {pre : List Model} (h : Loop s₀ (pre ++ [last]) s) :
    (last.decoded.tgt = .ecall → last.regf.read 17 = 93 → s.tohost = last.regf.read 10) ∧
    (last.decoded.tgt = .store → last.decoded.opt = .store .sw →
      last.accessAddr = last.tohostAddr → s.tohost = last.regf.read last.decoded.rs2) := by
  generalize htrace : pre ++ [last] = trace at h
  cases h with
  | start => exact absurd htrace (by simp)
  | iterate m n h hdone hstep =>
    obtain ⟨-, hlast⟩ := List.append_inj' htrace rfl
    obtain rfl := List.singleton_inj.mp hlast
    rw [commit_tohost, tick_iterate_tohost]
    exact ⟨tohost_step_of_ecall hstep, tohost_step_of_sw hstep⟩

/-- **Halting is exact**: for every program, the main loop stops after the first halting
instruction, it goes on after every other one that the decoder may yield, and the exit code that
it reports is the argument of the exit call, or the word stored at `tohost`. -/
theorem Loop.exit {opts : Options} {entry : BitVec 32}
    {progbitRanges : List (BitVec 64 × BitVec 64)} {tohostAddr : BitVec 32} {mem : AddressRouter}
    {trace : List Model} {s : Model}
    (h : Loop (Model.init opts entry progbitRanges tohostAddr mem) trace s) :
    (s.isDone = true ↔
      ∃ pre last, trace = pre ++ [last] ∧ last.Halts ∧ ∀ t ∈ pre, ¬ t.Halts) ∧
    (s.isDone = false → s.decoded.WellFormed →
      ∃ s', Loop (Model.init opts entry progbitRanges tohostAddr mem) (trace ++ [s]) s') ∧
    ∀ pre last n, trace = pre ++ [last] → last.Halts →
      (last.decoded.tgt = .ecall → (tick^[n] s).tohost = last.regf.read 10) ∧
      (last.decoded.opt = .store .sw → last.decoded.tgt = .store →
        (tick^[n] s).tohost = last.regf.read last.decoded.rs2) := by
  refine ⟨h.isDone_iff rfl, fun hdone hwf => ?_, ?_⟩
  · obtain ⟨s', hstep⟩ := exists_step hwf
    exact ⟨_, h.iterate 0 0 hdone hstep⟩
  · rintro pre last n rfl hhalts
    obtain ⟨hecall, hstore⟩ := h.tohost_eq
    rw [tick_iterate_tohost]
    rcases hhalts with ⟨htgt, haddr⟩ | ⟨htgt, hexit⟩
    · exact ⟨fun htgt' => absurd (htgt.symm.trans htgt') (by decide),
        fun hopt _ => hstore htgt hopt haddr⟩
    · exact ⟨fun _ => hecall htgt hexit,
        fun _ htgt' => absurd (htgt.symm.trans htgt') (by decide)⟩

/-! ## Any sequence of calls -/

omit [Platform] in
/-- The calls that change the state: the two of `main`, and an increment of the timer thread. -/
inductive Call
  | step | commit | tick
  deriving DecidableEq, Repr

/-- The effect of a call. -/
def Call.apply : Call → Model → Except Error Model
  | .step, s => s.step
  | .commit, s => .ok s.commit
  | .tick, s => .ok s.tick

/-- The sequences of calls from `s`, each with the state that it leaves. -/
inductive Calls : Model → List (Call × Model) → Prop
  | nil (s : Model) : Calls s []
  | cons {s s' : Model} {c : Call} {l : List (Call × Model)} (hcall : c.apply s = .ok s')
    (h : Calls s' l) : Calls s ((c, s') :: l)

/-- No call of `step` in the sequence executes a store to another address than `tohost`. -/
def NoStoreElsewhere : Model → List (Call × Model) → Prop
  | _, [] => True
  | s, (c, s') :: l => (c = .step → ¬ s.StoresElsewhere) ∧ NoStoreElsewhere s' l

/-- The flag, once set, stays set over one call unless that is a store elsewhere. -/
theorem isDone_apply_iff {s s' : Model} {c : Call} (hdone : s.isDone = true)
    (h : c.apply s = .ok s') : s'.isDone = true ↔ (c = .step → ¬ s.StoresElsewhere) := by
  cases c with
  | step =>
    -- no instruction both halts and stores elsewhere
    have hexcl : s.Halts → ¬ s.StoresElsewhere := by
      rintro (⟨-, haddr⟩ | ⟨hecall, -⟩) ⟨hstore, hne⟩
      · exact hne haddr
      · exact absurd (hstore.symm.trans hecall) (by decide)
    rw [isDone_step_iff h, hdone]
    simp only [true_and, forall_const]
    exact ⟨fun h => h.elim hexcl id, Or.inr⟩
  | commit =>
    obtain rfl := Except.ok.inj h
    simp [hdone]
  | tick =>
    obtain rfl := Except.ok.inj h
    exact ⟨fun _ h => absurd h (by decide), fun _ => hdone⟩

/-- **When halting is permanent**: after `done` has returned true it returns true after every later
call, exactly when none of these executes a store to another address than `tohost`. -/
theorem Calls.halted_iff {s : Model} {l : List (Call × Model)} (hdone : s.isDone = true)
    (h : Calls s l) : (∀ p ∈ l, p.2.isDone = true) ↔ NoStoreElsewhere s l := by
  induction h with
  | nil s => exact ⟨fun _ => trivial, fun _ p hp => absurd hp List.not_mem_nil⟩
  | cons hcall h ih =>
    -- the flag after the first call is the hypothesis for the rest
    rw [List.forall_mem_cons, NoStoreElsewhere, ← isDone_apply_iff hdone hcall]
    exact and_congr_right fun hdone' => ih hdone'

end Halt

/-- `sw x0, a(x0)`. -/
def storeTo (a : BitVec 32) : Op :=
  { imm := a, opt := .store .sw, tgt := .store, rd := 0, rs1 := 0, rs2 := 0, hasImm := true,
    usePc := false, isCompressed := false }

theorem wellFormed_storeTo (a : BitVec 32) : (storeTo a).WellFormed := .store .sw rfl rfl rfl

/-- The loop of a program that stores to `tohost` stops after one instruction. -/
theorem loop_exit_storeTo :
    let _ : Platform := Platform.always (storeTo 0x100)
    ∃ s, Loop (single (storeTo 0x100)) [single (storeTo 0x100)] s ∧ s.isDone = true ∧
      s.tohost = 0 := by
  intro _
  have hdec : (single (storeTo 0x100)).decoded = storeTo 0x100 := decoded_always _ _
  have hhalts : (single (storeTo 0x100)).Halts := by
    refine Or.inl ⟨congrArg Op.tgt hdec, ?_⟩
    rw [accessAddr, hdec]
    rfl
  obtain ⟨s', hstep⟩ := exists_step (hdec.symm ▸ wellFormed_storeTo 0x100)
  have hloop : Loop (single (storeTo 0x100)) [single (storeTo 0x100)] s'.commit :=
    .iterate 0 0 .start rfl hstep
  obtain ⟨hdone, -, htohost⟩ := Loop.exit hloop
  have hcode : s'.commit.tohost = (single (storeTo 0x100)).regf.read
      (single (storeTo 0x100)).decoded.rs2 :=
    (htohost [] (single (storeTo 0x100)) 0 rfl hhalts).2 (congrArg Op.opt hdec)
      (congrArg Op.tgt hdec)
  have hzero : (single (storeTo 0x100)).regf.read (single (storeTo 0x100)).decoded.rs2 = 0 := by
    rw [hdec]
    exact RegFile.read_zero _
  exact ⟨_, hloop, hdone.mpr ⟨[], _, rfl, hhalts, fun t ht => absurd ht List.not_mem_nil⟩,
    hcode.trans hzero⟩

/-- A program that stores to `tohost` again and again stays halted. -/
theorem calls_isDone_storeTo :
    let _ : Platform := Platform.always (storeTo 0x100)
    ∃ s s', Reachable (single (storeTo 0x100)) .stepped s ∧ s.isDone = true ∧
      s.step = .ok s' ∧ s'.isDone = true := by
  intro _
  have hdec : ∀ s : Model, s.decoded = storeTo 0x100 := decoded_always _
  have hwf : ∀ s : Model, s.decoded.WellFormed := fun s => (hdec s).symm ▸ wellFormed_storeTo 0x100
  have haddr : ∀ s : Model, s.accessAddr = 0x100 := by
    intro s
    rw [accessAddr, hdec]
    exact congrArg (· + 0x100) s.regf.read_zero
  obtain ⟨s, hstep⟩ := exists_step (hwf (single (storeTo 0x100)))
  obtain ⟨s', hstep'⟩ := exists_step (hwf s)
  have hdone : s.isDone = true :=
    (isDone_step_of_store hstep (congrArg Op.tgt (hdec _))).mpr (haddr _)
  have htohost : s.tohostAddr = 0x100 := (Reachable.sameConfig (.step .init hstep)).2.1
  have hcalls : Calls s [(.step, s')] := .cons hstep' (.nil s')
  have hnone : NoStoreElsewhere s [(.step, s')] :=
    ⟨fun _ h => h.2 ((haddr s).trans htohost.symm), trivial⟩
  exact ⟨s, s', .step .init hstep, hdone, hstep',
    (hcalls.halted_iff hdone).mpr hnone (.step, s') (List.mem_singleton_self _)⟩

/-- The platform whose decoder reads the word 0 as a store to 0x100, and every other word as a
store to 0x40. -/
@[reducible] def twoStores : Platform :=
  Platform.ofDecoder (fun _ => storeTo 0x40) fun x => storeTo (if x = 0 then 0x100 else 0x40)

/-- A program of a store to `tohost`, at the end of a page of zeros, and of another store. -/
def storingTwice : Model :=
  @Model.init twoStores ⟨0, 0, false⟩ 0xFFC [(0, 0xFFFFFFFF)] 0x100 overdue

section StoringTwice

variable [Platform] {s s' : Model}

theorem pc_commit_of_store (h : s.step = .ok s') (htgt : s.decoded.tgt = .store)
    (hvalid : s.isValidPc) (hmti : s.opts.mtiEnabled = false) :
    s'.commit.pc = s.pc + s.decoded.length := by
  have hopts : s'.opts = s.opts := (Reachable.sameConfig (.step .init h)).1
  rw [pc_commit_of_not_takesTimer (not_takesTimer_of_mtiEnabled (hopts ▸ hmti))]
  obtain ⟨w, mem, -, -, rfl⟩ := exists_of_step_store h htgt
  change s.entered.pcNext = s.pc + s.decoded.length
  rw [entered, if_pos hvalid]
  rfl

/-- A store leaves the words it does not reach. -/
theorem read32_commit_of_store (h : s.step = .ok s') (htgt : s.decoded.tgt = .store)
    (a : BitVec 32) (hfar : ∀ i < 4, ¬ (a + BitVec.ofNat 32 i - s.accessAddr).toNat < 4) :
    s'.commit.mem.read32 a = s.mem.read32 a := by
  rw [commit_mem]
  change s'.mem.page.read32 a = s.mem.page.read32 a
  rw [SparseMemory.read32_eq_load, SparseMemory.read32_eq_load, LittleEndian.load_eq_load_iff]
  intro i hi
  by_contra hne
  rcases (step_frame h).pageByte _ hne with ⟨-, w, -, hlt⟩ | ⟨hecall, -⟩
  · have hbytes : (storeWidth w).bytes ≤ 4 := by cases w <;> simp [storeWidth, Width.bytes]
    exact hfar i hi (Nat.lt_of_lt_of_le hlt hbytes)
  · exact absurd (htgt.symm.trans hecall) (by decide)

end StoringTwice

/-- The store after the one that halts clears the flag. -/
theorem not_isDone_storingTwice :
    let _ : Platform := twoStores
    ∃ s s', Reachable storingTwice .ready s ∧ s.isDone = true ∧ s.step = .ok s' ∧
      s'.isDone = false := by
  intro _
  have haddr : ∀ (s : Model) (a : BitVec 32), s.decoded = storeTo a → s.accessAddr = a := by
    intro s a hdec
    rw [accessAddr, hdec]
    exact (congrArg (· + a) s.regf.read_zero).trans (BitVec.zero_add a)
  have hdec : storingTwice.decoded = storeTo 0x100 := by
    have hword : storingTwice.mem.read32 storingTwice.pc = 0 := by
      change overdue.page.read32 0xFFC = 0
      simp only [SparseMemory.read32, SparseMemory.read16, read8_overdue]
      decide
    rw [decoded, hword]
    rfl
  have htgt : storingTwice.decoded.tgt = .store := congrArg Op.tgt hdec
  obtain ⟨s, hstep⟩ := exists_step (hdec.symm ▸ wellFormed_storeTo 0x100)
  have hreach : Reachable storingTwice .ready s.commit := .commit (.step .init hstep)
  have hdone : s.commit.isDone = true := by
    rw [commit_isDone, isDone_step_of_store hstep htgt, haddr _ _ hdec]
    rfl
  -- the next instruction is at 0x1000, which the first store has not touched
  have hdec' : s.commit.decoded = storeTo 0x40 := by
    have hpc : s.commit.pc = 0x1000 := by
      rw [pc_commit_of_store hstep htgt (isValidPc_of_allowedPcs_eq rfl) rfl, hdec]
      rfl
    have hfar : ∀ i < 4, ¬ (0x1000 + BitVec.ofNat 32 i - storingTwice.accessAddr).toNat < 4 := by
      rw [haddr _ _ hdec]
      decide
    have hword : s.commit.mem.read32 s.commit.pc = 0x01010101 := by
      rw [hpc, read32_commit_of_store hstep htgt _ hfar]
      change overdue.page.read32 0x1000 = _
      simp only [SparseMemory.read32, SparseMemory.read16, read8_overdue]
      decide
    rw [decoded, hword]
    rfl
  obtain ⟨s', hstep'⟩ := exists_step (hdec'.symm ▸ wellFormed_storeTo 0x40)
  refine ⟨s.commit, s', hreach, hdone, hstep', ?_⟩
  rw [← Bool.not_eq_true, isDone_step_of_store hstep' (congrArg Op.tgt hdec'), haddr _ _ hdec',
    hreach.sameConfig.2.1]
  decide

end Model

end Riscv32Sim
