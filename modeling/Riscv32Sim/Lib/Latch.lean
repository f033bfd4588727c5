import Mathlib.Data.List.Basic

/-!
# Set-reset latches

A latch is one bit that some events set and others reset; an event that does both resets it. After
a list of events the latch is on when an event has set it and no later one has reset it, or when
it was on before and nothing has reset it.

## Main definitions

* `Latch.next`, `Latch.run`: the latch after an event, and after a list of events
* `Latch.Held`: an event has set the latch, and no later one has reset it

## Main results

* `Latch.run_eq_true_iff`: the latch after a list of events
-/

namespace Latch

variable {α : Type*} (set reset : α → Prop)

/-- An event has set the latch, and no later one has reset it. -/
def Held (l : List α) : Prop :=
  ∃ l₁ a l₂, l = l₁ ++ a :: l₂ ∧ set a ∧ ¬ reset a ∧ ∀ b ∈ l₂, ¬ reset b

theorem not_held_nil : ¬ Held set reset ([] : List α) := by
  rintro ⟨l₁, a, l₂, h, -⟩
  simp at h

theorem held_cons (a : α) (l : List α) :
    Held set reset (a :: l) ↔
      (set a ∧ ¬ reset a ∧ ∀ b ∈ l, ¬ reset b) ∨ Held set reset l := by
  constructor
  · rintro ⟨l₁, a', l₂, h, hset⟩
    -- the event is the first one, or one of the others
    cases l₁ with
    | nil =>
      obtain ⟨rfl, rfl⟩ := List.cons.inj h
      exact Or.inl hset
    | cons b l₁ =>
      obtain ⟨-, rfl⟩ := List.cons.inj h
      exact Or.inr ⟨l₁, a', l₂, rfl, hset⟩
  · rintro (hset | ⟨l₁, a', l₂, rfl, hset⟩)
    · exact ⟨[], a, l, rfl, hset⟩
    · exact ⟨a :: l₁, a', l₂, rfl, hset⟩

variable [DecidablePred set] [DecidablePred reset]

/-- The latch after an event. -/
def next (b : Bool) (a : α) : Bool := if reset a then false else if set a then true else b

/-- The latch after a list of events. -/
def run (b : Bool) (l : List α) : Bool := l.foldl (next set reset) b

theorem next_eq_true_iff (b : Bool) (a : α) :
    next set reset b a = true ↔ ¬ reset a ∧ (set a ∨ b = true) := by
  unfold next
  split_ifs with hreset hset
  · simp [hreset]
  · simp [hreset, hset]
  · simp [hreset, hset]

/-- **The latch after a list of events.** -/
theorem run_eq_true_iff (b : Bool) (l : List α) :
    run set reset b l = true ↔ Held set reset l ∨ b = true ∧ ∀ a ∈ l, ¬ reset a := by
  induction l generalizing b with
  | nil => simp [run, not_held_nil]
  | cons a l ih =>
    have hrun : run set reset b (a :: l) = run set reset (next set reset b a) l := rfl
    rw [hrun, ih, held_cons, next_eq_true_iff, List.forall_mem_cons]
    tauto

end Latch
