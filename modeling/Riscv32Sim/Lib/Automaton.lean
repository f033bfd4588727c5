import Mathlib.Data.List.Basic
import Mathlib.Logic.Basic

/-!
# Automata with replies

A deterministic automaton answers each query from its state. Two automata related by a
bisimulation give the same replies to every sequence of queries, and a property kept by every
step holds after every sequence of queries.

## Main definitions

* `run step s xs`: the state after the queries `xs`, and the replies to them
* `IsBisim step step' R`: one step of each automaton keeps `R` and gives the same reply

## Main results

* `IsBisim.run`: bisimilar automata give the same replies
* `run_invariant`: a property kept by a step is kept by a run
* `run_rel`: a reflexive and transitive relation kept by a step holds across a run
-/

namespace Automaton

variable {σ τ ι ρ : Type*}

/-- The state after a sequence of queries, and the replies. -/
def run (step : σ → ι → σ × ρ) (s : σ) : List ι → σ × List ρ
  | [] => (s, [])
  | x :: xs => ((run step (step s x).1 xs).1, (step s x).2 :: (run step (step s x).1 xs).2)

/-- A bisimulation: one step of each automaton keeps `R` and gives the same reply. -/
def IsBisim (step : σ → ι → σ × ρ) (step' : τ → ι → τ × ρ) (R : σ → τ → Prop) : Prop :=
  ∀ s t x, R s t → R (step s x).1 (step' t x).1 ∧ (step s x).2 = (step' t x).2

variable {step : σ → ι → σ × ρ} {step' : τ → ι → τ × ρ}

theorem IsBisim.run {R : σ → τ → Prop} (hR : IsBisim step step' R) {s : σ} {t : τ} (h : R s t)
    (xs : List ι) :
    R (run step s xs).1 (run step' t xs).1 ∧ (run step s xs).2 = (run step' t xs).2 := by
  induction xs generalizing s t with
  | nil => exact ⟨h, rfl⟩
  | cons x xs ih =>
    obtain ⟨hnext, hreply⟩ := hR s t x h
    obtain ⟨hlast, hreplies⟩ := ih hnext
    exact ⟨hlast, congrArg₂ List.cons hreply hreplies⟩

/-- A property kept by every step holds after every run. -/
theorem run_invariant {P : σ → Prop} (hP : ∀ s x, P s → P (step s x).1) {s : σ} (h : P s)
    (xs : List ι) : P (run step s xs).1 := by
  induction xs generalizing s with
  | nil => exact h
  | cons x xs ih => exact ih (hP s x h)

/-- A reflexive and transitive relation between the states before and after each step holds
between the states before and after each run. -/
theorem run_rel {R : σ → σ → Prop} (hrefl : ∀ s, R s s) (htrans : ∀ s t u, R s t → R t u → R s u)
    (hR : ∀ s x, R s (step s x).1) (s : σ) (xs : List ι) : R s (run step s xs).1 := by
  induction xs generalizing s with
  | nil => exact hrefl s
  | cons x xs ih => exact htrans _ _ _ (hR s x) (ih _)

end Automaton
