import Mathlib.Data.List.Basic
import Mathlib.Order.Basic

/-!
# Interleavings of concurrent programs

A concurrent program takes labelled steps, and a run is a sequence of steps in any order that the
program allows. What every step keeps holds after every run, and a rank that the steps of a kind
decrease bounds how many of them there are.

## Main definitions

* `Run act s as s'`: the program gets from `s` to `s'` with the actions `as`

## Main results

* `Run.invariant`: a property kept by every step holds after every run
* `Run.countP_add_le`: a rank bounds the number of steps of a kind
-/

namespace Interleaving

variable {σ α : Type*} {act : σ → α → Option σ}

/-- The runs of a program, with their actions. -/
inductive Run (act : σ → α → Option σ) : σ → List α → σ → Prop
  | nil (s : σ) : Run act s [] s
  | cons {a : α} {as : List α} {s s' s'' : σ} (hact : act s a = some s') (h : Run act s' as s'') :
    Run act s (a :: as) s''

theorem Run.append {s s' s'' : σ} {as bs : List α} (h : Run act s as s') (h' : Run act s' bs s'') :
    Run act s (as ++ bs) s'' := by
  induction h with
  | nil => exact h'
  | cons hact _ ih => exact .cons hact (ih h')

/-- A property kept by every step holds after every run. -/
theorem Run.invariant {P : σ → Prop} {s s' : σ} {as : List α} (h : Run act s as s')
    (hP : ∀ {s a s'}, P s → act s a = some s' → P s') (hs : P s) : P s' := by
  induction h with
  | nil => exact hs
  | cons hact _ ih => exact ih (hP hs hact)

/-- A rank that no step increases, and that every step of the kind `A` decreases, bounds the number
of steps of this kind. -/
theorem Run.countP_add_le {P : σ → Prop} (A : α → Bool) (rank : σ → ℕ) {s s' : σ} {as : List α}
    (h : Run act s as s') (hP : ∀ {s a s'}, P s → act s a = some s' → P s')
    (hrank : ∀ {s a s'}, P s → act s a = some s' → rank s' + (A a).toNat ≤ rank s) (hs : P s) :
    as.countP A + rank s' ≤ rank s := by
  induction h with
  | nil => simp
  | @cons a as s s' s'' hact _ ih =>
    have hone := hrank hs hact
    have hmany := ih (hP hs hact)
    rw [List.countP_cons]
    cases hA : A a with
    | true =>
      rw [hA, Bool.toNat_true] at hone
      rw [if_pos rfl]
      omega
    | false =>
      rw [hA, Bool.toNat_false] at hone
      rw [if_neg Bool.false_ne_true]
      omega

end Interleaving
