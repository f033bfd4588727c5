import Mathlib.Data.List.Basic
import Mathlib.Logic.Function.Basic

/-!
# Logs of changes

A log records the writes to an array. A record has a place, and the values before and after the
write. The places of the records and the indices of the array may be numbers of different types;
`key` sends an index to the place that names it.

## Main definitions

* `store key k v x`: the array `x` with `v` at the place `k`
* `replay key loc val l x`: the array after storing `val c` at the place of each record, in order
* `undo key loc prev l x`: the same from the last record to the first

## Main results

* `store_eq_iff`: when a store turns one array into another
* `replay_append`, `undo_append`: the log of two runs, one after the other
-/

namespace ChangeLog

variable {ι κ α γ : Type*} [DecidableEq κ]

/-- The array with `v` at the place `k`. -/
def store (key : ι → κ) (k : κ) (v : α) (x : ι → α) : ι → α :=
  fun i => if key i = k then v else x i

/-- A store turns `x` into `y` exactly when `y` has the value at its place, and differs from `x`
nowhere else. -/
theorem store_eq_iff {key : ι → κ} (hkey : Function.Injective key) (j : ι) (v : α) (x y : ι → α) :
    store key (key j) v x = y ↔ y j = v ∧ ∀ i, i ≠ j → y i = x i := by
  constructor
  · rintro rfl
    exact ⟨if_pos rfl, fun i hi => if_neg fun h => hi (hkey h)⟩
  · rintro ⟨hself, hother⟩
    funext i
    unfold store
    split_ifs with hi
    · rw [hkey hi, hself]
    · exact (hother i fun h => hi (congrArg key h)).symm

variable (key : ι → κ) (loc : γ → κ) (val : γ → α)

/-- The array after storing the value of each record at its place, from the first record to the
last. -/
def replay (l : List γ) (x : ι → α) : ι → α :=
  l.foldl (fun y c => store key (loc c) (val c) y) x

/-- The array after storing the value of each record at its place, from the last record to the
first. -/
def undo (l : List γ) (x : ι → α) : ι → α := replay key loc val l.reverse x

@[simp] theorem replay_nil (x : ι → α) : replay key loc val [] x = x := rfl

@[simp] theorem replay_singleton (c : γ) (x : ι → α) :
    replay key loc val [c] x = store key (loc c) (val c) x := rfl

theorem replay_append (l m : List γ) (x : ι → α) :
    replay key loc val (l ++ m) x = replay key loc val m (replay key loc val l x) :=
  List.foldl_append

@[simp] theorem undo_nil (x : ι → α) : undo key loc val [] x = x := rfl

@[simp] theorem undo_singleton (c : γ) (x : ι → α) :
    undo key loc val [c] x = store key (loc c) (val c) x := rfl

theorem undo_append (l m : List γ) (x : ι → α) :
    undo key loc val (l ++ m) x = undo key loc val l (undo key loc val m x) := by
  rw [undo, List.reverse_append, replay_append]
  rfl

end ChangeLog
