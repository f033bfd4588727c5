import Riscv32Sim.Common

/-!
# The register file

The register file carries the invariant that register 0 is 0: no constructor and no write can
build one in which it is not.

## Main definitions

* `RegFile`: the 32 registers
* `RegFile.read`, `RegFile.write`, `RegFile.change`: the accessors, and the record of a write

## Main results

* `RegFile.read_zero`: register 0 reads 0
* `RegFile.read_write`: a write changes the register it names, unless that is register 0
-/

namespace Riscv32Sim

/-- `class reg_file`. -/
@[ext] structure RegFile where
  x : RegIndex → BitVec 32
  x_zero : x 0 = 0

namespace RegFile

/-- `file_type x{}`. -/
def init : RegFile := ⟨fun _ => 0, rfl⟩

/-- `reg_file::read`. -/
def read (f : RegFile) (index : RegIndex) : BitVec 32 := f.x index

/-- `reg_file::write`. -/
def write (f : RegFile) (index : RegIndex) (data : BitVec 32) : RegFile where
  x i := if i = index ∧ index ≠ 0 then data else f.x i
  x_zero := by
    rw [if_neg, f.x_zero]
    rintro ⟨rfl, h⟩
    exact h rfl

/-- The record that the staging overloads of `reg_file::write` append. -/
def change (f : RegFile) (index : RegIndex) (data : BitVec 32) : GprChange :=
  ⟨index.setWidth 8, f.read index, data⟩

@[simp] theorem read_zero (f : RegFile) : f.read 0 = 0 := f.x_zero

theorem read_write (f : RegFile) (index i : RegIndex) (data : BitVec 32) :
    (f.write index data).read i = if i = index ∧ index ≠ 0 then data else f.read i :=
  rfl

theorem read_write_of_ne (f : RegFile) {index i : RegIndex} (data : BitVec 32) (h : i ≠ index) :
    (f.write index data).read i = f.read i := by
  rw [read_write, if_neg fun h' => h h'.1]

/-- A write leaves the register file as it is exactly when it names register 0 or stores the
value that is already there. -/
theorem write_eq_self_iff (f : RegFile) (index : RegIndex) (data : BitVec 32) :
    f.write index data = f ↔ index = 0 ∨ f.read index = data := by
  constructor
  · intro h
    rcases eq_or_ne index 0 with h0 | h0
    · exact Or.inl h0
    · have hread : (f.write index data).read index = data := if_pos ⟨rfl, h0⟩
      rw [h] at hread
      exact Or.inr hread
  · intro h
    ext i : 2
    change (if i = index ∧ index ≠ 0 then data else f.x i) = f.x i
    split_ifs with hi
    · obtain ⟨rfl, hne⟩ := hi
      exact (h.resolve_left hne).symm
    · rfl

end RegFile

end Riscv32Sim
