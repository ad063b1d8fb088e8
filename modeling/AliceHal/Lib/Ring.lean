import Mathlib

/-!
# Records in a Circular Array

`size` records stored from index `start` on in an array of `cap` cells, wrapping around at its end.

- `ring`: the records, the oldest one first
- `ring_add`: more records, where those before them end
- `ring_cons`: the oldest record
- `mod_ne_mod`: different cells in less than one revolution
-/

namespace Lib

variable {α : Type*} {cap : ℕ}

/-- The records, the oldest one first. -/
def ring (data : ℕ → α) (cap start size : ℕ) : List α :=
  (List.range size).map fun i => data ((start + i) % cap)

variable {data data' : ℕ → α} {start size : ℕ}

@[simp]
theorem ring_zero : ring data cap start 0 = [] := rfl

@[simp]
theorem length_ring : (ring data cap start size).length = size := by
  simp [ring]

/-- Only the cells of the records count. -/
theorem ring_congr (h : ∀ i < size, data ((start + i) % cap) = data' ((start + i) % cap)) :
    ring data cap start size = ring data' cap start size := by
  refine List.map_congr_left fun i hi => ?_
  exact h i (List.mem_range.1 hi)

theorem ring_mod : ring data cap (start % cap) size = ring data cap start size := by
  refine List.map_congr_left fun i _ => ?_
  rw [Nat.mod_add_mod]

theorem ring_add (k : ℕ) :
    ring data cap start (size + k) = ring data cap start size ++ ring data cap (start + size) k := by
  simp only [ring, List.range_add, List.map_append, List.map_map]
  congr 1
  refine List.map_congr_left fun i _ => ?_
  rw [Function.comp_apply, Nat.add_assoc]

theorem ring_cons :
    ring data cap start (size + 1) = data (start % cap) :: ring data cap ((start + 1) % cap) size := by
  rw [ring_mod, Nat.add_comm size 1, ring_add]
  rfl

/-- Different cells in less than one revolution. -/
theorem mod_ne_mod {a b : ℕ} (hlt : a < b) (hrev : b < a + cap) : a % cap ≠ b % cap := by
  intro h
  have hzero : (b - a) % cap = 0 := Nat.sub_mod_eq_zero_of_mod_eq h.symm
  have hsmall : (b - a) % cap = b - a := Nat.mod_eq_of_lt (by omega)
  omega

end Lib
