import Mathlib

/-!
# Flat Memory

Memory from the start of an array on, as a function of the index. There is no end: what lies past
the array is memory too.

- `Memory.reads`: a comparison with constants, byte by byte
- `Memory.put`: stores of consecutive bytes
- `Memory.slice`: the first bytes, as a list
- `Memory.agrees`, `Memory.compared`: a comparison of single bytes that ends at the first
  difference, and the indices it reads
-/

namespace Lib

/-- The byte at each index. -/
abbrev Memory := ℕ → UInt8

namespace Memory

/-- The bytes from `i` on are these. -/
def reads (m : Memory) (i : ℕ) : List UInt8 → Bool
  | [] => true
  | b :: bs => m i == b && reads m (i + 1) bs

/-- Store bytes from `i` on. -/
def put (m : Memory) (i : ℕ) (bs : List UInt8) : Memory :=
  fun j => if i ≤ j ∧ j < i + bs.length then bs.getD (j - i) 0 else m j

/-- The first `n` bytes. -/
def slice (m : Memory) (n : ℕ) : List UInt8 := (List.range n).map m

/-- Single bytes, compared in this order up to the first one that differs. -/
def agrees (m : Memory) : List (ℕ × UInt8) → Bool
  | [] => true
  | (i, b) :: cs => m i == b && agrees m cs

/-- The indices that such a comparison reads. -/
def compared (m : Memory) : List (ℕ × UInt8) → List ℕ
  | [] => []
  | (i, b) :: cs => i :: if m i == b then compared m cs else []

/-- The comparison stays below `n`: each index is in range if all bytes before it agree. -/
def ComparedBelow (m : Memory) (n : ℕ) : List (ℕ × UInt8) → Prop
  | [] => True
  | (i, b) :: cs => i < n ∧ (m i = b → ComparedBelow m n cs)

variable {m m' : Memory} {i j n : ℕ} {bs : List UInt8}

theorem reads_eq_true : m.reads i bs = true ↔ ∀ k (h : k < bs.length), m (i + k) = bs.get ⟨k, h⟩ := by
  induction bs generalizing i with
  | nil => exact ⟨fun _ k h => absurd h (Nat.not_lt_zero k), fun _ => rfl⟩
  | cons b bs ih =>
    rw [reads, Bool.and_eq_true, beq_iff_eq, ih]
    constructor
    · rintro ⟨hb, hrest⟩ k hk
      cases k with
      | zero => exact hb
      | succ k =>
        have hnext := hrest k (Nat.lt_of_succ_lt_succ hk)
        rwa [Nat.add_right_comm] at hnext
    · intro h
      refine ⟨h 0 (Nat.succ_pos _), fun k hk => ?_⟩
      have hnext := h (k + 1) (Nat.succ_lt_succ hk)
      rwa [← Nat.add_assoc, Nat.add_right_comm] at hnext

/-- A comparison depends on the bytes compared only. -/
theorem reads_congr (h : ∀ k < bs.length, m (i + k) = m' (i + k)) :
    m.reads i bs = m'.reads i bs := by
  rw [Bool.eq_iff_iff, reads_eq_true, reads_eq_true]
  constructor
  · intro hm k hk
    rw [← h k hk]
    exact hm k hk
  · intro hm k hk
    rw [h k hk]
    exact hm k hk

theorem put_of_lt (h : j < i) : m.put i bs j = m j := by
  rw [put, if_neg fun hin => absurd hin.1 (Nat.not_le.2 h)]

theorem put_of_le (h : i + bs.length ≤ j) : m.put i bs j = m j := by
  rw [put, if_neg fun hin => absurd hin.2 (Nat.not_lt.2 h)]

theorem put_add (h : j < bs.length) : m.put i bs (i + j) = bs.getD j 0 := by
  rw [put, if_pos ⟨Nat.le_add_right i j, Nat.add_lt_add_left h i⟩, Nat.add_sub_cancel_left]

theorem slice_congr (h : ∀ j < n, m j = m' j) : m.slice n = m'.slice n :=
  List.map_congr_left fun j hj => h j (List.mem_range.1 hj)

theorem slice_length : (m.slice n).length = n := by
  rw [slice, List.length_map, List.length_range]

theorem forall_compared {cs : List (ℕ × UInt8)} :
    (∀ i ∈ m.compared cs, i < n) ↔ m.ComparedBelow n cs := by
  induction cs with
  | nil => simp [compared, ComparedBelow]
  | cons c cs ih =>
    obtain ⟨i, b⟩ := c
    rw [compared, ComparedBelow, List.forall_mem_cons, ← ih]
    by_cases hb : m i = b
    · simp [hb]
    · simp [hb]

/-! ## Stores over bytes that are known -/

theorem reads_append {as : List UInt8} : m.reads i (as ++ bs) = true ↔
    m.reads i as = true ∧ m.reads (i + as.length) bs = true := by
  induction as generalizing i with
  | nil => simp [reads]
  | cons a as ih =>
    rw [List.cons_append, reads, reads, Bool.and_eq_true, Bool.and_eq_true, ih,
      and_assoc, List.length_cons, Nat.add_assoc, Nat.add_comm 1]

theorem put_append {as : List UInt8} :
    m.put i (as ++ bs) = (m.put i as).put (i + as.length) bs := by
  have hlength : (as ++ bs).length = as.length + bs.length := List.length_append
  funext j
  rcases Nat.lt_or_ge j (i + as.length) with hlt | hge
  · rw [put_of_lt hlt]
    by_cases hi : i ≤ j
    · obtain ⟨k, rfl⟩ := Nat.exists_eq_add_of_le hi
      have hk : k < as.length := by omega
      rw [put_add hk, put_add (by omega), List.getD_append _ _ _ _ hk]
    · rw [put_of_lt (not_le.1 hi), put_of_lt (not_le.1 hi)]
  · obtain ⟨k, rfl⟩ := Nat.exists_eq_add_of_le hge
    by_cases hk : k < bs.length
    · rw [put_add hk, Nat.add_assoc, put_add (by omega),
        List.getD_append_right _ _ _ _ (Nat.le_add_right _ _), Nat.add_sub_cancel_left]
    · have hpast : i + (as ++ bs).length ≤ i + as.length + k := by omega
      rw [put_of_le hpast, put_of_le (by omega), put_of_le hge]

/-- Storing what is there changes nothing. -/
theorem put_of_reads (h : m.reads i bs = true) : m.put i bs = m := by
  funext j
  by_cases hin : i ≤ j ∧ j < i + bs.length
  · obtain ⟨k, rfl⟩ := Nat.exists_eq_add_of_le hin.1
    have hk : k < bs.length := by omega
    rw [put_add hk, reads_eq_true.1 h k hk]
    exact List.getD_eq_getElem _ _ hk
  · exact if_neg hin

theorem reads_put_of_le {as : List UInt8} {j : ℕ} (h : i + as.length ≤ j) :
    (m.put i as).reads j bs = m.reads j bs :=
  reads_congr fun k _ => put_of_le (by omega)

/-- The same store over the same byte. -/
theorem put_apply_congr (h : m j = m' j) (bs : List UInt8) : m.put i bs j = m'.put i bs j := by
  unfold put
  split
  · rfl
  · exact h

theorem put_zero_apply (m : Memory) (bs : List UInt8) (hj : j < bs.length) :
    m.put 0 bs j = bs.getD j 0 := by
  have h := put_add (m := m) (i := 0) hj
  rwa [Nat.zero_add] at h

/-- A comparison within the bytes stored. -/
theorem reads_put_zero_iff {data : List UInt8} (h : i + bs.length ≤ data.length) :
    (m.put 0 data).reads i bs = true ↔ bs <+: data.drop i := by
  rw [reads_eq_true, List.prefix_iff_getElem?]
  apply forall₂_congr
  intro k hk
  have hdata : i + k < data.length := by omega
  rw [put_zero_apply m data hdata, List.getElem?_drop]
  simp [hdata]

end Memory

end Lib
