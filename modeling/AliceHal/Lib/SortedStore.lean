import Mathlib

/-!
# Sorted Stores

A list kept sorted by a key, to which elements are added in front of those with the same key, and
a lookup that stops at the first greater key. The lookup finds the newest element.

- `insertNewest`: adding an element
- `lookup`: scanning for a key
- `lookup_insertAll`: after any number of additions the lookup gives the one made last
-/

namespace Lib

/-- Bytes in their unsigned order. -/
instance byteLinearOrder : LinearOrder UInt8 where
  le := (· ≤ ·)
  lt := (· < ·)
  le_refl := UInt8.le_refl
  le_trans _ _ _ := UInt8.le_trans
  lt_iff_le_not_ge a b := by
    rw [UInt8.le_iff_toNat_le, UInt8.le_iff_toNat_le, UInt8.lt_iff_toNat_lt]
    omega
  le_antisymm _ _ := UInt8.le_antisymm
  le_total := UInt8.le_total
  toDecidableLE := inferInstance
  toDecidableLT := inferInstance
  toDecidableEq := inferInstance

variable {α κ : Type*} [LinearOrder κ] (key : α → κ)

/-- Sorted by the key. -/
def SortedBy (l : List α) : Prop := l.Pairwise fun a b => key a ≤ key b

/-- The list with `a` added in front of the first element whose key is not smaller. -/
def insertNewest (a : α) (l : List α) : List α := l.orderedInsert (fun x y => key x ≤ key y) a

/-- All of `as` added, one after the other. -/
def insertAll (as l : List α) : List α := as.foldl (fun l a => insertNewest key a l) l

/-- Scan for a key, up to the first greater one. -/
def lookup (k : κ) : List α → Option α
  | [] => none
  | a :: l => if key a < k then lookup k l else if key a = k then some a else none

variable {key}

theorem SortedBy.insertNewest {l : List α} (h : SortedBy key l) (a : α) :
    SortedBy key (insertNewest key a l) := by
  have : Std.Total (fun x y : α => key x ≤ key y) := ⟨fun x y => le_total (key x) (key y)⟩
  have : IsTrans α (fun x y => key x ≤ key y) := ⟨fun _ _ _ => le_trans⟩
  exact List.Pairwise.orderedInsert a l h

theorem SortedBy.insertAll {as l : List α} (h : SortedBy key l) :
    SortedBy key (insertAll key as l) := by
  induction as generalizing l with
  | nil => exact h
  | cons a as ih => exact ih (h.insertNewest a)

theorem length_insertAll (as l : List α) :
    (insertAll key as l).length = as.length + l.length := by
  induction as generalizing l with
  | nil => exact (Nat.zero_add _).symm
  | cons a as ih =>
    have hstep : (insertNewest key a l).length = l.length + 1 := List.orderedInsert_length _ l a
    have hrest := ih (insertNewest key a l)
    rw [hstep] at hrest
    rw [List.length_cons, Nat.add_right_comm]
    exact hrest

theorem lookup_cons (a : α) (l : List α) (k : κ) :
    lookup key k (a :: l) =
      if key a < k then lookup key k l else if key a = k then some a else none := rfl

/-- In a sorted list nothing is found behind a greater key. -/
theorem lookup_eq_none {l : List α} {k : κ} (h : ∀ a ∈ l, k < key a) : lookup key k l = none := by
  cases l with
  | nil => rfl
  | cons a l =>
    have ha := h a List.mem_cons_self
    rw [lookup_cons, if_neg (not_lt_of_gt ha), if_neg (ne_of_gt ha)]

/-- An element in front of which nothing smaller stands. -/
theorem lookup_cons_of_le {l : List α} {a : α} (h : ∀ b ∈ l, key a ≤ key b) (k : κ) :
    lookup key k (a :: l) = if key a = k then some a else lookup key k l := by
  rw [lookup_cons]
  rcases lt_trichotomy (key a) k with hlt | heq | hgt
  · rw [if_pos hlt, if_neg (ne_of_lt hlt)]
  · rw [if_neg (by rw [heq]; exact lt_irrefl k), if_pos heq, if_pos heq]
  · -- the key looked for is smaller than everything in the list
    rw [if_neg (not_lt_of_gt hgt), if_neg (ne_of_gt hgt), if_neg (ne_of_gt hgt)]
    exact (lookup_eq_none fun b hb => lt_of_lt_of_le hgt (h b hb)).symm

/-- The lookup after one addition. -/
theorem lookup_insertNewest {l : List α} (h : SortedBy key l) (a : α) (k : κ) :
    lookup key k (insertNewest key a l) = if key a = k then some a else lookup key k l := by
  induction l with
  | nil => exact lookup_cons_of_le (fun b hb => absurd hb List.not_mem_nil) k
  | cons b l ih =>
    have htail : SortedBy key l := List.Pairwise.of_cons h
    rw [insertNewest, List.orderedInsert_cons]
    by_cases hab : key a ≤ key b
    · rw [if_pos hab]
      refine lookup_cons_of_le (fun c hc => ?_) k
      rcases List.mem_cons.1 hc with rfl | hc
      · exact hab
      · exact hab.trans (List.rel_of_pairwise_cons h hc)
    · rw [if_neg hab, lookup_cons, lookup_cons]
      have hba : key b < key a := not_le.1 hab
      by_cases hbk : key b < k
      · rw [if_pos hbk, if_pos hbk]
        exact ih htail
      · rw [if_neg hbk, if_neg hbk, if_neg fun hak : key a = k => hbk (hak ▸ hba)]

/-- The lookup after any number of additions finds the last one with the key. -/
theorem lookup_insertAll {as l : List α} (h : SortedBy key l) (k : κ) :
    lookup key k (insertAll key as l) =
      (as.reverse.find? fun a => key a = k).or (lookup key k l) := by
  induction as generalizing l with
  | nil => rfl
  | cons a as ih =>
    show lookup key k (insertAll key as (insertNewest key a l)) = _
    rw [ih (h.insertNewest a), lookup_insertNewest h, List.reverse_cons, List.find?_append,
      Option.or_assoc]
    congr 1
    by_cases hk : key a = k
    · rw [if_pos hk, List.find?_singleton, if_pos (decide_eq_true hk)]
      rfl
    · rw [if_neg hk, List.find?_singleton, if_neg (by simp [hk])]
      rfl

end Lib
