import Mathlib.Data.List.Sort
import Mathlib.Data.List.Forall2
import Mathlib.Order.Compare

/-!
# Stable Sorting by a Comparison That Can Fail

Insertion by a comparison function with three outcomes. The sort only asks whether one element is
smaller than another, leaves ties in their order, and fails when one of its comparisons fails.

- `sortBy`: the sort
- `TotalPreorderOn`: the comparison is a total preorder on a list
- `ComparesBy`: the comparison is one of keys from an ordered type
- `sortBy_perm`: the sorted list depends on the order of its input up to ties
- `sortBy_of_ascending`: a sorted list is left as it is
-/

namespace Lib

variable {α κ : Type} {cmp : α → α → Option Ordering} {a b : α} {l l' r : List α}

/-- An element is put before the first one that is not smaller. -/
def insertBy (cmp : α → α → Option Ordering) (a : α) : List α → Option (List α)
  | [] => some [a]
  | b :: l => do
    let o ← cmp b a
    if o = .lt then
      let l' ← insertBy cmp a l
      some (b :: l')
    else some (a :: b :: l)

/-- Stable sorting. -/
def sortBy (cmp : α → α → Option Ordering) : List α → Option (List α)
  | [] => some []
  | a :: l => do
    let l' ← sortBy cmp l
    insertBy cmp a l'

/-! ## Orders on a list -/

/-- On the elements of the list no comparison fails, every element ties with itself, the other way
round the outcome is the opposite one, and the order is transitive. -/
structure TotalPreorderOn (cmp : α → α → Option Ordering) (l : List α) : Prop where
  defined : ∀ a ∈ l, ∀ b ∈ l, (cmp a b).isSome
  refl : ∀ a ∈ l, cmp a a = some .eq
  swap : ∀ a ∈ l, ∀ b ∈ l, cmp b a = (cmp a b).map Ordering.swap
  trans : ∀ a ∈ l, ∀ b ∈ l, ∀ c ∈ l, cmp a b ≠ some .gt → cmp b c ≠ some .gt → cmp a c ≠ some .gt

/-- The comparison of elements of the list is the one of their keys. -/
def ComparesBy [Ord κ] (cmp : α → α → Option Ordering) (key : α → κ) (l : List α) : Prop :=
  ∀ a ∈ l, ∀ b ∈ l, cmp a b = some (compare (key a) (key b))

/-- The adjacent elements of the list are in order. -/
def Ascending (cmp : α → α → Option Ordering) (l : List α) : Prop :=
  l.IsChain fun a b => ∃ o, cmp b a = some o ∧ o ≠ .lt

/-- A sorted list is left as it is: only its adjacent elements are compared. -/
theorem sortBy_of_ascending (h : Ascending cmp l) : sortBy cmp l = some l := by
  unfold Ascending at h
  induction l with
  | nil => rfl
  | cons a l ih =>
    rw [sortBy, ih h.of_cons]
    cases l with
    | nil => rfl
    | cons b l =>
      obtain ⟨o, ho, hne⟩ := h.rel
      change insertBy cmp a (b :: l) = _
      simp [insertBy, ho, hne]

section

variable [Ord κ] {key : α → κ}

theorem ComparesBy.of_cons (h : ComparesBy cmp key (a :: l)) : ComparesBy cmp key l :=
  fun b hb c hc => h b (List.mem_cons_of_mem a hb) c (List.mem_cons_of_mem a hc)

theorem ComparesBy.of_subset (h : ComparesBy cmp key l) (hsub : l' ⊆ l) :
    ComparesBy cmp key l' :=
  fun b hb c hc => h b (hsub hb) c (hsub hc)

/-- The order of the keys. -/
def keyLe (key : α → κ) (a b : α) : Prop := (compare (key a) (key b)).isLE

instance : DecidableRel (keyLe key) := fun _ _ => inferInstanceAs (Decidable (_ = true))

variable [Std.TransOrd κ]

/-- Comparing keys is a total preorder. -/
theorem ComparesBy.totalPreorderOn (h : ComparesBy cmp key l) : TotalPreorderOn cmp l := by
  constructor
  · intro a ha b hb
    rw [h a ha b hb, Option.isSome_some]
  · intro a ha
    rw [h a ha a ha, Std.compare_self]
  · intro a ha b hb
    rw [h a ha b hb, h b hb a ha, Option.map_some, Std.OrientedOrd.eq_swap]
  · intro a ha b hb c hc hab hbc
    rw [h a ha b hb] at hab
    rw [h b hb c hc] at hbc
    rw [h a ha c hc]
    simp only [ne_eq, Option.some.injEq, ← Ordering.isLE_iff_ne_gt] at hab hbc ⊢
    exact Std.TransCmp.isLE_trans hab hbc

instance : Std.Total (keyLe key) where
  total a b := by
    unfold keyLe
    rw [Std.OrientedOrd.eq_swap (a := key b)]
    cases compare (key a) (key b) <;> simp

instance : IsTrans α (keyLe key) where
  trans _ _ _ := Std.TransCmp.isLE_trans

/-- `b` is smaller than `a` when the keys are not in order the other way round. -/
theorem compare_eq_lt_iff : compare (key b) (key a) = .lt ↔ ¬keyLe key a b := by
  unfold keyLe
  rw [Std.OrientedOrd.eq_swap (a := key b)]
  cases compare (key a) (key b) <;> simp

theorem insertBy_of_comparesBy (h : ComparesBy cmp key (a :: l)) :
    insertBy cmp a l = some (l.orderedInsert (keyLe key) a) := by
  induction l with
  | nil => rfl
  | cons b l ih =>
    have hba := h b (by simp) a (by simp)
    have hrest : ComparesBy cmp key (a :: l) := h.of_subset (by simp)
    rw [insertBy, hba, List.orderedInsert]
    by_cases hle : keyLe key a b
    · simp [compare_eq_lt_iff, hle]
    · simp [compare_eq_lt_iff, hle, ih hrest]

/-- Sorting by a comparison of keys is sorting by the order of the keys. -/
theorem sortBy_of_comparesBy (h : ComparesBy cmp key l) :
    sortBy cmp l = some (l.insertionSort (keyLe key)) := by
  induction l with
  | nil => rfl
  | cons a l ih =>
    rw [sortBy, ih h.of_cons]
    apply insertBy_of_comparesBy
    apply h.of_subset
    intro b hb
    rw [List.mem_cons, List.mem_insertionSort] at hb
    exact List.mem_cons.2 hb

/-- What is sorted is in order. -/
theorem ascending_insertionSort (h : ComparesBy cmp key l) :
    Ascending cmp (l.insertionSort (keyLe key)) := by
  have hmem : ∀ b ∈ l.insertionSort (keyLe key), b ∈ l :=
    fun b hb => (List.mem_insertionSort (keyLe key)).1 hb
  have hsorted := List.pairwise_insertionSort (keyLe key) l
  apply List.Pairwise.isChain
  apply hsorted.imp_of_mem
  intro a b ha hb hle
  refine ⟨_, h b (hmem b hb) a (hmem a ha), fun hlt => ?_⟩
  exact compare_eq_lt_iff.1 hlt hle

/-- Lists with the same elements are sorted to the same list up to ties. -/
theorem sortBy_perm [Std.LawfulEqOrd κ] (h : ComparesBy cmp key l) (hperm : l'.Perm l) :
    ∃ r r', sortBy cmp l = some r ∧ sortBy cmp l' = some r' ∧
      List.Forall₂ (fun a b => cmp a b = some .eq) r r' := by
  have h' : ComparesBy cmp key l' := h.of_subset hperm.subset
  refine ⟨_, _, sortBy_of_comparesBy h, sortBy_of_comparesBy h', ?_⟩
  -- the keys of both lists are sorted, and they are the same ones
  have hkeys : (l.insertionSort (keyLe key)).map key = (l'.insertionSort (keyLe key)).map key := by
    have hsame : (l.insertionSort (keyLe key)).Perm (l'.insertionSort (keyLe key)) :=
      (List.perm_insertionSort _ l).trans (hperm.symm.trans (List.perm_insertionSort _ l').symm)
    have hantisymm : ∀ x y : κ, (compare x y).isLE → (compare y x).isLE → x = y := by
      intro x y hxy hyx
      apply Std.LawfulEqOrd.eq_of_compare
      exact Std.OrientedCmp.isLE_antisymm hxy hyx
    apply (hsame.map key).eq_of_pairwise fun x y _ _ => hantisymm x y
    · exact List.pairwise_map.2 (List.pairwise_insertionSort (keyLe key) l)
    · exact List.pairwise_map.2 (List.pairwise_insertionSort (keyLe key) l')
  have hties : List.Forall₂ (fun a b => key a = key b) (l.insertionSort (keyLe key))
      (l'.insertionSort (keyLe key)) := by
    rw [← List.forall₂_eq_eq_eq, List.forall₂_map_left_iff, List.forall₂_map_right_iff] at hkeys
    exact hkeys
  rw [List.forall₂_iff_zip] at hties ⊢
  refine ⟨hties.1, fun {a b} hab => ?_⟩
  obtain ⟨ha, hb⟩ := List.of_mem_zip hab
  rw [List.mem_insertionSort] at ha hb
  rw [h a ha b (hperm.subset hb), hties.2 hab, Std.compare_self]

end

end Lib
