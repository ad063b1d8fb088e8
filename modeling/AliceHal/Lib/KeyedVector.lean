import Mathlib

/-!
# Keyed Vectors

A vector of pairs, ascending in the key and with at most one pair for a key. Adding a pair replaces
the one that has the same key.

- `KeyedVector`: the pairs with their order
- `KeyedVector.get?_add_self`, `KeyedVector.get?_add_of_ne`: what is looked up after an addition
- `KeyedVector.addAll_entries`: adding the pairs of a vector to an empty one gives it back
- `KeyedVector.forall_add`, `KeyedVector.forall_removeItem`: what holds of every pair
-/

namespace Lib

/-- Pairs in the order of their keys, no two with the same key. -/
@[ext]
structure KeyedVector (κ α : Type*) [LinearOrder κ] where
  entries : List (κ × α)
  ascending : entries.Pairwise fun a b => a.1 < b.1

namespace KeyedVector

variable {κ α : Type*} [LinearOrder κ]

/-! ## Operations -/

/-- The empty vector. -/
def empty : KeyedVector κ α := ⟨[], List.Pairwise.nil⟩

/-- A pair put at its place, or in the place of the pair with its key. -/
def insert (k : κ) (v : α) : List (κ × α) → List (κ × α)
  | [] => [(k, v)]
  | e :: l =>
    if k < e.1 then (k, v) :: e :: l
    else if k = e.1 then (k, v) :: l
    else e :: insert k v l

/-- The value that a key has. -/
def get? (m : KeyedVector κ α) (k : κ) : Option α := m.entries.lookup k

variable {k j : κ} {v : α} {l : List (κ × α)}

theorem mem_insert {e : κ × α} (h : e ∈ insert k v l) : e = (k, v) ∨ e ∈ l := by
  induction l with
  | nil =>
    simp only [insert, List.mem_singleton] at h
    exact Or.inl h
  | cons d l ih =>
    rw [insert] at h
    split at h
    · exact (List.mem_cons.1 h).imp_right id
    · split at h
      · -- the pair with this key is replaced
        exact (List.mem_cons.1 h).imp_right (List.mem_cons_of_mem d)
      · rcases List.mem_cons.1 h with rfl | h
        · exact Or.inr List.mem_cons_self
        · exact (ih h).imp_right (List.mem_cons_of_mem d)

theorem ascending_insert (h : l.Pairwise fun a b => a.1 < b.1) :
    (insert k v l).Pairwise fun a b => a.1 < b.1 := by
  induction l with
  | nil => exact List.pairwise_singleton _ _
  | cons e l ih =>
    have htail := List.Pairwise.of_cons h
    have hhead : ∀ d ∈ l, e.1 < d.1 := fun d => List.rel_of_pairwise_cons h
    rw [insert]
    split
    · rename_i hlt
      refine List.Pairwise.cons (fun d hd => ?_) h
      rcases List.mem_cons.1 hd with rfl | hd
      · exact hlt
      · exact hlt.trans (hhead d hd)
    · rename_i hge
      split
      · rename_i heq
        exact List.Pairwise.cons (fun d hd => heq.trans_lt (hhead d hd)) htail
      · rename_i hne
        have hlt : e.1 < k := lt_of_le_of_ne (not_lt.1 hge) (Ne.symm hne)
        refine List.Pairwise.cons (fun d hd => ?_) (ih htail)
        rcases mem_insert hd with rfl | hd
        · exact hlt
        · exact hhead d hd

/-- Add a pair. -/
def add (m : KeyedVector κ α) (k : κ) (v : α) : KeyedVector κ α :=
  ⟨insert k v m.entries, ascending_insert m.ascending⟩

/-- Remove the pair of a key. -/
def removeItem (m : KeyedVector κ α) (k : κ) : KeyedVector κ α :=
  ⟨m.entries.filter fun e => e.1 != k, m.ascending.filter _⟩

/-- Add several pairs, one after the other. -/
def addAll (m : KeyedVector κ α) (es : List (κ × α)) : KeyedVector κ α :=
  es.foldl (fun m e => m.add e.1 e.2) m

/-! ## Lookups -/

@[simp] theorem get?_empty (k : κ) : (empty : KeyedVector κ α).get? k = none := rfl

theorem lookup_insert_self (k : κ) (v : α) (l : List (κ × α)) :
    (insert k v l).lookup k = some v := by
  induction l with
  | nil => simp [insert]
  | cons e l ih =>
    obtain ⟨i, w⟩ := e
    simp only [insert]
    split
    · simp
    · split
      · simp
      · rename_i hne
        have hki : (k == i) = false := beq_false_of_ne hne
        simp [List.lookup_cons, hki, ih]

theorem lookup_insert_of_ne (h : j ≠ k) (v : α) (l : List (κ × α)) :
    (insert k v l).lookup j = l.lookup j := by
  have hjk : (j == k) = false := beq_false_of_ne h
  induction l with
  | nil => simp [insert, List.lookup_cons, hjk]
  | cons e l ih =>
    obtain ⟨i, w⟩ := e
    simp only [insert]
    split
    · simp [List.lookup_cons, hjk]
    · split
      · rename_i heq
        have hji : (j == i) = false := heq ▸ hjk
        simp [List.lookup_cons, hjk, hji]
      · simp [List.lookup_cons, ih]

@[simp] theorem get?_add_self (m : KeyedVector κ α) (k : κ) (v : α) :
    (m.add k v).get? k = some v := lookup_insert_self k v m.entries

theorem get?_add_of_ne (m : KeyedVector κ α) (h : j ≠ k) (v : α) :
    (m.add k v).get? j = m.get? j := lookup_insert_of_ne h v m.entries

theorem get?_removeItem_of_ne (m : KeyedVector κ α) (h : j ≠ k) :
    (m.removeItem k).get? j = m.get? j := by
  show (m.entries.filter fun e => e.1 != k).lookup j = m.entries.lookup j
  induction m.entries with
  | nil => rfl
  | cons e l ih =>
    obtain ⟨i, w⟩ := e
    by_cases hik : i = k
    · have hji : (j == i) = false := beq_false_of_ne (hik ▸ h)
      have hbne : (i != k) = false := by simp [hik]
      simp only [List.filter_cons, hbne, Bool.false_eq_true, if_false, List.lookup_cons, hji, ih]
    · have hbne : (i != k) = true := by simp [hik]
      simp only [List.filter_cons, hbne, if_true, List.lookup_cons, ih]

/-! ## What holds of every pair -/

/-- Every pair has a property. -/
def Forall (P : κ → α → Prop) (m : KeyedVector κ α) : Prop := ∀ e ∈ m.entries, P e.1 e.2

variable {P : κ → α → Prop} {m : KeyedVector κ α}

theorem forall_empty : Forall P (empty : KeyedVector κ α) := fun _ h => absurd h List.not_mem_nil

theorem forall_add (h : m.Forall P) (hkv : P k v) : (m.add k v).Forall P := by
  intro e he
  rcases mem_insert he with rfl | he
  · exact hkv
  · exact h e he

theorem forall_removeItem (h : m.Forall P) (k : κ) : (m.removeItem k).Forall P :=
  fun e he => h e (List.mem_of_mem_filter he)

/-! ## Adding the pairs of a vector -/

/-- A pair behind all others. -/
theorem insert_of_last (h : ∀ e ∈ l, e.1 < k) : insert k v l = l ++ [(k, v)] := by
  induction l with
  | nil => rfl
  | cons e l ih =>
    have he : e.1 < k := h e List.mem_cons_self
    rw [insert, if_neg (not_lt_of_gt he), if_neg (ne_of_gt he),
      ih fun d hd => h d (List.mem_cons_of_mem e hd)]
    rfl

theorem entries_addAll {es : List (κ × α)} (h : (m.entries ++ es).Pairwise fun a b => a.1 < b.1) :
    (m.addAll es).entries = m.entries ++ es := by
  induction es generalizing m with
  | nil => exact (List.append_nil _).symm
  | cons e es ih =>
    obtain ⟨-, -, hcross⟩ := List.pairwise_append.1 h
    -- the next pair comes behind those already there
    have hstep : (m.add e.1 e.2).entries = m.entries ++ [e] :=
      insert_of_last fun d hd => hcross d hd e List.mem_cons_self
    show ((m.add e.1 e.2).addAll es).entries = _
    rw [ih (by rw [hstep, List.append_assoc]; exact h), hstep, List.append_assoc]
    rfl

/-- The pairs of a vector, added to an empty one, give it back. -/
theorem addAll_entries (m : KeyedVector κ α) : empty.addAll m.entries = m := by
  apply KeyedVector.ext
  exact entries_addAll m.ascending

end KeyedVector

end Lib
