import AliceHal.Lib.Memory

/-!
# Extents of Stores

Where a piece of code stores, as a list of extents, and what the list says of the memory: the bytes
outside of it stay as they are.

- `Extent`: consecutive bytes
- `Memory.ChangedIn`: the bytes outside of these extents are the same
- `Extent.FitsIn`: an extent within a buffer
-/

namespace Lib

/-- Consecutive bytes from an index on. -/
structure Extent where
  start : ℕ
  size : ℕ
  deriving DecidableEq, Repr

namespace Extent

/-- The index is one of these bytes. -/
def Covers (e : Extent) (j : ℕ) : Prop := e.start ≤ j ∧ j < e.start + e.size

/-- The bytes are among the first `n`. -/
def FitsIn (e : Extent) (n : ℕ) : Prop := e.start + e.size ≤ n

instance (e : Extent) (n : ℕ) : Decidable (e.FitsIn n) := inferInstanceAs (Decidable (_ ≤ _))

end Extent

namespace Memory

/-- The second memory has the bytes of the first one outside of these extents. -/
def ChangedIn (es : List Extent) (m m' : Memory) : Prop :=
  ∀ j, (∀ e ∈ es, ¬e.Covers j) → m' j = m j

namespace ChangedIn

variable {es es' : List Extent} {m m' m'' : Memory} {i k n : ℕ} {bs : List UInt8}

theorem refl (es : List Extent) (m : Memory) : ChangedIn es m m := fun _ _ => rfl

/-- A store changes its extent. -/
theorem put (hk : bs.length = k) : ChangedIn [⟨i, k⟩] m (m.put i bs) := by
  subst hk
  intro j hj
  apply if_neg
  exact hj ⟨i, bs.length⟩ (List.mem_singleton_self _)

/-- What is done after it changes further extents. -/
theorem trans (h : ChangedIn es m m') (h' : ChangedIn es' m' m'') : ChangedIn (es ++ es') m m'' := by
  intro j hj
  simp only [List.forall_mem_append] at hj
  exact (h' j hj.2).trans (h j hj.1)

/-- A store before them. -/
theorem put_then (hk : bs.length = k) (h : ChangedIn es (m.put i bs) m') :
    ChangedIn (⟨i, k⟩ :: es) m m' :=
  (put hk).trans h

end ChangedIn

end Memory

end Lib
