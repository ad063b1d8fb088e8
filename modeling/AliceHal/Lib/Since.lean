import Mathlib

/-!
# What Happened Since

Histories are lists, the newest element last. Something has happened *since* something else where
it has happened and the other has not happened after it.

- `Since`: the definition over the whole history
- `since_concat`: how one more element changes it
- `count_flatMap_concat`: counting what the elements of a history contain
-/

namespace Lib

variable {ε α : Type*} {P R : ε → Prop} {es : List ε} {e : ε}

/-- `P` has happened, and `R` has not happened after it. -/
def Since (P R : ε → Prop) (es : List ε) : Prop :=
  ∃ pre e post, es = pre ++ e :: post ∧ P e ∧ ∀ x ∈ post, ¬ R x

theorem not_since_nil : ¬ Since P R [] := by
  rintro ⟨pre, e, post, heq, -⟩
  exact absurd heq (by simp)

/-- The newest element is what happened, or it leaves what was the case. -/
theorem since_concat : Since P R (es ++ [e]) ↔ P e ∨ Since P R es ∧ ¬ R e := by
  constructor
  · rintro ⟨pre, d, post, heq, hP, hR⟩
    rcases List.eq_nil_or_concat post with rfl | ⟨init, last, hpost⟩
    · -- it is the newest element that happened
      obtain ⟨-, hlast⟩ := List.append_inj' heq rfl
      obtain rfl := List.singleton_injective hlast
      exact Or.inl hP
    · rw [List.concat_eq_append] at hpost
      subst hpost
      rw [← List.cons_append, ← List.append_assoc] at heq
      obtain ⟨hinit, hlast⟩ := List.append_inj' heq rfl
      obtain rfl := List.singleton_injective hlast
      refine Or.inr ⟨⟨pre, d, init, hinit, hP, fun x hx => ?_⟩, ?_⟩
      · exact hR x (List.mem_append_left _ hx)
      · exact hR e List.mem_concat_self
  · rintro (hP | ⟨⟨pre, d, post, rfl, hP, hR⟩, hnot⟩)
    · exact ⟨es, e, [], rfl, hP, fun x hx => absurd hx List.not_mem_nil⟩
    · refine ⟨pre, d, post ++ [e], by simp, hP, fun x hx => ?_⟩
      rcases List.mem_append.1 hx with hx | hx
      · exact hR x hx
      · rw [List.mem_singleton.1 hx]
        exact hnot

theorem count_flatMap_concat [BEq α] (f : ε → List α) (a : α) (es : List ε) (e : ε) :
    ((es ++ [e]).flatMap f).count a = (es.flatMap f).count a + (f e).count a := by
  rw [List.flatMap_append, List.count_append, List.flatMap_singleton]

end Lib
