import Mathlib

/-!
# Texts of Lines and Fields

Texts that are read line by line and lines that are cut at a separator.

- `lines`: the lines that repeated calls of a line reader return
- `length_splitOn`: there is one field more than there are separators
- `splitOn_eq_pair_iff`: the lines with exactly two fields
-/

namespace Lib

variable {α : Type*} [BEq α]

/-- The lines of a text, without their ends. What follows the last end is a line only if there is
something. -/
def lines (newline : α) (text : List α) : List (List α) :=
  let pieces := text.splitOn newline
  match pieces.getLast? with
  | some [] => pieces.dropLast
  | _ => pieces

/-- There is one field more than there are separators. -/
theorem length_splitOn {sep : α} {xs : List α} : (xs.splitOn sep).length = xs.count sep + 1 := by
  induction xs with
  | nil => rfl
  | cons x xs ih =>
    rw [List.splitOn_cons_eq_if_modifyHead, List.count_cons]
    split
    · rw [List.length_cons, ih]
    · rw [List.length_modifyHead, ih]

variable [LawfulBEq α]

/-- Two fields are what stands before the only separator and what stands behind it. -/
theorem splitOn_eq_pair_iff {sep : α} {line name value : List α} :
    line.splitOn sep = [name, value] ↔
      line = name ++ sep :: value ∧ sep ∉ name ∧ sep ∉ value := by
  constructor
  · intro h
    have hjoin : [sep].intercalate (line.splitOn sep) = line := List.intercalate_splitOn sep
    have hline : line = name ++ sep :: value := by
      rw [← hjoin, h]
      simp [List.intercalate]
    have hlength : (line.splitOn sep).length = line.count sep + 1 := length_splitOn
    rw [h, hline, List.count_append, List.count_cons_self, List.length_cons, List.length_singleton]
      at hlength
    refine ⟨hline, ?_, ?_⟩
    · exact List.count_eq_zero.1 (by omega)
    · exact List.count_eq_zero.1 (by omega)
  · rintro ⟨rfl, hname, hvalue⟩
    rw [List.splitOn_append_cons_self, List.splitOn_eq_singleton hname,
      List.splitOn_eq_singleton hvalue]
    rfl

end Lib
