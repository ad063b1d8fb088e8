import Mathlib

/-!
# Two Runs of One Program

A program with a state and early exits is run from two states. What its code reads has to be the
same in both, so both runs go the same way: they return the same value, or leave by the same exit,
and a relation between the states is carried along.

With equal states on both sides the rules are those of pre- and postconditions for a single run.

- `TwoRuns`: from related states both runs end the same way
- `TwoRuns.bind`, `TwoRuns.ite`, `TwoRuns.forM`: the rules, by the shape of the program
- `TwoRuns.weaken`, `TwoRuns.imp`, `TwoRuns.fact`: from more than is needed, to less than is known
-/

namespace Lib

variable {ε σ α β : Type}

/-- The two results return one value or leave by one exit. -/
inductive SameEnd (S : α → σ → σ → Prop) (E : ε → σ → σ → Prop) :
    EStateM.Result ε σ α → EStateM.Result ε σ α → Prop where
  | ok {a : α} {s t : σ} : S a s t → SameEnd S E (.ok a s) (.ok a t)
  | error {e : ε} {s t : σ} : E e s t → SameEnd S E (.error e s) (.error e t)

/-- Read from the state. -/
def read (f : σ → α) : EStateM ε σ α := fun s => .ok (f s) s

/-- From states related by `R`, both runs return the same value in states related by `S`, or leave by
the same exit in states related by `E`. -/
def TwoRuns (R : σ → σ → Prop) (m : EStateM ε σ α) (S : α → σ → σ → Prop) (E : ε → σ → σ → Prop) :
    Prop :=
  ∀ s t, R s t → SameEnd S E (m.run s) (m.run t)

namespace TwoRuns

variable {R R' : σ → σ → Prop} {S S' : α → σ → σ → Prop} {T : β → σ → σ → Prop}
  {E : ε → σ → σ → Prop} {m : EStateM ε σ α}

theorem pure {a : α} (h : ∀ s t, R s t → S a s t) : TwoRuns R (pure a) S E :=
  fun s t hR => .ok (h s t hR)

theorem throw {e : ε} (h : ∀ s t, R s t → E e s t) : TwoRuns R (throw e) S E :=
  fun s t hR => .error (h s t hR)

/-- A value that is read is the same in both states. -/
theorem read {f : σ → α} (h : ∀ s t, R s t → f t = f s) :
    TwoRuns R (read f) (fun a s t => a = f s ∧ R s t) E := by
  intro s t hR
  change SameEnd _ E (.ok (f s) s) (.ok (f t) t)
  rw [h s t hR]
  exact .ok ⟨rfl, hR⟩

theorem modify {f : σ → σ} {S : PUnit → σ → σ → Prop} (h : ∀ s t, R s t → S () (f s) (f t)) :
    TwoRuns R (modify f) S E :=
  fun s t hR => .ok (h s t hR)

/-- A step that returns a value of the outside and goes on in a changed state. -/
theorem modifyGet {a : α} {f : σ → σ} (h : ∀ s t, R s t → S a (f s) (f t)) :
    TwoRuns R (modifyGet fun s => (a, f s)) S E :=
  fun s t hR => .ok (h s t hR)

theorem bind {f : α → EStateM ε σ β} (hm : TwoRuns R m S E) (hf : ∀ a, TwoRuns (S a) (f a) T E) :
    TwoRuns R (m >>= f) T E := by
  intro s t hR
  have hend : SameEnd S E (m s) (m t) := hm s t hR
  change SameEnd T E (EStateM.bind m f s) (EStateM.bind m f t)
  unfold EStateM.bind
  generalize m s = x at hend ⊢
  generalize m t = y at hend ⊢
  cases hend with
  | ok hS => exact hf _ _ _ hS
  | error hE => exact .error hE

theorem ite {P : Prop} [Decidable P] {m' : EStateM ε σ α} (hm : P → TwoRuns R m S E)
    (hm' : ¬ P → TwoRuns R m' S E) : TwoRuns R (if P then m else m') S E := by
  split
  · rename_i hP
    exact hm hP
  · rename_i hP
    exact hm' hP

/-- A relation that every step of a loop keeps. -/
theorem forM {f : β → EStateM ε σ PUnit} (l : List β)
    (h : ∀ b ∈ l, TwoRuns R (f b) (fun _ => R) E) : TwoRuns R (l.forM f) (fun _ => R) E := by
  induction l with
  | nil => exact pure fun s t hR => hR
  | cons b l ih =>
    exact bind (h b List.mem_cons_self) fun _ => ih fun b hb => h b (List.mem_cons_of_mem _ hb)

theorem weaken (hm : TwoRuns R m S E) (h : ∀ s t, R' s t → R s t) : TwoRuns R' m S E :=
  fun s t hR => hm s t (h s t hR)

theorem imp (hm : TwoRuns R m S E) (h : ∀ a s t, S a s t → S' a s t) : TwoRuns R m S' E := by
  intro s t hR
  have hend := hm s t hR
  generalize m.run s = x at hend ⊢
  generalize m.run t = y at hend ⊢
  cases hend with
  | ok hS => exact .ok (h _ _ _ hS)
  | error hE => exact .error hE

/-- A fact about the outside, found out on the way. -/
theorem fact {P : Prop} (h : P → TwoRuns R m S E) : TwoRuns (fun s t => P ∧ R s t) m S E :=
  fun s t hR => h hR.1 s t hR.2

end TwoRuns

end Lib
