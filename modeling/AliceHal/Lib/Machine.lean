import Mathlib

/-!
# Machines with Partial Steps

A machine takes an input in a state and, where the input is enabled, moves to a next state
with an output. Runs keep their history, the list of inputs taken with their outputs, so that
properties of runs are stated over what an observer sees.

- `Run`: finite runs, built at their end
- `Run.invariant`: a property of states that every allowed step keeps
- `Run.outputs`: the same with a property of what is shown
- `Run.split`: a run in two parts
- `restrict`: the machine with only the steps that meet a condition
- `exec`: a list of inputs executed, and the run it gives
- `Trace`: a run that is being extended call by call
-/

namespace Lib

variable {σ ι ω : Type*}

/-- Runs of a machine from a fixed state: the history and the state reached. -/
inductive Run (step : σ → ι → Option (σ × ω)) (s : σ) : List (ι × ω) → σ → Prop where
  | nil : Run step s [] s
  | snoc {es : List (ι × ω)} {t u : σ} {i : ι} {o : ω} :
      Run step s es t → step t i = some (u, o) → Run step s (es ++ [(i, o)]) u

namespace Run

variable {step : σ → ι → Option (σ × ω)}

/-- A property that every allowed step keeps holds after every run of allowed inputs. -/
theorem invariant {I : σ → Prop} {P : ι → Prop}
    (hstep : ∀ {t i u o}, I t → P i → step t i = some (u, o) → I u)
    {s t : σ} {es : List (ι × ω)} (hrun : Run step s es t) (hP : ∀ e ∈ es, P e.1) (h0 : I s) :
    I t := by
  induction hrun with
  | nil => exact h0
  | snoc _ hs ih =>
    have hprev := ih fun e he => hP e (List.mem_append_left _ he)
    exact hstep hprev (hP _ List.mem_concat_self) hs

/-- A property of states that every step keeps, and with it a property of everything shown. -/
theorem outputs {I : σ → Prop} {Q : ω → Prop}
    (hstep : ∀ {t i u o}, I t → step t i = some (u, o) → I u ∧ Q o)
    {s t : σ} {es : List (ι × ω)} (hrun : Run step s es t) (h0 : I s) :
    I t ∧ ∀ e ∈ es, Q e.2 := by
  induction hrun with
  | nil => exact ⟨h0, fun e he => absurd he List.not_mem_nil⟩
  | snoc _ hs ih =>
    obtain ⟨hI, hQ⟩ := ih
    obtain ⟨hu, ho⟩ := hstep hI hs
    refine ⟨hu, fun e he => ?_⟩
    rcases List.mem_append.1 he with he | he
    · exact hQ e he
    · rw [List.mem_singleton.1 he]
      exact ho

/-- The last step of a run. -/
theorem last {s u : σ} {r : List (ι × ω)} {e : ι × ω} (hrun : Run step s (r ++ [e]) u) :
    ∃ t, Run step s r t ∧ step t e.1 = some (u, e.2) := by
  generalize hes : r ++ [e] = es' at hrun
  cases hrun with
  | nil => exact absurd hes (by simp)
  | snoc hrun hs =>
    obtain ⟨rfl, heq⟩ := List.append_inj' hes rfl
    obtain rfl := List.singleton_injective heq
    exact ⟨_, hrun, hs⟩

/-- A run in two parts. -/
theorem split {s u : σ} {r es' : List (ι × ω)} (hrun : Run step s (r ++ es') u) :
    ∃ t, Run step s r t ∧ Run step t es' u := by
  induction es' using List.reverseRecOn generalizing u with
  | nil =>
    rw [List.append_nil] at hrun
    exact ⟨u, hrun, .nil⟩
  | append_singleton es' e ih =>
    rw [← List.append_assoc] at hrun
    obtain ⟨t, ht, hs⟩ := hrun.last
    obtain ⟨q, hq, hrest⟩ := ih ht
    exact ⟨q, hq, hrest.snoc hs⟩

/-- The first step of a run. -/
theorem first {s u : σ} {e : ι × ω} {es : List (ι × ω)} (hrun : Run step s (e :: es) u) :
    ∃ t, step s e.1 = some (t, e.2) ∧ Run step t es u := by
  obtain ⟨t, ht, hrest⟩ := split (r := [e]) hrun
  obtain ⟨q, hq, hs⟩ := last (r := []) ht
  generalize hes : ([] : List (ι × ω)) = es₀ at hq
  cases hq with
  | nil => exact ⟨t, hs, hrest⟩
  | snoc => exact absurd hes (by simp)

end Run

/-- The machine that takes only the inputs allowed in the state it is in: its runs are those whose
steps are all allowed. -/
def restrict (P : σ → ι → Prop) [∀ s i, Decidable (P s i)] (step : σ → ι → Option (σ × ω)) :
    σ → ι → Option (σ × ω) :=
  fun s i => if P s i then step s i else none

theorem restrict_eq_some {P : σ → ι → Prop} [∀ s i, Decidable (P s i)]
    {step : σ → ι → Option (σ × ω)} {s : σ} {i : ι} {r : σ × ω} :
    restrict P step s i = some r ↔ P s i ∧ step s i = some r := by
  unfold restrict
  split
  · rename_i h
    exact ⟨fun hs => ⟨h, hs⟩, fun hs => hs.2⟩
  · rename_i h
    exact ⟨fun hs => (nomatch hs), fun hs => absurd hs.1 h⟩

/-- Execute a list of inputs: the history and the state reached, `none` when an input is not
enabled. -/
def exec (step : σ → ι → Option (σ × ω)) (s : σ) (inputs : List ι) : Option (List (ι × ω) × σ) :=
  inputs.foldlM (fun r i => (step r.2 i).map fun q => (r.1 ++ [(i, q.2)], q.1)) ([], s)

theorem run_of_exec {step : σ → ι → Option (σ × ω)} {s t : σ} {l : List ι}
    {es : List (ι × ω)} (h : exec step s l = some (es, t)) : Run step s es t := by
  have hgo : ∀ (inputs : List ι) (r : List (ι × ω) × σ), Run step s r.1 r.2 →
      inputs.foldlM (fun r i => (step r.2 i).map fun q => (r.1 ++ [(i, q.2)], q.1)) r =
        some (es, t) → Run step s es t := by
    intro inputs
    induction inputs with
    | nil =>
      intro r hr heq
      obtain rfl : r = (es, t) := Option.some.inj heq
      exact hr
    | cons i inputs ih =>
      intro r hr heq
      rw [List.foldlM_cons] at heq
      obtain ⟨q, hq, hrest⟩ := Option.bind_eq_some_iff.1 heq
      obtain ⟨p, hp, rfl⟩ := Option.map_eq_some_iff.1 hq
      exact ih _ (hr.snoc hp) hrest
  exact hgo l ([], s) .nil h

/-- Evaluating a list of inputs shows that it can be run, and where it leads. -/
theorem exists_exec {step : σ → ι → Option (σ × ω)} {s : σ} {l : List ι} {P : σ → Prop}
    [DecidablePred P] (h : (exec step s l).any (fun r => decide (P r.2)) = true) :
    ∃ es t, exec step s l = some (es, t) ∧ P t := by
  cases hexec : exec step s l with
  | none =>
    rw [hexec] at h
    cases h
  | some r =>
    rw [hexec] at h
    exact ⟨r.1, r.2, rfl, of_decide_eq_true h⟩

/-- A run that is being extended: history, state and the proof that they belong together. -/
structure Trace (step : σ → ι → Option (σ × ω)) (s : σ) where
  es : List (ι × ω)
  state : σ
  run : Run step s es state

namespace Trace

variable {step : σ → ι → Option (σ × ω)} {s : σ}

def start (step : σ → ι → Option (σ × ω)) (s : σ) : Trace step s := ⟨[], s, .nil⟩

/-- Take an input; one that is not enabled changes nothing. -/
def call (t : Trace step s) (i : ι) : Trace step s :=
  match h : step t.state i with
  | none => t
  | some (u, o) => ⟨t.es ++ [(i, o)], u, t.run.snoc h⟩

theorem call_of_none {t : Trace step s} {i : ι} (h : step t.state i = none) : t.call i = t := by
  unfold call
  split
  · rfl
  · rename_i hs
    rw [h] at hs
    cases hs

theorem call_of_some {t : Trace step s} {i : ι} {u : σ} {o : ω}
    (h : step t.state i = some (u, o)) :
    (t.call i).es = t.es ++ [(i, o)] ∧ (t.call i).state = u := by
  unfold call
  split
  · rename_i hs
    rw [h] at hs
    cases hs
  · rename_i hs
    rw [h] at hs
    cases hs
    exact ⟨rfl, rfl⟩

end Trace

end Lib
