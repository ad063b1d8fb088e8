import AliceHal.Hwcomposer.VsyncThread

/-!
# Runs of the Vsync Thread

What holds of the thread in all runs of a display, and the steps that a run must avoid for it.

- `FbCtx.asleep_off`: a thread sleeps only while vsync is off
- `FbCtx.noLoop_iff`: when the thread notices that it is to stop
- `FbCtx.oneThread_joined`: there is one thread, and it is joined
-/

namespace AliceHal.Hwcomposer

/-! ## Sleeping threads -/

namespace VsyncThread

/-- The thread has read `vsync_on` as zero, and goes to sleep without reading it again. -/
def Drowsy : VsyncThread → Prop
  | .testingStop | .sleeping | .waiting => True
  | _ => False

instance (pc : VsyncThread) : Decidable pc.Drowsy :=
  match pc with
  | .testingStop | .sleeping | .waiting => instDecidableTrue
  | .starting | .checkingOn | .testingOn | .waking | .checkingStop | .recheckingOn | .reporting
  | .exiting | .returning | .exited => instDecidableFalse

end VsyncThread

namespace FbCtx

variable {s t u : FbCtx} {i : VsyncInput} {o : Option Int32}

/-- Vsync is turned on only while no thread sleeps or is about to. -/
def Awake (s : FbCtx) : VsyncInput → Prop
  | .eventControl event enabled =>
    event = hwcEventVsync ∧ enabled ≠ 0 → ∀ pc ∈ s.threads, ¬pc.Drowsy
  | _ => True

instance (s : FbCtx) (i : VsyncInput) : Decidable (s.Awake i) :=
  match i with
  | .eventControl event enabled => inferInstanceAs (Decidable
      (event = hwcEventVsync ∧ enabled ≠ 0 → ∀ pc ∈ s.threads, ¬pc.Drowsy))
  | .close | .caller | .signal _ | .thread _ _ | .spurious _ => instDecidableTrue

/-- A drowsy thread has read what `vsync_on` still is. -/
def DrowsyOff (s : FbCtx) : Prop := ∀ pc ∈ s.threads, pc.Drowsy → s.vsyncOn = 0

/-- A thread falls asleep only when it reads that vsync is off. -/
theorem next_drowsy {read : Bool} {pc pc' : VsyncThread} (h : pc.next s read = some pc')
    (hdrowsy : pc'.Drowsy) : s.vsyncOn = 0 ∨ pc.Drowsy := by
  cases pc with
  | testingOn =>
    by_cases hon : s.vsyncOn = 0
    · exact Or.inl hon
    · simp only [VsyncThread.next, if_neg hon, Option.some.injEq] at h
      subst h
      exact hdrowsy.elim
  | testingStop | sleeping | waiting => exact Or.inr trivial
  | starting | exiting | returning =>
    cases h
    exact hdrowsy.elim
  | checkingOn | checkingStop | recheckingOn | reporting =>
    simp only [VsyncThread.next, Option.some.injEq] at h
    split at h <;> subst h <;> exact hdrowsy.elim
  | waking =>
    simp only [VsyncThread.next] at h
    split at h
    · cases h
    · cases h
      exact hdrowsy.elim
  | exited => cases h

theorem DrowsyOff.goto {n : ℕ} {pc : VsyncThread} (h : s.DrowsyOff)
    (hpc : pc.Drowsy → s.vsyncOn = 0) : (s.goto n pc).DrowsyOff := by
  intro pc' hmem hdrowsy
  rcases mem_goto hmem with rfl | hold
  · exact hpc hdrowsy
  · exact h pc' hold hdrowsy

theorem DrowsyOff.threadStep {n : ℕ} {read : Bool} (h : s.DrowsyOff)
    (hstep : s.threadStep n read = some t) : t.DrowsyOff := by
  obtain ⟨pc, pc', hpc, hnext, rfl⟩ := threadStep_eq_some.1 hstep
  have heffect : (pc.effect s).DrowsyOff := by
    unfold DrowsyOff
    rw [effect_threads, effect_vsyncOn]
    exact h
  refine heffect.goto fun hdrowsy => ?_
  rw [effect_vsyncOn]
  rcases next_drowsy hnext hdrowsy with hoff | hold
  · exact hoff
  · exact h pc (List.mem_of_getElem? hpc) hold

/-- The caller changes the threads only when it creates one. -/
theorem callerStep_threads (hstep : s.callerStep = some (t, o)) :
    t.vsyncOn = s.vsyncOn ∧ (t.threads = s.threads ∨ t.threads = s.threads ++ [.starting]) := by
  unfold callerStep at hstep
  cases hc : s.caller with
  | idle | closed =>
    rw [hc] at hstep
    cases hstep
  | guarding | signaling =>
    rw [hc] at hstep
    dsimp only at hstep
    split at hstep
    · cases hstep
      exact ⟨rfl, Or.inl rfl⟩
    · cases hstep
      exact ⟨rfl, Or.inl rfl⟩
  | locking | condSignaling | joining =>
    rw [hc] at hstep
    dsimp only at hstep
    split at hstep
    · cases hstep <;> exact ⟨rfl, Or.inl rfl⟩
    · cases hstep <;> exact ⟨rfl, Or.inl rfl⟩
  | creating =>
    rw [hc] at hstep
    cases hstep
    exact ⟨rfl, Or.inr rfl⟩
  | starting | unlocking | stopping | settingStop | joined | closingVsync =>
    rw [hc] at hstep
    cases hstep
    exact ⟨rfl, Or.inl rfl⟩

theorem DrowsyOff.step (h : s.DrowsyOff) (hawake : s.Awake i) (hstep : s.step i = some (t, o)) :
    t.DrowsyOff := by
  cases i with
  | eventControl event enabled =>
    rcases eventControl_cases hstep with rfl | ⟨hevent, rfl⟩
    · exact h
    · intro pc hmem hdrowsy
      by_contra hon
      exact hawake ⟨hevent, hon⟩ pc hmem hdrowsy
  | close =>
    cases close_eq hstep
    exact h
  | caller =>
    obtain ⟨hon, hthreads⟩ := callerStep_threads hstep
    intro pc hmem hdrowsy
    rw [hon]
    rcases hthreads with hsame | hnew
    · exact h pc (hsame ▸ hmem) hdrowsy
    · rw [hnew] at hmem
      rcases List.mem_append.1 hmem with hold | hlast
      · exact h pc hold hdrowsy
      · rw [List.mem_singleton.1 hlast] at hdrowsy
        exact hdrowsy.elim
  | signal n =>
    obtain ⟨u, hu, heq⟩ := Option.map_eq_some_iff.1 hstep
    obtain ⟨closing, _, _, rfl⟩ := signal_eq_some.1 hu
    cases heq
    exact h.goto False.elim
  | thread n read =>
    obtain ⟨u, hu, heq⟩ := Option.map_eq_some_iff.1 hstep
    cases heq
    exact h.threadStep hu
  | spurious n =>
    obtain ⟨u, hu, heq⟩ := Option.map_eq_some_iff.1 hstep
    obtain ⟨_, rfl⟩ := wake_eq_some.1 hu
    cases heq
    exact h.goto False.elim

/-- Vsync is on, nobody stops the thread or is about to signal it, and a thread sleeps. -/
def SleptThrough (s : FbCtx) : Prop :=
  s.vsyncOn ≠ 0 ∧ s.vsyncStop = false ∧ s.caller = .idle ∧ .waiting ∈ s.threads

/-- When vsync is turned on only while no thread is drowsy, none sleeps through it. -/
theorem asleep_off {available fakeVsync : Bool} {es : List (VsyncInput × Option Int32)}
    (hrun : Lib.Run (Lib.restrict Awake step) (init available fakeVsync) es s) :
    ¬s.SleptThrough := by
  have hoff : s.DrowsyOff ∧ ∀ e ∈ es, True := by
    refine hrun.outputs (I := DrowsyOff) (Q := fun _ => True) (fun ht hs => ?_) fun pc hmem =>
      absurd hmem List.not_mem_nil
    obtain ⟨hawake, hstep⟩ := Lib.restrict_eq_some.1 hs
    exact ⟨ht.step hawake hstep, trivial⟩
  rintro ⟨hon, _, _, hwaiting⟩
  exact hon (hoff.1 .waiting hwaiting trivial)

/-- Vsync is turned on: the call creates the thread. -/
def startThread : List VsyncInput := .eventControl hwcEventVsync 1 :: List.replicate 3 .caller

/-- Vsync is turned off, and the thread falls asleep. -/
def fallAsleep : List VsyncInput :=
  ([.eventControl hwcEventVsync 0, .caller] : List VsyncInput) ++
    (List.replicate 5 (.thread 0 true) : List VsyncInput)

theorem fallAsleep_off : ∃ es s, Lib.exec (Lib.restrict Awake step) (init true true)
    (startThread ++ fallAsleep) = some (es, s) ∧ .waiting ∈ s.threads ∧ ¬s.SleptThrough := by
  have hsleeps : ∃ es s, Lib.exec (Lib.restrict Awake step) (init true true)
      (startThread ++ fallAsleep) = some (es, s) ∧ .waiting ∈ s.threads :=
    Lib.exists_exec (by decide +kernel)
  obtain ⟨es, s, hexec, hwaiting⟩ := hsleeps
  exact ⟨es, s, hexec, hwaiting, asleep_off (Lib.run_of_exec hexec)⟩

/-- When vsync is turned on again nobody signals the thread: it runs. -/
theorem onAgain_asleep : ∃ es s, Lib.Run step (init true true) es s ∧ s.SleptThrough := by
  have hagain : ∃ es s, Lib.exec step (init true true) (startThread ++ fallAsleep ++
      ([.eventControl hwcEventVsync 1, .caller] : List VsyncInput)) = some (es, s) ∧ s.vsyncOn ≠ 0 ∧
        s.vsyncStop = false ∧ s.caller = .idle ∧ .waiting ∈ s.threads :=
    Lib.exists_exec (by decide +kernel)
  obtain ⟨es, s, hexec, hasleep⟩ := hagain
  exact ⟨es, s, Lib.run_of_exec hexec, hasleep⟩

/-! ## Stopping -/

/-- `vsync_stop` is set. -/
def Stopping : Caller → Prop
  | .signaling true | .locking true | .condSignaling true | .unlocking true | .joining | .joined =>
    True
  | _ => False

end FbCtx

namespace VsyncThread

/-- The step reads `vsync_stop`. -/
def ReadsStop : VsyncThread → Prop
  | .testingStop | .checkingStop => True
  | _ => False

instance (pc : VsyncThread) : Decidable pc.ReadsStop :=
  match pc with
  | .testingStop | .checkingStop => instDecidableTrue
  | .starting | .checkingOn | .testingOn | .sleeping | .waiting | .waking | .recheckingOn
  | .reporting | .exiting | .returning | .exited => instDecidableFalse

/-- The thread is in the branch that reads `vsync_stop`, or has left the loop. -/
def PastCheck : VsyncThread → Prop
  | .starting | .checkingOn | .recheckingOn | .reporting => False
  | _ => True

instance (pc : VsyncThread) : Decidable pc.PastCheck :=
  match pc with
  | .starting | .checkingOn | .recheckingOn | .reporting => instDecidableFalse
  | .testingOn | .testingStop | .sleeping | .waiting | .waking | .checkingStop | .exiting
  | .returning | .exited => instDecidableTrue

/-- It goes down on the way to the next read of `vsync_stop`, or to the end. -/
def distance : VsyncThread → ℕ
  | .starting | .recheckingOn | .reporting => 8
  | .checkingOn => 7
  | .sleeping => 6
  | .waiting => 5
  | .waking => 4
  | .testingOn => 3
  | .testingStop | .checkingStop | .exiting => 2
  | .returning => 1
  | .exited => 0

end VsyncThread

namespace FbCtx

variable {s t u : FbCtx} {i : VsyncInput} {o : Option Int32}

/-- A step of a thread, or of `pthread_cond_wait` in it. -/
def OfThreads (_ : FbCtx) : VsyncInput → Prop
  | .thread _ _ | .spurious _ => True
  | _ => False

instance (s : FbCtx) (i : VsyncInput) : Decidable (s.OfThreads i) :=
  match i with
  | .thread _ _ | .spurious _ => instDecidableTrue
  | .eventControl _ _ | .close | .caller | .signal _ => instDecidableFalse

/-- A step of the thread that is joined, in which it does not read `vsync_stop`. -/
def Unaware (s : FbCtx) : VsyncInput → Prop
  | .thread n _ => s.vthread = some n ∧ ∀ pc ∈ s.threads[n]?, ¬pc.ReadsStop
  | .spurious n => s.vthread = some n
  | _ => False

instance (s : FbCtx) (i : VsyncInput) : Decidable (s.Unaware i) :=
  match i with
  | .thread n _ =>
    inferInstanceAs (Decidable (s.vthread = some n ∧ ∀ pc ∈ s.threads[n]?, ¬pc.ReadsStop))
  | .spurious n => inferInstanceAs (Decidable (s.vthread = some n))
  | .eventControl _ _ | .close | .caller | .signal _ => instDecidableFalse

/-- From here steps of threads lead into a loop of the joined thread in which it never reads
`vsync_stop`. -/
def Loops (s : FbCtx) : Prop :=
  ∃ t es es', Lib.Run (Lib.restrict OfThreads step) s es t ∧ es' ≠ [] ∧
    Lib.Run (Lib.restrict Unaware step) t es' t

/-- Vsync is off, or the thread is past the check that skips the read of `vsync_stop`. -/
def Notices (s : FbCtx) : Prop := s.vsyncOn = 0 ∨ ∀ pc ∈ s.current, pc.PastCheck

instance (s : FbCtx) : Decidable s.Notices :=
  inferInstanceAs (Decidable (s.vsyncOn = 0 ∨ ∀ pc ∈ s.current, pc.PastCheck))

/-- The thread is to stop and will notice. -/
structure Ends (s : FbCtx) : Prop where
  stop : s.vsyncStop = true
  notices : s.Notices

/-- How far the joined thread is from its next read. -/
def distance (s : FbCtx) : ℕ := s.current.elim 0 VsyncThread.distance

/-- Where vsync is on and the thread is past the check, it stays so. -/
theorem next_pastCheck {read : Bool} {pc pc' : VsyncThread} (hstop : s.vsyncStop = true)
    (hpast : pc.PastCheck) (h : pc.next s read = some pc') : pc'.PastCheck := by
  cases pc with
  | starting | checkingOn | recheckingOn | reporting => exact hpast.elim
  | sleeping | exiting | returning =>
    cases h
    trivial
  | waiting | exited => cases h
  | testingOn =>
    simp only [VsyncThread.next, Option.some.injEq] at h
    split at h <;> subst h <;> trivial
  | testingStop | checkingStop =>
    simp only [VsyncThread.next, if_pos hstop, Option.some.injEq] at h
    subst h
    trivial
  | waking =>
    simp only [VsyncThread.next] at h
    split at h
    · cases h
    · cases h
      trivial

/-- Each step that does not read `vsync_stop` brings the thread closer to the read. -/
theorem next_distance {read : Bool} {pc pc' : VsyncThread} (hends : s.vsyncOn = 0 ∨ pc.PastCheck)
    (hreads : ¬pc.ReadsStop) (h : pc.next s read = some pc') : pc'.distance < pc.distance := by
  cases pc with
  | testingStop | checkingStop => exact absurd trivial hreads
  | starting | sleeping | exiting | returning =>
    cases h
    decide
  | waiting | exited => cases h
  | checkingOn | recheckingOn =>
    have hoff : s.vsyncOn = 0 := hends.resolve_right id
    simp only [VsyncThread.next, if_pos hoff, Option.some.injEq] at h
    subst h
    decide
  | testingOn =>
    simp only [VsyncThread.next, Option.some.injEq] at h
    split at h <;> subst h <;> decide
  | reporting =>
    simp only [VsyncThread.next, Option.some.injEq] at h
    split at h <;> subst h <;> decide
  | waking =>
    simp only [VsyncThread.next] at h
    split at h
    · cases h
    · cases h
      decide

theorem current_of {n : ℕ} {pc : VsyncThread} (hvthread : s.vthread = some n)
    (hpc : s.threads[n]? = some pc) : s.current = some pc := by
  unfold current
  rw [hvthread]
  exact hpc

/-- A move of the joined thread, or of another one. -/
theorem current_goto {n : ℕ} {pc old : VsyncThread} (hold : s.threads[n]? = some old) :
    (s.goto n pc).current = if s.vthread = some n then some pc else s.current := by
  by_cases h : s.vthread = some n
  · rw [if_pos h]
    exact current_of h (getElem?_goto_self hold)
  · rw [if_neg h]
    unfold current
    rw [goto_vthread]
    cases hv : s.vthread with
    | none => rfl
    | some m =>
      refine getElem?_goto_of_ne fun heq => h ?_
      rw [hv, heq]

theorem effect_current (pc : VsyncThread) : (pc.effect s).current = s.current := by
  unfold current
  rw [effect_vthread, effect_threads]

theorem Ends.goto {n : ℕ} {pc old : VsyncThread} (h : s.Ends) (hold : s.threads[n]? = some old)
    (hpast : old.PastCheck → pc.PastCheck) : (s.goto n pc).Ends := by
  refine ⟨h.stop, h.notices.imp id fun hcurrent pc' hmem => ?_⟩
  rw [current_goto hold] at hmem
  split at hmem
  · rename_i hv
    cases hmem
    exact hpast (hcurrent old (current_of hv hold))
  · exact hcurrent pc' hmem

theorem Ends.effect (h : s.Ends) (pc : VsyncThread) : (pc.effect s).Ends := by
  refine ⟨by rw [effect_vsyncStop]; exact h.stop, ?_⟩
  unfold Notices
  rw [effect_vsyncOn, effect_current]
  exact h.notices

/-- Steps of the threads keep it. -/
theorem Ends.step (h : s.Ends) (hthreads : s.OfThreads i) (hstep : s.step i = some (t, o)) :
    t.Ends := by
  cases i with
  | thread n read =>
    obtain ⟨u, hu, heq⟩ := Option.map_eq_some_iff.1 hstep
    obtain ⟨pc, pc', hpc, hnext, rfl⟩ := threadStep_eq_some.1 hu
    cases heq
    refine (h.effect pc).goto ?_ fun hpast => next_pastCheck h.stop hpast hnext
    rw [effect_threads]
    exact hpc
  | spurious n =>
    obtain ⟨u, hu, heq⟩ := Option.map_eq_some_iff.1 hstep
    obtain ⟨hwait, rfl⟩ := wake_eq_some.1 hu
    cases heq
    exact h.goto hwait fun _ => trivial
  | eventControl | close | caller | signal => exact hthreads.elim

theorem Unaware.ofThreads (h : s.Unaware i) : s.OfThreads i := by
  cases i with
  | thread | spurious => trivial
  | eventControl | close | caller | signal => exact h.elim

/-- Steps of the joined thread bring it closer, unless it reads `vsync_stop`. -/
theorem Ends.distance (h : s.Ends) (hunaware : s.Unaware i) (hstep : s.step i = some (t, o)) :
    t.distance < s.distance := by
  cases i with
  | thread n read =>
    obtain ⟨u, hu, heq⟩ := Option.map_eq_some_iff.1 hstep
    obtain ⟨pc, pc', hpc, hnext, rfl⟩ := threadStep_eq_some.1 hu
    cases heq
    obtain ⟨hvthread, hreads⟩ := hunaware
    have hcurrent := current_of hvthread hpc
    have hmoved : ((pc.effect s).goto n pc').current = some pc' := by
      rw [current_goto ((effect_threads pc).symm ▸ hpc), effect_vthread, if_pos hvthread]
    unfold FbCtx.distance
    rw [hmoved, hcurrent]
    exact next_distance (h.notices.imp id fun hall => hall pc hcurrent) (hreads pc hpc) hnext
  | spurious n =>
    obtain ⟨u, hu, heq⟩ := Option.map_eq_some_iff.1 hstep
    obtain ⟨hwait, rfl⟩ := wake_eq_some.1 hu
    cases heq
    have hvthread : s.vthread = some n := hunaware
    have hmoved : (s.goto n .waking).current = some .waking := by
      rw [current_goto hwait, if_pos hvthread]
    unfold FbCtx.distance
    rw [hmoved, current_of hvthread hwait]
    decide
  | eventControl | close | caller | signal => exact hunaware.elim

/-- A thread that will notice the stop is in no loop without reading it. -/
theorem Ends.not_loops (h : s.Ends) : ¬s.Loops := by
  rintro ⟨t, es, es', hreach, hne, hloop⟩
  have hends : t.Ends := by
    refine (hreach.outputs (I := Ends) (Q := fun _ => True) (fun ht hs => ?_) h).1
    obtain ⟨hthreads, hstep⟩ := Lib.restrict_eq_some.1 hs
    exact ⟨ht.step hthreads hstep, trivial⟩
  -- on the way round the thread comes ever closer to the read
  have hdown : ∀ {u es'}, Lib.Run (Lib.restrict Unaware FbCtx.step) t es' u →
      u.Ends ∧ (es' ≠ [] → u.distance < t.distance) ∧ u.distance ≤ t.distance := by
    intro u es' hrun
    induction hrun with
    | nil => exact ⟨hends, fun hnil => absurd rfl hnil, le_rfl⟩
    | snoc _ hs ih =>
      obtain ⟨hunaware, hstep⟩ := Lib.restrict_eq_some.1 hs
      have hlt := lt_of_lt_of_le (ih.1.distance hunaware hstep) ih.2.2
      exact ⟨ih.1.step hunaware.ofThreads hstep, fun _ => hlt, hlt.le⟩
  exact absurd ((hdown hloop).2.1 hne) (lt_irrefl _)

theorem goto_goto {n : ℕ} (pc pc' : VsyncThread) : (s.goto n pc).goto n pc' = s.goto n pc' := by
  unfold goto
  rw [List.set_set]

theorem goto_self {n : ℕ} {pc : VsyncThread} (h : s.threads[n]? = some pc) : s.goto n pc = s := by
  unfold goto
  obtain ⟨hn, rfl⟩ := List.getElem?_eq_some_iff.1 h
  rw [List.set_getElem_self]

/-- While vsync is on the thread goes round, and never looks at `vsync_stop`. -/
theorem loops_of_checkingOn {n : ℕ} (hon : s.vsyncOn ≠ 0) (hvthread : s.vthread = some n)
    (hpc : s.threads[n]? = some .checkingOn) {r : FbCtx} {es : List (VsyncInput × Option Int32)}
    (hreach : Lib.Run (Lib.restrict OfThreads step) r es s) : r.Loops := by
  have hreport : s.step (.thread n true) = some (s.goto n .reporting, none) := by
    refine Option.map_eq_some_iff.2 ⟨_, threadStep_eq_some.2 ⟨_, _, hpc, ?_, rfl⟩, rfl⟩
    simp only [VsyncThread.next, if_neg hon]
  have hagain : (s.goto n .reporting).step (.thread n true) = some (s, none) := by
    refine Option.map_eq_some_iff.2
      ⟨_, threadStep_eq_some.2 ⟨_, .checkingOn, getElem?_goto_self hpc, ?_, rfl⟩, ?_⟩
    · simp only [VsyncThread.next, Bool.or_true, if_true]
    · show (((s.goto n .reporting).goto n .checkingOn), none) = (s, none)
      rw [goto_goto, goto_self hpc]
  have hfirst : s.Unaware (.thread n true) := by
    refine ⟨hvthread, fun pc hmem => ?_⟩
    cases hpc.symm.trans hmem
    exact id
  have hsecond : (s.goto n .reporting).Unaware (.thread n true) := by
    refine ⟨hvthread, fun pc hmem => ?_⟩
    cases (getElem?_goto_self hpc).symm.trans hmem
    exact id
  have hround : Lib.Run (Lib.restrict Unaware step) s
      (([] ++ [(VsyncInput.thread n true, none)]) ++ [(VsyncInput.thread n true, none)]) s :=
    (Lib.Run.nil.snoc (Lib.restrict_eq_some.2 ⟨hfirst, hreport⟩)).snoc
      (Lib.restrict_eq_some.2 ⟨hsecond, hagain⟩)
  exact ⟨s, es, _, hreach, List.cons_ne_nil _ _, hround⟩

/-- A step of a thread that leads to its check of `vsync_on`. -/
theorem loops_of_step {n : ℕ} {pc : VsyncThread} (hon : s.vsyncOn ≠ 0)
    (hvthread : s.vthread = some n) (hpc : s.threads[n]? = some pc)
    (hnext : pc.next s true = some .checkingOn) {r : FbCtx}
    {es : List (VsyncInput × Option Int32)} (hreach : Lib.Run (Lib.restrict OfThreads step) r es s) :
    r.Loops := by
  have hstep : s.step (.thread n true) = some ((pc.effect s).goto n .checkingOn, none) :=
    Option.map_eq_some_iff.2 ⟨_, threadStep_eq_some.2 ⟨_, _, hpc, hnext, rfl⟩, rfl⟩
  have hallowed : s.OfThreads (.thread n true) := trivial
  refine loops_of_checkingOn (n := n) ?_ ?_ ?_ (hreach.snoc (Lib.restrict_eq_some.2 ⟨hallowed, hstep⟩))
  · rw [goto_vsyncOn, effect_vsyncOn]
    exact hon
  · rw [goto_vthread, effect_vthread]
    exact hvthread
  · exact getElem?_goto_self ((effect_threads pc).symm ▸ hpc)

theorem loops_of_not_notices (h : ¬s.Notices) : s.Loops := by
  obtain ⟨hon, hpast⟩ := not_or.1 h
  obtain ⟨pc, hrest⟩ := not_forall.1 hpast
  obtain ⟨hmem, hcheck⟩ := Classical.not_imp.1 hrest
  obtain ⟨n, hvthread, hpc⟩ := Option.bind_eq_some_iff.1 hmem
  cases pc with
  | checkingOn => exact loops_of_checkingOn hon hvthread hpc .nil
  | starting => exact loops_of_step hon hvthread hpc rfl .nil
  | reporting =>
    refine loops_of_step hon hvthread hpc ?_ .nil
    simp only [VsyncThread.next, Bool.or_true, if_true]
  | recheckingOn =>
    -- `vsync_stop` was read before it was set
    have hstep : s.step (.thread n true) = some (s.goto n .reporting, none) := by
      refine Option.map_eq_some_iff.2 ⟨_, threadStep_eq_some.2 ⟨_, _, hpc, ?_, rfl⟩, rfl⟩
      simp only [VsyncThread.next, if_neg hon]
    have hallowed : s.OfThreads (.thread n true) := trivial
    refine loops_of_step (s := s.goto n .reporting) hon hvthread (getElem?_goto_self hpc) ?_
      (Lib.Run.nil.snoc (Lib.restrict_eq_some.2 ⟨hallowed, hstep⟩))
    simp only [VsyncThread.next, Bool.or_true, if_true]
  | testingOn | testingStop | sleeping | waiting | waking | checkingStop | exiting | returning
  | exited => exact absurd trivial hcheck

/-- `vsync_stop` is set before the thread is joined. -/
theorem stopping_step (h : Stopping s.caller → s.vsyncStop = true)
    (hstep : s.step i = some (t, o)) : Stopping t.caller → t.vsyncStop = true := by
  cases i with
  | eventControl event enabled =>
    rcases eventControl_cases hstep with rfl | ⟨_, rfl⟩
    · exact h
    · exact False.elim
  | close =>
    cases close_eq hstep
    exact False.elim
  | caller =>
    have hcall : s.callerStep = some (t, o) := hstep
    unfold callerStep at hcall
    cases hc : s.caller with
    | idle | closed =>
      rw [hc] at hcall
      cases hcall
    | guarding =>
      rw [hc] at hcall
      dsimp only at hcall
      split at hcall
      · cases hcall
        exact False.elim
      · cases hcall
        exact False.elim
    | starting | stopping =>
      rw [hc] at hcall
      cases hcall
      dsimp only
      split
      · exact False.elim
      · exact False.elim
    | creating | joined | closingVsync =>
      rw [hc] at hcall
      cases hcall
      exact False.elim
    | settingStop =>
      rw [hc] at hcall
      cases hcall
      exact fun _ => rfl
    | signaling closing =>
      rw [hc] at hcall h
      dsimp only at hcall
      split at hcall
      · cases hcall
        cases closing with
        | true => exact h
        | false => exact False.elim
      · cases hcall
        cases closing with
        | true => exact h
        | false => exact False.elim
    | locking closing | condSignaling closing =>
      rw [hc] at hcall h
      dsimp only at hcall
      split at hcall
      · cases hcall
      · cases hcall
        cases closing with
        | true => exact h
        | false => exact False.elim
    | unlocking closing =>
      rw [hc] at hcall h
      cases hcall
      cases closing with
      | true => exact h
      | false => exact False.elim
    | joining =>
      rw [hc] at hcall h
      dsimp only at hcall
      split at hcall
      · cases hcall
        exact h
      · cases hcall
  | signal n =>
    obtain ⟨u, hu, heq⟩ := Option.map_eq_some_iff.1 hstep
    obtain ⟨closing, hc, _, rfl⟩ := signal_eq_some.1 hu
    cases heq
    rw [hc] at h
    cases closing with
    | true => exact h
    | false => exact False.elim
  | thread n read =>
    obtain ⟨u, hu, heq⟩ := Option.map_eq_some_iff.1 hstep
    obtain ⟨pc, pc', _, _, rfl⟩ := threadStep_eq_some.1 hu
    cases heq
    rw [goto_caller, effect_caller, goto_vsyncStop, effect_vsyncStop]
    exact h
  | spurious n =>
    obtain ⟨u, hu, heq⟩ := Option.map_eq_some_iff.1 hstep
    obtain ⟨_, rfl⟩ := wake_eq_some.1 hu
    cases heq
    exact h

/-- While `hwc_device_close` waits for the thread, that notices the stop unless vsync is on and the
thread is where it does not look. -/
theorem noLoop_iff {available fakeVsync : Bool} {es : List (VsyncInput × Option Int32)}
    (hrun : Lib.Run step (init available fakeVsync) es s) (hjoining : s.caller = .joining) :
    ¬s.Loops ↔ s.Notices := by
  have hstop : Stopping s.caller → s.vsyncStop = true := by
    refine (hrun.outputs (I := fun s => Stopping s.caller → s.vsyncStop = true)
      (Q := fun _ => True) (fun ht hs => ⟨stopping_step ht hs, trivial⟩) False.elim).1
  constructor
  · intro hnot
    by_contra hnotices
    exact hnot (loops_of_not_notices hnotices)
  · intro hnotices
    refine Ends.not_loops ⟨hstop ?_, hnotices⟩
    rw [hjoining]
    trivial

/-- The composer is closed: `vsync_stop` is set, and the thread signalled if it waits. -/
def closeDisplay : List VsyncInput := .close :: List.replicate 3 .caller

theorem stopAsleep_noLoop : ∃ es s, Lib.exec step (init true true)
    (startThread ++ fallAsleep ++ closeDisplay ++
      ([.caller, .signal 0, .caller] : List VsyncInput)) = some (es, s) ∧
      s.caller = .joining ∧ ¬s.Loops := by
  have hasleep : ∃ es s, Lib.exec step (init true true)
      (startThread ++ fallAsleep ++ closeDisplay ++
        ([.caller, .signal 0, .caller] : List VsyncInput)) = some (es, s) ∧
        s.caller = .joining ∧ s.Notices :=
    Lib.exists_exec (by decide +kernel)
  obtain ⟨es, s, hexec, hjoining, hnotices⟩ := hasleep
  exact ⟨es, s, hexec, hjoining, (noLoop_iff (Lib.run_of_exec hexec) hjoining).2 hnotices⟩

/-- Vsync is on when the composer is closed: the thread never looks at `vsync_stop`. -/
theorem stopRunning_loops : ∃ es s, Lib.Run step (init true true) es s ∧ s.caller = .joining ∧
    s.Loops := by
  have hon : ∃ es s, Lib.exec step (init true true) (startThread ++
      ([.thread 0 true] : List VsyncInput) ++ closeDisplay ++
        (List.replicate 3 .caller : List VsyncInput)) = some (es, s) ∧ s.caller = .joining ∧
        ¬s.Notices :=
    Lib.exists_exec (by decide +kernel)
  obtain ⟨es, s, hexec, hjoining, hnot⟩ := hon
  exact ⟨es, s, Lib.run_of_exec hexec, hjoining, loops_of_not_notices hnot⟩

/-! ## One thread -/

/-- No thread has been created that has not set `vthread_running` yet, and none has cleared it
without having returned. -/
def Published (s : FbCtx) : Prop := ∀ pc ∈ s.threads, pc ≠ .starting ∧ pc ≠ .returning

instance (s : FbCtx) : Decidable s.Published :=
  inferInstanceAs (Decidable (∀ pc ∈ s.threads, pc ≠ .starting ∧ pc ≠ .returning))

/-- `start_vsync_thread` and `hwc_device_close` read `vthread_running` only when it tells whether there
is a thread. -/
def Guarded (s : FbCtx) : VsyncInput → Prop
  | .caller => s.caller = .starting ∨ s.caller = .stopping → s.Published
  | _ => True

instance (s : FbCtx) (i : VsyncInput) : Decidable (s.Guarded i) :=
  match i with
  | .caller =>
    inferInstanceAs (Decidable (s.caller = .starting ∨ s.caller = .stopping → s.Published))
  | .eventControl _ _ | .close | .signal _ | .thread _ _ | .spurious _ => instDecidableTrue

/-- There is no thread. -/
def NoThread (s : FbCtx) : Prop := ∀ pc ∈ s.threads, pc = .exited

/-- The caller relies on there being no thread. -/
def Alone : Caller → Prop
  | .creating | .joined | .closingVsync | .closed => True
  | _ => False

/-- What holds in all guarded runs. -/
structure OneThread (s : FbCtx) : Prop where
  last : ∀ n pc, s.threads[n]? = some pc → pc ≠ .exited → s.vthread = some n
  running : ∀ pc ∈ s.threads, pc ≠ .starting → pc ≠ .returning → pc ≠ .exited →
    s.vthreadRunning = true
  alone : Alone s.caller → s.NoThread

theorem oneThread_init (available fakeVsync : Bool) : OneThread (init available fakeVsync) where
  last := fun n pc hpc => by
    have hnone : ([] : List VsyncThread)[n]? = some pc := hpc
    rw [List.getElem?_nil] at hnone
    cases hnone
  running := fun pc hmem => absurd hmem List.not_mem_nil
  alone := fun _ pc hmem => absurd hmem List.not_mem_nil

/-- When `vthread_running` is zero and tells the truth, there is no thread. -/
theorem OneThread.noThread (h : s.OneThread) (hpublished : s.Published)
    (hstopped : s.vthreadRunning = false) : s.NoThread := by
  intro pc hmem
  by_contra halive
  obtain ⟨hstarting, hreturning⟩ := hpublished pc hmem
  rw [h.running pc hmem hstarting hreturning halive] at hstopped
  cases hstopped

/-- The caller goes on, and the threads are as they were. -/
theorem OneThread.goes (h : s.OneThread) (hthreads : t.threads = s.threads)
    (hvthread : t.vthread = s.vthread) (hrunning : t.vthreadRunning = s.vthreadRunning)
    (halone : Alone t.caller → s.NoThread) : t.OneThread := by
  refine ⟨?_, ?_, ?_⟩
  · rw [hthreads, hvthread]
    exact h.last
  · rw [hthreads, hrunning]
    exact h.running
  · unfold NoThread
    rw [hthreads]
    exact halone

/-- Only the thread created last moves. -/
theorem OneThread.moves {n : ℕ} {pc : VsyncThread} (pc' : VsyncThread) (h : s.OneThread)
    (hpc : s.threads[n]? = some pc) (halive : pc ≠ .exited)
    (hthreads : t.threads = s.threads.set n pc') (hvthread : t.vthread = s.vthread)
    (hcaller : Alone t.caller → Alone s.caller)
    (hrunning : pc' ≠ .starting → pc' ≠ .returning → pc' ≠ .exited → t.vthreadRunning = true) :
    t.OneThread := by
  have hlast : s.vthread = some n := h.last n pc hpc halive
  have hothers : ∀ m q, m ≠ n → s.threads[m]? = some q → q = .exited := by
    intro m q hne hq
    by_contra hmoves
    exact hne (Option.some.inj ((h.last m q hq hmoves).symm.trans hlast))
  refine ⟨fun m q hq hmoves => ?_, fun q hmem h1 h2 h3 => ?_, fun hone => ?_⟩
  · rw [hvthread, hlast]
    by_contra hne
    have hne' : n ≠ m := fun heq => hne (congrArg some heq)
    rw [hthreads, List.getElem?_set_ne hne'] at hq
    exact hmoves (hothers m q hne'.symm hq)
  · obtain ⟨m, hm⟩ := List.mem_iff_getElem?.1 hmem
    by_cases heq : n = m
    · have hset : t.threads[n]? = some pc' := by
        rw [hthreads]
        exact List.getElem?_set_self (List.getElem?_eq_some_iff.1 hpc).1
      rw [← heq] at hm
      obtain rfl := Option.some.inj (hset.symm.trans hm)
      exact hrunning h1 h2 h3
    · rw [hthreads, List.getElem?_set_ne heq] at hm
      exact absurd (hothers m q (Ne.symm heq) hm) h3
  · exact absurd (h.alone (hcaller hone) pc (List.mem_of_getElem? hpc)) halive

theorem OneThread.threadStep {n : ℕ} {read : Bool} (h : s.OneThread)
    (hstep : s.threadStep n read = some t) : t.OneThread := by
  obtain ⟨pc, pc', hpc, hnext, rfl⟩ := threadStep_eq_some.1 hstep
  have halive : pc ≠ .exited := by
    rintro rfl
    cases hnext
  refine h.moves pc' hpc halive ?_ ?_ ?_ fun hstarting hreturning hexited => ?_
  · show (pc.effect s).threads.set n pc' = s.threads.set n pc'
    rw [effect_threads]
  · rw [goto_vthread, effect_vthread]
  · rw [goto_caller, effect_caller]
    exact id
  · -- a thread that is at work was at work before, or has just started
    have hwas : pc ≠ .starting → s.vthreadRunning = true := by
      intro hne
      refine h.running pc (List.mem_of_getElem? hpc) hne ?_ halive
      rintro rfl
      cases hnext
      exact hexited rfl
    show (pc.effect s).vthreadRunning = true
    cases pc with
    | starting => rfl
    | exiting =>
      cases hnext
      exact absurd rfl hreturning
    | checkingOn | testingOn | testingStop | sleeping | waiting | waking | checkingStop
    | recheckingOn | reporting | returning | exited => exact hwas nofun

theorem OneThread.callerStep (h : s.OneThread)
    (hguarded : s.caller = .starting ∨ s.caller = .stopping → s.Published)
    (hstep : s.callerStep = some (t, o)) : t.OneThread := by
  unfold FbCtx.callerStep at hstep
  cases hc : s.caller with
  | idle | closed =>
    rw [hc] at hstep
    cases hstep
  | guarding enabled =>
    rw [hc] at hstep
    dsimp only at hstep
    split at hstep
    · cases hstep
      exact h.goes rfl rfl rfl False.elim
    · cases hstep
      exact h.goes rfl rfl rfl False.elim
  | starting =>
    rw [hc] at hstep
    cases hstep
    refine h.goes rfl rfl rfl fun hone => ?_
    cases hrunning : s.vthreadRunning with
    | true =>
      dsimp only at hone
      rw [hrunning] at hone
      exact hone.elim
    | false => exact h.noThread (hguarded (Or.inl hc)) hrunning
  | creating =>
    rw [hc] at hstep
    cases hstep
    have hnone : s.NoThread := h.alone (by rw [hc]; trivial)
    refine ⟨fun n pc hpc halive => ?_, fun pc hmem hstarting _ hexited => ?_, False.elim⟩
    · have happ : (s.threads ++ [VsyncThread.starting])[n]? = some pc := hpc
      by_cases hn : n < s.threads.length
      · rw [List.getElem?_append_left hn] at happ
        exact absurd (hnone pc (List.mem_of_getElem? happ)) halive
      · have hlt := (List.getElem?_eq_some_iff.1 happ).1
        rw [List.length_append, List.length_singleton] at hlt
        exact congrArg some (by omega : s.threads.length = n)
    · rcases List.mem_append.1 hmem with hold | hnew
      · exact absurd (hnone pc hold) hexited
      · exact absurd (List.mem_singleton.1 hnew) hstarting
  | signaling closing =>
    rw [hc] at hstep
    dsimp only at hstep
    split at hstep
    · cases hstep
      exact h.goes rfl rfl rfl False.elim
    · cases hstep
      exact h.goes rfl rfl rfl (by cases closing <;> exact False.elim)
  | locking closing | condSignaling closing =>
    rw [hc] at hstep
    dsimp only at hstep
    split at hstep
    · cases hstep
    · cases hstep
      exact h.goes rfl rfl rfl False.elim
  | unlocking closing =>
    rw [hc] at hstep
    cases hstep
    exact h.goes rfl rfl rfl (by cases closing <;> exact False.elim)
  | stopping =>
    rw [hc] at hstep
    cases hstep
    refine h.goes rfl rfl rfl fun hone => ?_
    cases hrunning : s.vthreadRunning with
    | true =>
      dsimp only at hone
      rw [hrunning] at hone
      exact hone.elim
    | false => exact h.noThread (hguarded (Or.inr hc)) hrunning
  | settingStop =>
    rw [hc] at hstep
    cases hstep
    exact h.goes rfl rfl rfl False.elim
  | joining =>
    rw [hc] at hstep
    dsimp only at hstep
    split at hstep
    · rename_i hjoined
      cases hstep
      -- the thread that is joined is the only one there can be
      refine h.goes rfl rfl rfl fun _ pc hmem => ?_
      by_contra halive
      obtain ⟨n, hn⟩ := List.mem_iff_getElem?.1 hmem
      exact halive (Option.some.inj ((current_of (h.last n pc hn halive) hn).symm.trans hjoined))
    · cases hstep
  | joined =>
    rw [hc] at hstep
    cases hstep
    have hnone : s.NoThread := h.alone (by rw [hc]; trivial)
    exact ⟨h.last, fun pc hmem _ _ halive => absurd (hnone pc hmem) halive, fun _ => hnone⟩
  | closingVsync =>
    rw [hc] at hstep
    cases hstep
    exact h.goes rfl rfl rfl fun _ => h.alone (by rw [hc]; trivial)

theorem OneThread.step (h : s.OneThread) (hguarded : s.Guarded i)
    (hstep : s.step i = some (t, o)) : t.OneThread := by
  cases i with
  | eventControl event enabled =>
    rcases eventControl_cases hstep with rfl | ⟨_, rfl⟩
    · exact h
    · exact h.goes rfl rfl rfl False.elim
  | close =>
    cases close_eq hstep
    exact h.goes rfl rfl rfl False.elim
  | caller => exact h.callerStep hguarded hstep
  | signal n =>
    obtain ⟨u, hu, heq⟩ := Option.map_eq_some_iff.1 hstep
    obtain ⟨closing, _, hwait, rfl⟩ := signal_eq_some.1 hu
    cases heq
    exact h.moves .waking hwait nofun rfl rfl False.elim fun _ _ _ =>
      h.running _ (List.mem_of_getElem? hwait) nofun nofun nofun
  | thread n read =>
    obtain ⟨u, hu, heq⟩ := Option.map_eq_some_iff.1 hstep
    cases heq
    exact h.threadStep hu
  | spurious n =>
    obtain ⟨u, hu, heq⟩ := Option.map_eq_some_iff.1 hstep
    obtain ⟨hwait, rfl⟩ := wake_eq_some.1 hu
    cases heq
    exact h.moves .waking hwait nofun rfl rfl id fun _ _ _ =>
      h.running _ (List.mem_of_getElem? hwait) nofun nofun nofun

/-- There is one thread at most, and none is left when its descriptor is closed. -/
def OneAndJoined (s : FbCtx) : Prop :=
  (∀ (n m : ℕ) (pc pc' : VsyncThread), s.threads[n]? = some pc → s.threads[m]? = some pc' →
    pc ≠ .exited → pc' ≠ .exited → n = m) ∧
  (s.caller = .closingVsync ∨ s.caller = .closed → s.NoThread)

/-- When the guard is read only while it tells the truth, there is one thread, and it is joined. -/
theorem oneThread_joined {available fakeVsync : Bool} {es : List (VsyncInput × Option Int32)}
    (hrun : Lib.Run (Lib.restrict Guarded step) (init available fakeVsync) es s) :
    s.OneAndJoined := by
  have hone : s.OneThread := by
    refine (hrun.outputs (I := OneThread) (Q := fun _ => True) (fun ht hs => ?_)
      (oneThread_init available fakeVsync)).1
    obtain ⟨hguarded, hstep⟩ := Lib.restrict_eq_some.1 hs
    exact ⟨ht.step hguarded hstep, trivial⟩
  refine ⟨fun n m pc pc' hn hm halive halive' => ?_, fun hclosed => hone.alone ?_⟩
  · exact Option.some.inj ((hone.last n pc hn halive).symm.trans (hone.last m pc' hm halive'))
  · rcases hclosed with hc | hc
    · rw [hc]
      trivial
    · rw [hc]
      trivial

/-- The thread falls asleep, is woken by the close, and ends. -/
def startedAndClosed : List VsyncInput :=
  startThread ++ ([.thread 0 true] : List VsyncInput) ++ fallAsleep.take 2 ++
    (List.replicate 4 (.thread 0 true) : List VsyncInput) ++ closeDisplay ++
    ([.caller, .signal 0, .caller] : List VsyncInput) ++
    (List.replicate 6 (.thread 0 true) : List VsyncInput) ++
    (List.replicate 3 .caller : List VsyncInput)

theorem startedAndClosed_joined : ∃ es s, Lib.exec (Lib.restrict Guarded step) (init true true)
    startedAndClosed = some (es, s) ∧ s.caller = .closed ∧ s.OneAndJoined := by
  have hcloses : ∃ es s, Lib.exec (Lib.restrict Guarded step) (init true true)
      startedAndClosed = some (es, s) ∧ s.caller = .closed :=
    Lib.exists_exec (by decide +kernel)
  obtain ⟨es, s, hexec, hclosed⟩ := hcloses
  exact ⟨es, s, hexec, hclosed, oneThread_joined (Lib.run_of_exec hexec)⟩

/-- Vsync is turned on twice before the first thread has run: there are two of them. -/
theorem onTwice_twoThreads : ∃ es s, Lib.Run step (init true true) es s ∧ ¬s.OneAndJoined := by
  refine ⟨_, _, Lib.run_of_exec (l := startThread ++ startThread) rfl, fun h => ?_⟩
  exact absurd (h.1 0 1 .starting .starting rfl rfl nofun nofun) Nat.zero_ne_one

end FbCtx

end AliceHal.Hwcomposer
