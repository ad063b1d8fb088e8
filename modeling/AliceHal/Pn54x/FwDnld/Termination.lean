import AliceHal.Pn54x.FwDnld.Completion

/-!
# The Retries End

The completion handler calls itself after every log, recovery and retried download sequence. What
stops it is the counter of attempts, as long as the flag that led to a sequence is reset by it:
then the download sequence runs at most `PHLIBNFC_IOCTL_DNLD_MAX_ATTEMPTS` times. A sequence that
fails early leaves its flag set and is run again, whatever the counter says.

- `dwnldRuns`: how often the download sequence was run
- `Bounded`: what the flags, the counter and the number of runs have to do with each other
- `rank`: what every level lowers
- `fwDownloadSeq_terminates`: runs without an early failure
-/

namespace AliceHal.Pn54x.FwDnld

/-! ## Runs of the download sequence -/

/-- The download sequence has been run, first or again. -/
def Event.isDwnldRun : Event → Bool
  | .sequence .dwnld _ | .sequence .retry _ => true
  | _ => false

/-- How often the download sequence was run. -/
def dwnldRuns (trace : List Event) : Nat := trace.countP Event.isDwnldRun

theorem isDwnldRun_of_not_sequence {e : Event} (h : e.isSequence = false) :
    e.isDwnldRun = false := by
  cases e with
  | sequence k st => cases h
  | _ => rfl

theorem Event.isRecover.not_dwnldRun {e : Event} (h : e.isRecover) : e.isDwnldRun = false := by
  cases e with
  | sequence _ _ => exact h.elim
  | _ => rfl

/-- Other events do not count. -/
theorem dwnldRuns_append_other {trace evs : List Event} (h : ∀ e ∈ evs, e.isDwnldRun = false) :
    dwnldRuns (trace ++ evs) = dwnldRuns trace := by
  have hzero : evs.countP Event.isDwnldRun = 0 := by
    rw [List.countP_eq_zero]
    intro e he
    rw [h e he]
    exact Bool.false_ne_true
  rw [dwnldRuns, List.countP_append, hzero]
  rfl

/-- No step of the run fails early. -/
def Clean (o : Oracle) (trace : List Event) : Prop := ∀ e ∈ trace, e.early o = false

theorem Clean.of_append {o : Oracle} {trace evs : List Event} (h : Clean o (trace ++ evs)) :
    Clean o trace :=
  fun e he => h e (List.mem_append_left _ he)


/-! ## The invariant of the levels -/

/-- What holds in front of a level with status `st`, after `k` runs of the download sequence: as
long as something is pending, every run has counted an attempt. -/
structure Bounded (k : Nat) (st : NFCSTATUS) (ctx : FwIoctlCtx) : Prop where
  runs : k ≤ 3
  attempts : ctx.bDnldAttempts.toNat ≤ 5
  pending : ctx.bDnldInitiated = true ∨ ctx.bRetryDnld = true ∨ asksRecovery st →
    k ≤ ctx.bDnldAttempts.toNat
  initiated : ctx.bDnldInitiated = true → st ≠ NFCSTATUS.success
  recovery : ctx.bDnldRecovery = true → asksRecovery st
  retry : ctx.bRetryDnld = true → k < 3 ∧ ctx.bDnldAttempts.toNat ≤ 4

theorem toNat_lt_of_lt_max {a : UInt8} (h : a < dnldMaxAttempts) : a.toNat < 3 := h

/-- Asking for recovery keeps the invariant, and is granted only while attempts are left. -/
theorem Bounded.requestRecovery {k : Nat} {st : NFCSTATUS} {ctx : FwIoctlCtx}
    (h : Bounded k st ctx) :
    Bounded k st (FwDnld.requestRecovery st ctx) ∧
      ((FwDnld.requestRecovery st ctx).bDnldRecovery = true →
        k ≤ (FwDnld.requestRecovery st ctx).bDnldAttempts.toNat ∧
          (FwDnld.requestRecovery st ctx).bDnldAttempts.toNat < 3) := by
  rcases requestRecovery_cases st ctx with ⟨hask, hlt, _, heq⟩ | ⟨hask, -, heq⟩ | ⟨hask, heq⟩
  · rw [heq]
    exact ⟨⟨h.runs, h.attempts, h.pending, h.initiated, fun _ => hask, h.retry⟩,
      fun _ => ⟨h.pending (.inr (.inr hask)), toNat_lt_of_lt_max hlt⟩⟩
  · rw [heq]
    refine ⟨⟨h.runs, h.attempts, fun hp => ?_, h.initiated, fun hr => Bool.noConfusion hr,
      fun hr => Bool.noConfusion hr⟩, fun hr => Bool.noConfusion hr⟩
    exact h.pending (hp.imp_right fun _ => .inr hask)
  · rw [heq]
    exact ⟨h, fun hr => absurd (h.recovery hr) hask⟩

/-- One more attempt. -/
theorem toNat_succ {a : UInt8} (h : a.toNat ≤ 4) : (a + 1).toNat = a.toNat + 1 := by
  rw [UInt8.toNat_add]
  exact Nat.mod_eq_of_lt (by have : (1 : UInt8).toNat = 1 := rfl; omega)

section Levels

variable {o : Oracle} {st w : NFCSTATUS} {s s' : HalState}

/-- A download sequence keeps the invariant when there was room for one more run. -/
theorem Bounded.dwnld {k : SeqKind} {n : Nat} (h : DwnldOutcome o k s st s') (hf : Fresh s.ctx)
    (hroom : n < 3) (hatt : s.ctx.bDnldAttempts.toNat ≤ 4) (hle : n ≤ s.ctx.bDnldAttempts.toNat)
    (hretry : s.ctx.bRetryDnld = true → k = .retry) (hclean : Clean o s'.trace) :
    Bounded (n + 1) st s'.ctx := by
  rcases h.ends hf with hend | hend
  · -- without an early failure nothing is left pending
    have hinit : s'.ctx.bDnldInitiated ≠ true := by
      rw [hend.initiated]
      exact Bool.false_ne_true
    have hno : s'.ctx.bRetryDnld ≠ true := by
      intro hr
      obtain ⟨-, hr₀, hearly⟩ := hend.retry hr
      obtain ⟨e, he, hb⟩ := hearly (hretry hr₀)
      rw [hclean e he] at hb
      exact Bool.noConfusion hb
    refine ⟨by omega, by rw [hend.attempts]; omega, fun hp => ?_, fun hi => absurd hi hinit,
      fun hr => ?_, fun hr => absurd hr hno⟩
    · rcases hp with hi | hr | ha
      · exact absurd hi hinit
      · exact absurd hr hno
      · exact absurd ha hend.plain
    · rw [hend.recovery] at hr
      exact Bool.noConfusion hr
  · have hsucc := toNat_succ hatt
    rw [← hend.attempts] at hsucc
    refine ⟨by omega, by omega, fun _ => by omega, hend.initiated, fun hr => .inl (hend.recovery hr),
      fun hr => ?_⟩
    have hlt := toNat_lt_of_lt_max (hend.retry hr).2
    rw [← hend.attempts] at hlt
    omega

/-- What every level lowers: a pending log comes before recovery, recovery before a retry, and a
retry uses up one of the runs that are left. -/
def rank (st : NFCSTATUS) (s : HalState) : Nat :=
  let c := requestRecovery st s.ctx
  let left := 3 - dwnldRuns s.trace
  if c.bDnldInitiated = true then 4 * left + 3
  else if c.bDnldRecovery = true then 4 * left + 2
  else if c.bRetryDnld = true then 4 * left + 1
  else 0

theorem rank_le (st : NFCSTATUS) (s : HalState) : rank st s ≤ 4 * (3 - dwnldRuns s.trace) + 3 := by
  unfold rank
  dsimp only
  split
  · omega
  · split
    · omega
    · split <;> omega

/-- With no log pending. -/
theorem rank_le_of_not_initiated (h : s.ctx.bDnldInitiated = false) :
    rank st s ≤ 4 * (3 - dwnldRuns s.trace) + 2 := by
  have hinit : (requestRecovery st s.ctx).bDnldInitiated ≠ true := by
    rw [requestRecovery_initiated, h]
    exact Bool.false_ne_true
  unfold rank
  dsimp only
  rw [if_neg hinit]
  split
  · omega
  · split <;> omega

/-- With neither a log nor recovery pending. -/
theorem rank_le_of_recovered (hinit : s.ctx.bDnldInitiated = false)
    (hrec : s.ctx.bDnldRecovery = false) (hask : ¬asksRecovery st) :
    rank st s ≤ 4 * (3 - dwnldRuns s.trace) + 1 := by
  rcases requestRecovery_cases st s.ctx with ⟨ha, -⟩ | ⟨ha, -⟩ | ⟨-, heq⟩
  · exact absurd ha hask
  · exact absurd ha hask
  · unfold rank
    dsimp only
    rw [heq, hinit, hrec, if_neg Bool.false_ne_true, if_neg Bool.false_ne_true]
    split <;> omega

/-- The log sequence: what was pending besides the log stays pending. -/
theorem Bounded.logged {c : FwIoctlCtx} (hc : Bounded (dwnldRuns s.trace) st c)
    (hinit : c.bDnldInitiated = true) (hlog : LogOutcome st { s with ctx := c } w s') :
    Bounded (dwnldRuns s'.trace) w s'.ctx ∧ rank w s' ≤ 4 * (3 - dwnldRuns s.trace) + 2 := by
  have hruns : dwnldRuns s'.trace = dwnldRuns s.trace := by
    obtain ⟨st', ⟨-, htr⟩ | ⟨c', out, htr⟩⟩ := hlog.trace
    · rw [htr]
      exact dwnldRuns_append_other (by simp [Event.isDwnldRun])
    · rw [htr]
      exact dwnldRuns_append_other (by simp [Event.isDwnldRun])
  have hstopped : s'.ctx.bDnldInitiated = false := by rw [hlog.ctx]
  have hle : rank w s' ≤ 4 * (3 - dwnldRuns s'.trace) + 2 := rank_le_of_not_initiated hstopped
  rw [hruns] at hle ⊢
  refine ⟨?_, hle⟩
  rw [hlog.ctx, hlog.status (hc.initiated hinit)]
  exact ⟨hc.runs, hc.attempts, fun _ => hc.pending (.inl hinit), fun hi => Bool.noConfusion hi,
    hc.recovery, hc.retry⟩

/-- The recovery sequence: without an early failure at most a retry stays pending. -/
theorem Bounded.recovered {c : FwIoctlCtx} (hc : Bounded (dwnldRuns s.trace) st c)
    (hinit : c.bDnldInitiated = false) (hle : dwnldRuns s.trace ≤ c.bDnldAttempts.toNat)
    (hlt : c.bDnldAttempts.toNat < 3) (hrun : Recovering o { s with ctx := c } w s' 2)
    (hdone : w = NFCSTATUS.success → s'.ctx.bDnldRecovery = false)
    (hclean : Clean o (s'.emit (.sequence .recover w)).trace) :
    Bounded (dwnldRuns (s'.emit (.sequence .recover w)).trace) w s'.ctx ∧
      rank w (s'.emit (.sequence .recover w)) ≤ 4 * (3 - dwnldRuns s.trace) + 1 := by
  obtain ⟨evs, htr, hev, hflag⟩ := hrun.events
  have hruns : dwnldRuns (s'.emit (.sequence .recover w)).trace = dwnldRuns s.trace := by
    rw [HalState.emit_trace, htr, List.append_assoc]
    apply dwnldRuns_append_other
    intro e he
    rcases List.mem_append.1 he with he | he
    · exact (hev e he).not_dwnldRun
    · rw [List.mem_singleton.1 he]
      rfl
  have hinit' : s'.ctx.bDnldInitiated = false := hrun.initiated.trans hinit
  have hrec' : s'.ctx.bDnldRecovery = false := by
    rw [← Bool.not_eq_true]
    intro hset
    by_cases hst : w = NFCSTATUS.success
    · exact absurd ((hdone hst).symm.trans hset) Bool.false_ne_true
    · obtain ⟨e, he, hb⟩ := (hflag hset).2 hst
      have hmem : e ∈ (s'.emit (.sequence .recover w)).trace := by
        rw [HalState.emit_trace, htr]
        exact List.mem_append_left _ (List.mem_append_right _ he)
      rw [hclean e hmem] at hb
      exact Bool.noConfusion hb
  have hrank := rank_le_of_recovered (s := s'.emit (.sequence .recover w)) hinit' hrec'
    (not_or.2 hrun.plain)
  have hatt : c.bDnldAttempts.toNat ≤ s'.ctx.bDnldAttempts.toNat ∧
      s'.ctx.bDnldAttempts.toNat ≤ c.bDnldAttempts.toNat + 2 :=
    hrun.attempts (show c.bDnldAttempts.toNat + 2 < 256 by omega)
  rw [hruns] at hrank ⊢
  refine ⟨⟨hc.runs, by omega, fun _ => by omega, fun hi => ?_, fun hr => ?_, fun _ => by omega⟩,
    hrank⟩
  · exact absurd (hinit'.symm.trans hi) Bool.false_ne_true
  · exact absurd (hrec'.symm.trans hr) Bool.false_ne_true

/-- The retried download sequence: one more run. -/
theorem dwnldRuns_retry {c : FwIoctlCtx} (hrun : DwnldOutcome o .retry { s with ctx := c } w s') :
    dwnldRuns (s'.emit (.sequence .retry w)).trace = dwnldRuns s.trace + 1 := by
  obtain ⟨evs, htr, hev⟩ := hrun.addsSteps
  have hsteps : dwnldRuns s'.trace = dwnldRuns s.trace := by
    rw [htr]
    exact dwnldRuns_append_other fun e he => isDwnldRun_of_not_sequence (hev e he)
  rw [← hsteps, HalState.emit_trace, dwnldRuns, List.countP_append]
  rfl

/-- One level that is followed by another. -/
theorem Bounded.level (h : Bounded (dwnldRuns s.trace) st s.ctx)
    (hlevel : LevelOutcome o st s w true s') (hclean : Clean o s'.trace) :
    Bounded (dwnldRuns s'.trace) w s'.ctx ∧ rank w s' < rank st s := by
  obtain ⟨hc, hgranted⟩ := h.requestRecovery
  cases hlevel with
  | log hceq hinit hlog =>
    subst hceq
    obtain ⟨hb, hle⟩ := hc.logged hinit hlog
    have hrank : rank st s = 4 * (3 - dwnldRuns s.trace) + 3 := if_pos hinit
    exact ⟨hb, by omega⟩
  | @recover _ _ s₁ hceq hinit hrec hrun hdone =>
    subst hceq
    obtain ⟨hle, hlt⟩ := hgranted hrec
    obtain ⟨hb, hle'⟩ := hc.recovered hinit hle hlt hrun hdone hclean
    have hrank : rank st s = 4 * (3 - dwnldRuns s.trace) + 2 := by
      unfold rank
      dsimp only
      rw [hinit, if_neg Bool.false_ne_true, if_pos hrec]
    exact ⟨hb, by omega⟩
  | @retry _ _ s₁ hceq hinit hrec hretry hrun =>
    subst hceq
    obtain ⟨hroom, hatt⟩ := hc.retry hretry
    have hruns := dwnldRuns_retry hrun
    have hb : Bounded (dwnldRuns s.trace + 1) w s₁.ctx :=
      Bounded.dwnld hrun (fresh_retryFlags _) hroom hatt (hc.pending (.inr (.inl hretry)))
        (fun _ => rfl) hclean.of_append
    have hle := rank_le w (s₁.emit (.sequence .retry w))
    have hrank : rank st s = 4 * (3 - dwnldRuns s.trace) + 1 := by
      unfold rank
      dsimp only
      rw [hinit, hrec, if_neg Bool.false_ne_true, if_neg Bool.false_ne_true, if_pos hretry]
    rw [hruns] at hle ⊢
    exact ⟨hb, by omega⟩

end Levels

/-! ## Answers to whole sequences -/

/-- The answers to a download whose session is still open after the write: both Force commands,
the session state, an older version, the log, the write, the session state again and the log. -/
def openAfterWrite : List CmdOutcome :=
  [.completed NFCSTATUS.success [], .completed NFCSTATUS.success [],
    .completed NFCSTATUS.success [0, 0, 17],
    .completed NFCSTATUS.success [8, 0, 0, 0, 0, 0, 0, 1, 1],
    .completed NFCSTATUS.success [], .completed NFCSTATUS.success [],
    .completed NFCSTATUS.success [1, 0, 17], .completed NFCSTATUS.success []]

/-- The answers to a download of version 1.2 that goes well: both Force commands, the session
state, an older version, the log, the write, the session state, the new version, the log and the
integrity. -/
def goesWell : List CmdOutcome :=
  [.completed NFCSTATUS.success [], .completed NFCSTATUS.success [],
    .completed NFCSTATUS.success [0, 0, 17],
    .completed NFCSTATUS.success [8, 0, 0, 0, 0, 0, 0, 1, 1],
    .completed NFCSTATUS.success [], .completed NFCSTATUS.success [],
    .completed NFCSTATUS.success [0, 0, 17],
    .completed NFCSTATUS.success [8, 0, 0, 0, 0, 0, 0, 2, 1],
    .completed NFCSTATUS.success [],
    .completed NFCSTATUS.success (0x7F :: List.replicate 30 0)]

/-! ## Whole runs -/

section Runs

variable {o : Oracle} {src freq : UInt8} {ctx : FwIoctlCtx}

/-- The invariant after the first sequence. -/
theorem Bounded.first (hclean : Clean o (firstSequence o src freq ctx).2.trace) :
    Bounded (dwnldRuns (firstSequence o src freq ctx).2.trace) (firstSequence o src freq ctx).1
      (firstSequence o src freq ctx).2.ctx := by
  rcases firstSequence_cases o src freq ctx with ⟨-, heq⟩ | ⟨st, s', hrun, heq⟩
  · rw [heq]
    exact ⟨Nat.zero_le _, Nat.zero_le _, fun _ => Nat.zero_le _, fun hi => Bool.noConfusion hi,
      fun hr => Bool.noConfusion hr, fun hr => Bool.noConfusion hr⟩
  · rw [heq] at hclean ⊢
    obtain ⟨evs, htr, hev⟩ := hrun.addsSteps
    have hruns : dwnldRuns (s'.emit (.sequence .dwnld st)).trace = 0 + 1 := by
      have hsteps : dwnldRuns s'.trace = dwnldRuns [] := by
        rw [htr]
        exact dwnldRuns_append_other fun e he => isDwnldRun_of_not_sequence (hev e he)
      rw [HalState.emit_trace, dwnldRuns, List.countP_append]
      exact congrArg (· + 1) hsteps
    rw [hruns]
    have hend : Bounded (0 + 1) st s'.ctx :=
      Bounded.dwnld hrun ⟨rfl, rfl, rfl, rfl, rfl⟩ (by decide) (Nat.zero_le _)
        (Nat.zero_le _) (fun hr => Bool.noConfusion hr) hclean.of_append
    exact hend

/-- A run in which no step fails early ends, and runs the download sequence at most
`PHLIBNFC_IOCTL_DNLD_MAX_ATTEMPTS` times. -/
theorem fwDownloadSeq_terminates
    (hclean : ∀ fuel, ∀ e ∈ (fwDownloadSeq o src freq fuel ctx).2.trace, e.early o = false) :
    (∃ fuel, (fwDownloadSeq o src freq fuel ctx).1.isSome) ∧
      ∀ fuel, dwnldRuns (fwDownloadSeq o src freq fuel ctx).2.trace ≤ dnldMaxAttempts.toNat := by
  -- the invariant of the levels, in a run that stays without early failures
  let I : NFCSTATUS → HalState → Prop := fun st s =>
    Bounded (dwnldRuns s.trace) st s.ctx ∧ ∀ fuel, Clean o (fwDnldComplete o fuel st s).2.trace
  have hstart : I (firstSequence o src freq ctx).1 (firstSequence o src freq ctx).2 :=
    ⟨Bounded.first (hclean 0), hclean⟩
  have hstep : ∀ {st s w s'}, I st s → completeLevel o st s = (w, true, s') →
      I w s' ∧ rank w s' < rank st s := by
    intro st s w s' ⟨hb, hcl⟩ hlevel
    have hcl' : ∀ fuel, Clean o (fwDnldComplete o fuel w s').2.trace := by
      intro fuel
      have h := hcl (fuel + 1)
      rw [fwDnldComplete_again hlevel] at h
      exact h
    obtain ⟨hb', hlt⟩ := hb.level (.of_eq hlevel) (hcl' 0)
    exact ⟨⟨hb', hcl'⟩, hlt⟩
  refine ⟨⟨_, fwDnldComplete_isSome hstep _ hstart (Nat.lt_succ_self _)⟩, fun fuel => ?_⟩
  refine fwDnldComplete_invariant (I := I) (J := fun _ s => dwnldRuns s.trace ≤ 3) ?_ ?_ ?_ fuel hstart
  · exact fun h => h.1.runs
  · exact fun h hlevel => (hstep h hlevel).1
  · intro st s w s' h hlevel
    rw [(LevelOutcome.of_eq hlevel).trace_of_done]
    exact h.1.runs

end Runs

/-- The session stays open after the first write, and the retried download goes well. -/
theorem retriedDownload_terminates :
    (∃ fuel, (fwDownloadSeq (.script (openAfterWrite ++ goesWell) .initFailed 0x0102) 1 0 fuel
        .init).1.isSome) ∧
      ∀ fuel, dwnldRuns (fwDownloadSeq (.script (openAfterWrite ++ goesWell) .initFailed 0x0102) 1 0
        fuel .init).2.trace ≤ dnldMaxAttempts.toNat := by
  apply fwDownloadSeq_terminates
  intro fuel
  set o := Oracle.script (openAfterWrite ++ goesWell) .initFailed 0x0102 with ho
  set first := firstSequence o 1 0 .init with hfirst
  set log := completeLevel o first.1 first.2 with hlog
  set retried := completeLevel o log.1 log.2.2 with hretried
  have h₁ : completeLevel o first.1 first.2 = (log.1, true, log.2.2) := by decide
  have h₂ : completeLevel o log.1 log.2.2 = (retried.1, true, retried.2.2) := by decide
  have h₃ : completeLevel o retried.1 retried.2.2 =
      ((completeLevel o retried.1 retried.2.2).1, false,
        (completeLevel o retried.1 retried.2.2).2.2) := by decide
  rw [fwDownloadSeq_eq, ← hfirst]
  rcases fuel with _ | _ | _ | fuel
  · decide
  · decide
  · decide
  · rw [fwDnldComplete_again h₁, fwDnldComplete_again h₂, fwDnldComplete_done h₃]
    decide

/-! ## A run that does not end -/

/-- A pending retry whose requests all fail. -/
structure Stuck (o : Oracle) (st : NFCSTATUS) (s : HalState) : Prop where
  status : st = NFCSTATUS.failed
  initiated : s.ctx.bDnldInitiated = false
  recovery : s.ctx.bDnldRecovery = false
  retry : s.ctx.bRetryDnld = true
  cmd : ∀ n, s.nCmd ≤ n → o.cmd n = .completed NFCSTATUS.failed []

/-- A Force command that is answered. -/
theorem fwDnldNormal_answered {o : Oracle} {k : SeqKind} {s : HalState} {status : NFCSTATUS}
    {rsp : List UInt8} (hf : Fresh s.ctx) (hcmd : o.cmd s.nCmd = .completed status rsp) :
    fwDnldNormal o k s = (NFCSTATUS.success,
      s.after k (.force s.ctx.bClkSrcVal s.ctx.bClkFreqVal) (.completed status rsp) s.ctx) := by
  simp only [fwDnldNormal, requestForce, hf.skipForce, hf.recovery, Bool.false_eq_true, if_false]
  rw [makeRequest_completed hcmd]
  rfl

/-- The session state cannot be read. -/
theorem fwDnldGetSessnState_failed {o : Oracle} {k : SeqKind} {s : HalState} {rsp : List UInt8}
    (hskip : s.ctx.bSkipSeq = false) (hcmd : o.cmd s.nCmd = .completed NFCSTATUS.failed rsp) :
    fwDnldGetSessnState o k s = (NFCSTATUS.failed,
      s.after k .getSessionState (.completed NFCSTATUS.failed rsp) s.ctx) := by
  simp only [fwDnldGetSessnState, hskip, Bool.false_eq_true, if_false]
  rw [makeRequest_completed hcmd]
  have hcb : fwDnldGetSessnStateCb NFCSTATUS.failed rsp (id s.ctx) = (NFCSTATUS.failed, s.ctx) :=
    if_neg fun h => failed_ne_success h.1
  rw [hcb, if_neg failed_ne_success]

/-- The retried sequence fails at the session state and leaves the retry pending. -/
theorem Stuck.level {o : Oracle} {st : NFCSTATUS} {s : HalState} (h : Stuck o st s) :
    ∃ w s', completeLevel o st s = (w, true, s') ∧ Stuck o w s' := by
  obtain ⟨rfl, hinit, hrec, hretry, hcmd⟩ := h
  set u : HalState := { s with ctx := retryFlags s.ctx } with hu
  have hlevel : completeLevel o NFCSTATUS.failed s =
      ((fwSeqHandler .retry (dwnldSeqHandler o) u).1, true,
        (fwSeqHandler .retry (dwnldSeqHandler o) u).2) := by
    have hreq : requestRecovery NFCSTATUS.failed s.ctx = s.ctx := rfl
    simp only [completeLevel, hreq, hinit, hrec, hretry, Bool.false_eq_true, if_false, if_true, hu]
  have hf : Fresh u.ctx := fresh_retryFlags s.ctx
  -- both Force commands, then the session state
  have h₁ := fwDnldNormal_answered (k := .retry) hf (hcmd u.nCmd le_rfl)
  set u₁ := u.after .retry (.force u.ctx.bClkSrcVal u.ctx.bClkFreqVal)
    (.completed NFCSTATUS.failed []) u.ctx with hu₁
  have h₂ := fwDnldNormal_answered (k := .retry) (s := u₁) hf (hcmd u₁.nCmd (Nat.le_succ _))
  set u₂ := u₁.after .retry (.force u₁.ctx.bClkSrcVal u₁.ctx.bClkFreqVal)
    (.completed NFCSTATUS.failed []) u₁.ctx with hu₂
  have h₃ := fwDnldGetSessnState_failed (k := .retry) (s := u₂) rfl
    (hcmd u₂.nCmd (Nat.le_add_right s.nCmd 2))
  have hrun : runSteps .retry (dwnldSeqHandler o) u = (NFCSTATUS.failed,
      u₂.after .retry .getSessionState (.completed NFCSTATUS.failed []) u₂.ctx) := by
    rw [dwnldSeqHandler, runSteps_cons, h₁, if_pos rfl, runSteps_cons, h₂, if_pos rfl,
      runSteps_cons, h₃, if_neg failed_ne_success]
  refine ⟨_, _, hlevel, ?_⟩
  rw [fwSeqHandler, hrun]
  exact ⟨rfl, rfl, rfl, hretry, fun n hn => hcmd n (le_trans (Nat.le_add_right s.nCmd 3) hn)⟩

/-- When the session is still open after the write and nothing is answered from then on, the
download sequence is retried for ever. -/
theorem openSession_never_ends :
    ¬((∃ fuel, (fwDownloadSeq (.script openAfterWrite (.completed NFCSTATUS.failed []) 0x0102) 1 0
        fuel .init).1.isSome) ∧
      ∀ fuel, dwnldRuns (fwDownloadSeq (.script openAfterWrite (.completed NFCSTATUS.failed [])
        0x0102) 1 0 fuel .init).2.trace ≤ dnldMaxAttempts.toNat) := by
  rintro ⟨⟨fuel, hsome⟩, -⟩
  set o := Oracle.script openAfterWrite (.completed NFCSTATUS.failed []) 0x0102 with ho
  -- the log of the first download comes before the retry
  set first := firstSequence o 1 0 .init with hfirst
  have hlog : completeLevel o first.1 first.2 = (NFCSTATUS.failed, true,
      (completeLevel o first.1 first.2).2.2) := by decide
  have hstuck : Stuck o NFCSTATUS.failed (completeLevel o first.1 first.2).2.2 := by
    refine ⟨rfl, by decide, by decide, by decide, fun n hn => ?_⟩
    have hcount : (completeLevel o first.1 first.2).2.2.nCmd = openAfterWrite.length := by decide
    rw [hcount] at hn
    exact List.getD_eq_default _ _ hn
  have hnone : (fwDownloadSeq o 1 0 fuel .init).1 = none := by
    show (fwDnldComplete o fuel first.1 first.2).1 = none
    cases fuel with
    | zero => rfl
    | succ fuel =>
      rw [fwDnldComplete_again hlog]
      exact Option.map_eq_none_iff.2 (fwDnldComplete_none Stuck.level fuel hstuck)
  rw [hnone] at hsome
  exact Bool.noConfusion hsome

end AliceHal.Pn54x.FwDnld
