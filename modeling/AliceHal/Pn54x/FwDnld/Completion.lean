import AliceHal.Pn54x.FwDnld.DwnldEnd

/-!
# What a Level of the Completion Handler Can Do

The recovery sequence and the log sequence, and from them one level of
`phNxpNciHal_fw_dnld_complete`: it logs, recovers, retries or ends the run.

- `Recovering`: a part of the recovery sequence, and how parts compose
- `recovering_runSteps`: the recovery sequence
- `LogOutcome`: the log sequence
- `LevelOutcome`: one level, and `levelOutcome`
- `Settled`: nothing is pending
- `fwDnldComplete_invariant`, `fwDnldComplete_isSome`, `fwDnldComplete_none`: all levels
- `firstSequence_pending`: what the first sequence leaves
-/

namespace AliceHal.Pn54x.FwDnld

/-! ## Recovery -/

/-- A request of the recovery sequence. -/
def Event.isRecover : Event → Prop
  | .request .recover _ .reset _ | .request .recover _ (.force _ _) _
  | .request .recover _ (.write true) _ | .request .recover _ .rawReq _ => True
  | _ => False

/-- A part of the recovery sequence, from `s` to `s'` with status `st`, that counts at most `n`
attempts. -/
structure Recovering (o : Oracle) (s : HalState) (st : NFCSTATUS) (s' : HalState) (n : Nat) :
    Prop where
  initiated : s'.ctx.bDnldInitiated = s.ctx.bDnldInitiated
  force : s'.ctx.bForceDnld = s.ctx.bForceDnld
  plain : st ≠ NFCSTATUS.writeFailed ∧ st ≠ NFCSTATUS.rejected
  attempts : s.ctx.bDnldAttempts.toNat + n < 256 →
    s.ctx.bDnldAttempts.toNat ≤ s'.ctx.bDnldAttempts.toNat ∧
      s'.ctx.bDnldAttempts.toNat ≤ s.ctx.bDnldAttempts.toNat + n
  /-- a failure that leaves the recovery flag set is an early one -/
  events : ∃ evs, s'.trace = s.trace ++ evs ∧ (∀ e ∈ evs, e.isRecover) ∧
    (s'.ctx.bDnldRecovery = true → s.ctx.bDnldRecovery = true ∧
      (st ≠ NFCSTATUS.success → ∃ e ∈ evs, e.early o = true))

namespace Recovering

variable {o : Oracle} {s s₁ s₂ : HalState} {st : NFCSTATUS} {n m : Nat}

/-- Nothing is requested and no flag of interest changes. -/
theorem silent (o : Oracle) {s s' : HalState} (htrace : s'.trace = s.trace)
    (hinit : s'.ctx.bDnldInitiated = s.ctx.bDnldInitiated)
    (hforce : s'.ctx.bForceDnld = s.ctx.bForceDnld)
    (hrec : s'.ctx.bDnldRecovery = s.ctx.bDnldRecovery)
    (hatt : s.ctx.bDnldAttempts.toNat + n < 256 →
      s.ctx.bDnldAttempts.toNat ≤ s'.ctx.bDnldAttempts.toNat ∧
        s'.ctx.bDnldAttempts.toNat ≤ s.ctx.bDnldAttempts.toNat + n) :
    Recovering o s NFCSTATUS.success s' n where
  initiated := hinit
  force := hforce
  plain := by decide
  attempts := hatt
  events := ⟨[], by simp [htrace], by simp,
    fun h => ⟨hrec.symm.trans h, fun hne => absurd rfl hne⟩⟩

theorem trans (h : Recovering o s NFCSTATUS.success s₁ n) (h' : Recovering o s₁ st s₂ m) :
    Recovering o s st s₂ (n + m) where
  initiated := h'.initiated.trans h.initiated
  force := h'.force.trans h.force
  plain := h'.plain
  attempts hlt := by
    have h₁ := h.attempts (by omega)
    have h₂ := h'.attempts (by omega)
    omega
  events := by
    obtain ⟨evs, htr, hev, hrec⟩ := h.events
    obtain ⟨evs', htr', hev', hrec'⟩ := h'.events
    refine ⟨evs ++ evs', by rw [htr', htr, List.append_assoc], ?_, ?_⟩
    · intro e he
      exact (List.mem_append.1 he).elim (hev e) (hev' e)
    · intro hr
      obtain ⟨hr₁, hfail⟩ := hrec' hr
      refine ⟨(hrec hr₁).1, fun hne => ?_⟩
      obtain ⟨e, he, hb⟩ := hfail hne
      exact ⟨e, List.mem_append_right _ he, hb⟩

end Recovering

section RecoverySteps

variable {o : Oracle} {s : HalState} {cmd : DnldCmd} {n : Nat}

theorem ite_not_recovery (c : Prop) [Decidable c] :
    (if c then NFCSTATUS.success else NFCSTATUS.failed) ≠ NFCSTATUS.writeFailed ∧
      (if c then NFCSTATUS.success else NFCSTATUS.failed) ≠ NFCSTATUS.rejected := by
  split
  · exact success_not_recovery
  · exact failed_not_recovery

/-- What a request made in the context `c` may do in the recovery sequence. -/
structure RecoveryAnswer (o : Oracle) (c : FwIoctlCtx) (cmd : DnldCmd) (n : Nat) (out : CmdOutcome)
    (st : NFCSTATUS) (ctx : FwIoctlCtx) : Prop where
  initiated : ctx.bDnldInitiated = c.bDnldInitiated
  force : ctx.bForceDnld = c.bForceDnld
  plain : st ≠ NFCSTATUS.writeFailed ∧ st ≠ NFCSTATUS.rejected
  attempts : c.bDnldAttempts.toNat + n < 256 →
    c.bDnldAttempts.toNat ≤ ctx.bDnldAttempts.toNat ∧
      ctx.bDnldAttempts.toNat ≤ c.bDnldAttempts.toNat + n
  recovery : ctx.bDnldRecovery = true → c.bDnldRecovery = true ∧
    (st ≠ NFCSTATUS.success → (Event.request .recover c cmd out).early o = true)

/-- A request function of the recovery sequence, from what it does with each outcome. -/
theorem makeRequest_recovering {prepare : FwIoctlCtx → FwIoctlCtx}
    {onRefused : Refusal → FwIoctlCtx → NFCSTATUS × FwIoctlCtx}
    {cb : NFCSTATUS → List UInt8 → FwIoctlCtx → NFCSTATUS × FwIoctlCtx}
    (hcmd : ∀ out, (Event.request .recover s.ctx cmd out).isRecover)
    (hnone : RecoveryAnswer o s.ctx cmd n .initFailed NFCSTATUS.failed s.ctx)
    (hint : RecoveryAnswer o s.ctx cmd n .interrupted NFCSTATUS.failed (prepare s.ctx))
    (href : ∀ r, RecoveryAnswer o s.ctx cmd n (.refused r) (onRefused r (prepare s.ctx)).1
      (onRefused r (prepare s.ctx)).2)
    (hcb : ∀ status rsp, RecoveryAnswer o s.ctx cmd n (.completed status rsp)
      (if (cb status rsp (prepare s.ctx)).1 = NFCSTATUS.success then NFCSTATUS.success
        else NFCSTATUS.failed) (cb status rsp (prepare s.ctx)).2) :
    Recovering o s (makeRequest o cmd prepare onRefused cb .recover s).1
      (makeRequest o cmd prepare onRefused cb .recover s).2 n := by
  have hafter : ∀ {out st ctx}, RecoveryAnswer o s.ctx cmd n out st ctx →
      Recovering o s st (s.after .recover cmd out ctx) n := by
    intro out st ctx h
    refine ⟨h.initiated, h.force, h.plain, h.attempts, _, rfl, ?_, ?_⟩
    · intro e he
      rw [List.mem_singleton] at he
      subst he
      exact hcmd out
    · intro hr
      exact ⟨(h.recovery hr).1, fun hne => ⟨_, List.mem_singleton_self _, (h.recovery hr).2 hne⟩⟩
  cases hout : o.cmd s.nCmd with
  | initFailed =>
    rw [makeRequest_initFailed hout]
    exact hafter hnone
  | refused r =>
    rw [makeRequest_refused hout]
    exact hafter (href r)
  | interrupted =>
    rw [makeRequest_interrupted hout]
    exact hafter hint
  | completed status rsp =>
    rw [makeRequest_completed hout]
    exact hafter (hcb status rsp)

/-- A request that fails early and changes nothing. -/
theorem RecoveryAnswer.early {c : FwIoctlCtx} {out : CmdOutcome} {st : NFCSTATUS}
    (hst : st ≠ NFCSTATUS.writeFailed ∧ st ≠ NFCSTATUS.rejected)
    (hearly : (Event.request .recover c cmd out).early o = true) :
    RecoveryAnswer o c cmd n out st c :=
  ⟨rfl, rfl, hst, fun _ => ⟨le_rfl, Nat.le_add_right _ _⟩, fun h => ⟨h, fun _ => hearly⟩⟩

theorem fwDnldReset_recovering :
    Recovering o s (fwDnldReset o .recover s).1 (fwDnldReset o .recover s).2 0 := by
  unfold fwDnldReset
  split
  · exact .silent o rfl rfl rfl rfl fun _ => ⟨le_rfl, le_rfl⟩
  · refine makeRequest_recovering (fun _ => trivial) (.early failed_not_recovery rfl)
      (.early failed_not_recovery rfl) (fun _ => .early failed_not_recovery rfl) ?_
    intro status rsp
    by_cases hst : status = NFCSTATUS.success
    · have hcb : (fwDnldResetCb status (id s.ctx)).1 = NFCSTATUS.success := hst
      rw [if_pos hcb]
      exact ⟨rfl, rfl, success_not_recovery, fun _ => ⟨le_rfl, le_rfl⟩,
        fun h => ⟨h, fun hne => absurd rfl hne⟩⟩
    · have hcb : ¬(fwDnldResetCb status (id s.ctx)).1 = NFCSTATUS.success := hst
      rw [if_neg hcb]
      apply RecoveryAnswer.early failed_not_recovery
      show (!decide (status = NFCSTATUS.success)) = true
      rw [decide_eq_false hst]
      rfl

/-- Counting one attempt. -/
theorem attempts_succ (a : UInt8) (h : a.toNat + 1 < 256) :
    a.toNat ≤ (a + 1).toNat ∧ (a + 1).toNat ≤ a.toNat + 1 := by
  have hadd : (a + 1).toNat = a.toNat + 1 := by
    rw [UInt8.toNat_add]
    exact Nat.mod_eq_of_lt h
  omega

theorem fwDnldForce_recovering :
    Recovering o s (fwDnldForce o .recover s).1 (fwDnldForce o .recover s).2 1 := by
  unfold fwDnldForce requestForce
  split
  · exact .silent o rfl rfl rfl rfl fun _ => ⟨le_rfl, Nat.le_add_right _ _⟩
  · -- the attempt is counted before the request is made
    set c : FwIoctlCtx :=
      if s.ctx.bDnldRecovery = true then { s.ctx with bDnldAttempts := s.ctx.bDnldAttempts + 1 }
      else s.ctx with hc
    have hcount : Recovering o s NFCSTATUS.success { s with ctx := c } 1 := by
      rw [hc]
      split
      · exact .silent o rfl rfl rfl rfl (attempts_succ _)
      · exact .silent o rfl rfl rfl rfl fun _ => ⟨le_rfl, Nat.le_add_right _ _⟩
    apply hcount.trans (m := 0)
    apply makeRequest_recovering
    · exact fun _ => trivial
    · exact .early failed_not_recovery rfl
    · exact .early failed_not_recovery rfl
    · intro r
      exact ⟨rfl, rfl, r.not_recovery, fun _ => ⟨le_rfl, le_rfl⟩, fun h => ⟨h, fun _ => rfl⟩⟩
    · intro status rsp
      have hcb : (fwDnldForceCb status (id c)).1 = NFCSTATUS.success := rfl
      rw [if_pos hcb]
      unfold fwDnldForceCb
      dsimp only
      split
      · exact ⟨rfl, rfl, success_not_recovery, fun _ => ⟨le_rfl, le_rfl⟩,
          fun h => Bool.noConfusion h⟩
      · exact ⟨rfl, rfl, success_not_recovery, fun _ => ⟨le_rfl, le_rfl⟩,
          fun h => ⟨h, fun hne => absurd rfl hne⟩⟩

/-- The recovery write resets the flag for the recovery, unless it cannot be made. -/
theorem fwDnldRecover_recovering :
    Recovering o s (fwDnldRecover o .recover s).1 (fwDnldRecover o .recover s).2 1 ∧
      ((fwDnldRecover o .recover s).1 = NFCSTATUS.success →
        (fwDnldRecover o .recover s).2.ctx.bDnldRecovery = false) := by
  unfold fwDnldRecover
  split
  · refine ⟨makeRequest_recovering (fun _ => trivial) (.early failed_not_recovery rfl) ?_ ?_ ?_, ?_⟩
    · exact ⟨rfl, rfl, failed_not_recovery, attempts_succ _, fun h => Bool.noConfusion h⟩
    · intro r
      exact ⟨rfl, rfl, r.not_recovery, attempts_succ _, fun h => Bool.noConfusion h⟩
    · intro status rsp
      unfold fwDnldRecoverCb
      split
      rename_i wStatus ctx heq
      have hctx : ctx.bDnldInitiated = s.ctx.bDnldInitiated ∧ ctx.bForceDnld = s.ctx.bForceDnld ∧
          ctx.bDnldAttempts = s.ctx.bDnldAttempts + 1 := by
        split at heq
        · cases heq
          split <;> exact ⟨rfl, rfl, rfl⟩
        · cases heq
          exact ⟨rfl, rfl, rfl⟩
      refine ⟨hctx.1, hctx.2.1, ite_not_recovery _, fun h => ?_, fun h => Bool.noConfusion h⟩
      show _ ≤ ctx.bDnldAttempts.toNat ∧ ctx.bDnldAttempts.toNat ≤ _
      rw [hctx.2.2]
      exact attempts_succ _ h
    · intro hst
      cases hout : o.cmd s.nCmd with
      | initFailed =>
        rw [makeRequest_initFailed hout] at hst
        exact absurd hst failed_ne_success
      | refused r =>
        rw [makeRequest_refused hout]
        rfl
      | interrupted =>
        rw [makeRequest_interrupted hout]
        rfl
      | completed status rsp =>
        rw [makeRequest_completed hout]
        rfl
  · rename_i hrec
    exact ⟨.silent o rfl rfl rfl rfl fun _ => ⟨le_rfl, Nat.le_add_right _ _⟩,
      fun _ => Bool.not_eq_true _ ▸ hrec⟩

/-- The NCI command after the keys have been updated. -/
theorem fwDnldSendNcicmd_recovering (hrec : s.ctx.bDnldRecovery = false) :
    Recovering o s (fwDnldSendNcicmd o .recover s).1 (fwDnldSendNcicmd o .recover s).2 0 := by
  unfold fwDnldSendNcicmd
  split
  · exact .silent o rfl rfl rfl rfl fun _ => ⟨le_rfl, le_rfl⟩
  · dsimp only
    split
    · exact ⟨rfl, rfl, failed_not_recovery, fun _ => ⟨le_rfl, le_rfl⟩,
        ⟨[], by simp, by simp, fun h => absurd h (by simp [hrec])⟩⟩
    · -- no outcome touches the flags of interest, and the recovery flag is no longer set
      have hdone : ∀ {c : FwIoctlCtx} {out : CmdOutcome} {st : NFCSTATUS},
          c.bDnldInitiated = s.ctx.bDnldInitiated → c.bForceDnld = s.ctx.bForceDnld →
          c.bDnldAttempts = s.ctx.bDnldAttempts → c.bDnldRecovery = s.ctx.bDnldRecovery →
          (st ≠ NFCSTATUS.writeFailed ∧ st ≠ NFCSTATUS.rejected) →
          RecoveryAnswer o s.ctx .rawReq 0 out st c := by
        intro c out st hi hfo ha hr hst
        refine ⟨hi, hfo, hst, fun _ => by rw [ha]; exact ⟨le_rfl, le_rfl⟩, fun h => ?_⟩
        rw [hr, hrec] at h
        cases h
      set s₁ : HalState := { s with nIoctl := s.nIoctl + 1 } with hs₁
      have h : Recovering o s₁
          (makeRequest o .rawReq id (fun r ctx => (r.status, ctx))
            (fun status _ => fwDnldSendNcicmdCb (o.ioctl (s.nIoctl + 1)) status) .recover s₁).1
          (makeRequest o .rawReq id (fun r ctx => (r.status, ctx))
            (fun status _ => fwDnldSendNcicmdCb (o.ioctl (s.nIoctl + 1)) status) .recover s₁).2 0 := by
        apply makeRequest_recovering
        · exact fun _ => trivial
        · exact hdone rfl rfl rfl rfl failed_not_recovery
        · exact hdone rfl rfl rfl rfl failed_not_recovery
        · exact fun r => hdone rfl rfl rfl rfl r.not_recovery
        · intro status rsp
          unfold fwDnldSendNcicmdCb
          split
          rename_i wStatus ctx heq
          split at heq
          · cases heq
            exact hdone rfl rfl rfl rfl (ite_not_recovery _)
          · cases heq
            exact hdone rfl rfl rfl rfl (ite_not_recovery _)
      exact ⟨h.initiated, h.force, h.plain, h.attempts, h.events⟩

/-- One more function in front. -/
theorem Recovering.cons {f : Step} {fs : List Step} {m : Nat}
    (hf : Recovering o s (f .recover s).1 (f .recover s).2 n)
    (hrest : (f .recover s).1 = NFCSTATUS.success →
      Recovering o (f .recover s).2 (runSteps .recover fs (f .recover s).2).1
        (runSteps .recover fs (f .recover s).2).2 m) :
    Recovering o s (runSteps .recover (f :: fs) s).1 (runSteps .recover (f :: fs) s).2 (n + m) := by
  rw [runSteps_cons]
  split
  · rename_i hst
    rw [hst] at hf
    exact hf.trans (hrest hst)
  · refine ⟨hf.initiated, hf.force, hf.plain, fun hlt => ?_, hf.events⟩
    have := hf.attempts (by omega)
    omega

/-- The recovery sequence. Without an early failure it leaves no recovery pending. -/
theorem recovering_runSteps :
    Recovering o s (runSteps .recover (dwnldRecSeqHandler o) s).1
      (runSteps .recover (dwnldRecSeqHandler o) s).2 2 := by
  refine .cons (n := 0) (m := 2) fwDnldReset_recovering fun _ => ?_
  refine .cons (n := 1) (m := 1) fwDnldForce_recovering fun _ => ?_
  have hrecover := fwDnldRecover_recovering (o := o) (s := (fwDnldForce o .recover
    (fwDnldReset o .recover s).2).2)
  refine .cons (n := 1) (m := 0) hrecover.1 fun hst => ?_
  refine .cons (n := 0) (m := 0) (fwDnldSendNcicmd_recovering (hrecover.2 hst)) fun _ => ?_
  exact .silent o rfl rfl rfl rfl fun _ => ⟨le_rfl, le_rfl⟩

/-- A recovery sequence that succeeds leaves no recovery pending. -/
theorem recovered_runSteps
    (h : (runSteps .recover (dwnldRecSeqHandler o) s).1 = NFCSTATUS.success) :
    (runSteps .recover (dwnldRecSeqHandler o) s).2.ctx.bDnldRecovery = false := by
  obtain ⟨-, heq₁⟩ := runSteps_success h
  rw [dwnldRecSeqHandler, heq₁] at h ⊢
  obtain ⟨-, heq₂⟩ := runSteps_success h
  rw [heq₂] at h ⊢
  obtain ⟨hst, heq₃⟩ := runSteps_success h
  rw [heq₃] at h ⊢
  have hrec := (fwDnldRecover_recovering (o := o)).2 hst
  obtain ⟨-, heq₄⟩ := runSteps_success h
  rw [heq₄]
  -- the NCI command does not set the flag again
  obtain ⟨evs, -, -, hkeep⟩ := (fwDnldSendNcicmd_recovering (o := o) hrec).events
  rw [← Bool.not_eq_true]
  intro hset
  rw [hrec] at hkeep
  exact Bool.noConfusion (hkeep hset).1

end RecoverySteps

/-! ## Log -/

/-- The log sequence run by the completion handler with the status of the write. -/
structure LogOutcome (status : NFCSTATUS) (s : HalState) (st : NFCSTATUS) (s' : HalState) :
    Prop where
  ctx : s'.ctx = { s.ctx with
    bLastStatus := status, bDnldAttemptFailed := true, bDnldInitiated := false }
  status : status ≠ NFCSTATUS.success → st = status
  /-- nothing is logged when the sequence is skipped -/
  trace : ∃ st',
    ((s.ctx.bSkipSeq = true ∨ s.ctx.bForceDnld = true) ∧
      s'.trace = s.trace ++ [.sequence .log st']) ∨
    ∃ c out, s'.trace = s.trace ++
      [.request .log c (.log s.ctx.tLogParams) out, .sequence .log st']

/-- With the download no longer marked as initiated, the log function changes no flag. -/
theorem fwDnldLog_uninitiated {o : Oracle} {k : SeqKind} {s : HalState}
    (hinit : s.ctx.bDnldInitiated = false) :
    (fwDnldLog o k s).2.ctx = s.ctx ∧
      (((s.ctx.bSkipSeq = true ∨ s.ctx.bForceDnld = true) ∧
          (fwDnldLog o k s).2.trace = s.trace) ∨
        ∃ out, (fwDnldLog o k s).2.trace =
          s.trace ++ [.request k s.ctx (.log s.ctx.tLogParams) out]) := by
  have hset : { s.ctx with bDnldInitiated := false } = s.ctx := by rw [← hinit]
  unfold fwDnldLog
  split
  · rename_i hskip
    exact ⟨rfl, .inl ⟨hskip.1, rfl⟩⟩
  · cases hout : o.cmd s.nCmd with
    | initFailed =>
      rw [makeRequest_initFailed hout]
      exact ⟨rfl, .inr ⟨_, rfl⟩⟩
    | refused r =>
      rw [makeRequest_refused hout]
      exact ⟨hset, .inr ⟨_, rfl⟩⟩
    | interrupted =>
      rw [makeRequest_interrupted hout]
      exact ⟨rfl, .inr ⟨_, rfl⟩⟩
    | completed status rsp =>
      rw [makeRequest_completed hout]
      refine ⟨?_, .inr ⟨_, rfl⟩⟩
      show (fwDnldLogCb status s.ctx).2 = s.ctx
      unfold fwDnldLogCb
      split
      · exact hset
      · rfl

theorem logOutcome_completeLog (o : Oracle) (status : NFCSTATUS) (s : HalState) :
    LogOutcome status s (completeLog o status s).1 (completeLog o status s).2 := by
  set s₀ : HalState := { s with ctx := { s.ctx with
    bLastStatus := status, bDnldAttemptFailed := true, bDnldInitiated := false } } with hs₀
  obtain ⟨hctx, htrace⟩ := fwDnldLog_uninitiated (o := o) (k := .log) (s := s₀) rfl
  have hrun : (runSteps .log (dwnldLogSeqHandler o) s₀).2 = (fwDnldLog o .log s₀).2 := by
    rw [dwnldLogSeqHandler, runSteps_cons]
    split <;> rfl
  have htr' : (completeLog o status s).2.trace = (fwDnldLog o .log s₀).2.trace ++
      [.sequence .log (runSteps .log (dwnldLogSeqHandler o) s₀).1] := by
    rw [← hrun]
    rfl
  refine ⟨?_, ?_, (runSteps .log (dwnldLogSeqHandler o) s₀).1, ?_⟩
  · show (runSteps .log (dwnldLogSeqHandler o) s₀).2.ctx = _
    rw [hrun, hctx]
  · intro hne
    show (if (runSteps .log (dwnldLogSeqHandler o) s₀).2.ctx.bLastStatus ≠ NFCSTATUS.success then
      (runSteps .log (dwnldLogSeqHandler o) s₀).2.ctx.bLastStatus else _) = status
    rw [hrun, hctx]
    exact if_pos hne
  · rw [htr']
    rcases htrace with ⟨hskip, htr⟩ | ⟨out, htr⟩
    · exact .inl ⟨hskip, by rw [htr]⟩
    · exact .inr ⟨s₀.ctx, out, by rw [htr, List.append_assoc]; rfl⟩

/-! ## Levels -/

/-- Recovery is asked for and granted, asked for with no attempt left, or not asked for. -/
theorem requestRecovery_cases (status : NFCSTATUS) (ctx : FwIoctlCtx) :
    (asksRecovery status ∧ ctx.bDnldAttempts < dnldMaxAttempts ∧ ∃ skipForce,
      requestRecovery status ctx =
        { ctx with bDnldRecovery := true, bSkipForce := skipForce }) ∨
    (asksRecovery status ∧ ¬ctx.bDnldAttempts < dnldMaxAttempts ∧
      requestRecovery status ctx = { ctx with bDnldRecovery := false, bRetryDnld := false }) ∨
    (¬asksRecovery status ∧ requestRecovery status ctx = ctx) := by
  unfold requestRecovery asksRecovery
  by_cases hwf : status = NFCSTATUS.writeFailed
  · rw [if_pos hwf]
    split
    · rename_i hlt
      exact .inl ⟨.inl hwf, hlt, _, rfl⟩
    · rename_i hlt
      exact .inr (.inl ⟨.inl hwf, hlt, rfl⟩)
  · rw [if_neg hwf]
    by_cases hrej : status = NFCSTATUS.rejected
    · rw [if_pos hrej]
      split
      · rename_i hlt
        exact .inl ⟨.inr hrej, hlt, _, rfl⟩
      · rename_i hlt
        exact .inr (.inl ⟨.inr hrej, hlt, rfl⟩)
    · rw [if_neg hrej]
      exact .inr (.inr ⟨not_or.2 ⟨hwf, hrej⟩, rfl⟩)

/-- Asking for recovery does not touch the other flags. -/
theorem requestRecovery_initiated (status : NFCSTATUS) (ctx : FwIoctlCtx) :
    (requestRecovery status ctx).bDnldInitiated = ctx.bDnldInitiated := by
  rcases requestRecovery_cases status ctx with ⟨-, -, _, h⟩ | ⟨-, -, h⟩ | ⟨-, h⟩ <;> rw [h]

/-- What one level of the completion handler does, given the status `status`: the status it
returns, whether it calls itself again, and the state. -/
inductive LevelOutcome (o : Oracle) (status : NFCSTATUS) (s : HalState) :
    NFCSTATUS → Bool → HalState → Prop where
  | log {c : FwIoctlCtx} {st : NFCSTATUS} {s' : HalState} (hc : c = requestRecovery status s.ctx)
      (hinit : c.bDnldInitiated = true) (h : LogOutcome status { s with ctx := c } st s') :
      LevelOutcome o status s st true s'
  | recover {c : FwIoctlCtx} {st : NFCSTATUS} {s' : HalState}
      (hc : c = requestRecovery status s.ctx) (hinit : c.bDnldInitiated = false)
      (hrec : c.bDnldRecovery = true) (h : Recovering o { s with ctx := c } st s' 2)
      (hdone : st = NFCSTATUS.success → s'.ctx.bDnldRecovery = false) :
      LevelOutcome o status s st true (s'.emit (.sequence .recover st))
  | retry {c : FwIoctlCtx} {st : NFCSTATUS} {s' : HalState}
      (hc : c = requestRecovery status s.ctx) (hinit : c.bDnldInitiated = false)
      (hrec : c.bDnldRecovery = false) (hretry : c.bRetryDnld = true)
      (h : DwnldOutcome o .retry { s with ctx := retryFlags c } st s') :
      LevelOutcome o status s st true (s'.emit (.sequence .retry st))
  | done {c : FwIoctlCtx} (hc : c = requestRecovery status s.ctx)
      (hinit : c.bDnldInitiated = false) (hrec : c.bDnldRecovery = false)
      (hretry : c.bRetryDnld = false) :
      LevelOutcome o status s (completeEnd o status { s with ctx := c }).1 false
        (completeEnd o status { s with ctx := c }).2

theorem fresh_retryFlags (ctx : FwIoctlCtx) : Fresh (retryFlags ctx) := ⟨rfl, rfl, rfl, rfl, rfl⟩

theorem levelOutcome (o : Oracle) (status : NFCSTATUS) (s : HalState) :
    LevelOutcome o status s (completeLevel o status s).1 (completeLevel o status s).2.1
      (completeLevel o status s).2.2 := by
  unfold completeLevel
  dsimp only
  split
  · rename_i hinit
    exact .log rfl hinit (logOutcome_completeLog _ _ _)
  · rename_i hinit
    rw [Bool.not_eq_true] at hinit
    split
    · rename_i hrec
      exact .recover rfl hinit hrec recovering_runSteps recovered_runSteps
    · rename_i hrec
      rw [Bool.not_eq_true] at hrec
      split
      · rename_i hretry
        exact .retry rfl hinit hrec hretry (dwnldOutcome_runSteps (fresh_retryFlags _) rfl)
      · rename_i hretry
        rw [Bool.not_eq_true] at hretry
        exact .done rfl hinit hrec hretry

theorem LevelOutcome.of_eq {o : Oracle} {st w : NFCSTATUS} {s s' : HalState} {again : Bool}
    (h : completeLevel o st s = (w, again, s')) : LevelOutcome o st s w again s' := by
  have hlevel := levelOutcome o st s
  rw [h] at hlevel
  exact hlevel

/-- Every level adds to the trace. -/
theorem LevelOutcome.trace_grows {o : Oracle} {st w : NFCSTATUS} {s s' : HalState}
    (h : LevelOutcome o st s w true s') : ∃ evs, s'.trace = s.trace ++ evs := by
  cases h with
  | log _ _ hlog =>
    obtain ⟨st', ⟨-, htr⟩ | ⟨c', out, htr⟩⟩ := hlog.trace
    · exact ⟨_, htr⟩
    · exact ⟨_, htr⟩
  | recover _ _ _ hrun _ =>
    obtain ⟨evs, htr, -⟩ := hrun.events
    exact ⟨evs ++ _, by rw [HalState.emit_trace, htr, List.append_assoc]⟩
  | retry _ _ _ _ hrun =>
    obtain ⟨evs, htr, -⟩ := hrun.addsSteps
    exact ⟨evs ++ _, by rw [HalState.emit_trace, htr, List.append_assoc]⟩

/-- The last level adds nothing to the trace. -/
theorem LevelOutcome.trace_of_done {o : Oracle} {st w : NFCSTATUS} {s s' : HalState}
    (h : LevelOutcome o st s w false s') : s'.trace = s.trace := by
  cases h with
  | done hc hinit hrec hretry =>
    unfold completeEnd
    split <;> rfl

/-- Nothing is pending: the next level is the last one. -/
structure Settled (st : NFCSTATUS) (ctx : FwIoctlCtx) : Prop where
  initiated : ctx.bDnldInitiated = false
  recovery : ctx.bDnldRecovery = false
  retry : ctx.bRetryDnld = false
  plain : ¬asksRecovery st

/-- A download sequence that succeeds leaves nothing pending. -/
theorem DwnldOutcome.settled_of_success {o : Oracle} {k : SeqKind} {st : NFCSTATUS}
    {s s' : HalState} (h : DwnldOutcome o k s st s') (hf : Fresh s.ctx)
    (hst : st = NFCSTATUS.success) : Settled st s'.ctx := by
  subst hst
  rcases h.ends hf with hend | hend
  · refine ⟨hend.initiated, hend.recovery, ?_, hend.plain⟩
    rw [← Bool.not_eq_true]
    exact fun hretry => (hend.retry hretry).1 rfl
  · have hinit : ¬s'.ctx.bDnldInitiated = true := fun hset => hend.initiated hset rfl
    refine ⟨Bool.not_eq_true _ ▸ hinit, ?_, ?_, not_asksRecovery_success⟩
    · rw [← Bool.not_eq_true]
      exact fun hrec => not_asksRecovery_success (.inl (hend.recovery hrec))
    · rw [← Bool.not_eq_true]
      exact fun hretry => hinit (hend.retry hretry).1

/-- The last level reports the status, if the mode switch succeeds. -/
theorem Settled.level {o : Oracle} {st w : NFCSTATUS} {s s' : HalState} {again : Bool}
    (h : Settled st s.ctx) (hlevel : LevelOutcome o st s w again s') :
    again = false ∧ (s.ctx.bSendNciCmd = false →
      w = if o.ioctl s.nIoctl then st else NFCSTATUS.failed) := by
  have hreq : requestRecovery st s.ctx = s.ctx := by
    rcases requestRecovery_cases st s.ctx with ⟨ha, -⟩ | ⟨ha, -⟩ | ⟨-, heq⟩
    · exact absurd ha h.plain
    · exact absurd ha h.plain
    · exact heq
  cases hlevel with
  | log hc hinit _ =>
    rw [hc, hreq, h.initiated] at hinit
    cases hinit
  | recover hc _ hrec _ _ =>
    rw [hc, hreq, h.recovery] at hrec
    cases hrec
  | retry hc _ _ hretry _ =>
    rw [hc, hreq, h.retry] at hretry
    cases hretry
  | done hc _ _ _ =>
    subst hc
    refine ⟨rfl, fun hsend => ?_⟩
    have hsend' : (requestRecovery st s.ctx).bSendNciCmd = false := by rw [hreq, hsend]
    rw [completeEnd, if_pos hsend']

/-! ## All levels -/

section AllLevels

variable {o : Oracle} {I : NFCSTATUS → HalState → Prop} {st w : NFCSTATUS} {s s' : HalState}

/-- A level that calls itself again returns its own status. -/
theorem fwDnldComplete_again (h : completeLevel o st s = (w, true, s')) (fuel : Nat) :
    fwDnldComplete o (fuel + 1) st s =
      ((fwDnldComplete o fuel w s').1.map fun _ => w, (fwDnldComplete o fuel w s').2) := by
  simp only [fwDnldComplete, h]

theorem fwDnldComplete_done (h : completeLevel o st s = (w, false, s')) (fuel : Nat) :
    fwDnldComplete o (fuel + 1) st s = (some w, s') := by
  simp only [fwDnldComplete, h]

/-- A property that every level keeps holds wherever the fuel runs out, and the last level turns
it into its conclusion; the conclusion may depend on whether the run has ended. -/
theorem fwDnldComplete_invariant {J : Bool → HalState → Prop}
    (hstop : ∀ {st s}, I st s → J false s)
    (hstep : ∀ {st s w s'}, I st s → completeLevel o st s = (w, true, s') → I w s')
    (hend : ∀ {st s w s'}, I st s → completeLevel o st s = (w, false, s') → J true s') (fuel : Nat)
    (h : I st s) : J (fwDnldComplete o fuel st s).1.isSome (fwDnldComplete o fuel st s).2 := by
  induction fuel generalizing st s with
  | zero => exact hstop h
  | succ fuel ih =>
    obtain ⟨w, again, s', hlevel⟩ : ∃ w again s', completeLevel o st s = (w, again, s') :=
      ⟨_, _, _, rfl⟩
    cases again with
    | true =>
      rw [fwDnldComplete_again hlevel, Option.isSome_map]
      exact ih (hstep h hlevel)
    | false =>
      rw [fwDnldComplete_done hlevel]
      exact hend h hlevel

/-- Levels that keep a property and lower a rank come to an end. -/
theorem fwDnldComplete_isSome {rank : NFCSTATUS → HalState → Nat}
    (hstep : ∀ {st s w s'}, I st s → completeLevel o st s = (w, true, s') →
      I w s' ∧ rank w s' < rank st s) (fuel : Nat) (h : I st s) (hfuel : rank st s < fuel) :
    (fwDnldComplete o fuel st s).1.isSome := by
  induction fuel generalizing st s with
  | zero => exact absurd hfuel (Nat.not_lt_zero _)
  | succ fuel ih =>
    obtain ⟨w, again, s', hlevel⟩ : ∃ w again s', completeLevel o st s = (w, again, s') :=
      ⟨_, _, _, rfl⟩
    cases again with
    | true =>
      obtain ⟨h', hlt⟩ := hstep h hlevel
      rw [fwDnldComplete_again hlevel, Option.isSome_map]
      exact ih h' (by omega)
    | false =>
      rw [fwDnldComplete_done hlevel]
      rfl

/-- Levels that each call themselves again never end. -/
theorem fwDnldComplete_none
    (hstep : ∀ {st s}, I st s → ∃ w s', completeLevel o st s = (w, true, s') ∧ I w s')
    (fuel : Nat) (h : I st s) : (fwDnldComplete o fuel st s).1 = none := by
  induction fuel generalizing st s with
  | zero => rfl
  | succ fuel ih =>
    obtain ⟨w, s', hlevel, h'⟩ := hstep h
    rw [fwDnldComplete_again hlevel]
    exact Option.map_eq_none_iff.2 (ih h')

end AllLevels

/-! ## The first sequence -/

/-- The first download sequence, or the failure to find an image. -/
theorem firstSequence_cases (o : Oracle) (src freq : UInt8) (ctx : FwIoctlCtx) :
    (o.initImgInfo = false ∧ firstSequence o src freq ctx =
      (NFCSTATUS.failed, ⟨startFlags src freq ctx, 0, 0, []⟩)) ∨
    ∃ st s', DwnldOutcome o .dwnld ⟨startFlags src freq ctx, 0, 0, []⟩ st s' ∧
      firstSequence o src freq ctx = (st, s'.emit (.sequence .dwnld st)) := by
  unfold firstSequence
  dsimp only
  split
  · exact .inr ⟨_, _, dwnldOutcome_runSteps ⟨rfl, rfl, rfl, rfl, rfl⟩ rfl, rfl⟩
  · rename_i himg
    exact .inl ⟨Bool.not_eq_true _ ▸ himg, rfl⟩

/-- After the first sequence a log is pending, or nothing is. -/
theorem firstSequence_pending (o : Oracle) (src freq : UInt8) (ctx : FwIoctlCtx) :
    (firstSequence o src freq ctx).2.ctx.bSendNciCmd = false ∧
      (((firstSequence o src freq ctx).2.ctx.bDnldInitiated = true ∧
          (firstSequence o src freq ctx).1 ≠ NFCSTATUS.success) ∨
        Settled (firstSequence o src freq ctx).1 (firstSequence o src freq ctx).2.ctx) := by
  rcases firstSequence_cases o src freq ctx with ⟨-, heq⟩ | ⟨st, s', hrun, heq⟩
  · rw [heq]
    exact ⟨rfl, .inr ⟨rfl, rfl, rfl, not_asksRecovery_failed⟩⟩
  · rw [heq]
    rcases hrun.ends ⟨rfl, rfl, rfl, rfl, rfl⟩ with hend | hend
    · refine ⟨hend.sendNciCmd, .inr ⟨hend.initiated, hend.recovery, ?_, hend.plain⟩⟩
      rw [← Bool.not_eq_true]
      intro hretry
      exact Bool.noConfusion (hend.retry hretry).2.1
    · refine ⟨hend.sendNciCmd, ?_⟩
      by_cases hinit : s'.ctx.bDnldInitiated = true
      · exact .inl ⟨hinit, hend.initiated hinit⟩
      · have hplain : ¬asksRecovery st := fun ha => hinit (hend.asks ha)
        refine .inr ⟨Bool.not_eq_true _ ▸ hinit, ?_, ?_, hplain⟩
        · rw [← Bool.not_eq_true]
          exact fun hrec => hplain (.inl (hend.recovery hrec))
        · rw [← Bool.not_eq_true]
          exact fun hretry => hinit (hend.retry hretry).1

end AliceHal.Pn54x.FwDnld
