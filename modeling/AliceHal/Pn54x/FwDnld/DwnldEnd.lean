import AliceHal.Pn54x.FwDnld.DwnldOutcome

/-!
# How a Download Sequence Ends

What a download sequence leaves behind for the completion handler: the steps it adds to the
trace, and the flags. The flags are all that decides what the handler does next.

- `AddsSteps`: the trace grows by steps inside the sequence
- `EndsUnwritten`, `EndsWritten`: the flags after a sequence without and with a write
- `DwnldOutcome.ends`: every sequence ends in one of the two ways
-/

namespace AliceHal.Pn54x.FwDnld

/-! ## What a sequence adds to the trace -/

/-- A sequence has returned. -/
def Event.isSequence : Event → Bool
  | .sequence _ _ => true
  | _ => false

section Steps

variable {o : Oracle} {k : SeqKind} {s s' : HalState} {st : NFCSTATUS}

/-- Only steps inside a sequence are added to the trace. -/
def AddsSteps (s s' : HalState) : Prop :=
  ∃ evs, s'.trace = s.trace ++ evs ∧ ∀ e ∈ evs, e.isSequence = false

theorem AddsSteps.trans {s₁ : HalState} (h : AddsSteps s s₁) (h' : AddsSteps s₁ s') :
    AddsSteps s s' := by
  obtain ⟨evs, htr, hev⟩ := h
  obtain ⟨evs', htr', hev'⟩ := h'
  refine ⟨evs ++ evs', by rw [htr', htr, List.append_assoc], fun e he => ?_⟩
  exact (List.mem_append.1 he).elim (hev e) (hev' e)

theorem addsSteps_after (s : HalState) (k : SeqKind) (cmd : DnldCmd) (out : CmdOutcome)
    (ctx : FwIoctlCtx) : AddsSteps s (s.after k cmd out ctx) :=
  ⟨_, rfl, by simp [Event.isSequence]⟩

theorem addsSteps_written (w : HalState) (k : SeqKind) (out : CmdOutcome) (ctx : FwIoctlCtx) :
    AddsSteps w (written k w out ctx) :=
  (addsSteps_after w k _ out ctx).trans ⟨_, rfl, by simp [Event.isSequence]⟩

theorem addsSteps_triggered (s : HalState) : AddsSteps s (triggered s) :=
  ⟨_, rfl, by simp [Event.isSequence]⟩

theorem Prelude.addsSteps {evs : List Event} (h : Prelude o k s st s' evs) : AddsSteps s s' := by
  refine ⟨evs, h.trace, fun e he => ?_⟩
  have hpre := h.events e he
  cases e with
  | request _ _ _ _ => rfl
  | _ => exact hpre.elim

theorem PostOutcome.addsSteps (h : PostOutcome o k s st s') : AddsSteps s s' := by
  have hclosed : ∀ rsp, AddsSteps s (sessnClosed k s rsp) := fun rsp => addsSteps_after _ _ _ _ _
  have hread : ∀ rsp rspV, AddsSteps s (versionRead o k (sessnClosed k s rsp) rspV) :=
    fun rsp rspV => (hclosed rsp).trans (addsSteps_after _ _ _ _ _)
  cases h with
  | sessn _ => exact addsSteps_after _ _ _ _ _
  | version => exact (hclosed _).trans (addsSteps_after _ _ _ _ _)
  | log ht _ =>
    subst ht
    exact (hread _ _).trans (addsSteps_after _ _ _ _ _)
  | integrity ht _ =>
    subst ht
    exact ((hread _ _).trans (addsSteps_after _ _ _ _ _)).trans (addsSteps_after _ _ _ _ _)
  | success ht₁ _ ht₃ _ =>
    subst ht₁ ht₃
    exact ((hread _ _).trans (addsSteps_after _ _ _ _ _)).trans (addsSteps_after _ _ _ _ _)

theorem WriteOutcome.addsSteps (h : WriteOutcome o k s st s') : AddsSteps s s' := by
  cases h with
  | refused => exact addsSteps_written _ _ _ _
  | interrupted => exact addsSteps_after _ _ _ _ _
  | failed _ => exact addsSteps_written _ _ _ _
  | succeeded hpost => exact (addsSteps_written _ _ _ _).trans hpost.addsSteps

theorem DwnldOutcome.addsSteps (h : DwnldOutcome o k s st s') : AddsSteps s s' := by
  cases h with
  | stopped hpre _ => exact hpre.addsSteps
  | upToDate hpre _ => exact hpre.addsSteps
  | noSem hpre _ => exact hpre.addsSteps.trans (addsSteps_after (noRetry _) _ _ _ _)
  | wrote hpre _ hwrite =>
    exact (hpre.addsSteps.trans (addsSteps_triggered _)).trans hwrite.addsSteps

end Steps

/-! ## What a download sequence leaves to the completion handler -/

/-- A status that asks for recovery. -/
def asksRecovery (status : NFCSTATUS) : Prop :=
  status = NFCSTATUS.writeFailed ∨ status = NFCSTATUS.rejected

theorem not_asksRecovery_failed : ¬asksRecovery NFCSTATUS.failed := not_or.2 failed_not_recovery

theorem not_asksRecovery_success : ¬asksRecovery NFCSTATUS.success :=
  not_or.2 success_not_recovery

/-- The sequence ended without a write being made. -/
structure EndsUnwritten (o : Oracle) (k : SeqKind) (s : HalState) (st : NFCSTATUS)
    (s' : HalState) : Prop where
  attempts : s'.ctx.bDnldAttempts = s.ctx.bDnldAttempts
  initiated : s'.ctx.bDnldInitiated = false
  recovery : s'.ctx.bDnldRecovery = false
  sendNciCmd : s'.ctx.bSendNciCmd = false
  plain : ¬asksRecovery st
  retry : s'.ctx.bRetryDnld = true → st ≠ NFCSTATUS.success ∧ s.ctx.bRetryDnld = true ∧
    (k = .retry → ∃ e ∈ s'.trace, e.early o = true)

/-- The sequence ended after a write, which was attempt number `n`. Recovery or a retry is asked
for only together with the log. -/
structure EndsWritten (n : UInt8) (st : NFCSTATUS) (s' : HalState) : Prop where
  attempts : s'.ctx.bDnldAttempts = n
  sendNciCmd : s'.ctx.bSendNciCmd = false
  initiated : s'.ctx.bDnldInitiated = true → st ≠ NFCSTATUS.success
  recovery : s'.ctx.bDnldRecovery = true → st = NFCSTATUS.writeFailed
  retry : s'.ctx.bRetryDnld = true → s'.ctx.bDnldInitiated = true ∧ n < dnldMaxAttempts
  asks : asksRecovery st → s'.ctx.bDnldInitiated = true

section Leaves

variable {o : Oracle} {k : SeqKind} {s s' : HalState} {st : NFCSTATUS}

/-- What the functions from the write on can rely on. -/
structure Triggered (ctx : FwIoctlCtx) : Prop where
  initiated : ctx.bDnldInitiated = true
  sendNciCmd : ctx.bSendNciCmd = false
  recovery : ctx.bDnldRecovery = false
  retry : ctx.bRetryDnld = false

/-- Neither recovery nor a retry is asked for. -/
theorem EndsWritten.of_unset {n : UInt8} (hatt : s'.ctx.bDnldAttempts = n)
    (hsend : s'.ctx.bSendNciCmd = false)
    (hinit : s'.ctx.bDnldInitiated = true → st ≠ NFCSTATUS.success)
    (hrec : s'.ctx.bDnldRecovery = false) (hretry : s'.ctx.bRetryDnld = false)
    (hask : ¬asksRecovery st) : EndsWritten n st s' :=
  ⟨hatt, hsend, hinit, fun h => absurd (hrec.symm.trans h) Bool.false_ne_true,
    fun h => absurd (hretry.symm.trans h) Bool.false_ne_true, fun h => absurd h hask⟩

/-- A failure that leaves the flags as they were. -/
theorem EndsWritten.of_failed (ht : Triggered s.ctx)
    (hatt : s'.ctx.bDnldAttempts = s.ctx.bDnldAttempts)
    (hsend : s'.ctx.bSendNciCmd = s.ctx.bSendNciCmd)
    (hrec : s'.ctx.bDnldRecovery = s.ctx.bDnldRecovery)
    (hretry : s'.ctx.bRetryDnld = s.ctx.bRetryDnld) :
    EndsWritten s.ctx.bDnldAttempts NFCSTATUS.failed s' :=
  .of_unset hatt (hsend.trans ht.sendNciCmd) (fun _ => failed_ne_success) (hrec.trans ht.recovery)
    (hretry.trans ht.retry) not_asksRecovery_failed

theorem PostOutcome.endsWritten (h : PostOutcome o k s st s') (ht : Triggered s.ctx) :
    EndsWritten s.ctx.bDnldAttempts st s' := by
  -- the version check leaves the flags
  have hread : ∀ rsp rspV t₂, t₂ = versionRead o k (sessnClosed k s rsp) rspV →
      t₂.ctx.bDnldAttempts = s.ctx.bDnldAttempts ∧ t₂.ctx.bSendNciCmd = s.ctx.bSendNciCmd ∧
        t₂.ctx.bDnldRecovery = s.ctx.bDnldRecovery ∧ t₂.ctx.bRetryDnld = s.ctx.bRetryDnld := by
    rintro rsp rspV _ rfl
    have hinit : (sessnClosed k s rsp).ctx.bDnldInitiated = true := ht.initiated
    obtain ⟨chip, p, hctx, -⟩ := fwDnldGetVersionCb_after o NFCSTATUS.success rspV hinit
    have hver : (versionRead o k (sessnClosed k s rsp) rspV).ctx = _ := hctx
    rw [hver]
    exact ⟨rfl, rfl, rfl, rfl⟩
  cases h with
  | sessn hctx =>
    rcases hctx with rfl | rfl
    · exact .of_failed ht rfl rfl rfl rfl
    · -- the session is still open: a retry while attempts are left
      refine ⟨rfl, ht.sendNciCmd, fun _ => failed_ne_success, fun h => ?_, fun h => ?_, fun _ => ?_⟩
      · exact absurd (ht.recovery.symm.trans h) Bool.false_ne_true
      · exact ⟨ht.initiated, of_decide_eq_true h⟩
      · exact ht.initiated
  | version => exact .of_failed ht rfl rfl rfl rfl
  | log ht₂ hctx =>
    obtain ⟨hatt, hsend, hrec, hretry⟩ := hread _ _ _ ht₂
    rcases hctx with rfl | ⟨-, rfl⟩
    · exact .of_failed ht hatt hsend hrec hretry
    · exact .of_failed ht hatt hsend hrec hretry
  | integrity ht₃ _ =>
    obtain ⟨hatt, hsend, hrec, hretry⟩ := hread _ _ _ rfl
    subst ht₃
    exact .of_failed ht hatt hsend hrec hretry
  | success ht₁ _ ht₃ _ =>
    subst ht₁
    obtain ⟨hatt, hsend, hrec, hretry⟩ := hread _ _ _ rfl
    subst ht₃
    -- the log has been written, so that the download is no longer marked as initiated
    exact .of_unset hatt (hsend.trans ht.sendNciCmd) (fun h => Bool.noConfusion h)
      (hrec.trans ht.recovery) (hretry.trans ht.retry) not_asksRecovery_success

theorem WriteOutcome.endsWritten (h : WriteOutcome o k s st s') (ht : Triggered s.ctx) :
    EndsWritten s.ctx.bDnldAttempts st s' := by
  cases h with
  | refused => exact .of_failed ht rfl rfl rfl rfl
  | interrupted => exact .of_failed ht rfl rfl rfl rfl
  | failed hst =>
    refine ⟨rfl, ht.sendNciCmd, fun _ => hst, fun h => ?_, fun h => ?_, fun _ => ht.initiated⟩
    · have hset : (s.ctx.bDnldRecovery || decide (st = NFCSTATUS.writeFailed)) = true := h
      rw [ht.recovery, Bool.false_or] at hset
      exact of_decide_eq_true hset
    · exact absurd (ht.retry.symm.trans h) Bool.false_ne_true
  | succeeded hpost => exact hpost.endsWritten ⟨ht.initiated, ht.sendNciCmd, ht.recovery, ht.retry⟩

/-- A download sequence ends without a write or with one more attempt. -/
theorem DwnldOutcome.ends (h : DwnldOutcome o k s st s') (hf : Fresh s.ctx) :
    EndsUnwritten o k s st s' ∨ EndsWritten (s.ctx.bDnldAttempts + 1) st s' := by
  -- the part in front of the write counts no attempt
  have hkeep : ∀ {st₁ s₁ evs}, Prelude o k s st₁ s₁ evs →
      s₁.ctx.bDnldAttempts = s.ctx.bDnldAttempts := by
    intro st₁ s₁ evs hpre
    obtain ⟨_, _, _, _, _, hctx⟩ := hpre.frame
    rw [hctx]
  cases h with
  | stopped hpre hst =>
    have hf' := hpre.fresh hf
    refine .inl ⟨hkeep hpre, hf'.initiated, hf'.recovery, hf'.sendNciCmd, not_or.2 hpre.plain,
      fun hr => ?_⟩
    obtain ⟨hr₀, hearly⟩ := hpre.retry hr
    refine ⟨hst, hr₀, fun hk => ?_⟩
    obtain ⟨e, he, hb⟩ := hearly hst hk
    exact ⟨e, by rw [hpre.trace]; exact List.mem_append_right _ he, hb⟩
  | upToDate hpre _ =>
    have hf' := hpre.fresh hf
    have hatt := hkeep hpre
    exact .inl ⟨hatt, hf'.initiated, hf'.recovery, hf'.sendNciCmd, not_asksRecovery_success,
      fun hr => Bool.noConfusion hr⟩
  | noSem hpre _ =>
    have hf' := hpre.fresh hf
    have hatt := hkeep hpre
    exact .inl ⟨hatt, hf'.initiated, hf'.recovery, hf'.sendNciCmd, not_asksRecovery_failed,
      fun hr => Bool.noConfusion hr⟩
  | @wrote s₁ evs _ _ hpre _ hwrite =>
    have hf' := hpre.fresh hf
    have hends := hwrite.endsWritten ⟨rfl, hf'.sendNciCmd, hf'.recovery, rfl⟩
    have hatt : (triggered s₁).ctx.bDnldAttempts = s.ctx.bDnldAttempts + 1 :=
      congrArg (· + 1) (hkeep hpre)
    rw [hatt] at hends
    exact .inr hends

end Leaves

end AliceHal.Pn54x.FwDnld
