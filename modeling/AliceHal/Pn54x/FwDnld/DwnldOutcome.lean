import AliceHal.Pn54x.FwDnld.Prelude

/-!
# What a Download Sequence Can Do

The download sequence case by case: it stops in front of the write, finds the version up to
date, or makes the write; the write is refused, interrupted, fails or succeeds; after a
successful write the session state, the version, the log and the integrity are checked in turn.
Each case gives the status, the flags and everything observed.

- `PostOutcome`: the functions after a successful write
- `WriteOutcome`: the write and what follows it
- `DwnldOutcome`: the whole sequence, and `dwnldOutcome_runSteps`
-/

namespace AliceHal.Pn54x.FwDnld

open Lib

/-! ## After a successful write -/

section Post

variable {o : Oracle} {k : SeqKind}

/-- The state after a successful answer to the session state request. -/
def sessnClosed (k : SeqKind) (t : HalState) (rsp : List UInt8) : HalState :=
  t.after k .getSessionState (.completed NFCSTATUS.success rsp)
    { t.ctx with bPrevSessnOpen := false }

/-- The state after an accepted answer to the version request. -/
def versionRead (o : Oracle) (k : SeqKind) (t : HalState) (rsp : List UInt8) : HalState :=
  t.after k .getVersion (.completed NFCSTATUS.success rsp)
    (fwDnldGetVersionCb o NFCSTATUS.success rsp t.ctx).2

/-- The state after the counters have been logged. -/
def logged (k : SeqKind) (t : HalState) (rsp : List UInt8) : HalState :=
  t.after k (.log t.ctx.tLogParams) (.completed NFCSTATUS.success rsp)
    { t.ctx with bDnldInitiated := false }

/-- What follows a successful write, from the state `t`. -/
inductive PostOutcome (o : Oracle) (k : SeqKind) (t : HalState) : NFCSTATUS → HalState → Prop where
  | sessn {out : CmdOutcome} {ctx : FwIoctlCtx}
      (hctx : ctx = t.ctx ∨ ctx = { t.ctx with
        bPrevSessnOpen := true, bRetryDnld := decide (t.ctx.bDnldAttempts < dnldMaxAttempts) }) :
      PostOutcome o k t NFCSTATUS.failed (t.after k .getSessionState out ctx)
  | version {rsp : List UInt8} {out : CmdOutcome} {chip : UInt8} :
      PostOutcome o k t NFCSTATUS.failed ((sessnClosed k t rsp).after k .getVersion out
        { (sessnClosed k t rsp).ctx with bChipVer := chip })
  | log {rsp rspV : List UInt8} {out : CmdOutcome} {ctx : FwIoctlCtx} {t₂ : HalState}
      (ht : t₂ = versionRead o k (sessnClosed k t rsp) rspV)
      (hctx : ctx = t₂.ctx ∨
        (∃ r, out = .refused r) ∧ ctx = { t₂.ctx with bDnldInitiated := false }) :
      PostOutcome o k t NFCSTATUS.failed (t₂.after k (.log t₂.ctx.tLogParams) out ctx)
  | integrity {rsp rspV rspL : List UInt8} {out : CmdOutcome} {t₃ : HalState}
      (ht : t₃ = logged k (versionRead o k (sessnClosed k t rsp) rspV) rspL)
      (hout : succeeds o t₃.ctx (.checkIntegrity t₃.ctx.bChipVer) out = false) :
      PostOutcome o k t NFCSTATUS.failed
        (t₃.after k (.checkIntegrity t₃.ctx.bChipVer) out t₃.ctx)
  | success {rsp rspV rspL rspC : List UInt8} {t₁ t₃ : HalState} (ht₁ : t₁ = sessnClosed k t rsp)
      (hver : (fwDnldGetVersionCb o NFCSTATUS.success rspV t₁.ctx).1 = NFCSTATUS.success)
      (ht₃ : t₃ = logged k (versionRead o k t₁ rspV) rspL)
      (hout : (fwDnldChkIntegrityCb NFCSTATUS.success rspC t₃.ctx).1 = NFCSTATUS.success) :
      PostOutcome o k t NFCSTATUS.success (t₃.after k (.checkIntegrity t₃.ctx.bChipVer)
        (.completed NFCSTATUS.success rspC) t₃.ctx)

/-- The version check after the write changes the chip version and the versions to be logged,
never the counters. -/
theorem fwDnldGetVersionCb_after (o : Oracle) (status : NFCSTATUS) (rsp : List UInt8)
    {ctx : FwIoctlCtx} (hinit : ctx.bDnldInitiated = true) :
    ∃ chip p, (fwDnldGetVersionCb o status rsp ctx).2 =
        { ctx with bChipVer := chip, tLogParams := p } ∧
      p.counters = ctx.tLogParams.counters ∧
      ((fwDnldGetVersionCb o status rsp ctx).1 ≠ NFCSTATUS.success → p = ctx.tLogParams) := by
  unfold fwDnldGetVersionCb
  split
  · split
    · exact ⟨_, _, rfl, rfl, fun _ => rfl⟩
    · split
      · exact ⟨_, _, rfl, rfl, fun _ => rfl⟩
      · split
        · simp only [checkVersion, hinit, Bool.true_eq_false, false_and, if_false, true_and, if_true]
          split
          · exact ⟨_, _, rfl, rfl, fun _ => rfl⟩
          · split
            · exact ⟨_, _, rfl, rfl, fun _ => rfl⟩
            · exact ⟨_, _, rfl, rfl, fun hne => absurd rfl hne⟩
        · exact ⟨_, _, rfl, rfl, fun _ => rfl⟩
  · exact ⟨_, _, rfl, rfl, fun _ => rfl⟩

/-- A callback that leaves a success was called with one. -/
theorem completed_of_version {status : NFCSTATUS} {rsp : List UInt8} {ctx : FwIoctlCtx}
    (h : (fwDnldGetVersionCb o status rsp ctx).1 = NFCSTATUS.success) :
    status = NFCSTATUS.success := by
  by_contra hne
  rw [fwDnldGetVersionCb, if_neg hne] at h
  exact failed_ne_success h

theorem completed_of_integrity {status : NFCSTATUS} {rsp : List UInt8} {ctx : FwIoctlCtx}
    (h : (fwDnldChkIntegrityCb status rsp ctx).1 = NFCSTATUS.success) :
    status = NFCSTATUS.success := by
  by_contra hne
  rw [fwDnldChkIntegrityCb, if_neg hne] at h
  exact failed_ne_success h

theorem fwDnldChkIntegrityCb_ctx (status : NFCSTATUS) (rsp : List UInt8) (ctx : FwIoctlCtx) :
    (fwDnldChkIntegrityCb status rsp ctx).2 = ctx := by
  unfold fwDnldChkIntegrityCb
  repeat' split
  all_goals rfl

theorem fwDnldGetSessnState_cases {t : HalState} (hinit : t.ctx.bDnldInitiated = true)
    (hskip : t.ctx.bSkipSeq = false) :
    (∃ out ctx, fwDnldGetSessnState o k t =
        (NFCSTATUS.failed, t.after k .getSessionState out ctx) ∧
      (ctx = t.ctx ∨ ctx = { t.ctx with
        bPrevSessnOpen := true, bRetryDnld := decide (t.ctx.bDnldAttempts < dnldMaxAttempts) })) ∨
    ∃ rsp, fwDnldGetSessnState o k t = (NFCSTATUS.success, sessnClosed k t rsp) := by
  have hmade : fwDnldGetSessnState o k t =
      makeRequest o .getSessionState id failPlain fwDnldGetSessnStateCb k t := by
    simp only [fwDnldGetSessnState, hskip, Bool.false_eq_true, if_false]
  rw [hmade]
  cases hout : o.cmd t.nCmd with
  | initFailed => exact .inl ⟨_, _, makeRequest_initFailed hout, .inl rfl⟩
  | refused r => exact .inl ⟨_, _, makeRequest_refused hout, .inl rfl⟩
  | interrupted => exact .inl ⟨_, _, makeRequest_interrupted hout, .inl rfl⟩
  | completed status rsp =>
    rw [makeRequest_completed hout]
    by_cases hok : status = NFCSTATUS.success ∧ rsp.length = 3 ∧ byteAt rsp 2 = lcOper
    · by_cases hopen : byteAt rsp 0 = fwDnldSessnOpen
      · have hcb : fwDnldGetSessnStateCb status rsp (id t.ctx) = (NFCSTATUS.failed, { t.ctx with
            bPrevSessnOpen := true,
            bRetryDnld := decide (t.ctx.bDnldAttempts < dnldMaxAttempts) }) := by
          simp only [id, fwDnldGetSessnStateCb, if_pos hok, if_pos hopen, hinit, if_true]
        rw [hcb, if_neg failed_ne_success]
        exact .inl ⟨_, _, rfl, .inr rfl⟩
      · have hcb : fwDnldGetSessnStateCb status rsp (id t.ctx) =
            (NFCSTATUS.success, { t.ctx with bPrevSessnOpen := false }) := by
          simp only [id, fwDnldGetSessnStateCb, if_pos hok, if_neg hopen]
        rw [hcb, if_pos rfl, hok.1]
        exact .inr ⟨rsp, rfl⟩
    · have hcb : fwDnldGetSessnStateCb status rsp (id t.ctx) = (NFCSTATUS.failed, t.ctx) := by
        simp only [id, fwDnldGetSessnStateCb, if_neg hok]
      rw [hcb, if_neg failed_ne_success]
      exact .inl ⟨_, _, rfl, .inl rfl⟩

theorem fwDnldGetVersion_cases {t : HalState} (hinit : t.ctx.bDnldInitiated = true)
    (hskip : t.ctx.bSkipSeq = false) (hopen : t.ctx.bPrevSessnOpen = false) :
    (∃ out chip, fwDnldGetVersion o k t =
        (NFCSTATUS.failed, t.after k .getVersion out { t.ctx with bChipVer := chip })) ∨
    ∃ rsp, (fwDnldGetVersionCb o NFCSTATUS.success rsp t.ctx).1 = NFCSTATUS.success ∧
      fwDnldGetVersion o k t = (NFCSTATUS.success, versionRead o k t rsp) := by
  have hmade : fwDnldGetVersion o k t =
      makeRequest o .getVersion id failPlain (fwDnldGetVersionCb o) k t := by
    simp only [fwDnldGetVersion, hskip, hopen, Bool.false_eq_true, or_self, if_false]
  rw [hmade]
  cases hout : o.cmd t.nCmd with
  | initFailed => exact .inl ⟨_, t.ctx.bChipVer, makeRequest_initFailed hout⟩
  | refused r => exact .inl ⟨_, t.ctx.bChipVer, makeRequest_refused hout⟩
  | interrupted => exact .inl ⟨_, t.ctx.bChipVer, makeRequest_interrupted hout⟩
  | completed status rsp =>
    rw [makeRequest_completed hout]
    obtain ⟨chip, p, hctx, -, hp⟩ := fwDnldGetVersionCb_after o status rsp hinit
    by_cases hok : (fwDnldGetVersionCb o status rsp t.ctx).1 = NFCSTATUS.success
    · obtain rfl := completed_of_version hok
      exact .inr ⟨rsp, hok, by rw [id, if_pos hok]; rfl⟩
    · refine .inl ⟨.completed status rsp, chip, ?_⟩
      rw [id, if_neg hok, hctx, hp hok]

theorem fwDnldLog_cases {t : HalState} (hinit : t.ctx.bDnldInitiated = true) :
    (∃ out ctx, fwDnldLog o k t =
        (NFCSTATUS.failed, t.after k (.log t.ctx.tLogParams) out ctx) ∧
      (ctx = t.ctx ∨ (∃ r, out = .refused r) ∧ ctx = { t.ctx with bDnldInitiated := false })) ∨
    ∃ rsp, fwDnldLog o k t = (NFCSTATUS.success, logged k t rsp) := by
  have hmade : fwDnldLog o k t = makeRequest o (.log t.ctx.tLogParams) id
      (fun _ ctx => (NFCSTATUS.failed, { ctx with bDnldInitiated := false }))
      (fun status _ => fwDnldLogCb status) k t := by
    simp only [fwDnldLog, hinit, Bool.true_eq_false, and_false, if_false]
  rw [hmade]
  cases hout : o.cmd t.nCmd with
  | initFailed => exact .inl ⟨_, _, makeRequest_initFailed hout, .inl rfl⟩
  | refused r => exact .inl ⟨_, _, makeRequest_refused hout, .inr ⟨⟨r, rfl⟩, rfl⟩⟩
  | interrupted => exact .inl ⟨_, _, makeRequest_interrupted hout, .inl rfl⟩
  | completed status rsp =>
    rw [makeRequest_completed hout]
    by_cases hok : status = NFCSTATUS.success
    · subst hok
      exact .inr ⟨rsp, rfl⟩
    · have hcb : fwDnldLogCb status (id t.ctx) = (NFCSTATUS.failed, t.ctx) := if_neg hok
      rw [hcb, if_neg failed_ne_success]
      exact .inl ⟨_, _, rfl, .inl rfl⟩

theorem fwDnldChkIntegrity_cases {t : HalState} (hskip : t.ctx.bSkipSeq = false)
    (hopen : t.ctx.bPrevSessnOpen = false) :
    (∃ out, fwDnldChkIntegrity o k t =
        (NFCSTATUS.failed, t.after k (.checkIntegrity t.ctx.bChipVer) out t.ctx) ∧
      succeeds o t.ctx (.checkIntegrity t.ctx.bChipVer) out = false) ∨
    ∃ rsp, (fwDnldChkIntegrityCb NFCSTATUS.success rsp t.ctx).1 = NFCSTATUS.success ∧
      fwDnldChkIntegrity o k t = (NFCSTATUS.success, t.after k (.checkIntegrity t.ctx.bChipVer)
        (.completed NFCSTATUS.success rsp) t.ctx) := by
  have hmade : fwDnldChkIntegrity o k t =
      makeRequest o (.checkIntegrity t.ctx.bChipVer) id failPlain fwDnldChkIntegrityCb k t := by
    simp only [fwDnldChkIntegrity, hskip, hopen, Bool.false_eq_true, if_false]
  rw [hmade]
  cases hout : o.cmd t.nCmd with
  | initFailed => exact .inl ⟨_, makeRequest_initFailed hout, rfl⟩
  | refused r => exact .inl ⟨_, makeRequest_refused hout, rfl⟩
  | interrupted => exact .inl ⟨_, makeRequest_interrupted hout, rfl⟩
  | completed status rsp =>
    rw [makeRequest_completed hout, id, fwDnldChkIntegrityCb_ctx]
    by_cases hok : (fwDnldChkIntegrityCb status rsp t.ctx).1 = NFCSTATUS.success
    · obtain rfl := completed_of_integrity hok
      exact .inr ⟨rsp, hok, by rw [if_pos hok]⟩
    · exact .inl ⟨.completed status rsp, by rw [if_neg hok], decide_eq_false hok⟩

/-- The functions after a successful write, one after the other. -/
theorem postOutcome_runSteps {t : HalState} (hinit : t.ctx.bDnldInitiated = true)
    (hskip : t.ctx.bSkipSeq = false) :
    PostOutcome o k t
      (runSteps k [fwDnldGetSessnState o, fwDnldGetVersion o, fwDnldLog o, fwDnldChkIntegrity o] t).1
      (runSteps k
        [fwDnldGetSessnState o, fwDnldGetVersion o, fwDnldLog o, fwDnldChkIntegrity o] t).2 := by
  rw [runSteps_cons]
  rcases fwDnldGetSessnState_cases hinit hskip with ⟨out, ctx, heq, hctx⟩ | ⟨rsp, heq⟩
  · rw [heq, if_neg failed_ne_success]
    exact .sessn hctx
  rw [heq, if_pos rfl, runSteps_cons]
  have hinit₁ : (sessnClosed k t rsp).ctx.bDnldInitiated = true := hinit
  rcases fwDnldGetVersion_cases (o := o) (k := k) hinit₁ hskip rfl with ⟨out, chip, heq⟩ | ⟨rspV, hver, heq⟩
  · rw [heq, if_neg failed_ne_success]
    exact .version
  rw [heq, if_pos rfl, runSteps_cons]
  obtain ⟨chip, p, hctx, -⟩ := fwDnldGetVersionCb_after o NFCSTATUS.success rspV hinit₁
  set t₂ := versionRead o k (sessnClosed k t rsp) rspV with ht₂
  have ht₂ctx : t₂.ctx = { (sessnClosed k t rsp).ctx with bChipVer := chip, tLogParams := p } := hctx
  rcases fwDnldLog_cases (o := o) (k := k) (t := t₂) (by rw [ht₂ctx]; exact hinit) with
    ⟨out, ctx, heq, hlog⟩ | ⟨rspL, heq⟩
  · rw [heq, if_neg failed_ne_success]
    exact .log ht₂ hlog
  rw [heq, if_pos rfl, runSteps_cons]
  have hflags : (logged k t₂ rspL).ctx = { t₂.ctx with bDnldInitiated := false } := rfl
  rcases fwDnldChkIntegrity_cases (o := o) (k := k) (t := logged k t₂ rspL)
    (by rw [hflags, ht₂ctx]; exact hskip) (by rw [hflags, ht₂ctx]; rfl) with
    ⟨out, heq, hout⟩ | ⟨rspC, hout, heq⟩
  · rw [heq, if_neg failed_ne_success]
    exact .integrity rfl hout
  · rw [heq, if_pos rfl]
    exact .success rfl hver rfl hout

end Post

/-! ## The write -/

section Write

variable {o : Oracle} {k : SeqKind}

/-- The state in which the download has been triggered. -/
def triggered (s : HalState) : HalState :=
  { s with
    ctx := { s.ctx with
      bRetryDnld := false, bDnldInitiated := true, bDnldAttempts := s.ctx.bDnldAttempts + 1,
      tLogParams := countTrig s.ctx.tLogParams },
    trace := s.trace ++ [.trig (countTrig s.ctx.tLogParams)] }

theorem triggerDnld_noRetry {s : HalState} (hforce : s.ctx.bForceDnld = false) :
    triggerDnld (noRetry s) = triggered s :=
  if_pos hforce

/-- The state after the write has been made and counted. -/
def written (k : SeqKind) (w : HalState) (out : CmdOutcome) (ctx : FwIoctlCtx) : HalState :=
  (w.after k (.write false) out ctx).emit (.counted ctx.tLogParams)

theorem written_triggered_trace (k : SeqKind) (s : HalState) (out : CmdOutcome)
    (ctx : FwIoctlCtx) :
    (written k (triggered s) out ctx).trace =
      s.trace ++ [.trig (countTrig s.ctx.tLogParams),
        .request k (triggered s).ctx (.write false) out, .counted ctx.tLogParams] := by
  rw [written, HalState.emit_trace, HalState.after_trace, List.append_assoc]
  exact List.append_assoc _ _ _

/-- The write and what follows it, from the state `w` in which it has been triggered. -/
inductive WriteOutcome (o : Oracle) (k : SeqKind) (w : HalState) : NFCSTATUS → HalState → Prop where
  | refused {r : Refusal} :
      WriteOutcome o k w NFCSTATUS.failed (written k w (.refused r)
        { w.ctx with tLogParams := countFail w.ctx.tLogParams })
  | interrupted :
      WriteOutcome o k w NFCSTATUS.failed (w.after k (.write false) .interrupted w.ctx)
  | failed {status : NFCSTATUS} {rsp : List UInt8} (hst : status ≠ NFCSTATUS.success) :
      WriteOutcome o k w status (written k w (.completed status rsp) { w.ctx with
        tLogParams := countFail w.ctx.tLogParams,
        bSkipSeq := w.ctx.bSkipSeq || decide (status = NFCSTATUS.writeFailed),
        bDnldRecovery := w.ctx.bDnldRecovery || decide (status = NFCSTATUS.writeFailed) })
  | succeeded {rsp : List UInt8} {st : NFCSTATUS} {t : HalState}
      (hpost : PostOutcome o k (written k w (.completed NFCSTATUS.success rsp) { w.ctx with
        tLogParams := countSuccess w.ctx.tLogParams, bDnldAttemptFailed := false }) st t) :
      WriteOutcome o k w st t

/-- The write that is made, in a state that does not force the download. -/
theorem fwDnldWrite_cases {s : HalState} (hskip : s.ctx.bSkipSeq = false)
    (hforce : s.ctx.bForceDnld = false) :
    let w := triggered s
    (fwDnldWrite o k s =
      (NFCSTATUS.failed, (noRetry s).after k (.write false) .initFailed (noRetry s).ctx) ∧
        o.cmd s.nCmd = .initFailed) ∨
    (∃ r, fwDnldWrite o k s = (NFCSTATUS.failed, written k w (.refused r)
      { w.ctx with tLogParams := countFail w.ctx.tLogParams })) ∨
    fwDnldWrite o k s = (NFCSTATUS.failed, w.after k (.write false) .interrupted w.ctx) ∨
    ∃ status rsp, fwDnldWrite o k s =
      ((fwDnldWriteCb status w.ctx).1,
        written k w (.completed status rsp) (fwDnldWriteCb status w.ctx).2) := by
  intro w
  have hmake : ¬((noRetry s).ctx.bSkipSeq = true ∧ (noRetry s).ctx.bPrevSessnOpen = false) := by
    simp [noRetry, hskip]
  have hwforce : (triggered s).ctx.bForceDnld = false := hforce
  have hcmd : o.cmd (noRetry s).nCmd = o.cmd s.nCmd := rfl
  simp only [fwDnldWrite, if_neg hmake, triggerDnld_noRetry hforce, hcmd]
  cases hout : o.cmd s.nCmd with
  | initFailed => exact .inl ⟨rfl, rfl⟩
  | refused r => exact .inr (.inl ⟨r, if_pos hwforce⟩)
  | interrupted => exact .inr (.inr (.inl rfl))
  | completed status rsp => exact .inr (.inr (.inr ⟨status, rsp, rfl⟩))

/-- The callback of the write once the download has been triggered. -/
theorem fwDnldWriteCb_triggered (status : NFCSTATUS) {ctx : FwIoctlCtx}
    (hinit : ctx.bDnldInitiated = true) :
    fwDnldWriteCb status ctx = (status,
      if status = NFCSTATUS.success then
        { ctx with tLogParams := countSuccess ctx.tLogParams, bDnldAttemptFailed := false }
      else { ctx with
        tLogParams := countFail ctx.tLogParams,
        bSkipSeq := ctx.bSkipSeq || decide (status = NFCSTATUS.writeFailed),
        bDnldRecovery := ctx.bDnldRecovery || decide (status = NFCSTATUS.writeFailed) }) := by
  simp only [fwDnldWriteCb, hinit, if_true]
  split
  · rfl
  · split
    · rename_i hwf
      simp [hwf]
    · rename_i hwf
      simp [hwf]

/-- From the write on, when the write is made. -/
theorem writeOutcome_runSteps {s : HalState} (hskip : s.ctx.bSkipSeq = false)
    (hforce : s.ctx.bForceDnld = false) :
    (runSteps k (writeOn o) s =
      (NFCSTATUS.failed, (noRetry s).after k (.write false) .initFailed (noRetry s).ctx)) ∨
    WriteOutcome o k (triggered s) (runSteps k (writeOn o) s).1 (runSteps k (writeOn o) s).2 := by
  rw [writeOn, runSteps_cons]
  rcases fwDnldWrite_cases (o := o) (k := k) hskip hforce with
    ⟨heq, -⟩ | ⟨r, heq⟩ | heq | ⟨status, rsp, heq⟩
  · rw [heq, if_neg failed_ne_success]
    exact .inl rfl
  · rw [heq, if_neg failed_ne_success]
    exact .inr .refused
  · rw [heq, if_neg failed_ne_success]
    exact .inr .interrupted
  · rw [heq, fwDnldWriteCb_triggered status rfl]
    by_cases hst : status = NFCSTATUS.success
    · subst hst
      rw [if_pos rfl, if_pos rfl]
      exact .inr (.succeeded (postOutcome_runSteps rfl hskip))
    · rw [if_neg hst, if_neg hst]
      exact .inr (.failed hst)

end Write

/-! ## The sequence -/

/-- What a download sequence can do, from the state `s`. -/
inductive DwnldOutcome (o : Oracle) (k : SeqKind) (s : HalState) : NFCSTATUS → HalState → Prop where
  | stopped {st : NFCSTATUS} {s₁ : HalState} {evs : List Event} (hpre : Prelude o k s st s₁ evs)
      (hst : st ≠ NFCSTATUS.success) : DwnldOutcome o k s st s₁
  | upToDate {s₁ : HalState} {evs : List Event} (hpre : Prelude o k s NFCSTATUS.success s₁ evs)
      (hskip : s₁.ctx.bSkipSeq = true) : DwnldOutcome o k s NFCSTATUS.success (noRetry s₁)
  | noSem {s₁ : HalState} {evs : List Event} (hpre : Prelude o k s NFCSTATUS.success s₁ evs)
      (hskip : s₁.ctx.bSkipSeq = false) :
      DwnldOutcome o k s NFCSTATUS.failed
        ((noRetry s₁).after k (.write false) .initFailed (noRetry s₁).ctx)
  | wrote {s₁ : HalState} {evs : List Event} {st : NFCSTATUS} {t : HalState}
      (hpre : Prelude o k s NFCSTATUS.success s₁ evs) (hskip : s₁.ctx.bSkipSeq = false)
      (hwrite : WriteOutcome o k (triggered s₁) st t) : DwnldOutcome o k s st t

/-- With the rest skipped and no session open, every function from the write on succeeds. -/
theorem runSteps_skipped {o : Oracle} {k : SeqKind} {s : HalState} (hskip : s.ctx.bSkipSeq = true)
    (hopen : s.ctx.bPrevSessnOpen = false) (hinit : s.ctx.bDnldInitiated = false) :
    runSteps k (writeOn o) s = (NFCSTATUS.success, noRetry s) := by
  have hwrite : fwDnldWrite o k s = (NFCSTATUS.success, noRetry s) := if_pos ⟨hskip, hopen⟩
  have hsessn : fwDnldGetSessnState o k (noRetry s) = (NFCSTATUS.success, noRetry s) :=
    if_pos hskip
  have hver : fwDnldGetVersion o k (noRetry s) = (NFCSTATUS.success, noRetry s) :=
    if_pos (.inl hskip)
  have hlog : fwDnldLog o k (noRetry s) = (NFCSTATUS.success, noRetry s) :=
    if_pos ⟨.inl hskip, hinit⟩
  have hchk : fwDnldChkIntegrity o k (noRetry s) = (NFCSTATUS.success, noRetry s) := by
    simp only [fwDnldChkIntegrity, noRetry, hskip, if_true, ite_self]
  simp only [writeOn, runSteps_cons, hwrite, hsessn, hver, hlog, hchk, if_true]
  rfl

theorem dwnldOutcome_runSteps {o : Oracle} {k : SeqKind} {s : HalState} (hf : Fresh s.ctx)
    (hskip : s.ctx.bSkipSeq = false) :
    DwnldOutcome o k s (runSteps k (dwnldSeqHandler o) s).1
      (runSteps k (dwnldSeqHandler o) s).2 := by
  obtain ⟨st, s₁, evs, hpre, -, hrun⟩ := prelude_runSteps (o := o) (k := k) hf hskip
  have hf₁ := hpre.fresh hf
  rw [hrun]
  by_cases hst : st = NFCSTATUS.success
  · subst hst
    rw [if_pos rfl]
    cases hskip₁ : s₁.ctx.bSkipSeq with
    | true =>
      have hopen := hpre.closed (fun h => by rw [hskip] at h; cases h) hskip₁
      rw [runSteps_skipped hskip₁ hopen hf₁.initiated]
      exact .upToDate hpre hskip₁
    | false =>
      rcases writeOutcome_runSteps (o := o) (k := k) hskip₁ hf₁.force with heq | hwrite
      · rw [heq]
        exact .noSem hpre hskip₁
      · exact .wrote hpre hskip₁ hwrite
  · rw [if_neg hst]
    exact .stopped hpre hst

end AliceHal.Pn54x.FwDnld
