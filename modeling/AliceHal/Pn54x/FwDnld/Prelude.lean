import AliceHal.Pn54x.FwDnld.Sequence

/-!
# The Download Sequence up to the Write

What the functions in front of `phNxpNciHal_fw_dnld_write` can do: the two Force commands, the
session state, the version and the log. They change few flags, and the flags they leave decide
whether the write is made, skipped, or the sequence given up.

- `succeeds`: the answers that let a request function succeed
- `Event.early`: the failures that leave a flag set for another turn
- `Event.upToDate`: the answer that ends a download before its write
- `Prelude`: what a part of the sequence in front of the write does, and how parts compose
- `prelude_runSteps`: the part in front of the write as a whole
-/

namespace AliceHal.Pn54x.FwDnld

open Lib

/-! ## Answers -/

/-- The function that made the request returns success. -/
def succeeds (o : Oracle) (ctx : FwIoctlCtx) : DnldCmd → CmdOutcome → Bool
  | .force _ _, .completed _ _ => true
  | .getSessionState, .completed status rsp =>
    (fwDnldGetSessnStateCb status rsp ctx).1 = NFCSTATUS.success
  | .getVersion, .completed status rsp =>
    (fwDnldGetVersionCb o status rsp ctx).1 = NFCSTATUS.success
  | .checkIntegrity _, .completed status rsp =>
    (fwDnldChkIntegrityCb status rsp ctx).1 = NFCSTATUS.success
  | _, .completed status _ => status = NFCSTATUS.success
  | _, _ => false

/-- A failure in front of the point where the flag that led to the sequence is reset: a
failed Reset or Force, or no semaphore, in the recovery sequence, and in a retried download
sequence a Force that is not answered or a failed request before the write. A Force refused in a
retried sequence resets the flag and is not among them. -/
def Event.early (o : Oracle) : Event → Bool
  | .request .recover ctx .reset out => !succeeds o ctx .reset out
  | .request .recover ctx (.force src freq) out => !succeeds o ctx (.force src freq) out
  | .request .recover _ (.write _) out => out = .initFailed
  | .request .retry _ (.force _ _) out => out = .initFailed || out = .interrupted
  | .request .retry ctx .getSessionState out =>
    !ctx.bDnldInitiated && !succeeds o ctx .getSessionState out
  | .request .retry ctx .getVersion out => !ctx.bDnldInitiated && !succeeds o ctx .getVersion out
  | .request .retry ctx .readLog out => !succeeds o ctx .readLog out
  | _ => false

/-- Before the write the NFCC reports the version of the image, so that nothing is left to do. -/
def Event.upToDate (o : Oracle) : Event → Bool
  | .request _ ctx .getVersion (.completed status rsp) =>
    !ctx.bDnldInitiated && (fwDnldGetVersionCb o status rsp ctx).2.bSkipSeq
  | _ => false

/-- A request in front of the write of a retried sequence fails early when it fails. -/
theorem early_of_failed {o : Oracle} {k : SeqKind} {ctx : FwIoctlCtx} {cmd : DnldCmd}
    {out : CmdOutcome} (hinit : ctx.bDnldInitiated = false)
    (hcmd : cmd = .getSessionState ∨ cmd = .getVersion ∨ cmd = .readLog)
    (hout : succeeds o ctx cmd out = false) (hk : k = .retry) :
    (Event.request k ctx cmd out).early o = true := by
  subst hk
  rcases hcmd with rfl | rfl | rfl
  · show (!ctx.bDnldInitiated && !succeeds o ctx .getSessionState out) = true
    rw [hinit, hout]
    rfl
  · show (!ctx.bDnldInitiated && !succeeds o ctx .getVersion out) = true
    rw [hinit, hout]
    rfl
  · show (!succeeds o ctx .readLog out) = true
    rw [hout]
    rfl

/-- A request made in front of the write by a sequence of kind `k`. -/
def Event.isPrelude (k : SeqKind) : Event → Prop
  | .request k' ctx cmd _ => k' = k ∧ ctx.bDnldInitiated = false ∧
    ((∃ src freq, cmd = .force src freq) ∨ cmd = .getSessionState ∨ cmd = .getVersion ∨
      cmd = .readLog)
  | _ => False

/-! ## The flags at the start -/

/-- The flags a download sequence starts with, first or retried. -/
structure Fresh (ctx : FwIoctlCtx) : Prop where
  skipForce : ctx.bSkipForce = false
  initiated : ctx.bDnldInitiated = false
  sendNciCmd : ctx.bSendNciCmd = false
  recovery : ctx.bDnldRecovery = false
  force : ctx.bForceDnld = false

/-- The fields a part in front of the write can change. -/
def sameButPrelude (ctx ctx' : FwIoctlCtx) : Prop :=
  ∃ prevOpen skip retry chip p, ctx' = { ctx with
    bPrevSessnOpen := prevOpen, bSkipSeq := skip, bRetryDnld := retry, bChipVer := chip,
    tLogParams := p }

/-- A part of the sequence in front of the write, from `s` to `s'` with status `st`. -/
structure Prelude (o : Oracle) (k : SeqKind) (s : HalState) (st : NFCSTATUS) (s' : HalState)
    (evs : List Event) : Prop where
  frame : sameButPrelude s.ctx s'.ctx
  trace : s'.trace = s.trace ++ evs
  events : ∀ e ∈ evs, e.isPrelude k
  plain : st ≠ NFCSTATUS.writeFailed ∧ st ≠ NFCSTATUS.rejected
  /-- a failure that leaves the retry flag set is an early one -/
  retry : s'.ctx.bRetryDnld = true → s.ctx.bRetryDnld = true ∧
    (st ≠ NFCSTATUS.success → k = .retry → ∃ e ∈ evs, e.early o = true)
  /-- the rest is skipped once the version is known to be up to date -/
  skip : s'.ctx.bSkipSeq = true ↔ s.ctx.bSkipSeq = true ∨ ∃ e ∈ evs, e.upToDate o = true
  closed : (s.ctx.bSkipSeq = true → s.ctx.bPrevSessnOpen = false) →
    s'.ctx.bSkipSeq = true → s'.ctx.bPrevSessnOpen = false
  fail : s.ctx.bSkipSeq = false → s'.ctx.bSkipSeq = true → st = NFCSTATUS.success

theorem Prelude.fresh {o : Oracle} {k : SeqKind} {s s' : HalState} {st : NFCSTATUS}
    {evs : List Event} (h : Prelude o k s st s' evs) (hf : Fresh s.ctx) : Fresh s'.ctx := by
  obtain ⟨prevOpen, skip, retry, chip, p, hctx⟩ := h.frame
  rw [hctx]
  exact ⟨hf.skipForce, hf.initiated, hf.sendNciCmd, hf.recovery, hf.force⟩

/-- Doing nothing. -/
theorem Prelude.refl (o : Oracle) (k : SeqKind) (s : HalState) :
    Prelude o k s NFCSTATUS.success s [] where
  frame := ⟨_, _, _, _, _, rfl⟩
  trace := by simp
  events := by simp
  plain := by decide
  retry h := ⟨h, fun hne => absurd rfl hne⟩
  skip := by simp
  closed h := h
  fail _ _ := rfl

/-- Two parts one after the other. The second one succeeds when the first has found the version
up to date. -/
theorem Prelude.trans {o : Oracle} {k : SeqKind} {s s₁ s₂ : HalState} {st : NFCSTATUS}
    {evs evs' : List Event} (h : Prelude o k s NFCSTATUS.success s₁ evs)
    (h' : Prelude o k s₁ st s₂ evs') (hskip : s₁.ctx.bSkipSeq = true → st = NFCSTATUS.success) :
    Prelude o k s st s₂ (evs ++ evs') where
  frame := by
    obtain ⟨_, _, _, _, _, h₁⟩ := h.frame
    obtain ⟨prevOpen, skip, retry, chip, p, h₂⟩ := h'.frame
    exact ⟨prevOpen, skip, retry, chip, p, by rw [h₂, h₁]⟩
  trace := by rw [h'.trace, h.trace, List.append_assoc]
  events e he := (List.mem_append.1 he).elim (h.events e) (h'.events e)
  plain := h'.plain
  retry hr := by
    obtain ⟨hr₁, hearly⟩ := h'.retry hr
    refine ⟨(h.retry hr₁).1, fun hne hk => ?_⟩
    obtain ⟨e, he, hb⟩ := hearly hne hk
    exact ⟨e, List.mem_append_right _ he, hb⟩
  skip := by
    rw [h'.skip, h.skip, or_assoc]
    simp only [List.mem_append, or_and_right, exists_or]
  closed hopen := h'.closed (h.closed hopen)
  fail h0 h2 := by
    cases h1 : s₁.ctx.bSkipSeq with
    | true => exact hskip h1
    | false => exact h'.fail h1 h2

/-! ## The functions in front of the write -/

theorem failed_ne_success : NFCSTATUS.failed ≠ NFCSTATUS.success := by decide

theorem failed_not_recovery :
    NFCSTATUS.failed ≠ NFCSTATUS.writeFailed ∧ NFCSTATUS.failed ≠ NFCSTATUS.rejected := by decide

theorem success_not_recovery :
    NFCSTATUS.success ≠ NFCSTATUS.writeFailed ∧ NFCSTATUS.success ≠ NFCSTATUS.rejected := by decide

/-- A refusal is none of the statuses that ask for recovery. -/
theorem Refusal.not_recovery (r : Refusal) :
    r.status ≠ NFCSTATUS.writeFailed ∧ r.status ≠ NFCSTATUS.rejected := by
  have hplain := r.plain
  simp only [List.mem_cons, not_or] at hplain
  exact ⟨hplain.2.2.1, hplain.2.2.2.1⟩

section Requests

variable {o : Oracle} {k : SeqKind} {c : FwIoctlCtx} {cmd : DnldCmd}

/-- What a request made in the context `c` may do in front of the write. -/
structure PreludeAnswer (o : Oracle) (k : SeqKind) (c : FwIoctlCtx) (cmd : DnldCmd)
    (out : CmdOutcome) (st : NFCSTATUS) (ctx : FwIoctlCtx) : Prop where
  frame : sameButPrelude c ctx
  plain : st ≠ NFCSTATUS.writeFailed ∧ st ≠ NFCSTATUS.rejected
  retry : ctx.bRetryDnld = true → c.bRetryDnld = true ∧
    (st ≠ NFCSTATUS.success → k = .retry → (Event.request k c cmd out).early o = true)
  skip : ctx.bSkipSeq = true ↔
    c.bSkipSeq = true ∨ (Event.request k c cmd out).upToDate o = true
  closed : (c.bSkipSeq = true → c.bPrevSessnOpen = false) →
    ctx.bSkipSeq = true → ctx.bPrevSessnOpen = false
  fail : c.bSkipSeq = false → ctx.bSkipSeq = true → st = NFCSTATUS.success

/-- A failure that changes nothing. -/
theorem PreludeAnswer.failed {out : CmdOutcome}
    (hearly : k = .retry → (Event.request k c cmd out).early o = true)
    (hup : (Event.request k c cmd out).upToDate o = false) :
    PreludeAnswer o k c cmd out NFCSTATUS.failed c where
  frame := ⟨_, _, _, _, _, rfl⟩
  plain := by decide
  retry hr := ⟨hr, fun _ => hearly⟩
  skip := by simp [hup]
  closed := id
  fail h0 h1 := by
    rw [h0] at h1
    cases h1

/-- A success that at most changes the session flag, the chip version and the log. -/
theorem PreludeAnswer.success {out : CmdOutcome} {ctx : FwIoctlCtx} {prevOpen : Bool}
    {chip : UInt8} {p : EELogParams}
    (hctx : ctx = { c with bPrevSessnOpen := prevOpen, bChipVer := chip, tLogParams := p })
    (hopen : c.bSkipSeq = true → prevOpen = c.bPrevSessnOpen)
    (hup : (Event.request k c cmd out).upToDate o = false) :
    PreludeAnswer o k c cmd out NFCSTATUS.success ctx where
  frame := ⟨_, _, _, _, _, hctx⟩
  plain := by decide
  retry hr := by
    rw [hctx] at hr
    exact ⟨hr, fun hne => absurd rfl hne⟩
  skip := by simp [hup, hctx]
  closed h h1 := by
    rw [hctx] at h1 ⊢
    exact (hopen h1).trans (h h1)
  fail _ _ := rfl

/-- A request function in front of the write, from what it does with each outcome. -/
theorem makeRequest_prelude {s : HalState}
    {onRefused : Refusal → FwIoctlCtx → NFCSTATUS × FwIoctlCtx}
    {cb : NFCSTATUS → List UInt8 → FwIoctlCtx → NFCSTATUS × FwIoctlCtx}
    (hinit : s.ctx.bDnldInitiated = false)
    (hcmd : (∃ src freq, cmd = .force src freq) ∨ cmd = .getSessionState ∨ cmd = .getVersion ∨
      cmd = .readLog)
    (hnone : PreludeAnswer o k s.ctx cmd .initFailed NFCSTATUS.failed s.ctx)
    (hint : PreludeAnswer o k s.ctx cmd .interrupted NFCSTATUS.failed s.ctx)
    (href : ∀ r, PreludeAnswer o k s.ctx cmd (.refused r) (onRefused r s.ctx).1
      (onRefused r s.ctx).2)
    (hcb : ∀ status rsp, PreludeAnswer o k s.ctx cmd (.completed status rsp)
      (if (cb status rsp s.ctx).1 = NFCSTATUS.success then NFCSTATUS.success else NFCSTATUS.failed)
      (cb status rsp s.ctx).2) :
    Prelude o k s (makeRequest o cmd id onRefused cb k s).1
      (makeRequest o cmd id onRefused cb k s).2 [.request k s.ctx cmd (o.cmd s.nCmd)] := by
  have hafter : ∀ {out st ctx}, PreludeAnswer o k s.ctx cmd out st ctx →
      Prelude o k s st (s.after k cmd out ctx) [.request k s.ctx cmd out] := by
    intro out st ctx h
    refine ⟨h.frame, rfl, ?_, h.plain, ?_, ?_, h.closed, h.fail⟩
    · intro e he
      rw [List.mem_singleton] at he
      subst he
      exact ⟨rfl, hinit, hcmd⟩
    · simpa using h.retry
    · simpa using h.skip
  cases hout : o.cmd s.nCmd with
  | initFailed =>
    rw [makeRequest_initFailed hout]
    exact hafter hnone
  | refused r =>
    rw [makeRequest_refused hout]
    exact hafter (href r)
  | interrupted =>
    rw [makeRequest_interrupted hout]
    exact hafter hint
  | completed status rsp =>
    rw [makeRequest_completed hout]
    exact hafter (hcb status rsp)

/-- Both Force commands: the callback reports success whatever the answer, and a refusal resets
the retry flag. -/
theorem fwDnldNormal_prelude {s : HalState} (hf : Fresh s.ctx) :
    ∃ evs, Prelude o k s (fwDnldNormal o k s).1 (fwDnldNormal o k s).2 evs ∧
      (fwDnldNormal o k s).2.ctx.bSkipSeq = s.ctx.bSkipSeq := by
  have heq : fwDnldNormal o k s = makeRequest o (.force s.ctx.bClkSrcVal s.ctx.bClkFreqVal) id
      failWithoutRetry (fun status _ => fwDnldNormalCb status) k s := by
    simp only [fwDnldNormal, requestForce, hf.skipForce, hf.recovery, Bool.false_eq_true, if_false]
  rw [heq]
  refine ⟨_, makeRequest_prelude hf.initiated (.inl ⟨_, _, rfl⟩) ?_ ?_ ?_ ?_, ?_⟩
  · exact .failed (by rintro rfl; rfl) rfl
  · exact .failed (by rintro rfl; rfl) rfl
  · intro r
    have hctx : (failWithoutRetry r s.ctx).2 = { s.ctx with bRetryDnld := false } := by
      simp only [failWithoutRetry, hf.skipForce]
    rw [hctx]
    refine ⟨⟨_, _, _, _, _, rfl⟩, r.not_recovery, fun hr => Bool.noConfusion hr, ?_, id, ?_⟩
    · simp [Event.upToDate]
    · intro h0 h1
      rw [h0] at h1
      cases h1
  · intro status rsp
    exact .success rfl (fun _ => rfl) rfl
  · cases hout : o.cmd s.nCmd with
    | initFailed => rw [makeRequest_initFailed hout]; rfl
    | refused r => rw [makeRequest_refused hout]; rfl
    | interrupted => rw [makeRequest_interrupted hout]; rfl
    | completed status rsp => rw [makeRequest_completed hout]; rfl

/-- The session state before the write: an open session is noted, nothing else. -/
theorem fwDnldGetSessnState_prelude {s : HalState} (hf : Fresh s.ctx) :
    ∃ evs, Prelude o k s (fwDnldGetSessnState o k s).1 (fwDnldGetSessnState o k s).2 evs ∧
      (s.ctx.bSkipSeq = true → (fwDnldGetSessnState o k s).1 = NFCSTATUS.success) := by
  unfold fwDnldGetSessnState
  split
  · exact ⟨[], Prelude.refl o k s, fun _ => rfl⟩
  · rename_i hskip
    refine ⟨_, makeRequest_prelude hf.initiated (.inr (.inl rfl)) ?_ ?_ ?_ ?_,
      fun h => absurd h hskip⟩
    · exact .failed (early_of_failed hf.initiated (.inl rfl) rfl) rfl
    · exact .failed (early_of_failed hf.initiated (.inl rfl) rfl) rfl
    · intro r
      exact .failed (early_of_failed hf.initiated (.inl rfl) rfl) rfl
    · intro status rsp
      by_cases hok : status = NFCSTATUS.success ∧ rsp.length = 3 ∧ byteAt rsp 2 = lcOper
      · -- the answer is taken, and an open session is no failure before the write
        have hcb : fwDnldGetSessnStateCb status rsp s.ctx = (NFCSTATUS.success,
            { s.ctx with bPrevSessnOpen := decide (byteAt rsp 0 = fwDnldSessnOpen) }) := by
          simp only [fwDnldGetSessnStateCb, if_pos hok, hf.initiated, Bool.false_eq_true, if_false]
          split
          · rename_i hopen
            simp [hopen]
          · rename_i hopen
            simp [hopen]
        rw [hcb]
        exact .success rfl (fun h => absurd h hskip) rfl
      · have hcb : fwDnldGetSessnStateCb status rsp s.ctx = (NFCSTATUS.failed, s.ctx) := by
          simp only [fwDnldGetSessnStateCb, if_neg hok]
        rw [hcb, if_neg failed_ne_success]
        apply PreludeAnswer.failed (early_of_failed hf.initiated (.inl rfl) ?_) rfl
        show decide ((fwDnldGetSessnStateCb status rsp s.ctx).1 = NFCSTATUS.success) = false
        rw [hcb]
        exact decide_eq_false failed_ne_success

/-- Before the write the version check fails, asks for the rest to be skipped, or lets the
download go on. -/
theorem fwDnldGetVersionCb_before (o : Oracle) (status : NFCSTATUS) (rsp : List UInt8)
    {ctx : FwIoctlCtx} (hinit : ctx.bDnldInitiated = false) :
    ∃ chip st skip, fwDnldGetVersionCb o status rsp ctx =
        (st, { ctx with bChipVer := chip, bSkipSeq := skip }) ∧
      (st ≠ NFCSTATUS.success → skip = ctx.bSkipSeq) ∧
      (skip = ctx.bSkipSeq ∨ skip = true) := by
  unfold fwDnldGetVersionCb
  split
  · split
    · exact ⟨_, _, _, rfl, fun _ => rfl, .inl rfl⟩
    · split
      · exact ⟨_, _, _, rfl, fun _ => rfl, .inl rfl⟩
      · split
        · simp only [checkVersion, hinit, Bool.false_eq_true, false_and, if_false, true_and]
          split
          · exact ⟨_, _, _, rfl, fun _ => rfl, .inl rfl⟩
          split
          · exact ⟨_, _, _, rfl, fun _ => rfl, .inl rfl⟩
          split
          · exact ⟨_, _, _, rfl, fun hne => absurd rfl hne, .inr rfl⟩
          · exact ⟨_, _, _, rfl, fun _ => rfl, .inl rfl⟩
        · exact ⟨_, _, _, rfl, fun _ => rfl, .inl rfl⟩
  · exact ⟨_, _, _, rfl, fun _ => rfl, .inl rfl⟩

/-- The version before the write. -/
theorem fwDnldGetVersion_prelude {s : HalState} (hf : Fresh s.ctx) :
    ∃ evs, Prelude o k s (fwDnldGetVersion o k s).1 (fwDnldGetVersion o k s).2 evs ∧
      (s.ctx.bSkipSeq = true → (fwDnldGetVersion o k s).1 = NFCSTATUS.success) := by
  unfold fwDnldGetVersion
  split
  · exact ⟨[], Prelude.refl o k s, fun _ => rfl⟩
  · rename_i hmade
    rw [not_or, Bool.not_eq_true, Bool.not_eq_true] at hmade
    obtain ⟨hskip, hclosed⟩ := hmade
    refine ⟨_, makeRequest_prelude hf.initiated (.inr (.inr (.inl rfl))) ?_ ?_ ?_ ?_, ?_⟩
    · exact .failed (early_of_failed hf.initiated (.inr (.inl rfl)) rfl) rfl
    · exact .failed (early_of_failed hf.initiated (.inr (.inl rfl)) rfl) rfl
    · intro r
      exact .failed (early_of_failed hf.initiated (.inr (.inl rfl)) rfl) rfl
    · intro status rsp
      obtain ⟨chip, st, skip, hcb, hfail, hset⟩ :=
        fwDnldGetVersionCb_before o status rsp hf.initiated
      have hup : (Event.request k s.ctx .getVersion (.completed status rsp)).upToDate o = skip := by
        simp only [Event.upToDate, hf.initiated, hcb]
        rfl
      rw [hcb]
      refine ⟨⟨_, _, _, _, _, rfl⟩, ?_, ?_, ?_, fun _ _ => hclosed, ?_⟩
      · split <;> decide
      · intro hr
        refine ⟨hr, fun hne => early_of_failed hf.initiated (.inr (.inl rfl)) ?_⟩
        show decide ((fwDnldGetVersionCb o status rsp s.ctx).1 = NFCSTATUS.success) = false
        rw [hcb]
        exact decide_eq_false fun hst => hne (if_pos hst)
      · rw [hup, hskip]
        simp
      · intro _ h1
        apply if_pos
        by_contra hst
        rw [hfail hst, hskip] at h1
        cases h1
    · intro h
      rw [hskip] at h
      cases h

/-- The log before the write; it is not read when the rest is skipped or a session is retried. -/
theorem fwDnldLogRead_prelude {s : HalState} (hf : Fresh s.ctx)
    (hclosed : s.ctx.bSkipSeq = true → s.ctx.bPrevSessnOpen = false) :
    ∃ evs, Prelude o k s (fwDnldLogRead o k s).1 (fwDnldLogRead o k s).2 evs ∧
      (s.ctx.bSkipSeq = true → (fwDnldLogRead o k s).1 = NFCSTATUS.success) := by
  unfold fwDnldLogRead
  split
  · exact ⟨[], Prelude.refl o k s, fun _ => rfl⟩
  · rename_i hmade
    refine ⟨_, makeRequest_prelude hf.initiated (.inr (.inr (.inr rfl))) ?_ ?_ ?_ ?_,
      fun h => absurd (.inl ⟨.inl h, hclosed h⟩) hmade⟩
    · exact .failed (early_of_failed hf.initiated (.inr (.inr rfl)) rfl) rfl
    · exact .failed (early_of_failed hf.initiated (.inr (.inr rfl)) rfl) rfl
    · intro r
      exact .failed (early_of_failed hf.initiated (.inr (.inr rfl)) rfl) rfl
    · intro status rsp
      by_cases hok : status = NFCSTATUS.success
      · have hcb : fwDnldLogReadCb status rsp s.ctx = (NFCSTATUS.success,
            { s.ctx with tLogParams := EELogParams.ofBytes rsp }) := if_pos hok
        rw [hcb]
        exact .success rfl (fun _ => rfl) rfl
      · have hcb : fwDnldLogReadCb status rsp s.ctx = (NFCSTATUS.failed, s.ctx) := if_neg hok
        rw [hcb, if_neg failed_ne_success]
        apply PreludeAnswer.failed (early_of_failed hf.initiated (.inr (.inr rfl)) ?_) rfl
        exact decide_eq_false hok

end Requests

/-! ## The part in front of the write -/

/-- The functions `fs` run as a part in front of the write, followed by `gs`. -/
def RunsPrelude (o : Oracle) (k : SeqKind) (fs gs : List Step) (s : HalState) : Prop :=
  ∃ st s₁ evs, Prelude o k s st s₁ evs ∧
    (s.ctx.bSkipSeq = true → st = NFCSTATUS.success) ∧
    runSteps k fs s = if st = NFCSTATUS.success then runSteps k gs s₁ else (st, s₁)

theorem RunsPrelude.refl (o : Oracle) (k : SeqKind) (gs : List Step) (s : HalState) :
    RunsPrelude o k gs gs s :=
  ⟨_, s, [], Prelude.refl o k s, fun _ => rfl, (if_pos rfl).symm⟩

/-- One more function in front. -/
theorem RunsPrelude.cons {o : Oracle} {k : SeqKind} {f : Step} {fs gs : List Step} {s : HalState}
    {evs : List Event} (hf : Prelude o k s (f k s).1 (f k s).2 evs)
    (hskip : s.ctx.bSkipSeq = true → (f k s).1 = NFCSTATUS.success)
    (hrest : (f k s).1 = NFCSTATUS.success → RunsPrelude o k fs gs (f k s).2) :
    RunsPrelude o k (f :: fs) gs s := by
  by_cases hst : (f k s).1 = NFCSTATUS.success
  · obtain ⟨st, s₁, evs', h, hskip', hrun⟩ := hrest hst
    rw [hst] at hf
    refine ⟨st, s₁, evs ++ evs', hf.trans h hskip', ?_, ?_⟩
    · intro h0
      exact hskip' (hf.skip.2 (.inl h0))
    · rw [runSteps_cons, if_pos hst, hrun]
  · refine ⟨_, _, evs, hf, hskip, ?_⟩
    rw [runSteps_cons, if_neg hst, if_neg hst]

/-- The functions from the write on. -/
def writeOn (o : Oracle) : List Step :=
  [fwDnldWrite o, fwDnldGetSessnState o, fwDnldGetVersion o, fwDnldLog o, fwDnldChkIntegrity o]

/-- The download sequence gets to the write, or stops in front of it. -/
theorem prelude_runSteps {o : Oracle} {k : SeqKind} {s : HalState} (hf : Fresh s.ctx)
    (hskip : s.ctx.bSkipSeq = false) :
    RunsPrelude o k (dwnldSeqHandler o) (writeOn o) s := by
  have hno : ∀ {t : HalState} {st : NFCSTATUS}, t.ctx.bSkipSeq = false → t.ctx.bSkipSeq = true →
      st = NFCSTATUS.success := by
    intro t st h0 h1
    rw [h0] at h1
    cases h1
  obtain ⟨_, h₁, hs₁⟩ := fwDnldNormal_prelude (o := o) (k := k) hf
  refine .cons h₁ (hno hskip) fun _ => ?_
  have hf₁ := h₁.fresh hf
  obtain ⟨_, h₂, hs₂⟩ := fwDnldNormal_prelude (o := o) (k := k) hf₁
  refine .cons h₂ (hno (hs₁.trans hskip)) fun hst₁ => ?_
  have hf₂ := h₂.fresh hf₁
  obtain ⟨_, h₃, hs₃⟩ := fwDnldGetSessnState_prelude (o := o) (k := k) hf₂
  refine .cons h₃ hs₃ fun _ => ?_
  have hf₃ := h₃.fresh hf₂
  obtain ⟨_, h₄, hs₄⟩ := fwDnldGetVersion_prelude (o := o) (k := k) hf₃
  refine .cons h₄ hs₄ fun _ => ?_
  -- the session is known to be closed when the rest is skipped
  have hclosed := h₄.closed (h₃.closed (h₂.closed (h₁.closed fun h => by
    rw [hskip] at h
    cases h)))
  obtain ⟨_, h₅, hs₅⟩ := fwDnldLogRead_prelude (o := o) (k := k) (h₄.fresh hf₃) hclosed
  exact .cons h₅ hs₅ fun _ => .refl o k _ _

end AliceHal.Pn54x.FwDnld
