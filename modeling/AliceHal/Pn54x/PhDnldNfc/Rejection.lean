import AliceHal.Pn54x.PhDnldNfc.Framing
import AliceHal.Pn54x.PhDnldNfc.Outcome

/-!
# Requests That Are Not Taken

A request that does not return `NFCSTATUS_PENDING` reports no completion later on, so it should
leave the handler free. The checks of the request do. Once the command handler runs, the busy
mark, the event and the state are set before the timer is created and before TML is asked to
write, and only the response state clears them: a request that fails there leaves the handler
busy for good.

- `IdleHandler`: the handler takes the next request
- `SequenceStarts`: timer and TML accept the first frame
- `build_of_prepared`: an admitted request never fails in the building of its frame
- `request_frees_handler_iff`: exactly when a request that is not pending leaves the handler idle
-/

namespace AliceHal.Pn54x.PhDnldNfc

open Lib

/-- The handler takes the next request. -/
structure DlContext.IdleHandler (ctx : DlContext) : Prop where
  inProgress : ctx.tDnldInProgress = .idle
  event : ctx.tCurrEvent = .invalid
  state : ctx.tCurrState = .init

/-- TML accepts the frame, and the sequence gets to it: a timer is held or created, or the
machine is the one that goes on without. -/
def SequenceStarts (r : Request) (ctx : DlContext) (env : Env) : Prop :=
  env.tmlWrite = NFCSTATUS.pending ∧
    (ctx.TimerInfo.dwRspTimerId ≠ 0 ∨ env.timerCreate ≠ 0 ∨
      (r.event.handler = some .processRWSeqState ∧ ctx.bResendLastFrame = false))

/-! ## Building never fails -/

/-- Two contexts with the same inputs to the building of a frame. -/
structure SameInputs (c ctx : DlContext) : Prop where
  frameInp : c.FrameInp = ctx.FrameInp
  userData : c.tUserData = ctx.tUserData
  rspBuff : c.tRspBuffInfo = ctx.tRspBuffInfo
  rwInfo : c.tRWInfo = ctx.tRWInfo

theorem verifyFrameInputs_congr {c ctx : DlContext} (h : SameInputs c ctx) :
    (verifyFrameInputs c).1 = (verifyFrameInputs ctx).1 := by
  simp only [verifyFrameInputs, h.frameInp, h.userData, h.rspBuff, h.rwInfo]
  repeat' split
  all_goals rfl

/-- The frame of an admitted request is always built. -/
theorem build_of_prepared {r : Request} {libs : FwLibs} {cb ctxt : Nat} {ctx ctx' c : DlContext}
    (hp : r.prepare libs cb ctxt ctx = .submit ctx') (hc : SameInputs c ctx') :
    (buildFramePkt c).1 = NFCSTATUS.success := by
  obtain ⟨hF, hv⟩ := prepare_submit hp
  rw [← verifyFrameInputs_congr hc] at hv
  by_cases hr : r.event = .raw
  · -- a raw request is copied as it is
    cases r with
    | rawReq f rsp =>
      simp only [Request.prepare, prepareRawReq] at hp
      split at hp
      · rename_i hvalid
        cases hp
        have htype : c.FrameInp.type = .ftRaw := by rw [hc.frameInp]; rfl
        have huser : ¬(c.tUserData.wLen = 0 ∨ c.tUserData.pBuff = none) := by
          rw [hc.userData]
          exact fun h => h.elim hvalid.1.2 hvalid.1.1
        simp [buildFramePkt, verifyFrameInputs, createFramePld, finishFrame, htype, huser]
      · cases hp
    | _ => cases hr
  · have hraw : c.FrameInp.type ≠ .ftRaw := by
      rw [hc.frameInp]
      exact prepare_submit_type hr hp
    have hFc : Framable c := hF.congr (by rw [hc.frameInp]) hc.userData (by rw [hc.rwInfo])
      (by rw [hc.rwInfo])
    exact (buildFramePkt_wireFrame hraw hFc hv).1

/-! ## The command handler -/

theorem seqStateSend_status {c : DlContext} (env : Env)
    (h : (buildFramePkt c).1 = NFCSTATUS.success) :
    (seqStateSend c env).1.tDnldInProgress = c.tDnldInProgress ∧
      (seqStateSend c env).1.wCmdSendStatus = env.tmlWrite := by
  simp only [seqStateSend, if_pos h, sendFrame]
  exact ⟨(buildFramePkt_sameControl c).inProgress, trivial⟩

/-- The send state of the read/write sequence reports what TML answers, unless a resend was asked
for and the timer could not be created. -/
theorem rwStateSend_status {c : DlContext} (wStatus : NFCSTATUS) (env : Env)
    (h : (buildFramePkt c).1 = NFCSTATUS.success) :
    (rwStateSend wStatus c env).1.tDnldInProgress = c.tDnldInProgress ∧
      (rwStateSend wStatus c env).1.wCmdSendStatus =
        if c.bResendLastFrame = false ∨ wStatus = NFCSTATUS.success then env.tmlWrite
        else wStatus := by
  have hb := (buildFramePkt_sameControl c).inProgress
  simp only [rwStateSend]
  cases hre : c.bResendLastFrame with
  | false => simp [h, sendFrame, hb]
  | true =>
    by_cases hst : wStatus = NFCSTATUS.success
    · simp [hst, sendFrame]
    · simp [hst]

/-- An admitted request makes the handler busy, and is pending exactly when its sequence starts. -/
theorem cmdHandler_status {r : Request} {libs : FwLibs} {cb ctxt : Nat} {ctx ctx' : DlContext}
    (hp : r.prepare libs cb ctxt ctx = .submit ctx') (hidle : ctx'.IdleHandler) (env : Env) :
    (cmdHandler ctx' r.event env).2.1.tDnldInProgress = .busy ∧
      ((cmdHandler ctx' r.event env).1 = NFCSTATUS.pending ↔ SequenceStarts r ctx' env) := by
  have hbuild : ∀ (st : State) (ti : RspTimerInfo),
      (buildFramePkt { ctx' with
        tCurrEvent := r.event, tDnldInProgress := .busy, TimerInfo := ti,
        tCurrState := st }).1 = NFCSTATUS.success :=
    fun st ti => build_of_prepared hp ⟨rfl, rfl, rfl, rfl⟩
  have hres : NFCSTATUS.insufficientResources ≠ NFCSTATUS.pending := by decide
  have hres' : NFCSTATUS.insufficientResources ≠ NFCSTATUS.success := by decide
  obtain ⟨hd, hhd⟩ := r.event_handler
  simp only [cmdHandler, hhd, hidle.event, if_true, SequenceStarts]
  cases hd with
  | processSeqState =>
    simp only [processSeqState, hidle.state, seqStateInit]
    by_cases hid : ctx'.TimerInfo.dwRspTimerId = 0
    · by_cases hcreate : env.timerCreate = 0
      · simp [hid, hcreate, hres]
      · have hsend := seqStateSend_status env
          (hbuild .send ⟨env.timerCreate, 0, NFCSTATUS.success⟩)
        simp [hid, hcreate, hsend]
    · have hsend := seqStateSend_status env (hbuild .send ctx'.TimerInfo)
      simp [hid, hsend]
  | processRWSeqState =>
    simp only [processRWSeqState, hidle.state, rwStateInit]
    by_cases hid : ctx'.TimerInfo.dwRspTimerId = 0
    · by_cases hcreate : env.timerCreate = 0
      · have hsend := rwStateSend_status NFCSTATUS.insufficientResources env
          (hbuild .send ctx'.TimerInfo)
        simp only [hid, hcreate, if_true, hsend]
        cases ctx'.bResendLastFrame <;> simp [hres, hres']
      · have hsend := rwStateSend_status NFCSTATUS.success env
          (hbuild .send ⟨env.timerCreate, 0, NFCSTATUS.success⟩)
        simp [hid, hcreate, hsend]
    · have hsend := rwStateSend_status NFCSTATUS.success env (hbuild .send ctx'.TimerInfo)
      simp [hid, hsend]

/-! ## Requests -/

theorem prepare_idle {ctx : DlContext} (h : ctx.IdleHandler) (r : Request) (libs : FwLibs)
    (cb ctxt : Nat) : (r.prepare libs cb ctxt ctx).ctx.IdleHandler := by
  cases r with
  | reset | force => exact ⟨h.inProgress, h.event, h.state⟩
  | getVersion | getSessionState | readLog | log | rawReq | checkIntegrity =>
    simp only [Request.prepare, prepareGetVersion, prepareGetSessionState, prepareReadLog,
      prepareLog, prepareRawReq, prepareCheckIntegrity]
    split <;> exact ⟨h.inProgress, h.event, h.state⟩
  | write rec data =>
    have himg : (imageToWrite rec data libs ctx).2.2.IdleHandler := by
      rcases imageToWrite_ctx rec data libs ctx with heq | ⟨fwp, n, heq⟩
      · rw [heq]
        exact h
      · rw [heq]
        exact ⟨rfl, rfl, rfl⟩
    simp only [Request.prepare, prepareWrite]
    split
    · exact ⟨himg.inProgress, himg.event, himg.state⟩
    · exact himg

/-- A request that is not pending leaves the handler idle exactly when its own checks refuse it
or its sequence starts, so that it is pending after all. -/
theorem request_frees_handler_iff (r : Request) (pNotify pContext : Option Nat) (libs : FwLibs)
    {ctx : DlContext} (env : Env) (hidle : ctx.IdleHandler) :
    ((issue r pNotify pContext libs ctx env).1 ≠ NFCSTATUS.pending →
        (issue r pNotify pContext libs ctx env).2.1.IdleHandler) ↔
      ∀ cb ctxt ctx', pNotify = some cb → pContext = some ctxt → r.argsPresent = true →
        r.prepare libs cb ctxt ctx = .submit ctx' → SequenceStarts r ctx' env := by
  rcases issue_cases r pNotify pContext libs ctx env with
    ⟨hnull, heq⟩ | ⟨hbusy, -⟩ | ⟨cb, ctxt, rfl, rfl, hargs, -, hcase⟩
  · rw [heq]
    refine iff_of_true (fun _ => hidle) ?_
    rintro cb ctxt ctx' rfl rfl hargs
    simp [hargs] at hnull
  · exact absurd hidle.inProgress hbusy
  · have hprep := prepare_idle hidle r libs cb ctxt
    rcases hcase with ⟨st, ctx', hp, heq⟩ | ⟨ctx', hp, heq⟩
    · rw [hp] at hprep
      rw [heq]
      refine iff_of_true (fun _ => hprep) ?_
      rintro cb' ctxt' c ⟨⟩ ⟨⟩ - hsub
      rw [hp] at hsub
      cases hsub
    · rw [hp] at hprep
      obtain ⟨hbusy, hpend⟩ := cmdHandler_status hp hprep env
      rw [heq]
      constructor
      · rintro h cb' ctxt' c ⟨⟩ ⟨⟩ - hsub
        rw [hp] at hsub
        cases hsub
        apply hpend.1
        by_contra hne
        have hfree := (h hne).inProgress
        rw [hbusy] at hfree
        cases hfree
      · intro h hne
        exact absurd (hpend.2 (h cb ctxt ctx' rfl rfl hargs hp)) hne

/-- TML is busy with another write. -/
def Env.tmlBusy : Env :=
  { Env.accepting with tmlWrite := phNfcStVal cidNfcTml NFCSTATUS.busy }

/-- A reset request that TML turns away leaves the handler busy. -/
theorem rejected_reset_stays_busy :
    (issue .reset (some 1) (some 1) FwLibs.absent DlContext.zero Env.tmlBusy).1 ≠
        NFCSTATUS.pending ∧
      ¬(issue .reset (some 1) (some 1) FwLibs.absent DlContext.zero Env.tmlBusy).2.1.IdleHandler ∧
      (issue .reset (some 1) (some 1) FwLibs.absent
        (issue .reset (some 1) (some 1) FwLibs.absent DlContext.zero Env.tmlBusy).2.1
        Env.accepting).1 = phNfcStVal cidNfcDnld NFCSTATUS.busy := by
  refine ⟨by decide +kernel, fun h => absurd h.inProgress (by decide +kernel), by decide +kernel⟩

/-- A log request without data is refused with the handler idle. -/
theorem request_frees_handler_log :
    (issue (.log none) (some 1) (some 1) FwLibs.absent DlContext.zero Env.tmlBusy).2.1.IdleHandler :=
  (request_frees_handler_iff (.log none) (some 1) (some 1) FwLibs.absent Env.tmlBusy
    ⟨rfl, rfl, rfl⟩).2 (fun _ _ _ _ _ h => absurd h (by decide)) (by decide)

end AliceHal.Pn54x.PhDnldNfc
