import AliceHal.Pn54x.PhDnldNfc.Frame

/-!
# The Download Command Handler

The two state machines of `phDnldNfc_Internal.c`, `phDnldNfc_ProcessSeqState` and
`phDnldNfc_ProcessRWSeqState`, with the timer callbacks and `phDnldNfc_CmdHandler`.

Each call of a state machine is a function of the context, the transaction info it is given
and the outcomes of the calls it makes into the timer module and TML (`Env`). It returns the
new context and the calls made, in order (`Action`). The fall-through cases of the source's
`switch` are functions that call the next one.
-/

namespace AliceHal.Pn54x.PhDnldNfc

open Lib

/-! ## Calls into the layers below -/

/-- Callbacks registered with the response timer. -/
inductive TimerCb where
  | rspTimeOutCb | resendTimeOutCb
  deriving DecidableEq, Repr

/-- Modes of `phTmlNfc_IoCtl` used here. -/
inductive ControlCode where
  | enableNormalMode | enableDownloadMode
  deriving DecidableEq, Repr

/-- Which state machine a TML completion goes to. -/
inductive Handler where
  | processSeqState | processRWSeqState
  deriving DecidableEq, Repr

/-- A call the handler makes. -/
inductive Action where
  | timerStart (dwRegTimeCnt : Nat) (cb : TimerCb)
  | timerStop
  | timerDelete
  | tmlWrite (pBuffer : List UInt8) (cb : Handler)
  | tmlRead (cb : Handler)
  | readAbort
  | ioctl (code : ControlCode)
  | userCb (cb ctxt : Nat) (wStatus : NFCSTATUS) (pInfo : Buff)
  deriving DecidableEq, Repr

/-- What the layers below answer during one call of the handler: the id
`phOsalNfc_Timer_Create` returns and the statuses of `phOsalNfc_Timer_Start`, `phTmlNfc_Write`
and `phTmlNfc_Read`. Each is called at most once. -/
structure Env where
  timerCreate : Nat
  timerStart : NFCSTATUS
  tmlWrite : NFCSTATUS
  tmlRead : NFCSTATUS
  deriving DecidableEq, Repr

/-! ## Steps shared by the two machines -/

/-- The `UserCb` call at the end of a sequence. -/
def notifyUser (ctx : DlContext) (wStatus : NFCSTATUS) : List Action :=
  match ctx.UserCb, ctx.UserCtxt with
  | some cb, some ctxt => [.userCb cb ctxt wStatus ctx.tRspBuffInfo]
  | _, _ => []

/-- The context after a sequence: idle, its timer deleted. -/
def resetHandler (ctx : DlContext) : DlContext :=
  { ctx with
    tCurrEvent := .invalid, tDnldInProgress := .idle, tCurrState := .init,
    TimerInfo := ⟨0, 0, NFCSTATUS.success⟩ }

/-- State `phDnldNfc_StateTimer`: a running timer is stopped. -/
def stopTimer (ctx : DlContext) : DlContext × List Action :=
  let stopped := if ctx.TimerInfo.TimerStatus = 1 then [Action.timerStop] else []
  ({ ctx with
      TimerInfo := { ctx.TimerInfo with
        TimerStatus := if ctx.TimerInfo.TimerStatus = 1 then 0 else ctx.TimerInfo.TimerStatus },
      tCurrState := .response }, stopped)

/-- State `phDnldNfc_StateRecv` after a successful send: the response timer is started and the
response read. -/
def awaitResponse (cb : Handler) (ctx : DlContext) (env : Env) : DlContext × List Action :=
  let started := decide (env.timerStart = NFCSTATUS.success)
  ({ ctx with
      TimerInfo := { ctx.TimerInfo with
        TimerStatus := if started then 1 else ctx.TimerInfo.TimerStatus },
      tCurrState := if started then .timer else .response,
      wCmdSendStatus := env.tmlRead },
    [.timerStart rspTimeout .rspTimeOutCb, .tmlRead cb])

/-- The frame that was built is handed to TML. -/
def sendFrame (cb : Handler) (ctx : DlContext) : DlContext × List Action :=
  ({ ctx with tCurrState := .recv }, [.tmlWrite (frameBytes ctx) cb])

/-! ## Normal sequence -/

/-- State `phDnldNfc_StateResponse` of `phDnldNfc_ProcessSeqState`. -/
def seqStateResponse (ctx : DlContext) (pInfo : Option TransactInfo) :
    DlContext × List Action :=
  let (wStatus, ctx) :=
    if ctx.TimerInfo.wTimerExpStatus ≠ NFCSTATUS.rfTimeout then processFrame ctx pInfo
    else (if ctx.tCurrEvent ≠ .reset then ctx.TimerInfo.wTimerExpStatus else NFCSTATUS.success,
      ctx)
  (resetHandler ctx, [.readAbort, .timerDelete] ++ notifyUser ctx wStatus)

/-- State `phDnldNfc_StateTimer`, falling through to the response state. -/
def seqStateTimer (ctx : DlContext) (pInfo : Option TransactInfo) : DlContext × List Action :=
  let (ctx, acts) := stopTimer ctx
  let (ctx, acts') := seqStateResponse ctx pInfo
  (ctx, acts ++ acts')

/-- State `phDnldNfc_StateRecv`; a failed send falls through to the timer state. -/
def seqStateRecv (ctx : DlContext) (pInfo : Option TransactInfo) (env : Env) :
    DlContext × List Action :=
  if processRecvInfo pInfo = NFCSTATUS.success then awaitResponse .processSeqState ctx env
  else
    seqStateTimer { ctx with
      TimerInfo := { ctx.TimerInfo with wTimerExpStatus := NFCSTATUS.rfTimeout },
      tCurrState := .response } pInfo

/-- State `phDnldNfc_StateSend`. -/
def seqStateSend (ctx : DlContext) (env : Env) : DlContext × List Action :=
  let (wStatus, ctx) := buildFramePkt ctx
  if wStatus = NFCSTATUS.success then
    let (ctx, acts) := sendFrame .processSeqState ctx
    ({ ctx with wCmdSendStatus := env.tmlWrite }, acts)
  else ({ ctx with wCmdSendStatus := wStatus }, [])

/-- State `phDnldNfc_StateInit`; without a timer the sequence stops here. -/
def seqStateInit (ctx : DlContext) (env : Env) : DlContext × List Action :=
  if ctx.TimerInfo.dwRspTimerId = 0 then
    if env.timerCreate = 0 then
      ({ ctx with wCmdSendStatus := NFCSTATUS.insufficientResources }, [])
    else
      seqStateSend { ctx with
        TimerInfo := ⟨env.timerCreate, 0, NFCSTATUS.success⟩, tCurrState := .send } env
  else seqStateSend { ctx with tCurrState := .send } env

/-- `phDnldNfc_ProcessSeqState` -/
def processSeqState (ctx : DlContext) (pInfo : Option TransactInfo) (env : Env) :
    DlContext × List Action :=
  match ctx.tCurrState with
  | .init => seqStateInit ctx env
  | .send => seqStateSend ctx env
  | .recv => seqStateRecv ctx pInfo env
  | .timer => seqStateTimer ctx pInfo
  | .response => seqStateResponse ctx pInfo
  | .pipelined | .invalid => ({ ctx with tCurrEvent := .invalid, tDnldInProgress := .idle }, [])

/-! ## Read/write sequence -/

/-- `phDnldNfc_SetupResendTimer` -/
def setupResendTimer (ctx : DlContext) (env : Env) : NFCSTATUS × DlContext × List Action :=
  let started := decide (env.timerStart = NFCSTATUS.success)
  (env.timerStart,
    { ctx with
      TimerInfo := { ctx.TimerInfo with TimerStatus := if started then 1 else 0 },
      tCurrState := if started then .timer else .response },
    [.timerStart retryFrameWrite .resendTimeOutCb])

/-- The status of the response in state `phDnldNfc_StateResponse`: a timed-out sequence reports
its timeout, a busy NFCC starts the resend timer. -/
def rwResponseStatus (ctx : DlContext) (pInfo : Option TransactInfo) (env : Env) :
    NFCSTATUS × DlContext × List Action :=
  if ctx.TimerInfo.wTimerExpStatus ≠ NFCSTATUS.rfTimeout then
    let (wStatus, ctx) := processFrame ctx pInfo
    if wStatus = NFCSTATUS.busy then
      let (timerStatus, ctx, acts) := setupResendTimer ctx env
      (if timerStatus = NFCSTATUS.success then NFCSTATUS.busy else timerStatus, ctx, acts)
    else (wStatus, ctx, [])
  else
    (ctx.TimerInfo.wTimerExpStatus,
      { ctx with TimerInfo := { ctx.TimerInfo with wTimerExpStatus := NFCSTATUS.success } }, [])

/-- State `phDnldNfc_StateResponse` of `phDnldNfc_ProcessRWSeqState`: the next frame, the wait
for a resend, or the end of the sequence. -/
def rwStateResponse (ctx : DlContext) (pInfo : Option TransactInfo) (env : Env) :
    DlContext × List Action :=
  let (wStatus, ctx, acts) := rwResponseStatus ctx pInfo env
  if ctx.tRWInfo.wRemBytes ≠ 0 ∧ wStatus = NFCSTATUS.success then
    let (wStatus, ctx) := buildFramePkt ctx
    if wStatus = NFCSTATUS.success then
      let (ctx, acts') := sendFrame .processRWSeqState ctx
      (ctx, acts ++ [.readAbort] ++ acts')
    else (ctx, acts ++ [.readAbort])
  else if wStatus = NFCSTATUS.busy then (ctx, acts)
  else
    let ctx := { ctx with
      tRWInfo := { ctx.tRWInfo with bFramesSegmented := false }, bResendLastFrame := false }
    (resetHandler ctx, acts ++ [.readAbort, .timerDelete] ++ notifyUser ctx wStatus)

/-- State `phDnldNfc_StateTimer`, falling through to the response state. -/
def rwStateTimer (ctx : DlContext) (pInfo : Option TransactInfo) (env : Env) :
    DlContext × List Action :=
  let (ctx, acts) := stopTimer ctx
  let (ctx, acts') := rwStateResponse ctx pInfo env
  (ctx, acts ++ acts')

/-- The timer is stopped before the response is handled. -/
theorem rwStateTimer_eq (ctx : DlContext) (pInfo : Option TransactInfo) (env : Env) :
    rwStateTimer ctx pInfo env =
      ((rwStateResponse (stopTimer ctx).1 pInfo env).1,
        (stopTimer ctx).2 ++ (rwStateResponse (stopTimer ctx).1 pInfo env).2) := rfl

/-- State `phDnldNfc_StateRecv`; a failed send falls through to the timer state. -/
def rwStateRecv (ctx : DlContext) (pInfo : Option TransactInfo) (env : Env) :
    DlContext × List Action :=
  if processRecvInfo pInfo = NFCSTATUS.success then awaitResponse .processRWSeqState ctx env
  else
    rwStateTimer { ctx with
      TimerInfo := { ctx.TimerInfo with wTimerExpStatus := NFCSTATUS.rfTimeout },
      tCurrState := .response } pInfo env

/-- State `phDnldNfc_StateSend`. A resend skips the building of the frame and keeps the status
it was entered with. -/
def rwStateSend (wStatus : NFCSTATUS) (ctx : DlContext) (env : Env) : DlContext × List Action :=
  let (wStatus, ctx) :=
    if ctx.bResendLastFrame = false then buildFramePkt ctx
    else (wStatus, { ctx with bResendLastFrame := false })
  if wStatus = NFCSTATUS.success then
    let (ctx, acts) := sendFrame .processRWSeqState ctx
    ({ ctx with wCmdSendStatus := env.tmlWrite }, acts)
  else ({ ctx with wCmdSendStatus := wStatus }, [])

/-- State `phDnldNfc_StateInit`. Unlike the normal sequence, a failed timer creation does not
stop the sequence. -/
def rwStateInit (ctx : DlContext) (env : Env) : DlContext × List Action :=
  if ctx.TimerInfo.dwRspTimerId = 0 then
    if env.timerCreate = 0 then
      rwStateSend NFCSTATUS.insufficientResources { ctx with tCurrState := .send } env
    else
      rwStateSend NFCSTATUS.success { ctx with
        TimerInfo := ⟨env.timerCreate, 0, NFCSTATUS.success⟩, tCurrState := .send } env
  else rwStateSend NFCSTATUS.success { ctx with tCurrState := .send } env

/-- `phDnldNfc_ProcessRWSeqState` -/
def processRWSeqState (ctx : DlContext) (pInfo : Option TransactInfo) (env : Env) :
    DlContext × List Action :=
  match ctx.tCurrState with
  | .init => rwStateInit ctx env
  | .send => rwStateSend NFCSTATUS.success ctx env
  | .recv => rwStateRecv ctx pInfo env
  | .timer => rwStateTimer ctx pInfo env
  | .response => rwStateResponse ctx pInfo env
  | .pipelined | .invalid => ({ ctx with tCurrEvent := .invalid, tDnldInProgress := .idle }, [])

/-! ## Timer callbacks -/

/-- `phDnldNfc_RspTimeOutCb`. Only read and write sequences go back to their own machine. -/
def rspTimeOutCb (ctx : DlContext) (env : Env) : DlContext × List Action :=
  if ctx.TimerInfo.TimerStatus = 1 then
    let venReset :=
      if ctx.tLastStatus = PhDlStatus.signatureError then
        [Action.ioctl .enableNormalMode, .ioctl .enableDownloadMode]
      else []
    let ctx := { ctx with TimerInfo :=
      { ctx.TimerInfo with TimerStatus := 0, wTimerExpStatus := NFCSTATUS.rfTimeout } }
    let (ctx, acts) :=
      if ctx.tCurrEvent = .read ∨ ctx.tCurrEvent = .write then processRWSeqState ctx none env
      else processSeqState ctx none env
    (ctx, venReset ++ acts)
  else (ctx, [])

/-- `phDnldNfc_ResendTimeOutCb` -/
def resendTimeOutCb (ctx : DlContext) (env : Env) : DlContext × List Action :=
  if ctx.TimerInfo.TimerStatus = 1 then
    processRWSeqState { ctx with
      TimerInfo := { ctx.TimerInfo with TimerStatus := 0, wTimerExpStatus := NFCSTATUS.success },
      tCurrState := .send, bResendLastFrame := true } none env
  else (ctx, [])

/-! ## Command handler -/

/-- The machine that processes an event, `none` for an event that is not a request. -/
def Event.handler : Event → Option Handler
  | .reset | .getVer | .integChk | .getSesnSt | .raw => some .processSeqState
  | .write | .read | .log | .force => some .processRWSeqState
  | .invalid => none

/-- `phDnldNfc_CmdHandler` -/
def cmdHandler (ctx : DlContext) (TrigEvent : Event) (env : Env) :
    NFCSTATUS × DlContext × List Action :=
  match TrigEvent.handler with
  | none => (phNfcStVal cidNfcDnld NFCSTATUS.invalidParameter, ctx, [])
  | some h =>
    if ctx.tCurrEvent = .invalid then
      let ctx := { ctx with tCurrEvent := TrigEvent, tDnldInProgress := .busy }
      let (ctx, acts) := match h with
        | .processSeqState => processSeqState ctx none env
        | .processRWSeqState => processRWSeqState ctx none env
      (ctx.wCmdSendStatus, ctx, acts)
    else (phNfcStVal cidNfcDnld NFCSTATUS.failed, ctx, [])

end AliceHal.Pn54x.PhDnldNfc
