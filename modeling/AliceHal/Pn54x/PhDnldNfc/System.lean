import AliceHal.Lib.Machine
import AliceHal.Pn54x.PhDnldNfc.Api

/-!
# The Download Component as a System

The download context together with what TML and the timer module owe it: the completion
callback of a pending write, of a pending read, and the callback of the timer.

The component moves when it is called (`Stimulus`): a request from above, the completion of a
write or of a read, or the expiry of the timer. A completion is enabled only while the
operation is pending. `Env` holds what the layers below answer during the call.

- A read completes with any bytes that fit the buffer it was given; TML stores them in the
  frame buffer, which is also the buffer the handler is given.
- A stopped timer keeps its registration, so a late expiry still reaches its callback.
-/

namespace AliceHal.Pn54x.PhDnldNfc

open Lib

/-- The context and the callbacks the layers below hold. -/
structure Sys where
  ctx : DlContext
  writePending : Option Handler
  readPending : Option Handler
  timerCb : Option TimerCb
  deriving DecidableEq, Repr

/-- What can happen to the component. -/
inductive Stimulus where
  | request (r : Request) (pNotify pContext : Option Nat) (libs : FwLibs)
  | writeDone (wStatus : NFCSTATUS)
  | readDone (wStatus : NFCSTATUS) (rsp : List UInt8)
  | timerFired

/-- A stimulus with the answers of the layers below during the call. -/
structure Input where
  stim : Stimulus
  env : Env

/-- A call into the component from TML or the timer, not a new request. -/
def Stimulus.isCallback : Stimulus → Prop
  | .request _ _ _ _ => False
  | _ => True

instance : DecidablePred Stimulus.isCallback
  | .request _ _ _ _ => isFalse id
  | .writeDone _ | .readDone _ _ | .timerFired => isTrue trivial

namespace Sys

/-- What a call of the handler leaves with the layers below. -/
def perform (env : Env) (s : Sys) : Action → Sys
  | .timerStart _ cb => if env.timerStart = NFCSTATUS.success then { s with timerCb := some cb } else s
  | .timerDelete => { s with timerCb := none }
  | .tmlWrite _ h => if env.tmlWrite = NFCSTATUS.pending then { s with writePending := some h } else s
  | .tmlRead h => if env.tmlRead = NFCSTATUS.pending then { s with readPending := some h } else s
  | .readAbort => { s with readPending := none }
  | .timerStop | .ioctl _ | .userCb _ _ _ _ => s

/-- The system after a call that returned `ctx` and made the calls `acts`. -/
def settle (s : Sys) (env : Env) (ctx : DlContext) (acts : List Action) : Sys :=
  acts.foldl (perform env) { s with ctx := ctx }

/-- A TML completion enters the state machine it was registered for. -/
def complete (h : Handler) (ctx : DlContext) (info : TransactInfo) (env : Env) :
    DlContext × List Action :=
  match h with
  | .processSeqState => processSeqState ctx (some info) env
  | .processRWSeqState => processRWSeqState ctx (some info) env

/-- The expired timer enters its callback. -/
def expire (cb : TimerCb) (ctx : DlContext) (env : Env) : DlContext × List Action :=
  match cb with
  | .rspTimeOutCb => rspTimeOutCb ctx env
  | .resendTimeOutCb => resendTimeOutCb ctx env

/-- The context once TML has stored a response in the frame buffer. -/
def receive (ctx : DlContext) (rsp : List UInt8) : DlContext :=
  { ctx with tCmdRspFrameInfo :=
    { ctx.tCmdRspFrameInfo with aFrameBuff := ctx.tCmdRspFrameInfo.aFrameBuff.overwrite 0 rsp } }

/-- The transaction info of a completed write; TML reports one byte for a successful one. -/
def writeInfo (ctx : DlContext) (wStatus : NFCSTATUS) : TransactInfo :=
  ⟨wStatus, some ctx.tCmdRspFrameInfo.aFrameBuff.bytes, 1⟩

/-- The transaction info of a completed read of `n` bytes into the frame buffer. -/
def readInfo (ctx : DlContext) (wStatus : NFCSTATUS) (n : Nat) : TransactInfo :=
  ⟨wStatus, some ctx.tCmdRspFrameInfo.aFrameBuff.bytes, n⟩

/-- One call into the component; `none` when nothing is pending that could make it. -/
def step (s : Sys) (i : Input) : Option (Sys × List Action) :=
  match i.stim with
  | .request r pNotify pContext libs =>
    let (_, ctx, acts) := issue r pNotify pContext libs s.ctx i.env
    some (s.settle i.env ctx acts, acts)
  | .writeDone wStatus =>
    s.writePending.map fun h =>
      let (ctx, acts) := complete h s.ctx (writeInfo s.ctx wStatus) i.env
      (settle { s with writePending := none } i.env ctx acts, acts)
  | .readDone wStatus rsp =>
    if rsp.length ≤ cmdRespMaxBuffSize then
      s.readPending.map fun h =>
        let ctx := receive s.ctx rsp
        let (ctx, acts) := complete h ctx (readInfo ctx wStatus rsp.length) i.env
        (settle { s with readPending := none } i.env ctx acts, acts)
    else none
  | .timerFired =>
    s.timerCb.map fun cb =>
      let (ctx, acts) := expire cb s.ctx i.env
      (s.settle i.env ctx acts, acts)

end Sys

/-- The frames a call hands to TML. -/
def sentFrames (acts : List Action) : List (List UInt8) :=
  acts.filterMap fun
    | .tmlWrite bytes _ => some bytes
    | _ => none

/-- A context on which no request is in progress and no timer is held. -/
structure DlContext.AtRest (ctx : DlContext) : Prop where
  inProgress : ctx.tDnldInProgress = .idle
  event : ctx.tCurrEvent = .invalid
  state : ctx.tCurrState = .init
  timer : ctx.TimerInfo = ⟨0, 0, NFCSTATUS.success⟩

/-- The component with nothing outstanding. -/
def Sys.rest (ctx : DlContext) : Sys := ⟨ctx, none, none, none⟩

/-- The component once `phDnldNfc_InitImgInfo` has cleared the context and set the image. -/
def Sys.booted (pImageInfo : Option (List UInt8)) (ImageInfoLen : Nat) : Sys :=
  rest { DlContext.zero with nxp_nfc_fw := pImageInfo, nxp_nfc_fw_len := ImageInfoLen }

/-- The layers below accept every call. -/
def Env.accepting : Env := ⟨1, NFCSTATUS.success, NFCSTATUS.pending, NFCSTATUS.pending⟩

/-- No recovery library is installed. -/
def FwLibs.absent : FwLibs := ⟨⟨false, none, none⟩, ⟨false, none, none⟩⟩

end AliceHal.Pn54x.PhDnldNfc
