import AliceHal.Pn54x.PhDnldNfc.Outcome
import AliceHal.Pn54x.PhDnldNfc.Segmentation

/-!
# A Whole Firmware Write

The component in a loop with an NFCC that takes every frame: TML completes each write, the NFCC
answers, the answer is read and the next frame goes out. The loop sends the image record by
record and ends with one report of success.

- `Nfcc`: an NFCC that answers every frame as one that has been taken
- `Below`: layers below that accept every read and write
- `exchange`: one frame completed and answered
- `Sending`, `Finished`: the loop while a frame is out, and at its end
- `exchange_fragment`, `exchange_record`, `exchange_end`: one exchange
- `write_lossless`: the whole loop
-/

namespace AliceHal.Pn54x.PhDnldNfc

open Lib

/-! ## The parties -/

/-- The frame before was a fragment, so that a fragment now is a later one. -/
def follows (hist : List (List UInt8)) : Bool := (hist.getLast?.map fragBit).getD false

/-- An NFCC that takes every frame: its answer to the frames received so far is a response frame
with the status due to the last of them. -/
structure Nfcc where
  answer : List (List UInt8) → List UInt8
  conforms : ∀ hist f, ∃ rest : List UInt8, rest.length ≤ 251 ∧
    answer (hist ++ [f]) = wireFrame false (ackStatus (fragBit f) (follows hist) :: rest)

/-- What the layers below answer call by call; reads and writes are always accepted. -/
structure Below where
  env : Nat → Env
  write : ∀ n, (env n).tmlWrite = NFCSTATUS.pending
  read : ∀ n, (env n).tmlRead = NFCSTATUS.pending

variable {s₀ : Sys}

/-- The frames sent in the course of a run. -/
def framesSent (es : List (Input × List Action)) : List (List UInt8) :=
  es.flatMap fun e => sentFrames e.2

/-- The reports to the user in the course of a run. -/
def userCalls (es : List (Input × List Action)) : List (Nat × Nat × NFCSTATUS) :=
  es.flatMap fun e => e.2.filterMap fun
    | .userCb cb ctxt wStatus _ => some (cb, ctxt, wStatus)
    | _ => none

/-- The write of the frame completes. -/
def completeWrite (below : Below) (t : Trace Sys.step s₀) : Trace Sys.step s₀ :=
  t.call ⟨.writeDone NFCSTATUS.success, below.env t.es.length⟩

/-- The NFCC answers the frames received so far. -/
def answerFrame (nfcc : Nfcc) (below : Below) (t : Trace Sys.step s₀) : Trace Sys.step s₀ :=
  t.call ⟨.readDone NFCSTATUS.success (nfcc.answer (framesSent t.es)), below.env t.es.length⟩

/-- One frame completed and answered. -/
def exchange (nfcc : Nfcc) (below : Below) (t : Trace Sys.step s₀) : Trace Sys.step s₀ :=
  answerFrame nfcc below (completeWrite below t)

/-- The bookkeeping right after the response `rsp` has been interpreted. -/
def acknowledged (s : Sys) (rsp : List UInt8) : RWInfo :=
  (processFrame (Sys.receive s.ctx rsp)
    (some (Sys.readInfo (Sys.receive s.ctx rsp) NFCSTATUS.success rsp.length))).2.tRWInfo

/-! ## The loop between two exchanges -/

/-- Where the write stands: the chunk of record `r` from `done` on has been sent and waits for
its response, with `post` still to come. -/
structure Progress (img : List UInt8) (cb ctxt : Nat) (t : Trace Sys.step s₀) (off : Nat)
    (r : Record) (post : List Record) (done : Nat) : Prop where
  writing : Writing img cb ctxt t.state.ctx
  recordAt : RecordAt img off r (image post)
  done_lt : done < r.payload.length
  done_long : 0 < done → 252 < r.payload.length
  outstanding : Outstanding img.length off r.payload.length done t.state.ctx.tRWInfo
  sent : ∃ hist, framesSent t.es = hist ++ [chunkFrame r done] ∧ follows hist = decide (0 < done)
  silent : userCalls t.es = []

/-- The write of the frame is pending. -/
structure Sending (img : List UInt8) (cb ctxt : Nat) (t : Trace Sys.step s₀) (off : Nat)
    (r : Record) (post : List Record) (done : Nat) : Prop
    extends Progress img cb ctxt t off r post done where
  state : t.state.ctx.tCurrState = .recv
  writePending : t.state.writePending = some .processRWSeqState

/-- The read of the response is pending. -/
structure Awaiting (img : List UInt8) (cb ctxt : Nat) (t : Trace Sys.step s₀) (off : Nat)
    (r : Record) (post : List Record) (done : Nat) : Prop
    extends Progress img cb ctxt t off r post done where
  state : t.state.ctx.tCurrState = .timer ∨ t.state.ctx.tCurrState = .response
  writePending : t.state.writePending = none
  readPending : t.state.readPending = some .processRWSeqState

/-- The write is over: nothing remains, the user has been told once. -/
structure Finished (cb ctxt : Nat) (t : Trace Sys.step s₀) : Prop where
  atRest : t.state = Sys.rest t.state.ctx ∧ t.state.ctx.AtRest
  rem : t.state.ctx.tRWInfo.wRemBytes = 0
  told : userCalls t.es = [(cb, ctxt, NFCSTATUS.success)]

/-! ## The response -/

/-- A response frame with status `st` is interpreted as a write response. -/
theorem processFrame_write {img : List UInt8} {cb ctxt : Nat} {ctx c : DlContext}
    (hw : Writing img cb ctxt c) {st : UInt8} {rest : List UInt8} (hrest : rest.length ≤ 251)
    (hbuff : ctx.tCmdRspFrameInfo.aFrameBuff.bytes.take (rest.length + 5) =
      wireFrame false (st :: rest)) :
    processFrame c (some (Sys.readInfo ctx NFCSTATUS.success (rest.length + 5))) =
      let u := updateRspWrite st c.tRWInfo c.tLastStatus
      (u.1, { c with tRWInfo := u.2.1, tLastStatus := u.2.2 }) := by
  have hlen : (st :: rest).length + 4 = rest.length + 5 := rfl
  have hstatus : byteAt ctx.tCmdRspFrameInfo.aFrameBuff.bytes 2 = st := by
    rw [← byteAt_take (n := rest.length + 5) (by omega), hbuff]
    rfl
  have hpld : (st :: rest).length ≤ 252 := Nat.succ_le_succ hrest
  rw [Sys.readInfo, ← hlen, processFrame_wireFrame hpld (by simp [hw.type])
    (by rw [hlen]; exact hbuff)]
  simp only [updateRsp, hw.cmd, if_true, frameHdrLen, hstatus]

/-! ## The completed write -/

theorem framesSent_append (es es' : List (Input × List Action)) :
    framesSent (es ++ es') = framesSent es ++ framesSent es' :=
  List.flatMap_append

theorem userCalls_append (es es' : List (Input × List Action)) :
    userCalls (es ++ es') = userCalls es ++ userCalls es' :=
  List.flatMap_append

/-- A completed write starts the wait for the response and touches nothing else. -/
theorem completeWrite_awaits (below : Below) {t : Trace Sys.step s₀}
    (hstate : t.state.ctx.tCurrState = .recv)
    (hpend : t.state.writePending = some .processRWSeqState) :
    ∃ ti st ws i,
      (completeWrite below t).state.ctx =
        { t.state.ctx with TimerInfo := ti, tCurrState := st, wCmdSendStatus := ws } ∧
      ti.wTimerExpStatus = t.state.ctx.TimerInfo.wTimerExpStatus ∧
      (st = .timer ∨ st = .response) ∧
      (completeWrite below t).state.writePending = none ∧
      (completeWrite below t).state.readPending = some .processRWSeqState ∧
      (completeWrite below t).es = t.es ++
        [(i, [.timerStart rspTimeout .rspTimeOutCb, .tmlRead .processRWSeqState])] := by
  set env := below.env t.es.length with henv
  have hcomplete : Sys.complete .processRWSeqState t.state.ctx
      (Sys.writeInfo t.state.ctx NFCSTATUS.success) env =
        awaitResponse .processRWSeqState t.state.ctx env := by
    simp only [Sys.complete, processRWSeqState, hstate, rwStateRecv]
    rw [if_pos (by simp [processRecvInfo, Sys.writeInfo, phNfcStatus, NFCSTATUS.success])]
  have hstep : t.state.step ⟨.writeDone NFCSTATUS.success, env⟩ =
      some (Sys.settle { t.state with writePending := none } env
        (awaitResponse .processRWSeqState t.state.ctx env).1
        (awaitResponse .processRWSeqState t.state.ctx env).2,
        (awaitResponse .processRWSeqState t.state.ctx env).2) := by
    simp only [Sys.step, hpend, Option.map_some, hcomplete]
  obtain ⟨hes, hst⟩ := Trace.call_of_some hstep
  have hread : env.tmlRead = NFCSTATUS.pending := below.read _
  set c := (awaitResponse .processRWSeqState t.state.ctx env).1 with hc
  refine ⟨c.TimerInfo, c.tCurrState, c.wCmdSendStatus, _, ?_, rfl, ?_, ?_, ?_, hes⟩
  · rw [completeWrite, hst, Sys.settle_ctx]
    rfl
  · rw [hc, awaitResponse]
    dsimp only
    split
    · exact .inl rfl
    · exact .inr rfl
  · -- the read is accepted, so only the reader is outstanding
    rw [completeWrite, hst]
    simp only [Sys.settle, awaitResponse, List.foldl_cons, List.foldl_nil, Sys.perform, hread,
      if_true]
    split <;> rfl
  · rw [completeWrite, hst]
    simp only [Sys.settle, awaitResponse, List.foldl_cons, List.foldl_nil, Sys.perform, hread,
      if_true]

theorem completeWrite_sending {img : List UInt8} {cb ctxt off done : Nat} {r : Record}
    {post : List Record} {t : Trace Sys.step s₀} (below : Below)
    (h : Sending img cb ctxt t off r post done) :
    Awaiting img cb ctxt (completeWrite below t) off r post done ∧
      framesSent (completeWrite below t).es = framesSent t.es := by
  obtain ⟨ti, st, ws, i, hctx, hti, hst, hwrite, hread, hes⟩ :=
    completeWrite_awaits below h.state h.writePending
  have hframes : framesSent (completeWrite below t).es = framesSent t.es := by
    rw [hes, framesSent_append]
    simp [framesSent, sentFrames]
  refine ⟨⟨⟨?_, h.recordAt, h.done_lt, h.done_long, ?_, ?_, ?_⟩, ?_, hwrite, hread⟩, hframes⟩
  · have hw := h.writing
    rw [hctx]
    exact ⟨hw.type, hw.cmd, hw.user, hw.cb, hw.ctxt, by rw [hti]; exact hw.inTime⟩
  · rw [hctx]
    exact h.outstanding
  · rw [hframes]
    exact h.sent
  · rw [hes, userCalls_append, h.silent]
    rfl
  · rw [hctx]
    exact hst

/-! ## The answered frame -/

theorem fragBit_chunkFrame (r : Record) (done : Nat) :
    fragBit (chunkFrame r done) = decide (252 < r.payload.length - done) :=
  fragBit_wireFrame _ (by simp)

/-- A response goes to the response state with the timer stopped. -/
theorem complete_response (ctx : DlContext) (info : TransactInfo) (env : Env)
    (hst : ctx.tCurrState = .timer ∨ ctx.tCurrState = .response) :
    ∃ c pre ti st, c = { ctx with TimerInfo := ti, tCurrState := st } ∧
      ti.wTimerExpStatus = ctx.TimerInfo.wTimerExpStatus ∧
      (∀ a ∈ pre, a = Action.timerStop) ∧
      Sys.complete .processRWSeqState ctx info env =
        ((rwStateResponse c (some info) env).1, pre ++ (rwStateResponse c (some info) env).2) := by
  rcases hst with hst | hst
  · refine ⟨(stopTimer ctx).1, (stopTimer ctx).2, (stopTimer ctx).1.TimerInfo, .response, rfl, rfl,
      ?_, ?_⟩
    · unfold stopTimer
      split <;> simp
    · simp only [Sys.complete, processRWSeqState, hst]
      rfl
  · refine ⟨ctx, [], ctx.TimerInfo, ctx.tCurrState, rfl, rfl, by simp, ?_⟩
    simp only [Sys.complete, processRWSeqState, hst]
    rfl

/-- A response that has been read goes to the response state. -/
theorem step_readDone {s : Sys} {rsp : List UInt8} (env : Env)
    (hfit : rsp.length ≤ cmdRespMaxBuffSize)
    (hstate : s.ctx.tCurrState = .timer ∨ s.ctx.tCurrState = .response)
    (hpend : s.readPending = some .processRWSeqState) :
    ∃ c pre ti st, c = { Sys.receive s.ctx rsp with TimerInfo := ti, tCurrState := st } ∧
      ti.wTimerExpStatus = s.ctx.TimerInfo.wTimerExpStatus ∧
      (∀ a ∈ pre, a = Action.timerStop) ∧
      let info := Sys.readInfo (Sys.receive s.ctx rsp) NFCSTATUS.success rsp.length
      s.step ⟨.readDone NFCSTATUS.success rsp, env⟩ =
        some (Sys.settle { s with readPending := none } env
          (rwStateResponse c (some info) env).1 (pre ++ (rwStateResponse c (some info) env).2),
          pre ++ (rwStateResponse c (some info) env).2) := by
  obtain ⟨c, pre, ti, st, hc, hti, hpre, hcomplete⟩ :=
    complete_response (Sys.receive s.ctx rsp)
      (Sys.readInfo (Sys.receive s.ctx rsp) NFCSTATUS.success rsp.length) env hstate
  refine ⟨c, pre, ti, st, hc, hti, hpre, ?_⟩
  simp only [Sys.step, if_pos hfit, hpend, Option.map_some]
  rw [hcomplete]

/-- A taken frame with bytes remaining is followed by the next one. -/
theorem rwStateResponse_next {c c' : DlContext} {pInfo : Option TransactInfo} (env : Env)
    (hexp : c.TimerInfo.wTimerExpStatus ≠ NFCSTATUS.rfTimeout)
    (hp : processFrame c pInfo = (NFCSTATUS.success, c')) (hrem : c'.tRWInfo.wRemBytes ≠ 0)
    (hb : (buildFramePkt c').1 = NFCSTATUS.success) :
    rwStateResponse c pInfo env = ({ (buildFramePkt c').2 with tCurrState := .recv },
      [.readAbort, .tmlWrite (frameBytes (buildFramePkt c').2) .processRWSeqState]) := by
  have hbusy : NFCSTATUS.success ≠ NFCSTATUS.busy := by decide
  simp [rwStateResponse, rwResponseStatus, hexp, hp, hbusy, hrem, hb, sendFrame]

/-- The last frame taken ends the sequence with success. -/
theorem rwStateResponse_end {c c' : DlContext} {pInfo : Option TransactInfo} (env : Env)
    (hexp : c.TimerInfo.wTimerExpStatus ≠ NFCSTATUS.rfTimeout)
    (hp : processFrame c pInfo = (NFCSTATUS.success, c')) (hrem : c'.tRWInfo.wRemBytes = 0) :
    rwStateResponse c pInfo env =
      (resetHandler { c' with
          tRWInfo := { c'.tRWInfo with bFramesSegmented := false }, bResendLastFrame := false },
        [.readAbort, .timerDelete] ++ notifyUser c' NFCSTATUS.success) := by
  have hbusy : NFCSTATUS.success ≠ NFCSTATUS.busy := by decide
  simp [rwStateResponse, rwResponseStatus, hexp, hp, hbusy, hrem, notifyUser]

/-- The interpretation of the answer due to the frame that is out. -/
def dueResponse (r : Record) (done : Nat) (ctx : DlContext) : NFCSTATUS × RWInfo × UInt8 :=
  updateRspWrite (ackStatus (decide (252 < r.payload.length - done)) (decide (0 < done)))
    ctx.tRWInfo ctx.tLastStatus

/-- The answer of the NFCC reaches the response state as the due response. -/
theorem answer_awaiting {img : List UInt8} {cb ctxt off done : Nat} {r : Record}
    {post : List Record} {t : Trace Sys.step s₀} (nfcc : Nfcc) (env : Env)
    (h : Awaiting img cb ctxt t off r post done) :
    ∃ c c' info pre, Writing img cb ctxt c ∧ Writing img cb ctxt c' ∧
      c'.tRWInfo = (dueResponse r done t.state.ctx).2.1 ∧
      processFrame c (some info) = ((dueResponse r done t.state.ctx).1, c') ∧
      (∀ a ∈ pre, a = Action.timerStop) ∧
      t.state.step ⟨.readDone NFCSTATUS.success (nfcc.answer (framesSent t.es)), env⟩ =
        some (Sys.settle { t.state with readPending := none } env
          (rwStateResponse c (some info) env).1 (pre ++ (rwStateResponse c (some info) env).2),
          pre ++ (rwStateResponse c (some info) env).2) ∧
      acknowledged t.state (nfcc.answer (framesSent t.es)) =
        (dueResponse r done t.state.ctx).2.1 := by
  obtain ⟨hist, hsent, hfollows⟩ := h.sent
  obtain ⟨rest, hrest, hanswer⟩ := nfcc.conforms hist (chunkFrame r done)
  rw [fragBit_chunkFrame, hfollows] at hanswer
  set st := ackStatus (decide (252 < r.payload.length - done)) (decide (0 < done)) with hst
  set rsp := nfcc.answer (framesSent t.es) with hrsp
  have hrsp' : rsp = wireFrame false (st :: rest) := by rw [hrsp, hsent, hanswer]
  have hlen : rsp.length = rest.length + 5 := by
    rw [hrsp', length_wireFrame]
    rfl
  have hfit : rsp.length ≤ cmdRespMaxBuffSize := by
    rw [hlen]
    simp [cmdRespMaxBuffSize]
    omega
  set ctx := Sys.receive t.state.ctx rsp with hctx
  have hw := h.writing
  have hwctx : Writing img cb ctxt ctx := ⟨hw.type, hw.cmd, hw.user, hw.cb, hw.ctxt, hw.inTime⟩
  have hbuff : ctx.tCmdRspFrameInfo.aFrameBuff.bytes.take (rest.length + 5) =
      wireFrame false (st :: rest) := by
    rw [← hlen, ← hrsp']
    exact Buffer.take_overwrite_zero _ hfit
  obtain ⟨c, pre, ti, cst, hc, hti, hpre, hstep⟩ :=
    step_readDone env hfit h.state h.readPending
  have hwc : Writing img cb ctxt c := by
    rw [hc]
    exact ⟨hw.type, hw.cmd, hw.user, hw.cb, hw.ctxt, by rw [hti]; exact hw.inTime⟩
  have hprocess : ∀ {d : DlContext}, Writing img cb ctxt d → d.tRWInfo = t.state.ctx.tRWInfo →
      d.tLastStatus = t.state.ctx.tLastStatus →
      processFrame d (some (Sys.readInfo ctx NFCSTATUS.success rsp.length)) =
        ((dueResponse r done t.state.ctx).1, { d with
          tRWInfo := (dueResponse r done t.state.ctx).2.1,
          tLastStatus := (dueResponse r done t.state.ctx).2.2 }) := by
    intro d hd hrw hls
    rw [hlen, processFrame_write hd hrest hbuff, hrw, hls]
    rfl
  refine ⟨c, _, _, pre, hwc, ?_, rfl, hprocess hwc (by rw [hc]; rfl) (by rw [hc]; rfl), hpre,
    hstep, ?_⟩
  · exact ⟨hwc.type, hwc.cmd, hwc.user, hwc.cb, hwc.ctxt, hwc.inTime⟩
  · rw [acknowledged, ← hctx, hprocess hwctx rfl rfl]

/-! ## One exchange -/

theorem userCalls_stop {i : Input} {pre acts : List Action}
    (hpre : ∀ a ∈ pre, a = Action.timerStop) :
    userCalls [(i, pre ++ acts)] = userCalls [(i, acts)] := by
  have hnil : pre.filterMap (fun
      | .userCb cb ctxt wStatus _ => some (cb, ctxt, wStatus)
      | _ => none) = ([] : List (Nat × Nat × NFCSTATUS)) := by
    rw [List.filterMap_eq_nil_iff]
    intro a ha
    rw [hpre a ha]
  simp only [userCalls, List.flatMap_cons, List.flatMap_nil, List.append_nil]
  rw [List.filterMap_append, hnil, List.nil_append]

theorem isInert_of_stop {pre : List Action} (hpre : ∀ a ∈ pre, a = Action.timerStop) :
    ∀ a ∈ pre, Action.isInert a := by
  intro a ha
  rw [hpre a ha]
  trivial

/-- The frame after a taken one is out. -/
theorem answer_next {img : List UInt8} {cb ctxt off off' done done' : Nat} {r r' : Record}
    {post post' : List Record} {t : Trace Sys.step s₀} (nfcc : Nfcc) (below : Below)
    (h : Awaiting img cb ctxt t off r post done)
    (hok : (dueResponse r done t.state.ctx).1 = NFCSTATUS.success)
    (hrem : (dueResponse r done t.state.ctx).2.1.wRemBytes ≠ 0)
    (hbuild : ∀ c, Writing img cb ctxt c → c.tRWInfo = (dueResponse r done t.state.ctx).2.1 →
      (buildFramePkt c).1 = NFCSTATUS.success ∧
        frameBytes (buildFramePkt c).2 = chunkFrame r' done' ∧
        Outstanding img.length off' r'.payload.length done' (buildFramePkt c).2.tRWInfo)
    (hat : RecordAt img off' r' (image post')) (hlt : done' < r'.payload.length)
    (hlong : 0 < done' → 252 < r'.payload.length)
    (hfollow : decide (252 < r.payload.length - done) = decide (0 < done')) :
    Sending img cb ctxt (answerFrame nfcc below t) off' r' post' done' ∧
      framesSent (answerFrame nfcc below t).es = framesSent t.es ++ [chunkFrame r' done'] := by
  set env := below.env t.es.length with henv
  obtain ⟨c, c', info, pre, hwc, hwc', hrw, hp, hpre, hstep, -⟩ := answer_awaiting nfcc env h
  rw [hok] at hp
  obtain ⟨hb, hbytes, hout⟩ := hbuild c' hwc' hrw
  rw [rwStateResponse_next env hwc.inTime hp (by rw [hrw]; exact hrem) hb, hbytes] at hstep
  obtain ⟨hes, hst⟩ := Trace.call_of_some hstep
  have hwrite : env.tmlWrite = NFCSTATUS.pending := below.write _
  have hframes : framesSent (answerFrame nfcc below t).es =
      framesSent t.es ++ [chunkFrame r' done'] := by
    rw [answerFrame, hes, framesSent_append]
    simp only [framesSent, List.flatMap_cons, List.flatMap_nil, List.append_nil]
    rw [sentFrames_append, sentFrames_inert (isInert_of_stop hpre)]
    rfl
  have hwb := hwc'.build
  refine ⟨⟨⟨?_, hat, hlt, hlong, ?_, ?_, ?_⟩, ?_, ?_⟩, hframes⟩
  · rw [answerFrame, hst, Sys.settle_ctx]
    exact ⟨hwb.type, hwb.cmd, hwb.user, hwb.cb, hwb.ctxt, hwb.inTime⟩
  · rw [answerFrame, hst, Sys.settle_ctx]
    exact hout
  · refine ⟨framesSent t.es, hframes, ?_⟩
    obtain ⟨hist, hsent, -⟩ := h.sent
    rw [hsent, follows, List.getLast?_concat, Option.map_some, Option.getD_some,
      fragBit_chunkFrame, hfollow]
  · rw [answerFrame, hes, userCalls_append, h.silent, userCalls_stop hpre]
    rfl
  · rw [answerFrame, hst, Sys.settle_ctx]
  · rw [answerFrame, hst, settle_append_inert (isInert_of_stop hpre)]
    simp only [Sys.settle, List.foldl_cons, List.foldl_nil, Sys.perform, hwrite, if_true]

/-- With nothing remaining the write ends. -/
theorem answer_end {img : List UInt8} {cb ctxt off done : Nat} {r : Record} {post : List Record}
    {t : Trace Sys.step s₀} (nfcc : Nfcc) (below : Below)
    (h : Awaiting img cb ctxt t off r post done)
    (hok : (dueResponse r done t.state.ctx).1 = NFCSTATUS.success)
    (hrem : (dueResponse r done t.state.ctx).2.1.wRemBytes = 0) :
    Finished cb ctxt (answerFrame nfcc below t) ∧
      framesSent (answerFrame nfcc below t).es = framesSent t.es := by
  set env := below.env t.es.length with henv
  obtain ⟨c, c', info, pre, hwc, hwc', hrw, hp, hpre, hstep, -⟩ := answer_awaiting nfcc env h
  rw [hok] at hp
  have hend := rwStateResponse_end env hwc.inTime hp (by rw [hrw]; exact hrem)
  have hfin : Finishes (rwStateResponse c (some info) env) :=
    ⟨_, NFCSTATUS.success, [], by simp, hend⟩
  obtain ⟨hsettle, hrest, hno⟩ := hfin.settles (s := { t.state with readPending := none })
    env h.writePending
  rw [settle_append_inert (isInert_of_stop hpre), hsettle] at hstep
  obtain ⟨hes, hst⟩ := Trace.call_of_some hstep
  refine ⟨⟨?_, ?_, ?_⟩, ?_⟩
  · rw [answerFrame, hst]
    exact ⟨rfl, hrest⟩
  · rw [answerFrame, hst, hend]
    show c'.tRWInfo.wRemBytes = 0
    rw [hrw]
    exact hrem
  · rw [answerFrame, hes, userCalls_append, h.silent, userCalls_stop hpre, hend]
    simp [userCalls, notifyUser, hwc'.cb, hwc'.ctxt]
  · rw [answerFrame, hes, framesSent_append]
    simp only [framesSent, List.flatMap_cons, List.flatMap_nil, List.append_nil]
    rw [sentFrames_append, sentFrames_inert (isInert_of_stop hpre), hno]
    simp

/-- A fragment taken is followed by the next chunk of its record. -/
theorem exchange_fragment {img : List UInt8} {cb ctxt off done : Nat} {r : Record}
    {post : List Record} {t : Trace Sys.step s₀} (nfcc : Nfcc) (below : Below)
    (h : Sending img cb ctxt t off r post done) (hfrag : 252 < r.payload.length - done) :
    Sending img cb ctxt (exchange nfcc below t) off r post (done + 252) ∧
      framesSent (exchange nfcc below t).es = framesSent t.es ++ [chunkFrame r (done + 252)] := by
  obtain ⟨ha, hframes⟩ := completeWrite_sending below h
  have hend := ha.recordAt.end_le
  obtain ⟨hok, hready, hwr⟩ := acknowledge_fragment
    (completeWrite below t).state.ctx.tLastStatus ha.outstanding hfrag (by omega)
    ha.recordAt.length_lt
  have hdue : dueResponse r done (completeWrite below t).state.ctx =
      updateRspWrite (ackStatus true (decide (0 < done)))
        (completeWrite below t).state.ctx.tRWInfo
        (completeWrite below t).state.ctx.tLastStatus := by
    rw [dueResponse, decide_eq_true hfrag]
  rw [← hdue] at hok hready hwr
  rw [← hframes]
  refine answer_next nfcc below ha hok ?_ ?_ ha.recordAt (by omega) (fun _ => by omega) ?_
  · rw [hready.rem]
    omega
  · intro c hc hrw
    rw [← hrw] at hready hwr
    exact build_in hc ha.recordAt hready hwr (by omega) (by omega) (by omega)
  · rw [decide_eq_true hfrag, decide_eq_true (by omega)]

/-- The bookkeeping once the last frame of a record has been taken. -/
theorem dueResponse_last {img : List UInt8} {cb ctxt off done : Nat} {r : Record}
    {post : List Record} {t : Trace Sys.step s₀} (h : Progress img cb ctxt t off r post done)
    (hlast : ¬252 < r.payload.length - done) :
    (dueResponse r done t.state.ctx).1 = NFCSTATUS.success ∧
      ReadyAt img.length (off + 2 + r.payload.length) (dueResponse r done t.state.ctx).2.1 ∧
      (dueResponse r done t.state.ctx).2.1.bFirstWrReq = false := by
  have hend := h.recordAt.end_le
  have hdue : dueResponse r done t.state.ctx =
      updateRspWrite PhDlStatus.ok t.state.ctx.tRWInfo t.state.ctx.tLastStatus := by
    rw [dueResponse, decide_eq_false hlast]
    rfl
  rw [hdue]
  exact acknowledge_last t.state.ctx.tLastStatus h.outstanding hlast h.done_lt h.done_long
    (by omega) h.recordAt.length_lt

/-- The next record starts where the one before ended. -/
theorem RecordAt.next {img : List UInt8} {off : Nat} {r r' : Record} {post : List Record}
    (h : RecordAt img off r (image (r' :: post))) :
    RecordAt img (off + 2 + r.payload.length) r' (image post) where
  drop := by
    rw [Nat.add_assoc, ← List.drop_drop, h.drop, Nat.add_comm 2, ← r.length_bytes, List.drop_left]
    rfl
  le := by
    have := h.end_le
    omega
  length_lt := h.length_lt

/-- A record taken is followed by the next one. -/
theorem exchange_record {img : List UInt8} {cb ctxt off done : Nat} {r r' : Record}
    {post : List Record} {t : Trace Sys.step s₀} (nfcc : Nfcc) (below : Below)
    (h : Sending img cb ctxt t off r (r' :: post) done)
    (hlast : ¬252 < r.payload.length - done) :
    Sending img cb ctxt (exchange nfcc below t) (off + 2 + r.payload.length) r' post 0 ∧
      framesSent (exchange nfcc below t).es = framesSent t.es ++ [chunkFrame r' 0] := by
  obtain ⟨ha, hframes⟩ := completeWrite_sending below h
  obtain ⟨hok, hready, hwr⟩ := dueResponse_last ha.toProgress hlast
  have hend := ha.recordAt.end_le
  have hend' := ha.recordAt.next.end_le
  rw [← hframes]
  refine answer_next nfcc below ha hok ?_ ?_ ha.recordAt.next r'.length_pos
    (fun h0 => absurd h0 (lt_irrefl 0)) ?_
  · rw [hready.rem]
    omega
  · intro c hc hrw
    apply build_at hc ha.recordAt.next
    have hne : img ≠ [] := by
      rintro rfl
      simp at hend
    rw [verifyFrameInputs_write hc hne, hrw, hwr, if_neg (by simp), hrw]
    exact hready
  · rw [decide_eq_false hlast]
    rfl

/-- The last record taken ends the write. -/
theorem exchange_end {img : List UInt8} {cb ctxt off done : Nat} {r : Record}
    {t : Trace Sys.step s₀} (nfcc : Nfcc) (below : Below)
    (h : Sending img cb ctxt t off r [] done) (hlast : ¬252 < r.payload.length - done) :
    Finished cb ctxt (exchange nfcc below t) ∧
      framesSent (exchange nfcc below t).es = framesSent t.es := by
  obtain ⟨ha, hframes⟩ := completeWrite_sending below h
  obtain ⟨hok, hready, -⟩ := dueResponse_last ha.toProgress hlast
  have hend := ha.recordAt.end_le
  rw [← hframes]
  apply answer_end nfcc below ha hok
  rw [hready.rem]
  simp only [image, List.flatMap_nil, List.length_nil] at hend
  omega

/-- A finished write does not go on. -/
theorem exchange_finished {cb ctxt : Nat} {t : Trace Sys.step s₀} (nfcc : Nfcc) (below : Below)
    (h : Finished cb ctxt t) : exchange nfcc below t = t := by
  have hwrite : t.state.writePending = none := by rw [h.atRest.1]; rfl
  have hread : t.state.readPending = none := by rw [h.atRest.1]; rfl
  have hdone : completeWrite below t = t :=
    Trace.call_of_none (by simp only [Sys.step, hwrite, Option.map_none])
  rw [exchange, hdone, answerFrame]
  apply Trace.call_of_none
  simp only [Sys.step, hread, Option.map_none, ite_self]

/-! ## The request -/

/-- `phDnldNfc_Write` on a component at rest. -/
def startWrite (below : Below) (bRecoverSeq : Bool) (pData : Option Buff) (libs : FwLibs)
    (cb ctxt : Nat) (ctx : DlContext) : Trace Sys.step (Sys.rest ctx) :=
  (Trace.start Sys.step (Sys.rest ctx)).call
    ⟨.request (.write bRecoverSeq pData) (some cb) (some ctxt) libs, below.env 0⟩

/-- The context `phDnldNfc_Write` hands on, with the image set and the bookkeeping reset. -/
def submitted (img : List UInt8) (cb ctxt : Nat) (ctx : DlContext) : DlContext :=
  { ctx.setCommand .ftWrite .write ⟨none, 0⟩ ⟨some img, img.length⟩ cb ctxt with
    bResendLastFrame := false, tRWInfo := { RWInfo.zero with bFirstWrReq := true } }

/-- A write request with an image passes its checks. -/
theorem prepare_write {bRecoverSeq : Bool} {pData : Option Buff} {libs : FwLibs} (cb ctxt : Nat)
    {ctx ctx' : DlContext} {img : List UInt8}
    (himg : imageToWrite bRecoverSeq pData libs ctx = (some img, img.length, ctx'))
    (hne : img ≠ []) :
    (Request.write bRecoverSeq pData).prepare libs cb ctxt ctx =
      .submit (submitted img cb ctxt ctx') := by
  have hlen0 : img.length ≠ 0 := fun h0 => hne (List.eq_nil_of_length_eq_zero h0)
  simp only [Request.prepare, prepareWrite, himg, submitted]
  rw [if_pos ⟨by simp, hlen0⟩]

/-- The first frame is built at offset zero with the whole image remaining. -/
theorem verifyFrameInputs_submitted {img : List UInt8} {cb ctxt : Nat} (ctx : DlContext)
    (hne : img ≠ []) :
    (verifyFrameInputs (submitted img cb ctxt ctx)).2.tRWInfo =
      { RWInfo.zero with bFirstWrReq := true, wRemBytes := img.length } := by
  have hlen : img.length ≠ 0 := fun h0 => hne (List.eq_nil_of_length_eq_zero h0)
  simp [verifyFrameInputs, submitted, DlContext.setCommand, hlen, RWInfo.zero]

/-- Choosing the image keeps the handler at rest. -/
theorem imageToWrite_atRest (bRecoverSeq : Bool) (pData : Option Buff) (libs : FwLibs)
    {ctx : DlContext} (h : ctx.AtRest) : (imageToWrite bRecoverSeq pData libs ctx).2.2.AtRest := by
  rcases imageToWrite_ctx bRecoverSeq pData libs ctx with heq | ⟨fwp, n, heq⟩
  · rw [heq]
    exact h
  · rw [heq]
    exact ⟨rfl, rfl, rfl, rfl⟩

/-- The first frame is sent whether or not a timer could be created. -/
theorem rwStateInit_send (ctx : DlContext) (env : Env) (hresend : ctx.bResendLastFrame = false) :
    ∃ ti : RspTimerInfo, (ti = ctx.TimerInfo ∨ ti.wTimerExpStatus = NFCSTATUS.success) ∧
      let c := { ctx with TimerInfo := ti, tCurrState := .send }
      ((buildFramePkt c).1 = NFCSTATUS.success →
        rwStateInit ctx env =
          ({ (buildFramePkt c).2 with tCurrState := .recv, wCmdSendStatus := env.tmlWrite },
            [.tmlWrite (frameBytes (buildFramePkt c).2) .processRWSeqState])) := by
  have hsend : ∀ (wStatus : NFCSTATUS) (c : DlContext), c.bResendLastFrame = false →
      (buildFramePkt c).1 = NFCSTATUS.success →
      rwStateSend wStatus c env =
        ({ (buildFramePkt c).2 with tCurrState := .recv, wCmdSendStatus := env.tmlWrite },
          [.tmlWrite (frameBytes (buildFramePkt c).2) .processRWSeqState]) := by
    intro wStatus c hc hb
    simp only [rwStateSend, hc, if_true, hb, sendFrame]
  unfold rwStateInit
  split
  · split
    · exact ⟨ctx.TimerInfo, .inl rfl, fun hb => hsend _ _ hresend hb⟩
    · exact ⟨⟨env.timerCreate, 0, NFCSTATUS.success⟩, .inr rfl, fun hb => hsend _ _ hresend hb⟩
  · exact ⟨ctx.TimerInfo, .inl rfl, fun hb => hsend _ _ hresend hb⟩

/-- The request sends the first frame of the first record. -/
theorem startWrite_sending {bRecoverSeq : Bool} {pData : Option Buff} {libs : FwLibs}
    {ctx ctx' : DlContext} {r : Record} {post : List Record} (below : Below) (cb ctxt : Nat)
    (hrest : ctx.AtRest) (hlen : (image (r :: post)).length < 65536)
    (himg : imageToWrite bRecoverSeq pData libs ctx =
      (some (image (r :: post)), (image (r :: post)).length, ctx')) :
    let t := startWrite below bRecoverSeq pData libs cb ctxt ctx
    Sending (image (r :: post)) cb ctxt t 0 r post 0 ∧ framesSent t.es = [chunkFrame r 0] := by
  set img := image (r :: post) with himgdef
  have hat : RecordAt img 0 r (image post) := ⟨rfl, Nat.zero_le _, hlen⟩
  have hne : img ≠ [] := image_cons_ne_nil r post
  have hrest' : ctx'.AtRest := by
    have h := imageToWrite_atRest bRecoverSeq pData libs hrest
    rw [himg] at h
    exact h
  set env := below.env 0 with henv
  -- the request's own checks pass and the handler takes it
  have hprepare := prepare_write cb ctxt himg hne
  set c₀ : DlContext :=
    { submitted img cb ctxt ctx' with
      tCurrEvent := .write, tDnldInProgress := .busy, tCurrState := .init } with hc₀
  have hissue : issue (.write bRecoverSeq pData) (some cb) (some ctxt) libs ctx env =
      ((rwStateInit c₀ env).1.wCmdSendStatus, rwStateInit c₀ env) := by
    have hbusy : ctx.tDnldInProgress = .idle := hrest.inProgress
    have hevent : (submitted img cb ctxt ctx').tCurrEvent = .invalid := hrest'.event
    have hstate : (submitted img cb ctxt ctx').tCurrState = .init := hrest'.state
    simp only [issue, Request.argsPresent, hbusy, hprepare, cmdHandler, Request.event,
      Event.handler, hevent, if_true, processRWSeqState, hstate, ne_eq, not_true_eq_false,
      if_false, Bool.true_eq_false, hc₀]
  obtain ⟨ti, hti, hinit⟩ := rwStateInit_send c₀ env rfl
  set c : DlContext := { c₀ with TimerInfo := ti, tCurrState := .send } with hc
  have hw : Writing img cb ctxt c := by
    refine ⟨rfl, rfl, rfl, rfl, rfl, ?_⟩
    have hexp : ti.wTimerExpStatus = NFCSTATUS.success := by
      rcases hti with rfl | hti
      · exact congrArg RspTimerInfo.wTimerExpStatus hrest'.timer
      · exact hti
    show ti.wTimerExpStatus ≠ _
    rw [hexp]
    decide
  have hready : ReadyAt img.length 0 (verifyFrameInputs c).2.tRWInfo := by
    rw [verifyFrameInputs_write hw hne]
    exact ⟨rfl, rfl, rfl, rfl⟩
  obtain ⟨hb, hbytes, hout⟩ := build_at hw hat hready
  have hwb := hw.build
  rw [hinit hb, hbytes] at hissue
  have hstep : (Trace.start Sys.step (Sys.rest ctx)).state.step
      ⟨.request (.write bRecoverSeq pData) (some cb) (some ctxt) libs, env⟩ =
      some (Sys.settle (Sys.rest ctx) env
        { (buildFramePkt c).2 with tCurrState := .recv, wCmdSendStatus := env.tmlWrite }
        [.tmlWrite (chunkFrame r 0) .processRWSeqState],
        [.tmlWrite (chunkFrame r 0) .processRWSeqState]) := by
    have hstart : (Trace.start Sys.step (Sys.rest ctx)).state = Sys.rest ctx := rfl
    have hctx : (Sys.rest ctx).ctx = ctx := rfl
    simp only [hstart, Sys.step, hctx, hissue]
  obtain ⟨hes, hst⟩ := Trace.call_of_some hstep
  have hwrite : env.tmlWrite = NFCSTATUS.pending := below.write _
  have hframes : framesSent (startWrite below bRecoverSeq pData libs cb ctxt ctx).es =
      [chunkFrame r 0] := by
    rw [startWrite, hes]
    rfl
  refine ⟨⟨⟨?_, hat, r.length_pos, fun h0 => absurd h0 (lt_irrefl 0), ?_, ?_, ?_⟩, ?_, ?_⟩,
    hframes⟩
  · rw [startWrite, hst, Sys.settle_ctx]
    exact ⟨hwb.type, hwb.cmd, hwb.user, hwb.cb, hwb.ctxt, hwb.inTime⟩
  · rw [startWrite, hst, Sys.settle_ctx]
    exact hout
  · exact ⟨[], hframes, rfl⟩
  · rw [startWrite, hes]
    rfl
  · rw [startWrite, hst, Sys.settle_ctx]
  · rw [startWrite, hst]
    simp only [Sys.settle, List.foldl_cons, List.foldl_nil, Sys.perform, hwrite, if_true]

/-! ## The loop -/

/-- The frames still to be sent once the chunk from `done` on is out. -/
def framesLeft (r : Record) (post : List Record) (done : Nat) : List (List UInt8) :=
  (chunkFrames (r.payload.drop done)).tail ++ post.flatMap fun r => chunkFrames r.payload

theorem chunkFrames_drop (r : Record) (done : Nat) :
    chunkFrames (r.payload.drop done) = chunkFrame r done ::
      if 252 < r.payload.length - done then chunkFrames (r.payload.drop (done + 252)) else [] := by
  rw [chunkFrames, List.length_drop, chunkFrame]
  split
  · rename_i hlong
    rw [decide_eq_true hlong, List.drop_drop]
  · rename_i hshort
    rw [decide_eq_false hshort, List.take_of_length_le (by simp; omega)]

theorem chunkFrames_cons (r : Record) :
    chunkFrames r.payload = chunkFrame r 0 :: (chunkFrames (r.payload.drop 0)).tail := by
  have h := chunkFrames_drop r 0
  rw [h, List.tail_cons, ← h, List.drop_zero]

theorem framesLeft_fragment {r : Record} {post : List Record} {done : Nat}
    (hfrag : 252 < r.payload.length - done) :
    framesLeft r post done = chunkFrame r (done + 252) :: framesLeft r post (done + 252) := by
  rw [framesLeft, framesLeft, chunkFrames_drop r done, List.tail_cons, if_pos hfrag,
    chunkFrames_drop r (done + 252), List.tail_cons, List.cons_append]

theorem framesLeft_record {r r' : Record} {post : List Record} {done : Nat}
    (hlast : ¬252 < r.payload.length - done) :
    framesLeft r (r' :: post) done = chunkFrame r' 0 :: framesLeft r' post 0 := by
  rw [framesLeft, framesLeft, chunkFrames_drop r done, List.tail_cons, if_neg hlast,
    List.nil_append, List.flatMap_cons, chunkFrames_cons r']
  rfl

theorem framesLeft_end {r : Record} {done : Nat} (hlast : ¬252 < r.payload.length - done) :
    framesLeft r [] done = [] := by
  rw [framesLeft, chunkFrames_drop r done, List.tail_cons, if_neg hlast]
  rfl

/-- One exchange per frame left and one for the frame that is out lead to the end. -/
theorem exchange_iterate {img : List UInt8} {cb ctxt : Nat} (nfcc : Nfcc) (below : Below) (n : Nat) :
    ∀ {off done : Nat} {r : Record} {post : List Record} {t : Trace Sys.step s₀},
      Sending img cb ctxt t off r post done → (framesLeft r post done).length = n →
      (∀ k ≤ n, ∃ off' r' post' done',
        Sending img cb ctxt ((exchange nfcc below)^[k] t) off' r' post' done') ∧
      Finished cb ctxt ((exchange nfcc below)^[n + 1] t) ∧
      framesSent ((exchange nfcc below)^[n + 1] t).es =
        framesSent t.es ++ framesLeft r post done := by
  induction n with
  | zero =>
    intro off done r post t h hn
    have hleft : framesLeft r post done = [] := List.eq_nil_of_length_eq_zero hn
    have hlast : ¬252 < r.payload.length - done := by
      intro hfrag
      rw [framesLeft_fragment hfrag] at hleft
      cases hleft
    cases post with
    | cons r' post =>
      rw [framesLeft_record hlast] at hleft
      cases hleft
    | nil =>
      obtain ⟨hfin, hframes⟩ := exchange_end nfcc below h hlast
      refine ⟨?_, hfin, ?_⟩
      · intro k hk
        obtain rfl : k = 0 := by omega
        exact ⟨off, r, [], done, h⟩
      · rw [hleft, List.append_nil]
        exact hframes
  | succ n ih =>
    intro off done r post t h hn
    -- the exchange leads to the next frame, with one frame less to come
    have hnext : ∃ off' r' post' done' f, Sending img cb ctxt (exchange nfcc below t) off' r' post' done' ∧
        framesSent (exchange nfcc below t).es = framesSent t.es ++ [f] ∧
        framesLeft r post done = f :: framesLeft r' post' done' := by
      by_cases hfrag : 252 < r.payload.length - done
      · obtain ⟨hs, hframes⟩ := exchange_fragment nfcc below h hfrag
        exact ⟨_, _, _, _, _, hs, hframes, framesLeft_fragment hfrag⟩
      · cases post with
        | nil =>
          rw [framesLeft_end hfrag] at hn
          cases hn
        | cons r' post =>
          obtain ⟨hs, hframes⟩ := exchange_record nfcc below h hfrag
          exact ⟨_, _, _, _, _, hs, hframes, framesLeft_record hfrag⟩
    obtain ⟨off', r', post', done', f, hs, hframes, hleft⟩ := hnext
    have hn' : (framesLeft r' post' done').length = n := by
      rw [hleft] at hn
      exact Nat.succ.inj hn
    obtain ⟨hsend, hfin, hall⟩ := ih hs hn'
    refine ⟨?_, hfin, ?_⟩
    · intro k hk
      cases k with
      | zero => exact ⟨off, r, post, done, h⟩
      | succ k => exact hsend k (by omega)
    · rw [Function.iterate_succ_apply, hall, hframes, hleft, List.append_assoc]
      rfl

/-- Once the write is over, further exchanges change nothing. -/
theorem exchange_iterate_finished {cb ctxt : Nat} {t : Trace Sys.step s₀} (nfcc : Nfcc)
    (below : Below) (h : Finished cb ctxt t) (k : Nat) : (exchange nfcc below)^[k] t = t :=
  Function.iterate_fixed (exchange_finished nfcc below h) k

/-- Offset and bytes remaining add up to the image once a record has been taken. -/
theorem acknowledged_boundary {img : List UInt8} {cb ctxt off done : Nat} {r : Record}
    {post : List Record} {t : Trace Sys.step s₀} (nfcc : Nfcc)
    (h : Awaiting img cb ctxt t off r post done)
    (hfrag : ∀ f, (framesSent t.es).getLast? = some f → fragBit f = false) :
    (acknowledged t.state (nfcc.answer (framesSent t.es))).wOffset +
      (acknowledged t.state (nfcc.answer (framesSent t.es))).wRemBytes = img.length := by
  obtain ⟨hist, hsent, -⟩ := h.sent
  have hlast : ¬252 < r.payload.length - done := by
    have hbit := hfrag (chunkFrame r done) (by rw [hsent, List.getLast?_concat])
    rw [fragBit_chunkFrame] at hbit
    exact of_decide_eq_false hbit
  obtain ⟨-, hready, -⟩ := dueResponse_last h.toProgress hlast
  obtain ⟨-, -, -, -, -, -, -, -, -, -, hack⟩ := answer_awaiting nfcc Env.accepting h
  have hend := h.recordAt.end_le
  rw [hack, hready.offset, hready.rem]
  omega

/-- Writing an image to an NFCC that takes every frame ends, with one report of success and
nothing remaining, and the frames sent carry the records one after the other. Offset and bytes
remaining add up to the image when the write starts and after every record. -/
theorem write_lossless (ctx : DlContext) (hrest : ctx.AtRest) (recs : List Record)
    (hne : recs ≠ []) (hlen : (image recs).length < 65536) (bRecoverSeq : Bool)
    (pData : Option Buff) (libs : FwLibs) (ctx' : DlContext)
    (himg : imageToWrite bRecoverSeq pData libs ctx =
      (some (image recs), (image recs).length, ctx'))
    (cb ctxt : Nat) (nfcc : Nfcc) (below : Below) :
    let run := fun k => (exchange nfcc below)^[k] (startWrite below bRecoverSeq pData libs cb ctxt ctx)
    ∃ n, (∃ fs, framesSent (run n).es = fs.flatten ∧ List.Forall₂ Carries recs fs) ∧
      (run n).state.ctx.tRWInfo.wRemBytes = 0 ∧
      userCalls (run n).es = [(cb, ctxt, NFCSTATUS.success)] ∧
      (run n).state = Sys.rest (run n).state.ctx ∧ (run n).state.ctx.AtRest ∧
      (∀ m ≥ n, run m = run n) ∧
      (∃ c, (Request.write bRecoverSeq pData).prepare libs cb ctxt ctx = .submit c ∧
        (verifyFrameInputs c).2.tRWInfo.wOffset + (verifyFrameInputs c).2.tRWInfo.wRemBytes =
          (image recs).length) ∧
      ∀ k < n, let t := completeWrite below (run k)
        (∀ f, (framesSent t.es).getLast? = some f → fragBit f = false) →
          (acknowledged t.state (nfcc.answer (framesSent t.es))).wOffset +
            (acknowledged t.state (nfcc.answer (framesSent t.es))).wRemBytes =
              (image recs).length := by
  obtain ⟨r, post, rfl⟩ := List.exists_cons_of_ne_nil hne
  obtain ⟨hs, hfirst⟩ := startWrite_sending below cb ctxt hrest hlen himg
  obtain ⟨hsend, hfin, hframes⟩ := exchange_iterate nfcc below _ hs rfl
  refine ⟨_, ⟨(r :: post).map fun r => chunkFrames r.payload, ?_, ?_⟩, hfin.rem, hfin.told,
    hfin.atRest.1, hfin.atRest.2, ?_, ?_, ?_⟩
  · rw [hframes, hfirst, ← List.flatMap_def, List.flatMap_cons, chunkFrames_cons r]
    rfl
  · rw [List.forall₂_map_right_iff]
    exact List.forall₂_same.2 fun r _ => carries_chunkFrames r
  · intro m hm
    obtain ⟨j, rfl⟩ := Nat.exists_eq_add_of_le hm
    show (exchange nfcc below)^[_] _ = _
    rw [Nat.add_comm, Function.iterate_add_apply]
    exact exchange_iterate_finished nfcc below hfin j
  · refine ⟨_, prepare_write cb ctxt himg (image_cons_ne_nil r post), ?_⟩
    rw [verifyFrameInputs_submitted ctx' (image_cons_ne_nil r post)]
    exact Nat.zero_add _
  · intro k hk t hfrag
    obtain ⟨off', r', post', done', hk'⟩ := hsend k (by omega)
    exact acknowledged_boundary nfcc (completeWrite_sending below hk').1 hfrag

/-- An NFCC that answers with the due status and nothing else. -/
def plainNfcc : Nfcc where
  answer hist := wireFrame false
    [ackStatus ((hist.getLast?.map fragBit).getD false) (follows hist.dropLast)]
  conforms hist f := ⟨[], by simp, by simp⟩

/-- The smallest record that is sent in two frames. -/
def longRecord : Record where
  payload := List.replicate 253 0xA5
  nonempty := List.ne_nil_of_length_pos (by rw [List.length_replicate]; decide)
  length_lt := by rw [List.length_replicate]; decide

theorem length_longRecord : longRecord.payload.length = 253 := List.length_replicate

theorem write_lossless_longRecord :
    let img := image [longRecord]
    let ctx := { DlContext.zero with nxp_nfc_fw := some img, nxp_nfc_fw_len := img.length }
    let below : Below := ⟨fun _ => Env.accepting, fun _ => rfl, fun _ => rfl⟩
    let t₀ := startWrite below false none FwLibs.absent 1 1 ctx
    ∃ n, (∃ fs, framesSent ((exchange plainNfcc below)^[n] t₀).es = fs.flatten ∧
        List.Forall₂ Carries [longRecord] fs) ∧
      ((exchange plainNfcc below)^[n] t₀).state.ctx.tRWInfo.wRemBytes = 0 ∧
      userCalls ((exchange plainNfcc below)^[n] t₀).es = [(1, 1, NFCSTATUS.success)] := by
  intro img ctx below t₀
  have hlen : img.length < 65536 := by simp [img, length_longRecord, image]
  obtain ⟨n, hframes, hrem, htold, -⟩ := write_lossless ctx ⟨rfl, rfl, rfl, rfl⟩ [longRecord]
    (List.cons_ne_nil _ _) hlen false none FwLibs.absent ctx rfl 1 1 plainNfcc below
  exact ⟨n, hframes, hrem, htold⟩

end AliceHal.Pn54x.PhDnldNfc
