import AliceHal.Pn54x.PhDnldNfc.Framing
import AliceHal.Pn54x.PhDnldNfc.ReadFrames
import AliceHal.Pn54x.PhDnldNfc.WriteRun

/-!
# A Whole Segmented Read

The component in a loop with an NFCC that answers every request with the bytes asked for. The call
of the handler sends the first request; each answer stores its chunk and sends the next one, until
the caller's buffer holds the whole range.

- `ReadNfcc`: an NFCC whose memory can be read
- `history`: everything the component has done since the call of the handler
- `exchangeRead`: one request completed and answered
- `Requesting`, `ReadDone`: the loop while a request is out, and at its end
- `exchangeRead_chunk`, `exchangeRead_last`: one exchange
- `read_reassembles`: the whole loop
-/

namespace AliceHal.Pn54x.PhDnldNfc

open Lib

/-! ## The parties -/

/-- An NFCC that answers a request with the bytes at the address asked for, whatever was asked
before. -/
structure ReadNfcc (memory : Memory) where
  answer : List (List UInt8) → List UInt8
  conforms : ∀ hist addr len, 0 < len → len ≤ readChunkMax → addr + len ≤ 2 ^ 32 → ∃ reserved,
    answer (hist ++ [readFrame addr len]) = readResponse reserved (memoryAt memory addr len)

/-- What the layers below answer from the second call on. -/
def Below.later (below : Below) : Below :=
  ⟨fun n => below.env (n + 1), fun n => below.write (n + 1), fun n => below.read (n + 1)⟩

/-- The reports to the user. -/
def reports (acts : List Action) : List (Nat × Nat × NFCSTATUS) :=
  acts.filterMap fun
    | .userCb cb ctxt wStatus _ => some (cb, ctxt, wStatus)
    | _ => none

theorem reports_append (acts acts' : List Action) :
    reports (acts ++ acts') = reports acts ++ reports acts' :=
  List.filterMap_append

theorem reports_stop {pre : List Action} (hpre : ∀ a ∈ pre, a = Action.timerStop) :
    reports pre = [] := by
  rw [reports, List.filterMap_eq_nil_iff]
  intro a ha
  rw [hpre a ha]

variable {s₀ : Sys}

/-- Everything the component has done: `acts` in the call of the handler, the rest since. -/
def history (acts : List Action) (t : Trace Sys.step s₀) : List Action :=
  acts ++ t.es.flatMap Prod.snd

/-- A call from below adds what it does to the history. -/
theorem history_of_es (acts : List Action) {acts' : List Action} {t t' : Trace Sys.step s₀} {i : Input}
    (h : t'.es = t.es ++ [(i, acts')]) : history acts t' = history acts t ++ acts' := by
  simp [history, h]

/-- The NFCC answers the requests received so far. -/
def answerRead {memory : Memory} (nfcc : ReadNfcc memory) (below : Below) (acts : List Action)
    (t : Trace Sys.step s₀) : Trace Sys.step s₀ :=
  t.call ⟨.readDone NFCSTATUS.success (nfcc.answer (sentFrames (history acts t))),
    below.env t.es.length⟩

/-- One request completed and answered. -/
def exchangeRead {memory : Memory} (nfcc : ReadNfcc memory) (below : Below) (acts : List Action)
    (t : Trace Sys.step s₀) : Trace Sys.step s₀ :=
  answerRead nfcc below acts (completeWrite below t)

/-! ## The loop between two exchanges -/

/-- The bytes of the chunk that starts `done` bytes into the range. -/
def chunkLen (wLen done : ℕ) : ℕ := min readChunkMax (wLen - done)

/-- Where the read stands: `done` bytes have been stored and the chunk behind them is out. -/
structure ReadProgress (memory : Memory) (addr wLen cb ctxt : ℕ) (buf : List UInt8)
    (acts : List Action) (t : Trace Sys.step s₀) (done : ℕ) : Prop where
  reading : Reading addr cb ctxt t.state.ctx
  asked : Asked addr wLen done t.state.ctx.tRWInfo
  lt : done < wLen
  buffer : t.state.ctx.tRspBuffInfo.pBuff = some (partlyRead memory addr done buf)
  sent : ∃ hist, sentFrames (history acts t) =
    hist ++ [readFrame (addr + done) (chunkLen wLen done)]
  silent : reports (history acts t) = []

/-- The write of the request is pending. -/
structure Requesting (memory : Memory) (addr wLen cb ctxt : ℕ) (buf : List UInt8)
    (acts : List Action) (t : Trace Sys.step s₀) (done : ℕ) : Prop
    extends ReadProgress memory addr wLen cb ctxt buf acts t done where
  state : t.state.ctx.tCurrState = .recv
  writePending : t.state.writePending = some .processRWSeqState

/-- The read of the answer is pending. -/
structure AwaitingData (memory : Memory) (addr wLen cb ctxt : ℕ) (buf : List UInt8)
    (acts : List Action) (t : Trace Sys.step s₀) (done : ℕ) : Prop
    extends ReadProgress memory addr wLen cb ctxt buf acts t done where
  state : t.state.ctx.tCurrState = .timer ∨ t.state.ctx.tCurrState = .response
  writePending : t.state.writePending = none
  readPending : t.state.readPending = some .processRWSeqState

/-- The read is over: the buffer holds the range and the user has been told once. -/
structure ReadDone (memory : Memory) (addr wLen cb ctxt : ℕ) (buf : List UInt8)
    (acts : List Action) (t : Trace Sys.step s₀) : Prop where
  atRest : t.state = Sys.rest t.state.ctx ∧ t.state.ctx.AtRest
  buffer : t.state.ctx.tRspBuffInfo.pBuff = some (partlyRead memory addr wLen buf)
  read : t.state.ctx.tRWInfo.wBytesRead = wLen
  told : reports (history acts t) = [(cb, ctxt, NFCSTATUS.success)]

section Loop

variable {memory : Memory} {addr wLen cb ctxt done : ℕ} {buf : List UInt8} {acts : List Action}
  {t : Trace Sys.step s₀}

/-! ## The completed write -/

theorem completeWrite_requesting (below : Below)
    (h : Requesting memory addr wLen cb ctxt buf acts t done) :
    AwaitingData memory addr wLen cb ctxt buf acts (completeWrite below t) done ∧
      sentFrames (history acts (completeWrite below t)) = sentFrames (history acts t) := by
  obtain ⟨ti, st, ws, i, hctx, hti, hst, hwrite, hread, hes⟩ :=
    completeWrite_awaits below h.state h.writePending
  have hhist := history_of_es acts hes
  have hframes : sentFrames (history acts (completeWrite below t)) =
      sentFrames (history acts t) := by
    rw [hhist, sentFrames_append]
    simp [sentFrames]
  refine ⟨⟨⟨?_, ?_, h.lt, ?_, ?_, ?_⟩, ?_, hwrite, hread⟩, hframes⟩
  · have hr := h.reading
    rw [hctx]
    exact ⟨hr.input, hr.cmd, hr.cb, hr.ctxt, by rw [hti]; exact hr.inTime⟩
  · rw [hctx]
    exact h.asked
  · rw [hctx]
    exact h.buffer
  · rw [hframes]
    exact h.sent
  · rw [hhist, reports_append, h.silent]
    rfl
  · rw [hctx]
    exact hst

/-! ## The answered request -/

/-- The bytes of the chunk that is out. -/
theorem ReadProgress.sent_len (h : ReadProgress memory addr wLen cb ctxt buf acts t done) :
    t.state.ctx.tRWInfo.wBytesToSendRecv = chunkLen wLen done := h.asked.sent

theorem chunkLen_le (wLen done : ℕ) : chunkLen wLen done ≤ 248 := Nat.min_le_left _ _

theorem chunkLen_le_rest (wLen done : ℕ) : chunkLen wLen done ≤ wLen - done := Nat.min_le_right _ _

theorem chunkLen_pos (hlt : done < wLen) : 0 < chunkLen wLen done :=
  Nat.lt_min.2 ⟨by decide, Nat.sub_pos_of_lt hlt⟩

/-- The answer reaches the response state with the bytes asked for, and is stored. -/
theorem answer_awaitingData (nfcc : ReadNfcc memory) (env : Env)
    (h : AwaitingData memory addr wLen cb ctxt buf acts t done) (hmax : wLen ≤ 65531)
    (hend : addr + wLen ≤ 2 ^ 32) :
    ∃ c c' info pre, Reading addr cb ctxt c ∧ Reading addr cb ctxt c' ∧
      c'.tRWInfo = afterRead t.state.ctx.tRWInfo (chunkLen wLen done) ∧
      c'.tRspBuffInfo = ⟨some (partlyRead memory addr (done + chunkLen wLen done) buf),
        done + chunkLen wLen done⟩ ∧
      processFrame c (some info) = (NFCSTATUS.success, c') ∧
      (∀ a ∈ pre, a = Action.timerStop) ∧
      t.state.step ⟨.readDone NFCSTATUS.success (nfcc.answer (sentFrames (history acts t))), env⟩ =
        some (Sys.settle { t.state with readPending := none } env
          (rwStateResponse c (some info) env).1 (pre ++ (rwStateResponse c (some info) env).2),
          pre ++ (rwStateResponse c (some info) env).2) := by
  set len := chunkLen wLen done with hlen
  have hle : len ≤ 248 := chunkLen_le wLen done
  have hrem : len ≤ wLen - done := chunkLen_le_rest wLen done
  have hlt := h.lt
  obtain ⟨hist, hsent⟩ := h.sent
  obtain ⟨reserved, hanswer⟩ := nfcc.conforms hist (addr + done) len (chunkLen_pos h.lt) hle (by omega)
  set rsp := nfcc.answer (sentFrames (history acts t)) with hrsp
  have hrsp' : rsp = readResponse reserved (memoryAt memory (addr + done) len) := by
    rw [hrsp, hsent]
    exact hanswer
  have hrlen : rsp.length = len + 8 := by
    rw [hrsp', readResponse, length_wireFrame]
    simp only [le16Bytes, List.length_append, List.length_cons, List.length_nil, length_memoryAt]
    omega
  have hfit : rsp.length ≤ cmdRespMaxBuffSize := by
    rw [hrlen]
    simp only [cmdRespMaxBuffSize]
    omega
  obtain ⟨c, pre, ti, st, hc, hti, hpre, hstep⟩ := step_readDone env hfit h.state h.readPending
  have hr := h.reading
  have hrc : Reading addr cb ctxt c := by
    rw [hc]
    exact ⟨hr.input, hr.cmd, hr.cb, hr.ctxt, by rw [hti]; exact hr.inTime⟩
  have hcrw : c.tRWInfo = t.state.ctx.tRWInfo := by
    rw [hc]
    rfl
  have hsend : c.tRWInfo.wBytesToSendRecv = len := by
    rw [hcrw]
    exact h.sent_len
  -- the frame buffer starts with the answer
  have hbytes : (Sys.receive t.state.ctx rsp).tCmdRspFrameInfo.aFrameBuff.bytes.take
      (c.tRWInfo.wBytesToSendRecv + 8) =
        readResponse reserved (memoryAt memory (addr + done) c.tRWInfo.wBytesToSendRecv) := by
    rw [hsend, ← hrlen, ← hrsp']
    exact Buffer.take_overwrite_zero _ hfit
  have hasked : Asked addr wLen done c.tRWInfo := by
    rw [hcrw]
    exact h.asked
  have hbuffer : c.tRspBuffInfo.pBuff = some (partlyRead memory addr done buf) := by
    rw [hc]
    exact h.buffer
  have hack := acknowledge_read hrc hasked h.lt hmax hbuffer hbytes
  rw [hsend, ← hrlen] at hack
  refine ⟨c, _, _, pre, hrc, ?_, ?_, rfl, hack, hpre, hstep⟩
  · exact ⟨hrc.input, hrc.cmd, hrc.cb, hrc.ctxt, hrc.inTime⟩
  · rw [hcrw]

/-- The bookkeeping once the chunk has been stored, while something remains. -/
theorem Asked.next {rw : RWInfo} (h : Asked addr wLen done rw) (hend : addr + wLen ≤ 2 ^ 32)
    (hmore : done + chunkLen wLen done < wLen) :
    Verified addr wLen (done + chunkLen wLen done) (afterRead rw (chunkLen wLen done)) where
  offset := congrArg (· + chunkLen wLen done) h.offset
  rem := by
    rw [afterRead, h.rem]
    dsimp only
    omega
  addr := by
    rw [afterRead, h.addr]
    exact (Nat.mod_eq_of_lt (by omega)).trans (Nat.add_assoc _ _ _)
  read := congrArg (· + chunkLen wLen done) h.read
  pldSize := h.pldSize
  segmented := h.segmented

/-! ## One exchange -/

/-- While bytes remain, the chunk is stored and the next one requested. -/
theorem exchangeRead_chunk (nfcc : ReadNfcc memory) (below : Below)
    (h : Requesting memory addr wLen cb ctxt buf acts t done) (hmax : wLen ≤ 65531)
    (hend : addr + wLen ≤ 2 ^ 32) (hmore : done + chunkLen wLen done < wLen) :
    Requesting memory addr wLen cb ctxt buf acts (exchangeRead nfcc below acts t)
        (done + chunkLen wLen done) ∧
      sentFrames (history acts (exchangeRead nfcc below acts t)) =
        sentFrames (history acts t) ++ [readFrame (addr + (done + chunkLen wLen done))
          (chunkLen wLen (done + chunkLen wLen done))] := by
  obtain ⟨ha, hsame⟩ := completeWrite_requesting below h
  set t' := completeWrite below t with ht'
  set env := below.env t'.es.length with henv
  obtain ⟨c, c', info, pre, hrc, hrc', hrw, hrsp, hp, hpre, hstep⟩ :=
    answer_awaitingData nfcc env ha hmax hend
  have hpos := chunkLen_pos h.lt
  have hverified := ha.asked.next hend hmore
  rw [← hrw] at hverified
  -- only the first request sets the bookkeeping up
  have hsegmented : c'.tRWInfo.bFramesSegmented = true := by
    rw [hverified.segmented, decide_eq_true_eq]
    have hlen : chunkLen wLen done = min readChunkMax (wLen - done) := rfl
    omega
  have hlater : verifyFrameInputs c' = (NFCSTATUS.success, { c' with tRWInfo := c'.tRWInfo }) := by
    apply verify_later hrc'
    · rw [hrsp]
      exact (Nat.add_pos_right done hpos).ne'
    · rw [hrsp]
      exact Option.some_ne_none _
    · exact hsegmented
  obtain ⟨hb, hbytes, rw', fi, hbuild, hasked⟩ := build_read hrc' hlater hverified
  have hremain : c'.tRWInfo.wRemBytes ≠ 0 := by
    rw [hverified.rem]
    omega
  rw [rwStateResponse_next env hrc.inTime hp hremain hb, hbytes] at hstep
  obtain ⟨hes, hst⟩ := Trace.call_of_some hstep
  have hhist := history_of_es acts hes
  have hframes : sentFrames (history acts (exchangeRead nfcc below acts t)) =
      sentFrames (history acts t') ++ [readFrame (addr + (done + chunkLen wLen done))
        (chunkLen wLen (done + chunkLen wLen done))] := by
    rw [exchangeRead, answerRead, hhist, sentFrames_append, sentFrames_append,
      sentFrames_inert (isInert_of_stop hpre)]
    rfl
  have hwrite : env.tmlWrite = NFCSTATUS.pending := below.write _
  refine ⟨⟨⟨?_, ?_, hmore, ?_, ⟨_, hframes⟩, ?_⟩, ?_, ?_⟩, by rw [hframes, hsame]⟩
  · rw [exchangeRead, answerRead, hst, Sys.settle_ctx, hbuild]
    exact ⟨hrc'.input, hrc'.cmd, hrc'.cb, hrc'.ctxt, hrc'.inTime⟩
  · rw [exchangeRead, answerRead, hst, Sys.settle_ctx, hbuild]
    exact hasked
  · rw [exchangeRead, answerRead, hst, Sys.settle_ctx, hbuild]
    exact congrArg Buff.pBuff hrsp
  · rw [exchangeRead, answerRead, hhist, reports_append, ha.silent, reports_append,
      reports_stop hpre]
    rfl
  · rw [exchangeRead, answerRead, hst, Sys.settle_ctx]
  · rw [exchangeRead, answerRead, hst, settle_append_inert (isInert_of_stop hpre)]
    simp only [Sys.settle, List.foldl_cons, List.foldl_nil, Sys.perform, hwrite, if_true]

/-- With the last chunk the read ends. -/
theorem exchangeRead_last (nfcc : ReadNfcc memory) (below : Below)
    (h : Requesting memory addr wLen cb ctxt buf acts t done) (hmax : wLen ≤ 65531)
    (hend : addr + wLen ≤ 2 ^ 32) (hlast : ¬done + chunkLen wLen done < wLen) :
    ReadDone memory addr wLen cb ctxt buf acts (exchangeRead nfcc below acts t) ∧
      sentFrames (history acts (exchangeRead nfcc below acts t)) =
        sentFrames (history acts t) := by
  obtain ⟨ha, hsame⟩ := completeWrite_requesting below h
  set t' := completeWrite below t with ht'
  set env := below.env t'.es.length with henv
  obtain ⟨c, c', info, pre, hrc, hrc', hrw, hrsp, hp, hpre, hstep⟩ :=
    answer_awaitingData nfcc env ha hmax hend
  have hlt := h.lt
  have hle := chunkLen_le_rest wLen done
  have hall : done + chunkLen wLen done = wLen := by omega
  have hremain : c'.tRWInfo.wRemBytes = 0 := by
    rw [hrw, afterRead, ha.asked.rem]
    dsimp only
    omega
  have hfinal := rwStateResponse_end env hrc.inTime hp hremain
  have hfin : Finishes (rwStateResponse c (some info) env) :=
    ⟨_, NFCSTATUS.success, [], by simp, hfinal⟩
  obtain ⟨hsettle, hrest, hno⟩ := hfin.settles (s := { t'.state with readPending := none })
    env ha.writePending
  rw [settle_append_inert (isInert_of_stop hpre), hsettle] at hstep
  obtain ⟨hes, hst⟩ := Trace.call_of_some hstep
  have hhist := history_of_es acts hes
  refine ⟨⟨?_, ?_, ?_, ?_⟩, ?_⟩
  · rw [exchangeRead, answerRead, hst]
    exact ⟨rfl, hrest⟩
  · rw [exchangeRead, answerRead, hst, hfinal, ← hall]
    exact congrArg Buff.pBuff hrsp
  · rw [exchangeRead, answerRead, hst, hfinal]
    show c'.tRWInfo.wBytesRead = wLen
    rw [hrw, afterRead, ha.asked.read]
    exact hall
  · rw [exchangeRead, answerRead, hhist, reports_append, ha.silent, reports_append,
      reports_stop hpre, hfinal]
    simp [reports, notifyUser, hrc'.cb, hrc'.ctxt]
  · rw [exchangeRead, answerRead, hhist, sentFrames_append, sentFrames_append,
      sentFrames_inert (isInert_of_stop hpre), hno, hsame]
    simp

/-- A finished read does not go on. -/
theorem exchangeRead_done (nfcc : ReadNfcc memory) (below : Below)
    (h : ReadDone memory addr wLen cb ctxt buf acts t) : exchangeRead nfcc below acts t = t := by
  have hwrite : t.state.writePending = none := by rw [h.atRest.1]; rfl
  have hread : t.state.readPending = none := by rw [h.atRest.1]; rfl
  have hdone : completeWrite below t = t :=
    Trace.call_of_none (by simp only [Sys.step, hwrite, Option.map_none])
  rw [exchangeRead, hdone, answerRead]
  apply Trace.call_of_none
  simp only [Sys.step, hread, Option.map_none, ite_self]

end Loop

/-! ## The call of the handler -/

/-- A context that submits the read of `wLen` bytes from `addr` on into the buffer `buf`. -/
structure ReadReady (addr wLen cb ctxt : ℕ) (buf : List UInt8) (ctx : DlContext) : Prop where
  atRest : ctx.AtRest
  noResend : ctx.bResendLastFrame = false
  input : ctx.FrameInp = ⟨.ftRead, addr⟩
  cmd : ctx.tCmdId = .read
  rsp : ctx.tRspBuffInfo = ⟨some buf, wLen⟩
  cleared : ctx.tRWInfo = RWInfo.zero
  cb : ctx.UserCb = some cb
  ctxt : ctx.UserCtxt = some ctxt

/-- `phDnldNfc_ReadLog` submits the read of the log area, on any component that is at rest after
any run since it was booted. -/
theorem readLog_ready {img : Option (List UInt8)} {n : ℕ} {s : Sys}
    {es : List (Input × List Action)} (hrun : Run Sys.step (Sys.booted img n) es s)
    (hrest : s.ctx.AtRest) {buf : List UInt8} {wLen : ℕ} (hpos : 0 < wLen) (libs : FwLibs)
    (cb ctxt : ℕ) (env : Env) :
    ∃ c, ReadReady eepromLogStartAddr wLen cb ctxt buf c ∧
      issue (.readLog (some ⟨some buf, wLen⟩)) (some cb) (some ctxt) libs s.ctx env =
        cmdHandler c .read env := by
  have hframing := run_framing hrun (booted_framing img n)
  have hvalid : (Buff.mk (some buf) wLen).valid := ⟨Option.some_ne_none buf, hpos.ne'⟩
  refine ⟨{ s.ctx.setCommand .ftRead .read ⟨some buf, wLen⟩ ⟨none, 0⟩ cb ctxt with
    FrameInp := ⟨.ftRead, eepromLogStartAddr⟩, tRWInfo := RWInfo.zero }, ?_, ?_⟩
  · have h := hrest
    exact ⟨⟨h.inProgress, h.event, h.state, h.timer⟩, hframing.noResend, rfl, rfl, rfl, rfl, rfl,
      rfl⟩
  · simp only [issue, Request.argsPresent, Option.isSome_some, Bool.true_eq_false, if_false,
      hrest.inProgress, ne_eq, not_true_eq_false, Request.prepare, Option.getD_some,
      prepareReadLog, if_pos hvalid, Request.event]

/-- What `phDnldNfc_CmdHandler` does on a read. -/
def startRead (below : Below) (ctx : DlContext) : DlContext × List Action :=
  (cmdHandler ctx .read (below.env 0)).2

/-- The component after the call. -/
def readStarted (below : Below) (ctx : DlContext) : Sys :=
  (Sys.rest ctx).settle (below.env 0) (startRead below ctx).1 (startRead below ctx).2

/-- The call sends the request for the first chunk. -/
theorem startRead_requesting (memory : Memory) {addr wLen cb ctxt : ℕ} {buf : List UInt8}
    {ctx : DlContext} (below : Below) (h : ReadReady addr wLen cb ctxt buf ctx) (hpos : 0 < wLen)
    (hmax : wLen ≤ 65531) :
    let t := Trace.start Sys.step (readStarted below ctx)
    Requesting memory addr wLen cb ctxt buf (startRead below ctx).2 t 0 ∧
      sentFrames (history (startRead below ctx).2 t) = [readFrame addr (chunkLen wLen 0)] := by
  set env := below.env 0 with henv
  set c₀ : DlContext := { ctx with tCurrEvent := .read, tDnldInProgress := .busy } with hc₀
  have hstate : c₀.tCurrState = .init := h.atRest.state
  obtain ⟨ti, hti, hinit⟩ := rwStateInit_send c₀ env h.noResend
  set c : DlContext := { c₀ with TimerInfo := ti, tCurrState := .send } with hc
  have hr : Reading addr cb ctxt c := by
    refine ⟨h.input, h.cmd, h.cb, h.ctxt, ?_⟩
    have hexp : ti.wTimerExpStatus = NFCSTATUS.success := by
      rcases hti with rfl | hti
      · exact congrArg RspTimerInfo.wTimerExpStatus h.atRest.timer
      · exact hti
    show ti.wTimerExpStatus ≠ _
    rw [hexp]
    decide
  have hseg : c.tRWInfo.bFramesSegmented = false := congrArg RWInfo.bFramesSegmented h.cleared
  obtain ⟨rw, hv, hverified⟩ := verify_first hr h.rsp hseg hpos hmax
  obtain ⟨hb, hbytes, rw', fi, hbuild, hasked⟩ := build_read hr hv hverified
  have hstart : startRead below ctx =
      ({ (buildFramePkt c).2 with tCurrState := .recv, wCmdSendStatus := env.tmlWrite },
        [.tmlWrite (readFrame addr (chunkLen wLen 0)) .processRWSeqState]) := by
    have hgo := hinit hb
    rw [hbytes] at hgo
    simp only [startRead, cmdHandler, Event.handler, h.atRest.event, if_true]
    show processRWSeqState c₀ none env = _
    simp only [processRWSeqState, hstate]
    exact hgo
  have hctx : (readStarted below ctx).ctx = (startRead below ctx).1 := Sys.settle_ctx _ _ _ _
  have hwrite : env.tmlWrite = NFCSTATUS.pending := below.write _
  have hframes : sentFrames (history (startRead below ctx).2
      (Trace.start Sys.step (readStarted below ctx))) = [readFrame addr (chunkLen wLen 0)] := by
    rw [hstart]
    rfl
  refine ⟨⟨⟨?_, ?_, hpos, ?_, ⟨[], hframes⟩, ?_⟩, ?_, ?_⟩, hframes⟩
  · show Reading addr cb ctxt (readStarted below ctx).ctx
    rw [hctx, hstart, hbuild]
    exact ⟨hr.input, hr.cmd, hr.cb, hr.ctxt, hr.inTime⟩
  · show Asked addr wLen 0 (readStarted below ctx).ctx.tRWInfo
    rw [hctx, hstart, hbuild]
    exact hasked
  · show (readStarted below ctx).ctx.tRspBuffInfo.pBuff = _
    rw [hctx, hstart, hbuild]
    exact congrArg Buff.pBuff h.rsp
  · rw [hstart]
    rfl
  · show (readStarted below ctx).ctx.tCurrState = .recv
    rw [hctx, hstart]
  · show (readStarted below ctx).writePending = _
    rw [readStarted, hstart]
    simp only [Sys.settle, List.foldl_cons, List.foldl_nil, Sys.perform, ← henv, hwrite, if_true]

/-! ## The loop -/

/-- From a request on, finitely many exchanges read the rest of the range, chunk by chunk. The
induction is on a bound for the bytes that are not stored yet. -/
theorem exchangeRead_iterate {memory : Memory} {addr wLen cb ctxt : ℕ} {buf : List UInt8}
    {acts : List Action} (nfcc : ReadNfcc memory) (below : Below) (hmax : wLen ≤ 65531)
    (hend : addr + wLen ≤ 2 ^ 32) (n : ℕ) :
    ∀ {done : ℕ} {t : Trace Sys.step s₀},
      Requesting memory addr wLen cb ctxt buf acts t done → wLen - done ≤ n →
      ∃ k chunks, ReadDone memory addr wLen cb ctxt buf acts
          ((exchangeRead nfcc below acts)^[k] t) ∧
        sentFrames (history acts ((exchangeRead nfcc below acts)^[k] t)) =
          sentFrames (history acts t) ++ chunks.map (fun c => readFrame c.1 c.2) ∧
        Tiles (addr + (done + chunkLen wLen done)) (wLen - (done + chunkLen wLen done)) chunks := by
  induction n with
  | zero =>
    intro done t h hn
    have hlt := h.lt
    omega
  | succ n ih =>
    intro done t h hn
    have hpos := chunkLen_pos h.lt
    by_cases hmore : done + chunkLen wLen done < wLen
    · obtain ⟨hnext, hframes⟩ := exchangeRead_chunk nfcc below h hmax hend hmore
      obtain ⟨k, chunks, hdone, hall, htiles⟩ := ih hnext (by omega)
      set done' := done + chunkLen wLen done with hdone'
      refine ⟨k + 1, (addr + done', chunkLen wLen done') :: chunks, hdone, ?_, ?_⟩
      · rw [Function.iterate_succ_apply, hall, hframes, List.append_assoc]
        rfl
      · have hle := chunkLen_le_rest wLen done'
        have hsplit : wLen - done' =
            chunkLen wLen done' + (wLen - (done' + chunkLen wLen done')) := by omega
        rw [hsplit]
        apply Tiles.cons (chunkLen_pos hmore) (chunkLen_le wLen done')
        rw [Nat.add_assoc]
        exact htiles
    · obtain ⟨hdone, hframes⟩ := exchangeRead_last nfcc below h hmax hend hmore
      have hnone : wLen - (done + chunkLen wLen done) = 0 := by omega
      refine ⟨1, [], hdone, ?_, ?_⟩
      · rw [Function.iterate_one, hframes, List.map_nil, List.append_nil]
      · rw [hnone]
        exact .nil _

/-- Segmented reads reassemble memory: against an NFCC that answers every request with the bytes
asked for, the read ends with the range in the caller's buffer and one report of success, and the
requests cover the range in chunks of at most 248 bytes without gap or overlap. -/
theorem read_reassembles {memory : Memory} {addr wLen cb ctxt : ℕ} {buf : List UInt8}
    (ctx : DlContext) (h : ReadReady addr wLen cb ctxt buf ctx) (hpos : 1 ≤ wLen)
    (hmax : wLen ≤ 65531) (hend : addr + wLen ≤ 2 ^ 32) (hbuf : buf.length = wLen)
    (nfcc : ReadNfcc memory) (below : Below) :
    let acts := (startRead below ctx).2
    let run := fun k => (exchangeRead nfcc below.later acts)^[k]
      (Trace.start Sys.step (readStarted below ctx))
    ∃ n, (run n).state.ctx.tRspBuffInfo.pBuff = some (memoryAt memory addr wLen) ∧
      (∃ chunks, Tiles addr wLen chunks ∧
        sentFrames (history acts (run n)) = chunks.map fun c => readFrame c.1 c.2) ∧
      (run n).state.ctx.tRWInfo.wBytesRead = wLen ∧
      reports (history acts (run n)) = [(cb, ctxt, NFCSTATUS.success)] ∧
      (run n).state = Sys.rest (run n).state.ctx ∧ (run n).state.ctx.AtRest ∧
      ∀ m ≥ n, run m = run n := by
  obtain ⟨hreq, hfirst⟩ := startRead_requesting memory below h hpos hmax
  obtain ⟨n, chunks, hdone, hframes, htiles⟩ :=
    exchangeRead_iterate nfcc below.later hmax hend wLen hreq (Nat.sub_le wLen 0)
  refine ⟨n, ?_, ⟨(addr, chunkLen wLen 0) :: chunks, ?_, ?_⟩, hdone.read, hdone.told,
    hdone.atRest.1, hdone.atRest.2, ?_⟩
  · -- nothing of what the buffer held before is left
    rw [hdone.buffer, partlyRead, List.drop_of_length_le hbuf.le, List.append_nil]
  · have hle : chunkLen wLen 0 ≤ wLen := chunkLen_le_rest wLen 0
    rw [Nat.zero_add] at htiles
    have hall := htiles.cons (chunkLen_pos hpos) (chunkLen_le wLen 0)
    rwa [Nat.add_sub_cancel' hle] at hall
  · rw [hframes, hfirst]
    rfl
  · intro m hm
    obtain ⟨j, rfl⟩ := Nat.exists_eq_add_of_le hm
    show (exchangeRead nfcc below.later (startRead below ctx).2)^[n + j] _ = _
    rw [Nat.add_comm, Function.iterate_add_apply]
    exact Function.iterate_fixed (exchangeRead_done nfcc below.later hdone) j

/-- A request's length and address are read back from its frame. -/
theorem readResponse_of_readFrame (memory : Memory) {addr len : ℕ} (hpos : 0 < len)
    (hmax : len ≤ readChunkMax) (hend : addr + len ≤ 2 ^ 32) :
    readResponse 0 (memoryAt memory
      (be16 (hiByte (addr >>> 16)) (loByte (addr >>> 16)) * 65536 +
        be16 (hiByte addr) (loByte addr)) (be16 (hiByte len) (loByte len))) =
      readResponse 0 (memoryAt memory addr len) := by
  have hlen : be16 (hiByte len) (loByte len) = len :=
    be16_hiByte_loByte (lt_of_le_of_lt hmax (by decide))
  have haddr : be16 (hiByte (addr >>> 16)) (loByte (addr >>> 16)) * 65536 +
      be16 (hiByte addr) (loByte addr) = addr := by
    rw [be16_eq, be16_eq]
    simp only [hiByte, loByte, UInt8.toNat_ofNat', Nat.shiftRight_eq_div_pow]
    omega
  rw [hlen, haddr]

/-- An NFCC that looks up what the last request asks for. -/
def memoryNfcc (memory : Memory) : ReadNfcc memory where
  answer hist :=
    let f := hist.getLast?.getD []
    let len := be16 (byteAt f 5) (byteAt f 4)
    let addr := be16 (byteAt f 9) (byteAt f 8) * 65536 + be16 (byteAt f 7) (byteAt f 6)
    readResponse 0 (memoryAt memory addr len)
  conforms hist addr len hpos hmax hend := by
    refine ⟨0, ?_⟩
    simp only [List.getLast?_concat, Option.getD_some]
    exact readResponse_of_readFrame memory hpos hmax hend

/-- A read of 600 bytes, which takes three requests. -/
theorem read_reassembles_600 :
    let memory : Memory := fun a => UInt8.ofNat (a * a)
    let buf := List.replicate 600 0
    let ctx := { DlContext.zero with
      FrameInp := ⟨.ftRead, 0x201F80⟩, tCmdId := .read, tRspBuffInfo := ⟨some buf, 600⟩,
      UserCb := some 1, UserCtxt := some 1 }
    let below : Below := ⟨fun _ => Env.accepting, fun _ => rfl, fun _ => rfl⟩
    ∃ n, ((exchangeRead (memoryNfcc memory) below.later (startRead below ctx).2)^[n]
      (Trace.start Sys.step (readStarted below ctx))).state.ctx.tRspBuffInfo.pBuff =
        some (memoryAt memory 0x201F80 600) := by
  intro memory buf ctx below
  have hready : ReadReady 0x201F80 600 1 1 buf ctx :=
    ⟨⟨rfl, rfl, rfl, rfl⟩, rfl, rfl, rfl, rfl, rfl, rfl, rfl⟩
  obtain ⟨n, hbuffer, -⟩ := read_reassembles ctx hready (by decide) (by decide) (by decide)
    List.length_replicate (memoryNfcc memory) below
  exact ⟨n, hbuffer⟩

end AliceHal.Pn54x.PhDnldNfc
