import AliceHal.Pn54x.PhDnldNfc.Outcome

/-!
# Retransmission after a Busy Answer

A frame answered with `PH_DL_STATUS_MEM_BSY` is sent again when the resend timer expires. The
retransmission does not rebuild the frame: it hands over `dwSendlength` bytes of the frame
buffer. The answer was read into the same buffer, so what goes out again starts with the bytes
of the answer.

- `Wire`: what an observer between the component and TML sees, with every retransmission
- `Phase`: what the frame buffer holds while a frame is out, and while the resend timer runs
- `resend_repeats_iff`: a run repeats its frames if and only if every busy answer agrees with the
  start of the frame it answers
-/

namespace AliceHal.Pn54x.PhDnldNfc

open Lib

/-! ## What goes over the wire -/

/-- A retransmission: the bytes handed to TML before it, the response stored last, and the bytes
handed over now. -/
structure Resend where
  lastSent : List UInt8
  rsp : List UInt8
  bytes : List UInt8
  deriving DecidableEq, Repr

/-- The frame handed over last, the response stored last and the retransmissions so far. -/
structure Wire where
  lastSent : List UInt8
  lastRsp : List UInt8
  resends : List Resend
  deriving DecidableEq, Repr

namespace Wire

def init : Wire := ⟨[], [], []⟩

def receive (w : Wire) : Stimulus → Wire
  | .readDone _ rsp => { w with lastRsp := rsp }
  | _ => w

/-- A frame handed over by the timer is a retransmission. -/
def send (w : Wire) (stim : Stimulus) (bytes : List UInt8) : Wire :=
  match stim with
  | .timerFired => ⟨bytes, w.lastRsp, w.resends ++ [⟨w.lastSent, w.lastRsp, bytes⟩]⟩
  | _ => { w with lastSent := bytes }

/-- One call, as it is seen on the wire. -/
def observe (w : Wire) (e : Input × List Action) : Wire :=
  (sentFrames e.2).foldl (fun w bytes => w.send e.1.stim bytes) (w.receive e.1.stim)

/-- A whole run, as it is seen on the wire. -/
def ofRun (es : List (Input × List Action)) : Wire := es.foldl observe init

end Wire

/-! ## What the frame buffer holds -/

/-- The states of the component between two calls, with what the frame buffer holds in each.
Only while the resend timer runs does it differ from the frame that was sent. -/
inductive Phase (w : Wire) (s : Sys) : Prop where
  | rest (hctx : s.ctx.AtRest) (hs : s = Sys.rest s.ctx)
  /-- No callback can come that would do anything. -/
  | dead (hbusy : s.ctx.tDnldInProgress ≠ .idle) (htimer : s.ctx.TimerInfo.TimerStatus = 0)
      (hw : s.writePending = none) (hr : s.readPending = none)
  | sending (hbusy : s.ctx.tDnldInProgress ≠ .idle) (htimer : s.ctx.TimerInfo.TimerStatus = 0)
      (hst : s.ctx.tCurrState = .recv) (hr : s.readPending = none)
      (hsent : w.lastSent = frameBytes s.ctx)
  | awaiting (hbusy : s.ctx.tDnldInProgress ≠ .idle) (hw : s.writePending = none)
      (hst : s.ctx.tCurrState = .timer ∨ s.ctx.tCurrState = .response)
      (htimer : s.ctx.TimerInfo.TimerStatus = 0 ∨
        (s.ctx.TimerInfo.TimerStatus = 1 ∧ s.ctx.tCurrState = .timer ∧
          s.timerCb = some .rspTimeOutCb))
      (hsent : w.lastSent = frameBytes s.ctx)
  | armed (hbusy : s.ctx.tDnldInProgress ≠ .idle) (hw : s.writePending = none)
      (hr : s.readPending = none) (hcb : s.timerCb = some .resendTimeOutCb)
      (buff : Buffer cmdRespMaxBuffSize) (hrsp : w.lastRsp.length ≤ cmdRespMaxBuffSize)
      (hbuff : s.ctx.tCmdRspFrameInfo.aFrameBuff = buff.overwrite 0 w.lastRsp)
      (hsent : w.lastSent = buff.bytes.take s.ctx.tCmdRspFrameInfo.dwSendlength)

/-- Every retransmission so far repeats its frame exactly when the answer agrees with it. -/
def Wire.Exact (w : Wire) : Prop :=
  ∀ r ∈ w.resends, r.bytes = r.lastSent ↔ Agrees r.rsp r.lastSent

theorem Wire.observe_of_no_write (w : Wire) {i : Input} {acts : List Action}
    (h : sentFrames acts = []) : w.observe (i, acts) = w.receive i.stim := by
  simp [observe, h]

/-! ## One call -/

theorem Wire.observe_resends (w : Wire) {i : Input} (acts : List Action)
    (h : i.stim ≠ .timerFired) : (w.observe (i, acts)).resends = w.resends := by
  have hsend : ∀ (frames : List (List UInt8)) (v : Wire),
      (frames.foldl (fun v bytes => v.send i.stim bytes) v).resends = v.resends := by
    intro frames
    induction frames with
    | nil => intro v; rfl
    | cons f frames ih =>
      intro v
      rw [List.foldl_cons, ih]
      cases hstim : i.stim with
      | timerFired => exact absurd hstim h
      | _ => rfl
  rw [observe, hsend]
  cases i.stim <;> rfl

theorem settle_awaitResponse (hd : Handler) (s : Sys) (ctx : DlContext) (env : Env) :
    (s.settle env (awaitResponse hd ctx env).1 (awaitResponse hd ctx env).2).writePending =
        s.writePending ∧
      (s.settle env (awaitResponse hd ctx env).1 (awaitResponse hd ctx env).2).timerCb =
        if env.timerStart = NFCSTATUS.success then some .rspTimeOutCb else s.timerCb := by
  simp only [Sys.settle, awaitResponse, List.foldl_cons, List.foldl_nil, Sys.perform]
  split <;> split <;> simp

/-- A completed write: the response is awaited, or the sequence ends. -/
theorem phase_writeDone {w : Wire} {s : Sys} (h : Phase w s) {hd : Handler}
    (hpend : s.writePending = some hd) (info : TransactInfo) (env : Env) :
    Phase w (Sys.settle { s with writePending := none } env
      (Sys.complete hd s.ctx info env).1 (Sys.complete hd s.ctx info env).2) ∧
    sentFrames (Sys.complete hd s.ctx info env).2 = [] := by
  cases h with
  | rest _ hs => rw [hs] at hpend; cases hpend
  | dead _ _ hw => rw [hw] at hpend; cases hpend
  | awaiting _ hw => rw [hw] at hpend; cases hpend
  | armed _ hw => rw [hw] at hpend; cases hpend
  | sending hbusy htimer hst hr hsent =>
    rcases complete_write hd info env hst with heq | hfin
    · rw [heq]
      refine ⟨?_, rfl⟩
      obtain ⟨hw', hcb'⟩ := settle_awaitResponse hd { s with writePending := none } s.ctx env
      by_cases hstart : env.timerStart = NFCSTATUS.success
      · rw [if_pos hstart] at hcb'
        refine .awaiting ?_ hw' ?_ (.inr ⟨?_, ?_, hcb'⟩) ?_ <;>
          simp [awaitResponse, hstart, hbusy, hsent, frameBytes]
      · refine .awaiting ?_ hw' ?_ (.inl ?_) ?_ <;>
          simp [awaitResponse, hstart, hbusy, htimer, hsent, frameBytes]
    · obtain ⟨hsettle, hrest, hno⟩ := hfin.settles (s := { s with writePending := none }) env rfl
      rw [hsettle]
      exact ⟨.rest hrest rfl, hno⟩

/-- A response: the sequence ends, goes on with the next frame, stalls, or waits for the resend
timer with the response stored over the frame. -/
theorem phase_readDone {w : Wire} {s : Sys} (h : Phase w s) {hd : Handler}
    (hpend : s.readPending = some hd) (st : NFCSTATUS) {rsp : List UInt8}
    (hrsp : rsp.length ≤ cmdRespMaxBuffSize) (env : Env) :
    let r := Sys.complete hd (Sys.receive s.ctx rsp)
      (Sys.readInfo (Sys.receive s.ctx rsp) st rsp.length) env
    Phase (w.observe (⟨.readDone st rsp, env⟩, r.2))
      (Sys.settle { s with readPending := none } env r.1 r.2) := by
  intro r
  cases h with
  | rest _ hs => rw [hs] at hpend; cases hpend
  | dead _ _ _ hr => rw [hr] at hpend; cases hpend
  | sending _ _ _ hr => rw [hr] at hpend; cases hpend
  | armed _ _ hr => rw [hr] at hpend; cases hpend
  | awaiting hbusy hw hst htimer hsent =>
    rcases complete_read hd (Sys.receive s.ctx rsp)
      (Sys.readInfo (Sys.receive s.ctx rsp) st rsp.length) env hst with hfin | ⟨q, pre, c, heq, hpre, hc, hout⟩
    · obtain ⟨hsettle, hrest, hno⟩ := hfin.settles (s := { s with readPending := none }) env hw
      rw [hsettle]
      exact .rest hrest rfl
    · -- before the response is looked at, the timer has been stopped
      have hstop : c.TimerInfo.TimerStatus = 0 := by
        rcases hc with ⟨rfl, hresp⟩ | rfl
        · rcases htimer with h0 | ⟨-, ht, -⟩
          · exact h0
          · exact absurd (ht.symm.trans hresp) (by decide)
        · rcases htimer with h0 | ⟨h1, -, -⟩
          · simp [stopTimer, Sys.receive, h0]
          · simp [stopTimer, Sys.receive, h1]
      have hcbusy : c.tDnldInProgress ≠ .idle := by
        rcases hc with ⟨rfl, -⟩ | rfl <;> exact hbusy
      have hcframe : c.tCmdRspFrameInfo = (Sys.receive s.ctx rsp).tCmdRspFrameInfo := by
        rcases hc with ⟨rfl, -⟩ | rfl <;> rfl
      have hr : r = (q.1, pre ++ q.2) := heq
      rw [hr, settle_append_inert hpre, Wire.observe, sentFrames_append, sentFrames_inert hpre,
        List.nil_append]
      have hp := processFrame_sameControl c
        (some (Sys.readInfo (Sys.receive s.ctx rsp) st rsp.length))
      have hb := buildFramePkt_sameControl
        (processFrame c (some (Sys.readInfo (Sys.receive s.ctx rsp) st rsp.length))).2
      cases hout with
      | finish hfin =>
        obtain ⟨hsettle, hrest, hno⟩ := hfin.settles (s := { s with readPending := none }) env hw
        rw [hsettle]
        exact .rest hrest rfl
      | next hok heq =>
        subst heq
        refine .sending ?_ ?_ ?_ ?_ ?_
        · rw [Sys.settle_ctx, hb.inProgress, hp.inProgress]
          exact hcbusy
        · rw [Sys.settle_ctx, hb.timer, hp.timer]
          exact hstop
        · rw [Sys.settle_ctx]
        · simp only [Sys.settle, List.foldl_cons, List.foldl_nil, Sys.perform]
          split <;> rfl
        · rw [Sys.settle_ctx]
          rfl
      | stall heq =>
        subst heq
        refine .dead ?_ ?_ hw rfl
        · rw [Sys.settle_ctx, hb.inProgress, hp.inProgress]
          exact hcbusy
        · rw [Sys.settle_ctx, hb.timer, hp.timer]
          exact hstop
      | wait heq =>
        subst heq
        by_cases hstart : env.timerStart = NFCSTATUS.success
        · obtain ⟨rb, rw', ls, hframe, -⟩ := processFrame_frame c
            (some (Sys.readInfo (Sys.receive s.ctx rsp) st rsp.length))
          have hinfo : (setupResendTimer (processFrame c (some
              (Sys.readInfo (Sys.receive s.ctx rsp) st rsp.length))).2 env).2.1.tCmdRspFrameInfo =
              (Sys.receive s.ctx rsp).tCmdRspFrameInfo := by
            rw [← hcframe, setupResendTimer, hframe]
          refine .armed ?_ ?_ ?_ ?_ s.ctx.tCmdRspFrameInfo.aFrameBuff hrsp ?_ ?_
          · rw [Sys.settle_ctx]
            simp only [setupResendTimer]
            rw [hp.inProgress]
            exact hcbusy
          · simp [Sys.settle, setupResendTimer, Sys.perform, hstart, hw]
          · simp [Sys.settle, setupResendTimer, Sys.perform, hstart]
          · simp [Sys.settle, setupResendTimer, Sys.perform, hstart]
          · rw [Sys.settle_ctx, hinfo]
            rfl
          · rw [Sys.settle_ctx, hinfo]
            exact hsent
        · refine .dead ?_ ?_ ?_ ?_
          · rw [Sys.settle_ctx]
            simp only [setupResendTimer]
            rw [hp.inProgress]
            exact hcbusy
          · rw [Sys.settle_ctx]
            simp [setupResendTimer, hstart]
          · simp [Sys.settle, setupResendTimer, Sys.perform, hstart, hw]
          · simp [Sys.settle, setupResendTimer, Sys.perform, hstart]

/-- The timer: nothing, the end of the sequence, or a retransmission. -/
theorem phase_timerFired {w : Wire} {s : Sys} (h : Phase w s) (hx : w.Exact) {cb : TimerCb}
    (hcb : s.timerCb = some cb) (env : Env) :
    let r := Sys.expire cb s.ctx env
    Phase (w.observe (⟨.timerFired, env⟩, r.2)) (s.settle env r.1 r.2) ∧
      (w.observe (⟨.timerFired, env⟩, r.2)).Exact := by
  intro r
  -- a timer that is not running has no effect
  have hidle : s.ctx.TimerInfo.TimerStatus ≠ 1 →
      Phase (w.observe (⟨.timerFired, env⟩, r.2)) (s.settle env r.1 r.2) ∧
        (w.observe (⟨.timerFired, env⟩, r.2)).Exact := by
    intro hne
    have hr : r = (s.ctx, []) := by
      cases cb with
      | rspTimeOutCb => exact if_neg hne
      | resendTimeOutCb => exact if_neg hne
    rw [hr]
    exact ⟨h, hx⟩
  by_cases hrun : s.ctx.TimerInfo.TimerStatus = 1
  · cases h with
    | rest _ hs => rw [hs] at hcb; cases hcb
    | dead _ htimer => rw [htimer] at hrun; cases hrun
    | sending _ htimer => rw [htimer] at hrun; cases hrun
    | awaiting hbusy hw hst htimer hsent =>
      rcases htimer with h0 | ⟨-, ht, hrsp⟩
      · rw [h0] at hrun; cases hrun
      · obtain rfl : cb = .rspTimeOutCb := Option.some.inj (hcb.symm.trans hrsp)
        obtain ⟨q, pre, heq, hpre, hfin⟩ := rspTimeOutCb_finishes env hrun ht
        have hr : r = (q.1, pre ++ q.2) := heq
        obtain ⟨hsettle, hrest, hno⟩ := hfin.settles (s := s) env hw
        rw [hr, settle_append_inert hpre, hsettle, Wire.observe, sentFrames_append,
          sentFrames_inert hpre, hno]
        exact ⟨.rest hrest rfl, hx⟩
    | armed hbusy hw hr hcb' buff hlen hbuff hsent =>
      obtain rfl : cb = .resendTimeOutCb := Option.some.inj (hcb.symm.trans hcb')
      have heq : r = _ := (resendTimeOutCb_eq s.ctx env).trans (if_pos hrun)
      rw [heq]
      constructor
      · refine .sending ?_ ?_ ?_ ?_ ?_
        · rw [Sys.settle_ctx]
          exact hbusy
        · rw [Sys.settle_ctx]
        · rw [Sys.settle_ctx]
        · simp only [Sys.settle, List.foldl_cons, List.foldl_nil, Sys.perform]
          split <;> exact hr
        · rw [Sys.settle_ctx]
          rfl
      · -- the bytes handed over are the frame with the response stored over it
        intro q hq
        rcases List.mem_append.1 hq with hq | hq
        · exact hx q hq
        · rw [List.mem_singleton] at hq
          subst hq
          show frameBytes s.ctx = w.lastSent ↔ Agrees w.lastRsp w.lastSent
          rw [frameBytes, hbuff, hsent]
          exact buff.take_overwrite_eq_iff hlen
  · exact hidle hrun

/-- The checks of a request leave a context at rest. -/
theorem prepare_atRest {ctx : DlContext} (h : ctx.AtRest) (r : Request) (libs : FwLibs)
    (cb ctxt : Nat) : (r.prepare libs cb ctxt ctx).ctx.AtRest := by
  have hset : ∀ {c : DlContext}, c.AtRest → ∀ type cmd rsp user,
      (c.setCommand type cmd rsp user cb ctxt).AtRest :=
    fun hc _ _ _ _ => ⟨hc.inProgress, hc.event, hc.state, hc.timer⟩
  cases r with
  | reset => exact hset h _ _ _ _
  | force b =>
    have hf := hset h .ftForce .force ⟨none, 0⟩ ⟨some (forcePld b), 3⟩
    exact ⟨hf.inProgress, hf.event, hf.state, hf.timer⟩
  | getVersion | getSessionState | readLog | log | rawReq =>
    simp only [Request.prepare, prepareGetVersion, prepareGetSessionState, prepareReadLog,
      prepareLog, prepareRawReq]
    split
    · exact ⟨h.inProgress, h.event, h.state, h.timer⟩
    · exact h
  | checkIntegrity =>
    simp only [Request.prepare, prepareCheckIntegrity]
    split <;> exact ⟨h.inProgress, h.event, h.state, h.timer⟩
  | write rec data =>
    have himg : (imageToWrite rec data libs ctx).2.2.AtRest := by
      rcases imageToWrite_ctx rec data libs ctx with heq | ⟨fwp, n, heq⟩
      · rw [heq]
        exact h
      · rw [heq]
        exact ⟨rfl, rfl, rfl, rfl⟩
    simp only [Request.prepare, prepareWrite]
    split
    · exact ⟨himg.inProgress, himg.event, himg.state, himg.timer⟩
    · exact himg

/-- A request: refused, or the first frame of a sequence. -/
theorem phase_request {w : Wire} {s : Sys} (h : Phase w s) (r : Request)
    (pNotify pContext : Option Nat) (libs : FwLibs) (env : Env) :
    let q := (issue r pNotify pContext libs s.ctx env).2
    Phase (w.observe (⟨.request r pNotify pContext libs, env⟩, q.2)) (s.settle env q.1 q.2) := by
  intro q
  have hsame : q = (s.ctx, []) →
      Phase (w.observe (⟨.request r pNotify pContext libs, env⟩, q.2)) (s.settle env q.1 q.2) := by
    intro hq
    rw [hq]
    exact h
  rcases issue_cases r pNotify pContext libs s.ctx env with
    ⟨-, heq⟩ | ⟨-, heq⟩ | ⟨cb, ctxt, -, -, -, hidle, hcase⟩
  · exact hsame (congrArg Prod.snd heq)
  · exact hsame (congrArg Prod.snd heq)
  · cases h with
    | dead hbusy | sending hbusy | awaiting hbusy | armed hbusy => exact absurd hidle hbusy
    | rest hctx hs =>
      have hprep := prepare_atRest hctx r libs cb ctxt
      rcases hcase with ⟨st, ctx', hp, heq⟩ | ⟨ctx', hp, heq⟩
      · rw [hp] at hprep
        have hq : q = (ctx', []) := congrArg Prod.snd heq
        rw [hq]
        refine .rest hprep ?_
        rw [hs]
        rfl
      · rw [hp] at hprep
        replace hprep : ctx'.AtRest := hprep
        obtain ⟨hd, hhd⟩ := r.event_handler
        have hq : q = (cmdHandler ctx' r.event env).2 := congrArg Prod.snd heq
        have hrp : s.readPending = none := by rw [hs]; rfl
        have hwp : s.writePending = none := by rw [hs]; rfl
        obtain ⟨c, hbusy, -, htimer, hout | hout⟩ := cmdHandler_cases env hhd hprep.event
          hprep.state (congrArg RspTimerInfo.TimerStatus hprep.timer)
        · rw [← hq] at hout
          cases hqq : q with
          | mk c' acts =>
          rw [hqq] at hout
          cases hout with
          | @sent c₁ hc =>
            refine .sending ?_ ?_ ?_ ?_ ?_
            · rw [Sys.settle_ctx]
              simp [hc.inProgress, hbusy]
            · rw [Sys.settle_ctx]
              simp [hc.timer, htimer]
            · rw [Sys.settle_ctx]
            · simp only [Sys.settle, List.foldl_cons, List.foldl_nil, Sys.perform]
              split <;> exact hrp
            · rw [Sys.settle_ctx]
              rfl
          | @failed c₁ st hc hst =>
            refine .dead ?_ ?_ hwp hrp
            · rw [Sys.settle_ctx]
              simp [hc.inProgress, hbusy]
            · rw [Sys.settle_ctx]
              simp [hc.timer, htimer]
        · rw [hq, hout]
          refine .dead ?_ ?_ hwp hrp
          · rw [Sys.settle_ctx]
            simp [hbusy]
          · rw [Sys.settle_ctx]
            simp [htimer]

/-! ## Runs -/

theorem phase_step {w : Wire} {s s' : Sys} {i : Input} {acts : List Action} (h : Phase w s)
    (hx : w.Exact) (hs : s.step i = some (s', acts)) :
    Phase (w.observe (i, acts)) s' ∧ (w.observe (i, acts)).Exact := by
  have hkeep : i.stim ≠ .timerFired → (w.observe (i, acts)).Exact := by
    intro hne
    rw [Wire.Exact, w.observe_resends acts hne]
    exact hx
  obtain ⟨stim, env⟩ := i
  cases stim with
  | request r pNotify pContext libs =>
    simp only [Sys.step, Option.some.injEq, Prod.mk.injEq] at hs
    obtain ⟨rfl, rfl⟩ := hs
    exact ⟨phase_request h r pNotify pContext libs env, hkeep (by simp)⟩
  | writeDone st =>
    simp only [Sys.step, Option.map_eq_some_iff, Prod.mk.injEq] at hs
    obtain ⟨hd, hpend, rfl, rfl⟩ := hs
    obtain ⟨hph, hno⟩ := phase_writeDone h hpend (Sys.writeInfo s.ctx st) env
    refine ⟨?_, hkeep (by simp)⟩
    rw [Wire.observe_of_no_write w hno]
    exact hph
  | readDone st rsp =>
    simp only [Sys.step] at hs
    split at hs
    · rename_i hlen
      simp only [Option.map_eq_some_iff, Prod.mk.injEq] at hs
      obtain ⟨hd, hpend, rfl, rfl⟩ := hs
      exact ⟨phase_readDone h hpend st hlen env, hkeep (by simp)⟩
    · cases hs
  | timerFired =>
    simp only [Sys.step, Option.map_eq_some_iff, Prod.mk.injEq] at hs
    obtain ⟨cb, hcb, rfl, rfl⟩ := hs
    exact phase_timerFired h hx hcb env

theorem phase_run {img : Option (List UInt8)} {len : Nat} {es : List (Input × List Action)}
    {s : Sys} (h : Run Sys.step (Sys.booted img len) es s) :
    Phase (Wire.ofRun es) s ∧ (Wire.ofRun es).Exact := by
  induction h with
  | nil => exact ⟨.rest ⟨rfl, rfl, rfl, rfl⟩ rfl, by simp [Wire.Exact, Wire.ofRun, Wire.init]⟩
  | snoc _ hs ih =>
    rw [Wire.ofRun, List.foldl_concat]
    exact phase_step ih.1 ih.2 hs

/-- A run repeats its frames byte for byte if and only if every busy answer agrees, as far as it
goes, with the frame it answers. -/
theorem resend_repeats_iff {img : Option (List UInt8)} {len : Nat}
    {es : List (Input × List Action)} {s : Sys} (h : Run Sys.step (Sys.booted img len) es s) :
    (∀ r ∈ (Wire.ofRun es).resends, r.bytes = r.lastSent) ↔
      ∀ r ∈ (Wire.ofRun es).resends, Agrees r.rsp r.lastSent :=
  forall₂_congr (phase_run h).2

/-- A write request, its first frame answered with `rsp`, and the expiry of the resend timer. -/
def busyInputs (rsp : List UInt8) : List Input :=
  [⟨.request (.write false none) (some 1) (some 1) FwLibs.absent, Env.accepting⟩,
    ⟨.writeDone NFCSTATUS.success, Env.accepting⟩,
    ⟨.readDone NFCSTATUS.success rsp, Env.accepting⟩,
    ⟨.timerFired, Env.accepting⟩]

/-- The answer of a busy NFCC to the only frame of an image goes out in place of the frame. -/
theorem resend_sends_answer :
    ∃ es s, Run Sys.step (Sys.booted (some [0x00, 0x04, 0xC0, 0x00, 0x00, 0x21]) 6) es s ∧
      ¬∀ r ∈ (Wire.ofRun es).resends, r.bytes = r.lastSent := by
  have h : (exec Sys.step (Sys.booted (some [0x00, 0x04, 0xC0, 0x00, 0x00, 0x21]) 6)
      (busyInputs [0x00, 0x04, 0x20, 0x00, 0x00, 0x00, 0xB0, 0x58])).map
        (fun r => (Wire.ofRun r.1).resends) =
      some [⟨[0x00, 0x04, 0xC0, 0x00, 0x00, 0x21, 0x00, 0xF1],
        [0x00, 0x04, 0x20, 0x00, 0x00, 0x00, 0xB0, 0x58],
        [0x00, 0x04, 0x20, 0x00, 0x00, 0x00, 0xB0, 0x58]⟩] := by
    decide +kernel
  obtain ⟨⟨es, s⟩, hexec, hres⟩ := Option.map_eq_some_iff.1 h
  refine ⟨es, s, run_of_exec hexec, ?_⟩
  rw [hres]
  decide

/-- A record that reads like the busy answer is repeated. -/
theorem resend_repeats_same :
    ∃ es s, Run Sys.step (Sys.booted (some [0x00, 0x04, 0x20, 0x00, 0x00, 0x00]) 6) es s ∧
      (Wire.ofRun es).resends ≠ [] ∧ ∀ r ∈ (Wire.ofRun es).resends, r.bytes = r.lastSent := by
  have h : (exec Sys.step (Sys.booted (some [0x00, 0x04, 0x20, 0x00, 0x00, 0x00]) 6)
      (busyInputs [0x00, 0x04, 0x20, 0x00, 0x00, 0x00, 0xB0, 0x58])).map
        (fun r => (Wire.ofRun r.1).resends) =
      some [⟨[0x00, 0x04, 0x20, 0x00, 0x00, 0x00, 0xB0, 0x58],
        [0x00, 0x04, 0x20, 0x00, 0x00, 0x00, 0xB0, 0x58],
        [0x00, 0x04, 0x20, 0x00, 0x00, 0x00, 0xB0, 0x58]⟩] := by
    decide +kernel
  obtain ⟨⟨es, s⟩, hexec, hres⟩ := Option.map_eq_some_iff.1 h
  have hrun := run_of_exec hexec
  refine ⟨es, s, hrun, ?_, (resend_repeats_iff hrun).2 ?_⟩
  · rw [hres]
    decide
  · rw [hres]
    decide

end AliceHal.Pn54x.PhDnldNfc
