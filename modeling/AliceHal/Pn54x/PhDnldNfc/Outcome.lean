import AliceHal.Pn54x.PhDnldNfc.Stable

/-!
# What a Callback Can Do

Inversion of the calls TML and the timer make into the state machines, from the states in which
they can come:

- a completed write leads to the wait for the response, or ends the sequence;
- a response or a timeout of the normal sequence ends it;
- a response of the read/write sequence ends it, sends the next frame, starts the resend timer,
  or stalls on a frame that cannot be built.

`Finishes` is the common end of all sequences, `RwOutcome` lists the cases of the read/write
sequence.
-/

namespace AliceHal.Pn54x.PhDnldNfc

open Lib

/-- Calls that concern the timer only. -/
def Action.isTimer : Action → Prop
  | .timerStart _ _ | .timerStop | .timerDelete => True
  | _ => False

/-- Calls that leave nothing with the layers below. -/
def Action.isInert : Action → Prop
  | .timerStop | .ioctl _ | .userCb _ _ _ _ => True
  | _ => False

/-- The end of a sequence: the handler idle, read and timer released, the user told. -/
def Finishes (r : DlContext × List Action) : Prop :=
  ∃ c wStatus pre, (∀ a ∈ pre, Action.isTimer a) ∧
    r = (resetHandler c, pre ++ [.readAbort, .timerDelete] ++ notifyUser c wStatus)

theorem stopTimer_isTimer (ctx : DlContext) : ∀ a ∈ (stopTimer ctx).2, Action.isTimer a := by
  unfold stopTimer
  split <;> simp [Action.isTimer]

theorem Finishes.prepend {ctx : DlContext} {acts pre : List Action} (h : Finishes (ctx, acts))
    (hpre : ∀ a ∈ pre, Action.isTimer a) : Finishes (ctx, pre ++ acts) := by
  obtain ⟨c, wStatus, pre', hpre', heq⟩ := h
  obtain ⟨rfl, rfl⟩ := Prod.mk.inj heq
  refine ⟨c, wStatus, pre ++ pre', ?_, by simp⟩
  intro a ha
  rcases List.mem_append.1 ha with ha | ha
  · exact hpre a ha
  · exact hpre' a ha

/-! ## What is left with the layers below -/

theorem sentFrames_append (acts acts' : List Action) :
    sentFrames (acts ++ acts') = sentFrames acts ++ sentFrames acts' :=
  List.filterMap_append

theorem sentFrames_eq_nil {acts : List Action} (h : ∀ bytes hd, Action.tmlWrite bytes hd ∉ acts) :
    sentFrames acts = [] := by
  rw [sentFrames, List.filterMap_eq_nil_iff]
  intro a ha
  cases a with
  | tmlWrite bytes hd => exact absurd ha (h bytes hd)
  | _ => rfl

/-- Timer calls leave pending reads and writes alone. -/
theorem foldl_perform_timer (env : Env) {pre : List Action} (hpre : ∀ a ∈ pre, Action.isTimer a)
    (s : Sys) : (pre.foldl (Sys.perform env) s).writePending = s.writePending := by
  induction pre generalizing s with
  | nil => rfl
  | cons a pre ih =>
    rw [List.foldl_cons, ih (fun b hb => hpre b (List.mem_cons_of_mem _ hb))]
    have ha := hpre a List.mem_cons_self
    cases a <;> simp only [Action.isTimer] at ha <;> simp only [Sys.perform]
    split <;> rfl

theorem foldl_perform_inert {env : Env} {pre : List Action} (hpre : ∀ a ∈ pre, Action.isInert a)
    (s : Sys) : pre.foldl (Sys.perform env) s = s := by
  induction pre generalizing s with
  | nil => rfl
  | cons a pre ih =>
    have ha := hpre a List.mem_cons_self
    rw [List.foldl_cons, ih (fun b hb => hpre b (List.mem_cons_of_mem _ hb))]
    cases a <;> simp only [Action.isInert] at ha <;> rfl

theorem settle_append_inert {env : Env} {pre acts : List Action}
    (hpre : ∀ a ∈ pre, Action.isInert a) (s : Sys) (ctx : DlContext) :
    s.settle env ctx (pre ++ acts) = s.settle env ctx acts := by
  rw [Sys.settle, List.foldl_append, foldl_perform_inert hpre]
  rfl

theorem sentFrames_inert {pre : List Action} (hpre : ∀ a ∈ pre, Action.isInert a) :
    sentFrames pre = [] :=
  sentFrames_eq_nil fun _ _ hmem => hpre _ hmem

theorem notifyUser_inert (ctx : DlContext) (st : NFCSTATUS) :
    ∀ a ∈ notifyUser ctx st, Action.isInert a := by
  unfold notifyUser
  split <;> simp [Action.isInert]

/-- A sequence that ends leaves the component at rest and sends nothing. -/
theorem Finishes.settles {r : DlContext × List Action} (h : Finishes r) {s : Sys} (env : Env)
    (hw : s.writePending = none) :
    s.settle env r.1 r.2 = Sys.rest r.1 ∧ r.1.AtRest ∧ sentFrames r.2 = [] := by
  obtain ⟨c, st, pre, hpre, rfl⟩ := h
  refine ⟨?_, ⟨rfl, rfl, rfl, rfl⟩, ?_⟩
  · have hctx := Sys.settle_ctx s env (resetHandler c)
      (pre ++ [.readAbort, .timerDelete] ++ notifyUser c st)
    have hpend := foldl_perform_timer env hpre { s with ctx := resetHandler c }
    simp only [Sys.settle, List.foldl_append, List.foldl_cons, List.foldl_nil, Sys.perform,
      foldl_perform_inert (notifyUser_inert c st)] at hctx ⊢
    rw [Sys.rest, hctx, hpend, hw]
  · apply sentFrames_eq_nil
    intro bytes hd hmem
    rcases List.mem_append.1 hmem with hmem | hmem
    · rcases List.mem_append.1 hmem with hmem | hmem
      · exact hpre _ hmem
      · simp at hmem
    · exact notifyUser_no_write _ _ _ _ hmem

/-! ## Normal sequence -/

theorem seqStateResponse_finishes (ctx : DlContext) (pInfo : Option TransactInfo) :
    Finishes (seqStateResponse ctx pInfo) :=
  ⟨_, _, [], by simp, rfl⟩

theorem seqStateTimer_finishes (ctx : DlContext) (pInfo : Option TransactInfo) :
    Finishes (seqStateTimer ctx pInfo) :=
  (seqStateResponse_finishes _ _).prepend (stopTimer_isTimer ctx)

theorem seqStateRecv_cases (ctx : DlContext) (pInfo : Option TransactInfo) (env : Env) :
    seqStateRecv ctx pInfo env = awaitResponse .processSeqState ctx env ∨
      Finishes (seqStateRecv ctx pInfo env) := by
  unfold seqStateRecv
  split
  · exact .inl rfl
  · exact .inr (seqStateTimer_finishes _ _)

/-! ## Read/write sequence -/

/-- The outcomes of a response of the read/write sequence. -/
inductive RwOutcome (ctx : DlContext) (pInfo : Option TransactInfo) (env : Env)
    (r : DlContext × List Action) : Prop where
  | finish (h : Finishes r)
  | next (h : (buildFramePkt (processFrame ctx pInfo).2).1 = NFCSTATUS.success)
      (heq : r = (({ (buildFramePkt (processFrame ctx pInfo).2).2 with tCurrState := .recv }),
        [.readAbort,
          .tmlWrite (frameBytes (buildFramePkt (processFrame ctx pInfo).2).2) .processRWSeqState]))
  | stall (heq : r = ((buildFramePkt (processFrame ctx pInfo).2).2, [.readAbort]))
  | wait (heq : r = (setupResendTimer (processFrame ctx pInfo).2 env).2)

theorem rwStateResponse_finishes {ctx c : DlContext} {pInfo : Option TransactInfo} {env : Env}
    {wStatus : NFCSTATUS} {acts : List Action}
    (h : rwResponseStatus ctx pInfo env = (wStatus, c, acts))
    (hnext : ¬(c.tRWInfo.wRemBytes ≠ 0 ∧ wStatus = NFCSTATUS.success))
    (hbusy : wStatus ≠ NFCSTATUS.busy) (hacts : ∀ a ∈ acts, Action.isTimer a) :
    Finishes (rwStateResponse ctx pInfo env) := by
  refine ⟨{ c with
    tRWInfo := { c.tRWInfo with bFramesSegmented := false }, bResendLastFrame := false },
    wStatus, acts, hacts, ?_⟩
  simp only [rwStateResponse, h, if_neg hnext, if_neg hbusy]

/-- A sequence that has timed out reports the timeout. -/
theorem rwStateResponse_timeout (ctx : DlContext) (pInfo : Option TransactInfo) (env : Env)
    (hexp : ctx.TimerInfo.wTimerExpStatus = NFCSTATUS.rfTimeout) :
    Finishes (rwStateResponse ctx pInfo env) := by
  have hstatus : rwResponseStatus ctx pInfo env = (NFCSTATUS.rfTimeout,
      { ctx with TimerInfo := { ctx.TimerInfo with wTimerExpStatus := NFCSTATUS.success } }, []) := by
    simp [rwResponseStatus, hexp]
  exact rwStateResponse_finishes hstatus (fun h => absurd h.2 (by decide)) (by decide) (by simp)

theorem rwStateResponse_cases (ctx : DlContext) (pInfo : Option TransactInfo) (env : Env) :
    RwOutcome ctx pInfo env (rwStateResponse ctx pInfo env) := by
  by_cases hexp : ctx.TimerInfo.wTimerExpStatus = NFCSTATUS.rfTimeout
  · exact .finish (rwStateResponse_timeout ctx pInfo env hexp)
  rcases hp : processFrame ctx pInfo with ⟨wStatus, ctx'⟩
  by_cases hbusy : wStatus = NFCSTATUS.busy
  · have hstatus : rwResponseStatus ctx pInfo env =
        (if env.timerStart = NFCSTATUS.success then NFCSTATUS.busy else env.timerStart,
          (setupResendTimer ctx' env).2) := by
      simp [rwResponseStatus, hexp, hp, hbusy, setupResendTimer]
    have hne : (if env.timerStart = NFCSTATUS.success then NFCSTATUS.busy else env.timerStart) ≠
        NFCSTATUS.success := by
      split
      · decide
      · assumption
    by_cases hwait : (if env.timerStart = NFCSTATUS.success then NFCSTATUS.busy
        else env.timerStart) = NFCSTATUS.busy
    · refine .wait ?_
      simp only [rwStateResponse, hstatus, hp]
      rw [if_neg (fun h => hne h.2), if_pos hwait]
    · exact .finish (rwStateResponse_finishes hstatus (fun h => hne h.2) hwait
        (by simp [Action.isTimer]))
  · have hstatus : rwResponseStatus ctx pInfo env = (wStatus, ctx', []) := by
      simp [rwResponseStatus, hexp, hp, hbusy]
    by_cases hnext : ctx'.tRWInfo.wRemBytes ≠ 0 ∧ wStatus = NFCSTATUS.success
    · rcases hb : buildFramePkt ctx' with ⟨bStatus, ctx''⟩
      by_cases hok : bStatus = NFCSTATUS.success
      · refine .next (by rw [hp, hb]; exact hok) ?_
        simp [rwStateResponse, hstatus, hnext, hb, hok, hp, sendFrame]
      · refine .stall ?_
        simp [rwStateResponse, hstatus, hnext, hb, hok, hp]
    · exact .finish (rwStateResponse_finishes hstatus hnext hbusy (by simp))

/-- A sequence that has timed out ends in the timer state too. -/
theorem rwStateTimer_timeout {ctx : DlContext} (pInfo : Option TransactInfo) (env : Env)
    (hexp : ctx.TimerInfo.wTimerExpStatus = NFCSTATUS.rfTimeout) :
    Finishes (rwStateTimer ctx pInfo env) := by
  have hresponse := rwStateResponse_timeout (stopTimer ctx).1 pInfo env hexp
  rw [rwStateTimer_eq]
  exact hresponse.prepend (stopTimer_isTimer ctx)

theorem rwStateRecv_cases (ctx : DlContext) (pInfo : Option TransactInfo) (env : Env) :
    rwStateRecv ctx pInfo env = awaitResponse .processRWSeqState ctx env ∨
      Finishes (rwStateRecv ctx pInfo env) := by
  unfold rwStateRecv
  split
  · exact .inl rfl
  · exact .inr (rwStateTimer_timeout pInfo env rfl)

/-! ## Callbacks from the states they come in -/

/-- A completed write leads to the wait for the response or ends the sequence. -/
theorem complete_write (hd : Handler) {ctx : DlContext} (info : TransactInfo) (env : Env)
    (hst : ctx.tCurrState = .recv) :
    Sys.complete hd ctx info env = awaitResponse hd ctx env ∨
      Finishes (Sys.complete hd ctx info env) := by
  cases hd with
  | processSeqState =>
    simp only [Sys.complete, processSeqState, hst]
    exact seqStateRecv_cases ctx _ env
  | processRWSeqState =>
    simp only [Sys.complete, processRWSeqState, hst]
    exact rwStateRecv_cases ctx _ env

/-- A completed read ends the sequence or has one of the outcomes of the read/write sequence,
with the timer stopped first if it was running. -/
theorem complete_read (hd : Handler) (ctx : DlContext) (info : TransactInfo) (env : Env)
    (hst : ctx.tCurrState = .timer ∨ ctx.tCurrState = .response) :
    Finishes (Sys.complete hd ctx info env) ∨
      ∃ r pre c, Sys.complete hd ctx info env = (r.1, pre ++ r.2) ∧
        (∀ a ∈ pre, Action.isInert a) ∧
        (c = ctx ∧ ctx.tCurrState = .response ∨ c = (stopTimer ctx).1) ∧
        RwOutcome c (some info) env r := by
  cases hd with
  | processSeqState =>
    left
    rcases hst with hst | hst
    · simp only [Sys.complete, processSeqState, hst]
      exact seqStateTimer_finishes _ _
    · simp only [Sys.complete, processSeqState, hst]
      exact seqStateResponse_finishes _ _
  | processRWSeqState =>
    right
    rcases hst with hst | hst
    · simp only [Sys.complete, processRWSeqState, hst]
      refine ⟨_, (stopTimer ctx).2, _, rfl, ?_, .inr rfl, rwStateResponse_cases _ _ _⟩
      unfold stopTimer
      split <;> simp [Action.isInert]
    · simp only [Sys.complete, processRWSeqState, hst]
      exact ⟨_, [], _, rfl, by simp, .inl ⟨rfl, trivial⟩, rwStateResponse_cases _ _ _⟩

/-- An expired response timer ends the sequence, after a reset of the chip where one is due. -/
theorem rspTimeOutCb_finishes {ctx : DlContext} (env : Env) (hrun : ctx.TimerInfo.TimerStatus = 1)
    (hst : ctx.tCurrState = .timer) :
    ∃ r pre, rspTimeOutCb ctx env = (r.1, pre ++ r.2) ∧
      (∀ a ∈ pre, Action.isInert a) ∧ Finishes r := by
  have hreset : ∀ a ∈ (if ctx.tLastStatus = PhDlStatus.signatureError then
      [Action.ioctl .enableNormalMode, .ioctl .enableDownloadMode] else []),
      Action.isInert a := by
    split <;> simp [Action.isInert]
  unfold rspTimeOutCb
  rw [if_pos hrun]
  dsimp only
  split
  · refine ⟨_, _, rfl, hreset, ?_⟩
    simp only [processRWSeqState, hst]
    exact rwStateTimer_timeout _ _ rfl
  · refine ⟨_, _, rfl, hreset, ?_⟩
    simp only [processSeqState, hst]
    exact seqStateTimer_finishes _ _

/-! ## Requests -/

/-- Two contexts with the same progress, event, state and timer. -/
structure SameControl (c ctx : DlContext) : Prop where
  inProgress : c.tDnldInProgress = ctx.tDnldInProgress
  event : c.tCurrEvent = ctx.tCurrEvent
  state : c.tCurrState = ctx.tCurrState
  timer : c.TimerInfo = ctx.TimerInfo

theorem buildFramePkt_sameControl (ctx : DlContext) : SameControl (buildFramePkt ctx).2 ctx := by
  obtain ⟨rw, fi, h⟩ := buildFramePkt_frame ctx
  rw [h]
  exact ⟨rfl, rfl, rfl, rfl⟩

theorem processFrame_sameControl (ctx : DlContext) (pInfo : Option TransactInfo) :
    SameControl (processFrame ctx pInfo).2 ctx := by
  obtain ⟨rb, rw, ls, h, -⟩ := processFrame_frame ctx pInfo
  rw [h]
  exact ⟨rfl, rfl, rfl, rfl⟩

/-- What the send state of either machine does: hand the frame buffer to TML or keep an error. -/
inductive SendOutcome (hd : Handler) (ctx : DlContext) (env : Env) :
    DlContext × List Action → Prop where
  | sent {c : DlContext} (h : SameControl c ctx) :
      SendOutcome hd ctx env ({ c with tCurrState := .recv, wCmdSendStatus := env.tmlWrite },
        [.tmlWrite (frameBytes c) hd])
  | failed {c : DlContext} {st : NFCSTATUS} (h : SameControl c ctx) (hst : st ≠ NFCSTATUS.success) :
      SendOutcome hd ctx env ({ c with wCmdSendStatus := st }, [])

theorem seqStateSend_cases (ctx : DlContext) (env : Env) :
    SendOutcome .processSeqState ctx env (seqStateSend ctx env) := by
  have hb := buildFramePkt_sameControl ctx
  simp only [seqStateSend, sendFrame]
  split
  · exact .sent hb
  · rename_i hne
    exact .failed hb hne

theorem rwStateSend_cases (wStatus : NFCSTATUS) (ctx : DlContext) (env : Env) :
    SendOutcome .processRWSeqState ctx env (rwStateSend wStatus ctx env) := by
  have hb := buildFramePkt_sameControl ctx
  have hre : SameControl { ctx with bResendLastFrame := false } ctx := ⟨rfl, rfl, rfl, rfl⟩
  simp only [rwStateSend, sendFrame]
  split
  · split
    · exact .sent hb
    · rename_i hne
      exact .failed hb hne
  · split
    · exact .sent hre
    · rename_i hne
      exact .failed hre hne

/-- A command from a handler in its initial state reaches the send state of its machine, or, in
the normal sequence only, stops without a timer. -/
theorem cmdHandler_cases {ctx : DlContext} {ev : Event} {hd : Handler} (env : Env)
    (hev : ev.handler = some hd) (hinv : ctx.tCurrEvent = .invalid)
    (hst : ctx.tCurrState = .init) (htimer : ctx.TimerInfo.TimerStatus = 0) :
    ∃ c : DlContext, c.tDnldInProgress = .busy ∧ c.tCurrEvent = ev ∧ c.TimerInfo.TimerStatus = 0 ∧
      (SendOutcome hd c env (cmdHandler ctx ev env).2 ∨
        (cmdHandler ctx ev env).2 =
          ({ c with wCmdSendStatus := NFCSTATUS.insufficientResources }, [])) := by
  simp only [cmdHandler, hev, hinv, if_true]
  cases hd with
  | processSeqState =>
    simp only [processSeqState, hst, seqStateInit]
    split
    · split
      · exact ⟨{ ctx with tCurrEvent := ev, tDnldInProgress := .busy }, rfl, rfl, htimer, .inr (by rw [hst])⟩
      · refine ⟨_, ?_, ?_, ?_, .inl (seqStateSend_cases _ _)⟩ <;> rfl
    · refine ⟨_, ?_, ?_, ?_, .inl (seqStateSend_cases _ _)⟩
      · rfl
      · rfl
      · exact htimer
  | processRWSeqState =>
    simp only [processRWSeqState, hst, rwStateInit]
    split
    · split
      · refine ⟨_, ?_, ?_, ?_, .inl (rwStateSend_cases _ _ _)⟩
        · rfl
        · rfl
        · exact htimer
      · refine ⟨_, ?_, ?_, ?_, .inl (rwStateSend_cases _ _ _)⟩ <;> rfl
    · refine ⟨_, ?_, ?_, ?_, .inl (rwStateSend_cases _ _ _)⟩
      · rfl
      · rfl
      · exact htimer

end AliceHal.Pn54x.PhDnldNfc
