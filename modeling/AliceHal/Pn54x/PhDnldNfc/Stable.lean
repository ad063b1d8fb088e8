import AliceHal.Pn54x.PhDnldNfc.System

/-!
# Invariants of the Download Handler

Whatever the two state machines do to the context, they do through four kinds of update: they
set control fields (event, progress, state, timer, statuses, resend flag), clear the
segmentation flag at the end of a sequence, build a frame or process a response. A property
that these keep (`Stable`) is kept by every call of the handler, and every frame a call sends
was built in a context with that property, unless it is a resend.

- `Stable`: the four updates, and the response TML stores in the frame buffer
- `Stable.processSeqState`, `Stable.processRWSeqState`, `Stable.expire`: one call
- `Stable.step_callback`: one callback of the system
- `BuiltFrom`: where the frames sent by a call come from
-/

namespace AliceHal.Pn54x.PhDnldNfc

open Lib

/-- A property of contexts that every update of the handler keeps. -/
structure Stable (I : DlContext → Prop) : Prop where
  control : ∀ {ctx : DlContext} (ev : Event) (pr : Transition) (st : State) (ti : RspTimerInfo)
    (ws : NFCSTATUS), I ctx →
    I { ctx with
      tCurrEvent := ev, tDnldInProgress := pr, tCurrState := st, TimerInfo := ti,
      wCmdSendStatus := ws }
  resent : ∀ {ctx : DlContext}, I ctx → I { ctx with bResendLastFrame := false }
  unsegment : ∀ {ctx : DlContext}, I ctx →
    I { ctx with tRWInfo := { ctx.tRWInfo with bFramesSegmented := false } }
  build : ∀ {ctx : DlContext}, I ctx → I (buildFramePkt ctx).2
  process : ∀ {ctx : DlContext} (pInfo : Option TransactInfo), I ctx → I (processFrame ctx pInfo).2
  receive : ∀ {ctx : DlContext} (rsp : List UInt8), I ctx → I (Sys.receive ctx rsp)

/-- The frames among `acts` were built, without an error, in a context with property `I`. -/
def BuiltFrom (I : DlContext → Prop) (acts : List Action) : Prop :=
  ∀ bytes h, Action.tmlWrite bytes h ∈ acts →
    ∃ c, I c ∧ (buildFramePkt c).1 = NFCSTATUS.success ∧ bytes = frameBytes (buildFramePkt c).2

namespace BuiltFrom

variable {I : DlContext → Prop} {acts acts' : List Action}

theorem of_no_write (h : ∀ bytes hd, Action.tmlWrite bytes hd ∉ acts) : BuiltFrom I acts :=
  fun bytes hd hmem => absurd hmem (h bytes hd)

theorem append (h : BuiltFrom I acts) (h' : BuiltFrom I acts') : BuiltFrom I (acts ++ acts') := by
  intro bytes hd hmem
  rcases List.mem_append.1 hmem with hmem | hmem
  · exact h bytes hd hmem
  · exact h' bytes hd hmem

end BuiltFrom

theorem notifyUser_no_write (ctx : DlContext) (wStatus : NFCSTATUS) (bytes : List UInt8)
    (hd : Handler) : Action.tmlWrite bytes hd ∉ notifyUser ctx wStatus := by
  unfold notifyUser
  split <;> simp

/-- A resend hands over the frame buffer as it is. -/
theorem resendTimeOutCb_eq (ctx : DlContext) (env : Env) :
    resendTimeOutCb ctx env =
      if ctx.TimerInfo.TimerStatus = 1 then
        ({ ctx with
            TimerInfo := { ctx.TimerInfo with TimerStatus := 0, wTimerExpStatus := NFCSTATUS.success },
            tCurrState := .recv, bResendLastFrame := false, wCmdSendStatus := env.tmlWrite },
          [.tmlWrite (frameBytes ctx) .processRWSeqState])
      else (ctx, []) := by
  unfold resendTimeOutCb
  split <;> rfl

/-- The calls made do not touch the context. -/
@[simp]
theorem Sys.settle_ctx (s : Sys) (env : Env) (ctx : DlContext) (acts : List Action) :
    (s.settle env ctx acts).ctx = ctx := by
  have hperform : ∀ (acts : List Action) (t : Sys), (acts.foldl (Sys.perform env) t).ctx = t.ctx := by
    intro acts
    induction acts with
    | nil => intro t; rfl
    | cons a acts ih =>
      intro t
      rw [List.foldl_cons, ih]
      cases a <;> simp only [Sys.perform] <;> split <;> rfl
  exact hperform acts _

/-- What a call of the handler guarantees: the property still holds and the frames it sent were
built under it. -/
structure Outcome (I : DlContext → Prop) (r : DlContext × List Action) : Prop where
  keeps : I r.1
  built : BuiltFrom I r.2

namespace Stable

variable {I : DlContext → Prop} {ctx : DlContext} {pInfo : Option TransactInfo} {env : Env}

/-! ## Steps shared by the two machines -/

theorem resetHandler (hI : Stable I) (h : I ctx) : I (resetHandler ctx) :=
  hI.control .invalid .idle .init ⟨0, 0, NFCSTATUS.success⟩ ctx.wCmdSendStatus h

theorem stopTimer (hI : Stable I) (h : I ctx) : Outcome I (stopTimer ctx) where
  keeps := hI.control ctx.tCurrEvent ctx.tDnldInProgress .response _ ctx.wCmdSendStatus h
  built := by
    apply BuiltFrom.of_no_write
    intro bytes hd
    unfold PhDnldNfc.stopTimer
    split <;> simp

theorem awaitResponse (hI : Stable I) (cb : Handler) (h : I ctx) :
    Outcome I (awaitResponse cb ctx env) where
  keeps := hI.control ctx.tCurrEvent ctx.tDnldInProgress _ _ env.tmlRead h
  built := BuiltFrom.of_no_write (by simp [PhDnldNfc.awaitResponse])

/-- The frame that was just built is the frame that is sent. -/
theorem sendFrame (hI : Stable I) (cb : Handler) (h : I ctx)
    (hok : (buildFramePkt ctx).1 = NFCSTATUS.success) :
    Outcome I (sendFrame cb (buildFramePkt ctx).2) where
  keeps := hI.control _ _ .recv _ _ (hI.build h)
  built := by
    intro bytes hd hmem
    simp only [PhDnldNfc.sendFrame, List.mem_singleton, Action.tmlWrite.injEq] at hmem
    exact ⟨ctx, h, hok, hmem.1⟩

/-- The calls that end a sequence send nothing. -/
theorem finish (hI : Stable I) (h : I ctx) (wStatus : NFCSTATUS) (acts : List Action)
    (hacts : BuiltFrom I acts) :
    Outcome I (PhDnldNfc.resetHandler ctx, acts ++ [.readAbort, .timerDelete] ++ notifyUser ctx wStatus) where
  keeps := hI.resetHandler h
  built := by
    refine (hacts.append (BuiltFrom.of_no_write ?_)).append (BuiltFrom.of_no_write ?_)
    · simp
    · exact notifyUser_no_write ctx wStatus

/-! ## Normal sequence -/

theorem seqStateResponse (hI : Stable I) (h : I ctx) : Outcome I (seqStateResponse ctx pInfo) := by
  unfold PhDnldNfc.seqStateResponse
  split
  rename_i wStatus ctx' heq
  have h' : I ctx' := by
    split at heq
    · have hp := hI.process pInfo h
      rw [heq] at hp
      exact hp
    · obtain ⟨-, rfl⟩ := Prod.mk.inj heq
      exact h
  simpa using hI.finish h' wStatus [] (BuiltFrom.of_no_write (by simp))

theorem seqStateTimer (hI : Stable I) (h : I ctx) : Outcome I (seqStateTimer ctx pInfo) := by
  have hstop := hI.stopTimer h
  have hresp : Outcome I (PhDnldNfc.seqStateResponse (PhDnldNfc.stopTimer ctx).1 pInfo) :=
    hI.seqStateResponse hstop.keeps
  exact ⟨hresp.keeps, hstop.built.append hresp.built⟩

theorem seqStateRecv (hI : Stable I) (h : I ctx) : Outcome I (seqStateRecv ctx pInfo env) := by
  unfold PhDnldNfc.seqStateRecv
  split
  · exact hI.awaitResponse _ h
  · exact hI.seqStateTimer (hI.control _ _ _ _ _ h)

theorem seqStateSend (hI : Stable I) (h : I ctx) : Outcome I (seqStateSend ctx env) := by
  unfold PhDnldNfc.seqStateSend
  split
  rename_i wStatus ctx' heq
  have hb := hI.build h
  have hsend := hI.sendFrame .processSeqState h
  rw [heq] at hb hsend
  split
  · rename_i hok
    exact ⟨hI.control _ _ _ _ env.tmlWrite (hsend hok).keeps, (hsend hok).built⟩
  · exact ⟨hI.control _ _ _ _ wStatus hb, BuiltFrom.of_no_write (by simp)⟩

theorem seqStateInit (hI : Stable I) (h : I ctx) : Outcome I (seqStateInit ctx env) := by
  unfold PhDnldNfc.seqStateInit
  split
  · split
    · exact ⟨hI.control _ _ _ _ _ h, BuiltFrom.of_no_write (by simp)⟩
    · exact hI.seqStateSend (hI.control _ _ _ _ _ h)
  · exact hI.seqStateSend (hI.control _ _ _ _ _ h)

theorem processSeqState (hI : Stable I) (h : I ctx) : Outcome I (processSeqState ctx pInfo env) := by
  unfold PhDnldNfc.processSeqState
  split
  · exact hI.seqStateInit h
  · exact hI.seqStateSend h
  · exact hI.seqStateRecv h
  · exact hI.seqStateTimer h
  · exact hI.seqStateResponse h
  all_goals exact ⟨hI.control _ _ _ _ _ h, BuiltFrom.of_no_write (by simp)⟩

/-! ## Read/write sequence -/

theorem rwResponseStatus (hI : Stable I) (h : I ctx) :
    Outcome I (rwResponseStatus ctx pInfo env).2 := by
  have hp := hI.process pInfo h
  unfold PhDnldNfc.rwResponseStatus
  split
  · split
    rename_i wStatus ctx' heq
    rw [heq] at hp
    split
    · exact ⟨hI.control _ _ _ _ _ hp, BuiltFrom.of_no_write (by simp [setupResendTimer])⟩
    · exact ⟨hp, BuiltFrom.of_no_write (by simp)⟩
  · exact ⟨hI.control _ _ _ _ _ h, BuiltFrom.of_no_write (by simp)⟩

theorem rwStateResponse (hI : Stable I) (h : I ctx) :
    Outcome I (rwStateResponse ctx pInfo env) := by
  have hr : Outcome I (PhDnldNfc.rwResponseStatus ctx pInfo env).2 := hI.rwResponseStatus h
  unfold PhDnldNfc.rwStateResponse
  split
  rename_i wStatus ctx' acts heq
  rw [heq] at hr
  have hb := hI.build hr.keeps
  have habort : BuiltFrom I (acts ++ [Action.readAbort]) :=
    hr.built.append (BuiltFrom.of_no_write (by simp))
  split
  · split
    rename_i wStatus' ctx'' heq'
    have hsend := hI.sendFrame .processRWSeqState hr.keeps
    rw [heq'] at hb hsend
    split
    · rename_i hok
      exact ⟨(hsend hok).keeps, habort.append (hsend hok).built⟩
    · exact ⟨hb, habort⟩
  · split
    · exact hr
    · exact hI.finish (hI.resent (hI.unsegment hr.keeps)) wStatus acts hr.built

theorem rwStateTimer (hI : Stable I) (h : I ctx) : Outcome I (rwStateTimer ctx pInfo env) := by
  have hstop := hI.stopTimer h
  have hresp : Outcome I (PhDnldNfc.rwStateResponse (PhDnldNfc.stopTimer ctx).1 pInfo env) :=
    hI.rwStateResponse hstop.keeps
  rw [rwStateTimer_eq]
  exact ⟨hresp.keeps, hstop.built.append hresp.built⟩

theorem rwStateRecv (hI : Stable I) (h : I ctx) : Outcome I (rwStateRecv ctx pInfo env) := by
  unfold PhDnldNfc.rwStateRecv
  split
  · exact hI.awaitResponse _ h
  · exact hI.rwStateTimer (hI.control _ _ _ _ _ h)

theorem rwStateSend (hI : Stable I) (h : I ctx) (hre : ctx.bResendLastFrame = false)
    (wStatus : NFCSTATUS) : Outcome I (rwStateSend wStatus ctx env) := by
  unfold PhDnldNfc.rwStateSend
  rw [if_pos hre]
  split
  rename_i wStatus' ctx' heq
  have hb := hI.build h
  have hsend := hI.sendFrame .processRWSeqState h
  rw [heq] at hb hsend
  split
  · rename_i hok
    exact ⟨hI.control _ _ _ _ env.tmlWrite (hsend hok).keeps, (hsend hok).built⟩
  · exact ⟨hI.control _ _ _ _ wStatus' hb, BuiltFrom.of_no_write (by simp)⟩

theorem rwStateInit (hI : Stable I) (h : I ctx) (hre : ctx.bResendLastFrame = false) :
    Outcome I (rwStateInit ctx env) := by
  unfold PhDnldNfc.rwStateInit
  split
  · split
    · exact hI.rwStateSend (hI.control _ _ .send _ _ h) hre _
    · exact hI.rwStateSend (hI.control _ _ .send _ _ h) hre _
  · exact hI.rwStateSend (hI.control _ _ .send _ _ h) hre _

theorem processRWSeqState (hI : Stable I) (h : I ctx) (hre : ctx.bResendLastFrame = false) :
    Outcome I (processRWSeqState ctx pInfo env) := by
  unfold PhDnldNfc.processRWSeqState
  split
  · exact hI.rwStateInit h hre
  · exact hI.rwStateSend h hre _
  · exact hI.rwStateRecv h
  · exact hI.rwStateTimer h
  · exact hI.rwStateResponse h
  all_goals exact ⟨hI.control _ _ _ _ _ h, BuiltFrom.of_no_write (by simp)⟩

/-! ## Timer callbacks and commands -/

theorem rspTimeOutCb (hI : Stable I) (h : I ctx) (hre : ctx.bResendLastFrame = false) :
    I (rspTimeOutCb ctx env).1 := by
  unfold PhDnldNfc.rspTimeOutCb
  split
  · have hset := hI.control ctx.tCurrEvent ctx.tDnldInProgress ctx.tCurrState
      { ctx.TimerInfo with TimerStatus := 0, wTimerExpStatus := NFCSTATUS.rfTimeout }
      ctx.wCmdSendStatus h
    dsimp only
    split
    · exact (hI.processRWSeqState hset hre).keeps
    · exact (hI.processSeqState hset).keeps
  · exact h

theorem resendTimeOutCb (hI : Stable I) (h : I ctx) : I (resendTimeOutCb ctx env).1 := by
  rw [resendTimeOutCb_eq]
  split
  · exact hI.control _ _ .recv _ env.tmlWrite (hI.resent h)
  · exact h

theorem cmdHandler (hI : Stable I) (h : I ctx) (hre : ctx.bResendLastFrame = false)
    (ev : Event) : Outcome I (cmdHandler ctx ev env).2 := by
  have hnone : BuiltFrom I [] := BuiltFrom.of_no_write (by simp)
  have hset := hI.control ev .busy ctx.tCurrState ctx.TimerInfo ctx.wCmdSendStatus h
  unfold PhDnldNfc.cmdHandler
  split
  · exact ⟨h, hnone⟩
  · split
    · split
      · exact hI.processSeqState hset
      · exact hI.processRWSeqState hset hre
    · exact ⟨h, hnone⟩

/-! ## Calls into the system -/

/-- A callback keeps the property, and unless it is the timer the frames it sends were built. -/
theorem step_callback (hI : Stable I) (hre : ∀ c, I c → c.bResendLastFrame = false)
    {s s' : Sys} {i : Input} {acts : List Action} (hcb : i.stim.isCallback) (h : I s.ctx)
    (hs : s.step i = some (s', acts)) :
    I s'.ctx ∧ (i.stim ≠ .timerFired → BuiltFrom I acts) := by
  have hcomplete : ∀ hd info {c}, I c → Outcome I (Sys.complete hd c info i.env) := by
    intro hd info c hc
    cases hd with
    | processSeqState => exact hI.processSeqState hc
    | processRWSeqState => exact hI.processRWSeqState hc (hre c hc)
  obtain ⟨stim, env⟩ := i
  cases stim with
  | request => exact absurd hcb id
  | writeDone st =>
    simp only [Sys.step, Option.map_eq_some_iff, Prod.mk.injEq] at hs
    obtain ⟨hd, -, rfl, rfl⟩ := hs
    have ho := hcomplete hd (Sys.writeInfo s.ctx st) h
    exact ⟨by rw [Sys.settle_ctx]; exact ho.keeps, fun _ => ho.built⟩
  | readDone st rsp =>
    simp only [Sys.step] at hs
    split at hs
    · simp only [Option.map_eq_some_iff, Prod.mk.injEq] at hs
      obtain ⟨hd, -, rfl, rfl⟩ := hs
      have ho := hcomplete hd (Sys.readInfo (Sys.receive s.ctx rsp) st rsp.length)
        (hI.receive rsp h)
      exact ⟨by rw [Sys.settle_ctx]; exact ho.keeps, fun _ => ho.built⟩
    · cases hs
  | timerFired =>
    simp only [Sys.step, Option.map_eq_some_iff, Prod.mk.injEq] at hs
    obtain ⟨cb, -, rfl, rfl⟩ := hs
    refine ⟨?_, fun hne => absurd rfl hne⟩
    rw [Sys.settle_ctx]
    cases cb with
    | rspTimeOutCb => exact hI.rspTimeOutCb h (hre _ h)
    | resendTimeOutCb => exact hI.resendTimeOutCb h

end Stable

end AliceHal.Pn54x.PhDnldNfc
