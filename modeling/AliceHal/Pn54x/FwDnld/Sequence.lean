import AliceHal.Pn54x.FwDnld.Context

/-!
# Firmware Download Sequences

The functions of `phNxpNciHal_Dnld.c` that make the requests, the sequences they form, and the
completion handler that runs the log, recovery and retried download sequences.

A function takes the state and returns its status with the state after it. The kind of sequence
it runs in only labels what it emits. `phTmlNfc_ReadAbort`, called first by the sequence handler,
always succeeds.

- `makeRequest`: what the request functions share
- `fwSeqHandler`: a sequence runs until a function fails
- `completeLevel`: one level of `phNxpNciHal_fw_dnld_complete`
- `fwDnldComplete`, `fwDownloadSeq`: the recursion, with fuel for the levels
-/

namespace AliceHal.Pn54x.FwDnld

namespace HalState

def emit (s : HalState) (e : Event) : HalState := { s with trace := s.trace ++ [e] }

/-- The state after a request with the given outcome, which left the context `ctx`. -/
def after (s : HalState) (k : SeqKind) (cmd : DnldCmd) (out : CmdOutcome) (ctx : FwIoctlCtx) :
    HalState :=
  { s with
    ctx := ctx, nCmd := s.nCmd + 1, trace := s.trace ++ [.request k s.ctx cmd out] }

@[simp]
theorem emit_ctx (s : HalState) (e : Event) : (s.emit e).ctx = s.ctx := rfl

@[simp]
theorem emit_trace (s : HalState) (e : Event) : (s.emit e).trace = s.trace ++ [e] := rfl

@[simp]
theorem after_ctx (s : HalState) (k : SeqKind) (cmd : DnldCmd) (out : CmdOutcome)
    (ctx : FwIoctlCtx) : (s.after k cmd out ctx).ctx = ctx := rfl

@[simp]
theorem after_trace (s : HalState) (k : SeqKind) (cmd : DnldCmd) (out : CmdOutcome)
    (ctx : FwIoctlCtx) :
    (s.after k cmd out ctx).trace = s.trace ++ [.request k s.ctx cmd out] := rfl

end HalState

/-- A request function: the label of its sequence, the state, its status. -/
abbrev Step := SeqKind → HalState → NFCSTATUS × HalState

/-! ## Requests -/

/-- The body the request functions share: the semaphore is created, the request made and its
callback waited for. `prepare` is done once the semaphore is there, `onRefused` when the request
is refused; a callback that leaves a failure makes the function fail. -/
def makeRequest (o : Oracle) (cmd : DnldCmd) (prepare : FwIoctlCtx → FwIoctlCtx)
    (onRefused : Refusal → FwIoctlCtx → NFCSTATUS × FwIoctlCtx)
    (cb : NFCSTATUS → List UInt8 → FwIoctlCtx → NFCSTATUS × FwIoctlCtx) : Step := fun k s =>
  let out := o.cmd s.nCmd
  match out with
  | .initFailed => (NFCSTATUS.failed, s.after k cmd out s.ctx)
  | .refused r =>
    let (wStatus, ctx) := onRefused r (prepare s.ctx)
    (wStatus, s.after k cmd out ctx)
  | .interrupted => (NFCSTATUS.failed, s.after k cmd out (prepare s.ctx))
  | .completed status rsp =>
    let (cbStatus, ctx) := cb status rsp (prepare s.ctx)
    (if cbStatus = NFCSTATUS.success then NFCSTATUS.success else NFCSTATUS.failed,
      s.after k cmd out ctx)

section MakeRequest

variable {o : Oracle} {cmd : DnldCmd} {prepare : FwIoctlCtx → FwIoctlCtx}
  {onRefused : Refusal → FwIoctlCtx → NFCSTATUS × FwIoctlCtx}
  {cb : NFCSTATUS → List UInt8 → FwIoctlCtx → NFCSTATUS × FwIoctlCtx} {k : SeqKind} {s : HalState}

theorem makeRequest_initFailed (h : o.cmd s.nCmd = .initFailed) :
    makeRequest o cmd prepare onRefused cb k s =
      (NFCSTATUS.failed, s.after k cmd .initFailed s.ctx) := by
  simp only [makeRequest, h]

theorem makeRequest_refused {r : Refusal} (h : o.cmd s.nCmd = .refused r) :
    makeRequest o cmd prepare onRefused cb k s =
      ((onRefused r (prepare s.ctx)).1,
        s.after k cmd (.refused r) (onRefused r (prepare s.ctx)).2) := by
  simp only [makeRequest, h]

theorem makeRequest_interrupted (h : o.cmd s.nCmd = .interrupted) :
    makeRequest o cmd prepare onRefused cb k s =
      (NFCSTATUS.failed, s.after k cmd .interrupted (prepare s.ctx)) := by
  simp only [makeRequest, h]

theorem makeRequest_completed {status : NFCSTATUS} {rsp : List UInt8}
    (h : o.cmd s.nCmd = .completed status rsp) :
    makeRequest o cmd prepare onRefused cb k s =
      (if (cb status rsp (prepare s.ctx)).1 = NFCSTATUS.success then NFCSTATUS.success
        else NFCSTATUS.failed,
        s.after k cmd (.completed status rsp) (cb status rsp (prepare s.ctx)).2) := by
  simp only [makeRequest, h]

end MakeRequest

/-- A refused request fails and changes nothing. -/
def failPlain (_r : Refusal) (ctx : FwIoctlCtx) : NFCSTATUS × FwIoctlCtx := (NFCSTATUS.failed, ctx)

/-- A refused Force or recovery write is reported as it is and not retried. -/
def failWithoutRetry (r : Refusal) (ctx : FwIoctlCtx) : NFCSTATUS × FwIoctlCtx :=
  (r.status, { ctx with bSkipForce := false, bRetryDnld := false })

/-- `phNxpNciHal_fw_dnld_reset` -/
def fwDnldReset (o : Oracle) : Step := fun k s =>
  if s.ctx.bSkipSeq = true ∨ s.ctx.bSkipReset = true then
    (NFCSTATUS.success, { s with ctx := { s.ctx with bSkipReset := false } })
  else makeRequest o .reset id failPlain (fun status _ => fwDnldResetCb status) k s

/-- The common body of `phNxpNciHal_fw_dnld_normal` and `phNxpNciHal_fw_dnld_force`, which differ
in their callback. -/
def requestForce (o : Oracle) (cb : NFCSTATUS → FwIoctlCtx → NFCSTATUS × FwIoctlCtx) : Step :=
  fun k s =>
    if s.ctx.bSkipForce = true then (NFCSTATUS.success, s)
    else
      let ctx :=
        if s.ctx.bDnldRecovery = true then { s.ctx with bDnldAttempts := s.ctx.bDnldAttempts + 1 }
        else s.ctx
      makeRequest o (.force ctx.bClkSrcVal ctx.bClkFreqVal) id failWithoutRetry
        (fun status _ => cb status) k { s with ctx := ctx }

/-- `phNxpNciHal_fw_dnld_normal` -/
def fwDnldNormal (o : Oracle) : Step := requestForce o fwDnldNormalCb

/-- `phNxpNciHal_fw_dnld_force` -/
def fwDnldForce (o : Oracle) : Step := requestForce o fwDnldForceCb

/-- `phNxpNciHal_fw_dnld_get_version` -/
def fwDnldGetVersion (o : Oracle) : Step := fun k s =>
  if s.ctx.bSkipSeq = true ∨ s.ctx.bPrevSessnOpen = true then (NFCSTATUS.success, s)
  else makeRequest o .getVersion id failPlain (fwDnldGetVersionCb o) k s

/-- `phNxpNciHal_fw_dnld_get_sessn_state` -/
def fwDnldGetSessnState (o : Oracle) : Step := fun k s =>
  if s.ctx.bSkipSeq = true then (NFCSTATUS.success, s)
  else makeRequest o .getSessionState id failPlain fwDnldGetSessnStateCb k s

/-- `phNxpNciHal_fw_dnld_log_read` -/
def fwDnldLogRead (o : Oracle) : Step := fun k s =>
  if ((s.ctx.bSkipSeq = true ∨ s.ctx.bForceDnld = true) ∧ s.ctx.bPrevSessnOpen = false) ∨
      (s.ctx.bPrevSessnOpen = true ∧ s.ctx.bRetryDnld = true) then
    (NFCSTATUS.success, s)
  else makeRequest o .readLog id failPlain fwDnldLogReadCb k s

/-- The parameters with one more download triggered. -/
def countTrig (p : EELogParams) : EELogParams := { p with wNumDnldTrig := p.wNumDnldTrig + 1 }

/-- The download is counted as triggered, unless it is forced. -/
def triggerDnld (s : HalState) : HalState :=
  if s.ctx.bForceDnld = false then
    { s with
      ctx := { s.ctx with
        bDnldInitiated := true, bDnldAttempts := s.ctx.bDnldAttempts + 1,
        tLogParams := countTrig s.ctx.tLogParams },
      trace := s.trace ++ [.trig (countTrig s.ctx.tLogParams)] }
  else s

/-- The state after the write was made in the state `w` and left the context `ctx`; the counters
are observed when the download has been triggered. -/
def afterWrite (k : SeqKind) (w : HalState) (out : CmdOutcome) (ctx : FwIoctlCtx) : HalState :=
  let s := w.after k (.write false) out ctx
  if w.ctx.bDnldInitiated = true then s.emit (.counted ctx.tLogParams) else s

/-- A write refused in the state `w`. A forced download does not look at the refusal: the function
waits for a callback that never comes, until the wait is interrupted. -/
def writeRefused (k : SeqKind) (out : CmdOutcome) (w : HalState) : NFCSTATUS × HalState :=
  if w.ctx.bForceDnld = false then
    (NFCSTATUS.failed, afterWrite k w out { w.ctx with tLogParams := countFail w.ctx.tLogParams })
  else (NFCSTATUS.failed, w.after k (.write false) out w.ctx)

/-- A write completed in the state `w`. Unlike the other request functions, this one hands on the
status its callback was given. -/
def writeCompleted (k : SeqKind) (status : NFCSTATUS) (rsp : List UInt8) (w : HalState) :
    NFCSTATUS × HalState :=
  let (cbStatus, ctx) := fwDnldWriteCb status w.ctx
  (cbStatus, afterWrite k w (.completed status rsp) ctx)

/-- The retry flag is used up. -/
def noRetry (s : HalState) : HalState := { s with ctx := { s.ctx with bRetryDnld := false } }

/-- `phNxpNciHal_fw_dnld_write` -/
def fwDnldWrite (o : Oracle) : Step := fun k s =>
  let s := noRetry s
  if s.ctx.bSkipSeq = true ∧ s.ctx.bPrevSessnOpen = false then (NFCSTATUS.success, s)
  else
    match o.cmd s.nCmd with
    | .initFailed => (NFCSTATUS.failed, s.after k (.write false) .initFailed s.ctx)
    | .refused r => writeRefused k (.refused r) (triggerDnld s)
    | .interrupted =>
      let s := triggerDnld s
      (NFCSTATUS.failed, s.after k (.write false) .interrupted s.ctx)
    | .completed status rsp => writeCompleted k status rsp (triggerDnld s)

/-- `phNxpNciHal_fw_dnld_chk_integrity` -/
def fwDnldChkIntegrity (o : Oracle) : Step := fun k s =>
  if s.ctx.bPrevSessnOpen = true then (NFCSTATUS.success, s)
  else if s.ctx.bSkipSeq = true then (NFCSTATUS.success, s)
  else makeRequest o (.checkIntegrity s.ctx.bChipVer) id failPlain fwDnldChkIntegrityCb k s

/-- `phNxpNciHal_fw_dnld_recover`. The flag for the recovery is reset once the semaphore is
there. -/
def fwDnldRecover (o : Oracle) : Step := fun k s =>
  if s.ctx.bDnldRecovery = true then
    makeRequest o (.write true)
      (fun ctx => { ctx with bDnldAttempts := ctx.bDnldAttempts + 1, bDnldRecovery := false })
      failWithoutRetry (fun status _ => fwDnldRecoverCb status) k s
  else (NFCSTATUS.success, s)

/-- `phNxpNciHal_fw_dnld_send_ncicmd`. The callback switches the mode back only after a
successful answer. -/
def fwDnldSendNcicmd (o : Oracle) : Step := fun k s =>
  if s.ctx.bSendNciCmd = false then (NFCSTATUS.success, s)
  else
    let normal := o.ioctl s.nIoctl
    let s := { s with nIoctl := s.nIoctl + 1 }
    if normal = false then
      (NFCSTATUS.failed, { s with ctx := { s.ctx with bRetryDnld := false, bSendNciCmd := false } })
    else
      let switched := o.ioctl s.nIoctl
      let answered := match o.cmd s.nCmd with
        | .completed status _ => decide (status = NFCSTATUS.success)
        | _ => false
      let (wStatus, s) := makeRequest o .rawReq id (fun r ctx => (r.status, ctx))
        (fun status _ => fwDnldSendNcicmdCb switched status) k s
      (wStatus, { s with nIoctl := if answered then s.nIoctl + 1 else s.nIoctl })

/-- `phNxpNciHal_fw_dnld_log` -/
def fwDnldLog (o : Oracle) : Step := fun k s =>
  if (s.ctx.bSkipSeq = true ∨ s.ctx.bForceDnld = true) ∧ s.ctx.bDnldInitiated = false then
    (NFCSTATUS.success, s)
  else
    makeRequest o (.log s.ctx.tLogParams) id
      (fun _ ctx => (NFCSTATUS.failed, { ctx with bDnldInitiated := false }))
      (fun status _ => fwDnldLogCb status) k s

/-! ## Sequences -/

/-- `phNxpNciHal_dwnld_seqhandler` -/
def dwnldSeqHandler (o : Oracle) : List Step :=
  [fwDnldNormal o, fwDnldNormal o, fwDnldGetSessnState o, fwDnldGetVersion o, fwDnldLogRead o,
    fwDnldWrite o, fwDnldGetSessnState o, fwDnldGetVersion o, fwDnldLog o, fwDnldChkIntegrity o]

/-- `phNxpNciHal_dwnld_rec_seqhandler` -/
def dwnldRecSeqHandler (o : Oracle) : List Step :=
  [fwDnldReset o, fwDnldForce o, fwDnldRecover o, fwDnldSendNcicmd o]

/-- `phNxpNciHal_dwnld_log_seqhandler` -/
def dwnldLogSeqHandler (o : Oracle) : List Step := [fwDnldLog o]

/-- The loop over the functions of a sequence, which stops at the first failure. -/
def runSteps (k : SeqKind) : List Step → HalState → NFCSTATUS × HalState
  | [], s => (NFCSTATUS.success, s)
  | f :: fs, s =>
    let (status, s) := f k s
    if status ≠ NFCSTATUS.success then (status, s) else runSteps k fs s

theorem runSteps_cons (k : SeqKind) (f : Step) (fs : List Step) (s : HalState) :
    runSteps k (f :: fs) s =
      if (f k s).1 = NFCSTATUS.success then runSteps k fs (f k s).2 else f k s := by
  simp only [runSteps, ne_eq, ite_not]

/-- A sequence that succeeds goes on after each function. -/
theorem runSteps_success {k : SeqKind} {f : Step} {fs : List Step} {s : HalState}
    (h : (runSteps k (f :: fs) s).1 = NFCSTATUS.success) :
    (f k s).1 = NFCSTATUS.success ∧ runSteps k (f :: fs) s = runSteps k fs (f k s).2 := by
  rw [runSteps_cons] at h ⊢
  split at h
  · rename_i hst
    exact ⟨hst, if_pos hst⟩
  · rename_i hst
    exact absurd h hst

/-- `phNxpNciHal_fw_seq_handler` -/
def fwSeqHandler (k : SeqKind) (steps : List Step) (s : HalState) : NFCSTATUS × HalState :=
  let (status, s) := runSteps k steps s
  (status, s.emit (.sequence k status))

/-! ## Completion -/

/-- The first part of `phNxpNciHal_fw_dnld_complete`: a failed write asks for recovery while
attempts are left; a signature error also bypasses the Force command. -/
def requestRecovery (status : NFCSTATUS) (ctx : FwIoctlCtx) : FwIoctlCtx :=
  if status = NFCSTATUS.writeFailed then
    if ctx.bDnldAttempts < dnldMaxAttempts then { ctx with bDnldRecovery := true }
    else { ctx with bDnldRecovery := false, bRetryDnld := false }
  else if status = NFCSTATUS.rejected then
    if ctx.bDnldAttempts < dnldMaxAttempts then
      { ctx with bDnldRecovery := true, bSkipForce := true }
    else { ctx with bDnldRecovery := false, bRetryDnld := false }
  else ctx

/-- The pending log sequence; the status of the write is reported, not the one of the log. -/
def completeLog (o : Oracle) (status : NFCSTATUS) (s : HalState) : NFCSTATUS × HalState :=
  let s := { s with ctx := { s.ctx with
    bLastStatus := status, bDnldAttemptFailed := true, bDnldInitiated := false } }
  let (wStatus, s) := fwSeqHandler .log (dwnldLogSeqHandler o) s
  (if s.ctx.bLastStatus ≠ NFCSTATUS.success then s.ctx.bLastStatus else wStatus, s)

/-- The flags a retried download starts with. -/
def retryFlags (ctx : FwIoctlCtx) : FwIoctlCtx :=
  { ctx with
    bPrevSessnOpen := false, bDnldInitiated := false, bForceDnld := false, bSkipSeq := false,
    bSkipForce := false, bDnldRecovery := false, bSendNciCmd := false }

/-- The flags at the end of a run. -/
def endFlags (ctx : FwIoctlCtx) : FwIoctlCtx :=
  { ctx with
    bPrevSessnOpen := false, bDnldInitiated := false, bChipVer := 0, bSkipSeq := false,
    bForceDnld := false, bDnldRecovery := false, bRetryDnld := false, bSkipReset := false,
    bSkipForce := false, bSendNciCmd := false, bDnldAttempts := 0,
    bLastStatus := if ctx.bDnldAttemptFailed = true then NFCSTATUS.success else ctx.bLastStatus,
    bDnldAttemptFailed := false }

/-- The end of a run: normal mode is restored, unless an NCI command is still to be sent. -/
def completeEnd (o : Oracle) (status : NFCSTATUS) (s : HalState) : NFCSTATUS × HalState :=
  if s.ctx.bSendNciCmd = false then
    (if o.ioctl s.nIoctl then status else NFCSTATUS.failed,
      { s with ctx := endFlags s.ctx, nIoctl := s.nIoctl + 1 })
  else (NFCSTATUS.success, { s with ctx := endFlags s.ctx })

/-- One level of `phNxpNciHal_fw_dnld_complete`: the status it returns, whether it calls itself
again with that status, and the state. -/
def completeLevel (o : Oracle) (status : NFCSTATUS) (s : HalState) :
    NFCSTATUS × Bool × HalState :=
  let s := { s with ctx := requestRecovery status s.ctx }
  if s.ctx.bDnldInitiated = true then
    let (wStatus, s) := completeLog o status s
    (wStatus, true, s)
  else if s.ctx.bDnldRecovery = true then
    let (wStatus, s) := fwSeqHandler .recover (dwnldRecSeqHandler o) s
    (wStatus, true, s)
  else if s.ctx.bRetryDnld = true then
    let (wStatus, s) := fwSeqHandler .retry (dwnldSeqHandler o) { s with ctx := retryFlags s.ctx }
    (wStatus, true, s)
  else
    let (wStatus, s) := completeEnd o status s
    (wStatus, false, s)

/-- `phNxpNciHal_fw_dnld_complete` with fuel for the levels of its recursion. A level returns its
own status, whatever the level below it returned. -/
def fwDnldComplete (o : Oracle) : Nat → NFCSTATUS → HalState → Option NFCSTATUS × HalState
  | 0, _, s => (none, s)
  | fuel + 1, status, s =>
    match completeLevel o status s with
    | (wStatus, true, s) =>
      let (below, s) := fwDnldComplete o fuel wStatus s
      (below.map fun _ => wStatus, s)
    | (wStatus, false, s) => (some wStatus, s)

/-- The flags `phNxpNciHal_fw_download_seq` starts with. -/
def startFlags (bClkSrcVal bClkFreqVal : UInt8) (ctx : FwIoctlCtx) : FwIoctlCtx :=
  { ctx with
    bPrevSessnOpen := false, bDnldInitiated := false, bChipVer := 0, bSkipSeq := false,
    bForceDnld := false, bDnldRecovery := false, bRetryDnld := false, bSkipReset := false,
    bSkipForce := false, bSendNciCmd := false, bDnldAttempts := 0,
    bClkSrcVal := bClkSrcVal, bClkFreqVal := bClkFreqVal }

/-- The first download sequence, if an image is found. -/
def firstSequence (o : Oracle) (bClkSrcVal bClkFreqVal : UInt8) (ctx : FwIoctlCtx) :
    NFCSTATUS × HalState :=
  let s : HalState := ⟨startFlags bClkSrcVal bClkFreqVal ctx, 0, 0, []⟩
  if o.initImgInfo then fwSeqHandler .dwnld (dwnldSeqHandler o) s else (NFCSTATUS.failed, s)

/-- `phNxpNciHal_fw_download_seq`, on whatever context the run before left. -/
def fwDownloadSeq (o : Oracle) (bClkSrcVal bClkFreqVal : UInt8) (fuel : Nat) (ctx : FwIoctlCtx) :
    Option NFCSTATUS × HalState :=
  let (status, s) := firstSequence o bClkSrcVal bClkFreqVal ctx
  fwDnldComplete o fuel status s

theorem fwDownloadSeq_eq (o : Oracle) (bClkSrcVal bClkFreqVal : UInt8) (fuel : Nat)
    (ctx : FwIoctlCtx) : fwDownloadSeq o bClkSrcVal bClkFreqVal fuel ctx =
      fwDnldComplete o fuel (firstSequence o bClkSrcVal bClkFreqVal ctx).1
        (firstSequence o bClkSrcVal bClkFreqVal ctx).2 := rfl

end AliceHal.Pn54x.FwDnld
