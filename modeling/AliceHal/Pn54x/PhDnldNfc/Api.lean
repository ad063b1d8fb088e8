import AliceHal.Pn54x.PhDnldNfc.Handler

/-!
# Download Requests

The request functions of `phDnldNfc.c` and the loading of recovery images.

All requests have one shape, `issue`: reject `NULL` arguments, reject a busy handler, check the
buffers and fill the context (`Request.prepare`), then run `phDnldNfc_CmdHandler`. What each
request puts into the context is a function of its own, with the source's values.

`gRecFWDwnld` is compiled out for this chip type. Arguments that the source dereferences
without a check (`pInputs` of Force, `pCRCData` of CheckIntegrity) are buffers, not pointers.
-/

namespace AliceHal.Pn54x.PhDnldNfc

open Lib

/-! ## Firmware libraries -/

/-- A shared library with a firmware image: whether `dlopen` succeeds, the pointer behind
`gphDnldNfc_DlSeq` and the size behind `gphDnldNfc_DlSeqSz`, `none` for a missing symbol. -/
structure FwLib where
  opens : Bool
  dlSeq : Option (Option (List UInt8))
  dlSeqSz : Option Nat
  deriving DecidableEq, Repr

/-- The recovery libraries `PLATFORM_LIB_PATH` and `PKU_LIB_PATH`. -/
structure FwLibs where
  platform : FwLib
  pku : FwLib
  deriving DecidableEq, Repr

/-- `phDnldNfc_LoadFW`: status, image pointer and image length. -/
def loadFW (lib : FwLib) : NFCSTATUS × Option (List UInt8) × Nat :=
  if lib.opens = false then (NFCSTATUS.failed, none, 0)
  else
    match lib.dlSeq, lib.dlSeqSz with
    | none, _ => (NFCSTATUS.failed, none, 0)
    | some pImgInfo, none => (NFCSTATUS.failed, pImgInfo, 0)
    | some pImgInfo, some n => (NFCSTATUS.success, pImgInfo, n % 65536)

/-- `phDnldNfc_SetHwDevHandle` on an allocated context: the context is cleared. -/
def setHwDevHandle (_ctx : DlContext) : DlContext := DlContext.zero

/-- Common body of `phDnldNfc_LoadRecInfo` and `phDnldNfc_LoadPKInfo`. -/
def loadImageInfo (lib : FwLib) (ctx : DlContext) : NFCSTATUS × DlContext :=
  let ctx := setHwDevHandle ctx
  let (wStatus, pImageInfo, ImageInfoLen) := loadFW lib
  let wStatus :=
    if pImageInfo = none ∨ ImageInfoLen = 0 then NFCSTATUS.failed else wStatus
  if wStatus = NFCSTATUS.success then
    let ctx := { ctx with nxp_nfc_fwp := pImageInfo, nxp_nfc_fwp_len := ImageInfoLen }
    if ctx.nxp_nfc_fwp ≠ none ∧ ctx.nxp_nfc_fwp_len ≠ 0 then (NFCSTATUS.success, ctx)
    else (NFCSTATUS.failed, ctx)
  else (wStatus, ctx)

/-- `phDnldNfc_LoadRecInfo` -/
def loadRecInfo (libs : FwLibs) (ctx : DlContext) : NFCSTATUS × DlContext :=
  loadImageInfo libs.platform ctx

/-- `phDnldNfc_LoadPKInfo` -/
def loadPKInfo (libs : FwLibs) (ctx : DlContext) : NFCSTATUS × DlContext :=
  loadImageInfo libs.pku ctx

/-! ## Filling the context -/

/-- What the checks of a request come to: a refusal with its status, or a context ready for
the command handler. -/
inductive Prepared where
  | refuse (wStatus : NFCSTATUS) (ctx : DlContext)
  | submit (ctx : DlContext)

/-- The context after the checks. -/
def Prepared.ctx : Prepared → DlContext
  | .refuse _ ctx | .submit ctx => ctx

/-- Input type, command and buffers of a request; the other fields keep their values. -/
def DlContext.setCommand (ctx : DlContext) (type : FrameInputType) (cmd : CmdId)
    (rsp user : Buff) (cb ctxt : Nat) : DlContext :=
  { ctx with
    FrameInp := { ctx.FrameInp with type := type }, tCmdId := cmd, tRspBuffInfo := rsp,
    tUserData := user, UserCb := some cb, UserCtxt := some ctxt }

/-- A buffer that is there and not empty. -/
def Buff.valid (b : Buff) : Prop := b.pBuff ≠ none ∧ b.wLen ≠ 0

instance (b : Buff) : Decidable b.valid := inferInstanceAs (Decidable (_ ∧ _))

def prepareReset (cb ctxt : Nat) (ctx : DlContext) : Prepared :=
  .submit (ctx.setCommand .ftNone .reset ⟨none, 0⟩ ⟨none, 0⟩ cb ctxt)

def prepareGetVersion (pVersionInfo : Buff) (cb ctxt : Nat) (ctx : DlContext) : Prepared :=
  if pVersionInfo.valid then
    .submit (ctx.setCommand .ftNone .getVersion pVersionInfo ⟨none, 0⟩ cb ctxt)
  else .refuse (phNfcStVal cidNfcDnld NFCSTATUS.invalidParameter) ctx

def prepareGetSessionState (pSession : Buff) (cb ctxt : Nat) (ctx : DlContext) : Prepared :=
  if pSession.valid then
    .submit (ctx.setCommand .ftNone .getSessionState pSession ⟨none, 0⟩ cb ctxt)
  else .refuse (phNfcStVal cidNfcDnld NFCSTATUS.invalidParameter) ctx

/-- Chip versions whose integrity request carries the user data area: MRA2.1, MRA2.2 and, with
undefined chip names, the PN551 value. -/
def chkIntgChip (bChipVer : UInt8) : Bool :=
  bChipVer = 0x04 || bChipVer = 0x05 || bChipVer = 0x08

def prepareCheckIntegrity (bChipVer : UInt8) (pCRCData : Buff) (cb ctxt : Nat)
    (ctx : DlContext) : Prepared :=
  let type : FrameInputType := if chkIntgChip bChipVer then .chkIntg else .ftNone
  if pCRCData.valid then
    .submit (ctx.setCommand type .checkIntegrity pCRCData ⟨none, 0⟩ cb ctxt)
  else
    -- the input type has already been set when the buffer is found invalid
    .refuse (phNfcStVal cidNfcDnld NFCSTATUS.invalidParameter)
      { ctx with FrameInp := { ctx.FrameInp with type := type } }

def prepareReadLog (pData : Buff) (cb ctxt : Nat) (ctx : DlContext) : Prepared :=
  if pData.valid then
    .submit { ctx.setCommand .ftRead .read pData ⟨none, 0⟩ cb ctxt with
      FrameInp := ⟨.ftRead, eepromLogStartAddr⟩, tRWInfo := RWInfo.zero }
  else .refuse (phNfcStVal cidNfcDnld NFCSTATUS.invalidParameter) ctx

/-- The image `phDnldNfc_Write` sends, with the context after a recovery image was loaded. -/
def imageToWrite (bRecoverSeq : Bool) (pData : Option Buff) (libs : FwLibs) (ctx : DlContext) :
    Option (List UInt8) × Nat × DlContext :=
  match pData with
  | some data => (data.pBuff, data.wLen, ctx)
  | none =>
    if bRecoverSeq = false then (ctx.nxp_nfc_fw, ctx.nxp_nfc_fw_len, ctx)
    else
      let (wStatus, ctx) :=
        if ctx.tLastStatus = PhDlStatus.pllError then loadRecInfo libs ctx
        else if ctx.tLastStatus = PhDlStatus.signatureError then loadPKInfo libs ctx
        else (NFCSTATUS.success, ctx)
      if wStatus = NFCSTATUS.success then (ctx.nxp_nfc_fwp, ctx.nxp_nfc_fwp_len, ctx)
      else (none, 0, ctx)

def prepareWrite (bRecoverSeq : Bool) (pData : Option Buff) (libs : FwLibs) (cb ctxt : Nat)
    (ctx : DlContext) : Prepared :=
  let (pImgPtr, wLen, ctx) := imageToWrite bRecoverSeq pData libs ctx
  if pImgPtr ≠ none ∧ wLen ≠ 0 then
    .submit { ctx.setCommand .ftWrite .write ⟨none, 0⟩ ⟨pImgPtr, wLen⟩ cb ctxt with
      bResendLastFrame := false, tRWInfo := { RWInfo.zero with bFirstWrReq := true } }
  else .refuse NFCSTATUS.failed ctx

def prepareLog (pData : Buff) (cb ctxt : Nat) (ctx : DlContext) : Prepared :=
  if pData.pBuff ≠ none ∧ pData.wLen ≠ 0 ∧ maxLogSize ≥ pData.wLen then
    .submit { ctx.setCommand .ftLog .log ⟨none, 0⟩ pData cb ctxt with tRWInfo := RWInfo.zero }
  else .refuse (phNfcStVal cidNfcDnld NFCSTATUS.invalidParameter) ctx

/-- Clock frequency code for a PLL clock source; 19.2 MHz when the value is unknown. -/
def clkFreqCode (freq : UInt8) : UInt8 :=
  if 1 ≤ freq ∧ freq ≤ 6 then freq - 1 else 1

/-- The clock byte of a Force request; the frequency counts only for a PLL source. -/
def forceClkByte (src freq : UInt8) : UInt8 :=
  let (bClkSrc, bClkFreq) : UInt8 × UInt8 :=
    if src = 1 then (1, 0)
    else if src = 2 then (2, clkFreqCode freq)
    else if src = 3 then (3, 0)
    else (2, 0)
  (bClkSrc <<< 3) ||| bClkFreq

/-- The payload of a Force request. -/
def forcePld (pInputs : Buff) : List UInt8 :=
  if pInputs.wLen ≠ 0 ∨ pInputs.pBuff ≠ none then
    [forceClkByte (byteAt (pInputs.pBuff.getD []) 0) (byteAt (pInputs.pBuff.getD []) 1), 0, 0]
  else [0x11, 0x00, 0x00]

def prepareForce (pInputs : Buff) (cb ctxt : Nat) (ctx : DlContext) : Prepared :=
  .submit { ctx.setCommand .ftForce .force ⟨none, 0⟩ ⟨some (forcePld pInputs), 3⟩ cb ctxt with
    tRWInfo := RWInfo.zero }

def prepareRawReq (pFrameData pRspData : Buff) (cb ctxt : Nat) (ctx : DlContext) : Prepared :=
  if pFrameData.valid ∧ pRspData.valid then
    .submit (ctx.setCommand .ftRaw .none pRspData pFrameData cb ctxt)
  else .refuse (phNfcStVal cidNfcDnld NFCSTATUS.invalidParameter) ctx

/-! ## Requests -/

/-- A download request with its own arguments. -/
inductive Request where
  | reset
  | getVersion (pVersionInfo : Option Buff)
  | getSessionState (pSession : Option Buff)
  | checkIntegrity (bChipVer : UInt8) (pCRCData : Buff)
  | readLog (pData : Option Buff)
  | write (bRecoverSeq : Bool) (pData : Option Buff)
  | log (pData : Option Buff)
  | force (pInputs : Buff)
  | rawReq (pFrameData pRspData : Option Buff)

/-- The event a request triggers. -/
def Request.event : Request → Event
  | .reset => .reset
  | .getVersion _ => .getVer
  | .getSessionState _ => .getSesnSt
  | .checkIntegrity _ _ => .integChk
  | .readLog _ => .read
  | .write _ _ => .write
  | .log _ => .log
  | .force _ => .force
  | .rawReq _ _ => .raw

/-- No pointer the request checks is `NULL`. -/
def Request.argsPresent : Request → Bool
  | .getVersion b | .getSessionState b | .readLog b | .log b => b.isSome
  | .rawReq f r => f.isSome && r.isSome
  | .reset | .checkIntegrity _ _ | .write _ _ | .force _ => true

/-- The request's own checks and what it puts into the context. A missing buffer never gets
here (`argsPresent`). -/
def Request.prepare (r : Request) (libs : FwLibs) (cb ctxt : Nat) (ctx : DlContext) : Prepared :=
  match r with
  | .reset => prepareReset cb ctxt ctx
  | .getVersion b => prepareGetVersion (b.getD ⟨none, 0⟩) cb ctxt ctx
  | .getSessionState b => prepareGetSessionState (b.getD ⟨none, 0⟩) cb ctxt ctx
  | .checkIntegrity v b => prepareCheckIntegrity v b cb ctxt ctx
  | .readLog b => prepareReadLog (b.getD ⟨none, 0⟩) cb ctxt ctx
  | .write rec data => prepareWrite rec data libs cb ctxt ctx
  | .log b => prepareLog (b.getD ⟨none, 0⟩) cb ctxt ctx
  | .force b => prepareForce b cb ctxt ctx
  | .rawReq f r => prepareRawReq (f.getD ⟨none, 0⟩) (r.getD ⟨none, 0⟩) cb ctxt ctx

/-- The common body of the `phDnldNfc_*` requests. -/
def issue (r : Request) (pNotify pContext : Option Nat) (libs : FwLibs) (ctx : DlContext)
    (env : Env) : NFCSTATUS × DlContext × List Action :=
  match pNotify, pContext with
  | some cb, some ctxt =>
    if r.argsPresent = false then (phNfcStVal cidNfcDnld NFCSTATUS.invalidParameter, ctx, [])
    else if ctx.tDnldInProgress ≠ .idle then (phNfcStVal cidNfcDnld NFCSTATUS.busy, ctx, [])
    else
      match r.prepare libs cb ctxt ctx with
      | .refuse wStatus ctx => (wStatus, ctx, [])
      | .submit ctx => cmdHandler ctx r.event env
  | _, _ => (phNfcStVal cidNfcDnld NFCSTATUS.invalidParameter, ctx, [])

/-! ## What the requests do -/

/-- Loading a recovery image leaves a cleared context that holds at most that image. -/
theorem loadImageInfo_ctx (lib : FwLib) (ctx : DlContext) :
    ∃ fwp n, (loadImageInfo lib ctx).2 =
      { DlContext.zero with nxp_nfc_fwp := fwp, nxp_nfc_fwp_len := n } := by
  simp only [loadImageInfo, setHwDevHandle]
  repeat' split
  all_goals first | exact ⟨(loadFW lib).2.1, (loadFW lib).2.2, rfl⟩ | exact ⟨none, 0, rfl⟩

/-- Choosing the image keeps the context or clears it. -/
theorem imageToWrite_ctx (bRecoverSeq : Bool) (pData : Option Buff) (libs : FwLibs)
    (ctx : DlContext) :
    (imageToWrite bRecoverSeq pData libs ctx).2.2 = ctx ∨
      ∃ fwp n, (imageToWrite bRecoverSeq pData libs ctx).2.2 =
        { DlContext.zero with nxp_nfc_fwp := fwp, nxp_nfc_fwp_len := n } := by
  unfold imageToWrite
  split
  · exact .inl rfl
  · split
    · exact .inl rfl
    · dsimp only
      split
      · right
        obtain ⟨fwp, n, h⟩ := loadImageInfo_ctx libs.platform ctx
        refine ⟨fwp, n, ?_⟩
        rw [← h]
        split <;> rfl
      · split
        · right
          obtain ⟨fwp, n, h⟩ := loadImageInfo_ctx libs.pku ctx
          refine ⟨fwp, n, ?_⟩
          rw [← h]
          split <;> rfl
        · left
          rw [if_pos rfl]

/-- Every request has a state machine. -/
theorem Request.event_handler (r : Request) : ∃ hd, r.event.handler = some hd := by
  cases r <;> exact ⟨_, rfl⟩

/-- A request is turned away before its checks, refused by them, or handed on. -/
theorem issue_cases (r : Request) (pNotify pContext : Option Nat) (libs : FwLibs)
    (ctx : DlContext) (env : Env) :
    ((pNotify = none ∨ pContext = none ∨ r.argsPresent = false) ∧
      issue r pNotify pContext libs ctx env =
        (phNfcStVal cidNfcDnld NFCSTATUS.invalidParameter, ctx, [])) ∨
    (ctx.tDnldInProgress ≠ .idle ∧
      issue r pNotify pContext libs ctx env = (phNfcStVal cidNfcDnld NFCSTATUS.busy, ctx, [])) ∨
    ∃ cb ctxt, pNotify = some cb ∧ pContext = some ctxt ∧ r.argsPresent = true ∧
      ctx.tDnldInProgress = .idle ∧
      ((∃ wStatus ctx', r.prepare libs cb ctxt ctx = .refuse wStatus ctx' ∧
          issue r pNotify pContext libs ctx env = (wStatus, ctx', [])) ∨
        ∃ ctx', r.prepare libs cb ctxt ctx = .submit ctx' ∧
          issue r pNotify pContext libs ctx env = cmdHandler ctx' r.event env) := by
  unfold issue
  split
  · rename_i cb ctxt
    split
    · rename_i hargs
      exact .inl ⟨.inr (.inr hargs), rfl⟩
    · rename_i hargs
      rw [Bool.not_eq_false] at hargs
      split
      · rename_i hbusy
        exact .inr (.inl ⟨hbusy, rfl⟩)
      · rename_i hidle
        refine .inr (.inr ⟨cb, ctxt, rfl, rfl, hargs, not_not.1 hidle, ?_⟩)
        split
        · rename_i wStatus ctx' hp
          exact .inl ⟨wStatus, ctx', hp, rfl⟩
        · rename_i ctx' hp
          exact .inr ⟨ctx', hp, rfl⟩
  · rename_i hnone
    refine .inl ⟨?_, rfl⟩
    cases hn : pNotify with
    | none => exact .inl rfl
    | some cb =>
      cases hc : pContext with
      | none => exact .inr (.inl rfl)
      | some ctxt => exact absurd hc (hnone cb ctxt hn)

end AliceHal.Pn54x.PhDnldNfc
