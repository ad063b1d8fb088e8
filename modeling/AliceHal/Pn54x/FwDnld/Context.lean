import AliceHal.Pn54x.Status

/-!
# Firmware Download Context

The data of `phNxpNciHal_Dnld.c`: the context with the flags that steer the download, the
parameters logged to the EEPROM, the commands sent through `phDnldNfc_*` and what can come back,
and the callbacks, which turn an answer into a status and set the flags.

- `bDnldEepromWrite`, `bLibNfcCtxtMem` and `IoctlCode` are left out: nothing but log messages
  depends on them.
- The chip names are undefined macros in the build, so every `NFC_NXP_CHIP_TYPE == …` holds and
  `NFC_NXP_CHIP_TYPE != PN547C2` does not; `PH_LIBNFC_ENABLE_FORCE_DOWNLOAD` is not defined.
- `Event` is what an observer of the run sees. No function reads it.
-/

namespace AliceHal.Pn54x.FwDnld

open Lib

/-! ## Constants -/

/-- `PHLIBNFC_IOCTL_DNLD_MAX_ATTEMPTS` -/
def dnldMaxAttempts : UInt8 := 3

/-- `PHLIBNFC_IOCTL_DNLD_GETVERLEN` -/
def dnldGetVerLen : Nat := 0x0B

/-- `PHLIBNFC_IOCTL_DNLD_GETVERLEN_MRA2_1` -/
def dnldGetVerLenMra21 : Nat := 0x09

/-- `PHLIBNFC_FWDNLD_SESSNOPEN` -/
def fwDnldSessnOpen : UInt8 := 0x01

/-- `phDnldNfc_LCOper` -/
def lcOper : UInt8 := 17

/-! ## Context -/

/-- Parameters held in the EEPROM log area. -/
structure EELogParams where
  wCurrMwVer : UInt16
  wCurrFwVer : UInt16
  wNumDnldTrig : UInt16
  wNumDnldSuccess : UInt16
  wNumDnldFail : UInt16
  wDnldFailCnt : UInt16
  bConfig : UInt8
  deriving DecidableEq, Repr

/-- The parameters as they lie in memory, least significant byte first. -/
def EELogParams.ofBytes (data : List UInt8) : EELogParams :=
  let word (i : Nat) : UInt16 := (be16 (byteAt data (i + 1)) (byteAt data i)).toUInt16
  ⟨word 0, word 2, word 4, word 6, word 8, word 10, byteAt data 12⟩

/-- The counters of the log: downloads triggered, succeeded and failed. -/
def EELogParams.counters (p : EELogParams) : UInt16 × UInt16 × UInt16 :=
  (p.wNumDnldTrig, p.wNumDnldSuccess, p.wNumDnldFail)

/-- `gphNxpNciHal_fw_IoctlCtx` -/
structure FwIoctlCtx where
  bSkipSeq : Bool
  bSkipReset : Bool
  bSkipForce : Bool
  bPrevSessnOpen : Bool
  bDnldInitiated : Bool
  bSendNciCmd : Bool
  bChipVer : UInt8
  bDnldRecovery : Bool
  bForceDnld : Bool
  bRetryDnld : Bool
  bDnldAttempts : UInt8
  bDnldAttemptFailed : Bool
  bLastStatus : NFCSTATUS
  tLogParams : EELogParams
  bClkSrcVal : UInt8
  bClkFreqVal : UInt8
  deriving DecidableEq, Repr

/-- The context before any run: the static variable is zero. -/
def FwIoctlCtx.init : FwIoctlCtx :=
  ⟨false, false, false, false, false, false, 0, false, false, false, 0, false, 0,
    ⟨0, 0, 0, 0, 0, 0, 0⟩, 0, 0⟩

/-! ## Commands and their outcomes -/

/-- The requests made through `phDnldNfc_*`, with the arguments that matter here. -/
inductive DnldCmd where
  | reset
  | force (bClkSrc bClkFreq : UInt8)
  | getSessionState
  | getVersion
  | readLog
  | write (bRecoverSeq : Bool)
  | log (p : EELogParams)
  | checkIntegrity (bChipVer : UInt8)
  | rawReq
  deriving DecidableEq, Repr

/-- A status with which a request is refused. It is never one of the statuses that stand for the
outcome of a write. -/
structure Refusal where
  status : NFCSTATUS
  plain : status ∉
    [NFCSTATUS.success, NFCSTATUS.pending, NFCSTATUS.writeFailed, NFCSTATUS.rejected]
  deriving DecidableEq, Repr

/-- What becomes of one request. -/
inductive CmdOutcome where
  /-- `phNxpNciHal_init_cb_data` fails, the request is not made -/
  | initFailed
  /-- the request does not return `NFCSTATUS_PENDING` -/
  | refused (r : Refusal)
  /-- `SEM_WAIT` fails before the callback -/
  | interrupted
  /-- the callback is called with a status and the bytes of the response buffer -/
  | completed (status : NFCSTATUS) (rsp : List UInt8)
  deriving DecidableEq, Repr

/-- What the layers below answer in the course of a run: the outcome of every request, whether
each call of `phTmlNfc_IoCtl` succeeds, whether an image is found, and the versions of that
image. -/
structure Oracle where
  cmd : Nat → CmdOutcome
  ioctl : Nat → Bool
  initImgInfo : Bool
  wFwVer : UInt16
  wMwVer : UInt16

/-- The requests have the outcomes listed and then always the same one; the mode switches
succeed. -/
def Oracle.script (outs : List CmdOutcome) (rest : CmdOutcome) (wFwVer : UInt16) : Oracle where
  cmd n := outs.getD n rest
  ioctl _ := true
  initImgInfo := true
  wFwVer := wFwVer
  wMwVer := 0

/-! ## Observation -/

/-- The sequences of handlers: the download sequence when it is run first and when it is run by
the retry, the recovery sequence and the log sequence. -/
inductive SeqKind where
  | dwnld | retry | recover | log
  deriving DecidableEq, Repr

/-- What an observer of the run sees. -/
inductive Event where
  /-- a request, with the context it is made in -/
  | request (k : SeqKind) (ctx : FwIoctlCtx) (cmd : DnldCmd) (out : CmdOutcome)
  /-- `wNumDnldTrig` has been incremented -/
  | trig (p : EELogParams)
  /-- `wNumDnldSuccess` or `wNumDnldFail` has been incremented -/
  | counted (p : EELogParams)
  /-- a sequence has returned -/
  | sequence (k : SeqKind) (status : NFCSTATUS)
  deriving DecidableEq, Repr

/-- The context, how much of the oracle has been used, and what has been observed. -/
structure HalState where
  ctx : FwIoctlCtx
  nCmd : Nat
  nIoctl : Nat
  trace : List Event
  deriving DecidableEq, Repr

/-! ## Callbacks

Each takes the status and the response and returns the status left for the waiting function.
The response info is never `NULL`. -/

/-- `phNxpNciHal_fw_dnld_reset_cb` -/
def fwDnldResetCb (status : NFCSTATUS) (ctx : FwIoctlCtx) : NFCSTATUS × FwIoctlCtx :=
  (status, ctx)

/-- `phNxpNciHal_fw_dnld_normal_cb`: a failed request counts as successful. -/
def fwDnldNormalCb (_status : NFCSTATUS) (ctx : FwIoctlCtx) : NFCSTATUS × FwIoctlCtx :=
  (NFCSTATUS.success, ctx)

/-- `phNxpNciHal_fw_dnld_force_cb` -/
def fwDnldForceCb (status : NFCSTATUS) (ctx : FwIoctlCtx) : NFCSTATUS × FwIoctlCtx :=
  (NFCSTATUS.success,
    if status = NFCSTATUS.success then
      { ctx with bDnldRecovery := false, bRetryDnld := true, bSkipReset := true }
    else ctx)

/-- Chip version of a version response. -/
def hwVer (rsp : List UInt8) : UInt8 := byteAt rsp 0 &&& 0x0F

/-- The chips whose version response is the short one. -/
def isMra21 (rsp : List UInt8) : Bool :=
  hwVer rsp = 0x04 || hwVer rsp = 0x05 || hwVer rsp = 0x08

/-- The length expected of a version response, `none` for an unknown chip. -/
def expectedVerLen (rsp : List UInt8) : Option Nat :=
  if isMra21 rsp then some dnldGetVerLenMra21
  else if 0x01 ≤ hwVer rsp ∧ hwVer rsp ≤ 0x03 then some dnldGetVerLen
  else none

/-- The chip version kept from a version response: the whole byte when
`PHDNLDNFC_HWVER_PN553_MRA1_0_UPDATED` is set in it. -/
def chipVer (rsp : List UInt8) : UInt8 :=
  if isMra21 rsp = true ∧ byteAt rsp 0 &&& 0x40 ≠ 0 then byteAt rsp 0 else hwVer rsp

/-- The version check of `phNxpNciHal_fw_dnld_get_version_cb` for a response of expected length:
major and minor version stand in its last two bytes. -/
def checkVersion (o : Oracle) (rsp : List UInt8) (ctx : FwIoctlCtx) : NFCSTATUS × FwIoctlCtx :=
  let bCurrMinor := byteAt rsp (rsp.length - 2)
  let bCurrMajor := byteAt rsp (rsp.length - 1)
  let bNewMinor := loByte o.wFwVer.toNat
  let bNewMajor := hiByte o.wFwVer.toNat
  if byteAt rsp 1 = 0x07 ∧ bNewMajor ≠ 0x01 then (NFCSTATUS.notAllowed, ctx)
  else if ctx.bDnldInitiated = false ∧ bNewMajor < bCurrMajor then (NFCSTATUS.notAllowed, ctx)
  else if ctx.bDnldInitiated = false ∧ bNewMinor = bCurrMinor ∧ bNewMajor = bCurrMajor then
    (NFCSTATUS.success, { ctx with bSkipSeq := true })
  else if ctx.bDnldInitiated = true ∧ (bNewMinor ≠ bCurrMinor ∨ bNewMajor ≠ bCurrMajor) then
    (NFCSTATUS.failed, ctx)
  else if ctx.bDnldInitiated = true then
    (NFCSTATUS.success, { ctx with tLogParams :=
      { ctx.tLogParams with wCurrMwVer := o.wMwVer, wCurrFwVer := o.wFwVer } })
  else (NFCSTATUS.success, ctx)

/-- `phNxpNciHal_fw_dnld_get_version_cb`. A response of unexpected length keeps the status. -/
def fwDnldGetVersionCb (o : Oracle) (status : NFCSTATUS) (rsp : List UInt8) (ctx : FwIoctlCtx) :
    NFCSTATUS × FwIoctlCtx :=
  if status = NFCSTATUS.success then
    if rsp.length = 0 then (NFCSTATUS.failed, ctx)
    else
      match expectedVerLen rsp with
      | none => (NFCSTATUS.failed, ctx)
      | some bExpectedLen =>
        let ctx := { ctx with bChipVer := chipVer rsp }
        if bExpectedLen = rsp.length then checkVersion o rsp ctx else (NFCSTATUS.success, ctx)
  else (NFCSTATUS.failed, ctx)

/-- `phNxpNciHal_fw_dnld_get_sessn_state_cb` -/
def fwDnldGetSessnStateCb (status : NFCSTATUS) (rsp : List UInt8) (ctx : FwIoctlCtx) :
    NFCSTATUS × FwIoctlCtx :=
  if status = NFCSTATUS.success ∧ rsp.length = 3 ∧ byteAt rsp 2 = lcOper then
    if byteAt rsp 0 = fwDnldSessnOpen then
      let ctx := { ctx with bPrevSessnOpen := true }
      if ctx.bDnldInitiated = true then
        -- the session is still open after the write
        (NFCSTATUS.failed,
          { ctx with bRetryDnld := decide (ctx.bDnldAttempts < dnldMaxAttempts) })
      else (NFCSTATUS.success, ctx)
    else (NFCSTATUS.success, { ctx with bPrevSessnOpen := false })
  else (NFCSTATUS.failed, ctx)

/-- `phNxpNciHal_fw_dnld_log_read_cb`. The log was read into `tLogParams`. -/
def fwDnldLogReadCb (status : NFCSTATUS) (rsp : List UInt8) (ctx : FwIoctlCtx) :
    NFCSTATUS × FwIoctlCtx :=
  if status = NFCSTATUS.success then
    (NFCSTATUS.success, { ctx with tLogParams := EELogParams.ofBytes rsp })
  else (NFCSTATUS.failed, ctx)

/-- The counting of a successful write. -/
def countSuccess (p : EELogParams) : EELogParams :=
  { p with
    wNumDnldSuccess := p.wNumDnldSuccess + 1,
    wDnldFailCnt := if p.wDnldFailCnt > 0 then 0 else p.wDnldFailCnt,
    bConfig := if p.bConfig = 0 then 1 else p.bConfig }

/-- The counting of a failed write. -/
def countFail (p : EELogParams) : EELogParams :=
  { p with
    wNumDnldFail := p.wNumDnldFail + 1, wDnldFailCnt := p.wDnldFailCnt + 1, bConfig := 0 }

/-- `phNxpNciHal_fw_dnld_write_cb` -/
def fwDnldWriteCb (status : NFCSTATUS) (ctx : FwIoctlCtx) : NFCSTATUS × FwIoctlCtx :=
  if status = NFCSTATUS.success then
    let ctx :=
      if ctx.bDnldInitiated = true then { ctx with tLogParams := countSuccess ctx.tLogParams }
      else ctx
    (status, { ctx with bDnldAttemptFailed := false })
  else
    let ctx :=
      if ctx.bDnldInitiated = true then { ctx with tLogParams := countFail ctx.tLogParams }
      else ctx
    if status = NFCSTATUS.writeFailed then
      (status, { ctx with bSkipSeq := true, bDnldRecovery := true })
    else (status, ctx)

/-- `phLibNfc_VerifyCrcStatus`: the bits are looked at one by one, starting at bit position 1. -/
def verifyCrcStatus (bCrcStatus : UInt8) : NFCSTATUS :=
  go 6 2 NFCSTATUS.success
where
  go : Nat → UInt8 → NFCSTATUS → NFCSTATUS
    | 0, _, wStatus => wStatus
    | n + 1, bShiftVal, wStatus =>
      go n (bShiftVal <<< 1) (if bCrcStatus &&& bShiftVal = 0 then NFCSTATUS.failed else wStatus)

/-- `phNxpNciHal_fw_dnld_chk_integrity_cb`. A response that does not have 31 bytes keeps the
status. -/
def fwDnldChkIntegrityCb (status : NFCSTATUS) (rsp : List UInt8) (ctx : FwIoctlCtx) :
    NFCSTATUS × FwIoctlCtx :=
  if status = NFCSTATUS.success then
    if rsp.length = 31 then (verifyCrcStatus (byteAt rsp 0), ctx) else (status, ctx)
  else (NFCSTATUS.failed, ctx)

/-- `phNxpNciHal_fw_dnld_recover_cb` -/
def fwDnldRecoverCb (status : NFCSTATUS) (ctx : FwIoctlCtx) : NFCSTATUS × FwIoctlCtx :=
  let (wStatus, ctx) :=
    if status = NFCSTATUS.success then
      (status,
        if ctx.bSkipForce = false then { ctx with bRetryDnld := true }
        else { ctx with bSendNciCmd := true })
    else (NFCSTATUS.failed, ctx)
  (wStatus, { ctx with bDnldRecovery := false, bSkipForce := false })

/-- `phNxpNciHal_fw_dnld_send_ncicmd_cb`; `switched` is whether the mode switch it makes
succeeds. -/
def fwDnldSendNcicmdCb (switched : Bool) (status : NFCSTATUS) (ctx : FwIoctlCtx) :
    NFCSTATUS × FwIoctlCtx :=
  let (wStatus, ctx) :=
    if status = NFCSTATUS.success then
      (if switched then NFCSTATUS.success else NFCSTATUS.failed, { ctx with bRetryDnld := switched })
    else (status, ctx)
  (wStatus, { ctx with bSendNciCmd := false })

/-- `phNxpNciHal_fw_dnld_log_cb` -/
def fwDnldLogCb (status : NFCSTATUS) (ctx : FwIoctlCtx) : NFCSTATUS × FwIoctlCtx :=
  if status = NFCSTATUS.success then (status, { ctx with bDnldInitiated := false })
  else (NFCSTATUS.failed, ctx)

end AliceHal.Pn54x.FwDnld
