import AliceHal.Pn54x.Hal.CommandBytes
import AliceHal.Pn54x.Tml.Timer

/-!
# Opening the HAL

`phNxpNciHal_open` creates what the HAL needs one after the other (a timer, the monitor with its
mutexes, a message queue, the TML layer, the client thread), resets and initialises the NFCC, and
downloads firmware when that of the device is not the one of the file. Most failures jump to one
label, `clean_and_return`.

- `OpenState`: what the call creates and changes
- `OpenCall`: the answers of the system and of the NFCC during one call
- `OpenState.phTmlNfcInit`, `phTmlNfcShutdown`: the TML layer
- `OpenCall.initPass`, `initRetry`: the commands after `init_retry`
- `OpenCall.phNxpNciHalOpen`: the whole call

Where the call waits, other threads run: what they leave in the timer table and in the globals of
the NFCC is an input. The configuration cache, the trace level, the device handle of the download
module and the NFCC itself are left out; `phNxpNciHal_power_cycle` touches nothing else.
-/

namespace AliceHal.Pn54x.Hal

open Tml (Timers timerIdInvalid)

/-! ## State -/

/-- What is reported about an open. -/
inductive OpenReport where
  /-- the callback with `HAL_NFC_OPEN_CPLT_EVT` and `HAL_NFC_STATUS_FAILED` -/
  | openFailed
  /-- the message `NCI_HAL_OPEN_CPLT_MSG` -/
  | openCplt
  /-- the message `NCI_HAL_ERROR_MSG` -/
  | error
  deriving DecidableEq, Repr

/-- `phTmlNfc_Context_t`, as far as an open fills it in. -/
structure TmlContext where
  dwTimerId : UInt32
  dwCallbackThreadId : ℤ
  deriving DecidableEq, Repr

/-- What an open creates, counts and reads. -/
structure OpenState (γ : Type*) where
  /-- `halStatus` is `HAL_STATUS_OPEN` -/
  isOpen : Bool
  /-- `nxpncihal_monitor` is allocated -/
  monitor : Bool
  /-- how often the concurrency mutex was locked -/
  locked : ℕ
  /-- how often it was unlocked -/
  unlocked : ℕ
  timers : Timers γ
  timeoutTimerId : UInt32
  /-- the message queues that are allocated -/
  queues : List ℕ
  /-- `gDrvCfg.nClientId` -/
  nClientId : ℤ
  /-- `gpphTmlNfc_Context` -/
  tmlContext : Option TmlContext
  retryCnt : UInt16
  nciVersion : UInt8
  /-- the version of the firmware file -/
  wFwVer : UInt16
  /-- the version the device reports -/
  wFwVerRsp : UInt32
  romVersion : UInt16
  fwMajVer : UInt16
  fwDownloadSuccess : Bool
  halOpenStatus : Bool
  /-- the commands handed to `phNxpNciHal_send_ext_cmd` -/
  sent : List (List UInt8)
  reports : List OpenReport

/-- What other threads leave behind while the call waits. -/
structure Meanwhile (γ : Type*) where
  timers : Timers γ
  retryCnt : UInt16
  nciVersion : UInt8
  wFwVerRsp : UInt32
  romVersion : UInt16
  fwMajVer : UInt16

/-- The end of a wait for the response to a command. -/
structure OpenAnswer (γ : Type*) where
  /-- `phNxpNciHal_send_ext_cmd` returns `NFCSTATUS_SUCCESS` -/
  success : Bool
  meanwhile : Meanwhile γ

/-- The answers to `phNxpNciHal_init_monitor`: whether each step works. -/
structure MonitorAnswers where
  malloc : Bool
  reentranceMutex : Bool
  concurrencyMutex : Bool
  semList : Bool
  deriving DecidableEq, Repr

/-- The answers to `phTmlNfc_Init`: whether each step works. -/
structure TmlAnswers where
  malloc : Bool
  /-- `phTmlNfc_i2c_open_and_configure` -/
  device : Bool
  rxSemaphore : Bool
  txSemaphore : Bool
  postMsgSemaphore : Bool
  readerThread : Bool
  writerThread : Bool
  /-- `timer_create` -/
  timer : Bool
  deriving DecidableEq, Repr

/-- The commands after `init_retry`, in the order of the source. -/
inductive OpenCmd where
  | reset
  | init20
  | resetAgain
  | init20Again
  | init
  deriving DecidableEq, Repr

/-- A call of `phNxpNciHal_open`, with what it meets. The passes from `init_retry` on are counted
from zero. -/
structure OpenCall (γ : Type*) where
  /-- `timer_create` for the timer of the write response succeeds -/
  timer : Bool
  monitor : MonitorAnswers
  /-- the buffer for the device name is allocated -/
  devNode : Bool
  /-- the queue that `phDal4Nfc_msgget` allocates -/
  queue : Option ℕ
  tml : TmlAnswers
  /-- the client thread is created -/
  clientThread : Bool
  /-- the first `phTmlNfc_Read` returns `NFCSTATUS_PENDING` -/
  firstRead : Bool
  nfcc : ℕ → OpenCmd → OpenAnswer γ
  /-- while `phNxpNciHal_enable_i2c_fragmentation` runs -/
  fragmentation : Meanwhile γ
  /-- the version that `phDnldNfc_InitImgInfo` finds in the file -/
  image : Option UInt16
  /-- the same at `force_download` -/
  imageAgain : Option UInt16
  /-- `NXP_FW_PROTECION_OVERRIDE` -/
  fwProtectionOverride : Option ℕ
  /-- `phNxpNciHal_fw_download` succeeds -/
  download : Bool
  /-- while it runs -/
  afterDownload : Meanwhile γ
  /-- the second `phTmlNfc_Read` returns `NFCSTATUS_PENDING` -/
  secondRead : Bool

/-- The command itself. -/
def OpenCmd.bytes : OpenCmd → List UInt8
  | .reset | .resetAgain => cmdResetNci
  | .init20 | .init20Again => [0x20, 0x01, 0x02, 0x00, 0x00]
  | .init => [0x20, 0x01, 0x00]

namespace OpenState

variable {γ : Type*}

/-! ## The monitor -/

/-- `CONCURRENCY_LOCK`. -/
def concurrencyLock (s : OpenState γ) : OpenState γ :=
  if s.monitor then { s with locked := s.locked + 1 } else s

/-- `CONCURRENCY_UNLOCK`. -/
def concurrencyUnlock (s : OpenState γ) : OpenState γ :=
  if s.monitor then { s with unlocked := s.unlocked + 1 } else s

/-- `phNxpNciHal_init_monitor`: whether it returns a monitor. A failure frees also a monitor that
was there before. -/
def phNxpNciHalInitMonitor (s : OpenState γ) (a : MonitorAnswers) : Bool × OpenState γ :=
  if (s.monitor || a.malloc) && a.reentranceMutex && a.concurrencyMutex && a.semList then
    (true, { s with monitor := true })
  else (false, { s with monitor := false })

/-! ## Queue and TML layer -/

/-- `phDal4Nfc_msgget`. -/
def phDal4NfcMsgget (s : OpenState γ) (queue : Option ℕ) : OpenState γ :=
  match queue with
  | some q => { s with queues := s.queues ++ [q], nClientId := q }
  | none => { s with nClientId := -1 }

/-- `phTmlNfc_CleanUp`: the context is freed. Neither the timer nor the threads are touched. -/
def phTmlNfcCleanUp (s : OpenState γ) : OpenState γ := { s with tmlContext := none }

/-- The end of `phTmlNfc_Init` after an error. -/
def tmlInitFailed (s : OpenState γ) (status : NFCSTATUS) : NFCSTATUS × OpenState γ :=
  (status, s.phTmlNfcCleanUp)

/-- The last step of `phTmlNfc_Init`: the timer for retransmissions. -/
def createReTxTimer (s : OpenState γ) (created : Bool) : NFCSTATUS × OpenState γ :=
  let t := s.timers.create created
  if t.2 = timerIdInvalid then s.tmlInitFailed (phNfcStVal cidNfcTml NFCSTATUS.failed)
  else (NFCSTATUS.success, { s with
    timers := t.1
    tmlContext := some { dwTimerId := t.2, dwCallbackThreadId := s.nClientId } })

/-- `phTmlNfc_Init`. -/
def phTmlNfcInit (s : OpenState γ) (a : TmlAnswers) : NFCSTATUS × OpenState γ :=
  if s.tmlContext.isSome then s.tmlInitFailed (phNfcStVal cidNfcTml NFCSTATUS.alreadyInitialised)
  else if s.nClientId = 0 then s.tmlInitFailed (phNfcStVal cidNfcTml NFCSTATUS.invalidParameter)
  else if !a.malloc then s.tmlInitFailed (phNfcStVal cidNfcTml NFCSTATUS.failed)
  else if !a.device then s.tmlInitFailed (phNfcStVal cidNfcTml NFCSTATUS.invalidDevice)
  else if !(a.rxSemaphore && a.txSemaphore && a.postMsgSemaphore) then
    s.tmlInitFailed NFCSTATUS.failed
  else if !(a.readerThread && a.writerThread) then
    s.tmlInitFailed (phNfcStVal cidNfcTml NFCSTATUS.failed)
  else s.createReTxTimer a.timer

/-- `phTmlNfc_Shutdown`. -/
def phTmlNfcShutdown (s : OpenState γ) : OpenState γ :=
  if s.tmlContext.isSome then s.phTmlNfcCleanUp else s

/-! ## Steps of an open -/

/-- The timer for the write response. -/
def createTimeoutTimer (s : OpenState γ) (created : Bool) : OpenState γ :=
  { s with timers := (s.timers.create created).1, timeoutTimerId := (s.timers.create created).2 }

/-- `nxpncihal_ctrl` is cleared, and its status is set to open. -/
def clearControl (s : OpenState γ) : OpenState γ :=
  { s with isOpen := true, nClientId := 0, retryCnt := 0, nciVersion := 0, halOpenStatus := false }

/-- A wait ends. -/
def resume (s : OpenState γ) (m : Meanwhile γ) : OpenState γ :=
  { s with
    timers := m.timers
    retryCnt := m.retryCnt
    nciVersion := m.nciVersion
    wFwVerRsp := m.wFwVerRsp
    romVersion := m.romVersion
    fwMajVer := m.fwMajVer }

/-- `phNxpNciHal_send_ext_cmd`. -/
def sendExtCmd (s : OpenState γ) (cmd : OpenCmd) (a : OpenAnswer γ) : Bool × OpenState γ :=
  (a.success, { s with sent := s.sent ++ [cmd.bytes] }.resume a.meanwhile)

/-- `phDnldNfc_InitImgInfo`. -/
def phDnldNfcInitImgInfo (s : OpenState γ) (image : Option UInt16) : OpenState γ :=
  match image with
  | some version => { s with wFwVer := version }
  | none => s

/-- `phNxpNciHal_CheckValidFwVersion`. The mobile major number is that of the PN551. -/
def phNxpNciHalCheckValidFwVersion (s : OpenState γ) (override : Option ℕ) : NFCSTATUS :=
  let major := s.wFwVer >>> 8 &&& 0x00FF
  if major = 0x05 ∨ (major = 0x02 ∧ s.nciVersion = nciVersion20) ∨
      (s.romVersion = 0x00 ∧ major = 0x02) then NFCSTATUS.success
  else if major = 0x02 then
    if s.romVersion = 0x11 ∧ s.nciVersion = nciVersion20 then NFCSTATUS.success
    else if override = some 1 then NFCSTATUS.success
    else NFCSTATUS.notAllowed
  else if s.wFwVerRsp = 0 then NFCSTATUS.success
  else NFCSTATUS.notAllowed

/-- `phNxpNciHal_fw_mw_ver_check`, of the middleware `PN548C2`. -/
def phNxpNciHalFwMwVerCheck (s : OpenState γ) : NFCSTATUS :=
  if s.romVersion = 0x10 ∧ s.fwMajVer = 0x01 then NFCSTATUS.success else NFCSTATUS.failed

/-- `phNxpNciHal_open_complete`. -/
def phNxpNciHalOpenComplete (s : OpenState γ) (status : NFCSTATUS) : OpenState γ :=
  if status = NFCSTATUS.success then
    { s with halOpenStatus := true, reports := s.reports ++ [.openCplt] }
  else { s with reports := s.reports ++ [.error] }

/-- The call ends without a jump. -/
def complete (s : OpenState γ) (status : NFCSTATUS) : NFCSTATUS × OpenState γ :=
  (status, s.phNxpNciHalOpenComplete status)

/-- From `clean_and_return` on. The monitor is freed only after the unlock. -/
def cleanAndReturn (s : OpenState γ) : NFCSTATUS × OpenState γ :=
  let s := s.concurrencyUnlock
  (NFCSTATUS.failed, { s with
    reports := s.reports ++ [.openFailed]
    monitor := false
    isOpen := false })

end OpenState

/-! ## The call -/

/-- Where a pass from `init_retry` on leads. -/
inductive InitEnd where
  /-- the next pass, if there is one left -/
  | again
  | forceDownload
  | initialised
  deriving DecidableEq, Repr

namespace OpenCall

variable {γ : Type*}

/-- From `force_download` on, with the value of `wConfigStatus`. -/
def forceDownload (c : OpenCall γ) (wConfigStatus : NFCSTATUS) (s : OpenState γ) :
    NFCSTATUS × OpenState γ :=
  let s := if s.wFwVerRsp = 0 then s.phDnldNfcInitImgInfo c.imageAgain else s
  if s.phNxpNciHalCheckValidFwVersion c.fwProtectionOverride = NFCSTATUS.success then
    let s := { s with fwDownloadSuccess := false }.resume c.afterDownload
    if !c.download then
      if s.phNxpNciHalFwMwVerCheck = NFCSTATUS.success then s.complete wConfigStatus
      else { s with timers := s.timers.cleanup }.phTmlNfcShutdown.cleanAndReturn
    else
      let s := { s with fwDownloadSuccess := true }
      if c.secondRead then s.complete NFCSTATUS.success
      else s.phTmlNfcShutdown.cleanAndReturn
  else s.complete wConfigStatus

/-- The NFCC is initialised: is its firmware the one of the file? -/
def checkFirmware (c : OpenCall γ) (s : OpenState γ) : NFCSTATUS × OpenState γ :=
  let s := (s.resume c.fragmentation).phDnldNfcInitImgInfo c.image
  if s.wFwVerRsp &&& 0x0000FFFF = s.wFwVer.toUInt32 then s.complete NFCSTATUS.success
  else c.forceDownload NFCSTATUS.success s

/-- The commands that initialise the NFCC: whether they succeed. -/
def initCommands (c : OpenCall γ) (pass : ℕ) (s : OpenState γ) : Bool × OpenState γ :=
  let r := s.sendExtCmd .init20 (c.nfcc pass .init20)
  if r.1 then
    if r.2.nciVersion = nciVersion20 then r
    else
      -- the chip answers as NCI 1.0: it is reset once more
      let r := r.2.sendExtCmd .resetAgain (c.nfcc pass .resetAgain)
      if r.1 then
        if r.2.nciVersion = nciVersion20 then
          r.2.sendExtCmd .init20Again (c.nfcc pass .init20Again)
        else r.2.sendExtCmd .init (c.nfcc pass .init)
      else r
  else r

/-- One pass from `init_retry` on. -/
def initPass (c : OpenCall γ) (pass : ℕ) (s : OpenState γ) : InitEnd × OpenState γ :=
  let r := s.sendExtCmd .reset (c.nfcc pass .reset)
  if r.1 then
    let r := c.initCommands pass r.2
    if r.1 then (.initialised, r.2) else (.again, r.2)
  else if maxRetryCount ≤ r.2.retryCnt.toNat then (.forceDownload, r.2)
  else (.again, r.2)

/-- What follows a pass; `again` is where a failed one goes. -/
def afterPass (c : OpenCall γ) (again : OpenState γ → NFCSTATUS × OpenState γ)
    (r : InitEnd × OpenState γ) : NFCSTATUS × OpenState γ :=
  match r.1 with
  | .again => again r.2
  | .forceDownload => c.forceDownload NFCSTATUS.failed r.2
  | .initialised => c.checkFirmware r.2

/-- The passes, with the number of those that may follow; `init_retry_cnt` is three less this
number. -/
def initRetry (c : OpenCall γ) : ℕ → OpenState γ → NFCSTATUS × OpenState γ
  | 0, s => c.afterPass (fun s => s.phTmlNfcShutdown.cleanAndReturn) (c.initPass 3 s)
  | left + 1, s => c.afterPass (c.initRetry left) (c.initPass (2 - left) s)

/-- The client thread runs, and the lock is given back. -/
def started (c : OpenCall γ) (s : OpenState γ) : NFCSTATUS × OpenState γ :=
  if c.firstRead then c.initRetry 3 s else s.phTmlNfcShutdown.cleanAndReturn

/-- What is done under the lock. -/
def configure (c : OpenCall γ) (s : OpenState γ) : NFCSTATUS × OpenState γ :=
  if !c.devNode then s.cleanAndReturn
  else
    let r := (s.phDal4NfcMsgget c.queue).phTmlNfcInit c.tml
    if r.1 ≠ NFCSTATUS.success then r.2.cleanAndReturn
    else if !c.clientThread then r.2.phTmlNfcShutdown.cleanAndReturn
    else c.started r.2.concurrencyUnlock

/-- `phNxpNciHal_open`. -/
def phNxpNciHalOpen (c : OpenCall γ) (s : OpenState γ) : NFCSTATUS × OpenState γ :=
  if s.isOpen then (NFCSTATUS.success, s)
  else
    let r := (s.createTimeoutTimer c.timer).phNxpNciHalInitMonitor c.monitor
    if r.1 then c.configure r.2.concurrencyLock.clearControl
    else (NFCSTATUS.failed, r.2)

end OpenCall

end AliceHal.Pn54x.Hal
