import AliceHal.Lib.TwoRuns
import AliceHal.Pn54x.Hal.CommandBytes
import AliceHal.Pn54x.Hal.Discovery

/-!
# Core Initialisation

`phNxpNciHal_core_initialized` sends the proprietary settings after an open, or brings the NFCC back
to where it was. When a command it needs is not answered it goes to `retry_core_init` and starts
over. How often is counted in a static variable, and only the normal end sets it back.

- `CoreCall`: a call, with the configuration and what the NFCC does during it
- `CoreGlobals`: what is left behind for the next call
- `CoreCall.pass`: one pass, up to its end or to the jump
- `CoreGlobals.phNxpNciHalCoreInitialized`: the passes of a call
-/

namespace AliceHal.Pn54x.Hal

/-! ## Calls -/

/-- Where a command is sent. -/
inductive CoreCmd where
  | resetNci
  | initNci
  | actPropExtn
  | getMwEeprom
  | getClock
  | setClock
  | resetEseSession
  | nfcProfileExtn
  | rfConfBlk (i : Fin 6)
  | coreConfExtn
  | coreMfckeySetting
  | coreRfField
  | setMwEeprom
  | coreStandby
  | coreConf
  | p2pListenModeRouting
  | swpFullPwrMode
  | androidLAidMatchingMode
  | nfccCoreConnCreate
  | nfccModeSetOn
  | uiccSetMode
  | setScreenState
  | discovery
  | lastCommand
  deriving DecidableEq, Repr

/-- A packet in the receive buffer. -/
structure RxPacket where
  pRxData : Lib.Memory
  rxDataLen : ℕ

/-- What the NFCC does after a command. -/
structure Answer where
  /-- the packets that are received while `phNxpNciHal_send_ext_cmd` waits -/
  packets : List RxPacket
  /-- it returns `NFCSTATUS_SUCCESS` -/
  success : Bool

/-- The values of the configuration file. -/
structure CoreConfig where
  /-- the byte array for a command, empty without one -/
  bytes : CoreCmd → List UInt8
  /-- `isNxpConfigModified` -/
  isModified : Bool
  sysClkSrcSel : Option ℕ
  sysClkFreqSel : Option ℕ
  sysClockToCfg : Option ℕ
  swpFullPwrOn : Option ℕ
  aidMatchingPlatform : Option ℕ
  mifareReaderEnable : ℕ

/-- A call of `phNxpNciHal_core_initialized`, with what it meets. The passes of a call are counted
from zero. -/
structure CoreCall where
  /-- `p_core_init_rsp_params` -/
  params : Lib.Memory
  config : CoreConfig
  hal : HalState
  /-- `p_nfc_stack_data_cback` is set -/
  hasDataCback : Bool
  /-- the end of the download that `phNxpNciHal_open` started since the last call -/
  download : Option Bool
  /-- the file `config_eseinfo_path` exists -/
  hasEseInfo : Bool
  /-- `malloc` in a pass succeeds -/
  malloc : ℕ → Bool
  /-- `nci_info.nci_version` after the reset of a pass -/
  nciVersion : ℕ → UInt8
  /-- by pass, command and tries left -/
  nfcc : ℕ → CoreCmd → ℕ → Answer

/-- What one call leaves for the next. -/
structure CoreGlobals where
  retryCoreInitCnt : UInt8
  /-- the last byte of `android_l_aid_matching_mode_on_cmd` -/
  aidMatchingMode : UInt8
  fwDownloadSuccess : Bool
  /-- `phNxpNciClock` -/
  isClockSet : Bool
  clockRxData : List UInt8
  issetConfig : Bool
  /-- `phNxpNciMwEepromArea` -/
  isGetEepromArea : Bool
  mwEepromRxData : List UInt8
  deriving DecidableEq, Repr

/-- The globals when the library is loaded. -/
def CoreGlobals.init : CoreGlobals where
  retryCoreInitCnt := 0
  aidMatchingMode := 0x01
  fwDownloadSuccess := false
  isClockSet := false
  clockRxData := List.replicate 20 0
  issetConfig := false
  isGetEepromArea := false
  mwEepromRxData := List.replicate 32 0

/-- The state during a call. -/
structure CoreState extends CoreGlobals where
  configAccess : Bool
  configSuccess : Bool
  /-- the last value of `status` is `NFCSTATUS_SUCCESS` -/
  status : Bool
  params : Lib.Memory
  hal : HalState
  /-- the commands handed to `phNxpNciHal_send_ext_cmd` -/
  sent : List (List UInt8)

/-- Where a call returns. -/
inductive CoreExit where
  /-- the HAL is not open -/
  | notOpen
  /-- the passes are used up -/
  | gaveUp
  /-- no buffer -/
  | noMemory
  /-- the HAL has answered the last command itself -/
  | answered
  /-- `invoke_callback`, after the command that was sent last is repeated -/
  | invokeCallback
  /-- the normal end -/
  | complete
  deriving DecidableEq, Repr

/-- How a pass is left before its end. -/
inductive PassExit where
  /-- `goto retry_core_init` -/
  | retryCoreInit
  | leave (exit : CoreExit)
  deriving DecidableEq, Repr

/-- Programs over the state of a call. -/
abbrev CoreM := EStateM PassExit CoreState

/-! ## Responses -/

/-- The header of a response to `CORE_SET_CONFIG_CMD` or `CORE_GET_CONFIG_CMD`. -/
def RxPacket.isConfigRsp (x : RxPacket) : Bool :=
  x.pRxData 0 == 0x40 && (x.pRxData 1 == 0x02 || x.pRxData 1 == 0x03)

/-- Bytes stored from the start of an array of `n` bytes. -/
def fillArray (n : ℕ) (new old : List UInt8) : List UInt8 := (new ++ old.drop new.length).take n

namespace CoreState

/-- The response is copied to where it is waited for. -/
def copyResponse (s : CoreState) (x : RxPacket) : CoreState :=
  let rsp := x.pRxData.slice x.rxDataLen
  if x.isConfigRsp then
    if s.isClockSet then { s with clockRxData := fillArray 20 rsp s.clockRxData }
    else if s.isGetEepromArea then
      { s with mwEepromRxData := fillArray 32 (rsp.drop 8) s.mwEepromRxData }
    else s
  else s

/-- `phNxpNciHal_print_res_status`. -/
def phNxpNciHalPrintResStatus (s : CoreState) (x : RxPacket) : CoreState :=
  let s := s.copyResponse x
  if x.pRxData 2 != 0 && s.configAccess && x.pRxData 3 != 0 then { s with configSuccess := false }
  else s

end CoreState

/-! ## Commands -/

/-- `cmd_init_nci2_0`. -/
def cmdInitNci20 : List UInt8 := [0x20, 0x01, 0x02, 0x00, 0x00]

/-- `get_mw_eeprom_cmd`. -/
def getMwEepromCmd : List UInt8 := [0x20, 0x03, 0x03, 0x01, 0xA0, 0x0F]

/-- The header of `set_mw_eeprom_cmd`. -/
def setMwEepromHeader : List UInt8 := [0x20, 0x02, 0x24, 0x01, 0xA0, 0x0F, 0x20]

/-- `get_clock_cmd`. -/
def getClockCmd : List UInt8 := [0x20, 0x03, 0x07, 0x03, 0xA0, 0x02, 0xA0, 0x03, 0xA0, 0x04]

/-- `reset_ese_session_identity_set`. -/
def resetEseSessionIdentitySet : List UInt8 :=
  [0x20, 0x02, 0x17, 0x02, 0xA0, 0xEA, 0x08, 0xFF, 0xFF, 0xFF, 0xFF, 0xFF, 0xFF, 0xFF, 0xFF, 0xA0,
    0xEB, 0x08, 0xFF, 0xFF, 0xFF, 0xFF, 0xFF, 0xFF, 0xFF, 0xFF]

/-- `p2p_listen_mode_routing_cmd`. -/
def p2pListenModeRoutingCmd : List UInt8 :=
  [0x21, 0x01, 0x07, 0x00, 0x01, 0x01, 0x03, 0x00, 0x01, 0x05]

/-- `swp_full_pwr_mode_on_cmd` with its last byte. -/
def swpFullPwrModeOnCmd (on : UInt8) : List UInt8 := [0x20, 0x02, 0x05, 0x01, 0xA0, 0xF1, 0x01, on]

/-- `android_l_aid_matching_mode_on_cmd` with its last byte. -/
def androidLAidMatchingModeOnCmd (on : UInt8) : List UInt8 :=
  [0x20, 0x02, 0x05, 0x01, 0xA0, 0x91, 0x01, on]

/-- `nfcc_core_conn_create`. -/
def nfccCoreConnCreate : List UInt8 := [0x20, 0x04, 0x06, 0x03, 0x01, 0x01, 0x02, 0x01, 0x01]

/-- `nfcc_mode_set_on`. -/
def nfccModeSetOn : List UInt8 := [0x22, 0x01, 0x02, 0x01, 0x01]

/-- `uicc_set_mode`. -/
def uiccSetMode : List UInt8 := [0x22, 0x01, 0x02, 0x02, 0x01]

/-- `set_screen_state` with its last byte. -/
def setScreenState (off : UInt8) : List UInt8 := [0x2F, 0x15, 0x01, off]

namespace CoreConfig

/-- A clock value, or its default when it is out of range. -/
def clockValue (found : Option ℕ) (max default : UInt8) : UInt8 :=
  let v := UInt8.ofNat (found.getD 0)
  if v < 1 || max < v then default else v

/-- `nxpprofile_ctrl.bClkSrcVal`: 1 is the crystal, 2 the PLL. -/
def bClkSrcVal (c : CoreConfig) : UInt8 := clockValue c.sysClkSrcSel 2 2

/-- `nxpprofile_ctrl.bClkFreqVal`. -/
def bClkFreqVal (c : CoreConfig) : UInt8 := clockValue c.sysClkFreqSel 6 2

/-- `nxpprofile_ctrl.bTimeout`. -/
def bTimeout (c : CoreConfig) : UInt8 := clockValue c.sysClockToCfg 6 1

/-- The index of the frequency: the six values follow each other. -/
def clockIndex (c : CoreConfig) : UInt8 := c.bClkFreqVal - 1

/-- `check_config_parameter`: the byte that the NFCC should have for the clock. -/
def checkConfigParameter (c : CoreConfig) : UInt8 :=
  if c.bClkSrcVal = 2 then 0x02 ||| c.clockIndex else 0x08

/-- `set_clock_cmd`. -/
def setClockCmd (c : CoreConfig) : List UInt8 :=
  if c.bClkSrcVal = 2 then
    [0x20, 0x02, 0x09, 0x02, 0xA0, 0x03, 0x01, c.clockIndex, 0xA0, 0x04, 0x01, c.bTimeout]
  else [0x20, 0x02, 0x05, 0x01, 0xA0, 0x03, 0x01, 0x08]

end CoreConfig

/-! ## One pass -/

namespace CoreCall

/-- The call is a recovery: the first byte says which command was sent last. -/
def isRecovery (c : CoreCall) : Bool := 0 < c.params 0 && c.params 0 < 4

section Pass
variable (c : CoreCall) (k : ℕ)

/-- `phNxpNciHal_send_ext_cmd`. -/
def sendExtCmd (cmd : CoreCmd) (left : ℕ) (bytes : List UInt8) : CoreM Bool :=
  let a := c.nfcc k cmd left
  modifyGet fun s =>
    (a.success, a.packets.foldl CoreState.phNxpNciHalPrintResStatus
      { s with sent := s.sent ++ [bytes] })

/-- Leave the pass here. -/
def exitIf (b : Bool) (e : PassExit) : CoreM Unit := if b then throw e else pure ()

/-- A command without which the pass is started over. -/
def need (cmd : CoreCmd) (bytes : List UInt8) : CoreM Unit := do
  let success ← c.sendExtCmd k cmd 0 bytes
  exitIf (!success) .retryCoreInit
  modify fun s => { s with status := true }

/-- A command of the configuration file. -/
def needConfigured (cmd : CoreCmd) : CoreM Unit :=
  if (c.config.bytes cmd).length = 0 then pure () else c.need k cmd (c.config.bytes cmd)

/-- From `retry_core_init` on: the NFCC is reset. -/
def restart : CoreM Unit := do
  modify fun s => { s with configAccess := false }
  c.need k .resetNci cmdResetNci
  exitIf (c.params 0 == 2) (.leave .invokeCallback)
  c.need k .initNci (if c.nciVersion k = nciVersion20 then cmdInitNci20 else cmdInitNci)
  exitIf (c.params 0 == 3) (.leave .invokeCallback)

/-- `phNxpNciHal_get_mw_eeprom`, with the tries left. -/
def getMwEeprom : ℕ → CoreM Bool
  | 0 => pure false
  | left + 1 => do
    modify fun s => { s with isGetEepromArea := true }
    let success ← c.sendExtCmd k .getMwEeprom left getMwEepromCmd
    modify fun s => { s with isGetEepromArea := false }
    if success then do
      modify fun s =>
        if s.mwEepromRxData.getD 12 0 = 0 then s else { s with fwDownloadSuccess := true }
      pure true
    else getMwEeprom left

/-- `phNxpNciHal_set_mw_eeprom`, with the tries left. -/
def setMwEeprom (bytes : List UInt8) : ℕ → CoreM Bool
  | 0 => pure false
  | left + 1 => do
    let success ← c.sendExtCmd k .setMwEeprom left bytes
    if success then pure true else setMwEeprom bytes left

/-- `phNxpNciHal_check_clock_config`. When it fails, the clock is still waited for. -/
def checkClockConfig : CoreM Unit := do
  modify fun s => { s with isClockSet := true }
  let success ← c.sendExtCmd k .getClock 0 getClockCmd
  exitIf (!success) .retryCoreInit
  modify fun s =>
    { s with
      issetConfig := !(s.clockRxData.getD 12 0 == c.config.checkConfigParameter &&
        s.clockRxData.getD 16 0 == c.config.bTimeout)
      isClockSet := false
      status := true }

/-- `phNxpNciHal_set_clock`, with the tries left. -/
def setClock : ℕ → CoreM Unit
  | 0 => pure ()
  | left + 1 => do
    modify fun s => { s with isClockSet := true }
    let _ ← c.sendExtCmd k .setClock left c.config.setClockCmd
    modify fun s => { s with isClockSet := false }
    let status ← Lib.read fun s => s.clockRxData.getD 3 0
    if status = 0 then pure () else setClock left

/-- The clock, when it is not the one of the configuration file. -/
def applyClock : CoreM Unit := do
  let apply ← Lib.read fun s => c.config.isModified || s.fwDownloadSuccess || s.issetConfig
  if apply then do
    c.setClock k 4
    modify fun s => { s with issetConfig := false }
  else pure ()

/-- `phNxpNciHal_check_factory_reset`. -/
def checkFactoryReset : CoreM Unit :=
  if c.hasEseInfo then pure ()
  else do
    let _ ← c.sendExtCmd k .resetEseSession 0 resetEseSessionIdentitySet
    pure ()

/-- The settings that are sent once for each configuration file and each firmware. -/
def rfSettings : List CoreCmd :=
  [.rfConfBlk 0, .rfConfBlk 1, .rfConfBlk 2, .rfConfBlk 3, .rfConfBlk 4, .rfConfBlk 5,
    .coreConfExtn, .coreMfckeySetting, .coreRfField]

/-- The settings, and the mark in the EEPROM that they are done. -/
def applySettings : CoreM Unit := do
  let apply ← Lib.read fun s => c.config.isModified || s.fwDownloadSuccess
  if apply then do
    modify fun s => { s with fwDownloadSuccess := false }
    rfSettings.forM (c.needConfigured k)
    modify fun s => { s with mwEepromRxData := s.mwEepromRxData.set 12 0 }
    let area ← Lib.read fun s => s.mwEepromRxData
    let success ← c.setMwEeprom k (setMwEepromHeader ++ area) 4
    modify fun s => { s with status := success }
  else pure ()

/-- `SWP_FULL_PWR_ON`. -/
def swpFullPwr : CoreM Unit :=
  match c.config.swpFullPwrOn with
  | none => pure ()
  | some v => c.need k .swpFullPwrMode (swpFullPwrModeOnCmd (if v = 1 then 0x01 else 0x00))

/-- `AID_MATCHING_PLATFORM`. The command is static: a zero in it stays. -/
def aidMatching : CoreM Unit :=
  if c.config.aidMatchingPlatform = some 1 then do
    let on ← Lib.read fun s => s.aidMatchingMode
    c.need k .androidLAidMatchingMode (androidLAidMatchingModeOnCmd on)
  else if c.config.aidMatchingPlatform = some 2 then do
    modify fun s => { s with aidMatchingMode := 0x00 }
    c.need k .androidLAidMatchingMode (androidLAidMatchingModeOnCmd 0x00)
  else pure ()

/-- The last command of the stack is sent again, unless the recovery has put the NFCC there. -/
def sendsLast (rfState : UInt8) (params : Lib.Memory) : Bool :=
  params 35 != 0 && !(params.reads 36 [0x21, 0x03] && rfState == 1) &&
    !(params.reads 36 [0x21, 0x06] && params 39 == 0x00 && rfState == 0x00)

/-- `phNxpNciHal_write_ext` on the last command, in the memory from byte 36 on. -/
def writeLast (r : Lib.Memory × HalState) : NFCSTATUS × Lib.Memory × HalState :=
  let last : HalState :=
    { r.2 with pCmdData := fun i => r.1 (36 + i), cmdLen := (r.1 35).toNat }
  let w := last.phNxpNciHalWriteExt c.config.mifareReaderEnable
  let params : Lib.Memory := fun i =>
    if i = 35 then UInt8.ofNat w.2.cmdLen else if i < 36 then r.1 i else w.2.pCmdData (i - 36)
  (w.1, params, { w.2 with pCmdData := r.2.pCmdData, cmdLen := r.2.cmdLen })

/-- The last command, or the answer to it. -/
def lastCommand : CoreM Unit := do
  let sends ← Lib.read fun s => sendsLast (c.params 1) s.params
  if sends then do
    let w ← Lib.read fun s => c.writeLast (s.params, s.hal)
    modify fun s => { s with params := w.2.1, hal := w.2.2 }
    exitIf (w.1 != NFCSTATUS.success) (.leave .answered)
    c.need k .lastCommand
      (Lib.Memory.slice (fun i => w.2.1 (36 + i)) (w.2.1 35).toNat)
  else pure ()

/-- The screen state, and the discovery when it was running. -/
def screenState : CoreM Unit :=
  if c.params 1 = 1 then do
    c.need k .setScreenState (setScreenState 0x00)
    let discovery ← Lib.read fun s =>
      Lib.Memory.slice (fun i => s.params (3 + i)) (s.params 2).toNat
    c.need k .discovery discovery
  else c.need k .setScreenState (setScreenState 0x01)

/-- What only a recovery sends. -/
def recover : CoreM Unit :=
  if c.isRecovery then do
    c.need k .nfccCoreConnCreate nfccCoreConnCreate
    c.need k .nfccModeSetOn nfccModeSetOn
    c.need k .uiccSetMode uiccSetMode
    c.screenState k
    c.lastCommand k
  else pure ()

/-- The P2P routing, in a recovery without a last command. -/
def p2pRouting : CoreM Unit := do
  let reset ← Lib.read fun s => c.isRecovery && s.params 35 == 0
  if reset then c.need k .p2pListenModeRouting p2pListenModeRoutingCmd else pure ()

/-- The first half of a pass: what has to be read from the NFCC. -/
def inquire (label : Bool) : CoreM Unit := do
  (if label then c.restart k else pure ())
  exitIf (!c.malloc k) (.leave .noMemory)
  modify fun s => { s with configAccess := true }
  c.needConfigured k .actPropExtn
  let success ← c.getMwEeprom k 4
  exitIf (!success) .retryCoreInit
  c.checkClockConfig k

/-- The second half: the settings. -/
def configure : CoreM Unit := do
  c.applyClock k
  c.checkFactoryReset k
  modify fun s => { s with configAccess := true }
  c.needConfigured k .nfcProfileExtn
  c.applySettings k
  c.needConfigured k .coreStandby
  c.needConfigured k .coreConf
  modify fun s => { s with configAccess := false }
  c.p2pRouting k
  c.swpFullPwr k
  c.aidMatching k
  c.recover k

/-- One pass, from `retry_core_init` or from the start of a call that is no recovery. -/
def pass (label : Bool) : CoreM Unit := do
  c.inquire k label
  c.configure k

end Pass

end CoreCall

/-! ## Calls in a row -/

/-- What the stack is told. -/
inductive CoreNotice where
  | nothing
  /-- `NCI_HAL_POST_INIT_CPLT_MSG` -/
  | postInitCplt
  /-- `NCI_HAL_ERROR_MSG` -/
  | error
  /-- `NCI_HAL_RX_MSG`, with the response of the HAL -/
  | rxMsg
  /-- the data callback; the first byte of the parameters is zero then -/
  | dataCback
  deriving DecidableEq, Repr

/-- What is seen of a call. -/
structure CoreOutcome where
  status : NFCSTATUS
  exit : CoreExit
  /-- the passes made -/
  passes : ℕ
  sent : List (List UInt8)
  notice : CoreNotice
  deriving DecidableEq, Repr

namespace CoreCall
variable (c : CoreCall)

/-- The passes from `retry_core_init` on, numbered from `k`. `left` is four less the counter, and a
counter above three ends the call. -/
def retryCoreInit : ℕ → ℕ → CoreState → CoreExit × ℕ × CoreState
  | 0, k, s => (.gaveUp, k, s)
  | left + 1, k, s =>
    match (c.pass k true).run s with
    | .ok _ s => (.complete, k + 1, s)
    | .error (.leave exit) s => (exit, k + 1, s)
    | .error .retryCoreInit s =>
      retryCoreInit left (k + 1) { s with retryCoreInitCnt := s.retryCoreInitCnt + 1 }

/-- All passes of a call to an open HAL. -/
def passes (s : CoreState) : CoreExit × ℕ × CoreState :=
  if c.isRecovery then c.retryCoreInit (4 - s.retryCoreInitCnt.toNat) 0 s
  else
    match (c.pass 0 false).run s with
    | .ok _ s => (.complete, 1, s)
    | .error (.leave exit) s => (exit, 1, s)
    | .error .retryCoreInit s =>
      let s := { s with retryCoreInitCnt := s.retryCoreInitCnt + 1 }
      c.retryCoreInit (4 - s.retryCoreInitCnt.toNat) 1 s

/-- The returned status. -/
def returned (configSuccess : Bool) : CoreExit → NFCSTATUS
  | .notOpen | .gaveUp | .noMemory => NFCSTATUS.failed
  | .answered => NFCSTATUS.success
  | .invokeCallback | .complete => if configSuccess then NFCSTATUS.success else NFCSTATUS.failed

/-- What the stack is told at the end. -/
def notice (status : Bool) : CoreExit → CoreNotice
  | .notOpen | .gaveUp | .noMemory => .nothing
  | .answered => .rxMsg
  | .invokeCallback => if c.hasDataCback then .dataCback else .nothing
  | .complete =>
    if c.isRecovery then if c.hasDataCback then .dataCback else .nothing
    else if status then .postInitCplt else .error

end CoreCall

namespace CoreGlobals

/-- The state at the start of a call. The value of `config_access` is of no use: it is set before the
first command. -/
def enter (g : CoreGlobals) (c : CoreCall) : CoreState :=
  { g with
    fwDownloadSuccess := c.download.getD g.fwDownloadSuccess
    configAccess := false
    configSuccess := true
    status := true
    params := c.params
    hal := c.hal
    sent := [] }

/-- The end of a call. The counter is set back at the normal end only. -/
def exitFrom (c : CoreCall) (r : CoreExit × ℕ × CoreState) : CoreGlobals × CoreOutcome :=
  let s := r.2.2
  ({ s.toCoreGlobals with
      retryCoreInitCnt := if r.1 = .complete then 0 else s.retryCoreInitCnt },
    { status := CoreCall.returned s.configSuccess r.1
      exit := r.1
      passes := r.2.1
      sent := s.sent
      notice := c.notice s.status r.1 })

/-- `phNxpNciHal_core_initialized`. -/
def phNxpNciHalCoreInitialized (g : CoreGlobals) (c : CoreCall) : CoreGlobals × CoreOutcome :=
  if c.hal.isOpen then exitFrom c (c.passes (g.enter c)) else exitFrom c (.notOpen, 0, g.enter c)

end CoreGlobals

end AliceHal.Pn54x.Hal
