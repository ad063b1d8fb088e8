import AliceHal.Lib.Memory
import AliceHal.Pn54x.Status

/-!
# The HAL Control Block

What `phNxpNciHal_write` reads and writes: the command and response buffers of `nxpncihal_ctrl`,
and the globals of the extensions and of the DTA mode.

The chip type of the build is `PN547C2`. Neither this name nor the names it is compared with are
macros, so all of them are zero to the preprocessor: every `NFC_NXP_CHIP_TYPE == …` holds, and
`NFC_NXP_CHIP_TYPE != PN547C2` does not.

- `HalState`: the control block
- `HalState.respond`: a response prepared in place of the one of the NFCC
-/

namespace AliceHal.Pn54x.Hal

/-- `NCI_MAX_DATA_LEN`. -/
def nciMaxDataLen : ℕ := 300

/-- `phNxpNciProfile_t`. -/
inductive Profile where
  | nfcForum
  | emvCo
  | invalid
  deriving DecidableEq, Repr

/-- `nxpncihal_ctrl` with the globals next to it. `pCmdData` is the memory from the command buffer
on; the buffer itself has `nciMaxDataLen` bytes. -/
structure HalState where
  /-- `halStatus` is `HAL_STATUS_OPEN` -/
  isOpen : Bool
  cmdLen : ℕ
  pCmdData : Lib.Memory
  rspLen : ℕ
  pRspData : Lib.Memory
  /-- `nxpprofile_ctrl.profile_type` -/
  profileType : Profile
  icodeDetected : UInt8
  icodeSendEof : UInt8
  gFelicaReaderMode : UInt8
  dtaCtrlFlag : Bool
  dtaT1tFlag : Bool
  dtaPatternNo : UInt16
  /-- the first `cmd_poll_len` bytes of `cmd_poll` -/
  cmdPoll : List UInt8
  /-- the first `discovery_cmd_len` bytes of `discovery_cmd` -/
  discoveryCmd : List UInt8

namespace HalState

/-- An open HAL: the buffers are zero, and no extension is active. -/
def init : HalState where
  isOpen := true
  cmdLen := 0
  pCmdData := fun _ => 0
  rspLen := 0
  pRspData := fun _ => 0
  profileType := .nfcForum
  icodeDetected := 0
  icodeSendEof := 0
  gFelicaReaderMode := 0
  dtaCtrlFlag := false
  dtaT1tFlag := false
  dtaPatternNo := 0
  cmdPoll := []
  discoveryCmd := []

/-- Prepare this response, and do not send the packet. -/
def respond (s : HalState) (rsp : List UInt8) : NFCSTATUS × HalState :=
  (NFCSTATUS.failed, { s with rspLen := rsp.length, pRspData := s.pRspData.put 0 rsp })

/-- `phNxpNciHal_NfcDep_cmd_ext`. -/
def phNxpNciHalNfcDepCmdExt (s : HalState) : HalState :=
  if s.pCmdData.reads 0 [0x21, 0x03] then
    if s.cmdLen = 6 && s.pCmdData.reads 3 [0x01, 0x02, 0x01] then s
    else { s with cmdPoll := s.pCmdData.slice (s.cmdLen % 256) }
  else s

/-- `phNxpNciHal_discovery_cmd_ext`. -/
def phNxpNciHalDiscoveryCmdExt (s : HalState) : HalState :=
  if 0 < s.cmdLen && s.cmdLen ≤ 50 then { s with discoveryCmd := s.pCmdData.slice s.cmdLen } else s

/-! ## The DTA mode -/

/-- `phNxpEnable_DtaMode`. -/
def phNxpEnableDtaMode (s : HalState) (patternNo : UInt16) : HalState :=
  { s with dtaCtrlFlag := true, dtaT1tFlag := false, dtaPatternNo := patternNo }

/-- `phNxpDisable_DtaMode`. -/
def phNxpDisableDtaMode (s : HalState) : HalState :=
  { s with dtaCtrlFlag := false, dtaT1tFlag := false }

/-- `phNxpDta_T1TEnable`. -/
def phNxpDtaT1TEnable (s : HalState) : HalState := { s with dtaT1tFlag := true }

/-- The response to a blocked `CORE_SET_CONFIG_CMD`. -/
def setConfigRsp : List UInt8 := [0x40, 0x02, 0x02, 0x00, 0x00]

/-- The commands that `phNxpNHal_DtaUpdate` changes or blocks. -/
def dtaCommand (s : HalState) : NFCSTATUS × HalState :=
  let p := s.pCmdData
  if p.reads 0 [0x20, 0x02, 0x17, 0x01, 0x29, 0x14] then s.respond setConfigRsp
  else if p.reads 0 [0x21, 0x08, 0x04, 0xFF, 0xFF] then s.respond [0x41, 0x08, 0x01, 0x00]
  else if p.reads 0 [0x20, 0x02, 0x10, 0x05] && p 10 == 0x32 && p 12 == 0x00 then
    (NFCSTATUS.success, { s with pCmdData := (p.put 12 [0x40]).put 18 [0x02] })
  else if p.reads 0 [0x20, 0x02, 0x0D, 0x04] && p 10 == 0x32 && p 12 == 0x00 then
    s.respond setConfigRsp
  else if p.reads 0 [0x21, 0x03] then
    (NFCSTATUS.success,
      { s with
        pCmdData := (p.put 2 [p 2 + 6, p 3 + 3]).put s.cmdLen [0x80, 0x01, 0x82, 0x01, 0x85, 0x01]
        cmdLen := s.cmdLen + 6 })
  else if p.reads 0 [0x20, 0x02, 0x0D, 0x04] && p 10 == 0x32 && p 12 == 0x20 &&
      s.dtaPatternNo == 0x1000 then s.respond setConfigRsp
  else if p.reads 0 [0x20, 0x02, 0x0D, 0x04, 0x32, 0x01, 0x00] then s.respond setConfigRsp
  else if p.reads 0 [0x20, 0x02, 0x04, 0x01, 0x50, 0x01, 0x00] && s.dtaPatternNo == 0x1000 then
    s.respond setConfigRsp
  else (NFCSTATUS.success, s)

/-- The RID command of a Type 1 Tag: its UID echo becomes zero. -/
def dtaT1t (r : NFCSTATUS × HalState) : NFCSTATUS × HalState :=
  if r.2.dtaT1tFlag && r.2.pCmdData.reads 2 [0x07, 0x78, 0x00, 0x00] then
    (NFCSTATUS.success,
      { r.2 with
        dtaT1tFlag := false
        pCmdData := r.2.pCmdData.put 6 [0x00, 0x00, 0x00, 0x00] })
  else r

/-- `phNxpNHal_DtaUpdate`. -/
def phNxpNHalDtaUpdate (s : HalState) : NFCSTATUS × HalState :=
  if s.dtaCtrlFlag then dtaT1t s.dtaCommand else (NFCSTATUS.success, s)

end HalState

end AliceHal.Pn54x.Hal
