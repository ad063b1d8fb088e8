import AliceHal.Pn54x.Status

/-!
# Download Context

The types and constants of `phDnldNfc_Internal.h`, `phDnldNfc_Cmd.h` and `phDnldNfc.h`: the
events and states of the download handler, the frame buffer, the read/write bookkeeping and
the context that holds them.

A pointer is an `Option`: `none` is `NULL`, `some bytes` the memory it points to. The fields
`tPipeLineWrFrameInfo` and `tTKey`, which no function reads, are left out. The integer fields
are natural numbers; the functions wrap them to 16 bits where the source's arithmetic does.
-/

namespace AliceHal.Pn54x.PhDnldNfc

/-! ## Constants -/

/-- `PHDNLDNFC_CMDRESP_MAX_BUFF_SIZE`; the I2C fragment size (512) does not lower it. -/
def cmdRespMaxBuffSize : Nat := 0x100

/-- `PHDNLDNFC_FRAME_HDR_LEN` -/
def frameHdrLen : Nat := 0x02

/-- `PHDNLDNFC_FRAME_CRC_LEN` -/
def frameCrcLen : Nat := frameHdrLen

/-- `PHDNLDNFC_CMDRESP_MAX_PLD_SIZE` -/
def cmdRespMaxPldSize : Nat := cmdRespMaxBuffSize - (frameHdrLen + frameCrcLen)

/-- `PHDNLDNFC_MIN_PLD_LEN` -/
def minPldLen : Nat := 0x04

/-- `PHDNLDNFC_EEPROM_LOG_START_ADDR` -/
def eepromLogStartAddr : Nat := 0x201F80

/-- `PHDNLDNFC_EEPROM_LOG_END_ADDR` -/
def eepromLogEndAddr : Nat := 0x201FBF

/-- `PHDNLDNFC_MAX_LOG_SIZE` -/
def maxLogSize : Nat := (eepromLogEndAddr - eepromLogStartAddr) + 1

/-- `PHDNLDNFC_USERDATA_EEPROM_OFFSET`. The chip names are undefined macros in the build, so
the preprocessor takes the first branch of the chip-type chain. -/
def userdataEepromOffset : Nat := 0x02BC

/-- `PHDNLDNFC_USERDATA_EEPROM_LEN` -/
def userdataEepromLen : Nat := 0x0C00

/-- `PHDNLDNFC_RSP_TIMEOUT` in milliseconds -/
def rspTimeout : Nat := 2500

/-- `PHDNLDNFC_RETRY_FRAME_WRITE` in milliseconds -/
def retryFrameWrite : Nat := 50

/-- `PHDNLDNFC_FIRST_FRAGFRAME_RESP` -/
def firstFragFrameResp : UInt8 := 0x2D

/-- `PHDNLDNFC_NEXT_FRAGFRAME_RESP` -/
def nextFragFrameResp : UInt8 := 0x2E

/-! ## Enumerations -/

/-- Download event types. -/
inductive Event where
  | invalid | reset | getVer | write | read | integChk | getSesnSt | log | force | raw
  deriving DecidableEq, Repr

/-- Handler states of one event. -/
inductive State where
  | init | send | recv | timer | response | pipelined | invalid
  deriving DecidableEq, Repr

/-- Whether the handler is processing a download request. -/
inductive Transition where
  | idle | busy | invalid
  deriving DecidableEq, Repr

/-- Frame input type of the command in process. -/
inductive FrameInputType where
  | ftNone | chkIntg | ftWrite | ftLog | ftForce | ftRead | ftRaw
  deriving DecidableEq, Repr

/-- Download commands. -/
inductive CmdId where
  | none | reset | getVersion | checkIntegrity | write | read | log | force | getSessionState
  deriving DecidableEq, Repr

/-- The command byte on the wire. -/
def CmdId.toByte : CmdId → UInt8
  | .none => 0x00
  | .reset => 0xF0
  | .getVersion => 0xF1
  | .checkIntegrity => 0xE0
  | .write => 0xC0
  | .read => 0xA2
  | .log => 0xA7
  | .force => 0xD0
  | .getSessionState => 0xF2

/-! ## Records -/

/-- A caller's buffer: pointer and length. -/
structure Buff where
  pBuff : Option (List UInt8)
  wLen : Nat
  deriving DecidableEq, Repr

/-- The buffer that holds the command or response frame. -/
structure FrameInfo where
  dwSendlength : Nat
  aFrameBuff : Lib.Buffer cmdRespMaxBuffSize
  deriving DecidableEq, Repr

structure FrameInput where
  type : FrameInputType
  dwAddr : Nat
  deriving DecidableEq, Repr

structure RspTimerInfo where
  dwRspTimerId : Nat
  TimerStatus : Nat
  wTimerExpStatus : NFCSTATUS
  deriving DecidableEq, Repr

/-- Read/write processing info. -/
structure RWInfo where
  dwAddr : Nat
  wOffset : Nat
  wRemBytes : Nat
  wRemChunkBytes : Nat
  wRWPldSize : Nat
  wBytesToSendRecv : Nat
  wBytesRead : Nat
  bFramesSegmented : Bool
  bFirstWrReq : Bool
  bFirstChunkResp : Bool
  deriving DecidableEq, Repr

/-- The download context. -/
structure DlContext where
  nxp_nfc_fw : Option (List UInt8)
  nxp_nfc_fwp : Option (List UInt8)
  nxp_nfc_fwp_len : Nat
  nxp_nfc_fw_len : Nat
  bResendLastFrame : Bool
  tDnldInProgress : Transition
  tCurrEvent : Event
  tCurrState : State
  UserCb : Option Nat
  UserCtxt : Option Nat
  tUserData : Buff
  tRspBuffInfo : Buff
  tCmdRspFrameInfo : FrameInfo
  wCmdSendStatus : NFCSTATUS
  tCmdId : CmdId
  FrameInp : FrameInput
  TimerInfo : RspTimerInfo
  tRWInfo : RWInfo
  tLastStatus : UInt8
  deriving DecidableEq, Repr

/-- What TML reports to its completion callback. -/
structure TransactInfo where
  wStatus : NFCSTATUS
  pBuff : Option (List UInt8)
  wLength : Nat
  deriving DecidableEq, Repr

/-! ## Zeroed memory -/

/-- A frame buffer after `memset`. -/
def zeroFrameBuff : Lib.Buffer cmdRespMaxBuffSize := Lib.Buffer.zero _

/-- `tRWInfo` after `memset`. -/
def RWInfo.zero : RWInfo := ⟨0, 0, 0, 0, 0, 0, 0, false, false, false⟩

/-- A context after `memset`. -/
def DlContext.zero : DlContext where
  nxp_nfc_fw := none
  nxp_nfc_fwp := none
  nxp_nfc_fwp_len := 0
  nxp_nfc_fw_len := 0
  bResendLastFrame := false
  tDnldInProgress := .idle
  tCurrEvent := .invalid
  tCurrState := .init
  UserCb := none
  UserCtxt := none
  tUserData := ⟨none, 0⟩
  tRspBuffInfo := ⟨none, 0⟩
  tCmdRspFrameInfo := ⟨0, zeroFrameBuff⟩
  wCmdSendStatus := NFCSTATUS.success
  tCmdId := .none
  FrameInp := ⟨.ftNone, 0⟩
  TimerInfo := ⟨0, 0, NFCSTATUS.success⟩
  tRWInfo := RWInfo.zero
  tLastStatus := PhDlStatus.ok

end AliceHal.Pn54x.PhDnldNfc
