import AliceHal.Pn54x.Status

/-!
# Commands of the Self Tests

The static tables of `phNxpNciHal_SelfTest.c` with their validators. Every entry is a command with
the response and the notification that are expected for it; the chip type is `PN547C2`.

- `NciTestData`, `TransactInfo`: an entry of a table, and a packet that was read
- `Validator.accepts`: what the validators return
- `Validator.record`: what the validators of the antenna store
- `Table`, `testData`: the tables
-/

namespace AliceHal.Pn54x

/-- The NFCC did not answer in time. -/
def NFCSTATUS.responseTimeout : NFCSTATUS := 0x0025

namespace SelfTest

/-! ## Packets -/

/-- `nci_data_t`; the array is zero after the bytes that are given. -/
structure NciData where
  len : ℕ
  pData : List UInt8
  deriving DecidableEq, Repr

/-- `phTmlNfc_TransactInfo_t`. The buffer holds the packet and, after it, what was there before. -/
structure TransactInfo where
  wStatus : NFCSTATUS
  pBuff : ℕ → UInt8
  wLength : ℕ

/-- `memcmp` of an expected packet with the buffer. -/
def NciData.matches (exp : NciData) (act : TransactInfo) : Bool :=
  (List.range exp.len).all fun i => exp.pData.getD i 0 == act.pBuff i

/-- `phAntenna_St_Resp_t`: the limits of the antenna test. -/
structure AntennaStResp where
  wTxdoMeasuredRangeMin : UInt16
  wTxdoMeasuredRangeMax : UInt16
  wTxdoMeasuredTolerance : UInt16
  wAgcValue : UInt16
  wAgcValueTolerance : UInt16
  wAgcValuewithfixedNFCLD : UInt16
  wAgcValuewithfixedNFCLDTolerance : UInt16
  wAgcDifferentialWithOpen1 : UInt16
  wAgcDifferentialWithOpenTolerance1 : UInt16
  wAgcDifferentialWithOpen2 : UInt16
  wAgcDifferentialWithOpenTolerance2 : UInt16
  deriving DecidableEq, Repr

/-- What the antenna test measures. -/
inductive Measurement where
  | txldo
  | agcValue
  | agcNfcld
  | agcDifferential
  deriving DecidableEq, Repr

/-! ## Validators -/

/-- The validators, `st_validator_*`. -/
inductive Validator where
  | null
  | testEquals
  | testSWP1Vltg
  | testAntenna (m : Measurement)
  deriving DecidableEq, Repr

/-- A tolerance in per cent. The product is one of `int`, taken to wrap around where it overflows, and
the quotient is cut towards zero. -/
def tolerance (value percent : UInt16) : ℤ :=
  (value.toBitVec.setWidth 32 * percent.toBitVec.setWidth 32).toInt.tdiv 100

-- a product of 2³¹ or more is negative
example : tolerance 65535 32769 = -21474508 := by decide

/-- Two bytes of the buffer, low byte first. -/
def TransactInfo.word (act : TransactInfo) (i : ℕ) : ℤ :=
  (act.pBuff (i + 1)).toNat * 256 + (act.pBuff i).toNat

/-- The current of the TxLDO in mA: 0.40 mA for each step above 50 or 20 mA, cut to an integer. -/
def TransactInfo.txldoCurrent (act : TransactInfo) : ℤ :=
  (2 * (act.pBuff 4).toNat / 5 : ℕ) + (if act.pBuff 5 = 0x00 then 50 else 20)

/-- A value within its tolerance. -/
def within (measured : ℤ) (value percent : UInt16) : Bool :=
  value.toNat - tolerance value percent ≤ measured && measured ≤ value.toNat + tolerance value percent

/-- The measured values against the limits. -/
def AntennaStResp.inLimits (resp : AntennaStResp) (act : TransactInfo) : Measurement → Bool
  | .txldo =>
    act.txldoCurrent ≤ resp.wTxdoMeasuredRangeMax.toNat +
        tolerance resp.wTxdoMeasuredRangeMax resp.wTxdoMeasuredTolerance &&
      resp.wTxdoMeasuredRangeMin.toNat -
        tolerance resp.wTxdoMeasuredRangeMin resp.wTxdoMeasuredTolerance ≤ act.txldoCurrent
  | .agcValue => within (act.word 4) resp.wAgcValue resp.wAgcValueTolerance
  | .agcNfcld =>
    within (act.word 4) resp.wAgcValuewithfixedNFCLD resp.wAgcValuewithfixedNFCLDTolerance
  | .agcDifferential =>
    within (act.word 4) resp.wAgcDifferentialWithOpen1 resp.wAgcDifferentialWithOpenTolerance1 &&
      within (act.word 6) resp.wAgcDifferentialWithOpen2 resp.wAgcDifferentialWithOpenTolerance2

/-- The response to a measurement has the length of one and its status is success. -/
def TransactInfo.measured (act : TransactInfo) : Bool :=
  act.pBuff 2 == 0x05 && act.pBuff 3 == 0x00

/-- What a validator returns. -/
def Validator.accepts (exp : NciData) (act : TransactInfo) : Validator → Bool
  | .null => true
  | .testEquals => exp.len ≤ act.wLength && exp.matches act
  | .testSWP1Vltg =>
    act.wLength == 0x05 && exp.matches act && (act.pBuff 4 == 0x01 || act.pBuff 4 == 0x02)
  | .testAntenna _ => act.measured

/-- The result of a measurement, for the limits in force. -/
def verdict (resp : AntennaStResp) (act : TransactInfo) (m : Measurement) : NFCSTATUS :=
  if act.measured && resp.inLimits act m then .success else .failed

/-- `gtxldo_status`, `gagc_value_status`, `gagc_nfcld_status` and `gagc_differential_status`. -/
abbrev AntennaStatus := Measurement → NFCSTATUS

/-- What a validator stores: those of the antenna the result of their measurement. -/
def Validator.record (resp : AntennaStResp) (act : TransactInfo) (status : AntennaStatus) :
    Validator → AntennaStatus
  | .testAntenna m => Function.update status m (verdict resp act m)
  | _ => status

/-! ## The tables -/

/-- `nci_test_data_t`. -/
structure NciTestData where
  cmd : NciData
  expRsp : NciData
  expNtf : NciData
  rspValidator : Validator
  ntfValidator : Validator
  deriving DecidableEq, Repr

/-- The static arrays. -/
inductive Table where
  | swp2
  | swp1
  | prbs
  | rfFieldOn
  | rfFieldOff
  | downloadPin1
  | downloadPin2
  | antennaSelf
  deriving DecidableEq, Repr

/-- An entry without a notification. -/
def withoutNtf (cmd expRsp : NciData) (rspValidator : Validator) : NciTestData :=
  ⟨cmd, expRsp, ⟨0x00, [0x00]⟩, rspValidator, .null⟩

def coreReset : NciTestData :=
  withoutNtf ⟨0x04, [0x20, 0x00, 0x01, 0x00]⟩ ⟨0x06, [0x40, 0x00, 0x03, 0x00, 0x10, 0x00]⟩
    .testEquals

def coreInit : NciTestData :=
  withoutNtf ⟨0x03, [0x20, 0x01, 0x00]⟩ ⟨0x04, [0x40, 0x01, 0x17, 0x00]⟩ .testEquals

def propAct : NciTestData :=
  withoutNtf ⟨0x03, [0x2F, 0x02, 0x00]⟩ ⟨0x04, [0x4F, 0x02, 0x05, 0x00]⟩ .testEquals

/-- The contents of the arrays when the process starts. -/
def testData : Table → List NciTestData
  | .swp2 =>
    [coreReset, coreInit, propAct,
      ⟨⟨0x04, [0x2F, 0x3E, 0x01, 0x01]⟩, ⟨0x04, [0x4F, 0x3E, 0x01, 0x00]⟩,
        ⟨0x04, [0x6F, 0x3E, 0x02, 0x00]⟩, .testEquals, .testEquals⟩]
  | .swp1 =>
    [coreReset, coreInit, propAct,
      ⟨⟨0x04, [0x2F, 0x3E, 0x01, 0x00]⟩, ⟨0x04, [0x4F, 0x3E, 0x01, 0x00]⟩,
        ⟨0x04, [0x6F, 0x3E, 0x02, 0x00]⟩, .testEquals, .testSWP1Vltg⟩]
  | .prbs => [coreReset, coreInit]
  | .rfFieldOn =>
    [coreReset, coreInit,
      withoutNtf ⟨0x08, [0x2F, 0x3D, 0x05, 0x20, 0x01, 0x00, 0x00, 0x00]⟩
        ⟨0x04, [0x4F, 0x3D, 0x05, 0x00]⟩ .testEquals]
  | .rfFieldOff =>
    [coreReset, coreInit,
      withoutNtf ⟨0x08, [0x2F, 0x3D, 0x05, 0x20, 0x00, 0x00, 0x00, 0x00]⟩
        ⟨0x04, [0x4F, 0x3D, 0x05, 0x00]⟩ .testEquals]
  | .downloadPin1 => [coreReset]
  | .downloadPin2 =>
    [withoutNtf ⟨0x08, [0x00, 0x04, 0xD0, 0x11, 0x00, 0x00, 0x5B, 0x46]⟩
      ⟨0x08, [0x00, 0x04, 0x00, 0x00, 0x00, 0x00, 0x87, 0x16]⟩ .testEquals]
  | .antennaSelf =>
    [coreReset, coreInit, propAct,
      withoutNtf ⟨0x05, [0x2F, 0x3D, 0x02, 0x01, 0x80]⟩ ⟨0x03, [0x4F, 0x3D, 0x05]⟩
        (.testAntenna .txldo),
      withoutNtf ⟨0x07, [0x2F, 0x3D, 0x04, 0x02, 0xCD, 0x60, 0x03]⟩ ⟨0x03, [0x4F, 0x3D, 0x05]⟩
        (.testAntenna .agcValue),
      withoutNtf ⟨0x07, [0x2F, 0x3D, 0x04, 0x04, 0x20, 0x08, 0x20]⟩ ⟨0x03, [0x4F, 0x3D, 0x05]⟩
        (.testAntenna .agcNfcld),
      withoutNtf ⟨0x07, [0x2F, 0x3D, 0x04, 0x08, 0x8C, 0x60, 0x03]⟩ ⟨0x03, [0x4F, 0x3D, 0x05]⟩
        (.testAntenna .agcDifferential)]

/-- An entry of an array. -/
abbrev Entry := Table × ℕ

/-- What an entry holds when the process starts. -/
def entryData (e : Entry) : NciTestData :=
  (testData e.1).getD e.2 (withoutNtf ⟨0, []⟩ ⟨0, []⟩ .null)

/-- Every entry expects a response when the process starts. -/
theorem expRsp_entryData {e : Entry} (h : e.2 < (testData e.1).length) :
    (entryData e).expRsp.len ≠ 0 := by
  obtain ⟨T, k⟩ := e
  have hall : ∀ d ∈ testData T, d.expRsp.len ≠ 0 := by
    cases T <;> decide
  rw [entryData, List.getD_eq_getElem _ _ h]
  exact hall _ (List.getElem_mem h)

end SelfTest

end AliceHal.Pn54x
