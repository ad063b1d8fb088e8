import AliceHal.Lib.Machine
import AliceHal.Pn54x.SelfTest.TestData

/-!
# Performing the Self Tests

One cycle of command, response and notification, as in `phNxpNciHal_performTest`, and the test
functions over the static tables. The comparison of a packet sets the length of the expected
response to zero, so that the next packet is taken for the notification; the tables are static, so
the length stays zero for the rest of the process.

- `writeLocked`, `halReadCb`, `readLocked`, `performTest`: one cycle
- `testLoop`: the loop of the test functions over a table
- `Globals.step`: the calls of the test functions
-/

namespace AliceHal.Pn54x.SelfTest

open Lib

/-! ## What the lower layer does -/

/-- One attempt to write: what `phTmlNfc_Write` returned, whether the wait succeeded, and the status
of the completion. -/
structure WriteAttempt where
  returned : NFCSTATUS
  waited : Bool
  wStatus : NFCSTATUS

/-- A read: whether the semaphore was created, what `phTmlNfc_Read` returned, whether the timer
started and the wait succeeded, and what completed it, a packet or the timer. -/
structure ReadEnv where
  semaphore : Bool
  returned : NFCSTATUS
  timerStarted : Bool
  waited : Bool
  completed : Option TransactInfo

/-- The lower layer during one cycle. A write attempt depends on the bytes and the retry. -/
structure Exchange where
  semaphore : Bool
  write : List UInt8 → ℕ → WriteAttempt
  first : ReadEnv
  second : ReadEnv

/-! ## One cycle -/

/-- `HAL_WRITE_MAX_RETRY`. -/
def halWriteMaxRetry : ℕ := 10

/-- The attempts from `retryCnt` on, with `retries` left after it. -/
def writeAttempts (write : ℕ → WriteAttempt) : ℕ → ℕ → NFCSTATUS
  | retries, retryCnt =>
    let a := write retryCnt
    if a.returned ≠ .pending then a.returned
    else if !a.waited then .failed
    else
      match retries with
      | 0 => a.wStatus
      | retries + 1 =>
        if a.wStatus ≠ .success then writeAttempts write retries (retryCnt + 1) else a.wStatus

/-- `phNxpNciHal_writeLocked`. Without a semaphore nothing is written and the status is success. -/
def writeLocked (cmd : NciData) (env : Exchange) : NFCSTATUS :=
  if !env.semaphore then .success
  else writeAttempts (env.write (cmd.pData.take cmd.len)) halWriteMaxRetry 0

/-- The limits and the results of the antenna test. -/
structure Antenna where
  resp : AntennaStResp
  status : AntennaStatus

/-- A packet that was compared, the limits in force, and whether it passed. -/
structure Reading where
  info : TransactInfo
  resp : AntennaStResp
  passed : Bool

/-- What a cycle or a part of it leaves; the readings are the packets it compared. -/
structure TestResult where
  status : NFCSTATUS
  data : NciTestData
  antenna : Antenna
  readings : List Reading

/-- What the next packet is compared with: the notification where no response is expected. -/
def NciTestData.awaited (d : NciTestData) : NciData × Validator :=
  if d.expRsp.len == 0 then (d.expNtf, d.ntfValidator) else (d.expRsp, d.rspValidator)

/-- The next packet passes. -/
def NciTestData.accepts (d : NciTestData) (info : TransactInfo) : Bool :=
  d.awaited.2.accepts d.awaited.1 info

/-- The length of the expected response is set to zero after a comparison. -/
def NciTestData.spent (d : NciTestData) : NciTestData :=
  { d with expRsp := { d.expRsp with len := 0 } }

/-- What the comparison stores. -/
def Antenna.record (a : Antenna) (d : NciTestData) (info : TransactInfo) : Antenna :=
  { a with status := d.awaited.2.record a.resp info a.status }

/-- `hal_read_cb`; there is no packet when the response timer has fired. The status of the packet
is replaced by the result of the comparison. -/
def halReadCb (d : NciTestData) (a : Antenna) : Option TransactInfo → TestResult
  | none => ⟨.responseTimeout, d, a, []⟩
  | some info =>
    ⟨if d.accepts info then .success else .failed, d.spent, a.record d info,
      [⟨info, a.resp, d.accepts info⟩]⟩

/-- `phNxpNciHal_readLocked`. -/
def readLocked (d : NciTestData) (a : Antenna) (env : ReadEnv) : TestResult :=
  if !env.semaphore then ⟨.failed, d, a, []⟩
  else if env.returned ≠ .pending then ⟨.failed, d, a, []⟩
  else if !env.timerStarted then ⟨.failed, d, a, []⟩
  else if !env.waited then ⟨.failed, d, a, []⟩
  else
    let cb := halReadCb d a env.completed
    if cb.status = .responseTimeout then { cb with status := .responseTimeout }
    else if cb.status ≠ .success then { cb with status := .failed }
    else { cb with status := .success }

/-- `phNxpNciHal_performTest`. -/
def performTest (d : NciTestData) (a : Antenna) (env : Exchange) : TestResult :=
  let status := writeLocked d.cmd env
  if status ≠ .success then ⟨status, d, a, []⟩
  else
    let r := readLocked d a env.first
    if r.status ≠ .success then r
    else if r.data.expNtf.len ≠ 0 then
      let r' := readLocked r.data r.antenna env.second
      { r' with readings := r.readings ++ r'.readings }
    else r

/-! ## The test functions -/

/-- The static data. -/
structure Globals where
  antenna : Antenna
  data : Entry → NciTestData

/-- When the process starts. -/
def Globals.init : Globals where
  antenna := ⟨⟨0, 0, 0, 0, 0, 0, 0, 0, 0, 0, 0⟩, fun _ => .failed⟩
  data := entryData

/-- The readings of a process with the entry they were compared for; the command of a PRBS test is
in none of the tables. -/
abbrev History := List (Option Entry × Reading)

/-- What a test function leaves. -/
structure Outcome where
  status : NFCSTATUS
  globals : Globals
  history : History

/-- `phNxpNciHal_performTest` of an entry. -/
def Globals.performTest (g : Globals) (e : Entry) (env : Exchange) : Outcome :=
  let r := SelfTest.performTest (g.data e) g.antenna env
  ⟨r.status, ⟨r.antenna, Function.update g.data e r.data⟩, r.readings.map (some e, ·)⟩

/-- The statuses that end a loop. -/
def ends (status : NFCSTATUS) : Bool := status == .responseTimeout || status == .failed

/-- The loop over a table, from the entry `cnt` on with `n` entries left; `env` is the lower layer
at each entry. -/
def testLoop (T : Table) (env : ℕ → Exchange) : ℕ → ℕ → NFCSTATUS → Globals → Outcome
  | 0, _, status, g => ⟨status, g, []⟩
  | n + 1, cnt, _, g =>
    let r := g.performTest (T, cnt) (env cnt)
    if ends r.status then r
    else
      let rest := testLoop T env n (cnt + 1) r.status r.globals
      { rest with history := r.history ++ rest.history }

/-- The loop over a whole table. -/
def runTable (T : Table) (env : ℕ → Exchange) (status : NFCSTATUS) (g : Globals) : Outcome :=
  testLoop T env (testData T).length 0 status g

/-- `phNxpNciHal_SwpTest`. -/
def swpTest (swpLine : UInt8) (env : ℕ → Exchange) (g : Globals) : Outcome :=
  if swpLine = 0x01 then runTable .swp1 env .success g
  else if swpLine = 0x02 then runTable .swp2 env .success g
  else ⟨.failed, g, []⟩

/-- `phNxpNciHal_getPrbsCmd`: the command, with `0xFF` where a parameter is not valid. -/
def getPrbsCmd (tech bitrate : UInt8) : NFCSTATUS × List UInt8 :=
  let t : UInt8 := match tech with
    | 0 => 0x00
    | 1 => 0x01
    | 2 => 0x02
    | _ => 0xFF
  let b : UInt8 := match bitrate with
    | 0 => if t ≠ 0x02 then 0x00 else 0xFF
    | 1 => 0x01
    | 2 => 0x02
    | 3 => if t ≠ 0x02 then 0x03 else 0xFF
    | _ => 0xFF
  (if t = 0xFF ∨ b = 0xFF then .failed else .success, [0x2F, 0x30, 0x04, t, b, 0x01, 0xFF])

/-- The local data of a PRBS test. -/
def prbsCmdData (cmd : List UInt8) : NciTestData :=
  ⟨⟨0x07, cmd⟩, ⟨0x04, [0x4F, 0x30, 0x01, 0x00]⟩, ⟨0x00, []⟩, .testEquals, .null⟩

/-- `phNxpNciHal_PrbsTestStart`. The status of the table is not looked at. -/
def prbsTestStart (tech bitrate : UInt8) (env : ℕ → Exchange) (cmdEnv : Exchange) (g : Globals) :
    Outcome :=
  let (status, cmd) := getPrbsCmd tech bitrate
  if status = .failed then ⟨status, g, []⟩
  else
    let r := runTable .prbs env status g
    let last := performTest (prbsCmdData cmd) r.globals.antenna cmdEnv
    ⟨last.status, { r.globals with antenna := last.antenna },
      r.history ++ last.readings.map (none, ·)⟩

/-- `phNxpNciHal_RfFieldTest`. -/
def rfFieldTest (on : UInt8) (env : ℕ → Exchange) (g : Globals) : Outcome :=
  if on = 0x01 then runTable .rfFieldOn env .success g
  else if on = 0x00 then runTable .rfFieldOff env .success g
  else ⟨.failed, g, []⟩

/-- `phNxpNciHal_DownloadPinTest`; `ioctl` is the result of `phTmlNfc_e_EnableDownloadMode`. -/
def downloadPinTest (env : ℕ → Exchange) (ioctl : NFCSTATUS) (env' : ℕ → Exchange) (g : Globals) :
    Outcome :=
  let r := runTable .downloadPin1 env .failed g
  if r.status ≠ .success then r
  else if ioctl ≠ .success then { r with status := ioctl }
  else
    let r' := runTable .downloadPin2 env' .failed r.globals
    { r' with history := r.history ++ r'.history }

/-- `phNxpNciHal_AntennaSelfTest`. -/
def antennaSelfTest (resp : AntennaStResp) (env : ℕ → Exchange) (g : Globals) : Outcome :=
  let r := runTable .antennaSelf env .failed { g with antenna := { g.antenna with resp := resp } }
  let status := r.globals.antenna.status
  let passed := r.status = .success ∧ status .txldo = .success ∧ status .agcValue = .success ∧
    status .agcNfcld = .success ∧ status .agcDifferential = .success
  { r with status := if passed then .success else .failed }

/-- The calls of the middleware. -/
inductive TestCall where
  | swpTest (swpLine : UInt8) (env : ℕ → Exchange)
  | prbsTestStart (tech bitrate : UInt8) (env : ℕ → Exchange) (cmdEnv : Exchange)
  | prbsTestStop (ioctl : NFCSTATUS)
  | rfFieldTest (on : UInt8) (env : ℕ → Exchange)
  | antennaTest
  | downloadPinTest (env : ℕ → Exchange) (ioctl : NFCSTATUS) (env' : ℕ → Exchange)
  | antennaSelfTest (resp : AntennaStResp) (env : ℕ → Exchange)

/-- One call. -/
def TestCall.run (g : Globals) : TestCall → Outcome
  | .swpTest swpLine env => SelfTest.swpTest swpLine env g
  | .prbsTestStart tech bitrate env cmdEnv => SelfTest.prbsTestStart tech bitrate env cmdEnv g
  | .prbsTestStop ioctl => ⟨ioctl, g, []⟩
  | .rfFieldTest on env => SelfTest.rfFieldTest on env g
  | .antennaTest => ⟨.failed, g, []⟩
  | .downloadPinTest env ioctl env' => SelfTest.downloadPinTest env ioctl env' g
  | .antennaSelfTest resp env => SelfTest.antennaSelfTest resp env g

/-- The calls as steps; a call shows its status and the packets it compared. -/
def Globals.step (g : Globals) (call : TestCall) : Option (Globals × (NFCSTATUS × History)) :=
  some ((call.run g).globals, (call.run g).status, (call.run g).history)

/-- The packets compared in a run. -/
def history (es : List (TestCall × (NFCSTATUS × History))) : History := es.flatMap (·.2.2)

end AliceHal.Pn54x.SelfTest
