import AliceHal.Pn54x.Tml.Timer

/-!
# Writing and Retransmission

The writer side of TML (`phTmlNfc.c`). A write request leaves its data in `tWriteInfo` and wakes
the writer thread, which transmits the packet, posts the completion and, with retransmission
enabled, starts a timer; the callback of the timer makes the writer thread transmit again, until
the reader thread has received an answer.

Each call, each stage of the writer thread, of a delivery and of an expiry is one step. The numbers
of requests are bookkeeping: a transmission and an expiry carry the packet they belong to.

- `ReTxTimer`: the one timer of TML, with the expiries under way, as in `Timers`
- `WriterState`, `WriterState.step`: the machine
-/

namespace AliceHal.Pn54x.Tml

/-! ## The retransmission timer -/

/-- The handle of the timer, the kernel timer, and the expiries under way; each with the packet
that the timer was started for. -/
structure ReTxTimer where
  eState : TimerState
  armed : Option ℕ
  /-- notification threads that have not run -/
  notifications : List ℕ
  /-- messages that have not been delivered -/
  messages : List ℕ
  deriving DecidableEq, Repr

namespace ReTxTimer

/-- After `phOsalNfc_Timer_Create`. -/
def init : ReTxTimer := ⟨.idle, none, [], []⟩

/-- `phOsalNfc_Timer_Start`. -/
def start (t : ReTxTimer) (packet : ℕ) : ReTxTimer :=
  { t with eState := .running, armed := some packet }

/-- `phOsalNfc_Timer_Stop`, and whether it returns `NFCSTATUS_SUCCESS`. -/
def stop (t : ReTxTimer) : ReTxTimer × Bool :=
  match t.eState with
  | .idle => (t, false)
  | .running => ({ t with eState := .stopped, armed := none }, true)
  | .stopped => (t, true)

/-- The kernel timer runs out. -/
def fire (t : ReTxTimer) (packet : ℕ) : ReTxTimer :=
  { t with armed := none, notifications := t.notifications ++ [packet] }

/-- `phOsalNfc_Timer_Expired`. -/
def expired (t : ReTxTimer) (packet : ℕ) : ReTxTimer :=
  { t with eState := .stopped
           notifications := t.notifications.erase packet
           messages := t.messages ++ [packet] }

/-- The timer is not armed, and no expiry is under way. -/
def Quiet (t : ReTxTimer) : Prop := t.armed = none ∧ t.notifications = [] ∧ t.messages = []

instance (t : ReTxTimer) : Decidable t.Quiet := inferInstanceAs (Decidable (_ ∧ _))

end ReTxTimer

/-! ## The writer -/

/-- The arguments of `phTmlNfc_Write` with the bytes at `pBuffer`; zero is the null pointer. -/
structure WriteArgs where
  pBuffer : ℕ
  packet : List UInt8
  pTmlWriteComplete : ℕ
  pContext : ℕ
  deriving DecidableEq, Repr

/-- `tWriteInfo`. -/
structure WriteInfo where
  bEnable : Bool
  bThreadBusy : Bool
  pBuffer : ℕ
  packet : List UInt8
  pThreadCallback : ℕ
  pContext : ℕ
  deriving DecidableEq, Repr

/-- `tTransactionInfo` of the writer thread. -/
structure WriteTransactInfo where
  wStatus : NFCSTATUS
  pBuff : ℕ
  wLength : UInt16
  deriving DecidableEq, Repr

/-- Where the writer thread is. -/
inductive WriterStage where
  /-- at `sem_wait` -/
  | waiting
  /-- about to transmit; the expiry that asked for it, unless it was a request -/
  | taken (cause : Option ℕ)
  /-- has transmitted this packet -/
  | written (packet : ℕ) (ok : Bool)
  /-- about to start the timer for this packet -/
  | posted (packet : ℕ)
  deriving DecidableEq, Repr

/-- The writer side of the TML context. -/
structure WriterState where
  tWriteInfo : WriteInfo
  txSemaphore : ℕ
  stage : WriterStage
  /-- the expiry that set `bEnable`, unless it was a request -/
  enabledBy : Option ℕ
  retryCnt : ℕ
  tTransactionInfo : WriteTransactInfo
  /-- write messages in the queue -/
  messages : ℕ
  /-- retransmission is enabled -/
  eConfig : Bool
  bRetryCount : ℕ
  bCurrentRetryCount : ℕ
  bWriteCbInvoked : Bool
  timer : ReTxTimer
  /-- the number of requests accepted so far -/
  accepted : ℕ
  /-- the request whose data `tWriteInfo` holds -/
  current : ℕ

/-- A call of a write callback. -/
structure Completion where
  request : ℕ
  callback : ℕ
  pContext : ℕ
  info : WriteTransactInfo
  deriving DecidableEq, Repr

/-- One call, or one stage of the writer thread, of a delivery or of an expiry. -/
inductive WriterInput where
  | write (args : WriteArgs)
  | writeAbort
  | wake
  /-- the I2C write returns; `download` is the download flag -/
  | i2cWrite (ok download : Bool)
  | post
  /-- the timer is started, if it is needed; `started` says whether that succeeds -/
  | arm (started : Bool)
  | deliver
  /-- the reader thread has received a packet with this first byte -/
  | received (header : UInt8)
  | fire
  | expired (packet : ℕ)
  | deliverExpiry
  deriving DecidableEq, Repr

/-- What a step shows. -/
inductive WriterOutput where
  | accepted (request : ℕ) (args : WriteArgs)
  | refused (status : NFCSTATUS)
  | silent
  /-- a packet on the bus, and the packet of the expiry that asked for it, unless it was a
  request -/
  | transmitted (packet : ℕ) (cause : Option ℕ)
  | completed (c : Completion)
  /-- `phTmlNfc_ReTxTimerCb` for the timer of `armedFor`, while `tWriteInfo` holds `packet`;
  `retry` where the retry count goes down and the writer is enabled -/
  | expiry (armedFor packet : ℕ) (retry : Bool)
  deriving DecidableEq, Repr

/-- A packet that is not a data packet is retransmitted. -/
def isRetransmitted (header : UInt8) : Bool := header &&& 0xE0 != 0

namespace WriterState

/-- After `phTmlNfc_Init` and `phTmlNfc_ConfigNciPktReTx(phTmlNfc_e_EnableRetrans, bRetryCount)`. -/
def init (bRetryCount : ℕ) : WriterState where
  tWriteInfo := ⟨false, false, 0, [], 0, 0⟩
  txSemaphore := 0
  stage := .waiting
  enabledBy := none
  retryCnt := 0
  tTransactionInfo := ⟨NFCSTATUS.success, 0, 0⟩
  messages := 0
  eConfig := true
  bRetryCount := bRetryCount
  bCurrentRetryCount := 2000 / 200 + 1
  bWriteCbInvoked := false
  timer := .init
  accepted := 0
  current := 0

/-- `MAX_WRITE_RETRY_COUNT`. -/
def maxWriteRetryCount : ℕ := 3

/-- The packet in `tWriteInfo` is one that is retransmitted. -/
def retransmits (s : WriterState) : Bool :=
  s.eConfig && isRetransmitted (s.tWriteInfo.packet.headD 0)

/-- `phTmlNfc_Write`. -/
def phTmlNfcWrite (s : WriterState) (args : WriteArgs) : WriterState × WriterOutput :=
  if args.pBuffer ≠ 0 ∧ args.packet ≠ [] ∧ args.pTmlWriteComplete ≠ 0 then
    if s.tWriteInfo.bThreadBusy = false then
      ({ s with
          tWriteInfo := ⟨true, true, args.pBuffer, args.packet, args.pTmlWriteComplete,
            args.pContext⟩
          enabledBy := none
          bCurrentRetryCount := if s.eConfig then s.bRetryCount else s.bCurrentRetryCount
          bWriteCbInvoked := if s.eConfig then false else s.bWriteCbInvoked
          txSemaphore := s.txSemaphore + 1
          accepted := s.accepted + 1
          current := s.accepted }, .accepted s.accepted args)
    else (s, .refused (phNfcStVal cidNfcTml NFCSTATUS.busy))
  else (s, .refused (phNfcStVal cidNfcTml NFCSTATUS.invalidParameter))

/-- `phTmlNfc_WriteAbort`. -/
def phTmlNfcWriteAbort (s : WriterState) : WriterState :=
  { s with
    tWriteInfo := { s.tWriteInfo with bEnable := false, bThreadBusy := false }
    bCurrentRetryCount := 0 }

/-- The writer thread passes `sem_wait`, and takes the packet if it is enabled. -/
def wake (s : WriterState) : WriterState :=
  if s.tWriteInfo.bEnable then
    { s with
      txSemaphore := s.txSemaphore - 1
      tWriteInfo := { s.tWriteInfo with bEnable := false }
      stage := .taken s.enabledBy }
  else { s with txSemaphore := s.txSemaphore - 1 }

/-- The I2C write returns. During a download a failed write is repeated at once. -/
def i2cWrite (s : WriterState) (cause : Option ℕ) (ok download : Bool) :
    WriterState × WriterOutput :=
  if !ok && download && s.retryCnt < maxWriteRetryCount then
    ({ s with
        retryCnt := s.retryCnt + 1
        tWriteInfo := { s.tWriteInfo with bEnable := false } }, .transmitted s.current cause)
  else
    ({ s with
        retryCnt := 0
        tTransactionInfo :=
          ⟨if ok then NFCSTATUS.success else phNfcStVal cidNfcTml NFCSTATUS.failed,
            s.tWriteInfo.pBuffer, if ok then 1 else 0xFFFF⟩
        stage := .written s.current ok }, .transmitted s.current cause)

/-- The completion is posted: always for a packet that is not retransmitted, else once, for a
transmission that succeeded or the last one. -/
def post (s : WriterState) (packet : ℕ) (ok : Bool) : WriterState :=
  if s.retransmits then
    if s.bWriteCbInvoked = false ∧ (ok = true ∨ s.bCurrentRetryCount = 0) then
      { s with messages := s.messages + 1, bWriteCbInvoked := true, stage := .posted packet }
    else { s with stage := .posted packet }
  else { s with messages := s.messages + 1, stage := .posted packet }

/-- `phTmlNfc_InitiateTimer`. -/
def arm (s : WriterState) (packet : ℕ) (started : Bool) : WriterState :=
  if s.retransmits then
    if started then { s with timer := s.timer.start packet, stage := .waiting }
    else
      { s with
        tWriteInfo := { s.tWriteInfo with bEnable := false }
        bCurrentRetryCount := 0
        stage := .waiting }
  else { s with stage := .waiting }

/-- `phTmlNfc_WriteDeferredCb`. -/
def writeDeferredCb (s : WriterState) : WriterState × WriterOutput :=
  ({ s with
      messages := s.messages - 1
      tWriteInfo := { s.tWriteInfo with bThreadBusy := false } },
    .completed ⟨s.current, s.tWriteInfo.pThreadCallback, s.tWriteInfo.pContext,
      s.tTransactionInfo⟩)

/-- The reader thread after a successful read: an answer stops the timer. -/
def received (s : WriterState) (header : UInt8) : WriterState :=
  if s.eConfig && isRetransmitted header then
    if s.timer.stop.2 then { s with timer := s.timer.stop.1, bWriteCbInvoked := false }
    else { s with timer := s.timer.stop.1 }
  else s

/-- `phTmlNfc_ReTxTimerCb`, for an expiry of the timer of `armedFor`. -/
def reTxTimerCb (s : WriterState) (armedFor : ℕ) : WriterState × WriterOutput :=
  if s.bCurrentRetryCount = 0 then
    ({ s with txSemaphore := s.txSemaphore + 1 }, .expiry armedFor s.current false)
  else
    ({ s with
        bCurrentRetryCount := s.bCurrentRetryCount - 1
        tWriteInfo := { s.tWriteInfo with bThreadBusy := true, bEnable := true }
        enabledBy := some armedFor
        txSemaphore := s.txSemaphore + 1 }, .expiry armedFor s.current true)

/-- One step; `none` where it is not enabled. -/
def step (s : WriterState) : WriterInput → Option (WriterState × WriterOutput)
  | .write args => some (s.phTmlNfcWrite args)
  | .writeAbort => some (s.phTmlNfcWriteAbort, .silent)
  | .wake => if s.stage = .waiting ∧ 0 < s.txSemaphore then some (s.wake, .silent) else none
  | .i2cWrite ok download =>
    match s.stage with
    | .taken cause => some (s.i2cWrite cause ok download)
    | _ => none
  | .post =>
    match s.stage with
    | .written packet ok => some (s.post packet ok, .silent)
    | _ => none
  | .arm started =>
    match s.stage with
    | .posted packet => some (s.arm packet started, .silent)
    | _ => none
  | .deliver => if 0 < s.messages then some s.writeDeferredCb else none
  | .received header => some (s.received header, .silent)
  | .fire => s.timer.armed.map fun packet => ({ s with timer := s.timer.fire packet }, .silent)
  | .expired packet =>
    if packet ∈ s.timer.notifications then
      some ({ s with timer := s.timer.expired packet }, .silent)
    else none
  | .deliverExpiry =>
    match s.timer.messages with
    | [] => none
    | armedFor :: rest =>
      some (({ s with timer := { s.timer with messages := rest } }).reTxTimerCb armedFor)

end WriterState

end AliceHal.Pn54x.Tml
