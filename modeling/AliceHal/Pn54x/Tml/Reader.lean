import AliceHal.Lib.Machine
import AliceHal.Pn54x.Status

/-!
# Reading

The reader side of TML (`phTmlNfc.c`): a read request leaves its data in `tReadInfo` and wakes the
reader thread, which blocks in the I2C read, copies the packet to the buffer of the request and
posts a message; the client thread delivers it to the callback.

Each call and each stage of the reader thread is one step. The message and the transaction info
are static, so a delivery sees what they hold at that time. Requests are numbered as they are
accepted, and a packet carries the number of the request that the reader thread woke up for: this
is bookkeeping, to tell who gets which packet.

- `ReaderState`, `ReaderState.step`: the machine
- `Delivery`: a call of a read callback
-/

namespace AliceHal.Pn54x.Tml

/-- The arguments of `phTmlNfc_Read`; zero is the null pointer. -/
structure ReadArgs where
  pBuffer : ℕ
  wLength : ℕ
  pTmlReadComplete : ℕ
  pContext : ℕ
  deriving DecidableEq, Repr

/-- A packet in memory, with the request the reader thread woke up for. -/
structure Packet where
  bytes : List UInt8
  readFor : Option ℕ
  deriving DecidableEq, Repr

/-- `tReadInfo`. -/
structure ReadInfo where
  bEnable : Bool
  bThreadBusy : Bool
  pBuffer : ℕ
  wLength : ℕ
  pThreadCallback : ℕ
  pContext : ℕ
  deriving DecidableEq, Repr

/-- `phTmlNfc_TransactInfo_t`. -/
structure TransactInfo where
  wStatus : NFCSTATUS
  pBuff : ℕ
  wLength : ℕ
  deriving DecidableEq, Repr

/-- Where the reader thread is. -/
inductive ReaderStage where
  /-- at `sem_wait` -/
  | waiting
  /-- in the I2C read, for this request -/
  | reading (request : ℕ)
  /-- with a packet in its local buffer -/
  | read (packet : Packet)
  /-- with the packet copied, before the message is posted -/
  | copied (length : ℕ)
  deriving DecidableEq, Repr

/-- The reader side of the TML context. -/
structure ReaderState where
  tReadInfo : ReadInfo
  rxSemaphore : ℕ
  stage : ReaderStage
  tTransactionInfo : TransactInfo
  /-- the buffers of the requests -/
  mem : ℕ → Packet
  /-- read messages in the queue -/
  messages : ℕ
  /-- the number of requests accepted so far -/
  accepted : ℕ
  /-- the request whose data `tReadInfo` holds -/
  current : ℕ

/-- A call of a read callback. -/
structure Delivery where
  /-- the request whose callback is called -/
  request : ℕ
  callback : ℕ
  pContext : ℕ
  info : TransactInfo
  packet : Packet
  deriving DecidableEq, Repr

/-- One call, or one stage of the reader thread or of a delivery. -/
inductive ReaderInput where
  | read (args : ReadArgs)
  | readAbort
  | wake
  /-- the I2C read returns a packet, or -1 -/
  | i2cRead (result : Option (List UInt8))
  | copy
  | post
  | deliver
  deriving DecidableEq, Repr

/-- What a step shows. -/
inductive ReaderOutput where
  /-- `NFCSTATUS_PENDING`, with the number of the request -/
  | accepted (request : ℕ) (args : ReadArgs)
  | refused (status : NFCSTATUS)
  /-- the request that was pending, if any -/
  | aborted (request : Option ℕ)
  | silent
  | delivered (d : Delivery)
  deriving DecidableEq, Repr

namespace ReaderState

/-- After `phTmlNfc_Init`. -/
def init : ReaderState :=
  ⟨⟨false, false, 0, 0, 0, 0⟩, 0, .waiting, ⟨NFCSTATUS.success, 0, 0⟩, fun _ => ⟨[], none⟩, 0, 0, 0⟩

/-- The longest packet the reader thread takes. -/
def maxPacket : ℕ := 260

/-- `phTmlNfc_Read`. -/
def phTmlNfcRead (s : ReaderState) (args : ReadArgs) : ReaderState × ReaderOutput :=
  if args.pBuffer ≠ 0 ∧ args.wLength ≠ 0 ∧ args.pTmlReadComplete ≠ 0 then
    if s.tReadInfo.bThreadBusy = false then
      ({ s with
          tReadInfo := ⟨true, true, args.pBuffer, args.wLength, args.pTmlReadComplete,
            args.pContext⟩
          rxSemaphore := s.rxSemaphore + 1
          accepted := s.accepted + 1
          current := s.accepted }, .accepted s.accepted args)
    else (s, .refused (phNfcStVal cidNfcTml NFCSTATUS.busy))
  else (s, .refused (phNfcStVal cidNfcTml NFCSTATUS.invalidParameter))

/-- `phTmlNfc_ReadAbort`. -/
def phTmlNfcReadAbort (s : ReaderState) : ReaderState × ReaderOutput :=
  ({ s with tReadInfo := { s.tReadInfo with bEnable := false, bThreadBusy := false } },
    .aborted (if s.tReadInfo.bThreadBusy then some s.current else none))

/-- The reader thread passes `sem_wait`. -/
def wake (s : ReaderState) : ReaderState :=
  { s with
    rxSemaphore := s.rxSemaphore - 1
    stage := if s.tReadInfo.bEnable then .reading s.current else .waiting }

/-- The I2C read returns. After an error the thread tries again. -/
def i2cRead (s : ReaderState) (request : ℕ) (result : Option (List UInt8)) : ReaderState :=
  match result with
  | none => { s with rxSemaphore := s.rxSemaphore + 1, stage := .waiting }
  | some bytes =>
    if maxPacket < bytes.length then { s with rxSemaphore := s.rxSemaphore + 1, stage := .waiting }
    else { s with stage := .read ⟨bytes, some request⟩ }

/-- The packet is copied to the buffer in `tReadInfo`. -/
def copy (s : ReaderState) (packet : Packet) : ReaderState :=
  { s with
    mem := Function.update s.mem s.tReadInfo.pBuffer packet
    tReadInfo := { s.tReadInfo with bEnable := false }
    stage := .copied packet.bytes.length }

/-- The message is posted, with the buffer in `tReadInfo`. -/
def post (s : ReaderState) (length : ℕ) : ReaderState :=
  { s with
    tReadInfo := { s.tReadInfo with wLength := length }
    tTransactionInfo := ⟨NFCSTATUS.success, s.tReadInfo.pBuffer, length⟩
    messages := s.messages + 1
    stage := .waiting }

/-- `phTmlNfc_ReadDeferredCb`. -/
def readDeferredCb (s : ReaderState) : ReaderState × ReaderOutput :=
  ({ s with
      messages := s.messages - 1
      tReadInfo := { s.tReadInfo with bThreadBusy := false } },
    .delivered ⟨s.current, s.tReadInfo.pThreadCallback, s.tReadInfo.pContext, s.tTransactionInfo,
      s.mem s.tTransactionInfo.pBuff⟩)

/-- One step; `none` where it is not enabled. -/
def step (s : ReaderState) : ReaderInput → Option (ReaderState × ReaderOutput)
  | .read args => some (s.phTmlNfcRead args)
  | .readAbort => some s.phTmlNfcReadAbort
  | .wake => if s.stage = .waiting ∧ 0 < s.rxSemaphore then some (s.wake, .silent) else none
  | .i2cRead result =>
    match s.stage with
    | .reading request => some (s.i2cRead request result, .silent)
    | _ => none
  | .copy =>
    match s.stage with
    | .read packet => some (s.copy packet, .silent)
    | _ => none
  | .post =>
    match s.stage with
    | .copied length => some (s.post length, .silent)
    | _ => none
  | .deliver => if 0 < s.messages then some s.readDeferredCb else none

end ReaderState

end AliceHal.Pn54x.Tml
