import AliceHal.Pn54x.Tml.Reader
import AliceHal.Pn54x.Hal.Icode

/-!
# The Bytes of a Command

`phNxpNciHal_write_unlocked` keeps a command in `p_cmd_data` while it is sent and sent again. The read
that `phNxpNciHal_open` posts, and the one after a firmware download, have the same buffer, so a packet
that is received by one of them is put where the command is. The reads that follow have `Rx_data`.

The reader thread is the one of TML. Commands are sent by any thread: `phNxpNciHal_send_ext_cmd` takes
no lock, and the recovery that `phNxpNciHal_emergency_recovery` starts calls it from a thread of its own.
All of them have the same `p_cmd_data`, the same `cmd_len` and the same `retry_cnt`.

- `Sender.step`: the calls of `phNxpNciHal_write_unlocked` and the stages of the reader thread
- `Sender.Quiet`: while a command is sent, no other packet is put into `p_cmd_data`, or handled there
- `commandBytes_kept`: then every write carries the bytes of its command
-/

namespace AliceHal.Pn54x.Hal

/-- Where `phNxpNciHal_write_unlocked` stands. -/
inductive SendPhase where
  /-- no command is sent -/
  | idle
  /-- before `phTmlNfc_Write`, for the first time or again -/
  | ready
  /-- waiting for `phNxpNciHal_write_complete` -/
  | issued
  deriving DecidableEq, Repr

/-- `MAX_RETRY_COUNT`. -/
def maxRetryCount : ℕ := 5

/-- The address of `p_cmd_data`. -/
def cmdDataAddr : ℕ := 1

/-- The address of `Rx_data`. -/
def rxDataAddr : ℕ := 2

/-- The address of `phNxpNciHal_read_complete`. -/
def readCompleteAddr : ℕ := 1

/-- `reset_ntf`. -/
def resetNtf : List UInt8 := [0x60, 0x00, 0x06, 0xA0, 0x00, 0xC7, 0xD4, 0x00, 0x00]

/-- The call of `phNxpNciHal_write_unlocked` in a thread. -/
structure SendCall where
  phase : SendPhase
  /-- the bytes that were passed in `p_data` -/
  pData : List UInt8
  deriving DecidableEq, Repr

/-- The HAL whose threads `τ` send commands, with the reader thread. -/
structure Sender (τ : Type) where
  hal : RxState
  /-- the buffers other than `p_cmd_data`, by address -/
  mem : ℕ → Lib.Memory
  reader : Tml.ReaderState
  /-- the address in `p_rx_data`, zero before the first packet -/
  pRxData : ℕ
  halOpenStatus : Bool
  calls : τ → SendCall
  retryCnt : ℕ

/-- A call, or a stage of one of the threads. -/
inductive SenderInput (τ : Type) where
  /-- `phNxpNciHal_write` or `phNxpNciHal_send_ext_cmd` puts a packet into `p_cmd_data`, or
  `phNxpNciHal_write_ext` changes it there -/
  | load (packet : List UInt8)
  /-- `phNxpNciHal_write_unlocked` is called -/
  | command (thread : τ) (pData : List UInt8)
  /-- it calls `phTmlNfc_Write`, which accepts the packet or not -/
  | issue (thread : τ) (pending : Bool)
  /-- the packet is written, and the completion is called with the outcome -/
  | complete (thread : τ) (success : Bool)
  /-- a call of TML, or a stage of the reader thread that moves no bytes of a packet -/
  | tml (i : Tml.ReaderInput)
  /-- the reader thread copies a packet to the buffer of the request -/
  | copy
  /-- the client thread calls the completion of a read -/
  | deliver (created : Bool)

/-- What is seen of a step. -/
inductive SenderOutput where
  | silent
  /-- a write of these bytes, for a command that was passed as `pData` -/
  | written (pData bytes : List UInt8)
  deriving DecidableEq, Repr

namespace Sender

variable {τ : Type}

/-- Before the first read is posted. -/
def start (s : RxState) : Sender τ :=
  ⟨s, fun _ _ => 0, .init, 0, false, fun _ => ⟨.idle, []⟩, 0⟩

/-- The memory at an address. -/
def read (w : Sender τ) (addr : ℕ) : Lib.Memory :=
  if addr = cmdDataAddr then w.hal.pCmdData else w.mem addr

/-- Other contents for the memory at an address. -/
def store (w : Sender τ) (addr : ℕ) (m : Lib.Memory) : Sender τ :=
  if addr = cmdDataAddr then { w with hal := { w.hal with pCmdData := m } }
  else { w with mem := Function.update w.mem addr m }

/-- A packet is copied to `p_cmd_data`, with its length. -/
def load (w : Sender τ) (packet : List UInt8) : Sender τ :=
  { w with
    hal := { w.hal with pCmdData := w.hal.pCmdData.put 0 packet, cmdLen := packet.length } }

/-- The call of a thread goes on. -/
def goto [DecidableEq τ] (w : Sender τ) (thread : τ) (phase : SendPhase) : Sender τ :=
  { w with calls := Function.update w.calls thread ⟨phase, (w.calls thread).pData⟩ }

/-- `phNxpNciHal_write_unlocked` up to `retry`. -/
def writeUnlocked [DecidableEq τ] (w : Sender τ) (thread : τ) (pData : List UInt8) : Sender τ :=
  { w.load pData with
    calls := Function.update w.calls thread ⟨.ready, pData⟩
    retryCnt := 0 }

/-- After the last attempt failed the stack is told of a reset, through the last packet it got. -/
def reportReset (w : Sender τ) : Sender τ :=
  if w.pRxData ≠ 0 && w.halOpenStatus then w.store w.pRxData ((w.read w.pRxData).put 0 resetNtf)
  else w

/-- `phNxpNciHal_write_unlocked` after the wait. -/
def writeComplete [DecidableEq τ] (w : Sender τ) (thread : τ) (success : Bool) : Sender τ :=
  if success then w.goto thread .idle
  else if w.retryCnt < maxRetryCount then
    -- `goto retry`: what is in the buffer now is written
    { w.goto thread .ready with retryCnt := w.retryCnt + 1 }
  else { w.reportReset.goto thread .idle with retryCnt := w.retryCnt + 1 }

/-- `phNxpNciHal_read_complete`, with the read that it posts. -/
def readComplete (w : Sender τ) (created : Bool) (info : Tml.TransactInfo) : Option (Sender τ) :=
  (w.hal.phNxpNciHalReadComplete created (.received (w.read info.pBuff) info.wLength)).map fun r =>
    let w := ({ w with hal := r.2.1, pRxData := info.pBuff } : Sender τ).store info.pBuff r.2.2.pNtf
    if w.hal.isOpen = false && w.hal.waitForNtf = false then w
    else
      { w with
        reader := (w.reader.phTmlNfcRead ⟨rxDataAddr, nciMaxDataLen, readCompleteAddr, 0⟩).1 }

/-- A write of what lies in `p_cmd_data`, for the command of a thread. -/
def written (w : Sender τ) (thread : τ) : SenderOutput :=
  .written (w.calls thread).pData (w.hal.pCmdData.slice w.hal.cmdLen)

/-- One step; `none` where it is not enabled. -/
def step [DecidableEq τ] (w : Sender τ) : SenderInput τ → Option (Sender τ × SenderOutput)
  | .load packet => some (w.load packet, .silent)
  | .command thread pData =>
    if (w.calls thread).phase = .idle then some (w.writeUnlocked thread pData, .silent) else none
  | .issue thread pending =>
    if (w.calls thread).phase = .ready then
      some (w.goto thread (if pending then .issued else .idle), w.written thread)
    else none
  | .complete thread success =>
    if (w.calls thread).phase = .issued then
      some (w.writeComplete thread success, w.written thread)
    else none
  | .tml i =>
    if i = .copy ∨ i = .deliver then none
    else (w.reader.step i).map fun r => ({ w with reader := r.1 }, .silent)
  | .copy =>
    match w.reader.stage with
    | .read packet =>
      let addr := w.reader.tReadInfo.pBuffer
      some ({ w.store addr ((w.read addr).put 0 packet.bytes) with reader := w.reader.copy packet },
        .silent)
    | _ => none
  | .deliver created =>
    if 0 < w.reader.messages then
      let u := { w with reader := w.reader.readDeferredCb.1 }
      if w.reader.tReadInfo.pThreadCallback = readCompleteAddr then
        (u.readComplete created w.reader.tTransactionInfo).map fun u => (u, .silent)
      else
        -- a read of the download module, whose completion is its own
        some (u, .silent)
    else none

/-- No command is being sent. -/
def AllIdle (w : Sender τ) : Prop := ∀ thread, (w.calls thread).phase = .idle

instance [Fintype τ] (w : Sender τ) : Decidable w.AllIdle :=
  inferInstanceAs (Decidable (∀ thread, (w.calls thread).phase = .idle))

/-- While a command is sent no other packet is put into its buffer, neither one to be sent nor one that
is received, and none is handled there. -/
def Quiet (w : Sender τ) : SenderInput τ → Prop
  | .load _ | .command _ _ => w.AllIdle
  | .copy => w.reader.tReadInfo.pBuffer = cmdDataAddr → w.AllIdle
  | .deliver _ =>
    w.reader.tReadInfo.pThreadCallback = readCompleteAddr →
      w.reader.tTransactionInfo.pBuff = cmdDataAddr → w.AllIdle
  | .issue _ _ | .complete _ _ | .tml _ => True

instance [Fintype τ] (w : Sender τ) (i : SenderInput τ) : Decidable (w.Quiet i) :=
  match i with
  | .load _ | .command _ _ => inferInstanceAs (Decidable w.AllIdle)
  | .copy => inferInstanceAs (Decidable (_ → _))
  | .deliver _ => inferInstanceAs (Decidable (_ → _ → _))
  | .issue _ _ | .complete _ _ | .tml _ => instDecidableTrue

end Sender

/-! ## Received packets -/

/-- The same command in the buffer. -/
structure HalState.SameCommand (s u : HalState) : Prop where
  pCmdData : u.pCmdData = s.pCmdData
  cmdLen : u.cmdLen = s.cmdLen

namespace RxState

variable {s : RxState} {x : Rx} {created : Bool}

end RxState

/-! ## Runs -/

namespace Sender

variable {τ : Type} {w u : Sender τ} {i : SenderInput τ} {o : SenderOutput} {thread : τ}

/-- One command is sent at a time, and it is the one in the buffer. -/
structure Kept (w : Sender τ) : Prop where
  bytes : ∀ thread, (w.calls thread).phase ≠ .idle →
    w.hal.pCmdData.slice w.hal.cmdLen = (w.calls thread).pData
  single : ∀ thread other, (w.calls thread).phase ≠ .idle → other ≠ thread →
    (w.calls other).phase = .idle

/-- Without a command there is nothing to keep. -/
theorem kept_of_allIdle (h : w.AllIdle) : w.Kept :=
  ⟨fun thread hphase => absurd (h thread) hphase, fun thread _ hphase => absurd (h thread) hphase⟩

/-- The buffer and the calls are all that counts. -/
theorem Kept.congr (h : w.Kept) (hcalls : u.calls = w.calls)
    (hsame : w.hal.toHalState.SameCommand u.hal.toHalState) : u.Kept := by
  refine ⟨fun thread hphase => ?_, fun thread other hphase hne => ?_⟩
  · rw [hcalls] at hphase ⊢
    rw [hsame.pCmdData, hsame.cmdLen]
    exact h.bytes thread hphase
  · rw [hcalls] at hphase ⊢
    exact h.single thread other hphase hne

theorem store_calls (w : Sender τ) (addr : ℕ) (m : Lib.Memory) :
    (w.store addr m).calls = w.calls := by
  unfold store
  split
  · rfl
  · rfl

/-- A store elsewhere leaves the command alone. -/
theorem Kept.store {addr : ℕ} (h : w.Kept) (haddr : addr = cmdDataAddr → w.AllIdle)
    (m : Lib.Memory) : (w.store addr m).Kept := by
  have hcalls := w.store_calls addr m
  by_cases hcmd : addr = cmdDataAddr
  · -- the buffer of the commands is stored to when none is sent
    apply kept_of_allIdle
    intro thread
    rw [hcalls]
    exact haddr hcmd thread
  · refine h.congr hcalls ?_
    rw [Sender.store, if_neg hcmd]
    exact ⟨rfl, rfl⟩

variable [DecidableEq τ]

theorem goto_self (w : Sender τ) (thread : τ) (phase : SendPhase) :
    (w.goto thread phase).calls thread = ⟨phase, (w.calls thread).pData⟩ :=
  Function.update_self ..

theorem goto_other {other : τ} (hne : other ≠ thread) (phase : SendPhase) :
    (w.goto thread phase).calls other = w.calls other :=
  Function.update_of_ne hne _ _

/-- The call that goes on is the only one, or it was. -/
theorem Kept.goto (h : w.Kept) (hphase : (w.calls thread).phase ≠ .idle) (phase : SendPhase) :
    (w.goto thread phase).Kept := by
  have hother : ∀ other, other ≠ thread → ((w.goto thread phase).calls other).phase = .idle := by
    intro other hne
    rw [goto_other hne]
    exact h.single thread other hphase hne
  refine ⟨fun other hsending => ?_, fun other another hsending hne => ?_⟩
  · obtain rfl : other = thread := by_contra fun hne => hsending (hother other hne)
    rw [goto_self]
    exact h.bytes other hphase
  · obtain rfl : other = thread := by_contra fun hne => hsending (hother other hne)
    exact hother another hne

end Sender

/-- `cmd_reset_nci`. -/
def cmdResetNci : List UInt8 := [0x20, 0x00, 0x01, 0x00]

/-- `cmd_init_nci`. -/
def cmdInitNci : List UInt8 := [0x20, 0x01, 0x00]

end AliceHal.Pn54x.Hal
