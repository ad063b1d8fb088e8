import AliceHal.Pn54x.Hal.Icode

/-!
# Commands of the HAL

`phNxpNciHal_send_ext_cmd` sends a command and waits on the semaphore of `ext_cb_data`, which
`phNxpNciHal_read_complete` posts for a response and `hal_extns_write_rsp_timeout_cb` after a second.
Which response it is that comes, is not looked at.

Any thread may call `phNxpNciHal_send_ext_cmd`: the one of the stack does, and the thread that
`phNxpNciHal_emergency_recovery` detaches. Nothing keeps the calls apart, and they share
`ext_cb_data`, the flags and the timer. The client thread runs both callbacks: each of them sets the
status and posts the semaphore in two steps.

- `ExtCmd.callStep`: the stages of one call
- `CmdShared.clientStep`: the packets and the timeouts
- `ExtCmds.step`: the calls of all threads, with the client thread
- `Answers`: the response of a command, and the notification after a `CORE_RESET_CMD` on NCI 2.0
- `ExtCmds.Matched`: the calls follow each other, and the responses are those of their commands
- `extCmd_answered`: then a command that succeeds was answered
-/

namespace AliceHal.Pn54x.Hal

/-! ## Packets -/

/-- The group of a control packet, `NCI_GID_MASK`. -/
def nciGidMask : UInt8 := 0x0F

/-- The packet is a response. -/
def isResponse (p : Lib.Memory) : Prop := p 0 &&& nciMtMask = nciMtRsp

/-- The packet is a notification. -/
def isNotification (p : Lib.Memory) : Prop := p 0 &&& nciMtMask = nciMtNtf

/-- The response has the group and the identifier of the command. -/
def isResponseTo (cmd : List UInt8) (p : Lib.Memory) : Prop :=
  isResponse p ∧ p 0 &&& nciGidMask = cmd.getD 0 0 &&& nciGidMask ∧
    p 1 &&& nciOidMask = cmd.getD 1 0 &&& nciOidMask

/-- The command has the group and the identifier of a `CORE_RESET_CMD`. -/
def isReset (cmd : List UInt8) : Prop :=
  cmd.getD 0 0 &&& nciGidMask = 0 ∧ cmd.getD 1 0 &&& nciOidMask = 0

/-- The `CORE_RESET_RSP` of NCI 2.0, which a notification follows. -/
def isResetRsp20 (p : Lib.Memory) : Prop :=
  p 0 = 0x40 ∧ p 1 &&& nciOidMask = 0 ∧ p 2 = 0x01 ∧ p 3 = 0x00

/-- A `CORE_RESET_NTF`. -/
def isResetNtf (p : Lib.Memory) : Prop :=
  isNotification p ∧ p 0 &&& nciGidMask = 0 ∧ p 1 &&& nciOidMask = 0

instance (p : Lib.Memory) : Decidable (isResponse p) := inferInstanceAs (Decidable (_ = _))

instance (p : Lib.Memory) : Decidable (isNotification p) := inferInstanceAs (Decidable (_ = _))

instance (cmd : List UInt8) (p : Lib.Memory) : Decidable (isResponseTo cmd p) :=
  inferInstanceAs (Decidable (_ ∧ _ ∧ _))

instance (cmd : List UInt8) : Decidable (isReset cmd) := inferInstanceAs (Decidable (_ ∧ _))

instance (p : Lib.Memory) : Decidable (isResetRsp20 p) := inferInstanceAs (Decidable (_ ∧ _ ∧ _ ∧ _))

instance (p : Lib.Memory) : Decidable (isResetNtf p) := inferInstanceAs (Decidable (_ ∧ _ ∧ _))

/-- A packet from the NFCC; it is late if it belongs to a command before the one under way. -/
structure NfccPacket where
  bytes : Lib.Memory
  late : Bool

/-- The packet is the response to this command, and not to an earlier one. -/
def NfccPacket.Responds (p : NfccPacket) (cmd : List UInt8) : Prop :=
  p.late = false ∧ isResponseTo cmd p.bytes

/-- The packet is the notification of this reset, and not of an earlier one. -/
def NfccPacket.Notifies (p : NfccPacket) : Prop := p.late = false ∧ isResetNtf p.bytes

instance (p : NfccPacket) (cmd : List UInt8) : Decidable (p.Responds cmd) :=
  inferInstanceAs (Decidable (_ ∧ _))

instance (p : NfccPacket) : Decidable p.Notifies := inferInstanceAs (Decidable (_ ∧ _))

/-- Among these packets is the response of the command, and after a `CORE_RESET_CMD` that was answered
as on NCI 2.0 the notification. -/
structure Answers (cmd : List UInt8) (seen : List NfccPacket) : Prop where
  response : ∃ p ∈ seen, p.Responds cmd
  notification : isReset cmd → (∃ p ∈ seen, isResetRsp20 p.bytes) → ∃ p ∈ seen, p.Notifies

/-! ## The machine -/

/-- Where `phNxpNciHal_process_ext_cmd_rsp` stands. -/
inductive CmdPhase where
  | idle
  /-- after `HAL_ENABLE_EXT`, before `ext_cb_data` is initialised -/
  | starting
  /-- in `phNxpNciHal_write_unlocked` -/
  | writing
  /-- at the first `SEM_WAIT` -/
  | waiting
  /-- after it -/
  | awake
  /-- at the second `SEM_WAIT`, for the notification -/
  | waitingNtf
  /-- after it -/
  | awakeNtf
  /-- before the status is looked at -/
  | checking
  /-- after `clean_and_return`, before `HAL_DISABLE_EXT` -/
  | returning
  deriving DecidableEq, Repr

/-- Nothing is sent yet, or nothing is awaited any more. -/
def CmdPhase.rests : CmdPhase → Bool
  | .starting | .returning => true
  | _ => false

/-- What the calls share: `nxpncihal_ctrl`, the client thread and the timer. -/
structure CmdShared where
  hal : RxState
  /-- `ext_cb_data.sem` -/
  sem : ℕ
  /-- `ext_cb_data.status` -/
  status : NFCSTATUS
  /-- the client thread is about to post the semaphore -/
  posting : Bool
  /-- the timer `timeoutTimerId` runs -/
  running : Bool
  /-- expiries that the client thread has not been told of yet -/
  expiries : ℕ

/-- The call of a thread. -/
structure CmdCall where
  phase : CmdPhase
  /-- the last command -/
  cmd : List UInt8
  /-- something was written to the NFCC -/
  transmitted : Bool
  /-- the command was written to the NFCC -/
  onWire : Bool
  /-- the packets received since then -/
  seen : List NfccPacket
  /-- how often `SEM_WAIT` has returned for it -/
  consumed : ℕ
  /-- what is to be returned -/
  result : NFCSTATUS

/-- Before the first command of a thread. -/
def CmdCall.start : CmdCall := ⟨.idle, [], false, false, [], 0, NFCSTATUS.success⟩

/-- A call, with what it shares. -/
structure ExtCmd extends CmdShared, CmdCall

/-- A stage of a call. -/
inductive CallInput where
  /-- `phNxpNciHal_send_ext_cmd` is called -/
  | send (cmd : List UInt8)
  /-- `phNxpNciHal_init_cb_data`, with its outcome, and the status -/
  | init (created : Bool)
  /-- what is in the buffer is written to the NFCC -/
  | transmit
  /-- `phNxpNciHal_write_unlocked` returns, and the timer is started -/
  | written (success started : Bool)
  /-- `SEM_WAIT` returns -/
  | wake
  /-- `SEM_WAIT` fails -/
  | semError
  /-- the timer is stopped, and started again where a notification is awaited -/
  | proceed (stopped started : Bool)
  /-- the status is looked at -/
  | finish
  /-- `phNxpNciHal_send_ext_cmd` returns -/
  | leave

/-- The stage begins a call. -/
def CallInput.Sends : CallInput → Prop
  | .send _ => True
  | _ => False

/-- A stage of the client thread, or of the timer. -/
inductive ClientInput where
  /-- a packet is received -/
  | receive (created : Bool) (p : NfccPacket) (pLen : ℕ)
  /-- the timer expires -/
  | expire
  /-- `hal_extns_write_rsp_timeout_cb` up to its `SEM_POST` -/
  | timeoutCb
  /-- the client thread posts the semaphore -/
  | post

/-- What is seen of a step. -/
inductive ExtCmdOutput where
  | silent
  /-- `phNxpNciHal_send_ext_cmd` returns; `seen` are the packets received since the command was written -/
  | returned (cmd : List UInt8) (status : NFCSTATUS) (seen : List NfccPacket)

namespace ExtCmd

/-- `phNxpNciHal_send_ext_cmd` up to `phNxpNciHal_process_ext_cmd_rsp`. -/
def send (w : ExtCmd) (cmd : List UInt8) : ExtCmd :=
  { w with
    hal := { w.hal with
      halExtEnabled := true
      cmdLen := cmd.length
      pCmdData := w.hal.pCmdData.put 0 cmd }
    phase := .starting
    cmd := cmd
    transmitted := false
    onWire := false
    seen := [] }

/-- `phNxpNciHal_process_ext_cmd_rsp` up to `phNxpNciHal_write_unlocked`. -/
def initCbData (w : ExtCmd) (created : Bool) : ExtCmd :=
  if created then
    { w with sem := 0, status := NFCSTATUS.success, consumed := 0, phase := .writing }
  else { w with phase := .returning, result := NFCSTATUS.failed }

/-- The command is what lies in the buffer. -/
def Carries (w : ExtCmd) : Prop := w.hal.pCmdData.slice w.hal.cmdLen = w.cmd

instance (w : ExtCmd) : Decidable w.Carries := inferInstanceAs (Decidable (_ = _))

/-- From `clean_and_return` on. -/
def cleanAndReturn (w : ExtCmd) (status : NFCSTATUS) : ExtCmd :=
  { w with hal := { w.hal with waitForNtf := false }, phase := .returning, result := status }

/-- What `phNxpNciHal_process_ext_cmd_rsp` returns when it has looked at the status. -/
def checkedStatus (w : ExtCmd) : NFCSTATUS :=
  if w.status ≠ NFCSTATUS.success then NFCSTATUS.failed else NFCSTATUS.success

/-- One stage of the call; `none` where it is not enabled. -/
def callStep (w : ExtCmd) : CallInput → Option (ExtCmd × ExtCmdOutput)
  | .send cmd => if w.phase = .idle then some (w.send cmd, .silent) else none
  | .init created =>
    if w.phase = .starting then some (w.initCbData created, .silent) else none
  | .transmit =>
    if w.phase = .writing then
      some ({ w with transmitted := true, onWire := w.onWire || decide w.Carries }, .silent)
    else none
  | .written success started =>
    if w.phase = .writing ∧ (success → w.transmitted = true) then
      if success && started then some ({ w with phase := .waiting, running := true }, .silent)
      else some (w.cleanAndReturn NFCSTATUS.failed, .silent)
    else none
  | .wake =>
    if 0 < w.sem ∧ (w.phase = .waiting ∨ w.phase = .waitingNtf) then
      some ({ w with
        sem := w.sem - 1
        consumed := w.consumed + 1
        phase := if w.phase = .waiting then .awake else .awakeNtf }, .silent)
    else none
  | .semError =>
    -- the status is still the one of `phOsalNfc_Timer_Start` or of `phOsalNfc_Timer_Stop`
    if w.phase = .waiting ∨ w.phase = .waitingNtf then
      some (w.cleanAndReturn NFCSTATUS.success, .silent)
    else none
  | .proceed stopped started =>
    if w.phase = .awake then
      if stopped = false then some (w.cleanAndReturn NFCSTATUS.failed, .silent)
      else if w.hal.waitForNtf then
        if started then some ({ w with phase := .waitingNtf, running := true }, .silent)
        else some ({ w with running := false }.cleanAndReturn NFCSTATUS.failed, .silent)
      else some ({ w with phase := .checking, running := false }, .silent)
    else if w.phase = .awakeNtf then
      if stopped = false then some (w.cleanAndReturn NFCSTATUS.failed, .silent)
      else some ({ w with phase := .checking, running := false }, .silent)
    else none
  | .finish =>
    if w.phase = .checking then some (w.cleanAndReturn w.checkedStatus, .silent) else none
  | .leave =>
    if w.phase = .returning then
      some ({ w with hal := { w.hal with halExtEnabled := false }, phase := .idle },
        .returned w.cmd w.result w.seen)
    else none

end ExtCmd

/-- The packets received, with one more if the command was written. -/
def CmdCall.seenWith (c : CmdCall) (p : NfccPacket) : List NfccPacket :=
  if c.onWire then c.seen ++ [p] else c.seen

/-- What a call gets to see of the client thread. -/
def CmdCall.note (c : CmdCall) : ClientInput → CmdCall
  | .receive _ p _ => { c with seen := c.seenWith p }
  | .expire | .timeoutCb | .post => c

namespace CmdShared

/-- Before the first command. -/
def start (s : RxState) : CmdShared where
  hal := { s with halExtEnabled := false, waitForNtf := false }
  sem := 0
  status := NFCSTATUS.success
  posting := false
  running := false
  expiries := 0

/-- `phNxpNciHal_read_complete` up to its `SEM_POST`. -/
def receive (s : CmdShared) (r : Handover × RxState × Rx) : CmdShared :=
  let s := { s with hal := r.2.1 }
  match r.1 with
  | .posted failed =>
    { s with status := if failed then NFCSTATUS.failed else s.status, posting := true }
  | _ => s

/-- One stage of the client thread or of the timer; `none` where it is not enabled. -/
def clientStep (s : CmdShared) : ClientInput → Option CmdShared
  | .receive created p pLen =>
    -- `phTmlNfc_i2c_read` returns no packet without a header
    if s.posting ∨ pLen < 3 then none
    else (s.hal.phNxpNciHalReadComplete created (.received p.bytes pLen)).map s.receive
  | .expire =>
    if s.running then some { s with running := false, expiries := s.expiries + 1 } else none
  | .timeoutCb =>
    if 0 < s.expiries ∧ s.posting = false then
      some { s with expiries := s.expiries - 1, status := NFCSTATUS.failed, posting := true }
    else none
  | .post => if s.posting then some { s with sem := s.sem + 1, posting := false } else none

end CmdShared

/-- The calls of the threads `τ`, with what they share. -/
structure ExtCmds (τ : Type) where
  shared : CmdShared
  calls : τ → CmdCall

/-- What happens next. -/
inductive ExtCmdsInput (τ : Type) where
  /-- the call of a thread goes on -/
  | call (thread : τ) (i : CallInput)
  | client (i : ClientInput)
  /-- `p_cmd_data` and `cmd_len` are overwritten: `phNxpNciHal_write` puts its packet there, and the
  reader thread puts there what the first read returns -/
  | overwrite (bytes : List UInt8) (cmdLen : ℕ)

namespace ExtCmds

variable {τ : Type}

/-- Before the first command. -/
def start (s : RxState) : ExtCmds τ := ⟨.start s, fun _ => .start⟩

/-- The call of a thread. -/
def view (m : ExtCmds τ) (thread : τ) : ExtCmd := ⟨m.shared, m.calls thread⟩

/-- The call of a thread goes on. -/
def put [DecidableEq τ] (m : ExtCmds τ) (thread : τ) (w : ExtCmd) : ExtCmds τ :=
  ⟨w.toCmdShared, Function.update m.calls thread w.toCmdCall⟩

/-- One step; `none` where it is not enabled. -/
def step [DecidableEq τ] (m : ExtCmds τ) : ExtCmdsInput τ → Option (ExtCmds τ × ExtCmdOutput)
  | .call thread i => ((m.view thread).callStep i).map fun r => (m.put thread r.1, r.2)
  | .client i =>
    (m.shared.clientStep i).map fun s => (⟨s, fun thread => (m.calls thread).note i⟩, .silent)
  | .overwrite bytes cmdLen =>
    some ({ m with shared := { m.shared with hal := { m.shared.hal with
        pCmdData := m.shared.hal.pCmdData.put 0 bytes
        cmdLen := cmdLen } } }, .silent)

end ExtCmds

namespace ExtCmd

/-- The command was answered by its own response. -/
def Answered (w : ExtCmd) : Prop := ∃ p ∈ w.seen, p.Responds w.cmd

instance (w : ExtCmd) : Decidable w.Answered := inferInstanceAs (Decidable (∃ p ∈ w.seen, _))

/-- A response that is received is the one of the command, which was written before and is not
returning; and a `CORE_RESET_CMD` was not answered yet. A notification that is received where one is
awaited is the one of the reset. Neither is late. -/
def Owns (w : ExtCmd) (p : NfccPacket) : Prop :=
  (isResponse p.bytes → w.phase ≠ .returning ∧ w.onWire = true ∧ p.Responds w.cmd ∧
      (isReset w.cmd → ¬ w.Answered)) ∧
    (isNotification p.bytes → w.hal.waitForNtf = true → p.Notifies)

instance (w : ExtCmd) (p : NfccPacket) : Decidable (w.Owns p) :=
  inferInstanceAs (Decidable
    ((isResponse p.bytes → w.phase ≠ .returning ∧ w.onWire = true ∧ p.Responds w.cmd ∧
        (isReset w.cmd → ¬ w.Answered)) ∧
      (isNotification p.bytes → w.hal.waitForNtf = true → p.Notifies)))

end ExtCmd

namespace ExtCmds

variable {τ : Type}

/-- No thread is in a call. -/
def AllIdle (m : ExtCmds τ) : Prop := ∀ thread, (m.calls thread).phase = .idle

instance [Fintype τ] (m : ExtCmds τ) : Decidable m.AllIdle :=
  inferInstanceAs (Decidable (∀ thread, (m.calls thread).phase = .idle))

/-- A call begins when no other is under way, and initialises `ext_cb_data` when the client thread is
not about to post the semaphore; while it is under way the responses and the notification awaited are
its own; and `SEM_WAIT` does not fail. -/
def Matched (m : ExtCmds τ) : ExtCmdsInput τ → Prop
  | .call _ (.send _) => m.AllIdle
  | .call _ (.init _) => m.shared.posting = false
  | .call _ .semError => False
  | .client (.receive _ p _) =>
    ∀ thread, (m.calls thread).phase ≠ .idle → (m.view thread).Owns p
  | _ => True

instance [Fintype τ] (m : ExtCmds τ) (i : ExtCmdsInput τ) : Decidable (m.Matched i) :=
  match i with
  | .call _ (.send _) => inferInstanceAs (Decidable m.AllIdle)
  | .call _ (.init _) => inferInstanceAs (Decidable (_ = _))
  | .call _ .semError => instDecidableFalse
  | .client (.receive _ p _) => inferInstanceAs (Decidable
      (∀ thread, (m.calls thread).phase ≠ .idle → (m.view thread).Owns p))
  | .call _ .transmit | .call _ (.written _ _) | .call _ .wake | .call _ (.proceed _ _) |
    .call _ .finish | .call _ .leave | .client .expire | .client .timeoutCb | .client .post |
    .overwrite _ _ => instDecidableTrue

end ExtCmds

/-! ## What a packet does to the flags -/

/-- The header of a packet after the extensions: it is the one received, or the packet is a presence
check and becomes a notification or data. -/
def HeaderKept (p q : Lib.Memory) : Prop :=
  (q 0 = p 0 ∧ q 1 = p 1) ∨
    ((p 0 = 0x4F ∨ p 0 = 0x6F) ∧ p 1 = 0x11 ∧ (q 0 = 0x60 ∨ q 0 = 0x00))

theorem HeaderKept.put {p : Lib.Memory} {i : ℕ} (hi : 2 ≤ i) (bs : List UInt8) :
    HeaderKept p (p.put i bs) :=
  Or.inl ⟨Lib.Memory.put_of_lt (by omega), Lib.Memory.put_of_lt (by omega)⟩

namespace RxState

variable {s : RxState} {x : Rx} {created : Bool}

/-- The workarounds keep the flags of the commands of the HAL, and the header of the packet. -/
structure CommandKept (s : RxState) (x : Rx) (r : NFCSTATUS × RxState × Rx) : Prop where
  waitForNtf : r.2.1.waitForNtf = s.waitForNtf
  halExtEnabled : r.2.1.halExtEnabled = s.halExtEnabled
  header : HeaderKept x.pNtf r.2.2.pNtf

theorem CommandKept.same {status : NFCSTATUS} {u : RxState} {y : Rx} (hwait : u.waitForNtf = s.waitForNtf)
    (hext : u.halExtEnabled = s.halExtEnabled) (hp : y.pNtf = x.pNtf) :
    CommandKept s x (status, u, y) :=
  ⟨hwait, hext, Or.inl (hp ▸ ⟨rfl, rfl⟩)⟩

theorem CommandKept.of_saw {l : List ℕ} {r : NFCSTATUS × RxState × Rx}
    (h : CommandKept s (x.saw l) r) : CommandKept s x r :=
  ⟨h.waitForNtf, h.halExtEnabled, h.header⟩

/-- A condition between the workarounds. -/
theorem CommandKept.cond {z : Rx} {before after : Bool} {cs : List (ℕ × UInt8)}
    {yes no : Rx → NFCSTATUS × RxState × Rx}
    (hyes : ∀ l, before = true → x.pNtf.agrees cs = true → CommandKept s z (yes (x.saw l)))
    (hno : ∀ l, CommandKept s z (no (x.saw l))) :
    CommandKept s z (x.cond before cs after yes no) :=
  Rx.cond_grows (P := CommandKept s z) (fun l _ hbefore hagrees _ => hyes l hbefore hagrees)
    fun l _ _ => hno l

theorem commandKept_presenceCheck (s : RxState) (x : Rx) : CommandKept s x (s.presenceCheck x) := by
  unfold presenceCheck
  refine CommandKept.cond ?_ fun l => CommandKept.cond ?_ fun l => .same rfl rfl rfl
  · intro l _ hagrees
    simp only [Lib.Memory.agrees, Bool.and_eq_true, beq_iff_eq] at hagrees
    have hheader : ∀ q : Lib.Memory, q 0 = 0x60 → HeaderKept x.pNtf q := fun q hq =>
      Or.inr ⟨Or.inl hagrees.1, hagrees.2.1, Or.inl hq⟩
    refine CommandKept.cond ?_ ?_
    · exact fun l _ _ => ⟨rfl, rfl, hheader _ rfl⟩
    · exact fun l => ⟨rfl, rfl, hheader _ rfl⟩
  · intro l _ hagrees
    simp only [Rx.saw_pNtf, Lib.Memory.agrees, Bool.and_eq_true, beq_iff_eq] at hagrees
    have hheader : ∀ q : Lib.Memory, q 0 = 0x60 ∨ q 0 = 0x00 → HeaderKept x.pNtf q := fun q hq =>
      Or.inr ⟨Or.inr hagrees.1, hagrees.2.1, hq⟩
    refine CommandKept.cond ?_ ?_
    · exact fun l _ _ => ⟨rfl, rfl, hheader _ (Or.inr rfl)⟩
    · exact fun l => ⟨rfl, rfl, hheader _ (Or.inl rfl)⟩

theorem commandKept_otherWorkaround (s : RxState) (x : Rx) :
    CommandKept s x (s.otherWorkaround x) := by
  unfold otherWorkaround
  refine CommandKept.cond ?_ fun l => CommandKept.cond ?_ fun l => CommandKept.cond ?_ fun l =>
    CommandKept.cond ?_ fun l => CommandKept.cond ?_ fun l => ?_
  · intro l _ hagrees
    simp only [Lib.Memory.agrees, Bool.and_eq_true, beq_iff_eq] at hagrees
    exact ⟨rfl, rfl, Or.inl ⟨hagrees.1.symm, hagrees.2.1.symm⟩⟩
  · intro l _ _
    unfold nfceeDiscoverRsp
    extract_lets y
    split
    · exact ⟨rfl, rfl, HeaderKept.put (by decide) _⟩
    · exact .same rfl rfl rfl
  · intro l _ _
    split
    · unfold cleanupDiscover
      extract_lets y
      split
      · exact .same rfl rfl rfl
      · exact .same rfl rfl rfl
    · exact .same rfl rfl rfl
  · exact fun l _ _ => .same rfl rfl rfl
  · intro l _ _
    unfold mifareSak
    extract_lets sak y
    split
    · exact ⟨rfl, rfl, HeaderKept.put (by decide) _⟩
    · exact .same rfl rfl rfl
  · exact (commandKept_presenceCheck s _).of_saw

theorem commandKept_rspWorkaround (s : RxState) (x : Rx) : CommandKept s x (s.rspWorkaround x) := by
  unfold rspWorkaround
  refine CommandKept.cond ?_ fun l => CommandKept.cond ?_ fun l => CommandKept.cond ?_ fun l =>
    CommandKept.cond ?_ fun l => CommandKept.cond ?_ fun l => ?_
  · exact fun l _ _ => ⟨rfl, rfl, HeaderKept.put (by decide) _⟩
  · exact fun l _ _ => .same rfl rfl rfl
  · intro l _ _
    unfold icodeData
    extract_lets u last y
    have hu : u.waitForNtf = s.waitForNtf ∧ u.halExtEnabled = s.halExtEnabled := by
      show (if s.icodeSendEof = 3 then _ else s).waitForNtf = _ ∧
        (if s.icodeSendEof = 3 then _ else s).halExtEnabled = _
      split
      · exact ⟨rfl, rfl⟩
      · exact ⟨rfl, rfl⟩
    split
    · split
      · exact ⟨hu.1, hu.2, HeaderKept.put (by decide) _⟩
      · exact ⟨hu.1, hu.2, HeaderKept.put (by omega) _⟩
    · exact .same hu.1 hu.2 rfl
  · exact fun l _ _ => .same rfl rfl rfl
  · exact fun l _ _ => .same rfl rfl rfl
  · exact (commandKept_otherWorkaround s _).of_saw

/-- Nothing but the version of NCI and the firmware changes: the flags and the packet stay. -/
structure InitKept (s : RxState) (x : Rx) (r : NFCSTATUS × RxState × Rx) : Prop where
  waitForNtf : r.2.1.waitForNtf = s.waitForNtf
  halExtEnabled : r.2.1.halExtEnabled = s.halExtEnabled
  packet : r.2.2.pNtf = x.pNtf

theorem initKept_unexpectedReset {r : NFCSTATUS × RxState × Rx}
    (h : s.unexpectedReset created x = some r) : InitKept s x r := by
  have hrecovery : ∀ (u : RxState) (l : List ℕ), u.waitForNtf = s.waitForNtf →
      u.halExtEnabled = s.halExtEnabled →
      (u.phNxpNciHalEmergencyRecovery created (x.saw l)).map (NFCSTATUS.failed, u, ·) = some r →
      InitKept s x r := by
    intro u l hwait hext hr
    obtain ⟨y, hy, rfl⟩ := Option.map_eq_some_iff.1 hr
    obtain ⟨-, rfl⟩ := emergencyRecovery_eq_some hy
    exact ⟨hwait, hext, rfl⟩
  unfold unexpectedReset at h
  extract_lets keep clear at h
  split at h
  · revert h
    refine Rx.cond_either (P := fun o => o = some r → InitKept s x r) (fun l => ?_)
      fun l => hrecovery _ l rfl rfl
    refine Rx.cond_either (P := fun o => o = some r → InitKept s x r)
      (fun l => hrecovery _ l rfl rfl) fun l => ?_
    exact Rx.cond_either (P := fun o => o = some r → InitKept s x r)
      (fun l => hrecovery _ l rfl rfl) fun l => hrecovery _ l rfl rfl
  · exact hrecovery s x.seen rfl rfl h

/-- A notification is awaited after the `CORE_RESET_RSP` of NCI 2.0, if a command of the HAL is under
way. -/
theorem coreResetRsp_wait (s : RxState) (x : Rx) :
    (s.coreResetRsp x).1.waitForNtf =
        (s.waitForNtf || (s.halExtEnabled && decide (x.pNtf 2 = 0x01 ∧ x.pNtf 3 = 0x00))) ∧
      (s.coreResetRsp x).1.halExtEnabled = s.halExtEnabled ∧ (s.coreResetRsp x).2.pNtf = x.pNtf := by
  unfold coreResetRsp
  by_cases hform : x.pNtf 2 = 0x01 ∧ x.pNtf 3 = 0x00
  · rw [Rx.cond_of_agrees rfl (by simp [Lib.Memory.agrees, hform]) rfl, decide_eq_true hform,
      Bool.and_true]
    exact ⟨rfl, rfl, by simp⟩
  · rw [Rx.cond_of_not (by simpa [Lib.Memory.agrees] using hform), decide_eq_false hform,
      Bool.and_false, Bool.or_false]
    refine Rx.cond_either (P := fun r : RxState × Rx => r.1.waitForNtf = s.waitForNtf ∧
      r.1.halExtEnabled = s.halExtEnabled ∧ r.2.pNtf = x.pNtf) (fun l => ?_) fun l => ?_
    · exact ⟨rfl, rfl, by simp⟩
    · exact ⟨rfl, rfl, by simp⟩

theorem initRsp_wait {r : NFCSTATUS × RxState × Rx} (hlen : x.pLen ≠ 0)
    (h : s.phNxpNciHalExtProcessNfcInitRsp created x = some r) :
    r.2.1.waitForNtf = (s.waitForNtf || (s.halExtEnabled && decide (isResetRsp20 x.pNtf))) ∧
      r.2.1.halExtEnabled = s.halExtEnabled ∧ r.2.2.pNtf = x.pNtf := by
  unfold phNxpNciHalExtProcessNfcInitRsp at h
  rw [if_neg hlen] at h
  by_cases hreset : x.pNtf 0 = 0x40 ∧ x.pNtf 1 &&& nciOidMask = 0x00
  · rw [Rx.condOid_of_eq hreset.1 hreset.2] at h
    cases h
    have hwait := s.coreResetRsp_wait ((x.evaluated true [(0, 0x40)]).look [1])
    have hform : isResetRsp20 x.pNtf ↔ x.pNtf 2 = 0x01 ∧ x.pNtf 3 = 0x00 :=
      ⟨fun h => h.2.2, fun h => ⟨hreset.1, hreset.2, h⟩⟩
    simpa [hform] using hwait
  · have hother : ¬ isResetRsp20 x.pNtf := fun h => hreset ⟨h.1, h.2.1⟩
    rw [decide_eq_false hother, Bool.and_false, Bool.or_false]
    suffices hkept : InitKept s x r from ⟨hkept.waitForNtf, hkept.halExtEnabled, hkept.packet⟩
    revert h
    refine Rx.condOid_rule (I := fun _ => True) (P := fun o => o = some r → InitKept s x r)
      (fun _ _ => trivial) (fun l _ h0 h1 => absurd ⟨h0, h1⟩ hreset) fun l _ _ => ?_
    refine Rx.condOid_either (P := fun o => o = some r → InitKept s x r) (fun l h => ?_) fun l => ?_
    · unfold coreResetNtf at h
      extract_lets p y len at h
      split at h
      · cases h
        exact ⟨rfl, rfl, rfl⟩
      · have hkept := initKept_unexpectedReset h
        exact ⟨hkept.waitForNtf, hkept.halExtEnabled, hkept.packet⟩
    refine Rx.condOid_either (P := fun o => o = some r → InitKept s x r) (fun l h => ?_) fun l h => ?_
    · cases h
      unfold coreInitRsp
      split
      · exact ⟨rfl, rfl, rfl⟩
      · exact ⟨rfl, rfl, rfl⟩
    · cases h
      exact ⟨rfl, rfl, rfl⟩

/-- The flags and the header after the extensions. -/
theorem processExtRsp_wait {p : Lib.Memory} {len : ℕ} (hlen : 3 ≤ len)
    {r : NFCSTATUS × RxState × Rx}
    (h : s.phNxpNciHalProcessExtRsp created (.received p len) = some r) :
    r.2.1.waitForNtf = (s.waitForNtf || (s.halExtEnabled && decide (isResetRsp20 p))) ∧
      r.2.1.halExtEnabled = s.halExtEnabled ∧ HeaderKept p r.2.2.pNtf := by
  revert h
  unfold phNxpNciHalProcessExtRsp
  refine Rx.cond_below (P := fun o => o = some r → r.2.1.waitForNtf =
      (s.waitForNtf || (s.halExtEnabled && decide (isResetRsp20 p))) ∧
      r.2.1.halExtEnabled = s.halExtEnabled ∧ HeaderKept p r.2.2.pNtf)
    (n := 14) (fun i hi => absurd hi List.not_mem_nil) ?_ ?_ ?_
  · exact fun _ => below_header (by decide) _ _ _
  · intro l _ _ hagrees _ h
    cases h
    simp only [Rx.received, Lib.Memory.agrees, Bool.and_eq_true, beq_iff_eq] at hagrees
    have hother : ¬ isResetRsp20 p := fun hrsp => absurd (hagrees.1.symm.trans hrsp.1) (by decide)
    rw [decide_eq_false hother, Bool.and_false, Bool.or_false]
    exact ⟨rfl, rfl, Or.inl ⟨rfl, rfl⟩⟩
  intro l hl _ h
  obtain ⟨q, l₁, hprofile, -, hq⟩ := s.activatedProfile_spec (x := (Rx.received p len).saw l) hl
    (by decide) fun _ _ => by decide
  obtain ⟨d, t, l₂, hactivated⟩ := s.activated_eq
    { (Rx.received p len).saw l with pNtf := q, seen := l₁ }
  rw [hprofile, hactivated] at h
  obtain ⟨u, hu, rfl⟩ := Option.map_eq_some_iff.1 h
  have hbytes : ∀ i < 4, q i = p i := fun i hi => hq.bytes (Or.inl hi)
  have hform : isResetRsp20 q ↔ isResetRsp20 p := by
    unfold isResetRsp20
    rw [hbytes 0 (by decide), hbytes 1 (by decide), hbytes 2 (by decide), hbytes 3 (by decide)]
  have hpLen : len ≠ 0 := by omega
  obtain ⟨hwait, hext, hpacket⟩ := initRsp_wait hpLen hu
  have hkept := commandKept_rspWorkaround u.2.1 u.2.2
  refine ⟨?_, hkept.halExtEnabled.trans hext, ?_⟩
  · rw [hkept.waitForNtf, hwait]
    show (s.waitForNtf || (s.halExtEnabled && decide (isResetRsp20 q))) = _
    rw [decide_eq_decide.2 hform]
  · have hheader := hkept.header
    have hpacket : u.2.2.pNtf = q := hpacket
    unfold HeaderKept at hheader ⊢
    rw [hpacket, hbytes 0 (by decide), hbytes 1 (by decide)] at hheader
    exact hheader

/-- What a packet does for the commands of the HAL: the semaphore is posted for a response, or for a
notification that is awaited. -/
inductive Completes (s : RxState) (p : Lib.Memory) : Handover → Bool → Prop where
  | response {failed wait : Bool} (hext : s.halExtEnabled = true) (hrsp : isResponse p)
      (hwait : wait = (s.waitForNtf || decide (isResetRsp20 p))) : Completes s p (.posted failed) wait
  | notification (hext : s.halExtEnabled = true) (hwait : s.waitForNtf = true)
      (hform : ¬ isResetRsp20 p)
      (hkind : isNotification p ∨ (isResponse p ∧ p 0 &&& nciGidMask ≠ 0)) :
      Completes s p (.posted false) false
  | other {h : Handover} (hnot : ∀ failed, h ≠ .posted failed)
      (hform : s.halExtEnabled = true → ¬ isResetRsp20 p) : Completes s p h s.waitForNtf

theorem readComplete_completes {p : Lib.Memory} {len : ℕ} (hlen : 3 ≤ len)
    {q : Handover × RxState × Rx}
    (h : s.phNxpNciHalReadComplete created (.received p len) = some q) :
    q.2.1.halExtEnabled = s.halExtEnabled ∧ Completes s p q.1 q.2.1.waitForNtf := by
  obtain ⟨r, hr, rfl⟩ := Option.map_eq_some_iff.1 h
  obtain ⟨hwait, hext, hheader⟩ := processExtRsp_wait hlen hr
  -- a response of NCI 2.0 to a reset keeps its header
  have hresponse : isResetRsp20 p → r.2.2.pNtf 0 &&& nciMtMask = nciMtRsp := by
    intro hform
    rcases hheader with ⟨h0, -⟩ | ⟨h0 | h0, -⟩
    · rw [h0, hform.1]
      rfl
    · exact absurd (h0.symm.trans hform.1) (by decide)
    · exact absurd (h0.symm.trans hform.1) (by decide)
  extract_lets u mt
  split
  · rename_i hif
    rw [Bool.and_eq_true, beq_iff_eq] at hif
    have hon : s.halExtEnabled = true := hext.symm.trans hif.1
    refine ⟨hext, Completes.response hon ?_ ?_⟩
    · rcases hheader with ⟨h0, -⟩ | ⟨-, -, h0 | h0⟩
      · rw [isResponse, ← h0]
        exact hif.2
      · exact absurd (h0 ▸ hif.2 : (0x60 : UInt8) &&& nciMtMask = nciMtRsp) (by decide)
      · exact absurd (h0 ▸ hif.2 : (0x00 : UInt8) &&& nciMtMask = nciMtRsp) (by decide)
    · show r.2.1.waitForNtf = _
      rw [hwait, hon, Bool.true_and]
  rename_i hif
  rw [Bool.and_eq_true, beq_iff_eq] at hif
  -- without the semaphore posted for it, the packet is no such response
  have hform : s.halExtEnabled = true → ¬ isResetRsp20 p := fun hon hform =>
    hif ⟨hext.trans hon, hresponse hform⟩
  have hsame : r.2.1.waitForNtf = s.waitForNtf := by
    rw [hwait]
    by_cases hon : s.halExtEnabled = true
    · rw [decide_eq_false (hform hon), Bool.and_false, Bool.or_false]
    · rw [Bool.not_eq_true] at hon
      rw [hon, Bool.false_and, Bool.or_false]
  split
  · rename_i hntf
    rw [Bool.and_eq_true, Bool.and_eq_true, beq_iff_eq] at hntf
    have hon : s.halExtEnabled = true := hext.symm.trans hntf.1.1
    refine ⟨hext, Completes.notification hon (hsame.symm.trans hntf.2) (hform hon) ?_⟩
    rcases hheader with ⟨h0, -⟩ | ⟨h0 | h0, -⟩
    · refine Or.inl ?_
      rw [isNotification, ← h0]
      exact hntf.1.2
    · refine Or.inr ⟨?_, ?_⟩
      · rw [isResponse, h0]
        rfl
      · rw [h0]
        decide
    · refine Or.inl ?_
      rw [isNotification, h0]
      rfl
  split
  · refine ⟨hext, ?_⟩
    show Completes s p .stack r.2.1.waitForNtf
    rw [hsame]
    exact Completes.other (fun _ h => nomatch h) hform
  · refine ⟨hext, ?_⟩
    show Completes s p .dropped r.2.1.waitForNtf
    rw [hsame]
    exact Completes.other (fun _ h => nomatch h) hform

end RxState

/-! ## The invariant -/

namespace ExtCmd

variable {w u : ExtCmd} {s : CmdShared} {o : ExtCmdOutput}

/-- A reset was answered as on NCI 2.0. -/
def Answered20 (w : ExtCmd) : Prop := isReset w.cmd ∧ ∃ p ∈ w.seen, isResetRsp20 p.bytes

/-- The notification of a reset was received. -/
def Notified (w : ExtCmd) : Prop := ∃ p ∈ w.seen, p.Notifies

/-- How often the semaphore was posted for the command, or is about to be. -/
def tokens (w : ExtCmd) : ℕ := w.sem + w.posting.toNat + w.consumed

/-- How often `SEM_WAIT` has returned in each phase. -/
def CmdPhase.Consumes : CmdPhase → ℕ → Prop
  | .idle, _ | .starting, _ | .returning, _ => True
  | .writing, n => n = 0
  | .waiting, n => n = 0
  | .awake, n => n = 1
  | .waitingNtf, n => n = 1
  | .awakeNtf, n => n = 2
  | .checking, n => 0 < n

/-- As long as no timeout was reported, the semaphore is posted for the response of the command and
for the notification of a reset only. -/
structure UnderWay (w : ExtCmd) : Prop where
  ext : w.hal.halExtEnabled = true
  wire : w.seen ≠ [] → w.onWire = true
  own : ∀ p ∈ w.seen, isResponse p.bytes → p.late = false
  answered : w.status = NFCSTATUS.success → 0 < w.tokens → w.Answered
  awaited : w.hal.waitForNtf = true → w.Answered20
  single : w.status = NFCSTATUS.success → w.hal.waitForNtf = true → w.tokens ≤ 1
  notified : w.Answered20 → w.hal.waitForNtf = false → w.Notified
  consumed : CmdPhase.Consumes w.phase w.consumed
  checking : w.phase = .checking → w.status = NFCSTATUS.success → w.Answered20 → w.Notified

/-- A call that begins or returns awaits nothing, and was answered if it succeeds. -/
structure Resting (w : ExtCmd) : Prop where
  ext : w.hal.halExtEnabled = true
  wait : w.hal.waitForNtf = false
  fresh : w.phase = .starting → w.seen = [] ∧ w.onWire = false
  answers : w.phase = .returning → w.result = NFCSTATUS.success → Answers w.cmd w.seen

/-- A call between its beginning and its end. -/
structure Going (w : ExtCmd) : Prop where
  underWay : w.phase.rests = false → w.UnderWay
  resting : w.phase.rests = true → w.Resting

/-- The invariant: nothing is awaited without a command. -/
structure Inv (w : ExtCmd) : Prop where
  idle : w.phase = .idle → w.hal.halExtEnabled = false ∧ w.hal.waitForNtf = false
  going : w.phase ≠ .idle → w.Going

/-- A command that succeeds was answered. -/
def Succeeded (o : ExtCmdOutput) : Prop :=
  ∀ cmd seen, o = .returned cmd NFCSTATUS.success seen → Answers cmd seen

theorem succeeded_silent : Succeeded .silent := fun _ _ h => nomatch h

theorem failed_ne_success : NFCSTATUS.failed ≠ NFCSTATUS.success := by decide

theorem Resting.inv (hphase : w.phase.rests = true) (h : w.Resting) : w.Inv := by
  refine ⟨fun hidle => ?_, fun _ => ⟨fun hnot => absurd (hnot.symm.trans hphase) (by decide),
    fun _ => h⟩⟩
  rw [hidle] at hphase
  exact absurd hphase (by decide)

theorem inv_cleanAndReturn (h : w.UnderWay) {status : NFCSTATUS}
    (hanswers : status = NFCSTATUS.success → Answers w.cmd w.seen) : (w.cleanAndReturn status).Inv :=
  Resting.inv rfl ⟨h.ext, rfl, (fun hphase => nomatch hphase), fun _ => hanswers⟩

theorem inv_failed (h : w.UnderWay) : (w.cleanAndReturn NFCSTATUS.failed).Inv :=
  inv_cleanAndReturn h fun hstatus => absurd hstatus failed_ne_success

/-- A response that looks like one to a reset is one, and it is not late. -/
theorem Answered20.answered (h : w.Answered20)
    (hown : ∀ p ∈ w.seen, isResponse p.bytes → p.late = false) : w.Answered := by
  obtain ⟨hreset, p, hp, hform⟩ := h
  have hresponse : isResponse p.bytes := by
    rw [isResponse, hform.1]
    rfl
  refine ⟨p, hp, hown p hp hresponse, hresponse, ?_, ?_⟩
  · rw [hform.1, hreset.1]
    rfl
  · rw [hform.2.1, hreset.2]

/-- The response of a command shows that it is a reset, where it is the one of a reset. -/
theorem isReset_of_response {cmd : List UInt8} {p : Lib.Memory} (h : isResponseTo cmd p)
    (hform : isResetRsp20 p) : isReset cmd := by
  obtain ⟨-, hgid, hoid⟩ := h
  refine ⟨?_, ?_⟩
  · rw [← hgid, hform.1]
    rfl
  · rw [← hoid, hform.2.1]

theorem seen_subset_seenWith (p : NfccPacket) : w.seen ⊆ w.seenWith p := by
  unfold CmdCall.seenWith
  split
  · exact List.subset_append_left _ _
  · exact List.Subset.refl _

theorem mem_seenWith {p q : NfccPacket} (h : q ∈ w.seenWith p) : q ∈ w.seen ∨ q = p := by
  unfold CmdCall.seenWith at h
  split at h
  · exact (List.mem_append.1 h).imp id List.mem_singleton.1
  · exact Or.inl h

theorem mem_seenWith_self {p : NfccPacket} (h : w.onWire = true) : p ∈ w.seenWith p := by
  rw [CmdCall.seenWith, if_pos h]
  exact List.mem_append_right _ List.mem_cons_self

/-- The call after a packet was received. -/
def received (w : ExtCmd) (p : NfccPacket) (r : Handover × RxState × Rx) : ExtCmd :=
  ⟨w.toCmdShared.receive r, { w.toCmdCall with seen := w.seenWith p }⟩

/-- Without a post, only the flags change and the packets that were seen. -/
theorem received_of_not_posted {hand : Handover} (w : ExtCmd) (p : NfccPacket) (hal : RxState)
    (x : Rx) (hnot : ∀ failed, hand ≠ .posted failed) :
    w.received p (hand, hal, x) = { w with hal := hal, seen := w.seenWith p } := by
  unfold received CmdShared.receive
  cases hand with
  | posted failed => exact absurd rfl (hnot failed)
  | stack | dropped => rfl

/-- A packet while a command is under way. -/
theorem underWay_receive {p : NfccPacket} {r : Handover × RxState × Rx} (h : w.UnderWay)
    (hfree : w.posting = false) (hown : w.Owns p) (hext : r.2.1.halExtEnabled = true)
    (hc : w.hal.Completes p.bytes r.1 r.2.1.waitForNtf) : (w.received p r).UnderWay := by
  obtain ⟨hrsp, hntf⟩ := hown
  -- no late response is among the packets
  have hnew : ∀ q ∈ w.seenWith p, isResponse q.bytes → q.late = false := by
    intro q hq hresponse
    rcases mem_seenWith hq with hold | rfl
    · exact h.own q hold hresponse
    · exact (hrsp hresponse).2.2.1.1
  obtain ⟨hand, hal, x⟩ := r
  dsimp only at hext hc
  generalize hw : hal.waitForNtf = wait at hc
  have htokens : w.tokens = w.sem + w.consumed := by
    rw [tokens, hfree]
    rfl
  have hsub := seen_subset_seenWith (w := w) p
  cases hc with
  | @response failed wait _ hresponse hwait =>
    obtain ⟨-, hwire, hown, hfirst⟩ := hrsp hresponse
    have hself := mem_seenWith_self (p := p) hwire
    have hok : (if failed = true then NFCSTATUS.failed else w.status) = NFCSTATUS.success →
        w.status = NFCSTATUS.success := by
      intro hstatus
      split at hstatus
      · exact absurd hstatus (by decide)
      · exact hstatus
    refine ⟨hext, fun _ => hwire, hnew, fun _ _ => ⟨p, hself, hown⟩, fun hawait => ?_,
      fun hstatus hawait => ?_, fun hanswered hawait => ?_, h.consumed,
      fun hphase hstatus hanswered => ?_⟩
    · -- a notification is awaited after this response, or it was already
      have hawait : wait = true := hw.symm.trans hawait
      rw [hwait, Bool.or_eq_true, decide_eq_true_eq] at hawait
      rcases hawait with hawait | hform
      · obtain ⟨hreset, q, hq, hform⟩ := h.awaited hawait
        exact ⟨hreset, q, hsub hq, hform⟩
      · exact ⟨isReset_of_response hown.2 hform, p, hself, hform⟩
    · -- the first response of a reset is the first post
      have hreset : isReset w.cmd := by
        have hawait : wait = true := hw.symm.trans hawait
        rw [hwait, Bool.or_eq_true, decide_eq_true_eq] at hawait
        rcases hawait with hawait | hform
        · exact (h.awaited hawait).1
        · exact isReset_of_response hown.2 hform
      have hnone : ¬ 0 < w.tokens := fun hpos => hfirst hreset (h.answered (hok hstatus) hpos)
      show w.sem + 1 + w.consumed ≤ 1
      omega
    · obtain ⟨hreset, q, hq, hform⟩ := hanswered
      have hawait : wait = false := hw.symm.trans hawait
      rw [hwait, Bool.or_eq_false_iff, decide_eq_false_iff_not] at hawait
      have hold : q ∈ w.seen := (mem_seenWith hq).resolve_right fun heq => hawait.2 (heq ▸ hform)
      obtain ⟨m, hm, hmform⟩ := h.notified ⟨hreset, q, hold, hform⟩ hawait.1
      exact ⟨m, hsub hm, hmform⟩
    · -- a reset that is checked was answered before
      have hconsumed : CmdPhase.Consumes .checking w.consumed := hphase ▸ h.consumed
      refine absurd (h.answered (hok hstatus) ?_) (hfirst hanswered.1)
      rw [htokens]
      exact Nat.add_pos_right _ hconsumed
  | notification _ hwait hform hkind =>
    have hanswered := h.awaited hwait
    obtain ⟨q, hq, hown⟩ := hanswered.answered h.own
    have hwire : w.onWire = true := h.wire (List.ne_nil_of_mem hq)
    -- it is no response: that one would have another group than the reset
    have hreset : p.Notifies := by
      rcases hkind with hkind | ⟨hresponse, hgid⟩
      · exact hntf hkind hwait
      · obtain ⟨-, -, ⟨-, -, hsame, -⟩, -⟩ := hrsp hresponse
        exact absurd (hsame.trans hanswered.1.1) hgid
    have hnotified : (w.received p (.posted false, hal, x)).Notified :=
      ⟨p, mem_seenWith_self hwire, hreset⟩
    refine ⟨hext, fun _ => hwire, hnew, fun _ _ => ⟨q, hsub hq, hown⟩, fun hawait => ?_,
      fun _ hawait => ?_, fun _ _ => hnotified, h.consumed, fun _ _ _ => hnotified⟩
    · exact absurd (hw.symm.trans hawait) Bool.false_ne_true
    · exact absurd (hw.symm.trans hawait) Bool.false_ne_true
  | other hnot hform =>
    have hform := hform h.ext
    have hreceive := w.received_of_not_posted p hal x hnot
    have hold : (w.received p (hand, hal, x)).Answered20 → w.Answered20 := by
      rw [hreceive]
      rintro ⟨hreset, q, hq, hqform⟩
      exact ⟨hreset, q, (mem_seenWith hq).resolve_right fun heq => hform (heq ▸ hqform), hqform⟩
    have hgrows : w.Notified → (w.received p (hand, hal, x)).Notified := by
      rw [hreceive]
      exact fun ⟨q, hq, hqform⟩ => ⟨q, hsub hq, hqform⟩
    rw [hreceive] at hold hgrows ⊢
    refine ⟨hext, fun hseen => ?_, hnew, fun hstatus hpos => ?_, fun hawait => ?_,
      fun hstatus hawait => ?_, fun hanswered hawait => ?_, h.consumed,
      fun hphase hstatus hanswered => ?_⟩
    · by_contra hwire
      refine hwire (h.wire fun hnil => hseen ?_)
      show w.seenWith p = []
      rw [CmdCall.seenWith, if_neg hwire, hnil]
    · obtain ⟨q, hq, hown⟩ := h.answered hstatus hpos
      exact ⟨q, hsub hq, hown⟩
    · obtain ⟨hreset, q, hq, hqform⟩ := h.awaited (hw.symm.trans hawait)
      exact ⟨hreset, q, hsub hq, hqform⟩
    · exact h.single hstatus (hw.symm.trans hawait)
    · exact hgrows (h.notified (hold hanswered) (hw.symm.trans hawait))
    · exact hgrows (h.checking hphase hstatus (hold hanswered))

/-- A packet that is no response changes nothing for a call that begins or returns. -/
theorem resting_receive {p : NfccPacket} {r : Handover × RxState × Rx} (h : w.Resting)
    (hphase : w.phase.rests = true) (hown : w.Owns p) (hext : r.2.1.halExtEnabled = true)
    (hc : w.hal.Completes p.bytes r.1 r.2.1.waitForNtf) : (w.received p r).Resting := by
  have hnone : ¬ isResponse p.bytes := by
    intro hresponse
    obtain ⟨hnot, hwire, -⟩ := hown.1 hresponse
    generalize hw : w.phase = phase at hphase hnot
    cases phase with
    | starting => exact absurd ((h.fresh hw).2.symm.trans hwire) Bool.false_ne_true
    | returning => exact hnot rfl
    | idle | writing | waiting | awake | waitingNtf | awakeNtf | checking => cases hphase
  obtain ⟨hand, hal, x⟩ := r
  dsimp only at hext hc
  generalize hw : hal.waitForNtf = wait at hc
  cases hc with
  | response _ hresponse _ => exact absurd hresponse hnone
  | notification _ hwait _ _ => exact absurd (h.wait.symm.trans hwait) Bool.false_ne_true
  | other hnot _ =>
    have hreceive := w.received_of_not_posted p hal x hnot
    rw [hreceive]
    have hsub := seen_subset_seenWith (w := w) p
    refine ⟨hext, hw.trans h.wait, fun hstarting => ?_, fun hreturning hstatus => ?_⟩
    · obtain ⟨hseen, hwire⟩ := h.fresh hstarting
      refine ⟨?_, hwire⟩
      show w.seenWith p = []
      rw [CmdCall.seenWith, if_neg (by rw [hwire]; exact Bool.false_ne_true), hseen]
    · obtain ⟨⟨q, hq, hresponds⟩, hnotified⟩ := h.answers hreturning hstatus
      refine ⟨⟨q, hsub hq, hresponds⟩, fun hreset ⟨y, hy, hform⟩ => ?_⟩
      -- the packet is no response, so that of the reset was there before
      have hold : y ∈ w.seen := by
        refine (mem_seenWith hy).resolve_right fun heq => hnone ?_
        rw [← heq, isResponse, hform.1]
        rfl
      obtain ⟨n, hn, hnotifies⟩ := hnotified hreset ⟨y, hold, hform⟩
      exact ⟨n, hsub hn, hnotifies⟩

theorem UnderWay.inv (hphase : w.phase ≠ .idle) (hnot : w.phase.rests = false) (h : w.UnderWay) :
    w.Inv :=
  ⟨fun hidle => absurd hidle hphase,
    fun _ => ⟨fun _ => h, fun hrests => absurd (hnot.symm.trans hrests) (by decide)⟩⟩

theorem inv_send (h : w.Inv) (hidle : w.phase = .idle) (cmd : List UInt8) : (w.send cmd).Inv :=
  Resting.inv rfl ⟨rfl, (h.idle hidle).2, fun _ => ⟨rfl, rfl⟩, fun hphase => nomatch hphase⟩

theorem inv_initCbData (h : w.Resting) (hphase : w.phase = .starting) (hfree : w.posting = false)
    (created : Bool) : (w.initCbData created).Inv := by
  obtain ⟨hseen, hwire⟩ := h.fresh hphase
  cases created with
  | false =>
    -- nothing was sent, and the call fails
    exact Resting.inv rfl ⟨h.ext, h.wait, (fun hstarting => nomatch hstarting),
      fun _ hstatus => absurd hstatus failed_ne_success⟩
  | true =>
    refine UnderWay.inv (fun hidle => nomatch hidle) rfl ?_
    have hnone : ∀ p : NfccPacket, p ∉ w.seen := by
      rw [hseen]
      exact fun p => List.not_mem_nil
    have htokens : (w.initCbData true).tokens = 0 := by
      show 0 + w.posting.toNat + 0 = 0
      rw [hfree]
      rfl
    refine ⟨h.ext, fun hne => absurd hseen hne, fun p hp => absurd hp (hnone p), ?_, ?_, ?_, ?_, rfl,
      fun hcheck => nomatch hcheck⟩
    · intro _ hpos
      rw [htokens] at hpos
      exact absurd hpos (Nat.lt_irrefl 0)
    · intro hawait
      exact absurd (h.wait.symm.trans hawait) Bool.false_ne_true
    · intro _ hawait
      exact absurd (h.wait.symm.trans hawait) Bool.false_ne_true
    · rintro ⟨-, p, hp, -⟩
      exact absurd hp (hnone p)

/-- A stage of the command that leaves the flags and the packets alone. -/
theorem UnderWay.move (h : w.UnderWay) (phase : CmdPhase) (running : Bool) (sem consumed : ℕ)
    (htokens : sem + consumed = w.sem + w.consumed) (hconsumed : CmdPhase.Consumes phase consumed)
    (hchecking : phase = .checking → w.status = NFCSTATUS.success → w.Answered20 → w.Notified) :
    UnderWay { w with phase := phase, running := running, sem := sem, consumed := consumed } := by
  have hsum : sem + w.posting.toNat + consumed = w.tokens := by
    unfold tokens
    omega
  refine ⟨h.ext, h.wire, h.own, fun hstatus hpos => h.answered hstatus ?_, h.awaited,
    fun hstatus hawait => ?_, h.notified, hconsumed, hchecking⟩
  · exact hsum ▸ hpos
  · exact hsum.le.trans (h.single hstatus hawait)

/-- A call that has begun to send, in one of its phases. -/
theorem Inv.underWay {phase : CmdPhase} (h : w.Inv) (hphase : w.phase = phase)
    (hidle : phase ≠ .idle) (hnot : phase.rests = false) : w.UnderWay :=
  (h.going (hphase ▸ hidle)).underWay (hphase ▸ hnot)

/-- A call that begins or returns. -/
theorem Inv.resting {phase : CmdPhase} (h : w.Inv) (hphase : w.phase = phase)
    (hidle : phase ≠ .idle) (hrests : phase.rests = true) : w.Resting :=
  (h.going (hphase ▸ hidle)).resting (hphase ▸ hrests)

/-- A stage of a call keeps the invariant, and a command that succeeds in it was answered. -/
theorem callStep_inv {i : CallInput} (h : w.Inv)
    (hfree : ∀ created, i = .init created → w.posting = false) (hsem : i ≠ .semError) (hs : w.callStep i = some (u, o)) : u.Inv ∧ Succeeded o := by
  cases i with
  | send cmd =>
    rw [callStep] at hs
    split at hs
    · rename_i hidle
      cases hs
      exact ⟨inv_send h hidle cmd, succeeded_silent⟩
    · cases hs
  | init created =>
    rw [callStep] at hs
    split at hs
    · rename_i hphase
      cases hs
      have hresting := h.resting hphase (by decide) rfl
      exact ⟨inv_initCbData hresting hphase (hfree created rfl) created, succeeded_silent⟩
    · cases hs
  | transmit =>
    rw [callStep] at hs
    split at hs
    · rename_i hphase
      cases hs
      have hway := h.underWay hphase (by decide) rfl
      refine ⟨UnderWay.inv (by rw [hphase]; decide) (by rw [hphase]; rfl) ?_, succeeded_silent⟩
      refine ⟨hway.ext, fun hseen => ?_, hway.own, hway.answered, hway.awaited, hway.single,
        hway.notified, hway.consumed, hway.checking⟩
      show (w.onWire || decide w.Carries) = true
      rw [hway.wire hseen, Bool.true_or]
    · cases hs
  | written success started =>
    rw [callStep] at hs
    split at hs
    · rename_i hphase
      have hway := h.underWay hphase.1 (by decide) rfl
      split at hs
      · cases hs
        refine ⟨UnderWay.inv (fun hidle => nomatch hidle) rfl ?_, succeeded_silent⟩
        have hconsumed : CmdPhase.Consumes .writing w.consumed := hphase.1 ▸ hway.consumed
        exact hway.move .waiting true w.sem w.consumed rfl hconsumed fun hcheck => nomatch hcheck
      · cases hs
        exact ⟨inv_failed hway, succeeded_silent⟩
    · cases hs
  | wake =>
    rw [callStep] at hs
    split at hs
    · rename_i hphase
      cases hs
      obtain ⟨hsem, hphase⟩ := hphase
      have hsum : w.sem - 1 + (w.consumed + 1) = w.sem + w.consumed := by omega
      rcases hphase with hphase | hphase
      · have hway := h.underWay hphase (by decide) rfl
        have hconsumed : CmdPhase.Consumes .waiting w.consumed := hphase ▸ hway.consumed
        have hnext : w.consumed + 1 = 1 := congrArg (· + 1) hconsumed
        rw [if_pos hphase]
        refine ⟨UnderWay.inv (fun hidle => nomatch hidle) rfl ?_, succeeded_silent⟩
        exact hway.move .awake w.running _ _ hsum hnext fun hcheck => nomatch hcheck
      · have hway := h.underWay hphase (by decide) rfl
        have hconsumed : CmdPhase.Consumes .waitingNtf w.consumed := hphase ▸ hway.consumed
        have hnext : w.consumed + 1 = 2 := congrArg (· + 1) hconsumed
        rw [if_neg (by rw [hphase]; decide)]
        refine ⟨UnderWay.inv (fun hidle => nomatch hidle) rfl ?_, succeeded_silent⟩
        exact hway.move .awakeNtf w.running _ _ hsum hnext fun hcheck => nomatch hcheck
    · cases hs
  | semError => exact absurd rfl hsem
  | proceed stopped started =>
    rw [callStep] at hs
    split at hs
    · rename_i hphase
      have hway := h.underWay hphase (by decide) rfl
      have hconsumed : CmdPhase.Consumes .awake w.consumed := hphase ▸ hway.consumed
      split at hs
      · cases hs
        exact ⟨inv_failed hway, succeeded_silent⟩
      split at hs
      · split at hs
        · cases hs
          refine ⟨UnderWay.inv (fun hidle => nomatch hidle) rfl ?_, succeeded_silent⟩
          exact hway.move .waitingNtf true w.sem w.consumed rfl hconsumed
            fun hcheck => nomatch hcheck
        · cases hs
          have hrunning : UnderWay { w with running := false } :=
            ⟨hway.ext, hway.wire, hway.own, hway.answered, hway.awaited, hway.single, hway.notified,
              hway.consumed, hway.checking⟩
          exact ⟨inv_failed hrunning, succeeded_silent⟩
      · rename_i hwait
        cases hs
        have hpos : 0 < w.consumed := hconsumed.symm ▸ Nat.zero_lt_one
        refine ⟨UnderWay.inv (fun hidle => nomatch hidle) rfl ?_, succeeded_silent⟩
        exact hway.move .checking false w.sem w.consumed rfl hpos fun _ _ hanswered =>
          hway.notified hanswered ((Bool.not_eq_true _).mp hwait)
    split at hs
    · rename_i hphase
      have hway := h.underWay hphase (by decide) rfl
      have hconsumed : CmdPhase.Consumes .awakeNtf w.consumed := hphase ▸ hway.consumed
      have hconsumed : w.consumed = 2 := hconsumed
      split at hs
      · cases hs
        exact ⟨inv_failed hway, succeeded_silent⟩
      · cases hs
        refine ⟨UnderWay.inv (fun hidle => nomatch hidle) rfl ?_, succeeded_silent⟩
        refine hway.move .checking false w.sem w.consumed rfl (hconsumed.symm ▸ Nat.zero_lt_two)
          fun _ hstatus hanswered => hway.notified hanswered ?_
        -- the second post is the one of the notification
        by_contra hwait
        have hsingle := hway.single hstatus ((Bool.not_eq_false _).mp hwait)
        unfold tokens at hsingle
        omega
    · cases hs
  | finish =>
    rw [callStep] at hs
    split at hs
    · rename_i hphase
      have hway := h.underWay hphase (by decide) rfl
      have hconsumed : CmdPhase.Consumes .checking w.consumed := hphase ▸ hway.consumed
      cases hs
      refine ⟨inv_cleanAndReturn hway fun hstatus => ?_, succeeded_silent⟩
      have hok : w.status = NFCSTATUS.success := by
        unfold checkedStatus at hstatus
        split at hstatus
        · exact absurd hstatus (by decide)
        · rename_i hne
          exact not_not.1 hne
      refine ⟨hway.answered hok (Nat.add_pos_right _ hconsumed), fun hreset hform => ?_⟩
      exact hway.checking hphase hok ⟨hreset, hform⟩
    · cases hs
  | leave =>
    rw [callStep] at hs
    split at hs
    · rename_i hphase
      cases hs
      have hresting := h.resting hphase (by decide) rfl
      refine ⟨⟨fun _ => ⟨rfl, hresting.wait⟩, fun hne => absurd rfl hne⟩, fun cmd seen heq => ?_⟩
      injection heq with hcmd hstatus hseen
      subst hcmd hseen
      exact hresting.answers hphase hstatus
    · cases hs

/-- Only a call that is under way goes on. -/
theorem callStep_of_idle {i : CallInput} {r : ExtCmd × ExtCmdOutput} (hidle : w.phase = .idle)
    (hs : w.callStep i = some r) : i.Sends := by
  cases i with
  | send => trivial
  | init | transmit | written | wake | semError | proceed | finish | leave =>
    simp [callStep, hidle] at hs

/-- What the client thread does keeps the invariant, if a packet is the one of the command. -/
theorem clientStep_inv {i : ClientInput} (h : w.Inv)
    (hown : ∀ created p pLen, i = .receive created p pLen → w.phase ≠ .idle → w.Owns p)
    (hs : w.toCmdShared.clientStep i = some s) : Inv ⟨s, w.toCmdCall.note i⟩ := by
  cases i with
  | receive created p pLen =>
    rw [CmdShared.clientStep] at hs
    split at hs
    · cases hs
    · rename_i hfree
      rw [not_or, Nat.not_lt, Bool.not_eq_true] at hfree
      obtain ⟨r, hr, rfl⟩ := Option.map_eq_some_iff.1 hs
      obtain ⟨hext, hcompletes⟩ := RxState.readComplete_completes hfree.2 hr
      have hhal : (w.received p r).hal = r.2.1 := by
        unfold received CmdShared.receive
        dsimp only
        split
        · rfl
        · rfl
      show (w.received p r).Inv
      refine ⟨fun hidle => ?_, fun hphase => ?_⟩
      · -- without a command no packet is for the HAL
        obtain ⟨hoff, hwait⟩ := h.idle hidle
        rw [hhal, hext]
        refine ⟨hoff, ?_⟩
        generalize r.2.1.waitForNtf = wait at hcompletes
        generalize r.1 = hand at hcompletes
        cases hcompletes with
        | response hon _ _ => exact absurd (hoff.symm.trans hon) Bool.false_ne_true
        | notification hon _ _ _ => exact absurd (hoff.symm.trans hon) Bool.false_ne_true
        | other _ _ => exact hwait
      · have hgoing := h.going hphase
        have howns := hown created p pLen rfl hphase
        have hsame : (w.received p r).phase = w.phase := rfl
        refine ⟨fun hnot => ?_, fun hrests => ?_⟩
        · have hway := hgoing.underWay (hsame ▸ hnot)
          exact underWay_receive hway hfree.1 howns (hext.trans hway.ext) hcompletes
        · have hresting := hgoing.resting (hsame ▸ hrests)
          exact resting_receive hresting (hsame ▸ hrests) howns (hext.trans hresting.ext) hcompletes
  | expire =>
    rw [CmdShared.clientStep] at hs
    split at hs
    · cases hs
      refine ⟨h.idle, fun hphase => ⟨fun hnot => ?_, fun hrests => ?_⟩⟩
      · have hway := (h.going hphase).underWay hnot
        exact ⟨hway.ext, hway.wire, hway.own, hway.answered, hway.awaited, hway.single,
          hway.notified, hway.consumed, hway.checking⟩
      · have hresting := (h.going hphase).resting hrests
        exact ⟨hresting.ext, hresting.wait, hresting.fresh, hresting.answers⟩
    · cases hs
  | timeoutCb =>
    rw [CmdShared.clientStep] at hs
    split at hs
    · cases hs
      refine ⟨h.idle, fun hphase => ⟨fun hnot => ?_, fun hrests => ?_⟩⟩
      · have hway := (h.going hphase).underWay hnot
        exact ⟨hway.ext, hway.wire, hway.own, fun hstatus => absurd hstatus failed_ne_success,
          hway.awaited, fun hstatus => absurd hstatus failed_ne_success, hway.notified,
          hway.consumed, fun _ hstatus => absurd hstatus failed_ne_success⟩
      · have hresting := (h.going hphase).resting hrests
        exact ⟨hresting.ext, hresting.wait, hresting.fresh, hresting.answers⟩
    · cases hs
  | post =>
    rw [CmdShared.clientStep] at hs
    split at hs
    · rename_i hposting
      cases hs
      have hsum : w.sem + 1 + false.toNat + w.consumed = w.tokens := by
        rw [tokens, hposting]
        rfl
      refine ⟨h.idle, fun hphase => ⟨fun hnot => ?_, fun hrests => ?_⟩⟩
      · have hway := (h.going hphase).underWay hnot
        exact ⟨hway.ext, hway.wire, hway.own,
          fun hstatus hpos => hway.answered hstatus (hsum ▸ hpos), hway.awaited,
          fun hstatus hawait => hsum.le.trans (hway.single hstatus hawait),
          hway.notified, hway.consumed, hway.checking⟩
      · have hresting := (h.going hphase).resting hrests
        exact ⟨hresting.ext, hresting.wait, hresting.fresh, hresting.answers⟩
    · cases hs

end ExtCmd

/-! ## The calls of all threads -/

namespace ExtCmds

variable {τ : Type} {m n : ExtCmds τ} {i : ExtCmdsInput τ} {o : ExtCmdOutput}

/-- At most one call is under way, with its invariant; and nothing is awaited without one. -/
structure Inv (m : ExtCmds τ) : Prop where
  idle : m.AllIdle → m.shared.hal.halExtEnabled = false ∧ m.shared.hal.waitForNtf = false
  going : ∀ thread, (m.calls thread).phase ≠ .idle → (m.view thread).Going
  single : ∀ thread other, (m.calls thread).phase ≠ .idle → other ≠ thread →
    (m.calls other).phase = .idle

/-- The call that is under way is alone. -/
theorem Inv.view (h : m.Inv) {thread : τ} (hphase : (m.calls thread).phase ≠ .idle) :
    (m.view thread).Inv :=
  ⟨fun hidle => absurd hidle hphase, h.going thread⟩

/-- A call that begins is alone, and so is one that goes on. -/
theorem callStep_alone [DecidableEq τ] {thread : τ} {c : CallInput} {r : ExtCmd × ExtCmdOutput}
    (h : m.Inv) (hmatched : m.Matched (.call thread c)) (hs : (m.view thread).callStep c = some r) :
    (m.view thread).Inv ∧ ∀ other, other ≠ thread → (m.calls other).phase = .idle := by
  by_cases hphase : (m.calls thread).phase = .idle
  · have hsends := ExtCmd.callStep_of_idle hphase hs
    cases c with
    | send cmd =>
      exact ⟨⟨fun _ => h.idle hmatched, fun hne => absurd hphase hne⟩, fun other _ => hmatched other⟩
    | init | transmit | written | wake | semError | proceed | finish | leave => exact hsends.elim
  · exact ⟨h.view hphase, fun other => h.single thread other hphase⟩

/-- A step keeps the invariant, and a command that succeeds in it was answered. -/
theorem step_inv [DecidableEq τ] (h : m.Inv) (hmatched : m.Matched i) (hs : m.step i = some (n, o)) :
    n.Inv ∧ ExtCmd.Succeeded o := by
  cases i with
  | call thread c =>
    obtain ⟨⟨u, v⟩, hr, heq⟩ := Option.map_eq_some_iff.1 hs
    cases heq
    obtain ⟨hview, hothers⟩ := callStep_alone h hmatched hr
    have hstep : u.Inv ∧ ExtCmd.Succeeded v := by
      refine ExtCmd.callStep_inv hview (fun created hinit => ?_) (fun hsem => ?_) hr
      · subst hinit
        exact hmatched
      · subst hsem
        exact hmatched
    refine ⟨?_, hstep.2⟩
    have hself : (m.put thread u).calls thread = u.toCmdCall := Function.update_self ..
    have hother : ∀ {other}, other ≠ thread → (m.put thread u).calls other = m.calls other :=
      fun hne => Function.update_of_ne hne _ _
    -- the call that went on is still the only one
    have hidle : ∀ other, other ≠ thread → ((m.put thread u).calls other).phase = .idle := by
      intro other hne
      rw [hother hne]
      exact hothers other hne
    refine ⟨fun hall => hstep.1.idle ?_, fun other hphase => ?_, fun other another hphase hne => ?_⟩
    · rw [← hself]
      exact hall thread
    · obtain rfl : other = thread := by_contra fun hne => hphase (hidle other hne)
      have hview : (m.put other u).view other = u := by
        rw [view, hself]
        rfl
      rw [hview]
      exact hstep.1.going (hself ▸ hphase)
    · obtain rfl : other = thread := by_contra fun hne => hphase (hidle other hne)
      exact hidle another hne
  | client c =>
    obtain ⟨s, hr, heq⟩ := Option.map_eq_some_iff.1 hs
    cases heq
    have hnote : ∀ call : CmdCall, (call.note c).phase = call.phase := by
      intro call
      cases c <;> rfl
    have hclient : ∀ call : CmdCall, ExtCmd.Inv ⟨m.shared, call⟩ →
        (∀ created p pLen, c = .receive created p pLen → call.phase ≠ .idle →
          ExtCmd.Owns ⟨m.shared, call⟩ p) → ExtCmd.Inv ⟨s, call.note c⟩ :=
      fun call hinv hown => ExtCmd.clientStep_inv hinv hown hr
    refine ⟨⟨fun hall => ?_, fun thread hphase => ?_, fun thread other hphase hne => ?_⟩,
      ExtCmd.succeeded_silent⟩
    · -- seen by a call that is not under way
      have hidle : m.AllIdle := fun thread => (hnote _).symm.trans (hall thread)
      have hinv := hclient .start
        ⟨fun _ => h.idle hidle, fun hphase => absurd rfl hphase⟩
        (fun _ _ _ _ hphase => absurd rfl hphase)
      exact hinv.idle (hnote _)
    · have hbefore : (m.calls thread).phase ≠ .idle := fun hidle => hphase ((hnote _).trans hidle)
      have hinv := hclient (m.calls thread) (h.view hbefore) fun created p pLen heq _ => by
        subst heq
        exact hmatched thread hbefore
      exact hinv.going hphase
    · have hbefore : (m.calls thread).phase ≠ .idle := fun hidle => hphase ((hnote _).trans hidle)
      exact (hnote _).trans (h.single thread other hbefore hne)
  | overwrite bytes cmdLen =>
    cases hs
    refine ⟨⟨h.idle, fun thread hphase => ?_, h.single⟩, ExtCmd.succeeded_silent⟩
    refine ⟨fun hnot => ?_, fun hrests => ?_⟩
    · have hway := (h.going thread hphase).underWay hnot
      exact ⟨hway.ext, hway.wire, hway.own, hway.answered, hway.awaited, hway.single, hway.notified,
        hway.consumed, hway.checking⟩
    · have hresting := (h.going thread hphase).resting hrests
      exact ⟨hresting.ext, hresting.wait, hresting.fresh, hresting.answers⟩

end ExtCmds

/-! ## Runs -/

end AliceHal.Pn54x.Hal
