import AliceHal.Lib.Machine
import AliceHal.Pn54x.Status

/-!
# OSAL Timers

`phOsalNfc_Timer.c`: an array of timer handles over POSIX timers. An expiry is reported in two
stages: the notification thread of the kernel (`phOsalNfc_Timer_Expired`) posts a message, and the
client thread delivers it (`phOsalNfc_DeferredCall`), which calls what is registered then.

- `TimerHandle`, `Timers`: the array, the kernel's timers, and the expiries under way
- `Timers.create`, `start`, `stop`, `delete`: the calls of the module
- `Timers.step`: one call or one stage of an expiry, as a machine

How long a timer runs is not modelled: an armed timer may expire at any time. A callback is a value
of `γ`, which stands for `Application_callback` together with `pContext`. The numbers of starts and
of messages are bookkeeping, to tell which start registered a callback and which expiry a message
reports.
-/

namespace AliceHal.Pn54x.Tml

/-- The number of timers, `PH_NFC_MAX_TIMER`. -/
abbrev maxTimer : ℕ := 5

/-- `PH_NFC_TIMER_BASE_ADDRESS`. -/
def timerBaseAddress : UInt32 := 100

/-- `PH_NFC_TIMER_ID_INVALID`. -/
def timerIdInvalid : UInt32 := 0xFFFF

/-- `CID_NFC_OSAL`. -/
def cidNfcOsal : UInt16 := 0x00

/-- `PH_OSALNFC_TIMER_START_ERROR`. -/
def timerStartError : NFCSTATUS := 0x00E1

/-- `PH_OSALNFC_TIMER_STOP_ERROR`. -/
def timerStopError : NFCSTATUS := 0x00E2

/-- `PH_OSALNFC_TIMER_DELETE_ERROR`. -/
def timerDeleteError : NFCSTATUS := 0x00E3

/-- States in which an OSAL timer exists. -/
inductive TimerState where
  | idle
  | running
  | stopped
  deriving DecidableEq, Repr

/-- `phOsalNfc_TimerHandle_t`. The message of a handle always points to its own
`tDeferedCallInfo`. -/
structure TimerHandle (γ : Type*) where
  /-- zero while the handle is free -/
  timerId : UInt32
  hTimerHandle : ℕ
  applicationCallback : Option γ
  eState : TimerState
  /-- `tDeferedCallInfo`: the parameter of `phOsalNfc_DeferredCall`, once that is filled in -/
  deferred : Option UInt32
  /-- the start that registered the callback -/
  started : ℕ
  deriving DecidableEq, Repr

/-- An armed timer of the kernel, with the value it passes to the notification. -/
structure ArmedTimer where
  handle : ℕ
  timerId : UInt32
  deriving DecidableEq, Repr

/-- The timer module, the timers of the kernel and the expiries under way. -/
structure Timers (γ : Type*) where
  apTimerInfo : Fin maxTimer → TimerHandle γ
  /-- kernel timers that exist -/
  live : List ℕ
  armed : List ArmedTimer
  /-- notification threads that have not run yet -/
  notifications : List UInt32
  /-- messages that have not been delivered yet, with their numbers -/
  queue : List (Fin maxTimer × ℕ)
  nextHandle : ℕ
  starts : ℕ
  posted : ℕ

namespace TimerHandle

/-- A handle after `memset`. -/
def zero {γ : Type*} : TimerHandle γ := ⟨0, 0, none, .idle, none, 0⟩

end TimerHandle

namespace Timers

variable {γ : Type*}

/-- The static array, before any call. -/
def init : Timers γ := ⟨fun _ => .zero, [], [], [], [], 0, 0, 0⟩

/-- The index `dwTimerId - PH_NFC_TIMER_BASE_ADDRESS - 1`, if it is in the array. -/
def indexOf (dwTimerId : UInt32) : Option (Fin maxTimer) :=
  if h : (dwTimerId - timerBaseAddress - 1).toNat < maxTimer then some ⟨_, h⟩ else none

/-- The timer id of an index. -/
def idOf (i : Fin maxTimer) : UInt32 := UInt32.ofNat i.val + 1 + timerBaseAddress

/-- Replace a handle. -/
def setHandle (s : Timers γ) (i : Fin maxTimer) (h : TimerHandle γ) : Timers γ :=
  { s with apTimerInfo := Function.update s.apTimerInfo i h }

/-- `phUtilNfc_CheckForAvailableTimer`: the first free handle. -/
def checkForAvailableTimer (s : Timers γ) : Option (Fin maxTimer) :=
  (List.finRange maxTimer).find? fun i => (s.apTimerInfo i).timerId == 0

/-- `phOsalNfc_CheckTimerPresence` of a handle of the array. -/
def checkTimerPresence (s : Timers γ) (i : Fin maxTimer) : Bool :=
  (List.finRange maxTimer).any fun j => j == i && (s.apTimerInfo j).timerId != 0

/-! ## The kernel -/

/-- `timer_settime` with a value: arm the timer anew. -/
def arm (s : Timers γ) (h : ℕ) (timerId : UInt32) : Timers γ :=
  { s with armed := s.armed.filter (fun a => a.handle != h) ++ [⟨h, timerId⟩] }

/-- `timer_settime` with zero. -/
def disarm (s : Timers γ) (h : ℕ) : Timers γ :=
  { s with armed := s.armed.filter fun a => a.handle != h }

/-! ## The calls -/

/-- `phOsalNfc_Timer_Create`; `created` says whether `timer_create` succeeds. -/
def create (s : Timers γ) (created : Bool) : Timers γ × UInt32 :=
  match s.checkForAvailableTimer with
  | none => (s, timerIdInvalid)
  | some i =>
    if created then
      ({ s.setHandle i { s.apTimerInfo i with
            timerId := idOf i, hTimerHandle := s.nextHandle, eState := .idle } with
          live := s.live ++ [s.nextHandle]
          nextHandle := s.nextHandle + 1 }, idOf i)
    else (s, timerIdInvalid)

/-- `phOsalNfc_Timer_Start`. -/
def start (s : Timers γ) (dwTimerId : UInt32) (callback : Option γ) : Timers γ × NFCSTATUS :=
  match indexOf dwTimerId, callback with
  | some i, some cb =>
    let h := s.apTimerInfo i
    if h.timerId ≠ 0 then
      let s : Timers γ := { s.setHandle i { h with
          applicationCallback := some cb, eState := .running, started := s.starts } with
        starts := s.starts + 1 }
      if h.hTimerHandle ∈ s.live then (s.arm h.hTimerHandle h.timerId, NFCSTATUS.success)
      else (s, phNfcStVal cidNfcOsal timerStartError)
    else (s, phNfcStVal cidNfcOsal NFCSTATUS.invalidParameter)
  | _, _ => (s, phNfcStVal cidNfcOsal NFCSTATUS.invalidParameter)

/-- `phOsalNfc_Timer_Stop`. A timer that is marked as stopped is left alone. -/
def stop (s : Timers γ) (dwTimerId : UInt32) : Timers γ × NFCSTATUS :=
  match indexOf dwTimerId with
  | some i =>
    let h := s.apTimerInfo i
    if h.timerId ≠ 0 ∧ h.eState ≠ .idle then
      if h.eState = .running then
        if h.hTimerHandle ∈ s.live then
          ((s.disarm h.hTimerHandle).setHandle i { h with eState := .stopped }, NFCSTATUS.success)
        else (s, phNfcStVal cidNfcOsal timerStopError)
      else (s, NFCSTATUS.success)
    else (s, phNfcStVal cidNfcOsal NFCSTATUS.invalidParameter)
  | none => (s, phNfcStVal cidNfcOsal NFCSTATUS.invalidParameter)

/-- `phOsalNfc_Timer_Delete`. -/
def delete (s : Timers γ) (dwTimerId : UInt32) : Timers γ × NFCSTATUS :=
  match indexOf dwTimerId with
  | some i =>
    let h := s.apTimerInfo i
    if h.timerId ≠ 0 ∧ s.checkTimerPresence i then
      let status :=
        if h.hTimerHandle ∈ s.live then NFCSTATUS.success
        else phNfcStVal cidNfcOsal timerDeleteError
      ({ (s.disarm h.hTimerHandle).setHandle i .zero with
          live := s.live.erase h.hTimerHandle }, status)
    else (s, phNfcStVal cidNfcOsal NFCSTATUS.invalidParameter)
  | none => (s, phNfcStVal cidNfcOsal NFCSTATUS.invalidParameter)

/-- `phOsalNfc_Timer_Cleanup`: every timer is deleted. -/
def cleanup (s : Timers γ) : Timers γ :=
  (List.finRange maxTimer).foldl (fun s i =>
    let h := s.apTimerInfo i
    if h.timerId ≠ 0 ∧ s.checkTimerPresence i then
      { (s.disarm h.hTimerHandle).setHandle i .zero with live := s.live.erase h.hTimerHandle }
    else s) s

/-! ## Expiries -/

/-- An armed timer runs out: the kernel starts a notification thread. -/
def fire (s : Timers γ) (a : ArmedTimer) : Timers γ :=
  { s with armed := s.armed.erase a, notifications := s.notifications ++ [a.timerId] }

/-- `phOsalNfc_Timer_Expired`, on the handle of the timer id it is given. -/
def expired (s : Timers γ) (timerId : UInt32) (i : Fin maxTimer) : Timers γ :=
  { s.setHandle i { s.apTimerInfo i with eState := .stopped, deferred := some timerId } with
    notifications := s.notifications.erase timerId
    queue := s.queue ++ [(i, s.posted)]
    posted := s.posted + 1 }

/-- `phOsalNfc_DeferredCall`: the id and the callback that is called, if there is one. -/
def deferredCall (s : Timers γ) (param : UInt32) : Option (UInt32 × γ × ℕ) :=
  (indexOf param).bind fun i =>
    (s.apTimerInfo i).applicationCallback.map fun cb => (param, cb, (s.apTimerInfo i).started)

/-! ## The machine -/

end Timers

/-- A call of the module, or a stage of an expiry. -/
inductive TimerInput (γ : Type*) where
  | create (created : Bool)
  | start (dwTimerId : UInt32) (callback : Option γ)
  | stop (dwTimerId : UInt32)
  | delete (dwTimerId : UInt32)
  | fire (a : ArmedTimer)
  | expired (timerId : UInt32)
  | deliver

/-- What a step shows. -/
inductive TimerOutput (γ : Type*) where
  | created (timerId : UInt32)
  /-- a start that registered its callback, with its number -/
  | started (n : ℕ) (status : NFCSTATUS)
  | status (status : NFCSTATUS)
  | fired
  /-- an expiry of the timer was queued as a message with this number -/
  | posted (timerId : UInt32) (k : ℕ)
  /-- message `k` called the callback that start `n` registered for the timer -/
  | invoked (k : ℕ) (timerId : UInt32) (callback : γ) (n : ℕ)
  /-- message `k` called nothing -/
  | ignored (k : ℕ)
  /-- message `k` reached a handle that was cleared: the client thread calls a null pointer -/
  | nullCall (k : ℕ)
  deriving DecidableEq

namespace Timers

variable {γ : Type*}

/-- The client thread takes a message. It points to the handle, which may have changed since the
message was posted. -/
def deliver (s : Timers γ) : Option (Timers γ × TimerOutput γ) :=
  match s.queue with
  | [] => none
  | (i, k) :: rest =>
    match (s.apTimerInfo i).deferred with
    | none => some ({ s with queue := rest }, .nullCall k)
    | some param =>
      match s.deferredCall param with
      | none => some ({ s with queue := rest }, .ignored k)
      | some (id, cb, n) => some ({ s with queue := rest }, .invoked k id cb n)

/-- One step; `none` where it is not enabled. -/
def step (s : Timers γ) : TimerInput γ → Option (Timers γ × TimerOutput γ)
  | .create created => some ((s.create created).1, .created (s.create created).2)
  | .start id cb =>
    some ((s.start id cb).1,
      if s.starts < (s.start id cb).1.starts then .started s.starts (s.start id cb).2
      else .status (s.start id cb).2)
  | .stop id => some ((s.stop id).1, .status (s.stop id).2)
  | .delete id => some ((s.delete id).1, .status (s.delete id).2)
  | .fire a => if a ∈ s.armed then some (s.fire a, .fired) else none
  | .expired id =>
    if id ∈ s.notifications then
      (indexOf id).map fun i => (s.expired id i, .posted id s.posted)
    else none
  | .deliver => s.deliver

end Timers

end AliceHal.Pn54x.Tml
