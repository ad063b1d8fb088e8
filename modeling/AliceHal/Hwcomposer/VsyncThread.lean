import AliceHal.Lib.Machine

/-!
# The Vsync Thread of a Display

`hwc_event_control` stores `vsync_on` and starts a thread that reports the vsync of the display, or
sleeps while it is off. `hwc_device_close` stops the thread and joins it. Each access to a shared
field, and each operation on the mutex, the condition or a thread, is a step.

The thread calls `pthread_cond_wait` without the mutex and holds it once it was woken. An unlock takes
the mutex from whoever has it.

- `FbCtx`: one display with its threads and the caller of the module
- `FbCtx.step`: a step of the caller or of a thread
- `FbCtx.threadStep_eq_some`: what a step of a thread does
-/

namespace AliceHal.Hwcomposer

/-- `EINVAL`. -/
def eInval : Int32 := 22

/-- `HWC_EVENT_VSYNC`. -/
def hwcEventVsync : Int32 := 0

/-- Where a `vsync_thread` is. -/
inductive VsyncThread where
  /-- created, about to set `vthread_running` -/
  | starting
  /-- about to read `vsync_on` at the head of the loop -/
  | checkingOn
  /-- about to read `vsync_on` in the inner loop -/
  | testingOn
  /-- has read `vsync_on` as zero in the inner loop, about to read `vsync_stop` -/
  | testingStop
  /-- about to call `pthread_cond_wait` -/
  | sleeping
  /-- in `pthread_cond_wait` -/
  | waiting
  /-- woken, about to lock the mutex -/
  | waking
  /-- after the inner loop, about to read `vsync_stop` -/
  | checkingStop
  /-- about to read `vsync_on` once more -/
  | recheckingOn
  /-- about to read the timestamp and call `vsync` -/
  | reporting
  /-- about to clear `vthread_running` -/
  | exiting
  /-- about to return -/
  | returning
  | exited
  deriving DecidableEq, Repr

/-- Where the caller of the module is. A flag tells the `signal_vsync_thread` of `hwc_device_close`
from that of `hwc_event_control`. -/
inductive Caller where
  | idle
  /-- `vsync_on` is stored, about to read `vthread_running` -/
  | guarding (enabled : Int32)
  /-- in `start_vsync_thread`, about to read `vthread_running` -/
  | starting
  /-- about to call `pthread_create` -/
  | creating
  /-- in `signal_vsync_thread`, about to read `vthread_running` -/
  | signaling (closing : Bool)
  | locking (closing : Bool)
  | condSignaling (closing : Bool)
  | unlocking (closing : Bool)
  /-- in `hwc_device_close`, about to read `vthread_running` -/
  | stopping
  /-- about to set `vsync_stop` -/
  | settingStop
  /-- about to call `pthread_join`, or in it -/
  | joining
  /-- about to clear `vthread_running` -/
  | joined
  /-- about to close `vsyncfd` -/
  | closingVsync
  | closed
  deriving DecidableEq, Repr

/-- `struct fb_ctx_t`, with the threads created for it and the caller. -/
structure FbCtx where
  available : Bool
  fakeVsync : Bool
  vsyncOn : Int32
  vsyncStop : Bool
  vthreadRunning : Bool
  /-- the thread created last -/
  vthread : Option ℕ
  /-- `mutex` is locked -/
  locked : Bool
  threads : List VsyncThread
  caller : Caller
  deriving DecidableEq, Repr

/-- The next step. -/
inductive VsyncInput where
  /-- `hwc_event_control` is called -/
  | eventControl (event enabled : Int32)
  /-- `hwc_device_close` is called -/
  | close
  /-- the caller goes on -/
  | caller
  /-- the signal of the caller wakes a thread -/
  | signal (i : ℕ)
  /-- a thread goes on; `read` tells whether its `pread` is not zero -/
  | thread (i : ℕ) (read : Bool)
  /-- `pthread_cond_wait` returns without a signal -/
  | spurious (i : ℕ)
  deriving DecidableEq, Repr

namespace FbCtx

/-- The display as `hwc_device_open` leaves it. -/
def init (available fakeVsync : Bool) : FbCtx where
  available := available
  fakeVsync := fakeVsync
  vsyncOn := 0
  vsyncStop := false
  vthreadRunning := false
  vthread := none
  locked := false
  threads := []
  caller := .idle

/-- A thread is here now. -/
def goto (s : FbCtx) (i : ℕ) (pc : VsyncThread) : FbCtx := { s with threads := s.threads.set i pc }

/-- Where `fb->vthread` is. -/
def current (s : FbCtx) : Option VsyncThread := s.vthread.bind fun i => s.threads[i]?

end FbCtx

/-! ## The thread -/

namespace VsyncThread

/-- Where `vsync_thread` goes next. It is stuck while it waits, or when the mutex is taken. -/
def next (s : FbCtx) (read : Bool) : VsyncThread → Option VsyncThread
  | .starting => some .checkingOn
  | .checkingOn => some (if s.vsyncOn = 0 then .testingOn else .reporting)
  | .testingOn => some (if s.vsyncOn = 0 then .testingStop else .checkingStop)
  | .testingStop => some (if s.vsyncStop then .checkingStop else .sleeping)
  | .sleeping => some .waiting
  | .waiting => none
  | .waking => if s.locked then none else some .testingOn
  | .checkingStop => some (if s.vsyncStop then .exiting else .recheckingOn)
  | .recheckingOn => some (if s.vsyncOn = 0 then .checkingOn else .reporting)
  -- only the real vsync reads the file
  | .reporting => some (if s.fakeVsync || read then .checkingOn else .exiting)
  | .exiting => some .returning
  | .returning => some .exited
  | .exited => none

/-- What it does to the shared fields on the way. -/
def effect (s : FbCtx) : VsyncThread → FbCtx
  | .starting => { s with vthreadRunning := true }
  | .sleeping => { s with locked := false }
  | .waking => { s with locked := true }
  | .exiting => { s with vthreadRunning := false }
  | _ => s

end VsyncThread

namespace FbCtx

/-- A step of a thread. -/
def threadStep (s : FbCtx) (i : ℕ) (read : Bool) : Option FbCtx :=
  s.threads[i]?.bind fun pc => (pc.next s read).map fun pc' => (pc.effect s).goto i pc'

/-- A thread that waits is woken. -/
def wake (s : FbCtx) (i : ℕ) : Option FbCtx :=
  if s.threads[i]? = some .waiting then some (s.goto i .waking) else none

/-! ## The caller -/

/-- After `signal_vsync_thread`. -/
def afterSignal (closing : Bool) : Caller := if closing then .joining else .idle

/-- The value that `hwc_event_control` returns when it ends after `signal_vsync_thread`. -/
def returned (closing : Bool) : Option Int32 := if closing then none else some 0

/-- A step of the caller, with the value returned when its call ends. -/
def callerStep (s : FbCtx) : Option (FbCtx × Option Int32) :=
  match s.caller with
  | .idle | .closed => none
  | .guarding enabled =>
    if !s.vthreadRunning && enabled != 0 then some ({ s with caller := .starting }, none)
    else some ({ s with caller := .idle }, some 0)
  | .starting =>
    some ({ s with caller := if s.vthreadRunning then .signaling false else .creating }, none)
  | .creating =>
    some ({ s with
      threads := s.threads ++ [.starting]
      vthread := some s.threads.length
      caller := .idle }, some 0)
  | .signaling closing =>
    if s.vthreadRunning then some ({ s with caller := .locking closing }, none)
    else some ({ s with caller := afterSignal closing }, returned closing)
  | .locking closing =>
    if s.locked then none
    else some ({ s with locked := true, caller := .condSignaling closing }, none)
  | .condSignaling closing =>
    -- the signal is lost when no thread waits
    if .waiting ∈ s.threads then none else some ({ s with caller := .unlocking closing }, none)
  | .unlocking closing =>
    some ({ s with locked := false, caller := afterSignal closing }, returned closing)
  | .stopping =>
    some ({ s with caller := if s.vthreadRunning then .settingStop else .closingVsync }, none)
  | .settingStop => some ({ s with vsyncStop := true, caller := .signaling true }, none)
  | .joining => if s.current = some .exited then some ({ s with caller := .joined }, none) else none
  | .joined => some ({ s with vthreadRunning := false, caller := .closingVsync }, none)
  | .closingVsync => some ({ s with caller := .closed }, some 0)

/-- A call of `hwc_event_control`. -/
def eventControl (s : FbCtx) (event enabled : Int32) : Option (FbCtx × Option Int32) :=
  if s.caller ≠ .idle then none
  else if event ≠ hwcEventVsync then some (s, some 0)
  else if !s.available then some (s, some (-eInval))
  else some ({ s with vsyncOn := enabled, caller := .guarding enabled }, none)

/-- The signal of the caller wakes a thread. -/
def signal (s : FbCtx) (i : ℕ) : Option FbCtx :=
  match s.caller with
  | .condSignaling closing => (s.wake i).map fun t => { t with caller := .unlocking closing }
  | _ => none

/-- One step. -/
def step (s : FbCtx) : VsyncInput → Option (FbCtx × Option Int32)
  | .eventControl event enabled => s.eventControl event enabled
  | .close => if s.caller = .idle then some ({ s with caller := .stopping }, none) else none
  | .caller => s.callerStep
  | .signal i => (s.signal i).map fun t => (t, none)
  | .thread i read => (s.threadStep i read).map fun t => (t, none)
  | .spurious i => (s.wake i).map fun t => (t, none)

/-! ## What a step does -/

variable {s t : FbCtx} {i : ℕ} {read : Bool}

@[simp]
theorem goto_vsyncOn (pc : VsyncThread) : (s.goto i pc).vsyncOn = s.vsyncOn := rfl

@[simp]
theorem goto_vsyncStop (pc : VsyncThread) : (s.goto i pc).vsyncStop = s.vsyncStop := rfl

@[simp]
theorem goto_vthread (pc : VsyncThread) : (s.goto i pc).vthread = s.vthread := rfl

@[simp]
theorem goto_caller (pc : VsyncThread) : (s.goto i pc).caller = s.caller := rfl

@[simp]
theorem effect_threads (pc : VsyncThread) : (pc.effect s).threads = s.threads := by
  cases pc <;> rfl

@[simp]
theorem effect_vsyncOn (pc : VsyncThread) : (pc.effect s).vsyncOn = s.vsyncOn := by
  cases pc <;> rfl

@[simp]
theorem effect_vsyncStop (pc : VsyncThread) : (pc.effect s).vsyncStop = s.vsyncStop := by
  cases pc <;> rfl

@[simp]
theorem effect_vthread (pc : VsyncThread) : (pc.effect s).vthread = s.vthread := by
  cases pc <;> rfl

@[simp]
theorem effect_caller (pc : VsyncThread) : (pc.effect s).caller = s.caller := by
  cases pc <;> rfl

/-- A thread is where it was, or where it was sent. -/
theorem mem_goto {pc pc' : VsyncThread} (h : pc' ∈ (s.goto i pc).threads) :
    pc' = pc ∨ pc' ∈ s.threads :=
  (List.mem_or_eq_of_mem_set h).symm

theorem getElem?_goto_self {pc old : VsyncThread} (h : s.threads[i]? = some old) :
    (s.goto i pc).threads[i]? = some pc :=
  List.getElem?_set_self (List.getElem?_eq_some_iff.1 h).1

theorem getElem?_goto_of_ne {j : ℕ} {pc : VsyncThread} (h : i ≠ j) :
    (s.goto i pc).threads[j]? = s.threads[j]? :=
  List.getElem?_set_ne h

theorem threadStep_eq_some :
    s.threadStep i read = some t ↔ ∃ pc pc', s.threads[i]? = some pc ∧ pc.next s read = some pc' ∧
      t = (pc.effect s).goto i pc' := by
  constructor
  · intro h
    obtain ⟨pc, hpc, hmap⟩ := Option.bind_eq_some_iff.1 h
    obtain ⟨pc', hnext, rfl⟩ := Option.map_eq_some_iff.1 hmap
    exact ⟨pc, pc', hpc, hnext, rfl⟩
  · rintro ⟨pc, pc', hpc, hnext, rfl⟩
    exact Option.bind_eq_some_iff.2 ⟨pc, hpc, Option.map_eq_some_iff.2 ⟨pc', hnext, rfl⟩⟩

theorem wake_eq_some :
    s.wake i = some t ↔ s.threads[i]? = some .waiting ∧ t = s.goto i .waking := by
  unfold wake
  by_cases h : s.threads[i]? = some .waiting
  · rw [if_pos h]
    exact ⟨fun ht => ⟨h, (Option.some.inj ht).symm⟩, fun ht => congrArg some ht.2.symm⟩
  · rw [if_neg h]
    exact ⟨fun ht => (nomatch ht), fun ht => absurd ht.1 h⟩

theorem signal_eq_some :
    s.signal i = some t ↔ ∃ closing, s.caller = .condSignaling closing ∧
      s.threads[i]? = some .waiting ∧ t = { s.goto i .waking with caller := .unlocking closing } := by
  unfold signal
  constructor
  · intro h
    cases hc : s.caller with
    | condSignaling closing =>
      rw [hc] at h
      obtain ⟨u, hu, rfl⟩ := Option.map_eq_some_iff.1 h
      obtain ⟨hwait, rfl⟩ := wake_eq_some.1 hu
      exact ⟨closing, rfl, hwait, rfl⟩
    | _ =>
      rw [hc] at h
      cases h
  · rintro ⟨closing, hc, hwait, rfl⟩
    rw [hc]
    exact Option.map_eq_some_iff.2 ⟨_, wake_eq_some.2 ⟨hwait, rfl⟩, rfl⟩

/-- A call of `hwc_event_control` returns at once, or stores `vsync_on`. -/
theorem eventControl_cases {event enabled : Int32} {o : Option Int32}
    (h : s.step (.eventControl event enabled) = some (t, o)) :
    t = s ∨ event = hwcEventVsync ∧
      t = { s with vsyncOn := enabled, caller := .guarding enabled } := by
  have hcall : s.eventControl event enabled = some (t, o) := h
  unfold eventControl at hcall
  split at hcall
  · cases hcall
  · split at hcall
    · cases hcall
      exact Or.inl rfl
    · rename_i hevent
      split at hcall
      · cases hcall
        exact Or.inl rfl
      · cases hcall
        exact Or.inr ⟨not_not.1 hevent, rfl⟩

theorem close_eq {o : Option Int32} (h : s.step .close = some (t, o)) :
    t = { s with caller := .stopping } := by
  have hcall : (if s.caller = .idle then some ({ s with caller := .stopping }, none) else none) =
    some (t, o) := h
  split at hcall
  · cases hcall
    rfl
  · cases hcall

end FbCtx

end AliceHal.Hwcomposer
