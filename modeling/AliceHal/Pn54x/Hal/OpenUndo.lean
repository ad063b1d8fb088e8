import AliceHal.Pn54x.Hal.Open
import AliceHal.Pn54x.Tml.TimerSilence

/-!
# Failed Opens

What a failed `phNxpNciHal_open` leaves behind. The label `clean_and_return` unlocks the mutex,
frees the monitor and closes the HAL. It deletes no timer, and it does not release the message
queue, as `phNxpNciHal_close` does; and it unlocks the mutex also where the lock has been given back
before.

- `OpenState.Undone`: nothing of the call is left
- `OpenState.Locked`, `OpenState.Released`: the call up to the client thread, and after it
- `OpenCall.FailsEarly`: the failures before anything is created
- `open_undone_iff`: these are the ones that undo themselves
-/

namespace AliceHal.Pn54x.Tml

variable {γ : Type*} {s : Timers γ} {created : Bool}

/-! ## Timers that are held -/

/-- The timer in a handle: its id and its kernel timer. -/
def Timers.held (s : Timers γ) (i : Fin maxTimer) : Option (UInt32 × ℕ) :=
  if (s.apTimerInfo i).timerId = 0 then none
  else some ((s.apTimerInfo i).timerId, (s.apTimerInfo i).hTimerHandle)

/-- `phOsalNfc_Timer_Create` creates a timer. -/
def Timers.Creates (s : Timers γ) (created : Bool) : Prop :=
  s.checkForAvailableTimer ≠ none ∧ created = true

instance (s : Timers γ) (created : Bool) : Decidable (s.Creates created) :=
  inferInstanceAs (Decidable (_ ∧ _))

namespace Timers

theorem idOf_ne_zero (i : Fin maxTimer) : idOf i ≠ 0 := by
  revert i
  decide

theorem idOf_ne_invalid (i : Fin maxTimer) : idOf i ≠ timerIdInvalid := by
  revert i
  decide

theorem create_of_not_creates (h : ¬ s.Creates created) :
    s.create created = (s, timerIdInvalid) := by
  unfold create
  cases hfree : s.checkForAvailableTimer with
  | none => rfl
  | some i =>
    have hfalse : created ≠ true := fun htrue => h ⟨hfree ▸ Option.some_ne_none i, htrue⟩
    exact if_neg hfalse

/-- The new timer takes a handle that was free. -/
theorem create_of_creates (h : s.Creates created) :
    ∃ i, s.held i = none ∧ (s.create created).2 = idOf i ∧
      (s.create created).1.held = Function.update s.held i (some (idOf i, s.nextHandle)) := by
  obtain ⟨hfree, htrue⟩ := h
  obtain ⟨i, hi⟩ := Option.ne_none_iff_exists'.1 hfree
  have hzero : (s.apTimerInfo i).timerId = 0 := by
    simpa using List.find?_some hi
  refine ⟨i, if_pos hzero, ?_, funext fun j => ?_⟩
  · simp only [create, hi, htrue, if_true]
  · simp only [create, hi, htrue, if_true, held, setHandle]
    by_cases hji : j = i
    · subst hji
      simp [idOf_ne_zero]
    · simp only [Function.update_of_ne hji]
      rfl

theorem create_eq_invalid_iff :
    (s.create created).2 = timerIdInvalid ↔ ¬ s.Creates created := by
  refine ⟨fun hinvalid hcreates => ?_, fun h => by rw [create_of_not_creates h]⟩
  obtain ⟨i, -, hid, -⟩ := create_of_creates hcreates
  exact idOf_ne_invalid i (hid.symm.trans hinvalid)

/-- What is held stays held. -/
theorem held_create_of_some {i : Fin maxTimer} {x : UInt32 × ℕ} (h : s.held i = some x) :
    (s.create created).1.held i = some x := by
  by_cases hcreates : s.Creates created
  · obtain ⟨j, hnone, -, hheld⟩ := create_of_creates hcreates
    have hne : i ≠ j := fun heq => by rw [heq, hnone] at h; cases h
    rw [hheld, Function.update_of_ne hne, h]
  · rw [create_of_not_creates hcreates, h]

/-- Another timer is one too many. -/
theorem held_create_ne {t : Timers γ} (hcreates : t.Creates created)
    (hkept : ∀ i x, s.held i = some x → t.held i = some x) :
    (t.create created).1.held ≠ s.held := by
  intro heq
  obtain ⟨i, hnone, -, hheld⟩ := create_of_creates hcreates
  have hnew : s.held i = some (idOf i, t.nextHandle) := by
    rw [← heq, hheld, Function.update_self]
  rw [hkept i _ hnew] at hnone
  cases hnone

theorem held_create_iff : (s.create created).1.held = s.held ↔ ¬ s.Creates created := by
  refine ⟨fun heq hcreates => held_create_ne hcreates (fun _ _ => id) heq, fun h => ?_⟩
  rw [create_of_not_creates h]

end Timers

end AliceHal.Pn54x.Tml

namespace AliceHal.Pn54x.Hal

open Tml (Timers timerIdInvalid)

variable {γ : Type*} {s t : OpenState γ} {c : OpenCall γ}

/-! ## What should be left -/

/-- The call that led from `s` to this state has undone itself: the HAL is closed, the same timers
exist, the same message queues are allocated, and the mutex was unlocked as often as locked. -/
structure OpenState.Undone (s t : OpenState γ) : Prop where
  closed : t.isOpen = false
  timers : t.timers.held = s.timers.held
  queues : t.queues = s.queues
  balanced : t.unlocked + s.locked = t.locked + s.unlocked

/-- `phNxpNciHal_init_monitor` returns a monitor. -/
def MonitorAnswers.works (a : MonitorAnswers) (monitor : Bool) : Bool :=
  (monitor || a.malloc) && a.reentranceMutex && a.concurrencyMutex && a.semList

/-- The steps of `phTmlNfc_Init` work. -/
def TmlAnswers.works (a : TmlAnswers) : Bool :=
  a.malloc && a.device && (a.rxSemaphore && a.txSemaphore && a.postMsgSemaphore) &&
    (a.readerThread && a.writerThread)

/-- `phTmlNfc_Init` succeeds. -/
def OpenState.TmlReady (s : OpenState γ) (a : TmlAnswers) : Prop :=
  s.tmlContext = none ∧ s.nClientId ≠ 0 ∧ a.works = true ∧ s.timers.Creates a.timer

/-- A failure of a call from `s` before anything is created: there is no timer for the write
response, and it fails at the monitor, at the buffer for the device name, or at the TML layer when
there is no message queue either. -/
def OpenCall.FailsEarly (c : OpenCall γ) (s : OpenState γ) : Prop :=
  ¬ s.timers.Creates c.timer ∧
    (c.monitor.works s.monitor = false ∨ c.devNode = false ∨
      (c.queue = none ∧
        ¬ (s.tmlContext = none ∧ c.tml.works = true ∧ s.timers.Creates c.tml.timer)))

namespace OpenState

/-! ## The TML layer -/

theorem tmlInitFailed_spec {status : NFCSTATUS} (h : status ≠ NFCSTATUS.success) :
    (s.tmlInitFailed status).1 ≠ NFCSTATUS.success ∧
      (s.tmlInitFailed status).2 = s.phTmlNfcCleanUp :=
  ⟨h, rfl⟩

theorem phTmlNfcInit_of_not_ready {a : TmlAnswers} (h : ¬ s.TmlReady a) :
    (s.phTmlNfcInit a).1 ≠ NFCSTATUS.success ∧ (s.phTmlNfcInit a).2 = s.phTmlNfcCleanUp := by
  unfold phTmlNfcInit
  split_ifs with hcontext hclient hmalloc hdevice hsem hthread
  · exact tmlInitFailed_spec (by decide)
  · exact tmlInitFailed_spec (by decide)
  · exact tmlInitFailed_spec (by decide)
  · exact tmlInitFailed_spec (by decide)
  · exact tmlInitFailed_spec (by decide)
  · exact tmlInitFailed_spec (by decide)
  · -- everything before has worked, so it is the timer that is missing
    have hcreates : ¬ s.timers.Creates a.timer := fun hcreates => h
      ⟨by simpa using hcontext, hclient, by simp_all [TmlAnswers.works], hcreates⟩
    rw [createReTxTimer, if_pos (Timers.create_eq_invalid_iff.2 hcreates)]
    exact tmlInitFailed_spec (by decide)

theorem phTmlNfcInit_of_ready {a : TmlAnswers} (h : s.TmlReady a) :
    s.phTmlNfcInit a = (NFCSTATUS.success, { s with
      timers := (s.timers.create a.timer).1
      tmlContext := some
        { dwTimerId := (s.timers.create a.timer).2, dwCallbackThreadId := s.nClientId } }) := by
  obtain ⟨hcontext, hclient, hworks, hcreates⟩ := h
  have hid : (s.timers.create a.timer).2 ≠ timerIdInvalid := fun hinvalid =>
    Timers.create_eq_invalid_iff.1 hinvalid hcreates
  simp only [TmlAnswers.works, Bool.and_eq_true] at hworks
  simp [phTmlNfcInit, createReTxTimer, hcontext, hclient, hworks, hid]

/-! ## Under the lock -/

/-- The call that started in `s` holds the lock. -/
structure Locked (s t : OpenState γ) : Prop where
  isOpen : t.isOpen = true
  monitor : t.monitor = true
  balance : t.unlocked + 1 + s.locked = t.locked + s.unlocked

theorem cleanAndReturn_timers (t : OpenState γ) : t.cleanAndReturn.2.timers = t.timers := by
  unfold cleanAndReturn concurrencyUnlock
  split_ifs <;> rfl

/-- With the lock held, the label balances it. -/
theorem Locked.cleanAndReturn (h : s.Locked t) :
    s.Undone t.cleanAndReturn.2 ↔ t.timers.held = s.timers.held ∧ t.queues = s.queues := by
  have hunlock : t.cleanAndReturn.2.unlocked = t.unlocked + 1 := by
    simp [OpenState.cleanAndReturn, concurrencyUnlock, h.monitor]
  have hlock : t.cleanAndReturn.2.locked = t.locked := by
    simp [OpenState.cleanAndReturn, concurrencyUnlock, h.monitor]
  have htimers : t.cleanAndReturn.2.timers = t.timers := cleanAndReturn_timers t
  have hqueues : t.cleanAndReturn.2.queues = t.queues := by
    simp [OpenState.cleanAndReturn, concurrencyUnlock, h.monitor]
  refine ⟨fun hundone => ⟨htimers ▸ hundone.timers, hqueues ▸ hundone.queues⟩, fun hleft => ?_⟩
  refine ⟨rfl, htimers ▸ hleft.1, hqueues ▸ hleft.2, ?_⟩
  rw [hunlock, hlock]
  exact h.balance

/-- The shutdown of the TML layer deletes no timer. -/
theorem phTmlNfcShutdown_eq (t : OpenState γ) :
    t.phTmlNfcShutdown = { t with tmlContext := none } := by
  unfold phTmlNfcShutdown
  split_ifs with h
  · rfl
  · rw [← Option.not_isSome_iff_eq_none.1 h]

/-! ## After the lock -/

/-- The call that started in `s` has given the lock back. -/
structure Released (s t : OpenState γ) : Prop where
  isOpen : t.isOpen = true
  monitor : t.monitor = true
  balance : t.unlocked + s.locked = t.locked + s.unlocked

theorem Locked.concurrencyUnlock (h : s.Locked t) : s.Released t.concurrencyUnlock := by
  rw [OpenState.concurrencyUnlock, if_pos h.monitor]
  exact ⟨h.isOpen, h.monitor, h.balance⟩

namespace Released

theorem resume (h : s.Released t) (m : Meanwhile γ) : s.Released (t.resume m) :=
  ⟨h.isOpen, h.monitor, h.balance⟩

theorem sendExtCmd (h : s.Released t) (cmd : OpenCmd) (a : OpenAnswer γ) :
    s.Released (t.sendExtCmd cmd a).2 :=
  ⟨h.isOpen, h.monitor, h.balance⟩

theorem phDnldNfcInitImgInfo (h : s.Released t) (image : Option UInt16) :
    s.Released (t.phDnldNfcInitImgInfo image) := by
  cases image with
  | none => exact h
  | some version => exact ⟨h.isOpen, h.monitor, h.balance⟩

theorem phTmlNfcShutdown (h : s.Released t) : s.Released t.phTmlNfcShutdown := by
  rw [phTmlNfcShutdown_eq]
  exact ⟨h.isOpen, h.monitor, h.balance⟩

theorem withTimers (h : s.Released t) (timers : Timers γ) :
    s.Released { t with timers := timers } :=
  ⟨h.isOpen, h.monitor, h.balance⟩

theorem withDownload (h : s.Released t) (success : Bool) :
    s.Released { t with fwDownloadSuccess := success } :=
  ⟨h.isOpen, h.monitor, h.balance⟩

/-- A call that completes leaves the HAL open, also when it returns a failure. -/
theorem complete (h : s.Released t) (status : NFCSTATUS) : ¬ s.Undone (t.complete status).2 := by
  intro hundone
  have hopen : (t.complete status).2.isOpen = true := by
    unfold OpenState.complete phNxpNciHalOpenComplete
    split_ifs <;> exact h.isOpen
  exact Bool.false_ne_true (hundone.closed.symm.trans hopen)

/-- The label unlocks the mutex once more. -/
theorem cleanAndReturn (h : s.Released t) : ¬ s.Undone t.cleanAndReturn.2 := by
  intro hundone
  have hbalanced := hundone.balanced
  simp only [OpenState.cleanAndReturn, OpenState.concurrencyUnlock, h.monitor, if_true]
    at hbalanced
  have := h.balance
  omega

/-! ## The passes -/

theorem forceDownload (h : s.Released t) (c : OpenCall γ) (wConfigStatus : NFCSTATUS) :
    ¬ s.Undone (c.forceDownload wConfigStatus t).2 := by
  have himage : s.Released (if t.wFwVerRsp = 0 then t.phDnldNfcInitImgInfo c.imageAgain else t) := by
    split_ifs
    · exact h.phDnldNfcInitImgInfo c.imageAgain
    · exact h
  unfold OpenCall.forceDownload
  dsimp only
  generalize (if t.wFwVerRsp = 0 then t.phDnldNfcInitImgInfo c.imageAgain else t) = u at himage ⊢
  have hdownload := (himage.withDownload false).resume c.afterDownload
  split_ifs
  · exact hdownload.complete wConfigStatus
  · exact (hdownload.withTimers _).phTmlNfcShutdown.cleanAndReturn
  · exact (hdownload.withDownload true).complete NFCSTATUS.success
  · exact (hdownload.withDownload true).phTmlNfcShutdown.cleanAndReturn
  · exact himage.complete wConfigStatus

theorem checkFirmware (h : s.Released t) (c : OpenCall γ) :
    ¬ s.Undone (c.checkFirmware t).2 := by
  have himage := (h.resume c.fragmentation).phDnldNfcInitImgInfo c.image
  unfold OpenCall.checkFirmware
  dsimp only
  split_ifs
  · exact himage.complete NFCSTATUS.success
  · exact himage.forceDownload c NFCSTATUS.success

theorem initCommands (h : s.Released t) (c : OpenCall γ) (pass : ℕ) :
    s.Released (c.initCommands pass t).2 := by
  unfold OpenCall.initCommands
  dsimp only
  split_ifs
  · exact h.sendExtCmd _ _
  · exact (((h.sendExtCmd _ _).sendExtCmd _ _).sendExtCmd _ _)
  · exact (((h.sendExtCmd _ _).sendExtCmd _ _).sendExtCmd _ _)
  · exact (h.sendExtCmd _ _).sendExtCmd _ _
  · exact h.sendExtCmd _ _

theorem initPass (h : s.Released t) (c : OpenCall γ) (pass : ℕ) :
    s.Released (c.initPass pass t).2 := by
  unfold OpenCall.initPass
  dsimp only
  split_ifs
  · exact (h.sendExtCmd _ _).initCommands c pass
  · exact (h.sendExtCmd _ _).initCommands c pass
  · exact h.sendExtCmd _ _
  · exact h.sendExtCmd _ _

theorem afterPass (c : OpenCall γ) {again : OpenState γ → NFCSTATUS × OpenState γ}
    (hagain : ∀ u, s.Released u → ¬ s.Undone (again u).2) {r : InitEnd × OpenState γ}
    (h : s.Released r.2) : ¬ s.Undone (c.afterPass again r).2 := by
  unfold OpenCall.afterPass
  cases r.1 with
  | again => exact hagain _ h
  | forceDownload => exact h.forceDownload c NFCSTATUS.failed
  | initialised => exact h.checkFirmware c

theorem initRetry (h : s.Released t) (c : OpenCall γ) (left : ℕ) :
    ¬ s.Undone (c.initRetry left t).2 := by
  induction left generalizing t with
  | zero => exact afterPass c (fun u hu => hu.phTmlNfcShutdown.cleanAndReturn) (h.initPass c 3)
  | succ left ih => exact afterPass c (fun u hu => ih hu) (h.initPass c (2 - left))

theorem started (h : s.Released t) (c : OpenCall γ) : ¬ s.Undone (c.started t).2 := by
  unfold OpenCall.started
  split_ifs
  · exact h.initRetry c 3
  · exact h.phTmlNfcShutdown.cleanAndReturn

end Released

end OpenState

/-! ## The call -/

namespace OpenState

/-- From the lock on, as long as nothing else has been created. -/
structure Started (s t : OpenState γ) (created : Bool) : Prop extends Locked s t where
  timers : t.timers = (s.timers.create created).1
  queues : t.queues = s.queues
  context : t.tmlContext = s.tmlContext

variable {created : Bool}

theorem Started.held_iff (h : s.Started t created) :
    t.timers.held = s.timers.held ↔ ¬ s.timers.Creates created := by
  rw [h.timers]
  exact Timers.held_create_iff

theorem Locked.phDal4NfcMsgget (h : s.Locked t) (queue : Option ℕ) :
    s.Locked (t.phDal4NfcMsgget queue) := by
  cases queue with
  | none => exact ⟨h.isOpen, h.monitor, h.balance⟩
  | some q => exact ⟨h.isOpen, h.monitor, h.balance⟩

theorem phDal4NfcMsgget_timers (t : OpenState γ) (queue : Option ℕ) :
    (t.phDal4NfcMsgget queue).timers = t.timers := by
  cases queue with
  | none => rfl
  | some q => rfl

theorem phDal4NfcMsgget_queues (t : OpenState γ) (queue : Option ℕ) :
    (t.phDal4NfcMsgget queue).queues = t.queues ↔ queue = none := by
  cases queue with
  | none => exact ⟨fun _ => rfl, fun _ => rfl⟩
  | some q => simp [OpenState.phDal4NfcMsgget]

theorem phDal4NfcMsgget_context (t : OpenState γ) (queue : Option ℕ) :
    (t.phDal4NfcMsgget queue).tmlContext = t.tmlContext := by
  cases queue with
  | none => rfl
  | some q => rfl

/-- The TML layer comes up: its timer is there from then on. -/
theorem Started.ready (h : s.Started t created) {queue : Option ℕ} {a : TmlAnswers}
    (hready : (t.phDal4NfcMsgget queue).TmlReady a) :
    (((t.phDal4NfcMsgget queue).phTmlNfcInit a).2.timers).held ≠ s.timers.held ∧
      s.Locked ((t.phDal4NfcMsgget queue).phTmlNfcInit a).2 := by
  have hlocked := h.toLocked.phDal4NfcMsgget queue
  rw [phTmlNfcInit_of_ready hready]
  refine ⟨Timers.held_create_ne hready.2.2.2 fun i x hi => ?_,
    hlocked.isOpen, hlocked.monitor, hlocked.balance⟩
  rw [phDal4NfcMsgget_timers, h.timers]
  exact Timers.held_create_of_some hi

/-- Without a timer of its own the call finds the table as it was. -/
theorem Started.ready_iff (h : s.Started t created) (hcreates : ¬ s.timers.Creates created)
    (a : TmlAnswers) : (t.phDal4NfcMsgget none).TmlReady a ↔
      s.tmlContext = none ∧ a.works = true ∧ s.timers.Creates a.timer := by
  have htimers : (t.phDal4NfcMsgget none).timers = s.timers := by
    rw [phDal4NfcMsgget_timers, h.timers, Timers.create_of_not_creates hcreates]
  unfold TmlReady
  rw [phDal4NfcMsgget_context, h.context, htimers]
  refine ⟨fun hready => ⟨hready.1, hready.2.2⟩, fun hready => ⟨hready.1, ?_, hready.2⟩⟩
  exact (by decide : (-1 : ℤ) ≠ 0)

end OpenState

namespace OpenCall

/-- Once the TML layer is up, no failure undoes itself. -/
theorem configure_of_ready (h : s.Started t c.timer) (hdev : c.devNode = true)
    (hready : (t.phDal4NfcMsgget c.queue).TmlReady c.tml) : ¬ s.Undone (c.configure t).2 := by
  obtain ⟨hheld, hlocked⟩ := h.ready hready
  have hsuccess : ((t.phDal4NfcMsgget c.queue).phTmlNfcInit c.tml).1 = NFCSTATUS.success := by
    rw [OpenState.phTmlNfcInit_of_ready hready]
  unfold configure
  simp only [hdev, hsuccess, Bool.not_true, Bool.false_eq_true, ne_eq, not_true_eq_false, if_false]
  split_ifs with hthread
  · intro hundone
    have hshutdown : s.Locked
        ((t.phDal4NfcMsgget c.queue).phTmlNfcInit c.tml).2.phTmlNfcShutdown := by
      rw [OpenState.phTmlNfcShutdown_eq]
      exact ⟨hlocked.isOpen, hlocked.monitor, hlocked.balance⟩
    have hleft := (hshutdown.cleanAndReturn.1 hundone).1
    rw [OpenState.phTmlNfcShutdown_eq] at hleft
    exact hheld hleft
  · exact hlocked.concurrencyUnlock.started c

/-- Where the TML layer does not come up, what is left is a timer and a message queue. -/
theorem configure_of_not_ready (h : s.Started t c.timer) (hdev : c.devNode = true)
    (hready : ¬ (t.phDal4NfcMsgget c.queue).TmlReady c.tml) :
    s.Undone (c.configure t).2 ↔ ¬ s.timers.Creates c.timer ∧ c.queue = none := by
  obtain ⟨hstatus, hclean⟩ := OpenState.phTmlNfcInit_of_not_ready hready
  have hlocked := h.toLocked.phDal4NfcMsgget c.queue
  have hcleaned : s.Locked (t.phDal4NfcMsgget c.queue).phTmlNfcCleanUp :=
    ⟨hlocked.isOpen, hlocked.monitor, hlocked.balance⟩
  have htimers : (t.phDal4NfcMsgget c.queue).phTmlNfcCleanUp.timers = t.timers :=
    OpenState.phDal4NfcMsgget_timers t c.queue
  have hqueues : (t.phDal4NfcMsgget c.queue).phTmlNfcCleanUp.queues = s.queues ↔
      c.queue = none := h.queues ▸ OpenState.phDal4NfcMsgget_queues t c.queue
  unfold configure
  simp only [hdev, hstatus, Bool.not_true, Bool.false_eq_true, ne_eq, not_false_eq_true, if_false,
    if_true, hclean]
  rw [hcleaned.cleanAndReturn, htimers, h.held_iff, hqueues]

theorem configure_undone_iff (h : s.Started t c.timer) :
    s.Undone (c.configure t).2 ↔ ¬ s.timers.Creates c.timer ∧
      (c.devNode = false ∨ (c.queue = none ∧
        ¬ (s.tmlContext = none ∧ c.tml.works = true ∧ s.timers.Creates c.tml.timer))) := by
  cases hdev : c.devNode with
  | false =>
    unfold configure
    simp only [hdev, Bool.not_false, if_true]
    rw [h.toLocked.cleanAndReturn, h.held_iff]
    exact ⟨fun hleft => ⟨hleft.1, Or.inl trivial⟩, fun hleft => ⟨hleft.1, h.queues⟩⟩
  | true =>
    by_cases hready : (t.phDal4NfcMsgget c.queue).TmlReady c.tml
    · refine iff_of_false (configure_of_ready h hdev hready) fun hearly => ?_
      obtain ⟨hcreates, hor⟩ := hearly
      rcases hor with hfalse | ⟨hqueue, hnot⟩
      · exact Bool.noConfusion hfalse
      · rw [hqueue] at hready
        exact hnot ((h.ready_iff hcreates c.tml).1 hready)
    · rw [configure_of_not_ready h hdev hready]
      refine and_congr_right fun hcreates => ⟨fun hqueue => Or.inr ⟨hqueue, ?_⟩, fun hor => ?_⟩
      · rw [hqueue] at hready
        exact fun hall => hready ((h.ready_iff hcreates c.tml).2 hall)
      · exact hor.elim (fun hfalse => Bool.noConfusion hfalse) And.left

/-- A closed HAL is opened: the monitor fails, or the lock is taken, and then there is at most the
timer. -/
theorem open_cases (c : OpenCall γ) (hclosed : s.isOpen = false) :
    (c.monitor.works s.monitor = false ∧ c.phNxpNciHalOpen s =
      (NFCSTATUS.failed, { s.createTimeoutTimer c.timer with monitor := false })) ∨
    (c.monitor.works s.monitor = true ∧ ∃ t, s.Started t c.timer ∧
      c.phNxpNciHalOpen s = c.configure t) := by
  unfold phNxpNciHalOpen
  simp only [hclosed, Bool.false_eq_true, if_false]
  cases hmonitor : c.monitor.works s.monitor with
  | false =>
    have hinit : (s.createTimeoutTimer c.timer).phNxpNciHalInitMonitor c.monitor =
        (false, { s.createTimeoutTimer c.timer with monitor := false }) :=
      if_neg (Bool.eq_false_iff.1 hmonitor)
    rw [hinit]
    exact Or.inl ⟨rfl, rfl⟩
  | true =>
    have hinit : (s.createTimeoutTimer c.timer).phNxpNciHalInitMonitor c.monitor =
        (true, { s.createTimeoutTimer c.timer with monitor := true }) := if_pos hmonitor
    rw [hinit]
    refine Or.inr ⟨rfl, { s.createTimeoutTimer c.timer with
      monitor := true }.concurrencyLock.clearControl, ⟨⟨rfl, rfl, ?_⟩, rfl, rfl, rfl⟩, rfl⟩
    have hlock : s.unlocked + 1 + s.locked = s.locked + 1 + s.unlocked := by omega
    exact hlock

/-- A failed open undoes itself exactly where it fails before it has created anything. -/
theorem open_undone_iff (c : OpenCall γ) (s : OpenState γ)
    (hfailed : (c.phNxpNciHalOpen s).1 = NFCSTATUS.failed) :
    s.Undone (c.phNxpNciHalOpen s).2 ↔ c.FailsEarly s := by
  cases hopen : s.isOpen with
  | true =>
    -- an open HAL is left as it is, and that is no failure
    rw [phNxpNciHalOpen, if_pos hopen] at hfailed
    exact absurd hfailed (by decide : NFCSTATUS.success ≠ NFCSTATUS.failed)
  | false =>
    rcases open_cases c hopen with ⟨hmonitor, heq⟩ | ⟨hmonitor, t, hstarted, heq⟩
    · rw [heq]
      refine ⟨fun hundone => ⟨Timers.held_create_iff.1 hundone.timers, Or.inl hmonitor⟩,
        fun hearly => ⟨hopen, Timers.held_create_iff.2 hearly.1, rfl, Nat.add_comm _ _⟩⟩
    · rw [heq, configure_undone_iff hstarted]
      refine ⟨fun hleft => ⟨hleft.1, Or.inr hleft.2⟩, fun hearly => ⟨hearly.1, ?_⟩⟩
      exact hearly.2.resolve_left (fun hfalse => by rw [hmonitor] at hfalse; cases hfalse)

end OpenCall

/-! ## Two failures -/

/-- The library is loaded, and nothing has been opened. -/
def OpenState.loaded : OpenState Unit where
  isOpen := false
  monitor := false
  locked := 0
  unlocked := 0
  timers := .init
  timeoutTimerId := 0
  queues := []
  nClientId := 0
  tmlContext := none
  retryCnt := 0
  nciVersion := 0
  wFwVer := 0
  wFwVerRsp := 0
  romVersion := 0
  fwMajVer := 0
  fwDownloadSuccess := false
  halOpenStatus := false
  sent := []
  reports := []

/-- Nothing happens in a wait. -/
def Meanwhile.idle : Meanwhile Unit := ⟨.init, 0, 0, 0, 0, 0⟩

/-- Everything works, except that the device is not there. -/
def OpenCall.deviceMissing : OpenCall Unit where
  timer := true
  monitor := ⟨true, true, true, true⟩
  devNode := true
  queue := some 1
  tml := ⟨true, false, true, true, true, true, true, true⟩
  clientThread := true
  firstRead := true
  nfcc _ _ := ⟨true, .idle⟩
  fragmentation := .idle
  image := none
  imageAgain := none
  fwProtectionOverride := none
  download := false
  afterDownload := .idle
  secondRead := false

/-- No memory: neither the timer nor the buffer for the device name is there. -/
def OpenCall.noMemory : OpenCall Unit :=
  { OpenCall.deviceMissing with timer := false, devNode := false }

theorem noMemory_undone :
    (OpenCall.noMemory.phNxpNciHalOpen .loaded).1 = NFCSTATUS.failed ∧
      OpenState.loaded.Undone (OpenCall.noMemory.phNxpNciHalOpen .loaded).2 :=
  ⟨rfl, (OpenCall.open_undone_iff OpenCall.noMemory .loaded rfl).2
    ⟨fun h => Bool.noConfusion h.2, Or.inr (Or.inl rfl)⟩⟩

/-- The timer and the message queue stay. -/
theorem deviceMissing_not_undone :
    (OpenCall.deviceMissing.phNxpNciHalOpen .loaded).1 = NFCSTATUS.failed ∧
      ¬ OpenState.loaded.Undone (OpenCall.deviceMissing.phNxpNciHalOpen .loaded).2 :=
  ⟨rfl, fun h => absurd h.queues (by decide)⟩

/-! ## A full timer table -/

namespace OpenCall

/-- With no free handle the TML layer does not come up, and the table stays as it is. -/
theorem open_of_full (c : OpenCall γ) (hclosed : s.isOpen = false)
    (hfull : s.timers.checkForAvailableTimer = none) :
    (c.phNxpNciHalOpen s).1 = NFCSTATUS.failed ∧ (c.phNxpNciHalOpen s).2.isOpen = false ∧
      (c.phNxpNciHalOpen s).2.timers = s.timers := by
  have hnone : ∀ created, ¬ s.timers.Creates created := fun created h => h.1 hfull
  have hsame : (s.timers.create c.timer).1 = s.timers := by
    rw [Timers.create_of_not_creates (hnone c.timer)]
  rcases open_cases c hclosed with ⟨-, heq⟩ | ⟨-, t, hstarted, heq⟩
  · rw [heq]
    exact ⟨rfl, hclosed, hsame⟩
  · have htimers : t.timers = s.timers := hstarted.timers.trans hsame
    rw [heq]
    have hready : ¬ (t.phDal4NfcMsgget c.queue).TmlReady c.tml := fun hready => by
      have hcreates := hready.2.2.2
      rw [OpenState.phDal4NfcMsgget_timers, htimers] at hcreates
      exact hnone _ hcreates
    obtain ⟨hstatus, hclean⟩ := OpenState.phTmlNfcInit_of_not_ready hready
    unfold configure
    simp only [hstatus, ne_eq, not_false_eq_true, if_true, hclean]
    split_ifs with hdev
    · exact ⟨rfl, rfl, (OpenState.cleanAndReturn_timers t).trans htimers⟩
    · refine ⟨rfl, rfl, (OpenState.cleanAndReturn_timers _).trans ?_⟩
      exact (OpenState.phDal4NfcMsgget_timers t c.queue).trans htimers

/-- From then on every open fails: the timers that earlier ones have left are never deleted. -/
theorem opens_of_full (calls : List (OpenCall γ)) (c : OpenCall γ) (hclosed : s.isOpen = false)
    (hfull : s.timers.checkForAvailableTimer = none) :
    (c.phNxpNciHalOpen (calls.foldl (fun s c => (c.phNxpNciHalOpen s).2) s)).1 =
      NFCSTATUS.failed := by
  induction calls generalizing s with
  | nil => exact (open_of_full c hclosed hfull).1
  | cons first rest ih =>
    obtain ⟨-, hclosed', htimers⟩ := open_of_full first hclosed hfull
    exact ih hclosed' (htimers ▸ hfull)

end OpenCall

/-- Five opens without the device fill the table. -/
example : ((List.replicate 5 OpenCall.deviceMissing).foldl
    (fun s c => (c.phNxpNciHalOpen s).2) OpenState.loaded).timers.checkForAvailableTimer = none := by
  decide

end AliceHal.Pn54x.Hal
