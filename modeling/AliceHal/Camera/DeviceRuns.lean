import AliceHal.Camera.CameraDevice

/-!
# Opening and Closing the Device

- `Held`: a device that was opened, and neither closed nor lost since
- `DeviceInv`: the device is the one held, and those opened were closed, lost or are held
- `hal_held`: functions are called only of the device that is held
- `closed_iff`: when every device that was opened is closed
-/

namespace AliceHal.Camera

open Lib

/-! ## Histories -/

/-- A step with what was seen of it. -/
abbrev DeviceStep := DeviceCall × DeviceOutput

/-- An event is seen of a step. -/
def Shows (event : DeviceEvent) (e : DeviceStep) : Prop := event ∈ e.2.events

/-- The pointer to a device goes: the device is closed, or lost. -/
def LetsGo (device : ℕ) (e : DeviceStep) : Prop :=
  Shows (.closed device) e ∨ Shows (.replaced device) e

/-- A device that was opened, and neither closed nor lost since. -/
def Held (es : List DeviceStep) (device : ℕ) : Prop := Since (Shows (.opened device)) (LetsGo device) es

/-- The device that an event opens. -/
def DeviceEvent.openedDevice : DeviceEvent → Option ℕ
  | .opened device => some device
  | _ => none

/-- The device that an event closes. -/
def DeviceEvent.closedDevice : DeviceEvent → Option ℕ
  | .closed device => some device
  | _ => none

/-- The device that is lost. -/
def DeviceEvent.replacedDevice : DeviceEvent → Option ℕ
  | .replaced device => some device
  | _ => none

/-- The devices of a history that events name. -/
def devices (f : DeviceEvent → Option ℕ) (es : List DeviceStep) : List ℕ :=
  es.flatMap fun e => e.2.events.filterMap f

/-! ## What a step does to the device -/

/-- An event that is about the memory. -/
def DeviceEvent.aboutMemory : DeviceEvent → Bool
  | .opened _ => false
  | .closed _ => false
  | .replaced _ => false
  | .hal _ _ => false
  | _ => true

/-- The ways in which a step changes the device; `opens` says that the module opens one. -/
inductive DeviceEffect (d d' : CameraDevice) (opens : Prop) (events : List DeviceEvent) : Prop where
  /-- it stays, and only its functions are called -/
  | kept (hdevice : d'.mDevice = d.mDevice)
      (hevents : ∀ event ∈ events, event.aboutMemory = true ∨
        ∃ device op, event = .hal device op ∧ d.mDevice = some device)
  | closed (device : ℕ) (hdevice : d.mDevice = some device) (hdevice' : d'.mDevice = none)
      (hevents : events = [.closed device])
  /-- opening fails -/
  | failed (hopens : opens) (hdevice' : d'.mDevice = none)
      (hevents : events = d.mDevice.toList.map DeviceEvent.replaced)
  | opened (device : ℕ) (takesCallbacks : Bool) (hopens : opens)
      (hdevice' : d'.mDevice = some device)
      (hevents : events = d.mDevice.toList.map DeviceEvent.replaced ++ .opened device ::
        (if takesCallbacks then [.hal device .setCallbacks] else []))

/-- It matters only whether the module is reached. -/
theorem DeviceEffect.imp {d d' : CameraDevice} {opens opens' : Prop} {events : List DeviceEvent}
    (h : DeviceEffect d d' opens events) (himp : opens → opens') :
    DeviceEffect d d' opens' events := by
  cases h with
  | kept hdevice hevents => exact .kept hdevice hevents
  | closed device hdevice hdevice' hevents => exact .closed device hdevice hdevice' hevents
  | failed hopens hdevice' hevents => exact .failed (himp hopens) hdevice' hevents
  | opened device takesCallbacks hopens hdevice' hevents =>
    exact .opened device takesCallbacks (himp hopens) hdevice' hevents

namespace CameraDevice

variable {d d' : CameraDevice} {call : DeviceCall} {o : DeviceOutput}
  {opens : Prop}

theorem effect_quiet (hdevice : d'.mDevice = d.mDevice) : DeviceEffect d d' opens [] :=
  .kept hdevice fun _ h => absurd h List.not_mem_nil

theorem effect_closeLocked (d'' : CameraDevice) (h : d''.mDevice = d.closeLocked.1.mDevice) :
    DeviceEffect d d'' opens d.closeLocked.2 := by
  rw [closeLocked] at h ⊢
  split at h
  · rename_i hnone
    exact effect_quiet h
  · rename_i device hsome
    exact .closed device hsome h rfl

/-- A function of the device is called, or nothing happens. -/
theorem effect_function {device : ℕ} (hdevice : d.mDevice = some device)
    (hdevice' : d'.mDevice = d.mDevice) {events : List DeviceEvent}
    (hevents : ∀ event ∈ events, event.aboutMemory = true ∨ ∃ op, event = .hal device op) :
    DeviceEffect d d' opens events := by
  refine .kept hdevice' fun event hevent => (hevents event hevent).imp_right fun ⟨op, hop⟩ => ?_
  exact ⟨device, op, hop, hdevice⟩

theorem effect_statusCall (op : HalOp) (missing : Status) (rc : Option ℤ) :
    DeviceEffect d d opens (d.statusCall op missing rc).events := by
  rw [statusCall.eq_def]
  split
  · exact effect_quiet rfl
  · exact effect_quiet rfl
  · rename_i hdevice
    exact effect_function hdevice rfl (by simp)

theorem effect_voidCall (op : HalOp) (rc : Option ℤ) :
    DeviceEffect d d opens (d.voidCall op rc).events := by
  rw [voidCall.eq_def]
  split
  · rename_i hdevice
    exact effect_function hdevice rfl (by simp)
  · exact effect_quiet rfl

theorem effect_boolCall (op : HalOp) (rc : Option ℤ) :
    DeviceEffect d d opens (d.boolCall op rc).events := by
  rw [boolCall.eq_def]
  split
  · rename_i hdevice
    exact effect_function hdevice rfl (by simp)
  · exact effect_quiet rfl

theorem effect_method (m : Method) (rc : Option ℤ) : DeviceEffect d d opens (d.method m rc).events := by
  cases m with
  | enableMsgType => exact effect_voidCall _ rc
  | disableMsgType => exact effect_voidCall _ rc
  | stopPreview => exact effect_voidCall _ rc
  | stopRecording => exact effect_voidCall _ rc
  | msgTypeEnabled => exact effect_boolCall _ rc
  | previewEnabled => exact effect_boolCall _ rc
  | recordingEnabled => exact effect_boolCall _ rc
  | _ => exact effect_statusCall _ _ rc

theorem effect_getParameters (provided putProvided : Bool) :
    DeviceEffect d d opens (d.getParameters provided putProvided).events := by
  rw [getParameters.eq_def]
  split
  · exact effect_quiet rfl
  · rename_i hdevice
    refine effect_function hdevice rfl fun event hevent => Or.inr ?_
    split at hevent
    · split at hevent <;> simp only [List.mem_cons, List.not_mem_nil, or_false] at hevent
      · rcases hevent with rfl | rfl
        · exact ⟨_, rfl⟩
        · exact ⟨_, rfl⟩
      · exact ⟨_, hevent⟩
    · exact absurd hevent List.not_mem_nil

theorem effect_dumpState (handle : Option (ℕ × ℕ)) (rc : Option ℤ) :
    DeviceEffect d d opens (d.dumpState handle rc).events := by
  rw [dumpState.eq_def]
  split
  · exact effect_quiet rfl
  · split
    · rename_i hdevice
      exact effect_function hdevice rfl (by simp)
    · exact effect_quiet rfl

theorem effect_open (callback : ℕ) (reply : OpenReply) :
    DeviceEffect d (d.open callback reply).1 (reply.info = 0)
      (d.open callback reply).2.events := by
  rw [CameraDevice.open]
  split
  · exact effect_quiet rfl
  · rename_i hinfo
    split
    · exact .failed (not_not.1 hinfo) rfl rfl
    · exact .opened reply.device reply.takesCallbacks (not_not.1 hinfo) rfl rfl

theorem effect_lookUp {provided : Bool} (h : d.lookUp provided = some (d', o)) :
    DeviceEffect d d' opens o.events := by
  rw [lookUp] at h
  split at h
  · simp only at h
    split at h
    · obtain ⟨rfl, rfl⟩ := Prod.mk.inj (Option.some.inj h)
      exact effect_quiet rfl
    · split at h <;> obtain ⟨rfl, rfl⟩ := Prod.mk.inj (Option.some.inj h)
      · exact effect_quiet rfl
      · exact .kept rfl (by simp [DeviceEvent.aboutMemory])
  · cases h

/-- The frame that was looked up is done with. -/
theorem effect_used {device : ℕ} (hdevice : d.mDevice = some device) {events : List DeviceEvent}
    (hevents : ∀ event ∈ events, event.aboutMemory = true ∨ ∃ op, event = .hal device op) :
    DeviceEffect d { d with found := none } opens events :=
  effect_function hdevice (by rfl) hevents

theorem effect_use {isHandleSource cloned : Bool} (h : d.use isHandleSource cloned = some (d', o)) :
    DeviceEffect d d' opens o.events := by
  rw [use] at h
  split at h
  · rename_i hdevice _
    simp only at h
    split at h
    · obtain ⟨rfl, rfl⟩ := Prod.mk.inj (Option.some.inj h)
      exact effect_used hdevice (by simp [DeviceEvent.aboutMemory])
    · split at h
      · obtain ⟨rfl, rfl⟩ := Prod.mk.inj (Option.some.inj h)
        exact effect_quiet rfl
      · split at h <;> obtain ⟨rfl, rfl⟩ := Prod.mk.inj (Option.some.inj h) <;>
          exact effect_used hdevice (by simp [DeviceEvent.aboutMemory])
  · cases h

theorem of_locked {r : CameraDevice × DeviceOutput} (h : d.locked r = some (d', o)) :
    d.releasing = [] ∧ d.found = none ∧ r = (d', o) := by
  rw [locked] at h
  split at h
  · rename_i hfree
    exact ⟨hfree.1, hfree.2, Option.some.inj h⟩
  · cases h

/-- What a step does to the device. -/
theorem effect_step (h : d.step call = some (d', o)) :
    DeviceEffect d d' (∃ callback reply, call = .open callback reply ∧ reply.info = 0) o.events := by
  rw [step.eq_def] at h
  split at h
  · cases h
  · cases call with
    | setConnectionStatus connected =>
      obtain ⟨-, -, hr⟩ := of_locked h
      rw [setConnectionStatus] at hr
      split at hr <;> obtain ⟨rfl, rfl⟩ := Prod.mk.inj hr
      · exact effect_quiet rfl
      · exact effect_closeLocked _ rfl
    | «open» callback reply =>
      obtain ⟨-, -, hr⟩ := of_locked h
      have heffect := effect_open (d := d) callback reply
      rw [hr] at heffect
      exact heffect.imp fun hinfo => ⟨callback, reply, rfl, hinfo⟩
    | close =>
      obtain ⟨-, -, hr⟩ := of_locked h
      obtain ⟨rfl, rfl⟩ := Prod.mk.inj hr
      exact effect_closeLocked _ rfl
    | method m rc =>
      obtain ⟨-, -, hr⟩ := of_locked h
      obtain ⟨rfl, rfl⟩ := Prod.mk.inj hr
      exact effect_method m rc
    | getParameters provided putProvided =>
      obtain ⟨-, -, hr⟩ := of_locked h
      obtain ⟨rfl, rfl⟩ := Prod.mk.inj hr
      exact effect_getParameters provided putProvided
    | dumpState handle rc =>
      obtain ⟨-, -, hr⟩ := of_locked h
      obtain ⟨rfl, rfl⟩ := Prod.mk.inj hr
      exact effect_dumpState handle rc
    | releaseRecordingFrames frames =>
      obtain ⟨-, -, hr⟩ := of_locked h
      obtain ⟨rfl, rfl⟩ := Prod.mk.inj hr
      exact effect_quiet rfl
    | lookUp provided => exact effect_lookUp h
    | use isHandleSource cloned => exact effect_use h
    | getMemory bufSize numBufs address memId =>
      simp only [sGetMemory] at h
      split at h
      · obtain ⟨rfl, rfl⟩ := Prod.mk.inj (Option.some.inj h)
        exact effect_quiet rfl
      · split at h
        · cases h
        · obtain ⟨rfl, rfl⟩ := Prod.mk.inj (Option.some.inj h)
          exact .kept rfl (by simp [DeviceEvent.aboutMemory])
    | putMemory address =>
      simp only [sPutMemory] at h
      split at h
      · cases h
      · obtain ⟨rfl, rfl⟩ := Prod.mk.inj (Option.some.inj h)
        exact .kept rfl (by simp [DeviceEvent.aboutMemory])
    | dataCb address index =>
      simp only [sDataCb] at h
      split at h
      · cases h
      · split at h <;> obtain ⟨rfl, rfl⟩ := Prod.mk.inj (Option.some.inj h)
        · exact effect_quiet rfl
        · exact .kept rfl (by simp [DeviceEvent.aboutMemory])
    | destroy =>
      obtain ⟨-, -, hr⟩ := of_locked h
      obtain ⟨rfl, rfl⟩ := Prod.mk.inj hr
      exact effect_closeLocked _ rfl

end CameraDevice

/-! ## The invariant -/

/-- The device after a history. -/
structure DeviceInv (es : List DeviceStep) (d : CameraDevice) : Prop where
  /-- the device is the one that is held -/
  held : ∀ device, Held es device ↔ d.mDevice = some device
  /-- a device that was opened was closed, lost or is held -/
  balance : ∀ device, (devices DeviceEvent.closedDevice es).count device +
    (devices DeviceEvent.replacedDevice es).count device + d.mDevice.toList.count device =
      (devices DeviceEvent.openedDevice es).count device

theorem deviceInv_init : DeviceInv [] .init where
  held := by simp [CameraDevice.init, Held, not_since_nil]
  balance := by simp [CameraDevice.init, devices]

theorem held_concat {es : List DeviceStep} {e : DeviceStep} {device : ℕ} :
    Held (es ++ [e]) device ↔ Shows (.opened device) e ∨ Held es device ∧ ¬ LetsGo device e :=
  since_concat

theorem devices_replaced (l : List ℕ) :
    (l.map DeviceEvent.replaced).filterMap DeviceEvent.closedDevice = [] ∧
      (l.map DeviceEvent.replaced).filterMap DeviceEvent.openedDevice = [] ∧
      (l.map DeviceEvent.replaced).filterMap DeviceEvent.replacedDevice = l := by
  simp only [List.filterMap_map]
  refine ⟨List.filterMap_eq_nil_iff.2 fun _ _ => rfl, List.filterMap_eq_nil_iff.2 fun _ _ => rfl, ?_⟩
  exact List.filterMap_some

/-- Every step keeps the invariant. -/
theorem DeviceInv.step {es : List DeviceStep} {d d' : CameraDevice} {call : DeviceCall}
    {o : DeviceOutput} (h : DeviceInv es d) (hstep : d.step call = some (d', o)) :
    DeviceInv (es ++ [(call, o)]) d' := by
  have hcount : ∀ (f : DeviceEvent → Option ℕ) (device : ℕ),
      (devices f (es ++ [(call, o)])).count device =
        (devices f es).count device + (o.events.filterMap f).count device :=
    fun f device => count_flatMap_concat _ device es (call, o)
  cases CameraDevice.effect_step hstep with
  | kept hdevice hevents =>
    have hnone : ∀ (f : DeviceEvent → Option ℕ), (∀ event, event.aboutMemory = true → f event = none) →
        (∀ device op, f (.hal device op) = none) → o.events.filterMap f = [] := by
      intro f hmemory hhal
      apply List.filterMap_eq_nil_iff.2
      intro event hevent
      rcases hevents event hevent with habout | ⟨device, op, rfl, -⟩
      · exact hmemory event habout
      · exact hhal device op
    have hnot : ∀ event : DeviceEvent, event.aboutMemory = false → (∀ device op, event ≠ .hal device op) →
        ¬ Shows event (call, o) := by
      intro event habout hhal hshows
      rcases hevents event hshows with hmemory | ⟨device, op, heq, -⟩
      · rw [habout] at hmemory
        cases hmemory
      · exact hhal device op heq
    constructor
    · intro device
      have hopened := hnot (.opened device) rfl (by simp)
      have hclosed := hnot (.closed device) rfl (by simp)
      have hreplaced := hnot (.replaced device) rfl (by simp)
      rw [held_concat, h.held, hdevice]
      simp [LetsGo, hopened, hclosed, hreplaced]
    · intro device
      have hbalance := h.balance device
      rw [hcount, hcount, hcount, hdevice,
        hnone DeviceEvent.closedDevice (by intro event; cases event <;> simp [DeviceEvent.aboutMemory,
          DeviceEvent.closedDevice]) (fun _ _ => rfl),
        hnone DeviceEvent.replacedDevice (by intro event; cases event <;>
          simp [DeviceEvent.aboutMemory, DeviceEvent.replacedDevice]) (fun _ _ => rfl),
        hnone DeviceEvent.openedDevice (by intro event; cases event <;>
          simp [DeviceEvent.aboutMemory, DeviceEvent.openedDevice]) (fun _ _ => rfl)]
      simpa using hbalance
  | closed device hdevice hdevice' hevents =>
    constructor
    · intro other
      rw [held_concat, h.held, hdevice', hdevice]
      simp only [LetsGo, Shows, hevents, List.mem_singleton, reduceCtorEq, false_or, or_false,
        DeviceEvent.closed.injEq, Option.some.injEq, iff_false, not_and, not_not]
      exact Eq.symm
    · intro other
      have hbalance := h.balance other
      rw [hcount, hcount, hcount, hdevice', hevents]
      rw [hdevice] at hbalance
      simp only [List.filterMap_cons, DeviceEvent.closedDevice, DeviceEvent.replacedDevice,
        DeviceEvent.openedDevice, List.filterMap_nil, Option.toList_none, Option.toList_some,
        List.count_nil] at hbalance ⊢
      omega
  | failed _ hdevice' hevents =>
    constructor
    · intro other
      rw [held_concat, h.held, hdevice']
      simp only [LetsGo, Shows, hevents, List.mem_map, Option.mem_toList, reduceCtorEq, and_false,
        exists_false, false_or, DeviceEvent.replaced.injEq, exists_eq_right, iff_false, not_and,
        not_not]
      exact id
    · intro other
      have hbalance := h.balance other
      obtain ⟨hclosed, hopened, hreplaced⟩ := devices_replaced d.mDevice.toList
      rw [hcount, hcount, hcount, hdevice', hevents, hclosed, hopened, hreplaced]
      simp only [Option.toList_none, List.count_nil] at hbalance ⊢
      omega
  | opened device takesCallbacks _ hdevice' hevents =>
    have htail : ∀ event : DeviceEvent, (∀ device op, event ≠ .hal device op) →
        event ∉ (if takesCallbacks then [DeviceEvent.hal device .setCallbacks] else []) := by
      intro event hhal hmem
      split at hmem
      · exact hhal _ _ (List.mem_singleton.1 hmem)
      · exact absurd hmem List.not_mem_nil
    constructor
    · intro other
      have hopened : Shows (.opened other) (call, o) ↔ other = device := by
        simp [Shows, hevents, htail]
      have hletsGo : LetsGo other (call, o) ↔ d.mDevice = some other := by
        simp [LetsGo, Shows, hevents, htail]
      rw [held_concat, h.held, hdevice', hopened, hletsGo, Option.some.injEq]
      simp [eq_comm]
    · intro other
      have hbalance := h.balance other
      obtain ⟨hclosed, hopened, hreplaced⟩ := devices_replaced d.mDevice.toList
      have hnone : ∀ f : DeviceEvent → Option ℕ, (∀ device op, f (.hal device op) = none) →
          (if takesCallbacks then [DeviceEvent.hal device .setCallbacks] else []).filterMap f = [] := by
        intro f hf
        split
        · simp [hf]
        · rfl
      have hnoneClosed := hnone DeviceEvent.closedDevice fun _ _ => rfl
      have hnoneOpened := hnone DeviceEvent.openedDevice fun _ _ => rfl
      have hnoneReplaced := hnone DeviceEvent.replacedDevice fun _ _ => rfl
      rw [hcount, hcount, hcount, hdevice', hevents]
      simp only [List.filterMap_append, List.filterMap_cons, hclosed, hopened, hreplaced,
        hnoneClosed, hnoneOpened, hnoneReplaced, DeviceEvent.closedDevice,
        DeviceEvent.openedDevice, DeviceEvent.replacedDevice, List.count_append,
        Option.toList_some, List.count_nil]
      omega

theorem deviceInv_of_run {es : List DeviceStep} {d : CameraDevice}
    (h : Run CameraDevice.step .init es d) : DeviceInv es d := by
  induction h with
  | nil => exact deviceInv_init
  | snoc _ hstep ih => exact ih.step hstep

/-! ## Results -/

/-- A function of a device of the HAL is called only while the device is held: it was opened, and it
was neither closed nor lost since. -/
theorem hal_held {es : List DeviceStep} {d : CameraDevice} {e : DeviceStep}
    (hrun : Run CameraDevice.step .init (es ++ [e]) d) {device : ℕ} {op : HalOp}
    (hhal : Shows (.hal device op) e) :
    Held (es ++ [e]) device ∧ ∀ other, Held (es ++ [e]) other → other = device := by
  have hinv := deviceInv_of_run hrun
  obtain ⟨d₀, -, hstep⟩ := hrun.last
  have hdevice : d.mDevice = some device := by
    cases CameraDevice.effect_step hstep with
    | kept hdevice hevents =>
      rcases hevents _ hhal with habout | ⟨device', op', heq, hsome⟩
      · cases habout
      · simp only [DeviceEvent.hal.injEq] at heq
        rw [hdevice, hsome, heq.1]
    | closed _ _ _ hevents => simp [Shows, hevents] at hhal
    | failed _ _ hevents => simp [Shows, hevents] at hhal
    | opened device' takesCallbacks _ hdevice' hevents =>
      -- a device that was just opened is told the callbacks
      rw [Shows, hevents] at hhal
      cases takesCallbacks <;> simp at hhal
      rw [hdevice', hhal.1]
  refine ⟨(hinv.held device).2 hdevice, fun other hother => ?_⟩
  rw [(hinv.held other).1 hother, Option.some.injEq] at hdevice
  exact hdevice

/-- An open device is opened again: opening gets as far as the module while a device is held. -/
def Reopens (es : List DeviceStep) : Prop :=
  ∃ pre callback reply o post device,
    es = pre ++ (.open callback reply, o) :: post ∧ reply.info = 0 ∧ Held pre device

theorem CameraDevice.replaced_iff {es : List DeviceStep} {d d' : CameraDevice} {call : DeviceCall}
    {o : DeviceOutput} (h : DeviceInv es d) (hstep : d.step call = some (d', o)) (device : ℕ) :
    .replaced device ∈ o.events ↔
      Held es device ∧ ∃ callback reply, call = .open callback reply ∧ reply.info = 0 := by
  rw [h.held]
  constructor
  · intro hmem
    cases effect_step hstep with
    | kept _ hevents =>
      rcases hevents _ hmem with habout | ⟨_, _, heq, -⟩
      · cases habout
      · cases heq
    | closed _ _ _ hevents => simp [hevents] at hmem
    | failed hopens _ hevents => exact ⟨by simpa [hevents] using hmem, hopens⟩
    | opened _ takesCallbacks hopens _ hevents =>
      refine ⟨?_, hopens⟩
      cases takesCallbacks <;> simpa [hevents] using hmem
  · rintro ⟨hdevice, callback, reply, rfl, hinfo⟩
    rw [step.eq_def] at hstep
    split at hstep
    · cases hstep
    · obtain ⟨-, -, hr⟩ := of_locked hstep
      rw [CameraDevice.open, if_neg (not_not.2 hinfo)] at hr
      simp only at hr
      split at hr <;> obtain ⟨rfl, rfl⟩ := Prod.mk.inj hr <;> simp [hdevice]

/-- A device is lost where an open one is opened again. -/
theorem replaced_mem_iff {es : List DeviceStep} {d : CameraDevice}
    (hrun : Run CameraDevice.step .init es d) :
    (∃ device, device ∈ devices DeviceEvent.replacedDevice es) ↔ Reopens es := by
  have hmem : ∀ (events : List DeviceEvent) (device : ℕ),
      device ∈ events.filterMap DeviceEvent.replacedDevice ↔ .replaced device ∈ events := by
    intro events device
    rw [List.mem_filterMap]
    constructor
    · rintro ⟨event, hevent, hsome⟩
      cases event <;> simp [DeviceEvent.replacedDevice] at hsome
      rw [← hsome]
      exact hevent
    · exact fun h => ⟨_, h, rfl⟩
  constructor
  · rintro ⟨device, hdevice⟩
    obtain ⟨e, he, hevent⟩ := List.mem_flatMap.1 hdevice
    obtain ⟨pre, post, rfl⟩ := List.append_of_mem he
    obtain ⟨d₀, hpre, hrest⟩ := hrun.split
    obtain ⟨d₁, hstep, -⟩ := hrest.first
    obtain ⟨hheld, callback, reply, hcall, hinfo⟩ :=
      (CameraDevice.replaced_iff (deviceInv_of_run hpre) hstep device).1 ((hmem _ _).1 hevent)
    obtain ⟨call, o⟩ := e
    obtain rfl : call = .open callback reply := hcall
    exact ⟨pre, callback, reply, o, post, device, rfl, hinfo, hheld⟩
  · rintro ⟨pre, callback, reply, o, post, device, rfl, hinfo, hheld⟩
    obtain ⟨d₀, hpre, hrest⟩ := hrun.split
    obtain ⟨d₁, hstep, -⟩ := hrest.first
    have hreplaced := (CameraDevice.replaced_iff (deviceInv_of_run hpre) hstep device).2
      ⟨hheld, callback, reply, rfl, hinfo⟩
    refine ⟨device, List.mem_flatMap.2 ⟨(.open callback reply, o), by simp, ?_⟩⟩
    exact (hmem _ _).2 hreplaced

/-- When a device of the interface is destroyed, each device of the HAL has been closed as often as
it was opened, exactly when none was opened while another one was held. -/
theorem closed_iff {es : List DeviceStep} {d : CameraDevice} {o : DeviceOutput}
    (hrun : Run CameraDevice.step .init (es ++ [(.destroy, o)]) d) :
    (devices DeviceEvent.closedDevice (es ++ [(.destroy, o)])).Perm
        (devices DeviceEvent.openedDevice (es ++ [(.destroy, o)])) ↔
      ¬ Reopens (es ++ [(.destroy, o)]) := by
  have hinv := deviceInv_of_run hrun
  obtain ⟨d₀, -, hstep⟩ := hrun.last
  -- the destructor closes the device that is held
  have hnone : d.mDevice = none := by
    rw [CameraDevice.step.eq_def] at hstep
    split at hstep
    · cases hstep
    · obtain ⟨-, -, hr⟩ := CameraDevice.of_locked hstep
      obtain ⟨rfl, -⟩ := Prod.mk.inj hr
      show d₀.closeLocked.1.mDevice = none
      rw [CameraDevice.closeLocked]
      split
      · rename_i h
        exact h
      · rfl
  have hbalance := hinv.balance
  simp only [hnone, Option.toList_none, List.count_nil, Nat.add_zero] at hbalance
  rw [← replaced_mem_iff hrun, List.perm_iff_count]
  constructor
  · rintro hperm ⟨device, hmem⟩
    have hpos := List.count_pos_iff.2 hmem
    have hsame := hperm device
    have hsum := hbalance device
    omega
  · intro hnot device
    have hzero : (devices DeviceEvent.replacedDevice (es ++ [(.destroy, o)])).count device = 0 :=
      List.count_eq_zero.2 fun hmem => hnot ⟨device, hmem⟩
    have hsum := hbalance device
    omega

/-- A client opens the camera, previews, loses the connection and opens it again. -/
def reconnected : List DeviceCall :=
  [.open 1 ⟨0, 0, 5, true⟩, .method .startPreview (some 0), .setConnectionStatus false,
    .method .stopPreview (some 0), .open 1 ⟨0, 0, 5, true⟩, .method .takePicture (some 0), .destroy]

theorem reconnected_closed : ∃ es d o, exec CameraDevice.step .init reconnected =
    some (es ++ [(.destroy, o)], d) ∧
      ((devices DeviceEvent.closedDevice (es ++ [(.destroy, o)])).Perm
        (devices DeviceEvent.openedDevice (es ++ [(.destroy, o)])) ↔
          ¬ Reopens (es ++ [(.destroy, o)])) := by
  have hrun : ∃ es d o, exec CameraDevice.step .init reconnected =
      some (es ++ [(.destroy, o)], d) := ⟨_, _, _, rfl⟩
  obtain ⟨es, d, o, hexec⟩ := hrun
  exact ⟨es, d, o, hexec, closed_iff (run_of_exec hexec)⟩

theorem reconnected_held : ∃ es d e, exec CameraDevice.step .init (reconnected.take 2) =
    some (es ++ [e], d) ∧ Shows (.hal 5 .startPreview) e ∧ Held (es ++ [e]) 5 := by
  have hrun : ∃ es d e, exec CameraDevice.step .init (reconnected.take 2) = some (es ++ [e], d) ∧
      Shows (.hal 5 .startPreview) e := ⟨_, _, _, rfl, List.mem_cons_self⟩
  obtain ⟨es, d, e, hexec, hhal⟩ := hrun
  exact ⟨es, d, e, hexec, hhal, (hal_held (run_of_exec hexec) hhal).1⟩

end AliceHal.Camera
