import AliceHal.Sensors.Poll

/-!
# Handles of Delivered Events

An event that `poll` delivers is to carry the global handle of a sensor of the module that produced
it. `poll` takes the index of the queue for the index of the module, and drops an event by its
`sensor` field, which a meta-data event does not use.

- `OnlyRegistered`: every delivered event is of a sensor of its module
- `Attributable`: the events for which this comes out
- `onlyRegistered_iff`: it holds exactly when all events taken are attributable
-/

namespace AliceHal.Sensors

variable {δ : Type*} {h : Handles} {modules : List SubModule} {r : SensorsList}

/-- The handle of an event. -/
def SensorsEvent.handle (event : SensorsEvent δ) : ℤ :=
  if event.type = sensorTypeMetaData then event.metaSensor else event.sensor

/-- What was delivered has handles of the module that produced it, and events of its unknown sensors
were dropped. -/
def OnlyRegistered (h : Handles) (modules : List SubModule) (es : PollHistory δ)
    (s : PollContext δ) : Prop :=
  ∀ (i m : ℕ) (v : ℤ), (subHwDevices 0 modules)[i]? = some (m, v) →
    (∀ dest ∈ fromQueue i (returnedData es ++ s.reader.data),
      ∃ localHandle, h.globalToFull dest.handle = some ⟨m, localHandle⟩) ∧
    ∀ event ∈ dequeuedEvents (queueHistory i es), ⟨m, event.handle⟩ ∉ fullHandles 0 modules →
      passed h i event = none

/-- An event of the module `m` in the queue `i` that is dropped, or gets a handle of this module. -/
def Attributable (modules : List SubModule) (i m : ℕ) (event : SensorsEvent δ) : Prop :=
  if event.type = sensorTypeMetaData then
    event.sensor = -1 ∨ (i = m ∧ ⟨m, event.metaSensor⟩ ∈ fullHandles 0 modules)
  else i = m ∨ ⟨i, event.sensor⟩ ∉ fullHandles 0 modules

instance (modules : List SubModule) (i m : ℕ) (event : SensorsEvent δ) :
    Decidable (Attributable modules i m event) := by
  unfold Attributable
  infer_instance

/-- A remapped event has the type it had. -/
theorem copyEventRemapHandle_type (event : SensorsEvent δ) (i : ℕ) :
    (copyEventRemapHandle h event i).type = event.type := by
  unfold copyEventRemapHandle
  split <;> rfl

/-- The handle of a remapped event is the global one. -/
theorem handle_copyEventRemapHandle (event : SensorsEvent δ) (i : ℕ) :
    (copyEventRemapHandle h event i).handle = h.getGlobalHandle ⟨i, event.handle⟩ := by
  unfold SensorsEvent.handle
  rw [copyEventRemapHandle_type]
  by_cases hmeta : event.type = sensorTypeMetaData
  · rw [if_pos hmeta, if_pos hmeta]
    unfold copyEventRemapHandle
    rw [if_pos hmeta]
  · rw [if_neg hmeta, if_neg hmeta]
    unfold copyEventRemapHandle
    rw [if_neg hmeta]

/-- A meta-data event is dropped by the field that is not remapped. -/
theorem passed_of_meta {event : SensorsEvent δ} (hmeta : event.type = sensorTypeMetaData) (i : ℕ) :
    passed h i event =
      if event.sensor = -1 then none else some (copyEventRemapHandle h event i) := by
  unfold passed
  have hsensor : (copyEventRemapHandle h event i).sensor = event.sensor := by
    unfold copyEventRemapHandle
    rw [if_pos hmeta]
  rw [hsensor]

theorem passed_of_not_meta {event : SensorsEvent δ} (hmeta : event.type ≠ sensorTypeMetaData)
    (i : ℕ) : passed h i event = if h.getGlobalHandle ⟨i, event.sensor⟩ = -1 then none
      else some (copyEventRemapHandle h event i) := by
  unfold passed
  have hsensor : (copyEventRemapHandle h event i).sensor =
      h.getGlobalHandle ⟨i, event.sensor⟩ := by
    unfold copyEventRemapHandle
    rw [if_neg hmeta]
  rw [hsensor]

variable {fulls : List FullHandle}

/-- A global handle that `get_global_handle` returns is of a module only if the sensor is. -/
theorem Assigned.getGlobalHandle_of (ha : Assigned fulls h) {full : FullHandle} {m : ℕ} {l : ℤ}
    (hg : h.globalToFull (h.getGlobalHandle full) = some ⟨m, l⟩) :
    full ∈ fulls ∧ full.moduleIndex = m := by
  have hmem : full ∈ fulls := by
    by_contra hnot
    rw [ha.getGlobalHandle_eq_neg_one.2 hnot] at hg
    have hpos := ha.pos hg
    omega
  rw [ha.globalToFull_getGlobalHandle hmem] at hg
  exact ⟨hmem, congrArg FullHandle.moduleIndex (Option.some.inj hg)⟩

/-- What becomes of one event. -/
theorem attributable_iff (ha : Assigned (fullHandles 0 modules) h) (i m : ℕ)
    (event : SensorsEvent δ) :
    Attributable modules i m event ↔
      (∀ dest ∈ passed h i event, ∃ l, h.globalToFull dest.handle = some ⟨m, l⟩) ∧
        (⟨m, event.handle⟩ ∉ fullHandles 0 modules → passed h i event = none) := by
  have hknown : ⟨m, event.handle⟩ ∈ fullHandles 0 modules →
      ∃ l, h.globalToFull (h.getGlobalHandle ⟨m, event.handle⟩) = some ⟨m, l⟩ :=
    fun hmem => ⟨_, ha.globalToFull_getGlobalHandle hmem⟩
  unfold Attributable
  by_cases hmeta : event.type = sensorTypeMetaData
  · have hhandle : event.handle = event.metaSensor := if_pos hmeta
    rw [if_pos hmeta, passed_of_meta hmeta, ← hhandle]
    by_cases hdrop : event.sensor = -1
    · rw [if_pos hdrop]
      exact ⟨fun _ => ⟨nofun, fun _ => rfl⟩, fun _ => Or.inl hdrop⟩
    · rw [if_neg hdrop]
      constructor
      · intro hor
        obtain ⟨rfl, hmem⟩ := hor.resolve_left hdrop
        refine ⟨fun dest hdest => ?_, fun hnot => absurd hmem hnot⟩
        cases hdest
        rw [handle_copyEventRemapHandle]
        exact hknown hmem
      · rintro ⟨hdest, -⟩
        obtain ⟨l, hl⟩ := hdest _ rfl
        rw [handle_copyEventRemapHandle] at hl
        obtain ⟨hmem, hindex⟩ := ha.getGlobalHandle_of hl
        obtain rfl : i = m := Int.ofNat_inj.1 hindex
        exact Or.inr ⟨rfl, hmem⟩
  · have hhandle : event.handle = event.sensor := if_neg hmeta
    rw [if_neg hmeta, passed_of_not_meta hmeta, ← hhandle]
    by_cases hmem : ⟨i, event.handle⟩ ∈ fullHandles 0 modules
    · rw [if_neg fun hneg => ha.getGlobalHandle_eq_neg_one.1 hneg hmem]
      constructor
      · intro hor
        obtain rfl := hor.resolve_right (not_not.2 hmem)
        refine ⟨fun dest hdest => ?_, fun hnot => absurd hmem hnot⟩
        cases hdest
        rw [handle_copyEventRemapHandle]
        exact hknown hmem
      · rintro ⟨hdest, -⟩
        obtain ⟨l, hl⟩ := hdest _ rfl
        rw [handle_copyEventRemapHandle] at hl
        exact Or.inl (Int.ofNat_inj.1 (ha.getGlobalHandle_of hl).2)
    · rw [if_pos (ha.getGlobalHandle_eq_neg_one.2 hmem)]
      exact ⟨fun _ => ⟨nofun, fun _ => rfl⟩, fun _ => Or.inr hmem⟩

/-- In every run, only registered sensors are delivered exactly when every event that `poll` takes is
dropped or of a sensor of its own module. -/
theorem onlyRegistered_iff (hlist : lazyInitSensorsList modules = some r) {s₀ s : PollContext δ}
    {es : PollHistory δ} (hs : Started s₀) (hrun : Lib.Run (PollContext.step r.handles) s₀ es s)
    (hpositive : ∀ e ∈ es, e.1.Positive) :
    OnlyRegistered r.handles modules es s ↔
      ∀ (i m : ℕ) (v : ℤ), (subHwDevices 0 modules)[i]? = some (m, v) →
        ∀ event ∈ dequeuedEvents (queueHistory i es), Attributable modules i m event := by
  have ha := assigned_of_lazyInit hlist
  have hdelivered := (pollInv_of_run hs hrun hpositive).delivered
  unfold OnlyRegistered
  refine forall_congr' fun i => forall_congr' fun m => forall_congr' fun v =>
    forall_congr' fun _ => ?_
  rw [hdelivered i]
  constructor
  · rintro ⟨hdest, hdropped⟩ event hmem
    refine (attributable_iff ha i m event).2 ⟨fun dest hpass => ?_, hdropped event hmem⟩
    exact hdest dest (List.mem_filterMap.2 ⟨event, hmem, hpass⟩)
  · intro hall
    refine ⟨fun dest hdest => ?_, fun event hmem => ?_⟩
    · obtain ⟨event, hmem, hpass⟩ := List.mem_filterMap.1 hdest
      exact ((attributable_iff ha i m event).1 (hall event hmem)).1 dest hpass
    · exact ((attributable_iff ha i m event).1 (hall event hmem)).2

/-- One module with one sensor, whose handle is 7. -/
def oneSensor : List SubModule := [⟨[⟨7, 1, 0, 0, 0⟩], some sensorsDeviceApiVersion14⟩]

/-- Its queue, and the caller of `poll`. -/
def oneQueue : PollContext Unit := ⟨[State.init 2 fun _ => ⟨1, 0, 0, ()⟩], 0, .idle⟩

theorem oneQueue_started : Started oneQueue where
  valid := fun q hq => by
    rw [List.mem_singleton.1 hq]
    exact ⟨SensorEventQueue.valid_init Nat.two_pos _, trivial⟩
  inRange := by decide
  idle := rfl

/-- The module writes an event, and `poll` delivers it unless it is dropped. -/
def deliverOne (event : SensorsEvent Unit) : List (PollInput Unit) :=
  List.flatten [[Input.lock 2, .store 0 event, .pollReturns 1, .markAsWritten].map (.writer 0),
    [.poll 1, .reader, .reader]]

theorem registered_delivered : ∃ r es s, lazyInitSensorsList oneSensor = some r ∧
    Lib.exec (PollContext.step r.handles) oneQueue (deliverOne ⟨1, 7, 0, ()⟩) = some (es, s) ∧
      returnedData es = [(0, ⟨1, 1, 0, ()⟩)] ∧ OnlyRegistered r.handles oneSensor es s := by
  have hexec : ∃ r es s, lazyInitSensorsList oneSensor = some r ∧
      Lib.exec (PollContext.step r.handles) oneQueue (deliverOne ⟨1, 7, 0, ()⟩) = some (es, s) ∧
        returnedData es = [(0, ⟨1, 1, 0, ()⟩)] ∧ (∀ e ∈ es, e.1.Positive) ∧
          dequeuedEvents (queueHistory 0 es) = [⟨1, 7, 0, ()⟩] := by
    refine ⟨_, _, _, rfl, rfl, rfl, ?_, rfl⟩
    decide
  obtain ⟨r, es, s, hlist, hexec, hreturned, hpositive, htaken⟩ := hexec
  refine ⟨r, es, s, hlist, hexec, hreturned, ?_⟩
  refine (onlyRegistered_iff hlist oneQueue_started (Lib.run_of_exec hexec) hpositive).2
    fun i m v hdevice event hmem => ?_
  cases i with
  | zero =>
    cases hdevice
    rw [htaken] at hmem
    rw [List.mem_singleton.1 hmem]
    exact Or.inl rfl
  | succ i => cases hdevice

/-- A meta-data event of an unknown sensor is delivered, with the handle minus one. -/
theorem unknownMeta_delivered : ∃ r es s, lazyInitSensorsList oneSensor = some r ∧
    Started oneQueue ∧ Lib.Run (PollContext.step r.handles) oneQueue es s ∧
      ¬OnlyRegistered r.handles oneSensor es s := by
  refine ⟨_, _, _, rfl, oneQueue_started,
    Lib.run_of_exec (l := deliverOne ⟨sensorTypeMetaData, 0, 9, ()⟩) rfl, fun honly => ?_⟩
  have hzero := (honly 0 0 sensorsDeviceApiVersion14 rfl).1
  obtain ⟨l, hl⟩ := hzero ⟨sensorTypeMetaData, 0, -1, ()⟩ List.mem_cons_self
  cases hl

end AliceHal.Sensors
