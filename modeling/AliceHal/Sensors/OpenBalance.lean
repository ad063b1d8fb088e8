import AliceHal.Lib.Machine
import AliceHal.Sensors.Handles

/-!
# Opening the Sensors and the Queue Mutex

`open_sensors` locks `queue_mutex` and returns with it. The first call of
`module__get_sensors_list` builds the list and unlocks the mutex, so that `poll` and the writer
threads can go on; later calls return early.

A call of the framework is one step, an `open_sensors` that waits for the mutex is one that is not
taken yet. `init_sensors_mutex` and `init_modules_mutex` are released by each call that locks them.

- `InitState`: the mutex, the list and the versions
- `InitState.step`: a call of the framework, or a thread that locks or unlocks
- `InitInv`: the mutex is held by whoever is to release it
- `openBalance`: it is, in all runs in order
-/

namespace AliceHal.Sensors

/-- A `poll` or a writer thread of a device, by the device and a number. -/
abbrev QueueThread := ℕ × ℕ

/-- Who holds `queue_mutex`. -/
inductive Holder where
  /-- `open_sensors`, until the list is built -/
  | openPath
  | thread (t : QueueThread)
  deriving DecidableEq, Repr

/-- The globals of the multi-HAL. -/
structure InitState where
  queueMutex : Option Holder
  /-- `global_sensors_list`, with the handles -/
  list : Option SensorsList
  /-- `sub_hw_versions`: the version for each module that was opened -/
  subHwVersions : Option (List (Option ℤ))
  /-- for each device created whether it is still open -/
  devices : List Bool
  /-- the threads between a lock and its unlock -/
  inside : List QueueThread
  /-- an exception has ended the process -/
  terminated : Bool

/-- The next step. -/
inductive InitInput where
  /-- `open_sensors`, with what the sub-modules return -/
  | openSensors (results : List (Option ℤ))
  /-- `module__get_sensors_list` -/
  | getSensorsList
  /-- `device__close` -/
  | close (device : ℕ)
  /-- a `poll` or a writer thread locks the mutex -/
  | lock (t : QueueThread)
  /-- it unlocks the mutex, or waits for a condition -/
  | unlock (t : QueueThread)
  deriving DecidableEq, Repr

/-- What a step shows: an unlock of the mutex, by whom and from whom, and a use of `NULL`. -/
structure InitOutput where
  unlocked : Option (Holder × Option Holder)
  usedNull : Bool
  deriving DecidableEq, Repr

namespace InitOutput

/-- Neither. -/
def quiet : InitOutput := ⟨none, false⟩

/-- The mutex is unlocked by whoever holds it, and `sub_hw_versions` is not used while it is `NULL`. -/
def Proper (o : InitOutput) : Prop :=
  (∀ u ∈ o.unlocked, u.2 = some u.1) ∧ o.usedNull = false

end InitOutput

/-- The sub-modules with these sensors, as they were opened. -/
def subModules (sensors : List (List Sensor)) (results : List (Option ℤ)) : List SubModule :=
  List.zipWith SubModule.mk sensors (results ++ List.replicate sensors.length none)

namespace InitState

/-- Nothing was called yet. -/
def init : InitState where
  queueMutex := none
  list := none
  subHwVersions := none
  devices := []
  inside := []
  terminated := false

/-- `open_sensors`. It gets the mutex, and leaves it locked. -/
def openSensors (s : InitState) (results : List (Option ℤ)) : Option (InitState × InitOutput) :=
  if s.queueMutex = none then
    some ({ s with
      queueMutex := some .openPath
      subHwVersions := some results
      devices := s.devices ++ [true] }, .quiet)
  else none

/-- `lazy_init_sensors_list`, with the sensors that the sub-modules report. -/
def getSensorsList (sensors : List (List Sensor)) (s : InitState) : InitState × InitOutput :=
  if s.list.isSome then (s, .quiet)
  else
    -- without a sensor the versions are not looked up
    match lazyInitSensorsList (subModules sensors (s.subHwVersions.getD [])) with
    | none => ({ s with terminated := true }, ⟨none, s.subHwVersions.isNone⟩)
    | some r =>
      ({ s with list := some r, subHwVersions := none, queueMutex := none },
        ⟨some (.openPath, s.queueMutex), false⟩)

/-- One step. -/
def step (sensors : List (List Sensor)) (s : InitState) (i : InitInput) :
    Option (InitState × InitOutput) :=
  if s.terminated then none
  else
    match i with
    | .openSensors results => s.openSensors results
    | .getSensorsList => some (s.getSensorsList sensors)
    | .close device =>
      -- the writer threads of the device are not stopped
      if s.devices[device]? = some true then
        some ({ s with devices := s.devices.set device false }, .quiet)
      else none
    | .lock t =>
      if t.1 < s.devices.length ∧ t ∉ s.inside ∧ s.queueMutex = none then
        some ({ s with queueMutex := some (.thread t), inside := t :: s.inside }, .quiet)
      else none
    | .unlock t =>
      if t ∈ s.inside then
        some ({ s with queueMutex := none, inside := s.inside.filter (· ≠ t) },
          ⟨some (.thread t, s.queueMutex), false⟩)
      else none

/-! ## Runs in order -/

/-- A device is opened before the list is built, and the list is asked for after that, or when it is
there. -/
def InOrder (s : InitState) : InitInput → Prop
  | .openSensors _ => s.list.isNone
  | .getSensorsList => s.list.isSome ∨ s.subHwVersions.isSome
  | _ => True

instance (s : InitState) (i : InitInput) : Decidable (s.InOrder i) :=
  match i with
  | .openSensors _ => inferInstanceAs (Decidable (s.list.isNone = true))
  | .getSensorsList =>
    inferInstanceAs (Decidable (s.list.isSome = true ∨ s.subHwVersions.isSome = true))
  | .close _ | .lock _ | .unlock _ => instDecidableTrue

/-- The number of times `open_sensors` has locked the mutex. -/
def acquisitions (es : List (InitInput × InitOutput)) : ℕ :=
  es.countP fun e =>
    match e.1 with
    | .openSensors _ => true
    | _ => false

/-- The number of times the list was built and the mutex unlocked. -/
def releases (es : List (InitInput × InitOutput)) : ℕ :=
  es.countP fun e =>
    match e.2.unlocked with
    | some (.openPath, _) => true
    | _ => false

/-- The mutex is balanced: once the list is there each lock of `open_sensors` is released, and a
thread that wants the mutex waits for another thread only. -/
structure Balanced (es : List (InitInput × InitOutput)) (s : InitState) : Prop where
  proper : ∀ e ∈ es, e.2.Proper
  released : s.list.isSome → acquisitions es = releases es
  free : s.list.isSome → ∀ holder ∈ s.queueMutex, ∃ t ∈ s.inside, holder = .thread t

/-- What holds in all runs in order. -/
structure InitInv (es : List (InitInput × InitOutput)) (s : InitState) : Prop where
  proper : ∀ e ∈ es, e.2.Proper
  /-- a thread that has locked the mutex holds it -/
  inside : ∀ t ∈ s.inside, s.queueMutex = some (.thread t)
  held : ∀ t, s.queueMutex = some (.thread t) → t ∈ s.inside
  /-- the open path holds it exactly until the list is built -/
  opened : s.queueMutex = some .openPath ↔ s.list = none ∧ s.subHwVersions.isSome
  count : acquisitions es = releases es + if s.queueMutex = some .openPath then 1 else 0

variable {sensors : List (List Sensor)} {s t : InitState} {i : InitInput} {o : InitOutput}
  {es : List (InitInput × InitOutput)}

theorem initInv_init : InitInv [] init where
  proper := fun _ he => absurd he List.not_mem_nil
  inside := fun _ ht => absurd ht List.not_mem_nil
  held := fun _ ht => nomatch ht
  opened := ⟨fun h => (nomatch h), fun h => nomatch h.2⟩
  count := rfl

theorem acquisitions_concat (e : InitInput × InitOutput) :
    acquisitions (es ++ [e]) = acquisitions es + acquisitions [e] :=
  List.countP_append

theorem releases_concat (e : InitInput × InitOutput) :
    releases (es ++ [e]) = releases es + releases [e] :=
  List.countP_append

theorem proper_concat (h : ∀ e ∈ es, e.2.Proper) (ho : o.Proper) :
    ∀ e ∈ es ++ [(i, o)], e.2.Proper := by
  intro e he
  rcases List.mem_append.1 he with hold | hnew
  · exact h e hold
  · rw [List.mem_singleton.1 hnew]
    exact ho

theorem proper_quiet : InitOutput.quiet.Proper := ⟨fun _ h => (nomatch h), rfl⟩

/-- Somebody in the middle of a critical section holds the mutex. -/
theorem InitInv.inside_nil (h : InitInv es s) (hfree : ∀ t, s.queueMutex ≠ some (.thread t)) :
    s.inside = [] := by
  refine List.eq_nil_iff_forall_not_mem.2 fun t ht => hfree t (h.inside t ht)

theorem InitInv.openSensors {results : List (Option ℤ)} (h : InitInv es s)
    (horder : s.list.isNone) (hstep : s.openSensors results = some (t, o)) :
    InitInv (es ++ [(.openSensors results, o)]) t := by
  unfold InitState.openSensors at hstep
  split at hstep
  · rename_i hfree
    obtain ⟨rfl, rfl⟩ := Prod.mk.inj (Option.some.inj hstep)
    have hnobody : s.inside = [] := h.inside_nil fun t ht => by
      rw [hfree] at ht
      cases ht
    refine ⟨proper_concat h.proper proper_quiet, fun t ht => ?_, fun t ht => ?_, ?_, ?_⟩
    · have hmem : t ∈ s.inside := ht
      rw [hnobody] at hmem
      exact absurd hmem List.not_mem_nil
    · cases Option.some.inj ht
    · exact ⟨fun _ => ⟨Option.isNone_iff_eq_none.1 horder, rfl⟩, fun _ => rfl⟩
    · have hcount := h.count
      rw [hfree, if_neg nofun] at hcount
      rw [acquisitions_concat, releases_concat, hcount]
      rfl
  · cases hstep

theorem InitInv.getSensorsList (h : InitInv es s)
    (horder : s.list.isSome ∨ s.subHwVersions.isSome) :
    InitInv (es ++ [(.getSensorsList, (s.getSensorsList sensors).2)])
      (s.getSensorsList sensors).1 := by
  unfold InitState.getSensorsList
  split
  · refine ⟨proper_concat h.proper proper_quiet, h.inside, h.held, h.opened, ?_⟩
    rw [acquisitions_concat, releases_concat]
    exact h.count
  · rename_i hnone
    have hversions : s.subHwVersions.isSome := horder.resolve_left hnone
    have hlist : s.list = none := Option.not_isSome_iff_eq_none.1 hnone
    have hheld : s.queueMutex = some .openPath := h.opened.2 ⟨hlist, hversions⟩
    cases lazyInitSensorsList (subModules sensors (s.subHwVersions.getD [])) with
    | none =>
      refine ⟨proper_concat h.proper ⟨fun _ hu => (nomatch hu), ?_⟩, h.inside, h.held, h.opened, ?_⟩
      · exact Option.isNone_eq_false_iff.2 hversions
      · rw [acquisitions_concat, releases_concat]
        exact h.count
    | some r =>
      have hnobody : s.inside = [] := h.inside_nil fun t ht => by
        rw [hheld] at ht
        cases Option.some.inj ht
      refine ⟨proper_concat h.proper ⟨fun u hu => ?_, rfl⟩, fun t ht => ?_, fun t ht => (nomatch ht),
        ⟨fun hopen => (nomatch hopen), fun hopen => (nomatch hopen.1)⟩, ?_⟩
      · cases hu
        exact hheld
      · have hmem : t ∈ s.inside := ht
        rw [hnobody] at hmem
        exact absurd hmem List.not_mem_nil
      · have hcount := h.count
        rw [hheld, if_pos rfl] at hcount
        rw [acquisitions_concat, releases_concat, hcount]
        rfl

/-- Every step in order keeps the invariant. -/
theorem InitInv.step (h : InitInv es s) (horder : s.InOrder i)
    (hstep : s.step sensors i = some (t, o)) : InitInv (es ++ [(i, o)]) t := by
  unfold InitState.step at hstep
  split at hstep
  · cases hstep
  · cases i with
    | openSensors results => exact h.openSensors horder hstep
    | getSensorsList =>
      have hkept : InitInv (es ++ [(.getSensorsList, (s.getSensorsList sensors).2)])
          (s.getSensorsList sensors).1 := h.getSensorsList horder
      rw [Option.some.inj hstep] at hkept
      exact hkept
    | close device =>
      dsimp only at hstep
      split at hstep
      · obtain ⟨rfl, rfl⟩ := Prod.mk.inj (Option.some.inj hstep)
        refine ⟨proper_concat h.proper proper_quiet, h.inside, h.held, h.opened, ?_⟩
        rw [acquisitions_concat, releases_concat]
        exact h.count
      · cases hstep
    | lock th =>
      dsimp only at hstep
      split at hstep
      · rename_i hlock
        obtain ⟨-, -, hfree⟩ := hlock
        obtain ⟨rfl, rfl⟩ := Prod.mk.inj (Option.some.inj hstep)
        have hnobody : s.inside = [] := h.inside_nil fun t ht => by
          rw [hfree] at ht
          cases ht
        have hclosed : ¬(s.list = none ∧ s.subHwVersions.isSome) := fun hopen => by
          have hheld := h.opened.2 hopen
          rw [hfree] at hheld
          cases hheld
        refine ⟨proper_concat h.proper proper_quiet, fun t ht => ?_, fun t ht => ?_,
          ⟨fun hopen => (nomatch Option.some.inj hopen), fun hopen => absurd hopen hclosed⟩, ?_⟩
        · rcases List.mem_cons.1 ht with rfl | hmem
          · rfl
          · rw [hnobody] at hmem
            exact absurd hmem List.not_mem_nil
        · cases Option.some.inj ht
          exact List.mem_cons_self
        · have hcount := h.count
          rw [hfree, if_neg nofun] at hcount
          rw [acquisitions_concat, releases_concat, hcount]
          rfl
      · cases hstep
    | unlock th =>
      dsimp only at hstep
      split at hstep
      · rename_i hmem
        obtain ⟨rfl, rfl⟩ := Prod.mk.inj (Option.some.inj hstep)
        have hheld := h.inside th hmem
        have hclosed : ¬(s.list = none ∧ s.subHwVersions.isSome) := fun hopen => by
          have hopen' := h.opened.2 hopen
          rw [hheld] at hopen'
          cases Option.some.inj hopen'
        refine ⟨proper_concat h.proper ⟨fun u hu => ?_, rfl⟩, fun t ht => ?_, fun t ht => (nomatch ht),
          ⟨fun hopen => (nomatch hopen), fun hopen => absurd hopen hclosed⟩, ?_⟩
        · cases hu
          exact hheld
        · -- the mutex names the only thread inside
          obtain ⟨hin, hne⟩ := List.mem_filter.1 ht
          have hsame := hheld.symm.trans (h.inside t hin)
          obtain rfl := Holder.thread.inj (Option.some.inj hsame)
          exact absurd rfl (of_decide_eq_true hne)
        · have hcount := h.count
          have hthread : some (Holder.thread th) ≠ some .openPath := nofun
          rw [hheld, if_neg hthread] at hcount
          rw [acquisitions_concat, releases_concat, hcount]
          rfl
      · cases hstep

theorem InitInv.balanced (h : InitInv es s) : Balanced es s := by
  refine ⟨h.proper, fun hlist => ?_, fun hlist holder hholder => ?_⟩
  · have hnot : s.queueMutex ≠ some .openPath := fun hheld => by
      rw [(h.opened.1 hheld).1] at hlist
      cases hlist
    rw [h.count, if_neg hnot, Nat.add_zero]
  · cases holder with
    | openPath =>
      rw [(h.opened.1 hholder).1] at hlist
      cases hlist
    | thread t => exact ⟨t, h.held t hholder, rfl⟩

/-- In every run in which no device is opened once the list is there, and the list is not asked for
before, the mutex is balanced. -/
theorem openBalance (sensors : List (List Sensor)) {es : List (InitInput × InitOutput)}
    {s : InitState} (hrun : Lib.Run (Lib.restrict InOrder (step sensors)) init es s) :
    Balanced es s := by
  have hinv : InitInv es s := by
    induction hrun with
    | nil => exact initInv_init
    | snoc _ hs ih =>
      obtain ⟨horder, hstep⟩ := Lib.restrict_eq_some.1 hs
      exact ih.step horder hstep
  exact hinv.balanced

/-- One module with one sensor. -/
def oneModule : List (List Sensor) := [[⟨7, 1, 0, 0, 0⟩]]

/-- The module is opened with the API version 1.4. -/
def openOne : InitInput := .openSensors [some sensorsDeviceApiVersion14]

/-- The device is opened, the list is asked for twice, `poll` comes and goes, and the device is
closed. -/
def openedOnce : List InitInput :=
  [openOne, .getSensorsList, .lock (0, 0), .unlock (0, 0), .getSensorsList, .lock (0, 1), .close 0]

theorem openedOnce_balanced : ∃ es s,
    Lib.exec (Lib.restrict InOrder (step oneModule)) init openedOnce = some (es, s) ∧
      s.list.isSome ∧ Balanced es s := by
  have hexec : ∃ es s,
      Lib.exec (Lib.restrict InOrder (step oneModule)) init openedOnce = some (es, s) ∧
        s.list.isSome := ⟨_, _, rfl, rfl⟩
  obtain ⟨es, s, hexec, hlist⟩ := hexec
  exact ⟨es, s, hexec, hlist, openBalance oneModule (Lib.run_of_exec hexec)⟩

/-- The device is opened again once the list is there: nobody releases the mutex. -/
theorem openedTwice_blocked : ∃ es s, Lib.Run (step oneModule) init es s ∧ ¬Balanced es s := by
  refine ⟨_, _, Lib.run_of_exec (l := [openOne, .getSensorsList, .close 0, openOne]) rfl, fun h => ?_⟩
  obtain ⟨t, ht, -⟩ := h.free rfl .openPath rfl
  exact absurd ht List.not_mem_nil

end InitState

end AliceHal.Sensors
