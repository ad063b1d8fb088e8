import AliceHal.Sensors.OpenBalance

/-!
# The Numbering of the Sensors

`lazy_init_sensors_list` goes over the modules twice: it counts the sensors to allocate the arrays,
and then fills the list and the two maps, with one counter for the place in the list and one for the
global handle. All of them agree, as the code that indexes arrays with a handle less one relies on.

- `globalSensorsCount`: the counting pass
- `position`: the place of a sensor of a module
- `Numbered`: the list and the lookups agree on the places
- `getSensorsList_numbered`: they do once the list is built, and later calls change nothing
-/

namespace AliceHal.Sensors

/-- The counting pass of `lazy_init_sensors_list`. -/
def globalSensorsCount (modules : List SubModule) : ℕ :=
  modules.foldl (fun count hwModule => count + hwModule.sensors.length) 0

/-- The place of the sensor `j` of the module `m`: the sensors of the modules before it come
first. -/
def position (modules : List SubModule) (m j : ℕ) : ℕ :=
  globalSensorsCount (modules.take m) + j

/-- The sensor `j` of the module `m`. -/
def SensorAt (modules : List SubModule) (m j : ℕ) (sensor : Sensor) : Prop :=
  ∃ hwModule, modules[m]? = some hwModule ∧ hwModule.sensors[j]? = some sensor

/-- The entry of `global_sensors_list` for a sensor with this global handle. -/
def IsEntry (modules : List SubModule) (m : ℕ) (sensor : Sensor) (globalHandle : ℤ)
    (entry : Sensor) : Prop :=
  ∃ hwModule version, modules[m]? = some hwModule ∧ hwModule.version = some version ∧
    entry = fixSensorFlags version { sensor with handle := globalHandle }

/-- The list has one entry for each sensor of each module, in their order, and the lookups are inverse
to each other and know nothing else. -/
structure Numbered (modules : List SubModule) (r : SensorsList) : Prop where
  count : r.globalSensorsList.length = globalSensorsCount modules
  place : ∀ m j sensor, SensorAt modules m j sensor → position modules m j < globalSensorsCount modules
  surjective : ∀ i < globalSensorsCount modules,
    ∃ m j sensor, SensorAt modules m j sensor ∧ position modules m j = i
  entry : ∀ m j sensor, SensorAt modules m j sensor →
    ∃ entry, r.globalSensorsList[position modules m j]? = some entry ∧
      IsEntry modules m sensor (position modules m j + 1) entry
  getLocalHandle : ∀ m j sensor, SensorAt modules m j sensor →
    r.handles.getLocalHandle (position modules m j + 1) = sensor.handle
  getModuleIndex : ∀ m j sensor, SensorAt modules m j sensor →
    r.handles.getModuleIndex (position modules m j + 1) = m
  getGlobalHandle : ∀ m j sensor, SensorAt modules m j sensor →
    r.handles.getGlobalHandle ⟨m, sensor.handle⟩ = position modules m j + 1
  otherGlobal : ∀ g : ℤ, g < 1 ∨ globalSensorsCount modules < g →
    r.handles.getLocalHandle g = -1 ∧ r.handles.getModuleIndex g = -1
  otherFull : ∀ full : FullHandle,
    (∀ m j sensor, SensorAt modules m j sensor → full ≠ ⟨m, sensor.handle⟩) →
      r.handles.getGlobalHandle full = -1

/-! ## Places -/

theorem globalSensorsCount_eq_sum (modules : List SubModule) :
    globalSensorsCount modules = (modules.map fun hwModule => hwModule.sensors.length).sum := by
  have hgo : ∀ (ms : List SubModule) (n : ℕ),
      ms.foldl (fun count hwModule => count + hwModule.sensors.length) n =
        n + (ms.map fun hwModule => hwModule.sensors.length).sum := by
    intro ms
    induction ms with
    | nil => simp
    | cons first rest ih =>
      intro n
      simp [ih, Nat.add_assoc]
  unfold globalSensorsCount
  rw [hgo modules 0, Nat.zero_add]

@[simp]
theorem globalSensorsCount_nil : globalSensorsCount [] = 0 :=
  rfl

@[simp]
theorem globalSensorsCount_cons (first : SubModule) (rest : List SubModule) :
    globalSensorsCount (first :: rest) = first.sensors.length + globalSensorsCount rest := by
  simp [globalSensorsCount_eq_sum]

@[simp]
theorem position_zero (first : SubModule) (rest : List SubModule) (j : ℕ) :
    position (first :: rest) 0 j = j := by
  simp [position]

@[simp]
theorem position_succ (first : SubModule) (rest : List SubModule) (m j : ℕ) :
    position (first :: rest) (m + 1) j = first.sensors.length + position rest m j := by
  simp [position, Nat.add_assoc]

theorem sensorAt_zero {first : SubModule} {rest : List SubModule} {j : ℕ} {sensor : Sensor} :
    SensorAt (first :: rest) 0 j sensor ↔ first.sensors[j]? = some sensor := by
  simp [SensorAt]

theorem sensorAt_succ {first : SubModule} {rest : List SubModule} {m j : ℕ} {sensor : Sensor} :
    SensorAt (first :: rest) (m + 1) j sensor ↔ SensorAt rest m j sensor := by
  simp [SensorAt]

theorem length_fullHandles (modules : List SubModule) (k : ℕ) :
    (fullHandles k modules).length = globalSensorsCount modules := by
  induction modules generalizing k with
  | nil => rfl
  | cons first rest ih => simp [fullHandles, ih]

/-- The sensors are numbered in the order in which the maps are filled. -/
theorem getElem?_fullHandles {modules : List SubModule} {m j : ℕ} {sensor : Sensor}
    (h : SensorAt modules m j sensor) (k : ℕ) :
    (fullHandles k modules)[position modules m j]? = some ⟨(k + m : ℕ), sensor.handle⟩ := by
  induction modules generalizing m k with
  | nil =>
    obtain ⟨_, hm, -⟩ := h
    cases hm
  | cons first rest ih =>
    unfold fullHandles
    cases m with
    | zero =>
      have hj := sensorAt_zero.1 h
      have hlt : j < first.sensors.length := (List.getElem?_eq_some_iff.1 hj).1
      rw [position_zero, List.getElem?_append_left (by simpa using hlt)]
      simp [hj]
    | succ m =>
      have hrest := ih (sensorAt_succ.1 h) (k + 1)
      rw [position_succ, List.getElem?_append_right (by simp)]
      simp only [List.length_map, Nat.add_sub_cancel_left, hrest]
      rw [show k + 1 + m = k + (m + 1) by omega]

/-- Every place is that of a sensor. -/
theorem exists_sensorAt (modules : List SubModule) {i : ℕ} (hi : i < globalSensorsCount modules) :
    ∃ m j sensor, SensorAt modules m j sensor ∧ position modules m j = i := by
  induction modules generalizing i with
  | nil => exact absurd hi (Nat.not_lt_zero i)
  | cons first rest ih =>
    rw [globalSensorsCount_cons] at hi
    by_cases hfirst : i < first.sensors.length
    · refine ⟨0, i, first.sensors[i], ?_, by simp⟩
      exact sensorAt_zero.2 (List.getElem?_eq_getElem hfirst)
    · obtain ⟨m, j, sensor, hat, hpos⟩ := ih (i := i - first.sensors.length) (by omega)
      refine ⟨m + 1, j, sensor, sensorAt_succ.2 hat, ?_⟩
      rw [position_succ, hpos]
      omega

/-! ## The list -/

/-- The loop over the sensors of one module appends an entry for each, with consecutive handles. -/
theorem foldlM_examineSensor_list {moduleIndex : ℕ} {v : ℤ} {sensors : List Sensor}
    {r r' : SensorsList} (h : sensors.foldlM (examineSensor moduleIndex (some v)) r = some r') :
    r'.handles.nextGlobalHandle = r.handles.nextGlobalHandle + sensors.length ∧
      r'.globalSensorsList = r.globalSensorsList ++ sensors.mapIdx fun j sensor =>
        fixSensorFlags v { sensor with handle := r.handles.nextGlobalHandle + j } := by
  induction sensors generalizing r with
  | nil =>
    cases h
    simp
  | cons sensor rest ih =>
    rw [List.foldlM_cons] at h
    obtain ⟨q, hq, hrest⟩ := Option.bind_eq_some_iff.1 h
    -- the first sensor takes the next handle, and the counter moves on by one
    cases hq
    obtain ⟨hnext, hlist⟩ := ih hrest
    have hone : (r.handles.assign ⟨moduleIndex, sensor.handle⟩).2.nextGlobalHandle =
        r.handles.nextGlobalHandle + 1 := rfl
    constructor
    · rw [hnext, hone]
      simp only [List.length_cons]
      omega
    · have hlater : ∀ j : ℕ, r.handles.nextGlobalHandle + 1 + (j : ℤ) =
          r.handles.nextGlobalHandle + ((j + 1 : ℕ) : ℤ) := by
        intro j
        omega
      rw [hlist, List.mapIdx_cons, List.append_assoc]
      simp only [hone, hlater, Nat.cast_zero, Int.add_zero]
      rfl

/-- The loop over the modules appends the entries of all of them. -/
theorem examineModules_list {modules : List SubModule} {k : ℕ} {r r' : SensorsList}
    (h : examineModules k modules r = some r') :
    ∃ l, r'.globalSensorsList = r.globalSensorsList ++ l ∧ l.length = globalSensorsCount modules ∧
      ∀ m j sensor, SensorAt modules m j sensor → ∃ entry, l[position modules m j]? = some entry ∧
        IsEntry modules m sensor (r.handles.nextGlobalHandle + position modules m j) entry := by
  induction modules generalizing k r with
  | nil =>
    cases h
    refine ⟨[], by simp, rfl, ?_⟩
    rintro m j sensor ⟨_, hm, -⟩
    cases hm
  | cons first rest ih =>
    obtain ⟨q, hq, hrest⟩ := Option.bind_eq_some_iff.1 h
    obtain ⟨l, hl, hlen, hentry⟩ := ih hrest
    cases hv : first.version with
    | none =>
      -- a module that was not opened has no sensors here
      have hempty : first.sensors = [] := by
        by_contra hne
        have hsome := (foldlM_examineSensor hq).2 hne
        rw [hv] at hsome
        cases hsome
      rw [hempty] at hq
      cases hq
      refine ⟨l, hl, by simp [hempty, hlen], ?_⟩
      intro m j sensor hat
      cases m with
      | zero =>
        have hj := sensorAt_zero.1 hat
        rw [hempty] at hj
        cases hj
      | succ m =>
        obtain ⟨entry, hget, hwModule, version, hm, hversion, heq⟩ :=
          hentry m j sensor (sensorAt_succ.1 hat)
        simp only [position_succ, hempty, List.length_nil, Nat.zero_add]
        exact ⟨entry, hget, hwModule, version, hm, hversion, heq⟩
    | some v =>
      rw [hv] at hq
      obtain ⟨hnext, hlist⟩ := foldlM_examineSensor_list hq
      rw [hlist, List.append_assoc] at hl
      refine ⟨_, hl, by simp [hlen], ?_⟩
      intro m j sensor hat
      cases m with
      | zero =>
        have hj := sensorAt_zero.1 hat
        have hlt : j < first.sensors.length := (List.getElem?_eq_some_iff.1 hj).1
        refine ⟨_, ?_, first, v, rfl, hv, rfl⟩
        rw [position_zero, List.getElem?_append_left (by simpa using hlt)]
        simp [hj]
      | succ m =>
        obtain ⟨entry, hget, hwModule, version, hm, hversion, heq⟩ :=
          hentry m j sensor (sensorAt_succ.1 hat)
        refine ⟨entry, ?_, hwModule, version, hm, hversion, ?_⟩
        · rw [position_succ, List.getElem?_append_right (by simp)]
          simpa using hget
        · rw [heq, hnext, position_succ]
          push_cast
          rw [Int.add_assoc]

/-! ## The lookups -/

section

variable {modules : List SubModule} {h : Handles}

/-- The handle of a place is that of its sensor. -/
theorem Assigned.globalToFull_position (ha : Assigned (fullHandles 0 modules) h) {m j : ℕ}
    {sensor : Sensor} (hat : SensorAt modules m j sensor) :
    h.globalToFull (position modules m j + 1) = some ⟨m, sensor.handle⟩ := by
  apply (ha.full _ _).2
  refine ⟨position modules m j, rfl, ?_⟩
  have hget := getElem?_fullHandles hat 0
  rw [Nat.zero_add] at hget
  exact hget

/-- Where all sensors differ, a sensor has no other handle. -/
theorem Assigned.getGlobalHandle_position (ha : Assigned (fullHandles 0 modules) h)
    (hnodup : (fullHandles 0 modules).Nodup) {m j : ℕ} {sensor : Sensor}
    (hat : SensorAt modules m j sensor) :
    h.getGlobalHandle ⟨m, sensor.handle⟩ = position modules m j + 1 := by
  have hplace := getElem?_fullHandles hat 0
  rw [Nat.zero_add] at hplace
  have hmem := List.mem_of_getElem? hplace
  obtain ⟨n, hn, hget⟩ := (ha.full _ _).1 (ha.globalToFull_getGlobalHandle hmem)
  have hlt : n < (fullHandles 0 modules).length := (List.getElem?_eq_some_iff.1 hget).1
  have hsame : n = position modules m j := by
    apply (List.getElem?_inj hlt hnodup).1
    rw [hget, hplace]
  rw [hn, hsame]

theorem Assigned.globalToFull_of_out (ha : Assigned (fullHandles 0 modules) h) {g : ℤ}
    (hg : g < 1 ∨ globalSensorsCount modules < g) : h.globalToFull g = none := by
  apply Option.eq_none_iff_forall_not_mem.2
  intro full hfull
  obtain ⟨n, rfl, hget⟩ := (ha.full _ _).1 hfull
  have hlt := (List.getElem?_eq_some_iff.1 hget).1
  rw [length_fullHandles] at hlt
  omega

theorem sensorAt_of_mem {full : FullHandle} (hmem : full ∈ fullHandles 0 modules) :
    ∃ m j sensor, SensorAt modules m j sensor ∧ full = ⟨m, sensor.handle⟩ := by
  obtain ⟨m, hwModule, hm, hindex, sensor, hsensor, hhandle⟩ := mem_fullHandles.1 hmem
  obtain ⟨j, hj⟩ := List.mem_iff_getElem?.1 hsensor
  rw [Nat.zero_add] at hindex
  refine ⟨m, j, sensor, ⟨hwModule, hm, hj⟩, ?_⟩
  rw [hhandle, ← hindex]

end

/-- What `lazy_init_sensors_list` builds is numbered. -/
theorem numbered_of_lazyInit {modules : List SubModule} {r : SensorsList}
    (hr : lazyInitSensorsList modules = some r)
    (hnodup : ∀ hwModule ∈ modules, (hwModule.sensors.map Sensor.handle).Nodup) :
    Numbered modules r := by
  have ha := assigned_of_lazyInit hr
  have hdistinct := nodup_fullHandles 0 hnodup
  obtain ⟨l, hl, hlen, hentry⟩ := examineModules_list hr
  rw [List.nil_append] at hl
  refine
    { count := by rw [hl, hlen]
      place := ?_
      surjective := fun i hi => exists_sensorAt modules hi
      entry := ?_
      getLocalHandle := ?_
      getModuleIndex := ?_
      getGlobalHandle := fun m j sensor hat => ha.getGlobalHandle_position hdistinct hat
      otherGlobal := ?_
      otherFull := ?_ }
  · intro m j sensor hat
    have hlt := (List.getElem?_eq_some_iff.1 (getElem?_fullHandles hat 0)).1
    rwa [length_fullHandles] at hlt
  · intro m j sensor hat
    obtain ⟨entry, hget, hisEntry⟩ := hentry m j sensor hat
    have hfirst : Handles.init.nextGlobalHandle + (position modules m j : ℤ) =
        position modules m j + 1 := Int.add_comm _ _
    rw [hfirst] at hisEntry
    rw [hl]
    exact ⟨entry, hget, hisEntry⟩
  · intro m j sensor hat
    simp [Handles.getLocalHandle, ha.globalToFull_position hat]
  · intro m j sensor hat
    simp [Handles.getModuleIndex, ha.globalToFull_position hat]
  · intro g hg
    simp [Handles.getLocalHandle, Handles.getModuleIndex, ha.globalToFull_of_out hg]
  · intro full hother
    apply ha.getGlobalHandle_eq_neg_one.2
    intro hmem
    obtain ⟨m, j, sensor, hat, heq⟩ := sensorAt_of_mem hmem
    exact hother m j sensor hat heq

/-! ## The calls -/

namespace InitState

variable {sensors : List (List Sensor)}

/-- Once the list is there it is not changed, and asking for it changes nothing. -/
theorem list_step {s t : InitState} {i : InitInput} {o : InitOutput} {r : SensorsList}
    (hs : s.list = some r) (h : s.step sensors i = some (t, o)) : t.list = some r := by
  unfold InitState.step at h
  split at h
  · cases h
  · cases i with
    | openSensors results =>
      simp only [InitState.openSensors] at h
      split at h
      · cases h
        exact hs
      · cases h
    | getSensorsList =>
      simp only [InitState.getSensorsList, hs, Option.isSome_some, if_true] at h
      cases h
      exact hs
    | close device =>
      dsimp only at h
      split at h
      · cases h
        exact hs
      · cases h
    | lock th =>
      dsimp only at h
      split at h
      · cases h
        exact hs
      · cases h
    | unlock th =>
      dsimp only at h
      split at h
      · cases h
        exact hs
      · cases h

theorem getSensorsList_of_list {s : InitState} {r : SensorsList} (hs : s.list = some r) :
    s.getSensorsList sensors = (s, .quiet) := by
  simp [InitState.getSensorsList, hs]

theorem mem_subModules {results : List (Option ℤ)} {hwModule : SubModule}
    (h : hwModule ∈ subModules sensors results) : hwModule.sensors ∈ sensors := by
  obtain ⟨i, hi⟩ := List.mem_iff_getElem?.1 h
  obtain ⟨l, _, hl, -, rfl⟩ := List.getElem?_zipWith_eq_some.1 hi
  exact List.mem_of_getElem? hl

/-- The first call of `module__get_sensors_list` after all modules were opened builds a list that is
numbered, and no later step of the multi-HAL changes it. -/
theorem getSensorsList_numbered {s : InitState} {results : List (Option ℤ)}
    (hlist : s.list = none) (hversions : s.subHwVersions = some results)
    (hopened : ∀ hwModule ∈ subModules sensors results, hwModule.version.isSome)
    (hnodup : ∀ l ∈ sensors, (l.map Sensor.handle).Nodup) :
    ∃ r, (s.getSensorsList sensors).1.list = some r ∧
      Numbered (subModules sensors results) r ∧
      ∀ es t, Lib.Run (step sensors) (s.getSensorsList sensors).1 es t →
        t.list = some r ∧ t.getSensorsList sensors = (t, .quiet) := by
  have hsome : (lazyInitSensorsList (subModules sensors results)).isSome := by
    apply examineModules_isSome.2
    intro hwModule hmem _
    exact hopened hwModule hmem
  obtain ⟨r, hr⟩ := Option.isSome_iff_exists.1 hsome
  have hbuilt : (s.getSensorsList sensors).1.list = some r := by
    simp [InitState.getSensorsList, hlist, hversions, hr]
  have hnumbered : Numbered (subModules sensors results) r := by
    apply numbered_of_lazyInit hr
    intro hwModule hmem
    exact hnodup _ (mem_subModules hmem)
  refine ⟨r, hbuilt, hnumbered, fun es t hrun => ?_⟩
  have hkept : t.list = some r :=
    hrun.invariant (I := fun s => s.list = some r) (P := fun _ => True)
      (fun hs _ h => list_step hs h) (fun _ _ => trivial) hbuilt
  exact ⟨hkept, getSensorsList_of_list hkept⟩

/-- Two modules with the local handles 7 and 9, and 7 again. -/
def twoModules : List (List Sensor) := [[⟨7, 1, 0, 0, 0⟩, ⟨9, 8, 0, 0, 0⟩], [⟨7, 1, 0, 0, 0⟩]]

/-- The versions of their devices. -/
def twoVersions : List (Option ℤ) := [some sensorsDeviceApiVersion14, some 0]

/-- Both modules were opened. -/
def twoOpened : InitState :=
  { init with queueMutex := some .openPath, subHwVersions := some twoVersions, devices := [true] }

theorem twoModules_numbered : init.openSensors twoVersions = some (twoOpened, .quiet) ∧
    ∃ r, (twoOpened.getSensorsList twoModules).1.list = some r ∧
      Numbered (subModules twoModules twoVersions) r ∧
      ∀ es t, Lib.Run (step twoModules) (twoOpened.getSensorsList twoModules).1 es t →
        t.list = some r ∧ t.getSensorsList twoModules = (t, .quiet) :=
  ⟨rfl, getSensorsList_numbered rfl rfl (by decide) (by decide)⟩

end InitState

end AliceHal.Sensors
