import Mathlib

/-!
# Global Handles of the Sensors

The multi-HAL gives every sensor of every sub-module a global handle. `lazy_init_sensors_list`
assigns them in the order of the modules and of their sensors, and two maps look them up in both
directions.

- `SubModule`: what a sub-module reports, and what its `open` returns
- `Handles`: the two maps
- `lazyInitSensorsList`: the sensors list with the maps
- `Assigned`: which handles the maps hold
-/

namespace AliceHal.Sensors

/-- The fields of `struct sensor_t` that are read or changed. -/
structure Sensor where
  handle : ℤ
  type : ℤ
  flags : UInt64
  minDelay : ℤ
  maxDelay : ℤ
  deriving DecidableEq, Repr

/-- A sub-module: its sensors, and the API version of the device that `open` returns, `none` when
`open` fails. -/
structure SubModule where
  sensors : List Sensor
  version : Option ℤ
  deriving DecidableEq, Repr

/-- A sensor among those of all modules. -/
structure FullHandle where
  moduleIndex : ℤ
  localHandle : ℤ
  deriving DecidableEq, Repr

/-- `global_to_full`, `full_to_global` and `next_global_handle`. -/
structure Handles where
  globalToFull : ℤ → Option FullHandle
  fullToGlobal : FullHandle → Option ℤ
  nextGlobalHandle : ℤ

namespace Handles

def init : Handles where
  globalToFull := fun _ => none
  fullToGlobal := fun _ => none
  nextGlobalHandle := 1

/-- `assign_global_handle`, with the handle it returns. -/
def assign (h : Handles) (full : FullHandle) : ℤ × Handles :=
  (h.nextGlobalHandle,
    { globalToFull := Function.update h.globalToFull h.nextGlobalHandle (some full)
      fullToGlobal := Function.update h.fullToGlobal full (some h.nextGlobalHandle)
      nextGlobalHandle := h.nextGlobalHandle + 1 })

/-- `get_local_handle`. -/
def getLocalHandle (h : Handles) (globalHandle : ℤ) : ℤ :=
  (h.globalToFull globalHandle).elim (-1) fun full => full.localHandle

/-- `get_module_index`. -/
def getModuleIndex (h : Handles) (globalHandle : ℤ) : ℤ :=
  (h.globalToFull globalHandle).elim (-1) fun full => full.moduleIndex

/-- `get_global_handle`. -/
def getGlobalHandle (h : Handles) (full : FullHandle) : ℤ :=
  (h.fullToGlobal full).getD (-1)

end Handles

/-! ## The sensors list -/

/-- `SENSORS_DEVICE_API_VERSION_1_1`. -/
def sensorsDeviceApiVersion11 : ℤ := 0x01010001

/-- `SENSORS_DEVICE_API_VERSION_1_3`. -/
def sensorsDeviceApiVersion13 : ℤ := 0x01030001

/-- `SENSORS_DEVICE_API_VERSION_1_4`. -/
def sensorsDeviceApiVersion14 : ℤ := 0x01040001

/-- `SENSOR_FLAG_WAKE_UP`. -/
def sensorFlagWakeUp : UInt64 := 1

/-- `SENSOR_FLAG_ON_CHANGE_MODE`. -/
def sensorFlagOnChangeMode : UInt64 := 2

/-- `SENSOR_TYPE_LIGHT`. -/
def sensorTypeLight : ℤ := 5

/-- `SENSOR_TYPE_TEMPERATURE`. -/
def sensorTypeTemperature : ℤ := 7

/-- `SENSOR_TYPE_PROXIMITY`. -/
def sensorTypeProximity : ℤ := 8

/-- `fix_sensor_flags`. -/
def fixSensorFlags (version : ℤ) (sensor : Sensor) : Sensor :=
  if version < sensorsDeviceApiVersion13 then
    if sensor.type = sensorTypeProximity then
      { sensor with flags := sensor.flags ||| sensorFlagOnChangeMode ||| sensorFlagWakeUp }
    else if sensor.type = sensorTypeTemperature ∨ sensor.type = sensorTypeLight then
      { sensor with flags := sensor.flags ||| sensorFlagOnChangeMode }
    else sensor
  else sensor

/-- What `lazy_init_sensors_list` builds. -/
structure SensorsList where
  handles : Handles
  globalSensorsList : List Sensor

/-- The body of the loop over the sensors of a module. `sub_hw_versions->at` throws when the module
was not opened. -/
def examineSensor (moduleIndex : ℕ) (version : Option ℤ) (r : SensorsList) (sensor : Sensor) :
    Option SensorsList :=
  let assigned := r.handles.assign ⟨moduleIndex, sensor.handle⟩
  version.map fun v =>
    { handles := assigned.2
      globalSensorsList :=
        r.globalSensorsList ++ [fixSensorFlags v { sensor with handle := assigned.1 }] }

/-- The loop over the modules. -/
def examineModules : ℕ → List SubModule → SensorsList → Option SensorsList
  | _, [], r => some r
  | moduleIndex, hwModule :: rest, r =>
    (hwModule.sensors.foldlM (examineSensor moduleIndex hwModule.version) r).bind
      (examineModules (moduleIndex + 1) rest)

/-- The first call of `lazy_init_sensors_list`. It is `none` when an exception ends the process. -/
def lazyInitSensorsList (modules : List SubModule) : Option SensorsList :=
  examineModules 0 modules ⟨Handles.init, []⟩

/-- `sub_hw_devices` after the loop of `open_sensors`: each device with the index of its module in
`sub_hw_modules` and its API version. Its queue has the same index as the device. -/
def subHwDevices : ℕ → List SubModule → List (ℕ × ℤ)
  | _, [] => []
  | moduleIndex, hwModule :: rest =>
    match hwModule.version with
    | some version => (moduleIndex, version) :: subHwDevices (moduleIndex + 1) rest
    | none => subHwDevices (moduleIndex + 1) rest

/-! ## The handles assigned -/

/-- The sensors of the modules, in the order of the list. -/
def fullHandles : ℕ → List SubModule → List FullHandle
  | _, [] => []
  | moduleIndex, hwModule :: rest =>
    hwModule.sensors.map (fun sensor => ⟨moduleIndex, sensor.handle⟩) ++
      fullHandles (moduleIndex + 1) rest

/-- All these sensors get handles, one after the other. -/
def Handles.assignAll (h : Handles) (fulls : List FullHandle) : Handles :=
  fulls.foldl (fun h full => (h.assign full).2) h

theorem mem_fullHandles {modules : List SubModule} {k : ℕ} {full : FullHandle} :
    full ∈ fullHandles k modules ↔ ∃ (m : ℕ) (hwModule : SubModule), modules[m]? = some hwModule ∧
      full.moduleIndex = (k + m : ℕ) ∧ ∃ sensor ∈ hwModule.sensors, sensor.handle = full.localHandle := by
  induction modules generalizing k with
  | nil =>
    refine ⟨fun h => absurd h List.not_mem_nil, ?_⟩
    rintro ⟨m, hwModule, hm, -⟩
    cases hm
  | cons first rest ih =>
    unfold fullHandles
    rw [List.mem_append, ih, List.mem_map]
    constructor
    · rintro (⟨sensor, hsensor, rfl⟩ | ⟨m, hwModule, hm, hindex, hsensor⟩)
      · exact ⟨0, first, rfl, rfl, sensor, hsensor, rfl⟩
      · exact ⟨m + 1, hwModule, hm, by omega, hsensor⟩
    · rintro ⟨m, hwModule, hm, hindex, sensor, hsensor, hhandle⟩
      cases m with
      | zero =>
        cases hm
        refine Or.inl ⟨sensor, hsensor, ?_⟩
        rw [Nat.add_zero] at hindex
        rw [hhandle, ← hindex]
      | succ m => exact Or.inr ⟨m, hwModule, hm, by omega, sensor, hsensor, hhandle⟩

theorem mem_fullHandles_zero {modules : List SubModule} {m : ℕ} {l : ℤ} :
    ⟨m, l⟩ ∈ fullHandles 0 modules ↔ ∃ hwModule, modules[m]? = some hwModule ∧
      ∃ sensor ∈ hwModule.sensors, sensor.handle = l := by
  rw [mem_fullHandles]
  constructor
  · rintro ⟨n, hwModule, hn, hindex, hsensor⟩
    have hmn : m = n := (Int.ofNat_inj.1 hindex).trans (Nat.zero_add n)
    rw [hmn]
    exact ⟨hwModule, hn, hsensor⟩
  · rintro ⟨hwModule, hm, hsensor⟩
    exact ⟨m, hwModule, hm, congrArg Nat.cast (Nat.zero_add m).symm, hsensor⟩

/-- Where the handles of each module differ, all sensors differ. -/
theorem nodup_fullHandles {modules : List SubModule} (k : ℕ)
    (hnodup : ∀ hwModule ∈ modules, (hwModule.sensors.map Sensor.handle).Nodup) :
    (fullHandles k modules).Nodup := by
  induction modules generalizing k with
  | nil => exact List.nodup_nil
  | cons first rest ih =>
    unfold fullHandles
    refine List.Nodup.append ?_ (ih (k + 1) fun m hm => hnodup m (List.mem_cons_of_mem _ hm)) ?_
    · have hfirst := hnodup first List.mem_cons_self
      have hmap : first.sensors.map (fun sensor => FullHandle.mk k sensor.handle) =
          (first.sensors.map Sensor.handle).map (FullHandle.mk k) := by
        rw [List.map_map]
        rfl
      rw [hmap]
      exact hfirst.map fun a b hab => (FullHandle.mk.inj hab).2
    · -- the sensors of later modules have a greater index
      intro full hmem hlater
      obtain ⟨sensor, -, rfl⟩ := List.mem_map.1 hmem
      obtain ⟨m, _, _, hindex, -⟩ := mem_fullHandles.1 hlater
      have hk : k = k + 1 + m := Int.ofNat_inj.1 hindex
      omega

theorem foldlM_examineSensor {moduleIndex : ℕ} {version : Option ℤ} {sensors : List Sensor}
    {r r' : SensorsList}
    (h : sensors.foldlM (examineSensor moduleIndex version) r = some r') :
    r'.handles = r.handles.assignAll (sensors.map fun sensor => ⟨moduleIndex, sensor.handle⟩) ∧
      (sensors ≠ [] → version.isSome) := by
  induction sensors generalizing r with
  | nil =>
    cases h
    exact ⟨rfl, fun hne => absurd rfl hne⟩
  | cons sensor rest ih =>
    rw [List.foldlM_cons] at h
    obtain ⟨q, hq, hrest⟩ := Option.bind_eq_some_iff.1 h
    obtain ⟨v, hv, rfl⟩ := Option.map_eq_some_iff.1 hq
    exact ⟨(ih hrest).1, fun _ => Option.isSome_iff_exists.2 ⟨v, hv⟩⟩

theorem foldlM_examineSensor_isSome {moduleIndex : ℕ} {version : Option ℤ} {sensors : List Sensor}
    (h : sensors ≠ [] → version.isSome) (r : SensorsList) :
    (sensors.foldlM (examineSensor moduleIndex version) r).isSome := by
  induction sensors generalizing r with
  | nil => rfl
  | cons sensor rest ih =>
    obtain ⟨v, rfl⟩ := Option.isSome_iff_exists.1 (h (List.cons_ne_nil _ _))
    rw [List.foldlM_cons]
    exact ih (fun _ => rfl) _

/-- The list is built when every module that has sensors was opened. -/
theorem examineModules_isSome {modules : List SubModule} {k : ℕ} {r : SensorsList} :
    (examineModules k modules r).isSome ↔
      ∀ hwModule ∈ modules, hwModule.sensors ≠ [] → hwModule.version.isSome := by
  induction modules generalizing k r with
  | nil => exact ⟨fun _ m hm => absurd hm List.not_mem_nil, fun _ => rfl⟩
  | cons first rest ih =>
    unfold examineModules
    rw [List.forall_mem_cons]
    constructor
    · intro h
      obtain ⟨r', hr'⟩ := Option.isSome_iff_exists.1 h
      obtain ⟨q, hq, hrest⟩ := Option.bind_eq_some_iff.1 hr'
      exact ⟨(foldlM_examineSensor hq).2, ih.1 (Option.isSome_iff_exists.2 ⟨r', hrest⟩)⟩
    · rintro ⟨hfirst, hrest⟩
      obtain ⟨q, hq⟩ := Option.isSome_iff_exists.1 (foldlM_examineSensor_isSome hfirst r)
      rw [hq]
      exact ih.2 hrest

theorem examineModules_handles {modules : List SubModule} {k : ℕ} {r r' : SensorsList}
    (h : examineModules k modules r = some r') :
    r'.handles = r.handles.assignAll (fullHandles k modules) := by
  induction modules generalizing k r with
  | nil =>
    cases h
    rfl
  | cons first rest ih =>
    obtain ⟨q, hq, hrest⟩ := Option.bind_eq_some_iff.1 h
    rw [ih hrest, (foldlM_examineSensor hq).1]
    exact (List.foldl_append ..).symm

/-- The maps hold the handles of these sensors, counted from one. -/
structure Assigned (fulls : List FullHandle) (h : Handles) : Prop where
  next : h.nextGlobalHandle = fulls.length + 1
  full : ∀ globalHandle full, h.globalToFull globalHandle = some full ↔
    ∃ n : ℕ, globalHandle = n + 1 ∧ fulls[n]? = some full
  global : ∀ full globalHandle, h.fullToGlobal full = some globalHandle →
    h.globalToFull globalHandle = some full
  mem : ∀ full, full ∈ fulls ↔ (h.fullToGlobal full).isSome

theorem assigned_init : Assigned [] Handles.init where
  next := rfl
  full := fun g full => by
    refine ⟨fun h => (nomatch h), ?_⟩
    rintro ⟨n, -, hn⟩
    cases hn
  global := fun full g h => nomatch h
  mem := fun full => ⟨fun h => absurd h List.not_mem_nil, fun h => nomatch h⟩

theorem Assigned.assign {fulls : List FullHandle} {h : Handles} (ha : Assigned fulls h)
    (full : FullHandle) : Assigned (fulls ++ [full]) (h.assign full).2 := by
  have hnew : ∀ full', h.globalToFull h.nextGlobalHandle ≠ some full' := by
    intro full' hfull
    obtain ⟨n, hn, hget⟩ := (ha.full _ _).1 hfull
    have hlt := (List.getElem?_eq_some_iff.1 hget).1
    have hnext := ha.next
    omega
  refine ⟨?_, fun g full' => ?_, fun full' g hg => ?_, fun full' => ?_⟩
  · show h.nextGlobalHandle + 1 = ((fulls ++ [full]).length : ℤ) + 1
    rw [ha.next, List.length_append, List.length_singleton, Nat.cast_add, Nat.cast_one]
  · show Function.update h.globalToFull h.nextGlobalHandle (some full) g = some full' ↔ _
    by_cases hg : g = h.nextGlobalHandle
    · rw [hg, Function.update_self]
      constructor
      · intro hfull
        refine ⟨fulls.length, ha.next, ?_⟩
        rw [List.getElem?_concat_length]
        exact hfull
      · rintro ⟨n, hn, hget⟩
        have hlen : n = fulls.length := by
          have hnext := ha.next
          omega
        rw [hlen, List.getElem?_concat_length] at hget
        exact hget
    · rw [Function.update_of_ne hg, ha.full]
      constructor
      · rintro ⟨n, hn, hget⟩
        refine ⟨n, hn, ?_⟩
        rw [List.getElem?_append_left (List.getElem?_eq_some_iff.1 hget).1]
        exact hget
      · rintro ⟨n, hn, hget⟩
        have hlt : n < fulls.length := by
          have hle := (List.getElem?_eq_some_iff.1 hget).1
          rw [List.length_append, List.length_singleton] at hle
          have hnext := ha.next
          omega
        rw [List.getElem?_append_left hlt] at hget
        exact ⟨n, hn, hget⟩
  · have hg' : Function.update h.fullToGlobal full (some h.nextGlobalHandle) full' = some g := hg
    show Function.update h.globalToFull h.nextGlobalHandle (some full) g = some full'
    by_cases heq : full' = full
    · rw [heq, Function.update_self] at hg'
      rw [← Option.some.inj hg', Function.update_self, heq]
    · rw [Function.update_of_ne heq] at hg'
      have hold := ha.global _ _ hg'
      have hne : g ≠ h.nextGlobalHandle := by
        rintro rfl
        exact hnew full' hold
      rw [Function.update_of_ne hne]
      exact hold
  · show full' ∈ fulls ++ [full] ↔
      (Function.update h.fullToGlobal full (some h.nextGlobalHandle) full').isSome
    rw [List.mem_append, List.mem_singleton]
    by_cases heq : full' = full
    · rw [heq, Function.update_self]
      exact ⟨fun _ => rfl, fun _ => Or.inr rfl⟩
    · rw [Function.update_of_ne heq, ← ha.mem]
      exact ⟨fun hor => hor.resolve_right heq, Or.inl⟩

theorem Assigned.assignAll {fulls : List FullHandle} {h : Handles} (ha : Assigned fulls h)
    (more : List FullHandle) : Assigned (fulls ++ more) (h.assignAll more) := by
  induction more generalizing fulls h with
  | nil =>
    rw [List.append_nil]
    exact ha
  | cons full rest ih =>
    have hrest := ih (ha.assign full)
    rw [List.append_assoc] at hrest
    exact hrest

/-- The maps of the sensors list. -/
theorem assigned_of_lazyInit {modules : List SubModule} {r : SensorsList}
    (h : lazyInitSensorsList modules = some r) : Assigned (fullHandles 0 modules) r.handles := by
  rw [examineModules_handles h]
  exact assigned_init.assignAll _

namespace Assigned

variable {fulls : List FullHandle} {h : Handles} {full : FullHandle} {g : ℤ}

theorem pos (ha : Assigned fulls h) (hg : h.globalToFull g = some full) : 0 < g := by
  obtain ⟨n, rfl, -⟩ := (ha.full _ _).1 hg
  omega

/-- `get_global_handle` returns no assigned handle exactly for an unknown sensor. -/
theorem getGlobalHandle_eq_neg_one (ha : Assigned fulls h) :
    h.getGlobalHandle full = -1 ↔ full ∉ fulls := by
  unfold Handles.getGlobalHandle
  rw [ha.mem]
  cases hg : h.fullToGlobal full with
  | none => exact ⟨fun _ => nofun, fun _ => rfl⟩
  | some g =>
    have hpos := ha.pos (ha.global _ _ hg)
    refine ⟨fun hneg => ?_, fun hnot => absurd rfl hnot⟩
    rw [Option.getD_some] at hneg
    omega

/-- A known sensor is found again by its global handle. -/
theorem globalToFull_getGlobalHandle (ha : Assigned fulls h) (hmem : full ∈ fulls) :
    h.globalToFull (h.getGlobalHandle full) = some full := by
  obtain ⟨g, hg⟩ := Option.isSome_iff_exists.1 ((ha.mem full).1 hmem)
  unfold Handles.getGlobalHandle
  rw [hg]
  exact ha.global _ _ hg

theorem mem_of_full (ha : Assigned fulls h) (hg : h.globalToFull g = some full) : full ∈ fulls := by
  obtain ⟨n, -, hget⟩ := (ha.full _ _).1 hg
  exact List.mem_of_getElem? hget

end Assigned

end AliceHal.Sensors
