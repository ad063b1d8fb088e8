import AliceHal.Sensors.Registered

/-!
# Commands to the Sub-HALs

A command names a sensor by its global handle. The multi-HAL translates the handle and takes the
device from `sub_hw_devices`, which holds the devices that were opened, by the index of the module.

- `SensorsContext`: the sensors list and the devices
- `SensorsContext.command`: the calls of sub-HALs that a command leads to, and what it returns
- `routesRight_iff`: when commands and events go by the right module
- `inject_never`: an injected event does not come back as it was
-/

namespace AliceHal.Sensors

variable {δ : Type*}

/-- `EINVAL`. -/
def eInval : ℤ := 22

/-- The `dev` that a sub-HAL is called with: the device of the multi-HAL, or that of a module. -/
inductive DeviceArg where
  | proxy
  | sub (moduleIndex : ℕ)
  deriving DecidableEq, Repr

/-- A call of a function of the device that was opened from the module `device`. -/
inductive SubCall (δ : Type*) where
  | activate (device : ℕ) (handle enabled : ℤ)
  | setDelay (device : ℕ) (handle ns : ℤ)
  | batch (device : ℕ) (handle flags periodNs timeout : ℤ)
  | flush (device : ℕ) (handle : ℤ)
  | injectSensorData (device : ℕ) (dev : DeviceArg) (data : SensorsEvent δ)

namespace SubCall

/-- The module whose device is called. -/
def device : SubCall δ → ℕ
  | .activate device _ _ | .setDelay device _ _ | .batch device _ _ _ _ | .flush device _
  | .injectSensorData device _ _ => device

/-- The handle in the call. -/
def handle : SubCall δ → ℤ
  | .activate _ handle _ | .setDelay _ handle _ | .batch _ handle _ _ _ | .flush _ handle => handle
  | .injectSensorData _ _ data => data.sensor

end SubCall

/-- The calls made, and the value returned. -/
abbrev Answer (δ : Type*) := List (SubCall δ) × ℤ

/-- `sensors_poll_context_t` with the sensors list. -/
structure SensorsContext where
  list : SensorsList
  subHwDevices : List (ℕ × ℤ)

/-- `sensors_batch_buff`. -/
structure BatchData where
  empty : Bool
  handle : ℤ
  flags : ℤ
  periodNs : ℤ
  timeout : ℤ

/-- `sensors_enable_state` and `sensors_batch_list`. -/
structure BatchState where
  enabled : ℤ → ℤ
  batch : ℤ → BatchData

namespace SensorsContext

variable (c : SensorsContext) (reply : SubCall δ → ℤ)

/-- `get_v0_device_by_handle` and `get_v1_device_by_handle`. -/
def getDeviceByHandle (globalHandle : ℤ) : Option (ℕ × ℤ) :=
  let subIndex := c.list.handles.getModuleIndex globalHandle
  if subIndex < 0 ∨ (c.subHwDevices.length : ℤ) ≤ subIndex then none
  else c.subHwDevices[subIndex.toNat]?

/-- `get_device_version_by_handle`. -/
def getDeviceVersionByHandle (handle : ℤ) : ℤ :=
  (c.getDeviceByHandle handle).elim (-1) fun device => device.2

/-- `halIsAPILevelCompliant`. -/
def halIsAPILevelCompliant (handle level : ℤ) : Bool :=
  c.getDeviceVersionByHandle handle != -1 && decide (level ≤ c.getDeviceVersionByHandle handle)

/-- The check that the methods share: the local handle and the device, where both are usable. -/
def target (handle : ℤ) : Option (ℤ × ℕ × ℤ) :=
  let localHandle := c.list.handles.getLocalHandle handle
  if 0 ≤ localHandle then (c.getDeviceByHandle handle).map fun device => (localHandle, device)
  else none

/-- A sub-HAL is called. -/
def call (x : SubCall δ) : Answer δ := ([x], reply x)

/-- `sensors_poll_context_t::activate`. -/
def activate (handle enabled : ℤ) : Answer δ :=
  match c.target handle with
  | some (localHandle, device, _) => call reply (.activate device localHandle enabled)
  | none => ([], -eInval)

/-- `sensors_poll_context_t::setDelay`. -/
def setDelay (handle ns : ℤ) : Answer δ :=
  match c.target handle with
  | some (localHandle, device, _) => call reply (.setDelay device localHandle ns)
  | none => ([], -eInval)

/-- The period between the delays of an entry of `global_sensors_list`. -/
def clampPeriod (sensor : Sensor) (periodNs : ℤ) : ℤ :=
  if periodNs < sensor.minDelay then sensor.minDelay
  else if sensor.maxDelay < periodNs then sensor.maxDelay
  else periodNs

/-- `sensors_poll_context_t::batch`. Its branch for old devices takes the entry of the module index,
and passes the global handle on. -/
def batch (handle flags periodNs timeout : ℤ) : Answer δ :=
  match c.target handle with
  | some (localHandle, device, _) =>
    if c.halIsAPILevelCompliant handle sensorsDeviceApiVersion11 then
      call reply (.batch device localHandle flags periodNs timeout)
    else if periodNs < 0 ∨ timeout < 0 then ([], -eInval)
    else
      let subIndex := (c.list.handles.getModuleIndex handle).toNat
      -- an entry past the end is not read here: the period stays
      let period := (c.list.globalSensorsList[subIndex]?).elim periodNs fun sensor =>
        clampPeriod sensor periodNs
      call reply (.setDelay device handle period)
  | none => ([], -eInval)

/-- `sensors_poll_context_t::flush`. -/
def flush (handle : ℤ) : Answer δ :=
  match c.target handle with
  | some (localHandle, device, _) =>
    if c.halIsAPILevelCompliant handle sensorsDeviceApiVersion11 then
      call reply (.flush device localHandle)
    else ([], -eInval)
  | none => ([], -eInval)

/-- `device__inject_sensor_data`: `dev` is the device of the multi-HAL. -/
def injectSensorData (data : SensorsEvent δ) : Answer δ :=
  match c.target data.sensor with
  | some (_, device, _) =>
    if c.halIsAPILevelCompliant data.sensor sensorsDeviceApiVersion14 then
      call reply (.injectSensorData device .proxy data)
    else ([], -eInval)
  | none => ([], -eInval)

/-! ## The functions of the device -/

/-- The commands of the framework. -/
inductive Command where
  | activate (enabled : ℤ)
  | setDelay (ns : ℤ)
  | batch (flags periodNs timeout : ℤ)
  | flush
  deriving DecidableEq, Repr

/-- `device__activate`. -/
def deviceActivate (s : BatchState) (handle enabled : ℤ) : BatchState × Answer δ :=
  let first := c.activate reply handle enabled
  if c.halIsAPILevelCompliant handle sensorsDeviceApiVersion11 then (s, first)
  else
    let index := handle - 1
    let s := { s with enabled := Function.update s.enabled index enabled }
    if enabled ≠ 0 ∧ (s.batch index).empty = false then
      let second := c.setDelay reply handle (s.batch index).periodNs
      let saved := { s.batch index with empty := true }
      -- the disjunction of C is zero or one
      ({ s with batch := Function.update s.batch index saved },
        first.1 ++ second.1, if second.2 ≠ 0 ∨ first.2 ≠ 0 then 1 else 0)
    else (s, first)

/-- `device__batch`. The period and the timeout are saved as 32-bit numbers. -/
def deviceBatch (s : BatchState) (handle flags periodNs timeout : ℤ) : BatchState × Answer δ :=
  if c.halIsAPILevelCompliant handle sensorsDeviceApiVersion11 then
    (s, c.batch reply handle flags periodNs timeout)
  else
    let index := handle - 1
    if s.enabled index = 0 then
      let saved := ⟨false, handle, flags, periodNs.bmod (2 ^ 32), timeout.bmod (2 ^ 32)⟩
      ({ s with batch := Function.update s.batch index saved }, [], 0)
    else (s, c.setDelay reply handle periodNs)

/-- `device__activate`, `device__setDelay`, `device__batch` and `device__flush`. -/
def command (s : BatchState) (handle : ℤ) : Command → BatchState × Answer δ
  | .activate enabled => c.deviceActivate reply s handle enabled
  | .setDelay ns => (s, c.setDelay reply handle ns)
  | .batch flags periodNs timeout => c.deviceBatch reply s handle flags periodNs timeout
  | .flush => (s, c.flush reply handle)

end SensorsContext

/-- The context after `open_sensors` and the first `module__get_sensors_list`. -/
def sensorsContext (modules : List SubModule) (r : SensorsList) : SensorsContext :=
  ⟨r, subHwDevices 0 modules⟩

/-! ## The right module -/

/-- The command needs a call of the sub-HAL when its device has this API version. -/
def SensorsContext.Command.sends (version : ℤ) : SensorsContext.Command → Prop
  | .activate _ | .setDelay _ => True
  | .batch _ _ _ | .flush => sensorsDeviceApiVersion11 ≤ version

/-- Only the device of the module `m` is called, with this handle, and it is where that is needed. -/
def CallsOnly (m : ℕ) (localHandle version : ℤ) (command : SensorsContext.Command)
    (answer : Answer δ) : Prop :=
  (∀ x ∈ answer.1, x.device = m ∧ x.handle = localHandle) ∧
    (command.sends version → answer.1 ≠ [])

/-- What a command on the sensor `localHandle` of the module `m` may lead to: calls of the device of
this module with this handle, or an error if it was not opened. -/
def Reaches (modules : List SubModule) (m : ℕ) (localHandle : ℤ)
    (command : SensorsContext.Command) (answer : Answer δ) : Prop :=
  match (modules[m]?).bind SubModule.version with
  | some version => CallsOnly m localHandle version command answer
  | none => answer.1 = [] ∧ answer.2 < 0

/-- Every command on an assigned handle reaches the right sensor. -/
def CommandsRight (δ : Type*) (modules : List SubModule) (r : SensorsList) : Prop :=
  ∀ (g : ℤ) (m : ℕ) (l : ℤ), r.handles.globalToFull g = some ⟨m, l⟩ →
    ∀ (reply : SubCall δ → ℤ) (s : BatchState) (command : SensorsContext.Command),
      Reaches modules m l command ((sensorsContext modules r).command reply s g command).2

/-- Every event of a module is remapped with its own handles. -/
def EventsRight (δ : Type*) (modules : List SubModule) (r : SensorsList) : Prop :=
  ∀ (i m : ℕ) (v : ℤ), (subHwDevices 0 modules)[i]? = some (m, v) →
    ∀ event : SensorsEvent δ,
      copyEventRemapHandle r.handles event i = copyEventRemapHandle r.handles event m

/-- The sensors list is built, and commands and events go by the right module. -/
def RoutesRight (δ : Type*) (modules : List SubModule) : Prop :=
  ∃ r, lazyInitSensorsList modules = some r ∧ CommandsRight δ modules r ∧ EventsRight δ modules r

/-- Each module with a sensor was opened and all modules before it, and the handles of the sensors are
not negative. -/
def OpenedInOrder (modules : List SubModule) : Prop :=
  ∀ (m : ℕ) hwModule, modules[m]? = some hwModule → ∀ sensor ∈ hwModule.sensors,
    0 ≤ sensor.handle ∧ ∀ (k : ℕ) earlier, k ≤ m → modules[k]? = some earlier →
      earlier.version.isSome

/-! ### Devices and modules -/

/-- The devices come from modules of increasing index. -/
theorem subHwDevices_index {modules : List SubModule} {k n m : ℕ} {v : ℤ}
    (h : (subHwDevices k modules)[n]? = some (m, v)) :
    ∃ j hwModule, m = k + j ∧ n ≤ j ∧ modules[j]? = some hwModule ∧ hwModule.version = some v ∧
      (j = n → ∀ (i : ℕ) earlier, i ≤ n → modules[i]? = some earlier → earlier.version.isSome) := by
  induction modules generalizing k n with
  | nil => cases h
  | cons first rest ih =>
    unfold subHwDevices at h
    cases hv : first.version with
    | none =>
      rw [hv] at h
      obtain ⟨j, hwModule, hm, hle, hj, hversion, -⟩ := ih h
      refine ⟨j + 1, hwModule, by omega, by omega, hj, hversion, fun heq => ?_⟩
      omega
    | some version =>
      rw [hv] at h
      cases n with
      | zero =>
        cases h
        refine ⟨0, first, rfl, le_rfl, rfl, hv, fun _ i earlier hi hearlier => ?_⟩
        obtain rfl := Nat.le_zero.1 hi
        cases hearlier
        rw [hv]
        rfl
      | succ n =>
        obtain ⟨j, hwModule, hm, hle, hj, hversion, hall⟩ := ih h
        refine ⟨j + 1, hwModule, by omega, by omega, hj, hversion, fun heq i earlier hi hget => ?_⟩
        cases i with
        | zero =>
          cases hget
          rw [hv]
          rfl
        | succ i => exact hall (by omega) i earlier (by omega) hget

/-- While all modules are opened, devices and modules have the same index. -/
theorem subHwDevices_of_opened {modules : List SubModule} {k m : ℕ} {hwModule : SubModule}
    (hm : modules[m]? = some hwModule)
    (hopened : ∀ (i : ℕ) earlier, i ≤ m → modules[i]? = some earlier → earlier.version.isSome) :
    ∃ v, hwModule.version = some v ∧ (subHwDevices k modules)[m]? = some (k + m, v) := by
  induction modules generalizing k m with
  | nil => cases hm
  | cons first rest ih =>
    obtain ⟨version, hv⟩ := Option.isSome_iff_exists.1 (hopened 0 first (Nat.zero_le m) rfl)
    unfold subHwDevices
    rw [hv]
    cases m with
    | zero =>
      cases hm
      exact ⟨version, hv, rfl⟩
    | succ m =>
      obtain ⟨v, hversion, hget⟩ := ih (k := k + 1) hm fun i earlier hi hearlier =>
        hopened (i + 1) earlier (by omega) hearlier
      refine ⟨v, hversion, ?_⟩
      rw [show k + (m + 1) = k + 1 + m by omega]
      exact hget

/-- A device that is not at the index of its module: neither index has a sensor. -/
theorem OpenedInOrder.index {modules : List SubModule} (hopened : OpenedInOrder modules)
    {i m : ℕ} {v : ℤ} (hdevice : (subHwDevices 0 modules)[i]? = some (m, v)) :
    i = m ∨ ∀ l, ⟨i, l⟩ ∉ fullHandles 0 modules ∧ ⟨m, l⟩ ∉ fullHandles 0 modules := by
  by_cases him : i = m
  · exact Or.inl him
  · refine Or.inr fun l => ⟨fun hmem => ?_, fun hmem => ?_⟩
    · -- with a sensor at `i`, the device `i` is that of the module `i`
      obtain ⟨hwModule, hn, sensor, hsensor, -⟩ := mem_fullHandles_zero.1 hmem
      obtain ⟨w, -, hget⟩ := subHwDevices_of_opened (k := 0) hn
        (hopened i hwModule hn sensor hsensor).2
      rw [hget, Nat.zero_add] at hdevice
      exact him (Prod.mk.inj (Option.some.inj hdevice)).1
    · obtain ⟨hwModule, hn, sensor, hsensor, -⟩ := mem_fullHandles_zero.1 hmem
      obtain ⟨j, _, hj, hle, -, -, -⟩ := subHwDevices_index hdevice
      have hjm : m = j := hj.trans (Nat.zero_add j)
      -- all modules up to `m` are opened, so the device `i` is that of the module `i`
      have hilt : i < modules.length :=
        lt_of_le_of_lt (hle.trans hjm.ge) (List.getElem?_eq_some_iff.1 hn).1
      obtain ⟨w, -, hget⟩ := subHwDevices_of_opened (k := 0) (List.getElem?_eq_getElem hilt)
        fun k earlier hk hearlier =>
          (hopened m hwModule hn sensor hsensor).2 k earlier (hk.trans (hle.trans hjm.ge)) hearlier
      rw [hget, Nat.zero_add] at hdevice
      exact him (Prod.mk.inj (Option.some.inj hdevice)).1

/-! ### The target of a command -/

variable {modules : List SubModule} {r : SensorsList} {g : ℤ} {m : ℕ} {l : ℤ}

theorem getLocalHandle_of (hg : r.handles.globalToFull g = some ⟨m, l⟩) :
    r.handles.getLocalHandle g = l := by
  unfold Handles.getLocalHandle
  rw [hg]
  rfl

/-- The device taken for an assigned handle is the one at the index of its module. -/
theorem getDeviceByHandle_of (hg : r.handles.globalToFull g = some ⟨m, l⟩) :
    (sensorsContext modules r).getDeviceByHandle g = (subHwDevices 0 modules)[m]? := by
  have hindex : r.handles.getModuleIndex g = (m : ℤ) := by
    unfold Handles.getModuleIndex
    rw [hg]
    rfl
  unfold SensorsContext.getDeviceByHandle sensorsContext
  dsimp only
  rw [hindex, Int.toNat_natCast]
  by_cases hlt : m < (subHwDevices 0 modules).length
  · rw [if_neg (by omega)]
  · rw [if_pos (by omega), List.getElem?_eq_none (by omega)]

theorem target_of (hg : r.handles.globalToFull g = some ⟨m, l⟩) :
    (sensorsContext modules r).target g =
      if 0 ≤ l then (subHwDevices 0 modules)[m]?.map fun device => (l, device) else none := by
  unfold SensorsContext.target
  have hlocal : (sensorsContext modules r).list.handles.getLocalHandle g = l := getLocalHandle_of hg
  rw [hlocal, getDeviceByHandle_of hg]

/-- Where the device of the module is at its index, it is the target. -/
theorem target_of_device (hg : r.handles.globalToFull g = some ⟨m, l⟩) (hl : 0 ≤ l) {v : ℤ}
    (hdevice : (subHwDevices 0 modules)[m]? = some (m, v)) :
    (sensorsContext modules r).target g = some (l, m, v) := by
  rw [target_of hg, if_pos hl, hdevice]
  rfl

theorem version_of_device (hg : r.handles.globalToFull g = some ⟨m, l⟩) {v : ℤ}
    (hdevice : (subHwDevices 0 modules)[m]? = some (m, v)) (level : ℤ) (hlevel : 0 < level) :
    (sensorsContext modules r).halIsAPILevelCompliant g level = decide (level ≤ v) := by
  unfold SensorsContext.halIsAPILevelCompliant SensorsContext.getDeviceVersionByHandle
  rw [getDeviceByHandle_of hg, hdevice]
  show (v != -1 && decide (level ≤ v)) = decide (level ≤ v)
  by_cases hle : level ≤ v
  · have hne : v ≠ -1 := by omega
    rw [bne_iff_ne.2 hne, Bool.true_and]
  · rw [decide_eq_false hle, Bool.and_false]

/-- One call of the device. -/
theorem callsOnly_call {v : ℤ} {command : SensorsContext.Command} {reply : SubCall δ → ℤ}
    {x : SubCall δ} (hdevice : x.device = m) (hhandle : x.handle = l) :
    CallsOnly m l v command (SensorsContext.call reply x) := by
  refine ⟨fun y hy => ?_, fun _ => List.cons_ne_nil _ _⟩
  rw [List.mem_singleton.1 hy]
  exact ⟨hdevice, hhandle⟩

/-- No call, where none is needed. -/
theorem callsOnly_nil {v : ℤ} {command : SensorsContext.Command} {retval : ℤ}
    (hsends : ¬command.sends v) : CallsOnly m l v command (([], retval) : Answer δ) :=
  ⟨fun _ hx => absurd hx List.not_mem_nil, fun h => absurd h hsends⟩

/-- With the right target, every command goes there. -/
theorem callsOnly_of_device (hg : r.handles.globalToFull g = some ⟨m, l⟩) (hl : 0 ≤ l) {v : ℤ}
    (hdevice : (subHwDevices 0 modules)[m]? = some (m, v)) (reply : SubCall δ → ℤ)
    (s : BatchState) (command : SensorsContext.Command) :
    CallsOnly m l v command ((sensorsContext modules r).command reply s g command).2 := by
  have htarget : (sensorsContext modules r).target g = some (l, m, v) :=
    target_of_device hg hl hdevice
  have hlevel : (sensorsContext modules r).halIsAPILevelCompliant g sensorsDeviceApiVersion11 =
      decide (sensorsDeviceApiVersion11 ≤ v) :=
    version_of_device hg hdevice sensorsDeviceApiVersion11 (by decide)
  have hactivate : ∀ enabled, (sensorsContext modules r).activate reply g enabled =
      SensorsContext.call reply (.activate m l enabled) := fun enabled => by
    unfold SensorsContext.activate
    rw [htarget]
  have hdelay : ∀ ns, (sensorsContext modules r).setDelay reply g ns =
      SensorsContext.call reply (.setDelay m l ns) := fun ns => by
    unfold SensorsContext.setDelay
    rw [htarget]
  cases command with
  | activate enabled =>
    show CallsOnly m l v _ ((sensorsContext modules r).deviceActivate reply s g enabled).2
    unfold SensorsContext.deviceActivate
    rw [hactivate, hlevel]
    dsimp only
    split
    · exact callsOnly_call rfl rfl
    · split
      · -- the saved delay is set after the activation
        rw [hdelay]
        refine ⟨fun x hx => ?_, fun _ => List.cons_ne_nil _ _⟩
        rcases List.mem_cons.1 hx with rfl | hx
        · exact ⟨rfl, rfl⟩
        · rw [List.mem_singleton.1 hx]
          exact ⟨rfl, rfl⟩
      · exact callsOnly_call rfl rfl
  | setDelay ns =>
    show CallsOnly m l v _ ((sensorsContext modules r).setDelay reply g ns)
    rw [hdelay]
    exact callsOnly_call rfl rfl
  | batch flags periodNs timeout =>
    show CallsOnly m l v _
      ((sensorsContext modules r).deviceBatch reply s g flags periodNs timeout).2
    unfold SensorsContext.deviceBatch
    rw [hlevel]
    by_cases hnew : sensorsDeviceApiVersion11 ≤ v
    · rw [if_pos (decide_eq_true hnew)]
      unfold SensorsContext.batch
      rw [htarget]
      dsimp only
      rw [hlevel, if_pos (decide_eq_true hnew)]
      exact callsOnly_call rfl rfl
    · rw [if_neg (by rw [decide_eq_false hnew]; exact Bool.false_ne_true)]
      dsimp only
      split
      · exact callsOnly_nil hnew
      · rw [hdelay]
        exact callsOnly_call rfl rfl
  | flush =>
    show CallsOnly m l v _ ((sensorsContext modules r).flush reply g)
    unfold SensorsContext.flush
    rw [htarget]
    dsimp only
    rw [hlevel]
    by_cases hnew : sensorsDeviceApiVersion11 ≤ v
    · rw [if_pos (decide_eq_true hnew)]
      exact callsOnly_call rfl rfl
    · rw [if_neg (by rw [decide_eq_false hnew]; exact Bool.false_ne_true)]
      exact callsOnly_nil hnew

/-- A sensor that is activated by its handle: the handle is not negative, and the device at the index
of its module is of that module. -/
theorem device_of_callsOnly (hg : r.handles.globalToFull g = some ⟨m, l⟩) {v : ℤ}
    {reply : SubCall δ → ℤ}
    (hcalls : CallsOnly m l v (.activate 0) ((sensorsContext modules r).activate reply g 0)) :
    0 ≤ l ∧ ∃ w, (subHwDevices 0 modules)[m]? = some (m, w) := by
  unfold SensorsContext.activate at hcalls
  rw [target_of hg] at hcalls
  by_cases hl : 0 ≤ l
  · rw [if_pos hl] at hcalls
    refine ⟨hl, ?_⟩
    cases hdevice : (subHwDevices 0 modules)[m]? with
    | none =>
      rw [hdevice] at hcalls
      exact absurd rfl (hcalls.2 trivial)
    | some device =>
      rw [hdevice] at hcalls
      have hm : device.1 = m := (hcalls.1 _ List.mem_cons_self).1
      exact ⟨device.2, by rw [← hm]⟩
  · rw [if_neg hl] at hcalls
    exact absurd rfl (hcalls.2 trivial)

/-- An activation with zero is only an activation. -/
theorem command_activate_zero (c : SensorsContext) (reply : SubCall δ → ℤ) (s : BatchState)
    (handle : ℤ) : (c.command reply s handle (.activate 0)).2 = c.activate reply handle 0 := by
  show (c.deviceActivate reply s handle 0).2 = _
  unfold SensorsContext.deviceActivate
  dsimp only
  split
  · rfl
  · split
    · rename_i hnonzero
      exact absurd rfl hnonzero.1
    · rfl

/-! ### When all goes by the right module -/

theorem OpenedInOrder.routesRight (hopened : OpenedInOrder modules) : RoutesRight δ modules := by
  have hlist : (lazyInitSensorsList modules).isSome := by
    refine examineModules_isSome.2 fun hwModule hmem hsensors => ?_
    obtain ⟨m, hm⟩ := List.mem_iff_getElem?.1 hmem
    obtain ⟨sensor, hsensor⟩ := List.exists_mem_of_ne_nil _ hsensors
    exact (hopened m hwModule hm sensor hsensor).2 m hwModule le_rfl hm
  obtain ⟨r, hr⟩ := Option.isSome_iff_exists.1 hlist
  have ha := assigned_of_lazyInit hr
  refine ⟨r, hr, fun g m l hg reply s command => ?_, fun i m v hdevice event => ?_⟩
  · obtain ⟨hwModule, hn, sensor, hsensor, hl⟩ := mem_fullHandles_zero.1 (ha.mem_of_full hg)
    obtain ⟨hpos, hearlier⟩ := hopened m hwModule hn sensor hsensor
    obtain ⟨v, hv, hdevice⟩ := subHwDevices_of_opened (k := 0) hn hearlier
    rw [Nat.zero_add] at hdevice
    unfold Reaches
    rw [hn, Option.bind_some, hv]
    exact callsOnly_of_device hg (hl ▸ hpos) hdevice reply s command
  · rcases hopened.index hdevice with rfl | hnone
    · rfl
    · have hunknown : ∀ l, r.handles.getGlobalHandle ⟨i, l⟩ = r.handles.getGlobalHandle ⟨m, l⟩ :=
        fun l => (ha.getGlobalHandle_eq_neg_one.2 (hnone l).1).trans
          (ha.getGlobalHandle_eq_neg_one.2 (hnone l).2).symm
      unfold copyEventRemapHandle
      rw [hunknown, hunknown]

/-- Commands and events go by the right module exactly when each module with a sensor was opened, and
all modules before it. -/
theorem routesRight_iff (δ : Type*) (modules : List SubModule) :
    RoutesRight δ modules ↔ OpenedInOrder modules := by
  refine ⟨?_, OpenedInOrder.routesRight⟩
  rintro ⟨r, hr, hcommands, -⟩ m hwModule hm sensor hsensor
  have ha := assigned_of_lazyInit hr
  have hmem : ⟨m, sensor.handle⟩ ∈ fullHandles 0 modules :=
    mem_fullHandles_zero.2 ⟨hwModule, hm, sensor, hsensor, rfl⟩
  have hg := ha.globalToFull_getGlobalHandle hmem
  have hversion : hwModule.version.isSome :=
    examineModules_isSome.1 (Option.isSome_iff_exists.2 ⟨r, hr⟩) hwModule
      (List.mem_of_getElem? hm) (List.ne_nil_of_mem hsensor)
  obtain ⟨v, hv⟩ := Option.isSome_iff_exists.1 hversion
  have hreaches := hcommands _ m sensor.handle hg (fun _ => 0) ⟨fun _ => 0, fun _ => ⟨true, 0, 0, 0, 0⟩⟩
    (.activate 0)
  unfold Reaches at hreaches
  rw [hm, Option.bind_some, hv, command_activate_zero] at hreaches
  obtain ⟨hpos, w, hdevice⟩ := device_of_callsOnly hg hreaches
  refine ⟨hpos, fun k earlier hk hearlier => ?_⟩
  obtain ⟨j, _, hj, -, -, -, hall⟩ := subHwDevices_index hdevice
  exact hall (hj.trans (Nat.zero_add j)).symm k earlier hk hearlier

/-- The first of two modules has no sensor and is not opened: the sensor of the second one is sought at
the device of the first. -/
def firstFails : List SubModule :=
  [⟨[], none⟩, ⟨[⟨7, 1, 0, 0, 0⟩], some sensorsDeviceApiVersion14⟩]

theorem firstFails_notRight : ¬RoutesRight Unit firstFails := by
  rintro ⟨r, hr, hcommands, -⟩
  cases hr
  have hreaches := hcommands 1 1 7 rfl (fun _ => 0) ⟨fun _ => 0, fun _ => ⟨true, 0, 0, 0, 0⟩⟩
    (.setDelay 0)
  exact hreaches.2 trivial rfl

/-! ## Injection -/

/-- All modules were opened, with devices that take injected data. -/
def AllInject (modules : List SubModule) : Prop :=
  ∀ hwModule ∈ modules, ∃ v ∈ hwModule.version, sensorsDeviceApiVersion14 ≤ v

/-- `inject_sensor_data` of the device of the module `m` is called once, on this device, with the event
as it was. -/
def InjectsBack (m : ℕ) (event : SensorsEvent δ) (answer : Answer δ) : Prop :=
  answer.1 = [.injectSensorData m (.sub m) event]

theorem AllInject.device (hall : AllInject modules) {m : ℕ} {hwModule : SubModule}
    (hm : modules[m]? = some hwModule) :
    ∃ v, sensorsDeviceApiVersion14 ≤ v ∧ (subHwDevices 0 modules)[m]? = some (m, v) := by
  obtain ⟨v, hv, hdevice⟩ := subHwDevices_of_opened (k := 0) hm fun i earlier _ hearlier => by
    obtain ⟨w, hw, -⟩ := hall earlier (List.mem_of_getElem? hearlier)
    exact Option.isSome_iff_exists.2 ⟨w, hw⟩
  obtain ⟨w, hw, hle⟩ := hall hwModule (List.mem_of_getElem? hm)
  obtain rfl := Option.some.inj (hv.symm.trans hw)
  rw [Nat.zero_add] at hdevice
  exact ⟨v, hle, hdevice⟩

/-- A delivered event names a sensor of its module, and is otherwise as it was. -/
theorem passed_eq_some (ha : Assigned (fullHandles 0 modules) r.handles) {event dest : SensorsEvent δ}
    (hmeta : event.type ≠ sensorTypeMetaData) (hpass : passed r.handles m event = some dest) :
    r.handles.globalToFull dest.sensor = some ⟨m, event.sensor⟩ ∧
      dest = { event with sensor := dest.sensor } := by
  rw [passed_of_not_meta hmeta] at hpass
  split at hpass
  · cases hpass
  · rename_i hknown
    have hmem : ⟨m, event.sensor⟩ ∈ fullHandles 0 modules := by
      by_contra hnot
      exact hknown (ha.getGlobalHandle_eq_neg_one.2 hnot)
    obtain rfl := Option.some.inj hpass
    have hdest : copyEventRemapHandle r.handles event m =
        { event with sensor := r.handles.getGlobalHandle ⟨m, event.sensor⟩ } := by
      unfold copyEventRemapHandle
      rw [if_neg hmeta]
    rw [hdest]
    exact ⟨ha.globalToFull_getGlobalHandle hmem, rfl⟩

/-- The sub-HAL gets the device of the multi-HAL and the event with the global handle. -/
theorem injectSensorData_of (ha : Assigned (fullHandles 0 modules) r.handles)
    (hall : AllInject modules) (reply : SubCall δ → ℤ) {event dest : SensorsEvent δ}
    (hmeta : event.type ≠ sensorTypeMetaData) (hpass : passed r.handles m event = some dest) :
    ((sensorsContext modules r).injectSensorData reply dest).1 =
      if 0 ≤ event.sensor then [.injectSensorData m .proxy dest] else [] := by
  obtain ⟨hg, -⟩ := passed_eq_some ha hmeta hpass
  obtain ⟨hwModule, hn, -⟩ := mem_fullHandles_zero.1 (ha.mem_of_full hg)
  obtain ⟨v, hle, hdevice⟩ := hall.device hn
  unfold SensorsContext.injectSensorData
  by_cases hl : 0 ≤ event.sensor
  · rw [target_of_device hg hl hdevice, if_pos hl]
    dsimp only
    rw [version_of_device hg hdevice sensorsDeviceApiVersion14 (by decide),
      if_pos (decide_eq_true hle)]
    rfl
  · rw [target_of hg, if_neg hl, if_neg hl]

/-- No delivered event is injected as it was. Even with any device as an argument, it would have to
have the same handle in both directions. -/
theorem inject_never (hlist : lazyInitSensorsList modules = some r) (hall : AllInject modules)
    (reply : SubCall δ → ℤ) {m : ℕ} {event dest : SensorsEvent δ}
    (hmeta : event.type ≠ sensorTypeMetaData) (hpass : passed r.handles m event = some dest) :
    ¬InjectsBack m event ((sensorsContext modules r).injectSensorData reply dest) ∧
      ((∃ dev, ((sensorsContext modules r).injectSensorData reply dest).1 =
          [.injectSensorData m dev event]) ↔ 0 ≤ event.sensor ∧ dest.sensor = event.sensor) := by
  have ha := assigned_of_lazyInit hlist
  have hcalls := injectSensorData_of ha hall reply hmeta hpass
  obtain ⟨-, hdest⟩ := passed_eq_some ha hmeta hpass
  unfold InjectsBack
  rw [hcalls]
  by_cases hl : 0 ≤ event.sensor
  · rw [if_pos hl]
    refine ⟨fun heq => ?_, ?_, ?_⟩
    · cases (SubCall.injectSensorData.inj (List.singleton_injective heq)).2.1
    · rintro ⟨dev, heq⟩
      have hsame : dest = event := (SubCall.injectSensorData.inj (List.singleton_injective heq)).2.2
      exact ⟨hl, by rw [hsame]⟩
    · rintro ⟨-, hsame⟩
      rw [hsame] at hdest
      exact ⟨.proxy, by rw [hdest]⟩
  · rw [if_neg hl]
    refine ⟨fun heq => (nomatch heq), ?_, fun h => absurd h.1 hl⟩
    rintro ⟨dev, heq⟩
    cases heq

/-- An event of the only sensor, whose handles are 7 and 1. -/
theorem oneSensor_notInjected : ∃ r dest, lazyInitSensorsList oneSensor = some r ∧
    passed r.handles 0 ⟨1, 7, 0, ()⟩ = some dest ∧ ¬InjectsBack 0 ⟨1, 7, 0, ()⟩
      ((sensorsContext oneSensor r).injectSensorData (fun _ => 0) dest) := by
  refine ⟨_, _, rfl, rfl, fun heq => ?_⟩
  cases heq

theorem oneSensor_never : ∃ r dest, lazyInitSensorsList oneSensor = some r ∧
    passed r.handles 0 ⟨1, 7, 0, ()⟩ = some dest ∧
      ¬∃ dev, ((sensorsContext oneSensor r).injectSensorData (fun _ => 0) dest).1 =
        [.injectSensorData 0 dev ⟨1, 7, 0, ()⟩] := by
  have hall : AllInject oneSensor := fun hwModule hmem => by
    rw [List.mem_singleton.1 hmem]
    exact ⟨_, rfl, le_rfl⟩
  have hremapped : ∃ r dest, lazyInitSensorsList oneSensor = some r ∧
      passed r.handles 0 ⟨1, 7, 0, ()⟩ = some dest ∧ dest.sensor ≠ 7 :=
    ⟨_, _, rfl, rfl, by decide⟩
  obtain ⟨r, dest, hlist, hpass, hne⟩ := hremapped
  refine ⟨r, dest, hlist, hpass, fun hdev => hne ?_⟩
  exact ((inject_never hlist hall (fun _ => 0) (by decide) hpass).2.1 hdev).2

end AliceHal.Sensors
