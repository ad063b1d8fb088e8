import Mathlib

/-!
# Three Lights on One LED

Battery, notifications and attention share the LED. `set_light_locked` stores the configuration of a
light and shows the light of the highest priority that is lit.

- `LightsState`: the stored configurations, the light shown, and what was written last
- `LightsState.setLightLocked`: the update after one light has changed
- `Shown`: the highest light that is lit is the one shown
- `lastConfig`: what the last call for a light has set
- `setLights_shown`: it is after every sequence of calls
-/

namespace AliceHal.Lights

/-- `enum lights`, by rising priority. -/
inductive Light where
  | battery
  | notifications
  | attention
  deriving DecidableEq, Repr

/-- The value of the enumeration. -/
def Light.id : Light → ℕ
  | .battery => 0
  | .notifications => 1
  | .attention => 2

/-- The lights below, the highest one first. -/
def Light.below : Light → List Light
  | .battery => []
  | .notifications => [.battery]
  | .attention => [.notifications, .battery]

/-- `struct led_config`. -/
structure LedConfig where
  colorRGB : UInt32
  delayOn : UInt32
  delayOff : UInt32
  deriving DecidableEq, Repr

/-- The fields of `struct light_state_t` that are read. -/
structure LightState where
  color : UInt32
  flashMode : Int32
  flashOnMS : Int32
  flashOffMS : Int32
  deriving DecidableEq, Repr

/-- `LIGHT_FLASH_TIMED`. -/
def lightFlashTimed : Int32 := 1

/-- `LIGHT_FLASH_HARDWARE`. -/
def lightFlashHardware : Int32 := 2

/-- The globals of the module. -/
structure LightsState where
  gLeds : Light → LedConfig
  /-- the light shown, `none` for `UNDEFINED` -/
  gCurLight : Option Light
  /-- the light whose configuration was passed to `write_leds_locked` last, `none` for `NULL` -/
  led : Option Light
  /-- what that configuration was then -/
  written : Option LedConfig

namespace LightsState

/-- All globals are zero, and nothing was written. -/
def init : LightsState where
  gLeds := fun _ => ⟨0, 0, 0⟩
  gCurLight := none
  led := none
  written := none

/-- The light is lit. -/
def Lit (s : LightsState) (light : Light) : Prop := 0 < (s.gLeds light).colorRGB

instance (s : LightsState) (light : Light) : Decidable (s.Lit light) :=
  inferInstanceAs (Decidable (0 < (s.gLeds light).colorRGB))

/-- A call of `write_leds_locked`. -/
def writeLedsLocked (s : LightsState) (led : Option Light) : LightsState :=
  { s with led := led, written := led.map s.gLeds }

/-- The configuration for a light state. -/
def ledConfig (state : LightState) : LedConfig :=
  let flashes := state.flashMode = lightFlashTimed ∨ state.flashMode = lightFlashHardware
  { colorRGB := state.color &&& 0x00ffffff
    delayOn := if flashes then state.flashOnMS.toUInt32 else 0
    delayOff := if flashes then state.flashOffMS.toUInt32 else 0 }

/-- `light_id >= g_cur_light`, where `UNDEFINED` is below all lights. -/
def reaches (lightId : Light) : Option Light → Bool
  | none => true
  | some cur => cur.id ≤ lightId.id

/-- The argument of `write_leds_locked` once the configuration of a light is stored, if it is
called. -/
def request (s : LightsState) (lightId : Light) : Option (Option Light) :=
  if s.Lit lightId then
    if reaches lightId s.gCurLight then some (some lightId) else none
  else if s.gCurLight = some lightId then
    -- the loop over the lower lights; where it finds none the LED is turned off
    some (lightId.below.find? fun light => s.Lit light)
  else none

/-- The rest of `set_light_locked`: the light written is the current one afterwards. -/
def showRequested (s : LightsState) (lightId : Light) : LightsState :=
  match s.request lightId with
  | none => s
  | some led => { s.writeLedsLocked led with gCurLight := led }

/-- `set_light_locked`. -/
def setLightLocked (s : LightsState) (state : LightState) (lightId : Light) : LightsState :=
  { s with gLeds := Function.update s.gLeds lightId (ledConfig state) }.showRequested lightId

/-- `set_light_attention` turns the light off when a flash time is zero. -/
def fixAttention (state : LightState) : LightState :=
  if state.flashOnMS = 0 ∨ state.flashOffMS = 0 then { state with color := 0 } else state

/-- The state with which `set_light_battery`, `set_light_notifications` and `set_light_attention`
call `set_light_locked`. -/
def fixed : Light → LightState → LightState
  | .battery, state | .notifications, state => state
  | .attention, state => fixAttention state

/-- `set_light_battery`, `set_light_notifications` and `set_light_attention`. -/
def setLight (s : LightsState) (lightId : Light) (state : LightState) : LightsState :=
  s.setLightLocked (fixed lightId state) lightId

/-! ## The light shown -/

/-- The greatest light that is lit is the current one, and the one written last, with the
configuration it has now. Where none is lit `NULL` was written last. -/
structure Shown (s : LightsState) : Prop where
  lit : ∀ light ∈ s.gCurLight, s.Lit light
  greatest : ∀ light, s.Lit light → ∃ cur ∈ s.gCurLight, light.id ≤ cur.id
  led : s.led = s.gCurLight
  written : s.written = s.gCurLight.map s.gLeds

variable {s : LightsState} {light : Light}

theorem shown_init : Shown init := by
  refine ⟨fun light h => absurd h (Option.not_mem_none light), fun light h => ?_, rfl, rfl⟩
  exact absurd (show (0 : UInt32) < 0 from h) (by decide)

theorem id_injective {l m : Light} (h : l.id = m.id) : l = m := by
  cases l <;> cases m <;> first | rfl | cases h

/-- The loop finds the greatest of the lower lights that are lit. -/
theorem find_below {p : Light → Bool} {m l : Light} (hl : p l = true) (hlt : l.id < m.id) :
    ∃ cur ∈ m.below.find? p, l.id ≤ cur.id := by
  cases m with
  | battery => exact absurd hlt (Nat.not_lt_zero _)
  | notifications =>
    cases l with
    | battery => exact ⟨.battery, by simp [Light.below, hl], le_rfl⟩
    | notifications => exact absurd hlt (lt_irrefl _)
    | attention => exact absurd hlt (by decide)
  | attention =>
    cases l with
    | battery =>
      by_cases hn : p .notifications = true
      · exact ⟨.notifications, by simp [Light.below, hn], by decide⟩
      · exact ⟨.battery, by simp [Light.below, hl, hn], le_rfl⟩
    | notifications => exact ⟨.notifications, by simp [Light.below, hl], le_rfl⟩
    | attention => exact absurd hlt (lt_irrefl _)

/-- Only the light that was changed is lit in another way than before. -/
theorem lit_update {config : LedConfig} {lightId : Light} (hne : light ≠ lightId) :
    ({ s with gLeds := Function.update s.gLeds lightId config } : LightsState).Lit light ↔
      s.Lit light := by
  show 0 < (Function.update s.gLeds lightId config light).colorRGB ↔ _
  rw [Function.update_of_ne hne]
  rfl

/-- A change of one light leaves the greatest one shown. -/
theorem Shown.setLightLocked (h : s.Shown) (state : LightState) (lightId : Light) :
    (s.setLightLocked state lightId).Shown := by
  unfold LightsState.setLightLocked
  generalize ht : ({ s with
    gLeds := Function.update s.gLeds lightId (ledConfig state) } : LightsState) = t
  have hother : ∀ {light}, light ≠ lightId → (t.Lit light ↔ s.Lit light) :=
    fun hne => ht ▸ lit_update hne
  have hsame : ∀ {light}, light ≠ lightId → t.gLeds light = s.gLeds light :=
    fun hne => ht ▸ Function.update_of_ne hne _ _
  have hcur : t.gCurLight = s.gCurLight := by rw [← ht]
  have hled : t.led = s.gCurLight := by rw [← ht, ← h.led]
  have hwritten : t.written = s.gCurLight.map s.gLeds := by rw [← ht, ← h.written]
  -- what stays shown is not the light that was changed
  have hstays : (∀ cur ∈ s.gCurLight, cur ≠ lightId) →
      (∀ light, t.Lit light → ∃ cur ∈ s.gCurLight, light.id ≤ cur.id) → t.Shown := by
    intro hne hgreatest
    refine ⟨fun light hl => ?_, fun light hl => ?_, hled.trans hcur.symm, ?_⟩
    · rw [hcur] at hl
      exact (hother (hne light hl)).2 (h.lit light hl)
    · rw [hcur]
      exact hgreatest light hl
    · rw [hwritten, hcur]
      cases hs : s.gCurLight with
      | none => rfl
      | some cur => rw [Option.map_some, Option.map_some, hsame (hne cur hs)]
  unfold showRequested request
  rw [hcur]
  by_cases hlit : t.Lit lightId
  · rw [if_pos hlit]
    by_cases hreaches : reaches lightId s.gCurLight = true
    · -- raised, or refreshed: no light above it is lit
      rw [if_pos hreaches]
      refine ⟨fun light hl => ?_, fun light hl => ⟨lightId, rfl, ?_⟩, rfl, rfl⟩
      · rw [← Option.some.inj hl]
        exact hlit
      · by_cases hne : light = lightId
        · rw [hne]
        · obtain ⟨cur, hmem, hle⟩ := h.greatest light ((hother hne).1 hl)
          rw [Option.mem_def.1 hmem] at hreaches
          exact hle.trans (of_decide_eq_true hreaches)
    · -- a light above it stays shown
      rw [if_neg hreaches]
      obtain ⟨cur, hs⟩ : ∃ cur, s.gCurLight = some cur := by
        cases hs : s.gCurLight with
        | none => exact absurd (by rw [hs]; rfl) hreaches
        | some cur => exact ⟨cur, rfl⟩
      have hlt : lightId.id < cur.id := by
        rw [hs] at hreaches
        exact Nat.not_le.1 fun hle => hreaches (decide_eq_true hle)
      refine hstays (fun light hl heq => ?_) fun light hl => ?_
      · have hsame : cur = light := Option.some.inj (hs.symm.trans hl)
        rw [hsame, heq] at hlt
        exact absurd hlt (lt_irrefl _)
      · by_cases heq : light = lightId
        · exact ⟨cur, hs, by rw [heq]; exact hlt.le⟩
        · exact h.greatest light ((hother heq).1 hl)
  · rw [if_neg hlit]
    by_cases hshown : s.gCurLight = some lightId
    · -- the light shown is off: fall back, or switch off
      rw [if_pos hshown]
      refine ⟨fun light hl => ?_, fun light hl => ?_, rfl, rfl⟩
      · have hfound : lightId.below.find? (fun light => t.Lit light) = some light := hl
        have hlit := List.find?_some hfound
        exact of_decide_eq_true hlit
      · have hne : light ≠ lightId := fun heq => hlit (heq ▸ hl)
        obtain ⟨cur, hmem, hle⟩ := h.greatest light ((hother hne).1 hl)
        rw [Option.some.inj (hmem.symm.trans hshown)] at hle
        exact find_below (decide_eq_true hl) (lt_of_le_of_ne hle fun heq => hne (id_injective heq))
    · -- another light is shown
      rw [if_neg hshown]
      refine hstays (fun cur hmem heq => hshown (heq ▸ hmem)) fun light hl => ?_
      have hne : light ≠ lightId := fun heq => hlit (heq ▸ hl)
      exact h.greatest light ((hother hne).1 hl)

/-- The state after these calls. -/
def setLights (calls : List (Light × LightState)) : LightsState :=
  calls.foldl (fun s call => s.setLight call.1 call.2) init

/-- The configuration that the last call for a light has set, zero before the first one. -/
def lastConfig (calls : List (Light × LightState)) (light : Light) : LedConfig :=
  (calls.reverse.find? fun call => call.1 = light).elim ⟨0, 0, 0⟩ fun call =>
    ledConfig (fixed light call.2)

theorem gLeds_showRequested (s : LightsState) (lightId : Light) :
    (s.showRequested lightId).gLeds = s.gLeds := by
  unfold showRequested
  cases s.request lightId <;> rfl

/-- A call stores the configuration of its light, and leaves the others. -/
theorem gLeds_setLights (calls : List (Light × LightState)) (light : Light) :
    (setLights calls).gLeds light = lastConfig calls light := by
  induction calls using List.reverseRecOn with
  | nil => rfl
  | append_singleton calls call ih =>
    have hstored : (setLights (calls ++ [call])).gLeds light =
        Function.update (setLights calls).gLeds call.1 (ledConfig (fixed call.1 call.2)) light := by
      rw [setLights, List.foldl_append]
      exact congrFun (gLeds_showRequested _ call.1) light
    rw [hstored, lastConfig, List.reverse_concat, List.find?_cons]
    by_cases heq : call.1 = light
    · subst heq
      rw [Function.update_self, decide_eq_true rfl]
      rfl
    · rw [Function.update_of_ne (Ne.symm heq), decide_eq_false heq]
      exact ih

/-- After every sequence of calls the configuration of each light is the one of its last call; the
highest light that is lit is shown, with its present configuration; and nothing is shown exactly when
no light is lit. -/
theorem setLights_shown (calls : List (Light × LightState)) :
    (setLights calls).Shown ∧
      ((setLights calls).written = none ↔ ∀ light, ¬ (setLights calls).Lit light) ∧
        ∀ light, (setLights calls).gLeds light = lastConfig calls light := by
  have hshown : (setLights calls).Shown := by
    induction calls using List.reverseRecOn with
    | nil => exact shown_init
    | append_singleton calls call ih =>
      rw [setLights, List.foldl_append]
      exact Shown.setLightLocked ih (fixed call.1 call.2) call.1
  refine ⟨hshown, ?_, gLeds_setLights calls⟩
  rw [hshown.written, Option.map_eq_none_iff]
  constructor
  · intro hnone light hlit
    obtain ⟨cur, hcur, _⟩ := hshown.greatest light hlit
    rw [hnone] at hcur
    exact Option.not_mem_none cur hcur
  · intro hunlit
    refine Option.eq_none_iff_forall_not_mem.2 fun cur hcur => ?_
    exact hunlit cur (hshown.lit cur hcur)

/-- A notification goes out while the battery light is on: the battery light comes back. -/
example : (setLights [(.battery, ⟨0xFF0000FF, 0, 0, 0⟩), (.notifications, ⟨0xFF00FF00, 1, 500, 500⟩),
    (.notifications, ⟨0, 0, 0, 0⟩)]).written = some ⟨0x0000FF, 0, 0⟩ := by
  decide

end LightsState

end AliceHal.Lights
