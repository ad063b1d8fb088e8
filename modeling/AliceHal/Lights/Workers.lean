import AliceHal.Lib.CString
import AliceHal.Lib.Machine
import AliceHal.Lights.Arbitration

/-!
# The LED Workers

Three threads write the files of the LED, one for each colour. A call of `set_light` hands them a
configuration by a pointer and a flag in `g_data`, without their locks, and wakes them by a
broadcast. Each access to a shared variable, each write of a file, and each operation on a barrier
or the condition is a step.

The lock of `g_data` is taken by its worker only, so it is not modelled, and `g_lock` makes the calls
follow each other. The blue LED is there: `NO_BLUE_LED` is not defined.

The numbers are stored as `uint32_t` and written by `write_int`, which takes an `int` and prints it
into eight bytes.

- `Leds`: the shared variables, the files and the threads
- `Leds.step`: a step of a caller or of a worker
- `Leds.Handed`: a request is not lost on the way to a worker, and reaches its file
- `Leds.Bounded`: what is on the way fits into the buffer of `write_int`
- `workers_show_last`: when all workers wait, the files hold the last configuration
-/

namespace AliceHal.Lights

/-- `enum led_color`. -/
inductive LedColor where
  | red
  | green
  | blue
  deriving DecidableEq, Repr

instance : Fintype LedColor :=
  ⟨{.red, .green, .blue}, fun color => by cases color <;> decide⟩

/-- The value of the enumeration. -/
def LedColor.id : LedColor → ℕ
  | .red => 0
  | .green => 1
  | .blue => 2

/-- The next value, unless this is the last one. -/
def LedColor.next : LedColor → Option LedColor
  | .red => some .green
  | .green => some .blue
  | .blue => none

/-- The three numbers of a configuration. There is one file for each number and colour. -/
inductive LedField where
  | color
  | delayOn
  | delayOff
  deriving DecidableEq, Repr

/-- `get_color`. -/
def getColor (colorRGB : UInt32) (color : LedColor) : UInt32 :=
  (colorRGB >>> (16 - 8 * UInt32.ofNat color.id)) &&& 0xFF

namespace LedConfig

/-- Store one number. -/
def set (config new : LedConfig) : LedField → LedConfig
  | .color => { config with colorRGB := new.colorRGB }
  | .delayOn => { config with delayOn := new.delayOn }
  | .delayOff => { config with delayOff := new.delayOff }

/-- What the worker of a colour writes. -/
def value (config : LedConfig) (color : LedColor) : LedField → UInt32
  | .color => getColor config.colorRGB color
  | .delayOn => config.delayOn
  | .delayOff => config.delayOff

/-- The flash times have seven digits at most. -/
def Fits (config : LedConfig) : Prop := config.delayOn < 10000000 ∧ config.delayOff < 10000000

instance (config : LedConfig) : Decidable config.Fits :=
  inferInstanceAs (Decidable (config.delayOn < 10000000 ∧ config.delayOff < 10000000))

theorem getColor_lt (colorRGB : UInt32) (color : LedColor) : getColor colorRGB color < 10000000 := by
  have hle : (getColor colorRGB color).toNat ≤ 0xFF := by
    unfold getColor
    rw [UInt32.toNat_and]
    exact Nat.and_le_right
  have hlt : (getColor colorRGB color).toNat < 10000000 := by omega
  exact hlt

theorem Fits.value {config : LedConfig} (h : config.Fits) (color : LedColor) :
    ∀ field, config.value color field < 10000000
  | .color => getColor_lt config.colorRGB color
  | .delayOn => h.1
  | .delayOff => h.2

theorem Fits.set {config new : LedConfig} (h : config.Fits) (hnew : new.Fits) :
    ∀ field, (config.set new field).Fits
  | .color => h
  | .delayOn => ⟨hnew.1, h.2⟩
  | .delayOff => ⟨h.1, hnew.2⟩

end LedConfig

/-- Where a caller of `set_light` is. -/
inductive Caller where
  | idle
  /-- in `set_light_locked`, with the numbers still to be stored -/
  | storing (lightId : Light) (config : LedConfig) (rest : List LedField)
  /-- in `reset_leds`, with the files still to be written -/
  | resetting (led : Option Light) (rest : List (LedColor × LedField))
  /-- about to store `g_data[color].led` -/
  | handingLed (led : Light) (color : LedColor)
  /-- about to store `g_data[color].signaled` -/
  | signaling (led : Light) (color : LedColor)
  /-- about to call `pthread_cond_broadcast` -/
  | broadcasting
  deriving DecidableEq, Repr

/-- Where a worker is. -/
inductive Worker where
  /-- about to read `signaled` -/
  | testing
  /-- has read `signaled` as false, about to call `pthread_cond_wait` -/
  | sleeping
  /-- in `pthread_cond_wait` -/
  | waiting
  /-- about to read `data->led` for this number -/
  | loadLed (field : LedField)
  /-- about to read the number of the configuration -/
  | loadField (field : LedField) (led : Option Light)
  /-- about to write the file -/
  | writing (field : LedField) (value : UInt32)
  /-- about to call `pthread_barrier_wait`, after the file of this number -/
  | arriving (field : LedField)
  /-- in `pthread_barrier_wait` -/
  | arrived (field : LedField)
  /-- about to clear `signaled` -/
  | clearing
  deriving DecidableEq, Repr

/-- After a broadcast. -/
def Worker.woken (w : Worker) : Worker := if w = .waiting then .testing else w

/-- How `open` and `write` end for a file. -/
inductive FileResult where
  | ok
  | openFails
  | writeFails
  deriving DecidableEq, Repr

/-- The module with its threads. -/
structure Leds where
  lights : LightsState
  /-- `g_data[color].signaled` -/
  signaled : LedColor → Bool
  /-- `g_data[color].led` -/
  led : LedColor → Option Light
  blinking : Bool
  /-- the text in each file -/
  files : LedColor → LedField → List UInt8
  /-- `write_int` has written past the end of its buffer -/
  overrun : Bool
  caller : Caller
  worker : LedColor → Worker
  /-- `g_data[color].signaled` was set since the worker began to read the configuration -/
  renewed : LedColor → Bool

/-- The next step. -/
inductive LedsInput where
  /-- a light is set -/
  | setLight (lightId : Light) (state : LightState)
  /-- the caller goes on -/
  | caller (file : FileResult)
  /-- the worker of a colour goes on -/
  | worker (color : LedColor) (file : FileResult)
  /-- `pthread_cond_wait` returns without a signal -/
  | spurious (color : LedColor)
  deriving DecidableEq, Repr

/-- What is seen: the argument of `write_leds_locked` when it is called. -/
abbrev LedsOutput := Option (Option LedConfig)

namespace Leds

/-- The threads are started, and no light was set. -/
def init (files : LedColor → LedField → List UInt8) : Leds where
  lights := LightsState.init
  signaled := fun _ => false
  led := fun _ => none
  blinking := false
  files := files
  overrun := false
  caller := .idle
  worker := fun _ => .testing
  renewed := fun _ => false

/-- The stores of `set_light_locked`. -/
def storeOrder : List LedField := [.delayOn, .delayOff, .color]

/-- The writes of `reset_leds`. -/
def resetOrder : List (LedColor × LedField) :=
  [(.red, .color), (.red, .delayOn), (.red, .delayOff), (.green, .color), (.green, .delayOn),
    (.green, .delayOff), (.blue, .color), (.blue, .delayOn), (.blue, .delayOff)]

/-- The worker goes on here. -/
def goto (s : Leds) (color : LedColor) (worker : Worker) : Leds :=
  { s with worker := Function.update s.worker color worker }

/-- `sprintf(buffer, "%d", value)`, where the argument of `write_int` is an `int`. -/
def printed (value : UInt32) : List UInt8 := Lib.printInt value.toInt32.toInt

/-- The size of `buffer` in `write_int`. -/
def bufferSize : ℕ := 8

/-- The text is printed, with a null byte behind it. -/
def printInto (s : Leds) (value : UInt32) : Leds :=
  { s with overrun := s.overrun || decide (bufferSize < (printed value).length + 1) }

/-- `write_int`. -/
def writeInt (s : Leds) (file : FileResult) (color : LedColor) (field : LedField)
    (value : UInt32) : Leds :=
  match file with
  | .openFails => s
  | .writeFails => s.printInto value
  | .ok =>
    { s.printInto value with
      files := Function.update s.files color (Function.update (s.files color) field (printed value)) }

/-- Seven digits are the most that fit. -/
example (s : Leds) : (s.overrun = false → (s.printInto 9999999).overrun = false) ∧
    (s.printInto 10000000).overrun = true := by
  refine ⟨fun h => ?_, ?_⟩
  · simp only [printInto, h, Bool.false_or]
    decide
  · simp only [printInto, Bool.or_eq_true]
    exact Or.inr (by decide)

/-! ## The caller -/

/-- `write_leds_locked` is called. -/
def callWriteLeds (s : Leds) (led : Option Light) : Leds :=
  match led with
  | none => { s with blinking := false, caller := .resetting none resetOrder }
  | some light =>
    let config := s.lights.gLeds light
    { s with
      blinking := config.delayOn != 0 || config.delayOff != 0
      caller := if s.blinking then .resetting led resetOrder else .handingLed light .red }

/-- The rest of `set_light_locked`, once the configuration is stored. -/
def choose (s : Leds) (lightId : Light) : Leds × LedsOutput :=
  let t := { s with lights := s.lights.showRequested lightId }
  match s.lights.request lightId with
  | none => ({ t with caller := .idle }, none)
  | some led => (t.callWriteLeds led, some t.lights.written)

/-- A step of the caller. -/
def callerStep (s : Leds) (file : FileResult) : Option (Leds × LedsOutput) :=
  match s.caller with
  | .idle => none
  | .storing lightId config (field :: rest) =>
    let stored := (s.lights.gLeds lightId).set config field
    some ({ s with
      lights := { s.lights with gLeds := Function.update s.lights.gLeds lightId stored }
      caller := .storing lightId config rest }, none)
  | .storing lightId _ [] => some (s.choose lightId)
  | .resetting led ((color, field) :: rest) =>
    some ({ s.writeInt file color field 0 with caller := .resetting led rest }, none)
  | .resetting none [] => some ({ s with caller := .idle }, none)
  | .resetting (some light) [] => some ({ s with caller := .handingLed light .red }, none)
  | .handingLed light color =>
    some ({ s with
      led := Function.update s.led color (some light)
      caller := .signaling light color }, none)
  | .signaling light color =>
    some ({ s with
      signaled := Function.update s.signaled color true
      renewed := Function.update s.renewed color true
      caller := match color.next with
        | some next => .handingLed light next
        | none => .broadcasting }, none)
  | .broadcasting =>
    some ({ s with worker := fun color => (s.worker color).woken, caller := .idle }, none)

/-! ## The workers -/

/-- After the barrier that follows a number. -/
def afterBarrier : LedField → Worker
  | .color => .loadLed .delayOn
  | .delayOn | .delayOff => .loadLed .delayOff

/-- The third worker that arrives lets all of them go. -/
def arrive (s : Leds) (color : LedColor) (field : LedField) : Leds :=
  if ∀ other, other ≠ color → s.worker other = .arrived field then
    { s with worker := fun _ => afterBarrier field }
  else s.goto color (.arrived field)

/-- A step of a worker. -/
def workerStep (s : Leds) (color : LedColor) (file : FileResult) : Option Leds :=
  match s.worker color with
  | .testing => some (s.goto color (if s.signaled color then .loadLed .color else .sleeping))
  | .sleeping => some (s.goto color .waiting)
  | .waiting => none
  | .loadLed .color =>
    some { s.goto color (.loadField .color (s.led color)) with
      renewed := Function.update s.renewed color false }
  | .loadLed field => some (s.goto color (.loadField field (s.led color)))
  | .loadField field led =>
    led.map fun light => s.goto color (.writing field ((s.lights.gLeds light).value color field))
  | .writing field value =>
    some ((s.writeInt file color field value).goto color
      (if field = .delayOff then .clearing else .arriving field))
  | .arriving field => some (s.arrive color field)
  | .arrived _ => none
  | .clearing =>
    some { s.goto color .testing with signaled := Function.update s.signaled color false }

/-- The step of an input. -/
def act (s : Leds) : LedsInput → Option (Leds × LedsOutput)
  | .setLight lightId state =>
    match s.caller with
    | .idle =>
      let config := LightsState.ledConfig (LightsState.fixed lightId state)
      some ({ s with caller := .storing lightId config storeOrder }, none)
    | _ => none
  | .caller file => s.callerStep file
  | .worker color file => (s.workerStep color file).map fun t => (t, none)
  | .spurious color =>
    if s.worker color = .waiting then some (s.goto color .testing, none) else none

/-- One step. Nothing is known once `write_int` has written past its buffer. -/
def step (s : Leds) (i : LedsInput) : Option (Leds × LedsOutput) :=
  if s.overrun then none else s.act i

/-! ## Requests that reach the workers -/

end Leds

namespace Worker

/-- The worker is not at work on a configuration. -/
def Resting : Worker → Prop
  | .testing | .sleeping | .waiting => True
  | _ => False

instance (w : Worker) : Decidable w.Resting :=
  match w with
  | .testing | .sleeping | .waiting => instDecidableTrue
  | .loadLed _ | .loadField _ _ | .writing _ _ | .arriving _ | .arrived _ | .clearing =>
    instDecidableFalse

/-- The numbers before this one. -/
def before : LedField → List LedField
  | .color => []
  | .delayOn => [.color]
  | .delayOff => [.color, .delayOn]

/-- The numbers whose files are written, since the worker began to read the configuration. -/
def done : Worker → List LedField
  | .testing | .sleeping | .waiting => []
  | .loadLed field | .loadField field _ | .writing field _ => before field
  | .arriving .color | .arrived .color => before .delayOn
  | .arriving _ | .arrived _ => before .delayOff
  | .clearing => [.color, .delayOn, .delayOff]

end Worker

namespace Leds

/-- No worker is at work, and none has a reason to be. -/
def AllRest (s : Leds) : Prop := ∀ color, s.signaled color = false ∧ (s.worker color).Resting

instance (s : Leds) : Decidable s.AllRest :=
  inferInstanceAs (Decidable (∀ color, s.signaled color = false ∧ (s.worker color).Resting))

/-- The caller is about to turn the LED off. -/
def turnsOff (s : Leds) : Bool :=
  match s.caller with
  | .storing lightId _ [] => s.lights.request lightId == some none
  | _ => false

/-- No request is lost by the step: a worker goes to sleep only without a request, it clears its flag
only when that was not set again since it began to read, and the LED is turned off only when no
worker is at work on an earlier request. The files can be written, and the flash times that are set
fit into the buffer of `write_int`. -/
def Handed (s : Leds) : LedsInput → Prop
  | .setLight lightId state =>
    (LightsState.ledConfig (LightsState.fixed lightId state)).Fits
  | .spurious _ => True
  | .worker color file =>
    file = .ok ∧ (s.worker color = .sleeping → s.signaled color = false) ∧
      (s.worker color = .clearing → s.renewed color = false)
  | .caller file => file = .ok ∧ (s.turnsOff = true → s.AllRest)

instance (s : Leds) (i : LedsInput) : Decidable (s.Handed i) :=
  match i with
  | .setLight lightId state =>
    inferInstanceAs (Decidable (LightsState.ledConfig (LightsState.fixed lightId state)).Fits)
  | .spurious _ => instDecidableTrue
  | .worker color file => inferInstanceAs (Decidable (file = .ok ∧ (s.worker color = .sleeping →
      s.signaled color = false) ∧ (s.worker color = .clearing → s.renewed color = false)))
  | .caller file => inferInstanceAs (Decidable (file = .ok ∧ (s.turnsOff = true → s.AllRest)))

/-- The argument of the last call of `write_leds_locked`. -/
def lastRequest (es : List (LedsInput × LedsOutput)) : Option (Option LedConfig) :=
  (es.filterMap fun e => e.2).getLast?

/-- The number that is shown in a file. -/
def shownNumber (request : Option LedConfig) (color : LedColor) (field : LedField) : UInt32 :=
  match request with
  | none => 0
  | some config => config.value color field

/-- What the file of a number holds when a configuration is shown: the number in decimal. -/
def shows (request : Option LedConfig) (color : LedColor) (field : LedField) : List UInt8 :=
  Lib.printNat (shownNumber request color field).toNat

/-! ## The invariant -/

/-- The caller will still wake the workers. -/
def Wakes : Caller → Prop
  | .handingLed _ _ | .signaling _ _ | .broadcasting => True
  | _ => False

/-- The worker has what the caller will hand it, or keeps what it was handed before. -/
def Settled (s : Leds) (color : LedColor) : Prop :=
  match s.caller with
  | .idle | .broadcasting | .resetting none _ => True
  | .storing lightId _ _ => s.lights.led ≠ some lightId
  | .resetting (some _) _ => False
  | .handingLed _ next | .signaling _ next => color.id < next.id

/-- What the worker has read and written is from this light, and its flag is set as long as there is
something to do. -/
structure Follows (s : Leds) (color : LedColor) (light : Light) : Prop where
  led : s.led color = some light
  rest : (s.worker color).Resting → s.signaled color = false →
    ∀ field, s.files color field = printed ((s.lights.gLeds light).value color field)
  done : s.renewed color = false → ∀ field ∈ (s.worker color).done,
    s.files color field = printed ((s.lights.gLeds light).value color field)
  loaded : s.renewed color = false → ∀ field led, s.worker color = .loadField field led →
    led = some light
  read : s.renewed color = false → ∀ field value, s.worker color = .writing field value →
    value = (s.lights.gLeds light).value color field

/-- The light in force, as the caller has it. -/
def Hands (s : Leds) : Prop :=
  match s.caller with
  | .idle | .broadcasting | .storing _ _ _ => True
  | .resetting led _ => s.lights.led = led
  | .handingLed light _ => s.lights.led = some light
  | .signaling light color => s.lights.led = some light ∧ s.led color = some light

/-- What holds in all states of a run, after the requests seen so far. -/
structure Inv (req : Option (Option LedConfig)) (s : Leds) : Prop where
  shown : s.lights.led = s.lights.gCurLight
  last : ∀ w ∈ req, w = s.lights.written
  written : (∀ lightId config rest, s.caller = .storing lightId config rest →
    s.lights.led ≠ some lightId) → s.lights.written = s.lights.led.map s.lights.gLeds
  hands : s.Hands
  awake : ∀ color, s.worker color = .waiting → s.signaled color = true → Wakes s.caller
  follows : ∀ color light, s.lights.led = some light → s.Settled color → s.Follows color light
  rests : s.lights.led = none → s.AllRest
  dark : s.lights.led = none → req ≠ none → ∀ color field,
    (∀ led rest, s.caller = .resetting led rest → (color, field) ∉ rest) →
      s.files color field = printed 0

variable {s t : Leds} {i : LedsInput} {o : LedsOutput} {req : Option (Option LedConfig)}

theorem inv_init (files : LedColor → LedField → List UInt8) : Inv none (init files) where
  shown := rfl
  last := fun w h => absurd h (Option.not_mem_none w)
  written := fun _ => rfl
  hands := trivial
  awake := fun _ h => nomatch h
  follows := fun _ _ h => nomatch h
  rests := fun _ _ => ⟨rfl, trivial⟩
  dark := fun _ h => absurd rfl h

/-- When nothing is under way the files hold the last configuration. -/
theorem Inv.files (h : Inv req s) (hidle : s.caller = .idle)
    (hwait : ∀ color, s.worker color = .waiting) {w : Option LedConfig} (hw : req = some w)
    (color : LedColor) (field : LedField) :
    s.files color field = printed (shownNumber w color field) := by
  have hfree : ∀ lightId config rest, s.caller = .storing lightId config rest →
      s.lights.led ≠ some lightId := by
    intro lightId config rest hcaller
    rw [hidle] at hcaller
    cases hcaller
  have hwritten : w = s.lights.led.map s.lights.gLeds :=
    (h.last w hw).trans (h.written hfree)
  rw [hwritten]
  cases hled : s.lights.led with
  | none =>
    refine h.dark hled (by rw [hw]; exact Option.some_ne_none w) color field ?_
    intro led rest hcaller
    rw [hidle] at hcaller
    cases hcaller
  | some light =>
    have hsettled : s.Settled color := by
      unfold Settled
      rw [hidle]
      trivial
    have hquiet : s.signaled color = false := by
      rw [← Bool.not_eq_true]
      intro hset
      have hwakes := h.awake color (hwait color) hset
      rw [hidle] at hwakes
      exact hwakes
    refine (h.follows color light hled hsettled).rest ?_ hquiet field
    rw [hwait color]
    trivial

/-! ### Steps of the caller -/

theorem Follows.congr {color : LedColor} {light : Light} (h : s.Follows color light)
    (hled : t.led color = s.led color) (hworker : t.worker color = s.worker color)
    (hsignaled : t.signaled color = s.signaled color) (hfiles : t.files color = s.files color)
    (hrenewed : t.renewed color = s.renewed color)
    (hlight : t.lights.gLeds light = s.lights.gLeds light) : t.Follows color light := by
  refine ⟨hled.trans h.led, ?_, ?_, ?_, ?_⟩
  · rw [hworker, hsignaled, hfiles, hlight]
    exact h.rest
  · rw [hworker, hrenewed, hfiles, hlight]
    exact h.done
  · rw [hworker, hrenewed]
    exact h.loaded
  · rw [hworker, hrenewed, hlight]
    exact h.read

theorem inv_setLight {lightId : Light} {config : LedConfig} (h : Inv req s) (hidle : s.caller = .idle) :
    Inv req { s with caller := .storing lightId config storeOrder } where
  shown := h.shown
  last := h.last
  written := fun _ => h.written fun lightId config rest hcaller => by
    rw [hidle] at hcaller
    cases hcaller
  hands := trivial
  awake := fun color hwait hset => by
    have hwakes := h.awake color hwait hset
    rw [hidle] at hwakes
    exact hwakes.elim
  follows := fun color light hled _ => by
    have hsettled : s.Settled color := by
      unfold Settled
      rw [hidle]
      trivial
    exact (h.follows color light hled hsettled).congr rfl rfl rfl rfl rfl rfl
  rests := h.rests
  dark := fun hled hreq color field _ => h.dark hled hreq color field fun led rest hcaller => by
    rw [hidle] at hcaller
    cases hcaller

/-- A store into a configuration that is shown makes it unsettled. -/
theorem inv_store {lightId : Light} {config stored : LedConfig} {field : LedField}
    {rest : List LedField} (h : Inv req s) (hstoring : s.caller = .storing lightId config (field :: rest)) :
    Inv req { s with
      lights := { s.lights with gLeds := Function.update s.lights.gLeds lightId stored }
      caller := .storing lightId config rest } := by
  have hkeep : ∀ {light}, light ≠ lightId →
      Function.update s.lights.gLeds lightId stored light = s.lights.gLeds light :=
    fun hne => Function.update_of_ne hne _ _
  refine ⟨h.shown, h.last, fun hfree => ?_, trivial, fun color hwait hset => ?_,
    fun color light hled hsettled => ?_, h.rests, fun hled hreq color field _ => ?_⟩
  · have hne : s.lights.led ≠ some lightId := hfree lightId config rest rfl
    refine (h.written fun l c r hcaller => ?_).trans ?_
    · rw [hstoring] at hcaller
      cases hcaller
      exact hne
    · show s.lights.led.map s.lights.gLeds = s.lights.led.map (Function.update _ lightId stored)
      cases hled : s.lights.led with
      | none => rfl
      | some light =>
        rw [Option.map_some, Option.map_some, hkeep fun heq => hne (heq ▸ hled)]
  · have hwakes := h.awake color hwait hset
    rw [hstoring] at hwakes
    exact hwakes.elim
  · have hne : s.lights.led ≠ some lightId := hsettled
    have hold : s.Settled color := by
      unfold Settled
      rw [hstoring]
      exact hne
    exact (h.follows color light hled hold).congr rfl rfl rfl rfl rfl
      (hkeep fun heq => hne (heq ▸ hled))
  · refine h.dark hled hreq color field fun led rest hcaller => ?_
    rw [hstoring] at hcaller
    cases hcaller

/-- A change of the light shown asks for a request. -/
theorem request_ne_none {lights : LightsState} {lightId : Light}
    (hcur : lights.gCurLight = some lightId) : lights.request lightId ≠ none := by
  unfold LightsState.request
  rw [hcur]
  have hreaches : LightsState.reaches lightId (some lightId) = true := decide_eq_true le_rfl
  by_cases hlit : lights.Lit lightId
  · rw [if_pos hlit, if_pos hreaches]
    exact Option.some_ne_none _
  · rw [if_neg hlit, if_pos rfl]
    exact Option.some_ne_none _

theorem mem_resetOrder (color : LedColor) (field : LedField) : (color, field) ∈ resetOrder := by
  cases color <;> cases field <;> decide

/-- The call of `write_leds_locked`, or the end without one. -/
theorem inv_choose {lightId : Light} {config : LedConfig} (h : Inv req s)
    (hstoring : s.caller = .storing lightId config [])
    (hoff : s.lights.request lightId = some none → s.AllRest) :
    Inv ((s.choose lightId).2.elim req some) (s.choose lightId).1 := by
  have hasleep : ∀ color, s.worker color = .waiting → s.signaled color = true → False := by
    intro color hwait hset
    have hwakes := h.awake color hwait hset
    rw [hstoring] at hwakes
    exact hwakes
  unfold choose LightsState.showRequested
  cases hrequest : s.lights.request lightId with
  | none =>
    have hne : s.lights.led ≠ some lightId := by
      rw [h.shown]
      exact fun hcur => request_ne_none hcur hrequest
    refine ⟨h.shown, h.last, fun _ => h.written fun l c r hcaller => ?_, trivial,
      fun color hwait hset => (hasleep color hwait hset).elim, fun color light hled _ => ?_, h.rests,
      fun hled hreq color field _ => h.dark hled hreq color field fun led rest hcaller => ?_⟩
    · rw [hstoring] at hcaller
      cases hcaller
      exact hne
    · have hsettled : s.Settled color := by
        unfold Settled
        rw [hstoring]
        exact hne
      exact (h.follows color light hled hsettled).congr rfl rfl rfl rfl rfl rfl
    · rw [hstoring] at hcaller
      cases hcaller
  | some led =>
    cases led with
    | none =>
      refine ⟨rfl, fun w hw => (Option.some.inj hw).symm, fun _ => rfl, rfl,
        fun color hwait hset => (hasleep color hwait hset).elim, (fun color light hled => nomatch hled),
        fun _ => hoff hrequest, fun _ _ color field hrest => ?_⟩
      exact absurd (mem_resetOrder color field) (hrest none resetOrder rfl)
    | some light =>
      -- nothing is handed yet, so no worker is settled
      refine ⟨?_, fun w hw => ?_, fun _ => ?_, ?_, fun color hwait hset => ?_,
        fun color light' hled hsettled => ?_, fun hled => ?_, fun hled => ?_⟩
      · rfl
      · exact (Option.some.inj hw).symm
      · rfl
      · by_cases hblink : s.blinking = true
        · simp only [Hands, callWriteLeds, hblink]
          rfl
        · simp only [Hands, callWriteLeds, hblink]
          rfl
      · exact (hasleep color hwait hset).elim
      · by_cases hblink : s.blinking = true
        · simp only [Settled, callWriteLeds, hblink, if_true] at hsettled
        · simp only [Settled, callWriteLeds, hblink] at hsettled
          exact absurd hsettled (Nat.not_lt_zero _)
      · exact nomatch hled
      · exact nomatch hled

theorem inv_reset {led : Option Light} {color : LedColor} {field : LedField}
    {rest : List (LedColor × LedField)} (h : Inv req s)
    (hresetting : s.caller = .resetting led ((color, field) :: rest)) :
    Inv req { s.writeInt .ok color field 0 with caller := .resetting led rest } := by
  have hlight : s.lights.led = led := by
    have hands := h.hands
    unfold Hands at hands
    rw [hresetting] at hands
    exact hands
  refine ⟨h.shown, h.last, fun _ => h.written fun l c r hcaller => ?_, hlight,
    fun color hwait hset => ?_, fun color light hled hsettled => ?_, h.rests,
    fun hled hreq color' field' hrest => ?_⟩
  · rw [hresetting] at hcaller
    cases hcaller
  · have hwakes := h.awake color hwait hset
    rw [hresetting] at hwakes
    exact hwakes.elim
  · -- with a light to be shown no worker is settled, without one there is nothing to follow
    cases led with
    | none => exact nomatch hlight.symm.trans hled
    | some _ => exact hsettled.elim
  · have hnext : (color', field') ∉ rest := hrest led rest rfl
    show Function.update s.files color (Function.update (s.files color) field (printed 0)) color'
      field' = printed 0
    by_cases hcolor : color' = color
    · rw [hcolor, Function.update_self]
      by_cases hfield : field' = field
      · rw [hfield, Function.update_self]
      · rw [Function.update_of_ne hfield]
        refine h.dark hled hreq color field' fun l r hcaller => ?_
        rw [hresetting] at hcaller
        cases hcaller
        rw [← hcolor]
        exact fun hmem => (List.mem_cons.1 hmem).elim (fun heq => hfield (Prod.mk.inj heq).2) hnext
    · rw [Function.update_of_ne hcolor]
      refine h.dark hled hreq color' field' fun l r hcaller => ?_
      rw [hresetting] at hcaller
      cases hcaller
      exact fun hmem => (List.mem_cons.1 hmem).elim (fun heq => hcolor (Prod.mk.inj heq).1) hnext

/-- The LED is off now. -/
theorem inv_resetEnd (h : Inv req s) (hresetting : s.caller = .resetting none []) :
    Inv req { s with caller := .idle } := by
  have hlight : s.lights.led = none := by
    have hands := h.hands
    unfold Hands at hands
    rw [hresetting] at hands
    exact hands
  refine ⟨h.shown, h.last, fun _ => h.written fun l c r hcaller => ?_, trivial,
    fun color hwait hset => ?_, (fun color light hled _ => nomatch hlight.symm.trans hled), h.rests,
    fun hled hreq color field _ => h.dark hled hreq color field fun l r hcaller => ?_⟩
  · rw [hresetting] at hcaller
    cases hcaller
  · have hwakes := h.awake color hwait hset
    rw [hresetting] at hwakes
    exact hwakes.elim
  · rw [hresetting] at hcaller
    cases hcaller
    exact List.not_mem_nil

/-- A blinking LED was reset, and now the configuration is handed out. -/
theorem inv_handFirst {light : Light} (h : Inv req s)
    (hresetting : s.caller = .resetting (some light) []) :
    Inv req { s with caller := .handingLed light .red } := by
  have hlight : s.lights.led = some light := by
    have hands := h.hands
    unfold Hands at hands
    rw [hresetting] at hands
    exact hands
  refine ⟨h.shown, h.last, fun _ => h.written fun l c r hcaller => ?_, hlight, fun _ _ _ => trivial,
    fun color light hled hsettled => absurd hsettled (Nat.not_lt_zero _), h.rests,
    fun hled => nomatch hlight.symm.trans hled⟩
  rw [hresetting] at hcaller
  cases hcaller

theorem inv_handLed {light : Light} {color : LedColor} (h : Inv req s)
    (hhanding : s.caller = .handingLed light color) :
    Inv req { s with
      led := Function.update s.led color (some light)
      caller := .signaling light color } := by
  have hlight : s.lights.led = some light := by
    have hands := h.hands
    unfold Hands at hands
    rw [hhanding] at hands
    exact hands
  refine ⟨h.shown, h.last, fun _ => h.written fun l c r hcaller => ?_,
    ⟨hlight, Function.update_self ..⟩, fun _ _ _ => trivial, fun color' light' hled hsettled => ?_,
    h.rests, fun hled => nomatch hlight.symm.trans hled⟩
  · rw [hhanding] at hcaller
    cases hcaller
  · have hlt : color'.id < color.id := hsettled
    have hne : color' ≠ color := fun heq => absurd hlt (by rw [heq]; exact lt_irrefl _)
    have hold : s.Settled color' := by
      unfold Settled
      rw [hhanding]
      exact hlt
    exact (h.follows color' light' hled hold).congr (Function.update_of_ne hne _ _) rfl rfl rfl rfl
      rfl

theorem LedColor.eq_of_id {color other : LedColor} (h : color.id = other.id) : color = other := by
  cases color <;> cases other <;> first | rfl | cases h

theorem LedColor.id_next {color next : LedColor} (h : color.next = some next) :
    next.id = color.id + 1 := by
  cases color <;> cases h <;> rfl

theorem LedColor.id_le_of_last {color other : LedColor} (h : color.next = none) :
    other.id ≤ color.id := by
  cases color with
  | red | green => cases h
  | blue => cases other <;> decide

/-- The flag of a worker is set: it begins anew, or will not clear the flag. -/
theorem inv_signal {light : Light} {color : LedColor} {caller : Caller} (h : Inv req s)
    (hsignaling : s.caller = .signaling light color)
    (hcaller : caller = match color.next with
      | some next => .handingLed light next
      | none => .broadcasting) :
    Inv req { s with
      signaled := Function.update s.signaled color true
      renewed := Function.update s.renewed color true
      caller := caller } := by
  obtain ⟨hlight, hled⟩ : s.lights.led = some light ∧ s.led color = some light := by
    have hands := h.hands
    unfold Hands at hands
    rw [hsignaling] at hands
    exact hands
  have hnext : (∃ next, caller = .handingLed light next ∧ next.id = color.id + 1) ∨
      caller = .broadcasting ∧ ∀ other : LedColor, other.id ≤ color.id := by
    cases hn : color.next with
    | none =>
      rw [hn] at hcaller
      exact Or.inr ⟨hcaller, fun other => LedColor.id_le_of_last hn⟩
    | some next =>
      rw [hn] at hcaller
      exact Or.inl ⟨next, hcaller, LedColor.id_next hn⟩
  refine ⟨h.shown, h.last, fun _ => h.written fun l c r hc => ?_, ?_, fun _ _ _ => ?_,
    fun color' light' hled' hsettled => ?_, (fun hnone => nomatch hlight.symm.trans hnone),
    (fun hnone => nomatch hlight.symm.trans hnone)⟩
  · rw [hsignaling] at hc
    cases hc
  · rcases hnext with ⟨next, rfl, _⟩ | ⟨rfl, _⟩
    · exact hlight
    · trivial
  · rcases hnext with ⟨next, rfl, _⟩ | ⟨rfl, _⟩
    · trivial
    · trivial
  · have hle : color'.id ≤ color.id := by
      rcases hnext with ⟨next, rfl, hid⟩ | ⟨rfl, hlast⟩
      · have hlt : color'.id < next.id := hsettled
        omega
      · exact hlast color'
    have hlights : light = light' := Option.some.inj (hlight.symm.trans hled')
    by_cases hcolor : color' = color
    · refine ⟨?_, fun _ hquiet => ?_, fun hold => ?_, fun hold => ?_, fun hold => ?_⟩
      · rw [hcolor, ← hlights]
        exact hled
      · rw [hcolor] at hquiet
        have hset : Function.update s.signaled color true color = false := hquiet
        rw [Function.update_self] at hset
        cases hset
      all_goals
        rw [hcolor] at hold
        have hset : Function.update s.renewed color true color = false := hold
        rw [Function.update_self] at hset
        cases hset
    · have hold : s.Settled color' := by
        unfold Settled
        rw [hsignaling]
        exact lt_of_le_of_ne hle fun heq => hcolor (LedColor.eq_of_id heq)
      exact (h.follows color' light' hled' hold).congr rfl rfl (Function.update_of_ne hcolor _ _)
        rfl (Function.update_of_ne hcolor _ _) rfl

theorem woken_cases (w : Worker) :
    (w = .waiting ∧ w.woken = .testing) ∨ (w ≠ .waiting ∧ w.woken = w) := by
  by_cases hw : w = .waiting
  · exact Or.inl ⟨hw, if_pos hw⟩
  · exact Or.inr ⟨hw, if_neg hw⟩

/-- The broadcast wakes every worker that waits. -/
theorem inv_broadcast (h : Inv req s) (hbroadcasting : s.caller = .broadcasting) :
    Inv req { s with worker := fun color => (s.worker color).woken, caller := .idle } := by
  have hold : ∀ color, s.Settled color := by
    intro color
    unfold Settled
    rw [hbroadcasting]
    trivial
  refine ⟨h.shown, h.last, fun _ => h.written fun l c r hc => ?_, trivial, fun color hwait => ?_,
    fun color light hled _ => ?_, fun hnone color => ?_,
    fun hnone hreq color field _ => h.dark hnone hreq color field fun l r hc => ?_⟩
  · rw [hbroadcasting] at hc
    cases hc
  · -- nobody waits after the broadcast
    have hnew : (s.worker color).woken = .waiting := hwait
    rcases woken_cases (s.worker color) with ⟨_, heq⟩ | ⟨hne, heq⟩
    · rw [heq] at hnew
      cases hnew
    · rw [heq] at hnew
      exact absurd hnew hne
  · have hf := h.follows color light hled (hold color)
    rcases woken_cases (s.worker color) with ⟨hw, heq⟩ | ⟨_, heq⟩
    · refine ⟨hf.led, fun _ => hf.rest ?_, fun _ field hmem => ?_, fun _ field led hload => ?_,
        fun _ field value hwrite => ?_⟩
      · rw [hw]
        trivial
      · have hnone : field ∈ (s.worker color).woken.done := hmem
        rw [heq] at hnone
        exact absurd hnone List.not_mem_nil
      · cases heq.symm.trans hload
      · cases heq.symm.trans hwrite
    · exact hf.congr rfl heq rfl rfl rfl rfl
  · obtain ⟨hquiet, hrest⟩ := h.rests hnone color
    refine ⟨hquiet, ?_⟩
    show (s.worker color).woken.Resting
    rcases woken_cases (s.worker color) with ⟨_, heq⟩ | ⟨_, heq⟩
    · rw [heq]
      trivial
    · rw [heq]
      exact hrest
  · rw [hbroadcasting] at hc
    cases hc

/-! ### Steps of the workers -/

/-- A step of one worker: the invariant is about that worker only. -/
theorem inv_worker (color : LedColor) (h : Inv req s) (hlights : t.lights = s.lights)
    (hled : t.led = s.led) (hcaller : t.caller = s.caller)
    (hothers : ∀ other, other ≠ color → t.worker other = s.worker other ∧
      t.signaled other = s.signaled other ∧ t.files other = s.files other ∧
        t.renewed other = s.renewed other)
    (hown : ∀ light, s.Follows color light → t.Follows color light)
    (hwaits : t.worker color = .waiting → t.signaled color = false)
    (hrests : s.signaled color = false → (s.worker color).Resting →
      t.signaled color = false ∧ (t.worker color).Resting ∧ t.files color = s.files color) :
    Inv req t := by
  have hsettled : ∀ other, t.Settled other → s.Settled other := by
    intro other
    unfold Settled
    rw [hcaller, hlights]
    exact id
  have hstays : ∀ other, s.AllRest →
      t.signaled other = false ∧ (t.worker other).Resting ∧ t.files other = s.files other := by
    intro other hall
    obtain ⟨hquiet, hrest⟩ := hall other
    by_cases heq : other = color
    · rw [heq] at hquiet hrest ⊢
      exact hrests hquiet hrest
    · obtain ⟨hworker, hsignaled, hfiles, _⟩ := hothers other heq
      rw [hworker, hsignaled, hfiles]
      exact ⟨hquiet, hrest, rfl⟩
  constructor
  case shown => rw [hlights]; exact h.shown
  case last => rw [hlights]; exact h.last
  case written => rw [hlights, hcaller]; exact h.written
  case hands =>
    have hands := h.hands
    unfold Hands at hands ⊢
    rw [hcaller, hlights, hled]
    exact hands
  case awake =>
    intro other hwait hset
    by_cases heq : other = color
    · rw [heq] at hwait hset
      rw [hwaits hwait] at hset
      cases hset
    · obtain ⟨hworker, hsignaled, _, _⟩ := hothers other heq
      rw [hcaller]
      exact h.awake other (hworker ▸ hwait) (hsignaled ▸ hset)
  case follows =>
    intro other light hshown hset
    rw [hlights] at hshown
    have hf := h.follows other light hshown (hsettled other hset)
    by_cases heq : other = color
    · rw [heq] at hf ⊢
      exact hown light hf
    · obtain ⟨hworker, hsignaled, hfiles, hrenewed⟩ := hothers other heq
      exact hf.congr (by rw [hled]) hworker hsignaled hfiles hrenewed (by rw [hlights])
  case rests =>
    intro hnone other
    rw [hlights] at hnone
    obtain ⟨hquiet, hrest, _⟩ := hstays other (h.rests hnone)
    exact ⟨hquiet, hrest⟩
  case dark =>
    intro hnone hreq other field hrest
    rw [hlights] at hnone
    rw [(hstays other (h.rests hnone)).2.2]
    refine h.dark hnone hreq other field fun led rest hc => hrest led rest (hcaller.trans hc)

/-- A worker that only goes on. -/
theorem inv_goto {color : LedColor} {w : Worker} (h : Inv req s)
    (hwaits : w = .waiting → s.signaled color = false)
    (hresting : w.Resting → (s.worker color).Resting)
    (hstays : s.signaled color = false → (s.worker color).Resting → w.Resting)
    (hdone : ∀ field ∈ w.done, field ∈ (s.worker color).done)
    (hloaded : ∀ light, s.Follows color light → s.renewed color = false →
      ∀ field led, w = .loadField field led → led = some light)
    (hread : ∀ light, s.Follows color light → s.renewed color = false →
      ∀ field value, w = .writing field value → value = (s.lights.gLeds light).value color field) :
    Inv req (s.goto color w) := by
  have hw : (s.goto color w).worker color = w := Function.update_self ..
  refine inv_worker color h rfl rfl rfl
    (fun other hne => ⟨Function.update_of_ne hne _ _, rfl, rfl, rfl⟩) (fun light hf => ?_)
    (fun hwait => hwaits (hw ▸ hwait)) (fun hquiet hrest => ⟨hquiet, ?_, rfl⟩)
  · refine ⟨hf.led, fun hrest => hf.rest (hresting (hw ▸ hrest)), fun hnew field hmem => ?_,
      fun hnew field led heq => hloaded light hf hnew field led (hw ▸ heq),
      fun hnew field value heq => hread light hf hnew field value (hw ▸ heq)⟩
    exact hf.done hnew field (hdone field (hw ▸ hmem))
  · rw [hw]
    exact hstays hquiet hrest

theorem inv_testing {color : LedColor} (h : Inv req s) (htesting : s.worker color = .testing) :
    Inv req (s.goto color (if s.signaled color then .loadLed .color else .sleeping)) := by
  cases hset : s.signaled color with
  | false =>
    refine inv_goto h (fun hwait => nomatch hwait) (fun _ => ?_) (fun _ _ => trivial)
      (fun field hmem => absurd hmem List.not_mem_nil) (fun _ _ _ _ _ heq => nomatch heq)
      (fun _ _ _ _ _ heq => nomatch heq)
    rw [htesting]
    trivial
  | true =>
    refine inv_goto h (fun hwait => nomatch hwait) False.elim (fun hquiet => ?_)
      (fun field hmem => absurd hmem List.not_mem_nil) (fun _ _ _ _ _ heq => nomatch heq)
      (fun _ _ _ _ _ heq => nomatch heq)
    rw [hset] at hquiet
    cases hquiet

/-- The worker goes to sleep without a request. -/
theorem inv_sleeping {color : LedColor} (h : Inv req s) (hsleeping : s.worker color = .sleeping)
    (hquiet : s.signaled color = false) : Inv req (s.goto color .waiting) := by
  refine inv_goto h (fun _ => hquiet) (fun _ => ?_) (fun _ _ => trivial)
    (fun field hmem => absurd hmem List.not_mem_nil) (fun _ _ _ _ _ heq => nomatch heq)
    (fun _ _ _ _ _ heq => nomatch heq)
  rw [hsleeping]
  trivial

theorem inv_spurious {color : LedColor} (h : Inv req s) (hwaiting : s.worker color = .waiting) :
    Inv req (s.goto color .testing) := by
  refine inv_goto h (fun hwait => nomatch hwait) (fun _ => ?_) (fun _ _ => trivial)
    (fun field hmem => absurd hmem List.not_mem_nil) (fun _ _ _ _ _ heq => nomatch heq)
    (fun _ _ _ _ _ heq => nomatch heq)
  rw [hwaiting]
  trivial

/-- The worker begins to read: what it reads from here on is one request. -/
theorem inv_loadFirst {color : LedColor} (h : Inv req s)
    (hload : s.worker color = .loadLed .color) :
    Inv req { s.goto color (.loadField .color (s.led color)) with
      renewed := Function.update s.renewed color false } := by
  have hw : (s.goto color (.loadField .color (s.led color))).worker color =
      .loadField .color (s.led color) := Function.update_self ..
  refine inv_worker color h rfl rfl rfl
    (fun other hne => ⟨Function.update_of_ne hne _ _, rfl, rfl, Function.update_of_ne hne _ _⟩)
    (fun light hf => ?_) (fun hwait => nomatch hw.symm.trans hwait) (fun _ hrest => ?_)
  · refine ⟨hf.led, fun hrest => ?_, fun _ field hmem => ?_, fun _ field led heq => ?_,
      fun _ field value heq => nomatch hw.symm.trans heq⟩
    · have hfalse := hw ▸ hrest
      exact hfalse.elim
    · have hnone := hw ▸ hmem
      exact absurd hnone List.not_mem_nil
    · cases hw.symm.trans heq
      exact hf.led
  · rw [hload] at hrest
    exact hrest.elim

theorem inv_load {color : LedColor} {field : LedField} (h : Inv req s)
    (hload : s.worker color = .loadLed field) :
    Inv req (s.goto color (.loadField field (s.led color))) := by
  refine inv_goto h (fun hwait => nomatch hwait) False.elim (fun _ hrest => ?_)
    (fun field' hmem => ?_) (fun light hf _ field' led heq => ?_) (fun _ _ _ _ _ heq => nomatch heq)
  · rw [hload] at hrest
    exact hrest.elim
  · rw [hload]
    exact hmem
  · cases heq
    exact hf.led

theorem inv_read {color : LedColor} {field : LedField} {led : Light} (h : Inv req s)
    (hload : s.worker color = .loadField field (some led)) :
    Inv req (s.goto color (.writing field ((s.lights.gLeds led).value color field))) := by
  refine inv_goto h (fun hwait => nomatch hwait) False.elim (fun _ hrest => ?_)
    (fun field' hmem => ?_) (fun _ _ _ _ _ heq => nomatch heq)
    (fun light hf hold field' value heq => ?_)
  · rw [hload] at hrest
    exact hrest.elim
  · rw [hload]
    exact hmem
  · cases heq
    rw [Option.some.inj (hf.loaded hold field _ hload)]

/-- Where a worker is after it has written a file. -/
theorem done_written {field field' : LedField}
    (h : field' ∈ (if field = .delayOff then Worker.clearing else .arriving field).done) :
    field' = field ∨ field' ∈ Worker.before field := by
  cases field <;> cases field' <;> revert h <;> decide

theorem inv_write {color : LedColor} {field : LedField} {value : UInt32} (h : Inv req s)
    (hwriting : s.worker color = .writing field value) :
    Inv req ((s.writeInt .ok color field value).goto color
      (if field = .delayOff then .clearing else .arriving field)) := by
  have hw : ((s.writeInt .ok color field value).goto color
      (if field = .delayOff then .clearing else .arriving field)).worker color =
        if field = .delayOff then .clearing else .arriving field := Function.update_self ..
  have hnext : ∀ {w : Worker}, w ≠ .clearing → w ≠ .arriving field →
      (if field = .delayOff then Worker.clearing else .arriving field) ≠ w := by
    intro w hclearing harriving
    by_cases hlast : field = .delayOff
    · rw [if_pos hlast]
      exact hclearing.symm
    · rw [if_neg hlast]
      exact harriving.symm
  have hfiles : ((s.writeInt .ok color field value).goto color
      (if field = .delayOff then .clearing else .arriving field)).files color =
        Function.update (s.files color) field (printed value) := Function.update_self ..
  refine inv_worker color h rfl rfl rfl (fun other hne =>
      ⟨Function.update_of_ne hne _ _, rfl, Function.update_of_ne hne _ _, rfl⟩) (fun light hf => ?_)
    (fun hwait => absurd (hw.symm.trans hwait) (hnext nofun nofun)) (fun _ hrest => ?_)
  · refine ⟨hf.led, fun hrest => ?_, fun hold field' hmem => ?_,
      fun _ field' led heq => absurd (hw.symm.trans heq) (hnext nofun nofun),
      fun _ field' value' heq => absurd (hw.symm.trans heq) (hnext nofun nofun)⟩
    · rw [hw] at hrest
      by_cases hlast : field = .delayOff
      · rw [if_pos hlast] at hrest
        exact hrest.elim
      · rw [if_neg hlast] at hrest
        exact hrest.elim
    · rw [hw] at hmem
      rw [hfiles]
      by_cases heq : field' = field
      · rw [heq, Function.update_self]
        exact congrArg printed (hf.read hold field value hwriting)
      · rw [Function.update_of_ne heq]
        refine hf.done hold field' ?_
        rw [hwriting]
        exact (done_written hmem).resolve_left heq
  · rw [hwriting] at hrest
    exact hrest.elim

theorem inv_clear {color : LedColor} (h : Inv req s) (hclearing : s.worker color = .clearing)
    (hold : s.renewed color = false) :
    Inv req { s.goto color .testing with
      signaled := Function.update s.signaled color false } := by
  have hw : (s.goto color .testing).worker color = .testing := Function.update_self ..
  refine inv_worker color h rfl rfl rfl
    (fun other hne => ⟨Function.update_of_ne hne _ _, Function.update_of_ne hne _ _, rfl, rfl⟩)
    (fun light hf => ?_) (fun hwait => nomatch hw.symm.trans hwait) (fun _ hrest => ?_)
  · refine ⟨hf.led, fun _ _ field => hf.done hold field ?_, fun _ field hmem => ?_,
      (fun _ field led heq => nomatch hw.symm.trans heq),
      (fun _ field value heq => nomatch hw.symm.trans heq)⟩
    · rw [hclearing]
      cases field <;> decide
    · have hnone := hw ▸ hmem
      exact absurd hnone List.not_mem_nil
  · rw [hclearing] at hrest
    exact hrest.elim

/-- A barrier lets the workers go on with what they have done. -/
theorem done_afterBarrier (field : LedField) :
    (afterBarrier field).done = (Worker.arrived field).done := by
  cases field <;> rfl

theorem done_arriving (field : LedField) :
    (Worker.arriving field).done = (Worker.arrived field).done := by
  cases field <;> rfl

theorem afterBarrier_eq (field : LedField) : ∃ next, afterBarrier field = .loadLed next := by
  cases field <;> exact ⟨_, rfl⟩

theorem inv_arrive {color : LedColor} {field : LedField} (h : Inv req s)
    (harriving : s.worker color = .arriving field) : Inv req (s.arrive color field) := by
  unfold arrive
  by_cases hall : ∀ other, other ≠ color → s.worker other = .arrived field
  · rw [if_pos hall]
    obtain ⟨next, hnext⟩ := afterBarrier_eq field
    have hbusy : ¬(s.worker color).Resting := by
      rw [harriving]
      exact id
    have hdone : ∀ other, (afterBarrier field).done = (s.worker other).done := by
      intro other
      rw [done_afterBarrier]
      by_cases heq : other = color
      · rw [heq, harriving, done_arriving]
      · rw [hall other heq]
    refine ⟨h.shown, h.last, h.written, h.hands, fun other hwait => ?_,
      fun other light hled hsettled => ?_, fun hnone => ?_, fun hnone => ?_⟩
    · cases hnext.symm.trans hwait
    · have hf := h.follows other light hled hsettled
      refine ⟨hf.led, fun hrest => ?_, fun hold field' hmem => hf.done hold field' ?_,
        (fun _ field' led heq => nomatch hnext.symm.trans heq),
        (fun _ field' value heq => nomatch hnext.symm.trans heq)⟩
      · have hfalse : (afterBarrier field).Resting := hrest
        rw [hnext] at hfalse
        exact hfalse.elim
      · rw [← hdone other]
        exact hmem
    · exact absurd (h.rests hnone color).2 hbusy
    · exact absurd (h.rests hnone color).2 hbusy
  · rw [if_neg hall]
    refine inv_goto h (fun hwait => nomatch hwait) False.elim (fun _ hrest => ?_)
      (fun field' hmem => ?_) (fun _ _ _ _ _ heq => nomatch heq)
      (fun _ _ _ _ _ heq => nomatch heq)
    · rw [harriving] at hrest
      exact hrest.elim
    · rw [harriving, done_arriving]
      exact hmem

/-! ### Runs -/

theorem inv_workerStep {color : LedColor} {file : FileResult} (h : Inv req s)
    (hhanded : s.Handed (.worker color file)) (hstep : s.workerStep color file = some t) :
    Inv req t := by
  obtain ⟨rfl, hsleeps, hclears⟩ := hhanded
  unfold workerStep at hstep
  cases hw : s.worker color with
  | testing =>
    rw [hw] at hstep
    exact Option.some.inj hstep ▸ inv_testing h hw
  | sleeping =>
    rw [hw] at hstep
    exact Option.some.inj hstep ▸ inv_sleeping h hw (hsleeps hw)
  | waiting =>
    rw [hw] at hstep
    cases hstep
  | loadLed field =>
    rw [hw] at hstep
    cases field with
    | color => exact Option.some.inj hstep ▸ inv_loadFirst h hw
    | delayOn | delayOff => exact Option.some.inj hstep ▸ inv_load h hw
  | loadField field led =>
    rw [hw] at hstep
    obtain ⟨light, rfl, rfl⟩ := Option.map_eq_some_iff.1 hstep
    exact inv_read h hw
  | writing field value =>
    rw [hw] at hstep
    exact Option.some.inj hstep ▸ inv_write h hw
  | arriving field =>
    rw [hw] at hstep
    exact Option.some.inj hstep ▸ inv_arrive h hw
  | arrived field =>
    rw [hw] at hstep
    cases hstep
  | clearing =>
    rw [hw] at hstep
    exact Option.some.inj hstep ▸ inv_clear h hw (hclears hw)

theorem inv_callerStep {file : FileResult} (h : Inv req s) (hhanded : s.Handed (.caller file))
    (hstep : s.callerStep file = some (t, o)) : Inv (o.elim req some) t := by
  obtain ⟨rfl, hturnsOff⟩ := hhanded
  unfold callerStep at hstep
  cases hc : s.caller with
  | idle =>
    rw [hc] at hstep
    cases hstep
  | storing lightId config rest =>
    rw [hc] at hstep
    cases rest with
    | nil =>
      have hchoose : s.choose lightId = (t, o) := Option.some.inj hstep
      have hinv := inv_choose h hc fun hoff => hturnsOff ?_
      · rw [hchoose] at hinv
        exact hinv
      · unfold turnsOff
        rw [hc]
        simp only [hoff, beq_self_eq_true]
    | cons field rest =>
      obtain ⟨rfl, rfl⟩ := Prod.mk.inj (Option.some.inj hstep)
      exact inv_store h hc
  | resetting led rest =>
    rw [hc] at hstep
    cases rest with
    | nil =>
      cases led with
      | none =>
        obtain ⟨rfl, rfl⟩ := Prod.mk.inj (Option.some.inj hstep)
        exact inv_resetEnd h hc
      | some light =>
        obtain ⟨rfl, rfl⟩ := Prod.mk.inj (Option.some.inj hstep)
        exact inv_handFirst h hc
    | cons file rest =>
      obtain ⟨rfl, rfl⟩ := Prod.mk.inj (Option.some.inj hstep)
      exact inv_reset h hc
  | handingLed light color =>
    rw [hc] at hstep
    obtain ⟨rfl, rfl⟩ := Prod.mk.inj (Option.some.inj hstep)
    exact inv_handLed h hc
  | signaling light color =>
    rw [hc] at hstep
    obtain ⟨rfl, rfl⟩ := Prod.mk.inj (Option.some.inj hstep)
    exact inv_signal h hc rfl
  | broadcasting =>
    rw [hc] at hstep
    obtain ⟨rfl, rfl⟩ := Prod.mk.inj (Option.some.inj hstep)
    exact inv_broadcast h hc

theorem step_eq_some (hstep : s.step i = some (t, o)) :
    s.overrun = false ∧ s.act i = some (t, o) := by
  unfold step at hstep
  cases hover : s.overrun with
  | false =>
    rw [hover] at hstep
    exact ⟨rfl, hstep⟩
  | true =>
    rw [hover] at hstep
    cases hstep

/-- A step that loses no request keeps the invariant, after what it shows. -/
theorem inv_step (h : Inv req s) (hhanded : s.Handed i) (hstep : s.step i = some (t, o)) :
    Inv (o.elim req some) t := by
  replace hstep := (step_eq_some hstep).2
  cases i with
  | setLight lightId state =>
    unfold act at hstep
    cases hc : s.caller with
    | idle =>
      rw [hc] at hstep
      obtain ⟨rfl, rfl⟩ := Prod.mk.inj (Option.some.inj hstep)
      exact inv_setLight h hc
    | storing | resetting | handingLed | signaling | broadcasting =>
      rw [hc] at hstep
      cases hstep
  | caller => exact inv_callerStep h hhanded hstep
  | worker color =>
    obtain ⟨u, hu, heq⟩ := Option.map_eq_some_iff.1 hstep
    obtain ⟨rfl, rfl⟩ := Prod.mk.inj heq
    exact inv_workerStep h hhanded hu
  | spurious color =>
    have hstep : (if s.worker color = .waiting then some (s.goto color .testing, none) else none) =
      some (t, o) := hstep
    by_cases hwait : s.worker color = .waiting
    · rw [if_pos hwait] at hstep
      obtain ⟨rfl, rfl⟩ := Prod.mk.inj (Option.some.inj hstep)
      exact inv_spurious h hwait
    · rw [if_neg hwait] at hstep
      cases hstep

theorem lastRequest_snoc (es : List (LedsInput × LedsOutput)) (e : LedsInput × LedsOutput) :
    lastRequest (es ++ [e]) = e.2.elim (lastRequest es) some := by
  unfold lastRequest
  rw [List.filterMap_append]
  cases ho : e.2 with
  | none =>
    rw [List.filterMap_cons_none ho, List.filterMap_nil, List.append_nil]
    rfl
  | some w =>
    rw [List.filterMap_cons_some ho, List.filterMap_nil, List.getLast?_concat]
    rfl

/-- The invariant holds after every run that loses no request. -/
theorem inv_of_run {files : LedColor → LedField → List UInt8} {es : List (LedsInput × LedsOutput)}
    (hrun : Lib.Run (Lib.restrict Handed step) (init files) es s) : Inv (lastRequest es) s := by
  induction hrun with
  | nil => exact inv_init files
  | snoc _ hs ih =>
    obtain ⟨hhanded, hstep⟩ := Lib.restrict_eq_some.1 hs
    rw [lastRequest_snoc]
    exact inv_step ih hhanded hstep

/-! ### What is printed

The numbers on the way to a file have seven digits at most. Such a number is not negative as an
`int`, and its text fits into the buffer with its null byte. -/

theorem printed_of_lt {value : UInt32} (h : value < 10000000) :
    printed value = Lib.printNat value.toNat ∧ (printed value).length < bufferSize := by
  have hlt : value.toNat < 10 ^ 7 := h
  have hint : value.toInt32.toInt = value.toNat := by
    show value.toBitVec.toInt = value.toBitVec.toNat
    apply BitVec.toInt_eq_toNat_of_lt
    show 2 * value.toNat < 2 ^ 32
    omega
  have heq : printed value = Lib.printNat value.toNat := by
    unfold printed
    rw [hint, Lib.printInt, if_neg (Int.not_lt.2 (Int.natCast_nonneg _)), Int.natAbs_natCast]
  refine ⟨heq, ?_⟩
  rw [heq]
  exact Nat.lt_succ_of_le (Lib.length_printNat (by decide) hlt)

/-- All that is on the way to a file fits into the buffer. -/
structure Bounded (s : Leds) : Prop where
  stored : ∀ light, (s.lights.gLeds light).Fits
  storing : ∀ lightId config rest, s.caller = .storing lightId config rest → config.Fits
  writing : ∀ color field value, s.worker color = .writing field value → value < 10000000
  written : ∀ config ∈ s.lights.written, config.Fits
  overrun : s.overrun = false

theorem bounded_init (files : LedColor → LedField → List UInt8) : (init files).Bounded where
  stored := fun _ => show (⟨0, 0, 0⟩ : LedConfig).Fits by decide
  storing := fun _ _ _ hc => nomatch hc
  writing := fun _ _ _ hw => nomatch hw
  written := fun _ hmem => nomatch hmem
  overrun := rfl

theorem Bounded.caller (h : s.Bounded) {caller : Caller}
    (hcaller : ∀ lightId config rest, caller = .storing lightId config rest → config.Fits) :
    { s with caller := caller }.Bounded :=
  ⟨h.stored, hcaller, h.writing, h.written, h.overrun⟩

theorem Bounded.goto (h : s.Bounded) (color : LedColor) {w : Worker}
    (hw : ∀ field value, w = .writing field value → value < 10000000) :
    (s.goto color w).Bounded := by
  refine ⟨h.stored, h.storing, fun other field value hother => ?_, h.written, h.overrun⟩
  have hnew : Function.update s.worker color w other = .writing field value := hother
  by_cases heq : other = color
  · rw [heq, Function.update_self] at hnew
    exact hw field value hnew
  · rw [Function.update_of_ne heq] at hnew
    exact h.writing other field value hnew

/-- A short number does not overrun the buffer. -/
theorem Bounded.writeInt (h : s.Bounded) (color : LedColor) (field : LedField) {value : UInt32}
    (hvalue : value < 10000000) : (s.writeInt .ok color field value).Bounded := by
  refine ⟨h.stored, h.storing, h.writing, h.written, ?_⟩
  have hfits : ¬bufferSize < (printed value).length + 1 :=
    Nat.not_lt.2 (printed_of_lt hvalue).2
  show (s.overrun || decide (bufferSize < (printed value).length + 1)) = false
  rw [h.overrun, decide_eq_false hfits]
  rfl

/-- What `write_leds_locked` is called with is a configuration that is stored. -/
theorem Bounded.choose (h : s.Bounded) (lightId : Light) : (s.choose lightId).1.Bounded := by
  unfold Leds.choose LightsState.showRequested
  cases s.lights.request lightId with
  | none => exact h.caller fun _ _ _ hc => nomatch hc
  | some led =>
    have hwritten : ∀ config ∈ led.map s.lights.gLeds, config.Fits := by
      intro config hmem
      obtain ⟨light, _, rfl⟩ := Option.map_eq_some_iff.1 hmem
      exact h.stored light
    cases led with
    | none => exact ⟨h.stored, (fun _ _ _ hc => nomatch hc), h.writing, hwritten, h.overrun⟩
    | some light =>
      refine ⟨h.stored, fun lightId config rest hc => ?_, h.writing, hwritten, h.overrun⟩
      have hcaller : (if s.blinking then Caller.resetting (some light) resetOrder
        else .handingLed light .red) = .storing lightId config rest := hc
      by_cases hblink : s.blinking = true
      · rw [if_pos hblink] at hcaller
        cases hcaller
      · rw [if_neg hblink] at hcaller
        cases hcaller

theorem bounded_callerStep (h : s.Bounded) (hstep : s.callerStep .ok = some (t, o)) :
    t.Bounded := by
  unfold callerStep at hstep
  cases hc : s.caller with
  | idle =>
    rw [hc] at hstep
    cases hstep
  | storing lightId config rest =>
    rw [hc] at hstep
    cases rest with
    | nil =>
      obtain rfl : (s.choose lightId).1 = t := congrArg Prod.fst (Option.some.inj hstep)
      exact h.choose lightId
    | cons field rest =>
      obtain ⟨rfl, rfl⟩ := Prod.mk.inj (Option.some.inj hstep)
      have hconfig : config.Fits := h.storing lightId config (field :: rest) hc
      refine ⟨fun light => ?_, fun l c r heq => ?_, h.writing, h.written, h.overrun⟩
      · show (Function.update s.lights.gLeds lightId _ light).Fits
        by_cases heq : light = lightId
        · rw [heq, Function.update_self]
          exact (h.stored lightId).set hconfig field
        · rw [Function.update_of_ne heq]
          exact h.stored light
      · cases heq
        exact hconfig
  | resetting led rest =>
    rw [hc] at hstep
    cases rest with
    | nil =>
      cases led with
      | none | some =>
        obtain ⟨rfl, rfl⟩ := Prod.mk.inj (Option.some.inj hstep)
        exact h.caller fun _ _ _ heq => nomatch heq
    | cons file rest =>
      obtain ⟨rfl, rfl⟩ := Prod.mk.inj (Option.some.inj hstep)
      exact (h.writeInt file.1 file.2 (by decide)).caller fun _ _ _ heq => nomatch heq
  | handingLed light color =>
    rw [hc] at hstep
    obtain ⟨rfl, rfl⟩ := Prod.mk.inj (Option.some.inj hstep)
    exact ⟨h.stored, (fun _ _ _ heq => nomatch heq), h.writing, h.written, h.overrun⟩
  | signaling light color =>
    rw [hc] at hstep
    obtain ⟨rfl, rfl⟩ := Prod.mk.inj (Option.some.inj hstep)
    refine ⟨h.stored, fun l c r heq => ?_, h.writing, h.written, h.overrun⟩
    cases color <;> cases heq
  | broadcasting =>
    rw [hc] at hstep
    obtain ⟨rfl, rfl⟩ := Prod.mk.inj (Option.some.inj hstep)
    refine ⟨h.stored, (fun _ _ _ heq => nomatch heq), fun color field value hw => ?_, h.written,
      h.overrun⟩
    have hwoken : (s.worker color).woken = .writing field value := hw
    rcases woken_cases (s.worker color) with ⟨_, heq⟩ | ⟨_, heq⟩
    · cases heq.symm.trans hwoken
    · exact h.writing color field value (heq.symm.trans hwoken)

theorem bounded_workerStep {color : LedColor} (h : s.Bounded)
    (hstep : s.workerStep color .ok = some t) : t.Bounded := by
  unfold workerStep at hstep
  cases hw : s.worker color with
  | testing =>
    rw [hw] at hstep
    refine Option.some.inj hstep ▸ h.goto color fun field value heq => ?_
    cases hset : s.signaled color with
    | false | true => rw [hset] at heq; cases heq
  | sleeping =>
    rw [hw] at hstep
    exact Option.some.inj hstep ▸ h.goto color fun _ _ heq => nomatch heq
  | waiting | arrived =>
    rw [hw] at hstep
    cases hstep
  | loadLed field =>
    rw [hw] at hstep
    have hgoto : (s.goto color (.loadField field (s.led color))).Bounded :=
      h.goto color fun _ _ heq => nomatch heq
    cases field with
    | color =>
      refine Option.some.inj hstep ▸ ?_
      exact ⟨hgoto.stored, hgoto.storing, hgoto.writing, hgoto.written, hgoto.overrun⟩
    | delayOn | delayOff => exact Option.some.inj hstep ▸ hgoto
  | loadField field led =>
    rw [hw] at hstep
    obtain ⟨light, rfl, rfl⟩ := Option.map_eq_some_iff.1 hstep
    refine h.goto color fun field' value heq => ?_
    cases heq
    exact (h.stored light).value color field
  | writing field value =>
    rw [hw] at hstep
    refine Option.some.inj hstep ▸ ?_
    refine (h.writeInt color field (h.writing color field value hw)).goto color fun _ _ heq => ?_
    by_cases hlast : field = .delayOff
    · rw [if_pos hlast] at heq
      cases heq
    · rw [if_neg hlast] at heq
      cases heq
  | arriving field =>
    rw [hw] at hstep
    refine Option.some.inj hstep ▸ ?_
    unfold arrive
    by_cases hall : ∀ other, other ≠ color → s.worker other = .arrived field
    · rw [if_pos hall]
      obtain ⟨next, hnext⟩ := afterBarrier_eq field
      exact ⟨h.stored, h.storing, (fun _ _ _ heq => nomatch hnext.symm.trans heq), h.written,
        h.overrun⟩
    · rw [if_neg hall]
      exact h.goto color fun _ _ heq => nomatch heq
  | clearing =>
    rw [hw] at hstep
    have hgoto : (s.goto color .testing).Bounded := h.goto color fun _ _ heq => nomatch heq
    refine Option.some.inj hstep ▸ ?_
    exact ⟨hgoto.stored, hgoto.storing, hgoto.writing, hgoto.written, hgoto.overrun⟩

/-- Flash times that fit stay the only ones on the way. -/
theorem bounded_step (h : s.Bounded) (hhanded : s.Handed i) (hstep : s.step i = some (t, o)) :
    t.Bounded := by
  replace hstep := (step_eq_some hstep).2
  cases i with
  | setLight lightId state =>
    unfold act at hstep
    cases hc : s.caller with
    | idle =>
      rw [hc] at hstep
      obtain ⟨rfl, rfl⟩ := Prod.mk.inj (Option.some.inj hstep)
      refine h.caller fun l c r heq => ?_
      cases heq
      exact hhanded
    | storing | resetting | handingLed | signaling | broadcasting =>
      rw [hc] at hstep
      cases hstep
  | caller file =>
    obtain ⟨rfl, _⟩ := hhanded
    exact bounded_callerStep h hstep
  | worker color file =>
    obtain ⟨rfl, _⟩ := hhanded
    obtain ⟨u, hu, heq⟩ := Option.map_eq_some_iff.1 hstep
    obtain ⟨rfl, rfl⟩ := Prod.mk.inj heq
    exact bounded_workerStep h hu
  | spurious color =>
    have hstep : (if s.worker color = .waiting then some (s.goto color .testing, none) else none) =
      some (t, o) := hstep
    by_cases hwait : s.worker color = .waiting
    · rw [if_pos hwait] at hstep
      obtain ⟨rfl, rfl⟩ := Prod.mk.inj (Option.some.inj hstep)
      exact h.goto color fun _ _ heq => nomatch heq
    · rw [if_neg hwait] at hstep
      cases hstep

theorem bounded_of_run {files : LedColor → LedField → List UInt8}
    {es : List (LedsInput × LedsOutput)}
    (hrun : Lib.Run (Lib.restrict Handed step) (init files) es s) : s.Bounded := by
  induction hrun with
  | nil => exact bounded_init files
  | snoc _ hs ih =>
    obtain ⟨hhanded, hstep⟩ := Lib.restrict_eq_some.1 hs
    exact bounded_step ih hhanded hstep

/-! ### When all is quiet -/

/-- All is quiet: no call is running, and all workers wait. -/
def Quiet (s : Leds) : Prop := s.caller = .idle ∧ ∀ color, s.worker color = .waiting

/-- When no request is lost on the way, the files show the last one once all is quiet, and
`write_int` never writes past its buffer. -/
theorem workers_show_last {files : LedColor → LedField → List UInt8}
    {es : List (LedsInput × LedsOutput)}
    (hrun : Lib.Run (Lib.restrict Handed step) (init files) es s) :
    s.overrun = false ∧ ∀ w, s.Quiet → lastRequest es = some w →
      ∀ color field, s.files color field = shows w color field := by
  have hinv := inv_of_run hrun
  have hbounded := bounded_of_run hrun
  refine ⟨hbounded.overrun, fun w hquiet hlast color field => ?_⟩
  have hfits : shownNumber w color field < 10000000 := by
    cases w with
    | none => exact show (0 : UInt32) < 10000000 by decide
    | some config => exact (hbounded.written config (hinv.last _ hlast).symm).value color field
  rw [hinv.files hquiet.1 hquiet.2 hlast color field]
  exact (printed_of_lt hfits).1

/-- A red battery light. -/
def redLight : LightState := ⟨0xFF0000, 0, 0, 0⟩

/-- A red battery light that flashes. -/
def flashingLight : LightState := ⟨0xFF0000, 1, 500, 9999999⟩

/-- A light is set, and its configuration handed to the workers. -/
def request (state : LightState) : List LedsInput :=
  .setLight .battery state :: List.replicate 11 (.caller .ok)

/-- Every worker takes this many steps. -/
def allWork (n : ℕ) : List LedsInput :=
  [LedColor.red, .green, .blue].flatMap fun color => List.replicate n (.worker color .ok)

/-- The workers sleep, are woken by a request, and sleep again. -/
def wokenOnce : List LedsInput :=
  allWork 2 ++ request flashingLight ++ allWork 5 ++ allWork 4 ++ allWork 6

theorem wokenOnce_quiet : ∃ es s, Lib.exec (Lib.restrict Handed step) (init fun _ _ => [0x37])
    wokenOnce = some (es, s) ∧ s.Quiet ∧ lastRequest es = some (some ⟨0xFF0000, 500, 9999999⟩) := by
  refine ⟨_, _, rfl, ?_, rfl⟩
  exact ⟨rfl, fun color => by cases color <;> rfl⟩

theorem wokenOnce_shown : ∃ es s, Lib.exec (Lib.restrict Handed step) (init fun _ _ => [0x37])
    wokenOnce = some (es, s) ∧ s.Quiet ∧ lastRequest es = some (some ⟨0xFF0000, 500, 9999999⟩) ∧
      s.overrun = false ∧
        ∀ color field, s.files color field = shows (some ⟨0xFF0000, 500, 9999999⟩) color field := by
  obtain ⟨es, s, hexec, hquiet, hlast⟩ := wokenOnce_quiet
  obtain ⟨hfits, hshows⟩ := workers_show_last (Lib.run_of_exec hexec)
  exact ⟨es, s, hexec, hquiet, hlast, hfits, hshows _ hquiet hlast⟩

/-- The broadcast comes while the workers have read their flags and do not wait yet. -/
def wokenTooSoon : List LedsInput :=
  allWork 1 ++ request redLight ++ allWork 1

/-- The request is lost: all is quiet, and the LED is dark. -/
theorem wokenTooSoon_lost : ∃ es s, Lib.Run step (init fun _ _ => [0x30]) es s ∧ s.Quiet ∧
    lastRequest es = some (some ⟨0xFF0000, 0, 0⟩) ∧
      s.files .red .color ≠ shows (some ⟨0xFF0000, 0, 0⟩) .red .color := by
  refine ⟨_, _, Lib.run_of_exec (l := wokenTooSoon) rfl, ⟨rfl, fun color => ?_⟩, rfl, by decide⟩
  cases color <;> rfl

end Leds

end AliceHal.Lights
