import AliceHal.Lib.Machine
import AliceHal.Sensors.Commands
import AliceHal.Sensors.Numbering

/-!
# Batching for Old Devices

For a device without `batch` the multi-HAL keeps the last request made while the sensor was disabled,
and passes its period on when the sensor is enabled. The request is saved by the global handle less
one, through a function whose parameters are 32-bit numbers.

- `command_frame`: a command changes the saved data of its own sensor only
- `Deferral`: what is to be remembered of a sensor, and the delays to be passed on
- `deferred_iff`: the periods arrive as they were given exactly when those that were saved are 32-bit
  numbers
- `refused_iff`: of the commands on an unknown handle, `setDelay` and `flush` are refused
-/

namespace AliceHal.Sensors

variable {δ : Type*}

namespace SensorsContext

variable (c : SensorsContext) (reply : SubCall δ → ℤ)

/-! ## What a command reads and changes -/

/-- The indices at which a command accesses `sensors_enable_state` and `sensors_batch_list`. -/
def accessed (handle : ℤ) : Command → List ℤ
  | .activate _ | .batch _ _ _ =>
    if c.halIsAPILevelCompliant handle sensorsDeviceApiVersion11 then [] else [handle - 1]
  | .setDelay _ | .flush => []

theorem eq_of_mem_accessed {handle i : ℤ} {command : Command}
    (hi : i ∈ c.accessed handle command) : i = handle - 1 := by
  cases command with
  | setDelay ns => exact absurd hi List.not_mem_nil
  | flush => exact absurd hi List.not_mem_nil
  | activate enabled =>
    simp only [accessed] at hi
    split at hi
    · exact absurd hi List.not_mem_nil
    · exact List.mem_singleton.1 hi
  | batch flags periodNs timeout =>
    simp only [accessed] at hi
    split at hi
    · exact absurd hi List.not_mem_nil
    · exact List.mem_singleton.1 hi

/-- Outside these indices nothing is changed. -/
theorem command_frame (s : BatchState) (handle : ℤ) (command : Command) {i : ℤ}
    (hi : i ∉ c.accessed handle command) :
    (c.command reply s handle command).1.enabled i = s.enabled i ∧
      (c.command reply s handle command).1.batch i = s.batch i := by
  cases command with
  | setDelay ns => exact ⟨rfl, rfl⟩
  | flush => exact ⟨rfl, rfl⟩
  | activate enabled =>
    simp only [accessed] at hi
    simp only [SensorsContext.command, deviceActivate]
    split
    · exact ⟨rfl, rfl⟩
    · rename_i hold
      rw [if_neg hold, List.mem_singleton] at hi
      split <;> simp [Function.update_of_ne hi]
  | batch flags periodNs timeout =>
    simp only [accessed] at hi
    simp only [SensorsContext.command, deviceBatch]
    split
    · exact ⟨rfl, rfl⟩
    · rename_i hold
      rw [if_neg hold, List.mem_singleton] at hi
      split <;> simp [Function.update_of_ne hi]

/-! ## Old devices -/

/-- The handle is that of a sensor of an old device. -/
def Legacy (g : ℤ) : Prop :=
  ∃ l device version, c.target g = some (l, device, version) ∧ version < sensorsDeviceApiVersion11

variable {c reply} {g l version : ℤ} {device : ℕ}

/-- The target of a handle determines the device taken for the version. -/
theorem getDeviceByHandle_of_target (h : c.target g = some (l, device, version)) :
    c.getDeviceByHandle g = some (device, version) := by
  simp only [target] at h
  split at h
  · obtain ⟨d, hd, heq⟩ := Option.map_eq_some_iff.1 h
    rw [hd]
    cases heq
    rfl
  · cases h

theorem compliant_eq_false (h : c.target g = some (l, device, version))
    (hold : version < sensorsDeviceApiVersion11) :
    c.halIsAPILevelCompliant g sensorsDeviceApiVersion11 = false := by
  simp [halIsAPILevelCompliant, getDeviceVersionByHandle, getDeviceByHandle_of_target h, hold]

theorem setDelay_of_target (h : c.target g = some (l, device, version)) (ns : ℤ) :
    c.setDelay reply g ns = call reply (.setDelay device l ns) := by
  simp [setDelay, h]

theorem activate_of_target (h : c.target g = some (l, device, version)) (enabled : ℤ) :
    c.activate reply g enabled = call reply (.activate device l enabled) := by
  simp [activate, h]

end SensorsContext

/-! ## Deferred requests -/

/-- A call of the framework on a sensor, with what the sub-HALs return. -/
structure FrameworkCall (δ : Type*) where
  handle : ℤ
  command : SensorsContext.Command
  reply : SubCall δ → ℤ

/-- The calls made so far, with their answers. -/
abbrev CallHistory (δ : Type*) := List (FrameworkCall δ × Answer δ)

/-- What is to be remembered of a sensor: the last activation, and the period of the last request made
while it was disabled, until it is enabled. -/
structure Deferral where
  enabled : Bool
  pending : Option ℤ

namespace Deferral

def start : Deferral := ⟨false, none⟩

/-- After one more call. -/
def next (d : Deferral) : SensorsContext.Command → Deferral
  | .activate enabled => if enabled = 0 then { d with enabled := false } else ⟨true, none⟩
  | .batch _ periodNs _ => if d.enabled then d else { d with pending := some periodNs }
  | .setDelay _ | .flush => d

/-- The delays to be passed on. -/
def delays (d : Deferral) : SensorsContext.Command → List ℤ
  | .activate enabled => if enabled = 0 then [] else d.pending.toList
  | .batch _ periodNs _ => if d.enabled then [periodNs] else []
  | .setDelay ns => [ns]
  | .flush => []

/-- The calls that the sub-HAL is to receive: the activation, and the delays. -/
def calls (delays : List ℤ) (device : ℕ) (l : ℤ) (command : SensorsContext.Command) :
    List (SubCall δ) :=
  let activation :=
    match command with
    | .activate enabled => [.activate device l enabled]
    | _ => []
  activation ++ delays.map fun ns => .setDelay device l ns

end Deferral

/-- What is to be remembered of the sensor `g` after these calls. -/
def deferral (g : ℤ) (es : CallHistory δ) : Deferral :=
  es.foldl (fun d e => if e.1.handle = g then d.next e.1.command else d) .start

theorem deferral_concat (g : ℤ) (es : CallHistory δ) (e : FrameworkCall δ × Answer δ) :
    deferral g (es ++ [e]) =
      if e.1.handle = g then (deferral g es).next e.1.command else deferral g es := by
  simp [deferral]

namespace SensorsContext

variable (c : SensorsContext)

/-- Calls on handles that have a device, one after the other. -/
def callStep (s : BatchState) (x : FrameworkCall δ) : Option (BatchState × Answer δ) :=
  if (c.target x.handle).isSome then some (c.command x.reply s x.handle x.command) else none

/-- Every call on a sensor of an old device leads to the calls of the sub-HAL that it should. -/
def Deferred (es : CallHistory δ) : Prop :=
  ∀ es₁ x o es₂, es = es₁ ++ (x, o) :: es₂ →
    ∀ l device version, c.target x.handle = some (l, device, version) →
      version < sensorsDeviceApiVersion11 →
        o.1 = Deferral.calls ((deferral x.handle es₁).delays x.command) device l x.command

/-- Every period that was saved and is passed on is a 32-bit number. -/
def PeriodsFit (es : CallHistory δ) : Prop :=
  ∀ es₁ x o es₂, es = es₁ ++ (x, o) :: es₂ → c.Legacy x.handle →
    ∀ enabled, x.command = .activate enabled → enabled ≠ 0 →
      ∀ p ∈ (deferral x.handle es₁).pending, -2 ^ 31 ≤ p ∧ p < 2 ^ 31

/-- The arrays as `lazy_init_sensors_list` allocates them. -/
def Blank (s : BatchState) : Prop := ∀ i, s.enabled i = 0 ∧ (s.batch i).empty = true

/-- The entry of a sensor is what is to be remembered of it, with the period as it was saved. -/
structure Saved (d : Deferral) (enabled : ℤ) (batch : BatchData) : Prop where
  enabled : enabled ≠ 0 ↔ d.enabled = true
  empty : batch.empty = d.pending.isNone
  period : ∀ p ∈ d.pending, batch.periodNs = p.bmod (2 ^ 32)

/-- All entries of old devices are. -/
def AllSaved (es : CallHistory δ) (s : BatchState) : Prop :=
  ∀ g, c.Legacy g → Saved (deferral g es) (s.enabled (g - 1)) (s.batch (g - 1))

variable {c} {s : BatchState} {reply : SubCall δ → ℤ} {g l version : ℤ} {device : ℕ} {d : Deferral}

/-- One call on a sensor of an old device: its entry is kept up to date, and the saved period is passed
on as it is. -/
theorem Saved.command (h : Saved d (s.enabled (g - 1)) (s.batch (g - 1)))
    (htarget : c.target g = some (l, device, version))
    (hold : version < sensorsDeviceApiVersion11) (reply : SubCall δ → ℤ) (command : Command) :
    Saved (d.next command) ((c.command reply s g command).1.enabled (g - 1))
        ((c.command reply s g command).1.batch (g - 1)) ∧
      (c.command reply s g command).2.1 = Deferral.calls
        (match command with
          | .activate enabled =>
            if enabled = 0 then [] else (d.pending.map fun p => p.bmod (2 ^ 32)).toList
          | command => d.delays command) device l command := by
  have hlevel := compliant_eq_false htarget hold
  cases command with
  | activate enabled =>
    simp only [SensorsContext.command, deviceActivate, hlevel, activate_of_target htarget,
      setDelay_of_target htarget, Bool.false_eq_true, if_false]
    by_cases henabled : enabled = 0
    · -- the sensor is disabled, a saved request stays
      rw [if_neg fun hboth => hboth.1 henabled]
      subst henabled
      refine ⟨⟨by simp [Deferral.next], ?_, ?_⟩, rfl⟩
      · simpa [Deferral.next] using h.empty
      · simpa [Deferral.next] using h.period
    · have hempty := h.empty
      cases hpending : d.pending with
      | none =>
        rw [hpending] at hempty
        rw [if_neg fun hboth => by simp [hempty] at hboth]
        refine ⟨⟨by simp [Deferral.next, henabled], ?_, ?_⟩, ?_⟩
        · simpa [Deferral.next, henabled] using hempty
        · simp [Deferral.next, henabled]
        · simp [Deferral.calls, call, henabled]
      | some p =>
        -- the saved period is used up
        rw [hpending] at hempty
        have hperiod := h.period p (by rw [hpending]; rfl)
        rw [if_pos ⟨henabled, hempty⟩]
        refine ⟨⟨by simp [Deferral.next, henabled], ?_, ?_⟩, ?_⟩
        · simp [Deferral.next, henabled]
        · simp [Deferral.next, henabled]
        · simp [Deferral.calls, call, henabled, hperiod]
  | setDelay ns =>
    simp only [SensorsContext.command, setDelay_of_target htarget]
    exact ⟨h, rfl⟩
  | batch flags periodNs timeout =>
    simp only [SensorsContext.command, deviceBatch, hlevel, setDelay_of_target htarget,
      Bool.false_eq_true, if_false]
    by_cases henabled : s.enabled (g - 1) = 0
    · have hoff : d.enabled = false := by
        by_contra hon
        exact h.enabled.2 (Bool.not_eq_false _ ▸ hon) henabled
      rw [if_pos henabled]
      refine ⟨⟨by simp [Deferral.next, hoff, henabled], ?_, ?_⟩, ?_⟩
      · simp [Deferral.next, hoff]
      · simp [Deferral.next, hoff]
      · simp [Deferral.calls, Deferral.delays, hoff]
    · have hon : d.enabled = true := h.enabled.1 henabled
      rw [if_neg henabled]
      refine ⟨by simpa [Deferral.next, hon] using h, ?_⟩
      simp [Deferral.calls, Deferral.delays, hon, call]
  | flush =>
    simp only [SensorsContext.command, flush, htarget, hlevel, Bool.false_eq_true, if_false]
    exact ⟨h, rfl⟩

theorem bmod_eq_self_iff (p : ℤ) : p.bmod (2 ^ 32) = p ↔ -2 ^ 31 ≤ p ∧ p < 2 ^ 31 := by
  rw [Int.bmod_eq_iff (by decide)]
  simp

theorem calls_inj {delays delays' : List ℤ} {device : ℕ} {l : ℤ} {command : Command} :
    (Deferral.calls delays device l command : List (SubCall δ)) =
      Deferral.calls delays' device l command ↔ delays = delays' := by
  have hinj : Function.Injective fun ns => (SubCall.setDelay device l ns : SubCall δ) := by
    intro a b hab
    exact (SubCall.setDelay.inj hab).2.2
  simp only [Deferral.calls, List.append_cancel_left_eq]
  exact (List.map_injective_iff.2 hinj).eq_iff

/-- The calls are those that should be made exactly when the period that is passed on fits. -/
theorem Saved.calls_eq_iff (h : Saved d (s.enabled (g - 1)) (s.batch (g - 1)))
    (htarget : c.target g = some (l, device, version))
    (hold : version < sensorsDeviceApiVersion11) (command : Command) :
    (c.command reply s g command).2.1 = Deferral.calls (d.delays command) device l command ↔
      ∀ enabled, command = .activate enabled → enabled ≠ 0 →
        ∀ p ∈ d.pending, -2 ^ 31 ≤ p ∧ p < 2 ^ 31 := by
  rw [(h.command htarget hold reply command).2, calls_inj]
  cases command with
  | activate enabled =>
    simp only [Deferral.delays, Command.activate.injEq, forall_eq']
    by_cases henabled : enabled = 0
    · simp [henabled]
    · cases hpending : d.pending with
      | none => simp
      | some p => simpa [henabled] using bmod_eq_self_iff p
  | setDelay ns => simp
  | batch flags periodNs timeout => simp
  | flush => simp

/-! ### Runs -/

theorem Blank.allSaved (h : Blank s) : c.AllSaved ([] : CallHistory δ) s := by
  intro g _
  obtain ⟨henabled, hempty⟩ := h (g - 1)
  exact ⟨by simp [deferral, Deferral.start, henabled], hempty, by simp [deferral, Deferral.start]⟩

theorem callStep_cases {x : FrameworkCall δ} {u : BatchState} {o : Answer δ}
    (h : c.callStep s x = some (u, o)) :
    (c.target x.handle).isSome ∧ c.command x.reply s x.handle x.command = (u, o) := by
  simp only [callStep] at h
  split at h
  · rename_i hsome
    exact ⟨hsome, Option.some.inj h⟩
  · cases h

/-- Every call keeps all entries up to date: its own entry, where there is one, and all others by the
frame. -/
theorem AllSaved.step {es : CallHistory δ} {x : FrameworkCall δ} {u : BatchState} {o : Answer δ}
    (h : c.AllSaved es s) (hstep : c.callStep s x = some (u, o)) :
    c.AllSaved (es ++ [(x, o)]) u := by
  obtain ⟨hsome, hcommand⟩ := callStep_cases hstep
  intro g hg
  rw [deferral_concat]
  by_cases hsame : x.handle = g
  · rw [if_pos hsame]
    obtain ⟨l, device, version, htarget, hold⟩ := hg
    have hkept := (h g ⟨l, device, version, htarget, hold⟩).command htarget hold x.reply
      x.command
    rw [← hsame] at hkept ⊢
    rw [hcommand] at hkept
    exact hkept.1
  · rw [if_neg hsame]
    have hout : g - 1 ∉ c.accessed x.handle x.command := by
      intro hmem
      have heq := c.eq_of_mem_accessed hmem
      omega
    obtain ⟨henabled, hbatch⟩ := c.command_frame x.reply s x.handle x.command hout
    rw [hcommand] at henabled hbatch
    rw [henabled, hbatch]
    exact h g hg

theorem AllSaved.run {s₀ t : BatchState} {es : CallHistory δ} (h0 : Blank s₀)
    (hrun : Lib.Run c.callStep s₀ es t) : c.AllSaved es t := by
  induction hrun with
  | nil => exact h0.allSaved
  | snoc _ hs ih => exact ih.step hs

/-- What holds before each call of a run, and the call. -/
theorem allSaved_before {s₀ t : BatchState} {es₁ es₂ : CallHistory δ} {x : FrameworkCall δ}
    {o : Answer δ} (h0 : Blank s₀) (hrun : Lib.Run c.callStep s₀ (es₁ ++ (x, o) :: es₂) t) :
    ∃ s, c.AllSaved es₁ s ∧ (c.command x.reply s x.handle x.command).2 = o := by
  obtain ⟨s, hs, hrest⟩ := hrun.split
  obtain ⟨u, hu, -⟩ := hrest.first
  have hcommand := (callStep_cases hu).2
  exact ⟨s, .run h0 hs, by rw [hcommand]⟩

/-- In every run the sub-HALs of old devices receive the right delays exactly when every period that is
saved and passed on is a 32-bit number. -/
theorem deferred_iff {s₀ t : BatchState} {es : CallHistory δ} (h0 : Blank s₀)
    (hrun : Lib.Run c.callStep s₀ es t) : c.Deferred es ↔ c.PeriodsFit es := by
  constructor
  · intro h es₁ x o es₂ hes hlegacy
    obtain ⟨l, device, version, htarget, hold⟩ := hlegacy
    rw [hes] at hrun
    obtain ⟨s, hsaved, rfl⟩ := allSaved_before h0 hrun
    have hcalls := h es₁ x _ es₂ hes l device version htarget hold
    exact ((hsaved _ ⟨l, device, version, htarget, hold⟩).calls_eq_iff htarget hold _).1 hcalls
  · intro h es₁ x o es₂ hes l device version htarget hold
    rw [hes] at hrun
    obtain ⟨s, hsaved, rfl⟩ := allSaved_before h0 hrun
    have hfit := h es₁ x _ es₂ hes ⟨l, device, version, htarget, hold⟩
    exact ((hsaved _ ⟨l, device, version, htarget, hold⟩).calls_eq_iff htarget hold _).2 hfit

/-- A period that is remembered is that of a request. -/
theorem exists_batch_of_pending {es : CallHistory δ} {p : ℤ} (hp : p ∈ (deferral g es).pending) :
    ∃ e ∈ es, ∃ flags timeout, e.1.command = .batch flags p timeout := by
  induction es using List.reverseRecOn with
  | nil => simp [deferral, Deferral.start] at hp
  | append_singleton es e ih =>
    rw [deferral_concat] at hp
    have hearlier : p ∈ (deferral g es).pending →
        ∃ e' ∈ es ++ [e], ∃ flags timeout, e'.1.command = .batch flags p timeout := by
      intro hmem
      obtain ⟨e', he', hbatch⟩ := ih hmem
      exact ⟨e', List.mem_append_left _ he', hbatch⟩
    split at hp
    · cases hcommand : e.1.command with
      | activate enabled =>
        rw [hcommand] at hp
        simp only [Deferral.next] at hp
        split at hp
        · exact hearlier hp
        · cases hp
      | setDelay ns =>
        rw [hcommand] at hp
        exact hearlier hp
      | batch flags periodNs timeout =>
        rw [hcommand] at hp
        simp only [Deferral.next] at hp
        split at hp
        · exact hearlier hp
        · cases hp
          exact ⟨e, List.mem_concat_self, flags, timeout, hcommand⟩
      | flush =>
        rw [hcommand] at hp
        exact hearlier hp
    · exact hearlier hp

/-- Where all requests have 32-bit periods, those that are passed on do. -/
theorem periodsFit_of_batch {es : CallHistory δ}
    (h : ∀ e ∈ es, ∀ flags p timeout, e.1.command = .batch flags p timeout →
      -2 ^ 31 ≤ p ∧ p < 2 ^ 31) : c.PeriodsFit es := by
  rintro es₁ x o es₂ rfl - enabled - - p hp
  obtain ⟨e, he, flags, timeout, hbatch⟩ := exists_batch_of_pending hp
  exact h e (List.mem_append_left _ he) flags p timeout hbatch

/-- A module with one sensor, whose device has the API version 1.0. -/
def oldSensor : List SubModule := [⟨[⟨7, 1, 0, 0, 0⟩], some 0x01000001⟩]

/-- The context of this module. -/
def oldContext : SensorsContext :=
  sensorsContext oldSensor
    ⟨(Handles.init.assign ⟨0, 7⟩).2, [⟨1, 1, 0, 0, 0⟩]⟩

/-- The arrays of one sensor. -/
def blank : BatchState := ⟨fun _ => 0, fun _ => ⟨true, 0, 0, 0, 0⟩⟩

/-- The sensor gets a request with this period and is enabled after it. -/
def batchedThenEnabled (periodNs : ℤ) : List (FrameworkCall Unit) :=
  [⟨1, .batch 0 periodNs 0, fun _ => 0⟩, ⟨1, .activate 1, fun _ => 0⟩]

/-- The context is the one after the list was built. -/
example : (lazyInitSensorsList oldSensor).map (sensorsContext oldSensor) = some oldContext := rfl

theorem oldContext_deferred : ∃ es t,
    Lib.exec oldContext.callStep blank (batchedThenEnabled 200000000) = some (es, t) ∧
      oldContext.Deferred es := by
  have hexec : ∃ es t,
      Lib.exec oldContext.callStep blank (batchedThenEnabled 200000000) = some (es, t) ∧
        es.map (fun e => e.1) = batchedThenEnabled 200000000 := ⟨_, _, rfl, rfl⟩
  obtain ⟨es, t, hexec, hes⟩ := hexec
  refine ⟨es, t, hexec, ?_⟩
  apply (deferred_iff (fun _ => ⟨rfl, rfl⟩) (Lib.run_of_exec hexec)).2
  apply periodsFit_of_batch
  intro e he flags p timeout hbatch
  have hmem : e.1 ∈ batchedThenEnabled 200000000 := by
    rw [← hes]
    exact List.mem_map_of_mem he
  rcases List.mem_cons.1 hmem with heq | hmem
  · rw [heq] at hbatch
    cases hbatch
    decide
  · rw [List.mem_singleton.1 hmem] at hbatch
    cases hbatch

/-- A period of more than two seconds arrives as a negative number. -/
theorem oldContext_notDeferred : ∃ (es : CallHistory Unit) (t : BatchState),
    Lib.Run oldContext.callStep blank es t ∧ ¬oldContext.Deferred es := by
  refine ⟨_, _, Lib.run_of_exec (l := batchedThenEnabled 2147483648) rfl, fun h => ?_⟩
  have hcalls := h [_] _ _ [] rfl 7 0 _ rfl (by decide)
  have hdelay := (SubCall.setDelay.inj (List.cons.inj (List.cons.inj hcalls).2).1).2.2
  exact absurd hdelay (by decide)

end SensorsContext

/-! ## Unknown handles -/

namespace SensorsContext

variable {modules : List SubModule} {r : SensorsList}

/-- The command is refused: it returns an error, no sub-HAL is called, the saved data stays as it is
and is accessed within its bounds. -/
structure Refused (modules : List SubModule) (r : SensorsList) (reply : SubCall δ → ℤ)
    (s : BatchState) (g : ℤ) (command : Command) : Prop where
  error : ((sensorsContext modules r).command reply s g command).2.2 ≠ 0
  calls : ((sensorsContext modules r).command reply s g command).2.1 = []
  unchanged : ((sensorsContext modules r).command reply s g command).1 = s
  inside : ∀ i ∈ (sensorsContext modules r).accessed g command,
    0 ≤ i ∧ i < globalSensorsCount modules

/-- The commands that only go to the sub-HAL. -/
def Command.forwards : Command → Prop
  | .setDelay _ | .flush => True
  | .activate _ | .batch _ _ _ => False

/-- An unknown handle has no device. -/
theorem getDeviceByHandle_of_unknown {g : ℤ} (hg : r.handles.globalToFull g = none) :
    (sensorsContext modules r).getDeviceByHandle g = none := by
  simp [getDeviceByHandle, sensorsContext, Handles.getModuleIndex, hg]

theorem target_of_unknown {g : ℤ} (hg : r.handles.globalToFull g = none) :
    (sensorsContext modules r).target g = none := by
  simp [target, getDeviceByHandle_of_unknown hg]

/-- It looks like the handle of an old device, and its index is outside of the arrays. -/
theorem accessed_of_unknown (hr : lazyInitSensorsList modules = some r) {g : ℤ}
    (hg : r.handles.globalToFull g = none) {command : Command} (hcommand : ¬command.forwards) :
    ∃ i ∈ (sensorsContext modules r).accessed g command,
      ¬(0 ≤ i ∧ i < globalSensorsCount modules) := by
  have hlevel : (sensorsContext modules r).halIsAPILevelCompliant g sensorsDeviceApiVersion11 =
      false := by
    simp [halIsAPILevelCompliant, getDeviceVersionByHandle, getDeviceByHandle_of_unknown hg]
  refine ⟨g - 1, ?_, ?_⟩
  · cases command with
    | activate enabled => simp [accessed, hlevel]
    | batch flags periodNs timeout => simp [accessed, hlevel]
    | setDelay ns => exact absurd trivial hcommand
    | flush => exact absurd trivial hcommand
  · -- the handles from 1 to the count are all assigned
    rintro ⟨hlow, hhigh⟩
    have ha := assigned_of_lazyInit hr
    obtain ⟨n, hn⟩ := Int.eq_ofNat_of_zero_le hlow
    have hlt : n < (fullHandles 0 modules).length := by
      rw [length_fullHandles]
      omega
    have hfull := (ha.full g _).2 ⟨n, by omega, List.getElem?_eq_getElem hlt⟩
    rw [hg] at hfull
    cases hfull

/-- On an unknown handle exactly `setDelay` and `flush` are refused: the two others go on as for an old
device, at an index outside of the arrays. -/
theorem refused_iff (hr : lazyInitSensorsList modules = some r) {g : ℤ}
    (hg : r.handles.globalToFull g = none) (reply : SubCall δ → ℤ) (s : BatchState)
    (command : Command) : Refused modules r reply s g command ↔ command.forwards := by
  constructor
  · intro h
    by_contra hcommand
    obtain ⟨i, hi, hout⟩ := accessed_of_unknown hr hg hcommand
    exact hout (h.inside i hi)
  · intro h
    have htarget : (sensorsContext modules r).target g = none := target_of_unknown hg
    cases command with
    | activate enabled => exact absurd h id
    | batch flags periodNs timeout => exact absurd h id
    | setDelay ns =>
      have hcommand : (sensorsContext modules r).command reply s g (.setDelay ns) =
          (s, ([], -eInval)) := by
        simp [SensorsContext.command, setDelay, htarget]
      refine ⟨?_, ?_, ?_, fun i hi => absurd hi List.not_mem_nil⟩ <;> rw [hcommand]
      exact (by decide : -eInval ≠ 0)
    | flush =>
      have hcommand : (sensorsContext modules r).command reply s g .flush = (s, ([], -eInval)) := by
        simp [SensorsContext.command, flush, htarget]
      refine ⟨?_, ?_, ?_, fun i hi => absurd hi List.not_mem_nil⟩ <;> rw [hcommand]
      exact (by decide : -eInval ≠ 0)

/-- The handle 0 with one sensor. -/
theorem oldSensor_refused : ∃ r, lazyInitSensorsList oldSensor = some r ∧
    Refused oldSensor r (fun _ : SubCall Unit => 0) blank 0 .flush :=
  ⟨_, rfl, (refused_iff rfl rfl _ _ _).2 trivial⟩

/-- An activation of the handle 0 writes before the array. -/
theorem oldSensor_notRefused : ∃ r, lazyInitSensorsList oldSensor = some r ∧
    r.handles.globalToFull 0 = none ∧
      ¬Refused oldSensor r (fun _ : SubCall Unit => 0) blank 0 (.activate 1) := by
  refine ⟨_, rfl, rfl, fun h => ?_⟩
  exact absurd (h.inside (-1) List.mem_cons_self).1 (by decide)

end SensorsContext

end AliceHal.Sensors
