import AliceHal.Lib.Machine

/-!
# The Colour Calibration of the Display

`setCalibration` limits the three given values in an array of unsigned words, passes the array to
the display driver and remembers the given values; `getCalibration` answers what is remembered.

- `DisplayColorCalibration.setCalibration`: one call, with what `open` and `ioctl` answer
- `limit_eq_clamp_iff`: the limited word is the clamped value for the values that are not negative
- `InForce`: what is reported is what was sent, and what is sent is clamped
- `inForce_iff`: it is so in exactly the runs in which no negative value reaches the driver and only
  values from 1 to 256 are set
-/

namespace AliceHal.Livedisplay

/-! ## The service -/

/-- The static member of the class. -/
structure DisplayColorCalibration where
  sCurColors : Vector Int32 3
  deriving DecidableEq

/-- A call of `setCalibration`: the values, what `open` answers, what `ioctl` answers. -/
structure Request where
  rgb : Vector Int32 3
  fd : Int32
  ret : Int32
  deriving DecidableEq

/-- What a call of `setCalibration` answers, and the array that it passes to `ioctl`. -/
structure Outcome where
  answer : Bool
  sent : Option (Vector UInt32 9)
  deriving DecidableEq

namespace DisplayColorCalibration

def init : DisplayColorCalibration := ⟨#v[256, 256, 256]⟩

def getMaxValue : Int32 := 256

def getMinValue : Int32 := 1

def getCalibration (s : DisplayColorCalibration) : Vector Int32 3 := s.sCurColors

/-- `ctValue`, with the values at every fourth place. -/
def ctValue (rgb : Vector Int32 3) : Vector UInt32 9 :=
  #v[rgb[0].toUInt32, 0, 0, 0, rgb[1].toUInt32, 0, 0, 0, rgb[2].toUInt32]

/-- The body of the loop for one word: the comparisons are those of unsigned words. -/
def limit (v : UInt32) : UInt32 :=
  if 256 < v then 256
  else if v < 1 then 1
  else v

/-- The loop over every fourth word. -/
def limited (ct : Vector UInt32 9) : Vector UInt32 9 :=
  ([0, 4, 8] : List (Fin 9)).foldl (fun ct i => ct.set i.val (limit ct[i])) ct

/-- `DisplayColorCalibration::setCalibration`. -/
def setCalibration (s : DisplayColorCalibration) (r : Request) :
    DisplayColorCalibration × Outcome :=
  if r.fd < 0 then (s, ⟨false, none⟩)
  else if r.ret < 0 then (s, ⟨false, some (limited (ctValue r.rgb))⟩)
  else
    -- the values as they were given, not those of the array
    (⟨r.rgb⟩, ⟨true, some (limited (ctValue r.rgb))⟩)

/-- Calls one after the other. -/
def step (s : DisplayColorCalibration) (r : Request) :
    Option (DisplayColorCalibration × Outcome) :=
  some (s.setCalibration r)

end DisplayColorCalibration

open DisplayColorCalibration Lib

/-! ## What the service promises -/

/-- A value within the limits of the service. -/
def clamp (v : Int32) : ℤ := max getMinValue.toInt (min getMaxValue.toInt v.toInt)

/-- The three values of an array, as the driver reads them. -/
def components (ct : Vector UInt32 9) : Vector ℤ 3 := #v[ct[0].toNat, ct[4].toNat, ct[8].toNat]

/-- The three values sent last with success. -/
def lastSent (es : List (Request × Outcome)) : Vector ℤ 3 :=
  es.foldl (fun last e => if e.2.answer then e.2.sent.elim last components else last)
    #v[256, 256, 256]

/-- The calibration reported is the one in force, after every part of a run. -/
structure InForce (es : List (Request × Outcome)) : Prop where
  reported : ∀ es₁ es₂ t, es = es₁ ++ es₂ → Run step init es₁ t →
    t.getCalibration.map Int32.toInt = lastSent es₁
  clamped : ∀ e ∈ es, ∀ ct, e.2.sent = some ct → components ct = e.1.rgb.map clamp
  unchanged : ∀ es₁ e es₂ t u, es = es₁ ++ e :: es₂ → Run step init es₁ t →
    step t e.1 = some (u, e.2) → e.2.answer = false → u.getCalibration = t.getCalibration

/-- No negative value reaches the driver, and what is set lies between the limits. -/
structure Request.WithinLimits (r : Request) : Prop where
  nonneg : 0 ≤ r.fd → ∀ v ∈ r.rgb, 0 ≤ v
  within : 0 ≤ r.fd → 0 ≤ r.ret → ∀ v ∈ r.rgb, getMinValue ≤ v ∧ v ≤ getMaxValue

/-! ## The limited words -/

theorem limited_ctValue (rgb : Vector Int32 3) :
    limited (ctValue rgb) =
      #v[limit rgb[0].toUInt32, 0, 0, 0, limit rgb[1].toUInt32, 0, 0, 0, limit rgb[2].toUInt32] :=
  rfl

theorem components_limited (rgb : Vector Int32 3) :
    components (limited (ctValue rgb)) =
      rgb.map fun v => ((limit v.toUInt32).toNat : ℤ) := by
  rw [limited_ctValue]
  ext i hi
  simp only [components, Vector.getElem_map]
  interval_cases i <;> rfl

/-- Seen as an unsigned word, a negative value is larger than the maximum. -/
theorem limit_toUInt32 (v : Int32) :
    ((limit v.toUInt32).toNat : ℤ) = if v.toInt < 0 then 256 else max 1 (min 256 v.toInt) := by
  have hword : v.toInt =
      if 2 * v.toUInt32.toNat < 2 ^ 32 then (v.toUInt32.toNat : ℤ)
      else (v.toUInt32.toNat : ℤ) - (2 ^ 32 : ℕ) :=
    BitVec.toInt_eq_toNat_cond v.toBitVec
  have hrange := v.toUInt32.toNat_lt
  have hthree : (256 : UInt32).toNat = 256 ∧ (1 : UInt32).toNat = 1 := by decide
  simp only [limit, UInt32.lt_iff_toNat_lt, hthree]
  -- above the maximum, below the minimum, between them
  split_ifs at hword ⊢ <;> omega

theorem getMinValue_le_iff (v : Int32) : getMinValue ≤ v ↔ 1 ≤ v.toInt :=
  Int32.le_iff_toInt_le

theorem le_getMaxValue_iff (v : Int32) : v ≤ getMaxValue ↔ v.toInt ≤ 256 :=
  Int32.le_iff_toInt_le

/-- The loop clamps exactly the values that are not negative. -/
theorem limit_eq_clamp_iff (v : Int32) : ((limit v.toUInt32).toNat : ℤ) = clamp v ↔ 0 ≤ v := by
  have hsign : 0 ≤ v ↔ 0 ≤ v.toInt := Int32.le_iff_toInt_le
  have hclamp : clamp v = max 1 (min 256 v.toInt) := rfl
  rw [limit_toUInt32, hclamp, hsign]
  split_ifs <;> omega

/-- The value itself is sent exactly when it lies between the limits. -/
theorem limit_eq_iff (v : Int32) :
    ((limit v.toUInt32).toNat : ℤ) = v.toInt ↔ getMinValue ≤ v ∧ v ≤ getMaxValue := by
  rw [limit_toUInt32, getMinValue_le_iff, le_getMaxValue_iff]
  split_ifs <;> omega

/-- A fact about each of the three values, from the equality of two triples. -/
theorem map_eq_map_iff {f g : Int32 → ℤ} (rgb : Vector Int32 3) :
    rgb.map f = rgb.map g ↔ ∀ v ∈ rgb, f v = g v :=
  Vector.map_inj_left

/-! ## Runs -/

theorem lastSent_concat (es : List (Request × Outcome)) (e : Request × Outcome) :
    lastSent (es ++ [e]) =
      if e.2.answer then e.2.sent.elim (lastSent es) components else lastSent es := by
  simp [lastSent]

/-- What a call does: it fails at `open`, it fails at the driver, or it succeeds. -/
theorem step_cases {s u : DisplayColorCalibration} {r : Request} {o : Outcome}
    (h : step s r = some (u, o)) :
    (r.fd < 0 ∧ u = s ∧ o = ⟨false, none⟩) ∨
      (0 ≤ r.fd ∧ r.ret < 0 ∧ u = s ∧ o = ⟨false, some (limited (ctValue r.rgb))⟩) ∨
      (0 ≤ r.fd ∧ 0 ≤ r.ret ∧ u = ⟨r.rgb⟩ ∧ o = ⟨true, some (limited (ctValue r.rgb))⟩) := by
  simp only [step, setCalibration, Option.some.injEq] at h
  by_cases hfd : r.fd < 0
  · rw [if_pos hfd] at h
    cases h
    exact .inl ⟨hfd, rfl, rfl⟩
  · rw [if_neg hfd] at h
    by_cases hret : r.ret < 0
    · rw [if_pos hret] at h
      cases h
      exact .inr (.inl ⟨Int32.not_lt.1 hfd, hret, rfl, rfl⟩)
    · rw [if_neg hret] at h
      cases h
      exact .inr (.inr ⟨Int32.not_lt.1 hfd, Int32.not_lt.1 hret, rfl, rfl⟩)

/-- A call within the limits sends the clamped values, and keeps the reported values those sent
last. -/
theorem reported_step {s u : DisplayColorCalibration} {r : Request} {o : Outcome}
    {es : List (Request × Outcome)} (hstep : step s r = some (u, o)) (hr : r.WithinLimits)
    (h : s.getCalibration.map Int32.toInt = lastSent es) :
    u.getCalibration.map Int32.toInt = lastSent (es ++ [(r, o)]) := by
  rw [lastSent_concat]
  rcases step_cases hstep with ⟨-, rfl, rfl⟩ | ⟨-, -, rfl, rfl⟩ | ⟨hfd, hret, rfl, rfl⟩
  · exact h
  · exact h
  · have hsent := components_limited r.rgb
    simp only [if_true, Option.elim_some, hsent, getCalibration]
    apply (map_eq_map_iff r.rgb).2
    intro v hv
    exact ((limit_eq_iff v).2 (hr.within hfd hret v hv)).symm

theorem clamped_step {s u : DisplayColorCalibration} {r : Request} {o : Outcome}
    (hstep : step s r = some (u, o)) :
    (∀ ct, o.sent = some ct → components ct = r.rgb.map clamp) ↔
      (0 ≤ r.fd → ∀ v ∈ r.rgb, 0 ≤ v) := by
  have hsent : components (limited (ctValue r.rgb)) = r.rgb.map clamp ↔ ∀ v ∈ r.rgb, 0 ≤ v := by
    rw [components_limited, map_eq_map_iff]
    exact forall₂_congr fun v _ => limit_eq_clamp_iff v
  rcases step_cases hstep with ⟨hfd, -, rfl⟩ | ⟨hfd, -, -, rfl⟩ | ⟨hfd, -, -, rfl⟩
  · constructor
    · intro _ hopen
      exact absurd hopen (Int32.not_le.2 hfd)
    · intro _ ct hct
      cases hct
  · simp [hfd, hsent]
  · simp [hfd, hsent]

theorem run_reported {es : List (Request × Outcome)} {t : DisplayColorCalibration}
    (hrun : Run step init es t) (hes : ∀ e ∈ es, e.1.WithinLimits) :
    t.getCalibration.map Int32.toInt = lastSent es := by
  induction hrun with
  | nil => simp [init, getCalibration, lastSent]
  | snoc hrun hs ih =>
    have hprev := ih fun e he => hes e (List.mem_append_left _ he)
    exact reported_step hs (hes _ List.mem_concat_self) hprev

/-- The call that made an entry of the history of a run. -/
theorem step_of_mem {es : List (Request × Outcome)} {t : DisplayColorCalibration}
    (hrun : Run step init es t) {e : Request × Outcome} (he : e ∈ es) :
    ∃ es₁ es₂ s u, es = es₁ ++ e :: es₂ ∧ Run step init es₁ s ∧ step s e.1 = some (u, e.2) := by
  obtain ⟨es₁, es₂, rfl⟩ := List.append_of_mem he
  obtain ⟨s, hs, hrest⟩ := hrun.split
  obtain ⟨u, hu, -⟩ := hrest.first
  exact ⟨es₁, es₂, s, u, rfl, hs, hu⟩

/-- The calibration reported is the one in force exactly when all calls keep within the limits. -/
theorem inForce_iff {es : List (Request × Outcome)} {t : DisplayColorCalibration}
    (hrun : Run step init es t) : InForce es ↔ ∀ e ∈ es, e.1.WithinLimits := by
  constructor
  · intro h e he
    obtain ⟨es₁, es₂, s, u, hes, hs, hu⟩ := step_of_mem hrun he
    have hclamped := (clamped_step hu).1 (h.clamped e he)
    refine ⟨hclamped, fun hfd hret v hv => ?_⟩
    -- after this call the values given are reported, and the limited ones were sent
    have hreported := h.reported (es₁ ++ [e]) es₂ u (by simp [hes]) (hs.snoc hu)
    rcases step_cases hu with ⟨hfd', -, -⟩ | ⟨-, hret', -, -⟩ | ⟨-, -, rfl, ho⟩
    · exact absurd hfd (Int32.not_le.2 hfd')
    · exact absurd hret (Int32.not_le.2 hret')
    · rw [lastSent_concat, ho] at hreported
      simp only [if_true, Option.elim_some, components_limited, getCalibration] at hreported
      exact (limit_eq_iff v).1 ((map_eq_map_iff e.1.rgb).1 hreported v hv).symm
  · intro h
    refine ⟨?_, ?_, ?_⟩
    · rintro es₁ es₂ s rfl hs
      exact run_reported hs fun e he => h e (List.mem_append_left _ he)
    · intro e he
      obtain ⟨_, _, s, u, -, -, hu⟩ := step_of_mem hrun he
      exact (clamped_step hu).2 (h e he).nonneg
    · intro es₁ e es₂ s u _ _ hu hanswer
      rcases step_cases hu with ⟨-, rfl, -⟩ | ⟨-, -, rfl, -⟩ | ⟨-, -, -, ho⟩
      · rfl
      · rfl
      · rw [ho] at hanswer
        cases hanswer

/-- The display cannot be opened, values between the limits are set, and the driver refuses others. -/
def threeCalls : List Request :=
  [⟨#v[-1, 100, 100], -1, 0⟩, ⟨#v[1, 128, 256], 3, 0⟩, ⟨#v[200, 300, 5], 3, -1⟩]

theorem inForce_threeCalls :
    ∃ es t, exec step init threeCalls = some (es, t) ∧
      es.map (fun e => e.2.answer) = [false, true, false] ∧ InForce es := by
  have hcalls : ∀ r ∈ threeCalls, r.WithinLimits := by
    intro r hr
    rcases List.mem_cons.1 hr with rfl | hr
    · exact ⟨fun hfd => absurd hfd (by decide), fun hfd => absurd hfd (by decide)⟩
    rcases List.mem_cons.1 hr with rfl | hr
    · constructor
      · simp
      · simp [getMinValue, getMaxValue]
    · obtain rfl := List.mem_singleton.1 hr
      constructor
      · simp
      · exact fun _ hret => absurd hret (by decide)
  refine ⟨_, _, rfl, rfl, (inForce_iff (run_of_exec (l := threeCalls) rfl)).2 fun e he => ?_⟩
  have hmem : e.1 ∈ threeCalls := List.mem_map_of_mem he
  exact hcalls e.1 hmem

/-- For the value -1 the driver gets 256 and not 1. -/
theorem not_inForce_negative : ¬ ∀ es t, Run step init es t → InForce es := by
  intro h
  have hforce := h [(⟨#v[-1, 100, 100], 3, 0⟩, (init.setCalibration ⟨#v[-1, 100, 100], 3, 0⟩).2)]
    (init.setCalibration ⟨#v[-1, 100, 100], 3, 0⟩).1 (.snoc .nil rfl)
  have hsent := hforce.clamped _ List.mem_cons_self _ rfl
  rw [components_limited, map_eq_map_iff] at hsent
  have hfirst := (limit_eq_clamp_iff (-1)).1 (hsent (-1) (by simp))
  exact absurd hfirst (by decide)

end AliceHal.Livedisplay
