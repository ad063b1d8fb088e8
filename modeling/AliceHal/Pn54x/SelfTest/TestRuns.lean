import AliceHal.Pn54x.SelfTest.PerformTest

/-!
# What a Self Test Checks

The tables are static and the length of an expected response is never restored. So in every run of
test calls a command's response is compared with what the table expects once, for the first packet
that is read for the command; every packet after it, in this test or a later one, is taken for the
notification.

- `Takes`: the comparisons of a cycle
- `Tracks`: the data and the results follow from the packets compared so far
- `passed_eq`: which packets pass, in every run
-/

namespace AliceHal.Pn54x.SelfTest

open Lib

/-! ## One cycle -/

/-- Packets compared one after the other. -/
inductive Takes : NciTestData → Antenna → List Reading → NciTestData → Antenna → Prop where
  | nil {d : NciTestData} {a : Antenna} : Takes d a [] d a
  | cons {d d' : NciTestData} {a a' : Antenna} {rs : List Reading} (info : TransactInfo) :
      Takes d.spent (a.record d info) rs d' a' →
      Takes d a (⟨info, a.resp, d.accepts info⟩ :: rs) d' a'

/-- The packet of a read, if there is one and the callback is waited for. -/
def ReadEnv.delivers (env : ReadEnv) : Option TransactInfo :=
  if env.semaphore && env.returned == .pending && env.timerStarted && env.waited then env.completed
  else none

/-- A read compares the packet it is given, or changes nothing. -/
theorem readLocked_cases (d : NciTestData) (a : Antenna) (env : ReadEnv) :
    (∃ info, env.delivers = some info ∧ readLocked d a env =
        ⟨if d.accepts info then .success else .failed, d.spent, a.record d info,
          [⟨info, a.resp, d.accepts info⟩]⟩) ∨
      env.delivers = none ∧ ∃ status, ends status = true ∧ readLocked d a env = ⟨status, d, a, []⟩ := by
  unfold readLocked ReadEnv.delivers
  cases env.semaphore with
  | false => exact Or.inr ⟨rfl, .failed, rfl, rfl⟩
  | true =>
    by_cases hpending : env.returned = .pending
    · cases env.timerStarted with
      | false => exact Or.inr ⟨by simp, .failed, rfl, by simp [hpending]⟩
      | true =>
        cases env.waited with
        | false => exact Or.inr ⟨by simp, .failed, rfl, by simp [hpending]⟩
        | true =>
          cases env.completed with
          | none => exact Or.inr ⟨by simp, .responseTimeout, rfl, by simp [hpending, halReadCb]⟩
          | some info =>
            refine Or.inl ⟨info, by simp [hpending], ?_⟩
            have hfailed : NFCSTATUS.failed ≠ .responseTimeout ∧ NFCSTATUS.failed ≠ .success := by
              decide
            have hsuccess : NFCSTATUS.success ≠ .responseTimeout := by decide
            cases haccepts : d.accepts info with
            | false => simp [hpending, halReadCb, haccepts, hfailed]
            | true => simp [hpending, halReadCb, haccepts, hsuccess]
    · exact Or.inr ⟨by simp [hpending], .failed, rfl, by simp [hpending]⟩

theorem Takes.append {d d' d'' : NciTestData} {a a' a'' : Antenna} {rs rs' : List Reading}
    (h : Takes d a rs d' a') (h' : Takes d' a' rs' d'' a'') : Takes d a (rs ++ rs') d'' a'' := by
  induction h with
  | nil => exact h'
  | cons info _ ih => exact .cons info (ih h')

theorem takes_readLocked (d : NciTestData) (a : Antenna) (env : ReadEnv) :
    Takes d a (readLocked d a env).readings (readLocked d a env).data
      (readLocked d a env).antenna := by
  rcases readLocked_cases d a env with ⟨info, -, heq⟩ | ⟨-, status, -, heq⟩
  · rw [heq]
    exact .cons info .nil
  · rw [heq]
    exact .nil

/-- A cycle compares the packets it reads. -/
theorem takes_performTest (d : NciTestData) (a : Antenna) (env : Exchange) :
    Takes d a (performTest d a env).readings (performTest d a env).data
      (performTest d a env).antenna := by
  have hfirst := takes_readLocked d a env.first
  simp only [performTest]
  split
  · exact .nil
  · split
    · exact hfirst
    · split
      · exact hfirst.append (takes_readLocked _ _ env.second)
      · exact hfirst

/-- Without a notification there is one read. -/
theorem performTest_withoutNtf {d : NciTestData} (h : d.expNtf.len = 0) (a : Antenna)
    (env : Exchange) :
    performTest d a env =
      if writeLocked d.cmd env = .success then readLocked d a env.first
      else ⟨writeLocked d.cmd env, d, a, []⟩ := by
  have hlen : (readLocked d a env.first).data.expNtf.len = 0 := by
    rcases readLocked_cases d a env.first with ⟨info, -, heq⟩ | ⟨-, status, -, heq⟩
    · rw [heq]
      exact h
    · rw [heq]
      exact h
  simp only [performTest, hlen, ne_eq, not_true_eq_false, if_false, ite_not, ite_self]

/-! ## The packets of a process -/

/-- A packet was compared for the entry. -/
abbrev Seen (R : History) (e : Entry) : Prop := some e ∈ R.map Prod.fst

/-- What an entry holds after a history. -/
def dataAfter (R : History) (e : Entry) : NciTestData :=
  if Seen R e then (entryData e).spent else entryData e

/-- Whether a packet passes that comes after a history: the first one of an entry is compared with
the response, every other one with the notification. -/
def passes (R : History) (info : TransactInfo) : Option Entry → Bool
  | none => Validator.testEquals.accepts ⟨0x04, [0x4F, 0x30, 0x01, 0x00]⟩ info
  | some e =>
    if Seen R e then (entryData e).ntfValidator.accepts (entryData e).expNtf info
    else (entryData e).rspValidator.accepts (entryData e).expRsp info

/-- The command of a measurement. -/
def Measurement.entry : Measurement → Entry
  | .txldo => (.antennaSelf, 3)
  | .agcValue => (.antennaSelf, 4)
  | .agcNfcld => (.antennaSelf, 5)
  | .agcDifferential => (.antennaSelf, 6)

/-- The result of the first packet for a measurement, for the limits in force when it came. -/
def firstVerdict (R : History) (m : Measurement) : NFCSTATUS :=
  match R.find? (fun x => x.1 == some m.entry) with
  | none => .failed
  | some x => verdict x.2.resp x.2.info m

/-- An entry of an array. -/
abbrev Entry.valid (e : Entry) : Prop := e.2 < (testData e.1).length

/-- The static data belong to the packets compared so far. -/
structure Tracks (R : History) (g : Globals) : Prop where
  data : ∀ e : Entry, e.valid → g.data e = dataAfter R e
  status : ∀ m, g.antenna.status m = firstVerdict R m
  passed : ∀ pre x post, R = pre ++ x :: post → x.2.passed = passes pre x.2.info x.1

theorem Tracks.init : Tracks [] .init := by
  refine ⟨fun e _ => rfl, fun m => rfl, ?_⟩
  intro pre x post h
  exact absurd h (by simp)

section

variable {R : History} {g : Globals} {e : Entry}

theorem seen_concat {x : Option Entry × Reading} :
    Seen (R ++ [x]) e ↔ Seen R e ∨ x.1 = some e := by
  simp [Seen, eq_comm]

/-- One packet more. -/
theorem dataAfter_concat (x : Option Entry × Reading) :
    dataAfter (R ++ [x]) e = if x.1 = some e then (dataAfter R e).spent else dataAfter R e := by
  unfold dataAfter
  by_cases hx : x.1 = some e
  · by_cases hseen : Seen R e
    · simp only [seen_concat, hseen, hx, or_true, if_true]
      rfl
    · simp only [seen_concat, hseen, hx, or_true, if_true, if_false]
  · simp only [seen_concat, hx, or_false, if_false]

/-- What a packet is compared with. -/
theorem awaited_dataAfter (he : e.valid) : (dataAfter R e).awaited =
    if Seen R e then ((entryData e).expNtf, (entryData e).ntfValidator)
    else ((entryData e).expRsp, (entryData e).rspValidator) := by
  unfold dataAfter
  split
  · rfl
  · have hlen := expRsp_entryData he
    simp [NciTestData.awaited, hlen]

theorem accepts_dataAfter (he : e.valid) (info : TransactInfo) :
    (dataAfter R e).accepts info = passes R info (some e) := by
  rw [NciTestData.accepts, awaited_dataAfter he, passes]
  split <;> rfl

/-- The validators of the antenna stand at the four measurements, for the response. -/
theorem validators_entryData (he : e.valid) (m : Measurement) :
    (entryData e).ntfValidator ≠ .testAntenna m ∧
      ((entryData e).rspValidator = .testAntenna m ↔ e = m.entry) := by
  obtain ⟨T, k⟩ := e
  have hall : ∀ i < (testData T).length, (entryData (T, i)).ntfValidator ≠ .testAntenna m ∧
      ((entryData (T, i)).rspValidator = .testAntenna m ↔ (T, i) = m.entry) := by
    cases T <;> cases m <;> decide
  exact hall k he

/-- A packet was compared for a measurement where the history has a first one. -/
theorem find_isSome_iff (e : Entry) :
    (R.find? (fun x => x.1 == some e)).isSome ↔ Seen R e := by
  simp [Seen, List.find?_isSome]

/-- A validator of the antenna stores its own result, any other one nothing. -/
theorem record_apply (v : Validator) (resp : AntennaStResp) (info : TransactInfo)
    (status : AntennaStatus) (m : Measurement) :
    v.record resp info status m = if v = .testAntenna m then verdict resp info m else status m := by
  cases v with
  | testAntenna m' =>
    by_cases hm : m' = m
    · subst hm
      simp [Validator.record]
    · simp [Validator.record, hm, Function.update_of_ne (Ne.symm hm)]
  | null => rfl
  | testEquals => rfl
  | testSWP1Vltg => rfl

/-- One packet more in the history. -/
theorem firstVerdict_concat (x : Option Entry × Reading) (m : Measurement) :
    firstVerdict (R ++ [x]) m =
      if x.1 = some m.entry ∧ ¬ Seen R m.entry then verdict x.2.resp x.2.info m
      else firstVerdict R m := by
  have hseen := find_isSome_iff (R := R) m.entry
  unfold firstVerdict
  rw [List.find?_append, List.find?_singleton]
  cases hfind : R.find? (fun x => x.1 == some m.entry) with
  | some y =>
    -- there is a first packet already
    have hyes : Seen R m.entry := hseen.1 (by rw [hfind]; rfl)
    simp [hyes]
  | none =>
    have hno : ¬ Seen R m.entry := fun h => by
      have hsome := hseen.2 h
      rw [hfind] at hsome
      cases hsome
    by_cases hx : x.1 = some m.entry
    · simp [hx, hno]
    · simp [hx]

/-- The list of verdicts grows by one. -/
theorem passed_concat {x : Option Entry × Reading}
    (h : ∀ pre y post, R = pre ++ y :: post → y.2.passed = passes pre y.2.info y.1)
    (hx : x.2.passed = passes R x.2.info x.1) :
    ∀ pre y post, R ++ [x] = pre ++ y :: post → y.2.passed = passes pre y.2.info y.1 := by
  intro pre y post heq
  rcases List.eq_nil_or_concat post with rfl | ⟨init, last, hpost⟩
  · obtain ⟨rfl, hlast⟩ := List.append_inj' heq rfl
    obtain rfl := List.singleton_injective hlast
    exact hx
  · rw [List.concat_eq_append] at hpost
    subst hpost
    rw [← List.cons_append, ← List.append_assoc] at heq
    obtain ⟨hinit, -⟩ := List.append_inj' heq rfl
    exact h pre y init hinit

/-- One comparison for an entry. -/
theorem Tracks.take (h : Tracks R g) (he : e.valid) (info : TransactInfo) :
    Tracks (R ++ [(some e, ⟨info, g.antenna.resp, (g.data e).accepts info⟩)])
      ⟨g.antenna.record (g.data e) info, Function.update g.data e (g.data e).spent⟩ := by
  have hdata := h.data e he
  refine ⟨?_, ?_, ?_⟩
  · intro e' he'
    simp only
    rw [dataAfter_concat]
    by_cases hee : e' = e
    · subst hee
      rw [Function.update_self, if_pos rfl, hdata]
    · have hne : (some e : Option Entry) ≠ some e' := fun heq => hee (Option.some.inj heq).symm
      rw [Function.update_of_ne hee, if_neg hne, h.data e' he']
  · intro m
    have hrecord : (g.antenna.record (g.data e) info).status m =
        (g.data e).awaited.2.record g.antenna.resp info g.antenna.status m := rfl
    obtain ⟨hntf, hrsp⟩ := validators_entryData he m
    rw [hrecord, record_apply, hdata, awaited_dataAfter he, firstVerdict_concat, h.status m]
    by_cases hseen : Seen R e
    · -- the entry waits for a notification, and no measurement does
      have hnot : ¬ ((some e : Option Entry) = some m.entry ∧ ¬ Seen R m.entry) := by
        rintro ⟨heq, hno⟩
        rw [← Option.some.inj heq] at hno
        exact hno hseen
      simp only [hseen, if_true, hntf, if_false, if_neg hnot]
    · by_cases hm : e = m.entry
      · have hyes : (some e : Option Entry) = some m.entry ∧ ¬ Seen R m.entry := by
          rw [← hm]
          exact ⟨rfl, hseen⟩
        simp only [hseen, if_false, hrsp.2 hm, if_true, if_pos hyes]
      · have hnot : ¬ ((some e : Option Entry) = some m.entry ∧ ¬ Seen R m.entry) :=
          fun hyes => hm (Option.some.inj hyes.1)
        simp only [hseen, if_false, hrsp, hm, if_neg hnot]
  · apply passed_concat h.passed
    simp only
    rw [hdata, accepts_dataAfter he]

/-- The comparisons of a cycle for an entry. -/
theorem Tracks.takes (h : Tracks R g) (he : e.valid) {rs : List Reading} {d' : NciTestData}
    {a' : Antenna} (htakes : Takes (g.data e) g.antenna rs d' a') :
    Tracks (R ++ rs.map (some e, ·)) ⟨a', Function.update g.data e d'⟩ := by
  generalize hd : g.data e = d at htakes
  generalize ha : g.antenna = a at htakes
  induction htakes generalizing R g with
  | nil =>
    rw [List.map_nil, List.append_nil, ← hd, Function.update_eq_self, ← ha]
    exact h
  | @cons d d' a a' rs info _ ih =>
    subst hd ha
    have hrest := ih (h.take he info) (Function.update_self _ _ _) rfl
    rw [Function.update_idem, List.append_assoc] at hrest
    exact hrest

end

/-! ## The test functions -/

section

variable {R : History} {g : Globals}

theorem Tracks.performTest (h : Tracks R g) {e : Entry} (he : e.valid) (env : Exchange) :
    Tracks (R ++ (g.performTest e env).history) (g.performTest e env).globals :=
  h.takes he (takes_performTest (g.data e) g.antenna env)

theorem Tracks.testLoop (h : Tracks R g) {T : Table} (env : ℕ → Exchange) (n cnt : ℕ)
    (status : NFCSTATUS) (hn : cnt + n ≤ (testData T).length) :
    Tracks (R ++ (testLoop T env n cnt status g).history)
      (testLoop T env n cnt status g).globals := by
  induction n generalizing R g cnt status with
  | zero =>
    simp only [SelfTest.testLoop, List.append_nil]
    exact h
  | succ n ih =>
    have hvalid : Entry.valid (T, cnt) := by
      simp only [Entry.valid]
      omega
    have hfirst := h.performTest hvalid (env cnt)
    simp only [SelfTest.testLoop]
    split
    · exact hfirst
    · have hrest := ih hfirst (cnt + 1) (g.performTest (T, cnt) (env cnt)).status (by omega)
      rw [List.append_assoc] at hrest
      exact hrest

theorem Tracks.runTable (h : Tracks R g) (T : Table) (env : ℕ → Exchange) (status : NFCSTATUS) :
    Tracks (R ++ (runTable T env status g).history) (runTable T env status g).globals :=
  h.testLoop env _ 0 status (by omega)

/-- New limits leave what was measured. -/
theorem Tracks.setResp (h : Tracks R g) (resp : AntennaStResp) :
    Tracks R { g with antenna := { g.antenna with resp := resp } } :=
  ⟨h.data, h.status, h.passed⟩

/-- The command of a PRBS test is local: its response is compared every time, and nothing is
stored. -/
theorem Tracks.prbsCmd (h : Tracks R g) (cmd : List UInt8) (env : Exchange) :
    Tracks (R ++ (SelfTest.performTest (prbsCmdData cmd) g.antenna env).readings.map (none, ·))
      { g with antenna := (SelfTest.performTest (prbsCmdData cmd) g.antenna env).antenna } := by
  have hcases : (SelfTest.performTest (prbsCmdData cmd) g.antenna env).antenna = g.antenna ∧
      ((SelfTest.performTest (prbsCmdData cmd) g.antenna env).readings = [] ∨
        ∃ info, (SelfTest.performTest (prbsCmdData cmd) g.antenna env).readings =
          [⟨info, g.antenna.resp, (prbsCmdData cmd).accepts info⟩]) := by
    rw [performTest_withoutNtf rfl]
    split
    · rcases readLocked_cases (prbsCmdData cmd) g.antenna env.first with
        ⟨info, -, heq⟩ | ⟨-, status, -, heq⟩
      · rw [heq]
        exact ⟨rfl, Or.inr ⟨info, rfl⟩⟩
      · rw [heq]
        exact ⟨rfl, Or.inl rfl⟩
    · exact ⟨rfl, Or.inl rfl⟩
  obtain ⟨hantenna, hreadings⟩ := hcases
  rw [hantenna]
  rcases hreadings with hnil | ⟨info, hone⟩
  · rw [hnil, List.map_nil, List.append_nil]
    exact h
  · rw [hone]
    refine ⟨?_, ?_, passed_concat h.passed rfl⟩
    · intro e he
      have hnone : (none : Option Entry) ≠ some e := fun hsome => by cases hsome
      rw [List.map_singleton, dataAfter_concat, if_neg hnone]
      exact h.data e he
    · intro m
      rw [List.map_singleton, firstVerdict_concat]
      simpa using h.status m

/-- Every call of the middleware. -/
theorem Tracks.call (h : Tracks R g) (call : TestCall) :
    Tracks (R ++ (call.run g).history) (call.run g).globals := by
  have hnone : Tracks (R ++ []) g := by
    rw [List.append_nil]
    exact h
  cases call with
  | swpTest swpLine env =>
    simp only [TestCall.run, SelfTest.swpTest]
    split
    · exact h.runTable .swp1 env .success
    · split
      · exact h.runTable .swp2 env .success
      · exact hnone
  | prbsTestStart tech bitrate env cmdEnv =>
    simp only [TestCall.run, SelfTest.prbsTestStart]
    split
    · exact hnone
    · have hlast := (h.runTable .prbs env (getPrbsCmd tech bitrate).1).prbsCmd
        (getPrbsCmd tech bitrate).2 cmdEnv
      rw [List.append_assoc] at hlast
      exact hlast
  | prbsTestStop ioctl => exact hnone
  | rfFieldTest on env =>
    simp only [TestCall.run, SelfTest.rfFieldTest]
    split
    · exact h.runTable .rfFieldOn env .success
    · split
      · exact h.runTable .rfFieldOff env .success
      · exact hnone
  | antennaTest => exact hnone
  | downloadPinTest env ioctl env' =>
    have hfirst := h.runTable .downloadPin1 env .failed
    simp only [TestCall.run, SelfTest.downloadPinTest]
    split
    · exact hfirst
    · split
      · exact hfirst
      · have hsecond := hfirst.runTable .downloadPin2 env' .failed
        rw [List.append_assoc] at hsecond
        exact hsecond
  | antennaSelfTest resp env => exact (h.setResp resp).runTable .antennaSelf env .failed

end

/-- Every run of calls. -/
theorem tracks_run {es : List (TestCall × (NFCSTATUS × History))} {g : Globals}
    (hrun : Run Globals.step .init es g) : Tracks (history es) g := by
  induction hrun with
  | nil => exact Tracks.init
  | @snoc es t u call o _ hs ih =>
    have hcall := ih.call call
    obtain ⟨rfl, rfl⟩ := Prod.mk.inj (Option.some.inj hs)
    rw [history, List.flatMap_append, List.flatMap_singleton, ← history]
    exact hcall

/-- In every run of test calls, a packet passes exactly where it agrees with what its command's
entry of the table expects: as a response, if it is the first packet of the whole process that is
read for the entry, and as a notification otherwise. The response to the command of a PRBS test is
always compared. -/
theorem passed_eq {es : List (TestCall × (NFCSTATUS × History))} {g : Globals}
    (hrun : Run Globals.step .init es g) (pre : History) (x : Option Entry × Reading)
    (post : History) (hx : history es = pre ++ x :: post) : x.2.passed = passes pre x.2.info x.1 :=
  (tracks_run hrun).passed pre x post hx

end AliceHal.Pn54x.SelfTest
