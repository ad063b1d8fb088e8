import AliceHal.Pn54x.SelfTest.TestRuns

/-!
# What a Self Test Reports

When the test functions report success in a process that may have run tests before. The loops stop
only at the statuses failed and time-out, and the results of the antenna stay from the first
packets.

- `CommandPassed`, `Skipped`, `status_performTest`: one cycle
- `TablePassed`, `success_iff`: when a test over a table reports success
- `antennaSelfTest_success_iff`: the result of the antenna test is that of the first packets
- `swpTest_again`: a second test of an SWP line fails where the NFCC answers as expected
-/

namespace AliceHal.Pn54x.SelfTest

open Lib

/-! ## When a cycle succeeds -/

/-- The write succeeds and every packet that is expected comes and passes. -/
def CommandPassed (d : NciTestData) (env : Exchange) : Prop :=
  writeLocked d.cmd env = .success ∧
    ∃ info, env.first.delivers = some info ∧ d.accepts info = true ∧
      (d.expNtf.len ≠ 0 → ∃ info', env.second.delivers = some info' ∧ d.spent.accepts info' = true)

/-- The write ends with a status that the loops do not look for. -/
def Skipped (d : NciTestData) (env : Exchange) : Prop :=
  writeLocked d.cmd env ≠ .success ∧ ends (writeLocked d.cmd env) = false

theorem ends_success : ends .success = false := by decide

/-- A read succeeds where the packet passes, and otherwise ends the loops. -/
theorem status_readLocked (d : NciTestData) (a : Antenna) (env : ReadEnv) :
    ((readLocked d a env).status = .success ↔
        ∃ info, env.delivers = some info ∧ d.accepts info = true) ∧
      ((readLocked d a env).status ≠ .success → ends (readLocked d a env).status = true) := by
  rcases readLocked_cases d a env with ⟨info, hinfo, heq⟩ | ⟨hnone, status, hends, heq⟩
  · rw [heq, hinfo]
    cases haccepts : d.accepts info with
    | true => simp [haccepts]
    | false =>
      have hfailed : NFCSTATUS.failed ≠ .success ∧ ends .failed = true := by decide
      simp [haccepts, hfailed]
  · rw [heq, hnone]
    have hne : status ≠ .success := by
      rintro rfl
      rw [ends_success] at hends
      cases hends
    simp [hne, hends]

/-- A read that succeeds leaves an entry that waits for the notification. -/
theorem data_readLocked {d : NciTestData} {a : Antenna} {env : ReadEnv}
    (h : (readLocked d a env).status = .success) : (readLocked d a env).data = d.spent := by
  rcases readLocked_cases d a env with ⟨info, -, heq⟩ | ⟨-, status, hends, heq⟩
  · rw [heq]
  · rw [heq] at h
    simp only at h
    rw [h, ends_success] at hends
    cases hends

/-- When a cycle succeeds, and when it neither succeeds nor ends a loop. -/
theorem status_performTest (d : NciTestData) (a : Antenna) (env : Exchange) :
    ((performTest d a env).status = .success ↔ CommandPassed d env) ∧
      ((performTest d a env).status ≠ .success ∧ ends (performTest d a env).status = false ↔
        Skipped d env) := by
  obtain ⟨hfirst, hfirstEnds⟩ := status_readLocked d a env.first
  unfold performTest CommandPassed Skipped
  by_cases hwrite : writeLocked d.cmd env = .success
  · simp only [hwrite, ne_eq, not_true_eq_false, if_false, true_and, false_and, iff_false]
    by_cases hread : (readLocked d a env.first).status = .success
    · obtain ⟨info, hinfo, haccepts⟩ := hfirst.1 hread
      have hntf : (readLocked d a env.first).data.expNtf = d.expNtf := by
        rw [data_readLocked hread]
        rfl
      simp only [hread, not_true_eq_false, if_false, hntf, hinfo]
      by_cases hlen : d.expNtf.len = 0
      · simp [hlen, hread, haccepts]
      · -- the notification is read with what the response has left
        have hsecond := status_readLocked (readLocked d a env.first).data
          (readLocked d a env.first).antenna env.second
        rw [data_readLocked hread] at hsecond
        simp only [hlen, not_false_eq_true, if_true, data_readLocked hread]
        refine ⟨?_, ?_⟩
        · rw [hsecond.1]
          simp [haccepts]
        · rintro ⟨hne, hends⟩
          rw [hsecond.2 hne] at hends
          cases hends
    · simp only [hread, not_false_eq_true, if_true, false_iff]
      refine ⟨?_, ?_⟩
      · rintro ⟨info, hinfo, haccepts, -⟩
        exact hread (hfirst.2 ⟨info, hinfo, haccepts⟩)
      · rintro ⟨-, hends⟩
        rw [hfirstEnds hread] at hends
        cases hends
  · simp [hwrite]

/-! ## When a test succeeds -/

/-- The loop succeeds where every command passes, or is skipped by a failed write and not the last
one. -/
theorem status_testLoop {T : Table} (env : ℕ → Exchange) (n cnt : ℕ) (status : NFCSTATUS)
    (g : Globals) :
    (testLoop T env n cnt status g).status = .success ↔
      (n = 0 → status = .success) ∧
        ∀ k, cnt ≤ k → k < cnt + n → CommandPassed (g.data (T, k)) (env k) ∨
          k + 1 ≠ cnt + n ∧ Skipped (g.data (T, k)) (env k) := by
  induction n generalizing cnt status g with
  | zero =>
    simp only [testLoop, true_implies]
    exact ⟨fun h => ⟨h, fun k _ _ => by omega⟩, fun h => h.1⟩
  | succ n ih =>
    set r := g.performTest (T, cnt) (env cnt) with hr
    obtain ⟨hpassed, hskipped⟩ :=
      status_performTest (g.data (T, cnt)) g.antenna (env cnt)
    have hstatus : r.status = (performTest (g.data (T, cnt)) g.antenna (env cnt)).status := rfl
    rw [← hstatus] at hpassed hskipped
    -- the commands that follow find their own entries as they were
    have hdata : ∀ k, cnt < k → r.globals.data (T, k) = g.data (T, k) := by
      intro k hk
      have hne : ((T, k) : Entry) ≠ (T, cnt) := by
        intro heq
        have hkc := (Prod.mk.inj heq).2
        omega
      exact Function.update_of_ne hne _ _
    have hrest := ih (cnt + 1) r.status r.globals
    have hfollow : (∀ k, cnt + 1 ≤ k → k < cnt + 1 + n →
          CommandPassed (r.globals.data (T, k)) (env k) ∨
            k + 1 ≠ cnt + 1 + n ∧ Skipped (r.globals.data (T, k)) (env k)) ↔
        ∀ k, cnt + 1 ≤ k → k < cnt + (n + 1) → CommandPassed (g.data (T, k)) (env k) ∨
            k + 1 ≠ cnt + (n + 1) ∧ Skipped (g.data (T, k)) (env k) := by
      have hsum : cnt + 1 + n = cnt + (n + 1) := by omega
      rw [hsum]
      apply forall_congr'
      intro k
      apply imp_congr_right
      intro hk
      rw [hdata k hk]
    rw [hfollow] at hrest
    have hsplit : (∀ k, cnt ≤ k → k < cnt + (n + 1) → CommandPassed (g.data (T, k)) (env k) ∨
          k + 1 ≠ cnt + (n + 1) ∧ Skipped (g.data (T, k)) (env k)) ↔
        (CommandPassed (g.data (T, cnt)) (env cnt) ∨ n ≠ 0 ∧ Skipped (g.data (T, cnt)) (env cnt)) ∧
          ∀ k, cnt + 1 ≤ k → k < cnt + (n + 1) → CommandPassed (g.data (T, k)) (env k) ∨
            k + 1 ≠ cnt + (n + 1) ∧ Skipped (g.data (T, k)) (env k) := by
      constructor
      · intro h
        refine ⟨?_, fun k hk => h k (by omega)⟩
        rcases h cnt le_rfl (by omega) with hp | ⟨hne, hs⟩
        · exact Or.inl hp
        · exact Or.inr ⟨by omega, hs⟩
      · rintro ⟨hfirst, hothers⟩ k hk hlt
        by_cases hkc : k = cnt
        · subst hkc
          rcases hfirst with hp | ⟨hne, hs⟩
          · exact Or.inl hp
          · exact Or.inr ⟨by omega, hs⟩
        · exact hothers k (by omega) hlt
    rw [hsplit]
    simp only [testLoop, ← hr]
    by_cases hends : ends r.status = true
    · -- the loop ends, and the command has neither passed nor been skipped
      have hne : r.status ≠ .success := by
        intro heq
        rw [heq, ends_success] at hends
        cases hends
      rw [if_pos hends]
      constructor
      · intro h
        exact absurd h hne
      · rintro ⟨-, hp | ⟨-, hs⟩, -⟩
        · exact hpassed.2 hp
        · have hno := (hskipped.2 hs).2
          rw [hends] at hno
          cases hno
    · rw [if_neg hends]
      simp only
      rw [hrest]
      have hfalse : ends r.status = false := by simpa using hends
      by_cases hsuccess : r.status = .success
      · have hp := hpassed.1 hsuccess
        simp [hsuccess, hp]
      · have hs := hskipped.1 ⟨hsuccess, hfalse⟩
        have hp : ¬ CommandPassed (g.data (T, cnt)) (env cnt) := fun h => hsuccess (hpassed.2 h)
        simp [hsuccess, hp, hs]

/-- When the test of a table succeeds, by the data the table holds. -/
theorem status_runTable (T : Table) (env : ℕ → Exchange) (status : NFCSTATUS) (g : Globals) :
    (runTable T env status g).status = .success ↔
      ∀ k < (testData T).length, CommandPassed (g.data (T, k)) (env k) ∨
        k + 1 ≠ (testData T).length ∧ Skipped (g.data (T, k)) (env k) := by
  have hne : (testData T).length ≠ 0 := by cases T <;> decide
  rw [runTable, status_testLoop]
  simp [hne]

/-- The calls that go through one table. -/
def TestCall.table : TestCall → Option (Table × (ℕ → Exchange))
  | .swpTest swpLine env =>
    if swpLine = 0x01 then some (.swp1, env) else if swpLine = 0x02 then some (.swp2, env) else none
  | .rfFieldTest on env =>
    if on = 0x01 then some (.rfFieldOn, env)
    else if on = 0x00 then some (.rfFieldOff, env)
    else none
  | _ => none

theorem run_of_table {call : TestCall} {T : Table} {env : ℕ → Exchange}
    (h : call.table = some (T, env)) (g : Globals) : call.run g = runTable T env .success g := by
  cases call with
  | swpTest swpLine env' =>
    simp only [TestCall.table] at h
    simp only [TestCall.run, swpTest]
    split_ifs at h ⊢ <;>
    · obtain ⟨rfl, rfl⟩ := Prod.mk.inj (Option.some.inj h)
      rfl
  | rfFieldTest on env' =>
    simp only [TestCall.table] at h
    simp only [TestCall.run, rfFieldTest]
    split_ifs at h ⊢ <;>
    · obtain ⟨rfl, rfl⟩ := Prod.mk.inj (Option.some.inj h)
      rfl
  | prbsTestStart => cases h
  | prbsTestStop => cases h
  | antennaTest => cases h
  | downloadPinTest => cases h
  | antennaSelfTest => cases h

/-- Every command of a table passes, or is skipped by a failed write and not the last one. -/
def TablePassed (R : History) (T : Table) (env : ℕ → Exchange) : Prop :=
  ∀ k < (testData T).length, CommandPassed (dataAfter R (T, k)) (env k) ∨
    k + 1 ≠ (testData T).length ∧ Skipped (dataAfter R (T, k)) (env k)

theorem Tracks.status_runTable {R : History} {g : Globals} (h : Tracks R g) (T : Table)
    (env : ℕ → Exchange) (status : NFCSTATUS) :
    (SelfTest.runTable T env status g).status = .success ↔ TablePassed R T env := by
  rw [SelfTest.status_runTable]
  apply forall_congr'
  intro k
  apply imp_congr_right
  intro hk
  rw [h.data (T, k) hk]

variable {es : List (TestCall × (NFCSTATUS × History))} {g : Globals}

/-- A measurement whose command was answered keeps its result. -/
theorem firstVerdict_append {R : History} {m : Measurement} (h : Seen R m.entry) (R' : History) :
    firstVerdict (R ++ R') m = firstVerdict R m := by
  have hsome := (find_isSome_iff m.entry).2 h
  unfold firstVerdict
  rw [List.find?_append]
  cases hfind : R.find? (fun x => x.1 == some m.entry) with
  | none =>
    rw [hfind] at hsome
    cases hsome
  | some x => rfl

/-- In every run of test calls the antenna test reports success exactly where its table passes and
each of the four measurements was within its limits the first time that its command was answered in
the process, for the limits given then; once it was answered, neither what is measured later nor new
limits matter. -/
theorem antennaSelfTest_success_iff (hrun : Run Globals.step .init es g) (resp : AntennaStResp)
    (env : ℕ → Exchange) :
    ((antennaSelfTest resp env g).status = .success ↔
      TablePassed (history es) .antennaSelf env ∧
        ∀ m, firstVerdict (history es ++ (antennaSelfTest resp env g).history) m = .success) ∧
    ∀ m, Seen (history es) m.entry →
      firstVerdict (history es ++ (antennaSelfTest resp env g).history) m =
        firstVerdict (history es) m := by
  have htracks := (tracks_run hrun).setResp resp
  have hafter := htracks.runTable .antennaSelf env .failed
  have hloop := htracks.status_runTable .antennaSelf env .failed
  refine ⟨?_, fun m hm => firstVerdict_append hm _⟩
  simp only [antennaSelfTest]
  rw [ite_eq_left_iff, hloop]
  have hfailed : NFCSTATUS.failed ≠ .success := by decide
  simp only [hfailed, imp_false, not_not, hafter.status]
  apply and_congr_right
  intro _
  constructor
  · rintro ⟨htxldo, hagc, hnfcld, hdifferential⟩ m
    cases m with
    | txldo => exact htxldo
    | agcValue => exact hagc
    | agcNfcld => exact hnfcld
    | agcDifferential => exact hdifferential
  · exact fun h => ⟨h .txldo, h .agcValue, h .agcNfcld, h .agcDifferential⟩

/-- The first byte of a packet that is compared. -/
theorem pBuff_of_accepts {v : Validator} (hv : v = .testEquals ∨ v = .testSWP1Vltg) {exp : NciData}
    {info : TransactInfo} (h : v.accepts exp info = true) (hlen : exp.len ≠ 0) :
    info.pBuff 0 = exp.pData.getD 0 0 := by
  have hmatches : exp.matches info = true := by
    rcases hv with rfl | rfl
    · simp only [Validator.accepts, Bool.and_eq_true] at h
      exact h.2
    · simp only [Validator.accepts, Bool.and_eq_true] at h
      exact h.1.2
  have hzero := List.all_eq_true.1 hmatches 0 (List.mem_range.2 (Nat.pos_of_ne_zero hlen))
  exact (beq_iff_eq.1 hzero).symm

/-- Once the last command of an SWP test was answered, no later test of the line in the process
succeeds where the NFCC answers that command with the response that the table expects: it is taken
for the notification. -/
theorem swpTest_again (hrun : Run Globals.step .init es g) {swpLine : UInt8} {T : Table}
    (hline : swpLine = 0x01 ∧ T = .swp1 ∨ swpLine = 0x02 ∧ T = .swp2)
    (hseen : Seen (history es) (T, 3)) (env : ℕ → Exchange) (info : TransactInfo)
    (hinfo : (env 3).first.delivers = some info)
    (hrsp : (entryData (T, 3)).rspValidator.accepts (entryData (T, 3)).expRsp info = true) :
    (swpTest swpLine env g).status ≠ .success := by
  intro hsuccess
  have htable : (TestCall.swpTest swpLine env).table = some (T, env) := by
    rcases hline with ⟨rfl, rfl⟩ | ⟨rfl, rfl⟩ <;> rfl
  have hlen : (testData T).length = 4 := by
    rcases hline with ⟨-, rfl⟩ | ⟨-, rfl⟩ <;> rfl
  have hpassed := ((tracks_run hrun).status_runTable T env .success).1
    (by rw [← run_of_table htable]; exact hsuccess) 3 (by omega)
  rcases hpassed with ⟨-, info', hinfo', haccepts, -⟩ | ⟨hne, -⟩
  · obtain rfl : info = info' := Option.some.inj (hinfo.symm.trans hinfo')
    have hvalid : Entry.valid (T, 3) := by
      simp only [Entry.valid]
      omega
    rw [accepts_dataAfter hvalid, passes, if_pos hseen] at haccepts
    -- the packet would have to begin with both bytes
    have hvalidators : ((entryData (T, 3)).rspValidator = .testEquals ∨
          (entryData (T, 3)).rspValidator = .testSWP1Vltg) ∧
        ((entryData (T, 3)).ntfValidator = .testEquals ∨
          (entryData (T, 3)).ntfValidator = .testSWP1Vltg) := by
      rcases hline with ⟨-, rfl⟩ | ⟨-, rfl⟩ <;> decide
    have hfirst : (entryData (T, 3)).expRsp.len ≠ 0 ∧ (entryData (T, 3)).expNtf.len ≠ 0 ∧
        (entryData (T, 3)).expRsp.pData.getD 0 0 ≠ (entryData (T, 3)).expNtf.pData.getD 0 0 := by
      rcases hline with ⟨-, rfl⟩ | ⟨-, rfl⟩ <;> decide
    have hresponse := pBuff_of_accepts hvalidators.1 hrsp hfirst.1
    have hnotification := pBuff_of_accepts hvalidators.2 haccepts hfirst.2.1
    exact hfirst.2.2 (hresponse.symm.trans hnotification)
  · omega

/-! ## Tests of an NFCC that answers as expected -/

/-- A read that brings these bytes. -/
def answered (bytes : List UInt8) : ReadEnv :=
  ⟨true, .pending, true, true, some ⟨.success, fun i => bytes.getD i 0, bytes.length⟩⟩

/-- The NFCC answers as the table expects. -/
def expectedAnswers (T : Table) (k : ℕ) : Exchange :=
  ⟨true, fun _ _ => ⟨.pending, true, .success⟩, answered (entryData (T, k)).expRsp.pData,
    answered (entryData (T, k)).expNtf.pData⟩

/-- After a first test of the second SWP line. -/
def swp2Tested : Outcome := swpTest 0x02 (expectedAnswers .swp2) .init

theorem run_swp2Tested : Run Globals.step .init
    [(.swpTest 0x02 (expectedAnswers .swp2), swp2Tested.status, swp2Tested.history)]
    swp2Tested.globals :=
  Run.nil.snoc rfl

/-- The first packet of the last command is taken for the response. -/
theorem swp2Tested_passed : ∃ pre x post, swp2Tested.history = pre ++ x :: post ∧
    x.1 = some (.swp2, 3) ∧ x.2.passed = passes pre x.2.info x.1 :=
  ⟨swp2Tested.history.take 3, swp2Tested.history.get ⟨3, by decide⟩, swp2Tested.history.drop 4, rfl,
    rfl, passed_eq run_swp2Tested _ _ _ rfl⟩

/-- The second one does not. -/
theorem swp2Tested_again :
    (swpTest 0x02 (expectedAnswers .swp2) swp2Tested.globals).status ≠ .success :=
  swpTest_again run_swp2Tested (Or.inr ⟨rfl, rfl⟩) (by decide) (expectedAnswers .swp2) _ rfl
    (by decide)

/-- Currents up to 100 mA, and everything else zero. -/
def wideLimits : AntennaStResp := ⟨0, 100, 0, 0, 0, 0, 0, 0, 0, 0, 0⟩

theorem antennaSelf_tablePassed :
    TablePassed [] .antennaSelf (expectedAnswers .antennaSelf) ∧
      firstVerdict ([] ++ (antennaSelfTest wideLimits (expectedAnswers .antennaSelf) .init).history)
        .txldo = .success := by
  have h := ((antennaSelfTest_success_iff .nil wideLimits (expectedAnswers .antennaSelf)).1).1
    (by decide)
  exact ⟨h.1, h.2 .txldo⟩

end AliceHal.Pn54x.SelfTest
