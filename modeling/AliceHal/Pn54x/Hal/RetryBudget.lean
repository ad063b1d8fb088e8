import AliceHal.Lib.Machine
import AliceHal.Pn54x.Hal.CoreInit

/-!
# The Retry Budget of a Core Initialisation

Whether one call of `phNxpNciHal_core_initialized` is like another one with the same arguments, the
same configuration and the same NFCC. A call leaves more behind than the counter of its passes: the
flags of the clock and of the download, the bytes received for them, and a command that it has
changed in place.

- `CoreCall.EndsClean`: calls after which nothing of this is left
- `CoreCall.FullAnswers`: the NFCC sends all bytes that are read from its answers
- `Agree`: states that differ in left over bytes only
- `pass_stage`, `passes_agree`: a pass takes such states to such states, and how it ends
- `coreInit_independent`: after calls that end clean, every call has its own budget
-/

namespace AliceHal.Pn54x.Hal

/-! ## Calls that end clean -/

namespace CoreCmd

/-- The pass goes on without an answer to these commands. -/
def optional : List CoreCmd := [.setClock, .resetEseSession, .setMwEeprom]

end CoreCmd

namespace CoreCall

/-- The NFCC answers every command that a pass needs. -/
structure Answered (c : CoreCall) (k : ℕ) : Prop where
  once : ∀ cmd, cmd ∉ CoreCmd.optional → cmd ≠ .getMwEeprom → (c.nfcc k cmd 0).success = true
  getMwEeprom : ∃ left < 4, (c.nfcc k .getMwEeprom left).success = true

/-- The parameters and the HAL after the last command was changed `j` times. -/
def lastAfter (c : CoreCall) : ℕ → Lib.Memory × HalState
  | 0 => (c.params, c.hal)
  | j + 1 => (c.writeLast (c.lastAfter j)).2

/-- The HAL answers the last command itself. -/
def AnswersLast (c : CoreCall) (j : ℕ) : Prop :=
  c.isRecovery = true ∧ sendsLast (c.params 1) (c.lastAfter j).1 = true ∧
    (c.writeLast (c.lastAfter j)).1 ≠ NFCSTATUS.success

/-- The call ends after the command that was sent last is repeated. -/
def EndsEarly (c : CoreCall) : Prop := c.params 0 = 2 ∨ c.params 0 = 3

/-- The call comes to its normal end within the budget: a pass is answered, and none before it ends
the call. -/
def Completes (c : CoreCall) : Prop :=
  ¬ c.EndsEarly ∧ ∃ k < 4, c.Answered k ∧ ∀ j ≤ k, c.malloc j = true ∧ ¬ c.AnswersLast j

/-- Nothing of the call is left for the next one. It comes to its normal end; or it is over before
a pass has failed, and before a download was to be noticed. -/
def EndsClean (c : CoreCall) : Prop :=
  if c.hal.isOpen then
    c.Completes ∨
      c.Answered 0 ∧ (c.download = some true → ¬ c.EndsEarly ∧ c.malloc 0 = true)
  else c.download ≠ some true

/-- The answers to the two commands that read from the NFCC have all bytes that are looked at. -/
structure FullAnswers (c : CoreCall) : Prop where
  mwEeprom : ∀ k left, (c.nfcc k .getMwEeprom left).success = true →
    ∃ x ∈ (c.nfcc k .getMwEeprom left).packets, x.isConfigRsp = true ∧ 40 ≤ x.rxDataLen
  clock : ∀ k, (c.nfcc k .getClock 0).success = true →
    ∃ x ∈ (c.nfcc k .getClock 0).packets, x.isConfigRsp = true ∧ 17 ≤ x.rxDataLen

end CoreCall

/-! ## Left over bytes -/

namespace CoreState

/-- Other bytes left over. -/
def carry (s : CoreState) (aid : UInt8) (clock eeprom : List UInt8) : CoreState :=
  { s with aidMatchingMode := aid, clockRxData := clock, mwEepromRxData := eeprom }

end CoreState

/-- The flags of a state, and what the last command was changed to. -/
structure CoreMarks where
  retryCoreInitCnt : UInt8
  aidMatchingMode : UInt8
  fwDownloadSuccess : Bool
  isClockSet : Bool
  issetConfig : Bool
  isGetEepromArea : Bool
  params : Lib.Memory
  hal : HalState

/-- The marks of a state. -/
def CoreState.marks (s : CoreState) : CoreMarks where
  retryCoreInitCnt := s.retryCoreInitCnt
  aidMatchingMode := s.aidMatchingMode
  fwDownloadSuccess := s.fwDownloadSuccess
  isClockSet := s.isClockSet
  issetConfig := s.issetConfig
  isGetEepromArea := s.isGetEepromArea
  params := s.params
  hal := s.hal

/-- The states differ in left over bytes only. From level one on the bytes of the EEPROM are the
same, and from level two on those of the clock. While the clock is waited for nothing is stored for
the EEPROM, so its bytes have to be the same before. Without full answers the states are equal. -/
structure Agree (c : CoreCall) (n : ℕ) (s t : CoreState) : Prop where
  same : t = s.carry t.aidMatchingMode t.clockRxData t.mwEepromRxData
  aid : c.config.aidMatchingPlatform = some 1 → t.aidMatchingMode = s.aidMatchingMode
  waited : s.isClockSet = true → t.mwEepromRxData = s.mwEepromRxData
  eeprom : 1 ≤ n → t.mwEepromRxData = s.mwEepromRxData
  clock : 2 ≤ n → t.clockRxData.take 17 = s.clockRxData.take 17
  equal : ¬ c.FullAnswers → t = s

namespace Agree

variable {c : CoreCall} {n m : ℕ} {s t : CoreState} {f : CoreState → CoreState}

theorem refl (c : CoreCall) (n : ℕ) (s : CoreState) : Agree c n s s :=
  ⟨rfl, fun _ => rfl, fun _ => rfl, fun _ => rfl, fun _ => rfl, fun _ => rfl⟩

theorem mono (h : Agree c n s t) (hle : m ≤ n) : Agree c m s t :=
  { h with
    eeprom := fun hm => h.eeprom (hm.trans hle)
    clock := fun hm => h.clock (hm.trans hle) }

/-- A change that leaves the bytes alone. -/
theorem map (h : Agree c n s t) (hf : ∀ u a r e, f (u.carry a r e) = (f u).carry a r e)
    (hwait : (f s).isClockSet = true → s.isClockSet = true ∨ 1 ≤ n) : Agree c n (f s) (f t) := by
  -- with its own bytes a state is itself, so `f` keeps each of them
  have hkeep : ∀ u : CoreState, (f u).aidMatchingMode = u.aidMatchingMode ∧
      (f u).clockRxData = u.clockRxData ∧ (f u).mwEepromRxData = u.mwEepromRxData := by
    intro u
    have hu := hf u u.aidMatchingMode u.clockRxData u.mwEepromRxData
    have hself : u.carry u.aidMatchingMode u.clockRxData u.mwEepromRxData = u := rfl
    rw [hself] at hu
    rw [hu]
    exact ⟨rfl, rfl, rfl⟩
  obtain ⟨hs1, hs2, hs3⟩ := hkeep s
  obtain ⟨ht1, ht2, ht3⟩ := hkeep t
  constructor
  · rw [ht1, ht2, ht3, ← hf, ← h.same]
  · rw [ht1, hs1]
    exact h.aid
  · intro hclock
    rw [ht3, hs3]
    exact (hwait hclock).elim h.waited h.eeprom
  · rw [ht3, hs3]
    exact h.eeprom
  · rw [ht2, hs2]
    exact h.clock
  · intro hpart
    rw [h.equal hpart]

end Agree

section
variable {n k : ℕ} {new old old' : List UInt8}

theorem getElem?_fillArray (hk : k < n) :
    (fillArray n new old)[k]? = if k < new.length then new[k]? else old[k]? := by
  rw [fillArray, List.getElem?_take_of_lt hk, List.getElem?_append]
  split
  · rfl
  · rename_i hlen
    rw [List.getElem?_drop, Nat.add_sub_cancel' (Nat.not_lt.1 hlen)]

/-- Enough new bytes leave nothing of the old ones. -/
theorem fillArray_of_le (h : n ≤ new.length) : fillArray n new old = fillArray n new old' := by
  rw [fillArray, fillArray, List.take_append_of_le_length h, List.take_append_of_le_length h]

theorem take_fillArray {m : ℕ} (hm : m ≤ n)
    (h : m ≤ new.length ∨ old'.take m = old.take m) :
    (fillArray n new old').take m = (fillArray n new old).take m := by
  refine List.ext_getElem? fun k => ?_
  by_cases hk : k < m
  · rw [List.getElem?_take_of_lt hk, List.getElem?_take_of_lt hk,
      getElem?_fillArray (hk.trans_le hm), getElem?_fillArray (hk.trans_le hm)]
    split
    · rfl
    · rename_i hlen
      rcases h with h | h
      · exact absurd (hk.trans_le h) hlen
      · rw [← List.getElem?_take_of_lt hk, h, List.getElem?_take_of_lt hk]
  · rw [List.getElem?_eq_none, List.getElem?_eq_none]
    · exact (List.length_take_le _ _).trans (Nat.not_lt.1 hk)
    · exact (List.length_take_le _ _).trans (Nat.not_lt.1 hk)

end

/-! ## Received packets -/

namespace CoreState

variable {s t : CoreState} {x : RxPacket}

@[simp]
theorem copyResponse_marks (s : CoreState) (x : RxPacket) : (s.copyResponse x).marks = s.marks := by
  unfold copyResponse
  extract_lets rsp
  split
  · split
    · rfl
    split
    · rfl
    · rfl
  · rfl

@[simp]
theorem print_marks (s : CoreState) (x : RxPacket) :
    (s.phNxpNciHalPrintResStatus x).marks = s.marks := by
  unfold phNxpNciHalPrintResStatus
  extract_lets u
  split
  · exact copyResponse_marks s x
  · exact copyResponse_marks s x

@[simp]
theorem prints_marks (s : CoreState) (l : List RxPacket) :
    (l.foldl phNxpNciHalPrintResStatus s).marks = s.marks := by
  induction l generalizing s with
  | nil => rfl
  | cons x l ih =>
    rw [List.foldl_cons, ih, print_marks]

theorem copyResponse_of_clock (hx : x.isConfigRsp = true) (h : s.isClockSet = true) :
    s.copyResponse x =
      { s with clockRxData := fillArray 20 (x.pRxData.slice x.rxDataLen) s.clockRxData } := by
  rw [copyResponse, if_pos hx, if_pos h]

theorem copyResponse_of_eeprom (hx : x.isConfigRsp = true) (h : s.isClockSet = false)
    (heeprom : s.isGetEepromArea = true) :
    s.copyResponse x = { s with
      mwEepromRxData := fillArray 32 ((x.pRxData.slice x.rxDataLen).drop 8) s.mwEepromRxData } := by
  rw [copyResponse, if_pos hx, if_neg (by rw [h]; exact Bool.false_ne_true), if_pos heeprom]

theorem copyResponse_of_other
    (h : x.isConfigRsp = true → s.isClockSet = false ∧ s.isGetEepromArea = false) :
    s.copyResponse x = s := by
  unfold copyResponse
  extract_lets rsp
  split
  · rename_i hx
    obtain ⟨hclock, heeprom⟩ := h hx
    rw [if_neg (by rw [hclock]; exact Bool.false_ne_true),
      if_neg (by rw [heeprom]; exact Bool.false_ne_true)]
  · rfl

end CoreState

namespace Agree

variable {c : CoreCall} {n : ℕ} {s t : CoreState} {x : RxPacket}

/-- What does not look at the bytes is the same. -/
theorem field {α : Type} (h : Agree c n s t) (g : CoreState → α)
    (hg : ∀ u a r e, g (u.carry a r e) = g u) : g t = g s := by
  rw [h.same, hg]

theorem isClockSet (h : Agree c n s t) : t.isClockSet = s.isClockSet :=
  h.field (fun u => u.isClockSet) fun _ _ _ _ => rfl

theorem isGetEepromArea (h : Agree c n s t) : t.isGetEepromArea = s.isGetEepromArea :=
  h.field (fun u => u.isGetEepromArea) fun _ _ _ _ => rfl

theorem clockByte (h : Agree c 2 s t) {i : ℕ} (hi : i < 17) :
    t.clockRxData.getD i 0 = s.clockRxData.getD i 0 := by
  rw [List.getD_eq_getElem?_getD, List.getD_eq_getElem?_getD, ← List.getElem?_take_of_lt hi,
    h.clock le_rfl, List.getElem?_take_of_lt hi]

/-- A change of the area of the EEPROM. -/
theorem setEeprom (h : Agree c n s t) (hn : 1 ≤ n) (g : List UInt8 → List UInt8) :
    Agree c n { s with mwEepromRxData := g s.mwEepromRxData }
      { t with mwEepromRxData := g t.mwEepromRxData } := by
  refine ⟨?_, h.aid, fun _ => congrArg g (h.eeprom hn), fun _ => congrArg g (h.eeprom hn), h.clock,
    fun hpart => ?_⟩
  · rw [h.same]
    rfl
  · rw [h.equal hpart]

/-- The command for the AID matching is the same then. -/
theorem setAid (h : Agree c n s t) (aid : UInt8) :
    Agree c n { s with aidMatchingMode := aid } { t with aidMatchingMode := aid } := by
  refine ⟨?_, fun _ => rfl, h.waited, h.eeprom, h.clock, fun hpart => ?_⟩
  · rw [h.same]
    rfl
  · rw [h.equal hpart]

theorem copyResponse (h : Agree c n s t) (x : RxPacket) :
    Agree c n (s.copyResponse x) (t.copyResponse x) := by
  by_cases hother : x.isConfigRsp = true → s.isClockSet = false ∧ s.isGetEepromArea = false
  · rw [CoreState.copyResponse_of_other hother,
      CoreState.copyResponse_of_other fun hx => by
        rw [h.isClockSet, h.isGetEepromArea]
        exact hother hx]
    exact h
  push Not at hother
  obtain ⟨hx, hwaits⟩ := hother
  by_cases hclock : s.isClockSet = true
  · rw [CoreState.copyResponse_of_clock hx hclock,
      CoreState.copyResponse_of_clock hx (h.isClockSet.trans hclock)]
    refine ⟨?_, h.aid, h.waited, h.eeprom, fun hn => ?_, fun hpart => ?_⟩
    · rw [h.same]
      rfl
    · exact take_fillArray (by decide) (Or.inr (h.clock hn))
    · rw [h.equal hpart]
  · rw [Bool.not_eq_true] at hclock
    have heeprom : s.isGetEepromArea = true := by simpa using hwaits hclock
    rw [CoreState.copyResponse_of_eeprom hx hclock heeprom,
      CoreState.copyResponse_of_eeprom hx (h.isClockSet.trans hclock)
        (h.isGetEepromArea.trans heeprom)]
    refine ⟨?_, h.aid, fun hwait => ?_, fun hn => ?_, h.clock, fun hpart => ?_⟩
    · rw [h.same]
      rfl
    · exact absurd hwait (by rw [hclock]; exact Bool.false_ne_true)
    · rw [h.eeprom hn]
    · rw [h.equal hpart]

theorem print (hcopy : Agree c n (s.copyResponse x) (t.copyResponse x)) :
    Agree c n (s.phNxpNciHalPrintResStatus x) (t.phNxpNciHalPrintResStatus x) := by
  have hcond : (x.pRxData 2 != 0 && (t.copyResponse x).configAccess && x.pRxData 3 != 0) =
      (x.pRxData 2 != 0 && (s.copyResponse x).configAccess && x.pRxData 3 != 0) := by
    rw [hcopy.same]
    rfl
  unfold CoreState.phNxpNciHalPrintResStatus
  dsimp only
  rw [hcond]
  split
  · exact hcopy.map (f := fun u => { u with configSuccess := false }) (fun _ _ _ _ => rfl) Or.inl
  · exact hcopy

theorem prints (h : Agree c n s t) (l : List RxPacket) :
    Agree c n (l.foldl CoreState.phNxpNciHalPrintResStatus s)
      (l.foldl CoreState.phNxpNciHalPrintResStatus t) := by
  induction l generalizing s t with
  | nil => exact h
  | cons x l ih => exact ih (h.copyResponse x).print

/-- One of the packets raises the level. -/
theorem prints_raise {m : ℕ} {J : CoreMarks → Prop} {l : List RxPacket} (hx : x ∈ l)
    (hraise : ∀ {u v}, Agree c m u v → J u.marks → Agree c n (u.copyResponse x) (v.copyResponse x))
    (h : Agree c m s t) (hJ : J s.marks) :
    Agree c n (l.foldl CoreState.phNxpNciHalPrintResStatus s)
      (l.foldl CoreState.phNxpNciHalPrintResStatus t) := by
  induction l generalizing s t with
  | nil => exact absurd hx List.not_mem_nil
  | cons y l ih =>
    rcases List.mem_cons.1 hx with rfl | hx
    · exact (hraise h hJ).print.prints l
    · exact ih hx (h.copyResponse y).print (by rwa [CoreState.print_marks])

/-- A packet of full length makes the bytes of the EEPROM the same. -/
theorem copyResponse_eeprom (h : Agree c 0 s t) (heeprom : s.isGetEepromArea = true)
    (hx : x.isConfigRsp = true) (hlen : 40 ≤ x.rxDataLen) :
    Agree c 1 (s.copyResponse x) (t.copyResponse x) := by
  have hcopy := h.copyResponse x
  refine { hcopy with eeprom := fun _ => ?_, clock := fun hn => absurd hn (by decide) }
  by_cases hclock : s.isClockSet = true
  · rw [CoreState.copyResponse_of_clock hx hclock,
      CoreState.copyResponse_of_clock hx (h.isClockSet.trans hclock)]
    exact h.waited hclock
  · rw [Bool.not_eq_true] at hclock
    rw [CoreState.copyResponse_of_eeprom hx hclock heeprom,
      CoreState.copyResponse_of_eeprom hx (h.isClockSet.trans hclock)
        (h.isGetEepromArea.trans heeprom)]
    refine fillArray_of_le ?_
    rw [List.length_drop, Lib.Memory.slice_length]
    omega

/-- And one for the clock. -/
theorem copyResponse_clock (h : Agree c 1 s t) (hclock : s.isClockSet = true)
    (hx : x.isConfigRsp = true) (hlen : 17 ≤ x.rxDataLen) :
    Agree c 2 (s.copyResponse x) (t.copyResponse x) := by
  have hcopy := h.copyResponse x
  refine { hcopy with eeprom := fun _ => hcopy.eeprom le_rfl, clock := fun _ => ?_ }
  rw [CoreState.copyResponse_of_clock hx hclock,
    CoreState.copyResponse_of_clock hx (h.isClockSet.trans hclock)]
  exact take_fillArray (by decide) (Or.inl (by rwa [Lib.Memory.slice_length]))

end Agree

/-! ## Steps of a pass -/

/-- The states agree up to a level, and the marks are as said. -/
def Stage (c : CoreCall) (n : ℕ) (J : CoreMarks → Prop) (s t : CoreState) : Prop :=
  Agree c n s t ∧ J s.marks

namespace CoreCall

variable {c : CoreCall} {n k : ℕ} {J J' : CoreMarks → Prop} {E : PassExit → CoreState → CoreState → Prop}

theorem exitIf_rule {R : CoreState → CoreState → Prop} {b : Bool} {e : PassExit}
    (hexit : b = true → ∀ s t, R s t → E e s t) :
    Lib.TwoRuns R (exitIf b e) (fun _ s t => b = false ∧ R s t) E := by
  refine .ite (fun hb => .throw (hexit hb)) fun hb => .pure fun s t hR => ⟨?_, hR⟩
  exact (Bool.not_eq_true b).mp hb

/-- A change of a state that leaves the bytes and the level alone. -/
theorem modify_rule {f : CoreState → CoreState} (J' : CoreMarks → Prop)
    (hf : ∀ u a r e, f (u.carry a r e) = (f u).carry a r e)
    (hwait : ∀ s, J s.marks → (f s).isClockSet = true → s.isClockSet = true ∨ 1 ≤ n)
    (hJ : ∀ s, J s.marks → J' (f s).marks) :
    Lib.TwoRuns (Stage c n J) (modify f) (fun _ => Stage c n J') E :=
  .modify fun s _ h => ⟨h.1.map hf (hwait s h.2), hJ s h.2⟩

theorem modify_keep {f : CoreState → CoreState}
    (hf : ∀ u a r e, f (u.carry a r e) = (f u).carry a r e) (hmarks : ∀ s, (f s).marks = s.marks) :
    Lib.TwoRuns (Stage c n J) (modify f) (fun _ => Stage c n J) E := by
  refine modify_rule J hf (fun s _ hclock => Or.inl ?_) fun s h => (hmarks s).symm ▸ h
  exact (congrArg CoreMarks.isClockSet (hmarks s)).symm.trans hclock

theorem sendExtCmd_rule (cmd : CoreCmd) (left : ℕ) (bytes : List UInt8) :
    Lib.TwoRuns (Stage c n J) (c.sendExtCmd k cmd left bytes)
      (fun b s t => b = (c.nfcc k cmd left).success ∧ Stage c n J s t) E := by
  refine .modifyGet fun s t h => ⟨rfl, ?_, ?_⟩
  · have hlog := h.1.map (f := fun u => { u with sent := u.sent ++ [bytes] })
      (fun _ _ _ _ => rfl) Or.inl
    exact hlog.prints _
  · rw [CoreState.prints_marks]
    exact h.2

/-- An answer in which one packet raises the level. -/
theorem sendExtCmd_raise {m : ℕ} {cmd : CoreCmd} {left : ℕ} (bytes : List UInt8)
    (hfull : c.FullAnswers → (c.nfcc k cmd left).success = true →
      ∃ x ∈ (c.nfcc k cmd left).packets, ∀ {u v}, Agree c m u v → J u.marks →
        Agree c n (u.copyResponse x) (v.copyResponse x)) :
    Lib.TwoRuns (Stage c m J) (c.sendExtCmd k cmd left bytes)
      (fun b s t => b = (c.nfcc k cmd left).success ∧ Stage c (if b then n else m) J s t) E := by
  refine .modifyGet fun s t h => ⟨rfl, ?_, ?_⟩
  · have hlog := h.1.map (f := fun u => { u with sent := u.sent ++ [bytes] })
      (fun _ _ _ _ => rfl) Or.inl
    split
    · rename_i hsuccess
      by_cases hanswers : c.FullAnswers
      · obtain ⟨x, hx, hraise⟩ := hfull hanswers hsuccess
        exact Agree.prints_raise hx hraise hlog h.2
      · rw [h.1.equal hanswers]
        exact Agree.refl c n _
    · exact hlog.prints _
  · rw [CoreState.prints_marks]
    exact h.2

theorem need_rule {cmd : CoreCmd} {bytes : List UInt8}
    (hexit : (c.nfcc k cmd 0).success = false → ∀ s t, Stage c n J s t → E .retryCoreInit s t) :
    Lib.TwoRuns (Stage c n J) (c.need k cmd bytes) (fun _ => Stage c n J) E := by
  refine .bind (sendExtCmd_rule cmd 0 bytes) fun success => .fact fun hsuccess => ?_
  refine .bind (exitIf_rule fun hb => hexit ?_) fun _ => .fact fun _ => ?_
  · rw [← hsuccess]
    exact (Bool.not_eq_true' success).mp hb
  · exact modify_keep (fun _ _ _ _ => rfl) fun _ => rfl

theorem needConfigured_rule {cmd : CoreCmd}
    (hexit : (c.nfcc k cmd 0).success = false → ∀ s t, Stage c n J s t → E .retryCoreInit s t) :
    Lib.TwoRuns (Stage c n J) (c.needConfigured k cmd) (fun _ => Stage c n J) E :=
  .ite (fun _ => .pure fun _ _ h => h) fun _ => need_rule hexit

end CoreCall

/-! ## How a pass ends -/

/-- What holds throughout a pass. -/
structure InPass (c : CoreCall) (j : ℕ) (aid cnt : UInt8) (m : CoreMarks) : Prop where
  last : ∃ i ≤ j, (m.params, m.hal) = c.lastAfter i
  aid : c.config.aidMatchingPlatform ≠ some 2 → m.aidMatchingMode = aid
  cnt : m.retryCoreInitCnt = cnt

/-- No flag is set. -/
structure Idle (m : CoreMarks) : Prop where
  fwDownloadSuccess : m.fwDownloadSuccess = false
  isClockSet : m.isClockSet = false
  issetConfig : m.issetConfig = false
  isGetEepromArea : m.isGetEepromArea = false

/-- A pass that is left before its end. `b` says that no flag was set before. -/
def LeftBy (c : CoreCall) (k : ℕ) (aid cnt : UInt8) (b : Prop) : PassExit → CoreMarks → Prop
  | .retryCoreInit, m => ¬ c.Answered k ∧ InPass c (k + 1) aid cnt m
  | .leave .invokeCallback, m => c.EndsEarly ∧ InPass c k aid cnt m ∧ (b → Idle m)
  | .leave .noMemory, m => c.malloc k = false ∧ InPass c k aid cnt m ∧ (b → Idle m)
  | .leave .answered, m => (∃ j ≤ k, c.AnswersLast j) ∧ InPass c (k + 1) aid cnt m ∧ Idle m
  | .leave _, _ => False

/-- The states in which a pass is left. -/
abbrev Left (c : CoreCall) (k : ℕ) (aid cnt : UInt8) (b : Prop) (e : PassExit) :
    CoreState → CoreState → Prop :=
  Stage c 0 (LeftBy c k aid cnt b e)

theorem InPass.succ {c : CoreCall} {j : ℕ} {aid cnt : UInt8} {m : CoreMarks}
    (h : InPass c j aid cnt m) : InPass c (j + 1) aid cnt m := by
  obtain ⟨i, hi, hlast⟩ := h.last
  exact { h with last := ⟨i, Nat.le_succ_of_le hi, hlast⟩ }

namespace CoreCall

variable {c : CoreCall} {n k : ℕ} {aid cnt : UInt8} {b : Prop} {J : CoreMarks → Prop}

theorem retry_left (cmd : CoreCmd) (hcmd : cmd ∉ CoreCmd.optional) (hne : cmd ≠ .getMwEeprom)
    (hJ : ∀ m, J m → InPass c (k + 1) aid cnt m) (hfailed : (c.nfcc k cmd 0).success = false)
    (s t : CoreState) (h : Stage c n J s t) : Left c k aid cnt b .retryCoreInit s t := by
  refine ⟨h.1.mono (Nat.zero_le n), fun hanswered => ?_, hJ _ h.2⟩
  have hsuccess := hanswered.once cmd hcmd hne
  rw [hfailed] at hsuccess
  exact Bool.false_ne_true hsuccess

theorem need_stage {cmd : CoreCmd} (bytes : List UInt8)
    (hcmd : cmd ∉ CoreCmd.optional ∧ cmd ≠ .getMwEeprom)
    (hJ : ∀ m, J m → InPass c (k + 1) aid cnt m) :
    Lib.TwoRuns (Stage c n J) (c.need k cmd bytes) (fun _ => Stage c n J) (Left c k aid cnt b) :=
  need_rule (retry_left _ hcmd.1 hcmd.2 hJ)

theorem needConfigured_stage {cmd : CoreCmd} (hcmd : cmd ∉ CoreCmd.optional ∧ cmd ≠ .getMwEeprom)
    (hJ : ∀ m, J m → InPass c (k + 1) aid cnt m) :
    Lib.TwoRuns (Stage c n J) (c.needConfigured k cmd) (fun _ => Stage c n J)
      (Left c k aid cnt b) :=
  needConfigured_rule (retry_left _ hcmd.1 hcmd.2 hJ)

/-- The reset of the NFCC. -/
theorem restart_stage :
    Lib.TwoRuns (Stage c 0 fun m => InPass c k aid cnt m ∧ (b → Idle m)) (c.restart k)
      (fun _ => Stage c 0 fun m => InPass c k aid cnt m ∧ (b → Idle m)) (Left c k aid cnt b) := by
  have hin : ∀ m, InPass c k aid cnt m ∧ (b → Idle m) → InPass c (k + 1) aid cnt m :=
    fun m h => h.1.succ
  refine .bind (modify_keep (fun _ _ _ _ => rfl) fun _ => rfl) fun _ => ?_
  refine .bind (need_stage cmdResetNci (by decide) hin) fun _ => ?_
  refine .bind (exitIf_rule fun h2 s t h => ⟨h.1, Or.inl (beq_iff_eq.1 h2), h.2⟩) fun _ =>
    .fact fun _ => ?_
  refine .bind (need_stage _ (by decide) hin) fun _ => ?_
  exact .imp (exitIf_rule fun h3 s t h => ⟨h.1, Or.inr (beq_iff_eq.1 h3), h.2⟩) fun _ _ _ h => h.2

/-- What `phNxpNciHal_get_mw_eeprom` finds: the area, or no answer to any of its tries. -/
theorem getMwEeprom_stage (left : ℕ) :
    Lib.TwoRuns (Stage c 0 (InPass c k aid cnt)) (c.getMwEeprom k left)
      (fun found s t =>
        if found then Stage c 1 (fun m => InPass c k aid cnt m ∧ m.isGetEepromArea = false) s t
        else (∀ i < left, (c.nfcc k .getMwEeprom i).success = false) ∧
          Stage c 0 (InPass c k aid cnt) s t) (Left c k aid cnt b) := by
  induction left with
  | zero => exact .pure fun s t h => ⟨fun i hi => absurd hi (Nat.not_lt_zero i), h⟩
  | succ left ih =>
    refine .bind (modify_rule
      (fun m => InPass c k aid cnt m ∧ m.isGetEepromArea = true) (fun _ _ _ _ => rfl)
      (fun _ _ => Or.inl) fun s h => ⟨⟨h.last, h.aid, h.cnt⟩, rfl⟩) fun _ => ?_
    refine .bind (sendExtCmd_raise (n := 1) getMwEepromCmd fun hfull hsuccess => ?_)
      fun success => .fact fun hsuccess => ?_
    · obtain ⟨x, hx, hrsp, hlen⟩ := hfull.mwEeprom k left hsuccess
      exact ⟨x, hx, fun h hJ => h.copyResponse_eeprom hJ.2 hrsp hlen⟩
    refine .bind (modify_rule
      (fun m => InPass c k aid cnt m ∧ m.isGetEepromArea = false) (fun _ _ _ _ => rfl)
      (fun _ _ => Or.inl) fun s h => ⟨⟨h.1.last, h.1.aid, h.1.cnt⟩, rfl⟩) fun _ => ?_
    refine .ite (fun hfound => ?_) fun hfailed => ?_
    · refine .bind (.modify (S := fun _ => Stage c 1 fun m =>
        InPass c k aid cnt m ∧ m.isGetEepromArea = false) fun s t h => ?_) fun _ => .pure fun s t h => h
      rw [if_pos hfound] at h
      by_cases hmark : s.mwEepromRxData.getD 12 0 = 0
      · rw [if_pos hmark, if_pos (by rwa [h.1.eeprom le_rfl])]
        exact h
      · rw [if_neg hmark, if_neg (by rwa [h.1.eeprom le_rfl])]
        exact ⟨h.1.map (f := fun u => { u with fwDownloadSuccess := true }) (fun _ _ _ _ => rfl)
            Or.inl, ⟨h.2.1.last, h.2.1.aid, h.2.1.cnt⟩, h.2.2⟩
    · refine .imp (.weaken ih fun s t h => ?_) fun found s t h => ?_
      · rw [if_neg hfailed] at h
        exact ⟨h.1, h.2.1⟩
      · cases found with
        | true => exact h
        | false =>
          refine ⟨fun i hi => ?_, h.2⟩
          rcases Nat.lt_succ_iff_lt_or_eq.1 hi with hi | rfl
          · exact h.1 i hi
          · rw [← hsuccess]
            exact (Bool.not_eq_true _).mp hfailed

/-- The clock is read, or still waited for. -/
theorem checkClockConfig_stage :
    Lib.TwoRuns (Stage c 1 fun m => InPass c k aid cnt m ∧ m.isGetEepromArea = false)
      (c.checkClockConfig k)
      (fun _ => Stage c 2 fun m =>
        InPass c k aid cnt m ∧ m.isGetEepromArea = false ∧ m.isClockSet = false)
      (Left c k aid cnt b) := by
  refine .bind (modify_rule
    (fun m => InPass c k aid cnt m ∧ m.isGetEepromArea = false ∧ m.isClockSet = true)
    (fun _ _ _ _ => rfl) (fun _ _ _ => Or.inr le_rfl)
    fun s h => ⟨⟨h.1.last, h.1.aid, h.1.cnt⟩, h.2, rfl⟩) fun _ => ?_
  refine .bind (sendExtCmd_raise (n := 2) getClockCmd fun hfull hsuccess => ?_)
    fun success => .fact fun hsuccess => ?_
  · obtain ⟨x, hx, hrsp, hlen⟩ := hfull.clock k hsuccess
    exact ⟨x, hx, fun h hJ => h.copyResponse_clock hJ.2.2 hrsp hlen⟩
  refine .bind (exitIf_rule fun hb => retry_left .getClock (by decide) (by decide)
    (fun m h => h.1.succ) ?_) fun _ => .fact fun hfound => ?_
  · rw [← hsuccess]
    exact (Bool.not_eq_true' success).mp hb
  refine .modify fun s t h => ?_
  rw [if_pos (by simpa using hfound)] at h
  rw [h.1.clockByte (by decide : 12 < 17), h.1.clockByte (by decide : 16 < 17)]
  refine ⟨h.1.map (f := fun u =>
    { u with
      issetConfig := !(s.clockRxData.getD 12 0 == c.config.checkConfigParameter &&
        s.clockRxData.getD 16 0 == c.config.bTimeout)
      isClockSet := false
      status := true }) (fun _ _ _ _ => rfl) (fun h => nomatch h), ?_⟩
  exact ⟨⟨h.2.1.last, h.2.1.aid, h.2.1.cnt⟩, h.2.2.1, rfl⟩

theorem inquire_stage (label : Bool) :
    Lib.TwoRuns (Stage c 0 fun m => InPass c k aid cnt m ∧ (b → Idle m)) (c.inquire k label)
      (fun _ => Stage c 2 fun m =>
        InPass c k aid cnt m ∧ m.isGetEepromArea = false ∧ m.isClockSet = false)
      (Left c k aid cnt b) := by
  have hin : ∀ m, InPass c k aid cnt m ∧ (b → Idle m) → InPass c (k + 1) aid cnt m :=
    fun m h => h.1.succ
  refine .bind (.ite (P := label = true) (fun _ => restart_stage) fun _ => .pure fun _ _ h => h) fun _ => ?_
  refine .bind (exitIf_rule fun hmalloc s t h =>
    ⟨h.1, (Bool.not_eq_true' _).mp hmalloc, h.2⟩) fun _ => .fact fun _ => ?_
  refine .bind (modify_keep (fun _ _ _ _ => rfl) fun _ => rfl) fun _ => ?_
  refine .bind (needConfigured_stage (by decide) hin) fun _ => ?_
  refine .bind (.weaken (getMwEeprom_stage 4) fun s t h => ⟨h.1, h.2.1⟩) fun found => ?_
  cases found with
  | true => exact .bind (.imp (exitIf_rule fun h => nomatch h) fun _ _ _ h => h.2) fun _ =>
      checkClockConfig_stage
  | false =>
    refine .bind (exitIf_rule fun _ s t h => ⟨h.2.1, fun hanswered => ?_, h.2.2.succ⟩) fun _ =>
      .fact fun h => nomatch h
    obtain ⟨i, hi, hsuccess⟩ := hanswered.getMwEeprom
    rw [h.1 i hi] at hsuccess
    exact Bool.false_ne_true hsuccess

/-! ### The settings -/

theorem setClock_stage (left : ℕ) :
    Lib.TwoRuns (Stage c 2 fun m =>
        InPass c k aid cnt m ∧ m.isGetEepromArea = false ∧ m.isClockSet = false)
      (c.setClock k left)
      (fun _ => Stage c 2 fun m =>
        InPass c k aid cnt m ∧ m.isGetEepromArea = false ∧ m.isClockSet = false)
      (Left c k aid cnt b) := by
  induction left with
  | zero => exact .pure fun _ _ h => h
  | succ left ih =>
    refine .bind (modify_rule
      (fun m => InPass c k aid cnt m ∧ m.isGetEepromArea = false) (fun _ _ _ _ => rfl)
      (fun _ _ _ => Or.inr (by decide)) fun s h => ⟨⟨h.1.last, h.1.aid, h.1.cnt⟩, h.2.1⟩) fun _ => ?_
    refine .bind (sendExtCmd_rule .setClock left c.config.setClockCmd) fun _ => .fact fun _ => ?_
    refine .bind (modify_rule
      (fun m => InPass c k aid cnt m ∧ m.isGetEepromArea = false ∧ m.isClockSet = false)
      (fun _ _ _ _ => rfl) (fun _ _ h => nomatch h)
      fun s h => ⟨⟨h.1.last, h.1.aid, h.1.cnt⟩, h.2, rfl⟩) fun _ => ?_
    refine .bind (.read fun s t h => h.1.clockByte (by decide)) fun status => ?_
    exact .ite (fun _ => .pure fun _ _ h => h.2) fun _ => .weaken ih fun _ _ h => h.2

theorem applyClock_stage :
    Lib.TwoRuns (Stage c 2 fun m =>
        InPass c k aid cnt m ∧ m.isGetEepromArea = false ∧ m.isClockSet = false)
      (c.applyClock k)
      (fun _ => Stage c 2 fun m => InPass c k aid cnt m ∧ m.isGetEepromArea = false ∧
        m.isClockSet = false ∧ m.issetConfig = false)
      (Left c k aid cnt b) := by
  refine .bind (.read fun s t h => h.1.field
    (fun u => c.config.isModified || u.fwDownloadSuccess || u.issetConfig) fun _ _ _ _ => rfl)
    fun apply => .ite (fun _ => ?_) fun hnot => .pure fun s t h => ?_
  · refine .bind (.weaken (setClock_stage 4) fun _ _ h => h.2) fun _ => ?_
    exact modify_rule _ (fun _ _ _ _ => rfl) (fun _ _ => Or.inl)
      fun s h => ⟨⟨h.1.last, h.1.aid, h.1.cnt⟩, h.2.1, h.2.2, rfl⟩
  · have hclear : (c.config.isModified || s.fwDownloadSuccess || s.issetConfig) = false := by
      rw [← h.1]
      exact (Bool.not_eq_true _).mp hnot
    rw [Bool.or_eq_false_iff] at hclear
    exact ⟨h.2.1, h.2.2.1, h.2.2.2.1, h.2.2.2.2, hclear.2⟩

theorem checkFactoryReset_stage :
    Lib.TwoRuns (Stage c n J) (c.checkFactoryReset k) (fun _ => Stage c n J)
      (Left c k aid cnt b) := by
  refine .ite (fun _ => .pure fun _ _ h => h) fun _ => ?_
  exact .bind (sendExtCmd_rule .resetEseSession 0 resetEseSessionIdentitySet) fun _ =>
    .fact fun _ => .pure fun _ _ h => h

theorem setMwEeprom_stage (bytes : List UInt8) (left : ℕ) :
    Lib.TwoRuns (Stage c n J) (c.setMwEeprom k bytes left) (fun _ => Stage c n J)
      (Left c k aid cnt b) := by
  induction left with
  | zero => exact .pure fun _ _ h => h
  | succ left ih =>
    refine .bind (sendExtCmd_rule .setMwEeprom left bytes) fun _ => .fact fun _ => ?_
    exact .ite (fun _ => .pure fun _ _ h => h) fun _ => ih

/-- After the settings no flag is set. -/
theorem applySettings_stage :
    Lib.TwoRuns (Stage c 2 fun m => InPass c k aid cnt m ∧ m.isGetEepromArea = false ∧
        m.isClockSet = false ∧ m.issetConfig = false)
      (c.applySettings k) (fun _ => Stage c 2 fun m => InPass c k aid cnt m ∧ Idle m)
      (Left c k aid cnt b) := by
  have hneeded : ∀ cmd ∈ rfSettings, cmd ∉ CoreCmd.optional ∧ cmd ≠ .getMwEeprom := by decide
  refine .bind (.read fun s t h => h.1.field
    (fun u => c.config.isModified || u.fwDownloadSuccess) fun _ _ _ _ => rfl)
    fun apply => .ite (fun _ => ?_) fun hnot => .pure fun s t h => ?_
  · refine .bind (.weaken (modify_rule (fun m => InPass c k aid cnt m ∧ Idle m)
      (fun _ _ _ _ => rfl) (fun _ _ => Or.inl) fun s h =>
        ⟨⟨h.1.last, h.1.aid, h.1.cnt⟩, rfl, h.2.2.1, h.2.2.2, h.2.1⟩) fun _ _ h => h.2) fun _ => ?_
    refine .bind (.forM _ fun cmd hcmd =>
      needConfigured_stage (hneeded cmd hcmd) fun m h => h.1.succ) fun _ => ?_
    refine .bind (.modify (S := fun _ => Stage c 2 fun m => InPass c k aid cnt m ∧ Idle m)
      fun s t h => ⟨h.1.setEeprom (by decide) fun l => l.set 12 0, h.2⟩) fun _ => ?_
    refine .bind (.read fun s t h => h.1.eeprom (by decide)) fun area => ?_
    refine .bind (.weaken (setMwEeprom_stage _ 4) fun _ _ h => h.2) fun _ => ?_
    exact modify_keep (fun _ _ _ _ => rfl) fun _ => rfl
  · have hclear : (c.config.isModified || s.fwDownloadSuccess) = false := by
      rw [← h.1]
      exact (Bool.not_eq_true _).mp hnot
    rw [Bool.or_eq_false_iff] at hclear
    obtain ⟨hagree, hin, hget, hclock, hset⟩ := h.2
    exact ⟨hagree, hin, hclear.2, hclock, hset, hget⟩

/-! ### The last commands -/

theorem swpFullPwr_stage (hJ : ∀ m, J m → InPass c (k + 1) aid cnt m) :
    Lib.TwoRuns (Stage c n J) (c.swpFullPwr k) (fun _ => Stage c n J) (Left c k aid cnt b) := by
  unfold swpFullPwr
  split
  · exact .pure fun _ _ h => h
  · exact need_stage _ (by decide) hJ

/-- The command for the AID matching. When its last byte is sent as it is, both states have the
same. -/
theorem aidMatching_stage :
    Lib.TwoRuns (Stage c 2 fun m => InPass c k aid cnt m ∧ Idle m) (c.aidMatching k)
      (fun _ => Stage c 2 fun m => InPass c k aid cnt m ∧ Idle m) (Left c k aid cnt b) := by
  have hin : ∀ m, InPass c k aid cnt m ∧ Idle m → InPass c (k + 1) aid cnt m :=
    fun m h => h.1.succ
  refine .ite (fun h1 => ?_) fun _ => .ite (fun h2 => ?_) fun _ => .pure fun _ _ h => h
  · refine .bind (.read fun s t h => h.1.aid h1) fun on => ?_
    exact .weaken (need_stage _ (by decide) hin) fun _ _ h => h.2
  · refine .bind (.modify (S := fun _ => Stage c 2 fun m => InPass c k aid cnt m ∧ Idle m)
      fun s t h => ⟨h.1.setAid 0x00, ⟨h.2.1.last, fun hne => absurd h2 hne, h.2.1.cnt⟩, ?_⟩)
      fun _ => need_stage _ (by decide) hin
    exact ⟨h.2.2.fwDownloadSuccess, h.2.2.isClockSet, h.2.2.issetConfig, h.2.2.isGetEepromArea⟩

theorem p2pRouting_stage (hJ : ∀ m, J m → InPass c (k + 1) aid cnt m) :
    Lib.TwoRuns (Stage c n J) (c.p2pRouting k) (fun _ => Stage c n J) (Left c k aid cnt b) := by
  refine .bind (.read fun s t h => h.1.field (fun u => c.isRecovery && u.params 35 == 0)
    fun _ _ _ _ => rfl) fun reset => ?_
  refine .weaken (.ite (fun _ => ?_) fun _ => .pure fun _ _ h => h) fun _ _ h => h.2
  exact need_stage _ (by decide) hJ

theorem screenState_stage (hJ : ∀ m, J m → InPass c (k + 1) aid cnt m) :
    Lib.TwoRuns (Stage c n J) (c.screenState k) (fun _ => Stage c n J) (Left c k aid cnt b) := by
  refine .ite (fun _ => ?_) fun _ => need_stage _ (by decide) hJ
  refine .bind (need_stage _ (by decide) hJ) fun _ => ?_
  refine .bind (.read fun s t h => h.1.field
    (fun u => Lib.Memory.slice (fun i => u.params (3 + i)) (u.params 2).toNat)
    fun _ _ _ _ => rfl) fun discovery => ?_
  exact .weaken (need_stage _ (by decide) hJ) fun _ _ h => h.2

theorem lastCommand_stage (hrecovery : c.isRecovery = true) :
    Lib.TwoRuns (Stage c 2 fun m => InPass c k aid cnt m ∧ Idle m) (c.lastCommand k)
      (fun _ => Stage c 2 fun m => InPass c (k + 1) aid cnt m ∧ Idle m) (Left c k aid cnt b) := by
  refine .bind (.read fun s t h => h.1.field (fun u => sendsLast (c.params 1) u.params)
    fun _ _ _ _ => rfl) fun sends => .ite (fun hsends => ?_) fun _ => .pure fun s t h =>
      ⟨h.2.1, h.2.2.1.succ, h.2.2.2⟩
  refine .bind (.read fun s t h => h.2.1.field (fun u => c.writeLast (u.params, u.hal))
    fun _ _ _ _ => rfl) fun w => ?_
  -- the command was changed some times before, and now once more
  refine .bind (.modify (S := fun _ s t =>
    (∃ i ≤ k, sendsLast (c.params 1) (c.lastAfter i).1 = true ∧ w = c.writeLast (c.lastAfter i)) ∧
      Stage c 2 (fun m => InPass c (k + 1) aid cnt m ∧ Idle m) s t) fun s t h => ?_) fun _ =>
        .fact fun hw => ?_
  · obtain ⟨hw, hsame, hagree, hin, hidle⟩ := h
    obtain ⟨i, hi, hlast⟩ := hin.last
    have hpair : (s.params, s.hal) = c.lastAfter i := hlast
    have hparams : s.params = (c.lastAfter i).1 := congrArg Prod.fst hpair
    rw [hpair] at hw
    rw [hparams] at hsame
    refine ⟨⟨i, hi, hsame.symm.trans hsends, hw⟩, ?_, ⟨⟨i + 1, Nat.succ_le_succ hi, ?_⟩, hin.aid,
      hin.cnt⟩, ⟨hidle.fwDownloadSuccess, hidle.isClockSet, hidle.issetConfig,
        hidle.isGetEepromArea⟩⟩
    · exact hagree.map (f := fun u => { u with params := w.2.1, hal := w.2.2 })
        (fun _ _ _ _ => rfl) Or.inl
    · rw [hw]
      rfl
  · obtain ⟨i, hi, hlast, rfl⟩ := hw
    refine .bind (exitIf_rule fun hne s t h => ?_) fun _ => .fact fun _ =>
      need_stage _ (by decide) fun _ h => h.1
    exact ⟨h.1.mono (Nat.zero_le 2), ⟨i, hi, hrecovery, hlast, bne_iff_ne.1 hne⟩, h.2⟩

theorem recover_stage :
    Lib.TwoRuns (Stage c 2 fun m => InPass c k aid cnt m ∧ Idle m) (c.recover k)
      (fun _ => Stage c 2 fun m => InPass c (k + 1) aid cnt m ∧ Idle m) (Left c k aid cnt b) := by
  have hin : ∀ m, InPass c k aid cnt m ∧ Idle m → InPass c (k + 1) aid cnt m :=
    fun m h => h.1.succ
  refine .ite (fun hrecovery => ?_) fun _ => .pure fun s t h => ⟨h.1, h.2.1.succ, h.2.2⟩
  refine .bind (need_stage _ (by decide) hin) fun _ => ?_
  refine .bind (need_stage _ (by decide) hin) fun _ => ?_
  refine .bind (need_stage _ (by decide) hin) fun _ => ?_
  exact .bind (screenState_stage hin) fun _ => lastCommand_stage hrecovery

theorem configure_stage :
    Lib.TwoRuns (Stage c 2 fun m =>
        InPass c k aid cnt m ∧ m.isGetEepromArea = false ∧ m.isClockSet = false)
      (c.configure k) (fun _ => Stage c 2 fun m => InPass c (k + 1) aid cnt m ∧ Idle m)
      (Left c k aid cnt b) := by
  have hin : ∀ m, InPass c k aid cnt m ∧ Idle m → InPass c (k + 1) aid cnt m :=
    fun m h => h.1.succ
  refine .bind applyClock_stage fun _ => ?_
  refine .bind checkFactoryReset_stage fun _ => ?_
  refine .bind (modify_keep (fun _ _ _ _ => rfl) fun _ => rfl) fun _ => ?_
  refine .bind (needConfigured_stage (by decide) fun m h => h.1.succ) fun _ => ?_
  refine .bind applySettings_stage fun _ => ?_
  refine .bind (needConfigured_stage (by decide) hin) fun _ => ?_
  refine .bind (needConfigured_stage (by decide) hin) fun _ => ?_
  refine .bind (modify_keep (fun _ _ _ _ => rfl) fun _ => rfl) fun _ => ?_
  refine .bind (p2pRouting_stage hin) fun _ => ?_
  refine .bind (swpFullPwr_stage hin) fun _ => ?_
  exact .bind aidMatching_stage fun _ => recover_stage

/-- One pass takes states that agree to states that agree, and ends the same way in both: with no
flag set, or by an exit for its reason. -/
theorem pass_stage (label : Bool) :
    Lib.TwoRuns (Stage c 0 fun m => InPass c k aid cnt m ∧ (b → Idle m)) (c.pass k label)
      (fun _ => Stage c 0 fun m => InPass c (k + 1) aid cnt m ∧ Idle m) (Left c k aid cnt b) :=
  .bind (inquire_stage label) fun _ =>
    .imp configure_stage fun _ _ _ h => ⟨h.1.mono (Nat.zero_le 2), h.2⟩

/-! ## The passes of a call -/

/-- What follows a pass. -/
def afterPass (c : CoreCall) (left k : ℕ) :
    EStateM.Result PassExit CoreState Unit → CoreExit × ℕ × CoreState
  | .ok _ s => (.complete, k + 1, s)
  | .error (.leave exit) s => (exit, k + 1, s)
  | .error .retryCoreInit s =>
    c.retryCoreInit left (k + 1) { s with retryCoreInitCnt := s.retryCoreInitCnt + 1 }

/-- With a counter of zero all calls have three passes after the first. -/
theorem passes_eq {s : CoreState} (h : Stage c 0 (InPass c 0 aid 0) s s) :
    c.passes s = c.afterPass 3 0 ((c.pass 0 c.isRecovery).run s) := by
  have hcnt : s.retryCoreInitCnt = 0 := h.2.cnt
  unfold passes
  by_cases hrecovery : c.isRecovery = true
  · rw [if_pos hrecovery, hcnt, hrecovery]
    rfl
  · rw [if_neg hrecovery, (Bool.not_eq_true _).mp hrecovery]
    have hend := pass_stage (b := False) false s s ⟨h.1, h.2, False.elim⟩
    generalize (c.pass 0 false).run s = x at hend
    cases hend with
    | ok => rfl
    | @error e u _ hleft =>
      cases e with
      | leave exit => rfl
      | retryCoreInit =>
        have hone : u.retryCoreInitCnt = 0 := hleft.2.2.cnt
        simp only [afterPass, hone]
        rfl

/-- The call is over, and no flag is set. -/
structure Cleaned (c : CoreCall) (aid : UInt8) (r : CoreExit × ℕ × CoreState) : Prop where
  cnt : r.1 ≠ .complete → r.2.2.retryCoreInitCnt = 0
  idle : Idle r.2.2.marks
  aid : c.config.aidMatchingPlatform ≠ some 2 → r.2.2.aidMatchingMode = aid

section
variable {left j : ℕ} {s : CoreState}

/-- A pass up to the one that is answered: it is this one, or the next ones follow. -/
theorem afterPass_complete (cnt : UInt8) {x : EStateM.Result PassExit CoreState Unit} (hearly : ¬ c.EndsEarly)
    (hj : k ≤ j) (hanswered : c.Answered j)
    (hbefore : ∀ i ≤ j, c.malloc i = true ∧ ¬ c.AnswersLast i)
    (hloop : ∀ u, k + 1 ≤ j → Stage c 0 (InPass c (k + 1) aid (cnt + 1)) u u →
      Cleaned c aid (c.retryCoreInit left (k + 1) u))
    (hend : Lib.SameEnd (fun _ => Stage c 0 fun m => InPass c (k + 1) aid cnt m ∧ Idle m)
      (Left c k aid cnt b) x x) : Cleaned c aid (c.afterPass left k x) := by
  cases x with
  | ok a u =>
    cases hend with
    | ok h => exact ⟨fun hne => absurd rfl hne, h.2.2, h.2.1.aid⟩
  | error e u =>
    cases hend with
    | error h =>
      cases e with
      | retryCoreInit =>
        have hlt : k ≠ j := by
          rintro rfl
          exact h.2.1 hanswered
        refine hloop _ (by omega) ⟨Agree.refl c 0 _, h.2.2.last, h.2.2.aid, ?_⟩
        exact congrArg (· + 1) h.2.2.cnt
      | leave exit =>
        cases exit with
        | notOpen => exact h.2.elim
        | gaveUp => exact h.2.elim
        | complete => exact h.2.elim
        | invokeCallback => exact absurd h.2.1 hearly
        | noMemory =>
          have hno := h.2.1
          rw [(hbefore k hj).1] at hno
          cases hno
        | answered =>
          obtain ⟨i, hi, hlast⟩ := h.2.1
          exact absurd hlast (hbefore i (hi.trans hj)).2

theorem retryCoreInit_complete (hearly : ¬ c.EndsEarly) (hanswered : c.Answered j)
    (hbefore : ∀ i ≤ j, c.malloc i = true ∧ ¬ c.AnswersLast i) (hkj : k ≤ j) (hj : j < k + left)
    (h : Stage c 0 (InPass c k aid cnt) s s) : Cleaned c aid (c.retryCoreInit left k s) := by
  induction left generalizing k cnt s with
  | zero => omega
  | succ left ih =>
    refine afterPass_complete cnt (b := False) hearly hkj hanswered hbefore
      (fun u hlt hnext => ?_) (pass_stage true s s ⟨h.1, h.2, False.elim⟩)
    exact ih hlt (by omega) hnext

theorem passes_complete (hcomplete : c.Completes) (h : Stage c 0 (InPass c 0 aid 0) s s) :
    Cleaned c aid (c.passes s) := by
  obtain ⟨hearly, j, hj, hanswered, hbefore⟩ := hcomplete
  rw [passes_eq h]
  refine afterPass_complete 0 (b := False) hearly (Nat.zero_le j) hanswered hbefore
    (fun u hlt hnext => ?_) (pass_stage _ s s ⟨h.1, h.2, False.elim⟩)
  exact retryCoreInit_complete hearly hanswered hbefore hlt (by omega) hnext

/-- When the first pass is answered the counter stays at zero. -/
theorem passes_answered (hanswered : c.Answered 0) (h : Stage c 0 (InPass c 0 aid 0) s s)
    (hidle : Idle s.marks ∨ ¬ c.EndsEarly ∧ c.malloc 0 = true) : Cleaned c aid (c.passes s) := by
  rw [passes_eq h]
  have hend := pass_stage (b := Idle s.marks) c.isRecovery s s ⟨h.1, h.2, fun hb => hb⟩
  generalize (c.pass 0 c.isRecovery).run s = x at hend
  cases hend with
  | ok h => exact ⟨fun hne => absurd rfl hne, h.2.2, h.2.1.aid⟩
  | @error e u _ h =>
    cases e with
    | retryCoreInit => exact absurd hanswered h.2.1
    | leave exit =>
      cases exit with
      | notOpen => exact h.2.elim
      | gaveUp => exact h.2.elim
      | complete => exact h.2.elim
      | answered => exact ⟨fun _ => h.2.2.1.cnt, h.2.2.2, h.2.2.1.aid⟩
      | invokeCallback =>
        rcases hidle with hidle | hidle
        · exact ⟨fun _ => h.2.2.1.cnt, h.2.2.2 hidle, h.2.2.1.aid⟩
        · exact absurd h.2.1 hidle.1
      | noMemory =>
        rcases hidle with hidle | hidle
        · exact ⟨fun _ => h.2.2.1.cnt, h.2.2.2 hidle, h.2.2.1.aid⟩
        · have hno := h.2.1
          rw [hidle.2] at hno
          cases hno

end

end CoreCall

/-! ## Calls in a row -/

/-- One call. -/
def CoreGlobals.step (g : CoreGlobals) (c : CoreCall) : Option (CoreGlobals × CoreOutcome) :=
  some (g.phNxpNciHalCoreInitialized c)

/-- The command for the AID matching is as the next call has it: no call has put a zero into it, if
the next one sends it as it is. -/
def CoreCall.KeepsAidMatching (c next : CoreCall) : Prop :=
  next.config.aidMatchingPlatform = some 1 → c.config.aidMatchingPlatform ≠ some 2

/-- Nothing is left for the next call. -/
structure Fresh (next : CoreCall) (g : CoreGlobals) : Prop where
  cnt : g.retryCoreInitCnt = 0
  fwDownloadSuccess : g.fwDownloadSuccess = false
  isClockSet : g.isClockSet = false
  issetConfig : g.issetConfig = false
  isGetEepromArea : g.isGetEepromArea = false
  aid : next.config.aidMatchingPlatform = some 1 → g.aidMatchingMode = 0x01

namespace Fresh

variable {c next : CoreCall} {g h : CoreGlobals}

theorem init (next : CoreCall) : Fresh next CoreGlobals.init :=
  ⟨rfl, rfl, rfl, rfl, rfl, fun _ => rfl⟩

theorem enter (hg : Fresh next g) (c : CoreCall) :
    Stage c 0 (InPass c 0 g.aidMatchingMode 0) (g.enter c) (g.enter c) :=
  ⟨Agree.refl c 0 _, ⟨0, le_rfl, rfl⟩, fun _ => rfl, hg.cnt⟩

theorem idle (hg : Fresh next g) (c : CoreCall) (hdownload : c.download ≠ some true) :
    Idle (g.enter c).marks := by
  refine ⟨?_, hg.isClockSet, hg.issetConfig, hg.isGetEepromArea⟩
  show c.download.getD g.fwDownloadSuccess = false
  cases hc : c.download with
  | none => exact hg.fwDownloadSuccess
  | some b =>
    cases b with
    | false => rfl
    | true => exact absurd hc hdownload

theorem exitFrom (hg : Fresh next g) (haid : c.KeepsAidMatching next) {r : CoreExit × ℕ × CoreState}
    (hclean : CoreCall.Cleaned c g.aidMatchingMode r) : Fresh next (CoreGlobals.exitFrom c r).1 := by
  refine ⟨?_, hclean.idle.fwDownloadSuccess, hclean.idle.isClockSet, hclean.idle.issetConfig,
    hclean.idle.isGetEepromArea, fun hnext => (hclean.aid (haid hnext)).trans (hg.aid hnext)⟩
  show (if r.1 = .complete then 0 else r.2.2.retryCoreInitCnt) = 0
  split
  · rfl
  · rename_i hne
    exact hclean.cnt hne

/-- A call that ends clean leaves nothing for the next one. -/
theorem call (hg : Fresh next g) (hclean : c.EndsClean) (haid : c.KeepsAidMatching next) :
    Fresh next (g.phNxpNciHalCoreInitialized c).1 := by
  unfold CoreGlobals.phNxpNciHalCoreInitialized
  unfold CoreCall.EndsClean at hclean
  split
  · rename_i hopen
    rw [if_pos hopen] at hclean
    refine hg.exitFrom haid ?_
    rcases hclean with hcomplete | ⟨hanswered, hdownload⟩
    · exact CoreCall.passes_complete hcomplete (hg.enter c)
    · refine CoreCall.passes_answered hanswered (hg.enter c) ?_
      by_cases hd : c.download = some true
      · exact Or.inr (hdownload hd)
      · exact Or.inl (hg.idle c hd)
  · rename_i hclosed
    rw [if_neg hclosed] at hclean
    exact hg.exitFrom haid ⟨fun _ => hg.cnt, hg.idle c hclean, fun _ => rfl⟩

end Fresh

/-- A configuration file with the command for the AID matching only. -/
def plainConfig : CoreConfig where
  bytes := fun _ => []
  isModified := false
  sysClkSrcSel := none
  sysClkFreqSel := none
  sysClockToCfg := none
  swpFullPwrOn := none
  aidMatchingPlatform := some 1
  mifareReaderEnable := 0

/-- A packet as it is received. -/
def rxPacket (bytes : List UInt8) : RxPacket := ⟨Lib.Memory.put (fun _ => 0) 0 bytes, bytes.length⟩

/-- The answers of an NFCC whose clock is set and whose EEPROM has no mark. -/
def answering (cmd : CoreCmd) : Answer :=
  if cmd = .getMwEeprom then
    ⟨[rxPacket ([0x40, 0x03, 0x25, 0x00, 0x01, 0xA0, 0x0F, 0x20] ++ List.replicate 32 0x00)], true⟩
  else if cmd = .getClock then
    ⟨[rxPacket [0x40, 0x03, 0x0E, 0x00, 0x03, 0xA0, 0x02, 0x01, 0x00, 0xA0, 0x03, 0x01, 0x03, 0xA0,
      0x04, 0x01, 0x01]], true⟩
  else ⟨[rxPacket [0x40, 0x02, 0x02, 0x00, 0x00]], true⟩

/-- A recovery without a last command, in which the NFCC answers or not. -/
def recovery (answers : Bool) : CoreCall where
  params := Lib.Memory.put (fun _ => 0) 0 [0x01]
  config := plainConfig
  hal := HalState.init
  hasDataCback := true
  download := none
  hasEseInfo := true
  malloc := fun _ => true
  nciVersion := fun _ => 0x10
  nfcc := fun _ cmd _ => if answers then answering cmd else ⟨[], false⟩

end AliceHal.Pn54x.Hal
