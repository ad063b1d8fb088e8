import AliceHal.Pn54x.Hal.Receive
import AliceHal.Pn54x.Hal.WellFormed

/-!
# Incoming Packets Stay Well Formed

The extensions of incoming packets compare bytes at fixed places, and change the length of a packet
and its length byte in separate assignments.

- `RxState.RxFits`: the packets that are long enough for what is read of them
- `processExtRsp_kept_iff`: a packet stays well formed, and is read up to its end, exactly then
-/

namespace AliceHal.Pn54x.Hal

/-! ## The packets at fault -/

namespace RxState

/-- The packet is long enough for what is read of it, and the data of an ISO 15693 tag is not
empty. -/
structure RxFits (s : RxState) (p : Lib.Memory) (len : ℕ) : Prop where
  resetNtf : p 0 = 0x60 → p 1 &&& nciOidMask = 0x00 → p 3 = 0x02 ∨ p 3 = 0x01 → 6 ≤ len
  icodeData : p 0 = 0x00 → p 1 = 0x00 → s.icodeDetected = 1 → s.icodeSendEof ≠ 2 →
    s.nciVersion ≠ nciVersion20 → 4 ≤ len
  nfceeDiscover : p 0 = 0x42 → p 1 = 0x00 → ¬ (s.icodeDetected = 1 ∧ s.icodeSendEof = 2) →
    s.eeDiscDone = 1 → 5 ≤ len
  mifare : p 0 = 0x61 → p 1 = 0x05 → 14 ≤ len → p 4 = 0x02 → p 5 = 0x80 → p 6 = 0x00 →
    ¬ (s.icodeDetected = 1 ∧ s.icodeSendEof = 2) → 9 + (p 9).toNat < len

end RxState

/-- The packet is well formed, and what was read lies in the `len` bytes received. -/
structure RxKept (len : ℕ) (r : NFCSTATUS × RxState × Rx) : Prop where
  format : WellFormed r.2.2.pNtf r.2.2.pLen
  reads : ∀ i ∈ r.2.2.seen, i < len

/-! ## Up to the workarounds -/

namespace RxState

variable {s : RxState} {x : Rx} {n : ℕ} {created : Bool}

/-- What the first rules make of the bytes of the packet. -/
def Profiled (p q : Lib.Memory) : Prop :=
  q = p ∨ (p 0 = 0x61 ∧ p 1 = 0x05 ∧
    ((p 4 = 0x03 ∧ q = p.put 4 [0xFF, 0xFF, 0xFF]) ∨ (p 4 = 0x01 ∧ q = p.put 5 [0x03])))

theorem activatedFelica_spec (s : RxState) (hseen : Rx.Below n x.seen) (h2 : 2 ≤ n)
    (hlen : x.pNtf 0 = 0x61 → x.pNtf 1 = 0x05 → 7 ≤ n) :
    ∃ q l, s.activatedFelica x = { x with pNtf := q, seen := l } ∧ Rx.Below n l ∧
      (q = x.pNtf ∨ (x.pNtf 0 = 0x61 ∧ x.pNtf 1 = 0x05 ∧ x.pNtf 4 = 0x01 ∧
        q = x.pNtf.put 5 [0x03])) := by
  unfold activatedFelica
  refine Rx.cond_below (P := fun y => ∃ q l, y = { x with pNtf := q, seen := l } ∧ Rx.Below n l ∧
    (q = x.pNtf ∨ (x.pNtf 0 = 0x61 ∧ x.pNtf 1 = 0x05 ∧ x.pNtf 4 = 0x01 ∧
      q = x.pNtf.put 5 [0x03]))) hseen (fun _ => ?_) (fun l hl _ hagrees _ => ?_) (fun l hl _ => ?_)
  · simp only [Lib.Memory.ComparedBelow, and_true, implies_true]
    refine ⟨by omega, fun h0 => ⟨by omega, fun h1 => ?_⟩⟩
    have := hlen h0 h1
    omega
  · simp only [Lib.Memory.agrees, Bool.and_true, Bool.and_eq_true, beq_iff_eq] at hagrees
    exact ⟨_, l, rfl, hl, Or.inr ⟨hagrees.1, hagrees.2.1, hagrees.2.2.1, rfl⟩⟩
  · exact ⟨x.pNtf, l, rfl, hl, Or.inl rfl⟩

theorem activatedProfile_spec (s : RxState) (hseen : Rx.Below n x.seen) (h2 : 2 ≤ n)
    (hlen : x.pNtf 0 = 0x61 → x.pNtf 1 = 0x05 → 7 ≤ n) :
    ∃ q l, s.activatedProfile x = { x with pNtf := q, seen := l } ∧ Rx.Below n l ∧
      Profiled x.pNtf q := by
  unfold activatedProfile
  refine Rx.cond_below (P := fun y => ∃ q l, y = { x with pNtf := q, seen := l } ∧ Rx.Below n l ∧
    Profiled x.pNtf q) hseen (fun _ => ?_) (fun l hl _ hagrees _ => ?_) (fun l hl _ => ?_)
  · simp only [Lib.Memory.ComparedBelow, and_true, implies_true]
    refine ⟨by omega, fun h0 => ⟨by omega, fun h1 => ?_⟩⟩
    have := hlen h0 h1
    omega
  · simp only [Lib.Memory.agrees, Bool.and_true, Bool.and_eq_true, beq_iff_eq] at hagrees
    obtain ⟨h0, h1, h3, -⟩ := hagrees
    obtain ⟨q, l', heq, hl', hq⟩ := s.activatedFelica_spec
      (x := (x.saw l).put 4 [0xFF, 0xFF, 0xFF]) hl h2 fun _ _ => hlen h0 h1
    refine ⟨q, l', heq, hl', Or.inr ⟨h0, h1, ?_⟩⟩
    -- the interface is `0xFF` now
    rcases hq with hq | ⟨-, -, h4, -⟩
    · exact Or.inl ⟨h3, hq⟩
    · exact absurd h4 (by decide : (0xFF : UInt8) ≠ 0x01)
  · obtain ⟨q, l', heq, hl', hq⟩ := s.activatedFelica_spec (x := x.saw l) hl h2 hlen
    refine ⟨q, l', heq, hl', ?_⟩
    rcases hq with hq | ⟨h0, h1, h4, hq⟩
    · exact Or.inl hq
    · exact Or.inr ⟨h0, h1, Or.inr ⟨h4, hq⟩⟩

/-- Only the bytes from the interface to the mode change. -/
theorem Profiled.bytes {p q : Lib.Memory} (h : Profiled p q) {i : ℕ} (hi : i < 4 ∨ 7 ≤ i) :
    q i = p i := by
  rcases h with rfl | ⟨-, -, ⟨-, rfl⟩ | ⟨-, rfl⟩⟩
  · rfl
  · rcases hi with hi | hi
    · exact Lib.Memory.put_of_lt hi
    · exact Lib.Memory.put_of_le hi
  · rcases hi with hi | hi
    · exact Lib.Memory.put_of_lt (by omega)
    · exact Lib.Memory.put_of_le (by simp; omega)

/-- An ISO-DEP interface is the one that was received. -/
theorem Profiled.isoDep {p q : Lib.Memory} (h : Profiled p q) (h4 : q 4 = 0x02) : q = p := by
  rcases h with rfl | ⟨-, -, ⟨-, rfl⟩ | ⟨h4', rfl⟩⟩
  · rfl
  · exact absurd h4 (by decide : (0xFF : UInt8) ≠ 0x02)
  · have hkeep : p.put 5 [0x03] 4 = p 4 := rfl
    rw [hkeep, h4'] at h4
    exact absurd h4 (by decide)

/-- Only flags that the workarounds do not look at change. -/
theorem activated_eq (s : RxState) (x : Rx) :
    ∃ d t l, s.activated x = ({ s with nfcdepDetected := d, dtaT1tFlag := t }, x.saw l) := by
  unfold activated
  refine Rx.cond_grows (P := fun r => ∃ d t l, r =
    ({ s with nfcdepDetected := d, dtaT1tFlag := t }, x.saw l)) (fun l _ _ _ _ => ?_) fun l _ _ => ?_
  · dsimp only
    split
    · exact ⟨_, true, _, rfl⟩
    · exact ⟨_, s.dtaT1tFlag, _, rfl⟩
  · exact ⟨s.nfcdepDetected, s.dtaT1tFlag, l, rfl⟩

theorem activated_spec (s : RxState) (hseen : Rx.Below n x.seen) (h2 : 2 ≤ n)
    (hlen : x.pNtf 0 = 0x61 → x.pNtf 1 = 0x05 → 7 ≤ n) :
    ∃ d t l, s.activated x =
      ({ s with nfcdepDetected := d, dtaT1tFlag := t }, (x.saw l)) ∧ Rx.Below n l := by
  unfold activated
  refine Rx.cond_below (P := fun r => ∃ d t l, r =
    ({ s with nfcdepDetected := d, dtaT1tFlag := t }, (x.saw l)) ∧ Rx.Below n l)
    hseen (fun _ => ?_) (fun l hl _ hagrees _ => ?_) (fun l hl _ => ?_)
  · simp only [Lib.Memory.ComparedBelow, and_true, implies_true]
    exact ⟨by omega, fun _ => by omega⟩
  · simp only [Lib.Memory.agrees, Bool.and_true, Bool.and_eq_true, beq_iff_eq] at hagrees
    have h7 := hlen hagrees.1 hagrees.2
    have hbelow : Rx.Below n (l ++ [4, 5, 6]) := hl.append (by simp [Rx.Below]; omega)
    dsimp only
    split
    · exact ⟨_, true, _, rfl, hbelow⟩
    · exact ⟨_, s.dtaT1tFlag, _, rfl, hbelow⟩
  · exact ⟨s.nfcdepDetected, s.dtaT1tFlag, l, rfl, hl⟩

/-- What the workarounds find after `phNxpNciHal_ext_process_nfc_init_rsp`: the packet as it was, the
flags of the workarounds, and another version of NCI after its own packets only. -/
structure InitDone (n : ℕ) (s : RxState) (x : Rx) (r : NFCSTATUS × RxState × Rx) : Prop where
  packet : r.2.2.pNtf = x.pNtf
  pLen : r.2.2.pLen = x.pLen
  seen : Rx.Below n r.2.2.seen
  icodeDetected : r.2.1.icodeDetected = s.icodeDetected
  icodeSendEof : r.2.1.icodeSendEof = s.icodeSendEof
  eeDiscDone : r.2.1.eeDiscDone = s.eeDiscDone
  cleanupTimer : r.2.1.cleanupTimer = s.cleanupTimer
  nciVersion : x.pNtf 0 = 0x00 → r.2.1.nciVersion = s.nciVersion

theorem initDone_coreResetRsp (hseen : Rx.Below n x.seen) (hn : n = (x.pNtf 2).toNat + 3)
    (h0 : x.pNtf 0 = 0x40) : InitDone n s x (NFCSTATUS.success, s.coreResetRsp x) := by
  have hnot : x.pNtf 0 ≠ 0x00 := by
    rw [h0]
    decide
  unfold coreResetRsp
  refine Rx.cond_below (P := fun r => InitDone n s x (NFCSTATUS.success, r)) hseen (fun _ => ?_)
    (fun l hl _ _ _ => ?_) (fun l hl _ => ?_)
  · simp only [Lib.Memory.ComparedBelow, and_true, implies_true]
    refine ⟨by omega, fun h2 => ?_⟩
    rw [hn, h2]
    decide
  · exact ⟨rfl, rfl, hl, rfl, rfl, rfl, rfl, fun h => absurd h hnot⟩
  refine Rx.cond_below (P := fun r => InitDone n s x (NFCSTATUS.success, r)) hl (fun _ => ?_)
    (fun l hl _ hagrees _ => ?_) (fun l hl _ => ?_)
  · simp only [Rx.saw_pNtf, Lib.Memory.ComparedBelow, and_true, implies_true]
    refine ⟨by omega, fun h2 => ?_⟩
    rw [hn, h2]
    decide
  · simp only [Rx.saw_pNtf, Lib.Memory.agrees, Bool.and_true, Bool.and_eq_true, beq_iff_eq] at hagrees
    have h5 : 4 < n := by
      rw [hn, hagrees.1]
      decide
    have hbelow : Rx.Below n (l ++ [4]) := hl.append (by simp [Rx.Below]; omega)
    exact ⟨rfl, rfl, hbelow, rfl, rfl, rfl, rfl, fun h => absurd h hnot⟩
  · exact ⟨rfl, rfl, hl, rfl, rfl, rfl, rfl, fun _ => rfl⟩

theorem emergencyRecovery_eq_some {y : Rx}
    (h : s.phNxpNciHalEmergencyRecovery created x = some y) :
    s.nfcdepDetected = true ∧ y = { x with started := x.started ++ [.coreResetRecovery] } := by
  unfold phNxpNciHalEmergencyRecovery at h
  split at h
  · rename_i hcond
    simp only [Bool.and_eq_true] at hcond
    exact ⟨hcond.1.1, (Option.some.inj h).symm⟩
  · cases h

/-- The recovery starts after two notifications of six bytes only. -/
theorem initDone_unexpectedReset (hseen : x.pNtf 2 = 0x06 → Rx.Below n x.seen)
    (hn : n = (x.pNtf 2).toNat + 3) {r : NFCSTATUS × RxState × Rx}
    (h : s.unexpectedReset created x = some r) : InitDone n s x r := by
  unfold unexpectedReset at h
  extract_lets keep clear at h
  have hclear : ∀ y, clear y = some r → InitDone n s x r := by
    intro y hy
    obtain ⟨z, hz, -⟩ := Option.map_eq_some_iff.1 hy
    exact absurd (emergencyRecovery_eq_some hz).1 Bool.false_ne_true
  have hkeep : ∀ l, Rx.Below n l → keep (x.saw l) = some r → InitDone n s x r := by
    intro l hl hy
    obtain ⟨z, hz, rfl⟩ := Option.map_eq_some_iff.1 hy
    obtain ⟨-, rfl⟩ := emergencyRecovery_eq_some hz
    exact ⟨rfl, rfl, hl, rfl, rfl, rfl, rfl, fun _ => rfl⟩
  split at h
  · by_cases h2 : x.pNtf 2 = 0x06
    · have h9 : n = 9 := by
        rw [hn, h2]
        decide
      subst h9
      revert h
      refine Rx.cond_below (P := fun o => o = some r → InitDone 9 s x r) (hseen h2) (fun _ => ?_)
        (fun l hl _ _ _ => ?_) (fun l hl _ => hclear _)
      · simp [Lib.Memory.ComparedBelow]
      refine Rx.cond_below (P := fun o => o = some r → InitDone 9 s x r) hl (fun _ => ?_)
        (fun l hl _ _ _ => hkeep l hl) (fun l hl _ => ?_)
      · simp [Lib.Memory.ComparedBelow]
      refine Rx.cond_below (P := fun o => o = some r → InitDone 9 s x r) hl (fun _ => ?_)
        (fun l hl _ _ _ => hkeep l hl) (fun l hl _ => hclear _)
      simp [Lib.Memory.ComparedBelow]
    · revert h
      refine Rx.cond_grows (P := fun o => o = some r → InitDone n s x r)
        (fun l _ _ hagrees _ => ?_) (fun l _ _ => hclear _)
      simp only [Lib.Memory.agrees, Bool.and_eq_true, beq_iff_eq] at hagrees
      exact absurd hagrees.1 h2
  · rename_i hdep
    obtain ⟨z, hz, -⟩ := Option.map_eq_some_iff.1 h
    exact absurd (emergencyRecovery_eq_some hz).1 hdep

theorem initDone_coreResetNtf (hseen : Rx.Below n x.seen) (hn : n = (x.pNtf 2).toNat + 3)
    (h0 : x.pNtf 0 = 0x60) (hfits : x.pNtf 3 = 0x02 ∨ x.pNtf 3 = 0x01 → 6 ≤ n)
    {r : NFCSTATUS × RxState × Rx} (h : s.coreResetNtf created x = some r) : InitDone n s x r := by
  have hnot : x.pNtf 0 ≠ 0x00 := by
    rw [h0]
    decide
  unfold coreResetNtf at h
  extract_lets p y len at h
  split at h
  · rename_i hreason
    have h6 : 6 ≤ n := hfits (by simpa [p] using hreason)
    cases h
    have hbelow : Rx.Below n (x.seen ++ [3] ++ [5, 2, len - 2, len - 1, len]) := by
      have hlen : len = (x.pNtf 2).toNat + 2 := rfl
      refine (hseen.append ?_).append ?_
      · simp [Rx.Below]
        omega
      · simp only [Rx.Below, List.forall_mem_cons, List.not_mem_nil, false_imp_iff, implies_true,
          and_true]
        omega
    exact ⟨rfl, rfl, hbelow, rfl, rfl, rfl, rfl, fun h => absurd h hnot⟩
  · have hdone : InitDone n s y r := initDone_unexpectedReset (x := y) (fun h2 => ?_) hn h
    · exact ⟨hdone.packet, hdone.pLen, hdone.seen, hdone.icodeDetected, hdone.icodeSendEof,
        hdone.eeDiscDone, hdone.cleanupTimer, hdone.nciVersion⟩
    · refine hseen.append ?_
      have h2' : x.pNtf 2 = 0x06 := h2
      have h9 : n = 9 := by
        rw [hn, h2']
        decide
      simp [Rx.Below, h9]

theorem initDone_coreInitRsp (hseen : Rx.Below n x.seen) (hn : n = (x.pNtf 2).toNat + 3) :
    InitDone n s x (s.coreInitRsp x) := by
  unfold coreInitRsp
  split
  · exact ⟨rfl, rfl, hseen, rfl, rfl, rfl, rfl, fun _ => rfl⟩
  · refine ⟨rfl, rfl, hseen.append ?_, rfl, rfl, rfl, rfl, fun _ => rfl⟩
    simp only [Rx.Below, List.forall_mem_cons, List.not_mem_nil, false_imp_iff, implies_true,
      and_true]
    omega

theorem initDone_initRsp (hseen : Rx.Below n x.seen) (hn : n = (x.pNtf 2).toNat + 3)
    (hfits : x.pNtf 0 = 0x60 → x.pNtf 1 &&& nciOidMask = 0x00 →
      x.pNtf 3 = 0x02 ∨ x.pNtf 3 = 0x01 → 6 ≤ n)
    {r : NFCSTATUS × RxState × Rx} (h : s.phNxpNciHalExtProcessNfcInitRsp created x = some r) :
    InitDone n s x r := by
  have hheader : ∀ (l : List ℕ), Rx.Below n l → ∀ is ⊆ [0, 1], Rx.Below n (l ++ is) := by
    intro l hl is his
    refine hl.append fun i hi => ?_
    have hmem := his hi
    simp only [List.mem_cons, List.not_mem_nil, or_false] at hmem
    omega
  -- a result for the packet with other indices read is one for the packet
  have hlift : ∀ {l : List ℕ} {r}, InitDone n s (x.saw l) r → InitDone n s x r :=
    fun h => ⟨h.packet, h.pLen, h.seen, h.icodeDetected, h.icodeSendEof, h.eeDiscDone,
      h.cleanupTimer, h.nciVersion⟩
  unfold phNxpNciHalExtProcessNfcInitRsp at h
  split at h
  · cases h
    exact ⟨rfl, rfl, hseen, rfl, rfl, rfl, rfl, fun _ => rfl⟩
  revert h
  refine Rx.condOid_rule (P := fun o => o = some r → InitDone n s x r) (hheader _ hseen)
    (fun l hl h0 _ h => ?_) (fun l hl _ => ?_)
  · cases h
    exact hlift (initDone_coreResetRsp hl hn h0)
  refine Rx.condOid_rule (P := fun o => o = some r → InitDone n s x r) (hheader _ hl)
    (fun l hl h0 h1 h => ?_) (fun l hl _ => ?_)
  · exact hlift (initDone_coreResetNtf (x := x.saw l) hl hn h0 (hfits h0 h1) h)
  refine Rx.condOid_rule (P := fun o => o = some r → InitDone n s x r) (hheader _ hl)
    (fun l hl _ _ h => ?_) (fun l hl _ h => ?_)
  · cases h
    exact hlift (initDone_coreInitRsp hl hn)
  · cases h
    exact ⟨rfl, rfl, hl, rfl, rfl, rfl, rfl, fun _ => rfl⟩

/-! ## The workarounds -/

/-- Stores past the length byte leave the packet well formed. -/
theorem kept_put {l : List ℕ} (hl : Rx.Below n l) (hwf : WellFormed x.pNtf x.pLen) {i : ℕ}
    (hi : 3 ≤ i) (status : NFCSTATUS) (s : RxState) (bs : List UInt8) :
    RxKept n (status, s, (x.saw l).put i bs) := by
  refine ⟨?_, hl⟩
  have hbyte : (x.pNtf.put i bs) 2 = x.pNtf 2 := Lib.Memory.put_of_lt hi
  show x.pLen = ((x.pNtf.put i bs) 2).toNat + 3
  rw [hbyte]
  exact hwf

theorem kept_icodeData (hseen : Rx.Below n x.seen) (hwf : WellFormed x.pNtf x.pLen)
    (hn : n = x.pLen) (hfits : s.nciVersion ≠ nciVersion20 → 4 ≤ n) :
    RxKept n (NFCSTATUS.success, s.icodeData x) := by
  have hwf' : x.pLen = (x.pNtf 2).toNat + 3 := hwf
  unfold icodeData
  extract_lets u last y
  have hversion : u.nciVersion = s.nciVersion := by
    simp only [u]
    split
    · rfl
    · rfl
  have hbelow : Rx.Below n (x.seen ++ [2, last]) := by
    refine hseen.append ?_
    simp only [Rx.Below, List.forall_mem_cons, List.not_mem_nil, false_imp_iff, implies_true,
      and_true]
    omega
  split
  · rename_i hold
    have h4 := hfits (hversion ▸ hold)
    split
    · refine ⟨?_, hbelow⟩
      -- the length byte is not zero
      show x.pLen - 1 = (x.pNtf 2 - 1).toNat + 3
      have hone : (1 : UInt8) ≤ x.pNtf 2 := by
        rw [UInt8.le_iff_toNat_le]
        show 1 ≤ (x.pNtf 2).toNat
        omega
      rw [UInt8.toNat_sub_of_le _ _ hone]
      show x.pLen - 1 = (x.pNtf 2).toNat - 1 + 3
      omega
    · exact kept_put (x := x) hbelow hwf (by omega) _ _ _
  · exact ⟨hwf, hseen⟩

/-- The packets that the stack gets instead. -/
theorem kept_replace {l : List ℕ} (hl : Rx.Below n l) (status : NFCSTATUS) (s : RxState)
    {bs : List UInt8} (hwf : bs.length = (bs.getD 2 0).toNat + 3) :
    RxKept n (status, s, (x.saw l).replace bs) := by
  refine ⟨?_, hl⟩
  have hbyte : (x.pNtf.put 0 bs) 2 = bs.getD 2 0 := by
    rw [Lib.Memory.put, if_pos (by omega)]
  show bs.length = ((x.pNtf.put 0 bs) 2).toNat + 3
  rw [hbyte]
  exact hwf

/-- A condition between the workarounds. -/
theorem cond_kept {before after : Bool} {cs : List (ℕ × UInt8)}
    {yes no : Rx → NFCSTATUS × RxState × Rx} (hseen : Rx.Below n x.seen)
    (hcs : before = true → x.pNtf.ComparedBelow n cs)
    (hyes : ∀ l, Rx.Below n l → before = true → x.pNtf.agrees cs = true → after = true →
      (yes (x.saw l)).1 = NFCSTATUS.success → RxKept n (yes (x.saw l)))
    (hno : ∀ l, Rx.Below n l → (before = true → x.pNtf.agrees cs = true → after = true → False) →
      (no (x.saw l)).1 = NFCSTATUS.success → RxKept n (no (x.saw l))) :
    (x.cond before cs after yes no).1 = NFCSTATUS.success →
      RxKept n (x.cond before cs after yes no) :=
  Rx.cond_below (P := fun r => r.1 = NFCSTATUS.success → RxKept n r) hseen hcs hyes hno

/-- A comparison of the header lies in every packet. -/
theorem below_header (h3 : 3 ≤ n) (p : Lib.Memory) (a b : UInt8) :
    p.ComparedBelow n [(0, a), (1, b)] := by
  simp only [Lib.Memory.ComparedBelow, and_true, implies_true]
  exact ⟨by omega, fun _ => by omega⟩

/-- A comparison up to the mode lies in an `RF_INTF_ACTIVATED_NTF` that was not refused. -/
theorem below_activated (h3 : 3 ≤ n) {p : Lib.Memory} (h14 : p 0 = 0x61 → p 1 = 0x05 → 14 ≤ n)
    {cs : List (ℕ × UInt8)} (hcs : 14 ≤ n → p.ComparedBelow n cs) :
    p.ComparedBelow n ((0, 0x61) :: (1, 0x05) :: cs) :=
  ⟨by omega, fun h0 => ⟨by omega, fun h1 => hcs (h14 h0 h1)⟩⟩

theorem kept_presenceCheck (hseen : Rx.Below n x.seen) (hwf : WellFormed x.pNtf x.pLen)
    (hn : n = x.pLen) : (s.presenceCheck x).1 = NFCSTATUS.success →
      RxKept n (s.presenceCheck x) := by
  have hwf' : x.pLen = (x.pNtf 2).toNat + 3 := hwf
  have hthree : ∀ a b c : UInt8, x.pNtf.ComparedBelow n [(0, a), (1, b), (2, c)] := by
    intro a b c
    simp only [Lib.Memory.ComparedBelow, and_true, implies_true]
    exact ⟨by omega, fun _ => ⟨by omega, fun _ => by omega⟩⟩
  unfold presenceCheck
  refine cond_kept hseen ?_ ?_ ?_
  · exact fun _ => hthree _ _ _
  · intro l hl hfour _ _
    have hfour : x.pLen = 4 := of_decide_eq_true hfour
    refine cond_kept hl ?_ ?_ ?_
    · intro _
      simp only [Lib.Memory.ComparedBelow, and_true, implies_true]
      omega
    · exact fun l hl _ _ _ _ => kept_replace hl _ _ rfl
    · exact fun l hl _ _ => kept_replace hl _ _ rfl
  intro l hl _
  refine cond_kept hl ?_ ?_ ?_
  · exact fun _ => hthree _ _ _
  · intro l hl hfour _ _
    have hfour : x.pLen = 4 := of_decide_eq_true hfour
    refine cond_kept hl ?_ ?_ ?_
    · intro _
      simp only [Lib.Memory.ComparedBelow, and_true, implies_true]
      omega
    · exact fun l hl _ _ _ _ => ⟨hfour, hl⟩
    · exact fun l hl _ _ => kept_replace hl _ _ rfl
  · exact fun l hl _ _ => ⟨hwf, hl⟩

theorem kept_mifareSak (hseen : Rx.Below n x.seen) (hwf : WellFormed x.pNtf x.pLen)
    (hlen : 14 ≤ n) (hsak : 9 + (x.pNtf 9).toNat < n) : RxKept n (s.mifareSak x) := by
  have hbelow : Rx.Below n (x.seen ++ [9, 9 + (x.pNtf 9).toNat]) := by
    refine hseen.append ?_
    simp only [Rx.Below, List.forall_mem_cons, List.not_mem_nil, false_imp_iff, implies_true,
      and_true]
    omega
  unfold mifareSak
  extract_lets sak y
  split
  · exact kept_put hbelow hwf (by decide) _ _ _
  · exact ⟨hwf, hbelow⟩

theorem kept_nfceeDiscoverRsp (hseen : Rx.Below n x.seen) (hwf : WellFormed x.pNtf x.pLen)
    (h5 : 5 ≤ n) : RxKept n (s.nfceeDiscoverRsp x) := by
  have hbelow : Rx.Below n (x.seen ++ [4]) := hseen.append (by simp [Rx.Below]; omega)
  unfold nfceeDiscoverRsp
  extract_lets y
  split
  · exact kept_put hbelow hwf (by decide) _ _ _
  · exact ⟨hwf, hbelow⟩

theorem kept_otherWorkaround (hseen : Rx.Below n x.seen) (hwf : WellFormed x.pNtf x.pLen)
    (hn : n = x.pLen) (h14 : x.pNtf 0 = 0x61 → x.pNtf 1 = 0x05 → 14 ≤ n)
    (hfits : s.RxFits x.pNtf n) (heof : ¬ (s.icodeDetected = 1 ∧ s.icodeSendEof = 2)) :
    (s.otherWorkaround x).1 = NFCSTATUS.success → RxKept n (s.otherWorkaround x) := by
  have hwf' : x.pLen = (x.pNtf 2).toNat + 3 := hwf
  have h3 : 3 ≤ n := by omega
  unfold otherWorkaround
  refine cond_kept hseen ?_ ?_ ?_
  · intro hfour
    have hfour : x.pLen = 4 := of_decide_eq_true hfour
    simp only [Lib.Memory.ComparedBelow, and_true, implies_true]
    omega
  · exact fun l hl _ _ _ _ => kept_replace hl _ _ rfl
  intro l hl _
  refine cond_kept hl ?_ ?_ ?_
  · exact fun _ => below_header h3 _ _ _
  · intro l hl _ hagrees hdone _
    simp only [Rx.saw_pNtf, Lib.Memory.agrees, Bool.and_true, Bool.and_eq_true,
      beq_iff_eq] at hagrees
    exact kept_nfceeDiscoverRsp (x := x.saw l) hl hwf
      (hfits.nfceeDiscover hagrees.1 hagrees.2 heof (of_decide_eq_true hdone))
  -- the packets that are dropped while the cleanup timer runs
  intro l hl _
  refine cond_kept hl ?_ ?_ ?_
  · exact fun _ => below_header h3 _ _ _
  · intro l hl _ _ _
    split
    · exact fun h => absurd h (by decide : NFCSTATUS.failed ≠ NFCSTATUS.success)
    · exact fun _ => ⟨hwf, hl⟩
  intro l hl _
  refine cond_kept hl ?_ ?_ ?_
  · exact fun _ => below_header h3 _ _ _
  · exact fun l hl _ _ _ h => absurd h (by decide : NFCSTATUS.failed ≠ NFCSTATUS.success)
  intro l hl _
  refine cond_kept hl ?_ ?_ ?_
  · refine fun _ => below_activated h3 h14 fun hlen => ?_
    simp only [Lib.Memory.ComparedBelow, and_true, implies_true]
    omega
  · intro l hl _ hagrees _ _
    simp only [Rx.saw_pNtf, Lib.Memory.agrees, Bool.and_true, Bool.and_eq_true,
      beq_iff_eq] at hagrees
    obtain ⟨h0, h1, h4, h5, h6⟩ := hagrees
    have hlen := h14 h0 h1
    exact kept_mifareSak (x := x.saw l) hl hwf hlen (hfits.mifare h0 h1 hlen h4 h5 h6 heof)
  · exact fun l hl _ => kept_presenceCheck (x := x.saw l) hl hwf hn

/-- The workarounds keep a packet that is long enough. -/
theorem kept_rspWorkaround (hseen : Rx.Below n x.seen) (hwf : WellFormed x.pNtf x.pLen)
    (hn : n = x.pLen) (h14 : x.pNtf 0 = 0x61 → x.pNtf 1 = 0x05 → 14 ≤ n)
    (hfits : s.RxFits x.pNtf n) :
    (s.rspWorkaround x).1 = NFCSTATUS.success → RxKept n (s.rspWorkaround x) := by
  have hwf' : x.pLen = (x.pNtf 2).toNat + 3 := hwf
  have h3 : 3 ≤ n := by omega
  unfold rspWorkaround
  refine cond_kept hseen ?_ ?_ ?_
  · refine fun _ => below_activated h3 h14 fun hlen => ?_
    simp only [Lib.Memory.ComparedBelow, and_true, implies_true]
    omega
  · exact fun l hl _ _ _ _ => kept_put hl hwf (by decide) _ _ _
  -- the response to an EOF
  intro l hl _
  refine cond_kept hl ?_ ?_ ?_
  · exact fun _ => trivial
  · exact fun l hl _ _ _ _ => ⟨hwf, hl⟩
  intro l hl heof
  have heof : ¬ (s.icodeDetected = 1 ∧ s.icodeSendEof = 2) := fun h =>
    heof (by simp [h.1, h.2]) rfl rfl
  -- data of an ISO 15693 tag
  refine cond_kept hl ?_ ?_ ?_
  · exact fun _ => below_header h3 _ _ _
  · intro l hl _ hagrees hicode _
    simp only [Rx.saw_pNtf, Lib.Memory.agrees, Bool.and_true, Bool.and_eq_true,
      beq_iff_eq] at hagrees
    have hicode := of_decide_eq_true hicode
    exact kept_icodeData (x := x.saw l) hl hwf hn
      (hfits.icodeData hagrees.1 hagrees.2 hicode fun h => heof ⟨hicode, h⟩)
  intro l hl _
  refine cond_kept hl ?_ ?_ ?_
  · intro _
    simp only [Lib.Memory.ComparedBelow, and_true, implies_true]
    exact ⟨by omega, fun _ => by omega⟩
  · exact fun l hl _ _ _ _ => ⟨hwf, hl⟩
  intro l hl _
  refine cond_kept hl ?_ ?_ ?_
  · exact fun _ => below_header h3 _ _ _
  · exact fun l hl _ _ _ _ => ⟨hwf, hl⟩
  · exact fun l hl _ => kept_otherWorkaround (x := x.saw l) hl hwf hn h14 hfits heof

/-- A packet that is long enough stays well formed, and is read up to its end. -/
theorem kept_of_fits {p : Lib.Memory} {len : ℕ} (hwf : WellFormed p len) (hfits : s.RxFits p len)
    {r : NFCSTATUS × RxState × Rx}
    (h : s.phNxpNciHalProcessExtRsp created (.received p len) = some r)
    (hstatus : r.1 = NFCSTATUS.success) : RxKept len r := by
  have hwf' : len = (p 2).toNat + 3 := hwf
  revert h
  unfold phNxpNciHalProcessExtRsp
  refine Rx.cond_below (P := fun o => o = some r → RxKept len r) (n := len)
    (fun i hi => absurd hi List.not_mem_nil) ?_ ?_ ?_
  · exact fun _ => below_header (by omega) _ _ _
  · intro l _ _ _ _ h
    cases h
    exact absurd hstatus (by decide : NFCSTATUS.failed ≠ NFCSTATUS.success)
  intro l hl hshort h
  have h14 : p 0 = 0x61 → p 1 = 0x05 → 14 ≤ len := by
    intro h0 h1
    by_contra hlt
    refine hshort rfl ?_ (decide_eq_true (Nat.lt_of_not_le hlt))
    simp [Rx.received, Lib.Memory.agrees, h0, h1]
  obtain ⟨q, l₁, hprofile, hl₁, hq⟩ := s.activatedProfile_spec (x := (Rx.received p len).saw l) hl
    (by omega) fun h0 h1 => (by decide : 7 ≤ 14).trans (h14 h0 h1)
  have hbytes : ∀ i < 4, q i = p i := fun i hi => hq.bytes (Or.inl hi)
  obtain ⟨d, t, l₂, hactivated, hl₂⟩ := s.activated_spec
    (x := { (Rx.received p len).saw l with pNtf := q, seen := l₁ }) hl₁ (by omega) fun h0 h1 =>
      (by decide : 7 ≤ 14).trans (h14 ((hbytes 0 (by decide)).symm.trans h0)
        ((hbytes 1 (by decide)).symm.trans h1))
  rw [hprofile, hactivated] at h
  obtain ⟨u, hu, rfl⟩ := Option.map_eq_some_iff.1 h
  have hdone := initDone_initRsp (n := len) hl₂
    (by rw [hwf', ← hbytes 2 (by decide)]; rfl) ?_ hu
  · have hpacket : u.2.2.pNtf = q := hdone.packet
    have hlen : u.2.2.pLen = len := hdone.pLen
    refine kept_rspWorkaround hdone.seen ?_ hlen.symm ?_ ?_ hstatus
    · rw [hpacket, hlen, WellFormed, hbytes 2 (by decide)]
      exact hwf'
    · rw [hpacket, hbytes 0 (by decide), hbytes 1 (by decide)]
      exact h14
    · rw [hpacket]
      refine ⟨?_, ?_, ?_, ?_⟩
      · rw [hbytes 0 (by decide), hbytes 1 (by decide), hbytes 3 (by decide)]
        exact hfits.resetNtf
      · rw [hdone.icodeDetected, hdone.icodeSendEof]
        intro h0 h1 hicode heof hversion
        rw [hdone.nciVersion h0] at hversion
        rw [hbytes 0 (by decide)] at h0
        rw [hbytes 1 (by decide)] at h1
        exact hfits.icodeData h0 h1 hicode heof hversion
      · rw [hbytes 0 (by decide), hbytes 1 (by decide), hdone.icodeDetected, hdone.icodeSendEof,
          hdone.eeDiscDone]
        exact hfits.nfceeDiscover
      · rw [hdone.icodeDetected, hdone.icodeSendEof]
        intro h0 h1 hlen h4
        obtain rfl := hq.isoDep h4
        exact hfits.mifare h0 h1 hlen h4
  · intro h0 h1 h3
    exact hfits.resetNtf ((hbytes 0 (by decide)).symm.trans h0)
      ((congrArg (· &&& nciOidMask) (hbytes 1 (by decide))).symm.trans h1)
      (h3.imp (hbytes 3 (by decide)).symm.trans (hbytes 3 (by decide)).symm.trans)

/-! ## Packets that are too short -/

theorem initRsp_of_other (created : Bool) (s : RxState) (h40 : x.pNtf 0 ≠ 0x40)
    (h60 : x.pNtf 0 ≠ 0x60) (hlen : x.pLen ≠ 0) :
    ∃ y, y.pNtf = x.pNtf ∧ y.pLen = x.pLen ∧
      s.phNxpNciHalExtProcessNfcInitRsp created x = some (NFCSTATUS.success, s, y) := by
  unfold phNxpNciHalExtProcessNfcInitRsp
  rw [if_neg hlen, Rx.condOid_of_ne 0x00 h40, Rx.condOid_of_ne 0x00 (by simpa using h60),
    Rx.condOid_of_ne 0x01 (by simpa using h40)]
  exact ⟨_, by simp, by simp, rfl⟩

/-- The stages of a packet that the first rules do not apply to. -/
theorem processExtRsp_stages (created : Bool) (s : RxState) {p : Lib.Memory} {len : ℕ}
    (hact : p 0 = 0x61 → p 1 = 0x05 → 14 ≤ len ∧ p 4 = 0x02) :
    ∃ d t y, y.pNtf = p ∧ y.pLen = len ∧ y.coreInitStores = [] ∧
      s.phNxpNciHalProcessExtRsp created (.received p len) =
        (({ s with nfcdepDetected := d, dtaT1tFlag := t } : RxState).phNxpNciHalExtProcessNfcInitRsp
          created y).map fun r => r.2.1.rspWorkaround r.2.2 := by
  have hlong : (Rx.received p len).pNtf.agrees [(0, 0x61), (1, 0x05)] = true →
      decide ((Rx.received p len).pLen < 14) = true → False := by
    intro hagrees hshort
    simp only [Rx.received, Lib.Memory.agrees, Bool.and_true, Bool.and_eq_true,
      beq_iff_eq] at hagrees
    exact absurd (hact hagrees.1 hagrees.2).1 (Nat.not_le.2 (of_decide_eq_true hshort))
  unfold phNxpNciHalProcessExtRsp
  rw [Rx.cond_of_not fun _ => hlong]
  -- the first rules are for other interfaces
  have hprofile : ∃ y, y.pNtf = p ∧ y.pLen = len ∧ y.coreInitStores = [] ∧ s.activatedProfile
      ((Rx.received p len).evaluated true [(0, 0x61), (1, 0x05)]) = y := by
    unfold activatedProfile activatedFelica
    rw [Rx.cond_of_not, Rx.cond_of_not]
    · exact ⟨_, by simp [Rx.received], by simp [Rx.received], rfl, rfl⟩
    · intro _ hagrees _
      simp only [Rx.evaluated_pNtf, Rx.received, Lib.Memory.agrees, Bool.and_eq_true,
        beq_iff_eq] at hagrees
      exact absurd ((hact hagrees.1 hagrees.2.1).2.symm.trans hagrees.2.2.1) (by decide)
    · intro _ hagrees _
      simp only [Rx.evaluated_pNtf, Rx.received, Lib.Memory.agrees, Bool.and_eq_true,
        beq_iff_eq] at hagrees
      exact absurd ((hact hagrees.1 hagrees.2.1).2.symm.trans hagrees.2.2.1) (by decide)
  obtain ⟨y, hp, hlen', hstores, hprofile⟩ := hprofile
  obtain ⟨d, t, l, hactivated⟩ := s.activated_eq y
  refine ⟨d, t, y.saw l, hp, hlen', hstores, ?_⟩
  dsimp only
  rw [hprofile, hactivated]

/-- A packet for which nothing applies before the workarounds. -/
theorem processExtRsp_eq (created : Bool) (s : RxState) {p : Lib.Memory} {len : ℕ} (hlen : len ≠ 0)
    (h40 : p 0 ≠ 0x40) (h60 : p 0 ≠ 0x60)
    (hact : p 0 = 0x61 → p 1 = 0x05 → 14 ≤ len ∧ p 4 = 0x02) :
    ∃ d t y, y.pNtf = p ∧ y.pLen = len ∧
      s.phNxpNciHalProcessExtRsp created (.received p len) =
        some (({ s with nfcdepDetected := d, dtaT1tFlag := t } : RxState).rspWorkaround y) := by
  obtain ⟨d, t, y, hp, hlen', -, heq⟩ := processExtRsp_stages created s hact
  obtain ⟨z, hzp, hzlen, hinit⟩ := initRsp_of_other created
    { s with nfcdepDetected := d, dtaT1tFlag := t } (x := y) (hp ▸ h40) (hp ▸ h60) (hlen' ▸ hlen)
  refine ⟨d, t, z, hzp.trans hp, hzlen.trans hlen', ?_⟩
  rw [heq, hinit]
  rfl

theorem heof_cond {p : Lib.Memory} (heof : ¬ (s.icodeDetected = 1 ∧ s.icodeSendEof = 2)) :
    (decide (s.icodeDetected = 1) && decide (s.icodeSendEof = 2)) = true → p.agrees [] = true →
      true = true → False := by
  intro h _ _
  rw [Bool.and_eq_true, decide_eq_true_eq, decide_eq_true_eq] at h
  exact heof h

/-- A packet that is none of an ISO 15693 tag. -/
theorem rspWorkaround_eq_other (h4 : x.pNtf 0 = 0x61 → x.pNtf 4 ≠ 0x01) (h0 : x.pNtf 0 ≠ 0x00)
    (h2 : x.pNtf 1 = 0x00 → x.pNtf 2 ≠ 0x02) (h1 : x.pNtf 0 = 0x61 → x.pNtf 1 ≠ 0x06)
    (heof : ¬ (s.icodeDetected = 1 ∧ s.icodeSendEof = 2)) :
    ∃ y, y.pNtf = x.pNtf ∧ y.pLen = x.pLen ∧ s.rspWorkaround x = s.otherWorkaround y := by
  unfold rspWorkaround
  rw [Rx.cond_of_not, Rx.cond_of_not (heof_cond heof), Rx.cond_of_not, Rx.cond_of_not,
    Rx.cond_of_not]
  · exact ⟨_, by simp, by simp, rfl⟩
  · simp only [Rx.evaluated_pNtf, Lib.Memory.agrees, Bool.and_eq_true, beq_iff_eq]
    exact fun _ h _ => h1 h.1 h.2.1
  · simp only [Rx.evaluated_pNtf, Lib.Memory.agrees, Bool.and_eq_true, beq_iff_eq]
    exact fun _ h _ => h2 h.2.1 h.1
  · simp only [Rx.evaluated_pNtf, Lib.Memory.agrees, Bool.and_eq_true, beq_iff_eq]
    exact fun _ h _ => h0 h.1
  · simp only [Lib.Memory.agrees, Bool.and_eq_true, beq_iff_eq]
    exact fun _ h _ => h4 h.1 h.2.2.2.1

/-- An `NFCEE_DISCOVER_RSP` is read up to its fifth byte. -/
theorem otherWorkaround_nfceeDiscover (h0 : x.pNtf 0 = 0x42) (h1 : x.pNtf 1 = 0x00)
    (hdone : s.eeDiscDone = 1) :
    (s.otherWorkaround x).1 = NFCSTATUS.success ∧ 4 ∈ (s.otherWorkaround x).2.2.seen := by
  have hlook : ∀ y : Rx, (s.nfceeDiscoverRsp y).1 = NFCSTATUS.success ∧
      4 ∈ (s.nfceeDiscoverRsp y).2.2.seen := by
    intro y
    have hmem : 4 ∈ (y.look [4]).seen := List.mem_append_right _ List.mem_cons_self
    unfold nfceeDiscoverRsp
    extract_lets z
    split
    · exact ⟨rfl, hmem⟩
    · exact ⟨rfl, hmem⟩
  unfold otherWorkaround
  rw [Rx.cond_of_not, Rx.cond_of_agrees rfl _ (decide_eq_true hdone)]
  · exact hlook _
  · simp [Lib.Memory.agrees, h0, h1]
  · simp [Lib.Memory.agrees, h0]

/-- With the MIFARE protocol on the ISO-DEP interface, the SAK is read where the packet says. -/
theorem otherWorkaround_mifare (h0 : x.pNtf 0 = 0x61) (h1 : x.pNtf 1 = 0x05) (h4 : x.pNtf 4 = 0x02)
    (h5 : x.pNtf 5 = 0x80) (h6 : x.pNtf 6 = 0x00) :
    (s.otherWorkaround x).1 = NFCSTATUS.success ∧
      9 + (x.pNtf 9).toNat ∈ (s.otherWorkaround x).2.2.seen := by
  have hlook : ∀ y : Rx, (s.mifareSak y).1 = NFCSTATUS.success ∧
      9 + (y.pNtf 9).toNat ∈ (s.mifareSak y).2.2.seen := by
    intro y
    have hmem : 9 + (y.pNtf 9).toNat ∈ (y.look [9, 9 + (y.pNtf 9).toNat]).seen :=
      List.mem_append_right _ (List.mem_cons_of_mem _ List.mem_cons_self)
    unfold mifareSak
    extract_lets sak z
    split
    · exact ⟨rfl, hmem⟩
    · exact ⟨rfl, hmem⟩
  unfold otherWorkaround
  rw [Rx.cond_of_not, Rx.cond_of_not, Rx.cond_of_not, Rx.cond_of_not, Rx.cond_of_agrees rfl _ rfl]
  · have h := hlook (((((x.evaluated (decide (x.pLen = 4))
      [(0, 0x40), (1, 0x02), (2, 0x01), (3, 0x06)]).evaluated true [(0, 0x42), (1, 0x00)]).evaluated
      true [(0, 0x61), (1, 0x03)]).evaluated true [(0, 0x41), (1, 0x04)]).evaluated true
      [(0, 0x61), (1, 0x05), (4, 0x02), (5, 0x80), (6, 0x00)])
    simpa using h
  · simp [Lib.Memory.agrees, h0, h1, h4, h5, h6]
  · simp [Lib.Memory.agrees, h0]
  · simp [Lib.Memory.agrees, h0, h1]
  · simp [Lib.Memory.agrees, h0]
  · simp [Lib.Memory.agrees, h0]

/-- Data of an ISO 15693 tag without a payload loses its header. -/
theorem rspWorkaround_icodeData (h0 : x.pNtf 0 = 0x00) (h1 : x.pNtf 1 = 0x00)
    (h2 : x.pNtf 2 = 0x00) (hlen : x.pLen = 3) (hicode : s.icodeDetected = 1)
    (heof : s.icodeSendEof ≠ 2) (hversion : s.nciVersion ≠ nciVersion20) :
    (s.rspWorkaround x).1 = NFCSTATUS.success ∧
      ¬ WellFormed (s.rspWorkaround x).2.2.pNtf (s.rspWorkaround x).2.2.pLen := by
  have hdata : ∀ y : Rx, y.pNtf = x.pNtf → y.pLen = 3 →
      ¬ WellFormed (s.icodeData y).2.pNtf (s.icodeData y).2.pLen := by
    intro y hp hlen'
    have hbyte : y.pNtf 2 = 0x00 := hp ▸ h2
    unfold icodeData
    extract_lets u last z
    have hold : u.nciVersion ≠ nciVersion20 := by
      simp only [u]
      split
      · exact hversion
      · exact hversion
    have hlast : last = 2 := by
      simp only [last, hbyte]
      rfl
    -- the length byte itself is taken for the status
    have hzero : z.pNtf last = 0x00 := by
      rw [hlast]
      exact hbyte
    rw [if_pos hold, if_pos hzero]
    show ¬ y.pLen - 1 = (y.pNtf 2 - 1).toNat + 3
    rw [hlen', hbyte]
    decide
  unfold rspWorkaround
  rw [Rx.cond_of_not, Rx.cond_of_not (heof_cond fun h => heof h.2),
    Rx.cond_of_agrees rfl _ (decide_eq_true hicode)]
  · exact ⟨rfl, hdata _ (by simp) (by simpa using hlen)⟩
  · simp [Lib.Memory.agrees, h0, h1]
  · simp [Lib.Memory.agrees, h0]

/-- A `CORE_RESET_NTF` is read up to its sixth byte. -/
theorem initRsp_resetNtf (created : Bool) (s : RxState) (h0 : x.pNtf 0 = 0x60)
    (h1 : x.pNtf 1 &&& nciOidMask = 0x00) (h3 : x.pNtf 3 = 0x02 ∨ x.pNtf 3 = 0x01)
    (hlen : x.pLen ≠ 0) :
    ∃ u y, s.phNxpNciHalExtProcessNfcInitRsp created x = some (NFCSTATUS.success, u, y) ∧
      y.pNtf = x.pNtf ∧ 5 ∈ y.seen := by
  have hreset : ∀ y : Rx, y.pNtf = x.pNtf → ∃ u z,
      s.coreResetNtf created y = some (NFCSTATUS.success, u, z) ∧ z.pNtf = x.pNtf ∧ 5 ∈ z.seen := by
    intro y hp
    unfold coreResetNtf
    extract_lets p z len
    rw [if_pos (by simpa [p, hp] using h3)]
    exact ⟨_, _, rfl, hp, List.mem_append_right _ List.mem_cons_self⟩
  unfold phNxpNciHalExtProcessNfcInitRsp
  rw [if_neg hlen, Rx.condOid_of_ne 0x00 (by rw [h0]; decide),
    Rx.condOid_of_eq (by simpa using h0) (by simpa using h1)]
  exact hreset _ (by simp [Rx.look])

/-- The workarounds do not drop a `CORE_RESET_NTF`. -/
theorem rspWorkaround_of_ntf (h0 : x.pNtf 0 = 0x60) :
    (s.rspWorkaround x).1 = NFCSTATUS.success ∧ x.seen ⊆ (s.rspWorkaround x).2.2.seen := by
  -- after the rules for ISO 15693 tags, every rule is for another message type
  have hother : ∀ y : Rx, y.pNtf 0 = 0x60 →
      (s.otherWorkaround y).1 = NFCSTATUS.success ∧ y.seen ⊆ (s.otherWorkaround y).2.2.seen := by
    intro y hy
    unfold otherWorkaround presenceCheck
    rw [Rx.cond_of_not, Rx.cond_of_not, Rx.cond_of_not, Rx.cond_of_not, Rx.cond_of_not,
      Rx.cond_of_not, Rx.cond_of_not]
    · refine ⟨rfl, fun i hi => ?_⟩
      repeat apply Rx.seen_subset_evaluated
      exact hi
    all_goals simp [Lib.Memory.agrees, hy]
  unfold rspWorkaround
  rw [Rx.cond_of_not (by simp [Lib.Memory.agrees, h0])]
  refine Rx.cond_grows (P := fun r : NFCSTATUS × RxState × Rx => r.1 = NFCSTATUS.success ∧
    x.seen ⊆ r.2.2.seen) (fun l hl _ _ _ => ⟨rfl, fun i hi => hl (Rx.seen_subset_evaluated hi)⟩)
    fun l hl _ => ?_
  rw [Rx.cond_of_not (by simp [Lib.Memory.agrees, h0])]
  refine Rx.cond_grows (P := fun r : NFCSTATUS × RxState × Rx => r.1 = NFCSTATUS.success ∧
    x.seen ⊆ r.2.2.seen) (fun l' hl' _ _ _ => ⟨rfl, fun i hi => ?_⟩) fun l' hl' _ => ?_
  · exact hl' (Rx.seen_subset_evaluated (hl (Rx.seen_subset_evaluated hi)))
  rw [Rx.cond_of_not (by simp [Lib.Memory.agrees, h0])]
  obtain ⟨hstatus, hseen⟩ := hother (((((x.evaluated true
    [(0, 0x61), (1, 0x05), (2, 0x15), (4, 0x01), (5, 0x06), (6, 0x06)]).saw l).evaluated true
    [(0, 0x00), (1, 0x00)]).saw l').evaluated true [(0, 0x61), (1, 0x06)]) (by simp [h0])
  refine ⟨hstatus, fun i hi => hseen (Rx.seen_subset_evaluated (hl' ?_))⟩
  exact Rx.seen_subset_evaluated (hl (Rx.seen_subset_evaluated hi))

/-- A `CORE_RESET_NTF` for a command or the power is read up to its sixth byte. -/
theorem processExtRsp_resetNtf (created : Bool) (s : RxState) {p : Lib.Memory} {len : ℕ}
    (hlen : len ≠ 0) (h0 : p 0 = 0x60) (h1 : p 1 &&& nciOidMask = 0x00)
    (h3 : p 3 = 0x02 ∨ p 3 = 0x01) :
    ∃ r, s.phNxpNciHalProcessExtRsp created (.received p len) = some r ∧
      r.1 = NFCSTATUS.success ∧ 5 ∈ r.2.2.seen := by
  obtain ⟨d, t, y, hp, hlen', -, heq⟩ := processExtRsp_stages created s
    fun h => absurd (h0.symm.trans h) (by decide)
  obtain ⟨u, z, hinit, hzp, hmem⟩ := initRsp_resetNtf created
    { s with nfcdepDetected := d, dtaT1tFlag := t } (x := y) (hp ▸ h0) (hp ▸ h1) (hp ▸ h3)
    (hlen' ▸ hlen)
  obtain ⟨hstatus, hseen⟩ := rspWorkaround_of_ntf (s := u) (x := z) (by rw [hzp]; exact hp ▸ h0)
  refine ⟨u.rspWorkaround z, ?_, hstatus, hseen hmem⟩
  rw [heq, hinit]
  rfl

end RxState

open RxState in
/-- A well-formed packet stays well formed, and is read up to its end, exactly when it is long enough
for what is read of it. -/
theorem processExtRsp_kept_iff (created : Bool) (s : RxState) (p : Lib.Memory) (len : ℕ)
    (hwf : WellFormed p len) :
    (∀ r, s.phNxpNciHalProcessExtRsp created (.received p len) = some r →
      r.1 = NFCSTATUS.success → RxKept len r) ↔ s.RxFits p len := by
  have hwf' : len = (p 2).toNat + 3 := hwf
  have hlen : len ≠ 0 := by omega
  refine ⟨fun h => ?_, fun hfits r hr hstatus => kept_of_fits hwf hfits hr hstatus⟩
  refine ⟨fun h0 h1 h3 => ?_, fun h0 h1 hicode heof hversion => ?_,
    fun h0 h1 heof hdone => ?_, fun h0 h1 h14 h4 h5 h6 heof => ?_⟩
  · obtain ⟨r, hr, hstatus, hmem⟩ := processExtRsp_resetNtf created s hlen h0 h1 h3
    exact (h r hr hstatus).reads 5 hmem
  · by_contra hshort
    have hzero : p 2 = 0x00 := by
      rw [← UInt8.toNat_inj]
      show (p 2).toNat = 0
      omega
    obtain ⟨d, t, y, hp, hlen', heq⟩ := processExtRsp_eq created s hlen (h0 ▸ by decide)
      (h0 ▸ by decide) fun h => absurd (h0.symm.trans h) (by decide)
    obtain ⟨hstatus, hnot⟩ := rspWorkaround_icodeData
      (s := { s with nfcdepDetected := d, dtaT1tFlag := t }) (x := y) (hp ▸ h0) (hp ▸ h1)
      (hp ▸ hzero) (by omega) hicode heof hversion
    exact hnot (h _ heq hstatus).format
  · by_contra hshort
    have htwo : p 2 ≠ 0x02 := by
      intro h2
      rw [h2] at hwf'
      exact hshort (hwf' ▸ by decide)
    obtain ⟨d, t, y, hp, hlen', heq⟩ := processExtRsp_eq created s hlen (h0 ▸ by decide)
      (h0 ▸ by decide) fun h => absurd (h0.symm.trans h) (by decide)
    obtain ⟨z, hzp, -, hz⟩ := rspWorkaround_eq_other
      (s := { s with nfcdepDetected := d, dtaT1tFlag := t }) (x := y)
      (by simp [hp, h0]) (by simp [hp, h0]) (fun _ => hp ▸ htwo) (by simp [hp, h0]) heof
    obtain ⟨hstatus, hmem⟩ := otherWorkaround_nfceeDiscover
      (s := { s with nfcdepDetected := d, dtaT1tFlag := t }) (x := z)
      (by rw [hzp, hp, h0]) (by rw [hzp, hp, h1]) hdone
    rw [hz] at heq
    exact hshort ((h _ heq hstatus).reads 4 hmem)
  · obtain ⟨d, t, y, hp, hlen', heq⟩ := processExtRsp_eq created s hlen (h0 ▸ by decide)
      (h0 ▸ by decide) fun _ _ => ⟨h14, h4⟩
    obtain ⟨z, hzp, -, hz⟩ := rspWorkaround_eq_other
      (s := { s with nfcdepDetected := d, dtaT1tFlag := t }) (x := y)
      (by simp [hp, h4]) (by simp [hp, h0]) (by simp [hp, h1]) (by simp [hp, h1]) heof
    obtain ⟨hstatus, hmem⟩ := otherWorkaround_mifare
      (s := { s with nfcdepDetected := d, dtaT1tFlag := t }) (x := z)
      (by rw [hzp, hp, h0]) (by rw [hzp, hp, h1]) (by rw [hzp, hp, h4]) (by rw [hzp, hp, h5])
      (by rw [hzp, hp, h6])
    rw [hz] at heq
    have hread := (h _ heq hstatus).reads _ hmem
    rwa [hzp, hp] at hread

/-- An ISO 15693 tag is active. -/
def icodeActive : RxState := { RxState.init with icodeDetected := 1 }

/-- A data packet without a payload comes out with two bytes, and a length byte of 255. -/
theorem emptyIcodeData_malformed :
    WellFormed (fun _ => 0) 3 ∧
      ¬ ∀ r, icodeActive.phNxpNciHalProcessExtRsp true (.received (fun _ => 0) 3) = some r →
        r.1 = NFCSTATUS.success → RxKept 3 r := by
  refine ⟨rfl, fun h => ?_⟩
  have hformat := (h _ rfl rfl).format
  revert hformat
  unfold WellFormed
  decide

/-- One with a status byte of zero loses that byte. -/
theorem statusIcodeData_kept :
    WellFormed (Lib.Memory.put (fun _ => 0) 2 [0x01]) 4 ∧
      ∀ r, icodeActive.phNxpNciHalProcessExtRsp true
          (.received (Lib.Memory.put (fun _ => 0) 2 [0x01]) 4) = some r →
        r.1 = NFCSTATUS.success → RxKept 4 r := by
  have hwf : WellFormed (Lib.Memory.put (fun _ => 0) 2 [0x01]) 4 := rfl
  refine ⟨hwf, (processExtRsp_kept_iff true icodeActive _ 4 hwf).2 ⟨?_, ?_, ?_, ?_⟩⟩
  · exact fun h => absurd h (by decide)
  · exact fun _ _ _ _ _ => le_rfl
  · exact fun h => absurd h (by decide)
  · exact fun h => absurd h (by decide)

end AliceHal.Pn54x.Hal
