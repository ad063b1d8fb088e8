import AliceHal.Pn54x.Hal.RxWellFormed

/-!
# Responses Captured in Buffers

Responses that the HAL keeps for itself: `phNxpNciHal_print_res_status` copies those to
`CORE_GET_CONFIG_CMD` and `CORE_SET_CONFIG_CMD` into one of three arrays, and
`phNxpNciHal_ext_process_nfc_init_rsp` copies a `CORE_INIT_RSP`. All copies are as long as the
packet.

- `CaptureBuffer`: the arrays, with their sizes
- `Capture.phNxpNciHalPrintResStatus`: the copies, with a record of the stores
- `receive_stores_iff`: the stores lie in the arrays exactly when the packet fits
-/

namespace AliceHal.Pn54x.Hal

/-- The arrays that responses are copied to. -/
inductive CaptureBuffer where
  /-- `phNxpNciClock.p_rx_data` -/
  | clock
  /-- `phNxpNciRfSet.p_rx_data` -/
  | rfSet
  /-- `phNxpNciMwEepromArea.p_rx_data` -/
  | mwEepromArea
  /-- `bCoreInitRsp`, 40 words of four bytes -/
  | coreInit
  deriving DecidableEq, Repr

/-- The size of an array in bytes. -/
def CaptureBuffer.size : CaptureBuffer → ℕ
  | .clock => 20
  | .rfSet => 20
  | .mwEepromArea => 32
  | .coreInit => 160

/-- The flags of `phNxpNciHal_print_res_status`, and the memory from each of its arrays on. -/
structure Capture where
  isClockSet : Bool
  clockRxData : Lib.Memory
  isGetRfSetting : Bool
  rfSetRxData : Lib.Memory
  isGetEepromArea : Bool
  mwEepromRxData : Lib.Memory
  configAccess : Bool
  configSuccess : Bool

namespace Capture

/-- The copy into the array that is asked for, with the indices it stores to. -/
def copyResponse (c : Capture) (p : Lib.Memory) (len : ℕ) : Capture × List (CaptureBuffer × ℕ) :=
  if c.isClockSet then
    ({ c with clockRxData := c.clockRxData.put 0 (p.slice len) },
      (List.range len).map (CaptureBuffer.clock, ·))
  else if c.isGetRfSetting then
    ({ c with rfSetRxData := c.rfSetRxData.put 0 (p.slice len) },
      (List.range len).map (CaptureBuffer.rfSet, ·))
  else if c.isGetEepromArea then
    -- without the header, the status and the header of the first parameter
    ({ c with mwEepromRxData := c.mwEepromRxData.put 0 ((p.slice len).drop 8) },
      (List.range (len - 8)).map (CaptureBuffer.mwEepromArea, ·))
  else (c, [])

/-- `phNxpNciHal_print_res_status`. -/
def phNxpNciHalPrintResStatus (c : Capture) (p : Lib.Memory) (len : ℕ) :
    Capture × List (CaptureBuffer × ℕ) :=
  let r := if p 0 = 0x40 && (p 1 = 0x02 || p 1 = 0x03) then c.copyResponse p len else (c, [])
  if p 2 ≠ 0 && r.1.configAccess && p 3 ≠ 0 then ({ r.1 with configSuccess := false }, r.2) else r

end Capture

/-- The first part of `phNxpNciHal_read_complete`: the extensions, and the copies of what they leave.
The last component has all stores outside of the packet. -/
def receive (created : Bool) (s : RxState) (c : Capture) (x : Rx) :
    Option ((NFCSTATUS × RxState × Rx) × Capture × List (CaptureBuffer × ℕ)) :=
  (s.phNxpNciHalProcessExtRsp created x).map fun r =>
    let q := c.phNxpNciHalPrintResStatus r.2.2.pNtf r.2.2.pLen
    (r, q.1, r.2.2.coreInitStores.map (CaptureBuffer.coreInit, ·) ++ q.2)

/-- The packet fits the array that it is copied to. -/
structure CaptureFits (s : RxState) (c : Capture) (p : Lib.Memory) (len : ℕ) : Prop where
  clock : p 0 = 0x40 → p 1 = 0x02 ∨ p 1 = 0x03 → c.isClockSet = true → len ≤ 20
  rfSet : p 0 = 0x40 → p 1 = 0x02 ∨ p 1 = 0x03 → c.isClockSet = false → c.isGetRfSetting = true →
    len ≤ 20
  mwEepromArea : p 0 = 0x40 → p 1 = 0x02 ∨ p 1 = 0x03 → c.isClockSet = false →
    c.isGetRfSetting = false → c.isGetEepromArea = true → len ≤ 40
  coreInit : p 0 = 0x40 → p 1 &&& nciOidMask = 0x01 → s.nciVersion ≠ nciVersion20 → len ≤ 160

/-! ## The header of a response -/

namespace RxState

variable {s : RxState} {x : Rx} {created : Bool}

/-- A workaround makes a response of no other packet, and of one response only: of the response of
four bytes that it makes longer by one. -/
structure SameHeader (x : Rx) (y : Rx) : Prop where
  stores : y.coreInitStores = x.coreInitStores
  other : x.pNtf 0 ≠ 0x40 → y.pNtf 0 ≠ 0x40
  header : x.pNtf 0 = 0x40 → y.pNtf 0 = 0x40 ∧ y.pNtf 1 = x.pNtf 1
  length : x.pNtf 0 = 0x40 → y.pLen = x.pLen ∨ (x.pLen = 4 ∧ y.pLen = 5)

/-- The packet itself, whatever was read of it. -/
theorem SameHeader.same {y : Rx} (hp : y.pNtf = x.pNtf) (hlen : y.pLen = x.pLen)
    (hstores : y.coreInitStores = x.coreInitStores) : SameHeader x y :=
  ⟨hstores, fun h => hp ▸ h, fun h => ⟨hp ▸ h, hp ▸ rfl⟩, fun _ => Or.inl hlen⟩

theorem SameHeader.of_saw {y : Rx} {l : List ℕ} (h : SameHeader (x.saw l) y) : SameHeader x y :=
  ⟨h.stores, h.other, h.header, h.length⟩

theorem SameHeader.put {i : ℕ} (hi : 2 ≤ i) (l : List ℕ) (bs : List UInt8) :
    SameHeader x ((x.saw l).put i bs) := by
  have hbyte : ∀ j < 2, (x.pNtf.put i bs) j = x.pNtf j := fun j hj =>
    Lib.Memory.put_of_lt (by omega)
  refine ⟨rfl, ?_, fun h => ⟨?_, ?_⟩, fun _ => Or.inl rfl⟩
  · show x.pNtf 0 ≠ 0x40 → (x.pNtf.put i bs) 0 ≠ 0x40
    rw [hbyte 0 (by decide)]
    exact id
  · exact (hbyte 0 (by decide)).trans h
  · exact hbyte 1 (by decide)

/-- Another packet, made of one that is no response. -/
theorem SameHeader.replaced {y : Rx} (h0 : x.pNtf 0 ≠ 0x40) (hstores : y.coreInitStores = x.coreInitStores)
    (hy : y.pNtf 0 ≠ 0x40) : SameHeader x y :=
  ⟨hstores, fun _ => hy, fun h => absurd h h0, fun h => absurd h h0⟩

/-- A condition between the workarounds. -/
theorem SameHeader.cond {z : Rx} {before after : Bool} {cs : List (ℕ × UInt8)}
    {yes no : Rx → NFCSTATUS × RxState × Rx}
    (hyes : ∀ l, before = true → x.pNtf.agrees cs = true → SameHeader z (yes (x.saw l)).2.2)
    (hno : ∀ l, SameHeader z (no (x.saw l)).2.2) :
    SameHeader z (x.cond before cs after yes no).2.2 :=
  Rx.cond_grows (P := fun r : NFCSTATUS × RxState × Rx => SameHeader z r.2.2)
    (fun l _ hbefore hagrees _ => hyes l hbefore hagrees) fun l _ _ => hno l

theorem sameHeader_presenceCheck (s : RxState) (x : Rx) :
    SameHeader x (s.presenceCheck x).2.2 := by
  unfold presenceCheck
  refine SameHeader.cond ?_ fun l => SameHeader.cond ?_ fun l => .same rfl rfl rfl
  · intro l _ hagrees
    have h0 : x.pNtf 0 ≠ 0x40 := by
      simp only [Lib.Memory.agrees, Bool.and_eq_true, beq_iff_eq] at hagrees
      rw [hagrees.1]
      decide
    refine SameHeader.cond ?_ ?_
    · exact fun l _ _ => .replaced h0 rfl (by decide : (0x60 : UInt8) ≠ 0x40)
    · exact fun l => .replaced h0 rfl (by decide : (0x60 : UInt8) ≠ 0x40)
  · intro l _ hagrees
    have h0 : x.pNtf 0 ≠ 0x40 := by
      simp only [Rx.saw_pNtf, Lib.Memory.agrees, Bool.and_eq_true, beq_iff_eq] at hagrees
      rw [hagrees.1]
      decide
    refine SameHeader.cond ?_ ?_
    · exact fun l _ _ => .replaced h0 rfl (by decide : (0x00 : UInt8) ≠ 0x40)
    · exact fun l => .replaced h0 rfl (by decide : (0x60 : UInt8) ≠ 0x40)

theorem sameHeader_otherWorkaround (s : RxState) (x : Rx) :
    SameHeader x (s.otherWorkaround x).2.2 := by
  unfold otherWorkaround
  refine SameHeader.cond ?_ fun l => ?_
  · intro l hfour hagrees
    have hfour : x.pLen = 4 := of_decide_eq_true hfour
    simp only [Lib.Memory.agrees, Bool.and_eq_true, beq_iff_eq] at hagrees
    refine ⟨rfl, fun h => absurd hagrees.1 h, fun _ => ⟨rfl, hagrees.2.1.symm⟩, fun _ => ?_⟩
    exact Or.inr ⟨hfour, rfl⟩
  refine SameHeader.cond ?_ fun l => ?_
  · intro l _ _
    unfold nfceeDiscoverRsp
    extract_lets y
    split
    · exact SameHeader.put (by decide) _ _
    · exact .same rfl rfl rfl
  refine SameHeader.cond ?_ fun l => SameHeader.cond ?_ fun l => SameHeader.cond ?_ fun l => ?_
  · intro l _ _
    split
    · unfold cleanupDiscover
      extract_lets y
      split
      · exact .same rfl rfl rfl
      · exact .same rfl rfl rfl
    · exact .same rfl rfl rfl
  · exact fun l _ _ => .same rfl rfl rfl
  · intro l _ _
    unfold mifareSak
    extract_lets sak y
    split
    · exact SameHeader.put (by decide) _ _
    · exact .same rfl rfl rfl
  · exact (sameHeader_presenceCheck s _).of_saw

theorem sameHeader_rspWorkaround (s : RxState) (x : Rx) :
    SameHeader x (s.rspWorkaround x).2.2 := by
  unfold rspWorkaround
  refine SameHeader.cond ?_ fun l => SameHeader.cond ?_ fun l => SameHeader.cond ?_ fun l =>
    SameHeader.cond ?_ fun l => SameHeader.cond ?_ fun l => ?_
  · exact fun l _ _ => SameHeader.put (by decide) _ _
  · exact fun l _ _ => .same rfl rfl rfl
  · intro l _ hagrees
    have h0 : x.pNtf 0 ≠ 0x40 := by
      simp only [Rx.saw_pNtf, Lib.Memory.agrees, Bool.and_eq_true, beq_iff_eq] at hagrees
      rw [hagrees.1]
      decide
    unfold icodeData
    extract_lets u last y
    split
    · split
      · exact .replaced h0 rfl h0
      · exact SameHeader.put (by omega) _ _
    · exact .same rfl rfl rfl
  · exact fun l _ _ => .same rfl rfl rfl
  · exact fun l _ _ => .same rfl rfl rfl
  · exact (sameHeader_otherWorkaround s _).of_saw

/-! ## What is stored -/

theorem coreResetRsp_eq (s : RxState) (x : Rx) : ∃ u l, s.coreResetRsp x = (u, x.saw l) := by
  unfold coreResetRsp
  refine Rx.cond_grows (P := fun r : RxState × Rx => ∃ u l, r = (u, x.saw l))
    (fun l _ _ _ _ => ⟨_, l, rfl⟩) fun l _ _ => ?_
  refine Rx.cond_grows (P := fun r : RxState × Rx => ∃ u l, r = (u, x.saw l))
    (fun l _ _ _ _ => ⟨_, _, rfl⟩) fun l _ _ => ⟨_, l, rfl⟩

theorem coreInitRsp_eq (s : RxState) (x : Rx) (hstores : x.coreInitStores = []) :
    ∃ st u y, s.coreInitRsp x = (st, u, y) ∧ y.pNtf = x.pNtf ∧ y.pLen = x.pLen ∧
      y.coreInitStores = if s.nciVersion ≠ nciVersion20 then List.range x.pLen else [] := by
  unfold coreInitRsp
  split
  · rename_i hversion
    refine ⟨_, s, x, rfl, rfl, rfl, ?_⟩
    rw [if_neg (not_not.2 hversion), hstores]
  · exact ⟨_, _, _, rfl, rfl, rfl, rfl⟩

/-- A response comes to the workarounds as it is, and a `CORE_INIT_RSP` is copied before. -/
theorem initRsp_of_rsp (created : Bool) (s : RxState) (hlen : x.pLen ≠ 0) (h0 : x.pNtf 0 = 0x40)
    (hstores : x.coreInitStores = []) :
    ∃ st u y, s.phNxpNciHalExtProcessNfcInitRsp created x = some (st, u, y) ∧
      y.pNtf = x.pNtf ∧ y.pLen = x.pLen ∧ y.coreInitStores =
        if x.pNtf 1 &&& nciOidMask = 0x01 ∧ s.nciVersion ≠ nciVersion20 then List.range x.pLen
        else [] := by
  unfold phNxpNciHalExtProcessNfcInitRsp
  rw [if_neg hlen]
  by_cases hreset : x.pNtf 1 &&& nciOidMask = 0x00
  · obtain ⟨u, l, heq⟩ := s.coreResetRsp_eq ((x.evaluated true [(0, 0x40)]).look [1])
    rw [Rx.condOid_of_eq h0 hreset, if_neg fun h => absurd (hreset.symm.trans h.1) (by decide), heq]
    exact ⟨_, u, _, rfl, by simp, by simp, by simpa [Rx.saw] using hstores⟩
  rw [Rx.condOid_of_other h0 hreset, Rx.condOid_of_ne 0x00 (by simp [h0])]
  by_cases hinit : x.pNtf 1 &&& nciOidMask = 0x01
  · rw [Rx.condOid_of_eq (by simpa using h0) (by simpa using hinit)]
    obtain ⟨st, u, y, heq, hp, hlen', hy⟩ := s.coreInitRsp_eq
      (((((x.evaluated true [(0, 0x40)]).look [1]).evaluated true [(0, 0x60)]).evaluated true
        [(0, 0x40)]).look [1]) (by simpa using hstores)
    refine ⟨st, u, y, by rw [heq], by simpa using hp, by simpa using hlen', ?_⟩
    simpa [hinit] using hy
  · rw [Rx.condOid_of_other (by simpa using h0) (by simpa using hinit)]
    refine ⟨_, s, _, rfl, by simp, by simp, ?_⟩
    simpa [hinit] using hstores

/-- The recovery stores nothing of the packet. -/
theorem unexpectedReset_packet {r : NFCSTATUS × RxState × Rx}
    (h : s.unexpectedReset created x = some r) :
    r.2.2.coreInitStores = x.coreInitStores ∧ r.2.2.pNtf = x.pNtf := by
  have hrecovery : ∀ (u : RxState) (l : List ℕ),
      (u.phNxpNciHalEmergencyRecovery created (x.saw l)).map (NFCSTATUS.failed, u, ·) = some r →
      r.2.2.coreInitStores = x.coreInitStores ∧ r.2.2.pNtf = x.pNtf := by
    intro u l hu
    obtain ⟨y, hy, rfl⟩ := Option.map_eq_some_iff.1 hu
    obtain ⟨-, rfl⟩ := emergencyRecovery_eq_some hy
    exact ⟨rfl, rfl⟩
  unfold unexpectedReset at h
  extract_lets keep clear at h
  split at h
  · revert h
    refine Rx.cond_grows (P := fun o => o = some r → r.2.2.coreInitStores = x.coreInitStores ∧
      r.2.2.pNtf = x.pNtf) (fun l _ _ _ _ => ?_) fun l _ _ => hrecovery _ l
    refine Rx.cond_grows (P := fun o => o = some r → r.2.2.coreInitStores = x.coreInitStores ∧
      r.2.2.pNtf = x.pNtf) (fun l _ _ _ _ => hrecovery _ l) fun l _ _ => ?_
    exact Rx.cond_grows (P := fun o => o = some r → r.2.2.coreInitStores = x.coreInitStores ∧
      r.2.2.pNtf = x.pNtf) (fun l _ _ _ _ => hrecovery _ l) fun l _ _ => hrecovery _ l
  · exact hrecovery s x.seen h

/-- Nothing is copied of the other packets. -/
theorem initRsp_of_not_rsp (h0 : x.pNtf 0 ≠ 0x40) {r : NFCSTATUS × RxState × Rx}
    (h : s.phNxpNciHalExtProcessNfcInitRsp created x = some r) :
    r.2.2.coreInitStores = x.coreInitStores ∧ r.2.2.pNtf = x.pNtf := by
  have hreset : ∀ l, s.coreResetNtf created (x.saw l) = some r →
      r.2.2.coreInitStores = x.coreInitStores ∧ r.2.2.pNtf = x.pNtf := by
    intro l hl
    unfold coreResetNtf at hl
    extract_lets p y len at hl
    split at hl
    · cases hl
      exact ⟨rfl, rfl⟩
    · exact unexpectedReset_packet (x := y) hl
  unfold phNxpNciHalExtProcessNfcInitRsp at h
  split at h
  · cases h
    exact ⟨rfl, rfl⟩
  rw [Rx.condOid_of_ne 0x00 h0] at h
  revert h
  refine Rx.condOid_rule (I := fun _ => True) (P := fun o => o = some r →
    r.2.2.coreInitStores = x.coreInitStores ∧ r.2.2.pNtf = x.pNtf) (fun _ _ => trivial)
    (fun l _ _ _ => hreset l) fun l _ _ h => ?_
  rw [Rx.condOid_of_ne 0x01 (by simpa using h0)] at h
  cases h
  exact ⟨rfl, rfl⟩

theorem processExtRsp_of_rsp (created : Bool) (s : RxState) {p : Lib.Memory} {len : ℕ}
    (hlen : len ≠ 0) (h0 : p 0 = 0x40) :
    ∃ (u : RxState) (y : Rx),
      s.phNxpNciHalProcessExtRsp created (.received p len) = some (u.rspWorkaround y) ∧
      y.pNtf = p ∧ y.pLen = len ∧ y.coreInitStores =
        if p 1 &&& nciOidMask = 0x01 ∧ s.nciVersion ≠ nciVersion20 then List.range len else [] := by
  obtain ⟨d, t, y, hp, hlen', hstores, heq⟩ := processExtRsp_stages created s
    fun h => absurd (h0.symm.trans h) (by decide)
  obtain ⟨st, u, z, hinit, hzp, hzlen, hz⟩ := initRsp_of_rsp created
    { s with nfcdepDetected := d, dtaT1tFlag := t } (x := y) (hlen' ▸ hlen) (hp ▸ h0) hstores
  refine ⟨u, z, ?_, hzp.trans hp, hzlen.trans hlen', ?_⟩
  · rw [heq, hinit]
    rfl
  · rw [hz, hp, hlen']

theorem processExtRsp_of_not_rsp {p : Lib.Memory} {len : ℕ} (h0 : p 0 ≠ 0x40)
    {r : NFCSTATUS × RxState × Rx}
    (h : s.phNxpNciHalProcessExtRsp created (.received p len) = some r) :
    r.2.2.coreInitStores = [] ∧ r.2.2.pNtf 0 ≠ 0x40 := by
  revert h
  unfold phNxpNciHalProcessExtRsp
  refine Rx.cond_below (P := fun o => o = some r → r.2.2.coreInitStores = [] ∧ r.2.2.pNtf 0 ≠ 0x40)
    (n := 14) (fun i hi => absurd hi List.not_mem_nil) ?_ ?_ ?_
  · exact fun _ => below_header (by decide) _ _ _
  · intro l _ _ _ _ h
    cases h
    exact ⟨rfl, h0⟩
  intro l hl _ h
  obtain ⟨q, l₁, hprofile, -, hq⟩ := s.activatedProfile_spec (x := (Rx.received p len).saw l) hl
    (by decide) fun _ _ => by decide
  obtain ⟨d, t, l₂, hactivated⟩ := s.activated_eq
    { (Rx.received p len).saw l with pNtf := q, seen := l₁ }
  rw [hprofile, hactivated] at h
  obtain ⟨u, hu, rfl⟩ := Option.map_eq_some_iff.1 h
  have hq0 : q 0 ≠ 0x40 := by
    rw [hq.bytes (Or.inl (by decide))]
    exact h0
  obtain ⟨hstores, hp⟩ := initRsp_of_not_rsp (x := _) hq0 hu
  have hheader := sameHeader_rspWorkaround u.2.1 u.2.2
  refine ⟨hheader.stores.trans hstores, hheader.other ?_⟩
  rw [hp]
  exact hq0

end RxState

/-! ## Where it is stored -/

/-- All these stores lie in their arrays. -/
def InBounds (stores : List (CaptureBuffer × ℕ)) : Prop := ∀ b ∈ stores, b.2 < b.1.size

theorem inBounds_append {l l' : List (CaptureBuffer × ℕ)} :
    InBounds (l ++ l') ↔ InBounds l ∧ InBounds l' :=
  List.forall_mem_append

/-- A copy lies in its array if it is not longer. -/
theorem inBounds_copy (b : CaptureBuffer) (n : ℕ) :
    InBounds ((List.range n).map (b, ·)) ↔ n ≤ b.size := by
  rw [InBounds, List.forall_mem_map]
  constructor
  · intro h
    by_contra hlt
    exact absurd (h b.size (List.mem_range.2 (Nat.lt_of_not_le hlt))) (Nat.lt_irrefl _)
  · exact fun h i hi => (List.mem_range.1 hi).trans_le h

/-- The stores of `phNxpNciHal_print_res_status`. -/
theorem printResStatus_stores (c : Capture) (p : Lib.Memory) (len : ℕ) :
    (c.phNxpNciHalPrintResStatus p len).2 =
      if p 0 = 0x40 ∧ (p 1 = 0x02 ∨ p 1 = 0x03) then (c.copyResponse p len).2 else [] := by
  unfold Capture.phNxpNciHalPrintResStatus
  extract_lets r
  have hr : r.2 = if p 0 = 0x40 ∧ (p 1 = 0x02 ∨ p 1 = 0x03) then (c.copyResponse p len).2
      else [] := by
    simp only [r, Bool.and_eq_true, Bool.or_eq_true, decide_eq_true_eq]
    split
    · rfl
    · rfl
  split
  · exact hr
  · exact hr

/-- The copy of a response, by the flag that is set. -/
theorem inBounds_copyResponse (c : Capture) (p : Lib.Memory) (len : ℕ) :
    InBounds (c.copyResponse p len).2 ↔
      (c.isClockSet = true → len ≤ 20) ∧
      (c.isClockSet = false → c.isGetRfSetting = true → len ≤ 20) ∧
      (c.isClockSet = false → c.isGetRfSetting = false → c.isGetEepromArea = true → len ≤ 40) := by
  unfold Capture.copyResponse
  cases c.isClockSet with
  | true => simp [inBounds_copy, CaptureBuffer.size]
  | false =>
    cases c.isGetRfSetting with
    | true => simp [inBounds_copy, CaptureBuffer.size]
    | false =>
      cases c.isGetEepromArea with
      | true =>
        simp only [Bool.false_eq_true, if_false, if_true, inBounds_copy, CaptureBuffer.size]
        simp
      | false => simp [InBounds]

/-- What is stored of a received packet lies in the arrays exactly when the packet fits. -/
theorem receive_stores_iff (created : Bool) (s : RxState) (c : Capture) (p : Lib.Memory) (len : ℕ)
    (hwf : WellFormed p len) :
    (∀ r, receive created s c (.received p len) = some r → InBounds r.2.2) ↔
      CaptureFits s c p len := by
  have hlen : len ≠ 0 := by
    rw [hwf]
    omega
  by_cases h0 : p 0 = 0x40
  · obtain ⟨u, y, heq, hp, hlen', hstores⟩ := RxState.processExtRsp_of_rsp created s hlen h0
    have hsame := RxState.sameHeader_rspWorkaround u y
    have hy0 : y.pNtf 0 = 0x40 := hp ▸ h0
    obtain ⟨hr0, hr1⟩ := hsame.header hy0
    -- the response that becomes longer by one byte fits before and after
    have hbound : ∀ n, 5 ≤ n → ((u.rspWorkaround y).2.2.pLen ≤ n ↔ len ≤ n) := by
      intro n hn
      have hlength := hsame.length hy0
      omega
    have hcore : InBounds ((u.rspWorkaround y).2.2.coreInitStores.map (CaptureBuffer.coreInit, ·)) ↔
        (p 1 &&& nciOidMask = 0x01 → s.nciVersion ≠ nciVersion20 → len ≤ 160) := by
      rw [hsame.stores, hstores]
      split
      · rename_i hinit
        rw [inBounds_copy]
        exact ⟨fun h _ _ => h, fun h => h hinit.1 hinit.2⟩
      · rename_i hinit
        exact iff_of_true (fun b hb => absurd hb List.not_mem_nil) fun h h' => absurd ⟨h, h'⟩ hinit
    have hreceive : receive created s c (.received p len) = some (u.rspWorkaround y, _, _) :=
      congrArg (Option.map _) heq
    have hone : (∀ r, receive created s c (.received p len) = some r → InBounds r.2.2) ↔ _ :=
      ⟨fun h => h _ hreceive, fun h r hr => Option.some.inj (hreceive.symm.trans hr) ▸ h⟩
    rw [hone, inBounds_append, hcore, printResStatus_stores, hr0, hr1, hp]
    by_cases h1 : p 1 = 0x02 ∨ p 1 = 0x03
    · rw [if_pos ⟨rfl, h1⟩, inBounds_copyResponse, hbound 20 (by decide), hbound 40 (by decide)]
      exact ⟨fun h => ⟨fun _ _ => h.2.1, fun _ _ => h.2.2.1, fun _ _ => h.2.2.2, fun _ => h.1⟩,
        fun h => ⟨h.coreInit h0, h.clock h0 h1, h.rfSet h0 h1, h.mwEepromArea h0 h1⟩⟩
    · rw [if_neg fun h => h1 h.2]
      refine ⟨fun h => ⟨fun _ h' => absurd h' h1, fun _ h' => absurd h' h1,
        fun _ h' => absurd h' h1, fun _ => h.1⟩, fun h => ⟨h.coreInit h0, fun b hb => ?_⟩⟩
      exact absurd hb List.not_mem_nil
  · refine iff_of_true (fun r hr => ?_) ⟨fun h => absurd h h0, fun h => absurd h h0,
      fun h => absurd h h0, fun h => absurd h h0⟩
    obtain ⟨u, hu, rfl⟩ := Option.map_eq_some_iff.1 hr
    obtain ⟨hstores, hu0⟩ := RxState.processExtRsp_of_not_rsp h0 hu
    dsimp only
    rw [hstores, printResStatus_stores, if_neg fun h => hu0 h.1]
    exact fun b hb => absurd hb List.not_mem_nil

/-- The clock setting is asked for. -/
def clockCapture : Capture where
  isClockSet := true
  clockRxData := fun _ => 0
  isGetRfSetting := false
  rfSetRxData := fun _ => 0
  isGetEepromArea := false
  mwEepromRxData := fun _ => 0
  configAccess := false
  configSuccess := true

/-- A `CORE_GET_CONFIG_RSP` of 21 bytes. -/
def longConfigRsp : Lib.Memory := Lib.Memory.put (fun _ => 0) 0 [0x40, 0x03, 0x12]

/-- Its last byte is stored behind the array. -/
theorem longConfigRsp_overflows :
    WellFormed longConfigRsp 21 ∧
      ¬ ∀ r, receive true RxState.init clockCapture (.received longConfigRsp 21) = some r →
        InBounds r.2.2 := by
  refine ⟨rfl, fun h => ?_⟩
  have hstore := h _ rfl (CaptureBuffer.clock, 20) (by decide)
  exact absurd hstore (by decide)

/-- A `CORE_GET_CONFIG_RSP` of 8 bytes, as the clock setting has. -/
def clockConfigRsp : Lib.Memory := Lib.Memory.put (fun _ => 0) 0 [0x40, 0x03, 0x05]

theorem clockConfigRsp_inBounds :
    WellFormed clockConfigRsp 8 ∧
      ∀ r, receive true RxState.init clockCapture (.received clockConfigRsp 8) = some r →
        InBounds r.2.2 := by
  have hwf : WellFormed clockConfigRsp 8 := rfl
  refine ⟨hwf, (receive_stores_iff true RxState.init clockCapture clockConfigRsp 8 hwf).2 ?_⟩
  exact ⟨fun _ _ _ => by decide, fun _ _ _ _ => by decide, fun _ _ _ _ _ => by decide,
    fun _ _ _ => by decide⟩

end AliceHal.Pn54x.Hal
