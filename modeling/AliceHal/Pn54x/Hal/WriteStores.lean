import AliceHal.Lib.Extents
import AliceHal.Pn54x.Hal.SetConfig

/-!
# Where a Write Stores

The extents of the stores in `p_cmd_data` that `phNxpNciHal_write_ext` makes, rule by rule, in the
order of the source. None of the rules compares them with the size of the buffer.

- `HalState.writeExtStores`: the extents
- `HalState.writeExt_changedIn`: there are no other changes
- `HalState.extendedStores_fit`: which of the extents may end behind the buffer
-/

namespace AliceHal.Pn54x.Hal

open Lib

namespace HalState

/-! ## The rules -/

def dtaCommandStores (s : HalState) : List Extent :=
  let p := s.pCmdData
  if p.reads 0 [0x20, 0x02, 0x17, 0x01, 0x29, 0x14] then []
  else if p.reads 0 [0x21, 0x08, 0x04, 0xFF, 0xFF] then []
  else if p.reads 0 [0x20, 0x02, 0x10, 0x05] && p 10 == 0x32 && p 12 == 0x00 then
    [⟨12, 1⟩, ⟨18, 1⟩]
  else if p.reads 0 [0x20, 0x02, 0x0D, 0x04] && p 10 == 0x32 && p 12 == 0x00 then []
  else if p.reads 0 [0x21, 0x03] then
    -- behind the packet
    [⟨2, 2⟩, ⟨s.cmdLen, 6⟩]
  else []

def dtaT1tStores (r : NFCSTATUS × HalState) : List Extent :=
  if r.2.dtaT1tFlag && r.2.pCmdData.reads 2 [0x07, 0x78, 0x00, 0x00] then [⟨6, 4⟩] else []

def dtaUpdateStores (s : HalState) : List Extent :=
  if s.dtaCtrlFlag then s.dtaCommandStores ++ dtaT1tStores s.dtaCommand else []

def emvCoDiscoverStores (s : HalState) : List Extent :=
  if s.profileType = .emvCo then
    if s.pCmdData.reads 0 [0x21, 0x06, 0x01, 0x03] then []
    else if s.pCmdData.reads 0 [0x21, 0x03] then [⟨2, 6⟩]
    else []
  else []

def icodeCommandStores (s : HalState) : List Extent :=
  if s.pCmdData 3 == 0x20 || s.pCmdData 3 == 0x24 || s.pCmdData 3 == 0x60 then [⟨3, 1⟩] else []

def commandWorkaroundStores (s : HalState) : List Extent :=
  let p := s.pCmdData
  if p.reads 0 [0x21, 0x03] then []
  else if p.reads 0 [0x22, 0x00, 0x01, 0x00] then []
  else if p.reads 0 [0x20, 0x02, 0x09, 0x04] then [⟨2, 1⟩, ⟨9, 4⟩]
  else if p.reads 0 [0x20, 0x02, 0x07, 0x03] || p.reads 0 [0x20, 0x02, 0x03, 0x01, 0x32] then []
  else if p.reads 0 [0x20, 0x02, 0x04, 0x01, 0x32, 0x00] then [⟨6, 1⟩]
  else if p.reads 0 [0x21, 0x00] then
    -- behind the packet
    [⟨s.cmdLen, 3⟩, ⟨5, 2⟩, ⟨2, 2⟩]
  else if s.cmdLen = 3 && p.reads 0 [0x00, 0x00, 0x00] then [⟨0, 3⟩]
  else []

def workaroundStores (retval : ℕ) (s : HalState) : List Extent :=
  let p := s.pCmdData
  if retval = 0x01 && p.reads 0 [0x21, 0x00] then
    -- behind the packet
    [⟨2, 2⟩, ⟨s.cmdLen, 3⟩]
  else if p.reads 3 [0x81, 0x01, 0x03] then [⟨2, 1⟩, ⟨6, 1⟩]
  else if s.icodeDetected ≠ 0 then s.icodeCommandStores
  else s.commandWorkaroundStores

def swapT3tFlagsStores (s : HalState) : List Extent :=
  if s.pCmdData.reads 0 [0x20, 0x02] then
    match t3tScan s.pCmdData s.cmdLen 4 with
    | some i => [⟨i + 2, 2⟩]
    | none => []
  else []

/-- The stages after `phNxpNciHal_NfcDep_cmd_ext`. -/
def extendedStores (retval : ℕ) (s : HalState) : List Extent :=
  let r := selectMode s.phNxpNHalDtaUpdate
  s.dtaUpdateStores ++ (r.2.emvCoDiscoverStores ++
    (workaroundStores retval s.front.2 ++
      swapT3tFlagsStores (workaround retval s.front.1 s.front.2).2))

/-- `phNxpNciHal_write_ext`. -/
def writeExtStores (retval : ℕ) (s : HalState) : List Extent :=
  s.phNxpNciHalNfcDepCmdExt.extendedStores retval

variable {retval : ℕ} {s : HalState}

/-! ## Nothing else changes -/

theorem dtaCommand_changedIn (s : HalState) :
    Memory.ChangedIn s.dtaCommandStores s.pCmdData s.dtaCommand.2.pCmdData := by
  unfold dtaCommandStores dtaCommand
  extract_lets p
  split
  · exact .refl _ _
  split
  · exact .refl _ _
  split
  · exact .put_then rfl (.put rfl)
  split
  · exact .refl _ _
  split
  · exact .put_then rfl (.put rfl)
  -- the rules that are left prepare a response
  split
  · exact .refl _ _
  split
  · exact .refl _ _
  split
  · exact .refl _ _
  · exact .refl _ _

theorem dtaT1t_changedIn (r : NFCSTATUS × HalState) :
    Memory.ChangedIn (dtaT1tStores r) r.2.pCmdData (dtaT1t r).2.pCmdData := by
  unfold dtaT1tStores dtaT1t
  split
  · exact .put rfl
  · exact .refl _ _

theorem dtaUpdate_changedIn (s : HalState) :
    Memory.ChangedIn s.dtaUpdateStores s.pCmdData s.phNxpNHalDtaUpdate.2.pCmdData := by
  unfold dtaUpdateStores phNxpNHalDtaUpdate
  split
  · exact s.dtaCommand_changedIn.trans (dtaT1t_changedIn _)
  · exact .refl _ _

theorem selectMode_pCmdData (r : NFCSTATUS × HalState) :
    (selectMode r).2.pCmdData = r.2.pCmdData := by
  unfold selectMode
  extract_lets s
  split
  · rfl
  split
  · rfl
  split
  · rfl
  · rfl

theorem emvCoDiscover_changedIn (s : HalState) :
    Memory.ChangedIn s.emvCoDiscoverStores s.pCmdData s.emvCoDiscover.pCmdData := by
  unfold emvCoDiscoverStores emvCoDiscover
  split
  · split
    · exact .refl _ _
    split
    · exact .put rfl
    · exact .refl _ _
  · exact .refl _ _

theorem icodeCommand_changedIn (s : HalState) :
    Memory.ChangedIn s.icodeCommandStores s.pCmdData s.icodeCommand.pCmdData := by
  unfold icodeCommandStores icodeCommand
  extract_lets u
  have hu : u.pCmdData = s.pCmdData := by
    unfold u
    split
    · rfl
    · rfl
  rw [← hu]
  split
  · exact .put rfl
  · exact .refl _ _

theorem commandWorkaround_changedIn (s : HalState) (status : NFCSTATUS) :
    Memory.ChangedIn s.commandWorkaroundStores s.pCmdData
      (s.commandWorkaround status).2.pCmdData := by
  unfold commandWorkaroundStores commandWorkaround
  extract_lets p q
  split
  · obtain ⟨cmd, heq⟩ := discoveryCmdExt_eq { s with icodeDetected := 0, icodeSendEof := 0 }
    rw [heq]
    exact .refl _ _
  split
  · exact .refl _ _
  split
  · exact .put_then rfl (.put rfl)
  split
  · exact .refl _ _
  split
  · exact .put rfl
  split
  · exact .put_then rfl (.put_then rfl (.put rfl))
  split
  · exact .put rfl
  · exact .refl _ _

theorem workaround_changedIn (retval : ℕ) (status : NFCSTATUS) (s : HalState) :
    Memory.ChangedIn (workaroundStores retval s) s.pCmdData
      (workaround retval status s).2.pCmdData := by
  unfold workaroundStores workaround
  extract_lets p
  split
  · exact .put_then rfl (.put rfl)
  split
  · exact .put_then rfl (.put rfl)
  split
  · exact s.icodeCommand_changedIn
  · exact s.commandWorkaround_changedIn status

theorem swapT3tFlags_changedIn (r : NFCSTATUS × HalState) :
    Memory.ChangedIn r.2.swapT3tFlagsStores r.2.pCmdData (swapT3tFlags r).2.pCmdData := by
  rw [swapT3tFlagsStores, swapT3tFlags]
  split
  · cases t3tScan r.2.pCmdData r.2.cmdLen 4 with
    | some i => exact .put rfl
    | none => exact .refl _ _
  · exact .refl _ _

/-- `phNxpNciHal_write_ext` changes nothing of `p_cmd_data` outside of these extents. -/
theorem writeExt_changedIn (retval : ℕ) (s : HalState) :
    Memory.ChangedIn (s.writeExtStores retval) s.pCmdData
      (s.phNxpNciHalWriteExt retval).2.pCmdData := by
  have hdep : s.phNxpNciHalNfcDepCmdExt.pCmdData = s.pCmdData := by
    obtain ⟨poll, heq⟩ := s.nfcDepCmdExt_eq
    rw [heq]
  rw [writeExt_stages, writeExtStores, extendedStores, ← hdep]
  apply (dtaUpdate_changedIn _).trans
  rw [← selectMode_pCmdData]
  apply (emvCoDiscover_changedIn _).trans
  apply (workaround_changedIn retval _ _).trans
  exact swapT3tFlags_changedIn _

/-! ## Which stores may end behind the buffer -/

/-- The DTA mode appends to the command that starts the discovery. -/
theorem dtaUpdateStores_fit : (∀ e ∈ s.dtaUpdateStores, e.FitsIn nciMaxDataLen) ↔
    (s.dtaCtrlFlag = true → s.pCmdData.reads 0 [0x21, 0x03] = true →
      s.cmdLen + 6 ≤ nciMaxDataLen) := by
  have hT1t : ∀ r, ∀ e ∈ dtaT1tStores r, e.FitsIn nciMaxDataLen := by
    intro r e he
    unfold dtaT1tStores at he
    split at he
    · obtain rfl := List.mem_singleton.1 he
      decide
    · simp at he
  by_cases hflag : s.dtaCtrlFlag = true
  · rw [dtaUpdateStores, if_pos hflag, List.forall_mem_append, and_iff_left (hT1t _),
      forall_prop_of_true hflag]
    cases hpoll : s.pCmdData.reads 0 [0x21, 0x03] with
    | true =>
      have hhead : s.pCmdData 0 = 0x21 ∧ s.pCmdData 1 = 0x03 := by
        simpa [Memory.reads] using hpoll
      have hstores : s.dtaCommandStores = [⟨2, 2⟩, ⟨s.cmdLen, 6⟩] := by
        simp [dtaCommandStores, Memory.reads, hhead]
      have hfirst : (⟨2, 2⟩ : Extent).FitsIn nciMaxDataLen := by decide
      rw [hstores, List.forall_mem_cons, List.forall_mem_singleton, and_iff_right hfirst,
        forall_prop_of_true rfl]
      rfl
    | false =>
      refine iff_of_true (fun e he => ?_) fun h => absurd h Bool.false_ne_true
      -- all others store at fixed indices
      unfold dtaCommandStores at he
      extract_lets p at he
      rw [if_neg (c := p.reads 0 [0x21, 0x03] = true) (by simp [p, hpoll])] at he
      split at he
      · simp at he
      split at he
      · simp at he
      split at he
      · simp only [List.mem_cons, List.not_mem_nil, or_false] at he
        rcases he with rfl | rfl
        · decide
        · decide
      split at he
      · simp at he
      · simp at he
  · rw [dtaUpdateStores, if_neg hflag]
    simp [hflag]

theorem emvCoDiscoverStores_fit : ∀ e ∈ s.emvCoDiscoverStores, e.FitsIn nciMaxDataLen := by
  intro e he
  unfold emvCoDiscoverStores at he
  split at he
  · split at he
    · simp at he
    split at he
    · obtain rfl := List.mem_singleton.1 he
      decide
    · simp at he
  · simp at he

/-- A workaround appends to the discovery map. -/
theorem commandWorkaroundStores_fit :
    (∀ e ∈ s.commandWorkaroundStores, e.FitsIn nciMaxDataLen) ↔
      (s.pCmdData.reads 0 [0x21, 0x00] = true → s.cmdLen + 3 ≤ nciMaxDataLen) := by
  cases hmap : s.pCmdData.reads 0 [0x21, 0x00] with
  | true =>
    have hhead : s.pCmdData 0 = 0x21 ∧ s.pCmdData 1 = 0x00 := by
      simpa [Memory.reads] using hmap
    have hstores : s.commandWorkaroundStores = [⟨s.cmdLen, 3⟩, ⟨5, 2⟩, ⟨2, 2⟩] := by
      simp [commandWorkaroundStores, Memory.reads, hhead]
    have hothers : (⟨5, 2⟩ : Extent).FitsIn nciMaxDataLen ∧
        (⟨2, 2⟩ : Extent).FitsIn nciMaxDataLen := by decide
    rw [hstores, List.forall_mem_cons, List.forall_mem_cons, List.forall_mem_singleton,
      and_iff_left hothers, forall_prop_of_true rfl]
    rfl
  | false =>
    refine iff_of_true (fun e he => ?_) fun h => absurd h Bool.false_ne_true
    unfold commandWorkaroundStores at he
    extract_lets p at he
    rw [if_neg (c := p.reads 0 [0x21, 0x00] = true) (by simp [p, hmap])] at he
    split at he
    · simp at he
    split at he
    · simp at he
    split at he
    · simp only [List.mem_cons, List.not_mem_nil, or_false] at he
      rcases he with rfl | rfl
      · decide
      · decide
    split at he
    · simp at he
    split at he
    · obtain rfl := List.mem_singleton.1 he
      decide
    split at he
    · obtain rfl := List.mem_singleton.1 he
      decide
    · simp at he

/-- Both ways to add MIFARE to the discovery map store behind the packet. -/
theorem workaroundStores_fit (retval : ℕ) :
    (∀ e ∈ workaroundStores retval s, e.FitsIn nciMaxDataLen) ↔
      (s.pCmdData.reads 0 [0x21, 0x00] = true →
        (retval = 1 ∨ s.pCmdData.reads 3 [0x81, 0x01, 0x03] = false ∧ s.icodeDetected = 0) →
          s.cmdLen + 3 ≤ nciMaxDataLen) := by
  unfold workaroundStores
  extract_lets p
  by_cases hmifare : (decide (retval = 1) && p.reads 0 [0x21, 0x00]) = true
  · have hboth : retval = 1 ∧ s.pCmdData.reads 0 [0x21, 0x00] = true := by
      simpa [p] using hmifare
    have hfirst : (⟨2, 2⟩ : Extent).FitsIn nciMaxDataLen := by decide
    rw [if_pos hmifare, List.forall_mem_cons, List.forall_mem_singleton, and_iff_right hfirst,
      forall_prop_of_true hboth.2, forall_prop_of_true (.inl hboth.1)]
    rfl
  have hnot : retval = 1 → s.pCmdData.reads 0 [0x21, 0x00] = false := by
    intro hretval
    simpa [p, hretval] using hmifare
  rw [if_neg hmifare]
  by_cases hhost : s.pCmdData.reads 3 [0x81, 0x01, 0x03] = true
  · rw [if_pos hhost]
    refine iff_of_true (by decide) fun hmap hcase => ?_
    rcases hcase with hretval | ⟨hno, -⟩
    · rw [hnot hretval] at hmap
      cases hmap
    · rw [hhost] at hno
      cases hno
  rw [if_neg hhost]
  by_cases hicode : s.icodeDetected = 0
  · rw [if_neg (not_not.2 hicode), commandWorkaroundStores_fit]
    have hright : retval = 1 ∨ s.pCmdData.reads 3 [0x81, 0x01, 0x03] = false ∧ s.icodeDetected = 0 :=
      .inr ⟨Bool.eq_false_iff.2 hhost, hicode⟩
    rw [forall_prop_of_true hright]
  · rw [if_pos hicode]
    refine iff_of_true (fun e he => ?_) fun hmap hcase => ?_
    · unfold icodeCommandStores at he
      split at he
      · obtain rfl := List.mem_singleton.1 he
        decide
      · simp at he
    · rcases hcase with hretval | ⟨-, hno⟩
      · rw [hnot hretval] at hmap
        cases hmap
      · exact absurd hno hicode

/-- The swap stores behind the length of `LF_T3T_FLAGS`. -/
theorem swapT3tFlagsStores_fit : (∀ e ∈ s.swapT3tFlagsStores, e.FitsIn nciMaxDataLen) ↔
    (s.pCmdData.reads 0 [0x20, 0x02] = true → ∀ i, t3tScan s.pCmdData s.cmdLen 4 = some i →
      i + 4 ≤ nciMaxDataLen) := by
  rw [swapT3tFlagsStores]
  by_cases hconfig : s.pCmdData.reads 0 [0x20, 0x02] = true
  · rw [if_pos hconfig, forall_prop_of_true hconfig]
    cases t3tScan s.pCmdData s.cmdLen 4 with
    | some i =>
      simp only [List.forall_mem_singleton, Option.some.injEq, forall_eq']
      rfl
    | none => simp
  · simp [hconfig]

/-- The extents that may end behind the buffer: two that begin at the end of the packet, and the one of
the swap. -/
theorem extendedStores_fit (retval : ℕ) :
    (∀ e ∈ s.extendedStores retval, e.FitsIn nciMaxDataLen) ↔
      (s.dtaCtrlFlag = true → s.pCmdData.reads 0 [0x21, 0x03] = true →
        s.cmdLen + 6 ≤ nciMaxDataLen) ∧
      (s.front.2.pCmdData.reads 0 [0x21, 0x00] = true →
        (retval = 1 ∨ s.front.2.pCmdData.reads 3 [0x81, 0x01, 0x03] = false ∧
          s.front.2.icodeDetected = 0) → s.front.2.cmdLen + 3 ≤ nciMaxDataLen) ∧
      ((workaround retval s.front.1 s.front.2).2.pCmdData.reads 0 [0x20, 0x02] = true →
        ∀ i, t3tScan (workaround retval s.front.1 s.front.2).2.pCmdData
          (workaround retval s.front.1 s.front.2).2.cmdLen 4 = some i → i + 4 ≤ nciMaxDataLen) := by
  rw [extendedStores, List.forall_mem_append, List.forall_mem_append, List.forall_mem_append,
    dtaUpdateStores_fit, and_iff_right emvCoDiscoverStores_fit, workaroundStores_fit,
    swapT3tFlagsStores_fit]

/-! ## Lengths -/

theorem swapT3tFlags_cmdLen (r : NFCSTATUS × HalState) :
    (swapT3tFlags r).2.cmdLen = r.2.cmdLen := (adds_swapT3tFlags r).cmdLen

/-- The length before the workarounds: the EMVCo profile sets it, and the DTA mode adds to it. -/
theorem front_cmdLen_cases (s : HalState) :
    s.front.2.cmdLen = 8 ∨ s.front.2.cmdLen = s.cmdLen ∨
      (s.dtaCtrlFlag = true ∧ s.pCmdData.reads 0 [0x21, 0x03] = true ∧
        s.front.2.cmdLen = s.cmdLen + 6) := by
  have hupdate : s.phNxpNHalDtaUpdate.2.cmdLen = s.cmdLen ∨
      (s.dtaCtrlFlag = true ∧ s.pCmdData.reads 0 [0x21, 0x03] = true ∧
        s.phNxpNHalDtaUpdate.2.cmdLen = s.cmdLen + 6) := by
    cases hpoll : s.pCmdData.reads 0 [0x21, 0x03] with
    | false => exact .inl (sameFront_dtaUpdate hpoll).cmdLen
    | true =>
      unfold phNxpNHalDtaUpdate
      split
      · rename_i hflag
        rw [dtaCommand_of_poll hpoll]
        rcases dtaT1t_cases _ with heq | heq
        · rw [heq]
          exact .inr ⟨hflag, rfl, rfl⟩
        · rw [heq]
          exact .inr ⟨hflag, rfl, rfl⟩
      · exact .inl rfl
  rw [← (sameFront_selectMode s.phNxpNHalDtaUpdate).cmdLen] at hupdate
  unfold front emvCoDiscover
  split
  · split
    · exact .inr hupdate
    split
    · exact .inl rfl
    · exact .inr hupdate
  · exact .inr hupdate

/-- A bound that allows for what the workarounds append. -/
theorem workaround_cmdLen_le {k : ℕ} {retval : ℕ} {status : NFCSTATUS} (h7 : 7 ≤ k)
    (hlen : s.cmdLen ≤ k)
    (hmap : s.pCmdData.reads 0 [0x21, 0x00] = true →
      (retval = 1 ∨ s.pCmdData.reads 3 [0x81, 0x01, 0x03] = false ∧ s.icodeDetected = 0) →
        s.cmdLen + 3 ≤ k)
    (hclock : s.icodeDetected = 0 → s.pCmdData.reads 0 [0x20, 0x02, 0x09, 0x04] = true →
      s.cmdLen + 1 ≤ k) : (workaround retval status s).2.cmdLen ≤ k := by
  by_cases hmifare : retval = 1 → s.pCmdData.reads 0 [0x21, 0x00] = false
  · cases hhost : s.pCmdData.reads 3 [0x81, 0x01, 0x03] with
    | true =>
      rw [workaround_of_hostList hmifare hhost]
      exact h7
    | false =>
      by_cases hicode : s.icodeDetected = 0
      · rw [workaround_of_command hmifare hhost hicode]
        unfold commandWorkaround
        extract_lets p q
        split
        · obtain ⟨cmd, heq⟩ := discoveryCmdExt_eq { s with icodeDetected := 0, icodeSendEof := 0 }
          rw [heq]
          exact hlen
        split
        · exact hlen
        split
        · rename_i hcommand
          exact hclock hicode hcommand
        split
        · exact hlen
        split
        · exact hlen
        split
        · rename_i hcommand
          exact hmap hcommand (.inr ⟨hhost, hicode⟩)
        split
        · exact hlen
        · exact hlen
      · obtain ⟨b, eof, heq⟩ := s.icodeCommand_eq
        rw [workaround_of_icode hmifare hhost hicode, heq]
        exact hlen
  · push Not at hmifare
    obtain ⟨hretval, hnot⟩ := hmifare
    have hreads : s.pCmdData.reads 0 [0x21, 0x00] = true := by simpa using hnot
    rw [workaround_of_mifare hretval hreads]
    exact hmap hreads (.inl hretval)

/-! ## Headers -/

theorem front_header_of_poll (h2 : 2 ≤ s.cmdLen)
    (hpoll : s.pCmdData.reads 0 [0x21, 0x03] = true) :
    s.front.2.pCmdData.reads 0 [0x21, 0x03] = true := by
  obtain ⟨hfront, hhead, -⟩ := front_of_poll h2 hpoll
  rw [hfront]
  by_cases hprofile : s.phNxpNHalDtaUpdate.2.profileType = .emvCo
  · rw [emvCoDiscover_of_poll hprofile hhead]
    exact (Memory.reads_congr fun k hk => Memory.put_of_lt (by simp at hk; omega)).trans hhead
  · rw [emvCoDiscover, if_neg hprofile]
    exact hhead

/-- The stages before the workarounds keep the first two bytes. -/
theorem front_header (h2 : 2 ≤ s.cmdLen) {j : ℕ} (hj : j < 2) :
    s.front.2.pCmdData j = s.pCmdData j := by
  cases hpoll : s.pCmdData.reads 0 [0x21, 0x03] with
  | true =>
    have hhead := Memory.reads_eq_true.1 hpoll j hj
    have hfront := Memory.reads_eq_true.1 (front_header_of_poll h2 hpoll) j hj
    rw [Nat.zero_add] at hhead hfront
    exact hfront.trans hhead.symm
  | false => exact (sameFront_front hpoll).bytes j (by omega)

/-- So do the workarounds, but for the presence check. -/
theorem workaround_header {retval : ℕ} {status : NFCSTATUS} (h3 : 3 < s.cmdLen) {j : ℕ}
    (hj : j < 2) : (workaround retval status s).2.pCmdData j = s.pCmdData j := by
  apply workaround_changedIn retval status s j
  intro e he hcovers
  have hstart : 2 ≤ e.start := by
    unfold workaroundStores at he
    extract_lets p at he
    split at he
    · simp only [List.mem_cons, List.not_mem_nil, or_false] at he
      rcases he with rfl | rfl
      · exact le_rfl
      · exact (by decide : 2 ≤ 3).trans h3.le
    split at he
    · simp only [List.mem_cons, List.not_mem_nil, or_false] at he
      rcases he with rfl | rfl
      · exact le_rfl
      · exact (by decide : 2 ≤ 6)
    split at he
    · unfold icodeCommandStores at he
      split at he
      · obtain rfl := List.mem_singleton.1 he
        exact (by decide : 2 ≤ 3)
      · simp at he
    · unfold commandWorkaroundStores at he
      extract_lets at he
      have hcheck : ¬(decide (s.cmdLen = 3) && s.pCmdData.reads 0 [0x00, 0x00, 0x00]) = true := by
        simp [h3.ne']
      rw [if_neg hcheck] at he
      split at he
      · simp at he
      split at he
      · simp at he
      split at he
      · simp only [List.mem_cons, List.not_mem_nil, or_false] at he
        rcases he with rfl | rfl
        · exact le_rfl
        · exact (by decide : 2 ≤ 9)
      split at he
      · simp at he
      split at he
      · obtain rfl := List.mem_singleton.1 he
        exact (by decide : 2 ≤ 6)
      split at he
      · simp only [List.mem_cons, List.not_mem_nil, or_false] at he
        rcases he with rfl | rfl | rfl
        · exact (by decide : 2 ≤ 3).trans h3.le
        · exact (by decide : 2 ≤ 5)
        · exact le_rfl
      · simp at he
  exact absurd (hcovers.1.trans_lt hj) (Nat.not_lt.2 hstart)

end HalState

end AliceHal.Pn54x.Hal
