import AliceHal.Pn54x.Hal.Answering

/-!
# What Becomes of a `CORE_SET_CONFIG_CMD`

The parameters of a `CORE_SET_CONFIG_CMD` when the walk to `LF_T3T_FLAGS` begins. At most one of the
rules before it changes them.

- `HalState.dtaPatched`: after the DTA mode
- `HalState.configPatched`, `HalState.configLen`: after the workarounds
- `HalState.workaround_config`: the walk finds these parameters
-/

namespace AliceHal.Pn54x.Hal

open Lib

namespace HalState

/-! ## The rules that change parameters -/

/-- The parameters of the DTA mode for a listening device. -/
def dtaPatches (s : HalState) : Bool :=
  s.dtaCtrlFlag && (s.pCmdData.reads 0 [0x20, 0x02, 0x10, 0x05] && s.pCmdData 10 == 0x32 &&
    s.pCmdData 12 == 0x00)

/-- The bytes of the RID command, which other packets may have, too. -/
def ridPatches (s : HalState) : Bool :=
  s.dtaCtrlFlag && (s.dtaT1tFlag && s.pCmdData.reads 2 [0x07, 0x78, 0x00, 0x00])

/-- The parameters after the DTA mode. -/
def dtaPatched (s : HalState) : Memory :=
  if s.dtaPatches then (s.pCmdData.put 12 [0x40]).put 18 [0x02]
  else if s.ridPatches then s.pCmdData.put 6 [0x00, 0x00, 0x00, 0x00]
  else s.pCmdData

/-- A clock setting gets one more parameter byte. -/
def clockPatches (s : HalState) : Bool :=
  s.icodeDetected == 0 && s.pCmdData.reads 0 [0x20, 0x02, 0x09, 0x04]

/-- A single parameter `LA_SEL_INFO` of zero. -/
def selInfoPatches (s : HalState) : Bool :=
  s.icodeDetected == 0 && s.pCmdData.reads 0 [0x20, 0x02, 0x04, 0x01, 0x32, 0x00]

/-- The parameters when the walk begins. The length byte is counted up for a clock setting, and the
count may change for an ISO 15693 tag, but the walk does not look at them. -/
def configPatched (s : HalState) : Memory :=
  if s.clockPatches then s.pCmdData.put 9 [0x01, 0x40, 0x50, 0x00]
  else if s.selInfoPatches then s.pCmdData.put 6 [0x60]
  else s.dtaPatched

/-- The length of the packet when the walk begins. -/
def configLen (s : HalState) : ℕ := if s.clockPatches then s.cmdLen + 1 else s.cmdLen

variable {s u : HalState} {retval : ℕ} {status : NFCSTATUS}

/-! ## After the DTA mode -/

theorem dtaPatched_of_off (h : s.dtaCtrlFlag = false) : s.dtaPatched = s.pCmdData := by
  simp [dtaPatched, dtaPatches, ridPatches, h]

/-- The bytes at which the rules look first are not changed. -/
theorem dtaPatched_apply {j : ℕ} (hj : j < 6) : s.dtaPatched j = s.pCmdData j := by
  unfold dtaPatched
  split
  · rw [Memory.put_of_lt (by omega), Memory.put_of_lt (by omega)]
  split
  · exact Memory.put_of_lt hj
  · rfl

/-- The DTA mode stores only into the packets that it knows. -/
theorem dtaCommand_config (hconfig : s.pCmdData.reads 0 [0x20, 0x02] = true)
    (hflag : s.dtaCtrlFlag = true) :
    s.dtaCommand.2.dtaT1tFlag = s.dtaT1tFlag ∧ s.dtaCommand.2.pCmdData =
      if s.dtaPatches then (s.pCmdData.put 12 [0x40]).put 18 [0x02] else s.pCmdData := by
  have hhead : s.pCmdData 0 = 0x20 := by
    simp only [Memory.reads, Bool.and_eq_true, beq_iff_eq] at hconfig
    exact hconfig.1
  have hpoll : s.pCmdData.reads 0 [0x21, 0x03] = false := by simp [Memory.reads, hhead]
  by_cases hpatch : s.dtaPatches = true
  · have hbytes : s.pCmdData 2 = 0x10 := by
      simp only [dtaPatches, Memory.reads, Bool.and_eq_true, beq_iff_eq] at hpatch
      exact hpatch.2.1.1.2.2.1
    have hpatch' := hpatch
    rw [dtaPatches, hflag, Bool.true_and] at hpatch'
    rw [if_pos hpatch, dtaCommand, if_neg (by simp [Memory.reads, hbytes]),
      if_neg (by simp [Memory.reads, hhead]), if_pos hpatch']
    exact ⟨rfl, rfl⟩
  · rw [if_neg hpatch]
    rw [dtaPatches, hflag, Bool.true_and] at hpatch
    unfold dtaCommand
    extract_lets p
    -- every other rule prepares a response or does nothing
    split
    · exact ⟨rfl, rfl⟩
    split
    · exact ⟨rfl, rfl⟩
    split
    · exact ⟨rfl, rfl⟩
    rw [if_neg (by simp [p, hpoll])]
    split
    · exact ⟨rfl, rfl⟩
    split
    · exact ⟨rfl, rfl⟩
    split
    · exact ⟨rfl, rfl⟩
    · exact ⟨rfl, rfl⟩

theorem dtaUpdate_config (hconfig : s.pCmdData.reads 0 [0x20, 0x02] = true) :
    s.phNxpNHalDtaUpdate.2.pCmdData = s.dtaPatched := by
  unfold phNxpNHalDtaUpdate
  by_cases hflag : s.dtaCtrlFlag = true
  · rw [if_pos hflag]
    obtain ⟨hrid, hmemory⟩ := dtaCommand_config hconfig hflag
    by_cases hpatch : s.dtaPatches = true
    · have hbytes : s.pCmdData 2 = 0x10 := by
        simp only [dtaPatches, Memory.reads, Bool.and_eq_true, beq_iff_eq] at hpatch
        exact hpatch.2.1.1.2.2.1
      have htwo : s.dtaCommand.2.pCmdData 2 = 0x10 := by
        rw [hmemory, if_pos hpatch, Memory.put_of_lt (by decide), Memory.put_of_lt (by decide), hbytes]
      rw [dtaPatched, if_pos hpatch, dtaT1t, if_neg (by simp [Memory.reads, htwo]), hmemory,
        if_pos hpatch]
    · -- the RID command is looked for in the packet as it came
      rw [if_neg hpatch] at hmemory
      rw [dtaPatched, if_neg hpatch, ridPatches, hflag, Bool.true_and, dtaT1t, hrid, hmemory]
      split
      · rfl
      · exact hmemory
  · rw [if_neg hflag, dtaPatched_of_off (Bool.eq_false_iff.2 hflag)]

/-- Selecting a mode and the EMVCo profile leave the packet as it is. -/
theorem front_config (hconfig : s.pCmdData.reads 0 [0x20, 0x02] = true) :
    s.front.2.pCmdData = s.dtaPatched := by
  have hhead : s.pCmdData 0 = 0x20 := by
    simp only [Memory.reads, Bool.and_eq_true, beq_iff_eq] at hconfig
    exact hconfig.1
  have hselect : (selectMode s.phNxpNHalDtaUpdate).2.pCmdData = s.phNxpNHalDtaUpdate.2.pCmdData := by
    unfold selectMode
    extract_lets t
    split
    · rfl
    split
    · rfl
    split
    · rfl
    · rfl
  have hfirst : (selectMode s.phNxpNHalDtaUpdate).2.pCmdData 0 = 0x20 := by
    rw [hselect, dtaUpdate_config hconfig, dtaPatched_apply (by decide), hhead]
  rw [front, emvCoDiscover_of_other (by simp [Memory.reads, hfirst]), hselect,
    dtaUpdate_config hconfig]

/-! ## After the workarounds -/

/-- Parameters that no workaround changes. -/
theorem configPatched_of_other (hclock : s.clockPatches = false) (hsel : s.selInfoPatches = false) :
    s.configPatched = s.dtaPatched ∧ s.configLen = s.cmdLen := by
  simp [configPatched, configLen, hclock, hsel]

/-- Where a workaround applies, the DTA mode has changed nothing. -/
theorem dtaPatched_of_length (h10 : s.pCmdData 2 ≠ 0x10) (h7 : s.pCmdData 2 ≠ 0x07) :
    s.dtaPatched = s.pCmdData := by
  have hpatch : s.dtaPatches = false := by simp [dtaPatches, Memory.reads, h10]
  have hrid : s.ridPatches = false := by simp [ridPatches, Memory.reads, h7]
  simp [dtaPatched, hpatch, hrid]

/-- A clock setting is the first of the commands that a workaround looks for. -/
theorem commandWorkaround_clock (h : u.pCmdData.reads 0 [0x20, 0x02, 0x09, 0x04] = true) :
    u.commandWorkaround status =
      (status,
        { u with
          pCmdData := (u.pCmdData.put 2 [u.pCmdData 2 + 0x01]).put 9 [0x01, 0x40, 0x50, 0x00]
          cmdLen := u.cmdLen + 1 }) := by
  have hhead : u.pCmdData 0 = 0x20 := by
    simp only [Memory.reads, Bool.and_eq_true, beq_iff_eq] at h
    exact h.1
  rw [commandWorkaround, if_neg (by simp [Memory.reads, hhead]),
    if_neg (by simp [Memory.reads, hhead]), if_pos h]

theorem commandWorkaround_selInfo
    (h : u.pCmdData.reads 0 [0x20, 0x02, 0x04, 0x01, 0x32, 0x00] = true) :
    u.commandWorkaround status = (status, { u with pCmdData := u.pCmdData.put 6 [0x60] }) := by
  have hbytes : u.pCmdData 0 = 0x20 ∧ u.pCmdData 2 = 0x04 := by
    simp only [Memory.reads, Bool.and_eq_true, beq_iff_eq] at h
    exact ⟨h.1, h.2.2.1⟩
  obtain ⟨hhead, hlength⟩ := hbytes
  rw [commandWorkaround, if_neg (by simp [Memory.reads, hhead]),
    if_neg (by simp [Memory.reads, hhead]), if_neg (by simp [Memory.reads, hlength]),
    if_neg (by simp [Memory.reads, hlength]), if_pos h]

/-- Any other `CORE_SET_CONFIG_CMD` keeps its bytes: it is answered, or sent as it is. -/
theorem commandWorkaround_config (hhead : u.pCmdData 0 = 0x20)
    (hclock : u.pCmdData.reads 0 [0x20, 0x02, 0x09, 0x04] = false)
    (hsel : u.pCmdData.reads 0 [0x20, 0x02, 0x04, 0x01, 0x32, 0x00] = false) :
    (u.commandWorkaround status).2.pCmdData = u.pCmdData ∧
      (u.commandWorkaround status).2.cmdLen = u.cmdLen := by
  unfold commandWorkaround
  extract_lets p
  -- the rules for other commands are passed over
  rw [if_neg (by simp [p, Memory.reads, hhead]), if_neg (by simp [p, Memory.reads, hhead]),
    if_neg (by simp [p, hclock])]
  split
  · exact ⟨rfl, rfl⟩
  · rw [if_neg (by simp [p, hsel]), if_neg (by simp [p, Memory.reads, hhead]),
      if_neg (by simp [p, Memory.reads, hhead])]
    exact ⟨rfl, rfl⟩

/-- The walk begins with the parameters as they are patched. -/
theorem workaround_config (hconfig : s.pCmdData.reads 0 [0x20, 0x02] = true)
    (hhost : s.pCmdData.reads 3 [0x81, 0x01, 0x03] = false) :
    (∀ j, 4 ≤ j → (workaround retval s.front.1 s.front.2).2.pCmdData j = s.configPatched j) ∧
      (workaround retval s.front.1 s.front.2).2.cmdLen = s.configLen ∧
      (workaround retval s.front.1 s.front.2).2.pCmdData.reads 0 [0x20, 0x02] = true := by
  have hhead : s.pCmdData 0 = 0x20 ∧ s.pCmdData 1 = 0x02 := by
    simpa [Memory.reads] using hconfig
  have hpoll : s.pCmdData.reads 0 [0x21, 0x03] = false := by simp [Memory.reads, hhead.1]
  have hsame := sameFront_front hpoll
  have hmemory := front_config hconfig
  have hfirst : s.front.2.pCmdData 0 = 0x20 := (hsame.bytes 0 (by decide)).trans hhead.1
  have hmap : retval = 1 → s.front.2.pCmdData.reads 0 [0x21, 0x00] = false := by
    intro _
    simp [Memory.reads, hfirst]
  have hhost' := (hsame.reads (by decide)).trans hhost
  -- stores behind the header keep it
  have hheader : ∀ {m : Memory}, (∀ j < 2, m j = s.front.2.pCmdData j) →
      m.reads 0 [0x20, 0x02] = true := by
    intro m hm
    have hreads : m.reads 0 [0x20, 0x02] = s.front.2.pCmdData.reads 0 [0x20, 0x02] := by
      apply Memory.reads_congr
      intro k hk
      exact hm (0 + k) (by simpa using hk)
    exact hreads.trans ((hsame.reads (by decide)).trans hconfig)
  by_cases hicode : s.icodeDetected = 0
  · rw [workaround_of_command hmap hhost' (hsame.icodeDetected.trans hicode)]
    cases hclock : s.pCmdData.reads 0 [0x20, 0x02, 0x09, 0x04] with
    | true =>
      have hpatches : s.clockPatches = true := by simp [clockPatches, hicode, hclock]
      have hlength : s.pCmdData 2 = 0x09 := by
        simp only [Memory.reads, Bool.and_eq_true, beq_iff_eq] at hclock
        exact hclock.2.2.1
      rw [dtaPatched_of_length (by simp [hlength]) (by simp [hlength])] at hmemory
      rw [commandWorkaround_clock ((hsame.reads (by decide)).trans hclock), configPatched,
        if_pos hpatches, configLen, if_pos hpatches, ← hmemory]
      refine ⟨fun j hj => ?_, congrArg (· + 1) hsame.cmdLen, hheader fun j hj => ?_⟩
      · -- the length byte is before the parameters
        change ((s.front.2.pCmdData.put 2 [s.front.2.pCmdData 2 + 0x01]).put 9 _) j = _
        refine Memory.put_apply_congr ?_ _
        apply Memory.put_of_le
        exact (by decide : 3 ≤ 4).trans hj
      · change ((s.front.2.pCmdData.put 2 [s.front.2.pCmdData 2 + 0x01]).put 9 _) j = _
        rw [Memory.put_of_lt (by omega), Memory.put_of_lt hj]
    | false =>
      have hnone : s.clockPatches = false := by simp [clockPatches, hclock]
      cases hsel : s.pCmdData.reads 0 [0x20, 0x02, 0x04, 0x01, 0x32, 0x00] with
      | true =>
        have hpatches : s.selInfoPatches = true := by simp [selInfoPatches, hicode, hsel]
        have hlength : s.pCmdData 2 = 0x04 := by
          simp only [Memory.reads, Bool.and_eq_true, beq_iff_eq] at hsel
          exact hsel.2.2.1
        rw [dtaPatched_of_length (by simp [hlength]) (by simp [hlength])] at hmemory
        rw [commandWorkaround_selInfo ((hsame.reads (by decide)).trans hsel), configPatched,
          if_neg (by simp [hnone]), if_pos hpatches, configLen, if_neg (by simp [hnone]), ← hmemory]
        exact ⟨fun j _ => rfl, hsame.cmdLen, hheader fun j hj => Memory.put_of_lt (by omega)⟩
      | false =>
        obtain ⟨hpatched, hlen⟩ := configPatched_of_other hnone (by simp [selInfoPatches, hsel])
        obtain ⟨hkept, hcmdLen⟩ := commandWorkaround_config hfirst
          ((hsame.reads (by decide)).trans hclock) ((hsame.reads (by decide)).trans hsel)
        rw [hpatched, hlen, hkept, hcmdLen, hmemory]
        exact ⟨fun j _ => rfl, hsame.cmdLen, hheader fun j _ => congrFun hmemory.symm j⟩
  · -- only the count of the parameters may change
    obtain ⟨hpatched, hlen⟩ := configPatched_of_other (s := s) (by simp [clockPatches, hicode])
      (by simp [selInfoPatches, hicode])
    obtain ⟨b, eof, heq⟩ := s.front.2.icodeCommand_eq
    have hicode' : s.front.2.icodeDetected ≠ 0 := by
      rw [hsame.icodeDetected]
      exact hicode
    rw [workaround_of_icode hmap hhost' hicode', heq, hpatched, hlen, ← hmemory]
    exact ⟨fun j hj => Memory.put_of_le hj, hsame.cmdLen,
      hheader fun j hj => Memory.put_of_lt (by omega)⟩

end HalState

end AliceHal.Pn54x.Hal
