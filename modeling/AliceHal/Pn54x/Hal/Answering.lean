import AliceHal.Pn54x.Hal.WellFormed

/-!
# Commands Answered by the HAL

Whether a command that gets an emulated response is kept from the NFCC. The rules share one status
variable, and a later rule may set it back to success after an earlier one has prepared a response.

- `HalState.Composes`: a rule has written a response
- `HalState.configBlocked`: the `CORE_SET_CONFIG_CMD` packets that are answered
- `HalState.AnswerKept`: no later rule sends the packet nevertheless
- `answered_not_sent_iff`: exactly when an answered command is not sent, and every other one is
-/

namespace AliceHal.Pn54x.Hal

namespace HalState

/-- A rule writes a response: a length of zero does not stay. -/
def Composes (retval : ℕ) (s : HalState) : Prop :=
  (({ s with rspLen := 0 } : HalState).phNxpNciHalWriteExt retval).2.rspLen ≠ 0

/-- The `CORE_SET_CONFIG_CMD` packets that the DTA mode answers. -/
def dtaBlocksConfig (s : HalState) : Bool :=
  let p := s.pCmdData
  p.reads 0 [0x20, 0x02, 0x17, 0x01, 0x29, 0x14] ||
    p.reads 0 [0x20, 0x02, 0x0D, 0x04] &&
      (p 10 == 0x32 && p 12 == 0x00 ||
        p 10 == 0x32 && p 12 == 0x20 && s.dtaPatternNo == 0x1000 ||
        p.reads 4 [0x32, 0x01, 0x00]) ||
    p.reads 0 [0x20, 0x02, 0x04, 0x01, 0x50, 0x01, 0x00] && s.dtaPatternNo == 0x1000

/-- The `CORE_SET_CONFIG_CMD` packets that are answered: by the DTA mode, or by a workaround. -/
def configBlocked (s : HalState) : Bool :=
  s.dtaCtrlFlag && s.dtaBlocksConfig ||
    s.icodeDetected == 0 &&
      (s.pCmdData.reads 0 [0x20, 0x02, 0x07, 0x03] ||
        s.pCmdData.reads 0 [0x20, 0x02, 0x03, 0x01, 0x32])

variable {retval : ℕ} {s : HalState} {r : NFCSTATUS × HalState}

/-- What the DTA mode answers. -/
theorem dtaCommand_of_blocked (h : s.dtaBlocksConfig = true) :
    s.dtaCommand = s.respond setConfigRsp := by
  simp only [dtaBlocksConfig, Bool.or_eq_true, Bool.and_eq_true] at h
  unfold dtaCommand
  rcases h with (h | ⟨hhead, (⟨h10, h12⟩ | ⟨⟨h10, h12⟩, hpattern⟩) | hparam⟩) | ⟨h, hpattern⟩
  · rw [if_pos h]
  all_goals
    simp only [Lib.Memory.reads, Bool.and_true, Bool.and_eq_true, beq_iff_eq] at *
    simp_all

/-! ## Answered commands -/

/-- The last stages of a packet that only an ISO 15693 tag could change any further. -/
theorem workaround_of_failed (retval : ℕ) {u : HalState} (hmap : u.pCmdData.reads 0 [0x21, 0x00] = false)
    (hhost : u.pCmdData.reads 3 [0x81, 0x01, 0x03] = false)
    (hcommand : ∀ status, u.commandWorkaround status = (status, u)) (status : NFCSTATUS) :
    (workaround retval status u).1 = status ∧ (workaround retval status u).2.rspLen = u.rspLen ∧
      (workaround retval status u).2.cmdLen = u.cmdLen ∧
      ∀ i, i ≠ 3 → (workaround retval status u).2.pCmdData i = u.pCmdData i := by
  by_cases hicode : u.icodeDetected = 0
  · rw [workaround_of_command (fun _ => hmap) hhost hicode, hcommand]
    exact ⟨rfl, rfl, rfl, fun _ _ => rfl⟩
  · rw [workaround_of_icode (fun _ => hmap) hhost hicode]
    obtain ⟨b, eof, heq⟩ := u.icodeCommand_eq
    rw [heq]
    refine ⟨rfl, rfl, rfl, fun i hi => ?_⟩
    rcases Nat.lt_or_gt_of_ne hi with hlt | hgt
    · exact Lib.Memory.put_of_lt hlt
    · exact Lib.Memory.put_of_le hgt

/-- The stages after `phNxpNciHal_NfcDep_cmd_ext`. -/
def extended (retval : ℕ) (s : HalState) : NFCSTATUS × HalState :=
  swapT3tFlags (workaround retval s.front.1 s.front.2)

/-- The proprietary command is kept, unless it has the bytes of the host list. -/
theorem extended_felica (retval : ℕ) (hmode : s.pCmdData.reads 0 [0xFE, 0xFE, 0xFE] = true) :
    (s.extended retval).2.rspLen = 4 ∧
      (s.pCmdData.reads 3 [0x81, 0x01, 0x03] = false →
        (s.extended retval).1 = NFCSTATUS.failed) ∧
      (s.pCmdData.reads 3 [0x81, 0x01, 0x03] = true →
        (s.extended retval).1 = NFCSTATUS.success) := by
  have hhead : s.pCmdData 0 = 0xFE := by
    simp only [Lib.Memory.reads, Bool.and_eq_true, beq_iff_eq] at hmode
    exact hmode.1
  have hsame : SameFront s s.front.2 := sameFront_front (by simp [Lib.Memory.reads, hhead])
  obtain ⟨hfailed, hlen, -⟩ := front_felica hmode
  have hfront : s.front.2.pCmdData 0 = 0xFE := (hsame.bytes 0 (by decide)).trans hhead
  have hmap : s.front.2.pCmdData.reads 0 [0x21, 0x00] = false := by
    simp [Lib.Memory.reads, hfront]
  have hread : s.front.2.pCmdData.reads 3 [0x81, 0x01, 0x03] =
      s.pCmdData.reads 3 [0x81, 0x01, 0x03] := hsame.reads (by decide)
  cases hhost : s.pCmdData.reads 3 [0x81, 0x01, 0x03] with
  | true =>
    have hw : workaround retval s.front.1 s.front.2 = _ :=
      workaround_of_hostList (fun _ => hmap) (hread.trans hhost)
    have hput : ((s.front.2.pCmdData.put 2 [0x04]).put 6 [0xC0]) 0 = s.front.2.pCmdData 0 := rfl
    rw [extended, hw, swapT3tFlags_of_other (by simp [Lib.Memory.reads, hput, hfront])]
    exact ⟨hlen, fun h => Bool.noConfusion h, fun _ => rfl⟩
  | false =>
    obtain ⟨hstatus, hrsp, -, hbytes⟩ := workaround_of_failed retval hmap
      (hread.trans hhost) (commandWorkaround_of_felica hfront) s.front.1
    have h0 := (hbytes 0 (by decide)).trans hfront
    rw [extended, swapT3tFlags_of_other (by simp [Lib.Memory.reads, h0])]
    exact ⟨hrsp.trans hlen, fun _ => hstatus.trans hfailed, fun h => Bool.noConfusion h⟩

/-- What the swap makes of an answered `CORE_SET_CONFIG_CMD`. -/
theorem swapT3tFlags_of_failed {w : NFCSTATUS × HalState} (hstatus : w.1 = NFCSTATUS.failed)
    (hconfig : w.2.pCmdData.reads 0 [0x20, 0x02] = true) :
    (swapT3tFlags w).2.rspLen = w.2.rspLen ∧
      (t3tScan w.2.pCmdData w.2.cmdLen 4 = none → (swapT3tFlags w).1 = NFCSTATUS.failed) ∧
      (t3tScan w.2.pCmdData w.2.cmdLen 4 ≠ none → (swapT3tFlags w).1 = NFCSTATUS.success) := by
  unfold swapT3tFlags
  rw [if_pos hconfig]
  cases t3tScan w.2.pCmdData w.2.cmdLen 4 with
  | none => exact ⟨rfl, fun _ => hstatus, fun h => absurd rfl h⟩
  | some i => exact ⟨rfl, fun h => (nomatch h), fun _ => rfl⟩

/-- The first bytes of a `CORE_SET_CONFIG_CMD` that the DTA mode answers. -/
theorem dtaBlocksConfig_bytes (h : s.dtaBlocksConfig = true) :
    s.pCmdData 0 = 0x20 ∧ s.pCmdData 1 = 0x02 ∧
      ((s.pCmdData 2 = 0x17 ∧ s.pCmdData 3 = 0x01) ∨ (s.pCmdData 2 = 0x0D ∧ s.pCmdData 3 = 0x04) ∨
        (s.pCmdData 2 = 0x04 ∧ s.pCmdData 3 = 0x01 ∧ s.pCmdData 4 = 0x50)) := by
  simp only [dtaBlocksConfig, Bool.or_eq_true, Bool.and_eq_true] at h
  rcases h with (h | ⟨h, -⟩) | ⟨h, -⟩ <;>
    simp only [Lib.Memory.reads, Bool.and_true, Bool.and_eq_true, beq_iff_eq] at h
  · exact ⟨h.1, h.2.1, Or.inl ⟨h.2.2.1, h.2.2.2.1⟩⟩
  · exact ⟨h.1, h.2.1, Or.inr (Or.inl h.2.2)⟩
  · exact ⟨h.1, h.2.1, Or.inr (Or.inr ⟨h.2.2.1, h.2.2.2.1, h.2.2.2.2.1⟩)⟩

theorem front_of_dtaBlocks (hflag : s.dtaCtrlFlag = true) (h : s.dtaBlocksConfig = true) :
    s.front = s.respond setConfigRsp := by
  obtain ⟨h0, h1, h2⟩ := dtaBlocksConfig_bytes h
  have hT1t : s.pCmdData 2 ≠ 0x07 ∧ s.pCmdData 2 ≠ 0x05 := by
    rcases h2 with ⟨h2, -⟩ | ⟨h2, -⟩ | ⟨h2, -⟩ <;> rw [h2] <;> decide
  have hupdate : s.phNxpNHalDtaUpdate = s.respond setConfigRsp := by
    rw [phNxpNHalDtaUpdate, if_pos hflag, dtaCommand_of_blocked h]
    refine if_neg ?_
    simp [respond, Lib.Memory.reads, hT1t.1]
  have hselect : selectMode (s.respond setConfigRsp) = s.respond setConfigRsp := by
    simp [selectMode, respond, Lib.Memory.reads, h0, hT1t.2]
  have hemv : (s.respond setConfigRsp).2.emvCoDiscover = (s.respond setConfigRsp).2 :=
    emvCoDiscover_of_other (by simp [respond, Lib.Memory.reads, h0])
  rw [front, hupdate, hselect, hemv]

theorem extended_dtaBlocks (hflag : s.dtaCtrlFlag = true) (h : s.dtaBlocksConfig = true) :
    (s.extended retval).2.rspLen = 5 ∧
      (t3tScan s.pCmdData s.cmdLen 4 = none → (s.extended retval).1 = NFCSTATUS.failed) ∧
      (t3tScan s.pCmdData s.cmdLen 4 ≠ none → (s.extended retval).1 = NFCSTATUS.success) := by
  obtain ⟨h0, h1, h2⟩ := dtaBlocksConfig_bytes h
  have hfront := front_of_dtaBlocks hflag h
  have hu : (s.respond setConfigRsp).2.pCmdData = s.pCmdData := rfl
  have hhost : s.pCmdData.reads 3 [0x81, 0x01, 0x03] = false := by
    rcases h2 with ⟨-, h3⟩ | ⟨-, h3⟩ | ⟨-, h3, -⟩ <;> simp [Lib.Memory.reads, h3]
  have hcommand : ∀ status, (s.respond setConfigRsp).2.commandWorkaround status =
      (status, (s.respond setConfigRsp).2) := by
    intro status
    rcases h2 with ⟨h2, h3⟩ | ⟨h2, h3⟩ | ⟨h2, h3, h4⟩
    · simp [commandWorkaround, hu, Lib.Memory.reads, h0, h2]
    · simp [commandWorkaround, hu, Lib.Memory.reads, h0, h2]
    · simp [commandWorkaround, hu, Lib.Memory.reads, h0, h2, h4]
  obtain ⟨hstatus, hrsp, hlen, hbytes⟩ := workaround_of_failed retval
    (u := (s.respond setConfigRsp).2) (by simp [hu, Lib.Memory.reads, h0]) (hu ▸ hhost) hcommand
    NFCSTATUS.failed
  rw [hu] at hbytes
  have hread : (workaround retval NFCSTATUS.failed (s.respond setConfigRsp).2).2.pCmdData.reads 0
      [0x20, 0x02] = true := by
    simp [Lib.Memory.reads, hbytes, h0, h1]
  have hscan : t3tScan (workaround retval NFCSTATUS.failed (s.respond setConfigRsp).2).2.pCmdData
      (workaround retval NFCSTATUS.failed (s.respond setConfigRsp).2).2.cmdLen 4 =
      t3tScan s.pCmdData s.cmdLen 4 := by
    rw [hlen]
    exact t3tScan_congr fun j hj _ => hbytes j (by omega)
  obtain ⟨hrsp', hnone, hsome⟩ := swapT3tFlags_of_failed hstatus hread
  rw [hscan] at hnone hsome
  rw [extended, hfront]
  exact ⟨hrsp'.trans hrsp, hnone, hsome⟩

/-- A `CORE_SET_CONFIG_CMD` that a workaround answers. -/
theorem extended_setConfig (hicode : s.icodeDetected = 0)
    (h : s.pCmdData.reads 0 [0x20, 0x02, 0x07, 0x03] = true ∨
      s.pCmdData.reads 0 [0x20, 0x02, 0x03, 0x01, 0x32] = true) :
    (s.extended retval).2.rspLen = 5 ∧
      (t3tScan s.pCmdData s.cmdLen 4 = none → (s.extended retval).1 = NFCSTATUS.failed) ∧
      (t3tScan s.pCmdData s.cmdLen 4 ≠ none → (s.extended retval).1 = NFCSTATUS.success) := by
  have hbytes : s.pCmdData 0 = 0x20 ∧ s.pCmdData 1 = 0x02 ∧
      ((s.pCmdData 2 = 0x07 ∧ s.pCmdData 3 = 0x03) ∨
        (s.pCmdData 2 = 0x03 ∧ s.pCmdData 3 = 0x01 ∧ s.pCmdData 4 = 0x32)) := by
    rcases h with h | h <;>
      simp only [Lib.Memory.reads, Bool.and_true, Bool.and_eq_true, beq_iff_eq] at h
    · exact ⟨h.1, h.2.1, Or.inl h.2.2⟩
    · exact ⟨h.1, h.2.1, Or.inr h.2.2⟩
  obtain ⟨h0, h1, h2⟩ := hbytes
  -- neither the DTA mode nor a profile knows the command
  have hupdate : s.phNxpNHalDtaUpdate = (NFCSTATUS.success, s) := by
    rcases h2 with ⟨h2, h3⟩ | ⟨h2, h3, -⟩ <;>
      simp [phNxpNHalDtaUpdate, dtaCommand, dtaT1t, Lib.Memory.reads, h0, h2, h3]
  have hselect : selectMode (NFCSTATUS.success, s) = (NFCSTATUS.success, s) := by
    rcases h2 with ⟨h2, -⟩ | ⟨h2, -⟩ <;> simp [selectMode, Lib.Memory.reads, h0, h2]
  have hfront : s.front = (NFCSTATUS.success, s) := by
    rw [front, hupdate, hselect, emvCoDiscover_of_other (by simp [Lib.Memory.reads, h0])]
  have hw : workaround retval NFCSTATUS.success s = s.respond setConfigRsp := by
    have hhost : s.pCmdData.reads 3 [0x81, 0x01, 0x03] = false := by
      rcases h2 with ⟨-, h3⟩ | ⟨-, h3, -⟩ <;> simp [Lib.Memory.reads, h3]
    rw [workaround_of_command (fun _ => by simp [Lib.Memory.reads, h0]) hhost hicode]
    rcases h2 with ⟨h2, h3⟩ | ⟨h2, h3, h4⟩
    · simp [commandWorkaround, Lib.Memory.reads, h0, h1, h2, h3]
    · simp [commandWorkaround, Lib.Memory.reads, h0, h1, h2, h3, h4]
  rw [extended, hfront, hw]
  exact swapT3tFlags_of_failed rfl (by simp [respond, Lib.Memory.reads, h0, h1])

/-- The commands outside `CORE_SET_CONFIG_CMD` that are answered. -/
def commandBlocked (s : HalState) : Bool :=
  s.dtaCtrlFlag && s.pCmdData.reads 0 [0x21, 0x08, 0x04, 0xFF, 0xFF] ||
    s.icodeDetected == 0 && s.pCmdData.reads 0 [0x22, 0x00, 0x01, 0x00]

/-- In the DTA mode, a system code of `0xFFFF`. -/
theorem extended_dtaFelica (retval : ℕ) (hflag : s.dtaCtrlFlag = true)
    (h : s.pCmdData.reads 0 [0x21, 0x08, 0x04, 0xFF, 0xFF] = true) :
    (s.extended retval).2.rspLen = 4 ∧ (s.extended retval).1 = NFCSTATUS.failed := by
  have hbytes : s.pCmdData 0 = 0x21 ∧ s.pCmdData 1 = 0x08 ∧ s.pCmdData 2 = 0x04 ∧
      s.pCmdData 3 = 0xFF ∧ s.pCmdData 4 = 0xFF := by
    simpa [Lib.Memory.reads] using h
  obtain ⟨h0, h1, h2, h3, h4⟩ := hbytes
  have hupdate : s.phNxpNHalDtaUpdate = s.respond [0x41, 0x08, 0x01, 0x00] := by
    have hcommand : s.dtaCommand = s.respond [0x41, 0x08, 0x01, 0x00] := by
      simp [dtaCommand, Lib.Memory.reads, h0, h1, h2, h3, h4]
    rw [phNxpNHalDtaUpdate, if_pos hflag, hcommand]
    exact if_neg (by simp [respond, Lib.Memory.reads, h2])
  have hselect : selectMode (s.respond [0x41, 0x08, 0x01, 0x00]) =
      s.respond [0x41, 0x08, 0x01, 0x00] := by
    simp [selectMode, respond, Lib.Memory.reads, h0]
  have hemv : (s.respond [0x41, 0x08, 0x01, 0x00]).2.emvCoDiscover =
      (s.respond [0x41, 0x08, 0x01, 0x00]).2 :=
    emvCoDiscover_of_other (by simp [respond, Lib.Memory.reads, h1])
  have hu : (s.respond [0x41, 0x08, 0x01, 0x00]).2.pCmdData = s.pCmdData := rfl
  obtain ⟨hstatus, hrsp, -, hkeep⟩ := workaround_of_failed retval
    (u := (s.respond [0x41, 0x08, 0x01, 0x00]).2) (by simp [hu, Lib.Memory.reads, h1])
    (by simp [hu, Lib.Memory.reads, h3])
    (fun status => by simp [commandWorkaround, hu, Lib.Memory.reads, h0, h1]) NFCSTATUS.failed
  have hkeep0 := (hkeep 0 (by decide)).trans h0
  have hother : (workaround retval NFCSTATUS.failed
      (s.respond [0x41, 0x08, 0x01, 0x00]).2).2.pCmdData.reads 0 [0x20, 0x02] = false := by
    simp [Lib.Memory.reads, hkeep0]
  have hswap : s.extended retval =
      workaround retval NFCSTATUS.failed (s.respond [0x41, 0x08, 0x01, 0x00]).2 := by
    rw [extended, front, hupdate, hselect, hemv]
    exact swapT3tFlags_of_other hother
  rw [hswap]
  exact ⟨hrsp, hstatus⟩

/-- `NFCEE_DISCOVER_CMD` to disable the discovery. -/
theorem extended_nfceeDiscover (retval : ℕ) (hicode : s.icodeDetected = 0)
    (h : s.pCmdData.reads 0 [0x22, 0x00, 0x01, 0x00] = true) :
    (s.extended retval).2.rspLen = 5 ∧ (s.extended retval).1 = NFCSTATUS.failed := by
  have hbytes : s.pCmdData 0 = 0x22 ∧ s.pCmdData 1 = 0x00 ∧ s.pCmdData 2 = 0x01 ∧
      s.pCmdData 3 = 0x00 := by
    simpa [Lib.Memory.reads] using h
  obtain ⟨h0, h1, h2, h3⟩ := hbytes
  have hsame : SameFront s s.front.2 := sameFront_front (by simp [Lib.Memory.reads, h0])
  have hread : s.front.2.pCmdData.reads 0 [0x22, 0x00, 0x01, 0x00] = true :=
    (hsame.reads (by decide)).trans h
  have hfront0 : s.front.2.pCmdData 0 = 0x22 := (hsame.bytes 0 (by decide)).trans h0
  have hfront3 : s.front.2.pCmdData 3 = 0x00 := (hsame.bytes 3 (by decide)).trans h3
  have hw : workaround retval s.front.1 s.front.2 =
      s.front.2.respond [0x42, 0x00, 0x02, 0x00, 0x00] := by
    rw [workaround_of_command (fun _ => by simp [Lib.Memory.reads, hfront0])
      (by simp [Lib.Memory.reads, hfront3]) (hsame.icodeDetected.trans hicode), commandWorkaround,
      if_neg (by simp [Lib.Memory.reads, hfront0]), if_pos hread]
  rw [extended, hw, swapT3tFlags_of_other (by simp [respond, Lib.Memory.reads, hfront0])]
  exact ⟨rfl, rfl⟩

/-! ## All other packets -/

theorem dtaCommand_sends (hconfig : s.dtaBlocksConfig = false)
    (hfelica : s.pCmdData.reads 0 [0x21, 0x08, 0x04, 0xFF, 0xFF] = false) :
    s.dtaCommand.1 = NFCSTATUS.success ∧ s.dtaCommand.2.rspLen = s.rspLen := by
  simp only [dtaBlocksConfig, Bool.or_eq_false_iff] at hconfig
  unfold dtaCommand
  extract_lets p
  rw [if_neg (by rw [hconfig.1.1]; exact Bool.false_ne_true),
    if_neg (by rw [hfelica]; exact Bool.false_ne_true)]
  -- each branch that answers contradicts `hconfig`
  split
  · exact ⟨rfl, rfl⟩
  split
  · simp_all [p]
  split
  · exact ⟨rfl, rfl⟩
  split
  · simp_all [p]
  split
  · simp_all [p, Lib.Memory.reads]
  split
  · simp_all [p]
  · exact ⟨rfl, rfl⟩

/-- The DTA mode sends what it does not answer. -/
theorem dtaUpdate_sends (hconfig : (s.dtaCtrlFlag && s.dtaBlocksConfig) = false)
    (hfelica : (s.dtaCtrlFlag && s.pCmdData.reads 0 [0x21, 0x08, 0x04, 0xFF, 0xFF]) = false) :
    s.phNxpNHalDtaUpdate.1 = NFCSTATUS.success ∧ s.phNxpNHalDtaUpdate.2.rspLen = s.rspLen := by
  unfold phNxpNHalDtaUpdate
  split
  · rename_i hflag
    rw [hflag, Bool.true_and] at hconfig hfelica
    have hcommand := dtaCommand_sends hconfig hfelica
    rcases dtaT1t_cases s.dtaCommand with heq | heq
    · rw [heq]
      exact hcommand
    · rw [heq]
      exact ⟨rfl, hcommand.2⟩
  · exact ⟨rfl, rfl⟩

/-- What the command that starts the discovery begins with afterwards. A packet that is too short
for its header is overwritten. -/
theorem dtaUpdate_head_of_poll (hpoll : s.pCmdData.reads 0 [0x21, 0x03] = true) :
    s.phNxpNHalDtaUpdate.2.pCmdData 0 = 0x21 ∨ s.phNxpNHalDtaUpdate.2.pCmdData 0 = 0x80 := by
  have h0 : s.pCmdData 0 = 0x21 := by
    simp only [Lib.Memory.reads, Bool.and_eq_true, beq_iff_eq] at hpoll
    exact hpoll.1
  unfold phNxpNHalDtaUpdate
  split
  · have hcommand : s.dtaCommand.2.pCmdData 0 = 0x21 ∨ s.dtaCommand.2.pCmdData 0 = 0x80 := by
      rw [dtaCommand_of_poll hpoll]
      rcases Nat.eq_zero_or_pos s.cmdLen with hlen | hlen
      · rw [hlen]
        exact Or.inr rfl
      · exact Or.inl ((Lib.Memory.put_of_lt hlen).trans h0)
    rcases dtaT1t_cases s.dtaCommand with heq | heq
    · rw [heq]
      exact hcommand
    · rw [heq]
      exact hcommand
  · exact Or.inl h0

theorem selectMode_sends (hstatus : r.1 = NFCSTATUS.success)
    (hmode : r.2.pCmdData.reads 0 [0xFE, 0xFE, 0xFE] = false) :
    (selectMode r).1 = NFCSTATUS.success ∧ (selectMode r).2.rspLen = r.2.rspLen := by
  unfold selectMode
  extract_lets u
  rw [if_neg (by rw [hmode]; exact Bool.false_ne_true)]
  split
  · exact ⟨rfl, rfl⟩
  split
  · exact ⟨rfl, rfl⟩
  · exact ⟨hstatus, rfl⟩

theorem emvCoDiscover_rspLen (s : HalState) : s.emvCoDiscover.rspLen = s.rspLen := by
  unfold emvCoDiscover
  split
  · split
    · rfl
    · split
      · rfl
      · rfl
  · rfl

/-- The workarounds send what they do not answer. -/
theorem workaround_sends (retval : ℕ)
    (hnfcee : s.icodeDetected = 0 → s.pCmdData.reads 0 [0x22, 0x00, 0x01, 0x00] = false)
    (hthree : s.icodeDetected = 0 → s.pCmdData.reads 0 [0x20, 0x02, 0x07, 0x03] = false)
    (hone : s.icodeDetected = 0 → s.pCmdData.reads 0 [0x20, 0x02, 0x03, 0x01, 0x32] = false) :
    (workaround retval NFCSTATUS.success s).1 = NFCSTATUS.success ∧
      (workaround retval NFCSTATUS.success s).2.rspLen = s.rspLen := by
  unfold workaround
  extract_lets p
  split
  · exact ⟨rfl, rfl⟩
  split
  · exact ⟨rfl, rfl⟩
  split
  · obtain ⟨b, eof, heq⟩ := s.icodeCommand_eq
    rw [heq]
    exact ⟨rfl, rfl⟩
  rename_i hicode
  rw [not_not] at hicode
  unfold commandWorkaround
  extract_lets
  rw [hnfcee hicode, hthree hicode, hone hicode]
  split
  · obtain ⟨cmd, heq⟩ := discoveryCmdExt_eq { s with icodeDetected := 0, icodeSendEof := 0 }
    rw [heq]
    exact ⟨rfl, rfl⟩
  rw [if_neg Bool.false_ne_true]
  split
  · exact ⟨rfl, rfl⟩
  rw [Bool.or_self, if_neg Bool.false_ne_true]
  split
  · exact ⟨rfl, rfl⟩
  split
  · exact ⟨rfl, rfl⟩
  split
  · exact ⟨rfl, rfl⟩
  · exact ⟨rfl, rfl⟩

theorem swapT3tFlags_sends (hstatus : r.1 = NFCSTATUS.success) :
    (swapT3tFlags r).1 = NFCSTATUS.success ∧ (swapT3tFlags r).2.rspLen = r.2.rspLen := by
  unfold swapT3tFlags
  extract_lets p
  split
  · split
    · exact ⟨rfl, rfl⟩
    · exact ⟨hstatus, rfl⟩
  · exact ⟨hstatus, rfl⟩

/-- Where the front of a packet starts with none of the bytes that are answered. -/
theorem front_head_of_poll (hpoll : s.pCmdData.reads 0 [0x21, 0x03] = true) :
    s.front.2.pCmdData 0 = 0x21 ∨ s.front.2.pCmdData 0 = 0x80 := by
  have hhead := dtaUpdate_head_of_poll hpoll
  have hselect : (selectMode s.phNxpNHalDtaUpdate).2.pCmdData = s.phNxpNHalDtaUpdate.2.pCmdData := by
    unfold selectMode
    extract_lets u
    split
    · rfl
    split
    · rfl
    split
    · rfl
    · rfl
  have hemv : s.front.2.pCmdData 0 = (selectMode s.phNxpNHalDtaUpdate).2.pCmdData 0 := by
    unfold front emvCoDiscover
    split
    · split
      · rfl
      · split
        · rfl
        · rfl
    · rfl
  rw [hemv, hselect]
  exact hhead

theorem extended_sends (retval : ℕ) (hmode : s.pCmdData.reads 0 [0xFE, 0xFE, 0xFE] = false)
    (hconfig : s.configBlocked = false) (hcommand : s.commandBlocked = false) :
    (s.extended retval).1 = NFCSTATUS.success ∧ (s.extended retval).2.rspLen = s.rspLen := by
  simp only [configBlocked, commandBlocked, Bool.or_eq_false_iff] at hconfig hcommand
  obtain ⟨hdta, hrsp⟩ := dtaUpdate_sends hconfig.1 hcommand.1
  -- the bytes that the later stages compare
  have hbytes : s.phNxpNHalDtaUpdate.2.pCmdData.reads 0 [0xFE, 0xFE, 0xFE] = false ∧
      (s.front.2.icodeDetected = 0 →
        s.front.2.pCmdData.reads 0 [0x22, 0x00, 0x01, 0x00] = false ∧
        s.front.2.pCmdData.reads 0 [0x20, 0x02, 0x07, 0x03] = false ∧
        s.front.2.pCmdData.reads 0 [0x20, 0x02, 0x03, 0x01, 0x32] = false) := by
    cases hpoll : s.pCmdData.reads 0 [0x21, 0x03] with
    | true =>
      refine ⟨?_, fun _ => ?_⟩
      · rcases dtaUpdate_head_of_poll hpoll with h | h <;> simp [Lib.Memory.reads, h]
      · rcases front_head_of_poll hpoll with h | h <;> simp [Lib.Memory.reads, h]
    | false =>
      have hsame := sameFront_front hpoll
      refine ⟨((sameFront_dtaUpdate hpoll).reads (by decide)).trans hmode, fun hicode => ?_⟩
      rw [hsame.icodeDetected] at hicode
      rw [hicode, beq_self_eq_true, Bool.true_and] at hconfig hcommand
      have hset := Bool.or_eq_false_iff.1 hconfig.2
      exact ⟨(hsame.reads (by decide)).trans hcommand.2, (hsame.reads (by decide)).trans hset.1,
        (hsame.reads (by decide)).trans hset.2⟩
  obtain ⟨hselect, hselectRsp⟩ := selectMode_sends hdta hbytes.1
  have hfront : s.front.1 = NFCSTATUS.success ∧ s.front.2.rspLen = s.rspLen :=
    ⟨hselect, (emvCoDiscover_rspLen _).trans (hselectRsp.trans hrsp)⟩
  obtain ⟨hw, hwRsp⟩ := workaround_sends retval (fun h => (hbytes.2 h).1)
    (fun h => (hbytes.2 h).2.1) (fun h => (hbytes.2 h).2.2)
  rw [extended, hfront.1]
  obtain ⟨hswap, hswapRsp⟩ := swapT3tFlags_sends hw
  exact ⟨hswap, hswapRsp.trans (hwRsp.trans hfront.2)⟩

/-- A rule answers the packet. -/
def answers (s : HalState) : Bool :=
  s.pCmdData.reads 0 [0xFE, 0xFE, 0xFE] || s.configBlocked || s.commandBlocked

/-- No later rule sends the packet nevertheless: it has neither the bytes of the host list nor
`LF_T3T_FLAGS` among its parameters. -/
structure AnswerKept (s : HalState) : Prop where
  felica : s.pCmdData.reads 0 [0xFE, 0xFE, 0xFE] = true →
    s.pCmdData.reads 3 [0x81, 0x01, 0x03] = false
  config : s.configBlocked = true → t3tScan s.pCmdData s.cmdLen 4 = none

theorem configBlocked_head (h : s.configBlocked = true) : s.pCmdData 0 = 0x20 := by
  simp only [configBlocked, Bool.or_eq_true, Bool.and_eq_true] at h
  rcases h with ⟨-, h⟩ | ⟨-, h | h⟩
  · exact (dtaBlocksConfig_bytes h).1
  · simp only [Lib.Memory.reads, Bool.and_eq_true, beq_iff_eq] at h
    exact h.1
  · simp only [Lib.Memory.reads, Bool.and_eq_true, beq_iff_eq] at h
    exact h.1

theorem extended_config (retval : ℕ) (h : s.configBlocked = true) :
    (s.extended retval).2.rspLen = 5 ∧
      (t3tScan s.pCmdData s.cmdLen 4 = none → (s.extended retval).1 = NFCSTATUS.failed) ∧
      (t3tScan s.pCmdData s.cmdLen 4 ≠ none → (s.extended retval).1 = NFCSTATUS.success) := by
  simp only [configBlocked, Bool.or_eq_true, Bool.and_eq_true, beq_iff_eq] at h
  rcases h with ⟨hflag, h⟩ | ⟨hicode, h⟩
  · exact extended_dtaBlocks hflag h
  · exact extended_setConfig hicode h

theorem extended_command (retval : ℕ) (h : s.commandBlocked = true) :
    (s.extended retval).2.rspLen ≠ 0 ∧ (s.extended retval).1 = NFCSTATUS.failed := by
  simp only [commandBlocked, Bool.or_eq_true, Bool.and_eq_true, beq_iff_eq] at h
  rcases h with ⟨hflag, h⟩ | ⟨hicode, h⟩
  · obtain ⟨hrsp, hstatus⟩ := extended_dtaFelica retval hflag h
    exact ⟨hrsp ▸ by decide, hstatus⟩
  · obtain ⟨hrsp, hstatus⟩ := extended_nfceeDiscover retval hicode h
    exact ⟨hrsp ▸ by decide, hstatus⟩

/-- An answered packet is kept from the NFCC unless a later rule sends it. -/
theorem extended_of_answers (retval : ℕ) (h : s.answers = true) :
    (s.extended retval).2.rspLen ≠ 0 ∧
      ((s.extended retval).1 = NFCSTATUS.failed ↔ s.AnswerKept) := by
  by_cases hmode : s.pCmdData.reads 0 [0xFE, 0xFE, 0xFE] = true
  · obtain ⟨hrsp, hfailed, hsent⟩ := extended_felica retval hmode
    have hhead : s.pCmdData 0 = 0xFE := by
      simp only [Lib.Memory.reads, Bool.and_eq_true, beq_iff_eq] at hmode
      exact hmode.1
    refine ⟨hrsp ▸ by decide, fun hstatus => ⟨fun _ => ?_, fun hconfig => ?_⟩, fun hkept => ?_⟩
    · by_contra hhost
      rw [hsent (Bool.not_eq_false _ ▸ hhost)] at hstatus
      exact absurd hstatus (by decide)
    · exact absurd (hhead.symm.trans (configBlocked_head hconfig)) (by decide)
    · exact hfailed (hkept.felica hmode)
  by_cases hconfig : s.configBlocked = true
  · obtain ⟨hrsp, hfailed, hsent⟩ := extended_config retval hconfig
    refine ⟨hrsp ▸ by decide, fun hstatus => ⟨fun hmode' => absurd hmode' hmode, fun _ => ?_⟩,
      fun hkept => ?_⟩
    · by_contra hscan
      rw [hsent hscan] at hstatus
      exact absurd hstatus (by decide)
    · exact hfailed (hkept.config hconfig)
  · have hcommand : s.commandBlocked = true := by
      simpa [answers, hmode, hconfig] using h
    obtain ⟨hrsp, hfailed⟩ := extended_command retval hcommand
    refine ⟨hrsp, fun _ => ?_, fun _ => hfailed⟩
    exact ⟨fun hmode' => absurd hmode' hmode, fun hconfig' => absurd hconfig' hconfig⟩

theorem extended_of_not_answers (retval : ℕ) (h : s.answers = false) :
    (s.extended retval).2.rspLen = s.rspLen ∧ (s.extended retval).1 = NFCSTATUS.success ∧
      s.AnswerKept := by
  simp only [answers, Bool.or_eq_false_iff] at h
  obtain ⟨⟨hmode, hconfig⟩, hcommand⟩ := h
  obtain ⟨hstatus, hrsp⟩ := extended_sends retval hmode hconfig hcommand
  refine ⟨hrsp, hstatus, fun hmode' => ?_, fun hconfig' => ?_⟩
  · exact absurd (hmode.symm.trans hmode') Bool.false_ne_true
  · exact absurd (hconfig.symm.trans hconfig') Bool.false_ne_true

/-- A response is composed for the answered packets, and for no others. -/
theorem composes_iff (retval : ℕ) (s : HalState) : s.Composes retval ↔ s.answers = true := by
  obtain ⟨poll, heq⟩ := writeExt_eq retval { s with rspLen := 0 }
  unfold Composes
  rw [heq]
  cases h : s.answers with
  | true =>
    exact iff_of_true
      (extended_of_answers (s := { s with rspLen := 0, cmdPoll := poll }) retval h).1 rfl
  | false =>
    refine iff_of_false (not_not.2 ?_) Bool.false_ne_true
    exact (extended_of_not_answers (s := { s with rspLen := 0, cmdPoll := poll }) retval h).1

end HalState

/-- A command with a response is kept from the NFCC, and one without is sent, exactly when no later
rule overrules the one that answers. -/
theorem answered_not_sent_iff (retval : ℕ) (s : HalState) :
    ((s.Composes retval → (s.phNxpNciHalWriteExt retval).1 = NFCSTATUS.failed) ∧
      (¬ s.Composes retval → (s.phNxpNciHalWriteExt retval).1 = NFCSTATUS.success)) ↔
    s.AnswerKept := by
  obtain ⟨poll, heq⟩ := HalState.writeExt_eq retval s
  rw [heq, HalState.composes_iff]
  cases h : s.answers with
  | true =>
    have hextended := HalState.extended_of_answers (s := { s with cmdPoll := poll }) retval h
    have hkept : ({ s with cmdPoll := poll } : HalState).AnswerKept ↔ s.AnswerKept :=
      ⟨fun h => ⟨h.felica, h.config⟩, fun h => ⟨h.felica, h.config⟩⟩
    rw [← hkept, ← hextended.2]
    exact ⟨fun h => h.1 rfl, fun h => ⟨fun _ => h, fun hnot => absurd rfl hnot⟩⟩
  | false =>
    obtain ⟨-, hstatus, hkept⟩ :=
      HalState.extended_of_not_answers (s := { s with cmdPoll := poll }) retval h
    refine iff_of_true ⟨fun h => absurd h Bool.false_ne_true, fun _ => hstatus⟩ ?_
    exact ⟨hkept.felica, hkept.config⟩

/-- `CORE_SET_CONFIG_CMD` with three parameters, the first of which is `LF_T3T_FLAGS`. -/
def flagsConfig : HalState :=
  { HalState.init with
    pCmdData := Lib.Memory.put (fun _ => 0) 0
      [0x20, 0x02, 0x07, 0x03, 0x53, 0x00, 0x31, 0x00, 0x32, 0x00]
    cmdLen := 10 }

/-- The command is answered, and sent as well. -/
theorem flagsConfig_answered_and_sent :
    flagsConfig.Composes 0 ∧ (flagsConfig.phNxpNciHalWriteExt 0).1 = NFCSTATUS.success := by
  have hscan : t3tScan flagsConfig.pCmdData flagsConfig.cmdLen 4 = some 4 :=
    t3tScan_of_flags (by decide) (by decide)
  have hblocked : flagsConfig.configBlocked = true := by decide
  obtain ⟨poll, heq⟩ := HalState.writeExt_eq 0 flagsConfig
  have hextended :=
    HalState.extended_config 0 (s := { flagsConfig with cmdPoll := poll }) hblocked
  refine ⟨(HalState.composes_iff 0 flagsConfig).2 (by decide), ?_⟩
  rw [heq]
  exact hextended.2.2 (hscan ▸ Option.some_ne_none 4)

end AliceHal.Pn54x.Hal
