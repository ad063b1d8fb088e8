import AliceHal.Pn54x.Hal.WellFormed

/-!
# Data Packets

Whether the extensions leave application data alone. The workaround that sets the host list of the
HCI network looks at the payload only, and takes any packet for its command.

- `HalState.IsData`: the message type of a packet is that of data
- `Unchanged`: the packet is sent as it is
- `writeExt_unchanged_iff`: exactly the data packets with the bytes of that workaround are changed,
  unless they are what it makes of them
-/

namespace AliceHal.Pn54x.Hal

/-- The message type of the packet is that of data. -/
def HalState.IsData (s : HalState) : Prop := s.pCmdData 0 &&& 0xE0 = 0

/-- The packet is sent as it is. -/
structure Unchanged (s : HalState) (r : NFCSTATUS × HalState) : Prop where
  status : r.1 = NFCSTATUS.success
  cmdLen : r.2.cmdLen = s.cmdLen
  bytes : ∀ i < s.cmdLen, r.2.pCmdData i = s.pCmdData i

namespace HalState

variable {retval : ℕ} {s : HalState}

/-- The header of a data packet is that of no command the extensions know. -/
theorem IsData.header (h : s.IsData) :
    s.pCmdData 0 ≠ 0x20 ∧ s.pCmdData 0 ≠ 0x21 ∧ s.pCmdData 0 ≠ 0x22 ∧ s.pCmdData 0 ≠ 0xFE := by
  unfold IsData at h
  refine ⟨fun heq => ?_, fun heq => ?_, fun heq => ?_, fun heq => ?_⟩ <;>
    · rw [heq] at h
      exact absurd h (by decide)

/-- Without the DTA mode a data packet comes to the workarounds as it is. -/
theorem front_of_data (hdata : s.IsData) (hdta : s.dtaCtrlFlag = false) :
    s.front = (NFCSTATUS.success, s) := by
  obtain ⟨h20, h21, -, hFE⟩ := hdata.header
  have hupdate : s.phNxpNHalDtaUpdate = (NFCSTATUS.success, s) := by
    rw [phNxpNHalDtaUpdate, hdta]
    rfl
  have hselect : selectMode (NFCSTATUS.success, s) = (NFCSTATUS.success, s) :=
    selectMode_of_other (by simp [Lib.Memory.reads, h20]) (by simp [Lib.Memory.reads, hFE])
  have hemv : s.emvCoDiscover = s := emvCoDiscover_of_other (by simp [Lib.Memory.reads, h21])
  rw [front, hupdate, hselect, hemv]

theorem commandWorkaround_of_data (hdata : s.IsData)
    (hcheck : ¬ (s.cmdLen = 3 ∧ s.pCmdData.reads 0 [0x00, 0x00, 0x00] = true))
    (status : NFCSTATUS) : s.commandWorkaround status = (status, s) := by
  obtain ⟨h20, h21, h22, -⟩ := hdata.header
  have hcheck' : (decide (s.cmdLen = 3) && s.pCmdData.reads 0 [0x00, 0x00, 0x00]) = false := by
    rw [Bool.eq_false_iff, ne_eq, Bool.and_eq_true, decide_eq_true_eq]
    exact hcheck
  simp only [commandWorkaround, hcheck']
  simp [Lib.Memory.reads, h20, h21, h22]

/-- The packet that the host list workaround makes. -/
theorem unchanged_hostList_iff (hwf : WellFormed s.pCmdData s.cmdLen) (u : HalState)
    (hp : u.pCmdData = (s.pCmdData.put 2 [0x04]).put 6 [0xC0]) (hlen : u.cmdLen = 7) :
    Unchanged s (NFCSTATUS.success, u) ↔ s.cmdLen = 7 ∧ s.pCmdData 6 = 0xC0 := by
  have hwf' : s.cmdLen = (s.pCmdData 2).toNat + 3 := hwf
  constructor
  · intro h
    have h7 : s.cmdLen = 7 := h.cmdLen.symm.trans hlen
    have hbyte := h.bytes 6 (by omega)
    rw [hp] at hbyte
    exact ⟨h7, hbyte.symm⟩
  · rintro ⟨h7, hC0⟩
    have h2 : s.pCmdData 2 = 0x04 := UInt8.toNat_inj.1 (show _ = 4 by omega)
    refine ⟨rfl, hlen.trans h7.symm, fun i hi => ?_⟩
    rw [hp]
    by_cases hi6 : i = 6
    · rw [hi6]
      exact hC0.symm
    by_cases hi2 : i = 2
    · rw [hi2]
      exact h2.symm
    rw [Lib.Memory.put_of_lt (by omega)]
    rcases Nat.lt_or_gt_of_ne hi2 with hlt | hgt
    · exact Lib.Memory.put_of_lt hlt
    · exact Lib.Memory.put_of_le hgt

end HalState

/-- With the DTA mode off and no ISO 15693 tag, a data packet other than the presence check is sent
as it is, exactly when the buffer does not hold the bytes of the host list workaround, or the packet
is the one that the workaround makes. -/
theorem writeExt_unchanged_iff (retval : ℕ) (s : HalState) (hdata : s.IsData)
    (hwf : WellFormed s.pCmdData s.cmdLen)
    (hcheck : ¬ (s.cmdLen = 3 ∧ s.pCmdData.reads 0 [0x00, 0x00, 0x00] = true))
    (hdta : s.dtaCtrlFlag = false) (hicode : s.icodeDetected = 0) :
    Unchanged s (s.phNxpNciHalWriteExt retval) ↔
      (s.pCmdData.reads 3 [0x81, 0x01, 0x03] = true → s.cmdLen = 7 ∧ s.pCmdData 6 = 0xC0) := by
  obtain ⟨h20, h21, -, -⟩ := hdata.header
  obtain ⟨poll, heq⟩ := HalState.writeExt_eq retval s
  have hfront := HalState.front_of_data (s := { s with cmdPoll := poll }) hdata hdta
  have hmap : retval = 1 → s.pCmdData.reads 0 [0x21, 0x00] = false := fun _ => by
    simp [Lib.Memory.reads, h21]
  rw [heq, hfront]
  cases hhost : s.pCmdData.reads 3 [0x81, 0x01, 0x03] with
  | true =>
    rw [HalState.workaround_of_hostList (s := { s with cmdPoll := poll }) hmap hhost,
      HalState.swapT3tFlags_of_other]
    · rw [HalState.unchanged_hostList_iff hwf _ rfl rfl]
      exact ⟨fun h _ => h, fun h => h rfl⟩
    · have hput : ((s.pCmdData.put 2 [0x04]).put 6 [0xC0]) 0 = s.pCmdData 0 := rfl
      simp [Lib.Memory.reads, hput, h20]
  | false =>
    rw [HalState.workaround_of_command (s := { s with cmdPoll := poll }) hmap hhost hicode,
      HalState.commandWorkaround_of_data (s := { s with cmdPoll := poll }) hdata hcheck,
      HalState.swapT3tFlags_of_other (by simp [Lib.Memory.reads, h20])]
    exact ⟨fun _ h => absurd h Bool.false_ne_true, fun _ => ⟨rfl, rfl, fun _ _ => rfl⟩⟩

/-- Ten bytes for a tag, three of which are those of the host list. -/
def hostListPayload : HalState :=
  { HalState.init with
    pCmdData := Lib.Memory.put (fun _ => 0x00) 0
      [0x00, 0x00, 0x0A, 0x81, 0x01, 0x03, 0x11, 0x22, 0x33, 0x44, 0x55, 0x66, 0x77]
    cmdLen := 13 }

/-- Seven bytes are sent in place of thirteen. -/
theorem hostListPayload_changed :
    hostListPayload.IsData ∧ WellFormed hostListPayload.pCmdData hostListPayload.cmdLen ∧
      ¬ (hostListPayload.cmdLen = 3 ∧
        hostListPayload.pCmdData.reads 0 [0x00, 0x00, 0x00] = true) ∧
      hostListPayload.dtaCtrlFlag = false ∧ hostListPayload.icodeDetected = 0 ∧
      ¬ Unchanged hostListPayload (hostListPayload.phNxpNciHalWriteExt 0) :=
  ⟨rfl, rfl, by decide, rfl, rfl, fun h => absurd h.cmdLen (by decide)⟩

/-- A `READ` command for a tag. -/
def readPayload : HalState :=
  { HalState.init with
    pCmdData := Lib.Memory.put (fun _ => 0x00) 0 [0x00, 0x00, 0x02, 0x30, 0x04]
    cmdLen := 5 }

theorem readPayload_unchanged : Unchanged readPayload (readPayload.phNxpNciHalWriteExt 1) :=
  (writeExt_unchanged_iff 1 readPayload rfl rfl (by decide) rfl rfl).2 fun h => absurd h (by decide)

end AliceHal.Pn54x.Hal
