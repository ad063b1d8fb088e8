import AliceHal.Pn54x.Hal.CommandBytes
import AliceHal.Pn54x.Hal.Discovery
import AliceHal.Pn54x.Hal.WriteStores

/-!
# The Bounds and the Result of a Write

`phNxpNciHal_write` with what it returns: a status where the HAL is closed, the length it was called
with where the packet is too long or answered, and the count of `phNxpNciHal_write_unlocked` otherwise.

- `phNxpNciHalWriteUnlocked`: the attempts of one packet
- `HalState.phNxpNciHalWriteCall`: the call, with its stores in `p_cmd_data`
- `Honours`: the stores are in the buffer, nothing is sent without need, and the result is zero where
  nothing happened
- `WriteFits`: the calls for which this is so
- `honours_iff`: there are no others
-/

namespace AliceHal.Pn54x.Hal

open Lib

/-! ## The call -/

/-- What comes of one `phTmlNfc_Write`. -/
inductive Attempt where
  /-- it does not return `NFCSTATUS_PENDING` -/
  | refused
  /-- `SEM_WAIT` fails; the writer thread writes the packet, or not -/
  | semError (written : Bool)
  /-- the completion is called with this outcome -/
  | completed (success : Bool)
  deriving DecidableEq, Repr

/-- What `phNxpNciHal_write_unlocked` meets. -/
structure Transport where
  /-- the semaphores are created -/
  cbData : Bool
  /-- the attempts, in their order -/
  attempts : ℕ → Attempt
  /-- `p_rx_data` is the command buffer -/
  rxInCmdData : Bool

/-- What `phNxpNciHal_write_unlocked` returns, writes to the NFCC, and stores in `p_cmd_data`. -/
structure Unlocked where
  returned : ℕ
  written : List UInt8
  stores : List Extent
  deriving DecidableEq, Repr

namespace Transport

/-- `phNxpNciHal_write_unlocked` from `retry` on. -/
def retry (t : Transport) (packet : List UInt8) : List Attempt → Unlocked
  | [] => ⟨0, [], if t.rxInCmdData then [⟨0, resetNtf.length⟩] else []⟩
  | .refused :: _ => ⟨0, [], []⟩
  | .semError written :: _ => ⟨0, if written then packet else [], []⟩
  | .completed true :: _ => ⟨packet.length, packet, []⟩
  | .completed false :: attempts => t.retry packet attempts

/-- `phNxpNciHal_write_unlocked`: the first attempt and `MAX_RETRY_COUNT` more. -/
def phNxpNciHalWriteUnlocked (t : Transport) (packet : List UInt8) : Unlocked :=
  if t.cbData then
    let u := t.retry packet ((List.range (maxRetryCount + 1)).map t.attempts)
    { u with stores := ⟨0, packet.length⟩ :: u.stores }
  else ⟨0, [], []⟩

/-- The first attempt succeeds. -/
def Succeeds (t : Transport) : Prop := t.cbData = true ∧ t.attempts 0 = .completed true

end Transport

/-- A call of `phNxpNciHal_write`. -/
structure WriteCall where
  returned : ℕ
  /-- the bytes written to the NFCC -/
  written : List UInt8
  /-- a response was given to the stack -/
  emulated : Bool
  /-- the stores in `p_cmd_data` -/
  stores : List Extent

namespace HalState

/-- `phNxpNciHal_write`; `tml` is met by the packet, and `eof` by the EOF after it. -/
def phNxpNciHalWriteCall (retval : ℕ) (tml eof : Transport) (data : List UInt8) (s : HalState) :
    WriteCall :=
  if s.isOpen then
    let s := s.copied data
    let copy : Extent := ⟨0, data.length⟩
    -- the length is looked at after the copy
    if nciMaxDataLen < s.cmdLen then ⟨data.length, [], false, [copy]⟩
    else
      let r := s.phNxpNciHalWriteExt retval
      let ext := s.writeExtStores retval
      if r.1 ≠ NFCSTATUS.success then ⟨data.length, [], true, copy :: ext⟩
      else
        let u := tml.phNxpNciHalWriteUnlocked (r.2.pCmdData.slice r.2.cmdLen)
        if r.2.icodeSendEof = 1 then
          let e := eof.phNxpNciHalWriteUnlocked cmdIcodeEof
          ⟨u.returned, u.written ++ e.written, false,
            copy :: (ext ++ (u.stores ++ ⟨0, cmdIcodeEof.length⟩ :: e.stores))⟩
        else ⟨u.returned, u.written, false, copy :: (ext ++ u.stores)⟩
  else ⟨NFCSTATUS.failed.toNat, [], false, []⟩

end HalState

/-! ## Bounds and result -/

/-- All stores are in the buffer; nothing is sent of a packet that is too long or while the HAL is
closed; and the result is zero where nothing was written and no response was given. -/
structure Honours (s : HalState) (data : List UInt8) (c : WriteCall) : Prop where
  bounded : ∀ e ∈ c.stores, e.FitsIn nciMaxDataLen
  silent : nciMaxDataLen < data.length ∨ s.isOpen = false → c.written = []
  zero : c.written = [] → c.emulated = false → c.returned = 0

/-- The HAL is open, and the packet fits into the buffer with what is appended to it: six bytes by the
DTA mode, three where MIFARE is added to the discovery map, one in a clock setting; and behind
`LF_T3T_FLAGS` there are the three bytes that the swap takes for granted. -/
structure WriteFits (retval : ℕ) (tml : Transport) (data : List UInt8) (s : HalState) : Prop where
  isOpen : s.isOpen = true
  length : data.length ≤ nciMaxDataLen
  discover : s.dtaCtrlFlag = true → [0x21, 0x03] <+: data → data.length + 6 ≤ nciMaxDataLen
  map : [0x21, 0x00] <+: data →
    (retval = 1 ∨ ¬[0x81, 0x01, 0x03] <+: data.drop 3 ∧ s.icodeDetected = 0) →
      data.length + 3 ≤ nciMaxDataLen
  clock : tml.cbData = true → s.icodeDetected = 0 → [0x20, 0x02, 0x09, 0x04] <+: data →
    data.length + 1 ≤ nciMaxDataLen
  flags : [0x20, 0x02] <+: data → ¬[0x81, 0x01, 0x03] <+: data.drop 3 →
    ∀ i, t3tScan (s.copied data).configPatched (s.copied data).configLen 4 = some i →
      i + 4 ≤ nciMaxDataLen

variable {retval : ℕ} {tml eof t : Transport} {data packet : List UInt8} {s u : HalState}
  {status : NFCSTATUS}

/-! ## The transport -/

namespace Transport

theorem retry_of_silent (attempts : List Attempt) :
    (t.retry packet attempts).written = [] → (t.retry packet attempts).returned = 0 := by
  induction attempts with
  | nil => exact fun _ => rfl
  | cons a attempts ih =>
    cases a with
    | refused => exact fun _ => rfl
    | semError written => exact fun _ => rfl
    | completed success =>
      cases success with
      | true =>
        intro h
        exact List.length_eq_zero_iff.2 h
      | false => exact ih

/-- The count is zero where nothing is written. -/
theorem writeUnlocked_of_silent (h : (t.phNxpNciHalWriteUnlocked packet).written = []) :
    (t.phNxpNciHalWriteUnlocked packet).returned = 0 := by
  unfold phNxpNciHalWriteUnlocked at h ⊢
  split
  · rename_i hcb
    rw [if_pos hcb] at h
    exact retry_of_silent _ h
  · rfl

theorem retry_stores_fit (attempts : List Attempt) :
    ∀ e ∈ (t.retry packet attempts).stores, e.FitsIn nciMaxDataLen := by
  induction attempts with
  | nil =>
    unfold retry
    split
    · decide
    · simp
  | cons a attempts ih =>
    cases a with
    | refused => simp [retry]
    | semError written => simp [retry]
    | completed success =>
      cases success with
      | true => simp [retry]
      | false => exact ih

/-- The packet is copied to the buffer where it lies. -/
theorem writeUnlocked_stores_fit :
    (∀ e ∈ (t.phNxpNciHalWriteUnlocked packet).stores, e.FitsIn nciMaxDataLen) ↔
      (t.cbData = true → packet.length ≤ nciMaxDataLen) := by
  unfold phNxpNciHalWriteUnlocked
  by_cases hcb : t.cbData = true
  · rw [if_pos hcb, List.forall_mem_cons, and_iff_left (retry_stores_fit _),
      forall_prop_of_true hcb]
    simp [Extent.FitsIn]
  · simp [hcb]

theorem writeUnlocked_of_succeeds (h : t.Succeeds) :
    (t.phNxpNciHalWriteUnlocked packet).written = packet := by
  rw [phNxpNciHalWriteUnlocked, if_pos h.1]
  rw [List.range_succ_eq_map, List.map_cons, h.2]
  rfl

end Transport

/-! ## The call and the model of the write -/

namespace HalState

theorem copied_changedIn (s : HalState) (data : List UInt8) :
    Memory.ChangedIn [⟨0, data.length⟩] s.pCmdData (s.copied data).pCmdData := .put rfl

/-- `p_cmd_data` changes in the extents of the call only. -/
theorem writeCall_changedIn (retval : ℕ) (tml eof : Transport) (data : List UInt8) (s : HalState) :
    Memory.ChangedIn (s.phNxpNciHalWriteCall retval tml eof data).stores s.pCmdData
      (s.phNxpNciHalWrite retval data).1.pCmdData := by
  unfold phNxpNciHalWriteCall phNxpNciHalWrite
  by_cases hopen : s.isOpen = true
  · rw [if_pos hopen, if_pos hopen]
    extract_lets c copy r ext u e
    change Memory.ChangedIn (WriteCall.stores (if nciMaxDataLen < c.cmdLen then _ else _)) _
      (Prod.fst (if nciMaxDataLen < c.cmdLen then (c, _) else finishWrite r)).pCmdData
    have hext := writeExt_changedIn retval c
    split
    · exact s.copied_changedIn data
    · unfold finishWrite
      extract_lets v
      split
      · exact (s.copied_changedIn data).trans hext
      split
      · apply (s.copied_changedIn data).trans
        apply hext.trans
        apply (Memory.ChangedIn.refl u.stores _).trans
        exact .put_then rfl (.refl _ _)
      · apply (s.copied_changedIn data).trans
        exact hext.trans (.refl _ _)
  · rw [if_neg hopen, if_neg hopen]
    exact .refl _ _

/-- Where both packets are written at once, they are the packets of the write. -/
theorem writeCall_written (html : tml.Succeeds) (heof : eof.Succeeds) :
    (s.phNxpNciHalWriteCall retval tml eof data).written =
      (s.phNxpNciHalWrite retval data).2.packets.flatten := by
  unfold phNxpNciHalWriteCall phNxpNciHalWrite
  by_cases hopen : s.isOpen = true
  · rw [if_pos hopen, if_pos hopen]
    extract_lets c copy r ext u e
    change WriteCall.written (if nciMaxDataLen < c.cmdLen then _ else _) =
      (Prod.snd (if nciMaxDataLen < c.cmdLen then (c, _) else finishWrite r)).packets.flatten
    have hu : u.written = r.2.pCmdData.slice r.2.cmdLen := Transport.writeUnlocked_of_succeeds html
    have he : e.written = cmdIcodeEof := Transport.writeUnlocked_of_succeeds heof
    split
    · rfl
    · unfold finishWrite
      extract_lets v
      split
      · rfl
      split
      · simp [WriteOutcome.packets, hu, he, v]
      · simp [WriteOutcome.packets, hu, v]
  · rw [if_neg hopen, if_neg hopen]
    rfl

end HalState

/-! ## The rules that lengthen a packet -/

namespace HalState

/-- The bounds of a packet in the buffer, whose bytes are its own: those of `WriteFits`. -/
structure RoomLeft (retval : ℕ) (cbData : Bool) (s : HalState) : Prop where
  discover : s.dtaCtrlFlag = true → s.pCmdData.reads 0 [0x21, 0x03] = true →
    s.cmdLen + 6 ≤ nciMaxDataLen
  map : s.pCmdData.reads 0 [0x21, 0x00] = true →
    (retval = 1 ∨ s.pCmdData.reads 3 [0x81, 0x01, 0x03] = false ∧ s.icodeDetected = 0) →
      s.cmdLen + 3 ≤ nciMaxDataLen
  clock : cbData = true → s.icodeDetected = 0 →
    s.pCmdData.reads 0 [0x20, 0x02, 0x09, 0x04] = true → s.cmdLen + 1 ≤ nciMaxDataLen
  flags : s.pCmdData.reads 0 [0x20, 0x02] = true →
    s.pCmdData.reads 3 [0x81, 0x01, 0x03] = false →
      ∀ i, t3tScan s.configPatched s.configLen 4 = some i → i + 4 ≤ nciMaxDataLen

/-- The stores of the extensions are in the buffer, and so is the packet that is sent. -/
structure StagesFit (retval : ℕ) (cbData : Bool) (s : HalState) : Prop where
  stores : ∀ e ∈ s.extendedStores retval, e.FitsIn nciMaxDataLen
  packet : (s.extended retval).1 = NFCSTATUS.success → cbData = true →
    (s.extended retval).2.cmdLen ≤ nciMaxDataLen

variable {cbData : Bool}

/-- No rule stores behind the buffer for a short packet: none lengthens it by more than nine bytes. -/
theorem stagesFit_of_short (retval : ℕ) (cbData : Bool) (h : s.cmdLen ≤ 250) :
    s.StagesFit retval cbData := by
  have hfront : s.front.2.cmdLen ≤ 256 := by
    have hcases := s.front_cmdLen_cases
    omega
  have hwork : (workaround retval s.front.1 s.front.2).2.cmdLen ≤ 259 :=
    workaround_cmdLen_le (by decide) (by omega) (fun _ _ => by omega) fun _ _ => by omega
  constructor
  · rw [extendedStores_fit]
    refine ⟨fun _ _ => ?_, fun _ _ => ?_, fun _ i hi => ?_⟩
    · exact (by omega : s.cmdLen + 6 ≤ 300)
    · exact (by omega : s.front.2.cmdLen + 3 ≤ 300)
    · have hlt := t3tScan_lt hi
      exact (by omega : i + 4 ≤ 300)
  · intro _ _
    rw [extended, swapT3tFlags_cmdLen]
    exact hwork.trans (by decide)

theorem configScan_of_short (h : s.cmdLen ≤ 250) {i : ℕ}
    (hi : t3tScan s.configPatched s.configLen 4 = some i) : i + 4 ≤ nciMaxDataLen := by
  have hlt := t3tScan_lt hi
  have hlen : s.configLen ≤ s.cmdLen + 1 := by
    unfold configLen
    split
    · exact le_rfl
    · exact Nat.le_succ _
  exact (by omega : i + 4 ≤ 300)

theorem roomLeft_of_short (retval : ℕ) (cbData : Bool) (h : s.cmdLen ≤ 250) :
    s.RoomLeft retval cbData where
  discover _ _ := (by omega : s.cmdLen + 6 ≤ 300)
  map _ _ := (by omega : s.cmdLen + 3 ≤ 300)
  clock _ _ _ := (by omega : s.cmdLen + 1 ≤ 300)
  flags _ _ _ hi := configScan_of_short h hi

/-- What the workarounds look at in a discovery map. -/
theorem front_of_map (hmap : s.pCmdData.reads 0 [0x21, 0x00] = true) :
    SameFront s s.front.2 := by
  apply sameFront_front
  simp only [Memory.reads, Bool.and_true, Bool.and_eq_true, beq_iff_eq] at hmap
  simp [Memory.reads, hmap.2]

/-- Where the parameters are those of the host list, the walk has nowhere to go. -/
theorem scan_of_hostList (retval : ℕ) (hconfig : s.pCmdData.reads 0 [0x20, 0x02] = true)
    (hhost : s.pCmdData.reads 3 [0x81, 0x01, 0x03] = true) :
    (workaround retval s.front.1 s.front.2).2.cmdLen = 7 := by
  have hhead : s.pCmdData 0 = 0x20 := by
    simp only [Memory.reads, Bool.and_eq_true, beq_iff_eq] at hconfig
    exact hconfig.1
  have hsame : SameFront s s.front.2 := sameFront_front (by simp [Memory.reads, hhead])
  have hfirst := hsame.bytes 0 (by decide)
  rw [workaround_of_hostList (fun _ => by simp [Memory.reads, hfirst, hhead])
    ((hsame.reads (by decide)).trans hhost)]

/-- A clock setting is sent. -/
theorem extended_of_clock (retval : ℕ)
    (hclock : s.pCmdData.reads 0 [0x20, 0x02, 0x09, 0x04] = true) :
    (s.extended retval).1 = NFCSTATUS.success := by
  have hbytes : s.pCmdData 0 = 0x20 ∧ s.pCmdData 2 = 0x09 := by
    simp only [Memory.reads, Bool.and_eq_true, beq_iff_eq] at hclock
    exact ⟨hclock.1, hclock.2.2.1⟩
  have hanswers : s.answers = false := by
    simp [answers, configBlocked, dtaBlocksConfig, commandBlocked, Memory.reads, hbytes.1, hbytes.2]
  exact (extended_of_not_answers retval hanswers).2.1

section

variable (h6 : 6 ≤ s.cmdLen)
include h6

/-- The workarounds see the header of the packet. -/
theorem front_reads {b c : UInt8} : s.front.2.pCmdData.reads 0 [b, c] = s.pCmdData.reads 0 [b, c] := by
  apply Memory.reads_congr
  intro k hk
  rw [Nat.zero_add]
  exact front_header (by omega) hk

theorem workaround_reads (retval : ℕ) {b c : UInt8} :
    (workaround retval s.front.1 s.front.2).2.pCmdData.reads 0 [b, c] =
      s.pCmdData.reads 0 [b, c] := by
  have hlen : 3 < s.front.2.cmdLen := by
    have hcases := s.front_cmdLen_cases
    omega
  rw [← front_reads h6]
  apply Memory.reads_congr
  intro k hk
  rw [Nat.zero_add]
  exact workaround_header hlen hk

/-- The rules store in the buffer exactly when there is room for what they append. -/
theorem stagesFit_iff (retval : ℕ) (cbData : Bool) (hlen : s.cmdLen ≤ nciMaxDataLen) :
    s.StagesFit retval cbData ↔ s.RoomLeft retval cbData := by
  have hfrontReads : ∀ {b c : UInt8}, s.front.2.pCmdData.reads 0 [b, c] =
      s.pCmdData.reads 0 [b, c] := front_reads h6
  have hworkReads : ∀ {b c : UInt8},
      (workaround retval s.front.1 s.front.2).2.pCmdData.reads 0 [b, c] =
        s.pCmdData.reads 0 [b, c] := workaround_reads h6 retval
  -- the walk sees the parameters as they are patched
  have hscan : s.pCmdData.reads 0 [0x20, 0x02] = true →
      s.pCmdData.reads 3 [0x81, 0x01, 0x03] = false →
      t3tScan (workaround retval s.front.1 s.front.2).2.pCmdData
          (workaround retval s.front.1 s.front.2).2.cmdLen 4 =
        t3tScan s.configPatched s.configLen 4 := by
    intro hconfig hhost
    obtain ⟨hbytes, hcmdLen, -⟩ := workaround_config hconfig hhost
    rw [hcmdLen]
    exact t3tScan_congr fun j hj _ => hbytes j hj
  constructor
  · rintro ⟨hstores, hpacket⟩
    rw [extendedStores_fit, hfrontReads, hworkReads] at hstores
    obtain ⟨hdiscover, hmap, hflags⟩ := hstores
    refine ⟨hdiscover, fun hreads hcase => ?_, fun hcb hicode hclock => ?_, fun hconfig hhost => ?_⟩
    · have hsame := front_of_map hreads
      have hroom := hmap hreads
      rw [hsame.reads (by decide), hsame.icodeDetected, hsame.cmdLen] at hroom
      exact hroom hcase
    · have hfits := hpacket (extended_of_clock retval hclock) hcb
      have hbytes : s.pCmdData 0 = 0x20 ∧ s.pCmdData 1 = 0x02 ∧ s.pCmdData 3 = 0x04 := by
        simp only [Memory.reads, Bool.and_eq_true, beq_iff_eq] at hclock
        exact ⟨hclock.1, hclock.2.1, hclock.2.2.2.1⟩
      have hconfig : s.pCmdData.reads 0 [0x20, 0x02] = true := by
        simp [Memory.reads, hbytes.1, hbytes.2.1]
      have hhost : s.pCmdData.reads 3 [0x81, 0x01, 0x03] = false := by
        simp [Memory.reads, hbytes.2.2]
      rw [extended, swapT3tFlags_cmdLen, (workaround_config hconfig hhost).2.1, configLen,
        if_pos (by simp [clockPatches, hicode, hclock])] at hfits
      exact hfits
    · rw [← hscan hconfig hhost]
      exact hflags hconfig
  · intro hroom
    -- the discovery map keeps its length up to the workarounds
    have hmap : s.pCmdData.reads 0 [0x21, 0x00] = true →
        (retval = 1 ∨ s.front.2.pCmdData.reads 3 [0x81, 0x01, 0x03] = false ∧
          s.front.2.icodeDetected = 0) → s.front.2.cmdLen + 3 ≤ nciMaxDataLen := by
      intro hreads
      have hsame := front_of_map hreads
      rw [hsame.reads (by decide), hsame.icodeDetected, hsame.cmdLen]
      exact hroom.map hreads
    constructor
    · rw [extendedStores_fit, hfrontReads, hworkReads]
      refine ⟨hroom.discover, hmap, fun hconfig i hi => ?_⟩
      cases hhost : s.pCmdData.reads 3 [0x81, 0x01, 0x03] with
      | true =>
        rw [scan_of_hostList retval hconfig hhost] at hi
        have hlt := t3tScan_lt hi
        exact (by omega : i + 4 ≤ 300)
      | false => exact hroom.flags hconfig hhost i (hscan hconfig hhost ▸ hi)
    · intro _ hcb
      rw [extended, swapT3tFlags_cmdLen]
      refine workaround_cmdLen_le (by decide) ?_ ?_ fun hicode hclock => ?_
      · rcases s.front_cmdLen_cases with heq | heq | ⟨hflag, hpoll, heq⟩
        · rw [heq]
          decide
        · rw [heq]
          exact hlen
        · rw [heq]
          exact hroom.discover hflag hpoll
      · rw [hfrontReads]
        exact hmap
      · -- a clock setting has come unchanged so far
        have hhead : s.front.2.pCmdData 0 = 0x20 := by
          simp only [Memory.reads, Bool.and_eq_true, beq_iff_eq] at hclock
          exact hclock.1
        have hfirst : s.pCmdData 0 = 0x20 := (front_header (by omega) (by decide)).symm.trans hhead
        have hsame : SameFront s s.front.2 := sameFront_front (by simp [Memory.reads, hfirst])
        rw [hsame.cmdLen]
        exact hroom.clock hcb (hsame.icodeDetected.symm.trans hicode)
          ((hsame.reads (by decide)).symm.trans hclock)

end

/-- The bounds of the packet, read off its bytes. -/
theorem roomLeft_copied_iff (h6 : 6 ≤ data.length) :
    (s.copied data).RoomLeft retval cbData ↔
      (s.dtaCtrlFlag = true → [0x21, 0x03] <+: data → data.length + 6 ≤ nciMaxDataLen) ∧
      ([0x21, 0x00] <+: data →
        (retval = 1 ∨ ¬[0x81, 0x01, 0x03] <+: data.drop 3 ∧ s.icodeDetected = 0) →
          data.length + 3 ≤ nciMaxDataLen) ∧
      (cbData = true → s.icodeDetected = 0 → [0x20, 0x02, 0x09, 0x04] <+: data →
        data.length + 1 ≤ nciMaxDataLen) ∧
      ([0x20, 0x02] <+: data → ¬[0x81, 0x01, 0x03] <+: data.drop 3 →
        ∀ i, t3tScan (s.copied data).configPatched (s.copied data).configLen 4 = some i →
          i + 4 ≤ nciMaxDataLen) := by
  have hreads : ∀ bs : List UInt8, bs.length ≤ 6 →
      ((s.copied data).pCmdData.reads 0 bs = true ↔ bs <+: data) := by
    intro bs hbs
    exact Memory.reads_put_zero_iff (by omega)
  have hhost : (s.copied data).pCmdData.reads 3 [0x81, 0x01, 0x03] = false ↔
      ¬[0x81, 0x01, 0x03] <+: data.drop 3 := by
    rw [← Bool.not_eq_true]
    exact not_congr (Memory.reads_put_zero_iff h6)
  constructor
  · rintro ⟨hdiscover, hmap, hclock, hflags⟩
    rw [hreads _ (by decide)] at hdiscover hmap hclock hflags
    rw [hhost] at hmap hflags
    exact ⟨hdiscover, hmap, hclock, hflags⟩
  · rintro ⟨hdiscover, hmap, hclock, hflags⟩
    rw [← hreads _ (by decide)] at hdiscover hmap hclock hflags
    rw [← hhost] at hmap hflags
    exact ⟨hdiscover, hmap, hclock, hflags⟩

/-- The stores of a call that comes as far as the extensions. -/
theorem writeCall_bounded_iff (hopen : s.isOpen = true) (hlen : data.length ≤ nciMaxDataLen) :
    (∀ e ∈ (s.phNxpNciHalWriteCall retval tml eof data).stores, e.FitsIn nciMaxDataLen) ↔
      (s.copied data).phNxpNciHalNfcDepCmdExt.StagesFit retval tml.cbData := by
  have hcopy : (⟨0, data.length⟩ : Extent).FitsIn nciMaxDataLen :=
    (Nat.zero_add _).trans_le hlen
  have heof : (⟨0, cmdIcodeEof.length⟩ : Extent).FitsIn nciMaxDataLen := by decide
  have heofStores : ∀ e ∈ (eof.phNxpNciHalWriteUnlocked cmdIcodeEof).stores,
      e.FitsIn nciMaxDataLen := Transport.writeUnlocked_stores_fit.2 fun _ => by decide
  have hstages : (s.copied data).phNxpNciHalNfcDepCmdExt.extended retval =
      (s.copied data).phNxpNciHalWriteExt retval := (writeExt_stages retval _).symm
  have hfits : (s.copied data).phNxpNciHalNfcDepCmdExt.StagesFit retval tml.cbData ↔
      (∀ e ∈ (s.copied data).writeExtStores retval, e.FitsIn nciMaxDataLen) ∧
        (((s.copied data).phNxpNciHalWriteExt retval).1 = NFCSTATUS.success →
          tml.cbData = true → ((s.copied data).phNxpNciHalWriteExt retval).2.cmdLen ≤
            nciMaxDataLen) := by
    rw [← hstages]
    exact ⟨fun h => ⟨h.stores, h.packet⟩, fun h => ⟨h.1, h.2⟩⟩
  have hlong : ¬nciMaxDataLen < (s.copied data).cmdLen := Nat.not_lt.2 hlen
  rw [hfits, phNxpNciHalWriteCall, if_pos hopen]
  extract_lets c copy r ext u e
  rw [if_neg hlong]
  have hu : (∀ e ∈ u.stores, e.FitsIn nciMaxDataLen) ↔
      (tml.cbData = true → r.2.cmdLen ≤ nciMaxDataLen) := by
    have hstores : (∀ e ∈ u.stores, e.FitsIn nciMaxDataLen) ↔ (tml.cbData = true →
        (r.2.pCmdData.slice r.2.cmdLen).length ≤ nciMaxDataLen) := Transport.writeUnlocked_stores_fit
    rwa [Memory.slice_length] at hstores
  by_cases hstatus : r.1 = NFCSTATUS.success
  · rw [if_neg (not_not.2 hstatus), forall_prop_of_true hstatus, ← hu]
    split
    · rw [List.forall_mem_cons, and_iff_right hcopy, List.forall_mem_append,
        List.forall_mem_append, List.forall_mem_cons, and_iff_right heof, and_iff_left heofStores]
    · rw [List.forall_mem_cons, and_iff_right hcopy, List.forall_mem_append]
  · rw [if_pos hstatus, List.forall_mem_cons, and_iff_right hcopy]
    exact (and_iff_left fun h => absurd h hstatus).symm

/-- A call that comes as far as the extensions returns zero where nothing happens. -/
theorem writeCall_zero (hopen : s.isOpen = true) (hlen : data.length ≤ nciMaxDataLen)
    (hwritten : (s.phNxpNciHalWriteCall retval tml eof data).written = [])
    (hemulated : (s.phNxpNciHalWriteCall retval tml eof data).emulated = false) :
    (s.phNxpNciHalWriteCall retval tml eof data).returned = 0 := by
  have hlong : ¬nciMaxDataLen < (s.copied data).cmdLen := Nat.not_lt.2 hlen
  rw [phNxpNciHalWriteCall, if_pos hopen] at hwritten hemulated ⊢
  extract_lets at hwritten hemulated ⊢
  rw [if_neg hlong] at hwritten hemulated ⊢
  by_cases hstatus : ((s.copied data).phNxpNciHalWriteExt retval).1 = NFCSTATUS.success
  · rw [if_neg (not_not.2 hstatus)] at hwritten ⊢
    split at hwritten
    · rename_i hdue
      rw [if_pos hdue]
      exact Transport.writeUnlocked_of_silent (List.append_eq_nil_iff.1 hwritten).1
    · rename_i hdue
      rw [if_neg hdue]
      exact Transport.writeUnlocked_of_silent hwritten
  · rw [if_pos hstatus] at hemulated
    cases hemulated

end HalState

open HalState in
/-- A call keeps its bounds and its result exactly when the HAL is open and there is room for the packet
with what is appended to it. -/
theorem honours_iff (retval : ℕ) (tml eof : Transport) (data : List UInt8) (s : HalState) :
    Honours s data (s.phNxpNciHalWriteCall retval tml eof data) ↔ WriteFits retval tml data s := by
  by_cases hopen : s.isOpen = true
  · by_cases hlen : data.length ≤ nciMaxDataLen
    · -- what is left are the stores
      have hhonours : Honours s data (s.phNxpNciHalWriteCall retval tml eof data) ↔
          (s.copied data).phNxpNciHalNfcDepCmdExt.StagesFit retval tml.cbData := by
        rw [← writeCall_bounded_iff hopen hlen]
        refine ⟨fun h => h.bounded, fun h => ⟨h, ?_, writeCall_zero hopen hlen⟩⟩
        rintro (hlong | hclosed)
        · exact absurd hlong (Nat.not_lt.2 hlen)
        · rw [hopen] at hclosed
          cases hclosed
      obtain ⟨poll, hdep⟩ := (s.copied data).nfcDepCmdExt_eq
      rw [hhonours, hdep]
      by_cases hshort : data.length ≤ 250
      · have hroom := roomLeft_of_short (s := s.copied data) retval tml.cbData hshort
        refine iff_of_true (stagesFit_of_short retval tml.cbData hshort)
          ⟨hopen, hlen, fun _ _ => ?_, fun _ _ => ?_, fun _ _ _ => ?_, fun _ _ i hi => ?_⟩
        · exact (by omega : data.length + 6 ≤ 300)
        · exact (by omega : data.length + 3 ≤ 300)
        · exact (by omega : data.length + 1 ≤ 300)
        · exact configScan_of_short (s := s.copied data) hshort hi
      · have h6 : 6 ≤ data.length := by omega
        rw [stagesFit_iff (by exact h6) retval tml.cbData (by exact hlen)]
        have hsame : ({ s.copied data with cmdPoll := poll } : HalState).RoomLeft retval tml.cbData ↔
            (s.copied data).RoomLeft retval tml.cbData :=
          ⟨fun h => ⟨h.discover, h.map, h.clock, h.flags⟩,
            fun h => ⟨h.discover, h.map, h.clock, h.flags⟩⟩
        rw [hsame, roomLeft_copied_iff h6]
        exact ⟨fun h => ⟨hopen, hlen, h.1, h.2.1, h.2.2.1, h.2.2.2⟩,
          fun h => ⟨h.discover, h.map, h.clock, h.flags⟩⟩
    · -- the copy itself ends behind the buffer
      refine iff_of_false (fun h => ?_) fun h => hlen h.length
      have hlong : nciMaxDataLen < (s.copied data).cmdLen := Nat.not_le.1 hlen
      have hbounded := h.bounded
      rw [phNxpNciHalWriteCall, if_pos hopen] at hbounded
      extract_lets c copy r ext u e at hbounded
      rw [if_pos hlong, List.forall_mem_singleton] at hbounded
      exact hlen ((Nat.zero_add _).symm.trans_le hbounded)
  · -- the status of a closed HAL is not zero
    refine iff_of_false (fun h => ?_) fun h => hopen h.isOpen
    have hzero := h.zero
    rw [phNxpNciHalWriteCall, if_neg hopen] at hzero
    exact absurd (hzero rfl rfl) (by decide)

/-- The writer thread takes the packet. -/
def taken : Transport := ⟨true, fun _ => .completed true, false⟩

/-- `CORE_RESET_CMD` to a HAL that is closed. -/
theorem not_honours_closed :
    ¬Honours { HalState.init with isOpen := false } [0x20, 0x00, 0x01, 0x00]
      (({ HalState.init with isOpen := false } : HalState).phNxpNciHalWriteCall 0 taken taken
        [0x20, 0x00, 0x01, 0x00]) := by
  intro h
  exact absurd (h.zero rfl rfl) (by decide)

end AliceHal.Pn54x.Hal
