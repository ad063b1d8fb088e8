import AliceHal.Pn54x.Hal.Icode

/-!
# The Cached Discovery Commands

`phNxpNciHal_core_reset_recovery` starts the discovery again with `discovery_cmd`, and the priority
logic polls with `cmd_poll`. Both are filled on the way of an `RF_DISCOVER_CMD` to the NFCC: the one
after the packet was changed, in one branch of the workarounds, the other before, without a look at
its length. Neither is taken back where the transport fails afterwards, and the commands that the HAL
sends on its own pass both by.

- `phNxpNciHalCoreResetRecovery`: what the recovery sends
- `Delivery`: what the transport makes of a packet
- `HalState.CachesDiscovery`: the commands that the caches follow
- `Discovery.step`: writes, and whatever else the HAL does without touching the caches
- `recovery_replays`: after a run of such writes the recovery starts the discovery in force
-/

namespace AliceHal.Pn54x.Hal

/-! ## The recovery -/

/-- What the NFCC does in one pass of the recovery. -/
structure RecoveryPass where
  /-- `phTmlNfc_IoCtl` resets the device -/
  resetDevice : Bool
  coreReset : Bool
  /-- `nci_info.nci_version` after the reset -/
  nciVersion : UInt8
  coreInit : Bool
  discover : Bool

/-- The commands of the recovery. -/
inductive RecoveryCmd where
  | cmdResetNci
  | cmdInitNci
  | cmdInitNci20
  | discoveryCmd (cmd : List UInt8)
  deriving DecidableEq, Repr

/-- The end of a pass. -/
inductive PassEnd where
  | success
  | retry
  | failure
  deriving DecidableEq, Repr

/-- One pass from `retry_core_init` on: the commands sent, and how it ends. -/
def recoveryPass (discoveryCmd : List UInt8) (a : RecoveryPass) : List RecoveryCmd × PassEnd :=
  let init := if a.nciVersion = nciVersion20 then .cmdInitNci20 else .cmdInitNci
  if a.resetDevice = false then ([], .failure)
  else if a.coreReset = false then ([.cmdResetNci], .retry)
  else if a.coreInit = false then ([.cmdResetNci, init], .retry)
  else ([.cmdResetNci, init, .discoveryCmd discoveryCmd], if a.discover then .success else .retry)

/-- The passes that are left. -/
def retryCoreInit (discoveryCmd : List UInt8) (answer : ℕ → RecoveryPass) : ℕ → List RecoveryCmd × Bool
  | 0 => ([], false)
  | left + 1 =>
    let r := recoveryPass discoveryCmd (answer left)
    match r.2 with
    | .success => (r.1, true)
    | .failure => (r.1, false)
    | .retry =>
      let rest := retryCoreInit discoveryCmd answer left
      (r.1 ++ rest.1, rest.2)

/-- `phNxpNciHal_core_reset_recovery`: the commands sent, and whether it returns; else it aborts. -/
def phNxpNciHalCoreResetRecovery (discoveryCmd : List UInt8) (answer : ℕ → RecoveryPass) :
    List RecoveryCmd × Bool :=
  if discoveryCmd.length = 0 then ([], false) else retryCoreInit discoveryCmd answer 4

/-- The recovery starts the discovery with the cached command only. -/
theorem recovery_discoveryCmd {discoveryCmd cmd : List UInt8} {answer : ℕ → RecoveryPass}
    (h : .discoveryCmd cmd ∈ (phNxpNciHalCoreResetRecovery discoveryCmd answer).1) :
    cmd = discoveryCmd ∧ discoveryCmd ≠ [] := by
  have hpass : ∀ a, RecoveryCmd.discoveryCmd cmd ∈ (recoveryPass discoveryCmd a).1 →
      cmd = discoveryCmd := by
    intro a ha
    unfold recoveryPass at ha
    extract_lets init at ha
    have hinit : RecoveryCmd.discoveryCmd cmd ≠ init := by
      by_cases hversion : a.nciVersion = nciVersion20
      · simp [init, hversion]
      · simp [init, hversion]
    split at ha
    · cases ha
    split at ha
    · simp at ha
    split at ha
    · simp [hinit] at ha
    · simpa [hinit] using ha
  have hretry : ∀ left, RecoveryCmd.discoveryCmd cmd ∈ (retryCoreInit discoveryCmd answer left).1 →
      cmd = discoveryCmd := by
    intro left
    induction left with
    | zero => exact fun ha => absurd ha List.not_mem_nil
    | succ left ih =>
      rw [retryCoreInit]
      extract_lets r
      split
      · exact hpass _
      · exact hpass _
      · exact fun ha => (List.mem_append.1 ha).elim (hpass _) ih
  unfold phNxpNciHalCoreResetRecovery at h
  split at h
  · exact absurd h List.not_mem_nil
  · rename_i hlen
    exact ⟨hretry 4 h, fun hnil => hlen (List.length_eq_zero_iff.2 hnil)⟩

/-! ## Writes and the caches -/

/-- The packet is an `RF_DISCOVER_CMD`. -/
def isDiscover (packet : List UInt8) : Bool := packet.take 2 == [0x21, 0x03]

/-- How `phNxpNciHal_write_unlocked` ends for a packet. -/
inductive Delivery where
  | delivered
  /-- the semaphore is not created, `phTmlNfc_Write` refuses, or all attempts fail -/
  | failed
  /-- the buffer is overwritten before another attempt, and these bytes are sent -/
  | overwritten (bytes : List UInt8)
  deriving DecidableEq, Repr

namespace Delivery

/-- What is handed to the NFCC. -/
def wire : Delivery → List UInt8 → List UInt8
  | .delivered, packet => packet
  | .failed, _ => []
  | .overwritten bytes, _ => bytes

/-- The bytes of an overwritten buffer are no `RF_DISCOVER_CMD`. -/
def Harmless : Delivery → Prop
  | .delivered | .failed => True
  | .overwritten bytes => isDiscover bytes = false

instance (d : Delivery) : Decidable d.Harmless :=
  match d with
  | .delivered | .failed => instDecidableTrue
  | .overwritten bytes => inferInstanceAs (Decidable (isDiscover bytes = false))

end Delivery

namespace HalState

/-- `phNxpNciHal_NfcDep_cmd_ext` stores the command. -/
def storesPoll (s : HalState) : Bool :=
  s.pCmdData.reads 0 [0x21, 0x03] && !(s.cmdLen = 6 && s.pCmdData.reads 3 [0x01, 0x02, 0x01])

/-- The state in which the extensions find a packet. -/
def copied (s : HalState) (data : List UInt8) : HalState :=
  { s with pCmdData := s.pCmdData.put 0 data, cmdLen := data.length }

/-- The length of an `RF_DISCOVER_CMD` after the changes. -/
def discoverLen (s : HalState) (len : ℕ) : ℕ :=
  if s.profileType = .emvCo then 8 else if s.dtaCtrlFlag then len + 6 else len

/-- An `RF_DISCOVER_CMD` that both caches follow: it fits into them, no tag is detected, it does not
have the bytes of the host list, and it gets to the NFCC. -/
structure FollowsDiscover (s : HalState) (data : List UInt8) (delivery : Delivery) : Prop where
  poll : data.length ≤ 64
  cache : s.discoverLen data.length ≤ 50
  icode : s.icodeDetected = 0
  hostList : s.profileType ≠ .emvCo →
    (s.pCmdData.put 0 data).reads 3 [if s.dtaCtrlFlag then 0x7E else 0x81, 0x01, 0x03] = false
  delivered : delivery = .delivered

/-- A packet of less than two bytes, where the buffer has the header of an `RF_DISCOVER_CMD`: it does
not become one, or it becomes the one of the EMVCo profile. -/
structure FollowsShort (s : HalState) (data : List UInt8) (delivery : Delivery) : Prop where
  emvCo : s.dtaCtrlFlag = false → s.profileType = .emvCo →
    s.icodeDetected = 0 ∧ delivery = .delivered
  hostList : s.dtaCtrlFlag = false → s.profileType ≠ .emvCo →
    (s.pCmdData.put 0 data).reads 3 [0x81, 0x01, 0x03] = false
  header : s.dtaCtrlFlag = false → s.profileType ≠ .emvCo → data.length = 1 → s.icodeDetected ≠ 0

/-- The caches follow the write. -/
def CachesDiscovery (s : HalState) (data : List UInt8) (delivery : Delivery) : Prop :=
  s.isOpen = true → data.length ≤ nciMaxDataLen →
    (s.pCmdData.put 0 data).reads 0 [0x21, 0x03] = true →
      if 2 ≤ data.length then s.FollowsDiscover data delivery else s.FollowsShort data delivery

instance (s : HalState) (data : List UInt8) (delivery : Delivery) :
    Decidable (s.FollowsDiscover data delivery) :=
  decidable_of_iff (data.length ≤ 64 ∧ s.discoverLen data.length ≤ 50 ∧ s.icodeDetected = 0 ∧
    (s.profileType ≠ .emvCo →
      (s.pCmdData.put 0 data).reads 3 [if s.dtaCtrlFlag then 0x7E else 0x81, 0x01, 0x03] = false) ∧
    delivery = .delivered)
    ⟨fun h => ⟨h.1, h.2.1, h.2.2.1, h.2.2.2.1, h.2.2.2.2⟩,
      fun h => ⟨h.poll, h.cache, h.icode, h.hostList, h.delivered⟩⟩

instance (s : HalState) (data : List UInt8) (delivery : Delivery) :
    Decidable (s.FollowsShort data delivery) :=
  decidable_of_iff ((s.dtaCtrlFlag = false → s.profileType = .emvCo →
      s.icodeDetected = 0 ∧ delivery = .delivered) ∧
    (s.dtaCtrlFlag = false → s.profileType ≠ .emvCo →
      (s.pCmdData.put 0 data).reads 3 [0x81, 0x01, 0x03] = false) ∧
    (s.dtaCtrlFlag = false → s.profileType ≠ .emvCo → data.length = 1 → s.icodeDetected ≠ 0))
    ⟨fun h => ⟨h.1, h.2.1, h.2.2⟩, fun h => ⟨h.emvCo, h.hostList, h.header⟩⟩

instance (s : HalState) (data : List UInt8) (delivery : Delivery) :
    Decidable (s.CachesDiscovery data delivery) :=
  inferInstanceAs (Decidable (s.isOpen = true → data.length ≤ nciMaxDataLen →
    (s.pCmdData.put 0 data).reads 0 [0x21, 0x03] = true →
      if 2 ≤ data.length then s.FollowsDiscover data delivery else s.FollowsShort data delivery))

end HalState

/-- What the HAL does next. -/
inductive DiscoveryInput where
  /-- `phNxpNciHal_write`, with the ends of its packet and of the EOF after it -/
  | write (retval : ℕ) (data : List UInt8) (delivery eof : Delivery)
  /-- anything that leaves the caches alone: received packets, the DTA mode, and the commands of the
  HAL, which `phNxpNciHal_send_ext_cmd` hands to the NFCC -/
  | other (sent : List (List UInt8)) (s : HalState)

/-- What is seen of a step. -/
structure DiscoveryOutput where
  /-- the packets handed to the NFCC -/
  handed : List (List UInt8)
  /-- the command that `phNxpNciHal_NfcDep_cmd_ext` is to store, and what `cmd_poll` holds then -/
  polled : Option (List UInt8 × List UInt8)

namespace Discovery

/-- After `phNxpNciHal_open`. -/
def start (s : HalState) : HalState := { s with discoveryCmd := [] }

/-- One step of the HAL. -/
def step (s : HalState) : DiscoveryInput → Option (HalState × DiscoveryOutput)
  | .write retval data delivery eof =>
    let r := s.phNxpNciHalWrite retval data
    let polls := s.isOpen && data.length ≤ nciMaxDataLen && (s.copied data).storesPoll
    some (r.1,
      { handed := List.zipWith Delivery.wire [delivery, eof] r.2.packets
        polled :=
          if polls then some ((s.copied data).pCmdData.slice data.length, r.1.cmdPoll) else none })
  | .other sent u =>
    some ({ u with discoveryCmd := s.discoveryCmd, cmdPoll := s.cmdPoll }, ⟨sent, none⟩)

/-- The caches follow the step. The HAL sends an `RF_DISCOVER_CMD` of its own only if it is the one
in the cache, as the recovery does. -/
def Followed (s : HalState) : DiscoveryInput → Prop
  | .write _ data delivery eof =>
    s.CachesDiscovery data delivery ∧ delivery.Harmless ∧ eof.Harmless
  | .other sent _ => ∀ packet ∈ sent, isDiscover packet = true → packet = s.discoveryCmd

instance (s : HalState) (i : DiscoveryInput) : Decidable (Followed s i) :=
  match i with
  | .write _ data delivery eof =>
    inferInstanceAs (Decidable (s.CachesDiscovery data delivery ∧ delivery.Harmless ∧ eof.Harmless))
  | .other sent _ => inferInstanceAs (Decidable (∀ packet ∈ sent, isDiscover packet = true →
      packet = s.discoveryCmd))

/-- The `RF_DISCOVER_CMD` that was handed to the NFCC last, empty before the first one. -/
def lastDiscover (es : List (DiscoveryInput × DiscoveryOutput)) : List UInt8 :=
  ((es.flatMap fun e => e.2.handed).filter isDiscover).getLastD []

end Discovery

/-! ## What the extensions do to the cache -/

namespace HalState

variable {retval : ℕ} {status : NFCSTATUS} {s u : HalState}

theorem isDiscover_slice {p : Lib.Memory} {n : ℕ} :
    isDiscover (p.slice n) = (decide (2 ≤ n) && p.reads 0 [0x21, 0x03]) := by
  rcases n with _ | _ | n
  · rfl
  · simp [isDiscover, Lib.Memory.slice, List.range_succ]
  · have htake : (p.slice (n + 2)).take 2 = [p 0, p 1] := by
      rw [Lib.Memory.slice, ← List.map_take, List.take_range]
      simp [List.range_succ]
    rw [isDiscover, htake]
    simp [Lib.Memory.reads]

/-- A packet that is none leaves the last one in force. -/
theorem finishWrite_of_other {r : NFCSTATUS × HalState}
    (h : isDiscover (r.2.pCmdData.slice r.2.cmdLen) = false) :
    (finishWrite r).1.discoveryCmd = r.2.discoveryCmd ∧
      (finishWrite r).2.packets.filter isDiscover = [] := by
  have heof : isDiscover cmdIcodeEof = false := rfl
  unfold finishWrite
  dsimp only
  split
  · exact ⟨rfl, rfl⟩
  split
  · exact ⟨rfl, by simp [WriteOutcome.packets, h, heof]⟩
  · exact ⟨rfl, by simp [WriteOutcome.packets, h]⟩

/-- Bytes appended to a discovery map leave its second byte, or replace it. -/
theorem reads_append_map {p : Lib.Memory} (h1 : p 1 = 0x00) (n : ℕ) :
    (p.put n [0x80, 0x01, 0x80]).reads 0 [0x21, 0x03] = false := by
  rcases n with _ | _ | n
  · rfl
  · exact Bool.and_false _
  · have hkeep : p.put (n + 2) [0x80, 0x01, 0x80] 1 = 0x00 := by
      rw [Lib.Memory.put_of_lt (by omega), h1]
    simp [Lib.Memory.reads, hkeep]

theorem commandWorkaround_of_not_poll (status : NFCSTATUS)
    (hpoll : u.pCmdData.reads 0 [0x21, 0x03] = false) :
    (u.commandWorkaround status).2.discoveryCmd = u.discoveryCmd ∧
      (u.commandWorkaround status).2.pCmdData.reads 0 [0x21, 0x03] = false := by
  unfold commandWorkaround
  extract_lets p q
  rw [if_neg (by rw [hpoll]; exact Bool.false_ne_true)]
  iterate 4 (split; · exact ⟨rfl, hpoll⟩)
  split
  · rename_i hmap
    simp only [Lib.Memory.reads, Bool.and_true, Bool.and_eq_true, beq_iff_eq] at hmap
    exact ⟨rfl, reads_append_map hmap.2 _⟩
  split
  · exact ⟨rfl, rfl⟩
  · exact ⟨rfl, hpoll⟩

/-- The workarounds make no `RF_DISCOVER_CMD` of another packet. -/
theorem workaround_of_not_poll (retval : ℕ) (status : NFCSTATUS)
    (hpoll : u.pCmdData.reads 0 [0x21, 0x03] = false) :
    (workaround retval status u).2.discoveryCmd = u.discoveryCmd ∧
      (workaround retval status u).2.pCmdData.reads 0 [0x21, 0x03] = false := by
  by_cases hmap : retval = 1 → u.pCmdData.reads 0 [0x21, 0x00] = false
  · by_cases hhost : u.pCmdData.reads 3 [0x81, 0x01, 0x03] = true
    · rw [workaround_of_hostList hmap hhost]
      exact ⟨rfl, hpoll⟩
    · rw [Bool.not_eq_true] at hhost
      by_cases hicode : u.icodeDetected = 0
      · rw [workaround_of_command hmap hhost hicode]
        exact commandWorkaround_of_not_poll status hpoll
      · obtain ⟨b, eof, heq⟩ := u.icodeCommand_eq
        rw [workaround_of_icode hmap hhost hicode, heq]
        exact ⟨rfl, hpoll⟩
  · push Not at hmap
    have hreads : u.pCmdData.reads 0 [0x21, 0x00] = true := by simpa using hmap.2
    rw [workaround_of_mifare hmap.1 hreads]
    simp only [Lib.Memory.reads, Bool.and_true, Bool.and_eq_true, beq_iff_eq] at hreads
    exact ⟨rfl, reads_append_map hreads.2 _⟩

theorem swapT3tFlags_header (r : NFCSTATUS × HalState) :
    (swapT3tFlags r).2.pCmdData.reads 0 [0x21, 0x03] = r.2.pCmdData.reads 0 [0x21, 0x03] := by
  unfold swapT3tFlags
  extract_lets p
  split
  · split
    · rename_i i hscan
      have hi := t3tScan_ge hscan
      refine Lib.Memory.reads_congr fun k hk => Lib.Memory.put_of_lt ?_
      simp only [List.length_cons, List.length_nil] at hk
      omega
    · rfl
  · rfl

theorem finish_of_not_poll (hpoll : u.pCmdData.reads 0 [0x21, 0x03] = false) :
    (finishWrite (swapT3tFlags (workaround retval status u))).1.discoveryCmd = u.discoveryCmd ∧
      (finishWrite (swapT3tFlags (workaround retval status u))).2.packets.filter isDiscover = [] := by
  obtain ⟨hcache, hheader⟩ := workaround_of_not_poll retval status hpoll
  have hother : isDiscover ((swapT3tFlags (workaround retval status u)).2.pCmdData.slice
      (swapT3tFlags (workaround retval status u)).2.cmdLen) = false := by
    rw [isDiscover_slice, swapT3tFlags_header, hheader, Bool.and_false]
  obtain ⟨hkeep, hnone⟩ := finishWrite_of_other hother
  exact ⟨hkeep.trans ((sameMarks_swapT3tFlags _).discoveryCmd.trans hcache), hnone⟩

theorem map_of_poll (retval : ℕ) (hpoll : u.pCmdData.reads 0 [0x21, 0x03] = true) :
    (retval = 1 → u.pCmdData.reads 0 [0x21, 0x00] = false) ∧
      u.pCmdData.reads 0 [0x20, 0x02] = false := by
  simp only [Lib.Memory.reads, Bool.and_true, Bool.and_eq_true, beq_iff_eq] at hpoll
  exact ⟨fun _ => by simp [Lib.Memory.reads, hpoll.2], by simp [Lib.Memory.reads, hpoll.1]⟩

/-- An `RF_DISCOVER_CMD` that reaches its branch is stored as it is sent. -/
theorem finish_of_poll (hpoll : u.pCmdData.reads 0 [0x21, 0x03] = true)
    (hhost : u.pCmdData.reads 3 [0x81, 0x01, 0x03] = false) (hicode : u.icodeDetected = 0)
    (h2 : 2 ≤ u.cmdLen) (h50 : u.cmdLen ≤ 50) :
    (finishWrite (swapT3tFlags (workaround retval NFCSTATUS.success u))).1.discoveryCmd =
        u.pCmdData.slice u.cmdLen ∧
      (finishWrite (swapT3tFlags (workaround retval NFCSTATUS.success u))).2 =
        .sent [u.pCmdData.slice u.cmdLen] := by
  obtain ⟨hmap, hconfig⟩ := map_of_poll retval hpoll
  have hstore : ({ u with icodeDetected := 0, icodeSendEof := 0 } :
      HalState).phNxpNciHalDiscoveryCmdExt =
        { u with
          icodeDetected := 0
          icodeSendEof := 0
          discoveryCmd := u.pCmdData.slice u.cmdLen } := by
    refine if_pos ?_
    rw [Bool.and_eq_true, decide_eq_true_eq, decide_eq_true_eq]
    exact ⟨Nat.lt_of_lt_of_le Nat.zero_lt_two h2, h50⟩
  have heq : workaround retval NFCSTATUS.success u = (NFCSTATUS.success,
      { u with
        icodeDetected := 0
        icodeSendEof := 0
        discoveryCmd := u.pCmdData.slice u.cmdLen }) := by
    rw [workaround_of_command hmap hhost hicode, commandWorkaround, if_pos hpoll, hstore]
  rw [heq, swapT3tFlags_of_other hconfig]
  exact ⟨rfl, rfl⟩

/-- A header that is not sent is not stored. -/
theorem finish_of_short (hpoll : u.pCmdData.reads 0 [0x21, 0x03] = true)
    (hhost : u.pCmdData.reads 3 [0x81, 0x01, 0x03] = false) (h2 : u.cmdLen < 2)
    (hicode : u.cmdLen = 1 → u.icodeDetected ≠ 0) :
    (finishWrite (swapT3tFlags (workaround retval status u))).1.discoveryCmd = u.discoveryCmd ∧
      (finishWrite (swapT3tFlags (workaround retval status u))).2.packets.filter isDiscover = [] := by
  obtain ⟨hmap, -⟩ := map_of_poll retval hpoll
  have hkept : (workaround retval status u).2.discoveryCmd = u.discoveryCmd ∧
      (workaround retval status u).2.cmdLen = u.cmdLen := by
    by_cases hdetected : u.icodeDetected = 0
    · have hzero : u.cmdLen = 0 := by
        by_contra hne
        exact hicode (by omega) hdetected
      have hstore : ({ u with icodeDetected := 0, icodeSendEof := 0 } :
          HalState).phNxpNciHalDiscoveryCmdExt = { u with icodeDetected := 0, icodeSendEof := 0 } :=
        if_neg (by simp [hzero])
      rw [workaround_of_command hmap hhost hdetected, commandWorkaround, if_pos hpoll, hstore]
      exact ⟨rfl, rfl⟩
    · obtain ⟨b, eof, heq⟩ := u.icodeCommand_eq
      rw [workaround_of_icode hmap hhost hdetected, heq]
      exact ⟨rfl, rfl⟩
  have hlen : (swapT3tFlags (workaround retval status u)).2.cmdLen < 2 := by
    rw [(adds_swapT3tFlags _).cmdLen, hkept.2]
    exact h2
  obtain ⟨hkeep, hnone⟩ := finishWrite_of_other (r := swapT3tFlags (workaround retval status u))
    (by rw [isDiscover_slice, decide_eq_false (Nat.not_le.2 hlen), Bool.false_and])
  exact ⟨hkeep.trans ((sameMarks_swapT3tFlags _).discoveryCmd.trans hkept.1), hnone⟩

/-- The write leaves the cache, and sends no `RF_DISCOVER_CMD`. -/
def KeepsDiscover (s : HalState) (r : HalState × WriteOutcome) : Prop :=
  r.1.discoveryCmd = s.discoveryCmd ∧ r.2.packets.filter isDiscover = []

/-- The write sends the `RF_DISCOVER_CMD` with which it fills the cache. -/
def StoresDiscover (r : HalState × WriteOutcome) : Prop :=
  r.2.packets = [r.1.discoveryCmd] ∧ isDiscover r.1.discoveryCmd = true ∧
    r.1.discoveryCmd.length ≤ 50

theorem stores_of_sent {r : HalState × WriteOutcome} (hpoll : u.pCmdData.reads 0 [0x21, 0x03] = true)
    (h2 : 2 ≤ u.cmdLen) (h50 : u.cmdLen ≤ 50)
    (h : r.1.discoveryCmd = u.pCmdData.slice u.cmdLen ∧ r.2 = .sent [u.pCmdData.slice u.cmdLen]) :
    StoresDiscover r := by
  have hdiscover : isDiscover (u.pCmdData.slice u.cmdLen) = true := by
    rw [isDiscover_slice, hpoll, decide_eq_true h2, Bool.and_self]
  refine ⟨?_, ?_, ?_⟩
  · rw [h.1, h.2]
    rfl
  · rw [h.1]
    exact hdiscover
  · rw [h.1, Lib.Memory.slice_length]
    exact h50

/-- The packets that come to the extensions with another header. -/
theorem keeps_of_not_poll (retval : ℕ) (hpoll : s.pCmdData.reads 0 [0x21, 0x03] = false) :
    s.KeepsDiscover (finishWrite (swapT3tFlags (workaround retval s.front.1 s.front.2))) := by
  have hfront : s.front.2.pCmdData.reads 0 [0x21, 0x03] = false :=
    ((sameFront_front hpoll).reads (by decide)).trans hpoll
  obtain ⟨hkeep, hnone⟩ := finish_of_not_poll (u := s.front.2) hfront
  exact ⟨hkeep.trans (sameMarks_front s).discoveryCmd, hnone⟩

/-- In the DTA mode the first technology becomes the host list, or it does not. -/
theorem dtaUpdate_hostList (h2 : 2 ≤ s.cmdLen) (hpoll : s.pCmdData.reads 0 [0x21, 0x03] = true)
    (hflag : s.dtaCtrlFlag = true) (hother : s.pCmdData.reads 3 [0x7E, 0x01, 0x03] = false) :
    s.phNxpNHalDtaUpdate.2.pCmdData.reads 3 [0x81, 0x01, 0x03] = false := by
  obtain ⟨-, hbytes, -⟩ := dtaUpdate_of_poll h2 hpoll hflag
  rw [← Bool.not_eq_true, Lib.Memory.reads_eq_true]
  intro hreads
  have h3 := (hbytes 3 (by decide)).symm.trans (hreads 0 (by decide))
  have h4 := (hbytes 4 (by decide)).symm.trans (hreads 1 (by decide))
  have h5 := (hbytes 5 (by decide)).symm.trans (hreads 2 (by decide))
  rcases Nat.lt_or_ge s.cmdLen 6 with hshort | hlong
  · -- the bytes that are appended reach into the first technology
    obtain hn | hn | hn | hn : s.cmdLen = 2 ∨ s.cmdLen = 3 ∨ s.cmdLen = 4 ∨ s.cmdLen = 5 := by omega
    · rw [hn] at h3
      exact absurd h3 (by decide : (0x01 : UInt8) ≠ 0x81)
    · rw [hn] at h3
      exact absurd h3 (by decide : (0x80 : UInt8) ≠ 0x81)
    · rw [hn] at h4
      exact absurd h4 (by decide : (0x80 : UInt8) ≠ 0x01)
    · rw [hn] at h5
      exact absurd h5 (by decide : (0x80 : UInt8) ≠ 0x03)
  · rw [Lib.Memory.put_of_lt (by omega)] at h3 h4 h5
    have h3 : s.pCmdData 3 + 3 = 0x81 := h3
    have h4 : s.pCmdData 4 = 0x01 := h4
    have h5 : s.pCmdData 5 = 0x03 := h5
    have h7E : s.pCmdData 3 = 0x7E := by
      rw [← UInt8.add_sub_cancel (s.pCmdData 3) 3, h3]
      rfl
    simp [Lib.Memory.reads, h7E, h4, h5] at hother

/-- An `RF_DISCOVER_CMD` that is complete, as the DTA mode and the EMVCo profile leave it. -/
theorem stores_of_discover (retval : ℕ) (hpoll : s.pCmdData.reads 0 [0x21, 0x03] = true)
    (h2 : 2 ≤ s.cmdLen) (h50 : s.discoverLen s.cmdLen ≤ 50) (hicode : s.icodeDetected = 0)
    (hhost : s.profileType ≠ .emvCo →
      s.pCmdData.reads 3 [if s.dtaCtrlFlag then 0x7E else 0x81, 0x01, 0x03] = false) :
    StoresDiscover (finishWrite (swapT3tFlags (workaround retval s.front.1 s.front.2))) := by
  obtain ⟨hfront, hheader, hprofile⟩ := front_of_poll h2 hpoll
  have hdetected : s.front.2.icodeDetected = 0 := (sameMarks_front s).detected.trans hicode
  rw [hfront] at hdetected ⊢
  by_cases hemv : s.profileType = .emvCo
  · have hkeep := emvCoDiscover_of_poll (hprofile.trans hemv) hheader
    rw [hkeep] at hdetected ⊢
    exact stores_of_sent (u := { s.phNxpNHalDtaUpdate.2 with
      pCmdData := s.phNxpNHalDtaUpdate.2.pCmdData.put 2 [0x05, 0x02, 0x00, 0x01, 0x01, 0x01]
      cmdLen := 8 }) hheader (by decide : 2 ≤ 8) (by decide : 8 ≤ 50)
      (finish_of_poll hheader rfl hdetected (by decide : 2 ≤ 8) (by decide : 8 ≤ 50))
  have hkeep : s.phNxpNHalDtaUpdate.2.emvCoDiscover = s.phNxpNHalDtaUpdate.2 :=
    if_neg fun h => hemv (hprofile.symm.trans h)
  rw [hkeep] at hdetected ⊢
  by_cases hflag : s.dtaCtrlFlag = true
  · obtain ⟨-, -, -, hlen, -⟩ := dtaUpdate_of_poll h2 hpoll hflag
    rw [discoverLen, if_neg hemv, if_pos hflag, ← hlen] at h50
    have hother := hhost hemv
    rw [if_pos hflag] at hother
    have hlong : 2 ≤ s.phNxpNHalDtaUpdate.2.cmdLen := by omega
    exact stores_of_sent hheader hlong h50
      (finish_of_poll hheader (dtaUpdate_hostList h2 hpoll hflag hother) hdetected hlong h50)
  · have hsame : s.phNxpNHalDtaUpdate.2 = s := by
      rw [phNxpNHalDtaUpdate, if_neg hflag]
    rw [discoverLen, if_neg hemv, if_neg hflag] at h50
    have hother := hhost hemv
    rw [if_neg hflag] at hother
    rw [hsame]
    exact stores_of_sent hpoll h2 h50 (finish_of_poll hpoll hother hicode h2 h50)

/-- The bytes that the DTA mode appends replace the header of a packet that is too short. -/
theorem front_of_short (h2 : s.cmdLen < 2) (hpoll : s.pCmdData.reads 0 [0x21, 0x03] = true)
    (hflag : s.dtaCtrlFlag = true) : s.front.2.pCmdData.reads 0 [0x21, 0x03] = false := by
  have happend : ((s.pCmdData.put 2 [s.pCmdData 2 + 6, s.pCmdData 3 + 3]).put s.cmdLen
      [0x80, 0x01, 0x82, 0x01, 0x85, 0x01]).reads 0 [0x21, 0x03] = false := by
    obtain hn | hn : s.cmdLen = 0 ∨ s.cmdLen = 1 := by omega
    · rw [hn]
      rfl
    · rw [hn]
      exact Bool.and_false _
  have hdta : s.phNxpNHalDtaUpdate.2.pCmdData.reads 0 [0x21, 0x03] = false := by
    rw [phNxpNHalDtaUpdate, if_pos hflag, dtaCommand_of_poll hpoll]
    rcases dtaT1t_cases _ with heq | heq
    · rw [heq]
      exact happend
    · rw [heq]
      exact happend
  have hselect := ((sameFront_selectMode s.phNxpNHalDtaUpdate).reads (by decide)).trans hdta
  rw [front, emvCoDiscover_of_other hselect]
  exact hselect

/-- Without the DTA mode a packet with this header comes to the profile as it is. -/
theorem front_of_dta_off (hpoll : s.pCmdData.reads 0 [0x21, 0x03] = true)
    (hoff : s.dtaCtrlFlag = false) : s.front = (NFCSTATUS.success, s.emvCoDiscover) := by
  have hflag : ¬s.dtaCtrlFlag = true := by simp [hoff]
  have hsame : s.phNxpNHalDtaUpdate = (NFCSTATUS.success, s) := by
    rw [phNxpNHalDtaUpdate, if_neg hflag]
  obtain ⟨-, hconfig⟩ := map_of_poll 0 hpoll
  have hmode : s.pCmdData.reads 0 [0xFE, 0xFE, 0xFE] = false := by
    simp only [Lib.Memory.reads, Bool.and_true, Bool.and_eq_true, beq_iff_eq] at hpoll
    simp [Lib.Memory.reads, hpoll.1]
  rw [front, hsame, selectMode_of_other hconfig hmode]

/-- The EMVCo profile makes an `RF_DISCOVER_CMD` of a left-over header. -/
theorem stores_of_short (retval : ℕ) (hpoll : s.pCmdData.reads 0 [0x21, 0x03] = true)
    (hoff : s.dtaCtrlFlag = false) (hprofile : s.profileType = .emvCo) (hicode : s.icodeDetected = 0) :
    StoresDiscover (finishWrite (swapT3tFlags (workaround retval s.front.1 s.front.2))) := by
  rw [front_of_dta_off hpoll hoff, emvCoDiscover_of_poll hprofile hpoll]
  exact stores_of_sent (u := { s with
    pCmdData := s.pCmdData.put 2 [0x05, 0x02, 0x00, 0x01, 0x01, 0x01]
    cmdLen := 8 }) hpoll (by decide : 2 ≤ 8) (by decide : 8 ≤ 50)
    (finish_of_poll hpoll rfl hicode (by decide : 2 ≤ 8) (by decide : 8 ≤ 50))

/-- Otherwise a packet of less than two bytes does not become one. -/
theorem keeps_of_short (retval : ℕ) (hpoll : s.pCmdData.reads 0 [0x21, 0x03] = true)
    (h2 : s.cmdLen < 2) (hnot : ¬(s.dtaCtrlFlag = false ∧ s.profileType = .emvCo))
    (hhost : s.dtaCtrlFlag = false → s.profileType ≠ .emvCo →
      s.pCmdData.reads 3 [0x81, 0x01, 0x03] = false)
    (hone : s.dtaCtrlFlag = false → s.profileType ≠ .emvCo → s.cmdLen = 1 → s.icodeDetected ≠ 0) :
    s.KeepsDiscover (finishWrite (swapT3tFlags (workaround retval s.front.1 s.front.2))) := by
  by_cases hflag : s.dtaCtrlFlag = true
  · -- the DTA mode replaces the header
    obtain ⟨hkeep, hnone⟩ := finish_of_not_poll (u := s.front.2) (front_of_short h2 hpoll hflag)
    exact ⟨hkeep.trans (sameMarks_front s).discoveryCmd, hnone⟩
  have hoff : s.dtaCtrlFlag = false := by simpa using hflag
  have hprofile : s.profileType ≠ .emvCo := fun hemvCo => hnot ⟨hoff, hemvCo⟩
  have hkeep : s.emvCoDiscover = s := if_neg hprofile
  rw [front_of_dta_off hpoll hoff, hkeep]
  exact finish_of_short hpoll (hhost hoff hprofile) h2 (hone hoff hprofile)

/-- A write that the caches follow leaves the last `RF_DISCOVER_CMD` in force, or its packet is the
next one, which gets to the NFCC. -/
theorem write_discover (retval : ℕ) {data : List UInt8} {delivery : Delivery}
    (h : s.CachesDiscovery data delivery) :
    s.KeepsDiscover (s.phNxpNciHalWrite retval data) ∨
      delivery = .delivered ∧ StoresDiscover (s.phNxpNciHalWrite retval data) := by
  unfold phNxpNciHalWrite
  by_cases hopen : s.isOpen = true
  · rw [if_pos hopen]
    dsimp only
    by_cases hlen : nciMaxDataLen < data.length
    · rw [if_pos hlen]
      exact Or.inl ⟨rfl, rfl⟩
    rw [if_neg hlen]
    obtain ⟨poll, heq⟩ := (s.copied data).writeExt_eq retval
    have hext : finishWrite ((s.copied data).phNxpNciHalWriteExt retval) = _ :=
      congrArg finishWrite heq
    show s.KeepsDiscover (finishWrite ((s.copied data).phNxpNciHalWriteExt retval)) ∨
      delivery = .delivered ∧
        StoresDiscover (finishWrite ((s.copied data).phNxpNciHalWriteExt retval))
    rw [hext]
    by_cases hpoll : (s.pCmdData.put 0 data).reads 0 [0x21, 0x03] = true
    · have hfollows := h hopen (Nat.not_lt.1 hlen) hpoll
      split at hfollows
      · rename_i h2
        exact Or.inr ⟨hfollows.delivered, stores_of_discover
          (s := { s.copied data with cmdPoll := poll }) retval hpoll h2 hfollows.cache
          hfollows.icode hfollows.hostList⟩
      · rename_i h2
        by_cases hemvCo : s.dtaCtrlFlag = false ∧ s.profileType = .emvCo
        · obtain ⟨hicode, hdelivered⟩ := hfollows.emvCo hemvCo.1 hemvCo.2
          exact Or.inr ⟨hdelivered, stores_of_short (s := { s.copied data with cmdPoll := poll })
            retval hpoll hemvCo.1 hemvCo.2 hicode⟩
        · exact Or.inl (keeps_of_short (s := { s.copied data with cmdPoll := poll }) retval hpoll
            (Nat.not_le.1 h2) hemvCo hfollows.hostList hfollows.header)
    · exact Or.inl (keeps_of_not_poll (s := { s.copied data with cmdPoll := poll }) retval
        ((Bool.not_eq_true _).mp hpoll))
  · rw [if_neg hopen]
    exact Or.inl ⟨rfl, rfl⟩

theorem workaround_cmdPoll (retval : ℕ) (status : NFCSTATUS) (u : HalState) :
    (workaround retval status u).2.cmdPoll = u.cmdPoll := by
  unfold workaround
  extract_lets p
  split
  · rfl
  split
  · rfl
  split
  · obtain ⟨b, eof, heq⟩ := u.icodeCommand_eq
    rw [heq]
  unfold commandWorkaround
  extract_lets q
  split
  · obtain ⟨cmd, heq⟩ := discoveryCmdExt_eq { u with icodeDetected := 0, icodeSendEof := 0 }
    rw [heq]
  iterate 6 (split; · rfl)
  rfl

theorem finishWrite_cmdPoll (r : NFCSTATUS × HalState) : (finishWrite r).1.cmdPoll = r.2.cmdPoll := by
  unfold finishWrite
  extract_lets s
  split
  · rfl
  split
  · rfl
  · rfl

/-- The cache of the priority logic is filled first, and then left alone. -/
theorem write_cmdPoll (retval : ℕ) {data : List UInt8} (hopen : s.isOpen = true)
    (hlen : data.length ≤ nciMaxDataLen) (hstores : (s.copied data).storesPoll = true) :
    (s.phNxpNciHalWrite retval data).1.cmdPoll =
      (s.copied data).pCmdData.slice (data.length % 256) := by
  have hdep : (s.copied data).phNxpNciHalNfcDepCmdExt.cmdPoll =
      (s.copied data).pCmdData.slice (data.length % 256) := by
    rw [storesPoll, Bool.and_eq_true, Bool.not_eq_true'] at hstores
    rw [phNxpNciHalNfcDepCmdExt, if_pos hstores.1,
      if_neg (by rw [hstores.2]; exact Bool.false_ne_true)]
    rfl
  have hwrite : s.phNxpNciHalWrite retval data =
      finishWrite ((s.copied data).phNxpNciHalWriteExt retval) := by
    rw [phNxpNciHalWrite, if_pos hopen]
    exact if_neg (Nat.not_lt.2 hlen)
  rw [hwrite, finishWrite_cmdPoll, writeExt_stages, (sameMarks_swapT3tFlags _).cmdPoll,
    workaround_cmdPoll, (sameMarks_front _).cmdPoll, hdep]

end HalState

/-! ## Runs -/

namespace Discovery

variable {s u : HalState} {i : DiscoveryInput} {o : DiscoveryOutput}

theorem lastDiscover_concat (es : List (DiscoveryInput × DiscoveryOutput)) (i : DiscoveryInput)
    (o : DiscoveryOutput) :
    lastDiscover (es ++ [(i, o)]) = (o.handed.filter isDiscover).getLastD (lastDiscover es) := by
  rw [lastDiscover, lastDiscover, List.flatMap_append, List.filter_append, List.flatMap_singleton]
  rcases List.eq_nil_or_concat' (o.handed.filter isDiscover) with h | ⟨l, b, h⟩
  · rw [h, List.append_nil]
    rfl
  · rw [h, ← List.append_assoc, List.getLastD_concat, List.getLastD_concat]

/-- What is stored for the priority logic is the whole command, and it fits. -/
def PollFits (o : DiscoveryOutput) : Prop :=
  ∀ cmd stored, o.polled = some (cmd, stored) → stored = cmd ∧ cmd.length ≤ 64

/-- Packets that are none, and a transport that makes none of them. -/
theorem handed_of_none {deliveries : List Delivery} {packets : List (List UInt8)}
    (h : packets.filter isDiscover = []) (hharmless : ∀ d ∈ deliveries, d.Harmless) :
    (List.zipWith Delivery.wire deliveries packets).filter isDiscover = [] := by
  rw [List.filter_eq_nil_iff] at h ⊢
  intro bytes hbytes
  rw [← List.map_uncurry_zip_eq_zipWith] at hbytes
  obtain ⟨⟨d, packet⟩, hmem, rfl⟩ := List.mem_map.1 hbytes
  obtain ⟨hd, hpacket⟩ := List.of_mem_zip hmem
  cases d with
  | delivered => exact h packet hpacket
  | failed => exact Bool.false_ne_true
  | overwritten bytes =>
    have hother : isDiscover bytes = false := hharmless _ hd
    rw [Function.uncurry_apply_pair, Delivery.wire, hother]
    exact Bool.false_ne_true

/-- Commands that repeat the one in force leave it in force. -/
theorem getLastD_of_forall {l : List (List UInt8)} {last : List UInt8} (h : ∀ cmd ∈ l, cmd = last) :
    l.getLastD last = last := by
  cases l with
  | nil => rfl
  | cons cmd l =>
    rw [List.getLastD_cons]
    exact h _ (List.getLastD_mem_cons ..)

theorem step_pollFits (hfollowed : Followed s i) (hs : step s i = some (u, o)) : PollFits o := by
  cases i with
  | other sent v =>
    cases hs
    exact fun cmd stored h => nomatch h
  | write retval data delivery eof =>
    cases hs
    intro cmd stored h
    dsimp only at h
    split at h
    · rename_i hpolls
      rw [Bool.and_eq_true, Bool.and_eq_true, decide_eq_true_eq] at hpolls
      obtain ⟨⟨hopen, hlen⟩, hstores⟩ := hpolls
      cases h
      -- a command that is stored has the header of an `RF_DISCOVER_CMD`
      have hheader : (s.pCmdData.put 0 data).reads 0 [0x21, 0x03] = true := by
        rw [HalState.storesPoll, Bool.and_eq_true] at hstores
        exact hstores.1
      have hfits : data.length ≤ 64 := by
        have hfollows := hfollowed.1 hopen hlen hheader
        split at hfollows
        · exact hfollows.poll
        · omega
      rw [HalState.write_cmdPoll retval hopen hlen hstores, Nat.mod_eq_of_lt (by omega),
        Lib.Memory.slice_length]
      exact ⟨rfl, hfits⟩
    · cases h

/-- A step that the cache follows leaves it with the last `RF_DISCOVER_CMD`. -/
theorem step_cache (hfollowed : Followed s i) (hs : step s i = some (u, o)) {last : List UInt8}
    (h : s.discoveryCmd = last ∧ s.discoveryCmd.length ≤ 50) :
    u.discoveryCmd = (o.handed.filter isDiscover).getLastD last ∧ u.discoveryCmd.length ≤ 50 := by
  cases i with
  | other sent v =>
    cases hs
    refine ⟨?_, h.2⟩
    have hsame : ∀ cmd ∈ sent.filter isDiscover, cmd = last := by
      intro cmd hcmd
      obtain ⟨hmem, hdiscover⟩ := List.mem_filter.1 hcmd
      exact (hfollowed cmd hmem hdiscover).trans h.1
    exact h.1.trans (getLastD_of_forall hsame).symm
  | write retval data delivery eof =>
    cases hs
    obtain ⟨hcaches, hharmless, heof⟩ := hfollowed
    dsimp only
    rcases HalState.write_discover retval hcaches with ⟨hkeep, hnone⟩ | ⟨rfl, hsent, hdiscover, h50⟩
    · have hhanded : (List.zipWith Delivery.wire [delivery, eof]
          (s.phNxpNciHalWrite retval data).2.packets).filter isDiscover = [] := by
        refine handed_of_none hnone fun d hd => ?_
        rcases List.mem_pair.1 hd with rfl | rfl
        · exact hharmless
        · exact heof
      rw [hhanded, hkeep]
      exact h
    · rw [hsent, List.zipWith_cons_cons, Delivery.wire, List.zipWith_nil_right,
        List.filter_cons_of_pos hdiscover]
      exact ⟨rfl, h50⟩

end Discovery

open Discovery in
/-- After every run of writes that the caches follow, the recovery starts the discovery with the
`RF_DISCOVER_CMD` that was handed to the NFCC last; and no cache was written past its end, or with
another length than that of the command in it. -/
theorem recovery_replays (s : HalState) {es : List (DiscoveryInput × DiscoveryOutput)} {u : HalState}
    (hrun : Lib.Run (Lib.restrict Followed step) (start s) es u) :
    (∀ answer cmd, .discoveryCmd cmd ∈ (phNxpNciHalCoreResetRecovery u.discoveryCmd answer).1 →
        cmd = lastDiscover es ∧ cmd ≠ []) ∧
      u.discoveryCmd = lastDiscover es ∧ u.discoveryCmd.length ≤ 50 ∧
      ∀ e ∈ es, ∀ cmd stored, e.2.polled = some (cmd, stored) → stored = cmd ∧ cmd.length ≤ 64 := by
  have hcache : u.discoveryCmd = lastDiscover es ∧ u.discoveryCmd.length ≤ 50 := by
    induction hrun with
    | nil => exact ⟨rfl, Nat.zero_le _⟩
    | snoc _ hs ih =>
      obtain ⟨hfollowed, hs⟩ := Lib.restrict_eq_some.1 hs
      rw [lastDiscover_concat]
      exact step_cache hfollowed hs ih
  have hpoll : ∀ e ∈ es, PollFits e.2 := by
    refine (Lib.Run.outputs (I := fun _ => True) (Q := PollFits) (fun _ hs => ?_) hrun trivial).2
    obtain ⟨hfollowed, hs⟩ := Lib.restrict_eq_some.1 hs
    exact ⟨trivial, step_pollFits hfollowed hs⟩
  refine ⟨fun answer cmd hcmd => ?_, hcache.1, hcache.2, hpoll⟩
  obtain ⟨rfl, hne⟩ := recovery_discoveryCmd hcmd
  exact ⟨hcache.1, hne⟩

/-- An `RF_DISCOVER_CMD` with 31 configurations. -/
def longDiscover : List UInt8 :=
  [0x21, 0x03, 0x3F, 0x1F] ++ (List.replicate 31 [0x00, 0x01]).flatten

/-- A pass of the recovery in which the NFCC answers everything. -/
def answeredPass : RecoveryPass := ⟨true, true, 0x10, true, true⟩

open Discovery in
/-- After a longer `RF_DISCOVER_CMD` the recovery starts the discovery with the one before it, and
`cmd_poll` was written past its end. -/
theorem longDiscover_not_replayed :
    ∃ es u, Lib.Run step (start HalState.init) es u ∧ lastDiscover es = longDiscover ∧
      .discoveryCmd discoverCmd ∈
        (phNxpNciHalCoreResetRecovery u.discoveryCmd fun _ => answeredPass).1 ∧
      discoverCmd ≠ longDiscover ∧
      ∃ e ∈ es, ∃ cmd stored, e.2.polled = some (cmd, stored) ∧ 64 < stored.length := by
  refine ⟨_, _, Lib.run_of_exec (l := [.write 0 discoverCmd .delivered .delivered,
    .write 0 longDiscover .delivered .delivered]) rfl, rfl, ?_, by decide, _,
    List.mem_cons_of_mem _ List.mem_cons_self, _, _, rfl, by decide⟩
  decide

/-- An `RF_DISCOVER_CMD`, a data packet that does not get to the NFCC, a second `RF_DISCOVER_CMD`, and
the recovery, which sends the cached one. -/
def twoDiscovers : List DiscoveryInput :=
  [.write 0 discoverCmd .delivered .delivered, .write 0 [0x00, 0x00, 0x01, 0x30] .failed .failed,
    .write 0 [0x21, 0x03, 0x03, 0x01, 0x06, 0x01] .delivered .delivered,
    .other [[0x20, 0x00, 0x01, 0x00], [0x21, 0x03, 0x03, 0x01, 0x06, 0x01]] HalState.init]

open Discovery in
theorem twoDiscovers_replayed :
    ∃ es u, Lib.exec (Lib.restrict Followed step) (start HalState.init) twoDiscovers = some (es, u) ∧
      u.discoveryCmd = lastDiscover es ∧ lastDiscover es = [0x21, 0x03, 0x03, 0x01, 0x06, 0x01] :=
  ⟨_, _, rfl, (recovery_replays HalState.init (Lib.run_of_exec (l := twoDiscovers) rfl)).2.1, rfl⟩

end AliceHal.Pn54x.Hal
