import AliceHal.Pn54x.Hal.Ext

/-!
# Extensions of Incoming Packets

`phNxpNciHal_process_ext_rsp`, which changes packets on their way from the NFCC to the stack, and
`phNxpNciHal_ext_process_nfc_init_rsp` in it. The packet is handled in place: `Rx` is the memory
from its first byte on, with its length and a record of the indices that were read to decide.

`created` is the outcome of `pthread_create`. The bytes that are only logged are not recorded.

- `RxState`: the control block with what the receiving side adds to it
- `Rx.cond`: a condition of the source, evaluated from left to right
- `Rx.cond_rule`: how a condition is taken apart
- `RxState.phNxpNciHalProcessExtRsp`: the extensions, in the order of the source
- `RxState.phNxpNciHalReadComplete`: where the packet goes after them
-/

namespace AliceHal.Pn54x.Hal

/-- `nxpncihal_ctrl` and the globals of the receiving side. -/
structure RxState extends HalState where
  /-- `nci_info.nci_version` -/
  nciVersion : UInt8
  /-- `nci_info.wait_for_ntf` -/
  waitForNtf : Bool
  halExtEnabled : Bool
  nfcdepDetected : Bool
  eeDiscDone : UInt8
  cleanupTimer : ℕ
  rfDiscID : UInt8
  rfProtocolType : UInt8
  wFwVerRsp : ℕ
  fwMajVer : UInt8
  romVersion : UInt8
  /-- the memory from `bCoreInitRsp` on -/
  bCoreInitRsp : Lib.Memory
  iCoreInitRspLen : ℕ

/-- The state after `phNxpNciHal_open` has set its defaults. -/
def RxState.init : RxState where
  toHalState := .init
  nciVersion := 0
  waitForNtf := false
  halExtEnabled := false
  nfcdepDetected := false
  eeDiscDone := 0
  cleanupTimer := 0
  rfDiscID := 1
  rfProtocolType := 4
  wFwVerRsp := 0
  fwMajVer := 0
  romVersion := 0
  bCoreInitRsp := fun _ => 0
  iCoreInitRspLen := 0

/-- `NCI_VERSION_2_0`. -/
def nciVersion20 : UInt8 := 0x20

/-- `NCI_OID_MASK`. -/
def nciOidMask : UInt8 := 0x3F

/-- `NCI_MT_MASK`. -/
def nciMtMask : UInt8 := 0xE0

/-- `NCI_MT_RSP`. -/
def nciMtRsp : UInt8 := 0x40

/-- `NCI_MT_NTF`. -/
def nciMtNtf : UInt8 := 0x60

/-- The threads that the receiving side starts. -/
inductive HalThread where
  /-- `phNxpNciHal_core_reset_recovery` -/
  | coreResetRecovery
  /-- `tmp_thread` for `phNxpNciHal_select_RF_Discovery` -/
  | selectRfDiscovery (rfID rfProtocolType : UInt8)
  deriving DecidableEq, Repr

/-- A received packet: the memory from its first byte on, its length, the indices read to decide,
and what was started or stored outside of it. -/
structure Rx where
  pNtf : Lib.Memory
  pLen : ℕ
  seen : List ℕ
  started : List HalThread
  /-- the indices of `bCoreInitRsp` that were written -/
  coreInitStores : List ℕ

namespace Rx

variable {α : Type*}

/-- A packet as it comes in. -/
def received (pNtf : Lib.Memory) (pLen : ℕ) : Rx := ⟨pNtf, pLen, [], [], []⟩

/-- Bytes that are read in any case. -/
def look (x : Rx) (is : List ℕ) : Rx := { x with seen := x.seen ++ is }

/-- The comparison of these bytes. -/
def compare (x : Rx) (cs : List (ℕ × UInt8)) : Rx := x.look (x.pNtf.compared cs)

/-- A condition: first `before`, then the bytes one after the other, and then `after`. -/
def cond (x : Rx) (before : Bool) (cs : List (ℕ × UInt8)) (after : Bool) (yes no : Rx → α) : α :=
  if before then
    if x.pNtf.agrees cs && after then yes (x.compare cs) else no (x.compare cs)
  else no x

/-- The message type and the identifier of a control packet. -/
def condOid (x : Rx) (mt oid : UInt8) (yes no : Rx → α) : α :=
  x.cond true [(0, mt)] true
    (fun x => if x.pNtf 1 &&& nciOidMask = oid then yes (x.look [1]) else no (x.look [1])) no

/-- Stores of consecutive bytes. -/
def put (x : Rx) (i : ℕ) (bs : List UInt8) : Rx := { x with pNtf := x.pNtf.put i bs }

/-- The packet that is given to the stack instead. -/
def replace (x : Rx) (bs : List UInt8) : Rx := { x.put 0 bs with pLen := bs.length }

end Rx

/-! ## Rules for conditions -/

namespace Rx

variable {α : Type*} {x : Rx} {n : ℕ} {before after : Bool} {cs : List (ℕ × UInt8)}
  {yes no : Rx → α} {P : α → Prop}

/-- The packet with another record of what was read. -/
def saw (x : Rx) (l : List ℕ) : Rx := { x with seen := l }

@[simp]
theorem saw_pNtf (x : Rx) (l : List ℕ) : (x.saw l).pNtf = x.pNtf := rfl

@[simp]
theorem saw_pLen (x : Rx) (l : List ℕ) : (x.saw l).pLen = x.pLen := rfl

/-- What was read lies below `n`. -/
def Below (n : ℕ) (l : List ℕ) : Prop := ∀ i ∈ l, i < n

theorem Below.append {l l' : List ℕ} (h : Below n l) (h' : Below n l') : Below n (l ++ l') :=
  fun i hi => (List.mem_append.1 hi).elim (h i) (h' i)

theorem Below.compared {l : List ℕ} (h : Below n l) {p : Lib.Memory} (hcs : p.ComparedBelow n cs) :
    Below n (l ++ p.compared cs) :=
  h.append (Lib.Memory.forall_compared.2 hcs)

/-- A condition is taken apart into its two outcomes, with a property of what was read. -/
theorem cond_rule {I : List ℕ → Prop} (hseen : I x.seen)
    (hcs : before = true → I (x.seen ++ x.pNtf.compared cs))
    (hyes : ∀ l, I l → before = true → x.pNtf.agrees cs = true → after = true →
      P (yes (x.saw l)))
    (hno : ∀ l, I l → (before = true → x.pNtf.agrees cs = true → after = true → False) →
      P (no (x.saw l))) :
    P (x.cond before cs after yes no) := by
  unfold cond
  split
  · rename_i hbefore
    split
    · rename_i hagrees
      rw [Bool.and_eq_true] at hagrees
      exact hyes _ (hcs hbefore) hbefore hagrees.1 hagrees.2
    · rename_i hagrees
      rw [Bool.and_eq_true] at hagrees
      exact hno _ (hcs hbefore) fun _ h h' => hagrees ⟨h, h'⟩
  · rename_i hbefore
    exact hno x.seen hseen fun h => absurd h hbefore

/-- A condition whose comparison stays below `n`. -/
theorem cond_below (hseen : Below n x.seen)
    (hcs : before = true → x.pNtf.ComparedBelow n cs)
    (hyes : ∀ l, Below n l → before = true → x.pNtf.agrees cs = true → after = true →
      P (yes (x.saw l)))
    (hno : ∀ l, Below n l → (before = true → x.pNtf.agrees cs = true → after = true → False) →
      P (no (x.saw l))) :
    P (x.cond before cs after yes no) :=
  cond_rule hseen (fun h => hseen.compared (hcs h)) hyes hno

/-- A condition keeps what was read before. -/
theorem cond_grows
    (hyes : ∀ l, x.seen ⊆ l → before = true → x.pNtf.agrees cs = true → after = true →
      P (yes (x.saw l)))
    (hno : ∀ l, x.seen ⊆ l → (before = true → x.pNtf.agrees cs = true → after = true → False) →
      P (no (x.saw l))) :
    P (x.cond before cs after yes no) :=
  cond_rule (List.Subset.refl _) (fun _ => List.subset_append_left _ _) hyes hno

/-- What holds of both outcomes. -/
theorem cond_either (hyes : ∀ l, P (yes (x.saw l))) (hno : ∀ l, P (no (x.saw l))) :
    P (x.cond before cs after yes no) :=
  cond_grows (fun l _ _ _ _ => hyes l) fun l _ _ => hno l

/-- The packet after a condition was evaluated. -/
def evaluated (x : Rx) (before : Bool) (cs : List (ℕ × UInt8)) : Rx :=
  if before then x.compare cs else x

@[simp]
theorem evaluated_pNtf : (x.evaluated before cs).pNtf = x.pNtf := by
  unfold evaluated
  split
  · rfl
  · rfl

@[simp]
theorem evaluated_pLen : (x.evaluated before cs).pLen = x.pLen := by
  unfold evaluated
  split
  · rfl
  · rfl

@[simp]
theorem evaluated_coreInitStores : (x.evaluated before cs).coreInitStores = x.coreInitStores := by
  unfold evaluated
  split
  · rfl
  · rfl

theorem seen_subset_evaluated : x.seen ⊆ (x.evaluated before cs).seen := by
  unfold evaluated
  split
  · exact List.subset_append_left _ _
  · exact List.Subset.refl _

theorem cond_of_not (h : before = true → x.pNtf.agrees cs = true → after = true → False) :
    x.cond before cs after yes no = no (x.evaluated before cs) := by
  unfold cond evaluated
  split
  · rename_i hbefore
    rw [if_neg]
    rw [Bool.and_eq_true]
    exact fun hnot => h hbefore hnot.1 hnot.2
  · rfl

theorem cond_of_agrees (hbefore : before = true) (hagrees : x.pNtf.agrees cs = true)
    (hafter : after = true) :
    x.cond before cs after yes no = yes (x.evaluated before cs) := by
  rw [cond, evaluated, if_pos hbefore, if_pos hbefore, hagrees, hafter, Bool.and_self, if_pos rfl]

/-- A condition on the header of a control packet. -/
theorem condOid_rule {I : List ℕ → Prop} {mt oid : UInt8} (hcs : ∀ is ⊆ [0, 1], I (x.seen ++ is))
    (hyes : ∀ l, I l → x.pNtf 0 = mt → x.pNtf 1 &&& nciOidMask = oid → P (yes (x.saw l)))
    (hno : ∀ l, I l → (x.pNtf 0 = mt → x.pNtf 1 &&& nciOidMask = oid → False) →
      P (no (x.saw l))) :
    P (x.condOid mt oid yes no) := by
  unfold condOid cond
  by_cases h0 : x.pNtf 0 = mt
  · have hseen : x.pNtf.compared [(0, mt)] = [0] := by simp [Lib.Memory.compared]
    have hI : I (x.seen ++ x.pNtf.compared [(0, mt)] ++ [1]) := by
      rw [hseen, List.append_assoc]
      exact hcs _ (List.Subset.refl _)
    simp only [Lib.Memory.agrees, h0, beq_self_eq_true, Bool.and_self, if_true]
    split
    · rename_i h1
      exact hyes _ hI h0 h1
    · rename_i h1
      exact hno _ hI fun _ h => h1 h
  · have hI : I (x.seen ++ x.pNtf.compared [(0, mt)]) := by
      refine hcs _ ?_
      simp [Lib.Memory.compared, h0]
    have hne : (x.pNtf 0 == mt) = false := beq_eq_false_iff_ne.2 h0
    simp only [Lib.Memory.agrees, hne, Bool.false_and, if_true]
    exact hno _ hI fun h => absurd h h0

theorem condOid_either {mt oid : UInt8} (hyes : ∀ l, P (yes (x.saw l)))
    (hno : ∀ l, P (no (x.saw l))) : P (x.condOid mt oid yes no) :=
  condOid_rule (I := fun _ => True) (fun _ _ => trivial) (fun l _ _ _ => hyes l) fun l _ _ => hno l

theorem condOid_of_ne {mt : UInt8} (oid : UInt8) (h0 : x.pNtf 0 ≠ mt) :
    x.condOid mt oid yes no = no (x.evaluated true [(0, mt)]) := by
  refine cond_of_not fun _ hagrees _ => h0 ?_
  simpa [Lib.Memory.agrees] using hagrees

theorem condOid_of_eq {mt oid : UInt8} (h0 : x.pNtf 0 = mt)
    (h1 : x.pNtf 1 &&& nciOidMask = oid) :
    x.condOid mt oid yes no = yes ((x.evaluated true [(0, mt)]).look [1]) := by
  rw [condOid, cond_of_agrees rfl (by simp [Lib.Memory.agrees, h0]) rfl, evaluated_pNtf, if_pos h1]

theorem condOid_of_other {mt oid : UInt8} (h0 : x.pNtf 0 = mt)
    (h1 : x.pNtf 1 &&& nciOidMask ≠ oid) :
    x.condOid mt oid yes no = no ((x.evaluated true [(0, mt)]).look [1]) := by
  rw [condOid, cond_of_agrees rfl (by simp [Lib.Memory.agrees, h0]) rfl, evaluated_pNtf, if_neg h1]

@[simp]
theorem look_pNtf (x : Rx) (is : List ℕ) : (x.look is).pNtf = x.pNtf := rfl

@[simp]
theorem look_pLen (x : Rx) (is : List ℕ) : (x.look is).pLen = x.pLen := rfl

@[simp]
theorem look_coreInitStores (x : Rx) (is : List ℕ) :
    (x.look is).coreInitStores = x.coreInitStores := rfl

end Rx

/-! ## The extensions -/

namespace RxState

/-- `phNxpNciHal_emergency_recovery`: it starts the recovery, or it aborts. -/
def phNxpNciHalEmergencyRecovery (created : Bool) (s : RxState) (x : Rx) : Option Rx :=
  if s.nfcdepDetected && s.discoveryCmd.length ≠ 0 && created then
    some { x with started := x.started ++ [.coreResetRecovery] }
  else none

/-- The firmware version at the end of a packet. -/
def fwVersion (p : Lib.Memory) (len : ℕ) : ℕ :=
  (p (len - 2)).toNat <<< 16 ||| (p (len - 1)).toNat <<< 8 ||| (p len).toNat

/-- A `CORE_RESET_NTF` for another reason than a command or the power. -/
def unexpectedReset (created : Bool) (s : RxState) (x : Rx) : Option (NFCSTATUS × RxState × Rx) :=
  let keep (x : Rx) := (s.phNxpNciHalEmergencyRecovery created x).map (NFCSTATUS.failed, s, ·)
  let clear (x : Rx) :=
    (({ s with nfcdepDetected := false }).phNxpNciHalEmergencyRecovery created x).map
      (NFCSTATUS.failed, { s with nfcdepDetected := false }, ·)
  if s.nfcdepDetected then
    x.cond true [(2, 0x06), (3, 0xA0), (4, 0x00)] true
      (fun x => x.cond true [(5, 0xC9), (6, 0x95), (7, 0x00), (8, 0x00)] true keep
        fun x => x.cond true [(5, 0x07), (6, 0x39), (7, 0xF2), (8, 0x00)] true keep clear)
      clear
  else keep x

/-- A `CORE_RESET_RSP`. -/
def coreResetRsp (s : RxState) (x : Rx) : RxState × Rx :=
  x.cond true [(2, 0x01), (3, 0x00)] true
    (fun x => ({ s with waitForNtf := s.waitForNtf || s.halExtEnabled }, x))
  fun x => x.cond true [(2, 0x03), (3, 0x00)] true
    (fun x => ({ s with nciVersion := x.pNtf 4 }, x.look [4]))
  fun x => (s, x)

/-- A `CORE_RESET_NTF`. -/
def coreResetNtf (created : Bool) (s : RxState) (x : Rx) : Option (NFCSTATUS × RxState × Rx) :=
  let p := x.pNtf
  let x := x.look [3]
  if p 3 = 0x02 || p 3 = 0x01 then
    let len := (p 2).toNat + 2
    some (NFCSTATUS.success, { s with nciVersion := p 5, wFwVerRsp := fwVersion p len },
      x.look [5, 2, len - 2, len - 1, len])
  else s.unexpectedReset created x

/-- A `CORE_INIT_RSP`. -/
def coreInitRsp (s : RxState) (x : Rx) : NFCSTATUS × RxState × Rx :=
  if s.nciVersion = nciVersion20 then (NFCSTATUS.success, s, x)
  else
    let p := x.pNtf
    let len := (p 2).toNat + 2
    let version := fwVersion p len
    (if version = 0 then NFCSTATUS.failed else NFCSTATUS.success,
      { s with
        wFwVerRsp := version
        iCoreInitRspLen := x.pLen
        bCoreInitRsp := s.bCoreInitRsp.put 0 (p.slice x.pLen)
        fwMajVer := p (len - 1)
        romVersion := p (len - 2) },
      { x.look [2, len - 2, len - 1, len] with coreInitStores := List.range x.pLen })

/-- `phNxpNciHal_ext_process_nfc_init_rsp`, `none` where it aborts. -/
def phNxpNciHalExtProcessNfcInitRsp (created : Bool) (s : RxState) (x : Rx) :
    Option (NFCSTATUS × RxState × Rx) :=
  if x.pLen = 0 then some (NFCSTATUS.failed, s, x)
  else
    x.condOid 0x40 0x00 (fun x => some (NFCSTATUS.success, s.coreResetRsp x))
    fun x => x.condOid 0x60 0x00 (s.coreResetNtf created)
    fun x => x.condOid 0x40 0x01 (fun x => some (s.coreInitRsp x))
    fun x => some (NFCSTATUS.success, s, x)

/-- In the Felica reader mode, NFC-DEP on the frame RF interface becomes T3T. -/
def activatedFelica (s : RxState) (x : Rx) : Rx :=
  x.cond true [(0, 0x61), (1, 0x05), (4, 0x01), (5, 0x05), (6, 0x02)] (s.gFelicaReaderMode ≠ 0)
    (fun x => x.put 5 [0x03]) id

/-- The rules for `RF_INTF_ACTIVATED_NTF` that come first: NFC-DEP with the EMVCo profile, and in
the Felica reader mode. -/
def activatedProfile (s : RxState) (x : Rx) : Rx :=
  x.cond true [(0, 0x61), (1, 0x05), (4, 0x03), (5, 0x05)] (s.profileType = .emvCo)
    (fun x => s.activatedFelica (x.put 4 [0xFF, 0xFF, 0xFF])) s.activatedFelica

/-- What an `RF_INTF_ACTIVATED_NTF` says of the interface and the protocol. -/
def activated (s : RxState) (x : Rx) : RxState × Rx :=
  x.cond true [(0, 0x61), (1, 0x05)] true
    (fun x =>
      let s := { s with nfcdepDetected := x.pNtf 4 == 0x03 }
      let s := if x.pNtf 5 == 0x01 then { s with toHalState := s.phNxpDtaT1TEnable } else s
      (s, x.look [4, 5, 6]))
    fun x => (s, x)

/-- The data of an ISO 15693 tag: its last byte is a status. -/
def icodeData (s : RxState) (x : Rx) : RxState × Rx :=
  let s := if s.icodeSendEof = 3 then { s with icodeSendEof := 0 } else s
  if s.nciVersion ≠ nciVersion20 then
    let last := (x.pNtf 2).toNat + 2
    let x := x.look [2, last]
    if x.pNtf last = 0x00 then
      (s, { x.put 2 [x.pNtf 2 - 1] with pLen := x.pLen - 1 })
    else (s, x.put last [x.pNtf last ||| 0x01])
  else (s, x)

/-- A notification of the discovery while the cleanup timer runs. -/
def cleanupDiscover (s : RxState) (x : Rx) : RxState × Rx :=
  let x := x.look [2, 2 + (x.pNtf 2).toNat]
  if x.pNtf (2 + (x.pNtf 2).toNat) = 0 then
    (s, { x with started := x.started ++ [.selectRfDiscovery s.rfDiscID s.rfProtocolType] })
  else
    ({ s with rfDiscID := x.pNtf 3, rfProtocolType := x.pNtf 4 }, x.look [3, 4])

/-- The last workarounds: for the responses and the notifications of a presence check. -/
def presenceCheck (s : RxState) (x : Rx) : NFCSTATUS × RxState × Rx :=
  x.cond (x.pLen = 4) [(0, 0x4F), (1, 0x11), (2, 0x01)] true
    (fun x =>
      x.cond true [(3, 0x00)] true
        (fun x => (NFCSTATUS.success, s, x.replace [0x60, 0x06, 0x03, 0x01, 0x00, 0x01]))
        fun x => (NFCSTATUS.success, s, x.replace [0x60, 0x08, 0x02, 0xB2, 0x00]))
  fun x => x.cond (x.pLen = 4) [(0, 0x6F), (1, 0x11), (2, 0x01)] true
    (fun x =>
      x.cond true [(3, 0x01)] true
        (fun x => (NFCSTATUS.success, s, x.put 0 [0x00, 0x00, 0x01, 0x7E]))
        fun x => (NFCSTATUS.success, s, x.replace [0x60, 0x08, 0x02, 0xB2, 0x00]))
  fun x => (NFCSTATUS.success, s, x)

/-- The SAK of a card with the MIFARE protocol on the ISO-DEP interface. -/
def mifareSak (s : RxState) (x : Rx) : NFCSTATUS × RxState × Rx :=
  let sak := 9 + (x.pNtf 9).toNat
  let x := x.look [9, sak]
  (NFCSTATUS.success, s, if x.pNtf sak &&& 0x20 ≠ 0x20 then x.put 4 [0x80] else x)

/-- `NFCEE_DISCOVER_RSP`. -/
def nfceeDiscoverRsp (s : RxState) (x : Rx) : NFCSTATUS × RxState × Rx :=
  let x := x.look [4]
  if x.pNtf 4 = 0x01 then (NFCSTATUS.success, { s with eeDiscDone := 0 }, x.put 4 [0x00])
  else (NFCSTATUS.success, s, x)

/-- The workarounds that are not for ISO 15693 tags: the first one that applies. -/
def otherWorkaround (s : RxState) (x : Rx) : NFCSTATUS × RxState × Rx :=
  x.cond (x.pLen = 4) [(0, 0x40), (1, 0x02), (2, 0x01), (3, 0x06)] true
    (fun x => (NFCSTATUS.success, s, x.replace [0x40, 0x02, 0x02, 0x00, 0x00]))
  fun x => x.cond true [(0, 0x42), (1, 0x00)] (s.eeDiscDone = 1) s.nfceeDiscoverRsp
  fun x => x.cond true [(0, 0x61), (1, 0x03)] true
    (fun x =>
      if s.cleanupTimer ≠ 0 then (NFCSTATUS.failed, s.cleanupDiscover x)
      else (NFCSTATUS.success, s, x))
  fun x => x.cond true [(0, 0x41), (1, 0x04)] (s.cleanupTimer ≠ 0)
    (fun x => (NFCSTATUS.failed, s, x))
  fun x => x.cond true [(0, 0x61), (1, 0x05), (4, 0x02), (5, 0x80), (6, 0x00)] true s.mifareSak
    s.presenceCheck

/-- The workarounds: the first one that applies. -/
def rspWorkaround (s : RxState) (x : Rx) : NFCSTATUS × RxState × Rx :=
  x.cond true [(0, 0x61), (1, 0x05), (2, 0x15), (4, 0x01), (5, 0x06), (6, 0x06)] true
    (fun x => (NFCSTATUS.success, { s with icodeDetected := 1 }, x.put 21 [0x01, 0x01]))
  fun x => x.cond (s.icodeDetected = 1 && s.icodeSendEof = 2) [] true
    (fun x => (NFCSTATUS.success, { s with icodeSendEof := 3 }, x))
  fun x => x.cond true [(0, 0x00), (1, 0x00)] (s.icodeDetected = 1)
    (fun x => (NFCSTATUS.success, s.icodeData x))
  fun x => x.cond true [(2, 0x02), (1, 0x00)] (s.icodeDetected = 1)
    (fun x => (NFCSTATUS.success, s, x))
  fun x => x.cond true [(0, 0x61), (1, 0x06)] (s.icodeDetected = 1)
    (fun x => (NFCSTATUS.success, { s with icodeDetected := 0, icodeSendEof := 0 }, x))
    s.otherWorkaround

/-- `phNxpNciHal_process_ext_rsp`, `none` where it aborts. The status of
`phNxpNciHal_ext_process_nfc_init_rsp` is not used. -/
def phNxpNciHalProcessExtRsp (created : Bool) (s : RxState) (x : Rx) :
    Option (NFCSTATUS × RxState × Rx) :=
  x.cond true [(0, 0x61), (1, 0x05)] (x.pLen < 14)
    (fun x => some (NFCSTATUS.failed, s, x))
    fun x =>
      let a := s.activated (s.activatedProfile x)
      (a.1.phNxpNciHalExtProcessNfcInitRsp created a.2).map fun r => r.2.1.rspWorkaround r.2.2

end RxState

/-! ## After the extensions -/

/-- Where a received packet goes. -/
inductive Handover where
  /-- to the command of the HAL that waits on `ext_cb_data`: the semaphore is posted, and its status
  is set to a failure where the extensions failed -/
  | posted (failed : Bool)
  /-- to `p_nfc_stack_data_cback` -/
  | stack
  /-- nowhere -/
  | dropped
  deriving DecidableEq, Repr

namespace RxState

/-- `phNxpNciHal_read_complete` with a packet, up to the next read. -/
def phNxpNciHalReadComplete (created : Bool) (s : RxState) (x : Rx) :
    Option (Handover × RxState × Rx) :=
  (s.phNxpNciHalProcessExtRsp created x).map fun r =>
    let u := r.2.1
    let mt := r.2.2.pNtf 0 &&& nciMtMask
    if u.halExtEnabled && mt == nciMtRsp then (.posted (r.1 = NFCSTATUS.failed), r.2)
    else if u.halExtEnabled && mt == nciMtNtf && u.waitForNtf then
      (.posted false, { u with waitForNtf := false }, r.2.2)
    else if r.1 = NFCSTATUS.success then (.stack, r.2)
    else (.dropped, r.2)

end RxState

end AliceHal.Pn54x.Hal
