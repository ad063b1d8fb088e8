import AliceHal.Pn54x.Hal.Control

/-!
# Extensions of Outgoing Packets

`phNxpNciHal_write_ext`, which changes packets on their way to the NFCC or answers them itself, and
`phNxpNciHal_write` around it.

`retval` is the value found for `MIFARE_READER_ENABLE`, zero without one.

- `HalState.phNxpNciHalWriteExt`: the extensions, in the order of the source
- `t3tScan`: the walk through the parameters of a `CORE_SET_CONFIG_CMD`
- `HalState.phNxpNciHalWrite`: what is sent, or answered
-/

namespace AliceHal.Pn54x.Hal

/-- The walk of a pointer through the parameters below `stop`, up to `LF_T3T_FLAGS`. An identifier
`0xA0` has two bytes. -/
def t3tScan (p : Lib.Memory) (stop i : ℕ) : Option ℕ :=
  if i < stop then
    if p i == 0x53 then some i
    else if p i == 0xA0 then t3tScan p stop (i + (p (i + 2)).toNat + 3)
    else t3tScan p stop (i + (p (i + 1)).toNat + 2)
  else none
termination_by stop - i

section
variable {p q : Lib.Memory} {stop i j : ℕ}

theorem t3tScan_of_end (h : stop ≤ i) : t3tScan p stop i = none := by
  rw [t3tScan, if_neg (Nat.not_lt.2 h)]

theorem t3tScan_of_flags (h : i < stop) (hb : p i = 0x53) : t3tScan p stop i = some i := by
  rw [t3tScan, if_pos h, if_pos (beq_iff_eq.2 hb)]

theorem t3tScan_of_long (h : i < stop) (hA : p i = 0xA0) :
    t3tScan p stop i = t3tScan p stop (i + (p (i + 2)).toNat + 3) := by
  have hb : ¬ (p i == 0x53) = true := by
    rw [hA]
    decide
  rw [t3tScan, if_pos h, if_neg hb, if_pos (beq_iff_eq.2 hA)]

theorem t3tScan_of_short (h : i < stop) (hb : p i ≠ 0x53) (hA : p i ≠ 0xA0) :
    t3tScan p stop i = t3tScan p stop (i + (p (i + 1)).toNat + 2) := by
  rw [t3tScan, if_pos h, if_neg fun heq => hb (beq_iff_eq.1 heq),
    if_neg fun heq => hA (beq_iff_eq.1 heq)]

/-- The walk by its cases: the induction is on what is left of the parameters. -/
theorem t3tScan_induct {motive : ℕ → Prop} (p : Lib.Memory) (stop : ℕ)
    (done : ∀ i, stop ≤ i → motive i)
    (flags : ∀ i, i < stop → p i = 0x53 → motive i)
    (long : ∀ i, i < stop → p i = 0xA0 → motive (i + (p (i + 2)).toNat + 3) → motive i)
    (short : ∀ i, i < stop → p i ≠ 0x53 → p i ≠ 0xA0 → motive (i + (p (i + 1)).toNat + 2) →
      motive i) (i : ℕ) : motive i := by
  induction i using t3tScan.induct p stop with
  | case1 i hlt hb => exact flags i hlt (beq_iff_eq.1 hb)
  | case2 i hlt hb hA ih => exact long i hlt (beq_iff_eq.1 hA) ih
  | case3 i hlt hb hA ih =>
    exact short i hlt (fun heq => hb (beq_iff_eq.2 heq)) (fun heq => hA (beq_iff_eq.2 heq)) ih
  | case4 i hlt => exact done i (Nat.not_lt.1 hlt)

/-- The walk goes forward. -/
theorem t3tScan_ge (h : t3tScan p stop i = some j) : i ≤ j := by
  induction i using t3tScan_induct p stop with
  | done i hle =>
    rw [t3tScan_of_end hle] at h
    cases h
  | flags i hlt hb =>
    rw [t3tScan_of_flags hlt hb] at h
    exact (Option.some.inj h).le
  | long i hlt hA ih =>
    rw [t3tScan_of_long hlt hA] at h
    have := ih h
    omega
  | short i hlt hb hA ih =>
    rw [t3tScan_of_short hlt hb hA] at h
    have := ih h
    omega

/-- It ends within the packet. -/
theorem t3tScan_lt (h : t3tScan p stop i = some j) : j < stop := by
  induction i using t3tScan_induct p stop with
  | done i hle =>
    rw [t3tScan_of_end hle] at h
    cases h
  | flags i hlt hb =>
    rw [t3tScan_of_flags hlt hb] at h
    exact Option.some.inj h ▸ hlt
  | long i hlt hA ih =>
    rw [t3tScan_of_long hlt hA] at h
    exact ih h
  | short i hlt hb hA ih =>
    rw [t3tScan_of_short hlt hb hA] at h
    exact ih h

/-- The walk looks at the bytes from its start to `stop`. A length past them is read, but the walk
ends there. -/
theorem t3tScan_congr (h : ∀ j, i ≤ j → j < stop → p j = q j) :
    t3tScan p stop i = t3tScan q stop i := by
  induction i using t3tScan_induct p stop with
  | done i hle => rw [t3tScan_of_end hle, t3tScan_of_end hle]
  | flags i hlt hb =>
    rw [t3tScan_of_flags hlt hb, t3tScan_of_flags hlt ((h i le_rfl hlt).symm.trans hb)]
  | long i hlt hA ih =>
    rw [t3tScan_of_long hlt hA, t3tScan_of_long hlt ((h i le_rfl hlt).symm.trans hA)]
    by_cases hin : i + 2 < stop
    · rw [← h (i + 2) (by omega) hin]
      exact ih fun j hj => h j (by omega)
    · rw [t3tScan_of_end (by omega), t3tScan_of_end (by omega)]
  | short i hlt hb hA ih =>
    rw [t3tScan_of_short hlt hb hA,
      t3tScan_of_short hlt (h i le_rfl hlt ▸ hb) (h i le_rfl hlt ▸ hA)]
    by_cases hin : i + 1 < stop
    · rw [← h (i + 1) (by omega) hin]
      exact ih fun j hj => h j (by omega)
    · rw [t3tScan_of_end (by omega), t3tScan_of_end (by omega)]

end

namespace HalState

/-- The proprietary command for the Felica reader mode, and the commands that select a profile. -/
def selectMode (r : NFCSTATUS × HalState) : NFCSTATUS × HalState :=
  let s := r.2
  if s.pCmdData.reads 0 [0xFE, 0xFE, 0xFE] then
    ({ s with gFelicaReaderMode := s.pCmdData 3 }).respond [0x00, 0x00, 0x00, 0x00]
  else if s.pCmdData.reads 0 [0x20, 0x02, 0x05, 0x01, 0xA0, 0x44, 0x01, 0x01] then
    (NFCSTATUS.success, { s with profileType := .emvCo })
  else if s.pCmdData.reads 0 [0x20, 0x02, 0x05, 0x01, 0xA0, 0x44, 0x01, 0x00] then
    (NFCSTATUS.success, { s with profileType := .nfcForum })
  else r

/-- With the EMVCo profile only A and B are polled. -/
def emvCoDiscover (s : HalState) : HalState :=
  if s.profileType = .emvCo then
    if s.pCmdData.reads 0 [0x21, 0x06, 0x01, 0x03] then s
    else if s.pCmdData.reads 0 [0x21, 0x03] then
      { s with
        pCmdData := s.pCmdData.put 2 [0x05, 0x02, 0x00, 0x01, 0x01, 0x01]
        cmdLen := 8 }
    else s
  else s

/-- The second byte of the ISO 15693 commands after which an EOF is sent. -/
def icodeEofCommands : List UInt8 := [0x21, 0x22, 0x24, 0x27, 0x28, 0x29, 0x2a]

/-- Packets to an ISO 15693 tag. -/
def icodeCommand (s : HalState) : HalState :=
  let s :=
    if s.pCmdData 3 &&& 0x40 == 0x40 && icodeEofCommands.contains (s.pCmdData 4) then
      { s with icodeSendEof := 1 }
    else s
  if s.pCmdData 3 == 0x20 || s.pCmdData 3 == 0x24 || s.pCmdData 3 == 0x60 then
    { s with pCmdData := s.pCmdData.put 3 [s.pCmdData 3 + 0x02] }
  else s

/-- The workarounds for single commands, without an ISO 15693 tag: the first one that applies. -/
def commandWorkaround (s : HalState) (status : NFCSTATUS) : NFCSTATUS × HalState :=
  let p := s.pCmdData
  if p.reads 0 [0x21, 0x03] then
    (status, ({ s with icodeDetected := 0, icodeSendEof := 0 }).phNxpNciHalDiscoveryCmdExt)
  else if p.reads 0 [0x22, 0x00, 0x01, 0x00] then s.respond [0x42, 0x00, 0x02, 0x00, 0x00]
  else if p.reads 0 [0x20, 0x02, 0x09, 0x04] then
    (status,
      { s with
        pCmdData := (p.put 2 [p 2 + 0x01]).put 9 [0x01, 0x40, 0x50, 0x00]
        cmdLen := s.cmdLen + 1 })
  else if p.reads 0 [0x20, 0x02, 0x07, 0x03] || p.reads 0 [0x20, 0x02, 0x03, 0x01, 0x32] then
    s.respond setConfigRsp
  else if p.reads 0 [0x20, 0x02, 0x04, 0x01, 0x32, 0x00] then
    (status, { s with pCmdData := p.put 6 [0x60] })
  else if p.reads 0 [0x21, 0x00] then
    -- add MIFARE Classic to the discovery map
    let q := (p.put s.cmdLen [0x80, 0x01, 0x80]).put 5 [0x01, 0x01]
    (status, { s with pCmdData := q.put 2 [q 2 + 3, q 3 + 1], cmdLen := s.cmdLen + 3 })
  else if s.cmdLen = 3 && p.reads 0 [0x00, 0x00, 0x00] then
    -- ISO-DEP presence check
    (NFCSTATUS.success, { s with pCmdData := p.put 0 [0x2F, 0x11, 0x00] })
  else (status, s)

/-- The workarounds. The first two, and the one for ISO 15693 tags, come before all others. -/
def workaround (retval : ℕ) (status : NFCSTATUS) (s : HalState) : NFCSTATUS × HalState :=
  let p := s.pCmdData
  if retval = 0x01 && p.reads 0 [0x21, 0x00] then
    -- add MIFARE to the discovery map
    (NFCSTATUS.success,
      { s with
        pCmdData := (p.put 2 [p 2 + 3, p 3 + 1]).put s.cmdLen [0x80, 0x01, 0x80]
        cmdLen := s.cmdLen + 3 })
  else if p.reads 3 [0x81, 0x01, 0x03] then
    -- set the host list
    (NFCSTATUS.success, { s with pCmdData := (p.put 2 [0x04]).put 6 [0xC0], cmdLen := 7 })
  else if s.icodeDetected ≠ 0 then (status, s.icodeCommand)
  else s.commandWorkaround status

section
variable {retval : ℕ} {status : NFCSTATUS} {s : HalState}

theorem workaround_of_mifare (hretval : retval = 1) (hmap : s.pCmdData.reads 0 [0x21, 0x00] = true) :
    workaround retval status s =
      (NFCSTATUS.success,
        { s with
          pCmdData := (s.pCmdData.put 2 [s.pCmdData 2 + 3, s.pCmdData 3 + 1]).put s.cmdLen
            [0x80, 0x01, 0x80]
          cmdLen := s.cmdLen + 3 }) :=
  if_pos (by rw [hretval, hmap]; rfl)

/-- The first workaround is passed over. -/
theorem not_mifare (hmifare : retval = 1 → s.pCmdData.reads 0 [0x21, 0x00] = false) :
    ¬(decide (retval = 1) && s.pCmdData.reads 0 [0x21, 0x00]) = true := by
  rw [Bool.and_eq_true, decide_eq_true_eq]
  rintro ⟨hretval, hmap⟩
  rw [hmifare hretval] at hmap
  cases hmap

theorem workaround_of_hostList (hmifare : retval = 1 → s.pCmdData.reads 0 [0x21, 0x00] = false)
    (hhost : s.pCmdData.reads 3 [0x81, 0x01, 0x03] = true) :
    workaround retval status s =
      (NFCSTATUS.success,
        { s with pCmdData := (s.pCmdData.put 2 [0x04]).put 6 [0xC0], cmdLen := 7 }) :=
  (if_neg (not_mifare hmifare)).trans (if_pos hhost)

theorem workaround_of_icode (hmifare : retval = 1 → s.pCmdData.reads 0 [0x21, 0x00] = false)
    (hhost : s.pCmdData.reads 3 [0x81, 0x01, 0x03] = false) (hicode : s.icodeDetected ≠ 0) :
    workaround retval status s = (status, s.icodeCommand) := by
  have hnot : ¬s.pCmdData.reads 3 [0x81, 0x01, 0x03] = true := by simp [hhost]
  exact (if_neg (not_mifare hmifare)).trans ((if_neg hnot).trans (if_pos hicode))

theorem workaround_of_command (hmifare : retval = 1 → s.pCmdData.reads 0 [0x21, 0x00] = false)
    (hhost : s.pCmdData.reads 3 [0x81, 0x01, 0x03] = false) (hicode : s.icodeDetected = 0) :
    workaround retval status s = s.commandWorkaround status := by
  have hnot : ¬s.pCmdData.reads 3 [0x81, 0x01, 0x03] = true := by simp [hhost]
  exact (if_neg (not_mifare hmifare)).trans ((if_neg hnot).trans (if_neg (not_not.2 hicode)))

end

/-- The bytes of `LF_T3T_FLAGS` are swapped. -/
def swapT3tFlags (r : NFCSTATUS × HalState) : NFCSTATUS × HalState :=
  let p := r.2.pCmdData
  if p.reads 0 [0x20, 0x02] then
    match t3tScan p r.2.cmdLen 4 with
    | some i => (NFCSTATUS.success, { r.2 with pCmdData := p.put (i + 2) [p (i + 3), p (i + 2)] })
    | none => r
  else r

/-- `phNxpNciHal_write_ext`. -/
def phNxpNciHalWriteExt (retval : ℕ) (s : HalState) : NFCSTATUS × HalState :=
  let s := s.phNxpNciHalNfcDepCmdExt
  let r := if s.dtaCtrlFlag then s.phNxpNHalDtaUpdate else (NFCSTATUS.success, s)
  let r := selectMode r
  swapT3tFlags (workaround retval r.1 r.2.emvCoDiscover)

end HalState

/-! ## Writing -/

/-- What a write leads to. -/
inductive WriteOutcome where
  /-- the packet is refused -/
  | nothing
  /-- the packets handed to the NFCC -/
  | sent (packets : List (List UInt8))
  /-- the response given to the stack in place of one of the NFCC -/
  | emulated (rsp : List UInt8)
  deriving DecidableEq, Repr

namespace HalState

/-- `cmd_icode_eof`. -/
def cmdIcodeEof : List UInt8 := [0x00, 0x00, 0x00]

/-- `phNxpNciHal_write` after the extensions: the packet is sent as it is now, and an EOF after it
where one is due, or the prepared response is given to the stack. -/
def finishWrite (r : NFCSTATUS × HalState) : HalState × WriteOutcome :=
  let s := r.2
  if r.1 ≠ NFCSTATUS.success then (s, .emulated (s.pRspData.slice s.rspLen))
  else if s.icodeSendEof = 1 then
    ({ s with icodeSendEof := 2, cmdLen := 3, pCmdData := s.pCmdData.put 0 cmdIcodeEof },
      .sent [s.pCmdData.slice s.cmdLen, cmdIcodeEof])
  else (s, .sent [s.pCmdData.slice s.cmdLen])

/-- `phNxpNciHal_write` with the bytes at `p_data`. A packet that is longer than the buffer is
refused, after it has been copied. -/
def phNxpNciHalWrite (retval : ℕ) (data : List UInt8) (s : HalState) : HalState × WriteOutcome :=
  if s.isOpen then
    let s := { s with pCmdData := s.pCmdData.put 0 data, cmdLen := data.length }
    if nciMaxDataLen < s.cmdLen then (s, .nothing)
    else finishWrite (s.phNxpNciHalWriteExt retval)
  else (s, .nothing)

end HalState

end AliceHal.Pn54x.Hal
