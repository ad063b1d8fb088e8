import AliceHal.Lib.Machine
import AliceHal.Pn54x.Hal.Capture

/-!
# The Flags for ISO 15693 Tags

`icode_detected` and `icode_send_eof` are set and reset by `phNxpNciHal_write` and by the packets that
come in meanwhile. A write blocks at three points: while its packet is sent, in the pause before the
end of frame, and until `phNxpNciHal_send_ext_cmd` returns. The stack writes from one thread.

- `Writer.step`: a write in parts, with packets received between them
- `Writer.call_write`: without packets in between the parts are `phNxpNciHal_write`
- `Writer.Allowed`: no packet resets the flags during an end of frame, and no discovery is started
  with a tag
- `icodeFlags_consistent`: the flags are consistent after a run of allowed steps, and a step that is
  not allowed leaves them inconsistent
-/

namespace AliceHal.Pn54x.Hal

/-- Where the thread in `phNxpNciHal_write` stands. -/
inductive WritePhase where
  /-- there is no write -/
  | idle
  /-- in `phNxpNciHal_write_unlocked` -/
  | writing
  /-- in the pause between the test of `icode_send_eof` and its assignment -/
  | pausing
  /-- in `phNxpNciHal_send_ext_cmd` with the end of frame -/
  | sendingEof
  deriving DecidableEq, Repr

/-- The HAL with a thread that writes and one that receives. -/
structure Writer where
  phase : WritePhase
  hal : RxState

/-- What one of the threads does next. -/
inductive WriterInput where
  /-- a write starts -/
  | write (retval : ℕ) (data : List UInt8)
  /-- `phNxpNciHal_write_unlocked` returns -/
  | written
  /-- the pause is over -/
  | pauseEnds
  /-- `phNxpNciHal_send_ext_cmd` returns -/
  | eofSent
  /-- a packet is received -/
  | receive (created : Bool) (pNtf : Lib.Memory) (pLen : ℕ)

namespace HalState

/-- `phNxpNciHal_ext_init`. -/
def phNxpNciHalExtInit (s : HalState) : HalState := { s with icodeDetected := 0, icodeSendEof := 0 }

/-- `phNxpNciHal_write` up to `phNxpNciHal_write_unlocked`. -/
def beginWrite (retval : ℕ) (data : List UInt8) (s : HalState) :
    WritePhase × HalState × WriteOutcome :=
  if s.isOpen then
    let s := { s with pCmdData := s.pCmdData.put 0 data, cmdLen := data.length }
    if nciMaxDataLen < s.cmdLen then (.idle, s, .nothing)
    else
      let r := s.phNxpNciHalWriteExt retval
      if r.1 ≠ NFCSTATUS.success then (.idle, r.2, .emulated (r.2.pRspData.slice r.2.rspLen))
      else (.writing, r.2, .sent [r.2.pCmdData.slice r.2.cmdLen])
  else (.idle, s, .nothing)

end HalState

namespace Writer

/-- After `phNxpNciHal_ext_init`. -/
def start (s : RxState) : Writer := ⟨.idle, { s with toHalState := s.phNxpNciHalExtInit }⟩

/-- One step of a thread, and the packet that it sends or answers. -/
def step (w : Writer) : WriterInput → Option (Writer × WriteOutcome)
  | .write retval data =>
    if w.phase = .idle then
      let r := w.hal.beginWrite retval data
      some (⟨r.1, { w.hal with toHalState := r.2.1 }⟩, r.2.2)
    else none
  | .written =>
    if w.phase = .writing then
      some (⟨if w.hal.icodeSendEof = 1 then .pausing else .idle, w.hal⟩, .nothing)
    else none
  | .pauseEnds =>
    if w.phase = .pausing then
      some (⟨.sendingEof,
        { w.hal with
          icodeSendEof := 2
          halExtEnabled := true
          cmdLen := 3
          pCmdData := w.hal.pCmdData.put 0 HalState.cmdIcodeEof }⟩, .sent [HalState.cmdIcodeEof])
    else none
  | .eofSent =>
    if w.phase = .sendingEof then
      some (⟨.idle, { w.hal with halExtEnabled := false, waitForNtf := false }⟩, .nothing)
    else none
  | .receive created pNtf pLen =>
    (w.hal.phNxpNciHalReadComplete created (.received pNtf pLen)).map fun r =>
      (⟨w.phase, r.2.1⟩, .nothing)

end Writer

/-! ## A write that is not interrupted -/

/-- The packets sent. -/
def WriteOutcome.packets : WriteOutcome → List (List UInt8)
  | .sent packets => packets
  | _ => []

namespace Writer

/-- The packets sent in a run. -/
def packets (es : List (WriterInput × WriteOutcome)) : List (List UInt8) :=
  es.flatMap fun e => e.2.packets

/-- A write, with nothing in between. -/
def callWrite (retval : ℕ) (data : List UInt8) (s : RxState) : Lib.Trace step ⟨.idle, s⟩ :=
  ((((Lib.Trace.start step ⟨.idle, s⟩).call (.write retval data)).call .written).call
    .pauseEnds).call .eofSent

/-- The end of frame after a packet, as `phNxpNciHal_write` and the thread have it. -/
theorem write_eq_beginWrite (retval : ℕ) (data : List UInt8) (s : HalState) :
    ((s.beginWrite retval data).1 = .idle ∧
      s.phNxpNciHalWrite retval data = (s.beginWrite retval data).2) ∨
    ((s.beginWrite retval data).1 = .writing ∧
      s.phNxpNciHalWrite retval data =
        if (s.beginWrite retval data).2.1.icodeSendEof = 1 then
          ({ (s.beginWrite retval data).2.1 with
              icodeSendEof := 2
              cmdLen := 3
              pCmdData := (s.beginWrite retval data).2.1.pCmdData.put 0 HalState.cmdIcodeEof },
            .sent ((s.beginWrite retval data).2.2.packets ++ [HalState.cmdIcodeEof]))
        else (s.beginWrite retval data).2) := by
  unfold HalState.beginWrite HalState.phNxpNciHalWrite
  by_cases hopen : s.isOpen = true
  · simp only [hopen, if_true]
    split
    · exact Or.inl ⟨rfl, rfl⟩
    · unfold HalState.finishWrite
      dsimp only
      split
      · exact Or.inl ⟨rfl, rfl⟩
      · exact Or.inr ⟨rfl, rfl⟩
  · rw [if_neg hopen, if_neg hopen]
    exact Or.inl ⟨rfl, rfl⟩

section
variable {s : RxState} {t : Lib.Trace step ⟨.idle, s⟩}

theorem call_written_of_ne (h : t.state.phase ≠ .writing) : t.call .written = t :=
  Lib.Trace.call_of_none (by rw [step, if_neg h])

theorem call_pauseEnds_of_ne (h : t.state.phase ≠ .pausing) : t.call .pauseEnds = t :=
  Lib.Trace.call_of_none (by rw [step, if_neg h])

theorem call_eofSent_of_ne (h : t.state.phase ≠ .sendingEof) : t.call .eofSent = t :=
  Lib.Trace.call_of_none (by rw [step, if_neg h])

/-- Nothing is left to do for a packet that is not sent, or without an end of frame. -/
theorem call_of_idle (h : t.state.phase = .idle) : (t.call .pauseEnds).call .eofSent = t := by
  rw [call_pauseEnds_of_ne (by rw [h]; decide), call_eofSent_of_ne (by rw [h]; decide)]

/-- After the pause the end of frame is sent. -/
theorem call_of_pausing (h : t.state.phase = .pausing) :
    ((t.call .pauseEnds).call .eofSent).es =
        t.es ++ [(.pauseEnds, .sent [HalState.cmdIcodeEof]), (.eofSent, .nothing)] ∧
      ((t.call .pauseEnds).call .eofSent).state =
        ⟨.idle,
          { t.state.hal with
            icodeSendEof := 2
            halExtEnabled := false
            waitForNtf := false
            cmdLen := 3
            pCmdData := t.state.hal.pCmdData.put 0 HalState.cmdIcodeEof }⟩ := by
  have hpause : t.state.step .pauseEnds = some (⟨.sendingEof,
      { t.state.hal with
        icodeSendEof := 2
        halExtEnabled := true
        cmdLen := 3
        pCmdData := t.state.hal.pCmdData.put 0 HalState.cmdIcodeEof }⟩,
      .sent [HalState.cmdIcodeEof]) := by
    rw [step, if_pos h]
  obtain ⟨hes, hstate⟩ := Lib.Trace.call_of_some hpause
  generalize t.call .pauseEnds = t' at hes hstate ⊢
  have heof : t'.state.step .eofSent = some
      (⟨.idle, { t'.state.hal with halExtEnabled := false, waitForNtf := false }⟩, .nothing) := by
    rw [step, if_pos (by rw [hstate])]
  obtain ⟨hes', hstate'⟩ := Lib.Trace.call_of_some heof
  rw [hes', hes, hstate', hstate]
  exact ⟨by simp, rfl⟩

end

/-- The parts of a write make up `phNxpNciHal_write`. -/
theorem call_write (retval : ℕ) (data : List UInt8) (s : RxState) :
    (callWrite retval data s).state.phase = .idle ∧
      (callWrite retval data s).state.hal.toHalState = (s.phNxpNciHalWrite retval data).1 ∧
      packets (callWrite retval data s).es = (s.phNxpNciHalWrite retval data).2.packets := by
  have hwrite : step ⟨.idle, s⟩ (.write retval data) = some
      (⟨(s.beginWrite retval data).1, { s with toHalState := (s.beginWrite retval data).2.1 }⟩,
        (s.beginWrite retval data).2.2) := by
    rw [step, if_pos rfl]
  obtain ⟨hes, hstate⟩ := Lib.Trace.call_of_some (t := Lib.Trace.start step ⟨.idle, s⟩) hwrite
  unfold callWrite
  generalize (Lib.Trace.start step ⟨.idle, s⟩).call (.write retval data) = t at hes hstate ⊢
  rcases write_eq_beginWrite retval data s.toHalState with ⟨hphase, heq⟩ | ⟨hphase, heq⟩
  · have hidle : t.state.phase = .idle := by
      rw [hstate]
      exact hphase
    rw [call_written_of_ne (by rw [hidle]; decide), call_of_idle hidle, heq, hstate, hes]
    exact ⟨hphase, rfl, by simp [packets, Lib.Trace.start]⟩
  -- the packet is sent, and the flag is tested
  have hwritten : t.state.step .written = some
      (⟨if t.state.hal.icodeSendEof = 1 then .pausing else .idle, t.state.hal⟩, .nothing) := by
    rw [step, if_pos (by rw [hstate]; exact hphase)]
  obtain ⟨hes', hstate'⟩ := Lib.Trace.call_of_some hwritten
  generalize t.call .written = t' at hes' hstate' ⊢
  have heof : t.state.hal.icodeSendEof = (s.beginWrite retval data).2.1.icodeSendEof := by
    rw [hstate]
  rw [heq, ← heof]
  split
  · rename_i hone
    rw [if_pos hone] at hstate'
    obtain ⟨hes'', hstate''⟩ := call_of_pausing (t := t') (by rw [hstate'])
    rw [hes'', hstate'', hstate', hes', hes, hstate]
    exact ⟨rfl, rfl, by simp [packets, Lib.Trace.start, WriteOutcome.packets]⟩
  · rename_i hone
    rw [if_neg hone] at hstate'
    rw [call_of_idle (by rw [hstate']), hstate', hes', hes, hstate]
    exact ⟨rfl, rfl, by simp [packets, Lib.Trace.start, WriteOutcome.packets]⟩

end Writer

/-! ## The flags -/

/-- The flags agree: an end of frame is under way for a detected tag only. -/
def HalState.IcodeConsistent (s : HalState) : Prop := s.icodeSendEof ≠ 0 → s.icodeDetected = 1

/-- Both flags are reset. -/
def HalState.IcodeReset (s : HalState) : Prop := s.icodeDetected = 0 ∧ s.icodeSendEof = 0

/-- The invariant of the flags: both are reset, or a tag is detected. -/
def HalState.IcodeInv (s : HalState) : Prop := s.IcodeReset ∨ s.icodeDetected = 1

namespace HalState

variable {s u : HalState} {r : NFCSTATUS × HalState}

theorem IcodeInv.consistent (h : s.IcodeInv) : s.IcodeConsistent := fun heof =>
  h.elim (fun hreset => absurd hreset.2 heof) id

/-- The same flags and the same caches. -/
structure SameMarks (s u : HalState) : Prop where
  detected : u.icodeDetected = s.icodeDetected
  sendEof : u.icodeSendEof = s.icodeSendEof
  discoveryCmd : u.discoveryCmd = s.discoveryCmd
  cmdPoll : u.cmdPoll = s.cmdPoll

theorem SameMarks.trans {t : HalState} (h : SameMarks s t) (h' : SameMarks t u) : SameMarks s u :=
  ⟨h'.detected.trans h.detected, h'.sendEof.trans h.sendEof,
    h'.discoveryCmd.trans h.discoveryCmd, h'.cmdPoll.trans h.cmdPoll⟩

theorem sameMarks_dtaUpdate (s : HalState) : SameMarks s s.phNxpNHalDtaUpdate.2 := by
  have hcommand : SameMarks s s.dtaCommand.2 := by
    rcases s.dtaCommand_cases with ⟨rsp, -, h⟩ | h | ⟨-, h⟩ | h <;> rw [h] <;> exact ⟨rfl, rfl, rfl, rfl⟩
  unfold phNxpNHalDtaUpdate
  split
  · rcases dtaT1t_cases s.dtaCommand with h | h <;> rw [h]
    · exact hcommand
    · exact ⟨hcommand.detected, hcommand.sendEof, hcommand.discoveryCmd, hcommand.cmdPoll⟩
  · exact ⟨rfl, rfl, rfl, rfl⟩

theorem sameMarks_selectMode (r : NFCSTATUS × HalState) : SameMarks r.2 (selectMode r).2 := by
  unfold selectMode
  extract_lets s
  split
  · exact ⟨rfl, rfl, rfl, rfl⟩
  split
  · exact ⟨rfl, rfl, rfl, rfl⟩
  split
  · exact ⟨rfl, rfl, rfl, rfl⟩
  · exact ⟨rfl, rfl, rfl, rfl⟩

theorem sameMarks_emvCoDiscover (s : HalState) : SameMarks s s.emvCoDiscover := by
  unfold emvCoDiscover
  split
  · split
    · exact ⟨rfl, rfl, rfl, rfl⟩
    · split
      · exact ⟨rfl, rfl, rfl, rfl⟩
      · exact ⟨rfl, rfl, rfl, rfl⟩
  · exact ⟨rfl, rfl, rfl, rfl⟩

theorem sameMarks_front (s : HalState) : SameMarks s s.front.2 :=
  ((sameMarks_dtaUpdate s).trans (sameMarks_selectMode _)).trans (sameMarks_emvCoDiscover _)

theorem sameMarks_swapT3tFlags (r : NFCSTATUS × HalState) : SameMarks r.2 (swapT3tFlags r).2 := by
  unfold swapT3tFlags
  extract_lets p
  split
  · split
    · exact ⟨rfl, rfl, rfl, rfl⟩
    · exact ⟨rfl, rfl, rfl, rfl⟩
  · exact ⟨rfl, rfl, rfl, rfl⟩

theorem commandWorkaround_reset (status : NFCSTATUS) (h : s.IcodeReset) :
    (s.commandWorkaround status).2.IcodeReset := by
  unfold commandWorkaround
  extract_lets p q
  split
  · obtain ⟨cmd, heq⟩ := discoveryCmdExt_eq { s with icodeDetected := 0, icodeSendEof := 0 }
    rw [heq]
    exact ⟨rfl, rfl⟩
  iterate 6 (split; · exact h)
  exact h

/-- The extensions never reset the flags while a tag is detected: the branch that does comes after
the one for a tag. -/
theorem workaround_icode (retval : ℕ) (status : NFCSTATUS) (s : HalState) :
    (s.icodeDetected ≠ 0 → (workaround retval status s).2.icodeDetected = s.icodeDetected) ∧
      (s.IcodeReset → (workaround retval status s).2.IcodeReset) := by
  by_cases hmap : retval = 1 → s.pCmdData.reads 0 [0x21, 0x00] = false
  · by_cases hhost : s.pCmdData.reads 3 [0x81, 0x01, 0x03] = true
    · rw [workaround_of_hostList hmap hhost]
      exact ⟨fun _ => rfl, id⟩
    · rw [Bool.not_eq_true] at hhost
      by_cases hicode : s.icodeDetected = 0
      · rw [workaround_of_command hmap hhost hicode]
        exact ⟨fun h => absurd hicode h, commandWorkaround_reset status⟩
      · obtain ⟨b, eof, heq⟩ := s.icodeCommand_eq
        rw [workaround_of_icode hmap hhost hicode, heq]
        exact ⟨fun _ => rfl, fun h => absurd h.1 hicode⟩
  · push Not at hmap
    rw [workaround_of_mifare hmap.1 (by simpa using hmap.2)]
    exact ⟨fun _ => rfl, id⟩

theorem writeExt_icode (retval : ℕ) (s : HalState) :
    (s.icodeDetected ≠ 0 → (s.phNxpNciHalWriteExt retval).2.icodeDetected = s.icodeDetected) ∧
      (s.IcodeReset → (s.phNxpNciHalWriteExt retval).2.IcodeReset) := by
  obtain ⟨poll, heq⟩ := s.writeExt_eq retval
  have hfront := sameMarks_front { s with cmdPoll := poll }
  obtain ⟨hkeep, hreset⟩ := workaround_icode retval ({ s with cmdPoll := poll } : HalState).front.1
    ({ s with cmdPoll := poll } : HalState).front.2
  have hswap := sameMarks_swapT3tFlags (workaround retval
    ({ s with cmdPoll := poll } : HalState).front.1 ({ s with cmdPoll := poll } : HalState).front.2)
  rw [heq]
  constructor
  · intro hicode
    rw [hswap.detected, hkeep (by rw [hfront.detected]; exact hicode), hfront.detected]
  · rintro ⟨hdetected, heof⟩
    obtain ⟨hd, he⟩ := hreset ⟨hfront.detected.trans hdetected, hfront.sendEof.trans heof⟩
    exact ⟨hswap.detected.trans hd, hswap.sendEof.trans he⟩

theorem beginWrite_inv (retval : ℕ) (data : List UInt8) (h : s.IcodeInv) :
    (s.beginWrite retval data).2.1.IcodeInv := by
  have hext : ∀ u : HalState, u.IcodeInv → (u.phNxpNciHalWriteExt retval).2.IcodeInv := by
    rintro u (hreset | hdetected)
    · exact Or.inl ((u.writeExt_icode retval).2 hreset)
    · refine Or.inr (((u.writeExt_icode retval).1 ?_).trans hdetected)
      rw [hdetected]
      decide
  unfold beginWrite
  split
  · dsimp only
    split
    · exact h
    · split
      · exact hext _ h
      · exact hext _ h
  · exact h

/-- A packet that passes the extensions leaves both flags zero exactly if no tag is detected. -/
theorem beginWrite_reset_iff (retval : ℕ) {data : List UInt8} (h : s.IcodeInv)
    (hopen : s.isOpen = true) (hlen : data.length ≤ nciMaxDataLen) :
    (s.beginWrite retval data).2.1.IcodeReset ↔ s.icodeDetected = 0 := by
  obtain ⟨hkeep, hreset⟩ := writeExt_icode retval
    { s with pCmdData := s.pCmdData.put 0 data, cmdLen := data.length }
  have heq : (s.beginWrite retval data).2.1 = (({ s with
      pCmdData := s.pCmdData.put 0 data, cmdLen := data.length } : HalState).phNxpNciHalWriteExt
        retval).2 := by
    rw [beginWrite, if_pos hopen, if_neg (Nat.not_lt.2 hlen)]
    dsimp only
    split
    · rfl
    · rfl
  rw [heq]
  constructor
  · intro hafter
    by_contra hdetected
    exact hdetected ((hkeep hdetected).symm.trans hafter.1)
  · intro hdetected
    refine hreset (h.resolve_right fun hone => ?_)
    exact absurd (hdetected.symm.trans hone) (by decide)

end HalState

/-! ## Received packets -/

namespace RxState

variable {s : RxState} {x : Rx} {created : Bool} {r : NFCSTATUS × RxState × Rx}

/-- A reset is handled without a look at the buffers and flags of the sending side. -/
theorem unexpectedReset_hal (h : s.unexpectedReset created x = some r) :
    r.2.1.toHalState = s.toHalState := by
  have hrecovery : ∀ (u : RxState) (l : List ℕ), u.toHalState = s.toHalState →
      (u.phNxpNciHalEmergencyRecovery created (x.saw l)).map (NFCSTATUS.failed, u, ·) = some r →
      r.2.1.toHalState = s.toHalState := by
    intro u l hu hr
    obtain ⟨y, -, rfl⟩ := Option.map_eq_some_iff.1 hr
    exact hu
  have hclear : ({ s with nfcdepDetected := false } : RxState).toHalState = s.toHalState := rfl
  unfold unexpectedReset at h
  extract_lets keep clear at h
  split at h
  · revert h
    refine Rx.cond_either (P := fun o => o = some r → r.2.1.toHalState = s.toHalState)
      (fun l => ?_) fun l => hrecovery _ l hclear
    refine Rx.cond_either (P := fun o => o = some r → r.2.1.toHalState = s.toHalState)
      (fun l => hrecovery s l rfl) fun l => ?_
    exact Rx.cond_either (P := fun o => o = some r → r.2.1.toHalState = s.toHalState)
      (fun l => hrecovery s l rfl) fun l => hrecovery _ l hclear
  · exact hrecovery s x.seen rfl h

theorem coreResetRsp_hal (s : RxState) (x : Rx) :
    (s.coreResetRsp x).1.toHalState = s.toHalState := by
  unfold coreResetRsp
  refine Rx.cond_either (P := fun r : RxState × Rx => r.1.toHalState = s.toHalState)
    (fun l => rfl) fun l => ?_
  exact Rx.cond_either (P := fun r : RxState × Rx => r.1.toHalState = s.toHalState)
    (fun l => rfl) fun l => rfl

theorem initRsp_hal (h : s.phNxpNciHalExtProcessNfcInitRsp created x = some r) :
    r.2.1.toHalState = s.toHalState := by
  unfold phNxpNciHalExtProcessNfcInitRsp at h
  split at h
  · cases h
    rfl
  revert h
  refine Rx.condOid_either (P := fun o => o = some r → r.2.1.toHalState = s.toHalState)
    (fun l h => ?_) fun l => ?_
  · cases h
    exact coreResetRsp_hal s _
  refine Rx.condOid_either (P := fun o => o = some r → r.2.1.toHalState = s.toHalState)
    (fun l h => ?_) fun l => ?_
  · unfold coreResetNtf at h
    extract_lets p y len at h
    split at h
    · cases h
      rfl
    · exact unexpectedReset_hal h
  refine Rx.condOid_either (P := fun o => o = some r → r.2.1.toHalState = s.toHalState)
    (fun l h => ?_) fun l h => ?_
  · cases h
    unfold coreInitRsp
    split
    · rfl
    · rfl
  · cases h
    rfl

/-- A condition between workarounds that leave the sending side as it is. -/
theorem cond_hal {before after : Bool} {cs : List (ℕ × UInt8)} {yes no : Rx → NFCSTATUS × RxState × Rx}
    (hyes : ∀ l, (yes (x.saw l)).2.1.toHalState = s.toHalState)
    (hno : ∀ l, (no (x.saw l)).2.1.toHalState = s.toHalState) :
    (x.cond before cs after yes no).2.1.toHalState = s.toHalState :=
  Rx.cond_either (P := fun r : NFCSTATUS × RxState × Rx => r.2.1.toHalState = s.toHalState) hyes hno

theorem otherWorkaround_hal (s : RxState) (x : Rx) :
    (s.otherWorkaround x).2.1.toHalState = s.toHalState := by
  unfold otherWorkaround
  refine cond_hal (fun l => rfl) fun l => cond_hal (fun l => ?_) fun l => cond_hal (fun l => ?_)
    fun l => cond_hal (fun l => rfl) fun l => cond_hal (fun l => rfl) fun l => ?_
  · unfold nfceeDiscoverRsp
    extract_lets y
    split
    · rfl
    · rfl
  · split
    · unfold cleanupDiscover
      extract_lets y
      split
      · rfl
      · rfl
    · rfl
  · unfold presenceCheck
    refine cond_hal (fun l => ?_) fun l => cond_hal (fun l => ?_) fun l => rfl
    · exact cond_hal (fun l => rfl) fun l => rfl
    · exact cond_hal (fun l => rfl) fun l => rfl

/-- The invariant is kept by the workarounds: each of those for a tag leaves `icode_detected` as it
is, sets it, or resets both flags. -/
theorem rspWorkaround_inv (x : Rx) (h : s.IcodeInv) : (s.rspWorkaround x).2.1.IcodeInv := by
  unfold rspWorkaround
  refine Rx.cond_either (P := fun r : NFCSTATUS × RxState × Rx => r.2.1.IcodeInv)
    (fun l => Or.inr rfl) fun l => ?_
  refine Rx.cond_grows (P := fun r : NFCSTATUS × RxState × Rx => r.2.1.IcodeInv)
    (fun l _ hbefore _ _ => ?_) fun l _ _ => ?_
  · rw [Bool.and_eq_true, decide_eq_true_eq] at hbefore
    exact Or.inr hbefore.1
  refine Rx.cond_grows (P := fun r : NFCSTATUS × RxState × Rx => r.2.1.IcodeInv)
    (fun l _ _ _ hafter => ?_) fun l _ _ => ?_
  · refine Or.inr ?_
    unfold icodeData
    extract_lets u last y
    have hu : u.icodeDetected = 1 := by
      have hdetected : s.icodeDetected = 1 := of_decide_eq_true hafter
      show (if s.icodeSendEof = 3 then _ else s).icodeDetected = 1
      split
      · exact hdetected
      · exact hdetected
    split
    · split
      · exact hu
      · exact hu
    · exact hu
  refine Rx.cond_either (P := fun r : NFCSTATUS × RxState × Rx => r.2.1.IcodeInv)
    (fun l => h) fun l => ?_
  refine Rx.cond_either (P := fun r : NFCSTATUS × RxState × Rx => r.2.1.IcodeInv)
    (fun l => Or.inl ⟨rfl, rfl⟩) fun l => ?_
  rw [otherWorkaround_hal]
  exact h

theorem processExtRsp_inv (h : s.IcodeInv)
    (hr : s.phNxpNciHalProcessExtRsp created x = some r) : r.2.1.IcodeInv := by
  unfold phNxpNciHalProcessExtRsp at hr
  revert hr
  refine Rx.cond_either (P := fun o => o = some r → r.2.1.IcodeInv) (fun l hr => ?_) fun l hr => ?_
  · cases hr
    exact h
  · dsimp only at hr
    obtain ⟨d, t, l', hactivated⟩ := s.activated_eq (s.activatedProfile (x.saw l))
    rw [hactivated] at hr
    obtain ⟨u, hu, rfl⟩ := Option.map_eq_some_iff.1 hr
    refine rspWorkaround_inv _ ?_
    rw [initRsp_hal hu]
    exact h

theorem readComplete_hal {q : Handover × RxState × Rx}
    (h : s.phNxpNciHalReadComplete created x = some q) :
    ∃ r, s.phNxpNciHalProcessExtRsp created x = some r ∧ q.2.1.toHalState = r.2.1.toHalState := by
  obtain ⟨r, hr, rfl⟩ := Option.map_eq_some_iff.1 h
  refine ⟨r, hr, ?_⟩
  extract_lets u mt
  split
  · rfl
  split
  · rfl
  split
  · rfl
  · rfl

/-- The notification that the RF interface is deactivated resets both flags, unless the response to
an end of frame is awaited. -/
theorem processExtRsp_deactivate {p : Lib.Memory} {len : ℕ} (h : s.IcodeInv) (hlen : len ≠ 0)
    (h0 : p 0 = 0x61) (h1 : p 1 = 0x06)
    (hr : s.phNxpNciHalProcessExtRsp created (.received p len) = some r) :
    r.2.1.IcodeReset ↔ ¬ (s.icodeDetected = 1 ∧ s.icodeSendEof = 2) := by
  obtain ⟨d, t, y, hp, -, heq⟩ := processExtRsp_eq created s hlen (by rw [h0]; decide)
    (by rw [h0]; decide) fun _ h => absurd (h1.symm.trans h) (by decide)
  obtain rfl := Option.some.inj (hr.symm.trans heq)
  have hp0 : y.pNtf 0 = 0x61 := by rw [hp, h0]
  have hp1 : y.pNtf 1 = 0x06 := by rw [hp, h1]
  unfold rspWorkaround
  rw [Rx.cond_of_not (by simp [Lib.Memory.agrees, hp1])]
  by_cases heof : s.icodeDetected = 1 ∧ s.icodeSendEof = 2
  · -- the branch for the response to an end of frame comes first
    rw [Rx.cond_of_agrees (by simp [heof]) rfl rfl]
    refine ⟨fun hreset => ?_, fun h => absurd heof h⟩
    exact absurd (heof.1.symm.trans hreset.1) (by decide)
  refine ⟨fun _ => heof, fun _ => ?_⟩
  rw [Rx.cond_of_not (heof_cond (s := { s with nfcdepDetected := d, dtaT1tFlag := t }) heof),
    Rx.cond_of_not (by simp [Lib.Memory.agrees, hp0]),
    Rx.cond_of_not (by simp [Lib.Memory.agrees, hp1])]
  rcases h with hreset | hdetected
  · rw [Rx.cond_of_not (by simp [hreset.1]), otherWorkaround_hal]
    exact hreset
  · rw [Rx.cond_of_agrees rfl (by simp [Lib.Memory.agrees, hp0, hp1]) (by simp [hdetected])]
    exact ⟨rfl, rfl⟩

end RxState

/-! ## Runs -/

namespace Writer

variable {w u : Writer} {i : WriterInput} {o : WriteOutcome}

/-- The steps after which both flags are to be zero: an `RF_DISCOVER_CMD` that passes the extensions,
and an `RF_DEACTIVATE_NTF`. -/
def Resets (w : Writer) : WriterInput → Prop
  | .write _ data =>
    w.hal.isOpen = true ∧ data.length ≤ nciMaxDataLen ∧ data.take 2 = [0x21, 0x03]
  | .receive _ pNtf pLen => 2 ≤ pLen ∧ pNtf 0 = 0x61 ∧ pNtf 1 = 0x06
  | _ => False

/-- A discovery is started without a tag, the deactivation is not notified while the response to an
end of frame is awaited, and it was not notified in the pause before the end of frame. -/
def Allowed (w : Writer) : WriterInput → Prop
  | .write retval data => w.Resets (.write retval data) → w.hal.icodeDetected = 0
  | .pauseEnds => w.hal.icodeDetected = 1
  | .receive created pNtf pLen =>
    w.Resets (.receive created pNtf pLen) → ¬ (w.hal.icodeDetected = 1 ∧ w.hal.icodeSendEof = 2)
  | _ => True

instance (w : Writer) (i : WriterInput) : Decidable (w.Resets i) :=
  match i with
  | .write _ _ => instDecidableAnd
  | .receive _ _ _ => instDecidableAnd
  | .written => instDecidableFalse
  | .pauseEnds => instDecidableFalse
  | .eofSent => instDecidableFalse

instance (w : Writer) (i : WriterInput) : Decidable (w.Allowed i) :=
  match i with
  | .write retval data => inferInstanceAs (Decidable (w.Resets (.write retval data) → _))
  | .receive created pNtf pLen =>
    inferInstanceAs (Decidable (w.Resets (.receive created pNtf pLen) → _))
  | .pauseEnds => inferInstanceAs (Decidable (_ = _))
  | .written => instDecidableTrue
  | .eofSent => instDecidableTrue

/-- What holds after a step: the flags are consistent, and zero after the steps that reset them. -/
structure Good (w : Writer) (i : WriterInput) (u : Writer) : Prop where
  consistent : u.hal.IcodeConsistent
  reset : w.Resets i → u.hal.IcodeReset

/-- A step keeps the invariant, and leads to what is expected of it, exactly if it is allowed. -/
theorem step_inv (h : w.hal.IcodeInv) (hs : w.step i = some (u, o)) :
    (w.Allowed i → u.hal.IcodeInv) ∧ (w.Allowed i ↔ w.Good i u) := by
  cases i with
  | write retval data =>
    rw [step] at hs
    split at hs
    · cases hs
      have hinv := HalState.beginWrite_inv retval data h
      refine ⟨fun _ => hinv, fun hallowed => ⟨hinv.consistent, fun hpass => ?_⟩, fun hgood hpass => ?_⟩
      · exact (HalState.beginWrite_reset_iff retval h hpass.1 hpass.2.1).2 (hallowed hpass)
      · exact (HalState.beginWrite_reset_iff retval h hpass.1 hpass.2.1).1 (hgood.reset hpass)
    · cases hs
  | written =>
    rw [step] at hs
    split at hs
    · cases hs
      exact ⟨fun _ => h, fun _ => ⟨h.consistent, False.elim⟩, fun _ => trivial⟩
    · cases hs
  | pauseEnds =>
    rw [step] at hs
    split at hs
    · cases hs
      refine ⟨Or.inr, fun hdetected => ⟨fun _ => hdetected, False.elim⟩, fun hgood => ?_⟩
      exact hgood.consistent (by decide : (2 : UInt8) ≠ 0)
    · cases hs
  | eofSent =>
    rw [step] at hs
    split at hs
    · cases hs
      exact ⟨fun _ => h, fun _ => ⟨h.consistent, False.elim⟩, fun _ => trivial⟩
    · cases hs
  | receive created pNtf pLen =>
    obtain ⟨q, hq, heq⟩ := Option.map_eq_some_iff.1 hs
    cases heq
    obtain ⟨r, hr, hhal⟩ := RxState.readComplete_hal hq
    have hinv : q.2.1.IcodeInv := by
      rw [hhal]
      exact RxState.processExtRsp_inv h hr
    have hdeactivate : w.Resets (.receive created pNtf pLen) →
        (q.2.1.IcodeReset ↔ ¬ (w.hal.icodeDetected = 1 ∧ w.hal.icodeSendEof = 2)) := by
      rintro ⟨hlen, h0, h1⟩
      rw [hhal]
      exact RxState.processExtRsp_deactivate h (by omega) h0 h1 hr
    refine ⟨fun _ => hinv, fun hallowed => ⟨hinv.consistent, fun hpass => ?_⟩, fun hgood hpass => ?_⟩
    · exact (hdeactivate hpass).2 (hallowed hpass)
    · exact (hdeactivate hpass).1 (hgood.reset hpass)

end Writer

open Writer in
/-- After every run of allowed steps the flags are consistent; and whatever step is taken then, it
leaves them consistent, and zero where it is to reset them, exactly if it is allowed. -/
theorem icodeFlags_consistent (s : RxState) {es : List (WriterInput × WriteOutcome)} {w : Writer}
    (hrun : Lib.Run (Lib.restrict Allowed step) (start s) es w) :
    w.hal.IcodeConsistent ∧
      ∀ i u o, w.step i = some (u, o) →
        (w.Allowed i ↔ u.hal.IcodeConsistent ∧ (w.Resets i → u.hal.IcodeReset)) := by
  have hinv : w.hal.IcodeInv := by
    refine (Lib.Run.outputs (I := fun w : Writer => w.hal.IcodeInv) (Q := fun _ => True)
      (fun h hs => ?_) hrun (Or.inl ⟨rfl, rfl⟩)).1
    obtain ⟨hallowed, hs⟩ := Lib.restrict_eq_some.1 hs
    exact ⟨(step_inv h hs).1 hallowed, trivial⟩
  refine ⟨hinv.consistent, fun i u o hs => (step_inv hinv hs).2.trans ?_⟩
  exact ⟨fun h => ⟨h.consistent, h.reset⟩, fun h => ⟨h.1, h.2⟩⟩

/-- The notification that an ISO 15693 tag is activated. -/
def icodeActivated : Lib.Memory :=
  Lib.Memory.put (fun _ => 0) 0 [0x61, 0x05, 0x15, 0x01, 0x01, 0x06, 0x06]

/-- An `RF_DISCOVER_CMD`, for technology A. -/
def discoverCmd : List UInt8 := [0x21, 0x03, 0x03, 0x01, 0x00, 0x01]

open Writer in
/-- A tag is activated, and then the discovery is started: it passes the extensions, and the tag is
still detected. -/
theorem icodeActivated_discover :
    ∃ es w u o, Lib.Run step (start RxState.init) es w ∧
      w.step (.write 0 discoverCmd) = some (u, o) ∧ w.Resets (.write 0 discoverCmd) ∧
      ¬ u.hal.IcodeReset := by
  refine ⟨_, _, _, _, Lib.run_of_exec (l := [.receive true icodeActivated 24]) rfl, rfl,
    ⟨rfl, by decide, by decide⟩, ?_⟩
  rintro ⟨hdetected, -⟩
  exact absurd hdetected (by decide)

/-- A command to a tag that is followed by an end of frame. -/
def icodeWrite : List UInt8 := [0x00, 0x00, 0x05, 0x60, 0x21, 0x00, 0x01, 0x02]

/-- The data that a tag answers. -/
def icodeAnswer : Lib.Memory := Lib.Memory.put (fun _ => 0) 0 [0x00, 0x00, 0x02, 0x05, 0x00]

/-- The notification that the RF interface is deactivated. -/
def deactivated : Lib.Memory := Lib.Memory.put (fun _ => 0) 0 [0x61, 0x06, 0x02, 0x00, 0x00]

/-- A tag is written to and left, and the discovery is started again. -/
def icodeSession : List WriterInput :=
  [.receive true icodeActivated 24, .write 0 icodeWrite, .written, .pauseEnds,
    .receive true icodeAnswer 5, .eofSent, .receive true icodeAnswer 5,
    .receive true deactivated 5, .write 0 discoverCmd]

open Writer in
theorem icodeSession_consistent :
    ∃ es w, Lib.exec (Lib.restrict Allowed step) (start RxState.init) icodeSession = some (es, w) ∧
      w.hal.IcodeConsistent :=
  ⟨_, _, rfl, (icodeFlags_consistent RxState.init (Lib.run_of_exec (l := icodeSession) rfl)).1⟩

end AliceHal.Pn54x.Hal
