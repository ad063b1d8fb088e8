import AliceHal.Pn54x.Hal.Ext

/-!
# Outgoing Packets Stay Well Formed

The third byte of an NCI packet counts the bytes after it. The extensions change that byte and the
length of the packet in separate assignments; the byte wraps around at 256, the length does not.

- `WellFormed`: the length byte counts what follows the header
- `HalState.LengthFits`: no extension that applies makes the length byte wrap around, and the
  packet is not the one whose response has a wrong length byte
- `writeExt_wellFormed_iff`: the packet sent, or the response, is well formed exactly then
-/

namespace AliceHal.Pn54x.Hal

/-- The length byte counts what follows the header. -/
def WellFormed (p : Lib.Memory) (len : ℕ) : Prop := len = (p 2).toNat + 3

/-- The packet is well formed if it is to be sent, and the response if there is one. -/
structure KeepsFormat (r : NFCSTATUS × HalState) : Prop where
  packet : r.1 = NFCSTATUS.success →
    WellFormed r.2.pCmdData r.2.cmdLen ∧ r.2.cmdLen ≤ nciMaxDataLen
  response : r.1 = NFCSTATUS.failed → WellFormed r.2.pRspData r.2.rspLen

namespace HalState

/-- The length byte does not wrap around where an extension adds to it, unless a later extension
replaces it, and no response has a wrong one. -/
structure LengthFits (retval : ℕ) (s : HalState) : Prop where
  felica : s.pCmdData.reads 0 [0xFE, 0xFE, 0xFE] → s.pCmdData.reads 3 [0x81, 0x01, 0x03]
  map : s.pCmdData.reads 0 [0x21, 0x00] → 253 ≤ (s.pCmdData 2).toNat →
    retval ≠ 1 ∧ (s.pCmdData.reads 3 [0x81, 0x01, 0x03] ∨ s.icodeDetected ≠ 0)
  discover : s.pCmdData.reads 0 [0x21, 0x03] → 250 ≤ (s.pCmdData 2).toNat → s.dtaCtrlFlag →
    s.profileType = .emvCo ∨ s.pCmdData.reads 3 [0x7E, 0x01, 0x03]

end HalState

/-! ## What the stages do -/

namespace HalState

variable {retval : ℕ} {s : HalState} {r : NFCSTATUS × HalState}

/-- Neither a buffer nor a flag changes. -/
theorem nfcDepCmdExt_eq (s : HalState) :
    ∃ poll, s.phNxpNciHalNfcDepCmdExt = { s with cmdPoll := poll } := by
  unfold phNxpNciHalNfcDepCmdExt
  split
  · split
    · exact ⟨s.cmdPoll, rfl⟩
    · exact ⟨_, rfl⟩
  · exact ⟨s.cmdPoll, rfl⟩

theorem discoveryCmdExt_eq (s : HalState) :
    ∃ cmd, s.phNxpNciHalDiscoveryCmdExt = { s with discoveryCmd := cmd } := by
  unfold phNxpNciHalDiscoveryCmdExt
  split
  · exact ⟨_, rfl⟩
  · exact ⟨s.discoveryCmd, rfl⟩

/-- The responses of the DTA mode. -/
def dtaResponses : List (List UInt8) := [setConfigRsp, [0x41, 0x08, 0x01, 0x00]]

/-- What the DTA mode does to a command. -/
theorem dtaCommand_cases (s : HalState) :
    (∃ rsp ∈ dtaResponses, s.dtaCommand = s.respond rsp) ∨
      s.dtaCommand =
        (NFCSTATUS.success, { s with pCmdData := (s.pCmdData.put 12 [0x40]).put 18 [0x02] }) ∨
      (s.pCmdData.reads 0 [0x21, 0x03] = true ∧ s.dtaCommand =
        (NFCSTATUS.success,
          { s with
            pCmdData := (s.pCmdData.put 2 [s.pCmdData 2 + 6, s.pCmdData 3 + 3]).put s.cmdLen
              [0x80, 0x01, 0x82, 0x01, 0x85, 0x01]
            cmdLen := s.cmdLen + 6 })) ∨
      s.dtaCommand = (NFCSTATUS.success, s) := by
  have hconfig : setConfigRsp ∈ dtaResponses := List.mem_cons_self
  have hfelica : [0x41, 0x08, 0x01, 0x00] ∈ dtaResponses := List.mem_cons_of_mem _ List.mem_cons_self
  unfold dtaCommand
  extract_lets p
  split
  · exact Or.inl ⟨_, hconfig, rfl⟩
  split
  · exact Or.inl ⟨_, hfelica, rfl⟩
  split
  · exact Or.inr (Or.inl rfl)
  split
  · exact Or.inl ⟨_, hconfig, rfl⟩
  split
  · rename_i hcmd
    exact Or.inr (Or.inr (Or.inl ⟨hcmd, rfl⟩))
  split
  · exact Or.inl ⟨_, hconfig, rfl⟩
  split
  · exact Or.inl ⟨_, hconfig, rfl⟩
  split
  · exact Or.inl ⟨_, hconfig, rfl⟩
  · exact Or.inr (Or.inr (Or.inr rfl))

/-- What the packets to an ISO 15693 tag become. -/
theorem icodeCommand_eq (s : HalState) :
    ∃ b eof, s.icodeCommand = { s with icodeSendEof := eof, pCmdData := s.pCmdData.put 3 [b] } := by
  have hself : s.pCmdData.put 3 [s.pCmdData 3] = s.pCmdData := by
    funext j
    rw [Lib.Memory.put]
    split
    · rename_i hj
      obtain rfl : j = 3 := by simp at hj; omega
      rfl
    · rfl
  unfold icodeCommand
  extract_lets u
  have hu : ∃ eof, u = { s with icodeSendEof := eof } := by
    by_cases heof : (s.pCmdData 3 &&& 0x40 == 0x40 && icodeEofCommands.contains (s.pCmdData 4)) = true
    · exact ⟨1, if_pos heof⟩
    · exact ⟨s.icodeSendEof, if_neg heof⟩
  obtain ⟨eof, hu⟩ := hu
  rw [hu]
  split
  · exact ⟨_, eof, rfl⟩
  · refine ⟨s.pCmdData 3, eof, ?_⟩
    rw [hself]

end HalState

/-! ## The length byte -/

/-- `k` bytes are appended to the packet, and counted by its length byte. -/
structure Adds (k : UInt8) (s u : HalState) : Prop where
  lengthByte : u.pCmdData 2 = s.pCmdData 2 + k
  cmdLen : u.cmdLen = s.cmdLen + k.toNat

namespace Adds

variable {k k' : UInt8} {s t u : HalState}

theorem refl (s : HalState) : Adds 0 s s := ⟨(UInt8.add_zero _).symm, rfl⟩

/-- Stores that do not reach the length byte. -/
theorem of_eq (hp : u.pCmdData 2 = s.pCmdData 2) (hlen : u.cmdLen = s.cmdLen) : Adds 0 s u :=
  ⟨hp.trans (UInt8.add_zero _).symm, hlen⟩

theorem wellFormed (h : Adds k s u) (hs : WellFormed s.pCmdData s.cmdLen)
    (hfit : (s.pCmdData 2).toNat + k.toNat < 256) : WellFormed u.pCmdData u.cmdLen := by
  rw [WellFormed] at hs
  rw [WellFormed, h.lengthByte, h.cmdLen, UInt8.toNat_add, Nat.mod_eq_of_lt hfit]
  omega

/-- A length byte that wraps around is wrong. -/
theorem not_wellFormed (h : Adds k s u) (hs : WellFormed s.pCmdData s.cmdLen)
    (hwrap : 256 ≤ (s.pCmdData 2).toNat + k.toNat) : ¬ WellFormed u.pCmdData u.cmdLen := by
  rw [WellFormed] at hs
  rw [WellFormed, h.lengthByte, h.cmdLen, UInt8.toNat_add]
  omega

end Adds

namespace HalState

variable {retval : ℕ} {s : HalState} {r : NFCSTATUS × HalState}

/-- The echo of the RID command lies past the header. -/
theorem dtaT1t_cases (r : NFCSTATUS × HalState) :
    dtaT1t r = r ∨ dtaT1t r =
      (NFCSTATUS.success,
        { r.2 with
          dtaT1tFlag := false
          pCmdData := r.2.pCmdData.put 6 [0x00, 0x00, 0x00, 0x00] }) := by
  unfold dtaT1t
  split
  · exact Or.inr rfl
  · exact Or.inl rfl

theorem adds_swapT3tFlags (r : NFCSTATUS × HalState) : Adds 0 r.2 (swapT3tFlags r).2 := by
  unfold swapT3tFlags
  extract_lets p
  split
  · split
    · rename_i i hi
      have hle := t3tScan_ge hi
      exact Adds.of_eq (Lib.Memory.put_of_lt (by omega)) rfl
    · exact Adds.refl r.2
  · exact Adds.refl r.2

/-- What the workarounds for single commands do to the length byte. -/
theorem adds_commandWorkaround (status : NFCSTATUS) (h3 : 3 ≤ s.cmdLen) :
    (s.pCmdData.reads 0 [0x21, 0x00] = true ∧ Adds 3 s (s.commandWorkaround status).2) ∨
      Adds 0 s (s.commandWorkaround status).2 ∨
      (s.pCmdData 2 = 9 ∧ Adds 1 s (s.commandWorkaround status).2) := by
  generalize hu : s.commandWorkaround status = u
  unfold commandWorkaround at hu
  extract_lets p q at hu
  split at hu
  · obtain ⟨cmd, heq⟩ := discoveryCmdExt_eq { s with icodeDetected := 0, icodeSendEof := 0 }
    rw [heq] at hu
    subst hu
    exact Or.inr (Or.inl (Adds.of_eq rfl rfl))
  split at hu
  · subst hu
    exact Or.inr (Or.inl (Adds.of_eq rfl rfl))
  split at hu
  · rename_i hconfig
    simp only [p, Lib.Memory.reads, Bool.and_eq_true, beq_iff_eq] at hconfig
    subst hu
    exact Or.inr (Or.inr ⟨hconfig.2.2.1, rfl, rfl⟩)
  split at hu
  · subst hu
    exact Or.inr (Or.inl (Adds.of_eq rfl rfl))
  split at hu
  · subst hu
    exact Or.inr (Or.inl (Adds.of_eq rfl rfl))
  split at hu
  · rename_i hmap
    subst hu
    have hq : s.pCmdData.put s.cmdLen [0x80, 0x01, 0x80] 2 = s.pCmdData 2 :=
      Lib.Memory.put_of_lt h3
    exact Or.inl ⟨hmap, congrArg (· + 3) hq, rfl⟩
  split at hu
  · rename_i hcheck
    simp only [p, Lib.Memory.reads, Bool.and_eq_true, beq_iff_eq] at hcheck
    subst hu
    exact Or.inr (Or.inl (Adds.of_eq hcheck.2.2.2.1.symm rfl))
  · subst hu
    exact Or.inr (Or.inl (Adds.refl s))

end HalState

/-! ## The response -/

/-- A packet that is not sent has a well-formed response. -/
def Answered (r : NFCSTATUS × HalState) : Prop :=
  r.1 = NFCSTATUS.success ∨ r.1 = NFCSTATUS.failed ∧ WellFormed r.2.pRspData r.2.rspLen

namespace HalState

variable {retval : ℕ} {s : HalState} {r : NFCSTATUS × HalState}

theorem answered_dtaUpdate (s : HalState) : Answered s.phNxpNHalDtaUpdate := by
  unfold phNxpNHalDtaUpdate
  split
  · have hcommand : Answered s.dtaCommand := by
      rcases s.dtaCommand_cases with ⟨rsp, hrsp, heq⟩ | heq | ⟨_, heq⟩ | heq
      · rw [heq]
        refine Or.inr ⟨rfl, ?_⟩
        rcases List.mem_pair.1 hrsp with rfl | rfl
        · rfl
        · rfl
      · exact Or.inl (congrArg Prod.fst heq)
      · exact Or.inl (congrArg Prod.fst heq)
      · exact Or.inl (congrArg Prod.fst heq)
    rcases dtaT1t_cases s.dtaCommand with heq | heq
    · rw [heq]
      exact hcommand
    · exact Or.inl (congrArg Prod.fst heq)
  · exact Or.inl rfl

theorem answered_selectMode (h : Answered r)
    (hfelica : r.2.pCmdData.reads 0 [0xFE, 0xFE, 0xFE] = false) : Answered (selectMode r) := by
  unfold selectMode
  extract_lets s
  rw [if_neg (by rw [hfelica]; exact Bool.false_ne_true)]
  split
  · exact Or.inl rfl
  split
  · exact Or.inl rfl
  · exact h

theorem answered_commandWorkaround {status : NFCSTATUS} (h : Answered (status, s)) :
    Answered (s.commandWorkaround status) := by
  generalize hu : s.commandWorkaround status = u
  unfold commandWorkaround at hu
  extract_lets p q at hu
  split at hu
  · obtain ⟨cmd, heq⟩ := discoveryCmdExt_eq { s with icodeDetected := 0, icodeSendEof := 0 }
    rw [heq] at hu
    subst hu
    exact h
  split at hu
  · subst hu
    exact Or.inr ⟨rfl, rfl⟩
  split at hu
  · subst hu
    exact h
  split at hu
  · subst hu
    exact Or.inr ⟨rfl, rfl⟩
  split at hu
  · subst hu
    exact h
  split at hu
  · subst hu
    exact h
  split at hu
  · subst hu
    exact Or.inl rfl
  · subst hu
    exact h

theorem answered_workaround {status : NFCSTATUS} (h : Answered (status, s)) :
    Answered (workaround retval status s) := by
  unfold workaround
  extract_lets p
  split
  · exact Or.inl rfl
  split
  · exact Or.inl rfl
  split
  · obtain ⟨b, eof, heq⟩ := s.icodeCommand_eq
    rw [heq]
    exact h
  · exact answered_commandWorkaround h

theorem answered_swapT3tFlags (h : Answered r) : Answered (swapT3tFlags r) := by
  unfold swapT3tFlags
  extract_lets p
  split
  · split
    · exact Or.inl rfl
    · exact h
  · exact h

/-- A well-formed packet and a well-formed response before the last stage. -/
theorem keepsFormat_swapT3tFlags (hpacket : WellFormed r.2.pCmdData r.2.cmdLen)
    (hlen : r.2.cmdLen ≤ nciMaxDataLen) (hrsp : Answered r) : KeepsFormat (swapT3tFlags r) := by
  have hadds := adds_swapT3tFlags r
  have hfit : (r.2.pCmdData 2).toNat + (0 : UInt8).toNat < 256 := UInt8.toNat_lt _
  refine ⟨fun _ => ⟨hadds.wellFormed hpacket hfit, hadds.cmdLen.trans_le hlen⟩, fun hfailed => ?_⟩
  rcases answered_swapT3tFlags hrsp with hsuccess | ⟨_, hwf⟩
  · exact absurd (hsuccess.symm.trans hfailed) (by decide)
  · exact hwf

end HalState

/-! ## Up to the workarounds -/

/-- The bytes that the workarounds look at first, the length and the ISO 15693 flags are the
same. -/
structure SameFront (s u : HalState) : Prop where
  bytes : ∀ i < 6, u.pCmdData i = s.pCmdData i
  cmdLen : u.cmdLen = s.cmdLen
  icodeDetected : u.icodeDetected = s.icodeDetected
  icodeSendEof : u.icodeSendEof = s.icodeSendEof

namespace SameFront

variable {s t u : HalState}

theorem refl (s : HalState) : SameFront s s := ⟨fun _ _ => rfl, rfl, rfl, rfl⟩

theorem trans (h : SameFront s t) (h' : SameFront t u) : SameFront s u :=
  ⟨fun i hi => (h'.bytes i hi).trans (h.bytes i hi), h'.cmdLen.trans h.cmdLen,
    h'.icodeDetected.trans h.icodeDetected, h'.icodeSendEof.trans h.icodeSendEof⟩

/-- Stores past the first bytes. -/
theorem of_put {k : ℕ} (hk : 6 ≤ k) {bs : List UInt8} (hp : u.pCmdData = s.pCmdData.put k bs)
    (hlen : u.cmdLen = s.cmdLen) (hicode : u.icodeDetected = s.icodeDetected)
    (heof : u.icodeSendEof = s.icodeSendEof) : SameFront s u := by
  refine ⟨fun i hi => ?_, hlen, hicode, heof⟩
  rw [hp]
  exact Lib.Memory.put_of_lt (hi.trans_le hk)

/-- Comparisons with the first bytes. -/
theorem reads (h : SameFront s u) {i : ℕ} {bs : List UInt8} (hi : i + bs.length ≤ 6) :
    u.pCmdData.reads i bs = s.pCmdData.reads i bs :=
  Lib.Memory.reads_congr fun k hk => h.bytes (i + k) (by omega)

end SameFront

namespace HalState

variable {retval : ℕ} {s : HalState} {r : NFCSTATUS × HalState}

/-- The stages between `phNxpNciHal_NfcDep_cmd_ext` and the workarounds. -/
def front (s : HalState) : NFCSTATUS × HalState :=
  ((selectMode s.phNxpNHalDtaUpdate).1, (selectMode s.phNxpNHalDtaUpdate).2.emvCoDiscover)

/-- The extensions by their stages. -/
theorem writeExt_stages (retval : ℕ) (s : HalState) :
    s.phNxpNciHalWriteExt retval =
      swapT3tFlags (workaround retval s.phNxpNciHalNfcDepCmdExt.front.1
        s.phNxpNciHalNfcDepCmdExt.front.2) := by
  unfold phNxpNciHalWriteExt
  extract_lets u r mode
  have hr : r = u.phNxpNHalDtaUpdate := by
    by_cases hflag : u.dtaCtrlFlag = true
    · exact if_pos hflag
    · rw [phNxpNHalDtaUpdate, if_neg hflag]
      exact if_neg hflag
  have hmode : mode = selectMode u.phNxpNHalDtaUpdate := congrArg selectMode hr
  rw [hmode]
  rfl

theorem writeExt_eq (retval : ℕ) (s : HalState) :
    ∃ poll, s.phNxpNciHalWriteExt retval =
      swapT3tFlags (workaround retval ({ s with cmdPoll := poll } : HalState).front.1
        ({ s with cmdPoll := poll } : HalState).front.2) := by
  obtain ⟨poll, hdep⟩ := s.nfcDepCmdExt_eq
  exact ⟨poll, hdep ▸ s.writeExt_stages retval⟩

theorem sameFront_dtaUpdate (hpoll : s.pCmdData.reads 0 [0x21, 0x03] = false) :
    SameFront s s.phNxpNHalDtaUpdate.2 := by
  unfold phNxpNHalDtaUpdate
  split
  · have hcommand : SameFront s s.dtaCommand.2 := by
      rcases s.dtaCommand_cases with ⟨rsp, _, heq⟩ | heq | ⟨hcmd, _⟩ | heq
      · rw [heq]
        exact ⟨fun _ _ => rfl, rfl, rfl, rfl⟩
      · rw [heq]
        have hfirst : SameFront s { s with pCmdData := s.pCmdData.put 12 [0x40] } :=
          .of_put (by decide) rfl rfl rfl rfl
        exact hfirst.trans (.of_put (by decide) rfl rfl rfl rfl)
      · rw [hpoll] at hcmd
        cases hcmd
      · rw [heq]
        exact SameFront.refl s
    refine hcommand.trans ?_
    rcases dtaT1t_cases s.dtaCommand with heq | heq
    · rw [heq]
      exact SameFront.refl _
    · rw [heq]
      exact .of_put (by decide) rfl rfl rfl rfl
  · exact SameFront.refl s

theorem sameFront_selectMode (r : NFCSTATUS × HalState) : SameFront r.2 (selectMode r).2 := by
  unfold selectMode
  extract_lets s
  split
  · exact ⟨fun _ _ => rfl, rfl, rfl, rfl⟩
  split
  · exact ⟨fun _ _ => rfl, rfl, rfl, rfl⟩
  split
  · exact ⟨fun _ _ => rfl, rfl, rfl, rfl⟩
  · exact SameFront.refl r.2

theorem emvCoDiscover_of_other (hpoll : s.pCmdData.reads 0 [0x21, 0x03] = false) :
    s.emvCoDiscover = s := by
  unfold emvCoDiscover
  rw [hpoll]
  split
  · split
    · rfl
    · rfl
  · rfl

theorem emvCoDiscover_of_poll (hprofile : s.profileType = .emvCo)
    (hpoll : s.pCmdData.reads 0 [0x21, 0x03] = true) :
    s.emvCoDiscover =
      { s with
        pCmdData := s.pCmdData.put 2 [0x05, 0x02, 0x00, 0x01, 0x01, 0x01]
        cmdLen := 8 } := by
  have hhead : s.pCmdData 1 = 0x03 := by
    simp only [Lib.Memory.reads, Bool.and_eq_true, beq_iff_eq] at hpoll
    exact hpoll.2.1
  rw [emvCoDiscover, if_pos hprofile, if_neg (by simp [Lib.Memory.reads, hhead]), if_pos hpoll]

/-- Commands other than the one that starts the discovery. -/
theorem sameFront_front (hpoll : s.pCmdData.reads 0 [0x21, 0x03] = false) :
    SameFront s s.front.2 := by
  have hr : SameFront s (selectMode s.phNxpNHalDtaUpdate).2 :=
    (sameFront_dtaUpdate hpoll).trans (sameFront_selectMode _)
  have hkeep := emvCoDiscover_of_other ((hr.reads (by decide)).trans hpoll)
  rw [front, hkeep]
  exact hr

/-- The DTA mode does nothing to commands it does not know but for the RID command. -/
theorem dtaCommand_of_other (hconfig : s.pCmdData.reads 0 [0x20, 0x02] = false)
    (hfelica : s.pCmdData.reads 0 [0x21, 0x08] = false)
    (hpoll : s.pCmdData.reads 0 [0x21, 0x03] = false) :
    s.dtaCommand = (NFCSTATUS.success, s) := by
  simp only [Lib.Memory.reads, Bool.and_true] at hconfig hfelica hpoll
  simp [dtaCommand, Lib.Memory.reads, ← Bool.and_assoc, hconfig, hfelica, hpoll]

theorem selectMode_of_other (hconfig : r.2.pCmdData.reads 0 [0x20, 0x02] = false)
    (hmode : r.2.pCmdData.reads 0 [0xFE, 0xFE, 0xFE] = false) : selectMode r = r := by
  simp only [Lib.Memory.reads, Bool.and_true] at hconfig
  unfold selectMode
  extract_lets s
  rw [if_neg (by rw [hmode]; exact Bool.false_ne_true)]
  simp [s, Lib.Memory.reads, ← Bool.and_assoc, hconfig]

/-- Commands that the DTA mode does not know, and that select no mode. -/
theorem front_of_other (hconfig : s.pCmdData.reads 0 [0x20, 0x02] = false)
    (hfelica : s.pCmdData.reads 0 [0x21, 0x08] = false)
    (hpoll : s.pCmdData.reads 0 [0x21, 0x03] = false)
    (hmode : s.pCmdData.reads 0 [0xFE, 0xFE, 0xFE] = false) : s.front.1 = NFCSTATUS.success := by
  have hsame := sameFront_dtaUpdate hpoll
  have hselect := selectMode_of_other ((hsame.reads (by decide)).trans hconfig)
    ((hsame.reads (by decide)).trans hmode)
  rw [front, hselect]
  unfold phNxpNHalDtaUpdate
  split
  · rw [dtaCommand_of_other hconfig hfelica hpoll]
    rcases dtaT1t_cases (NFCSTATUS.success, s) with heq | heq
    · rw [heq]
    · rw [heq]
  · rfl

/-- The proprietary command has a response with a wrong length byte. -/
theorem front_felica (hmode : s.pCmdData.reads 0 [0xFE, 0xFE, 0xFE] = true) :
    s.front.1 = NFCSTATUS.failed ∧ s.front.2.rspLen = 4 ∧ s.front.2.pRspData 2 = 0 := by
  have hpoll : s.pCmdData.reads 0 [0x21, 0x03] = false := by
    simp only [Lib.Memory.reads, Bool.and_eq_true, beq_iff_eq] at hmode
    simp [Lib.Memory.reads, hmode.1]
  have hsame := sameFront_dtaUpdate hpoll
  have hselect : selectMode s.phNxpNHalDtaUpdate = _ :=
    if_pos ((hsame.reads (by decide)).trans hmode)
  have hkeep : (selectMode s.phNxpNHalDtaUpdate).2.emvCoDiscover =
      (selectMode s.phNxpNHalDtaUpdate).2 := by
    refine emvCoDiscover_of_other ?_
    rw [hselect]
    exact (hsame.reads (by decide)).trans hpoll
  rw [front, hkeep, hselect]
  exact ⟨rfl, rfl, rfl⟩

/-! ## The three commands at fault -/

theorem swapT3tFlags_of_other (hconfig : r.2.pCmdData.reads 0 [0x20, 0x02] = false) :
    swapT3tFlags r = r :=
  if_neg (by rw [hconfig]; exact Bool.false_ne_true)

theorem commandWorkaround_of_felica (hmode : s.pCmdData 0 = 0xFE) (status : NFCSTATUS) :
    s.commandWorkaround status = (status, s) := by
  simp [commandWorkaround, Lib.Memory.reads, hmode]

theorem commandWorkaround_of_map (hmap : s.pCmdData.reads 0 [0x21, 0x00] = true)
    (status : NFCSTATUS) :
    (s.commandWorkaround status).1 = status ∧
      (s.commandWorkaround status).2.pCmdData =
        ((s.pCmdData.put s.cmdLen [0x80, 0x01, 0x80]).put 5 [0x01, 0x01]).put 2
          [((s.pCmdData.put s.cmdLen [0x80, 0x01, 0x80]).put 5 [0x01, 0x01]) 2 + 3,
            ((s.pCmdData.put s.cmdLen [0x80, 0x01, 0x80]).put 5 [0x01, 0x01]) 3 + 1] ∧
      (s.commandWorkaround status).2.cmdLen = s.cmdLen + 3 := by
  simp only [Lib.Memory.reads, Bool.and_true, Bool.and_eq_true, beq_iff_eq] at hmap
  simp [commandWorkaround, Lib.Memory.reads, hmap.1, hmap.2]

theorem not_keepsFormat_felica (hmode : s.pCmdData.reads 0 [0xFE, 0xFE, 0xFE] = true)
    (hhost : s.pCmdData.reads 3 [0x81, 0x01, 0x03] = false) :
    ¬ KeepsFormat (swapT3tFlags (workaround retval s.front.1 s.front.2)) := by
  have hhead : s.pCmdData 0 = 0xFE := by
    simp only [Lib.Memory.reads, Bool.and_eq_true, beq_iff_eq] at hmode
    exact hmode.1
  have hpoll : s.pCmdData.reads 0 [0x21, 0x03] = false := by
    simp [Lib.Memory.reads, hhead]
  have hsame := sameFront_front hpoll
  obtain ⟨hfailed, hlen, hbyte⟩ := front_felica hmode
  have hfront : s.front.2.pCmdData 0 = 0xFE := (hsame.bytes 0 (by decide)).trans hhead
  have hmap : retval = 1 → s.front.2.pCmdData.reads 0 [0x21, 0x00] = false := fun _ => by
    simp [Lib.Memory.reads, hfront]
  have hhost' : s.front.2.pCmdData.reads 3 [0x81, 0x01, 0x03] = false :=
    (hsame.reads (by decide)).trans hhost
  -- the response stays as it was prepared
  have hw : ∃ w : HalState, workaround retval s.front.1 s.front.2 = (NFCSTATUS.failed, w) ∧
      w.pCmdData 0 = 0xFE ∧ w.rspLen = 4 ∧ w.pRspData 2 = 0 := by
    by_cases hicode : s.front.2.icodeDetected = 0
    · rw [workaround_of_command hmap hhost' hicode, commandWorkaround_of_felica hfront, hfailed]
      exact ⟨_, rfl, hfront, hlen, hbyte⟩
    · rw [workaround_of_icode hmap hhost' hicode, hfailed]
      obtain ⟨b, eof, heq⟩ := s.front.2.icodeCommand_eq
      rw [heq]
      exact ⟨_, rfl, hfront, hlen, hbyte⟩
  obtain ⟨w, heq, hw0, hwlen, hwbyte⟩ := hw
  have hswap : swapT3tFlags (NFCSTATUS.failed, w) = (NFCSTATUS.failed, w) :=
    swapT3tFlags_of_other (by simp [Lib.Memory.reads, hw0])
  rw [heq, hswap]
  intro h
  have hwf : w.rspLen = (w.pRspData 2).toNat + 3 := h.response rfl
  rw [hwlen, hwbyte] at hwf
  exact absurd hwf (by decide)

/-- A discovery map that gets MIFARE is longer by three bytes. -/
theorem adds_of_map (retval : ℕ) (status : NFCSTATUS) (h3 : 3 ≤ s.cmdLen)
    (hmap : s.pCmdData.reads 0 [0x21, 0x00] = true)
    (hcase : retval = 1 ∨ (s.pCmdData.reads 3 [0x81, 0x01, 0x03] = false ∧ s.icodeDetected = 0)) :
    Adds 3 s (workaround retval status s).2 ∧
      (workaround retval status s).2.pCmdData 0 = s.pCmdData 0 ∧
      ((workaround retval status s).1 = NFCSTATUS.success ∨
        (workaround retval status s).1 = status) := by
  have hput : s.pCmdData.put s.cmdLen [0x80, 0x01, 0x80] 0 = s.pCmdData 0 ∧
      s.pCmdData.put s.cmdLen [0x80, 0x01, 0x80] 2 = s.pCmdData 2 :=
    ⟨Lib.Memory.put_of_lt (by omega), Lib.Memory.put_of_lt h3⟩
  by_cases hretval : retval = 1
  · rw [workaround_of_mifare hretval hmap]
    refine ⟨⟨?_, rfl⟩, ?_, Or.inl rfl⟩
    · exact (Lib.Memory.put_of_lt h3).trans (Lib.Memory.put_add (j := 0) (by simp))
    · exact Lib.Memory.put_of_lt (by omega)
  · obtain ⟨hhost, hicode⟩ := hcase.resolve_left hretval
    rw [workaround_of_command (fun h => absurd h hretval) hhost hicode]
    obtain ⟨hstatus, hmem, hlen⟩ := commandWorkaround_of_map hmap status
    refine ⟨⟨?_, hlen⟩, ?_, Or.inr hstatus⟩
    · rw [hmem]
      exact congrArg (· + 3) hput.2
    · rw [hmem]
      exact hput.1

theorem not_keepsFormat_map (hwf : WellFormed s.pCmdData s.cmdLen)
    (hmap : s.pCmdData.reads 0 [0x21, 0x00] = true) (hbig : 253 ≤ (s.pCmdData 2).toNat)
    (hcase : retval = 1 ∨ (s.pCmdData.reads 3 [0x81, 0x01, 0x03] = false ∧ s.icodeDetected = 0)) :
    ¬ KeepsFormat (swapT3tFlags (workaround retval s.front.1 s.front.2)) := by
  have hhead : s.pCmdData 0 = 0x21 ∧ s.pCmdData 1 = 0x00 := by
    simpa [Lib.Memory.reads] using hmap
  have hother : s.pCmdData.reads 0 [0x20, 0x02] = false ∧ s.pCmdData.reads 0 [0x21, 0x08] = false ∧
      s.pCmdData.reads 0 [0x21, 0x03] = false ∧
      s.pCmdData.reads 0 [0xFE, 0xFE, 0xFE] = false := by
    simp [Lib.Memory.reads, hhead.1, hhead.2]
  obtain ⟨hconfig, hfelica, hpoll, hmode⟩ := hother
  have hsame := sameFront_front hpoll
  have hstatus := front_of_other hconfig hfelica hpoll hmode
  have h3 : 3 ≤ s.front.2.cmdLen := by
    rw [hsame.cmdLen, hwf]
    exact Nat.le_add_left 3 _
  have hwf' : WellFormed s.front.2.pCmdData s.front.2.cmdLen := by
    rw [WellFormed, hsame.cmdLen, hsame.bytes 2 (by decide)]
    exact hwf
  obtain ⟨hadds, hw0, hsent⟩ := adds_of_map retval s.front.1 h3
    ((hsame.reads (by decide)).trans hmap)
    (hcase.imp_right fun h => ⟨(hsame.reads (by decide)).trans h.1,
      hsame.icodeDetected.trans h.2⟩)
  rw [hsame.bytes 0 (by decide), hhead.1] at hw0
  rw [hstatus, or_self] at hsent
  rw [swapT3tFlags_of_other (by simp [Lib.Memory.reads, hw0])]
  intro h
  refine hadds.not_wellFormed hwf' ?_ (h.packet ?_).1
  · rw [hsame.bytes 2 (by decide)]
    exact Nat.add_le_add_right hbig 3
  · rw [hstatus]
    exact hsent

theorem dtaCommand_of_poll (hpoll : s.pCmdData.reads 0 [0x21, 0x03] = true) :
    s.dtaCommand =
      (NFCSTATUS.success,
        { s with
          pCmdData := (s.pCmdData.put 2 [s.pCmdData 2 + 6, s.pCmdData 3 + 3]).put s.cmdLen
            [0x80, 0x01, 0x82, 0x01, 0x85, 0x01]
          cmdLen := s.cmdLen + 6 }) := by
  have hhead : s.pCmdData 0 = 0x21 ∧ s.pCmdData 1 = 0x03 := by
    simpa [Lib.Memory.reads] using hpoll
  simp [dtaCommand, Lib.Memory.reads, hhead.1, hhead.2]

/-- What the command that starts the discovery becomes in the DTA mode. -/
theorem dtaUpdate_of_poll (h2 : 2 ≤ s.cmdLen) (hpoll : s.pCmdData.reads 0 [0x21, 0x03] = true)
    (hflag : s.dtaCtrlFlag = true) :
    s.phNxpNHalDtaUpdate.1 = NFCSTATUS.success ∧
      (∀ i < 6, s.phNxpNHalDtaUpdate.2.pCmdData i =
        (s.pCmdData.put 2 [s.pCmdData 2 + 6, s.pCmdData 3 + 3]).put s.cmdLen
          [0x80, 0x01, 0x82, 0x01, 0x85, 0x01] i) ∧
      s.phNxpNHalDtaUpdate.2.pCmdData.reads 0 [0x21, 0x03] = true ∧
      s.phNxpNHalDtaUpdate.2.cmdLen = s.cmdLen + 6 ∧
      s.phNxpNHalDtaUpdate.2.profileType = s.profileType := by
  have hhead : s.pCmdData 0 = 0x21 ∧ s.pCmdData 1 = 0x03 := by
    simpa [Lib.Memory.reads] using hpoll
  have hput : ∀ i < 2, ((s.pCmdData.put 2 [s.pCmdData 2 + 6, s.pCmdData 3 + 3]).put s.cmdLen
      [0x80, 0x01, 0x82, 0x01, 0x85, 0x01]) i = s.pCmdData i := fun i hi =>
    (Lib.Memory.put_of_lt (hi.trans_le h2)).trans (Lib.Memory.put_of_lt hi)
  have hreads : ((s.pCmdData.put 2 [s.pCmdData 2 + 6, s.pCmdData 3 + 3]).put s.cmdLen
      [0x80, 0x01, 0x82, 0x01, 0x85, 0x01]).reads 0 [0x21, 0x03] = true := by
    simp [Lib.Memory.reads, hput, hhead.1, hhead.2]
  rw [phNxpNHalDtaUpdate, if_pos hflag, dtaCommand_of_poll hpoll]
  rcases dtaT1t_cases _ with heq | heq
  · rw [heq]
    exact ⟨rfl, fun i _ => rfl, hreads, rfl, rfl⟩
  · rw [heq]
    refine ⟨rfl, fun i hi => Lib.Memory.put_of_lt hi, ?_, rfl, rfl⟩
    exact (Lib.Memory.reads_congr fun k hk => Lib.Memory.put_of_lt (by simp at hk; omega)).trans hreads

/-- The workarounds leave the length byte of the command that starts the discovery, unless it has
the bytes of the host list. -/
theorem workaround_of_poll (retval : ℕ) (status : NFCSTATUS)
    (hpoll : s.pCmdData.reads 0 [0x21, 0x03] = true)
    (hhost : s.pCmdData.reads 3 [0x81, 0x01, 0x03] = false) :
    Adds 0 s (workaround retval status s).2 ∧ (workaround retval status s).1 = status ∧
      (workaround retval status s).2.pCmdData 0 = s.pCmdData 0 := by
  have hhead : s.pCmdData 0 = 0x21 ∧ s.pCmdData 1 = 0x03 := by
    simpa [Lib.Memory.reads] using hpoll
  have hmap : retval = 1 → s.pCmdData.reads 0 [0x21, 0x00] = false := fun _ => by
    simp [Lib.Memory.reads, hhead.2]
  by_cases hicode : s.icodeDetected = 0
  · rw [workaround_of_command hmap hhost hicode, commandWorkaround, if_pos hpoll]
    obtain ⟨cmd, heq⟩ := discoveryCmdExt_eq { s with icodeDetected := 0, icodeSendEof := 0 }
    rw [heq]
    exact ⟨Adds.of_eq rfl rfl, rfl, rfl⟩
  · rw [workaround_of_icode hmap hhost hicode]
    obtain ⟨b, eof, heq⟩ := s.icodeCommand_eq
    rw [heq]
    exact ⟨Adds.of_eq rfl rfl, rfl, rfl⟩

/-- The command that starts the discovery selects no mode. -/
theorem front_of_poll (h2 : 2 ≤ s.cmdLen) (hpoll : s.pCmdData.reads 0 [0x21, 0x03] = true) :
    s.front = (NFCSTATUS.success, s.phNxpNHalDtaUpdate.2.emvCoDiscover) ∧
      s.phNxpNHalDtaUpdate.2.pCmdData.reads 0 [0x21, 0x03] = true ∧
      s.phNxpNHalDtaUpdate.2.profileType = s.profileType := by
  have hdta : s.phNxpNHalDtaUpdate.1 = NFCSTATUS.success ∧
      s.phNxpNHalDtaUpdate.2.pCmdData.reads 0 [0x21, 0x03] = true ∧
      s.phNxpNHalDtaUpdate.2.profileType = s.profileType := by
    by_cases hflag : s.dtaCtrlFlag = true
    · obtain ⟨hstatus, -, hhead, -, hprofile⟩ := dtaUpdate_of_poll h2 hpoll hflag
      exact ⟨hstatus, hhead, hprofile⟩
    · rw [phNxpNHalDtaUpdate, if_neg hflag]
      exact ⟨rfl, hpoll, rfl⟩
  refine ⟨?_, hdta.2⟩
  have hhead : s.phNxpNHalDtaUpdate.2.pCmdData 0 = 0x21 := by
    have := hdta.2.1
    simp only [Lib.Memory.reads, Bool.and_eq_true, beq_iff_eq] at this
    exact this.1
  have hselect := selectMode_of_other (r := s.phNxpNHalDtaUpdate)
    (by simp [Lib.Memory.reads, hhead]) (by simp [Lib.Memory.reads, hhead])
  rw [front, hselect, hdta.1]

/-- Without the EMVCo profile the DTA mode adds six bytes. -/
theorem adds_front_of_poll (h3 : 3 ≤ s.cmdLen) (hpoll : s.pCmdData.reads 0 [0x21, 0x03] = true)
    (hflag : s.dtaCtrlFlag = true) (hprofile : s.profileType ≠ .emvCo) :
    Adds 6 s s.front.2 ∧ s.front.2.pCmdData.reads 0 [0x21, 0x03] = true ∧
      (6 ≤ s.cmdLen → s.front.2.pCmdData.reads 3 [0x81, 0x01, 0x03] =
        s.pCmdData.reads 3 [0x7E, 0x01, 0x03]) := by
  obtain ⟨hfront, hhead, hsame⟩ := front_of_poll (by omega) hpoll
  obtain ⟨-, hbytes, -, hlen, -⟩ := dtaUpdate_of_poll (by omega) hpoll hflag
  have hkeep : s.phNxpNHalDtaUpdate.2.emvCoDiscover = s.phNxpNHalDtaUpdate.2 := by
    rw [emvCoDiscover, hsame, if_neg hprofile]
  rw [hfront, hkeep]
  refine ⟨⟨?_, hlen⟩, hhead, fun h6 => ?_⟩
  · rw [hbytes 2 (by decide)]
    exact (Lib.Memory.put_of_lt h3).trans (Lib.Memory.put_add (j := 0) (by simp))
  · have hbyte3 : s.phNxpNHalDtaUpdate.2.pCmdData 3 = s.pCmdData 3 + 3 := by
      rw [hbytes 3 (by decide), Lib.Memory.put_of_lt (by omega)]
      rfl
    have hbyte4 : s.phNxpNHalDtaUpdate.2.pCmdData 4 = s.pCmdData 4 := by
      rw [hbytes 4 (by decide), Lib.Memory.put_of_lt (by omega)]
      rfl
    have hbyte5 : s.phNxpNHalDtaUpdate.2.pCmdData 5 = s.pCmdData 5 := by
      rw [hbytes 5 (by decide), Lib.Memory.put_of_lt (by omega)]
      rfl
    have hwrap : (s.pCmdData 3 + 3 == 0x81) = (s.pCmdData 3 == 0x7E) := by
      generalize s.pCmdData 3 = b
      revert b
      decide +kernel
    simp only [Lib.Memory.reads, hbyte3, hbyte4, hbyte5, hwrap]

theorem not_keepsFormat_discover (hwf : WellFormed s.pCmdData s.cmdLen)
    (hpoll : s.pCmdData.reads 0 [0x21, 0x03] = true) (hbig : 250 ≤ (s.pCmdData 2).toNat)
    (hflag : s.dtaCtrlFlag = true) (hprofile : s.profileType ≠ .emvCo)
    (hhost : s.pCmdData.reads 3 [0x7E, 0x01, 0x03] = false) :
    ¬ KeepsFormat (swapT3tFlags (workaround retval s.front.1 s.front.2)) := by
  have hlen : s.cmdLen = (s.pCmdData 2).toNat + 3 := hwf
  obtain ⟨hadds, hhead, hhost'⟩ := adds_front_of_poll (by omega) hpoll hflag hprofile
  have hstatus : s.front.1 = NFCSTATUS.success := by
    rw [(front_of_poll (by omega) hpoll).1]
  obtain ⟨hkeep, hsent, hw0⟩ := workaround_of_poll retval s.front.1 hhead
    ((hhost' (by omega)).trans hhost)
  have hhead0 : s.front.2.pCmdData 0 = 0x21 := by
    simp only [Lib.Memory.reads, Bool.and_eq_true, beq_iff_eq] at hhead
    exact hhead.1
  rw [hhead0] at hw0
  rw [swapT3tFlags_of_other (by simp [Lib.Memory.reads, hw0])]
  intro h
  have hsix : Adds 6 s (workaround retval s.front.1 s.front.2).2 := by
    refine ⟨?_, hkeep.cmdLen.trans hadds.cmdLen⟩
    rw [hkeep.lengthByte, UInt8.add_zero]
    exact hadds.lengthByte
  refine hsix.not_wellFormed hwf (Nat.add_le_add_right hbig 6) (h.packet ?_).1
  exact hsent.trans hstatus

/-! ## All other packets -/

theorem keepsFormat_hostList (hmap : retval = 1 → s.pCmdData.reads 0 [0x21, 0x00] = false)
    (hhost : s.pCmdData.reads 3 [0x81, 0x01, 0x03] = true) (status : NFCSTATUS) :
    KeepsFormat (swapT3tFlags (workaround retval status s)) := by
  rw [workaround_of_hostList hmap hhost]
  exact keepsFormat_swapT3tFlags rfl (by decide : 7 ≤ nciMaxDataLen) (Or.inl rfl)

theorem keepsFormat_of_poll (hwf : WellFormed s.pCmdData s.cmdLen)
    (hpoll : s.pCmdData.reads 0 [0x21, 0x03] = true) (hfits : s.LengthFits retval) :
    KeepsFormat (swapT3tFlags (workaround retval s.front.1 s.front.2)) := by
  have hlen : s.cmdLen = (s.pCmdData 2).toNat + 3 := hwf
  have hbyte := UInt8.toNat_lt (s.pCmdData 2)
  obtain ⟨hfront, hhead, hsame⟩ := front_of_poll (by omega) hpoll
  have hstatus : s.front.1 = NFCSTATUS.success := by rw [hfront]
  -- either the packet is still well formed, or it gets the host list
  have hcase : s.front.2.pCmdData.reads 0 [0x21, 0x03] = true ∧
      ((WellFormed s.front.2.pCmdData s.front.2.cmdLen ∧ s.front.2.cmdLen ≤ 264) ∨
        s.front.2.pCmdData.reads 3 [0x81, 0x01, 0x03] = true) := by
    by_cases hprofile : s.profileType = .emvCo
    · have hput : s.front.2 =
          { s.phNxpNHalDtaUpdate.2 with
            pCmdData := s.phNxpNHalDtaUpdate.2.pCmdData.put 2 [0x05, 0x02, 0x00, 0x01, 0x01, 0x01]
            cmdLen := 8 } := by
        rw [hfront, emvCoDiscover_of_poll (hsame.trans hprofile) hhead]
      rw [hput]
      exact ⟨hhead, Or.inl ⟨rfl, (by decide : 8 ≤ 264)⟩⟩
    · by_cases hflag : s.dtaCtrlFlag = true
      · obtain ⟨hadds, hhead', hhost⟩ := adds_front_of_poll (by omega) hpoll hflag hprofile
        refine ⟨hhead', ?_⟩
        by_cases hbig : 250 ≤ (s.pCmdData 2).toNat
        · refine Or.inr ((hhost (by omega)).trans ?_)
          exact (hfits.discover hpoll hbig hflag).resolve_left hprofile
        · have hfit : (s.pCmdData 2).toNat + (6 : UInt8).toNat < 256 := by
            have : (6 : UInt8).toNat = 6 := rfl
            omega
          refine Or.inl ⟨hadds.wellFormed hwf hfit, ?_⟩
          have hlen' : s.front.2.cmdLen = s.cmdLen + 6 := hadds.cmdLen
          omega
      · have hkeep : s.front.2 = s := by
          rw [hfront, emvCoDiscover, hsame, if_neg hprofile, phNxpNHalDtaUpdate, if_neg hflag]
        rw [hkeep]
        exact ⟨hpoll, Or.inl ⟨hwf, by omega⟩⟩
  obtain ⟨hhead', hcase⟩ := hcase
  have hmap : retval = 1 → s.front.2.pCmdData.reads 0 [0x21, 0x00] = false := fun _ => by
    simp only [Lib.Memory.reads, Bool.and_eq_true, beq_iff_eq] at hhead'
    simp [Lib.Memory.reads, hhead'.2.1]
  by_cases hhost : s.front.2.pCmdData.reads 3 [0x81, 0x01, 0x03] = true
  · exact keepsFormat_hostList hmap hhost _
  · obtain ⟨hwf', hlen'⟩ := hcase.resolve_right hhost
    obtain ⟨hadds, hsent, -⟩ := workaround_of_poll retval s.front.1 hhead'
      (Bool.eq_false_iff.2 hhost)
    refine keepsFormat_swapT3tFlags (hadds.wellFormed hwf' (UInt8.toNat_lt _)) ?_ (Or.inl ?_)
    · exact hadds.cmdLen.trans_le (hlen'.trans (by decide))
    · exact hsent.trans hstatus

theorem keepsFormat_of_other (hwf : WellFormed s.pCmdData s.cmdLen)
    (hpoll : s.pCmdData.reads 0 [0x21, 0x03] = false) (hfits : s.LengthFits retval) :
    KeepsFormat (swapT3tFlags (workaround retval s.front.1 s.front.2)) := by
  have hlen : s.cmdLen = (s.pCmdData 2).toNat + 3 := hwf
  have hbyte := UInt8.toNat_lt (s.pCmdData 2)
  have hsame := sameFront_front hpoll
  have hwf' : WellFormed s.front.2.pCmdData s.front.2.cmdLen := by
    rw [WellFormed, hsame.cmdLen, hsame.bytes 2 (by decide)]
    exact hwf
  have h3 : 3 ≤ s.front.2.cmdLen := by
    rw [hsame.cmdLen]
    omega
  have hmapread : s.front.2.pCmdData.reads 0 [0x21, 0x00] = s.pCmdData.reads 0 [0x21, 0x00] :=
    hsame.reads (by decide)
  have hhostread : s.front.2.pCmdData.reads 3 [0x81, 0x01, 0x03] =
      s.pCmdData.reads 3 [0x81, 0x01, 0x03] := hsame.reads (by decide)
  -- what is left to show of the packet after the workarounds
  have hfinish : ∀ {k : UInt8}, Adds k s.front.2 (workaround retval s.front.1 s.front.2).2 →
      k.toNat ≤ 3 → (s.pCmdData 2).toNat + k.toNat < 256 →
      Answered (workaround retval s.front.1 s.front.2) →
      KeepsFormat (swapT3tFlags (workaround retval s.front.1 s.front.2)) := by
    intro k hadds hk hfit hanswered
    refine keepsFormat_swapT3tFlags (hadds.wellFormed hwf' ?_) ?_ hanswered
    · rw [hsame.bytes 2 (by decide)]
      exact hfit
    · rw [hadds.cmdLen, hsame.cmdLen, nciMaxDataLen]
      omega
  by_cases hmap : retval = 1 ∧ s.pCmdData.reads 0 [0x21, 0x00] = true
  · -- MIFARE is added
    obtain ⟨hadds, -, -⟩ := adds_of_map retval s.front.1 h3 (hmapread.trans hmap.2) (Or.inl hmap.1)
    refine hfinish hadds le_rfl ?_ (Or.inl ?_)
    · by_contra hwrap
      have hbig : 253 ≤ (s.pCmdData 2).toNat := by
        have : (3 : UInt8).toNat = 3 := rfl
        omega
      exact (hfits.map hmap.2 hbig).1 hmap.1
    · rw [workaround_of_mifare hmap.1 (hmapread.trans hmap.2)]
  have hnomap : retval = 1 → s.front.2.pCmdData.reads 0 [0x21, 0x00] = false := fun h1 =>
    hmapread.trans (Bool.eq_false_iff.2 fun h2 => hmap ⟨h1, h2⟩)
  by_cases hhost : s.pCmdData.reads 3 [0x81, 0x01, 0x03] = true
  · exact keepsFormat_hostList hnomap (hhostread.trans hhost) _
  have hnohost : s.front.2.pCmdData.reads 3 [0x81, 0x01, 0x03] = false :=
    hhostread.trans (Bool.eq_false_iff.2 hhost)
  have hmode : s.pCmdData.reads 0 [0xFE, 0xFE, 0xFE] = false :=
    Bool.eq_false_iff.2 fun h => hhost (hfits.felica h)
  have hanswered : Answered s.front := by
    have hdta := sameFront_dtaUpdate hpoll
    have hselect := answered_selectMode (answered_dtaUpdate s)
      ((hdta.reads (by decide)).trans hmode)
    have hkeep : (selectMode s.phNxpNHalDtaUpdate).2.emvCoDiscover =
        (selectMode s.phNxpNHalDtaUpdate).2 :=
      emvCoDiscover_of_other (((hdta.trans (sameFront_selectMode _)).reads (by decide)).trans hpoll)
    rw [front, hkeep]
    exact hselect
  have hanswered' : Answered (workaround retval s.front.1 s.front.2) := answered_workaround hanswered
  by_cases hicode : s.front.2.icodeDetected = 0
  · have hadds := adds_commandWorkaround s.front.1 h3
    rw [← workaround_of_command hnomap hnohost hicode] at hadds
    rcases hadds with ⟨hread, hadds⟩ | hadds | ⟨hnine, hadds⟩
    · refine hfinish hadds le_rfl ?_ hanswered'
      by_contra hwrap
      have hbig : 253 ≤ (s.pCmdData 2).toNat := by
        have : (3 : UInt8).toNat = 3 := rfl
        omega
      rcases (hfits.map (hmapread.symm.trans hread) hbig).2 with hhost' | hicode'
      · exact hhost hhost'
      · exact hicode' (hsame.icodeDetected.symm.trans hicode)
    · exact hfinish hadds (Nat.zero_le 3) hbyte hanswered'
    · refine hfinish hadds (by decide) ?_ hanswered'
      rw [← hsame.bytes 2 (by decide), hnine]
      decide
  · have hadds : Adds 0 s.front.2 (workaround retval s.front.1 s.front.2).2 := by
      rw [workaround_of_icode hnomap hnohost hicode]
      obtain ⟨b, eof, heq⟩ := s.front.2.icodeCommand_eq
      rw [heq]
      exact Adds.of_eq rfl rfl
    exact hfinish hadds (Nat.zero_le 3) hbyte hanswered'

theorem keepsFormat_iff (hwf : WellFormed s.pCmdData s.cmdLen) :
    KeepsFormat (swapT3tFlags (workaround retval s.front.1 s.front.2)) ↔ s.LengthFits retval := by
  constructor
  · intro h
    refine ⟨fun hmode => ?_, fun hmap hbig => ?_, fun hpoll hbig hflag => ?_⟩
    · by_contra hhost
      exact not_keepsFormat_felica hmode (Bool.eq_false_iff.2 hhost) h
    · have hcase : ¬ (retval = 1 ∨
          (s.pCmdData.reads 3 [0x81, 0x01, 0x03] = false ∧ s.icodeDetected = 0)) := fun hcase =>
        not_keepsFormat_map hwf hmap hbig hcase h
      refine ⟨fun h1 => hcase (Or.inl h1), ?_⟩
      by_contra hnot
      rw [not_or, not_not] at hnot
      exact hcase (Or.inr ⟨Bool.eq_false_iff.2 hnot.1, hnot.2⟩)
    · by_contra hnot
      rw [not_or] at hnot
      exact not_keepsFormat_discover hwf hpoll hbig hflag hnot.1 (Bool.eq_false_iff.2 hnot.2) h
  · intro hfits
    cases hpoll : s.pCmdData.reads 0 [0x21, 0x03] with
    | true => exact keepsFormat_of_poll hwf hpoll hfits
    | false => exact keepsFormat_of_other hwf hpoll hfits

end HalState

/-- Of a well-formed packet, what is sent or the response is well formed exactly when the length
byte fits. -/
theorem writeExt_wellFormed_iff (retval : ℕ) (s : HalState)
    (hwf : WellFormed s.pCmdData s.cmdLen) :
    KeepsFormat (s.phNxpNciHalWriteExt retval) ↔ s.LengthFits retval := by
  obtain ⟨poll, heq⟩ := HalState.writeExt_eq retval s
  rw [heq, HalState.keepsFormat_iff (s := { s with cmdPoll := poll }) hwf]
  exact ⟨fun h => ⟨h.felica, h.map, h.discover⟩, fun h => ⟨h.felica, h.map, h.discover⟩⟩

/-- A discovery map of 84 entries, as long as a packet with this header can be. -/
def longDiscoverMap : HalState :=
  { HalState.init with
    pCmdData := Lib.Memory.put (fun _ => 0x01) 0 [0x21, 0x00, 0xFD, 0x54]
    cmdLen := 256 }

/-- With MIFARE it has 259 bytes and a length byte of zero. -/
theorem longDiscoverMap_wraps :
    WellFormed longDiscoverMap.pCmdData longDiscoverMap.cmdLen ∧
      ¬ KeepsFormat (longDiscoverMap.phNxpNciHalWriteExt 1) :=
  ⟨rfl, fun h => absurd (h.packet rfl).1 (by unfold WellFormed; decide)⟩

/-- A discovery map of one entry. -/
def shortDiscoverMap : HalState :=
  { HalState.init with
    pCmdData := Lib.Memory.put (fun _ => 0x01) 0 [0x21, 0x00, 0x04, 0x01]
    cmdLen := 7 }

theorem shortDiscoverMap_keepsFormat :
    WellFormed shortDiscoverMap.pCmdData shortDiscoverMap.cmdLen ∧
      KeepsFormat (shortDiscoverMap.phNxpNciHalWriteExt 1) :=
  ⟨rfl, (writeExt_wellFormed_iff 1 shortDiscoverMap rfl).2
    ⟨by decide, fun _ h => absurd h (by decide), by decide⟩⟩

end AliceHal.Pn54x.Hal
