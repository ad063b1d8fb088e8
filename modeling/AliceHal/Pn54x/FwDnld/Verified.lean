import AliceHal.Pn54x.FwDnld.Report

/-!
# Reported Success and What Was Checked

A run that reports success after a write has asked for the version and the integrity. It need not
have looked at the answers: the callbacks keep the status of an answer whose length they do not
expect, and the check of the CRC status starts at bit 1.

- `Verified`: version and integrity were confirmed after the last write
- `Event.unchecked`: the answers that pass unseen
- `fwDownloadSeq_verified_iff`: a reported success is a verified one without such answers
-/

namespace AliceHal.Pn54x.FwDnld

open Lib

/-! ## Answers after the last write -/

/-- A firmware write. -/
def Event.isWrite : Event → Bool
  | .request _ _ (.write false) _ => true
  | _ => false

/-- What is observed after the last firmware write. -/
def afterLastWrite (trace : List Event) : List Event :=
  (trace.reverse.takeWhile fun e => !e.isWrite).reverse

/-- The response to a version request. -/
def Event.versionRsp : Event → Option (List UInt8)
  | .request _ _ .getVersion (.completed _ rsp) => some rsp
  | _ => none

/-- The response to an integrity request. -/
def Event.integrityRsp : Event → Option (List UInt8)
  | .request _ _ (.checkIntegrity _) (.completed _ rsp) => some rsp
  | _ => none

/-- The version response received after the last write. -/
def versionAfterWrite (trace : List Event) : Option (List UInt8) :=
  (afterLastWrite trace).findSome? Event.versionRsp

/-- The integrity response received after that version response. -/
def integrityAfterWrite (trace : List Event) : Option (List UInt8) :=
  ((afterLastWrite trace).dropWhile fun e => e.versionRsp.isNone).findSome? Event.integrityRsp

/-- The version a response carries, most significant byte last. -/
def rspVersion (rsp : List UInt8) : Nat :=
  be16 (byteAt rsp (rsp.length - 1)) (byteAt rsp (rsp.length - 2))

/-- Bit `i` of the CRC status. -/
def crcBit (bCrcStatus : UInt8) (i : Nat) : Prop := bCrcStatus &&& (1 <<< UInt8.ofNat i) ≠ 0

/-- After the last write the NFCC has reported the version of the image in a response of the
expected length, and then the integrity with all CRC bits set in one of 31 bytes. -/
def Verified (o : Oracle) (trace : List Event) : Prop :=
  ∃ rspV rspC, versionAfterWrite trace = some rspV ∧ expectedVerLen rspV = some rspV.length ∧
    rspVersion rspV = o.wFwVer.toNat ∧ integrityAfterWrite trace = some rspC ∧
    rspC.length = 31 ∧ ∀ i < 7, crcBit (byteAt rspC 0) i

/-- An answer the callbacks do not look at: a version response after the write whose length is
not the expected one, an integrity response that does not have 31 bytes, or one with bit 0 of its
CRC status clear. -/
def Event.unchecked : Event → Bool
  | .request _ ctx .getVersion (.completed _ rsp) =>
    ctx.bDnldInitiated && decide (expectedVerLen rsp ≠ some rsp.length)
  | .request _ _ (.checkIntegrity _) (.completed _ rsp) =>
    decide (rsp.length ≠ 31) || decide (byteAt rsp 0 &&& 1 = 0)
  | _ => false

/-! ## What the callbacks check -/

/-- A version response of the expected length is accepted after the write only with the version of
the image. -/
theorem version_of_accepted {o : Oracle} {rsp : List UInt8} {ctx : FwIoctlCtx}
    (hinit : ctx.bDnldInitiated = true) (hlen : expectedVerLen rsp = some rsp.length)
    (h : (fwDnldGetVersionCb o NFCSTATUS.success rsp ctx).1 = NFCSTATUS.success) :
    rspVersion rsp = o.wFwVer.toNat := by
  have hne : rsp.length ≠ 0 := by
    intro h0
    rw [List.length_eq_zero_iff.1 h0] at hlen
    cases hlen
  -- only the comparison of the versions is left
  simp only [fwDnldGetVersionCb, if_true, if_neg hne, hlen, checkVersion, hinit, Bool.true_eq_false,
    false_and, if_false, true_and] at h
  by_cases hrom : byteAt rsp 1 = 0x07 ∧ hiByte o.wFwVer.toNat ≠ 0x01
  · rw [if_pos hrom] at h
    have hna : NFCSTATUS.notAllowed ≠ NFCSTATUS.success := by decide
    exact absurd h hna
  · rw [if_neg hrom] at h
    by_cases hver : loByte o.wFwVer.toNat ≠ byteAt rsp (rsp.length - 2) ∨
        hiByte o.wFwVer.toNat ≠ byteAt rsp (rsp.length - 1)
    · rw [if_pos hver] at h
      exact absurd h failed_ne_success
    · rw [not_or, not_not, not_not] at hver
      rw [rspVersion, ← hver.1, ← hver.2]
      exact be16_hiByte_loByte (UInt16.toNat_lt _)

/-- The CRC status is accepted when bits 1 to 6 are set; bit 0 is not looked at. -/
theorem verifyCrcStatus_success (b : UInt8) :
    verifyCrcStatus b = NFCSTATUS.success ↔ ∀ i, 1 ≤ i → i < 7 → crcBit b i := by
  have hgo : verifyCrcStatus b =
      if b &&& 64 = 0 then NFCSTATUS.failed else if b &&& 32 = 0 then NFCSTATUS.failed
      else if b &&& 16 = 0 then NFCSTATUS.failed else if b &&& 8 = 0 then NFCSTATUS.failed
      else if b &&& 4 = 0 then NFCSTATUS.failed else if b &&& 2 = 0 then NFCSTATUS.failed
      else NFCSTATUS.success := rfl
  have hbits : (∀ i, 1 ≤ i → i < 7 → crcBit b i) ↔ b &&& 64 ≠ 0 ∧ b &&& 32 ≠ 0 ∧ b &&& 16 ≠ 0 ∧
      b &&& 8 ≠ 0 ∧ b &&& 4 ≠ 0 ∧ b &&& 2 ≠ 0 := by
    constructor
    · intro h
      exact ⟨h 6 (by decide) (by decide), h 5 (by decide) (by decide), h 4 (by decide) (by decide),
        h 3 (by decide) (by decide), h 2 (by decide) (by decide), h 1 (by decide) (by decide)⟩
    · rintro ⟨h₆, h₅, h₄, h₃, h₂, h₁⟩ i hle hlt
      interval_cases i <;> assumption
  rw [hgo, hbits]
  have hfs := failed_ne_success
  split_ifs <;> simp_all

/-! ## A successful sequence with a write -/

/-- What is observed after a successful write whose checks all succeed. -/
structure Checked (o : Oracle) (k : SeqKind) (evs : List Event) (rspV rspC : List UInt8) :
    Prop where
  events : ∃ c₁ out₁ c₂ c₃ p out₃ c₄ v, c₂.bDnldInitiated = true ∧ evs =
    [.request k c₁ .getSessionState out₁,
      .request k c₂ .getVersion (.completed NFCSTATUS.success rspV), .request k c₃ (.log p) out₃,
      .request k c₄ (.checkIntegrity v) (.completed NFCSTATUS.success rspC)]
  version : expectedVerLen rspV = some rspV.length → rspVersion rspV = o.wFwVer.toNat
  integrity : rspC.length = 31 → verifyCrcStatus (byteAt rspC 0) = NFCSTATUS.success

section Success

variable {o : Oracle} {k : SeqKind} {s s' : HalState}

theorem PostOutcome.checked (h : PostOutcome o k s NFCSTATUS.success s')
    (hinit : s.ctx.bDnldInitiated = true) :
    ∃ evs rspV rspC, s'.trace = s.trace ++ evs ∧ Checked o k evs rspV rspC := by
  cases h with
  | @success rsp rspV rspL rspC t₁ t₃ ht₁ hver ht₃ hout =>
    have hinit₁ : t₁.ctx.bDnldInitiated = true := by
      rw [ht₁]
      exact hinit
    have htr₁ : t₁.trace = s.trace ++
        [Event.request k s.ctx .getSessionState (.completed NFCSTATUS.success rsp)] := by rw [ht₁]; rfl
    have htr₃ : t₃.trace = t₁.trace ++
        [Event.request k t₁.ctx .getVersion (.completed NFCSTATUS.success rspV)] ++
        [Event.request k (versionRead o k t₁ rspV).ctx (.log (versionRead o k t₁ rspV).ctx.tLogParams)
          (.completed NFCSTATUS.success rspL)] := by rw [ht₃]; rfl
    have htr := HalState.after_trace t₃ k (.checkIntegrity t₃.ctx.bChipVer)
      (.completed NFCSTATUS.success rspC) t₃.ctx
    rw [htr₃, htr₁, List.append_assoc, List.append_assoc, List.append_assoc] at htr
    refine ⟨_, rspV, rspC, htr, ⟨s.ctx, .completed NFCSTATUS.success rsp, t₁.ctx,
      (versionRead o k t₁ rspV).ctx, (versionRead o k t₁ rspV).ctx.tLogParams,
      .completed NFCSTATUS.success rspL, t₃.ctx, t₃.ctx.bChipVer, hinit₁, rfl⟩, ?_, ?_⟩
    · exact fun hlen => version_of_accepted hinit₁ hlen hver
    · intro hlen
      rw [fwDnldChkIntegrityCb, if_pos rfl, if_pos hlen] at hout
      exact hout

/-- A successful sequence: nothing but the part in front of the write, or a write and its
checks. -/
theorem DwnldOutcome.checked (h : DwnldOutcome o k s NFCSTATUS.success s') :
    ∃ pre, (∀ e ∈ pre, e.isPrelude k) ∧ (s'.trace = s.trace ++ pre ∨
      ∃ p c out q evs rspV rspC, s'.trace = s.trace ++ (pre ++ (Event.trig p ::
        Event.request k c (.write false) out :: Event.counted q :: evs)) ∧
          Checked o k evs rspV rspC) := by
  cases h with
  | stopped _ hst => exact absurd rfl hst
  | upToDate hpre _ => exact ⟨_, hpre.events, .inl hpre.trace⟩
  | @wrote s₁ pre _ _ hpre _ hwrite =>
    refine ⟨pre, hpre.events, .inr ?_⟩
    cases hwrite with
    | failed hst => exact absurd rfl hst
    | succeeded hpost =>
      obtain ⟨evs, rspV, rspC, htr, hchk⟩ := hpost.checked rfl
      rw [written_triggered_trace, hpre.trace, List.append_assoc, List.append_assoc] at htr
      exact ⟨_, _, _, _, evs, rspV, rspC, htr, hchk⟩

end Success

/-! ## Whole runs -/

/-- The part of a list after its last element with a property. -/
theorem afterLastWrite_append {pre post : List Event} {e : Event} (he : e.isWrite = true)
    (hpost : ∀ x ∈ post, x.isWrite = false) : afterLastWrite (pre ++ e :: post) = post := by
  have htake : (post.reverse ++ e :: pre.reverse).takeWhile (fun x => !x.isWrite) = post.reverse := by
    rw [List.takeWhile_append_of_pos fun x hx => ?_, List.takeWhile_cons_of_neg, List.append_nil]
    · rw [he]
      exact Bool.false_ne_true
    · rw [hpost x (List.mem_reverse.1 hx)]
      rfl
  rw [afterLastWrite, List.reverse_append, List.reverse_cons, List.append_assoc,
    List.singleton_append, htake, List.reverse_reverse]

/-- A request in front of the write is looked at. -/
theorem Event.isPrelude.checked {e : Event} {k : SeqKind} (h : e.isPrelude k) :
    e.unchecked = false ∧ e.isWrite = false := by
  cases e with
  | request k' ctx cmd out =>
    obtain ⟨-, hinit, hcmd⟩ := h
    rcases hcmd with ⟨src, freq, rfl⟩ | rfl | rfl | rfl
    · exact ⟨rfl, rfl⟩
    · exact ⟨rfl, rfl⟩
    · refine ⟨?_, rfl⟩
      cases out with
      | completed status rsp =>
        show (ctx.bDnldInitiated && _) = false
        rw [hinit]
        rfl
      | _ => rfl
    · exact ⟨rfl, rfl⟩
  | _ => exact h.elim

/-- The trace of a successful run with a write. -/
theorem Checked.verified_iff {o : Oracle} {k : SeqKind} {pre evs : List Event}
    {rspV rspC : List UInt8} {p q : EELogParams} {c : FwIoctlCtx} {out : CmdOutcome}
    {st : NFCSTATUS} (h : Checked o k evs rspV rspC) (hpre : ∀ e ∈ pre, e.isPrelude k) :
    let trace : List Event := pre ++ (Event.trig p :: Event.request k c (.write false) out ::
      Event.counted q :: (evs ++ [Event.sequence k st]))
    Verified o trace ↔ ∀ e ∈ trace, e.unchecked = false := by
  intro trace
  obtain ⟨c₁, out₁, c₂, c₃, r, out₃, c₄, v, hinit, hevs⟩ := h.events
  have hafter : afterLastWrite trace = Event.counted q :: (evs ++ [Event.sequence k st]) := by
    have htrace : trace = (pre ++ [Event.trig p]) ++ (Event.request k c (.write false) out ::
        Event.counted q :: (evs ++ [Event.sequence k st])) := by
      rw [List.append_assoc]
      rfl
    rw [htrace]
    refine afterLastWrite_append rfl ?_
    rw [hevs]
    simp [Event.isWrite]
  rw [hevs] at hafter
  have hversion : versionAfterWrite trace = some rspV := by
    rw [versionAfterWrite, hafter]
    rfl
  have hintegrity : integrityAfterWrite trace = some rspC := by
    rw [integrityAfterWrite, hafter]
    rfl
  -- two of the events can pass unseen
  have hunseen : (∀ e ∈ trace, e.unchecked = false) ↔
      expectedVerLen rspV = some rspV.length ∧ rspC.length = 31 ∧ byteAt rspC 0 &&& 1 ≠ 0 := by
    have hpre' : ∀ e ∈ pre, e.unchecked = false := fun e he => (hpre e he).checked.1
    simp only [trace, hevs, List.forall_mem_append, List.forall_mem_cons, Event.unchecked, hinit,
      Bool.true_and, Bool.or_eq_false_iff, decide_eq_false_iff_not, not_not, true_and, and_true,
      List.not_mem_nil, false_implies, implies_true, ne_eq]
    exact ⟨fun h => h.2, fun h => ⟨hpre', h⟩⟩
  clear_value trace
  rw [hunseen]
  constructor
  · rintro ⟨rspV', rspC', hV, hlenV, hver, hC, hlenC, hbits⟩
    obtain rfl := Option.some.inj (hversion.symm.trans hV)
    obtain rfl := Option.some.inj (hintegrity.symm.trans hC)
    exact ⟨hlenV, hlenC, hbits 0 (by decide)⟩
  · rintro ⟨hlenV, hlenC, hbit⟩
    refine ⟨rspV, rspC, hversion, hlenV, h.version hlenV, hintegrity, hlenC, fun i hi => ?_⟩
    cases i with
    | zero => exact hbit
    | succ i => exact (verifyCrcStatus_success _).1 (h.integrity hlenC) _ (Nat.succ_pos i) hi

/-- A run that made a write and reports success has verified the download exactly when all the
answers were looked at. -/
theorem fwDownloadSeq_verified_iff {o : Oracle} {src freq : UInt8} {fuel : Nat} {ctx : FwIoctlCtx}
    (hres : (fwDownloadSeq o src freq fuel ctx).1 = some NFCSTATUS.success)
    (hwrite : ∃ e ∈ (fwDownloadSeq o src freq fuel ctx).2.trace, e.isWrite = true) :
    Verified o (fwDownloadSeq o src freq fuel ctx).2.trace ↔
      ∀ e ∈ (fwDownloadSeq o src freq fuel ctx).2.trace, e.unchecked = false := by
  obtain ⟨hst, htr⟩ := fwDownloadSeq_of_success hres
  rw [htr] at hwrite ⊢
  rcases firstSequence_cases o src freq ctx with ⟨-, heq⟩ | ⟨st, s', hrun, heq⟩
  · rw [heq] at hst
    exact absurd hst failed_ne_success
  rw [heq] at hst hwrite ⊢
  obtain rfl : st = NFCSTATUS.success := hst
  obtain ⟨pre, hpre, htr' | ⟨p, c, out, q, evs, rspV, rspC, htr', hchk⟩⟩ := hrun.checked
  · -- without a write there is nothing to show
    obtain ⟨e, he, hw⟩ := hwrite
    rw [HalState.emit_trace, htr', List.nil_append] at he
    rcases List.mem_append.1 he with he | he
    · rw [(hpre e he).checked.2] at hw
      cases hw
    · rw [List.mem_singleton.1 he] at hw
      cases hw
  · have htrace : (s'.emit (.sequence .dwnld NFCSTATUS.success)).trace = pre ++ (Event.trig p ::
        Event.request .dwnld c (.write false) out :: Event.counted q ::
          (evs ++ [Event.sequence .dwnld NFCSTATUS.success])) := by
      rw [HalState.emit_trace, htr', List.append_assoc, List.append_assoc]
      rfl
    rw [htrace]
    exact hchk.verified_iff hpre

/-- The download that goes well is verified. -/
theorem goodDownload_verified :
    Verified (.script goesWell .initFailed 0x0102)
        (fwDownloadSeq (.script goesWell .initFailed 0x0102) 1 0 4 .init).2.trace ↔
      ∀ e ∈ (fwDownloadSeq (.script goesWell .initFailed 0x0102) 1 0 4 .init).2.trace,
        e.unchecked = false :=
  fwDownloadSeq_verified_iff (by decide) (by decide)

/-- The answers to a download whose version response after the write has one byte. -/
def shortVersion : List CmdOutcome :=
  goesWell.set 7 (.completed NFCSTATUS.success [8])

/-- The version response is cut short, and the download is reported as successful all the same. -/
theorem shortVersion_not_verified :
    (fwDownloadSeq (.script shortVersion .initFailed 0x0102) 1 0 4 .init).1 =
        some NFCSTATUS.success ∧
      (∃ e ∈ (fwDownloadSeq (.script shortVersion .initFailed 0x0102) 1 0 4 .init).2.trace,
        e.isWrite = true) ∧
      ¬Verified (.script shortVersion .initFailed 0x0102)
        (fwDownloadSeq (.script shortVersion .initFailed 0x0102) 1 0 4 .init).2.trace := by
  have hres : (fwDownloadSeq (.script shortVersion .initFailed 0x0102) 1 0 4 .init).1 =
      some NFCSTATUS.success := by decide
  have hwrite : ∃ e ∈ (fwDownloadSeq (.script shortVersion .initFailed 0x0102) 1 0 4 .init).2.trace,
      e.isWrite = true := by decide
  refine ⟨hres, hwrite, ?_⟩
  rintro ⟨rspV, -, hV, hlen, -⟩
  have hshort : versionAfterWrite (fwDownloadSeq (.script shortVersion .initFailed 0x0102) 1 0 4
      .init).2.trace = some [8] := by decide
  obtain rfl := Option.some.inj (hshort.symm.trans hV)
  exact absurd hlen (by decide)

end AliceHal.Pn54x.FwDnld
