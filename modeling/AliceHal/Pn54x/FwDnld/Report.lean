import AliceHal.Pn54x.FwDnld.Termination

/-!
# The Status a Run Reports

Every level of the completion handler returns its own status, so that the caller gets the status
of the first download sequence, whatever the sequences after it returned. A failed first
sequence that is followed by a successful retry is reported as a failure.

- `lastStatus`: what the last download sequence returned
- `Event.finishesRetry`: the answers with which a retried sequence succeeds
- `fwDownloadSeq_reports`: a run returns the status of its first sequence
- `fwDownloadSeq_reports_last_iff`: when this is also the status of the last one
-/

namespace AliceHal.Pn54x.FwDnld

/-! ## Statuses of the download sequences -/

/-- The status of a download sequence that has returned. -/
def Event.dwnldStatus : Event → Option NFCSTATUS
  | .sequence .dwnld st | .sequence .retry st => some st
  | _ => none

/-- The status of the last download sequence of the run, if there was one. -/
def lastStatus (trace : List Event) : Option NFCSTATUS :=
  (trace.filterMap Event.dwnldStatus).getLast?

theorem dwnldStatus_of_not_run {e : Event} (h : e.isDwnldRun = false) : e.dwnldStatus = none := by
  cases e with
  | sequence k st =>
    cases k with
    | dwnld => cases h
    | retry => cases h
    | _ => rfl
  | _ => rfl

/-- Other events do not change it. -/
theorem lastStatus_append_other {trace evs : List Event} (h : ∀ e ∈ evs, e.isDwnldRun = false) :
    lastStatus (trace ++ evs) = lastStatus trace := by
  have hnone : evs.filterMap Event.dwnldStatus = [] := by
    rw [List.filterMap_eq_nil_iff]
    exact fun e he => dwnldStatus_of_not_run (h e he)
  rw [lastStatus, List.filterMap_append, hnone, List.append_nil]
  rfl

theorem lastStatus_append_run {trace : List Event} {k : SeqKind} (st : NFCSTATUS)
    (hk : k = .dwnld ∨ k = .retry) : lastStatus (trace ++ [.sequence k st]) = some st := by
  have hone : [Event.sequence k st].filterMap Event.dwnldStatus = [st] := by
    rcases hk with rfl | rfl <;> rfl
  rw [lastStatus, List.filterMap_append, hone, List.getLast?_concat]

/-! ## Answers that finish a retried sequence -/

/-- An answer with which a retried download sequence succeeds: before the write the NFCC reports
the version of the image, or the integrity is accepted. -/
def Event.finishesRetry (o : Oracle) : Event → Bool
  | .request k ctx .getVersion out =>
    decide (k = .retry) && (Event.request k ctx .getVersion out).upToDate o
  | .request k ctx (.checkIntegrity bChipVer) out =>
    decide (k = .retry) && succeeds o ctx (.checkIntegrity bChipVer) out
  | _ => false

/-- Between the states a retried sequence is finished if and only if `b`. -/
def Finishing (o : Oracle) (s s' : HalState) (b : Bool) : Prop :=
  ∃ evs, s'.trace = s.trace ++ evs ∧ (∀ e ∈ evs, e.isDwnldRun = false) ∧
    evs.any (Event.finishesRetry o) = b

section Finishing

variable {o : Oracle} {k : SeqKind} {s s₁ s' : HalState} {st : NFCSTATUS} {b b' : Bool}

theorem Finishing.trans (h : Finishing o s s₁ b) (h' : Finishing o s₁ s' b') :
    Finishing o s s' (b || b') := by
  obtain ⟨evs, htr, hev, hb⟩ := h
  obtain ⟨evs', htr', hev', hb'⟩ := h'
  refine ⟨evs ++ evs', by rw [htr', htr, List.append_assoc], fun e he => ?_, ?_⟩
  · exact (List.mem_append.1 he).elim (hev e) (hev' e)
  · rw [List.any_append, hb, hb']

/-- A single request. -/
theorem finishing_after {cmd : DnldCmd} {out : CmdOutcome} {ctx : FwIoctlCtx}
    (h : (Event.request k s.ctx cmd out).finishesRetry o = b) :
    Finishing o s (s.after k cmd out ctx) b :=
  ⟨_, rfl, by simp [Event.isDwnldRun], by rw [List.any_cons, List.any_nil, Bool.or_false, h]⟩

/-- After the write has been triggered the version no longer finishes anything. -/
theorem finishesRetry_version_after {ctx : FwIoctlCtx} {out : CmdOutcome}
    (hinit : ctx.bDnldInitiated = true) :
    (Event.request k ctx .getVersion out).finishesRetry o = false := by
  have hup : (Event.request k ctx .getVersion out).upToDate o = false := by
    cases out with
    | completed status rsp =>
      show (!ctx.bDnldInitiated && _) = false
      rw [hinit]
      rfl
    | _ => rfl
  show (decide (k = .retry) && (Event.request k ctx .getVersion out).upToDate o) = false
  rw [hup, Bool.and_false]

/-- In front of the write a sequence is finished when its version is up to date. -/
theorem Event.isPrelude.finishesRetry {e : Event} (h : e.isPrelude k) :
    e.finishesRetry o = (decide (k = .retry) && e.upToDate o) := by
  cases e with
  | request k' ctx cmd out =>
    obtain ⟨rfl, -, hcmd⟩ := h
    rcases hcmd with ⟨src, freq, rfl⟩ | rfl | rfl | rfl
    · exact (Bool.and_false _).symm
    · exact (Bool.and_false _).symm
    · rfl
    · exact (Bool.and_false _).symm
  | _ => exact h.elim

theorem Prelude.finishing {evs : List Event} (h : Prelude o k s st s' evs)
    (hskip : s.ctx.bSkipSeq = false) :
    Finishing o s s' (decide (k = .retry) && s'.ctx.bSkipSeq) := by
  refine ⟨evs, h.trace, fun e he => ?_, ?_⟩
  · have hpre := h.events e he
    cases e with
    | request _ _ _ _ => rfl
    | _ => exact hpre.elim
  · rw [Bool.eq_iff_iff, List.any_eq_true, Bool.and_eq_true, h.skip, hskip]
    constructor
    · rintro ⟨e, he, hfin⟩
      rw [(h.events e he).finishesRetry, Bool.and_eq_true] at hfin
      exact ⟨hfin.1, .inr ⟨e, he, hfin.2⟩⟩
    · rintro ⟨hk, hset | ⟨e, he, hup⟩⟩
      · exact Bool.noConfusion hset
      · refine ⟨e, he, ?_⟩
        rw [(h.events e he).finishesRetry, hk, hup]
        rfl

theorem not_finished (h : st ≠ NFCSTATUS.success) :
    (decide (k = .retry) && decide (st = NFCSTATUS.success)) = false := by
  rw [decide_eq_false h, Bool.and_false]

/-- After a successful write the sequence is finished when the integrity is accepted. -/
theorem PostOutcome.finishing (h : PostOutcome o k s st s') (hinit : s.ctx.bDnldInitiated = true) :
    Finishing o s s' (decide (k = .retry) && decide (st = NFCSTATUS.success)) := by
  have hclosed : ∀ rsp, Finishing o s (sessnClosed k s rsp) false := fun rsp => finishing_after rfl
  have hlogged : ∀ rsp rspV rspL,
      Finishing o s (logged k (versionRead o k (sessnClosed k s rsp) rspV) rspL) false := by
    intro rsp rspV rspL
    have hread : Finishing o s (versionRead o k (sessnClosed k s rsp) rspV) false :=
      (hclosed rsp).trans (finishing_after (finishesRetry_version_after hinit))
    exact hread.trans (finishing_after rfl)
  cases h with
  | sessn _ =>
    rw [not_finished failed_ne_success]
    exact finishing_after rfl
  | version =>
    rw [not_finished failed_ne_success]
    exact (hclosed _).trans (finishing_after (finishesRetry_version_after hinit))
  | log ht _ =>
    subst ht
    rw [not_finished failed_ne_success]
    exact ((hclosed _).trans (finishing_after (finishesRetry_version_after hinit))).trans
      (finishing_after rfl)
  | integrity ht hout =>
    subst ht
    refine (hlogged _ _ _).trans (finishing_after ?_)
    show (decide (k = .retry) && succeeds o _ (.checkIntegrity _) _) = _
    rw [hout]
    rfl
  | success ht₁ _ ht₃ hout =>
    subst ht₁ ht₃
    refine (hlogged _ _ _).trans (finishing_after ?_)
    show (decide (k = .retry) && decide ((fwDnldChkIntegrityCb _ _ _).1 = NFCSTATUS.success)) = _
    rw [hout]
    rfl

theorem finishing_written (out : CmdOutcome) (ctx : FwIoctlCtx) :
    Finishing o s (written k s out ctx) false := by
  have hreq : Finishing o s (s.after k (.write false) out ctx) false := finishing_after rfl
  exact hreq.trans ⟨_, rfl, by simp [Event.isDwnldRun], rfl⟩

theorem WriteOutcome.finishing (h : WriteOutcome o k s st s')
    (hinit : s.ctx.bDnldInitiated = true) :
    Finishing o s s' (decide (k = .retry) && decide (st = NFCSTATUS.success)) := by
  cases h with
  | refused =>
    rw [not_finished failed_ne_success]
    exact finishing_written _ _
  | interrupted =>
    rw [not_finished failed_ne_success]
    exact finishing_after rfl
  | failed hst =>
    rw [not_finished hst]
    exact finishing_written _ _
  | succeeded hpost =>
    rw [← Bool.false_or (_ && _)]
    exact (finishing_written _ _).trans (hpost.finishing hinit)

/-- A download sequence is finished when it succeeds. -/
theorem DwnldOutcome.finishing (h : DwnldOutcome o k s st s') (hskip : s.ctx.bSkipSeq = false) :
    Finishing o s s' (decide (k = .retry) && decide (st = NFCSTATUS.success)) := by
  cases h with
  | stopped hpre hst =>
    have hnot : s'.ctx.bSkipSeq = false := by
      rw [← Bool.not_eq_true]
      exact fun hset => hst (hpre.fail hskip hset)
    have hfin := hpre.finishing hskip
    rw [hnot] at hfin
    rw [Bool.and_false] at hfin
    rw [not_finished hst]
    exact hfin
  | upToDate hpre hset =>
    have hfin := hpre.finishing hskip
    rw [hset] at hfin
    exact hfin
  | @noSem s₁ _ hpre hnot =>
    have hfin : Finishing o s (noRetry s₁) _ := hpre.finishing hskip
    rw [hnot, Bool.and_false] at hfin
    rw [not_finished failed_ne_success]
    exact hfin.trans (finishing_after rfl)
  | @wrote s₁ _ _ _ hpre hnot hwrite =>
    have hfin := hpre.finishing hskip
    rw [hnot, Bool.and_false] at hfin
    have htrig : Finishing o s₁ (triggered s₁) false := ⟨_, rfl, by simp [Event.isDwnldRun], rfl⟩
    rw [← Bool.false_or (_ && _)]
    exact (hfin.trans htrig).trans (hwrite.finishing rfl)

end Finishing

/-! ## The status of the first sequence -/

section Reports

variable {o : Oracle} {src freq : UInt8} {ctx : FwIoctlCtx} {fuel : Nat} {st w : NFCSTATUS}
  {s s' : HalState}

/-- A run that ends returns the status of its first level. -/
theorem fwDnldComplete_status {v : NFCSTATUS} (h : (fwDnldComplete o fuel st s).1 = some v) :
    v = (completeLevel o st s).1 := by
  cases fuel with
  | zero => cases h
  | succ fuel =>
    obtain ⟨w, again, s', hlevel⟩ : ∃ w again s', completeLevel o st s = (w, again, s') :=
      ⟨_, _, _, rfl⟩
    cases again with
    | true =>
      rw [fwDnldComplete_again hlevel] at h
      obtain ⟨_, -, hv⟩ := Option.map_eq_some_iff.1 h
      rw [hlevel]
      exact hv.symm
    | false =>
      rw [fwDnldComplete_done hlevel] at h
      rw [hlevel]
      exact (Option.some.inj h).symm

/-- With nothing pending, a run that ends adds nothing to the trace. -/
theorem fwDnldComplete_settled {v : NFCSTATUS} (h : Settled st s.ctx)
    (hres : (fwDnldComplete o fuel st s).1 = some v) :
    (fwDnldComplete o fuel st s).2.trace = s.trace := by
  cases fuel with
  | zero => cases hres
  | succ fuel =>
    have hlevel := levelOutcome o st s
    have hagain := (h.level hlevel).1
    rw [hagain] at hlevel
    rw [fwDnldComplete_done (Prod.ext rfl (Prod.ext hagain rfl))]
    exact hlevel.trace_of_done

/-- A level with a pending log of a failed download returns the status of that download. -/
theorem LevelOutcome.status_of_initiated {again : Bool} (h : LevelOutcome o st s w again s')
    (hinit : s.ctx.bDnldInitiated = true) (hst : st ≠ NFCSTATUS.success) : w = st := by
  have hset : (requestRecovery st s.ctx).bDnldInitiated = true := by
    rw [requestRecovery_initiated, hinit]
  cases h with
  | log hc _ hlog => exact hlog.status hst
  | recover hc hnot _ _ _ =>
    rw [hc, hset] at hnot
    cases hnot
  | retry hc hnot _ _ _ =>
    rw [hc, hset] at hnot
    cases hnot
  | done hc hnot _ _ =>
    rw [hc, hset] at hnot
    cases hnot

/-- A run that ends returns the status of its first download sequence, if the mode switches
succeed. -/
theorem fwDownloadSeq_reports (hio : ∀ n, o.ioctl n = true)
    (hres : (fwDownloadSeq o src freq fuel ctx).1 = some st) :
    st = (firstSequence o src freq ctx).1 := by
  have hv : st = (completeLevel o (firstSequence o src freq ctx).1
      (firstSequence o src freq ctx).2).1 := fwDnldComplete_status hres
  have hlevel := levelOutcome o (firstSequence o src freq ctx).1 (firstSequence o src freq ctx).2
  rw [← hv] at hlevel
  obtain ⟨hsend, ⟨hinit, hne⟩ | hsettled⟩ := firstSequence_pending o src freq ctx
  · exact hlevel.status_of_initiated hinit hne
  · have hdone := (hsettled.level hlevel).2 hsend
    rw [hio] at hdone
    exact hdone

/-- A run that reports success consists of its first sequence, which succeeded. -/
theorem fwDownloadSeq_of_success
    (hres : (fwDownloadSeq o src freq fuel ctx).1 = some NFCSTATUS.success) :
    (firstSequence o src freq ctx).1 = NFCSTATUS.success ∧
      (fwDownloadSeq o src freq fuel ctx).2.trace = (firstSequence o src freq ctx).2.trace := by
  have hv : NFCSTATUS.success = (completeLevel o (firstSequence o src freq ctx).1
      (firstSequence o src freq ctx).2).1 := fwDnldComplete_status hres
  have hlevel := levelOutcome o (firstSequence o src freq ctx).1 (firstSequence o src freq ctx).2
  rw [← hv] at hlevel
  obtain ⟨hsend, ⟨hinit, hne⟩ | hsettled⟩ := firstSequence_pending o src freq ctx
  · exact absurd (hlevel.status_of_initiated hinit hne).symm hne
  · refine ⟨?_, fwDnldComplete_settled hsettled hres⟩
    have hdone := (hsettled.level hlevel).2 hsend
    split at hdone
    · exact hdone.symm
    · exact absurd hdone.symm failed_ne_success

/-! ## The status of the last sequence -/

/-- A run whose first sequence failed, in front of a level: no retry has succeeded yet, or one
has and nothing is pending. -/
inductive Retrying (o : Oracle) (st : NFCSTATUS) (s : HalState) : Prop where
  | failing (hlast : lastStatus s.trace ≠ some NFCSTATUS.success)
      (hfin : s.trace.any (Event.finishesRetry o) = false)
  | finished (hsettled : Settled st s.ctx) (hlast : lastStatus s.trace = some NFCSTATUS.success)
      (hfin : s.trace.any (Event.finishesRetry o) = true)

/-- The last sequence succeeded if and only if a retried one was finished. -/
theorem Retrying.last_iff (h : Retrying o st s) :
    lastStatus s.trace = some NFCSTATUS.success ↔ s.trace.any (Event.finishesRetry o) = true := by
  cases h with
  | failing hlast hfin => exact ⟨fun h => absurd h hlast, fun h => Bool.noConfusion (hfin ▸ h)⟩
  | finished _ hlast hfin => exact ⟨fun _ => hfin, fun _ => hlast⟩

/-- Events of the log and recovery sequences change neither side. -/
theorem Retrying.append_other {evs : List Event} {trace : List Event}
    (hlast : lastStatus trace ≠ some NFCSTATUS.success)
    (hfin : trace.any (Event.finishesRetry o) = false) (htr : s'.trace = trace ++ evs)
    (hrun : ∀ e ∈ evs, e.isDwnldRun = false) (hev : ∀ e ∈ evs, e.finishesRetry o = false) :
    Retrying o w s' := by
  refine .failing ?_ ?_
  · rw [htr, lastStatus_append_other hrun]
    exact hlast
  · rw [htr, List.any_append, hfin, Bool.false_or, List.any_eq_false]
    exact fun e he => by rw [hev e he]; exact Bool.false_ne_true

theorem Event.isRecover.not_finishesRetry {e : Event} (h : e.isRecover) :
    e.finishesRetry o = false := by
  cases e with
  | request k ctx cmd out =>
    cases cmd with
    | getVersion => cases k <;> exact h.elim
    | checkIntegrity _ => cases k <;> exact h.elim
    | _ => rfl
  | _ => rfl

theorem Retrying.level (h : Retrying o st s) (hlevel : LevelOutcome o st s w true s') :
    Retrying o w s' := by
  cases h with
  | finished hsettled _ _ => exact Bool.noConfusion (hsettled.level hlevel).1
  | failing hlast hfin =>
    cases hlevel with
    | log hc hinit hlog =>
      obtain ⟨st', ⟨-, htr⟩ | ⟨c', out, htr⟩⟩ := hlog.trace
      · exact .append_other hlast hfin htr (by simp [Event.isDwnldRun]) (by simp [Event.finishesRetry])
      · exact .append_other hlast hfin htr (by simp [Event.isDwnldRun]) (by simp [Event.finishesRetry])
    | @recover _ _ s₁ hc hinit hrec hrun hdone =>
      obtain ⟨evs, htr, hev, -⟩ := hrun.events
      have htr' : (s₁.emit (.sequence .recover w)).trace =
          s.trace ++ (evs ++ [.sequence .recover w]) := by
        rw [HalState.emit_trace, htr, List.append_assoc]
      refine .append_other hlast hfin htr' (fun e he => ?_) (fun e he => ?_)
      · rcases List.mem_append.1 he with he | he
        · exact (hev e he).not_dwnldRun
        · rw [List.mem_singleton.1 he]
          rfl
      · rcases List.mem_append.1 he with he | he
        · exact (hev e he).not_finishesRetry
        · rw [List.mem_singleton.1 he]
          rfl
    | @retry _ _ s₁ hc hinit hrec hretry hrun =>
      obtain ⟨evs, htr, hev, hany⟩ := hrun.finishing rfl
      have hlast' : lastStatus (s₁.emit (.sequence .retry w)).trace = some w :=
        lastStatus_append_run w (.inr rfl)
      have hfin' : (s₁.emit (.sequence .retry w)).trace.any (Event.finishesRetry o) =
          decide (w = NFCSTATUS.success) := by
        rw [HalState.emit_trace, htr, List.any_append, List.any_append, hfin, hany]
        exact (Bool.or_false _).trans (Bool.false_or _)
      by_cases hw : w = NFCSTATUS.success
      · refine .finished ?_ (hw ▸ hlast') (hfin'.trans (decide_eq_true hw))
        exact hrun.settled_of_success (fresh_retryFlags _) hw
      · refine .failing ?_ (hfin'.trans (decide_eq_false hw))
        rw [hlast']
        exact fun h => hw (Option.some.inj h)

/-- The first sequence is no retried one, and its status is the last so far. -/
theorem firstSequence_last (o : Oracle) (src freq : UInt8) (ctx : FwIoctlCtx) :
    (lastStatus (firstSequence o src freq ctx).2.trace = some NFCSTATUS.success ↔
      (firstSequence o src freq ctx).1 = NFCSTATUS.success) ∧
      (firstSequence o src freq ctx).2.trace.any (Event.finishesRetry o) = false := by
  rcases firstSequence_cases o src freq ctx with ⟨-, heq⟩ | ⟨st, s', hrun, heq⟩
  · rw [heq]
    have hnone : lastStatus [] ≠ some NFCSTATUS.success := by decide
    exact ⟨⟨fun h => absurd h hnone, fun h => absurd h failed_ne_success⟩, rfl⟩
  · obtain ⟨evs, htr, -, hany⟩ := hrun.finishing rfl
    rw [heq]
    have hlast : lastStatus (s'.emit (.sequence .dwnld st)).trace = some st :=
      lastStatus_append_run st (.inl rfl)
    refine ⟨?_, ?_⟩
    · rw [hlast, Option.some.injEq]
    · rw [HalState.emit_trace, htr, List.any_append, List.any_append, hany]
      rfl

/-- With the mode switches succeeding, a run that ends reports success exactly when its last
download sequence succeeded, unless a retried sequence was finished. -/
theorem fwDownloadSeq_reports_last_iff (hio : ∀ n, o.ioctl n = true)
    (hres : (fwDownloadSeq o src freq fuel ctx).1 = some st) :
    (st = NFCSTATUS.success ↔ lastStatus (fwDownloadSeq o src freq fuel ctx).2.trace =
        some NFCSTATUS.success) ↔
      ∀ e ∈ (fwDownloadSeq o src freq fuel ctx).2.trace, e.finishesRetry o = false := by
  obtain rfl := fwDownloadSeq_reports hio hres
  obtain ⟨hlast, hfin⟩ := firstSequence_last o src freq ctx
  set first := firstSequence o src freq ctx with hfirst
  have hrun : fwDownloadSeq o src freq fuel ctx = fwDnldComplete o fuel first.1 first.2 := rfl
  rw [hrun] at hres ⊢
  have hnone : (∀ e ∈ (fwDnldComplete o fuel first.1 first.2).2.trace, e.finishesRetry o = false) ↔
      ¬(fwDnldComplete o fuel first.1 first.2).2.trace.any (Event.finishesRetry o) = true := by
    rw [Bool.not_eq_true, List.any_eq_false]
    simp only [Bool.not_eq_true]
  rw [hnone]
  by_cases hst : first.1 = NFCSTATUS.success
  · -- a first sequence that succeeds is the only one
    have hsettled : Settled first.1 first.2.ctx := by
      obtain ⟨-, ⟨-, hne⟩ | hs⟩ := firstSequence_pending o src freq ctx
      · exact absurd hst hne
      · exact hs
    rw [fwDnldComplete_settled hsettled hres, hlast, hfin]
    exact ⟨fun _ => Bool.false_ne_true, fun _ => Iff.rfl⟩
  · have hstart : Retrying o first.1 first.2 := .failing (fun h => hst (hlast.1 h)) hfin
    have hiff := fwDnldComplete_invariant (I := Retrying o)
      (J := fun _ s => lastStatus s.trace = some NFCSTATUS.success ↔
        s.trace.any (Event.finishesRetry o) = true)
      (fun h => h.last_iff) (fun h hlevel => h.level (.of_eq hlevel))
      (fun h hlevel => by rw [(LevelOutcome.of_eq hlevel).trace_of_done]; exact h.last_iff)
      fuel hstart
    rw [hiff]
    exact ⟨fun h hset => hst (h.2 hset), fun h => ⟨fun hs => absurd hs hst, fun hset => absurd hset h⟩⟩

end Reports

/-- A download that goes well is reported as what it is. -/
theorem goodDownload_reports_last :
    (NFCSTATUS.success = NFCSTATUS.success ↔
      lastStatus (fwDownloadSeq (.script goesWell .initFailed 0x0102) 1 0 4 .init).2.trace =
        some NFCSTATUS.success) ↔
      ∀ e ∈ (fwDownloadSeq (.script goesWell .initFailed 0x0102) 1 0 4 .init).2.trace,
        e.finishesRetry (.script goesWell .initFailed 0x0102) = false :=
  fwDownloadSeq_reports_last_iff (fun _ => rfl) (by decide)

/-- The session stays open after the first write and the retried download goes well, but the run
reports the failure of the first one. -/
theorem retriedDownload_reports_failure :
    (fwDownloadSeq (.script (openAfterWrite ++ goesWell) .initFailed 0x0102) 1 0 4 .init).1 =
        some NFCSTATUS.failed ∧
      ¬(NFCSTATUS.failed = NFCSTATUS.success ↔ lastStatus (fwDownloadSeq (.script
        (openAfterWrite ++ goesWell) .initFailed 0x0102) 1 0 4 .init).2.trace =
          some NFCSTATUS.success) := by
  decide

end AliceHal.Pn54x.FwDnld
