import AliceHal.Pn54x.FwDnld.Completion

/-!
# The Download Log

Every triggered download is to be counted once, as a success or a failure, and the counters are
to be logged before the next one. An automaton reads the trace of a run and follows each download
from its trigger to its log.

- `Account.step`, `account`: the automaton
- `Event.losesAccount`: the steps after which a download is not counted or not logged
- `fwDownloadSeq_accounted`: runs without such a step
-/

namespace AliceHal.Pn54x.FwDnld

/-! ## The automaton -/

/-- The counters of the log: triggered, succeeded, failed. -/
abbrev Counters := UInt16 × UInt16 × UInt16

/-- What is known of the downloads triggered so far. -/
inductive Account where
  /-- all are counted and logged -/
  | idle
  /-- the last one is triggered, with these counters -/
  | triggered (c : Counters)
  /-- the last one is counted, with these counters -/
  | counted (c : Counters)
  /-- one was counted more than once, or not counted or not logged before the next -/
  | wrong
  deriving DecidableEq, Repr

/-- Exactly one of success and failure is counted. -/
def countedOnce (c c' : Counters) : Prop :=
  c' = (c.1, c.2.1 + 1, c.2.2) ∨ c' = (c.1, c.2.1, c.2.2 + 1)

instance (c c' : Counters) : Decidable (countedOnce c c') := inferInstanceAs (Decidable (_ ∨ _))

/-- The request was accepted. -/
def CmdOutcome.issued : CmdOutcome → Bool
  | .initFailed | .refused _ => false
  | .interrupted | .completed _ _ => true

/-- One event. -/
def Account.step : Account → Event → Account
  | .wrong, _ => .wrong
  | .idle, .trig p => .triggered p.counters
  | .idle, .counted _ => .wrong
  | .triggered _, .trig _ => .wrong
  | .triggered c, .counted q => if countedOnce c q.counters then .counted q.counters else .wrong
  | .counted _, .trig _ => .wrong
  | .counted _, .counted _ => .wrong
  | .counted c, .request _ _ (.log p) out =>
    if out.issued = false then .counted c else if p.counters = c then .idle else .wrong
  | a, _ => a

/-- A whole trace. -/
def account (trace : List Event) : Account := trace.foldl Account.step .idle

theorem account_append (trace evs : List Event) :
    account (trace ++ evs) = evs.foldl Account.step (account trace) :=
  List.foldl_append

/-- A firmware write that fails with `NFCSTATUS_WRITE_FAILED` or is not answered, a log that is
refused, or a log of the log sequence without semaphore. -/
def Event.losesAccount : Event → Bool
  | .request _ _ (.write false) .interrupted => true
  | .request _ _ (.write false) (.completed status _) => status = NFCSTATUS.writeFailed
  | .request _ _ (.log _) (.refused _) => true
  | .request k _ (.log _) .initFailed => k = .log
  | _ => false

/-! ## Steps of the automaton -/

section Steps

variable {o : Oracle} {k : SeqKind} {s s' : HalState} {st : NFCSTATUS}

theorem account_after (s : HalState) (k : SeqKind) (cmd : DnldCmd) (out : CmdOutcome)
    (ctx : FwIoctlCtx) : account (s.after k cmd out ctx).trace =
      (account s.trace).step (.request k s.ctx cmd out) := by
  rw [HalState.after_trace, account_append]
  rfl

theorem account_emit (s : HalState) (e : Event) :
    account (s.emit e).trace = (account s.trace).step e := by
  rw [HalState.emit_trace, account_append]
  rfl

/-- A log request. -/
def DnldCmd.isLog : DnldCmd → Bool
  | .log _ => true
  | _ => false

/-- Only the log is followed. -/
theorem Account.step_request (a : Account) {c : FwIoctlCtx} {cmd : DnldCmd} {out : CmdOutcome}
    (hcmd : cmd.isLog = false) : a.step (.request k c cmd out) = a := by
  cases a with
  | counted _ =>
    cases cmd with
    | log p => cases hcmd
    | _ => rfl
  | _ => rfl

theorem Account.step_sequence (a : Account) : a.step (.sequence k st) = a := by
  cases a <;> rfl

/-- The log of a counted download, carrying its counters. -/
theorem Account.step_log {c : FwIoctlCtx} {p : EELogParams} {out : CmdOutcome} {n : Counters}
    (hp : p.counters = n) : (Account.counted n).step (.request k c (.log p) out) =
      if out.issued then .idle else .counted n := by
  show (if out.issued = false then Account.counted n
    else if p.counters = n then Account.idle else Account.wrong) = _
  rw [if_pos hp]
  cases out.issued <;> rfl

/-- Events that are no trigger, no count and no log. -/
theorem account_append_other {trace evs : List Event}
    (h : ∀ e ∈ evs, ∀ a : Account, a.step e = a) : account (trace ++ evs) = account trace := by
  rw [account_append]
  generalize account trace = a
  induction evs with
  | nil => rfl
  | cons e evs ih =>
    rw [List.foldl_cons, h e List.mem_cons_self]
    exact ih fun e' he' => h e' (List.mem_cons_of_mem _ he')

theorem Event.isPrelude.step {e : Event} (h : e.isPrelude k) (a : Account) : a.step e = a := by
  cases e with
  | request k' ctx cmd out =>
    obtain ⟨-, -, hcmd⟩ := h
    apply Account.step_request
    rcases hcmd with ⟨src, freq, rfl⟩ | rfl | rfl | rfl <;> rfl
  | _ => exact h.elim

theorem Event.isRecover.step {e : Event} (h : e.isRecover) (a : Account) : a.step e = a := by
  cases e with
  | request k' ctx cmd out =>
    apply Account.step_request
    cases cmd with
    | log p => cases k' <;> exact h.elim
    | _ => rfl
  | _ => exact h.elim

/-! ## The invariant -/

/-- What the flags say about the downloads: with a log pending the last one is counted or already
logged, otherwise it is logged. -/
structure Balanced (s : HalState) : Prop where
  force : s.ctx.bForceDnld = false
  logged : s.ctx.bDnldInitiated = false → account s.trace = .idle
  pending : s.ctx.bDnldInitiated = true → s.ctx.bSkipSeq = false ∧
    (account s.trace = .idle ∨ account s.trace = .counted s.ctx.tLogParams.counters)

/-- Some step has lost a download, or everything is in order. -/
def BalancedOrLost (s : HalState) : Prop :=
  (∃ e ∈ s.trace, e.losesAccount = true) ∨ Balanced s

/-- A counted download whose log is pending. -/
structure Counted (s : HalState) : Prop where
  force : s.ctx.bForceDnld = false
  initiated : s.ctx.bDnldInitiated = true
  skip : s.ctx.bSkipSeq = false
  account : account s.trace = .counted s.ctx.tLogParams.counters

theorem Counted.balanced (h : Counted s) : Balanced s :=
  ⟨h.force, fun h0 => absurd (h0.symm.trans h.initiated) Bool.false_ne_true,
    fun _ => ⟨h.skip, .inr h.account⟩⟩

/-- A request that is no log and leaves the flags. -/
theorem Counted.after (h : Counted s) {cmd : DnldCmd} {out : CmdOutcome} {ctx : FwIoctlCtx}
    (hcmd : cmd.isLog = false) (hforce : ctx.bForceDnld = s.ctx.bForceDnld)
    (hinit : ctx.bDnldInitiated = s.ctx.bDnldInitiated) (hskip : ctx.bSkipSeq = s.ctx.bSkipSeq)
    (hlog : ctx.tLogParams.counters = s.ctx.tLogParams.counters) :
    Counted (s.after k cmd out ctx) where
  force := hforce.trans h.force
  initiated := hinit.trans h.initiated
  skip := hskip.trans h.skip
  account := by
    rw [account_after, Account.step_request _ hcmd, h.account]
    exact congrArg Account.counted hlog.symm

/-- The functions after a successful write. -/
theorem PostOutcome.balanced (h : PostOutcome o k s st s') (hc : Counted s) :
    BalancedOrLost s' := by
  have hclosed : ∀ rsp, Counted (sessnClosed k s rsp) := fun rsp =>
    hc.after rfl rfl rfl rfl rfl
  have hread : ∀ rsp rspV, Counted (versionRead o k (sessnClosed k s rsp) rspV) := by
    intro rsp rspV
    have hinit : (sessnClosed k s rsp).ctx.bDnldInitiated = true := hc.initiated
    obtain ⟨chip, p, hctx, hcount, -⟩ :=
      fwDnldGetVersionCb_after o NFCSTATUS.success rspV hinit
    apply (hclosed rsp).after rfl <;> rw [hctx]
    exact hcount
  -- a log that succeeds has been issued
  have hlogged : ∀ rsp rspV rspL cmd out, cmd.isLog = false → Balanced
      ((logged k (versionRead o k (sessnClosed k s rsp) rspV) rspL).after k cmd out
        (logged k (versionRead o k (sessnClosed k s rsp) rspV) rspL).ctx) := by
    intro rsp rspV rspL cmd out hcmd
    refine ⟨(hread rsp rspV).force, fun _ => ?_, fun h1 => Bool.noConfusion h1⟩
    rw [account_after, Account.step_request _ hcmd, logged, account_after, (hread rsp rspV).account,
      Account.step_log rfl]
    rfl
  cases h with
  | sessn hctx =>
    rcases hctx with rfl | rfl
    · exact .inr (Counted.balanced (hc.after rfl rfl rfl rfl rfl))
    · exact .inr (Counted.balanced (hc.after rfl rfl rfl rfl rfl))
  | version => exact .inr (Counted.balanced ((hclosed _).after rfl rfl rfl rfl rfl))
  | @log rsp rspV out ctx t₂ ht hctx =>
    have h₂ : Counted t₂ := ht ▸ hread rsp rspV
    have hacc : account (t₂.after k (.log t₂.ctx.tLogParams) out ctx).trace =
        if out.issued then .idle else .counted t₂.ctx.tLogParams.counters := by
      rw [account_after, h₂.account, Account.step_log rfl]
    rcases hctx with rfl | ⟨⟨r, rfl⟩, rfl⟩
    · refine .inr ⟨h₂.force, fun h0 => absurd (h0.symm.trans h₂.initiated) Bool.false_ne_true,
        fun _ => ⟨h₂.skip, ?_⟩⟩
      rw [hacc]
      split
      · exact .inl rfl
      · exact .inr rfl
    · exact .inl ⟨_, List.mem_append_right _ (List.mem_singleton_self _), rfl⟩
  | integrity ht _ =>
    subst ht
    exact .inr (hlogged _ _ _ _ _ rfl)
  | success ht₁ _ ht₃ _ =>
    subst ht₁ ht₃
    exact .inr (hlogged _ _ _ _ _ rfl)

/-- A write that has been counted once. -/
theorem counted_written {s₁ : HalState} {out : CmdOutcome} {ctx : FwIoctlCtx}
    (hidle : account s₁.trace = .idle) (hforce : ctx.bForceDnld = false)
    (hinit : ctx.bDnldInitiated = true) (hskip : ctx.bSkipSeq = false)
    (honce : countedOnce (countTrig s₁.ctx.tLogParams).counters ctx.tLogParams.counters) :
    Counted (written k (triggered s₁) out ctx) where
  force := hforce
  initiated := hinit
  skip := hskip
  account := by
    rw [written_triggered_trace, account_append, hidle]
    exact if_pos honce

theorem WriteOutcome.balanced {s₁ : HalState} (h : WriteOutcome o k (triggered s₁) st s')
    (hidle : account s₁.trace = .idle) (hforce : s₁.ctx.bForceDnld = false)
    (hskip : s₁.ctx.bSkipSeq = false) : BalancedOrLost s' := by
  cases h with
  | refused => exact .inr (Counted.balanced (counted_written hidle hforce rfl hskip (.inr rfl)))
  | interrupted => exact .inl ⟨_, List.mem_append_right _ (List.mem_singleton_self _), rfl⟩
  | @failed _ rsp hst =>
    by_cases hwf : st = NFCSTATUS.writeFailed
    · refine .inl ⟨.request k (triggered s₁).ctx (.write false) (.completed st rsp), ?_,
        decide_eq_true hwf⟩
      rw [written_triggered_trace]
      simp
    · refine .inr (Counted.balanced (counted_written hidle hforce rfl ?_ (.inr rfl)))
      show (s₁.ctx.bSkipSeq || decide (st = NFCSTATUS.writeFailed)) = false
      rw [hskip, decide_eq_false hwf]
      rfl
  | succeeded hpost => exact hpost.balanced (counted_written hidle hforce rfl hskip (.inl rfl))

/-- A download sequence that starts with everything logged. -/
theorem DwnldOutcome.balanced (h : DwnldOutcome o k s st s') (hf : Fresh s.ctx)
    (hidle : account s.trace = .idle) : BalancedOrLost s' := by
  have hpre_idle : ∀ {st₁ s₁ evs}, Prelude o k s st₁ s₁ evs → account s₁.trace = .idle := by
    intro st₁ s₁ evs hpre
    rw [hpre.trace, account_append_other fun e he => (hpre.events e he).step]
    exact hidle
  cases h with
  | stopped hpre _ =>
    have hf' := hpre.fresh hf
    exact .inr ⟨hf'.force, fun _ => hpre_idle hpre,
      fun h1 => absurd (hf'.initiated.symm.trans h1) Bool.false_ne_true⟩
  | upToDate hpre _ =>
    have hf' := hpre.fresh hf
    have hidle₁ := hpre_idle hpre
    exact .inr ⟨hf'.force, fun _ => hidle₁,
      fun h1 => absurd (hf'.initiated.symm.trans h1) Bool.false_ne_true⟩
  | noSem hpre _ =>
    have hf' := hpre.fresh hf
    have hidle₁ := hpre_idle hpre
    refine .inr ⟨hf'.force, fun _ => ?_,
      fun h1 => absurd (hf'.initiated.symm.trans h1) Bool.false_ne_true⟩
    rw [account_after, Account.step_request _ rfl]
    exact hidle₁
  | wrote hpre hskip hwrite =>
    exact hwrite.balanced (hpre_idle hpre) (hpre.fresh hf).force hskip

end Steps

/-! ## Whole runs -/

section Runs

variable {o : Oracle} {src freq : UInt8} {ctx : FwIoctlCtx} {st w : NFCSTATUS} {s s' : HalState}

theorem BalancedOrLost.emit_sequence {k : SeqKind} (h : BalancedOrLost s) :
    BalancedOrLost (s.emit (.sequence k st)) := by
  have hacc : account (s.emit (.sequence k st)).trace = account s.trace := by
    rw [account_emit, Account.step_sequence]
  rcases h with ⟨e, he, hl⟩ | h
  · exact .inl ⟨e, List.mem_append_left _ he, hl⟩
  · exact .inr ⟨h.force, fun h0 => hacc.trans (h.logged h0), fun h1 => hacc ▸ h.pending h1⟩

/-- Asking for recovery touches none of the flags of interest. -/
theorem requestRecovery_log (status : NFCSTATUS) (ctx : FwIoctlCtx) :
    (requestRecovery status ctx).bForceDnld = ctx.bForceDnld ∧
      (requestRecovery status ctx).bSkipSeq = ctx.bSkipSeq ∧
      (requestRecovery status ctx).tLogParams = ctx.tLogParams := by
  rcases requestRecovery_cases status ctx with ⟨-, -, _, h⟩ | ⟨-, -, h⟩ | ⟨-, h⟩ <;> rw [h] <;>
    exact ⟨rfl, rfl, rfl⟩

theorem BalancedOrLost.level (h : BalancedOrLost s) (hlevel : LevelOutcome o st s w true s') :
    BalancedOrLost s' := by
  rcases h with ⟨e, he, hl⟩ | h
  · obtain ⟨evs, htr⟩ := hlevel.trace_grows
    exact .inl ⟨e, htr ▸ List.mem_append_left _ he, hl⟩
  obtain ⟨hforce, hskip, hparams⟩ := requestRecovery_log st s.ctx
  have hinit := requestRecovery_initiated st s.ctx
  cases hlevel with
  | log hc hset hlog =>
    subst hc
    obtain ⟨hskip₀, hacc⟩ := h.pending (hinit.symm.trans hset)
    obtain ⟨st', ⟨hskipped, -⟩ | ⟨c', out, htr⟩⟩ := hlog.trace
    · -- nothing asks for the log to be skipped
      rcases hskipped with h1 | h1
      · exact absurd ((hskip.trans hskip₀).symm.trans h1) Bool.false_ne_true
      · exact absurd ((hforce.trans h.force).symm.trans h1) Bool.false_ne_true
    · by_cases hissued : out.issued = true
      · have hidle : account s'.trace = .idle := by
          have hseq : ∀ a : Account, account s.trace = a →
              a.step (.request .log c' (.log (requestRecovery st s.ctx).tLogParams) out) = .idle →
              account s'.trace = .idle := by
            intro a ha hstep
            rw [htr, account_append, ha, List.foldl_cons, hstep]
            rfl
          rcases hacc with ha | ha
          · exact hseq _ ha rfl
          · refine hseq _ ha ?_
            rw [Account.step_log (congrArg EELogParams.counters hparams), if_pos hissued]
        refine .inr ⟨?_, fun _ => hidle, fun h1 => ?_⟩
        · rw [hlog.ctx]
          exact hforce.trans h.force
        · rw [hlog.ctx] at h1
          exact Bool.noConfusion h1
      · -- the log was not issued
        refine .inl ⟨.request .log c' (.log (requestRecovery st s.ctx).tLogParams) out, ?_, ?_⟩
        · rw [htr]
          simp
        · cases out with
          | initFailed => rfl
          | refused r => rfl
          | _ => exact absurd rfl hissued
  | @recover _ _ s₁ hc hset hrec hrun hdone =>
    subst hc
    obtain ⟨evs, htr, hev, -⟩ := hrun.events
    have hidle : account s₁.trace = .idle := by
      rw [htr, account_append_other fun e he => (hev e he).step]
      exact h.logged (hinit.symm.trans hset)
    have hset' : s₁.ctx.bDnldInitiated = false := hrun.initiated.trans hset
    exact BalancedOrLost.emit_sequence (.inr ⟨hrun.force.trans (hforce.trans h.force),
      fun _ => hidle, fun h1 => absurd (hset'.symm.trans h1) Bool.false_ne_true⟩)
  | retry hc hset hrec hretry hrun =>
    subst hc
    exact BalancedOrLost.emit_sequence
      (hrun.balanced (fresh_retryFlags _) (h.logged (hinit.symm.trans hset)))

theorem BalancedOrLost.first (o : Oracle) (src freq : UInt8) (ctx : FwIoctlCtx) :
    BalancedOrLost (firstSequence o src freq ctx).2 := by
  rcases firstSequence_cases o src freq ctx with ⟨-, heq⟩ | ⟨st, s', hrun, heq⟩
  · rw [heq]
    exact .inr ⟨rfl, fun _ => rfl, fun h1 => Bool.noConfusion h1⟩
  · rw [heq]
    exact BalancedOrLost.emit_sequence (hrun.balanced ⟨rfl, rfl, rfl, rfl, rfl⟩ rfl)

/-- In a run that loses no download, each one is counted exactly once and logged before the next
one and before the end. -/
theorem fwDownloadSeq_accounted {fuel : Nat}
    (hkeeps : ∀ e ∈ (fwDownloadSeq o src freq fuel ctx).2.trace, e.losesAccount = false) :
    account (fwDownloadSeq o src freq fuel ctx).2.trace ≠ .wrong ∧
      ((fwDownloadSeq o src freq fuel ctx).1.isSome →
        account (fwDownloadSeq o src freq fuel ctx).2.trace = .idle) := by
  have hno : ¬∃ e ∈ (fwDownloadSeq o src freq fuel ctx).2.trace, e.losesAccount = true := by
    rintro ⟨e, he, hl⟩
    rw [hkeeps e he] at hl
    cases hl
  let J : Bool → HalState → Prop := fun ended s => (∃ e ∈ s.trace, e.losesAccount = true) ∨
    account s.trace ≠ .wrong ∧ (ended = true → account s.trace = .idle)
  suffices hinv : J (fwDownloadSeq o src freq fuel ctx).1.isSome
      (fwDownloadSeq o src freq fuel ctx).2 from hinv.resolve_left hno
  refine fwDnldComplete_invariant (I := fun _ s => BalancedOrLost s) (J := J) ?_
    (fun h hlevel => BalancedOrLost.level h (.of_eq hlevel)) ?_ fuel
    (BalancedOrLost.first o src freq ctx)
  · rintro st s (hl | h)
    · exact .inl hl
    · refine .inr ⟨?_, fun hended => Bool.noConfusion hended⟩
      cases hinit : s.ctx.bDnldInitiated with
      | false =>
        rw [h.logged hinit]
        exact nofun
      | true =>
        rcases (h.pending hinit).2 with ha | ha
        · rw [ha]
          exact nofun
        · rw [ha]
          exact nofun
  · rintro st s w s' h hlevel
    have hdone := LevelOutcome.of_eq hlevel
    simp only [J, hdone.trace_of_done]
    rcases h with hl | h
    · exact .inl hl
    · cases hdone with
      | done hc hinit _ _ =>
        subst hc
        have hidle := h.logged ((requestRecovery_initiated st s.ctx).symm.trans hinit)
        rw [hidle]
        exact .inr ⟨nofun, fun _ => rfl⟩

end Runs

/-- The answers to a download up to a write that is answered with `status`. -/
def upToWrite (status : NFCSTATUS) : List CmdOutcome :=
  [.completed NFCSTATUS.success [], .completed NFCSTATUS.success [],
    .completed NFCSTATUS.success [0, 0, 17],
    .completed NFCSTATUS.success [8, 0, 0, 0, 0, 0, 0, 1, 1],
    .completed NFCSTATUS.success [], .completed status []]

/-- The write is answered with `NFCSTATUS_FAILED`, counted as a failure and logged. -/
theorem failedWrite_accounted :
    account (fwDownloadSeq (.script (upToWrite NFCSTATUS.failed) (.completed NFCSTATUS.success [])
        0x0102) 1 0 3 .init).2.trace ≠ .wrong ∧
      ((fwDownloadSeq (.script (upToWrite NFCSTATUS.failed) (.completed NFCSTATUS.success []) 0x0102)
          1 0 3 .init).1.isSome →
        account (fwDownloadSeq (.script (upToWrite NFCSTATUS.failed)
          (.completed NFCSTATUS.success []) 0x0102) 1 0 3 .init).2.trace = .idle) :=
  fwDownloadSeq_accounted (by decide)

/-- The write fails with a PLL error, the Force command of the recovery is answered, and the
retried download is refused. -/
def pllError : List CmdOutcome :=
  upToWrite NFCSTATUS.writeFailed ++ [.completed NFCSTATUS.success []]

/-- The failure is counted but never logged: `bSkipSeq` is set and `bDnldInitiated` reset by the
time the log sequence runs. -/
theorem pllError_not_logged :
    (fwDownloadSeq (.script pllError (.refused ⟨NFCSTATUS.busy, by decide⟩) 0x0102) 1 0 5
        .init).1.isSome ∧
      ¬account (fwDownloadSeq (.script pllError (.refused ⟨NFCSTATUS.busy, by decide⟩) 0x0102) 1 0 5
        .init).2.trace = .idle := by
  decide

end AliceHal.Pn54x.FwDnld
