import AliceHal.Pn54x.PhDnldNfc.Outcome

/-!
# The Main Image after a Recovery Write

`phDnldNfc_Write` with `bRecoverSeq` loads the recovery image through `phDnldNfc_LoadRecInfo` or
`phDnldNfc_LoadPKInfo`, and these set up the context with `phDnldNfc_SetHwDevHandle`, which
clears an allocated context too. The main image is lost before the first recovery frame is sent,
and no later callback brings it back.

- `stable_image`: no call of the handler touches the main image
- `issue_recover`: the recovery request itself drops it
- `recover_drops_image`: so it is gone in every state reached, and the following write of the
  main image is refused
-/

namespace AliceHal.Pn54x.PhDnldNfc

open Lib

/-- The context holds the given main image; no resend is asked for. -/
structure HoldsImage (img : Option (List UInt8)) (len : Nat) (ctx : DlContext) : Prop where
  fw : ctx.nxp_nfc_fw = img
  fwLen : ctx.nxp_nfc_fw_len = len
  noResend : ctx.bResendLastFrame = false

/-- Neither the state machines nor the timer callbacks touch the main image. -/
theorem stable_image (img : Option (List UInt8)) (len : Nat) : Stable (HoldsImage img len) where
  control _ _ _ _ _ h := ⟨h.fw, h.fwLen, h.noResend⟩
  resent h := ⟨h.fw, h.fwLen, rfl⟩
  unsegment h := ⟨h.fw, h.fwLen, h.noResend⟩
  build {ctx} h := by
    obtain ⟨rw, fi, heq⟩ := buildFramePkt_frame ctx
    rw [heq]
    exact ⟨h.fw, h.fwLen, h.noResend⟩
  process {ctx} pInfo h := by
    obtain ⟨rb, rw, ls, heq, -⟩ := processFrame_frame ctx pInfo
    rw [heq]
    exact ⟨h.fw, h.fwLen, h.noResend⟩
  receive _ h := ⟨h.fw, h.fwLen, h.noResend⟩

/-- After a run of callbacks the main image is the one before it. -/
theorem run_keeps_image {img : Option (List UInt8)} {len : Nat} {s s' : Sys}
    {es : List (Input × List Action)} (hrun : Run Sys.step s es s')
    (hes : ∀ e ∈ es, e.1.stim.isCallback) (h : HoldsImage img len s.ctx) :
    HoldsImage img len s'.ctx :=
  hrun.invariant (I := fun t => HoldsImage img len t.ctx) (P := fun i => i.stim.isCallback)
    (fun ht hi hs => ((stable_image img len).step_callback (fun _ hc => hc.noResend) hi ht hs).1)
    hes h

/-- The last status calls for a recovery image. -/
def DlContext.NeedsRecovery (ctx : DlContext) : Prop :=
  ctx.tLastStatus = PhDlStatus.pllError ∨ ctx.tLastStatus = PhDlStatus.signatureError

/-- Choosing a recovery image clears the context. -/
theorem imageToWrite_recover {ctx : DlContext} (h : ctx.NeedsRecovery) (libs : FwLibs) :
    ∃ fwp n, (imageToWrite true none libs ctx).2.2 =
      { DlContext.zero with nxp_nfc_fwp := fwp, nxp_nfc_fwp_len := n } := by
  simp only [imageToWrite, Bool.true_eq_false, if_false]
  rcases h with h | h
  · obtain ⟨fwp, n, heq⟩ := loadImageInfo_ctx libs.platform ctx
    refine ⟨fwp, n, ?_⟩
    rw [if_pos h, ← heq]
    split <;> rfl
  · obtain ⟨fwp, n, heq⟩ := loadImageInfo_ctx libs.pku ctx
    have hne : ¬ctx.tLastStatus = PhDlStatus.pllError := by
      rw [h]
      decide
    refine ⟨fwp, n, ?_⟩
    rw [if_neg hne, if_pos h, ← heq]
    split <;> rfl

/-- The recovery request leaves no main image, whether it is refused or handed on. -/
theorem issue_recover {ctx : DlContext} (hidle : ctx.tDnldInProgress = .idle)
    (h : ctx.NeedsRecovery) (cb ctxt : Nat) (libs : FwLibs) (env : Env) :
    HoldsImage none 0 (issue (.write true none) (some cb) (some ctxt) libs ctx env).2.1 := by
  obtain ⟨fwp, n, himg⟩ := imageToWrite_recover h libs
  rcases issue_cases (.write true none) (some cb) (some ctxt) libs ctx env with
    ⟨hnull, -⟩ | ⟨hbusy, -⟩ | ⟨cb', ctxt', -, -, -, -, hcase⟩
  · simp [Request.argsPresent] at hnull
  · exact absurd hidle hbusy
  · rcases hcase with ⟨st, ctx', hp, heq⟩ | ⟨ctx', hp, heq⟩
    · rw [heq]
      simp only [Request.prepare, prepareWrite] at hp
      split at hp
      · cases hp
      · cases hp
        simp only [himg]
        exact ⟨rfl, rfl, rfl⟩
    · rw [heq]
      have hctx : HoldsImage none 0 ctx' := by
        simp only [Request.prepare, prepareWrite] at hp
        split at hp
        · cases hp
          simp only [DlContext.setCommand, himg]
          exact ⟨rfl, rfl, rfl⟩
        · cases hp
      exact ((stable_image none 0).cmdHandler hctx hctx.noResend _).keeps

/-- A main image never survives a recovery write: in every state reached from the request it is
gone, and once the handler is idle again the write of the main image is refused with nothing
sent. -/
theorem recover_drops_image {ctx : DlContext} {img : List UInt8}
    (hidle : ctx.tDnldInProgress = .idle) (hfw : ctx.nxp_nfc_fw = some img)
    (hlen : ctx.nxp_nfc_fw_len ≠ 0) (hlast : ctx.NeedsRecovery) {cb ctxt : Nat} {libs : FwLibs}
    {env : Env} {s₀ s : Sys} {acts : List Action} {es : List (Input × List Action)}
    (hreq : (Sys.rest ctx).step ⟨.request (.write true none) (some cb) (some ctxt) libs, env⟩ =
      some (s₀, acts))
    (hrun : Run Sys.step s₀ es s) (hes : ∀ e ∈ es, e.1.stim.isCallback) :
    s.ctx.nxp_nfc_fw ≠ ctx.nxp_nfc_fw ∧ s.ctx.nxp_nfc_fw_len ≠ ctx.nxp_nfc_fw_len ∧
      (s.ctx.tDnldInProgress = .idle → ∀ cb ctxt libs env,
        issue (.write false none) (some cb) (some ctxt) libs s.ctx env =
          (NFCSTATUS.failed, s.ctx, [])) := by
  simp only [Sys.step, Option.some.injEq, Prod.mk.injEq] at hreq
  obtain ⟨rfl, -⟩ := hreq
  have h0 : HoldsImage none 0 s.ctx := by
    apply run_keeps_image hrun hes
    rw [Sys.settle_ctx]
    exact issue_recover hidle hlast cb ctxt libs env
  refine ⟨?_, ?_, ?_⟩
  · rw [h0.fw, hfw]
    simp
  · rw [h0.fwLen]
    exact hlen.symm
  · intro hidle' cb' ctxt' libs' env'
    simp [issue, Request.argsPresent, hidle', Request.prepare, prepareWrite, imageToWrite, h0.fw]

/-- A context whose last write of the main image ended with a PLL error. -/
def pllErrorCtx : DlContext :=
  { DlContext.zero with
    nxp_nfc_fw := some [0x00, 0x01, 0xC0], nxp_nfc_fw_len := 3, tLastStatus := PhDlStatus.pllError }

/-- A recovery image of one record in the platform library. -/
def recoveryLibs : FwLibs :=
  ⟨⟨true, some (some [0x00, 0x01, 0xC1]), some 3⟩, ⟨false, none, none⟩⟩

/-- The callbacks of a recovery write whose only frame is acknowledged. -/
def recoveryCallbacks : List Input :=
  [⟨.writeDone NFCSTATUS.success, Env.accepting⟩,
    ⟨.readDone NFCSTATUS.success [0x00, 0x01, 0x00, 0xFF, 0xAD], Env.accepting⟩]

/-- The recovery write of that context runs to its end and reports success. -/
theorem recovery_completes :
    ∃ s₀ acts es s,
      (Sys.rest pllErrorCtx).step
        ⟨.request (.write true none) (some 1) (some 1) recoveryLibs, Env.accepting⟩ =
          some (s₀, acts) ∧
      Run Sys.step s₀ es s ∧ (∀ e ∈ es, e.1.stim.isCallback) ∧
      s.ctx.tDnldInProgress = .idle ∧ s.ctx.nxp_nfc_fw = none ∧
      Action.userCb 1 1 NFCSTATUS.success ⟨none, 0⟩ ∈ es.flatMap Prod.snd := by
  have h : ((Sys.rest pllErrorCtx).step
      ⟨.request (.write true none) (some 1) (some 1) recoveryLibs, Env.accepting⟩).bind (fun q =>
        (exec Sys.step q.1 recoveryCallbacks).map fun r =>
          (r.2.ctx.tDnldInProgress, r.2.ctx.nxp_nfc_fw, decide (∀ e ∈ r.1, e.1.stim.isCallback),
            decide (Action.userCb 1 1 NFCSTATUS.success ⟨none, 0⟩ ∈ r.1.flatMap Prod.snd))) =
      some (.idle, none, true, true) := by
    decide +kernel
  obtain ⟨⟨s₀, acts⟩, hreq, hrest⟩ := Option.bind_eq_some_iff.1 h
  obtain ⟨⟨es, s⟩, hexec, hr⟩ := Option.map_eq_some_iff.1 hrest
  simp only [Prod.mk.injEq, decide_eq_true_eq] at hr
  exact ⟨s₀, acts, es, s, hreq, run_of_exec hexec, hr.2.2.1, hr.1, hr.2.1, hr.2.2.2⟩

/-- A recovery that succeeds, and the main image is gone. -/
theorem recovery_success_drops_image :
    ∃ s₀ acts es s,
      (Sys.rest pllErrorCtx).step
        ⟨.request (.write true none) (some 1) (some 1) recoveryLibs, Env.accepting⟩ =
          some (s₀, acts) ∧
      Run Sys.step s₀ es s ∧ (∀ e ∈ es, e.1.stim.isCallback) ∧
      Action.userCb 1 1 NFCSTATUS.success ⟨none, 0⟩ ∈ es.flatMap Prod.snd ∧
      ¬(s.ctx.nxp_nfc_fw = pllErrorCtx.nxp_nfc_fw ∧
        s.ctx.nxp_nfc_fw_len = pllErrorCtx.nxp_nfc_fw_len) := by
  obtain ⟨s₀, acts, es, s, hreq, hrun, hes, -, hfw, hcb⟩ := recovery_completes
  refine ⟨s₀, acts, es, s, hreq, hrun, hes, hcb, ?_⟩
  rw [hfw]
  simp [pllErrorCtx]

theorem recover_drops_image_pllError :
    ∃ s : Sys, s.ctx.tDnldInProgress = .idle ∧ s.ctx.nxp_nfc_fw ≠ pllErrorCtx.nxp_nfc_fw ∧
      issue (.write false none) (some 1) (some 1) recoveryLibs s.ctx Env.accepting =
        (NFCSTATUS.failed, s.ctx, []) := by
  obtain ⟨s₀, acts, es, s, hreq, hrun, hes, hidle, -, -⟩ := recovery_completes
  have h := recover_drops_image rfl rfl (by decide) (.inl rfl) hreq hrun hes
  exact ⟨s, hidle, h.1, h.2.2 hidle 1 1 recoveryLibs Env.accepting⟩

end AliceHal.Pn54x.PhDnldNfc
