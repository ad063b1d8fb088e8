import AliceHal.Pn54x.PhDnldNfc.Encoding

/-!
# Every Frame Built is Well Formed

The condition under which building gives a frame of the format holds in every state the
component reaches, whatever is requested and whatever the NFCC answers. So the frame of every
request the API admits, and every further frame of a segmented write, has agreeing length,
header and CRC.

- `Framing`: the condition for a command of a given type, with no resend asked for
- `stable_framing`: the handler keeps it
- `prepare_submit`, `prepare_framing`: the requests establish it
- `step_framing`: one call into the component
-/

namespace AliceHal.Pn54x.PhDnldNfc

open Lib

/-! ## The condition is kept by every call -/

theorem Framable.congr {ctx ctx' : DlContext} (h : Framable ctx)
    (htype : ctx'.FrameInp.type = ctx.FrameInp.type) (huser : ctx'.tUserData = ctx.tUserData)
    (hseg : ctx'.tRWInfo.bFramesSegmented = ctx.tRWInfo.bFramesSegmented)
    (hsize : ctx'.tRWInfo.wRWPldSize = ctx.tRWInfo.wRWPldSize) : Framable ctx' where
  segmented := by
    rw [htype, hseg, hsize]
    exact h.segmented
  log := by
    rw [htype, huser]
    exact h.log

theorem Framable.build {ctx : DlContext} (h : Framable ctx) : Framable (buildFramePkt ctx).2 := by
  obtain ⟨rw, fi, heq⟩ := buildFramePkt_frame ctx
  refine ⟨?_, by rw [heq]; exact h.log⟩
  intro htype hseg
  have ht : ctx.FrameInp.type = .ftWrite := by rw [heq] at htype; exact htype
  have hkeep := verifyFrameInputs_segmentation ht
  by_cases hv : (verifyFrameInputs ctx).1 = NFCSTATUS.success
  · rw [buildFramePkt_eq (by simp [ht]) hv] at hseg ⊢
    obtain ⟨fi', hfin⟩ := finishFrame_frame (createFramePld (verifyFrameInputs ctx).2).2
    obtain ⟨rw₁, hver⟩ := verifyFrameInputs_frame ctx
    have hcreate : (createFramePld (verifyFrameInputs ctx).2).2.tRWInfo =
        (createFramePldWrite ((verifyFrameInputs ctx).2.tUserData.pBuff.getD [])
          (verifyFrameInputs ctx).2.tRWInfo).1 := by
      have htv : (verifyFrameInputs ctx).2.FrameInp.type = .ftWrite := by rw [hver]; exact ht
      simp only [createFramePld, htv]
    rw [hfin] at hseg ⊢
    dsimp only at hseg ⊢
    rw [hcreate] at hseg ⊢
    rcases createFramePldWrite_spec ((verifyFrameInputs ctx).2.tUserData.pBuff.getD []) _
      (by rw [hkeep.1, hkeep.2]; exact h.segmented ht) with ⟨hbig, -⟩ | ⟨-, hno, -⟩
    · exact hbig
    · rw [hno] at hseg
      cases hseg
  · have hsame : (buildFramePkt ctx).2 = (verifyFrameInputs ctx).2 := by
      simp only [buildFramePkt, if_neg hv]
    rw [hsame, hkeep.1] at hseg
    rw [hsame, hkeep.2]
    exact h.segmented ht hseg

/-- Framing of a command of type `t`, with no resend asked for. -/
structure Framing (t : FrameInputType) (ctx : DlContext) : Prop extends Framable ctx where
  type : ctx.FrameInp.type = t
  noResend : ctx.bResendLastFrame = false

theorem stable_framing (t : FrameInputType) : Stable (Framing t) where
  control _ _ _ _ _ h := ⟨h.toFramable.congr rfl rfl rfl rfl, h.type, h.noResend⟩
  resent h := ⟨h.toFramable.congr rfl rfl rfl rfl, h.type, rfl⟩
  unsegment h := ⟨⟨fun _ hseg => Bool.noConfusion hseg, h.log⟩, h.type, h.noResend⟩
  build {ctx} h := by
    obtain ⟨rw, fi, heq⟩ := buildFramePkt_frame ctx
    refine ⟨h.toFramable.build, ?_, ?_⟩
    · rw [heq]; exact h.type
    · rw [heq]; exact h.noResend
  process {ctx} pInfo h := by
    obtain ⟨rb, rw, ls, heq, hseg, hsize⟩ := processFrame_frame ctx pInfo
    rw [heq]
    exact ⟨h.toFramable.congr rfl rfl hseg hsize, h.type, h.noResend⟩
  receive _ h := ⟨h.toFramable.congr rfl rfl rfl rfl, h.type, h.noResend⟩

/-- Frames built under the condition are well formed. -/
theorem BuiltFrom.frameOk {t : FrameInputType} {acts : List Action} (ht : t ≠ .ftRaw)
    (h : BuiltFrom (Framing t) acts) {bytes : List UInt8} {hd : Handler}
    (hmem : Action.tmlWrite bytes hd ∈ acts) : FrameOk bytes := by
  obtain ⟨c, hc, hok, rfl⟩ := h bytes hd hmem
  obtain ⟨-, frag, payload, hlen, hbytes⟩ :=
    buildFramePkt_wireFrame (by rw [hc.type]; exact ht) hc.toFramable
      (verifyFrameInputs_success hok)
  rw [hbytes]
  exact frameOk_wireFrame frag hlen

/-! ## Requests -/

theorem Framable.of_type {ctx : DlContext} (hw : ctx.FrameInp.type ≠ .ftWrite)
    (hl : ctx.FrameInp.type ≠ .ftLog) : Framable ctx :=
  ⟨fun h => absurd h hw, fun h => absurd h hl⟩

/-- A request that is handed on can be framed, whatever the context was. -/
theorem prepare_submit {r : Request} {libs : FwLibs} {cb ctxt : Nat} {ctx ctx' : DlContext}
    (h : r.prepare libs cb ctxt ctx = .submit ctx') :
    Framable ctx' ∧ (verifyFrameInputs ctx').1 = NFCSTATUS.success := by
  cases r with
  | reset =>
    cases h
    exact ⟨.of_type (by simp [DlContext.setCommand]) (by simp [DlContext.setCommand]), rfl⟩
  | getVersion b | getSessionState b =>
    simp only [Request.prepare, prepareGetVersion, prepareGetSessionState] at h
    split at h
    · cases h
      exact ⟨.of_type (by simp [DlContext.setCommand]) (by simp [DlContext.setCommand]), rfl⟩
    · cases h
  | checkIntegrity v b =>
    simp only [Request.prepare, prepareCheckIntegrity] at h
    split at h
    · cases h
      cases chkIntgChip v <;>
        exact ⟨.of_type (by simp [DlContext.setCommand]) (by simp [DlContext.setCommand]), rfl⟩
    · cases h
  | readLog b =>
    simp only [Request.prepare, prepareReadLog] at h
    split at h
    · rename_i hv
      cases h
      refine ⟨.of_type (by simp) (by simp), ?_⟩
      simp [verifyFrameInputs, DlContext.setCommand, hv.1, hv.2, RWInfo.zero]
    · cases h
  | write rec data =>
    simp only [Request.prepare, prepareWrite] at h
    split at h
    · rename_i hv
      cases h
      refine ⟨⟨fun _ hseg => Bool.noConfusion hseg, fun hl => (by cases hl)⟩, ?_⟩
      simp [verifyFrameInputs, DlContext.setCommand, hv.1, hv.2]
    · cases h
  | log b =>
    simp only [Request.prepare, prepareLog] at h
    split at h
    · rename_i hv
      cases h
      refine ⟨⟨fun hw => (by cases hw), fun _ => hv.2.2⟩, ?_⟩
      simp [verifyFrameInputs, DlContext.setCommand, hv.1, hv.2.1]
    · cases h
  | force b =>
    cases h
    exact ⟨.of_type (by simp [DlContext.setCommand]) (by simp [DlContext.setCommand]), rfl⟩
  | rawReq f rsp =>
    simp only [Request.prepare, prepareRawReq] at h
    split at h
    · cases h
      exact ⟨.of_type (by simp [DlContext.setCommand]) (by simp [DlContext.setCommand]), rfl⟩
    · cases h

/-- The checks of a request keep a context framable and ask for no resend. -/
theorem prepare_framing {ctx : DlContext} (h : Framing ctx.FrameInp.type ctx) (r : Request)
    (libs : FwLibs) (cb ctxt : Nat) :
    Framing (r.prepare libs cb ctxt ctx).ctx.FrameInp.type (r.prepare libs cb ctxt ctx).ctx := by
  cases hp : r.prepare libs cb ctxt ctx with
  | submit ctx' =>
    refine ⟨(prepare_submit hp).1, rfl, ?_⟩
    cases r with
    | reset | force => cases hp; exact h.noResend
    | getVersion | getSessionState | checkIntegrity | readLog | write | log | rawReq =>
      simp only [Request.prepare, prepareGetVersion, prepareGetSessionState, prepareCheckIntegrity,
        prepareReadLog, prepareWrite, prepareLog, prepareRawReq] at hp
      split at hp
      · cases hp
        first | exact h.noResend | rfl
      · cases hp
  | refuse wStatus ctx' =>
    cases r with
    | reset | force => cases hp
    | getVersion | getSessionState | readLog | log | rawReq =>
      simp only [Request.prepare, prepareGetVersion, prepareGetSessionState, prepareReadLog,
        prepareLog, prepareRawReq] at hp
      split at hp
      · cases hp
      · cases hp
        exact h
    | checkIntegrity v b =>
      simp only [Request.prepare, prepareCheckIntegrity] at hp
      split at hp
      · cases hp
      · cases hp
        cases chkIntgChip v <;>
          exact ⟨.of_type (by simp [Prepared.ctx]) (by simp [Prepared.ctx]), rfl, h.noResend⟩
    | write rec data =>
      simp only [Request.prepare, prepareWrite] at hp
      split at hp
      · cases hp
      · cases hp
        rcases imageToWrite_ctx rec data libs ctx with heq | ⟨fwp, n, heq⟩
        · simpa only [Prepared.ctx, heq] using h
        · simp only [Prepared.ctx, heq]
          exact ⟨.of_type (by simp [DlContext.zero]) (by simp [DlContext.zero]), rfl, rfl⟩

/-- Every call keeps the context framable; unless it is the timer, the frames it sends were
built for the request in progress. -/
theorem step_framing {s s' : Sys} {i : Input} {acts : List Action}
    (h : Framing s.ctx.FrameInp.type s.ctx) (hs : s.step i = some (s', acts)) :
    Framing s'.ctx.FrameInp.type s'.ctx ∧
      (i.stim ≠ .timerFired → BuiltFrom (Framing s'.ctx.FrameInp.type) acts) := by
  have hcallback : i.stim.isCallback → _ := fun hcb =>
    (stable_framing s.ctx.FrameInp.type).step_callback (fun _ hc => hc.noResend) hcb h hs
  obtain ⟨stim, env⟩ := i
  cases stim with
  | request r pNotify pContext libs =>
    simp only [Sys.step, Option.some.injEq, Prod.mk.injEq] at hs
    obtain ⟨rfl, rfl⟩ := hs
    rw [Sys.settle_ctx]
    have hnone : ∀ t, BuiltFrom (Framing t) [] := fun t => BuiltFrom.of_no_write (by simp)
    rcases issue_cases r pNotify pContext libs s.ctx env with
      ⟨-, heq⟩ | ⟨-, heq⟩ | ⟨cb, ctxt, -, -, -, -, hcase⟩
    · rw [heq]
      exact ⟨h, fun _ => hnone _⟩
    · rw [heq]
      exact ⟨h, fun _ => hnone _⟩
    · have hp := prepare_framing h r libs cb ctxt
      rcases hcase with ⟨wStatus, ctx', hprep, heq⟩ | ⟨ctx', hprep, heq⟩
      · rw [hprep] at hp
        rw [heq]
        exact ⟨hp, fun _ => hnone _⟩
      · rw [hprep] at hp
        have ho : Outcome (Framing ctx'.FrameInp.type) (cmdHandler ctx' r.event env).2 :=
          (stable_framing _).cmdHandler hp hp.noResend r.event
        rw [heq, ho.keeps.type]
        exact ⟨ho.keeps, fun _ => ho.built⟩
  | writeDone | readDone | timerFired =>
    have hc := hcallback trivial
    rw [hc.1.type]
    exact hc

/-! ## Runs -/

theorem run_framing {s s' : Sys} {es : List (Input × List Action)} (h : Run Sys.step s es s')
    (h0 : Framing s.ctx.FrameInp.type s.ctx) : Framing s'.ctx.FrameInp.type s'.ctx :=
  h.invariant (I := fun t => Framing t.ctx.FrameInp.type t.ctx) (P := fun _ => True)
    (fun ht _ hs => (step_framing ht hs).1) (fun _ _ => trivial) h0

theorem booted_framing (img : Option (List UInt8)) (len : Nat) :
    Framing (Sys.booted img len).ctx.FrameInp.type (Sys.booted img len).ctx :=
  ⟨.of_type (by simp [Sys.booted, Sys.rest, DlContext.zero])
    (by simp [Sys.booted, Sys.rest, DlContext.zero]), rfl, rfl⟩

theorem prepare_submit_type {r : Request} {libs : FwLibs} {cb ctxt : Nat} {ctx ctx' : DlContext}
    (hr : r.event ≠ .raw) (h : r.prepare libs cb ctxt ctx = .submit ctx') :
    ctx'.FrameInp.type ≠ .ftRaw := by
  cases r with
  | rawReq => exact absurd rfl hr
  | reset | force => cases h; simp [DlContext.setCommand]
  | checkIntegrity v b =>
    simp only [Request.prepare, prepareCheckIntegrity] at h
    split at h
    · cases h
      cases chkIntgChip v <;> simp [DlContext.setCommand]
    · cases h
  | getVersion | getSessionState | readLog | write | log =>
    simp only [Request.prepare, prepareGetVersion, prepareGetSessionState, prepareReadLog,
      prepareWrite, prepareLog] at h
    split at h
    · cases h
      simp [DlContext.setCommand]
    · cases h

/-- Encoder and decoder agree. The frame of every admitted request that is not raw is built and
well formed, and so is every frame built later on, at any point of any run. The timer builds no
frame: it only repeats the last one. -/
theorem builtFrame_decodable :
    (∀ (r : Request) (libs : FwLibs) (cb ctxt : Nat) (ctx ctx' : DlContext), r.event ≠ .raw →
      r.prepare libs cb ctxt ctx = .submit ctx' →
      (buildFramePkt ctx').1 = NFCSTATUS.success ∧ FrameOk (frameBytes (buildFramePkt ctx').2)) ∧
    ∀ (img : Option (List UInt8)) (len : Nat) (es : List (Input × List Action)) (s s' : Sys)
      (i : Input) (acts : List Action), Run Sys.step (Sys.booted img len) es s →
      s.step i = some (s', acts) → i.stim ≠ .timerFired → s'.ctx.FrameInp.type ≠ .ftRaw →
      ∀ bytes h, Action.tmlWrite bytes h ∈ acts → FrameOk bytes := by
  constructor
  · intro r libs cb ctxt ctx ctx' hr hp
    obtain ⟨hF, hv⟩ := prepare_submit hp
    obtain ⟨hok, frag, payload, hlen, hbytes⟩ :=
      buildFramePkt_wireFrame (prepare_submit_type hr hp) hF hv
    rw [hbytes]
    exact ⟨hok, frameOk_wireFrame frag hlen⟩
  · intro img len es s s' i acts hrun hs hstim hraw bytes h hmem
    have hstep := step_framing (run_framing hrun (booted_framing img len)) hs
    exact (hstep.2 hstim).frameOk hraw hmem

/-- The write of an image with one record of one byte. -/
theorem builtFrame_decodable_write :
    FrameOk [0x00, 0x01, 0xC0, 0x26, 0xE1] ∧
      FrameOk (frameBytes (buildFramePkt ((Request.log (some ⟨some [1, 2], 2⟩)).prepare
        FwLibs.absent 1 1 DlContext.zero).ctx).2) := by
  constructor
  · obtain ⟨s', acts, hs, hraw, hmem⟩ : ∃ s' acts,
        (Sys.booted (some [0x00, 0x01, 0xC0]) 3).step
          ⟨.request (.write false none) (some 1) (some 1) FwLibs.absent, Env.accepting⟩ =
            some (s', acts) ∧
        s'.ctx.FrameInp.type ≠ .ftRaw ∧
        Action.tmlWrite [0x00, 0x01, 0xC0, 0x26, 0xE1] .processRWSeqState ∈ acts :=
      ⟨_, _, rfl, by decide +kernel, by decide +kernel⟩
    exact builtFrame_decodable.2 _ _ [] _ _ _ _ .nil hs (by simp) hraw _ _ hmem
  · exact (builtFrame_decodable.1 (.log (some ⟨some [1, 2], 2⟩)) FwLibs.absent _ _ _ _
      (by decide) rfl).2
end AliceHal.Pn54x.PhDnldNfc
