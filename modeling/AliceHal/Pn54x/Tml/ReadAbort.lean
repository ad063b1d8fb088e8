import AliceHal.Pn54x.Tml.Reader

/-!
# Aborted Reads

Who gets a packet when read requests are aborted. `phTmlNfc_ReadAbort` only clears two flags: a
packet that the reader thread is waiting for, or that is on its way to the client thread, is
delivered to whatever request `tReadInfo` holds then.

- `NoCrossing`: no packet crosses an abort, as a property of what a run shows
- `ReaderState.Untaken`: the reader thread has not taken the request yet
- `Phase`: where a request is, when no taken request is aborted
- `noCrossing_of_untaken`: runs that abort only untaken requests
-/

namespace AliceHal.Pn54x.Tml

/-! ## The property -/

/-- Every accepted request is called back at most once, with its own context and buffer, and no
packet read for a request is delivered after that request was aborted. -/
structure NoCrossing (os : List ReaderOutput) : Prop where
  once : os.Pairwise fun o o' => ∀ d d', o = .delivered d → o' = .delivered d' →
    d.request ≠ d'.request
  own : ∀ d, .delivered d ∈ os → ∃ args, .accepted d.request args ∈ os ∧
    d.callback = args.pTmlReadComplete ∧ d.pContext = args.pContext ∧ d.info.pBuff = args.pBuffer
  kept : os.Pairwise fun o o' => ∀ r d, o = .aborted (some r) → o' = .delivered d →
    d.packet.readFor ≠ some r

namespace NoCrossing

variable {os : List ReaderOutput} {o : ReaderOutput}

theorem nil : NoCrossing [] :=
  ⟨List.Pairwise.nil, fun _ hd => absurd hd List.not_mem_nil, List.Pairwise.nil⟩

/-- A step that delivers nothing. -/
theorem snoc_of_not_delivered (h : NoCrossing os) (ho : ∀ d, o ≠ .delivered d) :
    NoCrossing (os ++ [o]) := by
  refine ⟨List.pairwise_append.2 ⟨h.once, List.pairwise_singleton _ _, ?_⟩, fun d hd => ?_,
    List.pairwise_append.2 ⟨h.kept, List.pairwise_singleton _ _, ?_⟩⟩
  · intro a _ b hb d d' _ hd'
    rw [List.mem_singleton.1 hb] at hd'
    exact absurd hd' (ho d')
  · rcases List.mem_append.1 hd with hd | hd
    · obtain ⟨args, hargs, heq⟩ := h.own d hd
      exact ⟨args, List.mem_append_left _ hargs, heq⟩
    · exact absurd (List.mem_singleton.1 hd).symm (ho d)
  · intro a _ b hb r d _ hd
    rw [List.mem_singleton.1 hb] at hd
    exact absurd hd (ho d)

/-- A delivery to a request that was not called back, of a packet that was not aborted. -/
theorem snoc_delivered (h : NoCrossing os) {d : Delivery} {args : ReadArgs}
    (hfirst : ∀ d', .delivered d' ∈ os → d'.request ≠ d.request)
    (haccepted : .accepted d.request args ∈ os)
    (hown : d.callback = args.pTmlReadComplete ∧ d.pContext = args.pContext ∧
      d.info.pBuff = args.pBuffer)
    (hkept : ∀ r, d.packet.readFor = some r → .aborted (some r) ∉ os) :
    NoCrossing (os ++ [.delivered d]) := by
  refine ⟨List.pairwise_append.2 ⟨h.once, List.pairwise_singleton _ _, ?_⟩, fun d' hd' => ?_,
    List.pairwise_append.2 ⟨h.kept, List.pairwise_singleton _ _, ?_⟩⟩
  · intro a ha b hb d₁ d₂ h₁ h₂
    rw [List.mem_singleton.1 hb] at h₂
    cases h₂
    exact hfirst d₁ (h₁ ▸ ha)
  · rcases List.mem_append.1 hd' with hd' | hd'
    · obtain ⟨args, hargs, heq⟩ := h.own d' hd'
      exact ⟨args, List.mem_append_left _ hargs, heq⟩
    · cases List.mem_singleton.1 hd'
      exact ⟨args, List.mem_append_left _ haccepted, hown⟩
  · intro a ha b hb r d' hr hd'
    rw [List.mem_singleton.1 hb] at hd'
    cases hd'
    exact fun heq => hkept r heq (hr ▸ ha)

end NoCrossing

/-! ## The condition -/

namespace ReaderState

/-- An abort finds the reader thread waiting, and no read message in the queue. -/
def Untaken (s : ReaderState) : ReaderInput → Prop
  | .readAbort => s.stage = .waiting ∧ s.messages = 0
  | _ => True

instance (s : ReaderState) (i : ReaderInput) : Decidable (s.Untaken i) :=
  match i with
  | .readAbort => inferInstanceAs (Decidable (_ ∧ _))
  | .read _ | .wake | .i2cRead _ | .copy | .post | .deliver => isTrue trivial

end ReaderState

/-! ## Phases of a request -/

/-- Where the current request is. -/
inductive Phase (s : ReaderState) : Prop where
  | idle (he : s.tReadInfo.bEnable = false) (hb : s.tReadInfo.bThreadBusy = false)
      (hs : s.stage = .waiting) (hm : s.messages = 0)
  | requested (he : s.tReadInfo.bEnable = true) (hb : s.tReadInfo.bThreadBusy = true)
      (hs : s.stage = .waiting) (hm : s.messages = 0)
  | reading (he : s.tReadInfo.bEnable = true) (hb : s.tReadInfo.bThreadBusy = true)
      (hs : s.stage = .reading s.current) (hm : s.messages = 0)
  | read {bytes : List UInt8} (he : s.tReadInfo.bEnable = true)
      (hb : s.tReadInfo.bThreadBusy = true) (hs : s.stage = .read ⟨bytes, some s.current⟩)
      (hm : s.messages = 0)
  | copied {length : ℕ} (he : s.tReadInfo.bEnable = false) (hb : s.tReadInfo.bThreadBusy = true)
      (hs : s.stage = .copied length) (hm : s.messages = 0)
      (hp : (s.mem s.tReadInfo.pBuffer).readFor = some s.current)
  | posted (he : s.tReadInfo.bEnable = false) (hb : s.tReadInfo.bThreadBusy = true)
      (hs : s.stage = .waiting) (hm : s.messages = 1)
      (hbuf : s.tTransactionInfo.pBuff = s.tReadInfo.pBuffer)
      (hp : (s.mem s.tReadInfo.pBuffer).readFor = some s.current)

variable {s u : ReaderState} {os : List ReaderOutput}

/-- What is known of the current request while it is pending. -/
structure Pending (os : List ReaderOutput) (s : ReaderState) : Prop where
  args : ∃ args, .accepted s.current args ∈ os ∧
    s.tReadInfo.pThreadCallback = args.pTmlReadComplete ∧ s.tReadInfo.pContext = args.pContext ∧
    s.tReadInfo.pBuffer = args.pBuffer
  notAborted : .aborted (some s.current) ∉ os
  notDelivered : ∀ d, .delivered d ∈ os → d.request ≠ s.current

/-- The invariant of runs. -/
structure Accounted (os : List ReaderOutput) (s : ReaderState) : Prop where
  phase : Phase s
  pending : s.tReadInfo.bThreadBusy = true → Pending os s
  current : s.tReadInfo.bThreadBusy = true → s.current < s.accepted
  aborted : ∀ r, .aborted (some r) ∈ os → r < s.accepted
  delivered : ∀ d, .delivered d ∈ os → d.request < s.accepted
  noCrossing : NoCrossing os

namespace Accounted

theorem init : Accounted [] ReaderState.init where
  phase := .idle rfl rfl rfl rfl
  pending h := (nomatch h)
  current h := (nomatch h)
  aborted _ h := absurd h List.not_mem_nil
  delivered _ h := absurd h List.not_mem_nil
  noCrossing := .nil

/-- A step that neither delivers nor aborts, and leaves the data of the request. -/
theorem quiet (h : Accounted os s) {o : ReaderOutput} (hd : ∀ d, o ≠ .delivered d)
    (ha : ∀ r, o ≠ .aborted (some r)) (hphase : Phase u)
    (hbusy : u.tReadInfo.bThreadBusy = s.tReadInfo.bThreadBusy) (hcur : u.current = s.current)
    (hacc : u.accepted = s.accepted)
    (hinfo : u.tReadInfo.pThreadCallback = s.tReadInfo.pThreadCallback ∧
      u.tReadInfo.pContext = s.tReadInfo.pContext ∧ u.tReadInfo.pBuffer = s.tReadInfo.pBuffer) :
    Accounted (os ++ [o]) u := by
  have hmem : ∀ o', o' ≠ o → o' ∈ os ++ [o] → o' ∈ os := by
    intro o' ho hin
    exact (List.mem_append.1 hin).resolve_right fun h => ho (List.mem_singleton.1 h)
  refine ⟨hphase, fun hb => ?_, fun hb => ?_, fun r hr => ?_, fun d hin => ?_,
    h.noCrossing.snoc_of_not_delivered hd⟩
  · obtain ⟨⟨args, hargs, hcb, hctx, hbuf⟩, hnot, hdel⟩ := h.pending (hbusy ▸ hb)
    refine ⟨⟨args, ?_, ?_⟩, ?_, fun d hin => ?_⟩
    · rw [hcur]
      exact List.mem_append_left _ hargs
    · rw [hinfo.1, hinfo.2.1, hinfo.2.2]
      exact ⟨hcb, hctx, hbuf⟩
    · rw [hcur]
      exact fun hin => hnot (hmem _ (ha _).symm hin)
    · rw [hcur]
      exact hdel d (hmem _ (hd d).symm hin)
  · rw [hcur, hacc]
    exact h.current (hbusy ▸ hb)
  · rw [hacc]
    exact h.aborted r (hmem _ (ha r).symm hr)
  · rw [hacc]
    exact h.delivered d (hmem _ (hd d).symm hin)

/-- `phTmlNfc_Read`: a new request starts only when there is none. -/
theorem read (h : Accounted os s) (args : ReadArgs) :
    Accounted (os ++ [(s.phTmlNfcRead args).2]) (s.phTmlNfcRead args).1 := by
  unfold ReaderState.phTmlNfcRead
  split_ifs with hvalid hbusy
  · have hidle : s.stage = .waiting ∧ s.messages = 0 := by
      rcases h.phase with ⟨_, _, hs, hm⟩ | ⟨_, hb, _, _⟩ | ⟨_, hb, _, _⟩ | ⟨_, hb, _, _⟩ |
        ⟨_, hb, _, _, _⟩ | ⟨_, hb, _, _, _, _⟩
      · exact ⟨hs, hm⟩
      all_goals
        rw [hbusy] at hb
        cases hb
    have hmem : ∀ o, o ≠ .accepted s.accepted args → o ∈ os ++ [.accepted s.accepted args] →
        o ∈ os := by
      intro o ho hin
      exact (List.mem_append.1 hin).resolve_right fun h => ho (List.mem_singleton.1 h)
    refine ⟨.requested rfl rfl hidle.1 hidle.2, fun _ => ⟨⟨args, ?_, rfl, rfl, rfl⟩, ?_, ?_⟩,
      fun _ => Nat.lt_succ_self _, fun r hr => ?_, fun d hd => ?_,
      h.noCrossing.snoc_of_not_delivered nofun⟩
    · exact List.mem_append_right _ List.mem_cons_self
    · -- the number of the request is new
      exact fun hin => absurd (h.aborted _ (hmem _ nofun hin)) (lt_irrefl _)
    · exact fun d hd => (h.delivered d (hmem _ nofun hd)).ne
    · exact (h.aborted r (hmem _ nofun hr)).trans (Nat.lt_succ_self _)
    · exact (h.delivered d (hmem _ nofun hd)).trans (Nat.lt_succ_self _)
  · exact h.quiet nofun nofun h.phase rfl rfl rfl ⟨rfl, rfl, rfl⟩
  · exact h.quiet nofun nofun h.phase rfl rfl rfl ⟨rfl, rfl, rfl⟩

/-- `phTmlNfc_ReadAbort` of a request that was not taken. -/
theorem readAbort (h : Accounted os s) (hs : s.stage = .waiting) (hm : s.messages = 0) :
    Accounted (os ++ [s.phTmlNfcReadAbort.2]) s.phTmlNfcReadAbort.1 := by
  refine ⟨.idle rfl rfl hs hm, fun hb => (nomatch hb), fun hb => (nomatch hb), fun r hr => ?_,
    fun d hd => ?_, h.noCrossing.snoc_of_not_delivered nofun⟩
  · rcases List.mem_append.1 hr with hr | hr
    · exact h.aborted r hr
    · have heq := ReaderOutput.aborted.inj (List.mem_singleton.1 hr)
      split at heq
      · rename_i hb
        obtain rfl := Option.some.inj heq
        exact h.current hb
      · cases heq
  · rcases List.mem_append.1 hd with hd | hd
    · exact h.delivered d hd
    · cases List.mem_singleton.1 hd

theorem wake (h : Accounted os s) (hs : s.stage = .waiting) : Accounted (os ++ [.silent]) s.wake := by
  refine h.quiet nofun nofun ?_ rfl rfl rfl ⟨rfl, rfl, rfl⟩
  rcases h.phase with ⟨he, hb, _, hm⟩ | ⟨he, hb, _, hm⟩ | ⟨_, _, hs', _⟩ | ⟨_, _, hs', _⟩ |
    ⟨_, _, hs', _, _⟩ | ⟨he, hb, _, hm, hbuf, hp⟩
  · exact .idle he hb (by simp [ReaderState.wake, he]) hm
  · exact .reading he hb (by simp [ReaderState.wake, he]) hm
  · exact absurd (hs.symm.trans hs') nofun
  · exact absurd (hs.symm.trans hs') nofun
  · exact absurd (hs.symm.trans hs') nofun
  · exact .posted he hb (by simp [ReaderState.wake, he]) hm hbuf hp

/-- The I2C read is for the current request. -/
theorem i2cRead (h : Accounted os s) {r : ℕ} (hs : s.stage = .reading r)
    (result : Option (List UInt8)) : Accounted (os ++ [.silent]) (s.i2cRead r result) := by
  rcases h.phase with ⟨_, _, hs', _⟩ | ⟨_, _, hs', _⟩ | ⟨he, hb, hs', hm⟩ | ⟨_, _, hs', _⟩ |
    ⟨_, _, hs', _, _⟩ | ⟨_, _, hs', _, _, _⟩
  · exact absurd (hs.symm.trans hs') nofun
  · exact absurd (hs.symm.trans hs') nofun
  · obtain rfl := ReaderStage.reading.inj (hs.symm.trans hs')
    unfold ReaderState.i2cRead
    split
    · exact h.quiet nofun nofun (.requested he hb rfl hm) rfl rfl rfl ⟨rfl, rfl, rfl⟩
    · split
      · exact h.quiet nofun nofun (.requested he hb rfl hm) rfl rfl rfl ⟨rfl, rfl, rfl⟩
      · exact h.quiet nofun nofun (.read he hb rfl hm) rfl rfl rfl ⟨rfl, rfl, rfl⟩
  · exact absurd (hs.symm.trans hs') nofun
  · exact absurd (hs.symm.trans hs') nofun
  · exact absurd (hs.symm.trans hs') nofun

theorem copy (h : Accounted os s) {packet : Packet} (hs : s.stage = .read packet) :
    Accounted (os ++ [.silent]) (s.copy packet) := by
  rcases h.phase with ⟨_, _, hs', _⟩ | ⟨_, _, hs', _⟩ | ⟨_, _, hs', _⟩ | ⟨he, hb, hs', hm⟩ |
    ⟨_, _, hs', _, _⟩ | ⟨_, _, hs', _, _, _⟩
  · exact absurd (hs.symm.trans hs') nofun
  · exact absurd (hs.symm.trans hs') nofun
  · exact absurd (hs.symm.trans hs') nofun
  · obtain rfl := ReaderStage.read.inj (hs.symm.trans hs')
    refine h.quiet nofun nofun (.copied rfl hb rfl hm ?_) rfl rfl rfl ⟨rfl, rfl, rfl⟩
    simp [ReaderState.copy]
  · exact absurd (hs.symm.trans hs') nofun
  · exact absurd (hs.symm.trans hs') nofun

theorem post (h : Accounted os s) {length : ℕ} (hs : s.stage = .copied length) :
    Accounted (os ++ [.silent]) (s.post length) := by
  rcases h.phase with ⟨_, _, hs', _⟩ | ⟨_, _, hs', _⟩ | ⟨_, _, hs', _⟩ | ⟨_, _, hs', _⟩ |
    ⟨he, hb, hs', hm, hp⟩ | ⟨_, _, hs', _, _, _⟩
  · exact absurd (hs.symm.trans hs') nofun
  · exact absurd (hs.symm.trans hs') nofun
  · exact absurd (hs.symm.trans hs') nofun
  · exact absurd (hs.symm.trans hs') nofun
  · refine h.quiet nofun nofun (.posted he hb rfl ?_ rfl hp) rfl rfl rfl ⟨rfl, rfl, rfl⟩
    simp [ReaderState.post, hm]
  · exact absurd (hs.symm.trans hs') nofun

/-- `phTmlNfc_ReadDeferredCb`: the message in the queue is that of the current request. -/
theorem deliver (h : Accounted os s) (hpos : 0 < s.messages) :
    Accounted (os ++ [s.readDeferredCb.2]) s.readDeferredCb.1 := by
  rcases h.phase with ⟨_, _, _, hm⟩ | ⟨_, _, _, hm⟩ | ⟨_, _, _, hm⟩ | ⟨_, _, _, hm⟩ |
    ⟨_, _, _, hm, _⟩ | ⟨he, hb, hs, hm, hbuf, hp⟩
  · omega
  · omega
  · omega
  · omega
  · omega
  · obtain ⟨⟨args, hargs, hcb, hctx, hbufargs⟩, hnot, hdel⟩ := h.pending hb
    refine ⟨.idle he rfl hs ?_, fun hb => (nomatch hb), fun hb => (nomatch hb), fun r hr => ?_,
      fun d hd => ?_, ?_⟩
    · simp [ReaderState.readDeferredCb, hm]
    · rcases List.mem_append.1 hr with hr | hr
      · exact h.aborted r hr
      · cases List.mem_singleton.1 hr
    · rcases List.mem_append.1 hd with hd | hd
      · exact h.delivered d hd
      · cases List.mem_singleton.1 hd
        exact h.current hb
    · refine h.noCrossing.snoc_delivered hdel hargs ⟨hcb, hctx, hbuf.trans hbufargs⟩ ?_
      intro r hr
      obtain rfl : s.current = r := by
        rw [hbuf, hp] at hr
        exact Option.some.inj hr
      exact hnot

/-- Every step of a run that aborts only untaken requests. -/
theorem step (h : Accounted os s) {i : ReaderInput} {o : ReaderOutput} (hi : s.Untaken i)
    (hs : s.step i = some (u, o)) : Accounted (os ++ [o]) u := by
  cases i with
  | read args =>
    have hread := h.read args
    rw [Option.some.inj hs] at hread
    exact hread
  | readAbort =>
    cases hs
    exact h.readAbort hi.1 hi.2
  | wake =>
    rw [ReaderState.step, Option.ite_none_right_eq_some] at hs
    obtain ⟨⟨hstage, -⟩, hs⟩ := hs
    cases hs
    exact h.wake hstage
  | i2cRead result =>
    rw [ReaderState.step] at hs
    split at hs
    · rename_i r hstage
      cases hs
      exact h.i2cRead hstage result
    · cases hs
  | copy =>
    rw [ReaderState.step] at hs
    split at hs
    · rename_i packet hstage
      cases hs
      exact h.copy hstage
    · cases hs
  | post =>
    rw [ReaderState.step] at hs
    split at hs
    · rename_i length hstage
      cases hs
      exact h.post hstage
    · cases hs
  | deliver =>
    rw [ReaderState.step, Option.ite_none_right_eq_some] at hs
    obtain ⟨hpos, hs⟩ := hs
    cases hs
    exact h.deliver hpos

end Accounted

/-- In every run that aborts a read request only while the reader thread has not taken it, no
packet crosses an abort. -/
theorem noCrossing_of_untaken {es : List (ReaderInput × ReaderOutput)}
    (hrun : Lib.Run (Lib.restrict ReaderState.Untaken ReaderState.step) ReaderState.init es s) :
    NoCrossing (es.map Prod.snd) := by
  have haccounted : Accounted (es.map Prod.snd) s := by
    induction hrun with
    | nil => exact Accounted.init
    | snoc _ hs ih =>
      obtain ⟨huntaken, hs⟩ := Lib.restrict_eq_some.1 hs
      rw [List.map_append]
      exact ih.step huntaken hs
  exact haccounted.noCrossing

/-- A request is aborted while the reader thread blocks in the I2C read; the next request gets its
packet. -/
def abortWhileReading : List ReaderInput :=
  [.read ⟨1, 260, 10, 20⟩, .wake, .readAbort, .read ⟨2, 260, 11, 21⟩,
    .i2cRead (some [0x60, 0x00, 0x02, 0x00, 0x01]), .copy, .post, .deliver]

theorem abortWhileReading_crosses :
    ∃ es s, Lib.exec ReaderState.step ReaderState.init abortWhileReading = some (es, s) ∧
      ¬ NoCrossing (es.map Prod.snd) := by
  refine ⟨_, _, rfl, fun h => ?_⟩
  have hkept := List.pairwise_iff_getElem.1 h.kept 2 7 (by decide) (by decide) (by decide)
  exact hkept 0 ⟨1, 11, 21, ⟨NFCSTATUS.success, 2, 5⟩, ⟨[0x60, 0x00, 0x02, 0x00, 0x01], some 0⟩⟩
    rfl rfl rfl

/-- A request is aborted before the reader thread wakes up, and another one is answered. -/
def abortBeforeWake : List ReaderInput :=
  [.read ⟨1, 260, 10, 20⟩, .readAbort, .read ⟨2, 260, 11, 21⟩, .wake,
    .i2cRead (some [0x60, 0x00, 0x02, 0x00, 0x01]), .copy, .post, .deliver]

theorem noCrossing_abortBeforeWake :
    ∃ es s, Lib.exec (Lib.restrict ReaderState.Untaken ReaderState.step) ReaderState.init
        abortBeforeWake = some (es, s) ∧ NoCrossing (es.map Prod.snd) :=
  ⟨_, _, rfl, noCrossing_of_untaken (Lib.run_of_exec (l := abortBeforeWake) rfl)⟩

end AliceHal.Pn54x.Tml
