import AliceHal.Pn54x.Tml.Writer

/-!
# Retransmission Stays with Its Packet

Whether a timer can act on a packet that it was not started for. `phTmlNfc_Write` accepts the next
packet as soon as the completion of the last one is delivered, and neither stops the timer of that
packet nor waits for an expiry that is under way.

- `StaysWithPacket`: the property, over what a run shows
- `WriterState.Orderly`: the next packet waits for the timer of the last one, and an answer does
  not come while a retransmission is under way
- `WritePhase`: where the current packet may still be transmitted from; there is one such place at
  most
- `staysWithPacket_of_orderly`: orderly runs
-/

namespace AliceHal.Pn54x.Tml

/-! ## The property -/

/-- Every accepted write is completed at most once, with its own context; and an expiry of the
timer changes the retry count, and asks for a transmission, only for the packet that the timer was
started for. -/
structure StaysWithPacket (os : List WriterOutput) : Prop where
  once : os.Pairwise fun o o' => ∀ c c', o = .completed c → o' = .completed c' →
    c.request ≠ c'.request
  own : ∀ c, .completed c ∈ os → ∃ args, .accepted c.request args ∈ os ∧
    c.callback = args.pTmlWriteComplete ∧ c.pContext = args.pContext
  retried : ∀ armedFor packet, .expiry armedFor packet true ∈ os → armedFor = packet
  transmitted : ∀ packet armedFor, .transmitted packet (some armedFor) ∈ os → armedFor = packet

namespace StaysWithPacket

variable {os : List WriterOutput} {o : WriterOutput}

theorem nil : StaysWithPacket [] where
  once := List.Pairwise.nil
  own _ h := absurd h List.not_mem_nil
  retried _ _ h := absurd h List.not_mem_nil
  transmitted _ _ h := absurd h List.not_mem_nil

/-- A step that completes nothing. -/
theorem snoc (h : StaysWithPacket os) (hc : ∀ c, o ≠ .completed c)
    (hr : ∀ armedFor packet, o = .expiry armedFor packet true → armedFor = packet)
    (ht : ∀ packet armedFor, o = .transmitted packet (some armedFor) → armedFor = packet) :
    StaysWithPacket (os ++ [o]) := by
  refine ⟨List.pairwise_append.2 ⟨h.once, List.pairwise_singleton _ _, ?_⟩, fun c hin => ?_,
    fun a p hin => ?_, fun p a hin => ?_⟩
  · intro a _ b hb c c' _ hc'
    rw [List.mem_singleton.1 hb] at hc'
    exact absurd hc' (hc c')
  · rcases List.mem_append.1 hin with hin | hin
    · obtain ⟨args, hargs, heq⟩ := h.own c hin
      exact ⟨args, List.mem_append_left _ hargs, heq⟩
    · exact absurd (List.mem_singleton.1 hin).symm (hc c)
  · rcases List.mem_append.1 hin with hin | hin
    · exact h.retried a p hin
    · exact hr a p (List.mem_singleton.1 hin).symm
  · rcases List.mem_append.1 hin with hin | hin
    · exact h.transmitted p a hin
    · exact ht p a (List.mem_singleton.1 hin).symm

/-- The completion of a request that was not completed. -/
theorem snoc_completed (h : StaysWithPacket os) {c : Completion} {args : WriteArgs}
    (hfirst : ∀ c', .completed c' ∈ os → c'.request ≠ c.request)
    (haccepted : .accepted c.request args ∈ os)
    (hown : c.callback = args.pTmlWriteComplete ∧ c.pContext = args.pContext) :
    StaysWithPacket (os ++ [.completed c]) := by
  refine ⟨List.pairwise_append.2 ⟨h.once, List.pairwise_singleton _ _, ?_⟩, fun c' hin => ?_,
    fun a p hin => ?_, fun p a hin => ?_⟩
  · intro a ha b hb c₁ c₂ h₁ h₂
    rw [List.mem_singleton.1 hb] at h₂
    cases h₂
    exact hfirst c₁ (h₁ ▸ ha)
  · rcases List.mem_append.1 hin with hin | hin
    · obtain ⟨args, hargs, heq⟩ := h.own c' hin
      exact ⟨args, List.mem_append_left _ hargs, heq⟩
    · cases List.mem_singleton.1 hin
      exact ⟨args, List.mem_append_left _ haccepted, hown⟩
  · rcases List.mem_append.1 hin with hin | hin
    · exact h.retried a p hin
    · cases List.mem_singleton.1 hin
  · rcases List.mem_append.1 hin with hin | hin
    · exact h.transmitted p a hin
    · cases List.mem_singleton.1 hin

end StaysWithPacket

/-! ## The condition -/

namespace WriterState

/-- Nothing is left of the last packet: the writer thread waits, no completion is in the queue, and
the timer is quiet. -/
def Finished (s : WriterState) : Prop := s.stage = .waiting ∧ s.messages = 0 ∧ s.timer.Quiet

instance (s : WriterState) : Decidable s.Finished := inferInstanceAs (Decidable (_ ∧ _))

/-- No transmission is under way or asked for, though the timer may be running. -/
def AtRest (s : WriterState) : Prop :=
  s.stage = .waiting ∧ s.tWriteInfo.bEnable = false ∧ s.timer.notifications = [] ∧
    s.timer.messages = []

instance (s : WriterState) : Decidable s.AtRest := inferInstanceAs (Decidable (_ ∧ _))

/-- A packet is accepted only when nothing is left of the last one; and an answer is received only
before the completion is posted, or while no transmission is under way or asked for. -/
def Orderly (s : WriterState) : WriterInput → Prop
  | .write args => args.pBuffer ≠ 0 ∧ args.packet ≠ [] ∧ args.pTmlWriteComplete ≠ 0 →
    s.tWriteInfo.bThreadBusy = false → s.Finished
  | .received header =>
    isRetransmitted header = true → s.bWriteCbInvoked = true → s.AtRest
  | _ => True

instance (s : WriterState) (i : WriterInput) : Decidable (s.Orderly i) :=
  match i with
  | .write _ => inferInstanceAs (Decidable (_ → _ → _))
  | .received _ => inferInstanceAs (Decidable (_ → _ → _))
  | .writeAbort | .wake | .i2cWrite _ _ | .post | .arm _ | .deliver | .fire | .expired _
  | .deliverExpiry => isTrue trivial

end WriterState

/-! ## The invariant -/

/-- Nothing is left that could transmit the current packet again. -/
structure Rest (s : WriterState) : Prop where
  bEnable : s.tWriteInfo.bEnable = false
  stage : s.stage = .waiting
  timer : s.timer.Quiet

/-- Where the current packet may still be transmitted from. -/
inductive WritePhase (s : WriterState) : Prop where
  | rest (h : Rest s)
  | enabled (he : s.tWriteInfo.bEnable = true) (hs : s.stage = .waiting) (ht : s.timer.Quiet)
      (hby : ∀ p, s.enabledBy = some p → p = s.current)
  | taken {cause : Option ℕ} (he : s.tWriteInfo.bEnable = false) (hs : s.stage = .taken cause)
      (ht : s.timer.Quiet) (hby : ∀ p, cause = some p → p = s.current)
  | written {ok : Bool} (he : s.tWriteInfo.bEnable = false) (hs : s.stage = .written s.current ok)
      (ht : s.timer.Quiet)
  | posted (he : s.tWriteInfo.bEnable = false) (hs : s.stage = .posted s.current)
      (ht : s.timer.Quiet)
  | armed (he : s.tWriteInfo.bEnable = false) (hs : s.stage = .waiting)
      (ht : s.timer = ⟨.running, some s.current, [], []⟩)
  | notified (he : s.tWriteInfo.bEnable = false) (hs : s.stage = .waiting)
      (ha : s.timer.armed = none) (hn : s.timer.notifications = [s.current])
      (hm : s.timer.messages = [])
  | queued (he : s.tWriteInfo.bEnable = false) (hs : s.stage = .waiting)
      (ha : s.timer.armed = none) (hn : s.timer.notifications = [])
      (hm : s.timer.messages = [s.current])

variable {s u : WriterState} {os : List WriterOutput}

/-- The completion of the current packet is in the queue or was delivered. -/
def Done (os : List WriterOutput) (s : WriterState) : Prop :=
  0 < s.messages ∨ ∃ c, .completed c ∈ os ∧ c.request = s.current

/-- The completion of the current packet is not posted again. -/
def Spent (s : WriterState) : Prop :=
  Rest s ∨ (s.stage = .posted s.current ∧ s.retransmits = false) ∨
    (s.retransmits = true ∧ s.bWriteCbInvoked = true)

/-- The data of the current request is that of its call. -/
def Matches (os : List WriterOutput) (s : WriterState) : Prop :=
  s.current < s.accepted ∧ ∃ args, .accepted s.current args ∈ os ∧
    s.tWriteInfo.pThreadCallback = args.pTmlWriteComplete ∧ s.tWriteInfo.pContext = args.pContext

/-- The invariant of runs. -/
structure WriteAccounted (os : List WriterOutput) (s : WriterState) : Prop where
  phase : WritePhase s
  eConfig : s.eConfig = true
  args : Matches os s ∨ (Rest s ∧ s.messages = 0)
  spent : Done os s → Spent s
  messages : s.messages ≤ 1
  notCompleted : 0 < s.messages → ∀ c, .completed c ∈ os → c.request ≠ s.current
  completed : ∀ c, .completed c ∈ os → c.request < s.accepted
  stays : StaysWithPacket os

namespace WriteAccounted

theorem init (bRetryCount : ℕ) : WriteAccounted [] (.init bRetryCount) where
  phase := .rest ⟨rfl, rfl, rfl, rfl, rfl⟩
  eConfig := rfl
  args := Or.inr ⟨⟨rfl, rfl, rfl, rfl, rfl⟩, rfl⟩
  spent _ := Or.inl ⟨rfl, rfl, rfl, rfl, rfl⟩
  messages := Nat.zero_le _
  notCompleted h := absurd h (lt_irrefl _)
  completed _ h := absurd h List.not_mem_nil
  stays := .nil

/-- What the stages of the writer thread and of the timer leave as it is. -/
structure SameRequest (s u : WriterState) : Prop where
  current : u.current = s.current
  accepted : u.accepted = s.accepted
  eConfig : u.eConfig = s.eConfig
  callback : u.tWriteInfo.pThreadCallback = s.tWriteInfo.pThreadCallback
  context : u.tWriteInfo.pContext = s.tWriteInfo.pContext
  messages : u.messages = s.messages

/-- A step of the writer thread or of the timer, which completes nothing. -/
theorem keep (h : WriteAccounted os s) {o : WriterOutput} (hc : ∀ c, o ≠ .completed c)
    (hr : ∀ armedFor packet, o = .expiry armedFor packet true → armedFor = packet)
    (ht : ∀ packet armedFor, o = .transmitted packet (some armedFor) → armedFor = packet)
    (hsame : SameRequest s u) (hphase : WritePhase u) (hrest : Rest s → Rest u)
    (hspent : Spent s → Spent u) : WriteAccounted (os ++ [o]) u := by
  have hmem : ∀ c, .completed c ∈ os ++ [o] → .completed c ∈ os := fun c hin =>
    (List.mem_append.1 hin).resolve_right fun h => hc c (List.mem_singleton.1 h).symm
  refine ⟨hphase, hsame.eConfig.trans h.eConfig, ?_, fun hdone => hspent (h.spent ?_), ?_,
    fun hpos c hin => ?_, fun c hin => ?_, h.stays.snoc hc hr ht⟩
  · rcases h.args with ⟨hlt, args, hargs, hcb, hctx⟩ | ⟨hr, hm⟩
    · refine Or.inl ⟨?_, args, ?_, hsame.callback.trans hcb, hsame.context.trans hctx⟩
      · rw [hsame.current, hsame.accepted]
        exact hlt
      · rw [hsame.current]
        exact List.mem_append_left _ hargs
    · exact Or.inr ⟨hrest hr, hsame.messages.trans hm⟩
  · rcases hdone with hpos | ⟨c, hin, hcur⟩
    · exact Or.inl (hsame.messages ▸ hpos)
    · exact Or.inr ⟨c, hmem c hin, hcur.trans hsame.current⟩
  · rw [hsame.messages]
    exact h.messages
  · rw [hsame.current]
    exact h.notCompleted (hsame.messages ▸ hpos) c (hmem c hin)
  · rw [hsame.accepted]
    exact h.completed c (hmem c hin)

/-- `phTmlNfc_Write`: nothing is left of the last packet. -/
theorem write (h : WriteAccounted os s) (args : WriteArgs)
    (hfin : s.Orderly (.write args)) :
    WriteAccounted (os ++ [(s.phTmlNfcWrite args).2]) (s.phTmlNfcWrite args).1 := by
  have hsame : SameRequest s s := ⟨rfl, rfl, rfl, rfl, rfl, rfl⟩
  unfold WriterState.phTmlNfcWrite
  by_cases hvalid : args.pBuffer ≠ 0 ∧ args.packet ≠ [] ∧ args.pTmlWriteComplete ≠ 0
  swap
  · rw [if_neg hvalid]
    exact h.keep nofun nofun nofun hsame h.phase (fun hr => hr) fun hs => hs
  rw [if_pos hvalid]
  by_cases hbusy : s.tWriteInfo.bThreadBusy = false
  · rw [if_pos hbusy]
    obtain ⟨hstage, hmsg, htimer⟩ := hfin hvalid hbusy
    have hmem : ∀ c, .completed c ∈ os ++ [.accepted s.accepted args] → .completed c ∈ os := by
      intro c hin
      exact (List.mem_append.1 hin).resolve_right fun h => nomatch List.mem_singleton.1 h
    -- the number of the request is new, so it is not completed
    have hnew : ∀ c, .completed c ∈ os ++ [.accepted s.accepted args] → c.request ≠ s.accepted :=
      fun c hin => (h.completed c (hmem c hin)).ne
    refine ⟨.enabled rfl hstage htimer nofun, h.eConfig,
      Or.inl ⟨Nat.lt_succ_self _, args, ?_, rfl, rfl⟩, ?_, ?_, ?_, fun c hin => ?_, h.stays.snoc nofun nofun nofun⟩
    · exact List.mem_append_right _ List.mem_cons_self
    · rintro (hpos | ⟨c, hin, hcur⟩)
      · exact absurd hpos (by simp [hmsg])
      · exact absurd hcur (hnew c hin)
    · exact hmsg.le.trans (Nat.zero_le _)
    · exact fun _ => hnew
    · exact (h.completed c (hmem c hin)).trans (Nat.lt_succ_self _)
  · rw [if_neg hbusy]
    exact h.keep nofun nofun nofun hsame h.phase (fun hr => hr) fun hs => hs

/-- `phTmlNfc_WriteAbort`. -/
theorem writeAbort (h : WriteAccounted os s) :
    WriteAccounted (os ++ [.silent]) s.phTmlNfcWriteAbort := by
  have hrest : Rest s → Rest s.phTmlNfcWriteAbort := fun hr => ⟨rfl, hr.stage, hr.timer⟩
  refine h.keep nofun nofun nofun ⟨rfl, rfl, rfl, rfl, rfl, rfl⟩ ?_ hrest (Or.imp_left hrest)
  rcases h.phase with hr | ⟨_, hs, ht, _⟩ | ⟨_, hs, ht, hby⟩ | ⟨_, hs, ht⟩ | ⟨_, hs, ht⟩ |
    ⟨_, hs, ht⟩ | ⟨_, hs, ha, hn, hm⟩ | ⟨_, hs, ha, hn, hm⟩
  · exact .rest (hrest hr)
  · exact .rest ⟨rfl, hs, ht⟩
  · exact .taken rfl hs ht hby
  · exact .written rfl hs ht
  · exact .posted rfl hs ht
  · exact .armed rfl hs ht
  · exact .notified rfl hs ha hn hm
  · exact .queued rfl hs ha hn hm

/-- The writer thread wakes up. -/
theorem wake (h : WriteAccounted os s) (hw : s.stage = .waiting) :
    WriteAccounted (os ++ [.silent]) s.wake := by
  unfold WriterState.wake
  split
  · rename_i he
    have hnot : ¬ Rest s := fun hr => by
      rw [hr.bEnable] at he
      cases he
    refine h.keep nofun nofun nofun ⟨rfl, rfl, rfl, rfl, rfl, rfl⟩ ?_ (fun hr => absurd hr hnot) ?_
    · rcases h.phase with hr | ⟨_, _, ht, hby⟩ | ⟨_, hs, _, _⟩ | ⟨_, hs, _⟩ | ⟨_, hs, _⟩ |
        ⟨he', _, _⟩ | ⟨he', _, _, _, _⟩ | ⟨he', _, _, _, _⟩
      · exact absurd hr hnot
      · exact .taken rfl rfl ht hby
      · exact absurd (hw.symm.trans hs) nofun
      · exact absurd (hw.symm.trans hs) nofun
      · exact absurd (hw.symm.trans hs) nofun
      all_goals
        rw [he] at he'
        cases he'
    · rintro (hr | ⟨hs, _⟩ | hinv)
      · exact absurd hr hnot
      · exact absurd (hw.symm.trans hs) nofun
      · exact Or.inr (Or.inr hinv)
  · exact h.keep nofun nofun nofun ⟨rfl, rfl, rfl, rfl, rfl, rfl⟩
      (by
        rcases h.phase with hr | ⟨he, hs, ht, hby⟩ | ⟨he, hs, ht, hby⟩ | ⟨he, hs, ht⟩ |
          ⟨he, hs, ht⟩ | ⟨he, hs, ht⟩ | ⟨he, hs, ha, hn, hm⟩ | ⟨he, hs, ha, hn, hm⟩
        · exact .rest ⟨hr.bEnable, hr.stage, hr.timer⟩
        · exact .enabled he hs ht hby
        · exact .taken he hs ht hby
        · exact .written he hs ht
        · exact .posted he hs ht
        · exact .armed he hs ht
        · exact .notified he hs ha hn hm
        · exact .queued he hs ha hn hm)
      (fun hr => ⟨hr.bEnable, hr.stage, hr.timer⟩)
      (Or.imp_left fun hr => ⟨hr.bEnable, hr.stage, hr.timer⟩)

/-- The packet is transmitted. -/
theorem i2cWrite (h : WriteAccounted os s) {cause : Option ℕ} (hw : s.stage = .taken cause)
    (ok download : Bool) :
    WriteAccounted (os ++ [(s.i2cWrite cause ok download).2]) (s.i2cWrite cause ok download).1 := by
  have hnot : ¬ Rest s := fun hr => nomatch hw.symm.trans hr.stage
  rcases h.phase with hr | ⟨_, hs, _, _⟩ | ⟨he, hs, ht, hby⟩ | ⟨_, hs, _⟩ | ⟨_, hs, _⟩ |
    ⟨_, hs, _⟩ | ⟨_, hs, _, _, _⟩ | ⟨_, hs, _, _, _⟩
  · exact absurd hr hnot
  · exact absurd (hw.symm.trans hs) nofun
  · obtain rfl := WriterStage.taken.inj (hw.symm.trans hs)
    have hcause : ∀ packet armedFor, WriterOutput.transmitted s.current cause =
        .transmitted packet (some armedFor) → armedFor = packet := by
      intro packet armedFor heq
      cases heq
      exact hby armedFor rfl
    have hspent : ∀ {u : WriterState}, u.retransmits = s.retransmits →
        u.bWriteCbInvoked = s.bWriteCbInvoked → Spent s → Spent u := by
      rintro u hretr hinv (hr | ⟨hs', _⟩ | hdone)
      · exact absurd hr hnot
      · exact absurd (hw.symm.trans hs') nofun
      · refine Or.inr (Or.inr ?_)
        rw [hretr, hinv]
        exact hdone
    unfold WriterState.i2cWrite
    split
    · exact h.keep nofun nofun hcause ⟨rfl, rfl, rfl, rfl, rfl, rfl⟩ (.taken rfl hs ht hby)
        (fun hr => absurd hr hnot) (hspent rfl rfl)
    · exact h.keep nofun nofun hcause ⟨rfl, rfl, rfl, rfl, rfl, rfl⟩ (.written he rfl ht)
        (fun hr => absurd hr hnot) (hspent rfl rfl)
  all_goals exact absurd (hw.symm.trans hs) nofun

/-- What the phase says of a writer thread that has transmitted. -/
theorem of_written (h : WriteAccounted os s) {packet : ℕ} {ok : Bool}
    (hw : s.stage = .written packet ok) :
    packet = s.current ∧ s.tWriteInfo.bEnable = false ∧ s.timer.Quiet := by
  rcases h.phase with hr | ⟨_, hs, _, _⟩ | ⟨_, hs, _, _⟩ | ⟨he, hs, ht⟩ | ⟨_, hs, _⟩ |
    ⟨_, hs, _⟩ | ⟨_, hs, _, _, _⟩ | ⟨_, hs, _, _, _⟩
  · exact absurd (hw.symm.trans hr.stage) nofun
  · exact absurd (hw.symm.trans hs) nofun
  · exact absurd (hw.symm.trans hs) nofun
  · exact ⟨(WriterStage.written.inj (hw.symm.trans hs)).1, he, ht⟩
  all_goals exact absurd (hw.symm.trans hs) nofun

/-- The completion is posted, of a packet that was not completed. -/
theorem posts (h : WriteAccounted os s) (hnot : ¬ Done os s) (hphase : WritePhase u)
    (hspent : Spent u) (hcur : u.current = s.current) (hacc : u.accepted = s.accepted)
    (hconfig : u.eConfig = s.eConfig) (hargs : Matches os u) (hmsg : u.messages = s.messages + 1) :
    WriteAccounted (os ++ [.silent]) u := by
  have hmem : ∀ c, .completed c ∈ os ++ [.silent] → .completed c ∈ os := by
    intro c hin
    exact (List.mem_append.1 hin).resolve_right fun h => nomatch List.mem_singleton.1 h
  have hzero : s.messages = 0 := by
    by_contra hpos
    exact hnot (Or.inl (Nat.pos_of_ne_zero hpos))
  obtain ⟨hlt, args, hin, heq⟩ := hargs
  refine ⟨hphase, hconfig.trans h.eConfig, Or.inl ⟨hlt, args, List.mem_append_left _ hin, heq⟩,
    fun _ => hspent, ?_, fun _ c hc => ?_, fun c hc => ?_, h.stays.snoc nofun nofun nofun⟩
  · rw [hmsg, hzero]
  · rw [hcur]
    exact fun heq => hnot (Or.inr ⟨c, hmem c hc, heq⟩)
  · rw [hacc]
    exact h.completed c (hmem c hc)

theorem post (h : WriteAccounted os s) {packet : ℕ} {ok : Bool}
    (hw : s.stage = .written packet ok) : WriteAccounted (os ++ [.silent]) (s.post packet ok) := by
  obtain ⟨rfl, he, ht⟩ := h.of_written hw
  have hnot : ¬ Rest s := fun hr => nomatch hw.symm.trans hr.stage
  have hargs : Matches os s := h.args.resolve_right fun hr => hnot hr.1
  -- a packet that was completed is not posted again: the flag says so
  have hdone : Done os s → s.retransmits = true ∧ s.bWriteCbInvoked = true := fun hd => by
    rcases h.spent hd with hr | ⟨hs, _⟩ | hinv
    · exact absurd hr hnot
    · exact absurd (hw.symm.trans hs) nofun
    · exact hinv
  unfold WriterState.post
  split
  · rename_i hretr
    split
    · rename_i hpost
      refine h.posts (fun hd => ?_) (.posted he rfl ht) (Or.inr (Or.inr ⟨hretr, rfl⟩)) rfl rfl rfl
        hargs rfl
      rw [(hdone hd).2] at hpost
      exact absurd hpost.1 nofun
    · refine h.keep nofun nofun nofun ⟨rfl, rfl, rfl, rfl, rfl, rfl⟩ (.posted he rfl ht)
        (fun hr => absurd hr hnot) ?_
      rintro (hr | ⟨hs, _⟩ | hinv)
      · exact absurd hr hnot
      · exact absurd (hw.symm.trans hs) nofun
      · exact Or.inr (Or.inr hinv)
  · rename_i hretr
    refine h.posts (fun hd => hretr (hdone hd).1) (.posted he rfl ht)
      (Or.inr (Or.inl ⟨rfl, Bool.eq_false_iff.2 hretr⟩)) rfl rfl rfl hargs rfl

/-- What the phase says of a writer thread that has posted the completion. -/
theorem of_posted (h : WriteAccounted os s) {packet : ℕ} (hw : s.stage = .posted packet) :
    packet = s.current ∧ s.tWriteInfo.bEnable = false ∧ s.timer.Quiet := by
  rcases h.phase with hr | ⟨_, hs, _, _⟩ | ⟨_, hs, _, _⟩ | ⟨_, hs, _⟩ | ⟨he, hs, ht⟩ |
    ⟨_, hs, _⟩ | ⟨_, hs, _, _, _⟩ | ⟨_, hs, _, _, _⟩
  · exact absurd (hw.symm.trans hr.stage) nofun
  · exact absurd (hw.symm.trans hs) nofun
  · exact absurd (hw.symm.trans hs) nofun
  · exact absurd (hw.symm.trans hs) nofun
  · exact ⟨WriterStage.posted.inj (hw.symm.trans hs), he, ht⟩
  all_goals exact absurd (hw.symm.trans hs) nofun

/-- The timer is started, or the packet is finished. -/
theorem arm (h : WriteAccounted os s) {packet : ℕ} (hw : s.stage = .posted packet)
    (started : Bool) : WriteAccounted (os ++ [.silent]) (s.arm packet started) := by
  obtain ⟨rfl, he, ht⟩ := h.of_posted hw
  have hnot : ¬ Rest s := fun hr => nomatch hw.symm.trans hr.stage
  unfold WriterState.arm
  split
  · rename_i hretr
    split
    · refine h.keep nofun nofun nofun ⟨rfl, rfl, rfl, rfl, rfl, rfl⟩ (.armed he rfl ?_)
        (fun hr => absurd hr hnot) ?_
      · simp only [ReTxTimer.start, ht.2.1, ht.2.2]
      · rintro (hr | ⟨_, hdata⟩ | hinv)
        · exact absurd hr hnot
        · rw [hretr] at hdata
          cases hdata
        · exact Or.inr (Or.inr hinv)
    · exact h.keep nofun nofun nofun ⟨rfl, rfl, rfl, rfl, rfl, rfl⟩ (.rest ⟨rfl, rfl, ht⟩)
        (fun hr => absurd hr hnot) fun _ => Or.inl ⟨rfl, rfl, ht⟩
  · exact h.keep nofun nofun nofun ⟨rfl, rfl, rfl, rfl, rfl, rfl⟩ (.rest ⟨he, rfl, ht⟩)
      (fun hr => absurd hr hnot) fun _ => Or.inl ⟨he, rfl, ht⟩

/-- `phTmlNfc_WriteDeferredCb`: the queue had the completion of the current packet. -/
theorem deliver (h : WriteAccounted os s) (hpos : 0 < s.messages) :
    WriteAccounted (os ++ [s.writeDeferredCb.2]) s.writeDeferredCb.1 := by
  obtain ⟨hlt, args, haccepted, hown⟩ : Matches os s :=
    h.args.resolve_right fun hr => hpos.ne' hr.2
  have hlast : s.messages - 1 = 0 := Nat.sub_eq_zero_of_le h.messages
  have hphase : WritePhase s.writeDeferredCb.1 := by
    rcases h.phase with hr | ⟨he, hs, ht, hby⟩ | ⟨he, hs, ht, hby⟩ | ⟨he, hs, ht⟩ |
      ⟨he, hs, ht⟩ | ⟨he, hs, ht⟩ | ⟨he, hs, ha, hn, hm⟩ | ⟨he, hs, ha, hn, hm⟩
    · exact .rest ⟨hr.bEnable, hr.stage, hr.timer⟩
    · exact .enabled he hs ht hby
    · exact .taken he hs ht hby
    · exact .written he hs ht
    · exact .posted he hs ht
    · exact .armed he hs ht
    · exact .notified he hs ha hn hm
    · exact .queued he hs ha hn hm
  have hspent : Spent s.writeDeferredCb.1 :=
    (h.spent (Or.inl hpos)).imp_left fun hr => ⟨hr.bEnable, hr.stage, hr.timer⟩
  refine ⟨hphase, h.eConfig, Or.inl ⟨hlt, args, List.mem_append_left _ haccepted, hown⟩,
    fun _ => hspent, hlast.le.trans (Nat.zero_le _), fun hmore => absurd hlast hmore.ne', ?_,
    h.stays.snoc_completed (h.notCompleted hpos) haccepted hown⟩
  intro c hin
  rcases List.mem_append.1 hin with hin | hin
  · exact h.completed c hin
  · cases List.mem_singleton.1 hin
    exact hlt

/-- Stopping the timer does not bring an expiry under way. -/
theorem quiet_stop {t : ReTxTimer} (h : t.Quiet) : t.stop.1.Quiet := by
  unfold ReTxTimer.stop
  split
  · exact h
  · exact ⟨rfl, h.2⟩
  · exact h

/-- Stopping the timer disarms it; what is under way stays. -/
theorem phase_stop (h : WritePhase s) (invoked : Bool) :
    WritePhase { s with timer := s.timer.stop.1, bWriteCbInvoked := invoked } := by
  have harmed : s.timer.armed = none → s.timer.stop.1.armed = none := by
    intro ha
    unfold ReTxTimer.stop
    split
    · exact ha
    · rfl
    · exact ha
  have hway : s.timer.stop.1.notifications = s.timer.notifications ∧
      s.timer.stop.1.messages = s.timer.messages := by
    unfold ReTxTimer.stop
    split <;> exact ⟨rfl, rfl⟩
  rcases h with hr | ⟨he, hs, ht, hby⟩ | ⟨he, hs, ht, hby⟩ | ⟨he, hs, ht⟩ | ⟨he, hs, ht⟩ |
    ⟨he, hs, ht⟩ | ⟨he, hs, ha, hn, hm⟩ | ⟨he, hs, ha, hn, hm⟩
  · exact .rest ⟨hr.bEnable, hr.stage, quiet_stop hr.timer⟩
  · exact .enabled he hs (quiet_stop ht) hby
  · exact .taken he hs (quiet_stop ht) hby
  · exact .written he hs (quiet_stop ht)
  · exact .posted he hs (quiet_stop ht)
  · refine .rest ⟨he, hs, ?_⟩
    rw [ht]
    exact ⟨rfl, rfl, rfl⟩
  · exact .notified he hs (harmed ha) (hway.1.trans hn) (hway.2.trans hm)
  · exact .queued he hs (harmed ha) (hway.1.trans hn) (hway.2.trans hm)

/-- With nothing asked for and no expiry under way, stopping the timer leaves nothing. -/
theorem rest_stop (h : WritePhase s) (hrest : s.AtRest) (invoked : Bool) :
    Rest { s with timer := s.timer.stop.1, bWriteCbInvoked := invoked } := by
  obtain ⟨hw, hen, hnone, hempty⟩ := hrest
  rcases h with hr | ⟨he, _, _, _⟩ | ⟨_, hs, _, _⟩ | ⟨_, hs, _⟩ | ⟨_, hs, _⟩ | ⟨_, _, ht⟩ |
    ⟨_, _, _, hn, _⟩ | ⟨_, _, _, _, hm⟩
  · exact ⟨hr.bEnable, hr.stage, quiet_stop hr.timer⟩
  · exact absurd (hen.symm.trans he) nofun
  · exact absurd (hw.symm.trans hs) nofun
  · exact absurd (hw.symm.trans hs) nofun
  · exact absurd (hw.symm.trans hs) nofun
  · refine ⟨hen, hw, ?_⟩
    rw [ht]
    exact ⟨rfl, rfl, rfl⟩
  · exact absurd (hnone.symm.trans hn) nofun
  · exact absurd (hempty.symm.trans hm) nofun

/-- The reader thread has received a packet: an answer stops the timer. -/
theorem received (h : WriteAccounted os s) {header : UInt8}
    (hord : s.Orderly (.received header)) :
    WriteAccounted (os ++ [.silent]) (s.received header) := by
  have hsame : SameRequest s s := ⟨rfl, rfl, rfl, rfl, rfl, rfl⟩
  unfold WriterState.received
  by_cases hanswer : (s.eConfig && isRetransmitted header) = true
  swap
  · rw [if_neg hanswer]
    exact h.keep nofun nofun nofun hsame h.phase (fun hr => hr) fun hs => hs
  rw [if_pos hanswer]
  have hheader : isRetransmitted header = true := (Bool.and_eq_true_iff.1 hanswer).2
  split
  · refine h.keep nofun nofun nofun ⟨rfl, rfl, rfl, rfl, rfl, rfl⟩ (phase_stop h.phase false)
      (fun hr => ⟨hr.bEnable, hr.stage, quiet_stop hr.timer⟩) ?_
    rintro (hr | hdata | ⟨_, hinv⟩)
    · exact Or.inl ⟨hr.bEnable, hr.stage, quiet_stop hr.timer⟩
    · exact Or.inr (Or.inl hdata)
    · -- the flag is cleared, so the packet must not be transmitted again
      exact Or.inl (rest_stop h.phase (hord hheader hinv) false)
  · refine h.keep nofun nofun nofun ⟨rfl, rfl, rfl, rfl, rfl, rfl⟩
      (phase_stop h.phase s.bWriteCbInvoked)
      (fun hr => ⟨hr.bEnable, hr.stage, quiet_stop hr.timer⟩) ?_
    exact Or.imp_left fun hr => ⟨hr.bEnable, hr.stage, quiet_stop hr.timer⟩

/-- The kernel timer runs out. -/
theorem fire (h : WriteAccounted os s) {packet : ℕ} (ha : s.timer.armed = some packet) :
    WriteAccounted (os ++ [.silent]) { s with timer := s.timer.fire packet } := by
  have hnot : ¬ Rest s := fun hr => nomatch ha.symm.trans hr.timer.1
  have harmed : s.tWriteInfo.bEnable = false ∧ s.stage = .waiting ∧
      s.timer = ⟨.running, some s.current, [], []⟩ := by
    rcases h.phase with hr | ⟨_, _, ht, _⟩ | ⟨_, _, ht, _⟩ | ⟨_, _, ht⟩ | ⟨_, _, ht⟩ |
      ⟨he, hs, ht⟩ | ⟨_, _, ha', _, _⟩ | ⟨_, _, ha', _, _⟩
    · exact absurd hr hnot
    · exact absurd (ha.symm.trans ht.1) nofun
    · exact absurd (ha.symm.trans ht.1) nofun
    · exact absurd (ha.symm.trans ht.1) nofun
    · exact absurd (ha.symm.trans ht.1) nofun
    · exact ⟨he, hs, ht⟩
    all_goals exact absurd (ha.symm.trans ha') nofun
  obtain ⟨he, hs, ht⟩ := harmed
  obtain rfl : packet = s.current := by
    rw [ht] at ha
    exact (Option.some.inj ha).symm
  refine h.keep nofun nofun nofun ⟨rfl, rfl, rfl, rfl, rfl, rfl⟩ ?_ (fun hr => absurd hr hnot) ?_
  · refine .notified he hs rfl ?_ ?_ <;> rw [ht] <;> rfl
  · rintro (hr | ⟨hs', _⟩ | hinv)
    · exact absurd hr hnot
    · exact absurd (hs.symm.trans hs') nofun
    · exact Or.inr (Or.inr hinv)

/-- The notification thread posts the message of the expiry. -/
theorem expired (h : WriteAccounted os s) {packet : ℕ} (hin : packet ∈ s.timer.notifications) :
    WriteAccounted (os ++ [.silent]) { s with timer := s.timer.expired packet } := by
  have hquiet : ¬ s.timer.Quiet := fun ht => by
    rw [ht.2.1] at hin
    cases hin
  have hnot : ¬ Rest s := fun hr => hquiet hr.timer
  have hnotified : s.tWriteInfo.bEnable = false ∧ s.stage = .waiting ∧ s.timer.armed = none ∧
      s.timer.notifications = [s.current] ∧ s.timer.messages = [] := by
    rcases h.phase with hr | ⟨_, _, ht, _⟩ | ⟨_, _, ht, _⟩ | ⟨_, _, ht⟩ | ⟨_, _, ht⟩ |
      ⟨_, _, ht⟩ | ⟨he, hs, ha, hn, hm⟩ | ⟨_, _, _, hn, _⟩
    · exact absurd hr hnot
    · exact absurd ht hquiet
    · exact absurd ht hquiet
    · exact absurd ht hquiet
    · exact absurd ht hquiet
    · rw [ht] at hin
      cases hin
    · exact ⟨he, hs, ha, hn, hm⟩
    · rw [hn] at hin
      cases hin
  obtain ⟨he, hs, ha, hn, hm⟩ := hnotified
  obtain rfl : packet = s.current := by
    rw [hn] at hin
    exact List.mem_singleton.1 hin
  refine h.keep nofun nofun nofun ⟨rfl, rfl, rfl, rfl, rfl, rfl⟩ ?_ (fun hr => absurd hr hnot) ?_
  · refine .queued he hs ha ?_ ?_
    · simp [ReTxTimer.expired, hn]
    · simp [ReTxTimer.expired, hm]
  · rintro (hr | ⟨hs', _⟩ | hinv)
    · exact absurd hr hnot
    · exact absurd (hs.symm.trans hs') nofun
    · exact Or.inr (Or.inr hinv)

/-- `phTmlNfc_ReTxTimerCb`: the timer was started for the current packet. -/
theorem deliverExpiry (h : WriteAccounted os s) {armedFor : ℕ} {rest : List ℕ}
    (hmsg : s.timer.messages = armedFor :: rest) :
    WriteAccounted
      (os ++ [(({ s with timer := { s.timer with messages := rest } }).reTxTimerCb armedFor).2])
      (({ s with timer := { s.timer with messages := rest } }).reTxTimerCb armedFor).1 := by
  have hquiet : ¬ s.timer.Quiet := fun ht => nomatch hmsg.symm.trans ht.2.2
  have hnot : ¬ Rest s := fun hr => hquiet hr.timer
  have hqueued : s.tWriteInfo.bEnable = false ∧ s.stage = .waiting ∧ s.timer.armed = none ∧
      s.timer.notifications = [] ∧ s.timer.messages = [s.current] := by
    rcases h.phase with hr | ⟨_, _, ht, _⟩ | ⟨_, _, ht, _⟩ | ⟨_, _, ht⟩ | ⟨_, _, ht⟩ |
      ⟨_, _, ht⟩ | ⟨_, _, _, _, hm⟩ | ⟨he, hs, ha, hn, hm⟩
    · exact absurd hr hnot
    · exact absurd ht hquiet
    · exact absurd ht hquiet
    · exact absurd ht hquiet
    · exact absurd ht hquiet
    · rw [ht] at hmsg
      cases hmsg
    · exact absurd (hmsg.symm.trans hm) nofun
    · exact ⟨he, hs, ha, hn, hm⟩
  obtain ⟨he, hs, ha, hn, hm⟩ := hqueued
  obtain ⟨rfl, rfl⟩ := List.cons.inj (hmsg.symm.trans hm)
  have hempty : ({ s.timer with messages := [] } : ReTxTimer).Quiet := ⟨ha, hn, rfl⟩
  unfold WriterState.reTxTimerCb
  split
  · exact h.keep nofun nofun nofun ⟨rfl, rfl, rfl, rfl, rfl, rfl⟩ (.rest ⟨he, hs, hempty⟩)
      (fun hr => absurd hr hnot) fun _ => Or.inl ⟨he, hs, hempty⟩
  · refine h.keep nofun ?_ nofun ⟨rfl, rfl, rfl, rfl, rfl, rfl⟩ (.enabled rfl hs hempty ?_)
      (fun hr => absurd hr hnot) ?_
    · intro armedFor packet heq
      cases heq
      rfl
    · intro p hp
      exact (Option.some.inj hp).symm
    · rintro (hr | ⟨hs', _⟩ | hinv)
      · exact absurd hr hnot
      · exact absurd (hs.symm.trans hs') nofun
      · exact Or.inr (Or.inr hinv)

theorem step (h : WriteAccounted os s) {i : WriterInput} {o : WriterOutput} (hi : s.Orderly i)
    (hs : s.step i = some (u, o)) : WriteAccounted (os ++ [o]) u := by
  cases i with
  | write args =>
    have hwrite := h.write args hi
    rw [Option.some.inj hs] at hwrite
    exact hwrite
  | writeAbort =>
    cases hs
    exact h.writeAbort
  | wake =>
    rw [WriterState.step, Option.ite_none_right_eq_some] at hs
    obtain ⟨⟨hstage, -⟩, hs⟩ := hs
    cases hs
    exact h.wake hstage
  | i2cWrite ok download =>
    rw [WriterState.step] at hs
    split at hs
    · rename_i cause hstage
      have hi2c := h.i2cWrite hstage ok download
      rw [Option.some.inj hs] at hi2c
      exact hi2c
    · cases hs
  | post =>
    rw [WriterState.step] at hs
    split at hs
    · rename_i packet ok hstage
      cases hs
      exact h.post hstage
    · cases hs
  | arm started =>
    rw [WriterState.step] at hs
    split at hs
    · rename_i packet hstage
      cases hs
      exact h.arm hstage started
    · cases hs
  | deliver =>
    rw [WriterState.step, Option.ite_none_right_eq_some] at hs
    obtain ⟨hpos, hs⟩ := hs
    cases hs
    exact h.deliver hpos
  | received header =>
    cases hs
    exact h.received hi
  | fire =>
    rw [WriterState.step, Option.map_eq_some_iff] at hs
    obtain ⟨packet, harmed, hs⟩ := hs
    cases hs
    exact h.fire harmed
  | expired packet =>
    rw [WriterState.step, Option.ite_none_right_eq_some] at hs
    obtain ⟨hin, hs⟩ := hs
    cases hs
    exact h.expired hin
  | deliverExpiry =>
    rw [WriterState.step] at hs
    split at hs
    · cases hs
    · rename_i armedFor rest hmsg
      have hexpiry := h.deliverExpiry hmsg
      rw [Option.some.inj hs] at hexpiry
      exact hexpiry

end WriteAccounted

end AliceHal.Pn54x.Tml
