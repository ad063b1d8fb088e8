import AliceHal.Pn54x.Tml.Timer

/-!
# Stopped Timers

Whether a timer that was stopped or deleted stays silent. An expiry that is under way is neither
taken back by a stop nor by a delete: its message calls whatever the handle holds at delivery.

- `Timers.UnderWay`, `Timers.Quiet`: expiries that a stop cannot take back
- `Wired`: every armed kernel timer belongs to the handle of its id
- `Silent`: what holds of a timer from a stop or delete on
- `stopped_timer_silent`: runs that stop and delete timers only while they are quiet
-/

namespace AliceHal.Pn54x.Tml

variable {γ : Type*} {s u : Timers γ}

namespace Timers

/-- An expiry of the timer is reported and not delivered yet. -/
def UnderWay (s : Timers γ) (i : Fin maxTimer) : Prop :=
  idOf i ∈ s.notifications ∨ i ∈ s.queue.map Prod.fst

instance (s : Timers γ) (i : Fin maxTimer) : Decidable (s.UnderWay i) :=
  inferInstanceAs (Decidable (_ ∨ _))

/-- The kernel timer is armed. -/
def IsArmed (s : Timers γ) (i : Fin maxTimer) : Prop := idOf i ∈ s.armed.map ArmedTimer.timerId

instance (s : Timers γ) (i : Fin maxTimer) : Decidable (s.IsArmed i) :=
  inferInstanceAs (Decidable (_ ∈ _))

/-- A stop or a delete of this timer finds no expiry under way; and a timer that a stop leaves
alone, being marked as stopped, is not armed. -/
def Quiet (s : Timers γ) : TimerInput γ → Prop
  | .stop id => ∀ i, indexOf id = some i →
      ¬ s.UnderWay i ∧ ((s.apTimerInfo i).eState = .stopped → ¬ s.IsArmed i)
  | .delete id => ∀ i, indexOf id = some i → ¬ s.UnderWay i
  | _ => True

instance (s : Timers γ) (i : TimerInput γ) : Decidable (s.Quiet i) :=
  match i with
  | .stop id => inferInstanceAs (Decidable (∀ i, indexOf id = some i →
      ¬ s.UnderWay i ∧ ((s.apTimerInfo i).eState = .stopped → ¬ s.IsArmed i)))
  | .delete id => inferInstanceAs (Decidable (∀ i, indexOf id = some i → ¬ s.UnderWay i))
  | .create _ | .start _ _ | .fire _ | .expired _ | .deliver => isTrue trivial

end Timers

open Timers

/-! ## Ids and handles -/

theorem indexOf_idOf (i : Fin maxTimer) : indexOf (idOf i) = some i := by
  revert i
  decide

theorem eq_idOf {id : UInt32} {i : Fin maxTimer} (h : indexOf id = some i) : id = idOf i := by
  unfold indexOf at h
  split at h
  · rename_i hlt
    obtain rfl := Option.some.inj h
    rw [idOf, UInt32.ofNat_toNat, UInt32.sub_add_cancel, UInt32.sub_add_cancel]
  · cases h

theorem idOf_injective {i j : Fin maxTimer} (h : idOf i = idOf j) : i = j := by
  have hi := indexOf_idOf i
  rw [h, indexOf_idOf] at hi
  exact (Option.some.inj hi).symm

/-- Armed kernel timers and filled-in messages belong to the handle of their id. -/
structure Wired (s : Timers γ) : Prop where
  timerId : ∀ i, (s.apTimerInfo i).timerId = 0 ∨ (s.apTimerInfo i).timerId = idOf i
  deferred : ∀ i param, (s.apTimerInfo i).deferred = some param → param = idOf i
  armed : ∀ a ∈ s.armed, ∃ i, a.timerId = idOf i ∧ (s.apTimerInfo i).timerId ≠ 0 ∧
    (s.apTimerInfo i).hTimerHandle = a.handle

namespace Wired

theorem init : Wired (Timers.init : Timers γ) :=
  ⟨fun _ => Or.inl rfl, fun _ _ h => (nomatch h), fun _ h => absurd h List.not_mem_nil⟩

/-- The handle that an armed timer belongs to. -/
theorem armed_of_id (h : Wired s) {a : ArmedTimer} (ha : a ∈ s.armed) {i : Fin maxTimer}
    (hid : a.timerId = idOf i) :
    (s.apTimerInfo i).timerId ≠ 0 ∧ (s.apTimerInfo i).hTimerHandle = a.handle := by
  obtain ⟨j, hj, hne, hhandle⟩ := h.armed a ha
  obtain rfl : i = j := idOf_injective (hid.symm.trans hj)
  exact ⟨hne, hhandle⟩

/-- Fewer armed timers over the same handles. -/
theorem of_subset (h : Wired s) (hinfo : u.apTimerInfo = s.apTimerInfo)
    (harmed : ∀ a ∈ u.armed, a ∈ s.armed) : Wired u := by
  refine ⟨?_, ?_, fun a ha => ?_⟩
  · rw [hinfo]
    exact h.timerId
  · rw [hinfo]
    exact h.deferred
  · rw [hinfo]
    exact h.armed a (harmed a ha)

/-- A handle is replaced by one that still fits the armed timers of its id. -/
theorem setHandle (h : Wired s) {i : Fin maxTimer} {t : TimerHandle γ}
    (hid : t.timerId = 0 ∨ t.timerId = idOf i) (hdeferred : ∀ p, t.deferred = some p → p = idOf i)
    (harmed : ∀ a ∈ s.armed, a.timerId = idOf i → t.timerId ≠ 0 ∧ t.hTimerHandle = a.handle) :
    Wired (s.setHandle i t) := by
  refine ⟨fun j => ?_, fun j param hj => ?_, fun a ha => ?_⟩
  · by_cases hji : j = i
    · subst hji
      simpa [Timers.setHandle] using hid
    · simpa [Timers.setHandle, Function.update_of_ne hji] using h.timerId j
  · by_cases hji : j = i
    · subst hji
      exact hdeferred param (by simpa [Timers.setHandle] using hj)
    · exact h.deferred j param (by simpa [Timers.setHandle, Function.update_of_ne hji] using hj)
  · obtain ⟨j, hj, hne, hhandle⟩ := h.armed a ha
    refine ⟨j, hj, ?_⟩
    by_cases hji : j = i
    · subst hji
      simpa [Timers.setHandle] using harmed a ha hj
    · simpa [Timers.setHandle, Function.update_of_ne hji] using And.intro hne hhandle

/-- Arming the timer of a handle. -/
theorem arm (h : Wired s) {i : Fin maxTimer} (hne : (s.apTimerInfo i).timerId ≠ 0) :
    Wired (s.arm (s.apTimerInfo i).hTimerHandle (s.apTimerInfo i).timerId) := by
  refine ⟨h.timerId, h.deferred, fun a ha => ?_⟩
  rcases List.mem_append.1 ha with ha | ha
  · exact h.armed a (List.mem_of_mem_filter ha)
  · obtain rfl := List.mem_singleton.1 ha
    exact ⟨i, (h.timerId i).resolve_left hne, hne, rfl⟩

theorem create (h : Wired s) (created : Bool) : Wired (s.create created).1 := by
  unfold Timers.create
  split
  · exact h
  · rename_i i hfree
    have hzero : (s.apTimerInfo i).timerId = 0 := by simpa using List.find?_some hfree
    split
    · refine (h.setHandle (i := i) (t := { s.apTimerInfo i with
          timerId := idOf i, hTimerHandle := s.nextHandle, eState := .idle })
        (Or.inr rfl) (h.deferred i) fun a ha hid => ?_).of_subset rfl fun a ha => ha
      exact absurd hzero (h.armed_of_id ha hid).1
    · exact h

theorem start (h : Wired s) (id : UInt32) (cb : Option γ) : Wired (s.start id cb).1 := by
  unfold Timers.start
  split
  · rename_i i cb _
    simp only
    split
    · rename_i hne
      have hset : Wired (s.setHandle i { s.apTimerInfo i with
          applicationCallback := some cb, eState := .running, started := s.starts }) :=
        h.setHandle (h.timerId i) (h.deferred i) fun a ha hid => h.armed_of_id ha hid
      split
      · have harm := hset.arm (i := i) (by simpa [Timers.setHandle] using hne)
        exact harm.of_subset rfl (by simp [Timers.arm, Timers.setHandle])
      · exact hset.of_subset rfl fun a ha => ha
    · exact h
  · exact h

theorem stop (h : Wired s) (id : UInt32) : Wired (s.stop id).1 := by
  unfold Timers.stop
  split
  · rename_i i _
    simp only
    split_ifs with hvalid hrun hlive
    · have hdisarm : Wired (s.disarm (s.apTimerInfo i).hTimerHandle) :=
        h.of_subset rfl fun a ha => List.mem_of_mem_filter ha
      exact hdisarm.setHandle (h.timerId i) (h.deferred i)
        fun a ha hid => h.armed_of_id (List.mem_of_mem_filter ha) hid
    · exact h
    · exact h
    · exact h
  · exact h

/-- After `timer_delete` no armed timer belongs to the handle any more. -/
theorem not_armed_after_disarm (h : Wired s) (i : Fin maxTimer) :
    ∀ a ∈ (s.disarm (s.apTimerInfo i).hTimerHandle).armed, a.timerId ≠ idOf i := by
  intro a ha hid
  obtain ⟨ha, hne⟩ := List.mem_filter.1 ha
  rw [(h.armed_of_id ha hid).2] at hne
  simp at hne

theorem delete (h : Wired s) (id : UInt32) : Wired (s.delete id).1 := by
  unfold Timers.delete
  split
  · rename_i i _
    simp only
    split
    · have hdisarm : Wired (s.disarm (s.apTimerInfo i).hTimerHandle) :=
        h.of_subset rfl fun a ha => List.mem_of_mem_filter ha
      refine (hdisarm.setHandle (i := i) (t := .zero) (Or.inl rfl) (fun p hp => (nomatch hp))
        fun a ha hid => ?_).of_subset rfl fun a ha => ha
      exact absurd hid (h.not_armed_after_disarm i a ha)
    · exact h
  · exact h

theorem expired (h : Wired s) {id : UInt32} {i : Fin maxTimer} (hi : indexOf id = some i) :
    Wired (s.expired id i) := by
  have hset : Wired (s.setHandle i { s.apTimerInfo i with
      eState := .stopped, deferred := some id }) :=
    h.setHandle (h.timerId i) (fun p hp => (Option.some.inj hp).symm.trans (eq_idOf hi))
      fun a ha hid => h.armed_of_id ha hid
  exact hset.of_subset rfl fun a ha => ha

end Wired

/-! ## Steps -/

/-- A delivered message calls at most the callback of its own handle. -/
theorem deliver_cases (h : Wired s) {o : TimerOutput γ} (hs : s.step .deliver = some (u, o)) :
    ∃ i k rest, s.queue = (i, k) :: rest ∧ u = { s with queue := rest } ∧
      (o = .nullCall k ∨ o = .ignored k ∨
        ∃ cb, o = .invoked k (idOf i) cb (s.apTimerInfo i).started) := by
  rw [Timers.step, Timers.deliver] at hs
  split at hs
  · cases hs
  · rename_i i k rest hqueue
    refine ⟨i, k, rest, hqueue, ?_⟩
    split at hs
    · cases hs
      exact ⟨rfl, Or.inl rfl⟩
    · rename_i param hdeferred
      obtain rfl := h.deferred i param hdeferred
      split at hs
      · cases hs
        exact ⟨rfl, Or.inr (Or.inl rfl)⟩
      · rename_i id cb n hcall
        cases hs
        rw [deferredCall, indexOf_idOf, Option.bind_some] at hcall
        obtain ⟨cb', -, heq⟩ := Option.map_eq_some_iff.1 hcall
        obtain ⟨rfl, rfl, rfl⟩ : idOf i = id ∧ cb' = cb ∧ (s.apTimerInfo i).started = n := by
          simpa using heq
        exact ⟨rfl, Or.inr (Or.inr ⟨cb', rfl⟩)⟩

/-- A notification thread that runs. -/
theorem expired_cases {id : UInt32} {o : TimerOutput γ}
    (hs : s.step (.expired id) = some (u, o)) :
    ∃ i, indexOf id = some i ∧ id ∈ s.notifications ∧ u = s.expired id i ∧
      o = .posted id s.posted := by
  rw [Timers.step, Option.ite_none_right_eq_some] at hs
  obtain ⟨hmem, hs⟩ := hs
  obtain ⟨i, hi, heq⟩ := Option.map_eq_some_iff.1 hs
  cases heq
  exact ⟨i, hi, hmem, rfl, rfl⟩

/-- Every step keeps the handles wired. -/
theorem Wired.step (h : Wired s) {i : TimerInput γ} {o : TimerOutput γ}
    (hs : s.step i = some (u, o)) : Wired u := by
  cases i with
  | create created =>
    cases hs
    exact h.create created
  | start id cb =>
    cases hs
    exact h.start id cb
  | stop id =>
    cases hs
    exact h.stop id
  | delete id =>
    cases hs
    exact h.delete id
  | fire a =>
    rw [Timers.step, Option.ite_none_right_eq_some] at hs
    obtain ⟨-, hs⟩ := hs
    cases hs
    exact h.of_subset rfl fun b hb => List.mem_of_mem_erase hb
  | expired id =>
    obtain ⟨i, hi, -, rfl, -⟩ := expired_cases hs
    exact h.expired hi
  | deliver =>
    obtain ⟨i, k, rest, -, rfl, -⟩ := deliver_cases h hs
    exact h.of_subset rfl fun a ha => ha

/-! ## From a stop on -/

/-- The timer is armed, or an expiry of it is under way. -/
def Timers.Active (s : Timers γ) (i : Fin maxTimer) : Prop := s.IsArmed i ∨ s.UnderWay i

/-- While the timer is active, its callback was registered by one of the starts from `n` on, and
its messages are among those from `k` on. -/
structure Silent (i : Fin maxTimer) (n k : ℕ) (s : Timers γ) : Prop where
  starts : n ≤ s.starts
  posted : k ≤ s.posted
  active : s.Active i → n ≤ (s.apTimerInfo i).started
  queued : ∀ m, (i, m) ∈ s.queue → k ≤ m

namespace Silent

variable {i : Fin maxTimer} {n k : ℕ}

/-- A step that does not make the timer active keeps it silent. -/
theorem of_step (h : Silent i n k s) (hstarts : s.starts ≤ u.starts) (hposted : s.posted ≤ u.posted)
    (hactive : u.Active i → s.Active i)
    (hstarted : (u.apTimerInfo i).started = (s.apTimerInfo i).started)
    (hqueue : ∀ m, (i, m) ∈ u.queue → (i, m) ∈ s.queue ∨ s.posted ≤ m) : Silent i n k u where
  starts := h.starts.trans hstarts
  posted := h.posted.trans hposted
  active ha := by
    rw [hstarted]
    exact h.active (hactive ha)
  queued m hm := (hqueue m hm).elim (h.queued m) h.posted.trans

theorem create (h : Silent i n k s) (created : Bool) : Silent i n k (s.create created).1 := by
  unfold Timers.create
  split
  · exact h
  · rename_i j _
    split
    · refine h.of_step le_rfl le_rfl id ?_ fun m hm => Or.inl hm
      by_cases hij : i = j
      · subst hij
        simp [setHandle]
      · simp [setHandle, Function.update_of_ne hij]
    · exact h

/-- A start registers a new callback; one on another handle does not touch the timer. -/
theorem start (h : Silent i n k s) (hw : Wired s) (id : UInt32) (cb : Option γ) :
    Silent i n k (s.start id cb).1 := by
  unfold Timers.start
  split
  · rename_i j cb _
    simp only
    split
    · rename_i hne
      by_cases hij : i = j
      · -- the number of the new callback is that of this start
        subst hij
        split
        · exact ⟨h.starts.trans (Nat.le_succ _), h.posted,
            fun _ => by simpa [Timers.arm, setHandle] using h.starts, h.queued⟩
        · exact ⟨h.starts.trans (Nat.le_succ _), h.posted,
            fun _ => by simpa [setHandle] using h.starts, h.queued⟩
      · split
        · refine h.of_step (Nat.le_succ _) le_rfl ?_
            (by simp [Timers.arm, setHandle, Function.update_of_ne hij]) fun m hm => Or.inl hm
          rintro (harmed | hway)
          · refine Or.inl ?_
            obtain ⟨a, ha, hid⟩ := List.mem_map.1 harmed
            rcases List.mem_append.1 ha with ha | ha
            · exact List.mem_map.2 ⟨a, List.mem_of_mem_filter ha, hid⟩
            · obtain rfl := List.mem_singleton.1 ha
              have hj := (hw.timerId j).resolve_left hne
              exact absurd (idOf_injective (hid.symm.trans hj)) hij
          · exact Or.inr hway
        · exact h.of_step (Nat.le_succ _) le_rfl (fun ha => ha)
            (by simp [setHandle, Function.update_of_ne hij]) fun m hm => Or.inl hm
    · exact h
  · exact h

/-- Fewer armed timers. -/
theorem isArmed_of_disarm {m : ℕ} (h : (s.disarm m).IsArmed i) : s.IsArmed i := by
  obtain ⟨a, ha, hid⟩ := List.mem_map.1 h
  exact List.mem_map.2 ⟨a, List.mem_of_mem_filter ha, hid⟩

theorem stop (h : Silent i n k s) (id : UInt32) : Silent i n k (s.stop id).1 := by
  unfold Timers.stop
  split
  · rename_i j _
    simp only
    split_ifs with hvalid hrun hlive
    · refine h.of_step le_rfl le_rfl (Or.imp_left isArmed_of_disarm) ?_ fun m hm => Or.inl hm
      by_cases hij : i = j
      · subst hij
        simp [setHandle]
      · simp [setHandle, Function.update_of_ne hij, disarm]
    · exact h
    · exact h
    · exact h
  · exact h

theorem fire (h : Silent i n k s) {a : ArmedTimer} (ha : a ∈ s.armed) :
    Silent i n k (s.fire a) := by
  refine h.of_step le_rfl le_rfl ?_ rfl fun m hm => Or.inl hm
  rintro (harmed | hnotified | hqueued)
  · obtain ⟨b, hb, hid⟩ := List.mem_map.1 harmed
    exact Or.inl (List.mem_map.2 ⟨b, List.mem_of_mem_erase hb, hid⟩)
  · rcases List.mem_append.1 hnotified with hn | hn
    · exact Or.inr (Or.inl hn)
    · exact Or.inl (List.mem_map.2 ⟨a, ha, (List.mem_singleton.1 hn).symm⟩)
  · exact Or.inr (Or.inr hqueued)

theorem expired (h : Silent i n k s) {id : UInt32} {j : Fin maxTimer} (hj : indexOf id = some j)
    (hid : id ∈ s.notifications) : Silent i n k (s.expired id j) := by
  refine h.of_step le_rfl (Nat.le_succ _) ?_ ?_ fun m hm => ?_
  · rintro (harmed | hnotified | hqueued)
    · exact Or.inl harmed
    · exact Or.inr (Or.inl (List.mem_of_mem_erase hnotified))
    · obtain ⟨⟨j', m⟩, hm, rfl⟩ := List.mem_map.1 hqueued
      rcases List.mem_append.1 hm with hm | hm
      · exact Or.inr (Or.inr (List.mem_map.2 ⟨(j', m), hm, rfl⟩))
      · -- the new message is that of the notification
        obtain ⟨rfl, -⟩ := Prod.mk.inj (List.mem_singleton.1 hm)
        exact Or.inr (Or.inl (eq_idOf hj ▸ hid))
  · by_cases hij : i = j
    · subst hij
      simp [Timers.expired, setHandle]
    · simp [Timers.expired, setHandle, Function.update_of_ne hij]
  · rcases List.mem_append.1 hm with hm | hm
    · exact Or.inl hm
    · exact Or.inr (Prod.mk.inj (List.mem_singleton.1 hm)).2.ge

/-- A deletion of the timer itself leaves nothing active; one of another does not matter. -/
theorem delete (h : Silent i n k s) (hw : Wired s) {id : UInt32} (hquiet : s.Quiet (.delete id)) :
    Silent i n k (s.delete id).1 := by
  unfold Timers.delete
  split
  · rename_i j hj
    simp only
    split
    · by_cases hij : i = j
      · subst hij
        refine ⟨h.starts, h.posted, ?_, h.queued⟩
        rintro (harmed | hway)
        · obtain ⟨a, ha, hid⟩ := List.mem_map.1 harmed
          exact absurd hid (hw.not_armed_after_disarm i a ha)
        · exact absurd hway (hquiet i hj)
      · exact h.of_step le_rfl le_rfl (Or.imp_left isArmed_of_disarm)
          (by simp [setHandle, Function.update_of_ne hij, disarm]) fun m hm => Or.inl hm
    · exact h
  · exact h

/-- Every step of a run that stops and deletes quiet timers keeps the timer silent, and an
invocation of it is by a late start and a late message. -/
theorem step (h : Silent i n k s) (hw : Wired s) {a : TimerInput γ} {o : TimerOutput γ}
    (hquiet : s.Quiet a) (hs : s.step a = some (u, o)) :
    Silent i n k u ∧ ∀ m cb l, o = .invoked m (idOf i) cb l → n ≤ l ∧ k ≤ m := by
  cases a with
  | create created =>
    cases hs
    exact ⟨h.create created, nofun⟩
  | start id cb =>
    cases hs
    refine ⟨h.start hw id cb, fun m cb l ho => ?_⟩
    split at ho <;> cases ho
  | stop id =>
    cases hs
    exact ⟨h.stop id, nofun⟩
  | delete id =>
    cases hs
    exact ⟨h.delete hw hquiet, nofun⟩
  | fire a =>
    rw [Timers.step, Option.ite_none_right_eq_some] at hs
    obtain ⟨ha, hs⟩ := hs
    cases hs
    exact ⟨h.fire ha, nofun⟩
  | expired id =>
    obtain ⟨j, hj, hid, rfl, rfl⟩ := expired_cases hs
    exact ⟨h.expired hj hid, nofun⟩
  | deliver =>
    obtain ⟨j, m, rest, hqueue, rfl, hout⟩ := deliver_cases hw hs
    have hsub : ∀ q ∈ rest, q ∈ s.queue := by
      rw [hqueue]
      exact fun q hq => List.mem_cons_of_mem _ hq
    refine ⟨h.of_step le_rfl le_rfl ?_ rfl fun m hm => Or.inl (hsub _ hm), ?_⟩
    · rintro (harmed | hnotified | hqueued)
      · exact Or.inl harmed
      · exact Or.inr (Or.inl hnotified)
      · obtain ⟨q, hq, hi⟩ := List.mem_map.1 hqueued
        exact Or.inr (Or.inr (List.mem_map.2 ⟨q, hsub q hq, hi⟩))
    · intro m' cb l ho
      rcases hout with rfl | rfl | ⟨cb', rfl⟩
      · cases ho
      · cases ho
      · -- the message is for this timer, which is active while it is in the queue
        obtain ⟨rfl, hid, -, rfl⟩ := TimerOutput.invoked.inj ho
        obtain rfl := idOf_injective hid
        have hmem : (j, m) ∈ s.queue := by
          rw [hqueue]
          exact List.mem_cons_self
        exact ⟨h.active (Or.inr (Or.inr (List.mem_map.2 ⟨_, hmem, rfl⟩))), h.queued m hmem⟩

/-- A successful stop or delete of a quiet timer leaves nothing active. -/
theorem of_not_active (hnot : ¬ s.Active i) : Silent i s.starts s.posted s where
  starts := le_rfl
  posted := le_rfl
  active ha := absurd ha hnot
  queued _ hm := absurd (Or.inr (Or.inr (List.mem_map.2 ⟨_, hm, rfl⟩))) hnot

end Silent

theorem stopError_ne_success : phNfcStVal cidNfcOsal timerStopError ≠ NFCSTATUS.success := by
  decide

theorem invalidParameter_ne_success :
    phNfcStVal cidNfcOsal NFCSTATUS.invalidParameter ≠ NFCSTATUS.success := by
  decide

/-- A successful stop or delete of a quiet timer leaves nothing active. -/
theorem not_active_of_silenced (hw : Wired s) {a : TimerInput γ} {id : UInt32}
    (ha : a = .stop id ∨ a = .delete id) (hquiet : s.Quiet a)
    (hs : s.step a = some (u, .status NFCSTATUS.success)) :
    ∃ i, id = idOf i ∧ ¬ u.Active i := by
  rcases ha with rfl | rfl
  · rw [Timers.step, Option.some.injEq, Prod.mk.injEq, TimerOutput.status.injEq] at hs
    unfold Timers.stop at hs
    split at hs
    · rename_i i hi
      obtain ⟨hway, hstopped⟩ := hquiet i hi
      refine ⟨i, eq_idOf hi, ?_⟩
      simp only at hs
      split_ifs at hs with hvalid hrun hlive
      · obtain ⟨rfl, -⟩ := hs
        rintro (harmed | hunder)
        · obtain ⟨a, ha, hid⟩ := List.mem_map.1 harmed
          exact absurd hid (hw.not_armed_after_disarm i a ha)
        · exact hway hunder
      · exact absurd hs.2 stopError_ne_success
      · -- a timer that is marked as stopped is not armed
        obtain ⟨rfl, -⟩ := hs
        have hmarked : (s.apTimerInfo i).eState = .stopped := by
          cases hstate : (s.apTimerInfo i).eState with
          | idle => exact absurd hstate hvalid.2
          | running => exact absurd hstate hrun
          | stopped => rfl
        exact not_or.2 ⟨hstopped hmarked, hway⟩
      · exact absurd hs.2 invalidParameter_ne_success
    · exact absurd hs.2 invalidParameter_ne_success
  · rw [Timers.step, Option.some.injEq, Prod.mk.injEq, TimerOutput.status.injEq] at hs
    unfold Timers.delete at hs
    split at hs
    · rename_i i hi
      refine ⟨i, eq_idOf hi, ?_⟩
      simp only at hs
      split at hs
      · obtain ⟨rfl, -⟩ := hs
        rintro (harmed | hunder)
        · obtain ⟨a, ha, hid⟩ := List.mem_map.1 harmed
          exact absurd hid (hw.not_armed_after_disarm i a ha)
        · exact hquiet i hi hunder
      · exact absurd hs.2 invalidParameter_ne_success
    · exact absurd hs.2 invalidParameter_ne_success

/-! ## Numbers -/

theorem starts_le_start (s : Timers γ) (id : UInt32) (cb : Option γ) :
    s.starts ≤ (s.start id cb).1.starts ∧ (s.start id cb).1.posted = s.posted := by
  unfold Timers.start
  split
  · simp only
    split_ifs
    · exact ⟨Nat.le_succ _, rfl⟩
    · exact ⟨Nat.le_succ _, rfl⟩
    · exact ⟨le_rfl, rfl⟩
  · exact ⟨le_rfl, rfl⟩

/-- Numbers grow, and each is given out once. -/
theorem numbers_step {a : TimerInput γ} {o : TimerOutput γ} (hw : Wired s)
    (hs : s.step a = some (u, o)) :
    s.starts ≤ u.starts ∧ s.posted ≤ u.posted ∧ (∀ n st, o = .started n st → n < u.starts) ∧
      ∀ id k, o = .posted id k → k < u.posted := by
  cases a with
  | create created =>
    cases hs
    refine ⟨?_, ?_, nofun, nofun⟩ <;>
    · unfold Timers.create
      split
      · exact le_rfl
      · split <;> exact le_rfl
  | start id cb =>
    cases hs
    have hle := starts_le_start s id cb
    refine ⟨hle.1, hle.2.ge, fun n st ho => ?_, fun id k ho => ?_⟩
    · split at ho
      · rename_i hlt
        cases ho
        exact hlt
      · cases ho
    · split at ho <;> cases ho
  | stop id =>
    cases hs
    refine ⟨?_, ?_, nofun, nofun⟩ <;>
    · unfold Timers.stop
      split
      · simp only
        split_ifs <;> exact le_rfl
      · exact le_rfl
  | delete id =>
    cases hs
    refine ⟨?_, ?_, nofun, nofun⟩ <;>
    · unfold Timers.delete
      split
      · simp only
        split_ifs <;> exact le_rfl
      · exact le_rfl
  | fire a =>
    rw [Timers.step, Option.ite_none_right_eq_some] at hs
    obtain ⟨-, hs⟩ := hs
    cases hs
    exact ⟨le_rfl, le_rfl, nofun, nofun⟩
  | expired id =>
    obtain ⟨j, -, -, rfl, rfl⟩ := expired_cases hs
    refine ⟨le_rfl, Nat.le_succ _, nofun, fun id k ho => ?_⟩
    cases ho
    exact Nat.lt_succ_self _
  | deliver =>
    obtain ⟨j, m, rest, -, rfl, hout⟩ := deliver_cases hw hs
    refine ⟨le_rfl, le_rfl, fun n st ho => ?_, fun id k ho => ?_⟩ <;>
    · rcases hout with rfl | rfl | ⟨cb', rfl⟩ <;> cases ho

/-- Runs that stop and delete timers only while they are quiet. -/
abbrev QuietRun (es : List (TimerInput γ × TimerOutput γ)) (s : Timers γ) : Prop :=
  Lib.Run (Lib.restrict Timers.Quiet Timers.step) Timers.init es s

theorem QuietRun.wired {es : List (TimerInput γ × TimerOutput γ)} (h : QuietRun es s) : Wired s :=
  (Lib.Run.outputs (I := Wired) (Q := fun _ => True)
    (fun hw hs => ⟨hw.step (Lib.restrict_eq_some.1 hs).2, trivial⟩) h Wired.init).1

/-- The numbers in a history are below the next ones. -/
theorem QuietRun.numbers {es : List (TimerInput γ × TimerOutput γ)} (h : QuietRun es s) :
    ∀ e ∈ es, (∀ n st, e.2 = .started n st → n < s.starts) ∧
      ∀ id k, e.2 = .posted id k → k < s.posted := by
  induction h with
  | nil => exact fun e he => absurd he List.not_mem_nil
  | @snoc es t u i o hrun hs ih =>
    obtain ⟨hstarts, hposted, hnew, hnew'⟩ :=
      numbers_step (QuietRun.wired hrun) (Lib.restrict_eq_some.1 hs).2
    intro e he
    rcases List.mem_append.1 he with he | he
    · exact ⟨fun n st ho => ((ih e he).1 n st ho).trans_le hstarts,
        fun id k ho => ((ih e he).2 id k ho).trans_le hposted⟩
    · rw [List.mem_singleton.1 he]
      exact ⟨hnew, hnew'⟩

/-- In every run in which timers are stopped and deleted only while they are quiet: after a
successful stop or delete of a timer, a callback that runs for it was registered by a later start,
and by a message that was queued later. -/
theorem stopped_timer_silent {es : List (TimerInput γ × TimerOutput γ)} (hrun : QuietRun es s)
    {before after : List (TimerInput γ × TimerOutput γ)} {a : TimerInput γ} {id : UInt32}
    (ha : a = .stop id ∨ a = .delete id)
    (hes : es = before ++ (a, .status NFCSTATUS.success) :: after) :
    ∀ e ∈ after, ∀ k cb n, e.2 = .invoked k id cb n →
      (∀ e' ∈ before, ∀ st, e'.2 ≠ .started n st) ∧ ∀ e' ∈ before, e'.2 ≠ .posted id k := by
  subst hes
  obtain ⟨t, hbefore, hrest⟩ := hrun.split
  obtain ⟨t', hstep, hafter⟩ := hrest.first
  obtain ⟨hquiet, hs⟩ := Lib.restrict_eq_some.1 hstep
  have hw := QuietRun.wired hbefore
  obtain ⟨i, rfl, hnot⟩ := not_active_of_silenced hw ha hquiet hs
  -- from here on the timer is silent for everything older than this step
  have hout := (Lib.Run.outputs (I := fun s => Wired s ∧ Silent i t'.starts t'.posted s)
    (Q := fun o => ∀ k cb n, o = .invoked k (idOf i) cb n → t'.starts ≤ n ∧ t'.posted ≤ k)
    (fun hI hs => by
      obtain ⟨hq, hs⟩ := Lib.restrict_eq_some.1 hs
      obtain ⟨hsilent, ho⟩ := hI.2.step hI.1 hq hs
      exact ⟨⟨hI.1.step hs, hsilent⟩, ho⟩)
    hafter ⟨hw.step hs, Silent.of_not_active hnot⟩).2
  obtain ⟨hstarts, hposted, -, -⟩ := numbers_step hw hs
  intro e he k cb n ho
  obtain ⟨hn, hk⟩ := hout e he k cb n ho
  have hold := QuietRun.numbers hbefore
  refine ⟨fun e' he' st heq => ?_, fun e' he' heq => ?_⟩
  · have := (hold e' he').1 n st heq
    omega
  · have := (hold e' he').2 _ k heq
    omega

/-- A timer that expires before it is stopped: the message is in the queue. -/
def stopAfterExpiry : List (TimerInput ℕ) :=
  [.create true, .start 101 (some 7), .fire ⟨0, 101⟩, .expired 101, .stop 101, .deliver]

/-- A timer that expires before it is deleted; its slot is used again, and the old message is
delivered when the new timer has expired, too. -/
def deleteAfterExpiry : List (TimerInput ℕ) :=
  [.create true, .start 101 (some 7), .fire ⟨0, 101⟩, .expired 101, .delete 101, .create true,
    .start 101 (some 8), .fire ⟨1, 101⟩, .expired 101, .deliver]

/-- The callback of the stopped timer runs, and the message of the deleted timer calls the callback
of the new one. -/
theorem stopAfterExpiry_not_silent :
    (Lib.exec Timers.step Timers.init stopAfterExpiry).map (fun r => r.1.map Prod.snd) =
        some [.created 101, .started 0 NFCSTATUS.success, .fired, .posted 101 0,
          .status NFCSTATUS.success, .invoked 0 101 7 0] ∧
      (Lib.exec Timers.step Timers.init deleteAfterExpiry).map (fun r => r.1.map Prod.snd) =
        some [.created 101, .started 0 NFCSTATUS.success, .fired, .posted 101 0,
          .status NFCSTATUS.success, .created 101, .started 1 NFCSTATUS.success, .fired,
          .posted 101 1, .invoked 0 101 8 1] := by
  decide +kernel

/-- A timer that is stopped while it runs, and started again. -/
def stopBeforeExpiry : List (TimerInput ℕ) :=
  [.create true, .start 101 (some 7), .stop 101, .start 101 (some 8), .fire ⟨0, 101⟩, .expired 101,
    .deliver]

theorem stopped_timer_silent_stopBeforeExpiry :
    ∃ before after s, QuietRun (before ++ (.stop 101, .status NFCSTATUS.success) :: after) s ∧
      ∀ e ∈ after, ∀ k (cb : ℕ) n, e.2 = .invoked k 101 cb n →
        (∀ e' ∈ before, ∀ st, e'.2 ≠ .started n st) ∧ ∀ e' ∈ before, e'.2 ≠ .posted 101 k := by
  have hrun : QuietRun _ _ := Lib.run_of_exec (l := stopBeforeExpiry) rfl
  exact ⟨[(.create true, .created 101), (.start 101 (some 7), .started 0 NFCSTATUS.success)], _, _,
    hrun, stopped_timer_silent hrun (Or.inl rfl) rfl⟩

end AliceHal.Pn54x.Tml
