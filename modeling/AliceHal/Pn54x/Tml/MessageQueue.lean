import AliceHal.Lib.Machine

/-!
# The Callback Message Queue

`phDal4Nfc_messageQueueLib.c`: a linked list under a mutex and a semaphore that counts its
messages. A send links its message and then posts the semaphore; a receive waits for the semaphore
and then unlinks. Each critical section and each semaphore operation is one step, and the calls of
any number of threads are interleaved.

- `QueueState`, `QueueState.step`: the queue with the calls that are in flight
- `CountsInFlight`: list, semaphore and calls in flight add up
- `queue_fifo`: the queue is a FIFO
-/

namespace AliceHal.Pn54x.Tml

/-- Where a call is between its two steps. -/
inductive CallStage where
  /-- `phDal4Nfc_msgsnd` has linked its message and not posted the semaphore yet -/
  | linked
  /-- `phDal4Nfc_msgrcv` has waited for the semaphore and not unlinked yet -/
  | waited
  deriving DecidableEq, Repr

/-- The queue `phDal4Nfc_message_queue`, and the threads whose call is in flight. -/
structure QueueState (τ α : Type*) where
  /-- the messages from `pItems` on -/
  pItems : List α
  nProcessSemaphore : ℕ
  inFlight : List (τ × CallStage)

/-- One step of a thread. -/
inductive QueueInput (τ α : Type*) where
  /-- critical section of `phDal4Nfc_msgsnd` -/
  | sendLink (t : τ) (msg : α)
  /-- `sem_post` of `phDal4Nfc_msgsnd` -/
  | sendPost (t : τ)
  /-- `sem_wait` of `phDal4Nfc_msgrcv` -/
  | receiveWait (t : τ)
  /-- critical section of `phDal4Nfc_msgrcv` -/
  | receiveUnlink (t : τ)

/-- What a step shows. -/
inductive QueueOutput (α : Type*) where
  | sent (msg : α)
  /-- a completed receive, with the message copied to the caller if there was one -/
  | received (msg : Option α)
  | silent

namespace QueueState

variable {τ α : Type*} [DecidableEq τ]

/-- After `phDal4Nfc_msgget`. -/
def init : QueueState τ α := ⟨[], 0, []⟩

/-- The thread is in none of the two calls. -/
def free (s : QueueState τ α) (t : τ) : Bool := s.inFlight.all fun c => c.1 != t

/-- The node at the end of the list gets the new one as its `pNext`. -/
def append (msg : α) : List α → List α
  | [] => [msg]
  | item :: items => item :: append msg items

/-- One step; `none` where the thread is not at this step, or has to wait. -/
def step (s : QueueState τ α) : QueueInput τ α → Option (QueueState τ α × QueueOutput α)
  | .sendLink t msg =>
    if s.free t then
      some ({ s with pItems := append msg s.pItems, inFlight := (t, .linked) :: s.inFlight },
        .sent msg)
    else none
  | .sendPost t =>
    if (t, .linked) ∈ s.inFlight then
      some ({ s with nProcessSemaphore := s.nProcessSemaphore + 1
                     inFlight := s.inFlight.erase (t, .linked) }, .silent)
    else none
  | .receiveWait t =>
    if s.free t ∧ 0 < s.nProcessSemaphore then
      some ({ s with nProcessSemaphore := s.nProcessSemaphore - 1
                     inFlight := (t, .waited) :: s.inFlight }, .silent)
    else none
  | .receiveUnlink t =>
    if (t, .waited) ∈ s.inFlight then
      -- with an empty list the call returns, too, and leaves the message of the caller as it is
      some ({ s with pItems := s.pItems.tail, inFlight := s.inFlight.erase (t, .waited) },
        .received s.pItems.head?)
    else none

end QueueState

variable {τ α : Type*} [DecidableEq τ] {s u : QueueState τ α}

/-! ## What was sent and received -/

/-- The message sent in a step. -/
def QueueOutput.sent? : QueueOutput α → Option α
  | .sent msg => some msg
  | _ => none

/-- The message received in a step. -/
def QueueOutput.received? : QueueOutput α → Option α
  | .received msg => msg
  | _ => none

/-- The messages sent, in the order of the critical sections. -/
def sentMessages (es : List (QueueInput τ α × QueueOutput α)) : List α :=
  es.filterMap fun e => e.2.sent?

/-- The messages received, in the order of the critical sections. -/
def receivedMessages (es : List (QueueInput τ α × QueueOutput α)) : List α :=
  es.filterMap fun e => e.2.received?

/-! ## The invariant -/

/-- Every message in the list is counted by the semaphore or by one call in flight. -/
def CountsInFlight (s : QueueState τ α) : Prop :=
  s.pItems.length = s.nProcessSemaphore + s.inFlight.length

theorem append_eq (msg : α) (items : List α) : QueueState.append msg items = items ++ [msg] := by
  induction items with
  | nil => rfl
  | cons item items ih => rw [QueueState.append, ih, List.cons_append]

/-- Every step keeps the count. -/
theorem CountsInFlight.step (h : CountsInFlight s) {i : QueueInput τ α} {o : QueueOutput α}
    (hs : s.step i = some (u, o)) : CountsInFlight u := by
  unfold CountsInFlight at h ⊢
  cases i with
  | sendLink t msg =>
    rw [QueueState.step, Option.ite_none_right_eq_some] at hs
    obtain ⟨-, hs⟩ := hs
    cases hs
    simp only [append_eq, List.length_append, List.length_cons, List.length_nil]
    omega
  | sendPost t =>
    rw [QueueState.step, Option.ite_none_right_eq_some] at hs
    obtain ⟨hmem, hs⟩ := hs
    cases hs
    have hpos := List.length_pos_of_mem hmem
    simp only [List.length_erase_of_mem hmem]
    omega
  | receiveWait t =>
    rw [QueueState.step, Option.ite_none_right_eq_some] at hs
    obtain ⟨⟨-, hpos⟩, hs⟩ := hs
    cases hs
    simp only [List.length_cons]
    omega
  | receiveUnlink t =>
    rw [QueueState.step, Option.ite_none_right_eq_some] at hs
    obtain ⟨hmem, hs⟩ := hs
    cases hs
    have hpos := List.length_pos_of_mem hmem
    simp only [List.length_tail, List.length_erase_of_mem hmem]
    omega

omit [DecidableEq τ] in
/-- A receive that has waited finds a message. -/
theorem CountsInFlight.head_of_waited (h : CountsInFlight s) {t : τ}
    (hmem : (t, CallStage.waited) ∈ s.inFlight) : ∃ msg items, s.pItems = msg :: items := by
  have hpos := List.length_pos_of_mem hmem
  refine List.exists_cons_of_length_pos ?_
  rw [h]
  omega

/-- What a step does to the list: it sends one message, takes the first one, or neither. -/
theorem CountsInFlight.messages (h : CountsInFlight s) {i : QueueInput τ α} {o : QueueOutput α}
    (hs : s.step i = some (u, o)) :
    s.pItems ++ o.sent?.toList = o.received?.toList ++ u.pItems ∧ o ≠ .received none := by
  cases i with
  | sendLink t msg =>
    rw [QueueState.step, Option.ite_none_right_eq_some] at hs
    obtain ⟨-, hs⟩ := hs
    cases hs
    exact ⟨(append_eq msg s.pItems).symm, nofun⟩
  | sendPost t =>
    rw [QueueState.step, Option.ite_none_right_eq_some] at hs
    obtain ⟨-, hs⟩ := hs
    cases hs
    exact ⟨List.append_nil _, nofun⟩
  | receiveWait t =>
    rw [QueueState.step, Option.ite_none_right_eq_some] at hs
    obtain ⟨-, hs⟩ := hs
    cases hs
    exact ⟨List.append_nil _, nofun⟩
  | receiveUnlink t =>
    rw [QueueState.step, Option.ite_none_right_eq_some] at hs
    obtain ⟨hmem, hs⟩ := hs
    cases hs
    obtain ⟨msg, items, hitems⟩ := h.head_of_waited hmem
    rw [hitems]
    exact ⟨List.append_nil _, nofun⟩

/-- The invariant of runs, with the history. -/
theorem queue_history {es : List (QueueInput τ α × QueueOutput α)}
    (hrun : Lib.Run QueueState.step (QueueState.init : QueueState τ α) es s) :
    CountsInFlight s ∧ sentMessages es = receivedMessages es ++ s.pItems ∧
      ∀ e ∈ es, e.2 ≠ .received none := by
  induction hrun with
  | nil => exact ⟨rfl, rfl, fun e he => absurd he List.not_mem_nil⟩
  | @snoc es t u i o _ hs ih =>
    obtain ⟨hcount, hlist, hnever⟩ := ih
    obtain ⟨hmsg, ho⟩ := hcount.messages hs
    refine ⟨hcount.step hs, ?_, fun e he => ?_⟩
    · calc sentMessages (es ++ [(i, o)])
          = sentMessages es ++ o.sent?.toList := by
            cases hsent : o.sent? <;> simp [sentMessages, hsent]
        _ = receivedMessages es ++ (t.pItems ++ o.sent?.toList) := by
            rw [hlist, List.append_assoc]
        _ = receivedMessages es ++ o.received?.toList ++ u.pItems := by
            rw [hmsg, List.append_assoc]
        _ = receivedMessages (es ++ [(i, o)]) ++ u.pItems := by
            cases hreceived : o.received? <;> simp [receivedMessages, hreceived]
    · rcases List.mem_append.1 he with he | he
      · exact hnever e he
      · rw [List.mem_singleton.1 he]
        exact ho

/-- For every interleaving of sends and receives: the messages received and those still in the
list are the messages sent, in order; no receive completes without a message; and the semaphore
counts the list whenever no call is in flight. -/
theorem queue_fifo {es : List (QueueInput τ α × QueueOutput α)}
    (hrun : Lib.Run QueueState.step (QueueState.init : QueueState τ α) es s) :
    sentMessages es = receivedMessages es ++ s.pItems ∧
      (∀ e ∈ es, e.2 ≠ .received none) ∧
      (s.inFlight = [] → s.nProcessSemaphore = s.pItems.length) := by
  obtain ⟨hcount, hlist, hnever⟩ := queue_history hrun
  refine ⟨hlist, hnever, fun hnil => ?_⟩
  rw [CountsInFlight, hnil, List.length_nil] at hcount
  exact hcount.symm

/-- Two senders and a receiver; the second message is linked before the first send has posted. -/
def twoSenders : List (QueueInput ℕ ℕ) :=
  [.sendLink 1 7, .sendLink 2 8, .sendPost 2, .receiveWait 3, .sendPost 1, .receiveUnlink 3]

theorem queue_fifo_twoSenders :
    ∃ es s, Lib.exec QueueState.step (QueueState.init : QueueState ℕ ℕ) twoSenders = some (es, s) ∧
      sentMessages es = receivedMessages es ++ s.pItems ∧ receivedMessages es = [7] :=
  ⟨_, _, rfl, (queue_fifo (Lib.run_of_exec (l := twoSenders) rfl)).1, rfl⟩

end AliceHal.Pn54x.Tml
