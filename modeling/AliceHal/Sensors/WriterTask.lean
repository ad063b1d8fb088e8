import AliceHal.Lib.Machine
import AliceHal.Sensors.SensorEventQueue

/-!
# The Writer Task and the Reader of a Queue

`writerTask` in any interleaving with a reader. What a thread does while it holds `queue_mutex` is
one step; `poll` of the sub-HAL runs without the mutex, and each of its stores is a step of its own.

`pthread_cond_wait` may return without a signal, as POSIX allows.

- `State`, `Input`, `step`: the system
- `Inv`: the region of the writer lies behind the readable records
- `writerTask_fifo`: what was polled is read, in order and once
-/

namespace AliceHal.Sensors

/-- Where the writer is. -/
inductive Writer where
  /-- about to lock the mutex -/
  | idle
  /-- in `pthread_cond_wait`, and whether the condition was broadcast since -/
  | waiting (requestedLength : ℕ) (signalled : Bool)
  /-- in `poll`, with the buffer and its size -/
  | polling (buffer : Option ℕ) (bufferSize : ℕ)
  /-- `poll` has returned the positive number `eventsPolled` -/
  | polled (buffer : Option ℕ) (eventsPolled : ℕ)

/-- The queue and its writer. -/
structure State (α : Type*) where
  queue : SensorEventQueue α
  writer : Writer

/-- The steps of the writer and of the reader. -/
inductive Input (α : Type*) where
  /-- the writer locks the mutex, and calls `waitForSpace` and then `getWritableRegion` -/
  | lock (requestedLength : ℕ)
  /-- `pthread_cond_wait` returns -/
  | wake
  /-- `poll` stores an event at this place of the buffer -/
  | store (i : ℕ) (event : α)
  /-- `poll` returns this number of events, or an error -/
  | pollReturns (eventsPolled : ℤ)
  | markAsWritten
  | peek
  | dequeue

/-- What a step shows: the events that `poll` has returned, or the record at the front, which
`dequeue` frees. -/
inductive Output (α : Type*) where
  | none
  | polled (events : List α)
  | record (event : Option α)

namespace State

variable {α : Type*}

/-- The loop of `waitForSpace`, and `getWritableRegion` after it. -/
def waitForSpace (s : State α) (requestedLength : ℕ) : State α :=
  if s.queue.mSize = s.queue.mCapacity then { s with writer := .waiting requestedLength false }
  else
    let r := s.queue.getWritableRegion requestedLength
    { s with writer := .polling r.1 r.2 }

/-- `dequeue`; a broadcast reaches a writer that waits. -/
def dequeue (s : State α) : State α :=
  match s.writer with
  | .waiting requestedLength signalled =>
    ⟨s.queue.dequeue.1, .waiting requestedLength (signalled || s.queue.dequeue.2)⟩
  | _ => { s with queue := s.queue.dequeue.1 }

/-- The events of a buffer; there are none at `NULL`. -/
def bufferEvents (s : State α) (buffer : Option ℕ) (count : ℕ) : List α :=
  match buffer with
  | some first => s.queue.region first count
  | none => []

/-- One step. -/
def step (s : State α) : Input α → Option (State α × Output α)
  | .lock requestedLength =>
    match s.writer with
    | .idle =>
      if 1 ≤ requestedLength ∧ requestedLength ≤ s.queue.mCapacity then
        some (s.waitForSpace requestedLength, .none)
      else none
    | _ => none
  | .wake =>
    match s.writer with
    | .waiting requestedLength _ => some (s.waitForSpace requestedLength, .none)
    | _ => none
  | .store i event =>
    match s.writer with
    | .polling (some first) bufferSize =>
      if i < bufferSize then some ({ s with queue := s.queue.store (first + i) event }, .none)
      else none
    | _ => none
  | .pollReturns eventsPolled =>
    match s.writer with
    | .polling buffer bufferSize =>
      if eventsPolled ≤ 0 then some ({ s with writer := .idle }, .none)
      else if eventsPolled ≤ bufferSize then
        some ({ s with writer := .polled buffer eventsPolled.toNat },
          .polled (s.bufferEvents buffer eventsPolled.toNat))
      else none
    | _ => none
  | .markAsWritten =>
    match s.writer with
    | .polled _ eventsPolled => some (⟨s.queue.markAsWritten eventsPolled, .idle⟩, .none)
    | _ => none
  | .peek => some (s, .record s.queue.peek)
  | .dequeue => some (s.dequeue, .record s.queue.peek)

/-- A new queue, before its writer starts. -/
def init (capacity : ℕ) (mData : ℕ → α) : State α := ⟨.init capacity mData, .idle⟩

/-- The events that `poll` has returned and `markAsWritten` has not announced yet. -/
def pending (s : State α) : List α :=
  match s.writer with
  | .polled buffer eventsPolled => s.bufferEvents buffer eventsPolled
  | _ => []

end State

/-- The history of a run. -/
abbrev History (α : Type*) := List (Input α × Output α)

/-- All events that `poll` returned. -/
def polledEvents {α : Type*} (es : History α) : List α :=
  es.flatMap fun e =>
    match e.2 with
    | .polled events => events
    | _ => []

/-- All records that the reader took. -/
def dequeuedEvents {α : Type*} (es : History α) : List α :=
  es.flatMap fun e =>
    match e.1, e.2 with
    | .dequeue, .record event => event.toList
    | _, _ => []

/-! ## The invariant -/

variable {α : Type*} {capacity : ℕ} {es : History α} {s t : State α} {i : Input α} {o : Output α}

/-- What the writer relies on: its region, or a wake-up where there is space. -/
def WriterInv (q : SensorEventQueue α) : Writer → Prop
  | .idle => True
  | .waiting requestedLength signalled =>
    0 < requestedLength ∧ (q.mSize = q.mCapacity ∨ signalled = true)
  | .polling buffer bufferSize =>
    ∃ first, buffer = some first ∧ 0 < bufferSize ∧ q.Writable first bufferSize
  | .polled buffer eventsPolled => ∃ first, buffer = some first ∧ q.Writable first eventsPolled

/-- The invariant of the system, with the events polled and the records taken so far. -/
structure Inv (capacity : ℕ) (es : History α) (s : State α) : Prop where
  capacity_eq : s.queue.mCapacity = capacity
  valid : s.queue.Valid
  writer : WriterInv s.queue s.writer
  fifo : polledEvents es = dequeuedEvents es ++ (s.queue.contents ++ s.pending)

@[simp]
theorem polledEvents_concat (es : History α) (e : Input α × Output α) :
    polledEvents (es ++ [e]) = polledEvents es ++ polledEvents [e] :=
  List.flatMap_append

@[simp]
theorem dequeuedEvents_concat (es : History α) (e : Input α × Output α) :
    dequeuedEvents (es ++ [e]) = dequeuedEvents es ++ dequeuedEvents [e] :=
  List.flatMap_append

/-- A step that shows nothing keeps the events that were polled and those that were taken. -/
theorem Inv.silent (h : Inv capacity es s) (hcap : t.queue.mCapacity = s.queue.mCapacity)
    (hvalid : t.queue.Valid) (hwriter : WriterInv t.queue t.writer)
    (hkept : t.queue.contents ++ t.pending = s.queue.contents ++ s.pending) :
    Inv capacity (es ++ [(i, .none)]) t := by
  refine ⟨hcap.trans h.capacity_eq, hvalid, hwriter, ?_⟩
  have hpolled : polledEvents [(i, Output.none)] = ([] : List α) := rfl
  have htaken : dequeuedEvents [(i, Output.none)] = ([] : List α) := by
    cases i <;> rfl
  rw [polledEvents_concat, dequeuedEvents_concat, hpolled, htaken, List.append_nil,
    List.append_nil, hkept]
  exact h.fifo

/-- The writer waits, or gets a region. -/
theorem Inv.waitForSpace (h : Inv capacity es s) (hpending : s.pending = []) {requestedLength : ℕ}
    (hreq : 0 < requestedLength) :
    Inv capacity (es ++ [(i, .none)]) (s.waitForSpace requestedLength) := by
  unfold State.waitForSpace
  split
  · rename_i hfull
    refine h.silent rfl h.valid ⟨hreq, Or.inl hfull⟩ ?_
    rw [hpending]
    rfl
  · rename_i hspace
    obtain ⟨first, len, heq, hlen, -, hwritable⟩ :=
      SensorEventQueue.getWritableRegion_spec h.valid hspace hreq
    refine h.silent rfl h.valid ?_ ?_
    · rw [heq]
      exact ⟨first, rfl, hlen, hwritable⟩
    · rw [hpending]
      rfl

/-- The region and the pending events stay while the reader takes a record. -/
theorem Inv.dequeue (h : Inv capacity es s) :
    Inv capacity (es ++ [(.dequeue, .record s.queue.peek)]) s.dequeue := by
  have hqueue : s.dequeue.queue = s.queue.dequeue.1 := by
    unfold State.dequeue
    split
    · rfl
    · rfl
  have hwriter : WriterInv s.queue.dequeue.1 s.dequeue.writer := by
    have hinv := h.writer
    unfold State.dequeue
    split
    · rename_i requestedLength signalled hw
      rw [hw] at hinv
      refine ⟨hinv.1, Or.inr ?_⟩
      rcases hinv.2 with hfull | hsignalled
      · rw [SensorEventQueue.dequeue_full h.valid hfull, Bool.or_true]
      · rw [hsignalled, Bool.true_or]
    · rename_i hw
      show WriterInv s.queue.dequeue.1 s.writer
      cases hwr : s.writer with
      | idle => trivial
      | waiting requestedLength signalled => exact absurd hwr (hw requestedLength signalled)
      | polling buffer bufferSize =>
        rw [hwr] at hinv
        obtain ⟨first, hfirst, hlen, hwritable⟩ := hinv
        exact ⟨first, hfirst, hlen, hwritable.dequeue⟩
      | polled buffer eventsPolled =>
        rw [hwr] at hinv
        obtain ⟨first, hfirst, hwritable⟩ := hinv
        exact ⟨first, hfirst, hwritable.dequeue⟩
  have hpending : s.dequeue.pending = s.pending := by
    unfold State.dequeue State.pending
    cases hwr : s.writer with
    | idle => rfl
    | waiting requestedLength signalled => rfl
    | polling buffer bufferSize => rfl
    | polled buffer eventsPolled =>
      simp only [State.bufferEvents, SensorEventQueue.region, SensorEventQueue.dequeue_mData]
  refine ⟨?_, ?_, ?_, ?_⟩
  · rw [hqueue, SensorEventQueue.dequeue_mCapacity]
    exact h.capacity_eq
  · rw [hqueue]
    exact h.valid.dequeue
  · rw [hqueue]
    exact hwriter
  · have htaken : dequeuedEvents [(Input.dequeue, Output.record s.queue.peek)] =
        s.queue.peek.toList := List.append_nil _
    have hcontents : s.queue.contents = s.queue.peek.toList ++ s.queue.contents.tail := by
      rw [SensorEventQueue.peek_eq h.valid]
      cases s.queue.contents with
      | nil => rfl
      | cons event rest => rfl
    rw [polledEvents_concat, dequeuedEvents_concat, htaken, hqueue, hpending,
      SensorEventQueue.contents_dequeue, List.append_assoc, ← List.append_assoc s.queue.peek.toList,
      ← hcontents]
    exact (List.append_nil _).trans h.fifo

/-- Every step keeps the invariant. -/
theorem Inv.step (h : Inv capacity es s) (hs : s.step i = some (t, o)) :
    Inv capacity (es ++ [(i, o)]) t := by
  have hinv := h.writer
  cases i with
  | lock requestedLength =>
    simp only [State.step] at hs
    split at hs
    · rename_i hw
      split at hs
      · rename_i hreq
        cases hs
        refine h.waitForSpace ?_ hreq.1
        rw [State.pending, hw]
      · cases hs
    · cases hs
  | wake =>
    simp only [State.step] at hs
    split at hs
    · rename_i requestedLength signalled hw
      cases hs
      rw [hw] at hinv
      refine h.waitForSpace ?_ hinv.1
      rw [State.pending, hw]
    · cases hs
  | store j event =>
    simp only [State.step] at hs
    split at hs
    · rename_i first bufferSize hw
      rw [hw] at hinv
      obtain ⟨_, hfirst, hlen, hwritable⟩ := hinv
      cases hfirst
      split at hs
      · rename_i hj
        cases hs
        refine h.silent rfl ⟨h.valid.start_lt, h.valid.size_le⟩ ?_ ?_
        · rw [hw]
          exact ⟨first, rfl, hlen, hwritable.first_eq, hwritable.in_array, hwritable.free⟩
        · rw [hwritable.contents_store hj, State.pending, State.pending, hw]
      · cases hs
    · cases hs
  | pollReturns eventsPolled =>
    simp only [State.step] at hs
    split at hs
    · rename_i buffer bufferSize hw
      rw [hw] at hinv
      obtain ⟨first, hfirst, hlen, hwritable⟩ := hinv
      split at hs
      · cases hs
        refine h.silent rfl h.valid trivial ?_
        rw [State.pending, State.pending, hw]
      · split at hs
        · rename_i hle
          cases hs
          have hk : eventsPolled.toNat ≤ bufferSize := Int.toNat_le.2 hle
          refine ⟨h.capacity_eq, h.valid, ⟨first, hfirst, hwritable.first_eq, ?_, ?_⟩, ?_⟩
          · exact (Nat.add_le_add_left hk _).trans hwritable.in_array
          · exact (Nat.add_le_add_left hk _).trans hwritable.free
          · have hfifo := h.fifo
            rw [State.pending, hw, List.append_nil] at hfifo
            rw [polledEvents_concat, dequeuedEvents_concat, hfifo]
            simp [polledEvents, dequeuedEvents, State.pending, State.bufferEvents]
        · cases hs
    · cases hs
  | markAsWritten =>
    simp only [State.step] at hs
    split at hs
    · rename_i buffer eventsPolled hw
      rw [hw] at hinv
      obtain ⟨first, hfirst, hwritable⟩ := hinv
      cases hs
      refine h.silent rfl (hwritable.valid_markAsWritten h.valid le_rfl) trivial ?_
      rw [hwritable.contents_markAsWritten le_rfl, State.pending, State.pending, hw, hfirst,
        List.append_nil]
      rfl
    · cases hs
  | peek =>
    cases hs
    refine ⟨h.capacity_eq, h.valid, h.writer, ?_⟩
    rw [polledEvents_concat, dequeuedEvents_concat]
    simpa [polledEvents, dequeuedEvents] using h.fifo
  | dequeue =>
    cases hs
    exact h.dequeue

theorem inv_init (hcap : 0 < capacity) (mData : ℕ → α) :
    Inv capacity [] (State.init capacity mData) :=
  ⟨rfl, SensorEventQueue.valid_init hcap mData, trivial, rfl⟩

theorem inv_of_run (hcap : 0 < capacity) {mData : ℕ → α}
    (hrun : Lib.Run State.step (State.init capacity mData) es s) : Inv capacity es s := by
  induction hrun with
  | nil => exact inv_init hcap mData
  | snoc _ hs ih => exact ih.step hs

/-! ## A bounded queue -/

/-- The queue as its users see it, after the history `es`. -/
structure BoundedFifo (capacity : ℕ) (es : History α) (s : State α) : Prop where
  /-- what was polled was taken, or can be read, or is about to be announced -/
  fifo : polledEvents es = dequeuedEvents es ++ (s.queue.contents ++ s.pending)
  /-- the reader gets the oldest readable record -/
  front : ∀ {i t event}, s.step i = some (t, .record event) → event = s.queue.contents.head?
  bounded : s.queue.mSize ≤ capacity
  /-- the buffer of `poll` is not empty, lies in the array, and has no readable record -/
  region : ∀ {buffer bufferSize}, s.writer = .polling buffer bufferSize →
    ∃ first, buffer = some first ∧ 0 < bufferSize ∧ first + bufferSize ≤ capacity ∧
      ∀ i < s.queue.mSize, ∀ j < bufferSize, (s.queue.mStart + i) % capacity ≠ first + j
  /-- a writer does not wait in vain -/
  waiting : ∀ {requestedLength signalled}, s.writer = .waiting requestedLength signalled →
    s.queue.mSize = capacity ∨ signalled = true

/-- Only the reader is shown a record. -/
theorem step_record {event : Option α} (hs : s.step i = some (t, .record event)) :
    event = s.queue.peek := by
  cases i with
  | peek =>
    cases hs
    rfl
  | dequeue =>
    cases hs
    rfl
  | lock | wake | store | pollReturns | markAsWritten =>
    simp only [State.step] at hs
    repeat' split at hs
    all_goals simp at hs

/-- In every interleaving, the events polled are read in order and once, out of a region that the
writer does not touch. -/
theorem writerTask_fifo (capacity : ℕ) (hcap : 0 < capacity) (mData : ℕ → α) (es : History α)
    (s : State α) (hrun : Lib.Run State.step (State.init capacity mData) es s) :
    BoundedFifo capacity es s := by
  have h := inv_of_run hcap hrun
  have hinv := h.writer
  have hcapacity := h.capacity_eq
  refine ⟨h.fifo, fun {i t event} hs => ?_, hcapacity ▸ h.valid.size_le, fun hw => ?_, fun hw => ?_⟩
  · rw [← SensorEventQueue.peek_eq h.valid]
    exact step_record hs
  · rw [hw] at hinv
    obtain ⟨first, hfirst, hlen, hwritable⟩ := hinv
    refine ⟨first, hfirst, hlen, hcapacity ▸ hwritable.in_array, fun i hi j hj => ?_⟩
    rw [← hcapacity]
    exact hwritable.disjoint hi hj
  · rw [hw] at hinv
    rw [← hcapacity]
    exact hinv.2

/-- Two polls into a queue of two events, the second one after a record was taken. -/
def twoPolls : List (Input ℕ) :=
  [.lock 2, .store 0 7, .store 1 8, .pollReturns 2, .markAsWritten, .lock 2, .peek, .dequeue, .wake,
    .store 0 9, .dequeue, .pollReturns 1, .markAsWritten]

/-- The record in the first cell is the newest one then. -/
theorem twoPolls_fifo :
    ∃ es s, Lib.exec State.step (State.init 2 fun _ => 0) twoPolls = some (es, s) ∧
      BoundedFifo 2 es s ∧ dequeuedEvents es = [7, 8] ∧ s.queue.contents = [9] := by
  have hexec : ∃ es s, Lib.exec State.step (State.init 2 fun _ => 0) twoPolls = some (es, s) ∧
      dequeuedEvents es = [7, 8] ∧ s.queue.contents = [9] :=
    ⟨_, _, rfl, rfl, rfl⟩
  obtain ⟨es, s, hexec, htaken, hcontents⟩ := hexec
  have hfifo := writerTask_fifo 2 (by decide) _ es s (Lib.run_of_exec hexec)
  exact ⟨es, s, hexec, hfifo, htaken, hcontents⟩

end AliceHal.Sensors
