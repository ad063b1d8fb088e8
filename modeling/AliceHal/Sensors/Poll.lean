import AliceHal.Sensors.Handles
import AliceHal.Sensors.WriterTask

/-!
# Polling All Queues

`poll` takes events from the queues of the sub-HALs in turn. It holds `queue_mutex` while it scans,
so only the steps of a writer that need no mutex come between, and releases it while it waits. An
iteration of the inner loop is one step.

`pthread_cond_wait` may return without a signal.

- `PollContext`: the queues with their writers, and the reader
- `passed`: an event with its handle remapped, unless it is dropped
- `PollInv`: what holds in all runs
- `poll_deliversAll`: nothing is lost, repeated or reordered
-/

namespace AliceHal.Sensors

/-- `sensors_event_t`: its type and the two fields that may hold a handle. The second is
`meta_data.sensor`, and `rest` is everything else. -/
structure SensorsEvent (δ : Type*) where
  type : ℤ
  sensor : ℤ
  metaSensor : ℤ
  rest : δ
  deriving DecidableEq, Repr

/-- `SENSOR_TYPE_META_DATA`. -/
def sensorTypeMetaData : ℤ := 0

variable {δ : Type*}

/-- `copy_event_remap_handle`. -/
def copyEventRemapHandle (h : Handles) (src : SensorsEvent δ) (subIndex : ℕ) : SensorsEvent δ :=
  if src.type = sensorTypeMetaData then
    { src with metaSensor := h.getGlobalHandle ⟨subIndex, src.metaSensor⟩ }
  else { src with sensor := h.getGlobalHandle ⟨subIndex, src.sensor⟩ }

/-- What `poll` keeps of an event of a queue. -/
def passed (h : Handles) (subIndex : ℕ) (event : SensorsEvent δ) : Option (SensorsEvent δ) :=
  if (copyEventRemapHandle h event subIndex).sensor = -1 then none
  else some (copyEventRemapHandle h event subIndex)

/-- Where the caller of `poll` is. Each event read is kept with the queue it comes from. -/
inductive Reader (δ : Type*) where
  | idle
  /-- in the loop, with `empties` and the events read so far -/
  | scanning (maxReads : ℤ) (empties : ℕ) (data : List (ℕ × SensorsEvent δ))
  /-- in `pthread_cond_wait` -/
  | waiting (maxReads : ℤ)

/-- The queues of `sensors_poll_context_t` with their writers, and the reader. -/
structure PollContext (δ : Type*) where
  queues : List (State (SensorsEvent δ))
  nextReadIndex : ℕ
  reader : Reader δ

/-- The next step. -/
inductive PollInput (δ : Type*) where
  /-- the writer of a queue, or `poll` of its sub-HAL, goes on -/
  | writer (i : ℕ) (input : Input (SensorsEvent δ))
  /-- `poll` is called -/
  | poll (maxReads : ℤ)
  /-- the reader goes on -/
  | reader
  /-- `pthread_cond_wait` returns -/
  | wake

/-- What a step shows. -/
inductive PollOutput (δ : Type*) where
  | none
  | writer (output : Output (SensorsEvent δ))
  /-- a queue was looked at, and what was taken from it -/
  | scanned (i : ℕ) (event : Option (SensorsEvent δ))
  | sleeps
  /-- a call of `poll` with this bound returns these events -/
  | returned (maxReads : ℤ) (data : List (ℕ × SensorsEvent δ))

namespace Input

variable {α : Type*}

/-- The step is of the reader of a queue. -/
def ofReader : Input α → Bool
  | .peek | .dequeue => true
  | _ => false

/-- The step needs `queue_mutex`. -/
def locks : Input α → Bool
  | .lock _ | .wake | .markAsWritten => true
  | _ => false

end Input

namespace Reader

/-- The reader holds `queue_mutex`. -/
def holds : Reader δ → Bool
  | .scanning _ _ _ => true
  | _ => false

/-- The events read and not returned yet. -/
def data : Reader δ → List (ℕ × SensorsEvent δ)
  | .scanning _ _ data => data
  | _ => []

end Reader

namespace PollContext

/-- An iteration of the inner loop of `poll`. -/
def scan (h : Handles) (s : PollContext δ) (maxReads : ℤ) (empties : ℕ)
    (data : List (ℕ × SensorsEvent δ)) : Option (PollContext δ × PollOutput δ) :=
  let i := s.nextReadIndex
  let next := (i + 1) % s.queues.length
  s.queues[i]?.map fun q =>
    match q.queue.peek with
    | none =>
      ({ s with nextReadIndex := next, reader := .scanning maxReads (empties + 1) data },
        .scanned i none)
    | some event =>
      ({ queues := s.queues.set i q.dequeue
         nextReadIndex := next
         reader := .scanning maxReads 0 (data ++ ((passed h i event).map fun e => (i, e)).toList) },
        .scanned i (some event))

/-- A step of the reader. -/
def readerStep (h : Handles) (s : PollContext δ) : Option (PollContext δ × PollOutput δ) :=
  match s.reader with
  | .scanning maxReads empties data =>
    if empties < s.queues.length ∧ (data.length : ℤ) < maxReads then s.scan h maxReads empties data
    else if data.length = 0 then some ({ s with reader := .waiting maxReads }, .sleeps)
    else some ({ s with reader := .idle }, .returned maxReads data)
  | _ => none

/-- A step of a writer. -/
def writerStep (s : PollContext δ) (i : ℕ) (input : Input (SensorsEvent δ)) :
    Option (PollContext δ × PollOutput δ) :=
  if input.ofReader || input.locks && s.reader.holds then none
  else s.queues[i]?.bind fun q =>
    (q.step input).map fun r => ({ s with queues := s.queues.set i r.1 }, .writer r.2)

/-- One step. -/
def step (h : Handles) (s : PollContext δ) : PollInput δ → Option (PollContext δ × PollOutput δ)
  | .writer i input => s.writerStep i input
  | .poll maxReads =>
    match s.reader with
    | .idle => some ({ s with reader := .scanning maxReads 0 [] }, .none)
    | _ => none
  | .reader => s.readerStep h
  | .wake =>
    match s.reader with
    | .waiting maxReads => some ({ s with reader := .scanning maxReads 0 [] }, .none)
    | _ => none

end PollContext

/-! ## Histories -/

/-- The history of a run. -/
abbrev PollHistory (δ : Type*) := List (PollInput δ × PollOutput δ)

/-- What a step is for the queue `i`. -/
def queueStep (i : ℕ) (e : PollInput δ × PollOutput δ) : History (SensorsEvent δ) :=
  match e.1, e.2 with
  | .writer j input, .writer output => if j = i then [(input, output)] else []
  | .reader, .scanned j (some event) => if j = i then [(.dequeue, .record (some event))] else []
  | _, _ => []

/-- The history of the queue `i`. -/
def queueHistory (i : ℕ) (es : PollHistory δ) : History (SensorsEvent δ) :=
  es.flatMap (queueStep i)

/-- All events that calls of `poll` have returned. -/
def returnedData (es : PollHistory δ) : List (ℕ × SensorsEvent δ) :=
  es.flatMap fun e =>
    match e.2 with
    | .returned _ data => data
    | _ => []

/-- The events that come from the queue `i`. -/
def fromQueue (i : ℕ) (data : List (ℕ × SensorsEvent δ)) : List (SensorsEvent δ) :=
  data.filterMap fun d => if d.1 = i then some d.2 else none

/-- The bound of each call is positive. -/
def PollInput.Positive : PollInput δ → Prop
  | .poll maxReads => 1 ≤ maxReads
  | _ => True

instance (input : PollInput δ) : Decidable input.Positive :=
  match input with
  | .poll maxReads => inferInstanceAs (Decidable (1 ≤ maxReads))
  | .writer _ _ | .reader | .wake => instDecidableTrue

/-! ## The specification -/

/-- A context before a call of `poll`, with any contents of its queues. -/
structure Started (s : PollContext δ) : Prop where
  valid : ∀ q ∈ s.queues, q.queue.Valid ∧ WriterInv q.queue q.writer
  inRange : s.nextReadIndex < s.queues.length
  idle : s.reader = .idle

/-- What the users of `poll` see after the history `es`. -/
structure DeliversAll (h : Handles) (s₀ : PollContext δ) (es : PollHistory δ) (s : PollContext δ) :
    Prop where
  /-- what is taken from a queue is a prefix of what was there and what was polled since -/
  fifo : ∀ (i : ℕ) q₀ q, s₀.queues[i]? = some q₀ → s.queues[i]? = some q →
    q₀.queue.contents ++ q₀.pending ++ polledEvents (queueHistory i es) =
      dequeuedEvents (queueHistory i es) ++ (q.queue.contents ++ q.pending)
  /-- what is delivered from a queue is what was taken, remapped, without what is dropped -/
  delivered : ∀ i, fromQueue i (returnedData es ++ s.reader.data) =
    (dequeuedEvents (queueHistory i es)).filterMap (passed h i)
  returned : ∀ input maxReads data, (input, PollOutput.returned maxReads data) ∈ es →
    1 ≤ data.length ∧ (data.length : ℤ) ≤ maxReads
  sleeps : ∀ input t, s.step h input = some (t, .sleeps) → ∀ q ∈ s.queues, q.queue.contents = []
  inRange : s.nextReadIndex < s.queues.length

/-! ## The invariant -/

/-- The queues the reader has found empty since it saw an event, counted backwards from the next one,
are empty. -/
structure Scanning (s : PollContext δ) (maxReads : ℤ) (empties : ℕ) (read : ℕ) : Prop where
  positive : 1 ≤ maxReads
  bounded : (read : ℤ) ≤ maxReads
  count : empties ≤ s.queues.length
  empty : ∀ j, s.queues.length ≤ j + empties → j < s.queues.length →
    ∀ q ∈ s.queues[(s.nextReadIndex + j) % s.queues.length]?, q.queue.mSize = 0

/-- What the reader relies on. -/
def ReaderInv (s : PollContext δ) : Prop :=
  match s.reader with
  | .idle => True
  | .waiting maxReads => 1 ≤ maxReads
  | .scanning maxReads empties data => Scanning s maxReads empties data.length

/-- What holds in all states of a run. -/
structure PollInv (h : Handles) (s₀ : PollContext δ) (es : PollHistory δ) (s : PollContext δ) :
    Prop where
  count : s.queues.length = s₀.queues.length
  /-- for a queue, what was there at first counts as polled at once -/
  queues : ∀ (i : ℕ) q₀ q, s₀.queues[i]? = some q₀ → s.queues[i]? = some q →
    Inv q₀.queue.mCapacity
      ((.peek, .polled (q₀.queue.contents ++ q₀.pending)) :: queueHistory i es) q
  delivered : ∀ i, fromQueue i (returnedData es ++ s.reader.data) =
    (dequeuedEvents (queueHistory i es)).filterMap (passed h i)
  returned : ∀ input maxReads data, (input, PollOutput.returned maxReads data) ∈ es →
    1 ≤ data.length ∧ (data.length : ℤ) ≤ maxReads
  reader : ReaderInv s
  inRange : s.nextReadIndex < s.queues.length

variable {h : Handles} {s₀ s t : PollContext δ} {es : PollHistory δ} {input : PollInput δ}
  {o : PollOutput δ}

theorem queueHistory_concat (i : ℕ) (es : PollHistory δ) (e : PollInput δ × PollOutput δ) :
    queueHistory i (es ++ [e]) = queueHistory i es ++ queueStep i e := by
  unfold queueHistory
  rw [List.flatMap_append, List.flatMap_cons, List.flatMap_nil, List.append_nil]

theorem pollInv_init (hs : Started s₀) : PollInv h s₀ [] s₀ where
  count := rfl
  queues := fun i q₀ q hq₀ hq => by
    cases hq₀.symm.trans hq
    obtain ⟨hvalid, hwriter⟩ := hs.valid q₀ (List.mem_of_getElem? hq₀)
    refine ⟨rfl, hvalid, hwriter, ?_⟩
    exact List.append_nil _
  delivered := fun i => by
    rw [hs.idle]
    rfl
  returned := fun input maxReads data hmem => absurd hmem List.not_mem_nil
  reader := by
    unfold ReaderInv
    rw [hs.idle]
    trivial
  inRange := hs.inRange

/-- A step that neither takes nor returns an event. -/
theorem PollInv.silent (hi : PollInv h s₀ es s) (hqueues : t.queues = s.queues)
    (hdata : t.reader.data = s.reader.data) (hreader : ReaderInv t)
    (hrange : t.nextReadIndex < s.queues.length)
    (hquiet : ∀ i, queueStep i (input, o) = [])
    (hkeeps : returnedData (es ++ [(input, o)]) = returnedData es)
    (hreturned : ∀ maxReads data, o ≠ .returned maxReads data) :
    PollInv h s₀ (es ++ [(input, o)]) t := by
  have hsame : ∀ i, queueHistory i (es ++ [(input, o)]) = queueHistory i es := by
    intro i
    rw [queueHistory_concat, hquiet, List.append_nil]
  refine ⟨?_, ?_, ?_, ?_, hreader, ?_⟩
  · rw [hqueues]
    exact hi.count
  · intro i q₀ q hq₀ hq
    rw [hsame]
    rw [hqueues] at hq
    exact hi.queues i q₀ q hq₀ hq
  · intro i
    rw [hkeeps, hdata, hsame]
    exact hi.delivered i
  · intro inp maxReads data hmem
    rcases List.mem_append.1 hmem with hold | hnew
    · exact hi.returned inp maxReads data hold
    · exact absurd (Prod.mk.inj (List.mem_singleton.1 hnew)).2.symm (hreturned maxReads data)
  · rw [hqueues]
    exact hrange

/-! ### Writers -/

/-- Without the mutex a writer does not announce events. -/
theorem State.step_mSize {α : Type*} {q q' : State α} {i : Input α} {out : Output α}
    (hreader : i.ofReader = false) (hlocks : i.locks = false) (hstep : q.step i = some (q', out)) :
    q'.queue.mSize = q.queue.mSize := by
  cases i with
  | lock | wake | markAsWritten => cases hlocks
  | peek | dequeue => cases hreader
  | store j event =>
    simp only [State.step] at hstep
    split at hstep
    · split at hstep
      · cases hstep
        rfl
      · cases hstep
    · cases hstep
  | pollReturns eventsPolled =>
    simp only [State.step] at hstep
    split at hstep
    · split at hstep
      · cases hstep
        rfl
      · split at hstep
        · cases hstep
          rfl
        · cases hstep
    · cases hstep

theorem Scanning.congr {maxReads : ℤ} {empties read : ℕ} (hs : Scanning s maxReads empties read)
    (hlength : t.queues.length = s.queues.length) (hnext : t.nextReadIndex = s.nextReadIndex)
    (hsizes : ∀ (j : ℕ) q', t.queues[j]? = some q' →
      ∃ q, s.queues[j]? = some q ∧ q'.queue.mSize = q.queue.mSize) :
    Scanning t maxReads empties read := by
  refine ⟨hs.positive, hs.bounded, hlength ▸ hs.count, fun j hle hlt q' hq' => ?_⟩
  rw [hlength, hnext] at hq'
  rw [hlength] at hle hlt
  obtain ⟨q, hq, hsize⟩ := hsizes _ _ hq'
  rw [hsize]
  exact hs.empty j hle hlt q hq

/-- A step of the writer `j`. -/
theorem PollInv.writer {j : ℕ} {inp : Input (SensorsEvent δ)} (hi : PollInv h s₀ es s)
    (hstep : s.writerStep j inp = some (t, o)) : PollInv h s₀ (es ++ [(PollInput.writer j inp, o)]) t := by
  unfold PollContext.writerStep at hstep
  by_cases hblocked : (inp.ofReader || inp.locks && s.reader.holds) = true
  · rw [if_pos hblocked] at hstep
    cases hstep
  · rw [if_neg hblocked] at hstep
    obtain ⟨hofReader, hlocks⟩ := Bool.or_eq_false_iff.1 (Bool.not_eq_true _ ▸ hblocked)
    obtain ⟨q, hq, hmap⟩ := Option.bind_eq_some_iff.1 hstep
    obtain ⟨⟨q', out⟩, hqstep, heq⟩ := Option.map_eq_some_iff.1 hmap
    obtain ⟨rfl, rfl⟩ := Prod.mk.inj heq
    have hnext : ∀ i, dequeuedEvents (queueHistory i (es ++ [(PollInput.writer j inp, PollOutput.writer out)])) =
        dequeuedEvents (queueHistory i es) := by
      intro i
      rw [queueHistory_concat]
      unfold queueStep
      dsimp only
      split
      · rw [dequeuedEvents_concat]
        cases inp with
        | peek | dequeue => cases hofReader
        | lock | wake | store | pollReturns | markAsWritten => exact List.append_nil _
      · rw [List.append_nil]
    have hkeeps : returnedData (es ++ [(PollInput.writer j inp, PollOutput.writer out)]) = returnedData es :=
      List.flatMap_append.trans (List.append_nil _)
    refine ⟨?_, fun i q₀ qi hq₀ hqi => ?_, fun i => ?_, fun input maxReads data hmem => ?_, ?_, ?_⟩
    · show (s.queues.set j q').length = s₀.queues.length
      rw [List.length_set]
      exact hi.count
    · rw [queueHistory_concat]
      unfold queueStep
      dsimp only at hqi ⊢
      by_cases hji : j = i
      · rw [if_pos hji]
        rw [hji] at hq hqi
        rw [List.getElem?_set_self (List.getElem?_eq_some_iff.1 hq).1] at hqi
        cases hqi
        exact (hi.queues i q₀ q hq₀ hq).step hqstep
      · rw [if_neg hji, List.append_nil]
        rw [List.getElem?_set_ne hji] at hqi
        exact hi.queues i q₀ qi hq₀ hqi
    · rw [hkeeps, hnext]
      exact hi.delivered i
    · rcases List.mem_append.1 hmem with hold | hnew
      · exact hi.returned input maxReads data hold
      · cases List.mem_singleton.1 hnew
    · have hreader := hi.reader
      unfold ReaderInv at hreader ⊢
      dsimp only
      cases hr : s.reader with
      | idle => trivial
      | waiting maxReads =>
        rw [hr] at hreader
        exact hreader
      | scanning maxReads empties data =>
        rw [hr] at hreader hlocks
        refine hreader.congr (List.length_set ..) rfl fun n qn hqn => ?_
        by_cases hjn : j = n
        · rw [hjn] at hq hqn
          dsimp only at hqn
          rw [List.getElem?_set_self (List.getElem?_eq_some_iff.1 hq).1] at hqn
          cases hqn
          exact ⟨q, hq, State.step_mSize hofReader ((Bool.and_true _).symm.trans hlocks) hqstep⟩
        · dsimp only at hqn
          rw [List.getElem?_set_ne hjn] at hqn
          exact ⟨qn, hqn, rfl⟩
    · show s.nextReadIndex < (s.queues.set j q').length
      rw [List.length_set]
      exact hi.inRange

/-! ### The reader -/

/-- The scan goes on after a queue without events. -/
theorem Scanning.next {maxReads : ℤ} {empties read : ℕ} {q : State (SensorsEvent δ)}
    {reader : Reader δ} (hs : Scanning s maxReads empties read) (hlt : empties < s.queues.length)
    (hrange : s.nextReadIndex < s.queues.length) (hq : s.queues[s.nextReadIndex]? = some q)
    (hempty : q.queue.mSize = 0) :
    Scanning { s with nextReadIndex := (s.nextReadIndex + 1) % s.queues.length, reader := reader }
      maxReads (empties + 1) read := by
  refine ⟨hs.positive, hs.bounded, hlt, fun j hle hj q' hq' => ?_⟩
  have hq'' : s.queues[((s.nextReadIndex + 1) % s.queues.length + j) % s.queues.length]? = some q' :=
    hq'
  rw [Nat.mod_add_mod, Nat.add_assoc, Nat.add_comm 1 j] at hq''
  by_cases hlast : j + 1 = s.queues.length
  · -- once round: this is the queue just seen
    rw [hlast, Nat.add_mod_right, Nat.mod_eq_of_lt hrange, hq] at hq''
    cases hq''
    exact hempty
  · have hle' : s.queues.length ≤ j + (empties + 1) := hle
    have hj' : j < s.queues.length := hj
    exact hs.empty (j + 1) (by omega) (by omega) q' hq''

/-- After as many empty queues as there are, all are empty. -/
theorem Scanning.allEmpty {maxReads : ℤ} {empties read : ℕ} (hs : Scanning s maxReads empties read)
    (hrange : s.nextReadIndex < s.queues.length) (hall : s.queues.length ≤ empties) :
    ∀ q ∈ s.queues, q.queue.mSize = 0 := by
  intro q hmem
  obtain ⟨i, hi⟩ := List.mem_iff_getElem?.1 hmem
  have hilt := (List.getElem?_eq_some_iff.1 hi).1
  by_cases hle : s.nextReadIndex ≤ i
  · refine hs.empty (i - s.nextReadIndex) (by omega) (by omega) q ?_
    rw [Nat.add_sub_cancel' hle, Nat.mod_eq_of_lt hilt]
    exact hi
  · refine hs.empty (i + s.queues.length - s.nextReadIndex) (by omega) (by omega) q ?_
    have hsum : s.nextReadIndex + (i + s.queues.length - s.nextReadIndex) = i + s.queues.length := by
      omega
    rw [hsum, Nat.add_mod_right, Nat.mod_eq_of_lt hilt]
    exact hi

theorem peek_eq_none {α : Type*} {q : SensorEventQueue α} : q.peek = none ↔ q.mSize = 0 := by
  unfold SensorEventQueue.peek
  by_cases hsize : q.mSize = 0
  · rw [if_pos hsize]
    exact ⟨fun _ => hsize, fun _ => rfl⟩
  · rw [if_neg hsize]
    exact ⟨fun hnone => (nomatch hnone), fun heq => absurd heq hsize⟩

theorem fromQueue_append (i : ℕ) (data more : List (ℕ × SensorsEvent δ)) :
    fromQueue i (data ++ more) = fromQueue i data ++ fromQueue i more :=
  List.filterMap_append

/-- What an iteration adds to the events of each queue. -/
theorem fromQueue_passed (i j : ℕ) (event : SensorsEvent δ) :
    fromQueue i ((passed h j event).map fun e => (j, e)).toList =
      if j = i then (passed h i event).toList else [] := by
  by_cases hji : j = i
  · rw [if_pos hji, hji]
    cases passed h i event with
    | none => rfl
    | some dest =>
      simp only [fromQueue, Option.map_some, Option.toList_some, List.filterMap_cons, if_true,
        List.filterMap_nil]
  · rw [if_neg hji]
    cases passed h j event with
    | none => rfl
    | some dest =>
      simp only [fromQueue, Option.map_some, Option.toList_some, List.filterMap_cons, if_neg hji,
        List.filterMap_nil]

/-- An iteration of the inner loop. -/
theorem PollInv.scan {maxReads : ℤ} {empties : ℕ} {data : List (ℕ × SensorsEvent δ)}
    (hi : PollInv h s₀ es s) (hr : s.reader = .scanning maxReads empties data)
    (hempties : empties < s.queues.length) (hreads : (data.length : ℤ) < maxReads)
    (hstep : s.scan h maxReads empties data = some (t, o)) :
    PollInv h s₀ (es ++ [(PollInput.reader, o)]) t := by
  have hscan : Scanning s maxReads empties data.length := by
    have hreader := hi.reader
    unfold ReaderInv at hreader
    rw [hr] at hreader
    exact hreader
  have hnext : (s.nextReadIndex + 1) % s.queues.length < s.queues.length :=
    Nat.mod_lt _ (lt_of_le_of_lt (Nat.zero_le _) hi.inRange)
  obtain ⟨q, hq, hmap⟩ := Option.map_eq_some_iff.1 hstep
  cases hpeek : q.queue.peek with
  | none =>
    rw [hpeek] at hmap
    obtain ⟨rfl, rfl⟩ := Prod.mk.inj hmap
    refine hi.silent rfl ?_ ?_ hnext (fun _ => rfl) (List.flatMap_append.trans (List.append_nil _))
      nofun
    · rw [hr]
      rfl
    · exact hscan.next hempties hi.inRange hq (peek_eq_none.1 hpeek)
  | some event =>
    rw [hpeek] at hmap
    obtain ⟨rfl, rfl⟩ := Prod.mk.inj hmap
    have hhistory : ∀ i, queueHistory i
        (es ++ [(PollInput.reader, PollOutput.scanned s.nextReadIndex (some event))]) = queueHistory i es ++
          if s.nextReadIndex = i then [(.dequeue, .record (some event))] else [] :=
      fun i => queueHistory_concat i es _
    refine ⟨?_, fun i q₀ qi hq₀ hqi => ?_, fun i => ?_, fun input maxReads data hmem => ?_, ?_, ?_⟩
    · show (s.queues.set s.nextReadIndex q.dequeue).length = s₀.queues.length
      rw [List.length_set]
      exact hi.count
    · rw [hhistory]
      dsimp only at hqi
      by_cases hji : s.nextReadIndex = i
      · rw [if_pos hji]
        rw [hji] at hq hqi
        rw [List.getElem?_set_self (List.getElem?_eq_some_iff.1 hq).1] at hqi
        cases hqi
        rw [← hpeek]
        exact (hi.queues i q₀ q hq₀ hq).dequeue
      · rw [if_neg hji, List.append_nil]
        rw [List.getElem?_set_ne hji] at hqi
        exact hi.queues i q₀ qi hq₀ hqi
    · have hold := hi.delivered i
      rw [hr] at hold
      have hkeeps : returnedData (es ++ [(PollInput.reader, PollOutput.scanned s.nextReadIndex (some event))]) =
          returnedData es := List.flatMap_append.trans (List.append_nil _)
      have htaken : dequeuedEvents (queueHistory i es ++
          if s.nextReadIndex = i then [(.dequeue, .record (some event))] else []) =
            dequeuedEvents (queueHistory i es) ++ if s.nextReadIndex = i then [event] else [] := by
        split
        · exact dequeuedEvents_concat ..
        · rw [List.append_nil, List.append_nil]
      rw [hkeeps, hhistory, htaken, List.filterMap_append, ← hold]
      show fromQueue i (returnedData es ++ (data ++ _)) = fromQueue i (returnedData es ++ data) ++ _
      rw [← List.append_assoc, fromQueue_append i (returnedData es ++ data), fromQueue_passed]
      by_cases hji : s.nextReadIndex = i
      · rw [if_pos hji, if_pos hji]
        cases hp : passed h i event with
        | none =>
          rw [List.filterMap_cons_none hp]
          rfl
        | some dest =>
          rw [List.filterMap_cons_some hp]
          rfl
      · rw [if_neg hji, if_neg hji]
        rfl
    · rcases List.mem_append.1 hmem with hold | hnew
      · exact hi.returned input maxReads data hold
      · cases List.mem_singleton.1 hnew
    · refine ⟨hscan.positive, ?_, Nat.zero_le _, fun j hle hj => absurd hle (Nat.not_le_of_lt hj)⟩
      have hone : ((passed h s.nextReadIndex event).map fun e => (s.nextReadIndex, e)).toList.length ≤
          1 := by
        cases passed h s.nextReadIndex event with
        | none => exact Nat.zero_le _
        | some _ => exact le_rfl
      rw [List.length_append, Nat.cast_add]
      omega
    · show (s.nextReadIndex + 1) % s.queues.length < (s.queues.set s.nextReadIndex q.dequeue).length
      rw [List.length_set]
      exact hnext

/-- A step of the reader. -/
theorem PollInv.readerStep (hi : PollInv h s₀ es s) (hstep : s.readerStep h = some (t, o)) :
    PollInv h s₀ (es ++ [(PollInput.reader, o)]) t := by
  have hreader := hi.reader
  unfold ReaderInv at hreader
  unfold PollContext.readerStep at hstep
  cases hr : s.reader with
  | idle | waiting =>
    rw [hr] at hstep
    cases hstep
  | scanning maxReads empties data =>
    rw [hr] at hstep hreader
    dsimp only at hstep
    split at hstep
    · rename_i hgo
      exact hi.scan hr hgo.1 hgo.2 hstep
    · split at hstep
      · rename_i hnone
        obtain ⟨rfl, rfl⟩ := Prod.mk.inj (Option.some.inj hstep)
        refine hi.silent rfl ?_ hreader.positive hi.inRange (fun _ => rfl)
          (List.flatMap_append.trans (List.append_nil _)) nofun
        rw [hr]
        exact (List.length_eq_zero_iff.1 hnone).symm
      · rename_i hsome
        obtain ⟨rfl, rfl⟩ := Prod.mk.inj (Option.some.inj hstep)
        have hhistory : ∀ i, queueHistory i (es ++ [(PollInput.reader, PollOutput.returned maxReads data)]) =
            queueHistory i es :=
          fun i => (queueHistory_concat i es _).trans (List.append_nil _)
        refine ⟨hi.count, fun i q₀ q hq₀ hq => ?_, fun i => ?_, fun input bound events hmem => ?_,
          trivial, hi.inRange⟩
        · rw [hhistory]
          exact hi.queues i q₀ q hq₀ hq
        · have hold := hi.delivered i
          rw [hr] at hold
          have hmoves : returnedData (es ++ [(PollInput.reader, PollOutput.returned maxReads data)]) =
              returnedData es ++ data :=
            List.flatMap_append.trans (congrArg _ (List.append_nil data))
          rw [hhistory, hmoves]
          exact (congrArg _ (List.append_nil _)).trans hold
        · rcases List.mem_append.1 hmem with hold | hnew
          · exact hi.returned input bound events hold
          · cases List.mem_singleton.1 hnew
            exact ⟨Nat.one_le_iff_ne_zero.2 hsome, hreader.bounded⟩

/-- A scan begins. -/
theorem PollInv.begins {maxReads : ℤ} (hi : PollInv h s₀ es s) (hpositive : 1 ≤ maxReads)
    (hdata : s.reader.data = []) (hquiet : ∀ i, queueStep i (input, PollOutput.none) = []) :
    PollInv h s₀ (es ++ [(input, PollOutput.none)]) { s with reader := .scanning maxReads 0 [] } := by
  refine hi.silent rfl hdata.symm ?_ hi.inRange hquiet
    (List.flatMap_append.trans (List.append_nil _)) nofun
  refine ⟨hpositive, (by exact_mod_cast zero_le_one.trans hpositive), Nat.zero_le _,
    fun j hle hj => absurd hle (Nat.not_le_of_lt hj)⟩

/-- Every step keeps the invariant. -/
theorem PollInv.step (hi : PollInv h s₀ es s) (hpositive : input.Positive)
    (hstep : s.step h input = some (t, o)) : PollInv h s₀ (es ++ [(input, o)]) t := by
  cases input with
  | writer j inp => exact hi.writer hstep
  | poll maxReads =>
    have hcall : (match s.reader with
      | .idle => some ({ s with reader := .scanning maxReads 0 [] }, PollOutput.none)
      | _ => none) = some (t, o) := hstep
    cases hr : s.reader with
    | idle =>
      rw [hr] at hcall
      obtain ⟨rfl, rfl⟩ := Prod.mk.inj (Option.some.inj hcall)
      exact hi.begins hpositive (by rw [hr]; rfl) fun _ => rfl
    | scanning | waiting =>
      rw [hr] at hcall
      cases hcall
  | reader => exact hi.readerStep hstep
  | wake =>
    have hcall : (match s.reader with
      | .waiting maxReads => some ({ s with reader := .scanning maxReads 0 [] }, PollOutput.none)
      | _ => none) = some (t, o) := hstep
    have hreader := hi.reader
    unfold ReaderInv at hreader
    cases hr : s.reader with
    | waiting maxReads =>
      rw [hr] at hcall hreader
      obtain ⟨rfl, rfl⟩ := Prod.mk.inj (Option.some.inj hcall)
      exact hi.begins hreader (by rw [hr]; rfl) fun _ => rfl
    | scanning | idle =>
      rw [hr] at hcall
      cases hcall

theorem pollInv_of_run (hs : Started s₀) (hrun : Lib.Run (PollContext.step h) s₀ es s)
    (hpositive : ∀ e ∈ es, e.1.Positive) : PollInv h s₀ es s := by
  induction hrun with
  | nil => exact pollInv_init hs
  | snoc _ hstep ih =>
    refine (ih fun e he => hpositive e (List.mem_append_left _ he)).step ?_ hstep
    exact hpositive _ List.mem_concat_self

/-- The reader sleeps only when it has seen that all queues are empty. -/
theorem PollInv.sleeps (hi : PollInv h s₀ es s) (hstep : s.step h input = some (t, .sleeps)) :
    ∀ q ∈ s.queues, q.queue.contents = [] := by
  have hreader := hi.reader
  unfold ReaderInv at hreader
  have hread : s.readerStep h = some (t, .sleeps) := by
    cases input with
    | reader => exact hstep
    | writer j inp =>
      have hwriter : s.writerStep j inp = some (t, .sleeps) := hstep
      unfold PollContext.writerStep at hwriter
      split at hwriter
      · cases hwriter
      · obtain ⟨q, -, hmap⟩ := Option.bind_eq_some_iff.1 hwriter
        obtain ⟨r, -, heq⟩ := Option.map_eq_some_iff.1 hmap
        cases heq
    | poll | wake =>
      unfold PollContext.step at hstep
      cases hr : s.reader with
      | idle | waiting | scanning =>
        rw [hr] at hstep
        cases hstep
  unfold PollContext.readerStep at hread
  cases hr : s.reader with
  | idle | waiting =>
    rw [hr] at hread
    cases hread
  | scanning maxReads empties data =>
    rw [hr] at hread hreader
    dsimp only at hread
    split at hread
    · obtain ⟨q, -, hmap⟩ := Option.map_eq_some_iff.1 hread
      cases hpeek : q.queue.peek with
      | none | some =>
        rw [hpeek] at hmap
        cases hmap
    · rename_i hstops
      split at hread
      · rename_i hnone
        have hroom : (data.length : ℤ) < maxReads := by
          rw [hnone]
          exact_mod_cast hreader.positive
        have hall : s.queues.length ≤ empties := not_lt.1 fun hlt => hstops ⟨hlt, hroom⟩
        intro q hq
        unfold SensorEventQueue.contents
        rw [hreader.allEmpty hi.inRange hall q hq]
        rfl
      · cases hread

/-- In every run of the writers and of any number of calls of `poll`, each event of a queue is
delivered once and in order, unless its handle is bad. -/
theorem poll_deliversAll (h : Handles) {s₀ s : PollContext δ} {es : PollHistory δ}
    (hs : Started s₀) (hrun : Lib.Run (PollContext.step h) s₀ es s)
    (hpositive : ∀ e ∈ es, e.1.Positive) : DeliversAll h s₀ es s := by
  have hi := pollInv_of_run hs hrun hpositive
  refine ⟨fun i q₀ q hq₀ hq => ?_, hi.delivered, hi.returned, fun _ _ hstep => hi.sleeps hstep,
    hi.inRange⟩
  exact (hi.queues i q₀ q hq₀ hq).fifo

/-- Two queues; the second module has a sensor with the handle 7. -/
def twoQueues : PollContext Unit where
  queues := List.replicate 2 (State.init 2 fun _ => ⟨1, 0, 0, ()⟩)
  nextReadIndex := 0
  reader := .idle

theorem twoQueues_started : Started twoQueues where
  valid := fun q hq => by
    rw [List.eq_of_mem_replicate hq]
    exact ⟨SensorEventQueue.valid_init Nat.two_pos _, trivial⟩
  inRange := by decide
  idle := rfl

/-- The second queue gets an event of an unknown sensor and one of the known sensor. -/
def fillSecond : List (Input (SensorsEvent Unit)) :=
  [.lock 2, .store 0 ⟨1, 6, 0, ()⟩, .store 1 ⟨1, 7, 0, ()⟩, .pollReturns 2, .markAsWritten]

/-- `poll` is called, waits for these events, and is called again. -/
def twoCalls : List (PollInput Unit) :=
  List.flatten [[.poll 5], List.replicate 3 .reader, fillSecond.map (PollInput.writer 1), [.wake],
    List.replicate 7 .reader, [.poll 1, .reader]]

theorem twoCalls_deliver : ∃ es s,
    Lib.exec (PollContext.step (Handles.init.assignAll [⟨1, 7⟩])) twoQueues twoCalls = some (es, s) ∧
      returnedData es = [(1, ⟨1, 1, 0, ()⟩)] ∧
      DeliversAll (Handles.init.assignAll [⟨1, 7⟩]) twoQueues es s := by
  have hexec : ∃ es s, Lib.exec (PollContext.step (Handles.init.assignAll [⟨1, 7⟩])) twoQueues
      twoCalls = some (es, s) ∧ returnedData es = [(1, ⟨1, 1, 0, ()⟩)] ∧
        ∀ e ∈ es, e.1.Positive := by
    refine ⟨_, _, rfl, rfl, ?_⟩
    decide
  obtain ⟨es, s, hexec, hreturned, hpositive⟩ := hexec
  exact ⟨es, s, hexec, hreturned,
    poll_deliversAll _ twoQueues_started (Lib.run_of_exec hexec) hpositive⟩

end AliceHal.Sensors
