import AliceHal.Lib.Ring

/-!
# The Sensor Event Queue

`SensorEventQueue`, the circular queue between the thread that polls a sub-HAL and the reader of
the events. The writer gets a region of the array and fills it without the lock.

The `int`s of the source are natural numbers here: no sum reaches twice the capacity, and an array
of `2 ^ 30` events does not fit the memory of the device.

- `SensorEventQueue`: the queue, with the operations of the source
- `SensorEventQueue.Valid`: what every operation keeps
- `SensorEventQueue.contents`: the readable records
- `SensorEventQueue.Writable`: a region of the array behind the readable records
-/

namespace AliceHal.Sensors

/-- The queue. `mData` is given by its cells below `mCapacity`. -/
structure SensorEventQueue (α : Type*) where
  mCapacity : ℕ
  /-- start of the readable region -/
  mStart : ℕ
  /-- number of readable items -/
  mSize : ℕ
  mData : ℕ → α

namespace SensorEventQueue

variable {α : Type*}

/-- The constructor. The cells of the new array hold what they hold. -/
def init (capacity : ℕ) (mData : ℕ → α) : SensorEventQueue α where
  mCapacity := capacity
  mStart := 0
  mSize := 0
  mData := mData

/-- The index of the region (`none` for `NULL`), and its length. -/
def getWritableRegion (q : SensorEventQueue α) (requestedLength : ℕ) : Option ℕ × ℕ :=
  if q.mSize = q.mCapacity ∨ requestedLength ≤ 0 then (none, 0)
  else
    -- start writing after the last readable record
    let firstWritable := (q.mStart + q.mSize) % q.mCapacity
    let lastWritable := firstWritable + requestedLength - 1
    -- do not go past the end of the data array
    let lastWritable := if q.mCapacity - 1 < lastWritable then q.mCapacity - 1 else lastWritable
    -- do not go into the readable region
    let lastWritable :=
      if firstWritable < q.mStart ∧ q.mStart ≤ lastWritable then q.mStart - 1 else lastWritable
    (some firstWritable, lastWritable - firstWritable + 1)

def markAsWritten (q : SensorEventQueue α) (count : ℕ) : SensorEventQueue α :=
  { q with mSize := q.mSize + count }

def peek (q : SensorEventQueue α) : Option α :=
  if q.mSize = 0 then none else some (q.mData q.mStart)

/-- The queue, and whether `mSpaceAvailableCondition` is broadcast. -/
def dequeue (q : SensorEventQueue α) : SensorEventQueue α × Bool :=
  if q.mSize = 0 then (q, false)
  else
    ({ q with mSize := q.mSize - 1, mStart := (q.mStart + 1) % q.mCapacity },
      q.mSize == q.mCapacity)

/-- A store of the writer into the array. -/
def store (q : SensorEventQueue α) (i : ℕ) (event : α) : SensorEventQueue α :=
  { q with mData := Function.update q.mData i event }

/-! ## The readable records -/

/-- The indices lie in the array. -/
structure Valid (q : SensorEventQueue α) : Prop where
  start_lt : q.mStart < q.mCapacity
  size_le : q.mSize ≤ q.mCapacity

/-- The readable records, the oldest one first. -/
def contents (q : SensorEventQueue α) : List α := Lib.ring q.mData q.mCapacity q.mStart q.mSize

variable {q : SensorEventQueue α} {first len : ℕ}

theorem valid_init {capacity : ℕ} (hcap : 0 < capacity) (mData : ℕ → α) :
    (init capacity mData).Valid :=
  ⟨hcap, Nat.zero_le _⟩

theorem peek_eq (hq : q.Valid) : q.peek = q.contents.head? := by
  unfold peek contents
  split
  · rename_i hsize
    rw [hsize, Lib.ring_zero, List.head?_nil]
  · rename_i hsize
    obtain ⟨n, hn⟩ := Nat.exists_eq_succ_of_ne_zero hsize
    rw [hn, Nat.succ_eq_add_one, Lib.ring_cons, List.head?_cons, Nat.mod_eq_of_lt hq.start_lt]

theorem contents_dequeue (q : SensorEventQueue α) : q.dequeue.1.contents = q.contents.tail := by
  unfold dequeue
  split
  · rename_i hsize
    rw [contents, hsize, Lib.ring_zero, List.tail_nil]
  · rename_i hsize
    obtain ⟨n, hn⟩ := Nat.exists_eq_succ_of_ne_zero hsize
    rw [contents, contents, hn, Nat.succ_eq_add_one, Lib.ring_cons, List.tail_cons]
    rfl

theorem Valid.dequeue (hq : q.Valid) : q.dequeue.1.Valid := by
  unfold SensorEventQueue.dequeue
  split
  · exact hq
  · refine ⟨Nat.mod_lt _ (Nat.zero_lt_of_lt hq.start_lt), ?_⟩
    exact (Nat.sub_le _ _).trans hq.size_le

@[simp]
theorem dequeue_mCapacity (q : SensorEventQueue α) : q.dequeue.1.mCapacity = q.mCapacity := by
  unfold dequeue
  split
  · rfl
  · rfl

@[simp]
theorem dequeue_mData (q : SensorEventQueue α) : q.dequeue.1.mData = q.mData := by
  unfold dequeue
  split
  · rfl
  · rfl

/-- Space in a full queue is announced. -/
theorem dequeue_full (hq : q.Valid) (hfull : q.mSize = q.mCapacity) : q.dequeue.2 = true := by
  have hsize : q.mSize ≠ 0 := by
    have := hq.start_lt
    omega
  rw [dequeue, if_neg hsize]
  exact beq_iff_eq.2 hfull

/-! ## The writable region -/

/-- The `len` cells from `first` on follow the last readable record, up to the end of the array or
to the first readable record. -/
structure Writable (q : SensorEventQueue α) (first len : ℕ) : Prop where
  first_eq : first = (q.mStart + q.mSize) % q.mCapacity
  in_array : first + len ≤ q.mCapacity
  free : q.mSize + len ≤ q.mCapacity

/-- A region is handed out while there is space, and it is not empty. -/
theorem getWritableRegion_spec (hq : q.Valid) (hspace : q.mSize ≠ q.mCapacity) {requestedLength : ℕ}
    (hreq : 0 < requestedLength) :
    ∃ first len, q.getWritableRegion requestedLength = (some first, len) ∧ 0 < len ∧
      len ≤ requestedLength ∧ q.Writable first len := by
  have hstart := hq.start_lt
  have hsize := hq.size_le
  have hfirst : (q.mStart + q.mSize) % q.mCapacity < q.mCapacity := Nat.mod_lt _ (by omega)
  -- where the records wrap around, the region ends before the first one of them
  have hwrap : (q.mStart + q.mSize < q.mCapacity ∧
        (q.mStart + q.mSize) % q.mCapacity = q.mStart + q.mSize) ∨
      (q.mCapacity ≤ q.mStart + q.mSize ∧
        (q.mStart + q.mSize) % q.mCapacity = q.mStart + q.mSize - q.mCapacity) := by
    rcases Nat.lt_or_ge (q.mStart + q.mSize) q.mCapacity with h | h
    · exact Or.inl ⟨h, Nat.mod_eq_of_lt h⟩
    · refine Or.inr ⟨h, ?_⟩
      rw [Nat.mod_eq_sub_mod h, Nat.mod_eq_of_lt (by omega)]
  unfold getWritableRegion
  rw [if_neg (by omega)]
  extract_lets firstWritable last₀ last₁ last₂
  have hlast₁ : firstWritable ≤ last₁ ∧ last₁ ≤ last₀ ∧ last₁ < q.mCapacity := by
    simp only [last₁]
    split <;> omega
  have hlast₂ : firstWritable ≤ last₂ ∧ last₂ ≤ last₁ ∧
      (firstWritable < q.mStart → last₂ < q.mStart) := by
    simp only [last₂]
    split <;> omega
  exact ⟨firstWritable, _, rfl, by omega, by omega, rfl, by omega, by omega⟩

/-- No cell of the region is the cell of a readable record. -/
theorem Writable.disjoint (h : q.Writable first len) {i j : ℕ} (hi : i < q.mSize) (hj : j < len) :
    (q.mStart + i) % q.mCapacity ≠ first + j := by
  have hcell : first + j = (q.mStart + q.mSize + j) % q.mCapacity := by
    rw [Nat.add_mod, ← h.first_eq, Nat.mod_eq_of_lt (a := j) (by have := h.free; omega),
      Nat.mod_eq_of_lt (by have := h.in_array; omega)]
  rw [hcell]
  exact Lib.mod_ne_mod (by omega) (by have := h.free; omega)

/-- A store into the region leaves the readable records. -/
theorem Writable.contents_store (h : q.Writable first len) {j : ℕ} (hj : j < len) (event : α) :
    (q.store (first + j) event).contents = q.contents := by
  refine Lib.ring_congr fun i hi => ?_
  exact Function.update_of_ne (h.disjoint hi hj) _ _

/-- The region stays where it is while records are read. -/
theorem Writable.dequeue (h : q.Writable first len) :
    q.dequeue.1.Writable first len := by
  unfold SensorEventQueue.dequeue
  split
  · exact h
  · rename_i hsize
    refine ⟨?_, h.in_array, ?_⟩
    · rw [h.first_eq]
      show _ = ((q.mStart + 1) % q.mCapacity + (q.mSize - 1)) % q.mCapacity
      rw [Nat.mod_add_mod]
      congr 1
      omega
    · have := h.free
      show q.mSize - 1 + len ≤ q.mCapacity
      omega

/-- The first `k` cells of a region. -/
def region (q : SensorEventQueue α) (first k : ℕ) : List α :=
  (List.range k).map fun i => q.mData (first + i)

/-- What is marked as written follows the readable records. -/
theorem Writable.contents_markAsWritten (h : q.Writable first len) {k : ℕ} (hk : k ≤ len) :
    (q.markAsWritten k).contents = q.contents ++ q.region first k := by
  have hring : Lib.ring q.mData q.mCapacity (q.mStart + q.mSize) k = q.region first k := by
    rw [← Lib.ring_mod, ← h.first_eq]
    refine List.map_congr_left fun i hi => ?_
    have hi := List.mem_range.1 hi
    rw [Nat.mod_eq_of_lt (by have := h.in_array; omega)]
  rw [← hring]
  exact Lib.ring_add k

theorem Writable.valid_markAsWritten (h : q.Writable first len) (hq : q.Valid) {k : ℕ}
    (hk : k ≤ len) : (q.markAsWritten k).Valid :=
  ⟨hq.start_lt, (Nat.add_le_add_left hk _).trans h.free⟩

end SensorEventQueue

end AliceHal.Sensors
