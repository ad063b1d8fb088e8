import AliceHal.Lib.Memory

/-!
# Reading from the Device

`phTmlNfc_i2c_read` (`phTmlNfc_i2c.c`): a header of fixed length in one or two reads, then what
its length byte announces in one more. The second read of the header starts at the first byte of
the buffer again, and a short read of the payload is not completed.

- `ReadOutcome`, `Wire`: what a `read()` may do, and what it works on
- `phTmlNfcI2cRead`: the call
- `Wire.ReadsWhole`: the calls that return a whole packet, if they return one
- `delivers_iff`: these are the calls that deliver it
- `reads_packets`: what a run of such calls returns
-/

namespace AliceHal.Pn54x.Tml

open Lib

/-! ## The call -/

/-- What `read()` does. It returns at least one byte and at most as many as it was asked for, or
zero at the end of file, or -1. -/
inductive ReadOutcome where
  /-- one byte, and at most this many more -/
  | bytes (more : ℕ)
  | eof
  | error
  deriving DecidableEq, Repr

/-- The return value of a `read()` that was asked for `count` bytes, with zero for -1: the callers
treat these two alike. -/
def ReadOutcome.got (count : ℕ) : ReadOutcome → ℕ
  | .bytes more => min count (more + 1)
  | .eof => 0
  | .error => 0

/-- What `select()` does. -/
inductive SelectOutcome where
  | ready
  | timeout
  | error
  deriving DecidableEq, Repr

/-- The outcomes a call meets: of `select()`, of the two reads for the header, and of the read for
the payload. -/
structure I2cCall where
  select : SelectOutcome
  header : ReadOutcome
  headerRest : ReadOutcome
  payload : ReadOutcome
  deriving DecidableEq, Repr

/-- What the chip sends, how much of it was read, and the caller's buffer. -/
structure Wire where
  stream : Memory
  pos : ℕ
  pBuffer : Memory

/-- `NORMAL_MODE_HEADER_LEN`, `FW_DNLD_HEADER_LEN`. -/
def headerLen (bFwDnldFlag : Bool) : ℕ := if bFwDnldFlag then 2 else 3

/-- `NORMAL_MODE_LEN_OFFSET`, `FW_DNLD_LEN_OFFSET`. -/
def lenOffset (bFwDnldFlag : Bool) : ℕ := if bFwDnldFlag then 1 else 2

/-- The length of a packet with this length byte. A download frame ends with a CRC of two bytes. -/
def packetLen (bFwDnldFlag : Bool) (len : UInt8) : ℕ :=
  if bFwDnldFlag then len.toNat + headerLen bFwDnldFlag + 2 else len.toNat + headerLen bFwDnldFlag

namespace Wire

/-- The bytes that were not read yet. -/
def next (w : Wire) : Memory := fun j => w.stream (w.pos + j)

/-- `k` bytes arrive in the buffer, from index `i` on. -/
def take (w : Wire) (i k : ℕ) : Wire :=
  { w with pos := w.pos + k, pBuffer := w.pBuffer.put i (w.next.slice k) }

/-- The header: the number of bytes read, or `none` for -1. -/
def readHeader (w : Wire) (bFwDnldFlag : Bool) (c : I2cCall) : Option ℕ × Wire :=
  let totalBtyesToRead := headerLen bFwDnldFlag
  let numRead := c.header.got totalBtyesToRead
  if numRead = 0 then (none, w)
  else
    let w := w.take 0 numRead
    if numRead < totalBtyesToRead then
      let ret_Read := c.headerRest.got (totalBtyesToRead - numRead)
      -- the rest goes to the start of the buffer, not behind what is there
      let w := w.take 0 ret_Read
      if ret_Read ≠ totalBtyesToRead - numRead then (none, w) else (some (numRead + ret_Read), w)
    else (some numRead, w)

/-- The payload after `numRead` bytes: the number of bytes read in all, or `none` for -1. -/
def readPayload (w : Wire) (bFwDnldFlag : Bool) (c : I2cCall) (numRead : ℕ) : Option ℕ × Wire :=
  let totalBtyesToRead := packetLen bFwDnldFlag (w.pBuffer (lenOffset bFwDnldFlag))
  if totalBtyesToRead - numRead ≠ 0 then
    let ret_Read := c.payload.got (totalBtyesToRead - numRead)
    -- what a short read leaves of the payload is not asked for again
    if 0 < ret_Read then (some (numRead + ret_Read), w.take numRead ret_Read) else (none, w)
  else (some numRead, w)

/-- `phTmlNfc_i2c_read`; `none` is -1. -/
def phTmlNfcI2cRead (w : Wire) (pDevHandle : ℕ) (bFwDnldFlag : Bool) (c : I2cCall) :
    Option ℕ × Wire :=
  if pDevHandle = 0 then (none, w)
  else
    match c.select with
    | .error => (none, w)
    | .timeout => (none, w)
    | .ready =>
      match w.readHeader bFwDnldFlag c with
      | (none, w) => (none, w)
      | (some numRead, w) => w.readPayload bFwDnldFlag c numRead

/-! ## Whole packets -/

/-- Byte `j` of the header in the buffer, when the first read returned `k` bytes of it. -/
def headerByte (w : Wire) (bFwDnldFlag : Bool) (k j : ℕ) : UInt8 :=
  if j < headerLen bFwDnldFlag - k then w.next (k + j)
  else if j < k then w.next j
  else w.pBuffer j

/-- The length of the packet as the header in the buffer announces it. -/
def bufferedLen (w : Wire) (bFwDnldFlag : Bool) (c : I2cCall) : ℕ :=
  packetLen bFwDnldFlag
    (w.headerByte bFwDnldFlag (c.header.got (headerLen bFwDnldFlag)) (lenOffset bFwDnldFlag))

/-- The length of the packet as its own header announces it. -/
def announcedLen (w : Wire) (bFwDnldFlag : Bool) : ℕ :=
  packetLen bFwDnldFlag (w.next (lenOffset bFwDnldFlag))

/-- No read fails, and a second read for the header completes it. -/
structure Returns (w : Wire) (pDevHandle : ℕ) (bFwDnldFlag : Bool) (c : I2cCall) : Prop where
  handle : pDevHandle ≠ 0
  ready : c.select = .ready
  header : 0 < c.header.got (headerLen bFwDnldFlag)
  rest : c.headerRest.got (headerLen bFwDnldFlag - c.header.got (headerLen bFwDnldFlag)) =
    headerLen bFwDnldFlag - c.header.got (headerLen bFwDnldFlag)
  payload : w.bufferedLen bFwDnldFlag c ≠ headerLen bFwDnldFlag →
    0 < c.payload.got (w.bufferedLen bFwDnldFlag c - headerLen bFwDnldFlag)

/-- If no read fails, the header is in the buffer as it was sent, and the payload comes in one
read. -/
def ReadsWhole (w : Wire) (pDevHandle : ℕ) (bFwDnldFlag : Bool) (c : I2cCall) : Prop :=
  w.Returns pDevHandle bFwDnldFlag c →
    (∀ j < headerLen bFwDnldFlag,
      w.headerByte bFwDnldFlag (c.header.got (headerLen bFwDnldFlag)) j = w.next j) ∧
    c.payload.got (w.announcedLen bFwDnldFlag - headerLen bFwDnldFlag) =
      w.announcedLen bFwDnldFlag - headerLen bFwDnldFlag

/-- What is returned is the next packet of the stream, whole. -/
def Delivers (w : Wire) (pDevHandle : ℕ) (bFwDnldFlag : Bool) (c : I2cCall) : Prop :=
  ∀ n > 0, (w.phTmlNfcI2cRead pDevHandle bFwDnldFlag c).1 = some n →
    (∀ j < n, (w.phTmlNfcI2cRead pDevHandle bFwDnldFlag c).2.pBuffer j = w.next j) ∧
    (w.phTmlNfcI2cRead pDevHandle bFwDnldFlag c).2.pos = w.pos + n ∧
    n = w.announcedLen bFwDnldFlag

variable {w : Wire} {pDevHandle : ℕ} {bFwDnldFlag : Bool} {c : I2cCall}

/-! ## What a read leaves -/

@[simp] theorem take_stream (i k : ℕ) : (w.take i k).stream = w.stream := rfl

@[simp] theorem take_pos (i k : ℕ) : (w.take i k).pos = w.pos + k := rfl

theorem take_next (i k j : ℕ) : (w.take i k).next j = w.next (k + j) := by
  simp only [next, take_stream, take_pos, Nat.add_assoc]

theorem take_pBuffer_of_lt {i k j : ℕ} (h : j < i) : (w.take i k).pBuffer j = w.pBuffer j :=
  Memory.put_of_lt h

theorem take_pBuffer_of_le {i k j : ℕ} (h : i + k ≤ j) : (w.take i k).pBuffer j = w.pBuffer j := by
  apply Memory.put_of_le
  rw [Memory.slice_length]
  exact h

theorem take_pBuffer_add {i k j : ℕ} (h : j < k) : (w.take i k).pBuffer (i + j) = w.next j := by
  have hlen : j < (w.next.slice k).length := by rwa [Memory.slice_length]
  have hput := Memory.put_add (m := w.pBuffer) (i := i) hlen
  simpa [take, Memory.slice, h] using hput

theorem take_pBuffer_zero {k j : ℕ} (h : j < k) : (w.take 0 k).pBuffer j = w.next j := by
  simpa using take_pBuffer_add (w := w) (i := 0) h

end Wire

/-- At most what was asked for. -/
theorem ReadOutcome.got_le (o : ReadOutcome) (count : ℕ) : o.got count ≤ count := by
  cases o with
  | bytes more => exact Nat.min_le_left _ _
  | eof => exact Nat.zero_le _
  | error => exact Nat.zero_le _

theorem ReadOutcome.got_zero (o : ReadOutcome) : o.got 0 = 0 := Nat.le_zero.1 (o.got_le 0)

/-- The length byte is in the header. -/
theorem lenOffset_lt (bFwDnldFlag : Bool) : lenOffset bFwDnldFlag < headerLen bFwDnldFlag := by
  cases bFwDnldFlag with
  | false => decide
  | true => decide

theorem headerLen_le_packetLen (bFwDnldFlag : Bool) (len : UInt8) :
    headerLen bFwDnldFlag ≤ packetLen bFwDnldFlag len := by
  unfold packetLen
  split
  · omega
  · omega

namespace Wire

variable {w : Wire} {pDevHandle : ℕ} {bFwDnldFlag : Bool} {c : I2cCall}

/-! ## The header -/

/-- The header, when it is read: it is in the buffer as `headerByte` says. -/
theorem readHeader_of_got (hfirst : 0 < c.header.got (headerLen bFwDnldFlag))
    (hrest : c.headerRest.got (headerLen bFwDnldFlag - c.header.got (headerLen bFwDnldFlag)) =
      headerLen bFwDnldFlag - c.header.got (headerLen bFwDnldFlag)) :
    ∃ w' : Wire, w.readHeader bFwDnldFlag c = (some (headerLen bFwDnldFlag), w') ∧
      w'.stream = w.stream ∧ w'.pos = w.pos + headerLen bFwDnldFlag ∧
      ∀ j < headerLen bFwDnldFlag,
        w'.pBuffer j = w.headerByte bFwDnldFlag (c.header.got (headerLen bFwDnldFlag)) j := by
  have hle := c.header.got_le (headerLen bFwDnldFlag)
  unfold readHeader headerByte
  dsimp only
  rw [if_neg hfirst.ne']
  generalize headerLen bFwDnldFlag = h at *
  generalize c.header.got h = k at *
  by_cases hlt : k < h
  · -- two reads: the second one overwrites the start
    rw [if_pos hlt, if_neg (by rw [hrest]; exact fun hne => hne rfl), hrest]
    refine ⟨(w.take 0 k).take 0 (h - k), by rw [Nat.add_sub_cancel' hle], rfl, ?_,
      fun j hj => ?_⟩
    · simp only [take_pos]
      omega
    · by_cases hj' : j < h - k
      · rw [if_pos hj', take_pBuffer_zero hj', take_next]
      · rw [if_neg hj', take_pBuffer_of_le (by omega)]
        by_cases hjk : j < k
        · rw [if_pos hjk, take_pBuffer_zero hjk]
        · rw [if_neg hjk, take_pBuffer_of_le (by omega)]
  · -- one read
    have heq : k = h := by omega
    subst heq
    rw [if_neg hlt]
    refine ⟨_, rfl, rfl, take_pos _ _, fun j hj => ?_⟩
    rw [if_neg (by omega), if_pos hj, take_pBuffer_zero hj]

/-- Otherwise the call fails. -/
theorem readHeader_of_not_got (h : ¬ (0 < c.header.got (headerLen bFwDnldFlag) ∧
    c.headerRest.got (headerLen bFwDnldFlag - c.header.got (headerLen bFwDnldFlag)) =
      headerLen bFwDnldFlag - c.header.got (headerLen bFwDnldFlag))) :
    (w.readHeader bFwDnldFlag c).1 = none := by
  have hle := c.header.got_le (headerLen bFwDnldFlag)
  unfold readHeader
  dsimp only
  generalize headerLen bFwDnldFlag = total at *
  generalize c.header.got total = k at *
  by_cases hzero : k = 0
  · rw [if_pos hzero]
  · have hrest : c.headerRest.got (total - k) ≠ total - k :=
      fun heq => h ⟨Nat.pos_of_ne_zero hzero, heq⟩
    have hlt : k < total := by
      apply lt_of_le_of_ne hle
      intro heq
      rw [heq, Nat.sub_self] at hrest
      exact hrest (c.headerRest.got_zero)
    rw [if_neg hzero, if_pos hlt, if_pos hrest]

/-! ## The call as a whole -/

/-- Everything that is read on a call that returns: the header as `headerByte` says, and after it
the bytes that follow in the stream. -/
theorem read_of_returns (h : w.Returns pDevHandle bFwDnldFlag c) :
    ∃ (n : ℕ) (w' : Wire), w.phTmlNfcI2cRead pDevHandle bFwDnldFlag c = (some n, w') ∧
      n = headerLen bFwDnldFlag +
        c.payload.got (w.bufferedLen bFwDnldFlag c - headerLen bFwDnldFlag) ∧
      w'.pos = w.pos + n ∧
      (∀ j < headerLen bFwDnldFlag,
        w'.pBuffer j = w.headerByte bFwDnldFlag (c.header.got (headerLen bFwDnldFlag)) j) ∧
      ∀ j, headerLen bFwDnldFlag ≤ j → j < n → w'.pBuffer j = w.next j := by
  obtain ⟨w', hheader, hstream, hpos, hbytes⟩ := readHeader_of_got (w := w) h.header h.rest
  have hlen : packetLen bFwDnldFlag (w'.pBuffer (lenOffset bFwDnldFlag)) =
      w.bufferedLen bFwDnldFlag c := by
    rw [hbytes _ (lenOffset_lt bFwDnldFlag), bufferedLen]
  have hge : headerLen bFwDnldFlag ≤ w.bufferedLen bFwDnldFlag c :=
    headerLen_le_packetLen bFwDnldFlag _
  have hnext : ∀ j, w'.next j = w.next (headerLen bFwDnldFlag + j) := fun j => by
    simp only [next, hstream, hpos, Nat.add_assoc]
  simp only [phTmlNfcI2cRead, if_neg h.handle, h.ready, hheader, readPayload, hlen]
  by_cases hempty : w.bufferedLen bFwDnldFlag c - headerLen bFwDnldFlag = 0
  · -- no payload is announced
    refine ⟨_, w', by rw [if_neg (by simpa using hempty)], ?_, hpos, hbytes, fun j hle hlt => ?_⟩
    · rw [hempty, ReadOutcome.got_zero, Nat.add_zero]
    · omega
  · have hgot := h.payload (by omega)
    refine ⟨_, _, by rw [if_pos hempty, if_pos hgot], rfl, ?_, fun j hj => ?_, fun j hle hlt => ?_⟩
    · rw [take_pos, hpos, Nat.add_assoc]
    · rw [take_pBuffer_of_lt hj, hbytes j hj]
    · obtain ⟨i, rfl⟩ := Nat.exists_eq_add_of_le hle
      rw [take_pBuffer_add (by omega), hnext]

/-- A call that returns something returns in this way. -/
theorem returns_of_some {n : ℕ} (h : (w.phTmlNfcI2cRead pDevHandle bFwDnldFlag c).1 = some n) :
    w.Returns pDevHandle bFwDnldFlag c := by
  unfold phTmlNfcI2cRead at h
  split at h
  · cases h
  · rename_i hhandle
    cases hsel : c.select with
    | error => simp [hsel] at h
    | timeout => simp [hsel] at h
    | ready =>
      by_cases hgot : 0 < c.header.got (headerLen bFwDnldFlag) ∧
          c.headerRest.got (headerLen bFwDnldFlag - c.header.got (headerLen bFwDnldFlag)) =
            headerLen bFwDnldFlag - c.header.got (headerLen bFwDnldFlag)
      · obtain ⟨w', hheader, -, -, hbytes⟩ := readHeader_of_got (w := w) hgot.1 hgot.2
        have hlen : packetLen bFwDnldFlag (w'.pBuffer (lenOffset bFwDnldFlag)) =
            w.bufferedLen bFwDnldFlag c := by
          rw [hbytes _ (lenOffset_lt bFwDnldFlag), bufferedLen]
        have hge : headerLen bFwDnldFlag ≤ w.bufferedLen bFwDnldFlag c :=
          headerLen_le_packetLen bFwDnldFlag _
        refine ⟨hhandle, hsel, hgot.1, hgot.2, fun hne => ?_⟩
        simp only [hsel, hheader, readPayload, hlen] at h
        rw [if_pos (by omega)] at h
        by_contra hno
        rw [if_neg hno] at h
        cases h
      · have hnone := readHeader_of_not_got (w := w) hgot
        simp only [hsel] at h
        split at h
        · cases h
        · rename_i hsome
          rw [hsome] at hnone
          cases hnone

/-- A call that reads the packet whole returns it. -/
theorem delivers_of_readsWhole (hwhole : w.ReadsWhole pDevHandle bFwDnldFlag c) :
    w.Delivers pDevHandle bFwDnldFlag c := by
  have hlen : headerLen bFwDnldFlag ≤ w.announcedLen bFwDnldFlag :=
    headerLen_le_packetLen bFwDnldFlag _
  intro n _ hsome
  have hreturns := returns_of_some hsome
  obtain ⟨hheader, hpayload⟩ := hwhole hreturns
  obtain ⟨m, w', hread, hm, hpos, hbytes, hrest⟩ := read_of_returns hreturns
  rw [hread] at hsome ⊢
  cases hsome
  -- the header tells the length of the packet, and the rest is as long as it says
  rw [bufferedLen, hheader _ (lenOffset_lt bFwDnldFlag), ← announcedLen, hpayload] at hm
  refine ⟨fun j hj => ?_, hpos, by omega⟩
  by_cases hj' : j < headerLen bFwDnldFlag
  · exact (hbytes j hj').trans (hheader j hj')
  · exact hrest j (Nat.not_lt.1 hj') hj

/-- A call delivers the next packet whole if and only if the header comes as it was sent and the
payload in one read, where no read fails. -/
theorem delivers_iff (w : Wire) (pDevHandle : ℕ) (bFwDnldFlag : Bool) (c : I2cCall) :
    w.Delivers pDevHandle bFwDnldFlag c ↔ w.ReadsWhole pDevHandle bFwDnldFlag c := by
  have hlen : headerLen bFwDnldFlag ≤ w.announcedLen bFwDnldFlag :=
    headerLen_le_packetLen bFwDnldFlag _
  have hpos : 0 < headerLen bFwDnldFlag := (Nat.zero_le _).trans_lt (lenOffset_lt bFwDnldFlag)
  constructor
  · intro hdelivers hreturns
    obtain ⟨n, w', hread, hn, -, hbytes, -⟩ := read_of_returns hreturns
    obtain ⟨hwhole, -, hannounced⟩ := hdelivers n (by omega) (by rw [hread])
    rw [hread] at hwhole
    have hheader : ∀ j < headerLen bFwDnldFlag,
        w.headerByte bFwDnldFlag (c.header.got (headerLen bFwDnldFlag)) j = w.next j :=
      fun j hj => (hbytes j hj).symm.trans (hwhole j (by omega))
    refine ⟨hheader, ?_⟩
    rw [bufferedLen, hheader _ (lenOffset_lt bFwDnldFlag), ← announcedLen] at hn
    omega
  · exact delivers_of_readsWhole

/-- A header that comes in two reads: three bytes are returned, and they are not those sent. -/
theorem split_header_not_delivered :
    ¬ Delivers ⟨fun j => if j = 0 then 0x60 else 0, 0, fun _ => 0⟩ 1 false
      ⟨.ready, .bytes 0, .bytes 1, .error⟩ := by
  intro h
  have hbyte := (h 3 (by decide) (by decide)).1 0 (by decide)
  exact absurd hbyte (by decide)

/-! ## Call after call -/

/-- Calls one after the other: the packets that are returned, and what is left. -/
def reads (pDevHandle : ℕ) (bFwDnldFlag : Bool) : List I2cCall → Wire → List (List UInt8) × Wire
  | [], w => ([], w)
  | c :: cs, w =>
    match w.phTmlNfcI2cRead pDevHandle bFwDnldFlag c with
    | (none, w) => reads pDevHandle bFwDnldFlag cs w
    | (some n, w) =>
      (w.pBuffer.slice n :: (reads pDevHandle bFwDnldFlag cs w).1,
        (reads pDevHandle bFwDnldFlag cs w).2)

/-- The calls read whole packets, and those that fail have read nothing. -/
def Undisturbed (pDevHandle : ℕ) (bFwDnldFlag : Bool) : List I2cCall → Wire → Prop
  | [], _ => True
  | c :: cs, w =>
    w.ReadsWhole pDevHandle bFwDnldFlag c ∧
    ((w.phTmlNfcI2cRead pDevHandle bFwDnldFlag c).1 = none →
      (w.phTmlNfcI2cRead pDevHandle bFwDnldFlag c).2.pos = w.pos) ∧
    Undisturbed pDevHandle bFwDnldFlag cs (w.phTmlNfcI2cRead pDevHandle bFwDnldFlag c).2

/-- Consecutive packets of a stream, each as long as its header says. -/
inductive Packets (bFwDnldFlag : Bool) (stream : Memory) : ℕ → List (List UInt8) → ℕ → Prop where
  | nil (p : ℕ) : Packets bFwDnldFlag stream p [] p
  | cons {p q : ℕ} {packets : List (List UInt8)} {n : ℕ}
      (hlen : n = packetLen bFwDnldFlag (stream (p + lenOffset bFwDnldFlag)))
      (hrest : Packets bFwDnldFlag stream (p + n) packets q) :
      Packets bFwDnldFlag stream p (Memory.slice (fun j => stream (p + j)) n :: packets) q

/-- The stream is read, not changed. -/
theorem read_stream :
    (w.phTmlNfcI2cRead pDevHandle bFwDnldFlag c).2.stream = w.stream := by
  have hheader : (w.readHeader bFwDnldFlag c).2.stream = w.stream := by
    unfold readHeader
    dsimp only
    split_ifs
    · rfl
    · rfl
    · rfl
    · rfl
  have hpayload : ∀ (w : Wire) (n : ℕ), (w.readPayload bFwDnldFlag c n).2.stream = w.stream := by
    intro w n
    unfold readPayload
    dsimp only
    split_ifs
    · rfl
    · rfl
    · rfl
  unfold phTmlNfcI2cRead
  split
  · rfl
  · cases c.select with
    | error => rfl
    | timeout => rfl
    | ready =>
      dsimp only
      rcases hread : w.readHeader bFwDnldFlag c with ⟨_ | numRead, w'⟩
      · rw [hread] at hheader
        exact hheader
      · rw [hread] at hheader
        exact (hpayload w' numRead).trans hheader

/-- From the start of a packet on, undisturbed calls return the packets of the stream in order,
none left out and none cut. -/
theorem reads_packets {cs : List I2cCall} (h : Undisturbed pDevHandle bFwDnldFlag cs w) :
    Packets bFwDnldFlag w.stream w.pos (reads pDevHandle bFwDnldFlag cs w).1
      (reads pDevHandle bFwDnldFlag cs w).2.pos := by
  induction cs generalizing w with
  | nil => exact .nil _
  | cons c cs ih =>
    obtain ⟨hwhole, hfails, hcs⟩ := h
    have hdelivers := delivers_of_readsWhole hwhole
    have hstream : (w.phTmlNfcI2cRead pDevHandle bFwDnldFlag c).2.stream = w.stream := read_stream
    unfold Delivers at hdelivers
    rw [reads]
    rcases hread : w.phTmlNfcI2cRead pDevHandle bFwDnldFlag c with ⟨_ | n, w'⟩
    · -- the call failed, and the next one starts at the same packet
      rw [hread] at hfails hcs hstream
      have hrest := ih hcs
      rw [hfails rfl, hstream] at hrest
      exact hrest
    · rw [hread] at hcs hstream hdelivers
      have hpos : 0 < n := by
        obtain ⟨m, w'', hread', hm, -⟩ := read_of_returns
          (returns_of_some (w := w) (n := n) (c := c) (by rw [hread]))
        have heq : n = m := by simpa [hread] using congrArg Prod.fst hread'
        have hheader := lenOffset_lt bFwDnldFlag
        omega
      obtain ⟨hbytes, hend, hlen⟩ := hdelivers n hpos rfl
      have hrest := ih hcs
      rw [hend, hstream] at hrest
      have hpacket : w'.pBuffer.slice n = Memory.slice (fun j => w.stream (w.pos + j)) n :=
        Memory.slice_congr hbytes
      dsimp only
      rw [hpacket]
      exact .cons hlen hrest

end Wire

end AliceHal.Pn54x.Tml
