import Mathlib

/-!
# Cyclic Redundancy Codes

The remainder of a polynomial division, bit by bit and most significant bit first, for any width
and any polynomial. The division is linear, so a table of the remainders of short messages does
several bits at a time.

- `Crc.shift`, `Crc.feed`: one bit, and a message
- `Crc.feed_xor`: linearity
- `Crc.feed_leading`: a remainder that meets its own leading bits is only shifted
- `Crc.feed_of_leading`: the rule behind the table
- `Crc.feed_self`, `Crc.feed_complement`: a remainder followed by itself leaves nothing, followed
  by its complement a constant
- `Crc.feed_injective`, `Crc.burst_detected`: a change that is no longer than the remainder changes
  it
-/

namespace Lib

namespace Crc

variable {w : ℕ} (poly : BitVec w)

/-- One bit of the message: the bit that leaves the remainder is compared with it. -/
def shift (c : BitVec w) (b : Bool) : BitVec w :=
  if c.msb ^^ b then (c <<< 1) ^^^ poly else c <<< 1

/-- A message. -/
def feed (c : BitVec w) (bits : List Bool) : BitVec w := bits.foldl (shift poly) c

/-- The first `k` bits of a remainder. -/
def leading (k : ℕ) (c : BitVec w) : List Bool := (List.range k).map c.getMsbD

variable {poly} {c d : BitVec w} {bits bits' : List Bool}

theorem feed_append : feed poly c (bits ++ bits') = feed poly (feed poly c bits) bits' :=
  List.foldl_append

/-- The sum of two steps. -/
theorem shift_xor (b b' : Bool) :
    shift poly (c ^^^ d) (b ^^ b') = shift poly c b ^^^ shift poly d b' := by
  have hmsb : ((c ^^^ d).msb ^^ (b ^^ b')) = ((c.msb ^^ b) ^^ (d.msb ^^ b')) := by
    rw [BitVec.msb_xor]
    cases c.msb <;> cases d.msb <;> cases b <;> cases b' <;> rfl
  have hshift : (c ^^^ d) <<< 1 = (c <<< 1) ^^^ (d <<< 1) := BitVec.shiftLeft_xor_distrib c d 1
  have hself : poly ^^^ poly = 0#w := BitVec.xor_self
  unfold shift
  rw [hmsb, hshift]
  cases c.msb ^^ b with
  | false =>
    cases d.msb ^^ b' with
    | false => rfl
    | true => simp [BitVec.xor_assoc]
  | true =>
    cases d.msb ^^ b' with
    | false =>
      simp only [Bool.xor_false, if_true, Bool.false_eq_true, if_false]
      rw [BitVec.xor_assoc, BitVec.xor_assoc, BitVec.xor_comm poly]
    | true =>
      -- both steps add the polynomial, and it cancels
      simp only [Bool.xor_self, Bool.false_eq_true, if_false, if_true]
      rw [BitVec.xor_assoc (c <<< 1), ← BitVec.xor_assoc poly, BitVec.xor_comm poly,
        BitVec.xor_assoc (d <<< 1), hself, BitVec.xor_zero]

/-- Linearity: messages of one length are added bit by bit. -/
theorem feed_xor (h : bits.length = bits'.length) :
    feed poly (c ^^^ d) (List.zipWith Bool.xor bits bits') =
      feed poly c bits ^^^ feed poly d bits' := by
  induction bits generalizing c d bits' with
  | nil =>
    rw [List.length_nil] at h
    rw [List.length_eq_zero_iff.1 h.symm]
    rfl
  | cons b bits ih =>
    cases bits' with
    | nil => cases h
    | cons b' bits' =>
      simp only [List.zipWith_cons_cons, feed, List.foldl_cons, shift_xor]
      exact ih (Nat.succ.inj h)

/-- The bit that leaves is the one that comes: nothing is added. -/
theorem shift_msb : shift poly c c.msb = c <<< 1 := by
  rw [shift, Bool.xor_self]
  rfl

/-- A remainder that meets its own leading bits is only shifted. -/
theorem feed_leading (k : ℕ) : feed poly c (leading k c) = c <<< k := by
  induction k with
  | zero => simp [feed, leading]
  | succ k ih =>
    have hmsb : (c <<< k).msb = c.getMsbD k := by
      rw [BitVec.msb, BitVec.getMsbD_shiftLeft, Nat.zero_add]
    rw [leading, List.range_succ, List.map_append, feed_append, ← leading, ih]
    simp only [List.map_cons, List.map_nil, feed, List.foldl_cons, List.foldl_nil]
    rw [← hmsb, shift_msb, ← BitVec.shiftLeft_add]

/-- The rule behind the table: `k` bits at once, by the remainder of what they add to the leading
bits. -/
theorem feed_of_leading (c : BitVec w) (bits : List Bool) :
    feed poly c bits =
      (c <<< bits.length) ^^^ feed poly 0#w (List.zipWith Bool.xor (leading bits.length c) bits) := by
  have hlen : (leading bits.length c).length =
      (List.zipWith Bool.xor (leading bits.length c) bits).length := by
    simp [leading]
  have hbits : List.zipWith Bool.xor (leading bits.length c)
      (List.zipWith Bool.xor (leading bits.length c) bits) = bits := by
    apply List.ext_getElem
    · simp [leading]
    · intro i _ _
      simp [leading]
  have hsum : feed poly (c ^^^ 0#w) _ = _ ^^^ feed poly 0#w _ := feed_xor hlen
  rw [hbits, feed_leading, BitVec.xor_zero] at hsum
  exact hsum

/-- A remainder followed by itself leaves nothing. -/
theorem feed_self (c : BitVec w) : feed poly c (leading w c) = 0#w := by
  rw [feed_leading]
  apply BitVec.shiftLeft_eq_zero
  exact le_rfl

/-- A remainder followed by its complement leaves what does not depend on it. -/
theorem feed_complement (c : BitVec w) :
    feed poly c (leading w (~~~c)) = feed poly 0#w (leading w (BitVec.allOnes w)) := by
  have hbits : leading w (~~~c) =
      List.zipWith Bool.xor (leading w c) (leading w (BitVec.allOnes w)) := by
    apply List.ext_getElem
    · simp [leading]
    · intro i hi _
      have hlt : i < w := by simpa [leading] using hi
      simp [leading, hlt]
  have hsum : feed poly (c ^^^ 0#w)
      (List.zipWith Bool.xor (leading w c) (leading w (BitVec.allOnes w))) =
        feed poly c (leading w c) ^^^ feed poly 0#w (leading w (BitVec.allOnes w)) :=
    feed_xor (by simp [leading])
  rw [BitVec.xor_zero, ← hbits, feed_self, BitVec.zero_xor] at hsum
  exact hsum

/-! ## What a remainder detects -/

/-- A polynomial with a constant term keeps every bit of the remainder: the lowest bit of the next
one says whether the polynomial was added. -/
theorem shift_injective (hpoly : poly.getLsbD 0 = true) (b : Bool) :
    Function.Injective (fun c => shift poly c b) := by
  intro c d h
  simp only at h
  have hw : 0 < w := BitVec.lt_of_getLsbD hpoly
  -- the lowest bit after the step is the bit that was compared
  have hlow : ∀ e : BitVec w, (shift poly e b).getLsbD 0 = (e.msb ^^ b) := by
    intro e
    unfold shift
    cases e.msb ^^ b <;> simp [hpoly]
  have hadded : (c.msb ^^ b) = (d.msb ^^ b) := by rw [← hlow c, ← hlow d, h]
  have hmsb : c.msb = d.msb := by
    cases b <;> simpa using hadded
  have hrest : c <<< 1 = d <<< 1 := by
    unfold shift at h
    rw [← hadded] at h
    cases hcb : c.msb ^^ b with
    | false => simpa [hcb] using h
    | true =>
      rw [hcb, if_pos rfl, if_pos rfl] at h
      simpa using h
  apply BitVec.eq_of_getMsbD_eq
  intro i hi
  cases i with
  | zero => exact hmsb
  | succ i =>
    have hbit := congrArg (fun e : BitVec w => e.getMsbD i) hrest
    simpa [BitVec.getMsbD_shiftLeft, Nat.add_comm] using hbit

/-- A message keeps different remainders apart. -/
theorem feed_injective (hpoly : poly.getLsbD 0 = true) (bits : List Bool) :
    Function.Injective (fun c => feed poly c bits) := by
  induction bits with
  | nil => exact fun _ _ h => h
  | cons b bits ih => exact fun _ _ h => shift_injective hpoly b (ih h)

/-- Zeros leave the remainder zero. -/
theorem feed_zeros (k : ℕ) : feed poly 0#w (List.replicate k false) = 0#w := by
  induction k with
  | zero => rfl
  | succ k ih =>
    have hstep : shift poly 0#w false = 0#w := by simp [shift]
    rw [List.replicate_succ, feed, List.foldl_cons, hstep]
    exact ih

/-- Some remainder has the given leading bits, and zeros after them. -/
theorem exists_leading {bits : List Bool} (h : bits.length ≤ w) :
    ∃ c : BitVec w, leading bits.length c = bits ∧ c <<< bits.length = 0#w := by
  refine ⟨(BitVec.ofBoolListBE bits).setWidth w <<< (w - bits.length), ?_, ?_⟩
  · apply List.ext_getElem
    · simp [leading]
    · intro i hi _
      have hlt : i < bits.length := by simpa [leading] using hi
      simp only [leading, List.getElem_map, List.getElem_range, BitVec.getMsbD_shiftLeft,
        BitVec.getMsbD_setWidth, BitVec.getMsbD_ofBoolListBE]
      have hindex : i + (w - bits.length) + bits.length - w = i := by omega
      simp [hindex, hlt]
  · rw [← BitVec.shiftLeft_add, Nat.sub_add_cancel h]
    exact BitVec.shiftLeft_eq_zero le_rfl

/-- A message no longer than the remainder is zero if it leaves nothing. -/
theorem eq_zeros_of_feed (hpoly : poly.getLsbD 0 = true) (hlen : bits.length ≤ w)
    (h : feed poly 0#w bits = 0#w) : bits = List.replicate bits.length false := by
  obtain ⟨c, hleading, hshift⟩ := exists_leading hlen
  -- the message is cancelled by its own bits in the remainder
  have hself : feed poly c bits = 0#w := by
    have hfeed : feed poly c (leading bits.length c) = c <<< bits.length :=
      feed_leading bits.length
    rwa [hleading, hshift] at hfeed
  have hsum : feed poly c bits = feed poly c (List.replicate bits.length false) ^^^
      feed poly 0#w bits := by
    have hxor : feed poly (c ^^^ 0#w) (List.zipWith Bool.xor (List.replicate bits.length false)
        bits) = _ := feed_xor (by simp)
    rw [BitVec.xor_zero] at hxor
    rw [← hxor]
    congr 1
    apply List.ext_getElem <;> simp
  have hzero : feed poly c (List.replicate bits.length false) = feed poly 0#w
      (List.replicate bits.length false) := by
    rw [hself, h, BitVec.xor_zero] at hsum
    rw [← hsum, feed_zeros]
  have hc : c = 0#w := feed_injective hpoly _ hzero
  rw [hc] at hleading
  rw [← hleading]
  apply List.ext_getElem <;> simp [leading]

/-- Two messages that differ in a burst no longer than the remainder have different remainders. -/
theorem burst_detected (hpoly : poly.getLsbD 0 = true) {before burst burst' after : List Bool}
    (hlen : burst.length = burst'.length) (hle : burst.length ≤ w)
    (h : feed poly c (before ++ burst ++ after) = feed poly c (before ++ burst' ++ after)) :
    burst = burst' := by
  simp only [feed_append] at h
  have hburst : feed poly (feed poly c before) burst = feed poly (feed poly c before) burst' :=
    feed_injective hpoly after h
  -- the sum of the bursts leaves nothing
  have hsum : feed poly 0#w (List.zipWith Bool.xor burst burst') = 0#w := by
    have hxor : feed poly (feed poly c before ^^^ feed poly c before)
        (List.zipWith Bool.xor burst burst') =
          feed poly (feed poly c before) burst ^^^ feed poly (feed poly c before) burst' :=
      feed_xor hlen
    rwa [hburst, BitVec.xor_self, BitVec.xor_self] at hxor
  have hzip : (List.zipWith Bool.xor burst burst').length = burst.length := by
    simp [hlen]
  have hzeros := eq_zeros_of_feed hpoly (hzip.trans_le hle) hsum
  apply List.ext_getElem hlen
  intro i hi hi'
  have hbit := congrArg (fun l => l[i]?) hzeros
  simpa [hi, hi', hzip] using hbit

end Crc

end Lib
