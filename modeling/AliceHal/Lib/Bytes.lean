import Mathlib

/-!
# Byte Buffers and 16-bit Words

Memory as a list of bytes, and 16-bit machine words as natural numbers with explicit
wrap-around.

- **Words**: `hiByte`, `loByte` and `be16` split and join a 16-bit word in big-endian order;
  `add16` and `sub16` are addition and subtraction modulo `2^16`.
- **Memory**: `store` is a `memcpy` to an address, `readAt` one from an address and `byteAt` a
  read of one byte.
- **Buffers**: `Buffer n` is an array of `n` bytes; `Buffer.overwrite` stores into it and never
  changes its size.
-/

namespace Lib

/-! ## Words -/

/-- High byte of a 16-bit word. -/
def hiByte (n : Nat) : UInt8 := UInt8.ofNat (n >>> 8)

/-- Low byte of a 16-bit word. -/
def loByte (n : Nat) : UInt8 := UInt8.ofNat n

/-- The word with the given high and low byte. -/
def be16 (hi lo : UInt8) : Nat := (hi.toNat <<< 8) ||| lo.toNat

/-- Addition of 16-bit words. -/
def add16 (a b : Nat) : Nat := (a + b) % 65536

/-- Subtraction of 16-bit words. -/
def sub16 (a b : Nat) : Nat := (a + (65536 - b % 65536)) % 65536

theorem be16_eq (hi lo : UInt8) : be16 hi lo = hi.toNat * 256 + lo.toNat := by
  have hlo : lo.toNat < 2 ^ 8 := UInt8.toNat_lt lo
  rw [be16, ← Nat.shiftLeft_add_eq_or_of_lt hlo, Nat.shiftLeft_eq]

/-- Joining the two bytes of a word gives the word back. -/
theorem be16_hiByte_loByte {n : Nat} (h : n < 65536) : be16 (hiByte n) (loByte n) = n := by
  rw [be16_eq, hiByte, loByte, Nat.shiftRight_eq_div_pow]
  simp only [UInt8.toNat_ofNat']
  omega

theorem hiByte_be16 (hi lo : UInt8) : hiByte (be16 hi lo) = hi := by
  have hhi := UInt8.toNat_lt hi
  have hlo := UInt8.toNat_lt lo
  apply UInt8.toNat_inj.1
  rw [be16_eq, hiByte, Nat.shiftRight_eq_div_pow, UInt8.toNat_ofNat']
  omega

theorem loByte_be16 (hi lo : UInt8) : loByte (be16 hi lo) = lo := by
  have hhi := UInt8.toNat_lt hi
  have hlo := UInt8.toNat_lt lo
  apply UInt8.toNat_inj.1
  rw [be16_eq, loByte, UInt8.toNat_ofNat']
  omega

theorem add16_of_lt {a b : Nat} (h : a + b < 65536) : add16 a b = a + b :=
  Nat.mod_eq_of_lt h

theorem sub16_of_le {a b : Nat} (hb : b ≤ a) (ha : a < 65536) : sub16 a b = a - b := by
  unfold sub16
  omega

/-! ## Memory -/

/-- Memory after `src` has been stored at offset `off`. -/
def store (mem : List UInt8) (off : Nat) (src : List UInt8) : List UInt8 :=
  mem.take off ++ src ++ mem.drop (off + src.length)

/-- The `n` bytes of `mem` from offset `off` on. -/
def readAt (mem : List UInt8) (off n : Nat) : List UInt8 := (mem.drop off).take n

/-- One byte of `mem`; memory that is not there reads as zero. -/
def byteAt (mem : List UInt8) (i : Nat) : UInt8 := mem.getD i 0

theorem length_readAt {mem : List UInt8} {off n : Nat} (h : off + n ≤ mem.length) :
    (readAt mem off n).length = n := by
  simp only [readAt, List.length_take, List.length_drop]
  omega

/-- Reading inside the middle part of a concatenation. -/
theorem readAt_append (pre mid post : List UInt8) :
    readAt (pre ++ mid ++ post) pre.length mid.length = mid := by
  simp [readAt, List.append_assoc]

theorem byteAt_append_right (l l' : List UInt8) (i : Nat) :
    byteAt (l ++ l') (l.length + i) = byteAt l' i := by
  simp [byteAt, List.getElem?_append_right]

theorem byteAt_take {l : List UInt8} {i n : Nat} (h : i < n) : byteAt (l.take n) i = byteAt l i := by
  simp [byteAt, List.getElem?_take_of_lt h]

/-- The bytes of `a` and `b` are the same as far as both go. -/
def Agrees (a b : List UInt8) : Prop := a.take b.length = b.take a.length

instance (a b : List UInt8) : Decidable (Agrees a b) := inferInstanceAs (Decidable (_ = _))

/-! ## Buffers of fixed size -/

/-- An array of `n` bytes. -/
structure Buffer (n : Nat) where
  bytes : List UInt8
  length_bytes : bytes.length = n
  deriving DecidableEq, Repr

namespace Buffer

variable {n : Nat}

/-- A buffer after `memset`. -/
def zero (n : Nat) : Buffer n := ⟨List.replicate n 0, List.length_replicate⟩

/-- Store `src` at offset `off`; bytes past the end of the buffer are cut off. -/
def overwrite (mem : Buffer n) (off : Nat) (src : List UInt8) : Buffer n where
  bytes := (store mem.bytes off src).take n
  length_bytes := by
    have h := mem.length_bytes
    simp only [store, List.length_take, List.length_append, List.length_drop]
    omega

/-- What was stored is read back, with everything in front of it unchanged. -/
theorem take_overwrite (mem : Buffer n) (src : List UInt8) {off : Nat}
    (h : off + src.length ≤ n) :
    (mem.overwrite off src).bytes.take (off + src.length) = mem.bytes.take off ++ src := by
  have hmem := mem.length_bytes
  have hoff : (mem.bytes.take off).length = off := by simp; omega
  have hlen : (mem.bytes.take off ++ src).length = off + src.length := by simp [hoff]
  simp only [overwrite, store]
  rw [List.take_take, Nat.min_eq_left h, ← hlen, List.take_left]

/-- A store at the front of the buffer is its new prefix. -/
theorem take_overwrite_zero (mem : Buffer n) {src : List UInt8} (h : src.length ≤ n) :
    (mem.overwrite 0 src).bytes.take src.length = src := by
  have htake := mem.take_overwrite src (by rwa [Nat.zero_add])
  rwa [Nat.zero_add, List.take_zero, List.nil_append] at htake

/-- A store at the front leaves what follows it. -/
theorem take_overwrite_front (mem : Buffer n) (src : List UInt8) {k : Nat}
    (h : src.length + k ≤ n) :
    (mem.overwrite 0 src).bytes.take (src.length + k) =
      src ++ (mem.bytes.drop src.length).take k := by
  simp only [overwrite, store, List.take_zero, List.nil_append, Nat.zero_add]
  rw [List.take_take, Nat.min_eq_left h, List.take_length_add_append]

/-- What was stored is found at its offset. -/
theorem readAt_overwrite (mem : Buffer n) {src : List UInt8} {off : Nat}
    (h : off + src.length ≤ n) : readAt (mem.overwrite off src).bytes off src.length = src := by
  have htake := mem.take_overwrite src h
  have hmem := mem.length_bytes
  rw [readAt, List.take_drop, htake]
  exact List.drop_left' (by simp; omega)

/-- Bytes stored at the front of a cleared buffer read as in memory, where memory that is not
there is zero. -/
theorem byteAt_zero_overwrite {src : List UInt8} {i : Nat} (hi : i < n) :
    byteAt ((zero n).overwrite 0 src).bytes i = byteAt src i := by
  simp only [byteAt, overwrite, store, zero, List.take_zero, List.nil_append, Nat.zero_add,
    List.drop_replicate, List.getD_eq_getElem?_getD, List.getElem?_take_of_lt hi]
  by_cases hs : i < src.length
  · rw [List.getElem?_append_left hs]
  · rw [List.getElem?_append_right (by omega), List.getElem?_replicate,
      List.getElem?_eq_none (by omega)]
    split <;> rfl

/-- A store at the front leaves a prefix as it was if and only if it agrees with it. -/
theorem take_overwrite_eq_iff {n k : Nat} (mem : Buffer n) {src : List UInt8} (h : src.length ≤ n) :
    (mem.overwrite 0 src).bytes.take k = mem.bytes.take k ↔ Agrees src (mem.bytes.take k) := by
  have hlen := mem.length_bytes
  have hstore : (mem.overwrite 0 src).bytes = src ++ mem.bytes.drop src.length := by
    simp only [Buffer.overwrite, store, List.take_zero, List.nil_append, Nat.zero_add]
    exact List.take_of_length_le (by simp; omega)
  have hsplit : mem.bytes.take k = (mem.bytes.take src.length).take k ++
      (mem.bytes.drop src.length).take (k - src.length) := by
    conv_lhs => rw [← List.take_append_drop src.length mem.bytes, List.take_append]
    rw [List.length_take, hlen, Nat.min_eq_left h]
  have hsrc : src.take (min k n) = src.take k := by
    rcases Nat.le_total k n with hkn | hkn
    · rw [Nat.min_eq_left hkn]
    · rw [Nat.min_eq_right hkn, List.take_of_length_le h, List.take_of_length_le (h.trans hkn)]
  rw [hstore, List.take_append, Agrees, List.length_take, hlen, hsrc, List.take_take,
    Nat.min_comm src.length k, ← List.take_take]
  conv_lhs => rw [hsplit]
  rw [List.append_cancel_right_eq]

end Buffer

end Lib
