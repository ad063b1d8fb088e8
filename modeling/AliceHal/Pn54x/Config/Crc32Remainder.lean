import AliceHal.Lib.Crc
import AliceHal.Pn54x.Config.Modified

/-!
# What the Checksum of a Configuration Detects

`sparse_crc32` takes the polynomial backwards: the remainder stands mirrored in the register, each
byte goes in from its lowest bit on, and the rounds shift to the right. Mirrored again it is the
division bit by bit, so the check for a changed configuration sees every change that is confined to
four bytes in a row.

- `sentBits`, `crc32Poly`: the bits of a byte in this order, and the polynomial
- `crc32Round_eq`: one round of the loop is eight bits
- `sparseCrc32_eq`: the whole loop, buffers in pieces, and the residue
- `isNxpConfigModified_iff_burst`: when a small change between the stamp and the check is seen
-/

namespace AliceHal.Pn54x.Config

open Lib

/-- The bits of a byte, least significant first. -/
def sentBits (b : UInt8) : List Bool := Crc.leading 8 b.toBitVec.reverse

/-- The polynomial of the table, highest-order term first, without X³². -/
def crc32Poly : BitVec 32 := 0x04c11db7#32

/-- The table, compared with the mirrored remainders of all bytes at once. -/
theorem crc32Tab_toList : crc32Tab.toList.map UInt32.toBitVec =
    (List.range 256).map fun i =>
      (Crc.feed crc32Poly 0#32 (sentBits (UInt8.ofNat i))).reverse := by
  decide +kernel

/-- Every entry of the table is the mirrored remainder of its index. -/
theorem crc32Tab_getD (b : UInt8) :
    (crc32Tab.getD b.toNat 0).toBitVec = (Crc.feed crc32Poly 0#32 (sentBits b)).reverse := by
  have hlt : b.toNat < 256 := b.toNat_lt
  have hsize : b.toNat < crc32Tab.size := by
    have hlength := congrArg List.length crc32Tab_toList
    rw [List.length_map, List.length_map, List.length_range, Array.length_toList] at hlength
    rwa [hlength]
  have hentry := congrArg (fun l => l[b.toNat]?) crc32Tab_toList
  simp only [List.getElem?_map, List.getElem?_range hlt, Option.map_some, UInt8.ofNat_toNat,
    Array.getElem?_toList, Array.getElem?_eq_getElem hsize] at hentry
  rw [Array.getD, dif_pos hsize]
  exact Option.some.inj hentry

/-! ## One round -/

/-- The index that a round looks up, as a byte. -/
def crc32Index (crc : UInt32) (b : UInt8) : UInt8 := crc.toUInt8 ^^^ b

/-- The round computes it in 32 bits. -/
theorem crc32Index_toNat (crc : UInt32) (b : UInt8) :
    ((crc ^^^ b.toUInt32) &&& 0xff).toNat = (crc32Index crc b).toNat := by
  have hmask : ∀ n : ℕ, n &&& 255 = n % 2 ^ 8 := fun n => Nat.and_two_pow_sub_one_eq_mod n 8
  rw [UInt32.toNat_and]
  simp only [UInt32.toNat_ofNat]
  rw [hmask, UInt32.toNat_xor, Nat.xor_mod_two_pow, crc32Index, UInt8.toNat_xor]
  simp

/-- The low byte of the register holds the leading bits of the remainder. -/
theorem sentBits_crc32Index (crc : UInt32) (b : UInt8) :
    sentBits (crc32Index crc b) =
      List.zipWith Bool.xor (Crc.leading 8 crc.toBitVec.reverse) (sentBits b) := by
  apply List.ext_getElem
  · simp [sentBits, Crc.leading]
  · intro i hi _
    have hlt : i < 8 := by simpa [sentBits, Crc.leading] using hi
    simp [sentBits, Crc.leading, crc32Index, BitVec.getMsbD_reverse, hlt]

/-- A shift to the right of the mirrored remainder is a shift to the left. -/
theorem reverse_ushiftRight {w : ℕ} (c : BitVec w) (k : ℕ) :
    (c >>> k).reverse = c.reverse <<< k := by
  apply BitVec.eq_of_getMsbD_eq
  intro i _
  rw [BitVec.getMsbD_reverse, BitVec.getMsbD_shiftLeft, BitVec.getMsbD_reverse,
    BitVec.getLsbD_ushiftRight, Nat.add_comm]

theorem reverse_not {w : ℕ} (c : BitVec w) : (~~~c).reverse = ~~~c.reverse := by
  apply BitVec.eq_of_getMsbD_eq
  intro i hi
  rw [BitVec.getMsbD_reverse, BitVec.getMsbD_not, BitVec.getLsbD_not, BitVec.getMsbD_reverse]

theorem reverse_xor {w : ℕ} (c d : BitVec w) : (c ^^^ d).reverse = c.reverse ^^^ d.reverse := by
  apply BitVec.eq_of_getMsbD_eq
  intro i _
  simp [BitVec.getMsbD_reverse]

/-- One round of the loop is eight bits of the division. -/
theorem crc32Round_eq (crc : UInt32) (b : UInt8) :
    (crc32Round crc b).toBitVec.reverse =
      Crc.feed crc32Poly crc.toBitVec.reverse (sentBits b) := by
  have hlen : (sentBits b).length = 8 := by simp [sentBits, Crc.leading]
  rw [Crc.feed_of_leading, hlen, ← sentBits_crc32Index, crc32Round, crc32Index_toNat,
    UInt32.toBitVec_xor, crc32Tab_getD, reverse_xor, BitVec.reverse_reverse_eq, BitVec.xor_comm,
    UInt32.toBitVec_shiftRight]
  congr 1
  exact reverse_ushiftRight crc.toBitVec 8

/-! ## The loop -/

/-- The rounds from any register on. -/
theorem foldl_crc32Round (crc : UInt32) (buf : List UInt8) :
    (buf.foldl crc32Round crc).toBitVec.reverse =
      Crc.feed crc32Poly crc.toBitVec.reverse (buf.flatMap sentBits) := by
  induction buf generalizing crc with
  | nil => rfl
  | cons b buf ih =>
    rw [List.foldl_cons, ih, crc32Round_eq, List.flatMap_cons, Crc.feed_append]

/-- The remainder before the last complement, mirrored. -/
def crc32Remainder (crcIn : UInt32) (buf : List UInt8) : BitVec 32 :=
  Crc.feed crc32Poly (~~~crcIn.toBitVec).reverse (buf.flatMap sentBits)

theorem sparseCrc32_toBitVec (crcIn : UInt32) (buf : List UInt8) :
    (sparseCrc32 crcIn buf).toBitVec = ~~~(crc32Remainder crcIn buf).reverse := by
  have hones : ∀ c : UInt32, (c ^^^ 0xffffffff).toBitVec = ~~~c.toBitVec := by
    intro c
    rw [UInt32.toBitVec_xor, BitVec.not_def, BitVec.xor_comm]
    rfl
  have hloop := foldl_crc32Round (crcIn ^^^ 0xffffffff) buf
  rw [hones] at hloop
  rw [sparseCrc32, hones, crc32Remainder, ← hloop, BitVec.reverse_reverse_eq]

/-- A buffer in two pieces. -/
theorem sparseCrc32_append (crcIn : UInt32) (buf rest : List UInt8) :
    sparseCrc32 (sparseCrc32 crcIn buf) rest = sparseCrc32 crcIn (buf ++ rest) := by
  -- the last complement of the first piece and the first one of the second cancel
  unfold sparseCrc32
  rw [List.foldl_append, UInt32.xor_assoc, UInt32.xor_self, UInt32.xor_zero]

/-- The checksum as it is sent, low byte first. -/
def sentBytes (crc : UInt32) : List UInt8 :=
  [crc.toUInt8, (crc >>> 8).toUInt8, (crc >>> 16).toUInt8, (crc >>> 24).toUInt8]

/-- The bits go out from the highest-order term to the lowest. -/
theorem flatMap_sentBytes (crc : UInt32) :
    (sentBytes crc).flatMap sentBits = Crc.leading 32 crc.toBitVec.reverse := by
  have hsplit : List.range 32 = (List.range 8).map (0 + ·) ++ ((List.range 8).map (8 + ·) ++
      ((List.range 8).map (16 + ·) ++ (List.range 8).map (24 + ·))) := rfl
  have hbyte : ∀ (k : ℕ) (c : UInt32), c.toBitVec = crc.toBitVec >>> k →
      sentBits c.toUInt8 = ((List.range 8).map (k + ·)).map crc.toBitVec.reverse.getMsbD := by
    intro k c hc
    rw [List.map_map, sentBits, Crc.leading]
    apply List.map_congr_left
    intro i hi
    have hlt : i < 8 := List.mem_range.1 hi
    simp [BitVec.getMsbD_reverse, hc, hlt]
  rw [Crc.leading, hsplit]
  simp only [List.map_append, sentBytes, List.flatMap_cons, List.flatMap_nil, List.append_nil]
  rw [hbyte 0 crc rfl, hbyte 8 (crc >>> 8) rfl, hbyte 16 (crc >>> 16) rfl,
    hbyte 24 (crc >>> 24) rfl]

/-- The checksum of a buffer is the complement of the division's remainder, taken backwards. A
buffer may be summed up in pieces, and a buffer that is followed by its own checksum, low byte
first, has a checksum that does not depend on it. -/
theorem sparseCrc32_eq (crcIn : UInt32) (buf : List UInt8) :
    (sparseCrc32 crcIn buf).toBitVec = ~~~(Crc.feed crc32Poly (~~~crcIn.toBitVec).reverse
        (buf.flatMap sentBits)).reverse ∧
      (∀ rest, sparseCrc32 (sparseCrc32 crcIn buf) rest = sparseCrc32 crcIn (buf ++ rest)) ∧
      sparseCrc32 crcIn (buf ++ sentBytes (sparseCrc32 crcIn buf)) = 0x2144df1c := by
  refine ⟨sparseCrc32_toBitVec crcIn buf, sparseCrc32_append crcIn buf, ?_⟩
  have hsent : (sparseCrc32 crcIn buf).toBitVec.reverse = ~~~crc32Remainder crcIn buf := by
    rw [sparseCrc32_toBitVec, reverse_not, BitVec.reverse_reverse_eq]
  have hrest : crc32Remainder crcIn (buf ++ sentBytes (sparseCrc32 crcIn buf)) =
      Crc.feed crc32Poly 0#32 (Crc.leading 32 (BitVec.allOnes 32)) := by
    rw [crc32Remainder, List.flatMap_append, Crc.feed_append, flatMap_sentBytes, hsent,
      ← crc32Remainder, Crc.feed_complement]
  apply UInt32.toBitVec_inj.1
  rw [sparseCrc32_toBitVec, hrest]
  decide +kernel

/-! ## Small changes -/

theorem length_flatMap_sentBits (buf : List UInt8) :
    (buf.flatMap sentBits).length = 8 * buf.length := by
  induction buf with
  | nil => rfl
  | cons b buf ih =>
    have hbyte : (sentBits b).length = 8 := by simp [sentBits, Crc.leading]
    simp only [List.flatMap_cons, List.length_append, ih, hbyte, List.length_cons]
    omega

theorem sentBits_injective : Function.Injective sentBits := by
  intro a b h
  apply UInt8.toBitVec_inj.1
  apply BitVec.eq_of_getLsbD_eq
  intro i hi
  have hbit := congrArg (fun l => l[i]?) h
  simpa [sentBits, Crc.leading, hi, BitVec.getMsbD_reverse] using hbit

/-- The bits determine the bytes. -/
theorem flatMap_sentBits_injective : Function.Injective (List.flatMap sentBits) := by
  intro a b h
  induction a generalizing b with
  | nil =>
    have hlen := congrArg List.length h
    rw [length_flatMap_sentBits, length_flatMap_sentBits, List.length_nil] at hlen
    exact (List.length_eq_zero_iff.1 (by omega)).symm
  | cons x a ih =>
    cases b with
    | nil =>
      have hlen := congrArg List.length h
      rw [length_flatMap_sentBits, length_flatMap_sentBits] at hlen
      simp at hlen
    | cons y b =>
      have hlen : (sentBits x).length = (sentBits y).length := by simp [sentBits, Crc.leading]
      rw [List.flatMap_cons, List.flatMap_cons] at h
      obtain ⟨hbyte, hrest⟩ := List.append_inj h hlen
      rw [sentBits_injective hbyte, ih hrest]

/-- Files that differ in four bytes in a row have different checksums. -/
theorem eq_of_sparseCrc32_burst {crcIn : UInt32} {before burst burst' after : List UInt8}
    (hlen : burst.length = burst'.length) (hle : burst.length ≤ 4)
    (h : sparseCrc32 crcIn (before ++ burst ++ after) =
      sparseCrc32 crcIn (before ++ burst' ++ after)) : burst = burst' := by
  have hremainder : crc32Remainder crcIn (before ++ burst ++ after) =
      crc32Remainder crcIn (before ++ burst' ++ after) := by
    have hbits := congrArg (fun c : UInt32 => (~~~c.toBitVec).reverse) h
    simpa only [sparseCrc32_toBitVec, BitVec.not_not, BitVec.reverse_reverse_eq] using hbits
  apply flatMap_sentBits_injective
  simp only [crc32Remainder, List.flatMap_append] at hremainder
  have hpoly : crc32Poly.getLsbD 0 = true := rfl
  apply Crc.burst_detected hpoly _ _ hremainder
  · rw [length_flatMap_sentBits, length_flatMap_sentBits, hlen]
  · rw [length_flatMap_sentBits]
    omega

/-! ## The check -/

variable {w : ℕ}

/-- Without the timestamp file nothing was stamped. -/
theorem stampedFile_of_no_stamp (crc : List UInt8 → UInt32) (calls : List ConfigCall)
    {s : World w} (h : s.stamp = none → s.history.stampedFile = none) :
    (runCalls crc calls s).stamp = none →
      (runCalls crc calls s).history.stampedFile = none := by
  induction calls generalizing s with
  | nil => exact h
  | cons call calls ih =>
    apply ih
    have hkeep : ∀ main, (s.getInstance crc main).history.stampedFile = s.history.stampedFile := by
      intro main
      unfold World.getInstance
      split_ifs <;> rfl
    cases call with
    | restart => exact h
    | getInstance main =>
      intro hnone
      exact (hkeep main).trans (h hnone)
    | readOptionalConfig main extra =>
      intro hnone
      rw [ConfigCall.apply, World.readOptionalConfig]
      simp only
      split_ifs <;> exact (hkeep main).trans (h hnone)
    | resetNxpConfig main =>
      intro hnone
      exact (hkeep main).trans (h hnone)
    | updateNxpConfigTimestamp main write =>
      intro hnone
      cases write with
      | notOpened => exact (hkeep main).trans (h hnone)
      | written | emptied => cases hnone

/-- In every run the check sees a change that is confined to four bytes in a row, wherever these
stand in the file, and only such a change, unless it cannot open the timestamp file: the file whose
checksum was stamped is compared with the one that is loaded last at the check. -/
theorem isNxpConfigModified_iff_burst (calls : List ConfigCall) (main : Option (List UInt8))
    (opened : Bool) (s : World w) (before burst burst' after : List UInt8)
    (hs : s = runCalls (sparseCrc32 0) calls .init)
    (hstamped : s.history.stampedFile = some (before ++ burst ++ after))
    (hlast : (s.getInstance (sparseCrc32 0) main).history.lastFile =
      some (before ++ burst' ++ after))
    (hlen : burst.length = burst'.length) (hle : burst.length ≤ 4) :
    s.isNxpConfigModified (sparseCrc32 0) main opened = true ↔ opened = false ∨ burst ≠ burst' := by
  have htracks : Tracks (sparseCrc32 0) s := by
    rw [hs]
    exact Tracks.init.run calls
  -- a file was stamped, so the timestamp file exists
  have hstamp : s.stamp ≠ none := by
    intro hnone
    rw [hs] at hnone hstamped
    rw [stampedFile_of_no_stamp _ calls (fun _ => rfl) hnone] at hstamped
    cases hstamped
  have hcrc : sparseCrc32 0 (before ++ burst ++ after) = sparseCrc32 0 (before ++ burst' ++ after) ↔
      burst = burst' := by
    constructor
    · exact eq_of_sparseCrc32_burst hlen hle
    · rintro rfl
      rfl
  rw [isNxpConfigModified_iff htracks, hstamped, hlast, or_iff_right hstamp]
  simp only [checksum, ne_eq, hcrc]

/-- Two bytes of a setting are changed before the next process looks. -/
theorem mainFileCalls_burst :
    (runCalls (w := 64) (sparseCrc32 0) mainFileCalls .init).isNxpConfigModified (sparseCrc32 0)
      (some (ascii "B=2\n")) true = true := by
  refine (isNxpConfigModified_iff_burst mainFileCalls (some (ascii "B=2\n")) true _ []
    (ascii "A=1") (ascii "B=2") (ascii "\n") rfl ?_ ?_ rfl ?_).2 (.inr ?_)
  · decide +kernel
  · decide +kernel
  · decide
  · decide

end AliceHal.Pn54x.Config
