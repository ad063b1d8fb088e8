import AliceHal.Lib.Crc
import AliceHal.Pn54x.PhDnldNfc.Crc16

/-!
# The CRC of the Download Protocol is CCITT

The table-driven `phDnldNfc_CalcCrc16` against the division bit by bit, and what follows for a
message that ends with its own CRC.

- `ccitt`: the division, with the polynomial and the initial value of CCITT
- `aCrcTab_toList`, `aCrcTab_getD`: the table holds the remainders of the bytes
- `crcRound_eq`: one round of the loop is eight bits
- `calcCrc16_ccitt`: the whole loop, and the residue
-/

namespace AliceHal.Pn54x.PhDnldNfc

open Lib

/-- The bits of a byte, most significant first. -/
def byteBits (b : UInt8) : List Bool := Crc.leading 8 b.toBitVec

/-- x¹⁶ + x¹² + x⁵ + 1, without its first term. -/
def ccittPoly : BitVec 16 := 0x1021#16

/-- The CRC bit by bit, from `0xFFFF` on, without a final exclusive or. -/
def ccitt (message : List UInt8) : BitVec 16 :=
  Crc.feed ccittPoly 0xffff#16 (message.flatMap byteBits)

/-- The table, compared with the remainders of all bytes at once. -/
theorem aCrcTab_toList : aCrcTab.toList.map UInt16.toBitVec =
    (List.range 256).map fun i => Crc.feed ccittPoly 0#16 (byteBits (UInt8.ofNat i)) := by
  decide +kernel

/-- Every entry of the table is the remainder of its index. -/
theorem aCrcTab_getD (b : UInt8) :
    (aCrcTab.getD b.toNat 0).toBitVec = Crc.feed ccittPoly 0#16 (byteBits b) := by
  have hlt : b.toNat < 256 := b.toNat_lt
  have hsize : b.toNat < aCrcTab.size := by
    have hlength := congrArg List.length aCrcTab_toList
    rw [List.length_map, List.length_map, List.length_range, Array.length_toList] at hlength
    rwa [hlength]
  have hentry := congrArg (fun l => l[b.toNat]?) aCrcTab_toList
  simp only [List.getElem?_map, List.getElem?_range hlt, Option.map_some, UInt8.ofNat_toNat,
    Array.getElem?_toList, Array.getElem?_eq_getElem hsize] at hentry
  rw [Array.getD, dif_pos hsize]
  exact Option.some.inj hentry

/-! ## One round -/

/-- The index that a round looks up, as a byte. -/
def tableIndex (wCrc : UInt16) (b : UInt8) : UInt8 := (wCrc >>> 8).toUInt8 ^^^ b

/-- The round computes it in 16 bits. -/
theorem tableIndex_toNat (wCrc : UInt16) (b : UInt8) :
    ((wCrc >>> 8) ^^^ (0x00ff &&& b.toUInt16)).toNat = (tableIndex wCrc b).toNat := by
  have hb : (0x00ff &&& b.toUInt16).toNat = b.toNat := by
    rw [UInt16.toNat_and, UInt8.toNat_toUInt16, Nat.and_comm]
    exact Nat.and_two_pow_sub_one_of_lt_two_pow (n := 8) b.toNat_lt
  have hw : (wCrc >>> 8).toNat < 256 := by
    have hlt := wCrc.toNat_lt
    simp [Nat.shiftRight_eq_div_pow]
    omega
  rw [tableIndex, UInt16.toNat_xor, UInt8.toNat_xor, hb, UInt16.toNat_toUInt8, Nat.mod_eq_of_lt hw]

/-- The high byte holds the leading bits. -/
theorem getMsbD_shiftRight_eight (c : UInt16) {i : ℕ} (h : i < 8) :
    (c >>> 8).toUInt8.toBitVec.getMsbD i = c.toBitVec.getMsbD i := by
  have hle : i < 16 := by omega
  have hsub : 8 + (7 - i) = 15 - i := by omega
  simp [BitVec.getMsbD, h, hle, hsub]
  omega

/-- The low byte holds the others. -/
theorem getMsbD_loByte (c : UInt16) {i : ℕ} (h : i < 8) :
    (loByte c.toNat).toBitVec.getMsbD i = c.toBitVec.getMsbD (8 + i) := by
  have hle : 8 + i < 16 := by omega
  have hsub : 15 - (8 + i) = 7 - i := by omega
  simp [loByte, BitVec.getMsbD, h, hle, hsub]
  omega

theorem hiByte_eq (c : UInt16) : hiByte c.toNat = (c >>> 8).toUInt8 := by
  apply UInt8.toNat_inj.1
  simp [hiByte]

/-- What the message adds to the leading bits. -/
theorem byteBits_tableIndex (wCrc : UInt16) (b : UInt8) :
    byteBits (tableIndex wCrc b) =
      List.zipWith Bool.xor (Crc.leading 8 wCrc.toBitVec) (byteBits b) := by
  apply List.ext_getElem
  · simp [byteBits, Crc.leading]
  · intro i hi _
    have hlt : i < 8 := by simpa [byteBits, Crc.leading] using hi
    have hbit := getMsbD_shiftRight_eight wCrc hlt
    simp only [byteBits, Crc.leading, List.getElem_zipWith, List.getElem_map, List.getElem_range,
      tableIndex, UInt8.toBitVec_xor, BitVec.getMsbD_xor, hbit]

/-- A remainder in big-endian order is its own leading bits. -/
theorem byteBits_hi_lo (c : UInt16) :
    byteBits (hiByte c.toNat) ++ byteBits (loByte c.toNat) = Crc.leading 16 c.toBitVec := by
  have hsplit : List.range 16 = List.range 8 ++ (List.range 8).map (8 + ·) := rfl
  rw [Crc.leading, hsplit, List.map_append, List.map_map, hiByte_eq]
  congr 1
  · apply List.map_congr_left
    intro i hi
    exact getMsbD_shiftRight_eight c (List.mem_range.1 hi)
  · apply List.map_congr_left
    intro i hi
    exact getMsbD_loByte c (List.mem_range.1 hi)

/-- One round of the loop is eight bits of the division. -/
theorem crcRound_eq (wCrc : UInt16) (b : UInt8) :
    (crcRound wCrc b).toBitVec = Crc.feed ccittPoly wCrc.toBitVec (byteBits b) := by
  have hlen : (byteBits b).length = 8 := by simp [byteBits, Crc.leading]
  rw [Crc.feed_of_leading, hlen, ← byteBits_tableIndex, ← aCrcTab_getD, ← tableIndex_toNat]
  rfl

/-! ## The loop -/

/-- The rounds from any remainder on. -/
theorem foldl_crcRound (wCrc : UInt16) (message : List UInt8) :
    (message.foldl crcRound wCrc).toBitVec =
      Crc.feed ccittPoly wCrc.toBitVec (message.flatMap byteBits) := by
  induction message generalizing wCrc with
  | nil => rfl
  | cons b message ih =>
    rw [List.foldl_cons, ih, crcRound_eq, List.flatMap_cons, Crc.feed_append]

theorem calcCrc16_toBitVec (message : List UInt8) :
    (calcCrc16 message message.length).toBitVec = ccitt message := by
  rw [calcCrc16, List.take_length, foldl_crcRound]
  rfl

/-- `phDnldNfc_CalcCrc16` is the CRC of CCITT, and a message that is followed by its own CRC in
big-endian order has the CRC zero. -/
theorem calcCrc16_ccitt (message : List UInt8) :
    (calcCrc16 message message.length).toBitVec = ccitt message ∧
    calcCrc16 (message ++ [hiByte (calcCrc16 message message.length).toNat,
      loByte (calcCrc16 message message.length).toNat]) (message.length + 2) = 0 := by
  refine ⟨calcCrc16_toBitVec message, ?_⟩
  set wCrc := calcCrc16 message message.length with hcrc
  have hresidue := calcCrc16_toBitVec (message ++ [hiByte wCrc.toNat, loByte wCrc.toNat])
  have hbits : ccitt (message ++ [hiByte wCrc.toNat, loByte wCrc.toNat]) =
      Crc.feed ccittPoly wCrc.toBitVec (Crc.leading 16 wCrc.toBitVec) := by
    have hself := calcCrc16_toBitVec message
    rw [← hcrc] at hself
    rw [ccitt, List.flatMap_append, Crc.feed_append, ← ccitt, ← hself, ← byteBits_hi_lo]
    simp
  rw [hbits, Crc.feed_self, List.length_append] at hresidue
  exact UInt16.toBitVec_inj.1 hresidue

end AliceHal.Pn54x.PhDnldNfc
