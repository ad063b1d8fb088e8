import AliceHal.Pn54x.PhDnldNfc.Frame

/-!
# The Memory a Response Touches

What `phDnldNfc_ProcessFrame` and `phDnldNfc_UpdateRsp` read of a received frame, what they store
in the caller's buffer, and the lengths they compute in 16 bits. The frame comes from the chip: its
length is trusted, and the length of the caller's buffer is never compared with it.

- `Accesses`: ranges read and stored, and lengths before they are cut to 16 bits
- `processFrameAccesses`: those of a frame, branch by branch as in `processFrame`
- `processFrame_stores`: what is stored is what changes in the caller's buffer
- `InBounds`: the frames that are handled within bounds
- `safe_iff`: these are exactly the safe ones
-/

namespace AliceHal.Pn54x.PhDnldNfc

open Lib

/-! ## Accesses -/

/-- Ranges of the frame that are read, by first index and number of bytes; ranges of the caller's
buffer that are written; and the values of the 16-bit length computations, as integers. -/
structure Accesses where
  read : List (ℤ × ℕ)
  stored : List (ℕ × ℕ)
  lengths : List ℤ

namespace Accesses

/-- One after the other. -/
def append (a b : Accesses) : Accesses :=
  ⟨a.read ++ b.read, a.stored ++ b.stored, a.lengths ++ b.lengths⟩

/-- Nothing is touched. -/
def nothing : Accesses := ⟨[], [], []⟩

/-- Only bytes of a frame of `n` bytes are read, at most `given` bytes of the caller's buffer are
written, and no length wraps. -/
structure Safe (a : Accesses) (n given : ℕ) : Prop where
  read : ∀ r ∈ a.read, ∀ k < r.2, 0 ≤ r.1 + k ∧ r.1 + k < n
  stored : ∀ s ∈ a.stored, s.1 + s.2 ≤ given
  lengths : ∀ l ∈ a.lengths, 0 ≤ l ∧ l < 65536

variable {a b : Accesses} {n given : ℕ}

theorem safe_append : (a.append b).Safe n given ↔ a.Safe n given ∧ b.Safe n given := by
  constructor
  · intro h
    exact ⟨⟨fun r hr => h.read r (List.mem_append_left _ hr),
        fun s hs => h.stored s (List.mem_append_left _ hs),
        fun l hl => h.lengths l (List.mem_append_left _ hl)⟩,
      ⟨fun r hr => h.read r (List.mem_append_right _ hr),
        fun s hs => h.stored s (List.mem_append_right _ hs),
        fun l hl => h.lengths l (List.mem_append_right _ hl)⟩⟩
  · rintro ⟨ha, hb⟩
    exact ⟨fun r hr => (List.mem_append.1 hr).elim (ha.read r) (hb.read r),
      fun s hs => (List.mem_append.1 hs).elim (ha.stored s) (hb.stored s),
      fun l hl => (List.mem_append.1 hl).elim (ha.lengths l) (hb.lengths l)⟩

theorem safe_nothing : nothing.Safe n given :=
  ⟨fun _ hr => absurd hr List.not_mem_nil, fun _ hs => absurd hs List.not_mem_nil,
    fun _ hl => absurd hl List.not_mem_nil⟩

end Accesses

/-- The counters of a write, as `updateRspWrite` moves them for the status byte `st`. -/
def updateRspWriteLengths (st : UInt8) (rw : RWInfo) : List ℤ :=
  if st = PhDlStatus.ok then
    if rw.bFirstChunkResp = true then
      if rw.bFramesSegmented = false then
        [rw.wRemChunkBytes - rw.wBytesToSendRecv, rw.wRemBytes - rw.wBytesToSendRecv,
          rw.wOffset + rw.wBytesToSendRecv]
      else []
    else [rw.wRemBytes - rw.wBytesToSendRecv, rw.wOffset + rw.wBytesToSendRecv]
  else if rw.bFirstChunkResp = false ∧ rw.bFramesSegmented = true ∧ st = firstFragFrameResp then
    [rw.wRemChunkBytes - rw.wBytesToSendRecv,
      rw.wRemBytes - (rw.wBytesToSendRecv + frameHdrLen), rw.wOffset + rw.wBytesToSendRecv]
  else if rw.bFirstChunkResp = true ∧ rw.bFramesSegmented = true ∧ st = nextFragFrameResp then
    [rw.wRemChunkBytes - rw.wBytesToSendRecv, rw.wRemBytes - rw.wBytesToSendRecv,
      rw.wOffset + rw.wBytesToSendRecv]
  else []

/-- The length a read response carries. -/
def readLength (pBuff : List UInt8) : ℕ :=
  be16 (byteAt pBuff (frameHdrLen + 3)) (byteAt pBuff (frameHdrLen + 2))

/-- The caller gave a response buffer. -/
def DlContext.wantsResponse (ctx : DlContext) : Prop :=
  ctx.tRspBuffInfo.wLen ≠ 0 ∧ ctx.tRspBuffInfo.pBuff ≠ none

instance (ctx : DlContext) : Decidable ctx.wantsResponse := inferInstanceAs (Decidable (_ ∧ _))

/-- What `phDnldNfc_UpdateRsp` touches. -/
def updateRspAccesses (ctx : DlContext) (pBuff : List UInt8) (wPldLen : ℕ) : Accesses :=
  let st := byteAt pBuff frameHdrLen
  let rw := ctx.tRWInfo
  let status : Accesses := ⟨[(frameHdrLen, 1)], [], []⟩
  if ctx.tCmdId = .write then status.append ⟨[], [], updateRspWriteLengths st rw⟩
  else if ctx.tCmdId = .read then
    if st = PhDlStatus.ok then
      let length : Accesses := ⟨[(frameHdrLen + 3, 1), (frameHdrLen + 2, 1)], [], []⟩
      if readLength pBuff ≠ rw.wBytesToSendRecv then status.append length
      else
        (status.append length).append
          ⟨[(frameHdrLen + minPldLen, readLength pBuff)], [(rw.wOffset, readLength pBuff)],
            [rw.wBytesRead + readLength pBuff, rw.wRemBytes - rw.wBytesToSendRecv,
              rw.wOffset + rw.wBytesToSendRecv]⟩
    else status
  else if st = PhDlStatus.ok then
    if ctx.wantsResponse then
      status.append ⟨[(frameHdrLen + 1, wPldLen)], [(0, wPldLen)], []⟩
    else status
  else status

/-- The CRC at the end of a frame of `wLength` bytes is the one of the bytes before it. -/
def CrcMatches (pBuff : List UInt8) (wLength : ℕ) : Prop :=
  be16 (byteAt pBuff (sub16 wLength 2)) (byteAt pBuff (sub16 wLength 1)) =
    (calcCrc16 pBuff (sub16 wLength frameCrcLen)).toNat

instance (pBuff : List UInt8) (wLength : ℕ) : Decidable (CrcMatches pBuff wLength) :=
  inferInstanceAs (Decidable (_ = _))

/-- The length field of a frame is the length it was received with. -/
def LengthMatches (pBuff : List UInt8) (wLength : ℕ) : Prop :=
  be16 (byteAt pBuff 0) (byteAt pBuff 1) = sub16 wLength (frameHdrLen + frameCrcLen)

instance (pBuff : List UInt8) (wLength : ℕ) : Decidable (LengthMatches pBuff wLength) :=
  inferInstanceAs (Decidable (_ = _))

/-- What `phDnldNfc_ProcessFrame` touches. The CRC is looked for at `wLength - 2`, an index that
does not wrap. -/
def processFrameAccesses (ctx : DlContext) (pInfo : Option TransactInfo) : Accesses :=
  match pInfo with
  | none => .nothing
  | some info =>
    match info.pBuff with
    | none => .nothing
    | some pBuff =>
      if info.wStatus ≠ NFCSTATUS.success ∨ info.wLength = 0 then .nothing
      else if ctx.FrameInp.type = .ftRaw then
        if ctx.wantsResponse then ⟨[(0, info.wLength)], [(0, info.wLength)], []⟩ else .nothing
      else
        let crc : Accesses :=
          ⟨[(0, sub16 info.wLength frameCrcLen), (info.wLength - 2, 1), (info.wLength - 1, 1)], [],
            [info.wLength - frameCrcLen]⟩
        if CrcMatches pBuff info.wLength then
          let wPldLen := sub16 info.wLength (frameHdrLen + frameCrcLen)
          let header : Accesses :=
            ⟨[(0, 1), (1, 1)], [], [info.wLength - (frameHdrLen + frameCrcLen)]⟩
          if LengthMatches pBuff info.wLength then
            ((crc.append header).append ⟨[], [], [wPldLen - 1]⟩).append
              (updateRspAccesses ctx pBuff (sub16 wPldLen 1))
          else crc.append header
        else crc

/-! ## What is stored -/

/-- The caller's buffer after stores in these ranges: each writes at most as many bytes as the
range has, from its first index on. -/
def Stores (old new : Option (List UInt8)) : List (ℕ × ℕ) → Prop
  | [] => new = old
  | s :: ss => ∃ data : List UInt8, data.length ≤ s.2 ∧
      Stores (old.map fun mem => store mem s.1 data) new ss

theorem length_readAt_le (mem : List UInt8) (off n : ℕ) : (readAt mem off n).length ≤ n := by
  rw [readAt, List.length_take]
  exact Nat.min_le_left _ _

/-- One store of bytes that were read. -/
theorem stores_one (old : Option (List UInt8)) (mem : List UInt8) (i off n : ℕ) :
    Stores old (old.map fun buff => store buff off (readAt mem i n)) [(off, n)] :=
  ⟨readAt mem i n, length_readAt_le mem i n, rfl⟩

theorem updateRsp_stores (ctx : DlContext) (pBuff : List UInt8) (wPldLen : ℕ) :
    Stores ctx.tRspBuffInfo.pBuff (updateRsp ctx pBuff wPldLen).2.tRspBuffInfo.pBuff
      (updateRspAccesses ctx pBuff wPldLen).stored := by
  unfold updateRsp updateRspAccesses
  dsimp only
  by_cases hwrite : ctx.tCmdId = .write
  · rw [if_pos hwrite, if_pos hwrite]
    exact rfl
  · rw [if_neg hwrite, if_neg hwrite]
    by_cases hread : ctx.tCmdId = .read
    · rw [if_pos hread, if_pos hread]
      by_cases hst : byteAt pBuff frameHdrLen = PhDlStatus.ok
      · rw [if_pos hst, if_pos hst]
        by_cases hlen : readLength pBuff ≠ ctx.tRWInfo.wBytesToSendRecv
        · rw [if_pos hlen, if_pos (by exact hlen)]
          exact rfl
        · rw [if_neg hlen, if_neg (by exact hlen)]
          exact stores_one _ _ _ _ _
      · rw [if_neg hst, if_neg hst]
        exact rfl
    · rw [if_neg hread, if_neg hread]
      by_cases hst : byteAt pBuff frameHdrLen = PhDlStatus.ok
      · rw [if_pos hst, if_pos hst]
        by_cases hwants : ctx.wantsResponse
        · rw [if_pos hwants, if_pos (by exact hwants)]
          exact stores_one _ _ _ _ _
        · rw [if_neg hwants, if_neg (by exact hwants)]
          exact rfl
      · rw [if_neg hst, if_neg hst]
        exact rfl

/-- The ranges written are those in which the caller's buffer changes. -/
theorem processFrame_stores (ctx : DlContext) (pInfo : Option TransactInfo) :
    Stores ctx.tRspBuffInfo.pBuff (processFrame ctx pInfo).2.tRspBuffInfo.pBuff
      (processFrameAccesses ctx pInfo).stored := by
  unfold processFrame processFrameAccesses
  cases pInfo with
  | none => exact rfl
  | some info =>
    dsimp only
    cases info.pBuff with
    | none => exact rfl
    | some pBuff =>
      dsimp only
      by_cases hfailed : info.wStatus ≠ NFCSTATUS.success ∨ info.wLength = 0
      · rw [if_pos hfailed, if_pos hfailed]
        exact rfl
      · rw [if_neg hfailed, if_neg hfailed]
        by_cases hraw : ctx.FrameInp.type = .ftRaw
        · rw [if_pos hraw, if_pos hraw]
          by_cases hwants : ctx.wantsResponse
          · rw [if_pos hwants, if_pos (by exact hwants)]
            exact stores_one _ _ _ _ _
          · rw [if_neg hwants, if_neg (by exact hwants)]
            exact rfl
        · rw [if_neg hraw, if_neg hraw]
          by_cases hcrc : CrcMatches pBuff info.wLength
          · rw [if_pos hcrc, if_pos (by exact hcrc)]
            by_cases hlen : LengthMatches pBuff info.wLength
            · rw [if_pos hlen, if_neg (not_not_intro (by exact hlen))]
              exact updateRsp_stores ctx pBuff _
            · rw [if_neg hlen, if_pos (by exact hlen)]
              exact rfl
          · rw [if_neg hcrc, if_neg (by exact hcrc)]
            exact rfl

/-! ## Frames within bounds -/

/-- A frame of at least five bytes, whose CRC and length match: what `phDnldNfc_UpdateRsp` reads
of it is there, and what it stores fits. -/
def ResponseInBounds (ctx : DlContext) (given : ℕ) (frame : List UInt8) : Prop :=
  let st := byteAt frame frameHdrLen
  let rw := ctx.tRWInfo
  if ctx.tCmdId = .write then ∀ l ∈ updateRspWriteLengths st rw, 0 ≤ l ∧ l < 65536
  else if ctx.tCmdId = .read then
    st = PhDlStatus.ok → 6 ≤ frame.length ∧
      (readLength frame = rw.wBytesToSendRecv →
        readLength frame + 6 ≤ frame.length ∧ rw.wOffset + readLength frame ≤ given ∧
        rw.wBytesToSendRecv ≤ rw.wRemBytes ∧ rw.wRemBytes < 65536 + rw.wBytesToSendRecv ∧
        rw.wBytesRead + readLength frame < 65536 ∧ rw.wOffset + rw.wBytesToSendRecv < 65536)
  else st = PhDlStatus.ok → ctx.wantsResponse → frame.length ≤ given + 5

/-- A raw response is at most as long as the buffer for it. Any other frame has two bytes for a
CRC; if it matches, two more for the length; and if that matches, one for the status. -/
def InBounds (ctx : DlContext) (given : ℕ) (frame : List UInt8) : Prop :=
  if ctx.FrameInp.type = .ftRaw then ctx.wantsResponse → frame.length ≤ given
  else
    2 ≤ frame.length ∧ (CrcMatches frame frame.length →
      4 ≤ frame.length ∧ (LengthMatches frame frame.length →
        5 ≤ frame.length ∧ ResponseInBounds ctx given frame))

variable {ctx : DlContext} {given : ℕ} {frame : List UInt8}

/-- One byte is read at `i`. -/
theorem safe_byte {i n : ℕ} : (⟨[(i, 1)], [], []⟩ : Accesses).Safe n given ↔ i < n := by
  constructor
  · intro h
    have hread := h.read _ List.mem_cons_self 0 Nat.one_pos
    omega
  · intro h
    constructor
    · intro r hr k hk
      rw [List.mem_singleton.1 hr] at hk ⊢
      dsimp only at hk ⊢
      omega
    · exact fun _ hs => absurd hs List.not_mem_nil
    · exact fun _ hl => absurd hl List.not_mem_nil

/-- The bytes of a read response are copied, and the counters moved. -/
theorem safe_copyRead {n i off len read rem sent : ℕ} (hn : i ≤ n) :
    (⟨[(i, len)], [(off, len)], [(read + len : ℤ), (rem - sent : ℤ), (off + sent : ℤ)]⟩ :
      Accesses).Safe n given ↔
      len + i ≤ n ∧ off + len ≤ given ∧ sent ≤ rem ∧ rem < 65536 + sent ∧ read + len < 65536 ∧
        off + sent < 65536 := by
  constructor
  · intro h
    have hstored := h.stored (off, len) List.mem_cons_self
    have hread := h.lengths (read + len : ℤ) (by simp)
    have hrem := h.lengths (rem - sent : ℤ) (by simp)
    have hoff := h.lengths (off + sent : ℤ) (by simp)
    refine ⟨?_, hstored, by omega, by omega, by omega, by omega⟩
    -- the last byte that is read
    by_contra hlong
    have hlast := h.read (i, len) List.mem_cons_self (len - 1) (by dsimp only; omega)
    dsimp only at hlast
    omega
  · rintro ⟨hlen, hstored, hrem, hrem', hread, hoff⟩
    constructor
    · intro r hr k hk
      rw [List.mem_singleton.1 hr] at hk ⊢
      dsimp only at hk ⊢
      omega
    · intro s hs
      rw [List.mem_singleton.1 hs]
      exact hstored
    · intro l hl
      simp only [List.mem_cons, List.not_mem_nil, or_false] at hl
      rcases hl with rfl | rfl | rfl
      · omega
      · omega
      · omega

/-- The response part. -/
theorem updateRsp_safe (hlen : 5 ≤ frame.length) :
    (updateRspAccesses ctx frame (frame.length - 5)).Safe frame.length given ↔
      ResponseInBounds ctx given frame := by
  have hstatus : (⟨[(frameHdrLen, 1)], [], []⟩ : Accesses).Safe frame.length given :=
    safe_byte.2 (by simp only [frameHdrLen]; omega)
  unfold updateRspAccesses ResponseInBounds
  dsimp only
  by_cases hwrite : ctx.tCmdId = .write
  · -- a write response moves the counters
    rw [if_pos hwrite, if_pos hwrite, Accesses.safe_append]
    constructor
    · intro h
      exact h.2.lengths
    · intro h
      exact ⟨hstatus, by simp, by simp, h⟩
  · rw [if_neg hwrite, if_neg hwrite]
    by_cases hread : ctx.tCmdId = .read
    · rw [if_pos hread, if_pos hread]
      by_cases hst : byteAt frame frameHdrLen = PhDlStatus.ok
      · rw [if_pos hst]
        -- the two bytes of the length
        have hlength : (⟨[((frameHdrLen : ℤ) + 3, 1), ((frameHdrLen : ℤ) + 2, 1)], [], []⟩ :
            Accesses).Safe frame.length given ↔ 6 ≤ frame.length := by
          have hsplit : (Accesses.append ⟨[((5 : ℕ), 1)], [], []⟩ ⟨[((4 : ℕ), 1)], [], []⟩).Safe
              frame.length given ↔ _ ∧ _ := Accesses.safe_append
          rw [safe_byte, safe_byte] at hsplit
          exact hsplit.trans ⟨fun h => h.1, fun h => ⟨h, by omega⟩⟩
        by_cases hother : readLength frame ≠ ctx.tRWInfo.wBytesToSendRecv
        · rw [if_pos hother, Accesses.safe_append, hlength]
          exact ⟨fun h _ => ⟨h.2, fun heq => absurd heq hother⟩, fun h => ⟨hstatus, (h hst).1⟩⟩
        · rw [if_neg hother, Accesses.safe_append, Accesses.safe_append, hlength]
          have heq := not_not.1 hother
          constructor
          · rintro ⟨⟨-, hsix⟩, hcopy⟩ _
            exact ⟨hsix, fun _ => (safe_copyRead (i := 6) hsix).1 hcopy⟩
          · intro h
            obtain ⟨hsix, hcopy⟩ := h hst
            exact ⟨⟨hstatus, hsix⟩, (safe_copyRead (i := 6) hsix).2 (hcopy heq)⟩
      · rw [if_neg hst]
        exact ⟨fun _ h => absurd h hst, fun _ => hstatus⟩
    · rw [if_neg hread, if_neg hread]
      by_cases hst : byteAt frame frameHdrLen = PhDlStatus.ok
      · rw [if_pos hst]
        by_cases hwants : ctx.wantsResponse
        · -- the payload after the status goes to the caller
          rw [if_pos hwants, Accesses.safe_append]
          constructor
          · intro h _ _
            have hstored := h.2.stored (0, frame.length - 5) List.mem_cons_self
            dsimp only at hstored
            omega
          · intro h
            have hfit := h hst hwants
            refine ⟨hstatus, fun r hr k hk => ?_, fun s hs => ?_,
              fun _ hl => absurd hl List.not_mem_nil⟩
            · rw [List.mem_singleton.1 hr] at hk ⊢
              simp only [frameHdrLen] at hk ⊢
              omega
            · rw [List.mem_singleton.1 hs]
              dsimp only
              omega
        · rw [if_neg hwants]
          exact ⟨fun _ _ h => absurd h hwants, fun _ => hstatus⟩
      · rw [if_neg hst]
        exact ⟨fun _ h => absurd h hst, fun _ => hstatus⟩

/-- The CRC needs two bytes: with one, it is looked for before the frame. -/
theorem safe_crc {n : ℕ} (hpos : 1 ≤ n) (hmax : n ≤ 259) :
    (⟨[(0, sub16 n frameCrcLen), ((n : ℤ) - 2, 1), ((n : ℤ) - 1, 1)], [],
      [(n : ℤ) - frameCrcLen]⟩ : Accesses).Safe n given ↔ 2 ≤ n := by
  constructor
  · intro h
    have hlength := h.lengths ((n : ℤ) - frameCrcLen) List.mem_cons_self
    simp only [frameCrcLen, frameHdrLen] at hlength
    omega
  · intro h
    have hsub : sub16 n frameCrcLen = n - 2 := sub16_of_le h (by omega)
    rw [hsub]
    constructor
    · intro r hr k hk
      simp only [List.mem_cons, List.not_mem_nil, or_false] at hr
      rcases hr with rfl | rfl | rfl
      · dsimp only at hk ⊢
        omega
      · dsimp only at hk ⊢
        omega
      · dsimp only at hk ⊢
        omega
    · exact fun _ hs => absurd hs List.not_mem_nil
    · intro l hl
      rw [List.mem_singleton.1 hl]
      simp only [frameCrcLen, frameHdrLen]
      omega

/-- One length. -/
theorem safe_length {l : ℤ} {n : ℕ} :
    (⟨[], [], [l]⟩ : Accesses).Safe n given ↔ 0 ≤ l ∧ l < 65536 := by
  constructor
  · intro h
    exact h.lengths l List.mem_cons_self
  · intro h
    refine ⟨fun _ hr => absurd hr List.not_mem_nil, fun _ hs => absurd hs List.not_mem_nil,
      fun l' hl => ?_⟩
    rw [List.mem_singleton.1 hl]
    exact h

/-- The header needs two bytes more: without them, the length of the payload wraps. -/
theorem safe_header {n : ℕ} (hmax : n ≤ 259) :
    (⟨[(0, 1), (1, 1)], [], [(n : ℤ) - (frameHdrLen + frameCrcLen)]⟩ : Accesses).Safe n given ↔
      4 ≤ n := by
  have hbytes : (Accesses.append ⟨[((0 : ℕ), 1)], [], []⟩ ⟨[((1 : ℕ), 1)], [], []⟩).Safe n given ↔
      _ ∧ _ := Accesses.safe_append
  have hsplit : (Accesses.append ⟨[((0 : ℕ), 1), ((1 : ℕ), 1)], [], []⟩
      ⟨[], [], [(n : ℤ) - (frameHdrLen + frameCrcLen)]⟩).Safe n given ↔ _ ∧ _ :=
    Accesses.safe_append
  rw [safe_byte, safe_byte] at hbytes
  rw [safe_length] at hsplit
  refine hsplit.trans ⟨fun h => ?_, fun h => ⟨hbytes.2 (by omega), ?_⟩⟩
  · have hlength := h.2
    simp only [frameCrcLen, frameHdrLen] at hlength
    omega
  · simp only [frameCrcLen, frameHdrLen]
    omega

/-- A received frame is handled within bounds if and only if it is as `InBounds` says. -/
theorem safe_iff (ctx : DlContext) (given : ℕ) (frame : List UInt8) (wStatus : NFCSTATUS)
    (hpos : 1 ≤ frame.length) (hmax : frame.length ≤ 259) :
    (processFrameAccesses ctx (some ⟨wStatus, some frame, frame.length⟩)).Safe frame.length given ↔
      (wStatus = NFCSTATUS.success → InBounds ctx given frame) := by
  unfold processFrameAccesses InBounds
  dsimp only
  by_cases hstatus : wStatus = NFCSTATUS.success
  · have hpresent : ¬(wStatus ≠ NFCSTATUS.success ∨ frame.length = 0) := by
      rintro (h | h)
      · exact h hstatus
      · omega
    rw [if_neg hpresent]
    by_cases hraw : ctx.FrameInp.type = .ftRaw
    · rw [if_pos hraw, if_pos hraw]
      by_cases hwants : ctx.wantsResponse
      · -- all of the frame goes to the caller
        rw [if_pos hwants]
        constructor
        · intro h _ _
          have hstored := h.stored (0, frame.length) List.mem_cons_self
          simpa using hstored
        · intro h
          refine ⟨fun r hr k hk => ?_, fun s hs => ?_, fun _ hl => absurd hl List.not_mem_nil⟩
          · rw [List.mem_singleton.1 hr] at hk ⊢
            dsimp only at hk ⊢
            omega
          · rw [List.mem_singleton.1 hs]
            simpa using h hstatus hwants
      · rw [if_neg hwants]
        exact ⟨fun _ _ h => absurd h hwants, fun _ => Accesses.safe_nothing⟩
    · rw [if_neg hraw, if_neg hraw]
      by_cases hcrc : CrcMatches frame frame.length
      · rw [if_pos hcrc]
        by_cases hlen : LengthMatches frame frame.length
        · rw [if_pos hlen, Accesses.safe_append, Accesses.safe_append, Accesses.safe_append,
            safe_crc hpos hmax, safe_header hmax, safe_length]
          constructor
          · rintro ⟨⟨⟨htwo, hfour⟩, hpld⟩, hrsp⟩ _
            have hsub : sub16 frame.length (frameHdrLen + frameCrcLen) = frame.length - 4 :=
              sub16_of_le hfour (by omega)
            rw [hsub] at hpld hrsp
            have hfive : 5 ≤ frame.length := by omega
            have hsub' : sub16 (frame.length - 4) 1 = frame.length - 5 :=
              sub16_of_le (by omega) (by omega)
            rw [hsub'] at hrsp
            exact ⟨htwo, fun _ => ⟨hfour, fun _ => ⟨hfive, (updateRsp_safe hfive).1 hrsp⟩⟩⟩
          · intro h
            obtain ⟨htwo, hrest⟩ := h hstatus
            obtain ⟨hfour, hrest⟩ := hrest hcrc
            obtain ⟨hfive, hrsp⟩ := hrest hlen
            have hsub : sub16 frame.length (frameHdrLen + frameCrcLen) = frame.length - 4 :=
              sub16_of_le hfour (by omega)
            have hsub' : sub16 (frame.length - 4) 1 = frame.length - 5 :=
              sub16_of_le (by omega) (by omega)
            rw [hsub, hsub']
            exact ⟨⟨⟨htwo, hfour⟩, by omega⟩, (updateRsp_safe hfive).2 hrsp⟩
        · rw [if_neg hlen, Accesses.safe_append, safe_crc hpos hmax, safe_header hmax]
          exact ⟨fun h _ => ⟨h.1, fun _ => ⟨h.2, fun hno => absurd hno hlen⟩⟩,
            fun h => ⟨(h hstatus).1, ((h hstatus).2 hcrc).1⟩⟩
      · rw [if_neg hcrc, safe_crc hpos hmax]
        exact ⟨fun h _ => ⟨h, fun hno => absurd hno hcrc⟩, fun h => (h hstatus).1⟩
  · rw [if_pos (.inl hstatus)]
    exact ⟨fun _ h => absurd h hstatus, fun _ => Accesses.safe_nothing⟩

/-- A request for the version, with a response buffer of four bytes. -/
def versionRequest : DlContext :=
  { DlContext.zero with tCmdId := .getVersion, tRspBuffInfo := ⟨some [0, 0, 0, 0], 4⟩ }

/-- A response with the status and one byte more. -/
theorem version_safe :
    (processFrameAccesses versionRequest
      (some ⟨NFCSTATUS.success, some [0, 2, 0, 7, 0x9A, 0x47], 6⟩)).Safe 6 4 := by
  refine (safe_iff versionRequest 4 [0, 2, 0, 7, 0x9A, 0x47] NFCSTATUS.success (by decide)
    (by decide)).2 fun _ => ⟨by decide, fun _ => ⟨by decide, fun _ => ⟨by decide, ?_⟩⟩⟩
  exact fun _ _ => by decide

/-- Three bytes that pass both checks: the length of their payload wraps to 65535, and 65534 bytes
are stored. -/
theorem wrapped_not_safe :
    ¬ (processFrameAccesses versionRequest
      (some ⟨NFCSTATUS.success, some [0xFF, 0xFF, 0x00], 3⟩)).Safe 3 4 := by
  intro h
  have hstored := h.stored (0, 65534) (by decide +kernel)
  omega

end AliceHal.Pn54x.PhDnldNfc
