import AliceHal.Pn54x.PhDnldNfc.Encoding

/-!
# Segmentation of a Firmware Image

An image is a sequence of records. A record that fits a frame is sent as it stands, a longer one
in chunks of 252 bytes, all but the last with the fragmentation bit set.

- `Record`, `image`: well-formed images
- `chunkFrames`: the frames a record is to be sent in, and `Carries`, what they carry
- `ReadyAt`, `ReadyIn`: the bookkeeping before a frame is built, at the start of a record and
  inside one
- `Outstanding`: the bookkeeping while a frame waits for its response
- `build_at`, `build_in`, `acknowledge_fragment`, `acknowledge_last`: how building and the expected
  response move between them
-/

namespace AliceHal.Pn54x.PhDnldNfc

open Lib

/-! ## Images -/

/-- A record of an image: its payload, whose length fits the two-byte length field. -/
structure Record where
  payload : List UInt8
  nonempty : payload ≠ []
  length_lt : payload.length < 65536

/-- The record as it stands in the image. -/
def Record.bytes (r : Record) : List UInt8 :=
  [hiByte r.payload.length, loByte r.payload.length] ++ r.payload

/-- The image with the given records. -/
def image (recs : List Record) : List UInt8 := recs.flatMap Record.bytes

@[simp]
theorem Record.length_bytes (r : Record) : r.bytes.length = r.payload.length + 2 := by
  simp [Record.bytes]

theorem Record.length_pos (r : Record) : 0 < r.payload.length :=
  List.length_pos_iff.2 r.nonempty

@[simp]
theorem image_cons (r : Record) (recs : List Record) : image (r :: recs) = r.bytes ++ image recs :=
  rfl

theorem image_cons_ne_nil (r : Record) (recs : List Record) : image (r :: recs) ≠ [] := by
  simp [Record.bytes]

/-! ## The frames of a record -/

/-- The frames that carry a payload: chunks of 252 bytes, all but the last fragments. -/
def chunkFrames (payload : List UInt8) : List (List UInt8) :=
  if 252 < payload.length then
    wireFrame true (payload.take 252) :: chunkFrames (payload.drop 252)
  else [wireFrame false payload]
termination_by payload.length
decreasing_by simp; omega

/-- The bytes between header and CRC. -/
def framePayload (f : List UInt8) : List UInt8 := (f.drop 2).take (f.length - 4)

/-- The frames carry the record: every byte once and in order, with the fragmentation bit on
exactly the fragments that are not the last. -/
structure Carries (r : Record) (frames : List (List UInt8)) : Prop where
  payload : frames.flatMap framePayload = r.payload
  fragBits : frames.map fragBit = List.replicate (frames.length - 1) true ++ [false]
  fragmented : 1 < frames.length ↔ 252 < r.payload.length

theorem framePayload_wireFrame (frag : Bool) (payload : List UInt8) :
    framePayload (wireFrame frag payload) = payload := by
  rw [framePayload, length_wireFrame, Nat.add_sub_cancel, wireFrame, withCrc]
  simp

theorem chunkFrames_ne_nil (payload : List UInt8) : chunkFrames payload ≠ [] := by
  rw [chunkFrames]
  split <;> simp

theorem chunkFrames_payload (payload : List UInt8) :
    (chunkFrames payload).flatMap framePayload = payload := by
  induction payload using chunkFrames.induct with
  | case1 payload hlong ih =>
    rw [chunkFrames, if_pos hlong, List.flatMap_cons, framePayload_wireFrame, ih,
      List.take_append_drop]
  | case2 payload hshort =>
    rw [chunkFrames, if_neg hshort]
    simp [framePayload_wireFrame]

theorem chunkFrames_fragBits (payload : List UInt8) :
    (chunkFrames payload).map fragBit =
      List.replicate ((chunkFrames payload).length - 1) true ++ [false] := by
  induction payload using chunkFrames.induct with
  | case1 payload hlong ih =>
    have hpos := List.length_pos_iff.2 (chunkFrames_ne_nil (payload.drop 252))
    obtain ⟨n, hn⟩ : ∃ n, (chunkFrames (payload.drop 252)).length = n + 1 :=
      ⟨_, (Nat.succ_pred_eq_of_pos hpos).symm⟩
    rw [chunkFrames, if_pos hlong, List.map_cons, ih, fragBit_wireFrame true (by simp),
      List.length_cons, hn]
    rfl
  | case2 payload hshort =>
    rw [chunkFrames, if_neg hshort]
    simp [fragBit_wireFrame false (Nat.le_of_not_lt hshort)]

theorem carries_chunkFrames (r : Record) : Carries r (chunkFrames r.payload) where
  payload := chunkFrames_payload r.payload
  fragBits := chunkFrames_fragBits r.payload
  fragmented := by
    rw [chunkFrames]
    split
    · rename_i hlong
      have hpos := List.length_pos_iff.2 (chunkFrames_ne_nil (r.payload.drop 252))
      simp [hlong, hpos]
    · rename_i hshort
      simp [hshort]

/-! ## Records inside the image -/

/-- The record `r` stands at offset `off` of the image `img`. -/
structure RecordAt (img : List UInt8) (off : Nat) (r : Record) (rest : List UInt8) : Prop where
  drop : img.drop off = r.bytes ++ rest
  le : off ≤ img.length
  length_lt : img.length < 65536

namespace RecordAt

variable {img rest : List UInt8} {off : Nat} {r : Record}

theorem end_le (h : RecordAt img off r rest) :
    off + 2 + r.payload.length + rest.length = img.length := by
  have hlen := congrArg List.length h.drop
  have hle := h.le
  simp only [List.length_drop, List.length_append, Record.length_bytes] at hlen
  omega

/-- The length field is where the payload of a frame is looked up. -/
theorem header (h : RecordAt img off r rest) :
    be16 (byteAt img off) (byteAt img (off + 1)) = r.payload.length := by
  have hbyte : ∀ i, byteAt img (off + i) = byteAt (r.bytes ++ rest) i := by
    intro i
    rw [← h.drop]
    simp [byteAt, List.getElem?_drop]
  rw [← Nat.add_zero off, hbyte 0, Nat.add_zero, hbyte 1]
  exact be16_hiByte_loByte r.length_lt

/-- The whole record. -/
theorem readAt_record (h : RecordAt img off r rest) :
    readAt img off (r.payload.length + 2) = r.bytes := by
  rw [readAt, h.drop, ← r.length_bytes, List.take_left]

/-- A chunk of the record. -/
theorem readAt_chunk (h : RecordAt img off r rest) (done : Nat) :
    readAt img (off + 2 + done) (min 252 (r.payload.length - done)) =
      (r.payload.drop done).take 252 := by
  have hdrop : img.drop (off + 2 + done) = (r.payload ++ rest).drop done := by
    rw [Nat.add_assoc, ← List.drop_drop, h.drop, Record.bytes, List.append_assoc,
      ← List.drop_drop]
    rfl
  rw [readAt, hdrop]
  rcases Nat.lt_or_ge done r.payload.length with hlt | hge
  · rw [List.drop_append_of_le_length (Nat.le_of_lt hlt), List.take_append_of_le_length
      (by simp), List.take_eq_take_min (i := 252), List.length_drop]
  · rw [Nat.sub_eq_zero_of_le hge, List.drop_eq_nil_of_le hge]
    simp

end RecordAt

/-! ## Bookkeeping -/

/-- Before the first frame of the record at `off` is built. -/
structure ReadyAt (total off : Nat) (rw : RWInfo) : Prop where
  seg : rw.bFramesSegmented = false
  firstChunk : rw.bFirstChunkResp = false
  offset : rw.wOffset = off
  rem : rw.wRemBytes = total - off

/-- Before a later frame of a record of `len` bytes is built, `done` of them acknowledged. -/
structure ReadyIn (total off len done : Nat) (rw : RWInfo) : Prop where
  seg : rw.bFramesSegmented = true
  firstChunk : rw.bFirstChunkResp = true
  size : rw.wRWPldSize = len
  chunk : rw.wRemChunkBytes = len - done
  offset : rw.wOffset = off + 2 + done
  rem : rw.wRemBytes = total - (off + 2 + done)

/-- While a frame of the record waits for its response: a short record is counted with its
header, and the first fragment has moved the offset past the header but not yet the bytes
remaining. -/
structure Outstanding (total off len done : Nat) (rw : RWInfo) : Prop where
  seg : rw.bFramesSegmented = decide (252 < len - done)
  firstChunk : rw.bFirstChunkResp = decide (0 < done)
  firstWrite : 0 < done → rw.bFirstWrReq = false
  short : len ≤ 252 →
    rw.wBytesToSendRecv = len + 2 ∧ rw.wOffset = off ∧ rw.wRemBytes = total - off
  long : 252 < len →
    rw.wRWPldSize = len ∧ rw.wRemChunkBytes = len - done ∧
      rw.wBytesToSendRecv = min 252 (len - done) ∧ rw.wOffset = off + 2 + done ∧
      rw.wRemBytes = total - (if done = 0 then off else off + 2 + done)

/-- The response an NFCC gives to a frame that has been taken. -/
def ackStatus (frag later : Bool) : UInt8 :=
  if frag then (if later then nextFragFrameResp else firstFragFrameResp) else PhDlStatus.ok

/-- The expected response to a fragment leads to the next chunk of the record. -/
theorem acknowledge_fragment {total off len done : Nat} {rw : RWInfo} (ls : UInt8)
    (h : Outstanding total off len done rw) (hfrag : 252 < len - done)
    (hend : off + 2 + len ≤ total) (htotal : total < 65536) :
    let r := updateRspWrite (ackStatus true (decide (0 < done))) rw ls
    r.1 = NFCSTATUS.success ∧ ReadyIn total off len (done + 252) r.2.1 ∧
      r.2.1.bFirstWrReq = false := by
  obtain ⟨hsize, hchunk, hbytes, hoff, hrem⟩ := h.long (by omega)
  have hseg : rw.bFramesSegmented = true := by rw [h.seg]; exact decide_eq_true hfrag
  have hmin : rw.wBytesToSendRecv = 252 := by rw [hbytes]; omega
  by_cases hdone : 0 < done
  · have hfirst : rw.bFirstChunkResp = true := by rw [h.firstChunk]; exact decide_eq_true hdone
    have hwr := h.firstWrite hdone
    rw [if_neg (by omega)] at hrem
    simp only [ackStatus, hdone, decide_true, if_true, updateRspWrite, hfirst, hseg]
    rw [if_neg (by decide), if_neg (by simp), if_pos (by simp)]
    refine ⟨rfl, ⟨rfl, rfl, hsize, ?_, ?_, ?_⟩, hwr⟩
    · show sub16 _ _ = _
      rw [hchunk, hmin, sub16_of_le (by omega) (by omega)]
      omega
    · show add16 _ _ = _
      rw [hoff, hmin, add16_of_lt (by omega)]
      omega
    · show sub16 _ _ = _
      rw [hrem, hmin, sub16_of_le (by omega) (by omega)]
      omega
  · obtain rfl : done = 0 := by omega
    have hfirst : rw.bFirstChunkResp = false := by rw [h.firstChunk]; rfl
    rw [if_pos rfl] at hrem
    simp only [ackStatus, decide_false, if_true, updateRspWrite, hfirst, hseg, lt_irrefl]
    rw [if_neg (by decide), if_pos (by simp)]
    refine ⟨rfl, ⟨rfl, rfl, hsize, ?_, ?_, ?_⟩, rfl⟩
    · show sub16 _ _ = _
      rw [hchunk, hmin, sub16_of_le (by omega) (by omega)]
      omega
    · show add16 _ _ = _
      rw [hoff, hmin, add16_of_lt (by omega)]
    · show sub16 _ _ = _
      rw [hrem, hmin, frameHdrLen, sub16_of_le (by omega) (by omega)]
      omega

/-- The acknowledgement of the last frame of a record leads to the next record. -/
theorem acknowledge_last {total off len done : Nat} {rw : RWInfo} (ls : UInt8)
    (h : Outstanding total off len done rw) (hlast : ¬252 < len - done) (hdone : done < len)
    (hshort : 0 < done → 252 < len) (hend : off + 2 + len ≤ total) (htotal : total < 65536) :
    let r := updateRspWrite PhDlStatus.ok rw ls
    r.1 = NFCSTATUS.success ∧ ReadyAt total (off + 2 + len) r.2.1 ∧ r.2.1.bFirstWrReq = false := by
  have hseg : rw.bFramesSegmented = false := by rw [h.seg]; exact decide_eq_false hlast
  by_cases h0 : 0 < done
  · obtain ⟨hsize, hchunk, hbytes, hoff, hrem⟩ := h.long (hshort h0)
    have hfirst : rw.bFirstChunkResp = true := by rw [h.firstChunk]; exact decide_eq_true h0
    have hmin : rw.wBytesToSendRecv = len - done := by rw [hbytes]; omega
    rw [if_neg (by omega)] at hrem
    simp only [updateRspWrite, hfirst, hseg, if_true]
    refine ⟨trivial, ⟨rfl, rfl, ?_, ?_⟩, trivial⟩
    · show add16 _ _ = _
      rw [hoff, hmin, add16_of_lt (by omega)]
      omega
    · show sub16 _ _ = _
      rw [hrem, hmin, sub16_of_le (by omega) (by omega)]
      omega
  · obtain rfl : done = 0 := by omega
    obtain ⟨hbytes, hoff, hrem⟩ := h.short (by omega)
    have hfirst : rw.bFirstChunkResp = false := by rw [h.firstChunk]; rfl
    simp only [updateRspWrite, hfirst, if_true, Bool.false_eq_true, if_false]
    refine ⟨trivial, ⟨hseg, rfl, ?_, ?_⟩, trivial⟩
    · show add16 _ _ = _
      rw [hoff, hbytes, add16_of_lt (by omega)]
      omega
    · show sub16 _ _ = _
      rw [hrem, hbytes, sub16_of_le (by omega) (by omega)]
      omega

/-! ## Building the next frame -/

/-- Write frame: what `finishFrame` makes of a created payload, for the chunk from `done` on. -/
structure CreatedChunk (img : List UInt8) (off : Nat) (r : Record) (done : Nat)
    (q : RWInfo × FrameInfo) : Prop where
  outstanding : Outstanding img.length off r.payload.length done q.1
  short : r.payload.length ≤ 252 → q.1.wRWPldSize = 0 ∧
    q.2.dwSendlength = r.payload.length + 2 ∧
    q.2.aFrameBuff.bytes.take (r.payload.length + 2) = r.bytes
  long : 252 < r.payload.length → q.1.wRWPldSize ≠ 0 ∧ q.2.dwSendlength ≤ 252 ∧
    readAt q.2.aFrameBuff.bytes 2 q.2.dwSendlength = (r.payload.drop done).take 252

theorem readAt_stored (data : List UInt8) (h : data.length ≤ 252) :
    readAt (zeroFrameBuff.overwrite 2 data).bytes 2 data.length = data :=
  zeroFrameBuff.readAt_overwrite (by simp [cmdRespMaxBuffSize]; omega)

/-- At the start of a record. -/
theorem createFramePldWrite_at {img rest : List UInt8} {off : Nat} {r : Record} {rw : RWInfo}
    (hat : RecordAt img off r rest) (h : ReadyAt img.length off rw) :
    CreatedChunk img off r 0 (createFramePldWrite img rw) := by
  have hend := hat.end_le
  have hlt := hat.length_lt
  have hmax : cmdRespMaxPldSize = 252 := rfl
  have hhdr : frameHdrLen = 2 := rfl
  have hoff2 : add16 off 2 = off + 2 := add16_of_lt (by omega)
  by_cases hlong : 252 < r.payload.length
  · have heq : createFramePldWrite img rw =
        ({ rw with
            wRWPldSize := r.payload.length, wRemChunkBytes := r.payload.length,
            wOffset := off + 2, wBytesToSendRecv := 252, bFramesSegmented := true },
          ⟨252, zeroFrameBuff.overwrite 2 (readAt img (off + 2) 252)⟩) := by
      simp only [createFramePldWrite, h.seg, h.firstChunk, h.offset, hat.header, if_true, hmax,
        hhdr, hoff2, hlong, decide_true]
    have hdata := hat.readAt_chunk 0
    rw [Nat.sub_zero, Nat.min_eq_left (by omega), Nat.add_zero, List.drop_zero] at hdata
    rw [heq]
    refine ⟨⟨?_, h.firstChunk, fun h0 => absurd h0 (lt_irrefl 0), fun hs => by omega, fun _ => ?_⟩,
      fun hs => by omega, fun _ => ⟨Nat.ne_zero_of_lt hlong, le_rfl, ?_⟩⟩
    · simp [hlong]
    · refine ⟨rfl, rfl, ?_, rfl, ?_⟩
      · simp only [Nat.sub_zero]
        omega
      · simpa using h.rem
    · have hlen : (r.payload.take 252).length = 252 := by simp; omega
      have hst := readAt_stored (r.payload.take 252) (by omega)
      rw [hlen] at hst
      simpa [hdata] using hst
  · have hadd : add16 r.payload.length 2 = r.payload.length + 2 := add16_of_lt (by omega)
    have heq : createFramePldWrite img rw =
        ({ rw with wRWPldSize := 0, wBytesToSendRecv := r.payload.length + 2 },
          ⟨r.payload.length + 2, zeroFrameBuff.overwrite 0 r.bytes⟩) := by
      simp only [createFramePldWrite, h.seg, h.offset, hat.header, if_true, hmax, hhdr, hadd,
        gt_iff_lt, hlong, if_false, hat.readAt_record]
    rw [heq]
    refine ⟨⟨?_, h.firstChunk, fun h0 => absurd h0 (lt_irrefl 0), fun _ => ⟨rfl, h.offset, h.rem⟩,
      fun hl => absurd hl hlong⟩, fun _ => ⟨rfl, rfl, ?_⟩, fun hl => absurd hl hlong⟩
    · simp only [h.seg, Nat.sub_zero]
      exact (decide_eq_false hlong).symm
    · have hfit : r.bytes.length ≤ cmdRespMaxBuffSize := by
        simp [cmdRespMaxBuffSize]
        omega
      have hst := zeroFrameBuff.take_overwrite_zero hfit
      rw [r.length_bytes] at hst
      exact hst

/-- Inside a record. -/
theorem createFramePldWrite_in {img rest : List UInt8} {off done : Nat} {r : Record} {rw : RWInfo}
    (hat : RecordAt img off r rest) (h : ReadyIn img.length off r.payload.length done rw)
    (hwr : rw.bFirstWrReq = false) (h0 : 0 < done) (hdone : done < r.payload.length)
    (hlong : 252 < r.payload.length) :
    CreatedChunk img off r done (createFramePldWrite img rw) := by
  have hmax : cmdRespMaxPldSize = 252 := rfl
  have hhdr : frameHdrLen = 2 := rfl
  have hmin : (if decide (252 < r.payload.length - done) = true then 252
      else r.payload.length - done) = min 252 (r.payload.length - done) := by
    split
    · rename_i hd
      rw [Nat.min_eq_left (by have := of_decide_eq_true hd; omega)]
    · rename_i hd
      rw [Nat.min_eq_right (by simp at hd; omega)]
  have heq : createFramePldWrite img rw =
      ({ rw with
          wBytesToSendRecv := min 252 (r.payload.length - done),
          bFramesSegmented := decide (252 < r.payload.length - done) },
        ⟨min 252 (r.payload.length - done),
          zeroFrameBuff.overwrite 2 ((r.payload.drop done).take 252)⟩) := by
    simp only [createFramePldWrite, h.seg, h.firstChunk, h.size, h.chunk, h.offset, if_false, hmax,
      hhdr, gt_iff_lt, hlong, if_true, Bool.true_eq_false, hmin, hat.readAt_chunk]
  rw [heq]
  refine ⟨⟨rfl, ?_, fun _ => hwr, fun hs => by omega, fun _ => ?_⟩, fun hs => by omega,
    fun _ => ⟨?_, by simp, ?_⟩⟩
  · simp only [h.firstChunk]
    exact (decide_eq_true h0).symm
  · refine ⟨h.size, h.chunk, rfl, h.offset, ?_⟩
    rw [if_neg (by omega)]
    exact h.rem
  · show rw.wRWPldSize ≠ 0
    rw [h.size]
    omega
  · have hlen : ((r.payload.drop done).take 252).length = min 252 (r.payload.length - done) := by
      simp
    have hst := readAt_stored ((r.payload.drop done).take 252) (by simp)
    rw [hlen] at hst
    exact hst

/-! ## The frame on the wire -/

/-- A context in which the image is being written. -/
structure Writing (img : List UInt8) (cb ctxt : Nat) (ctx : DlContext) : Prop where
  type : ctx.FrameInp.type = .ftWrite
  cmd : ctx.tCmdId = .write
  user : ctx.tUserData = ⟨some img, img.length⟩
  cb : ctx.UserCb = some cb
  ctxt : ctx.UserCtxt = some ctxt
  inTime : ctx.TimerInfo.wTimerExpStatus ≠ NFCSTATUS.rfTimeout

theorem Writing.build {img : List UInt8} {cb ctxt : Nat} {ctx : DlContext}
    (h : Writing img cb ctxt ctx) : Writing img cb ctxt (buildFramePkt ctx).2 := by
  obtain ⟨rw, fi, heq⟩ := buildFramePkt_frame ctx
  rw [heq]
  exact ⟨h.type, h.cmd, h.user, h.cb, h.ctxt, h.inTime⟩

/-- The checks of a write: the first request sets up the transfer. -/
theorem verifyFrameInputs_write {img : List UInt8} {cb ctxt : Nat} {ctx : DlContext}
    (h : Writing img cb ctxt ctx) (hne : img ≠ []) :
    verifyFrameInputs ctx = (NFCSTATUS.success,
      if ctx.tRWInfo.bFirstWrReq = true then
        { ctx with tRWInfo := { ctx.tRWInfo with wRemBytes := img.length, wOffset := 0 } }
      else ctx) := by
  have hlen : img.length ≠ 0 := fun h0 => hne (List.eq_nil_of_length_eq_zero h0)
  simp only [verifyFrameInputs, h.type, h.user, hlen, reduceCtorEq, or_self, if_false]
  split <;> rfl

/-- The frame of the chunk from `done` on. -/
def chunkFrame (r : Record) (done : Nat) : List UInt8 :=
  wireFrame (decide (252 < r.payload.length - done)) ((r.payload.drop done).take 252)

/-- A created chunk is sent in its frame. -/
theorem build_chunk {img : List UInt8} {cb ctxt off done : Nat} {r : Record} {ctx : DlContext}
    (hw : Writing img cb ctxt ctx) (hne : img ≠ [])
    (h : CreatedChunk img off r done (createFramePldWrite img (verifyFrameInputs ctx).2.tRWInfo))
    (hdone : r.payload.length ≤ 252 → done = 0) :
    (buildFramePkt ctx).1 = NFCSTATUS.success ∧
      frameBytes (buildFramePkt ctx).2 = chunkFrame r done ∧
      Outstanding img.length off r.payload.length done (buildFramePkt ctx).2.tRWInfo := by
  have hv : (verifyFrameInputs ctx).1 = NFCSTATUS.success := by
    rw [verifyFrameInputs_write hw hne]
  obtain ⟨rw₁, hver⟩ := verifyFrameInputs_frame ctx
  set v := (verifyFrameInputs ctx).2 with hvdef
  have hvtype : v.FrameInp.type = .ftWrite := by rw [hver]; exact hw.type
  have hvuser : v.tUserData = ⟨some img, img.length⟩ := by rw [hver]; exact hw.user
  have hcreate : (createFramePld v).2 =
      { v with
        tRWInfo := (createFramePldWrite img v.tRWInfo).1,
        tCmdRspFrameInfo := (createFramePldWrite img v.tRWInfo).2 } := by
    simp only [createFramePld, hvtype, hvuser, Option.getD_some]
  rw [buildFramePkt_eq (by simp [hw.type]) hv, ← hvdef, hcreate]
  set c : DlContext := { v with
    tRWInfo := (createFramePldWrite img v.tRWInfo).1,
    tCmdRspFrameInfo := (createFramePldWrite img v.tRWInfo).2 } with hc
  obtain ⟨fi, hfin⟩ := finishFrame_frame c
  have hout : Outstanding img.length off r.payload.length done (finishFrame c).2.tRWInfo := by
    rw [hfin]
    exact h.outstanding
  by_cases hlong : 252 < r.payload.length
  · obtain ⟨hsize, hsend, hdata⟩ := h.long hlong
    obtain ⟨hok, hbytes⟩ := finishFrame_chunk c hvtype hsize hsend
    refine ⟨hok, ?_, hout⟩
    rw [hbytes, chunkFrame]
    have hseg : c.tRWInfo.bFramesSegmented = decide (252 < r.payload.length - done) :=
      h.outstanding.seg
    rw [hseg]
    exact congrArg _ hdata
  · obtain ⟨hsize, hsend, hdata⟩ := h.short (by omega)
    obtain ⟨hok, hbytes⟩ := finishFrame_record c hvtype hsize
      (by omega) hsend hdata
    obtain rfl := hdone (by omega)
    refine ⟨hok, ?_, hout⟩
    rw [hbytes, chunkFrame, List.drop_zero, List.take_of_length_le (by omega), Nat.sub_zero,
      decide_eq_false hlong]

/-- The first frame of a record. -/
theorem build_at {img rest : List UInt8} {cb ctxt off : Nat} {r : Record} {ctx : DlContext}
    (hw : Writing img cb ctxt ctx) (hat : RecordAt img off r rest)
    (h : ReadyAt img.length off (verifyFrameInputs ctx).2.tRWInfo) :
    (buildFramePkt ctx).1 = NFCSTATUS.success ∧
      frameBytes (buildFramePkt ctx).2 = chunkFrame r 0 ∧
      Outstanding img.length off r.payload.length 0 (buildFramePkt ctx).2.tRWInfo := by
  have hne : img ≠ [] := by
    rintro rfl
    have := hat.end_le
    simp at this
  exact build_chunk hw hne (createFramePldWrite_at hat h) (fun _ => rfl)

/-- A later frame of a record. -/
theorem build_in {img rest : List UInt8} {cb ctxt off done : Nat} {r : Record} {ctx : DlContext}
    (hw : Writing img cb ctxt ctx) (hat : RecordAt img off r rest)
    (h : ReadyIn img.length off r.payload.length done ctx.tRWInfo)
    (hwr : ctx.tRWInfo.bFirstWrReq = false) (h0 : 0 < done) (hdone : done < r.payload.length)
    (hlong : 252 < r.payload.length) :
    (buildFramePkt ctx).1 = NFCSTATUS.success ∧
      frameBytes (buildFramePkt ctx).2 = chunkFrame r done ∧
      Outstanding img.length off r.payload.length done (buildFramePkt ctx).2.tRWInfo := by
  have hne : img ≠ [] := by
    rintro rfl
    have := hat.end_le
    simp at this
  have hv : (verifyFrameInputs ctx).2 = ctx := by
    rw [verifyFrameInputs_write hw hne, hwr]
    rfl
  refine build_chunk hw hne ?_ (fun hs => by omega)
  rw [hv]
  exact createFramePldWrite_in hat h hwr h0 hdone hlong

end AliceHal.Pn54x.PhDnldNfc
