import AliceHal.Pn54x.PhDnldNfc.Stable

/-!
# Frame Encoder and Decoder

What `buildFramePkt` puts on the wire and what `processFrame` makes of it.

- `wireFrame`: the frame format, big-endian length with the fragmentation bit, payload, CRC
- `FrameOk`: the length, header and CRC of a frame agree, and the decoder accepts it when it is
  not a fragment
- `frameOk_wireFrame`: every frame of the format with at most 252 bytes of payload is such
- `Framable`: the condition on the context under which building gives a frame of the format
- `buildFramePkt_wireFrame`: what building gives
-/

namespace AliceHal.Pn54x.PhDnldNfc

open Lib

/-! ## The frame format -/

/-- Bytes followed by their CRC. -/
def withCrc (body : List UInt8) : List UInt8 :=
  let wCrcVal := (calcCrc16 body body.length).toNat
  body ++ [hiByte wCrcVal, loByte wCrcVal]

/-- The length word of a frame. -/
def headerWord (frag : Bool) (n : Nat) : Nat := if frag then setHdrFragBit n else n

/-- A frame with the given payload. -/
def wireFrame (frag : Bool) (payload : List UInt8) : List UInt8 :=
  withCrc ([hiByte (headerWord frag payload.length), loByte (headerWord frag payload.length)] ++
    payload)

/-- The big-endian length word at the start of a frame. -/
def frameHeader (f : List UInt8) : Nat := be16 (byteAt f 0) (byteAt f 1)

/-- The fragmentation bit of a frame. -/
def fragBit (f : List UInt8) : Bool := (frameHeader f).testBit 10

/-- A frame whose length, header and CRC agree; without the fragmentation bit, a response of
these bytes gets past the checks of `processFrame`. -/
structure FrameOk (f : List UInt8) : Prop where
  length_le : f.length ≤ 256
  header : clrHdrFragBit (frameHeader f) + 4 = f.length
  crc : be16 (byteAt f (f.length - 2)) (byteAt f (f.length - 1)) =
    (calcCrc16 f (f.length - 2)).toNat
  accepted : fragBit f = false → ∀ ctx, ctx.FrameInp.type ≠ .ftRaw →
    processFrame ctx (some ⟨NFCSTATUS.success, some f, f.length⟩) =
      updateRsp ctx f (sub16 (f.length - 4) 1)

/-! ## Header words -/

theorem headerWord_lt {n : Nat} (frag : Bool) (h : n ≤ 252) : headerWord frag n < 65536 := by
  have hall : ∀ b : Bool, ∀ k : Fin 253, headerWord b k < 65536 := by decide +kernel
  exact hall frag ⟨n, by omega⟩

theorem clrHdrFragBit_headerWord {n : Nat} (frag : Bool) (h : n ≤ 252) :
    clrHdrFragBit (headerWord frag n) = n := by
  have hall : ∀ b : Bool, ∀ k : Fin 253, clrHdrFragBit (headerWord b k) = k := by decide +kernel
  exact hall frag ⟨n, by omega⟩

theorem testBit_headerWord {n : Nat} (frag : Bool) (h : n ≤ 252) :
    (headerWord frag n).testBit 10 = frag := by
  have hall : ∀ b : Bool, ∀ k : Fin 253, (headerWord b k).testBit 10 = b := by decide +kernel
  exact hall frag ⟨n, by omega⟩

/-! ## Frames of the format -/

@[simp]
theorem length_withCrc (body : List UInt8) : (withCrc body).length = body.length + 2 := by
  simp [withCrc]

@[simp]
theorem length_wireFrame (frag : Bool) (payload : List UInt8) :
    (wireFrame frag payload).length = payload.length + 4 := by
  simp [wireFrame]

theorem frameHeader_wireFrame {payload : List UInt8} (frag : Bool) (h : payload.length ≤ 252) :
    frameHeader (wireFrame frag payload) = headerWord frag payload.length :=
  be16_hiByte_loByte (headerWord_lt frag h)

theorem fragBit_wireFrame {payload : List UInt8} (frag : Bool) (h : payload.length ≤ 252) :
    fragBit (wireFrame frag payload) = frag := by
  rw [fragBit, frameHeader_wireFrame frag h, testBit_headerWord frag h]

/-- The CRC at the end of the bytes is the CRC of what stands before it. -/
theorem crc_withCrc (body : List UInt8) :
    be16 (byteAt (withCrc body) body.length) (byteAt (withCrc body) (body.length + 1)) =
      (calcCrc16 (withCrc body) body.length).toNat := by
  have hlt := (calcCrc16 body body.length).toNat_lt
  have hsame : calcCrc16 (withCrc body) body.length = calcCrc16 body body.length := by
    apply calcCrc16_eq_of_take
    simp [withCrc]
  rw [hsame, withCrc, byteAt_append_right, ← Nat.add_zero body.length, byteAt_append_right]
  exact be16_hiByte_loByte hlt

theorem crc_wireFrame (frag : Bool) (payload : List UInt8) :
    be16 (byteAt (wireFrame frag payload) (payload.length + 2))
        (byteAt (wireFrame frag payload) (payload.length + 3)) =
      (calcCrc16 (wireFrame frag payload) (payload.length + 2)).toNat :=
  crc_withCrc ([hiByte (headerWord frag payload.length),
    loByte (headerWord frag payload.length)] ++ payload)

/-- The decoder takes a frame of the format, at the start of the buffer `mem`, to the
interpretation of its status byte. -/
theorem processFrame_wireFrame {payload mem : List UInt8} {ctx : DlContext}
    (h : payload.length ≤ 252) (htype : ctx.FrameInp.type ≠ .ftRaw)
    (hmem : mem.take (payload.length + 4) = wireFrame false payload) :
    processFrame ctx (some ⟨NFCSTATUS.success, some mem, payload.length + 4⟩) =
      updateRsp ctx mem (sub16 payload.length 1) := by
  have hbyte : ∀ i < payload.length + 4, byteAt mem i = byteAt (wireFrame false payload) i := by
    intro i hi
    rw [← hmem, byteAt_take hi]
  have hlen2 : sub16 (payload.length + 4) 2 = payload.length + 2 :=
    sub16_of_le (by omega) (by omega)
  have hlen1 : sub16 (payload.length + 4) 1 = payload.length + 3 :=
    sub16_of_le (by omega) (by omega)
  have hlen4 : sub16 (payload.length + 4) 4 = payload.length :=
    sub16_of_le (by omega) (by omega)
  have hcrc : be16 (byteAt mem (payload.length + 2)) (byteAt mem (payload.length + 3)) =
      (calcCrc16 mem (payload.length + 2)).toNat := by
    have hsame : calcCrc16 mem (payload.length + 2) =
        calcCrc16 (wireFrame false payload) (payload.length + 2) := by
      apply calcCrc16_eq_of_take
      rw [← hmem, List.take_take, Nat.min_eq_left (by omega)]
    rw [hbyte _ (by omega), hbyte _ (by omega), hsame]
    exact crc_wireFrame false payload
  have hheader : be16 (byteAt mem 0) (byteAt mem 1) = payload.length := by
    rw [hbyte _ (by omega), hbyte _ (by omega)]
    exact frameHeader_wireFrame false h
  have hinfo : ¬(NFCSTATUS.success ≠ NFCSTATUS.success ∨ payload.length + 4 = 0) := by simp
  simp only [processFrame, frameCrcLen, frameHdrLen]
  rw [if_neg hinfo, if_neg htype]
  simp only [hlen1, hlen2, hlen4, hheader, hcrc, if_true, ne_eq, not_true_eq_false, if_false]

/-- Every frame of the format is decoded as it was encoded. -/
theorem frameOk_wireFrame {payload : List UInt8} (frag : Bool) (h : payload.length ≤ 252) :
    FrameOk (wireFrame frag payload) where
  length_le := by
    rw [length_wireFrame]
    omega
  header := by
    rw [frameHeader_wireFrame frag h, clrHdrFragBit_headerWord frag h, length_wireFrame]
  crc := by
    rw [length_wireFrame]
    exact crc_wireFrame frag payload
  accepted := by
    intro hfrag ctx htype
    rw [fragBit_wireFrame frag h] at hfrag
    subst hfrag
    rw [length_wireFrame]
    exact processFrame_wireFrame h htype (List.take_of_length_le (by simp))

/-! ## Building a frame -/

/-- What `finishFrame` puts on the wire: the first bytes of the buffer with their CRC. -/
theorem finishFrame_spec {ctx : DlContext} (body : List UInt8) (htype : ctx.FrameInp.type ≠ .ftRaw)
    (hlen : body.length ≤ 254) (hn : (insertHeader ctx).2 = body.length)
    (hbody : (insertHeader ctx).1.bytes.take body.length = body) :
    (finishFrame ctx).1 = NFCSTATUS.success ∧ frameBytes (finishFrame ctx).2 = withCrc body := by
  have hcrc : calcCrc16 (insertHeader ctx).1.bytes body.length = calcCrc16 body body.length :=
    calcCrc16_eq_of_take (by rw [hbody, List.take_length])
  unfold finishFrame
  rw [if_pos htype]
  dsimp only
  rw [hn, if_neg (by simp [cmdRespMaxBuffSize]; omega)]
  refine ⟨rfl, ?_⟩
  simp only [frameBytes, frameCrcLen, frameHdrLen]
  rw [add16_of_lt (by omega)]
  set crc := [hiByte (calcCrc16 body body.length).toNat, loByte (calcCrc16 body body.length).toNat]
    with hcrcdef
  have hfit : body.length + crc.length ≤ cmdRespMaxBuffSize := by
    simp [hcrcdef, cmdRespMaxBuffSize]
    omega
  have hstore := (insertHeader ctx).1.take_overwrite crc hfit
  rw [hcrc]
  rw [hbody] at hstore
  exact hstore

/-- A frame with a command: header and command byte are written into the buffer. -/
theorem finishFrame_command (ctx : DlContext) (hraw : ctx.FrameInp.type ≠ .ftRaw)
    (hwrite : ctx.FrameInp.type ≠ .ftWrite) (h0 : 0 < ctx.tCmdRspFrameInfo.dwSendlength)
    (h : ctx.tCmdRspFrameInfo.dwSendlength ≤ 252) :
    (finishFrame ctx).1 = NFCSTATUS.success ∧
      ∃ payload, payload.length ≤ 252 ∧ frameBytes (finishFrame ctx).2 = wireFrame false payload := by
  set n := ctx.tCmdRspFrameInfo.dwSendlength with hn
  have hbuff := ctx.tCmdRspFrameInfo.aFrameBuff.length_bytes
  set payload := ctx.tCmdId.toByte :: (ctx.tCmdRspFrameInfo.aFrameBuff.bytes.drop 3).take (n - 1)
    with hpayload
  have hlen : payload.length = n := by
    simp only [hpayload, List.length_cons, List.length_take, List.length_drop, hbuff,
      cmdRespMaxBuffSize]
    omega
  have hins : insertHeader ctx =
      (ctx.tCmdRspFrameInfo.aFrameBuff.overwrite 0 [hiByte n, loByte n, ctx.tCmdId.toByte], n + 2) := by
    simp only [insertHeader, if_pos hwrite, frameHdrLen, ← hn]
    rw [add16_of_lt (by omega)]
  have hspec := finishFrame_spec ([hiByte n, loByte n] ++ payload) hraw
    (by simp [hlen]; omega) (by simp [hins, hlen]) ?_
  · refine ⟨hspec.1, payload, by omega, ?_⟩
    rw [hspec.2, wireFrame, hlen]
    rfl
  · have hfront := ctx.tCmdRspFrameInfo.aFrameBuff.take_overwrite_front
      [hiByte n, loByte n, ctx.tCmdId.toByte] (k := n - 1)
      (by simp [cmdRespMaxBuffSize]; omega)
    have hsize : ([hiByte n, loByte n] ++ payload).length = 3 + (n - 1) := by
      simp [hlen]
      omega
    rw [hins, hsize]
    simpa using hfront

/-- A chunk of a long record: the header is written in front of it. -/
theorem finishFrame_chunk (ctx : DlContext) (htype : ctx.FrameInp.type = .ftWrite)
    (hsize : ctx.tRWInfo.wRWPldSize ≠ 0) (h : ctx.tCmdRspFrameInfo.dwSendlength ≤ 252) :
    (finishFrame ctx).1 = NFCSTATUS.success ∧
      frameBytes (finishFrame ctx).2 = wireFrame ctx.tRWInfo.bFramesSegmented
        (readAt ctx.tCmdRspFrameInfo.aFrameBuff.bytes 2 ctx.tCmdRspFrameInfo.dwSendlength) := by
  set n := ctx.tCmdRspFrameInfo.dwSendlength with hn
  set payload := readAt ctx.tCmdRspFrameInfo.aFrameBuff.bytes 2 n with hpayload
  have hbuff := ctx.tCmdRspFrameInfo.aFrameBuff.length_bytes
  have hlen : payload.length = n :=
    length_readAt (by rw [hbuff]; simp [cmdRespMaxBuffSize]; omega)
  set w := headerWord ctx.tRWInfo.bFramesSegmented n with hw
  have hins : insertHeader ctx =
      (ctx.tCmdRspFrameInfo.aFrameBuff.overwrite 0 [hiByte w, loByte w], n + 2) := by
    have hclr : clrHdrFragBit w = n := clrHdrFragBit_headerWord _ h
    simp only [insertHeader, htype, ne_eq, not_true_eq_false, if_false, hsize, not_false_eq_true,
      if_true, frameHdrLen, ← hn]
    rw [show (if ctx.tRWInfo.bFramesSegmented = true then setHdrFragBit n else n) = w from rfl,
      hclr, add16_of_lt (by omega)]
  have hraw : ctx.FrameInp.type ≠ .ftRaw := by simp [htype]
  have hspec := finishFrame_spec ([hiByte w, loByte w] ++ payload) hraw
    (by simp [hlen]; omega) (by simp [hins, hlen]) ?_
  · refine ⟨hspec.1, ?_⟩
    rw [hspec.2, wireFrame, hlen]
  · have hfront := ctx.tCmdRspFrameInfo.aFrameBuff.take_overwrite_front
      [hiByte w, loByte w] (k := n) (by simp [cmdRespMaxBuffSize]; omega)
    have hsize' : ([hiByte w, loByte w] ++ payload).length = 2 + n := by
      simp [hlen]
      omega
    rw [hins, hsize']
    exact hfront

/-- A short record: the frame is the record as it stands in the image. -/
theorem finishFrame_record (ctx : DlContext) {payload : List UInt8}
    (htype : ctx.FrameInp.type = .ftWrite) (hsize : ctx.tRWInfo.wRWPldSize = 0)
    (h : payload.length ≤ 252)
    (hn : ctx.tCmdRspFrameInfo.dwSendlength = payload.length + 2)
    (hbuff : ctx.tCmdRspFrameInfo.aFrameBuff.bytes.take (payload.length + 2) =
      [hiByte payload.length, loByte payload.length] ++ payload) :
    (finishFrame ctx).1 = NFCSTATUS.success ∧
      frameBytes (finishFrame ctx).2 = wireFrame false payload := by
  have hins : insertHeader ctx = (ctx.tCmdRspFrameInfo.aFrameBuff, payload.length + 2) := by
    simp [insertHeader, htype, hsize, hn]
  have hlen : ([hiByte payload.length, loByte payload.length] ++ payload).length =
      payload.length + 2 := by simp
  have hraw : ctx.FrameInp.type ≠ .ftRaw := by simp [htype]
  have hspec := finishFrame_spec ([hiByte payload.length, loByte payload.length] ++ payload)
    hraw (by omega) (by rw [hins, hlen]) (by rw [hins, hlen, hbuff])
  exact hspec

/-! ## Contexts that can be framed -/

/-- A context from which every frame comes out well formed: a segmented write is one of a record
too long for a frame, and log data is short enough for one. -/
structure Framable (ctx : DlContext) : Prop where
  segmented : ctx.FrameInp.type = .ftWrite → ctx.tRWInfo.bFramesSegmented = true →
    cmdRespMaxPldSize < ctx.tRWInfo.wRWPldSize
  log : ctx.FrameInp.type = .ftLog → ctx.tUserData.wLen ≤ maxLogSize

/-- The record at an offset of the image, cut out of a cleared buffer. -/
theorem record_in_buffer {img : List UInt8} {off n : Nat}
    (hn : be16 (byteAt img off) (byteAt img (off + 1)) = n) (h : n ≤ 252) :
    ∃ payload, payload.length = n ∧
      (zeroFrameBuff.overwrite 0 (readAt img off (n + 2))).bytes.take (n + 2) =
        [hiByte n, loByte n] ++ payload := by
  set buff := zeroFrameBuff.overwrite 0 (readAt img off (n + 2)) with hb
  have hlen := buff.length_bytes
  simp only [cmdRespMaxBuffSize] at hlen
  have hbyte : ∀ i < 2, byteAt buff.bytes i = byteAt img (off + i) := by
    intro i hi
    rw [hb, zeroFrameBuff, Buffer.byteAt_zero_overwrite (by simp [cmdRespMaxBuffSize]; omega)]
    simp only [byteAt, readAt, List.getD_eq_getElem?_getD]
    rw [List.getElem?_take_of_lt (by omega), List.getElem?_drop]
  obtain ⟨a, b, rest, hcons⟩ : ∃ a b rest, buff.bytes = a :: b :: rest := by
    obtain ⟨a, l, hl⟩ := List.exists_cons_of_length_eq_add_one hlen
    rw [hl] at hlen
    obtain ⟨b, rest, rfl⟩ := List.exists_cons_of_length_eq_add_one (Nat.succ.inj hlen)
    exact ⟨a, b, rest, hl⟩
  have ha : a = hiByte n := by
    have h0 := hbyte 0 (by omega)
    rw [hcons] at h0
    rw [← hn, hiByte_be16, ← Nat.add_zero off, ← h0]
    rfl
  have hb' : b = loByte n := by
    have h1 := hbyte 1 (by omega)
    rw [hcons] at h1
    rw [← hn, loByte_be16, ← h1]
    rfl
  refine ⟨rest.take n, ?_, ?_⟩
  · rw [hcons] at hlen
    simp only [List.length_cons] at hlen
    rw [List.length_take]
    omega
  · rw [hcons, ha, hb']
    rfl

theorem chunk_le (n : Nat) :
    (if decide (cmdRespMaxPldSize < n) = true then cmdRespMaxPldSize else n) ≤ 252 := by
  have hmax : cmdRespMaxPldSize = 252 := rfl
  rw [hmax]
  split
  · exact le_rfl
  · simp_all

/-- A write payload is a chunk of a long record or a whole short one. -/
theorem createFramePldWrite_spec (img : List UInt8) (rw : RWInfo)
    (hseg : rw.bFramesSegmented = true → cmdRespMaxPldSize < rw.wRWPldSize) :
    (cmdRespMaxPldSize < (createFramePldWrite img rw).1.wRWPldSize ∧
      (createFramePldWrite img rw).2.dwSendlength ≤ 252) ∨
    ((createFramePldWrite img rw).1.wRWPldSize = 0 ∧
      (createFramePldWrite img rw).1.bFramesSegmented = false ∧
      ∃ payload, payload.length ≤ 252 ∧
        (createFramePldWrite img rw).2.dwSendlength = payload.length + 2 ∧
        (createFramePldWrite img rw).2.aFrameBuff.bytes.take (payload.length + 2) =
          [hiByte payload.length, loByte payload.length] ++ payload) := by
  unfold createFramePldWrite
  cases hs : rw.bFramesSegmented with
  | true =>
    have hbig := hseg hs
    simp only [if_pos hbig, Bool.true_eq_false, if_false]
    exact .inl ⟨hbig, chunk_le _⟩
  | false =>
    simp only [if_true]
    split
    · left
      rename_i hbig
      exact ⟨hbig, chunk_le _⟩
    · right
      rename_i hsmall
      have hle : be16 (byteAt img rw.wOffset) (byteAt img (rw.wOffset + 1)) ≤ 252 := by
        simpa [cmdRespMaxPldSize, cmdRespMaxBuffSize, frameHdrLen, frameCrcLen] using hsmall
      obtain ⟨payload, hlen, hbuff⟩ := record_in_buffer rfl hle
      have hadd : add16 (be16 (byteAt img rw.wOffset) (byteAt img (rw.wOffset + 1))) frameHdrLen =
          payload.length + 2 := by
        rw [hlen]
        exact add16_of_lt (by simp [frameHdrLen]; omega)
      refine ⟨rfl, rfl, payload, by omega, hadd, ?_⟩
      dsimp only
      rw [hadd, hlen]
      exact hbuff

/-! ## The frame built -/

theorem verifyFrameInputs_success {ctx : DlContext}
    (hok : (buildFramePkt ctx).1 = NFCSTATUS.success) :
    (verifyFrameInputs ctx).1 = NFCSTATUS.success := by
  by_contra hv
  simp only [buildFramePkt, if_neg hv] at hok
  exact absurd hok (by decide)

/-- Only a raw request fails in the creation of the payload. -/
theorem createFramePld_success {ctx : DlContext} (hraw : ctx.FrameInp.type ≠ .ftRaw) :
    (createFramePld ctx).1 = NFCSTATUS.success := by
  unfold createFramePld
  split <;> first | rfl | simp_all

theorem buildFramePkt_eq {ctx : DlContext} (hraw : ctx.FrameInp.type ≠ .ftRaw)
    (hv : (verifyFrameInputs ctx).1 = NFCSTATUS.success) :
    buildFramePkt ctx = finishFrame (createFramePld (verifyFrameInputs ctx).2).2 := by
  obtain ⟨rw, hrw⟩ := verifyFrameInputs_frame ctx
  have hc : (createFramePld (verifyFrameInputs ctx).2).1 = NFCSTATUS.success :=
    createFramePld_success (by rw [hrw]; exact hraw)
  simp only [buildFramePkt, if_pos hv, if_pos hc]

/-- The checks leave the segmentation of a write as it is. -/
theorem verifyFrameInputs_segmentation {ctx : DlContext} (htype : ctx.FrameInp.type = .ftWrite) :
    (verifyFrameInputs ctx).2.tRWInfo.bFramesSegmented = ctx.tRWInfo.bFramesSegmented ∧
      (verifyFrameInputs ctx).2.tRWInfo.wRWPldSize = ctx.tRWInfo.wRWPldSize := by
  simp only [verifyFrameInputs, htype]
  split
  · exact ⟨rfl, rfl⟩
  · split <;> exact ⟨rfl, rfl⟩

/-- A frame that passes the input checks comes out in the frame format. -/
theorem buildFramePkt_wireFrame {ctx : DlContext} (hraw : ctx.FrameInp.type ≠ .ftRaw)
    (hF : Framable ctx) (hv : (verifyFrameInputs ctx).1 = NFCSTATUS.success) :
    (buildFramePkt ctx).1 = NFCSTATUS.success ∧
      ∃ frag payload, payload.length ≤ 252 ∧
        frameBytes (buildFramePkt ctx).2 = wireFrame frag payload := by
  rw [buildFramePkt_eq hraw hv]
  obtain ⟨rw, hrw⟩ := verifyFrameInputs_frame ctx
  set v := (verifyFrameInputs ctx).2 with hvdef
  have htype : v.FrameInp.type = ctx.FrameInp.type := by rw [hrw]
  have huser : v.tUserData = ctx.tUserData := by rw [hrw]
  obtain ⟨rw', fi, hc⟩ := createFramePld_frame v
  have hctype : (createFramePld v).2.FrameInp.type = ctx.FrameInp.type := by rw [hc, ← htype]
  -- every frame type but the write goes through the same header
  have hcommand : ctx.FrameInp.type ≠ .ftWrite →
      0 < (createFramePld v).2.tCmdRspFrameInfo.dwSendlength →
      (createFramePld v).2.tCmdRspFrameInfo.dwSendlength ≤ 252 →
      (finishFrame (createFramePld v).2).1 = NFCSTATUS.success ∧
        ∃ frag payload, payload.length ≤ 252 ∧
          frameBytes (finishFrame (createFramePld v).2).2 = wireFrame frag payload := by
    intro hw h0 h
    obtain ⟨hok, payload, hlen, hbytes⟩ := finishFrame_command (createFramePld v).2
      (by rwa [hctype]) (by rwa [hctype]) h0 h
    exact ⟨hok, false, payload, hlen, hbytes⟩
  cases ht : ctx.FrameInp.type with
  | ftRaw => exact absurd ht hraw
  | ftWrite =>
    have hseg := verifyFrameInputs_segmentation ht
    have hspec := createFramePldWrite_spec (v.tUserData.pBuff.getD []) v.tRWInfo (by
      rw [hseg.1, hseg.2]
      exact hF.segmented ht)
    have hcreate : (createFramePld v).2 =
        { v with
          tRWInfo := (createFramePldWrite (v.tUserData.pBuff.getD []) v.tRWInfo).1,
          tCmdRspFrameInfo := (createFramePldWrite (v.tUserData.pBuff.getD []) v.tRWInfo).2 } := by
      simp only [createFramePld, htype.trans ht]
    rw [hcreate]
    rcases hspec with ⟨hbig, hlen⟩ | ⟨hsize, -, payload, hlen, hn, hbuff⟩
    · have hchunk := finishFrame_chunk { v with
          tRWInfo := (createFramePldWrite (v.tUserData.pBuff.getD []) v.tRWInfo).1,
          tCmdRspFrameInfo := (createFramePldWrite (v.tUserData.pBuff.getD []) v.tRWInfo).2 }
        (htype.trans ht) (Nat.ne_zero_of_lt hbig) hlen
      refine ⟨hchunk.1, _, _, ?_, hchunk.2⟩
      exact (List.length_take_le _ _).trans hlen
    · have hrec := finishFrame_record { v with
          tRWInfo := (createFramePldWrite (v.tUserData.pBuff.getD []) v.tRWInfo).1,
          tCmdRspFrameInfo := (createFramePldWrite (v.tUserData.pBuff.getD []) v.tRWInfo).2 }
        (htype.trans ht) hsize hlen hn hbuff
      exact ⟨hrec.1, false, payload, hlen, hrec.2⟩
  | ftLog =>
    have hlog := hF.log ht
    have hmax : maxLogSize = 64 := rfl
    have hsend : (createFramePld v).2.tCmdRspFrameInfo.dwSendlength = 4 + ctx.tUserData.wLen := by
      simp only [createFramePld, htype.trans ht, huser, minPldLen]
      exact add16_of_lt (by omega)
    exact hcommand (by simp [ht]) (by omega) (by omega)
  | ftNone | chkIntg | ftRead | ftForce =>
    apply hcommand (by simp [ht]) <;> simp [createFramePld, htype.trans ht, minPldLen]

end AliceHal.Pn54x.PhDnldNfc
