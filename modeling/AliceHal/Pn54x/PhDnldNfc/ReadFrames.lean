import AliceHal.Lib.Memory
import AliceHal.Pn54x.PhDnldNfc.Segmentation

/-!
# Segmented Reads

A read request asks for its bytes in chunks of at most 248. Only the first frame sets up the
bookkeeping: the later ones are told from it by `bFramesSegmented`, since the length of the response
buffer has been overwritten with the number of bytes read so far.

- `readFrame`, `readResponse`: a request for one chunk, and the answer with its bytes
- `Tiles`: chunks that cover a range without gap or overlap
- `Verified`, `Asked`: the bookkeeping before a chunk is requested, and while it is out
- `build_read`: building the request
- `acknowledge_read`: what the answer does to the bookkeeping and to the caller's buffer
-/

namespace AliceHal.Pn54x.PhDnldNfc

open Lib

/-! ## Frames -/

/-- `PHDNLDNFC_CMDRESP_MAX_PLD_SIZE - PHDNLDNFC_MIN_PLD_LEN` -/
def readChunkMax : ℕ := cmdRespMaxPldSize - minPldLen

/-- The request for `len` bytes from `addr` on. -/
def readFrame (addr len : ℕ) : List UInt8 :=
  wireFrame false ([CmdId.read.toByte, 0] ++ le16Bytes len ++ le32Bytes addr)

/-- An answer with these bytes; the byte after the status is not looked at. -/
def readResponse (reserved : UInt8) (data : List UInt8) : List UInt8 :=
  wireFrame false ([PhDlStatus.ok, reserved] ++ le16Bytes data.length ++ data)

/-- Chunks of at most 248 bytes that cover `n` bytes from `addr` on, in order, without gap or
overlap. -/
inductive Tiles : ℕ → ℕ → List (ℕ × ℕ) → Prop where
  | nil (addr : ℕ) : Tiles addr 0 []
  | cons {addr len n : ℕ} {chunks : List (ℕ × ℕ)} (hpos : 0 < len) (hmax : len ≤ readChunkMax)
      (hrest : Tiles (addr + len) n chunks) : Tiles addr (len + n) ((addr, len) :: chunks)

/-- Memory from an address on. -/
def memoryAt (memory : Memory) (addr n : ℕ) : List UInt8 := Memory.slice (fun j => memory (addr + j)) n

@[simp]
theorem length_memoryAt (memory : Memory) (addr n : ℕ) : (memoryAt memory addr n).length = n :=
  Memory.slice_length

theorem memoryAt_add (memory : Memory) (addr m n : ℕ) :
    memoryAt memory addr (m + n) = memoryAt memory addr m ++ memoryAt memory (addr + m) n := by
  simp [memoryAt, Memory.slice, List.range_add, Function.comp_def, Nat.add_assoc]

/-! ## Bookkeeping -/

/-- Before the chunk from `done` on is requested. -/
structure Verified (addr wLen done : ℕ) (rw : RWInfo) : Prop where
  offset : rw.wOffset = done
  rem : rw.wRemBytes = wLen - done
  addr : rw.dwAddr = addr + done
  read : rw.wBytesRead = done
  pldSize : rw.wRWPldSize = readChunkMax
  segmented : rw.bFramesSegmented = decide (readChunkMax < wLen)

/-- While the chunk from `done` on is out. -/
structure Asked (addr wLen done : ℕ) (rw : RWInfo) : Prop extends Verified addr wLen done rw where
  sent : rw.wBytesToSendRecv = min readChunkMax (wLen - done)

/-- The caller's buffer once `done` bytes have been read. -/
def partlyRead (memory : Memory) (addr done : ℕ) (buf : List UInt8) : List UInt8 :=
  memoryAt memory addr done ++ buf.drop done

/-- The chunk that follows is stored behind those read so far. -/
theorem store_partlyRead (memory : Memory) (addr done len : ℕ) (buf : List UInt8) :
    store (partlyRead memory addr done buf) done (memoryAt memory (addr + done) len) =
      partlyRead memory addr (done + len) buf := by
  rw [store, partlyRead, partlyRead, memoryAt_add, length_memoryAt, List.append_assoc,
    List.append_assoc]
  congr 1
  · rw [List.take_append_of_le_length (length_memoryAt memory addr done).ge,
      List.take_of_length_le (length_memoryAt memory addr done).le]
  · congr 1
    rw [List.drop_append, List.drop_of_length_le (by simp), List.nil_append, List.drop_drop]
    simp

/-- A read in progress. -/
structure Reading (addr cb ctxt : ℕ) (ctx : DlContext) : Prop where
  input : ctx.FrameInp = ⟨.ftRead, addr⟩
  cmd : ctx.tCmdId = .read
  cb : ctx.UserCb = some cb
  ctxt : ctx.UserCtxt = some ctxt
  inTime : ctx.TimerInfo.wTimerExpStatus ≠ NFCSTATUS.rfTimeout

/-! ## The request for a chunk -/

/-- The first frame sets up the bookkeeping. -/
theorem verify_first {addr cb ctxt wLen : ℕ} {buf : List UInt8} {ctx : DlContext}
    (h : Reading addr cb ctxt ctx) (hrsp : ctx.tRspBuffInfo = ⟨some buf, wLen⟩)
    (hseg : ctx.tRWInfo.bFramesSegmented = false) (hpos : 0 < wLen) (hmax : wLen ≤ 65531) :
    ∃ rw, verifyFrameInputs ctx = (NFCSTATUS.success, { ctx with tRWInfo := rw }) ∧
      Verified addr wLen 0 rw := by
  have hvalid : ¬(ctx.tRspBuffInfo.wLen = 0 ∨ ctx.tRspBuffInfo.pBuff = none) := by
    rw [hrsp]
    rintro (h0 | h0)
    · exact hpos.ne' h0
    · cases h0
  have htype : ctx.FrameInp.type = .ftRead := by rw [h.input]
  refine ⟨_, by simp only [verifyFrameInputs, htype, if_neg hvalid, hseg, if_true]; rfl, ?_⟩
  rw [hrsp]
  constructor
  · rfl
  · rfl
  · rw [h.input]
    rfl
  · rfl
  · rfl
  · -- the sum with the minimum length does not wrap
    dsimp only
    rw [add16_of_lt (by simp [minPldLen]; omega)]
    have hiff : 252 < wLen + 4 ↔ 248 < wLen := by omega
    exact decide_eq_decide.2 hiff

/-- A later frame goes on with it: the length of the response buffer is only seen not to be zero. -/
theorem verify_later {addr cb ctxt : ℕ} {ctx : DlContext} (h : Reading addr cb ctxt ctx)
    (hlen : ctx.tRspBuffInfo.wLen ≠ 0) (hbuf : ctx.tRspBuffInfo.pBuff ≠ none)
    (hseg : ctx.tRWInfo.bFramesSegmented = true) :
    verifyFrameInputs ctx = (NFCSTATUS.success, ctx) := by
  have hvalid : ¬(ctx.tRspBuffInfo.wLen = 0 ∨ ctx.tRspBuffInfo.pBuff = none) := by
    rintro (h0 | h0)
    · exact hlen h0
    · exact hbuf h0
  have hno : ctx.tRWInfo.bFramesSegmented ≠ false := by
    rw [hseg]
    decide
  have htype : ctx.FrameInp.type = .ftRead := by rw [h.input]
  simp only [verifyFrameInputs, htype, if_neg hvalid, if_neg hno]

/-- The payload of a request in the cleared frame buffer, behind header and command. -/
theorem take_readRequest (hdr src : List UInt8) (hhdr : hdr.length = 3) (hsrc : src.length = 6) :
    ((zeroFrameBuff.overwrite 4 src).overwrite 0 hdr).bytes.take 10 = hdr ++ [0] ++ src := by
  have hfront := (zeroFrameBuff.overwrite 4 src).take_overwrite_front hdr (k := 7)
    (by rw [hhdr]; decide)
  have hstored : ((zeroFrameBuff.overwrite 4 src).bytes.take (4 + src.length)) = _ :=
    zeroFrameBuff.take_overwrite src (by rw [hsrc]; decide)
  rw [hhdr] at hfront
  rw [hsrc] at hstored
  rw [hfront, List.append_assoc]
  congr 1
  rw [List.take_drop, hstored]
  rfl

/-- The request for the chunk from `done` on. -/
theorem build_read {addr cb ctxt wLen done : ℕ} {ctx : DlContext} {rw : RWInfo}
    (h : Reading addr cb ctxt ctx) (hv : verifyFrameInputs ctx =
      (NFCSTATUS.success, { ctx with tRWInfo := rw }))
    (hrw : Verified addr wLen done rw) :
    (buildFramePkt ctx).1 = NFCSTATUS.success ∧
      frameBytes (buildFramePkt ctx).2 =
        readFrame (addr + done) (min readChunkMax (wLen - done)) ∧
      ∃ rw' fi, (buildFramePkt ctx).2 = { ctx with tRWInfo := rw', tCmdRspFrameInfo := fi } ∧
        Asked addr wLen done rw' := by
  have htype : ctx.FrameInp.type = .ftRead := by rw [h.input]
  have hraw : ctx.FrameInp.type ≠ .ftRaw := by simp [htype]
  set len := min readChunkMax (wLen - done) with hlen
  have hask : (if rw.wRemBytes > rw.wRWPldSize then rw.wRWPldSize else rw.wRemBytes) = len := by
    rw [hrw.rem, hrw.pldSize, hlen]
    split
    · omega
    · omega
  have hle : len ≤ 248 := by
    rw [hlen]
    exact Nat.min_le_left _ _
  set rw' : RWInfo := { rw with wBytesToSendRecv := len } with hrw'
  set c : DlContext := { ctx with
    tRWInfo := rw', tCmdRspFrameInfo := ⟨minPldLen + 4, zeroFrameBuff.overwrite 4
      (le16Bytes len ++ le32Bytes rw.dwAddr)⟩ } with hc
  have hcreate : (createFramePld { ctx with tRWInfo := rw }).2 = c := by
    simp only [createFramePld, htype, hask]
    rfl
  have hbuild : buildFramePkt ctx = finishFrame c := by
    rw [buildFramePkt_eq hraw (by rw [hv]), hv, hcreate]
  -- header and command are written in front of the payload
  have hinsert : insertHeader c =
      (c.tCmdRspFrameInfo.aFrameBuff.overwrite 0 [hiByte 8, loByte 8, CmdId.read.toByte], 10) := by
    have hwrite : c.FrameInp.type ≠ .ftWrite := by simp [hc, htype]
    have hcmd : c.tCmdId = .read := h.cmd
    simp only [insertHeader, if_pos hwrite, hcmd]
    rfl
  have hbody : (insertHeader c).1.bytes.take 10 = [hiByte 8, loByte 8, CmdId.read.toByte] ++ [0] ++
      (le16Bytes len ++ le32Bytes rw.dwAddr) := by
    rw [hinsert]
    exact take_readRequest _ _ rfl rfl
  set body := [hiByte 8, loByte 8, CmdId.read.toByte] ++ [0] ++
    (le16Bytes len ++ le32Bytes rw.dwAddr) with hbodydef
  have hsize : body.length = 10 := rfl
  have htypec : c.FrameInp.type ≠ .ftRaw := by simp [hc, htype]
  obtain ⟨hok, hbytes⟩ := finishFrame_spec body htypec
    (by rw [hsize]; decide) (by rw [hinsert, hsize]) (by rw [hsize]; exact hbody)
  obtain ⟨fi, hfi⟩ := finishFrame_frame c
  rw [hbuild]
  refine ⟨hok, ?_, rw', fi, by rw [hfi], ?_⟩
  · rw [hbytes, hbodydef, hrw.addr]
    rfl
  · exact ⟨⟨hrw.offset, hrw.rem, hrw.addr, hrw.read, hrw.pldSize, hrw.segmented⟩, rfl⟩

/-! ## The answer -/

/-- The end of a payload, found in its frame. -/
theorem readAt_wireFrame (frag : Bool) (pre data : List UInt8) :
    readAt (wireFrame frag (pre ++ data)) (pre.length + 2) data.length = data := by
  unfold wireFrame withCrc
  dsimp only
  generalize headerWord frag (pre ++ data).length = w
  generalize [hiByte _, loByte (calcCrc16 _ _).toNat] = crc
  have hsplit := readAt_append ([hiByte w, loByte w] ++ pre) data crc
  have hlen : ([hiByte w, loByte w] ++ pre).length = pre.length + 2 := by simp
  rw [hlen] at hsplit
  simpa only [List.append_assoc] using hsplit

/-- The bookkeeping once the chunk from `done` on has been stored. -/
def afterRead (rw : RWInfo) (len : ℕ) : RWInfo :=
  { rw with
    wBytesRead := rw.wBytesRead + len
    wRemBytes := rw.wRemBytes - len
    dwAddr := (rw.dwAddr + len) % 2 ^ 32
    wOffset := rw.wOffset + len }

/-- The answer to the request that is out stores its bytes and moves the bookkeeping forward. -/
theorem acknowledge_read {memory : Memory} {addr cb ctxt wLen done : ℕ} {buf mem : List UInt8}
    {ctx : DlContext} {reserved : UInt8} (h : Reading addr cb ctxt ctx)
    (hasked : Asked addr wLen done ctx.tRWInfo) (hlt : done < wLen) (hmax : wLen ≤ 65531)
    (hbuf : ctx.tRspBuffInfo.pBuff = some (partlyRead memory addr done buf))
    (hmem : mem.take (ctx.tRWInfo.wBytesToSendRecv + 8) =
      readResponse reserved (memoryAt memory (addr + done) ctx.tRWInfo.wBytesToSendRecv)) :
    processFrame ctx
        (some ⟨NFCSTATUS.success, some mem, ctx.tRWInfo.wBytesToSendRecv + 8⟩) =
      (NFCSTATUS.success,
        { ctx with
          tRspBuffInfo :=
            ⟨some (partlyRead memory addr (done + ctx.tRWInfo.wBytesToSendRecv) buf),
              done + ctx.tRWInfo.wBytesToSendRecv⟩
          tRWInfo := afterRead ctx.tRWInfo ctx.tRWInfo.wBytesToSendRecv }) := by
  have hmin := hasked.sent
  set len := ctx.tRWInfo.wBytesToSendRecv with hlen
  set data := memoryAt memory (addr + done) len with hdata
  have hdlen : data.length = len := length_memoryAt _ _ _
  have hle : len ≤ 248 := by
    rw [hmin]
    exact Nat.min_le_left _ _
  have hrem : len ≤ wLen - done := by
    rw [hmin]
    exact Nat.min_le_right _ _
  set payload := [PhDlStatus.ok, reserved] ++ le16Bytes data.length ++ data with hpayload
  have hsize : payload.length = len + 4 := by
    simp only [hpayload, le16Bytes, List.length_append, List.length_cons, List.length_nil, hdlen]
    omega
  have hwire : mem.take (payload.length + 4) = wireFrame false payload := by
    rw [hsize]
    exact hmem
  have htype : ctx.FrameInp.type ≠ .ftRaw := by simp [h.input]
  have hprocess := processFrame_wireFrame (by rw [hsize]; omega) htype hwire
  rw [hsize] at hprocess
  -- what the response holds
  have hbyte : ∀ i < len + 8, byteAt mem i = byteAt (wireFrame false payload) i := fun i hi => by
    rw [← hwire, byteAt_take (by omega)]
  have hstatus : byteAt mem frameHdrLen = PhDlStatus.ok := hbyte 2 (by omega)
  have hlo : byteAt mem (frameHdrLen + 2) = loByte data.length := hbyte 4 (by omega)
  have hhi : byteAt mem (frameHdrLen + 3) = hiByte data.length := hbyte 5 (by omega)
  have hreadLen : be16 (byteAt mem (frameHdrLen + 3)) (byteAt mem (frameHdrLen + 2)) = len := by
    rw [hlo, hhi, be16_hiByte_loByte (by omega), hdlen]
  have hdataAt : readAt mem (frameHdrLen + minPldLen) len = data := by
    have hfit : readAt mem 6 len = readAt (mem.take (payload.length + 4)) 6 len := by
      rw [readAt, readAt, List.drop_take, List.take_take, Nat.min_eq_left (by omega)]
    have hfound := readAt_wireFrame false ([PhDlStatus.ok, reserved] ++ le16Bytes data.length) data
    rw [← hpayload, ← hwire, hdlen] at hfound
    exact hfit.trans hfound
  rw [hprocess]
  have hno : ¬ctx.tCmdId = .write := by
    rw [h.cmd]
    decide
  have hsame : ¬len ≠ ctx.tRWInfo.wBytesToSendRecv := not_not_intro rfl
  simp only [updateRsp, if_neg hno, if_pos h.cmd, if_pos hstatus, hreadLen, if_neg hsame, hdataAt,
    hbuf, Option.map_some, hasked.offset]
  rw [store_partlyRead]
  -- none of the counters wraps
  have hread : add16 ctx.tRWInfo.wBytesRead len = done + len := by
    rw [hasked.read]
    exact add16_of_lt (by omega)
  have hoffset : add16 done len = done + len := add16_of_lt (by omega)
  have hremains : sub16 ctx.tRWInfo.wRemBytes len = ctx.tRWInfo.wRemBytes - len := by
    rw [hasked.rem]
    exact sub16_of_le hrem (by omega)
  rw [← hlen, hread, hoffset, hremains, afterRead, hasked.offset, hasked.read]

end AliceHal.Pn54x.PhDnldNfc
