import AliceHal.Pn54x.PhDnldNfc.Context
import AliceHal.Pn54x.PhDnldNfc.Crc16

/-!
# Building and Decoding Download Frames

The frame functions of `phDnldNfc_Internal.c`:

- `createFramePld` fills the payload of the frame buffer for the current command;
- `buildFramePkt` checks the inputs, creates the payload and adds header and CRC;
- `processFrame` checks a received frame and hands it to `updateRsp`;
- `updateRsp` interprets the status byte and moves the read/write bookkeeping forward.

The branches of the write command are functions of their own (`createFramePldWrite`,
`updateRspWrite`): they touch nothing but `tRWInfo`, the frame buffer and `tLastStatus`.
-/

namespace AliceHal.Pn54x.PhDnldNfc

open Lib

/-- `PHDNLDNFC_SET_HDR_FRAGBIT` -/
def setHdrFragBit (n : Nat) : Nat := n ||| (1 <<< 10)

/-- `PHDNLDNFC_CLR_HDR_FRAGBIT` on a 16-bit word. -/
def clrHdrFragBit (n : Nat) : Nat := n &&& 0xFBFF

/-! ## Payload -/

/-- The write branch of `phDnldNfc_CreateFramePld` for the image at `pBuff`. -/
def createFramePldWrite (pBuff : List UInt8) (rw : RWInfo) : RWInfo × FrameInfo :=
  let wFrameLen :=
    if rw.bFramesSegmented = false then
      be16 (byteAt pBuff rw.wOffset) (byteAt pBuff (rw.wOffset + 1))
    else 0
  let wRWPldSize := if rw.bFramesSegmented = false then wFrameLen else rw.wRWPldSize
  if wRWPldSize > cmdRespMaxPldSize then
    let wRemChunkBytes := if rw.bFirstChunkResp = false then wFrameLen else rw.wRemChunkBytes
    let wOffset :=
      if rw.bFirstChunkResp = false then add16 rw.wOffset frameHdrLen else rw.wOffset
    let segmented := decide (cmdRespMaxPldSize < wRemChunkBytes)
    let wBytesToSendRecv := if segmented then cmdRespMaxPldSize else wRemChunkBytes
    ({ rw with
        wRWPldSize := wRWPldSize, wRemChunkBytes := wRemChunkBytes, wOffset := wOffset,
        wBytesToSendRecv := wBytesToSendRecv, bFramesSegmented := segmented },
      { dwSendlength := wBytesToSendRecv,
        aFrameBuff :=
          zeroFrameBuff.overwrite frameHdrLen (readAt pBuff wOffset wBytesToSendRecv) })
  else
    let wBytesToSendRecv := add16 wFrameLen frameHdrLen
    ({ rw with wRWPldSize := 0, wBytesToSendRecv := wBytesToSendRecv },
      { dwSendlength := wBytesToSendRecv,
        aFrameBuff := zeroFrameBuff.overwrite 0 (readAt pBuff rw.wOffset wBytesToSendRecv) })

/-- Little-endian bytes of a `uint16_t`, as `memcpy` copies them. -/
def le16Bytes (n : Nat) : List UInt8 := [loByte n, hiByte n]

/-- Little-endian bytes of a `uint32_t`. -/
def le32Bytes (n : Nat) : List UInt8 :=
  [UInt8.ofNat n, UInt8.ofNat (n >>> 8), UInt8.ofNat (n >>> 16), UInt8.ofNat (n >>> 24)]

/-- Bytes a `memcpy` of `tUserData` copies. -/
def userDataBytes (ctx : DlContext) : List UInt8 :=
  readAt (ctx.tUserData.pBuff.getD []) 0 ctx.tUserData.wLen

/-- `phDnldNfc_CreateFramePld` -/
def createFramePld (ctx : DlContext) : NFCSTATUS × DlContext :=
  match ctx.FrameInp.type with
  | .ftNone =>
    (NFCSTATUS.success, { ctx with tCmdRspFrameInfo := ⟨minPldLen, zeroFrameBuff⟩ })
  | .chkIntg =>
    -- EEPROM offset and length follow each other from the data offset of the frame on
    (NFCSTATUS.success, { ctx with tCmdRspFrameInfo :=
      ⟨minPldLen + 4, zeroFrameBuff.overwrite (frameHdrLen + minPldLen)
        (le16Bytes userdataEepromOffset ++ le16Bytes userdataEepromLen)⟩ })
  | .ftWrite =>
    let r := createFramePldWrite (ctx.tUserData.pBuff.getD []) ctx.tRWInfo
    (NFCSTATUS.success, { ctx with tRWInfo := r.1, tCmdRspFrameInfo := r.2 })
  | .ftRead =>
    let wBytesToSendRecv :=
      if ctx.tRWInfo.wRemBytes > ctx.tRWInfo.wRWPldSize then ctx.tRWInfo.wRWPldSize
      else ctx.tRWInfo.wRemBytes
    -- the payload offset, `sizeof` of a word further modulo the minimum length, less one
    let wBuffIdx := (minPldLen - 1) + (2 % minPldLen) - 1
    (NFCSTATUS.success, { ctx with
      tRWInfo := { ctx.tRWInfo with wBytesToSendRecv := wBytesToSendRecv },
      tCmdRspFrameInfo := ⟨minPldLen + 4, zeroFrameBuff.overwrite wBuffIdx
        (le16Bytes wBytesToSendRecv ++ le32Bytes ctx.tRWInfo.dwAddr)⟩ })
  | .ftLog =>
    (NFCSTATUS.success, { ctx with tCmdRspFrameInfo :=
      ⟨add16 minPldLen ctx.tUserData.wLen,
        zeroFrameBuff.overwrite (minPldLen + frameHdrLen) (userDataBytes ctx)⟩ })
  | .ftForce =>
    (NFCSTATUS.success, { ctx with tCmdRspFrameInfo :=
      ⟨minPldLen, zeroFrameBuff.overwrite (minPldLen - 1) (userDataBytes ctx)⟩ })
  | .ftRaw =>
    if ctx.tUserData.wLen = 0 ∨ ctx.tUserData.pBuff = none then
      (phNfcStVal cidNfcDnld NFCSTATUS.invalidParameter,
        { ctx with tCmdRspFrameInfo := ⟨0, zeroFrameBuff⟩ })
    else
      (NFCSTATUS.success, { ctx with tCmdRspFrameInfo :=
        ⟨ctx.tUserData.wLen, zeroFrameBuff.overwrite 0 (userDataBytes ctx)⟩ })

/-! ## Frame -/

/-- The input checks at the head of `phDnldNfc_BuildFramePkt`, with the bookkeeping they set
up for the first frame of a write or read. -/
def verifyFrameInputs (ctx : DlContext) : NFCSTATUS × DlContext :=
  match ctx.FrameInp.type with
  | .ftWrite =>
    if ctx.tUserData.wLen = 0 ∨ ctx.tUserData.pBuff = none then
      (phNfcStVal cidNfcDnld NFCSTATUS.invalidParameter, ctx)
    else if ctx.tRWInfo.bFirstWrReq = true then
      (NFCSTATUS.success, { ctx with tRWInfo :=
        { ctx.tRWInfo with wRemBytes := ctx.tUserData.wLen, wOffset := 0 } })
    else (NFCSTATUS.success, ctx)
  | .ftRead =>
    if ctx.tRspBuffInfo.wLen = 0 ∨ ctx.tRspBuffInfo.pBuff = none then
      (phNfcStVal cidNfcDnld NFCSTATUS.invalidParameter, ctx)
    else if ctx.tRWInfo.bFramesSegmented = false then
      let wFrameLen := add16 ctx.tRspBuffInfo.wLen minPldLen
      (NFCSTATUS.success, { ctx with tRWInfo :=
        { ctx.tRWInfo with
          wRWPldSize := cmdRespMaxPldSize - minPldLen,
          wRemBytes := ctx.tRspBuffInfo.wLen,
          dwAddr := ctx.FrameInp.dwAddr,
          wOffset := 0,
          wBytesRead := 0,
          bFramesSegmented := decide (cmdRespMaxPldSize < wFrameLen) } })
    else (NFCSTATUS.success, ctx)
  | .ftLog =>
    if ctx.tUserData.wLen = 0 ∨ ctx.tUserData.pBuff = none then
      (phNfcStVal cidNfcDnld NFCSTATUS.invalidParameter, ctx)
    else (NFCSTATUS.success, ctx)
  | _ => (NFCSTATUS.success, ctx)

/-- Header of a frame with a builder-written length: the buffer with it and the number of
bytes in front of the CRC. A write frame copied whole from the image keeps its own header. -/
def insertHeader (ctx : DlContext) : Buffer cmdRespMaxBuffSize × Nat :=
  let wFrameLen := ctx.tCmdRspFrameInfo.dwSendlength
  let buff := ctx.tCmdRspFrameInfo.aFrameBuff
  if ctx.FrameInp.type ≠ .ftWrite then
    (buff.overwrite 0 [hiByte wFrameLen, loByte wFrameLen, ctx.tCmdId.toByte],
      add16 wFrameLen frameHdrLen)
  else if ctx.tRWInfo.wRWPldSize ≠ 0 then
    let wFrameLen := if ctx.tRWInfo.bFramesSegmented = true then setHdrFragBit wFrameLen
      else wFrameLen
    (buff.overwrite 0 [hiByte wFrameLen, loByte wFrameLen],
      add16 (clrHdrFragBit wFrameLen) frameHdrLen)
  else (buff, wFrameLen)

/-- Header and CRC of a created payload. -/
def finishFrame (ctx : DlContext) : NFCSTATUS × DlContext :=
  if ctx.FrameInp.type ≠ .ftRaw then
    let (buff, wFrameLen) := insertHeader ctx
    if wFrameLen > cmdRespMaxBuffSize then
      (NFCSTATUS.failed, { ctx with tCmdRspFrameInfo :=
        { ctx.tCmdRspFrameInfo with aFrameBuff := buff } })
    else
      let wCrcVal := (calcCrc16 buff.bytes wFrameLen).toNat
      (NFCSTATUS.success, { ctx with tCmdRspFrameInfo :=
        ⟨add16 wFrameLen frameCrcLen,
          buff.overwrite wFrameLen [hiByte wCrcVal, loByte wCrcVal]⟩ })
  else (NFCSTATUS.success, ctx)

/-- `phDnldNfc_BuildFramePkt` -/
def buildFramePkt (ctx : DlContext) : NFCSTATUS × DlContext :=
  let (wStatus, ctx) := verifyFrameInputs ctx
  let (wStatus, ctx) := if wStatus = NFCSTATUS.success then createFramePld ctx else (wStatus, ctx)
  if wStatus = NFCSTATUS.success then finishFrame ctx
  else (phNfcStVal cidNfcDnld NFCSTATUS.failed, ctx)

/-- The bytes `phTmlNfc_Write` is given: `dwSendlength` bytes of the frame buffer. -/
def frameBytes (ctx : DlContext) : List UInt8 :=
  ctx.tCmdRspFrameInfo.aFrameBuff.bytes.take ctx.tCmdRspFrameInfo.dwSendlength

/-! ## Response -/

/-- The write branch of `phDnldNfc_UpdateRsp` for the status byte `st`: the status, the new
bookkeeping and the new `tLastStatus`. -/
def updateRspWrite (st : UInt8) (rw : RWInfo) (tLastStatus : UInt8) :
    NFCSTATUS × RWInfo × UInt8 :=
  if st = PhDlStatus.ok then
    let rw := { rw with bFirstWrReq := false }
    if rw.bFirstChunkResp = true then
      if rw.bFramesSegmented = false then
        (NFCSTATUS.success,
          { rw with
            wRemChunkBytes := sub16 rw.wRemChunkBytes rw.wBytesToSendRecv,
            bFirstChunkResp := false,
            wRemBytes := sub16 rw.wRemBytes rw.wBytesToSendRecv,
            wOffset := add16 rw.wOffset rw.wBytesToSendRecv }, tLastStatus)
      else (phNfcStVal cidNfcDnld NFCSTATUS.failed, rw, tLastStatus)
    else
      (NFCSTATUS.success,
        { rw with
          wRemBytes := sub16 rw.wRemBytes rw.wBytesToSendRecv,
          wOffset := add16 rw.wOffset rw.wBytesToSendRecv }, tLastStatus)
  else if rw.bFirstChunkResp = false ∧ rw.bFramesSegmented = true ∧ st = firstFragFrameResp then
    (NFCSTATUS.success,
      { rw with
        bFirstChunkResp := true,
        wRemChunkBytes := sub16 rw.wRemChunkBytes rw.wBytesToSendRecv,
        wRemBytes := sub16 rw.wRemBytes (rw.wBytesToSendRecv + frameHdrLen),
        wOffset := add16 rw.wOffset rw.wBytesToSendRecv,
        bFirstWrReq := false }, tLastStatus)
  else if rw.bFirstChunkResp = true ∧ rw.bFramesSegmented = true ∧ st = nextFragFrameResp then
    (NFCSTATUS.success,
      { rw with
        wRemChunkBytes := sub16 rw.wRemChunkBytes rw.wBytesToSendRecv,
        wRemBytes := sub16 rw.wRemBytes rw.wBytesToSendRecv,
        wOffset := add16 rw.wOffset rw.wBytesToSendRecv }, tLastStatus)
  else if st = PhDlStatus.firmwareVersionError then
    (NFCSTATUS.fwVersionError,
      { rw with bFirstWrReq := false, wRemBytes := 0, wOffset := 0 }, tLastStatus)
  else if st = PhDlStatus.pllError then
    (NFCSTATUS.writeFailed, rw, PhDlStatus.pllError)
  else if st = PhDlStatus.signatureError then
    (NFCSTATUS.rejected, rw, PhDlStatus.signatureError)
  else if st = PhDlStatus.memBsy then
    (NFCSTATUS.busy, rw, PhDlStatus.memBsy)
  else (phNfcStVal cidNfcDnld NFCSTATUS.failed, rw, tLastStatus)

/-- `phDnldNfc_UpdateRsp` for the received bytes `pBuff`. -/
def updateRsp (ctx : DlContext) (pBuff : List UInt8) (wPldLen : Nat) : NFCSTATUS × DlContext :=
  let st := byteAt pBuff frameHdrLen
  if ctx.tCmdId = .write then
    let r := updateRspWrite st ctx.tRWInfo ctx.tLastStatus
    (r.1, { ctx with tRWInfo := r.2.1, tLastStatus := r.2.2 })
  else if ctx.tCmdId = .read then
    if st = PhDlStatus.ok then
      let wReadLen := be16 (byteAt pBuff (frameHdrLen + 3)) (byteAt pBuff (frameHdrLen + 2))
      let rw := ctx.tRWInfo
      if wReadLen ≠ rw.wBytesToSendRecv then
        (phNfcStVal cidNfcDnld NFCSTATUS.failed, ctx)
      else
        let data := readAt pBuff (frameHdrLen + minPldLen) wReadLen
        (NFCSTATUS.success,
          { ctx with
            tRspBuffInfo :=
              ⟨ctx.tRspBuffInfo.pBuff.map fun mem => store mem rw.wOffset data,
                add16 rw.wBytesRead wReadLen⟩,
            tRWInfo :=
              { rw with
                wBytesRead := add16 rw.wBytesRead wReadLen,
                wRemBytes := sub16 rw.wRemBytes rw.wBytesToSendRecv,
                dwAddr := (rw.dwAddr + rw.wBytesToSendRecv) % 2 ^ 32,
                wOffset := add16 rw.wOffset rw.wBytesToSendRecv } })
    else (phNfcStVal cidNfcDnld NFCSTATUS.failed, ctx)
  else if st = PhDlStatus.ok then
    if ctx.tRspBuffInfo.wLen ≠ 0 ∧ ctx.tRspBuffInfo.pBuff ≠ none then
      let data := readAt pBuff (frameHdrLen + 1) wPldLen
      (NFCSTATUS.success, { ctx with tRspBuffInfo :=
        ⟨ctx.tRspBuffInfo.pBuff.map fun mem => store mem 0 data, wPldLen⟩ })
    else (NFCSTATUS.success, ctx)
  else (phNfcStVal cidNfcDnld NFCSTATUS.failed, ctx)

/-- `phDnldNfc_ProcessFrame` -/
def processFrame (ctx : DlContext) (pInfo : Option TransactInfo) : NFCSTATUS × DlContext :=
  match pInfo with
  | none => (phNfcStVal cidNfcDnld NFCSTATUS.invalidParameter, ctx)
  | some info =>
    match info.pBuff with
    | none => (phNfcStVal cidNfcDnld NFCSTATUS.failed, ctx)
    | some pBuff =>
      if info.wStatus ≠ NFCSTATUS.success ∨ info.wLength = 0 then
        (phNfcStVal cidNfcDnld NFCSTATUS.failed, ctx)
      else if ctx.FrameInp.type = .ftRaw then
        if ctx.tRspBuffInfo.wLen ≠ 0 ∧ ctx.tRspBuffInfo.pBuff ≠ none then
          (NFCSTATUS.success, { ctx with tRspBuffInfo :=
            ⟨ctx.tRspBuffInfo.pBuff.map fun mem => store mem 0 (readAt pBuff 0 info.wLength),
              info.wLength⟩ })
        else (NFCSTATUS.success, ctx)
      else
        let wCrcVal := (calcCrc16 pBuff (sub16 info.wLength frameCrcLen)).toNat
        let wRecvdCrc :=
          be16 (byteAt pBuff (sub16 info.wLength 2)) (byteAt pBuff (sub16 info.wLength 1))
        if wRecvdCrc = wCrcVal then
          let wRecvdLen := be16 (byteAt pBuff 0) (byteAt pBuff 1)
          let wPldLen := sub16 info.wLength (frameHdrLen + frameCrcLen)
          if wRecvdLen ≠ wPldLen then (phNfcStVal cidNfcDnld NFCSTATUS.failed, ctx)
          else updateRsp ctx pBuff (sub16 wPldLen 1)
        else (phNfcStVal cidNfcDnld NFCSTATUS.failed, ctx)

/-- `phDnldNfc_ProcessRecvInfo` for a context that is not `NULL`. -/
def processRecvInfo (pInfo : Option TransactInfo) : NFCSTATUS :=
  match pInfo with
  | none => phNfcStVal cidNfcDnld NFCSTATUS.failed
  | some info =>
    if phNfcStatus info.wStatus = NFCSTATUS.success then NFCSTATUS.success
    else phNfcStVal cidNfcDnld NFCSTATUS.failed

/-! ## What the functions touch

Building changes the bookkeeping and the frame buffer, processing a response the bookkeeping,
the caller's response buffer and the last status. -/

theorem verifyFrameInputs_frame (ctx : DlContext) :
    ∃ rw, (verifyFrameInputs ctx).2 = { ctx with tRWInfo := rw } := by
  unfold verifyFrameInputs
  split
  · split
    · exact ⟨ctx.tRWInfo, rfl⟩
    · split
      · exact ⟨_, rfl⟩
      · exact ⟨ctx.tRWInfo, rfl⟩
  · split
    · exact ⟨ctx.tRWInfo, rfl⟩
    · split
      · exact ⟨_, rfl⟩
      · exact ⟨ctx.tRWInfo, rfl⟩
  · split <;> exact ⟨ctx.tRWInfo, rfl⟩
  · exact ⟨ctx.tRWInfo, rfl⟩

theorem createFramePld_frame (ctx : DlContext) :
    ∃ rw fi, (createFramePld ctx).2 = { ctx with tRWInfo := rw, tCmdRspFrameInfo := fi } := by
  unfold createFramePld
  split
  case h_7 => split <;> exact ⟨ctx.tRWInfo, _, rfl⟩
  all_goals first | exact ⟨ctx.tRWInfo, _, rfl⟩ | exact ⟨_, _, rfl⟩

theorem finishFrame_frame (ctx : DlContext) :
    ∃ fi, (finishFrame ctx).2 = { ctx with tCmdRspFrameInfo := fi } := by
  unfold finishFrame
  split
  · dsimp only
    split <;> exact ⟨_, rfl⟩
  · exact ⟨ctx.tCmdRspFrameInfo, rfl⟩

theorem buildFramePkt_frame (ctx : DlContext) :
    ∃ rw fi, (buildFramePkt ctx).2 = { ctx with tRWInfo := rw, tCmdRspFrameInfo := fi } := by
  obtain ⟨rw₁, h₁⟩ := verifyFrameInputs_frame ctx
  unfold buildFramePkt
  dsimp only
  rw [h₁]
  split
  · obtain ⟨rw₂, fi₂, h₂⟩ := createFramePld_frame { ctx with tRWInfo := rw₁ }
    rw [h₂]
    split
    · obtain ⟨fi₃, h₃⟩ := finishFrame_frame { ctx with tRWInfo := rw₂, tCmdRspFrameInfo := fi₂ }
      exact ⟨rw₂, fi₃, h₃⟩
    · exact ⟨rw₂, fi₂, rfl⟩
  · exact ⟨rw₁, ctx.tCmdRspFrameInfo, rfl⟩

/-- A write response moves the progress of the transfer, not its segmentation. -/
theorem updateRspWrite_segmentation (st : UInt8) (rw : RWInfo) (tLastStatus : UInt8) :
    (updateRspWrite st rw tLastStatus).2.1.bFramesSegmented = rw.bFramesSegmented ∧
      (updateRspWrite st rw tLastStatus).2.1.wRWPldSize = rw.wRWPldSize := by
  unfold updateRspWrite
  repeat' first | split | exact ⟨rfl, rfl⟩ | dsimp only

theorem updateRsp_frame (ctx : DlContext) (pBuff : List UInt8) (wPldLen : Nat) :
    ∃ rb rw ls, (updateRsp ctx pBuff wPldLen).2 =
        { ctx with tRspBuffInfo := rb, tRWInfo := rw, tLastStatus := ls } ∧
      rw.bFramesSegmented = ctx.tRWInfo.bFramesSegmented ∧
      rw.wRWPldSize = ctx.tRWInfo.wRWPldSize := by
  unfold updateRsp
  dsimp only
  split
  · exact ⟨ctx.tRspBuffInfo, _, _, rfl, updateRspWrite_segmentation _ _ _⟩
  · repeat' split
    all_goals exact ⟨_, _, _, rfl, rfl, rfl⟩

theorem processFrame_frame (ctx : DlContext) (pInfo : Option TransactInfo) :
    ∃ rb rw ls, (processFrame ctx pInfo).2 =
        { ctx with tRspBuffInfo := rb, tRWInfo := rw, tLastStatus := ls } ∧
      rw.bFramesSegmented = ctx.tRWInfo.bFramesSegmented ∧
      rw.wRWPldSize = ctx.tRWInfo.wRWPldSize := by
  have hsame : ∃ rb rw ls, ctx = { ctx with tRspBuffInfo := rb, tRWInfo := rw, tLastStatus := ls } ∧
      rw.bFramesSegmented = ctx.tRWInfo.bFramesSegmented ∧
      rw.wRWPldSize = ctx.tRWInfo.wRWPldSize := ⟨_, _, _, rfl, rfl, rfl⟩
  unfold processFrame
  split
  · exact hsame
  split
  · exact hsame
  split
  · exact hsame
  split
  · split
    · exact ⟨_, _, _, rfl, rfl, rfl⟩
    · exact hsame
  · dsimp only
    split
    · split
      · exact hsame
      · exact updateRsp_frame _ _ _
    · exact hsame

end AliceHal.Pn54x.PhDnldNfc
