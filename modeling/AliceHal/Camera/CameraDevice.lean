import AliceHal.Lib.Machine
import AliceHal.Lib.Since
import AliceHal.Camera.Status

/-!
# The Camera Device

`CameraDevice` of `CameraDevice.cpp`: the device of the HAL that a client has opened, and the memory
that the HAL gets through it. Calls of the client hold `mLock`, so one goes on at a time; the HAL
gets memory and puts it back from threads of its own. `releaseRecordingFrameLocked` looks a memory
up under `mMemoryMapLock` and uses it after that, so the HAL may come in between: the lookup and the
use are two steps. Every other call is one step.

A step is not taken where the HAL puts back memory, or passes on frames of memory, that it does not
have, or where the allocator returns an address that is in use.

- `CameraDevice`, `DeviceCall`, `CameraDevice.step`: the device and the calls
-/

namespace AliceHal.Camera

open Lib

/-! ## The HAL and the client -/

/-- The functions of a device of the HAL. -/
inductive HalOp where
  | setCallbacks | setPreviewWindow | enableMsgType | disableMsgType | msgTypeEnabled | startPreview
  | stopPreview | previewEnabled | storeMetaDataInBuffers | startRecording | stopRecording
  | recordingEnabled | releaseRecordingFrame | autoFocus | cancelAutoFocus | takePicture
  | cancelPicture | setParameters | getParameters | putParameters | sendCommand | dump
  deriving DecidableEq, Repr

/-- What is seen of a call. -/
inductive DeviceEvent where
  /-- the module opened a device -/
  | opened (device : ℕ)
  | closed (device : ℕ)
  /-- the pointer to an open device is overwritten -/
  | replaced (device : ℕ)
  /-- a function of a device is called -/
  | hal (device : ℕ) (op : HalOp)
  /-- the client registers memory of some buffers, by the number that it returns -/
  | registered (memId : UInt32) (address bufSize numBufs : ℕ)
  /-- memory is put back, and the client told -/
  | unregistered (memId : UInt32) (address : ℕ)
  /-- the client hears of a frame in memory -/
  | dataCallback (memId : UInt32) (index : ℕ)
  /-- a frame in memory is looked up -/
  | found (memId : UInt32) (address index : ℕ)
  /-- a frame in memory is accessed for the client -/
  | used (memId : UInt32) (address index : ℕ)
  deriving DecidableEq, Repr

/-- What a method returns. -/
inductive DeviceResult where
  | void
  | bool (b : Bool)
  | status (s : Status)
  deriving DecidableEq, Repr

/-- What a call does, and what it returns. -/
structure DeviceOutput where
  events : List DeviceEvent
  result : DeviceResult
  deriving DecidableEq, Repr

/-- `CameraHeapMemory`: buffers of one size, and the number that the client has given it. -/
structure CameraHeapMemory where
  mBufSize : ℕ
  mNumBufs : ℕ
  mId : UInt32
  deriving DecidableEq, Repr

/-- A frame that the client gives back: with a handle or without one. -/
structure VideoFrame where
  memId : UInt32
  bufferIndex : ℕ
  hasHandle : Bool
  deriving DecidableEq, Repr

/-! ## The device -/

/-- The device. -/
structure CameraDevice where
  mDevice : Option ℕ
  mDeviceCallback : Option ℕ
  mMemoryMap : UInt32 → Option ℕ
  /-- the memory that the HAL has, by its address -/
  memories : ℕ → Option CameraHeapMemory
  /-- the frames that a call of the client has still to release -/
  releasing : List VideoFrame
  /-- the frame it has looked up, with the memory that it found -/
  found : Option (ℕ × VideoFrame)
  /-- the device is destroyed -/
  destroyed : Bool

/-- What the module does when a device is opened: the result of `getCameraInfo`, that of opening with
the device it sets, and whether the device takes callbacks. -/
structure OpenReply where
  info : ℤ
  rc : ℤ
  device : ℕ
  takesCallbacks : Bool
  deriving DecidableEq, Repr

/-- The methods of the client that call one function of the device. -/
inductive Method where
  | storeMetaDataInBuffers (enable : Bool)
  | setPreviewWindow | enableMsgType | disableMsgType | msgTypeEnabled | startPreview | stopPreview
  | previewEnabled | startRecording | stopRecording | recordingEnabled | autoFocus
  | cancelAutoFocus | takePicture | cancelPicture | setParameters | sendCommand
  deriving DecidableEq, Repr

/-- A step: a call, with what the HAL returns; `none` for a function that the HAL does not have. -/
inductive DeviceCall where
  | setConnectionStatus (connected : Bool)
  | open (callback : ℕ) (reply : OpenReply)
  | close
  | method (m : Method) (rc : Option ℤ)
  /-- with whether the HAL has `put_parameters` -/
  | getParameters (provided putProvided : Bool)
  /-- with the numbers of descriptors and integers in the handle -/
  | dumpState (handle : Option (ℕ × ℕ)) (rc : Option ℤ)
  /-- `releaseRecordingFrame`, `releaseRecordingFrameHandle` and
  `releaseRecordingFrameHandleBatch` -/
  | releaseRecordingFrames (frames : List VideoFrame)
  /-- the next frame is looked up -/
  | lookUp (provided : Bool)
  /-- the frame is used: whether it holds the metadata of a handle, and whether the handle is
  cloned -/
  | use (isHandleSource cloned : Bool)
  /-- `sGetMemory`, with the address of the object and the number that the client returns -/
  | getMemory (bufSize numBufs : ℕ) (address : ℕ) (memId : UInt32)
  /-- `sPutMemory` -/
  | putMemory (address : ℕ)
  /-- `sDataCb` -/
  | dataCb (address index : ℕ)
  | destroy
  deriving DecidableEq, Repr

namespace CameraDevice

/-- A new device. -/
def init : CameraDevice where
  mDevice := none
  mDeviceCallback := none
  mMemoryMap := fun _ => none
  memories := fun _ => none
  releasing := []
  found := none
  destroyed := false

/-- `closeLocked` -/
def closeLocked (d : CameraDevice) : CameraDevice × List DeviceEvent :=
  match d.mDevice with
  | none => (d, [])
  | some device => ({ d with mDevice := none }, [.closed device])

/-- `setConnectionStatus` -/
def setConnectionStatus (d : CameraDevice) (connected : Bool) : CameraDevice × DeviceOutput :=
  if connected then (d, ⟨[], .void⟩) else (d.closeLocked.1, ⟨d.closeLocked.2, .void⟩)

/-- `open`. A device that is open already is not closed. -/
def «open» (d : CameraDevice) (callback : ℕ) (reply : OpenReply) : CameraDevice × DeviceOutput :=
  if reply.info ≠ 0 then (d, ⟨[], .status (getHidlStatus reply.info)⟩)
  else
    let replaced := d.mDevice.toList.map DeviceEvent.replaced
    if reply.rc ≠ 0 then
      ({ d with mDevice := none }, ⟨replaced, .status (getHidlStatus reply.rc)⟩)
    else
      ({ d with mDevice := some reply.device, mDeviceCallback := some callback },
        ⟨replaced ++ .opened reply.device ::
          (if reply.takesCallbacks then [.hal reply.device .setCallbacks] else []),
          .status (getHidlStatus reply.rc)⟩)

/-- A method without a result. -/
def voidCall (d : CameraDevice) (op : HalOp) (rc : Option ℤ) : DeviceOutput :=
  match d.mDevice, rc with
  | some device, some _ => ⟨[.hal device op], .void⟩
  | _, _ => ⟨[], .void⟩

/-- A method that returns a truth value. -/
def boolCall (d : CameraDevice) (op : HalOp) (rc : Option ℤ) : DeviceOutput :=
  match d.mDevice, rc with
  | some device, some rc => ⟨[.hal device op], .bool (rc != 0)⟩
  | _, _ => ⟨[], .bool false⟩

/-- A method that returns a status, and the status for a HAL that does not have the function. -/
def statusCall (d : CameraDevice) (op : HalOp) (missing : Status) (rc : Option ℤ) : DeviceOutput :=
  match d.mDevice, rc with
  | none, _ => ⟨[], .status .operationNotSupported⟩
  | some _, none => ⟨[], .status missing⟩
  | some device, some rc => ⟨[.hal device op], .status (getHidlStatus rc)⟩

/-- Without the function the mode cannot be entered, but it can be left. -/
def storeMetaDataInBuffers (d : CameraDevice) (enable : Bool) :=
  d.statusCall .storeMetaDataInBuffers (if enable then .illegalArgument else .ok)

def setPreviewWindow (d : CameraDevice) := d.statusCall .setPreviewWindow .internalError
def enableMsgType (d : CameraDevice) := d.voidCall .enableMsgType
def disableMsgType (d : CameraDevice) := d.voidCall .disableMsgType
def msgTypeEnabled (d : CameraDevice) := d.boolCall .msgTypeEnabled
def startPreview (d : CameraDevice) := d.statusCall .startPreview .internalError
def stopPreview (d : CameraDevice) := d.voidCall .stopPreview
def previewEnabled (d : CameraDevice) := d.boolCall .previewEnabled
def startRecording (d : CameraDevice) := d.statusCall .startRecording .illegalArgument
def stopRecording (d : CameraDevice) := d.voidCall .stopRecording
def recordingEnabled (d : CameraDevice) := d.boolCall .recordingEnabled
def autoFocus (d : CameraDevice) := d.statusCall .autoFocus .illegalArgument
def cancelAutoFocus (d : CameraDevice) := d.statusCall .cancelAutoFocus .illegalArgument
def takePicture (d : CameraDevice) := d.statusCall .takePicture .illegalArgument
def cancelPicture (d : CameraDevice) := d.statusCall .cancelPicture .illegalArgument
def setParameters (d : CameraDevice) := d.statusCall .setParameters .illegalArgument
def sendCommand (d : CameraDevice) := d.statusCall .sendCommand .illegalArgument

/-- The method that is called. -/
def method (d : CameraDevice) : Method → Option ℤ → DeviceOutput
  | .storeMetaDataInBuffers enable => d.storeMetaDataInBuffers enable
  | .setPreviewWindow => d.setPreviewWindow
  | .enableMsgType => d.enableMsgType
  | .disableMsgType => d.disableMsgType
  | .msgTypeEnabled => d.msgTypeEnabled
  | .startPreview => d.startPreview
  | .stopPreview => d.stopPreview
  | .previewEnabled => d.previewEnabled
  | .startRecording => d.startRecording
  | .stopRecording => d.stopRecording
  | .recordingEnabled => d.recordingEnabled
  | .autoFocus => d.autoFocus
  | .cancelAutoFocus => d.cancelAutoFocus
  | .takePicture => d.takePicture
  | .cancelPicture => d.cancelPicture
  | .setParameters => d.setParameters
  | .sendCommand => d.sendCommand

/-- `getParameters`; what is not put back is freed. -/
def getParameters (d : CameraDevice) (provided putProvided : Bool) : DeviceOutput :=
  match d.mDevice with
  | none => ⟨[], .void⟩
  | some device =>
    ⟨if provided then
      .hal device .getParameters :: (if putProvided then [.hal device .putParameters] else [])
      else [], .void⟩

/-- `dumpState` -/
def dumpState (d : CameraDevice) (handle : Option (ℕ × ℕ)) (rc : Option ℤ) : DeviceOutput :=
  if handle ≠ some (1, 0) then ⟨[], .status .illegalArgument⟩
  else
    match d.mDevice, rc with
    | some device, some rc => ⟨[.hal device .dump], .status (getHidlStatus rc)⟩
    | _, _ => ⟨[], .status .ok⟩

/-- `releaseRecordingFrameLocked`, up to the end of `mMemoryMapLock`. -/
def lookUp (d : CameraDevice) (provided : Bool) : Option (CameraDevice × DeviceOutput) :=
  match d.found, d.releasing with
  | none, frame :: frames =>
    let skip := ({ d with releasing := frames }, ⟨[], .void⟩)
    if d.mDevice = none ∨ provided = false then some skip
    else
      match d.mMemoryMap frame.memId with
      | none => some skip
      | some address =>
        some ({ d with releasing := frames, found := some (address, frame) },
          ⟨[.found frame.memId address frame.bufferIndex], .void⟩)
  | _, _ => none

/-- The rest of `releaseRecordingFrameLocked`, with the memory that was found. -/
def use (d : CameraDevice) (isHandleSource cloned : Bool) : Option (CameraDevice × DeviceOutput) :=
  match d.mDevice, d.found with
  | some device, some (address, frame) =>
    let done := { d with found := none }
    match d.memories address with
    -- the object is gone: what is read there is not known
    | none => some (done, ⟨[.used frame.memId address frame.bufferIndex], .void⟩)
    | some memory =>
      if memory.mNumBufs ≤ frame.bufferIndex then some (done, ⟨[], .void⟩)
      else if frame.hasHandle && !(isHandleSource && cloned) then
        some (done, ⟨[.used frame.memId address frame.bufferIndex], .void⟩)
      else
        some (done, ⟨[.used frame.memId address frame.bufferIndex,
          .hal device .releaseRecordingFrame], .void⟩)
  | _, _ => none

/-- `sGetMemory`, where the memory is allocated and mapped. -/
def sGetMemory (d : CameraDevice) (bufSize numBufs address : ℕ) (memId : UInt32) :
    Option (CameraDevice × DeviceOutput) :=
  match d.mDeviceCallback with
  | none => some (d, ⟨[], .void⟩)
  | some _ =>
    if (d.memories address).isSome then none
    else
      some ({ d with
        memories := Function.update d.memories address (some ⟨bufSize, numBufs, memId⟩)
        mMemoryMap := Function.update d.mMemoryMap memId (some address) },
        ⟨[.registered memId address bufSize numBufs], .void⟩)

/-- `sPutMemory` -/
def sPutMemory (d : CameraDevice) (address : ℕ) : Option (CameraDevice × DeviceOutput) :=
  match d.memories address with
  | none => none
  | some memory =>
    some ({ d with
      memories := Function.update d.memories address none
      mMemoryMap := Function.update d.mMemoryMap memory.mId none },
      ⟨[.unregistered memory.mId address], .void⟩)

/-- `sDataCb` -/
def sDataCb (d : CameraDevice) (address index : ℕ) : Option (CameraDevice × DeviceOutput) :=
  match d.memories address with
  | none => none
  | some memory =>
    if memory.mNumBufs ≤ index ∨ d.mDeviceCallback = none then some (d, ⟨[], .void⟩)
    else some (d, ⟨[.dataCallback memory.mId index], .void⟩)

/-- A call of the client, which waits for `mLock`. -/
def locked (d : CameraDevice) (r : CameraDevice × DeviceOutput) :
    Option (CameraDevice × DeviceOutput) :=
  if d.releasing = [] ∧ d.found = none then some r else none

/-- One step. -/
def step (d : CameraDevice) (call : DeviceCall) : Option (CameraDevice × DeviceOutput) :=
  if d.destroyed then none
  else
    match call with
    | .setConnectionStatus connected => d.locked (d.setConnectionStatus connected)
    | .open callback reply => d.locked (d.open callback reply)
    | .close => d.locked (d.closeLocked.1, ⟨d.closeLocked.2, .void⟩)
    | .method m rc => d.locked (d, d.method m rc)
    | .getParameters provided putProvided => d.locked (d, d.getParameters provided putProvided)
    | .dumpState handle rc => d.locked (d, d.dumpState handle rc)
    | .releaseRecordingFrames frames => d.locked ({ d with releasing := frames }, ⟨[], .void⟩)
    | .lookUp provided => d.lookUp provided
    | .use isHandleSource cloned => d.use isHandleSource cloned
    | .getMemory bufSize numBufs address memId => d.sGetMemory bufSize numBufs address memId
    | .putMemory address => d.sPutMemory address
    | .dataCb address index => d.sDataCb address index
    | .destroy =>
      d.locked ({ d.closeLocked.1 with destroyed := true }, ⟨d.closeLocked.2, .void⟩)

end CameraDevice

end AliceHal.Camera
