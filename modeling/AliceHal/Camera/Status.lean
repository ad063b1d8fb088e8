import Mathlib

/-!
# Statuses

The statuses of the camera interface and the numbers that the HAL uses for them, as in
`CameraDevice::getHidlStatus` and `CameraDevice::getStatusT`.
-/

namespace AliceHal.Camera

/-- `Status` of the camera interface. -/
inductive Status where
  | ok | illegalArgument | cameraInUse | maxCamerasInUse | methodNotSupported
  | operationNotSupported | cameraDisconnected | internalError
  deriving DecidableEq, Repr

/-- `INVALID_OPERATION`, which is `-ENOSYS`. -/
def invalidOperation : ℤ := -38

/-- `BAD_VALUE`, which is `-EINVAL`. -/
def badValue : ℤ := -22

/-- The status for what the HAL returns. -/
def getHidlStatus (status : ℤ) : Status :=
  if status = 0 then .ok
  else if status = -38 then .operationNotSupported
  else if status = -16 then .cameraInUse
  else if status = -87 then .maxCamerasInUse
  else if status = -19 then .internalError
  else if status = -22 then .illegalArgument
  else .internalError

/-- The number that the HAL is given for a status. -/
def getStatusT : Status → ℤ
  | .ok => 0
  | .illegalArgument => badValue
  | .cameraInUse => -16
  | .maxCamerasInUse => -87
  | .methodNotSupported => -74
  | .operationNotSupported => invalidOperation
  | .cameraDisconnected => -32
  | .internalError => invalidOperation

end AliceHal.Camera
