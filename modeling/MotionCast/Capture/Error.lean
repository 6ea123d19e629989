import MotionCast.Device.Error

/-! Why a capture cannot start. -/

namespace MotionCast

/-- Why a capture cannot start. -/
inductive CaptureError where
  | device (cause : DeviceError)
  /-- The system did not give the worker `name` a thread. -/
  | spawn (name reason : String)
  | invalidConfig (reason : String)
deriving DecidableEq, Repr

/-- The text of an error. -/
def CaptureError.message : CaptureError → String
  | device cause => "HID device error: " ++ cause.message
  | spawn name reason => "Failed to spawn thread " ++ name ++ ": " ++ reason
  | invalidConfig reason => "Invalid configuration: " ++ reason

end MotionCast
