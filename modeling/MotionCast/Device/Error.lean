/-! What can go wrong with a device. -/

namespace MotionCast

/-- Why a device cannot be opened, read or written. -/
inductive DeviceError where
  /-- The operating system refused, with its reason. -/
  | io (reason : String)
  | notFound (name : String)
  /-- The device has no more data to come. -/
  | disconnected
  | unsupported (operation : String)
  | backend (reason : String)
deriving DecidableEq, Repr

/-- The text of an error. -/
def DeviceError.message : DeviceError → String
  | io reason => "IO error: " ++ reason
  | notFound name => "Device not found: " ++ name
  | disconnected => "Device disconnected"
  | unsupported operation => "Operation not supported: " ++ operation
  | backend reason => "Backend error: " ++ reason

end MotionCast
