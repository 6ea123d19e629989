import MotionCast.Capture.Error
import MotionCast.Sampling.Report
import MotionCast.Server.Endpoint
import MotionCast.Wire.Event

/-! Why the server, or the source of motion behind it, fails. -/

namespace MotionCast

/-- Why serving motion fails. -/
inductive ServeError where
  /-- The endpoint cannot be listened on. -/
  | bind (endpoint : Endpoint) (reason : String)
  | io (reason : String)
  | wire (cause : WireError)
  | capture (cause : CaptureError)
  | shortReport (cause : ShortReport)
deriving DecidableEq

/-- The text of an error. -/
def ServeError.message : ServeError → String
  | bind endpoint reason => "Failed to bind UDP socket at " ++ endpoint.toText ++ ": " ++ reason
  | io reason => "IO error: " ++ reason
  | wire cause => "Protocol error: " ++ cause.message
  | capture cause => "Driver error: " ++ cause.message
  | shortReport cause => cause.message

/-- The system's reason for refusing an endpoint that is taken. -/
def addressInUse : String := "Address already in use (os error 98)"

/-- The reason for refusing to wait for no time at all. -/
def noTimeout : String := "cannot set a 0 duration timeout"

end MotionCast
