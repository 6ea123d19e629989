/-! What the server is doing about motion data. -/

namespace MotionCast

/-- Whether motion data is being sent. -/
inductive BroadcastState where
  /-- There is no client, and the source of motion is stopped. -/
  | idle
  /-- The first client came, and the source is being started. -/
  | starting
  | broadcasting
  /-- The last client is gone, and the source is being stopped. -/
  | stopping
deriving DecidableEq, Repr

namespace BroadcastState

/-- The number of a state. -/
def code : BroadcastState → UInt8
  | idle => 0
  | starting => 1
  | broadcasting => 2
  | stopping => 3

/-- The state of a number. Any other number reads as idle. -/
def ofCode (code : UInt8) : BroadcastState :=
  if code = 1 then starting
  else if code = 2 then broadcasting
  else if code = 3 then stopping
  else idle

theorem ofCode_code (s : BroadcastState) : ofCode s.code = s := by cases s <;> decide

/-- The state as it is shown. -/
def name : BroadcastState → String
  | idle => "Idle"
  | starting => "Starting"
  | broadcasting => "Broadcasting"
  | stopping => "Stopping"

/-- Motion data is being sent. -/
def isBroadcasting (s : BroadcastState) : Bool := s = broadcasting

end BroadcastState

end MotionCast
