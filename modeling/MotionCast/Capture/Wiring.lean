import MotionCast.Bytes
import MotionCast.Capture.Metrics
import MotionCast.Channel.Mailbox
import MotionCast.Channel.Signal

/-! The wiring of a capture: the mailboxes and signals between its workers, and the counters. It
outlasts the workers' runs. -/

namespace MotionCast

/-- What the workers of a capture share. -/
structure Wiring where
  /-- Records on their way from the reader to the extractor. -/
  records : Mailbox Bytes
  /-- Frames on their way from the extractor to the audience. -/
  frames : Mailbox Bytes
  /-- Advances of the counter on their way from the extractor to the loss tracker. -/
  advances : Mailbox Int64 := Mailbox.new 0
  /-- Raised each time that the device is out of step. -/
  unsynced : Signal := {}
  /-- Raised each time that the reader is taken to be stuck. -/
  readStuck : Signal := {}
  /-- Raised to have the motion sensors switched on. -/
  enableMotion : Signal := {}
  metrics : Metrics := {}

/-- Wiring for records and frames of given lengths. -/
def Wiring.new (rawLength frameLength : Nat) : Wiring where
  records := Mailbox.new (Bytes.zeros rawLength)
  frames := Mailbox.new (Bytes.zeros frameLength)

end MotionCast
