import MotionCast.Bytes

/-! How a device wraps a report: bare, or as a stream of records of one payload byte each. -/

namespace MotionCast

/-- The form in which a device delivers reports. -/
inductive Transport where
  /-- Each byte of a report is the payload of a record of its own. -/
  | records (recordLength payloadOffset : Nat)
  /-- A read delivers one report. -/
  | report
deriving DecidableEq, Repr

namespace Transport

/-- The records of the kernel's event files: a 32-bit usage, then a 32-bit value. -/
def hiddev : Transport := records 8 4

/-- The bytes that a device delivers for one report. -/
def rawLength (t : Transport) (frameLength : Nat) : Nat :=
  match t with
  | records recordLength _ => frameLength * recordLength
  | report => frameLength

/-- The device delivers records. -/
def isRecordStream : Transport → Bool
  | records _ _ => true
  | report => false

end Transport

/-- The usage that starts each record. -/
def recordUsage : UInt32 := 0xFFFF0002

/-- A usage that some devices send instead. -/
def recordUsageAlternative : UInt32 := 0xFFFF0001

end MotionCast
