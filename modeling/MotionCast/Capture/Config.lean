import MotionCast.Capture.Error
import MotionCast.Capture.ScanPeriod
import MotionCast.Bytes

/-! The parameters of a capture, and what they must satisfy. The defaults fit a device that sends a
report every four milliseconds. -/

namespace MotionCast

/-- When and how far lost frames change the scan period. -/
structure LossConfig where
  /-- After more frames than these without a loss, losses are no longer followed. -/
  maxLossPeriod : Nat := 10000
  /-- After more frames than these without a restart, losses at restarts are no longer followed. -/
  maxStuckPeriod : Nat := 2000
  /-- The least time between two corrections. -/
  analysisWindow : Nanos := Nanos.seconds 1
  /-- How many frames after a restart may owe a loss to it. -/
  readStuckHold : Nat := 10
  /-- A counter that advances by more than this lost many frames. -/
  bigLossThreshold : Int64 := 25
  /-- A counter that advances by this much or more is not judged. -/
  maxLossAccepted : Int64 := 1000
  /-- A correction is the smaller the nearer the frames since the last loss are to this. -/
  correctionBase : Int64 := 6000
deriving DecidableEq

/-- The start of the report that switches the motion sensors on. -/
def enableMotionCommand : Bytes := [0x00, 0x87, 0x03, 0x30, 0x18, 0x00]

/-- The bytes of the report that switches the motion sensors on. -/
def enableMotionSize : Nat := 65

/-- The parameters of a capture. -/
structure CaptureConfig where
  frameLength : Nat := 64
  scanPeriod : Nanos := Nanos.micros 4000
  band : Band := ⟨Nanos.micros 3700, Nanos.micros 4000⟩
  /-- A read may take this many scan periods. -/
  readTimeoutFactor : Nat := 2
  /-- A reader that is silent for this long is taken to be stuck. -/
  stuckTimeout : Nanos := Nanos.millis 6
  /-- How long a stuck reader may take to stop. -/
  restartTimeout : Nanos := Nanos.micros 500
  /-- How long any worker may take to stop. -/
  stopTimeout : Nanos := Nanos.seconds 10
  /-- Gaps are reported each time they grow by this many values. -/
  missedReportPeriod : UInt32 := 250
  /-- The bytes that a frame must start with when its records have the alternative usage. When there
  are none, that usage is not accepted. -/
  startMarker : Bytes := []
  /-- The report that switches the motion sensors on. -/
  enableReport : Bytes := (Bytes.zeros enableMotionSize).copyOver enableMotionCommand
  loss : LossConfig := {}
deriving DecidableEq

/-- What is wrong with the parameters of a capture. -/
inductive ConfigFault where
  /-- A frame cannot hold its counter. -/
  | shortFrame (length : Nat)
  | noScanPeriod
  | outsideBand (period : Nanos) (band : Band)
  | noReadTimeout
  | longMarker (length frameLength : Nat)
deriving DecidableEq, Repr

/-- The text of a fault. -/
def ConfigFault.message : ConfigFault → String
  | shortFrame length => s!"frame_len must hold the frame counter (>= 8), got {length}"
  | noScanPeriod => "scan_period must be non-zero"
  | outsideBand period band =>
    "scan_period " ++ period.toText ++ " outside band " ++ band.low.toText ++ "..=" ++
      band.high.toText
  | noReadTimeout => "read_timeout_factor must be non-zero"
  | longMarker length frameLength =>
    s!"start_marker longer than a frame ({length} > {frameLength})"

namespace CaptureConfig

/-- The first fault of the parameters. -/
def fault? (c : CaptureConfig) : Option ConfigFault :=
  if c.frameLength < 8 then some (.shortFrame c.frameLength)
  else if c.scanPeriod = 0 then some .noScanPeriod
  else if !c.band.contains c.scanPeriod then some (.outsideBand c.scanPeriod c.band)
  else if c.readTimeoutFactor = 0 then some .noReadTimeout
  else if c.startMarker.length > c.frameLength then
    some (.longMarker c.startMarker.length c.frameLength)
  else none

/-- Succeeds when the parameters have no fault. -/
def validate (c : CaptureConfig) : Except CaptureError Unit :=
  match c.fault? with
  | some fault => .error (.invalidConfig fault.message)
  | none => .ok ()

/-- How long a read may take at a scan period, if that is a duration. -/
def readTimeout? (c : CaptureConfig) (scanPeriod : Nanos) : Option Nanos :=
  scanPeriod.mul? c.readTimeoutFactor

end CaptureConfig

end MotionCast
