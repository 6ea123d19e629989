import MotionCast.Bytes

/-! Input reports of the handheld's controller: the thirty-six bytes that hold the report counter,
the buttons, the trackpads and the motion sensors. -/

namespace MotionCast

/-- A sensor's reading along the three axes of the device. -/
structure Axes where
  rightToLeft : Int16 := 0
  topToBottom : Int16 := 0
  frontToBack : Int16 := 0
deriving DecidableEq, Inhabited

/-- The reading is zero on every axis. -/
def Axes.isZero (a : Axes) : Bool :=
  a.rightToLeft = 0 && a.topToBottom = 0 && a.frontToBack = 0

/-- The axes at an offset. -/
def Axes.ofBytes (b : Bytes) (offset : Nat) : Axes where
  rightToLeft := b.int16 offset
  topToBottom := b.int16 (offset + 2)
  frontToBack := b.int16 (offset + 4)

/-- One report of the controller. -/
structure Report where
  header : UInt32 := 0
  /-- Counts the reports of the device, modulo 2^32. -/
  counter : UInt32 := 0
  buttons : UInt32 × UInt32 := (0, 0)
  leftTrackpad : Int16 × Int16 := (0, 0)
  rightTrackpad : Int16 × Int16 := (0, 0)
  accel : Axes := {}
  gyro : Axes := {}
deriving DecidableEq

/-- A report is too short to hold the sensors. -/
structure ShortReport where
  expected : Nat
  actual : Nat
deriving DecidableEq

/-- The text of the error. -/
def ShortReport.message (e : ShortReport) : String :=
  s!"Report too short: expected at least {e.expected} bytes, got {e.actual}"

namespace Report

/-- The bytes of a report that are read. -/
def size : Nat := 36

/-- Where a report holds its counter. -/
def counterOffset : Nat := 4

/-- Reads a report. Bytes after the first thirty-six are ignored. -/
def decode (b : Bytes) : Except ShortReport Report :=
  if b.length < size then .error ⟨size, b.length⟩
  else .ok {
    header := b.word32 0
    counter := b.word32 counterOffset
    buttons := (b.word32 8, b.word32 12)
    leftTrackpad := (b.int16 16, b.int16 18)
    rightTrackpad := (b.int16 20, b.int16 22)
    accel := Axes.ofBytes b 24
    gyro := Axes.ofBytes b 30 }

/-- Both sensors read zero on every axis, as they do while they are switched off. -/
def imuIsZero (r : Report) : Bool := r.accel.isZero && r.gyro.isZero

end Report

end MotionCast
