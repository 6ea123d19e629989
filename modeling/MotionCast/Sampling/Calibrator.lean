import MotionCast.Sampling.Report
import MotionCast.Time

/-! The gyroscope's scale, estimated from a recording of a steady turn: the accelerometer says by
how much the device tilted, the report counter how long that took, and their quotient is compared
with the mean reading of the gyroscope. -/

namespace MotionCast

/-- What the calibrator keeps of a report. -/
structure Mark where
  counter : UInt32
  accel : Int16
deriving DecidableEq

/-- A recording. -/
structure Calibrator where
  devicePeriod : Nanos
  start : Option Mark := none
  last : Option Mark := none
  gyroSum : Int := 0
  samples : Nat := 0
deriving DecidableEq

namespace Calibrator

/-- An empty recording. -/
def new (devicePeriod : Nanos) : Calibrator := { devicePeriod }

/-- The recording emptied. -/
def reset (c : Calibrator) : Calibrator := new c.devicePeriod

/-- Takes a report. The first one only marks the start, and one with the counter of the report
before it is ignored. -/
def process (c : Calibrator) (r : Report) : Calibrator :=
  let mark : Mark := ⟨r.counter, r.accel.frontToBack⟩
  match c.start with
  | none => { c with start := some mark }
  | some start =>
    if r.counter = (c.last.getD start).counter then c
    else
      { c with
        last := some mark
        gyroSum := c.gyroSum + r.gyro.rightToLeft.toInt
        samples := c.samples + 1 }

/-- Takes a report a number of times, its counter further on by a step each time. -/
def processTimes (c : Calibrator) (r : Report) (step : UInt32) : Nat → Calibrator
  | 0 => c
  | n + 1 => (c.process r).processTimes { r with counter := r.counter + step } step n

/-- How many periods of the device the recording spans. -/
def periods (c : Calibrator) : UInt32 :=
  match c.start, c.last with
  | some start, some last => last.counter - start.counter
  | _, _ => 0

/-- How long the recording is, by the device's clock. There is none when it exceeds the longest
duration. -/
def elapsed? (c : Calibrator) : Option Nanos := c.devicePeriod.mul? c.periods.toNat

/-- The accelerometer's reading of the earth's pull during calibration. -/
def accelPerG : Float := 16500

/-- The tilt in degrees that an accelerometer reading shows. -/
def tiltDegrees (accel : Int16) : Float :=
  let ratio := accel.toFloat / accelPerG
  let ratio := if ratio < -1 then -1 else if 1 < ratio then 1 else ratio
  Float.acos ratio * (180 / 3.141592653589793)

/-- The gyroscope's reading of one degree a second. There is no estimate without a report after the
first, without any time between them, or when the device did not turn. -/
def estimate (c : Calibrator) (elapsed : Nanos) : Option Float := do
  let start ← c.start
  let last ← c.last
  let seconds := elapsed.toSeconds
  if c.samples = 0 ∨ seconds ≤ 0 then none
  else
    let degrees := tiltDegrees last.accel - tiltDegrees start.accel
    let rate := degrees / seconds
    let mean := Float.ofInt c.gyroSum / Float.ofNat c.samples
    let ratio := mean / rate
    if ratio.isFinite then some ratio else none

/-- The estimate over the recording's own length. The outer value is missing when the recording has
no length. -/
def estimate? (c : Calibrator) : Option (Option Float) := c.elapsed?.map c.estimate

end Calibrator

end MotionCast
