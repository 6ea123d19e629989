import MotionCast.Time

/-! How reports become motion samples: the device's rate, the scales of its sensors, and how far a
report counter may jump before the gap is no longer filled. -/

namespace MotionCast

/-- The parameters of sampling. -/
structure SamplingConfig where
  /-- The time from one report of the device to the next. -/
  devicePeriod : Nanos := Nanos.micros 4000
  /-- The accelerometer's reading of the earth's pull. -/
  accelPerG : Float32 := 16384
  /-- The gyroscope's reading of one degree a second. -/
  gyroPerDegree : Float32 := 16
  /-- Gyroscope readings nearer to zero than this count as zero. -/
  gyroDeadzone : Int16 := 8
  /-- Acceleration changes of this size and more are not smoothed. -/
  smoothThreshold : Int32 := 0x1FF
  /-- The share of the old value in a smoothed one. -/
  smoothingWeight : Float32 := 0.95
  /-- A counter may advance by this much and have its gap filled with replicas. -/
  replicationCeiling : UInt32 := 100
  /-- A counter that falls back by less than this is a repeat. -/
  repeatTolerance : UInt32 := 40
  /-- How long a sample waits for a frame. -/
  consumeTimeout : Nanos := Nanos.millis 50
  /-- How many more frames a sample takes when it meets repeats. -/
  maxRepeatRetries : UInt32 := 16
  /-- The least time between two requests to switch the sensors on. -/
  noGyroCooldown : Nanos := Nanos.seconds 1

/-- The device's period in whole microseconds, the unit of timestamps. -/
def SamplingConfig.periodMicros (c : SamplingConfig) : UInt64 :=
  UInt64.ofNat (c.devicePeriod / 1000)

end MotionCast
