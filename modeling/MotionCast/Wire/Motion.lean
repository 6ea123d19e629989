import MotionCast.Wire.Event

/-! Motion samples as packets carry them: a time and six channels. A channel is the bit pattern of a
single-precision number, so that a sample comes out of a packet with the bits that went in. -/

namespace MotionCast

/-- A single-precision number as its bit pattern. -/
abbrev FloatBits := UInt32

/-- A motion sample. The time is in microseconds of the device's clock, accelerations are in units
of the earth's, and turning rates in degrees a second. -/
structure Motion where
  timestamp : UInt64 := 0
  accelX : FloatBits := 0
  accelY : FloatBits := 0
  accelZ : FloatBits := 0
  pitch : FloatBits := 0
  yaw : FloatBits := 0
  roll : FloatBits := 0
deriving DecidableEq, Inhabited

namespace Motion

/-- The bytes of a sample. -/
def size : Nat := 32

/-- The thirty-two bytes of a sample. -/
def toBytes (m : Motion) : Bytes :=
  Bytes.ofWord64 m.timestamp ++ Bytes.ofWord32 m.accelX ++ Bytes.ofWord32 m.accelY ++
    Bytes.ofWord32 m.accelZ ++ Bytes.ofWord32 m.pitch ++ Bytes.ofWord32 m.yaw ++
    Bytes.ofWord32 m.roll

@[simp] theorem length_toBytes (m : Motion) : m.toBytes.length = size := by
  simp [toBytes, Bytes.ofWord64, Bytes.ofWord32, size]

/-- Reads a sample. -/
def decode (b : Bytes) : Except WireError Motion := do
  b.require size
  return {
    timestamp := b.word64 0
    accelX := b.word32 8
    accelY := b.word32 12
    accelZ := b.word32 16
    pitch := b.word32 20
    yaw := b.word32 24
    roll := b.word32 28 }

/-- Writes a sample over the first thirty-two bytes of a buffer, or nothing when they do not fit. -/
def encode? (m : Motion) (buffer : Bytes) : Option Bytes :=
  if buffer.length < size then none else some (buffer.put 0 m.toBytes)

end Motion

end MotionCast
