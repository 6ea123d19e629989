import MotionCast.Sampling.Config
import MotionCast.Sampling.Report
import MotionCast.Wire.Motion

/-! The sampler turns reports into evenly timed motion samples. It drops repeated reports, queues
replicas where the counter shows that reports were lost, and keeps the clock running forward when
the counter falls back or leaps. -/

namespace MotionCast

/-- How a report's counter stands to that of the last accepted report. -/
inductive CounterStep where
  /-- No report was accepted since the sampler was new or reset. -/
  | first
  /-- The counter stands still or falls back by less than the tolerance. -/
  | repeated
  /-- The counter falls back further. -/
  | resync
  /-- The counter advances by more than the ceiling. -/
  | leap (by_ : UInt32)
  /-- The counter advances by one or more, up to the ceiling. -/
  | advance (by_ : UInt32)
deriving DecidableEq

/-- The step from the last accepted counter. The difference is read as a signed word, so that a
counter that wraps around advances. -/
def SamplingConfig.counterStep (c : SamplingConfig) (last : Option UInt32) (counter : UInt32) :
    CounterStep :=
  match last with
  | none => .first
  | some last =>
    if (counter - last).toInt32 ≤ 0 then
      if last - counter < c.repeatTolerance then .repeated else .resync
    else if counter - last > c.replicationCeiling then .leap (counter - last)
    else .advance (counter - last)

/-- The smoothed accelerations, one for each axis. -/
structure Smoothed where
  rightToLeft : Float32 := 0
  frontToBack : Float32 := 0
  topToBottom : Float32 := 0

/-- The smoothed value after one more reading. A large change is followed at once. -/
def SamplingConfig.smooth (c : SamplingConfig) (old : Float32) (raw : Int16) : Float32 :=
  let current := raw.toFloat32
  if (current - old).abs < c.smoothThreshold.toFloat32 then
    old * c.smoothingWeight + current * (1.0 - c.smoothingWeight)
  else current

/-- A turning rate in degrees a second. -/
def SamplingConfig.turnRate (c : SamplingConfig) (raw : Int16) : Float32 :=
  let kept : Int16 := if raw.toInt.natAbs < c.gyroDeadzone.toInt then 0 else raw
  kept.toFloat32

/-- The state of a sampler. -/
structure Sampler where
  config : SamplingConfig
  /-- The counter of the last accepted report. -/
  lastCounter : Option UInt32 := none
  /-- The sample given out last. -/
  last : Motion := {}
  smoothed : Smoothed := {}
  /-- How many more times the last sample is given out with a later time. -/
  replicasLeft : UInt32 := 0

namespace Sampler

/-- A sampler that has seen no report. -/
def new (config : SamplingConfig) : Sampler := { config }

/-- Forgets the counter and the replicas. The clock and the smoothing stay, so that time goes on
forward when the device comes back. -/
def reset (s : Sampler) : Sampler := { s with lastCounter := none, replicasLeft := 0 }

/-- Gives out a replica, if one is left: the last sample one period later. -/
def nextReplica (s : Sampler) : Option Motion × Sampler :=
  if s.replicasLeft = 0 then (none, s)
  else
    let last := { s.last with timestamp := s.last.timestamp + s.config.periodMicros }
    (some last, { s with last, replicasLeft := s.replicasLeft - 1 })

/-- Gives out so many replicas, or as many as are left: the last one, if there was any. -/
def replicas (s : Sampler) (last : Option Motion) : Nat → Option Motion × Sampler
  | 0 => (last, s)
  | n + 1 =>
    match s.nextReplica with
    | (none, s) => (last, s)
    | (some replica, s) => s.replicas (some replica) n

/-- Gives out all replicas that are left. -/
def drain (s : Sampler) : Option Motion × Sampler := s.replicas none s.replicasLeft.toNat

/-- The sample of a report at a time, and the sampler with the accelerations smoothed. -/
def convert (s : Sampler) (r : Report) (timestamp : UInt64) : Motion × Smoothed :=
  let c := s.config
  let smoothed : Smoothed := {
    rightToLeft := c.smooth s.smoothed.rightToLeft r.accel.rightToLeft
    frontToBack := c.smooth s.smoothed.frontToBack r.accel.frontToBack
    topToBottom := c.smooth s.smoothed.topToBottom r.accel.topToBottom }
  let motion : Motion := {
    timestamp
    accelX := (-(smoothed.rightToLeft / c.accelPerG)).toBits
    accelY := (-(smoothed.frontToBack / c.accelPerG)).toBits
    accelZ := (smoothed.topToBottom / c.accelPerG).toBits
    pitch := (c.turnRate r.gyro.rightToLeft / c.gyroPerDegree).toBits
    yaw := (-(c.turnRate r.gyro.frontToBack) / c.gyroPerDegree).toBits
    roll := (c.turnRate r.gyro.topToBottom / c.gyroPerDegree).toBits }
  (motion, smoothed)

/-- Gives out the sample of a report at a time and with replicas to follow. -/
def emit (s : Sampler) (r : Report) (timestamp : UInt64) (replicasLeft : UInt32) :
    Option Motion × Sampler :=
  let (motion, smoothed) := s.convert r timestamp
  (some motion, { s with lastCounter := some r.counter, last := motion, smoothed, replicasLeft })

/-- Takes a report. A repeat yields no sample and changes nothing. A gap queues a replica for each
lost report; a leap moves the clock by the whole gap at once. -/
def accept (s : Sampler) (r : Report) : Option Motion × Sampler :=
  let period := s.config.periodMicros
  let next := s.last.timestamp + period
  match s.config.counterStep s.lastCounter r.counter with
  | .first => s.emit r (max (r.counter.toUInt64 * period) next) s.replicasLeft
  | .repeated => (none, s)
  | .resync => s.emit r next s.replicasLeft
  | .leap by_ => s.emit r (s.last.timestamp + by_.toUInt64 * period) s.replicasLeft
  | .advance by_ => s.emit r next (by_ - 1)

end Sampler

end MotionCast
