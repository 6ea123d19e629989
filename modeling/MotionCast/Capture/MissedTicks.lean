/-! Diagnosis of a receiver that does not keep up: the values in a row that it missed are counted,
and reported when a gap starts, at each full period of it, and when it ends. -/

namespace MotionCast

/-- A report on a gap. -/
inductive MissedEvent where
  /-- A gap starts. -/
  | started
  /-- The gap goes on, `missed` values longer, after `after` received ones. -/
  | stillMissing (missed after : UInt32)
  /-- The gap ended, `missed` values after the last report. -/
  | recovered (missed after : UInt32)
deriving DecidableEq, Repr

/-- The values missed in the present gap and the ones received before it. -/
structure MissedTicks where
  period : UInt32
  missed : UInt32 := 0
  delivered : UInt32 := 0
deriving DecidableEq, Repr

namespace MissedTicks

/-- A count that reports a gap each `period` values, and at least one apart. -/
def new (period : UInt32) : MissedTicks := { period := max period 1 }

/-- What a missed value reports when it makes the gap `missed` long. -/
def missEvent? (t : MissedTicks) (missed : UInt32) : Option MissedEvent :=
  if missed = 1 then some .started
  else if missed % t.period = 0 then some (.stillMissing t.period t.delivered)
  else none

/-- What of a gap was not reported when it ends. A gap of several whole periods has no rest. -/
def rest (t : MissedTicks) : UInt32 :=
  if t.missed > t.period then t.missed % t.period else t.missed

/-- Takes note of whether a value was received. The count of received values stops at the largest
number. -/
def observe (t : MissedTicks) (received : Bool) : Option MissedEvent × MissedTicks :=
  if !received then (t.missEvent? (t.missed + 1), { t with missed := t.missed + 1 })
  else if t.missed > 0 then
    (some (.recovered t.rest t.delivered), { t with missed := 0, delivered := 0 })
  else if t.delivered = 0xFFFFFFFF then (none, t)
  else (none, { t with delivered := t.delivered + 1 })

/-- Takes note of several values: what they report, in order. -/
def observeAll (t : MissedTicks) (received : List Bool) : List MissedEvent × MissedTicks :=
  let (events, after) := received.foldl
    (fun (events, t) received =>
      let (event, after) := t.observe received
      (event.toList ++ events, after))
    ([], t)
  (events.reverse, after)

end MissedTicks

end MotionCast
