import MotionCast.Capture.Config

/-! Tuning of the scan period by the frames that get lost. A counter that advances by more than one
shows a loss. Many lost frames shorten the period, few lengthen it a little, and a loss right after
the device was reopened or the reader restarted is owed to that and lengthens it by more. Losses
count only while they come often, and corrections of the first two kinds are apart by the length of
a window. -/

namespace MotionCast

/-- What the tracker remembers of the losses so far. -/
structure LossTracker where
  config : LossConfig
  band : Band
  /-- The period that was asked for last. -/
  current : Nanos
  /-- Frames since the last loss. -/
  lossPeriod : Nat := 0
  /-- Frames since the last loss that was owed to a restart. -/
  noStuckPeriod : Nat := 0
  lossTracking : Bool := false
  stuckTracking : Bool := false
  lastAnalysis : Nanos
  /-- The window since the last correction has passed. -/
  passedWindow : Bool := false
  /-- How many more frames may owe a loss to the last restart. -/
  holdLeft : Nat := 0
deriving DecidableEq

namespace LossTracker

/-- A tracker that starts at a time with a period. -/
def new (config : LossConfig) (current : Nanos) (band : Band) (now : Nanos) : LossTracker where
  config
  band
  current
  lastAnalysis := now

/-- Takes note that the device was reopened or the reader restarted. -/
def restartObserved (t : LossTracker) : LossTracker :=
  { t with holdLeft := t.config.readStuckHold }

/-- What quiet frames leave of the base of a correction is a signed word of sixty-four bits. -/
def InRange (base : Int64) (quiet : Nat) : Prop := Int64.minValue.toInt ≤ base.toInt - quiet

instance (base : Int64) (quiet : Nat) : Decidable (InRange base quiet) :=
  inferInstanceAs (Decidable (_ ≤ _))

/-- A correction in microseconds, from one to two hundred. The quotient is cut off toward zero.
There is none where the difference is no word. -/
def correction? (base : Int64) (quiet : Nat) (divisor : Int64) : Option Nanos :=
  if InRange base quiet then
    let quotient := ((base - Int64.ofNat quiet) / divisor).toInt
    some (Nanos.micros (max 1 (min 200 quotient)).toNat)
  else none

/-- Asks for the period of the band nearest to a given one, and for nothing when it is the present
one. There is no result in a band that ends before it begins. -/
def propose? (t : LossTracker) (period : Nanos) : Option (Option Nanos × LossTracker) :=
  (t.band.clamp? period).map fun clamped =>
    if clamped = t.current then (none, t) else (some clamped, { t with current := clamped })

/-- The tracker without memory of losses in the normal run of frames, or of a restart. -/
def forget (t : LossTracker) : LossTracker :=
  { t with holdLeft := 0, noStuckPeriod := 0, lossPeriod := 0, lossTracking := false }

/-- The period to which a loss that is owed to a restart corrects, if it is a duration. -/
def restartTarget? (t : LossTracker) : Option Nanos :=
  (correction? t.config.correctionBase t.noStuckPeriod 2000).bind (Nanos.add? t.current)

/-- A loss that is owed to a restart. The first small one only begins to follow such losses. -/
def restartLoss? (t : LossTracker) (diff : Int64) : Option (Option Nanos × LossTracker) :=
  if t.stuckTracking || diff > 2 then
    (t.restartTarget?.bind t.propose?).map fun (proposal, after) => (proposal, after.forget)
  else some (none, { t with stuckTracking := true }.forget)

/-- Counts a frame outside a hold. After enough of them, losses at restarts are no longer
followed. -/
def countStuckQuiet (t : LossTracker) : LossTracker :=
  if !t.stuckTracking then t
  else if t.noStuckPeriod + 1 > t.config.maxStuckPeriod then
    { t with noStuckPeriod := 0, stuckTracking := false }
  else { t with noStuckPeriod := t.noStuckPeriod + 1 }

/-- Counts a frame past the window. After enough of them, losses are no longer followed. -/
def countQuiet (t : LossTracker) : LossTracker :=
  if !t.lossTracking then t
  else if t.lossPeriod + 1 > t.config.maxLossPeriod then
    { t with lossPeriod := 0, lossTracking := false }
  else { t with lossPeriod := t.lossPeriod + 1 }

/-- The tracker after a correction was made, or could have been, at a time. -/
def analyzed (t : LossTracker) (now : Nanos) : LossTracker :=
  { t with lossPeriod := 0, lastAnalysis := now, passedWindow := false }

/-- The period to which a loss in the normal run of frames corrects, if it is a duration. A big loss
makes it shorter, and any other longer by a microsecond. -/
def target? (t : LossTracker) (diff : Int64) : Option Nanos :=
  if diff > t.config.bigLossThreshold then
    (correction? t.config.correctionBase t.lossPeriod 400).map (t.current - ·)
  else Nanos.add? t.current (Nanos.micros 1)

/-- A loss in the normal run of frames. It corrects the period only when losses are followed
already, and otherwise begins to follow them. -/
def genericLoss? (t : LossTracker) (diff : Int64) (now : Nanos) :
    Option (Option Nanos × LossTracker) :=
  if t.lossTracking then
    ((t.target? diff).bind t.propose?).map fun (proposal, after) => (proposal, after.analyzed now)
  else if diff > t.config.bigLossThreshold then
    some (none, { t with lossTracking := true }.analyzed now)
  else some (none, { t with lossTracking := true, lossPeriod := 0 })

/-- Judges a frame that owes nothing to a restart. Until the window has passed nothing is done. A
time before the last correction counts as that time. -/
def judge? (t : LossTracker) (diff : Int64) (now : Nanos) : Option (Option Nanos × LossTracker) :=
  if !t.passedWindow && now - t.lastAnalysis ≤ t.config.analysisWindow then some (none, t)
  else
    let counted := { t with passedWindow := true }.countQuiet
    if diff ≤ 1 || diff ≥ t.config.maxLossAccepted then some (none, counted)
    else counted.genericLoss? diff now

/-- Takes the advance of the counter at a time: the period that it asks for, if any, and the tracker
after it. There is no result where a correction or a longer period is out of bounds, and in a band
that ends before it begins. -/
def track? (t : LossTracker) (diff : Int64) (now : Nanos) :
    Option (Option Nanos × LossTracker) :=
  if t.holdLeft > 0 then
    let held := { t with holdLeft := t.holdLeft - 1 }
    if diff > 1 then held.restartLoss? diff else held.judge? diff now
  else t.countStuckQuiet.judge? diff now

/-- Takes the same advance at each of some times: what was asked for at each of them. -/
def trackAll? (t : LossTracker) (diff : Int64) :
    List Nanos → Option (List (Option Nanos) × LossTracker)
  | [] => some ([], t)
  | now :: later => do
    let (proposal, t) ← t.track? diff now
    let (others, t) ← t.trackAll? diff later
    return (proposal :: others, t)

end LossTracker

end MotionCast
