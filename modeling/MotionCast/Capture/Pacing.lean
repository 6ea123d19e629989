import MotionCast.Capture.LossTracker
import MotionCast.Channel.Mailbox

/-! Pacing: the scan period, and the way by which the loss tracker asks to change it. Only the
latest request counts, and one outside the band is refused. -/

namespace MotionCast

/-- The scan period, the requests that are on their way to it, and the number of its changes. -/
structure Pacing where
  scan : ScanPeriod
  feedback : Mailbox Nanos
  updates : Nat := 0

namespace Pacing

/-- Pacing before any request. -/
def new (scan : ScanPeriod) : Pacing where
  scan
  feedback := Mailbox.new 0

/-- Asks for a period. -/
def request (p : Pacing) (period : Nanos) : Pacing :=
  { p with feedback := (p.feedback.send period).2 }

/-- Applies the latest request. A change to the period that is in force already counts as well. -/
def apply (p : Pacing) : Pacing :=
  match p.feedback.poll 0 with
  | (false, _, _) => p
  | (true, period, feedback) =>
    match p.scan.trySet period with
    | (true, scan) => { scan, feedback, updates := p.updates + 1 }
    | (false, _) => { p with feedback }

/-- Asks for the period that an observation led to, if it led to one. -/
def requestIfAny (p : Pacing) : Option Nanos → Pacing
  | none => p
  | some period => p.request period

/-- The pacing after each of several requests, each of which is applied before the next. -/
def afterEach (p : Pacing) : List Nanos → List Pacing
  | [] => []
  | period :: others =>
    let next := (p.request period).apply
    next :: next.afterEach others

end Pacing

/-- The control loop: the loss tracker and the pacing that it acts on. -/
structure ControlLoop where
  tracker : LossTracker
  pacing : Pacing

namespace ControlLoop

/-- The loop of a run that begins at a time, with the period that is in force. -/
def restart (pacing : Pacing) (config : LossConfig) (now : Nanos) : ControlLoop where
  tracker := LossTracker.new config pacing.scan.current pacing.scan.band now
  pacing

/-- The tracker sees an advance of the counter, and asks for the period that it finds better. -/
def track? (l : ControlLoop) (advance : Int64) (now : Nanos) : Option ControlLoop :=
  (l.tracker.track? advance now).map fun (proposal, tracker) =>
    { tracker, pacing := l.pacing.requestIfAny proposal }

/-- The tracker hears of a restart. -/
def restartObserved (l : ControlLoop) : ControlLoop :=
  { l with tracker := l.tracker.restartObserved }

/-- The latest request is applied. -/
def apply (l : ControlLoop) : ControlLoop := { l with pacing := l.pacing.apply }

end ControlLoop

end MotionCast
