import MotionCast.Capture.Error

/-! Workers: a worker holds at most one run of its work, starts one when it has none that goes on,
and stops it by asking, by waiting for its end, or by giving it up. A run that was given up and
does not listen goes on by itself until it is released. -/

namespace MotionCast

/-- How a run of some work comes to its end. -/
inductive Conduct where
  /-- It goes on until it is asked to stop. -/
  | untilStopped
  /-- It ends by itself at once. -/
  | atOnce
  /-- It fails at once. -/
  | crashing
  /-- It ignores requests to stop and goes on until it is released. -/
  | untilReleased
deriving DecidableEq, Repr

/-- One run of some work. -/
structure Run where
  conduct : Conduct
  stopRequested : Bool := false
  alive : Bool
deriving DecidableEq, Repr

namespace Run

/-- A run that begins. -/
def launch (conduct : Conduct) (released : Bool) : Run where
  conduct
  alive :=
    match conduct with
    | .untilStopped => true
    | .atOnce => false
    | .crashing => false
    | .untilReleased => !released

/-- The run after it was asked to stop. It is asked for good. -/
def requestStop (r : Run) : Run :=
  { r with stopRequested := true, alive := r.alive && r.conduct ≠ .untilStopped }

/-- The run after all runs were released. -/
def release (r : Run) : Run := { r with alive := r.alive && r.conduct ≠ .untilReleased }

/-- The run after it ended by itself, whether it returned or failed. -/
def finish (r : Run) : Run := { r with alive := false }

end Run

/-- What stopping a worker came to. -/
inductive StopOutcome where
  | notRunning
  /-- The run ended and was waited for. -/
  | joined
  /-- The run was given up. -/
  | abandoned
deriving DecidableEq, Repr

/-- How long a stop waits for the run to end. -/
inductive Patience where
  | none
  | limited
  | unlimited
deriving DecidableEq, Repr

/-- A worker with all the runs that it began, the oldest first, and the place of the one it
holds. -/
structure Worker where
  runs : List Run := []
  held : Option Nat := none
  /-- A stop is under way. -/
  stopping : Bool := false
  /-- How often a stop woke the work from a wait for its input. -/
  flushes : Nat := 0
  /-- Runs are no longer kept from ending. -/
  released : Bool := false
deriving DecidableEq, Repr

namespace Worker

/-- The run that is held. -/
def heldRun? (w : Worker) : Option Run := w.held.bind (w.runs[·]?)

/-- The held run goes on. -/
def isLive (w : Worker) : Bool := w.heldRun?.any (·.alive)

/-- The held run goes on, or a stop is under way. -/
def isStarted (w : Worker) : Bool := w.stopping || w.isLive

/-- A stop is under way. -/
def isStopping (w : Worker) : Bool := w.stopping

/-- Begins a run, unless the held one goes on. A preparation that fails leaves no run held. -/
def start (w : Worker) (prepared : Except CaptureError Unit) (conduct : Conduct) :
    Except CaptureError Unit × Worker :=
  if w.isLive then (.ok (), w)
  else
    match prepared with
    | .error e => (.error e, { w with held := none })
    | .ok _ =>
      (.ok (), { w with
        runs := w.runs ++ [Run.launch conduct w.released]
        held := some w.runs.length })

/-- Asks the held run, the one at `place`, to stop and lets go of it. The stop is under way. -/
def letGo (w : Worker) (place : Nat) : Worker :=
  { w with
    runs := w.runs.modify place Run.requestStop
    held := none
    stopping := true
    flushes := w.flushes + 1 }

/-- The stop that is under way comes to its end. -/
def endStop (w : Worker) : Worker := { w with stopping := false }

/-- Stops the held run. Nothing when an unlimited wait would not end. -/
def stopWith? (w : Worker) (patience : Patience) : Option (StopOutcome × Worker) :=
  match w.held with
  | none => some (.notRunning, w)
  | some place =>
    let asked := w.letGo place
    let ended := !asked.runs[place]?.any (·.alive)
    match patience with
    | .none => some (.abandoned, asked.endStop)
    | .limited => some (if ended then .joined else .abandoned, asked.endStop)
    | .unlimited => if ended then some (.joined, asked.endStop) else none

/-- Stops the held run and waits for it for a while. -/
def tryStop (w : Worker) : StopOutcome × Worker := (w.stopWith? .limited).getD (.notRunning, w)

/-- Begins another run after a stop. The outcome of the stop is lost when the preparation fails. -/
def restartAfter (stopped : StopOutcome × Worker) (prepared : Except CaptureError Unit)
    (conduct : Conduct) : Except CaptureError StopOutcome × Worker :=
  let (started, after) := stopped.2.start prepared conduct
  (started.map fun _ => stopped.1, after)

/-- Lets all runs end that ignore requests to stop. -/
def release (w : Worker) : Worker := { w with runs := w.runs.map Run.release, released := true }

/-- The run at `place` ends by itself. It stays held if it was. -/
def finish (w : Worker) (place : Nat) : Worker :=
  { w with runs := w.runs.modify place Run.finish }

/-- The held run ends by itself. -/
def finishHeld (w : Worker) : Worker :=
  match w.held with
  | none => w
  | some place => w.finish place

end Worker

end MotionCast
