import MotionCast.Capture.Worker

/-! A worker on trial: its runs have one conduct, and its preparations come to scripted results, one
for each time that a run is to begin. -/

namespace MotionCast

/-- A worker whose preparations are scripted. Those past the end of the script succeed. -/
structure WorkerTrial where
  name : String
  conduct : Conduct
  preparations : List (Except CaptureError Unit)
  worker : Worker := {}

namespace WorkerTrial

/-- The result of the next preparation. -/
def next (t : WorkerTrial) : Except CaptureError Unit := t.preparations.headD (.ok ())

/-- The system can name a run after the worker: no name of a run holds a zero character. -/
def canName (t : WorkerTrial) : Bool := !t.name.toList.contains '\x00'

/-- Starts the worker, which uses up a preparation if a run is to begin. There is no result where
the system cannot name the run. -/
def start? (t : WorkerTrial) : Option (Except CaptureError Unit × WorkerTrial) :=
  if t.worker.isLive then some (.ok (), t)
  else if t.next.isOk && !t.canName then none
  else
    let (result, worker) := t.worker.start t.next t.conduct
    some (result, { t with preparations := t.preparations.tail, worker })

/-- Stops the worker. Nothing when the wait would not end. -/
def stop? (t : WorkerTrial) (patience : Patience) : Option (StopOutcome × WorkerTrial) :=
  (t.worker.stopWith? patience).map fun (outcome, after) => (outcome, { t with worker := after })

/-- Stops the worker and starts it. The outcome is that of the stop, if a run could be prepared. -/
def restart? (t : WorkerTrial) (patience : Patience) :
    Option (Except CaptureError StopOutcome × WorkerTrial) := do
  let (outcome, stopped) ← t.stop? patience
  let (started, after) ← stopped.start?
  return (started.map fun _ => outcome, after)

/-- Lets all runs of the worker end. -/
def release (t : WorkerTrial) : WorkerTrial := { t with worker := t.worker.release }

end WorkerTrial

end MotionCast
