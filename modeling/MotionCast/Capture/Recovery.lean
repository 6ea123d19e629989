import MotionCast.Capture.Wiring
import MotionCast.Capture.Worker

/-! Recovery from a silent reader: it is taken to be stuck in a read, asked to stop, given up if it
does not do so in time, and begun anew. -/

namespace MotionCast

/-- The worker whose held run is stuck in a read that does not return: it will not listen. -/
def Worker.block (worker : Worker) : Worker :=
  match worker.held with
  | none => worker
  | some place =>
    { worker with runs := worker.runs.modify place fun run =>
        { run with conduct := .untilReleased } }

/-- What a recovery acts on: the reader's worker and the wiring. -/
structure Recovery where
  worker : Worker
  wiring : Wiring

namespace Recovery

/-- Counts a reader that had to be given up. When the new run cannot begin, the outcome of stopping
the old one is not known, and nothing is counted. -/
def count (m : Metrics) : Except CaptureError StopOutcome → Metrics
  | .ok .abandoned => { m with forcedRestarts := m.forcedRestarts + 1 }
  | _ => m

/-- The wiring after a silence was noticed. -/
def notice (w : Wiring) : Wiring :=
  { w with readStuck := w.readStuck.send, metrics.readStuck := w.metrics.readStuck + 1 }

/-- Handles a silence: the new run begins with a prepared device, or not at all. -/
def handleSilence (r : Recovery) (prepared : Except CaptureError Unit) (conduct : Conduct) :
    Recovery :=
  let (outcome, worker) := Worker.restartAfter r.worker.tryStop prepared conduct
  let noticed := notice r.wiring
  { worker, wiring := { noticed with metrics := count noticed.metrics outcome } }

/-- Handles a number of silences, each of them of a run with the same conduct. -/
def handleSilences (r : Recovery) (conduct : Conduct) : Nat → Recovery
  | 0 => r
  | n + 1 => (r.handleSilences conduct n).handleSilence (.ok ()) conduct

end Recovery

end MotionCast
