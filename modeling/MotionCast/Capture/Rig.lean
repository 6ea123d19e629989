import MotionCast.Capture.Basic
import MotionCast.Capture.ReaderTrial

/-! A capture on a rig: its device answers reads one at a time, as it is fed, and opening it can be
made to fail. Between two steps the reader waits in a read, or for the device to open. -/

namespace MotionCast

/-- Why a capture on a rig does not come to wait. -/
inductive Unrest where
  /-- The extractor cannot take a frame out of its record. -/
  | extractor
  /-- The reader fails before it waits, however often it is begun anew. -/
  | reader
deriving DecidableEq, Repr

/-- A capture with the device that feeds it. -/
structure Rig where
  capture : Capture
  /-- Answers that were fed and not yet read. -/
  queue : List ScriptedAnswer := []
  openFails : Bool := false
  /-- How often the device was opened. -/
  opens : Nat := 0
  /-- The reports that were written to the device. -/
  writes : List Bytes := []
  /-- The reader waits in a read. -/
  reading : Bool := false
  now : Nanos := 0

namespace Rig

/-- The error of opening the device. -/
def openError : DeviceError := .notFound "scripted device"

/-- Some time passes between any two things that happen. -/
def tick (r : Rig) : Rig := { r with now := r.now + Nanos.micros 1 }

/-- The reader can say how long its next read or opening may take. -/
def isTimed (r : Rig) : Bool := (r.capture.config.readTimeout? r.capture.scanPeriod).isSome

/-- The reader opens the device if it can. -/
def connect (r : Rig) : Rig :=
  if r.capture.crew.isAtWork .reader && !r.capture.reader.isOpen && !r.openFails then
    { r with capture := r.capture.reopened true, opens := r.opens + 1 }
  else r

/-- The reader begins a read if it is not in one and its device is open. -/
def beginRead (r : Rig) : Rig :=
  if r.capture.crew.isAtWork .reader && r.capture.reader.isOpen && !r.reading then
    let (report, capture) := r.capture.beforeRead
    { r with capture, writes := r.writes ++ report.toList, reading := true }
  else r

/-- The reader goes on until it waits. It fails before that if no duration is as long as a read may
take, and the extractor, which hears nothing from it, has it begin anew each time. -/
def goOn (r : Rig) : Except Unrest Rig :=
  if r.capture.crew.isAtWork .reader && !r.reading && !r.isTimed then .error .reader
  else .ok r.connect.beginRead

/-- The read that the reader waits in is answered, and the record goes through all stages. -/
def answer (r : Rig) (answer : ScriptedAnswer) : Except Unrest Rig :=
  match r.capture.afterRead? (answer.outcome r.capture.reader.fill) r.tick.now with
  | none => .error .extractor
  | some capture => .ok { r.tick with capture, reading := false }

/-- Answers reads with what was fed, as long as the reader reads. -/
def settle (r : Rig) : List ScriptedAnswer → Except Unrest Rig
  | [] => do
    let waiting ← r.goOn
    return { waiting with queue := [] }
  | next :: rest => do
    let waiting ← r.goOn
    if waiting.reading then
      let after ← waiting.answer next
      after.settle rest
    else return { waiting with queue := next :: rest }

/-- Feeds the device with an answer. -/
def feed (r : Rig) (next : ScriptedAnswer) : Except Unrest Rig := r.settle (r.queue ++ [next])

/-- Lets opening the device fail from now on, or succeed. -/
def failOpen (r : Rig) (fails : Bool) : Except Unrest Rig :=
  { r with openFails := fails }.settle r.queue

/-- The rig after the capture was started. A reader that begins opens the device. -/
def started (r : Rig) : Except CaptureError Unit × Rig :=
  let idle := !r.capture.crew.isAtWork .reader
  let opened := if r.openFails then .error openError else .ok ()
  let (result, capture) := r.capture.start opened r.tick.now
  let began := idle && capture.crew.isAtWork .reader
  (result, { r.tick with
    capture := capture.analyze r.tick.now
    opens := if began then r.opens + 1 else r.opens
    reading := if began then false else r.reading })

/-- Starts the capture. -/
def start (r : Rig) : Except Unrest (Except CaptureError Unit × Rig) := do
  let (result, started) := r.started
  let settled ← started.settle started.queue
  return (result, settled)

/-- Stops the capture. -/
def stop (r : Rig) : Rig := { r with capture := r.capture.stop, reading := false }

end Rig

end MotionCast
