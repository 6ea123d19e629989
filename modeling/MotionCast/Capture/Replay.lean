import MotionCast.Capture.Basic
import MotionCast.Device.Script

/-! A capture of a scripted device in lockstep: one read after another, each viewer reading after
each of them. A read that blocks makes the reader fall silent, and it is given up. -/

namespace MotionCast

/-- A capture with its scripted device and what each viewer got so far. -/
structure Replay where
  capture : Capture
  device : ScriptedDevice
  delivered : List (List Delivery)

namespace Replay

/-- A capture that a number of viewers joined. -/
def joined (c : Capture) : Nat → Capture
  | 0 => c
  | viewers + 1 => (joined c viewers).subscribe.2

/-- A capture with some viewers, not started. -/
def new (config : CaptureConfig) (script : DeviceScript) (viewers : Nat) : Replay where
  capture := joined (Capture.assemble config script.transport script.writable) viewers
  device := ScriptedDevice.new script
  delivered := List.replicate viewers []

/-- Opens the device: what it comes to. -/
def connectDevice (r : Replay) : Except DeviceError Unit × Replay :=
  match r.device.connect 0 with
  | .error e => (.error e, r)
  | .ok (_, device) => (.ok (), { r with device })

/-- Starts the capture. -/
def start (r : Replay) : Except CaptureError Unit × Replay :=
  let (opened, r) := r.connectDevice
  let (result, capture) := r.capture.start opened 0
  (result, { r with capture })

/-- The reader opens the device again if it has dropped it. -/
def reconnect (r : Replay) : Replay :=
  if r.capture.reader.isOpen then r
  else
    let (opened, r) := r.connectDevice
    { r with capture := r.capture.reopened opened.isOk }

/-- The reader writes a report that is asked for. -/
def writeAsked (r : Replay) : Replay :=
  match r.capture.beforeRead with
  | (none, capture) => { r with capture }
  | (some report, capture) => { r with capture, device := (r.device.write report).2 }

/-- All viewers read. -/
def consumeAll (r : Replay) : Replay :=
  let step (state : Capture × List (List Delivery)) (seen : List Delivery × Nat) :=
    let (delivery, capture) := state.1.consume seen.2
    (capture, state.2 ++ [seen.1 ++ delivery.toList])
  let (capture, delivered) := r.delivered.zipIdx.foldl step (r.capture, [])
  { r with capture, delivered }

/-- The reader is silent in a read that blocks. -/
def recover (r : Replay) : Replay :=
  let (opened, r) := r.connectDevice
  { r with capture := r.capture.handleSilence true opened }

/-- One read of the device and all that follows from it. There is no result where a record does not
fit its geometry. -/
def read? (r : Replay) : Option Replay :=
  let r := r.reconnect
  if !r.capture.reader.isOpen then some r
  else
    let r := r.writeAsked
    match r.device.next? r.capture.reader.fill with
    | none => none
    | some (.blocked, device) => some { r with device }.recover
    | some (.read count buffer, device) =>
      (r.capture.afterRead? (.returned count buffer) 0).map fun capture =>
        { r with capture, device }.consumeAll

/-- A number of reads. -/
def reads? (r : Replay) : Nat → Option Replay
  | 0 => some r
  | n + 1 => (r.reads? n).bind read?

/-- The counters of the frames that the first viewer got. -/
def counters (r : Replay) : List Nat :=
  (r.delivered.headD []).map fun d => (Frame.counter d.frame).toNat

/-- Reads until the first viewer got a counter as high as `target`, and at most so often. -/
def readUntil? (r : Replay) (target : Nat) : Nat → Option Replay
  | 0 => some r
  | n + 1 =>
    if r.counters.any (target ≤ ·) then some r
    else r.read?.bind fun r => r.readUntil? target n

/-- Reads until the first viewer got a counter as high as `target`. Each read brings the counter
forward, but for those of malformed records and one that blocks. -/
def readTo? (r : Replay) (target : Nat) : Option Replay :=
  r.readUntil? target
    (target - r.device.nextCounter.toNat + r.device.script.malformed.length + 2)

/-- Stops the capture. -/
def stop (r : Replay) : Replay := { r with capture := r.capture.stop }

end Replay

end MotionCast
