import MotionCast.Capture.Audience
import MotionCast.Capture.Crew
import MotionCast.Capture.Extractor
import MotionCast.Capture.Pacing
import MotionCast.Capture.Reader
import MotionCast.Capture.Recovery

/-! A capture: the workers that turn a device's reports into frames for an audience, driven in
lockstep, so that each read is dealt with to its end before the next one. The wiring, the scan
period and the audience outlast a stop; what a worker keeps for itself does not. -/

namespace MotionCast

/-- A capture of a device. -/
structure Capture where
  config : CaptureConfig
  transport : Transport
  /-- Reports can be written to the device. -/
  writable : Bool
  crew : Crew
  wiring : Wiring
  audience : Audience
  reader : Reader
  extractor : Extractor
  loop : ControlLoop
  /-- The broadcaster waits for a frame, and will take one even if its audience leaves. -/
  listening : Bool := false
  /-- The broadcaster's buffer. -/
  shown : Bytes

namespace Capture

/-- What the reader must know. -/
def readerConfig (c : Capture) : ReaderConfig := .ofCapture c.config c.transport c.writable

/-- A capture that was not started, of a device that was not opened. -/
def assemble (config : CaptureConfig) (transport : Transport) (writable : Bool) : Capture where
  config
  transport
  writable
  crew := Crew.new transport.isRecordStream
  wiring := Wiring.new (transport.rawLength config.frameLength) config.frameLength
  audience := { frameLength := config.frameLength }
  reader := Reader.new (.ofCapture config transport writable) false
  extractor := Extractor.new transport config.frameLength transport.isRecordStream
  loop := .restart (Pacing.new (ScanPeriod.new config.scanPeriod config.band)) config.loss 0
  shown := Bytes.zeros config.frameLength

/-- A capture with parameters that have no fault. -/
def new (config : CaptureConfig) (transport : Transport) (writable : Bool) :
    Except CaptureError Capture := do
  config.validate
  return assemble config transport writable

/-- Any worker is at work. -/
def isStarted (c : Capture) : Bool := c.crew.isStarted

/-- The counters. -/
def metrics (c : Capture) : Metrics :=
  { c.wiring.metrics with scanUpdates := c.loop.pacing.updates }

/-- The scan period that is in force. -/
def scanPeriod (c : Capture) : Nanos := c.loop.pacing.scan.current

/-- Shows the frame that waits to be shown. -/
def publish (c : Capture) : Capture :=
  match c.wiring.frames.poll c.shown with
  | (false, _, _) => { c with listening := true }
  | (true, shown, frames) =>
    { c with
      shown
      audience := c.audience.publish shown
      listening := c.audience.size > 0
      wiring.frames := frames
      wiring.metrics.framesPublished := c.wiring.metrics.framesPublished + c.audience.size }

/-- Lets the broadcaster go on. It does not wait for a frame while it has no audience, so that the
latest frame is kept for the first viewer to come. -/
def settle (c : Capture) : Capture :=
  if c.crew.isAtWork .broadcaster && (c.listening || c.audience.size > 0) then c.publish else c

/-- The reader's run with a device that was opened for it. -/
def readerBegun (c : Capture) : Capture :=
  let (reader, wiring) := (Reader.new c.readerConfig false).opened c.wiring true
  { c with reader, wiring }

/-- What a stage keeps for itself, at the start of its run. -/
def begun (now : Nanos) (c : Capture) : Stage → Capture
  | .pace => c
  | .loss => { c with loop := .restart c.loop.pacing c.config.loss now }
  | .reader => c.readerBegun
  | .extractor =>
    { c with
      extractor := Extractor.new c.transport c.config.frameLength c.transport.isRecordStream }
  | .broadcaster => { c with listening := false, shown := Bytes.zeros c.config.frameLength }

/-- The stages that are at work in one crew and were not in another. -/
def newlyAtWork (before after : Crew) : List Stage :=
  (Stage.inOrder true).filter fun stage => !before.isAtWork stage && after.isAtWork stage

/-- Starts the capture, given what opening the device would come to. -/
def start (c : Capture) (opened : Except DeviceError Unit) (now : Nanos) :
    Except CaptureError Unit × Capture :=
  let prepared : Stage → Except CaptureError Unit
    | .reader => opened.mapError .device
    | _ => .ok ()
  let (result, crew) := c.crew.start prepared
  (result, ((newlyAtWork c.crew crew).foldl (begun now) { c with crew }).settle)

/-- Stops the capture. -/
def stop (c : Capture) : Capture := { c with crew := c.crew.stop }

/-- A viewer joins: the number of its seat. -/
def subscribe (c : Capture) : Nat × Capture :=
  let (seat, audience) := c.audience.subscribe
  (seat, { c with audience }.settle)

/-- A viewer leaves. False when it had left before. -/
def unsubscribe (c : Capture) (seat : Nat) : Bool × Capture :=
  let (left, audience) := c.audience.unsubscribe seat
  (left, { c with audience })

/-- A viewer reads. -/
def consume (c : Capture) (seat : Nat) : Option Delivery × Capture :=
  let (delivery, audience) := c.audience.consume seat
  (delivery, { c with audience })

/-- A viewer takes the frame that waits for it, if any. -/
def takeFrame (c : Capture) (seat : Nat) : List Bytes × Capture :=
  let (delivery, c) := c.consume seat
  ((delivery.map (·.frame)).toList, c)

/-- Asks to have the device's motion sensors switched on. -/
def requestMotion (c : Capture) : Capture :=
  { c with wiring.enableMotion := c.wiring.enableMotion.send }

/-- The loss tracker at work sees the advance of the counter that waits, after it has heard of a
loss of step or a stuck read, and the pacing follows it. Without a result its run fails. -/
def analyze (c : Capture) (now : Nanos) : Capture :=
  match c.crew.isAtWork .loss, c.wiring.advances.poll 0 with
  | true, (true, advance, advances) =>
    let restarted := c.wiring.unsynced.raised || c.wiring.readStuck.raised
    let loop := if restarted then c.loop.restartObserved else c.loop
    let heard := { c with
      wiring.advances := advances
      wiring.unsynced := c.wiring.unsynced.take.2
      wiring.readStuck := c.wiring.readStuck.take.2 }
    match loop.track? advance now with
    | none => { heard with crew := c.crew.modify .loss Worker.finishHeld }
    | some loop => { heard with loop := loop.apply }
  | _, _ => c

/-- The frame of a record that waits goes through extraction, analysis and broadcast. There is no
result where the frame cannot be taken out. -/
def extract? (c : Capture) (now : Nanos) : Option Capture :=
  (c.extractor.step? c.wiring).map fun e =>
    (({ c with extractor := e.extractor, wiring := e.wiring } : Capture).analyze now).settle

/-- The reader's attempt to open the device again succeeded or failed. -/
def reopened (c : Capture) (success : Bool) : Capture :=
  let (reader, wiring) := c.reader.opened c.wiring success
  { c with reader, wiring }

/-- Before a read: the report to write, if any. A write is taken to succeed. -/
def beforeRead (c : Capture) : Option Bytes × Capture :=
  match c.reader.beforeRead c.wiring with
  | (none, _) => (none, c)
  | (some report, wiring) => (some report, { c with wiring := Reader.wrote wiring true })

/-- A read came to an outcome, which goes through all stages. -/
def afterRead? (c : Capture) (outcome : ReadOutcome) (now : Nanos) : Option Capture :=
  let (reader, wiring) := c.reader.afterRead c.wiring outcome false
  { c with reader, wiring }.extract? now

/-- The extractor finds the reader silent and has it begin anew, given what opening the device would
come to. A reader that is stuck in a read is given up. -/
def handleSilence (c : Capture) (blocked : Bool) (opened : Except DeviceError Unit) : Capture :=
  match c.crew.worker? .reader with
  | none => c
  | some worker =>
    let worker := if blocked then worker.block else worker
    let after := ({ worker, wiring := c.wiring } : Recovery).handleSilence
      (opened.mapError .device) .untilStopped
    let recovered :=
      { c with wiring := after.wiring, crew := c.crew.modify .reader fun _ => after.worker }
    match opened with
    | .error _ => recovered
    | .ok _ => recovered.readerBegun

end Capture

end MotionCast
