import MotionCast.Capture.Config
import MotionCast.Capture.Wiring
import MotionCast.Device.Transport

/-! The reader takes records from a device and hands on those that are whole and in step. When a
record stream falls out of step, and when any read fails, it drops the device and opens it again. A
report that is cut short is only tried again. -/

namespace MotionCast

/-- What a reader must know. -/
structure ReaderConfig where
  transport : Transport
  /-- Reports can be written to the device. -/
  writable : Bool
  frameLength : Nat
  startMarker : Bytes
  enableReport : Bytes
deriving DecidableEq

/-- What a read of the device comes to. -/
inductive ReadOutcome where
  | failed
  /-- The read reports a number of bytes, zero when none came in time, and leaves a buffer. -/
  | returned (count : Nat) (buffer : Bytes)
deriving DecidableEq

/-- How a read is judged. -/
inductive Verdict where
  | timeout
  /-- A report that is cut short. -/
  | cutShort
  /-- The device is out of step or does not answer. -/
  | desynced
  | record
deriving DecidableEq, Repr

namespace ReaderConfig

/-- The reader's part of the parameters of a capture. -/
def ofCapture (c : CaptureConfig) (transport : Transport) (writable : Bool) : ReaderConfig where
  transport
  writable
  frameLength := c.frameLength
  startMarker := c.startMarker
  enableReport := c.enableReport

/-- The bytes of a whole record or report. -/
def rawLength (c : ReaderConfig) : Nat := c.transport.rawLength c.frameLength

/-- The payloads of a record stream start with the marker. -/
def marked (marker raw : Bytes) (recordLength payloadOffset : Nat) : Bool :=
  marker.zipIdx.all fun (byte, j) => raw[payloadOffset + j * recordLength]? = some byte

/-- What was read is in step: its first record has the usage of all records, or the alternative one
and payloads that start with the marker. -/
def framed (c : ReaderConfig) (raw : Bytes) : Bool :=
  match c.transport with
  | .report => true
  | .records recordLength payloadOffset =>
    if raw.length < 4 then false
    else if raw.word32 0 = recordUsage then true
    else if raw.word32 0 ≠ recordUsageAlternative || c.startMarker.isEmpty then false
    else marked c.startMarker raw recordLength payloadOffset

/-- Judges a read. -/
def judge (c : ReaderConfig) : ReadOutcome → Verdict
  | .failed => .desynced
  | .returned count buffer =>
    if count = 0 then .timeout
    else if count < c.rawLength then
      if c.transport.isRecordStream then .desynced else .cutShort
    else if c.framed buffer then .record
    else .desynced

end ReaderConfig

/-- A run of the reader. -/
structure Reader where
  config : ReaderConfig
  /-- The device is open. -/
  isOpen : Bool
  /-- The buffer for the next read. -/
  fill : Bytes
deriving DecidableEq

namespace Reader

/-- A run that begins, with the device that was opened for it, if any. -/
def new (config : ReaderConfig) (isOpen : Bool) : Reader where
  config
  isOpen
  fill := Bytes.zeros config.rawLength

/-- An attempt to open the device succeeded or failed. -/
def opened (r : Reader) (w : Wiring) (success : Bool) : Reader × Wiring :=
  if success then
    ({ r with isOpen := true }, { w with metrics.reconnects := w.metrics.reconnects + 1 })
  else (r, w)

/-- Before a read: the report to write, when one is asked for and the device takes it. -/
def beforeRead (r : Reader) (w : Wiring) : Option Bytes × Wiring :=
  if r.config.writable && w.enableMotion.raised then
    (some r.config.enableReport, { w with enableMotion := w.enableMotion.take.2 })
  else (none, w)

/-- The write succeeded or failed. One that failed is not tried again. -/
def wrote (w : Wiring) (success : Bool) : Wiring :=
  if success then { w with metrics.motionReenables := w.metrics.motionReenables + 1 } else w

/-- Drops the device. -/
def desync (r : Reader) (w : Wiring) : Reader × Wiring :=
  ({ r with isOpen := false },
    { w with unsynced := w.unsynced.send, metrics.unsynced := w.metrics.unsynced + 1 })

/-- Hands on the buffer, and gets another one for it. -/
def deliver (r : Reader) (w : Wiring) : Reader × Wiring :=
  ({ r with fill := (w.records.send r.fill).1 },
    { w with
      records := (w.records.send r.fill).2
      metrics.framesRead := w.metrics.framesRead + 1 })

/-- The reader with what a read left in its buffer. -/
def filled (r : Reader) : ReadOutcome → Reader
  | .failed => r
  | .returned _ buffer => { r with fill := buffer }

/-- Takes what a read came to. A reader that was asked to stop meanwhile hands on nothing. -/
def afterRead (r : Reader) (w : Wiring) (outcome : ReadOutcome) (stopping : Bool) :
    Reader × Wiring :=
  match r.config.judge outcome with
  | .timeout => (r.filled outcome, w)
  | .cutShort =>
    (r.filled outcome, { w with metrics.shortReads := w.metrics.shortReads + 1 })
  | .desynced => (r.filled outcome).desync w
  | .record => if stopping then (r.filled outcome, w) else (r.filled outcome).deliver w

end Reader

end MotionCast
