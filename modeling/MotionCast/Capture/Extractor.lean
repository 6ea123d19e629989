import MotionCast.Capture.Frame
import MotionCast.Capture.Wiring

/-! The extractor takes the frame out of each record and says by how much its counter is ahead of
the last one's. -/

namespace MotionCast

/-- A run of the extractor: its two buffers and the last counter. -/
structure Extractor where
  transport : Transport
  /-- The advance of the counter is wanted. -/
  analyzesLoss : Bool
  raw : Bytes
  frame : Bytes
  lastCounter : Option UInt32 := none

/-- What a record came to: the advance of the counter, if it is wanted and there was a frame before,
and the extractor and the wiring after it. -/
structure Extraction where
  advance : Option Int64
  extractor : Extractor
  wiring : Wiring

namespace Extractor

/-- An extractor at the start of a run. -/
def new (transport : Transport) (frameLength : Nat) (analyzesLoss : Bool) : Extractor where
  transport
  analyzesLoss
  raw := Bytes.zeros (transport.rawLength frameLength)
  frame := Bytes.zeros frameLength

/-- The advance from the last counter to this one, read as a signed word. -/
def advance (e : Extractor) (counter : UInt32) : Option Int64 :=
  if e.analyzesLoss then e.lastCounter.map fun last => (counter - last).toInt32.toInt64 else none

/-- The extractor with its frame taken from a record and sent on. -/
def send (e : Extractor) (raw frame : Bytes) (w : Wiring) : Extraction where
  advance := e.advance (Frame.counter frame)
  extractor :=
    { e with raw, frame := (w.frames.send frame).1, lastCounter := some (Frame.counter frame) }
  wiring :=
    { w with
      advances := w.advances.sendIfAny (e.advance (Frame.counter frame))
      frames := (w.frames.send frame).2
      metrics.framesExtracted := w.metrics.framesExtracted + 1 }

/-- Takes a record that waits and sends its frame on. There is no result where the frame cannot be
taken out. -/
def step? (e : Extractor) (w : Wiring) : Option Extraction :=
  match w.records.poll e.raw with
  | (false, _, _) => some ⟨none, e, w⟩
  | (true, raw, records) =>
    (e.transport.extract? raw e.frame).map fun frame => e.send raw frame { w with records }

/-- Takes a record that comes in and gives out its frame, in exchange for a buffer. -/
def exchange? (e : Extractor) (w : Wiring) (raw frame : Bytes) : Option (Extraction × Bytes) :=
  (e.step? { w with records := (w.records.send raw).2 }).map fun done =>
    let (_, frame, frames) := done.wiring.frames.poll frame
    ({ done with wiring := { done.wiring with frames } }, frame)

/-- Takes records that come in one after another: each extraction with its frame, and the wiring in
the end. -/
def exchangeAll? (e : Extractor) (w : Wiring) (frame : Bytes) :
    List Bytes → Option (List (Extraction × Bytes) × Wiring)
  | [] => some ([], w)
  | raw :: rest => do
    let (done, frame) ← e.exchange? w raw frame
    let (others, w) ← done.extractor.exchangeAll? done.wiring frame rest
    return ((done, frame) :: others, w)

end Extractor

end MotionCast
