import MotionCast.Device.Transport
import MotionCast.Sampling.Report

/-! Frames: the reports taken out of what a device delivers. A frame is written over a buffer that
holds an older one. -/

namespace MotionCast

namespace Frame

/-- The report counter of a frame, or zero when the frame is too short to hold one. -/
def counter (frame : Bytes) : UInt32 :=
  if frame.length < Report.counterOffset + 4 then 0 else frame.word32 Report.counterOffset

/-- The payload byte of each whole record. -/
def payloads (raw : Bytes) (recordLength payloadOffset : Nat) : Bytes :=
  (List.range (raw.length / recordLength)).map fun i => raw.byte (i * recordLength + payloadOffset)

/-- Writes the payloads of records over a frame, as many as both have. There is no result for
records without length, nor where a payload lies past the end of its record. -/
def deinterleave? (frame raw : Bytes) (recordLength payloadOffset : Nat) : Option Bytes :=
  if recordLength = 0 then none
  else if recordLength ≤ payloadOffset ∧ 0 < min frame.length (raw.length / recordLength) then none
  else some (frame.copyOver (payloads raw recordLength payloadOffset))

end Frame

/-- Writes the report in what a device delivered over a frame. -/
def Transport.extract? (t : Transport) (raw frame : Bytes) : Option Bytes :=
  match t with
  | records recordLength payloadOffset => Frame.deinterleave? frame raw recordLength payloadOffset
  | report => some (frame.copyOver raw)

end MotionCast
