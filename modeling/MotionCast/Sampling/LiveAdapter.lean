import MotionCast.Capture.Rig
import MotionCast.Sampling.Adapter

/-! An adapter at work on a capture, of which it is a viewer. -/

namespace MotionCast

/-- An adapter answers a demand, given the frames that came in. The capture is asked to switch the
sensors on if the adapter wants that. -/
def Adapter.serve (a : Adapter) (c : Capture) (frames : List Bytes) (now : Nanos) :
    Motion × Adapter × Capture :=
  let s := a.next frames now
  (s.sample, s.adapter, if s.asked > 0 then c.requestMotion else c)

/-- An adapter with the capture that it views. -/
structure LiveAdapter where
  rig : Rig
  adapter : Adapter
  seat : Nat

namespace LiveAdapter

/-- The adapter takes a seat. -/
def new (capture : Capture) (config : SamplingConfig) : LiveAdapter :=
  let (seat, capture) := capture.subscribe
  { rig := { capture }, adapter := Adapter.new config, seat }

/-- Takes the frame that waits for the adapter, if any. -/
def takeFrame (l : LiveAdapter) : List Bytes × LiveAdapter :=
  let (frames, capture) := l.rig.capture.takeFrame l.seat
  (frames, { l with rig.capture := capture })

/-- Starts the capture. A frame that was left over is dropped. -/
def start (l : LiveAdapter) : Except Unrest (Except CaptureError Unit × LiveAdapter) := do
  let cleared := l.takeFrame.2
  let (result, rig) ← cleared.rig.start
  return (result, { cleared with rig, adapter := l.adapter.restart })

/-- Stops the capture. -/
def stop (l : LiveAdapter) : LiveAdapter := { l with rig := l.rig.stop }

/-- The next sample. No frame comes in while it is waited for, so that there is at most one. -/
def next (l : LiveAdapter) : Motion × LiveAdapter :=
  let (frames, l) := if l.adapter.hasReplica then ([], l) else l.takeFrame
  let (sample, adapter, capture) := l.adapter.serve l.rig.capture frames l.rig.tick.now
  (sample, { l with rig := { l.rig.tick with capture }, adapter })

end LiveAdapter

end MotionCast
