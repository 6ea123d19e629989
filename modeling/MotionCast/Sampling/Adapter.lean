import MotionCast.Sampling.Sampler

/-! The adapter gives out motion samples on demand: replicas first, then samples of new frames, and
the last sample again when there is nothing new. It notices when the sensors are switched off and
asks to have them switched on, but not too often. -/

namespace MotionCast

/-- The state of an adapter. -/
structure Adapter where
  sampler : Sampler
  /-- When the sensors were last found switched off and asked for. -/
  lastAsked : Option Nanos := none
  /-- The sample that was published last. -/
  latest : Motion := {}

/-- What a demand for a sample came to. -/
structure Sampling where
  sample : Motion
  adapter : Adapter
  /-- How often the sensors were asked to be switched on. -/
  asked : Nat := 0
  /-- The frames that were not taken. -/
  rest : List Bytes

namespace Adapter

/-- An adapter that has seen no frame. -/
def new (config : SamplingConfig) : Adapter := { sampler := Sampler.new config }

/-- The adapter before its source starts again: counters are forgotten, times are not. -/
def restart (a : Adapter) : Adapter := { a with sampler := a.sampler.reset }

/-- It is time to ask for the sensors again. -/
def isDue (a : Adapter) (now : Nanos) : Bool :=
  match a.lastAsked with
  | none => true
  | some last => now - last ≥ a.sampler.config.noGyroCooldown

/-- Looks whether a report shows the sensors switched off, and whether to ask for them. -/
def checkSensors (a : Adapter) (report : Report) (now : Nanos) : Bool × Adapter :=
  if report.imuIsZero && a.isDue now then (true, { a with lastAsked := some now }) else (false, a)

/-- The adapter with a sample published and its sampler gone on. -/
def published (a : Adapter) (sampler : Sampler) (sample : Motion) : Adapter :=
  { a with sampler, latest := sample }

/-- The first sample of the frames, of which at most `limit` are taken. Short frames and repeats are
passed over. Without a sample the last one is given out and nothing is published. -/
def fromFrames (a : Adapter) (now : Nanos) (asked : Nat) : (limit : Nat) → List Bytes → Sampling
  | 0, rest => ⟨a.sampler.last, a, asked, rest⟩
  | _ + 1, [] => ⟨a.sampler.last, a, asked, []⟩
  | limit + 1, frame :: rest =>
    match Report.decode frame with
    | .error _ => a.fromFrames now asked limit rest
    | .ok report =>
      let (asks, a) := a.checkSensors report now
      let asked := if asks then asked + 1 else asked
      match a.sampler.accept report with
      | (some sample, sampler) => ⟨sample, a.published sampler sample, asked, rest⟩
      | (none, sampler) => { a with sampler }.fromFrames now asked limit rest

/-- A replica is left, so that a demand takes no frame. -/
def hasReplica (a : Adapter) : Bool := a.sampler.replicasLeft ≠ 0

/-- The next sample, given the frames that come in while it is waited for. -/
def next (a : Adapter) (frames : List Bytes) (now : Nanos) : Sampling :=
  match a.sampler.nextReplica with
  | (some sample, sampler) => ⟨sample, a.published sampler sample, 0, frames⟩
  | (none, _) => a.fromFrames now 0 (a.sampler.config.maxRepeatRetries.toNat + 1) frames

end Adapter

end MotionCast
