import MotionCast.Capture.Worker

/-! The crew of a capture: one worker for each stage. They are started in order and stopped in
reverse, and a stage that cannot start stops the ones started before it. -/

namespace MotionCast

/-- The stages of a capture. -/
inductive Stage where
  /-- Beats time for the reader. -/
  | pace
  /-- Tunes the scan period. -/
  | loss
  | reader
  | extractor
  /-- Shows frames to the audience. -/
  | broadcaster
deriving DecidableEq, Repr

/-- The stages in the order in which they start. Only a record stream is paced. -/
def Stage.inOrder (paced : Bool) : List Stage :=
  (if paced then [pace, loss] else []) ++ [reader, extractor, broadcaster]

/-- The workers in the order in which they start. -/
structure Crew where
  members : List (Stage × Worker)

namespace Crew

/-- A crew that does nothing yet. -/
def new (paced : Bool) : Crew where
  members := (Stage.inOrder paced).map fun stage => (stage, {})

/-- Starts members in order, given what their preparations would come to. When one fails, those
before it are stopped, the last of them first. -/
def startMembers (prepared : Stage → Except CaptureError Unit) :
    List (Stage × Worker) → Except CaptureError Unit × List (Stage × Worker)
  | [] => (.ok (), [])
  | (stage, worker) :: rest =>
    match worker.start (prepared stage) .untilStopped with
    | (.error e, failed) => (.error e, (stage, failed) :: rest)
    | (.ok _, started) =>
      match startMembers prepared rest with
      | (.error e, rest) => (.error e, (stage, started.tryStop.2) :: rest)
      | (.ok _, rest) => (.ok (), (stage, started) :: rest)

/-- Starts the crew. Workers that are at work already go on. -/
def start (c : Crew) (prepared : Stage → Except CaptureError Unit) :
    Except CaptureError Unit × Crew :=
  let (result, members) := startMembers prepared c.members
  (result, { members })

/-- Stops the crew. -/
def stop (c : Crew) : Crew where
  members := c.members.map fun (stage, worker) => (stage, worker.tryStop.2)

/-- The worker of a stage. -/
def worker? (c : Crew) (stage : Stage) : Option Worker := c.members.lookup stage

/-- The worker of a stage is at work. -/
def isAtWork (c : Crew) (stage : Stage) : Bool := (c.worker? stage).any (·.isLive)

/-- Changes the worker of a stage. -/
def modify (c : Crew) (stage : Stage) (f : Worker → Worker) : Crew where
  members := c.members.map fun (s, worker) => (s, if s = stage then f worker else worker)

/-- Anyone is at work. -/
def isStarted (c : Crew) : Bool := c.members.any fun (_, worker) => worker.isStarted

/-- Some are at work and some are not, or are about to stop. -/
def isStopping (c : Crew) : Bool :=
  c.isStarted && c.members.any fun (_, worker) => !worker.isStarted || worker.isStopping

end Crew

end MotionCast
