import MotionCast.Capture.Reader

/-! One run of a reader against a scripted device, and the trace of it: what the reader did to the
device, and what it handed on, in order. -/

namespace MotionCast

/-- What a scripted read does. -/
inductive ScriptedAnswer where
  | data (bytes : Bytes)
  | empty
  | failure
deriving DecidableEq

/-- A scripted read, and what happens while it lasts. -/
structure TrialRead where
  answer : ScriptedAnswer
  /-- Someone asks to have the motion sensors switched on. -/
  enable : Bool := false
  /-- The reader is asked to stop. -/
  stop : Bool := false
deriving DecidableEq

/-- One entry of a trace. -/
inductive TraceEntry where
  | connect
  | connectFailed
  /-- A scripted read is answered. -/
  | read
  /-- A read finds the script at its end. -/
  | exhausted
  | write (report : Bytes)
  | writeFailed (report : Bytes)
  /-- A record was handed on. -/
  | sent (record : Bytes)
  | unsynced
deriving DecidableEq

/-- What a scripted read comes to for a reader's buffer: as much of the data as the buffer holds. -/
def ScriptedAnswer.outcome (buffer : Bytes) : ScriptedAnswer → ReadOutcome
  | data bytes => .returned (min bytes.length buffer.length) (buffer.copyOver bytes)
  | empty => .returned 0 buffer
  | failure => .failed

/-- The wiring after what happens while a scripted read lasts. -/
def TrialRead.during (step : TrialRead) (w : Wiring) : Wiring :=
  if step.enable then { w with enableMotion := w.enableMotion.send } else w

/-- A reader on trial. -/
structure ReaderTrial where
  reader : Reader
  wiring : Wiring
  /-- The results of the openings to come. Those past the last one succeed. -/
  opens : List Bool
  writeFails : Bool
  /-- The buffer in which the trial takes what the reader hands on. -/
  received : Bytes
  trace : List TraceEntry := []

namespace ReaderTrial

/-- A trial that has not begun. -/
def new (config : ReaderConfig) (opens : List Bool) (writeFails : Bool) : ReaderTrial where
  reader := Reader.new config false
  wiring := Wiring.new config.rawLength config.frameLength
  opens
  writeFails
  received := Bytes.zeros config.rawLength

/-- Adds to the trace. -/
def note (t : ReaderTrial) (entry : TraceEntry) : ReaderTrial :=
  { t with trace := t.trace ++ [entry] }

/-- Takes what the reader handed on since the last look. -/
def lookForRecord (t : ReaderTrial) : ReaderTrial :=
  match t.wiring.records.poll t.received with
  | (false, _, _) => t
  | (true, received, records) =>
    { t with received, wiring.records := records }.note (.sent received)

/-- Takes the signal that the device was out of step since the last look. -/
def lookForSignal (t : ReaderTrial) : ReaderTrial :=
  match t.wiring.unsynced.take with
  | (false, _) => t
  | (true, unsynced) => { t with wiring.unsynced := unsynced }.note .unsynced

/-- Takes both. -/
def look (t : ReaderTrial) : ReaderTrial := t.lookForRecord.lookForSignal

/-- Opens the device once. -/
def connect (t : ReaderTrial) : ReaderTrial :=
  let success := t.opens.headD true
  let (reader, wiring) := t.reader.opened t.look.wiring success
  { t.look with reader, wiring, opens := t.opens.tail }.note
    (if success then .connect else .connectFailed)

/-- Opens the device as often as it takes, given the results to come. -/
def connectAll (t : ReaderTrial) : List Bool → ReaderTrial
  | [] => t.connect
  | true :: _ => t.connect
  | false :: rest => t.connect.connectAll rest

/-- Writes a report that is asked for. -/
def writeAsked (t : ReaderTrial) : ReaderTrial :=
  match t.reader.beforeRead t.wiring with
  | (none, _) => t
  | (some report, wiring) =>
    { t with wiring := Reader.wrote wiring !t.writeFails }.note
      (if t.writeFails then .writeFailed report else .write report)

/-- Comes to the point of reading: the device is open, and a report that is asked for is written. -/
def ready (t : ReaderTrial) : ReaderTrial :=
  (if t.reader.isOpen then t else t.connectAll t.opens).writeAsked

/-- One scripted read. -/
def read (t : ReaderTrial) (step : TrialRead) : ReaderTrial :=
  let t := t.look.note .read
  let outcome := step.answer.outcome t.reader.fill
  let (reader, wiring) := t.reader.afterRead (step.during t.wiring) outcome step.stop
  { t with reader, wiring }

/-- The reader's run over scripted reads. At their end it is asked to stop. -/
def session (t : ReaderTrial) : List TrialRead → ReaderTrial
  | [] => (t.ready.look.note .exhausted).look
  | step :: rest =>
    let t := t.ready.read step
    if step.stop then t.look else t.session rest

/-- Prepares a run, which opens the device once: whether that succeeds. -/
def prepare (t : ReaderTrial) : Bool × ReaderTrial := (t.connect.reader.isOpen, t.connect)

end ReaderTrial

end MotionCast
