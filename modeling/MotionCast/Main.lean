import MotionCast.Cli.Transcript
import MotionCast.Cli.Usage
import MotionCast.Sampling.Calibrator
import MotionCast.Sampling.LiveAdapter
import MotionCast.Server.Basic
import Std.Async.Select
import Std.Async.Signal
import Std.Async.Timer
import Std.Async.UDP

/-! The program. It opens the device and the socket, waits for what comes in, and carries out what
the library decides: what is read goes through a capture, what is received goes to a server. -/

namespace MotionCast.Program

open Std.Async
open Std.Net (IPv4Addr SocketAddress)

/-- Where clients are. -/
abbrev Address := SocketAddress

/-- A source of motion: the device, if it is open, and the capture and the adapter behind it. -/
structure Source where
  spec : DeviceSpec
  device : Option IO.FS.Handle := none
  capture : Capture
  adapter : Adapter
  seat : Nat

/-- Writes lines to the error output. -/
def tell (lines : List String) : IO Unit := lines.forM IO.eprintln

/-- The system's reason for an error. -/
def reason : IO.Error → String
  | .permissionDenied _ code text | .inappropriateType _ code text | .noSuchThing _ code text
  | .invalidArgument _ code text | .resourceExhausted _ code text | .resourceBusy code text
  | .otherError code text => text ++ " (os error " ++ toString code ++ ")"
  | e => toString e

/-- Opens a device file. -/
def openFile (path : String) (mode : IO.FS.Mode) : IO (Except DeviceError IO.FS.Handle) := do
  try return .ok (← IO.FS.Handle.mk path mode)
  catch
    | .noFileOrDirectory _ _ _ => return .error (.notFound path)
    | e => return .error (.io (reason e))

/-- Opens the device. -/
def connect : DeviceSpec → IO (Except DeviceError IO.FS.Handle)
  | .hiddev path => openFile path .read
  | .hidraw path => openFile path .readWrite
  | .hidapi _ _ _ => return .error DeviceSpec.noBackend

/-- One read of the device into a buffer. The end of a file is a failure. -/
def readInto (device : IO.FS.Handle) (buffer : Bytes) : IO ReadOutcome := do
  try
    let data ← device.read (USize.ofNat buffer.length)
    if data.isEmpty then return .failed
    return .returned data.size (buffer.copyOver data.toList)
  catch _ => return .failed

namespace Source

/-- The source of a device, with its adapter as the only viewer. -/
def new (spec : DeviceSpec) (capture : Capture) : Source :=
  let (seat, capture) := capture.subscribe
  { spec, capture, adapter := Adapter.new {}, seat }

/-- Opens the device and starts the capture. -/
def start (s : Source) : IO (Except CaptureError Unit × Source) := do
  let opened ← connect s.spec
  let now ← IO.monoNanosNow
  let (result, capture) := (s.capture.takeFrame s.seat).2.start (opened.map fun _ => ()) now
  return (result, { s with
    device := opened.toOption, capture := capture.analyze now, adapter := s.adapter.restart })

/-- Stops the capture and closes the device. -/
def stop (s : Source) : Source := { s with device := none, capture := s.capture.stop }

/-- Opens the device again after it was dropped. -/
def reconnect (s : Source) : IO Source := do
  let opened ← connect s.spec
  unless opened.isOk do
    IO.sleep (UInt32.ofNat (s.capture.scanPeriod * s.capture.config.readTimeoutFactor / 1000000))
  return { s with device := opened.toOption, capture := s.capture.reopened opened.isOk }

/-- Writes a report to the device, if one is asked for. -/
def write (device : IO.FS.Handle) : Option Bytes → IO Unit
  | none => return
  | some report => do
    try device.write (ByteArray.mk report.toArray) catch _ => return

/-- Reads the device once, and lets what was read go through the capture. -/
def advance (s : Source) : IO Source := do
  match s.device, s.capture.reader.isOpen with
  | some device, true =>
    let (report, capture) := s.capture.beforeRead
    write device report
    let outcome ← readInto device capture.reader.fill
    let after := capture.afterRead? outcome (← IO.monoNanosNow)
    return { s with capture := after.getD capture }
  | _, _ => s.reconnect

/-- Reads the device until a frame has come or a time is past. -/
partial def waitForFrame (s : Source) (deadline : Nanos) : IO (List Bytes × Source) := do
  let s ← s.advance
  let (frames, capture) := s.capture.takeFrame s.seat
  let s := { s with capture }
  if frames.isEmpty && (← IO.monoNanosNow) < deadline then s.waitForFrame deadline
  else return (frames, s)

/-- The next sample. -/
def next (s : Source) : IO (Motion × Source) := do
  let now ← IO.monoNanosNow
  let (frames, s) ←
    if s.adapter.hasReplica then pure ([], s)
    else s.waitForFrame (now + s.adapter.sampler.config.consumeTimeout)
  let (sample, adapter, capture) := s.adapter.serve s.capture frames now
  return (sample, { s with capture, adapter })

end Source

/-- Sends datagrams. One that cannot be sent is lost. -/
def send (socket : UDP.Socket) (datagrams : List (Datagram Address)) : IO Unit :=
  datagrams.forM fun d => do
    try (socket.send (ByteArray.mk d.packet.toArray) (some d.receiver)).block catch _ => return

/-- A broadcast at work: how it is told to stop, and the source that it gives back. -/
structure Sending where
  stop : IO.Ref Bool
  done : Task (Except IO.Error Source)

/-- A server at work. -/
structure Service where
  socket : UDP.Socket
  server : IO.Ref (Server Address)
  source : Source
  sending : Option Sending := none

namespace Service

/-- Sends a round for each sample until it is told to stop. -/
partial def broadcast (socket : UDP.Socket) (server : IO.Ref (Server Address))
    (stop : IO.Ref Bool) (source : Source) : IO Source := do
  if ← stop.get then return source
  let (sample, source) ← source.next
  if ← stop.get then return source
  send socket (← server.modifyGet (·.round sample))
  broadcast socket server stop source

/-- Starts to send with a source that has started. -/
def startSending (s : Service) (source : Source) : IO Service := do
  let stop ← IO.mkRef false
  let done ← IO.asTask (broadcast s.socket s.server stop source) .dedicated
  return { s with source, sending := some { stop, done } }

/-- Stops to send, and the source with it, if the server has stopped its broadcast. -/
def settle (s : Service) : IO Service := do
  match s.sending with
  | none => return s
  | some sending =>
    if (← s.server.get).broadcast.isSome then return s
    sending.stop.set true
    let source := (← IO.wait sending.done).toOption.getD s.source
    return { s with source := source.stop, sending := none }

/-- The source is to be started for a datagram. -/
def startsFor (s : Service) (client : Address) (bytes : Bytes) : IO Bool := do
  let server ← s.server.get
  return (server.receive client bytes true).2.source.starts > server.source.starts

/-- A datagram comes in. -/
def receive (s : Service) (client : Address) (bytes : Bytes) : IO Service := do
  let starts ← s.startsFor client bytes
  let (result, source) ← if starts then s.source.start else pure (.ok (), s.source)
  send s.socket (← s.server.modifyGet (·.receive client bytes result.isOk))
  if starts && result.isOk then s.startSending source else s.settle

/-- Nothing came in. -/
def timeout (s : Service) : IO Service := do
  s.server.modify (·.timeout)
  s.settle

/-- Shuts the server down. -/
def shutdown (s : Service) : IO Unit := do
  s.server.modify (·.shutdown)
  discard s.settle

/-- What the server may meet while it waits. -/
inductive Arrival where
  | datagram (bytes : Bytes) (client : Option Address)
  | silence
  | interrupt

/-- Waits for what comes first. -/
def wait (s : Service) (interrupt : Signal.Waiter) : IO Arrival := do
  let millis := (← s.server.get).config.receiveTimeout / 1000000
  let race : Async Arrival := do
    let silence ← Selector.sleep (Std.Time.Millisecond.Offset.ofNat millis)
    Selectable.one #[
      .case (s.socket.recvSelector (UInt64.ofNat Server.receiveLimit)) fun (bytes, client) =>
        return .datagram bytes.toList client,
      .case silence fun _ => return .silence,
      .case interrupt.selector fun _ => return .interrupt]
  race.block

/-- Serves until it is interrupted. -/
partial def run (s : Service) (interrupt : Signal.Waiter) : IO Unit := do
  match ← s.wait interrupt with
  | .interrupt =>
    tell [Cli.interrupted]
    s.shutdown
  | .silence => (← s.timeout).run interrupt
  | .datagram _ none => s.run interrupt
  | .datagram bytes (some client) => (← s.receive client bytes).run interrupt

end Service

/-- The system's form of an endpoint. -/
def addressOf (e : Endpoint) : Address :=
  match e.host with
  | .v4 a b c d => .v4 ⟨IPv4Addr.ofParts a b c d, e.port⟩
  | .v6 words _ => .v6 ⟨⟨words⟩, e.port⟩

/-- Binds the server's socket: nothing, or the reason against it. -/
def bind (socket : UDP.Socket) (e : Endpoint) : IO (Except String Unit) := do
  try
    socket.bind (addressOf e)
    return .ok ()
  catch e => return .error (reason e)

/-- Serves motion. -/
def serve (config : ServerConfig) (source : Source) : IO (Except ServeError Unit) := do
  let socket ← UDP.Socket.mk
  match Server.listen config (← bind socket config.endpoint) with
  | .error e => return .error e
  | .ok server =>
    let interrupt ← Signal.Waiter.mk .sigint false
    tell [Cli.started (toString (← socket.getSockName))]
    ({ socket, server := ← IO.mkRef server, source } : Service).run interrupt
    return .ok ()

/-- Goes on until a time or an interrupt. -/
partial def goOn {α : Type} (interrupt : AsyncTask Int) (deadline : Nanos) (step : α → IO α)
    (state : α) : IO α := do
  if (← IO.monoNanosNow) ≥ deadline || (← IO.hasFinished interrupt) then return state
  goOn interrupt deadline step (← step state)

/-- Starts a source, goes on for some seconds from a first state, and lets the device go. -/
def session {α : Type} (source : Source) (seconds : Nat) (first : IO α)
    (step : α × Source → IO (α × Source)) : IO (Except ServeError α) := do
  match ← source.start with
  | (.error e, _) => return .error (.capture e)
  | (.ok _, source) =>
    let state ← first
    let waiter ← Signal.Waiter.mk .sigint false
    let deadline := (← IO.monoNanosNow) + Nanos.seconds seconds
    let (state, _) ← goOn (← waiter.wait) deadline step (state, source)
    return .ok state

/-- Takes samples for some seconds. -/
def testRun (source : Source) (seconds : Nat) : IO (Except ServeError Unit) := do
  let last ← session source seconds (return {}) fun (_, source) => source.next
  return last.map fun (_ : Motion) => ()

/-- Records reports for some seconds and tells the estimate. -/
def calibrate (o : Cli.Options) (source : Source) (seconds : Nat) :
    IO (Except ServeError Unit) := do
  let first : IO Calibrator := do
    tell [Cli.calibrating seconds]
    return Calibrator.new source.adapter.sampler.config.devicePeriod
  let recorded ← session source seconds first fun (calibrator, source) => do
    let (frames, source) ← source.waitForFrame ((← IO.monoNanosNow) + Nanos.millis 100)
    let reports := frames.filterMap fun frame => (Report.decode frame).toOption
    return (reports.foldl Calibrator.process calibrator, source)
  match recorded with
  | .error e => return .error e
  | .ok calibrator =>
    if o.logLevel ≠ "off" then IO.println (Cli.estimated calibrator)
    return .ok ()

/-- Runs the program with its options. -/
def run (o : Cli.Options) : IO UInt32 := do
  let server := o.server (← IO.getEnv "SDGYRO_SERVER_PORT")
  let spec := o.device
  tell (Cli.banner o server)
  match Capture.new o.capture spec.transport spec.writable with
  | .error e =>
    tell [Cli.creationFailed e]
    return 1
  | .ok capture =>
    let source := Source.new spec capture
    let result ← match o.mode with
      | .serve => serve server source
      | .testRun seconds => testRun source seconds
      | .calibrate seconds => calibrate o source seconds
    match result with
    | .ok _ => return 0
    | .error e =>
      tell [Cli.runFailed e]
      return 1

/-- Does what the command line asks for. -/
def execute (args : List String) : IO UInt32 := do
  match Cli.Options.ofArgs args with
  | .ok options => run options
  | .error .usage =>
    Cli.usage.forM IO.println
    return 0
  | .error .version =>
    IO.println Cli.version
    return 0
  | .error .refused =>
    tell [Cli.refusal]
    return Cli.refusedCode

end MotionCast.Program

/-- The program. -/
def main (args : List String) : IO UInt32 := MotionCast.Program.execute args
