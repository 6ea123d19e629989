import MotionCast.Capture.Basic
import MotionCast.Cli.Args
import MotionCast.Sampling.Calibrator
import MotionCast.Server.Error
import MotionCast.Text.Lines
import MotionCast.Text.Scientific

/-! What the program tells its user, message by message, and the code that it ends with. -/

namespace MotionCast.Cli

/-- The messages that are told, each on lines of its own, and the code at the end. -/
structure Transcript where
  messages : List String
  code : UInt32
deriving DecidableEq

/-- The lines that are seen. A message with a line feed in it takes several. -/
def Transcript.lines (t : Transcript) : List String := t.messages.flatMap Lines.ofMessage

/-- A message with a word in the place of each port of an endpoint that a server can listen on. It
is the same for any two ports that the system picks. -/
def withoutPorts (word message : String) : String :=
  let hide (message : String) (interface : BindInterface) :=
    Lines.hideNumbers (interface.host.toText ++ ":") word message
  [.localOnly, .all].foldl hide message

/-- The transcript with a word in the place of each such port. -/
def Transcript.withoutPorts (t : Transcript) (word : String) : Transcript :=
  { t with messages := t.messages.map (Cli.withoutPorts word) }

/-- The code of a wrong command line. -/
def refusedCode : UInt32 := 2

/-- The first messages: the device, and where motion is served. -/
def banner (o : Options) (server : ServerConfig) : List String :=
  let port := toString server.port.toNat
  let slot := toString server.slot.toNat
  let vendor := Hex.ofNat 4 DeviceSpec.deckVendor.toNat
  let product := Hex.ofNat 4 DeviceSpec.deckProduct.toNat
  ["sdgyrodsu starting...", "  Device: " ++ o.device.toText] ++
    (if o.mode = .serve then
      ["  UDP: " ++ server.interface.name ++ ":" ++ port, "  Slot: " ++ slot]
    else []) ++
    if o.namesFile then []
    else
      ["  Note: built without hidapi; pass --device-file or --hidraw (default VID/PID " ++
        vendor ++ ":" ++ product ++ ")"]

/-- The message of a server that listens at an address. -/
def started (address : String) : String :=
  "sdgyrodsu started on " ++ address ++ ". Press Ctrl+C to stop."

/-- The message of an interrupt, which starts on a line after the key that was typed. -/
def interrupted : String := "\nReceived interrupt signal. Shutting down..."

/-- The message that tells how to hold the device. -/
def calibrating (seconds : Nat) : String :=
  "Calibrating for " ++ (Nanos.seconds seconds).toText ++
    ": rotate the device steadily around its horizontal axis."

/-- The message of a calibration that has ended. -/
def estimated (c : Calibrator) : String :=
  let found :=
    match c.estimate?.join with
    | some scale => Scientific.ofFloat scale 3 ++ " units per degree a second"
    | none => "no estimate, the device did not turn"
  "Gyroscope: " ++ found ++ " (" ++ toString c.samples ++ " samples)"

/-- The message of parameters with a fault. -/
def creationFailed (e : CaptureError) : String :=
  "Failed to create daemon: " ++ (ServeError.capture e).message

/-- The message of a run that failed. -/
def runFailed (e : ServeError) : String := "Daemon error: " ++ e.message

/-- The messages of a run whose parameters have no fault, given what opening the device comes to and
where the server listens. -/
def session (mode : Mode) (connected : Except DeviceError Unit)
    (listening : Except ServeError Endpoint) : Transcript :=
  match mode, listening, connected with
  | .serve, .error e, _ => ⟨[runFailed e], 1⟩
  | .serve, .ok endpoint, _ => ⟨[started endpoint.toText, interrupted], 0⟩
  | _, _, .error e => ⟨[runFailed (.capture (.device e))], 1⟩
  | .testRun _, _, .ok _ => ⟨[], 0⟩
  | .calibrate seconds, _, .ok _ => ⟨[calibrating seconds], 0⟩

/-- The transcript of a run that is interrupted once it serves. -/
def transcript (o : Options) (server : ServerConfig) (connected : Except DeviceError Unit)
    (listening : Except ServeError Endpoint) : Transcript :=
  let before := banner o server
  match o.capture.validate with
  | .error e => ⟨before ++ [creationFailed e], 1⟩
  | .ok _ =>
    let run := session o.mode connected listening
    { run with messages := before ++ run.messages }

end MotionCast.Cli
