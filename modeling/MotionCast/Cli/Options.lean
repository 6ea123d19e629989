import MotionCast.Capture.Config
import MotionCast.Device.Spec
import MotionCast.Server.Config

/-! What the command line asks for, and the parameters that follow from it. -/

namespace MotionCast.Cli

/-- What the program does. -/
inductive Mode where
  /-- Serves motion data until it is interrupted. -/
  | serve
  /-- Takes samples for some seconds and serves nobody. -/
  | testRun (seconds : Nat)
  /-- Estimates the gyroscope's scale from some seconds. -/
  | calibrate (seconds : Nat)
deriving DecidableEq, Repr

/-- The options of the command line. -/
structure Options where
  deviceFile : Option String := none
  hidraw : Option String := none
  vendor : UInt16 := DeviceSpec.deckVendor
  product : UInt16 := DeviceSpec.deckProduct
  usbInterface : Int := DeviceSpec.deckInterface
  port : Option UInt16 := none
  interface : BindInterface := .all
  slot : UInt8 := 0
  scanPeriodMicros : Option Nat := none
  startMarker : Option Bytes := none
  logLevel : String := "info"
  calibrate : Option Nat := none
  testRun : Option Nat := none
deriving DecidableEq

namespace Options

/-- The device to read: a file that is named, else a controller by its identity. -/
def device (o : Options) : DeviceSpec :=
  match o.deviceFile, o.hidraw with
  | some path, _ => .hiddev path
  | none, some path => .hidraw path
  | none, none => .hidapi o.vendor o.product o.usbInterface

/-- A file is named to read the device from. -/
def namesFile (o : Options) : Bool := o.deviceFile.isSome || o.hidraw.isSome

/-- The parameters of the capture. The band is made wide enough for the scan period. -/
def capture (o : Options) : CaptureConfig :=
  let default : CaptureConfig := {}
  let paced :=
    match o.scanPeriodMicros with
    | none => default
    | some micros =>
      let period := Nanos.micros micros
      { default with
        scanPeriod := period
        band := ⟨min default.band.low period, max default.band.high period⟩ }
  { paced with startMarker := o.startMarker.getD paced.startMarker }

/-- The parameters of the server. The port of the command line wins over the setting. -/
def server (o : Options) (portSetting : Option String) : ServerConfig :=
  let set := ServerConfig.withPortSetting {} portSetting
  { set with port := o.port.getD set.port, interface := o.interface, slot := o.slot }

/-- What the program is to do. -/
def mode (o : Options) : Mode :=
  match o.calibrate, o.testRun with
  | some seconds, _ => .calibrate seconds
  | none, some seconds => .testRun seconds
  | none, none => .serve

end Options

end MotionCast.Cli
