import MotionCast.Device.Error
import MotionCast.Device.FileTree
import MotionCast.Device.Transport
import MotionCast.Text.Hex

/-! Which device to read: an event file, a raw device file, or a controller by its identity. -/

namespace MotionCast

/-- Where motion reports come from. -/
inductive DeviceSpec where
  /-- An event file, which can only be read. -/
  | hiddev (path : String)
  /-- A raw device file. -/
  | hidraw (path : String)
  /-- A controller found by its vendor, its product and its interface. -/
  | hidapi (vendor product : UInt16) (interface : Int)
deriving DecidableEq, Repr

namespace DeviceSpec

/-- The vendor of the handheld's controller. -/
def deckVendor : UInt16 := 0x28DE

/-- The product number of the handheld's controller. -/
def deckProduct : UInt16 := 0x1205

/-- The interface that the motion sensors report on. -/
def deckInterface : Int := 2

/-- The handheld's own controller. -/
def deck : DeviceSpec := hidapi deckVendor deckProduct deckInterface

/-- The specification as messages write it. -/
def toText : DeviceSpec → String
  | hiddev path => "hiddev:" ++ path
  | hidraw path => "hidraw:" ++ path
  | hidapi vendor product interface =>
    "hidapi:" ++ Hex.ofNat 4 vendor.toNat ++ ":" ++ Hex.ofNat 4 product.toNat ++ "#" ++
      toString interface

/-- How the device delivers reports. -/
def transport : DeviceSpec → Transport
  | hiddev _ => .hiddev
  | _ => .report

/-- Reports can be written to the device. -/
def writable : DeviceSpec → Bool
  | hiddev _ => false
  | _ => true

/-- The error of opening a path. -/
def openError (path : String) : FileError → DeviceError
  | .missing => .notFound path
  | e => .io e.message

/-- There is no way to find a controller by its identity. -/
def noBackend : DeviceError :=
  .unsupported "hidapi backend not compiled in (enable the \x60hidapi\x60 feature)"

/-- Opens the device. -/
def connect (s : DeviceSpec) (files : FileTree) : Except DeviceError FileNode :=
  match s with
  | hiddev path => (files.openPath path false).mapError (openError path)
  | hidraw path => (files.openPath path true).mapError (openError path)
  | hidapi _ _ _ => .error noBackend

end DeviceSpec

end MotionCast
