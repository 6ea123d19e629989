import MotionCast.Device.Error
import MotionCast.Bytes
import MotionCast.Time

/-! Reading and writing a device file that is always ready, such as a recording. An event file is
read until the buffer is full or the file ends; a raw file is read once. -/

namespace MotionCast

/-- Which rules a device file is read by. -/
inductive DeviceFileKind where
  | hiddev
  | hidraw
deriving DecidableEq, Repr

/-- An open file: its bytes, and the position that reads and writes share. -/
structure DeviceFile where
  kind : DeviceFileKind
  content : Bytes
  position : Nat := 0

namespace DeviceFile

/-- Reads at most `count` bytes. Reading an event file takes no time, so it fails only at the end of
the file, and reads nothing without time to do so. A raw file waits at least a millisecond. -/
def read (f : DeviceFile) (count : Nat) (timeout : Nanos) :
    Except DeviceError (Bytes × DeviceFile) :=
  let got := (f.content.drop f.position).take count
  let rest := { f with position := f.position + got.length }
  match f.kind with
  | .hiddev =>
    if count = 0 ∨ timeout = 0 then .ok ([], f)
    else if got.isEmpty then .error .disconnected
    else .ok (got, rest)
  | .hidraw =>
    if got.isEmpty then .error .disconnected else .ok (got, rest)

/-- Writes bytes at the position. An event file cannot be written. -/
def write (f : DeviceFile) (data : Bytes) : Except DeviceError (Nat × DeviceFile) :=
  match f.kind with
  | .hiddev => .error (.unsupported "write")
  | .hidraw =>
    .ok (data.length, { f with
      content := f.content.put f.position data
      position := f.position + data.length })

end DeviceFile

end MotionCast
