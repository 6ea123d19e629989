import MotionCast.Device.Error
import MotionCast.Device.Transport
import MotionCast.Sampling.Report
import MotionCast.Time

/-! A device that follows a script: reports with a counter that goes up by one, at a steady pace,
with malformed records, a read that blocks, and failing opens where the script says so. All handles
share the counter, so that it goes on after the device is opened again. -/

namespace MotionCast

/-- What a scripted device does. -/
structure DeviceScript where
  transport : Transport := .hiddev
  frameLength : Nat := 64
  period : Nanos := Nanos.micros 4000
  firstCounter : UInt32 := 1000
  recordHeader : UInt32 := recordUsage
  reportPrefix : Bytes := [0x01, 0x00, 0x09, 0x40]
  /-- The accelerometer and then the gyroscope, three axes each. -/
  imu : List Int16 := [0, 0x4000, 0, 0, 0, 0]
  /-- The numbers of the malformed records, all records counted from zero. -/
  malformed : List Nat := []
  /-- The number of the read that blocks. -/
  blockOn : Option Nat := none

/-- Every scripted device takes reports that are written to it. -/
def DeviceScript.writable (_ : DeviceScript) : Bool := true

/-- The usage in malformed records. -/
def malformedUsage : UInt32 := 0x12345678

/-- A scripted device: what all of its handles share. -/
structure ScriptedDevice where
  script : DeviceScript
  imu : List Int16
  nextCounter : UInt32
  emitted : Nat := 0
  opens : Nat := 0
  released : Bool := false
  openFails : Bool := false
  blocked : Nat := 0
  writes : List Bytes := []

/-- A handle: when its next report is due. -/
structure ScriptedHandle where
  nextDue : Nanos

/-- What a read of a scripted device comes to. -/
inductive ScriptedRead where
  /-- The read reports a number of bytes of the buffer. A read without data reports zero. -/
  | read (count : Nat) (buffer : Bytes)
  /-- The read does not return. -/
  | blocked
deriving DecidableEq

namespace ScriptedDevice

/-- A device before it is opened. -/
def new (script : DeviceScript) : ScriptedDevice where
  script
  imu := script.imu
  nextCounter := script.firstCounter

/-- Opens the device at a time. The first report is due a period later. -/
def connect (d : ScriptedDevice) (now : Nanos) :
    Except DeviceError (ScriptedHandle × ScriptedDevice) :=
  if d.openFails then .error (.notFound "mock device")
  else .ok (⟨now + d.script.period⟩, { d with opens := d.opens + 1 })

/-- The report with a counter: the script's first bytes, the counter over them, and the sensors,
each as far as the frame has room. -/
def frame (d : ScriptedDevice) (counter : UInt32) : Bytes :=
  let empty := Bytes.zeros d.script.frameLength
  let started := empty.copyOver d.script.reportPrefix
  let counted :=
    if 8 ≤ started.length then started.put Report.counterOffset (Bytes.ofWord32 counter)
    else started
  if Report.size ≤ counted.length then
    counted.put 24 (d.imu.flatMap fun v => Bytes.ofWord16 v.toUInt16)
  else counted

/-- Writes a frame as records over a buffer, from the record with number `index` on, as far as
`limit`. There is no result where a record has no room for its usage or its payload. -/
def putRecords? (header : UInt32) (recordLength payloadOffset limit : Nat) :
    (index : Nat) → (frame buffer : Bytes) → Option Bytes
  | _, [], buffer => some buffer
  | index, byte :: rest, buffer =>
    let start := index * recordLength
    if start + recordLength > limit then some buffer
    else if start + 4 > buffer.length ∨ start + payloadOffset ≥ buffer.length then none
    else
      putRecords? header recordLength payloadOffset limit (index + 1) rest
        ((buffer.put start (Bytes.ofWord32 header)).put (start + payloadOffset) [byte])

/-- Delivers a frame into a buffer by the script's transport: the count that the read reports, and
the buffer. A malformed record stream has a wrong usage, a malformed report half its length. -/
def deliver? (s : DeviceScript) (frame : Bytes) (malformed : Bool) (buffer : Bytes) :
    Option (Nat × Bytes) :=
  match s.transport with
  | .records recordLength payloadOffset =>
    let header := if malformed then malformedUsage else s.recordHeader
    let length := min buffer.length (frame.length * recordLength)
    let cleared := buffer.put 0 (Bytes.zeros length)
    (putRecords? header recordLength payloadOffset length 0 frame cleared).map (length, ·)
  | .report =>
    let length := min buffer.length frame.length
    some (if malformed then length / 2 else length, buffer.copyOver frame)

/-- Takes the next record from the script. -/
def next? (d : ScriptedDevice) (buffer : Bytes) : Option (ScriptedRead × ScriptedDevice) :=
  let index := d.emitted
  let d := { d with emitted := index + 1 }
  if d.script.blockOn = some index then
    if d.released then some (.read 0 buffer, d)
    else some (.blocked, { d with blocked := d.blocked + 1 })
  else
    let malformed := d.script.malformed.contains index
    let frame := d.frame d.nextCounter
    let d := if malformed then d else { d with nextCounter := d.nextCounter + 1 }
    (deliver? d.script frame malformed buffer).map fun (count, filled) => (.read count filled, d)

/-- Reads into a buffer at a time: the outcome, and the time after it. A report that is not due
within the timeout is not read. There is no result where a record does not fit its geometry. -/
def read? (d : ScriptedDevice) (h : ScriptedHandle) (buffer : Bytes) (timeout now : Nanos) :
    Option (ScriptedRead × Nanos × ScriptedHandle × ScriptedDevice) :=
  if h.nextDue - now > timeout then some (.read 0 buffer, now + timeout, h, d)
  else
    let handle : ScriptedHandle := ⟨max h.nextDue now + d.script.period⟩
    (d.next? buffer).map fun (outcome, after) => (outcome, max h.nextDue now, handle, after)

/-- Writes a report. -/
def write (d : ScriptedDevice) (data : Bytes) : Nat × ScriptedDevice :=
  (data.length, { d with writes := d.writes ++ [data] })

/-- Lets all blocked reads return. -/
def release (d : ScriptedDevice) : ScriptedDevice := { d with released := true, blocked := 0 }

end ScriptedDevice

end MotionCast
