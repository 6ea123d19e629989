import MotionCast.Wire.Event

/-! The slot section of an answer: which controller slot it is about and what is plugged into it. -/

namespace MotionCast

/-- Whether a controller is plugged into a slot. -/
inductive SlotState where
  | notConnected
  | reserved
  | connected
deriving DecidableEq, Repr

/-- What motion sensors a controller has. -/
inductive DeviceModel where
  | notApplicable
  | partialGyro
  | fullGyro
  | doNotUse
deriving DecidableEq, Repr

/-- How a controller is attached. -/
inductive Connection where
  | notApplicable
  | usb
  | bluetooth
deriving DecidableEq, Repr

/-- The byte of a slot state. -/
def SlotState.code : SlotState → UInt8
  | notConnected => 0
  | reserved => 1
  | connected => 2

/-- The slot state of a byte. An unknown byte reads as not connected. -/
def SlotState.ofCode (code : UInt8) : SlotState :=
  if code = 1 then reserved else if code = 2 then connected else notConnected

/-- The byte of a device model. -/
def DeviceModel.code : DeviceModel → UInt8
  | notApplicable => 0
  | partialGyro => 1
  | fullGyro => 2
  | doNotUse => 3

/-- The device model of a byte. An unknown byte reads as not applicable. -/
def DeviceModel.ofCode (code : UInt8) : DeviceModel :=
  if code = 1 then partialGyro
  else if code = 2 then fullGyro
  else if code = 3 then doNotUse
  else notApplicable

/-- The byte of a connection. -/
def Connection.code : Connection → UInt8
  | notApplicable => 0
  | usb => 1
  | bluetooth => 2

/-- The connection of a byte. An unknown byte reads as not applicable. -/
def Connection.ofCode (code : UInt8) : Connection :=
  if code = 1 then usb else if code = 2 then bluetooth else notApplicable

theorem SlotState.ofCode_code (s : SlotState) : ofCode s.code = s := by cases s <;> decide

theorem DeviceModel.ofCode_code (m : DeviceModel) : ofCode m.code = m := by cases m <;> decide

theorem Connection.ofCode_code (c : Connection) : ofCode c.code = c := by cases c <;> decide

/-- What an answer says about a controller slot. -/
structure SlotInfo where
  slot : UInt8
  state : SlotState := .notConnected
  model : DeviceModel := .notApplicable
  connection : Connection := .notApplicable
  mac : Block 6 := Block.zero 6
  battery : UInt8 := 0
  connected : Bool := false
deriving DecidableEq

namespace SlotInfo

/-- The bytes of a slot section. -/
def size : Nat := 12

/-- A controller with a full gyroscope on a cable. Only its slot state says whether it is there. -/
def controller (slot : UInt8) (connected : Bool) : SlotInfo where
  slot
  state := if connected then .connected else .notConnected
  model := .fullGyro
  connection := .usb

/-- A slot with nothing in it. -/
def empty (slot : UInt8) : SlotInfo where
  slot

/-- The twelve bytes of a slot section. -/
def toBytes (s : SlotInfo) : Bytes :=
  [s.slot, s.state.code, s.model.code, s.connection.code] ++ s.mac.bytes ++
    [s.battery, if s.connected then 1 else 0]

@[simp] theorem length_toBytes (s : SlotInfo) : s.toBytes.length = size := by
  simp [toBytes, size]

/-- Reads a slot section. Any byte but zero says connected. -/
def decode (b : Bytes) : Except WireError SlotInfo := do
  b.require size
  return {
    slot := b.byte 0
    state := SlotState.ofCode (b.byte 1)
    model := DeviceModel.ofCode (b.byte 2)
    connection := Connection.ofCode (b.byte 3)
    mac := Block.ofBytes 6 b 4
    battery := b.byte 10
    connected := b.byte 11 ≠ 0 }

/-- Writes a slot section over the first twelve bytes of a buffer, or nothing when they do not
fit. -/
def encode? (s : SlotInfo) (buffer : Bytes) : Option Bytes :=
  if buffer.length < size then none else some (buffer.put 0 s.toBytes)

end SlotInfo

end MotionCast
