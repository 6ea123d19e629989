import MotionCast.Bytes
import MotionCast.Text.Hex

/-! The events of the motion protocol and the errors of reading and writing its packets. -/

namespace MotionCast

/-- What a packet is about. -/
inductive EventType where
  | version
  | info
  | data
deriving DecidableEq, Inhabited, Repr

namespace EventType

/-- The number that stands for an event in a packet. -/
def code : EventType → UInt32
  | version => 0x100000
  | info => 0x100001
  | data => 0x100002

/-- The event that a number stands for. -/
def ofCode? (code : UInt32) : Option EventType :=
  if code = 0x100000 then some version
  else if code = 0x100001 then some info
  else if code = 0x100002 then some data
  else none

theorem ofCode?_code (e : EventType) : ofCode? e.code = some e := by
  cases e <;> decide

/-- The event as messages write it. -/
def name : EventType → String
  | version => "Version"
  | info => "Info"
  | data => "Data"

end EventType

/-- Why a packet cannot be read or written. -/
inductive WireError where
  /-- The packet ends before a field that it must hold. -/
  | truncated (expected actual : Nat)
  /-- The packet starts with neither side's magic. -/
  | invalidMagic (magic : Block 4)
  /-- The event number stands for no event. -/
  | unknownEventType (code : UInt32)
  /-- The buffer is shorter than the packet to be written. -/
  | bufferTooSmall (needed available : Nat)
  /-- The packet is about another event than the reader expects. -/
  | unexpectedEvent (expected actual : EventType)
deriving DecidableEq, Repr

/-- The text of an error. -/
def WireError.message : WireError → String
  | .truncated expected actual =>
    s!"Packet too short: expected at least {expected} bytes, got {actual}"
  | .invalidMagic magic =>
    let bytes := ", ".intercalate (magic.bytes.map fun b => toString b.toNat)
    s!"Invalid magic: [{bytes}]"
  | .unknownEventType code =>
    let digits := Hex.upper code.toNat
    s!"Unknown event type: 0x{digits}"
  | .bufferTooSmall needed available =>
    s!"Buffer too small: need {needed} bytes, have {available}"
  | .unexpectedEvent expected actual =>
    let e := expected.name
    let a := actual.name
    s!"Unexpected event type: expected {e}, got {a}"

/-- Succeeds when there are at least `needed` bytes. -/
def Bytes.require (b : Bytes) (needed : Nat) : Except WireError Unit :=
  if b.length < needed then .error (.truncated needed b.length) else .ok ()

end MotionCast
