import MotionCast.Wire.Header
import MotionCast.Wire.Checksum

/-! Requests, the packets that a client sends: which version the server speaks, what is in some
slots, and a subscription to motion data. -/

namespace MotionCast

/-- Which controllers a client subscribes to. -/
structure Subscription where
  /-- Zero for all controllers, one by slot, two by address, three by both. -/
  mask : UInt8 := 0
  slot : UInt8 := 0
  mac : Block 6 := Block.zero 6
deriving DecidableEq

/-- What a client asks for, with the id that the answers repeat. -/
inductive Request where
  | version (id : UInt32)
  | info (id : UInt32) (slots : Bytes)
  | data (id : UInt32) (subscription : Subscription)
deriving DecidableEq

namespace Request

/-- The most slots that one request may ask about. -/
def maxSlots : Nat := 4

/-- The bytes of a request for data. -/
def dataSize : Nat := Header.size + 8

/-- The client's id. -/
def id : Request → UInt32
  | version id => id
  | info id _ => id
  | data id _ => id

/-- The event of a request. -/
def event : Request → EventType
  | version _ => .version
  | info _ _ => .info
  | data _ _ => .data

/-- How many slots a request asks about: no more than its count says, than are allowed and than the
packet holds. A negative count asks about none. -/
def slotCount (count : Int32) (available : Nat) : Nat :=
  min (min count.toInt.toNat maxSlots) available

/-- Reads a request. The checksum is not judged. A subscription may leave out its last fields, which
read as zero. -/
def decode (b : Bytes) : Except WireError Request := do
  let header ← Header.decode b
  match header.event with
  | .version => return .version header.id
  | .info =>
    b.require (Header.size + 4)
    let count := slotCount (b.word32 20).toInt32 (b.length - 24)
    return .info header.id (b.window 24 count)
  | .data =>
    return .data header.id {
      mask := b.byte 20
      slot := b.byte 21
      mac := if b.length ≥ dataSize then Block.ofBytes 6 b 22 else Block.zero 6 }

/-- The bytes of a request after its header. -/
def payload : Request → Bytes
  | version _ => []
  | info _ slots => Bytes.ofNat 4 slots.length ++ slots
  | data _ s => [s.mask, s.slot] ++ s.mac.bytes

/-- The sealed packet of a request. All slots are written, also those past the most that are
read. -/
def encode (r : Request) : Bytes :=
  let total := Header.size + r.payload.length
  Packet.sealed ((Header.client r.event r.id total).toBytes ++ r.payload)

end Request

end MotionCast
