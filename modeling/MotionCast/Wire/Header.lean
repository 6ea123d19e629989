import MotionCast.Wire.Event

/-! The header that starts every packet: a magic for the side that sends it, the protocol version,
the payload length, the checksum, the client's id and the event. -/

namespace MotionCast

/-- The version of the protocol. -/
def protocolVersion : UInt16 := 1001

/-- The fields of a packet's header. -/
structure Header where
  magic : Block 4
  version : UInt16
  /-- The bytes of the packet after the first sixteen: the event counts, the fields before not. -/
  length : UInt16
  checksum : UInt32
  id : UInt32
  event : EventType
deriving DecidableEq

namespace Header

/-- The magic of a server's packets, "DSUS". -/
def serverMagic : Block 4 := ⟨[0x44, 0x53, 0x55, 0x53], rfl⟩

/-- The magic of a client's packets, "DSUC". -/
def clientMagic : Block 4 := ⟨[0x44, 0x53, 0x55, 0x43], rfl⟩

/-- The bytes of a header. -/
def size : Nat := 20

/-- The offset of the client's id. -/
def idOffset : Nat := 12

/-- The header of a server's packet of `total` bytes, its checksum not yet computed. -/
def server (event : EventType) (id : UInt32) (total : Nat) : Header where
  magic := serverMagic
  version := protocolVersion
  length := UInt16.ofNat total - 16
  checksum := 0
  id
  event

/-- The header of a client's packet of `total` bytes. -/
def client (event : EventType) (id : UInt32) (total : Nat) : Header :=
  { server event id total with magic := clientMagic }

/-- A client sent the packet. -/
def isClient (h : Header) : Bool := h.magic = clientMagic

/-- The twenty bytes of a header. -/
def toBytes (h : Header) : Bytes :=
  h.magic.bytes ++ Bytes.ofWord16 h.version ++ Bytes.ofWord16 h.length ++
    Bytes.ofWord32 h.checksum ++ Bytes.ofWord32 h.id ++ Bytes.ofWord32 h.event.code

@[simp] theorem length_toBytes (h : Header) : h.toBytes.length = size := by
  simp [toBytes, Bytes.ofWord16, Bytes.ofWord32, size]

/-- Reads a header. Either magic is accepted, and the version, the length and the checksum are read
but not judged. -/
def decode (b : Bytes) : Except WireError Header := do
  b.require size
  let magic := Block.ofBytes 4 b 0
  if magic ≠ clientMagic ∧ magic ≠ serverMagic then throw (.invalidMagic magic)
  let code := b.word32 16
  match EventType.ofCode? code with
  | none => throw (.unknownEventType code)
  | some event =>
    return {
      magic
      version := b.word16 4
      length := b.word16 6
      checksum := b.word32 8
      id := b.word32 idOffset
      event }

/-- Writes a header over the first twenty bytes of a buffer. -/
def encode (h : Header) (buffer : Bytes) : Except WireError Bytes :=
  if buffer.length < size then .error (.bufferTooSmall size buffer.length)
  else .ok (buffer.put 0 h.toBytes)

end Header

/-- The packet with another client's id, or as it is when it has no room for one. -/
def Packet.setId (p : Bytes) (id : UInt32) : Bytes :=
  if p.length < 16 then p else p.put Header.idOffset (Bytes.ofWord32 id)

end MotionCast
