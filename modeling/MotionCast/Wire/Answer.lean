import MotionCast.Wire.Header
import MotionCast.Wire.Checksum
import MotionCast.Wire.Slot
import MotionCast.Wire.Motion

/-! Answers, the packets that a server sends. Version and slot answers are written into a buffer
that may be longer and may hold older bytes; data answers are stamped from one template. -/

namespace MotionCast

namespace Answer

/-- The bytes of a version answer. -/
def versionSize : Nat := Header.size + 2

/-- The bytes of a slot answer. -/
def infoSize : Nat := Header.size + SlotInfo.size

/-- The bytes of a data answer. -/
def dataSize : Nat := 100

/-- Where a data answer holds its packet number. -/
def packetNumberOffset : Nat := 32

/-- Where a data answer holds its buttons, sticks, triggers and touches. -/
def controlsOffset : Nat := 36

/-- Where a data answer holds its motion sample. -/
def motionOffset : Nat := 68

/-- The buffer with a packet written over its start and the packet sealed, or the buffer's shortage
when the packet does not fit. -/
def write (packet buffer : Bytes) : Except WireError Bytes :=
  if buffer.length < packet.length then .error (.bufferTooSmall packet.length buffer.length)
  else .ok (buffer.put 0 (Packet.sealed packet))

/-- Writes the answer to a version request over the first bytes of a buffer. -/
def encodeVersion (id : UInt32) (buffer : Bytes) : Except WireError Bytes :=
  write ((Header.server .version id versionSize).toBytes ++ Bytes.ofWord16 protocolVersion) buffer

/-- Writes the answer about one slot over the first bytes of a buffer. -/
def encodeInfo (id : UInt32) (slot : SlotInfo) (buffer : Bytes) : Except WireError Bytes :=
  write ((Header.server .info id infoSize).toBytes ++ slot.toBytes) buffer

/-- Reads the header of an answer that must be about `expected` and have at least `size` bytes. -/
def expect (b : Bytes) (expected : EventType) (size : Nat) : Except WireError Header := do
  b.require size
  let header ← Header.decode b
  if header.event ≠ expected then throw (.unexpectedEvent expected header.event)
  return header

/-- Reads a version answer: the client's id and the version. -/
def decodeVersion (b : Bytes) : Except WireError (UInt32 × UInt16) := do
  let header ← expect b .version versionSize
  return (header.id, b.word16 Header.size)

/-- Reads a slot answer: the client's id and the slot. -/
def decodeInfo (b : Bytes) : Except WireError (UInt32 × SlotInfo) := do
  let header ← expect b .info infoSize
  return (header.id, ← SlotInfo.decode (b.drop Header.size))

/-- What a data answer says. -/
structure DataView where
  id : UInt32
  slot : SlotInfo
  packetNumber : UInt32
  motion : Motion
deriving DecidableEq

/-- Reads a data answer. -/
def decodeData (b : Bytes) : Except WireError DataView := do
  let header ← expect b .data dataSize
  return {
    id := header.id
    slot := ← SlotInfo.decode (b.drop Header.size)
    packetNumber := b.word32 packetNumberOffset
    motion := ← Motion.decode (b.drop motionOffset) }

/-- The buttons, sticks, triggers and touches of a data answer are all released. -/
def controlsAreZero (b : Bytes) : Bool :=
  b.length ≥ motionOffset &&
    (b.window controlsOffset (motionOffset - controlsOffset)).all (· = 0)

end Answer

/-- A data answer that is filled with a sample once a round and then stamped for each client. -/
structure DataTemplate where
  packet : Bytes
deriving DecidableEq

namespace DataTemplate

/-- The template for a slot, which counts as connected, with no sample in it. -/
def new (slot : SlotInfo) : DataTemplate where
  packet :=
    (Header.server .data 0 Answer.dataSize).toBytes ++ { slot with connected := true }.toBytes ++
      Bytes.zeros (Answer.dataSize - Answer.packetNumberOffset)

/-- Writes a packet number and a sample. The checksum no longer holds after it. -/
def setFrame (t : DataTemplate) (packetNumber : UInt32) (motion : Motion) : DataTemplate where
  packet :=
    (t.packet.put Answer.packetNumberOffset (Bytes.ofWord32 packetNumber)).put
      Answer.motionOffset motion.toBytes

/-- Writes a client's id and the checksum: the packet is ready to be sent to that client. -/
def stamp (t : DataTemplate) (id : UInt32) : DataTemplate where
  packet := Packet.sealed (Packet.setId t.packet id)

end DataTemplate

end MotionCast
