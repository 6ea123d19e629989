import MotionCast.Proofs.Wire.Sealing
import MotionCast.Wire.Answer

/-! The packets that answer a question about the version or about a slot. Each is written over a
buffer that holds an earlier answer, and what is sent from there is the same whatever the buffer
held. It is read back as the client's id and what was asked for. -/

namespace MotionCast.Answer

/-- The sealed packet of an answer, given what follows its header. -/
def packet (event : EventType) (id : UInt32) (payload : Bytes) : Bytes :=
  Packet.sealed ((Header.server event id (Header.size + payload.length)).toBytes ++ payload)

def versionPacket (id : UInt32) : Bytes := packet .version id (Bytes.ofWord16 protocolVersion)

def infoPacket (id : UInt32) (slot : SlotInfo) : Bytes := packet .info id slot.toBytes

/-! ### What a packet holds -/

section Packet

variable (event : EventType) (id : UInt32) (payload : Bytes)

@[simp] theorem length_packet :
    (packet event id payload).length = Header.size + payload.length := by
  simp [packet]

theorem verify_packet : Packet.verify (packet event id payload) = true := by
  apply Packet.verify_sealed
  rw [List.length_append, Header.length_toBytes]
  exact Nat.le_add_right_of_le (by decide)

theorem exists_header : ∃ header : Header, header.magic = Header.serverMagic ∧
    header.id = id ∧ header.event = event ∧ packet event id payload = header.toBytes ++ payload := by
  obtain ⟨sum, h⟩ :=
    Packet.sealed_header (Header.server event id (Header.size + payload.length)) payload
  exact ⟨_, rfl, rfl, rfl, h 0⟩

theorem drop_packet : (packet event id payload).drop Header.size = payload := by
  obtain ⟨header, -, -, -, h⟩ := exists_header event id payload
  rw [h, List.drop_left' header.length_toBytes]

theorem expect_packet (rest : Bytes) : ∃ header : Header, header.id = id ∧
    expect (packet event id payload ++ rest) event (Header.size + payload.length) =
      .ok header := by
  have long : (packet event id payload ++ rest).require (Header.size + payload.length) = .ok () :=
    Bytes.require_append (length_packet event id payload) rest
  obtain ⟨header, magic, is, about, h⟩ := exists_header event id payload
  refine ⟨header, is, ?_⟩
  rw [expect, long, h, List.append_assoc, Header.decode_toBytes (.inr magic)]
  simp [about, bind, Except.bind, pure, Except.pure]

end Packet

theorem length_versionPacket (id : UInt32) : (versionPacket id).length = versionSize :=
  length_packet .version id _

theorem length_infoPacket (id : UInt32) (slot : SlotInfo) :
    (infoPacket id slot).length = infoSize := by
  rw [infoPacket, length_packet, slot.length_toBytes, infoSize]

/-- The packet of a version answer is read back, also with other bytes after it. -/
theorem decodeVersion_append (id : UInt32) (rest : Bytes) :
    decodeVersion (versionPacket id ++ rest) = .ok (id, protocolVersion) := by
  obtain ⟨header, is, expected⟩ := expect_packet .version id (Bytes.ofWord16 protocolVersion) rest
  obtain ⟨written, -, -, -, h⟩ := exists_header .version id (Bytes.ofWord16 protocolVersion)
  have version : (versionPacket id ++ rest).word16 Header.size = protocolVersion := by
    rw [versionPacket, h, List.append_assoc,
      Bytes.word16_append_right (Nat.le_of_eq written.length_toBytes), written.length_toBytes,
      Nat.sub_self, Bytes.word16_ofWord16]
  rw [Bytes.length_ofWord16] at expected
  rw [decodeVersion, version, versionPacket, versionSize, expected, ← is]
  rfl

theorem decodeVersion_versionPacket (id : UInt32) :
    decodeVersion (versionPacket id) = .ok (id, protocolVersion) := by
  simpa using decodeVersion_append id []

/-- The packet of a slot answer is read back, also with other bytes after it. -/
theorem decodeInfo_append (id : UInt32) (slot : SlotInfo) (rest : Bytes) :
    decodeInfo (infoPacket id slot ++ rest) = .ok (id, slot) := by
  obtain ⟨header, is, expected⟩ := expect_packet .info id slot.toBytes rest
  have size_le : Header.size ≤ (packet .info id slot.toBytes).length := by
    rw [length_packet]
    exact Nat.le_add_right _ _
  have read : SlotInfo.decode ((infoPacket id slot ++ rest).drop Header.size) = .ok slot := by
    rw [infoPacket, List.drop_append_of_le_length size_le, drop_packet, slot.decode_toBytes]
  rw [slot.length_toBytes] at expected
  rw [decodeInfo, read, infoPacket, infoSize, expected, ← is]
  rfl

theorem decodeInfo_infoPacket (id : UInt32) (slot : SlotInfo) :
    decodeInfo (infoPacket id slot) = .ok (id, slot) := by
  simpa using decodeInfo_append id slot []

/-! ### Writing over a buffer -/

section Buffer

variable {buffer : Bytes}

theorem write_of_room {unsealed : Bytes} (room : unsealed.length ≤ buffer.length) :
    write unsealed buffer = .ok (Packet.sealed unsealed ++ buffer.drop unsealed.length) := by
  rw [write, if_neg (Nat.not_lt.mpr room), Bytes.put, List.take_zero, List.nil_append,
    Nat.zero_add, Packet.length_sealed]

theorem write_eq {unsealed : Bytes} (room : unsealed.length ≤ buffer.length) :
    ∃ written, write unsealed buffer = .ok written ∧ written.length = buffer.length ∧
      written.take unsealed.length = Packet.sealed unsealed := by
  refine ⟨_, write_of_room room, ?_, List.take_left' (Packet.length_sealed _)⟩
  rw [List.length_append, Packet.length_sealed, List.length_drop]
  omega

theorem encodeVersion_eq (id : UInt32) (room : versionSize ≤ buffer.length) :
    ∃ written, encodeVersion id buffer = .ok written ∧ written.length = buffer.length ∧
      written.take versionSize = versionPacket id :=
  write_eq room

theorem encodeInfo_eq (id : UInt32) (slot : SlotInfo) (room : infoSize ≤ buffer.length) :
    ∃ written, encodeInfo id slot buffer = .ok written ∧ written.length = buffer.length ∧
      written.take infoSize = infoPacket id slot := by
  have whole : ((Header.server .info id infoSize).toBytes ++ slot.toBytes).length = infoSize := by
    simp [infoSize]
  obtain ⟨written, done, length, start⟩ := write_eq (whole.symm ▸ room)
  refine ⟨written, done, length, ?_⟩
  rw [whole] at start
  rw [start, infoPacket, packet, slot.length_toBytes, infoSize]

end Buffer

end MotionCast.Answer
