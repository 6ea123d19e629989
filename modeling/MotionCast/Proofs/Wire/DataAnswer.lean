import MotionCast.Proofs.Wire.Sealing
import MotionCast.Wire.Answer

/-! The packets of motion data. The template always holds a whole packet, and whatever its last id,
checksum, number and sample were, filling and stamping it gives the packet of the new ones. -/

namespace MotionCast

namespace Answer.DataView

/-- The header of a data answer, with what stands in the field of the checksum. -/
def header (v : DataView) (checksum : UInt32) : Header :=
  { Header.server .data v.id dataSize with checksum }

/-- The bytes of a data answer. -/
def toBytes (v : DataView) (checksum : UInt32) : Bytes :=
  (v.header checksum).toBytes ++
    (v.slot.toBytes ++ (Bytes.ofWord32 v.packetNumber ++ (Bytes.zeros 32 ++ v.motion.toBytes)))

/-- The sealed packet of a data answer. -/
def packet (v : DataView) : Bytes := Packet.sealed (v.toBytes 0)

@[simp] theorem length_toBytes (v : DataView) (checksum : UInt32) :
    (v.toBytes checksum).length = dataSize := by
  simp [toBytes, Header.size, SlotInfo.size, Motion.size, dataSize]

/-- A data answer is read back as it was written, whatever stands in the field of the checksum. -/
theorem decodeData_toBytes (v : DataView) (checksum : UInt32) :
    decodeData (v.toBytes checksum) = .ok v := by
  have long : (v.toBytes checksum).require dataSize = .ok () := by
    rw [Bytes.require, length_toBytes, if_neg (Nat.lt_irrefl _)]
  have header : Header.decode (v.toBytes checksum) =
      .ok (v.header checksum) := Header.decode_toBytes (.inr rfl) _
  have expected : expect (v.toBytes checksum) .data dataSize =
      .ok (v.header checksum) := by
    rw [expect, long, header]
    rfl
  have slot : SlotInfo.decode ((v.toBytes checksum).drop Header.size) = .ok v.slot := by
    rw [toBytes, List.drop_left' (Header.length_toBytes _)]
    exact SlotInfo.decode_toBytes _ _
  have packetNumber : (v.toBytes checksum).word32 packetNumberOffset = v.packetNumber := by
    simp [toBytes, packetNumberOffset, Header.size, SlotInfo.size]
  have motion : Motion.decode ((v.toBytes checksum).drop motionOffset) = .ok v.motion := by
    have cut : v.toBytes checksum = ((v.header checksum).toBytes ++ (v.slot.toBytes ++
        (Bytes.ofWord32 v.packetNumber ++ Bytes.zeros 32))) ++ v.motion.toBytes := by
      simp [toBytes]
    rw [cut, List.drop_left' (by simp [motionOffset, Header.size, SlotInfo.size])]
    simpa using Motion.decode_toBytes v.motion []
  rw [decodeData, expected]
  simp only [slot, packetNumber, motion]
  rfl

theorem exists_sealed (v : DataView) :
    ∃ sum, ∀ checksum, Packet.sealed (v.toBytes checksum) = v.toBytes sum :=
  Packet.sealed_header (v.header 0) _

/-- What stands in the field of the checksum does not change the sealed packet. -/
theorem sealed_toBytes (v : DataView) (checksum : UInt32) :
    Packet.sealed (v.toBytes checksum) = v.packet := by
  obtain ⟨sum, h⟩ := v.exists_sealed
  rw [packet, h, h]

theorem exists_packet (v : DataView) : ∃ checksum, v.packet = v.toBytes checksum := by
  obtain ⟨sum, h⟩ := v.exists_sealed
  exact ⟨sum, h 0⟩

/-! ### What is sent -/

@[simp] theorem length_packet (v : DataView) : v.packet.length = dataSize := by
  rw [packet, Packet.length_sealed, length_toBytes]

theorem verify_packet (v : DataView) : Packet.verify v.packet = true :=
  Packet.verify_sealed (by rw [length_toBytes]; decide)

theorem decodeData_packet (v : DataView) : decodeData v.packet = .ok v := by
  obtain ⟨checksum, h⟩ := v.exists_packet
  rw [h, decodeData_toBytes]

end Answer.DataView

/-! ### The template -/

namespace DataTemplate

/-- A template holds a whole packet, whose checksum may be stale. -/
def Holds (t : DataTemplate) (v : Answer.DataView) : Prop :=
  ∃ checksum, t.packet = v.toBytes checksum

theorem holds_new (slot : SlotInfo) :
    (new slot).Holds
      { id := 0, slot := { slot with connected := true }, packetNumber := 0, motion := {} } := by
  have blank : Bytes.zeros (Answer.dataSize - Answer.packetNumberOffset) =
      Bytes.ofWord32 0 ++ (Bytes.zeros 32 ++ ({} : Motion).toBytes) := by decide
  refine ⟨0, ?_⟩
  rw [new, blank, List.append_assoc]
  rfl

/-- A template shows the sample and the number it was filled with last. -/
theorem Holds.setFrame {t : DataTemplate} {v : Answer.DataView} (h : t.Holds v)
    (packetNumber : UInt32) (motion : Motion) :
    (t.setFrame packetNumber motion).Holds { v with packetNumber, motion } := by
  obtain ⟨checksum, h⟩ := h
  refine ⟨checksum, ?_⟩
  have number (rest : Bytes) : (Bytes.ofWord32 v.packetNumber ++ rest).put 0
      (Bytes.ofWord32 packetNumber) = Bytes.ofWord32 packetNumber ++ rest :=
    Bytes.put_append_left (by simp)
  have sample : Bytes.put v.motion.toBytes 0 motion.toBytes = motion.toBytes := by
    have last : (v.motion.toBytes ++ []).put 0 motion.toBytes = motion.toBytes ++ [] :=
      Bytes.put_append_left (by simp)
    simpa using last
  rw [DataTemplate.setFrame, h]
  simp [Answer.DataView.toBytes, Answer.packetNumberOffset, Answer.motionOffset, Header.size,
    SlotInfo.size, number, sample]
  rfl

/-- A stamped packet is that of the client, whoever the template was stamped for before. -/
theorem Holds.stamp_packet {t : DataTemplate} {v : Answer.DataView} (h : t.Holds v)
    (id : UInt32) : (t.stamp id).packet = { v with id }.packet := by
  obtain ⟨checksum, h⟩ := h
  have field (rest : Bytes) : (Bytes.ofWord32 v.id ++ rest).put 0 (Bytes.ofWord32 id) =
      Bytes.ofWord32 id ++ rest := Bytes.put_append_left (by simp)
  have addressed : Packet.setId (v.toBytes checksum) id =
      Answer.DataView.toBytes { v with id } checksum := by
    rw [Packet.setId, Answer.DataView.length_toBytes, if_neg (by decide)]
    simp [Answer.DataView.toBytes, Header.toBytes, Answer.DataView.header, Header.server,
      Header.idOffset, field]
  rw [DataTemplate.stamp, h, addressed]
  exact Answer.DataView.sealed_toBytes _ checksum

theorem Holds.stamp {t : DataTemplate} {v : Answer.DataView} (h : t.Holds v) (id : UInt32) :
    (t.stamp id).Holds { v with id } := by
  rw [Holds, h.stamp_packet]
  exact Answer.DataView.exists_packet _

end DataTemplate

end MotionCast
