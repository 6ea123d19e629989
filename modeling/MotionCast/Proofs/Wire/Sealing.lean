import MotionCast.Proofs.Wire.Fields
import MotionCast.Wire.Checksum

/-! The checksum of a packet does not depend on the four bytes that hold it, so that a sealed packet
holds its own checksum, and that sealing a packet changes one field of its header. -/

namespace MotionCast.Packet

/-- A packet long enough for a checksum is cut around the field. -/
theorem exists_cut {p : Bytes} (h : checksumEnd ≤ p.length) :
    ∃ pre field rest : Bytes, p = pre ++ (field ++ rest) ∧ pre.length = checksumOffset ∧
      field.length = 4 := by
  refine ⟨p.take 8, (p.drop 8).take 4, (p.drop 8).drop 4, ?_, ?_, ?_⟩
  · rw [List.take_append_drop, List.take_append_drop]
  all_goals
    simp only [checksumEnd, checksumOffset, List.length_take, List.length_drop] at *
    omega

section Cut

variable {pre field rest : Bytes} (before : pre.length = checksumOffset) (four : field.length = 4)

include before four

/-- The checksum is that of the bytes with zeros in the field. -/
theorem checksum_cut :
    checksum (pre ++ (field ++ rest)) = Crc32.hash (pre ++ (Bytes.zeros 4 ++ rest)) := by
  have long : ¬(pre ++ (field ++ rest)).length < checksumEnd := by
    simp only [List.length_append, before, four, checksumEnd]
    omega
  have after : (pre ++ (field ++ rest)).drop checksumEnd = rest := by
    rw [← List.append_assoc, List.drop_left']
    simp [before, four, checksumEnd]
  rw [checksum, if_neg long, List.take_left' before, after, Crc32.hash, Crc32.update_append,
    Crc32.update_append]

theorem sealed_cut :
    sealed (pre ++ (field ++ rest)) =
      pre ++ (Bytes.ofWord32 (checksum (pre ++ (field ++ rest))) ++ rest) := by
  have long : ¬(pre ++ (field ++ rest)).length < checksumEnd := by
    simp only [List.length_append, before, four, checksumEnd]
    omega
  rw [sealed, if_neg long, Bytes.put_append_right (by omega), before, Nat.sub_self,
    Bytes.put_append_left (by simp [four])]

end Cut

/-- Sealing fills one field of the header, whatever was there before. -/
theorem sealed_header (h : Header) (payload : Bytes) :
    ∃ sum, ∀ checksum, sealed ({ h with checksum }.toBytes ++ payload) =
      { h with checksum := sum }.toBytes ++ payload := by
  let pre := h.magic.bytes ++ (Bytes.ofWord16 h.version ++ Bytes.ofWord16 h.length)
  let rest := Bytes.ofWord32 h.id ++ (Bytes.ofWord32 h.event.code ++ payload)
  have before : pre.length = checksumOffset := by simp [pre, checksumOffset]
  have cut (checksum : UInt32) : { h with checksum }.toBytes ++ payload =
      pre ++ (Bytes.ofWord32 checksum ++ rest) := by simp [Header.toBytes, pre, rest]
  refine ⟨Crc32.hash (pre ++ (Bytes.zeros 4 ++ rest)), fun checksum => ?_⟩
  rw [cut, cut, sealed_cut before (Bytes.length_ofWord32 _),
    checksum_cut before (Bytes.length_ofWord32 _)]

/-- A sealed packet holds its own checksum. -/
theorem verify_sealed {p : Bytes} (h : checksumEnd ≤ p.length) : verify (sealed p) = true := by
  obtain ⟨pre, field, rest, rfl, before, four⟩ := exists_cut h
  have held : (sealed (pre ++ (field ++ rest))).word32 checksumOffset =
      checksum (pre ++ (field ++ rest)) := by
    rw [sealed_cut before four, Bytes.word32_append_right (by omega), before, Nat.sub_self,
      Bytes.word32_ofWord32]
  have same : checksum (sealed (pre ++ (field ++ rest))) = checksum (pre ++ (field ++ rest)) := by
    rw [sealed_cut before four, checksum_cut before (Bytes.length_ofWord32 _),
      checksum_cut before four]
  rw [verify, length_sealed, held, same]
  simpa using h

end MotionCast.Packet
