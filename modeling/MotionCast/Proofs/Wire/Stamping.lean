import MotionCast.Proofs.Wire.DataAnswer

/-! A template that is filled and stamped again and again, in place. A stamped packet shows the
slot, the frame that the template was filled with last, and the id, and nothing of what was filled
in or stamped before. Packets of one frame differ in their checksums and ids only. -/

namespace MotionCast

namespace Answer.DataView

/-- The header of a packet says that a server sends it, and how long it is. -/
theorem exists_header (v : DataView) : ∃ header, Header.decode v.packet = .ok header ∧
    header.magic = Header.serverMagic ∧ header.length = 84 := by
  obtain ⟨checksum, h⟩ := v.exists_packet
  refine ⟨v.header checksum, ?_, rfl, rfl⟩
  rw [h, toBytes, Header.decode_toBytes (.inr rfl)]

theorem controlsAreZero_packet (v : DataView) : controlsAreZero v.packet = true := by
  obtain ⟨checksum, h⟩ := v.exists_packet
  have released : v.packet.window controlsOffset (motionOffset - controlsOffset) =
      Bytes.zeros 32 := by
    rw [h, toBytes, Bytes.window_append_right (by simp [Header.size, controlsOffset]),
      Bytes.window_append_right (by simp [Header.size, SlotInfo.size, controlsOffset]),
      Bytes.window_append_right (by simp [Header.size, SlotInfo.size, controlsOffset]),
      Header.length_toBytes, SlotInfo.length_toBytes, Bytes.length_ofWord32]
    exact Bytes.window_append_left (Bytes.length_zeros _)
  rw [controlsAreZero, released, length_packet]
  decide

/-- A packet is cut around its checksum and its id, which are the only parts that depend on the
id. -/
theorem exists_cut (v : DataView) : ∃ before after : Bytes, before.length = 8 ∧ ∀ id,
    ∃ field : Bytes, field.length = 8 ∧ packet { v with id } = before ++ (field ++ after) := by
  let header := v.header 0
  refine ⟨header.magic.bytes ++ (Bytes.ofWord16 header.version ++ Bytes.ofWord16 header.length),
    Bytes.ofWord32 header.event.code ++ (v.slot.toBytes ++ (Bytes.ofWord32 v.packetNumber ++
      (Bytes.zeros 32 ++ v.motion.toBytes))), by simp, fun id => ?_⟩
  obtain ⟨checksum, h⟩ := exists_packet { v with id }
  refine ⟨Bytes.ofWord32 checksum ++ Bytes.ofWord32 id, by simp, ?_⟩
  rw [h]
  simp [toBytes, Header.toBytes, Answer.DataView.header, Header.server, header]

theorem packet_agree (v : DataView) (id id' : UInt32) {i : Nat} (outside : i < 8 ∨ 16 ≤ i) :
    (packet { v with id })[i]? = (packet { v with id := id' })[i]? := by
  obtain ⟨before, after, eight, cut⟩ := v.exists_cut
  obtain ⟨field, length, h⟩ := cut id
  obtain ⟨field', length', h'⟩ := cut id'
  rw [h, h']
  rcases outside with low | high
  · rw [List.getElem?_append_left (by omega), List.getElem?_append_left (by omega)]
  · rw [List.getElem?_append_right (by omega), List.getElem?_append_right (by omega),
      List.getElem?_append_right (by omega), List.getElem?_append_right (by omega), length, length']

end Answer.DataView

namespace DataTemplate

/-- What is done to a template. -/
inductive Call where
  | setFrame (packetNumber : UInt32) (motion : Motion)
  | stamp (id : UInt32)

def perform (t : DataTemplate) : Call → DataTemplate
  | .setFrame packetNumber motion => t.setFrame packetNumber motion
  | .stamp id => t.stamp id

/-- The template after calls in a row. -/
def performAll (t : DataTemplate) (calls : List Call) : DataTemplate := calls.foldl perform t

/-- The packet number and the sample after a call. -/
def frameAfter (frame : UInt32 × Motion) : Call → UInt32 × Motion
  | .setFrame packetNumber motion => (packetNumber, motion)
  | .stamp _ => frame

/-- The packet number and the sample that a new template was filled with last. Without any they are
zero. -/
def lastFrame (calls : List Call) : UInt32 × Motion := calls.foldl frameAfter (0, {})

/-- A template that is filled or stamped shows its last frame. -/
theorem Holds.performAll {t : DataTemplate} {v : Answer.DataView} (h : t.Holds v)
    (calls : List Call) :
    let frame := calls.foldl frameAfter (v.packetNumber, v.motion)
    ∃ id, (t.performAll calls).Holds { v with id, packetNumber := frame.1, motion := frame.2 } := by
  induction calls generalizing t v with
  | nil => exact ⟨v.id, h⟩
  | cons call rest ih =>
    cases call with
    | setFrame packetNumber motion => exact ih (h.setFrame packetNumber motion)
    | stamp id =>
      have shown := ih (h.stamp id)
      exact shown

/-- What a stamp shows after some calls. -/
def stampView (slot : SlotInfo) (frame : UInt32 × Motion) (id : UInt32) : Answer.DataView where
  id
  slot := { slot with connected := true }
  packetNumber := frame.1
  motion := frame.2

theorem stamp_performAll (slot : SlotInfo) (calls : List Call) (id : UInt32) :
    (((new slot).performAll calls).stamp id).packet =
      (stampView slot (lastFrame calls) id).packet := by
  obtain ⟨last, holds⟩ := (holds_new slot).performAll calls
  exact holds.stamp_packet id

/-- A stamped packet verifies and is read back as the id, the slot and the last frame. Any other
history with the same last frame gives the same packet, up to the checksum and the id. -/
theorem stamp_forgets_history (slot : SlotInfo) (calls : List Call) (id : UInt32) :
    let packet := (((new slot).performAll calls).stamp id).packet
    packet.length = Answer.dataSize ∧ Packet.verify packet = true ∧
    (∃ header, Header.decode packet = .ok header ∧ header.magic = Header.serverMagic ∧
      header.length = 84) ∧
    Answer.controlsAreZero packet = true ∧
    Answer.decodeData packet = .ok {
      id
      slot := { slot with connected := true }
      packetNumber := (lastFrame calls).1
      motion := (lastFrame calls).2 } ∧
    ∀ calls', lastFrame calls' = lastFrame calls →
      (((new slot).performAll calls').stamp id).packet = packet ∧
      ∀ id' i, i < 8 ∨ 16 ≤ i →
        (((new slot).performAll calls').stamp id').packet[i]? = packet[i]? := by
  intro packet
  have shown : packet = (stampView slot (lastFrame calls) id).packet :=
    stamp_performAll slot calls id
  have others (calls' : List Call) (same : lastFrame calls' = lastFrame calls) (id' : UInt32) :
      (((new slot).performAll calls').stamp id').packet =
        (stampView slot (lastFrame calls) id').packet := by
    rw [stamp_performAll, same]
  rw [shown]
  refine ⟨Answer.DataView.length_packet _, Answer.DataView.verify_packet _,
    Answer.DataView.exists_header _, Answer.DataView.controlsAreZero_packet _,
    Answer.DataView.decodeData_packet _, fun calls' same => ⟨others calls' same id, ?_⟩⟩
  intro id' i outside
  rw [others calls' same id']
  exact Answer.DataView.packet_agree (stampView slot (lastFrame calls) id) id' id outside

end DataTemplate

end MotionCast
