import MotionCast.Proofs.Wire.Answers
import MotionCast.Proofs.Wire.Grammar

/-! An answer written into a buffer in place, step by step: the room for it is looked at, then the
header and the payload are written, and then the first bytes are sealed. A step that fails keeps
what was written before it, and still nothing is written when the room is too small. -/

namespace MotionCast

/-- Steps that write into one buffer and may fail. A failure keeps what was written before it. -/
abbrev InPlace := ExceptT WireError (StateM Bytes)

namespace InPlace

/-- What steps come to on a buffer, and the buffer after them. -/
def runOn {α : Type} (steps : InPlace α) (buffer : Bytes) : Except WireError α × Bytes :=
  (ExceptT.run steps).run buffer

def checkRoom (needed : Nat) : InPlace Unit := do
  let buffer ← get
  if buffer.length < needed then throw (.bufferTooSmall needed buffer.length)

def putHeader (header : Header) : InPlace Unit := do
  let written ← MonadExcept.ofExcept (header.encode (← get))
  set written

def putAt (offset : Nat) (v : Bytes) : InPlace Unit := modify fun buffer => buffer.put offset v

/-- Seals the first bytes of the buffer. -/
def sealFirst (size : Nat) : InPlace Unit :=
  modify fun buffer => Packet.sealed (buffer.take size) ++ buffer.drop size

/-- Writes an answer, given what follows its header: how many bytes were written. -/
def answer (event : EventType) (id : UInt32) (payload : Bytes) : InPlace Nat := do
  let size := Header.size + payload.length
  checkRoom size
  putHeader (Header.server event id size)
  putAt Header.size payload
  sealFirst size
  return size

def version (id : UInt32) : InPlace Nat := answer .version id (Bytes.ofWord16 protocolVersion)

def info (id : UInt32) (slot : SlotInfo) : InPlace Nat := answer .info id slot.toBytes

/-! ### One step after another -/

section Steps

variable {α β : Type} {buffer left : Bytes} {steps : InPlace α} {next : α → InPlace β}

theorem runOn_bind_of_ok {a : α} (h : steps.runOn buffer = (.ok a, left)) :
    (steps >>= next).runOn buffer = (next a).runOn left := by
  simp only [runOn] at *
  rw [ExceptT.run_bind, StateT.run_bind, h]
  rfl

theorem runOn_bind_of_error {cause : WireError} (h : steps.runOn buffer = (.error cause, left)) :
    (steps >>= next).runOn buffer = (.error cause, left) := by
  simp only [runOn] at *
  rw [ExceptT.run_bind, StateT.run_bind, h]
  rfl

theorem checkRoom_of_room {needed : Nat} (room : needed ≤ buffer.length) :
    (checkRoom needed).runOn buffer = (.ok (), buffer) := by
  have look : (get : InPlace Bytes).runOn buffer = (.ok buffer, buffer) := rfl
  rw [checkRoom, runOn_bind_of_ok look, if_neg (Nat.not_lt.mpr room)]
  rfl

theorem checkRoom_of_short {needed : Nat} (short : buffer.length < needed) :
    (checkRoom needed).runOn buffer =
      (.error (.bufferTooSmall needed buffer.length), buffer) := by
  have look : (get : InPlace Bytes).runOn buffer = (.ok buffer, buffer) := rfl
  rw [checkRoom, runOn_bind_of_ok look, if_pos short]
  rfl

theorem putHeader_append {header : Header} {old : Bytes} (same : old.length = Header.size)
    (rest : Bytes) : (putHeader header).runOn (old ++ rest) = (.ok (), header.toBytes ++ rest) := by
  have long : ¬(old ++ rest).length < Header.size := by
    rw [List.length_append]
    omega
  have encoded : header.encode (old ++ rest) = .ok (header.toBytes ++ rest) := by
    rw [Header.encode, if_neg long,
      Bytes.put_append_left (same.trans header.length_toBytes.symm)]
  have look : (get : InPlace Bytes).runOn (old ++ rest) = (.ok (old ++ rest), old ++ rest) := rfl
  rw [putHeader, runOn_bind_of_ok look, encoded]
  rfl

theorem putAt_append {offset : Nat} {before old v : Bytes} (at_offset : before.length = offset)
    (same : old.length = v.length) (rest : Bytes) :
    (putAt offset v).runOn (before ++ (old ++ rest)) = (.ok (), before ++ (v ++ rest)) := by
  have put : (before ++ (old ++ rest)).put offset v = before ++ (v ++ rest) := by
    rw [Bytes.put_append_right (Nat.le_of_eq at_offset), at_offset, Nat.sub_self,
      Bytes.put_append_left same]
  rw [← put]
  rfl

theorem sealFirst_append {size : Nat} {p : Bytes} (whole : p.length = size) (rest : Bytes) :
    (sealFirst size).runOn (p ++ rest) = (.ok (), Packet.sealed p ++ rest) := by
  have first : Packet.sealed ((p ++ rest).take size) ++ (p ++ rest).drop size =
      Packet.sealed p ++ rest := by
    rw [List.take_left' whole, List.drop_left' whole]
  rw [← first]
  rfl

end Steps

/-! ### A whole answer -/

section Answer

variable (event : EventType) (id : UInt32) {payload buffer : Bytes}

theorem answer_of_short (short : buffer.length < Header.size + payload.length) :
    (answer event id payload).runOn buffer =
      (.error (.bufferTooSmall (Header.size + payload.length) buffer.length), buffer) :=
  runOn_bind_of_error (checkRoom_of_short short)

theorem answer_of_room (room : Header.size + payload.length ≤ buffer.length) :
    (answer event id payload).runOn buffer = (.ok (Header.size + payload.length),
      Answer.packet event id payload ++ buffer.drop (Header.size + payload.length)) := by
  obtain ⟨header, tail, rfl⟩ := Block.exists_append (Nat.le_of_add_right_le room)
  have tail_length : payload.length ≤ tail.length := by
    rw [List.length_append, header.length_bytes] at room
    exact Nat.le_of_add_le_add_left room
  obtain ⟨old, rest, rfl⟩ := Block.exists_append tail_length
  have unwritten : (header.bytes ++ (old.bytes ++ rest)).drop (Header.size + payload.length) =
      rest := by
    rw [← List.append_assoc, List.drop_left' (by simp)]
  rw [unwritten, answer, runOn_bind_of_ok (checkRoom_of_room room),
    runOn_bind_of_ok (putHeader_append header.length_bytes _),
    runOn_bind_of_ok (putAt_append (Header.length_toBytes _) old.length_bytes rest),
    ← List.append_assoc, runOn_bind_of_ok (sealFirst_append (by simp) rest)]
  rfl

end Answer

end InPlace

namespace Answer

/-- An encoder writes one packet of `size` bytes over the start of any buffer that has room for it,
and nothing else. The packet verifies, and the buffer is read back as what was encoded. -/
structure Writes {α : Type} (size : Nat) (encode : Bytes → Except WireError Bytes)
    (steps : InPlace Nat) (decode : Bytes → Except WireError α) (said : α) (packet : Bytes) :
    Prop where
  length : packet.length = size
  verifies : Packet.verify packet = true
  short : ∀ buffer : Bytes, buffer.length < size →
    encode buffer = .error (.bufferTooSmall size buffer.length) ∧
      steps.runOn buffer = (.error (.bufferTooSmall size buffer.length), buffer)
  room : ∀ buffer : Bytes, size ≤ buffer.length →
    encode buffer = .ok (packet ++ buffer.drop size) ∧
      steps.runOn buffer = (.ok size, packet ++ buffer.drop size) ∧
      decode (packet ++ buffer.drop size) = .ok said

theorem writes_packet {α : Type} {decode : Bytes → Except WireError α} {said : α}
    (event : EventType) (id : UInt32) (payload : Bytes)
    (read : ∀ rest, decode (packet event id payload ++ rest) = .ok said) :
    Writes (Header.size + payload.length)
      (write ((Header.server event id (Header.size + payload.length)).toBytes ++ payload))
      (InPlace.answer event id payload) decode said (packet event id payload) := by
  have whole : ((Header.server event id (Header.size + payload.length)).toBytes ++ payload).length =
      Header.size + payload.length := by simp
  refine ⟨length_packet event id payload, verify_packet event id payload, ?_, ?_⟩
  · intro buffer short
    refine ⟨?_, InPlace.answer_of_short event id short⟩
    rw [write, whole, if_pos short]
  · intro buffer room
    refine ⟨?_, InPlace.answer_of_room event id room, read _⟩
    rw [write_of_room (whole.symm ▸ room), whole, packet]

theorem writes_version (id : UInt32) :
    Writes versionSize (encodeVersion id) (InPlace.version id) decodeVersion (id, protocolVersion)
      (versionPacket id) :=
  writes_packet .version id _ (decodeVersion_append id)

theorem writes_info (id : UInt32) (slot : SlotInfo) :
    Writes infoSize (encodeInfo id slot) (InPlace.info id slot) decodeInfo (id, slot)
      (infoPacket id slot) := by
  have h := writes_packet .info id slot.toBytes (decodeInfo_append id slot)
  rwa [slot.length_toBytes] at h

end Answer

end MotionCast
