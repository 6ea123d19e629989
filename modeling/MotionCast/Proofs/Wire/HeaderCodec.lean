import MotionCast.Proofs.Wire.InPlace

/-! The header as a codec. The headers with a known magic and the first twenty bytes that are
accepted correspond one to one: what is written is read back, and what is read is written back as it
was. Writing goes field by field and touches no other byte, and a new id changes one field. -/

namespace MotionCast

/-! ### Field by field -/

/-- Bytes that are overwritten right behind others are overwritten together with them. -/
theorem Bytes.put_put {b v w : Bytes} {offset : Nat}
    (fits : offset + (v.length + w.length) ≤ b.length) :
    (b.put offset v).put (offset + v.length) w = b.put offset (v ++ w) := by
  have first : offset + v.length ≤ b.length := by omega
  have second : offset + v.length + w.length ≤ (b.put offset v).length := by
    rw [length_put first]
    omega
  have both : offset + (v ++ w).length ≤ b.length := by rwa [List.length_append]
  apply List.ext_getElem?
  intro i
  rw [getElem?_put second, getElem?_put first, getElem?_put both, List.length_append]
  by_cases behind : offset + v.length ≤ i ∧ i < offset + v.length + w.length
  · rw [if_pos behind, if_pos (by omega), List.getElem?_append_right (by omega)]
    congr 1
    omega
  · rw [if_neg behind]
    by_cases inside : offset ≤ i ∧ i < offset + v.length
    · rw [if_pos inside, if_pos (by omega), List.getElem?_append_left (by omega)]
    · rw [if_neg inside, if_neg (by omega)]

namespace InPlace

/-- Writes a header one field after another, if there is room for all of them. -/
def header (h : Header) : InPlace Unit := do
  checkRoom Header.size
  putAt 0 h.magic.bytes
  putAt 4 (Bytes.ofWord16 h.version)
  putAt 6 (Bytes.ofWord16 h.length)
  putAt 8 (Bytes.ofWord32 h.checksum)
  putAt Header.idOffset (Bytes.ofWord32 h.id)
  putAt 16 (Bytes.ofWord32 h.event.code)

variable {h : Header} {buffer : Bytes}

theorem runOn_putAt (offset : Nat) (v : Bytes) :
    (putAt offset v).runOn buffer = (.ok (), buffer.put offset v) := rfl

/-- Each field starts where the one before it ends. -/
theorem put_toBytes (room : Header.size ≤ buffer.length) :
    (((((buffer.put 0 h.magic.bytes).put 4 (Bytes.ofWord16 h.version)).put 6
      (Bytes.ofWord16 h.length)).put 8 (Bytes.ofWord32 h.checksum)).put Header.idOffset
        (Bytes.ofWord32 h.id)).put 16 (Bytes.ofWord32 h.event.code) =
      buffer.put 0 h.toBytes := by
  rw [Header.size] at room
  rw [Header.toBytes, ← Bytes.put_put (by simpa using room), ← Bytes.put_put (by simp; omega),
    ← Bytes.put_put (by simp; omega), ← Bytes.put_put (by simp; omega),
    ← Bytes.put_put (by simp; omega)]
  simp only [List.length_append, Block.length_bytes, Bytes.length_ofWord16, Bytes.length_ofWord32,
    Header.idOffset, Nat.zero_add, Nat.reduceAdd]

theorem header_of_room (room : Header.size ≤ buffer.length) :
    (header h).runOn buffer = (.ok (), buffer.put 0 h.toBytes) := by
  rw [header, runOn_bind_of_ok (checkRoom_of_room room), runOn_bind_of_ok (runOn_putAt _ _),
    runOn_bind_of_ok (runOn_putAt _ _), runOn_bind_of_ok (runOn_putAt _ _),
    runOn_bind_of_ok (runOn_putAt _ _), runOn_bind_of_ok (runOn_putAt _ _), runOn_putAt]
  exact congrArg (Prod.mk _) (put_toBytes room)

theorem header_of_short (short : buffer.length < Header.size) :
    (header h).runOn buffer = (.error (.bufferTooSmall Header.size buffer.length), buffer) :=
  runOn_bind_of_error (checkRoom_of_short short)

end InPlace

/-! ### Reading, then writing -/

namespace Header

/-- The first bytes of what is read are those of the header. -/
theorem exists_eq_append_of_decode {b : Bytes} {h : Header} (read : decode b = .ok h) :
    ∃ rest, b = h.toBytes ++ rest := by
  by_cases few : b.length < size
  · rw [decode_short few] at read
    contradiction
  have long := Nat.not_lt.mp few
  rw [decode, Bytes.require_of_le long] at read
  simp only [bind, Except.bind] at read
  split at read
  · contradiction
  split at read
  · contradiction
  rename_i event known
  obtain rfl := Except.ok.inj read
  refine ⟨b.drop size, ?_⟩
  have whole : b.take size = b.window 0 size := by
    rw [Bytes.window_eq (by omega), List.drop_zero]
  rw [toBytes, ← EventType.ofCode?_eq_some known]
  simp only [Bytes.ofWord16_word16, Bytes.ofWord32_word32, Block.ofBytes]
  rw [Bytes.window_append_window b 0 4 2, Bytes.window_append_window b 0 6 2,
    Bytes.window_append_window b 0 8 4, idOffset, Bytes.window_append_window b 0 12 4,
    Bytes.window_append_window b 0 16 4]
  show b = b.window 0 size ++ b.drop size
  rw [← whole, List.take_append_drop]

variable {h : Header} {b : Bytes}

theorem encode_of_room {buffer : Bytes} (room : size ≤ buffer.length) :
    h.encode buffer = .ok (buffer.put 0 h.toBytes) := by
  rw [encode, if_neg (Nat.not_lt.mpr room)]

theorem decode_put_toBytes (known : h.magic = clientMagic ∨ h.magic = serverMagic)
    (buffer : Bytes) : decode (buffer.put 0 h.toBytes) = .ok h := by
  rw [Bytes.put, List.take_zero, List.nil_append]
  exact decode_toBytes known _

theorem put_toBytes_of_decode (read : decode b = .ok h) : b.put 0 h.toBytes = b := by
  obtain ⟨rest, rfl⟩ := exists_eq_append_of_decode read
  exact Bytes.put_append_left rfl

theorem decode_setId (read : decode b = .ok h) (id : UInt32) :
    decode (Packet.setId b id) = .ok { h with id } := by
  have known := (magic_of_decode read).2
  obtain ⟨rest, rfl⟩ := exists_eq_append_of_decode read
  have long : ¬(h.toBytes ++ rest).length < 16 := by
    rw [List.length_append, length_toBytes, size]
    omega
  have patched : (h.toBytes ++ rest).put idOffset (Bytes.ofWord32 id) =
      { h with id }.toBytes ++ rest := by
    simp only [toBytes, List.append_assoc]
    rw [Bytes.put_append_right (by simp [idOffset]), Bytes.put_append_right (by simp [idOffset]),
      Bytes.put_append_right (by simp [idOffset]), Bytes.put_append_right (by simp [idOffset])]
    simp only [Block.length_bytes, Bytes.length_ofWord16, Bytes.length_ofWord32, idOffset,
      Nat.reduceSub]
    rw [Bytes.put_append_left (by simp)]
  rw [Packet.setId, if_neg long, patched]
  exact decode_toBytes (h := { h with id }) known rest

/-- A header with a known magic is written over the first twenty bytes of any buffer that has room
for it, and read back. What is read is written back as it was, and another id changes nothing
else. -/
theorem codec_exact :
    (∀ (h : Header) (buffer : Bytes), h.magic = clientMagic ∨ h.magic = serverMagic →
      20 ≤ buffer.length → ∃ written, h.encode buffer = .ok written ∧
        (InPlace.header h).runOn buffer = (.ok (), written) ∧ written.length = buffer.length ∧
        (∀ i, 20 ≤ i → written[i]? = buffer[i]?) ∧ decode written = .ok h) ∧
    (∀ (h : Header) (buffer : Bytes), buffer.length < 20 →
      h.encode buffer = .error (.bufferTooSmall 20 buffer.length) ∧
        (InPlace.header h).runOn buffer = (.error (.bufferTooSmall 20 buffer.length), buffer)) ∧
    (∀ (b : Bytes) (h : Header), decode b = .ok h →
      h.encode b = .ok b ∧ (InPlace.header h).runOn b = (.ok (), b)) ∧
    (∀ (b : Bytes) (h : Header) (id : UInt32), decode b = .ok h →
      decode (Packet.setId b id) = .ok { h with id }) := by
  refine ⟨?_, ?_, ?_, fun b h id read => decode_setId read id⟩
  · intro h buffer known room
    have fits : 0 + h.toBytes.length ≤ buffer.length := by
      rw [length_toBytes, Nat.zero_add]
      exact room
    refine ⟨buffer.put 0 h.toBytes, encode_of_room room, InPlace.header_of_room room,
      Bytes.length_put fits, ?_, decode_put_toBytes known buffer⟩
    intro i behind
    rw [Bytes.getElem?_put fits, if_neg]
    rw [length_toBytes, size]
    omega
  · intro h buffer short
    exact ⟨if_pos short, InPlace.header_of_short short⟩
  · intro b h read
    have long : size ≤ b.length := by
      obtain ⟨rest, rfl⟩ := exists_eq_append_of_decode read
      rw [List.length_append, length_toBytes]
      exact Nat.le_add_right _ _
    rw [encode_of_room long, InPlace.header_of_room long, put_toBytes_of_decode read]
    exact ⟨rfl, rfl⟩

/-- A header over bytes that were there before, patched after it is read. -/
theorem codec_exact_over_old_bytes :
    let h : Header := {
      magic := clientMagic, version := 7, length := 0xFFFE, checksum := 0x01020304
      id := 0x0A0B0C0D, event := .info }
    let buffer : Bytes := List.replicate 22 0xEE
    let written : Bytes := [0x44, 0x53, 0x55, 0x43, 7, 0, 0xFE, 0xFF, 4, 3, 2, 1,
      0x0D, 0x0C, 0x0B, 0x0A, 1, 0, 0x10, 0, 0xEE, 0xEE]
    (h.magic = clientMagic ∨ h.magic = serverMagic) ∧ 20 ≤ buffer.length ∧
      h.encode buffer = .ok written ∧ decode written = .ok h ∧
      decode (Packet.setId written 9) = .ok { h with id := 9 } ∧
      (InPlace.header h).runOn (buffer.take 19) = (.error (.bufferTooSmall 20 19),
        buffer.take 19) := by
  intro h buffer written
  have known : h.magic = clientMagic ∨ h.magic = serverMagic := .inl rfl
  have room : 20 ≤ buffer.length := by decide
  obtain ⟨writes, short, -, patched⟩ := codec_exact
  obtain ⟨result, encoded, -, -, -, read⟩ := writes h buffer known room
  have bytes : buffer.put 0 h.toBytes = written := by decide
  obtain rfl : written = result := by
    rw [encode_of_room room, bytes] at encoded
    exact Except.ok.inj encoded
  exact ⟨known, room, encoded, read, patched written h 9 read,
    (short h (buffer.take 19) (by decide)).2⟩

end Header

end MotionCast
