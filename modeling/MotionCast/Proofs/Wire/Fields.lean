import Mathlib.Algebra.Group.Nat.Defs
import MotionCast.Wire.Motion
import MotionCast.Wire.Slot
import MotionCast.Wire.Header

/-! Fields in the middle of a byte string. A packet is a row of fields, so that reading or
overwriting at an offset skips the fields before it and stops at the one that starts there. What is
written is read back: numbers, blocks, and the three sections of a packet. -/

namespace MotionCast

namespace Bytes

/-! ### Numbers -/

theorem toNat_ofNat (width n : Nat) (h : n < 256 ^ width) : toNat (ofNat width n) = n := by
  induction width generalizing n with
  | zero =>
    rw [Nat.pow_zero] at h
    exact (Nat.lt_one_iff.mp h).symm
  | succ width ih =>
    have digit : (UInt8.ofNat n).toNat = n % 256 := UInt8.toNat_ofNat'
    rw [ofNat, toNat, digit, ih (n / 256) (Nat.div_lt_of_lt_mul (Nat.pow_succ' ▸ h))]
    omega

theorem toNat_lt (b : Bytes) : b.toNat < 256 ^ b.length := by
  induction b with
  | nil => exact Nat.one_pos
  | cons first rest ih =>
    have digit := first.toNat_lt
    rw [toNat, List.length_cons, Nat.pow_succ]
    omega

theorem ofNat_toNat {v : Bytes} {width : Nat} (h : v.length = width) : ofNat width v.toNat = v := by
  subst h
  induction v with
  | nil => rfl
  | cons first rest ih =>
    have digit := first.toNat_lt
    have low : UInt8.ofNat (first.toNat + 256 * toNat rest) = first := by
      apply UInt8.toNat_inj.mp
      rw [UInt8.toNat_ofNat']
      omega
    have high : (first.toNat + 256 * toNat rest) / 256 = toNat rest := by omega
    rw [List.length_cons, ofNat, toNat, low, high, ih]

@[simp] theorem length_ofWord16 (w : UInt16) : (ofWord16 w).length = 2 := length_ofNat 2 _

@[simp] theorem length_ofWord32 (w : UInt32) : (ofWord32 w).length = 4 := length_ofNat 4 _

@[simp] theorem length_ofWord64 (w : UInt64) : (ofWord64 w).length = 8 := length_ofNat 8 _

@[simp] theorem length_zeros (count : Nat) : (zeros count).length = count := List.length_replicate

/-! ### Windows -/

section Window

variable {pre rest v : Bytes} {offset count : Nat}

theorem window_eq {b : Bytes} (h : offset + count ≤ b.length) :
    b.window offset count = (b.drop offset).take count := by
  apply List.ext_getElem
  · simp
    omega
  · intro i within _
    have inside : offset + i < b.length := by
      rw [length_window] at within
      omega
    simp [window, List.getElem?_eq_getElem inside]

/-- A window depends on the bytes in it. -/
theorem window_congr {b d : Bytes} (h : ∀ i, offset ≤ i → i < offset + count → b[i]? = d[i]?) :
    b.window offset count = d.window offset count := by
  apply List.map_congr_left
  intro i within
  have i_lt := List.mem_range.mp within
  rw [List.getD_eq_getElem?_getD, List.getD_eq_getElem?_getD, h (offset + i) (by omega) (by omega)]

/-- Two windows side by side are one. -/
theorem window_append_window (b : Bytes) (offset first second : Nat) :
    b.window offset first ++ b.window (offset + first) second =
      b.window offset (first + second) := by
  simp only [window, List.range_add, List.map_append, List.map_map, List.append_cancel_left_eq,
    List.map_inj_left, Function.comp_apply, Nat.add_assoc, implies_true]

/-- A window after the first bytes is one of the others. -/
theorem window_append_right (h : pre.length ≤ offset) :
    (pre ++ rest).window offset count = rest.window (offset - pre.length) count := by
  simp only [window, List.map_inj_left, List.getD_eq_getElem?_getD]
  intro i _
  rw [List.getElem?_append_right (by omega), Nat.sub_add_comm h]

/-- A window over all of the first bytes. -/
theorem window_append_left (h : v.length = count) : (v ++ rest).window 0 count = v := by
  rw [window_eq (by simp [h]), List.drop_zero, List.take_left' h]

end Window

/-! ### Reading a field -/

section Read

variable {pre rest : Bytes} {offset : Nat}

@[simp] theorem byte_append_right (h : pre.length ≤ offset) :
    (pre ++ rest).byte offset = rest.byte (offset - pre.length) := by
  simp only [byte, List.getD_eq_getElem?_getD, List.getElem?_append_right h]

@[simp] theorem byte_cons_zero (b : UInt8) : byte (b :: rest) 0 = b := rfl

@[simp] theorem byte_cons_succ (b : UInt8) : byte (b :: rest) (offset + 1) = rest.byte offset := rfl

@[simp] theorem word16_append_right (h : pre.length ≤ offset) :
    (pre ++ rest).word16 offset = rest.word16 (offset - pre.length) := by
  rw [word16, window_append_right h, word16]

@[simp] theorem word16_ofWord16 (w : UInt16) : (ofWord16 w ++ rest).word16 0 = w := by
  rw [word16, window_append_left (length_ofWord16 w), ofWord16, toNat_ofNat _ _ w.toNat_lt,
    UInt16.ofNat_toNat]

@[simp] theorem word32_append_right (h : pre.length ≤ offset) :
    (pre ++ rest).word32 offset = rest.word32 (offset - pre.length) := by
  rw [word32, window_append_right h, word32]

@[simp] theorem word32_ofWord32 (w : UInt32) : (ofWord32 w ++ rest).word32 0 = w := by
  rw [word32, window_append_left (length_ofWord32 w), ofWord32, toNat_ofNat _ _ w.toNat_lt,
    UInt32.ofNat_toNat]

theorem ofWord16_word16 (b : Bytes) (offset : Nat) :
    ofWord16 (b.word16 offset) = b.window offset 2 := by
  have fits : toNat (b.window offset 2) < 2 ^ 16 := by
    have := toNat_lt (b.window offset 2)
    rwa [length_window] at this
  rw [ofWord16, word16, UInt16.toNat_ofNat_of_lt' fits, ofNat_toNat (length_window _ _ _)]

theorem ofWord32_word32 (b : Bytes) (offset : Nat) :
    ofWord32 (b.word32 offset) = b.window offset 4 := by
  have fits : toNat (b.window offset 4) < 2 ^ 32 := by
    have := toNat_lt (b.window offset 4)
    rwa [length_window] at this
  rw [ofWord32, word32, UInt32.toNat_ofNat_of_lt' fits, ofNat_toNat (length_window _ _ _)]

@[simp] theorem word64_ofWord64 (w : UInt64) : (ofWord64 w ++ rest).word64 0 = w := by
  rw [word64, window_append_left (length_ofWord64 w), ofWord64, toNat_ofNat _ _ w.toNat_lt,
    UInt64.ofNat_toNat]

@[simp] theorem block_append_right {n : Nat} (h : pre.length ≤ offset) :
    Block.ofBytes n (pre ++ rest) offset = Block.ofBytes n rest (offset - pre.length) := by
  simp only [Block.ofBytes, window_append_right h]

@[simp] theorem block_ofBytes {n : Nat} (block : Block n) :
    Block.ofBytes n (block.bytes ++ rest) 0 = block := by
  simp only [Block.ofBytes, window_append_left block.length_eq]

end Read

/-! ### Overwriting a field -/

section Put

variable {pre old rest v : Bytes} {offset : Nat}

@[simp] theorem put_append_right (h : pre.length ≤ offset) :
    (pre ++ rest).put offset v = pre ++ rest.put (offset - pre.length) v := by
  have before : pre.length ≤ offset + v.length := by omega
  simp only [put, List.take_append, List.take_of_length_le h, List.drop_append,
    List.drop_of_length_le before, List.nil_append, List.append_assoc, Nat.sub_add_comm h]

theorem getElem?_put {b : Bytes} (fits : offset + v.length ≤ b.length) (i : Nat) :
    (b.put offset v)[i]? =
      if offset ≤ i ∧ i < offset + v.length then v[i - offset]? else b[i]? := by
  have before : (b.take offset).length = offset := by
    rw [List.length_take]
    omega
  rw [put, List.append_assoc]
  by_cases low : i < offset
  · rw [List.getElem?_append_left (by omega), List.getElem?_take_of_lt low, if_neg (by omega)]
  · rw [List.getElem?_append_right (by omega), before]
    by_cases inside : i < offset + v.length
    · rw [List.getElem?_append_left (by omega), if_pos ⟨by omega, inside⟩]
    · rw [List.getElem?_append_right (by omega), if_neg (by omega), List.getElem?_drop]
      congr 1
      omega

theorem put_append_left (h : old.length = v.length) : (old ++ rest).put 0 v = v ++ rest := by
  rw [put, List.take_zero, List.nil_append, Nat.zero_add, List.drop_left' h]

theorem copyOver_of_le {buffer source : Bytes} (h : buffer.length ≤ source.length) :
    buffer.copyOver source = source.take buffer.length := by
  rw [copyOver, List.drop_of_length_le h, List.append_nil]

theorem copyOver_of_length {buffer source : Bytes} (h : source.length = buffer.length) :
    buffer.copyOver source = source := by
  rw [copyOver_of_le (Nat.le_of_eq h.symm), ← h, List.take_length]

end Put

end Bytes

/-! ### Sections -/

theorem Bytes.require_of_le {b : Bytes} {size : Nat} (h : size ≤ b.length) :
    b.require size = .ok () := by
  rw [require, if_neg (Nat.not_lt.mpr h)]

theorem Bytes.require_of_lt {b : Bytes} {size : Nat} (h : b.length < size) :
    b.require size = .error (.truncated size b.length) := by
  rw [require, if_pos h]

theorem Bytes.require_append {v : Bytes} {size : Nat} (h : v.length = size) (rest : Bytes) :
    (v ++ rest).require size = .ok () :=
  require_of_le (by simp [h])

/-- A header is read back as it was written, if its magic is one of the two. -/
theorem Header.decode_toBytes {h : Header} (known : h.magic = clientMagic ∨ h.magic = serverMagic)
    (rest : Bytes) : decode (h.toBytes ++ rest) = .ok h := by
  have magic : Block.ofBytes 4 (h.toBytes ++ rest) 0 = h.magic := by simp [toBytes]
  have version : (h.toBytes ++ rest).word16 4 = h.version := by simp [toBytes]
  have length : (h.toBytes ++ rest).word16 6 = h.length := by simp [toBytes]
  have checksum : (h.toBytes ++ rest).word32 8 = h.checksum := by simp [toBytes]
  have id : (h.toBytes ++ rest).word32 idOffset = h.id := by simp [toBytes, idOffset]
  have code : (h.toBytes ++ rest).word32 16 = h.event.code := by simp [toBytes]
  have accepted : ¬(h.magic ≠ clientMagic ∧ h.magic ≠ serverMagic) := by
    rintro ⟨client, server⟩
    exact known.elim client server
  simp only [decode, Bytes.require_append (length_toBytes h), magic, version, length, checksum, id,
    code, EventType.ofCode?_code, if_neg accepted]
  rfl

theorem SlotInfo.decode_toBytes (s : SlotInfo) (rest : Bytes) :
    decode (s.toBytes ++ rest) = .ok s := by
  have mac : Block.ofBytes 6 (s.toBytes ++ rest) 4 = s.mac := by
    have split : s.toBytes ++ rest = [s.slot, s.state.code, s.model.code, s.connection.code] ++
        (s.mac.bytes ++ (s.battery :: (if s.connected then 1 else 0) :: rest)) := by
      simp [toBytes]
    rw [split, Bytes.block_append_right (by simp)]
    exact Bytes.block_ofBytes s.mac
  have battery : (s.toBytes ++ rest).byte 10 = s.battery := by simp [toBytes]
  have connected : decide ((s.toBytes ++ rest).byte 11 ≠ 0) = s.connected := by
    cases h : s.connected <;> simp [toBytes, h]
  have codes : (s.toBytes ++ rest).byte 0 = s.slot ∧ (s.toBytes ++ rest).byte 1 = s.state.code ∧
      (s.toBytes ++ rest).byte 2 = s.model.code ∧ (s.toBytes ++ rest).byte 3 = s.connection.code :=
    ⟨rfl, rfl, rfl, rfl⟩
  simp only [decode, Bytes.require_append (length_toBytes s), mac, battery, connected, codes,
    SlotState.ofCode_code, DeviceModel.ofCode_code, Connection.ofCode_code]
  rfl

theorem Motion.decode_toBytes (m : Motion) (rest : Bytes) :
    decode (m.toBytes ++ rest) = .ok m := by
  have timestamp : (m.toBytes ++ rest).word64 0 = m.timestamp := by simp [toBytes]
  have accel : (m.toBytes ++ rest).word32 8 = m.accelX ∧ (m.toBytes ++ rest).word32 12 = m.accelY ∧
      (m.toBytes ++ rest).word32 16 = m.accelZ := by simp [toBytes]
  have turn : (m.toBytes ++ rest).word32 20 = m.pitch ∧ (m.toBytes ++ rest).word32 24 = m.yaw ∧
      (m.toBytes ++ rest).word32 28 = m.roll := by simp [toBytes]
  simp only [decode, Bytes.require_append (length_toBytes m), timestamp, accel, turn]
  rfl

end MotionCast
