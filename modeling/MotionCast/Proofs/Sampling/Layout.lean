import Mathlib.Logic.ExistsUnique
import MotionCast.Capture.Frame
import MotionCast.Proofs.Wire.Fields

/-! The layout of a report. Its fields lie side by side and fill the thirty-six bytes that are read:
each such block of bytes is one report, and each report is one block. A frame of a capture has its
counter where the report has it, and both sensors are zero only when their twelve bytes are. -/

namespace MotionCast

namespace Bytes

/-- The two bytes of a signed 16-bit word. -/
def ofInt16 (w : Int16) : Bytes := ofWord16 w.toUInt16

@[simp] theorem length_ofInt16 (w : Int16) : (ofInt16 w).length = 2 := length_ofWord16 _

section Read

variable {pre rest : Bytes} {offset count : Nat}

@[simp] theorem int16_append_right (h : pre.length ≤ offset) :
    (pre ++ rest).int16 offset = rest.int16 (offset - pre.length) := by
  rw [int16, word16_append_right h, int16]

@[simp] theorem int16_ofInt16 (w : Int16) : (ofInt16 w ++ rest).int16 0 = w := by
  rw [int16, ofInt16, word16_ofWord16, Int16.toInt16_toUInt16]

theorem ofInt16_int16 (b : Bytes) (offset : Nat) :
    ofInt16 (b.int16 offset) = b.window offset 2 := by
  rw [ofInt16, int16, UInt16.toUInt16_toInt16, ofWord16_word16]

theorem window_eq_zeros_iff {b : Bytes} (inside : offset + count ≤ b.length) :
    b.window offset count = zeros count ↔
      ∀ i, offset ≤ i → i < offset + count → b[i]? = some 0 := by
  rw [zeros, List.eq_replicate_iff, length_window, window]
  simp only [List.mem_map, List.mem_range, true_and]
  constructor
  · intro zero i above below
    have there : i < b.length := by omega
    have byte := zero _ ⟨i - offset, by omega, rfl⟩
    rw [Nat.add_sub_cancel' above, List.getD_eq_getElem?_getD] at byte
    rw [List.getElem?_eq_getElem there] at byte ⊢
    exact congrArg some byte
  · rintro zero _ ⟨i, within, rfl⟩
    rw [List.getD_eq_getElem?_getD, zero (offset + i) (by omega) (by omega)]
    rfl

end Read

end Bytes

namespace Axes

open Bytes

/-- The six bytes of a reading. -/
def toBytes (a : Axes) : Bytes :=
  ofInt16 a.rightToLeft ++ ofInt16 a.topToBottom ++ ofInt16 a.frontToBack

@[simp] theorem length_toBytes (a : Axes) : a.toBytes.length = 6 := by simp [toBytes]

@[simp] theorem ofBytes_append_right {pre rest : Bytes} {offset : Nat} (h : pre.length ≤ offset) :
    ofBytes (pre ++ rest) offset = ofBytes rest (offset - pre.length) := by
  rw [ofBytes, int16_append_right h, int16_append_right (by omega), int16_append_right (by omega),
    ofBytes, Nat.sub_add_comm h, Nat.sub_add_comm h]

@[simp] theorem ofBytes_toBytes (a : Axes) (rest : Bytes) : ofBytes (a.toBytes ++ rest) 0 = a := by
  simp [ofBytes, toBytes]

theorem toBytes_ofBytes (b : Bytes) (offset : Nat) :
    (ofBytes b offset).toBytes = b.window offset 6 := by
  rw [toBytes, ofBytes]
  simp only [ofInt16_int16]
  rw [window_append_window b offset 2 2, window_append_window b offset 4 2]

theorem isZero_iff {a : Axes} : a.isZero = true ↔ a.toBytes = zeros 6 := by
  constructor
  · intro zero
    have blank : a = {} := by
      simp only [isZero, Bool.and_eq_true, decide_eq_true_eq] at zero
      obtain ⟨⟨right, top⟩, front⟩ := zero
      cases a
      simp_all
    rw [blank]
    decide
  · intro blank
    rw [← ofBytes_toBytes a [], blank]
    decide

end Axes

namespace Report

open Bytes

/-- The thirty-six bytes of a report. -/
def toBytes (r : Report) : Bytes :=
  ofWord32 r.header ++ ofWord32 r.counter ++ ofWord32 r.buttons.1 ++ ofWord32 r.buttons.2 ++
    ofInt16 r.leftTrackpad.1 ++ ofInt16 r.leftTrackpad.2 ++ ofInt16 r.rightTrackpad.1 ++
    ofInt16 r.rightTrackpad.2 ++ r.accel.toBytes ++ r.gyro.toBytes

@[simp] theorem length_toBytes (r : Report) : r.toBytes.length = size := by simp [toBytes, size]

variable {b d : Bytes} {r : Report}

/-! ### Reading what is written, and writing what is read -/

theorem exists_decode (long : size ≤ b.length) : ∃ r, decode b = .ok r :=
  ⟨_, if_neg (Nat.not_lt.mpr long)⟩

theorem size_le_of_decode_ok (h : decode b = .ok r) : size ≤ b.length := by
  unfold decode at h
  split at h
  · contradiction
  · exact Nat.le_of_not_lt ‹_›

theorem length_lt_of_decode_error {e : ShortReport} (h : decode b = .error e) :
    b.length < size := by
  unfold decode at h
  split at h
  · assumption
  · contradiction

theorem decode_toBytes (r : Report) (rest : Bytes) : decode (r.toBytes ++ rest) = .ok r := by
  have long : ¬(r.toBytes ++ rest).length < size := by simp
  have words : (r.toBytes ++ rest).word32 0 = r.header ∧
      (r.toBytes ++ rest).word32 counterOffset = r.counter ∧
      (r.toBytes ++ rest).word32 8 = r.buttons.1 ∧ (r.toBytes ++ rest).word32 12 = r.buttons.2 := by
    simp [toBytes, counterOffset]
  have trackpads : (r.toBytes ++ rest).int16 16 = r.leftTrackpad.1 ∧
      (r.toBytes ++ rest).int16 18 = r.leftTrackpad.2 ∧
      (r.toBytes ++ rest).int16 20 = r.rightTrackpad.1 ∧
      (r.toBytes ++ rest).int16 22 = r.rightTrackpad.2 := by
    simp [toBytes]
  have sensors : Axes.ofBytes (r.toBytes ++ rest) 24 = r.accel ∧
      Axes.ofBytes (r.toBytes ++ rest) 30 = r.gyro := by
    simp [toBytes]
  rw [decode, if_neg long]
  simp only [words, trackpads, sensors]

theorem toBytes_of_decode (read : decode b = .ok r) : r.toBytes = b.window 0 size := by
  rw [decode, if_neg (Nat.not_lt.mpr (size_le_of_decode_ok read))] at read
  obtain rfl := Except.ok.inj read
  simp only [toBytes, ofWord32_word32, ofInt16_int16, Axes.toBytes_ofBytes]
  rw [counterOffset, window_append_window b 0 4 4, window_append_window b 0 8 4,
    window_append_window b 0 12 4, window_append_window b 0 16 2, window_append_window b 0 18 2,
    window_append_window b 0 20 2, window_append_window b 0 22 2, window_append_window b 0 24 6,
    window_append_window b 0 30 6]
  rfl

/-- A report is read from the byte strings that start with its bytes. -/
theorem decode_eq_ok_iff : decode b = .ok r ↔ r.toBytes <+: b := by
  constructor
  · intro read
    have long := size_le_of_decode_ok read
    rw [toBytes_of_decode read, window_eq (by rwa [Nat.zero_add]), List.drop_zero]
    exact List.take_prefix size b
  · rintro ⟨rest, rfl⟩
    exact decode_toBytes r rest

/-! ### The bytes that are read -/

theorem take_of_decode (read : decode b = .ok r) : b.take size = r.toBytes := by
  have same := List.prefix_iff_eq_take.mp (decode_eq_ok_iff.mp read)
  rw [length_toBytes] at same
  exact same.symm

theorem decode_take (b : Bytes) : decode (b.take size) = decode b := by
  by_cases long : size ≤ b.length
  · obtain ⟨r, read⟩ := exists_decode long
    rw [read, take_of_decode read]
    exact decode_eq_ok_iff.mpr List.prefix_rfl
  · rw [List.take_of_length_le (Nat.le_of_not_le long)]

theorem decode_eq_iff (long : size ≤ b.length) :
    decode b = decode d ↔ b.take size = d.take size := by
  constructor
  · intro same
    obtain ⟨r, read⟩ := exists_decode long
    rw [take_of_decode read, take_of_decode (same.symm.trans read)]
  · intro same
    rw [← decode_take b, same, decode_take]

theorem existsUnique_block (r : Report) : ∃! p : Block size, decode p.bytes = .ok r := by
  refine ⟨⟨r.toBytes, length_toBytes r⟩, decode_eq_ok_iff.mpr List.prefix_rfl, ?_⟩
  rintro ⟨bytes, length⟩ read
  have whole : bytes.take size = r.toBytes := take_of_decode read
  rw [← length, List.take_length] at whole
  subst whole
  rfl

/-! ### Counter and sensors -/

theorem counter_eq (read : decode b = .ok r) : r.counter = Frame.counter b := by
  have long := size_le_of_decode_ok read
  have holds : ¬b.length < counterOffset + 4 := by
    simp only [size, counterOffset] at long ⊢
    omega
  rw [Frame.counter, if_neg holds]
  rw [decode, if_neg (Nat.not_lt.mpr long)] at read
  obtain rfl := Except.ok.inj read
  rfl

theorem imuIsZero_iff : r.imuIsZero = true ↔ r.accel.toBytes ++ r.gyro.toBytes = zeros 12 := by
  have halves : zeros 12 = zeros 6 ++ zeros 6 := rfl
  rw [imuIsZero, Bool.and_eq_true, Axes.isZero_iff, Axes.isZero_iff, halves]
  constructor
  · rintro ⟨accel, gyro⟩
    rw [accel, gyro]
  · intro blank
    exact List.append_inj blank (by simp)

theorem sensors_eq_window (read : decode b = .ok r) :
    r.accel.toBytes ++ r.gyro.toBytes = b.window 24 12 := by
  obtain ⟨rest, rfl⟩ := decode_eq_ok_iff.mp read
  have split : r.toBytes ++ rest = (ofWord32 r.header ++ ofWord32 r.counter ++
      ofWord32 r.buttons.1 ++ ofWord32 r.buttons.2 ++ ofInt16 r.leftTrackpad.1 ++
      ofInt16 r.leftTrackpad.2 ++ ofInt16 r.rightTrackpad.1 ++ ofInt16 r.rightTrackpad.2) ++
      ((r.accel.toBytes ++ r.gyro.toBytes) ++ rest) := by
    simp only [toBytes, List.append_assoc]
  rw [split, window_append_right (by simp)]
  exact (window_append_left (by simp)).symm

/-- A byte string is read if and only if it has at least thirty-six bytes, and those beyond play no
part. Reading is one to one on blocks of so many bytes, which hold the fields of the report one
after the other. -/
theorem layout_exact (b : Bytes) :
    ((∃ r, decode b = .ok r) ↔ size ≤ b.length) ∧
    decode (b.take size) = decode b ∧
    (size ≤ b.length → ∀ d, decode b = decode d ↔ b.take size = d.take size) ∧
    (∀ r, ∃! p : Block size, decode p.bytes = .ok r) ∧
    ∀ r, decode b = .ok r →
      r.toBytes <+: b ∧ r.counter = Frame.counter b ∧
      (r.imuIsZero = true ↔ ∀ i, 24 ≤ i → i < 36 → b[i]? = some 0) := by
  refine ⟨⟨fun ⟨r, read⟩ => size_le_of_decode_ok read, exists_decode⟩, decode_take b,
    fun long d => decode_eq_iff long, existsUnique_block, fun r read => ?_⟩
  refine ⟨decode_eq_ok_iff.mp read, counter_eq read, ?_⟩
  rw [imuIsZero_iff, sensors_eq_window read]
  exact window_eq_zeros_iff (size_le_of_decode_ok read)

/-- A report with a byte behind it. The trackpads are not part of the sensors, which are all but
zero. -/
theorem layout_exact_of_trailing_byte :
    let b : Bytes := [1, 0, 9, 0x40, 4, 3, 2, 1, 0x80, 0, 0, 0, 0, 0, 0, 0, 0xFB, 0xFF, 0, 0] ++
      [0, 0, 0, 0, 0, 0, 0, 0, 0, 0, 0, 0, 0, 0, 0, 1, 0x77]
    let r : Report := {
      header := 0x40090001, counter := 0x01020304, buttons := (0x80, 0), leftTrackpad := (-5, 0)
      gyro := { frontToBack := 256 } }
    size ≤ b.length ∧ decode b = .ok r ∧ r.toBytes <+: b ∧ Frame.counter b = 0x01020304 ∧
      r.imuIsZero = false ∧ decode (b.take size) = .ok r ∧
      ∀ d, decode d = .ok r ↔ b.take size = d.take size := by
  intro b r
  have long : size ≤ b.length := by decide
  have read : decode b = .ok r := decode_eq_ok_iff.mpr (by decide)
  obtain ⟨-, front, alike, -, fields⟩ := layout_exact b
  obtain ⟨starts, counter, -⟩ := fields r read
  refine ⟨long, read, starts, counter.symm, by decide, front.trans read, fun d => ?_⟩
  rw [← alike long d, read]
  exact eq_comm

end Report

end MotionCast
