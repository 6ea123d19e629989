import MotionCast.Capture.Reader
import MotionCast.Device.Script
import MotionCast.Capture.Frame
import MotionCast.Proofs.Wire.Fields

/-! What a scripted device delivers and what is made of it. A frame goes over the wire as one record
for each of its bytes, or as it is, and is taken out again byte for byte. A reader takes a
well-formed record for what it is, finds a malformed one out of step, and a malformed report cut
short. -/

namespace MotionCast

open Bytes

/-! ### A frame as records -/

theorem Bytes.zeros_add (m n : Nat) : zeros (m + n) = zeros m ++ zeros n :=
  List.replicate_append_replicate.symm

namespace Frame

/-- A record: the usage, and a byte of a frame at the payload's place. Its other bytes are zero. -/
def record (usage : UInt32) (recordLength payloadOffset : Nat) (byte : UInt8) : Bytes :=
  ofWord32 usage ++
    (zeros (payloadOffset - 4) ++ (byte :: zeros (recordLength - payloadOffset - 1)))

/-- One record for each byte of a frame. -/
def records (usage : UInt32) (recordLength payloadOffset : Nat) (frame : Bytes) : Bytes :=
  frame.flatMap (record usage recordLength payloadOffset)

theorem payloads_append {record : Bytes} {recordLength payloadOffset : Nat}
    (inside : payloadOffset < recordLength) (h : record.length = recordLength) (rest : Bytes) :
    payloads (record ++ rest) recordLength payloadOffset =
      record.byte payloadOffset :: payloads rest recordLength payloadOffset := by
  have one_more : (record ++ rest).length / recordLength = rest.length / recordLength + 1 := by
    rw [List.length_append, h, Nat.add_div_left _ (Nat.zero_lt_of_lt inside)]
  rw [payloads, one_more, List.range_succ_eq_map, List.map_cons, List.map_map]
  congr 1
  · simp only [byte, List.getD_eq_getElem?_getD]
    rw [List.getElem?_append_left (by omega), Nat.zero_mul, Nat.zero_add]
  · apply List.map_congr_left
    intro i _
    show (record ++ rest).byte ((i + 1) * recordLength + payloadOffset) =
      rest.byte (i * recordLength + payloadOffset)
    rw [Nat.succ_mul, byte_append_right (by omega), h]
    congr 1
    omega

section Geometry

variable {usage : UInt32} {recordLength payloadOffset : Nat}

theorem byte_record (room : 4 ≤ payloadOffset) (byte : UInt8) :
    (record usage recordLength payloadOffset byte).byte payloadOffset = byte := by
  rw [record, byte_append_right (by simpa using room), byte_append_right (by simp)]
  simp

theorem word32_records {frame : Bytes} (h : frame ≠ []) :
    (records usage recordLength payloadOffset frame).word32 0 = usage := by
  cases frame with
  | nil => contradiction
  | cons byte rest =>
    rw [records, List.flatMap_cons, record, List.append_assoc]
    exact word32_ofWord32 usage

variable (room : 4 ≤ payloadOffset) (inside : payloadOffset < recordLength)

include room inside

theorem length_record (byte : UInt8) :
    (record usage recordLength payloadOffset byte).length = recordLength := by
  simp [record]
  omega

theorem length_records (frame : Bytes) :
    (records usage recordLength payloadOffset frame).length = frame.length * recordLength := by
  simp [records, List.length_flatMap, length_record room inside, List.map_const', Nat.mul_comm]

theorem payloads_records (frame : Bytes) :
    payloads (records usage recordLength payloadOffset frame) recordLength payloadOffset =
      frame := by
  induction frame with
  | nil => simp [payloads, records]
  | cons byte rest ih =>
    rw [records] at ih ⊢
    rw [List.flatMap_cons, payloads_append inside (length_record room inside byte), ih,
      byte_record room]

/-- A frame is taken out of its records over any frame of its length. -/
theorem extract_records {frame old : Bytes} (h : old.length = frame.length) :
    (Transport.records recordLength payloadOffset).extract?
      (records usage recordLength payloadOffset frame) old = some frame := by
  show deinterleave? old _ recordLength payloadOffset = some frame
  rw [deinterleave?, if_neg (by omega), if_neg (by omega), payloads_records room inside,
    copyOver_of_length h.symm]

end Geometry

theorem extract_report {frame old : Bytes} (h : old.length = frame.length) :
    Transport.report.extract? frame old = some frame := by
  show some (old.copyOver frame) = some frame
  rw [copyOver_of_length h.symm]

end Frame

/-! ### The scripted device -/

namespace ScriptedDevice

section Records

variable {recordLength payloadOffset : Nat}
  (room : 4 ≤ payloadOffset) (inside : payloadOffset < recordLength)

include room inside

/-- A record is written over cleared bytes. -/
theorem put_zeros (usage : UInt32) (byte : UInt8) (rest : Bytes) :
    ((zeros recordLength ++ rest).put 0 (ofWord32 usage)).put payloadOffset [byte] =
      Frame.record usage recordLength payloadOffset byte ++ rest := by
  have cleared : zeros recordLength ++ rest = zeros 4 ++ (zeros (payloadOffset - 4) ++
      ([0] ++ (zeros (recordLength - payloadOffset - 1) ++ rest))) := by
    have split : recordLength =
        4 + (payloadOffset - 4 + (1 + (recordLength - payloadOffset - 1))) := by
      omega
    have whole := congrArg zeros split
    rw [zeros_add, zeros_add, zeros_add] at whole
    rw [whole, List.append_assoc, List.append_assoc, List.append_assoc]
    rfl
  have payload : put ([0] ++ (zeros (recordLength - payloadOffset - 1) ++ rest)) 0 [byte] =
      [byte] ++ (zeros (recordLength - payloadOffset - 1) ++ rest) := put_append_left rfl
  rw [cleared, put_append_left (by simp), put_append_right (by simpa using room),
    put_append_right (by simp), length_ofWord32, length_zeros, Nat.sub_self, payload, Frame.record]
  simp

/-- Records are written one after another over a cleared buffer. -/
theorem putRecords?_zeros (usage : UInt32) (frame done : Bytes) {index limit : Nat}
    (written : done.length = index * recordLength)
    (fits : index * recordLength + frame.length * recordLength ≤ limit) :
    putRecords? usage recordLength payloadOffset limit index frame
        (done ++ zeros (frame.length * recordLength)) =
      some (done ++ Frame.records usage recordLength payloadOffset frame) := by
  induction frame generalizing index done with
  | nil => simp [putRecords?, Frame.records, zeros]
  | cons byte rest ih =>
    rw [List.length_cons, Nat.succ_mul] at fits ⊢
    have cleared : zeros (rest.length * recordLength + recordLength) =
        zeros recordLength ++ zeros (rest.length * recordLength) := by
      rw [Nat.add_comm, zeros_add]
    have put : ((done ++ zeros (rest.length * recordLength + recordLength)).put
        (index * recordLength) (ofWord32 usage)).put (index * recordLength + payloadOffset) [byte] =
          done ++ Frame.record usage recordLength payloadOffset byte ++
            zeros (rest.length * recordLength) := by
      rw [cleared, put_append_right (by omega), put_append_right (by omega), written, Nat.sub_self,
        Nat.add_sub_cancel_left, put_zeros room inside, List.append_assoc]
    have length : (Frame.record usage recordLength payloadOffset byte).length = recordLength :=
      Frame.length_record room inside byte
    rw [putRecords?, if_neg (by omega), if_neg (by simp; omega), put]
    rw [ih _ (by rw [List.length_append, written, length, Nat.succ_mul])
      (by rw [Nat.succ_mul]; omega), Frame.records, Frame.records, List.flatMap_cons,
      List.append_assoc]

end Records

section Deliver

variable {s : DeviceScript} {frame buffer : Bytes}

theorem deliver?_records {recordLength payloadOffset : Nat}
    (records : s.transport = .records recordLength payloadOffset) (room : 4 ≤ payloadOffset)
    (inside : payloadOffset < recordLength) (length : buffer.length = frame.length * recordLength)
    (malformed : Bool) :
    deliver? s frame malformed buffer = some (frame.length * recordLength,
      Frame.records (if malformed then malformedUsage else s.recordHeader) recordLength payloadOffset
        frame) := by
  have cleared : buffer.put 0 (zeros (frame.length * recordLength)) =
      zeros (frame.length * recordLength) := by
    rw [put, List.take_zero, List.nil_append, length_zeros, Nat.zero_add,
      List.drop_of_length_le (Nat.le_of_eq length), List.append_nil]
  have within : 0 * recordLength + frame.length * recordLength ≤ frame.length * recordLength := by
    omega
  have filled := putRecords?_zeros room inside
    (if malformed then malformedUsage else s.recordHeader) frame [] (by simp) within
  rw [deliver?, records]
  simp only [length, Nat.min_self, cleared]
  rw [List.nil_append, List.nil_append] at filled
  rw [filled]
  rfl

theorem deliver?_report (report : s.transport = .report) (room : buffer.length = frame.length)
    (malformed : Bool) :
    deliver? s frame malformed buffer =
      some (if malformed then frame.length / 2 else frame.length, frame) := by
  rw [deliver?, report]
  simp only [room, Nat.min_self, copyOver_of_length room.symm]

end Deliver

section Frames

variable {d : ScriptedDevice}

/-- The start of a frame: the script's first bytes with the counter over them. -/
def counted (d : ScriptedDevice) (counter : UInt32) : Bytes :=
  ((zeros d.script.frameLength).copyOver d.script.reportPrefix).put Report.counterOffset
    (ofWord32 counter)

theorem length_counted (holds : 8 ≤ d.script.frameLength) (counter : UInt32) :
    (d.counted counter).length = d.script.frameLength := by
  rw [counted, length_put]
  · simp
  · simpa [Report.counterOffset] using holds

theorem frame_eq (holds : 8 ≤ d.script.frameLength) (counter : UInt32) :
    d.frame counter =
      if Report.size ≤ d.script.frameLength then
        (d.counted counter).put 24 (d.imu.flatMap fun v => ofWord16 v.toUInt16)
      else d.counted counter := by
  have length := length_counted holds counter
  have started : 8 ≤ ((zeros d.script.frameLength).copyOver d.script.reportPrefix).length := by
    simpa using holds
  rw [frame]
  simp only [if_pos started]
  show (if Report.size ≤ (d.counted counter).length then _ else _) = _
  rw [length]
  rfl

theorem length_sensors (sensors : d.imu.length = 6) :
    (d.imu.flatMap fun v => ofWord16 v.toUInt16).length = 12 := by
  rw [List.length_flatMap]
  simp [List.map_const', sensors]

theorem length_frame (holds : 8 ≤ d.script.frameLength) (sensors : d.imu.length = 6)
    (counter : UInt32) : (d.frame counter).length = d.script.frameLength := by
  rw [frame_eq holds]
  split
  · rename_i room
    rw [length_put, length_counted holds]
    rw [length_counted holds, length_sensors sensors]
    exact room
  · exact length_counted holds counter

theorem word32_counted (holds : 8 ≤ d.script.frameLength) (counter : UInt32) :
    (d.counted counter).word32 Report.counterOffset = counter := by
  have start : (((zeros d.script.frameLength).copyOver d.script.reportPrefix).take
      Report.counterOffset).length = Report.counterOffset := by
    simp [Report.counterOffset]
    omega
  rw [counted, put, List.append_assoc, word32_append_right (Nat.le_of_eq start), start, Nat.sub_self,
    word32_ofWord32]

theorem counter_frame (holds : 8 ≤ d.script.frameLength) (sensors : d.imu.length = 6)
    (counter : UInt32) : Frame.counter (d.frame counter) = counter := by
  have enough : ¬(d.frame counter).length < Report.counterOffset + 4 := by
    rw [length_frame holds sensors]
    exact Nat.not_lt.mpr holds
  rw [Frame.counter, if_neg enough, frame_eq holds]
  split
  · rename_i room
    have kept : ((d.counted counter).put 24 (d.imu.flatMap fun v => ofWord16 v.toUInt16)).window
        Report.counterOffset 4 = (d.counted counter).window Report.counterOffset 4 := by
      apply window_congr
      intro i _ low
      rw [getElem?_put, if_neg]
      · simp only [Report.counterOffset] at low
        omega
      · rw [length_counted holds, length_sensors sensors]
        exact room
    rw [word32, kept]
    exact word32_counted holds counter
  · exact word32_counted holds counter

/-- A read that does not block takes the next record from the script. -/
theorem next?_eq (steady : d.script.blockOn ≠ some d.emitted) (buffer : Bytes) :
    d.next? buffer =
      (deliver? d.script (d.frame d.nextCounter) (d.script.malformed.contains d.emitted) buffer).map
        fun (count, filled) => (.read count filled, { d with
          emitted := d.emitted + 1
          nextCounter :=
            if d.script.malformed.contains d.emitted then d.nextCounter else d.nextCounter + 1 }) := by
  rw [next?, if_neg steady]
  cases d.script.malformed.contains d.emitted <;> rfl

end Frames

end ScriptedDevice

/-! ### A reader and its scripted device -/

/-- A script whose records a reader with these parameters understands. -/
structure DeviceScript.Fits (s : DeviceScript) (c : ReaderConfig) : Prop where
  transport : c.transport = s.transport
  length : c.frameLength = s.frameLength
  holds : 8 ≤ s.frameLength
  usage : s.transport = .hiddev ∧ s.recordHeader = recordUsage ∨ s.transport = .report

namespace DeviceScript.Fits

variable {s : DeviceScript} {c : ReaderConfig} {frame buffer : Bytes}

theorem wellFormed (h : s.Fits c) (length : frame.length = s.frameLength)
    (room : buffer.length = c.rawLength) :
    ∃ count raw, ScriptedDevice.deliver? s frame false buffer = some (count, raw) ∧
      raw.length = c.rawLength ∧ c.judge (.returned count raw) = .record ∧
      ∀ old : Bytes, old.length = frame.length → s.transport.extract? raw old = some frame := by
  have holds := h.holds
  rcases h.usage with ⟨hiddev, usage⟩ | report
  · have raw : c.rawLength = frame.length * 8 := by
      rw [ReaderConfig.rawLength, h.transport, hiddev, h.length, length]
      rfl
    refine ⟨_, _, ScriptedDevice.deliver?_records hiddev (by decide) (by decide) (room.trans raw)
      false, ?_, ?_, ?_⟩
    · rw [Frame.length_records (by decide) (by decide), raw]
    · have nonempty : frame ≠ [] := by
        rintro rfl
        rw [List.length_nil] at length
        omega
      have framed : c.framed (Frame.records s.recordHeader 8 4 frame) = true := by
        rw [ReaderConfig.framed, h.transport, hiddev]
        simp only [Transport.hiddev, Frame.length_records (by decide : 4 ≤ 4) (by decide : 4 < 8)]
        rw [if_neg (by omega), Frame.word32_records nonempty, if_pos usage]
      rw [ReaderConfig.judge, if_neg (by omega), if_neg (by omega)]
      exact if_pos framed
    · intro old same
      rw [hiddev]
      exact Frame.extract_records (by decide) (by decide) same
  · have raw : c.rawLength = frame.length := by
      rw [ReaderConfig.rawLength, h.transport, report, h.length, length]
      rfl
    refine ⟨_, _, ScriptedDevice.deliver?_report report (room.trans raw) false, raw.symm, ?_, ?_⟩
    · have framed : c.framed frame = true := by
        rw [ReaderConfig.framed, h.transport, report]
      rw [if_neg (by decide), ReaderConfig.judge, if_neg (by omega), if_neg (by omega)]
      exact if_pos framed
    · intro old same
      rw [report]
      exact Frame.extract_report same

theorem malformed (h : s.Fits c) (length : frame.length = s.frameLength)
    (room : buffer.length = c.rawLength) :
    ∃ count raw, ScriptedDevice.deliver? s frame true buffer = some (count, raw) ∧
      raw.length = c.rawLength ∧
      c.judge (.returned count raw) =
        if s.transport.isRecordStream then .desynced else .cutShort := by
  have holds := h.holds
  rcases h.usage with ⟨hiddev, usage⟩ | report
  · have raw : c.rawLength = frame.length * 8 := by
      rw [ReaderConfig.rawLength, h.transport, hiddev, h.length, length]
      rfl
    refine ⟨_, _, ScriptedDevice.deliver?_records hiddev (by decide) (by decide) (room.trans raw)
      true, ?_, ?_⟩
    · rw [Frame.length_records (by decide) (by decide), raw]
    · have nonempty : frame ≠ [] := by
        rintro rfl
        rw [List.length_nil] at length
        omega
      have stray : c.framed (Frame.records malformedUsage 8 4 frame) = false := by
        rw [ReaderConfig.framed, h.transport, hiddev]
        simp only [Transport.hiddev, Frame.length_records (by decide : 4 ≤ 4) (by decide : 4 < 8)]
        have other : malformedUsage ≠ recordUsageAlternative := by decide
        rw [if_neg (by omega), Frame.word32_records nonempty, if_neg (by decide),
          if_pos (by simp [other])]
      rw [if_pos rfl, ReaderConfig.judge, if_neg (by omega), if_neg (by omega), stray, hiddev]
      rfl
  · have raw : c.rawLength = frame.length := by
      rw [ReaderConfig.rawLength, h.transport, report, h.length, length]
      rfl
    refine ⟨_, _, ScriptedDevice.deliver?_report report (room.trans raw) true, raw.symm, ?_⟩
    rw [if_pos rfl, ReaderConfig.judge, if_neg (by omega), if_pos (by omega), h.transport, report]

end DeviceScript.Fits

end MotionCast
