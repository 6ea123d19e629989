import MotionCast.Proofs.Capture.Framing

/-! A frame that a scripted device writes, read back. Whatever the geometry of its records, the
device overwrites every byte of a buffer, and what is taken out over any old frame is the frame that
was written. No byte of the buffer's or the frame's past is left. The reader finds the record in
step by the usage that it was written with, so that a malformed one is refused under every
marker. -/

namespace MotionCast

namespace DeviceScript

variable {s : DeviceScript} {frame raw : Bytes} {malformed : Bool}

/-- A frame makes a full buffer `raw` of any buffer of its length, also in a read of a device that
comes to this frame. -/
structure Fills (s : DeviceScript) (frame : Bytes) (malformed : Bool) (raw : Bytes) : Prop where
  delivered : ∀ buffer : Bytes, buffer.length = raw.length →
    ScriptedDevice.deliver? s frame malformed buffer = some (raw.length, raw)
  read : ∀ (d : ScriptedDevice) (h : ScriptedHandle) (buffer : Bytes) (timeout now : Nanos),
    d.script = s → d.frame d.nextCounter = frame → s.malformed.contains d.emitted = malformed →
    s.blockOn ≠ some d.emitted → h.nextDue - now ≤ timeout → buffer.length = raw.length →
    ∃ h' d', d.read? h buffer timeout now =
      some (.read raw.length raw, max h.nextDue now, h', d')

theorem Fills.of_delivered (delivered : ∀ buffer : Bytes, buffer.length = raw.length →
    ScriptedDevice.deliver? s frame malformed buffer = some (raw.length, raw)) :
    s.Fills frame malformed raw := by
  refine ⟨delivered, ?_⟩
  rintro d h buffer timeout now rfl rfl rfl steady due room
  rw [ScriptedDevice.read?, if_neg (Nat.not_lt.mpr due), ScriptedDevice.next?_eq steady,
    delivered buffer room]
  exact ⟨_, _, rfl⟩

end DeviceScript

namespace ReaderConfig

open MotionCast.Frame

/-- The records of a frame are in step by their usage, or by the marker if they have the alternative
one. -/
theorem framed_records_iff {c : ReaderConfig} {recordLength payloadOffset : Nat} {usage : UInt32}
    {frame : Bytes} (transport : c.transport = .records recordLength payloadOffset)
    (room : 4 ≤ payloadOffset) (inside : payloadOffset < recordLength) (nonempty : frame ≠ []) :
    c.framed (records usage recordLength payloadOffset frame) = true ↔
      usage = recordUsage ∨
        usage = recordUsageAlternative ∧ c.startMarker ≠ [] ∧ c.startMarker <+: frame := by
  have length : (records usage recordLength payloadOffset frame).length =
      frame.length * recordLength := length_records room inside frame
  have one : 1 * recordLength ≤ frame.length * recordLength :=
    Nat.mul_le_mul_right _ (List.length_pos_iff.mpr nonempty)
  rw [framed_iff transport inside length (by omega), word32_records nonempty,
    payloads_records room inside]

/-- A device that writes a frame as records fills a buffer with them, and that frame is taken out
again over any old one. A well-formed record with the usual usage is in step for every reader, a
malformed one for none. A report is taken out as it is. -/
theorem frame_read_back (s : DeviceScript) {frame : Bytes} (long : 8 ≤ frame.length) :
    (∀ recordLength payloadOffset, s.transport = .records recordLength payloadOffset →
      4 ≤ payloadOffset → payloadOffset < recordLength →
      ∀ malformed, ∃ raw : Bytes, raw.length = frame.length * recordLength ∧
        s.Fills frame malformed raw ∧
        (∀ old : Bytes, old.length = frame.length → s.transport.extract? raw old = some frame) ∧
        ∀ c : ReaderConfig, c.transport = s.transport →
          (malformed = false → s.recordHeader = 0xFFFF0002 → c.framed raw = true) ∧
          (malformed = true → c.framed raw = false)) ∧
    (s.transport = .report → s.Fills frame false frame ∧
      ∀ old : Bytes, old.length = frame.length → s.transport.extract? frame old = some frame) := by
  have nonempty : frame ≠ [] := by
    rintro rfl
    contradiction
  constructor
  · intro recordLength payloadOffset transport room inside malformed
    let usage := if malformed then malformedUsage else s.recordHeader
    have length : (records usage recordLength payloadOffset frame).length =
        frame.length * recordLength := length_records room inside frame
    refine ⟨_, length, .of_delivered ?_, ?_, ?_⟩
    · intro buffer full
      rw [length]
      exact ScriptedDevice.deliver?_records transport room inside (full.trans length) malformed
    · intro old same
      rw [transport]
      exact extract_records room inside same
    · intro c reads
      have framed : c.framed (records usage recordLength payloadOffset frame) = true ↔ _ :=
        framed_records_iff (reads.trans transport) room inside nonempty
      constructor
      · rintro rfl usual
        exact framed.mpr (.inl usual)
      · rintro rfl
        rw [← Bool.not_eq_true, framed]
        rintro (usual | ⟨alternative, -⟩)
        · exact absurd usual (by decide : malformedUsage ≠ recordUsage)
        · exact absurd alternative (by decide : malformedUsage ≠ recordUsageAlternative)
  · intro report
    refine ⟨.of_delivered fun buffer full => ?_, fun old same => ?_⟩
    · exact ScriptedDevice.deliver?_report report full false
    · rw [report]
      exact extract_report same

/-- Records of seven bytes with the payload in the sixth, read into a buffer full of other bytes.
The second record of the device is malformed. -/
theorem frame_read_back_over_old_bytes :
    let s : DeviceScript := {
      transport := .records 7 5, frameLength := 8, firstCounter := 5, malformed := [1] }
    let d := ScriptedDevice.new s
    let frame : Bytes := [1, 0, 9, 0x40, 5, 0, 0, 0]
    let reader (marker : Bytes) : ReaderConfig := {
      transport := .records 7 5, writable := true, frameLength := 8, startMarker := marker
      enableReport := [] }
    8 ≤ frame.length ∧
      (∃ raw h' d', d.read? ⟨3⟩ (List.replicate 56 0xEE) 2 1 = some (.read 56 raw, 3, h', d') ∧
        s.transport.extract? raw (List.replicate 8 0x77) = some frame ∧
        ∀ marker, (reader marker).framed raw = true) ∧
      ∃ raw h' d', { d with emitted := 1 }.read? ⟨3⟩ (List.replicate 56 0xEE) 2 1 =
          some (.read 56 raw, 3, h', d') ∧
        ∀ marker, (reader marker).framed raw = false := by
  intro s d frame reader
  have long : 8 ≤ frame.length := by decide
  have written : d.frame d.nextCounter = frame := by decide
  obtain ⟨records, -⟩ := frame_read_back s long
  refine ⟨long, ?_, ?_⟩
  · obtain ⟨raw, length, fills, extracted, framed⟩ :=
      records 7 5 rfl (by decide) (by decide) false
    obtain ⟨h', d', read⟩ := fills.read d ⟨3⟩ (List.replicate 56 0xEE) 2 1 rfl written rfl
      (by decide) (by decide) (by rw [length]; rfl)
    rw [length] at read
    exact ⟨raw, h', d', read, extracted _ rfl, fun marker => (framed (reader marker) rfl).1 rfl rfl⟩
  · obtain ⟨raw, length, fills, -, framed⟩ := records 7 5 rfl (by decide) (by decide) true
    obtain ⟨h', d', read⟩ := fills.read { d with emitted := 1 } ⟨3⟩ (List.replicate 56 0xEE) 2 1
      rfl written rfl (by decide) (by decide) (by rw [length]; rfl)
    rw [length] at read
    exact ⟨raw, h', d', read, fun marker => (framed (reader marker) rfl).2 rfl⟩

end ReaderConfig

end MotionCast
