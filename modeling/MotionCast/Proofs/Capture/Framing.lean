import MotionCast.Proofs.Capture.Delivering

/-! What counts as the start of a frame, against what is taken out as the frame. The reader looks
for the marker at computed places of the raw bytes, while a frame is taken out record after record.
The marker that the one finds is the start of the frame that the other makes, so that neither a good
record is refused nor one accepted whose frame starts with something else. -/

namespace MotionCast

open Bytes

namespace Frame

/-- The whole records of a stream, one after another. What is left over at its end is dropped. -/
def chunks (recordLength : Nat) (raw : Bytes) : List Bytes :=
  if recordLength = 0 ∨ raw.length < recordLength then []
  else raw.take recordLength :: chunks recordLength (raw.drop recordLength)
termination_by raw.length
decreasing_by
  rw [List.length_drop]
  omega

/-- Writes the payload of one record after another over the bytes of a frame, up to the end of
either. There is no result where a record ends before its payload. -/
def overlay? (payloadOffset : Nat) : (frame : Bytes) → (records : List Bytes) → Option Bytes
  | _ :: frame, record :: records => do
    let payload ← record[payloadOffset]?
    let rest ← overlay? payloadOffset frame records
    return payload :: rest
  | frame, _ => some frame

variable {raw : Bytes} {recordLength payloadOffset : Nat}

theorem chunks_of_short (short : raw.length < recordLength) : chunks recordLength raw = [] := by
  rw [chunks, if_pos (.inr short)]

theorem chunks_append {record : Bytes} (positive : 0 < recordLength)
    (length : record.length = recordLength) (rest : Bytes) :
    chunks recordLength (record ++ rest) = record :: chunks recordLength rest := by
  have more : ¬(recordLength = 0 ∨ (record ++ rest).length < recordLength) := by
    rw [List.length_append]
    omega
  rw [chunks, if_neg more, List.take_left' length, List.drop_left' length]

theorem payloads_of_short (short : raw.length < recordLength) :
    payloads raw recordLength payloadOffset = [] := by
  rw [payloads, Nat.div_eq_of_lt short]
  rfl

theorem copyOver_cons (old payload : UInt8) (frame source : Bytes) :
    copyOver (old :: frame) (payload :: source) = payload :: copyOver frame source := by
  simp [copyOver]

/-- Record after record, the payloads are written over a frame. -/
theorem overlay?_chunks (inside : payloadOffset < recordLength) (frame raw : Bytes) :
    overlay? payloadOffset frame (chunks recordLength raw) =
      some (frame.copyOver (payloads raw recordLength payloadOffset)) := by
  induction frame generalizing raw with
  | nil => simp [overlay?, copyOver]
  | cons old frame ih =>
    by_cases short : raw.length < recordLength
    · rw [chunks_of_short short, payloads_of_short short]
      simp [overlay?, copyOver]
    · obtain ⟨record, rest, length, rfl⟩ : ∃ record rest : Bytes, record.length = recordLength ∧
          raw = record ++ rest :=
        ⟨raw.take recordLength, raw.drop recordLength, by simp; omega,
          (List.take_append_drop recordLength raw).symm⟩
      have payload : record[payloadOffset]? = some (record.byte payloadOffset) := by
        rw [byte, List.getD_eq_getElem?_getD, List.getElem?_eq_getElem (length.symm ▸ inside),
          Option.getD_some]
      rw [chunks_append (Nat.zero_lt_of_lt inside) length, payloads_append inside length,
        copyOver_cons, overlay?, payload, ih rest]
      rfl

/-- Taking a frame out at computed places is taking it out record after record. -/
theorem deinterleave?_eq_overlay? (inside : payloadOffset < recordLength) (frame raw : Bytes) :
    deinterleave? frame raw recordLength payloadOffset =
      overlay? payloadOffset frame (chunks recordLength raw) := by
  rw [overlay?_chunks inside, deinterleave?, if_neg (by omega), if_neg (by omega)]

section Whole

variable {count : Nat} (inside : payloadOffset < recordLength)
  (whole : raw.length = count * recordLength)

include inside whole

theorem length_payloads : (payloads raw recordLength payloadOffset).length = count := by
  rw [payloads, List.length_map, List.length_range, whole,
    Nat.mul_div_cancel _ (Nat.zero_lt_of_lt inside)]

theorem getElem?_payloads (j : Nat) :
    (payloads raw recordLength payloadOffset)[j]? = raw[payloadOffset + j * recordLength]? := by
  have records : raw.length / recordLength = count := by
    rw [whole, Nat.mul_div_cancel _ (Nat.zero_lt_of_lt inside)]
  rw [payloads, List.getElem?_map, records]
  by_cases there : j < count
  · have last : (j + 1) * recordLength ≤ count * recordLength := Nat.mul_le_mul_right _ there
    have within : payloadOffset + j * recordLength < raw.length := by
      rw [whole]
      rw [Nat.succ_mul] at last
      omega
    rw [List.getElem?_range there, Option.map_some, byte, List.getD_eq_getElem?_getD,
      Nat.add_comm, List.getElem?_eq_getElem within, Option.getD_some]
  · have past : count * recordLength ≤ j * recordLength :=
      Nat.mul_le_mul_right _ (Nat.not_lt.mp there)
    rw [List.getElem?_eq_none (by simpa using there), List.getElem?_eq_none (by omega)]
    rfl

end Whole

end Frame

namespace ReaderConfig

open MotionCast.Frame

variable {raw : Bytes} {recordLength payloadOffset count : Nat}

/-- The marker is looked for exactly where the frame comes from. -/
theorem marked_iff (inside : payloadOffset < recordLength)
    (whole : raw.length = count * recordLength) (marker : Bytes) :
    marked marker raw recordLength payloadOffset = true ↔
      marker <+: payloads raw recordLength payloadOffset := by
  have place := getElem?_payloads inside whole
  simp only [marked, List.all_eq_true, Prod.forall, List.mk_mem_zipIdx_iff_getElem?,
    decide_eq_true_eq, List.prefix_iff_getElem?, place]
  constructor
  · intro found i there
    exact found _ i (List.getElem?_eq_getElem there)
  · intro starts b i at_i
    obtain ⟨there, rfl⟩ := List.getElem?_eq_some_iff.mp at_i
    exact starts i there

/-- A record with the alternative usage needs the marker, and an empty one never counts. -/
theorem framed_iff {c : ReaderConfig} (records : c.transport = .records recordLength payloadOffset)
    (inside : payloadOffset < recordLength) (whole : raw.length = count * recordLength)
    (long : 4 ≤ raw.length) :
    c.framed raw = true ↔ raw.word32 0 = recordUsage ∨ raw.word32 0 = recordUsageAlternative ∧
      c.startMarker ≠ [] ∧ c.startMarker <+: payloads raw recordLength payloadOffset := by
  rw [framed, records]
  simp only
  rw [if_neg (Nat.not_lt.mpr long)]
  by_cases usual : raw.word32 0 = recordUsage
  · rw [if_pos usual]
    exact ⟨fun _ => .inl usual, fun _ => rfl⟩
  rw [if_neg usual]
  split
  · rename_i refused
    simp only [Bool.or_eq_true, decide_eq_true_eq, List.isEmpty_iff] at refused
    refine ⟨fun framed => absurd framed Bool.false_ne_true, ?_⟩
    rintro (same | ⟨alternative, marker, -⟩)
    · exact absurd same usual
    · exact absurd (refused.resolve_left (not_not_intro alternative)) marker
  · rename_i looked
    simp only [Bool.or_eq_true, decide_eq_true_eq, List.isEmpty_iff, not_or,
      Decidable.not_not] at looked
    rw [marked_iff inside whole]
    refine ⟨fun starts => .inr ⟨looked.1, looked.2, starts⟩, ?_⟩
    rintro (same | ⟨-, -, starts⟩)
    · exact absurd same usual
    · exact starts

/-- From a whole record stream one frame is taken out, record after record alike. It counts as in
step exactly if it starts with the usage of all records, or with the alternative one while that
frame starts with the marker. -/
theorem framed_iff_extracted {c : ReaderConfig} {recordLength payloadOffset : Nat}
    (records : c.transport = .records recordLength payloadOffset)
    (inside : payloadOffset < recordLength) {raw : Bytes}
    (whole : raw.length = c.frameLength * recordLength) (long : 4 ≤ raw.length) :
    ∃ frame : Bytes, frame.length = c.frameLength ∧
      (∀ old : Bytes, old.length = c.frameLength → c.transport.extract? raw old = some frame ∧
        Frame.overlay? payloadOffset old (Frame.chunks recordLength raw) = some frame) ∧
      (c.framed raw = true ↔ raw.word32 0 = 0xFFFF0002 ∨
        raw.word32 0 = 0xFFFF0001 ∧ c.startMarker ≠ [] ∧ c.startMarker <+: frame) := by
  have length := length_payloads inside whole
  refine ⟨payloads raw recordLength payloadOffset, length, ?_,
    framed_iff records inside whole long⟩
  intro old room
  have overlaid : Frame.overlay? payloadOffset old (Frame.chunks recordLength raw) =
      some (payloads raw recordLength payloadOffset) := by
    rw [overlay?_chunks inside, copyOver_of_length (length.trans room.symm)]
  refine ⟨?_, overlaid⟩
  rw [records, ← overlaid]
  exact deinterleave?_eq_overlay? inside old raw

/-- Records of five bytes with the payload in the middle. The marker is found or missed in the third
frame byte. -/
theorem framed_iff_extracted_of_marker :
    let c (marker : Bytes) : ReaderConfig := {
      transport := .records 5 2, writable := false, frameLength := 8, startMarker := marker
      enableReport := [] }
    let raw : Bytes := [1, 0, 0xFF, 0xFF, 0] ++ (List.range 7).flatMap fun i =>
      [9, 9, UInt8.ofNat i, 9, 9]
    raw.length = 8 * 5 ∧ 4 ≤ raw.length ∧
      (c []).transport.extract? raw (List.replicate 8 7) = some [0xFF, 0, 1, 2, 3, 4, 5, 6] ∧
      (c [0xFF, 0, 1]).framed raw = true ∧ (c [0xFF, 0, 2]).framed raw = false ∧
      (c []).framed raw = false := by
  intro c raw
  have whole : raw.length = 8 * 5 := by decide
  have long : 4 ≤ raw.length := by decide
  have old : (List.replicate 8 7 : Bytes).length = 8 := rfl
  have taken : (c []).transport.extract? raw (List.replicate 8 7) =
      some [0xFF, 0, 1, 2, 3, 4, 5, 6] := by decide
  have usage : raw.word32 0 = 0xFFFF0001 := by decide
  have judged (marker : Bytes) : (c marker).framed raw = true ↔
      marker ≠ [] ∧ marker <+: ([0xFF, 0, 1, 2, 3, 4, 5, 6] : Bytes) := by
    obtain ⟨frame, -, extracted, iff⟩ :=
      framed_iff_extracted (c := c marker) rfl (by decide : 2 < 5) whole long
    obtain rfl := Option.some.inj ((extracted _ old).1.symm.trans taken)
    rw [iff, usage]
    simp [c]
  refine ⟨whole, long, taken, (judged _).mpr (by decide), ?_, ?_⟩
  · exact Bool.eq_false_iff.mpr fun found => absurd ((judged _).mp found) (by decide)
  · exact Bool.eq_false_iff.mpr fun found => absurd ((judged _).mp found) (by decide)

end ReaderConfig

end MotionCast
