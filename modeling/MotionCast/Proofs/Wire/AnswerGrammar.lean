import MotionCast.Proofs.Wire.InPlace

/-! What a reader of answers accepts. `Answer.Opens` cuts a byte string at the start of an answer
and says what it comes to, one rule for each of the errors, in the order in which they are looked
for, and one for the answer that was expected. The three readers come to exactly that; what they
read besides the client's id is there in every answer that is long enough. -/

namespace MotionCast

namespace Answer

/-- What a byte string comes to as an answer about `expected` of at least `size` bytes: the
client's id, or the first thing that is wrong with it. -/
inductive Opens (expected : EventType) (size : Nat) : Bytes → Except WireError UInt32 → Prop where
  | short (b : Bytes) (few : b.length < size) :
    Opens expected size b (.error (.truncated size b.length))
  | stranger (magic : Block 4) (rest : Bytes) (long : size ≤ (magic.bytes ++ rest).length)
    (unknown : ¬(magic = Header.clientMagic ∨ magic = Header.serverMagic)) :
    Opens expected size (magic.bytes ++ rest) (.error (.invalidMagic magic))
  | unknown (o : Opening) (code : UInt32) (rest : Bytes)
    (long : size ≤ (o.toBytes code ++ rest).length)
    (none : code ≠ 0x100000 ∧ code ≠ 0x100001 ∧ code ≠ 0x100002) :
    Opens expected size (o.toBytes code ++ rest) (.error (.unknownEventType code))
  | unexpected (o : Opening) (actual : EventType) (rest : Bytes)
    (long : size ≤ (o.toBytes actual.code ++ rest).length) (other : actual ≠ expected) :
    Opens expected size (o.toBytes actual.code ++ rest) (.error (.unexpectedEvent expected actual))
  | expected (o : Opening) (rest : Bytes)
    (long : size ≤ (o.toBytes expected.code ++ rest).length) :
    Opens expected size (o.toBytes expected.code ++ rest) (.ok o.id)

/-! ### The start of an answer -/

section Expect

variable {event : EventType} {size : Nat} {b : Bytes}

theorem expect_of_short (few : b.length < size) :
    expect b event size = .error (.truncated size b.length) := by
  rw [expect, Bytes.require_of_lt few]
  rfl

theorem expect_of_error {cause : WireError} (long : size ≤ b.length)
    (read : Header.decode b = .error cause) : expect b event size = .error cause := by
  rw [expect, Bytes.require_of_le long, read]
  rfl

theorem expect_of_other {header : Header} (long : size ≤ b.length)
    (read : Header.decode b = .ok header) (other : header.event ≠ event) :
    expect b event size = .error (.unexpectedEvent event header.event) := by
  rw [expect, Bytes.require_of_le long, read]
  simp only [bind, Except.bind, if_pos other]
  rfl

theorem expect_of_same {header : Header} (long : size ≤ b.length)
    (read : Header.decode b = .ok header) (same : header.event = event) :
    expect b event size = .ok header := by
  rw [expect, Bytes.require_of_le long, read]
  simp only [bind, Except.bind, if_neg (not_not_intro same)]
  rfl

theorem le_length_of_expect {header : Header} (read : expect b event size = .ok header) :
    size ≤ b.length := by
  by_cases few : b.length < size
  · rw [expect_of_short few] at read
    contradiction
  · exact Nat.not_lt.mp few

theorem Opens.expect_eq {r : Except WireError UInt32} (whole : Header.size ≤ size)
    (h : Opens event size b r) : (expect b event size).map Header.id = r := by
  cases h with
  | short b few =>
    rw [expect_of_short few]
    rfl
  | stranger magic rest long unknown =>
    rw [expect_of_error long (Header.decode_stranger (Nat.le_trans whole long) unknown)]
    rfl
  | unknown o code rest long none =>
    have none := EventType.ofCode?_eq_none.mpr none
    rw [expect_of_error long ((Header.decode_opening o code rest).1 none)]
    rfl
  | unexpected o actual rest long other =>
    obtain ⟨header, -, -, is, read⟩ :=
      (Header.decode_opening o _ rest).2 actual (EventType.ofCode?_code actual)
    rw [expect_of_other long read (is ▸ other), is]
    rfl
  | expected o rest long =>
    obtain ⟨header, -, id, is, read⟩ :=
      (Header.decode_opening o _ rest).2 event (EventType.ofCode?_code event)
    rw [expect_of_same long read is, ← id]
    rfl

theorem exists_opens (whole : Header.size ≤ size) (b : Bytes) : ∃ r, Opens event size b r := by
  by_cases few : b.length < size
  · exact ⟨_, .short b few⟩
  have long := Nat.not_lt.mp few
  rcases Opening.exists_append (Nat.le_trans whole long) with
    ⟨magic, rest, rfl, unknown⟩ | ⟨o, code, rest, rfl⟩
  · exact ⟨_, .stranger magic rest long unknown⟩
  cases known : EventType.ofCode? code with
  | none => exact ⟨_, .unknown o code rest long (EventType.ofCode?_eq_none.mp known)⟩
  | some actual =>
    obtain rfl := EventType.ofCode?_eq_some known
    by_cases same : actual = event
    · subst same
      exact ⟨_, .expected o rest long⟩
    · exact ⟨_, .unexpected o actual rest long same⟩

theorem expect_eq_iff {r : Except WireError UInt32} (whole : Header.size ≤ size) :
    (expect b event size).map Header.id = r ↔ Opens event size b r := by
  refine ⟨?_, Opens.expect_eq whole⟩
  rintro rfl
  obtain ⟨r, h⟩ := exists_opens whole b
  rwa [h.expect_eq whole]

end Expect

end Answer

/-! ### Sections -/

section Codes

variable {code : UInt8}

theorem code_ne {known bound : UInt8} (unknown : bound ≤ code) (below : known < bound) :
    code ≠ known :=
  (UInt8.ne_of_lt (UInt8.lt_of_lt_of_le below unknown)).symm

theorem SlotState.ofCode_of_unknown (unknown : 3 ≤ code) : ofCode code = .notConnected := by
  rw [ofCode, if_neg (code_ne unknown (by decide)), if_neg (code_ne unknown (by decide))]

theorem DeviceModel.ofCode_of_unknown (unknown : 4 ≤ code) : ofCode code = .notApplicable := by
  rw [ofCode, if_neg (code_ne unknown (by decide)), if_neg (code_ne unknown (by decide)),
    if_neg (code_ne unknown (by decide))]

theorem Connection.ofCode_of_unknown (unknown : 3 ≤ code) : ofCode code = .notApplicable := by
  rw [ofCode, if_neg (code_ne unknown (by decide)), if_neg (code_ne unknown (by decide))]

end Codes

namespace SlotInfo

variable {b : Bytes}

theorem decode_of_short (few : b.length < size) : decode b = .error (.truncated size b.length) := by
  rw [decode, Bytes.require_of_lt few]
  rfl

theorem exists_decode (long : size ≤ b.length) : ∃ s, decode b = .ok s ∧
    s.state = SlotState.ofCode (b.byte 1) ∧ s.model = DeviceModel.ofCode (b.byte 2) ∧
      s.connection = Connection.ofCode (b.byte 3) := by
  rw [decode, Bytes.require_of_le long]
  exact ⟨_, rfl, rfl, rfl, rfl⟩

theorem decode_encode? (s : SlotInfo) {buffer : Bytes} (room : size ≤ buffer.length) :
    ∃ written, s.encode? buffer = some written ∧ decode written = .ok s := by
  refine ⟨buffer.put 0 s.toBytes, ?_, ?_⟩
  · rw [encode?, if_neg (Nat.not_lt.mpr room)]
  · rw [Bytes.put, List.take_zero, List.nil_append, s.decode_toBytes]

/-- What comes of reading a slot section. What is read is written over any buffer with room for it
and read again as the same, also where a byte stood for nothing. -/
structure ReadsAs (b : Bytes) : Prop where
  short : b.length < 12 → decode b = .error (.truncated 12 b.length)
  long : 12 ≤ b.length → ∃ s, decode b = .ok s ∧
    (3 ≤ b.byte 1 → s.state = .notConnected) ∧
    (4 ≤ b.byte 2 → s.model = .notApplicable) ∧
    (3 ≤ b.byte 3 → s.connection = .notApplicable) ∧
    ∀ buffer : Bytes, 12 ≤ buffer.length →
      ∃ written, s.encode? buffer = some written ∧ decode written = .ok s

theorem reads_as (b : Bytes) : ReadsAs b where
  short := decode_of_short
  long long := by
    obtain ⟨s, read, state, model, connection⟩ := exists_decode long
    refine ⟨s, read, ?_, ?_, ?_, fun buffer room => s.decode_encode? room⟩
    · intro unknown
      rw [state, SlotState.ofCode_of_unknown unknown]
    · intro unknown
      rw [model, DeviceModel.ofCode_of_unknown unknown]
    · intro unknown
      rw [connection, Connection.ofCode_of_unknown unknown]

end SlotInfo

theorem Motion.exists_decode {b : Bytes} (long : size ≤ b.length) : ∃ m, decode b = .ok m := by
  rw [decode, Bytes.require_of_le long]
  exact ⟨_, rfl⟩

/-! ### The readers -/

namespace Answer

section Readers

variable (b : Bytes)

theorem decodeVersion_id :
    (decodeVersion b).map Prod.fst = (expect b .version versionSize).map Header.id := by
  rw [decodeVersion]
  cases expect b .version versionSize <;> rfl

theorem decodeInfo_id :
    (decodeInfo b).map Prod.fst = (expect b .info infoSize).map Header.id := by
  rw [decodeInfo]
  cases read : expect b .info infoSize with
  | error cause => rfl
  | ok header =>
    have long := le_length_of_expect read
    have slot_long : SlotInfo.size ≤ (b.drop Header.size).length := by
      rw [List.length_drop]
      exact Nat.le_sub_of_add_le' long
    obtain ⟨slot, slot_read, -⟩ := SlotInfo.exists_decode slot_long
    simp only [bind, Except.bind, slot_read]
    rfl

theorem decodeData_id :
    (decodeData b).map DataView.id = (expect b .data dataSize).map Header.id := by
  rw [decodeData]
  cases read : expect b .data dataSize with
  | error cause => rfl
  | ok header =>
    have long := le_length_of_expect read
    have slot_long : SlotInfo.size ≤ (b.drop Header.size).length := by
      simp only [List.length_drop, dataSize, SlotInfo.size, Header.size] at *
      omega
    have motion_long : Motion.size ≤ (b.drop motionOffset).length := by
      simp only [List.length_drop, dataSize, Motion.size, motionOffset] at *
      omega
    obtain ⟨slot, slot_read, -⟩ := SlotInfo.exists_decode slot_long
    obtain ⟨motion, motion_read⟩ := Motion.exists_decode motion_long
    simp only [bind, Except.bind, slot_read, motion_read]
    rfl

end Readers

/-- What the readers of answers make of a byte string. -/
structure ReadsAs (b : Bytes) : Prop where
  version : ∀ r, (decodeVersion b).map Prod.fst = r ↔ Opens .version 22 b r
  info : ∀ r, (decodeInfo b).map Prod.fst = r ↔ Opens .info 32 b r
  data : ∀ r, (decodeData b).map DataView.id = r ↔ Opens .data 100 b r

theorem reads_as (b : Bytes) : ReadsAs b where
  version r := decodeVersion_id b ▸ expect_eq_iff (by decide)
  info r := decodeInfo_id b ▸ expect_eq_iff (by decide)
  data r := decodeData_id b ▸ expect_eq_iff (by decide)

/-- Version and slot answers are written over the start of any buffer that has room for them, and
read back. What a reader makes of other bytes is told by their start, and slot sections settle after
one reading. -/
theorem answers_read_back (id : UInt32) (slot : SlotInfo) :
    (∃ packet, Writes 22 (encodeVersion id) (InPlace.version id) decodeVersion (id, 1001) packet) ∧
    (∃ packet, Writes 32 (encodeInfo id slot) (InPlace.info id slot) decodeInfo (id, slot) packet) ∧
    (∀ b, ReadsAs b) ∧ ∀ b, SlotInfo.ReadsAs b :=
  ⟨⟨_, writes_version id⟩, ⟨_, writes_info id slot⟩, reads_as, SlotInfo.reads_as⟩

end Answer

end MotionCast
