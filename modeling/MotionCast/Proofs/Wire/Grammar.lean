import MotionCast.Proofs.Wire.Fields
import MotionCast.Wire.Request

/-! The grammar of requests. `Reads` says of every byte string what it says as a request: each of
its rules cuts the string into fields and makes the request of these fields, so that nothing past
the end is read. Reading a packet comes to exactly what the grammar says. -/

namespace MotionCast

/-- The magic, the eight unread bytes and the id that start the packet of either side. -/
structure Opening where
  magic : Block 4
  known : magic = Header.clientMagic ∨ magic = Header.serverMagic
  /-- The version, the length and the checksum. -/
  unread : Block 8
  id : UInt32

/-- The first twenty bytes of a packet, with the number of an event. -/
def Opening.toBytes (o : Opening) (code : UInt32) : Bytes :=
  o.magic.bytes ++ (o.unread.bytes ++ (Bytes.ofWord32 o.id ++ Bytes.ofWord32 code))

@[simp] theorem Opening.length_toBytes (o : Opening) (code : UInt32) :
    (o.toBytes code).length = 20 := by
  simp [toBytes]

namespace Request

/-- What a byte string says as a request. -/
inductive Reads : Bytes → Except WireError Request → Prop where
  | short (b : Bytes) (few : b.length < 20) : Reads b (.error (.truncated 20 b.length))
  | stranger (magic : Block 4) (rest : Bytes) (long : 20 ≤ (magic.bytes ++ rest).length)
    (unknown : ¬(magic = Header.clientMagic ∨ magic = Header.serverMagic)) :
    Reads (magic.bytes ++ rest) (.error (.invalidMagic magic))
  | unknown (o : Opening) (code : UInt32) (rest : Bytes)
    (none : code ≠ 0x100000 ∧ code ≠ 0x100001 ∧ code ≠ 0x100002) :
    Reads (o.toBytes code ++ rest) (.error (.unknownEventType code))
  | version (o : Opening) (rest : Bytes) :
    Reads (o.toBytes 0x100000 ++ rest) (.ok (.version o.id))
  | uncounted (o : Opening) (rest : Bytes) (few : rest.length < 4) :
    Reads (o.toBytes 0x100001 ++ rest) (.error (.truncated 24 (20 + rest.length)))
  /-- The slots are as many as the count says, but not fewer than none, and not more than four or
  than the bytes that are there. -/
  | info (o : Opening) (count : UInt32) (slots rest : Bytes)
    (all : (slots.length : Int) =
      min (max count.toInt32.toInt 0) (min 4 (slots.length + rest.length))) :
    Reads (o.toBytes 0x100001 ++ (Bytes.ofWord32 count ++ (slots ++ rest))) (.ok (.info o.id slots))
  | bare (o : Opening) :
    Reads (o.toBytes 0x100002) (.ok (.data o.id { mask := 0, slot := 0, mac := Block.zero 6 }))
  | masked (o : Opening) (mask : UInt8) :
    Reads (o.toBytes 0x100002 ++ [mask]) (.ok (.data o.id { mask, slot := 0, mac := Block.zero 6 }))
  | slotted (o : Opening) (mask slot : UInt8) (rest : Bytes) (few : rest.length < 6) :
    Reads (o.toBytes 0x100002 ++ mask :: slot :: rest)
      (.ok (.data o.id { mask, slot, mac := Block.zero 6 }))
  | addressed (o : Opening) (mask slot : UInt8) (mac : Block 6) (rest : Bytes) :
    Reads (o.toBytes 0x100002 ++ mask :: slot :: (mac.bytes ++ rest))
      (.ok (.data o.id { mask, slot, mac }))

end Request

/-! ### Cutting a packet -/

theorem Block.exists_append {n : Nat} {b : Bytes} (long : n ≤ b.length) :
    ∃ (block : Block n) (rest : Bytes), b = block.bytes ++ rest := by
  refine ⟨⟨b.take n, ?_⟩, b.drop n, (List.take_append_drop n b).symm⟩
  rw [List.length_take]
  omega

theorem Bytes.exists_word32_append {b : Bytes} (long : 4 ≤ b.length) :
    ∃ (w : UInt32) (rest : Bytes), b = ofWord32 w ++ rest := by
  refine ⟨b.word32 0, b.drop 4, ?_⟩
  rw [ofWord32_word32, window_eq (by omega), List.drop_zero, List.take_append_drop]

theorem Opening.exists_append {b : Bytes} (long : 20 ≤ b.length) :
    (∃ (magic : Block 4) (rest : Bytes), b = magic.bytes ++ rest ∧
      ¬(magic = Header.clientMagic ∨ magic = Header.serverMagic)) ∨
    ∃ (o : Opening) (code : UInt32) (rest : Bytes), b = o.toBytes code ++ rest := by
  obtain ⟨magic, rest, rfl⟩ := Block.exists_append (n := 4) (by omega : 4 ≤ b.length)
  by_cases known : magic = Header.clientMagic ∨ magic = Header.serverMagic
  · rw [List.length_append, Block.length_bytes] at long
    obtain ⟨unread, rest, rfl⟩ := Block.exists_append (n := 8) (by omega : 8 ≤ rest.length)
    rw [List.length_append, Block.length_bytes] at long
    obtain ⟨id, rest, rfl⟩ := Bytes.exists_word32_append (by omega : 4 ≤ rest.length)
    rw [List.length_append, Bytes.length_ofWord32] at long
    obtain ⟨code, rest, rfl⟩ := Bytes.exists_word32_append (by omega : 4 ≤ rest.length)
    refine .inr ⟨⟨magic, known, unread, id⟩, code, rest, ?_⟩
    simp [toBytes]
  · exact .inl ⟨magic, rest, rfl, known⟩

/-! ### Reading each form -/

namespace Header

theorem decode_short {b : Bytes} (few : b.length < size) :
    decode b = .error (.truncated size b.length) := by
  rw [decode, Bytes.require_of_lt few]
  rfl

theorem decode_stranger {magic : Block 4} {rest : Bytes}
    (long : size ≤ (magic.bytes ++ rest).length)
    (unknown : ¬(magic = clientMagic ∨ magic = serverMagic)) :
    decode (magic.bytes ++ rest) = .error (.invalidMagic magic) := by
  rw [not_or] at unknown
  rw [decode, Bytes.require_of_le long]
  simp only [Bytes.block_ofBytes, if_pos unknown]
  rfl

theorem decode_opening (o : Opening) (code : UInt32) (rest : Bytes) :
    (EventType.ofCode? code = none →
      decode (o.toBytes code ++ rest) = .error (.unknownEventType code)) ∧
    ∀ event, EventType.ofCode? code = some event → ∃ header, header.magic = o.magic ∧
      header.id = o.id ∧ header.event = event ∧ decode (o.toBytes code ++ rest) = .ok header := by
  have long : (o.toBytes code ++ rest).require size = .ok () :=
    Bytes.require_append (o.length_toBytes code) rest
  have magic : Block.ofBytes 4 (o.toBytes code ++ rest) 0 = o.magic := by simp [Opening.toBytes]
  have id : (o.toBytes code ++ rest).word32 idOffset = o.id := by simp [Opening.toBytes, idOffset]
  have number : (o.toBytes code ++ rest).word32 16 = code := by simp [Opening.toBytes]
  have accepted : ¬(o.magic ≠ clientMagic ∧ o.magic ≠ serverMagic) := by
    rintro ⟨client, server⟩
    exact o.known.elim client server
  constructor
  · intro none
    simp only [decode, long, magic, number, none, if_neg accepted]
    rfl
  · intro event some
    simp only [decode, long, magic, id, number, some, if_neg accepted]
    exact ⟨_, rfl, rfl, rfl, rfl⟩

/-- The magic of a header that is read is one of the two. -/
theorem magic_of_decode {b : Bytes} {h : Header} (read : decode b = .ok h) :
    h.magic.bytes = b.take 4 ∧ (h.magic = clientMagic ∨ h.magic = serverMagic) := by
  by_cases few : b.length < size
  · rw [decode_short few] at read
    contradiction
  rcases Opening.exists_append (Nat.not_lt.mp few) with
    ⟨magic, rest, rfl, unknown⟩ | ⟨o, code, rest, rfl⟩
  · rw [decode_stranger (Nat.not_lt.mp few) unknown] at read
    contradiction
  cases known : EventType.ofCode? code with
  | none =>
    rw [(decode_opening o code rest).1 known] at read
    contradiction
  | some event =>
    obtain ⟨header, magic, -, -, there⟩ := (decode_opening o code rest).2 event known
    rw [there] at read
    obtain rfl := Except.ok.inj read
    rw [magic]
    exact ⟨by simp [Opening.toBytes], o.known⟩

end Header

theorem EventType.ofCode?_eq_some {code : UInt32} {event : EventType}
    (h : ofCode? code = some event) : code = event.code := by
  simp only [ofCode?] at h
  repeat' split at h
  all_goals simp_all [EventType.code]
  all_goals subst h; rfl

theorem EventType.ofCode?_eq_none {code : UInt32} :
    ofCode? code = none ↔ code ≠ 0x100000 ∧ code ≠ 0x100001 ∧ code ≠ 0x100002 := by
  simp only [ofCode?]
  repeat' split
  all_goals simp_all

namespace Request

theorem decode_of_error {b : Bytes} {cause : WireError} (h : Header.decode b = .error cause) :
    decode b = .error cause := by
  rw [decode, h]
  rfl

section Forms

variable (o : Opening) (rest : Bytes)

theorem decode_version :
    decode (o.toBytes EventType.version.code ++ rest) = .ok (.version o.id) := by
  obtain ⟨header, -, id, event, h⟩ :=
    (Header.decode_opening o _ rest).2 .version (EventType.ofCode?_code _)
  rw [decode, h, ← id]
  simp only [bind, Except.bind, event]
  rfl

theorem decode_uncounted (few : rest.length < 4) :
    decode (o.toBytes EventType.info.code ++ rest) =
      .error (.truncated 24 (20 + rest.length)) := by
  obtain ⟨header, -, -, event, h⟩ :=
    (Header.decode_opening o _ rest).2 .info (EventType.ofCode?_code _)
  have length : (o.toBytes EventType.info.code ++ rest).length = 20 + rest.length := by simp
  have short : (o.toBytes EventType.info.code ++ rest).require (Header.size + 4) =
      .error (.truncated 24 (20 + rest.length)) := by
    rw [Bytes.require_of_lt (by rw [length, Header.size]; omega), length]
    rfl
  rw [decode, h]
  simp only [bind, Except.bind, event, short]

theorem decode_info (count : UInt32) (slots : Bytes)
    (all : (slots.length : Int) =
      min (max count.toInt32.toInt 0) (min 4 (slots.length + rest.length))) :
    decode (o.toBytes EventType.info.code ++ (Bytes.ofWord32 count ++ (slots ++ rest))) =
      .ok (.info o.id slots) := by
  generalize hb : o.toBytes EventType.info.code ++ (Bytes.ofWord32 count ++ (slots ++ rest)) = b
  obtain ⟨header, -, id, event, h⟩ :=
    (Header.decode_opening o _ (Bytes.ofWord32 count ++ (slots ++ rest))).2 .info
      (EventType.ofCode?_code _)
  have length : b.length = 24 + (slots.length + rest.length) := by
    simp [← hb]
    omega
  have long : b.require (Header.size + 4) = .ok () :=
    Bytes.require_of_le (by rw [length, Header.size]; omega)
  have number : b.word32 20 = count := by simp [← hb]
  have taken : b.window 24 slots.length = slots := by
    rw [← hb, Bytes.window_append_right (by simp), Bytes.window_append_right (by simp)]
    simpa using Bytes.window_append_left (v := slots) rfl
  have counted : slotCount count.toInt32 (b.length - 24) = slots.length := by
    rw [slotCount, maxSlots, length]
    omega
  rw [hb] at h
  rw [decode, h, ← id]
  simp only [bind, Except.bind, event, long, number, counted, taken]
  rfl

theorem decode_data :
    decode (o.toBytes EventType.data.code ++ rest) = .ok (.data o.id {
      mask := rest.byte 0
      slot := rest.byte 1
      mac := if 8 ≤ rest.length then Block.ofBytes 6 rest 2 else Block.zero 6 }) := by
  obtain ⟨header, -, id, event, h⟩ :=
    (Header.decode_opening o _ rest).2 .data (EventType.ofCode?_code _)
  have mask : (o.toBytes EventType.data.code ++ rest).byte 20 = rest.byte 0 := by simp
  have slot : (o.toBytes EventType.data.code ++ rest).byte 21 = rest.byte 1 := by simp
  have mac : Block.ofBytes 6 (o.toBytes EventType.data.code ++ rest) 22 =
      Block.ofBytes 6 rest 2 := by simp
  have long : (o.toBytes EventType.data.code ++ rest).length ≥ dataSize ↔ 8 ≤ rest.length := by
    simp only [List.length_append, Opening.length_toBytes, dataSize, Header.size]
    omega
  rw [decode, h, ← id]
  simp only [bind, Except.bind, event, mask, slot, mac, long]
  rfl

end Forms

/-! ### The grammar -/

theorem Reads.decode_eq {b : Bytes} {r : Except WireError Request} (h : Reads b r) :
    decode b = r := by
  cases h with
  | short b few => exact decode_of_error (Header.decode_short few)
  | stranger magic rest long unknown =>
    exact decode_of_error (Header.decode_stranger long unknown)
  | unknown o code rest none =>
    exact decode_of_error ((Header.decode_opening o code rest).1 (EventType.ofCode?_eq_none.mpr none))
  | version o rest => exact decode_version o rest
  | uncounted o rest few => exact decode_uncounted o rest few
  | info o count slots rest all => exact decode_info o rest count slots all
  | bare o =>
    have read := decode_data o []
    rwa [List.append_nil] at read
  | masked o mask => exact decode_data o [mask]
  | slotted o mask slot rest few =>
    have short : ¬8 ≤ (mask :: slot :: rest).length := by
      simp only [List.length_cons]
      omega
    have read := decode_data o (mask :: slot :: rest)
    rwa [if_neg short] at read
  | addressed o mask slot mac rest =>
    have long : 8 ≤ (mask :: slot :: (mac.bytes ++ rest)).length := by simp
    have block : Block.ofBytes 6 ([mask, slot] ++ (mac.bytes ++ rest)) 2 = mac := by
      rw [Bytes.block_append_right (Nat.le_refl 2)]
      exact Bytes.block_ofBytes mac
    rw [List.cons_append, List.singleton_append] at block
    have read := decode_data o (mask :: slot :: (mac.bytes ++ rest))
    rwa [if_pos long, block] at read

theorem exists_slots (count : UInt32) (b : Bytes) :
    ∃ slots rest : Bytes, b = slots ++ rest ∧
      (slots.length : Int) = min (max count.toInt32.toInt 0) (min 4 (slots.length + rest.length)) := by
  refine ⟨b.take (slotCount count.toInt32 b.length), b.drop (slotCount count.toInt32 b.length),
    (List.take_append_drop _ b).symm, ?_⟩
  simp only [List.length_take, List.length_drop, slotCount, maxSlots]
  omega

theorem exists_reads_data (o : Opening) (rest : Bytes) :
    ∃ r, Reads (o.toBytes 0x100002 ++ rest) r := by
  rcases rest with _ | ⟨mask, _ | ⟨slot, rest⟩⟩
  · rw [List.append_nil]
    exact ⟨_, .bare o⟩
  · exact ⟨_, .masked o mask⟩
  · by_cases few : rest.length < 6
    · exact ⟨_, .slotted o mask slot rest few⟩
    · obtain ⟨mac, rest, rfl⟩ := Block.exists_append (Nat.not_lt.mp few)
      exact ⟨_, .addressed o mask slot mac rest⟩

/-- Every byte string says something as a request. -/
theorem exists_reads (b : Bytes) : ∃ r, Reads b r := by
  by_cases few : b.length < 20
  · exact ⟨_, .short b few⟩
  rcases Opening.exists_append (Nat.not_lt.mp few) with
    ⟨magic, rest, rfl, unknown⟩ | ⟨o, code, rest, rfl⟩
  · exact ⟨_, .stranger magic rest (Nat.not_lt.mp few) unknown⟩
  cases known : EventType.ofCode? code with
  | none => exact ⟨_, .unknown o code rest (EventType.ofCode?_eq_none.mp known)⟩
  | some event =>
    rw [EventType.ofCode?_eq_some known]
    cases event with
    | version => exact ⟨_, .version o rest⟩
    | data => exact exists_reads_data o rest
    | info =>
      by_cases counted : 4 ≤ rest.length
      · obtain ⟨count, rest, rfl⟩ := Bytes.exists_word32_append counted
        obtain ⟨slots, rest, rfl, all⟩ := exists_slots count rest
        exact ⟨_, .info o count slots rest all⟩
      · exact ⟨_, .uncounted o rest (Nat.not_le.mp counted)⟩

theorem decode_eq_iff {b : Bytes} {r : Except WireError Request} : decode b = r ↔ Reads b r := by
  refine ⟨?_, Reads.decode_eq⟩
  rintro rfl
  obtain ⟨r, h⟩ := exists_reads b
  rwa [h.decode_eq]

theorem length_slots_le {b slots : Bytes} {id : UInt32} (h : decode b = .ok (.info id slots)) :
    slots.length ≤ maxSlots := by
  cases decode_eq_iff.mp h with
  | info o count slots rest all =>
    rw [maxSlots]
    omega

end Request

/-! ### Reading only what is there -/

/-- The bytes of a window, if all of them are there. -/
def Bytes.window? (b : Bytes) (offset count : Nat) : Option Bytes :=
  if offset + count ≤ b.length then some (b.window offset count) else none

/-- The block at an offset, if all of it is there. -/
def Block.ofBytes? (n : Nat) (b : Bytes) (offset : Nat) : Option (Block n) :=
  if offset + n ≤ b.length then some (Block.ofBytes n b offset) else none

/-- Reads a header as `decode` does, but has no result when it reads a byte that is not there. -/
def Header.decode? (b : Bytes) : Option (Except WireError Header) := do
  if b.length < size then return .error (.truncated size b.length)
  let magic ← Block.ofBytes? 4 b 0
  if magic ≠ clientMagic ∧ magic ≠ serverMagic then return .error (.invalidMagic magic)
  let code := UInt32.ofNat (← b.window? 16 4).toNat
  match EventType.ofCode? code with
  | none => return .error (.unknownEventType code)
  | some event =>
    return .ok {
      magic
      version := UInt16.ofNat (← b.window? 4 2).toNat
      length := UInt16.ofNat (← b.window? 6 2).toNat
      checksum := UInt32.ofNat (← b.window? 8 4).toNat
      id := UInt32.ofNat (← b.window? idOffset 4).toNat
      event }

/-- Reads a request as `decode` does, but has no result when it reads a byte that is not there. Only
the mask and the slot of a subscription are looked up and may be missing. -/
def Request.decode? (b : Bytes) : Option (Except WireError Request) := do
  match ← Header.decode? b with
  | .error cause => return .error cause
  | .ok header =>
    match header.event with
    | .version => return .ok (.version header.id)
    | .info =>
      if b.length < Header.size + 4 then return .error (.truncated (Header.size + 4) b.length)
      let count := slotCount (UInt32.ofNat (← b.window? 20 4).toNat).toInt32 (b.length - 24)
      return .ok (.info header.id (← b.window? 24 count))
    | .data =>
      let mac ← if dataSize ≤ b.length then Block.ofBytes? 6 b 22 else some (Block.zero 6)
      return .ok (.data header.id { mask := b[20]?.getD 0, slot := b[21]?.getD 0, mac })

theorem Bytes.window?_eq {b : Bytes} {offset count : Nat} (there : offset + count ≤ b.length) :
    b.window? offset count = some (b.window offset count) := if_pos there

theorem Block.ofBytes?_eq {n : Nat} {b : Bytes} {offset : Nat} (there : offset + n ≤ b.length) :
    Block.ofBytes? n b offset = some (Block.ofBytes n b offset) := if_pos there

theorem Header.decode?_eq (b : Bytes) : decode? b = some (decode b) := by
  by_cases few : b.length < size
  · rw [decode?, if_pos few, decode_short few]
    rfl
  have long : size ≤ b.length := Nat.not_lt.mp few
  have magic : Block.ofBytes? 4 b 0 = some (Block.ofBytes 4 b 0) :=
    Block.ofBytes?_eq (Nat.le_trans (by decide) long)
  have window (offset count : Nat) (inside : offset + count ≤ size) :
      b.window? offset count = some (b.window offset count) :=
    Bytes.window?_eq (Nat.le_trans inside long)
  simp only [decode?, decode, if_neg few, Bytes.require_of_le long, magic, window 4 2 (by decide),
    window 6 2 (by decide), window 8 4 (by decide), window idOffset 4 (by decide),
    window 16 4 (by decide), bind, Option.bind_some, Except.bind, Bytes.word32, Bytes.word16]
  split
  · rfl
  · cases EventType.ofCode? (UInt32.ofNat (b.window 16 4).toNat) <;> rfl

theorem Request.decode?_eq (b : Bytes) : decode? b = some (decode b) := by
  rw [decode?, Header.decode?_eq, decode]
  cases read : Header.decode b with
  | error cause => rfl
  | ok header =>
    simp only [bind, Option.bind_some, Except.bind]
    cases header.event with
    | version => rfl
    | info =>
      by_cases few : b.length < Header.size + 4
      · simp only [if_pos few, Bytes.require_of_lt few]
        rfl
      have long : 20 + 4 ≤ b.length := Nat.not_lt.mp few
      have slots : 24 + slotCount (b.word32 20).toInt32 (b.length - 24) ≤ b.length := by
        rw [slotCount]
        omega
      have enough : b.require (Header.size + 4) = .ok () := Bytes.require_of_le long
      rw [Bytes.word32] at slots
      simp only [if_neg few, enough, Bytes.window?_eq long, Option.bind_some,
        Bytes.window?_eq slots, Bytes.word32]
      rfl
    | data =>
      have mask : b[20]?.getD 0 = b.byte 20 := (List.getD_eq_getElem?_getD ..).symm
      have slot : b[21]?.getD 0 = b.byte 21 := (List.getD_eq_getElem?_getD ..).symm
      by_cases long : dataSize ≤ b.length
      · simp only [if_pos long, Block.ofBytes?_eq (show 22 + 6 ≤ b.length from long),
          Option.bind_some, mask, slot]
        rfl
      · simp only [if_neg long, mask, slot]
        rfl

/-! ### What is not read -/

namespace Request

theorem decode_unread (o : Opening) (unread : Block 8) (code : UInt32) (rest : Bytes) :
    decode (({ o with unread } : Opening).toBytes code ++ rest) =
      decode (o.toBytes code ++ rest) := by
  cases known : EventType.ofCode? code with
  | none =>
    rw [decode_of_error ((Header.decode_opening _ code rest).1 known),
      decode_of_error ((Header.decode_opening _ code rest).1 known)]
  | some event =>
    obtain ⟨header, -, id, is, h⟩ := (Header.decode_opening o code rest).2 event known
    obtain ⟨header', -, id', is', h'⟩ :=
      (Header.decode_opening { o with unread } code rest).2 event known
    rw [decode, h', decode, h]
    simp only [bind, Except.bind, id, is, id', is']
    cases event <;> simp [Bytes.require, Bytes.window_append_right]

theorem decode_congr {b c : Bytes} (same : c.length = b.length) (start : c.take 4 = b.take 4)
    (rest : c.drop 12 = b.drop 12) : decode c = decode b := by
  by_cases few : b.length < 20
  · rw [decode_of_error (Header.decode_short few), decode_of_error (Header.decode_short (same ▸ few)),
      same]
  have cut : c = c.take 4 ++ ((c.drop 4).take 8 ++ c.drop 12) := by
    rw [show 12 = 4 + 8 from rfl, ← List.drop_drop, List.take_append_drop, List.take_append_drop]
  have long : 20 ≤ c.length := same ▸ Nat.not_lt.mp few
  rw [start, rest] at cut
  rcases Opening.exists_append (Nat.not_lt.mp few) with
    ⟨magic, tail, rfl, unknown⟩ | ⟨o, code, tail, rfl⟩
  · rw [List.take_left' magic.length_eq] at cut
    rw [cut] at long ⊢
    rw [decode_of_error (Header.decode_stranger long unknown),
      decode_of_error (Header.decode_stranger (Nat.not_lt.mp few) unknown)]
  · have unread : ((c.drop 4).take 8).length = 8 := by
      rw [List.length_take, List.length_drop]
      omega
    rw [← decode_unread o ⟨(c.drop 4).take 8, unread⟩ code tail]
    have magic : (o.toBytes code ++ tail).take 4 = o.magic.bytes := by
      simp [Opening.toBytes]
    have fields : (o.toBytes code ++ tail).drop 12 =
        Bytes.ofWord32 o.id ++ (Bytes.ofWord32 code ++ tail) := by
      simp [Opening.toBytes, List.drop_append]
    rw [magic, fields] at cut
    congr 1
    simpa [Opening.toBytes] using cut

end Request

/-- Reading a request comes to what the grammar says, reads no byte that is not there, and does not
depend on the eight bytes after the magic. -/
theorem Request.decode_grammar (b : Bytes) :
    (∀ r, decode b = r ↔ Reads b r) ∧ decode? b = some (decode b) ∧
    ∀ c : Bytes, c.length = b.length → c.take 4 = b.take 4 → c.drop 12 = b.drop 12 →
      decode c = decode b :=
  ⟨fun _ => decode_eq_iff, decode?_eq b, fun _ => decode_congr⟩

/-- A question about more slots than there may be, whose unread bytes change. -/
theorem Request.decode_grammar_of_clamped :
    let o : Opening := ⟨Header.clientMagic, .inl rfl, Block.zero 8, 9⟩
    let b := o.toBytes 0x100001 ++ (Bytes.ofWord32 100 ++ ([0, 1, 2, 3] ++ [4, 5]))
    let c := b.put 4 [1, 2, 3, 4, 5, 6, 7, 8]
    (c.length = b.length ∧ c.take 4 = b.take 4 ∧ c.drop 12 = b.drop 12) ∧
      Reads b (.ok (.info 9 [0, 1, 2, 3])) ∧ decode? b = some (.ok (.info 9 [0, 1, 2, 3])) ∧
      decode c = .ok (.info 9 [0, 1, 2, 3]) := by
  intro o b c
  have same : c.length = b.length := by decide
  have start : c.take 4 = b.take 4 := by decide
  have rest : c.drop 12 = b.drop 12 := by decide
  have reads : Reads b (.ok (.info 9 [0, 1, 2, 3])) :=
    .info o 100 [0, 1, 2, 3] [4, 5] (by decide)
  obtain ⟨grammar, checked, unread⟩ := decode_grammar b
  have read := (grammar _).mpr reads
  exact ⟨⟨same, start, rest⟩, reads, checked.trans (congrArg some read),
    (unread c same start rest).trans read⟩

end MotionCast
