import MotionCast.Proofs.Wire.Grammar
import MotionCast.Proofs.Wire.Sealing

/-! The packets of requests are read back. A packet is the opening of a client followed by what is
asked for, so that what it says is found in the grammar. It holds its own checksum, and its header
counts the bytes that follow the first sixteen as long as sixteen bits can count them. -/

namespace MotionCast

/-- A header with either magic is an opening with the number of its event. -/
theorem Header.exists_opening (h : Header) (known : h.magic = clientMagic ∨ h.magic = serverMagic) :
    ∃ o : Opening, o.id = h.id ∧ h.toBytes = o.toBytes h.event.code := by
  refine ⟨⟨h.magic, known, ⟨Bytes.ofWord16 h.version ++ (Bytes.ofWord16 h.length ++
    Bytes.ofWord32 h.checksum), by simp⟩, h.id⟩, rfl, ?_⟩
  simp [toBytes, Opening.toBytes]

theorem Header.toNat_length_client (event : EventType) (id : UInt32) {total : Nat}
    (least : 16 ≤ total) (most : total < 65552) :
    (client event id total).length.toNat = total - 16 := by
  show (UInt16.ofNat total - 16).toNat = total - 16
  rw [UInt16.toNat_sub, UInt16.toNat_ofNat']
  simp only [UInt16.reduceToNat]
  omega

/-- Four bytes hold the number of slots that a request asks about. -/
theorem Bytes.ofNat_eq_ofWord32 {n : Nat} (fits : n < 2 ^ 32) :
    ofNat 4 n = ofWord32 (UInt32.ofNat n) := by
  rw [ofWord32, UInt32.toNat_ofNat_of_lt' fits]

namespace Request

variable (r : Request)

@[simp] theorem length_encode : r.encode.length = Header.size + r.payload.length := by
  simp [encode]

theorem verify_encode : Packet.verify r.encode = true := by
  apply Packet.verify_sealed
  rw [List.length_append, Header.length_toBytes, Header.size, Packet.checksumEnd,
    Packet.checksumOffset]
  omega

theorem exists_header_encode : ∃ header : Header, header.magic = Header.clientMagic ∧
    header.length = (Header.client r.event r.id r.encode.length).length ∧
    header.id = r.id ∧ header.event = r.event ∧ r.encode = header.toBytes ++ r.payload := by
  obtain ⟨sum, filled⟩ := Packet.sealed_header
    (Header.client r.event r.id (Header.size + r.payload.length)) r.payload
  refine ⟨_, rfl, ?_, rfl, rfl, filled 0⟩
  rw [length_encode]

theorem exists_opening_encode : ∃ o : Opening, o.id = r.id ∧
    r.encode = o.toBytes r.event.code ++ r.payload := by
  obtain ⟨header, magic, -, id, event, whole⟩ := r.exists_header_encode
  obtain ⟨o, same, opening⟩ := header.exists_opening (.inl magic)
  refine ⟨o, same.trans id, ?_⟩
  rw [whole, opening, event]

theorem take_encode : r.encode.take 4 = Header.clientMagic.bytes := by
  obtain ⟨header, magic, -, -, -, whole⟩ := r.exists_header_encode
  rw [whole, Header.toBytes]
  simp [magic]

theorem word16_encode (short : r.encode.length < 65552) :
    (r.encode.word16 6).toNat = r.encode.length - 16 := by
  obtain ⟨header, -, length, -, -, whole⟩ := r.exists_header_encode
  have least : 16 ≤ r.encode.length := by
    rw [length_encode, Header.size]
    omega
  have field : r.encode.word16 6 = header.length := by
    rw [whole]
    simp [Header.toBytes]
  rw [field, length, Header.toNat_length_client _ _ least short]

/-- A packet may be sealed before its payload is written, as long as it is sealed again after. -/
theorem encode_of_sealed_early (old : Bytes) (same : old.length = r.payload.length) :
    r.encode = Packet.sealed ((Packet.sealed
      ((Header.client r.event r.id (Header.size + r.payload.length)).toBytes ++ old)).put
        Header.size r.payload) := by
  obtain ⟨early, before⟩ := Packet.sealed_header
    (Header.client r.event r.id (Header.size + r.payload.length)) old
  obtain ⟨sum, after⟩ := Packet.sealed_header
    (Header.client r.event r.id (Header.size + r.payload.length)) r.payload
  have first := before 0
  have last := after 0
  rw [encode]
  show Packet.sealed ({ Header.client r.event r.id _ with checksum := 0 }.toBytes ++ _) =
    Packet.sealed ((Packet.sealed
      ({ Header.client r.event r.id _ with checksum := 0 }.toBytes ++ old)).put _ _)
  rw [first, Bytes.put_append_right (Nat.le_of_eq (Header.length_toBytes _)),
    Header.length_toBytes, Nat.sub_self, ← List.append_nil old, Bytes.put_append_left same,
    List.append_nil, after early, last]

/-! ### Reading back -/

theorem reads_encode_version (id : UInt32) : Reads (version id).encode (.ok (version id)) := by
  obtain ⟨o, same, whole⟩ := (version id).exists_opening_encode
  obtain rfl : o.id = id := same
  rw [whole]
  exact .version o []

/-- The count of a request is not negative, so that only the limit cuts its slots. -/
theorem reads_encode_info (id : UInt32) {slots : Bytes} (counted : slots.length < 2 ^ 31) :
    Reads (info id slots).encode (.ok (info id (slots.take maxSlots))) := by
  obtain ⟨o, same, whole⟩ := (info id slots).exists_opening_encode
  obtain rfl : o.id = id := same
  have count : Bytes.ofNat 4 slots.length = Bytes.ofWord32 (UInt32.ofNat slots.length) :=
    Bytes.ofNat_eq_ofWord32 (by omega)
  have signed : (UInt32.ofNat slots.length).toInt32.toInt = slots.length := by
    rw [UInt32.toInt32_ofNat', Int32.toInt_ofNat_of_lt counted]
  have all : ((slots.take maxSlots).length : Int) =
      min (max (UInt32.ofNat slots.length).toInt32.toInt 0)
        (min 4 ((slots.take maxSlots).length + (slots.drop maxSlots).length)) := by
    rw [signed, List.length_take, List.length_drop, maxSlots]
    omega
  have reads := Reads.info o _ (slots.take maxSlots) (slots.drop maxSlots) all
  rw [List.take_append_drop, ← count] at reads
  rw [whole]
  exact reads

theorem reads_encode_data (id : UInt32) (s : Subscription) :
    Reads (data id s).encode (.ok (data id s)) := by
  obtain ⟨o, same, whole⟩ := (data id s).exists_opening_encode
  obtain rfl : o.id = id := same
  rw [whole, payload, List.cons_append, List.singleton_append, ← List.append_nil s.mac.bytes]
  exact .addressed o s.mask s.slot s.mac []

/-- A request is read back from its packet, but of the slots that it asks about no more than the
first four. The packet holds its own checksum and starts with the magic of a client. -/
theorem requests_read_back (id : UInt32) (slots : Bytes) (counted : slots.length < 2 ^ 31)
    (s : Subscription) :
    decode (version id).encode = .ok (version id) ∧
    decode (info id slots).encode = .ok (info id (slots.take 4)) ∧
    decode (data id s).encode = .ok (data id s) ∧
    ∀ r ∈ [version id, info id slots, data id s],
      Packet.verify r.encode = true ∧ r.encode.take 4 = [0x44, 0x53, 0x55, 0x43] ∧
      (r.encode.length < 65552 → (r.encode.word16 6).toNat = r.encode.length - 16) := by
  refine ⟨(reads_encode_version id).decode_eq, (reads_encode_info id counted).decode_eq,
    (reads_encode_data id s).decode_eq, ?_⟩
  intro r _
  exact ⟨r.verify_encode, r.take_encode, r.word16_encode⟩

/-- A question about more slots than there may be, and a subscription with a full address. -/
theorem requests_read_back_beyond_limit :
    let slots : Bytes := [3, 3, 0, 2, 1, 0]
    let s : Subscription := { mask := 3, slot := 2, mac := ⟨[1, 2, 3, 4, 5, 6], rfl⟩ }
    slots.length < 2 ^ 31 ∧
      decode (version 0xFFFFFFFF).encode = .ok (version 0xFFFFFFFF) ∧
      decode (info 7 slots).encode = .ok (info 7 [3, 3, 0, 2]) ∧
      decode (data 7 s).encode = .ok (data 7 s) ∧
      (info 7 slots).encode.length < 65552 ∧ ((info 7 slots).encode.word16 6).toNat = 14 := by
  intro slots s
  have counted : slots.length < 2 ^ 31 := by decide
  have short : (info 7 slots).encode.length < 65552 := by
    rw [length_encode]
    decide
  obtain ⟨-, info, data, packets⟩ := requests_read_back 7 slots counted s
  obtain ⟨version, -⟩ := requests_read_back 0xFFFFFFFF slots counted s
  have length := (packets (.info 7 slots) (by simp)).2.2 short
  rw [length_encode] at length
  exact ⟨counted, version, info, data, short, length⟩

end Request

end MotionCast
