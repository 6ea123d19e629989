import MotionCast.Proofs.Wire.Corruption

/-! The checksum of a packet is the CRC-32 of its bits, taken one after another, with zeros in the
field of the checksum. Sealing a packet writes that field and nothing else, and the packets that
verify are those that sealing leaves as they are. -/

namespace MotionCast

/-- The `width` lowest bits of a number, the lowest first. -/
def lowBits (width n : Nat) : List Bool := (List.range width).map n.testBit

theorem lowBits_succ (width n : Nat) :
    lowBits (width + 1) n = n.testBit 0 :: lowBits width (n / 2) := by
  rw [lowBits, List.range_succ_eq_map, List.map_cons, List.map_map]
  congr 1
  exact List.map_congr_left fun i _ => Nat.testBit_succ n i

/-- The bits of a byte string, the lowest of each byte first. -/
def Bytes.bits (b : Bytes) : List Bool := b.flatMap fun byte => lowBits 8 byte.toNat

/-! ### The checksum, bit by bit -/

namespace Crc32

/-- The register after one more bit of a message. It takes the polynomial in when that bit differs
from the one that leaves it. -/
def shiftIn (r : UInt32) (b : Bool) : UInt32 :=
  if r.toNat.testBit 0 = b then r >>> 1 else (r >>> 1) ^^^ 0xEDB88320

/-- The reflected CRC-32 of the bits of a message. -/
def serial (message : List Bool) : UInt32 := message.foldl shiftIn 0xFFFFFFFF ^^^ 0xFFFFFFFF

theorem ofNat_half {n : Nat} (small : n < 2 ^ 32) :
    UInt32.ofNat n >>> 1 = UInt32.ofNat (n / 2) := by
  apply UInt32.toNat_inj.mp
  have smaller : n / 2 < 2 ^ 32 := by omega
  rw [toNat_half, UInt32.toNat_ofNat_of_lt' small, UInt32.toNat_ofNat_of_lt' smaller]

/-- A number written over the register: its lowest bit is fed as a bit of the message, and the
others move down. -/
theorem bit_xor_ofNat (r : UInt32) {n : Nat} (small : n < 2 ^ 32) :
    bit (r ^^^ UInt32.ofNat n) = shiftIn r (n.testBit 0) ^^^ UInt32.ofNat (n / 2) := by
  have number : (UInt32.ofNat n).toNat = n := UInt32.toNat_ofNat_of_lt' small
  rw [bit_xor, shiftIn, Nat.testBit_zero, Nat.testBit_zero, ← ofNat_half small]
  rcases Nat.mod_two_eq_zero_or_one r.toNat with hr | hr <;>
    rcases Nat.mod_two_eq_zero_or_one n with hn | hn
  · rw [bit_of_even hr, bit_of_even (number.symm ▸ hn), hr, hn, if_pos rfl]
  · rw [bit_of_even hr, bit_of_odd (number.symm ▸ hn), hr, hn, if_neg (by decide)]
    ac_rfl
  · rw [bit_of_odd hr, bit_of_even (number.symm ▸ hn), hr, hn, if_neg (by decide)]
  · rw [bit_of_odd hr, bit_of_odd (number.symm ▸ hn), hr, hn, if_pos rfl,
      UInt32.xor_comm (UInt32.ofNat n >>> 1), UInt32.xor_assoc, ← UInt32.xor_assoc 0xEDB88320,
      UInt32.xor_self, UInt32.zero_xor]

theorem foldl_shiftIn {width n : Nat} (short : width ≤ 32) (small : n < 2 ^ width) (r : UInt32) :
    (lowBits width n).foldl shiftIn r = bits width (r ^^^ UInt32.ofNat n) := by
  induction width generalizing n r with
  | zero =>
    obtain rfl : n = 0 := by simpa using small
    exact UInt32.xor_zero.symm
  | succ width ih =>
    have fits : n < 2 ^ 32 := Nat.lt_of_lt_of_le small (Nat.pow_le_pow_right (by decide) short)
    have rest : n / 2 < 2 ^ width := by
      rw [Nat.pow_succ] at small
      omega
    rw [lowBits_succ, List.foldl_cons, ih (by omega) rest, bits, bit_xor_ofNat r fits]

theorem update_eq_foldl (r : UInt32) (b : Bytes) : update r b = b.bits.foldl shiftIn r := by
  induction b generalizing r with
  | nil => rfl
  | cons first rest ih =>
    have word : first.toUInt32 = UInt32.ofNat first.toNat := by
      apply UInt32.toNat_inj.mp
      rw [UInt8.toNat_toUInt32, UInt32.toNat_ofNat_of_lt']
      exact Nat.lt_trans first.toNat_lt (by decide)
    calc update r (first :: rest)
      _ = update (byte r first) rest := rfl
      _ = (Bytes.bits rest).foldl shiftIn (byte r first) := ih _
      _ = (Bytes.bits rest).foldl shiftIn ((lowBits 8 first.toNat).foldl shiftIn r) := by
        rw [foldl_shiftIn (by decide) first.toNat_lt, byte_eq_bits, word]
      _ = (Bytes.bits (first :: rest)).foldl shiftIn r := List.foldl_append.symm

theorem hash_eq_serial (b : Bytes) : hash b = serial b.bits := by
  rw [hash, finish, start, update_eq_foldl, serial]

/-- The digits from one to nine. -/
example : serial (Bytes.bits [49, 50, 51, 52, 53, 54, 55, 56, 57]) = 0xCBF43926 := by
  decide +kernel

end Crc32

/-! ### Sealing -/

namespace Packet

variable {p : Bytes}

theorem getElem?_sealed {i : Nat} (outside : ¬InField i) : (sealed p)[i]? = p[i]? := by
  unfold sealed
  split
  · rfl
  · rename_i long
    have fits : checksumOffset + (Bytes.ofWord32 (checksum p)).length ≤ p.length := by
      rw [Bytes.length_ofWord32]
      exact Nat.not_lt.mp long
    rw [Bytes.getElem?_put fits, Bytes.length_ofWord32]
    exact if_neg outside

theorem differAt_sealed {i : Nat} (differ : p.DifferAt (sealed p) i) :
    checksumEnd ≤ p.length ∧ InField i := by
  constructor
  · apply Decidable.byContradiction
    intro short
    apply differ
    rw [sealed, if_pos (Nat.not_le.mp short)]
  · apply Decidable.byContradiction
    intro outside
    exact differ (getElem?_sealed outside).symm

/-- Sealing a packet that holds its own checksum writes what is there already. -/
theorem sealed_of_verify (verified : verify p = true) : sealed p = p := by
  rw [verify, Bool.and_eq_true] at verified
  have held : p.word32 checksumOffset = checksum p := of_decide_eq_true verified.2
  obtain ⟨pre, field, rest, rfl, before, four⟩ := exists_cut (of_decide_eq_true verified.1)
  have word : Bytes.ofWord32 (checksum (pre ++ (field ++ rest))) = field := by
    rw [← held, Bytes.word32_append_right (Nat.le_of_eq before), before, Nat.sub_self,
      Bytes.ofWord32_word32, Bytes.window_append_left four]
  rw [sealed_cut before four, word]

theorem length_of_verify (verified : verify p = true) : checksumEnd ≤ p.length := by
  rw [verify, Bool.and_eq_true] at verified
  exact of_decide_eq_true verified.1

theorem verify_sealed_iff : verify (sealed p) = true ↔ checksumEnd ≤ p.length := by
  constructor
  · intro verified
    rw [← length_sealed]
    exact length_of_verify verified
  · exact verify_sealed

theorem sealed_sealed (p : Bytes) : sealed (sealed p) = sealed p := by
  by_cases short : p.length < checksumEnd
  · rw [sealed, length_sealed, if_pos short]
  · exact sealed_of_verify (verify_sealed (Nat.not_lt.mp short))

theorem checksum_eq_serial (p : Bytes) :
    checksum p = Crc32.serial (if checksumEnd ≤ p.length then blank p else p).bits := by
  rw [← Crc32.hash_eq_serial]
  split
  · rename_i long
    exact checksum_eq_hash_blank long
  · rename_i short
    rw [checksum, if_pos (Nat.not_le.mp short)]

/-- The checksum is the CRC-32 of the packet's bits with zeros in its field. Sealing changes no
other bytes, and a packet verifies if it has room for the field and is as sealing leaves it. -/
theorem verifies_iff_sealed (p : Bytes) :
    checksum p = Crc32.serial (if 12 ≤ p.length then blank p else p).bits ∧
    (12 ≤ p.length → ∀ q : Bytes, q.length = p.length → (∀ i, p.DifferAt q i → InField i) →
      checksum q = checksum p) ∧
    (sealed p).length = p.length ∧
    (∀ i, p.DifferAt (sealed p) i → 12 ≤ p.length ∧ InField i) ∧
    sealed (sealed p) = sealed p ∧
    (verify (sealed p) = true ↔ 12 ≤ p.length) ∧
    (verify p = true ↔ 12 ≤ p.length ∧ sealed p = p) := by
  refine ⟨checksum_eq_serial p, fun long q same agree => checksum_congr long same agree,
    length_sealed p, fun i differ => differAt_sealed differ, sealed_sealed p, verify_sealed_iff, ?_⟩
  constructor
  · intro verified
    exact ⟨length_of_verify verified, sealed_of_verify verified⟩
  · rintro ⟨long, same⟩
    rw [← same]
    exact verify_sealed long

end Packet

end MotionCast
