import MotionCast.Proofs.Wire.Fields
import MotionCast.Wire.Checksum

/-! The register of the checksum as a linear map. A bit that is fed keeps the exclusive or of two
registers and maps no two of them to one, and so do any bytes. Up to four bytes act like their
number, written over the register at once, so that the register tells them apart. -/

namespace MotionCast.Crc32

/-! ### One bit -/

theorem and_one_eq_one_iff (r : UInt32) : r &&& 1 = 1 ↔ r.toNat % 2 = 1 := by
  rw [← UInt32.toNat_inj, UInt32.toNat_and]
  exact iff_of_eq (congrArg (· = 1) (Nat.and_one_is_mod r.toNat))

theorem bit_of_even {r : UInt32} (even : r.toNat % 2 = 0) : bit r = r >>> 1 := by
  rw [bit, if_neg]
  rw [and_one_eq_one_iff]
  omega

theorem bit_of_odd {r : UInt32} (odd : r.toNat % 2 = 1) : bit r = (r >>> 1) ^^^ 0xEDB88320 := by
  rw [bit, if_pos ((and_one_eq_one_iff r).mpr odd)]

theorem toNat_half (r : UInt32) : (r >>> 1).toNat = r.toNat / 2 := by
  rw [UInt32.toNat_shiftRight]
  exact Nat.shiftRight_eq_div_pow r.toNat 1

theorem bit_xor (r s : UInt32) : bit (r ^^^ s) = bit r ^^^ bit s := by
  have parity : (r ^^^ s).toNat % 2 = (r.toNat % 2) ^^^ (s.toNat % 2) := by
    rw [UInt32.toNat_xor]
    exact Nat.xor_mod_two_pow (n := 1)
  rcases Nat.mod_two_eq_zero_or_one r.toNat with hr | hr <;>
    rcases Nat.mod_two_eq_zero_or_one s.toNat with hs | hs <;>
    rw [hr, hs] at parity
  · rw [bit_of_even parity, bit_of_even hr, bit_of_even hs, UInt32.shiftRight_xor]
  · rw [bit_of_odd parity, bit_of_even hr, bit_of_odd hs, UInt32.shiftRight_xor, UInt32.xor_assoc]
  · rw [bit_of_odd parity, bit_of_odd hr, bit_of_even hs, UInt32.shiftRight_xor]
    ac_rfl
  · rw [bit_of_even parity, bit_of_odd hr, bit_of_odd hs, UInt32.shiftRight_xor,
      UInt32.xor_comm (s >>> 1), UInt32.xor_assoc, ← UInt32.xor_assoc _ _ (s >>> 1),
      UInt32.xor_self, UInt32.zero_xor]

/-- The polynomial has the highest bit, which a shifted register lacks. -/
theorem eq_zero_of_bit {r : UInt32} (h : bit r = 0) : r = 0 := by
  have half := toNat_half r
  have bound := r.toNat_lt
  apply UInt32.toNat_inj.mp
  rw [UInt32.toNat_zero]
  rcases Nat.mod_two_eq_zero_or_one r.toNat with even | odd
  · rw [bit_of_even even] at h
    rw [h, UInt32.toNat_zero] at half
    omega
  · rw [bit_of_odd odd, UInt32.xor_eq_zero_iff] at h
    rw [h] at half
    change 0xEDB88320 = _ at half
    omega

theorem bit_injective {r s : UInt32} (h : bit r = bit s) : r = s := by
  rw [← UInt32.xor_eq_zero_iff, ← bit_xor] at h
  exact UInt32.xor_eq_zero_iff.mp (eq_zero_of_bit h)

/-! ### Several bits -/

/-- The register after so many zero bits. -/
def bits : Nat → UInt32 → UInt32
  | 0, r => r
  | n + 1, r => bits n (bit r)

theorem bits_add (m n : Nat) (r : UInt32) : bits (m + n) r = bits n (bits m r) := by
  induction m generalizing r with
  | zero => rw [Nat.zero_add, bits]
  | succ m ih => rw [Nat.succ_add, bits, bits, ih]

theorem bits_xor (n : Nat) (r s : UInt32) : bits n (r ^^^ s) = bits n r ^^^ bits n s := by
  induction n generalizing r s with
  | zero => rfl
  | succ n ih => rw [bits, bits, bits, bit_xor, ih]

theorem bits_injective {n : Nat} {r s : UInt32} (h : bits n r = bits n s) : r = s := by
  induction n generalizing r s with
  | zero => exact h
  | succ n ih => exact bit_injective (ih h)

/-- A register whose low bits are zero only moves down. -/
theorem toNat_bits {n k : Nat} {r : UInt32} (h : r.toNat = 2 ^ n * k) : (bits n r).toNat = k := by
  induction n generalizing r with
  | zero => rw [bits, h, Nat.pow_zero, Nat.one_mul]
  | succ n ih =>
    rw [Nat.pow_succ', Nat.mul_assoc] at h
    have half : (bit r).toNat = 2 ^ n * k := by
      rw [bit_of_even (by omega), toNat_half]
      omega
    rw [bits, ih half]

/-! ### Bytes -/

theorem byte_eq_bits (r : UInt32) (b : UInt8) : byte r b = bits 8 (r ^^^ b.toUInt32) := rfl

theorem update_injective {b : Bytes} {r s : UInt32} (h : update r b = update s b) : r = s := by
  induction b generalizing r s with
  | nil => exact h
  | cons first rest ih =>
    have first_eq : byte r first = byte s first := ih h
    rw [byte_eq_bits, byte_eq_bits] at first_eq
    exact (UInt32.xor_left_inj _).mp (bits_injective first_eq)

theorem xor_eq_add {low high : Nat} (small : low < 2 ^ 8) :
    low ^^^ 2 ^ 8 * high = 2 ^ 8 * high + low := by
  apply Nat.eq_of_testBit_eq
  intro i
  rw [Nat.testBit_xor, Nat.testBit_two_pow_mul_add high small, Nat.testBit_two_pow_mul]
  by_cases inside : i < 8
  · simp [inside, Nat.not_le.mpr inside]
  · have above : low < 2 ^ i :=
      Nat.lt_of_lt_of_le small (Nat.pow_le_pow_right (by decide) (Nat.not_lt.mp inside))
    simp [inside, Nat.testBit_lt_two_pow above, Nat.not_lt.mp inside]

/-- The number of up to four bytes, as a register. -/
theorem toNat_number {b : Bytes} (short : b.length ≤ 4) :
    (UInt32.ofNat b.toNat).toNat = b.toNat := by
  apply UInt32.toNat_ofNat_of_lt'
  exact Nat.lt_of_lt_of_le b.toNat_lt (Nat.pow_le_pow_right (by decide) short)

/-- Up to four bytes are fed by writing their number over the register. -/
theorem update_eq_bits {b : Bytes} (short : b.length ≤ 4) (r : UInt32) :
    update r b = bits (8 * b.length) (r ^^^ UInt32.ofNat b.toNat) := by
  induction b generalizing r with
  | nil => exact UInt32.xor_zero.symm
  | cons first rest ih =>
    have few : rest.length ≤ 4 := Nat.le_of_succ_le short
    have number := toNat_number short
    have high : (UInt32.ofNat (2 ^ 8 * Bytes.toNat rest)).toNat = 2 ^ 8 * Bytes.toNat rest := by
      apply UInt32.toNat_ofNat_of_lt'
      have bound : Bytes.toNat rest < 256 ^ 3 := Nat.lt_of_lt_of_le (Bytes.toNat_lt rest)
        (Nat.pow_le_pow_right (by decide) (Nat.le_of_succ_le_succ short))
      rw [UInt32.size]
      omega
    have both : UInt32.ofNat (Bytes.toNat (first :: rest)) =
        first.toUInt32 ^^^ UInt32.ofNat (2 ^ 8 * Bytes.toNat rest) := by
      apply UInt32.toNat_inj.mp
      rw [number, UInt32.toNat_xor, high, UInt8.toNat_toUInt32, xor_eq_add first.toNat_lt,
        Bytes.toNat, Nat.add_comm]
      rfl
    have moved : bits 8 (UInt32.ofNat (2 ^ 8 * Bytes.toNat rest)) =
        UInt32.ofNat (Bytes.toNat rest) := by
      apply UInt32.toNat_inj.mp
      rw [toNat_bits high, toNat_number few]
    calc update r (first :: rest)
      _ = update (byte r first) rest := rfl
      _ = bits (8 * rest.length) (byte r first ^^^ UInt32.ofNat (Bytes.toNat rest)) := ih few _
      _ = bits (8 * rest.length)
          (bits 8 (r ^^^ UInt32.ofNat (Bytes.toNat (first :: rest)))) := by
        rw [both, ← UInt32.xor_assoc, bits_xor 8, moved, byte_eq_bits]
      _ = bits (8 * (first :: rest).length)
          (r ^^^ UInt32.ofNat (Bytes.toNat (first :: rest))) := by
        rw [← bits_add, List.length_cons, Nat.mul_succ, Nat.add_comm]

theorem eq_of_update_eq {v w : Bytes} (same : v.length = w.length) (short : v.length ≤ 4)
    {r : UInt32} (h : update r v = update r w) : v = w := by
  have short' : w.length ≤ 4 := same ▸ short
  rw [update_eq_bits short, update_eq_bits short', same] at h
  have words : UInt32.ofNat v.toNat = UInt32.ofNat w.toNat :=
    (UInt32.xor_right_inj r).mp (bits_injective h)
  have numbers : v.toNat = w.toNat := by
    rw [← toNat_number short, words, toNat_number short']
  calc v
    _ = Bytes.ofNat w.length v.toNat := (Bytes.ofNat_toNat same).symm
    _ = Bytes.ofNat w.length w.toNat := by rw [numbers]
    _ = w := Bytes.ofNat_toNat rfl

end MotionCast.Crc32
