/-! Byte strings: reading a window of bytes, overwriting bytes in place, blocks of a fixed length,
and the little-endian form of a number, from which every field of a packet and a report is built. -/

namespace MotionCast

/-- The bytes of a datagram, a device record or a frame. -/
abbrev Bytes := List UInt8

namespace Bytes

/-- The `width` lowest base-256 digits of a number, the least significant first. -/
def ofNat : (width n : Nat) → Bytes
  | 0, _ => []
  | width + 1, n => UInt8.ofNat n :: ofNat width (n / 256)

/-- The number whose base-256 digits, the least significant first, are the bytes. -/
def toNat : Bytes → Nat
  | [] => 0
  | b :: rest => b.toNat + 256 * toNat rest

@[simp] theorem length_ofNat (width n : Nat) : (ofNat width n).length = width := by
  induction width generalizing n with
  | zero => rfl
  | succ width ih => simp [ofNat, ih]

/-- The `count` bytes from `offset` on. A byte past the end reads as zero, and callers check the
length first. -/
def window (b : Bytes) (offset count : Nat) : Bytes :=
  (List.range count).map fun i => b.getD (offset + i) 0

@[simp] theorem length_window (b : Bytes) (offset count : Nat) :
    (b.window offset count).length = count := by
  simp [window]

/-- The bytes with those from `offset` on overwritten by `v`. Callers check that `v` fits. -/
def put (b : Bytes) (offset : Nat) (v : Bytes) : Bytes :=
  b.take offset ++ v ++ b.drop (offset + v.length)

/-- Overwriting keeps the length when the new bytes fit. -/
theorem length_put {b v : Bytes} {offset : Nat} (h : offset + v.length ≤ b.length) :
    (b.put offset v).length = b.length := by
  simp [put]
  omega

/-- As many zero bytes. -/
def zeros (count : Nat) : Bytes := List.replicate count 0

/-- The byte at `offset`. -/
def byte (b : Bytes) (offset : Nat) : UInt8 := b.getD offset 0

/-- The 16-bit word at `offset`. -/
def word16 (b : Bytes) (offset : Nat) : UInt16 := UInt16.ofNat (toNat (b.window offset 2))

/-- The 32-bit word at `offset`. -/
def word32 (b : Bytes) (offset : Nat) : UInt32 := UInt32.ofNat (toNat (b.window offset 4))

/-- The 64-bit word at `offset`. -/
def word64 (b : Bytes) (offset : Nat) : UInt64 := UInt64.ofNat (toNat (b.window offset 8))

/-- The signed 16-bit word at `offset`. -/
def int16 (b : Bytes) (offset : Nat) : Int16 := (b.word16 offset).toInt16

/-- The two bytes of a 16-bit word. -/
def ofWord16 (w : UInt16) : Bytes := ofNat 2 w.toNat

/-- The four bytes of a 32-bit word. -/
def ofWord32 (w : UInt32) : Bytes := ofNat 4 w.toNat

/-- The eight bytes of a 64-bit word. -/
def ofWord64 (w : UInt64) : Bytes := ofNat 8 w.toNat

/-- Bytes copied over the start of a buffer, as many as both have. -/
def copyOver (buffer source : Bytes) : Bytes :=
  source.take buffer.length ++ buffer.drop source.length

@[simp] theorem length_copyOver (buffer source : Bytes) :
    (buffer.copyOver source).length = buffer.length := by
  simp [copyOver]
  omega

end Bytes

/-- A byte string of exactly `n` bytes. -/
structure Block (n : Nat) where
  bytes : Bytes
  length_eq : bytes.length = n
deriving DecidableEq, Repr

namespace Block

/-- The block of `n` bytes at `offset`. -/
def ofBytes (n : Nat) (b : Bytes) (offset : Nat) : Block n :=
  ⟨b.window offset n, Bytes.length_window b offset n⟩

/-- The block of `n` zero bytes. -/
def zero (n : Nat) : Block n := ⟨Bytes.zeros n, by simp [Bytes.zeros]⟩

instance (n : Nat) : Inhabited (Block n) := ⟨zero n⟩

@[simp] theorem length_bytes {n : Nat} (block : Block n) : block.bytes.length = n := block.length_eq

end Block

end MotionCast
