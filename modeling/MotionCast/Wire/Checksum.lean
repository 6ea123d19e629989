import MotionCast.Bytes

/-! The checksum of a packet: the reflected CRC-32 over all of it, with its own field read as zero.
The register is fed bit by bit, and a packet is fed in the three pieces around the field. -/

namespace MotionCast

namespace Crc32

/-- The register after one more bit. -/
def bit (r : UInt32) : UInt32 :=
  if r &&& 1 = 1 then (r >>> 1) ^^^ 0xEDB88320 else r >>> 1

/-- The register after one more byte, its lowest bit first. -/
def byte (r : UInt32) (b : UInt8) : UInt32 :=
  bit (bit (bit (bit (bit (bit (bit (bit (r ^^^ b.toUInt32))))))))

/-- The register after more bytes. -/
def update (r : UInt32) (b : Bytes) : UInt32 := b.foldl byte r

/-- Feeding two pieces is feeding their concatenation. -/
theorem update_append (r : UInt32) (a b : Bytes) : update r (a ++ b) = update (update r a) b := by
  simp [update]

/-- The register before any byte. -/
def start : UInt32 := 0xFFFFFFFF

/-- The checksum that a register stands for. -/
def finish (r : UInt32) : UInt32 := r ^^^ 0xFFFFFFFF

/-- The CRC-32 of bytes. -/
def hash (b : Bytes) : UInt32 := finish (update start b)

end Crc32

namespace Packet

/-- The offset of the checksum field. -/
def checksumOffset : Nat := 8

/-- The offset of the first byte after the checksum field. -/
def checksumEnd : Nat := checksumOffset + 4

/-- The checksum of a packet, whose own field counts as zero. A packet too short to have the field
is taken as it is. -/
def checksum (p : Bytes) : UInt32 :=
  if p.length < checksumEnd then Crc32.hash p
  else
    let before := Crc32.update Crc32.start (p.take checksumOffset)
    let field := Crc32.update before (Bytes.zeros 4)
    Crc32.finish (Crc32.update field (p.drop checksumEnd))

/-- The packet with its checksum written into its field, or as it is when it has no room for it. -/
def sealed (p : Bytes) : Bytes :=
  if p.length < checksumEnd then p
  else p.put checksumOffset (Bytes.ofWord32 (checksum p))

/-- The packet holds its own checksum. -/
def verify (p : Bytes) : Bool :=
  p.length ≥ checksumEnd && p.word32 checksumOffset = checksum p

@[simp] theorem length_sealed (p : Bytes) : (sealed p).length = p.length := by
  unfold sealed
  split
  · rfl
  · apply Bytes.length_put
    simp only [Bytes.ofWord32, Bytes.length_ofNat]
    simp only [checksumEnd] at *
    omega

end Packet

end MotionCast
