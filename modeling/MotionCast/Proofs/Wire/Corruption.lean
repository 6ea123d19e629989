import MotionCast.Proofs.Wire.Register
import MotionCast.Proofs.Wire.Sealing

/-! What the checksum of a packet detects. Packets of one length whose contents differ only within
four bytes in a row have different checksums, so that a sealed packet no longer verifies once such
bytes, or only bytes of the checksum itself, are changed. -/

namespace MotionCast

/-- Two byte strings differ at a place. -/
def Bytes.DifferAt (p q : Bytes) (i : Nat) : Prop := p[i]? ≠ q[i]?

instance (p q : Bytes) (i : Nat) : Decidable (p.DifferAt q i) :=
  inferInstanceAs (Decidable (p[i]? ≠ q[i]?))

/-- Places lie within four bytes in a row. -/
def WithinFour (places : Nat → Prop) : Prop :=
  ∃ first, ∀ i, places i → first ≤ i ∧ i < first + 4

theorem Bytes.eq_of_agree {p q : Bytes} (agree : ∀ i, ¬p.DifferAt q i) : p = q :=
  List.ext_getElem? fun i => Decidable.not_not.mp (agree i)

theorem Crc32.eq_of_hash_eq {p q : Bytes} (same : p.length = q.length)
    (near : WithinFour (p.DifferAt q)) (h : hash p = hash q) : p = q := by
  obtain ⟨first, near⟩ := near
  have before : p.take first = q.take first := by
    refine Bytes.eq_of_agree fun i => ?_
    rw [Bytes.DifferAt, List.getElem?_take, List.getElem?_take]
    split
    · intro differ
      have := near i differ
      omega
    · simp
  have after : p.drop (first + 4) = q.drop (first + 4) := by
    refine Bytes.eq_of_agree fun i => ?_
    rw [Bytes.DifferAt, List.getElem?_drop, List.getElem?_drop]
    intro differ
    have := near _ differ
    omega
  have cut (b : Bytes) : b = b.take first ++ ((b.drop first).take 4 ++ b.drop (first + 4)) := by
    rw [← List.drop_drop, List.take_append_drop, List.take_append_drop]
  have updates : update start p = update start q := (UInt32.xor_left_inj _).mp h
  rw [cut p, cut q, before, after, update_append, update_append, update_append,
    update_append] at updates
  have middle : (p.drop first).take 4 = (q.drop first).take 4 := by
    refine eq_of_update_eq ?_ (List.length_take_le _ _) (update_injective updates)
    simp [same]
  rw [cut p, cut q, before, after, middle]

namespace Packet

/-- A place holds a byte of the checksum. -/
def InField (i : Nat) : Prop := checksumOffset ≤ i ∧ i < checksumEnd

instance (i : Nat) : Decidable (InField i) :=
  inferInstanceAs (Decidable (checksumOffset ≤ i ∧ i < checksumEnd))

/-- The packet with zeros in the field of its checksum. -/
def blank (p : Bytes) : Bytes := p.put checksumOffset (Bytes.zeros 4)

section Field

variable {p q : Bytes}

theorem checksum_eq_hash_blank (long : checksumEnd ≤ p.length) :
    checksum p = Crc32.hash (blank p) := by
  obtain ⟨pre, field, rest, rfl, before, four⟩ := exists_cut long
  rw [checksum_cut before four, blank, Bytes.put_append_right (by omega), before, Nat.sub_self,
    Bytes.put_append_left (by simp [four])]

theorem getElem?_blank (long : checksumEnd ≤ p.length) (i : Nat) :
    (blank p)[i]? = if InField i then some 0 else p[i]? := by
  have fits : checksumOffset + (Bytes.zeros 4).length ≤ p.length := long
  rw [blank, Bytes.getElem?_put fits]
  show (if InField i then (Bytes.zeros 4)[i - checksumOffset]? else p[i]?) = _
  by_cases inside : InField i
  · have index : i - checksumOffset < 4 := by
      simp only [InField, checksumEnd] at inside
      omega
    rw [if_pos inside, if_pos inside, Bytes.zeros, List.getElem?_replicate, if_pos index]
  · rw [if_neg inside, if_neg inside]

theorem length_blank (long : checksumEnd ≤ p.length) : (blank p).length = p.length :=
  Bytes.length_put long

/-- Packets that agree outside the field have one checksum. -/
theorem checksum_congr (long : checksumEnd ≤ p.length) (same : q.length = p.length)
    (agree : ∀ i, p.DifferAt q i → InField i) : checksum q = checksum p := by
  have blanks : blank p = blank q := by
    refine Bytes.eq_of_agree fun i => ?_
    rw [Bytes.DifferAt, getElem?_blank long, getElem?_blank (same ▸ long)]
    split
    · simp
    · rename_i outside
      exact fun differ => outside (agree i differ)
  rw [checksum_eq_hash_blank long, checksum_eq_hash_blank (same ▸ long), blanks]

/-- Packets that differ outside the field, and there only within four bytes, have different
checksums. -/
theorem checksum_ne (long : checksumEnd ≤ p.length) (same : q.length = p.length)
    (differ : ∃ i, ¬InField i ∧ p.DifferAt q i)
    (near : WithinFour fun i => ¬InField i ∧ p.DifferAt q i) : checksum p ≠ checksum q := by
  have long' : checksumEnd ≤ q.length := same ▸ long
  obtain ⟨i, outside, differ⟩ := differ
  obtain ⟨first, near⟩ := near
  intro h
  rw [checksum_eq_hash_blank long, checksum_eq_hash_blank long'] at h
  have lengths : (blank p).length = (blank q).length := by
    rw [length_blank long, length_blank long', same]
  have blanks : blank p = blank q := by
    refine Crc32.eq_of_hash_eq lengths ⟨first, fun j at_j => near j ?_⟩ h
    rw [Bytes.DifferAt, getElem?_blank long, getElem?_blank long'] at at_j
    by_cases inside : InField j
    · simp [inside] at at_j
    · simp only [if_neg inside] at at_j
      exact ⟨inside, at_j⟩
  have at_i := congrArg (·[i]?) blanks
  simp only [getElem?_blank long, getElem?_blank long', if_neg outside] at at_i
  exact differ at_i

theorem word32_congr (agree : ∀ i, p.DifferAt q i → ¬InField i) :
    p.word32 checksumOffset = q.word32 checksumOffset := by
  have windows : p.window checksumOffset 4 = q.window checksumOffset 4 := by
    refine Bytes.window_congr fun i low high => ?_
    exact Decidable.not_not.mp fun differ => agree i differ ⟨low, high⟩
  rw [Bytes.word32, windows, Bytes.word32]

/-- Packets with the same word in the field agree on it. -/
theorem agree_of_word32 (long : checksumEnd ≤ p.length) (same : q.length = p.length)
    (h : p.word32 checksumOffset = q.word32 checksumOffset) {i : Nat} (inside : InField i) :
    ¬p.DifferAt q i := by
  have windows : p.window checksumOffset 4 = q.window checksumOffset 4 := by
    rw [← Bytes.ofWord32_word32, h, Bytes.ofWord32_word32]
  rw [Bytes.window_eq long, Bytes.window_eq (same ▸ long)] at windows
  have at_i := congrArg (·[i - checksumOffset]?) windows
  simp only [InField, checksumEnd] at inside
  have index : checksumOffset + (i - checksumOffset) = i := by omega
  simp only [List.getElem?_take_of_lt (show i - checksumOffset < 4 by omega),
    List.getElem?_drop, index] at at_i
  exact fun differ => differ at_i

theorem word32_sealed (long : checksumEnd ≤ p.length) :
    (sealed p).word32 checksumOffset = checksum (sealed p) := by
  have verified := verify_sealed long
  rw [verify, Bool.and_eq_true] at verified
  exact of_decide_eq_true verified.2

end Field

/-- The checksum detects every change within four bytes in a row, and a sealed packet no longer
verifies after such a change outside the field of the checksum, nor after a change of bytes in the
field alone. -/
theorem corruption_detected {p q : Bytes} (long : 12 ≤ p.length) (same : q.length = p.length) :
    ((∃ i, ¬InField i ∧ p.DifferAt q i) → WithinFour (fun i => ¬InField i ∧ p.DifferAt q i) →
      checksum p ≠ checksum q) ∧
    ((∃ i, (sealed p).DifferAt q i) →
      (WithinFour ((sealed p).DifferAt q) ∧ ∀ i, (sealed p).DifferAt q i → ¬InField i) ∨
        (∀ i, (sealed p).DifferAt q i → InField i) →
      verify q = false) := by
  refine ⟨checksum_ne long same, fun ⟨i, differ⟩ where_ => ?_⟩
  have long' : checksumEnd ≤ (sealed p).length := by rwa [length_sealed]
  have same' : q.length = (sealed p).length := by rwa [length_sealed]
  rw [Bool.eq_false_iff]
  intro verified
  rw [verify, Bool.and_eq_true] at verified
  have held : q.word32 checksumOffset = checksum q := of_decide_eq_true verified.2
  have was := word32_sealed long
  rcases where_ with ⟨⟨first, near⟩, outside⟩ | inside
  · refine checksum_ne long' same' ⟨i, outside i differ, differ⟩ ⟨first, fun j h => near j h.2⟩ ?_
    rw [← held, ← was, word32_congr outside]
  · refine agree_of_word32 long' same' ?_ (inside i differ) differ
    rw [held, was, checksum_congr long' same' inside]

/-- A version answer that is sealed and then has its event and its version changed, three bytes
apart. -/
theorem corruption_detected_around_payload :
    let p : Bytes := [68, 83, 85, 83, 233, 3, 6, 0, 0, 0, 0, 0, 7, 0, 0, 0, 0, 0, 16, 0, 233, 3]
    let q := ((sealed p).set 18 17).set 21 4
    12 ≤ p.length ∧ q.length = p.length ∧ (∃ i, ¬InField i ∧ p.DifferAt q i) ∧
      WithinFour (fun i => ¬InField i ∧ p.DifferAt q i) ∧ (sealed p).DifferAt q 21 ∧
      WithinFour ((sealed p).DifferAt q) ∧ (∀ i, (sealed p).DifferAt q i → ¬InField i) ∧
      checksum p ≠ checksum q ∧ verify q = false := by
  intro p q
  have long : 12 ≤ p.length := by decide
  have same : q.length = p.length := by decide +kernel
  have changed : ∀ i < 22, (¬InField i ∧ p.DifferAt q i ∨ (sealed p).DifferAt q i) →
      18 ≤ i ∧ i < 18 + 4 := by decide +kernel
  have within (i : Nat) (differ : ¬InField i ∧ p.DifferAt q i ∨ (sealed p).DifferAt q i) :
      18 ≤ i ∧ i < 18 + 4 := by
    refine changed i (Decidable.byContradiction fun past => ?_) differ
    have p_none : p[i]? = none := List.getElem?_eq_none (Nat.not_lt.mp past)
    have q_none : q[i]? = none := List.getElem?_eq_none (by rw [same]; exact Nat.not_lt.mp past)
    have s_none : (sealed p)[i]? = none :=
      List.getElem?_eq_none (by rw [length_sealed]; exact Nat.not_lt.mp past)
    simp [Bytes.DifferAt, p_none, q_none, s_none] at differ
  have differ : ¬InField 21 ∧ p.DifferAt q 21 := by decide +kernel
  have last : (sealed p).DifferAt q 21 := by decide +kernel
  have near : WithinFour fun i => ¬InField i ∧ p.DifferAt q i := ⟨18, fun i h => within i (.inl h)⟩
  have near' : WithinFour ((sealed p).DifferAt q) := ⟨18, fun i h => within i (.inr h)⟩
  have outside (i : Nat) (h : (sealed p).DifferAt q i) : ¬InField i := by
    have := (within i (.inr h)).1
    simp only [InField, checksumEnd, checksumOffset]
    omega
  obtain ⟨sums, sealed_⟩ := corruption_detected long same
  exact ⟨long, same, ⟨21, differ⟩, near, last, near', outside, sums ⟨21, differ⟩ near,
    sealed_ ⟨21, last⟩ (.inl ⟨near', outside⟩)⟩

end Packet

end MotionCast
