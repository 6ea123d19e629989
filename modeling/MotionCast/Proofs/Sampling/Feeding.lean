import Mathlib.Algebra.Group.Int.Defs
import Mathlib.Algebra.Group.Nat.Defs
import MotionCast.Sampling.Sampler

/-! A report fed to the sampler: it is taken, and then replicas are given out until none is left.
What the sampler does with a report depends on the gap, the signed difference of the report's
counter to the last accepted one. A gap within the tolerance yields nothing, a gap up to the ceiling
as many samples as it is wide, and a wider one a single sample; the last sample of each lies as many
periods later as the gap is wide. -/

namespace MotionCast

/-- The sample at a later time. -/
def Motion.later (m : Motion) (time : UInt64) : Motion := { m with timestamp := m.timestamp + time }

@[simp] theorem Motion.later_timestamp (m : Motion) (time : UInt64) :
    (m.later time).timestamp = m.timestamp + time := rfl

@[simp] theorem Motion.later_zero (m : Motion) : m.later 0 = m := by
  simp [later]

theorem Motion.later_later (m : Motion) (t u : UInt64) : (m.later t).later u = m.later (t + u) := by
  simp [later, UInt64.add_assoc]

/-! ### The gap between two counters -/

/-- How far a counter is ahead of another, read as a signed word. -/
def counterGap (last counter : UInt32) : Int := (counter - last).toInt32.toInt

theorem toInt_toInt32 (w : UInt32) :
    w.toInt32.toInt = if w.toNat < 2 ^ 31 then (w.toNat : Int) else (w.toNat : Int) - 2 ^ 32 := by
  rw [← Int32.toInt_toBitVec, UInt32.toBitVec_toInt32, BitVec.toInt_eq_toNat_cond,
    UInt32.toNat_toBitVec]
  split <;> split <;> omega

theorem toInt32_nonpos_iff (last counter : UInt32) :
    (counter - last).toInt32 ≤ 0 ↔ counterGap last counter ≤ 0 := Int32.le_iff_toInt_le

theorem toNat_sub_of_gap_pos {last counter : UInt32} (h : 0 < counterGap last counter) :
    ((counter - last).toNat : Int) = counterGap last counter := by
  rw [counterGap, toInt_toInt32] at *
  have := (counter - last).toNat_lt
  split <;> omega

theorem toNat_sub_of_gap_nonpos {last counter : UInt32} (h : counterGap last counter ≤ 0) :
    ((last - counter).toNat : Int) = -counterGap last counter := by
  rw [counterGap, toInt_toInt32] at *
  have hl := last.toNat_lt
  have hc := counter.toNat_lt
  have forth := UInt32.toNat_sub counter last
  have back := UInt32.toNat_sub last counter
  split at h <;> split <;> omega

namespace SamplingConfig

/-- So many periods of the device, as the difference of two timestamps. -/
def span (c : SamplingConfig) (count : Nat) : UInt64 := UInt64.ofNat count * c.periodMicros

@[simp] theorem span_zero (c : SamplingConfig) : c.span 0 = 0 := UInt64.zero_mul

@[simp] theorem span_one (c : SamplingConfig) : c.span 1 = c.periodMicros := UInt64.one_mul _

theorem span_add (c : SamplingConfig) (m n : Nat) : c.span (m + n) = c.span m + c.span n := by
  rw [span, UInt64.ofNat_add, UInt64.add_mul]
  rfl

theorem span_succ (c : SamplingConfig) (n : Nat) :
    c.span (n + 1) = c.periodMicros + c.span n := by
  rw [Nat.add_comm, span_add, span_one]

/-! ### What a gap makes of a report -/

variable {c : SamplingConfig} {last counter : UInt32}

theorem counterStep_repeated (h : counterGap last counter ≤ 0)
    (near : -(c.repeatTolerance.toNat : Int) < counterGap last counter) :
    c.counterStep (some last) counter = .repeated := by
  have back := toNat_sub_of_gap_nonpos h
  have hlt : last - counter < c.repeatTolerance := by
    rw [UInt32.lt_iff_toNat_lt]
    omega
  simp only [counterStep, toInt32_nonpos_iff]
  rw [if_pos h, if_pos hlt]

theorem counterStep_leap (h : 0 < counterGap last counter)
    (wide : (c.replicationCeiling.toNat : Int) < counterGap last counter) :
    c.counterStep (some last) counter = .leap (counter - last) := by
  have forth := toNat_sub_of_gap_pos h
  have hlt : counter - last > c.replicationCeiling := by
    rw [gt_iff_lt, UInt32.lt_iff_toNat_lt]
    omega
  simp only [counterStep, toInt32_nonpos_iff]
  rw [if_neg (Int.not_le.mpr h), if_pos hlt]

theorem counterStep_advance (h : 0 < counterGap last counter)
    (narrow : counterGap last counter ≤ c.replicationCeiling.toNat) :
    c.counterStep (some last) counter = .advance (counter - last) := by
  have forth := toNat_sub_of_gap_pos h
  have hle : ¬counter - last > c.replicationCeiling := by
    rw [gt_iff_lt, UInt32.lt_iff_toNat_lt]
    omega
  simp only [counterStep, toInt32_nonpos_iff]
  rw [if_neg (Int.not_le.mpr h), if_neg hle]

theorem counterStep_resync (far : counterGap last counter ≤ -(c.repeatTolerance.toNat : Int)) :
    c.counterStep (some last) counter = .resync := by
  have h : counterGap last counter ≤ 0 := by omega
  have back := toNat_sub_of_gap_nonpos h
  have hle : ¬last - counter < c.repeatTolerance := by
    rw [UInt32.lt_iff_toNat_lt]
    omega
  simp only [counterStep, toInt32_nonpos_iff]
  rw [if_pos h, if_neg hle]

/-- Which gap a step of the counter comes from. -/
theorem counterStep_cases (c : SamplingConfig) (last counter : UInt32) :
    (c.counterStep (some last) counter = .repeated ∧ counterGap last counter ≤ 0 ∧
      -(c.repeatTolerance.toNat : Int) < counterGap last counter) ∨
    (c.counterStep (some last) counter = .resync ∧
      counterGap last counter ≤ -(c.repeatTolerance.toNat : Int)) ∨
    (c.counterStep (some last) counter = .leap (counter - last) ∧ 0 < counterGap last counter ∧
      (c.replicationCeiling.toNat : Int) < counterGap last counter) ∨
    (c.counterStep (some last) counter = .advance (counter - last) ∧
      0 < counterGap last counter ∧ counterGap last counter ≤ c.replicationCeiling.toNat) := by
  by_cases back : counterGap last counter ≤ 0
  · by_cases near : -(c.repeatTolerance.toNat : Int) < counterGap last counter
    · exact .inl ⟨counterStep_repeated back near, back, near⟩
    · have far := Int.not_lt.mp near
      exact .inr (.inl ⟨counterStep_resync far, far⟩)
  · have ahead := Int.not_le.mp back
    by_cases narrow : counterGap last counter ≤ c.replicationCeiling.toNat
    · exact .inr (.inr (.inr ⟨counterStep_advance ahead narrow, ahead, narrow⟩))
    · have wide := Int.not_le.mp narrow
      exact .inr (.inr (.inl ⟨counterStep_leap ahead wide, ahead, wide⟩))

end SamplingConfig

/-! ### Replicas given out until none is left -/

namespace Sampler

theorem nextReplica_of_zero {s : Sampler} (h : s.replicasLeft = 0) : s.nextReplica = (none, s) := by
  simp [nextReplica, h]

theorem nextReplica_of_ne {s : Sampler} (h : s.replicasLeft ≠ 0) :
    s.nextReplica = (some (s.last.later s.config.periodMicros),
      { s with last := s.last.later s.config.periodMicros, replicasLeft := s.replicasLeft - 1 }) := by
  simp [nextReplica, h, Motion.later]

theorem replicasLeft_nextReplica {s next : Sampler} {replica : Motion}
    (h : s.nextReplica = (some replica, next)) :
    next.replicasLeft.toNat + 1 = s.replicasLeft.toNat := by
  by_cases zero : s.replicasLeft = 0
  · simp [nextReplica_of_zero zero] at h
  · rw [nextReplica_of_ne zero] at h
    obtain ⟨-, rfl⟩ := Prod.mk.inj h
    have pos : 1 ≤ s.replicasLeft := by
      rw [UInt32.le_iff_toNat_le]
      have : s.replicasLeft.toNat ≠ 0 := fun e => zero (UInt32.toNat_inj.mp e)
      exact Nat.pos_of_ne_zero this
    have one := UInt32.le_iff_toNat_le.mp pos
    simp only [UInt32.toNat_sub_of_le _ _ pos]
    exact Nat.sub_add_cancel one

/-- The replicas that are left, given out until there is none, and the sampler after them. -/
def drained (s : Sampler) : List Motion × Sampler :=
  match h : s.nextReplica with
  | (none, s) => ([], s)
  | (some replica, next) =>
    have := replicasLeft_nextReplica h
    let (rest, last) := next.drained
    (replica :: rest, last)
termination_by s.replicasLeft.toNat

theorem drained_of_zero {s : Sampler} (h : s.replicasLeft = 0) : s.drained = ([], s) := by
  rw [drained]
  split
  · rename_i heq
    rw [nextReplica_of_zero h] at heq
    simp [(Prod.mk.inj heq).2]
  · rename_i heq
    simp [nextReplica_of_zero h] at heq

theorem drained_of_some {s next : Sampler} {replica : Motion}
    (h : s.nextReplica = (some replica, next)) :
    s.drained = (replica :: next.drained.1, next.drained.2) := by
  rw [drained]
  split
  · rename_i heq
    simp [h] at heq
  · rename_i heq
    rw [h] at heq
    obtain ⟨hr, rfl⟩ := Prod.mk.inj heq
    simp [Option.some.inj hr]

/-- The replicas are the last sample, each a period later than the one before it. -/
theorem drained_eq (s : Sampler) :
    s.drained =
      ((List.range s.replicasLeft.toNat).map fun k =>
        s.last.later (s.config.span (k + 1)),
      { s with last := s.last.later (s.config.span s.replicasLeft.toNat), replicasLeft := 0 }) := by
  induction hn : s.replicasLeft.toNat generalizing s with
  | zero =>
    have zero : s.replicasLeft = 0 := UInt32.toNat_inj.mp hn
    rw [drained_of_zero zero]
    simp [← zero]
  | succ n ih =>
    have ne : s.replicasLeft ≠ 0 := by
      intro zero
      simp [zero] at hn
    have left := replicasLeft_nextReplica (nextReplica_of_ne ne)
    rw [drained_of_some (nextReplica_of_ne ne), ih _ (by omega), List.range_succ_eq_map]
    simp [Motion.later_later, SamplingConfig.span_succ, Function.comp_def]

/-! ### Feeding a report -/

/-- The gap from the last accepted counter to a report's, or zero when none was accepted. -/
def gap (s : Sampler) (r : Report) : Int := counterGap (s.lastCounter.getD r.counter) r.counter

theorem gap_of_some {s : Sampler} {last : UInt32} (h : s.lastCounter = some last) (r : Report) :
    s.gap r = counterGap last r.counter := by
  rw [gap, h]
  rfl

/-- Takes a report and gives out replicas until none is left: the samples, and the sampler after
them. -/
def feed (s : Sampler) (r : Report) : List Motion × Sampler :=
  let (genuine, s) := s.accept r
  let (replicas, s) := s.drained
  (genuine.toList ++ replicas, s)

/-- A report was accepted, and all its replicas were given out. -/
structure Ready (s : Sampler) : Prop where
  accepted : s.lastCounter.isSome
  drained : s.replicasLeft = 0

theorem Ready.gap_eq {s : Sampler} (ready : s.Ready) (r : Report) :
    ∃ last, s.lastCounter = some last ∧ s.gap r = counterGap last r.counter := by
  obtain ⟨last, h⟩ := Option.isSome_iff_exists.mp ready.accepted
  exact ⟨last, h, gap_of_some h r⟩

/-- A gap that is not positive, but within the tolerance, yields nothing and changes nothing. -/
theorem feed_repeated {s : Sampler} {r : Report} (ready : s.Ready) (back : s.gap r ≤ 0)
    (near : -(s.config.repeatTolerance.toNat : Int) < s.gap r) : s.feed r = ([], s) := by
  obtain ⟨last, hlast, hgap⟩ := ready.gap_eq r
  rw [hgap] at back near
  have taken : s.accept r = (none, s) := by
    rw [accept, hlast, SamplingConfig.counterStep_repeated back near]
  rw [feed, taken]
  simp [drained_of_zero ready.drained]

/-- Feeding a report whose sample is emitted: the sample, and then its replicas. -/
theorem feed_emit {s : Sampler} {r : Report} {time : UInt64} {replicas : UInt32}
    (taken : s.accept r = s.emit r time replicas) :
    s.feed r =
      ((List.range (replicas.toNat + 1)).map fun k =>
        (s.convert r time).1.later (s.config.span k),
      { s with
        lastCounter := some r.counter
        last := (s.convert r time).1.later (s.config.span replicas.toNat)
        smoothed := (s.convert r time).2
        replicasLeft := 0 }) := by
  simp only [feed, taken, emit, drained_eq, List.range_succ_eq_map]
  simp [Function.comp_def]

@[simp] theorem convert_timestamp (s : Sampler) (r : Report) (time : UInt64) :
    (s.convert r time).1.timestamp = time := rfl

/-- Where a report is ahead, there is one that it is ahead of. -/
theorem exists_last_of_gap_pos {s : Sampler} {r : Report} (ahead : 0 < s.gap r) :
    ∃ last, s.lastCounter = some last ∧ s.gap r = counterGap last r.counter := by
  cases hlast : s.lastCounter with
  | none =>
    rw [gap, hlast, Option.getD_none, counterGap, UInt32.sub_self] at ahead
    exact absurd ahead (by decide)
  | some last => exact ⟨last, rfl, gap_of_some hlast r⟩

theorem accept_advance {s : Sampler} {r : Report} (ahead : 0 < s.gap r)
    (narrow : s.gap r ≤ s.config.replicationCeiling.toNat) :
    ∃ replicas : UInt32, replicas.toNat + 1 = (s.gap r).toNat ∧
      s.accept r = s.emit r (s.last.timestamp + s.config.periodMicros) replicas := by
  obtain ⟨last, hlast, hgap⟩ := exists_last_of_gap_pos ahead
  rw [hgap] at ahead narrow ⊢
  have forth := toNat_sub_of_gap_pos ahead
  refine ⟨r.counter - last - 1, ?_, ?_⟩
  · have one : 1 ≤ r.counter - last := by
      rw [UInt32.le_iff_toNat_le]
      show 1 ≤ _
      omega
    rw [UInt32.toNat_sub_of_le _ _ one]
    show _ - 1 + 1 = _
    omega
  · rw [accept, hlast, SamplingConfig.counterStep_advance ahead narrow]

theorem accept_leap {s : Sampler} {r : Report} (ready : s.Ready) (ahead : 0 < s.gap r)
    (wide : s.config.replicationCeiling.toNat < s.gap r) :
    s.accept r = s.emit r (s.last.timestamp + s.config.span (s.gap r).toNat) 0 := by
  obtain ⟨last, hlast, hgap⟩ := ready.gap_eq r
  rw [hgap] at ahead wide ⊢
  have forth := toNat_sub_of_gap_pos ahead
  have same : (r.counter - last).toUInt64 = UInt64.ofNat (counterGap last r.counter).toNat := by
    rw [← forth, Int.toNat_natCast]
    apply UInt64.toNat_inj.mp
    rw [UInt64.toNat_ofNat', UInt32.toNat_toUInt64, Nat.mod_eq_of_lt]
    exact Nat.lt_trans (UInt32.toNat_lt _) (by decide)
  rw [accept, hlast, SamplingConfig.counterStep_leap ahead wide]
  simp only [same, ready.drained, SamplingConfig.span]

/-- A gap up to the ceiling yields the sample of the report and its replicas, as many samples as the
gap is wide. -/
theorem feed_advance {s : Sampler} {r : Report} (ahead : 0 < s.gap r)
    (narrow : s.gap r ≤ s.config.replicationCeiling.toNat) :
    ∃ genuine, (s.accept r).1 = some genuine ∧
      genuine.timestamp = s.last.timestamp + s.config.periodMicros ∧
      (s.feed r).1 =
        (List.range (s.gap r).toNat).map fun k => genuine.later (s.config.span k) := by
  obtain ⟨replicas, count, taken⟩ := accept_advance ahead narrow
  refine ⟨(s.convert r (s.last.timestamp + s.config.periodMicros)).1, ?_, rfl, ?_⟩
  · rw [taken, emit]
  · rw [feed_emit taken, count]

/-- What feeding a report within the tolerance leaves: the clock is as many periods further on as
the gap is wide, whether replicas or a single leap moved it. -/
structure Advanced (s : Sampler) (count : Nat) (t : Sampler) : Prop where
  config : t.config = s.config
  ready : t.Ready
  clock : t.last.timestamp = s.last.timestamp + s.config.span count

theorem Advanced.refl {s : Sampler} (ready : s.Ready) : Advanced s 0 s :=
  ⟨rfl, ready, by simp⟩

theorem Advanced.trans {s t u : Sampler} {m n : Nat} (h : Advanced s m t) (h' : Advanced t n u) :
    Advanced s (m + n) u :=
  ⟨h'.config.trans h.config, h'.ready, by
    rw [h'.clock, h.clock, h.config, SamplingConfig.span_add, UInt64.add_assoc]⟩

theorem feed_advanced {s : Sampler} {r : Report} (ready : s.Ready)
    (near : -(s.config.repeatTolerance.toNat : Int) < s.gap r) :
    Advanced s (s.gap r).toNat (s.feed r).2 := by
  by_cases back : s.gap r ≤ 0
  · rw [feed_repeated ready back near, Int.toNat_of_nonpos back]
    exact Advanced.refl ready
  have ahead : 0 < s.gap r := by omega
  by_cases narrow : s.gap r ≤ s.config.replicationCeiling.toNat
  · obtain ⟨replicas, count, taken⟩ := accept_advance ahead narrow
    rw [feed_emit taken, ← count]
    refine ⟨rfl, ⟨rfl, rfl⟩, ?_⟩
    rw [SamplingConfig.span_succ, ← UInt64.add_assoc]
    rfl
  · rw [feed_emit (accept_leap ready ahead (by omega))]
    exact ⟨rfl, ⟨rfl, rfl⟩, by simp⟩

theorem lastCounter_feed {s : Sampler} {r : Report} (ready : s.Ready)
    (near : -(s.config.repeatTolerance.toNat : Int) < s.gap r) :
    (s.feed r).2.lastCounter = if s.gap r ≤ 0 then s.lastCounter else some r.counter := by
  by_cases back : s.gap r ≤ 0
  · rw [feed_repeated ready back near, if_pos back]
  rw [if_neg back]
  by_cases narrow : s.gap r ≤ s.config.replicationCeiling.toNat
  · obtain ⟨replicas, -, taken⟩ := accept_advance (by omega) narrow
    rw [feed_emit taken]
  · rw [feed_emit (accept_leap ready (by omega) (by omega))]

end Sampler

end MotionCast
