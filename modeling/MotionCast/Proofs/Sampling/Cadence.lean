import MotionCast.Proofs.Sampling.Feeding

/-! The cadence of the samples: fed with reports whose counters repeat, fall back within the
tolerance, skip up to the ceiling, or wrap around, a sampler gives out evenly spaced samples, one
for each step of the counter. A skip past the ceiling costs samples but no time. -/

namespace MotionCast.Sampler

/-- Reports fed one after another: the samples of all, and the sampler after them. -/
def feedAll (s : Sampler) : List Report → List Motion × Sampler
  | [] => ([], s)
  | r :: rest =>
    let (samples, s) := s.feed r
    let (others, s) := s.feedAll rest
    (samples ++ others, s)

/-- The gap of each report from the counter that was accepted last before it, for reports fed one
after another. -/
def gaps (s : Sampler) : List Report → List Int
  | [] => []
  | r :: rest => s.gap r :: (s.feed r).2.gaps rest

/-- The sum of the positive gaps. -/
def ahead : List Int → Nat
  | [] => 0
  | d :: rest => d.toNat + ahead rest

@[simp] theorem feedAll_cons (s : Sampler) (r : Report) (rest : List Report) :
    s.feedAll (r :: rest) =
      ((s.feed r).1 ++ ((s.feed r).2.feedAll rest).1, ((s.feed r).2.feedAll rest).2) := rfl

theorem gaps_append (s : Sampler) (before after : List Report) :
    s.gaps (before ++ after) = s.gaps before ++ (s.feedAll before).2.gaps after := by
  induction before generalizing s with
  | nil => rfl
  | cons r rest ih => exact congrArg (s.gap r :: ·) (ih _)

/-- Every gap is within the tolerance. -/
def Tolerated (c : SamplingConfig) (gaps : List Int) : Prop :=
  ∀ d ∈ gaps, -(c.repeatTolerance.toNat : Int) < d

/-- No gap exceeds the ceiling. -/
def Narrow (c : SamplingConfig) (gaps : List Int) : Prop :=
  ∀ d ∈ gaps, d ≤ c.replicationCeiling.toNat

/-- The gaps of counters from the last accepted one. A counter that is not ahead is not accepted. -/
def counterGaps (last : UInt32) : List UInt32 → List Int
  | [] => []
  | counter :: rest =>
    let gap := counterGap last counter
    gap :: counterGaps (if gap ≤ 0 then last else counter) rest

/-- Within the tolerance the gaps of reports are those of their counters. -/
theorem gaps_eq_counterGaps {s : Sampler} {last : UInt32} {reports : List Report} (ready : s.Ready)
    (accepted : s.lastCounter = some last)
    (tolerated : Tolerated s.config (counterGaps last (reports.map (·.counter)))) :
    s.gaps reports = counterGaps last (reports.map (·.counter)) := by
  induction reports generalizing s last with
  | nil => rfl
  | cons r rest ih =>
    obtain ⟨near, others⟩ := List.forall_mem_cons.mp tolerated
    have same : s.gap r = counterGap last r.counter := by
      rw [gap, accepted]
      rfl
    rw [← same] at near others
    have first := feed_advanced ready near
    rw [gaps, List.map_cons, counterGaps, ← same]
    refine congrArg (s.gap r :: ·) (ih first.ready ?_ (by rwa [first.config]))
    rw [lastCounter_feed ready near, accepted]
    split <;> rfl

/-- The clock moves by one period for each step of the counter, be it by replicas or by leaps. -/
theorem feedAll_advanced {s : Sampler} {reports : List Report} (ready : s.Ready)
    (tolerated : Tolerated s.config (s.gaps reports)) :
    Advanced s (ahead (s.gaps reports)) (s.feedAll reports).2 := by
  induction reports generalizing s with
  | nil => exact Advanced.refl ready
  | cons r rest ih =>
    obtain ⟨near, others⟩ := List.forall_mem_cons.mp tolerated
    have first := feed_advanced ready near
    exact first.trans (ih first.ready (by rwa [first.config]))

theorem feed_timestamps {s : Sampler} {r : Report} (ready : s.Ready)
    (near : -(s.config.repeatTolerance.toNat : Int) < s.gap r)
    (narrow : s.gap r ≤ s.config.replicationCeiling.toNat) :
    (s.feed r).1.map (·.timestamp) =
      (List.range (s.gap r).toNat).map fun k => s.last.timestamp + s.config.span (k + 1) := by
  by_cases back : s.gap r ≤ 0
  · rw [feed_repeated ready back near, Int.toNat_of_nonpos back]
    rfl
  · obtain ⟨genuine, -, time, samples⟩ := feed_advance (by omega) narrow
    rw [samples, List.map_map]
    apply List.map_congr_left
    intro k _
    show genuine.timestamp + _ = _
    rw [time, SamplingConfig.span_succ, UInt64.add_assoc]

/-- The timestamps of the samples of all reports go on from the last one period by period. -/
theorem feedAll_timestamps {s : Sampler} {reports : List Report} (ready : s.Ready)
    (tolerated : Tolerated s.config (s.gaps reports)) (narrow : Narrow s.config (s.gaps reports)) :
    (s.feedAll reports).1.map (·.timestamp) =
      (List.range (ahead (s.gaps reports))).map fun k =>
        s.last.timestamp + s.config.span (k + 1) := by
  induction reports generalizing s with
  | nil => rfl
  | cons r rest ih =>
    obtain ⟨near, others⟩ := List.forall_mem_cons.mp tolerated
    obtain ⟨low, lows⟩ := List.forall_mem_cons.mp narrow
    have first := feed_advanced ready near
    have tail := ih first.ready (by rwa [first.config]) (by rwa [first.config])
    rw [gaps, ahead, List.range_add, List.map_append, ← feed_timestamps ready near low,
      feedAll_cons, List.map_append, tail, first.clock, first.config, List.map_map]
    congr 1
    apply List.map_congr_left
    intro k _
    show _ = s.last.timestamp + s.config.span ((s.gap r).toNat + k + 1)
    rw [Nat.add_assoc, SamplingConfig.span_add _ (s.gap r).toNat, UInt64.add_assoc]

/-- A timestamp some periods later, as a number, when it is one of sixty-four bits. -/
theorem toNat_add_span {c : SamplingConfig} {time : UInt64} {count total : Nat}
    (le : count ≤ total) (fits : time.toNat + c.devicePeriod / 1000 * total < 2 ^ 64) :
    (time + c.span count).toNat = time.toNat + count * (c.devicePeriod / 1000) := by
  have le' : c.devicePeriod / 1000 * count ≤ c.devicePeriod / 1000 * total :=
    Nat.mul_le_mul_left _ le
  simp only [SamplingConfig.span, SamplingConfig.periodMicros, UInt64.toNat_add, UInt64.toNat_mul,
    UInt64.toNat_ofNat', Nat.add_mod_mod, ← Nat.mul_mod]
  rw [Nat.mul_comm count, Nat.mod_eq_of_lt (Nat.lt_of_le_of_lt (Nat.add_le_add_left le' _) fits)]

/-- A report that is fed: nothing for a repeat, and otherwise the sample of the report with replicas
that differ from it only in their time, as many samples as the gap is wide. -/
theorem feed_samples {s : Sampler} {r : Report} (ready : s.Ready)
    (near : -(s.config.repeatTolerance.toNat : Int) < s.gap r)
    (narrow : s.gap r ≤ s.config.replicationCeiling.toNat) :
    (s.gap r ≤ 0 → s.feed r = ([], s)) ∧
    (1 ≤ s.gap r → ∃ genuine replicas, (s.accept r).1 = some genuine ∧
      (s.feed r).1 = genuine :: replicas ∧ (replicas.length : Int) = s.gap r - 1 ∧
      ∀ m ∈ replicas, m = { genuine with timestamp := m.timestamp }) := by
  refine ⟨fun back => feed_repeated ready back near, fun forth => ?_⟩
  obtain ⟨genuine, taken, -, samples⟩ := feed_advance forth narrow
  obtain ⟨n, hn⟩ : ∃ n, (s.gap r).toNat = n + 1 := ⟨(s.gap r).toNat - 1, by omega⟩
  refine ⟨genuine, (List.range n).map fun k => genuine.later (s.config.span (k + 1)), taken, ?_, ?_,
    ?_⟩
  · rw [samples, hn, List.range_succ_eq_map]
    simp [Function.comp_def]
  · rw [List.length_map, List.length_range]
    omega
  · intro m mem
    obtain ⟨k, -, rfl⟩ := List.mem_map.mp mem
    rfl

/-- Whatever mixture of repeats, late reports, gaps and wrap-arounds comes in, the samples after the
last one are one period apart, as many as the counter makes steps. With leaps among the reports the
clock still ends as many periods later. -/
theorem feedAll_cadence (s : Sampler) (reports : List Report) (ready : s.Ready)
    (tolerated : Tolerated s.config (s.gaps reports))
    (fits : s.last.timestamp.toNat + s.config.devicePeriod / 1000 * ahead (s.gaps reports) <
      2 ^ 64) :
    (Narrow s.config (s.gaps reports) →
      (∀ before r after, reports = before ++ r :: after →
        let t := (s.feedAll before).2
        (t.gap r ≤ 0 → t.feed r = ([], t)) ∧
        (1 ≤ t.gap r → ∃ genuine replicas, (t.accept r).1 = some genuine ∧
          (t.feed r).1 = genuine :: replicas ∧ (replicas.length : Int) = t.gap r - 1 ∧
          ∀ m ∈ replicas, m = { genuine with timestamp := m.timestamp })) ∧
      ∀ k m, (s.feedAll reports).1[k]? = some m →
        m.timestamp.toNat = s.last.timestamp.toNat + (k + 1) * (s.config.devicePeriod / 1000)) ∧
    (s.feedAll reports).2.last.timestamp.toNat =
      s.last.timestamp.toNat + s.config.devicePeriod / 1000 * ahead (s.gaps reports) := by
  refine ⟨fun narrow => ⟨?_, ?_⟩, ?_⟩
  · rintro before r after rfl
    rw [gaps_append] at tolerated narrow
    obtain ⟨past, future⟩ := List.forall_mem_append.mp tolerated
    have until_ := feedAll_advanced ready past
    refine feed_samples until_.ready ?_ ?_
    · rw [until_.config]
      exact (List.forall_mem_cons.mp future).1
    · rw [until_.config]
      exact (List.forall_mem_cons.mp (List.forall_mem_append.mp narrow).2).1
  · intro k m at_k
    have time := congrArg (·[k]?) (feedAll_timestamps ready tolerated narrow)
    simp only [List.getElem?_map, at_k, Option.map_some] at time
    by_cases lt : k < ahead (s.gaps reports)
    · rw [List.getElem?_range lt, Option.map_some, Option.some_inj] at time
      rw [time, toNat_add_span lt fits]
    · rw [List.getElem?_eq_none (by simpa using lt)] at time
      simp at time
  · rw [(feedAll_advanced ready tolerated).clock, toNat_add_span (Nat.le_refl _) fits, Nat.mul_comm]

/-- A counter that repeats, skips two steps across its wrap-around, falls back, and goes on. -/
theorem feedAll_cadence_across_wrap :
    let s : Sampler :=
      { config := {}, lastCounter := some 0xFFFFFFFE, last := { timestamp := 1000 } }
    let reports : List Report :=
      [{ counter := 0xFFFFFFFE }, { counter := 1 }, { counter := 0 }, { counter := 2 }]
    s.Ready ∧ s.gaps reports = [0, 3, -1, 1] ∧ Tolerated s.config (s.gaps reports) ∧
      Narrow s.config (s.gaps reports) ∧
      ((s.feedAll reports).1.map (·.timestamp.toNat))[3]? = some 17000 ∧
      (s.feedAll reports).2.last.timestamp.toNat = 17000 := by
  intro s reports
  have ready : s.Ready := ⟨rfl, rfl⟩
  have gaps : s.gaps reports = [0, 3, -1, 1] :=
    (gaps_eq_counterGaps ready rfl (by unfold Tolerated; decide)).trans (by decide)
  have tolerated : Tolerated s.config (s.gaps reports) := by
    rw [gaps]
    unfold Tolerated
    decide
  have narrow : Narrow s.config (s.gaps reports) := by
    rw [gaps]
    unfold Narrow
    decide
  have count : (s.feedAll reports).1.length = 4 := by
    have := congrArg List.length (feedAll_timestamps ready tolerated narrow)
    rwa [List.length_map, List.length_map, List.length_range, gaps] at this
  obtain ⟨within, clock⟩ := feedAll_cadence s reports ready tolerated (by rw [gaps]; decide)
  refine ⟨ready, gaps, tolerated, narrow, ?_, by rw [clock, gaps]; decide⟩
  have last := List.getElem?_eq_getElem (show 3 < (s.feedAll reports).1.length by omega)
  rw [List.getElem?_map, last, Option.map_some, (within narrow).2 3 _ last]
  decide

end MotionCast.Sampler
