import Mathlib.Data.List.Pairwise
import MotionCast.Proofs.Sampling.Viewing

/-! The life of an adapter in its seat, through starts that succeed or fail, stops, frames of any
length and demands. Main result: no report is taken while a replica is left, a gap is filled by as
many replicas as reports were lost, a demand that finds nothing new is answered again with the
previous sample, the times of the answers never decrease, and the adapter shows the last sample of
its sampler. -/

namespace MotionCast.SeatedAdapter

/-! ### Events in a row -/

theorem run_cons (s : SeatedAdapter) (e : Event) (rest : List Event) :
    s.run (e :: rest) =
      ((s.step e).1.toList ++ ((s.step e).2.run rest).1, ((s.step e).2.run rest).2) := rfl

/-- Along events in a row no report is taken while a replica is left, and what is asked of the
sampler leads to the sampler after them. -/
theorem performAll_operations (s : SeatedAdapter) (events : List Event) :
    s.sampler.AcceptsDrained (s.operations events) ∧
      (s.sampler.performAll (s.operations events)).2 = (s.run events).2.sampler := by
  induction events generalizing s with
  | nil => exact ⟨trivial, rfl⟩
  | cons e rest ih =>
    obtain ⟨now, led⟩ := performAll_asks s e
    obtain ⟨later, others⟩ := ih (s.step e).2
    rw [operations, Sampler.acceptsDrained_append, Sampler.performAll_append_snd, led, run_cons]
    exact ⟨⟨now, later⟩, others⟩

theorem config_run (s : SeatedAdapter) (events : List Event) :
    (s.run events).2.sampler.config = s.sampler.config := by
  rw [← (performAll_operations s events).2, Sampler.config_performAll]

theorem ShowsLast.run {s : SeatedAdapter} (before : s.ShowsLast) (events : List Event) :
    (s.run events).2.ShowsLast := by
  induction events generalizing s with
  | nil => exact before
  | cons e rest ih => exact ih (before.step e)

theorem last_run (s : SeatedAdapter) (events : List Event) :
    (s.run events).2.sampler.last =
      ((s.run events).1.getLast?.map (·.sample)).getD s.sampler.last := by
  induction events generalizing s with
  | nil => rfl
  | cons e rest ih =>
    rw [run_cons, ih, last_step, List.getLast?_append]
    cases (((s.step e).2.run rest).1).getLast? with
    | some reply => rfl
    | none => cases (s.step e).1 <;> rfl

/-- No sample is answered that is earlier than one before it. -/
theorem pairwise_run {s : SeatedAdapter} {events : List Event}
    (fits : s.sampler.Fits (s.operations events)) :
    (s.sampler.last :: (s.run events).1.map (·.sample)).Pairwise
      fun earlier later => earlier.timestamp ≤ later.timestamp := by
  induction events generalizing s with
  | nil => exact List.pairwise_singleton _ _
  | cons e rest ih =>
    rw [operations, Sampler.fits_append, (performAll_asks s e).2] at fits
    obtain ⟨now, later⟩ := fits
    have forward := Sampler.last_le_last_performAll now
    have others := ih later
    rw [(performAll_asks s e).2, last_step] at forward
    rw [last_step] at others
    rw [run_cons]
    cases answer : (s.step e).1 with
    | none =>
      rw [answer] at others
      exact others
    | some reply =>
      rw [answer] at forward others
      have : IsTrans Motion fun earlier later => earlier.timestamp ≤ later.timestamp :=
        ⟨fun _ _ _ => UInt64.le_trans⟩
      exact others.cons_cons_of_trans forward

/-! ### Replicas in a row -/

/-- The demands that follow, up to so many and unless the capture is started before, are answered
with replicas of a sample, each a period later than the one before it, and no frame is taken for
them. So many replicas less are left after them. -/
def Replicates (s : SeatedAdapter) (c : SamplingConfig) (sample : Motion) (count : Nat) : Prop :=
  ∀ events : List Event, (∀ result, .started result ∉ events) →
    (s.run events).1.length ≤ count →
    (s.run events).1 =
        (List.range (s.run events).1.length).map
          (fun k => ⟨sample.later (c.span (k + 1)), []⟩) ∧
      (s.run events).2.sampler.replicasLeft.toNat = count - (s.run events).1.length

theorem replicates (s : SeatedAdapter) :
    s.Replicates s.sampler.config s.sampler.last s.sampler.replicasLeft.toNat := by
  intro events
  induction events generalizing s with
  | nil => exact fun _ _ => ⟨rfl, rfl⟩
  | cons e rest ih =>
    intro goes_on within
    have others : ∀ result, .started result ∉ rest :=
      fun result mem => goes_on result (List.mem_cons_of_mem _ mem)
    cases e with
    | started result => exact absurd List.mem_cons_self (goes_on result)
    | stopped => exact ih s others within
    | shown frame => exact ih _ others within
    | demanded arrivals now =>
      have demanded := demanded_demand s arrivals now
      rw [run_cons, step] at within ⊢
      simp only [Option.toList_some, List.singleton_append, List.length_cons] at within ⊢
      generalize s.demand arrivals now = p at demanded within ⊢
      have left : s.sampler.replicasLeft ≠ 0 := by
        intro zero
        simp [zero] at within
      obtain ⟨reply, kept, fewer⟩ := demanded.of_replica left
      obtain ⟨samples, count⟩ := ih p.2 others (by omega)
      refine ⟨?_, by omega⟩
      rw [demanded.last, kept, reply] at samples
      rw [List.range_succ_eq_map, List.map_cons, List.map_map, Nat.zero_add,
        SamplingConfig.span_one, reply, samples]
      simp [Motion.later_later, SamplingConfig.span_succ, Function.comp_def]

/-- No report is taken while a replica is left, and one that is ahead of the last one is followed by
a replica for each report between the two. Without a new report the last sample is given out again,
and times never decrease. -/
theorem demands_served (config : SamplingConfig) (seat : Seat) (history : List Event)
    (fits : (Sampler.new config).Fits ((new config seat).operations history)) :
    let calls := (new config seat).operations history
    let replies := ((new config seat).run history).1
    let s := ((new config seat).run history).2
    let limit := config.maxRepeatRetries.toNat + 1
    ((Sampler.new config).AcceptsDrained calls ∧
      ((Sampler.new config).performAll calls).2 = s.sampler) ∧
    (∀ arrivals now frame r, (s.demand arrivals now).1.taken.getLast? = some frame →
      Report.decode frame = .ok r → 1 ≤ s.sampler.gap r →
      s.sampler.gap r ≤ config.replicationCeiling.toNat →
        (s.sampler.accept r).1 = some (s.demand arrivals now).1.sample ∧
          (s.demand arrivals now).2.Replicates config (s.demand arrivals now).1.sample
            ((s.sampler.gap r).toNat - 1)) ∧
    (∀ arrivals now, s.sampler.replicasLeft = 0 →
      let frames := (s.seat.looks arrivals).map (·.1)
      let reply := (s.demand arrivals now).1
      (∃ passed frame rest r, frames = passed ++ frame :: rest ∧ passed.length < limit ∧
        (∀ f ∈ passed, s.sampler.PassesOver f) ∧ Report.decode frame = .ok r ∧
        ¬s.sampler.IsRepeat r ∧ (s.sampler.accept r).1 = some reply.sample ∧
        reply.taken = passed ++ [frame]) ∨
      ((∀ f ∈ frames.take limit, s.sampler.PassesOver f) ∧
        reply = ⟨(replies.getLast?.map (·.sample)).getD {}, frames.take limit⟩)) ∧
    replies.Pairwise (fun earlier later => earlier.sample.timestamp ≤ later.sample.timestamp) ∧
    s.adapter.latest = ((Sampler.new config).performAll calls).1.getLast?.getD {} := by
  intro calls replies s limit
  obtain ⟨drained, led⟩ := performAll_operations (new config seat) history
  have same : s.sampler.config = config := config_run (new config seat) history
  have last : s.sampler.last = (replies.getLast?.map (·.sample)).getD {} :=
    last_run (new config seat) history
  refine ⟨⟨drained, led⟩, ?gap, ?search, ?forward, ?shown⟩
  case gap =>
    intro arrivals now frame r taken decoded ahead narrow
    have demanded := demanded_demand s arrivals now
    rw [← same] at narrow
    obtain ⟨accepted, kept, count⟩ := demanded.of_gap taken decoded ahead narrow
    have replicas := replicates (s.demand arrivals now).2
    rw [kept, same, demanded.last] at replicas
    rw [← count, Nat.add_sub_cancel]
    exact ⟨accepted, replicas⟩
  case search =>
    intro arrivals now none_left
    have answer := (demanded_demand s arrivals now).of_drained none_left
    rwa [same, last] at answer
  case forward =>
    have ordered := (List.pairwise_cons.mp (pairwise_run (s := new config seat) fits)).2
    rw [List.pairwise_map] at ordered
    exact ordered
  case shown =>
    have new_shows : (new config seat).ShowsLast := rfl
    have shows_last : s.ShowsLast := new_shows.run history
    rw [shows_last, ← led]
    exact Sampler.last_performAll _ calls

/-- The bytes of a report that shows nothing but its counter. -/
def bareFrame (counter : UInt32) : Bytes :=
  Bytes.zeros Report.counterOffset ++ Bytes.ofWord32 counter ++ Bytes.zeros 28

/-- A gap found behind a short frame and a repeat, its replicas before and after a stop, a demand
with nothing new, and a device that starts again at a lower counter after a start that failed. -/
theorem demands_served_through_failed_start :
    let seat : Seat := { feed := Feed.new (Bytes.zeros Report.size) }
    let history : List Event := [.started (.ok ()), .demanded [[bareFrame 5]] 0, .shown [1, 2, 3],
      .demanded [[], [bareFrame 5], [bareFrame 6, bareFrame 8]] 0, .demanded [[bareFrame 9]] 0,
      .stopped, .demanded [] 0, .demanded [] 0, .shown (bareFrame 9),
      .started (.error (.device (.notFound "gone"))), .demanded [[bareFrame 1]] 0]
    let replies := ((new {} seat).run history).1
    (Sampler.new {}).Fits ((new {} seat).operations history) ∧
      replies.map (fun reply => (reply.sample.timestamp.toNat, reply.taken)) =
        [(20000, [bareFrame 5]), (24000, [[1, 2, 3], bareFrame 5, bareFrame 8]), (28000, []),
          (32000, []), (32000, []), (36000, [bareFrame 1])] ∧
      replies.Pairwise fun earlier later => earlier.sample.timestamp ≤ later.sample.timestamp := by
  intro seat history replies
  have fits : (Sampler.new {}).Fits ((new {} seat).operations history) := by decide +kernel
  exact ⟨fits, by decide +kernel, (demands_served {} seat history fits).2.2.2.1⟩

end MotionCast.SeatedAdapter
