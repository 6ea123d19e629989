import MotionCast.Capture.Audience
import MotionCast.Capture.Error
import MotionCast.Proofs.Sampling.Demands

/-! An adapter that views a capture from a seat. Frames of any length are shown to it, each over the
one before, the capture is started and stopped, and samples are demanded. Of a demand it is said
once what it can come to; what it asks of the sampler and what it leaves follows from that. -/

namespace MotionCast

namespace Seat

/-- A frame of any length is shown, over the one shown before. -/
def present (s : Seat) (frame : Bytes) : Seat := { s with feed := s.feed.publish frame }

/-- A frame is displayed in the length of the one shown before. -/
theorem display_eq_present (s : Seat) (frame : Bytes) :
    s.display frame = s.present (s.feed.value.copyOver frame) := rfl

/-- The frames that a viewer finds who looks again and again, each time after some more frames were
shown, and the seat after each look. A look that finds nothing new is the last. -/
def looks (s : Seat) : (arrivals : List (List Bytes)) → List (Bytes × Seat)
  | [] => (s.consume.1.map fun delivery => (delivery.frame, s.consume.2)).toList
  | frames :: rest =>
    match (frames.foldl present s).consume with
    | (none, _) => []
    | (some delivery, next) => (delivery.frame, next) :: next.looks rest

end Seat

/-- An adapter in its seat. -/
structure SeatedAdapter where
  adapter : Adapter
  seat : Seat

namespace SeatedAdapter

/-- What happens to an adapter and its seat. -/
inductive Event where
  /-- The capture is started, which may fail. -/
  | started (result : Except CaptureError Unit)
  | stopped
  | shown (frame : Bytes)
  /-- A sample is demanded, while frames come in before each look. -/
  | demanded (arrivals : List (List Bytes)) (now : Nanos)

/-- The answer to a demand. -/
structure Reply where
  sample : Motion
  /-- The frames that were taken for it. -/
  taken : List Bytes

/-- An adapter that has seen no frame takes a seat. -/
def new (config : SamplingConfig) (seat : Seat) : SeatedAdapter := ⟨Adapter.new config, seat⟩

def sampler (s : SeatedAdapter) : Sampler := s.adapter.sampler

def demand (s : SeatedAdapter) (arrivals : List (List Bytes)) (now : Nanos) :
    Reply × SeatedAdapter :=
  let looks := s.seat.looks arrivals
  let sampling := s.adapter.next (looks.map (·.1)) now
  let taken := looks.take (looks.length - sampling.rest.length)
  (⟨sampling.sample, taken.map (·.1)⟩,
    ⟨sampling.adapter, (taken.getLast?.map (·.2)).getD s.seat⟩)

/-- The answer to an event, if it is a demand, and what is left after the event. A frame that was
left over is dropped at a start. -/
def step (s : SeatedAdapter) : Event → Option Reply × SeatedAdapter
  | .started _ => (none, ⟨s.adapter.restart, s.seat.consume.2⟩)
  | .stopped => (none, s)
  | .shown frame => (none, { s with seat := s.seat.present frame })
  | .demanded arrivals now => ((s.demand arrivals now).1, (s.demand arrivals now).2)

/-- The answers to events in a row, and what is left after them. -/
def run (s : SeatedAdapter) : List Event → List Reply × SeatedAdapter
  | [] => ([], s)
  | e :: rest =>
    let (reply, s) := s.step e
    let (others, s) := s.run rest
    (reply.toList ++ others, s)

/-- What an event asks of the sampler. A demand asks for a replica before it takes a frame. -/
def asks (s : SeatedAdapter) : Event → List Operation
  | .started _ => [.reset]
  | .stopped => []
  | .shown _ => []
  | .demanded arrivals now => .replica :: Sampler.accepts (s.demand arrivals now).1.taken

/-- What events in a row ask of the sampler. -/
def operations (s : SeatedAdapter) : List Event → List Operation
  | [] => []
  | e :: rest => s.asks e ++ (s.step e).2.operations rest

/-! ### What a demand comes to -/

section Demanded

variable {s : SeatedAdapter} {frames : List Bytes} {p : Reply × SeatedAdapter}

/-- What a demand comes to, on the frames that it may take. -/
inductive Demanded (s : SeatedAdapter) (frames : List Bytes) : Reply × SeatedAdapter → Prop where
  /-- A replica is given out, and no frame is taken. -/
  | replica (next : SeatedAdapter) (left : s.sampler.replicasLeft ≠ 0)
      (sampler : next.sampler = s.sampler.nextReplica.2)
      (shown : next.adapter.latest = s.sampler.last.later s.sampler.config.periodMicros) :
      Demanded s frames (⟨s.sampler.last.later s.sampler.config.periodMicros, []⟩, next)
  /-- The first frame that is not passed over yields a sample. -/
  | fresh (passed : List Bytes) (frame : Bytes) (rest : List Bytes) (r : Report) (sample : Motion)
      (next : SeatedAdapter) (drained : s.sampler.replicasLeft = 0)
      (cut : frames = passed ++ frame :: rest)
      (within : passed.length < s.sampler.config.maxRepeatRetries.toNat + 1)
      (skipped : ∀ f ∈ passed, s.sampler.PassesOver f) (decoded : Report.decode frame = .ok r)
      (accepted : s.sampler.accept r = (some sample, next.sampler))
      (shown : next.adapter.latest = sample) :
      Demanded s frames (⟨sample, passed ++ [frame]⟩, next)
  /-- Every frame is passed over, and the last sample is given out again. -/
  | again (next : SeatedAdapter) (drained : s.sampler.replicasLeft = 0)
      (skipped : ∀ f ∈ frames.take (s.sampler.config.maxRepeatRetries.toNat + 1),
        s.sampler.PassesOver f)
      (sampler : next.sampler = s.sampler) (shown : next.adapter.latest = s.adapter.latest) :
      Demanded s frames
        (⟨s.sampler.last, frames.take (s.sampler.config.maxRepeatRetries.toNat + 1)⟩, next)

theorem take_of_eq_append {front rest : List Bytes} (cut : frames = front ++ rest) :
    frames.take (frames.length - rest.length) = front := by
  rw [cut, List.length_append, Nat.add_sub_cancel, List.take_left]

theorem demanded_demand (s : SeatedAdapter) (arrivals : List (List Bytes)) (now : Nanos) :
    Demanded s ((s.seat.looks arrivals).map (·.1)) (s.demand arrivals now) := by
  unfold demand
  have count : (s.seat.looks arrivals).length = ((s.seat.looks arrivals).map (·.1)).length :=
    (List.length_map _).symm
  simp only [List.map_take]
  rw [count]
  generalize ((List.take _ _).getLast?.map _).getD _ = seat
  generalize (s.seat.looks arrivals).map (·.1) = frames
  by_cases drained : s.sampler.replicasLeft = 0
  · have search := Adapter.search_next (a := s.adapter) drained frames now
    generalize s.adapter.next frames now = sampling at search
    cases search with
    | found passed frame rest r sample next lastAsked asked cut within skipped decoded accepted =>
      have taken : frames = (passed ++ [frame]) ++ rest := by rw [cut, List.append_cons]
      rw [take_of_eq_append taken]
      exact .fresh passed frame rest r sample _ drained cut within skipped decoded accepted rfl
    | fruitless lastAsked asked skipped =>
      rw [take_of_eq_append (List.take_append_drop _ frames).symm]
      exact .again _ drained skipped rfl rfl
  · rw [Adapter.next_of_ne drained]
    simp only [Nat.sub_self, List.take_zero]
    exact .replica _ drained rfl rfl

theorem Demanded.last (h : Demanded s frames p) : p.2.sampler.last = p.1.sample := by
  cases h with
  | replica next left sampler shown => rw [sampler, Sampler.nextReplica_of_ne left]
  | fresh passed frame rest r sample next drained cut within skipped decoded accepted shown =>
    exact (Sampler.of_accept_some accepted).1
  | again next drained skipped sampler shown => rw [sampler]

/-- The sample that the adapter shows is the last one of its sampler. -/
def ShowsLast (s : SeatedAdapter) : Prop := s.adapter.latest = s.sampler.last

theorem Demanded.showsLast (h : Demanded s frames p) (before : s.ShowsLast) : p.2.ShowsLast := by
  have last := h.last
  cases h with
  | replica next left sampler shown => exact shown.trans last.symm
  | fresh passed frame rest r sample next drained cut within skipped decoded accepted shown =>
    exact shown.trans last.symm
  | again next drained skipped sampler shown => exact shown.trans (before.trans last.symm)

/-- A demand takes no report while a replica is left. -/
theorem Demanded.asks (h : Demanded s frames p) :
    s.sampler.AcceptsDrained (.replica :: Sampler.accepts p.1.taken) ∧
      (s.sampler.performAll (.replica :: Sampler.accepts p.1.taken)).2 = p.2.sampler := by
  have no_report : ∀ r, Operation.replica = .accept r → s.sampler.replicasLeft = 0 := by
    intro r same
    cases same
  rw [Sampler.AcceptsDrained, Sampler.performAll_cons]
  cases h with
  | replica next left sampler shown => exact ⟨⟨no_report, trivial⟩, sampler.symm⟩
  | fresh passed frame rest r sample next drained cut within skipped decoded accepted shown =>
    have unchanged : s.sampler.perform .replica = (none, s.sampler) :=
      Sampler.nextReplica_of_zero drained
    obtain ⟨first, same⟩ := Sampler.performAll_accepts drained skipped
    rw [unchanged, Sampler.accepts_concat_of_ok decoded, Sampler.acceptsDrained_append,
      Sampler.performAll_append_snd, same]
    refine ⟨⟨no_report, first, fun _ _ => drained, trivial⟩, ?_⟩
    show (s.sampler.accept r).2 = _
    rw [accepted]
  | again next drained skipped sampler shown =>
    have unchanged : s.sampler.perform .replica = (none, s.sampler) :=
      Sampler.nextReplica_of_zero drained
    obtain ⟨first, same⟩ := Sampler.performAll_accepts drained skipped
    rw [unchanged]
    exact ⟨⟨no_report, first⟩, same.trans sampler.symm⟩

theorem Demanded.of_replica (h : Demanded s frames p) (left : s.sampler.replicasLeft ≠ 0) :
    p.1 = ⟨s.sampler.last.later s.sampler.config.periodMicros, []⟩ ∧
      p.2.sampler.config = s.sampler.config ∧
      p.2.sampler.replicasLeft.toNat + 1 = s.sampler.replicasLeft.toNat := by
  cases h with
  | replica next left sampler shown =>
    have fewer := Sampler.replicasLeft_nextReplica (Sampler.nextReplica_of_ne left)
    rw [sampler, Sampler.nextReplica_of_ne left]
    exact ⟨rfl, rfl, fewer⟩
  | fresh passed frame rest r sample next drained => exact absurd drained left
  | again next drained => exact absurd drained left

/-- A demand for which a report is taken that is ahead of the last one, but not beyond the ceiling,
is answered with the sample of the report, and leaves a replica for each report between the two. -/
theorem Demanded.of_gap {frame : Bytes} {r : Report} (h : Demanded s frames p)
    (taken : p.1.taken.getLast? = some frame) (decoded : Report.decode frame = .ok r)
    (ahead : 1 ≤ s.sampler.gap r)
    (narrow : s.sampler.gap r ≤ s.sampler.config.replicationCeiling.toNat) :
    (s.sampler.accept r).1 = some p.1.sample ∧ p.2.sampler.config = s.sampler.config ∧
      p.2.sampler.replicasLeft.toNat + 1 = (s.sampler.gap r).toNat := by
  cases h with
  | replica => cases taken
  | fresh passed f rest r' sample next drained cut within skipped decoded' accepted shown =>
    obtain rfl : f = frame := by simpa using taken
    rw [decoded] at decoded'
    cases decoded'
    have count := Sampler.replicasLeft_of_gap ahead narrow accepted
    exact ⟨by rw [accepted], (Sampler.of_accept_some accepted).2, count⟩
  | again next drained skipped =>
    have again := (skipped frame (List.mem_of_getLast? taken)).isRepeat decoded
    exact absurd again.2.1 (by omega)

/-- A demand without a replica is answered by the first frame that is not passed over, or else again
with the last sample. -/
theorem Demanded.of_drained (h : Demanded s frames p) (drained : s.sampler.replicasLeft = 0) :
    let limit := s.sampler.config.maxRepeatRetries.toNat + 1
    (∃ passed frame rest r, frames = passed ++ frame :: rest ∧ passed.length < limit ∧
      (∀ f ∈ passed, s.sampler.PassesOver f) ∧ Report.decode frame = .ok r ∧
      ¬s.sampler.IsRepeat r ∧ (s.sampler.accept r).1 = some p.1.sample ∧
      p.1.taken = passed ++ [frame]) ∨
    ((∀ f ∈ frames.take limit, s.sampler.PassesOver f) ∧
      p.1 = ⟨s.sampler.last, frames.take limit⟩) := by
  cases h with
  | replica next left => exact absurd drained left
  | fresh passed frame rest r sample next drained cut within skipped decoded accepted shown =>
    refine .inl ⟨passed, frame, rest, r, cut, within, skipped, decoded, fun again => ?_, ?_, rfl⟩
    · rw [Sampler.accept_of_isRepeat again] at accepted
      cases accepted
    · rw [accepted]
  | again next drained skipped sampler shown => exact .inr ⟨skipped, rfl⟩

end Demanded

/-! ### What an event comes to -/

/-- What an event asks of the sampler leads to the sampler after the event, and no report is taken
while a replica is left. -/
theorem performAll_asks (s : SeatedAdapter) (e : Event) :
    s.sampler.AcceptsDrained (s.asks e) ∧
      (s.sampler.performAll (s.asks e)).2 = (s.step e).2.sampler := by
  cases e with
  | started result => exact ⟨⟨nofun, trivial⟩, rfl⟩
  | stopped => exact ⟨trivial, rfl⟩
  | shown frame => exact ⟨trivial, rfl⟩
  | demanded arrivals now => exact (demanded_demand s arrivals now).asks

theorem ShowsLast.step {s : SeatedAdapter} (before : s.ShowsLast) (e : Event) :
    (s.step e).2.ShowsLast := by
  cases e with
  | started result => exact before
  | stopped => exact before
  | shown frame => exact before
  | demanded arrivals now => exact (demanded_demand s arrivals now).showsLast before

theorem last_step (s : SeatedAdapter) (e : Event) :
    (s.step e).2.sampler.last = ((s.step e).1.map (·.sample)).getD s.sampler.last := by
  cases e with
  | started result => rfl
  | stopped => rfl
  | shown frame => rfl
  | demanded arrivals now => exact (demanded_demand s arrivals now).last

end SeatedAdapter

end MotionCast
