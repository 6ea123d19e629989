import MotionCast.Proofs.Sampling.Clock
import MotionCast.Proofs.Sampling.Layout
import MotionCast.Sampling.Adapter

/-! What an adapter does on a demand for a sample. A replica that is left is given out and no frame
is taken. Otherwise frames are taken, as many as the limit allows, until one is not passed over: its
report yields the sample. Where every frame is passed over, the last sample is given out again. -/

namespace MotionCast

namespace Sampler

variable {s : Sampler} {r : Report}

/-! ### Repeats and frames that are passed over -/

/-- The counter of a report stands where the last accepted one did, or behind it by less than the
tolerance. -/
def IsRepeat (s : Sampler) (r : Report) : Prop :=
  s.lastCounter.isSome ∧ s.gap r ≤ 0 ∧ -(s.config.repeatTolerance.toNat : Int) < s.gap r

/-- A frame is too short for a report, or holds a repeat. -/
def PassesOver (s : Sampler) (frame : Bytes) : Prop :=
  frame.length < Report.size ∨ ∃ r, Report.decode frame = .ok r ∧ s.IsRepeat r

theorem PassesOver.isRepeat {frame : Bytes} (skipped : s.PassesOver frame)
    (decoded : Report.decode frame = .ok r) : s.IsRepeat r := by
  obtain short | ⟨r', decoded', again⟩ := skipped
  · exact absurd (Report.size_le_of_decode_ok decoded) (Nat.not_le_of_lt short)
  · rw [decoded] at decoded'
    cases decoded'
    exact again

theorem isRepeat_of_repeated
    (step : s.config.counterStep s.lastCounter r.counter = .repeated) : s.IsRepeat r := by
  cases hlast : s.lastCounter with
  | none => simp [hlast, SamplingConfig.counterStep] at step
  | some last =>
    have gap_eq := gap_of_some hlast r
    rw [hlast] at step
    obtain ⟨-, back, near⟩ | ⟨other, -⟩ | ⟨other, -⟩ | ⟨other, -⟩ :=
      s.config.counterStep_cases last r.counter
    · exact ⟨by rw [hlast]; rfl, gap_eq ▸ back, gap_eq ▸ near⟩
    all_goals
      rw [other] at step
      contradiction

theorem accept_of_isRepeat (h : s.IsRepeat r) : s.accept r = (none, s) := by
  obtain ⟨accepted, back, near⟩ := h
  obtain ⟨last, hlast⟩ := Option.isSome_iff_exists.mp accepted
  rw [gap_of_some hlast] at back near
  rw [accept, hlast, SamplingConfig.counterStep_repeated back near]

theorem exists_accept (h : ¬s.IsRepeat r) : ∃ sample next, s.accept r = (some sample, next) := by
  unfold accept
  simp only
  cases step : s.config.counterStep s.lastCounter r.counter with
  | repeated => exact absurd (isRepeat_of_repeated step) h
  | first => exact ⟨_, _, rfl⟩
  | resync => exact ⟨_, _, rfl⟩
  | leap by_ => exact ⟨_, _, rfl⟩
  | advance by_ => exact ⟨_, _, rfl⟩

theorem of_accept_some {sample : Motion} {next : Sampler} (h : s.accept r = (some sample, next)) :
    next.last = sample ∧ next.config = s.config := by
  have outcome := outcome_accept s r
  rw [h] at outcome
  cases outcome with
  | sample m t config last onTime => exact ⟨last, config⟩

/-- A report that is ahead, but not beyond the ceiling, leaves a replica for each report between. -/
theorem replicasLeft_of_gap {next : Sampler} {sample : Motion} (ahead : 1 ≤ s.gap r)
    (narrow : s.gap r ≤ s.config.replicationCeiling.toNat)
    (accepted : s.accept r = (some sample, next)) :
    next.replicasLeft.toNat + 1 = (s.gap r).toNat := by
  obtain ⟨replicas, count, emitted⟩ := accept_advance ahead narrow
  rw [emitted] at accepted
  cases accepted
  exact count

/-! ### Operations in a row -/

/-- Along operations in a row, a report is only taken with no replica left. -/
def AcceptsDrained (s : Sampler) : List Operation → Prop
  | [] => True
  | o :: rest => (∀ r, o = .accept r → s.replicasLeft = 0) ∧ (s.perform o).2.AcceptsDrained rest

theorem performAll_append_snd (s : Sampler) (front back : List Operation) :
    (s.performAll (front ++ back)).2 = ((s.performAll front).2.performAll back).2 := by
  induction front generalizing s with
  | nil => rfl
  | cons o rest ih => exact ih (s.perform o).2

theorem fits_append {front back : List Operation} :
    s.Fits (front ++ back) ↔ s.Fits front ∧ (s.performAll front).2.Fits back := by
  induction front generalizing s with
  | nil => exact ⟨fun h => ⟨trivial, h⟩, And.right⟩
  | cons o rest ih => exact (and_congr_right fun _ => ih).trans and_assoc.symm

theorem acceptsDrained_append {front back : List Operation} :
    s.AcceptsDrained (front ++ back) ↔
      s.AcceptsDrained front ∧ (s.performAll front).2.AcceptsDrained back := by
  induction front generalizing s with
  | nil => exact ⟨fun h => ⟨trivial, h⟩, And.right⟩
  | cons o rest ih => exact (and_congr_right fun _ => ih).trans and_assoc.symm

theorem config_performAll (s : Sampler) (operations : List Operation) :
    (s.performAll operations).2.config = s.config := by
  induction operations generalizing s with
  | nil => rfl
  | cons o rest ih =>
    have outcome := outcome_perform s o
    rw [performAll_cons, ih]
    generalize s.perform o = p at outcome
    cases outcome with
    | nothing t config last => exact config
    | sample m t config last onTime => exact config

theorem last_le_last_performAll {operations : List Operation} (fits : s.Fits operations) :
    s.last.timestamp ≤ (s.performAll operations).2.last.timestamp := by
  have pairwise := pairwise_performAll fits
  rw [last_performAll, UInt64.le_iff_toNat_le]
  cases h : (s.performAll operations).1.getLast? with
  | none => exact Nat.le_refl _
  | some m =>
    have follows := (List.pairwise_cons.mp pairwise).1 m (List.mem_of_getLast? h)
    exact Nat.le_trans (Nat.le_add_right _ _) follows

/-! ### Frames in a row -/

/-- What is asked of a sampler for frames that are taken. One that is too short never reaches it. -/
def accepts (frames : List Bytes) : List Operation :=
  frames.filterMap fun frame => (Report.decode frame).toOption.map .accept

theorem accepts_cons_of_error {frame : Bytes} {rest : List Bytes} {e : ShortReport}
    (h : Report.decode frame = .error e) : accepts (frame :: rest) = accepts rest := by
  simp [accepts, h, Except.toOption]

theorem accepts_cons_of_ok {frame : Bytes} {rest : List Bytes} (h : Report.decode frame = .ok r) :
    accepts (frame :: rest) = .accept r :: accepts rest := by
  simp [accepts, h, Except.toOption]

theorem accepts_concat_of_ok {passed : List Bytes} {frame : Bytes}
    (h : Report.decode frame = .ok r) :
    accepts (passed ++ [frame]) = accepts passed ++ [.accept r] := by
  rw [accepts, List.filterMap_append, ← accepts, ← accepts, accepts_cons_of_ok h]
  rfl

theorem performAll_accepts {frames : List Bytes} (drained : s.replicasLeft = 0)
    (skipped : ∀ f ∈ frames, s.PassesOver f) :
    s.AcceptsDrained (accepts frames) ∧ (s.performAll (accepts frames)).2 = s := by
  induction frames with
  | nil => exact ⟨trivial, rfl⟩
  | cons frame rest ih =>
    obtain ⟨first, others⟩ := List.forall_mem_cons.mp skipped
    cases decoded : Report.decode frame with
    | error e =>
      rw [accepts_cons_of_error decoded]
      exact ih others
    | ok r =>
      have taken : s.perform (.accept r) = (none, s) := accept_of_isRepeat (first.isRepeat decoded)
      rw [accepts_cons_of_ok decoded, AcceptsDrained, performAll_cons, taken]
      exact ⟨⟨fun _ _ => drained, (ih others).1⟩, (ih others).2⟩

end Sampler

namespace Adapter

variable {a : Adapter} {limit : Nat} {frames : List Bytes}

/-! ### The search for a sample -/

/-- What a search through frames for a sample comes to. The adapter may have asked for the sensors
on the way. -/
inductive Search (a : Adapter) (limit : Nat) (frames : List Bytes) : Sampling → Prop where
  /-- The first frame that is not passed over yields the sample of its report. -/
  | found (passed : List Bytes) (frame : Bytes) (rest : List Bytes) (r : Report) (sample : Motion)
      (sampler : Sampler) (lastAsked : Option Nanos) (asked : Nat)
      (cut : frames = passed ++ frame :: rest) (within : passed.length < limit)
      (skipped : ∀ f ∈ passed, a.sampler.PassesOver f) (decoded : Report.decode frame = .ok r)
      (accepted : a.sampler.accept r = (some sample, sampler)) :
      Search a limit frames ⟨sample, { sampler, lastAsked, latest := sample }, asked, rest⟩
  /-- Every frame is passed over. -/
  | fruitless (lastAsked : Option Nanos) (asked : Nat)
      (skipped : ∀ f ∈ frames.take limit, a.sampler.PassesOver f) :
      Search a limit frames ⟨a.sampler.last, { a with lastAsked }, asked, frames.drop limit⟩

theorem Search.cons {result : Sampling} {frame : Bytes} {lastAsked : Option Nanos}
    (skipped : a.sampler.PassesOver frame) (h : Search { a with lastAsked } limit frames result) :
    Search a (limit + 1) (frame :: frames) result := by
  cases h with
  | found passed f rest r sample sampler lastAsked asked cut within others decoded accepted =>
    refine .found (frame :: passed) f rest r sample sampler lastAsked asked (by rw [cut]; rfl)
      (Nat.succ_lt_succ within) ?_ decoded accepted
    exact List.forall_mem_cons.mpr ⟨skipped, others⟩
  | fruitless lastAsked asked others =>
    exact .fruitless lastAsked asked (List.forall_mem_cons.mpr ⟨skipped, others⟩)

theorem checkSensors_snd (a : Adapter) (r : Report) (now : Nanos) :
    ∃ lastAsked, (a.checkSensors r now).2 = { a with lastAsked } := by
  unfold checkSensors
  split
  · exact ⟨_, rfl⟩
  · exact ⟨a.lastAsked, rfl⟩

theorem search_fromFrames (a : Adapter) (now : Nanos) (asked limit : Nat) (frames : List Bytes) :
    Search a limit frames (a.fromFrames now asked limit frames) := by
  induction limit generalizing a asked frames with
  | zero => exact .fruitless a.lastAsked asked (by simp)
  | succ limit ih =>
    cases frames with
    | nil => exact .fruitless a.lastAsked asked (by simp)
    | cons frame rest =>
      rw [fromFrames]
      cases decoded : Report.decode frame with
      | error e =>
        have short : a.sampler.PassesOver frame := .inl (Report.length_lt_of_decode_error decoded)
        exact Search.cons short (ih a asked rest)
      | ok r =>
        obtain ⟨lastAsked, checked⟩ := checkSensors_snd a r now
        simp only [checked]
        by_cases again : a.sampler.IsRepeat r
        · rw [Sampler.accept_of_isRepeat again]
          exact (ih _ _ rest).cons (.inr ⟨r, decoded, again⟩)
        · obtain ⟨sample, sampler, accepted⟩ := Sampler.exists_accept again
          simp only [accepted]
          exact .found [] frame rest r sample sampler lastAsked _ rfl (Nat.succ_pos _)
            (List.forall_mem_nil _) decoded accepted

/-! ### A demand -/

theorem next_of_ne {now : Nanos} (left : a.sampler.replicasLeft ≠ 0) :
    a.next frames now =
      ⟨a.sampler.last.later a.sampler.config.periodMicros,
        a.published a.sampler.nextReplica.2 (a.sampler.last.later a.sampler.config.periodMicros),
        0, frames⟩ := by
  rw [next, Sampler.nextReplica_of_ne left]

theorem search_next (drained : a.sampler.replicasLeft = 0) (frames : List Bytes) (now : Nanos) :
    Search a (a.sampler.config.maxRepeatRetries.toNat + 1) frames (a.next frames now) := by
  rw [next, Sampler.nextReplica_of_zero drained]
  exact search_fromFrames a now 0 _ frames

end Adapter

end MotionCast
