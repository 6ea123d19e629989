import MotionCast.Proofs.Sampling.Feeding

/-! The clock of a sampler runs forward. Whatever is asked of a sampler, and in which order, every
sample that it gives out lies at least one period of the device after the one before it: also where
the counter falls back, leaps or starts again, and where replicas are left behind. -/

namespace MotionCast

/-- What can be asked of a sampler. -/
inductive Operation where
  | accept (report : Report)
  | replica
  | reset

namespace Sampler

/-- The sample that an operation gives out, if any, and the sampler after it. -/
def perform (s : Sampler) : Operation → Option Motion × Sampler
  | .accept r => s.accept r
  | .replica => s.nextReplica
  | .reset => (none, s.reset)

/-- The samples of operations in a row, and the sampler after them. -/
def performAll (s : Sampler) : List Operation → List Motion × Sampler
  | [] => ([], s)
  | o :: rest =>
    let (sample, s) := s.perform o
    let (others, s) := s.performAll rest
    (sample.toList ++ others, s)

/-- The time of the sample that an operation gives out, as a number without bound. -/
def dueTime (s : Sampler) (o : Operation) : Nat :=
  let period := s.config.periodMicros.toNat
  let last := s.last.timestamp.toNat
  match o with
  | .accept r =>
    match s.config.counterStep s.lastCounter r.counter with
    | .first => max (r.counter.toNat * period) (last + period)
    | .leap by_ => last + by_.toNat * period
    | _ => last + period
  | _ => last + period

/-- Along operations in a row, the time of every sample is one of sixty-four bits. -/
def Fits (s : Sampler) : List Operation → Prop
  | [] => True
  | o :: rest => ((s.perform o).1.isSome → s.dueTime o < 2 ^ 64) ∧ (s.perform o).2.Fits rest

instance decidableFits : (s : Sampler) → (operations : List Operation) →
    Decidable (s.Fits operations)
  | _, [] => .isTrue trivial
  | s, o :: rest =>
    have := decidableFits (s.perform o).2 rest
    inferInstanceAs (Decidable (((s.perform o).1.isSome → s.dueTime o < 2 ^ 64) ∧ _))

/-! ### One operation -/

theorem leap_pos {c : SamplingConfig} {last : Option UInt32} {counter by_ : UInt32}
    (h : c.counterStep last counter = .leap by_) : 1 ≤ by_.toNat := by
  unfold SamplingConfig.counterStep at h
  split at h
  · contradiction
  · split at h
    · split at h <;> contradiction
    · split at h
      · rename_i beyond
        cases h
        exact Nat.lt_of_le_of_lt (Nat.zero_le _) (UInt32.lt_iff_toNat_lt.mp beyond)
      · contradiction

theorem le_dueTime (s : Sampler) (o : Operation) :
    s.last.timestamp.toNat + s.config.periodMicros.toNat ≤ s.dueTime o := by
  cases o with
  | accept r =>
    simp only [dueTime]
    split
    · exact Nat.le_max_right _ _
    · rename_i by_ leap
      have one := Nat.mul_le_mul_right s.config.periodMicros.toNat (leap_pos leap)
      omega
    · exact Nat.le_refl _
  | replica => exact Nat.le_refl _
  | reset => exact Nat.le_refl _

theorem toNat_add_of_lt {a b : UInt64} (fits : a.toNat + b.toNat < 2 ^ 64) :
    (a + b).toNat = a.toNat + b.toNat := by
  rw [UInt64.toNat_add, Nat.mod_eq_of_lt fits]

theorem toNat_mul_of_lt {a b : UInt64} (fits : a.toNat * b.toNat < 2 ^ 64) :
    (a * b).toNat = a.toNat * b.toNat := by
  rw [UInt64.toNat_mul, Nat.mod_eq_of_lt fits]

theorem toNat_max (a b : UInt64) : (max a b).toNat = max a.toNat b.toNat := by
  show (if a ≤ b then b else a).toNat = _
  split
  · rename_i le
    exact (Nat.max_eq_right (UInt64.le_iff_toNat_le.mp le)).symm
  · rename_i gt
    rw [UInt64.le_iff_toNat_le] at gt
    exact (Nat.max_eq_left (Nat.le_of_not_le gt)).symm

/-- What an operation may come to: nothing that a sample would show, or a sample at its due time,
which is then the last one. -/
inductive Outcome (s : Sampler) (o : Operation) : Option Motion × Sampler → Prop where
  | nothing (t : Sampler) (config : t.config = s.config) (last : t.last = s.last) :
    Outcome s o (none, t)
  | sample (m : Motion) (t : Sampler) (config : t.config = s.config) (last : t.last = m)
    (onTime : s.dueTime o < 2 ^ 64 → m.timestamp.toNat = s.dueTime o) : Outcome s o (some m, t)

theorem outcome_emit {s : Sampler} {r : Report} {time : UInt64} {replicas : UInt32}
    (onTime : s.dueTime (.accept r) < 2 ^ 64 → time.toNat = s.dueTime (.accept r)) :
    Outcome s (.accept r) (s.emit r time replicas) :=
  .sample (s.convert r time).1 _ rfl rfl onTime

theorem outcome_accept (s : Sampler) (r : Report) : Outcome s (.accept r) (s.accept r) := by
  unfold accept
  simp only
  cases step : s.config.counterStep s.lastCounter r.counter with
  | first =>
    refine outcome_emit fun fits => ?_
    simp only [dueTime, step] at fits ⊢
    obtain ⟨absolute, next⟩ := Nat.max_lt.mp fits
    have restart : (r.counter.toUInt64 * s.config.periodMicros).toNat =
        r.counter.toNat * s.config.periodMicros.toNat := toNat_mul_of_lt absolute
    rw [toNat_max, toNat_add_of_lt next, restart]
  | repeated => exact .nothing s rfl rfl
  | resync =>
    refine outcome_emit fun fits => ?_
    simp only [dueTime, step] at fits ⊢
    exact toNat_add_of_lt fits
  | leap by_ =>
    refine outcome_emit fun fits => ?_
    simp only [dueTime, step] at fits ⊢
    have jump : (by_.toUInt64 * s.config.periodMicros).toNat =
        by_.toNat * s.config.periodMicros.toNat :=
      toNat_mul_of_lt (Nat.lt_of_le_of_lt (Nat.le_add_left _ _) fits)
    rw [toNat_add_of_lt (by rwa [jump]), jump]
  | advance by_ =>
    refine outcome_emit fun fits => ?_
    simp only [dueTime, step] at fits ⊢
    exact toNat_add_of_lt fits

theorem outcome_perform (s : Sampler) (o : Operation) : Outcome s o (s.perform o) := by
  cases o with
  | accept r => exact outcome_accept s r
  | reset => exact .nothing _ rfl rfl
  | replica =>
    rw [perform]
    by_cases zero : s.replicasLeft = 0
    · rw [nextReplica_of_zero zero]
      exact .nothing s rfl rfl
    · rw [nextReplica_of_ne zero]
      exact .sample _ _ rfl rfl toNat_add_of_lt

/-! ### Operations in a row -/

theorem performAll_cons (s : Sampler) (o : Operation) (rest : List Operation) :
    s.performAll (o :: rest) =
      ((s.perform o).1.toList ++ ((s.perform o).2.performAll rest).1,
        ((s.perform o).2.performAll rest).2) := rfl

/-- The last sample of a sampler is the one that it gave out last. -/
theorem last_performAll (s : Sampler) (operations : List Operation) :
    (s.performAll operations).2.last = (s.performAll operations).1.getLast?.getD s.last := by
  induction operations generalizing s with
  | nil => rfl
  | cons o rest ih =>
    have outcome := outcome_perform s o
    rw [performAll_cons, ih]
    generalize s.perform o = p at outcome
    cases outcome with
    | nothing t config last => rw [last, Option.toList_none, List.nil_append]
    | sample m t config last onTime =>
      rw [last, Option.toList_some, List.singleton_append, List.getLast?_cons]
      rfl

/-- One sample lies at least a period after another. -/
def Follows (period : Nat) (earlier later : Motion) : Prop :=
  earlier.timestamp.toNat + period ≤ later.timestamp.toNat

theorem Follows.trans {period : Nat} {a b c : Motion} (h : Follows period a b)
    (h' : Follows period b c) : Follows period a c :=
  Nat.le_trans h (Nat.le_trans (Nat.le_add_right _ _) h')

theorem pairwise_performAll {s : Sampler} {operations : List Operation}
    (fits : Fits s operations) :
    (s.last :: (s.performAll operations).1).Pairwise (Follows s.config.periodMicros.toNat) := by
  induction operations generalizing s with
  | nil => exact List.pairwise_singleton _ _
  | cons o rest ih =>
    obtain ⟨now, later⟩ := fits
    have due := le_dueTime s o
    have outcome := outcome_perform s o
    have others := ih later
    rw [performAll_cons]
    generalize s.perform o = p at outcome now others
    cases outcome with
    | nothing t config last =>
      rw [config, last] at others
      exact others
    | sample m t config last onTime =>
      rw [config, last] at others
      have first : Follows s.config.periodMicros.toNat s.last m := by
        rw [Follows, onTime (now rfl)]
        exact due
      refine List.pairwise_cons.mpr ⟨fun m' mem => ?_, others⟩
      rcases List.mem_cons.mp mem with rfl | mem
      · exact first
      · exact first.trans ((List.pairwise_cons.mp others).1 m' mem)

/-- Whatever is asked of a new sampler, each sample lies at least one period after all before it, so
that their times increase, and the sampler shows the sample that it gave out last. -/
theorem clock_runs_forward (config : SamplingConfig) (operations : List Operation)
    (ticks : 1 ≤ config.periodMicros.toNat) (fits : Fits (new config) operations) :
    let samples := ((new config).performAll operations).1
    samples.Pairwise (fun earlier later =>
      earlier.timestamp.toNat + config.periodMicros.toNat ≤ later.timestamp.toNat ∧
        earlier.timestamp < later.timestamp) ∧
      ((new config).performAll operations).2.last = samples.getLast?.getD {} := by
  refine ⟨?_, last_performAll (new config) operations⟩
  refine (List.pairwise_cons.mp (pairwise_performAll fits)).2.imp fun follows => ⟨follows, ?_⟩
  rw [UInt64.lt_iff_toNat_lt]
  exact Nat.lt_of_lt_of_le (Nat.lt_add_of_pos_right ticks) follows

/-- A gap whose replicas are left behind, a reset, a device that starts again at a lower counter, a
leap, and a counter that falls back. -/
theorem clock_runs_forward_through_restart :
    let operations : List Operation := [.accept { counter := 5 }, .accept { counter := 8 }, .replica,
      .reset, .accept { counter := 1 }, .accept { counter := 500 }, .accept { counter := 2 }]
    let samples := ((new {}).performAll operations).1
    1 ≤ ({} : SamplingConfig).periodMicros.toNat ∧ Fits (new {}) operations ∧
      samples.map (·.timestamp.toNat) = [20000, 24000, 28000, 32000, 2028000, 2032000] ∧
      samples.Pairwise (fun earlier later => earlier.timestamp.toNat + 4000 ≤ later.timestamp.toNat ∧
        earlier.timestamp < later.timestamp) := by
  intro operations samples
  have fits : Fits (new {}) operations := by
    refine ⟨fun _ => ?_, fun _ => ?_, fun _ => ?_, fun _ => ?_, fun _ => ?_, fun _ => ?_, fun _ => ?_,
      trivial⟩
    all_goals decide +kernel
  have ticks : 1 ≤ ({} : SamplingConfig).periodMicros.toNat := by decide
  exact ⟨ticks, fits, by decide +kernel, (clock_runs_forward {} operations ticks fits).1⟩

end Sampler

end MotionCast
