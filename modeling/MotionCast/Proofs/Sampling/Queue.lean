import MotionCast.Proofs.Sampling.Demands

/-! Which gap the replicas of a sampler belong to. A report whose gap is filled leaves a replica for
each report between, whatever was left before it. Every other report that is accepted leaves the
replicas as they were, so that they belong to the last gap only where none was left then. -/

namespace MotionCast.Sampler

variable {s : Sampler} {r : Report}

/-- The gap to a report is one that replicas fill: it is ahead, but not beyond the ceiling. -/
def Fills (s : Sampler) (r : Report) : Prop :=
  1 ≤ s.gap r ∧ s.gap r ≤ s.config.replicationCeiling.toNat

instance (s : Sampler) (r : Report) : Decidable (s.Fills r) :=
  inferInstanceAs (Decidable (_ ∧ _))

/-- How many replicas the gap to a report asks for. -/
def due (s : Sampler) (r : Report) : Nat := if s.Fills r then (s.gap r).toNat - 1 else 0

/-! ### One report -/

theorem fills_of_advance {by_ : UInt32}
    (step : s.config.counterStep s.lastCounter r.counter = .advance by_) : s.Fills r := by
  cases hlast : s.lastCounter with
  | none => simp [hlast, SamplingConfig.counterStep] at step
  | some last =>
    rw [hlast] at step
    obtain ⟨other, -⟩ | ⟨other, -⟩ | ⟨other, -⟩ | ⟨-, ahead, narrow⟩ :=
      s.config.counterStep_cases last r.counter
    case inr.inr.inr =>
      rw [Fills, gap_of_some hlast]
      exact ⟨ahead, narrow⟩
    all_goals
      rw [other] at step
      contradiction

section Accepted

variable {sample : Motion} {next : Sampler} (accepted : s.accept r = (some sample, next))

include accepted

theorem replicasLeft_of_fills (fills : s.Fills r) : next.replicasLeft.toNat = s.due r := by
  have count := replicasLeft_of_gap fills.1 fills.2 accepted
  rw [due, if_pos fills]
  omega

theorem exists_emit : ∃ time replicas, (some sample, next) = s.emit r time replicas ∧
    (¬s.Fills r → replicas = s.replicasLeft) := by
  rw [← accepted, accept]
  cases step : s.config.counterStep s.lastCounter r.counter with
  | repeated => simp [accept, step] at accepted
  | first => exact ⟨_, _, rfl, fun _ => rfl⟩
  | resync => exact ⟨_, _, rfl, fun _ => rfl⟩
  | leap by_ => exact ⟨_, _, rfl, fun _ => rfl⟩
  | advance by_ => exact ⟨_, _, rfl, fun unfilled => absurd (fills_of_advance step) unfilled⟩

theorem replicasLeft_of_not_fills (unfilled : ¬s.Fills r) : next.replicasLeft = s.replicasLeft := by
  obtain ⟨time, replicas, emitted, same⟩ := exists_emit accepted
  obtain ⟨-, rfl⟩ := Prod.mk.inj emitted
  exact same unfilled

theorem replicasLeft_eq_due_iff :
    next.replicasLeft.toNat = s.due r ↔ s.replicasLeft = 0 ∨ s.Fills r := by
  by_cases fills : s.Fills r
  · simp only [replicasLeft_of_fills accepted fills, fills, or_true]
  · rw [replicasLeft_of_not_fills accepted fills, due, if_neg fills]
    simp only [fills, or_false, ← UInt32.toNat_inj]
    rfl

theorem lastCounter_of_accept_some : next.lastCounter = some r.counter := by
  obtain ⟨time, replicas, emitted, -⟩ := exists_emit accepted
  obtain ⟨-, rfl⟩ := Prod.mk.inj emitted
  rfl

end Accepted

/-! ### Operations in a row -/

/-- How many replicas the last accepted report still asks for after an operation, given how many it
asked for before. -/
def owedAfter (s : Sampler) (owed : Nat) : Operation → Nat
  | .accept r => if (s.accept r).1.isSome then s.due r else owed
  | .replica => owed - 1
  | .reset => 0

/-- Along operations in a row, the replicas that are left are those that the last accepted report
still asks for. -/
def OwesLast (s : Sampler) (owed : Nat) : List Operation → Prop
  | [] => s.replicasLeft.toNat = owed
  | o :: rest => s.replicasLeft.toNat = owed ∧ (s.perform o).2.OwesLast (s.owedAfter owed o) rest

/-- A report may be taken without a replica being mistaken for one of its gap. -/
def Takes (s : Sampler) (r : Report) : Prop := s.IsRepeat r ∨ s.replicasLeft = 0 ∨ s.Fills r

/-- Along operations in a row, every report that is accepted finds no replica left or fills its own
gap. -/
def Orderly (s : Sampler) : List Operation → Prop
  | [] => True
  | o :: rest => (∀ r, o = .accept r → s.Takes r) ∧ (s.perform o).2.Orderly rest

theorem OwesLast.now {owed : Nat} {operations : List Operation} (h : s.OwesLast owed operations) :
    s.replicasLeft.toNat = owed := by
  cases operations with
  | nil => exact h
  | cons o rest => exact h.1

theorem replicasLeft_accept_iff {owed : Nat} (even : s.replicasLeft.toNat = owed) :
    (s.accept r).2.replicasLeft.toNat = s.owedAfter owed (.accept r) ↔ s.Takes r := by
  rw [owedAfter, Takes]
  by_cases again : s.IsRepeat r
  · rw [accept_of_isRepeat again]
    exact ⟨fun _ => .inl again, fun _ => even⟩
  · obtain ⟨sample, next, accepted⟩ := exists_accept again
    rw [← replicasLeft_eq_due_iff accepted, or_iff_right again, accepted]
    rfl

theorem replicasLeft_replica {owed : Nat} (even : s.replicasLeft.toNat = owed) :
    s.nextReplica.2.replicasLeft.toNat = owed - 1 := by
  by_cases zero : s.replicasLeft = 0
  · rw [nextReplica_of_zero zero, ← even, zero]
    rfl
  · have left := replicasLeft_nextReplica (nextReplica_of_ne zero)
    rw [nextReplica_of_ne zero]
    exact Nat.eq_sub_of_add_eq (left.trans even)

theorem replicasLeft_perform_iff {owed : Nat} (even : s.replicasLeft.toNat = owed)
    (o : Operation) :
    (s.perform o).2.replicasLeft.toNat = s.owedAfter owed o ↔ ∀ r, o = .accept r → s.Takes r := by
  cases o with
  | accept r =>
    rw [perform, replicasLeft_accept_iff even]
    constructor
    · rintro takes _ ⟨⟩
      exact takes
    · intro h
      exact h r rfl
  | replica =>
    constructor
    · rintro - _ ⟨⟩
    · intro _
      exact replicasLeft_replica even
  | reset =>
    constructor
    · rintro - _ ⟨⟩
    · intro _
      rfl

theorem orderly_iff {owed : Nat} {operations : List Operation}
    (even : s.replicasLeft.toNat = owed) : s.Orderly operations ↔ s.OwesLast owed operations := by
  induction operations generalizing s owed with
  | nil => exact ⟨fun _ => even, fun _ => trivial⟩
  | cons o rest ih =>
    have step := replicasLeft_perform_iff even o
    constructor
    · rintro ⟨takes, others⟩
      exact ⟨even, (ih (step.mpr takes)).mp others⟩
    · rintro ⟨-, others⟩
      exact ⟨step.mp others.now, (ih others.now).mpr others⟩

/-- A sampler that accepted no report has no replica left. -/
def Blank (s : Sampler) : Prop := s.lastCounter = none → s.replicasLeft = 0

theorem Blank.perform (h : s.Blank) (o : Operation) : (s.perform o).2.Blank := by
  cases o with
  | accept r =>
    rw [Sampler.perform]
    by_cases again : s.IsRepeat r
    · rw [accept_of_isRepeat again]
      exact h
    · obtain ⟨sample, next, accepted⟩ := exists_accept again
      rw [accepted]
      intro none_yet
      rw [lastCounter_of_accept_some accepted] at none_yet
      contradiction
  | replica =>
    rw [Sampler.perform]
    by_cases zero : s.replicasLeft = 0
    · rw [nextReplica_of_zero zero]
      exact h
    · rw [nextReplica_of_ne zero]
      exact fun none_yet => absurd (h none_yet) zero
  | reset => exact fun _ => rfl

theorem Blank.performAll (h : s.Blank) (operations : List Operation) :
    (s.performAll operations).2.Blank := by
  induction operations generalizing s with
  | nil => exact h
  | cons o rest ih => exact ih (h.perform o)

/-- A report that is accepted leaves the replicas of its own gap, or those that were left before.
Every replica belongs to the gap of the last accepted report exactly if none was left for a report
that does not fill its own gap. -/
theorem replicas_of_last_gap (config : SamplingConfig) (operations : List Operation) :
    let s := ((new config).performAll operations).2
    (s.lastCounter = none → s.replicasLeft = 0) ∧
    (∀ r sample next, s.accept r = (some sample, next) →
      (s.Fills r → next.replicasLeft.toNat = (s.gap r).toNat - 1) ∧
      (¬s.Fills r → next.replicasLeft = s.replicasLeft) ∧
      (next.replicasLeft.toNat = s.due r ↔ s.replicasLeft = 0 ∨ s.Fills r)) ∧
    ((new config).Orderly operations ↔ (new config).OwesLast 0 operations) := by
  have blank : (new config).Blank := fun _ => rfl
  refine ⟨blank.performAll operations, ?_, orderly_iff rfl⟩
  intro r sample next accepted
  refine ⟨fun fills => ?_, replicasLeft_of_not_fills accepted, replicasLeft_eq_due_iff accepted⟩
  rw [replicasLeft_of_fills accepted fills, due, if_pos fills]

/-- A report that leaps while two replicas of an older gap are left. -/
theorem replicas_outlive_leap :
    ¬∀ (config : SamplingConfig) (operations : List Operation) (r : Report) (sample : Motion)
      (next : Sampler), ((new config).performAll operations).2.accept r = (some sample, next) →
      next.replicasLeft.toNat = ((new config).performAll operations).2.due r := by
  intro claimed
  let operations : List Operation := [.accept { counter := 5 }, .accept { counter := 8 }]
  let leap : Report := { counter := 500 }
  have fresh : ¬((new {}).performAll operations).2.IsRepeat leap := fun again =>
    absurd again.2.1 (by decide +kernel)
  have left : (((new {}).performAll operations).2.accept leap).2.replicasLeft.toNat = 2 := by
    decide +kernel
  have due : ((new {}).performAll operations).2.due leap = 0 := by decide +kernel
  obtain ⟨sample, next, accepted⟩ := exists_accept fresh
  have same := claimed {} operations leap sample next accepted
  rw [accepted] at left
  rw [due] at same
  exact absurd (left.symm.trans same) (by decide)

end MotionCast.Sampler
