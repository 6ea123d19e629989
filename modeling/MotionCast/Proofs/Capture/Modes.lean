import MotionCast.Proofs.Capture.Attribution
import MotionCast.Proofs.Capture.RateLimit

/-! How long a tracker follows losses. It follows those in the normal run of frames and those at
restarts apart, each by a switch and a count of the quiet observations since the last such loss. A
loss sets the count back, and a quiet observation that would take it past its limit turns the switch
off. So the count never passes the limit, it is zero while the switch is off, and the switch does
not stay on for more quiet observations than the limit. -/

namespace MotionCast.LossTracker

/-! ### A switch with a count -/

/-- Whether losses of a kind are followed, and the quiet observations since the last of them. -/
structure Mode where
  on : Bool
  quiet : Nat

namespace Mode

/-- The mode after a quiet observation. Nothing is counted while it is off. -/
def count (limit : Nat) (m : Mode) : Mode :=
  if m.on then if m.quiet + 1 > limit then ⟨false, 0⟩ else ⟨true, m.quiet + 1⟩ else m

/-- The mode after an observation that sets the switch, is counted, or is neither. -/
def next (limit : Nat) (sets? : Option Bool) (counts : Bool) (m : Mode) : Mode :=
  match sets? with
  | some on => ⟨on, 0⟩
  | none => if counts then m.count limit else m

/-- The count is within the limit, and zero while the switch is off. -/
structure Sound (limit : Nat) (m : Mode) : Prop where
  within : m.quiet ≤ limit
  zero_of_off : m.on = false → m.quiet = 0

variable {limit : Nat} {m : Mode}

theorem Sound.set (limit : Nat) (on : Bool) : Sound limit ⟨on, 0⟩ :=
  ⟨Nat.zero_le _, fun _ => rfl⟩

theorem Sound.count (h : m.Sound limit) : (m.count limit).Sound limit := by
  unfold Mode.count
  split
  · split
    · exact .set limit false
    · rename_i within
      exact ⟨Nat.not_lt.mp within, nofun⟩
  · exact h

theorem Sound.next (h : m.Sound limit) (sets? : Option Bool) (counts : Bool) :
    (m.next limit sets? counts).Sound limit := by
  unfold Mode.next
  split
  · exact .set limit _
  · split
    · exact h.count
    · exact h

/-- One observation of those that the limit allows is counted. -/
theorem on_count_iff (n : Nat) :
    (m.count limit).on = true ∧ (m.count limit).quiet + n ≤ limit ↔
      m.on = true ∧ m.quiet + (n + 1) ≤ limit := by
  unfold count
  split
  · rename_i on
    split
    · simp only [Bool.false_eq_true, false_and, on, true_and, false_iff]
      omega
    · simp only [on, true_and]
      omega
  · rename_i off
    simp [off]

/-- An observation that does not turn the switch on leaves it on if it does not turn it off and is
one of those that the limit allows. -/
theorem on_next_iff {sets? : Option Bool} (never : sets? ≠ some true) (counts : Bool) (n : Nat) :
    (m.next limit sets? counts).on = true ∧ (m.next limit sets? counts).quiet + n ≤ limit ↔
      m.on = true ∧ sets? = none ∧ m.quiet + (n + if counts then 1 else 0) ≤ limit := by
  cases sets? with
  | some on =>
    have off : on = false := Bool.eq_false_iff.mpr fun turned => never (congrArg some turned)
    simp [next, off]
  | none =>
    cases counts with
    | false => simp [next]
    | true => simpa [next] using on_count_iff n

end Mode

/-! ### What an observation does to the modes -/

/-- An observation, with the tracker that makes it. -/
structure Observation where
  tracker : LossTracker
  diff : Int64
  now : Nanos

namespace Observation

/-- The observation is a loss that is owed to a restart. -/
def owed (o : Observation) : Bool := o.tracker.owesToRestart o.diff

/-- No frame may owe a loss to a restart at the time of the observation. -/
def outsideHold (o : Observation) : Bool := o.tracker.holdLeft = 0

/-- The window since the last analysis has passed, or was found to have passed before. -/
def pastWindow (o : Observation) : Bool := !decide (o.tracker.InWindow o.now)

/-- The observation is a loss in the normal run of frames that is neither too early nor too big to
be judged. -/
def accepted (o : Observation) : Bool :=
  !o.owed && o.pastWindow && 1 < o.diff && o.diff < o.tracker.config.maxLossAccepted

end Observation

/-- A mode of trackers: its limit, what an observation sets the switch to, if it does, and whether
it is counted otherwise. -/
structure ModeRule where
  mode : LossTracker → Mode
  limit : LossConfig → Nat
  sets? : Observation → Option Bool
  counts : Observation → Bool

/-- Restarts leave the mode as it is, and observations change it by the rule. -/
structure ModeRule.Holds (r : ModeRule) : Prop where
  restarted : ∀ t, r.mode t.restartObserved = r.mode t
  observed : ∀ {t after : LossTracker} {diff now proposal}, Change t diff now proposal after →
    r.mode after = (r.mode t).next (r.limit t.config) (r.sets? ⟨t, diff, now⟩)
      (r.counts ⟨t, diff, now⟩)

/-- Losses in the normal run of frames: an accepted one turns the switch on, one that is owed to a
restart turns it off, and what is quiet past the window is counted. -/
def lossRule : ModeRule where
  mode t := ⟨t.lossTracking, t.lossPeriod⟩
  limit := LossConfig.maxLossPeriod
  sets? o := if o.owed then some false else if o.accepted then some true else none
  counts := Observation.pastWindow

/-- Losses at restarts: one that is owed to a restart starts the count anew, and turns the switch on
if it is small. What is outside a hold is counted. -/
def stuckRule : ModeRule where
  mode t := ⟨t.stuckTracking, t.noStuckPeriod⟩
  limit := LossConfig.maxStuckPeriod
  sets? o := if o.owed then some (o.tracker.stuckTracking || o.diff ≤ 2) else none
  counts := Observation.outsideHold

section Rules

variable {t after : LossTracker} {diff : Int64} {now : Nanos} {proposal : Option Nanos}

theorem lossRule_heard (t : LossTracker) : lossRule.mode t.heard = lossRule.mode t :=
  congrArg₂ Mode.mk (heard_lossTracking t) (heard_lossPeriod t)

theorem lossRule_pastWindow (t : LossTracker) :
    lossRule.mode t.pastWindow = (lossRule.mode t).count t.config.maxLossPeriod := by
  unfold pastWindow countQuiet lossRule Mode.count
  simp only [heard_lossTracking, heard_lossPeriod, heard_config]
  cases followed : t.lossTracking with
  | false => simp
  | true =>
    simp only [Bool.not_true, Bool.false_eq_true, if_false, if_true]
    split <;> simp

theorem stuckRule_heard (t : LossTracker) :
    stuckRule.mode t.heard =
      if t.holdLeft = 0 then (stuckRule.mode t).count t.config.maxStuckPeriod
      else stuckRule.mode t := by
  unfold heard
  rcases Nat.eq_zero_or_pos t.holdLeft with free | held
  · rw [if_neg (by omega), if_pos free]
    unfold countStuckQuiet stuckRule Mode.count
    cases followed : t.stuckTracking with
    | false => simp [followed]
    | true =>
      simp only [Bool.not_true, Bool.false_eq_true, if_false]
      split <;> simp
  · rw [if_pos held, if_neg (by omega)]
    rfl

theorem stuckRule_pastWindow (t : LossTracker) :
    stuckRule.mode t.pastWindow = stuckRule.mode t.heard := by
  unfold pastWindow countQuiet
  repeat' split <;> try rfl

theorem accepted_iff (own : t.owesToRestart diff = false) :
    Observation.accepted ⟨t, diff, now⟩ = true ↔
      ¬t.InWindow now ∧ ¬(diff ≤ 1 ∨ diff ≥ t.config.maxLossAccepted) := by
  simp [Observation.accepted, Observation.owed, Observation.pastWindow, own, and_assoc]

theorem lossRule_sets_of_owed (owed : t.owesToRestart diff = true) :
    lossRule.sets? ⟨t, diff, now⟩ = some false := if_pos owed

theorem lossRule_sets_of_own (own : t.owesToRestart diff = false) :
    lossRule.sets? ⟨t, diff, now⟩ =
      if Observation.accepted ⟨t, diff, now⟩ then some true else none :=
  if_neg (Bool.eq_false_iff.mp own)

theorem stuckRule_sets_of_owed (owed : t.owesToRestart diff = true) :
    stuckRule.sets? ⟨t, diff, now⟩ = some (t.stuckTracking || decide (diff ≤ 2)) := if_pos owed

theorem stuckRule_sets_of_own (own : t.owesToRestart diff = false) :
    stuckRule.sets? ⟨t, diff, now⟩ = none := if_neg (Bool.eq_false_iff.mp own)

theorem lossRule_holds : lossRule.Holds where
  restarted t := rfl
  observed {t after diff now proposal} c := by
    cases c with
    | restartCorrected proposal period next owed followed target asks =>
      rw [lossRule_sets_of_owed owed]
      rfl
    | restartNoted owed first small =>
      rw [lossRule_sets_of_owed owed]
      rfl
    | waited own waits =>
      have early : ¬Observation.accepted ⟨t, diff, now⟩ = true :=
        fun accepted => ((accepted_iff own).mp accepted).1 waits
      have uncounted : lossRule.counts ⟨t, diff, now⟩ = false := by
        simp [lossRule, Observation.pastWindow, waits]
      rw [lossRule_sets_of_own own, if_neg early, uncounted]
      exact lossRule_heard t
    | unmoved own past quiet =>
      have unaccepted : ¬Observation.accepted ⟨t, diff, now⟩ = true :=
        fun accepted => ((accepted_iff own).mp accepted).2 quiet
      have counted : lossRule.counts ⟨t, diff, now⟩ = true := by
        simp [lossRule, Observation.pastWindow, past]
      rw [lossRule_sets_of_own own, if_neg unaccepted, counted]
      exact lossRule_pastWindow t
    | corrected proposal period next own past loss followed target asks =>
      rw [lossRule_sets_of_own own, if_pos ((accepted_iff own).mpr ⟨past, loss⟩)]
      exact congrArg (Mode.mk · 0) followed
    | bigNoted own past loss first big =>
      rw [lossRule_sets_of_own own, if_pos ((accepted_iff own).mpr ⟨past, loss⟩)]
      rfl
    | smallNoted own past loss first small =>
      rw [lossRule_sets_of_own own, if_pos ((accepted_iff own).mpr ⟨past, loss⟩)]
      rfl

theorem stuckRule_holds : stuckRule.Holds where
  restarted t := rfl
  observed {t after diff now proposal} c := by
    have counted (own : t.owesToRestart diff = false) : stuckRule.mode t.heard =
        (stuckRule.mode t).next t.config.maxStuckPeriod (stuckRule.sets? ⟨t, diff, now⟩)
          (stuckRule.counts ⟨t, diff, now⟩) := by
      rw [stuckRule_sets_of_own own, stuckRule_heard]
      simp [Mode.next, stuckRule, Observation.outsideHold]
    have past (own : t.owesToRestart diff = false) := (stuckRule_pastWindow t).trans (counted own)
    cases c with
    | restartCorrected proposal period next owed followed target asks =>
      have same : t.stuckTracking = (t.stuckTracking || decide (diff ≤ 2)) := by
        rcases followed with on | big
        · rw [on, Bool.true_or]
        · rw [decide_eq_false (Int64.not_le.mpr big), Bool.or_false]
      rw [stuckRule_sets_of_owed owed]
      exact congrArg (Mode.mk · 0) same
    | restartNoted owed first small =>
      rw [stuckRule_sets_of_owed owed, first, decide_eq_true (Int64.not_lt.mp small)]
      rfl
    | waited own waits => exact counted own
    | unmoved own => exact past own
    | corrected _ _ _ own => exact past own
    | bigNoted own => exact past own
    | smallNoted own => exact past own

end Rules

/-! ### Modes along a run -/

/-- The observations of a run, each with the tracker that makes it, up to one that breaks off. -/
def observations (t : LossTracker) : List Event → List Observation
  | [] => []
  | .restarted :: later => t.restartObserved.observations later
  | .observed diff now :: later =>
    ⟨t, diff, now⟩ :: match t.track? diff now with
      | none => []
      | some (_, after) => after.observations later

section Run

variable {t after : LossTracker} {later : List Event} {r : ModeRule}

theorem observations_of_track {next : LossTracker} {diff : Int64} {now : Nanos}
    {proposal : Option Nanos} (tracked : t.track? diff now = some (proposal, next))
    (later : List Event) :
    t.observations (.observed diff now :: later) = ⟨t, diff, now⟩ :: next.observations later := by
  rw [observations, tracked]

/-- Where no observation turns the switch on, it stays on as long as none turns it off and those
that are counted do not exceed what the count has left. -/
theorem ModeRule.Holds.on_iff (holds : r.Holds)
    (sound : (r.mode t).Sound (r.limit t.config))
    (never : ∀ o ∈ t.observations later, r.sets? o ≠ some true)
    (run : t.run? later = some after) :
    (r.mode after).on = true ↔ (r.mode t).on = true ∧
      (∀ o ∈ t.observations later, r.sets? o = none) ∧
      (r.mode t).quiet + (t.observations later).countP r.counts ≤ r.limit t.config := by
  induction later generalizing t with
  | nil =>
    obtain rfl := Option.some.inj run
    simp [observations, sound.within]
  | cons e later ih =>
    obtain ⟨proposal, next, step, rest⟩ := exists_run? run
    cases e with
    | restarted =>
      cases step
      have same := holds.restarted t
      rw [← same] at sound ⊢
      exact ih (t := t.restartObserved) sound never rest
    | observed diff now =>
      have tracked : t.track? diff now = some (proposal, next) := step
      have c := change_of_track tracked
      have moved := holds.observed c
      have sound' : (r.mode next).Sound (r.limit next.config) := by
        rw [c.config, moved]
        exact sound.next _ _
      rw [observations_of_track tracked] at never ⊢
      rw [ih sound' (fun o there => never o (.tail _ there)) rest, c.config, moved, and_left_comm,
        Mode.on_next_iff (never _ (.head _)), List.countP_cons, List.forall_mem_cons]
      simp only [and_left_comm, and_assoc]

theorem ModeRule.Holds.off_of_lt (holds : r.Holds)
    (sound : (r.mode t).Sound (r.limit t.config))
    (never : ∀ o ∈ t.observations later, r.sets? o ≠ some true)
    (run : t.run? later = some after)
    (many : r.limit t.config < (t.observations later).countP r.counts) :
    (r.mode after).on = false := by
  refine Bool.eq_false_iff.mpr fun on => ?_
  obtain ⟨-, -, few⟩ := (holds.on_iff sound never run).mp on
  exact Nat.not_le.mpr many (Nat.le_trans (Nat.le_add_left _ _) few)

end Run

/-! ### Trackers in use -/

/-- The counts of a tracker are in order, and so is what is left of a hold. -/
structure Bounded (t : LossTracker) : Prop where
  loss : (lossRule.mode t).Sound t.config.maxLossPeriod
  stuck : (stuckRule.mode t).Sound t.config.maxStuckPeriod
  hold : t.holdLeft ≤ t.config.readStuckHold

section Reached

variable {t after : LossTracker} {diff : Int64} {now : Nanos} {proposal : Option Nanos}

theorem Bounded.new (config : LossConfig) (initial : Nanos) (band : Band) (start : Nanos) :
    (new config initial band start).Bounded :=
  ⟨.set _ false, .set _ false, Nat.zero_le _⟩

theorem Bounded.restartObserved (h : t.Bounded) : t.restartObserved.Bounded :=
  ⟨h.loss, h.stuck, Nat.le_refl _⟩

theorem Bounded.change (h : t.Bounded) (c : Change t diff now proposal after) : after.Bounded := by
  have loss := lossRule_holds.observed c
  have stuck := stuckRule_holds.observed c
  refine ⟨?_, ?_, ?_⟩
  · rw [c.config, loss]
    exact h.loss.next _ _
  · rw [c.config, stuck]
    exact h.stuck.next _ _
  · rw [c.config, c.holdLeft]
    have before := h.hold
    split <;> omega

theorem bounded_of_run {config : LossConfig} {initial : Nanos} {band : Band} {start : Nanos}
    {events : List Event} (run : (new config initial band start).run? events = some t) :
    t.config = config ∧ t.band = band ∧ t.Bounded := by
  refine run?_keeps (P := fun t => t.config = config ∧ t.band = band ∧ t.Bounded) ?_ ?_
    ⟨rfl, rfl, .new config initial band start⟩ run
  · rintro t ⟨same, kept, bounded⟩
    exact ⟨same, kept, bounded.restartObserved⟩
  · rintro t diff now proposal after c ⟨rfl, rfl, bounded⟩
    exact ⟨c.config, c.band, bounded.change c⟩

end Reached

/-- Both counts stay within their limits, and are zero while the losses of their kind are not
followed. Losses of a kind are no longer followed after more observations that count than the limit,
with no loss of that kind among them. -/
theorem modes_expire (config : LossConfig) (initial : Nanos) (band : Band) (start : Nanos)
    (events : List Event) :
    ((new config initial band start).HasRoom →
      ((new config initial band start).run? events).isSome) ∧
    ∀ t, (new config initial band start).run? events = some t →
      t.lossPeriod ≤ config.maxLossPeriod ∧ t.noStuckPeriod ≤ config.maxStuckPeriod ∧
      t.holdLeft ≤ config.readStuckHold ∧
      (t.lossTracking = false → t.lossPeriod = 0) ∧
      (t.stuckTracking = false → t.noStuckPeriod = 0) ∧
      ∀ later after, t.run? later = some after →
        ((∀ o ∈ t.observations later, o.accepted = false) →
          config.maxLossPeriod < (t.observations later).countP Observation.pastWindow →
          after.lossTracking = false) ∧
        ((∀ o ∈ t.observations later, o.owed = false) →
          config.maxStuckPeriod < (t.observations later).countP Observation.outsideHold →
          after.stuckTracking = false) := by
  refine ⟨fun room => room.isSome_run? events, fun t reached => ?_⟩
  obtain ⟨rfl, rfl, bounded⟩ := bounded_of_run reached
  refine ⟨bounded.loss.within, bounded.stuck.within, bounded.hold, bounded.loss.zero_of_off,
    bounded.stuck.zero_of_off, fun later after run => ⟨?_, ?_⟩⟩
  · intro unaccepted many
    refine lossRule_holds.off_of_lt bounded.loss (fun o there => ?_) run many
    simp [lossRule, unaccepted o there]
  · intro unowed many
    refine stuckRule_holds.off_of_lt bounded.stuck (fun o there => ?_) run many
    simp [stuckRule, unowed o there]

/-- Losses of both kinds are followed, then nothing is lost but once so much that it is not judged.
A restart in between holds for two observations, which owe nothing to it. -/
theorem modes_expire_around_restart :
    let config : LossConfig := { maxLossPeriod := 2, maxStuckPeriod := 1, readStuckHold := 2 }
    let band : Band := ⟨Nanos.micros 3700, Nanos.micros 4000⟩
    let fresh := new config (Nanos.micros 3900) band 0
    let events : List Event :=
      [.restarted, .observed 2 (Nanos.millis 500), .observed 5 (Nanos.millis 1500)]
    let later : List Event := [.observed 1000 (Nanos.millis 1600), .restarted,
      .observed 1 (Nanos.millis 1700), .observed 1 (Nanos.millis 1800),
      .observed 1 (Nanos.millis 1900)]
    let t : LossTracker := { fresh with
      noStuckPeriod := 1, lossTracking := true, stuckTracking := true, passedWindow := true }
    let after : LossTracker := { fresh with passedWindow := true }
    (fresh.run? events).isSome ∧ fresh.run? events = some t ∧ t.run? later = some after ∧
      (∀ o ∈ t.observations later, o.accepted = false ∧ o.owed = false) ∧
      (t.observations later).countP Observation.pastWindow = 4 ∧
      (t.observations later).countP Observation.outsideHold = 2 ∧
      t.noStuckPeriod ≤ 1 ∧ after.lossTracking = false ∧ after.stuckTracking = false := by
  intro config band fresh events later t after
  have reached : fresh.run? events = some t := by decide +kernel
  have goesOn : t.run? later = some after := by decide +kernel
  have quiet : ∀ o ∈ t.observations later, o.accepted = false ∧ o.owed = false := by decide +kernel
  have past : (t.observations later).countP Observation.pastWindow = 4 := by decide +kernel
  have outside : (t.observations later).countP Observation.outsideHold = 2 := by decide +kernel
  have room : fresh.HasRoom := ⟨by decide, by decide +kernel, by decide, by decide⟩
  obtain ⟨defined, kept⟩ := modes_expire config (Nanos.micros 3900) band 0 events
  obtain ⟨-, within, -, -, -, expires⟩ := kept t reached
  obtain ⟨loss, stuck⟩ := expires later after goesOn
  refine ⟨defined room, reached, goesOn, quiet, past, outside, within, ?_, ?_⟩
  · exact loss (fun o there => (quiet o there).1) (by rw [past]; decide)
  · exact stuck (fun o there => (quiet o there).2) (by rw [outside]; decide)

end MotionCast.LossTracker
