import MotionCast.Proofs.Capture.Observations

/-! Which loss is owed to a restart. The tracker counts a hold down, and owes to the restart the
first loss that comes while some of the hold is left. A run says the same without a counter: it is
the first loss among as many observations as the hold is long. Where there is none, the restart
makes no difference to what is asked for. -/

namespace MotionCast.LossTracker

/-- What observations in a row ask for, and the tracker after them, if none of them breaks off. -/
def trackEach? (t : LossTracker) :
    List (Int64 × Nanos) → Option (List (Option Nanos) × LossTracker)
  | [] => some ([], t)
  | (diff, now) :: later => do
    let (proposal, t) ← t.track? diff now
    let (others, t) ← t.trackEach? later
    return (proposal :: others, t)

/-- The place of the first loss within a hold of that many observations. -/
def owedPlace? (hold : Nat) (observations : List (Int64 × Nanos)) : Option Nat :=
  (observations.take hold).findIdx? fun observation => decide (observation.1 > 1)

/-- The tracker as if it had never heard of a restart. -/
def unaware (t : LossTracker) : LossTracker :=
  { t with holdLeft := 0, stuckTracking := false, noStuckPeriod := 0 }

variable {t after before : LossTracker} {diff : Int64} {now : Nanos} {proposal : Option Nanos}

/-! ### The place of the loss -/

section Place

variable {hold : Nat} {later : List (Int64 × Nanos)}

@[simp] theorem owedPlace?_zero (observations : List (Int64 × Nanos)) :
    owedPlace? 0 observations = none := by
  rw [owedPlace?, List.take_zero, List.findIdx?_nil]

theorem owedPlace?_loss (held : 0 < hold) (loss : diff > 1) :
    owedPlace? hold ((diff, now) :: later) = some 0 := by
  rw [owedPlace?, List.take_cons held, List.findIdx?_cons, decide_eq_true (p := diff > 1) loss,
    if_pos rfl]

theorem owedPlace?_quiet (quiet : ¬diff > 1) :
    owedPlace? hold ((diff, now) :: later) = (owedPlace? (hold - 1) later).map (· + 1) := by
  rcases Nat.eq_zero_or_pos hold with rfl | held
  · rw [owedPlace?_zero, owedPlace?_zero, Option.map_none]
  · rw [owedPlace?, List.take_cons held, List.findIdx?_cons, decide_eq_false quiet]
    rfl

end Place

/-! ### One observation -/

/-- A loss that is owed to a restart ends the hold, and losses in the normal run of frames are no
longer followed. Neither the window nor the time that it counts from changes. -/
theorem eq_of_owed (owed : t.owesToRestart diff = true)
    (tracked : t.track? diff now = some (proposal, after)) :
    after = { t with
      holdLeft := 0, lossTracking := false, lossPeriod := 0, noStuckPeriod := 0
      current := after.current, stuckTracking := after.stuckTracking } := by
  rw [track?_of_owed owed] at tracked
  unfold restartLoss? at tracked
  split at tracked
  · obtain ⟨⟨_, _⟩, asked, eq⟩ := Option.map_eq_some_iff.mp tracked
    obtain ⟨period, -, asked⟩ := Option.bind_eq_some_iff.mp asked
    obtain ⟨next, -, rfl⟩ := propose?_eq_some.mp asked
    cases eq
    rfl
  · cases tracked
    rfl

theorem Change.holdLeft (c : Change t diff now proposal after) :
    after.holdLeft = if t.owesToRestart diff then 0 else t.holdLeft - 1 := by
  cases c with
  | restartCorrected proposal period next owed => rw [if_pos owed]; rfl
  | restartNoted owed => rw [if_pos owed]; rfl
  | waited own => simp [own]
  | unmoved own => simp [own]
  | corrected proposal period next own => simp [own, analyzed]
  | bigNoted own => simp [own, analyzed]
  | smallNoted own => simp [own]

/-- Past an observation the place of the loss is one less, unless the loss was there. -/
theorem Change.owedPlace?_after (c : Change t diff now proposal after)
    (later : List (Int64 × Nanos)) (i : Nat) :
    owedPlace? t.holdLeft ((diff, now) :: later) = some (i + 1) ↔
      owedPlace? after.holdLeft later = some i := by
  rw [c.holdLeft]
  by_cases loss : diff > 1
  · rcases Nat.eq_zero_or_pos t.holdLeft with spent | held
    · simp [spent]
    · rw [owedPlace?_loss held loss, if_pos (owesToRestart_iff.mpr ⟨held, loss⟩)]
      simp
  · have own : ¬t.owesToRestart diff = true := fun owed => loss (owesToRestart_iff.mp owed).2
    rw [owedPlace?_quiet loss, if_neg own]
    simp

theorem owedPlace?_eq_some_zero {later : List (Int64 × Nanos)} :
    owedPlace? t.holdLeft ((diff, now) :: later) = some 0 ↔ t.owesToRestart diff = true := by
  rw [owesToRestart_iff]
  by_cases loss : diff > 1
  · rcases Nat.eq_zero_or_pos t.holdLeft with spent | held
    · simp [spent]
    · simp [owedPlace?_loss held loss, held, loss]
  · simp [owedPlace?_quiet loss, loss]

/-! ### Observations in a row -/

theorem trackEach?_of_track {next : LossTracker}
    (tracked : t.track? diff now = some (proposal, next)) (later : List (Int64 × Nanos)) :
    t.trackEach? ((diff, now) :: later) =
      (next.trackEach? later).map (Prod.map (proposal :: ·) id) := by
  rw [trackEach?, tracked, Option.map_eq_bind]
  rfl

theorem exists_trackEach? {later : List (Int64 × Nanos)} {asked : List (Option Nanos)}
    (run : t.trackEach? ((diff, now) :: later) = some (asked, after)) :
    ∃ proposal next others, t.track? diff now = some (proposal, next) ∧
      next.trackEach? later = some (others, after) := by
  rw [trackEach?] at run
  obtain ⟨⟨proposal, next⟩, tracked, rest⟩ := Option.bind_eq_some_iff.mp run
  obtain ⟨⟨others, last⟩, rest, asks⟩ := Option.bind_eq_some_iff.mp rest
  cases asks
  exact ⟨proposal, next, others, tracked, rest⟩

/-- Along a run, the loss at the place is the only observation that is owed to a restart. -/
theorem owesToRestart_iff_owedPlace? {observations : List (Int64 × Nanos)} {i : Nat}
    {asked : List (Option Nanos)} (placed : observations[i]? = some (diff, now))
    (run : t.trackEach? (observations.take i) = some (asked, before)) :
    before.owesToRestart diff = true ↔ owedPlace? t.holdLeft observations = some i := by
  induction observations generalizing t i asked with
  | nil => cases placed
  | cons first later ih =>
    cases i with
    | zero =>
      obtain rfl := Option.some.inj placed
      cases run
      exact owedPlace?_eq_some_zero.symm
    | succ i =>
      obtain ⟨proposal, next, others, tracked, rest⟩ := exists_trackEach? run
      rw [(change_of_track tracked).owedPlace?_after later i]
      exact ih placed rest

theorem HasRoom.isSome_trackEach? (h : t.HasRoom) (observations : List (Int64 × Nanos)) :
    (t.trackEach? observations).isSome := by
  induction observations generalizing t with
  | nil => rfl
  | cons first later ih =>
    obtain ⟨diff, now⟩ := first
    obtain ⟨⟨proposal, next⟩, tracked⟩ := Option.isSome_iff_exists.mp (h.isSome_track? diff now)
    rw [trackEach?_of_track tracked, Option.isSome_map]
    exact ih (h.change (change_of_track tracked))

/-! ### A tracker that never heard of a restart -/

theorem heard_unaware (t : LossTracker) : t.unaware.heard = t.unaware := rfl

theorem unaware_heard (t : LossTracker) : t.heard.unaware = t.unaware := by
  unfold heard countStuckQuiet
  repeat' split <;> try rfl

theorem unaware_countQuiet (t : LossTracker) : t.countQuiet.unaware = t.unaware.countQuiet := by
  simp only [countQuiet, apply_ite unaware]
  rfl

theorem unaware_propose? (t : LossTracker) (period : Nanos) :
    (t.propose? period).map (Prod.map id unaware) = t.unaware.propose? period := by
  unfold propose?
  rw [Option.map_map]
  exact congrArg (Option.map · _) (funext fun nearest => apply_ite (Prod.map id unaware) ..)

theorem unaware_genericLoss? (t : LossTracker) (diff : Int64) (now : Nanos) :
    (t.genericLoss? diff now).map (Prod.map id unaware) = t.unaware.genericLoss? diff now := by
  have corrects : (((t.target? diff).bind t.propose?).map fun (proposal, after) =>
      (proposal, after.analyzed now)).map (Prod.map id unaware) =
        ((t.unaware.target? diff).bind t.unaware.propose?).map fun (proposal, after) =>
          (proposal, after.analyzed now) := by
    have same : t.unaware.target? diff = t.target? diff := rfl
    rw [same]
    cases t.target? diff with
    | none => rfl
    | some period =>
      rw [Option.bind_some, Option.bind_some, ← unaware_propose?, Option.map_map, Option.map_map]
      rfl
  simp only [genericLoss?, apply_ite (Option.map (Prod.map id unaware)), corrects]
  rfl

theorem unaware_judge? (t : LossTracker) (diff : Int64) (now : Nanos) :
    (t.judge? diff now).map (Prod.map id unaware) = t.unaware.judge? diff now := by
  simp only [judge?, apply_ite (Option.map (Prod.map id unaware)), unaware_genericLoss?,
    Option.map_some, Prod.map_apply, unaware_countQuiet]
  rfl

/-- What is not owed to a restart is judged as if there had been none. -/
theorem unaware_track? (own : t.owesToRestart diff = false) :
    (t.track? diff now).map (Prod.map id unaware) = t.unaware.track? diff now := by
  rw [track?_of_own own, unaware_judge?, unaware_heard, track?_of_own rfl, heard_unaware]

theorem unaware_trackEach? {observations : List (Int64 × Nanos)}
    (none_owed : owedPlace? t.holdLeft observations = none) :
    (t.trackEach? observations).map (Prod.map id unaware) = t.unaware.trackEach? observations := by
  induction observations generalizing t with
  | nil => rfl
  | cons first later ih =>
    obtain ⟨diff, now⟩ := first
    have own : t.owesToRestart diff = false := by
      rw [← Bool.not_eq_true, ← owedPlace?_eq_some_zero, none_owed]
      exact nofun
    cases tracked : t.track? diff now with
    | none =>
      have same : t.unaware.track? diff now = none := by
        rw [← unaware_track? own, tracked, Option.map_none]
      rw [trackEach?, tracked, trackEach?, same]
      rfl
    | some result =>
      obtain ⟨proposal, next⟩ := result
      have same : t.unaware.track? diff now = some (proposal, next.unaware) := by
        rw [← unaware_track? own, tracked]
        rfl
      have none_later : owedPlace? next.holdLeft later = none := by
        refine Option.eq_none_iff_forall_ne_some.mpr fun i there => ?_
        rw [← (change_of_track tracked).owedPlace?_after later i, none_owed] at there
        cases there
      rw [trackEach?_of_track tracked, trackEach?_of_track same, ← ih none_later, Option.map_map,
        Option.map_map]
      rfl

/-- The first loss among as many observations after a restart as the hold is long is owed to the
restart, ends the hold and leaves the window. All others are judged in the normal way, and without
such a loss the restart makes no difference. -/
theorem restart_owed_one_loss (t : LossTracker) (observations : List (Int64 × Nanos)) :
    (t.HasRoom → (t.restartObserved.trackEach? observations).isSome) ∧
    (∀ i diff now asked before, observations[i]? = some (diff, now) →
      t.restartObserved.trackEach? (observations.take i) = some (asked, before) →
      if owedPlace? t.config.readStuckHold observations = some i then
        before.track? diff now = { before with holdLeft := before.holdLeft - 1 }.restartLoss? diff ∧
          ∀ proposal after, before.track? diff now = some (proposal, after) →
            after = { before with
              holdLeft := 0, lossTracking := false, lossPeriod := 0, noStuckPeriod := 0
              current := after.current, stuckTracking := after.stuckTracking }
      else before.track? diff now = before.heard.judge? diff now) ∧
    (owedPlace? t.config.readStuckHold observations = none →
      (t.restartObserved.trackEach? observations).map (Prod.map id unaware) =
        t.unaware.trackEach? observations) := by
  refine ⟨fun room => room.restartObserved.isSome_trackEach? observations, ?_,
    fun none_owed => ?_⟩
  · intro i diff now asked before placed run
    have owes : before.owesToRestart diff = true ↔
        owedPlace? t.config.readStuckHold observations = some i :=
      owesToRestart_iff_owedPlace? placed run
    split
    · rename_i there
      have owed := owes.mpr there
      exact ⟨track?_of_owed owed, fun proposal after tracked => eq_of_owed owed tracked⟩
    · rename_i elsewhere
      exact track?_of_own (Bool.eq_false_iff.mpr (mt owes.mp elsewhere))
  · exact unaware_trackEach? (t := t.restartObserved) none_owed

/-- A quiet frame, a loss that is owed to the restart though the window has not passed, and another
one that waits for it. After ten quiet frames the hold is over, and the first loss waits as well. -/
theorem restart_owed_one_loss_of_second :
    let t := new {} (Nanos.micros 3900) ⟨Nanos.micros 3700, Nanos.micros 4000⟩ 0
    let observations := [(1, Nanos.millis 500), (5, Nanos.millis 600), (5, Nanos.millis 700)]
    let expired := List.replicate 10 (1, Nanos.millis 500) ++ [(5, Nanos.millis 600)]
    let before := { t with holdLeft := 9 }
    let after := { t with current := Nanos.micros 3903 }
    (t.restartObserved.trackEach? observations).isSome ∧
      t.restartObserved.trackEach? (observations.take 1) = some ([none], before) ∧
      owedPlace? t.config.readStuckHold observations = some 1 ∧
      before.track? 5 (Nanos.millis 600) = some (some (Nanos.micros 3903), after) ∧
      after.track? 5 (Nanos.millis 700) = after.heard.judge? 5 (Nanos.millis 700) ∧
      owedPlace? t.config.readStuckHold expired = none ∧
      (t.restartObserved.trackEach? expired).map (Prod.map id unaware) =
        t.unaware.trackEach? expired := by
  intro t observations expired before after
  have first : t.restartObserved.trackEach? (observations.take 1) = some ([none], before) := by
    decide +kernel
  have second : t.restartObserved.trackEach? (observations.take 2) =
      some ([none, some (Nanos.micros 3903)], after) := by decide +kernel
  have there : owedPlace? t.config.readStuckHold observations = some 1 := by decide
  have nowhere : owedPlace? t.config.readStuckHold expired = none := by decide
  have room : t.HasRoom := ⟨by decide, by decide +kernel, by decide, by decide⟩
  obtain ⟨defined, owed, -⟩ := restart_owed_one_loss t observations
  have at_one := owed 1 5 (Nanos.millis 600) _ before rfl first
  rw [if_pos there] at at_one
  have at_two := owed 2 5 (Nanos.millis 700) _ after rfl second
  rw [if_neg (by simp [there])] at at_two
  have corrected : { before with holdLeft := before.holdLeft - 1 }.restartLoss? 5 =
      some (some (Nanos.micros 3903), after) := by decide +kernel
  exact ⟨defined room, first, there, at_one.1.trans corrected, at_two, nowhere,
    (restart_owed_one_loss t expired).2.2 nowhere⟩

end MotionCast.LossTracker
