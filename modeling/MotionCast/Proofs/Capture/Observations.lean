import MotionCast.Capture.LossTracker

/-! What one observation does to a loss tracker. `Change` lists the ways, each with what leads to
it, the period that is asked for, and what the tracker remembers. While a tracker has room for its
corrections, one of them always comes about, and leaves it with room. -/

namespace MotionCast

namespace Band

theorem contains_iff {b : Band} {period : Nanos} :
    b.contains period = true ↔ b.low ≤ period ∧ period ≤ b.high := by
  simp [contains]

theorem clamp?_eq_some {b : Band} {period nearest : Nanos} :
    b.clamp? period = some nearest ↔
      b.low ≤ b.high ∧ nearest = max b.low (min b.high period) := by
  unfold clamp?
  split
  · rename_i inverted
    exact ⟨nofun, fun h => absurd inverted (Nat.not_lt.mpr h.1)⟩
  · rename_i ordered
    refine ⟨fun h => ⟨Nat.not_lt.mp ordered, (Option.some.inj h).symm⟩, fun h => ?_⟩
    exact congrArg some h.2.symm

theorem contains_of_clamp? {b : Band} {period nearest : Nanos}
    (h : b.clamp? period = some nearest) : b.contains nearest = true := by
  obtain ⟨ordered, rfl⟩ := clamp?_eq_some.mp h
  exact contains_iff.mpr ⟨Nat.le_max_left _ _, Nat.max_le.mpr ⟨ordered, Nat.min_le_left _ _⟩⟩

end Band

namespace LossTracker

/-! ### Asking for a period -/

/-- Asking for a period leads to the nearest one of the band, which is proposed if it is not the
current one. -/
structure Asks (t : LossTracker) (period : Nanos) (proposal : Option Nanos) (next : Nanos) :
    Prop where
  nearest : t.band.clamp? period = some next
  proposal : proposal = if next = t.current then none else some next

theorem propose?_eq_some {t after : LossTracker} {period : Nanos} {proposal : Option Nanos} :
    t.propose? period = some (proposal, after) ↔
      ∃ next, t.Asks period proposal next ∧ after = { t with current := next } := by
  unfold propose?
  constructor
  · intro h
    obtain ⟨next, nearest, eq⟩ := Option.map_eq_some_iff.mp h
    refine ⟨next, ⟨nearest, ?_⟩, ?_⟩
    all_goals
      split at eq
      all_goals
        cases eq
        simp [*]
  · rintro ⟨next, ⟨nearest, rfl⟩, rfl⟩
    rw [nearest, Option.map_some]
    split <;> simp [*]

theorem isSome_propose? {t : LossTracker} (ordered : t.band.low ≤ t.band.high) (period : Nanos) :
    (t.propose? period).isSome := by
  have nearest : t.band.clamp? period = some _ := Band.clamp?_eq_some.mpr ⟨ordered, rfl⟩
  rw [propose?, nearest]
  rfl

/-! ### The parts of an observation -/

/-- A loss among the frames that may owe it to the last restart. -/
def owesToRestart (t : LossTracker) (diff : Int64) : Bool := t.holdLeft > 0 && diff > 1

/-- The tracker after a frame was counted, within a hold or outside of it. -/
def heard (t : LossTracker) : LossTracker :=
  if t.holdLeft > 0 then { t with holdLeft := t.holdLeft - 1 } else t.countStuckQuiet

/-- The window since the last analysis has not passed yet, nor was found to have passed before. -/
def InWindow (t : LossTracker) (now : Nanos) : Prop :=
  t.passedWindow = false ∧ now - t.lastAnalysis ≤ t.config.analysisWindow

instance (t : LossTracker) (now : Nanos) : Decidable (t.InWindow now) :=
  inferInstanceAs (Decidable (_ ∧ _))

/-- The tracker after a frame past the window was counted. -/
def pastWindow (t : LossTracker) : LossTracker := { t.heard with passedWindow := true }.countQuiet

section Frame

variable (t : LossTracker)

@[simp] theorem heard_config : t.heard.config = t.config := by
  unfold heard countStuckQuiet
  repeat' split <;> try rfl

@[simp] theorem heard_band : t.heard.band = t.band := by
  unfold heard countStuckQuiet
  repeat' split <;> try rfl

@[simp] theorem heard_current : t.heard.current = t.current := by
  unfold heard countStuckQuiet
  repeat' split <;> try rfl

@[simp] theorem heard_lastAnalysis : t.heard.lastAnalysis = t.lastAnalysis := by
  unfold heard countStuckQuiet
  repeat' split <;> try rfl

@[simp] theorem heard_passedWindow : t.heard.passedWindow = t.passedWindow := by
  unfold heard countStuckQuiet
  repeat' split <;> try rfl

@[simp] theorem heard_lossTracking : t.heard.lossTracking = t.lossTracking := by
  unfold heard countStuckQuiet
  repeat' split <;> try rfl

@[simp] theorem heard_lossPeriod : t.heard.lossPeriod = t.lossPeriod := by
  unfold heard countStuckQuiet
  repeat' split <;> try rfl

@[simp] theorem heard_holdLeft : t.heard.holdLeft = t.holdLeft - 1 := by
  unfold heard countStuckQuiet
  split
  · rfl
  · rename_i free
    have spent : t.holdLeft = 0 := Nat.eq_zero_of_not_pos free
    repeat' split <;> try simp [spent]

@[simp] theorem pastWindow_config : t.pastWindow.config = t.config := by
  unfold pastWindow countQuiet
  repeat' split <;> try simp

@[simp] theorem pastWindow_band : t.pastWindow.band = t.band := by
  unfold pastWindow countQuiet
  repeat' split <;> try simp

@[simp] theorem pastWindow_current : t.pastWindow.current = t.current := by
  unfold pastWindow countQuiet
  repeat' split <;> try simp

@[simp] theorem pastWindow_lastAnalysis : t.pastWindow.lastAnalysis = t.lastAnalysis := by
  unfold pastWindow countQuiet
  repeat' split <;> try simp

@[simp] theorem pastWindow_passedWindow : t.pastWindow.passedWindow = true := by
  unfold pastWindow countQuiet
  repeat' split <;> try rfl

@[simp] theorem pastWindow_holdLeft : t.pastWindow.holdLeft = t.holdLeft - 1 := by
  unfold pastWindow countQuiet
  repeat' split <;> try simp

end Frame

/-- A loss in the normal run of frames that is judged: it comes past the window, is neither too
small nor too big, and losses are still followed when its own frame is counted. -/
def Judges (t : LossTracker) (diff : Int64) (now : Nanos) : Prop :=
  ¬t.InWindow now ∧ 1 < diff ∧ diff < t.config.maxLossAccepted ∧ t.lossTracking = true ∧
    t.lossPeriod + 1 ≤ t.config.maxLossPeriod

instance (t : LossTracker) (diff : Int64) (now : Nanos) : Decidable (t.Judges diff now) :=
  inferInstanceAs (Decidable (_ ∧ _))

section Judged

variable {t : LossTracker} {diff : Int64} {now : Nanos}

theorem pastWindow_lossTracking :
    t.pastWindow.lossTracking = true ↔
      t.lossTracking = true ∧ t.lossPeriod + 1 ≤ t.config.maxLossPeriod := by
  unfold pastWindow countQuiet
  simp only [heard_lossTracking, heard_lossPeriod, heard_config]
  split
  · simp_all
  · split
    · simp_all
    · simp_all

theorem pastWindow_lossPeriod (followed : t.pastWindow.lossTracking = true) :
    t.pastWindow.lossPeriod = t.lossPeriod + 1 := by
  obtain ⟨followed, fresh⟩ := pastWindow_lossTracking.mp followed
  unfold pastWindow countQuiet
  simp only [heard_lossTracking, heard_lossPeriod, heard_config]
  rw [if_neg (by simp [followed]), if_neg (by omega)]

theorem judges_iff (past : ¬t.InWindow now)
    (loss : ¬(diff ≤ 1 ∨ diff ≥ t.config.maxLossAccepted)) :
    t.Judges diff now ↔ t.pastWindow.lossTracking = true := by
  rw [not_or, Int64.not_le, Int64.not_le] at loss
  rw [pastWindow_lossTracking, Judges]
  exact ⟨fun h => h.2.2.2, fun h => ⟨past, loss.1, loss.2, h⟩⟩

theorem Judges.followed (judges : t.Judges diff now) : t.pastWindow.lossTracking = true :=
  pastWindow_lossTracking.mpr judges.2.2.2

theorem not_judges_of_quiet (quiet : diff ≤ 1 ∨ diff ≥ t.config.maxLossAccepted) :
    ¬t.Judges diff now := by
  rintro ⟨-, lost, few, -⟩
  rcases quiet with still | many
  · exact Int64.not_le.mpr lost still
  · exact Int64.not_le.mpr few many

end Judged

/-! ### One observation -/

/-- The ways in which an observation changes a tracker, with what it asks for. -/
inductive Change (t : LossTracker) (diff : Int64) (now : Nanos) :
    Option Nanos → LossTracker → Prop where
  /-- A loss that is owed to a restart corrects the period. -/
  | restartCorrected (proposal : Option Nanos) (period next : Nanos)
    (owed : t.owesToRestart diff = true) (followed : t.stuckTracking = true ∨ diff > 2)
    (target : t.restartTarget? = some period) (asks : t.Asks period proposal next) :
    Change t diff now proposal { t.forget with current := next }
  /-- A small loss that is owed to a restart is the first of those to be followed. -/
  | restartNoted (owed : t.owesToRestart diff = true) (first : t.stuckTracking = false)
    (small : ¬diff > 2) : Change t diff now none { t.forget with stuckTracking := true }
  /-- The window has not passed. -/
  | waited (own : t.owesToRestart diff = false) (waits : t.InWindow now) :
    Change t diff now none t.heard
  /-- No frame was lost, or so many that the loss is not judged. -/
  | unmoved (own : t.owesToRestart diff = false) (past : ¬t.InWindow now)
    (quiet : diff ≤ 1 ∨ diff ≥ t.config.maxLossAccepted) : Change t diff now none t.pastWindow
  /-- A loss corrects the period when losses are followed. -/
  | corrected (proposal : Option Nanos) (period next : Nanos) (own : t.owesToRestart diff = false)
    (past : ¬t.InWindow now) (loss : ¬(diff ≤ 1 ∨ diff ≥ t.config.maxLossAccepted))
    (followed : t.pastWindow.lossTracking = true)
    (target : t.pastWindow.target? diff = some period)
    (asks : t.pastWindow.Asks period proposal next) :
    Change t diff now proposal { t.pastWindow.analyzed now with current := next }
  /-- A big loss is the first to be followed, and counts as an analysis. -/
  | bigNoted (own : t.owesToRestart diff = false) (past : ¬t.InWindow now)
    (loss : ¬(diff ≤ 1 ∨ diff ≥ t.config.maxLossAccepted))
    (first : t.pastWindow.lossTracking = false) (big : diff > t.config.bigLossThreshold) :
    Change t diff now none { t.pastWindow.analyzed now with lossTracking := true }
  /-- A small loss is the first to be followed. The window stays open for the next one. -/
  | smallNoted (own : t.owesToRestart diff = false) (past : ¬t.InWindow now)
    (loss : ¬(diff ≤ 1 ∨ diff ≥ t.config.maxLossAccepted))
    (first : t.pastWindow.lossTracking = false) (small : ¬diff > t.config.bigLossThreshold) :
    Change t diff now none { t.pastWindow with lossTracking := true, lossPeriod := 0 }

section Track

variable {t after : LossTracker} {diff : Int64} {now : Nanos} {proposal : Option Nanos}

theorem owesToRestart_iff : t.owesToRestart diff = true ↔ 0 < t.holdLeft ∧ diff > 1 := by
  simp [owesToRestart]

theorem track?_of_owed (owed : t.owesToRestart diff = true) :
    t.track? diff now = { t with holdLeft := t.holdLeft - 1 }.restartLoss? diff := by
  obtain ⟨held, loss⟩ := owesToRestart_iff.mp owed
  rw [track?, if_pos held, if_pos loss]

theorem track?_of_own (own : t.owesToRestart diff = false) :
    t.track? diff now = t.heard.judge? diff now := by
  unfold track? heard
  split
  · rename_i held
    have quiet : ¬diff > 1 := by simpa [owesToRestart, held] using own
    rw [if_neg quiet]
  · rfl

/-- Past the window a frame is counted, and then a loss is judged. -/
theorem judge?_heard (past : ¬t.InWindow now) :
    t.heard.judge? diff now =
      if diff ≤ 1 ∨ diff ≥ t.config.maxLossAccepted then some (none, t.pastWindow)
      else t.pastWindow.genericLoss? diff now := by
  have past : ¬(!t.heard.passedWindow && now - t.heard.lastAnalysis ≤
      t.heard.config.analysisWindow) = true := by simpa [InWindow] using past
  rw [judge?, if_neg past]
  change (if _ then some (none, t.pastWindow) else t.pastWindow.genericLoss? diff now) = _
  simp only [Bool.or_eq_true, decide_eq_true_eq, heard_config]

theorem judge?_heard_of_inWindow (waits : t.InWindow now) :
    t.heard.judge? diff now = some (none, t.heard) := by
  rw [judge?, if_pos (by simpa [InWindow] using waits)]

theorem change_of_restartLoss {held : LossTracker} (owed : t.owesToRestart diff = true)
    (is : held = { t with holdLeft := t.holdLeft - 1 })
    (h : held.restartLoss? diff = some (proposal, after)) : Change t diff now proposal after := by
  subst is
  unfold restartLoss? at h
  split at h
  · rename_i followed
    obtain ⟨⟨_, _⟩, asked, eq⟩ := Option.map_eq_some_iff.mp h
    obtain ⟨period, target, asked⟩ := Option.bind_eq_some_iff.mp asked
    obtain ⟨next, asks, rfl⟩ := propose?_eq_some.mp asked
    cases eq
    exact .restartCorrected proposal period next owed (by simpa using followed) target
      ⟨asks.nearest, asks.proposal⟩
  · rename_i first
    simp only [Bool.or_eq_true, decide_eq_true_eq, not_or, Bool.not_eq_true] at first
    cases h
    exact .restartNoted owed first.1 first.2

theorem change_of_genericLoss (own : t.owesToRestart diff = false) (past : ¬t.InWindow now)
    (loss : ¬(diff ≤ 1 ∨ diff ≥ t.config.maxLossAccepted))
    (h : t.pastWindow.genericLoss? diff now = some (proposal, after)) :
    Change t diff now proposal after := by
  unfold genericLoss? at h
  split at h
  · rename_i followed
    obtain ⟨⟨_, _⟩, asked, eq⟩ := Option.map_eq_some_iff.mp h
    obtain ⟨period, target, asked⟩ := Option.bind_eq_some_iff.mp asked
    obtain ⟨next, asks, rfl⟩ := propose?_eq_some.mp asked
    cases eq
    exact .corrected _ period next own past loss followed target asks
  · rename_i first
    rw [Bool.not_eq_true] at first
    split at h
    · rename_i big
      cases h
      exact .bigNoted own past loss first (by simpa using big)
    · rename_i small
      cases h
      exact .smallNoted own past loss first (by simpa using small)

theorem change_of_judge (own : t.owesToRestart diff = false)
    (h : t.heard.judge? diff now = some (proposal, after)) : Change t diff now proposal after := by
  by_cases waits : t.InWindow now
  · rw [judge?_heard_of_inWindow waits] at h
    cases h
    exact .waited own waits
  · rw [judge?_heard waits] at h
    split at h
    · rename_i quiet
      cases h
      exact .unmoved own waits quiet
    · rename_i loss
      exact change_of_genericLoss own waits loss h

/-- Every observation changes the tracker in one of these ways. -/
theorem change_of_track (h : t.track? diff now = some (proposal, after)) :
    Change t diff now proposal after := by
  cases owed : t.owesToRestart diff with
  | true =>
    rw [track?_of_owed owed] at h
    exact change_of_restartLoss owed rfl h
  | false =>
    rw [track?_of_own owed] at h
    exact change_of_judge owed h

theorem Change.config (c : Change t diff now proposal after) : after.config = t.config := by
  cases c <;> simp [forget, analyzed]

theorem Change.band (c : Change t diff now proposal after) : after.band = t.band := by
  cases c <;> simp [forget, analyzed]

/-- What a tracker asks for is its new period, which lies in the band. Asking for nothing leaves the
period as it is. -/
theorem Change.period (c : Change t diff now proposal after) :
    proposal = none ∧ after.current = t.current ∨
      proposal = some after.current ∧ t.band.contains after.current = true := by
  have asked {u : LossTracker} {period next : Nanos} {proposal : Option Nanos}
      (asks : u.Asks period proposal next) :
      proposal = none ∧ next = u.current ∨
        proposal = some next ∧ u.band.contains next = true := by
    by_cases same : next = u.current
    · exact .inl ⟨asks.proposal.trans (if_pos same), same⟩
    · exact .inr ⟨asks.proposal.trans (if_neg same), Band.contains_of_clamp? asks.nearest⟩
  cases c with
  | restartCorrected proposal period next owed followed target asks => exact asked asks
  | corrected proposal period next own past loss followed target asks =>
    simpa using asked asks
  | restartNoted owed first small => exact .inl ⟨rfl, rfl⟩
  | waited own waits => exact .inl ⟨rfl, heard_current t⟩
  | unmoved own past quiet => exact .inl ⟨rfl, pastWindow_current t⟩
  | bigNoted own past loss first big => exact .inl ⟨rfl, pastWindow_current t⟩
  | smallNoted own past loss first small => exact .inl ⟨rfl, pastWindow_current t⟩

/-! ### Observations with a result -/

theorem isSome_restartLoss?_iff (ordered : t.band.low ≤ t.band.high) (diff : Int64) :
    (t.restartLoss? diff).isSome ↔
      (t.stuckTracking = true ∨ diff > 2 → t.restartTarget?.isSome) := by
  unfold restartLoss?
  simp only [Bool.or_eq_true, decide_eq_true_eq]
  split
  · rename_i followed
    rw [Option.isSome_map, Option.isSome_bind]
    cases t.restartTarget? with
    | none => simp [followed]
    | some period => simp [isSome_propose? ordered period]
  · rename_i first
    simp [first]

theorem isSome_genericLoss?_iff (ordered : t.band.low ≤ t.band.high) (diff : Int64) (now : Nanos) :
    (t.genericLoss? diff now).isSome ↔ (t.lossTracking = true → (t.target? diff).isSome) := by
  unfold genericLoss?
  split
  · rename_i followed
    rw [Option.isSome_map, Option.isSome_bind]
    cases t.target? diff with
    | none => simp [followed]
    | some period => simp [isSome_propose? ordered period]
  · rename_i first
    split <;> simp [first]

/-- In a band that does not end before it begins, an observation has a result when what it corrects
to is a duration. -/
theorem isSome_track?_iff (ordered : t.band.low ≤ t.band.high) (diff : Int64) (now : Nanos) :
    (t.track? diff now).isSome ↔
      (t.owesToRestart diff = true → t.stuckTracking = true ∨ diff > 2 →
        t.restartTarget?.isSome) ∧
      (t.owesToRestart diff = false → t.Judges diff now → (t.pastWindow.target? diff).isSome) := by
  cases owed : t.owesToRestart diff with
  | true =>
    rw [track?_of_owed owed, isSome_restartLoss?_iff (by exact ordered)]
    simp [restartTarget?]
  | false =>
    rw [track?_of_own owed]
    by_cases waits : t.InWindow now
    · have unjudged : ¬t.Judges diff now := fun judges => judges.1 waits
      simp [judge?_heard_of_inWindow waits, unjudged]
    · rw [judge?_heard waits]
      split
      · rename_i quiet
        simp [not_judges_of_quiet quiet]
      · rename_i loss
        rw [isSome_genericLoss?_iff (by simpa using ordered), judges_iff waits loss]
        simp

theorem exists_correction? {base : Int64} {quiet : Nat} (fits : InRange base quiet)
    (divisor : Int64) : ∃ c, correction? base quiet divisor = some c ∧ c ≤ Nanos.micros 200 := by
  rw [correction?, if_pos fits]
  refine ⟨_, rfl, Nat.mul_le_mul_right _ ?_⟩
  omega

/-- A tracker has room for its corrections: its band does not end before it begins, a correction
beyond its periods is a duration, and the differences that corrections come from are words. -/
structure HasRoom (t : LossTracker) : Prop where
  ordered : t.band.low ≤ t.band.high
  sums : max t.current t.band.high + Nanos.micros 200 < Nanos.bound
  loss : InRange t.config.correctionBase t.config.maxLossPeriod
  stuck : InRange t.config.correctionBase (max t.noStuckPeriod t.config.maxStuckPeriod)

theorem InRange.shorter {base : Int64} {quiet longer : Nat} (fits : InRange base longer)
    (h : quiet ≤ longer) : InRange base quiet := by
  unfold InRange at *
  omega

theorem HasRoom.isSome_add? (h : t.HasRoom) {c : Nanos} (small : c ≤ Nanos.micros 200) :
    (Nanos.add? t.current c).isSome := by
  have fits : t.current + c < Nanos.bound :=
    Nat.lt_of_le_of_lt (Nat.add_le_add (Nat.le_max_left _ _) small) h.sums
  rw [Nanos.add?, if_pos fits]
  rfl

theorem HasRoom.isSome_track? (h : t.HasRoom) (diff : Int64) (now : Nanos) :
    (t.track? diff now).isSome := by
  refine (isSome_track?_iff h.ordered diff now).mpr ⟨fun _ _ => ?_, fun _ judges => ?_⟩
  · obtain ⟨c, there, small⟩ := exists_correction? (h.stuck.shorter (Nat.le_max_left _ _)) 2000
    rw [restartTarget?, there]
    exact h.isSome_add? small
  · rw [target?, pastWindow_config, pastWindow_current]
    split
    · have within := judges.2.2.2.2
      rw [← pastWindow_lossPeriod judges.followed] at within
      obtain ⟨c, there, -⟩ := exists_correction? (h.loss.shorter within) 400
      rw [there]
      rfl
    · exact h.isSome_add? (by decide)

theorem heard_noStuckPeriod_le (t : LossTracker) :
    t.heard.noStuckPeriod ≤ max t.noStuckPeriod t.config.maxStuckPeriod := by
  unfold heard countStuckQuiet
  split
  · exact Nat.le_max_left _ _
  · split
    · exact Nat.le_max_left _ _
    · split
      · exact Nat.zero_le _
      · rename_i within
        exact Nat.le_trans (Nat.not_lt.mp within) (Nat.le_max_right _ _)

theorem pastWindow_noStuckPeriod (t : LossTracker) :
    t.pastWindow.noStuckPeriod = t.heard.noStuckPeriod := by
  unfold pastWindow countQuiet
  repeat' split <;> try rfl

theorem Change.noStuckPeriod_le (c : Change t diff now proposal after) :
    after.noStuckPeriod ≤ max t.noStuckPeriod t.config.maxStuckPeriod := by
  have past := heard_noStuckPeriod_le t
  rw [← pastWindow_noStuckPeriod] at past
  cases c with
  | restartCorrected | restartNoted => exact Nat.zero_le _
  | waited => exact heard_noStuckPeriod_le t
  | unmoved | corrected | bigNoted | smallNoted => exact past

theorem HasRoom.sums_of_le (h : t.HasRoom) {period : Nanos}
    (bounded : period ≤ max t.current t.band.high) :
    max period t.band.high + Nanos.micros 200 < Nanos.bound :=
  Nat.lt_of_le_of_lt
    (Nat.add_le_add_right (Nat.max_le.mpr ⟨bounded, Nat.le_max_right _ _⟩) _) h.sums

/-- A tracker keeps its room: a new period lies in the band. -/
theorem HasRoom.change (h : t.HasRoom) (c : Change t diff now proposal after) : after.HasRoom := by
  have current : after.current ≤ max t.current t.band.high := by
    rcases c.period with ⟨-, same⟩ | ⟨-, within⟩
    · rw [same]
      exact Nat.le_max_left _ _
    · exact Nat.le_trans (Band.contains_iff.mp within).2 (Nat.le_max_right _ _)
  refine ⟨?_, ?_, ?_, ?_⟩
  · rw [c.band]
    exact h.ordered
  · rw [c.band]
    exact h.sums_of_le current
  · rw [c.config]
    exact h.loss
  · rw [c.config]
    exact h.stuck.shorter (Nat.max_le.mpr ⟨c.noStuckPeriod_le, Nat.le_max_right _ _⟩)

/-- A tracker that begins with another period of the band has room as well. -/
theorem HasRoom.renew (h : t.HasRoom) {period : Nanos} (within : t.band.contains period = true)
    (now : Nanos) : (new t.config period t.band now).HasRoom := by
  refine ⟨h.ordered, ?_, h.loss, h.stuck.shorter ?_⟩
  · exact h.sums_of_le (Nat.le_trans (Band.contains_iff.mp within).2 (Nat.le_max_right _ _))
  · exact Nat.max_le.mpr ⟨Nat.zero_le _, Nat.le_max_right _ _⟩

theorem HasRoom.restartObserved (h : t.HasRoom) : t.restartObserved.HasRoom :=
  ⟨h.ordered, h.sums, h.loss, h.stuck⟩

end Track

end LossTracker

end MotionCast
