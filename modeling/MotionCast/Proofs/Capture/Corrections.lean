import Mathlib.Data.Nat.Dist
import MotionCast.Proofs.Capture.Modes

/-! Which way and how far an observation corrects the scan period. A loss after a restart never
shortens it, a big loss in the normal run of frames never lengthens it, and the longer it was quiet
before a loss, the smaller is the correction. An observation that would correct breaks off where the
difference behind its correction is no word, or a longer period is no duration. -/

namespace MotionCast.LossTracker

/-! ### The size of a correction -/

/-- The correction for some quiet frames: what they fall short of the base in parts of a divisor,
cut off toward zero, but from one to two hundred microseconds. -/
def shortfall (base : Int) (quiet : Nat) (divisor : Int) : Nanos :=
  Nanos.micros (max 1 (min 200 ((base - quiet).tdiv divisor))).toNat

section Size

variable {base divisor : Int64} {quiet longer : Nat}

theorem shortfall_antitone {base divisor : Int} (positive : 0 < divisor) (h : quiet ≤ longer) :
    shortfall base longer divisor ≤ shortfall base quiet divisor := by
  have quotient : (base - longer).tdiv divisor ≤ (base - quiet).tdiv divisor :=
    Int.tdiv_le_tdiv positive (by omega)
  apply Nat.mul_le_mul_right
  omega

theorem shortfall_le (base : Int) (quiet : Nat) (divisor : Int) :
    shortfall base quiet divisor ≤ Nanos.micros 200 := by
  apply Nat.mul_le_mul_right
  omega

theorem toInt_sub_ofNat (fits : InRange base quiet) :
    (base - Int64.ofNat quiet).toInt = base.toInt - quiet := by
  have below := base.toInt_lt
  rw [InRange, Int64.toInt_minValue] at fits
  rw [Int64.toInt_sub, Int64.toInt_ofNat', Int.sub_bmod_bmod]
  change (base.toInt - quiet).bmod (2 ^ 64) = base.toInt - quiet
  exact Int.bmod_eq_of_le (by omega) (by omega)

theorem toInt_div_of_pos (positive : 0 < divisor.toInt) (dividend : Int64) :
    (dividend / divisor).toInt = dividend.toInt.tdiv divisor.toInt := by
  apply Int64.toInt_div_of_ne_right
  rintro rfl
  exact absurd positive (by decide)

theorem correction?_of_inRange (positive : 0 < divisor.toInt) (fits : InRange base quiet) :
    correction? base quiet divisor = some (shortfall base.toInt quiet divisor.toInt) := by
  rw [correction?, if_pos fits, toInt_div_of_pos positive, toInt_sub_ofNat fits]
  rfl

theorem correction?_eq_some (positive : 0 < divisor.toInt) {c : Nanos} :
    correction? base quiet divisor = some c ↔
      InRange base quiet ∧ c = shortfall base.toInt quiet divisor.toInt := by
  by_cases fits : InRange base quiet
  · rw [correction?_of_inRange positive fits, Option.some.injEq, and_iff_right fits, eq_comm]
  · simp [correction?, fits]

end Size

/-! ### The period after an observation -/

/-- The period after an observation: longer by a correction up to the end of the band, shorter by
one down to its beginning, longer by a microsecond, or the same. -/
def tuned (t : LossTracker) (diff : Int64) (now : Nanos) : Nanos :=
  if t.owesToRestart diff then
    if t.stuckTracking = true ∨ diff > 2 then
      min t.band.high (t.current + shortfall t.config.correctionBase.toInt t.noStuckPeriod 2000)
    else t.current
  else if t.Judges diff now then
    if diff > t.config.bigLossThreshold then
      max t.band.low
        (t.current - shortfall t.config.correctionBase.toInt (t.lossPeriod + 1) 400)
    else min t.band.high (t.current + Nanos.micros 1)
  else t.current

/-- What an observation would correct the period to can be computed: the difference behind its
correction is a word, and a longer period is a duration. -/
def Affords (t : LossTracker) (diff : Int64) (now : Nanos) : Prop :=
  (t.owesToRestart diff = true → t.stuckTracking = true ∨ diff > 2 →
    InRange t.config.correctionBase t.noStuckPeriod ∧
    t.current + shortfall t.config.correctionBase.toInt t.noStuckPeriod 2000 < Nanos.bound) ∧
  (t.owesToRestart diff = false → t.Judges diff now →
    if diff > t.config.bigLossThreshold then InRange t.config.correctionBase (t.lossPeriod + 1)
    else t.current + Nanos.micros 1 < Nanos.bound)

section Tuned

variable {t after : LossTracker} {diff : Int64} {now : Nanos} {proposal : Option Nanos}

theorem add?_eq_some {a b sum : Nanos} :
    Nanos.add? a b = some sum ↔ a + b < Nanos.bound ∧ sum = a + b := by
  unfold Nanos.add?
  split
  · rename_i fits
    rw [Option.some.injEq, and_iff_right fits, eq_comm]
  · rename_i beyond
    exact ⟨nofun, fun h => absurd h.1 beyond⟩

theorem restartTarget?_eq_some {period : Nanos} :
    t.restartTarget? = some period ↔
      (InRange t.config.correctionBase t.noStuckPeriod ∧
        t.current + shortfall t.config.correctionBase.toInt t.noStuckPeriod 2000 < Nanos.bound) ∧
      period = t.current + shortfall t.config.correctionBase.toInt t.noStuckPeriod 2000 := by
  have positive : 0 < (2000 : Int64).toInt := by decide
  rw [restartTarget?, Option.bind_eq_some_iff]
  constructor
  · rintro ⟨c, there, sum⟩
    obtain ⟨fits, rfl⟩ := (correction?_eq_some positive).mp there
    obtain ⟨small, rfl⟩ := add?_eq_some.mp sum
    exact ⟨⟨fits, small⟩, rfl⟩
  · rintro ⟨⟨fits, small⟩, rfl⟩
    exact ⟨_, (correction?_eq_some positive).mpr ⟨fits, rfl⟩, add?_eq_some.mpr ⟨small, rfl⟩⟩

theorem target?_eq_some (followed : t.pastWindow.lossTracking = true) {period : Nanos} :
    t.pastWindow.target? diff = some period ↔
      if diff > t.config.bigLossThreshold then
        InRange t.config.correctionBase (t.lossPeriod + 1) ∧
        period =
          t.current - shortfall t.config.correctionBase.toInt (t.lossPeriod + 1) 400
      else
        t.current + Nanos.micros 1 < Nanos.bound ∧ period = t.current + Nanos.micros 1 := by
  have positive : 0 < (400 : Int64).toInt := by decide
  rw [target?, pastWindow_config, pastWindow_current, pastWindow_lossPeriod followed]
  split
  · rw [Option.map_eq_some_iff]
    constructor
    · rintro ⟨c, there, rfl⟩
      obtain ⟨fits, rfl⟩ := (correction?_eq_some positive).mp there
      exact ⟨fits, rfl⟩
    · rintro ⟨fits, rfl⟩
      exact ⟨_, (correction?_eq_some positive).mpr ⟨fits, rfl⟩, rfl⟩
  · exact add?_eq_some

/-- With its period in the band, a tracker has a result for the observations that it can afford. -/
theorem isSome_track?_iff_affords (inBand : t.band.contains t.current = true) (diff : Int64)
    (now : Nanos) : (t.track? diff now).isSome ↔ t.Affords diff now := by
  obtain ⟨low, high⟩ := Band.contains_iff.mp inBand
  rw [isSome_track?_iff (Nat.le_trans low high), Affords]
  refine and_congr ?_ ?_
  · simp only [Option.isSome_iff_exists, restartTarget?_eq_some, exists_and_left, exists_eq,
      and_true]
  · refine imp_congr_right fun own => imp_congr_right fun judges => ?_
    simp only [Option.isSome_iff_exists, target?_eq_some judges.followed]
    split <;> simp only [exists_and_left, exists_eq, and_true]

/-- Asked for a longer period than one in the band, the band can only cut it off at its end. -/
theorem Asks.next_of_le {period next : Nanos} (asks : t.Asks period proposal next)
    (inBand : t.band.contains t.current = true) (longer : t.current ≤ period) :
    next = min t.band.high period := by
  obtain ⟨-, rfl⟩ := Band.clamp?_eq_some.mp asks.nearest
  obtain ⟨low, high⟩ := Band.contains_iff.mp inBand
  exact Nat.max_eq_right (Nat.le_min.mpr ⟨Nat.le_trans low high, Nat.le_trans low longer⟩)

theorem Asks.next_of_ge {period next : Nanos} (asks : t.Asks period proposal next)
    (inBand : t.band.contains t.current = true) (shorter : period ≤ t.current) :
    next = max t.band.low period := by
  obtain ⟨-, rfl⟩ := Band.clamp?_eq_some.mp asks.nearest
  have high := (Band.contains_iff.mp inBand).2
  rw [Nat.min_eq_right (Nat.le_trans shorter high)]

/-- An observation tunes the period, whatever else it does. -/
theorem Change.current_eq_tuned (c : Change t diff now proposal after)
    (inBand : t.band.contains t.current = true) : after.current = t.tuned diff now := by
  cases c with
  | restartCorrected proposal period next owed followed target asks =>
    obtain ⟨-, rfl⟩ := restartTarget?_eq_some.mp target
    rw [tuned, if_pos owed, if_pos followed]
    exact asks.next_of_le inBand (Nat.le_add_right _ _)
  | restartNoted owed first small =>
    rw [tuned, if_pos owed, if_neg (by simp [first, small])]
    rfl
  | waited own waits =>
    rw [tuned, if_neg (by simp [own]), if_neg fun judges => judges.1 waits, heard_current]
  | unmoved own past quiet =>
    rw [tuned, if_neg (by simp [own]), if_neg (not_judges_of_quiet quiet), pastWindow_current]
  | corrected proposal period next own past lost followed target asks =>
    have judges := (judges_iff past lost).mpr followed
    have inBand' : t.pastWindow.band.contains t.pastWindow.current = true := by simpa using inBand
    have target := (target?_eq_some followed).mp target
    rw [tuned, if_neg (by simp [own]), if_pos judges]
    split at target
    · rename_i big
      obtain ⟨-, rfl⟩ := target
      rw [if_pos big]
      simpa using asks.next_of_ge inBand' (by simp)
    · rename_i small
      obtain ⟨-, rfl⟩ := target
      rw [if_neg small]
      simpa using asks.next_of_le inBand' (by simp)
  | bigNoted own past lost first big =>
    have unjudged : ¬t.Judges diff now := by simp [judges_iff past lost, first]
    rw [tuned, if_neg (by simp [own]), if_neg unjudged]
    exact pastWindow_current t
  | smallNoted own past lost first small =>
    have unjudged : ¬t.Judges diff now := by simp [judges_iff past lost, first]
    rw [tuned, if_neg (by simp [own]), if_neg unjudged]
    exact pastWindow_current t

/-- A new period is asked for, and the present one never. -/
theorem Change.proposal_eq (c : Change t diff now proposal after) :
    proposal = if after.current = t.current then none else some after.current := by
  cases c with
  | restartCorrected proposal period next owed followed target asks => exact asks.proposal
  | corrected proposal period next own past loss followed target asks =>
    simpa using asks.proposal
  | restartNoted => exact (if_pos rfl).symm
  | waited => exact (if_pos (heard_current t)).symm
  | unmoved => exact (if_pos (pastWindow_current t)).symm
  | bigNoted => exact (if_pos (pastWindow_current t)).symm
  | smallNoted => exact (if_pos (pastWindow_current t)).symm

end Tuned

/-! ### Which way, and how far -/

section Direction

variable {t : LossTracker} {diff : Int64} {now : Nanos}

theorem le_tuned_of_owed (inBand : t.band.contains t.current = true)
    (owed : t.owesToRestart diff = true) : t.current ≤ t.tuned diff now := by
  rw [tuned, if_pos owed]
  split
  · exact Nat.le_min.mpr ⟨(Band.contains_iff.mp inBand).2, Nat.le_add_right _ _⟩
  · exact Nat.le_refl _

theorem tuned_le_of_big (inBand : t.band.contains t.current = true)
    (own : t.owesToRestart diff = false) (judges : t.Judges diff now)
    (big : diff > t.config.bigLossThreshold) : t.tuned diff now ≤ t.current := by
  rw [tuned, if_neg (by simp [own]), if_pos judges, if_pos big]
  exact Nat.max_le.mpr ⟨(Band.contains_iff.mp inBand).1, Nat.sub_le _ _⟩

/-- How far an observation moves the period: by a correction, or as far as the band goes. -/
def moved (t : LossTracker) (diff : Int64) (now : Nanos) : Nat :=
  if t.owesToRestart diff then
    if t.stuckTracking = true ∨ diff > 2 then
      min (t.band.high - t.current) (shortfall t.config.correctionBase.toInt t.noStuckPeriod 2000)
    else 0
  else if t.Judges diff now then
    if diff > t.config.bigLossThreshold then
      min (t.current - t.band.low)
        (shortfall t.config.correctionBase.toInt (t.lossPeriod + 1) 400)
    else min (t.band.high - t.current) (Nanos.micros 1)
  else 0

theorem dist_longer {c high u : Nat} (h : c ≤ high) :
    Nat.dist c (min high (c + u)) = min (high - c) u := by
  unfold Nat.dist
  omega

theorem dist_shorter {c low u : Nat} (h : low ≤ c) :
    Nat.dist c (max low (c - u)) = min (c - low) u := by
  unfold Nat.dist
  omega

theorem dist_tuned (inBand : t.band.contains t.current = true) :
    Nat.dist t.current (t.tuned diff now) = t.moved diff now := by
  obtain ⟨low, high⟩ := Band.contains_iff.mp inBand
  unfold tuned moved
  split
  · split
    · exact dist_longer high
    · exact Nat.dist_self _
  · split
    · split
      · exact dist_shorter low
      · exact dist_longer high
    · exact Nat.dist_self _

theorem moved_le : t.moved diff now ≤ Nanos.micros 200 := by
  unfold moved
  split
  · split
    · exact Nat.le_trans (Nat.min_le_right _ _) (shortfall_le _ _ _)
    · exact Nat.zero_le _
  · split
    · split
      · exact Nat.le_trans (Nat.min_le_right _ _) (shortfall_le _ _ _)
      · exact Nat.le_trans (Nat.min_le_right _ _) (by decide)
    · exact Nat.zero_le _

/-- The tracker with other counts of quiet frames. -/
def quieted (t : LossTracker) (loss stuck : Nat) : LossTracker :=
  { t with lossPeriod := loss, noStuckPeriod := stuck }

/-- All else equal, more quiet frames never move the period farther. -/
theorem moved_quieted {loss stuck : Nat} (lossLonger : t.lossPeriod ≤ loss)
    (stuckLonger : t.noStuckPeriod ≤ stuck) :
    (t.quieted loss stuck).moved diff now ≤ t.moved diff now := by
  have judges : (t.quieted loss stuck).Judges diff now → t.Judges diff now :=
    fun ⟨past, lost, few, followed, fresh⟩ =>
      ⟨past, lost, few, followed, Nat.le_trans (Nat.succ_le_succ lossLonger) fresh⟩
  have owes : (t.quieted loss stuck).owesToRestart diff = t.owesToRestart diff := rfl
  have follows : (t.quieted loss stuck).stuckTracking = t.stuckTracking := rfl
  have sizes : (t.quieted loss stuck).config = t.config := rfl
  rw [moved, moved]
  by_cases owed : t.owesToRestart diff = true
  · rw [if_pos (owes.trans owed), if_pos owed]
    by_cases followed : t.stuckTracking = true ∨ diff > 2
    · rw [if_pos (follows ▸ followed), if_pos followed]
      exact min_le_min_left _ (shortfall_antitone (by decide) stuckLonger)
    · rw [if_neg (follows ▸ followed), if_neg followed]
  rw [if_neg (owes ▸ owed), if_neg owed]
  by_cases quieter : (t.quieted loss stuck).Judges diff now
  · rw [if_pos quieter, if_pos (judges quieter)]
    by_cases big : diff > t.config.bigLossThreshold
    · rw [if_pos (sizes ▸ big), if_pos big]
      exact min_le_min_left _ (shortfall_antitone (by decide) (Nat.succ_le_succ lossLonger))
    · rw [if_neg (sizes ▸ big), if_neg big]
      exact Nat.le_refl _
  · rw [if_neg quieter]
    exact Nat.zero_le _

end Direction

/-- An observation that the tracker can afford moves its period by two hundred microseconds at most,
and asks for the new one. A loss that is owed to a restart never shortens it, a big loss never
lengthens it, and more quiet frames never move it farther. -/
theorem corrections_directed {t : LossTracker} (inBand : t.band.contains t.current = true)
    (diff : Int64) (now : Nanos) :
    ((t.track? diff now).isSome ↔ t.Affords diff now) ∧
    ∀ proposal after, t.track? diff now = some (proposal, after) →
      proposal = (if after.current = t.current then none else some after.current) ∧
      after.current = t.tuned diff now ∧
      Nat.dist t.current after.current ≤ Nanos.micros 200 ∧
      (t.owesToRestart diff = true → t.current ≤ after.current) ∧
      (t.owesToRestart diff = false → t.Judges diff now → diff > t.config.bigLossThreshold →
        after.current ≤ t.current) ∧
      ∀ loss stuck, t.lossPeriod ≤ loss → t.noStuckPeriod ≤ stuck →
        ∀ proposal' after', (t.quieted loss stuck).track? diff now = some (proposal', after') →
          Nat.dist t.current after'.current ≤ Nat.dist t.current after.current := by
  refine ⟨isSome_track?_iff_affords inBand diff now, fun proposal after tracked => ?_⟩
  have c := change_of_track tracked
  have is_tuned := c.current_eq_tuned inBand
  refine ⟨c.proposal_eq, is_tuned, ?_, ?_, ?_, ?_⟩
  · rw [is_tuned, dist_tuned inBand]
    exact moved_le
  · intro owed
    rw [is_tuned]
    exact le_tuned_of_owed inBand owed
  · intro own judges big
    rw [is_tuned]
    exact tuned_le_of_big inBand own judges big
  · intro loss stuck lossLonger stuckLonger proposal' after' tracked'
    have inBand' : (t.quieted loss stuck).band.contains (t.quieted loss stuck).current = true :=
      inBand
    have is_tuned' := (change_of_track tracked').current_eq_tuned inBand'
    have farther : Nat.dist t.current ((t.quieted loss stuck).tuned diff now) =
        (t.quieted loss stuck).moved diff now := dist_tuned (t := t.quieted loss stuck) inBand'
    rw [is_tuned, dist_tuned inBand, is_tuned', farther]
    exact moved_quieted lossLonger stuckLonger

/-- A big loss that is followed, a quiet frame, and a big loss that corrects. With thousands of
quiet frames before it the correction would be the least one. -/
theorem corrections_directed_of_big :
    let band : Band := ⟨Nanos.micros 3700, Nanos.micros 4000⟩
    let t : LossTracker := {
      config := {}, band, current := Nanos.micros 3900, lossPeriod := 1, lossTracking := true
      lastAnalysis := Nanos.seconds 2, passedWindow := true }
    (new {} (Nanos.micros 3900) band 0).run?
        [.observed 30 (Nanos.seconds 2), .observed 1 (Nanos.seconds 4)] = some t ∧
      band.contains t.current = true ∧
      (∃ after, t.track? 30 (Nanos.seconds 6) = some (some (Nanos.micros 3886), after)) ∧
      ∃ proposal after, (t.quieted 5600 0).track? 30 (Nanos.seconds 6) = some (proposal, after) ∧
        Nat.dist t.current after.current ≤ Nanos.micros 14 := by
  intro band t
  have reached : (new {} (Nanos.micros 3900) band 0).run?
      [.observed 30 (Nanos.seconds 2), .observed 1 (Nanos.seconds 4)] = some t := by
    decide +kernel
  have inBand : band.contains t.current = true := by decide
  obtain ⟨affords, kept⟩ :=
    corrections_directed (t := t) inBand 30 (Nanos.seconds 6)
  obtain ⟨quietAffords, -⟩ :=
    corrections_directed (t := t.quieted 5600 0) inBand 30 (Nanos.seconds 6)
  obtain ⟨⟨proposal, after⟩, tracked⟩ :=
    Option.isSome_iff_exists.mp (affords.mpr ⟨by decide +kernel, by decide +kernel⟩)
  obtain ⟨⟨proposal', after'⟩, tracked'⟩ :=
    Option.isSome_iff_exists.mp (quietAffords.mpr ⟨by decide +kernel, by decide +kernel⟩)
  obtain ⟨asked, is_tuned, -, -, -, quieter⟩ := kept proposal after tracked
  have shorter : t.tuned 30 (Nanos.seconds 6) = Nanos.micros 3886 := by decide +kernel
  have by_fourteen : Nat.dist t.current (Nanos.micros 3886) = Nanos.micros 14 := by decide +kernel
  rw [is_tuned, shorter] at asked quieter
  obtain rfl : proposal = some (Nanos.micros 3886) := asked
  have farther := quieter 5600 0 (Nat.le_add_left 1 5599) (Nat.le_refl 0) proposal' after' tracked'
  rw [by_fourteen] at farther
  exact ⟨reached, inBand, ⟨after, tracked⟩, proposal', after', tracked', farther⟩

/-- Near the least signed word a second quiet frame takes the difference out of range. The loss
after it breaks off, where a correction by one microsecond was meant, as one frame earlier. -/
theorem longer_quiet_breaks_off :
    let base : Int64 := -0x7FFFFFFFFFFFFFFF
    let band : Band := ⟨Nanos.micros 3000, Nanos.micros 5000⟩
    let t : LossTracker := {
      config := { correctionBase := base }, band, current := Nanos.micros 3899, lossPeriod := 1
      lossTracking := true, lastAnalysis := Nanos.seconds 4, passedWindow := true }
    (new { correctionBase := base } (Nanos.micros 3900) band 0).run?
        [.observed 30 (Nanos.seconds 2), .observed 30 (Nanos.seconds 4),
          .observed 1 (Nanos.seconds 6)] = some t ∧
      band.contains t.current = true ∧
      t.owesToRestart 30 = false ∧ t.Judges 30 (Nanos.seconds 6) ∧
      t.tuned 30 (Nanos.seconds 6) = Nanos.micros 3898 ∧
      t.track? 30 (Nanos.seconds 6) = none ∧
      ((t.quieted 0 0).track? 30 (Nanos.seconds 6)).map Prod.fst =
        some (some (Nanos.micros 3898)) := by
  decide +kernel

end MotionCast.LossTracker
