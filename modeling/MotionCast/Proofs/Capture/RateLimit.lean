import Mathlib.Data.List.Pairwise
import MotionCast.Proofs.Capture.Observations

/-! How often the scan period is corrected. A correction in the normal run of frames waits for the
window to pass, and the window is counted from the last analysis. A tracker may have found the
window to have passed long before it corrects, since a loss that it begins to follow leaves the
window open; and still two corrections are more than a window apart. -/

namespace MotionCast.LossTracker

/-- What a tracker hears of: an advance of the counter at a time, or a restart. -/
inductive Event where
  | observed (diff : Int64) (now : Nanos)
  | restarted
deriving DecidableEq

/-- The time of an observation. -/
def Event.time? : Event → Option Nanos
  | .observed _ now => some now
  | .restarted => none

/-- What an event asks for, if anything, and the tracker after it. -/
def step? (t : LossTracker) : Event → Option (Option Nanos × LossTracker)
  | .observed diff now => t.track? diff now
  | .restarted => some (none, t.restartObserved)

/-- The tracker after events in a row, if none of them breaks off. -/
def run? (t : LossTracker) : List Event → Option LossTracker
  | [] => some t
  | e :: later => do
    let (_, t) ← t.step? e
    t.run? later

/-- The time at which an event corrects the period in the normal run of frames, given what it asks
for. -/
def correctionTime? (t : LossTracker) : Event → Option Nanos → Option Nanos
  | .observed diff now, some _ => if t.owesToRestart diff then none else some now
  | _, _ => none

/-- The times of the corrections in the normal run of frames, up to an event that breaks off. -/
def corrections (t : LossTracker) : List Event → List Nanos
  | [] => []
  | e :: later =>
    match t.step? e with
    | none => []
    | some (proposal, after) => (t.correctionTime? e proposal).toList ++ after.corrections later

/-! ### One event -/

/-- What a tracker knows of the window, given the time of the last correction and that of the last
observation: it counts from a time that is not before the one, and has found the window to have
passed only if it had at the other. -/
structure Spaced (t : LossTracker) (last clock : Nanos) : Prop where
  reference : last ≤ t.lastAnalysis
  passed : t.passedWindow = true → t.lastAnalysis + t.config.analysisWindow < clock

variable {t after : LossTracker} {last clock now : Nanos} {diff : Int64} {proposal : Option Nanos}

theorem Spaced.later (h : Spaced t last clock) (order : clock ≤ now) : Spaced t last now :=
  ⟨h.reference, fun passed => Nat.lt_of_lt_of_le (h.passed passed) order⟩

/-- Past the window an observation comes more than a window after the last analysis. -/
theorem Spaced.lt_of_past (h : Spaced t last clock) (order : clock ≤ now)
    (past : ¬t.InWindow now) : t.lastAnalysis + t.config.analysisWindow < now := by
  cases passed : t.passedWindow with
  | true => exact Nat.lt_of_lt_of_le (h.passed passed) order
  | false =>
    have beyond : t.config.analysisWindow < now - t.lastAnalysis :=
      Nat.not_le.mp fun within => past ⟨passed, within⟩
    exact Nat.add_lt_of_lt_sub' beyond

theorem Spaced.apart (h : Spaced t last clock) (order : clock ≤ now) (past : ¬t.InWindow now) :
    last + t.config.analysisWindow < now :=
  Nat.lt_of_le_of_lt (Nat.add_le_add_right h.reference _) (h.lt_of_past order past)

/-- An observation either is no correction in the normal run of frames, or comes more than a window
after the last one. -/
theorem Spaced.change (h : Spaced t last clock) (order : clock ≤ now)
    (c : Change t diff now proposal after) :
    (t.correctionTime? (.observed diff now) proposal = none ∧ Spaced after last now) ∨
      (t.correctionTime? (.observed diff now) proposal = some now ∧
        last + t.config.analysisWindow < now ∧ Spaced after now now) := by
  have latest := h.later order
  cases c with
  | restartCorrected proposal period next owed followed target asks =>
    have owes : t.correctionTime? (.observed diff now) proposal = none := by
      cases proposal with
      | none => rfl
      | some _ => exact if_pos owed
    exact .inl ⟨owes, latest.reference, latest.passed⟩
  | restartNoted owed first small => exact .inl ⟨rfl, latest.reference, latest.passed⟩
  | waited own waits =>
    exact .inl ⟨rfl, by simpa using latest.reference, by simpa using latest.passed⟩
  | unmoved own past quiet =>
    have beyond := h.lt_of_past order past
    exact .inl ⟨rfl, by simpa using h.reference, fun _ => by simpa using beyond⟩
  | corrected proposal period next own past loss followed target asks =>
    have apart := h.apart order past
    cases proposal with
    | none => exact .inl ⟨rfl, Nat.le_trans (Nat.le_add_right _ _) (Nat.le_of_lt apart), nofun⟩
    | some _ => exact .inr ⟨if_neg (by simp [own]), apart, Nat.le_refl _, nofun⟩
  | bigNoted own past loss first big =>
    have apart := h.apart order past
    exact .inl ⟨rfl, Nat.le_trans (Nat.le_add_right _ _) (Nat.le_of_lt apart), nofun⟩
  | smallNoted own past loss first small =>
    have beyond := h.lt_of_past order past
    exact .inl ⟨rfl, by simpa using h.reference, fun _ => by simpa using beyond⟩

/-! ### Events in a row -/

theorem corrections_cons {e : Event} (step : t.step? e = some (proposal, after))
    (later : List Event) : t.corrections (e :: later) =
      (t.correctionTime? e proposal).toList ++ after.corrections later := by
  rw [corrections, step]

theorem pairwise_corrections {events : List Event} (h : Spaced t last clock)
    (inOrder : (clock :: events.filterMap Event.time?).Pairwise (· ≤ ·)) :
    (last :: t.corrections events).Pairwise fun earlier later =>
      earlier + t.config.analysisWindow < later := by
  induction events generalizing t last clock with
  | nil => exact List.pairwise_singleton _ _
  | cons e later ih =>
    cases step : t.step? e with
    | none =>
      rw [corrections, step]
      exact List.pairwise_singleton _ _
    | some result =>
      obtain ⟨proposal, after⟩ := result
      rw [corrections_cons step]
      cases e with
      | restarted =>
        cases step
        exact ih (t := t.restartObserved) ⟨h.reference, h.passed⟩ inOrder
      | observed diff now =>
        have c := change_of_track step
        obtain ⟨order, rest⟩ := List.pairwise_cons.mp inOrder
        have ordered := order now (List.mem_cons_self ..)
        rcases h.change ordered c with ⟨time, spaced⟩ | ⟨time, apart, spaced⟩
        · have others := ih spaced rest
          rw [c.config] at others
          rwa [time, Option.toList_none, List.nil_append]
        · have others := ih spaced rest
          rw [c.config] at others
          have : IsTrans Nanos fun earlier later => earlier + t.config.analysisWindow < later :=
            ⟨fun _ _ _ first => Nat.lt_trans (Nat.lt_of_lt_of_le first (Nat.le_add_right _ _))⟩
          rw [time, Option.toList_some, List.singleton_append]
          exact others.cons_cons_of_trans apart

theorem exists_run? {e : Event} {later : List Event} (run : t.run? (e :: later) = some after) :
    ∃ proposal next, t.step? e = some (proposal, next) ∧ next.run? later = some after := by
  rw [run?] at run
  obtain ⟨⟨proposal, next⟩, step, rest⟩ := Option.bind_eq_some_iff.mp run
  exact ⟨proposal, next, step, rest⟩

/-- What each event keeps holds after all of them. -/
theorem run?_keeps {P : LossTracker → Prop} (restarted : ∀ t, P t → P t.restartObserved)
    (observed : ∀ t diff now proposal after, Change t diff now proposal after → P t → P after)
    {events : List Event} (h : P t) (run : t.run? events = some after) : P after := by
  induction events generalizing t with
  | nil =>
    obtain rfl := Option.some.inj run
    exact h
  | cons e later ih =>
    obtain ⟨proposal, next, step, rest⟩ := exists_run? run
    refine ih ?_ rest
    cases e with
    | restarted =>
      cases step
      exact restarted t h
    | observed diff now => exact observed t diff now proposal next (change_of_track step) h

theorem HasRoom.isSome_run? (h : t.HasRoom) (events : List Event) : (t.run? events).isSome := by
  induction events generalizing t with
  | nil => rfl
  | cons e later ih =>
    obtain ⟨proposal, after, step, room⟩ :
        ∃ proposal after, t.step? e = some (proposal, after) ∧ after.HasRoom := by
      cases e with
      | restarted => exact ⟨none, t.restartObserved, rfl, h.restartObserved⟩
      | observed diff now =>
        obtain ⟨⟨proposal, after⟩, tracked⟩ :=
          Option.isSome_iff_exists.mp (h.isSome_track? diff now)
        exact ⟨proposal, after, tracked, h.change (change_of_track tracked)⟩
    rw [run?, step]
    exact ih room

/-- Along observations in the order of their times, with restarts among them, the corrections in the
normal run of frames come more than a window apart from each other and from the beginning. -/
theorem corrections_apart (config : LossConfig) (current : Nanos) (band : Band) (start : Nanos)
    (events : List Event) (inOrder : (events.filterMap Event.time?).Pairwise (· ≤ ·)) :
    (start :: (new config current band start).corrections events).Pairwise
        (fun earlier later => earlier + config.analysisWindow < later) ∧
      ((new config current band start).HasRoom →
        ((new config current band start).run? events).isSome) := by
  have fresh : Spaced (new config current band start) start 0 := ⟨Nat.le_refl _, nofun⟩
  refine ⟨pairwise_corrections fresh ?_, fun room => room.isSome_run? events⟩
  exact List.pairwise_cons.mpr ⟨fun time _ => Nat.zero_le time, inOrder⟩

/-- A big loss that is followed, one that corrects, a restart whose loss corrects at once, a loss in
the window, and two small ones after it, of which the first leaves the window open. -/
theorem corrections_apart_around_restart :
    let band : Band := ⟨Nanos.micros 3700, Nanos.micros 4000⟩
    let events : List Event := [.observed 30 (Nanos.millis 2000), .observed 30 (Nanos.millis 4000),
      .restarted, .observed 5 (Nanos.millis 4000), .observed 5 (Nanos.millis 4500),
      .observed 5 (Nanos.millis 5500), .observed 5 (Nanos.millis 5600)]
    let corrected := (new {} (Nanos.micros 3900) band 0).corrections events
    (events.filterMap Event.time?).Pairwise (· ≤ ·) ∧
      corrected = [Nanos.millis 4000, Nanos.millis 5600] ∧
      (0 :: corrected).Pairwise fun earlier later => earlier + Nanos.seconds 1 < later := by
  intro band events corrected
  have inOrder : (events.filterMap Event.time?).Pairwise (· ≤ ·) := by decide
  exact ⟨inOrder, by decide +kernel, (corrections_apart {} _ band 0 events inOrder).1⟩

end MotionCast.LossTracker
