import MotionCast.Capture.Basic
import MotionCast.Proofs.Capture.Observations

/-! The two sides of the control loop agree on the scan period. The tracker keeps a period of its
own and sends what it asks for through a mailbox that holds one request, so that requests get lost;
but the last one always stands for the tracker's period, and the period in force is that of the
tracker whenever no request is underway. No request is refused, no period leaves the band, and
nothing breaks off while the tracker has room for its corrections. -/

namespace MotionCast

namespace Pacing

theorem apply_idle {p : Pacing} (idle : p.feedback.hasData = false) : p.apply = p := by
  simp [apply, Mailbox.poll, idle]

theorem apply_accepted {p : Pacing} (underway : p.feedback.hasData = true)
    (within : p.scan.band.contains p.feedback.inFlight = true) :
    p.apply = {
      scan := { p.scan with current := p.feedback.inFlight }
      feedback := { p.feedback with inFlight := 0, hasData := false }
      updates := p.updates + 1 } := by
  simp [apply, Mailbox.poll, underway, ScanPeriod.trySet, within]

end Pacing

namespace ControlLoop

/-- What happens in a control loop. -/
inductive Event where
  /-- A run of the tracker begins, with the period that is in force. -/
  | begun (now : Nanos)
  | observed (advance : Int64) (now : Nanos)
  | restarted
  /-- The latest request is picked up, if there is one. -/
  | applied
deriving DecidableEq

def step? (l : ControlLoop) : Event → Option ControlLoop
  | .begun now => some (restart l.pacing l.tracker.config now)
  | .observed advance now => l.track? advance now
  | .restarted => some l.restartObserved
  | .applied => some l.apply

/-- The loop after events in a row, if none of them breaks off. -/
def run? (l : ControlLoop) : List Event → Option ControlLoop
  | [] => some l
  | e :: later => do
    let l ← l.step? e
    l.run? later

/-- The event picks up a request. -/
def picksUp (l : ControlLoop) (e : Event) : Bool := e = .applied && l.pacing.feedback.hasData

/-- How many requests are picked up along events in a row. -/
def pickUps (l : ControlLoop) : List Event → Nat
  | [] => 0
  | e :: later => (l.picksUp e).toNat + ((l.step? e).map (·.pickUps later)).getD 0

/-- The loop of a capture that was not started. -/
def ofConfig (c : CaptureConfig) : ControlLoop :=
  restart (Pacing.new (ScanPeriod.new c.scanPeriod c.band)) c.loss 0

theorem loop_assemble (c : CaptureConfig) (transport : Transport) (writable : Bool) :
    (Capture.assemble c transport writable).loop = ofConfig c := rfl

/-! ### The periods lie in the band -/

theorem contains_of_validate {c : CaptureConfig} (valid : c.validate = .ok ()) :
    c.band.contains c.scanPeriod = true := by
  have faultless : c.fault? = none := by
    unfold CaptureConfig.validate at valid
    split at valid
    · contradiction
    · assumption
  unfold CaptureConfig.fault? at faultless
  repeat' split at faultless
  all_goals simp_all

/-- All periods of the loop lie in one band. -/
structure Within (l : ControlLoop) (band : Band) : Prop where
  trackerBand : l.tracker.band = band
  scanBand : l.pacing.scan.band = band
  asked : band.contains l.tracker.current = true
  inForce : band.contains l.pacing.scan.current = true
  underway : l.pacing.feedback.hasData = true →
    band.contains l.pacing.feedback.inFlight = true

/-- No request is underway and the tracker's period is in force, or the one underway is the
tracker's period. -/
structure InStep (l : ControlLoop) : Prop where
  settled : l.pacing.feedback.hasData = false → l.pacing.scan.current = l.tracker.current
  underway : l.pacing.feedback.hasData = true → l.pacing.feedback.inFlight = l.tracker.current

/-- An event that goes through: what it leaves of the loop. -/
inductive Change (l : ControlLoop) : Event → ControlLoop → Prop where
  | begun (now : Nanos) : Change l (.begun now) (restart l.pacing l.tracker.config now)
  | restarted : Change l .restarted l.restartObserved
  /-- The tracker asks for nothing. -/
  | kept (advance : Int64) (now : Nanos) (tracker : LossTracker)
    (band : tracker.band = l.tracker.band) (same : tracker.current = l.tracker.current) :
    Change l (.observed advance now) { l with tracker }
  /-- The tracker asks for its new period. -/
  | asked (advance : Int64) (now : Nanos) (tracker : LossTracker)
    (band : tracker.band = l.tracker.band)
    (within : l.tracker.band.contains tracker.current = true) :
    Change l (.observed advance now) { tracker, pacing := l.pacing.request tracker.current }
  | applied : Change l .applied l.apply

theorem change_of_step {l next : ControlLoop} {e : Event} (h : l.step? e = some next) :
    Change l e next := by
  cases e with
  | begun now =>
    cases h
    exact .begun now
  | restarted =>
    cases h
    exact .restarted
  | applied =>
    cases h
    exact .applied
  | observed advance now =>
    obtain ⟨⟨proposal, tracker⟩, tracked, eq⟩ := Option.map_eq_some_iff.mp h
    have c := LossTracker.change_of_track tracked
    cases eq
    rcases c.period with ⟨rfl, same⟩ | ⟨rfl, within⟩
    · exact .kept advance now tracker c.band same
    · exact .asked advance now tracker c.band within

variable {l next : ControlLoop} {band : Band} {e : Event}

theorem Within.ofConfig {c : CaptureConfig} (valid : c.validate = .ok ()) :
    Within (ofConfig c) c.band :=
  ⟨rfl, rfl, contains_of_validate valid, contains_of_validate valid, nofun⟩

theorem Within.step (h : Within l band) (c : Change l e next) : Within next band := by
  cases c with
  | begun now => exact ⟨h.scanBand, h.scanBand, h.inForce, h.inForce, h.underway⟩
  | restarted => exact ⟨h.trackerBand, h.scanBand, h.asked, h.inForce, h.underway⟩
  | kept advance now tracker same current =>
    exact ⟨same.trans h.trackerBand, h.scanBand, current ▸ h.asked, h.inForce, h.underway⟩
  | asked advance now tracker same within =>
    rw [h.trackerBand] at within
    exact ⟨same.trans h.trackerBand, h.scanBand, within, h.inForce, fun _ => within⟩
  | applied =>
    cases data : l.pacing.feedback.hasData with
    | false =>
      rw [apply, Pacing.apply_idle data]
      exact h
    | true =>
      have within := h.underway data
      rw [apply, Pacing.apply_accepted data (by rwa [h.scanBand])]
      exact ⟨h.trackerBand, h.scanBand, h.asked, within, nofun⟩

theorem Within.ordered (h : Within l band) : band.low ≤ band.high := by
  obtain ⟨low, high⟩ := Band.contains_iff.mp h.asked
  exact Nat.le_trans low high

theorem isSome_step? (room : l.tracker.HasRoom) (e : Event) : (l.step? e).isSome := by
  cases e with
  | begun _ => rfl
  | restarted => rfl
  | applied => rfl
  | observed advance now =>
    rw [step?, track?, Option.isSome_map]
    exact room.isSome_track? advance now

/-- The tracker keeps its room, also when a run of it begins anew. -/
theorem Within.hasRoom_step (h : Within l band) (room : l.tracker.HasRoom)
    (step : l.step? e = some next) : next.tracker.HasRoom := by
  cases e with
  | begun now =>
    cases step
    have within : l.tracker.band.contains l.pacing.scan.current = true := by
      rw [h.trackerBand]
      exact h.inForce
    have renewed := room.renew within now
    rwa [h.trackerBand, ← h.scanBand] at renewed
  | restarted =>
    cases step
    exact room.restartObserved
  | applied =>
    cases step
    exact room
  | observed advance now =>
    obtain ⟨⟨proposal, tracker⟩, tracked, eq⟩ := Option.map_eq_some_iff.mp step
    cases eq
    exact room.change (LossTracker.change_of_track tracked)

/-- The request that is underway would be accepted. -/
theorem Within.accepts (h : Within l band) (underway : l.pacing.feedback.hasData = true) :
    (l.pacing.scan.trySet l.pacing.feedback.inFlight).1 = true := by
  rw [ScanPeriod.trySet, h.scanBand, if_pos (h.underway underway)]

/-! ### The two sides agree -/

theorem InStep.begun {now : Nanos} (idle : l.pacing.feedback.hasData = false) :
    InStep (restart l.pacing l.tracker.config now) :=
  ⟨fun _ => rfl, fun data => absurd data (by simp [restart, idle])⟩

theorem InStep.step (h : InStep l) (within : Within l band) (c : Change l e next)
    (oneRun : ∀ now, e ≠ .begun now) : InStep next := by
  cases c with
  | begun now => exact absurd rfl (oneRun now)
  | restarted => exact ⟨h.settled, h.underway⟩
  | kept advance now tracker _ same => exact ⟨same ▸ h.settled, same ▸ h.underway⟩
  | asked advance now tracker _ _ => exact ⟨nofun, fun _ => rfl⟩
  | applied =>
    cases data : l.pacing.feedback.hasData with
    | false =>
      rw [apply, Pacing.apply_idle data]
      exact h
    | true =>
      rw [apply, Pacing.apply_accepted data (by rw [within.scanBand]; exact within.underway data)]
      exact ⟨fun _ => h.underway data, nofun⟩

theorem Within.updates (h : Within l band) (c : Change l e next) :
    next.pacing.updates = l.pacing.updates + (l.picksUp e).toNat := by
  cases c with
  | begun now => rfl
  | restarted => rfl
  | kept advance now tracker _ _ => rfl
  | asked advance now tracker _ _ => rfl
  | applied =>
    cases data : l.pacing.feedback.hasData with
    | false =>
      rw [apply, Pacing.apply_idle data]
      simp [picksUp, data]
    | true =>
      rw [apply, Pacing.apply_accepted data (by rw [h.scanBand]; exact h.underway data)]
      simp [picksUp, data]

/-! ### Events in a row -/

theorem run?_append (l : ControlLoop) (earlier later : List Event) :
    l.run? (earlier ++ later) = (l.run? earlier).bind (·.run? later) := by
  induction earlier generalizing l with
  | nil => rfl
  | cons e rest ih =>
    rw [List.cons_append, run?, run?]
    cases l.step? e with
    | none => rfl
    | some next => exact ih next

theorem Within.run {last : ControlLoop} {events : List Event} (h : Within l band)
    (ran : l.run? events = some last) :
    Within last band ∧ last.pacing.updates = l.pacing.updates + l.pickUps events ∧
      (InStep l → (∀ now, .begun now ∉ events) → InStep last) := by
  induction events generalizing l with
  | nil =>
    cases ran
    exact ⟨h, rfl, fun inStep _ => inStep⟩
  | cons e later ih =>
    obtain ⟨next, step, went_on⟩ := Option.bind_eq_some_iff.mp ran
    have c := change_of_step step
    obtain ⟨within, updates, agreed⟩ := ih (h.step c) went_on
    refine ⟨within, ?_, fun inStep oneRun => ?_⟩
    · rw [updates, h.updates c, pickUps, step, Nat.add_assoc]
      rfl
    · refine agreed (inStep.step h c fun now is => ?_) fun now mem => ?_
      · exact oneRun now (is ▸ List.mem_cons_self ..)
      · exact oneRun now (List.mem_cons_of_mem _ mem)

theorem Within.isSome_run? (h : Within l band) (room : l.tracker.HasRoom) (events : List Event) :
    (l.run? events).isSome := by
  induction events generalizing l with
  | nil => rfl
  | cons e later ih =>
    obtain ⟨next, step⟩ := Option.isSome_iff_exists.mp (isSome_step? room e)
    rw [run?, step]
    exact ih (h.step (change_of_step step)) (h.hasRoom_step room step)

/-- Whatever is observed and whenever requests are picked up, the periods lie in the band and no
request is refused. The period in force is that of the tracker unless a request for the tracker's
period is underway. -/
theorem stays_in_step (c : CaptureConfig) (valid : c.validate = .ok ()) (earlier : List Event)
    (start : Nanos) (during : List Event) (oneRun : ∀ now, .begun now ∉ during) :
    ((ofConfig c).tracker.HasRoom →
      ((ofConfig c).run? (earlier ++ .begun start :: during)).isSome) ∧
    ∀ first l, (ofConfig c).run? (earlier ++ [.begun start]) = some first →
      first.run? during = some l →
      c.band.contains l.tracker.current = true ∧ c.band.contains l.pacing.scan.current = true ∧
      (∀ period, (l.tracker.band.clamp? period).isSome) ∧
      (∀ e, l.tracker.HasRoom → (l.step? e).isSome) ∧
      (l.pacing.feedback.hasData = true →
        (l.pacing.scan.trySet l.pacing.feedback.inFlight).1 = true) ∧
      l.pacing.updates = first.pacing.updates + first.pickUps during ∧
      (first.pacing.feedback.hasData = false →
        (l.pacing.feedback.hasData = false → l.pacing.scan.current = l.tracker.current) ∧
        (l.pacing.feedback.hasData = true → l.pacing.feedback.inFlight = l.tracker.current)) := by
  have fresh := Within.ofConfig valid
  refine ⟨fun room => fresh.isSome_run? room _, fun first l begun ran => ?_⟩
  obtain ⟨before, earlier, step⟩ := Option.bind_eq_some_iff.mp ((run?_append ..).symm.trans begun)
  obtain ⟨within, -, -⟩ := fresh.run earlier
  cases step
  obtain ⟨last, updates, agreed⟩ := (within.step (.begun start)).run ran
  refine ⟨last.asked, last.inForce, fun period => ?_, fun e room => isSome_step? room e,
    last.accepts, updates, fun idle => ?_⟩
  · rw [last.trackerBand]
    exact Option.isSome_iff_exists.mpr ⟨_, Band.clamp?_eq_some.mpr ⟨last.ordered, rfl⟩⟩
  · have inStep := agreed (InStep.begun idle) oneRun
    exact ⟨inStep.settled, inStep.underway⟩

/-- A big loss asks for a shorter period, and a loss after a restart for a longer one before the
first request is picked up. -/
theorem stays_in_step_when_overwritten :
    let during : List Event := [.observed 30 (Nanos.millis 2000), .observed 30 (Nanos.millis 4000),
      .restarted, .observed 5 (Nanos.millis 4000), .applied]
    ({} : CaptureConfig).validate = .ok () ∧ (∀ now, .begun now ∉ during) ∧
      ((ofConfig {}).run? ([] ++ .begun 0 :: during)).isSome ∧
      ∃ first l, (ofConfig {}).run? [.begun 0] = some first ∧ first.run? during = some l ∧
        l.pacing.feedback.sent = 2 ∧ l.pacing.updates = 1 ∧
        l.pacing.scan.current = l.tracker.current ∧ l.tracker.current = Nanos.micros 3989 := by
  intro during
  have valid : ({} : CaptureConfig).validate = .ok () := rfl
  have oneRun : ∀ now, .begun now ∉ during := by simp [during]
  have room : (ofConfig {}).tracker.HasRoom :=
    ⟨by decide, by decide +kernel, by decide, by decide⟩
  obtain ⟨happens, agrees⟩ := stays_in_step {} valid [] 0 during oneRun
  have seen : ((restart (ofConfig {}).pacing {} 0).run? during).map (fun l =>
      (l.pacing.feedback.sent, l.pacing.feedback.hasData, l.pacing.updates, l.tracker.current)) =
      some (2, false, 1, Nanos.micros 3989) := by decide +kernel
  obtain ⟨l, ran, at_l⟩ := Option.map_eq_some_iff.mp seen
  simp only [Prod.mk.injEq] at at_l
  obtain ⟨sent, data, updates, current⟩ := at_l
  obtain ⟨-, -, -, -, -, -, agreed⟩ := agrees _ l rfl ran
  exact ⟨valid, oneRun, happens room, _, l, rfl, ran, sent, updates, (agreed rfl).1 data, current⟩

end ControlLoop

end MotionCast
