import MotionCast.Proofs.Capture.Rollback

/-! The reader's runs that are given up. A silent reader is asked to stop and begun anew, and given
up when it is stuck in a read. Every silence is counted, but a run that was given up only when the
device could be opened for the next one: when it cannot be opened, the outcome of the stop is
lost. -/

namespace MotionCast

namespace Worker

variable {w : Worker}

/-- The held run ends when it is asked to stop. -/
def Heeds (w : Worker) : Prop := ∀ run, w.heldRun? = some run → run.conduct = .untilStopped

theorem heeds_of_held_none (h : w.held = none) : w.Heeds := by
  simp [Heeds, heldRun?, h]

theorem Heeds.start (h : w.Heeds) (prepared : Except CaptureError Unit) :
    (w.start prepared .untilStopped).2.Heeds := by
  rcases w.start_cases prepared .untilStopped with same | ⟨-, same⟩ | ⟨-, same⟩
  · rw [same]
    exact h
  · rw [same]
    exact heeds_of_held_none rfl
  · rw [same]
    intro run held
    have launched : Run.launch .untilStopped w.released = run := by
      simpa [heldRun?] using held
    rw [← launched]
    rfl

theorem Heeds.finishHeld (h : w.Heeds) : w.finishHeld.Heeds := by
  cases held : w.held with
  | none =>
    rw [Worker.finishHeld, held]
    exact h
  | some place =>
    rw [Worker.finishHeld, held]
    intro run found
    obtain ⟨before, was, rfl⟩ : ∃ before, w.runs[place]? = some before ∧ before.finish = run := by
      simpa [Worker.finish, heldRun?, held] using found
    exact h before (by simpa [heldRun?, held] using was)

theorem Heeds.heldIgnores (h : w.Heeds) : w.heldIgnores = false := by
  cases found : w.heldRun? with
  | none => simp [Worker.heldIgnores, found]
  | some run => simp [Worker.heldIgnores, found, Run.requestStop, h run found]

/-- A run that is stuck in a read ignores that it is asked to stop. -/
theorem heldIgnores_block (w : Worker) : w.block.heldIgnores = w.isLive := by
  cases held : w.held with
  | none => simp [block, Worker.heldIgnores, isLive, heldRun?, held]
  | some place =>
    simp [block, Worker.heldIgnores, isLive, heldRun?, held, Run.requestStop, Option.any_map]

theorem heeds_tryStop (w : Worker) : w.tryStop.2.Heeds := heeds_of_held_none (held_tryStop w)

theorem tryStop_abandoned_iff (w : Worker) :
    w.tryStop.1 = .abandoned ↔ w.heldIgnores = true := by
  cases held : w.held with
  | none => simp [tryStop, stopWith?, Worker.heldIgnores, heldRun?, held]
  | some place =>
    have asked : (w.letGo place).runs[place]? = w.runs[place]?.map Run.requestStop := by
      simp [letGo_getElem?]
    simp [tryStop, stopWith?, Worker.heldIgnores, heldRun?, held, asked, Option.any_map]

end Worker

namespace Crew

/-- Every worker's run ends when it is asked to stop. -/
def Heeds (c : Crew) : Prop := c.All Worker.Heeds

variable {c : Crew}

theorem heeds_new (paced : Bool) : (Crew.new paced).Heeds :=
  all_new paced (Worker.heeds_of_held_none rfl)

theorem exists_reader {paced : Bool} (h : c.stages = Stage.inOrder paced) :
    ∃ w, c.worker? .reader = some w ∧ (.reader, w) ∈ c.members := by
  obtain ⟨front, reader, extractor, broadcaster, cut⟩ := exists_cut h
  refine ⟨reader, cut.worker? (by decide), ?_⟩
  simp [cut.members]

end Crew

/-! ### A silence -/

namespace Recovery

/-- A silence is counted, and so is the run that is given up, if another one begins. -/
theorem metrics_handleSilence (r : Recovery) (prepared : Except CaptureError Unit)
    (conduct : Conduct) :
    (r.handleSilence prepared conduct).wiring.metrics = { r.wiring.metrics with
      readStuck := r.wiring.metrics.readStuck + 1
      forcedRestarts := r.wiring.metrics.forcedRestarts +
        if r.worker.heldIgnores && prepared.isOk then 1 else 0 } := by
  have idle := Worker.isLive_tryStop r.worker
  have gives_up := Worker.tryStop_abandoned_iff r.worker
  cases prepared with
  | error e =>
    have counted : (r.handleSilence (.error e) conduct).wiring.metrics =
        count (notice r.wiring).metrics (.error e) := by
      simp [handleSilence, Worker.restartAfter, Worker.start_of_error idle, Except.map]
    rw [counted]
    simp [count, notice, Except.isOk, Except.toBool]
  | ok begun =>
    have counted : (r.handleSilence (.ok begun) conduct).wiring.metrics =
        count (notice r.wiring).metrics (.ok r.worker.tryStop.1) := by
      simp [handleSilence, Worker.restartAfter, Worker.start_of_ok idle, Except.map]
    rw [counted]
    cases outcome : r.worker.tryStop.1 with
    | abandoned => simp [count, notice, gives_up.mp outcome, Except.isOk, Except.toBool]
    | notRunning | joined =>
      have listens : r.worker.heldIgnores = false := by simpa [outcome] using gives_up
      simp [count, notice, listens]

theorem heeds_handleSilence (r : Recovery) (prepared : Except CaptureError Unit) :
    (r.handleSilence prepared .untilStopped).worker.Heeds :=
  r.worker.heeds_tryStop.start prepared

end Recovery

/-- The counts of silences and of runs that were given up. -/
def Wiring.recoveries (w : Wiring) : Nat × Nat := (w.metrics.readStuck, w.metrics.forcedRestarts)

theorem Reader.recoveries_beforeRead (r : Reader) (w : Wiring) :
    (r.beforeRead w).2.recoveries = w.recoveries := by
  unfold beforeRead
  split
  · rfl
  · rfl

theorem Reader.recoveries_afterRead (r : Reader) (w : Wiring) (outcome : ReadOutcome)
    (stopping : Bool) : (r.afterRead w outcome stopping).2.recoveries = w.recoveries := by
  unfold afterRead
  split
  · rfl
  · rfl
  · rfl
  · split
    · rfl
    · rfl

theorem Extractor.recoveries_step {e : Extractor} {w : Wiring} {done : Extraction}
    (h : e.step? w = some done) : done.wiring.recoveries = w.recoveries := by
  unfold step? at h
  split at h
  · cases h
    rfl
  · obtain ⟨frame, -, rfl⟩ := Option.map_eq_some_iff.mp h
    rfl

namespace Capture

/-- The reader was found to be silent. -/
def Event.isSilence : Event → Bool
  | .silence _ _ => true
  | _ => false

/-- Stopping a reader that is stuck in a read, or is not, gives up its run. -/
def givesUp (c : Capture) (blocked : Bool) : Bool :=
  (c.crew.worker? .reader).any fun worker =>
    (if blocked then worker.block else worker).tryStop.1 = .abandoned

/-- What opening the device comes to when an event makes the capture give up a run of the reader. -/
def reopening? (c : Capture) : Event → Option (Except DeviceError Unit)
  | .silence blocked opened => if c.givesUp blocked then some opened else none
  | _ => none

/-- What opening the device came to after each run of the reader that was given up for another. -/
def reopenings (c : Capture) : List Event → List (Except DeviceError Unit)
  | [] => []
  | e :: later => (c.reopening? e).toList ++ (c.step? e).elim [] (·.reopenings later)

/-- The counts of silences and of runs that were given up. -/
def recoveries (c : Capture) : Nat × Nat := c.wiring.recoveries

variable {c c' : Capture} {e : Event} {paced : Bool}

/-! ### Runs that are given up -/

theorem heeds_step (h : c.crew.Heeds) (stepped : c.step? e = some c') : c'.crew.Heeds :=
  crew_step_keeps
    (fun _ prepared heeds => Crew.All.start heeds (fun _ prepared heeds => heeds.start prepared)
      (fun w _ => w.heeds_tryStop) prepared)
    (fun _ heeds => Crew.All.stop heeds fun w _ => w.heeds_tryStop)
    (fun _ stage heeds => Crew.All.modify heeds stage fun _ => Worker.Heeds.finishHeld)
    (fun _ blocked opened heeds => all_handleSilence heeds
      (fun _ _ _ prepared _ => Recovery.heeds_handleSilence _ prepared) blocked opened) h stepped

theorem heeds_run {history : List Event} (h : c.crew.Heeds) (ran : c.run? history = some c') :
    c'.crew.Heeds := run?_keeps (P := (·.crew.Heeds)) heeds_step h ran

theorem givesUp_of_reader {w : Worker} (reader : c.crew.worker? .reader = some w)
    (blocked : Bool) : c.givesUp blocked = (if blocked then w.block else w).heldIgnores := by
  rw [givesUp, reader, Option.any_some, Bool.eq_iff_iff, decide_eq_true_iff,
    Worker.tryStop_abandoned_iff]

/-- A run is given up when the reader is at work and stuck in a read. -/
theorem givesUp_eq (inOrder : c.crew.stages = Stage.inOrder paced) (h : c.crew.Heeds)
    (blocked : Bool) : c.givesUp blocked = (blocked && c.crew.isAtWork .reader) := by
  obtain ⟨w, reader, member⟩ := Crew.exists_reader inOrder
  rw [givesUp_of_reader reader, Crew.isAtWork, reader, Option.any_some]
  cases blocked with
  | true => exact Worker.heldIgnores_block w
  | false => exact (h _ member).heldIgnores

/-! ### Counts along a history -/

theorem recoveries_publish (c : Capture) : c.publish.recoveries = c.recoveries := by
  unfold publish
  split
  · rfl
  · rfl

theorem recoveries_settle (c : Capture) : c.settle.recoveries = c.recoveries := by
  unfold settle
  split
  · exact recoveries_publish c
  · rfl

theorem recoveries_foldl_begun (now : Nanos) (stages : List Stage) (c : Capture) :
    (stages.foldl (begun now) c).recoveries = c.recoveries :=
  List.foldlRecOn (motive := (·.recoveries = c.recoveries)) stages (begun now) rfl
    fun _ same stage _ => by cases stage <;> exact same

theorem recoveries_analyze (c : Capture) (now : Nanos) :
    (c.analyze now).recoveries = c.recoveries := by
  obtain ⟨crew, loop, advances, unsynced, readStuck, analyzed, -⟩ := exists_analyze c now
  rw [analyzed]
  rfl

theorem recoveries_extract {now : Nanos} (h : c.extract? now = some c') :
    c'.recoveries = c.recoveries := by
  obtain ⟨done, extracted, rfl⟩ := exists_extract h
  exact (recoveries_settle _).trans
    ((recoveries_analyze _ now).trans (Extractor.recoveries_step extracted))

/-- Nothing but a silence is counted as one. -/
theorem recoveries_step (stepped : c.step? e = some c') (other : e.isSilence = false) :
    c'.recoveries = c.recoveries := by
  cases e with
  | start opened now =>
    cases stepped
    exact (recoveries_settle _).trans (recoveries_foldl_begun ..)
  | silence blocked opened => contradiction
  | read outcome now =>
    have read := c.reader.recoveries_afterRead c.wiring outcome false
    exact (recoveries_extract stepped).trans read
  | beforeRead =>
    cases stepped
    have kept := c.reader.recoveries_beforeRead c.wiring
    unfold beforeRead
    split
    · rfl
    · rename_i before
      rw [before] at kept
      exact kept
  | analyzed now =>
    cases stepped
    exact recoveries_analyze c now
  | subscribe =>
    cases stepped
    exact recoveries_settle _
  | reopened success =>
    cases stepped
    cases success <;> rfl
  | stop | ended | unsubscribe | consume | requestMotion =>
    cases stepped
    rfl

/-- A silence is counted, and a run that it gave up if the device could be opened. -/
theorem recoveries_handleSilence (inOrder : c.crew.stages = Stage.inOrder paced) (blocked : Bool)
    (opened : Except DeviceError Unit) :
    (c.handleSilence blocked opened).recoveries = (c.wiring.metrics.readStuck + 1,
      c.wiring.metrics.forcedRestarts + if c.givesUp blocked && opened.isOk then 1 else 0) := by
  obtain ⟨w, reader, -⟩ := Crew.exists_reader inOrder
  let r : Recovery := { worker := if blocked then w.block else w, wiring := c.wiring }
  have metrics := r.metrics_handleSilence (opened.mapError .device) .untilStopped
  have counted : (c.handleSilence blocked opened).recoveries =
      (r.handleSilence (opened.mapError .device) .untilStopped).wiring.recoveries := by
    rw [handleSilence, reader]
    cases opened <;> rfl
  have same : (opened.mapError CaptureError.device).isOk = opened.isOk := by cases opened <;> rfl
  rw [counted, Wiring.recoveries, metrics, givesUp_of_reader reader, same]

/-- What an event adds to the counts. -/
theorem recoveries_step_eq (inOrder : c.crew.stages = Stage.inOrder paced)
    (stepped : c.step? e = some c') :
    c'.recoveries = (c.recoveries.1 + (if e.isSilence then 1 else 0),
      c.recoveries.2 + (c.reopening? e).toList.countP (·.isOk)) := by
  cases silence : e.isSilence with
  | false =>
    have none : c.reopening? e = none := by cases e <;> first | rfl | contradiction
    rw [recoveries_step stepped silence, none]
    rfl
  | true =>
    cases e with
    | silence blocked opened =>
      cases stepped
      rw [recoveries_handleSilence inOrder, reopening?]
      cases c.givesUp blocked with
      | false => simp [recoveries, Wiring.recoveries]
      | true => simp [recoveries, Wiring.recoveries, List.countP_singleton]
    | _ => contradiction

theorem recoveries_run {history : List Event} (inOrder : c.crew.stages = Stage.inOrder paced)
    (ran : c.run? history = some c') :
    c'.recoveries = (c.recoveries.1 + history.countP Event.isSilence,
      c.recoveries.2 + (c.reopenings history).countP (·.isOk)) := by
  induction history generalizing c with
  | nil =>
    cases ran
    rfl
  | cons e later ih =>
    obtain ⟨next, stepped, went_on⟩ := Option.bind_eq_some_iff.mp ran
    have before := recoveries_step_eq inOrder stepped
    have after := ih ((stages_step stepped).trans inOrder) went_on
    rw [after, before, reopenings, stepped, Option.elim_some, List.countP_append, List.countP_cons,
      Nat.add_assoc, Nat.add_assoc, Nat.add_comm (later.countP _)]

/-- Each silence is counted, and each run of the reader that was given up and followed by another.
So no run is missed unless the device could not be opened after one was given up. -/
theorem abandonments_counted {config : CaptureConfig} {transport : Transport} {writable : Bool}
    {history : List Event} (ran : (assemble config transport writable).run? history = some c) :
    let reopened := (assemble config transport writable).reopenings history
    c.metrics.readStuck = history.countP Event.isSilence ∧
    c.metrics.forcedRestarts = reopened.countP (·.isOk) ∧
    (c.metrics.forcedRestarts = reopened.length ↔ ∀ opened ∈ reopened, opened = .ok ()) ∧
    ∀ blocked, c.givesUp blocked = (blocked && c.crew.isAtWork .reader) := by
  intro reopened
  have inOrder := stages_assemble config transport writable
  have counts := recoveries_run inOrder ran
  have none : (assemble config transport writable).recoveries = (0, 0) := rfl
  rw [none, Nat.zero_add, Nat.zero_add] at counts
  obtain ⟨silences, given_up⟩ := Prod.mk.inj counts
  refine ⟨silences, given_up, ?_, ?_⟩
  · rw [show c.metrics.forcedRestarts = reopened.countP (·.isOk) from given_up,
      List.countP_eq_length]
    refine forall₂_congr fun opened _ => ?_
    cases opened with
    | error e => simp [Except.isOk, Except.toBool]
    | ok u => simp [Except.isOk, Except.toBool]
  · exact givesUp_eq ((stages_run ran).trans inOrder) (heeds_run (Crew.heeds_new _) ran)

/-- A reader that stops in time, two that are given up, the second of them with a device that cannot
be opened, and then one that is not there. -/
theorem abandonments_counted_of_four :
    let history : List Event := [.start (.ok ()) 1, .silence false (.ok ()), .silence true (.ok ()),
      .silence true (.error Rig.openError), .silence true (.ok ())]
    ∃ c, (assemble {} .report false).run? history = some c ∧ c.metrics.readStuck = 4 ∧
      c.metrics.forcedRestarts = 1 ∧
      (assemble {} .report false).reopenings history = [.ok (), .error Rig.openError] ∧
      c.givesUp true = true := by
  intro history
  obtain ⟨c, ran⟩ : ∃ c, (assemble {} .report false).run? history = some c := ⟨_, rfl⟩
  have at_work : ((assemble {} .report false).run? history).map (·.crew.isAtWork .reader) =
      some true := rfl
  rw [ran, Option.map_some, Option.some.injEq] at at_work
  obtain ⟨silences, given_up, -, gives_up⟩ := abandonments_counted ran
  have reopened : (assemble {} .report false).reopenings history =
      [.ok (), .error Rig.openError] := rfl
  rw [reopened] at given_up
  exact ⟨c, ran, silences, given_up, reopened, by rw [gives_up, at_work]; rfl⟩

/-- A run that was given up need not be counted: the device could not be opened for the next one. -/
theorem not_counted_of_failed_reopening :
    ¬∀ (history : List Event) (c : Capture), (assemble {} .report false).run? history = some c →
      c.metrics.forcedRestarts = ((assemble {} .report false).reopenings history).length := by
  intro counted
  let history : List Event := [.start (.ok ()) 1, .silence true (.error Rig.openError)]
  obtain ⟨c, ran⟩ : ∃ c, (assemble {} .report false).run? history = some c := ⟨_, rfl⟩
  have missed : ((assemble {} .report false).run? history).map (·.metrics.forcedRestarts) =
      some 0 := rfl
  rw [ran, Option.map_some, Option.some.injEq] at missed
  have one : ((assemble {} .report false).reopenings history).length = 1 := rfl
  have same := counted history c ran
  rw [missed, one] at same
  contradiction

end Capture

end MotionCast
