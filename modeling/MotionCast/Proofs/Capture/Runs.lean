import MotionCast.Capture.WorkerTrial

/-! The runs of a worker. Whatever is asked of it, whatever the conduct of its runs and whenever
they end, at most one run goes on that was not asked to stop, and it is the one that the worker
holds. A run begins only when none that is held goes on, and a stop lets go of the held run and asks
it to stop for good. -/

namespace MotionCast

namespace Worker

/-- The run at a place was asked to stop. -/
def Asked (w : Worker) (place : Nat) : Prop :=
  ∃ run, w.runs[place]? = some run ∧ run.stopRequested = true

/-- The held run goes on even when it is asked to stop. -/
def heldIgnores (w : Worker) : Bool := w.heldRun?.any (·.requestStop.alive)

/-- Between two calls no stop is under way, the held run is there, and every other one that goes on
was asked to stop. -/
structure Exclusive (w : Worker) : Prop where
  settled : w.stopping = false
  present : ∀ place, w.held = some place → place < w.runs.length
  only : ∀ place run, w.runs[place]? = some run → run.alive = true → run.stopRequested = false →
    w.held = some place

variable {w after : Worker} {place : Nat} {patience : Patience} {outcome : StopOutcome}

/-! ### Starts -/

theorem isLive_iff : w.isLive = true ↔
    ∃ place run, w.held = some place ∧ w.runs[place]? = some run ∧ run.alive = true := by
  unfold isLive heldRun?
  cases w.held with
  | none => simp
  | some place => simp [Option.any_eq_true]

theorem isLive_of_held_none (h : w.held = none) : w.isLive = false := by
  simp [isLive, heldRun?, h]

theorem isStarted_of_settled (h : w.stopping = false) : w.isStarted = w.isLive := by
  rw [isStarted, h, Bool.false_or]

theorem start_of_live (h : w.isLive = true) (prepared : Except CaptureError Unit)
    (conduct : Conduct) : w.start prepared conduct = (.ok (), w) := by
  simp [start, h]

theorem start_of_error (h : w.isLive = false) (e : CaptureError) (conduct : Conduct) :
    w.start (.error e) conduct = (.error e, { w with held := none }) := by
  simp [start, h]

theorem start_of_ok (h : w.isLive = false) (conduct : Conduct) :
    w.start (.ok ()) conduct = (.ok (), { w with
      runs := w.runs ++ [Run.launch conduct w.released]
      held := some w.runs.length }) := by
  simp [start, h]

/-- What a start can come to. -/
theorem start_cases (w : Worker) (prepared : Except CaptureError Unit) (conduct : Conduct) :
    (w.start prepared conduct).2 = w ∨
    (w.isLive = false ∧ (w.start prepared conduct).2 = { w with held := none }) ∨
    (w.isLive = false ∧ (w.start prepared conduct).2 = { w with
      runs := w.runs ++ [Run.launch conduct w.released], held := some w.runs.length }) := by
  cases live : w.isLive with
  | true =>
    rw [start_of_live live]
    exact .inl rfl
  | false =>
    cases prepared with
    | error e =>
      rw [start_of_error live]
      exact .inr (.inl ⟨rfl, rfl⟩)
    | ok _ =>
      rw [start_of_ok live]
      exact .inr (.inr ⟨rfl, rfl⟩)

/-- A start begins no stop and ends none. -/
theorem stopping_start (w : Worker) (prepared : Except CaptureError Unit) (conduct : Conduct) :
    (w.start prepared conduct).2.stopping = w.stopping := by
  rcases w.start_cases prepared conduct with same | ⟨-, same⟩ | ⟨-, same⟩
  all_goals rw [same]

/-! ### Stops -/

theorem letGo_getElem? (w : Worker) (place other : Nat) :
    (w.letGo place).runs[other]? =
      w.runs[other]?.map fun run => if place = other then run.requestStop else run := by
  rw [letGo, List.getElem?_modify]
  rfl

/-- A stop finds no run, or lets go of the held one and is over. -/
theorem stopWith?_cases (h : w.stopWith? patience = some (outcome, after)) :
    (w.held = none ∧ outcome = .notRunning ∧ after = w) ∨
    ∃ place, w.held = some place ∧ outcome ≠ .notRunning ∧ after = (w.letGo place).endStop := by
  unfold stopWith? at h
  cases held : w.held with
  | none =>
    simp only [held, Option.some.injEq, Prod.mk.injEq] at h
    exact .inl ⟨rfl, h.1.symm, h.2.symm⟩
  | some place =>
    refine .inr ⟨place, rfl, ?_⟩
    cases patience <;> simp only [held] at h
    · cases h
      exact ⟨by simp, rfl⟩
    · cases h
      exact ⟨by split <;> simp, rfl⟩
    · split at h
      · cases h
        exact ⟨by simp, rfl⟩
      · contradiction

/-- Only an unlimited wait for a run that does not listen does not end. -/
theorem stopWith?_eq_none_iff :
    w.stopWith? patience = none ↔ patience = .unlimited ∧ w.heldIgnores = true := by
  unfold stopWith? heldIgnores heldRun?
  cases held : w.held with
  | none => simp
  | some place =>
    have same : (w.letGo place).runs[place]? = w.runs[place]?.map Run.requestStop := by
      simp [letGo_getElem?]
    cases patience <;> simp [same, Option.any_map]

theorem held_of_stopWith? (h : w.stopWith? patience = some (outcome, after)) :
    after.held = none := by
  rcases stopWith?_cases h with ⟨none, -, rfl⟩ | ⟨place, -, -, rfl⟩
  · exact none
  · rfl

theorem stopping_of_stopWith? (settled : w.stopping = false)
    (h : w.stopWith? patience = some (outcome, after)) : after.stopping = false := by
  rcases stopWith?_cases h with ⟨-, -, rfl⟩ | ⟨place, -, -, rfl⟩
  · exact settled
  · rfl

theorem length_of_stopWith? (h : w.stopWith? patience = some (outcome, after)) :
    after.runs.length = w.runs.length := by
  rcases stopWith?_cases h with ⟨-, -, rfl⟩ | ⟨place, -, -, rfl⟩
  · rfl
  · exact List.length_modify ..

/-! ### Runs that were asked to stop -/

theorem Asked.start (h : w.Asked place) (prepared : Except CaptureError Unit) (conduct : Conduct) :
    (w.start prepared conduct).2.Asked place := by
  obtain ⟨run, found, asked⟩ := h
  rcases w.start_cases prepared conduct with same | ⟨-, same⟩ | ⟨-, same⟩
  · exact ⟨run, by rw [same]; exact found, asked⟩
  · exact ⟨run, by rw [same]; exact found, asked⟩
  · refine ⟨run, ?_, asked⟩
    rw [same]
    exact (List.getElem?_append_left (List.getElem?_eq_some_iff.mp found).1).trans found

theorem Asked.letGo (h : w.Asked place) (other : Nat) : (w.letGo other).Asked place := by
  obtain ⟨run, found, asked⟩ := h
  refine ⟨if other = place then run.requestStop else run, ?_, ?_⟩
  · rw [letGo_getElem?, found]
    rfl
  · split
    · rfl
    · exact asked

theorem Asked.stop (h : w.Asked place) (stopped : w.stopWith? patience = some (outcome, after)) :
    after.Asked place := by
  rcases stopWith?_cases stopped with ⟨-, -, rfl⟩ | ⟨other, -, -, rfl⟩
  · exact h
  · exact h.letGo other

theorem Asked.release (h : w.Asked place) : w.release.Asked place := by
  obtain ⟨run, found, asked⟩ := h
  exact ⟨run.release, by simp [Worker.release, found], asked⟩

theorem Asked.finish (h : w.Asked place) (other : Nat) : (w.finish other).Asked place := by
  obtain ⟨run, found, asked⟩ := h
  refine ⟨if other = place then run.finish else run, ?_, ?_⟩
  · rw [Worker.finish, List.getElem?_modify, found]
    rfl
  · split
    · exact asked
    · exact asked

/-- A stop asks the run that was held. -/
theorem asked_of_stopWith? (present : place < w.runs.length) (held : w.held = some place)
    (stopped : w.stopWith? patience = some (outcome, after)) : after.Asked place := by
  rcases stopWith?_cases stopped with ⟨none, -, -⟩ | ⟨other, some, -, rfl⟩
  · rw [none] at held
    contradiction
  · obtain rfl := Option.some.inj (held.symm.trans some)
    exact ⟨w.runs[place].requestStop, by simp [endStop, letGo_getElem?, present], rfl⟩

/-! ### At most one run that was not asked to stop -/

theorem Exclusive.new : Exclusive {} := ⟨rfl, nofun, by simp⟩

/-- Between two calls a worker counts as started exactly when its held run goes on. -/
theorem Exclusive.isStarted_iff (h : w.Exclusive) : w.isStarted = true ↔
    ∃ place run, w.held = some place ∧ w.runs[place]? = some run ∧ run.alive = true := by
  rw [isStarted_of_settled h.settled, isLive_iff]

theorem Exclusive.start (h : w.Exclusive) (prepared : Except CaptureError Unit)
    (conduct : Conduct) : (w.start prepared conduct).2.Exclusive := by
  have none_else (idle : w.isLive = false) {place : Nat} {run : Run}
      (found : w.runs[place]? = some run) (alive : run.alive = true) :
      run.stopRequested = true := by
    cases asked : run.stopRequested with
    | true => rfl
    | false =>
      have held := h.only place run found alive asked
      have live := isLive_iff.mpr ⟨place, run, held, found, alive⟩
      rw [idle] at live
      contradiction
  rcases w.start_cases prepared conduct with same | ⟨idle, same⟩ | ⟨idle, same⟩
  · rw [same]
    exact h
  · rw [same]
    refine ⟨h.settled, nofun, fun place run found alive unasked => ?_⟩
    rw [none_else idle found alive] at unasked
    contradiction
  · rw [same]
    refine ⟨h.settled, ?_, ?_⟩
    · intro place held
      cases held
      simp
    · intro place run found alive unasked
      rcases Nat.lt_or_ge place w.runs.length with earlier | later
      · have found : w.runs[place]? = some run := by
          rwa [List.getElem?_append_left earlier] at found
        rw [none_else idle found alive] at unasked
        contradiction
      · have last := (List.getElem?_eq_some_iff.mp found).1
        rw [List.length_append, List.length_singleton] at last
        obtain rfl : place = w.runs.length := by omega
        rfl

theorem Exclusive.stop (h : w.Exclusive)
    (stopped : w.stopWith? patience = some (outcome, after)) : after.Exclusive := by
  rcases stopWith?_cases stopped with ⟨-, -, rfl⟩ | ⟨held, is_held, -, rfl⟩
  · exact h
  · refine ⟨rfl, nofun, fun place run found alive unasked => ?_⟩
    rw [endStop, letGo_getElem?] at found
    obtain ⟨before, was, rfl⟩ := Option.map_eq_some_iff.mp found
    split at unasked
    · contradiction
    · rename_i other
      rw [if_neg other] at alive
      have same := h.only place before was alive unasked
      exact absurd (Option.some.inj (is_held.symm.trans same)) other

theorem Exclusive.release (h : w.Exclusive) : w.release.Exclusive := by
  refine ⟨h.settled, fun place held => ?_, fun place run found alive unasked => ?_⟩
  · simpa [Worker.release] using h.present place held
  · obtain ⟨before, was, rfl⟩ : ∃ before, w.runs[place]? = some before ∧ before.release = run := by
      simpa [Worker.release] using found
    exact h.only place before was (Bool.and_eq_true_iff.mp alive).1 unasked

theorem Exclusive.finish (h : w.Exclusive) (ended : Nat) : (w.finish ended).Exclusive := by
  refine ⟨h.settled, fun place held => ?_, fun place run found alive unasked => ?_⟩
  · simpa [Worker.finish] using h.present place held
  · rw [Worker.finish, List.getElem?_modify] at found
    obtain ⟨before, was, rfl⟩ := Option.map_eq_some_iff.mp found
    split at alive
    · contradiction
    · rename_i other
      rw [if_neg other] at unasked
      exact h.only place before was alive unasked

end Worker

namespace WorkerTrial

/-- What is asked of a worker and what becomes of its runs. -/
inductive Event where
  | start
  | stop (patience : Patience)
  | restart (patience : Patience)
  /-- All runs end that ignore requests to stop. -/
  | release
  /-- A run ends by itself. -/
  | finish (place : Nat)
  /-- Runs to come have another conduct. -/
  | behave (conduct : Conduct)
deriving DecidableEq

/-- The event lets go of a run. -/
def Event.stops : Event → Bool
  | .stop _ => true
  | .restart _ => true
  | _ => false

/-- The event may begin a run. -/
def Event.begins : Event → Bool
  | .start => true
  | .restart _ => true
  | _ => false

/-- The trial after an event. Nothing when a wait would not end, or a run cannot be named. -/
def step? (t : WorkerTrial) : Event → Option WorkerTrial
  | .start => t.start?.map (·.2)
  | .stop patience => (t.stop? patience).map (·.2)
  | .restart patience => (t.restart? patience).map (·.2)
  | .release => some t.release
  | .finish place => some { t with worker := t.worker.finish place }
  | .behave conduct => some { t with conduct }

def run? (t : WorkerTrial) : List Event → Option WorkerTrial
  | [] => some t
  | e :: later => (t.step? e).bind (·.run? later)

variable {t u : WorkerTrial} {e : Event} {patience : Patience} {outcome : StopOutcome}

theorem stop?_eq_some (h : t.stop? patience = some (outcome, u)) :
    ∃ after, t.worker.stopWith? patience = some (outcome, after) ∧
      u = { t with worker := after } := by
  obtain ⟨⟨o, after⟩, stopped, same⟩ := Option.map_eq_some_iff.mp h
  cases same
  exact ⟨after, stopped, rfl⟩

/-- A start that has a result is one of the worker. -/
theorem start?_eq_some {result : Except CaptureError Unit} (h : t.start? = some (result, u)) :
    result = (t.worker.start t.next t.conduct).1 ∧
      u.worker = (t.worker.start t.next t.conduct).2 := by
  unfold start? at h
  split at h
  · rename_i live
    cases h
    rw [Worker.start_of_live live]
    exact ⟨rfl, rfl⟩
  · split at h
    · contradiction
    · cases h
      exact ⟨rfl, rfl⟩

theorem restart?_eq_some {result : Except CaptureError StopOutcome}
    (h : t.restart? patience = some (result, u)) :
    ∃ outcome stopped started, t.stop? patience = some (outcome, stopped) ∧
      stopped.start? = some (started, u) ∧ result = started.map fun _ => outcome := by
  obtain ⟨⟨outcome, stopped⟩, stop, h⟩ := Option.bind_eq_some_iff.mp h
  obtain ⟨⟨started, after⟩, start, h⟩ := Option.bind_eq_some_iff.mp h
  cases h
  exact ⟨outcome, stopped, started, stop, start, rfl⟩

theorem restart?_of_stop {stopped : WorkerTrial} (h : t.stop? patience = some (outcome, stopped)) :
    t.restart? patience = stopped.start?.map fun (started, after) =>
      (started.map fun _ => outcome, after) := by
  rw [restart?, h, Option.map_eq_bind]
  rfl

/-- A restart is an event that stops and then one that starts. -/
theorem step?_restart (h : t.step? (.restart patience) = some u) :
    ∃ between, t.step? (.stop patience) = some between ∧ between.step? .start = some u := by
  obtain ⟨⟨result, u⟩, came, rfl⟩ := Option.map_eq_some_iff.mp h
  obtain ⟨outcome, stopped, started, stop, start, -⟩ := restart?_eq_some came
  exact ⟨stopped, Option.map_eq_some_iff.mpr ⟨_, stop, rfl⟩,
    Option.map_eq_some_iff.mpr ⟨_, start, rfl⟩⟩

/-- What every start, stop and end of runs keeps, every event keeps. -/
theorem step?_keeps {P : Worker → Prop}
    (start : ∀ w prepared conduct, P w → P (w.start prepared conduct).2)
    (stop : ∀ w patience outcome after, w.stopWith? patience = some (outcome, after) → P w →
      P after)
    (release : ∀ w, P w → P w.release) (finish : ∀ w place, P w → P (w.finish place))
    (holds : P t.worker) (h : t.step? e = some u) : P u.worker := by
  have stopped {patience : Patience} {u : WorkerTrial} (h : t.step? (.stop patience) = some u) :
      P u.worker := by
    obtain ⟨⟨outcome, u⟩, came, rfl⟩ := Option.map_eq_some_iff.mp h
    obtain ⟨after, let_go, rfl⟩ := stop?_eq_some came
    exact stop _ _ _ _ let_go holds
  have started {t u : WorkerTrial} (holds : P t.worker) (h : t.step? .start = some u) :
      P u.worker := by
    obtain ⟨⟨result, u⟩, came, rfl⟩ := Option.map_eq_some_iff.mp h
    rw [(start?_eq_some came).2]
    exact start _ _ _ holds
  cases e with
  | start => exact started holds h
  | stop patience => exact stopped h
  | restart patience =>
    obtain ⟨between, stop, start⟩ := step?_restart h
    exact started (stopped stop) start
  | release =>
    cases h
    exact release _ holds
  | finish place =>
    cases h
    exact finish _ _ holds
  | behave conduct =>
    cases h
    exact holds

theorem run?_keeps {P : Worker → Prop}
    (kept : ∀ {t u : WorkerTrial} {e : Event}, P t.worker → t.step? e = some u → P u.worker)
    {events : List Event} (holds : P t.worker) (h : t.run? events = some u) : P u.worker := by
  induction events generalizing t with
  | nil =>
    cases h
    exact holds
  | cons e later ih =>
    obtain ⟨next, step, h⟩ := Option.bind_eq_some_iff.mp h
    exact ih (kept holds step) h

theorem exclusive_step {t u : WorkerTrial} {e : Event} (h : t.worker.Exclusive)
    (step : t.step? e = some u) : u.worker.Exclusive :=
  step?_keeps (fun _ _ _ h => h.start _ _) (fun _ _ _ _ stopped h => h.stop stopped)
    (fun _ h => h.release) (fun _ _ h => h.finish _) h step

theorem asked_step {t u : WorkerTrial} {e : Event} {place : Nat} (h : t.worker.Asked place)
    (step : t.step? e = some u) : u.worker.Asked place :=
  step?_keeps (P := (·.Asked place)) (fun _ _ _ h => h.start _ _)
    (fun _ _ _ _ stopped h => h.stop stopped) (fun _ h => h.release) (fun _ _ h => h.finish _) h
    step

/-- A stop or restart asks the run that was held. -/
theorem asked_of_stops {place : Nat} (h : t.worker.Exclusive) (stops : e.stops = true)
    (held : t.worker.held = some place) (step : t.step? e = some u) : u.worker.Asked place := by
  have stopped {patience : Patience} {u : WorkerTrial} (h' : t.step? (.stop patience) = some u) :
      u.worker.Asked place := by
    obtain ⟨⟨outcome, u⟩, came, rfl⟩ := Option.map_eq_some_iff.mp h'
    obtain ⟨after, let_go, rfl⟩ := stop?_eq_some came
    exact Worker.asked_of_stopWith? (h.present place held) held let_go
  cases e with
  | stop patience => exact stopped step
  | restart patience =>
    obtain ⟨between, stop, start⟩ := step?_restart step
    exact asked_step (stopped stop) start
  | start => contradiction
  | release => contradiction
  | finish _ => contradiction
  | behave _ => contradiction

/-- Only a start and a restart prepare a run and begin one. -/
theorem step?_idle (begins : e.begins = false) (step : t.step? e = some u) :
    u.preparations = t.preparations ∧ u.worker.runs.length = t.worker.runs.length := by
  cases e with
  | start => contradiction
  | restart _ => contradiction
  | stop patience =>
    obtain ⟨⟨outcome, u⟩, came, rfl⟩ := Option.map_eq_some_iff.mp step
    obtain ⟨after, let_go, rfl⟩ := stop?_eq_some came
    exact ⟨rfl, Worker.length_of_stopWith? let_go⟩
  | release =>
    cases step
    exact ⟨rfl, List.length_map _⟩
  | finish place =>
    cases step
    exact ⟨rfl, List.length_modify ..⟩
  | behave conduct =>
    cases step
    exact ⟨rfl, rfl⟩

theorem start?_of_live (h : t.worker.isLive = true) : t.start? = some (.ok (), t) := by
  simp [start?, h]

theorem start?_of_error {cause : CaptureError} (h : t.worker.isLive = false)
    (fails : t.next = .error cause) :
    t.start? = some (.error cause, { t with
      preparations := t.preparations.tail
      worker := { t.worker with held := none } }) := by
  simp [start?, fails, Worker.start_of_error h, h, Except.isOk, Except.toBool]

/-- The trial with a run begun that was prepared. -/
def begun (t : WorkerTrial) : WorkerTrial :=
  { t with
    preparations := t.preparations.tail
    worker := { t.worker with
      runs := t.worker.runs ++ [Run.launch t.conduct t.worker.released]
      held := some t.worker.runs.length } }

theorem start?_of_ok (h : t.worker.isLive = false) (succeeds : t.next = .ok ()) :
    t.start? = if t.canName then some (.ok (), t.begun) else none := by
  cases named : t.canName with
  | true => simp [start?, begun, succeeds, Worker.start_of_ok h, h, named]
  | false => simp [start?, succeeds, h, named, Except.isOk, Except.toBool]

/-- A stop leaves what the next start depends on, with no run held. -/
theorem idle_of_stop? {stopped : WorkerTrial} (h : t.stop? patience = some (outcome, stopped)) :
    stopped.worker.isLive = false ∧ stopped.next = t.next ∧ stopped.canName = t.canName ∧
      stopped.worker.runs.length = t.worker.runs.length := by
  obtain ⟨after, stop, rfl⟩ := stop?_eq_some h
  exact ⟨Worker.isLive_of_held_none (Worker.held_of_stopWith? stop), rfl, rfl,
    Worker.length_of_stopWith? stop⟩

theorem restart?_of_ok {stopped : WorkerTrial} (h : t.stop? patience = some (outcome, stopped))
    (succeeds : t.next = .ok ()) :
    t.restart? patience = if t.canName then some (.ok outcome, stopped.begun) else none := by
  obtain ⟨idle, next, name, -⟩ := idle_of_stop? h
  rw [restart?_of_stop h, start?_of_ok idle (next.trans succeeds), name]
  split <;> rfl

/-- A restart whose preparation fails leaves nothing held and begins nothing. -/
theorem restart?_of_error {stopped : WorkerTrial} {cause : CaptureError}
    (h : t.stop? patience = some (outcome, stopped)) (fails : t.next = .error cause) :
    ∃ u, t.restart? patience = some (.error cause, u) ∧ u.worker.held = none ∧
      u.worker.runs.length = t.worker.runs.length := by
  obtain ⟨idle, next, -, length⟩ := idle_of_stop? h
  rw [restart?_of_stop h, start?_of_error idle (next.trans fails)]
  exact ⟨_, rfl, rfl, length⟩

/-- The runs of a worker after any history of events: the one that goes on and was not asked to
stop, when the worker counts as started and when a run begins, what starts, stops and restarts come
to, and that a run which was stopped stays asked to stop. -/
theorem runs_exclusive (name : String) (conduct : Conduct)
    (preparations : List (Except CaptureError Unit)) (history : List Event)
    (ran : ({ name, conduct, preparations } : WorkerTrial).run? history = some t) :
    (∀ place run, t.worker.runs[place]? = some run → run.alive = true →
      run.stopRequested = false → t.worker.held = some place) ∧
    (t.worker.isStopping = false ∧ (t.worker.isStarted = true ↔ ∃ place run,
      t.worker.held = some place ∧ t.worker.runs[place]? = some run ∧ run.alive = true)) ∧
    (t.worker.isStarted = true → t.start? = some (.ok (), t)) ∧
    (t.worker.isStarted = false → ∀ cause, t.next = .error cause →
      t.start? = some (.error cause, { t with
        preparations := t.preparations.tail
        worker := { t.worker with held := none } })) ∧
    (t.worker.isStarted = false → t.next = .ok () →
      t.start? = if t.canName then some (.ok (), t.begun) else none) ∧
    (∀ e u, e.begins = false → t.step? e = some u →
      u.preparations = t.preparations ∧ u.worker.runs.length = t.worker.runs.length) ∧
    (∀ patience, t.stop? patience = none ↔
      patience = .unlimited ∧ t.worker.heldIgnores = true) ∧
    (∀ patience outcome u, t.stop? patience = some (outcome, u) →
      (outcome = .notRunning ↔ t.worker.held = none) ∧ u.worker.held = none) ∧
    (∀ patience outcome stopped, t.stop? patience = some (outcome, stopped) → t.next = .ok () →
      t.restart? patience = if t.canName then some (.ok outcome, stopped.begun) else none) ∧
    (∀ patience outcome stopped cause, t.stop? patience = some (outcome, stopped) →
      t.next = .error cause → ∃ u, t.restart? patience = some (.error cause, u) ∧
        u.worker.held = none ∧ u.worker.runs.length = t.worker.runs.length) ∧
    (∀ e u place, e.stops = true → t.worker.held = some place → t.step? e = some u →
      ∀ later v, u.run? later = some v → v.worker.Asked place) := by
  have exclusive : t.worker.Exclusive := run?_keeps exclusive_step Worker.Exclusive.new ran
  have live : t.worker.isStarted = t.worker.isLive :=
    Worker.isStarted_of_settled exclusive.settled
  have stops : ∀ patience outcome u, t.stop? patience = some (outcome, u) →
      (outcome = .notRunning ↔ t.worker.held = none) ∧ u.worker.held = none := by
    intro patience outcome u h
    obtain ⟨after, stopped, rfl⟩ := stop?_eq_some h
    refine ⟨?_, Worker.held_of_stopWith? stopped⟩
    rcases Worker.stopWith?_cases stopped with ⟨none, rfl, -⟩ | ⟨place, held, ne, -⟩
    · simp [none]
    · simp [held, ne]
  refine ⟨exclusive.only, ⟨exclusive.settled, exclusive.isStarted_iff⟩, ?_, ?_, ?_,
    fun _ _ => step?_idle, ?_, stops, fun _ _ _ => restart?_of_ok, fun _ _ _ _ => restart?_of_error,
    ?_⟩
  · rw [live]
    exact start?_of_live
  · rw [live]
    exact fun idle _ => start?_of_error idle
  · rw [live]
    exact start?_of_ok
  · intro patience
    rw [stop?, Option.map_eq_none_iff, Worker.stopWith?_eq_none_iff]
  · intro e u place stopping held step later v went_on
    exact run?_keeps (P := (·.Asked place)) asked_step
      (asked_of_stops exclusive stopping held step) went_on

/-- A run that does not listen is given up for another one, and ends by itself later. A restart
cannot be prepared then, but the new run was asked to stop for good. -/
theorem runs_exclusive_when_abandoned :
    let unready : CaptureError := .invalidConfig "unready"
    let new : WorkerTrial := ⟨"worker", .untilReleased, [.ok (), .ok (), .error unready], {}⟩
    let history : List Event := [.start, .behave .untilStopped, .restart .limited, .finish 0]
    ∃ t u, new.run? history = some t ∧ t.worker.held = some 1 ∧
      t.restart? .unlimited = some (.error unready, u) ∧ u.worker.held = none ∧
      u.worker.runs.length = 2 ∧ u.worker.Asked 1 := by
  intro unready new history
  let t : WorkerTrial := ⟨"worker", .untilStopped, [.error unready],
    { runs := [⟨.untilReleased, true, false⟩, ⟨.untilStopped, false, true⟩]
      held := some 1
      flushes := 1 }⟩
  have ran : new.run? history = some t := by
    simp only [new, history, t, unready]
    rfl
  obtain ⟨-, -, -, -, -, -, -, -, -, failed, forever⟩ :=
    runs_exclusive "worker" .untilReleased [.ok (), .ok (), .error unready] history ran
  obtain ⟨⟨outcome, stopped⟩, stop⟩ : ∃ result, t.stop? .unlimited = some result := ⟨_, rfl⟩
  obtain ⟨u, restarted, held, length⟩ := failed .unlimited outcome stopped unready stop rfl
  have stepped : t.step? (.restart .unlimited) = some u := by
    rw [step?, restarted]
    rfl
  exact ⟨t, u, ran, rfl, restarted, held, length,
    forever (.restart .unlimited) u 1 rfl rfl stepped [] u rfl⟩

end WorkerTrial

end MotionCast
