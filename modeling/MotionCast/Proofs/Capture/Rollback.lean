import MotionCast.Capture.Rig
import MotionCast.Proofs.Capture.Runs

/-! Starts of a crew and of a capture. A start that succeeds leaves every stage at work. One that
fails does so because the reader was not at work and its device cannot be opened, and takes back
what comes before the reader. The extractor and the broadcaster stay as they were, so a capture
whose reader's run has ended by itself goes on after a failed start. -/

namespace MotionCast

namespace Worker

variable {w : Worker}

theorem start_of_ready {prepared : Except CaptureError Unit}
    (h : w.isLive = true ∨ prepared = .ok ()) (conduct : Conduct) :
    w.start prepared conduct = w.start (.ok ()) conduct ∧
      (w.start (.ok ()) conduct).1 = .ok () := by
  cases live : w.isLive with
  | true => exact ⟨by simp [start_of_live live], by rw [start_of_live live]⟩
  | false =>
    have ready := h.resolve_left (by simp [live])
    exact ⟨by rw [ready], by rw [start_of_ok live]⟩

/-- A run that goes on until it is stopped goes on once it has begun. -/
theorem isLive_start (w : Worker) : (w.start (.ok ()) .untilStopped).2.isLive = true := by
  cases live : w.isLive with
  | true => rwa [start_of_live live]
  | false => simp [start_of_ok live, isLive, heldRun?, Run.launch]

/-- A wait of limited length ends. -/
theorem stopWith?_limited (w : Worker) : w.stopWith? .limited = some w.tryStop := by
  obtain ⟨result, stopped⟩ : ∃ result, w.stopWith? .limited = some result := by
    apply Option.ne_none_iff_exists'.mp
    rw [Ne, stopWith?_eq_none_iff]
    exact fun h => nomatch h.1
  rw [tryStop, stopped, Option.getD_some]

theorem held_tryStop (w : Worker) : w.tryStop.2.held = none :=
  held_of_stopWith? (stopWith?_limited w)

theorem isLive_tryStop (w : Worker) : w.tryStop.2.isLive = false :=
  isLive_of_held_none (held_tryStop w)

theorem stopping_tryStop (settled : w.stopping = false) : w.tryStop.2.stopping = false :=
  stopping_of_stopWith? settled (stopWith?_limited w)

theorem stopping_block (w : Worker) : w.block.stopping = w.stopping := by
  unfold block
  split <;> rfl

theorem stopping_finishHeld (w : Worker) : w.finishHeld.stopping = w.stopping := by
  unfold finishHeld
  split <;> rfl

end Worker

namespace Crew

/-- A member at work: it went on or began a run. -/
def begin (m : Stage × Worker) : Stage × Worker := (m.1, (m.2.start (.ok ()) .untilStopped).2)

/-- A member that was started and is stopped again. -/
def takeBack (m : Stage × Worker) : Stage × Worker := (m.1, (begin m).2.tryStop.2)

/-- The stages of the members, in order. -/
def stages (c : Crew) : List Stage := c.members.map (·.1)

variable {prepared : Stage → Except CaptureError Unit}

/-- A member is at work already, or can be prepared. -/
def Ready (prepared : Stage → Except CaptureError Unit) (m : Stage × Worker) : Prop :=
  m.2.isLive = true ∨ prepared m.1 = .ok ()

theorem startMembers_of_ready {members : List (Stage × Worker)}
    (ready : ∀ m ∈ members, Ready prepared m) :
    startMembers prepared members = (.ok (), members.map begin) := by
  induction members with
  | nil => rfl
  | cons m rest ih =>
    obtain ⟨same, succeeds⟩ :=
      Worker.start_of_ready (ready m (List.mem_cons_self ..)) .untilStopped
    have later := ih fun m h => ready m (List.mem_cons_of_mem _ h)
    rw [startMembers, same, later]
    generalize started : m.2.start (.ok ()) .untilStopped = began at succeeds
    obtain ⟨result, worker⟩ := began
    cases succeeds
    simp [begin, started]

/-- When a member cannot be prepared, those before it are taken back and those after it stay. -/
theorem startMembers_of_failure {front back : List (Stage × Worker)} {stage : Stage} {w : Worker}
    {e : CaptureError} (ready : ∀ m ∈ front, Ready prepared m) (idle : w.isLive = false)
    (fails : prepared stage = .error e) :
    startMembers prepared (front ++ (stage, w) :: back) =
      (.error e, front.map takeBack ++ (stage, { w with held := none }) :: back) := by
  induction front with
  | nil =>
    rw [List.nil_append, startMembers, fails, Worker.start_of_error idle]
    rfl
  | cons m rest ih =>
    obtain ⟨same, succeeds⟩ :=
      Worker.start_of_ready (ready m (List.mem_cons_self ..)) .untilStopped
    have later := ih fun m h => ready m (List.mem_cons_of_mem _ h)
    rw [List.cons_append, startMembers, same, later]
    generalize started : m.2.start (.ok ()) .untilStopped = began at succeeds
    obtain ⟨result, worker⟩ := began
    cases succeeds
    simp [takeBack, begin, started]

/-! ### What every member keeps -/

/-- Every member's worker has a property. -/
def All (P : Worker → Prop) (c : Crew) : Prop := ∀ m ∈ c.members, P m.2

section All

variable {P : Worker → Prop} {c : Crew}

theorem all_new (paced : Bool) (idle : P {}) : (Crew.new paced).All P := by
  intro m present
  obtain ⟨stage, -, rfl⟩ := List.mem_map.mp present
  exact idle

theorem all_startMembers
    (start : ∀ w prepared, P w → P (w.start prepared .untilStopped).2)
    (stop : ∀ w, P w → P w.tryStop.2) (prepared : Stage → Except CaptureError Unit)
    {members : List (Stage × Worker)} (h : ∀ m ∈ members, P m.2) :
    ∀ m ∈ (startMembers prepared members).2, P m.2 := by
  induction members with
  | nil => exact h
  | cons first rest ih =>
    obtain ⟨stage, worker⟩ := first
    rw [List.forall_mem_cons] at h
    have later := ih h.2
    have begun := start worker (prepared stage) h.1
    rw [startMembers]
    split
    · rename_i started
      rw [started] at begun
      exact List.forall_mem_cons.mpr ⟨begun, h.2⟩
    · rename_i started
      rw [started] at begun
      split
      · rename_i failed
        rw [failed] at later
        exact List.forall_mem_cons.mpr ⟨stop _ begun, later⟩
      · rename_i succeeded
        rw [succeeded] at later
        exact List.forall_mem_cons.mpr ⟨begun, later⟩

theorem All.start (h : c.All P) (start : ∀ w prepared, P w → P (w.start prepared .untilStopped).2)
    (stop : ∀ w, P w → P w.tryStop.2) (prepared : Stage → Except CaptureError Unit) :
    (c.start prepared).2.All P := all_startMembers start stop prepared h

theorem All.worker? (h : c.All P) {stage : Stage} {w : Worker} (found : c.worker? stage = some w) :
    P w := by
  obtain ⟨front, back, members, -⟩ := List.lookup_eq_some_iff.mp found
  exact h (stage, w) (by simp [members])

theorem All.stop (h : c.All P) (stop : ∀ w, P w → P w.tryStop.2) : c.stop.All P := by
  intro m present
  obtain ⟨before, was, rfl⟩ := List.mem_map.mp present
  exact stop _ (h before was)

theorem All.modify (h : c.All P) (stage : Stage) {f : Worker → Worker}
    (kept : ∀ w, P w → P (f w)) : (c.modify stage f).All P := by
  intro m present
  obtain ⟨before, was, rfl⟩ := List.mem_map.mp present
  have holds := h before was
  simp only
  split
  · exact kept _ holds
  · exact holds

end All

/-- No member's stop is under way. -/
def Settled (c : Crew) : Prop := c.All (·.stopping = false)

theorem settled_new (paced : Bool) : (Crew.new paced).Settled := all_new paced rfl

theorem Settled.start {c : Crew} (h : c.Settled) (prepared : Stage → Except CaptureError Unit) :
    (c.start prepared).2.Settled :=
  All.start h (fun w prepared settled => (w.stopping_start prepared .untilStopped).trans settled)
    (fun _ => Worker.stopping_tryStop) prepared

/-- Between two calls a crew counts as started when a held run goes on. -/
theorem Settled.isStarted {c : Crew} (h : c.Settled) :
    c.isStarted = c.members.any fun m => m.2.isLive := by
  rw [Bool.eq_iff_iff, Crew.isStarted, List.any_eq_true, List.any_eq_true]
  refine exists_congr fun m => and_congr_right fun present => ?_
  exact Bool.eq_iff_iff.mp (Worker.isStarted_of_settled (h m present))

/-! ### A crew in order -/

/-- The members of a crew: those before the reader, the reader, and the two after it. -/
structure Cut (c : Crew) (front : List (Stage × Worker)) (reader extractor broadcaster : Worker) :
    Prop where
  members : c.members = front ++
    [(.reader, reader), (.extractor, extractor), (.broadcaster, broadcaster)]
  early : ∀ m ∈ front, m.1 = .pace ∨ m.1 = .loss

theorem exists_cut {c : Crew} {paced : Bool} (h : c.stages = Stage.inOrder paced) :
    ∃ front reader extractor broadcaster, c.Cut front reader extractor broadcaster := by
  obtain ⟨front, back, members, first, last⟩ := List.map_eq_append_iff.mp h
  obtain ⟨⟨_, reader⟩, back₁, rfl, rfl, last₁⟩ := List.map_eq_cons_iff.mp last
  obtain ⟨⟨_, extractor⟩, back₂, rfl, rfl, last₂⟩ := List.map_eq_cons_iff.mp last₁
  obtain ⟨⟨_, broadcaster⟩, back₃, rfl, rfl, last₃⟩ := List.map_eq_cons_iff.mp last₂
  obtain rfl := List.map_eq_nil_iff.mp last₃
  refine ⟨front, reader, extractor, broadcaster, members, fun m present => ?_⟩
  have named := List.mem_map_of_mem (f := (·.1)) present
  rw [first] at named
  cases paced with
  | true => simpa using named
  | false => simp at named

theorem worker?_append {front back : List (Stage × Worker)} {stage : Stage}
    (absent : ∀ m ∈ front, m.1 ≠ stage) :
    (Crew.mk (front ++ back)).worker? stage = (Crew.mk back).worker? stage := by
  unfold worker?
  induction front with
  | nil => rfl
  | cons m rest ih =>
    have other := absent m (List.mem_cons_self ..)
    rw [List.cons_append, List.lookup_cons, beq_false_of_ne other.symm]
    exact ih fun m h => absent m (List.mem_cons_of_mem _ h)

/-- Members that are all at work, or all not, are so under every stage among them. -/
theorem isAtWork_of_mem {members back : List (Stage × Worker)} {live : Bool} {stage : Stage}
    (all : ∀ m ∈ members, m.2.isLive = live) (present : stage ∈ members.map (·.1)) :
    (Crew.mk (members ++ back)).isAtWork stage = live := by
  unfold isAtWork worker?
  induction members with
  | nil => contradiction
  | cons m rest ih =>
    rw [List.cons_append, List.lookup_cons]
    cases same : stage == m.1 with
    | true => exact all m (List.mem_cons_self ..)
    | false =>
      rw [List.map_cons, List.mem_cons] at present
      exact ih (fun m h => all m (List.mem_cons_of_mem _ h))
        (present.resolve_left (ne_of_beq_false same))

namespace Cut

variable {c : Crew} {front : List (Stage × Worker)} {reader extractor broadcaster : Worker}

theorem eq_mk (h : c.Cut front reader extractor broadcaster) :
    c = ⟨front ++ [(.reader, reader), (.extractor, extractor), (.broadcaster, broadcaster)]⟩ :=
  congrArg Crew.mk h.members

theorem worker? (h : c.Cut front reader extractor broadcaster) {stage : Stage}
    (late : stage ≠ .pace ∧ stage ≠ .loss) :
    c.worker? stage = (Crew.mk
      [(.reader, reader), (.extractor, extractor), (.broadcaster, broadcaster)]).worker? stage := by
  rw [h.eq_mk]
  apply worker?_append
  intro m present same
  rcases h.early m present with early | early
  · exact late.1 (same.symm.trans early)
  · exact late.2 (same.symm.trans early)

theorem isAtWork_reader (h : c.Cut front reader extractor broadcaster) :
    c.isAtWork .reader = reader.isLive := by
  rw [isAtWork, h.worker? (by decide)]
  rfl

theorem isAtWork_extractor (h : c.Cut front reader extractor broadcaster) :
    c.isAtWork .extractor = extractor.isLive := by
  rw [isAtWork, h.worker? (by decide)]
  rfl

theorem isAtWork_broadcaster (h : c.Cut front reader extractor broadcaster) :
    c.isAtWork .broadcaster = broadcaster.isLive := by
  rw [isAtWork, h.worker? (by decide)]
  rfl

theorem ready_front (h : c.Cut front reader extractor broadcaster)
    (others : ∀ stage, stage ≠ .reader → prepared stage = .ok ()) :
    ∀ m ∈ front, Ready prepared m := by
  intro m present
  refine .inr (others m.1 ?_)
  rcases h.early m present with early | early <;> simp [early]

theorem start_of_ready (h : c.Cut front reader extractor broadcaster)
    (others : ∀ stage, stage ≠ .reader → prepared stage = .ok ())
    (ready : reader.isLive = true ∨ prepared .reader = .ok ()) :
    c.start prepared = (.ok (), ⟨c.members.map begin⟩) := by
  have all : ∀ m ∈ c.members, Ready prepared m := by
    rw [h.members, List.forall_mem_append]
    refine ⟨h.ready_front others, ?_⟩
    simp only [List.forall_mem_cons]
    exact ⟨ready, .inr (others .extractor (by decide)), .inr (others .broadcaster (by decide)),
      nofun⟩
  rw [start, startMembers_of_ready all]

theorem start_of_failure {e : CaptureError} (h : c.Cut front reader extractor broadcaster)
    (others : ∀ stage, stage ≠ .reader → prepared stage = .ok ())
    (idle : reader.isLive = false) (fails : prepared .reader = .error e) :
    ∃ after, c.start prepared = (.error e, after) ∧
      after.Cut (front.map takeBack) { reader with held := none } extractor broadcaster := by
  refine ⟨_, ?_, rfl, ?_⟩
  · rw [start, h.members, startMembers_of_failure (h.ready_front others) idle fails]
  · intro m present
    obtain ⟨before, was, rfl⟩ := List.mem_map.mp present
    exact h.early before was

end Cut

variable {c : Crew} {paced : Bool}

/-- With the reader at work or able to begin, every stage is at work after a start. -/
theorem start_of_ready (inOrder : c.stages = Stage.inOrder paced)
    (others : ∀ stage, stage ≠ .reader → prepared stage = .ok ())
    (ready : c.isAtWork .reader = true ∨ prepared .reader = .ok ()) :
    (c.start prepared).1 = .ok () ∧
      ∀ stage ∈ Stage.inOrder paced, (c.start prepared).2.isAtWork stage = true := by
  obtain ⟨front, reader, extractor, broadcaster, cut⟩ := exists_cut inOrder
  rw [cut.isAtWork_reader] at ready
  rw [cut.start_of_ready others ready]
  refine ⟨rfl, fun stage present => ?_⟩
  have at_work : ∀ m ∈ c.members.map begin, m.2.isLive = true := by
    intro m begun
    obtain ⟨before, -, rfl⟩ := List.mem_map.mp begun
    exact Worker.isLive_start before.2
  rw [← List.append_nil (c.members.map begin)]
  apply isAtWork_of_mem at_work
  rw [List.map_map]
  show stage ∈ c.stages
  rwa [inOrder]

/-- When the reader cannot begin, the stages up to it are not at work after a start, and those after
it are as they were. -/
theorem start_of_failure {e : CaptureError} (inOrder : c.stages = Stage.inOrder paced)
    (settled : c.Settled) (others : ∀ stage, stage ≠ .reader → prepared stage = .ok ())
    (idle : c.isAtWork .reader = false) (fails : prepared .reader = .error e) :
    (c.start prepared).1 = .error e ∧
      (∀ stage ∈ [Stage.pace, .loss, .reader], (c.start prepared).2.isAtWork stage = false) ∧
      (∀ stage ∈ [Stage.extractor, .broadcaster],
        (c.start prepared).2.worker? stage = c.worker? stage) ∧
      (c.start prepared).2.isStarted = (c.isAtWork .extractor || c.isAtWork .broadcaster) := by
  have started := (settled.start prepared).isStarted
  obtain ⟨front, reader, extractor, broadcaster, cut⟩ := exists_cut inOrder
  rw [cut.isAtWork_reader] at idle
  obtain ⟨after, failed, left⟩ := cut.start_of_failure others idle fails
  rw [failed] at started ⊢
  have lost : ({ reader with held := none } : Worker).isLive = false :=
    Worker.isLive_of_held_none rfl
  have taken_back : ∀ m ∈ front.map takeBack, m.2.isLive = false := by
    intro m present
    obtain ⟨before, -, rfl⟩ := List.mem_map.mp present
    exact Worker.isLive_tryStop _
  refine ⟨rfl, fun stage early => ?_, fun stage late => ?_, ?_⟩
  · rw [left.eq_mk]
    by_cases present : stage ∈ (front.map takeBack).map (·.1)
    · exact isAtWork_of_mem taken_back present
    · rw [isAtWork, worker?_append fun m there same => present (List.mem_map.mpr ⟨m, there, same⟩)]
      simp only [List.mem_cons, List.not_mem_nil, or_false] at early
      rcases early with rfl | rfl | rfl
      · rfl
      · rfl
      · exact lost
  · have late' : stage ≠ .pace ∧ stage ≠ .loss := by
      simp only [List.mem_cons, List.not_mem_nil, or_false] at late
      rcases late with rfl | rfl <;> decide
    rw [left.worker? late', cut.worker? late']
    simp only [List.mem_cons, List.not_mem_nil, or_false] at late
    rcases late with rfl | rfl
    · rfl
    · rfl
  · rw [started, cut.isAtWork_extractor, cut.isAtWork_broadcaster, left.members, List.any_append,
      List.any_eq_false.mpr fun m there => by simp [taken_back m there]]
    simp [lost]

/-! ### What keeps the members of a crew -/

theorem stages_modify (c : Crew) (stage : Stage) (f : Worker → Worker) :
    (c.modify stage f).stages = c.stages := by
  simp [stages, modify, Function.comp_def]

theorem isAtWork_modify_of_ne (c : Crew) {stage other : Stage} (h : other ≠ stage)
    (f : Worker → Worker) : (c.modify other f).isAtWork stage = c.isAtWork stage := by
  obtain ⟨members⟩ := c
  unfold isAtWork worker? modify
  induction members with
  | nil => rfl
  | cons m rest ih =>
    rw [List.map_cons, List.lookup_cons, List.lookup_cons]
    split
    · rename_i same
      rw [if_neg fun is_other => h (is_other.symm.trans (eq_of_beq same).symm)]
    · exact ih

theorem stages_stop (c : Crew) : c.stop.stages = c.stages := by
  simp [stages, stop, Function.comp_def]

theorem map_fst_startMembers (prepared : Stage → Except CaptureError Unit)
    (members : List (Stage × Worker)) :
    (startMembers prepared members).2.map (·.1) = members.map (·.1) := by
  induction members with
  | nil => rfl
  | cons m rest ih =>
    obtain ⟨stage, worker⟩ := m
    rw [startMembers]
    split
    · rfl
    · split
      all_goals
        rename_i later
        rw [later] at ih
        exact congrArg (stage :: ·) ih

theorem stages_start (c : Crew) (prepared : Stage → Except CaptureError Unit) :
    (c.start prepared).2.stages = c.stages :=
  map_fst_startMembers prepared c.members

end Crew

namespace Capture

/-- What can happen to a capture. -/
inductive Event where
  | start (opened : Except DeviceError Unit) (now : Nanos)
  | stop
  /-- The run that a stage holds ends by itself. -/
  | ended (stage : Stage)
  /-- The loss tracker gets to an advance that was left to it. -/
  | analyzed (now : Nanos)
  /-- The reader is silent, stuck in a read or not, and begins anew if its device can be opened. -/
  | silence (blocked : Bool) (opened : Except DeviceError Unit)
  | reopened (success : Bool)
  | beforeRead
  | read (outcome : ReadOutcome) (now : Nanos)
  | subscribe
  | unsubscribe (seat : Nat)
  | consume (seat : Nat)
  | requestMotion

/-- The capture after an event. Nothing when the frame of a read cannot be taken out. -/
def step? (c : Capture) : Event → Option Capture
  | .start opened now => some (c.start opened now).2
  | .stop => some c.stop
  | .ended stage => some { c with crew := c.crew.modify stage Worker.finishHeld }
  | .analyzed now => some (c.analyze now)
  | .silence blocked opened => some (c.handleSilence blocked opened)
  | .reopened success => some (c.reopened success)
  | .beforeRead => some c.beforeRead.2
  | .read outcome now => c.afterRead? outcome now
  | .subscribe => some c.subscribe.2
  | .unsubscribe seat => some (c.unsubscribe seat).2
  | .consume seat => some (c.consume seat).2
  | .requestMotion => some c.requestMotion

def run? (c : Capture) : List Event → Option Capture
  | [] => some c
  | e :: later => (c.step? e).bind (·.run? later)

theorem crew_publish (c : Capture) : c.publish.crew = c.crew := by
  unfold publish
  split
  · rfl
  · rfl

theorem crew_settle (c : Capture) : c.settle.crew = c.crew := by
  unfold settle
  split
  · exact crew_publish c
  · rfl

theorem crew_foldl_begun (now : Nanos) (stages : List Stage) (c : Capture) :
    (stages.foldl (begun now) c).crew = c.crew := by
  induction stages generalizing c with
  | nil => rfl
  | cons stage rest ih =>
    rw [List.foldl_cons, ih]
    cases stage <;> rfl

/-- The crew of a capture starts with a reader that can begin if its device can be opened, and with
every other stage ready. -/
theorem crew_start (c : Capture) (opened : Except DeviceError Unit) (now : Nanos) :
    ∃ prepared, prepared .reader = opened.mapError .device ∧
      (∀ stage, stage ≠ .reader → prepared stage = .ok ()) ∧
      (c.start opened now).1 = (c.crew.start prepared).1 ∧
      (c.start opened now).2.crew = (c.crew.start prepared).2 := by
  refine ⟨_, rfl, fun stage other => ?_, rfl, ?_⟩
  · cases stage with
    | reader => contradiction
    | pace | loss | extractor | broadcaster => rfl
  · exact (crew_settle _).trans (crew_foldl_begun ..)

/-- An analysis acts on the control loop, takes the advance and the two signals, and may end the run
of the loss tracker. -/
theorem exists_analyze (c : Capture) (now : Nanos) :
    ∃ crew loop advances unsynced readStuck,
      c.analyze now = { c with
        crew
        loop
        wiring := { c.wiring with advances, unsynced, readStuck } } ∧
      (crew = c.crew ∨ crew = c.crew.modify .loss Worker.finishHeld) := by
  unfold analyze
  split
  · simp only
    split
    · exact ⟨_, _, _, _, _, rfl, .inr rfl⟩
    · exact ⟨_, _, _, _, _, rfl, .inl rfl⟩
  · exact ⟨_, _, _, _, _, rfl, .inl rfl⟩

/-- Taking a frame out of a record acts on the extractor, the wiring and the control loop, and lets
the broadcaster go on. -/
theorem exists_extract {c c' : Capture} {now : Nanos} (h : c.extract? now = some c') :
    ∃ done, c.extractor.step? c.wiring = some done ∧
      c' = (({ c with extractor := done.extractor, wiring := done.wiring } : Capture).analyze
        now).settle := by
  obtain ⟨done, extracted, rfl⟩ := Option.map_eq_some_iff.mp h
  exact ⟨done, extracted, rfl⟩

theorem crew_analyze (c : Capture) (now : Nanos) :
    (c.analyze now).crew = c.crew ∨
      (c.analyze now).crew = c.crew.modify .loss Worker.finishHeld := by
  obtain ⟨crew, loop, advances, unsynced, readStuck, analyzed, either⟩ := exists_analyze c now
  rwa [analyzed]

theorem isAtWork_analyze (c : Capture) (stage : Stage) (other : .loss ≠ stage) (now : Nanos) :
    (c.analyze now).crew.isAtWork stage = c.crew.isAtWork stage := by
  rcases crew_analyze c now with same | failed
  · rw [same]
  · rw [failed, Crew.isAtWork_modify_of_ne _ other]

theorem crew_extract {c c' : Capture} {now : Nanos} (h : c.extract? now = some c') :
    c'.crew = c.crew ∨ c'.crew = c.crew.modify .loss Worker.finishHeld := by
  obtain ⟨done, -, rfl⟩ := exists_extract h
  rw [crew_settle]
  exact crew_analyze _ now

/-- What every start, stop and end of a run keeps, and every restart of a silent reader, every event
keeps. -/
theorem crew_step_keeps {P : Crew → Prop} {c c' : Capture} {e : Event}
    (start : ∀ crew prepared, P crew → P (crew.start prepared).2)
    (stop : ∀ crew, P crew → P crew.stop)
    (ended : ∀ crew stage, P crew → P (crew.modify stage Worker.finishHeld))
    (silence : ∀ c blocked opened, P c.crew → P (handleSilence c blocked opened).crew)
    (holds : P c.crew) (h : c.step? e = some c') : P c'.crew := by
  cases e with
  | start opened now =>
    cases h
    obtain ⟨prepared, -, -, -, started⟩ := crew_start c opened now
    rw [started]
    exact start _ _ holds
  | stop =>
    cases h
    exact stop _ holds
  | ended stage =>
    cases h
    exact ended _ stage holds
  | silence blocked opened =>
    cases h
    exact silence c blocked opened holds
  | analyzed now =>
    cases h
    rcases crew_analyze c now with same | failed
    · rw [same]
      exact holds
    · rw [failed]
      exact ended _ .loss holds
  | read outcome now =>
    rw [step?, afterRead?] at h
    split at h
    rcases crew_extract h with same | failed
    · rw [same]
      exact holds
    · rw [failed]
      exact ended _ .loss holds
  | beforeRead =>
    cases h
    unfold beforeRead
    split
    · exact holds
    · exact holds
  | subscribe =>
    cases h
    rw [subscribe, crew_settle]
    exact holds
  | reopened | unsubscribe | consume | requestMotion =>
    cases h
    exact holds

theorem stages_handleSilence (c : Capture) (blocked : Bool) (opened : Except DeviceError Unit) :
    (c.handleSilence blocked opened).crew.stages = c.crew.stages := by
  unfold handleSilence
  split
  · rfl
  · cases opened with
    | error _ => exact Crew.stages_modify ..
    | ok _ => exact Crew.stages_modify ..

theorem stages_step {c c' : Capture} {e : Event} (h : c.step? e = some c') :
    c'.crew.stages = c.crew.stages :=
  crew_step_keeps (P := (·.stages = c.crew.stages))
    (fun _ _ same => (Crew.stages_start ..).trans same)
    (fun _ same => (Crew.stages_stop _).trans same)
    (fun _ _ same => (Crew.stages_modify ..).trans same)
    (fun _ _ _ same => (stages_handleSilence ..).trans same) rfl h

/-- What every recovery of the reader's worker keeps, a silence keeps. -/
theorem all_handleSilence {P : Worker → Prop} {c : Capture} (h : c.crew.All P)
    (recovered : ∀ (w : Worker) (wiring : Wiring) (blocked : Bool) prepared, P w →
      P (({ worker := if blocked then w.block else w, wiring } : Recovery).handleSilence prepared
        .untilStopped).worker) (blocked : Bool) (opened : Except DeviceError Unit) :
    (c.handleSilence blocked opened).crew.All P := by
  unfold handleSilence
  split
  · exact h
  · rename_i w reader
    have holds := recovered w c.wiring blocked (opened.mapError .device) (h.worker? reader)
    cases opened with
    | error _ => exact h.modify .reader fun _ _ => holds
    | ok _ => exact h.modify .reader fun _ _ => holds

theorem settled_handleSilence {c : Capture} (h : c.crew.Settled) (blocked : Bool)
    (opened : Except DeviceError Unit) : (c.handleSilence blocked opened).crew.Settled := by
  refine all_handleSilence h (fun w wiring blocked prepared settled => ?_) blocked opened
  have unblocked : (if blocked then w.block else w).stopping = false := by
    split
    · exact (Worker.stopping_block w).trans settled
    · exact settled
  exact (Worker.stopping_start _ prepared .untilStopped).trans (Worker.stopping_tryStop unblocked)

theorem settled_step {c c' : Capture} {e : Event} (h : c.crew.Settled)
    (stepped : c.step? e = some c') : c'.crew.Settled :=
  crew_step_keeps (fun _ prepared settled => settled.start prepared)
    (fun _ settled => Crew.All.stop settled fun _ => Worker.stopping_tryStop)
    (fun _ stage settled => Crew.All.modify settled stage fun w settled =>
      (Worker.stopping_finishHeld w).trans settled)
    (fun _ blocked opened settled => settled_handleSilence settled blocked opened) h stepped

/-- What every event keeps, every history keeps. -/
theorem run?_keeps {P : Capture → Prop} {c c' : Capture} {history : List Event}
    (kept : ∀ {c c' : Capture} {e : Event}, P c → c.step? e = some c' → P c') (holds : P c)
    (h : c.run? history = some c') : P c' := by
  induction history generalizing c with
  | nil =>
    cases h
    exact holds
  | cons e later ih =>
    obtain ⟨next, stepped, went_on⟩ := Option.bind_eq_some_iff.mp h
    exact ih (kept holds stepped) went_on

theorem stages_run {c c' : Capture} {history : List Event} (h : c.run? history = some c') :
    c'.crew.stages = c.crew.stages :=
  run?_keeps (P := (·.crew.stages = c.crew.stages))
    (fun same stepped => (stages_step stepped).trans same) rfl h

theorem settled_run {c c' : Capture} {history : List Event} (h : c.crew.Settled)
    (ran : c.run? history = some c') : c'.crew.Settled :=
  run?_keeps (P := (·.crew.Settled)) settled_step h ran

theorem stages_assemble (config : CaptureConfig) (transport : Transport) (writable : Bool) :
    (assemble config transport writable).crew.stages = Stage.inOrder transport.isRecordStream := by
  simp [assemble, Crew.new, Crew.stages, Function.comp_def]

/-- What a start comes to after any history of a capture. With the reader at work or a device that
can be opened, it leaves every stage at work. Otherwise it fails, the stages up to the reader are
not at work, and the later ones are as they were before. -/
theorem start_outcome {config : CaptureConfig} {transport : Transport} {writable : Bool}
    {history : List Event} {c : Capture}
    (ran : (assemble config transport writable).run? history = some c)
    (opened : Except DeviceError Unit) (now : Nanos) :
    (c.crew.isAtWork .reader = true ∨ opened = .ok () →
      (c.start opened now).1 = .ok () ∧ ∀ stage ∈ Stage.inOrder transport.isRecordStream,
        (c.start opened now).2.crew.isAtWork stage = true) ∧
    (∀ cause, c.crew.isAtWork .reader = false → opened = .error cause →
      (c.start opened now).1 = .error (.device cause) ∧
      (∀ stage ∈ [Stage.pace, .loss, .reader],
        (c.start opened now).2.crew.isAtWork stage = false) ∧
      (∀ stage ∈ [Stage.extractor, .broadcaster],
        (c.start opened now).2.crew.worker? stage = c.crew.worker? stage) ∧
      ((c.start opened now).2.isStarted = true ↔
        c.crew.isAtWork .extractor = true ∨ c.crew.isAtWork .broadcaster = true)) := by
  have inOrder := (stages_run ran).trans (stages_assemble config transport writable)
  have settled : c.crew.Settled := settled_run (Crew.settled_new _) ran
  obtain ⟨prepared, reader, others, result, crew⟩ := crew_start c opened now
  rw [isStarted, result, crew]
  constructor
  · rintro (at_work | rfl)
    · exact Crew.start_of_ready inOrder others (.inl at_work)
    · exact Crew.start_of_ready inOrder others (.inr reader)
  · rintro cause idle rfl
    obtain ⟨failed, early, late, started⟩ :=
      Crew.start_of_failure inOrder settled others idle reader
    refine ⟨failed, early, late, ?_⟩
    rw [started, Bool.or_eq_true]

/-- A capture whose reader's run has ended by itself cannot be started while its device cannot be
opened. It loses its pace, but still extracts and broadcasts. -/
theorem start_outcome_when_reader_ended :
    let history : List Event := [.start (.ok ()) 1, .ended .reader]
    ∃ c, (assemble {} .hiddev true).run? history = some c ∧
      (c.start (.error Rig.openError) 2).1 = .error (.device Rig.openError) ∧
      (c.start (.error Rig.openError) 2).2.crew.isAtWork .pace = false ∧
      (c.start (.error Rig.openError) 2).2.isStarted = true := by
  intro history
  obtain ⟨c, ran⟩ : ∃ c, (assemble {} .hiddev true).run? history = some c := ⟨_, rfl⟩
  have at_work : ((assemble {} .hiddev true).run? history).map
      (fun c => (c.crew.isAtWork .reader, c.crew.isAtWork .extractor)) = some (false, true) := rfl
  rw [ran, Option.map_some, Option.some.injEq, Prod.mk.injEq] at at_work
  obtain ⟨-, fails⟩ := start_outcome ran (.error Rig.openError) 2
  obtain ⟨failed, early, -, on⟩ := fails _ at_work.1 rfl
  exact ⟨c, ran, failed, early _ (by decide), on.mpr (.inl at_work.2)⟩

/-- A start that fails need not leave every stage idle: the reader was given up in a read, and its
device could not be opened since. -/
theorem not_idle_of_failed_start :
    ¬∀ (history : List Event) (c : Capture) (cause : CaptureError),
      (assemble {} .report false).run? history = some c →
      (c.start (.error Rig.openError) 2).1 = .error cause →
      (c.start (.error Rig.openError) 2).2.isStarted = false := by
  intro idle
  let history : List Event := [.start (.ok ()) 1, .silence true (.error Rig.openError)]
  obtain ⟨c, ran⟩ : ∃ c, (assemble {} .report false).run? history = some c := ⟨_, rfl⟩
  have outcome : ((assemble {} .report false).run? history).map (fun c =>
      ((c.start (.error Rig.openError) 2).1, (c.start (.error Rig.openError) 2).2.isStarted)) =
        some (.error (.device Rig.openError), true) := rfl
  rw [ran, Option.map_some, Option.some.injEq, Prod.mk.injEq] at outcome
  have stopped := idle history c _ ran outcome.1
  rw [stopped] at outcome
  exact absurd outcome.2 (by decide)

end Capture

end MotionCast
