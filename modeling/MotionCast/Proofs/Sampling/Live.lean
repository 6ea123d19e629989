import MotionCast.Proofs.Capture.Rollback
import MotionCast.Proofs.Capture.Seating
import MotionCast.Proofs.Sampling.Serving
import MotionCast.Sampling.LiveAdapter

/-! A live adapter is an adapter in its seat. Whatever is done with it and with the device of its
capture, all that its seat meets with are frames that are shown, starts, stops and demands. Main
result: the samples of a live adapter are the answers of its seated adapter to such a history. -/

namespace MotionCast

/-! ### What a capture does to its audience -/

/-- All that one capture does to become another is, for the audience, to show frames. -/
def Capture.Shows (c c' : Capture) : Prop :=
  ∃ frames : List Bytes, c'.audience = frames.foldl Audience.publish c.audience

namespace Capture

theorem Shows.of_eq {c c' : Capture} (h : c'.audience = c.audience) : c.Shows c' := ⟨[], h⟩

theorem Shows.trans {a b c : Capture} (h : a.Shows b) (h' : b.Shows c) : a.Shows c := by
  obtain ⟨frames, shown⟩ := h
  obtain ⟨more, shown'⟩ := h'
  exact ⟨frames ++ more, by rw [shown', shown, List.foldl_append]⟩

theorem shows_publish (c : Capture) : c.Shows c.publish := by
  unfold publish
  split
  · exact .of_eq rfl
  · exact ⟨[_], rfl⟩

theorem shows_settle (c : Capture) : c.Shows c.settle := by
  unfold settle
  split
  · exact shows_publish c
  · exact .of_eq rfl

theorem shows_foldl_begun (now : Nanos) (stages : List Stage) (c : Capture) :
    c.Shows (stages.foldl (begun now) c) := by
  induction stages generalizing c with
  | nil => exact .of_eq rfl
  | cons stage rest ih =>
    have first : c.Shows (begun now c stage) := .of_eq (by cases stage <;> rfl)
    exact first.trans (ih _)

theorem shows_start (c : Capture) (opened : Except DeviceError Unit) (now : Nanos) :
    c.Shows (c.start opened now).2 := by
  refine Shows.trans ?_ (shows_settle _)
  exact shows_foldl_begun now _ { c with crew := _ }

theorem shows_analyze (c : Capture) (now : Nanos) : c.Shows (c.analyze now) := by
  obtain ⟨crew, loop, advances, unsynced, readStuck, analyzed, -⟩ := exists_analyze c now
  rw [analyzed]
  exact .of_eq rfl

theorem shows_extract {c c' : Capture} {now : Nanos} (h : c.extract? now = some c') :
    c.Shows c' := by
  obtain ⟨done, -, rfl⟩ := exists_extract h
  have analyzed := shows_analyze { c with extractor := done.extractor, wiring := done.wiring } now
  exact Shows.trans analyzed (shows_settle _)

theorem shows_afterRead {c c' : Capture} {outcome : ReadOutcome} {now : Nanos}
    (h : c.afterRead? outcome now = some c') : c.Shows c' := by
  rw [afterRead?] at h
  split at h
  have read := shows_extract h
  exact read

theorem shows_beforeRead (c : Capture) : c.Shows c.beforeRead.2 := by
  unfold beforeRead
  split
  · exact .of_eq rfl
  · exact .of_eq rfl

end Capture

namespace Rig

theorem shows_connect (r : Rig) : r.capture.Shows r.connect.capture := by
  unfold connect
  split
  · exact .of_eq rfl
  · exact .of_eq rfl

theorem shows_beginRead (r : Rig) : r.capture.Shows r.beginRead.capture := by
  unfold beginRead
  split
  · exact Capture.shows_beforeRead r.capture
  · exact .of_eq rfl

theorem shows_goOn {r r' : Rig} (h : r.goOn = .ok r') : r.capture.Shows r'.capture := by
  unfold goOn at h
  split at h
  · contradiction
  · cases h
    exact (shows_connect r).trans (shows_beginRead r.connect)

theorem shows_answer {r r' : Rig} {answer : ScriptedAnswer} (h : r.answer answer = .ok r') :
    r.capture.Shows r'.capture := by
  unfold Rig.answer at h
  split at h
  · contradiction
  · rename_i read
    cases h
    exact Capture.shows_afterRead read

theorem exists_of_bind_eq_ok {α β : Type} {x : Except Unrest α} {f : α → Except Unrest β} {b : β}
    (h : (x >>= f) = .ok b) : ∃ a, x = .ok a ∧ f a = .ok b := by
  cases x with
  | error unrest => contradiction
  | ok a => exact ⟨a, rfl, h⟩

theorem shows_settle {r r' : Rig} {answers : List ScriptedAnswer}
    (h : r.settle answers = .ok r') : r.capture.Shows r'.capture := by
  induction answers generalizing r with
  | nil =>
    obtain ⟨waiting, went_on, h⟩ := exists_of_bind_eq_ok h
    have waits := shows_goOn went_on
    cases h
    exact waits
  | cons next rest ih =>
    obtain ⟨waiting, went_on, h⟩ := exists_of_bind_eq_ok h
    have waits := shows_goOn went_on
    split at h
    · obtain ⟨after, answered, settled⟩ := exists_of_bind_eq_ok h
      exact (waits.trans (shows_answer answered)).trans (ih settled)
    · cases h
      exact waits

theorem shows_start {r r' : Rig} {result : Except CaptureError Unit}
    (h : r.start = .ok (result, r')) : r.capture.Shows r'.capture := by
  obtain ⟨settled, found, same⟩ := exists_of_bind_eq_ok h
  cases same
  have began := Capture.shows_start r.capture (if r.openFails then .error openError else .ok ())
    r.tick.now
  exact (began.trans (Capture.shows_analyze _ r.tick.now)).trans (shows_settle found)

theorem shows_feed {r r' : Rig} {answer : ScriptedAnswer} (h : r.feed answer = .ok r') :
    r.capture.Shows r'.capture := shows_settle h

theorem shows_failOpen {r r' : Rig} {fails : Bool} (h : r.failOpen fails = .ok r') :
    r.capture.Shows r'.capture :=
  shows_settle (r := { r with openFails := fails }) h

end Rig

/-! ### A live adapter and its seat -/

namespace Seat

/-- Some frames are shown at a seat, one after another. -/
def Presented (s s' : Seat) : Prop := ∃ frames : List Bytes, s' = frames.foldl present s

theorem Presented.refl (s : Seat) : s.Presented s := ⟨[], rfl⟩

theorem Presented.trans {s₁ s₂ s₃ : Seat} (h : s₁.Presented s₂) (h' : s₂.Presented s₃) :
    s₁.Presented s₃ := by
  obtain ⟨frames, rfl⟩ := h
  obtain ⟨more, rfl⟩ := h'
  exact ⟨frames ++ more, List.foldl_append.symm⟩

/-- A frame that is displayed is shown in the length of the seat. -/
theorem presented_iterate_display (frame : Bytes) (count : Nat) (s : Seat) :
    s.Presented ((fun s => s.display frame)^[count] s) := by
  induction count generalizing s with
  | zero => exact .refl s
  | succ count ih =>
    have first : s.Presented (s.display frame) := ⟨[s.feed.value.copyOver frame], rfl⟩
    exact first.trans (ih _)

theorem looks_nil (s : Seat) :
    (s.looks []).map (·.1) = (s.consume.1.map (·.frame)).toList := by
  rw [looks]
  cases s.consume.1 <;> rfl

theorem length_looks_nil (s : Seat) : (s.looks []).length ≤ 1 := by
  rw [looks]
  cases s.consume.1 <;> simp

/-- A seat is left as a single look leaves it. -/
theorem getLast?_looks_nil (s : Seat) :
    ((s.looks []).getLast?.map (·.2)).getD s = s.consume.2 := by
  rw [looks, consume]
  split <;> rfl

end Seat

/-- Whatever frames are published, some frames are shown at a seat. -/
theorem Audience.presented_foldl_publish (frames : List Bytes) {a : Audience} {i : Nat} {s : Seat}
    (there : a.seats[i]? = some s) :
    ∃ s', (frames.foldl publish a).seats[i]? = some s' ∧ s.Presented s' := by
  induction frames generalizing a s with
  | nil => exact ⟨s, there, .refl s⟩
  | cons frame rest ih =>
    have shown := a.getElem?_publish frame i
    rw [there, Option.map_some] at shown
    obtain ⟨s', last, presented⟩ := ih shown
    exact ⟨s', last, (Seat.presented_iterate_display frame _ s).trans presented⟩

/-- A demand takes a single frame, unless a replica is left. -/
theorem Adapter.rest_next {a : Adapter} {frames : List Bytes} {now : Nanos}
    (drained : a.sampler.replicasLeft = 0) (single : frames.length ≤ 1) :
    (a.next frames now).rest = [] := by
  have search := search_next drained frames now
  generalize a.next frames now = result at search
  cases search with
  | found passed frame rest r sample sampler lastAsked asked cut =>
    simp only [cut, List.length_append, List.length_cons] at single
    have none_after : rest.length = 0 := by omega
    exact List.eq_nil_of_length_eq_zero none_after
  | fruitless lastAsked asked skipped =>
    exact List.drop_eq_nil_of_le (Nat.le_trans single (Nat.le_add_left _ _))

namespace SeatedAdapter

theorem run_append (s : SeatedAdapter) (front back : List Event) :
    s.run (front ++ back) =
      ((s.run front).1 ++ ((s.run front).2.run back).1, ((s.run front).2.run back).2) := by
  induction front generalizing s with
  | nil => rfl
  | cons e rest ih =>
    rw [List.cons_append, run_cons, ih, run_cons]
    simp

theorem run_shown (s : SeatedAdapter) (frames : List Bytes) :
    s.run (frames.map .shown) = ([], { s with seat := frames.foldl Seat.present s.seat }) := by
  induction frames generalizing s with
  | nil => rfl
  | cons frame rest ih =>
    rw [List.map_cons, run_cons, ih]
    rfl

end SeatedAdapter

namespace LiveAdapter

/-- The adapter with its seat in the audience of the capture. -/
def seated? (l : LiveAdapter) : Option SeatedAdapter :=
  l.rig.capture.audience.seats[l.seat]?.map fun seat => ⟨l.adapter, seat⟩

/-- What is done with a live adapter and with the device of its capture. -/
inductive Action where
  | start
  | stop
  | next
  | feed (answer : ScriptedAnswer)
  | failOpen (fails : Bool)

/-- The sample that an action yields, if it is a demand, and the live adapter after it. -/
def act (l : LiveAdapter) : Action → Except Unrest (Option Motion × LiveAdapter)
  | .start => do
    let (_, l) ← l.start
    return (none, l)
  | .stop => return (none, l.stop)
  | .next => return (l.next.1, l.next.2)
  | .feed answer => do
    let rig ← l.rig.feed answer
    return (none, { l with rig })
  | .failOpen fails => do
    let rig ← l.rig.failOpen fails
    return (none, { l with rig })

/-- The samples of actions in a row, and the live adapter after them. -/
def actAll (l : LiveAdapter) : List Action → Except Unrest (List Motion × LiveAdapter)
  | [] => return ([], l)
  | a :: rest => do
    let (sample, l) ← l.act a
    let (others, l) ← l.actAll rest
    return (sample.toList ++ others, l)

variable {l l' : LiveAdapter} {s : SeatedAdapter}

/-- Where a capture only shows frames, the seat of its live adapter is shown frames. -/
theorem seated_of_shows {rig : Rig} (seated : l.seated? = some s)
    (only_shows : l.rig.capture.Shows rig.capture) :
    ∃ frames : List Bytes,
      ({ l with rig } : LiveAdapter).seated? = some (s.run (frames.map .shown)).2 := by
  obtain ⟨frames, shown⟩ := only_shows
  obtain ⟨seat, found, rfl⟩ := Option.map_eq_some_iff.mp seated
  obtain ⟨after, there, presented, rfl⟩ := Audience.presented_foldl_publish frames found
  refine ⟨presented, ?_⟩
  rw [seated?, shown, there, SeatedAdapter.run_shown]
  rfl

theorem takeFrame_fst {seat : Seat} (found : l.rig.capture.audience.seats[l.seat]? = some seat) :
    l.takeFrame.1 = (seat.looks []).map (·.1) := by
  simp [takeFrame, Capture.takeFrame, Capture.consume, Audience.consume, found, Seat.looks_nil]

theorem seats_takeFrame {seat : Seat}
    (found : l.rig.capture.audience.seats[l.seat]? = some seat) :
    l.takeFrame.2.rig.capture.audience.seats[l.seat]? = some seat.consume.2 := by
  have within := (List.getElem?_eq_some_iff.mp found).1
  simp only [takeFrame, Capture.takeFrame, Capture.consume, Audience.consume, found]
  exact List.getElem?_set_self within

theorem seated_next (seated : l.seated? = some s) :
    l.next.1 = (s.demand [] l.rig.tick.now).1.sample ∧
      l.next.2.seated? = some (s.demand [] l.rig.tick.now).2 := by
  obtain ⟨seat, found, rfl⟩ := Option.map_eq_some_iff.mp seated
  unfold next Adapter.serve SeatedAdapter.demand
  by_cases drained : l.adapter.sampler.replicasLeft = 0
  · have searches : l.adapter.hasReplica = false := by simp [Adapter.hasReplica, drained]
    have one : ((seat.looks []).map (·.1)).length ≤ 1 := by
      rw [List.length_map]
      exact Seat.length_looks_nil seat
    simp only [searches, Bool.false_eq_true, if_false, takeFrame_fst found,
      Adapter.rest_next drained one, List.length_nil, Nat.sub_zero, List.take_length,
      Seat.getLast?_looks_nil]
    refine ⟨rfl, ?_⟩
    split
    · exact Option.map_eq_some_iff.mpr ⟨_, seats_takeFrame found, rfl⟩
    · exact Option.map_eq_some_iff.mpr ⟨_, seats_takeFrame found, rfl⟩
  · have answers : l.adapter.hasReplica = true := by simp [Adapter.hasReplica, drained]
    simp only [answers, if_true]
    rw [Adapter.next_of_ne drained, Adapter.next_of_ne drained]
    refine ⟨rfl, ?_⟩
    simp [seated?, found]

theorem seated_start {result : Except CaptureError Unit} (seated : l.seated? = some s)
    (h : l.start = .ok (result, l')) :
    ∃ frames : List Bytes, l'.seated? = some (s.run (.started result :: frames.map .shown)).2 := by
  obtain ⟨seat, found, rfl⟩ := Option.map_eq_some_iff.mp seated
  obtain ⟨⟨_, rig⟩, began, same⟩ := Rig.exists_of_bind_eq_ok h
  cases same
  let cleared : LiveAdapter := { l.takeFrame.2 with adapter := l.adapter.restart }
  have before : cleared.seated? = some ⟨l.adapter.restart, seat.consume.2⟩ :=
    Option.map_eq_some_iff.mpr ⟨_, seats_takeFrame found, rfl⟩
  exact seated_of_shows before (Rig.shows_start began)

/-- Whatever is done with a live adapter, its seat meets with events that are answered with the same
samples. -/
theorem exists_history_of_act {a : Action} {sample : Option Motion} (seated : l.seated? = some s)
    (h : l.act a = .ok (sample, l')) :
    ∃ history, (s.run history).1.map (·.sample) = sample.toList ∧
      l'.seated? = some (s.run history).2 := by
  cases a with
  | start =>
    obtain ⟨⟨result, _⟩, began, same⟩ := Rig.exists_of_bind_eq_ok h
    cases same
    obtain ⟨frames, after⟩ := seated_start seated began
    refine ⟨_, ?_, after⟩
    rw [SeatedAdapter.run_cons, SeatedAdapter.run_shown]
    rfl
  | stop =>
    cases h
    exact ⟨[.stopped], rfl, seated⟩
  | next =>
    cases h
    obtain ⟨same, after⟩ := seated_next seated
    exact ⟨[.demanded [] l.rig.tick.now], congrArg ([·]) same.symm, after⟩
  | feed answer =>
    obtain ⟨rig, fed, same⟩ := Rig.exists_of_bind_eq_ok h
    cases same
    obtain ⟨frames, after⟩ := seated_of_shows seated (Rig.shows_feed fed)
    exact ⟨frames.map .shown, by rw [SeatedAdapter.run_shown]; rfl, after⟩
  | failOpen fails =>
    obtain ⟨rig, changed, same⟩ := Rig.exists_of_bind_eq_ok h
    cases same
    obtain ⟨frames, after⟩ := seated_of_shows seated (Rig.shows_failOpen changed)
    exact ⟨frames.map .shown, by rw [SeatedAdapter.run_shown]; rfl, after⟩

theorem exists_history_of_seated {actions : List Action} {samples : List Motion}
    (seated : l.seated? = some s) (h : l.actAll actions = .ok (samples, l')) :
    ∃ history, (s.run history).1.map (·.sample) = samples ∧
      l'.seated? = some (s.run history).2 := by
  induction actions generalizing l s samples with
  | nil =>
    cases h
    exact ⟨[], rfl, seated⟩
  | cons a rest ih =>
    obtain ⟨⟨sample, next⟩, acted, h⟩ := Rig.exists_of_bind_eq_ok h
    obtain ⟨⟨others, last⟩, went_on, h⟩ := Rig.exists_of_bind_eq_ok h
    cases h
    obtain ⟨front, first, seated'⟩ := exists_history_of_act seated acted
    obtain ⟨back, later, seated''⟩ := ih seated' went_on
    refine ⟨front ++ back, ?_, ?_⟩
    · rw [SeatedAdapter.run_append, List.map_append, first, later]
    · rw [SeatedAdapter.run_append, seated'']

/-- An adapter that has seen no frame, with a seat that was just taken. -/
def joined (capture : Capture) (config : SamplingConfig) : SeatedAdapter :=
  .new config { feed := Feed.new (Bytes.zeros capture.audience.frameLength) }

/-- A new live adapter takes a seat, and may be shown a frame that waited for a viewer. -/
theorem seated_new (capture : Capture) (config : SamplingConfig) :
    ∃ frames : List Bytes,
      (new capture config).seated? = some ((joined capture config).run (frames.map .shown)).2 := by
  let present : LiveAdapter := {
    rig := { capture := { capture with audience := capture.audience.subscribe.2 } }
    adapter := Adapter.new config
    seat := capture.audience.subscribe.1 }
  have before : present.seated? = some (joined capture config) :=
    Option.map_eq_some_iff.mpr ⟨_, List.getElem?_concat_length, rfl⟩
  exact seated_of_shows before (Capture.shows_settle present.rig.capture)

/-- The samples of a live adapter are the answers of an adapter in its seat to some history, which
leaves the adapter and its seat as they are in the end. -/
theorem exists_history {capture : Capture} {config : SamplingConfig} {actions : List Action}
    {samples : List Motion} (h : (new capture config).actAll actions = .ok (samples, l)) :
    ∃ history, ((joined capture config).run history).1.map (·.sample) = samples ∧
      l.seated? = some ((joined capture config).run history).2 := by
  obtain ⟨frames, seated⟩ := seated_new capture config
  obtain ⟨history, same, after⟩ := exists_history_of_seated seated h
  refine ⟨frames.map .shown ++ history, ?_, ?_⟩
  · rw [SeatedAdapter.run_append, SeatedAdapter.run_shown]
    rwa [SeatedAdapter.run_shown] at same
  · rw [SeatedAdapter.run_append, after]

end LiveAdapter

end MotionCast
