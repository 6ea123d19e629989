import MotionCast.Proofs.Capture.Seating
import MotionCast.Proofs.Capture.Streaming
import MotionCast.Proofs.Channel.Chronicle

/-! An audience that changes while frames are shown to it. Viewers join, leave and look as they
like, frames are sent, and the broadcaster goes on at any time. What happened before tells who is
there, what each of them is owed and what was counted. -/

namespace MotionCast

namespace Churn

variable {n : Nat}

/-- What happens while frames of a length are shown. Viewers are numbered in the order in which they
come. -/
inductive Act (n : Nat) where
  | join
  | leave (i : Nat)
  | look (i : Nat)
  /-- A frame is sent to the broadcaster. -/
  | send (frame : Block n)
  /-- The broadcaster goes on. -/
  | goOn

/-- What an act comes to. -/
inductive Outcome where
  | joined (i : Nat)
  | left (i : Nat) (present : Bool)
  | got (i : Nat) (delivery : Option Delivery)
  | sent (frame : Bytes)
  /-- A frame was shown to all who are registered. -/
  | shown (frame : Bytes)
  | idle
  /-- There is no such viewer. -/
  | void (i : Nat)
deriving DecidableEq

def Act.viewer? : Act n → Option Nat
  | .leave i => some i
  | .look i => some i
  | _ => none

def Outcome.viewer? : Outcome → Option Nat
  | .left i _ => some i
  | .got i _ => some i
  | .void i => some i
  | _ => none

def step (c : Capture) : Act n → Outcome × Capture
  | .join =>
    let (i, audience) := c.audience.subscribe
    (.joined i, { c with audience })
  | .leave i =>
    if i < c.audience.seats.length then (.left i (c.unsubscribe i).1, (c.unsubscribe i).2)
    else (.void i, c)
  | .look i =>
    if i < c.audience.seats.length then (.got i (c.consume i).1, (c.consume i).2)
    else (.void i, c)
  | .send frame =>
    (.sent frame.bytes, { c with wiring.frames := (c.wiring.frames.send frame.bytes).2 })
  | .goOn =>
    (if c.wiring.frames.hasData && !c.settle.wiring.frames.hasData then .shown c.settle.shown
      else .idle, c.settle)

/-- The outcomes of acts in a row, the latest first, and the capture after them. -/
def run (c : Capture) (acts : List (Act n)) : List Outcome × Capture :=
  chronicle step c acts

/-- To join a capture is to join and have the broadcaster go on. -/
theorem subscribe_eq (c : Capture) : c.subscribe = (c.audience.seats.length,
    (step (n := n) (step (n := n) c .join).2 .goOn).2) := rfl

/-! ### What happened -/

/-- The viewers who have joined and not left, in the order in which they came. -/
def registered : List Outcome → List Nat
  | [] => []
  | .joined i :: past => registered past ++ [i]
  | .left i _ :: past => (registered past).erase i
  | _ :: past => registered past

/-- How many viewers have joined. -/
def joins : List Outcome → Nat
  | [] => 0
  | .joined _ :: past => joins past + 1
  | _ :: past => joins past

/-- The newest frame that was shown to a viewer since it joined, unless it has looked since. -/
def owed (i : Nat) : List Outcome → Option Bytes
  | [] => none
  | .joined j :: past => if j = i then none else owed i past
  | .left j _ :: past => if j = i then none else owed i past
  | .got j _ :: past => if j = i then none else owed i past
  | .shown frame :: past => if i ∈ registered past then some frame else owed i past
  | _ :: past => owed i past

/-- How many frames were shown to a viewer. -/
def showings (i : Nat) : List Outcome → Nat
  | [] => 0
  | .shown _ :: past => if i ∈ registered past then showings i past + 1 else showings i past
  | _ :: past => showings i past

/-- How often a frame was shown to a viewer, all viewers taken together. -/
def total : List Outcome → Nat
  | [] => 0
  | .shown _ :: past => total past + (registered past).length
  | _ :: past => total past

/-- The latest frame that was sent, if it was not shown. -/
def pending : List Outcome → Option Bytes
  | [] => none
  | .sent frame :: _ => some frame
  | .shown _ :: _ => none
  | _ :: past => pending past

/-! ### What an act does -/

/-- The ways in which an act changes a capture. -/
inductive Change (c : Capture) : Act n → Outcome → Capture → Prop where
  | joined : Change c .join (.joined c.audience.seats.length)
      { c with audience := { c.audience with
        seats := c.audience.seats ++ [{ feed := Feed.new (Bytes.zeros c.audience.frameLength) }]
        registered := c.audience.registered ++ [c.audience.seats.length] } }
  | left (i : Nat) (s : Seat) (there : c.audience.seats[i]? = some s)
    (listed : i ∈ c.audience.registered) :
    Change c (.leave i) (.left i true)
      { c with audience := { c.audience with
        seats := c.audience.seats.set i s.leave, registered := c.audience.registered.erase i } }
  /-- A viewer that is not registered cannot leave. -/
  | absent (i : Nat) (there : i < c.audience.seats.length) (gone : i ∉ c.audience.registered) :
    Change c (.leave i) (.left i false) c
  | got (i : Nat) (s : Seat) (there : c.audience.seats[i]? = some s) :
    Change c (.look i) (.got i s.consume.1)
      { c with audience.seats := c.audience.seats.set i s.consume.2 }
  | sent (frame : Block n) : Change c (.send frame) (.sent frame.bytes)
      { c with
        wiring.frames := { c.wiring.frames with
          inFlight := frame.bytes, hasData := true, sent := c.wiring.frames.sent + 1 } }
  | shown (waits : c.wiring.frames.hasData = true) :
    Change c .goOn (.shown c.wiring.frames.inFlight)
      { c with
        shown := c.wiring.frames.inFlight
        audience := c.audience.publish c.wiring.frames.inFlight
        listening := c.audience.size > 0
        wiring.frames := { c.wiring.frames with inFlight := c.shown, hasData := false }
        wiring.metrics.framesPublished := c.wiring.metrics.framesPublished + c.audience.size }
  | idle (listening : Bool) : Change c .goOn .idle { c with listening }
  | void (a : Act n) (i : Nat) (mine : a.viewer? = some i) : Change c a (.void i) c

theorem change_goOn (c : Capture) :
    Change c (.goOn : Act n) (step c (.goOn : Act n)).1 (step c (.goOn : Act n)).2 := by
  cases waits : c.wiring.frames.hasData with
  | false =>
    obtain ⟨listening, settled⟩ := Capture.settle_of_empty waits
    simp only [step, waits, settled]
    exact .idle listening
  | true =>
    by_cases goes : (c.crew.isAtWork .broadcaster && (c.listening || c.audience.size > 0)) = true
    · have settled : c.settle = c.publish := if_pos goes
      rw [Capture.publish, Mailbox.poll, if_pos waits] at settled
      simp only [step, waits, settled]
      exact .shown waits
    · have settled : c.settle = c := if_neg goes
      simp only [step, waits, settled]
      exact .idle c.listening

theorem step_leave_of_mem {c : Capture} {i : Nat} {s : Seat}
    (there : c.audience.seats[i]? = some s) (listed : i ∈ c.audience.registered) :
    step c (.leave i : Act n) = (.left i true,
      { c with audience := { c.audience with
        seats := c.audience.seats.set i s.leave
        registered := c.audience.registered.erase i } }) := by
  have inside : i < c.audience.seats.length := (List.getElem?_eq_some_iff.mp there).1
  simp only [step, if_pos inside, Capture.unsubscribe, Audience.unsubscribe_of_mem there listed]

theorem step_leave_of_not_mem {c : Capture} {i : Nat} (inside : i < c.audience.seats.length)
    (gone : i ∉ c.audience.registered) : step c (.leave i : Act n) = (.left i false, c) := by
  simp only [step, if_pos inside, Capture.unsubscribe, Audience.unsubscribe_of_not_mem gone]

theorem step_look {c : Capture} {i : Nat} {s : Seat} (there : c.audience.seats[i]? = some s) :
    step c (.look i : Act n) = (.got i s.consume.1,
      { c with audience.seats := c.audience.seats.set i s.consume.2 }) := by
  have inside : i < c.audience.seats.length := (List.getElem?_eq_some_iff.mp there).1
  simp only [step, if_pos inside, Capture.consume, Audience.consume, there]

theorem change_step (c : Capture) (a : Act n) : Change c a (step c a).1 (step c a).2 := by
  cases a with
  | join => exact .joined
  | send frame => exact .sent frame
  | goOn => exact change_goOn c
  | leave i =>
    by_cases inside : i < c.audience.seats.length
    · by_cases listed : i ∈ c.audience.registered
      · have there := List.getElem?_eq_getElem inside
        rw [step_leave_of_mem there listed]
        exact .left i _ there listed
      · rw [step_leave_of_not_mem inside listed]
        exact .absent i inside listed
    · simp only [step, if_neg inside]
      exact .void _ i rfl
  | look i =>
    by_cases inside : i < c.audience.seats.length
    · have there := List.getElem?_eq_getElem inside
      rw [step_look there]
      exact .got i _ there
    · simp only [step, if_neg inside]
      exact .void _ i rfl

section Change

variable {c c' : Capture} {a : Act n} {o : Outcome} {past : List Outcome}

theorem Change.crew (h : Change c a o c') : c'.crew = c.crew := by
  cases h <;> rfl

/-! ### Who is there -/

theorem Change.tidy (h : Change c a o c') (tidy : c.audience.Tidy) : c'.audience.Tidy := by
  cases h with
  | joined => exact tidy.joined rfl
  | left i s there listed => exact tidy.left there _ rfl
  | got i s there => exact tidy.set_kept there _ Seat.closed_consume
  | shown waits => exact tidy.publish _
  | absent | sent | idle | void => exact tidy

/-- The list and the seats tell who has joined and who has left. -/
structure Present (past : List Outcome) (a : Audience) : Prop where
  tidy : a.Tidy
  registered : a.registered = registered past
  joins : a.seats.length = joins past
  came : ∀ i present, .left i present ∈ past → i < a.seats.length
  stays : ∀ i < a.seats.length, (i ∈ a.registered ↔ ∀ present, .left i present ∉ past)

theorem Present.new (length : Nat) : Present [] { frameLength := length } :=
  ⟨.new length, rfl, rfl, nofun, nofun⟩

theorem Present.keep {a b : Audience} (h : Present past a)
    (length : b.seats.length = a.seats.length) (tidy : b.Tidy) (same : b.registered = a.registered)
    (still : Churn.registered (o :: past) = Churn.registered past)
    (nobody : Churn.joins (o :: past) = Churn.joins past)
    (other : ∀ i present, o ≠ .left i present) :
    Present (o :: past) b := by
  have before : ∀ i present, .left i present ∈ o :: past ↔ .left i present ∈ past := by
    intro i present
    rw [List.mem_cons, or_iff_right (other i present).symm]
  refine ⟨tidy, ?_, ?_, ?_, ?_⟩
  · rw [same, still, h.registered]
  · rw [length, nobody, h.joins]
  · intro i present mem
    rw [length]
    exact h.came i present ((before i present).mp mem)
  · intro i inside
    rw [length] at inside
    simp only [same, before]
    exact h.stays i inside

theorem Present.joined {a : Audience} (h : Present past a) {s : Seat}
    (opened : s.feed.closed = false) :
    Present (.joined a.seats.length :: past) { a with
      seats := a.seats ++ [s], registered := a.registered ++ [a.seats.length] } := by
  have before : ∀ i present, (.left i present ∈ Outcome.joined a.seats.length :: past) ↔
      .left i present ∈ past := by simp
  refine ⟨h.tidy.joined opened, ?_, ?_, ?_, ?_⟩
  · simp [h.registered, Churn.registered]
  · simp [h.joins, Churn.joins]
  · intro i present mem
    have := h.came i present ((before i present).mp mem)
    simp
    omega
  · intro i inside
    simp only [before, List.mem_append, List.mem_singleton]
    rcases Nat.lt_succ_iff_lt_or_eq.mp (by simpa using inside) with earlier | latest
    · rw [or_iff_left (Nat.ne_of_lt earlier)]
      exact h.stays i earlier
    · refine iff_of_true (.inr latest) fun present mem => ?_
      exact Nat.ne_of_lt (h.came i present mem) latest

/-- Whoever leaves is not in the list, be it that it was taken out or that it was not in it. -/
theorem Present.left {a b : Audience} (h : Present past a) {i : Nat} (inside : i < a.seats.length)
    (tidy : b.Tidy) (length : b.seats.length = a.seats.length)
    (rest : b.registered = a.registered.erase i) (present : Bool) :
    Present (.left i present :: past) b := by
  refine ⟨tidy, ?_, ?_, ?_, ?_⟩
  · rw [rest, h.registered]
    rfl
  · exact length.trans h.joins
  · intro j b mem
    rw [length]
    rcases List.mem_cons.mp mem with now | before
    · cases now
      exact inside
    · exact h.came j b before
  · intro j within
    rw [length] at within
    by_cases same : j = i
    · subst same
      rw [rest]
      refine iff_of_false h.tidy.distinct.not_mem_erase fun never => ?_
      exact never present (List.mem_cons_self ..)
    · simp only [rest, List.mem_erase_of_ne same, List.mem_cons, Outcome.left.injEq, same,
        false_and, false_or]
      exact h.stays j within

theorem Present.change (h : Present past c.audience) (change : Change c a o c') :
    Present (o :: past) c'.audience := by
  have tidy := change.tidy h.tidy
  cases change with
  | joined => exact h.joined rfl
  | left i s there listed =>
    exact h.left (h.tidy.lt_of_mem listed) tidy (List.length_set ..) rfl true
  | absent i inside gone => exact h.left inside tidy rfl (List.erase_of_not_mem gone).symm false
  | got i s there => exact h.keep (List.length_set ..) tidy rfl rfl rfl (by simp)
  | shown waits => exact h.keep (Audience.length_publish ..) tidy rfl rfl rfl (by simp)
  | sent frame => exact h.keep rfl tidy rfl rfl rfl (by simp)
  | idle listening => exact h.keep rfl tidy rfl rfl rfl (by simp)
  | void a i mine => exact h.keep rfl tidy rfl rfl rfl (by simp)

/-! ### What is owed -/

theorem mem_registered (h : Present past c.audience) {i : Nat} {s : Seat}
    (there : c.audience.seats[i]? = some s) : i ∈ registered past ↔ s.feed.closed = false := by
  rw [← h.registered, h.tidy.mem_iff_of_seat there]

/-- A seat owes what the past says, and one that is not there yet owes nothing. -/
structure Served (n i : Nat) (past : List Outcome) (a : Audience) : Prop where
  seat : ∀ s, a.seats[i]? = some s → s.Owes n (owed i past) (showings i past)
  absent : a.seats.length ≤ i → showings i past = 0

/-- The frames on their way and in the seats have one length. -/
structure Framed (n : Nat) (c : Capture) : Prop where
  frameLength : c.audience.frameLength = n
  inFlight : c.wiring.frames.hasData = true → c.wiring.frames.inFlight.length = n

theorem Framed.change (h : Framed n c) (change : Change c a o c') : Framed n c' := by
  cases change with
  | sent frame => exact ⟨h.frameLength, fun _ => frame.length_eq⟩
  | shown waits => exact ⟨h.frameLength, nofun⟩
  | joined | left | absent | got | idle | void => exact ⟨h.frameLength, h.inFlight⟩

theorem Served.set {a : Audience} {i : Nat} (h : Served n i past a) {j : Nat} {s : Seat}
    (there : a.seats[j]? = some s) (s' : Seat)
    (elsewhere : j ≠ i → owed i (o :: past) = owed i past)
    (quiet : showings i (o :: past) = showings i past)
    (mine : j = i → s'.Owes n (owed i (o :: past)) (showings i (o :: past)))
    (registered : List Nat) :
    Served n i (o :: past) { a with seats := a.seats.set j s', registered } := by
  refine ⟨fun t at_i => ?_, fun outside => ?_⟩
  · rw [Audience.getElem?_set_seat there] at at_i
    split at at_i
    · rename_i same
      cases at_i
      exact mine same
    · rename_i other
      rw [elsewhere other, quiet]
      exact h.seat t at_i
  · rw [quiet]
    exact h.absent (by simpa using outside)

theorem Served.change {i : Nat} (h : Served n i past c.audience) (framed : Framed n c)
    (present : Present past c.audience) (change : Change c a o c') :
    Served n i (o :: past) c'.audience := by
  cases change with
  | sent | idle | void => exact ⟨h.seat, h.absent⟩
  | joined =>
    refine ⟨fun s there => ?_, fun outside => h.absent ?_⟩
    · rcases Nat.lt_trichotomy i c.audience.seats.length with before | rfl | after
      · rw [owed, if_neg (Nat.ne_of_gt before)]
        rw [List.getElem?_append_left before] at there
        exact h.seat s there
      · obtain rfl : { feed := Feed.new (Bytes.zeros c.audience.frameLength) } = s := by
          simpa using there
        have nothing : showings c.audience.seats.length
            (.joined c.audience.seats.length :: past) = 0 := h.absent (Nat.le_refl _)
        rw [owed, if_pos rfl, framed.frameLength, nothing]
        exact .new n
      · rw [List.getElem?_eq_none (by simp; omega)] at there
        contradiction
    · simp only [List.length_append] at outside
      omega
  | left j s there listed =>
    refine h.set there _ (fun other => ?_) rfl (fun same => ?_) _
    · rw [owed, if_neg other]
    · subst same
      exact (h.seat s there).leave _
  | absent j inside gone =>
    refine ⟨fun s there => ?_, h.absent⟩
    rw [owed]
    split
    · rename_i same
      subst same
      have closed : s.feed.closed = true := by
        rwa [present.tidy.mem_iff_of_seat there, Bool.not_eq_false] at gone
      exact (h.seat s there).of_closed closed _
    · exact h.seat s there
  | got j s there =>
    refine h.set there _ (fun other => ?_) rfl (fun same => ?_) _
    · rw [owed, if_neg other]
    · subst same
      rw [owed, if_pos rfl]
      cases closed : s.feed.closed with
      | false => exact ((h.seat s there).consume closed).2
      | true =>
        rw [Seat.consume_of_closed closed]
        exact (h.seat s there).of_closed closed _
  | shown waits =>
    refine ⟨fun t shown => ?_, fun outside => ?_⟩
    · have inside := (List.getElem?_eq_some_iff.mp shown).1
      simp only [Audience.length_publish] at inside
      have there := List.getElem?_eq_getElem inside
      rw [present.tidy.getElem?_publish _ there] at shown
      have seat := h.seat _ there
      have who := mem_registered present there
      cases closed : (c.audience.seats[i]).feed.closed with
      | false =>
        have member := who.mpr closed
        rw [owed, showings, if_pos member, if_pos member]
        simp only [closed, Bool.false_eq_true, if_false, Option.some.injEq] at shown
        exact shown ▸ seat.display (framed.inFlight waits)
      | true =>
        have gone : i ∉ registered past := by simp [who, closed]
        rw [owed, showings, if_neg gone, if_neg gone]
        simp only [closed, if_true, Option.some.injEq] at shown
        exact shown ▸ seat
    · have outside' : c.audience.seats.length ≤ i := by simpa using outside
      have absent : i ∉ registered past := by
        rw [← present.registered]
        exact fun member => Nat.not_lt.mpr outside' (present.tidy.lt_of_mem member)
      rw [showings, if_neg absent]
      exact h.absent outside'

/-! ### What is counted -/

/-- The counter and the mailbox tell what was shown and what waits to be shown. -/
structure Tells (past : List Outcome) (c : Capture) : Prop where
  total : c.wiring.metrics.framesPublished = total past
  pending : pending past =
    if c.wiring.frames.hasData then some c.wiring.frames.inFlight else none

theorem Tells.change (h : Tells past c) (present : Present past c.audience)
    (change : Change c a o c') : Tells (o :: past) c' := by
  cases change with
  | sent frame => exact ⟨h.total, rfl⟩
  | shown waits =>
    refine ⟨?_, rfl⟩
    show c.wiring.metrics.framesPublished + c.audience.size = _
    rw [h.total, Audience.size, present.registered]
    rfl
  | joined | left | absent | got | idle | void => exact ⟨h.total, h.pending⟩

end Change

/-- Frames of a length were shown to an audience, with a past. -/
structure Showing (n : Nat) (past : List Outcome) (c : Capture) : Prop where
  framed : Framed n c
  present : Present past c.audience
  tells : Tells past c
  served : ∀ i, Served n i past c.audience

theorem Showing.change {past : List Outcome} {c c' : Capture} {a : Act n} {o : Outcome}
    (h : Showing n past c) (change : Change c a o c') : Showing n (o :: past) c' :=
  ⟨h.framed.change change, h.present.change change, h.tells.change h.present change,
    fun i => (h.served i).change h.framed h.present change⟩

/-- A capture without an audience, whose workers are as they may be. -/
def new (config : CaptureConfig) (transport : Transport) (writable : Bool) (crew : Crew) :
    Capture :=
  { Capture.assemble config transport writable with crew }

theorem showing_run (config : CaptureConfig) (transport : Transport) (writable : Bool) (crew : Crew)
    (acts : List (Act config.frameLength)) :
    Showing config.frameLength (run (new config transport writable crew) acts).1
      (run (new config transport writable crew) acts).2 := by
  have start : Showing config.frameLength [] (new config transport writable crew) :=
    ⟨⟨rfl, nofun⟩, .new _, ⟨rfl, rfl⟩, fun i => ⟨nofun, fun _ => rfl⟩⟩
  exact chronicle_induction start (fun _ c a h => h.change (change_step c a)) acts

theorem crew_run (c : Capture) (acts : List (Act n)) : (run c acts).2.crew = c.crew :=
  chronicle_induction (P := fun _ d => d.crew = c.crew) rfl
    (fun _ d a h => (change_step d a).crew.trans h) acts

end Churn

end MotionCast
