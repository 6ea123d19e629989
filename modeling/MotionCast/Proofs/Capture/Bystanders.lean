import MotionCast.Proofs.Capture.Churn

/-! What the viewers of a capture get. The others do not matter to a viewer, be they slow or gone,
and it gets the newest frame that was shown since it joined, unless it has looked since. -/

namespace MotionCast

namespace Churn

variable {n : Nat}

/-! ### What the others do -/

/-- The acts that can matter to a viewer: its own, and those of the broadcaster. -/
def Act.concerns (i : Nat) : Act n → Bool
  | .join => false
  | .leave j => j = i
  | .look j => j = i
  | .send _ => true
  | .goOn => true

/-- A viewer has the same seat in two captures, and the same frame is on its way to it. -/
structure Alike (i : Nat) (c d : Capture) : Prop where
  tidy : c.audience.Tidy
  tidy' : d.audience.Tidy
  crew : d.crew = c.crew
  there : i < c.audience.seats.length
  seat : d.audience.seats[i]? = c.audience.seats[i]?
  mail : c.audience.isOpen i = true → d.wiring.frames.hasData = c.wiring.frames.hasData ∧
    (c.wiring.frames.hasData = true → d.wiring.frames.inFlight = c.wiring.frames.inFlight)

section Alike

variable {i : Nat} {c c' d : Capture} {a : Act n} {o : Outcome}

theorem Alike.isOpen (h : Alike i c d) : d.audience.isOpen i = c.audience.isOpen i := by
  rw [Audience.isOpen, Audience.isOpen, h.seat]

theorem Alike.mem_iff (h : Alike i c d) :
    i ∈ d.audience.registered ↔ i ∈ c.audience.registered := by
  rw [h.tidy.mem_iff, h.tidy'.mem_iff, h.isOpen]

theorem Alike.refl (tidy : c.audience.Tidy) (there : i < c.audience.seats.length) : Alike i c c :=
  ⟨tidy, tidy, rfl, there, rfl, fun _ => ⟨rfl, fun _ => rfl⟩⟩

theorem Alike.elsewhere (h : Alike i c d) {j : Nat} {s : Seat}
    (there : c.audience.seats[j]? = some s) (other : j ≠ i) (s' : Seat) (registered : List Nat)
    (tidy : Audience.Tidy
      { c.audience with seats := c.audience.seats.set j s', registered }) :
    Alike i { c with audience := { c.audience with
      seats := c.audience.seats.set j s', registered } } d := by
  have seat : (c.audience.seats.set j s')[i]? = c.audience.seats[i]? := by
    rw [Audience.getElem?_set_seat there, if_neg other]
  refine ⟨tidy, h.tidy', h.crew, by simpa using h.there, h.seat.trans seat.symm,
    fun opened => h.mail ?_⟩
  rw [Audience.isOpen_set there, if_neg other] at opened
  exact opened

theorem concerns_of_viewer? (mine : a.viewer? = some i) : a.concerns i = true := by
  cases a with
  | leave j => exact decide_eq_true (Option.some.inj mine)
  | look j => exact decide_eq_true (Option.some.inj mine)
  | _ => cases mine

/-- What does not concern a viewer leaves it as it was. -/
theorem Alike.others (h : Alike i c d) (change : Change c a o c')
    (unconcerned : a.concerns i = false) : o.viewer? ≠ some i ∧ Alike i c' d := by
  have tidy := change.tidy h.tidy
  cases change with
  | sent frame => cases unconcerned
  | shown waits => cases unconcerned
  | idle listening => cases unconcerned
  | joined =>
    refine ⟨nofun, tidy, h.tidy', h.crew, ?_, ?_, fun opened => h.mail ?_⟩
    · exact Nat.lt_of_lt_of_le h.there (by simp)
    · rw [List.getElem?_append_left h.there]
      exact h.seat
    · simpa [Audience.isOpen, List.getElem?_append_left h.there] using opened
  | left j s there listed =>
    have other : j ≠ i := by simpa [Act.concerns] using unconcerned
    exact ⟨fun mine => other (Option.some.inj mine), h.elsewhere there other _ _ tidy⟩
  | absent j inside gone =>
    have other : j ≠ i := by simpa [Act.concerns] using unconcerned
    exact ⟨fun mine => other (Option.some.inj mine), h⟩
  | got j s there =>
    have other : j ≠ i := by simpa [Act.concerns] using unconcerned
    exact ⟨fun mine => other (Option.some.inj mine), h.elsewhere there other _ _ tidy⟩
  | void a j mine =>
    refine ⟨fun same => ?_, h⟩
    obtain rfl : j = i := Option.some.inj same
    rw [concerns_of_viewer? mine] at unconcerned
    contradiction

theorem Alike.sent (h : Alike i c d) (frame : Block n) :
    Alike i (step c (.send frame)).2 (step d (.send frame)).2 :=
  ⟨h.tidy, h.tidy', h.crew, h.there, h.seat, fun _ => ⟨rfl, fun _ => rfl⟩⟩

/-- Nothing is shown to a viewer who has left. -/
theorem seat_settle_of_closed (tidy : c.audience.Tidy) (closed : c.audience.isOpen i = false) :
    c.settle.audience.seats[i]? = c.audience.seats[i]? := by
  unfold Capture.settle Capture.publish
  split
  · split
    · rfl
    · cases there : c.audience.seats[i]? with
      | none => rw [Audience.getElem?_publish, there, Option.map_none]
      | some s =>
        rw [Audience.isOpen_of_seat there, Bool.not_eq_false'] at closed
        rw [tidy.getElem?_publish _ there, if_pos closed]
  · rfl

theorem length_settle (c : Capture) :
    c.settle.audience.seats.length = c.audience.seats.length := by
  unfold Capture.settle Capture.publish
  split
  · split
    · rfl
    · exact Audience.length_publish ..
  · rfl

theorem size_pos_of_open (tidy : c.audience.Tidy) (opened : c.audience.isOpen i = true) :
    0 < c.audience.size :=
  List.length_pos_of_mem ((tidy.mem_iff i).mpr opened)

/-- The broadcaster shows a viewer the same, as it goes on with an audience as long as the viewer is
in it. -/
theorem Alike.settled (h : Alike i c d) : Alike i c.settle d.settle := by
  have there : i < c.settle.audience.seats.length := by
    rw [length_settle]
    exact h.there
  have crew : d.settle.crew = c.settle.crew :=
    ((change_goOn (n := 0) d).crew.trans h.crew).trans (change_goOn (n := 0) c).crew.symm
  have tidy : c.settle.audience.Tidy := (change_goOn (n := 0) c).tidy h.tidy
  have tidy' : d.settle.audience.Tidy := (change_goOn (n := 0) d).tidy h.tidy'
  cases opened : c.audience.isOpen i with
  | false =>
    have seat := seat_settle_of_closed h.tidy opened
    have seat' := seat_settle_of_closed h.tidy' (h.isOpen.trans opened)
    refine ⟨tidy, tidy', crew, there, by rw [seat, seat', h.seat], fun reopened => ?_⟩
    rw [Audience.isOpen, seat, ← Audience.isOpen, opened] at reopened
    contradiction
  | true =>
    obtain ⟨data, frame⟩ := h.mail opened
    have seated := size_pos_of_open h.tidy opened
    have seated' := size_pos_of_open h.tidy' (h.isOpen.trans opened)
    cases at_work : c.crew.isAtWork .broadcaster with
    | false =>
      rw [Capture.settle_of_idle at_work, Capture.settle_of_idle (h.crew ▸ at_work)]
      exact h
    | true =>
      cases waits : c.wiring.frames.hasData with
      | false =>
        obtain ⟨listening, settled⟩ := Capture.settle_of_empty waits
        obtain ⟨listening', settled'⟩ := Capture.settle_of_empty (data.trans waits)
        rw [settled, settled']
        exact ⟨h.tidy, h.tidy', h.crew, h.there, h.seat, h.mail⟩
      | true =>
        have here := List.getElem?_eq_getElem h.there
        rw [Capture.settle_of_frame at_work seated waits] at tidy there crew ⊢
        rw [Capture.settle_of_frame (h.crew ▸ at_work) seated' (data.trans waits)] at tidy' crew ⊢
        refine ⟨tidy, tidy', crew, there, ?_,
          fun _ => ⟨rfl, fun waits => absurd waits Bool.false_ne_true⟩⟩
        rw [h.tidy.getElem?_publish _ here, h.tidy'.getElem?_publish _ (h.seat.trans here),
          frame waits]

theorem Alike.mine (h : Alike i c d) {s : Seat} (there : c.audience.seats[i]? = some s) (s' : Seat)
    (kept : s'.feed.closed = s.feed.closed ∨ s'.feed.closed = true)
    {registered registered' : List Nat}
    (tidy : Audience.Tidy
      { c.audience with seats := c.audience.seats.set i s', registered := registered })
    (tidy' : Audience.Tidy
      { d.audience with seats := d.audience.seats.set i s', registered := registered' }) :
    Alike i
      { c with audience := { c.audience with seats := c.audience.seats.set i s', registered } }
      { d with audience := { d.audience with
        seats := d.audience.seats.set i s', registered := registered' } } := by
  have there' : d.audience.seats[i]? = some s := h.seat.trans there
  refine ⟨tidy, tidy', h.crew, by simpa using h.there, ?_, fun opened => h.mail ?_⟩
  · rw [Audience.getElem?_set_seat there, Audience.getElem?_set_seat there', if_pos rfl, if_pos rfl]
  · rw [Audience.isOpen_set there, if_pos rfl, Bool.not_eq_true'] at opened
    rw [Audience.isOpen_of_seat there, Bool.not_eq_true']
    rcases kept with same | closed
    · rw [← same, opened]
    · rw [closed] at opened
      contradiction

theorem viewer?_goOn (c : Capture) : (step c (.goOn : Act n)).1.viewer? = none := by
  simp only [step]
  split <;> rfl

/-- What concerns a viewer comes to the same for it. -/
theorem Alike.both (h : Alike i c d) (concerns : a.concerns i = true) :
    ((step d a).1 = (step c a).1 ∨
      (step d a).1.viewer? = none ∧ (step c a).1.viewer? = none) ∧
      Alike i (step c a).2 (step d a).2 := by
  have there := List.getElem?_eq_getElem h.there
  have there' := h.seat.trans there
  cases a with
  | join => cases concerns
  | send frame => exact ⟨.inl rfl, h.sent frame⟩
  | goOn => exact ⟨.inr ⟨viewer?_goOn d, viewer?_goOn c⟩, h.settled⟩
  | leave j =>
    obtain rfl : j = i := by simpa [Act.concerns] using concerns
    by_cases listed : j ∈ c.audience.registered
    · rw [step_leave_of_mem there listed, step_leave_of_mem there' (h.mem_iff.mpr listed)]
      exact ⟨.inl rfl, h.mine there _ (.inr rfl) (h.tidy.left there _ rfl)
        (h.tidy'.left there' _ rfl)⟩
    · have inside' := (List.getElem?_eq_some_iff.mp there').1
      rw [step_leave_of_not_mem h.there listed,
        step_leave_of_not_mem inside' fun listed' => listed (h.mem_iff.mp listed')]
      exact ⟨.inl rfl, h⟩
  | look j =>
    obtain rfl : j = i := by simpa [Act.concerns] using concerns
    rw [step_look there, step_look there']
    exact ⟨.inl rfl, h.mine there _ (.inl Seat.closed_consume)
      (h.tidy.set_kept there _ Seat.closed_consume) (h.tidy'.set_kept there' _ Seat.closed_consume)⟩

end Alike

/-- A viewer gets what it would get if the others did nothing. -/
theorem alike_run {i : Nat} {c : Capture} (tidy : c.audience.Tidy)
    (there : i < c.audience.seats.length) (acts : List (Act n)) :
    (run c (acts.filter (Act.concerns i))).1.filter (·.viewer? = some i) =
        (run c acts).1.filter (·.viewer? = some i) ∧
      Alike i (run c acts).2 (run c (acts.filter (Act.concerns i))).2 := by
  induction acts using List.reverseRecOn with
  | nil => exact ⟨rfl, .refl tidy there⟩
  | append_singleton acts a ih =>
    obtain ⟨same, alike⟩ := ih
    simp only [run] at alike same ⊢
    rw [chronicle_snoc, List.filter_append]
    cases concerns : a.concerns i with
    | true =>
      obtain ⟨outcome, alike'⟩ := alike.both concerns
      rw [List.filter_singleton, concerns, cond_true, chronicle_snoc]
      refine ⟨?_, alike'⟩
      rcases outcome with equal | ⟨nobody, nobody'⟩
      · simp only [List.filter_cons, equal, same]
      · rw [List.filter_cons_of_neg (by simp [nobody]), List.filter_cons_of_neg (by simp [nobody'])]
        exact same
    | false =>
      obtain ⟨other, alike'⟩ := alike.others (change_step _ a) concerns
      rw [List.filter_singleton, concerns, cond_false, List.append_nil,
        List.filter_cons_of_neg (by simpa using other)]
      exact ⟨same, alike'⟩

section Step

variable {past : List Outcome} {c : Capture}

theorem step_goOn (h : Showing n past c) (at_work : c.crew.isAtWork .broadcaster = true)
    (someone : registered past ≠ []) {frame : Bytes} (waits : pending past = some frame) :
    (step c (.goOn : Act n)).1 = .shown frame := by
  have seated : 0 < c.audience.size := by
    rw [Audience.size, h.present.registered]
    exact List.length_pos_iff.mpr someone
  have known := h.tells.pending.symm.trans waits
  split at known
  · rename_i data
    cases known
    simp only [step, data, Capture.settle_of_frame at_work seated data]
    rfl
  · contradiction

end Step

/-- A viewer who is registered gets the newest frame that was shown since it joined, unless it has
looked since. To leave succeeds once, and what a viewer gets is the same whatever the others do. -/
theorem each_viewer_served (config : CaptureConfig) (transport : Transport) (writable : Bool)
    (crew : Crew) (acts : List (Act config.frameLength)) :
    let past := (run (new config transport writable crew) acts).1
    let c := (run (new config transport writable crew) acts).2
    c.audience.registered = registered past ∧
    c.audience.size = (registered past).length ∧
    c.wiring.metrics.framesPublished = total past ∧
    (∀ i ∈ registered past, (step c (.look i : Act config.frameLength)).1 =
      .got i ((owed i past).map fun frame => ⟨frame, showings i past⟩)) ∧
    (∀ i < joins past, (i ∈ registered past ↔ ∀ present, .left i present ∉ past) ∧
      (step c (.leave i : Act config.frameLength)).1 = .left i (decide (i ∈ registered past)) ∧
      ∀ j ≠ i, (step c (.leave i : Act config.frameLength)).2.audience.seats[j]? =
        c.audience.seats[j]?) ∧
    (∀ i present, .left i present ∈ past →
      (step c (.look i : Act config.frameLength)).1 = .got i none) ∧
    (crew.isAtWork .broadcaster = true → registered past ≠ [] → ∀ frame, pending past = some frame →
      (step c (.goOn : Act config.frameLength)).1 = .shown frame) ∧
    ∀ i < joins past, ∀ acts₁ acts₂ : List (Act config.frameLength),
      acts₁.filter (Act.concerns i) = acts₂.filter (Act.concerns i) →
      (run c acts₁).1.filter (·.viewer? = some i) =
        (run c acts₂).1.filter (·.viewer? = some i) := by
  intro past c
  have h : Showing config.frameLength past c := showing_run config transport writable crew acts
  have seat : ∀ i < joins past, ∃ s, c.audience.seats[i]? = some s := fun i came =>
    ⟨_, List.getElem?_eq_getElem (h.present.joins.symm ▸ came)⟩
  refine ⟨h.present.registered, ?_, h.tells.total, fun i member => ?_,
    fun i came => ⟨?_, ?_, fun j other => ?_⟩, fun i present left => ?_,
    fun at_work someone frame waits => ?_, fun i came acts₁ acts₂ same => ?_⟩
  · rw [Audience.size, h.present.registered]
  · obtain ⟨s, there, opened⟩ := h.present.tidy.exists_seat (h.present.registered ▸ member)
    rw [step_look there, (((h.served i).seat s there).consume opened).1]
  · rw [← h.present.registered]
    exact h.present.stays i (h.present.joins.symm ▸ came)
  · rw [← h.present.registered]
    by_cases listed : i ∈ c.audience.registered
    · obtain ⟨s, there⟩ := seat i came
      rw [step_leave_of_mem there listed, decide_eq_true listed]
    · rw [step_leave_of_not_mem (h.present.joins.symm ▸ came) listed, decide_eq_false listed]
  · obtain ⟨s, there⟩ := seat i came
    by_cases listed : i ∈ c.audience.registered
    · rw [step_leave_of_mem there listed, Audience.getElem?_set_seat there, if_neg other.symm]
    · rw [step_leave_of_not_mem (h.present.joins.symm ▸ came) listed]
  · have inside := h.present.came i present left
    have there := List.getElem?_eq_getElem inside
    have gone : i ∉ c.audience.registered := fun member =>
      (h.present.stays i inside).mp member present left
    rw [h.present.tidy.mem_iff_of_seat there, Bool.not_eq_false] at gone
    rw [step_look there, Seat.consume_of_closed gone]
  · exact step_goOn h ((crew_run _ acts).symm ▸ at_work) someone waits
  · have inside : i < c.audience.seats.length := h.present.joins.symm ▸ came
    have tidy := h.present.tidy
    rw [← (alike_run tidy inside acts₁).1, ← (alike_run tidy inside acts₂).1, same]

/-- The second of two viewers leaves twice before a third one joins. The first one has looked at the
first frame, so that both are owed the second one, and a third frame is on its way. -/
theorem each_viewer_served_around_leaving :
    let crew := ((Crew.new false).start fun _ => .ok ()).2
    let acts : List (Act 2) :=
      [.join, .join, .send ⟨[1, 0], rfl⟩, .goOn, .look 0, .leave 1, .leave 1, .join,
        .send ⟨[2, 0], rfl⟩, .goOn, .send ⟨[3, 0], rfl⟩]
    let past := (run (new { frameLength := 2 } .report true crew) acts).1
    let c := (run (new { frameLength := 2 } .report true crew) acts).2
    registered past = [0, 2] ∧ c.audience.size = 2 ∧ c.wiring.metrics.framesPublished = 4 ∧
    (step c (.look 0 : Act 2)).1 = .got 0 (some ⟨[2, 0], 2⟩) ∧
    (step c (.look 2 : Act 2)).1 = .got 2 (some ⟨[2, 0], 1⟩) ∧
    (.left 1 true ∈ past ∧ (step c (.look 1 : Act 2)).1 = .got 1 none ∧
      (step c (.leave 1 : Act 2)).1 = .left 1 false) ∧
    (step c (.goOn : Act 2)).1 = .shown [3, 0] ∧
    (run c [.goOn, (.look 0 : Act 2)]).1.filter (·.viewer? = some 0) =
      (run c [.look 2, .join, .leave 2, .goOn, .look 3, (.look 0 : Act 2)]).1.filter
        (·.viewer? = some 0) := by
  intro crew acts past c
  have there : registered past = [0, 2] ∧ joins past = 3 ∧ total past = 4 := by decide +kernel
  have owes : owed 0 past = some [2, 0] ∧ showings 0 past = 2 ∧ owed 2 past = some [2, 0] ∧
      showings 2 past = 1 ∧ pending past = some [3, 0] := by decide +kernel
  have left : .left 1 true ∈ past := by decide +kernel
  obtain ⟨-, size, published, looks, leaves, gone, shows, alike⟩ :=
    each_viewer_served { frameLength := 2 } .report true crew acts
  have member : 0 ∈ registered past ∧ 1 ∉ registered past ∧ 2 ∈ registered past := by
    rw [there.1]
    decide
  have early : 0 < joins past ∧ 1 < joins past := by
    rw [there.2.1]
    decide
  have at_work : crew.isAtWork .broadcaster = true := by decide
  have someone : registered past ≠ [] := by
    rw [there.1]
    decide
  refine ⟨there.1, ?_, ?_, ?_, ?_, ⟨left, gone 1 true left, ?_⟩,
    shows at_work someone _ owes.2.2.2.2, ?_⟩
  · rw [size, there.1]
    rfl
  · rw [published, there.2.2]
  · rw [looks 0 member.1, owes.1, owes.2.1]
    rfl
  · rw [looks 2 member.2.2, owes.2.2.1, owes.2.2.2.1]
    rfl
  · rw [(leaves 1 early.2).2.1, decide_eq_false member.2.1]
  · exact alike 0 early.1 _ _ rfl

end Churn

end MotionCast
