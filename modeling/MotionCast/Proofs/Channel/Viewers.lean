import MotionCast.Proofs.Channel.Gallery

/-! What the viewers of a feed get. Without the acts of one of them the others get the same, and
each gets the latest value if something was published since it last began to read. -/

namespace MotionCast

namespace Gallery

variable {α : Type}

section Change

variable {g g' : Gallery α} {a : Act α} {o : Outcome α} {past : List (Outcome α)}

/-! ### What the other viewers get -/

/-- In the second gallery one of the viewers does nothing, and all the rest is as in the first. -/
structure Twins (w : Nat) (g g' : Gallery α) : Prop where
  feed : ∃ mark, g'.feed = { g.feed with consumed := mark }
  length : g'.onlookers.length = g.onlookers.length
  others : ∀ i, i ≠ w → g'.onlookers[i]? = g.onlookers[i]?
  idle : g'.reading? w = none

theorem Twins.new (w : Nat) (first : α) : Twins w (new first) (new first) :=
  ⟨⟨0, rfl⟩, rfl, fun _ _ => rfl, rfl⟩

/-- What the viewer does only shows in its own place and in the mark of what was read. -/
theorem Twins.changeMine {w : Nat} {h : Gallery α} (twins : Twins w g h) (c : Change g a o g')
    (mine : a.viewer? = some w) : Twins w g' h := by
  cases c with
  | published change free => cases mine
  | heldUp change => cases mine
  | joined => cases mine
  | closed => cases mine
  | told i o there => exact twins
  | refused _ i _ => exact twins
  | waiting i => exact twins
  | void _ i _ => exact twins
  | consumed _ i o same there _ _ =>
    obtain rfl : i = w := Option.some.inj (same.symm.trans mine)
    refine ⟨twins.feed, by simpa using twins.length, fun j other => ?_, twins.idle⟩
    rw [getElem?_set_onlooker there, if_neg other.symm]
    exact twins.others j other
  | released i o generation there reads =>
    obtain rfl : i = w := Option.some.inj mine
    obtain ⟨mark, feed⟩ := twins.feed
    refine ⟨⟨mark, by rw [feed]; rfl⟩, by simpa using twins.length, fun j other => ?_, twins.idle⟩
    rw [getElem?_set_onlooker there, if_neg other.symm]
    exact twins.others j other

theorem Change.viewer?_eq (c : Change g a o g') : o.viewer? = a.viewer? := by
  cases c with
  | consumed _ _ _ mine _ _ _ => exact mine.symm
  | refused _ _ mine => exact mine.symm
  | void _ _ mine => exact mine.symm
  | _ => rfl

theorem Twins.free {w : Nat} {h : Gallery α} (twins : Twins w g h)
    (free : ∀ o ∈ g.onlookers, o.reading = none) : ∀ o ∈ h.onlookers, o.reading = none := by
  intro o mem
  obtain ⟨i, there⟩ := List.mem_iff_getElem?.mp mem
  by_cases mine : i = w
  · subst mine
    rw [← reading?_of_there there]
    exact twins.idle
  · rw [twins.others i mine] at there
    exact free o (List.mem_of_getElem? there)

theorem Twins.set {w i : Nat} {h : Gallery α} {o : Onlooker} (twins : Twins w g h) (other : i ≠ w)
    (there : g.onlookers[i]? = some o) (o' : Onlooker) (f : Feed α) (mark : Nat) :
    Twins w { feed := f, onlookers := g.onlookers.set i o' }
      { feed := { f with consumed := mark }, onlookers := h.onlookers.set i o' } := by
  have there' : h.onlookers[i]? = some o := (twins.others i other).trans there
  refine ⟨⟨mark, rfl⟩, by simpa using twins.length, fun j apart => ?_, ?_⟩
  · rw [getElem?_set_onlooker there, getElem?_set_onlooker there', twins.others j apart]
  · rw [reading?_set there', if_neg other]
    exact twins.idle

theorem Twins.joined {w : Nat} {h : Gallery α} (twins : Twins w g h) :
    Twins w (g.step .join).2 (h.step .join).2 := by
  refine ⟨twins.feed, ?_, fun i apart => ?_, ?_⟩
  · simp [step, twins.length]
  · simp only [step]
    rw [List.getElem?_append, List.getElem?_append, twins.length, twins.others i apart]
  · exact (reading?_joined h w).trans twins.idle

theorem Twins.consume {w i : Nat} {h : Gallery α} {o : Onlooker} (twins : Twins w g h)
    (other : i ≠ w) (there : g.onlookers[i]? = some o) :
    (h.consume i o).1 = (g.consume i o).1 ∧ Twins w (g.consume i o).2 (h.consume i o).2 := by
  obtain ⟨mark, feed⟩ := twins.feed
  by_cases can : g.feed.closed = false ∧ o.viewer.seen < g.feed.published
  · have can' : h.feed.closed = false ∧ o.viewer.seen < h.feed.published := by rwa [feed]
    rw [consume_of_new i can.1 can.2, consume_of_new i can'.1 can'.2, feed]
    exact ⟨rfl, twins.set other there _ g.feed mark⟩
  · have cannot' : ¬(h.feed.closed = false ∧ o.viewer.seen < h.feed.published) := by rwa [feed]
    rw [not_and_or, Bool.not_eq_false, Nat.not_lt] at can cannot'
    rw [consume_of_nothing i can, consume_of_nothing i cannot']
    exact ⟨rfl, twins⟩

/-- Without the one viewer the others do the same, unless the publisher has to wait for it. -/
theorem Twins.stepOthers {w : Nat} {h : Gallery α} (twins : Twins w g h) (a : Act α)
    (other : a.viewer? ≠ some w) (flows : (g.step a).1 ≠ .heldUp) :
    (h.step a).1 = (g.step a).1 ∧ Twins w (g.step a).2 (h.step a).2 := by
  obtain ⟨mark, feed⟩ := twins.feed
  cases a with
  | join => exact ⟨rfl, twins.joined⟩
  | close =>
    have feed' : (h.step .close).2.feed = { (g.step .close).2.feed with consumed := mark } := by
      simp only [step, feed]
      rfl
    exact ⟨rfl, ⟨mark, feed'⟩, twins.length, twins.others, twins.idle⟩
  | publish change =>
    have free : ∀ o ∈ g.onlookers, o.reading = none := by
      by_contra held
      exact flows (by simp_all [step])
    have free' := twins.free free
    have all : g.onlookers.all (·.reading.isNone) = true := by simpa using free
    have all' : h.onlookers.all (·.reading.isNone) = true := by simpa using free'
    simp only [step, all, all', if_true, feed]
    exact ⟨trivial, ⟨mark, rfl⟩, twins.length, twins.others, twins.idle⟩
  | hasNew i =>
    have apart : i ≠ w := fun same => other (congrArg some same)
    simp only [step, twins.others i apart, feed]
    cases g.onlookers[i]? with
    | none => exact ⟨rfl, twins⟩
    | some o => exact ⟨rfl, twins⟩
  | consume i =>
    have apart : i ≠ w := fun same => other (congrArg some same)
    simp only [step, twins.others i apart]
    cases there : g.onlookers[i]? with
    | none => exact ⟨rfl, twins⟩
    | some o => exact twins.consume apart there
  | await i =>
    have apart : i ≠ w := fun same => other (congrArg some same)
    simp only [step, twins.others i apart]
    cases there : g.onlookers[i]? with
    | none => exact ⟨rfl, twins⟩
    | some o =>
      have waits : h.feed.waits o.viewer = g.feed.waits o.viewer := by rw [feed]; rfl
      simp only [waits]
      split
      · exact ⟨rfl, twins⟩
      · exact twins.consume apart there
  | release i =>
    have apart : i ≠ w := fun same => other (congrArg some same)
    simp only [step, twins.others i apart]
    cases there : g.onlookers[i]? with
    | none => exact ⟨rfl, twins⟩
    | some o =>
      cases reads : o.reading with
      | none => exact ⟨by simp only [reads], by simpa only [reads] using twins⟩
      | some generation =>
        simp only [reads, feed]
        exact ⟨trivial, twins.set apart there _ (g.feed.release generation) (max mark generation)⟩

/-- With the acts of one viewer left out, the others get what they got. -/
theorem twins_run (w : Nat) (first : α) (acts : List (Act α))
    (flows : .heldUp ∉ ((new first).run acts).1) :
    ((new first).run (acts.filter fun a => a.viewer? ≠ some w)).1 =
      ((new first).run acts).1.filter (fun o => o.viewer? ≠ some w) ∧
    Twins w ((new first).run acts).2
      ((new first).run (acts.filter fun a => a.viewer? ≠ some w)).2 := by
  induction acts using List.reverseRecOn with
  | nil => exact ⟨rfl, .new w first⟩
  | append_singleton acts a ih =>
    simp only [run, chronicle_snoc, List.mem_cons, not_or] at flows ih ⊢
    obtain ⟨same, twins⟩ := ih flows.2
    have whose := (change_step (chronicle step (Gallery.new first) acts).2 a).viewer?_eq
    by_cases mine : a.viewer? = some w
    · have left : (acts ++ [a]).filter (fun a => a.viewer? ≠ some w) =
          acts.filter (fun a => a.viewer? ≠ some w) := by simp [mine]
      rw [left, List.filter_cons_of_neg (by simp [whose, mine])]
      exact ⟨same, twins.changeMine (change_step _ a) mine⟩
    · have kept : (acts ++ [a]).filter (fun a => a.viewer? ≠ some w) =
          acts.filter (fun a => a.viewer? ≠ some w) ++ [a] := by simp [mine]
      obtain ⟨outcome, twins'⟩ := twins.stepOthers a mine (Ne.symm flows.1)
      rw [kept, chronicle_snoc, List.filter_cons_of_pos (by simp [whose, mine])]
      exact ⟨congrArg₂ _ outcome same, twins'⟩

end Change

/-! ### What a viewer gets -/

theorem latest?_of_fresh {i : Nat} {past : List (Outcome α)} (new : fresh i past = true) :
    ∃ value, latest? past = some value := by
  induction past with
  | nil => cases new
  | cons o past ih =>
    cases o with
    | published value => exact ⟨value, rfl⟩
    | consumed j reading =>
      cases reading with
      | none => exact ih new
      | some reading =>
        rw [fresh] at new
        split at new
        · cases new
        · exact ih new
    | _ => exact ih new

theorem isClosed_of_mem {past : List (Outcome α)} (mem : .closed ∈ past) :
    isClosed past = true := by
  induction past with
  | nil => cases mem
  | cons o past ih =>
    rcases List.mem_cons.mp mem with now | before
    · rw [← now]
      rfl
    · cases o with
      | closed => rfl
      | _ => exact ih before

theorem isSome_due (i : Nat) (past : List (Outcome α)) :
    (due i past).isSome = (!isClosed past && fresh i past) := by
  rw [due]
  cases closed : isClosed past with
  | true => rfl
  | false =>
    cases new : fresh i past with
    | false => rfl
    | true =>
      obtain ⟨value, last⟩ := latest?_of_fresh new
      rw [last]
      rfl

section Due

variable {i : Nat} {past : List (Outcome α)} {g : Gallery α} (tells : Tells past g)
  (abreast : Abreast i past g) {o : Onlooker} (there : g.onlookers[i]? = some o)

include tells abreast there

theorem consume_due : (g.consume i o).1 = .consumed i (due i past) := by
  have fresh := abreast.fresh
  rw [seen_of_there there] at fresh
  by_cases can : g.feed.closed = false ∧ o.viewer.seen < g.feed.published
  · rw [decide_eq_true can.2] at fresh
    obtain ⟨value, last⟩ := latest?_of_fresh fresh
    rw [consume_of_new i can.1 can.2, due, ← tells.closed, can.1, fresh, last,
      tells.latest value last, tells.published]
    rfl
  · rw [not_and_or, Bool.not_eq_false, Nat.not_lt] at can
    rw [consume_of_nothing i can, due, if_pos]
    rw [← tells.closed, fresh]
    rcases can with closed | old
    · simp [closed]
    · simp [old]

theorem await_due : (g.step (.await i)).1 =
    if isClosed past || fresh i past then .consumed i (due i past) else .waiting i := by
  have waits : g.feed.waits o.viewer = !(isClosed past || fresh i past) := by
    rw [Feed.waits, Feed.hasNew, abreast.fresh, ← tells.closed, seen_of_there there, Bool.not_or]
  simp only [step, there, waits]
  cases isClosed past || fresh i past with
  | true => exact consume_due tells abreast there
  | false => rfl

end Due

/-- A viewer who begins to read gets the latest value if it is new to it, and nothing once the feed
is closed. What it reads grows, the mark is not ahead of it, and while the publisher is not held up
no viewer matters to another. -/
theorem latest_value_viewed (first : α) (acts : List (Act α)) :
    let past := ((new first).run acts).1
    let g := ((new first).run acts).2
    g.feed.published = publications past ∧
    (∀ i < viewers past,
      (g.step (.hasNew i)).1 = .told i (fresh i past) ∧
      (g.step (.consume i)).1 = .consumed i (due i past) ∧
      (g.step (.await i)).1 =
        if isClosed past || fresh i past then .consumed i (due i past) else .waiting i) ∧
    (∀ i, (due i past).isSome = (!isClosed past && fresh i past)) ∧
    (∀ i, (generations i past).Pairwise (· > ·)) ∧
    (.closed ∈ past → ∀ a i reading, (g.step a).1 ≠ .consumed i (some reading)) ∧
    g.feed.consumed ≤ publications past ∧
    (∀ a, g.feed.consumed ≤ (g.step a).2.feed.consumed) ∧
    (g.feed.wasConsumed = true ↔
      publications past = 0 ∨ ∃ i, .released i (publications past) ∈ past) ∧
    (.heldUp ∉ past → ∀ w, ((new first).run (acts.filter fun a => a.viewer? ≠ some w)).1 =
      past.filter fun o => o.viewer? ≠ some w) := by
  intro past g
  have tells : Tells past g := tells_run first acts
  have abreast : ∀ i, Abreast i past g := fun i => abreast_run i first acts
  have marked : Marked past g := marked_run first acts
  refine ⟨tells.published, fun i comes => ?_, fun i => isSome_due i past,
    fun i => (abreast i).grown, fun closed a i reading took => ?_,
    tells.published ▸ marked.consumed, fun a => (change_step g a).consumed_le,
    tells.published ▸ marked.wasConsumed_iff, fun flows w => (twins_run w first acts flows).1⟩
  · have inside : i < g.onlookers.length := by rwa [tells.viewers]
    have there : g.onlookers[i]? = some g.onlookers[i] := List.getElem?_eq_getElem inside
    refine ⟨?_, ?_, await_due tells (abreast i) there⟩
    · rw [(abreast i).fresh, seen_of_there there]
      simp only [step, there]
      rfl
    · simp only [step, there]
      exact consume_due tells (abreast i) there
  · have shut : g.feed.closed = true := tells.closed.trans (isClosed_of_mem closed)
    have opened : g.feed.closed = false := (change_step g a).opened took
    simp [shut] at opened

/-- Two viewers read the second of two values at the same time. The later one ends its reading when
the feed is closed already, and without it the earlier one gets the same. -/
theorem latest_value_viewed_in_turns :
    let acts : List (Act Nat) :=
      [.join, .publish fun _ => 7, .publish (· + 1), .consume 0, .join, .hasNew 1]
    let ending : List (Act Nat) := [.consume 1, .close, .release 0, .hasNew 1, .release 1]
    let g := ((new 0).run acts).2
    let past := ((new 0).run (acts ++ ending)).1
    let closed := ((new 0).run (acts ++ ending)).2
    (1 < viewers ((new 0).run acts).1 ∧ (g.step (.await 1)).1 = .consumed 1 (some ⟨8, 2⟩) ∧
      (g.step (.consume 0)).1 = .consumed 0 none ∧ g.feed.wasConsumed = false) ∧
    (.closed ∈ past ∧ ∀ a i reading, (closed.step a).1 ≠ .consumed i (some reading)) ∧
    (closed.feed.wasConsumed = true ∧ generations 1 past = [2]) ∧
    .heldUp ∉ past ∧
      ((new 0).run ((acts ++ ending).filter fun a => a.viewer? ≠ some 1)).1 =
        [.released 0 2, .closed, .joined, .consumed 0 (some ⟨8, 2⟩), .published 8, .published 7,
          .joined] := by
  intro acts ending g past closed
  obtain ⟨-, gets, -, -, -, -, -, -, -⟩ := latest_value_viewed 0 acts
  obtain ⟨-, -, -, -, shut, -, -, consumed, others⟩ := latest_value_viewed 0 (acts ++ ending)
  have happened : past = [.released 1 2, .told 1 false, .released 0 2, .closed,
      .consumed 1 (some ⟨8, 2⟩), .told 1 true, .joined, .consumed 0 (some ⟨8, 2⟩), .published 8,
      .published 7, .joined] := rfl
  have ended : .closed ∈ past := by simp [happened]
  have flows : .heldUp ∉ past := by simp [happened]
  refine ⟨⟨by decide, (gets 1 (by decide)).2.2, (gets 0 (by decide)).2.1, by decide⟩,
    ⟨ended, shut ended⟩, ⟨consumed.mpr (.inr ⟨0, ?_⟩), rfl⟩, flows, others flows 1⟩
  show .released 0 2 ∈ past
  simp [happened]

end Gallery

end MotionCast
