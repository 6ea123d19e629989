import MotionCast.Channel.Feed
import MotionCast.Proofs.Channel.Chronicle

/-! A feed with its viewers. Viewers come at any time, read in any order and end their readings in
any order, and a publication waits until nobody reads. What happened before tells what the feed and
each viewer know. -/

namespace MotionCast

/-- A viewer of a feed, with the publication that it is reading. -/
structure Onlooker where
  viewer : Viewer := {}
  reading : Option Nat := none

structure Gallery (α : Type) where
  feed : Feed α
  onlookers : List Onlooker := []

namespace Gallery

variable {α : Type}

/-- What the publisher and the viewers do. Viewers are numbered in the order in which they come. -/
inductive Act (α : Type) where
  /-- The value is changed in place and published. -/
  | publish (change : α → α)
  | join
  | hasNew (i : Nat)
  /-- Begins to read, if there is something new before a time is over. -/
  | consume (i : Nat)
  /-- Begins to read as soon as there is something new. -/
  | await (i : Nat)
  /-- Ends a reading. -/
  | release (i : Nat)
  | close

/-- What an act comes to. -/
inductive Outcome (α : Type) where
  | published (value : α)
  /-- The publisher waits for a reading to end. -/
  | heldUp
  | joined
  | told (i : Nat) (new : Bool)
  | consumed (i : Nat) (reading : Option (Reading α))
  | waiting (i : Nat)
  | released (i : Nat) (generation : Nat)
  | closed
  /-- There is no such viewer, or it has no reading to end. -/
  | void (i : Nat)

def Act.viewer? : Act α → Option Nat
  | .hasNew i => some i
  | .consume i => some i
  | .await i => some i
  | .release i => some i
  | _ => none

def Outcome.viewer? : Outcome α → Option Nat
  | .told i _ => some i
  | .consumed i _ => some i
  | .waiting i => some i
  | .released i _ => some i
  | .void i => some i
  | _ => none

/-- A feed on which nothing was published, without viewers. -/
def new (first : α) : Gallery α := { feed := Feed.new first }

/-- A viewer begins to read, if it can. -/
def consume (g : Gallery α) (i : Nat) (o : Onlooker) : Outcome α × Gallery α :=
  match g.feed.consume? o.viewer with
  | none => (.consumed i none, g)
  | some (reading, viewer) =>
    (.consumed i (some reading),
      { g with onlookers := g.onlookers.set i ⟨viewer, some reading.generation⟩ })

def step (g : Gallery α) : Act α → Outcome α × Gallery α
  | .publish change =>
    if g.onlookers.all (·.reading.isNone) then
      (.published (change g.feed.value),
        { g with feed := g.feed.publish (change g.feed.value) })
    else (.heldUp, g)
  | .join => (.joined, { g with onlookers := g.onlookers ++ [{}] })
  | .hasNew i =>
    match g.onlookers[i]? with
    | none => (.void i, g)
    | some o => (.told i (g.feed.hasNew o.viewer), g)
  | .consume i =>
    match g.onlookers[i]? with
    | none => (.void i, g)
    | some o => g.consume i o
  | .await i =>
    match g.onlookers[i]? with
    | none => (.void i, g)
    | some o => if g.feed.waits o.viewer then (.waiting i, g) else g.consume i o
  | .release i =>
    match g.onlookers[i]? with
    | none => (.void i, g)
    | some o =>
      match o.reading with
      | none => (.void i, g)
      | some generation =>
        (.released i generation,
          { feed := g.feed.release generation
            onlookers := g.onlookers.set i { o with reading := none } })
  | .close => (.closed, { g with feed := g.feed.close })

/-- The outcomes of acts in a row, the latest first, and the gallery after them. -/
def run (g : Gallery α) (acts : List (Act α)) : List (Outcome α) × Gallery α :=
  chronicle step g acts

/-! ### What happened -/

/-- How often a value was published. -/
def publications : List (Outcome α) → Nat
  | [] => 0
  | .published _ :: past => publications past + 1
  | _ :: past => publications past

/-- The value that was published last. -/
def latest? : List (Outcome α) → Option α
  | [] => none
  | .published value :: _ => some value
  | _ :: past => latest? past

def isClosed : List (Outcome α) → Bool
  | [] => false
  | .closed :: _ => true
  | _ :: past => isClosed past

/-- How many viewers came. -/
def viewers : List (Outcome α) → Nat
  | [] => 0
  | .joined :: past => viewers past + 1
  | _ :: past => viewers past

/-- Something was published since a viewer last began to read, or ever if it did not. -/
def fresh (i : Nat) : List (Outcome α) → Bool
  | [] => false
  | .published _ :: _ => true
  | .consumed j (some _) :: past => if j = i then false else fresh i past
  | _ :: past => fresh i past

/-- The publications that a viewer read, the latest first. -/
def generations (i : Nat) : List (Outcome α) → List Nat
  | [] => []
  | .consumed j (some reading) :: past =>
    if j = i then reading.generation :: generations i past else generations i past
  | _ :: past => generations i past

/-- What a viewer who begins to read must get. -/
def due (i : Nat) (past : List (Outcome α)) : Option (Reading α) :=
  if isClosed past || !fresh i past then none
  else (latest? past).map fun value => ⟨value, publications past⟩

/-! ### What an act does -/

/-- The ways in which an act changes a gallery. -/
inductive Change (g : Gallery α) : Act α → Outcome α → Gallery α → Prop where
  | published (change : α → α) (free : ∀ o ∈ g.onlookers, o.reading = none) :
    Change g (.publish change) (.published (change g.feed.value))
      { g with feed := g.feed.publish (change g.feed.value) }
  | heldUp (change : α → α) : Change g (.publish change) .heldUp g
  | joined : Change g .join .joined { g with onlookers := g.onlookers ++ [{}] }
  | told (i : Nat) (o : Onlooker) (there : g.onlookers[i]? = some o) :
    Change g (.hasNew i) (.told i (decide (o.viewer.seen < g.feed.published))) g
  | consumed (a : Act α) (i : Nat) (o : Onlooker) (mine : a.viewer? = some i)
    (there : g.onlookers[i]? = some o) (opened : g.feed.closed = false)
    (new : o.viewer.seen < g.feed.published) :
    Change g a (.consumed i (some ⟨g.feed.value, g.feed.published⟩))
      { g with
        onlookers := g.onlookers.set i ⟨⟨g.feed.published⟩, some g.feed.published⟩ }
  | refused (a : Act α) (i : Nat) (mine : a.viewer? = some i) : Change g a (.consumed i none) g
  | waiting (i : Nat) : Change g (.await i) (.waiting i) g
  | released (i : Nat) (o : Onlooker) (generation : Nat) (there : g.onlookers[i]? = some o)
    (reads : o.reading = some generation) :
    Change g (.release i) (.released i generation)
      { feed := g.feed.release generation
        onlookers := g.onlookers.set i { o with reading := none } }
  | closed : Change g .close .closed { g with feed := g.feed.close }
  | void (a : Act α) (i : Nat) (mine : a.viewer? = some i) : Change g a (.void i) g

theorem consume_of_new {g : Gallery α} {o : Onlooker} (i : Nat) (opened : g.feed.closed = false)
    (new : o.viewer.seen < g.feed.published) :
    g.consume i o = (.consumed i (some ⟨g.feed.value, g.feed.published⟩),
      { g with
        onlookers := g.onlookers.set i ⟨⟨g.feed.published⟩, some g.feed.published⟩ }) := by
  rw [consume, Feed.consume?_of_new opened new]

theorem consume_of_nothing {g : Gallery α} {o : Onlooker} (i : Nat)
    (nothing : g.feed.closed = true ∨ g.feed.published ≤ o.viewer.seen) :
    g.consume i o = (.consumed i none, g) := by
  rw [consume]
  rcases nothing with closed | old
  · rw [Feed.consume?_of_closed closed]
  · rw [Feed.consume?_of_old old]

theorem change_consume {g : Gallery α} {a : Act α} {i : Nat} {o : Onlooker}
    (mine : a.viewer? = some i) (there : g.onlookers[i]? = some o) :
    Change g a (g.consume i o).1 (g.consume i o).2 := by
  by_cases can : g.feed.closed = false ∧ o.viewer.seen < g.feed.published
  · rw [consume_of_new i can.1 can.2]
    exact .consumed a i o mine there can.1 can.2
  · rw [not_and_or, Bool.not_eq_false, Nat.not_lt] at can
    rw [consume_of_nothing i can]
    exact .refused a i mine

theorem change_step (g : Gallery α) (a : Act α) : Change g a (g.step a).1 (g.step a).2 := by
  cases a with
  | publish change =>
    simp only [step]
    split
    · rename_i free
      exact .published change (by simpa using free)
    · exact .heldUp change
  | join => exact .joined
  | close => exact .closed
  | hasNew i =>
    cases there : g.onlookers[i]? with
    | none =>
      simp only [step, there]
      exact .void _ i rfl
    | some o =>
      simp only [step, there]
      exact .told i o there
  | consume i =>
    cases there : g.onlookers[i]? with
    | none =>
      simp only [step, there]
      exact .void _ i rfl
    | some o =>
      simp only [step, there]
      exact change_consume rfl there
  | await i =>
    cases there : g.onlookers[i]? with
    | none =>
      simp only [step, there]
      exact .void _ i rfl
    | some o =>
      simp only [step, there]
      split
      · exact .waiting i
      · exact change_consume rfl there
  | release i =>
    cases there : g.onlookers[i]? with
    | none =>
      simp only [step, there]
      exact .void _ i rfl
    | some o =>
      cases reads : o.reading with
      | none =>
        simp only [step, there, reads]
        exact .void _ i rfl
      | some generation =>
        simp only [step, there, reads]
        exact .released i o generation there reads

/-! ### What a feed knows of the past -/

/-- The feed and the number of viewers tell what happened. -/
structure Tells (past : List (Outcome α)) (g : Gallery α) : Prop where
  published : g.feed.published = publications past
  latest : ∀ value, latest? past = some value → g.feed.value = value
  closed : g.feed.closed = isClosed past
  viewers : g.onlookers.length = viewers past

section Change

variable {g g' : Gallery α} {a : Act α} {o : Outcome α} {past : List (Outcome α)}

theorem Tells.new (first : α) : Tells [] (new first) := ⟨rfl, nofun, rfl, rfl⟩

theorem Tells.change (h : Tells past g) (c : Change g a o g') : Tells (o :: past) g' := by
  cases c with
  | published change free =>
    exact ⟨congrArg (· + 1) h.published, fun _ same => Option.some.inj same, h.closed, h.viewers⟩
  | joined => exact ⟨h.published, h.latest, h.closed, by simp [h.viewers, Gallery.viewers]⟩
  | consumed _ i o _ there _ _ =>
    exact ⟨h.published, h.latest, h.closed, by simp [h.viewers, Gallery.viewers]⟩
  | released i o generation there reads =>
    exact ⟨h.published, h.latest, h.closed, by simp [h.viewers, Gallery.viewers]⟩
  | closed => exact ⟨h.published, h.latest, rfl, h.viewers⟩
  | heldUp change => exact ⟨h.published, h.latest, h.closed, h.viewers⟩
  | told i o there => exact ⟨h.published, h.latest, h.closed, h.viewers⟩
  | refused _ i _ => exact ⟨h.published, h.latest, h.closed, h.viewers⟩
  | waiting i => exact ⟨h.published, h.latest, h.closed, h.viewers⟩
  | void _ i _ => exact ⟨h.published, h.latest, h.closed, h.viewers⟩

theorem tells_run (first : α) (acts : List (Act α)) :
    Tells ((new first).run acts).1 ((new first).run acts).2 :=
  chronicle_induction (.new first) (fun _ g a h => h.change (change_step g a)) acts

/-! ### What each viewer knows -/

/-- The publication that a viewer saw last, or zero if it saw none. -/
def seen (g : Gallery α) (i : Nat) : Nat := (g.onlookers[i]?.map (·.viewer.seen)).getD 0

/-- The publication that a viewer is reading. -/
def reading? (g : Gallery α) (i : Nat) : Option Nat := g.onlookers[i]?.bind (·.reading)

theorem getElem?_joined (l : List Onlooker) (i : Nat) :
    (l ++ [({} : Onlooker)])[i]? = l[i]? ∨
      l[i]? = none ∧ (l ++ [({} : Onlooker)])[i]? = some {} := by
  rcases Nat.lt_trichotomy i l.length with before | rfl | after
  · exact .inl (List.getElem?_append_left before)
  · exact .inr (by simp)
  · left
    rw [List.getElem?_eq_none (by simp; omega), List.getElem?_eq_none (by omega)]

@[simp] theorem seen_joined (g : Gallery α) (i : Nat) :
    seen { g with onlookers := g.onlookers ++ [({} : Onlooker)] } i = g.seen i := by
  simp only [seen]
  rcases getElem?_joined g.onlookers i with same | ⟨absent, added⟩
  · rw [same]
  · rw [added, absent]
    rfl

@[simp] theorem reading?_joined (g : Gallery α) (i : Nat) :
    reading? { g with onlookers := g.onlookers ++ [({} : Onlooker)] } i = g.reading? i := by
  simp only [reading?]
  rcases getElem?_joined g.onlookers i with same | ⟨absent, added⟩
  · rw [same]
  · rw [added, absent]
    rfl

section Set

variable {g : Gallery α} {j : Nat} {o : Onlooker} (there : g.onlookers[j]? = some o) (f : Feed α)
  (o' : Onlooker) (i : Nat)

include there

theorem getElem?_set_onlooker :
    (g.onlookers.set j o')[i]? = if j = i then some o' else g.onlookers[i]? := by
  have inside : j < g.onlookers.length := (List.getElem?_eq_some_iff.mp there).1
  rw [List.getElem?_set]
  simp [inside]

theorem seen_set : seen { feed := f, onlookers := g.onlookers.set j o' } i =
    if j = i then o'.viewer.seen else g.seen i := by
  simp only [seen, getElem?_set_onlooker there o' i]
  split <;> rfl

theorem reading?_set : reading? { feed := f, onlookers := g.onlookers.set j o' } i =
    if j = i then o'.reading else g.reading? i := by
  simp only [reading?, getElem?_set_onlooker there o' i]
  split <;> rfl

theorem seen_of_there : g.seen j = o.viewer.seen := by
  simp [seen, there]

theorem reading?_of_there : g.reading? j = o.reading := by
  simp [reading?, there]

theorem seen_set_released :
    seen { feed := f, onlookers := g.onlookers.set j { o with reading := none } } i = g.seen i := by
  rw [seen_set there]
  split
  · rename_i mine
    rw [← mine, seen_of_there there]
  · rfl

end Set

theorem reading?_of_free {g : Gallery α} (free : ∀ o ∈ g.onlookers, o.reading = none) (i : Nat) :
    g.reading? i = none := by
  rw [reading?, Option.bind_eq_none_iff]
  intro o there
  exact free o (List.mem_of_getElem? there)

/-- What a viewer saw last tells whether there is something new for it. Its readings have grown, and
the one that has not ended is the latest publication. -/
structure Abreast (i : Nat) (past : List (Outcome α)) (g : Gallery α) : Prop where
  seen : g.seen i ≤ g.feed.published
  fresh : fresh i past = decide (g.seen i < g.feed.published)
  reading : ∀ n, g.reading? i = some n → n = g.feed.published
  grown : (generations i past).Pairwise (· > ·)
  upTo : ∀ n ∈ generations i past, n ≤ g.seen i

theorem Abreast.new (i : Nat) (first : α) : Abreast i [] (new first) :=
  ⟨Nat.le_refl 0, rfl, nofun, .nil, nofun⟩

theorem Abreast.change {i : Nat} (h : Abreast i past g) (c : Change g a o g') :
    Abreast i (o :: past) g' := by
  cases c with
  | published change free =>
    have older : g.seen i < g.feed.published + 1 := Nat.lt_succ_of_le h.seen
    refine ⟨Nat.le_of_lt older, (decide_eq_true older).symm, ?_, h.grown, h.upTo⟩
    intro n reads
    have nobody := reading?_of_free free i
    rw [reading?] at reads nobody
    simp [nobody] at reads
  | joined =>
    refine ⟨?_, ?_, ?_, h.grown, ?_⟩
    · rw [seen_joined]
      exact h.seen
    · rw [seen_joined]
      exact h.fresh
    · rw [reading?_joined]
      exact h.reading
    · rw [seen_joined]
      exact h.upTo
  | consumed _ j o _ there _ new =>
    by_cases mine : j = i
    · subst mine
      rw [← seen_of_there there] at new
      refine ⟨?_, ?_, ?_, ?_, ?_⟩
      · exact Nat.le_of_eq ((seen_set there _ _ _).trans (if_pos rfl))
      · rw [seen_set there, if_pos rfl]
        simp [Gallery.fresh]
      · rw [reading?_set there, if_pos rfl]
        simp
      · simp only [generations, if_pos]
        refine h.grown.cons fun n earlier => ?_
        exact Nat.lt_of_le_of_lt (h.upTo n earlier) new
      · rw [seen_set there, if_pos rfl]
        simp only [generations, if_pos, List.mem_cons, forall_eq_or_imp]
        exact ⟨Nat.le_refl _, fun n earlier => Nat.le_trans (h.upTo n earlier) h.seen⟩
    · refine ⟨?_, ?_, ?_, ?_, ?_⟩
      · rw [seen_set there, if_neg mine]
        exact h.seen
      · rw [seen_set there, if_neg mine, Gallery.fresh, if_neg mine]
        exact h.fresh
      · rw [reading?_set there, if_neg mine]
        exact h.reading
      · rw [generations, if_neg mine]
        exact h.grown
      · rw [seen_set there, if_neg mine, generations, if_neg mine]
        exact h.upTo
  | released j o generation there reads =>
    have same := seen_set_released there (g.feed.release generation) i
    refine ⟨?_, ?_, ?_, h.grown, ?_⟩
    · rw [same]
      exact h.seen
    · rw [same]
      exact h.fresh
    · rw [reading?_set there]
      split
      · simp
      · exact h.reading
    · rw [same]
      exact h.upTo
  | closed => exact ⟨h.seen, h.fresh, h.reading, h.grown, h.upTo⟩
  | heldUp change => exact ⟨h.seen, h.fresh, h.reading, h.grown, h.upTo⟩
  | told j o there => exact ⟨h.seen, h.fresh, h.reading, h.grown, h.upTo⟩
  | refused _ j _ => exact ⟨h.seen, h.fresh, h.reading, h.grown, h.upTo⟩
  | waiting j => exact ⟨h.seen, h.fresh, h.reading, h.grown, h.upTo⟩
  | void _ j _ => exact ⟨h.seen, h.fresh, h.reading, h.grown, h.upTo⟩

theorem abreast_run (i : Nat) (first : α) (acts : List (Act α)) :
    Abreast i ((new first).run acts).1 ((new first).run acts).2 :=
  chronicle_induction (.new i first) (fun _ g a h => h.change (change_step g a)) acts

/-! ### The mark of what was read -/

/-- The mark is the latest publication of which a reading ended. -/
structure Marked (past : List (Outcome α)) (g : Gallery α) : Prop where
  consumed : g.feed.consumed ≤ g.feed.published
  released : ∀ i n, .released i n ∈ past → n ≤ g.feed.consumed
  mark : g.feed.consumed = 0 ∨ ∃ i, .released i g.feed.consumed ∈ past

theorem Marked.new (first : α) : Marked [] (new first) := ⟨Nat.le_refl 0, nofun, .inl rfl⟩

theorem Marked.keep (h : Marked past g) (other : ∀ i n, o ≠ .released i n)
    (same : g'.feed.consumed = g.feed.consumed)
    (more : g.feed.published ≤ g'.feed.published) : Marked (o :: past) g' := by
  refine ⟨?_, ?_, ?_⟩
  · rw [same]
    exact Nat.le_trans h.consumed more
  · intro i n mem
    rw [same]
    rcases List.mem_cons.mp mem with now | before
    · exact absurd now.symm (other i n)
    · exact h.released i n before
  · rw [same]
    rcases h.mark with zero | ⟨i, before⟩
    · exact .inl zero
    · exact .inr ⟨i, List.mem_cons_of_mem _ before⟩

theorem Marked.change (h : Marked past g)
    (reading : ∀ i n, g.reading? i = some n → n = g.feed.published) (c : Change g a o g') :
    Marked (o :: past) g' := by
  cases c with
  | released j o generation there reads =>
    have latest : generation = g.feed.published := by
      refine reading j generation ?_
      rw [reading?_of_there there, reads]
    have mark : max g.feed.consumed generation = generation := by
      have := h.consumed
      omega
    refine ⟨?_, ?_, ?_⟩
    · show max g.feed.consumed generation ≤ g.feed.published
      omega
    · intro i n mem
      show n ≤ max g.feed.consumed generation
      rcases List.mem_cons.mp mem with now | before
      · cases now
        exact Nat.le_max_right _ _
      · exact Nat.le_trans (h.released i n before) (Nat.le_max_left _ _)
    · refine .inr ⟨j, ?_⟩
      show Outcome.released j (max g.feed.consumed generation) ∈ _
      rw [mark]
      exact List.mem_cons_self ..
  | published change free => exact h.keep nofun rfl (Nat.le_succ _)
  | joined => exact h.keep nofun rfl (Nat.le_refl _)
  | consumed _ i o _ there _ _ => exact h.keep nofun rfl (Nat.le_refl _)
  | closed => exact h.keep nofun rfl (Nat.le_refl _)
  | heldUp change => exact h.keep nofun rfl (Nat.le_refl _)
  | told i o there => exact h.keep nofun rfl (Nat.le_refl _)
  | refused _ i _ => exact h.keep nofun rfl (Nat.le_refl _)
  | waiting i => exact h.keep nofun rfl (Nat.le_refl _)
  | void _ i _ => exact h.keep nofun rfl (Nat.le_refl _)

theorem Change.consumed_le (c : Change g a o g') : g.feed.consumed ≤ g'.feed.consumed := by
  cases c with
  | released _ _ _ _ _ => exact Nat.le_max_left _ _
  | _ => exact Nat.le_refl _

theorem Change.opened {i : Nat} {reading : Reading α} (c : Change g a o g')
    (took : o = .consumed i (some reading)) : g.feed.closed = false := by
  cases c with
  | consumed _ _ _ _ _ opened _ => exact opened
  | _ => cases took

theorem marked_run (first : α) (acts : List (Act α)) :
    Marked ((new first).run acts).1 ((new first).run acts).2 := by
  have both : Marked ((new first).run acts).1 ((new first).run acts).2 ∧
      ∀ i, Abreast i ((new first).run acts).1 ((new first).run acts).2 := by
    refine chronicle_induction (P := fun past g => Marked past g ∧ ∀ i, Abreast i past g)
      ⟨.new first, fun i => .new i first⟩ (fun past g a h => ?_) acts
    have change := change_step g a
    exact ⟨h.1.change (fun i => (h.2 i).reading) change, fun i => (h.2 i).change change⟩
  exact both.1

/-- Nothing waits to be read by all, which is so when the latest publication was read by someone. -/
theorem Marked.wasConsumed_iff (h : Marked past g) : g.feed.wasConsumed = true ↔
    g.feed.published = 0 ∨ ∃ i, .released i g.feed.published ∈ past := by
  rw [Feed.wasConsumed, decide_eq_true_eq]
  constructor
  · intro reached
    have same : g.feed.consumed = g.feed.published := Nat.le_antisymm h.consumed reached
    rw [← same]
    exact h.mark
  · rintro (zero | ⟨i, ended⟩)
    · omega
    · exact h.released i _ ended

end Change

end Gallery

end MotionCast
