import Mathlib.Data.List.Nodup
import Mathlib.Logic.Function.Iterate
import MotionCast.Capture.Audience
import MotionCast.Proofs.Wire.Fields

/-! The seats of an audience and the list of those that are registered. While no seat is in the list
twice, and those in it are the seats with an open feed, every frame is shown once to each viewer who
has not left. -/

namespace MotionCast

namespace Seat

variable {s : Seat} {frame : Bytes}

theorem consume_of_new (opened : s.feed.closed = false) (new : s.viewer.seen < s.feed.published) :
    s.consume = (some ⟨s.feed.value, s.feed.published⟩,
      { feed := s.feed.release s.feed.published, viewer := ⟨s.feed.published⟩ }) := by
  rw [consume, Feed.consume?_of_new opened new]

theorem consume_of_closed (closed : s.feed.closed = true) : s.consume = (none, s) := by
  rw [consume, Feed.consume?_of_closed closed]

theorem consume_of_old (old : s.feed.published ≤ s.viewer.seen) : s.consume = (none, s) := by
  rw [consume, Feed.consume?_of_old old]

theorem display_of_length (length : frame.length = s.feed.value.length) :
    s.display frame = { s with feed := s.feed.publish frame } := by
  rw [display, Bytes.copyOver_of_length length]

@[simp] theorem closed_consume : s.consume.2.feed.closed = s.feed.closed := by
  by_cases can : s.feed.closed = false ∧ s.viewer.seen < s.feed.published
  · rw [consume_of_new can.1 can.2]
    rfl
  · rw [not_and_or, Bool.not_eq_false, Nat.not_lt] at can
    rcases can with closed | old
    · rw [consume_of_closed closed]
    · rw [consume_of_old old]

end Seat

namespace Audience

variable {a b : Audience}

/-! ### Showing a frame -/

theorem getElem?_foldl_modify {α : Type} (f : α → α) (places : List Nat) (l : List α) (i : Nat) :
    (places.foldl (fun l place => l.modify place f) l)[i]? = l[i]?.map f^[places.count i] := by
  induction places generalizing l with
  | nil => simp
  | cons place rest ih =>
    rw [List.foldl_cons, ih, List.getElem?_modify, Option.map_eq_map, Option.map_map,
      List.count_cons]
    by_cases same : place = i
    · subst same
      simp [Function.iterate_succ]
    · simp [same, Function.comp_def]

theorem length_foldl_modify {α : Type} (f : α → α) (places : List Nat) (l : List α) :
    (places.foldl (fun l place => l.modify place f) l).length = l.length := by
  induction places generalizing l with
  | nil => rfl
  | cons place rest ih => rw [List.foldl_cons, ih, List.length_modify]

/-- A frame is shown to a seat as often as the seat is in the list. -/
theorem getElem?_publish (a : Audience) (frame : Bytes) (i : Nat) :
    (a.publish frame).seats[i]? =
      a.seats[i]?.map (fun s => s.display frame)^[a.registered.count i] :=
  getElem?_foldl_modify _ _ _ i

@[simp] theorem length_publish (a : Audience) (frame : Bytes) :
    (a.publish frame).seats.length = a.seats.length :=
  length_foldl_modify _ _ _

/-- With all seats in the list, a frame is shown to everyone. -/
theorem publish_of_all (all : a.registered = List.range a.seats.length) (frame : Bytes) :
    a.publish frame = { a with seats := a.seats.map fun s => s.display frame } := by
  have seats : (a.publish frame).seats = a.seats.map fun s => s.display frame := by
    apply List.ext_getElem?
    intro i
    rw [getElem?_publish, all, List.nodup_range.count, List.getElem?_map]
    by_cases inside : i < a.seats.length
    · simp [inside]
    · simp [List.getElem?_eq_none (Nat.not_lt.mp inside)]
  exact congrArg (fun seats => { a with seats }) seats

/-! ### Who is there -/

/-- The viewer of a seat has not left. -/
def isOpen (a : Audience) (i : Nat) : Bool := a.seats[i]?.any fun s => !s.feed.closed

theorem isOpen_of_seat {i : Nat} {s : Seat} (there : a.seats[i]? = some s) :
    a.isOpen i = !s.feed.closed := by
  rw [isOpen, there]
  rfl

theorem isOpen_of_absent {i : Nat} (absent : a.seats.length ≤ i) : a.isOpen i = false := by
  rw [isOpen, List.getElem?_eq_none absent]
  rfl

/-- No seat is in the list twice, and those in it are the seats whose viewers have not left. -/
structure Tidy (a : Audience) : Prop where
  distinct : a.registered.Nodup
  mem_iff : ∀ i, i ∈ a.registered ↔ a.isOpen i = true

theorem Tidy.new (length : Nat) : Tidy { frameLength := length } :=
  ⟨List.nodup_nil, by simp [isOpen]⟩

theorem Tidy.mem_iff_of_seat (h : a.Tidy) {i : Nat} {s : Seat} (there : a.seats[i]? = some s) :
    i ∈ a.registered ↔ s.feed.closed = false := by
  rw [h.mem_iff, isOpen_of_seat there, Bool.not_eq_true']

theorem Tidy.lt_of_mem (h : a.Tidy) {i : Nat} (member : i ∈ a.registered) :
    i < a.seats.length := by
  by_contra absent
  rw [h.mem_iff, isOpen_of_absent (Nat.not_lt.mp absent)] at member
  contradiction

theorem Tidy.exists_seat (h : a.Tidy) {i : Nat} (member : i ∈ a.registered) :
    ∃ s, a.seats[i]? = some s ∧ s.feed.closed = false := by
  have there := List.getElem?_eq_getElem (h.lt_of_mem member)
  exact ⟨_, there, (h.mem_iff_of_seat there).mp member⟩

/-- A frame is shown once to each viewer who has not left. -/
theorem Tidy.getElem?_publish (h : a.Tidy) (frame : Bytes) {i : Nat} {s : Seat}
    (there : a.seats[i]? = some s) :
    (a.publish frame).seats[i]? = some (if s.feed.closed then s else s.display frame) := by
  rw [Audience.getElem?_publish, there, h.distinct.count]
  cases closed : s.feed.closed with
  | false => simp [(h.mem_iff_of_seat there).mpr closed]
  | true => simp [h.mem_iff_of_seat there, closed]

theorem Tidy.congr (h : a.Tidy) (registered : b.registered = a.registered)
    (same : ∀ i, b.isOpen i = a.isOpen i) : b.Tidy :=
  ⟨registered ▸ h.distinct, fun i => by rw [registered, same, h.mem_iff]⟩

section Set

variable {i : Nat} {s : Seat} (there : a.seats[i]? = some s) (s' : Seat) (j : Nat)

include there

theorem getElem?_set_seat : (a.seats.set i s')[j]? = if i = j then some s' else a.seats[j]? := by
  have inside : i < a.seats.length := (List.getElem?_eq_some_iff.mp there).1
  rw [List.getElem?_set]
  simp [inside]

theorem isOpen_set (registered : List Nat) :
    isOpen { a with seats := a.seats.set i s', registered } j =
      if i = j then !s'.feed.closed else a.isOpen j := by
  simp only [isOpen, getElem?_set_seat there s' j]
  split <;> rfl

theorem Tidy.set_kept (h : a.Tidy) (kept : s'.feed.closed = s.feed.closed) :
    Tidy { a with seats := a.seats.set i s' } := by
  refine h.congr rfl fun j => ?_
  rw [isOpen_set there]
  split
  · rename_i same
    rw [← same, isOpen_of_seat there, kept]
  · rfl

theorem Tidy.left (h : a.Tidy) (closed : s'.feed.closed = true) :
    Tidy { a with seats := a.seats.set i s', registered := a.registered.erase i } := by
  refine ⟨h.distinct.erase i, fun j => ?_⟩
  rw [isOpen_set there, h.distinct.mem_erase_iff, h.mem_iff]
  by_cases same : i = j
  · simp [same, closed]
  · simp [same, Ne.symm same]

theorem unsubscribe_of_mem (member : i ∈ a.registered) :
    a.unsubscribe i = (true, { a with
      seats := a.seats.set i s.leave, registered := a.registered.erase i }) := by
  obtain ⟨index, found⟩ := Option.isSome_iff_exists.mp (List.isSome_idxOf?.mpr member)
  have seats : a.seats.modify i Seat.leave = a.seats.set i s.leave := by
    apply List.ext_getElem?
    intro j
    rw [List.getElem?_modify, getElem?_set_seat there]
    by_cases same : i = j
    · subst same
      simp [there]
    · simp [same]
  have rest : a.registered.eraseIdx index = a.registered.erase i := by
    rw [List.erase_eq_eraseIdx, found]
  rw [unsubscribe, found]
  simp only [seats, rest]

end Set

theorem unsubscribe_of_not_mem {i : Nat} (gone : i ∉ a.registered) :
    a.unsubscribe i = (false, a) := by
  rw [unsubscribe, List.idxOf?_eq_none_iff.mpr gone]

theorem isOpen_joined (a : Audience) {s : Seat} (opened : s.feed.closed = false)
    (registered : List Nat) (j : Nat) :
    isOpen { a with seats := a.seats ++ [s], registered } j =
      (a.isOpen j || j == a.seats.length) := by
  rcases Nat.lt_trichotomy j a.seats.length with before | rfl | after
  · simp [isOpen, List.getElem?_append_left before, Nat.ne_of_lt before]
  · simp [isOpen, opened]
  · rw [isOpen_of_absent (by simp; omega), isOpen_of_absent (by omega)]
    simp [Nat.ne_of_gt after]

theorem Tidy.joined (h : a.Tidy) {s : Seat} (opened : s.feed.closed = false) :
    Tidy { a with
      seats := a.seats ++ [s], registered := a.registered ++ [a.seats.length] } := by
  refine ⟨?_, fun j => ?_⟩
  · have new : a.seats.length ∉ a.registered := fun member => Nat.lt_irrefl _ (h.lt_of_mem member)
    rw [List.nodup_append_comm]
    exact List.nodup_cons.mpr ⟨new, h.distinct⟩
  · rw [isOpen_joined a opened, List.mem_append, h.mem_iff]
    simp

theorem Tidy.publish (h : a.Tidy) (frame : Bytes) : (a.publish frame).Tidy := by
  refine h.congr rfl fun i => ?_
  cases there : a.seats[i]? with
  | none => simp [isOpen, Audience.getElem?_publish, there]
  | some s =>
    rw [isOpen_of_seat there, isOpen_of_seat (h.getElem?_publish frame there)]
    split <;> rfl

end Audience

/-- A seat with room for frames of a length, to which some frames were shown, and whose viewer is
owed a frame if it has not left. -/
structure Seat.Owes (length : Nat) (owed : Option Bytes) (showings : Nat) (s : Seat) : Prop where
  length : s.feed.value.length = length
  published : s.feed.published = showings
  seen : s.viewer.seen ≤ showings
  owed : s.feed.closed = false → owed = if s.viewer.seen < showings then some s.feed.value else none

namespace Seat.Owes

variable {length showings : Nat} {owed : Option Bytes} {s : Seat}

theorem new (length : Nat) :
    Seat.Owes length none 0 { feed := Feed.new (Bytes.zeros length) } :=
  ⟨List.length_replicate, rfl, Nat.le_refl 0, fun _ => rfl⟩

theorem leave (h : s.Owes length owed showings) (owed' : Option Bytes) :
    s.leave.Owes length owed' showings :=
  ⟨h.length, h.published, h.seen, nofun⟩

theorem of_closed (h : s.Owes length owed showings) (closed : s.feed.closed = true)
    (owed' : Option Bytes) : s.Owes length owed' showings :=
  ⟨h.length, h.published, h.seen, by simp [closed]⟩

theorem display (h : s.Owes length owed showings) {frame : Bytes} (size : frame.length = length) :
    (s.display frame).Owes length (some frame) (showings + 1) := by
  rw [display_of_length (size.trans h.length.symm)]
  refine ⟨size, congrArg (· + 1) h.published, Nat.le_succ_of_le h.seen, fun _ => ?_⟩
  exact (if_pos (Nat.lt_succ_of_le h.seen)).symm

theorem consume (h : s.Owes length owed showings) (opened : s.feed.closed = false) :
    s.consume.1 = owed.map (fun frame => ⟨frame, showings⟩) ∧
      s.consume.2.Owes length none showings := by
  rw [h.owed opened]
  by_cases new : s.viewer.seen < showings
  · rw [consume_of_new opened (h.published.symm ▸ new), if_pos new, h.published]
    exact ⟨rfl, h.length, h.published, Nat.le_refl _, fun _ => (if_neg (Nat.lt_irrefl _)).symm⟩
  · rw [consume_of_old (h.published.symm ▸ Nat.not_lt.mp new), if_neg new]
    exact ⟨rfl, h.length, h.published, h.seen, fun _ => (if_neg new).symm⟩

end Seat.Owes

end MotionCast
