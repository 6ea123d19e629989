import MotionCast.Bytes
import MotionCast.Channel.Feed

/-! The audience of a capture: each viewer has a feed of its own, so that a slow one does not hold
up the others. -/

namespace MotionCast

/-- A place in the audience. It is kept, with its feed closed, after its viewer has left. -/
structure Seat where
  feed : Feed Bytes
  viewer : Viewer := {}

/-- What a viewer got: a frame and the number of its publication to that viewer. -/
structure Delivery where
  frame : Bytes
  generation : Nat
deriving DecidableEq

namespace Seat

/-- The viewer reads at once to the end, if there is something new. -/
def consume (s : Seat) : Option Delivery × Seat :=
  match s.feed.consume? s.viewer with
  | none => (none, s)
  | some (reading, viewer) =>
    (some ⟨reading.value, reading.generation⟩,
      { feed := s.feed.release reading.generation, viewer })

/-- Shows a frame, which is written over the one shown before. -/
def display (s : Seat) (frame : Bytes) : Seat :=
  { s with feed := s.feed.publish (s.feed.value.copyOver frame) }

/-- The viewer leaves. -/
def leave (s : Seat) : Seat := { s with feed := s.feed.close }

end Seat

/-- The seats in the order in which they were taken, and the list of those that frames are shown
to. -/
structure Audience where
  frameLength : Nat
  seats : List Seat := []
  /-- The seats whose viewers are registered, in the order in which they came. -/
  registered : List Nat := []

namespace Audience

/-- The number of viewers who are registered. -/
def size (a : Audience) : Nat := a.registered.length

/-- A viewer joins: the number of the new seat, which is entered at the end of the list. -/
def subscribe (a : Audience) : Nat × Audience :=
  (a.seats.length,
    { a with
      seats := a.seats ++ [{ feed := Feed.new (Bytes.zeros a.frameLength) }]
      registered := a.registered ++ [a.seats.length] })

/-- A viewer leaves: its seat is looked for in the list and taken out of it. False when it is not in
the list. -/
def unsubscribe (a : Audience) (seat : Nat) : Bool × Audience :=
  match a.registered.idxOf? seat with
  | none => (false, a)
  | some index =>
    (true, { a with
      seats := a.seats.modify seat Seat.leave
      registered := a.registered.eraseIdx index })

/-- A viewer reads: what it got. -/
def consume (a : Audience) (seat : Nat) : Option Delivery × Audience :=
  match a.seats[seat]? with
  | none => (none, a)
  | some s => (s.consume.1, { a with seats := a.seats.set seat s.consume.2 })

/-- There is something that a viewer has not seen, even if it has left. -/
def hasNew (a : Audience) (seat : Nat) : Bool :=
  a.seats[seat]?.any fun s => s.feed.hasNew s.viewer

/-- Shows a frame to all who are registered, one after another. -/
def publish (a : Audience) (frame : Bytes) : Audience :=
  { a with
    seats := a.registered.foldl (fun seats seat => seats.modify seat (·.display frame)) a.seats }

end Audience

end MotionCast
