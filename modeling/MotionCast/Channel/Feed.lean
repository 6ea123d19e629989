/-! A feed that shows the latest of the values published on it. Each viewer remembers which
publication it saw last, so that no viewer's reading changes what another one gets. -/

namespace MotionCast

/-- A feed: its value, how many were published, the latest one that a reading of was finished, and
whether the feed is closed. Fewer than 2 ^ 64 values are ever published on it. -/
structure Feed (α : Type) where
  value : α
  published : Nat := 0
  consumed : Nat := 0
  closed : Bool := false

/-- Someone who reads a feed: the number of the publication seen last. -/
structure Viewer where
  seen : Nat := 0
deriving DecidableEq, Repr

/-- A reading that has begun: the value and the number of its publication. -/
structure Reading (α : Type) where
  value : α
  generation : Nat

namespace Feed

variable {α : Type}

/-- A feed on which nothing was published. Its first value cannot be read. -/
def new (first : α) : Feed α := { value := first }

/-- Publishes a value. -/
def publish (f : Feed α) (value : α) : Feed α := { f with value, published := f.published + 1 }

/-- Something was published that the viewer did not see. -/
def hasNew (f : Feed α) (v : Viewer) : Bool := f.published > v.seen

/-- A viewer who reads would have to wait. -/
def waits (f : Feed α) (v : Viewer) : Bool := !f.closed && !f.hasNew v

/-- Begins to read. A viewer of a closed feed, or one that saw the latest value, gets nothing. -/
def consume? (f : Feed α) (v : Viewer) : Option (Reading α × Viewer) :=
  if f.closed || !f.hasNew v then none
  else some (⟨f.value, f.published⟩, ⟨f.published⟩)

/-- Ends the reading of a publication. -/
def release (f : Feed α) (generation : Nat) : Feed α :=
  { f with consumed := max f.consumed generation }

/-- The reading of the latest publication was finished. -/
def wasConsumed (f : Feed α) : Bool := f.consumed ≥ f.published

/-- Closes the feed. -/
def close (f : Feed α) : Feed α := { f with closed := true }

section Consume

variable {f : Feed α} {v : Viewer}

theorem consume?_of_new (opened : f.closed = false) (new : v.seen < f.published) :
    f.consume? v = some (⟨f.value, f.published⟩, ⟨f.published⟩) := by
  simp [consume?, hasNew, opened, new]

theorem consume?_of_closed (closed : f.closed = true) : f.consume? v = none := by
  simp [consume?, closed]

theorem consume?_of_old (old : f.published ≤ v.seen) : f.consume? v = none := by
  simp [consume?, hasNew, Nat.not_lt.mpr old]

end Consume

end Feed

end MotionCast
