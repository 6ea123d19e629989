/-! A mailbox for the latest value. The sender fills a buffer of its own and swaps it with the one
in flight, and the receiver swaps that with its own, so that three buffers go round and none is
copied. A flush wakes a waiting receiver without a value. -/

namespace MotionCast

/-- What a wait for a value comes to. -/
inductive Receipt where
  | data
  | flushed
  | timeout
deriving DecidableEq, Repr

/-- A mailbox with one buffer in flight. -/
structure Mailbox (α : Type) where
  inFlight : α
  /-- The buffer in flight was sent and not yet received. -/
  hasData : Bool := false
  /-- A flush was not yet noticed. -/
  flushed : Bool := false
  /-- How often a value was sent, of fewer than 2 ^ 64 times. -/
  sent : Nat := 0

namespace Mailbox

variable {α : Type}

/-- A mailbox whose first buffer is not a value. -/
def new (first : α) : Mailbox α := { inFlight := first }

/-- Sends the buffer `fill`. The sender gets back the buffer that was in flight. -/
def send (m : Mailbox α) (fill : α) : α × Mailbox α :=
  (m.inFlight, { m with inFlight := fill, hasData := true, sent := m.sent + 1 })

/-- Sends a value if there is one. -/
def sendIfAny (m : Mailbox α) : Option α → Mailbox α
  | none => m
  | some value => (m.send value).2

/-- Receives within a time into the buffer `received`: the value in flight, else a flush, else
nothing. -/
def receive (m : Mailbox α) (received : α) : Receipt × α × Mailbox α :=
  if m.hasData then (.data, m.inFlight, { m with inFlight := received, hasData := false })
  else if m.flushed then (.flushed, received, { m with flushed := false })
  else (.timeout, received, m)

/-- Receives without a limit of time. Nothing while the wait would go on. -/
def wait? (m : Mailbox α) (received : α) : Option (Receipt × α × Mailbox α) :=
  if m.hasData || m.flushed then some (m.receive received) else none

/-- Receives without waiting. A flush stays for the next wait. -/
def poll (m : Mailbox α) (received : α) : Bool × α × Mailbox α :=
  if m.hasData then (true, m.inFlight, { m with inFlight := received, hasData := false })
  else (false, received, m)

/-- Wakes the receiver. -/
def flush (m : Mailbox α) : Mailbox α := { m with flushed := true }

/-- No value waits to be received. -/
def wasReceived (m : Mailbox α) : Bool := !m.hasData

end Mailbox

end MotionCast
