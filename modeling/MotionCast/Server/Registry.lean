/-! The clients that subscribed to motion data, in the order in which they joined, each with what
counts against it since its last request. -/

namespace MotionCast

/-- A client. -/
structure Client (α : Type) where
  address : α
  /-- The id of the client's last request, which its packets repeat. -/
  id : UInt32
  /-- How often the client was found silent since its last request. -/
  timeouts : UInt32 := 0
deriving DecidableEq, Repr

/-- What a subscription came to. -/
inductive Subscribed where
  | added
  | refreshed
deriving DecidableEq, Repr

/-- The clients, and how often one may be found silent. -/
structure Registry (α : Type) where
  limit : UInt32
  clients : List (Client α) := []
deriving DecidableEq

namespace Registry

variable {α : Type}

/-- The client at an address. -/
def get? [DecidableEq α] (r : Registry α) (address : α) : Option (Client α) :=
  r.clients.find? fun c => c.address = address

/-- There is a client at an address. -/
def contains [DecidableEq α] (r : Registry α) (address : α) : Bool := (r.get? address).isSome

/-- A request for data: a new client joins at the end, and an old one keeps its place and counts as
never silent. -/
def subscribe [DecidableEq α] (r : Registry α) (address : α) (id : UInt32) :
    Subscribed × Registry α :=
  if r.contains address then
    (.refreshed, { r with
      clients := r.clients.map fun c =>
        if c.address = address then { c with id, timeouts := 0 } else c })
  else (.added, { r with clients := r.clients ++ [{ address, id }] })

/-- Every client is found silent once more. -/
def ageAll (r : Registry α) : Registry α :=
  { r with clients := r.clients.map fun c => { c with timeouts := c.timeouts + 1 } }

/-- A client may stay. -/
def keeps (r : Registry α) (c : Client α) : Bool := c.timeouts ≤ r.limit

/-- Drops the clients that were found silent too often: their addresses, and who is left. -/
def evict (r : Registry α) : List α × Registry α :=
  ((r.clients.filter fun c => !r.keeps c).map (·.address),
    { r with clients := r.clients.filter r.keeps })

/-- Drops clients, when `age` is set after every client was found silent once more. -/
def sweep (r : Registry α) (age : Bool) : List α × Registry α :=
  if age then r.ageAll.evict else r.evict

/-- Drops all clients. -/
def clear (r : Registry α) : Registry α := { r with clients := [] }

/-- There is no client. -/
def isEmpty (r : Registry α) : Bool := r.clients.isEmpty

end Registry

end MotionCast
