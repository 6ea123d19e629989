import MotionCast.Server.Config
import MotionCast.Server.Error
import MotionCast.Server.Registry
import MotionCast.Server.State
import MotionCast.Wire.Answer
import MotionCast.Wire.Request

/-! The server: it answers requests about its version and its slots, keeps the clients that
subscribe to motion data, and sends them a round of packets for each sample. The source of motion
runs while there are clients; a client that falls silent is dropped. -/

namespace MotionCast

/-- What the server knows of its source of motion. -/
structure SourceRecord where
  /-- How often it was started, failures included. -/
  starts : Nat := 0
  /-- How often a start succeeded. -/
  successes : Nat := 0
  stops : Nat := 0
  running : Bool := false
deriving DecidableEq

/-- A broadcast that goes on: the packet that is filled for each round, and the rounds so far. -/
structure Broadcast where
  template : DataTemplate
  packetNumber : UInt32 := 0
deriving DecidableEq

/-- A packet and the address to which it is sent. -/
structure Datagram (α : Type) where
  receiver : α
  packet : Bytes
deriving DecidableEq

/-- The state of the server. -/
structure Server (α : Type) where
  config : ServerConfig
  registry : Registry α
  broadcast : Option Broadcast := none
  state : BroadcastState := .idle
  /-- Clients were found silent, so that the next request is followed by a look for those to
  drop. -/
  checkDue : Bool := false
  source : SourceRecord := {}
  /-- The buffer for answers, which holds the last one. -/
  answer : Bytes := Bytes.zeros Answer.infoSize
  /-- How many packets of motion data were sent, of fewer than 2 ^ 64. -/
  packetsSent : Nat := 0
  /-- The server was shut down. -/
  closed : Bool := false
deriving DecidableEq

namespace Server

variable {α : Type}

/-- The most bytes of a datagram that are read. -/
def receiveLimit : Nat := 1024

/-- A server that has received nothing. -/
def new (config : ServerConfig) : Server α where
  config
  registry := { limit := config.clientTimeoutLimit }

/-- A server that has received nothing, given what binding its endpoint comes to. Its wait for a
datagram must have a length. -/
def listen (config : ServerConfig) (bound : Except String Unit) : Except ServeError (Server α) :=
  match bound with
  | .error reason => .error (.bind config.endpoint reason)
  | .ok _ => if config.receiveTimeout = 0 then .error (.io noTimeout) else .ok (new config)

/-- What is in a slot. -/
def slotInfo (s : Server α) (slot : UInt8) : SlotInfo :=
  if slot = s.config.slot then SlotInfo.controller slot s.source.running else SlotInfo.empty slot

/-- Sends the first `size` bytes of the answer that was written into the buffer. -/
def reply (s : Server α) (client : α) (size : Nat) (written : Except WireError Bytes) :
    List (Datagram α) × Server α :=
  match written with
  | .error _ => ([], s)
  | .ok answer => ([⟨client, answer.take size⟩], { s with answer })

/-- Answers a question about the version. -/
def replyVersion (s : Server α) (client : α) (id : UInt32) : List (Datagram α) × Server α :=
  s.reply client Answer.versionSize (Answer.encodeVersion id s.answer)

/-- Answers a question about slots, each in a packet of its own. -/
def replySlots (s : Server α) (client : α) (id : UInt32) : Bytes → List (Datagram α) × Server α
  | [] => ([], s)
  | slot :: rest =>
    let written := Answer.encodeInfo id (s.slotInfo slot) s.answer
    let (first, s) := s.reply client Answer.infoSize written
    let (others, s) := s.replySlots client id rest
    (first ++ others, s)

/-- Starts the source and then the broadcast, given whether the start succeeds. When it fails, the
next request for data tries again. -/
def startBroadcast (s : Server α) (succeeds : Bool) : Server α :=
  let s := { s with
    state := .starting
    source := { s.source with starts := s.source.starts + 1 } }
  if succeeds then
    { s with
      source := { s.source with successes := s.source.successes + 1, running := true }
      broadcast := some { template := DataTemplate.new (SlotInfo.controller s.config.slot true) }
      state := .broadcasting }
  else { s with state := .idle }

/-- Stops the broadcast, if there is one, and then the source. -/
def stopBroadcast (s : Server α) : Server α :=
  match s.broadcast with
  | none => s
  | some _ =>
    let s := { s with state := .stopping, broadcast := none }
    { s with
      source := { s.source with stops := s.source.stops + 1, running := false }
      state := .idle }

/-- A request for data. -/
def subscribe [DecidableEq α] (s : Server α) (client : α) (id : UInt32) (succeeds : Bool) :
    Server α :=
  let s := { s with registry := (s.registry.subscribe client id).2 }
  if s.broadcast.isNone then s.startBroadcast succeeds else s

/-- Handles a request. -/
def handleRequest [DecidableEq α] (s : Server α) (client : α) (succeeds : Bool) :
    Request → List (Datagram α) × Server α
  | .version id => s.replyVersion client id
  | .info id slots => s.replySlots client id slots
  | .data id _ => ([], s.subscribe client id succeeds)

/-- Handles a packet. Packets of servers and those that cannot be read are ignored. -/
def handlePacket [DecidableEq α] (s : Server α) (client : α) (packet : Bytes) (succeeds : Bool) :
    List (Datagram α) × Server α :=
  match Header.decode packet with
  | .error _ => ([], s)
  | .ok header =>
    if !header.isClient then ([], s)
    else
      match Request.decode packet with
      | .error _ => ([], s)
      | .ok request => s.handleRequest client succeeds request

/-- Drops the clients that were silent too often, when `age` is set after counting one more silence,
and stops the broadcast when nobody is left. -/
def check (s : Server α) (age : Bool) : Server α :=
  let s := { s with checkDue := false, registry := (s.registry.sweep age).2 }
  if s.broadcast.isSome && s.registry.isEmpty then s.stopBroadcast else s

/-- A datagram comes in. Bytes past the limit are lost. `succeeds` says what starting the source
would come to. -/
def receive [DecidableEq α] (s : Server α) (client : α) (datagram : Bytes) (succeeds : Bool) :
    List (Datagram α) × Server α :=
  if s.closed then ([], s)
  else
    let (sent, s) := s.handlePacket client (datagram.take receiveLimit) succeeds
    (sent, if s.checkDue then s.check false else s)

/-- Nothing came in for the length of the receive timeout. -/
def timeout (s : Server α) : Server α := if s.closed then s else s.check true

/-- The number of rounds after which silence counts. -/
def checkPeriod (s : Server α) : UInt32 := max s.config.timeoutCheckPeriod 1

/-- Stamps the packet for each client in turn. -/
def stampAll (template : DataTemplate) : List (Client α) → List (Datagram α) × DataTemplate
  | [] => ([], template)
  | client :: rest =>
    let stamped := template.stamp client.id
    let (others, last) := stampAll stamped rest
    (⟨client.address, stamped.packet⟩ :: others, last)

/-- Sends a round of packets with a sample, if a broadcast goes on. -/
def round (s : Server α) (sample : Motion) : List (Datagram α) × Server α :=
  match s.broadcast with
  | none => ([], s)
  | some b =>
    let packetNumber := b.packetNumber + 1
    let (sent, template) := stampAll (b.template.setFrame packetNumber sample) s.registry.clients
    let s := { s with
      broadcast := some { template, packetNumber }
      packetsSent := s.packetsSent + sent.length }
    if packetNumber % s.checkPeriod = 0 then
      (sent, { s with registry := s.registry.ageAll, checkDue := true })
    else (sent, s)

/-- Shuts the server down for good. -/
def shutdown (s : Server α) : Server α :=
  if s.closed then s
  else
    let s := s.stopBroadcast
    { s with registry := s.registry.clear, closed := true }

/-- What can happen to the server. -/
inductive Event (α : Type) where
  | datagram (client : α) (bytes : Bytes) (succeeds : Bool)
  | timeout
  | round (sample : Motion)
  | shutdown

/-- One event: the datagrams that are sent, and the server after it. -/
def step [DecidableEq α] (s : Server α) : Event α → List (Datagram α) × Server α
  | .datagram client bytes succeeds => s.receive client bytes succeeds
  | .timeout => ([], s.timeout)
  | .round sample => s.round sample
  | .shutdown => ([], s.shutdown)

/-- Events in a row. -/
def run [DecidableEq α] (s : Server α) : List (Event α) → List (Datagram α) × Server α
  | [] => ([], s)
  | event :: rest =>
    let (first, s) := s.step event
    let (others, s) := s.run rest
    (first ++ others, s)

end Server

end MotionCast
