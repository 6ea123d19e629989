import MotionCast.Server.Basic

/-! What one event does to the server, part by part: the registry, the broadcast and the flag that
asks for a check. `Change` lists the ways in which an event changes the server, and `after` is the
server that a history of events leads to. -/

namespace MotionCast.Server

variable {α : Type}

/-! ### Packets -/

/-- What a packet asks of the server, if it is a client's and can be read. -/
def request? (packet : Bytes) : Option Request :=
  match Header.decode packet with
  | .error _ => none
  | .ok header => if header.isClient then (Request.decode packet).toOption else none

/-- The id of the subscription to motion data that a datagram asks for, if it asks for one. -/
def subscriptionId? (datagram : Bytes) : Option UInt32 :=
  match request? (datagram.take receiveLimit) with
  | some (.data id _) => some id
  | _ => none

/-- A packet is handled by the request in it, or ignored. -/
theorem handlePacket_eq [DecidableEq α] (s : Server α) (client : α) (packet : Bytes) (ok : Bool) :
    s.handlePacket client packet ok =
      match request? packet with
      | none => ([], s)
      | some r => s.handleRequest client ok r := by
  unfold handlePacket request?
  cases Header.decode packet with
  | error _ => rfl
  | ok header =>
    simp only
    cases header.isClient with
    | false => rfl
    | true => cases Request.decode packet <;> rfl

theorem reply_snd (s : Server α) (client : α) (size : Nat) (written : Except WireError Bytes) :
    ∃ answer, (s.reply client size written).2 = { s with answer } := by
  cases written with
  | error _ => exact ⟨s.answer, rfl⟩
  | ok answer => exact ⟨answer, rfl⟩

theorem replySlots_snd (s : Server α) (client : α) (id : UInt32) (slots : Bytes) :
    ∃ answer, (s.replySlots client id slots).2 = { s with answer } := by
  induction slots generalizing s with
  | nil => exact ⟨s.answer, rfl⟩
  | cons slot rest ih =>
    obtain ⟨first, hfirst⟩ := reply_snd s client Answer.infoSize
      (Answer.encodeInfo id (s.slotInfo slot) s.answer)
    obtain ⟨answer, h⟩ := ih { s with answer := first }
    refine ⟨answer, ?_⟩
    simp only [replySlots, hfirst]
    exact h

theorem handlePacket_subscribe [DecidableEq α] {datagram : Bytes} {id : UInt32}
    (h : subscriptionId? datagram = some id) (s : Server α) (client : α) (ok : Bool) :
    s.handlePacket client (datagram.take receiveLimit) ok = ([], s.subscribe client id ok) := by
  rw [handlePacket_eq]
  unfold subscriptionId? at h
  split at h
  · rename_i hr
    rw [hr, ← Option.some.inj h]
    rfl
  · contradiction

/-- A packet that is no subscription changes at most the buffer for answers. -/
theorem handlePacket_frame [DecidableEq α] {datagram : Bytes} (h : subscriptionId? datagram = none)
    (s : Server α) (client : α) (ok : Bool) :
    ∃ answer, (s.handlePacket client (datagram.take receiveLimit) ok).2 = { s with answer } := by
  rw [handlePacket_eq]
  unfold subscriptionId? at h
  cases hr : request? (datagram.take receiveLimit) with
  | none => exact ⟨s.answer, rfl⟩
  | some r =>
    cases r with
    | version id => exact reply_snd s client _ _
    | info id slots => exact replySlots_snd s client id slots
    | data id _ => simp [hr] at h

/-! ### Operations -/

@[simp] theorem stopBroadcast_registry (s : Server α) : s.stopBroadcast.registry = s.registry := by
  unfold stopBroadcast
  split <;> rfl

@[simp] theorem stopBroadcast_config (s : Server α) : s.stopBroadcast.config = s.config := by
  unfold stopBroadcast
  split <;> rfl

theorem stopBroadcast_broadcast (s : Server α) : s.stopBroadcast.broadcast = none := by
  unfold stopBroadcast
  split
  · assumption
  · rfl

@[simp] theorem check_registry (s : Server α) (age : Bool) :
    (s.check age).registry = (s.registry.sweep age).2 := by
  unfold check
  simp only
  split <;> simp

@[simp] theorem check_config (s : Server α) (age : Bool) : (s.check age).config = s.config := by
  unfold check
  simp only
  split <;> simp

theorem check_broadcast (s : Server α) (age : Bool) :
    (s.check age).broadcast = none ∨ (s.check age).broadcast = s.broadcast := by
  unfold check
  simp only
  split
  · exact .inl (stopBroadcast_broadcast _)
  · exact .inr rfl

/-- The check for silent clients, if it is due. -/
def settle (s : Server α) : Server α := if s.checkDue then s.check false else s

theorem settle_registry (s : Server α) :
    s.settle.registry = if s.checkDue then s.registry.evict.2 else s.registry := by
  unfold settle
  split
  · exact check_registry s false
  · rfl

/-- What a check keeps is kept. -/
theorem settle_keeps {β : Type} (part : Server α → β) (kept : ∀ s, part (s.check false) = part s)
    (s : Server α) : part s.settle = part s := by
  unfold settle
  split
  · exact kept s
  · rfl

@[simp] theorem settle_config (s : Server α) : s.settle.config = s.config :=
  settle_keeps (·.config) (check_config · false) s

theorem settle_broadcast (s : Server α) :
    s.settle.broadcast = none ∨ s.settle.broadcast = s.broadcast := by
  unfold settle
  split
  · exact check_broadcast s false
  · exact .inr rfl

@[simp] theorem subscribe_registry [DecidableEq α] (s : Server α) (client : α) (id : UInt32)
    (ok : Bool) : (s.subscribe client id ok).registry = (s.registry.subscribe client id).2 := by
  unfold subscribe startBroadcast
  simp only
  repeat' split <;> try rfl

@[simp] theorem subscribe_checkDue [DecidableEq α] (s : Server α) (client : α) (id : UInt32)
    (ok : Bool) : (s.subscribe client id ok).checkDue = s.checkDue := by
  unfold subscribe startBroadcast
  simp only
  repeat' split <;> try rfl

@[simp] theorem subscribe_config [DecidableEq α] (s : Server α) (client : α) (id : UInt32)
    (ok : Bool) : (s.subscribe client id ok).config = s.config := by
  unfold subscribe startBroadcast
  simp only
  repeat' split <;> try rfl

theorem subscribe_broadcast [DecidableEq α] (s : Server α) (client : α) (id : UInt32)
    (ok : Bool) :
    (s.subscribe client id ok).broadcast = none ∨
      (s.subscribe client id ok).broadcast = s.broadcast ∨
      s.broadcast = none ∧ (s.subscribe client id ok).broadcast =
        some { template := DataTemplate.new (SlotInfo.controller s.config.slot true) } := by
  unfold subscribe startBroadcast
  cases s.broadcast with
  | some b => exact .inr (.inl rfl)
  | none =>
    cases ok with
    | false => exact .inl rfl
    | true => exact .inr (.inr ⟨rfl, rfl⟩)

/-- The next round of the broadcast counts a silence against every client. -/
def roundDue (s : Server α) : Bool :=
  s.broadcast.any fun b => (b.packetNumber + 1) % s.checkPeriod = 0

@[simp] theorem round_config (s : Server α) (sample : Motion) :
    (s.round sample).2.config = s.config := by
  unfold round
  split
  · rfl
  · simp only
    split <;> rfl

theorem round_registry (s : Server α) (sample : Motion) :
    (s.round sample).2.registry = if s.roundDue then s.registry.ageAll else s.registry := by
  unfold round roundDue
  cases hb : s.broadcast with
  | none => rfl
  | some b =>
    by_cases due : (b.packetNumber + 1) % s.checkPeriod = 0 <;>
      simp_all [checkPeriod]

theorem round_checkDue (s : Server α) (sample : Motion) :
    (s.round sample).2.checkDue = (s.roundDue || s.checkDue) := by
  unfold round roundDue
  cases hb : s.broadcast with
  | none => rfl
  | some b =>
    by_cases due : (b.packetNumber + 1) % s.checkPeriod = 0 <;>
      simp_all [checkPeriod]

/-- A round fills the template, stamps it for each client, and keeps it as the last stamp left
it. -/
theorem round_sends {s : Server α} {b : Broadcast} (hb : s.broadcast = some b) (sample : Motion) :
    let filled := stampAll (b.template.setFrame (b.packetNumber + 1) sample) s.registry.clients
    (s.round sample).1 = filled.1 ∧
      (s.round sample).2.broadcast =
        some { template := filled.2, packetNumber := b.packetNumber + 1 } ∧
      (s.round sample).2.packetsSent = s.packetsSent + filled.1.length := by
  unfold round
  rw [hb]
  simp only
  split <;> exact ⟨rfl, rfl, rfl⟩

/-! ### Events -/

/-- The ways in which an event changes the server. -/
inductive Change [DecidableEq α] (s : Server α) : Event α → Server α → Prop where
  /-- The server is closed. -/
  | ignored {e : Event α} (closed : s.closed = true) (notRound : ∀ sample, e ≠ .round sample) :
    Change s e s
  /-- The datagram is answered or ignored. -/
  | answered (client : α) (datagram : Bytes) (ok : Bool) (answer : Bytes)
    (opened : s.closed = false) (other : subscriptionId? datagram = none) :
    Change s (.datagram client datagram ok) { s with answer }.settle
  /-- The datagram is a request for motion data. -/
  | subscribed (client : α) (datagram : Bytes) (ok : Bool) (id : UInt32)
    (opened : s.closed = false) (asked : subscriptionId? datagram = some id) :
    Change s (.datagram client datagram ok) (s.subscribe client id ok).settle
  | silent (opened : s.closed = false) : Change s .timeout (s.check true)
  | sent (sample : Motion) : Change s (.round sample) (s.round sample).2
  | shut (opened : s.closed = false) :
    Change s .shutdown { s.stopBroadcast with registry := s.registry.clear, closed := true }

theorem receive_eq [DecidableEq α] {s : Server α} (opened : s.closed = false) (client : α)
    (datagram : Bytes) (ok : Bool) :
    s.receive client datagram ok =
      ((s.handlePacket client (datagram.take receiveLimit) ok).1,
        (s.handlePacket client (datagram.take receiveLimit) ok).2.settle) := by
  rw [receive, opened]
  rfl

theorem Change.config [DecidableEq α] {s t : Server α} {e : Event α} (c : Change s e t) :
    t.config = s.config := by
  cases c with
  | ignored _ _ => rfl
  | answered client datagram ok answer _ _ => exact settle_config _
  | subscribed client datagram ok id _ _ => rw [settle_config, subscribe_config]
  | silent _ => exact check_config s true
  | sent sample => exact round_config s sample
  | shut _ => exact stopBroadcast_config s

/-- An event stops the broadcast, leaves it as it is, starts one with an empty packet and no rounds,
or is a round of it. -/
theorem Change.broadcast [DecidableEq α] {s t : Server α} {e : Event α} (c : Change s e t) :
    t.broadcast = none ∨ t.broadcast = s.broadcast ∨
      (s.broadcast = none ∧ t.broadcast =
        some { template := DataTemplate.new (SlotInfo.controller s.config.slot true) }) ∨
      ∃ sample, e = .round sample ∧ s.broadcast ≠ none := by
  cases c with
  | ignored _ _ => exact .inr (.inl rfl)
  | answered client datagram ok answer _ _ => exact (settle_broadcast _).imp id .inl
  | subscribed client datagram ok id _ _ =>
    rcases settle_broadcast (s.subscribe client id ok) with stopped | same
    · exact .inl stopped
    · rw [same]
      exact (subscribe_broadcast s client id ok).imp_right (.imp_right .inl)
  | silent _ => exact (check_broadcast s true).imp id .inl
  | sent sample =>
    cases hb : s.broadcast with
    | none => exact .inl (by rw [round, hb]; exact hb)
    | some b => exact .inr (.inr (.inr ⟨sample, rfl, nofun⟩))
  | shut _ => exact .inl (stopBroadcast_broadcast s)

/-- Every event changes the server in one of these ways. -/
theorem change_step [DecidableEq α] (s : Server α) (e : Event α) : Change s e (s.step e).2 := by
  cases hc : s.closed with
  | true =>
    cases e with
    | round sample => exact .sent sample
    | datagram client datagram ok =>
      simp only [step, receive, hc]
      exact .ignored hc (by simp)
    | timeout =>
      simp only [step, timeout, hc]
      exact .ignored hc (by simp)
    | shutdown =>
      simp only [step, shutdown, hc]
      exact .ignored hc (by simp)
  | false =>
    cases e with
    | round sample => exact .sent sample
    | datagram client datagram ok =>
      rw [step, receive_eq hc]
      cases hs : subscriptionId? datagram with
      | some id =>
        rw [handlePacket_subscribe hs]
        exact .subscribed client datagram ok id hc hs
      | none =>
        obtain ⟨answer, h⟩ := handlePacket_frame hs s client ok
        rw [h]
        exact .answered client datagram ok answer hc hs
    | timeout =>
      simp only [step, timeout, hc]
      exact .silent hc
    | shutdown =>
      simp only [step, shutdown, hc, stopBroadcast_registry]
      exact .shut hc

/-! ### Histories -/

section History

variable [DecidableEq α]

theorem run_append (s : Server α) (before rest : List (Event α)) :
    s.run (before ++ rest) =
      ((s.run before).1 ++ ((s.run before).2.run rest).1, ((s.run before).2.run rest).2) := by
  induction before generalizing s with
  | nil => rfl
  | cons e before ih =>
    simp only [List.cons_append, run, ih, List.append_assoc]

theorem run_snoc (s : Server α) (events : List (Event α)) (e : Event α) :
    (s.run (events ++ [e])).2 = ((s.run events).2.step e).2 := by
  rw [run_append]
  rfl

/-- A fact about each server on a run, from the first one and from each step. -/
theorem run_induction (s : Server α) {P : List (Event α) → Server α → Prop} (start : P [] s)
    (step : ∀ past e, P past (s.run past).2 → P (past ++ [e]) ((s.run past).2.step e).2)
    (events : List (Event α)) : P events (s.run events).2 := by
  rw [← events.reverse_reverse]
  induction events.reverse with
  | nil => exact start
  | cons e earlier ih =>
    rw [List.reverse_cons, run_snoc]
    exact step _ e ih

/-- The server after a history of events. -/
def after (config : ServerConfig) (history : List (Event α)) : Server α :=
  ((Server.new config).run history).2

theorem after_append (config : ServerConfig) (history events : List (Event α)) :
    after config (history ++ events) = ((after config history).run events).2 := by
  rw [after, run_append]
  rfl

theorem after_snoc (config : ServerConfig) (history : List (Event α)) (e : Event α) :
    after config (history ++ [e]) = ((after config history).step e).2 :=
  after_append config history [e]

/-- A fact about each server that a history leads to, from the first one and from each step. -/
theorem after_induction (config : ServerConfig) {P : List (Event α) → Server α → Prop}
    (start : P [] (Server.new config))
    (step : ∀ history e, P history (after config history) →
      P (history ++ [e]) ((after config history).step e).2) (history : List (Event α)) :
    P history (after config history) :=
  run_induction _ start step history

theorem config_after (config : ServerConfig) (history : List (Event α)) :
    (after config history).config = config :=
  after_induction config (P := fun _ s => s.config = config) rfl
    (fun _ e ih => (change_step _ e).config.trans ih) history

/-- A value that goes along with a history: `next` updates it at each event, given the server before
the event. -/
def along {β : Type} (next : Server α → Event α → β → β) (s : Server α) (b : β) :
    List (Event α) → β
  | [] => b
  | e :: rest => along next (s.step e).2 (next s e b) rest

theorem along_snoc {β : Type} (next : Server α → Event α → β → β) (s : Server α) (b : β)
    (history : List (Event α)) (e : Event α) :
    along next s b (history ++ [e]) = next (s.run history).2 e (along next s b history) := by
  induction history generalizing s b with
  | nil => rfl
  | cons first rest ih => exact ih _ _

end History

end MotionCast.Server
