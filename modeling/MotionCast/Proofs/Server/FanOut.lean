import MotionCast.Proofs.Server.Hearing
import MotionCast.Proofs.Wire.DataAnswer

/-! What a round of a broadcast sends. One template is stamped for each client in turn, and still
every client gets a packet of its own: the id of its last request, the number of the round in the
session, and the sample, with nothing left of other clients or of earlier rounds. -/

namespace MotionCast.Server

variable {α : Type}

/-- An event is a round. -/
def Event.isRound : Event α → Bool
  | .round _ => true
  | _ => false

/-- How the packets of a broadcast show the slot of its controller. -/
def broadcastSlot (config : ServerConfig) : SlotInfo :=
  { SlotInfo.controller config.slot true with connected := true }

/-! ### One round -/

/-- Stamping makes a packet for each client, whatever the template held for the one before. -/
theorem stampAll_eq {t : DataTemplate} {v : Answer.DataView} (h : t.Holds v)
    (clients : List (Client α)) :
    (stampAll t clients).1 =
        clients.map (fun c => ⟨c.address, Answer.DataView.packet { v with id := c.id }⟩) ∧
      ∃ id, (stampAll t clients).2.Holds { v with id } := by
  induction clients generalizing t v with
  | nil => exact ⟨rfl, v.id, h⟩
  | cons client rest ih =>
    obtain ⟨sent, last⟩ := ih (h.stamp client.id)
    refine ⟨?_, last⟩
    rw [List.map_cons, ← h.stamp_packet, ← sent]
    rfl

/-- A broadcast that has sent some rounds, with a template for a slot. -/
structure Sending (b : Broadcast) (slot : SlotInfo) (rounds : Nat) : Prop where
  number : b.packetNumber = UInt32.ofNat rounds
  template : ∃ id packetNumber motion, b.template.Holds { id, slot, packetNumber, motion }

theorem Sending.new (config : ServerConfig) :
    Sending { template := DataTemplate.new (SlotInfo.controller config.slot true) }
      (broadcastSlot config) 0 :=
  ⟨rfl, 0, 0, {}, DataTemplate.holds_new _⟩

/-- A round sends each client a packet of its own, and the broadcast has sent one round more. -/
theorem Sending.round {s : Server α} {b : Broadcast} {slot : SlotInfo} {rounds : Nat}
    (h : Sending b slot rounds) (there : s.broadcast = some b) (sample : Motion) :
    (s.round sample).1 = s.registry.clients.map (fun c => ⟨c.address, Answer.DataView.packet
        { id := c.id, slot, packetNumber := UInt32.ofNat (rounds + 1), motion := sample }⟩) ∧
      (s.round sample).2.packetsSent = s.packetsSent + s.registry.clients.length ∧
      ∃ b', (s.round sample).2.broadcast = some b' ∧ Sending b' slot (rounds + 1) := by
  obtain ⟨number, id, packetNumber, motion, holds⟩ := h
  have next : b.packetNumber + 1 = UInt32.ofNat (rounds + 1) := by
    rw [number, UInt32.ofNat_add]
    rfl
  obtain ⟨sent, broadcast, packetsSent⟩ := round_sends there sample
  obtain ⟨stamped, last, left⟩ :=
    stampAll_eq (holds.setFrame (b.packetNumber + 1) sample) s.registry.clients
  rw [stamped, next] at sent
  rw [stamped, List.length_map] at packetsSent
  exact ⟨sent, packetsSent, _, broadcast, next, last, _, _, left⟩

/-! ### Sessions -/

variable [DecidableEq α]

/-- A session of the broadcast: an event opens it after some history, and it goes on during
others. -/
structure Session (config : ServerConfig) (before : List (Event α)) (opening : Event α)
    (during : List (Event α)) : Prop where
  idle : (after config before).broadcast = none
  goesOn : ∀ past, past <+: during → (after config (before ++ opening :: past)).broadcast ≠ none

variable {config : ServerConfig} {before during : List (Event α)} {opening : Event α}

namespace Session

theorem start (idle : (after config before).broadcast = none)
    (opens : (after config (before ++ [opening])).broadcast ≠ none) :
    Session config before opening [] := by
  refine ⟨idle, fun past nothing => ?_⟩
  rw [List.prefix_nil.mp nothing]
  exact opens

theorem snoc {e : Event α} (h : Session config before opening during)
    (stays : (after config (before ++ opening :: (during ++ [e]))).broadcast ≠ none) :
    Session config before opening (during ++ [e]) := by
  refine ⟨h.idle, fun past earlier => ?_⟩
  rcases List.prefix_concat_iff.mp earlier with rfl | earlier
  · exact stays
  · exact h.goesOn past earlier

theorem prior {past : List (Event α)} (h : Session config before opening during)
    (earlier : past <+: during) : Session config before opening past :=
  ⟨h.idle, fun _ first => h.goesOn _ (first.trans earlier)⟩

end Session

theorem Sending.opened {s t : Server α} {e : Event α} (c : Change s e t)
    (idle : s.broadcast = none) (opens : t.broadcast ≠ none) :
    ∃ b, t.broadcast = some b ∧ Sending b (broadcastSlot s.config) 0 := by
  rcases c.broadcast with none | same | ⟨-, started⟩ | ⟨_, _, busy⟩
  · exact absurd none opens
  · exact absurd (same.trans idle) opens
  · exact ⟨_, started, Sending.new s.config⟩
  · exact absurd idle busy

/-- A broadcast that goes on after an event counts it if it is a round. -/
theorem Sending.goesOn {s : Server α} {b : Broadcast} {slot : SlotInfo} {rounds : Nat}
    (h : Sending b slot rounds) (there : s.broadcast = some b) (e : Event α)
    (stays : (s.step e).2.broadcast ≠ none) :
    ∃ b', (s.step e).2.broadcast = some b' ∧
      Sending b' slot (rounds + [e].countP Event.isRound) := by
  rcases (change_step s e).broadcast with none | same | ⟨none, -⟩ | ⟨sample, rfl, -⟩
  · exact absurd none stays
  · cases e with
    | round sample => exact (h.round there sample).2.2
    | datagram _ _ _ => exact ⟨b, same.trans there, h⟩
    | timeout => exact ⟨b, same.trans there, h⟩
    | shutdown => exact ⟨b, same.trans there, h⟩
  · simp [there] at none
  · exact (h.round there sample).2.2

/-- During a session the broadcast counts the rounds of the session. -/
theorem Session.sending (h : Session config before opening during) :
    ∃ b, (after config (before ++ opening :: during)).broadcast = some b ∧
      Sending b (broadcastSlot config) (during.countP Event.isRound) := by
  have reached (past : List (Event α)) : after config (before ++ opening :: past) =
      ((after config (before ++ [opening])).run past).2 := by
    rw [← after_append, List.append_assoc, List.singleton_append]
  rw [reached]
  revert h
  refine run_induction (after config (before ++ [opening])) (P := fun past s =>
    Session config before opening past → ∃ b, s.broadcast = some b ∧
      Sending b (broadcastSlot config) (past.countP Event.isRound)) ?_ ?_ during
  · intro h
    have opens := h.goesOn [] (List.prefix_refl _)
    rw [after_snoc] at opens ⊢
    have first := Sending.opened (change_step _ opening) h.idle opens
    rwa [config_after] at first
  · intro past e ih h
    obtain ⟨b, there, sending⟩ := ih (h.prior (List.prefix_append _ _))
    have stays := h.goesOn _ (List.prefix_refl _)
    rw [reached, run_snoc] at stays
    rw [List.countP_append]
    exact sending.goesOn there e stays

/-- Whenever a broadcast goes on, some event has opened its session. -/
theorem exists_session {history : List (Event α)}
    (sending : (after config history).broadcast ≠ none) :
    ∃ before opening during, history = before ++ opening :: during ∧
      Session config before opening during := by
  revert sending
  refine after_induction config (P := fun history s => s.broadcast ≠ none →
    ∃ before opening during, history = before ++ opening :: during ∧
      Session config before opening during) (fun h => absurd rfl h) ?_ history
  intro past e ih sending
  rw [← after_snoc] at sending
  cases hb : (after config past).broadcast with
  | none => exact ⟨past, e, [], rfl, .start hb sending⟩
  | some b =>
    obtain ⟨before, opening, during, rfl, session⟩ := ih (by simp [hb])
    exact ⟨before, opening, during ++ [e], by simp, session.snoc (by simpa using sending)⟩

theorem Session.round (h : Session config before opening during) (sample : Motion) :
    let s : Server α := after config (before ++ opening :: during)
    (s.round sample).1 = s.registry.clients.map (fun c => ⟨c.address, Answer.DataView.packet {
        id := c.id
        slot := broadcastSlot config
        packetNumber := UInt32.ofNat (during.countP Event.isRound + 1)
        motion := sample }⟩) ∧
      (s.round sample).2.packetsSent = s.packetsSent + s.registry.clients.length := by
  obtain ⟨b, there, sending⟩ := h.sending
  obtain ⟨sent, packetsSent, -⟩ := sending.round there sample
  exact ⟨sent, packetsSent⟩

theorem Session.packetNumber (h : Session config before opening during) {sample : Motion}
    {d : Datagram α}
    (sent : d ∈ ((after config (before ++ opening :: during)).step (.round sample)).1)
    {v : Answer.DataView} (read : Answer.decodeData d.packet = .ok v) :
    v.packetNumber = UInt32.ofNat (during.countP Event.isRound + 1) := by
  rw [step, (h.round sample).1, List.mem_map] at sent
  obtain ⟨c, -, rfl⟩ := sent
  rw [Answer.DataView.decodeData_packet] at read
  exact congrArg (·.packetNumber) (Except.ok.inj read).symm

/-- A round of a session sends one packet to each registered client, in the order of the registry.
It verifies and is read as the id of the client's last request, the number of the round and the
sample. -/
theorem fan_out (session : Session config before opening during) (sample : Motion) :
    let history := before ++ opening :: during
    let s : Server α := after config history
    let rounds := during.countP Event.isRound
    let sent := (s.step (.round sample)).1
    sent.map (·.receiver) = s.registry.addresses ∧ s.registry.addresses.Nodup ∧
    (∀ d ∈ sent, d.packet.length = 100 ∧ Packet.verify d.packet = true ∧
      ∃ id, lastId config history d.receiver = some id ∧
        Answer.decodeData d.packet = .ok {
          id
          slot := { SlotInfo.controller config.slot true with connected := true }
          packetNumber := UInt32.ofNat (rounds + 1)
          motion := sample }) ∧
    (s.step (.round sample)).2.packetsSent = s.packetsSent + s.registry.clients.length ∧
    (∀ pause next, (∀ e ∈ pause, e.isRound = false) →
      Session config before opening (during ++ .round sample :: pause) →
      ∀ d ∈ sent, ∀ d' ∈ ((after config (history ++ .round sample :: pause)).step (.round next)).1,
        ∀ v v', Answer.decodeData d.packet = .ok v → Answer.decodeData d'.packet = .ok v' →
          v'.packetNumber = v.packetNumber + 1) := by
  intro history s rounds sent
  obtain ⟨packets, packetsSent⟩ := session.round sample
  have sent_eq : sent = _ := packets
  refine ⟨?_, nodup_after config history, fun d mem => ?_, packetsSent, ?_⟩
  · rw [sent_eq, List.map_map]
    rfl
  · rw [sent_eq, List.mem_map] at mem
    obtain ⟨c, there, rfl⟩ := mem
    exact ⟨Answer.DataView.length_packet _, Answer.DataView.verify_packet _, c.id,
      lastId_after config history c there, Answer.DataView.decodeData_packet _⟩
  · intro pause next quiet goesOn d mem d' mem' v v' read read'
    have none_between : pause.countP Event.isRound = 0 := by
      rw [List.countP_eq_zero]
      intro e there
      simp [quiet e there]
    rw [show history ++ .round sample :: pause =
      before ++ opening :: (during ++ .round sample :: pause) by simp [history]] at mem'
    rw [goesOn.packetNumber mem' read', session.packetNumber mem read, List.countP_append,
      List.countP_cons, none_between]
    simp [Event.isRound]

/-- The second round of a session that a second client joins after the first round. The sample holds
a number that is none. -/
theorem fan_out_to_two :
    let config : ServerConfig := { slot := 2 }
    let ask (client : Nat) (id : UInt32) : Event Nat :=
      .datagram client (Request.data id {}).encode true
    let history := [ask 1 7, .round {}, ask 2 8]
    let sample : Motion := { timestamp := 5, accelX := 0x7FC00001 }
    let sent := ((after config history).step (.round sample)).1
    (after config history).registry.addresses = [1, 2] ∧
      (lastId config history 1 = some 7 ∧ lastId config history 2 = some 8) ∧
      sent.map (·.receiver) = [1, 2] ∧
      ∀ d ∈ sent, ∃ id, lastId config history d.receiver = some id ∧
        Answer.decodeData d.packet = .ok {
          id
          slot := { SlotInfo.controller 2 true with connected := true }
          packetNumber := 2
          motion := sample } := by
  intro config ask history sample sent
  have addresses : (after config history).registry.addresses = [1, 2] := by decide +kernel
  have opened : Session config [] (ask 1 7) [] := .start rfl (by decide +kernel)
  have joined : Session config [] (ask 1 7) [.round {}, ask 2 8] :=
    (opened.snoc (e := .round {}) (by decide +kernel)).snoc (e := ask 2 8) (by decide +kernel)
  obtain ⟨receivers, -, packets, -⟩ := fan_out joined sample
  exact ⟨addresses, by decide +kernel, receivers.trans addresses, fun d mem => (packets d mem).2.2⟩

end MotionCast.Server
