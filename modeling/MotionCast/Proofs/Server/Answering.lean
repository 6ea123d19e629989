import Mathlib.Data.List.Forall2
import MotionCast.Proofs.Server.Lifecycle
import MotionCast.Proofs.Wire.Answers
import MotionCast.Proofs.Wire.Grammar

/-! What a datagram comes to. The answers are written into one buffer, one over another, which
always has room for the longest, so that each answer that is sent is the packet for what was asked
and for nothing before it. What cannot be read, or comes from another server, changes nothing. -/

namespace MotionCast

/-! ### Which packets are requests -/

theorem Server.request?_eq_some {packet : Bytes} {r : Request} :
    request? packet = some r ↔
      Request.decode packet = .ok r ∧ packet.take 4 ≠ Header.serverMagic.bytes := by
  unfold request?
  cases read : Header.decode packet with
  | error cause => simp [Request.decode_of_error read]
  | ok header =>
    obtain ⟨start, known⟩ := Header.magic_of_decode read
    rw [← start]
    rcases known with client | server
    · have other : header.magic.bytes ≠ Header.serverMagic.bytes := by
        rw [client]
        decide
      have asked : header.isClient = true := decide_eq_true client
      simp only [asked, if_true, and_iff_left other]
      cases Request.decode packet <;> simp [Except.toOption]
    · have answered : header.isClient = false := by
        rw [Header.isClient, server]
        decide
      simp [answered, server]

theorem Server.request?_eq_none {packet : Bytes} :
    request? packet = none ↔
      (∀ r, Request.decode packet ≠ .ok r) ∨ packet.take 4 = Header.serverMagic.bytes := by
  constructor
  · intro unread
    by_cases server : packet.take 4 = Header.serverMagic.bytes
    · exact .inr server
    · refine .inl fun r read => ?_
      have asked := request?_eq_some.mpr ⟨read, server⟩
      rw [unread] at asked
      contradiction
  · intro h
    cases asked : request? packet with
    | none => rfl
    | some r =>
      obtain ⟨read, client⟩ := request?_eq_some.mp asked
      rcases h with unread | server
      · exact absurd read (unread r)
      · exact absurd server client

theorem Registry.get?_of_only {α : Type} [DecidableEq α] {r : Registry α} {c : Client α}
    (there : c ∈ r.clients) (only : ∀ d ∈ r.clients, d.address = c.address → d = c) :
    r.get? c.address = some c := by
  cases found : r.get? c.address with
  | none =>
    have absent := List.find?_eq_none.mp found c there
    simp at absent
  | some d =>
    have same : d.address = c.address := by simpa using List.find?_some found
    rw [only d (List.mem_of_find?_eq_some found) same]

namespace Server

variable {α : Type}

/-! ### What the operations leave -/

@[simp] theorem stopBroadcast_answer (s : Server α) : s.stopBroadcast.answer = s.answer := by
  unfold stopBroadcast
  split <;> rfl

@[simp] theorem stopBroadcast_closed (s : Server α) : s.stopBroadcast.closed = s.closed := by
  unfold stopBroadcast
  split <;> rfl

@[simp] theorem check_answer (s : Server α) (age : Bool) : (s.check age).answer = s.answer := by
  unfold check
  simp only
  split <;> simp

theorem check_closed (s : Server α) (age : Bool) : (s.check age).closed = s.closed := by
  unfold check
  simp only
  split <;> simp

@[simp] theorem settle_answer (s : Server α) : s.settle.answer = s.answer :=
  settle_keeps (·.answer) (check_answer · false) s

theorem settle_closed (s : Server α) : s.settle.closed = s.closed :=
  settle_keeps (·.closed) (check_closed · false) s

theorem subscribe_frame [DecidableEq α] (s : Server α) (client : α) (id : UInt32) (ok : Bool) :
    (s.subscribe client id ok).answer = s.answer ∧
      (s.subscribe client id ok).closed = s.closed := by
  unfold subscribe startBroadcast
  simp only
  repeat' split <;> try exact ⟨rfl, rfl⟩

@[simp] theorem round_answer (s : Server α) (sample : Motion) :
    (s.round sample).2.answer = s.answer := by
  unfold round
  split
  · rfl
  · simp only
    split <;> rfl

/-! ### Answers -/

section Answers

variable {s : Server α} (room : Answer.infoSize ≤ s.answer.length) (client : α) (id : UInt32)

include room

theorem replyVersion_eq : ∃ answer, answer.length = s.answer.length ∧
    s.replyVersion client id = ([⟨client, Answer.versionPacket id⟩], { s with answer }) := by
  obtain ⟨answer, written, length, start⟩ :=
    Answer.encodeVersion_eq id (Nat.le_trans (by decide) room)
  refine ⟨answer, length, ?_⟩
  rw [replyVersion, written, reply, start]

/-- Each answer is the packet for its slot, whatever the answers before it left in the buffer. -/
theorem replySlots_eq (slots : Bytes) : ∃ answer, answer.length = s.answer.length ∧
    s.replySlots client id slots =
      (slots.map fun slot => ⟨client, Answer.infoPacket id (s.slotInfo slot)⟩,
        { s with answer }) := by
  induction slots generalizing s with
  | nil => exact ⟨s.answer, rfl, rfl⟩
  | cons slot rest ih =>
    obtain ⟨first, written, length, start⟩ := Answer.encodeInfo_eq id (s.slotInfo slot) room
    obtain ⟨last, length', others⟩ := ih (s := { s with answer := first }) (length.symm ▸ room)
    refine ⟨last, length'.trans length, ?_⟩
    simp only [replySlots, written, reply, start, others]
    rfl

theorem handlePacket_answer [DecidableEq α] (packet : Bytes) (ok : Bool) :
    (s.handlePacket client packet ok).2.answer.length = s.answer.length := by
  rw [handlePacket_eq]
  cases request? packet with
  | none => rfl
  | some r =>
    cases r with
    | version id =>
      obtain ⟨answer, length, h⟩ := replyVersion_eq room client id
      simpa only [handleRequest, h] using length
    | info id slots =>
      obtain ⟨answer, length, h⟩ := replySlots_eq room client id slots
      simpa only [handleRequest, h] using length
    | data id subscription =>
      exact congrArg List.length (subscribe_frame s client id ok).1

end Answers

/-- No event changes how long the buffer is. -/
theorem step_answer [DecidableEq α] {s : Server α} (room : Answer.infoSize ≤ s.answer.length)
    (e : Event α) : (s.step e).2.answer.length = s.answer.length := by
  cases e with
  | datagram client datagram ok =>
    cases closed : s.closed with
    | true => simp only [step, receive, closed, if_true]
    | false =>
      rw [step, receive_eq closed]
      simp only [settle_answer, handlePacket_answer room]
  | timeout =>
    simp only [step, timeout]
    split <;> simp
  | round sample => simp only [step, round_answer]
  | shutdown =>
    simp only [step, shutdown]
    split <;> simp

section History

variable [DecidableEq α]

theorem room_after (config : ServerConfig) (history : List (Event α)) :
    Answer.infoSize ≤ (after config history).answer.length :=
  after_induction config (P := fun _ s => Answer.infoSize ≤ s.answer.length) (Nat.le_refl _)
    (fun _ e room => (step_answer room e).symm ▸ room) history

theorem Change.opened {s t : Server α} {e : Event α} (c : Change s e t) (opened : s.closed = false)
    (other : e ≠ .shutdown) : t.closed = false := by
  cases c with
  | ignored closed _ => exact opened
  | answered client datagram ok answer _ _ => exact (settle_closed _).trans opened
  | subscribed client datagram ok id _ _ =>
    exact (settle_closed _).trans ((subscribe_frame s client id ok).2.trans opened)
  | silent _ => exact (check_closed s true).trans opened
  | sent sample => exact (s.round_frame sample).2.2.1.trans opened
  | shut _ => exact absurd rfl other

theorem opened_after (config : ServerConfig) {history : List (Event α)}
    (running : .shutdown ∉ history) : (after config history).closed = false := by
  revert running
  refine after_induction config (P := fun history s => .shutdown ∉ history → s.closed = false)
    (fun _ => rfl) (fun history e ih running => ?_) history
  rw [List.mem_append, not_or, List.mem_singleton] at running
  exact (change_step _ e).opened (ih running.1) (Ne.symm running.2)

end History

/-! ### What a datagram comes to -/

section Step

variable [DecidableEq α] {s : Server α} (opened : s.closed = false) (client : α) {datagram : Bytes}
  (fits : datagram.length ≤ receiveLimit) (ok : Bool)

include opened fits

theorem step_datagram : s.step (.datagram client datagram ok) =
    match request? datagram with
    | none => ([], s.settle)
    | some r => ((s.handleRequest client ok r).1, (s.handleRequest client ok r).2.settle) := by
  rw [step, receive_eq opened, List.take_of_length_le fits, handlePacket_eq]
  cases request? datagram <;> rfl

theorem step_version (room : Answer.infoSize ≤ s.answer.length) {id : UInt32}
    (asked : request? datagram = some (.version id)) :
    ∃ answer, s.step (.datagram client datagram ok) =
      ([⟨client, Answer.versionPacket id⟩], { s with answer }.settle) := by
  obtain ⟨answer, -, h⟩ := replyVersion_eq room client id
  refine ⟨answer, ?_⟩
  rw [step_datagram opened client fits ok, asked]
  simp only [handleRequest, h]

theorem step_info (room : Answer.infoSize ≤ s.answer.length) {id : UInt32} {slots : Bytes}
    (asked : request? datagram = some (.info id slots)) :
    ∃ answer, s.step (.datagram client datagram ok) =
      (slots.map fun slot => ⟨client, Answer.infoPacket id (s.slotInfo slot)⟩,
        { s with answer }.settle) := by
  obtain ⟨answer, -, h⟩ := replySlots_eq room client id slots
  refine ⟨answer, ?_⟩
  rw [step_datagram opened client fits ok, asked]
  simp only [handleRequest, h]

end Step

/-- Whoever subscribes is there afterwards, even when silent clients are dropped at once. -/
theorem get?_subscribe_settle [DecidableEq α] (s : Server α) (client : α) (id : UInt32)
    (ok : Bool) :
    (s.subscribe client id ok).settle.registry.get? client = some { address := client, id } := by
  have joined : ({ address := client, id } : Client α) ∈
      (s.registry.subscribe client id).2.clients := Registry.mem_subscribe.mpr (.inl rfl)
  have only : ∀ d ∈ (s.registry.subscribe client id).2.clients, d.address = client →
      d = { address := client, id } := by
    intro d there same
    rcases Registry.mem_subscribe.mp there with new | ⟨-, other⟩
    · exact new
    · exact absurd same other
  rw [settle_registry, subscribe_registry]
  split
  · have keeps : (s.registry.subscribe client id).2.keeps { address := client, id } = true :=
      decide_eq_true (UInt32.zero_le)
    refine Registry.get?_of_only (c := { address := client, id }) ?_ ?_
    · rw [Registry.evict_clients]
      exact List.mem_filter.mpr ⟨joined, keeps⟩
    · intro d there
      rw [Registry.evict_clients] at there
      exact only d (List.mem_filter.mp there).1
  · exact Registry.get?_of_only joined only

variable [DecidableEq α]

/-- What a datagram comes to before the server is shut down. One that cannot be read, or that comes
from a server, is ignored. Each question is answered to its sender alone, and a subscription makes
its sender a client. -/
theorem datagram_handling (config : ServerConfig) {history : List (Event α)}
    (running : .shutdown ∉ history) (source : SourceRecord) (client : α) {datagram : Bytes}
    (fits : datagram.length ≤ 1024) (ok : Bool) :
    let s : Server α := { after config history with source }
    let sent := (s.step (.datagram client datagram ok)).1
    let t := (s.step (.datagram client datagram ok)).2
    ((∀ r, Request.decode datagram ≠ .ok r) ∨ datagram.take 4 = Header.serverMagic.bytes →
      sent = [] ∧ t = if s.checkDue then s.check false else s) ∧
    (datagram.take 4 ≠ Header.serverMagic.bytes →
      (∀ id, Request.decode datagram = .ok (.version id) →
        ∃ packet, sent = [⟨client, packet⟩] ∧ packet.length = 22 ∧ Packet.verify packet = true ∧
          Answer.decodeVersion packet = .ok (id, protocolVersion)) ∧
      (∀ id slots, Request.decode datagram = .ok (.info id slots) → slots.length ≤ 4 ∧
        List.Forall₂ (fun slot d => d.receiver = client ∧ d.packet.length = 32 ∧
          Packet.verify d.packet = true ∧
          Answer.decodeInfo d.packet = .ok (id, if slot = config.slot
            then SlotInfo.controller slot source.running else SlotInfo.empty slot) ∧
          (slot ≠ config.slot → d.packet.drop Header.size = slot :: Bytes.zeros 11)) slots sent) ∧
      ∀ id subscription, Request.decode datagram = .ok (.data id subscription) →
        sent = [] ∧ t.registry.get? client = some { address := client, id, timeouts := 0 }) := by
  intro s sent t
  have opened : s.closed = false := opened_after config running
  have room : Answer.infoSize ≤ s.answer.length := room_after config history
  have slot_eq : s.config.slot = config.slot := congrArg (·.slot) (config_after config history)
  refine ⟨fun unread => ?_, fun asks => ⟨fun id read => ?_, fun id slots read => ?_,
    fun id subscription read => ?_⟩⟩
  · have ignored := step_datagram opened client fits ok
    rw [request?_eq_none.mpr unread] at ignored
    exact ⟨congrArg Prod.fst ignored, congrArg Prod.snd ignored⟩
  · obtain ⟨_, h⟩ := step_version opened client fits ok room (request?_eq_some.mpr ⟨read, asks⟩)
    exact ⟨_, congrArg Prod.fst h, Answer.length_versionPacket id, Answer.verify_packet _ _ _,
      Answer.decodeVersion_versionPacket id⟩
  · obtain ⟨_, h⟩ := step_info opened client fits ok room (request?_eq_some.mpr ⟨read, asks⟩)
    have sent_eq : sent = _ := congrArg Prod.fst h
    refine ⟨Request.length_slots_le read, ?_⟩
    rw [sent_eq, List.forall₂_map_right_iff]
    refine List.forall₂_same.mpr fun slot _ => ⟨rfl, Answer.length_infoPacket id _,
      Answer.verify_packet _ _ _, ?_, fun other => ?_⟩
    · rw [Answer.decodeInfo_infoPacket, slotInfo, slot_eq]
    · rw [Answer.infoPacket, Answer.drop_packet, slotInfo, slot_eq, if_neg other]
      rfl
  · have subscribed := step_datagram opened client fits ok
    rw [request?_eq_some.mpr ⟨read, asks⟩] at subscribed
    have t_eq : t = (s.subscribe client id ok).settle := congrArg Prod.snd subscribed
    rw [t_eq]
    exact ⟨congrArg Prod.fst subscribed, get?_subscribe_settle s client id ok⟩

/-- A question that names the slot of the controller twice, after other answers. -/
theorem datagram_handling_of_repeated_slot :
    let config : ServerConfig := { slot := 2 }
    let history : List (Event Nat) :=
      [.datagram 1 (Request.data 7 {}).encode true, .datagram 3 (Request.version 8).encode true]
    let s := after config history
    let datagram := (Request.info 9 [2, 0, 2]).encode
    (.shutdown ∉ history ∧ datagram.length ≤ 1024) ∧
      (datagram.take 4 ≠ Header.serverMagic.bytes ∧
        Request.decode datagram = .ok (.info 9 [2, 0, 2])) ∧
      List.Forall₂ (fun slot d => d.receiver = 3 ∧ Packet.verify d.packet = true ∧
          Answer.decodeInfo d.packet = .ok (9, if slot = 2
            then SlotInfo.controller slot true else SlotInfo.empty slot))
        [2, 0, 2] (s.step (.datagram 3 datagram true)).1 := by
  intro config history s datagram
  have running : .shutdown ∉ history := by simp [history]
  have fits : datagram.length ≤ 1024 := by decide
  have asks : datagram.take 4 ≠ Header.serverMagic.bytes := by decide +kernel
  have read : Request.decode datagram = .ok (.info 9 [2, 0, 2]) := by decide +kernel
  have connected : s.source.running = true := by decide +kernel
  obtain ⟨-, answered⟩ := datagram_handling config running s.source 3 fits true
  obtain ⟨-, info, -⟩ := answered asks
  refine ⟨⟨running, fits⟩, ⟨asks, read⟩, (info 9 [2, 0, 2] read).2.imp ?_⟩
  rintro slot d ⟨receiver, -, verifies, content, -⟩
  rw [connected] at content
  exact ⟨receiver, verifies, content⟩

end Server

end MotionCast
