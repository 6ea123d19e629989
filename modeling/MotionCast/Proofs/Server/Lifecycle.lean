import MotionCast.Proofs.Server.Clients
import MotionCast.Proofs.Server.Steps

/-! The life of a broadcast: between two events the server is either idle or broadcasting, its
source runs exactly while it broadcasts, and it broadcasts only to clients that are there. A server
that idles although it has clients failed to start its source, and a server that was shut down stays
empty. -/

namespace MotionCast

namespace Server

variable {α : Type}

/-! ### Attempts to start the source -/

/-- What starting the source would come to, where an event says it. -/
def Event.outcome? : Event α → Option Bool
  | .datagram _ _ succeeds => some succeeds
  | _ => none

/-- What the attempt to start the source came to by which an event led from one state to another,
if the source was started. The event says it. -/
def attempt? (s : Server α) (e : Event α) (t : Server α) : Option Bool :=
  if t.source.starts = s.source.starts then none else e.outcome?

/-! ### What the operations leave -/

@[simp] theorem stopBroadcast_starts (s : Server α) :
    s.stopBroadcast.source.starts = s.source.starts := by
  unfold stopBroadcast
  split <;> rfl

@[simp] theorem stopBroadcast_successes (s : Server α) :
    s.stopBroadcast.source.successes = s.source.successes := by
  unfold stopBroadcast
  split <;> rfl

theorem check_starts (s : Server α) (age : Bool) :
    (s.check age).source.starts = s.source.starts := by
  unfold check
  simp only
  split <;> simp

theorem check_successes (s : Server α) (age : Bool) :
    (s.check age).source.successes = s.source.successes := by
  unfold check
  simp only
  split <;> simp

theorem settle_starts (s : Server α) : s.settle.source.starts = s.source.starts :=
  settle_keeps (·.source.starts) (check_starts · false) s

theorem settle_successes (s : Server α) : s.settle.source.successes = s.source.successes :=
  settle_keeps (·.source.successes) (check_successes · false) s

/-- A subscription to a server without a broadcast is an attempt to start the source, and no other
one is. -/
theorem attempt?_subscribed [DecidableEq α] (s : Server α) (client : α) (datagram : Bytes)
    (id : UInt32) (ok : Bool) :
    attempt? s (.datagram client datagram ok) (s.subscribe client id ok).settle =
      if s.broadcast = none then some ok else none := by
  rw [attempt?, settle_starts]
  cases hb : s.broadcast with
  | some b => simp [subscribe, hb]
  | none => cases ok <;> simp [subscribe, hb, startBroadcast, Event.outcome?]

/-- A round changes neither the source nor the state, and keeps the broadcast and the clients. -/
theorem round_frame (s : Server α) (sample : Motion) :
    (s.round sample).2.source = s.source ∧ (s.round sample).2.state = s.state ∧
    (s.round sample).2.closed = s.closed ∧
    ((s.round sample).2.broadcast = none ↔ s.broadcast = none) ∧
    ((s.round sample).2.registry.clients = [] ↔ s.registry.clients = []) := by
  unfold round
  split
  · simp
  · simp only
    split <;> simp [*]

/-! ### The invariant -/

/-- The server between two events, after attempts to start its source with the given outcomes. -/
structure Settled (s : Server α) (outcomes : List Bool) : Prop where
  running : s.broadcast ≠ none → s.state = .broadcasting ∧
    s.source.successes = s.source.stops + 1 ∧ s.registry.clients ≠ []
  resting : s.broadcast = none → s.state = .idle ∧ s.source.successes = s.source.stops ∧
    (s.registry.clients ≠ [] → outcomes.getLast? = some false)
  closed : s.closed = true → s.broadcast = none ∧ s.registry.clients = []

namespace Settled

variable {s : Server α} {outcomes : List Bool}

theorem new (config : ServerConfig) : Settled (Server.new config : Server α) [] :=
  ⟨fun h => absurd rfl h, fun _ => ⟨rfl, rfl, fun h => absurd rfl h⟩, nofun⟩

theorem stop (h : Settled s outcomes) : s.stopBroadcast.broadcast = none ∧
    s.stopBroadcast.state = .idle ∧
    s.stopBroadcast.source.successes = s.stopBroadcast.source.stops := by
  unfold stopBroadcast
  split
  · rename_i none
    exact ⟨none, (h.resting none).1, (h.resting none).2.1⟩
  · rename_i b some
    exact ⟨rfl, rfl, (h.running (by simp [some])).2.1⟩

theorem check (h : Settled s outcomes) (age : Bool) : Settled (s.check age) outcomes := by
  unfold Server.check
  simp only
  split
  · rename_i deserted
    simp only [Bool.and_eq_true, Registry.isEmpty, List.isEmpty_iff] at deserted
    obtain ⟨some, none⟩ := deserted
    obtain ⟨b, hb⟩ := Option.isSome_iff_exists.mp some
    simp only [stopBroadcast, hb]
    exact ⟨fun h => absurd rfl h, fun _ => ⟨rfl, (h.running (by simp [hb])).2.1,
      fun ne => absurd none ne⟩, fun _ => ⟨rfl, none⟩⟩
  · rename_i kept
    simp only [Bool.and_eq_true, Registry.isEmpty, List.isEmpty_iff, not_and] at kept
    refine ⟨fun hb => ?_, fun hb => ?_, fun hc => ?_⟩
    · obtain ⟨state, starts, -⟩ := h.running hb
      exact ⟨state, starts, kept (Option.isSome_iff_ne_none.mpr hb)⟩
    · obtain ⟨state, starts, failed⟩ := h.resting hb
      exact ⟨state, starts, fun ne => failed fun nil => ne (Registry.sweep_nil nil age)⟩
    · exact ⟨(h.closed hc).1, Registry.sweep_nil (h.closed hc).2 age⟩

theorem settle (h : Settled s outcomes) : Settled s.settle outcomes := by
  unfold Server.settle
  split
  · exact h.check false
  · exact h

/-- A subscription to a server without a broadcast is an attempt to start the source. -/
theorem subscribe [DecidableEq α] (h : Settled s outcomes) (opened : s.closed = false) (client : α)
    (id : UInt32) (ok : Bool) :
    Settled (s.subscribe client id ok)
      (outcomes ++ (if s.broadcast = none then some ok else none).toList) := by
  have joined := s.registry.subscribe_ne_nil client id
  cases hb : s.broadcast with
  | some b =>
    have stays : s.subscribe client id ok =
        { s with registry := (s.registry.subscribe client id).2 } := by
      simp [Server.subscribe, hb]
    rw [stays, if_neg nofun, Option.toList_none, List.append_nil]
    have ne : s.broadcast ≠ none := by simp [hb]
    exact ⟨fun _ => ⟨(h.running ne).1, (h.running ne).2.1, joined⟩, fun none => absurd none ne,
      fun hc => absurd hc (by simp [opened])⟩
  | none =>
    obtain ⟨-, balanced, -⟩ := h.resting hb
    have starts : s.subscribe client id ok =
        { s with registry := (s.registry.subscribe client id).2 }.startBroadcast ok := by
      simp [Server.subscribe, hb]
    rw [starts, if_pos rfl, Option.toList_some]
    cases ok with
    | true =>
      simp only [startBroadcast]
      exact ⟨fun _ => ⟨rfl, congrArg (· + 1) balanced, joined⟩, nofun,
        fun hc => absurd hc (by simp [opened])⟩
    | false =>
      simp only [startBroadcast]
      exact ⟨fun ne => absurd hb ne, fun _ => ⟨rfl, balanced, fun _ => List.getLast?_concat⟩,
        fun hc => absurd hc (by simp [opened])⟩

theorem round (h : Settled s outcomes) (sample : Motion) :
    Settled (s.round sample).2 outcomes := by
  obtain ⟨source, state, closed, broadcast, clients⟩ := s.round_frame sample
  refine ⟨fun hb => ?_, fun hb => ?_, fun hc => ?_⟩
  · rw [source, state, ne_eq, clients]
    exact h.running fun none => hb (broadcast.mpr none)
  · rw [source, state, ne_eq, clients]
    exact h.resting (broadcast.mp hb)
  · rw [broadcast, clients]
    exact h.closed (closed ▸ hc)

theorem shut (h : Settled s outcomes) :
    Settled { s.stopBroadcast with registry := s.registry.clear, closed := true } outcomes := by
  obtain ⟨none, idle, balanced⟩ := h.stop
  exact ⟨fun ne => absurd none ne, fun _ => ⟨idle, balanced, fun ne => absurd rfl ne⟩,
    fun _ => ⟨none, rfl⟩⟩

/-- An event that does not start the source adds no outcome. -/
theorem kept {t : Server α} {e : Event α} (h : Settled t outcomes)
    (same : t.source.starts = s.source.starts) :
    Settled t (outcomes ++ (attempt? s e t).toList) := by
  rw [attempt?, if_pos same]
  simpa using h

/-- Every event keeps the invariant. -/
theorem change [DecidableEq α] {t : Server α} {e : Event α} (h : Settled s outcomes)
    (c : Change s e t) : Settled t (outcomes ++ (attempt? s e t).toList) := by
  cases c with
  | ignored closed _ => exact h.kept rfl
  | answered client datagram ok answer opened _ =>
    have answered : Settled { s with answer } outcomes := ⟨h.running, h.resting, h.closed⟩
    exact answered.settle.kept (settle_starts { s with answer })
  | subscribed client datagram ok id opened _ =>
    rw [attempt?_subscribed]
    exact (h.subscribe opened client id ok).settle
  | silent opened => exact (h.check true).kept (check_starts s true)
  | sent sample => exact (h.round sample).kept (congrArg (·.starts) (s.round_frame sample).1)
  | shut opened => exact h.shut.kept (stopBroadcast_starts s)

end Settled

/-! ### Histories -/

variable [DecidableEq α]

/-- The outcomes of the attempts to start the source along a history, in order, as the events say
them at which the source was started. -/
def startOutcomes (config : ServerConfig) (history : List (Event α)) : List Bool :=
  along (fun s e outcomes => outcomes ++ (attempt? s e (s.step e).2).toList)
    (Server.new config) [] history

theorem startOutcomes_snoc (config : ServerConfig) (history : List (Event α)) (e : Event α) :
    startOutcomes config (history ++ [e]) = startOutcomes config history ++
      (attempt? (after config history) e ((after config history).step e).2).toList :=
  along_snoc _ _ _ _ _

theorem settled_after (config : ServerConfig) (history : List (Event α)) :
    Settled (after config history) (startOutcomes config history) := by
  refine after_induction config (P := fun history s => Settled s (startOutcomes config history))
    (Settled.new config) (fun history e ih => ?_) history
  rw [startOutcomes_snoc]
  exact ih.change (change_step _ e)

/-- An event makes at most one attempt to start the source, which is counted as a success exactly
when the event says so. -/
theorem Change.attempt {s t : Server α} {e : Event α} (c : Change s e t) :
    t.source.starts = s.source.starts + (attempt? s e t).toList.length ∧
    t.source.successes = s.source.successes + (attempt? s e t).toList.count true := by
  have none_made {e : Event α} {t : Server α} (starts : t.source.starts = s.source.starts)
      (successes : t.source.successes = s.source.successes) :
      t.source.starts = s.source.starts + (attempt? s e t).toList.length ∧
      t.source.successes = s.source.successes + (attempt? s e t).toList.count true := by
    simp [attempt?, starts, successes]
  cases c with
  | ignored _ _ => exact none_made rfl rfl
  | answered client datagram ok answer _ _ =>
    exact none_made (settle_starts { s with answer }) (settle_successes { s with answer })
  | subscribed client datagram ok id _ _ =>
    rw [attempt?_subscribed, settle_starts, settle_successes]
    cases hb : s.broadcast with
    | some b => simp [subscribe, hb]
    | none => cases ok <;> simp [subscribe, hb, startBroadcast]
  | silent _ => exact none_made (check_starts s true) (check_successes s true)
  | sent sample =>
    exact none_made (congrArg (·.starts) (s.round_frame sample).1)
      (congrArg (·.successes) (s.round_frame sample).1)
  | shut _ => exact none_made (stopBroadcast_starts s) (stopBroadcast_successes s)

/-- The outcomes are those of all attempts that the source counts. -/
theorem startOutcomes_count (config : ServerConfig) (history : List (Event α)) :
    (startOutcomes config history).length = (after config history).source.starts ∧
    (startOutcomes config history).count true = (after config history).source.successes := by
  refine after_induction config (P := fun history s => (startOutcomes config history).length =
    s.source.starts ∧ (startOutcomes config history).count true = s.source.successes)
    ⟨rfl, rfl⟩ (fun history e ih => ?_) history
  obtain ⟨starts, successes⟩ := (change_step (after config history) e).attempt
  rw [startOutcomes_snoc, List.length_append, List.count_append, starts, successes, ih.1, ih.2]
  exact ⟨rfl, rfl⟩

theorem Change.closed {s t : Server α} {e : Event α} (c : Change s e t)
    (h : s.closed = true ∨ e = .shutdown) : t.closed = true := by
  cases c with
  | ignored closed _ => exact closed
  | sent sample => simpa [(s.round_frame sample).2.2.1] using h
  | shut _ => rfl
  | answered _ _ _ _ opened _ => simp [opened] at h
  | subscribed _ _ _ _ opened _ => simp [opened] at h
  | silent opened => simp [opened] at h

theorem closed_after {config : ServerConfig} {history : List (Event α)}
    (h : .shutdown ∈ history) : (after config history).closed = true := by
  revert h
  refine after_induction config (P := fun history s => .shutdown ∈ history → s.closed = true)
    nofun (fun history e ih => ?_) history
  intro mem
  refine (change_step _ e).closed ?_
  rcases List.mem_append.mp mem with earlier | last
  · exact .inl (ih earlier)
  · exact .inr (List.mem_singleton.mp last).symm

/-- The life of a broadcast, after any history of events. What an attempt to start the source comes
to is said by the datagram that leads to it. -/
theorem lifecycle (config : ServerConfig) (history : List (Event α)) :
    let s := after config history
    let outcomes := startOutcomes config history
    (s.state = .idle ∨ s.state = .broadcasting) ∧
    (s.state = .broadcasting ↔ s.broadcast.isSome) ∧
    (s.broadcast.isSome ↔ s.source.successes = s.source.stops + 1) ∧
    (s.source.successes = s.source.stops ∨ s.source.successes = s.source.stops + 1) ∧
    (s.state = .broadcasting → s.registry.clients ≠ []) ∧
    (outcomes.length = s.source.starts ∧ outcomes.count true = s.source.successes) ∧
    (s.state = .idle → s.registry.clients ≠ [] → outcomes.getLast? = some false) ∧
    (.shutdown ∈ history → s.registry.clients = [] ∧ s.state = .idle ∧
      s.source.successes = s.source.stops ∧ s.step .shutdown = ([], s)) := by
  intro s outcomes
  have h : Settled s outcomes := settled_after config history
  have counts := startOutcomes_count config history
  have shut : .shutdown ∈ history → s.registry.clients = [] ∧ s.state = .idle ∧
      s.source.successes = s.source.stops ∧ s.step .shutdown = ([], s) := by
    intro mem
    have closed : s.closed = true := closed_after mem
    obtain ⟨none, empty⟩ := h.closed closed
    obtain ⟨idle, balanced, -⟩ := h.resting none
    exact ⟨empty, idle, balanced, by simp [step, shutdown, closed]⟩
  cases hb : s.broadcast with
  | none =>
    obtain ⟨idle, balanced, failed⟩ := h.resting hb
    exact ⟨.inl idle, by simp [idle], by simp [balanced], .inl balanced, by simp [idle], counts,
      fun _ => failed, shut⟩
  | some b =>
    obtain ⟨busy, ahead, there⟩ := h.running (by simp [hb])
    exact ⟨.inr busy, by simp [busy], by simp [ahead], .inr ahead, fun _ => there, counts,
      by simp [busy], shut⟩

end Server

end MotionCast
