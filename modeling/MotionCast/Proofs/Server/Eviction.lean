import Mathlib.Algebra.Group.Nat.Defs
import MotionCast.Proofs.Server.Hearing
import MotionCast.Proofs.Server.Lifecycle

/-! Which clients the server drops. Rounds and timeouts count silences against every client, and a
request for motion data clears the count of its client. The server looks for silent clients after
each datagram that finds the flag set and after each timeout, and it drops exactly those with more
silences than the limit. -/

namespace MotionCast.Server

variable {α : Type}

variable [DecidableEq α]

/-- Counts an event in the silences of the client at an address since its last request. -/
def countSilence (a : α) (s : Server α) (e : Event α) (n : Nat) : Nat :=
  if (s.subscription? e).any (·.1 = a) then 0
  else if s.ages e && s.registry.contains a then n + 1 else n

/-- How often the client at an address was found silent since its last request. -/
def silences (config : ServerConfig) (history : List (Event α)) (a : α) : Nat :=
  along (countSilence a) (Server.new config) 0 history

theorem silences_snoc (config : ServerConfig) (history : List (Event α)) (e : Event α) (a : α) :
    silences config (history ++ [e]) a =
      countSilence a (after config history) e (silences config history a) :=
  along_snoc _ _ _ _ _

theorem countSilence_asked {s : Server α} {e : Event α} {a : α} {id : UInt32}
    (request : s.subscription? e = some (a, id)) (n : Nat) : countSilence a s e n = 0 := by
  simp [countSilence, request]

theorem countSilence_other {s : Server α} {e : Event α} {a : α}
    (other : ∀ id, s.subscription? e ≠ some (a, id)) (n : Nat) :
    countSilence a s e n = if s.ages e && s.registry.contains a then n + 1 else n := by
  rw [countSilence, if_neg]
  rw [Option.any_eq_true]
  rintro ⟨⟨client, id⟩, request, same⟩
  exact other id (of_decide_eq_true same ▸ request)

theorem silences_le_length (config : ServerConfig) (history : List (Event α)) (a : α) :
    silences config history a ≤ history.length := by
  refine after_induction config (P := fun history _ => silences config history a ≤ history.length)
    (Nat.le_refl 0) (fun history e ih => ?_) history
  rw [silences_snoc, List.length_append, List.length_singleton, countSilence]
  split
  · omega
  · split <;> omega

/-! ### The invariant -/

/-- The registry of a server counts the silences of its clients, and a client with too many sets the
flag that asks for a check. -/
structure Counted (s : Server α) (limit : UInt32) (count : α → Nat) : Prop where
  limit_eq : s.registry.limit = limit
  timeouts_eq : ∀ c ∈ s.registry.clients, c.timeouts.toNat = count c.address
  quiet : s.checkDue = false → ∀ c ∈ s.registry.clients, count c.address ≤ limit.toNat
  empty : s.closed = true → s.registry.clients = []

namespace Counted

variable {s : Server α} {limit : UInt32} {count : α → Nat} {e : Event α}

/-- The registry also counts the silences after what it has heard, as long as none wraps around. -/
theorem heard (h : Counted s limit count)
    (bounded : ∀ a, countSilence a s e (count a) < 2 ^ 32) :
    ∀ c ∈ (s.heard e).clients, c.timeouts.toNat = countSilence c.address s e (count c.address) := by
  intro c mem
  cases hears_of_mem mem with
  | asked a id request => rw [countSilence_asked request, UInt32.toNat_zero]
  | kept _ there other young =>
    rw [countSilence_other other, young]
    exact h.timeouts_eq c there
  | aged old there other silent =>
    have registered : s.registry.contains old.address = true :=
      Registry.contains_iff.mpr (Registry.mem_addresses.mpr ⟨old, there, rfl⟩)
    have one_more : countSilence old.address s e (count old.address) = count old.address + 1 := by
      rw [countSilence_other other, silent, registered]
      rfl
    have small := bounded old.address
    rw [one_more] at small ⊢
    rw [UInt32.toNat_add, h.timeouts_eq old there]
    exact Nat.mod_eq_of_lt small

/-- Without the flag and without a new silence everybody is within the limit. -/
theorem within (h : Counted s limit count) (noFlag : s.checkDue = false) (young : s.ages e = false)
    {c : Client α} (mem : c ∈ (s.heard e).clients) :
    countSilence c.address s e (count c.address) ≤ limit.toNat := by
  cases hears_of_mem mem with
  | asked a id request =>
    rw [countSilence_asked request]
    exact Nat.zero_le _
  | kept _ there other _ =>
    rw [countSilence_other other, young]
    exact h.quiet noFlag c there
  | aged _ _ _ silent => simp [young] at silent

/-- A receiving server keeps exactly the clients within the limit. -/
theorem receive {t : Server α} (h : Counted s limit count) (c : Change s e t)
    (bounded : ∀ a, countSilence a s e (count a) < 2 ^ 32) (receives : e.receives = true) :
    t.registry.clients = (s.heard e).clients.filter
      fun c => countSilence c.address s e (count c.address) ≤ limit.toNat := by
  cases hc : s.closed with
  | true =>
    have notRound := Event.not_round_of_receives receives
    rw [c.eq_of_closed hc notRound, heard_closed hc notRound, h.empty hc]
    rfl
  | false =>
    rcases c.received hc receives with dropped | ⟨noFlag, young, kept⟩
    · rw [dropped, Registry.evict_clients]
      refine List.filter_congr fun client mem => ?_
      rw [← h.heard bounded client mem, ← h.limit_eq, ← heard_limit s e]
      rfl
    · rw [kept, List.filter_eq_self.mpr]
      exact fun client mem => decide_eq_true (h.within noFlag young mem)

/-- Every event keeps the invariant. -/
theorem change {t : Server α} (h : Counted s limit count) (c : Change s e t)
    (closed : t.closed = true → t.registry.clients = [])
    (bounded : ∀ a, countSilence a s e (count a) < 2 ^ 32) :
    Counted t limit fun a => countSilence a s e (count a) := by
  have limit_eq : t.registry.limit = limit := c.limit.trans h.limit_eq
  cases receives : e.receives with
  | true =>
    have kept := h.receive c bounded receives
    refine ⟨limit_eq, fun client mem => ?_, fun _ client mem => ?_, closed⟩
    · rw [kept] at mem
      exact h.heard bounded client (List.mem_filter.mp mem).1
    · rw [kept] at mem
      exact of_decide_eq_true (List.mem_filter.mp mem).2
  | false =>
    cases c with
    | sent sample =>
      refine ⟨limit_eq, fun client mem => ?_, fun noFlag client mem => ?_, closed⟩
      · rw [heard_round] at mem
        exact h.heard bounded client mem
      · rw [round_checkDue, Bool.or_eq_false_iff] at noFlag
        rw [heard_round] at mem
        exact h.within (e := .round sample) noFlag.2 noFlag.1 mem
    | shut _ =>
      have nobody (client : Client α) : client ∉ s.registry.clear.clients := List.not_mem_nil
      exact ⟨limit_eq, fun client mem => absurd mem (nobody client),
        fun _ client mem => absurd mem (nobody client), closed⟩
    | ignored hc notRound =>
      cases e with
      | shutdown => simpa [countSilence, subscription?, ages] using h
      | round sample => exact absurd rfl (notRound sample)
      | datagram client bytes ok => simp [Event.receives] at receives
      | timeout => simp [Event.receives] at receives
    | answered _ _ _ _ _ _ => simp [Event.receives] at receives
    | subscribed _ _ _ _ _ _ => simp [Event.receives] at receives
    | silent _ => simp [Event.receives] at receives

end Counted

/-- The subscriptions after a server has received: those within the limit, and a new one. -/
theorem Counted.subscriptions {s t : Server α} {limit : UInt32} {count : α → Nat} {e : Event α}
    (h : Counted s limit count) (c : Change s e t)
    (bounded : ∀ a, countSilence a s e (count a) < 2 ^ 32) (receives : e.receives = true) :
    t.registry.subscriptions =
      (s.registry.subscriptions.filter
        fun p => countSilence p.1 s e (count p.1) ≤ limit.toNat).map (s.renewed e) ++
      s.joining e := by
  have within : (s.joining e).filter (fun p => countSilence p.1 s e (count p.1) ≤ limit.toNat) =
      s.joining e := by
    refine List.filter_eq_self.mpr fun p mem => ?_
    unfold joining at mem
    cases asked : s.subscription? e with
    | some q =>
      have fresh : p = q := by
        simp only [asked] at mem
        split at mem
        · contradiction
        · exact List.mem_singleton.mp mem
      rw [fresh, countSilence_asked asked]
      exact decide_eq_true (Nat.zero_le _)
    | none => simp [asked] at mem
  calc t.registry.subscriptions
      = (s.heard e).subscriptions.filter
          fun p => countSilence p.1 s e (count p.1) ≤ limit.toNat := by
        rw [Registry.subscriptions, h.receive c bounded receives, Registry.subscriptions,
          List.filter_map]
        rfl
    _ = _ := by
        rw [heard_subscriptions, List.filter_append, within, List.filter_map]
        simp [Function.comp_def]

/-! ### Histories -/

theorem counted_after (config : ServerConfig) (history : List (Event α))
    (bounded : ∀ past, past <+: history → ∀ a, silences config past a < 2 ^ 32) :
    Counted (after config history) config.clientTimeoutLimit (silences config history) := by
  revert bounded
  refine after_induction config (P := fun history s =>
    (∀ past, past <+: history → ∀ a, silences config past a < 2 ^ 32) →
      Counted s config.clientTimeoutLimit (silences config history)) ?_ ?_ history
  · exact fun _ => ⟨rfl, nofun, nofun, fun _ => rfl⟩
  · intro history e ih bounded
    have earlier := ih fun past before => bounded past (before.trans (List.prefix_append _ _))
    have small := bounded _ (List.prefix_refl _)
    have next := earlier.change (change_step _ e)
      (fun hc => after_snoc config history e ▸
        ((settled_after config (history ++ [e])).closed (after_snoc config history e ▸ hc)).2)
      (fun a => silences_snoc config history e a ▸ small a)
    have counts : (fun a => countSilence a (after config history) e (silences config history a)) =
        silences config (history ++ [e]) :=
      funext fun a => (silences_snoc config history e a).symm
    exact counts ▸ next

theorem mem_kept (kept : α → Bool) {s : Server α} {e : Event α} {r : Registry α}
    (h : r.subscriptions =
      (s.registry.subscriptions.filter fun p => kept p.1).map (s.renewed e) ++ s.joining e)
    {a : α} (mem : a ∈ s.registry.addresses) : a ∈ r.addresses ↔ kept a = true := by
  have old : a ∉ (s.joining e).map Prod.fst := by
    unfold joining
    split
    · split
      · simp
      · rename_i absent
        intro new
        simp only [List.map_cons, List.map_nil, List.mem_singleton] at new
        exact absent (new ▸ mem)
    · simp
  have firsts : (Prod.fst ∘ s.renewed e : α × UInt32 → α) = Prod.fst := funext (renewed_fst s e)
  rw [← Registry.map_fst_subscriptions, h, List.map_append, List.mem_append, List.map_map, firsts,
    or_iff_left old]
  rw [← Registry.map_fst_subscriptions] at mem
  constructor
  · intro left
    obtain ⟨p, stays, rfl⟩ := List.mem_map.mp left
    exact (List.mem_filter.mp stays).2
  · intro stays
    obtain ⟨p, there, rfl⟩ := List.mem_map.mp mem
    exact List.mem_map.mpr ⟨p, List.mem_filter.mpr ⟨there, stays⟩, rfl⟩

/-- A client beyond the limit raises the check, which drops exactly the clients beyond the limit,
never the client of a request, and keeps the others in order with their ids. A round drops
nobody. -/
theorem eviction_exact (config : ServerConfig) (history : List (Event α))
    (bounded : ∀ past, past <+: history → ∀ a, silences config past a < 2 ^ 32) :
    (∀ past, past <+: history →
      (∃ a ∈ (after config past).registry.addresses,
        config.clientTimeoutLimit.toNat < silences config past a) →
      (after config past).checkDue = true) ∧
    ∀ past e, past ++ [e] <+: history →
      let s : Server α := after config past
      let t : Server α := (s.step e).2
      let limit := config.clientTimeoutLimit.toNat
      let found := silences config (past ++ [e])
      (e.receives = true →
        (∀ a ∈ t.registry.addresses, found a ≤ limit) ∧
        (∀ a ∈ s.registry.addresses, a ∉ t.registry.addresses ↔ limit < found a) ∧
        (∀ a id, s.subscription? e = some (a, id) → (a, id) ∈ t.registry.subscriptions) ∧
        t.registry.subscriptions =
          (s.registry.subscriptions.filter fun p => found p.1 ≤ limit).map (s.renewed e) ++
            s.joining e) ∧
      (∀ sample, e = .round sample → t.registry.subscriptions = s.registry.subscriptions) := by
  have counted {past : List (Event α)} (before : past <+: history) :=
    counted_after config past fun earlier h => bounded earlier (h.trans before)
  refine ⟨fun past before ⟨a, mem, beyond⟩ => ?_, fun past e before => ?_⟩
  · obtain ⟨c, there, rfl⟩ := Registry.mem_addresses.mp mem
    cases flag : (after config past).checkDue with
    | true => rfl
    | false => exact absurd ((counted before).quiet flag c there) (by omega)
  · intro s t limit found
    have change : Change s e t := change_step s e
    have small : ∀ a, countSilence a s e (silences config past a) < 2 ^ 32 :=
      fun a => silences_snoc config past e a ▸ bounded _ before a
    have earlier := counted ((List.prefix_append past [e]).trans before)
    refine ⟨fun receives => ?_, ?_⟩
    · have kept := earlier.receive change small receives
      have left := earlier.subscriptions change small receives
      simp only [← silences_snoc] at kept left
      refine ⟨fun a mem => ?_, fun a mem => ?_, fun a id asked => ?_, left⟩
      · obtain ⟨c, there, rfl⟩ := Registry.mem_addresses.mp mem
        rw [kept] at there
        exact of_decide_eq_true (List.mem_filter.mp there).2
      · rw [mem_kept (s := s) (fun a => found a ≤ limit) left mem]
        simp only [decide_eq_true_eq]
        omega
      · have fresh : silences config (past ++ [e]) a = 0 := by
          rw [silences_snoc]
          exact countSilence_asked asked _
        have joined : { address := a, id } ∈ (s.heard e).clients := by
          simp only [heard, asked]
          exact Registry.mem_subscribe.mpr (.inl rfl)
        refine List.mem_map.mpr ⟨{ address := a, id }, ?_, rfl⟩
        rw [kept]
        exact List.mem_filter.mpr ⟨joined, by simp [fresh]⟩
    · rintro sample rfl
      show (s.round sample).2.registry.subscriptions = _
      rw [round_registry]
      split <;> simp

/-- Of two clients, the one that asks again after a round stays, and the other is dropped at the
next timeout. -/
theorem eviction_exact_of_two :
    let config : ServerConfig := { timeoutCheckPeriod := 1, clientTimeoutLimit := 1 }
    let ask (client : Nat) (id : UInt32) : Event Nat :=
      .datagram client (Request.data id {}).encode true
    let history := [ask 1 7, ask 2 8, .round {}, ask 2 9]
    let s := after config history
    s.registry.subscriptions = [(1, 7), (2, 9)] ∧
      silences config (history ++ [.timeout]) 1 = 2 ∧
      1 ∉ (s.step .timeout).2.registry.addresses ∧
      (s.step .timeout).2.registry.subscriptions = [(2, 9)] := by
  intro config ask history s
  have before : s.registry.subscriptions = [(1, 7), (2, 9)] := by decide +kernel
  have beyond : silences config (history ++ [.timeout]) 1 = 2 := by decide +kernel
  have bounded : ∀ past, past <+: history ++ [.timeout] → ∀ a, silences config past a < 2 ^ 32 := by
    intro past short a
    have few : past.length ≤ 5 := short.length_le
    have := silences_le_length config past a
    omega
  obtain ⟨-, step⟩ := eviction_exact config (history ++ [.timeout]) bounded
  obtain ⟨-, dropped, -, left⟩ := (step history .timeout (List.prefix_refl _)).1 rfl
  have there : 1 ∈ s.registry.addresses := by
    rw [← Registry.map_fst_subscriptions, before]
    decide
  refine ⟨before, beyond, (dropped 1 there).mpr ?_, left.trans (by decide +kernel)⟩
  rw [beyond]
  decide

end MotionCast.Server
