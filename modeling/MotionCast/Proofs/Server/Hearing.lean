import MotionCast.Proofs.Server.Clients
import MotionCast.Proofs.Server.Steps

/-! What an event does to the registry. First a request renews or adds its client, or a silence is
counted against every client; then clients may be dropped, but nobody is added or moved. -/

namespace MotionCast.Server

variable {α : Type}

/-- The request for motion data that an event brings: its client and its id. -/
def subscription? (s : Server α) : Event α → Option (α × UInt32)
  | .datagram client bytes _ =>
    if s.closed then none else (subscriptionId? bytes).map (client, ·)
  | _ => none

/-- An event counts a silence against every client. -/
def ages (s : Server α) : Event α → Bool
  | .timeout => !s.closed
  | .round _ => s.roundDue
  | _ => false

/-- An event is a datagram or the lack of one. -/
def Event.receives : Event α → Bool
  | .datagram .. => true
  | .timeout => true
  | _ => false

theorem Event.not_round_of_receives {e : Event α} (receives : e.receives = true) (sample : Motion) :
    e ≠ .round sample := by
  rintro rfl
  simp [Event.receives] at receives

variable [DecidableEq α]

/-- The registry once an event has renewed a client or aged all of them, before any is dropped. -/
def heard (s : Server α) (e : Event α) : Registry α :=
  match s.subscription? e with
  | some (client, id) => (s.registry.subscribe client id).2
  | none => if s.ages e then s.registry.ageAll else s.registry

@[simp] theorem heard_limit (s : Server α) (e : Event α) :
    (s.heard e).limit = s.registry.limit := by
  unfold heard
  split
  · exact Registry.subscribe_limit _ _ _
  · split <;> rfl

/-- How a client comes to be in the registry once an event has been heard. -/
inductive Hears (s : Server α) (e : Event α) : Client α → Prop where
  /-- The event is its request. -/
  | asked (a : α) (id : UInt32) (request : s.subscription? e = some (a, id)) :
    Hears s e { address := a, id }
  | kept (c : Client α) (there : c ∈ s.registry.clients)
    (other : ∀ id, s.subscription? e ≠ some (c.address, id)) (young : s.ages e = false) :
    Hears s e c
  | aged (c : Client α) (there : c ∈ s.registry.clients)
    (other : ∀ id, s.subscription? e ≠ some (c.address, id)) (silent : s.ages e = true) :
    Hears s e { c with timeouts := c.timeouts + 1 }

theorem hears_of_mem {s : Server α} {e : Event α} {c : Client α} (mem : c ∈ (s.heard e).clients) :
    Hears s e c := by
  unfold heard at mem
  cases request : s.subscription? e with
  | some p =>
    obtain ⟨a, id⟩ := p
    simp only [request] at mem
    have young : s.ages e = false := by
      cases e <;> simp_all [subscription?, ages]
    rcases Registry.mem_subscribe.mp mem with rfl | ⟨old, other⟩
    · exact .asked a id request
    · refine .kept c old (fun id same => other ?_) young
      rw [request, Option.some_inj, Prod.mk.injEq] at same
      exact same.1.symm
  | none =>
    simp only [request] at mem
    cases silent : s.ages e with
    | false =>
      rw [silent, if_neg Bool.false_ne_true] at mem
      exact .kept c mem (by simp [request]) silent
    | true =>
      rw [silent, if_pos rfl] at mem
      obtain ⟨old, there, rfl⟩ := Registry.mem_ageAll.mp mem
      exact .aged old there (by simp [request]) silent

/-- An open server that receives drops the silent clients, or it has no reason to look for them. -/
theorem Change.received {s t : Server α} {e : Event α} (c : Change s e t)
    (opened : s.closed = false) (receives : e.receives = true) :
    t.registry = (s.heard e).evict.2 ∨
      s.checkDue = false ∧ s.ages e = false ∧ t.registry = s.heard e := by
  cases c with
  | ignored closed _ => simp [opened] at closed
  | answered client datagram ok answer _ other =>
    have heard : s.heard (.datagram client datagram ok) = s.registry := by
      simp [heard, subscription?, other, ages]
    rw [settle_registry, heard]
    cases due : s.checkDue with
    | true => exact .inl rfl
    | false => exact .inr ⟨rfl, rfl, rfl⟩
  | subscribed client datagram ok id _ asked =>
    have heard : s.heard (.datagram client datagram ok) = (s.registry.subscribe client id).2 := by
      simp [heard, subscription?, asked, opened]
    rw [settle_registry, heard, subscribe_checkDue, subscribe_registry]
    cases due : s.checkDue with
    | true => exact .inl rfl
    | false => exact .inr ⟨rfl, rfl, rfl⟩
  | silent _ =>
    have heard : s.heard .timeout = s.registry.ageAll := by
      simp [heard, subscription?, ages, opened]
    rw [check_registry, heard]
    exact .inl rfl
  | sent sample => simp [Event.receives] at receives
  | shut _ => simp [Event.receives] at receives

theorem Change.limit {s t : Server α} {e : Event α} (c : Change s e t) :
    t.registry.limit = s.registry.limit := by
  cases c with
  | ignored _ _ => rfl
  | answered client datagram ok answer _ _ =>
    rw [settle_registry]
    split <;> rfl
  | subscribed client datagram ok id _ _ =>
    rw [settle_registry]
    split <;> simp
  | silent _ => simp
  | sent sample =>
    rw [round_registry]
    split <;> rfl
  | shut _ => rfl

theorem heard_closed {s : Server α} {e : Event α} (closed : s.closed = true)
    (notRound : ∀ sample, e ≠ .round sample) : s.heard e = s.registry := by
  cases e with
  | datagram client bytes ok => simp [heard, subscription?, ages, closed]
  | timeout => simp [heard, subscription?, ages, closed]
  | round sample => exact absurd rfl (notRound sample)
  | shutdown => simp [heard, subscription?, ages]

theorem Change.eq_of_closed {s t : Server α} {e : Event α} (c : Change s e t)
    (closed : s.closed = true) (notRound : ∀ sample, e ≠ .round sample) : t = s := by
  cases c with
  | ignored _ _ => rfl
  | sent sample => exact absurd rfl (notRound sample)
  | answered _ _ _ _ opened _ => simp [closed] at opened
  | subscribed _ _ _ _ opened _ => simp [closed] at opened
  | silent opened => simp [closed] at opened
  | shut opened => simp [closed] at opened

theorem heard_round (s : Server α) (sample : Motion) :
    (s.round sample).2.registry = s.heard (.round sample) := by
  rw [round_registry]
  rfl

/-- Whoever is left has been heard, in the same order. -/
theorem Change.clients_sublist {s t : Server α} {e : Event α} (c : Change s e t) :
    t.registry.clients.Sublist (s.heard e).clients := by
  have of_receives (opened : s.closed = false) (receives : e.receives = true) :
      t.registry.clients.Sublist (s.heard e).clients := by
    rcases c.received opened receives with dropped | ⟨-, -, kept⟩
    · rw [dropped, Registry.evict_clients]
      exact List.filter_sublist
    · simp only [kept, List.Sublist.refl]
  cases c with
  | ignored closed notRound => simp only [heard_closed closed notRound, List.Sublist.refl]
  | answered _ _ _ _ opened _ => exact of_receives opened rfl
  | subscribed _ _ _ _ opened _ => exact of_receives opened rfl
  | silent opened => exact of_receives opened rfl
  | sent sample => simp only [heard_round, List.Sublist.refl]
  | shut _ => exact List.nil_sublist _

/-! ### Who is subscribed -/

/-- What an event does to a subscription: a request renews that of its client. -/
def renewed (s : Server α) (e : Event α) (p : α × UInt32) : α × UInt32 :=
  match s.subscription? e with
  | some (client, id) => Registry.renew client id p
  | none => p

/-- The subscription that an event adds: that of a request from a new client. -/
def joining (s : Server α) (e : Event α) : List (α × UInt32) :=
  match s.subscription? e with
  | some (client, id) => if client ∈ s.registry.addresses then [] else [(client, id)]
  | none => []

@[simp] theorem renewed_fst (s : Server α) (e : Event α) (p : α × UInt32) :
    (s.renewed e p).1 = p.1 := by
  unfold renewed
  split
  · exact Registry.renew_fst _ _ p
  · rfl

theorem heard_subscriptions (s : Server α) (e : Event α) :
    (s.heard e).subscriptions = s.registry.subscriptions.map (s.renewed e) ++ s.joining e := by
  unfold heard joining
  cases asked : s.subscription? e with
  | some p =>
    have renews : s.renewed e = Registry.renew p.1 p.2 := by
      funext q
      simp [renewed, asked]
    rw [renews]
    exact Registry.subscribe_subscriptions _ _ _
  | none =>
    have keeps : s.renewed e = id := by
      funext q
      simp [renewed, asked]
    rw [keeps, List.map_id, List.append_nil]
    cases s.ages e with
    | true => exact Registry.ageAll_subscriptions _
    | false => rfl

theorem nodup_after (config : ServerConfig) (history : List (Event α)) :
    (after config history).registry.addresses.Nodup := by
  refine after_induction config (P := fun _ s => s.registry.addresses.Nodup) List.nodup_nil
    (fun past e ih => ?_) history
  have heard : ((after config past).heard e).addresses.Nodup := by
    unfold heard
    split
    · exact Registry.nodup_subscribe ih _ _
    · split
      · rwa [Registry.ageAll_addresses]
      · exact ih
  exact ((change_step _ e).clients_sublist.map _).nodup heard

/-! ### The last request -/

/-- The id of the last request from an address once an event has come. -/
def requestId (a : α) (s : Server α) (e : Event α) (last : Option UInt32) : Option UInt32 :=
  match s.subscription? e with
  | some (client, id) => if client = a then some id else last
  | none => last

/-- The id of the last request for motion data from an address. -/
def lastId (config : ServerConfig) (history : List (Event α)) (a : α) : Option UInt32 :=
  along (requestId a) (Server.new config) none history

theorem lastId_snoc (config : ServerConfig) (history : List (Event α)) (e : Event α) (a : α) :
    lastId config (history ++ [e]) a =
      requestId a (after config history) e (lastId config history a) :=
  along_snoc _ _ _ _ _

theorem requestId_asked {s : Server α} {e : Event α} {a : α} {id : UInt32}
    (request : s.subscription? e = some (a, id)) (last : Option UInt32) :
    requestId a s e last = some id := by
  simp [requestId, request]

theorem requestId_other {s : Server α} {e : Event α} {a : α}
    (other : ∀ id, s.subscription? e ≠ some (a, id)) (last : Option UInt32) :
    requestId a s e last = last := by
  unfold requestId
  split
  · rename_i client id request
    rw [if_neg]
    rintro rfl
    exact other id request
  · rfl

/-- The registry holds the id of each client's last request. -/
theorem lastId_after (config : ServerConfig) (history : List (Event α)) :
    ∀ c ∈ (after config history).registry.clients,
      lastId config history c.address = some c.id := by
  refine after_induction config (P := fun history s => ∀ c ∈ s.registry.clients,
    lastId config history c.address = some c.id) nofun (fun past e ih c mem => ?_) history
  rw [lastId_snoc]
  cases hears_of_mem ((change_step _ e).clients_sublist.subset mem) with
  | asked a id request => exact requestId_asked request _
  | kept _ there other _ =>
    rw [requestId_other other]
    exact ih c there
  | aged old there other _ =>
    rw [requestId_other other]
    exact ih old there

end MotionCast.Server
