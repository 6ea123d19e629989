import MotionCast.Server.Registry

/-! What the operations on a registry do to its clients: which clients are there afterwards, at
which addresses, and in which order. -/

namespace MotionCast.Registry

variable {α : Type}

/-- The addresses of the clients, in the order in which they joined. -/
def addresses (r : Registry α) : List α := r.clients.map (·.address)

theorem mem_addresses {r : Registry α} {a : α} :
    a ∈ r.addresses ↔ ∃ c ∈ r.clients, c.address = a := List.mem_map

/-- Who is subscribed, with the ids of the last requests. -/
def subscriptions (r : Registry α) : List (α × UInt32) := r.clients.map fun c => (c.address, c.id)

theorem map_fst_subscriptions (r : Registry α) : r.subscriptions.map Prod.fst = r.addresses := by
  simp [subscriptions, addresses]

theorem contains_iff [DecidableEq α] {r : Registry α} {a : α} :
    r.contains a = true ↔ a ∈ r.addresses := by
  simp [contains, get?, mem_addresses]

/-! ### A subscription -/

section Subscribe

variable [DecidableEq α]

@[simp] theorem subscribe_limit (r : Registry α) (a : α) (id : UInt32) :
    (r.subscribe a id).2.limit = r.limit := by
  unfold subscribe
  split <;> rfl

/-- After a subscription its client is there, with the new id and no silence counted, and every
other client as it was. -/
theorem mem_subscribe {r : Registry α} {a : α} {id : UInt32} {c : Client α} :
    c ∈ (r.subscribe a id).2.clients ↔
      c = { address := a, id } ∨ c ∈ r.clients ∧ c.address ≠ a := by
  unfold subscribe
  by_cases there : r.contains a = true
  · rw [if_pos there]
    obtain ⟨old, mem, rfl⟩ := mem_addresses.mp (contains_iff.mp there)
    simp only [List.mem_map]
    constructor
    · rintro ⟨c', mem', rfl⟩
      by_cases same : c'.address = old.address
      · simp [same]
      · simp [same, mem']
    · rintro (rfl | ⟨mem', other⟩)
      · exact ⟨old, mem, by simp⟩
      · exact ⟨c, mem', by simp [other]⟩
  · rw [if_neg there, List.mem_append, List.mem_singleton, or_comm]
    have absent : c ∈ r.clients → c.address ≠ a := fun mem same =>
      there (contains_iff.mpr (mem_addresses.mpr ⟨c, mem, same⟩))
    simp only [and_iff_left_of_imp absent]

/-- What a request does to the subscription of a client. -/
def renew (a : α) (id : UInt32) (p : α × UInt32) : α × UInt32 := if p.1 = a then (a, id) else p

@[simp] theorem renew_fst (a : α) (id : UInt32) (p : α × UInt32) : (renew a id p).1 = p.1 := by
  unfold renew
  split
  · rename_i same
    exact same.symm
  · rfl

/-- Clients keep their places, and a new one joins at the end. -/
theorem subscribe_subscriptions (r : Registry α) (a : α) (id : UInt32) :
    (r.subscribe a id).2.subscriptions =
      r.subscriptions.map (renew a id) ++ if a ∈ r.addresses then [] else [(a, id)] := by
  unfold subscribe
  by_cases there : r.contains a = true
  · rw [if_pos there, if_pos (contains_iff.mp there), List.append_nil]
    simp only [subscriptions, List.map_map]
    apply List.map_congr_left
    intro c _
    by_cases same : c.address = a <;> simp [renew, same]
  · have absent : a ∉ r.addresses := fun mem => there (contains_iff.mpr mem)
    rw [if_neg there, if_neg absent]
    have kept : ∀ c ∈ r.clients, renew a id (c.address, c.id) = (c.address, c.id) := by
      intro c mem
      exact if_neg fun same => absent (mem_addresses.mpr ⟨c, mem, same⟩)
    simpa [subscriptions] using fun c mem => (kept c mem).symm

theorem subscribe_addresses (r : Registry α) (a : α) (id : UInt32) :
    (r.subscribe a id).2.addresses =
      if a ∈ r.addresses then r.addresses else r.addresses ++ [a] := by
  rw [← map_fst_subscriptions, subscribe_subscriptions, List.map_append, List.map_map]
  have kept : (Prod.fst ∘ renew a id : α × UInt32 → α) = Prod.fst := funext (renew_fst a id)
  rw [kept, map_fst_subscriptions]
  split <;> simp

theorem nodup_subscribe {r : Registry α} (h : r.addresses.Nodup) (a : α) (id : UInt32) :
    (r.subscribe a id).2.addresses.Nodup := by
  rw [subscribe_addresses]
  split
  · exact h
  · rename_i absent
    rw [List.nodup_append]
    refine ⟨h, by simp, ?_⟩
    rintro b mem c new rfl
    exact absent (List.mem_singleton.mp new ▸ mem)

theorem subscribe_ne_nil (r : Registry α) (a : α) (id : UInt32) :
    (r.subscribe a id).2.clients ≠ [] :=
  List.ne_nil_of_mem (mem_subscribe.mpr (.inl rfl))

end Subscribe

/-! ### Silence -/

@[simp] theorem ageAll_limit (r : Registry α) : r.ageAll.limit = r.limit := rfl

@[simp] theorem ageAll_addresses (r : Registry α) : r.ageAll.addresses = r.addresses := by
  simp [addresses, ageAll, Function.comp_def]

@[simp] theorem ageAll_subscriptions (r : Registry α) :
    r.ageAll.subscriptions = r.subscriptions := by
  simp [subscriptions, ageAll, Function.comp_def]

@[simp] theorem ageAll_nil_iff (r : Registry α) : r.ageAll.clients = [] ↔ r.clients = [] :=
  List.map_eq_nil_iff

theorem mem_ageAll {r : Registry α} {c : Client α} :
    c ∈ r.ageAll.clients ↔ ∃ old ∈ r.clients, { old with timeouts := old.timeouts + 1 } = c :=
  List.mem_map

@[simp] theorem evict_limit (r : Registry α) : r.evict.2.limit = r.limit := rfl

theorem evict_clients (r : Registry α) : r.evict.2.clients = r.clients.filter r.keeps := rfl

@[simp] theorem sweep_limit (r : Registry α) (age : Bool) : (r.sweep age).2.limit = r.limit := by
  cases age <;> rfl

theorem sweep_nil {r : Registry α} (h : r.clients = []) (age : Bool) :
    (r.sweep age).2.clients = [] := by
  cases age <;> simp [sweep, evict, ageAll, h]

end MotionCast.Registry
