import Mathlib.Algebra.Group.Nat.Defs
import Mathlib.Data.List.Nodup
import MotionCast.Proofs.Channel.Chronicle
import MotionCast.Proofs.Server.Clients

/-! A registry keeps a record of its history. What it knows of each client is told by what happened
to it: by the outcomes of the acts so far, who is there, since when, with which id, and how often it
was found silent since it last asked. -/

namespace MotionCast.Registry

/-- What is done to a registry. -/
inductive Act (α : Type) where
  | subscribe (address : α) (id : UInt32)
  | ageAll
  | sweep (age : Bool)
  | clear

/-- What an act came to. -/
inductive Outcome (α : Type) where
  | subscribed (address : α) (id : UInt32) (result : Subscribed)
  | aged
  | swept (age : Bool) (evicted : List α)
  | cleared
deriving DecidableEq

variable {α : Type} [DecidableEq α]

def step (r : Registry α) : Act α → Outcome α × Registry α
  | .subscribe a id => (.subscribed a id (r.subscribe a id).1, (r.subscribe a id).2)
  | .ageAll => (.aged, r.ageAll)
  | .sweep age => (.swept age (r.sweep age).1, (r.sweep age).2)
  | .clear => (.cleared, r.clear)

/-- What acts on an empty registry came to, the latest first, and the registry after them. -/
def run (limit : UInt32) (acts : List (Act α)) : List (Outcome α) × Registry α :=
  chronicle step { limit } acts

/-! ### What happened to a client -/

/-- The id of the latest subscription from an address. -/
def lastId (a : α) : List (Outcome α) → Option UInt32
  | [] => none
  | .subscribed b id _ :: past => if b = a then some id else lastId a past
  | _ :: past => lastId a past

/-- How often all clients were found silent since the latest subscription from an address. -/
def silences (a : α) : List (Outcome α) → Nat
  | [] => 0
  | .subscribed b _ _ :: past => if b = a then 0 else silences a past
  | .aged :: past => silences a past + 1
  | .swept age _ :: past => silences a past + age.toNat
  | .cleared :: past => silences a past

/-- How many acts there were when an address was last added, or none if it never was. -/
def addedAt (a : α) : List (Outcome α) → Nat
  | [] => 0
  | .subscribed b _ .added :: past => if b = a then past.length + 1 else addedAt a past
  | _ :: past => addedAt a past

/-- A client subscribed from an address and was not dropped since. -/
def IsThere (a : α) : List (Outcome α) → Prop
  | [] => False
  | .subscribed b _ _ :: past => b = a ∨ IsThere a past
  | .aged :: past => IsThere a past
  | .swept _ evicted :: past => IsThere a past ∧ a ∉ evicted
  | .cleared :: _ => False

theorem addedAt_le_length (a : α) (past : List (Outcome α)) : addedAt a past ≤ past.length := by
  induction past with
  | nil => exact Nat.le_refl 0
  | cons outcome past ih =>
    have later : addedAt a past ≤ (outcome :: past).length := Nat.le_succ_of_le ih
    cases outcome with
    | subscribed b id result =>
      cases result with
      | refreshed => exact later
      | added =>
        rw [addedAt]
        split
        · exact Nat.le_refl _
        · exact later
    | aged => exact later
    | swept age evicted => exact later
    | cleared => exact later

theorem silences_le_length (a : α) (past : List (Outcome α)) : silences a past ≤ past.length := by
  induction past with
  | nil => exact Nat.le_refl 0
  | cons outcome past ih =>
    rw [List.length_cons]
    cases outcome with
    | subscribed b id result =>
      rw [silences]
      split <;> omega
    | aged =>
      rw [silences]
      omega
    | swept age evicted =>
      have := age.toNat_le
      rw [silences]
      omega
    | cleared =>
      rw [silences]
      omega

/-! ### A record of the history -/

/-- A registry is the record of what happened. The counts are words, and start over after all of
their values. -/
structure Records (past : List (Outcome α)) (r : Registry α) : Prop where
  ordered : r.addresses.Pairwise fun a b => addedAt a past < addedAt b past
  there : ∀ a, a ∈ r.addresses ↔ IsThere a past
  lastId : ∀ c ∈ r.clients, lastId c.address past = some c.id
  silences : ∀ c ∈ r.clients, c.timeouts = UInt32.ofNat (silences c.address past)

section Records

variable {past : List (Outcome α)} {r : Registry α}

theorem Records.nodup (h : Records past r) : r.addresses.Nodup := by
  refine h.ordered.imp ?_
  rintro a b earlier rfl
  exact Nat.lt_irrefl _ earlier

theorem records_new (limit : UInt32) : Records ([] : List (Outcome α)) { limit } where
  ordered := .nil
  there a := by simp [addresses, IsThere]
  lastId c mem := nomatch mem
  silences c mem := nomatch mem

theorem subscribe_result (r : Registry α) (a : α) (id : UInt32) :
    (r.subscribe a id).1 = if a ∈ r.addresses then .refreshed else .added := by
  unfold subscribe
  by_cases there : r.contains a = true
  · rw [if_pos there, if_pos (contains_iff.mp there)]
  · rw [if_neg there, if_neg fun mem => there (contains_iff.mpr mem)]

theorem Records.subscribe (h : Records past r) (a : α) (id : UInt32) :
    Records (.subscribed a id (r.subscribe a id).1 :: past) (r.subscribe a id).2 where
  ordered := by
    rw [subscribe_result, subscribe_addresses]
    by_cases there : a ∈ r.addresses
    · rw [if_pos there, if_pos there]
      exact h.ordered
    · rw [if_neg there, if_neg there, List.pairwise_append]
      have old {b : α} (mem : b ∈ r.addresses) :
          addedAt b (.subscribed a id .added :: past) = addedAt b past :=
        if_neg fun same : a = b => there (same ▸ mem)
      refine ⟨h.ordered.imp_of_mem ?_, List.pairwise_singleton _ _, ?_⟩
      · intro b c mem mem' earlier
        rwa [old mem, old mem']
      · intro b mem c new
        obtain rfl := List.mem_singleton.mp new
        have last : addedAt c (.subscribed c id .added :: past) = past.length + 1 := if_pos rfl
        rw [old mem, last]
        exact Nat.lt_succ_of_le (addedAt_le_length b past)
  there b := by
    rw [subscribe_addresses, IsThere, ← h.there b]
    split
    · rename_i there
      constructor
      · exact .inr
      · rintro (rfl | mem)
        · exact there
        · exact mem
    · rw [List.mem_append, List.mem_singleton, or_comm, eq_comm]
  lastId c mem := by
    rcases mem_subscribe.mp mem with rfl | ⟨old, other⟩
    · exact if_pos rfl
    · exact (if_neg fun same => other same.symm).trans (h.lastId c old)
  silences c mem := by
    rcases mem_subscribe.mp mem with rfl | ⟨old, other⟩
    · rw [Registry.silences, if_pos rfl]
      rfl
    · rw [Registry.silences, if_neg fun same => other same.symm]
      exact h.silences c old

theorem Records.ageAll (h : Records past r) : Records (.aged :: past) r.ageAll where
  ordered := by
    rw [ageAll_addresses]
    exact h.ordered
  there a := by
    rw [ageAll_addresses]
    exact h.there a
  lastId c mem := by
    obtain ⟨old, there, rfl⟩ := mem_ageAll.mp mem
    exact h.lastId old there
  silences c mem := by
    obtain ⟨old, there, rfl⟩ := mem_ageAll.mp mem
    rw [Registry.silences, UInt32.ofNat_add, ← h.silences old there]
    rfl

omit [DecidableEq α] in
/-- A client is dropped or left, and never both: no other client has its address. -/
theorem mem_addresses_evict (once : r.addresses.Nodup) {a : α} :
    a ∈ r.evict.2.addresses ↔ a ∈ r.addresses ∧ a ∉ r.evict.1 := by
  simp only [mem_addresses, evict, List.mem_map, List.mem_filter]
  constructor
  · rintro ⟨c, ⟨mem, kept⟩, rfl⟩
    refine ⟨⟨c, mem, rfl⟩, ?_⟩
    rintro ⟨d, ⟨mem', dropped⟩, same⟩
    obtain rfl := List.inj_on_of_nodup_map once mem' mem same
    simp [kept] at dropped
  · rintro ⟨⟨c, mem, rfl⟩, left⟩
    refine ⟨c, ⟨mem, ?_⟩, rfl⟩
    by_cases kept : r.keeps c = true
    · exact kept
    · exact absurd ⟨c, ⟨mem, by simpa using kept⟩, rfl⟩ left

theorem Records.evict (h : Records past r) :
    Records (.swept false r.evict.1 :: past) r.evict.2 where
  ordered := h.ordered.sublist (List.filter_sublist.map _)
  there a := by
    rw [mem_addresses_evict h.nodup, h.there a]
    rfl
  lastId c mem := h.lastId c (List.mem_of_mem_filter mem)
  silences c mem := h.silences c (List.mem_of_mem_filter mem)

theorem Records.sweep (h : Records past r) (age : Bool) :
    Records (.swept age (r.sweep age).1 :: past) (r.sweep age).2 := by
  cases age with
  | false => exact h.evict
  | true =>
    obtain ⟨ordered, there, lastId, silences⟩ := h.ageAll.evict
    exact ⟨ordered, there, lastId, silences⟩

theorem Records.clear (past : List (Outcome α)) (r : Registry α) :
    Records (.cleared :: past) r.clear where
  ordered := .nil
  there a := by simp [addresses, Registry.clear, IsThere]
  lastId c mem := nomatch mem
  silences c mem := nomatch mem

theorem Records.step (h : Records past r) (act : Act α) :
    Records ((r.step act).1 :: past) (r.step act).2 := by
  cases act with
  | subscribe a id => exact h.subscribe a id
  | ageAll => exact h.ageAll
  | sweep age => exact h.sweep age
  | clear => exact .clear past r

theorem records_run (limit : UInt32) (acts : List (Act α)) :
    Records (run limit acts).1 (run limit acts).2 :=
  chronicle_induction (records_new limit) (fun _ _ act h => h.step act) acts

end Records

/-! ### What a sweep drops -/

section Sweep

omit [DecidableEq α]

/-- A client as a sweep that counts, or one that does not, finds it. -/
def found (age : Bool) (c : Client α) : Client α :=
  { c with timeouts := c.timeouts + if age then 1 else 0 }

theorem sweep_eq (r : Registry α) (age : Bool) :
    r.sweep age = evict { r with clients := r.clients.map (found age) } := by
  cases age with
  | true => rfl
  | false =>
    have same : (found false : Client α → Client α) = id := by
      funext c
      simp [found]
    rw [same, List.map_id]
    rfl

variable {r : Registry α} {age : Bool}

/-- A sweep drops who was found silent more often than the limit, its own count included, in the
order in which they joined, and keeps the others as they are. -/
def Sweeps (r : Registry α) (age : Bool) : Prop :=
  (r.sweep age).1 =
      (r.clients.filter fun c => r.limit.toNat < c.timeouts.toNat + age.toNat).map (·.address) ∧
    (r.sweep age).2.clients =
      (r.clients.filter fun c => c.timeouts.toNat + age.toNat ≤ r.limit.toNat).map (found age)

theorem sweeps_of_room
    (room : ∀ c ∈ r.clients, (found age c).timeouts.toNat = c.timeouts.toNat + age.toNat) :
    Sweeps r age := by
  have keeps : ∀ c ∈ r.clients,
      r.keeps (found age c) = decide (c.timeouts.toNat + age.toNat ≤ r.limit.toNat) := by
    intro c mem
    apply decide_eq_decide.mpr
    rw [UInt32.le_iff_toNat_le, room c mem]
  have drops : ∀ c ∈ r.clients,
      (!r.keeps (found age c)) = decide (r.limit.toNat < c.timeouts.toNat + age.toNat) := by
    intro c mem
    rw [keeps c mem, ← decide_not]
    exact decide_eq_decide.mpr Nat.not_le
  rw [Sweeps, sweep_eq, evict]
  constructor
  · rw [List.filter_map, List.map_map, ← List.filter_congr drops]
    rfl
  · rw [← List.filter_congr keeps]
    exact List.filter_map

end Sweep

/-! ### A whole history -/

section Run

variable {limit : UInt32} {acts before : List (Act α)}

theorem run_snoc (limit : UInt32) (acts : List (Act α)) (act : Act α) :
    run limit (acts ++ [act]) = (((run limit acts).2.step act).1 :: (run limit acts).1,
      ((run limit acts).2.step act).2) :=
  chronicle_snoc acts act

theorem length_run (limit : UInt32) (acts : List (Act α)) :
    (run limit acts).1.length = acts.length := by
  induction acts using List.reverseRecOn with
  | nil => rfl
  | append_singleton acts act ih => simp [run_snoc, ih]

theorem limit_run (limit : UInt32) (acts : List (Act α)) : (run limit acts).2.limit = limit := by
  have keeps (r : Registry α) (act : Act α) : (r.step act).2.limit = r.limit := by
    cases act with
    | subscribe a id => exact subscribe_limit r a id
    | ageAll => rfl
    | sweep age => exact sweep_limit r age
    | clear => rfl
  induction acts using List.reverseRecOn with
  | nil => rfl
  | append_singleton acts act ih => rw [run_snoc, keeps, ih]

/-- No client that is there was found silent so often that its count starts over. -/
def Uncrossed (limit : UInt32) (acts : List (Act α)) : Prop :=
  ∀ before, before <+: acts → ∀ c ∈ (run limit before).2.clients,
    silences c.address (run limit before).1 < 2 ^ 32

theorem uncrossed_of_few (limit : UInt32) (few : acts.length < 2 ^ 32) : Uncrossed limit acts := by
  intro before part c _
  have := silences_le_length c.address (run limit before).1
  rw [length_run] at this
  have := part.length_le
  omega

theorem Uncrossed.timeouts (h : Uncrossed limit acts) (part : before <+: acts) {c : Client α}
    (mem : c ∈ (run limit before).2.clients) :
    c.timeouts.toNat = silences c.address (run limit before).1 := by
  rw [(records_run limit before).silences c mem, UInt32.toNat_ofNat_of_lt' (h before part c mem)]

/-- A client whose count starts over is left by the sweep, and then it was found silent too often
since its subscription. -/
theorem Uncrossed.room (h : Uncrossed limit acts) {age : Bool}
    (part : before ++ [.sweep age] <+: acts) {c : Client α}
    (mem : c ∈ (run limit before).2.clients) :
    (found age c).timeouts.toNat = c.timeouts.toNat + age.toNat := by
  cases age with
  | false => simp [found]
  | true =>
    have count := h.timeouts ((List.prefix_append _ _).trans part) mem
    by_cases edge : c.timeouts.toNat + 1 = 2 ^ 32
    · have zero : (found true c).timeouts = 0 := by
        apply UInt32.toNat_inj.mp
        simp [found, UInt32.toNat_add, edge]
      have left : found true c ∈ (run limit (before ++ [.sweep true])).2.clients := by
        rw [run_snoc, step, sweep_eq, evict_clients]
        refine List.mem_filter.mpr ⟨List.mem_map_of_mem mem, ?_⟩
        rw [keeps, zero]
        simp
      have few := h _ part _ left
      rw [run_snoc] at few
      have more : silences c.address (run limit before).1 + 1 < 2 ^ 32 := few
      omega
    · have small := c.timeouts.toNat_lt
      show (c.timeouts + 1).toNat = c.timeouts.toNat + 1
      rw [UInt32.toNat_add, UInt32.toNat_one]
      omega

/-- What a registry tells of the past, and what it would answer next. -/
structure Kept (past : List (Outcome α)) (r : Registry α) : Prop where
  once : r.addresses.Nodup
  there : ∀ a, a ∈ r.addresses ↔ IsThere a past
  ordered : r.addresses.Pairwise fun a b => addedAt a past < addedAt b past
  counted : ∀ c ∈ r.clients,
    lastId c.address past = some c.id ∧ c.timeouts.toNat = silences c.address past
  answers : ∀ a id, (r.subscribe a id).1 = .refreshed ↔ a ∈ r.addresses

theorem Uncrossed.kept (h : Uncrossed limit acts) : Kept (run limit acts).1 (run limit acts).2 := by
  have records := records_run limit acts
  refine ⟨records.nodup, records.there, records.ordered, ?_, ?_⟩
  · intro c mem
    exact ⟨records.lastId c mem, h.timeouts (List.prefix_refl acts) mem⟩
  · intro a id
    rw [subscribe_result]
    split <;> simp [*]

/-- The registry after any acts is what its history says it is, and each of the sweeps dropped who
was due. -/
theorem history_kept (limit : UInt32) (acts : List (Act α)) (uncrossed : Uncrossed limit acts) :
    Kept (run limit acts).1 (run limit acts).2 ∧ (run limit acts).2.limit = limit ∧
      ∀ before age, before ++ [.sweep age] <+: acts → Sweeps (run limit before).2 age := by
  refine ⟨uncrossed.kept, limit_run limit acts, ?_⟩
  intro before age part
  exact sweeps_of_room fun c mem => uncrossed.room part mem

/-- Two clients, one of which asks again and is left when the other is dropped, before that one
comes back. -/
theorem history_kept_of_two :
    let acts : List (Act Nat) := [.subscribe 1 10, .subscribe 2 20, .ageAll, .subscribe 1 11,
      .sweep true, .subscribe 2 21, .sweep false]
    Uncrossed 1 acts ∧ Kept (run 1 acts).1 (run 1 acts).2 ∧
      (run 1 acts).1.reverse = [.subscribed 1 10 .added, .subscribed 2 20 .added, .aged,
        .subscribed 1 11 .refreshed, .swept true [2], .subscribed 2 21 .added, .swept false []] ∧
      (run 1 acts).2.clients = [⟨1, 11, 1⟩, ⟨2, 21, 0⟩] := by
  intro acts
  have uncrossed : Uncrossed 1 acts := uncrossed_of_few 1 (by decide)
  obtain ⟨kept, -, -⟩ := history_kept 1 acts uncrossed
  exact ⟨uncrossed, kept, by decide, by decide⟩

end Run

end MotionCast.Registry
