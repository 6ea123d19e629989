import Mathlib.Algebra.GroupWithZero.Nat
import Mathlib.Logic.Basic
import MotionCast.Capture.MissedTicks

/-! What is told of the gaps that a receiver leaves. Each gap that ends is told to start once and to
end once, with a report for each full period of it. What the reports tell adds up to the length of
the gap, except when the gap is just one period long: then the report of that period and the one of
the end tell all of it twice. -/

namespace MotionCast

namespace MissedEvent

/-- How many missed values a report adds to those told before. -/
def told : MissedEvent → Nat
  | started => 0
  | stillMissing missed _ => missed.toNat
  | recovered missed _ => missed.toNat

/-- How many values a report says were received before the gap. -/
def after? : MissedEvent → Option Nat
  | started => none
  | stillMissing _ after => some after.toNat
  | recovered _ after => some after.toNat

def isRecovered : MissedEvent → Bool
  | recovered _ _ => true
  | _ => false

end MissedEvent

namespace MissedTicks

variable {t : MissedTicks} {period : UInt32} {g : Nat}

/-! ### Observations in a row -/

/-- An observation, with what was told before it, the latest first. -/
def tell (told : List MissedEvent × MissedTicks) (received : Bool) :
    List MissedEvent × MissedTicks :=
  ((told.2.observe received).1.toList ++ told.1, (told.2.observe received).2)

theorem observeAll_eq_foldl (t : MissedTicks) (history : List Bool) :
    t.observeAll history =
      ((history.foldl tell ([], t)).1.reverse, (history.foldl tell ([], t)).2) := rfl

/-- What was told before stays behind what is told later. -/
theorem foldl_tell (told : List MissedEvent) (t : MissedTicks) (later : List Bool) :
    later.foldl tell (told, t) =
      ((t.observeAll later).1.reverse ++ told, (t.observeAll later).2) := by
  induction later generalizing told t with
  | nil => rfl
  | cons received later ih =>
    rw [observeAll_eq_foldl, List.foldl_cons, List.foldl_cons, tell, tell, ih, ih]
    simp

theorem observeAll_nil (t : MissedTicks) : t.observeAll [] = ([], t) := rfl

theorem observeAll_cons (t : MissedTicks) (received : Bool) (later : List Bool) :
    t.observeAll (received :: later) =
      ((t.observe received).1.toList ++ ((t.observe received).2.observeAll later).1,
        ((t.observe received).2.observeAll later).2) := by
  rw [observeAll_eq_foldl, List.foldl_cons, tell, foldl_tell]
  cases (t.observe received).1 <;> simp

theorem observeAll_append (t : MissedTicks) (first later : List Bool) :
    t.observeAll (first ++ later) =
      ((t.observeAll first).1 ++ ((t.observeAll first).2.observeAll later).1,
        ((t.observeAll first).2.observeAll later).2) := by
  induction first generalizing t with
  | nil => rfl
  | cons received first ih => simp [observeAll_cons, ih]

theorem observeAll_snoc (t : MissedTicks) (first : List Bool) (received : Bool) :
    t.observeAll (first ++ [received]) =
      ((t.observeAll first).1 ++ ((t.observeAll first).2.observe received).1.toList,
        ((t.observeAll first).2.observe received).2) := by
  simp [observeAll_append, observeAll_cons, observeAll_nil]

/-! ### One observation -/

theorem observe_false (t : MissedTicks) :
    t.observe false = (t.missEvent? (t.missed + 1), { t with missed := t.missed + 1 }) := rfl

theorem observe_true_of_gap (gap : t.missed ≠ 0) :
    t.observe true =
      (some (.recovered t.rest t.delivered), { t with missed := 0, delivered := 0 }) := by
  have positive : t.missed > 0 := UInt32.pos_iff_ne_zero.mpr gap
  simp [observe, positive]

theorem observe_true_of_none (none : t.missed = 0) :
    t.observe true =
      (.none, { t with
        delivered := if t.delivered = 0xFFFFFFFF then t.delivered else t.delivered + 1 }) := by
  rw [observe, if_neg (by decide), if_neg (by simp [none])]
  split <;> rfl

theorem missed_observe_true (t : MissedTicks) : (t.observe true).2.missed = 0 := by
  by_cases none : t.missed = 0
  · rw [observe_true_of_none none]
    exact none
  · rw [observe_true_of_gap none]

/-! ### A row of misses -/

theorem state_of_misses (t : MissedTicks) (n : Nat) :
    (t.observeAll (List.replicate n false)).2 = { t with missed := t.missed + UInt32.ofNat n } := by
  induction n with
  | zero => simp [observeAll_nil]
  | succ n ih =>
    rw [List.replicate_succ', observeAll_snoc, ih, observe_false]
    simp [UInt32.ofNat_add, UInt32.add_assoc]

/-- A gap is told to start, and then told once for each full period. -/
theorem events_of_misses (fresh : t.missed = 0) (period : 2 ≤ t.period.toNat) (positive : 0 < g)
    (fits : g < 2 ^ 32) :
    (t.observeAll (List.replicate g false)).1 =
      .started :: List.replicate (g / t.period.toNat) (.stillMissing t.period t.delivered) := by
  induction g with
  | zero => contradiction
  | succ g ih =>
    by_cases first : g = 0
    · subst first
      rw [Nat.div_eq_of_lt period]
      simp [observeAll_cons, observeAll_nil, observe_false, fresh, missEvent?]
    have told := ih (by omega) (by omega)
    have length : (0 + UInt32.ofNat g + 1).toNat = g + 1 := by
      rw [UInt32.zero_add, UInt32.toNat_add, UInt32.toNat_ofNat', UInt32.toNat_one]
      omega
    have not_first : ¬0 + UInt32.ofNat g + 1 = 1 := by
      rw [← UInt32.toNat_inj, length]
      simpa using first
    have full : (0 + UInt32.ofNat g + 1) % t.period = 0 ↔ t.period.toNat ∣ g + 1 := by
      rw [← UInt32.toNat_inj, UInt32.toNat_mod, length, Nat.dvd_iff_mod_eq_zero]
      rfl
    rw [List.replicate_succ', observeAll_snoc, told, state_of_misses, observe_false, fresh]
    simp only [missEvent?, if_neg not_first, full, Nat.succ_div]
    split
    · simp [List.replicate_succ']
    · simp

theorem toNat_missed (fits : g < 2 ^ 32) : (0 + UInt32.ofNat g).toNat = g := by
  rw [UInt32.zero_add, UInt32.toNat_ofNat', Nat.mod_eq_of_lt fits]

/-- What is told when a gap ends is what the full periods of it left over, or all of it if it is not
longer than one period. -/
theorem toNat_rest {missed : UInt32} :
    ({ t with missed } : MissedTicks).rest.toNat =
      if t.period.toNat < missed.toNat then missed.toNat % t.period.toNat else missed.toNat := by
  rw [rest]
  split
  · rename_i longer
    rw [if_pos (UInt32.lt_iff_toNat_lt.mp longer), UInt32.toNat_mod]
  · rename_i shorter
    rw [if_neg (mt UInt32.lt_iff_toNat_lt.mpr shorter)]

/-- The reports on a whole gap. -/
theorem events_of_gap (fresh : t.missed = 0) (period : 2 ≤ t.period.toNat) (positive : 0 < g)
    (fits : g < 2 ^ 32) :
    ∃ rest : UInt32,
      rest.toNat = (if t.period.toNat < g then g % t.period.toNat else g) ∧
      (t.observeAll (List.replicate g false ++ [true])).1 =
        .started :: List.replicate (g / t.period.toNat) (.stillMissing t.period t.delivered) ++
          [.recovered rest t.delivered] := by
  have missed : (t.missed + UInt32.ofNat g).toNat = g := by rw [fresh, toNat_missed fits]
  have gap : t.missed + UInt32.ofNat g ≠ 0 := by
    rw [← UInt32.toNat_inj.ne, missed]
    exact Nat.ne_of_gt positive
  refine ⟨({ t with missed := t.missed + UInt32.ofNat g } : MissedTicks).rest, ?_, ?_⟩
  · rw [toNat_rest, missed]
  · rw [observeAll_snoc, events_of_misses fresh period positive fits, state_of_misses,
      observe_true_of_gap gap]
    rfl

/-- The full periods of a gap and what is left over add up to it, but a gap of one period is left
over whole. -/
theorem sum_told {delivered rest : UInt32} (positive : 0 < period.toNat)
    (left : rest.toNat = if period.toNat < g then g % period.toNat else g) :
    ((MissedEvent.started ::
        List.replicate (g / period.toNat) (MissedEvent.stillMissing period delivered) ++
          [MissedEvent.recovered rest delivered]).map MissedEvent.told).sum =
      if g = period.toNat then 2 * g else g := by
  have sum : ((MissedEvent.started ::
        List.replicate (g / period.toNat) (MissedEvent.stillMissing period delivered) ++
          [MissedEvent.recovered rest delivered]).map MissedEvent.told).sum =
      g / period.toNat * period.toNat + rest.toNat := by
    simp [MissedEvent.told]
  rw [sum, left]
  rcases Nat.lt_trichotomy g period.toNat with short | same | long
  · rw [Nat.div_eq_of_lt short, if_neg (by omega), if_neg (by omega)]
    omega
  · rw [same, Nat.div_self positive, if_neg (Nat.lt_irrefl _), if_pos rfl]
    omega
  · rw [if_pos long, if_neg (by omega), Nat.mul_comm, Nat.div_add_mod]

/-! ### A history of observations -/

/-- `count` values were received since a gap was found to end, or since the start. The misses are
counted modulo 2^32, and at the end of a gap of a multiple of that no gap is found. -/
inductive Received : List Bool → Nat → Prop
  | fromStart (count : Nat) : Received (List.replicate count true) count
  | fromGap {earlier : List Bool} {length : Nat} (count : Nat)
      (maximal : earlier.getLast? ≠ some false) (found : length % 2 ^ 32 ≠ 0) :
      Received (earlier ++ List.replicate length false ++ true :: List.replicate count true) count

theorem period_observe (t : MissedTicks) (received : Bool) :
    (t.observe received).2.period = t.period := by
  unfold observe
  split
  · rfl
  · split
    · rfl
    · split <;> rfl

theorem period_observeAll (t : MissedTicks) (history : List Bool) :
    (t.observeAll history).2.period = t.period := by
  induction history generalizing t with
  | nil => rfl
  | cons received later ih => rw [observeAll_cons, ih, period_observe]

/-- Where a gap can start, none is open. -/
theorem missed_of_maximal {history : List Bool} (maximal : history.getLast? ≠ some false) :
    ((new period).observeAll history).2.missed = 0 := by
  rcases List.eq_nil_or_concat history with rfl | ⟨earlier, last, rfl⟩
  · rfl
  · cases last with
    | false => simp at maximal
    | true =>
      rw [List.concat_eq_append, observeAll_snoc]
      exact missed_observe_true _

theorem toNat_delivered_observe (none : t.missed = 0) :
    (t.observe true).2.delivered.toNat = min (t.delivered.toNat + 1) (2 ^ 32 - 1) := by
  have bound := t.delivered.toNat_lt
  rw [observe_true_of_none none]
  show (if t.delivered = 0xFFFFFFFF then t.delivered else t.delivered + 1).toNat = _
  split
  · rename_i full
    rw [full]
    rfl
  · rename_i room
    have below : t.delivered.toNat ≠ 2 ^ 32 - 1 := fun last => room (UInt32.toNat_inj.mp last)
    rw [UInt32.toNat_add, UInt32.toNat_one]
    omega

theorem toNat_delivered_observeAll (none : t.missed = 0) (count : Nat) :
    (t.observeAll (List.replicate count true)).2.delivered.toNat =
      min (t.delivered.toNat + count) (2 ^ 32 - 1) := by
  induction count generalizing t with
  | zero =>
    have bound := t.delivered.toNat_lt
    rw [List.replicate_zero, observeAll_nil]
    show t.delivered.toNat = _
    omega
  | succ count ih =>
    rw [List.replicate_succ, observeAll_cons]
    show ((t.observe true).2.observeAll (List.replicate count true)).2.delivered.toNat = _
    rw [ih (missed_observe_true t), toNat_delivered_observe none]
    omega

/-- The count of received values is that of the history, up to the largest number. -/
theorem Received.delivered {history : List Bool} {count : Nat} (h : Received history count) :
    ((new period).observeAll history).2.delivered.toNat = min count (2 ^ 32 - 1) := by
  cases h with
  | fromStart =>
    rw [toNat_delivered_observeAll rfl]
    exact congrArg (min · (2 ^ 32 - 1)) (Nat.zero_add count)
  | @fromGap earlier length count maximal found =>
    have fresh : ((new period).observeAll earlier).2.missed = 0 := missed_of_maximal maximal
    have gap : ((new period).observeAll earlier).2.missed + UInt32.ofNat length ≠ 0 := by
      rw [fresh, UInt32.zero_add, ← UInt32.toNat_inj.ne, UInt32.toNat_ofNat']
      exact found
    rw [observeAll_append, observeAll_append, observeAll_cons, state_of_misses,
      observe_true_of_gap gap]
    show (observeAll _ (List.replicate count true)).2.delivered.toNat = _
    rw [toNat_delivered_observeAll rfl]
    exact congrArg (min · (2 ^ 32 - 1)) (Nat.zero_add count)

/-- A gap is told to start once and to end once, and each report on it says how many values were
received before it. The reports add up to its length, or to twice that when it is one period
long. -/
theorem gap_told (period : UInt32) (two : 2 ≤ period.toNat) (before later : List Bool)
    (maximal : before.getLast? ≠ some false) (g : Nat) (positive : 0 < g) (fits : g < 2 ^ 32) :
    ∃ events : List MissedEvent,
      ((new period).observeAll (before ++ (List.replicate g false ++ [true]) ++ later)).1 =
        ((new period).observeAll before).1 ++ events ++
          (((new period).observeAll
            (before ++ (List.replicate g false ++ [true]))).2.observeAll later).1 ∧
      events = (((new period).observeAll before).2.observeAll
        (List.replicate g false ++ [true])).1 ∧
      events.count .started = 1 ∧
      events.countP MissedEvent.isRecovered = 1 ∧
      (events.map MissedEvent.told).sum = (if g = period.toNat then 2 * g else g) ∧
      ∀ count, Received before count → ∀ event ∈ events, ∀ after, event.after? = some after →
        after = min count (2 ^ 32 - 1) := by
  have fresh : ((new period).observeAll before).2.missed = 0 := missed_of_maximal maximal
  have same : ((new period).observeAll before).2.period = period := by
    have longer : ¬period ≤ 1 := by
      rw [UInt32.le_iff_toNat_le, UInt32.toNat_one]
      omega
    rw [period_observeAll]
    show (if period ≤ 1 then 1 else period) = period
    rw [if_neg longer]
  obtain ⟨rest, left, events⟩ := events_of_gap fresh (by rwa [same]) positive fits
  rw [same] at left events
  refine ⟨_, ?_, events.symm, ?_, ?_, sum_told (by omega) left, ?_⟩
  · rw [← events, observeAll_append _ (before ++ _), observeAll_append _ before]
  · simp [List.count_append, List.count_replicate]
  · simp [List.countP_append, List.countP_replicate, MissedEvent.isRecovered]
  · intro count received event present after tells
    rw [← received.delivered]
    simp only [List.cons_append, List.mem_cons, List.mem_append, List.mem_replicate,
      List.not_mem_nil, or_false] at present
    rcases present with rfl | ⟨-, rfl⟩ | rfl
    · contradiction
    · exact (Option.some.inj tells).symm
    · exact (Option.some.inj tells).symm

/-- A gap of two full periods of four and one value more, after a shorter gap. -/
theorem gap_told_of_nine :
    let before : List Bool := [true, false, true, true]
    let events := (((new 4).observeAll before).2.observeAll (List.replicate 9 false ++ [true])).1
    2 ≤ (4 : UInt32).toNat ∧ before.getLast? ≠ some false ∧ Received before 1 ∧
      events.count .started = 1 ∧ events.countP MissedEvent.isRecovered = 1 ∧
      (events.map MissedEvent.told).sum = 9 ∧
      ∀ event ∈ events, ∀ after, event.after? = some after → after = 1 := by
  intro before events
  have two : 2 ≤ (4 : UInt32).toNat := by decide
  have maximal : before.getLast? ≠ some false := by decide
  have received : Received ([true] ++ List.replicate 1 false ++ true :: List.replicate 1 true) 1 :=
    .fromGap 1 (by decide) (by decide)
  obtain ⟨_, -, rfl, started, recovered, sum, heard⟩ :=
    gap_told 4 two before [] maximal 9 (by decide) (by decide)
  exact ⟨two, maximal, received, started, recovered, sum, heard 1 received⟩

/-- A gap of four values, at a report each four values. -/
theorem gap_of_one_period_told_twice :
    ¬∀ (period : UInt32) (before : List Bool) (g : Nat), 2 ≤ period.toNat →
      before.getLast? ≠ some false → 0 < g → g < 2 ^ 32 →
      ((((new period).observeAll before).2.observeAll
        (List.replicate g false ++ [true])).1.map MissedEvent.told).sum = g := by
  intro exact_sum
  have sum := exact_sum 4 [] 4 (by decide) (by decide) (by decide) (by decide)
  exact absurd sum (by decide)

end MissedTicks

end MotionCast
