import Mathlib.Algebra.GroupWithZero.Nat
import Mathlib.Algebra.Ring.Int.Defs
import MotionCast.Sampling.Calibrator

/-! What a recording for calibration holds. It counts the reports after the first that have another
counter than the report before them, sums up their turns, and spans as many periods as the counter
advanced in all. So repeats of a report leave no trace in it, and where the counter starts, or
whether it wraps in between, has no effect on the estimate. -/

namespace MotionCast

/-- The report with its counter so much further on. -/
def Report.shifted (offset : UInt32) (r : Report) : Report :=
  { r with counter := r.counter + offset }

/-- The mark with its counter so much further on. -/
def Mark.shifted (offset : UInt32) (m : Mark) : Mark := { m with counter := m.counter + offset }

namespace Calibrator

/-- Takes reports one after another. -/
def processAll (c : Calibrator) (reports : List Report) : Calibrator := reports.foldl process c

/-! ### Reports in a row -/

/-- Each report but the last, with the next one. -/
def pairs (reports : List Report) : List (Report × Report) := reports.zip reports.tail

/-- How far the counter advances from a report to the next. -/
def advance (pair : Report × Report) : UInt32 := pair.2.counter - pair.1.counter

/-- How far the counter advances in all. -/
def span (reports : List Report) : Nat := ((pairs reports).map fun pair => (advance pair).toNat).sum

/-- The reports after the first to which the counter advances. -/
def advancing (reports : List Report) : List Report :=
  ((pairs reports).filter fun pair => advance pair ≠ 0).map (·.2)

/-- The turns that some reports show, summed up. -/
def turns (reports : List Report) : Int := (reports.map fun r => r.gyro.rightToLeft.toInt).sum

variable {c : Calibrator} {mark : Mark} {before r : Report} {offset : UInt32}

theorem advance_eq_zero_iff (before r : Report) :
    advance (before, r) = 0 ↔ r.counter = before.counter := by
  rw [advance, UInt32.sub_eq_iff_eq_add, UInt32.zero_add]

theorem toNat_advance_eq_zero_iff (before r : Report) :
    (advance (before, r)).toNat = 0 ↔ r.counter = before.counter := by
  rw [← advance_eq_zero_iff, ← UInt32.toNat_inj, UInt32.toNat_zero]

theorem span_cons_cons (before r : Report) (rest : List Report) :
    span (before :: r :: rest) = (advance (before, r)).toNat + span (r :: rest) := rfl

theorem advancing_cons_cons (before r : Report) (rest : List Report) :
    advancing (before :: r :: rest) =
      if r.counter = before.counter then advancing (r :: rest) else r :: advancing (r :: rest) := by
  have repeats := advance_eq_zero_iff before r
  split
  · rename_i repeated
    have none := repeats.mpr repeated
    simp [advancing, pairs, none]
  · rename_i other
    have some := mt repeats.mp other
    simp [advancing, pairs, some]

/-- Each report to which the counter advances takes it at least one further. -/
theorem length_advancing_le_span (reports : List Report) :
    (advancing reports).length ≤ span reports := by
  cases reports with
  | nil => exact Nat.le_refl 0
  | cons before rest =>
    induction rest generalizing before with
    | nil => exact Nat.le_refl 0
    | cons r rest ih =>
      have later := ih r
      rw [advancing_cons_cons, span_cons_cons]
      split
      · omega
      · rename_i other
        have advanced := mt (toNat_advance_eq_zero_iff before r).mp other
        rw [List.length_cons]
        omega

theorem span_eq_zero_iff (reports : List Report) : span reports = 0 ↔ advancing reports = [] := by
  cases reports with
  | nil => exact iff_of_true rfl rfl
  | cons before rest =>
    induction rest generalizing before with
    | nil => exact iff_of_true rfl rfl
    | cons r rest ih =>
      have repeats := toNat_advance_eq_zero_iff before r
      rw [advancing_cons_cons, span_cons_cons, Nat.add_eq_zero_iff, repeats, ih r]
      split <;> simp [*]

theorem turns_cons (r : Report) (rest : List Report) :
    turns (r :: rest) = r.gyro.rightToLeft.toInt + turns rest := List.sum_cons

theorem natAbs_turns_le (reports : List Report) :
    (turns reports).natAbs ≤ 2 ^ 15 * reports.length := by
  induction reports with
  | nil => exact Nat.zero_le _
  | cons r rest ih =>
    have low := r.gyro.rightToLeft.le_toInt
    have high := r.gyro.rightToLeft.toInt_lt
    rw [turns_cons, List.length_cons]
    omega

/-- The advances add up to the difference of the last counter to the first, modulo 2^32. -/
theorem toNat_sub_eq_span (before : Report) (rest : List Report) :
    ((rest.getLastD before).counter - before.counter).toNat = span (before :: rest) % 2 ^ 32 := by
  induction rest generalizing before with
  | nil => simp [span, pairs]
  | cons r rest ih =>
    have telescoped : (rest.getLastD r).counter - before.counter =
        advance (before, r) + ((rest.getLastD r).counter - r.counter) := by
      rw [advance]
      grind
    rw [List.getLastD_cons, span_cons_cons, telescoped, UInt32.toNat_add, ih]
    omega

/-! ### A recording that goes on -/

theorem process_of_repeat (began : c.start = some mark)
    (repeated : r.counter = (c.last.getD mark).counter) : c.process r = c := by
  rw [process, began]
  exact if_pos repeated

theorem process_of_other (began : c.start = some mark)
    (other : r.counter ≠ (c.last.getD mark).counter) :
    c.process r = { c with
      last := some ⟨r.counter, r.accel.frontToBack⟩
      gyroSum := c.gyroSum + r.gyro.rightToLeft.toInt
      samples := c.samples + 1 } := by
  rw [process, began]
  exact if_neg other

/-- A recording that began at a mark, and after which a report repeats if it has the counter of
`before`. -/
structure Follows (c : Calibrator) (mark : Mark) (before : Report) : Prop where
  began : c.start = some mark
  counter : (c.last.getD mark).counter = before.counter

theorem Follows.process_new (period : Nanos) (first : Report) :
    ((new period).process first).Follows ⟨first.counter, first.accel.frontToBack⟩ first :=
  ⟨rfl, rfl⟩

theorem Follows.periods (h : c.Follows mark before) :
    c.periods = before.counter - mark.counter := by
  have counter := h.counter
  rw [Calibrator.periods, h.began]
  cases last : c.last with
  | none =>
    rw [last] at counter
    rw [← counter]
    exact (UInt32.sub_self _).symm
  | some latest =>
    rw [last] at counter
    rw [← counter]
    rfl

/-- A report that repeats leaves a recording as it was. -/
theorem Follows.process_repeat (h : c.Follows mark before)
    (repeated : r.counter = before.counter) : c.process r = c :=
  process_of_repeat h.began (repeated.trans h.counter.symm)

theorem Follows.process_other (h : c.Follows mark before) (other : r.counter ≠ before.counter) :
    c.process r = { c with
      last := some ⟨r.counter, r.accel.frontToBack⟩
      gyroSum := c.gyroSum + r.gyro.rightToLeft.toInt
      samples := c.samples + 1 } :=
  process_of_other h.began fun same => other (same.trans h.counter)

theorem Follows.process (h : c.Follows mark before) (r : Report) :
    (c.process r).Follows mark r := by
  by_cases repeated : r.counter = before.counter
  · rw [h.process_repeat repeated]
    exact ⟨h.began, h.counter.trans repeated.symm⟩
  · rw [h.process_other repeated]
    exact ⟨h.began, rfl⟩

theorem Follows.processAll (h : c.Follows mark before) (rest : List Report) :
    (c.processAll rest).Follows mark (rest.getLastD before) ∧
      (c.processAll rest).devicePeriod = c.devicePeriod ∧
      (c.processAll rest).samples = c.samples + (advancing (before :: rest)).length ∧
      (c.processAll rest).gyroSum = c.gyroSum + turns (advancing (before :: rest)) := by
  induction rest generalizing c before with
  | nil => exact ⟨h, rfl, rfl, (Int.add_zero _).symm⟩
  | cons r rest ih =>
    obtain ⟨follows, period, samples, sum⟩ := ih (h.process r)
    rw [List.getLastD_cons, advancing_cons_cons]
    refine ⟨follows, ?_⟩
    rw [Calibrator.processAll, List.foldl_cons, ← Calibrator.processAll, period, samples, sum]
    split
    · rename_i repeated
      rw [h.process_repeat repeated]
      exact ⟨rfl, rfl, rfl⟩
    · rename_i other
      rw [h.process_other other, turns_cons]
      refine ⟨rfl, ?_, ?_⟩
      · simp only [List.length_cons]
        omega
      · simp only
        omega

theorem Follows.processAll_repeats (h : c.Follows mark before) {repeats : List Report}
    (repeated : ∀ r ∈ repeats, r.counter = before.counter) : c.processAll repeats = c := by
  induction repeats with
  | nil => rfl
  | cons r rest ih =>
    have here := h.process_repeat (repeated r (List.mem_cons_self ..))
    rw [Calibrator.processAll, List.foldl_cons, here]
    exact ih fun later present => repeated later (List.mem_cons_of_mem _ present)

/-! ### Recordings as a whole -/

theorem processAll_append (c : Calibrator) (front back : List Report) :
    c.processAll (front ++ back) = (c.processAll front).processAll back := List.foldl_append

/-- After some reports, the last of them is the one that a next report repeats or not. -/
theorem exists_follows (period : Nanos) (front : List Report) (last : Report) :
    ∃ mark, ((new period).processAll (front ++ [last])).Follows mark last := by
  cases front with
  | nil => exact ⟨_, .process_new period last⟩
  | cons first rest =>
    obtain ⟨follows, -⟩ := (Follows.process_new period first).processAll (rest ++ [last])
    rw [List.getLastD_concat] at follows
    exact ⟨_, follows⟩

/-- Repeats of a report leave no trace, whatever else they hold. -/
theorem processAll_insert_repeats (period : Nanos) (front back : List Report) {last : Report}
    {repeats : List Report} (repeated : ∀ r ∈ repeats, r.counter = last.counter) :
    (new period).processAll (front ++ last :: (repeats ++ back)) =
      (new period).processAll (front ++ last :: back) := by
  obtain ⟨mark, follows⟩ := exists_follows period front last
  have none := follows.processAll_repeats repeated
  rw [List.append_cons, List.append_cons front last back, processAll_append, processAll_append,
    none, processAll_append _ (front ++ [last])]

theorem devicePeriod_process (c : Calibrator) (r : Report) :
    (c.process r).devicePeriod = c.devicePeriod := by
  unfold process
  split
  · rfl
  · split <;> rfl

theorem devicePeriod_processAll (c : Calibrator) (reports : List Report) :
    (c.processAll reports).devicePeriod = c.devicePeriod := by
  induction reports generalizing c with
  | nil => rfl
  | cons r rest ih => exact (ih _).trans (devicePeriod_process c r)

/-- An emptied recording is a new one. -/
theorem reset_processAll (period : Nanos) (history : List Report) :
    ((new period).processAll history).reset = new period :=
  congrArg new (devicePeriod_processAll ..)

/-! ### Counters that start elsewhere -/

/-- The recording with its counters so much further on. -/
def shifted (offset : UInt32) (c : Calibrator) : Calibrator :=
  { c with start := c.start.map (·.shifted offset), last := c.last.map (·.shifted offset) }

theorem counter_getD_shifted (offset : UInt32) (last : Option Mark) (start : Mark) :
    ((last.map (·.shifted offset)).getD (start.shifted offset)).counter =
      (last.getD start).counter + offset := by
  cases last <;> rfl

theorem process_shifted (c : Calibrator) (r : Report) :
    (c.shifted offset).process (r.shifted offset) = (c.process r).shifted offset := by
  cases began : c.start with
  | none => simp [process, shifted, began, Report.shifted, Mark.shifted]
  | some mark =>
    have began' : (c.shifted offset).start = some (mark.shifted offset) := by simp [shifted, began]
    have latest := counter_getD_shifted offset c.last mark
    by_cases repeated : r.counter = (c.last.getD mark).counter
    · rw [process_of_repeat began repeated]
      exact process_of_repeat began' ((congrArg (· + offset) repeated).trans latest.symm)
    · rw [process_of_other began repeated]
      refine process_of_other began' fun same => repeated ?_
      exact (UInt32.add_left_inj offset).mp (same.trans latest)

theorem processAll_shifted (c : Calibrator) (reports : List Report) :
    (c.shifted offset).processAll (reports.map (·.shifted offset)) =
      (c.processAll reports).shifted offset := by
  induction reports generalizing c with
  | nil => rfl
  | cons r rest ih =>
    rw [List.map_cons, processAll, List.foldl_cons, process_shifted]
    exact ih (c.process r)

theorem periods_shifted (c : Calibrator) : (c.shifted offset).periods = c.periods := by
  obtain ⟨period, start, last, sum, samples⟩ := c
  cases start with
  | none => rfl
  | some start =>
    cases last with
    | none => rfl
    | some last =>
      show last.counter + offset - (start.counter + offset) = last.counter - start.counter
      grind

theorem elapsed?_shifted (c : Calibrator) : (c.shifted offset).elapsed? = c.elapsed? := by
  rw [elapsed?, periods_shifted]
  rfl

/-- The estimate looks at the accelerations at both ends, and not at their counters. -/
theorem estimate_shifted (c : Calibrator) (elapsed : Nanos) :
    (c.shifted offset).estimate elapsed = c.estimate elapsed := by
  obtain ⟨period, start, last, sum, samples⟩ := c
  cases start with
  | none => rfl
  | some start =>
    cases last with
    | none => rfl
    | some last => rfl

theorem estimate?_shifted (c : Calibrator) : (c.shifted offset).estimate? = c.estimate? := by
  rw [estimate?, elapsed?_shifted, funext (estimate_shifted c)]
  rfl

/-! ### What is recorded -/

theorem samples_processAll (period : Nanos) (reports : List Report) :
    ((new period).processAll reports).samples = (advancing reports).length := by
  cases reports with
  | nil => rfl
  | cons first rest =>
    obtain ⟨-, -, samples, -⟩ := (Follows.process_new period first).processAll rest
    exact samples.trans (Nat.zero_add _)

theorem gyroSum_processAll (period : Nanos) (reports : List Report) :
    ((new period).processAll reports).gyroSum = turns (advancing reports) := by
  cases reports with
  | nil => rfl
  | cons first rest =>
    obtain ⟨-, -, -, sum⟩ := (Follows.process_new period first).processAll rest
    exact sum.trans (Int.zero_add _)

theorem periods_processAll (period : Nanos) (reports : List Report) :
    ((new period).processAll reports).periods.toNat = span reports % 2 ^ 32 := by
  cases reports with
  | nil => rfl
  | cons first rest =>
    obtain ⟨follows, -⟩ := (Follows.process_new period first).processAll rest
    have periods := follows.periods
    rw [← toNat_sub_eq_span]
    exact congrArg UInt32.toNat periods

theorem elapsed?_processAll {period : Nanos} {reports : List Report}
    (short : span reports < 2 ^ 32) (representable : period * span reports < Nanos.bound) :
    ((new period).processAll reports).elapsed? = some (period * span reports) := by
  rw [elapsed?, periods_processAll, Nat.mod_eq_of_lt short, devicePeriod_processAll]
  exact if_pos representable

/-- The measures of a recording: how many reports it counts, what it sums up and how long it is.
None of them changes with repeats of a report or with the counter at the start, and a recording that
was emptied is as good as a new one. -/
theorem recording_measured (period : Nanos) (reports : List Report) :
    let c := (new period).processAll reports
    c.samples = (advancing reports).length ∧
    c.gyroSum = turns (advancing reports) ∧
    c.gyroSum.natAbs ≤ 2 ^ 15 * c.samples ∧
    c.samples ≤ span reports ∧
    (span reports = 0 ↔ advancing reports = []) ∧
    (span reports < 2 ^ 32 → period * span reports < Nanos.bound →
      c.elapsed? = some (period * span reports)) ∧
    (∀ front last repeats back, (∀ r ∈ repeats, r.counter = last.counter) →
      reports = front ++ last :: back →
      (new period).processAll (front ++ last :: (repeats ++ back)) = c) ∧
    (∀ offset, let s := (new period).processAll (reports.map (·.shifted offset))
      s.samples = c.samples ∧ s.elapsed? = c.elapsed? ∧ s.estimate? = c.estimate?) ∧
    (∀ history, ((new period).processAll history).reset.processAll reports = c) := by
  intro c
  have samples : c.samples = (advancing reports).length := samples_processAll period reports
  have sum : c.gyroSum = turns (advancing reports) := gyroSum_processAll period reports
  refine ⟨samples, sum, ?_, ?_, span_eq_zero_iff reports,
    elapsed?_processAll, ?_, ?_, fun history => ?_⟩
  · rw [sum, samples]
    exact natAbs_turns_le (advancing reports)
  · rw [samples]
    exact length_advancing_le_span reports
  · rintro front last repeats back repeated rfl
    exact processAll_insert_repeats period front back repeated
  · intro offset s
    have same : s = c.shifted offset := processAll_shifted (new period) reports
    rw [same]
    exact ⟨rfl, elapsed?_shifted c, estimate?_shifted c⟩
  · rw [reset_processAll]

/-- A counter that wraps between two reports, the first of which comes twice with other turns. -/
theorem recording_measured_across_wrap :
    let first : Report := { counter := 0xFFFFFFFE }
    let turned : Report := { counter := 0xFFFFFFFF, gyro := { rightToLeft := 100 } }
    let again : Report := { counter := 0xFFFFFFFF, gyro := { rightToLeft := -7 } }
    let wrapped : Report := { counter := 2, gyro := { rightToLeft := 50 } }
    let c := (new (Nanos.millis 4)).processAll [first, turned, wrapped]
    c.samples = 2 ∧ c.gyroSum = 150 ∧ c.elapsed? = some (Nanos.millis 16) ∧
      (new (Nanos.millis 4)).processAll [first, turned, again, wrapped] = c := by
  intro first turned again wrapped c
  obtain ⟨samples, sum, -, -, -, elapsed, unmoved, -, -⟩ :=
    recording_measured (Nanos.millis 4) [first, turned, wrapped]
  have counted : advancing [first, turned, wrapped] = [turned, wrapped] := by decide
  have spans : span [first, turned, wrapped] = 4 := by decide
  rw [counted] at samples sum
  rw [spans] at elapsed
  have repeated : ∀ r ∈ [again], r.counter = turned.counter := by decide
  exact ⟨samples, sum.trans (by decide), elapsed (by decide) (by decide),
    unmoved [first] turned [again] [wrapped] repeated rfl⟩

end Calibrator

end MotionCast
