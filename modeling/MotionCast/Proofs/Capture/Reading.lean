import MotionCast.Capture.ReaderTrial
import MotionCast.Proofs.Wire.Fields

/-! A run of the reader, whatever its openings and its reads come to. What a read comes to depends
on its own bytes only, never on what an earlier one left in the buffer. The course of a run is the
order of its trace: the device is read and written to only while it is open, a read that finds it
out of step closes it, and what a read has the reader announce is announced before the next one. The
counters tally the course. -/

namespace MotionCast

namespace Mailbox

variable {α : Type}

@[simp] theorem hasData_poll (m : Mailbox α) (received : α) :
    (m.poll received).2.2.hasData = false := by
  unfold poll
  split
  · rfl
  · rename_i empty
    exact Bool.eq_false_iff.mpr empty

@[simp] theorem sent_poll (m : Mailbox α) (received : α) : (m.poll received).2.2.sent = m.sent := by
  unfold poll
  split <;> rfl

/-- A poll only moves buffers. -/
theorem poll_keeps {P : α → Prop} {m : Mailbox α} {received : α} (flight : P m.inFlight)
    (own : P received) : P (m.poll received).2.1 ∧ P (m.poll received).2.2.inFlight := by
  unfold poll
  split
  · exact ⟨flight, own⟩
  · exact ⟨own, flight⟩

end Mailbox

namespace ReaderConfig

variable (c : ReaderConfig)

/-- How a scripted read is judged by its own bytes. -/
def verdict : ScriptedAnswer → Verdict
  | .empty => .timeout
  | .failure => .desynced
  | .data bytes =>
    if min bytes.length c.rawLength = 0 then .timeout
    else if bytes.length < c.rawLength then
      if c.transport.isRecordStream then .desynced else .cutShort
    else if c.framed (bytes.take c.rawLength) then .record
    else .desynced

/-- The record that a scripted read has the reader hand on: a whole one in step, unless the reader
is asked to stop meanwhile. -/
def record? (step : TrialRead) : Option Bytes :=
  match step.answer with
  | .data bytes =>
    if c.verdict (.data bytes) = .record ∧ step.stop = false then some (bytes.take c.rawLength)
    else none
  | .empty => none
  | .failure => none

/-- What a scripted read has the reader announce. -/
def announced (step : TrialRead) : List TraceEntry :=
  (c.record? step).toList.map .sent ++
    if c.verdict step.answer = .desynced then [.unsynced] else []

variable {c}

theorem judge_outcome {fill : Bytes} (sized : fill.length = c.rawLength)
    (answer : ScriptedAnswer) : c.judge (answer.outcome fill) = c.verdict answer := by
  cases answer with
  | empty => rfl
  | failure => rfl
  | data bytes =>
    rw [ScriptedAnswer.outcome, judge, verdict, sized]
    by_cases short : bytes.length < c.rawLength
    · have counted : min bytes.length c.rawLength < c.rawLength := by omega
      rw [if_pos counted, if_pos short]
    · have counted : ¬min bytes.length c.rawLength < c.rawLength := by omega
      rw [if_neg counted, if_neg short, Bytes.copyOver_of_le (by omega), sized]

theorem record?_of_ne {step : TrialRead} (h : c.verdict step.answer ≠ .record) :
    c.record? step = none := by
  unfold record?
  cases same : step.answer with
  | data bytes =>
    rw [same] at h
    exact if_neg fun both => h both.1
  | empty => rfl
  | failure => rfl

theorem record?_of_stop {step : TrialRead} (h : step.stop = true) : c.record? step = none := by
  unfold record?
  cases step.answer with
  | data bytes => simp [h]
  | empty => rfl
  | failure => rfl

/-- A whole record in step is what is left in the buffer, whatever was there. -/
theorem record?_eq_some {step : TrialRead} {fill : Bytes} (sized : fill.length = c.rawLength)
    (whole : c.verdict step.answer = .record) (goes_on : step.stop = false) :
    ∃ count record, step.answer.outcome fill = .returned count record ∧
      c.record? step = some record ∧ record.length = c.rawLength := by
  unfold record?
  cases same : step.answer with
  | empty =>
    rw [same] at whole
    contradiction
  | failure =>
    rw [same] at whole
    contradiction
  | data bytes =>
    rw [same] at whole
    have long : c.rawLength ≤ bytes.length := by
      rw [verdict] at whole
      split at whole
      · contradiction
      · split at whole
        · split at whole <;> contradiction
        · omega
    refine ⟨_, _, rfl, ?_, ?_⟩
    · show (if _ then some (bytes.take c.rawLength) else none) = some (fill.copyOver bytes)
      rw [if_pos ⟨whole, goes_on⟩, Bytes.copyOver_of_le (by omega), sized]
    · rw [Bytes.length_copyOver, sized]

end ReaderConfig

namespace ReaderTrial

/-! ### The course of a run -/

/-- The order of a trace from a point where the device is open or not, the entries `owed` were
announced and not yet noticed, and `reads` are still to come. -/
inductive Course (c : ReaderConfig) :
    Bool → (owed : List TraceEntry) → (reads : List TrialRead) → List TraceEntry → Prop where
  | noticed {isOpen : Bool} {entry : TraceEntry} {owed told : List TraceEntry}
      {reads : List TrialRead} (later : Course c isOpen owed reads told) :
      Course c isOpen (entry :: owed) reads (entry :: told)
  | connectFailed {reads : List TrialRead} {told : List TraceEntry}
      (later : Course c false [] reads told) : Course c false [] reads (.connectFailed :: told)
  | connect {reads : List TrialRead} {told : List TraceEntry}
      (later : Course c true [] reads told) : Course c false [] reads (.connect :: told)
  | write {owed told : List TraceEntry} {reads : List TrialRead} (writable : c.writable = true)
      (later : Course c true owed reads told) :
      Course c true owed reads (.write c.enableReport :: told)
  | writeFailed {owed told : List TraceEntry} {reads : List TrialRead} (writable : c.writable = true)
      (later : Course c true owed reads told) :
      Course c true owed reads (.writeFailed c.enableReport :: told)
  | read {step : TrialRead} {reads : List TrialRead} {told : List TraceEntry}
      (later : Course c (c.verdict step.answer != .desynced) (c.announced step) reads told) :
      Course c true [] (step :: reads) (.read :: told)
  | exhausted : Course c true [] [] [.exhausted]
  | stopped {isOpen : Bool} : Course c isOpen [] [] []

end ReaderTrial

/-- The record of an entry. -/
def TraceEntry.record? : TraceEntry → Option Bytes
  | .sent record => some record
  | _ => none

namespace ReaderTrial

variable {c : ReaderConfig}

theorem filterMap_announced (c : ReaderConfig) (step : TrialRead) :
    (c.announced step).filterMap TraceEntry.record? = (c.record? step).toList := by
  unfold ReaderConfig.announced
  cases c.record? step <;> split <;> rfl

theorem count_announced (c : ReaderConfig) (step : TrialRead) :
    (c.announced step).count .unsynced =
      if c.verdict step.answer = .desynced then 1 else 0 := by
  unfold ReaderConfig.announced
  cases c.record? step <;> split <;> rfl

namespace Course

variable {isOpen : Bool} {owed told : List TraceEntry} {reads : List TrialRead}

/-- The records of a trace are those of the reads, in order. -/
theorem records (h : Course c isOpen owed reads told) :
    told.filterMap TraceEntry.record? =
      owed.filterMap TraceEntry.record? ++ reads.filterMap c.record? := by
  induction h with
  | @noticed _ entry _ _ _ _ ih =>
    rw [List.filterMap_cons, List.filterMap_cons, ih]
    cases entry.record? <;> rfl
  | connectFailed _ ih => exact ih
  | connect _ ih => exact ih
  | write _ _ ih => exact ih
  | writeFailed _ _ ih => exact ih
  | @read step _ _ _ ih =>
    rw [filterMap_announced] at ih
    rw [List.filterMap_cons_none rfl, ih]
    cases found : c.record? step <;> simp [found]
  | exhausted => rfl
  | stopped => rfl

/-- Each read that finds the device out of step is told once. -/
theorem unsynced (h : Course c isOpen owed reads told) :
    told.count .unsynced =
      owed.count .unsynced + reads.countP (c.verdict ·.answer = .desynced) := by
  induction h with
  | noticed _ ih =>
    rw [List.count_cons, List.count_cons, ih]
    omega
  | connectFailed _ ih => exact ih
  | connect _ ih => exact ih
  | write _ _ ih => exact ih
  | writeFailed _ _ ih => exact ih
  | @read step _ _ _ ih =>
    rw [count_announced] at ih
    rw [List.count_cons_of_ne (by decide), ih, List.countP_cons]
    simp [Nat.add_comm]
  | exhausted => rfl
  | stopped => rfl

/-- With the device closed and nothing to notice, it fails to open a number of times, and then the
run ends or the device opens. -/
theorem reopens (h : Course c false [] reads told) :
    ∃ count rest, told = List.replicate count .connectFailed ++ rest ∧
      (rest = [] ∨ ∃ later, rest = .connect :: later) := by
  generalize shut : false = isOpen at h
  generalize none_owed : ([] : List TraceEntry) = owed at h
  induction h with
  | connectFailed _ ih =>
    obtain ⟨count, rest, rfl, opens⟩ := ih shut none_owed
    exact ⟨count + 1, rest, rfl, opens⟩
  | connect later _ => exact ⟨0, _, rfl, .inr ⟨_, rfl⟩⟩
  | stopped => exact ⟨0, [], rfl, .inl rfl⟩
  | noticed => contradiction
  | write => contradiction
  | writeFailed => contradiction
  | read => contradiction
  | exhausted => contradiction

theorem exists_cut {entry : TraceEntry} {before after : List TraceEntry}
    (other : entry ≠ .unsynced) (cut : entry :: told = before ++ .unsynced :: after) :
    ∃ front, told = front ++ .unsynced :: after := by
  rcases List.cons_eq_append_iff.mp cut with ⟨-, same⟩ | ⟨front, -, rest⟩
  · exact absurd (List.cons.inj same).1.symm other
  · exact ⟨front, rest⟩

/-- After the device was found out of step it is not used until it opens. -/
theorem reopens_after_unsynced (h : Course c isOpen owed reads told)
    (fits : .unsynced ∈ owed → owed = [.unsynced] ∧ isOpen = false) {before after : List TraceEntry}
    (cut : told = before ++ .unsynced :: after) :
    ∃ count rest, after = List.replicate count .connectFailed ++ rest ∧
      (rest = [] ∨ ∃ later, rest = .connect :: later) := by
  induction h generalizing before with
  | @noticed isOpen entry owed told reads later ih =>
    by_cases same : entry = .unsynced
    · subst same
      obtain ⟨alone, rfl⟩ := fits (List.mem_cons_self ..)
      obtain rfl : owed = [] := (List.cons.inj alone).2
      rcases List.cons_eq_append_iff.mp cut with ⟨-, first⟩ | ⟨front, -, rest⟩
      · obtain rfl : after = told := (List.cons.inj first).2
        exact later.reopens
      · exact ih nofun rest
    · obtain ⟨front, rest⟩ := exists_cut same cut
      refine ih (fun owes => ?_) rest
      obtain ⟨alone, -⟩ := fits (List.mem_cons_of_mem _ owes)
      exact absurd (List.cons.inj alone).1 same
  | connectFailed _ ih | connect _ ih =>
    obtain ⟨front, rest⟩ := exists_cut (by decide) cut
    exact ih nofun rest
  | write _ _ ih | writeFailed _ _ ih =>
    obtain ⟨front, rest⟩ := exists_cut (by simp) cut
    exact ih fits rest
  | @read step _ _ _ ih =>
    obtain ⟨front, rest⟩ := exists_cut (by decide) cut
    refine ih (fun owes => ?_) rest
    have lost : c.verdict step.answer = .desynced := by
      have counted := count_announced c step
      rw [← List.count_pos_iff, counted] at owes
      split at owes
      · assumption
      · contradiction
    have no_record : c.record? step = none := ReaderConfig.record?_of_ne (by simp [lost])
    simp [ReaderConfig.announced, no_record, lost]
  | exhausted =>
    obtain ⟨front, rest⟩ := exists_cut (by decide) cut
    simp at rest
  | stopped => simp at cut

end Course

/-! ### What each part of a run does -/

/-- What was announced and not yet noticed. -/
def owed (t : ReaderTrial) : List TraceEntry :=
  (if t.wiring.records.hasData then [.sent t.wiring.records.inFlight] else []) ++
    if t.wiring.unsynced.raised then [.unsynced] else []

/-- The buffers that go round have the length of a record. -/
structure Sized (c : ReaderConfig) (t : ReaderTrial) : Prop where
  config : t.reader.config = c
  fill : t.reader.fill.length = c.rawLength
  inFlight : t.wiring.records.inFlight.length = c.rawLength
  received : t.received.length = c.rawLength

/-- The counters after reads and a part of a trace. -/
def tally (c : ReaderConfig) (reads : List TrialRead) (told : List TraceEntry) (m : Metrics) :
    Metrics :=
  { m with
    framesRead := m.framesRead + (reads.filterMap c.record?).length
    unsynced := m.unsynced + reads.countP (c.verdict ·.answer = .desynced)
    shortReads := m.shortReads + reads.countP (c.verdict ·.answer = .cutShort)
    reconnects := m.reconnects + told.count .connect
    motionReenables := m.motionReenables + told.count (.write c.enableReport) }

/-- A part of a run takes up reads and adds to the trace. -/
structure Segment (c : ReaderConfig) (t t' : ReaderTrial) (reads : List TrialRead)
    (told : List TraceEntry) : Prop where
  trace : t'.trace = t.trace ++ told
  metrics : t'.wiring.metrics = tally c reads told t.wiring.metrics
  sends : t'.wiring.records.sent = t.wiring.records.sent + (reads.filterMap c.record?).length
  sized : t'.Sized c
  course : ∀ {later : List TrialRead} {more : List TraceEntry},
    Course c t'.reader.isOpen t'.owed later more →
      Course c t.reader.isOpen t.owed (reads ++ later) (told ++ more)

theorem tally_tally (c : ReaderConfig) (reads reads' : List TrialRead)
    (told told' : List TraceEntry) (m : Metrics) :
    tally c reads' told' (tally c reads told m) = tally c (reads ++ reads') (told ++ told') m := by
  simp [tally, Nat.add_assoc]

namespace Segment

variable {t t₁ t₂ : ReaderTrial} {reads reads' : List TrialRead} {told told' : List TraceEntry}

theorem refl (sized : t.Sized c) : Segment c t t [] [] :=
  ⟨by simp, rfl, rfl, sized, id⟩

theorem trans (h : Segment c t t₁ reads told) (h' : Segment c t₁ t₂ reads' told') :
    Segment c t t₂ (reads ++ reads') (told ++ told') where
  trace := by rw [h'.trace, h.trace, List.append_assoc]
  metrics := by rw [h'.metrics, h.metrics, tally_tally]
  sends := by
    rw [h'.sends, h.sends, List.filterMap_append, List.length_append, Nat.add_assoc]
  sized := h'.sized
  course goes_on := by
    rw [List.append_assoc, List.append_assoc]
    exact h.course (h'.course goes_on)

end Segment

theorem course_owed {isOpen : Bool} {reads : List TrialRead} {more : List TraceEntry}
    (entries : List TraceEntry) (later : Course c isOpen [] reads more) :
    Course c isOpen entries reads (entries ++ more) := by
  induction entries with
  | nil => exact later
  | cons entry rest ih => exact .noticed ih

section Parts

variable {t : ReaderTrial}

theorem look_eq (t : ReaderTrial) :
    t.look = { t with
      received := (t.wiring.records.poll t.received).2.1
      wiring.records := (t.wiring.records.poll t.received).2.2
      wiring.unsynced := {}
      trace := t.trace ++ t.owed } := by
  obtain ⟨reader, ⟨⟨inFlight, hasData, flushed, sent⟩, frames, advances, ⟨raised⟩, stuck, enable, m⟩,
    opens, fails, received, trace⟩ := t
  cases hasData <;> cases raised <;>
    simp [look, lookForRecord, lookForSignal, owed, Mailbox.poll, Signal.take, note]

theorem owed_look (t : ReaderTrial) : t.look.owed = [] := by
  simp [look_eq, owed]

theorem segment_look (sized : t.Sized c) : Segment c t t.look [] t.owed where
  trace := by rw [look_eq]
  metrics := by
    have none_told : ∀ entry, entry ≠ .unsynced → (∀ record, entry ≠ .sent record) →
        t.owed.count entry = 0 := by
      intro entry other other'
      unfold owed
      split <;> split <;> simp [Ne.symm other, Ne.symm (other' _)]
    rw [look_eq, tally, none_told _ (by decide) (by simp), none_told _ (by simp) (by simp)]
    rfl
  sends := by simp [look_eq]
  sized := by
    have moved := Mailbox.poll_keeps (P := fun b : Bytes => b.length = c.rawLength) sized.inFlight
      sized.received
    rw [look_eq]
    exact ⟨sized.config, sized.fill, moved.2, moved.1⟩
  course goes_on := by
    rw [owed_look, look_eq] at goes_on
    exact course_owed t.owed goes_on

theorem reader_look (t : ReaderTrial) : t.look.reader = t.reader := by rw [look_eq]

theorem connect_of_success (succeeds : t.opens.headD true = true) :
    t.connect = { t.look with
      reader := { t.reader with isOpen := true }
      wiring.metrics.reconnects := t.look.wiring.metrics.reconnects + 1
      opens := t.opens.tail
      trace := t.look.trace ++ [.connect] } := by
  unfold connect
  rw [succeeds]
  rfl

theorem connect_of_failure (fails : t.opens.headD true = false) :
    t.connect = { t.look with
      reader := t.reader
      opens := t.opens.tail
      trace := t.look.trace ++ [.connectFailed] } := by
  unfold connect
  rw [fails]
  rfl

theorem segment_connect_of_success (sized : t.Sized c) (shut : t.reader.isOpen = false)
    (succeeds : t.opens.headD true = true) :
    Segment c t t.connect [] (t.owed ++ [.connect]) ∧ t.connect.reader.isOpen = true := by
  have looked := segment_look sized
  rw [connect_of_success succeeds]
  refine ⟨looked.trans (show Segment c _ _ [] [.connect] from
    ⟨rfl, ?_, rfl, ?_, fun {reads more} later => ?_⟩), rfl⟩
  · simp [tally]
  · exact ⟨sized.config, sized.fill, looked.sized.inFlight, looked.sized.received⟩
  · have goes_on : Course c true t.look.owed reads more := later
    rw [owed_look] at goes_on
    rw [reader_look, shut, owed_look]
    exact .connect goes_on

theorem segment_connect_of_failure (sized : t.Sized c) (shut : t.reader.isOpen = false)
    (fails : t.opens.headD true = false) :
    Segment c t t.connect [] (t.owed ++ [.connectFailed]) ∧ t.connect.reader.isOpen = false := by
  have looked := segment_look sized
  rw [connect_of_failure fails]
  refine ⟨looked.trans (show Segment c _ _ [] [.connectFailed] from
    ⟨rfl, ?_, rfl, ?_, fun {reads more} later => ?_⟩), shut⟩
  · simp [tally]
  · exact ⟨sized.config, sized.fill, looked.sized.inFlight, looked.sized.received⟩
  · have goes_on : Course c t.reader.isOpen t.look.owed reads more := later
    rw [owed_look, shut] at goes_on
    rw [reader_look, shut, owed_look]
    exact .connectFailed goes_on

/-- The device is opened as often as it takes. -/
theorem segment_connectAll (sized : t.Sized c) (shut : t.reader.isOpen = false) :
    ∃ told, Segment c t (t.connectAll t.opens) [] told ∧
      (t.connectAll t.opens).reader.isOpen = true := by
  generalize listed : t.opens = opens
  induction opens generalizing t with
  | nil => exact ⟨_, segment_connect_of_success sized shut (by rw [listed]; rfl)⟩
  | cons success rest ih =>
    cases success with
    | true => exact ⟨_, segment_connect_of_success sized shut (by rw [listed]; rfl)⟩
    | false =>
      have fails : t.opens.headD true = false := by rw [listed]; rfl
      obtain ⟨failed, shut'⟩ := segment_connect_of_failure sized shut fails
      have left : t.connect.opens = rest := by
        rw [connect_of_failure fails]
        exact congrArg List.tail listed
      obtain ⟨told, opened, is_open⟩ := ih failed.sized shut' left
      exact ⟨_, failed.trans opened, is_open⟩

theorem segment_writeAsked (sized : t.Sized c) (is_open : t.reader.isOpen = true) :
    ∃ told, Segment c t t.writeAsked [] told ∧ t.writeAsked.reader.isOpen = true := by
  unfold writeAsked Reader.beforeRead
  by_cases asked : (t.reader.config.writable && t.wiring.enableMotion.raised) = true
  · have writable : c.writable = true := sized.config ▸ (Bool.and_eq_true_iff.mp asked).1
    rw [if_pos asked, sized.config]
    cases t.writeFails with
    | true =>
      refine ⟨[.writeFailed c.enableReport], ⟨rfl, ?_, rfl, ?_, fun {reads more} later => ?_⟩,
        is_open⟩
      · simp [tally, note, Reader.wrote]
      · exact ⟨sized.config, sized.fill, sized.inFlight, sized.received⟩
      · have goes_on : Course c t.reader.isOpen t.owed reads more := later
        rw [is_open] at goes_on ⊢
        exact .writeFailed writable goes_on
    | false =>
      refine ⟨[.write c.enableReport], ⟨rfl, ?_, rfl, ?_, fun {reads more} later => ?_⟩, is_open⟩
      · simp [tally, note, Reader.wrote]
      · exact ⟨sized.config, sized.fill, sized.inFlight, sized.received⟩
      · have goes_on : Course c t.reader.isOpen t.owed reads more := later
        rw [is_open] at goes_on ⊢
        exact .write writable goes_on
  · rw [if_neg asked]
    exact ⟨[], .refl sized, is_open⟩

theorem segment_ready (sized : t.Sized c) :
    ∃ told, Segment c t t.ready [] told ∧ t.ready.reader.isOpen = true := by
  unfold ready
  cases state : t.reader.isOpen with
  | true =>
    rw [if_pos rfl]
    exact segment_writeAsked sized state
  | false =>
    rw [if_neg (by decide)]
    obtain ⟨told, opened, is_open⟩ := segment_connectAll sized state
    obtain ⟨more, written, still_open⟩ := segment_writeAsked opened.sized is_open
    exact ⟨_, opened.trans written, still_open⟩

/-! ### One read -/

@[simp] theorem during_records (step : TrialRead) (w : Wiring) :
    (step.during w).records = w.records := by
  unfold TrialRead.during
  split <;> rfl

@[simp] theorem during_unsynced (step : TrialRead) (w : Wiring) :
    (step.during w).unsynced = w.unsynced := by
  unfold TrialRead.during
  split <;> rfl

@[simp] theorem during_metrics (step : TrialRead) (w : Wiring) :
    (step.during w).metrics = w.metrics := by
  unfold TrialRead.during
  split <;> rfl

theorem length_filled {r : Reader} (answer : ScriptedAnswer) :
    (r.filled (answer.outcome r.fill)).fill.length = r.fill.length := by
  cases answer with
  | data bytes => exact Bytes.length_copyOver ..
  | empty => rfl
  | failure => rfl

theorem segment_of_read {step : TrialRead} {r : Reader} {w : Wiring}
    (is_open : t.reader.isOpen = true) (noticed : t.owed = [])
    (sized : Sized c { t with reader := r, wiring := w })
    (closed_iff : r.isOpen = (c.verdict step.answer != .desynced))
    (announces : owed { t with reader := r, wiring := w } = c.announced step)
    (metrics : w.metrics = tally c [step] [.read] t.wiring.metrics)
    (sends : w.records.sent = t.wiring.records.sent + (c.record? step).toList.length) :
    Segment c t ({ t with reader := r, wiring := w }.note .read) [step] [.read] := by
  refine ⟨rfl, metrics, ?_, ⟨sized.config, sized.fill, sized.inFlight, sized.received⟩,
    fun {reads more} later => ?_⟩
  · rw [show [step].filterMap c.record? = (c.record? step).toList by
      cases found : c.record? step <;> simp [found]]
    exact sends
  · have goes_on : Course c r.isOpen (owed { t with reader := r, wiring := w }) reads more := later
    rw [closed_iff, announces] at goes_on
    rw [is_open, noticed]
    exact .read goes_on

/-- A read that hands on no record and keeps the device leaves everything but a counter alone. -/
theorem segment_of_quiet {step : TrialRead} {r : Reader} {w : Wiring} (sized : t.Sized c)
    (is_open : t.reader.isOpen = true) (noticed : t.owed = []) (config : r.config = c)
    (fill : r.fill.length = c.rawLength) (still_open : r.isOpen = true)
    (records : w.records = t.wiring.records) (unsynced : w.unsynced = t.wiring.unsynced)
    (metrics : w.metrics = tally c [step] [.read] t.wiring.metrics)
    (no_record : c.record? step = none) (kept : c.verdict step.answer ≠ .desynced) :
    Segment c t ({ t with reader := r, wiring := w }.note .read) [step] [.read] := by
  apply segment_of_read is_open noticed
  · exact ⟨config, fill, records ▸ sized.inFlight, sized.received⟩
  · simp [still_open, kept]
  · rw [owed] at noticed ⊢
    rw [records, unsynced, noticed]
    simp [ReaderConfig.announced, no_record, kept]
  · exact metrics
  · rw [records, no_record]
    rfl

/-- A read with nothing left to notice, by how it is judged. -/
theorem segment_afterRead {step : TrialRead} {r : Reader} {w : Wiring} (sized : t.Sized c)
    (is_open : t.reader.isOpen = true) (noticed : t.owed = [])
    (came : t.reader.afterRead (step.during t.wiring) (step.answer.outcome t.reader.fill) step.stop =
      (r, w)) :
    Segment c t ({ t with reader := r, wiring := w }.note .read) [step] [.read] := by
  obtain ⟨empty, low⟩ : t.wiring.records.hasData = false ∧ t.wiring.unsynced.raised = false := by
    rw [owed, List.append_eq_nil_iff] at noticed
    simpa using noticed
  have fill := (length_filled (r := t.reader) step.answer).trans sized.fill
  have config : (t.reader.filled (step.answer.outcome t.reader.fill)).config = c := by
    rw [← sized.config]
    cases step.answer <;> rfl
  have still_open : (t.reader.filled (step.answer.outcome t.reader.fill)).isOpen = true := by
    rw [← is_open]
    cases step.answer <;> rfl
  unfold Reader.afterRead at came
  rw [sized.config, ReaderConfig.judge_outcome sized.fill] at came
  cases verdict : c.verdict step.answer with
  | timeout =>
    have no_record : c.record? step = none := ReaderConfig.record?_of_ne (by simp [verdict])
    simp only [verdict] at came
    cases came
    apply segment_of_quiet sized is_open noticed config fill still_open
    · exact during_records ..
    · exact during_unsynced ..
    · simp [tally, no_record, verdict]
    · exact no_record
    · simp [verdict]
  | cutShort =>
    have no_record : c.record? step = none := ReaderConfig.record?_of_ne (by simp [verdict])
    simp only [verdict] at came
    cases came
    apply segment_of_quiet sized is_open noticed config fill still_open
    · exact during_records ..
    · exact during_unsynced ..
    · simp [tally, no_record, verdict]
    · exact no_record
    · simp [verdict]
  | desynced =>
    have no_record : c.record? step = none := ReaderConfig.record?_of_ne (by simp [verdict])
    simp only [verdict, Reader.desync] at came
    cases came
    apply segment_of_read is_open noticed
    · exact ⟨config, fill, by simpa using sized.inFlight, sized.received⟩
    · simp [verdict]
    · simp [owed, empty, Signal.send, ReaderConfig.announced, no_record, verdict]
    · simp [tally, no_record, verdict]
    · simp [no_record]
  | record =>
    simp only [verdict] at came
    cases stop : step.stop with
    | true =>
      have no_record := ReaderConfig.record?_of_stop (c := c) stop
      rw [if_pos stop] at came
      cases came
      apply segment_of_quiet sized is_open noticed config fill still_open
      · exact during_records ..
      · exact during_unsynced ..
      · simp [tally, no_record, verdict]
      · exact no_record
      · simp [verdict]
    | false =>
      obtain ⟨count, record, returned, handed_on, length⟩ :=
        ReaderConfig.record?_eq_some sized.fill verdict stop
      rw [if_neg (by simp [stop]), Reader.deliver, returned] at came
      cases came
      apply segment_of_read is_open noticed
      · exact ⟨sized.config, by simpa [Mailbox.send] using sized.inFlight, length, sized.received⟩
      · simp [Reader.filled, is_open, verdict]
      · simp [owed, Mailbox.send, Reader.filled, low, ReaderConfig.announced, handed_on, verdict]
      · simp [tally, handed_on, verdict]
      · simp [Mailbox.send, handed_on]

theorem segment_read (sized : t.Sized c) (is_open : t.reader.isOpen = true) (step : TrialRead) :
    Segment c t (t.read step) [step] (t.owed ++ [.read]) := by
  have looked := segment_look sized
  have still_open : t.look.reader.isOpen = true := by rw [reader_look, is_open]
  have answered : Segment c t.look (t.read step) [step] [.read] :=
    segment_afterRead looked.sized still_open (owed_look t) rfl
  exact looked.trans answered

end Parts

/-! ### The whole run -/

/-- The reads that a run takes up: those up to one during which it is asked to stop. -/
def handled : List TrialRead → List TrialRead
  | [] => []
  | step :: rest => if step.stop then [step] else step :: handled rest

/-- One run of the reader: its device is opened, and if that succeeds the reads are taken up. -/
def perform (t : ReaderTrial) (reads : List TrialRead) : ReaderTrial :=
  if t.prepare.1 then t.prepare.2.session reads else t.prepare.2

/-- A session that takes up reads and ends with nothing left to notice. -/
structure Session (c : ReaderConfig) (t t' : ReaderTrial) (reads : List TrialRead)
    (told : List TraceEntry) : Prop where
  trace : t'.trace = t.trace ++ told
  metrics : t'.wiring.metrics = tally c reads told t.wiring.metrics
  sends : t'.wiring.records.sent = t.wiring.records.sent + (reads.filterMap c.record?).length
  course : Course c t.reader.isOpen t.owed reads told

theorem Segment.session {t t₁ t₂ : ReaderTrial} {reads later : List TrialRead}
    {told more : List TraceEntry} (h : Segment c t t₁ reads told) (rest : Session c t₁ t₂ later more) :
    Session c t t₂ (reads ++ later) (told ++ more) where
  trace := by rw [rest.trace, h.trace, List.append_assoc]
  metrics := by rw [rest.metrics, h.metrics, tally_tally]
  sends := by
    rw [rest.sends, h.sends, List.filterMap_append, List.length_append, Nat.add_assoc]
  course := h.course rest.course

/-- A run that stops looks once more. -/
theorem Segment.stop {t t' : ReaderTrial} {reads : List TrialRead} {told : List TraceEntry}
    (h : Segment c t t' reads told) : Session c t t'.look reads (told ++ t'.owed) := by
  have looked := h.trans (segment_look h.sized)
  rw [List.append_nil] at looked
  refine ⟨looked.trace, looked.metrics, looked.sends, ?_⟩
  have stopped : Course c t'.look.reader.isOpen t'.look.owed [] [] := by
    rw [owed_look]
    exact .stopped
  have course := looked.course stopped
  rwa [List.append_nil, List.append_nil] at course

theorem session_exhausted {t : ReaderTrial} (sized : t.Sized c) (is_open : t.reader.isOpen = true)
    (noticed : t.owed = []) : Session c t (t.note .exhausted).look [] [.exhausted] := by
  have last : (t.note .exhausted).owed = [] := noticed
  have looked := segment_look (c := c) (t := t.note .exhausted)
    ⟨sized.config, sized.fill, sized.inFlight, sized.received⟩
  rw [last] at looked
  refine ⟨?_, ?_, looked.sends, ?_⟩
  · rw [looked.trace, List.append_nil]
    rfl
  · rw [looked.metrics]
    rfl
  · rw [is_open, noticed]
    exact .exhausted

theorem exists_session (reads : List TrialRead) {t : ReaderTrial} (sized : t.Sized c) :
    ∃ told, Session c t (t.session reads) (handled reads) told := by
  induction reads generalizing t with
  | nil =>
    obtain ⟨told, ready, is_open⟩ := segment_ready sized
    have looked := ready.trans (segment_look ready.sized)
    have still_open : t.ready.look.reader.isOpen = true := by rw [reader_look, is_open]
    exact ⟨_, looked.session (session_exhausted looked.sized still_open (owed_look _))⟩
  | cons step rest ih =>
    obtain ⟨told, ready, is_open⟩ := segment_ready sized
    have answered := ready.trans (segment_read ready.sized is_open step)
    rw [session, handled]
    cases step.stop with
    | true => exact ⟨_, answered.stop⟩
    | false =>
      obtain ⟨more, later⟩ := ih answered.sized
      exact ⟨_, answered.session later⟩

theorem sized_new (c : ReaderConfig) (opens : List Bool) (writeFails : Bool) :
    (new c opens writeFails).Sized c :=
  ⟨rfl, Bytes.length_zeros _, Bytes.length_zeros _, Bytes.length_zeros _⟩

/-- A run takes up its reads in the order of its course. It hands on the records of its reads, each
once and in order, and every counter counts the reads or the openings that it is named for. -/
theorem reads_accounted (c : ReaderConfig) (opens : List Bool) (writeFails : Bool)
    (reads : List TrialRead) :
    let t := (new c opens writeFails).perform reads
    (opens.headD true = false → t.trace = [.connectFailed] ∧ t.wiring.metrics = {}) ∧
    (opens.headD true = true → ∃ told, t.trace = .connect :: told ∧
      Course c true [] (handled reads) told ∧
      told.filterMap TraceEntry.record? = (handled reads).filterMap c.record? ∧
      t.wiring.records.sent = ((handled reads).filterMap c.record?).length ∧
      t.wiring.metrics.framesRead = ((handled reads).filterMap c.record?).length ∧
      t.wiring.metrics.unsynced = (handled reads).countP (c.verdict ·.answer = .desynced) ∧
      told.count .unsynced = (handled reads).countP (c.verdict ·.answer = .desynced) ∧
      t.wiring.metrics.shortReads = (handled reads).countP (c.verdict ·.answer = .cutShort) ∧
      t.wiring.metrics.reconnects = t.trace.count .connect ∧
      t.wiring.metrics.motionReenables = t.trace.count (.write c.enableReport) ∧
      ∀ before after, told = before ++ .unsynced :: after → ∃ count rest,
        after = List.replicate count .connectFailed ++ rest ∧
          (rest = [] ∨ ∃ later, rest = .connect :: later)) := by
  intro t
  have sized := sized_new c opens writeFails
  constructor
  · intro fails
    have shut := segment_connect_of_failure sized rfl fails
    have stops : t = (new c opens writeFails).connect := if_neg (by simp [prepare, shut.2])
    rw [stops]
    exact ⟨shut.1.trace, shut.1.metrics⟩
  · intro succeeds
    obtain ⟨opened, is_open⟩ := segment_connect_of_success sized rfl succeeds
    have goes_on : t = (new c opens writeFails).connect.session reads := if_pos is_open
    obtain ⟨told, session⟩ := exists_session reads opened.sized
    have whole := opened.session session
    rw [← goes_on] at session whole
    have course := session.course
    rw [is_open] at course
    have owed : (new c opens writeFails).connect.owed = [] := by
      rw [connect_of_success succeeds]
      exact owed_look _
    rw [owed] at course
    have trace : t.trace = .connect :: told := whole.trace
    have metrics : t.wiring.metrics = tally c (handled reads) t.trace {} := by
      rw [trace]
      exact whole.metrics
    have unsynced := course.unsynced
    rw [List.count_nil, Nat.zero_add] at unsynced
    refine ⟨told, trace, course, course.records, ?_, ?_, ?_, unsynced, ?_, ?_, ?_,
      fun before after => course.reopens_after_unsynced nofun⟩
    · rw [whole.sends]
      exact Nat.zero_add _
    · rw [metrics]
      exact Nat.zero_add _
    · rw [metrics]
      exact Nat.zero_add _
    · rw [metrics]
      exact Nat.zero_add _
    · rw [metrics]
      exact Nat.zero_add _
    · rw [metrics]
      exact Nat.zero_add _

end ReaderTrial

end MotionCast
