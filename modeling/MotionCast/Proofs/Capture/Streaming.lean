import MotionCast.Proofs.Capture.Delivering
import MotionCast.Proofs.Capture.Rollback
import MotionCast.Proofs.Capture.Seating

/-! A record on its way through a capture. One that is whole and in step is handed on, taken apart
and shown to every viewer within the same read, with three buffers going round on either side of the
extractor. Between two reads nothing is on its way, and every viewer has seen all frames so far. -/

namespace MotionCast

/-! ### A seat -/

/-- The viewer of a seat has seen all of `count` frames of a length. -/
structure Seat.Current (length count : Nat) (s : Seat) : Prop where
  published : s.feed.published = count
  seen : s.viewer.seen = count
  present : s.feed.closed = false
  length : s.feed.value.length = length

namespace Seat.Current

variable {s : Seat} {length count : Nat} {frame : Bytes}

theorem consume (h : s.Current length count) : s.consume = (none, s) := by
  have nothing_new : s.feed.consume? s.viewer = none := by
    simp [Feed.consume?, Feed.hasNew, h.published, h.seen]
  rw [Seat.consume, nothing_new]

/-- A frame that is shown is read once. -/
theorem consume_display (h : s.Current frame.length count) :
    (s.display frame).consume.1 = some ⟨frame, count + 1⟩ ∧
      (s.display frame).consume.2.Current frame.length (count + 1) := by
  have shown : s.display frame = { s with feed := s.feed.publish frame } :=
    display_of_length h.length.symm
  have read : (s.feed.publish frame).consume? s.viewer =
      some (⟨frame, count + 1⟩, ⟨count + 1⟩) := by
    simp [Feed.consume?, Feed.publish, Feed.hasNew, h.present, h.published, h.seen]
  rw [shown, Seat.consume, read]
  exact ⟨rfl, congrArg (· + 1) h.published, rfl, h.present, rfl⟩

end Seat.Current

namespace Capture

variable {c : Capture}

/-! ### Settling -/

theorem settle_of_idle (idle : c.crew.isAtWork .broadcaster = false) : c.settle = c := by
  rw [settle, idle]
  rfl

theorem settle_of_empty (empty : c.wiring.frames.hasData = false) :
    ∃ listening, c.settle = { c with listening } := by
  unfold settle
  split
  · refine ⟨true, ?_⟩
    rw [publish, Mailbox.poll, empty]
    rfl
  · exact ⟨c.listening, rfl⟩

theorem settle_of_frame (at_work : c.crew.isAtWork .broadcaster = true)
    (seated : 0 < c.audience.size) (waits : c.wiring.frames.hasData = true) :
    c.settle = { c with
      shown := c.wiring.frames.inFlight
      audience := c.audience.publish c.wiring.frames.inFlight
      listening := c.audience.size > 0
      wiring.frames := { c.wiring.frames with inFlight := c.shown, hasData := false }
      wiring.metrics.framesPublished := c.wiring.metrics.framesPublished + c.audience.size } := by
  rw [settle, if_pos (by simp [at_work, seated]), publish, Mailbox.poll, if_pos waits]

/-! ### Extraction -/

theorem extract?_of_empty (empty : c.wiring.records.hasData = false) (now : Nanos) :
    c.extract? now = some (c.analyze now).settle := by
  have nothing : c.extractor.step? c.wiring = some ⟨none, c.extractor, c.wiring⟩ := by
    rw [Extractor.step?, Mailbox.poll, empty]
    rfl
  rw [extract?, nothing]
  rfl

/-- The wiring after the extractor took the record that waits. -/
def emptied (c : Capture) : Wiring :=
  { c.wiring with records := { c.wiring.records with inFlight := c.extractor.raw, hasData := false } }

/-- A record that waits is taken apart, and what is sent on is its frame. -/
theorem step?_of_record {frame : Bytes} (waits : c.wiring.records.hasData = true)
    (taken : c.extractor.transport.extract? c.wiring.records.inFlight c.extractor.frame =
      some frame) :
    c.extractor.step? c.wiring =
      some (c.extractor.send c.wiring.records.inFlight frame c.emptied) := by
  rw [Extractor.step?, Mailbox.poll, if_pos waits]
  simp only [taken, Option.map_some]
  rfl

/-- A record that waits is taken apart, and its frame goes to the broadcaster, whatever the analysis
of its counter comes to. -/
theorem extract?_of_record {frame : Bytes} (waits : c.wiring.records.hasData = true)
    (taken : c.extractor.transport.extract? c.wiring.records.inFlight c.extractor.frame = some frame)
    (now : Nanos) :
    ∃ crew loop advances unsynced readStuck,
      c.extract? now = some ({ c with
        crew
        extractor := { c.extractor with
          raw := c.wiring.records.inFlight
          frame := c.wiring.frames.inFlight
          lastCounter := some (Frame.counter frame) }
        loop
        wiring := { c.emptied with
          frames := (c.wiring.frames.send frame).2
          advances
          unsynced
          readStuck
          metrics.framesExtracted := c.wiring.metrics.framesExtracted + 1 } } : Capture).settle ∧
      crew.isAtWork .broadcaster = c.crew.isAtWork .broadcaster := by
  let sent := c.extractor.send c.wiring.records.inFlight frame c.emptied
  let extracted : Capture := { c with extractor := sent.extractor, wiring := sent.wiring }
  have kept := isAtWork_analyze extracted .broadcaster (by decide) now
  obtain ⟨crew, loop, advances, unsynced, readStuck, analyzed, -⟩ := exists_analyze extracted now
  rw [analyzed] at kept
  refine ⟨crew, loop, advances, unsynced, readStuck, ?_, kept⟩
  rw [extract?, step?_of_record waits taken, Option.map_some]
  exact congrArg (fun c : Capture => some c.settle) analyzed

/-! ### A read -/

/-- A capture with nothing on its way, between two reads: the buffers have their lengths, and each
of its viewers has seen all of `count` frames. -/
structure Streaming (rc : ReaderConfig) (viewers count : Nat) (c : Capture) : Prop where
  config : c.reader.config = rc
  fill : c.reader.fill.length = rc.rawLength
  records : c.wiring.records.hasData = false
  record : c.wiring.records.inFlight.length = rc.rawLength
  frames : c.wiring.frames.hasData = false
  frame : c.wiring.frames.inFlight.length = rc.frameLength
  unasked : c.wiring.enableMotion.raised = false
  transport : c.extractor.transport = rc.transport
  raw : c.extractor.raw.length = rc.rawLength
  extracted : c.extractor.frame.length = rc.frameLength
  shown : c.shown.length = rc.frameLength
  at_work : c.crew.isAtWork .broadcaster = true
  seats : ∃ seat : Seat, seat.Current rc.frameLength count ∧
    c.audience.seats = List.replicate viewers seat
  registered : c.audience.registered = List.range viewers

variable {rc : ReaderConfig} {viewers count : Nat}

theorem Streaming.size (h : c.Streaming rc viewers count) : c.audience.size = viewers := by
  rw [Audience.size, h.registered, List.length_range]

/-- All viewers are at the same place before and after a frame. -/
theorem Streaming.publish (h : c.Streaming rc viewers count) (frame : Bytes) {seat : Seat}
    (seats : c.audience.seats = List.replicate viewers seat) :
    c.audience.publish frame =
      { c.audience with seats := List.replicate viewers (seat.display frame) } := by
  have all : c.audience.registered = List.range c.audience.seats.length := by
    rw [h.registered, seats, List.length_replicate]
  rw [Audience.publish_of_all all, seats, List.map_replicate]

/-- A read that hands on nothing leaves the capture streaming, with what the reader counts. -/
theorem afterRead?_of_nothing {outcome : ReadOutcome} {r : Reader} {w : Wiring}
    (h : c.Streaming rc viewers count)
    (came : c.reader.afterRead c.wiring outcome false = (r, w)) (config : r.config = rc)
    (fill : r.fill.length = rc.rawLength) (records : w.records = c.wiring.records)
    (frames : w.frames = c.wiring.frames) (unasked : w.enableMotion = c.wiring.enableMotion)
    (now : Nanos) :
    ∃ c', c.afterRead? outcome now = some c' ∧ c'.Streaming rc viewers count ∧
      c'.reader = r ∧ c'.wiring.metrics = w.metrics := by
  have empty : w.records.hasData = false := by rw [records, h.records]
  have shown : w.frames.hasData = false := by rw [frames, h.frames]
  let judged : Capture := { c with reader := r, wiring := w }
  have kept := isAtWork_analyze judged .broadcaster (by decide) now
  obtain ⟨crew, loop, advances, unsynced, readStuck, analyzed, -⟩ := exists_analyze judged now
  rw [analyzed] at kept
  obtain ⟨listening, settled⟩ := settle_of_empty (c := { judged with
    crew
    loop
    wiring := { w with advances, unsynced, readStuck } }) shown
  have read : c.afterRead? outcome now = some { judged with
      crew
      loop
      listening
      wiring := { w with advances, unsynced, readStuck } } := by
    rw [afterRead?, came]
    simp only
    rw [extract?_of_empty empty now]
    exact congrArg some ((congrArg settle analyzed).trans settled)
  refine ⟨_, read, ?_, rfl, rfl⟩
  · exact { h with
      config
      fill
      records := empty
      record := by rw [records, h.record]
      frames := shown
      frame := by rw [frames, h.frame]
      unasked := by rw [unasked, h.unasked]
      at_work := kept.trans h.at_work }

/-- A malformed read: the device is dropped, or the report is cut short. -/
theorem afterRead?_of_malformed {n : Nat} {raw : Bytes} (h : c.Streaming rc viewers count)
    (length : raw.length = rc.rawLength)
    (judged : rc.judge (.returned n raw) =
      if rc.transport.isRecordStream then .desynced else .cutShort) (now : Nanos) :
    ∃ c', c.afterRead? (.returned n raw) now = some c' ∧ c'.Streaming rc viewers count ∧
      c'.reader.isOpen = (c.reader.isOpen && !rc.transport.isRecordStream) ∧
      c'.wiring.metrics = { c.wiring.metrics with
        unsynced := c.wiring.metrics.unsynced + if rc.transport.isRecordStream then 1 else 0
        shortReads :=
          c.wiring.metrics.shortReads + if rc.transport.isRecordStream then 0 else 1 } := by
  cases stream : rc.transport.isRecordStream with
  | true =>
    rw [stream, if_pos rfl] at judged
    have came : c.reader.afterRead c.wiring (.returned n raw) false =
        (c.reader.filled (.returned n raw)).desync c.wiring := by
      rw [Reader.afterRead, h.config, judged]
    obtain ⟨c', read, streaming, reader, metrics⟩ :=
      afterRead?_of_nothing h came h.config length rfl rfl rfl now
    refine ⟨c', read, streaming, ?_, ?_⟩
    · rw [reader]
      simp
    · rw [metrics]
      simp
  | false =>
    rw [stream, if_neg (by decide)] at judged
    have came : c.reader.afterRead c.wiring (.returned n raw) false =
        (c.reader.filled (.returned n raw), { c.wiring with
          metrics.shortReads := c.wiring.metrics.shortReads + 1 }) := by
      rw [Reader.afterRead, h.config, judged]
    obtain ⟨c', read, streaming, reader, metrics⟩ :=
      afterRead?_of_nothing h came h.config length rfl rfl rfl now
    refine ⟨c', read, streaming, ?_, ?_⟩
    · rw [reader]
      simp [Reader.filled]
    · rw [metrics]
      simp

/-- A well-formed read: its frame is shown to all viewers. -/
theorem afterRead?_of_record {n : Nat} {raw frame : Bytes} (h : c.Streaming rc viewers count)
    (seated : 0 < viewers) (length : raw.length = rc.rawLength)
    (judged : rc.judge (.returned n raw) = .record) (fits : frame.length = rc.frameLength)
    (taken : ∀ old : Bytes, old.length = frame.length → rc.transport.extract? raw old = some frame)
    (now : Nanos) :
    ∃ c', c.afterRead? (.returned n raw) now = some c' ∧
      ({ c' with audience := c.audience } : Capture).Streaming rc viewers count ∧
      c'.audience = c.audience.publish frame ∧ c'.reader.isOpen = c.reader.isOpen ∧
      c'.wiring.metrics = { c.wiring.metrics with
        framesRead := c.wiring.metrics.framesRead + 1
        framesExtracted := c.wiring.metrics.framesExtracted + 1
        framesPublished := c.wiring.metrics.framesPublished + viewers } := by
  have came : c.reader.afterRead c.wiring (.returned n raw) false =
      ({ c.reader with fill := c.wiring.records.inFlight }, { c.wiring with
        records := (c.wiring.records.send raw).2
        metrics.framesRead := c.wiring.metrics.framesRead + 1 }) := by
    rw [Reader.afterRead, h.config, judged]
    rfl
  have extracts : c.extractor.transport.extract? raw c.extractor.frame = some frame := by
    rw [h.transport]
    exact taken _ (h.extracted.trans fits.symm)
  obtain ⟨crew, loop, advances, unsynced, readStuck, extracted, at_work⟩ := extract?_of_record
    (c := { c with
      reader := { c.reader with fill := c.wiring.records.inFlight }
      wiring := { c.wiring with
        records := (c.wiring.records.send raw).2
        metrics.framesRead := c.wiring.metrics.framesRead + 1 } })
    (by rfl) extracts now
  rw [afterRead?, came]
  simp only
  rw [extracted, settle_of_frame]
  · refine ⟨_, rfl, ?_, rfl, rfl, ?_⟩
    · exact { h with
        fill := h.record
        records := rfl
        record := h.raw
        frames := rfl
        frame := h.shown
        raw := length
        extracted := h.frame
        shown := fits
        at_work := at_work.trans h.at_work }
    · rw [← h.size]
      rfl
  · exact at_work.trans h.at_work
  · exact h.size ▸ seated
  · rfl

end Capture

end MotionCast
