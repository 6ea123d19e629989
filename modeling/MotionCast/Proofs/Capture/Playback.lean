import MotionCast.Capture.Replay
import MotionCast.Proofs.Capture.Streaming

/-! A capture of a scripted device, from the device to the viewers. After any number of reads every
viewer has got the frames of the well-formed records so far, each once and in order, whatever
records between them were malformed. Each of those is counted once, and on a record stream the
device is opened again before the next read. -/

namespace MotionCast

namespace DeviceScript

variable (s : DeviceScript)

/-- The malformed ones among the first records. -/
def malformedAmong (n : Nat) : Nat := (List.range n).countP s.malformed.contains

/-- The well-formed ones among the first records. -/
def wellFormedAmong (n : Nat) : Nat := (List.range n).countP fun i => !s.malformed.contains i

/-- The frame of a well-formed record, by its number among them. -/
def frame (j : Nat) : Bytes := (ScriptedDevice.new s).frame (s.firstCounter + UInt32.ofNat j)

/-- What a viewer gets who misses nothing. -/
def deliveries (count : Nat) : List Delivery := (List.range count).map fun j => ⟨s.frame j, j + 1⟩

/-- How often the first records have the device dropped. -/
def losses (n : Nat) : Nat := if s.transport.isRecordStream then s.malformedAmong n else 0

/-- How many of the first records are cut short. -/
def cuts (n : Nat) : Nat := if s.transport.isRecordStream then 0 else s.malformedAmong n

variable {s}

theorem malformedAmong_succ (n : Nat) :
    s.malformedAmong (n + 1) = s.malformedAmong n + if s.malformed.contains n then 1 else 0 := by
  simp [malformedAmong, List.range_succ]

theorem wellFormedAmong_succ (n : Nat) :
    s.wellFormedAmong (n + 1) =
      s.wellFormedAmong n + if s.malformed.contains n then 0 else 1 := by
  simp [wellFormedAmong, List.range_succ]

theorem deliveries_succ (count : Nat) :
    s.deliveries (count + 1) = s.deliveries count ++ [⟨s.frame count, count + 1⟩] := by
  simp [deliveries, List.range_succ]

end DeviceScript

/-- A frame holds its counter. -/
theorem CaptureConfig.length_of_validate {c : CaptureConfig} (valid : c.validate = .ok ()) :
    8 ≤ c.frameLength := by
  apply Nat.le_of_not_lt
  intro short
  rw [CaptureConfig.validate, CaptureConfig.fault?, if_pos short] at valid
  contradiction

namespace Replay

/-! ### The viewers -/

theorem foldl_consume (later : List (List Delivery)) {c : Capture} {front back : List Seat}
    (seats : c.audience.seats = front ++ back) (length : back.length = later.length)
    (done : List (List Delivery)) :
    (later.zipIdx front.length).foldl (fun (state : Capture × List (List Delivery)) seen =>
        let (delivery, capture) := state.1.consume seen.2
        (capture, state.2 ++ [seen.1 ++ delivery.toList])) (c, done) =
      ({ c with audience.seats := front ++ back.map (·.consume.2) },
        done ++ List.zipWith (fun seen s => seen ++ s.consume.1.toList) later back) := by
  induction later generalizing c front back done with
  | nil =>
    obtain rfl := List.eq_nil_of_length_eq_zero length
    rw [List.append_nil] at seats
    simp [← seats]
  | cons seen rest ih =>
    obtain ⟨s, back, rfl⟩ := List.exists_cons_of_length_eq_add_one length
    have consumed : c.consume front.length = (s.consume.1, { c with
        audience.seats := (front ++ [s.consume.2]) ++ back }) := by
      have here : c.audience.seats[front.length]? = some s := by simp [seats]
      rw [Capture.consume, Audience.consume, here]
      simp [seats]
    have next := ih (c := { c with audience.seats := (front ++ [s.consume.2]) ++ back }) rfl
      (Nat.succ.inj length) (done ++ [seen ++ s.consume.1.toList])
    rw [List.length_append, List.length_singleton] at next
    rw [List.zipIdx_cons, List.foldl_cons]
    simp only [consumed]
    rw [next]
    simp

/-- Viewers in the same position get the same. -/
theorem consumeAll_of_replicate {r : Replay} {viewers : Nat} {seat : Seat} {seen : List Delivery}
    (seats : r.capture.audience.seats = List.replicate viewers seat)
    (delivered : r.delivered = List.replicate viewers seen) :
    r.consumeAll = { r with
      capture.audience.seats := List.replicate viewers seat.consume.2
      delivered := List.replicate viewers (seen ++ seat.consume.1.toList) } := by
  have all := foldl_consume r.delivered (show r.capture.audience.seats = [] ++ _ from seats)
    (by simp [delivered]) []
  have after := congrArg (fun state : Capture × List (List Delivery) =>
    ({ r with capture := state.1, delivered := state.2 } : Replay)) all
  refine Eq.trans (show r.consumeAll = _ from rfl) (after.trans ?_)
  simp [delivered]

/-! ### A read -/

/-- After `n` reads: the device is at the next record, the capture streams, every viewer got the
frames so far, and each counter counts what it is named for. -/
structure Playing (s : DeviceScript) (rc : ReaderConfig) (viewers n : Nat) (r : Replay) : Prop where
  script : r.device.script = s
  imu : r.device.imu = s.imu
  emitted : r.device.emitted = n
  counter : r.device.nextCounter = s.firstCounter + UInt32.ofNat (s.wellFormedAmong n)
  openable : r.device.openFails = false
  streaming : r.capture.Streaming rc viewers (s.wellFormedAmong n)
  delivered : r.delivered = List.replicate viewers (s.deliveries (s.wellFormedAmong n))
  framesRead : r.capture.wiring.metrics.framesRead = s.wellFormedAmong n
  framesExtracted : r.capture.wiring.metrics.framesExtracted = s.wellFormedAmong n
  framesPublished : r.capture.wiring.metrics.framesPublished = s.wellFormedAmong n * viewers
  unsynced : r.capture.wiring.metrics.unsynced = s.losses n
  shortReads : r.capture.wiring.metrics.shortReads = s.cuts n
  reconnects : r.capture.wiring.metrics.reconnects = r.device.opens

variable {s : DeviceScript} {rc : ReaderConfig} {viewers n : Nat} {r : Replay}

theorem writeAsked_eq (h : r.Playing s rc viewers n) : r.writeAsked = r := by
  have unasked : r.capture.reader.beforeRead r.capture.wiring = (none, r.capture.wiring) := by
    rw [Reader.beforeRead, h.streaming.unasked]
    simp
  rw [writeAsked, Capture.beforeRead, unasked]

/-- The device is open again before a read, which takes one opening if it was dropped. -/
theorem playing_reconnect (h : r.Playing s rc viewers n) :
    r.reconnect.Playing s rc viewers n ∧ r.reconnect.capture.reader.isOpen = true ∧
      r.reconnect.device.opens = r.device.opens + if r.capture.reader.isOpen then 0 else 1 := by
  unfold reconnect
  cases state : r.capture.reader.isOpen with
  | true => exact ⟨by rwa [if_pos rfl], state, rfl⟩
  | false =>
    have connected : r.connectDevice =
        (.ok (), { r with device := { r.device with opens := r.device.opens + 1 } }) := by
      rw [connectDevice, ScriptedDevice.connect, if_neg (by simp [h.openable])]
    rw [if_neg (by decide), connected]
    refine ⟨?_, rfl, rfl⟩
    exact { h with
      streaming := { h.streaming with }
      reconnects := congrArg (· + 1) h.reconnects }

theorem reconnect_of_open (is_open : r.capture.reader.isOpen = true) : r.reconnect = r :=
  if_pos is_open

theorem read?_reconnect (is_open : r.reconnect.capture.reader.isOpen = true) :
    r.reconnect.read? = r.read? := by
  rw [read?, read?, reconnect_of_open is_open]

/-- The device after its next record. -/
def advanced (r : Replay) (malformed : Bool) : ScriptedDevice :=
  { r.device with
    emitted := r.device.emitted + 1
    nextCounter := if malformed then r.device.nextCounter else r.device.nextCounter + 1 }

/-- A read of an open device takes what the device delivers through the capture. -/
theorem read?_of_open {count : Nat} {raw : Bytes} (h : r.Playing s rc viewers n)
    (is_open : r.capture.reader.isOpen = true) (steady : s.blockOn = none)
    (delivers : ScriptedDevice.deliver? s (r.device.frame r.device.nextCounter)
      (s.malformed.contains n) r.capture.reader.fill = some (count, raw)) :
    r.read? = (r.capture.afterRead? (.returned count raw) 0).map fun capture =>
      ({ r with capture, device := r.advanced (s.malformed.contains n) } : Replay).consumeAll := by
  have next : r.device.next? r.capture.reader.fill =
      some (.read count raw, r.advanced (s.malformed.contains n)) := by
    rw [ScriptedDevice.next?_eq (by simp [h.script, steady]), h.script, h.emitted, delivers,
      ← h.script, ← h.emitted]
    rfl
  rw [read?, reconnect_of_open is_open]
  simp only [is_open, Bool.not_true, Bool.false_eq_true, if_false, writeAsked_eq h, next]

theorem length_frame (h : r.Playing s rc viewers n) (fits : s.Fits rc)
    (sensors : s.imu.length = 6) (counter : UInt32) :
    (r.device.frame counter).length = s.frameLength := by
  rw [ScriptedDevice.length_frame, h.script]
  · rw [h.script]
    exact fits.holds
  · rw [h.imu, sensors]

/-- A malformed record is lost on everyone, and counted. -/
theorem read?_of_malformed (h : r.Playing s rc viewers n) (fits : s.Fits rc)
    (steady : s.blockOn = none) (sensors : s.imu.length = 6)
    (is_open : r.capture.reader.isOpen = true) (malformed : s.malformed.contains n = true) :
    ∃ r', r.read? = some r' ∧ r'.Playing s rc viewers (n + 1) ∧
      r'.device.opens = r.device.opens ∧
      r'.capture.reader.isOpen = !s.transport.isRecordStream := by
  obtain ⟨count, raw, delivers, length, judged⟩ :=
    fits.malformed (length_frame h fits sensors r.device.nextCounter) h.streaming.fill
  rw [← fits.transport] at judged
  obtain ⟨c', read, streaming, stays, metrics⟩ :=
    Capture.afterRead?_of_malformed h.streaming length judged 0
  rw [fits.transport] at stays metrics
  obtain ⟨seat, current, seats⟩ := streaming.seats
  have consumed := consumeAll_of_replicate
    (r := { r with capture := c', device := r.advanced true }) seats h.delivered
  rw [current.consume, Option.toList_none, List.append_nil] at consumed
  have no_more : s.wellFormedAmong (n + 1) = s.wellFormedAmong n := by
    rw [DeviceScript.wellFormedAmong_succ, malformed]
    rfl
  have one_more : s.malformedAmong (n + 1) = s.malformedAmong n + 1 := by
    rw [DeviceScript.malformedAmong_succ, malformed]
    rfl
  rw [← malformed] at delivers
  rw [read?_of_open h is_open steady delivers, read, malformed, Option.map_some, consumed]
  refine ⟨_, rfl, ?_, rfl, ?_⟩
  · exact {
      script := h.script
      imu := h.imu
      emitted := congrArg (· + 1) h.emitted
      counter := by
        rw [no_more]
        exact h.counter
      openable := h.openable
      streaming := by
        rw [no_more]
        exact { streaming with seats := ⟨seat, current, rfl⟩ }
      delivered := by rw [no_more]
      framesRead := by rw [no_more, metrics, ← h.framesRead]
      framesExtracted := by rw [no_more, metrics, ← h.framesExtracted]
      framesPublished := by rw [no_more, metrics, ← h.framesPublished]
      unsynced := by
        rw [metrics]
        simp only [h.unsynced, DeviceScript.losses, one_more]
        split <;> rfl
      shortReads := by
        rw [metrics]
        simp only [h.shortReads, DeviceScript.cuts, one_more]
        split <;> rfl
      reconnects := by
        rw [metrics]
        exact h.reconnects }
  · show c'.reader.isOpen = _
    rw [stays, is_open, Bool.true_and]

/-- A well-formed record reaches every viewer. -/
theorem read?_of_wellFormed (h : r.Playing s rc viewers n) (fits : s.Fits rc)
    (steady : s.blockOn = none) (sensors : s.imu.length = 6) (seated : 0 < viewers)
    (is_open : r.capture.reader.isOpen = true) (wellFormed : s.malformed.contains n = false) :
    ∃ r', r.read? = some r' ∧ r'.Playing s rc viewers (n + 1) ∧
      r'.device.opens = r.device.opens ∧ r'.capture.reader.isOpen = true := by
  have same_frame : r.device.frame r.device.nextCounter = s.frame (s.wellFormedAmong n) := by
    rw [h.counter, DeviceScript.frame, ScriptedDevice.frame, ScriptedDevice.frame, h.script, h.imu]
    rfl
  have length := length_frame h fits sensors r.device.nextCounter
  rw [same_frame] at length
  obtain ⟨count, raw, delivers, raw_length, judged, taken⟩ :=
    fits.wellFormed length h.streaming.fill
  rw [← fits.transport] at taken
  obtain ⟨c', read, streaming, audience, stays, metrics⟩ :=
    Capture.afterRead?_of_record h.streaming seated raw_length judged (length.trans fits.length.symm)
      taken 0
  obtain ⟨seat, current, seats⟩ := h.streaming.seats
  rw [h.streaming.publish _ seats] at audience
  have shown : c'.audience.seats =
      List.replicate viewers (seat.display (s.frame (s.wellFormedAmong n))) := by rw [audience]
  obtain ⟨got, seen⟩ := (length.trans fits.length.symm ▸ current).consume_display
  have consumed := consumeAll_of_replicate
    (r := { r with capture := c', device := r.advanced false }) shown h.delivered
  rw [got, Option.toList_some, ← DeviceScript.deliveries_succ] at consumed
  have one_more : s.wellFormedAmong (n + 1) = s.wellFormedAmong n + 1 := by
    rw [DeviceScript.wellFormedAmong_succ, wellFormed]
    rfl
  have no_more : s.malformedAmong (n + 1) = s.malformedAmong n := by
    rw [DeviceScript.malformedAmong_succ, wellFormed]
    rfl
  rw [← wellFormed, ← same_frame] at delivers
  rw [read?_of_open h is_open steady delivers, read, wellFormed, Option.map_some, consumed]
  refine ⟨_, rfl, ?_, rfl, ?_⟩
  · exact {
      script := h.script
      imu := h.imu
      emitted := congrArg (· + 1) h.emitted
      counter := by
        show r.device.nextCounter + 1 = _
        rw [h.counter, one_more, UInt32.ofNat_add, UInt32.add_assoc]
        rfl
      openable := h.openable
      streaming := by
        rw [one_more]
        exact { streaming with
          seats := ⟨_, length.trans fits.length.symm ▸ seen, rfl⟩
          registered := by
            show c'.audience.registered = _
            rw [audience]
            exact h.streaming.registered }
      delivered := by rw [one_more]
      framesRead := by
        rw [one_more, metrics]
        exact congrArg (· + 1) h.framesRead
      framesExtracted := by
        rw [one_more, metrics]
        exact congrArg (· + 1) h.framesExtracted
      framesPublished := by
        rw [one_more, metrics, Nat.succ_mul, ← h.framesPublished]
      unsynced := by
        rw [DeviceScript.losses, no_more, metrics]
        exact h.unsynced
      shortReads := by
        rw [DeviceScript.cuts, no_more, metrics]
        exact h.shortReads
      reconnects := by
        rw [metrics]
        exact h.reconnects }
  · show c'.reader.isOpen = true
    rw [stays, is_open]

/-! ### From the start on -/

/-- A capture that is not started is joined by viewers who have seen nothing. -/
theorem joined_eq (config : CaptureConfig) (transport : Transport) (writable : Bool)
    (viewers : Nat) :
    joined (Capture.assemble config transport writable) viewers =
      { Capture.assemble config transport writable with
        audience := ⟨config.frameLength, List.replicate viewers
          { feed := Feed.new (Bytes.zeros config.frameLength) }, List.range viewers⟩ } := by
  induction viewers with
  | zero => rfl
  | succ viewers ih =>
    have idle : (Crew.new transport.isRecordStream).isAtWork .broadcaster = false := by
      cases transport <;> rfl
    rw [joined, ih, List.replicate_succ', List.range_succ]
    simp only [Capture.subscribe, Audience.subscribe, List.length_replicate]
    exact Capture.settle_of_idle idle

/-- A start begins the runs of all stages, and the reader's with an open device. -/
theorem start_joined (config : CaptureConfig) (transport : Transport) (viewers : Nat) :
    ∃ c, (joined (Capture.assemble config transport true) viewers).start (.ok ()) 0 = (.ok (), c) ∧
      c.Streaming (.ofCapture config transport true) viewers 0 ∧ c.reader.isOpen = true ∧
      c.wiring.metrics = { reconnects := 1 } := by
  obtain ⟨crew, loop, started, at_work⟩ : ∃ crew loop,
      (joined (Capture.assemble config transport true) viewers).start (.ok ()) 0 =
        (.ok (), ({ joined (Capture.assemble config transport true) viewers with
          crew
          loop
          reader := Reader.new (.ofCapture config transport true) true
          wiring := { Wiring.new (transport.rawLength config.frameLength) config.frameLength with
            metrics.reconnects := 1 } } : Capture).settle) ∧
      crew.isAtWork .broadcaster = true := by
    rw [joined_eq]
    cases transport with
    | records recordLength payloadOffset => exact ⟨_, _, rfl, rfl⟩
    | report => exact ⟨_, _, rfl, rfl⟩
  rw [joined_eq] at started
  obtain ⟨listening, settled⟩ := Capture.settle_of_empty
    (c := { Capture.assemble config transport true with
      audience := ⟨config.frameLength, List.replicate viewers
        { feed := Feed.new (Bytes.zeros config.frameLength) }, List.range viewers⟩
      crew
      loop
      reader := Reader.new (.ofCapture config transport true) true
      wiring := { Wiring.new (transport.rawLength config.frameLength) config.frameLength with
        metrics.reconnects := 1 } }) rfl
  rw [settled] at started
  rw [joined_eq, started]
  refine ⟨_, rfl, ?_, rfl, rfl⟩
  exact {
    config := rfl
    fill := Bytes.length_zeros _
    records := rfl
    record := Bytes.length_zeros _
    frames := rfl
    frame := Bytes.length_zeros _
    unasked := rfl
    transport := rfl
    raw := Bytes.length_zeros _
    extracted := Bytes.length_zeros _
    shown := Bytes.length_zeros _
    at_work
    seats := ⟨_, ⟨rfl, rfl, rfl, Bytes.length_zeros _⟩, rfl⟩
    registered := rfl }

theorem playing_start (config : CaptureConfig) (s : DeviceScript) (viewers : Nat) :
    ∃ r, (new config s viewers).start = (.ok (), r) ∧
      r.Playing s (.ofCapture config s.transport true) viewers 0 ∧
      r.device.opens = 1 ∧ r.capture.reader.isOpen = true := by
  obtain ⟨c, started, streaming, is_open, metrics⟩ := start_joined config s.transport viewers
  refine ⟨⟨c, { ScriptedDevice.new s with opens := 1 }, List.replicate viewers []⟩, ?_, ?_, rfl,
    is_open⟩
  · have connected : (new config s viewers).connectDevice =
        (.ok (), { new config s viewers with
          device := { ScriptedDevice.new s with opens := 1 } }) := rfl
    rw [start, connected]
    simp only [new, DeviceScript.writable, started]
  · exact {
      script := rfl
      imu := rfl
      emitted := rfl
      counter := (UInt32.add_zero s.firstCounter).symm
      openable := rfl
      streaming
      delivered := rfl
      framesRead := by
        rw [metrics]
        rfl
      framesExtracted := by
        rw [metrics]
        rfl
      framesPublished := by
        rw [metrics]
        exact (Nat.zero_mul viewers).symm
      unsynced := by
        rw [metrics, DeviceScript.losses]
        split <;> rfl
      shortReads := by
        rw [metrics, DeviceScript.cuts]
        split <;> rfl
      reconnects := by rw [metrics] }

/-- A read takes the next record, whatever it is. The opening it begins with makes up for what the
records before it have dropped. -/
theorem read?_of_playing (h : r.Playing s rc viewers n) (fits : s.Fits rc) (steady : s.blockOn = none)
    (sensors : s.imu.length = 6) (seated : 0 < viewers)
    (owed : r.device.opens + (if r.capture.reader.isOpen then 0 else 1) = 1 + s.losses n) :
    ∃ r', r.read? = some r' ∧ r'.Playing s rc viewers (n + 1) ∧
      r'.device.opens = 1 + s.losses n ∧
      r'.device.opens + (if r'.capture.reader.isOpen then 0 else 1) = 1 + s.losses (n + 1) := by
  obtain ⟨ready, is_open, opens⟩ := playing_reconnect h
  rw [← read?_reconnect is_open]
  cases kind : s.malformed.contains n with
  | false =>
    obtain ⟨r', read, playing, same, stays⟩ :=
      read?_of_wellFormed ready fits steady sensors seated is_open kind
    have no_loss : s.losses (n + 1) = s.losses n := by
      rw [DeviceScript.losses, DeviceScript.losses, DeviceScript.malformedAmong_succ, kind]
      rfl
    refine ⟨r', read, playing, ?_, ?_⟩
    · rw [same, opens, owed]
    · rw [same, opens, owed, stays, no_loss]
      rfl
  | true =>
    obtain ⟨r', read, playing, same, stays⟩ :=
      read?_of_malformed ready fits steady sensors is_open kind
    refine ⟨r', read, playing, ?_, ?_⟩
    · rw [same, opens, owed]
    · rw [same, opens, owed, stays, DeviceScript.losses, DeviceScript.losses,
        DeviceScript.malformedAmong_succ, kind]
      cases s.transport.isRecordStream <;> rfl

theorem reads?_of_playing (fits : s.Fits rc) (steady : s.blockOn = none) (sensors : s.imu.length = 6)
    (seated : 0 < viewers) (start : r.Playing s rc viewers 0) (opens : r.device.opens = 1)
    (is_open : r.capture.reader.isOpen = true) (n : Nat) :
    ∃ r', r.reads? n = some r' ∧ r'.Playing s rc viewers n ∧
      r'.device.opens = 1 + s.losses (n - 1) ∧
      r'.device.opens + (if r'.capture.reader.isOpen then 0 else 1) = 1 + s.losses n := by
  induction n with
  | zero =>
    have none_yet : s.losses 0 = 0 := by
      rw [DeviceScript.losses]
      split <;> rfl
    exact ⟨r, rfl, start, by rw [opens, none_yet], by rw [opens, is_open, none_yet, if_pos rfl]⟩
  | succ n ih =>
    obtain ⟨before, reads, playing, -, owed⟩ := ih
    obtain ⟨r', read, playing', opens', owed'⟩ :=
      read?_of_playing playing fits steady sensors seated owed
    refine ⟨r', ?_, playing', opens', owed'⟩
    rw [reads?, reads, Option.bind_some, read]

/-- A capture of a scripted device loses, repeats and alters nothing. -/
theorem frames_delivered (config : CaptureConfig) (s : DeviceScript) (viewers n : Nat)
    (valid : config.validate = .ok ()) (sized : s.frameLength = config.frameLength)
    (steady : s.blockOn = none) (sensors : s.imu.length = 6)
    (geometry : s.transport = .hiddev ∧ s.recordHeader = recordUsage ∨ s.transport = .report)
    (seated : 0 < viewers) :
    ∃ started r, (new config s viewers).start = (.ok (), started) ∧ started.reads? n = some r ∧
      r.delivered = List.replicate viewers (s.deliveries (s.wellFormedAmong n)) ∧
      (∀ j, (s.frame j).length = config.frameLength ∧
        Frame.counter (s.frame j) = s.firstCounter + UInt32.ofNat j) ∧
      r.capture.wiring.metrics.framesRead = s.wellFormedAmong n ∧
      r.capture.wiring.metrics.framesExtracted = s.wellFormedAmong n ∧
      r.capture.wiring.metrics.framesPublished = s.wellFormedAmong n * viewers ∧
      r.capture.wiring.metrics.reconnects = r.device.opens ∧
      (s.transport = .hiddev →
        r.capture.wiring.metrics.unsynced = s.malformedAmong n ∧
        r.capture.wiring.metrics.shortReads = 0 ∧
        r.device.opens = 1 + s.malformedAmong (n - 1)) ∧
      (s.transport = .report →
        r.capture.wiring.metrics.shortReads = s.malformedAmong n ∧
        r.capture.wiring.metrics.unsynced = 0 ∧
        r.device.opens = 1) := by
  have holds : 8 ≤ s.frameLength := sized ▸ CaptureConfig.length_of_validate valid
  have fits : s.Fits (.ofCapture config s.transport true) := ⟨rfl, sized.symm, holds, geometry⟩
  obtain ⟨started, start, fresh, once, is_open⟩ := playing_start config s viewers
  obtain ⟨r, reads, playing, opens, -⟩ :=
    reads?_of_playing fits steady sensors seated fresh once is_open n
  refine ⟨started, r, start, reads, playing.delivered, ?_, playing.framesRead,
    playing.framesExtracted, playing.framesPublished, playing.reconnects, ?_, ?_⟩
  · intro j
    constructor
    · exact (ScriptedDevice.length_frame holds sensors _).trans sized
    · exact ScriptedDevice.counter_frame holds sensors _
  · intro hiddev
    have unsynced := playing.unsynced
    have cut := playing.shortReads
    rw [DeviceScript.losses, hiddev] at unsynced opens
    rw [DeviceScript.cuts, hiddev] at cut
    exact ⟨unsynced, cut, opens⟩
  · intro report
    have unsynced := playing.unsynced
    have cut := playing.shortReads
    rw [DeviceScript.losses, report] at unsynced opens
    rw [DeviceScript.cuts, report] at cut
    exact ⟨cut, unsynced, opens⟩

/-- The second of three records is malformed, and the counter starts over between the others. -/
theorem frames_delivered_over_malformed :
    ∃ started r, (new { frameLength := 8 }
        { frameLength := 8, firstCounter := 0xFFFFFFFF, malformed := [1] } 2).start =
          (.ok (), started) ∧
      started.reads? 3 = some r ∧
      r.delivered = List.replicate 2 [
        ⟨[0x01, 0x00, 0x09, 0x40, 0xFF, 0xFF, 0xFF, 0xFF], 1⟩,
        ⟨[0x01, 0x00, 0x09, 0x40, 0x00, 0x00, 0x00, 0x00], 2⟩] ∧
      r.capture.wiring.metrics.framesPublished = 4 ∧
      r.capture.wiring.metrics.unsynced = 1 ∧
      r.device.opens = 2 := by
  obtain ⟨started, r, start, reads, delivered, -, -, -, published, -, hiddev, -⟩ :=
    frames_delivered { frameLength := 8 }
      { frameLength := 8, firstCounter := 0xFFFFFFFF, malformed := [1] } 2 3
      rfl rfl rfl rfl (.inl ⟨rfl, rfl⟩) (by decide)
  obtain ⟨unsynced, -, opens⟩ := hiddev rfl
  exact ⟨started, r, start, reads, delivered, published, unsynced, opens⟩

end Replay

end MotionCast
