import MotionCast.Channel.Mailbox
import MotionCast.Proofs.Channel.Chronicle

/-! A sender and a receiver that exchange buffers through a mailbox. What a receive comes to is told
from what happened before: the latest value that was sent and not delivered, else a flush that was
not noticed, else nothing. The buffers that go round are three, and none is lost. -/

namespace MotionCast

namespace Mailbox

variable {α : Type} {m : Mailbox α}

theorem poll_of_data (data : m.hasData = true) (received : α) :
    m.poll received = (true, m.inFlight, { m with inFlight := received, hasData := false }) :=
  if_pos data

theorem poll_of_empty (empty : m.hasData = false) (received : α) :
    m.poll received = (false, received, m) := by
  simp [poll, empty]

theorem receive_of_data (data : m.hasData = true) (received : α) :
    m.receive received =
      (.data, m.inFlight, { m with inFlight := received, hasData := false }) :=
  if_pos data

theorem receive_of_flush (empty : m.hasData = false) (due : m.flushed = true) (received : α) :
    m.receive received = (.flushed, received, { m with flushed := false }) := by
  simp [receive, empty, due]

theorem receive_of_calm (empty : m.hasData = false) (calm : m.flushed = false) (received : α) :
    m.receive received = (.timeout, received, m) := by
  simp [receive, empty, calm]

theorem wait?_of_pending (pending : m.hasData = true ∨ m.flushed = true) (received : α) :
    m.wait? received = some (m.receive received) :=
  if_pos (by simpa using pending)

theorem wait?_of_calm (empty : m.hasData = false) (calm : m.flushed = false) (received : α) :
    m.wait? received = none := by
  simp [wait?, empty, calm]

end Mailbox

/-- A buffer that can be told from others, whatever it holds. -/
structure Buffer (ι β : Type) where
  label : ι
  content : β

/-- A mailbox with the buffers that its sender and its receiver hold. -/
structure Exchange (ι β : Type) where
  fill : Buffer ι β
  mailbox : Mailbox (Buffer ι β)
  received : Buffer ι β

namespace Exchange

variable {ι β : Type}

/-- What the sender and the receiver do. -/
inductive Act (β : Type) where
  /-- The sender writes into the buffer that it holds. -/
  | write (content : β)
  | send
  | flush
  | poll
  | wait
  | waitBriefly
  /-- The receiver writes into the buffer that it holds. -/
  | reuse (content : β)

/-- What an act comes to. -/
inductive Outcome (β : Type) where
  | written
  | sent (content : β)
  | flushAsked
  | delivered (content : β)
  | flushed
  /-- The receiver found nothing and gave up. -/
  | empty
  /-- The receiver found nothing and goes on waiting. -/
  | waiting
deriving DecidableEq

def Outcome.ofReceipt (content : β) : Receipt → Outcome β
  | .data => .delivered content
  | .flushed => .flushed
  | .timeout => .empty

/-- An exchange in which nothing was sent. -/
def new (fill first received : Buffer ι β) : Exchange ι β :=
  { fill, mailbox := Mailbox.new first, received }

def step (x : Exchange ι β) : Act β → Outcome β × Exchange ι β
  | .write content => (.written, { x with fill.content := content })
  | .send =>
    let (fill, mailbox) := x.mailbox.send x.fill
    (.sent x.fill.content, { x with fill, mailbox })
  | .flush => (.flushAsked, { x with mailbox := x.mailbox.flush })
  | .poll =>
    let (found, received, mailbox) := x.mailbox.poll x.received
    (if found then .delivered received.content else .empty, { x with received, mailbox })
  | .wait =>
    match x.mailbox.wait? x.received with
    | none => (.waiting, x)
    | some (receipt, received, mailbox) =>
      (.ofReceipt received.content receipt, { x with received, mailbox })
  | .waitBriefly =>
    let (receipt, received, mailbox) := x.mailbox.receive x.received
    (.ofReceipt received.content receipt, { x with received, mailbox })
  | .reuse content => (.written, { x with received.content := content })

/-- The outcomes of acts in a row, the latest first, and the exchange after them. -/
def run (x : Exchange ι β) (acts : List (Act β)) : List (Outcome β) × Exchange ι β :=
  chronicle step x acts

/-! ### What happened -/

/-- The values that were sent, the latest first. -/
def sends : List (Outcome β) → List β
  | [] => []
  | .sent content :: past => content :: sends past
  | _ :: past => sends past

/-- The values that were delivered, the latest first. -/
def deliveries : List (Outcome β) → List β
  | [] => []
  | .delivered content :: past => content :: deliveries past
  | _ :: past => deliveries past

/-- The latest value that was sent since the last delivery. -/
def undelivered : List (Outcome β) → Option β
  | [] => none
  | .sent content :: _ => some content
  | .delivered _ :: _ => none
  | _ :: past => undelivered past

/-- A flush was asked for since one was last noticed. -/
def flushDue : List (Outcome β) → Bool
  | [] => false
  | .flushAsked :: _ => true
  | .flushed :: _ => false
  | _ :: past => flushDue past

/-- The three buffers. -/
def buffers (x : Exchange ι β) : List (Buffer ι β) := [x.fill, x.mailbox.inFlight, x.received]

def Act.receives : Act β → Bool
  | .poll => true
  | .wait => true
  | .waitBriefly => true
  | _ => false

/-! ### What an act does -/

/-- The ways in which an act changes an exchange. -/
inductive Change (x : Exchange ι β) : Act β → Outcome β → Exchange ι β → Prop where
  | wrote (content : β) : Change x (.write content) .written { x with fill.content := content }
  | reused (content : β) : Change x (.reuse content) .written { x with received.content := content }
  | sent : Change x .send (.sent x.fill.content)
      { x with
        fill := x.mailbox.inFlight
        mailbox := { x.mailbox with
          inFlight := x.fill, hasData := true, sent := x.mailbox.sent + 1 } }
  | flushAsked : Change x .flush .flushAsked { x with mailbox.flushed := true }
  | delivered (a : Act β) (receives : a.receives = true) (data : x.mailbox.hasData = true) :
    Change x a (.delivered x.mailbox.inFlight.content)
      { x with
        received := x.mailbox.inFlight
        mailbox := { x.mailbox with inFlight := x.received, hasData := false } }
  | flushed (a : Act β) (waits : a = .wait ∨ a = .waitBriefly) (idle : x.mailbox.hasData = false)
    (due : x.mailbox.flushed = true) : Change x a .flushed { x with mailbox.flushed := false }
  | polled (idle : x.mailbox.hasData = false) : Change x .poll .empty x
  | gaveUp (idle : x.mailbox.hasData = false) (calm : x.mailbox.flushed = false) :
    Change x .waitBriefly .empty x
  | waiting (idle : x.mailbox.hasData = false) (calm : x.mailbox.flushed = false) :
    Change x .wait .waiting x

theorem change_step (x : Exchange ι β) (a : Act β) : Change x a (x.step a).1 (x.step a).2 := by
  cases a with
  | write content => exact .wrote content
  | reuse content => exact .reused content
  | send => exact .sent
  | flush => exact .flushAsked
  | poll =>
    cases data : x.mailbox.hasData with
    | true =>
      simp only [step, Mailbox.poll_of_data data]
      exact .delivered .poll rfl data
    | false =>
      simp only [step, Mailbox.poll_of_empty data]
      exact .polled data
  | wait =>
    cases data : x.mailbox.hasData with
    | true =>
      simp only [step, Mailbox.wait?_of_pending (.inl data), Mailbox.receive_of_data data]
      exact .delivered .wait rfl data
    | false =>
      cases due : x.mailbox.flushed with
      | true =>
        simp only [step, Mailbox.wait?_of_pending (.inr due), Mailbox.receive_of_flush data due]
        exact .flushed .wait (.inl rfl) data due
      | false =>
        simp only [step, Mailbox.wait?_of_calm data due]
        exact .waiting data due
  | waitBriefly =>
    cases data : x.mailbox.hasData with
    | true =>
      simp only [step, Mailbox.receive_of_data data]
      exact .delivered .waitBriefly rfl data
    | false =>
      cases due : x.mailbox.flushed with
      | true =>
        simp only [step, Mailbox.receive_of_flush data due]
        exact .flushed .waitBriefly (.inr rfl) data due
      | false =>
        simp only [step, Mailbox.receive_of_calm data due]
        exact .gaveUp data due

section Change

variable {x y : Exchange ι β} {a : Act β} {o : Outcome β}

/-- Only a side that writes changes what a buffer holds. -/
theorem Change.buffers (c : Change x a o y) (operation : o ≠ .written) :
    y.buffers.Perm x.buffers := by
  cases c with
  | wrote content => exact absurd rfl operation
  | reused content => exact absurd rfl operation
  | sent => exact List.Perm.swap ..
  | flushAsked => exact .rfl
  | delivered _ _ _ => exact (List.Perm.swap ..).cons x.fill
  | flushed _ _ _ _ => exact .rfl
  | polled _ => exact .rfl
  | gaveUp _ _ => exact .rfl
  | waiting _ _ => exact .rfl

theorem Change.labels (c : Change x a o y) :
    (y.buffers.map Buffer.label).Perm (x.buffers.map Buffer.label) := by
  by_cases wrote : o = .written
  · subst wrote
    cases c with
    | wrote content => exact .rfl
    | reused content => exact .rfl
  · exact (c.buffers wrote).map _

theorem Change.ne_written (c : Change x a o y) (operation : a = .send ∨ a = .flush ∨
    a.receives = true) : o ≠ .written := by
  rintro rfl
  cases c with
  | wrote content => simp [Act.receives] at operation
  | reused content => simp [Act.receives] at operation

/-- A receive with a value in flight delivers it. -/
theorem Change.outcome_of_data (c : Change x a o y) (receives : a.receives = true)
    (data : x.mailbox.hasData = true) : o = .delivered x.mailbox.inFlight.content := by
  cases c with
  | delivered _ _ _ => rfl
  | wrote content => simp [Act.receives] at receives
  | reused content => simp [Act.receives] at receives
  | sent => simp [Act.receives] at receives
  | flushAsked => simp [Act.receives] at receives
  | flushed _ _ idle _ => simp [data] at idle
  | polled idle => simp [data] at idle
  | gaveUp idle _ => simp [data] at idle
  | waiting idle _ => simp [data] at idle

end Change

/-! ### What a mailbox knows of the past -/

/-- The flags, the count and the buffer in flight tell what happened. -/
structure Tells (past : List (Outcome β)) (x : Exchange ι β) : Prop where
  undelivered : undelivered past =
    if x.mailbox.hasData then some x.mailbox.inFlight.content else none
  flushDue : flushDue past = x.mailbox.flushed
  sent : x.mailbox.sent = (sends past).length
  /-- What is undelivered and what was delivered, the latest first, was sent in this order. -/
  inOrder : ((Exchange.undelivered past).toList ++ deliveries past).Sublist (sends past)

theorem Tells.new (fill first received : Buffer ι β) : Tells [] (new fill first received) :=
  ⟨rfl, rfl, rfl, List.Sublist.refl _⟩

theorem Tells.change {past : List (Outcome β)} {x y : Exchange ι β} {a : Act β} {o : Outcome β}
    (h : Tells past x) (c : Change x a o y) : Tells (o :: past) y := by
  cases c with
  | wrote content => exact ⟨h.undelivered, h.flushDue, h.sent, h.inOrder⟩
  | reused content => exact ⟨h.undelivered, h.flushDue, h.sent, h.inOrder⟩
  | sent =>
    refine ⟨rfl, h.flushDue, congrArg (· + 1) h.sent, ?_⟩
    have older := (List.sublist_append_right _ _).trans h.inOrder
    exact older.cons_cons _
  | flushAsked => exact ⟨h.undelivered, rfl, h.sent, h.inOrder⟩
  | delivered _ _ data =>
    have order := h.inOrder
    rw [h.undelivered, if_pos data] at order
    exact ⟨rfl, h.flushDue, h.sent, order⟩
  | flushed _ _ _ _ => exact ⟨h.undelivered, rfl, h.sent, h.inOrder⟩
  | polled _ => exact ⟨h.undelivered, h.flushDue, h.sent, h.inOrder⟩
  | gaveUp _ _ => exact ⟨h.undelivered, h.flushDue, h.sent, h.inOrder⟩
  | waiting _ _ => exact ⟨h.undelivered, h.flushDue, h.sent, h.inOrder⟩

theorem tells_run (x : Exchange ι β) (start : Tells [] x) (acts : List (Act β)) :
    Tells (x.run acts).1 (x.run acts).2 :=
  chronicle_induction start (fun _ x a h => h.change (change_step x a)) acts

theorem labels_run (x : Exchange ι β) (acts : List (Act β)) :
    ((x.run acts).2.buffers.map Buffer.label).Perm (x.buffers.map Buffer.label) :=
  chronicle_induction
    (P := fun _ y => (y.buffers.map Buffer.label).Perm (x.buffers.map Buffer.label)) .rfl
    (fun _ y a h => (change_step y a).labels.trans h) acts

theorem Tells.hasData_of_some {past : List (Outcome β)} {x : Exchange ι β} {content : β}
    (h : Tells past x) (waits : Exchange.undelivered past = some content) :
    x.mailbox.hasData = true ∧ x.mailbox.inFlight.content = content := by
  have known := h.undelivered.symm.trans waits
  split at known
  · rename_i data
    exact ⟨data, Option.some.inj known⟩
  · contradiction

theorem Tells.hasData_of_none {past : List (Outcome β)} {x : Exchange ι β}
    (h : Tells past x) (nothing : Exchange.undelivered past = none) :
    x.mailbox.hasData = false := by
  have known := h.undelivered.symm.trans nothing
  split at known
  · contradiction
  · rename_i empty
    simpa using empty

/-- What is delivered is some of what was sent, in the same order, and always the latest value,
once. No buffer is lost or copied, and a flush is noticed once, by a wait and not by a poll. -/
theorem latest_value_exchanged (fill first received : Buffer ι β) (acts : List (Act β)) :
    let past := ((new fill first received).run acts).1
    let x := ((new fill first received).run acts).2
    (x.mailbox.wasReceived = true ↔ undelivered past = none) ∧
    x.mailbox.sent = (sends past).length ∧ (deliveries past).Sublist (sends past) ∧
    (x.buffers.map Buffer.label).Perm [fill.label, first.label, received.label] ∧
    (∀ a ∈ [.send, .flush, .poll, .wait, .waitBriefly], (x.step a).2.buffers.Perm x.buffers) ∧
    (∀ content, undelivered past = some content →
      ∀ a ∈ [.poll, .wait, .waitBriefly], (x.step a).1 = .delivered content) ∧
    (undelivered past = none →
      (x.step .poll).1 = .empty ∧
      (x.step .wait).1 = (if flushDue past then .flushed else .waiting) ∧
      (x.step .waitBriefly).1 = (if flushDue past then .flushed else .empty)) := by
  intro past x
  have tells : Tells past x := tells_run _ (.new fill first received) acts
  refine ⟨?_, tells.sent, ?_, labels_run _ acts, ?_, ?_, ?_⟩
  · rw [tells.undelivered, Mailbox.wasReceived]
    cases x.mailbox.hasData <;> simp
  · exact (List.sublist_append_right _ _).trans tells.inOrder
  · intro a operation
    refine (change_step x a).buffers ((change_step x a).ne_written ?_)
    simp only [List.mem_cons, List.not_mem_nil, or_false] at operation
    rcases operation with rfl | rfl | rfl | rfl | rfl <;> simp [Act.receives]
  · intro content waits a receives
    obtain ⟨data, rfl⟩ := tells.hasData_of_some waits
    refine (change_step x a).outcome_of_data ?_ data
    simp only [List.mem_cons, List.not_mem_nil, or_false] at receives
    rcases receives with rfl | rfl | rfl <;> rfl
  · intro nothing
    have empty := tells.hasData_of_none nothing
    rw [tells.flushDue]
    refine ⟨by simp [step, Mailbox.poll_of_empty empty], ?_⟩
    cases due : x.mailbox.flushed with
    | true =>
      constructor
      · simp [step, Mailbox.wait?_of_pending (.inr due), Mailbox.receive_of_flush empty due,
          Outcome.ofReceipt]
      · simp [step, Mailbox.receive_of_flush empty due, Outcome.ofReceipt]
    | false =>
      constructor
      · simp [step, Mailbox.wait?_of_calm empty due]
      · simp [step, Mailbox.receive_of_calm empty due, Outcome.ofReceipt]

/-- Two values and a flush in between are sent. The second value is received and the flush is still
noticed, by a wait that follows a poll. -/
theorem latest_value_exchanged_before_flush :
    let acts : List (Act Nat) := [.write 7, .send, .flush, .write 8, .send]
    let x := ((new (ι := Nat) ⟨0, 1⟩ ⟨1, 2⟩ ⟨2, 3⟩).run acts).2
    let y := ((new (ι := Nat) ⟨0, 1⟩ ⟨1, 2⟩ ⟨2, 3⟩).run (acts ++ [.wait, .poll])).2
    undelivered ((new (ι := Nat) ⟨0, 1⟩ ⟨1, 2⟩ ⟨2, 3⟩).run acts).1 = some 8 ∧
      (x.step .wait).1 = .delivered 8 ∧
      undelivered ((new (ι := Nat) ⟨0, 1⟩ ⟨1, 2⟩ ⟨2, 3⟩).run (acts ++ [.wait, .poll])).1 = none ∧
      y.mailbox.sent = 2 ∧ y.buffers.map Buffer.label = [0, 2, 1] ∧
      (y.step .poll).1 = .empty ∧ (y.step .wait).1 = .flushed := by
  intro acts x y
  obtain ⟨-, -, -, -, -, delivers, -⟩ := latest_value_exchanged ⟨0, 1⟩ ⟨1, 2⟩ ⟨2, 3⟩ acts
  obtain ⟨-, sent, -, -, -, -, empty⟩ :=
    latest_value_exchanged ⟨0, 1⟩ ⟨1, 2⟩ ⟨2, 3⟩ (acts ++ [.wait, .poll])
  obtain ⟨polled, waited, -⟩ := empty rfl
  exact ⟨rfl, delivers 8 rfl .wait (by simp), rfl, sent, rfl, polled, waited⟩

end Exchange

end MotionCast
