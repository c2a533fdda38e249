import Magnetar.Library.Machine
import Magnetar.Proto.Consumer.State

/-!
Contract: the queue of connection events that nobody polls.

Owns: the cap on the events of single messages, the calls that pass it by, and that the queue is
bounded without them and keeps every lifecycle event in order until a call discards some.

Does not own: when an event is raised, and what a lifecycle event says.

The answers to acknowledgements and the sends that time out are pushed like lifecycle events, so
they are not bounded.  A reset clears the queue, and a call that supersedes an open takes the
events of that open out.
-/

namespace Magnetar.Proto.Connection

open Library.Machine Pb Consumer

def eventQueueObservationalCap : Nat := 4096

inductive ConnectionEvent (Lifecycle : Type) where
  | message (handle : Nat) (message : IncomingMessage)
  | messageReceivedFromShadow (handle : Nat) (sourceTopic : String)
      (sourceMessageId shadowMessageId : MessageId) (message : IncomingMessage)
  | sendReceipt (handle sequenceId : Nat) (messageId : MessageId)
  | sendError (handle sequenceId : Nat) (code : Int) (message : String)
  | ackResponse (requestId : Option Nat) (result : Except String Unit)
  | lifecycle (event : Lifecycle)

variable {Lifecycle : Type}

namespace ConnectionEvent

def lifecycle? : ConnectionEvent Lifecycle → Option Lifecycle
  | .lifecycle event => some event
  | _ => none

def isPerMessage (event : ConnectionEvent Lifecycle) : Bool :=
  event.lifecycle?.isNone

end ConnectionEvent

structure EventQueue (Lifecycle : Type) where
  events : List (ConnectionEvent Lifecycle) := []
  droppedObservationalEvents : Nat := 0

/-- The calls that touch the queue, each with the event it raises. -/
inductive EventOp (Lifecycle : Type) where
  | message (handle : Nat) (message : IncomingMessage) (shadow : Option (String × MessageId))
  | sendReceipt (handle sequenceId : Nat) (messageId : MessageId)
  | sendError (handle sequenceId : Nat) (code : Int) (message : String)
  | resolveSendError (handle sequenceId : Nat) (code : Int) (message : String)
  | ackResponse (requestId : Option Nat) (message : Option String)
  | ackTimeout (requestId : Nat)
  | ackOrphaned (requestId : Nat)
  | lifecycle (event : Lifecycle)
  | supersede (stale : Lifecycle → Bool)
  | pollDriverRetry (paired : Lifecycle → Bool)
  | reset

namespace EventQueue

variable (queue : EventQueue Lifecycle)

def pushBack (event : ConnectionEvent Lifecycle) : EventQueue Lifecycle :=
  { queue with events := queue.events ++ [event] }

/-- The whole queue is measured against the cap. -/
def pushObservationalEvent (event : ConnectionEvent Lifecycle) : EventQueue Lifecycle :=
  if eventQueueObservationalCap ≤ queue.events.length then
    { queue with
      droppedObservationalEvents := min (queue.droppedObservationalEvents + 1) (2 ^ 64 - 1) }
  else queue.pushBack event

def step : EventOp Lifecycle → EventQueue Lifecycle
  | .message handle message none => queue.pushObservationalEvent (.message handle message)
  | .message handle message (some (topic, source)) => queue.pushObservationalEvent
      (.messageReceivedFromShadow handle topic source message.messageId message)
  | .sendReceipt handle sequenceId messageId =>
    queue.pushObservationalEvent (.sendReceipt handle sequenceId messageId)
  | .sendError handle sequenceId code message =>
    queue.pushObservationalEvent (.sendError handle sequenceId code message)
  | .resolveSendError handle sequenceId code message =>
    queue.pushBack (.sendError handle sequenceId code message)
  | .ackResponse requestId message =>
    queue.pushBack (.ackResponse requestId (message.elim (.ok ()) .error))
  | .ackTimeout requestId =>
    queue.pushBack (.ackResponse (some requestId) (.error "ack timeout"))
  | .ackOrphaned requestId => queue.pushBack
      (.ackResponse (some requestId) (.error "ack orphaned by broker consumer close"))
  | .lifecycle event => queue.pushBack (.lifecycle event)
  | .supersede stale =>
    { queue with events := queue.events.filter fun event => !event.lifecycle?.any stale }
  | .pollDriverRetry paired =>
    { queue with events := queue.events.eraseP fun event => event.lifecycle?.any paired }
  | .reset => { queue with events := [] }

end EventQueue

namespace EventOp

/-- The event of a single message that is pushed without a look at the cap. -/
def bypassesCap : EventOp Lifecycle → Bool
  | .resolveSendError .. | .ackResponse .. | .ackTimeout _ | .ackOrphaned _ => true
  | _ => false

def discards : EventOp Lifecycle → Bool
  | .supersede _ | .pollDriverRetry _ | .reset => true
  | _ => false

def lifecycle? : EventOp Lifecycle → Option Lifecycle
  | .lifecycle event => some event
  | _ => none

end EventOp

open EventQueue ConnectionEvent

variable {queue : EventQueue Lifecycle}

theorem pushObservationalEvent_bounded (event : ConnectionEvent Lifecycle)
    (bounded : queue.events.countP isPerMessage ≤ eventQueueObservationalCap) :
    (queue.pushObservationalEvent event).events.countP isPerMessage ≤
      eventQueueObservationalCap := by
  unfold pushObservationalEvent
  split
  · exact bounded
  · have most : queue.events.countP isPerMessage ≤ queue.events.length := List.countP_le_length
    have last : [event].countP isPerMessage ≤ 1 := List.countP_le_length
    rw [pushBack, List.countP_append]
    omega

theorem step_bounded {op : EventOp Lifecycle} (capped : op.bypassesCap = false)
    (bounded : queue.events.countP isPerMessage ≤ eventQueueObservationalCap) :
    (queue.step op).events.countP isPerMessage ≤ eventQueueObservationalCap := by
  cases op with
  | message _ _ shadow => cases shadow <;> exact pushObservationalEvent_bounded _ bounded
  | sendReceipt | sendError => exact pushObservationalEvent_bounded _ bounded
  | resolveSendError | ackResponse | ackTimeout | ackOrphaned => cases capped
  | lifecycle event =>
    rw [EventQueue.step, pushBack, List.countP_append]
    exact bounded
  | supersede => exact List.filter_sublist.countP_le.trans bounded
  | pollDriverRetry => exact List.eraseP_sublist.countP_le.trans bounded
  | reset => exact Nat.zero_le _

theorem lifecycle_pushObservationalEvent {event : ConnectionEvent Lifecycle}
    (single : event.lifecycle? = none) :
    (queue.pushObservationalEvent event).events.filterMap lifecycle? =
      queue.events.filterMap lifecycle? := by
  unfold pushObservationalEvent
  split
  · rfl
  · simp [pushBack, single]

theorem lifecycle_step {op : EventOp Lifecycle} (keeps : op.discards = false) :
    (queue.step op).events.filterMap lifecycle? =
      queue.events.filterMap lifecycle? ++ op.lifecycle?.toList := by
  cases op with
  | message _ _ shadow =>
    cases shadow <;> exact (lifecycle_pushObservationalEvent rfl).trans (List.append_nil _).symm
  | sendReceipt | sendError =>
    exact (lifecycle_pushObservationalEvent rfl).trans (List.append_nil _).symm
  | resolveSendError | ackResponse | ackTimeout | ackOrphaned | lifecycle =>
    simp [EventQueue.step, pushBack, ConnectionEvent.lifecycle?, EventOp.lifecycle?]
  | supersede | pollDriverRetry | reset => cases keeps

/-- Without the calls that pass the cap by, the events of single messages stay within it, and
without the calls that discard events, the queue has every lifecycle event in its order. -/
theorem events_bounded_and_ordered (ops : List (EventOp Lifecycle)) :
    ((∀ op ∈ ops, op.bypassesCap = false) →
      (run EventQueue.step {} ops).events.countP isPerMessage ≤ eventQueueObservationalCap) ∧
    ((∀ op ∈ ops, op.discards = false) →
      (run EventQueue.step {} ops).events.filterMap lifecycle? =
        ops.filterMap EventOp.lifecycle?) := by
  induction ops using List.reverseRecOn with
  | nil => exact ⟨fun _ => Nat.zero_le _, fun _ => rfl⟩
  | append_singleton earlier op ih =>
    simp only [run_append, run_cons, run_nil, List.forall_mem_append, List.forall_mem_singleton]
    refine ⟨?_, ?_⟩
    · rintro ⟨before, capped⟩
      exact step_bounded capped (ih.1 before)
    · rintro ⟨before, keeps⟩
      rw [lifecycle_step keeps, ih.2 before, List.filterMap_append]
      cases op <;> rfl

theorem events_bounded_and_ordered_opened :
    let ops : List (EventOp String) :=
      [.lifecycle "connected", .sendReceipt 1 0 default, .lifecycle "producer ready"]
    (run EventQueue.step {} ops).events.countP isPerMessage ≤ eventQueueObservationalCap ∧
      (run EventQueue.step {} ops).events.filterMap lifecycle? = ["connected", "producer ready"] := by
  intro ops
  obtain ⟨bounded, ordered⟩ := events_bounded_and_ordered ops
  exact ⟨bounded (by simp [ops, EventOp.bypassesCap]), ordered (by simp [ops, EventOp.discards])⟩

theorem run_ackResponse (queue : EventQueue String) (count : Nat) :
    (run EventQueue.step queue (List.replicate count (.ackResponse none none))).events =
      queue.events ++ List.replicate count (.ackResponse none (.ok ())) := by
  induction count generalizing queue with
  | zero => simp
  | succ count ih =>
    rw [List.replicate_succ, run_cons, ih, List.replicate_succ]
    simp [EventQueue.step, pushBack]

/-- One answer to an acknowledgement more than the cap, and a lifecycle event that a reset drops. -/
theorem events_unbounded_and_dropped :
    let answers : List (EventOp String) :=
      List.replicate (eventQueueObservationalCap + 1) (.ackResponse none none)
    eventQueueObservationalCap <
        (run EventQueue.step {} answers).events.countP isPerMessage ∧
      (run EventQueue.step {} [EventOp.lifecycle "connected", .reset]).events.filterMap lifecycle? =
        [] := by
  intro answers
  refine ⟨?_, rfl⟩
  have counted : (run EventQueue.step {} answers).events.countP isPerMessage =
      eventQueueObservationalCap + 1 := by
    rw [run_ackResponse, List.nil_append, List.countP_replicate]
    rfl
  omega

end Magnetar.Proto.Connection
