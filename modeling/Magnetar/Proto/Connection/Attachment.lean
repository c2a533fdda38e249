import Magnetar.Proto.Connection.Handles
import Magnetar.Proto.Connection.Layout
import Magnetar.Proto.Connection.Settlement

/-!
Contract: the frames of one producer on the wire, next to the broker's answers about it.

Owns: what a producer puts into the connection's two buffers and when it leaves them, the two
readings of that record (the order of the client's acts, and the order on the wire), and that a SEND
is released only while the producer's open stands confirmed.

Does not own: which of these acts a call of the connection consists of (`Connection.Readiness`).
What the entry itself keeps of released frames is not read here.
-/

namespace Magnetar.Proto.Connection

open Library.Machine Pb External Producer ProducerEntry

variable {single : Prost SingleMessageMetadata} {codecs : Codecs}

/-! ### Operations that leave the open alone -/

/-- The producer is the one there was, under the same open, and its gate was not opened. -/
def ProducerEntry.Continues (before after : ProducerEntry) : Prop :=
  ∀ record', after.slot = some record' → ∃ record, before.slot = some record ∧
    record'.openRequestId = record.openRequestId ∧
    (record'.state.brokerReady = true → record.state.brokerReady = true)

/-- An operation that neither opens a producer nor attaches one. -/
def EntryOp.continues : EntryOp → Bool
  | .create _ _ _ => false
  | .openEmitted _ => false
  | .attach _ _ => false
  | _ => true

namespace ProducerEntry.Continues

variable {before middle after : ProducerEntry} {record : ProducerRecord}

theorem of_slot (same : after.slot = before.slot) : before.Continues after := by
  intro record' found
  exact ⟨record', same ▸ found, rfl, id⟩

theorem of_empty (empty : after.slot = none) : before.Continues after := by
  intro record' found
  rw [empty] at found
  cases found

theorem trans (first : before.Continues middle) (second : middle.Continues after) :
    before.Continues after := by
  intro record'' found
  obtain ⟨record', there, same', gate'⟩ := second record'' found
  obtain ⟨record, here, same, gate⟩ := first record' there
  exact ⟨record, here, same'.trans same, fun ready => gate (gate' ready)⟩

theorem of_state (found : before.slot = some record) {state : ProducerState}
    (slot' : after.slot = some { record with state })
    (gate : state.brokerReady = true → record.state.brokerReady = true) :
    before.Continues after := by
  intro record' there
  cases slot'.symm.trans there
  exact ⟨record, found, rfl, gate⟩

theorem modifyRecord (entry : ProducerEntry) (update : ProducerRecord → ProducerRecord)
    (same : ∀ record, (update record).openRequestId = record.openRequestId)
    (gate : ∀ record, (update record).state.brokerReady = true → record.state.brokerReady = true) :
    entry.Continues (entry.modifyRecord update) := by
  intro record' there
  obtain ⟨record, found, rfl⟩ := Option.map_eq_some_iff.mp there
  exact ⟨record, found, same record, gate record⟩

end ProducerEntry.Continues

theorem flushed_brokerReady {before after : ProducerState}
    (flushed : before.MaybeFlushed single codecs after) : after.brokerReady = before.brokerReady := by
  rcases flushed with rfl | ⟨publishTimeMs, rfl⟩
  · rfl
  · exact flushBatch_brokerReady before publishTimeMs

theorem queueSend_continues (entry : ProducerEntry) (msg : OutgoingMessage) (uuid : String)
    (reservation publishTimeMs now : Nat) :
    entry.Continues (entry.queueSend single codecs msg uuid reservation publishTimeMs now) := by
  cases found : entry.slot with
  | none =>
    apply Continues.of_empty
    simp [queueSend, found]
  | some record =>
    have queued : Queued single codecs entry record msg
        (entry.queueSend single codecs msg uuid reservation publishTimeMs now) :=
      queueSend_queued found msg uuid reservation publishTimeMs now
    generalize entry.queueSend single codecs msg uuid reservation publishTimeMs now = sent
      at queued
    cases queued with
    | rejected flushed =>
      apply Continues.of_state found rfl
      rw [flushed_brokerReady flushed]
      exact id
    | accepted flushed _ _ accepts filled =>
      apply Continues.of_state found rfl
      rw [flushed_brokerReady filled, accepts.brokerReady_eq, flushed_brokerReady flushed]
      exact id

theorem terminalize_continues (entry : ProducerEntry) (update : ProducerState → ProducerState)
    (gate : ∀ state, (update state).brokerReady = true → state.brokerReady = true)
    (reason : String) : entry.Continues (entry.terminalize update reason) := by
  intro record' there
  rw [terminalize_slot] at there
  obtain ⟨record, found, rfl⟩ := Option.map_eq_some_iff.mp there
  exact ⟨record, found, rfl, gate record.state⟩

theorem shutGate_continues (entry : ProducerEntry) : entry.Continues entry.shutGate :=
  .modifyRecord entry _ (fun _ => rfl) fun record => record.state.shut_reduces.gate

/-- A lost session shuts the gate of the producer there was. -/
theorem reset_shut {entry : ProducerEntry} {record' : ProducerRecord}
    (there : entry.reset.slot = some record') :
    ∃ record, entry.slot = some record ∧ record'.openRequestId = record.openRequestId ∧
      record'.state.brokerReady = false := by
  cases found : entry.slot with
  | none =>
    have same : entry.setAside = entry := by simp [setAside, found]
    rw [reset, same] at there
    rw [sweepSlab, observe] at there
    rw [found] at there
    cases there
  | some record =>
    cases (reset_settles found).slot.symm.trans there
    exact ⟨record, rfl, rfl, rfl⟩

theorem reset_continues (entry : ProducerEntry) : entry.Continues entry.reset := by
  intro record' there
  obtain ⟨record, found, same, shut⟩ := reset_shut there
  refine ⟨record, found, same, ?_⟩
  intro ready
  rw [shut] at ready
  cases ready

theorem drainOutbound_continues (entry : ProducerEntry) : entry.Continues entry.drainOutbound := by
  rcases entry.drainOutbound_cases with same | ⟨record, found, ready⟩
  · exact .of_slot (congrArg ProducerEntry.slot same)
  · rw [drainOutbound_eq found ready]
    exact .of_state found rfl id

theorem attach_openRequestId {entry : ProducerEntry} {producerName : String}
    {lastSequenceId : Option Int} {record' : ProducerRecord}
    (there : (entry.attach producerName lastSequenceId).slot = some record') :
    record'.openRequestId = none := by
  unfold ProducerEntry.attach at there
  split at there
  case h_1 empty =>
    rw [empty] at there
    cases there
  case h_2 record found =>
    cases there
    rfl

theorem registerWaker_continues (entry : ProducerEntry) (seq waker : Nat) :
    entry.Continues (entry.registerWaker seq waker) := by
  unfold registerWaker
  split
  · exact .of_slot (entry.wake_settles (some waker)).slot
  · split
    case h_1 empty => exact .of_empty empty
    case h_2 record found =>
      dsimp only
      split
      · exact .of_state found rfl (record.state.setWaker_reduces seq (some waker)).gate
      · exact .of_slot rfl

theorem entryStep_continues (entry : ProducerEntry) {op : EntryOp} (continues : op.continues = true) :
    entry.Continues (entryStep single codecs entry op) := by
  cases op with
  | create | openEmitted | attach => cases continues
  | queueSend => exact queueSend_continues entry _ _ _ _ _
  | flushBatch =>
    refine .modifyRecord entry _ (fun _ => rfl) fun record => ?_
    rw [flushBatch_brokerReady]
    exact id
  | flushDueBatch =>
    refine .modifyRecord entry _ (fun _ => rfl) fun record => ?_
    dsimp only
    split
    · rw [flushBatch_brokerReady]
      exact id
    · exact id
  | drainOutbound => exact drainOutbound_continues entry
  | sendReceipt receipt =>
    cases found : entry.slot with
    | none => exact .of_empty (by simp [entryStep, ProducerEntry.sendReceipt, found])
    | some record =>
      have gate := (record.state.handleSendReceipt_reduces receipt).gate
      exact .of_state found (sendReceipt_settles found receipt).slot gate
  | sendError err =>
    cases found : entry.slot with
    | none => exact .of_empty (by simp [entryStep, ProducerEntry.sendError, found])
    | some record =>
      have gate := (record.state.applySendError_reduces err).gate
      exact .of_state found (sendError_settles found err).slot gate
  | shutGate => exact shutGate_continues entry
  | openFailedTransiently =>
    have counted : entry.Continues (entry.shutGate.modifyRecord fun record =>
        { record with
          transientOpenAttempts := min (record.transientOpenAttempts + 1) (2 ^ 32 - 1) }) :=
      (shutGate_continues entry).trans (.modifyRecord _ _ (fun _ => rfl) fun _ => id)
    simp only [entryStep, openFailedTransiently]
    split
    · exact counted
    · exact .of_empty rfl
  | failOpen | dropSlot | cancelOpen => exact .of_empty rfl
  | closeRequested =>
    exact .modifyRecord entry _ (fun _ => rfl) fun record => record.state.close_reduces.gate
  | closeAcked =>
    simp only [entryStep, closeAcked]
    split
    · exact terminalize_continues entry id (fun _ => id) producerClosedReason
    · exact .of_slot rfl
  | reset => exact reset_continues entry
  | timeoutPending now =>
    cases found : entry.slot with
    | none => exact .of_empty (by simp [entryStep, ProducerEntry.timeoutPending, found])
    | some record =>
      have gate := (record.state.drainTimedOutSends_reduces now).gate
      exact .of_state found (timeoutPending_settles found now).slot gate
  | timeoutSnapshots now =>
    exact .of_slot (entry.timeoutSnapshots_settles now).slot
  | failAll =>
    intro record' there
    simp only [entryStep] at there
    rw [failAll_slot] at there
    obtain ⟨record, found, rfl⟩ := Option.map_eq_some_iff.mp there
    exact ⟨record, found, rfl, id⟩
  | registerWaker seq waker => exact registerWaker_continues entry seq waker
  | unregisterWaker seq =>
    have dropped : entry.Continues { entry with slab := entry.slab.erase seq } := .of_slot rfl
    exact dropped.trans (.modifyRecord _ _ (fun _ => rfl) fun record =>
      (record.state.setWaker_reduces seq none).gate)
  | _ => exact .of_slot rfl

/-! ### What passes between the client and the broker -/

/-- The commands of one producer, the broker's answers about it, the state of the handshake, and the
end of a session. -/
inductive WireEvent where
  | producer (requestId : Nat)
  | send (frame : OutboundFrame)
  | producerSuccess (requestId : Nat)
  | closeProducer
  | handshake (connected : Bool)
  | reset

def WireEvent.isSend : WireEvent → Bool
  | .send _ => true
  | _ => false

def WireEvent.isCommand : WireEvent → Bool
  | .producer _ => true
  | .send _ => true
  | _ => false

/-- Where the client stands with the broker: whether the handshake is done, the latest open of this
session, and whether it is confirmed and was not revoked since. -/
structure Standing where
  connected : Bool := false
  latest : Option Nat := none
  confirmed : Bool := false
  deriving DecidableEq

namespace Standing

def advance (standing : Standing) : WireEvent → Standing
  | .producer requestId => { standing with latest := some requestId, confirmed := false }
  | .producerSuccess requestId =>
    if standing.latest = some requestId then { standing with confirmed := true } else standing
  | .closeProducer => { standing with confirmed := false }
  | .handshake connected => { standing with connected }
  | .reset => {}
  | .send _ => standing

def isReady (standing : Standing) : Bool :=
  standing.connected && standing.latest.isSome && standing.confirmed

/-- A SEND asks for a confirmed open on a connection that is up. -/
def permits (standing : Standing) (event : WireEvent) : Bool :=
  !event.isSend || standing.isReady

end Standing

/-- Where the client stands after its own acts and the answers it has handled. -/
def standing (history : List WireEvent) : Standing :=
  run Standing.advance {} history

/-- A session as it reads on the wire: its latest open, and the opens that were answered. -/
structure Session where
  latest : Option Nat := none
  successes : List Nat := []

namespace Session

def advance (session : Session) : WireEvent → Session
  | .producer requestId => { session with latest := some requestId }
  | .producerSuccess requestId => { session with successes := requestId :: session.successes }
  | .reset => {}
  | _ => session

/-- A SEND comes after the success of the latest open. -/
def permits (session : Session) (event : WireEvent) : Bool :=
  !event.isSend || session.latest.any session.successes.contains

end Session

def session (stream : List WireEvent) : Session :=
  run Session.advance {} stream

section Readings

variable {start start' : Session} {events : List WireEvent}

/-- Commands answer nothing. -/
theorem Session.successes_run (commands : ∀ event ∈ events, event.isCommand = true) :
    (run Session.advance start events).successes = start.successes := by
  induction events generalizing start with
  | nil => rfl
  | cons event _ ih =>
    have first := commands event List.mem_cons_self
    rw [run_cons, ih fun later member =>
      commands later (List.mem_cons_of_mem _ member)]
    cases event with
    | producer | send => rfl
    | _ => cases first

/-- A success that comes earlier changes no open. -/
theorem Session.latest_run (same : start'.latest = start.latest)
    (commands : ∀ event ∈ events, event.isCommand = true) :
    (run Session.advance start' events).latest = (run Session.advance start events).latest := by
  induction events generalizing start start' with
  | nil => exact same
  | cons event _ ih =>
    have first := commands event List.mem_cons_self
    have others := fun later member => commands later (List.mem_cons_of_mem event member)
    cases event with
    | producer => exact ih rfl others
    | send => exact ih same others
    | _ => cases first

/-- Commands that were in order stay so when another open is answered before them. -/
theorem Session.guarded_of_more (same : start'.latest = start.latest)
    (more : start.successes ⊆ start'.successes)
    (commands : ∀ event ∈ events, event.isCommand = true)
    (guarded : Guarded Session.advance (fun session event => session.permits event = true) start
      events) :
    Guarded Session.advance (fun session event => session.permits event = true) start' events := by
  induction events generalizing start start' with
  | nil => exact trivial
  | cons event _ ih =>
    have first := commands event List.mem_cons_self
    have others := fun later member => commands later (List.mem_cons_of_mem event member)
    obtain ⟨meets, remaining⟩ := guarded
    cases event with
    | producer =>
      refine ⟨rfl, ih ?_ ?_ others remaining⟩
      · rfl
      · exact more
    | send =>
      refine ⟨?_, ih same more others remaining⟩
      simp only [Session.permits, WireEvent.isSend, Bool.not_true, Bool.false_or] at meets ⊢
      rw [same]
      cases latest : start.latest with
      | none => simp [latest] at meets
      | some =>
        simp only [latest, Option.any_some, List.contains_iff_mem] at meets ⊢
        exact more meets
    | _ => cases first

/-- SENDs in a row move neither reading, so where the first is in order all are. -/
theorem guarded_sends {σ : Type} (advance : σ → WireEvent → σ) (permits : σ → WireEvent → Bool)
    (state : σ) (still : ∀ frame, advance state (.send frame) = state)
    (meets : ∀ frame, permits state (.send frame) = true) {sends : List WireEvent}
    (only : ∀ event ∈ sends, event.isSend = true) :
    Guarded advance (fun state event => permits state event = true) state sends ∧
      run advance state sends = state := by
  induction sends with
  | nil => exact ⟨trivial, rfl⟩
  | cons event _ ih =>
    have first := only event List.mem_cons_self
    obtain ⟨guarded, same⟩ := ih fun later member =>
      only later (List.mem_cons_of_mem _ member)
    cases event with
    | send frame =>
      rw [Guarded, run_cons, still frame]
      exact ⟨⟨meets frame, guarded⟩, same⟩
    | _ => cases first

end Readings

/-! ### One producer on the wire -/

def ProducerEntry.released (entry : ProducerEntry) : List WireEvent :=
  match entry.slot with
  | none => []
  | some record => if record.state.brokerReady then record.state.outbound.map .send else []

theorem ProducerEntry.released_cases (entry : ProducerEntry) :
    entry.released = [] ∨
      (∀ event ∈ entry.released, event.isSend = true) ∧
        ∃ record, entry.slot = some record ∧ record.state.brokerReady = true := by
  unfold released
  cases found : entry.slot with
  | none => exact .inl rfl
  | some record =>
    dsimp only
    split
    case isFalse => exact .inl rfl
    case isTrue ready =>
      refine .inr ⟨?_, record, rfl, ready⟩
      intro event member
      obtain ⟨frame, -, rfl⟩ := List.mem_map.mp member
      rfl

def ProducerEntry.shows (entry : ProducerEntry) : EntryOp → List WireEvent
  | .openEmitted requestId => [.producer requestId]
  | .drainOutbound => entry.released
  | .attach _ _ => (entry.slot.bind (·.openRequestId)).toList.map .producerSuccess
  | .shutGate => [.closeProducer]
  | .reset => [.reset]
  | _ => []

/-- A producer with its commands in the connection's contiguous buffer (`outbound`) and in the list
of segments.  `stream` is what was handed to the transport, in its order, with the answers handled
in between; `history` has each command at the moment it entered a buffer. -/
structure ProducerWire where
  entry : ProducerEntry := {}
  outbound : List WireEvent := []
  segments : List WireEvent := []
  stream : List WireEvent := []
  history : List WireEvent := []

/-- An act of the connection on one producer.  `pollOwned` is `poll_transmit_owned` and
`poll_transmit_vectored`: whether the handshake is done, and whether the contiguous buffer is empty
but for this producer's commands. -/
inductive WireOp where
  | entry (op : EntryOp)
  | handshake (connected : Bool)
  | drainVectored
  | pollOwned (connected othersEmpty : Bool)

namespace ProducerWire

section Acts

variable (single : Prost SingleMessageMetadata) (codecs : Codecs)

/-- A lost session drops the contiguous buffer and not the segments. -/
def act (wire : ProducerWire) (op : EntryOp) : ProducerWire :=
  let shown := wire.entry.shows op
  let next :=
    { wire with
      entry := entryStep single codecs wire.entry op
      history := wire.history ++ shown }
  match op with
  | .openEmitted _ => { next with outbound := wire.outbound ++ shown }
  | .drainOutbound => { next with outbound := wire.outbound ++ shown }
  | .attach _ _ => { next with stream := wire.stream ++ shown }
  | .shutGate => { next with stream := wire.stream ++ shown }
  | .pollTransmit => { next with outbound := [], stream := wire.stream ++ wire.outbound }
  | .reset => { next with outbound := [], stream := wire.stream ++ shown }
  | _ => next

/-- `drain_producer_outbound_vectored` at one producer. -/
def drainVectored (wire : ProducerWire) : ProducerWire :=
  { wire with
    entry := wire.entry.drainOutbound
    segments := wire.segments ++ wire.entry.released
    history := wire.history ++ wire.entry.released }

/-- Segments leave only when the contiguous buffer is empty. -/
def pollOwned (wire : ProducerWire) (connected othersEmpty : Bool) : ProducerWire :=
  if othersEmpty && wire.outbound.isEmpty then
    let drained := if connected then wire.drainVectored else wire
    { drained with
      entry := drained.entry.pollTransmit
      segments := []
      stream := drained.stream ++ drained.segments }
  else
    let drained := if connected then wire.act single codecs .drainOutbound else wire
    drained.act single codecs .pollTransmit

def step (wire : ProducerWire) : WireOp → ProducerWire
  | .entry op => wire.act single codecs op
  | .handshake connected => { wire with history := wire.history ++ [.handshake connected] }
  | .drainVectored => wire.drainVectored
  | .pollOwned connected othersEmpty => wire.pollOwned single codecs connected othersEmpty

end Acts

/-- No SEND was out of order, in either reading; the producer's open is the latest of the session,
and its gate is open only while that open stands confirmed. -/
structure Orderly (wire : ProducerWire) : Prop where
  segments : wire.segments = []
  commands : ∀ event ∈ wire.outbound, event.isCommand = true
  history : Guarded Standing.advance (fun standing event => standing.permits event = true) {}
    wire.history
  stream : Guarded Session.advance (fun session event => session.permits event = true) {}
    (wire.stream ++ wire.outbound)
  latest : (session (wire.stream ++ wire.outbound)).latest = (standing wire.history).latest
  current : ∀ record opened requestId, wire.entry.slot = some record →
    (standing wire.history).latest = some opened → record.openRequestId = some requestId →
      requestId = opened
  gate : ∀ record, wire.entry.slot = some record → record.state.brokerReady = true →
    record.openRequestId = none ∧ (standing wire.history).confirmed = true ∧
      ∃ opened, (standing wire.history).latest = some opened ∧
        opened ∈ (session (wire.stream ++ wire.outbound)).successes

/-- The acts that keep the order: frames are released on a connection that is up, a new open comes
only while the gate is shut, and a success answers the latest open. -/
def Admits (wire : ProducerWire) : EntryOp → Prop
  | .drainOutbound => (standing wire.history).connected = true
  | .openEmitted _ => ∀ record, wire.entry.slot = some record → record.state.brokerReady = false
  | .attach _ _ => ∃ opened, (standing wire.history).latest = some opened ∧
      ∀ record, wire.entry.slot = some record → record.openRequestId = some opened
  | _ => True

theorem standing_append (history events : List WireEvent) :
    standing (history ++ events) = run Standing.advance (standing history) events :=
  run_append _ _ _ _

theorem session_append (stream events : List WireEvent) :
    session (stream ++ events) = run Session.advance (session stream) events :=
  run_append _ _ _ _

-- Their equations are generated here, once for the lemmas below.
attribute [local simp] act shows

namespace Orderly

variable {wire wire' : ProducerWire}

theorem start : Orderly {} where
  segments := rfl
  commands := by simp
  history := trivial
  stream := trivial
  latest := rfl
  current := by
    intro record opened requestId found
    cases found
  gate := by
    intro record found
    cases found

section

variable (orderly : Orderly wire)

include orderly

section

variable (continues : wire.entry.Continues wire'.entry) (segments : wire'.segments = [])
  (commands : ∀ event ∈ wire'.outbound, event.isCommand = true)

include continues segments commands

/-- The open is the one there was, and so is what both readings say of it. -/
theorem of_kept
    (history : Guarded Standing.advance (fun standing event => standing.permits event = true) {}
      wire'.history)
    (stream : Guarded Session.advance (fun session event => session.permits event = true) {}
      (wire'.stream ++ wire'.outbound))
    (latest : (standing wire'.history).latest = (standing wire.history).latest)
    (confirmed : (standing wire'.history).confirmed = (standing wire.history).confirmed)
    (same : session (wire'.stream ++ wire'.outbound) = session (wire.stream ++ wire.outbound)) :
    Orderly wire' where
  segments := segments
  commands := commands
  history := history
  stream := stream
  latest := by
    rw [latest, same]
    exact orderly.latest
  current := by
    intro record' opened requestId there
    obtain ⟨record, found, request, -⟩ := continues record' there
    rw [latest, request]
    exact orderly.current record opened requestId found
  gate := by
    intro record' there ready
    obtain ⟨record, found, request, gate⟩ := continues record' there
    rw [latest, confirmed, same, request]
    exact orderly.gate record found (gate ready)

theorem of_continues (history : wire'.history = wire.history)
    (stream : wire'.stream ++ wire'.outbound = wire.stream ++ wire.outbound) : Orderly wire' := by
  apply orderly.of_kept continues segments commands
  · rw [history]
    exact orderly.history
  · rw [stream]
    exact orderly.stream
  · rw [history]
  · rw [history]
  · rw [stream]

end

/-- Frames are released through an open gate, on a connection that is up. -/
theorem drain (connected : (standing wire.history).connected = true) :
    Orderly (wire.act single codecs .drainOutbound) := by
  have continues : wire.entry.Continues (wire.act single codecs .drainOutbound).entry :=
    drainOutbound_continues wire.entry
  rcases wire.entry.released_cases with none | ⟨only, record, found, ready⟩
  · apply orderly.of_continues continues orderly.segments
    · simpa [act, shows, none] using orderly.commands
    · simp [act, shows, none]
    · simp [act, shows, none]
  · obtain ⟨-, confirmed, opened, latest, answered⟩ := orderly.gate record found ready
    obtain ⟨acted, standingSame⟩ := guarded_sends Standing.advance Standing.permits
      (standing wire.history) (fun _ => rfl)
      (by simp [Standing.permits, Standing.isReady, connected, latest, confirmed]) only
    obtain ⟨sent, sessionSame⟩ := guarded_sends Session.advance Session.permits
      (session (wire.stream ++ wire.outbound)) (fun _ => rfl)
      (by simp [Session.permits, orderly.latest.trans latest, answered]) only
    rw [← standing_append] at standingSame
    rw [← session_append, List.append_assoc] at sessionSame
    apply orderly.of_kept continues orderly.segments
    · intro event member
      rcases List.mem_append.mp member with before | now
      · exact orderly.commands event before
      · have isSend := only event now
        cases event <;> first | rfl | cases isSend
    · exact Guarded.append.mpr ⟨orderly.history, acted⟩
    · have both := Guarded.append.mpr ⟨orderly.stream, sent⟩
      rwa [List.append_assoc] at both
    · exact congrArg Standing.latest standingSame
    · exact congrArg Standing.confirmed standingSame
    · exact sessionSame

/-- A new open is shown while the gate is shut. -/
theorem openEmitted (requestId : Nat)
    (shut : ∀ record, wire.entry.slot = some record → record.state.brokerReady = false) :
    Orderly (wire.act single codecs (.openEmitted requestId)) where
  segments := orderly.segments
  commands := by
    intro event member
    rcases List.mem_append.mp member with before | now
    · exact orderly.commands event before
    · cases List.mem_singleton.mp now
      rfl
  history := Guarded.append.mpr ⟨orderly.history, rfl, trivial⟩
  stream := by
    have both := Guarded.append.mpr ⟨orderly.stream, show Guarded Session.advance
      (fun session event => session.permits event = true) _ [.producer requestId] from
        ⟨rfl, trivial⟩⟩
    rwa [List.append_assoc] at both
  latest := by
    simp only [act, shows]
    rw [← List.append_assoc, session_append, standing_append]
    rfl
  current := by
    intro record' opened named there latest request
    simp only [act, shows] at latest
    rw [standing_append] at latest
    obtain ⟨record, -, rfl⟩ := Option.map_eq_some_iff.mp there
    exact Option.some.inj (request.symm.trans latest)
  gate := by
    intro record' there ready
    obtain ⟨record, found, rfl⟩ := Option.map_eq_some_iff.mp there
    rw [shut record found] at ready
    cases ready

/-- The success of the latest open confirms it. -/
theorem attach (producerName : String) (lastSequenceId : Option Int)
    {opened : Nat} (latest : (standing wire.history).latest = some opened)
    (current : ∀ record, wire.entry.slot = some record → record.openRequestId = some opened) :
    Orderly (wire.act single codecs (.attach producerName lastSequenceId)) := by
  cases found : wire.entry.slot with
  | none =>
    have continues : wire.entry.Continues
        (wire.act single codecs (.attach producerName lastSequenceId)).entry := by
      apply Continues.of_slot
      simp [act, entryStep, ProducerEntry.attach, found]
    apply orderly.of_continues continues orderly.segments orderly.commands
    · simp [act, shows, found]
    · simp [act, shows, found]
  | some record =>
    have shown : wire.entry.shows (.attach producerName lastSequenceId) =
        [.producerSuccess opened] := by
      simp [shows, found, current record found]
    have confirms : standing (wire.history ++ [.producerSuccess opened]) =
        { standing wire.history with confirmed := true } := by
      rw [standing_append]
      exact if_pos latest
    have same : (session (wire.stream ++ [.producerSuccess opened] ++ wire.outbound)).latest =
        (session (wire.stream ++ wire.outbound)).latest := by
      rw [session_append, session_append, session_append]
      exact Session.latest_run rfl orderly.commands
    have answered :
        opened ∈ (session (wire.stream ++ [.producerSuccess opened] ++ wire.outbound)).successes := by
      rw [session_append, Session.successes_run orderly.commands, session_append]
      exact List.mem_cons_self
    obtain ⟨sent, waiting⟩ := Guarded.append.mp orderly.stream
    refine ⟨orderly.segments, orderly.commands, ?_, ?_, ?_, ?_, ?_⟩ <;>
      simp only [act, shown]
    · exact Guarded.append.mpr ⟨orderly.history, rfl, trivial⟩
    · -- The commands still in the buffer now come after one more success.
      apply Guarded.append.mpr
      refine ⟨Guarded.append.mpr ⟨sent, rfl, trivial⟩, ?_⟩
      rw [run_append]
      refine Session.guarded_of_more ?_ ?_ orderly.commands waiting
      · rfl
      · exact List.subset_cons_self _ _
    · rw [same, confirms]
      exact orderly.latest
    · intro record' opened' requestId there _ request
      rw [attach_openRequestId there] at request
      cases request
    · intro record' there _
      rw [confirms]
      exact ⟨attach_openRequestId there, rfl, opened, latest, answered⟩

/-- The broker takes the open back. -/
theorem shutGate : Orderly (wire.act single codecs .shutGate) := by
  have kept : session (wire.stream ++ [.closeProducer] ++ wire.outbound) =
      session (wire.stream ++ wire.outbound) := by
    rw [session_append, session_append, session_append]
    rfl
  have revoked : standing (wire.history ++ [.closeProducer]) =
      { standing wire.history with confirmed := false } :=
    standing_append _ _
  obtain ⟨sent, waiting⟩ := Guarded.append.mp orderly.stream
  refine ⟨orderly.segments, orderly.commands, ?_, ?_, ?_, ?_, ?_⟩ <;> simp only [act, shows]
  · exact Guarded.append.mpr ⟨orderly.history, rfl, trivial⟩
  · apply Guarded.append.mpr
    refine ⟨Guarded.append.mpr ⟨sent, rfl, trivial⟩, ?_⟩
    rw [run_append]
    exact waiting
  · rw [kept, revoked]
    exact orderly.latest
  · intro record' opened requestId there
    obtain ⟨record, found, request, -⟩ := shutGate_continues wire.entry record' there
    rw [revoked, request]
    exact orderly.current record opened requestId found
  · intro record' there ready
    obtain ⟨record, -, rfl⟩ := Option.map_eq_some_iff.mp there
    cases ready

/-- Every open ends with the session, and so does what was not handed over. -/
theorem reset : Orderly (wire.act single codecs .reset) := by
  have fresh : session (wire.stream ++ [.reset]) = {} := session_append _ _
  have ended : standing (wire.history ++ [.reset]) = {} := standing_append _ _
  obtain ⟨sent, -⟩ := Guarded.append.mp orderly.stream
  refine ⟨orderly.segments, by simp [act], ?_, ?_, ?_, ?_, ?_⟩ <;>
    simp only [act, shows, List.append_nil]
  · exact Guarded.append.mpr ⟨orderly.history, rfl, trivial⟩
  · exact Guarded.append.mpr ⟨sent, rfl, trivial⟩
  · rw [fresh, ended]
  · intro record' opened requestId there latest
    rw [ended] at latest
    cases latest
  · intro record' there ready
    obtain ⟨-, -, -, shut⟩ := reset_shut there
    rw [shut] at ready
    cases ready

/-- A new producer takes the handle, unattached. -/
theorem create (handle maxMessageSize : Nat) (req : CreateProducerRequest) :
    Orderly (wire.act single codecs (.create handle maxMessageSize req)) := by
  refine ⟨orderly.segments, orderly.commands, ?_, orderly.stream, ?_, ?_, ?_⟩ <;>
    simp only [act, shows, List.append_nil]
  · exact orderly.history
  · exact orderly.latest
  · intro record' opened requestId there _ request
    cases there
    cases request
  · intro record' there ready
    cases there
    obtain ⟨-, -, -, -, shut, -⟩ := createProducer_state handle maxMessageSize req
    rw [shut] at ready
    cases ready

theorem pollTransmit : Orderly (wire.act single codecs .pollTransmit) := by
  have continues : wire.entry.Continues (wire.act single codecs .pollTransmit).entry :=
    entryStep_continues wire.entry rfl
  apply orderly.of_continues continues orderly.segments
  · simp [act]
  · simp [act, shows]
  · simp [act]

theorem handshake (connected : Bool) :
    Orderly (wire.step single codecs (.handshake connected)) := by
  have moved : standing (wire.history ++ [.handshake connected]) =
      { standing wire.history with connected } :=
    standing_append _ _
  have continues : wire.entry.Continues (wire.step single codecs (.handshake connected)).entry :=
    .of_slot rfl
  apply orderly.of_kept continues orderly.segments orderly.commands
  · exact Guarded.append.mpr ⟨orderly.history, rfl, trivial⟩
  · exact orderly.stream
  · exact (congrArg Standing.latest moved :)
  · exact (congrArg Standing.confirmed moved :)
  · rfl

/-- With no segment left over, both branches hand the same commands to the transport. -/
theorem pollOwned_eq (connected othersEmpty : Bool) :
    wire.pollOwned single codecs connected othersEmpty =
      (if connected then wire.act single codecs .drainOutbound else wire).act single codecs
        .pollTransmit := by
  unfold pollOwned
  split
  case isFalse => rfl
  case isTrue empty =>
    rw [Bool.and_eq_true, List.isEmpty_iff] at empty
    cases connected <;>
      simp [act, drainVectored, entryStep, shows, orderly.segments, empty.2]

/-- An admitted act keeps the order. -/
theorem entry {op : EntryOp} (admits : wire.Admits op) : Orderly (wire.act single codecs op) := by
  cases op with
  | create => exact orderly.create _ _ _
  | openEmitted requestId => exact orderly.openEmitted requestId admits
  | drainOutbound => exact orderly.drain admits
  | pollTransmit => exact orderly.pollTransmit
  | attach producerName lastSequenceId =>
    obtain ⟨opened, latest, current⟩ := admits
    exact orderly.attach producerName lastSequenceId latest current
  | shutGate => exact orderly.shutGate
  | reset => exact orderly.reset
  | _ =>
    exact orderly.of_continues (entryStep_continues wire.entry rfl) orderly.segments
      orderly.commands (List.append_nil _) rfl

/-- Every SEND of the history met a confirmed open, on a connection that was up. -/
theorem send_isReady {before after : List WireEvent} {frame : OutboundFrame}
    (split : wire.history = before ++ .send frame :: after) :
    (standing before).isReady = true := by
  have guarded := orderly.history
  rw [split] at guarded
  exact (Guarded.append.mp guarded).2.1

/-- Every SEND of the stream came after the success of the latest open. -/
theorem send_after_success {before after : List WireEvent}
    {frame : OutboundFrame} (split : wire.stream = before ++ .send frame :: after) :
    ∃ opened, (session before).latest = some opened ∧ opened ∈ (session before).successes := by
  have guarded := (Guarded.append.mp orderly.stream).1
  rw [split] at guarded
  have meets : (session before).permits (.send frame) = true := (Guarded.append.mp guarded).2.1
  simpa [Session.permits, WireEvent.isSend, Option.any_eq_true] using meets

end

end Orderly

end ProducerWire

end Magnetar.Proto.Connection
