import Magnetar.Proto.Connection.Attachment

/-!
Contract: no SEND before the broker is ready for it.

Owns: the calls that hand frames to the transport next to the producer operations of a connection,
what each of them does to one producer on the wire, and that in every run a SEND is released only
under a confirmed open.

Does not own: the two readings of what passes between the client and the broker
(`Connection.Attachment`).

The bytes of other producers and of other commands in the contiguous buffer are only counted as
present or not.
-/

namespace Magnetar.Proto.Connection

open Library Library.Machine Pb External Producer ProducerEntry ProducerSide ProducerSide

variable {single : Prost SingleMessageMetadata} {codecs : Codecs}

/-! ### One producer, from what is known of the session -/

/-- An event inside a session. -/
def WireEvent.staysInSession : WireEvent → Bool
  | .handshake _ => false
  | .reset => false
  | _ => true

theorem Standing.run_staysInSession {events : List WireEvent}
    (stays : ∀ event ∈ events, event.staysInSession = true) (standing : Standing) :
    (run Standing.advance standing events).connected = standing.connected ∧
      (standing.latest.isSome = true →
        (run Standing.advance standing events).latest.isSome = true) := by
  induction events generalizing standing with
  | nil => exact ⟨rfl, id⟩
  | cons event _ ih =>
    have first := stays event List.mem_cons_self
    obtain ⟨connected, latest⟩ := ih
      (fun later member => stays later (List.mem_cons_of_mem _ member)) (standing.advance event)
    cases event with
    | producer => exact ⟨connected, fun _ => latest rfl⟩
    | send | closeProducer => exact ⟨connected, latest⟩
    | producerSuccess =>
      unfold Standing.advance at connected latest ⊢
      dsimp only at connected latest ⊢
      split at connected <;> simp_all
    | handshake | reset => cases first

variable {op : EntryOp}

theorem shows_staysInSession (entry : ProducerEntry) (keeps : op ≠ .reset) :
    ∀ event ∈ entry.shows op, event.staysInSession = true := by
  intro event member
  cases op with
  | reset => exact absurd rfl keeps
  | drainOutbound =>
    rcases entry.released_cases with none | ⟨only, -⟩
    · rw [shows, none] at member
      cases member
    · have isSend := only event member
      cases event <;> first | rfl | cases isSend
  | attach =>
    obtain ⟨requestId, -, rfl⟩ := List.mem_map.mp member
    rfl
  | openEmitted | shutGate =>
    cases List.mem_singleton.mp member
    rfl
  | _ => cases member

/-- The producer's frames are in order, the connection is up or not as `connected` says, and where
an open is pending there is a latest open. -/
structure ProducerWire.Follows (wire : ProducerWire) (connected : Bool) (opened : Prop) : Prop where
  orderly : wire.Orderly
  connected : (standing wire.history).connected = connected
  latest : opened → (standing wire.history).latest.isSome = true

/-- An operation that leaves the open alone and the session on, and releases frames only on a
connection that is up. -/
def EntryOp.isRoutine (connected : Bool) : EntryOp → Bool
  | .openEmitted _ => false
  | .attach _ _ => false
  | .reset => false
  | .drainOutbound => connected
  | _ => true

namespace ProducerWire.Follows

variable {wire : ProducerWire} {connected : Bool} {opened opened' : Prop}

section

variable (follows : wire.Follows connected opened)

include follows

theorem imp (fewer : opened' → opened) : wire.Follows connected opened' :=
  ⟨follows.orderly, follows.connected, fun opens => follows.latest (fewer opens)⟩

theorem act (keeps : op ≠ .reset)
    (admits : wire.Admits op) : (wire.act single codecs op).Follows connected opened := by
  have shown : (wire.act single codecs op).history = wire.history ++ wire.entry.shows op := by
    cases op <;> rfl
  obtain ⟨same, some⟩ := Standing.run_staysInSession (shows_staysInSession wire.entry keeps)
    (standing wire.history)
  rw [← standing_append, ← shown] at same some
  exact ⟨follows.orderly.entry admits, same.trans follows.connected, fun opens =>
    some (follows.latest opens)⟩

theorem routine (isRoutine : op.isRoutine connected = true) :
    (wire.act single codecs op).Follows connected opened := by
  apply follows.act
  · rintro rfl
    cases isRoutine
  · cases op with
    | drainOutbound => exact follows.connected.trans isRoutine
    | openEmitted | attach => cases isRoutine
    | _ => trivial

theorem run_routine {ops : List EntryOp}
    (isRoutine : ops.all (EntryOp.isRoutine connected) = true) :
    (run (ProducerWire.step single codecs) wire (ops.map .entry)).Follows connected opened := by
  induction ops generalizing wire with
  | nil => exact follows
  | cons _ _ ih =>
    rw [List.all_cons, Bool.and_eq_true] at isRoutine
    exact ih (follows.routine isRoutine.1) isRoutine.2

theorem openEmitted (requestId : Nat)
    (shut : ∀ record, wire.entry.slot = some record → record.state.brokerReady = false) :
    (wire.act single codecs (.openEmitted requestId)).Follows connected opened' := by
  have acted : (wire.act single codecs (.openEmitted requestId)).Follows connected opened :=
    follows.act (by simp) shut
  refine ⟨acted.orderly, acted.connected, fun _ => ?_⟩
  change (standing (wire.history ++ [.producer requestId])).latest.isSome = true
  rw [standing_append]
  rfl

theorem attach (opens : opened) {requestId : Nat}
    (current : wire.entry.openIsCurrent requestId = true) (producerName : String)
    (lastSequenceId : Option Int) :
    (wire.act single codecs (.attach producerName lastSequenceId)).Follows connected opened := by
  refine follows.act (by simp) ?_
  obtain ⟨latest, isLatest⟩ := Option.isSome_iff_exists.mp (follows.latest opens)
  refine ⟨latest, isLatest, ?_⟩
  intro record found
  have request : record.openRequestId = some requestId := by
    simpa [openIsCurrent, found] using current
  rw [request, follows.orderly.current record latest requestId found isLatest request]

theorem reset : (wire.act single codecs .reset).Follows false False := by
  refine ⟨follows.orderly.reset, ?_, False.elim⟩
  change (standing (wire.history ++ [.reset])).connected = false
  rw [standing_append]
  rfl

theorem handshake (next : Bool) :
    (wire.step single codecs (.handshake next)).Follows next opened := by
  have moved : standing (wire.history ++ [.handshake next]) =
      { standing wire.history with connected := next } :=
    standing_append _ _
  exact ⟨follows.orderly.handshake next, congrArg Standing.connected moved, fun opens =>
    (congrArg (fun standing => standing.latest.isSome) moved).trans (follows.latest opens)⟩

theorem pollOwned (othersEmpty : Bool) :
    (wire.step single codecs (.pollOwned connected othersEmpty)).Follows connected opened := by
  rw [ProducerWire.step, follows.orderly.pollOwned_eq]
  split
  case isTrue up =>
    have drained : (wire.act single codecs .drainOutbound).Follows connected opened :=
      follows.routine up
    exact drained.routine rfl
  case isFalse => exact follows.routine rfl

end

end ProducerWire.Follows

/-! ### The calls -/

/-- A producer operation of the connection, or a call of the vectored transmit path.
`pollTransmitOwned` is `poll_transmit_owned` and `poll_transmit_vectored`; `othersEmpty` says whether
the contiguous buffer holds nothing but the producer's own commands. -/
inductive TransportOp where
  | call (op : Op)
  | drainProducerOutboundVectored
  | pollTransmitOwned (othersEmpty : Bool)

/-- What the call does to the entries, which see no difference between the two buffers. -/
def TransportOp.toOp : TransportOp → Op
  | .call op => op
  | .drainProducerOutboundVectored => .drainProducerOutbound
  | .pollTransmitOwned _ => .pollTransmit

section Links

variable (single : Prost SingleMessageMetadata) (codecs : Codecs)

/-- What a call does to one producer on the wire. -/
def ProducerSide.wireOps (side : ProducerSide) (handle : Nat) : TransportOp → List WireOp
  | .call (.frame now (.connected maxMessageSize)) =>
    .handshake true ::
      (side.entryOps single codecs handle (.frame now (.connected maxMessageSize))).map .entry
  | .call (.setHandshakeState next) => [.handshake (next = .connected)]
  | .call op => (side.entryOps single codecs handle op).map .entry
  | .drainProducerOutboundVectored => if side.state = .connected then [.drainVectored] else []
  | .pollTransmitOwned othersEmpty => [.pollOwned (side.state = .connected) othersEmpty]

/-- A connection, and one of its producers on the wire. -/
structure Link where
  side : ProducerSide
  wire : ProducerWire := {}

def Link.step (handle : Nat) (link : Link) (op : TransportOp) : Link where
  side := link.side.step single codecs op.toOp
  wire := run (ProducerWire.step single codecs) link.wire
    (link.side.wireOps single codecs handle op)

end Links

def ProducerEntry.isReady (entry : ProducerEntry) : Bool :=
  entry.slot.any (·.state.brokerReady)

/-- An open that the caller asks for on its own comes only while the gate is shut, and the list of
segments is filled only by the call that hands it over. -/
def Link.opensShut (handle : Nat) (link : Link) : TransportOp → Bool
  | .call (.retryProducerOpen named) => named != handle || !(link.side.entries handle).isReady
  | .call (.rebuildProducer named) => named != handle || !(link.side.entries handle).isReady
  | .drainProducerOutboundVectored => false
  | _ => true

/-- What a call is to one producer.  With `opened`, a new producer takes the handle or the broker
closes the old one first, unless the gate is shut already. -/
inductive ProducerSide.Passes (side : ProducerSide) (handle : Nat) :
    List WireOp → ProducerSide → Prop
  | routine {ops : List EntryOp} {side' : ProducerSide}
      (isRoutine : ops.all (EntryOp.isRoutine (side.state = .connected)) = true)
      (same : GoesOn (· ≠ handle) side side') : Passes side handle (ops.map .entry) side'
  | handshake {ops : List EntryOp} {side' : ProducerSide}
      (isRoutine : ops.all (EntryOp.isRoutine (side'.state = .connected)) = true)
      (opens : side'.pendingRequests = side.pendingRequests) :
      Passes side handle (.handshake (side'.state = .connected) :: ops.map .entry) side'
  | polled {side' : ProducerSide} (othersEmpty : Bool) (same : GoesOn (· ≠ handle) side side') :
      Passes side handle [.pollOwned (side.state = .connected) othersEmpty] side'
  | opened {first rest : List EntryOp} {side' : ProducerSide} (requestId : Nat)
      (shuts : (∃ maxMessageSize req, first = [.create handle maxMessageSize req]) ∨
        first = [.shutGate] ∨ first = [] ∧
          ((side.entries handle).isReady = true →
            ∃ failed, (side.entries handle).openIsCurrent failed = true))
      (drains : rest = side.drainOps ∨ rest = [])
      (state : side'.state = side.state) :
      Passes side handle ((first ++ .openEmitted requestId :: rest).map .entry) side'
  | attached {side' : ProducerSide} {requestId : Nat} {enqueuedAt : Option Nat}
      (producerName : String) (lastSequenceId : Option Int)
      (pending : side.pendingRequests.lookup requestId = some (.producerOpen handle enqueuedAt))
      (current : (side.entries handle).openIsCurrent requestId = true)
      (same : GoesOn (· ≠ handle) side side') :
      Passes side handle ((.attach producerName lastSequenceId :: side.drainOps).map .entry) side'
  | lost {side' : ProducerSide} (state : side'.state = .uninitialized)
      (none : side'.pendingRequests = ∅) : Passes side handle [.entry .reset] side'

/-! ### What each call is to one producer -/

section Calls

variable (side : ProducerSide) (handle : Nat)

theorem drainOps_routine : side.drainOps.all (EntryOp.isRoutine (side.state = .connected)) = true := by
  unfold drainOps
  split
  case isTrue up => simp [EntryOp.isRoutine, up]
  case isFalse => rfl

theorem append_drainOps_routine {ops : List EntryOp}
    (isRoutine : ops.all (EntryOp.isRoutine (side.state = .connected)) = true) :
    (ops ++ side.drainOps).all (EntryOp.isRoutine (side.state = .connected)) = true := by
  rw [List.all_append, Bool.and_eq_true]
  exact ⟨isRoutine, drainOps_routine side⟩

theorem cancelProducerOpen_goesOn (named : Nat) {opened : Nat → Prop} :
    GoesOn opened side (side.cancelProducerOpen named) := by
  have remembered (base : ProducerSide) : GoesOn opened base (base.rememberAbandoned named) := by
    unfold rememberAbandoned
    split <;> exact .of_tables rfl rfl
  have forgotten (base : ProducerSide) : KeepsHandles opened base
      ((side.openRequestsOf named).foldl forgetRequest base) :=
    .foldl .forgetRequest _ base
  have closed : KeepsHandles opened side (side.closeProducer named true) :=
    .closeProducer side named true
  unfold cancelProducerOpen
  split
  · exact (closed.toGoesOn.trans (remembered _)).trans
      ((forgotten _).modifyEntry named _).toGoesOn
  · exact ((forgotten side).modifyEntry named _).toGoesOn

theorem quiet_passes {op : Op} (isQuiet : op.isQuiet = true) :
    side.Passes handle ((side.entryOps single codecs handle op).map .entry)
      (side.step single codecs op) := by
  have quiet (op : EntryOp) : op.isQuiet = true → op.isRoutine (side.state = .connected) = true := by
    cases op <;> simp [EntryOp.isQuiet, EntryOp.isRoutine]
  apply Passes.routine (entryOps_all quiet (drainOps_routine side) isQuiet)
  by_cases cancels : ∃ named, op = .cancelProducerOpen named
  · obtain ⟨named, rfl⟩ := cancels
    exact cancelProducerOpen_goesOn side named
  · have kept : KeepsHandles (· ≠ handle) side (side.step single codecs op) :=
      step_keepsHandles single codecs side isQuiet fun named same => cancels ⟨named, same⟩
    exact kept.toGoesOn

theorem handleProducerSuccess_passes (requestId : Nat) (producerName : String)
    (lastSequenceId : Option Int) :
    side.Passes handle
      ((side.successOps handle requestId producerName lastSequenceId).map .entry)
      (side.handleProducerSuccess requestId producerName lastSequenceId) := by
  have kept : KeepsHandles (· ≠ handle) side
      (side.handleProducerSuccess requestId producerName lastSequenceId) :=
    handleProducerSuccess_keepsHandles side requestId producerName lastSequenceId
  have drains : side.Passes handle (side.drainOps.map .entry) _ :=
    .routine (drainOps_routine side) kept.toGoesOn
  unfold successOps
  cases pending : side.pendingRequests.lookup requestId with
  | none => exact drains
  | some kind =>
    cases kind with
    | producerClose | producerCloseForgotten => exact drains
    | producerOpen named =>
      dsimp only
      split
      case isFalse => exact .routine rfl kept.toGoesOn
      case isTrue current =>
        unfold onlyAt
        split
        case isTrue same =>
          subst same
          exact .attached producerName lastSequenceId pending current kept.toGoesOn
        case isFalse => exact drains

theorem handleCloseProducer_passes (named : Nat) :
    side.Passes handle
      ((onlyAt named handle (side.closedByBrokerOps named) ++ side.drainOps).map .entry)
      (side.handleCloseProducer named).drainProducerOutbound := by
  unfold onlyAt
  split
  case isTrue same =>
    subst same
    have kept : KeepsHandles (fun _ => True) side (side.handleCloseProducer handle) :=
      .handleCloseProducer side trivial
    unfold closedByBrokerOps
    split
    case isTrue =>
      have reopened : side.Passes handle
          (([EntryOp.shutGate] ++ .openEmitted side.nextRequestId :: side.drainOps).map .entry)
          (side.handleCloseProducer handle).drainProducerOutbound :=
        .opened _ (.inr (.inl rfl)) (.inl rfl) kept.drained.state
      exact reopened
    case isFalse ineligible =>
      rw [handleCloseProducer, if_neg ineligible]
      exact .routine (append_drainOps_routine side rfl)
        ((KeepsHandles.refl side).modifyEntry handle _).drained.toGoesOn
  case isFalse other =>
    have kept : KeepsHandles (· ≠ handle) side (side.handleCloseProducer named) :=
      .handleCloseProducer side (Ne.symm other)
    exact .routine (append_drainOps_routine side rfl) kept.drained.toGoesOn

/-- The activity clock is no part of what a call is to a producer. -/
theorem ProducerSide.Passes.of_awake (now : Nat) {ops : List WireOp} {side' : ProducerSide}
    (passes : { side with lastActivity := some now }.Passes handle ops side') :
    side.Passes handle ops side' := by
  cases passes with
  | routine isRoutine same => exact .routine isRoutine ⟨same.state, same.opens⟩
  | handshake isRoutine opens => exact .handshake isRoutine opens
  | polled othersEmpty same => exact .polled othersEmpty ⟨same.state, same.opens⟩
  | opened requestId shuts drains state => exact .opened requestId shuts drains state
  | attached producerName lastSequenceId pending current same =>
    exact .attached producerName lastSequenceId pending current ⟨same.state, same.opens⟩
  | lost state none => exact .lost state none

theorem connected_passes (now : Nat) (maxMessageSize : Option Nat) :
    let side' := side.handleFrame now (.connected maxMessageSize)
    side.Passes handle [.handshake true, .entry .drainOutbound] side' := by
  intro side'
  let raised : ProducerSide :=
    { side with
      lastActivity := some now
      state := .connected
      brokerMaxMessageSize := maxMessageSize }
  have drained : side' = raised.mapEntries ProducerEntry.drainOutbound := by
    change raised.drainProducerOutbound = _
    rw [drainProducerOutbound, if_pos rfl]
  have passes : side.Passes handle (.handshake (side'.state = .connected) ::
      [EntryOp.drainOutbound].map .entry) side' := by
    exact .handshake rfl rfl
  exact passes

section

variable (named : Nat)
  (shut : handle = named → (side.entries handle).isReady = true → ∃ failed, (side.entries
    handle).openIsCurrent failed = true)

include named shut

/-- An open that was asked for at one handle: at that handle it is an open, elsewhere nothing. -/
theorem emitCommandProducer_passes :
    side.Passes handle ((onlyAt named handle [.openEmitted side.nextRequestId]).map .entry)
      (side.emitCommandProducer named) := by
  unfold onlyAt
  split
  case isTrue same =>
    have opened : side.Passes handle
        (([] ++ EntryOp.openEmitted side.nextRequestId :: []).map .entry)
        (side.emitCommandProducer named) :=
      .opened _ (.inr (.inr ⟨rfl, shut same⟩)) (.inr rfl) rfl
    exact opened
  case isFalse other =>
    have kept : KeepsHandles (· ≠ handle) side (side.emitCommandProducer named) :=
      .emitCommandProducer side (Ne.symm other)
    exact .routine rfl kept.toGoesOn

theorem retryProducerOpen_passes :
    side.Passes handle ((side.retryOps named handle).map .entry) (side.retryProducerOpen named) := by
  unfold retryOps retryProducerOpen
  split
  · exact emitCommandProducer_passes side handle named shut
  · exact .routine rfl (.of_tables rfl rfl)

end

theorem createProducer_passes (reattach : Option Nat) (req : CreateProducerRequest) :
    side.Passes handle
      ((side.entryOps single codecs handle (.createProducer reattach req)).map .entry)
      (side.createProducer reattach req) := by
  have taken : GoesOn (· ≠ handle) side (side.takeProducerId reattach) := by
    unfold takeProducerId
    split <;> exact .of_tables rfl rfl
  simp only [entryOps, onlyAt]
  split
  case isTrue same =>
    -- The producer that takes the handle is not attached yet.
    have opened : side.Passes handle
        (([EntryOp.create handle (side.brokerMaxMessageSize.getD side.config.maxMessageSize) req] ++
          EntryOp.openEmitted side.nextRequestId :: []).map .entry)
        (side.createProducer reattach req) :=
      .opened _ (.inl ⟨_, req, rfl⟩) (.inr rfl) taken.state
    rw [← same]
    exact opened
  case isFalse other =>
    have emitted (base : ProducerSide) :
        KeepsHandles (· ≠ handle) base (base.emitCommandProducer (side.handleFor reattach)) :=
      .emitCommandProducer base (Ne.symm other)
    exact .routine rfl (taken.trans ⟨(emitted _).state, (emitted _).opens⟩)

/-- The guard of a call that opens a producer, as the gate of that producer. -/
theorem shut_of_guard {named : Nat}
    (guard : (named != handle || !(side.entries handle).isReady) = true) :
    handle = named → (side.entries handle).isReady = true →
      ∃ failed, (side.entries handle).openIsCurrent failed = true := by
  intro same ready
  subst same
  rw [ready] at guard
  simp at guard

/-- Every call is one of these to a producer. -/
theorem passes {link : Link} {op : TransportOp} (shut : link.opensShut handle op = true) :
    link.side.Passes handle (link.side.wireOps single codecs handle op)
      (link.side.step single codecs op.toOp) := by
  have same : KeepsHandles (· ≠ handle) link.side link.side := .refl _
  cases op with
  | drainProducerOutboundVectored => cases shut
  | pollTransmitOwned => exact .polled _ ⟨same.drained.state, same.drained.opens⟩
  | call op =>
    cases op with
    | createProducer => exact createProducer_passes link.side handle _ _
    | slotQueueSend => exact .routine (onlyAt_all rfl) (.of_tables rfl rfl)
    | send named msg uuid reservation publishTimeMs now =>
      have queued : KeepsHandles (· ≠ handle) link.side
          (link.side.slotQueueSend single codecs named msg uuid reservation publishTimeMs now) :=
        same.modifyEntry _ _
      simp only [wireOps, entryOps, TransportOp.toOp, step, send]
      split
      · exact .routine (append_drainOps_routine link.side (onlyAt_all rfl))
          queued.drained.toGoesOn
      · rw [List.append_nil]
        exact .routine (onlyAt_all rfl) queued.toGoesOn
    | frame now frame =>
      cases frame with
      | connected => exact connected_passes link.side handle now _
      | producerSuccess =>
        exact Passes.of_awake link.side handle now (handleProducerSuccess_passes _ handle _ _ _)
      | closeProducer named =>
        exact Passes.of_awake link.side handle now (handleCloseProducer_passes _ handle named)
      | _ => exact quiet_passes link.side handle rfl
    | reset => exact .lost rfl rfl
    | rebuildProducer named =>
      simp only [wireOps, entryOps, TransportOp.toOp, step, rebuildProducer]
      split
      · exact emitCommandProducer_passes link.side handle named (shut_of_guard _ handle shut)
      · exact .routine (onlyAt_all rfl) (same.modifyEntry _ _).toGoesOn
    | retryProducerOpen named =>
      exact retryProducerOpen_passes link.side handle named (shut_of_guard _ handle shut)
    | retryProducerOpenIfCurrent named failedRequestId =>
      simp only [wireOps, entryOps, TransportOp.toOp, step,
        retryProducerOpenIfCurrent]
      split
      case isTrue current =>
        apply retryProducerOpen_passes
        intro same _
        subst same
        rw [producerOpenRetryIsCurrent, Bool.and_eq_true] at current
        exact ⟨failedRequestId, current.2⟩
      case isFalse => exact .routine rfl same.toGoesOn
    | setHandshakeState next =>
      have moved : link.side.Passes handle
          (.handshake ({ link.side with state := next }.state = .connected) ::
            ([] : List EntryOp).map .entry) { link.side with state := next } :=
        .handshake rfl rfl
      exact moved
    | _ => exact quiet_passes link.side handle rfl

end Calls

/-! ### Every run -/

def WireOp.entryOps : WireOp → List EntryOp
  | .entry op => [op]
  | .handshake _ => []
  | .drainVectored => [.drainOutbound]
  | .pollOwned connected _ => (if connected then [.drainOutbound] else []) ++ [.pollTransmit]

theorem ProducerWire.step_entry (wire : ProducerWire) (op : WireOp) :
    (wire.step single codecs op).entry = run (entryStep single codecs) wire.entry op.entryOps := by
  cases op with
  | entry op => cases op <;> rfl
  | handshake | drainVectored => rfl
  | pollOwned connected =>
    simp only [ProducerWire.step, ProducerWire.pollOwned]
    split <;> cases connected <;> rfl

theorem ProducerWire.run_entry (wire : ProducerWire) (ops : List WireOp) :
    (run (ProducerWire.step single codecs) wire ops).entry =
      run (entryStep single codecs) wire.entry (ops.flatMap WireOp.entryOps) := by
  induction ops generalizing wire with
  | nil => rfl
  | cons _ _ ih =>
    rw [run_cons, ih, ProducerWire.step_entry, List.flatMap_cons, run_append]

theorem flatMap_entry (ops : List EntryOp) :
    (ops.map WireOp.entry).flatMap WireOp.entryOps = ops := by
  rw [List.flatMap_map]
  exact List.flatMap_singleton' ops

theorem ProducerSide.wireOps_entryOps (side : ProducerSide) (handle : Nat) (op : TransportOp) :
    (side.wireOps single codecs handle op).flatMap WireOp.entryOps =
      side.entryOps single codecs handle op.toOp := by
  cases op with
  | drainProducerOutboundVectored =>
    simp only [wireOps, TransportOp.toOp, entryOps, drainOps]
    split <;> rfl
  | pollTransmitOwned =>
    simp only [wireOps, TransportOp.toOp, entryOps, drainOps]
    by_cases up : side.state = .connected <;> simp [WireOp.entryOps, up]
  | call op =>
    cases op with
    | frame _ frame => cases frame <;> exact flatMap_entry _
    | setHandshakeState => rfl
    | _ => exact flatMap_entry _

structure Link.Sound (handle : Nat) (link : Link) : Prop where
  entry : link.wire.entry = link.side.entries handle
  follows : link.wire.Follows (link.side.state = .connected)
    (∃ requestId enqueuedAt,
      link.side.pendingRequests.lookup requestId = some (.producerOpen handle enqueuedAt))

/-- An open pending after a call that opens others only was pending before. -/
theorem ProducerSide.GoesOn.pending {handle : Nat} {side side' : ProducerSide}
    (goesOn : GoesOn (· ≠ handle) side side') :
    (∃ requestId enqueuedAt,
      side'.pendingRequests.lookup requestId = some (.producerOpen handle enqueuedAt)) →
    ∃ requestId enqueuedAt,
      side.pendingRequests.lookup requestId = some (.producerOpen handle enqueuedAt) := by
  rintro ⟨requestId, enqueuedAt, pending⟩
  rcases goesOn.opens handle requestId enqueuedAt pending with other | before
  · exact absurd rfl other
  · exact ⟨requestId, enqueuedAt, before⟩

namespace Link.Sound

variable {handle : Nat} {link : Link}

/-- Before an open, the gate is shut: by the step itself, or because an open is awaited. -/
theorem opened (sound : Sound handle link) {first : List EntryOp}
    (shuts : (∃ maxMessageSize req, first = [.create handle maxMessageSize req]) ∨
      first = [.shutGate] ∨ first = [] ∧
        ((link.side.entries handle).isReady = true →
          ∃ failed, (link.side.entries handle).openIsCurrent failed = true))
    (record : ProducerRecord)
    (there : (run (entryStep single codecs) link.wire.entry first).slot = some record) :
    record.state.brokerReady = false := by
  rcases shuts with ⟨maxMessageSize, req, rfl⟩ | rfl | ⟨rfl, awaited⟩
  · cases there
    exact (createProducer_state handle maxMessageSize req).2.2.2.2.1
  · obtain ⟨earlier, -, rfl⟩ := Option.map_eq_some_iff.mp there
    rfl
  · rw [← sound.entry] at awaited
    cases ready : record.state.brokerReady with
    | false => rfl
    | true =>
      have there : link.wire.entry.slot = some record := there
      obtain ⟨failed, current⟩ := awaited (by simp [isReady, there, ready])
      obtain ⟨answered, -⟩ := sound.follows.orderly.gate record there ready
      simp [openIsCurrent, there, answered] at current

theorem step (sound : Sound handle link) {op : TransportOp}
    (shut : link.opensShut handle op = true) : Sound handle (link.step single codecs handle op) := by
  have entry : (link.step single codecs handle op).wire.entry =
      (link.step single codecs handle op).side.entries handle := by
    unfold Link.step
    rw [ProducerWire.run_entry, wireOps_entryOps, sound.entry]
    exact (step_simulates link.side op.toOp handle).symm
  refine ⟨entry, ?_⟩
  have passes : link.side.Passes handle (link.side.wireOps single codecs handle op)
      (link.side.step single codecs op.toOp) := passes handle shut
  unfold Link.step
  generalize link.side.wireOps single codecs handle op = ops at passes
  have follows := sound.follows
  cases passes with
  | routine isRoutine same =>
    rw [same.state]
    exact (follows.run_routine isRoutine).imp same.pending
  | handshake isRoutine opens =>
    rw [opens]
    exact (follows.handshake _).run_routine isRoutine
  | polled othersEmpty same =>
    rw [same.state]
    exact (follows.pollOwned othersEmpty).imp same.pending
  | @opened first rest _ requestId shuts drains state =>
    rw [List.map_append, List.map_cons, run_append, run_cons, state]
    let prepared := run (ProducerWire.step single codecs) link.wire (first.map .entry)
    have before : prepared.entry = run (entryStep single codecs) link.wire.entry first := by
      rw [ProducerWire.run_entry, flatMap_entry]
    have reached : prepared.Follows (link.side.state = .connected) False := by
      apply (follows.imp False.elim).run_routine
      rcases shuts with ⟨maxMessageSize, req, rfl⟩ | rfl | ⟨rfl, -⟩ <;> rfl
    have isRoutine : rest.all (EntryOp.isRoutine (link.side.state = .connected)) = true := by
      rcases drains with rfl | rfl
      · exact drainOps_routine link.side
      · rfl
    have shut : ∀ record, prepared.entry.slot = some record →
        record.state.brokerReady = false := by
      rw [before]
      exact sound.opened shuts
    exact (reached.openEmitted requestId shut).run_routine isRoutine
  | attached producerName lastSequenceId pending current same =>
    rw [← sound.entry] at current
    rw [List.map_cons, run_cons, same.state]
    apply ProducerWire.Follows.run_routine ?_ (drainOps_routine link.side)
    exact (follows.attach ⟨_, _, pending⟩ current producerName lastSequenceId).imp same.pending
  | lost state none =>
    rw [state, none]
    apply follows.reset.imp
    rintro ⟨requestId, enqueuedAt, pending⟩
    cases pending

theorem start (config : ProducerConfig) : Sound handle { side := start config } where
  entry := rfl
  follows :=
    { orderly := .start
      connected := rfl
      latest := by
        rintro ⟨requestId, enqueuedAt, pending⟩
        cases pending }

theorem run (config : ProducerConfig) {ops : List TransportOp}
    (shut : Guarded (Link.step single codecs handle)
      (fun link op => link.opensShut handle op = true) { side := ProducerSide.start config } ops) :
    Sound handle (Machine.run (Link.step single codecs handle)
      { side := ProducerSide.start config } ops) :=
  run_invariant (Sound handle) (fun _ _ sound meets => sound.step meets) (start config) shut

end Link.Sound

section Results

variable (single codecs)

/-- In every run, a SEND frame leaves its producer's slot only while the connection is up and the
producer's latest open of the session is confirmed and was not taken back since; and what is handed to
the transport has every SEND after the success of the latest open before it.  The run may open,
close, lose, rebuild and re-attach as it likes, but for an open that the caller asks for at an
attached producer, and for a drain into the list of segments on its own. -/
theorem sends_follow_attachment (config : ProducerConfig) (handle : Nat) (ops : List TransportOp)
    (shut : Guarded (Link.step single codecs handle)
      (fun link op => link.opensShut handle op = true) { side := ProducerSide.start config } ops) :
    let link := run (Link.step single codecs handle) { side := ProducerSide.start config } ops
    link.wire.entry = link.side.entries handle ∧
      (∀ before frame after, link.wire.history = before ++ .send frame :: after →
        (standing before).isReady = true) ∧
      (∀ before frame after, link.wire.stream = before ++ .send frame :: after →
        ∃ opened, (session before).latest = some opened ∧
          opened ∈ (session before).successes) := by
  intro link
  have sound : link.Sound handle := .run config shut
  refine ⟨sound.entry, ?_, ?_⟩
  · intro before frame after split
    exact sound.follows.orderly.send_isReady split
  · intro before frame after split
    exact sound.follows.orderly.send_after_success split

end Results

private def attaching : List TransportOp :=
  [.call (.createProducer none plainOpen), .call (.frame 0 (.connected none)), .call .pollTransmit,
    .call (.frame 0 (.producerSuccess 0 "p" none))]

/-- The broker closes the producer, which is re-attached; then the session is lost and rebuilt. -/
private def reopening : List TransportOp :=
  [.call (sending [1]), .pollTransmitOwned true, .call (.frame 1 (.closeProducer 0)),
    .call (sending [2]), .pollTransmitOwned true, .call (.frame 1 (.producerSuccess 1 "p" none)),
    .call .pollTransmit, .call .reset, .call (sending [3]), .call (.rebuildProducer 0),
    .call (.frame 2 (.connected none)), .call .pollTransmit,
    .call (.frame 2 (.producerSuccess 2 "p" none)), .pollTransmitOwned true]

/-- Two sends wait for the re-attach and three for the rebuild. -/
theorem sends_follow_reattach_and_rebuild :
    let link := run (Link.step default default 0) { side := ProducerSide.start {} }
      (attaching ++ reopening)
    link.wire.stream.map WireEvent.isSend =
        [false, false, true, false, false, false, true, true, false, false, false, true, true,
          true] ∧
      (∀ before frame after, link.wire.history = before ++ .send frame :: after →
        (standing before).isReady = true) ∧
      (∀ before frame after, link.wire.stream = before ++ .send frame :: after →
        ∃ opened, (session before).latest = some opened ∧
          opened ∈ (session before).successes) :=
  ⟨by decide +kernel,
    (sends_follow_attachment default default {} 0 (attaching ++ reopening) (by decide +kernel)).2⟩

private def unguarded (rest : List TransportOp) : ProducerWire :=
  (run (Link.step default default 0) { side := ProducerSide.start {} } (attaching ++ rest)).wire

/-- A retry that the caller asks for at an attached producer is a new open, and the SEND after it is
released before that open is answered.  Frames drained into the list of segments on its own leave
behind the next open.  And a SEND that was released in time is handed to the transport after the
broker has closed the producer. -/
theorem send_released_before_success :
    let retried := unguarded [.call (.retryProducerOpen 0), .call (sending [1]), .call .pollTransmit]
    let overtaken := unguarded
      [.call (.slotQueueSend 0 (plainMessage [1]) "u" 0 0 0), .drainProducerOutboundVectored,
        .call (.frame 1 (.closeProducer 0)), .call .pollTransmit, .pollTransmitOwned true]
    let late := unguarded
      [.call (sending [1]), .call (.frame 1 (.closeProducer 0)), .call .pollTransmit]
    (retried.history.map WireEvent.isSend = [false, false, false, false, true] ∧
        (standing (retried.history.take 4)).isReady = false ∧
        retried.stream.map WireEvent.isSend = [false, false, false, true] ∧
        (session (retried.stream.take 3)).latest = some 1 ∧
        (session (retried.stream.take 3)).successes = [0]) ∧
      (overtaken.stream.map WireEvent.isSend = [false, false, false, false, true] ∧
        (session (overtaken.stream.take 4)).latest = some 1 ∧
        (session (overtaken.stream.take 4)).successes = [0]) ∧
      late.stream.map WireEvent.isSend = [false, false, false, true, false] ∧
        (standing (late.stream.take 2)).confirmed = true ∧
        (standing (late.stream.take 3)).confirmed = false := by
  decide +kernel

end Magnetar.Proto.Connection
