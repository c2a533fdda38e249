import Magnetar.Proto.Connection.Consumers
import Magnetar.Proto.Consumer.Ledger

/-!
Contract: the consumer side of a connection as a family of independent slot machines.

Owns: the operations a connection takes, the primitive operations a consumer slot takes, and the
simulation: one connection operation acts on each slot as a short run of slot operations.  A
property of every consumer of every reachable connection is then proved on one slot.

Does not own: any particular property.
-/

namespace Magnetar.Proto.Connection

open Library Pb External Consumer Machine ConsumerState

variable {side side' : ConsumerSide} {c : ConsumerState} {named : Nat}

/-- A primitive change of one consumer. -/
inductive SlotOp where
  | subscribeSent (requestId : Nat) (action : SubscribeAckAction)
  | subscribeAcked (requestId : Nat)
  | completionConsumed
  | waiterAbandoned
  | closeRequested (requestId : Nat)
  | closeAcked (requestId : Nat)
  | unsubscribeRequested (requestId : Nat)
  | unsubscribeRefused (requestId : Nat)
  | subscribeFailed (reason : String)
  | reachedEndOfTopic
  | activeChange (active : Bool)
  | clearStallWatch
  | zeroPermits
  | resetSession
  | grantInitialFlow (now : Nat)
  | addFlow (permits : Nat)
  | deliver (dispatch : Dispatch)
  | recordMarkerConsumed
  | popMessage
  | setPaused (paused : Bool)
  | beginSeek (requestId : Nat)
  | seekAcked
  | timerTick (stallTimeout : Option Nat) (now : Nat)

/-- A connection operation: a call of the application or a command of the broker. -/
inductive SideOp where
  | subscribe (req : SubscribeRequest)
  | popMessage (handle : Nat)
  | setPaused (handle : Nat) (paused : Bool)
  | flow (handle permits : Nat)
  | seek (handle : Nat) (target : SeekTarget)
  | closeConsumer (handle : Nat)
  | unsubscribe (handle : Nat)
  | initialFlow (handle now : Nat)
  | resubscribeConsumerInPlace (handle : Nat)
  | resubscribeConsumerAfterSeek (handle : Nat)
  | retryConsumerSubscribe (handle : Nat)
  | setHandshakeState (next : HandshakeState)
  | consumeConsumerSubscribeWaiterCompletion (handle waiterId : Nat)
  | consumeInitialConsumerSubscribeCompletion (handle : Nat)
  | abandonConsumerSubscribeWaiter (handle waiterId now : Nat)
  | failConsumerSubscribe (handle : Nat) (reason : String)
  | reset
  | rebuildConsumer (handle : Nat)
  | timeoutConsumer (stallTimeout : Option Nat) (handle now : Nat)
  | messageFrame (dispatch : Dispatch)
  | successFrame (requestId now : Nat)
  | errorFrame (requestId : Nat) (retried : Bool) (reason : String)
  | closeConsumerFrame (handle : Nat) (assignedBrokerServiceUrl : Option String)
  | reachedEndOfTopicFrame (handle : Nat)
  | activeConsumerChangeFrame (handle : Nat) (active : Bool) (now : Nat)

def SideOp.subscribes : SideOp → Bool
  | .subscribe _ => true
  | _ => false

variable (single : Prost SingleMessageMetadata) (codecs : Codecs)

/-- A slot whose sizing policy panics on a tick is left as it was. -/
def slotStep (c : ConsumerState) : SlotOp → ConsumerState
  | .subscribeSent requestId action => c.subscribeSent requestId action
  | .subscribeAcked requestId => (c.subscribeAcked requestId).1
  | .completionConsumed => c.completionConsumed
  | .waiterAbandoned => c.waiterAbandoned
  | .closeRequested requestId => c.closeRequested requestId
  | .closeAcked requestId => c.closeAcked requestId
  | .unsubscribeRequested requestId => c.unsubscribeRequested requestId
  | .unsubscribeRefused requestId => c.unsubscribeRefused requestId
  | .subscribeFailed reason => c.subscribeFailed reason
  | .reachedEndOfTopic => { c with reachedEndOfTopic := true }
  | .activeChange active => c.recordActiveChange active
  | .clearStallWatch => c.clearStallWatch
  | .zeroPermits => c.zeroPermits
  | .resetSession => c.resetSession
  | .grantInitialFlow now => (c.grantInitialFlow now).1
  | .addFlow permits => c.addFlow permits
  | .deliver dispatch => (c.deliver single codecs dispatch).1.maybeFlow.1
  | .recordMarkerConsumed => c.recordMarkerConsumed
  | .popMessage => c.popMessage.1.maybeFlow.1
  | .setPaused paused => { c with paused := paused }
  | .beginSeek requestId => c.beginSeek requestId
  | .seekAcked => c.seekAcked.1
  | .timerTick stallTimeout now => ((c.timerTick stallTimeout now).map Prod.fst).getD c

/-! ### What a timer tick leaves alone -/

/-- `swept` is `c` after some of its incomplete chunked messages were dropped. -/
def Swept (c swept : ConsumerState) : Prop :=
  ∃ reassembly order bytes acks, swept =
    { c with
      chunkReassembly := reassembly
      chunkReassemblyOrder := order
      chunkBufferedBytes := bytes
      chunkAutoAckPending := acks }

theorem sweepExpiredOf_swept (expire now : Nat) (c : ConsumerState) (order : List String) :
    Swept c (sweepExpiredOf expire now c order) := by
  induction order generalizing c with
  | nil => exact ⟨_, _, _, _, rfl⟩
  | cons uuid rest ih =>
    unfold sweepExpiredOf
    split
    · exact ih c
    · rename_i entry _
      split
      · exact ⟨_, _, _, _, rfl⟩
      · obtain ⟨reassembly, order, bytes, acks, swept⟩ :=
          ih (c.discardChunkBuffer uuid entry rest)
        exact ⟨reassembly, order, bytes, acks, swept⟩

theorem sweepExpiredChunks_swept (c : ConsumerState) (now : Nat) :
    Swept c (c.sweepExpiredChunks now) := by
  unfold sweepExpiredChunks
  split
  · exact ⟨_, _, _, _, rfl⟩
  · exact sweepExpiredOf_swept _ _ _ _

theorem stallTick_eq (c : ConsumerState) (stallTimeout : Option Nat) (now : Nat) :
    ∃ watch, c.stallTick stallTimeout now = { c with stallWatch := watch } := by
  unfold stallTick pollStall
  split
  · split
    · exact ⟨_, rfl⟩
    · split
      · split
        · exact ⟨_, rfl⟩
        · split <;> exact ⟨_, rfl⟩
      · exact ⟨_, rfl⟩
  · exact ⟨_, rfl⟩

theorem armAdjustClock_eq (c : ConsumerState) (now : Nat) :
    ∃ clock, c.armAdjustClock now = { c with lastAdjustAt := clock } := by
  unfold armAdjustClock
  split <;> exact ⟨_, rfl⟩

/-- Whether a tick at `now` runs the sizing policy. -/
def adjustIsDue (c : ConsumerState) (now : Nat) : Bool :=
  c.nextAdjustDeadline.any fun deadline => decide (deadline ≤ now)

theorem adjustTick_cases {c' : ConsumerState} {now : Nat} {flow : Option CommandFlow}
    (ticked : c.adjustTick now = some (c', flow)) :
    (adjustIsDue c now = true ∧ c.adjustReceiverQueue now 1 = some (c', flow)) ∨
      ∃ clock, c' = { c with lastAdjustAt := clock } := by
  unfold adjustTick at ticked
  split at ticked
  · rename_i deadline armed
    split at ticked
    · rename_i due
      exact .inl ⟨by simpa [adjustIsDue, armed] using due, ticked⟩
    · cases ticked
      exact .inr ⟨_, rfl⟩
  · cases ticked
    exact .inr (armAdjustClock_eq c now)

theorem grantInitialFlow_cases (c : ConsumerState) (now : Nat) :
    (c.owesInitialFlow = false ∧ c.grantInitialFlow now = (c, none)) ∨
      (c.owesInitialFlow = true ∧ ∃ clock watch, (c.grantInitialFlow now).1 =
        { c.initialFlow.1 with lastAdjustAt := clock, stallWatch := watch }) := by
  unfold grantInitialFlow
  cases owes : c.owesInitialFlow with
  | false => exact .inl ⟨rfl, rfl⟩
  | true =>
    obtain ⟨clock, armed⟩ := armAdjustClock_eq c.initialFlow.1 now
    refine .inr ⟨rfl, clock,
      some { mark := c.dispatchUnitsReceived, since := now, reported := false }, ?_⟩
    change (c.initialFlow.1.armAdjustClock now).armStallWatch now = _
    rw [armed]
    rfl

theorem timerTick_cases {c' : ConsumerState} {stallTimeout : Option Nat} {now : Nat}
    {flow : Option CommandFlow} (ticked : c.timerTick stallTimeout now = some (c', flow)) :
    ∃ swept tuned watch, Swept c swept ∧ c' = { tuned with stallWatch := watch } ∧
      ((adjustIsDue c now = true ∧ swept.adjustReceiverQueue now 1 = some (tuned, flow)) ∨
        ∃ clock, tuned = { swept with lastAdjustAt := clock }) := by
  obtain ⟨reassembly, order, bytes, acks, dropped⟩ := sweepExpiredChunks_swept c now
  unfold timerTick at ticked
  rw [dropped, Option.map_eq_some_iff] at ticked
  obtain ⟨⟨tuned, tunedFlow⟩, adjusted, finished⟩ := ticked
  cases finished
  obtain ⟨watch, same⟩ := stallTick_eq tuned stallTimeout now
  exact ⟨_, tuned, watch, ⟨reassembly, order, bytes, [], rfl⟩, same, adjustTick_cases adjusted⟩

namespace ConsumerSide

def step (side : ConsumerSide) : SideOp → ConsumerSide
  | .subscribe req => side.subscribe req
  | .popMessage handle => (side.popMessage handle).1
  | .setPaused handle paused => side.setPaused handle paused
  | .flow handle permits => side.flow handle permits
  | .seek handle target => side.seek handle target
  | .closeConsumer handle => side.closeConsumer handle
  | .unsubscribe handle => side.unsubscribe handle
  | .initialFlow handle now => side.initialFlow handle now
  | .resubscribeConsumerInPlace handle => side.resubscribeConsumerInPlace handle
  | .resubscribeConsumerAfterSeek handle => side.resubscribeConsumerAfterSeek handle
  | .retryConsumerSubscribe handle => side.retryConsumerSubscribe handle
  | .setHandshakeState next => side.setHandshakeState next
  | .consumeConsumerSubscribeWaiterCompletion handle waiterId =>
    (side.consumeConsumerSubscribeWaiterCompletion handle waiterId).1
  | .consumeInitialConsumerSubscribeCompletion handle =>
    (side.consumeInitialConsumerSubscribeCompletion handle).1
  | .abandonConsumerSubscribeWaiter handle waiterId now =>
    side.abandonConsumerSubscribeWaiter handle waiterId now
  | .failConsumerSubscribe handle reason => side.failConsumerSubscribe handle reason
  | .reset => side.reset
  | .rebuildConsumer handle => side.rebuildConsumer handle
  | .timeoutConsumer stallTimeout handle now =>
    (side.timeoutConsumer stallTimeout handle now).getD side
  | .messageFrame dispatch => side.handleMessage single codecs dispatch
  | .successFrame requestId now => side.handleSuccess requestId now
  | .errorFrame requestId retried reason => side.handleError requestId retried reason
  | .closeConsumerFrame handle url => side.handleCloseConsumer handle url
  | .reachedEndOfTopicFrame handle => side.handleReachedEndOfTopic handle
  | .activeConsumerChangeFrame handle active now =>
    side.handleActiveConsumerChange handle active now

/-! ### The slot operations behind a connection operation -/

/-- Nothing, unless the operation names this slot. -/
def onlyAt (named handle : Nat) (ops : List SlotOp) : List SlotOp :=
  if named = handle then ops else []

/-- The re-subscribe of a slot with a stored request, when its consumer passes `eligible`. -/
def resubscribeOps (side : ConsumerSide) (handle : Nat) (eligible : Bool)
    (action : SubscribeAckAction) : List SlotOp :=
  if (side.consumerSubscribeRequests.lookup handle).isSome && eligible then
    [.subscribeSent side.nextRequestId action]
  else []

/-- A consumer that waits for its unsubscribe is not rebuilt. -/
def rebuildIsEligible (c : ConsumerState) : Bool :=
  match c.terminalOperation with
  | .unsubscribePending _ => false
  | _ => !c.closed

/-- What one operation does to the consumer `c` at `handle`. -/
def slotOps (side : ConsumerSide) (handle : Nat) (c : ConsumerState) : SideOp → List SlotOp
  | .subscribe _ => []
  | .popMessage named => onlyAt named handle [.popMessage]
  | .setPaused named paused => onlyAt named handle [.setPaused paused]
  | .flow named permits => onlyAt named handle [.addFlow permits]
  | .seek named _ => onlyAt named handle [.beginSeek side.nextRequestId]
  | .closeConsumer named =>
    onlyAt named handle
      (if c.terminalOperation = .opened then [.closeRequested side.nextRequestId] else [])
  | .unsubscribe named =>
    onlyAt named handle
      (if c.terminalOperation = .opened then [.unsubscribeRequested side.nextRequestId] else [])
  | .initialFlow named now => onlyAt named handle [.grantInitialFlow now]
  | .resubscribeConsumerInPlace _ => []
  | .resubscribeConsumerAfterSeek named =>
    onlyAt named handle
      (side.resubscribeOps named (decide (c.terminalOperation = .opened)) .notifyWaiter)
  | .retryConsumerSubscribe named =>
    onlyAt named handle (side.resubscribeOps named (!c.closed) .releaseFlow)
  | .setHandshakeState _ => []
  | .consumeConsumerSubscribeWaiterCompletion named waiterId =>
    onlyAt named handle
      (if side.state == .connected && c.subscribeWaiterId == some waiterId &&
          c.subscribeWaiterCompleted then [.completionConsumed]
      else [])
  | .consumeInitialConsumerSubscribeCompletion named =>
    onlyAt named handle
      (if side.state == .connected && c.subscribeWaiterId.isSome &&
          c.subscribeWaiterCompleted then [.completionConsumed]
      else [])
  | .abandonConsumerSubscribeWaiter named waiterId now =>
    onlyAt named handle
      (if c.subscribeWaiterId = some waiterId then
        .waiterAbandoned ::
          (if c.subscribeWaiterCompleted && side.state == .connected then
            [.grantInitialFlow now]
          else [])
      else [])
  | .failConsumerSubscribe named reason => onlyAt named handle [.subscribeFailed reason]
  | .reset => [.resetSession]
  | .rebuildConsumer named =>
    onlyAt named handle (side.resubscribeOps named (rebuildIsEligible c) .releaseFlow)
  | .timeoutConsumer stallTimeout named now => onlyAt named handle [.timerTick stallTimeout now]
  | .messageFrame dispatch =>
    onlyAt dispatch.cmd.consumerId handle
      (if isReplicatedSubscriptionMarker dispatch then [.recordMarkerConsumed]
      else [.deliver dispatch])
  | .successFrame requestId now =>
    match side.pendingRequests.lookup requestId with
    | some (.consumerSubscribe named) =>
      onlyAt named handle
        (.subscribeAcked requestId ::
          (if (c.subscribeAcked requestId).2 then [.grantInitialFlow now] else []))
    | some (.consumerSeek named) => onlyAt named handle [.seekAcked]
    | some (.consumerCloseForReattach named) =>
      onlyAt named handle
        (.zeroPermits :: .clearStallWatch ::
          side.resubscribeOps named c.reattachInPlaceIsEligible .releaseFlow)
    | some (.consumerClose named) => onlyAt named handle [.closeAcked requestId]
    | _ => []
  | .errorFrame requestId retried reason =>
    match side.pendingRequests.lookup requestId with
    | some (.consumerSubscribe named) =>
      onlyAt named handle
        (if c.awaitsSubscribe requestId && !retried then [.subscribeFailed reason] else [])
    | some (.consumerClose named) => onlyAt named handle [.closeAcked requestId]
    | some (.consumerUnsubscribe named) => onlyAt named handle [.unsubscribeRefused requestId]
    | _ => []
  | .closeConsumerFrame named url =>
    onlyAt named handle
      (.zeroPermits ::
        (if url.isNone then
          side.resubscribeOps named c.reattachInPlaceIsEligible .releaseFlow
        else []))
  | .reachedEndOfTopicFrame named => onlyAt named handle [.reachedEndOfTopic]
  | .activeConsumerChangeFrame named active now =>
    onlyAt named handle
      (.activeChange active :: (if needsReflow c active then [.grantInitialFlow now] else []))

/-- The reply forgets the consumer: it is unsubscribed, or was refused before it ever attached. -/
def drops (side : ConsumerSide) (handle : Nat) : SideOp → Bool
  | .successFrame requestId _ =>
    side.pendingRequests.lookup requestId == some (.consumerUnsubscribe handle) &&
      side.isUnsubscribing handle requestId
  | .errorFrame requestId _ _ =>
    side.pendingRequests.lookup requestId == some (.consumerSubscribe handle) &&
      (side.consumers.lookup handle).any
        fun c => c.awaitsSubscribe requestId && !c.hasEverAttached
  | _ => false

/-! ### What goes to the broker -/

end ConsumerSide

/-- A subscribe (`none`) or a flow command; no other command begins an attach or grants permits. -/
def ConsumerCommand.signal : ConsumerCommand → Option (Option CommandFlow)
  | .subscribe .. => some none
  | .flow command => some (some command)
  | _ => none

/-- The signals of an operation that the slot `handle` takes at `c`. -/
def SlotOp.signals (handle : Nat) (c : ConsumerState) : SlotOp → List (Option CommandFlow)
  | .subscribeSent _ _ => [none]
  | .grantInitialFlow now => (c.grantInitialFlow now).2.toList.map some
  | .addFlow permits => [some { consumerId := handle, messagePermits := permits }]
  | .deliver dispatch => (c.deliver single codecs dispatch).1.maybeFlow.2.toList.map some
  | .popMessage => c.popMessage.1.maybeFlow.2.toList.map some
  | .timerTick stallTimeout now => ((c.timerTick stallTimeout now).bind Prod.snd).toList.map some
  | _ => []

def slotSignals (handle : Nat) : ConsumerState → List SlotOp → List (Option CommandFlow)
  | _, [] => []
  | c, op :: rest =>
    op.signals single codecs handle c ++ slotSignals handle (slotStep single codecs c op) rest

theorem slotSignals_append (handle : Nat) (c : ConsumerState) (first second : List SlotOp) :
    slotSignals single codecs handle c (first ++ second) =
      slotSignals single codecs handle c first ++
        slotSignals single codecs handle (run (slotStep single codecs) c first) second := by
  induction first generalizing c with
  | nil => rfl
  | cons _ _ ih => simp [slotSignals, ih]

namespace ConsumerSide

def signals (side : ConsumerSide) : List (Option CommandFlow) :=
  side.staged.filterMap ConsumerCommand.signal

/-! ### The simulation -/

/-- `side'` is `side` after the consumer at `named`, if any, has taken `ops` and no other consumer
anything, with the signals of these operations staged. -/
structure Acts (side : ConsumerSide) (named : Nat) (ops : ConsumerState → List SlotOp)
    (side' : ConsumerSide) : Prop where
  lookup : ∀ handle, side'.consumers.lookup handle =
    (side.consumers.lookup handle).map fun c =>
      run (slotStep single codecs) c (onlyAt named handle (ops c))
  signals : ∀ c, side.consumers.lookup named = some c →
    side'.signals = side.signals ++ slotSignals single codecs named c (ops c)

/-- An operation is about one slot at most: it acts there as its slot operations, and stages what
these send. -/
def Relays (side : ConsumerSide) (op : SideOp) : Prop :=
  ∃ named ops, (∀ handle c, side.slotOps handle c op = onlyAt named handle (ops c)) ∧
    side.Acts single codecs named ops (side.step single codecs op)

variable {single codecs}

namespace Acts

variable {first second : ConsumerState → List SlotOp} {mid : ConsumerSide}

theorem refl (side : ConsumerSide) (named : Nat) :
    side.Acts single codecs named (fun _ => []) side where
  lookup handle := by simp [onlyAt]
  signals _ _ := (List.append_nil _).symm

theorem trans (earlier : side.Acts single codecs named first mid)
    (later : mid.Acts single codecs named second side') :
    side.Acts single codecs named
      (fun c => first c ++ second (run (slotStep single codecs) c (first c))) side' where
  lookup handle := by
    rw [later.lookup, earlier.lookup, Option.map_map]
    congr 1
    funext c
    by_cases same : named = handle <;> simp [onlyAt, same, run_append]
  signals c found := by
    have acted : mid.consumers.lookup named = some (run (slotStep single codecs) c (first c)) := by
      simp [earlier.lookup, found, onlyAt]
    rw [later.signals _ acted, earlier.signals c found, slotSignals_append, List.append_assoc]

theorem congr (acts : side.Acts single codecs named first side')
    (agree : ∀ c, side.consumers.lookup named = some c → first c = second c) :
    side.Acts single codecs named second side' where
  lookup handle := by
    rw [acts.lookup]
    cases found : side.consumers.lookup handle with
    | none => rfl
    | some c =>
      by_cases same : named = handle
      · subst same
        simp [agree c found]
      · simp [onlyAt, same]
  signals c found := agree c found ▸ acts.signals c found

theorem congr_at (acts : side.Acts single codecs named first side')
    (found : side.consumers.lookup named = some c) (agree : first c = second c) :
    side.Acts single codecs named second side' := by
  apply acts.congr
  intro c' found'
  cases found.symm.trans found'
  exact agree

theorem of_missing (missing : side.consumers.lookup named = none) :
    side.Acts single codecs named first side := by
  apply (refl side named).congr
  intro c found
  simp [missing] at found

/-- A change outside the consumers that stages no signal may come first. -/
theorem after (acts : mid.Acts single codecs named first side')
    (consumers : mid.consumers = side.consumers) (silent : mid.signals = side.signals) :
    side.Acts single codecs named first side' where
  lookup := consumers ▸ acts.lookup
  signals := silent ▸ consumers ▸ acts.signals

end Acts

theorem signals_stage (side : ConsumerSide) {command : ConsumerCommand}
    (unsignalled : command.signal = none) : (side.stage command).signals = side.signals := by
  simp [ConsumerSide.signals, stage, unsignalled]

/-- The operations change the consumer, and the flow command they send is staged. -/
theorem modifyConsumer_flows {ops : List SlotOp} {update : ConsumerState → ConsumerState}
    {flow : Option CommandFlow}
    (taken : ∀ c, side.consumers.lookup named = some c →
      update c = run (slotStep single codecs) c ops ∧
        slotSignals single codecs named c ops = flow.toList.map some) :
    side.Acts single codecs named (fun _ => ops)
      ((side.modifyConsumer named update).stageFlow flow) where
  lookup handle := by
    have consumers : ((side.modifyConsumer named update).stageFlow flow).consumers =
        side.consumers.modify named update := by
      cases flow <;> rfl
    rw [consumers]
    by_cases same : named = handle
    · subst same
      rw [Table.lookup_modify_self]
      cases found : side.consumers.lookup named with
      | none => rfl
      | some c => simp [onlyAt, (taken c found).1]
    · simp [Table.lookup_modify_ne _ _ (Ne.symm same), onlyAt, same]
  signals c found := by
    rw [(taken c found).2]
    cases flow <;>
      simp [ConsumerSide.signals, stageFlow, stage, modifyConsumer, ConsumerCommand.signal]

/-- The operations change the consumer and send nothing. -/
theorem modifyConsumer_acts (side : ConsumerSide) (named : Nat) (ops : List SlotOp)
    (silent : ∀ c, slotSignals single codecs named c ops = []) :
    side.Acts single codecs named (fun _ => ops)
      (side.modifyConsumer named fun c => run (slotStep single codecs) c ops) :=
  @modifyConsumer_flows _ _ _ _ ops _ none fun c _ => ⟨rfl, silent c⟩

/-- Replacing the consumer by what an operation makes of the one there is as applying it. -/
theorem replaceConsumer_acts {op : SlotOp} {flow : Option CommandFlow}
    (found : side.consumers.lookup named = some c)
    (sent : op.signals single codecs named c = flow.toList.map some) :
    side.Acts single codecs named (fun _ => [op])
      ((side.modifyConsumer named fun _ => slotStep single codecs c op).stageFlow flow) := by
  apply modifyConsumer_flows
  intro c' found'
  cases found.symm.trans found'
  exact ⟨rfl, (List.append_nil _).trans sent⟩

theorem emitCommandSubscribe_acts (side : ConsumerSide) (named : Nat) (req : SubscribeRequest)
    (resumeFrom : Option MessageId) (action : SubscribeAckAction) :
    side.Acts single codecs named (fun _ => [.subscribeSent side.nextRequestId action])
      (side.emitCommandSubscribe named req resumeFrom action) where
  lookup handle := by
    by_cases same : named = handle
    · subst same
      simp [emitCommandSubscribe, request, stage, modifyConsumer, Table.lookup_modify_self, onlyAt,
        slotStep]
    · simp [emitCommandSubscribe, request, stage, modifyConsumer,
        Table.lookup_modify_ne _ _ (Ne.symm same), onlyAt, same]
  signals _ _ := by
    simp [emitCommandSubscribe, ConsumerSide.signals, request, stage, modifyConsumer, slotSignals,
      SlotOp.signals, ConsumerCommand.signal]

theorem initialFlow_acts (side : ConsumerSide) (named now : Nat) :
    side.Acts single codecs named (fun _ => [.grantInitialFlow now])
      (side.initialFlow named now) := by
  unfold initialFlow
  cases found : side.consumers.lookup named with
  | none => exact .of_missing found
  | some c =>
    apply modifyConsumer_flows
    intro c' found'
    cases found.symm.trans found'
    exact ⟨rfl, List.append_nil _⟩

/-- A re-subscribe that is gated on the stored request and on the consumer's own state. -/
theorem resubscribe_acts {action : SubscribeAckAction}
    {eligible : ConsumerState → Bool} (resume : SubscribeRequest → ConsumerState → Option MessageId)
    (emits : ∀ req c, side.consumerSubscribeRequests.lookup named = some req →
      side.consumers.lookup named = some c →
      side' = if eligible c then side.emitCommandSubscribe named req (resume req c) action
        else side)
    (silent : side.consumerSubscribeRequests.lookup named = none ∨
      side.consumers.lookup named = none → side' = side) :
    side.Acts single codecs named
      (fun c => side.resubscribeOps named (eligible c) action) side' := by
  cases stored : side.consumerSubscribeRequests.lookup named with
  | none =>
    rw [silent (.inl stored)]
    apply (Acts.refl side named).congr
    intro c _
    simp [resubscribeOps, stored]
  | some req =>
    cases found : side.consumers.lookup named with
    | none =>
      rw [silent (.inr found)]
      exact .of_missing found
    | some c =>
      rw [emits req c stored found]
      by_cases passes : eligible c = true
      · rw [if_pos passes]
        apply (emitCommandSubscribe_acts side named req _ action).congr_at found
        simp [resubscribeOps, stored, passes]
      · rw [if_neg passes]
        apply (Acts.refl side named).congr_at found
        simp [resubscribeOps, passes]

theorem emitInPlaceConsumerResubscribe_acts (side : ConsumerSide) (named : Nat) :
    side.Acts single codecs named
      (fun c => side.resubscribeOps named c.reattachInPlaceIsEligible .releaseFlow)
      (side.emitInPlaceConsumerResubscribe named) := by
  apply resubscribe_acts reattachStartMessageId
  · intro req c stored found
    simp [emitInPlaceConsumerResubscribe, stored, found]
  · rintro (stored | found) <;> simp [emitInPlaceConsumerResubscribe, *]

/-- A change outside the consumers that sends nothing. -/
theorem exists_acts_nothing (consumers : side'.consumers = side.consumers)
    (silent : side'.signals = side.signals) :
    ∃ named ops, (∀ handle (c : ConsumerState), [] = onlyAt named handle (ops c)) ∧
      side.Acts single codecs named ops side' :=
  ⟨0, fun _ => [], fun _ _ => (ite_self _).symm, (Acts.refl side' 0).after consumers silent⟩

section

variable (side : ConsumerSide) (named : Nat)

theorem resubscribeConsumerAfterSeek_relays :
    side.Relays single codecs (.resubscribeConsumerAfterSeek named) := by
  refine ⟨named, _, fun _ _ => rfl, resubscribe_acts (fun _ _ => none) ?_ ?_⟩
  · intro req c stored found
    simp [step, resubscribeConsumerAfterSeek, stored, found]
  · rintro (stored | found) <;> simp [step, resubscribeConsumerAfterSeek, *]

theorem retryConsumerSubscribe_relays :
    side.Relays single codecs (.retryConsumerSubscribe named) := by
  refine ⟨named, _, fun _ _ => rfl, resubscribe_acts reattachStartMessageId ?_ ?_⟩
  · intro req c stored found
    cases closed : c.closed <;> simp [step, retryConsumerSubscribe, stored, found, closed]
  · rintro (stored | found) <;> simp [step, retryConsumerSubscribe, *]

theorem rebuildConsumer_relays : side.Relays single codecs (.rebuildConsumer named) := by
  refine ⟨named, _, fun _ _ => rfl, resubscribe_acts reattachStartMessageId ?_ ?_⟩
  · intro req c stored found
    cases operation : c.terminalOperation <;> cases closed : c.closed <;>
      simp [step, rebuildConsumer, rebuildIsEligible, stored, found, operation, closed]
  · rintro (stored | found) <;> simp [step, rebuildConsumer, *]

theorem resubscribeConsumerInPlace_relays :
    side.Relays single codecs (.resubscribeConsumerInPlace named) := by
  have kept : (side.resubscribeConsumerInPlace named).consumers = side.consumers ∧
      (side.resubscribeConsumerInPlace named).signals = side.signals := by
    unfold resubscribeConsumerInPlace
    split
    · split
      · exact ⟨rfl, rfl⟩
      · split
        · exact ⟨rfl, rfl⟩
        · exact ⟨rfl, signals_stage _ rfl⟩
    · exact ⟨rfl, rfl⟩
  exact exists_acts_nothing kept.1 kept.2

theorem closeConsumerFrame_relays (url : Option String) :
    side.Relays single codecs (.closeConsumerFrame named url) := by
  refine ⟨named, _, fun _ _ => rfl, ?_⟩
  have zeroed := @modifyConsumer_acts single codecs side named [.zeroPermits] fun _ => rfl
  cases url with
  | none => exact zeroed.trans (emitInPlaceConsumerResubscribe_acts _ named)
  | some => exact zeroed

theorem popMessage_relays : side.Relays single codecs (.popMessage named) := by
  refine ⟨named, _, fun _ _ => rfl, ?_⟩
  rw [step, popMessage]
  cases found : side.consumers.lookup named with
  | none => exact .of_missing found
  | some => exact @replaceConsumer_acts _ _ _ single codecs .popMessage _ found rfl

theorem timeoutConsumer_relays (stallTimeout : Option Nat) (now : Nat) :
    side.Relays single codecs (.timeoutConsumer stallTimeout named now) := by
  refine ⟨named, _, fun _ _ => rfl, ?_⟩
  rw [step, timeoutConsumer]
  cases found : side.consumers.lookup named with
  | none => exact .of_missing found
  | some c =>
    have replaced (flow : Option CommandFlow) :=
      @replaceConsumer_acts _ _ _ single codecs (.timerTick stallTimeout now) flow found
    cases ticked : c.timerTick stallTimeout now with
    | none =>
      -- The tick panics, and the consumer stays as it was.
      refine ⟨fun handle => ?_, fun c' found' => ?_⟩
      · by_cases same : named = handle
        · subst same
          simp [found, onlyAt, slotStep, ticked]
        · simp [onlyAt, same, ticked]
      · cases found.symm.trans found'
        simp [slotSignals, SlotOp.signals, ticked]
    | some =>
      simp only [slotStep, SlotOp.signals, ticked, bind, Option.bind, Option.getD, Option.map]
        at replaced ⊢
      exact replaced _ rfl

end

/-- A change that the consumer's own state decides on. -/
theorem conditional_acts {op : SlotOp} {condition : ConsumerState → Prop} [DecidablePred condition]
    (found : side.consumers.lookup named = some c)
    (changed : condition c → side.Acts single codecs named (fun _ => [op]) side')
    (kept : ¬ condition c → side' = side) :
    side.Acts single codecs named (fun c => if condition c then [op] else []) side' := by
  by_cases holds : condition c
  · apply (changed holds).congr_at found
    simp [holds]
  · rw [kept holds]
    apply (Acts.refl side named).congr_at found
    simp [holds]

section

variable (side : ConsumerSide) (named : Nat)

theorem endConsumer_acts (op : Nat → SlotOp) {kind : PendingRequestKind}
    {command : Nat → ConsumerCommand} (unsignalled : ∀ requestId, (command requestId).signal = none)
    (silent : ∀ c, slotSignals single codecs named c [op side.nextRequestId] = []) :
    side.Acts single codecs named
      (fun c => if c.terminalOperation = .opened then [op side.nextRequestId] else [])
      (side.endConsumer named kind (fun requestId c => slotStep single codecs c (op requestId))
        command) := by
  unfold endConsumer
  cases found : side.consumers.lookup named with
  | none => exact .of_missing found
  | some c =>
    apply conditional_acts found
    · intro opened
      have requested := modifyConsumer_acts (side.request kind).1 named _ silent
      simp only [opened, if_true]
      refine ⟨requested.lookup, fun c found => ?_⟩
      rw [signals_stage _ (unsignalled _)]
      exact requested.signals c found
    · intro closing
      simp [closing]

/-- The two ways to consume a subscribe completion differ in the waiters they accept. -/
theorem completionConsumed_acts {accepts : ConsumerState → Bool} :
    side.Acts single codecs named (fun c => if accepts c then [.completionConsumed] else [])
      (match side.consumers.lookup named with
      | none => (side, false)
      | some c =>
        if accepts c then (side.modifyConsumer named completionConsumed, true)
        else (side, false)).1 := by
  cases found : side.consumers.lookup named with
  | none => exact .of_missing found
  | some c =>
    apply conditional_acts found
    · intro completed
      simp only [completed, if_true]
      exact modifyConsumer_acts side named [.completionConsumed] fun _ => rfl
    · intro waiting
      simp only [waiting]
      rfl

/-- A change of the consumer that its state may follow with an initial flow. -/
theorem thenInitialFlow_acts {now : Nat} {op : SlotOp} (due : ConsumerState → Bool)
    (found : side.consumers.lookup named = some c)
    (updated : side.Acts single codecs named (fun _ => [op]) side') :
    side.Acts single codecs named
      (fun c => op :: if due c then [.grantInitialFlow now] else [])
      (if due c then side'.initialFlow named now else side') := by
  by_cases flows : due c = true
  · rw [if_pos flows]
    apply (updated.trans (initialFlow_acts _ named now)).congr_at found
    simp [flows]
  · rw [if_neg flows]
    apply updated.congr_at found
    simp [flows]

theorem abandonConsumerSubscribeWaiter_relays (waiterId now : Nat) :
    side.Relays single codecs (.abandonConsumerSubscribeWaiter named waiterId now) := by
  refine ⟨named, _, fun _ _ => rfl, ?_⟩
  rw [step, abandonConsumerSubscribeWaiter]
  cases found : side.consumers.lookup named with
  | none => exact .of_missing found
  | some c =>
    by_cases waits : c.subscribeWaiterId = some waiterId
    · simp only [waits, ne_eq, not_true_eq_false, if_false]
      apply (thenInitialFlow_acts side named
        (fun c => c.subscribeWaiterCompleted && side.state == .connected) found
        (modifyConsumer_acts side named [.waiterAbandoned] fun _ => rfl)).congr_at found
      simp [waits]
    · simp only [waits, ne_eq, not_false_eq_true, if_true]
      apply (Acts.refl side named).congr_at found
      simp [waits]

theorem activeConsumerChangeFrame_relays (active : Bool) (now : Nat) :
    side.Relays single codecs (.activeConsumerChangeFrame named active now) := by
  refine ⟨named, _, fun _ _ => rfl, ?_⟩
  rw [step, handleActiveConsumerChange]
  cases found : side.consumers.lookup named with
  | none => exact .of_missing found
  | some =>
    exact thenInitialFlow_acts side named (fun c => needsReflow c active) found
      (modifyConsumer_acts side named [.activeChange active] fun _ => rfl)

theorem messageFrame_relays (d : Dispatch) : side.Relays single codecs (.messageFrame d) := by
  refine ⟨d.cmd.consumerId, _, fun _ _ => rfl, ?_⟩
  rw [step, handleMessage]
  by_cases marker : isReplicatedSubscriptionMarker d = true
  · simp only [marker, if_true]
    exact modifyConsumer_acts side _ [.recordMarkerConsumed] fun _ => rfl
  · simp only [marker]
    cases found : side.consumers.lookup d.cmd.consumerId with
    | none => exact .of_missing found
    | some => exact @replaceConsumer_acts _ _ _ single codecs (.deliver d) _ found rfl

theorem successFrame_relays (requestId now : Nat)
    (kept : ∀ handle, side.drops handle (.successFrame requestId now) = false) :
    side.Relays single codecs (.successFrame requestId now) := by
  -- The reply's request is dropped before it is handled; no slot operation reads that table.
  let rest := { side with pendingRequests := side.pendingRequests.erase requestId }
  have modified := @modifyConsumer_acts single codecs rest
  unfold Relays
  simp only [step, handleSuccess, slotOps]
  cases pending : side.pendingRequests.lookup requestId with
  | none => exact exists_acts_nothing rfl rfl
  | some kind =>
    cases kind with
    | consumerSubscribe named =>
      refine ⟨named, _, fun _ _ => rfl, (?_ : rest.Acts _ _ _ _ _).after rfl rfl⟩
      dsimp only
      cases found : side.consumers.lookup named with
      | none => exact .of_missing found
      | some =>
        exact thenInitialFlow_acts rest named (fun c => (c.subscribeAcked requestId).2) found
          (modified named [.subscribeAcked requestId] fun _ => rfl)
    | consumerSeek named =>
      exact ⟨named, _, fun _ _ => rfl, (modified named [.seekAcked] fun _ => rfl).after rfl rfl⟩
    | consumerClose named =>
      exact ⟨named, _, fun _ _ => rfl,
        (modified named [.closeAcked requestId] fun _ => rfl).after rfl rfl⟩
    | consumerCloseForReattach named =>
      refine ⟨named, _, fun _ _ => rfl, (?_ : rest.Acts _ _ _ _ _).after rfl rfl⟩
      exact (modified named [.zeroPermits, .clearStallWatch] fun _ => rfl).trans
        (emitInPlaceConsumerResubscribe_acts _ named)
    | consumerUnsubscribe named =>
      have kept := kept named
      simp only [drops, isUnsubscribing, pending, beq_self_eq_true, Bool.true_and] at kept
      simp only [isUnsubscribing, kept]
      exact exists_acts_nothing rfl rfl

theorem errorFrame_relays (requestId : Nat) (retried : Bool) (reason : String)
    (kept : ∀ handle, side.drops handle (.errorFrame requestId retried reason) = false) :
    side.Relays single codecs (.errorFrame requestId retried reason) := by
  let rest := { side with pendingRequests := side.pendingRequests.erase requestId }
  have modified := @modifyConsumer_acts single codecs rest
  unfold Relays
  simp only [step, handleError, slotOps]
  cases pending : side.pendingRequests.lookup requestId with
  | none => exact exists_acts_nothing rfl rfl
  | some kind =>
    cases kind with
    | consumerSubscribe named =>
      refine ⟨named, _, fun _ _ => rfl, (?_ : rest.Acts _ _ _ _ _).after rfl rfl⟩
      dsimp only
      cases found : side.consumers.lookup named with
      | none => exact .of_missing found
      | some c =>
        have attached : c.awaitsSubscribe requestId = true → c.hasEverAttached = true := by
          simpa [drops, pending, found] using kept named
        have failed := modified named [.subscribeFailed reason] fun _ => rfl
        refine conditional_acts (found : rest.consumers.lookup named = some c) ?_ ?_
        · rw [Bool.and_eq_true, Bool.not_eq_true']
          rintro ⟨awaits, spent⟩
          simp only [awaits, attached awaits, spent]
          exact ⟨failed.lookup, failed.signals⟩
        · intro stands
          cases awaits : c.awaitsSubscribe requestId <;> simp_all [rest]
    | consumerClose named =>
      exact ⟨named, _, fun _ _ => rfl,
        (modified named [.closeAcked requestId] fun _ => rfl).after rfl rfl⟩
    | consumerUnsubscribe named =>
      exact ⟨named, _, fun _ _ => rfl,
        (modified named [.unsubscribeRefused requestId] fun _ => rfl).after rfl rfl⟩
    | _ => exact exists_acts_nothing rfl rfl

end

theorem subscribe_lookup (side : ConsumerSide) (req : SubscribeRequest) (handle : Nat) :
    (side.subscribe req).consumers.lookup handle =
      if side.nextConsumerId = handle then
        some ((newConsumer side.nextConsumerId req).subscribeSent side.nextRequestId .notifyWaiter)
      else side.consumers.lookup handle := by
  have emitted : (side.subscribe req).consumers.lookup handle = _ :=
    (@emitCommandSubscribe_acts default default _ side.nextConsumerId req req.startMessageId
      .notifyWaiter).lookup handle
  rw [emitted]
  by_cases same : side.nextConsumerId = handle
  · subst same
    simp [onlyAt, slotStep]
  · simp [onlyAt, same, AList.lookup_insert_ne (Ne.symm same)]

theorem subscribe_lookup_self (side : ConsumerSide) (req : SubscribeRequest) :
    (side.subscribe req).consumers.lookup side.nextConsumerId =
      some ((newConsumer side.nextConsumerId req).subscribeSent side.nextRequestId
        .notifyWaiter) := by
  rw [subscribe_lookup, if_pos rfl]

/-- Every operation but a subscribe, which is about a new slot, a reply that forgets one, and a
reset, which is about all of them and drops what was staged. -/
theorem step_relays (side : ConsumerSide) {op : SideOp} (old : op.subscribes = false)
    (kept : ∀ handle, side.drops handle op = false) (running : op ≠ .reset) :
    side.Relays single codecs op := by
  have modified := @modifyConsumer_acts single codecs side
  cases op with
  | subscribe => cases old
  | reset => exact absurd rfl running
  | popMessage => exact popMessage_relays side _
  | setPaused named paused =>
    exact ⟨named, _, fun _ _ => rfl, modified named [.setPaused paused] fun _ => rfl⟩
  | flow named permits =>
    exact ⟨named, _, fun _ _ => rfl, @modifyConsumer_flows _ _ _ _ [.addFlow permits]
      _ (some { consumerId := named, messagePermits := permits }) fun _ _ => ⟨rfl, rfl⟩⟩
  | seek named =>
    exact ⟨named, _, fun _ _ => rfl, (modifyConsumer_acts _ named
      [.beginSeek side.nextRequestId] fun _ => rfl).after rfl (signals_stage _ rfl)⟩
  | closeConsumer named =>
    exact ⟨named, _, fun _ _ => rfl,
      endConsumer_acts side named .closeRequested (fun _ => rfl) fun _ => rfl⟩
  | unsubscribe named =>
    exact ⟨named, _, fun _ _ => rfl,
      endConsumer_acts side named .unsubscribeRequested (fun _ => rfl) fun _ => rfl⟩
  | initialFlow named now => exact ⟨named, _, fun _ _ => rfl, initialFlow_acts side named now⟩
  | resubscribeConsumerInPlace => exact resubscribeConsumerInPlace_relays side _
  | resubscribeConsumerAfterSeek => exact resubscribeConsumerAfterSeek_relays side _
  | retryConsumerSubscribe => exact retryConsumerSubscribe_relays side _
  | setHandshakeState => exact exists_acts_nothing rfl rfl
  | consumeConsumerSubscribeWaiterCompletion named
  | consumeInitialConsumerSubscribeCompletion named =>
    exact ⟨named, _, fun _ _ => rfl, completionConsumed_acts side named⟩
  | abandonConsumerSubscribeWaiter => exact abandonConsumerSubscribeWaiter_relays side _ _ _
  | failConsumerSubscribe named reason =>
    have failed := modified named [.subscribeFailed reason] fun _ => rfl
    exact ⟨named, _, fun _ _ => rfl, failed.lookup, failed.signals⟩
  | rebuildConsumer => exact rebuildConsumer_relays side _
  | timeoutConsumer => exact timeoutConsumer_relays side _ _ _
  | messageFrame => exact messageFrame_relays side _
  | successFrame => exact successFrame_relays side _ _ kept
  | errorFrame => exact errorFrame_relays side _ _ _ kept
  | closeConsumerFrame => exact closeConsumerFrame_relays side _ _
  | reachedEndOfTopicFrame named =>
    exact ⟨named, _, fun _ _ => rfl, modified named [.reachedEndOfTopic] fun _ => rfl⟩
  | activeConsumerChangeFrame => exact activeConsumerChangeFrame_relays side _ _ _

/-- The operation leaves the slot to its consumer: it neither hands it to a new one (handles wrap
around at `2 ^ 64`) nor forgets it. -/
def KeepsSlot (handle : Nat) (side : ConsumerSide) (op : SideOp) : Prop :=
  (op.subscribes → side.nextConsumerId ≠ handle) ∧ side.drops handle op = false

instance (handle : Nat) (side : ConsumerSide) : DecidablePred (KeepsSlot handle side) :=
  fun _ => inferInstanceAs (Decidable (_ ∧ _))

/-- The simulation: a connection operation acts on an established slot as its slot operations. -/
theorem lookup_step (side : ConsumerSide) (op : SideOp) (handle : Nat)
    (keeps : KeepsSlot handle side op) :
    (side.step single codecs op).consumers.lookup handle =
      (side.consumers.lookup handle).map fun c =>
        run (slotStep single codecs) c (side.slotOps handle c op) := by
  obtain ⟨established, stays⟩ := keeps
  cases old : op.subscribes with
  | true =>
    cases op with
    | subscribe req =>
      rw [step, subscribe_lookup, if_neg (established old)]
      simp [slotOps]
    | _ => cases old
  | false =>
    by_cases kept : ∀ handle, side.drops handle op = false
    · by_cases running : op = .reset
      · subst running
        exact Table.lookup_mapValues side.consumers handle resetSession
      · obtain ⟨named, ops, about, acts⟩ := @step_relays single codecs side op old kept running
        rw [acts.lookup]
        simp only [about]
    · -- The reply forgets another consumer.
      simp only [not_forall, Bool.not_eq_false] at kept
      obtain ⟨other, forgotten⟩ := kept
      have differs : handle ≠ other := by
        rintro rfl
        cases stays.symm.trans forgotten
      cases op with
      | successFrame requestId now =>
        simp only [drops, isUnsubscribing, Bool.and_eq_true, beq_iff_eq] at forgotten
        simp [step, handleSuccess, isUnsubscribing, slotOps, forgotten, dropConsumer,
          AList.lookup_erase_ne differs]
      | errorFrame requestId retried reason =>
        simp only [drops, Bool.and_eq_true, beq_iff_eq, Option.any_eq_true] at forgotten
        obtain ⟨pending, c, found, awaits, fresh⟩ := forgotten
        simp_all [step, handleError, slotOps, dropConsumer, AList.lookup_erase_ne differs, onlyAt,
          Ne.symm differs]
      | _ => cases forgotten

/-! ### Whole runs of one slot -/

variable (single codecs)

/-- Every primitive operation a run of the connection performs on one slot, in order. -/
def slotTrace (handle : Nat) : ConsumerSide → List SideOp → List SlotOp
  | _, [] => []
  | side, op :: rest =>
    ((side.consumers.lookup handle).elim [] fun c => side.slotOps handle c op) ++
      slotTrace handle (side.step single codecs op) rest

theorem run_slotTrace {handle : Nat}
    {ops : List SideOp} (found : side.consumers.lookup handle = some c)
    (kept : Machine.Guarded (step single codecs) (KeepsSlot handle) side ops) :
    (run (step single codecs) side ops).consumers.lookup handle =
      some (run (slotStep single codecs) c (slotTrace single codecs handle side ops)) := by
  induction ops generalizing side c with
  | nil => exact found
  | cons op _ ih =>
    obtain ⟨keeps, remaining⟩ := kept
    have stepped : (side.step single codecs op).consumers.lookup handle =
        some (run (slotStep single codecs) c (side.slotOps handle c op)) := by
      rw [lookup_step side op handle keeps, found]
      rfl
    rw [run_cons, ih stepped remaining, slotTrace, found, run_append]
    rfl

end ConsumerSide

end Magnetar.Proto.Connection
