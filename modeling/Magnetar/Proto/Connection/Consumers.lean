import Magnetar.Library.Table
import Magnetar.Proto.Consumer.Deliver

/-!
Contract: the consumer operations of a connection.

Owns: the part of a connection that its consumers' flow control touches (the consumers, their
subscribe requests, the pending requests and the commands staged for the broker), the calls the
application makes and the broker commands that act on a consumer.

Does not own: the bytes of a staged command, events, wakers and acknowledgements.  A reply to a
request outside this part leaves it unchanged.
-/

namespace Magnetar.Proto.Connection

open Library Pb Consumer ReceiverQueue

inductive HandshakeState where
  | uninitialized
  | connectSent
  | connected
  | authChallenging
  | closing
  | closed
  | failed
  deriving DecidableEq, Repr

inductive SubType where
  | exclusive
  | shared
  | failover
  | keyShared
  deriving DecidableEq, Repr

/-- The subscribe parameters the client acts on; the rest it copies into the command. -/
structure SubscribeRequest where
  topic : String
  subscription : String
  subType : SubType := .exclusive
  receiverQueueSize : Nat := defaultReceiverQueueSize
  receiverQueuePolicy : Option ReceiverQueuePolicy := none
  receiverQueueAdjustInterval : Option Nat := none
  durable : Bool := true
  startMessageId : Option MessageId := none
  maxRedeliverCount : Nat := 0
  ackTimeout : Option Nat := none
  ackTimeoutBackoff : Option (Nat → Nat) := none
  maxPendingChunkedMessage : Nat := 10
  autoAckOldestChunkedMessageOnQueueFull : Bool := false
  expireTimeOfIncompleteChunkedMessage : Option Nat := some (60 * 1000000000)

inductive PendingRequestKind where
  | consumerSubscribe (handle : Nat)
  | consumerSeek (handle : Nat)
  | consumerClose (handle : Nat)
  | consumerCloseForReattach (handle : Nat)
  | consumerUnsubscribe (handle : Nat)
  deriving DecidableEq, Repr

inductive SeekTarget where
  | messageId (position : MessageId)
  | publishTime (time : Nat)
  deriving DecidableEq, Repr

inductive ConsumerCommand where
  | subscribe (consumerId requestId : Nat) (topic subscription : String) (subType : SubType)
      (durable : Bool) (startMessageId : Option MessageId)
  | flow (command : CommandFlow)
  | seek (consumerId requestId : Nat) (target : SeekTarget)
  | closeConsumer (consumerId requestId : Nat)
  | unsubscribe (consumerId requestId : Nat)
  deriving DecidableEq, Repr

inductive SubscribeAckAction where
  | notifyWaiter
  | releaseFlow
  deriving DecidableEq, Repr

structure ConsumerSide where
  state : HandshakeState := .uninitialized
  consumers : Table Nat ConsumerState := ∅
  consumerSubscribeRequests : Table Nat SubscribeRequest := ∅
  pendingRequests : Table Nat PendingRequestKind := ∅
  nextRequestId : Nat := 0
  nextConsumerId : Nat := 0
  staged : List ConsumerCommand := []

namespace ConsumerSide

variable (side : ConsumerSide)

def stage (command : ConsumerCommand) : ConsumerSide :=
  { side with staged := side.staged ++ [command] }

def stageFlow (flow : Option CommandFlow) : ConsumerSide :=
  match flow with
  | some flow => side.stage (.flow flow)
  | none => side

def modifyConsumer (handle : Nat) (update : ConsumerState → ConsumerState) : ConsumerSide :=
  { side with consumers := side.consumers.modify handle update }

/-- Reserve a request id and remember what it is for. -/
def request (kind : PendingRequestKind) : ConsumerSide × Nat :=
  ({ side with
      nextRequestId := (side.nextRequestId + 1) % 2 ^ 64
      pendingRequests := side.pendingRequests.insert side.nextRequestId kind },
    side.nextRequestId)

end ConsumerSide

end Magnetar.Proto.Connection

namespace Magnetar.Proto.Consumer.ConsumerState

open Connection Pb

/-! ### What a connection operation does to one consumer -/

variable (c : ConsumerState) (requestId : Nat)

/-- Record that a subscribe went out: the attach it starts owes one initial flow. -/
def subscribeSent (action : SubscribeAckAction) : ConsumerState :=
  let c := { c with initialGrantDue := true }
  if action = .notifyWaiter then
    { c with
      subscribeWaiterId := some requestId
      subscribeWaiterRequest := some requestId
      subscribeWaiterCompleted := false
      flowOnSubscribeAck := false
      flowOnSubscribeAckRequest := none }
  else if c.subscribeWaiterId.isSome then
    -- A waiting caller keeps its claim on the grant across a driver's retry.
    { c with
      subscribeWaiterRequest := some requestId
      subscribeWaiterCompleted := false
      flowOnSubscribeAck := false
      flowOnSubscribeAckRequest := none }
  else
    { c with flowOnSubscribeAck := true, flowOnSubscribeAckRequest := some requestId }

/-- Whether this attach has not had its grant yet, or has drained it with no way to refill. -/
def owesInitialFlow : Bool :=
  c.initialGrantDue || c.grantedPermits == 0 || c.isFlowStarved

/-- The grant of `Connection::initial_flow`, made at most once per attach. -/
def grantInitialFlow (now : Nat) : ConsumerState × Option CommandFlow :=
  if c.owesInitialFlow then
    let (c, flow) := c.initialFlow
    ((c.armAdjustClock now).armStallWatch now, some flow)
  else (c, none)

/-- The broker dropped its side of the consumer: no permit it held is valid any more. -/
def zeroPermits : ConsumerState :=
  { c with grantedPermits := 0, permitBalance := 0, consumedSinceFlow := 0 }

def resetSession : ConsumerState :=
  { c.zeroPermits with
    subscribeWaiterCompleted := false
    queue := []
    pendingSeek := none
    deadLetterPending := []
    batchAckTracker := ∅
    -- With the session, a close in flight resolves as lost, and an unsubscribe is called off.
    terminalOperation :=
      match c.terminalOperation with
      | .pending requestId => .complete (some requestId)
      | .unsubscribePending _ => .opened
      | operation => operation }

def reattachInPlaceIsEligible : Bool :=
  !(c.closed || c.terminalOperation != .opened || c.terminalFailure.isSome ||
    c.pendingSeek.isSome || c.flowOnSubscribeAck)

/-- The subscribe was acked: whether a caller waits for it, and whether the flow is due now. -/
def subscribeAcked : ConsumerState × Bool :=
  let waiterId := if c.subscribeWaiterRequest = some requestId then c.subscribeWaiterId else none
  let flowNow := c.flowOnSubscribeAck &&
    c.flowOnSubscribeAckRequest.all fun active => active == requestId
  ({ c with
      subscribeWaiterCompleted :=
        c.subscribeWaiterCompleted || decide (c.subscribeWaiterRequest = some requestId)
      subscribeWaiterRequest := if waiterId.isSome then none else c.subscribeWaiterRequest
      flowOnSubscribeAck := if flowNow then false else c.flowOnSubscribeAck
      flowOnSubscribeAckRequest := if flowNow then none else c.flowOnSubscribeAckRequest
      hasEverAttached := c.hasEverAttached || waiterId.isSome || flowNow },
    flowNow)

/-- The request is the one whose reply settles the current attach. -/
def awaitsSubscribe : Bool :=
  c.subscribeWaiterRequest == some requestId || (c.subscribeAcked requestId).2

def closeAcked : ConsumerState :=
  { c with
    terminalOperation :=
      if c.terminalOperation = .pending requestId then .complete (some requestId)
      else c.terminalOperation }

def closeRequested : ConsumerState :=
  { c with terminalOperation := .pending requestId, closed := true }

def unsubscribeRequested : ConsumerState :=
  { c with terminalOperation := .unsubscribePending requestId }

def unsubscribeRefused : ConsumerState :=
  { c with
    terminalOperation :=
      if c.terminalOperation = .unsubscribePending requestId then .opened
      else c.terminalOperation }

/-- The caller of a subscribe has seen that it was acked. -/
def completionConsumed : ConsumerState :=
  { c with subscribeWaiterId := none, subscribeWaiterCompleted := false }

/-- The caller of a subscribe went away; the driver takes over the grant it was owed. -/
def waiterAbandoned : ConsumerState :=
  { c with
    subscribeWaiterRequest := none
    subscribeWaiterId := none
    subscribeWaiterCompleted := false
    flowOnSubscribeAck := c.flowOnSubscribeAck || c.subscribeWaiterRequest.isSome
    flowOnSubscribeAckRequest := c.subscribeWaiterRequest.or c.flowOnSubscribeAckRequest }

/-- A subscribe that failed for good: the consumer keeps its queue and loses its permits. -/
def subscribeFailed (reason : String) : ConsumerState :=
  { c with
    terminalFailure := some reason
    grantedPermits := 0
    permitBalance := 0
    manualFlowPermits := 0 }

/-- The sizing part of a timer tick: a due adjustment runs, an unset clock starts. -/
def adjustTick (now : Nat) : Option (ConsumerState × Option CommandFlow) :=
  match c.nextAdjustDeadline with
  | some deadline => if now ≥ deadline then c.adjustReceiverQueue now 1 else some (c, none)
  | none => some (c.armAdjustClock now, none)

def stallTick (stallTimeout : Option Nat) (now : Nat) : ConsumerState :=
  match stallTimeout with
  | some window => (c.pollStall window now).1
  | none => c

/-- The consumer's part of a timer tick.  `none` when the sizing policy panics. -/
def timerTick (stallTimeout : Option Nat) (now : Nat) :
    Option (ConsumerState × Option CommandFlow) :=
  let swept : ConsumerState := { c.sweepExpiredChunks now with chunkAutoAckPending := [] }
  (swept.adjustTick now).map fun (ticked, flow) => (ticked.stallTick stallTimeout now, flow)

end Magnetar.Proto.Consumer.ConsumerState

namespace Magnetar.Proto.Connection

open Pb External Consumer ReceiverQueue

namespace ConsumerSide

/-! ### Attaching -/

variable (side : ConsumerSide) (handle : Nat) (req : SubscribeRequest)

def emitCommandSubscribe (resumeFrom : Option MessageId) (action : SubscribeAckAction) :
    ConsumerSide :=
  let (side, requestId) := side.request (.consumerSubscribe handle)
  (side.stage (.subscribe handle requestId req.topic req.subscription req.subType req.durable
    resumeFrom)).modifyConsumer handle fun c => c.subscribeSent requestId action

def newConsumer : ConsumerState :=
  { ConsumerState.withPolicy handle req.topic req.subscription
      (req.receiverQueuePolicy.getD (fixed req.receiverQueueSize))
      req.receiverQueueAdjustInterval with
    maxRedeliverCount := req.maxRedeliverCount
    unackedTracker := req.ackTimeout.map fun timeout =>
      { handle := handle, ackTimeout := timeout, backoff := req.ackTimeoutBackoff }
    maxPendingChunkedMessage := req.maxPendingChunkedMessage
    autoAckOldestChunkedMessageOnQueueFull := req.autoAckOldestChunkedMessageOnQueueFull
    expireTimeOfIncompleteChunkedMessage := req.expireTimeOfIncompleteChunkedMessage }

def subscribe : ConsumerSide :=
  let handle := side.nextConsumerId
  { side with
    nextConsumerId := (handle + 1) % 2 ^ 64
    consumers := side.consumers.insert handle (newConsumer handle req)
    consumerSubscribeRequests := side.consumerSubscribeRequests.insert handle req
    }.emitCommandSubscribe handle req req.startMessageId .notifyWaiter

/-- An established durable subscription resumes from the broker's own cursor. -/
def reattachStartMessageId (c : ConsumerState) : Option MessageId :=
  if req.durable && c.hasEverAttached then none else req.startMessageId

def initialFlow (now : Nat) : ConsumerSide :=
  match side.consumers.lookup handle with
  | none => side
  | some c =>
    (side.modifyConsumer handle fun c => (c.grantInitialFlow now).1).stageFlow
      (c.grantInitialFlow now).2

def emitInPlaceConsumerResubscribe : ConsumerSide :=
  match side.consumerSubscribeRequests.lookup handle, side.consumers.lookup handle with
  | some req, some c =>
    if c.reattachInPlaceIsEligible then
      side.emitCommandSubscribe handle req (reattachStartMessageId req c) .releaseFlow
    else side
  | _, _ => side

def consumerCloseForReattachIsPending : Bool :=
  side.pendingRequests.entries.any fun entry => entry.2 == .consumerCloseForReattach handle

/-- Ask the broker to drop the consumer's slot; the re-subscribe follows on its `Success`. -/
def resubscribeConsumerInPlace : ConsumerSide :=
  match side.consumerSubscribeRequests.lookup handle, side.consumers.lookup handle with
  | some req, some c =>
    if req.subType = .failover || !req.durable then side
    else if !c.reattachInPlaceIsEligible || side.consumerCloseForReattachIsPending handle then side
    else
      let (side, requestId) := side.request (.consumerCloseForReattach handle)
      side.stage (.closeConsumer handle requestId)
  | _, _ => side

def completeConsumerCloseForReattach : ConsumerSide :=
  (side.modifyConsumer handle fun c => c.zeroPermits.clearStallWatch).emitInPlaceConsumerResubscribe
    handle

def resubscribeConsumerAfterSeek : ConsumerSide :=
  match side.consumerSubscribeRequests.lookup handle, side.consumers.lookup handle with
  | some req, some c =>
    if c.terminalOperation = .opened then
      side.emitCommandSubscribe handle req none .notifyWaiter
    else side
  | _, _ => side

def retryConsumerSubscribe : ConsumerSide :=
  match side.consumerSubscribeRequests.lookup handle, side.consumers.lookup handle with
  | some req, some c =>
    if c.closed then side
    else side.emitCommandSubscribe handle req (reattachStartMessageId req c) .releaseFlow
  | _, _ => side

/-- The connection was lost: no request survives it, and no consumer keeps permits or queue. -/
def reset : ConsumerSide :=
  { side with
    state := .uninitialized
    pendingRequests := ∅
    consumers := side.consumers.mapValues ConsumerState.resetSession
    staged := [] }

/-- Re-subscribe one consumer after a reset, unless it is closed or unsubscribing. -/
def rebuildConsumer : ConsumerSide :=
  match side.consumerSubscribeRequests.lookup handle, side.consumers.lookup handle with
  | some req, some c =>
    match c.terminalOperation with
    | .unsubscribePending _ => side
    | _ =>
      if c.closed then side
      else side.emitCommandSubscribe handle req (reattachStartMessageId req c) .releaseFlow
  | _, _ => side

def rebuildConsumers : ConsumerSide :=
  side.consumerSubscribeRequests.keys.foldl rebuildConsumer side

/-! ### Calls of the application -/

def popMessage : ConsumerSide × Option IncomingMessage :=
  match side.consumers.lookup handle with
  | none => (side, none)
  | some c =>
    let (popped, message) := c.popMessage
    let (flowed, flow) := popped.maybeFlow
    ((side.modifyConsumer handle fun _ => flowed).stageFlow flow, message)

def setPaused (paused : Bool) : ConsumerSide :=
  side.modifyConsumer handle fun c => { c with paused := paused }

def flow (permits : Nat) : ConsumerSide :=
  (side.modifyConsumer handle fun c => c.addFlow permits).stageFlow
    (some { consumerId := handle, messagePermits := permits })

def seek (target : SeekTarget) : ConsumerSide :=
  let (side, requestId) := side.request (.consumerSeek handle)
  (side.stage (.seek handle requestId target)).modifyConsumer handle fun c => c.beginSeek requestId

/-- The request that ends an open consumer. -/
def endConsumer (kind : PendingRequestKind) (requested : Nat → ConsumerState → ConsumerState)
    (command : Nat → ConsumerCommand) : ConsumerSide :=
  match side.consumers.lookup handle with
  | some c =>
    if c.terminalOperation = .opened then
      let (side, requestId) := side.request kind
      (side.modifyConsumer handle (requested requestId)).stage (command requestId)
    else side
  | none => side

def closeConsumer : ConsumerSide :=
  side.endConsumer handle (.consumerClose handle) (fun requestId c => c.closeRequested requestId)
    (.closeConsumer handle)

def unsubscribe : ConsumerSide :=
  side.endConsumer handle (.consumerUnsubscribe handle)
    (fun requestId c => c.unsubscribeRequested requestId) (.unsubscribe handle)

def setHandshakeState (next : HandshakeState) : ConsumerSide :=
  { side with state := next }

/-- A caller takes the ack of its subscribe, once it is there on a connected session. -/
def consumeConsumerSubscribeWaiterCompletion (waiterId : Nat) : ConsumerSide × Bool :=
  match side.consumers.lookup handle with
  | none => (side, false)
  | some c =>
    if side.state == .connected && c.subscribeWaiterId == some waiterId &&
        c.subscribeWaiterCompleted then
      (side.modifyConsumer handle ConsumerState.completionConsumed, true)
    else (side, false)

def consumeInitialConsumerSubscribeCompletion : ConsumerSide × Bool :=
  match side.consumers.lookup handle with
  | none => (side, false)
  | some c =>
    if side.state == .connected && c.subscribeWaiterId.isSome && c.subscribeWaiterCompleted then
      (side.modifyConsumer handle ConsumerState.completionConsumed, true)
    else (side, false)

def abandonConsumerSubscribeWaiter (waiterId now : Nat) : ConsumerSide :=
  match side.consumers.lookup handle with
  | none => side
  | some c =>
    if c.subscribeWaiterId ≠ some waiterId then side
    else
      let abandoned := side.modifyConsumer handle ConsumerState.waiterAbandoned
      if c.subscribeWaiterCompleted && side.state == .connected then
        abandoned.initialFlow handle now
      else abandoned

def failConsumerSubscribe (reason : String) : ConsumerSide :=
  let side := side.modifyConsumer handle fun c => c.subscribeFailed reason
  { side with consumerSubscribeRequests := side.consumerSubscribeRequests.erase handle }

def timeoutConsumer (stallTimeout : Option Nat) (handle now : Nat) : Option ConsumerSide :=
  match side.consumers.lookup handle with
  | none => some side
  | some c => do
    let (ticked, flow) ← c.timerTick stallTimeout now
    some ((side.modifyConsumer handle fun _ => ticked).stageFlow flow)

/-! ### Commands of the broker -/

variable (single : Prost SingleMessageMetadata) (codecs : Codecs)

/-- The replicated-subscription markers, which never reach the application. -/
def isReplicatedSubscriptionMarker (d : Dispatch) : Bool :=
  d.metadata.markerType.any fun markerType => decide (10 ≤ markerType ∧ markerType ≤ 13)

/-- A marker is counted whether or not its payload decodes; anything else is delivered, and a
refund it completes goes out. -/
def handleMessage (side : ConsumerSide) (d : Dispatch) : ConsumerSide :=
  let handle := d.cmd.consumerId
  if isReplicatedSubscriptionMarker d then
    side.modifyConsumer handle ConsumerState.recordMarkerConsumed
  else
    match side.consumers.lookup handle with
    | none => side
    | some c =>
      let delivered := (c.deliver single codecs d).1
      let (flowed, flow) := delivered.maybeFlow
      (side.modifyConsumer handle fun _ => flowed).stageFlow flow

def isUnsubscribing (requestId : Nat) : Bool :=
  (side.consumers.lookup handle).any fun c => c.terminalOperation == .unsubscribePending requestId

def dropConsumer : ConsumerSide :=
  { side with
    consumers := side.consumers.erase handle
    consumerSubscribeRequests := side.consumerSubscribeRequests.erase handle }

def handleSuccess (requestId now : Nat) : ConsumerSide :=
  let kind := side.pendingRequests.lookup requestId
  let side := { side with pendingRequests := side.pendingRequests.erase requestId }
  match kind with
  | some (.consumerSubscribe handle) =>
    match side.consumers.lookup handle with
    | none => side
    | some c =>
      let acked := side.modifyConsumer handle fun c => (c.subscribeAcked requestId).1
      if (c.subscribeAcked requestId).2 then acked.initialFlow handle now else acked
  | some (.consumerSeek handle) => side.modifyConsumer handle fun c => c.seekAcked.1
  | some (.consumerCloseForReattach handle) => side.completeConsumerCloseForReattach handle
  | some (.consumerClose handle) =>
    side.modifyConsumer handle fun c => c.closeAcked requestId
  | some (.consumerUnsubscribe handle) =>
    if side.isUnsubscribing handle requestId then
      { side.dropConsumer handle with
        pendingRequests := side.pendingRequests.retain fun other =>
          side.pendingRequests.lookup other != some (.consumerSubscribe handle) }
    else side
  | none => side

/-- A consumer that never attached goes with its subscribe; any other is left to the driver's retry
(`retried`) or fails.  The retry that may follow a refused unsubscribe is `retryConsumerSubscribe`;
a refused seek or re-attach changes no consumer. -/
def handleError (requestId : Nat) (retried : Bool) (reason : String) : ConsumerSide :=
  let kind := side.pendingRequests.lookup requestId
  let side := { side with pendingRequests := side.pendingRequests.erase requestId }
  match kind with
  | some (.consumerSubscribe handle) =>
    match side.consumers.lookup handle with
    | none => side
    | some c =>
      if !c.awaitsSubscribe requestId then side
      else if !c.hasEverAttached then side.dropConsumer handle
      else if retried then side
      else side.failConsumerSubscribe handle reason
  | some (.consumerClose handle) => side.modifyConsumer handle fun c => c.closeAcked requestId
  | some (.consumerUnsubscribe handle) =>
    side.modifyConsumer handle fun c => c.unsubscribeRefused requestId
  | _ => side

/-- The broker closed the consumer.  Without a new broker's address it is re-subscribed on this
connection; its queue stays. -/
def handleCloseConsumer (assignedBrokerServiceUrl : Option String) : ConsumerSide :=
  let side := side.modifyConsumer handle ConsumerState.zeroPermits
  match assignedBrokerServiceUrl with
  | none => side.emitInPlaceConsumerResubscribe handle
  | some _ => side

def handleReachedEndOfTopic : ConsumerSide :=
  side.modifyConsumer handle fun c => { c with reachedEndOfTopic := true }

/-- Whether a promotion to active must grant a consumer that has no permits. -/
def needsReflow (c : ConsumerState) (active : Bool) : Bool :=
  active && (c.grantedPermits == 0 || c.isFlowStarved) && !c.closed && !c.paused &&
    c.pendingSeek.isNone && !c.reachedEndOfTopic && !c.flowOnSubscribeAck

def handleActiveConsumerChange (active : Bool) (now : Nat) : ConsumerSide :=
  match side.consumers.lookup handle with
  | none => side
  | some c =>
    let recorded := side.modifyConsumer handle fun c => c.recordActiveChange active
    if needsReflow c active then recorded.initialFlow handle now else recorded

end ConsumerSide

end Magnetar.Proto.Connection
