import Magnetar.Proto.BatchAck
import Magnetar.Proto.ReceiverQueue
import Magnetar.Proto.Trackers.Unacked

/-!
Contract: the per-consumer state machine's state and its flow-permit operations.

Owns: `ConsumerState` and the operations that move permits between the three counters of the
client's mirror of the broker window: `permit_balance` (permits the broker holds),
`consumed_since_flow` (refunds not yet returned) and the receiver queue.

Does not own: delivery of a frame (`Consumer.Deliver`).  Wakers, latency and rate statistics,
the negative-acknowledgement and grouping trackers and pending transactional acks are left out,
since nothing here reads them.  The build is the default one, without `scalable-topics`.
-/

namespace Magnetar.Proto.Consumer

open Pb BatchAck ReceiverQueue Trackers.Unacked

def u32Max : Nat := 2 ^ 32 - 1

/-- `u32::saturating_add`. -/
def satAdd (left right : Nat) : Nat :=
  min (left + right) u32Max

/-- `u64::saturating_add`. -/
def satAdd64 (left right : Nat) : Nat :=
  min (left + right) (2 ^ 64 - 1)

/-- `value as u32` for a `usize`. -/
def asU32 (value : Nat) : Nat :=
  value % 2 ^ 32

structure IncomingMessage where
  messageId : MessageId
  metadata : MessageMetadata
  singleMetadata : Option SingleMessageMetadata := none
  payload : Bytes
  redeliveryCount : Nat
  brokerEntryMetadata : Option BrokerEntryMetadata := none
  arrivedAt : Nat
  deriving DecidableEq, Repr

/-- The chunks received so far of one chunked message. -/
structure ChunkBuffer where
  expectedChunks : Int
  receivedChunks : Int
  receivedAt : Nat
  chunkPayloads : AList (fun _ : Int => Bytes)
  firstMetadata : MessageMetadata
  firstChunkMessageId : Option MessageId
  brokerEntryMetadata : Option BrokerEntryMetadata
  redeliveryCount : Nat

def ChunkBuffer.bufferedBytes (buffer : ChunkBuffer) : Nat :=
  (buffer.chunkPayloads.entries.map fun entry => entry.2.length).sum

structure StallWatch where
  mark : Nat
  since : Nat
  reported : Bool
  deriving DecidableEq, Repr

inductive ConsumerTerminalOperation where
  | opened
  | pending (requestId : Nat)
  | complete (requestId : Option Nat)
  | unsubscribePending (requestId : Nat)
  deriving DecidableEq, Repr

structure ConsumerState where
  handle : Nat
  topic : String
  subscription : String
  receiverQueueSize : Nat
  policy : ReceiverQueuePolicy
  queuedBytes : Nat := 0
  adjustInterval : Option Nat := none
  lastAdjustAt : Option Nat := none
  grantedPermits : Nat := 0
  permitBalance : Nat := 0
  manualFlowPermits : Nat := 0
  dispatchUnitsReceived : Nat := 0
  stallWatch : Option StallWatch := none
  stallRecoveryAttempts : Nat := 0
  consumedSinceFlow : Nat := 0
  queue : List IncomingMessage := []
  chunkReassembly : AList (fun _ : String => ChunkBuffer) := ∅
  chunkReassemblyOrder : List String := []
  chunkBufferedBytes : Nat := 0
  maxPendingChunkedMessage : Nat := 10
  autoAckOldestChunkedMessageOnQueueFull : Bool := false
  expireTimeOfIncompleteChunkedMessage : Option Nat := some (60 * 1000000000)
  chunkAutoAckPending : List MessageId := []
  pendingSeek : Option Nat := none
  terminalOperation : ConsumerTerminalOperation := .opened
  closed : Bool := false
  hasEverAttached : Bool := false
  terminalFailure : Option String := none
  subscribeWaiterId : Option Nat := none
  subscribeWaiterRequest : Option Nat := none
  subscribeWaiterCompleted : Bool := false
  flowOnSubscribeAck : Bool := false
  flowOnSubscribeAckRequest : Option Nat := none
  initialGrantDue : Bool := false
  maxRedeliverCount : Nat := 0
  deadLetterPending : List IncomingMessage := []
  paused : Bool := false
  reachedEndOfTopic : Bool := false
  totalMsgsReceived : Nat := 0
  totalBytesReceived : Nat := 0
  totalMsgsDeadLettered : Nat := 0
  totalChunkedMsgsReceived : Nat := 0
  unackedTracker : Option UnackedMessageTracker := none
  batchAckTracker : AList (fun _ : Nat × Nat => BatchAckEntry) := ∅
  isActive : Option Bool := none
  activeChanges : List Bool := []

variable (c : ConsumerState)

namespace ConsumerState

def withPolicy (handle : Nat) (topic subscription : String) (policy : ReceiverQueuePolicy)
    (adjustInterval : Option Nat) : ConsumerState where
  handle := handle
  topic := topic
  subscription := subscription
  receiverQueueSize := policy.initial
  policy := policy
  adjustInterval := adjustInterval

/-- The refund at which a flow goes out: half the queue, at least one. -/
def flowThreshold : Nat :=
  asU32 (max (c.receiverQueueSize / 2) 1)

def isFlowStarved : Bool :=
  c.permitBalance == 0 && decide (c.consumedSinceFlow + c.queue.length < c.flowThreshold)

/-- A consumer in one of these states never returns a refund. -/
def flowHeld : Bool :=
  c.closed || c.pendingSeek.isSome || c.paused || c.receiverQueueSize == 0

def clearStallWatch : ConsumerState :=
  { c with stallWatch := none }

/-- Credit `permits` to the broker and return the command that tells it. -/
def grant (permits : Nat) : ConsumerState × CommandFlow :=
  ({ c with
      grantedPermits := satAdd c.grantedPermits permits
      permitBalance := satAdd c.permitBalance permits
      stallWatch := none },
    { consumerId := c.handle, messagePermits := permits })

def maybeFlow : ConsumerState × Option CommandFlow :=
  if c.flowHeld then (c, none)
  else if c.consumedSinceFlow < c.flowThreshold then (c, none)
  else
    let (c, flow) := { c with consumedSinceFlow := 0 }.grant c.consumedSinceFlow
    (c, some flow)

/-- `Connection::flow` on the consumer it names. -/
def addFlow (permits : Nat) : ConsumerState :=
  { c with
    manualFlowPermits :=
      if c.receiverQueueSize = 0 then satAdd c.manualFlowPermits permits
      else c.manualFlowPermits
    grantedPermits := satAdd c.grantedPermits permits
    permitBalance := satAdd c.permitBalance permits }

def recordBrokerPermitConsumed : ConsumerState :=
  { c with consumedSinceFlow := satAdd c.consumedSinceFlow 1 }

def recordDispatchUnit : ConsumerState :=
  { c with
    permitBalance := c.permitBalance - 1
    dispatchUnitsReceived := satAdd64 c.dispatchUnitsReceived 1
    stallRecoveryAttempts := 0 }

def recordMarkerConsumed : ConsumerState :=
  c.recordBrokerPermitConsumed.recordDispatchUnit

def initialFlow : ConsumerState × CommandFlow :=
  let permits :=
    if c.receiverQueueSize = 0 then c.manualFlowPermits else asU32 c.receiverQueueSize
  ({ c with
      grantedPermits := permits
      permitBalance := permits
      consumedSinceFlow := 0
      initialGrantDue := false
      stallWatch := none },
    { consumerId := c.handle, messagePermits := permits })

def flowStats (partitions : Nat) : FlowStats where
  currentQueueSize := c.receiverQueueSize
  queuedMessages := c.queue.length
  availablePermits := c.permitBalance
  avgMessageBytes := c.totalBytesReceived / c.totalMsgsReceived
  inFlightBytes := c.queuedBytes
  partitions := partitions

/-- A feedback tick.  `none` when the policy panics. -/
def adjustReceiverQueue (now partitions : Nat) : Option (ConsumerState × Option CommandFlow) :=
  let c := { c with lastAdjustAt := some now }
  if c.closed || c.pendingSeek.isSome || c.paused || c.terminalFailure.isSome then some (c, none)
  else if c.grantedPermits = 0 then some (c, none)
  else do
    let target ← c.policy.adjust (c.flowStats partitions)
    let newTarget := max target 1
    let resized := { c with receiverQueueSize := newTarget }
    if newTarget ≤ c.receiverQueueSize then some (resized, none)
    else
      -- Growth is measured against every permit granted since the attach.
      let delta := asU32 newTarget - c.grantedPermits
      if delta = 0 then some (resized, none)
      else
        let (granted, flow) := resized.grant delta
        some (granted, some flow)

def nextAdjustDeadline : Option Nat := do
  let interval ← c.adjustInterval
  if c.closed || c.terminalFailure.isSome then none
  else c.lastAdjustAt.map fun last => deadlineWithClamp last interval

def armAdjustClock (now : Nat) : ConsumerState :=
  if c.adjustInterval.isSome && c.lastAdjustAt.isNone then { c with lastAdjustAt := some now }
  else c

def armStallWatch (now : Nat) : ConsumerState :=
  { c with
    stallWatch := some { mark := c.dispatchUnitsReceived, since := now, reported := false } }

/-- Permits at the broker over an empty queue, and nothing that explains the silence. -/
def isStallCandidate : Bool :=
  decide (c.permitBalance > 0) && c.queue.isEmpty && !c.closed && !c.paused &&
    !c.reachedEndOfTopic && c.pendingSeek.isNone && c.terminalFailure.isNone &&
    !c.flowOnSubscribeAck

def pollStall (window now : Nat) : ConsumerState × Option Nat :=
  if !c.isStallCandidate then (c.clearStallWatch, none)
  else
    match c.stallWatch with
    | some watch =>
      if watch.mark ≠ c.dispatchUnitsReceived then (c.armStallWatch now, none)
      else if watch.reported || now < deadlineWithClamp watch.since window then (c, none)
      else
        ({ c with stallWatch := some { watch with reported := true } }, some (now - watch.since))
    | none => (c.armStallWatch now, none)

def recordActiveChange (active : Bool) : ConsumerState :=
  let kept := if c.activeChanges.length ≥ 32 then c.activeChanges.drop 1 else c.activeChanges
  { c with isActive := some active, activeChanges := kept ++ [active] }

def popMessage : ConsumerState × Option IncomingMessage :=
  match c.queue with
  | [] => (c, none)
  | message :: rest =>
    let c := { c with
      queue := rest
      manualFlowPermits :=
        if c.receiverQueueSize = 0 then c.manualFlowPermits - 1 else c.manualFlowPermits
      queuedBytes := c.queuedBytes - message.payload.length }
    (c.recordBrokerPermitConsumed, some message)

def beginSeek (requestId : Nat) : ConsumerState :=
  { c with
    pendingSeek := some requestId
    queue := []
    queuedBytes := 0
    manualFlowPermits := 0
    grantedPermits := 0
    permitBalance := 0
    consumedSinceFlow := 0 }

def seekAcked : ConsumerState × Option Nat :=
  ({ c with pendingSeek := none }, c.pendingSeek)

end ConsumerState

end Magnetar.Proto.Consumer
