import Magnetar.Proto.Connection.Consumers
import Magnetar.Proto.Producer.Slot

/-!
Contract: what a connection keeps for one producer handle.

Owns: the record of one handle across the connection's maps (`producers`,
`producer_create_requests`, `in_flight_publish_snapshots`, the send keys of `wakers` and
`outcomes`, and the handle's frames in the outbound buffer), what each operation of `conn.rs` does
to it, and a log of what an observer sees of the handle's sends.

Does not own: which handle and which request an operation is about (`Connection.Producers`).
-/

namespace Magnetar.Proto.Connection

open Library Pb External Producer
open Trackers.Unacked (deadlineWithClamp)

/-- The outcomes a send can have.  A terminal outcome also repeats its key. -/
inductive OpOutcome where
  | sendReceipt (sequenceId : Nat) (messageId : MessageId)
  | sendError (sequenceId : Nat) (code : Int) (message : String)
  | terminal (reason : String)
  deriving DecidableEq, Repr

def OpOutcome.isError : OpOutcome → Bool
  | .sendReceipt _ _ => false
  | .sendError _ _ _ => true
  | .terminal _ => true

/-- The producer state machine with the fields of it that only the connection reads. -/
structure ProducerRecord where
  state : ProducerState
  openRequestId : Option Nat := none
  closeRequest : Option Nat := none
  hasEverAttached : Bool := false
  transientOpenAttempts : Nat := 0

/-- What an observer of one producer sees.  A frame is handed to the transport under the number
of the attach that released it. -/
inductive SendEvent where
  | opened (req : CreateProducerRequest)
  | minted (seq : Nat) (msg : OutgoingMessage)
  | attached (lastSequenceId : Option Int)
  | handed (attach : Nat) (frame : OutboundFrame)
  | acknowledged (receipt : CommandSendReceipt)
  | resolved (seq : Nat) (outcome : OpOutcome)
  | woken (waker : Nat)

def SendEvent.ofReleased (released : Nat × OutboundFrame) : SendEvent :=
  .handed released.1 released.2

/-! ### Reading the log -/

def SendEvent.minted? : SendEvent → Option (Nat × OutgoingMessage)
  | .minted seq msg => some (seq, msg)
  | _ => none

def SendEvent.resolved? : SendEvent → Option (Nat × OpOutcome)
  | .resolved seq outcome => some (seq, outcome)
  | _ => none

def SendEvent.handed? : SendEvent → Option (Nat × OutboundFrame)
  | .handed attach frame => some (attach, frame)
  | _ => none

def SendEvent.isAttached : SendEvent → Bool
  | .attached _ => true
  | _ => false

variable (log : List SendEvent)

def mintedSends : List (Nat × OutgoingMessage) :=
  log.filterMap SendEvent.minted?

def mintedIds : List Nat :=
  (mintedSends log).map Prod.fst

def resolutions : List (Nat × OpOutcome) :=
  log.filterMap SendEvent.resolved?

def resolvedIds : List Nat :=
  (resolutions log).map Prod.fst

def handedFrames : List (Nat × OutboundFrame) :=
  log.filterMap SendEvent.handed?

def attaches : Nat :=
  log.countP SendEvent.isAttached

/-- The frames one attach released, out of a list of released frames. -/
def releasedIn (attach : Nat) (frames : List (Nat × OutboundFrame)) : List OutboundFrame :=
  (frames.filter fun released => released.1 == attach).map Prod.snd

/-! ### The entry of a handle -/

/-- `snapshots` is the handle's bucket of `in_flight_publish_snapshots`, which is never kept empty.
`buffered` holds the handle's frames in the connection's outbound buffer, released but not polled,
and `past` the logs of the producers that had the handle before. -/
structure ProducerEntry where
  slot : Option ProducerRecord := none
  createRequest : Option CreateProducerRequest := none
  snapshots : List OpSend := []
  slab : Table Nat Nat := ∅
  outcomes : Table Nat OpOutcome := ∅
  buffered : List (Nat × OutboundFrame) := []
  log : List SendEvent := []
  past : List (List SendEvent) := []

def sendTimeoutCode : Int := -1

def sendTimeoutMessage : String := "send timeout"

def batchResetErrorCode : Int := -1

def batchResetErrorMessage : String := "batched send cannot be replayed after connection reset"

def producerClosedReason : String := "producer closed before the send was acknowledged"

def producerOpenTimeoutMessage : String := "producer open timeout"

namespace ProducerEntry

variable (entry : ProducerEntry) (seq requestId : Nat) (reason : String)

def observe (events : List SendEvent) : ProducerEntry :=
  { entry with log := entry.log ++ events }

def modifyRecord (update : ProducerRecord → ProducerRecord) : ProducerEntry :=
  { entry with slot := entry.slot.map update }

def modifyState (update : ProducerState → ProducerState) : ProducerEntry :=
  entry.modifyRecord fun record => { record with state := update record.state }

/-! ### Outcomes and wakers -/

def recordOutcome (outcome : OpOutcome) : ProducerEntry :=
  { entry with outcomes := entry.outcomes.insert seq outcome }.observe [.resolved seq outcome]

def wake (waker : Option Nat) : ProducerEntry :=
  entry.observe (waker.map SendEvent.woken).toList

/-- Drop the slab's waker of a send and wake `waker`, or the dropped one. -/
def wakeDroppingSlab (waker : Option Nat) : ProducerEntry :=
  { entry with slab := entry.slab.erase seq }.wake (waker.or (entry.slab.lookup seq))

/-- The receipt and send-error arms: the slab is left alone when the send has its own waker. -/
def settleByBroker (op : OpSend) (outcome : OpOutcome) : ProducerEntry :=
  let entry := entry.recordOutcome op.sequenceId outcome
  match op.waker with
  | some waker => entry.wake (some waker)
  | none => entry.wakeDroppingSlab op.sequenceId none

/-- `resolve_send_error` and the loop bodies of `terminalize_drained_sends` and
`terminalize_snapshot_bucket`. -/
def settle (op : OpSend) (outcome : OpOutcome) : ProducerEntry :=
  (entry.recordOutcome op.sequenceId outcome).wakeDroppingSlab op.sequenceId op.waker

def settleAll (ops : List OpSend) (outcome : OpSend → OpOutcome) : ProducerEntry :=
  ops.foldl (fun entry op => entry.settle op (outcome op)) entry

def terminalizeSnapshotBucket : ProducerEntry :=
  { entry with snapshots := [] }.settleAll entry.snapshots fun _ => .terminal reason

/-- Drain the sends of the slot, after `update`, and terminalize them. -/
def terminalizeSlot (update : ProducerState → ProducerState) (reason : String) : ProducerEntry :=
  match entry.slot with
  | none => entry
  | some record =>
    let (drained, state) := (update record.state).drainPendingSends
    { entry with slot := some { record with state } }.settleAll drained fun _ => .terminal reason

/-! ### Opening and attaching -/

/-- A new producer takes the handle.  The source keeps whatever its other maps hold under it; the
frames that the producer before it still has in the buffer are followed no further. -/
def create (handle maxMessageSize : Nat) (req : CreateProducerRequest) : ProducerEntry :=
  { entry with
    slot := some { state := createProducer handle maxMessageSize req }
    createRequest := some req
    buffered := []
    log := [.opened req]
    past := entry.past ++ [entry.log] }

/-- The slot's part of `emit_command_producer`. -/
def openEmitted : ProducerEntry :=
  entry.modifyRecord fun record => { record with openRequestId := some requestId }

def openIsCurrent : Bool :=
  entry.slot.any fun record => record.openRequestId == some requestId

/-- A live producer is one that a rebuild or a retry may re-open. -/
def isLive : Bool :=
  entry.createRequest.isSome && entry.slot.any fun record => !record.state.closed

/-- The slot's part of the `ProducerSuccess` arm, for the open that is current. -/
def attach (producerName : String) (lastSequenceId : Option Int) : ProducerEntry :=
  match entry.slot with
  | none => entry
  | some record =>
    let state :=
      { record.state with
        name := some producerName
        lastSequenceIdPublished := lastSequenceId.getD (-1) }
    let state := state.replayPendingOutbound
    let state :=
      if entry.snapshots.isEmpty then state else state.replaySnapshots entry.snapshots
    { entry with
      slot := some
        { record with
          state := { state with brokerReady := true }
          openRequestId := none
          hasEverAttached := true
          transientOpenAttempts := 0 }
      snapshots := [] }.observe [.attached lastSequenceId]

/-- The broker detached the producer, or refused to attach it. -/
def shutGate : ProducerEntry :=
  entry.modifyState fun state => { state with brokerReady := false }

def reattachInPlaceIsEligible : Bool :=
  entry.createRequest.isSome && entry.slot.any fun record =>
    !record.state.closed && record.hasEverAttached && record.openRequestId.isNone

/-- `rebuild_producers` for a producer it does not re-open. -/
def discardSnapshots : ProducerEntry :=
  { entry with snapshots := [] }

/-! ### Giving up -/

/-- The slot's part of `fail_producer_open_with_broker_error`. -/
def failOpen : ProducerEntry :=
  let entry := entry.terminalizeSlot
    (fun state => { state with closed := true, brokerReady := false }) reason
  let entry := entry.terminalizeSnapshotBucket reason
  { entry with slot := none, createRequest := none }

/-- `OperationRetryConfig::should_retry_after_failure`. -/
def shouldRetryAfterFailure (maxRetries : Option Nat) (failures : Nat) : Bool :=
  maxRetries.all (failures ≤ ·)

/-- A transient open failure: shut the gate, count it, and give up once the budget is spent.  A
slot that is gone counts as `u32::MAX` failures. -/
def openFailedTransiently (maxRetries : Option Nat) (reason : String) : ProducerEntry :=
  let failed := entry.shutGate.modifyRecord fun record =>
    { record with transientOpenAttempts := min (record.transientOpenAttempts + 1) (2 ^ 32 - 1) }
  let attempts := (failed.slot.map (·.transientOpenAttempts)).getD (2 ^ 32 - 1)
  if shouldRetryAfterFailure maxRetries attempts then failed else failed.failOpen reason

/-- The open of a producer that never attached was refused: its state goes, with no outcome. -/
def dropSlot : ProducerEntry :=
  { entry with slot := none, createRequest := none }

/-- The slot's part of `cancel_producer_open`. -/
def cancelOpen : ProducerEntry :=
  { entry with slot := none, createRequest := none, snapshots := [] }

def closeRequested : ProducerEntry :=
  entry.modifyRecord fun record =>
    { record with state := record.state.close, closeRequest := some requestId }

/-- `fail_sends_of_closed_producer`. -/
def closeAcked : ProducerEntry :=
  if entry.slot.any fun record => record.closeRequest == some requestId then
    (entry.terminalizeSlot id producerClosedReason).terminalizeSnapshotBucket producerClosedReason
  else entry

/-! ### Sending -/

variable (single : Prost SingleMessageMetadata) (codecs : Codecs)

/-- An accepted send takes the id that is next. -/
def queueSend (entry : ProducerEntry) (msg : OutgoingMessage) (uuid : String)
    (reservation publishTimeMs now : Nat) : ProducerEntry :=
  match entry.slot with
  | none => entry
  | some record =>
    let (outcome, _, state) :=
      record.state.queueSendReserved single codecs msg uuid reservation publishTimeMs now
    { entry with slot := some { record with state } }.observe
      (match outcome with
      | .ok _ => [.minted record.state.nextSequenceId msg]
      | .error _ => [])

def sendIsAccepted (entry : ProducerEntry) (msg : OutgoingMessage) (uuid : String)
    (reservation publishTimeMs now : Nat) : Bool :=
  entry.slot.any fun record =>
    (record.state.queueSendReserved single codecs msg uuid reservation publishTimeMs
      now).1.toOption.isSome

def flushBatch (entry : ProducerEntry) (publishTimeMs : Nat) : ProducerEntry :=
  entry.modifyState fun state => (state.flushBatch single codecs publishTimeMs).2

def flushDueBatch (entry : ProducerEntry) (publishTimeMs now : Nat) : ProducerEntry :=
  entry.modifyState fun state =>
    if state.batchDeadlineElapsed now then (state.flushBatch single codecs publishTimeMs).2
    else state

/-- The slot's part of `drain_producer_outbound`, which pops until nothing is staged. -/
def drainOutbound : ProducerEntry :=
  match entry.slot with
  | none => entry
  | some record =>
    if record.state.brokerReady then
      { entry with
        slot := some { record with state := { record.state with outbound := [] } }
        buffered :=
          entry.buffered ++ record.state.outbound.map fun frame => (attaches entry.log, frame) }
    else entry

def pollTransmit : ProducerEntry :=
  { entry with buffered := [] }.observe
    (entry.buffered.map SendEvent.ofReleased)

/-! ### Replies, timeouts and resets -/

def settleByReceipt (resolved : OpSend × MessageId) : ProducerEntry :=
  entry.settleByBroker resolved.1 (.sendReceipt resolved.1.sequenceId resolved.2)

def sendReceipt (receipt : CommandSendReceipt) : ProducerEntry :=
  match entry.slot with
  | none => entry
  | some record =>
    let (resolved, state) := record.state.handleSendReceipt receipt
    resolved.foldl settleByReceipt
      ({ entry with slot := some { record with state } }.observe [.acknowledged receipt])

def sendError (err : CommandSendError) : ProducerEntry :=
  match entry.slot with
  | none => entry
  | some record =>
    let (resolved, state) := record.state.applySendError err
    let entry := { entry with slot := some { record with state } }
    match resolved with
    | none => entry
    | some (op, code, message) =>
      entry.settleByBroker op (.sendError op.sequenceId code message)

def sendTimedOut (op : OpSend) : OpOutcome :=
  .sendError op.sequenceId sendTimeoutCode sendTimeoutMessage

/-- The sweep of `handle_timeout` over the pending sends. -/
def timeoutPending (now : Nat) : ProducerEntry :=
  match entry.slot with
  | none => entry
  | some record =>
    let (expired, state) := record.state.drainTimedOutSends now
    { entry with slot := some { record with state } }.settleAll expired sendTimedOut

/-- The sends set aside whose timeout has passed, oldest first. -/
def expiredSnapshots (now : Nat) : List OpSend :=
  match entry.slot.bind (·.state.sendTimeout) with
  | none => []
  | some timeout =>
    entry.snapshots.takeWhile fun op => deadlineWithClamp op.enqueuedAt timeout ≤ now

/-- The sweep of `handle_timeout` over the sends set aside. -/
def timeoutSnapshots (now : Nat) : ProducerEntry :=
  let expired := entry.expiredSnapshots now
  { entry with snapshots := entry.snapshots.drop expired.length }.settleAll expired sendTimedOut

/-- Every waker left on the slab is woken; its send has no outcome. -/
def sweepSlab : ProducerEntry :=
  { entry with slab := ∅ }.observe
    (entry.slab.entries.map fun (parked : (_ : Nat) × Nat) => .woken parked.2)

def batchLost (op : OpSend) : OpOutcome :=
  .sendError op.sequenceId batchResetErrorCode batchResetErrorMessage

/-- The slot's part of `reset`: what can be replayed is set aside, what cannot is failed. -/
def setAside : ProducerEntry :=
  match entry.slot with
  | none => entry
  | some record =>
    let (taken, state) := record.state.snapshotPendingSends
    let entry := { entry with slot := some { record with state } }
    let entry := taken.replayWakers.foldl
      (fun entry parked => entry.wakeDroppingSlab parked.1 parked.2) entry
    let entry := entry.settleAll taken.dropped batchLost
    { entry with snapshots := entry.snapshots ++ taken.snapshots }

def reset : ProducerEntry :=
  { entry.setAside.sweepSlab with buffered := [] }

/-- What `fail_all_pending` does with the wakers left on the slab. -/
def terminalizeSlab : ProducerEntry :=
  entry.slab.keys.foldl (fun entry seq =>
    (entry.recordOutcome seq (.terminal reason)).wakeDroppingSlab seq none) entry

def failAll : ProducerEntry :=
  ((entry.terminalizeSlot (fun state => { state with closed := true }) reason
    ).terminalizeSnapshotBucket reason).terminalizeSlab reason

/-! ### Futures -/

/-- A waker goes to its pending send, or to the slab when the send is not pending here. -/
def registerWaker (waker : Nat) : ProducerEntry :=
  if (entry.outcomes.lookup seq).isSome then entry.wake (some waker)
  else
    match entry.slot with
    | none => { entry with slab := entry.slab.insert seq waker }
    | some record =>
      let (parked, state) := record.state.registerWaker seq waker
      if parked then { entry with slot := some { record with state } }
      else { entry with slab := entry.slab.insert seq waker }

def unregisterWaker : ProducerEntry :=
  { entry with slab := entry.slab.erase seq }.modifyState fun state => state.clearWaker seq

def takeOutcome : ProducerEntry × Option OpOutcome :=
  ({ entry with outcomes := entry.outcomes.erase seq }, entry.outcomes.lookup seq)

end ProducerEntry

end Magnetar.Proto.Connection
