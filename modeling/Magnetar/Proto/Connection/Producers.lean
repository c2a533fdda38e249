import Magnetar.Proto.Connection.Entry

/-!
Contract: the producer operations of a connection (`conn.rs`).

Owns: the part of a connection that its producers' sends touch, the calls the application and the
driver make, and the broker frames that act on a producer.

Does not own: what an operation does to one handle (`Connection.Entry`), events, statistics and the
epoch a re-open carries.  Of the ring of abandoned opens only the ids are kept: which of them an error
closes again is a part of the frame.
-/

namespace Magnetar.Proto.Connection

open Library Pb External Producer
open Trackers.Unacked (deadlineWithClamp)

inductive ProducerRequestKind where
  | producerOpen (handle : Nat) (enqueuedAt : Option Nat)
  | producerClose (handle : Nat)
  | producerCloseForgotten (handle : Nat)
  deriving DecidableEq, Repr

/-- `maxRetries` is the budget of `OperationRetryConfig`. -/
structure ProducerConfig where
  maxMessageSize : Nat := defaultMaxMessageSize
  operationTimeout : Nat := 30 * 1000000000
  maxRetries : Option Nat := some 8

/-- The connection's maps, read as one entry per handle.  A handle in none of them has the empty
entry.  `abandoned` has the ids of `abandoned_producer_opens`, and none is ever pushed out of it. -/
structure ProducerSide where
  config : ProducerConfig := {}
  state : HandshakeState := .uninitialized
  brokerMaxMessageSize : Option Nat := none
  entries : Nat → ProducerEntry := fun _ => {}
  pendingRequests : Table Nat ProducerRequestKind := ∅
  nextRequestId : Nat := 0
  nextProducerId : Nat := 0
  abandoned : List Nat := []
  lastActivity : Option Nat := none

/-- The broker frames that act on producers.  An error that reports a busy producer name closes
the abandoned ids among `reclosed` once more. -/
inductive ProducerFrame where
  | connected (maxMessageSize : Option Nat)
  | sendReceipt (receipt : CommandSendReceipt)
  | sendError (err : CommandSendError)
  | producerSuccess (requestId : Nat) (producerName : String) (lastSequenceId : Option Int)
  | success (requestId : Nat)
  | error (requestId : Nat) (code : Int) (message : String) (reclosed : List Nat)
  | closeProducer (producerId : Nat)
  | other

def producerBusyCode : Int := 16

/-- `is_retryable_broker_error` for a producer open: metadata, persistence, service not ready, the
two quota errors, too many requests and a busy producer name. -/
def isRetryableOpenError (code : Int) : Bool :=
  [1, 2, 6, 14].contains code || [7, 8].contains code || code == producerBusyCode

namespace ProducerSide

/-! ### Entries and requests -/

variable (side : ProducerSide) (reattach : Option Nat) (requestId handle : Nat)

def modifyEntry (update : ProducerEntry → ProducerEntry) : ProducerSide :=
  { side with
    entries := fun named =>
      if named = handle then update (side.entries named) else side.entries named }

def mapEntries (update : ProducerEntry → ProducerEntry) : ProducerSide :=
  { side with entries := fun named => update (side.entries named) }

def request (kind : ProducerRequestKind) : ProducerSide :=
  { side with
    nextRequestId := (side.nextRequestId + 1) % 2 ^ 64
    pendingRequests := side.pendingRequests.insert side.nextRequestId kind }

def forgetRequest : ProducerSide :=
  { side with pendingRequests := side.pendingRequests.erase requestId }

/-- No frame leaves a slot before the handshake is done. -/
def drainProducerOutbound : ProducerSide :=
  if side.state = .connected then side.mapEntries ProducerEntry.drainOutbound else side

def pollTransmit : ProducerSide :=
  side.drainProducerOutbound.mapEntries ProducerEntry.pollTransmit

/-! ### Opening -/

def emitCommandProducer : ProducerSide :=
  (side.request (.producerOpen handle side.lastActivity)).modifyEntry handle fun entry =>
    entry.openEmitted side.nextRequestId

/-- `reattach_abandoned_producer_open`: an open takes over an abandoned id only. -/
def reattachAbandoned : Option Nat :=
  reattach.filter side.abandoned.contains

/-- The handle an open gets: an abandoned id, or the next one. -/
def handleFor : Nat :=
  (side.reattachAbandoned reattach).getD side.nextProducerId

/-- A new id is used up unless an abandoned one is taken over. -/
def takeProducerId : ProducerSide :=
  match side.reattachAbandoned reattach with
  | some _ => side
  | none => { side with nextProducerId := (side.nextProducerId + 1) % 2 ^ 64 }

def createProducer (req : CreateProducerRequest) : ProducerSide :=
  let handle := side.handleFor reattach
  let maxSize := side.brokerMaxMessageSize.getD side.config.maxMessageSize
  ((side.takeProducerId reattach).modifyEntry handle fun entry =>
    entry.create handle maxSize req).emitCommandProducer handle

/-- `retry_producer_open`, which a caller may use while the producer is attached. -/
def retryProducerOpen : ProducerSide :=
  if (side.entries handle).isLive then side.emitCommandProducer handle else side

def producerOpenRetryIsCurrent (failedRequestId : Nat) : Bool :=
  (side.entries handle).isLive && (side.entries handle).openIsCurrent failedRequestId

def retryProducerOpenIfCurrent (failedRequestId : Nat) : ProducerSide :=
  if side.producerOpenRetryIsCurrent handle failedRequestId then side.retryProducerOpen handle
  else side

/-- One handle's part of `rebuild_producers`: re-open it, or drop what was set aside for it. -/
def rebuildProducer : ProducerSide :=
  if (side.entries handle).isLive then side.emitCommandProducer handle
  else side.modifyEntry handle ProducerEntry.discardSnapshots

/-- `handles` are the handles of the connection's maps, in the order the map gives them. -/
def rebuildProducers (handles : List Nat) : ProducerSide :=
  handles.foldl rebuildProducer side

/-! ### Closing and giving up -/

/-- `close_producer` and `close_producer_forget`. -/
def closeProducer (forget : Bool) : ProducerSide :=
  (side.request (if forget then .producerCloseForgotten handle else .producerClose handle)
    ).modifyEntry handle fun entry => entry.closeRequested side.nextRequestId

def openRequestsOf : List Nat :=
  side.pendingRequests.entries.filterMap fun request =>
    match request.2 with
    | .producerOpen named _ => if named = handle then some request.1 else none
    | _ => none

def brokerMayHoldRegistration : Bool :=
  (side.entries handle).slot.any fun record =>
    !record.state.closed && (!(side.openRequestsOf handle).isEmpty || record.state.brokerReady)

/-- `remember_abandoned_producer_open`, for a producer with a name of its own. -/
def rememberAbandoned : ProducerSide :=
  if ((side.entries handle).createRequest.bind (·.producerName)).any (· ≠ "") then
    { side with abandoned := handle :: side.abandoned }
  else side

def cancelProducerOpen : ProducerSide :=
  let requestIds := side.openRequestsOf handle
  let side :=
    if side.brokerMayHoldRegistration handle then
      (side.closeProducer handle true).rememberAbandoned handle
    else side
  (requestIds.foldl forgetRequest side).modifyEntry handle ProducerEntry.cancelOpen

/-- `fail_producer_open` and `fail_producer_open_with_broker_error`. -/
def failProducerOpen (reason : String) : ProducerSide :=
  side.modifyEntry handle fun entry => entry.failOpen reason

def failAllPending (reason : String) : ProducerSide :=
  { side with pendingRequests := ∅ }.mapEntries fun entry => entry.failAll reason

/-- The connection was lost: no request survives it. -/
def reset : ProducerSide :=
  { side with
    state := .uninitialized
    brokerMaxMessageSize := none
    pendingRequests := ∅
    abandoned := []
    lastActivity := none }.mapEntries ProducerEntry.reset

/-! ### Sending and timing out -/

variable (single : Prost SingleMessageMetadata) (codecs : Codecs)

/-- `ProducerSlot::queue_send`, which takes no part of the connection but the slot. -/
def slotQueueSend (side : ProducerSide) (handle : Nat) (msg : OutgoingMessage) (uuid : String)
    (reservation publishTimeMs now : Nat) : ProducerSide :=
  side.modifyEntry handle fun entry =>
    entry.queueSend single codecs msg uuid reservation publishTimeMs now

/-- `Connection::send`.  A rejected send returns before the drain. -/
def send (side : ProducerSide) (handle : Nat) (msg : OutgoingMessage) (uuid : String)
    (reservation publishTimeMs now : Nat) : ProducerSide :=
  let queued := side.slotQueueSend single codecs handle msg uuid reservation publishTimeMs now
  if (side.entries handle).sendIsAccepted single codecs msg uuid reservation publishTimeMs now then
    queued.drainProducerOutbound
  else queued

def slotFlushBatch (side : ProducerSide) (handle publishTimeMs : Nat) : ProducerSide :=
  side.modifyEntry handle fun entry => entry.flushBatch single codecs publishTimeMs

def flushProducer (side : ProducerSide) (handle publishTimeMs : Nat) : ProducerSide :=
  (side.slotFlushBatch single codecs handle publishTimeMs).drainProducerOutbound

/-- The deadline of an open, which only the producers that have attached before are held to. -/
def pendingProducerOpenDeadline : ProducerRequestKind → Option (Nat × Nat)
  | .producerOpen handle (some enqueuedAt) =>
    if (side.entries handle).slot.any (·.hasEverAttached) then
      some (handle, deadlineWithClamp enqueuedAt side.config.operationTimeout)
    else none
  | _ => none

def expiredOpens (now : Nat) : List (Nat × Nat) :=
  side.pendingRequests.entries.filterMap fun request =>
    (side.pendingProducerOpenDeadline request.2).bind fun (handle, deadline) =>
      if deadline ≤ now then some (request.1, handle) else none

def expirePendingProducerOpen : ProducerSide :=
  (side.forgetRequest requestId).modifyEntry handle fun entry =>
    entry.openFailedTransiently side.config.maxRetries producerOpenTimeoutMessage

/-- The batch and send sweeps of `handle_timeout`. -/
def sweepSends (side : ProducerSide) (publishTimeMs now : Nat) : ProducerSide :=
  let flushed := side.mapEntries fun entry => entry.flushDueBatch single codecs publishTimeMs now
  (flushed.drainProducerOutbound.mapEntries fun entry => entry.timeoutPending now).mapEntries
    fun entry => entry.timeoutSnapshots now

/-- The producer part of `handle_timeout`, after the keepalive. -/
def handleTimeout (side : ProducerSide) (publishTimeMs now : Nat) : ProducerSide :=
  let swept := side.sweepSends single codecs publishTimeMs now
  (swept.expiredOpens now).foldl (fun side (requestId, handle) =>
    side.expirePendingProducerOpen requestId handle) swept

/-! ### Frames of the broker -/

def handleSendReceipt (receipt : CommandSendReceipt) : ProducerSide :=
  side.modifyEntry receipt.producerId fun entry => entry.sendReceipt receipt

def handleSendError (err : CommandSendError) : ProducerSide :=
  side.modifyEntry err.producerId fun entry => entry.sendError err

/-- The reply to an open that was superseded returns before the drain. -/
def handleProducerSuccess (producerName : String) (lastSequenceId : Option Int) : ProducerSide :=
  let kind := side.pendingRequests.lookup requestId
  let side := side.forgetRequest requestId
  match kind with
  | some (.producerOpen handle _) =>
    if (side.entries handle).openIsCurrent requestId then
      (side.modifyEntry handle fun entry =>
        entry.attach producerName lastSequenceId).drainProducerOutbound
    else side
  | _ => side.drainProducerOutbound

def handleSuccess : ProducerSide :=
  let kind := side.pendingRequests.lookup requestId
  let side := side.forgetRequest requestId
  match kind with
  | some (.producerClose handle) | some (.producerCloseForgotten handle) =>
    side.modifyEntry handle fun entry => entry.closeAcked requestId
  | _ => side

/-- `reclaim_busy_producer_name`. -/
def reclaimBusyProducerName (code : Int) (reclosed : List Nat) : ProducerSide :=
  if code = producerBusyCode then
    (reclosed.filter side.abandoned.contains).foldl
      (fun side handle => side.closeProducer handle true) side
  else side

/-- What a refused open makes of its producer.  One that has attached before is kept while the
error is transient; one that has not is dropped. -/
def openRefused (code : Int) (message : String) : ProducerSide :=
  let established := (side.entries handle).slot.any (·.hasEverAttached)
  if isRetryableOpenError code && established then
    side.modifyEntry handle fun entry =>
      entry.openFailedTransiently side.config.maxRetries message
  else if established then side.failProducerOpen handle message
  else side.modifyEntry handle ProducerEntry.dropSlot

def handleError (code : Int) (message : String) (reclosed : List Nat) : ProducerSide :=
  let kind := side.pendingRequests.lookup requestId
  let side := side.forgetRequest requestId
  match kind with
  | some (.producerOpen handle _) =>
    if (side.entries handle).openIsCurrent requestId then
      ((side.reclaimBusyProducerName code reclosed).openRefused handle code
        message).drainProducerOutbound
    else side
  | _ => side.drainProducerOutbound

/-- A broker close on a live connection: re-attach in place, or only shut the gate. -/
def handleCloseProducer : ProducerSide :=
  if (side.entries handle).reattachInPlaceIsEligible then
    (side.modifyEntry handle ProducerEntry.shutGate).retryProducerOpen handle
  else side.modifyEntry handle ProducerEntry.shutGate

def handleFrame (now : Nat) (frame : ProducerFrame) : ProducerSide :=
  let side := { side with lastActivity := some now }
  match frame with
  | .connected maxMessageSize =>
    { side with
      state := .connected
      brokerMaxMessageSize := maxMessageSize }.drainProducerOutbound
  | .sendReceipt receipt => (side.handleSendReceipt receipt).drainProducerOutbound
  | .sendError err => (side.handleSendError err).drainProducerOutbound
  | .producerSuccess requestId producerName lastSequenceId =>
    side.handleProducerSuccess requestId producerName lastSequenceId
  | .success requestId => (side.handleSuccess requestId).drainProducerOutbound
  | .error requestId code message reclosed => side.handleError requestId code message reclosed
  | .closeProducer producerId => (side.handleCloseProducer producerId).drainProducerOutbound
  | .other => side.drainProducerOutbound

/-! ### The machine -/

/-- A step of the connection.  `otherRequest` reserves a request id for something that is no
producer's, `otherActivity` is the keepalive refreshing the activity clock. -/
inductive Op where
  | createProducer (reattach : Option Nat) (req : CreateProducerRequest)
  | slotQueueSend (handle : Nat) (msg : OutgoingMessage) (uuid : String)
      (reservation publishTimeMs now : Nat)
  | send (handle : Nat) (msg : OutgoingMessage) (uuid : String)
      (reservation publishTimeMs now : Nat)
  | slotFlushBatch (handle publishTimeMs : Nat)
  | flushProducer (handle publishTimeMs : Nat)
  | drainProducerOutbound
  | pollTransmit
  | frame (now : Nat) (frame : ProducerFrame)
  | handleTimeout (publishTimeMs now : Nat)
  | reset
  | rebuildProducer (handle : Nat)
  | retryProducerOpen (handle : Nat)
  | retryProducerOpenIfCurrent (handle failedRequestId : Nat)
  | closeProducer (handle : Nat) (forget : Bool)
  | cancelProducerOpen (handle : Nat)
  | failProducerOpen (handle : Nat) (reason : String)
  | failAllPending (reason : String)
  | registerWaker (handle seq waker : Nat)
  | unregisterWaker (handle seq : Nat)
  | takeOutcome (handle seq : Nat)
  | setHandshakeState (next : HandshakeState)
  | otherActivity (now : Nat)
  | otherRequest

def step (side : ProducerSide) : Op → ProducerSide
  | .createProducer reattach req => side.createProducer reattach req
  | .slotQueueSend handle msg uuid reservation publishTimeMs now =>
    side.slotQueueSend single codecs handle msg uuid reservation publishTimeMs now
  | .send handle msg uuid reservation publishTimeMs now =>
    side.send single codecs handle msg uuid reservation publishTimeMs now
  | .slotFlushBatch handle publishTimeMs =>
    side.slotFlushBatch single codecs handle publishTimeMs
  | .flushProducer handle publishTimeMs => side.flushProducer single codecs handle publishTimeMs
  | .drainProducerOutbound => side.drainProducerOutbound
  | .pollTransmit => side.pollTransmit
  | .frame now frame => side.handleFrame now frame
  | .handleTimeout publishTimeMs now => side.handleTimeout single codecs publishTimeMs now
  | .reset => side.reset
  | .rebuildProducer handle => side.rebuildProducer handle
  | .retryProducerOpen handle => side.retryProducerOpen handle
  | .retryProducerOpenIfCurrent handle failedRequestId =>
    side.retryProducerOpenIfCurrent handle failedRequestId
  | .closeProducer handle forget => side.closeProducer handle forget
  | .cancelProducerOpen handle => side.cancelProducerOpen handle
  | .failProducerOpen handle reason => side.failProducerOpen handle reason
  | .failAllPending reason => side.failAllPending reason
  | .registerWaker handle seq waker =>
    side.modifyEntry handle fun entry => entry.registerWaker seq waker
  | .unregisterWaker handle seq => side.modifyEntry handle fun entry => entry.unregisterWaker seq
  | .takeOutcome handle seq => side.modifyEntry handle fun entry => (entry.takeOutcome seq).1
  | .setHandshakeState next => { side with state := next }
  | .otherActivity now => { side with lastActivity := some now }
  | .otherRequest =>
    { side.forgetRequest side.nextRequestId with
      nextRequestId := (side.nextRequestId + 1) % 2 ^ 64 }

end ProducerSide

end Magnetar.Proto.Connection
