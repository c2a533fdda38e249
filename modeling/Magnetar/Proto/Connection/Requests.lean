import Magnetar.Proto.Connection.Acks
import Magnetar.Proto.Lookup
import Magnetar.Proto.Txn

/-!
Contract: the requests of a connection and their outcomes (`conn.rs`).

Owns: the calls that send a request, the replies of the broker that answer one, the ways a request
ends without a reply (cancellation, timeouts, `reset`, `fail_all_pending`), the outcome table, and
the part of a consumer that its requests change: the seek it waits for and its close or unsubscribe.

Does not own: sends and the producers they belong to (`Connection.Producers`), the flow of messages
(`Connection.Consumers`), events, and the commands themselves, which encode unless they are larger
than four gibibytes.  An operation of the connection that depends on state outside this part is cut
into the pieces it consists of: the re-subscribe that a broker close or a rejected unsubscribe may
start, the open of a producer, and the acknowledgements of a flush are operations of their own.
-/

namespace Magnetar.Proto.Connection

open Library Pb Consumer Lookup Txn
open Trackers.Unacked (deadlineWithClamp)

inductive RequestKind where
  | lookup
  | partitionedMetadata
  | producerOpen (handle : Nat)
  | consumerSubscribe (handle : Nat)
  | consumerSeek (handle : Nat)
  | consumerUnsubscribe (handle : Nat)
  | consumerGetLastMessageId (handle : Nat)
  | ack (handle enqueuedAt : Nat)
  | producerClose (handle : Nat)
  | producerCloseForgotten (handle : Nat)
  | consumerClose (handle : Nat)
  | consumerCloseForgotten (handle : Nat)
  | consumerCloseForReattach (handle : Nat)
  | topicWatcher (watcherId : Nat)
  | newTxn
  | addPartitionToTxn
  | addSubscriptionToTxn
  | endTxn
  | tcClientConnect
  | getSchema
  deriving DecidableEq, Repr

structure Schema where
  name : String
  schemaData : List UInt8
  schemaType : Int
  properties : List (String × String) := []
  deriving DecidableEq, Repr

/-- `OpOutcome` of a request. -/
inductive RequestOutcome where
  | success
  | error (code : Int) (message : String)
  | lookupResponse (outcome : LookupOutcome)
  | partitionedMetadata (partitions : Nat) (error : Option (Int × String))
  | newTxn (result : Except TxnError TxnId)
  | addPartitionToTxn (result : Except TxnError Unit)
  | addSubscriptionToTxn (result : Except TxnError Unit)
  | endTxn (result : Except TxnError TxnState)
  | lastMessageId (lastMessageId : MessageId) (consumerMarkDeletePosition : Option MessageId)
  | topicListSnapshot (topics : List String)
  | getSchemaResponse (result : Except (Int × String) (Schema × Option (List UInt8)))
  | sessionLost
  | terminal (reason : String)
  deriving DecidableEq

/-- The answer of `fail_all_pending` and `reset` goes to the consumer, or to nobody. -/
def RequestKind.endsUnanswered : RequestKind → Bool
  | .consumerUnsubscribe _ => true
  | .consumerClose _ => true
  | .consumerCloseForgotten _ => true
  | .producerCloseForgotten _ => true
  | .consumerCloseForReattach _ => true
  | _ => false

/-- Nobody waits for the request. -/
def RequestKind.isForgotten : RequestKind → Bool
  | .producerCloseForgotten _ => true
  | .consumerCloseForReattach _ => true
  | _ => false

/-! ### One request id -/

/-- What the connection's tables hold for one request id: the pending request, the outcome that is
there to collect, and whether a waker is parked.  `issued`, `stored` and `collected` are history
that no operation reads: how often the id was handed out, how often an outcome was stored that was
not there yet, and how often the request was collected or cancelled. -/
structure Ticket where
  kind : Option RequestKind := none
  outcome : Option RequestOutcome := none
  parked : Bool := false
  issued : Nat := 0
  stored : Nat := 0
  collected : Nat := 0
  deriving DecidableEq

namespace Ticket

def pend (ticket : Ticket) (kind : RequestKind) : Ticket :=
  { ticket with kind := some kind }

def forget (ticket : Ticket) : Ticket :=
  { ticket with kind := none }

def store (ticket : Ticket) (outcome : RequestOutcome) : Ticket :=
  { ticket with
    outcome := some outcome
    stored := if ticket.outcome = some outcome then ticket.stored else ticket.stored + 1 }

def unpark (ticket : Ticket) : Ticket :=
  { ticket with parked := false }

/-- Store an outcome and wake whoever waits for it. -/
def record (ticket : Ticket) (outcome : RequestOutcome) : Ticket :=
  (ticket.store outcome).unpark

def cancel (ticket : Ticket) : Ticket :=
  { ticket with
    kind := none
    outcome := none
    parked := false
    collected :=
      if ticket.kind.isSome || ticket.outcome.isSome then ticket.collected + 1
      else ticket.collected }

def take (ticket : Ticket) : Ticket :=
  { ticket with
    outcome := none
    collected := if ticket.outcome.isSome then ticket.collected + 1 else ticket.collected }

/-- A waker that finds its outcome is woken at once. -/
def park (ticket : Ticket) : Ticket :=
  if ticket.outcome.isSome then ticket else { ticket with parked := true }

/-- An acknowledgement that will not be answered.  Only a parked waker shows that somebody is left
to collect the outcome. -/
def expireAck (ticket : Ticket) (message : String) : Ticket :=
  if ticket.parked then ticket.forget.record (.error (-1) message) else ticket.forget

/-- The first pass of `reset` and `fail_all_pending`, over the pending requests. -/
def endPending (ticket : Ticket) (outcome : RequestOutcome) : Ticket :=
  match ticket.kind with
  | none => ticket
  | some kind =>
    if kind.isForgotten then ticket.forget.unpark
    else if kind.endsUnanswered then ticket.forget
    else ticket.forget.record outcome

/-- The second pass, over the wakers that are left. -/
def endParked (ticket : Ticket) (outcome : RequestOutcome) : Ticket :=
  if ticket.parked then ticket.record outcome else ticket

end Ticket

/-! ### The end of a consumer -/

inductive CloseCompletion where
  | success
  | brokerError (code : Int) (message : String)
  | sessionLost
  | terminal (reason : String)
  deriving DecidableEq, Repr

inductive CloseOrigin where
  | reliable
  | bestEffort
  deriving DecidableEq, Repr

/-- `ConsumerTerminalOperation`.  The unsubscribe operation itself is kept by its request id, since
those who wait for it keep it longer than the consumer does. -/
inductive TerminalOperation where
  | opened
  | pending (requestId : Nat) (origin : CloseOrigin)
  | complete (requestId : Option Nat) (origin : CloseOrigin) (completion : CloseCompletion)
  | unsubscribePending (requestId : Nat)
  deriving DecidableEq, Repr

inductive TerminalAdmissionError where
  | unknownConsumer
  | unsubscribeInProgress
  | closeInProgress
  | closed
  | terminal
  deriving DecidableEq, Repr

/-- What its requests change of a consumer.  `lastSeek` is history: the last seek sent for it. -/
structure ConsumerEnd where
  pendingSeek : Option Nat := none
  terminalOperation : TerminalOperation := .opened
  closed : Bool := false
  forcedCloseRetryIssued : Bool := false
  lastSeek : Option Nat := none
  deriving DecidableEq

namespace ConsumerEnd

variable (consumer : ConsumerEnd)

def beginSeek (requestId : Nat) : ConsumerEnd :=
  { consumer with pendingSeek := some requestId, lastSeek := some requestId }

/-- `seek_acked` does not ask which seek was acknowledged. -/
def seekAcked : ConsumerEnd :=
  { consumer with pendingSeek := none }

def completeClose (requestId : Nat) (completion : CloseCompletion) : ConsumerEnd :=
  match consumer.terminalOperation with
  | .pending pending origin =>
    if pending = requestId then
      { consumer with terminalOperation := .complete (some requestId) origin completion }
    else consumer
  | _ => consumer

/-- The consumer of a connection that has no driver left: what is open is closed. -/
def terminate (origin : CloseOrigin) (reason : String) : ConsumerEnd :=
  match consumer.terminalOperation with
  | .opened =>
    { consumer with
      terminalOperation := .complete none origin (.terminal reason)
      closed := true }
  | _ => consumer

end ConsumerEnd

/-! ### The desk -/

structure RequestDesk where
  ackResponseTimeout : Option Nat := none
  nextRequestId : Nat := 0
  tickets : Table Nat Ticket := ∅
  lookup : LookupRegistry := {}
  txnClient : TxnClient := {}
  endTxnWaiters : Table TxnId TxnAction := ∅
  endTxnRequests : Table (TxnId × TxnAction) Nat := ∅
  endTxnRequestKeys : Table Nat (TxnId × TxnAction) := ∅
  nextWatcherId : Nat := 0
  nextConsumerId : Nat := 0
  consumers : Table Nat ConsumerEnd := ∅
  unsubscribes : Table Nat (Option CloseCompletion) := ∅
  terminalAdmissionReason : Option String := none

/-- The replies of the broker to a request.  An error that rejects the first subscribe of a consumer
(`provisional`) removes the consumer. -/
inductive ReplyFrame where
  | producerSuccess (requestId : Nat)
  | success (requestId : Nat)
  | error (requestId : Nat) (code : Int) (message : String) (provisional : Bool)
  | ackResponse (requestId : Option Nat) (error : Option Int) (message : Option String)
  | lookupResponse (requestId : Nat) (response : LookupTopicResponse)
  | partitionedMetadataResponse (requestId : Nat) (partitions : Option Nat) (error : Option Int)
      (message : Option String)
  | getLastMessageIdResponse (requestId : Nat) (lastMessageId : MessageId)
      (consumerMarkDeletePosition : Option MessageId)
  | watchTopicListSuccess (requestId : Nat) (topics : List String)
  | newTxnResponse (requestId : Nat) (reply : TxnReply) (txnId : TxnId)
  | addPartitionToTxnResponse (requestId : Nat) (reply : TxnReply)
  | addSubscriptionToTxnResponse (requestId : Nat) (reply : TxnReply)
  | endTxnResponse (requestId : Nat) (reply : TxnReply)
  | tcClientConnectResponse (requestId : Nat) (reply : TxnReply)
  | getSchemaResponse (requestId : Nat) (schema : Option Schema) (errorCode : Option Int)
      (errorMessage : Option String) (schemaVersion : Option (List UInt8))

def ReplyFrame.requestId : ReplyFrame → Option Nat
  | .producerSuccess requestId => some requestId
  | .success requestId => some requestId
  | .error requestId _ _ _ => some requestId
  | .ackResponse requestId _ _ => requestId
  | .lookupResponse requestId _ => some requestId
  | .partitionedMetadataResponse requestId _ _ _ => some requestId
  | .getLastMessageIdResponse requestId _ _ => some requestId
  | .watchTopicListSuccess requestId _ => some requestId
  | .newTxnResponse requestId _ _ => some requestId
  | .addPartitionToTxnResponse requestId _ => some requestId
  | .addSubscriptionToTxnResponse requestId _ => some requestId
  | .endTxnResponse requestId _ => some requestId
  | .tcClientConnectResponse requestId _ => some requestId
  | .getSchemaResponse requestId _ _ _ _ => some requestId

variable (desk : RequestDesk)

variable (requestId : Nat)

variable (handle : Nat)

namespace RequestDesk

def ticket : Ticket :=
  (desk.tickets.lookup requestId).getD {}

def modifyTicket (update : Ticket → Ticket) : RequestDesk :=
  { desk with tickets := desk.tickets.insert requestId (update (desk.ticket requestId)) }

def mapTickets (update : Ticket → Ticket) : RequestDesk :=
  { desk with tickets := desk.tickets.mapValues update }

def modifyConsumer (update : ConsumerEnd → ConsumerEnd) : RequestDesk :=
  { desk with consumers := desk.consumers.modify handle update }

def removeConsumer : RequestDesk :=
  { desk with consumers := desk.consumers.erase handle }

def forget : RequestDesk :=
  desk.modifyTicket requestId Ticket.forget

variable (outcome : RequestOutcome) (txn : TxnId) (topic : String) (completion : CloseCompletion)
  (reply : TxnReply)

def record : RequestDesk :=
  desk.modifyTicket requestId fun ticket => ticket.record outcome

/-- The request is answered: it is pending no more and has an outcome. -/
def settle : RequestDesk :=
  desk.modifyTicket requestId fun ticket => ticket.forget.record outcome

/-- The id the next request gets, with its use recorded. -/
def allocRequestId : RequestDesk :=
  { desk with nextRequestId := (desk.nextRequestId + 1) % 2 ^ 64 }.modifyTicket desk.nextRequestId
    fun ticket => { ticket with issued := ticket.issued + 1 }

/-- Send a request of the kind under the next id. -/
def request (kind : RequestKind) : RequestDesk :=
  desk.allocRequestId.modifyTicket desk.nextRequestId fun ticket => ticket.pend kind

/-! ### Calls that send a request

Each returns the id it was sent under, which is the next one unless said otherwise. -/

def lookupRejectedMessage : String :=
  "lookup rejected: max pending (ConnectionConfig::max_pending_lookups)"

/-- `encodes` is the verdict of the frame encoder, which comes after the registry's. -/
def lookupWithBudget (authoritative : Bool) (hopsRemaining : Nat) (encodes : Bool) : RequestDesk :=
  let requestId := desk.nextRequestId
  let desk := desk.allocRequestId
  match desk.lookup.insertLookup requestId
      { topic, authoritative, hopsRemaining, chainOrigin := requestId } with
  | none => desk.settle requestId (.lookupResponse (.failed 0 lookupRejectedMessage))
  | some registry =>
    let desk := { desk with lookup := registry }
    if encodes then desk.modifyTicket requestId fun ticket => ticket.pend .lookup else desk

def lookupTopic (authoritative encodes : Bool) : RequestDesk :=
  desk.lookupWithBudget topic authoritative maxLookupRedirects encodes

def lookupRedirect (authoritative : Bool) (hopsRemaining : Nat) (encodes : Bool) : RequestDesk :=
  desk.lookupWithBudget topic authoritative (min hopsRemaining maxLookupRedirects) encodes

def metadataRejectedMessage : String :=
  "partitioned-metadata rejected: max pending (ConnectionConfig::max_pending_lookups)"

/-- The name of a partition is answered on the spot. -/
def getPartitionedTopicMetadata : RequestDesk :=
  let requestId := desk.nextRequestId
  let desk := desk.allocRequestId
  if isPartitionTopic topic then desk.settle requestId (.partitionedMetadata 0 none)
  else
    match desk.lookup.insertPartition requestId with
    | none => desk.settle requestId (.partitionedMetadata 0 (some (0, metadataRejectedMessage)))
    | some registry =>
      { desk with lookup := registry }.modifyTicket requestId fun ticket =>
        ticket.pend .partitionedMetadata

def getSchema : RequestDesk :=
  desk.request .getSchema

def watchTopicList : RequestDesk :=
  { desk with nextWatcherId := (desk.nextWatcherId + 1) % 2 ^ 64 }.request
    (.topicWatcher desk.nextWatcherId)

def getLastMessageId : RequestDesk :=
  desk.request (.consumerGetLastMessageId handle)

def seek : RequestDesk :=
  (desk.request (.consumerSeek handle)).modifyConsumer handle fun consumer =>
    consumer.beginSeek desk.nextRequestId

/-- A refused acknowledgement has its error at once. -/
def ack (request : AckRequest) (now : Nat) : RequestDesk :=
  if isRefused request then
    desk.allocRequestId.modifyTicket desk.nextRequestId fun ticket =>
      ticket.store (.error invalidBatchAckCode invalidBatchAckMessage)
  else desk.request (.ack handle now)

def openProducer : RequestDesk :=
  desk.request (.producerOpen handle)

def closeProducer (forgotten : Bool) : RequestDesk :=
  desk.request (if forgotten then .producerCloseForgotten handle else .producerClose handle)

def tcClientConnect : RequestDesk :=
  desk.request .tcClientConnect

def newTxn : RequestDesk :=
  { desk with txnClient := desk.txnClient.newTxn desk.nextRequestId }.request .newTxn

def addPartitionToTxn : RequestDesk :=
  { desk with txnClient := desk.txnClient.addPartition desk.nextRequestId txn topic }.request
    .addPartitionToTxn

def addSubscriptionToTxn (subscription topic : String) : RequestDesk :=
  { desk with
    txnClient := desk.txnClient.addSubscription desk.nextRequestId txn subscription topic }.request
      .addSubscriptionToTxn

/-- A second caller is refused; one whose predecessor went away gets the request that was sent. -/
def endTxn (action : TxnAction) : RequestDesk × Except TxnError Nat :=
  match desk.endTxnWaiters.lookup txn with
  | some active => (desk, .error (.alreadyEnding txn active))
  | none =>
    let desk := { desk with endTxnWaiters := desk.endTxnWaiters.insert txn action }
    match desk.endTxnRequests.lookup (txn, action) with
    | some requestId => (desk, .ok requestId)
    | none =>
      let requestId := desk.nextRequestId
      ({ desk with
          txnClient := desk.txnClient.endTxn requestId txn action
          endTxnRequests := desk.endTxnRequests.insert (txn, action) requestId
          endTxnRequestKeys := desk.endTxnRequestKeys.insert requestId (txn, action) }.request
        .endTxn, .ok requestId)

def releaseEndTxnWaiter (action : TxnAction) : RequestDesk :=
  if desk.endTxnWaiters.lookup txn = some action then
    { desk with endTxnWaiters := desk.endTxnWaiters.erase txn }
  else desk

/-! ### Collecting and cancelling -/

def registerWaker : RequestDesk :=
  desk.modifyTicket requestId Ticket.park

def unregisterWaker : RequestDesk :=
  desk.modifyTicket requestId Ticket.unpark

def takeOutcome : RequestDesk × Option RequestOutcome :=
  match (desk.ticket requestId).outcome with
  | none => (desk, none)
  | some outcome =>
    let desk := desk.modifyTicket requestId Ticket.take
    match desk.endTxnRequestKeys.lookup requestId with
    | none => (desk, some outcome)
    | some key =>
      ({ desk with
          endTxnRequestKeys := desk.endTxnRequestKeys.erase requestId
          endTxnRequests := desk.endTxnRequests.erase key },
        some outcome)

def cancelRequest : RequestDesk :=
  let desk := desk.modifyTicket requestId Ticket.cancel
  let desk :=
    { desk with lookup := (desk.lookup.takeLookup requestId).takePartition requestId }
  match desk.endTxnRequestKeys.lookup requestId with
  | none => desk
  | some key =>
    { desk with
      endTxnRequestKeys := desk.endTxnRequestKeys.erase requestId
      endTxnRequests := desk.endTxnRequests.erase key
      endTxnWaiters :=
        if desk.endTxnWaiters.lookup key.1 = some key.2 then desk.endTxnWaiters.erase key.1
        else desk.endTxnWaiters }

def pendingOf (kind : RequestKind) : List Nat :=
  (desk.tickets.entries.filter fun entry => entry.2.kind == some kind).map Sigma.fst

/-- `mayHold` is whether the broker may have registered the producer under this open. -/
def cancelProducerOpen (mayHold : Bool) : RequestDesk :=
  let cancelled := desk.pendingOf (.producerOpen handle)
  let desk := if mayHold then desk.closeProducer handle true else desk
  cancelled.foldl cancelRequest desk

/-- The open of an established producer was not answered in time. -/
def expireProducerOpen : RequestDesk :=
  match (desk.ticket requestId).kind with
  | some (.producerOpen _) => desk.forget requestId
  | _ => desk

/-! ### Opening and ending consumers -/

def subscribe : RequestDesk :=
  let handle := desk.nextConsumerId
  { desk with
    nextConsumerId := (handle + 1) % 2 ^ 64
    consumers := desk.consumers.insert handle {} }.request (.consumerSubscribe handle)

def resubscribe : RequestDesk :=
  desk.request (.consumerSubscribe handle)

def emitConsumerClose (forgotten : Bool) : RequestDesk :=
  desk.request (if forgotten then .consumerCloseForgotten handle else .consumerClose handle)

def emitConsumerCloseForReattach : RequestDesk :=
  desk.request (.consumerCloseForReattach handle)

/-- `completed` is whether the subscribe was acknowledged on the live session. -/
def cancelConsumerSubscribe (completed : Bool) : RequestDesk :=
  let cancelled := desk.pendingOf (.consumerSubscribe handle)
  let mayHold := (desk.consumers.lookup handle).any fun consumer =>
    !consumer.closed && (!cancelled.isEmpty || completed)
  let desk := if mayHold then desk.emitConsumerClose handle true else desk
  (cancelled.foldl cancelRequest desk).removeConsumer handle

/-- `close_consumer_inner`: one close is in flight at a time, and its result is reused. -/
def closeConsumer (origin : CloseOrigin) : RequestDesk × Except TerminalAdmissionError Nat :=
  match desk.terminalAdmissionReason with
  | some reason =>
    (desk.modifyConsumer handle fun consumer => consumer.terminate origin reason,
      .error .terminal)
  | none =>
    match desk.consumers.lookup handle with
    | none => (desk, .error .unknownConsumer)
    | some consumer =>
      match consumer.terminalOperation with
      | .pending requestId _ => (desk, .ok requestId)
      | .complete (some requestId) _ _ => (desk, .ok requestId)
      | .complete none _ _ => (desk, .error .terminal)
      | .unsubscribePending _ => (desk, .error .unsubscribeInProgress)
      | .opened =>
        let requestId := desk.nextRequestId
        ((desk.emitConsumerClose handle (origin == .bestEffort)).modifyConsumer handle
          fun consumer =>
            { consumer with
              terminalOperation := .pending requestId origin
              closed := true },
          .ok requestId)

/-- One more close, which nobody waits for, after a close that failed. -/
def forceCloseConsumerForget : RequestDesk :=
  if desk.terminalAdmissionReason.isSome then desk
  else
    match desk.consumers.lookup handle with
    | none => desk
    | some consumer =>
      match consumer.terminalOperation with
      | .complete _ _ .success => desk
      | .complete (some _) .reliable _ =>
        if consumer.forcedCloseRetryIssued then desk
        else
          (desk.modifyConsumer handle fun consumer =>
            { consumer with forcedCloseRetryIssued := true }).emitConsumerClose handle true
      | _ => desk

def unsubscribe : RequestDesk × Except TerminalAdmissionError Nat :=
  match desk.terminalAdmissionReason with
  | some reason =>
    (desk.modifyConsumer handle fun consumer => consumer.terminate .reliable reason,
      .error .terminal)
  | none =>
    match desk.consumers.lookup handle with
    | none => (desk, .error .unknownConsumer)
    | some consumer =>
      match consumer.terminalOperation with
      | .unsubscribePending _ => (desk, .error .unsubscribeInProgress)
      | .pending _ _ => (desk, .error .closeInProgress)
      | .complete _ _ _ => (desk, .error .closed)
      | .opened =>
        let requestId := desk.nextRequestId
        ({ desk with
            unsubscribes := desk.unsubscribes.insert requestId none }.request
              (.consumerUnsubscribe handle) |>.modifyConsumer handle fun consumer =>
            { consumer with terminalOperation := .unsubscribePending requestId },
          .ok requestId)

def publishConsumerClose (handle requestId : Nat) (completion : CloseCompletion) : RequestDesk :=
  desk.modifyConsumer handle fun consumer => consumer.completeClose requestId completion

/-- The first completion of an unsubscribe stays. -/
def completeUnsubscribe : RequestDesk :=
  { desk with
    unsubscribes := desk.unsubscribes.modify requestId fun earlier =>
      earlier.or (some completion) }

/-- The unsubscribe that the request was sent for is still the consumer's operation. -/
def unsubscribeIsCurrent (handle requestId : Nat) : Bool :=
  (desk.consumers.lookup handle).any fun consumer =>
    consumer.terminalOperation == .unsubscribePending requestId

/-- A failed unsubscribe leaves the consumer open (`reopen`); otherwise the consumer goes away. -/
def publishConsumerUnsubscribe (handle requestId : Nat)
    (completion : CloseCompletion) (reopen : Bool) : RequestDesk :=
  if desk.unsubscribeIsCurrent handle requestId then
    let desk := desk.completeUnsubscribe requestId completion
    if reopen then
      desk.modifyConsumer handle fun consumer => { consumer with terminalOperation := .opened }
    else
      (desk.modifyConsumer handle fun consumer =>
        { consumer with closed := true }).cancelConsumerSubscribe handle false
  else desk

/-! ### Requests that nobody will answer -/

def orphanedAckMessage : String := "ack orphaned by broker consumer close"

def ackTimeoutMessage : String := "ack timeout"

/-- The acknowledgements in flight when the broker drops its side of a consumer. -/
def failAcksOrphanedByConsumerReattach : RequestDesk :=
  desk.mapTickets fun ticket =>
    match ticket.kind with
    | some (.ack named _) =>
      if named = handle then ticket.expireAck orphanedAckMessage else ticket
    | _ => ticket

def handleTimeout (now : Nat) : RequestDesk :=
  match desk.ackResponseTimeout with
  | none => desk
  | some timeout =>
    desk.mapTickets fun ticket =>
      match ticket.kind with
      | some (.ack _ enqueuedAt) =>
        if now ≥ deadlineWithClamp enqueuedAt timeout then ticket.expireAck ackTimeoutMessage
        else ticket
      | _ => ticket

/-- The broker closed the consumer.  Without a new broker's address its acknowledgements are lost. -/
def handleCloseConsumer (assignedBrokerServiceUrl : Option String) : RequestDesk :=
  match assignedBrokerServiceUrl with
  | none => desk.failAcksOrphanedByConsumerReattach handle
  | some _ => desk

/-! ### Replies -/

/-- Whatever the request was, it is pending no more. -/
def handleProducerSuccess : RequestDesk :=
  desk.forget requestId

def handleSuccess : RequestDesk :=
  match (desk.ticket requestId).kind with
  | none => desk
  | some kind =>
    let desk := desk.forget requestId
    match kind with
    | .consumerUnsubscribe handle =>
      desk.publishConsumerUnsubscribe handle requestId .success false
    | .consumerClose handle => desk.publishConsumerClose handle requestId .success
    | .consumerCloseForgotten handle => desk.publishConsumerClose handle requestId .success
    | .consumerCloseForReattach handle => desk.failAcksOrphanedByConsumerReattach handle
    | .producerCloseForgotten _ => desk
    | .consumerSubscribe _ => desk
    | .consumerSeek handle =>
      (desk.record requestId .success).modifyConsumer handle ConsumerEnd.seekAcked
    | _ => desk.record requestId .success

def handleError (code : Int) (message : String) (provisional : Bool) : RequestDesk :=
  match (desk.ticket requestId).kind with
  | none => desk
  | some kind =>
    let desk := desk.forget requestId
    match kind with
    | .consumerUnsubscribe handle =>
      desk.publishConsumerUnsubscribe handle requestId (.brokerError code message) true
    | .consumerClose handle =>
      desk.publishConsumerClose handle requestId (.brokerError code message)
    | .consumerCloseForgotten handle =>
      desk.publishConsumerClose handle requestId (.brokerError code message)
    | .consumerCloseForReattach _ => desk
    | .producerCloseForgotten _ => desk
    | .producerOpen _ => desk
    | .consumerSubscribe handle => if provisional then desk.removeConsumer handle else desk
    | _ => desk.record requestId (.error code message)

def handleAckResponse (requestId : Option Nat) (error : Option Int)
    (message : Option String) : RequestDesk :=
  match requestId with
  | none => desk
  | some requestId =>
    if (desk.ticket requestId).kind.isSome then
      desk.settle requestId
        (match message with
        | some message => .error (error.getD 0) message
        | none => .success)
    else desk

/-- Only the registry is asked whether the lookup is in flight. -/
def handleLookupResponse (response : LookupTopicResponse) : RequestDesk :=
  match desk.lookup.lookups.lookup requestId with
  | none => desk
  | some request =>
    { desk with lookup := desk.lookup.takeLookup requestId }.settle request.chainOrigin
      (.lookupResponse (translateLookupResponse response request))

def handlePartitionedMetadataResponse
    (partitions : Option Nat) (error : Option Int) (message : Option String) : RequestDesk :=
  match desk.lookup.partitions.lookup requestId with
  | none => desk
  | some _ =>
    { desk with lookup := desk.lookup.takePartition requestId }.settle requestId
      (.partitionedMetadata (partitions.getD 0) (error.map fun code => (code, message.getD "")))

/-- Nothing is asked: the outcome is stored whether or not the request was ever sent. -/
def handleGetLastMessageIdResponse
    (lastMessageId : MessageId) (consumerMarkDeletePosition : Option MessageId) : RequestDesk :=
  desk.settle requestId (.lastMessageId lastMessageId consumerMarkDeletePosition)

def handleWatchTopicListSuccess (topics : List String) : RequestDesk :=
  desk.settle requestId (.topicListSnapshot topics)

def handleNewTxnResponse (txnId : TxnId) : RequestDesk :=
  let (client, result) := desk.txnClient.handleNewTxnResponse requestId reply txnId
  let desk := { desk with txnClient := client }
  match result with
  | none => desk.forget requestId
  | some result => desk.settle requestId (.newTxn result)

def handleAddPartitionToTxnResponse : RequestDesk :=
  let (client, result) := desk.txnClient.handleAddPartitionResponse requestId reply
  { desk with txnClient := client }.settle requestId (.addPartitionToTxn result)

def handleAddSubscriptionToTxnResponse : RequestDesk :=
  let (client, result) := desk.txnClient.handleAddSubscriptionResponse requestId reply
  { desk with txnClient := client }.settle requestId (.addSubscriptionToTxn result)

def handleEndTxnResponse : RequestDesk :=
  let (client, result) := desk.txnClient.handleEndTxnResponse requestId reply
  { desk with txnClient := client }.settle requestId (.endTxn result)

def handleTcClientConnectResponse : RequestDesk :=
  desk.settle requestId
    (match reply.error with
    | none => .success
    | some code => if code = 0 then .success else .error code (reply.message.getD ""))

def emptySchemaMessage : String := "broker returned empty CommandGetSchemaResponse"

def handleGetSchemaResponse (schema : Option Schema)
    (errorCode : Option Int) (errorMessage : Option String)
    (schemaVersion : Option (List UInt8)) : RequestDesk :=
  if (desk.ticket requestId).kind = some .getSchema then
    desk.settle requestId (.getSchemaResponse
      (match schema, errorCode with
      | some schema, none => .ok (schema, schemaVersion)
      | _, some code => .error (code, errorMessage.getD "")
      | none, none => .error (0, emptySchemaMessage)))
  else desk

def handleReply : ReplyFrame → RequestDesk
  | .producerSuccess requestId => desk.handleProducerSuccess requestId
  | .success requestId => desk.handleSuccess requestId
  | .error requestId code message provisional => desk.handleError requestId code message provisional
  | .ackResponse requestId error message => desk.handleAckResponse requestId error message
  | .lookupResponse requestId response => desk.handleLookupResponse requestId response
  | .partitionedMetadataResponse requestId partitions error message =>
    desk.handlePartitionedMetadataResponse requestId partitions error message
  | .getLastMessageIdResponse requestId lastMessageId position =>
    desk.handleGetLastMessageIdResponse requestId lastMessageId position
  | .watchTopicListSuccess requestId topics => desk.handleWatchTopicListSuccess requestId topics
  | .newTxnResponse requestId reply txnId => desk.handleNewTxnResponse requestId reply txnId
  | .addPartitionToTxnResponse requestId reply =>
    desk.handleAddPartitionToTxnResponse requestId reply
  | .addSubscriptionToTxnResponse requestId reply =>
    desk.handleAddSubscriptionToTxnResponse requestId reply
  | .endTxnResponse requestId reply => desk.handleEndTxnResponse requestId reply
  | .tcClientConnectResponse requestId reply => desk.handleTcClientConnectResponse requestId reply
  | .getSchemaResponse requestId schema errorCode errorMessage schemaVersion =>
    desk.handleGetSchemaResponse requestId schema errorCode errorMessage schemaVersion

/-! ### The end of the session and of the connection -/

/-- The pending request is the one that the consumer's close or unsubscribe waits for. -/
def awaitsPending (consumer : ConsumerEnd) : Bool :=
  match consumer.terminalOperation with
  | .pending requestId _ =>
    (desk.ticket requestId).kind == some (.consumerClose handle) ||
      (desk.ticket requestId).kind == some (.consumerCloseForgotten handle)
  | .unsubscribePending requestId =>
    (desk.ticket requestId).kind == some (.consumerUnsubscribe handle)
  | _ => false

/-- The first pass over the pending requests, as far as consumers wait for them: a close completes
on its consumer, an unsubscribe leaves the consumer open. -/
def endOperation (handle : Nat) (consumer : ConsumerEnd) : ConsumerEnd :=
  if desk.awaitsPending handle consumer then
    match consumer.terminalOperation with
    | .pending requestId origin =>
      { consumer with terminalOperation := .complete (some requestId) origin completion }
    | _ => { consumer with terminalOperation := .opened }
  else consumer

/-- The pending unsubscribes that are still their consumer's operation complete. -/
def endUnsubscribes : Table Nat (Option CloseCompletion) :=
  desk.unsubscribes.mapWithKey fun requestId earlier =>
    match (desk.ticket requestId).kind with
    | some (.consumerUnsubscribe handle) =>
      if desk.unsubscribeIsCurrent handle requestId then earlier.or (some completion) else earlier
    | _ => earlier

/-- The passes over the requests that `reset` and `fail_all_pending` share: the pending ones, the
wakers that are left, and the lookups of the registry. -/
def endRequests : RequestDesk :=
  (desk.lookup.lookups.keys ++ desk.lookup.partitions.keys).foldl
    (fun desk requestId => desk.record requestId outcome)
    (desk.mapTickets fun ticket => (ticket.endPending outcome).endParked outcome)

/-- The session is lost.  Consumers stay, without the seek they waited for. -/
def reset : RequestDesk :=
  { desk.endRequests .sessionLost with
    lookup := { maxPending := desk.lookup.maxPending }
    unsubscribes := desk.endUnsubscribes .sessionLost
    consumers := desk.consumers.mapWithKey fun handle consumer =>
      { desk.endOperation .sessionLost handle consumer with pendingSeek := none } }

/-- The connection has no driver any more.  A consumer whose unsubscribe was pending goes away, and
one that is open is closed. -/
def failAllPending (reason : String) : RequestDesk :=
  let ended := fun handle consumer =>
    (desk.endOperation (.terminal reason) handle consumer).terminate .reliable reason
  { desk.endRequests (.terminal reason) with
    terminalAdmissionReason := some reason
    unsubscribes := desk.endUnsubscribes (.terminal reason)
    consumers := (desk.consumers.mapWithKey ended).retain fun handle =>
      !(desk.consumers.lookup handle).any fun consumer =>
        match consumer.terminalOperation with
        | .unsubscribePending _ => desk.awaitsPending handle consumer
        | _ => false }

end RequestDesk

/-- An operation on the requests of a connection. -/
inductive DeskOp where
  | lookupTopic (topic : String) (authoritative encodes : Bool)
  | lookupRedirect (topic : String) (authoritative : Bool) (hopsRemaining : Nat) (encodes : Bool)
  | getPartitionedTopicMetadata (topic : String)
  | getSchema
  | watchTopicList
  | getLastMessageId (handle : Nat)
  | seek (handle : Nat)
  | ack (handle : Nat) (request : AckRequest) (now : Nat)
  | openProducer (handle : Nat)
  | closeProducer (handle : Nat) (forgotten : Bool)
  | cancelProducerOpen (handle : Nat) (mayHold : Bool)
  | expireProducerOpen (requestId : Nat)
  | tcClientConnect
  | newTxn
  | addPartitionToTxn (txn : TxnId) (topic : String)
  | addSubscriptionToTxn (txn : TxnId) (subscription topic : String)
  | endTxn (txn : TxnId) (action : TxnAction)
  | releaseEndTxnWaiter (txn : TxnId) (action : TxnAction)
  | registerWaker (requestId : Nat)
  | unregisterWaker (requestId : Nat)
  | takeOutcome (requestId : Nat)
  | cancelRequest (requestId : Nat)
  | subscribe
  | resubscribe (handle : Nat)
  | cancelConsumerSubscribe (handle : Nat) (completed : Bool)
  | closeConsumer (handle : Nat) (origin : CloseOrigin)
  | forceCloseConsumerForget (handle : Nat)
  | unsubscribe (handle : Nat)
  | closeForReattach (handle : Nat)
  | handleTimeout (now : Nat)
  | closeConsumerFrame (handle : Nat) (assignedBrokerServiceUrl : Option String)
  | reply (frame : ReplyFrame)
  | reset
  | failAllPending (reason : String)

namespace RequestDesk

def fresh (ackResponseTimeout : Option Nat) (maxPending : Nat) : RequestDesk :=
  { ackResponseTimeout, lookup := { maxPending } }

def step : DeskOp → RequestDesk
  | .lookupTopic topic authoritative encodes => desk.lookupTopic topic authoritative encodes
  | .lookupRedirect topic authoritative hopsRemaining encodes =>
    desk.lookupRedirect topic authoritative hopsRemaining encodes
  | .getPartitionedTopicMetadata topic => desk.getPartitionedTopicMetadata topic
  | .getSchema => desk.getSchema
  | .watchTopicList => desk.watchTopicList
  | .getLastMessageId handle => desk.getLastMessageId handle
  | .seek handle => desk.seek handle
  | .ack handle request now => desk.ack handle request now
  | .openProducer handle => desk.openProducer handle
  | .closeProducer handle forgotten => desk.closeProducer handle forgotten
  | .cancelProducerOpen handle mayHold => desk.cancelProducerOpen handle mayHold
  | .expireProducerOpen requestId => desk.expireProducerOpen requestId
  | .tcClientConnect => desk.tcClientConnect
  | .newTxn => desk.newTxn
  | .addPartitionToTxn txn topic => desk.addPartitionToTxn txn topic
  | .addSubscriptionToTxn txn subscription topic => desk.addSubscriptionToTxn txn subscription topic
  | .endTxn txn action => (desk.endTxn txn action).1
  | .releaseEndTxnWaiter txn action => desk.releaseEndTxnWaiter txn action
  | .registerWaker requestId => desk.registerWaker requestId
  | .unregisterWaker requestId => desk.unregisterWaker requestId
  | .takeOutcome requestId => (desk.takeOutcome requestId).1
  | .cancelRequest requestId => desk.cancelRequest requestId
  | .subscribe => desk.subscribe
  | .resubscribe handle => desk.resubscribe handle
  | .cancelConsumerSubscribe handle completed => desk.cancelConsumerSubscribe handle completed
  | .closeConsumer handle origin => (desk.closeConsumer handle origin).1
  | .forceCloseConsumerForget handle => desk.forceCloseConsumerForget handle
  | .unsubscribe handle => (desk.unsubscribe handle).1
  | .closeForReattach handle => desk.emitConsumerCloseForReattach handle
  | .handleTimeout now => desk.handleTimeout now
  | .closeConsumerFrame handle url => desk.handleCloseConsumer handle url
  | .reply frame => desk.handleReply frame
  | .reset => desk.reset
  | .failAllPending reason => desk.failAllPending reason

end RequestDesk

end Magnetar.Proto.Connection
