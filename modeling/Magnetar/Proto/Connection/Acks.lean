import Magnetar.Proto.Connection.Slots
import Magnetar.Proto.Consumer.Acking

/-!
Contract: the acknowledgement calls of a connection, for one of its consumers.

Owns: `ack` with its validation, the grouped calls and the flush of a group, negative
acknowledgements, the tracker part of a timer tick, the flush at a close, and the machine of all of
these together with every other change of the consumer.

Does not own: the other consumers, which no call for this one touches, and the encoding of a
command, which fails above four gibibytes only.
-/

namespace Magnetar.Proto.Connection

open Pb External Consumer Trackers.Ack Trackers.Nack Trackers.Unacked

inductive AckCommand where
  | ack (command : CommandAck)
  | redeliver (command : CommandRedeliverUnacknowledgedMessages)
  deriving DecidableEq, Repr

def invalidBatchAckCode : Int := -1

def invalidBatchAckMessage : String := "invalid batched message id"

/-- `OpOutcome::Error` of a refused acknowledgement. -/
structure AckError where
  requestId : Nat
  code : Int
  message : String
  deriving DecidableEq, Repr

/-- A consumer, the commands sent for it, oldest first, and its refused acknowledgements. -/
structure AckSession where
  consumer : AckingConsumer
  nextRequestId : Nat := 0
  sent : List AckCommand := []
  failed : List AckError := []

/-- An id whose batch index does not lie in the batch it names. -/
def isMalformed (id : MessageId) : Bool :=
  decide (id.batchIndex ≥ 0) && (decide (id.batchSize ≤ 0) || decide (id.batchIndex ≥ id.batchSize))

/-- An individual acknowledgement is refused as a whole when one of its ids is malformed. -/
def isRefused (ack : AckRequest) : Bool :=
  decide (ack.ackType = .individual) && ack.messageIds.any isMalformed

def ackProperties (ack : AckRequest) : List KeyLongValue :=
  ack.properties.map fun property =>
    { key := property.1, value := (property.2 % 2 ^ 64).toNat }

namespace AckSession

variable (consumer : AckingConsumer) (session : AckSession) (messageId : MessageId) (now : Nat)

def send (command : AckCommand) : AckSession :=
  { session with sent := session.sent ++ [command] }

def emitRedeliverUnacked (messageIds : List MessageId) : AckSession :=
  session.send (.redeliver {
    consumerId := session.consumer.handle, messageIds := messageIds.map MessageId.toPb })

def commandAck (ack : AckRequest) (messageId : List MessageIdData) : CommandAck where
  consumerId := session.consumer.handle
  ackType := ack.ackType
  messageId := messageId
  properties := ackProperties ack
  txnidLeastBits := ack.txnId.map TxnId.leastSigBits
  txnidMostBits := ack.txnId.map TxnId.mostSigBits
  requestId := some session.nextRequestId

def ackInner (ack : AckRequest) (messageIdData : Option (List MessageIdData)) : AckSession :=
  let counted := { session with nextRequestId := (session.nextRequestId + 1) % 2 ^ 64 }
  if isRefused ack then
    { counted with
      failed := session.failed ++ [{
        requestId := session.nextRequestId, code := invalidBatchAckCode,
        message := invalidBatchAckMessage }] }
  else
    let (consumer, sent) := session.consumer.applyAck ack messageIdData
    { counted with consumer := consumer }.send (.ack (session.commandAck ack sent))

def ack (ack : AckRequest) : AckSession :=
  session.ackInner ack none

/-! ### Grouped acknowledgements -/

/-- The request that an action of the grouping tracker stands for. -/
def actionRequest : AckAction → AckRequest
  | .sendIndividualAck _ messageIds => { messageIds, ackType := .individual }
  | .sendCumulativeAck _ messageId => { messageIds := [messageId], ackType := .cumulative }

def dispatchAckActions (actions : List AckAction) : AckSession :=
  actions.foldl (fun session action => session.ack (actionRequest action)) session

def withAckTracker (tracker : AckGroupingTracker) : AckSession :=
  { session with consumer := { session.consumer with ackTracker := some tracker } }

/-- Without a tracker the acknowledgement goes out at once. -/
def ackGrouped (stage : AckGroupingTracker → AckGroupingTracker × List AckAction)
    (immediate : AckRequest) : AckSession :=
  match session.consumer.ackTracker with
  | some tracker =>
    let (tracker, actions) := stage tracker
    (session.withAckTracker tracker).dispatchAckActions actions
  | none => session.ack immediate

def ackGroupedIndividual : AckSession :=
  session.ackGrouped (fun tracker => tracker.addIndividual messageId now)
    { messageIds := [messageId], ackType := .individual }

def ackGroupedCumulative : AckSession :=
  session.ackGrouped (fun tracker => tracker.addCumulative messageId now)
    { messageIds := [messageId], ackType := .cumulative }

/-! ### Negative acknowledgements -/

/-- The acknowledgement-timeout tracker forgets ids that are handed to the other tracker. -/
def forgetUnacked (ids : List MessageId) : AckingConsumer :=
  { consumer with
    unackedTracker := consumer.unackedTracker.map fun tracker =>
      ids.foldl (fun kept id => kept.remove id) tracker }

/-- Without a tracker, or without ids, the redelivery is asked for at once. -/
def negativeAck (messageIds : List MessageId) (now : Nat) : AckSession :=
  if messageIds.isEmpty then session.emitRedeliverUnacked []
  else
    let consumer := forgetUnacked session.consumer messageIds
    match consumer.nackTracker with
    | some tracker =>
      { session with
        consumer := { consumer with
          nackTracker := some (messageIds.foldl (fun kept id => kept.add id now) tracker) } }
    | none => { session with consumer := consumer }.emitRedeliverUnacked messageIds

def negativeAckWithDelay (delay now : Nat) : AckSession :=
  let consumer := forgetUnacked session.consumer [messageId]
  match consumer.nackTracker with
  | some tracker =>
    { session with
      consumer := { consumer with nackTracker := some (tracker.addWithDelay messageId delay now) } }
  | none => { session with consumer := consumer }.emitRedeliverUnacked [messageId]

def redeliverUnackedAll : AckSession :=
  session.emitRedeliverUnacked []

/-! ### The timer -/

def nackDue : List (List MessageId) :=
  match consumer.nackTracker with
  | some tracker => (tracker.poll now).2.map RedeliverUnacked.messageIds
  | none => []

def unackedDue : List (List MessageId) :=
  match consumer.unackedTracker with
  | some tracker => (tracker.poll now).2.map UnackedMessageTracker.RedeliverExpired.messageIds
  | none => []

def ackDue : List AckAction :=
  match consumer.ackTracker with
  | some tracker => (tracker.poll now).2
  | none => []

/-- The three trackers are polled, then incomplete chunked messages expire. -/
def pollTrackers (stallTimeout : Option Nat) (now : Nat) : AckingConsumer :=
  let polled : AckingConsumer := { consumer with
    nackTracker := consumer.nackTracker.map fun tracker => (tracker.poll now).1
    unackedTracker := consumer.unackedTracker.map fun tracker => (tracker.poll now).1
    ackTracker := consumer.ackTracker.map fun tracker => (tracker.poll now).1 }
  let ticked := ((polled.toConsumerState.timerTick stallTimeout now).map Prod.fst).getD
    polled.toConsumerState
  { polled with toConsumerState := ticked }

def sweptAcks : List AckRequest :=
  let ids := (consumer.sweepExpiredChunks now).chunkAutoAckPending
  if ids.isEmpty then [] else [{ messageIds := ids, ackType := .individual }]

/-- The acknowledgements of expired chunks belong to no transaction. -/
theorem sweptAcks_outside {request : AckRequest} {consumer : AckingConsumer} {now : Nat}
    (member : request ∈ sweptAcks consumer now) : request.txnId = none := by
  rw [sweptAcks] at member
  split at member
  · cases member
  · rw [List.mem_singleton.mp member]

def handleTimeout (stallTimeout : Option Nat) (now : Nat) : AckSession :=
  let polled := { session with consumer := pollTrackers session.consumer stallTimeout now }
  let redelivered := (nackDue session.consumer now ++ unackedDue session.consumer now).foldl
    (fun session ids => session.emitRedeliverUnacked ids) polled
  let swept := (sweptAcks session.consumer now).foldl (fun session ack => session.ack ack)
    redelivered
  swept.dispatchAckActions (ackDue session.consumer now)

/-- A close hands over the staged group before the close command goes out. -/
def closeConsumer : AckSession :=
  if session.consumer.terminalOperation = .opened then
    let requestId := session.nextRequestId
    let counted := { session with nextRequestId := (requestId + 1) % 2 ^ 64 }
    let closed := { session.consumer with
      toConsumerState := session.consumer.toConsumerState.closeRequested requestId }
    match session.consumer.ackTracker with
    | some tracker =>
      let (tracker, actions) := tracker.flush
      ({ counted with consumer := closed }.withAckTracker tracker).dispatchAckActions actions
    | none => { counted with consumer := closed }
  else session

end AckSession

/-! ### The machine -/

inductive AckOp where
  /-- Any other change of the consumer: a delivery, a pop, a reset, a seek and so on. -/
  | slot (op : SlotOp)
  | ack (request : AckRequest) (messageIdData : Option (List MessageIdData))
  | ackGroupedIndividual (messageId : MessageId) (now : Nat)
  | ackGroupedCumulative (messageId : MessageId) (now : Nat)
  | negativeAck (messageIds : List MessageId) (now : Nat)
  | negativeAckWithDelay (messageId : MessageId) (delay now : Nat)
  | redeliverUnackedAll
  | handleTimeout (stallTimeout : Option Nat) (now : Nat)
  | closeConsumer
  | settleTransactionalAcks (txnId : TxnId) (committed : Bool)

namespace AckSession

variable (single : Prost SingleMessageMetadata) (codecs : Codecs)

def step (session : AckSession) : AckOp → AckSession
  | .slot op =>
    { session with
      consumer := { session.consumer with
        toConsumerState := slotStep single codecs session.consumer.toConsumerState op } }
  | .ack request messageIdData => session.ackInner request messageIdData
  | .ackGroupedIndividual messageId now => session.ackGroupedIndividual messageId now
  | .ackGroupedCumulative messageId now => session.ackGroupedCumulative messageId now
  | .negativeAck messageIds now => session.negativeAck messageIds now
  | .negativeAckWithDelay messageId delay now => session.negativeAckWithDelay messageId delay now
  | .redeliverUnackedAll => session.redeliverUnackedAll
  | .handleTimeout stallTimeout now => session.handleTimeout stallTimeout now
  | .closeConsumer => session.closeConsumer
  | .settleTransactionalAcks txnId committed =>
    { session with consumer := session.consumer.settleTransactionalAcks txnId committed }

end AckSession

end Magnetar.Proto.Connection
