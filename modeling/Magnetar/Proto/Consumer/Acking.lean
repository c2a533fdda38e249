import Magnetar.Proto.Consumer.State
import Magnetar.Proto.Trackers.Ack
import Magnetar.Proto.Trackers.Nack

/-!
Contract: what an acknowledgement does to one consumer.

Owns: the acknowledgement request, the consumer with the trackers that acknowledgements feed, the
walk over the ids of a request that clears batch positions and fills in the bit set each id goes
out with, the pruning below a cumulative id, and the isolation of transactional acknowledgements
until their commit.

Does not own: validating a request and sending it (`Connection.Acks`).
-/

namespace Magnetar.Proto.Consumer

open Pb

structure TxnId where
  mostSigBits : Nat
  leastSigBits : Nat
  deriving DecidableEq, Repr, Inhabited

structure AckRequest where
  messageIds : List MessageId
  ackType : AckType
  properties : List (String × Int) := []
  txnId : Option TxnId := none
  deriving DecidableEq, Repr

abbrev EntryKey := Nat × Nat

/-- The order of a pair of unsigned integers. -/
def EntryKey.le (left right : EntryKey) : Bool :=
  decide (left.1 < right.1) || (left.1 == right.1 && decide (left.2 ≤ right.2))

end Magnetar.Proto.Consumer

namespace Magnetar.Proto.Pb.MessageId

def entryKey (id : MessageId) : Magnetar.Proto.Consumer.EntryKey :=
  (id.ledgerId, id.entryId)

/-- `Iterator::max`: of several greatest ids, the last. -/
def greatest : List MessageId → Option MessageId
  | [] => none
  | id :: rest =>
    match greatest rest with
    | some best => if id.le best then some best else some id
    | none => some id

end Magnetar.Proto.Pb.MessageId

namespace Magnetar.Proto.Consumer

open Library Pb BatchAck Trackers.Ack Trackers.Nack

abbrev BatchAckTable := Table EntryKey BatchAckEntry

structure PendingTransactionalAck where
  request : AckRequest
  messageIdData : Option (List MessageIdData)

structure PendingTransactionalAcks where
  batchAckTracker : BatchAckTable := ∅
  seededBatchKeys : List EntryKey := []
  acknowledgements : List PendingTransactionalAck := []

/-- The consumer with the trackers that its acknowledgements feed. -/
structure AckingConsumer extends ConsumerState where
  nackTracker : Option NegativeAcksTracker := none
  ackTracker : Option AckGroupingTracker := none
  pendingTransactionalAcks : Table TxnId PendingTransactionalAcks := ∅

/-! ### The ids of a request -/

def plainAckMessageIds (ack : AckRequest) (messageIdData : Option (List MessageIdData)) :
    List MessageIdData :=
  ack.messageIds.mapIdx fun index id =>
    (messageIdData.bind fun ids => ids[index]?).getD id.toPb

/-- An entry that is not tracked is tracked anew when the id names the size of its batch. -/
def reseed (tracker : BatchAckTable) (key : EntryKey) (data : MessageIdData) : BatchAckTable :=
  if (tracker.lookup key).isNone then
    match data.batchSize with
    | some batchSize =>
      if batchSize > 0 then
        tracker.insert key (BatchAckEntry.fromAckSet batchSize data.ackSet)
      else tracker
    | none => tracker
  else tracker

def ackIn (ackType : AckType) (entry : BatchAckEntry) (batchIndex : Int) : BatchAckEntry × Bool :=
  match ackType with
  | .individual => entry.ackPosition batchIndex
  | .cumulative => entry.ackCumulative batchIndex

/-- The loop body: an id with a batch index clears its position, takes along what is left of its
entry, and drops the entry once nothing is left. -/
def ackMessageId (ackType : AckType) (tracker : BatchAckTable) (id : MessageId)
    (data : MessageIdData) : BatchAckTable × MessageIdData :=
  if id.batchIndex < 0 then (tracker, data)
  else
    let seeded := reseed tracker id.entryKey data
    match seeded.lookup id.entryKey with
    | none => (seeded, { data with ackSet := [] })
    | some entry =>
      match ackIn ackType entry id.batchIndex with
      | (_, true) => (seeded.erase id.entryKey, { data with ackSet := [] })
      | (left, false) =>
        (seeded.insert id.entryKey left, { data with ackSet := left.ackSetI64 })

def ackMessageIds (ackType : AckType) :
    BatchAckTable → List (MessageId × MessageIdData) → BatchAckTable × List MessageIdData
  | tracker, [] => (tracker, [])
  | tracker, (id, data) :: rest =>
    let (next, sent) := ackMessageId ackType tracker id data
    let (last, others) := ackMessageIds ackType next rest
    (last, sent :: others)

/-- A cumulative acknowledgement forgets the entries below the greatest id, and that id's entry too
unless one of its positions was named. -/
def pruneToHorizon (tracker : BatchAckTable) (ids : List MessageId) : BatchAckTable :=
  match MessageId.greatest ids with
  | none => tracker
  | some greatest =>
    let horizon := greatest.entryKey
    let kept := Table.retain tracker fun key => EntryKey.le horizon key
    let horizonIsPartial := ids.any fun id =>
      decide (id.entryKey = horizon) && decide (id.batchIndex ≥ 0)
    if horizonIsPartial then kept else kept.erase horizon

def applyBatchAckState (tracker : BatchAckTable) (ack : AckRequest)
    (messageIdData : Option (List MessageIdData)) : BatchAckTable × List MessageIdData :=
  let (walked, sent) := ackMessageIds ack.ackType tracker
    (ack.messageIds.zip (plainAckMessageIds ack messageIdData))
  match ack.ackType with
  | .individual => (walked, sent)
  | .cumulative => (pruneToHorizon walked ack.messageIds, sent)

namespace AckingConsumer

variable (consumer : AckingConsumer)

/-- Both redelivery trackers forget the ids of a request. -/
def forgetIds (ids : List MessageId) : AckingConsumer :=
  { consumer with
    unackedTracker := consumer.unackedTracker.map fun tracker =>
      ids.foldl (fun kept id => kept.remove id) tracker
    nackTracker := consumer.nackTracker.map fun tracker =>
      ids.foldl (fun kept id => kept.remove id) tracker }

def applyLocalAckState (ack : AckRequest) (messageIdData : Option (List MessageIdData)) :
    AckingConsumer × List MessageIdData :=
  let (tracker, sent) := applyBatchAckState consumer.batchAckTracker ack messageIdData
  ({ consumer.forgetIds ack.messageIds with batchAckTracker := tracker }, sent)

/-- A transaction reads an entry of the consumer once, the first time it names it. -/
def seedTransaction (consumer : AckingConsumer) (pending : PendingTransactionalAcks) :
    List MessageId → PendingTransactionalAcks
  | [] => pending
  | id :: rest =>
    let seeded :=
      if id.batchIndex < 0 ∨ id.entryKey ∈ pending.seededBatchKeys then pending
      else
        { pending with
          seededBatchKeys := id.entryKey :: pending.seededBatchKeys
          batchAckTracker :=
            match consumer.batchAckTracker.lookup id.entryKey with
            | some initial => pending.batchAckTracker.insert id.entryKey initial
            | none => pending.batchAckTracker }
    consumer.seedTransaction seeded rest

/-- Inside a transaction the positions are cleared in the transaction's own copy. -/
def applyTransactionalAck (txnId : TxnId) (ack : AckRequest)
    (messageIdData : Option (List MessageIdData)) : AckingConsumer × List MessageIdData :=
  let pending := (consumer.pendingTransactionalAcks.lookup txnId).getD {}
  let seeded := consumer.seedTransaction pending ack.messageIds
  let (tracker, sent) := applyBatchAckState seeded.batchAckTracker ack messageIdData
  let pending := { seeded with
    batchAckTracker := tracker
    acknowledgements := seeded.acknowledgements ++ [{ request := ack, messageIdData }] }
  ({ consumer with
      pendingTransactionalAcks := consumer.pendingTransactionalAcks.insert txnId pending },
    sent)

def applyAck (ack : AckRequest) (messageIdData : Option (List MessageIdData)) :
    AckingConsumer × List MessageIdData :=
  match ack.txnId with
  | some txnId => consumer.applyTransactionalAck txnId ack messageIdData
  | none => consumer.applyLocalAckState ack messageIdData

def settleTransactionalAcks (txnId : TxnId) (committed : Bool) : AckingConsumer :=
  match consumer.pendingTransactionalAcks.lookup txnId with
  | none => consumer
  | some pending =>
    let settled := { consumer with
      pendingTransactionalAcks := consumer.pendingTransactionalAcks.erase txnId }
    if committed then
      pending.acknowledgements.foldl
        (fun consumer acknowledgement =>
          (consumer.applyLocalAckState acknowledgement.request
            acknowledgement.messageIdData).1)
        settled
    else settled

end AckingConsumer

end Magnetar.Proto.Consumer
