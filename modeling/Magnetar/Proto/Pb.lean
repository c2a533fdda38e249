import Mathlib.Data.List.Basic

/-!
Contract: the wire records of the Pulsar protocol that the client reads or builds.

Owns: the protobuf message records as the generated bindings declare them, with `optional`
fields as `Option`, `repeated` fields as lists and the proto2 defaults left to the readers.

Does not own: the byte encoding of a record.  That is a third-party codec and stands as a
parameter (`Magnetar.Proto.External`).  `MessageIdData.first_chunk_message_id` is left out,
since no function modelled here reads it.
-/

namespace Magnetar.Proto.Pb

/-- A byte string, as the `bytes` crate holds it. -/
abbrev Bytes := List UInt8

structure MessageIdData where
  ledgerId : Nat
  entryId : Nat
  partition : Option Int := none
  batchIndex : Option Int := none
  ackSet : List Int64 := []
  batchSize : Option Int := none
  deriving DecidableEq, Repr, Inhabited

structure KeyValue where
  key : String
  value : String
  deriving DecidableEq, Repr, Inhabited

structure EncryptionKeys where
  key : String
  value : Bytes
  metadata : List KeyValue := []
  deriving DecidableEq, Repr, Inhabited

/-- The per-entry metadata that precedes the payload on the wire. -/
structure MessageMetadata where
  producerName : String := ""
  sequenceId : Nat := 0
  publishTime : Nat := 0
  properties : List KeyValue := []
  replicatedFrom : Option String := none
  partitionKey : Option String := none
  replicateTo : List String := []
  compression : Option Int := none
  uncompressedSize : Option Nat := none
  numMessagesInBatch : Option Int := none
  eventTime : Option Nat := none
  encryptionKeys : List EncryptionKeys := []
  encryptionAlgo : Option String := none
  encryptionParam : Option Bytes := none
  schemaVersion : Option Bytes := none
  partitionKeyB64Encoded : Option Bool := none
  orderingKey : Option Bytes := none
  deliverAtTime : Option Int := none
  markerType : Option Int := none
  txnidLeastBits : Option Nat := none
  txnidMostBits : Option Nat := none
  highestSequenceId : Option Nat := none
  nullValue : Option Bool := none
  uuid : Option String := none
  numChunksFromMsg : Option Int := none
  totalChunkMsgSize : Option Int := none
  chunkId : Option Int := none
  nullPartitionKey : Option Bool := none
  compactedBatchIndexes : List Int := []
  schemaId : Option Bytes := none
  entryHashMin : Option Nat := none
  entryHashMax : Option Nat := none
  deriving DecidableEq, Repr, Inhabited

structure SingleMessageMetadata where
  properties : List KeyValue := []
  partitionKey : Option String := none
  payloadSize : Int := 0
  compactedOut : Option Bool := none
  eventTime : Option Nat := none
  partitionKeyB64Encoded : Option Bool := none
  orderingKey : Option Bytes := none
  sequenceId : Option Nat := none
  nullValue : Option Bool := none
  nullPartitionKey : Option Bool := none
  deriving DecidableEq, Repr, Inhabited

structure BrokerEntryMetadata where
  brokerTimestamp : Option Nat := none
  index : Option Nat := none
  deriving DecidableEq, Repr, Inhabited

structure CommandMessage where
  consumerId : Nat
  messageId : MessageIdData
  redeliveryCount : Option Nat := none
  ackSet : List Int64 := []
  consumerEpoch : Option Nat := none
  deriving DecidableEq, Repr, Inhabited

structure CommandFlow where
  consumerId : Nat
  messagePermits : Nat
  deriving DecidableEq, Repr, Inhabited

structure CommandSend where
  producerId : Nat
  sequenceId : Nat
  numMessages : Option Int := none
  txnidLeastBits : Option Nat := none
  txnidMostBits : Option Nat := none
  highestSequenceId : Option Nat := none
  isChunk : Option Bool := none
  marker : Option Bool := none
  messageId : Option MessageIdData := none
  deriving DecidableEq, Repr, Inhabited

structure CommandSendReceipt where
  producerId : Nat
  sequenceId : Nat
  messageId : Option MessageIdData := none
  highestSequenceId : Option Nat := none
  deriving DecidableEq, Repr, Inhabited

structure CommandSendError where
  producerId : Nat
  sequenceId : Nat
  error : Int
  message : String
  deriving DecidableEq, Repr, Inhabited

inductive AckType where
  | individual
  | cumulative
  deriving DecidableEq, Repr, Inhabited

structure KeyLongValue where
  key : String
  value : Nat
  deriving DecidableEq, Repr, Inhabited

structure CommandAck where
  consumerId : Nat
  ackType : AckType
  messageId : List MessageIdData
  properties : List KeyLongValue := []
  txnidLeastBits : Option Nat := none
  txnidMostBits : Option Nat := none
  requestId : Option Nat := none
  deriving DecidableEq, Repr, Inhabited

structure CommandRedeliverUnacknowledgedMessages where
  consumerId : Nat
  messageIds : List MessageIdData
  deriving DecidableEq, Repr, Inhabited

/-- The value of `base_command::Type::Send`. -/
def sendType : Int := 6

/-- The envelope of a command.  A producer fills the send alone, so the other slots are left
out. -/
structure BaseCommand where
  type : Int
  send : Option CommandSend := none
  deriving DecidableEq, Repr, Inhabited

/-- A message position as the client holds it. -/
structure MessageId where
  ledgerId : Nat
  entryId : Nat
  partition : Int
  batchIndex : Int
  batchSize : Int
  deriving DecidableEq, Repr, Inhabited

/-- The derived order: field by field, in the order of declaration. -/
def MessageId.compare (left right : MessageId) : Ordering :=
  (Ord.compare left.ledgerId right.ledgerId).then
    ((Ord.compare left.entryId right.entryId).then
      ((Ord.compare left.partition right.partition).then
        ((Ord.compare left.batchIndex right.batchIndex).then
          (Ord.compare left.batchSize right.batchSize))))

def MessageId.le (left right : MessageId) : Bool :=
  (left.compare right).isLE

def MessageId.fromPb (pb : MessageIdData) : MessageId where
  ledgerId := pb.ledgerId
  entryId := pb.entryId
  partition := pb.partition.getD (-1)
  batchIndex := pb.batchIndex.getD (-1)
  batchSize := pb.batchSize.getD (-1)

def MessageId.toPb (id : MessageId) : MessageIdData where
  ledgerId := id.ledgerId
  entryId := id.entryId
  partition := some id.partition
  batchIndex := some id.batchIndex
  batchSize := some id.batchSize

end Magnetar.Proto.Pb
