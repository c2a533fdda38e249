import Magnetar.Library.Table
import Magnetar.Proto.Batch

/-!
Contract: how a producer turns messages into staged frames (`producer.rs`).

Owns: the batch container, the send decision with its flushes, and the three encoders that stage a
single frame, a batch frame or the frames of a chunked message.

Does not own: the pending sends after they are registered (`Producer.Slot`).  Counters, rates and
the latency histogram are left out, since no decision reads them.  `usize` sums are `Nat`.
-/

namespace Magnetar.Proto.Producer

open Library Pb External Batch Compress

structure TxnId where
  mostSigBits : Nat
  leastSigBits : Nat
  deriving DecidableEq, Repr

structure OutgoingMessage where
  payload : Bytes
  metadata : MessageMetadata
  uncompressedSize : Nat
  numMessages : Int
  txnId : Option TxnId
  sourceMessageId : Option MessageId
  deriving DecidableEq, Repr

inductive SendDecision where
  | emit (count : Nat)
  | batched
  deriving DecidableEq, Repr

inductive ProducerError where
  | closed
  | messageTooLarge (size maxMessageSize : Nat)
  deriving DecidableEq, Repr

structure OutboundFrame where
  command : BaseCommand
  metadata : MessageMetadata
  payload : Bytes
  sequenceId : Nat
  deriving DecidableEq, Repr

/-- A send whose receipt has not arrived.  A waker is known by a number, a memory reservation by
its bytes. -/
structure OpSend where
  sequenceId : Nat
  numMessages : Int
  waker : Option Nat
  receipt : Option MessageId
  enqueuedAt : Nat
  replayFrames : List OutboundFrame
  reservation : Nat
  deriving DecidableEq, Repr

structure BatchContainer where
  messages : List BatchMember := []
  currentSizeBytes : Nat := 0
  lowestSequenceId : Option Nat := none
  highestSequenceId : Option Nat := none
  firstAddedAt : Option Nat := none
  txnId : Option TxnId := none
  deriving DecidableEq, Repr

def BatchContainer.isEmpty (batch : BatchContainer) : Bool :=
  batch.messages.isEmpty

def BatchContainer.matchesTxn (batch : BatchContainer) (incoming : Option TxnId) : Bool :=
  batch.isEmpty || batch.txnId == incoming

structure ProducerState where
  handle : Nat
  name : Option String
  compression : CompressionKind
  maxMessageSize : Nat
  maxBatchSizeBytes : Nat
  maxMessagesInBatch : Nat
  batchingEnabled : Bool
  chunkingEnabled : Bool
  nextSequenceId : Nat
  lastSequenceIdPushed : Int
  lastSequenceIdPublished : Int
  pending : List OpSend
  pendingIndex : Table Nat Nat
  batch : BatchContainer
  outbound : List OutboundFrame
  closed : Bool
  brokerReady : Bool
  sendTimeout : Option Nat
  batchingMaxPublishDelay : Option Nat

/-- `ConnectionConfig::default().default_max_message_size`. -/
def defaultMaxMessageSize : Nat := 5 * 1024 * 1024

/-- `u64 as i64`. -/
def asI64 (value : Nat) : Int :=
  (BitVec.ofNat 64 value).toInt

/-- `usize as i32`. -/
def asI32 (value : Nat) : Int :=
  (BitVec.ofNat 32 value).toInt

/-- `u64::wrapping_add(1)`. -/
def wrappingSucc (value : Nat) : Nat :=
  (value + 1) % 2 ^ 64

namespace ProducerState

def new (handle : Nat) (compression : CompressionKind) (maxMessageSize : Nat) : ProducerState where
  handle := handle
  name := none
  compression := compression
  maxMessageSize := maxMessageSize
  maxBatchSizeBytes := 128 * 1024
  maxMessagesInBatch := 1000
  batchingEnabled := false
  chunkingEnabled := false
  nextSequenceId := 0
  lastSequenceIdPushed := -1
  lastSequenceIdPublished := -1
  pending := []
  pendingIndex := ∅
  batch := {}
  outbound := []
  closed := false
  brokerReady := false
  sendTimeout := none
  batchingMaxPublishDelay := none

/-- `(next as i64).saturating_sub(1)`. -/
def setInitialSequenceId (producer : ProducerState) (next : Nat) : ProducerState :=
  let producer := { producer with nextSequenceId := next }
  if next > 0 then
    let resume := max (asI64 next - 1) (-2 ^ 63)
    { producer with lastSequenceIdPublished := resume, lastSequenceIdPushed := resume }
  else producer

end ProducerState

/-- The caller encrypted the payload, or compressed it with a codec it named. -/
def alreadyEncoded (metadata : MessageMetadata) : Bool :=
  !metadata.encryptionKeys.isEmpty || metadata.compression.any (· ≠ CompressionKind.none.toPb)

/-! ### Stamps -/

/-- The sequence id, the publish time and, unless the caller gave one, the producer's name. -/
def ProducerState.stampSequence (producer : ProducerState) (publishTimeMs : Nat)
    (metadata : MessageMetadata) : MessageMetadata :=
  { metadata with
    sequenceId := producer.nextSequenceId
    publishTime := publishTimeMs
    producerName :=
      match producer.name with
      | some name => if metadata.producerName = "" then name else metadata.producerName
      | none => metadata.producerName }

def stampTxn (txnId : Option TxnId) (metadata : MessageMetadata) : MessageMetadata :=
  match txnId with
  | some txn =>
    { metadata with
      txnidLeastBits := some txn.leastSigBits
      txnidMostBits := some txn.mostSigBits }
  | none => metadata

namespace ProducerState

variable (single : Prost SingleMessageMetadata) (codecs : Codecs) (producer : ProducerState)
  (msg : OutgoingMessage) (uuid : String) (reservation publishTimeMs : Nat)

def canAddToBatch (payloadSize : Nat) (numMessages : Int) : Bool :=
  if !producer.batchingEnabled || producer.closed then false
  else if producer.batch.messages.length + (max numMessages 1).toNat > producer.maxMessagesInBatch
  then false
  else if producer.batch.currentSizeBytes + payloadSize > producer.maxBatchSizeBytes then false
  else true

/-- The id a send is given.  With `stampSequence` this is `assign_sequence_id`, which the batch
and the chunk encoder repeat. -/
def takeSequenceId : Nat × ProducerState :=
  (producer.nextSequenceId,
    { producer with
      nextSequenceId := wrappingSucc producer.nextSequenceId
      lastSequenceIdPushed := asI64 producer.nextSequenceId })

/-- Register a pending send at the back, under its position. -/
def pushPending (op : OpSend) : ProducerState :=
  { producer with
    pendingIndex := producer.pendingIndex.insert op.sequenceId producer.pending.length
    pending := producer.pending ++ [op] }

/-! ### A single frame -/

def sendCommand (numMessages : Int) (txnId : Option TxnId) (sourceMessageId : Option MessageId) :
    CommandSend where
  producerId := producer.handle
  sequenceId := producer.nextSequenceId
  numMessages := some numMessages
  txnidLeastBits := txnId.map (·.leastSigBits)
  txnidMostBits := txnId.map (·.mostSigBits)
  messageId := sourceMessageId.map MessageId.toPb

/-- The metadata of an unbatched, unchunked message, before its sequence id. -/
def singleMetadata : MessageMetadata :=
  let metadata :=
    { msg.metadata with
      numChunksFromMsg := none
      chunkId := none
      totalChunkMsgSize := none
      uuid := none }
  let metadata :=
    if msg.uncompressedSize > 0 then
      { metadata with uncompressedSize := some msg.uncompressedSize }
    else metadata
  stampTxn msg.txnId metadata

def singleFrame : OutboundFrame where
  command :=
    { type := sendType
      send := some
        (producer.sendCommand (max msg.numMessages 1) msg.txnId msg.sourceMessageId) }
  metadata := producer.stampSequence publishTimeMs (singleMetadata msg)
  payload := msg.payload
  sequenceId := producer.nextSequenceId

def emitSingle (now : Nat) : SendDecision × ProducerState :=
  let frame := producer.singleFrame msg publishTimeMs
  let (seq, producer) := producer.takeSequenceId
  let producer := { producer with outbound := producer.outbound ++ [frame] }
  (.emit 1, producer.pushPending
    { sequenceId := seq
      numMessages := max msg.numMessages 1
      waker := none
      receipt := none
      enqueuedAt := now
      replayFrames := [frame]
      reservation })

/-! ### Batches -/

/-- The metadata of a batch member.  The base64 flag of the key is not copied. -/
def memberMetadata : SingleMessageMetadata where
  payloadSize := min msg.payload.length (2 ^ 31 - 1)
  partitionKey := msg.metadata.partitionKey
  orderingKey := msg.metadata.orderingKey
  properties := msg.metadata.properties
  eventTime := msg.metadata.eventTime
  nullValue := msg.metadata.nullValue
  nullPartitionKey := msg.metadata.nullPartitionKey

/-- The container with one more member, the first of which names the transaction. -/
def withMember (batch : BatchContainer) (msg : OutgoingMessage) (msgSeq now : Nat) :
    BatchContainer where
  messages := batch.messages ++ [(memberMetadata msg, msg.payload)]
  currentSizeBytes := batch.currentSizeBytes + msg.payload.length
  lowestSequenceId := some (batch.lowestSequenceId.getD msgSeq)
  highestSequenceId := some msgSeq
  firstAddedAt := some (batch.firstAddedAt.getD now)
  txnId := if batch.isEmpty then msg.txnId else batch.txnId

def addToBatch (now : Nat) : SendDecision × ProducerState :=
  let (msgSeq, producer) := producer.takeSequenceId
  let producer := { producer with batch := withMember producer.batch msg msgSeq now }
  (.batched, producer.pushPending
    { sequenceId := msgSeq
      numMessages := 1
      waker := none
      receipt := none
      enqueuedAt := now
      -- One ranged frame stands for the whole batch, so no member can replay it.
      replayFrames := []
      reservation })

def packMember (member : BatchMember) : Bytes :=
  let encoded := single.encode member.1
  BigEndian.put 4 encoded.length ++ encoded ++ member.2

/-- The body of the batch frame, the codec it went through and the size stamped on it. -/
def batchBody : Bytes × CompressionKind × Nat :=
  let concatenated := producer.batch.messages.flatMap (packMember single)
  let compressed :=
    if producer.compression ≠ .none then compress codecs producer.compression concatenated
    else none
  match compressed with
  | some body => (body, producer.compression, concatenated.length)
  | none => (concatenated, .none, producer.batch.currentSizeBytes)

def batchLowest : Nat :=
  producer.batch.lowestSequenceId.getD producer.nextSequenceId

def batchHighest : Nat :=
  producer.batch.highestSequenceId.getD (max producer.lastSequenceIdPushed 0).toNat

/-- The highest id of the batch, on the wire only when it is not the lowest. -/
def batchRange : Option Nat :=
  if producer.batchHighest > producer.batchLowest then some producer.batchHighest else none

def batchMetadata : MessageMetadata :=
  let (_, codec, payloadTotal) := producer.batchBody single codecs
  stampTxn producer.batch.txnId
    { numMessagesInBatch := some (asI32 producer.batch.messages.length)
      producerName := producer.name.getD ""
      sequenceId := producer.batchLowest
      publishTime := publishTimeMs
      highestSequenceId := producer.batchRange
      compression := if codec ≠ .none then some codec.toPb else none
      uncompressedSize := if payloadTotal < 2 ^ 32 then some payloadTotal else none }

def batchSend : CommandSend where
  producerId := producer.handle
  sequenceId := producer.batchLowest
  numMessages := some (asI32 producer.batch.messages.length)
  txnidLeastBits := producer.batch.txnId.map (·.leastSigBits)
  txnidMostBits := producer.batch.txnId.map (·.mostSigBits)
  highestSequenceId := producer.batchRange

def batchFrame : OutboundFrame where
  command := { type := sendType, send := some producer.batchSend }
  metadata := producer.batchMetadata single codecs publishTimeMs
  payload := (producer.batchBody single codecs).1
  sequenceId := producer.batchLowest

/-- The number of frames staged, and the producer after it. -/
def flushBatch : Nat × ProducerState :=
  if producer.batch.isEmpty || producer.closed then (0, producer)
  else
    (1, { producer with
      outbound := producer.outbound ++ [producer.batchFrame single codecs publishTimeMs]
      batch := {} })

def flushBatchIfFull : ProducerState :=
  if producer.batch.isEmpty then producer
  else
    let countReached := producer.batch.messages.length ≥ producer.maxMessagesInBatch
    let sizeReached := producer.batch.currentSizeBytes ≥ producer.maxBatchSizeBytes
    if countReached ∨ sizeReached then (producer.flushBatch single codecs publishTimeMs).2
    else producer

/-! ### Chunks -/

def chunkMetadataReservation : Nat := 1024

def maxChunkPayload : Nat :=
  if producer.maxMessageSize > chunkMetadataReservation * 4 then
    producer.maxMessageSize - chunkMetadataReservation
  else producer.maxMessageSize

/-- `ChunkedMessageContext::compute_total_chunks`. -/
def computeTotalChunks (payloadLen maxChunkSize : Nat) : Nat :=
  if maxChunkSize = 0 then 1
  else min (max ((payloadLen + maxChunkSize - 1) / maxChunkSize) 1) (2 ^ 31 - 1)

def chunkMetadata (chunkIdx : Nat) : MessageMetadata :=
  let total := computeTotalChunks msg.payload.length producer.maxChunkPayload
  stampTxn msg.txnId
    { producer.stampSequence publishTimeMs msg.metadata with
      uncompressedSize := some msg.uncompressedSize
      uuid := some uuid
      numChunksFromMsg := some total
      totalChunkMsgSize := some (asI32 msg.payload.length)
      chunkId := some chunkIdx }

def chunkSend : CommandSend :=
  { producer.sendCommand 1 msg.txnId msg.sourceMessageId with isChunk := some true }

def chunkPayload (chunkIdx : Nat) : Bytes :=
  let start := chunkIdx * producer.maxChunkPayload
  let stop := min ((chunkIdx + 1) * producer.maxChunkPayload) msg.payload.length
  (msg.payload.take stop).drop start

def chunkFrame (chunkIdx : Nat) : OutboundFrame where
  command := { type := sendType, send := some (producer.chunkSend msg) }
  metadata := producer.chunkMetadata msg uuid publishTimeMs chunkIdx
  payload := producer.chunkPayload msg chunkIdx
  sequenceId := producer.nextSequenceId

/-- Every chunk carries the one sequence id and the one fresh `uuid`. -/
def emitChunked (now : Nat) : SendDecision × ProducerState :=
  let total := computeTotalChunks msg.payload.length producer.maxChunkPayload
  let frames := (List.range total).map (producer.chunkFrame msg uuid publishTimeMs)
  let (seq, producer) := producer.takeSequenceId
  let producer := { producer with outbound := producer.outbound ++ frames }
  (.emit total, producer.pushPending
    { sequenceId := seq
      numMessages := 1
      waker := none
      receipt := none
      enqueuedAt := now
      replayFrames := frames
      reservation })

/-! ### The send decision -/

/-- A codec that fails leaves the payload as it was, unstamped. -/
def compressUnbatched : OutgoingMessage :=
  if producer.compression = .none || alreadyEncoded msg.metadata then msg
  else
    match compress codecs producer.compression msg.payload with
    | some body =>
      { msg with
        uncompressedSize := min msg.payload.length (2 ^ 32 - 1)
        payload := body
        metadata := { msg.metadata with compression := some producer.compression.toPb } }
    | none => msg

def batchable : Bool :=
  msg.sourceMessageId.isNone && !alreadyEncoded msg.metadata

def canJoin : Bool :=
  batchable msg && producer.canAddToBatch msg.payload.length msg.numMessages

/-- The flushes that come before a send: of a batch under another transaction, and of a batch the
message cannot join.  Also says whether the message can join the batch that is left. -/
def makeRoom : Bool × ProducerState :=
  let producer :=
    if producer.batchingEnabled && !producer.batch.isEmpty &&
        !producer.batch.matchesTxn msg.txnId then
      (producer.flushBatch single codecs publishTimeMs).2
    else producer
  if !producer.canJoin msg && !producer.batch.isEmpty then
    let producer := (producer.flushBatch single codecs publishTimeMs).2
    (producer.canJoin msg, producer)
  else (producer.canJoin msg, producer)

/-- A message that joins a batch and fills it sends it off. -/
def joinBatch (now : Nat) : SendDecision × ProducerState :=
  let (decision, producer) := producer.addToBatch msg reservation now
  (decision, producer.flushBatchIfFull single codecs publishTimeMs)

/-- Take a message that no pending batch is in the way of: the outcome, what is left of the
caller's reservation, and the producer after it. -/
def offer (canBatch : Bool) (msg : OutgoingMessage) (uuid : String)
    (reservation publishTimeMs now : Nat) :
    Except ProducerError SendDecision × Nat × ProducerState :=
  let msg := if canBatch then msg else producer.compressUnbatched codecs msg
  let accepted (sent : SendDecision × ProducerState) := (.ok sent.1, 0, sent.2)
  let payloadSize := msg.payload.length
  if payloadSize > producer.maxMessageSize then
    if !producer.chunkingEnabled then
      (.error (.messageTooLarge payloadSize producer.maxMessageSize), reservation, producer)
    else if canBatch then
      accepted (producer.joinBatch single codecs msg reservation publishTimeMs now)
    else accepted (producer.emitChunked msg uuid reservation publishTimeMs now)
  else if canBatch then
    accepted (producer.joinBatch single codecs msg reservation publishTimeMs now)
  else accepted (producer.emitSingle msg reservation publishTimeMs now)

def queueSendReserved (now : Nat) : Except ProducerError SendDecision × Nat × ProducerState :=
  if producer.closed then (.error .closed, reservation, producer)
  else
    let (canBatch, producer) := producer.makeRoom single codecs msg publishTimeMs
    producer.offer single codecs canBatch msg uuid reservation publishTimeMs now

def queueSend (now : Nat) : Except ProducerError SendDecision × ProducerState :=
  let (outcome, _, producer) :=
    producer.queueSendReserved single codecs msg uuid 0 publishTimeMs now
  (outcome, producer)

def nextOutboundFrame : Option OutboundFrame × ProducerState :=
  (producer.outbound.head?, { producer with outbound := producer.outbound.tail })

end ProducerState

end Magnetar.Proto.Producer
