import Magnetar.Proto.Batch
import Magnetar.Proto.Consumer.State

/-!
Contract: delivery of one broker dispatch to a consumer.

Owns: `deliver` with its three shapes (chunk, batched entry, plain message), chunk reassembly
with eviction of the oldest pending message, and dead-letter routing.

Does not own: the frame that carried the dispatch, nor the flow command it may earn.
-/

namespace Magnetar.Proto.Consumer

open Pb External Batch BatchAck Trackers.Unacked

inductive ConsumerError where
  | closed
  deriving DecidableEq, Repr

inductive DeliverOutcome where
  | delivered (count : Nat)
  | buffered
  | dropped
  deriving DecidableEq, Repr

/-- The arguments of one `deliver` call. -/
structure Dispatch where
  cmd : CommandMessage
  metadata : MessageMetadata := {}
  brokerEntryMetadata : Option BrokerEntryMetadata := none
  body : Bytes := []
  now : Nat := 0

def Dispatch.redelivery (d : Dispatch) : Nat :=
  d.cmd.redeliveryCount.getD 0

def Dispatch.messageId (d : Dispatch) : MessageId :=
  MessageId.fromPb d.cmd.messageId

/-- The chunk count and chunk index of a dispatch that takes the chunk path. -/
def Dispatch.chunk? (d : Dispatch) : Option (Int × Int) :=
  match d.metadata.numChunksFromMsg, d.metadata.chunkId with
  | some total, some chunkId => if total > 1 then some (total, chunkId) else none
  | _, _ => none

def Dispatch.uuid (d : Dispatch) : String :=
  d.metadata.uuid.getD ""

def maxChunkTotal : Int := 10000

def maxBufferedChunkBytes : Nat := 128 * 1024 * 1024

namespace ConsumerState

variable (c : ConsumerState) (message : IncomingMessage) (d : Dispatch) (chunkId : Int)
  (entry : ChunkBuffer)

/-- Whether a redelivery count exceeds the dead-letter limit. -/
def deadLetters (redelivery : Nat) : Bool :=
  decide (c.maxRedeliverCount > 0) && decide (redelivery > c.maxRedeliverCount)

def deadLetter : ConsumerState :=
  let c := c.recordBrokerPermitConsumed
  { c with
    totalMsgsDeadLettered := satAdd64 c.totalMsgsDeadLettered 1
    deadLetterPending := c.deadLetterPending ++ [message] }

def enqueue (now : Nat) : ConsumerState :=
  { c with
    totalMsgsReceived := satAdd64 c.totalMsgsReceived 1
    totalBytesReceived := satAdd64 c.totalBytesReceived message.payload.length
    unackedTracker := c.unackedTracker.map fun tracker =>
      tracker.addWithRedeliveryCount message.messageId message.redeliveryCount now
    queuedBytes := satAdd64 c.queuedBytes message.payload.length
    queue := c.queue ++ [message] }

def classifyAndQueue (redelivery now : Nat) : ConsumerState × DeliverOutcome :=
  if c.deadLetters redelivery then (c.recordDispatchUnit.deadLetter message, .buffered)
  else (c.recordDispatchUnit.enqueue message now, .delivered 1)

/-! ### Chunk reassembly -/

def forgetChunkOrder (uuid : String) : ConsumerState :=
  { c with chunkReassemblyOrder := c.chunkReassemblyOrder.erase uuid }

/-- Drop a pending chunked message, staging the ack of its first chunk when so configured. -/
def discardChunkBuffer (uuid : String) (entry : ChunkBuffer) (order : List String) :
    ConsumerState :=
  { c with
    chunkReassembly := c.chunkReassembly.erase uuid
    chunkReassemblyOrder := order
    chunkBufferedBytes := c.chunkBufferedBytes - entry.bufferedBytes
    chunkAutoAckPending :=
      if c.autoAckOldestChunkedMessageOnQueueFull then
        c.chunkAutoAckPending ++ entry.firstChunkMessageId.toList
      else c.chunkAutoAckPending }

/-- The eviction loop over the arrival order; a stale id is skipped. -/
def evictOldestOf (c : ConsumerState) : (order : List String) → ConsumerState
  | [] => { c with chunkReassemblyOrder := [] }
  | uuid :: rest =>
    match c.chunkReassembly.lookup uuid with
    | none => c.evictOldestOf rest
    | some entry => c.discardChunkBuffer uuid entry rest

def removeOldestPendingChunkedMessage : ConsumerState :=
  c.evictOldestOf c.chunkReassemblyOrder

/-- The expiry loop over the arrival order, up to the first message still in time. -/
def sweepExpiredOf (expire now : Nat) : ConsumerState → (order : List String) → ConsumerState
  | c, [] => { c with chunkReassemblyOrder := [] }
  | c, uuid :: rest =>
    match c.chunkReassembly.lookup uuid with
    | none => sweepExpiredOf expire now c rest
    | some entry =>
      if now < deadlineWithClamp entry.receivedAt expire then
        { c with chunkReassemblyOrder := uuid :: rest }
      else sweepExpiredOf expire now (c.discardChunkBuffer uuid entry rest) rest

def sweepExpiredChunks (now : Nat) : ConsumerState :=
  match c.expireTimeOfIncompleteChunkedMessage with
  | none => c
  | some expire => sweepExpiredOf expire now c c.chunkReassemblyOrder

def newChunkBuffer (total : Int) : ChunkBuffer where
  expectedChunks := total
  receivedChunks := 0
  receivedAt := d.now
  chunkPayloads := ∅
  firstMetadata := d.metadata
  firstChunkMessageId := some d.messageId
  brokerEntryMetadata := d.brokerEntryMetadata
  redeliveryCount := d.redelivery

/-- Count a chunk that was not buffered before. -/
def storeChunk : ConsumerState × ChunkBuffer :=
  let entry := { entry with
    chunkPayloads := entry.chunkPayloads.insert chunkId d.body
    receivedChunks := entry.receivedChunks + 1 }
  ({ c with
      chunkReassembly := c.chunkReassembly.insert d.uuid entry
      chunkBufferedBytes := satAdd64 c.chunkBufferedBytes d.body.length },
    entry)

/-- Open the buffer of an unknown message, which may evict the oldest pending one. -/
def openChunkBuffer (total chunkId : Int) : ConsumerState × Option ChunkBuffer :=
  let c := { c with
    chunkReassembly := c.chunkReassembly.insert d.uuid (newChunkBuffer d total)
    chunkReassemblyOrder := c.chunkReassemblyOrder ++ [d.uuid] }
  let c :=
    if c.maxPendingChunkedMessage > 0 &&
        c.chunkReassembly.entries.length > c.maxPendingChunkedMessage then
      c.removeOldestPendingChunkedMessage
    else c
  match c.chunkReassembly.lookup d.uuid with
  | none => (c, none)
  | some entry =>
    let (c, entry) := c.storeChunk d chunkId entry
    (c, some entry)

/-- Add a chunk to a known message.  A repeated chunk overwrites the buffered payload and is
dropped without being counted. -/
def extendChunkBuffer : ConsumerState × Option ChunkBuffer :=
  if satAdd64 c.chunkBufferedBytes d.body.length > maxBufferedChunkBytes then (c, none)
  else if chunkId ∈ entry.chunkPayloads then
    ({ c with
        chunkReassembly := c.chunkReassembly.insert d.uuid
          { entry with chunkPayloads := entry.chunkPayloads.insert chunkId d.body } },
      none)
  else
    let (c, entry) := c.storeChunk d chunkId entry
    (c, some entry)

/-- The buffer after the chunk was counted, or `none` when the chunk is dropped. -/
def bufferChunk (total chunkId : Int) : ConsumerState × Option ChunkBuffer :=
  if chunkId < 0 ∨ chunkId ≥ total then (c, none)
  else if total > maxChunkTotal then (c, none)
  else
    match c.chunkReassembly.lookup d.uuid with
    | none => if chunkId ≠ 0 then (c, none) else c.openChunkBuffer d total chunkId
    | some entry => c.extendChunkBuffer d chunkId entry

/-- The payloads of chunks `0..expected` in order. -/
def assembleChunks : Bytes :=
  (List.range entry.expectedChunks.toNat).flatMap fun (index : Nat) =>
    (entry.chunkPayloads.lookup (index : Int)).getD []

/-- The logical message, under the id of its last chunk and the metadata of its first. -/
def chunkedMessage : IncomingMessage where
  messageId := d.messageId
  metadata := { entry.firstMetadata with
    numChunksFromMsg := none, chunkId := none, totalChunkMsgSize := none }
  payload := assembleChunks entry
  redeliveryCount := entry.redeliveryCount
  brokerEntryMetadata := entry.brokerEntryMetadata
  arrivedAt := d.now

def closeChunkBuffer : ConsumerState :=
  let c := { c with chunkReassembly := c.chunkReassembly.erase d.uuid }.forgetChunkOrder d.uuid
  { c with
    chunkBufferedBytes := c.chunkBufferedBytes - entry.bufferedBytes
    totalChunkedMsgsReceived := satAdd64 c.totalChunkedMsgsReceived 1 }

/-- Surface a chunked message whose last chunk has arrived. -/
def completeChunked : ConsumerState × DeliverOutcome :=
  (c.closeChunkBuffer d entry).classifyAndQueue (chunkedMessage d entry)
    entry.redeliveryCount d.now

def deliverChunk (total chunkId : Int) : ConsumerState × DeliverOutcome :=
  match c.bufferChunk d total chunkId with
  | (c, none) => (c, .dropped)
  | (c, some entry) =>
    if entry.receivedChunks < entry.expectedChunks then
      (c.recordBrokerPermitConsumed.recordDispatchUnit, .buffered)
    else c.completeChunked d entry

/-! ### Batched entries -/

variable (single : Prost SingleMessageMetadata) (codecs : Codecs)

/-- Merge the delivered positions into the entry's outstanding acks. -/
def trackBatchAcks (messageId : MessageId) (delivered : BatchAckEntry) : ConsumerState :=
  let key := (messageId.ledgerId, messageId.entryId)
  { c with
    batchAckTracker :=
      match c.batchAckTracker.lookup key with
      | some existing => c.batchAckTracker.insert key (existing.intersectDelivered delivered)
      | none => c.batchAckTracker.insert key delivered }

def batchMessage (metadata : MessageMetadata) (numInBatch : Int) (index : Nat)
    (member : BatchMember) : IncomingMessage where
  messageId := { d.messageId with batchIndex := index, batchSize := numInBatch }
  metadata := metadata
  singleMetadata := some member.1
  payload := member.2
  redeliveryCount := d.redelivery
  brokerEntryMetadata := d.brokerEntryMetadata
  arrivedAt := d.now

/-- Surface the decoded members at the positions the broker still lists. -/
def queueMembers (d : Dispatch) (metadata : MessageMetadata) (numInBatch : Int)
    (delivered : BatchAckEntry) :
    ConsumerState → List (Nat × BatchMember) → ConsumerState × Nat
  | c, [] => (c, 0)
  | c, (index, member) :: rest =>
    if delivered.isUnacked index then
      let message := batchMessage d metadata numInBatch index member
      let (c, count) := queueMembers d metadata numInBatch delivered
        (c.classifyAndQueue message d.redelivery d.now).1 rest
      (c, count + 1)
    else queueMembers d metadata numInBatch delivered c rest

/-- Positions past the decoded members that the broker still lists. -/
def undecodedCount (numInBatch : Int) (delivered : BatchAckEntry) (decoded : Nat) : Nat :=
  ((List.range numInBatch.toNat).drop decoded).countP fun index : Nat => delivered.isUnacked index

def recordUndecoded (c : ConsumerState) : (undecoded : Nat) → ConsumerState
  | 0 => c
  | undecoded + 1 =>
    c.recordDispatchUnit.recordBrokerPermitConsumed.recordUndecoded undecoded

def deliverBatch (c : ConsumerState) (d : Dispatch) (numInBatch : Int) :
    ConsumerState × DeliverOutcome :=
  let delivered := BatchAckEntry.fromDeliveredAckSet numInBatch d.cmd.ackSet
  let c := c.trackBatchAcks d.messageId delivered
  let (metadata, members) := unpackBatchMembers single codecs d.metadata d.body numInBatch
  let (c, count) := queueMembers d metadata numInBatch delivered c
    ((List.range numInBatch.toNat).zip members)
  (c.recordUndecoded (undecodedCount numInBatch delivered members.length), .delivered count)

def deliverPlain : ConsumerState × DeliverOutcome :=
  let message : IncomingMessage := {
    messageId := { d.messageId with batchIndex := -1, batchSize := 0 }
    metadata := d.metadata
    payload := d.body
    redeliveryCount := d.redelivery
    brokerEntryMetadata := d.brokerEntryMetadata
    arrivedAt := d.now }
  c.classifyAndQueue message d.redelivery d.now

/-- The three delivery shapes of an open consumer that is not seeking. -/
def deliverShape (c : ConsumerState) (d : Dispatch) : ConsumerState × DeliverOutcome :=
  match d.chunk? with
  | some (total, chunkId) => c.deliverChunk d total chunkId
  | none =>
    match d.metadata.numMessagesInBatch with
    | some numInBatch => c.deliverBatch single codecs d numInBatch
    | none => c.deliverPlain d

def deliver (c : ConsumerState) (d : Dispatch) :
    ConsumerState × Except ConsumerError DeliverOutcome :=
  if c.closed then (c, .error .closed)
  else if c.pendingSeek.isSome then (c, .ok .dropped)
  else
    let (c, outcome) := c.deliverShape single codecs d
    (c, .ok outcome)

end ConsumerState

end Magnetar.Proto.Consumer
