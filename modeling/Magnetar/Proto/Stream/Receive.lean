import Magnetar.Library.Table
import Magnetar.Proto.Consumer.Deliver

/-!
Contract: the receive state of an aggregate stream consumer (`StreamReceiveState`).

Owns: the raw entries that a child consumer defers, the chunk chain of each child, and the
expansion of a complete entry into the messages that become visible.

Does not own: the accounting of the aggregate.  The receive state only asks it for reservations and
passes its refusals on, so it is a parameter here, but for the way a batch is given its reservations.
-/

namespace Magnetar.Proto.Stream

open Library Pb External Batch BatchAck Consumer

abbrev SegmentId := Nat

abbrev ChildGeneration := Nat

abbrev BudgetReservationId := Nat

abbrev BudgetReservationOwner := SegmentId × ChildGeneration

/-! ### Entries -/

/-- `pb::MessageIdData` with the id of the first chunk that a chunked message carries. -/
structure BrokerMessageId where
  data : MessageIdData
  firstChunk : Option MessageIdData := none
  deriving DecidableEq, Repr

structure DeferredIncomingMessage where
  message : IncomingMessage
  messageIdData : BrokerMessageId
  ackSet : List Int64
  dispatchPermits : Nat
  deriving DecidableEq, Repr

/-- `BatchAckEntry::unacked_count`. -/
def unackedCount (entry : BatchAckEntry) : Nat :=
  (entry.unacked.map fun word => (List.range 64).countP word.getLsbD).sum

/-- What `deliver` puts into the deferred queue of a child, one permit for each listed member. -/
def deferred (d : Dispatch) : DeferredIncomingMessage where
  message :=
    { messageId := d.messageId
      metadata := d.metadata
      payload := d.body
      redeliveryCount := d.redelivery
      brokerEntryMetadata := d.brokerEntryMetadata
      arrivedAt := d.now }
  messageIdData := { data := d.cmd.messageId }
  ackSet := d.cmd.ackSet
  dispatchPermits :=
    let batchSize := d.metadata.numMessagesInBatch.getD 1
    if batchSize > 1 then unackedCount (BatchAckEntry.fromAckSet batchSize d.cmd.ackSet) else 1

inductive StreamEntryCompletion where
  | message (flow : BudgetReservationId)
  | chunk (flow assembly : BudgetReservationId)
  deriving DecidableEq, Repr

/-- A fully assembled entry, before it is expanded. -/
structure StreamCompleteEntry where
  message : IncomingMessage
  messageIdData : BrokerMessageId
  ackSet : List Int64
  dispatchPermits : Nat
  completion : StreamEntryCompletion
  deriving DecidableEq, Repr

structure StreamQueuedMessage where
  message : IncomingMessage
  messageIdData : BrokerMessageId
  reservation : BudgetReservationId
  deriving DecidableEq, Repr

inductive StreamEntryAcceptance (Action : Type) where
  | buffered (actions : List Action)
  | complete (entry : StreamCompleteEntry)

structure StreamEntryTransition (Action : Type) where
  messages : List StreamQueuedMessage
  actions : List Action
  permitDebt : Nat

inductive StreamConsumerModelError (Refusal : Type) where
  | invalidChunkFrame (reason : String)
  | invalidBatchFrame (reason : String)
  | receiveSizeOverflow
  | refused (refusal : Refusal)

/-! ### The accounting -/

/-- What the receive state asks of the accounting in state `σ`.  The two sizes are `none` when they
overflow.  The arrival of a batch is in three parts: the checks on the child, its permit and its
work, which are then released; the reservation of one retained message; and the child's counters
with the permits that go out next. -/
structure Accounting (σ Action Refusal : Type) where
  topic : σ → SegmentId → ChildGeneration → Except Refusal String
  structuralBytes : IncomingMessage → BrokerMessageId → List Int64 → Nat → String → Option Nat
  retainedBytes : IncomingMessage → BrokerMessageId → String → Option Nat
  chunkFrameBuffered : σ → SegmentId → ChildGeneration → BudgetReservationId →
    Option BudgetReservationId → Nat → Except Refusal (BudgetReservationId × List Action × σ)
  reserveBatchAssembly : σ → SegmentId → ChildGeneration → Nat →
    Except Refusal (BudgetReservationId × σ)
  messageArrivedPreallocated : σ → SegmentId → ChildGeneration → BudgetReservationId →
    List BudgetReservationId → Nat → Except Refusal (BudgetReservationId × List Action × σ)
  chunkMessageArrived : σ → SegmentId → ChildGeneration → BudgetReservationId →
    BudgetReservationId → List BudgetReservationId → Nat →
    Except Refusal (BudgetReservationId × List Action × σ)
  invalidChildTransition : σ → SegmentId → ChildGeneration → Refusal
  stageArrival : σ → SegmentId → ChildGeneration → BudgetReservationId →
    List BudgetReservationId → List Nat → Except Refusal σ
  reserveRetained : σ → SegmentId → ChildGeneration → Nat →
    Except Refusal (BudgetReservationId × σ)
  settleArrival : σ → SegmentId → ChildGeneration → (consumed retained : Nat) →
    Except Refusal (List Action × σ)
  discardPreallocatedArrival : σ → SegmentId → ChildGeneration → BudgetReservationId →
    List BudgetReservationId → Except Refusal (List Action × σ)

namespace Accounting

variable {σ Action Refusal : Type} (accounting : Accounting σ Action Refusal)
  (segmentId : SegmentId) (generation : ChildGeneration)

def reserveAll : σ → List Nat → Except Refusal (List BudgetReservationId × σ)
  | staged, [] => .ok ([], staged)
  | staged, bytes :: rest => do
    let (reservation, staged) ← accounting.reserveRetained staged segmentId generation bytes
    let (retained, staged) ← reserveAll staged rest
    return (reservation :: retained, staged)

def completePreallocatedArrival (model : σ) (flow : BudgetReservationId)
    (work : List BudgetReservationId) (charges : List Nat) :
    Except Refusal (List BudgetReservationId × List Action × σ) := do
  let staged ← accounting.stageArrival model segmentId generation flow work charges
  let (retained, staged) ← accounting.reserveAll segmentId generation staged charges
  let (actions, staged) ←
    accounting.settleArrival staged segmentId generation (work.length + 1) charges.length
  return (retained, actions, staged)

def batchArrivedPreallocated (model : σ) (flow : BudgetReservationId)
    (work : List BudgetReservationId) (charges : List Nat) :
    Except Refusal (List BudgetReservationId × List Action × σ) :=
  if charges.isEmpty then .error (accounting.invalidChildTransition model segmentId generation)
  else accounting.completePreallocatedArrival segmentId generation model flow work charges

end Accounting

/-- A refusal of the accounting is passed on. -/
def asked {Refusal α : Type} (answer : Except Refusal α) :
    Except (StreamConsumerModelError Refusal) α :=
  answer.mapError .refused

/-- A size that overflows ends the call. -/
def sized {Refusal : Type} (size : Option Nat) : Except (StreamConsumerModelError Refusal) Nat :=
  size.elim (.error .receiveSizeOverflow) .ok

/-! ### Chunks -/

structure PendingStreamChunk where
  uuid : String
  expectedChunks : Int
  totalSize : Nat
  /-- Ascending by chunk id. -/
  payloads : List (Int × Bytes)
  firstMetadata : MessageMetadata
  firstMessageId : BrokerMessageId
  brokerEntryMetadata : Option BrokerEntryMetadata
  redeliveryCount : Nat
  arrivedAt : Nat
  assembly : BudgetReservationId

namespace PendingStreamChunk

def bufferedBytes (chunk : PendingStreamChunk) : Nat :=
  (chunk.payloads.map fun entry => entry.2.length).sum

def hasChunk (chunk : PendingStreamChunk) (chunkId : Int) : Bool :=
  chunk.payloads.any fun entry => entry.1 == chunkId

end PendingStreamChunk

/-- Insert a payload whose chunk id is new. -/
def insertChunk (chunkId : Int) (payload : Bytes) : List (Int × Bytes) → List (Int × Bytes)
  | [] => [(chunkId, payload)]
  | entry :: rest =>
    if chunkId < entry.1 then (chunkId, payload) :: entry :: rest
    else entry :: insertChunk chunkId payload rest

structure StreamReceiveState where
  chunks : Table BudgetReservationOwner PendingStreamChunk := ∅

/-- The answer to an entry, with the receive state and the accounting that a refusal leaves too. -/
abbrev Received (σ Action Refusal : Type) :=
  Except (StreamConsumerModelError Refusal) (StreamEntryAcceptance Action) ×
    StreamReceiveState × σ

namespace StreamReceiveState

section

variable {σ Action Refusal : Type} (accounting : Accounting σ Action Refusal)
  (state : StreamReceiveState)

def removeChild (segmentId : SegmentId) (generation : ChildGeneration) : StreamReceiveState :=
  { chunks := state.chunks.erase (segmentId, generation) }

/-- The fields that every chunk has to carry. -/
structure ChunkHeader where
  total : Int
  chunkId : Int
  totalSize : Nat
  uuid : String

def chunkHeader (metadata : MessageMetadata) (total : Int) :
    Except (StreamConsumerModelError Refusal) ChunkHeader := do
  if total > maxChunkTotal then
    throw (.invalidChunkFrame "chunk count exceeds the fixed bound")
  if metadata.numMessagesInBatch.getD 1 > 1 then
    throw (.invalidChunkFrame "chunked entries cannot also be batched")
  let some chunkId := metadata.chunkId
    | throw (.invalidChunkFrame "chunk id is absent")
  if chunkId < 0 ∨ chunkId ≥ total then
    throw (.invalidChunkFrame "chunk id is outside the announced range")
  let some totalSize := metadata.totalChunkMsgSize.filter (· > 0)
    | throw (.invalidChunkFrame "total chunk message size is absent or invalid")
  let some uuid := metadata.uuid
    | throw (.invalidChunkFrame "chunk uuid is absent")
  return { total, chunkId, totalSize := totalSize.toNat, uuid }

/-- A chain begins with chunk zero and continues with the chunks of its message. -/
def checkContinuation (existing : Option PendingStreamChunk) (header : ChunkHeader) :
    Except (StreamConsumerModelError Refusal) Unit :=
  match existing with
  | none =>
    if header.chunkId ≠ 0 then
      .error (.invalidChunkFrame "a chunk chain must begin with chunk zero")
    else .ok ()
  | some chunk =>
    if chunk.uuid ≠ header.uuid ∨ chunk.expectedChunks ≠ header.total ∨
        chunk.totalSize ≠ header.totalSize then
      .error (.invalidChunkFrame "chunk continuation does not match its reserved chain")
    else if chunk.hasChunk header.chunkId then
      .error (.invalidChunkFrame "duplicate chunk id")
    else .ok ()

/-- Retain a chunk that does not complete its message. -/
def bufferChunk (model : σ) (segmentId : SegmentId) (generation : ChildGeneration)
    (flow : BudgetReservationId) (entry : DeferredIncomingMessage) (header : ChunkHeader) :
    Received σ Action Refusal :=
  let existing := state.chunks.lookup (segmentId, generation)
  let bufferedAfter :=
    existing.elim 0 PendingStreamChunk.bufferedBytes + entry.message.payload.length
  if bufferedAfter > header.totalSize then
    (.error (.invalidChunkFrame "buffered chunks exceed the announced message size"), state, model)
  else
    match accounting.chunkFrameBuffered model segmentId generation flow
        (existing.map PendingStreamChunk.assembly) (bufferedAfter + header.totalSize) with
    | .error refusal => (.error (.refused refusal), state, model)
    | .ok (assembly, actions, model) =>
      let chunk : PendingStreamChunk :=
        match existing with
        | some chunk =>
          { chunk with
            payloads := insertChunk header.chunkId entry.message.payload chunk.payloads
            assembly }
        | none =>
          { uuid := header.uuid
            expectedChunks := header.total
            totalSize := header.totalSize
            payloads := [(header.chunkId, entry.message.payload)]
            firstMetadata := entry.message.metadata
            firstMessageId := entry.messageIdData
            brokerEntryMetadata := entry.message.brokerEntryMetadata
            redeliveryCount := entry.message.redeliveryCount
            arrivedAt := entry.message.arrivedAt
            assembly }
      (.ok (.buffered actions), { chunks := state.chunks.insert (segmentId, generation) chunk },
        model)

/-- The message of a chain, under the id of its last chunk and the metadata of its first. -/
def assembled (chunk : PendingStreamChunk) (entry : DeferredIncomingMessage) (chunkId : Int)
    (flow : BudgetReservationId) : StreamCompleteEntry where
  message :=
    { messageId := MessageId.fromPb entry.messageIdData.data
      metadata :=
        { chunk.firstMetadata with
          numChunksFromMsg := none, chunkId := none, totalChunkMsgSize := none }
      payload := (insertChunk chunkId entry.message.payload chunk.payloads).flatMap Prod.snd
      redeliveryCount := chunk.redeliveryCount
      brokerEntryMetadata := chunk.brokerEntryMetadata
      arrivedAt := chunk.arrivedAt }
  messageIdData :=
    { entry.messageIdData with firstChunk := some chunk.firstMessageId.data }
  ackSet := []
  dispatchPermits := entry.dispatchPermits
  completion := .chunk flow chunk.assembly

/-- Put a chain together with its last chunk. -/
def completeChunk (model : σ) (segmentId : SegmentId) (generation : ChildGeneration)
    (flow : BudgetReservationId) (entry : DeferredIncomingMessage) (header : ChunkHeader) :
    Received σ Action Refusal :=
  match state.chunks.lookup (segmentId, generation) with
  | none => (.error (.invalidChunkFrame "final chunk has no reserved assembly"), state, model)
  | some chunk =>
    if chunk.bufferedBytes + entry.message.payload.length ≠ header.totalSize then
      (.error (.invalidChunkFrame "completed chunks do not match the announced message size"),
        state, model)
    else
      (.ok (.complete (assembled chunk entry header.chunkId flow)),
        state.removeChild segmentId generation, model)

def acceptChunk (model : σ) (segmentId : SegmentId) (generation : ChildGeneration)
    (flow : BudgetReservationId) (entry : DeferredIncomingMessage) (total : Int) :
    Received σ Action Refusal :=
  match chunkHeader entry.message.metadata total with
  | .error error => (.error error, state, model)
  | .ok header =>
    let existing := state.chunks.lookup (segmentId, generation)
    match checkContinuation existing header with
    | .error error => (.error error, state, model)
    | .ok () =>
      let received := existing.elim 0 fun chunk => chunk.payloads.length
      if received + 1 = total.toNat then
        state.completeChunk model segmentId generation flow entry header
      else state.bufferChunk accounting model segmentId generation flow entry header

/-- An entry that is not a chunk is complete as it is. -/
def whole (entry : DeferredIncomingMessage) (flow : BudgetReservationId) :
    StreamCompleteEntry where
  message := entry.message
  messageIdData := entry.messageIdData
  ackSet := entry.ackSet
  dispatchPermits := entry.dispatchPermits
  completion := .message flow

def acceptEntry (model : σ) (segmentId : SegmentId) (generation : ChildGeneration)
    (flow : BudgetReservationId) (entry : DeferredIncomingMessage) : Received σ Action Refusal :=
  match entry.message.metadata.numChunksFromMsg with
  | none => (.ok (.complete (whole entry flow)), state, model)
  | some total =>
    if total ≤ 1 then (.ok (.complete (whole entry flow)), state, model)
    else state.acceptChunk accounting model segmentId generation flow entry total

end

end StreamReceiveState

/-! ### Batches -/

section

variable (single : Prost SingleMessageMetadata) {Refusal : Type}

/-- Pop one member off the cursor. -/
def nextStreamMember (cursor : Bytes) :
    Except (StreamConsumerModelError Refusal) (BatchMember × Bytes) :=
  if cursor.length < 4 then
    .error (.invalidBatchFrame "single-message metadata length is truncated")
  else
    let singleSize := BigEndian.get (cursor.take 4)
    let cursor := cursor.drop 4
    if cursor.length < singleSize then
      .error (.invalidBatchFrame "single-message metadata is truncated")
    else
      match single.decode (cursor.take singleSize) with
      | none => .error (.invalidBatchFrame "single-message metadata is not valid protobuf")
      | some metadata =>
        let cursor := cursor.drop singleSize
        if metadata.payloadSize < 0 then
          .error (.invalidBatchFrame "single-message payload size is negative")
        else if cursor.length < metadata.payloadSize.toNat then
          .error (.invalidBatchFrame "single-message payload is truncated")
        else
          .ok ((metadata, cursor.take metadata.payloadSize.toNat),
            cursor.drop metadata.payloadSize.toNat)

/-- Every member of the cursor, which must hold nothing else. -/
def streamMembers : (count : Nat) → Bytes →
    Except (StreamConsumerModelError Refusal) (List BatchMember)
  | 0, [] => .ok []
  | 0, _ :: _ => .error (.invalidBatchFrame "batch payload has trailing bytes")
  | count + 1, cursor => do
    let (member, cursor) ← nextStreamMember single cursor
    let members ← streamMembers count cursor
    return member :: members

/-- A member as a message of its own, under an id that lists the members still unacked. -/
def streamMember (message : IncomingMessage) (messageIdData : BrokerMessageId) (batchSize : Int)
    (ackState : BatchAckEntry) (index : Nat) (member : BatchMember) :
    IncomingMessage × BrokerMessageId :=
  let ordinary :=
    { messageIdData.data with
      batchIndex := some (index : Int)
      batchSize := some batchSize
      ackSet := ackState.ackSetI64 }
  ({ message with
      messageId := MessageId.fromPb ordinary
      singleMetadata := some member.1
      payload := member.2 },
    { messageIdData with data := ordinary })

/-- The members that the bit set still lists.  A word that it leaves out lists none. -/
def expandBatch (message : IncomingMessage) (messageIdData : BrokerMessageId)
    (ackSet : List Int64) (batchSize : Int) :
    Except (StreamConsumerModelError Refusal) (List (IncomingMessage × BrokerMessageId)) := do
  let ackState := BatchAckEntry.fromAckSet batchSize ackSet
  let members ← streamMembers single batchSize.toNat message.payload
  return (((List.range batchSize.toNat).zip members).filter fun member =>
    ackState.isUnacked member.1).map fun member =>
      streamMember message messageIdData batchSize ackState member.1 member.2

variable {σ Action : Type} (accounting : Accounting σ Action Refusal)

/-- Expand a batch and account for its members before any of them becomes visible. -/
def finalizeBatch (model : σ) (segmentId : SegmentId) (generation : ChildGeneration)
    (entry : StreamCompleteEntry) (flow : BudgetReservationId)
    (transformWork : List BudgetReservationId) (batchSize : Int) (topic : String) :
    Except (StreamConsumerModelError Refusal) (StreamEntryTransition Action × σ) := do
  let structural ← sized <| accounting.structuralBytes entry.message entry.messageIdData
    entry.ackSet batchSize.toNat topic
  let (batchWork, model) ← asked <|
    accounting.reserveBatchAssembly model segmentId generation structural
  let messages ← expandBatch single entry.message entry.messageIdData entry.ackSet batchSize
  let charges ← messages.mapM fun message =>
    sized <| accounting.retainedBytes message.1 message.2 topic
  let work := transformWork ++ [batchWork]
  let permitDebt := entry.dispatchPermits - 1
  if messages.isEmpty then
    let (actions, model) ← asked <|
      accounting.discardPreallocatedArrival model segmentId generation flow work
    return ({ messages := [], actions, permitDebt }, model)
  else
    let (retained, actions, model) ← asked <|
      accounting.batchArrivedPreallocated segmentId generation model flow work charges
    let messages := (messages.zip retained).map fun queued =>
      { message := queued.1.1, messageIdData := queued.1.2, reservation := queued.2 }
    return ({ messages, actions, permitDebt }, model)

/-- Account for an entry that is one message. -/
def finalizeMessage (model : σ) (segmentId : SegmentId) (generation : ChildGeneration)
    (entry : StreamCompleteEntry) (transformWork : List BudgetReservationId) (topic : String) :
    Except (StreamConsumerModelError Refusal) (StreamEntryTransition Action × σ) := do
  let charge ← sized <| accounting.retainedBytes entry.message entry.messageIdData topic
  let (reservation, actions, model) ← asked <|
    match entry.completion with
    | .message flow =>
      accounting.messageArrivedPreallocated model segmentId generation flow transformWork charge
    | .chunk flow assembly =>
      accounting.chunkMessageArrived model segmentId generation flow assembly transformWork
        charge
  let queued :=
    { message := entry.message, messageIdData := entry.messageIdData, reservation }
  return ({ messages := [queued], actions, permitDebt := entry.dispatchPermits - 1 }, model)

/-- An entry is a batch when it announces more than one member. -/
def finalizeEntry (model : σ) (segmentId : SegmentId) (generation : ChildGeneration)
    (entry : StreamCompleteEntry) (transformWork : List BudgetReservationId) :
    Except (StreamConsumerModelError Refusal) (StreamEntryTransition Action × σ) := do
  let topic ← asked <| accounting.topic model segmentId generation
  let count := entry.message.metadata.numMessagesInBatch.getD 1
  if count > 1 then
    match entry.completion with
    | .chunk _ _ => throw (.invalidBatchFrame "chunked entries cannot also be batched")
    | .message flow =>
      finalizeBatch single accounting model segmentId generation entry flow transformWork count
        topic
  else finalizeMessage accounting model segmentId generation entry transformWork topic

end

end Magnetar.Proto.Stream
