import Magnetar.Proto.Producer.State
import Magnetar.Proto.Trackers.Unacked

/-!
Contract: the life of a producer's pending sends (`producer.rs`, with the producer arms of
`conn.rs` that call it).

Owns: how a producer is opened, receipts and send errors, the send timeout, the snapshot a reset
takes and the replay a producer success makes.

Does not own: which request a producer success answers, and the outcomes handed to the futures.
-/

namespace Magnetar.Proto.Producer

open Library Pb External
open Trackers.Unacked (deadlineWithClamp)

variable (producer : ProducerState)

namespace ProducerState

def nextBatchDeadline : Option Nat := do
  let maxDelay ← producer.batchingMaxPublishDelay
  let first ← producer.batch.firstAddedAt
  some (deadlineWithClamp first maxDelay)

def batchDeadlineElapsed (now : Nat) : Bool :=
  producer.nextBatchDeadline.any (· ≤ now)

/-- Close the gap a removed position leaves in the index. -/
def shiftPendingIndexLeft (removedPosition : Nat) : ProducerState :=
  { producer with
    pendingIndex := Table.mapValues producer.pendingIndex fun position =>
      if position > removedPosition then position - 1 else position }

/-- Take the pending send of a sequence id out of the index and of the queue. -/
def removePending (seq : Nat) : Option OpSend × ProducerState :=
  match producer.pendingIndex.lookup seq with
  | none => (none, producer)
  | some _ =>
    let producer := { producer with pendingIndex := producer.pendingIndex.erase seq }
    match producer.pending.findIdx? (·.sequenceId == seq) with
    | none => (none, producer)
    | some position =>
      let producer' := { producer with pending := producer.pending.eraseIdx position }
      (producer.pending[position]?, producer'.shiftPendingIndexLeft position)

def applyReceipt (receipt : CommandSendReceipt) : Option (OpSend × MessageId) × ProducerState :=
  match producer.removePending receipt.sequenceId with
  | (none, producer) => (none, producer)
  | (some op, producer) =>
    let mid :=
      match receipt.messageId with
      | some id => MessageId.fromPb id
      | none => { ledgerId := 0, entryId := 0, partition := -1, batchIndex := -1, batchSize := 0 }
    (some ({ op with receipt := some mid }, mid),
      { producer with lastSequenceIdPublished := asI64 receipt.sequenceId })

def applySendError (err : CommandSendError) : Option (OpSend × Int × String) × ProducerState :=
  match producer.removePending err.sequenceId with
  | (none, producer) => (none, producer)
  | (some op, producer) => (some (op, err.error, err.message), producer)

/-- The range a receipt covers: the broker says "no batch" with the largest id, or one below. -/
def receiptRange (receipt : CommandSendReceipt) : List Nat :=
  let lowest := receipt.sequenceId
  let highestRaw := receipt.highestSequenceId.getD 0
  let highest := if highestRaw ≥ lowest ∧ highestRaw ≠ 2 ^ 64 - 1 then highestRaw else lowest
  List.range' lowest (highest + 1 - lowest)

/-- The fan-out of one broker receipt over its range. -/
def handleSendReceipt (receipt : CommandSendReceipt) : List (OpSend × MessageId) × ProducerState :=
  (receiptRange receipt).foldl (fun (resolved, producer) seq =>
    let (outcome, producer) :=
      producer.applyReceipt { receipt with sequenceId := seq, highestSequenceId := none }
    (resolved ++ outcome.toList, producer)) ([], producer)

/-- The sends at the front whose timeout has passed, and the producer without them. -/
def drainTimedOutSends (now : Nat) : List OpSend × ProducerState :=
  match producer.sendTimeout with
  | none => ([], producer)
  | some timeout =>
    let expired := producer.pending.takeWhile fun op =>
      deadlineWithClamp op.enqueuedAt timeout ≤ now
    (expired, { producer with
      pending := producer.pending.drop expired.length
      pendingIndex := expired.foldl (fun index op => index.erase op.sequenceId)
        producer.pendingIndex })

def drainPendingSends : List OpSend × ProducerState :=
  (producer.pending, { producer with
    pending := []
    pendingIndex := producer.pending.foldl (fun index op => index.erase op.sequenceId)
      producer.pendingIndex
    batch := {}
    outbound := [] })

/-- What a reset keeps for replay and what it fails, batched sends having no frame of their own. -/
structure PendingSnapshot where
  replayWakers : List (Nat × Option Nat)
  dropped : List OpSend
  snapshots : List OpSend

def snapshotPendingSends : PendingSnapshot × ProducerState :=
  let (dropped, kept) := producer.pending.partition (·.replayFrames.isEmpty)
  ({ replayWakers := kept.map fun op => (op.sequenceId, op.waker)
     dropped
     snapshots := kept.map fun op => { op with waker := none } },
    { (producer.drainPendingSends).2 with brokerReady := false })

/-- Snapshots go to the front: they are older than what was staged since. -/
def replaySnapshots (snapshots : List OpSend) : ProducerState :=
  let pending := snapshots ++ producer.pending
  { producer with
    outbound := snapshots.flatMap (·.replayFrames) ++ producer.outbound
    pending
    pendingIndex := pending.zipIdx.foldl (fun index (op, position) =>
      index.insert op.sequenceId position) ∅ }

def replayPendingOutbound : ProducerState :=
  let staged := producer.outbound.map (·.sequenceId)
  let frames := (producer.pending.filter fun op => !staged.contains op.sequenceId).flatMap
    (·.replayFrames)
  { producer with outbound := frames ++ producer.outbound }

def close : ProducerState :=
  { producer with closed := true }

/-- Park a waker, or none, on the send the index names.  Whether the send was found. -/
def setWaker (seq : Nat) (waker : Option Nat) : Bool × ProducerState :=
  match producer.pendingIndex.lookup seq with
  | none => (false, producer)
  | some position =>
    if position < producer.pending.length then
      (true, { producer with
        pending := producer.pending.modify position fun op => { op with waker } })
    else (false, producer)

def registerWaker (seq waker : Nat) : Bool × ProducerState :=
  producer.setWaker seq (some waker)

def clearWaker (seq : Nat) : ProducerState :=
  (producer.setWaker seq none).2

end ProducerState

/-! ### Opening -/

structure CreateProducerRequest where
  producerName : Option String
  initialSequenceId : Option Nat
  compression : CompressionKind
  enableBatching : Bool
  enableChunking : Bool
  maxBatchSizeBytes : Nat
  maxMessagesInBatch : Nat
  sendTimeout : Option Nat
  batchingMaxPublishDelay : Option Nat

/-- `maxMessageSize` is the broker's limit, or the configured default. -/
def createProducer (handle maxMessageSize : Nat) (req : CreateProducerRequest) : ProducerState :=
  let producer : ProducerState :=
    { ProducerState.new handle req.compression maxMessageSize with
      batchingEnabled := req.enableBatching
      chunkingEnabled := req.enableChunking
      maxBatchSizeBytes := req.maxBatchSizeBytes
      maxMessagesInBatch := req.maxMessagesInBatch
      name := req.producerName }
  let producer :=
    match req.initialSequenceId with
    | some initial => producer.setInitialSequenceId initial
    | none => producer
  { producer with
    sendTimeout := req.sendTimeout
    batchingMaxPublishDelay := req.batchingMaxPublishDelay }

end Magnetar.Proto.Producer
