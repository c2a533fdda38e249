import Magnetar.Proto.Consumer.Reassembly
import Magnetar.Proto.Producer.Chunking

/-!
Contract: a chunked message from the producer to the receiver queue.

Owns: the staged frames as dispatches in any order that starts with the first, and the one message
that a consumer makes of them.

Does not own: the slices (`Producer.Chunking`) and the buffer (`Consumer.Reassembly`).
-/

namespace Magnetar.Proto.Chunk

open Library.Machine Pb External Producer Producer.ProducerState Consumer Consumer.ConsumerState

/-! ### Arrival -/

/-- The dispatch brings the frame as it was staged. -/
structure Dispatches (frame : OutboundFrame) (d : Dispatch) : Prop where
  metadata : d.metadata = frame.metadata
  body : d.body = frame.payload

/-- The frames arrive in some order that starts with the first. -/
def ArriveAs (frames : List OutboundFrame) (dispatched : List Dispatch) : Prop :=
  ∃ order, order.Perm frames ∧ order.head? = frames.head? ∧
    List.Forall₂ Dispatches order dispatched

section Producing

variable {producer : ProducerState} {msg : OutgoingMessage} {uuid : String} {publishTimeMs : Nat}
  {total : Nat}

section

variable (count : computeTotalChunks msg.payload.length producer.maxChunkPayload = total)

include count

theorem isChunk_of_dispatches {d : Dispatch} {index : Nat} (several : 2 ≤ total)
    (dispatches : Dispatches (producer.chunkFrame msg uuid publishTimeMs index) d) :
    IsChunk uuid total (producer.chunkPayload msg) d index := by
  obtain ⟨chunkId, owner, _, announced, _⟩ :=
    producer.chunkMetadata_fields msg uuid publishTimeMs index
  have metadata : d.metadata = producer.chunkMetadata msg uuid publishTimeMs index :=
    dispatches.metadata
  refine ⟨?_, ?_, dispatches.body⟩
  · rw [Dispatch.uuid, metadata, owner]
    rfl
  · rw [Dispatch.chunk?, metadata, chunkId, announced, count]
    exact if_pos (by omega)

theorem arriveAs_ids {dispatched : List Dispatch} (several : 2 ≤ total)
    (arrive : ArriveAs (producer.chunkFrames msg uuid publishTimeMs) dispatched) :
    ∃ first others ids, dispatched = first :: others ∧
      first.metadata = producer.chunkMetadata msg uuid publishTimeMs 0 ∧
      (0 :: ids).Perm (List.range total) ∧
      List.Forall₂ (IsChunk uuid total (producer.chunkPayload msg)) (first :: others)
        (0 :: ids) := by
  obtain ⟨order, permuted, head, dispatches⟩ := arrive
  rw [chunkFrames, count] at permuted head
  obtain ⟨indices, rfl, each⟩ :=
    (congrFun₂ (List.eq_map_comp_perm _) order (List.range total)).mpr permuted
  have starts : (List.range total).head? = some 0 := by
    rw [List.head?_range, if_neg (by omega)]
  rw [List.head?_map, List.head?_map, starts, Option.map_some] at head
  cases indices with
  | nil => cases head
  | cons index ids =>
    have same : producer.chunkFrame msg uuid publishTimeMs index =
        producer.chunkFrame msg uuid publishTimeMs 0 := Option.some.inj head
    have zero : index = 0 := by
      have ids := congrArg (fun frame => frame.metadata.chunkId) same
      have left := (producer.chunkMetadata_fields msg uuid publishTimeMs index).1
      have right := (producer.chunkMetadata_fields msg uuid publishTimeMs 0).1
      exact Int.ofNat_inj.mp (Option.some.inj (left.symm.trans (ids.trans right)))
    subst zero
    have chunks : List.Forall₂ (IsChunk uuid total (producer.chunkPayload msg)) dispatched
        (0 :: ids) := by
      refine (List.forall₂_map_left_iff.mp dispatches).flip.imp ?_
      intro d index dispatches
      exact isChunk_of_dispatches count several dispatches
    cases dispatches with
    | cons brings => exact ⟨_, _, ids, rfl, brings.metadata, each, chunks⟩

end

variable (single : Prost SingleMessageMetadata) (codecs : Codecs)

theorem surfacedBy_chunkFrames (positive : 1 ≤ producer.maxMessageSize)
    (longer : producer.maxMessageSize < msg.payload.length)
    (few : ((producer.chunkFrames msg uuid publishTimeMs).length : Int) ≤ maxChunkTotal)
    {c : ConsumerState} {dispatches : List Dispatch} (opened : c.receives = true)
    (fresh : c.chunkReassembly.lookup uuid = none)
    (within : Guarded (deliverStep single codecs) (WithinCaps uuid) c dispatches)
    (arrive : ArriveAs (producer.chunkFrames msg uuid publishTimeMs) (framesOf uuid dispatches)) :
    ∃ message, surfacedBy single codecs uuid c dispatches = [message] ∧
      message.payload = msg.payload ∧
      message.metadata = withoutChunkFields (producer.chunkMetadata msg uuid publishTimeMs 0) ∧
      (framesOf uuid dispatches).head?.map Dispatch.redelivery = some message.redeliveryCount := by
  have width := producer.maxChunkPayload_pos positive
  have narrow := producer.maxChunkPayload_le
  have several := two_le_computeTotalChunks width (by omega : _ < msg.payload.length)
  rw [chunkFrames, List.length_map, List.length_range] at few
  have unclamped : computeTotalChunks msg.payload.length producer.maxChunkPayload < 2 ^ 31 - 1 := by
    unfold maxChunkTotal at few
    omega
  have covers := (covers_iff width).mpr (covers_of_lt width unclamped)
  obtain ⟨first, others, ids, inOrder, metadata, each, chunks⟩ := arriveAs_ids rfl several arrive
  obtain ⟨message, surfaced, assembled⟩ :=
    surfacedBy_chunks single codecs few opened fresh within inOrder chunks each several
  refine ⟨message, surfaced, ?_, ?_, ?_⟩
  · rw [assembled.payload, flatMap_chunkPayload, List.take_of_length_le covers]
  · rw [assembled.metadata, metadata]
  · rw [inOrder, assembled.redelivery]
    rfl

end Producing

/-! ### The round trip -/

/-- Exactly one message is queued for the frames of `uuid`: for the application, or with the dead
letters when the first chunk was redelivered too often. -/
structure QueuedOnce (single : Prost SingleMessageMetadata) (codecs : Codecs) (uuid : String)
    (c : ConsumerState) (dispatches : List Dispatch) (message : IncomingMessage) : Prop where
  redelivery : (framesOf uuid dispatches).head?.map Dispatch.redelivery =
    some message.redeliveryCount
  queue : appendedBy single codecs queue uuid c dispatches =
    if c.deadLetters message.redeliveryCount then [] else [message]
  deadLetters : appendedBy single codecs deadLetterPending uuid c dispatches =
    if c.deadLetters message.redeliveryCount then [message] else []

variable (single : Prost SingleMessageMetadata) (codecs : Codecs)

theorem queuedOnce_of_surfacedBy {uuid : String} {c : ConsumerState} {dispatches : List Dispatch}
    {message : IncomingMessage} (surfaced : surfacedBy single codecs uuid c dispatches = [message])
    (redelivery : (framesOf uuid dispatches).head?.map Dispatch.redelivery =
      some message.redeliveryCount) :
    QueuedOnce single codecs uuid c dispatches message := by
  refine ⟨redelivery, ?_, ?_⟩
  · rw [appendedBy_queue, surfaced, List.filter_singleton]
    cases c.deadLetters message.redeliveryCount <;> rfl
  · rw [appendedBy_deadLetterPending, surfaced, List.filter_singleton]
    cases c.deadLetters message.redeliveryCount <;> rfl

/-- The frames that `emitChunked` stages are the payload in chunks, and a consumer makes one message
of them, exactly when the chunk count fits its field. -/
theorem chunk_round_trip (producer : ProducerState) (msg : OutgoingMessage) (uuid : String)
    (reservation publishTimeMs now : Nat) (frames : List OutboundFrame)
    (emitted : (producer.emitChunked msg uuid reservation publishTimeMs now).2.outbound =
      producer.outbound ++ frames)
    (positive : 1 ≤ producer.maxMessageSize)
    (longer : producer.maxMessageSize < msg.payload.length) :
    (Chunked msg.payload producer.maxMessageSize uuid producer.nextSequenceId frames ∧
      ((frames.length : Int) ≤ maxChunkTotal →
        ∀ (c : ConsumerState) (dispatches : List Dispatch), c.receives = true →
          c.chunkReassembly.lookup uuid = none →
          Guarded (deliverStep single codecs) (WithinCaps uuid) c dispatches →
          ArriveAs frames (framesOf uuid dispatches) →
          ∃ message, message.payload = msg.payload ∧
            QueuedOnce single codecs uuid c dispatches message)) ↔
      msg.payload.length ≤ (2 ^ 31 - 1) * producer.maxChunkPayload := by
  have staged : frames = producer.chunkFrames msg uuid publishTimeMs := by
    exact (List.append_cancel_left emitted).symm
  rw [staged, ← chunked_iff producer msg uuid publishTimeMs positive longer]
  refine and_iff_left_of_imp ?_
  intro _ few c dispatches opened fresh within arrive
  obtain ⟨message, surfaced, payload, _, redelivery⟩ :=
    surfacedBy_chunkFrames single codecs positive longer few opened fresh within arrive
  exact ⟨message, payload, queuedOnce_of_surfacedBy single codecs surfaced redelivery⟩

private def producerOf (maxMessageSize : Nat) : ProducerState :=
  ProducerState.new 1 .none maxMessageSize

private def messageOf (payload : Bytes) : OutgoingMessage where
  payload := payload
  metadata := {}
  uncompressedSize := 0
  numMessages := 1
  txnId := none
  sourceMessageId := none

private def chunkAt (index : Nat) : OutboundFrame :=
  (producerOf 2).chunkFrame (messageOf [1, 2, 3, 4, 5]) "a" 0 index

private def dispatchAt (index : Nat) : Dispatch where
  cmd := { consumerId := 7, messageId := { ledgerId := 1, entryId := index } }
  metadata := (chunkAt index).metadata
  body := (chunkAt index).payload

private def other : Dispatch where
  cmd := { consumerId := 7, messageId := { ledgerId := 1, entryId := 9 } }
  body := [9]

/-- Three chunks, the last two in the other order and another message between them. -/
theorem chunk_round_trip_three :
    ∃ message, message.payload = [1, 2, 3, 4, 5] ∧
      QueuedOnce default default "a"
        (ConsumerState.withPolicy 7 "t" "s" (ReceiverQueue.fixed 10) none)
        [dispatchAt 0, dispatchAt 2, other, dispatchAt 1] message := by
  refine ((chunk_round_trip default default (producerOf 2) (messageOf [1, 2, 3, 4, 5]) "a" 0 0 0
    [chunkAt 0, chunkAt 1, chunkAt 2] (by decide +kernel) (by decide) (by decide)).mpr
    (by decide)).2 (by decide) _ _ rfl rfl ?_ ?_
  · refine ⟨⟨?_, ?_⟩, ⟨?_, ?_⟩, ⟨?_, ?_⟩, ⟨?_, ?_⟩, trivial⟩ <;> decide +kernel
  · exact ⟨[chunkAt 0, chunkAt 2, chunkAt 1], (List.Perm.swap _ _ _).cons _, rfl,
      .cons ⟨rfl, rfl⟩ (.cons ⟨rfl, rfl⟩ (.cons ⟨rfl, rfl⟩ .nil))⟩

private def largeMessage : OutgoingMessage :=
  messageOf (List.replicate (2 ^ 31) 0)

/-- The last byte is lost when the count would not fit its field. -/
theorem chunks_lose_last_byte :
    1 ≤ (producerOf 1).maxMessageSize ∧
      (producerOf 1).maxMessageSize < largeMessage.payload.length ∧
      ¬ Chunked largeMessage.payload (producerOf 1).maxMessageSize "a"
        (producerOf 1).nextSequenceId
        ((producerOf 1).emitChunked largeMessage "a" 0 0 0).2.outbound := by
  have length : largeMessage.payload.length = 2 ^ 31 := List.length_replicate
  have width : (producerOf 1).maxChunkPayload = 1 := rfl
  have longer : (producerOf 1).maxMessageSize < largeMessage.payload.length := by
    rw [length]
    decide
  refine ⟨Nat.le_refl 1, longer, ?_⟩
  rw [emitChunked_outbound, show (producerOf 1).outbound = [] from rfl, List.nil_append,
    chunked_iff (producerOf 1) largeMessage "a" 0 (Nat.le_refl 1) longer, length, width]
  decide

end Magnetar.Proto.Chunk
