import Magnetar.Proto.Producer.Moves

/-!
Contract: the frames of a message that goes out on its own.

Owns: what the slicing loop cuts out of the payload, how far the clamped chunk count reaches, when
the chunks together are the whole payload, and which messages are chunked.

Does not own: putting the payload together again (`Consumer.Reassembly`).
-/

namespace Magnetar.Proto.Producer

open Pb External Compress

namespace ProducerState

variable (producer : ProducerState) (msg : OutgoingMessage)

/-! ### Slices -/

theorem chunkPayload_eq (chunkIdx : Nat) :
    producer.chunkPayload msg chunkIdx =
      (msg.payload.drop (chunkIdx * producer.maxChunkPayload)).take producer.maxChunkPayload := by
  have width : (chunkIdx + 1) * producer.maxChunkPayload -
      chunkIdx * producer.maxChunkPayload = producer.maxChunkPayload := by
    rw [Nat.succ_mul]
    omega
  rw [chunkPayload, List.take_eq_take_iff.mpr (by omega :
    min (min ((chunkIdx + 1) * producer.maxChunkPayload) msg.payload.length) msg.payload.length =
      min ((chunkIdx + 1) * producer.maxChunkPayload) msg.payload.length), List.drop_take, width]

theorem chunkPayload_length (chunkIdx : Nat) :
    (producer.chunkPayload msg chunkIdx).length =
      min producer.maxChunkPayload
        (msg.payload.length - chunkIdx * producer.maxChunkPayload) := by
  simp only [chunkPayload, List.length_drop, List.length_take, Nat.succ_mul]
  omega

theorem flatMap_chunkPayload (count : Nat) :
    (List.range count).flatMap (producer.chunkPayload msg) =
      msg.payload.take (count * producer.maxChunkPayload) := by
  induction count with
  | zero => simp
  | succ _ ih =>
    rw [List.range_succ, List.flatMap_append, ih, Nat.succ_mul, List.take_add,
      List.flatMap_singleton, chunkPayload_eq]

theorem maxChunkPayload_le : producer.maxChunkPayload ≤ producer.maxMessageSize := by
  unfold maxChunkPayload
  split <;> omega

theorem maxChunkPayload_pos (positive : 1 ≤ producer.maxMessageSize) :
    0 < producer.maxChunkPayload := by
  unfold maxChunkPayload
  split
  · have large : chunkMetadataReservation * 4 < producer.maxMessageSize := ‹_›
    omega
  · exact positive

end ProducerState

/-! ### The count -/

open ProducerState

variable {payloadLen width : Nat}

theorem start_lt_of_lt_total {index : Nat} (positive : 0 < width)
    (some : 0 < payloadLen) (inside : index < computeTotalChunks payloadLen width) :
    index * width < payloadLen := by
  have counted : index < max ((payloadLen + width - 1) / width) 1 := by
    rw [computeTotalChunks, if_neg (by omega)] at inside
    omega
  by_cases first : index = 0
  · rw [first]
    omega
  · have below : index < (payloadLen + width - 1) / width := by omega
    have reaches : (index + 1) * width ≤ payloadLen + width - 1 :=
      (Nat.le_div_iff_mul_le positive).mp below
    rw [Nat.succ_mul] at reaches
    omega

/-- The slices reach the end of the payload, unless the count is clamped. -/
theorem covers_iff (positive : 0 < width) :
    payloadLen ≤ computeTotalChunks payloadLen width * width ↔
      payloadLen ≤ (2 ^ 31 - 1) * width := by
  rw [computeTotalChunks, if_neg (by omega)]
  have ceiling : payloadLen ≤ (payloadLen + width - 1) / width * width := by
    have division := Nat.div_add_mod (payloadLen + width - 1) width
    have remainder := Nat.mod_lt (payloadLen + width - 1) positive
    rw [Nat.mul_comm] at division
    omega
  constructor
  · intro covered
    exact covered.trans (Nat.mul_le_mul_right width (Nat.min_le_right _ _))
  · intro within
    rcases Nat.le_total (max ((payloadLen + width - 1) / width) 1) (2 ^ 31 - 1) with small | large
    · rw [Nat.min_eq_left small]
      exact ceiling.trans (Nat.mul_le_mul_right width (Nat.le_max_left _ _))
    · rw [Nat.min_eq_right large]
      exact within

theorem covers_of_lt (positive : 0 < width)
    (below : computeTotalChunks payloadLen width < 2 ^ 31 - 1) :
    payloadLen ≤ (2 ^ 31 - 1) * width := by
  rw [computeTotalChunks, if_neg (by omega)] at below
  have few : (payloadLen + width - 1) / width < 2 ^ 31 - 1 := by omega
  rw [Nat.div_lt_iff_lt_mul positive] at few
  omega

theorem two_le_computeTotalChunks (positive : 0 < width)
    (longer : width < payloadLen) : 2 ≤ computeTotalChunks payloadLen width := by
  have twice : 2 ≤ (payloadLen + width - 1) / width := by
    rw [Nat.le_div_iff_mul_le positive]
    omega
  rw [computeTotalChunks, if_neg (by omega)]
  omega

/-! ### The frames -/

/-- The frames are chunks `0..n` of one message: one id and one uuid, every slice in bounds and not
empty, and the slices together the payload. -/
structure Chunked (payload : Bytes) (maxMessageSize : Nat) (uuid : String) (sequenceId : Nat)
    (frames : List OutboundFrame) : Prop where
  chunkIds : frames.map (fun frame => frame.metadata.chunkId) =
    (List.range frames.length).map fun index : Nat => some (index : Int)
  uuid : ∀ frame ∈ frames, frame.metadata.uuid = some uuid
  sequenceId : ∀ frame ∈ frames,
    frame.sequenceId = sequenceId ∧ frame.metadata.sequenceId = sequenceId
  total : ∀ frame ∈ frames, frame.metadata.numChunksFromMsg = some frames.length
  nonempty : ∀ frame ∈ frames, frame.payload ≠ []
  bounded : ∀ frame ∈ frames, frame.payload.length ≤ maxMessageSize
  whole : frames.flatMap OutboundFrame.payload = payload

namespace ProducerState

variable (producer : ProducerState) (msg : OutgoingMessage) (uuid : String) (publishTimeMs : Nat)

def chunkFrames : List OutboundFrame :=
  (List.range (computeTotalChunks msg.payload.length producer.maxChunkPayload)).map
    (producer.chunkFrame msg uuid publishTimeMs)

theorem emitChunked_outbound (reservation now : Nat) :
    (producer.emitChunked msg uuid reservation publishTimeMs now).2.outbound =
      producer.outbound ++ producer.chunkFrames msg uuid publishTimeMs :=
  rfl

theorem chunkMetadata_fields (chunkIdx : Nat) :
    (producer.chunkMetadata msg uuid publishTimeMs chunkIdx).chunkId = some (chunkIdx : Int) ∧
      (producer.chunkMetadata msg uuid publishTimeMs chunkIdx).uuid = some uuid ∧
      (producer.chunkMetadata msg uuid publishTimeMs chunkIdx).sequenceId =
        producer.nextSequenceId ∧
      (producer.chunkMetadata msg uuid publishTimeMs chunkIdx).numChunksFromMsg =
        some (computeTotalChunks msg.payload.length producer.maxChunkPayload : Int) ∧
      (producer.chunkMetadata msg uuid publishTimeMs chunkIdx).compression =
        msg.metadata.compression ∧
      (producer.chunkMetadata msg uuid publishTimeMs chunkIdx).uncompressedSize =
        some msg.uncompressedSize ∧
      (producer.chunkMetadata msg uuid publishTimeMs chunkIdx).encryptionKeys =
        msg.metadata.encryptionKeys := by
  unfold chunkMetadata stampTxn
  split <;> exact ⟨rfl, rfl, rfl, rfl, rfl, rfl, rfl⟩

theorem flatMap_chunkFrames :
    (producer.chunkFrames msg uuid publishTimeMs).flatMap OutboundFrame.payload =
      msg.payload.take (computeTotalChunks msg.payload.length producer.maxChunkPayload *
        producer.maxChunkPayload) := by
  rw [chunkFrames, List.flatMap_map]
  exact producer.flatMap_chunkPayload msg _

/-- The frames are the whole payload exactly when the chunk count fits its field. -/
theorem chunked_iff (positive : 1 ≤ producer.maxMessageSize)
    (longer : producer.maxMessageSize < msg.payload.length) :
    Chunked msg.payload producer.maxMessageSize uuid producer.nextSequenceId
        (producer.chunkFrames msg uuid publishTimeMs) ↔
      msg.payload.length ≤ (2 ^ 31 - 1) * producer.maxChunkPayload := by
  have width := producer.maxChunkPayload_pos positive
  have narrow := producer.maxChunkPayload_le
  constructor
  · intro chunked
    rw [← covers_iff width]
    have length := congrArg List.length chunked.whole
    rw [flatMap_chunkFrames, List.length_take] at length
    omega
  · intro within
    have covers := (covers_iff width).mpr within
    refine ⟨?_, ?_, ?_, ?_, ?_, ?_, ?_⟩
    · rw [chunkFrames, List.length_map, List.length_range, List.map_map]
      apply List.map_congr_left
      intro chunkIdx _
      exact (producer.chunkMetadata_fields msg uuid publishTimeMs chunkIdx).1
    · intro frame member
      obtain ⟨chunkIdx, _, rfl⟩ := List.mem_map.mp member
      exact (producer.chunkMetadata_fields msg uuid publishTimeMs chunkIdx).2.1
    · intro frame member
      obtain ⟨chunkIdx, _, rfl⟩ := List.mem_map.mp member
      exact ⟨rfl, (producer.chunkMetadata_fields msg uuid publishTimeMs chunkIdx).2.2.1⟩
    · intro frame member
      obtain ⟨chunkIdx, _, rfl⟩ := List.mem_map.mp member
      rw [chunkFrames, List.length_map, List.length_range]
      exact (producer.chunkMetadata_fields msg uuid publishTimeMs chunkIdx).2.2.2.1
    · intro frame member
      obtain ⟨chunkIdx, counted, rfl⟩ := List.mem_map.mp member
      have starts := start_lt_of_lt_total width (by omega) (List.mem_range.mp counted)
      have length := producer.chunkPayload_length msg chunkIdx
      apply List.ne_nil_of_length_pos
      show 0 < (producer.chunkPayload msg chunkIdx).length
      omega
    · intro frame member
      obtain ⟨chunkIdx, _, rfl⟩ := List.mem_map.mp member
      have length := producer.chunkPayload_length msg chunkIdx
      show (producer.chunkPayload msg chunkIdx).length ≤ producer.maxMessageSize
      omega
    · rw [flatMap_chunkFrames]
      exact List.take_of_length_le covers

/-! ### Unbatched messages -/

/-- A frame of its own has none of the fields of a chunk, and stamps the size unless that is zero. -/
theorem singleMetadata_fields :
    (singleMetadata msg).chunkId = none ∧ (singleMetadata msg).numChunksFromMsg = none ∧
      (singleMetadata msg).numMessagesInBatch = msg.metadata.numMessagesInBatch ∧
      (singleMetadata msg).compression = msg.metadata.compression ∧
      (singleMetadata msg).uncompressedSize =
        (if msg.uncompressedSize > 0 then some msg.uncompressedSize
          else msg.metadata.uncompressedSize) ∧
      (singleMetadata msg).encryptionKeys = msg.metadata.encryptionKeys := by
  unfold singleMetadata stampTxn
  split <;> split <;> exact ⟨rfl, rfl, rfl, rfl, rfl, rfl⟩

variable (single : Prost SingleMessageMetadata) (codecs : Codecs)

/-- One frame, or chunks when the compressed payload is too large for one. -/
def unbatchedFrames : List OutboundFrame :=
  let msg := producer.compressUnbatched codecs msg
  if msg.payload.length > producer.maxMessageSize then producer.chunkFrames msg uuid publishTimeMs
  else [producer.singleFrame msg publishTimeMs]

/-- A message in the clear that its codec takes is stamped with codec and size. -/
theorem compressUnbatched_of_some (bare : alreadyEncoded msg.metadata = false)
    (bounded : msg.payload.length < 2 ^ 32) (codec : producer.compression ≠ .none) {body : Bytes}
    (compressed : compress codecs producer.compression msg.payload = some body) :
    producer.compressUnbatched codecs msg =
      { msg with
        uncompressedSize := msg.payload.length
        payload := body
        metadata := { msg.metadata with compression := some producer.compression.toPb } } := by
  have exact : min msg.payload.length (2 ^ 32 - 1) = msg.payload.length := by omega
  rw [compressUnbatched, if_neg (by simp [codec, bare]), compressed]
  rw [exact]

theorem compressUnbatched_of_none (fails : ∀ body, producer.compression ≠ .none →
      compress codecs producer.compression msg.payload ≠ some body) :
    producer.compressUnbatched codecs msg = msg := by
  unfold compressUnbatched
  split
  · rfl
  · rename_i coded
    rw [Bool.or_eq_true, not_or, decide_eq_true_eq] at coded
    split
    · rename_i body compressed
      exact absurd compressed (fails body coded.1)
    · rfl

variable {producer msg uuid publishTimeMs}

theorem MaybeFlushed.unbatchedFrames_eq {room : ProducerState}
    (flushed : MaybeFlushed single codecs producer room) :
    room.unbatchedFrames msg uuid publishTimeMs codecs =
      producer.unbatchedFrames msg uuid publishTimeMs codecs := by
  rcases flushed with rfl | ⟨flushTimeMs, rfl⟩
  · rfl
  · unfold flushBatch
    split <;> rfl

/-- A message that goes out on its own, behind a batch it may have flushed, is accepted with its
frames. -/
theorem queueSendReserved_emit {reservation now count : Nat}
    (emits : (producer.queueSendReserved single codecs msg uuid reservation publishTimeMs now).1 =
      .ok (.emit count)) :
    ∃ room op, MaybeFlushed single codecs producer room ∧
      Accepts codecs room msg op room.batch
        (producer.queueSendReserved single codecs msg uuid reservation publishTimeMs now).2.2 ∧
      op.replayFrames = producer.unbatchedFrames msg uuid publishTimeMs codecs ∧
      op.replayFrames.length = count := by
  unfold queueSendReserved at emits ⊢
  cases opened : producer.closed with
  | true =>
    rw [opened, if_pos rfl] at emits
    cases emits
  | false =>
    obtain ⟨room, flushed, made, clear⟩ :=
      makeRoom_leaves single codecs producer opened msg publishTimeMs
    rw [opened, if_neg (by decide), made] at emits
    rw [if_neg (by decide), made, ← flushed.unbatchedFrames_eq]
    unfold unbatchedFrames
    simp only [offer] at emits ⊢
    cases joins : room.canJoin msg with
    | true =>
      rw [joins] at emits
      simp only [if_true] at emits
      split at emits
      · split at emits <;> cases emits
      · cases emits
    | false =>
      rw [joins] at emits
      simp only [Bool.false_eq_true, if_false] at emits ⊢
      split at emits
      · rename_i large
        split at emits
        · cases emits
        · rename_i chunking
          rw [if_pos large, if_pos large, if_neg chunking]
          injection emits with decided
          injection decided with counted
          refine ⟨room, _, flushed,
            ⟨rfl, .framed joins (clear joins) (.chunked uuid publishTimeMs), rfl⟩, rfl, ?_⟩
          rw [List.length_map, List.length_range, ← counted]
      · rename_i small
        rw [if_neg small, if_neg small]
        injection emits with decided
        injection decided with counted
        exact ⟨room, _, flushed,
          ⟨rfl, .framed joins (clear joins) (.single publishTimeMs), rfl⟩, rfl, counted⟩

theorem queueSend_emit {now count : Nat}
    (emits : (producer.queueSend single codecs msg uuid publishTimeMs now).1 =
      .ok (.emit count)) :
    ∃ staged, (producer.queueSend single codecs msg uuid publishTimeMs now).2.outbound =
        staged ++ producer.unbatchedFrames msg uuid publishTimeMs codecs ∧
      (producer.unbatchedFrames msg uuid publishTimeMs codecs).length = count := by
  obtain ⟨room, op, -, accepts, frames, length⟩ := queueSendReserved_emit single codecs emits
  rw [← frames]
  exact ⟨room.outbound, accepts.outbound_eq, length⟩

end ProducerState

end Magnetar.Proto.Producer
