import Magnetar.Proto.Chunk.RoundTrip

/-!
Contract: what `ReceiveFut::poll` does with a message it popped, and that an unbatched payload comes
back from it.

Owns: the decryption and the decompression of a popped message, the sizes at which a compressed
payload is read, and which payloads a producer sends on their own that a receiver gets back.

Does not own: batched entries, which `Consumer.Deliver` decompresses before they are queued.
-/

namespace Magnetar.Runtime.Receive

open Library.Machine Proto.Pb Proto.External Proto.Framing Proto.Compress Proto.Producer
open Proto.Producer.ProducerState Proto.Consumer Proto.Consumer.ConsumerState Proto.Chunk

/-! ### A popped message -/

inductive CryptoFailureAction where
  | fail
  | discard
  | consume
  deriving DecidableEq, Repr

/-- What the poll makes of a popped message.  A discarded one is acknowledged and the next one is
popped. -/
inductive Polled where
  | ready (message : IncomingMessage)
  | failed
  | discarded

/-- Step 2: without a stamped size the payload is read at its own. -/
def decompressStep (codecs : Codecs) (message : IncomingMessage) : Polled :=
  match message.metadata.compression with
  | none => .ready message
  | some code =>
    match CompressionKind.tryFrom code with
    | none => .failed
    | some .none => .ready message
    | some kind =>
      let expectedSize := message.metadata.uncompressedSize.getD message.payload.length
      match decompress codecs kind message.payload expectedSize with
      | none => .failed
      | some plain => .ready { message with payload := plain }

/-- Step 1 and step 2.  A message that is consumed undecrypted is not decompressed. -/
def poll (decryptor : Option (Bytes → MessageMetadata → Option Bytes))
    (action : CryptoFailureAction) (codecs : Codecs) (message : IncomingMessage) : Polled :=
  if message.metadata.encryptionKeys.isEmpty then decompressStep codecs message
  else
    match decryptor.bind fun decrypt => decrypt message.payload message.metadata with
    | some plaintext => decompressStep codecs { message with payload := plaintext }
    | none =>
      match action with
      | .fail => .failed
      | .discard => .discarded
      | .consume => .ready message

/-- The receiver is handed the payload, whatever its crypto settings. -/
def HandsOut (codecs : Codecs) (message : IncomingMessage) (payload : Bytes) : Prop :=
  ∀ decryptor action, poll decryptor action codecs message = .ready { message with payload }

/-! ### Compressed payloads -/

variable {codecs : Codecs} {message : IncomingMessage}

theorem handsOut_iff (clear : message.metadata.encryptionKeys = []) (payload : Bytes) :
    HandsOut codecs message payload ↔
      decompressStep codecs message = .ready { message with payload } := by
  have skips : ∀ decryptor action,
      poll decryptor action codecs message = decompressStep codecs message := by
    intro decryptor action
    unfold poll
    rw [clear]
    rfl
  constructor
  · intro handsOut
    rw [← skips none .fail]
    exact handsOut none .fail
  · intro step decryptor action
    rw [skips, step]

theorem decompressStep_coded {kind : CompressionKind}
    (codec : kind ≠ .none) (stamped : message.metadata.compression = some kind.toPb)
    (payload : Bytes) :
    decompressStep codecs message = .ready { message with payload } ↔
      decompress codecs kind message.payload
        (message.metadata.uncompressedSize.getD message.payload.length) = some payload := by
  unfold decompressStep
  rw [stamped]
  dsimp only
  rw [CompressionKind.tryFrom_toPb]
  cases kind with
  | none => exact absurd rfl codec
  | lz4 | zlib | zstd | snappy =>
    dsimp only
    split
    · rename_i failed
      rw [failed]
      exact iff_of_false nofun nofun
    · rename_i plain read
      rw [read]
      simp

/-- The message is the sent one, under this stamp of its size. -/
structure Delivered (sent : OutgoingMessage) (size : Option Nat) (message : IncomingMessage) :
    Prop where
  payload : message.payload = sent.payload
  clear : message.metadata.encryptionKeys = sent.metadata.encryptionKeys
  codec : message.metadata.compression = sent.metadata.compression
  size : message.metadata.uncompressedSize = size

/-- A payload in the clear is handed out if it was not compressed, or if it is read at its size and
that is within the bound. -/
theorem handsOut_delivered_iff (lawful : codecs.Lawful) {producer : ProducerState}
    {msg : OutgoingMessage} (bare : alreadyEncoded msg.metadata = false)
    (bounded : msg.payload.length < 2 ^ 32) {size : Option Nat}
    (delivered : Delivered (producer.compressUnbatched codecs msg) size message) :
    HandsOut codecs message msg.payload ↔
      ∀ body, producer.compression ≠ .none →
        compress codecs producer.compression msg.payload = some body →
        size.getD body.length = msg.payload.length ∧ msg.payload.length ≤ maxFrameSize := by
  obtain ⟨payload, clear, codec, stamp⟩ := delivered
  obtain ⟨noKeys, noCodec⟩ := Bool.or_eq_false_iff.mp bare
  rw [Bool.not_eq_false', List.isEmpty_iff] at noKeys
  by_cases taken : ∃ body, producer.compression ≠ .none ∧
      compress codecs producer.compression msg.payload = some body
  · obtain ⟨body, coded, compressed⟩ := taken
    have same := producer.compressUnbatched_of_some msg codecs bare bounded coded compressed
    rw [same] at payload clear codec
    rw [handsOut_iff (clear.trans noKeys), decompressStep_coded coded codec, payload, stamp,
      decompress_eq_some_iff lawful compressed coded]
    constructor
    · intro sizes other _ same
      rw [compressed, Option.some.injEq] at same
      rwa [← same]
    · intro sizes
      exact sizes body coded compressed
  · have fails : ∀ body, producer.compression ≠ .none →
        compress codecs producer.compression msg.payload ≠ some body :=
      fun body coded compressed => taken ⟨body, coded, compressed⟩
    rw [producer.compressUnbatched_of_none msg codecs fails] at payload clear codec
    rw [handsOut_iff (clear.trans noKeys)]
    refine iff_of_true ?_ ?_
    · have unread : decompressStep codecs message = .ready message := by
        unfold decompressStep
        rw [codec]
        cases named : msg.metadata.compression with
        | none => rfl
        | some =>
          rw [named, Option.any_some, decide_eq_false_iff_not, not_not] at noCodec
          rw [noCodec]
          rfl
      rw [unread, ← payload]
    · intro body coded compressed
      exact absurd compressed (fails body coded)

/-! ### Unbatched messages -/

variable {d : Dispatch}

section Unbatched

variable {producer : ProducerState} {sent msg : OutgoingMessage} {uuid : String}
  {publishTimeMs : Nat}

theorem delivered_plainMessage
    (dispatches : Dispatches (producer.singleFrame sent publishTimeMs) d) :
    Delivered sent
      (if sent.uncompressedSize > 0 then some sent.uncompressedSize
        else sent.metadata.uncompressedSize)
      (plainMessage d) := by
  obtain ⟨_, _, _, compression, size, clear⟩ := singleMetadata_fields sent
  have metadata : (plainMessage d).metadata =
      producer.stampSequence publishTimeMs (singleMetadata sent) := dispatches.metadata
  refine ⟨dispatches.body, ?_, ?_, ?_⟩
  · rw [metadata, ← clear]
    rfl
  · rw [metadata, ← compression]
    rfl
  · rw [metadata, ← size]
    rfl

/-- A consumer that takes deliveries sees a frame of its own as a message of its own. -/
theorem surfaced_singleFrame (single : Prost SingleMessageMetadata) {c : ConsumerState}
    (opened : c.receives = true) (lone : sent.metadata.numMessagesInBatch = none)
    (dispatches : Dispatches (producer.singleFrame sent publishTimeMs) d) :
    c.surfaced single codecs d = [plainMessage d] := by
  obtain ⟨unchunked, _, batch, _⟩ := singleMetadata_fields sent
  have metadata : d.metadata = producer.stampSequence publishTimeMs (singleMetadata sent) :=
    dispatches.metadata
  apply surfaced_plain single codecs opened
  · rw [metadata, ← unchunked]
    rfl
  · rw [metadata, ← lone, ← batch]
    rfl

/-- The message a consumer makes of chunks has the stamp of the first one. -/
theorem delivered_chunks (payload : message.payload = sent.payload)
    (metadata : message.metadata =
      withoutChunkFields (producer.chunkMetadata sent uuid publishTimeMs 0)) :
    Delivered sent (some sent.uncompressedSize) message := by
  obtain ⟨_, _, _, _, compression, size, clear⟩ :=
    producer.chunkMetadata_fields sent uuid publishTimeMs 0
  refine ⟨payload, ?_, ?_, ?_⟩
  · rw [metadata, ← clear]
    rfl
  · rw [metadata, ← compression]
    rfl
  · rw [metadata, ← size]
    rfl

/-- The payload is within the bound of a receiver and, when it is empty and its codec's output goes
out in one frame, the caller has stamped its size. -/
def Recoverable (codecs : Codecs) (producer : ProducerState) (msg : OutgoingMessage) : Prop :=
  ∀ body, producer.compression ≠ .none →
    compress codecs producer.compression msg.payload = some body →
    msg.payload.length ≤ maxFrameSize ∧
      (msg.payload = [] → body.length ≤ producer.maxMessageSize →
        msg.metadata.uncompressedSize.getD body.length = 0)

/-- Every consumer that takes the frames sees one message of them, and `holds` is true of it. -/
structure SeenAs (single : Prost SingleMessageMetadata) (codecs : Codecs) (uuid : String)
    (frames : List OutboundFrame) (holds : IncomingMessage → Prop) : Prop where
  alone : ∀ frame, frames = [frame] → ∀ (c : ConsumerState) (d : Dispatch), c.receives = true →
    Dispatches frame d → ∃ message, c.surfaced single codecs d = [message] ∧ holds message
  chunks : 2 ≤ frames.length → (frames.length : Int) ≤ maxChunkTotal →
    ∀ (c : ConsumerState) (dispatches : List Dispatch), c.receives = true →
      c.chunkReassembly.lookup uuid = none →
      Guarded (deliverStep single codecs) (WithinCaps uuid) c dispatches →
      ArriveAs frames (framesOf uuid dispatches) →
      ∃ message, surfacedBy single codecs uuid c dispatches = [message] ∧ holds message

/-- A frame of its own is read at its size unless the payload is empty. -/
theorem handsOut_alone_iff (lawful : codecs.Lawful) (bare : alreadyEncoded msg.metadata = false)
    (bounded : msg.payload.length < 2 ^ 32)
    (small : (producer.compressUnbatched codecs msg).payload.length ≤ producer.maxMessageSize)
    (dispatches : Dispatches
      (producer.singleFrame (producer.compressUnbatched codecs msg) publishTimeMs) d) :
    HandsOut codecs (plainMessage d) msg.payload ↔ Recoverable codecs producer msg := by
  rw [handsOut_delivered_iff lawful bare bounded (delivered_plainMessage dispatches)]
  refine forall_congr' fun body => forall_congr' fun codec => forall_congr' fun compressed => ?_
  rw [producer.compressUnbatched_of_some msg codecs bare bounded codec compressed] at small ⊢
  rcases eq_or_ne msg.payload [] with empty | filled
  · simp [empty, small]
  · have some : msg.payload.length > 0 := List.length_pos_of_ne_nil filled
    simp [some, filled]

/-- Chunks are read at the size of the payload. -/
theorem handsOut_chunks_iff (lawful : codecs.Lawful) (bare : alreadyEncoded msg.metadata = false)
    (bounded : msg.payload.length < 2 ^ 32)
    (large : producer.maxMessageSize < (producer.compressUnbatched codecs msg).payload.length)
    (delivered : Delivered (producer.compressUnbatched codecs msg)
      (some (producer.compressUnbatched codecs msg).uncompressedSize) message) :
    HandsOut codecs message msg.payload ↔ Recoverable codecs producer msg := by
  rw [handsOut_delivered_iff lawful bare bounded delivered]
  refine forall_congr' fun body => forall_congr' fun codec => forall_congr' fun compressed => ?_
  rw [producer.compressUnbatched_of_some msg codecs bare bounded codec compressed] at large ⊢
  have outgrown : ¬ body.length ≤ producer.maxMessageSize := Nat.not_le.mpr large
  simp [outgrown]

end Unbatched

/-- A payload that was sent in the clear on its own, as one frame or as chunks, is handed to the
receiver exactly when it is recoverable. -/
theorem unbatched_payload_received (single : Prost SingleMessageMetadata) (lawful : codecs.Lawful)
    (producer : ProducerState) (msg : OutgoingMessage) (uuid : String)
    (publishTimeMs now count : Nat)
    (accepted : (producer.queueSend single codecs msg uuid publishTimeMs now).1 =
      .ok (.emit count))
    (before frames : List OutboundFrame)
    (staged : (producer.queueSend single codecs msg uuid publishTimeMs now).2.outbound =
      before ++ frames)
    (counted : frames.length = count) (positive : 1 ≤ producer.maxMessageSize)
    (bare : alreadyEncoded msg.metadata = false)
    (lone : msg.metadata.numMessagesInBatch = none) (bounded : msg.payload.length < 2 ^ 32) :
    SeenAs single codecs uuid frames fun message =>
      HandsOut codecs message msg.payload ↔ Recoverable codecs producer msg := by
  obtain ⟨staged', outbound, length⟩ := queueSend_emit single codecs accepted
  have same : frames = producer.unbatchedFrames msg uuid publishTimeMs codecs := by
    rw [outbound] at staged
    exact (List.append_inj_right' staged (length.trans counted.symm)).symm
  have unbatched : (producer.compressUnbatched codecs msg).metadata.numMessagesInBatch = none := by
    unfold compressUnbatched
    split
    · exact lone
    · split <;> exact lone
  rw [same, unbatchedFrames]
  split
  · rename_i large
    have several : 2 ≤ (producer.chunkFrames (producer.compressUnbatched codecs msg) uuid
        publishTimeMs).length := by
      have width := producer.maxChunkPayload_pos positive
      have narrow := producer.maxChunkPayload_le
      rw [chunkFrames, List.length_map, List.length_range]
      exact two_le_computeTotalChunks width (by omega)
    constructor
    · intro frame lonely
      rw [lonely] at several
      cases Nat.not_succ_le_self 1 several
    · intro _ few c dispatches opened fresh within arrive
      obtain ⟨message, surfaced, payload, metadata, _⟩ :=
        surfacedBy_chunkFrames single codecs positive large few opened fresh within arrive
      exact ⟨message, surfaced,
        handsOut_chunks_iff lawful bare bounded large (delivered_chunks payload metadata)⟩
  · rename_i small
    constructor
    · rintro frame ⟨rfl⟩ c d opened dispatches
      exact ⟨plainMessage d, surfaced_singleFrame single opened unbatched dispatches,
        handsOut_alone_iff lawful bare bounded (Nat.not_lt.mp small) dispatches⟩
    · intro several
      cases Nat.not_succ_le_self 1 several

variable (payload block : Bytes)

private def lz4Producer : ProducerState :=
  ProducerState.new 1 .lz4 defaultMaxMessageSize

private def clearMessage : OutgoingMessage where
  payload := payload
  metadata := {}
  uncompressedSize := payload.length
  numMessages := 1
  txnId := none
  sourceMessageId := none

private def arrivalOf (frame : OutboundFrame) : Dispatch where
  cmd := { consumerId := 7, messageId := { ledgerId := 1, entryId := 1 } }
  metadata := frame.metadata
  body := frame.payload

private def receiver : ConsumerState :=
  ConsumerState.withPolicy 7 "t" "s" (Magnetar.Proto.ReceiverQueue.fixed 10) none

private def sentFrame : OutboundFrame :=
  lz4Producer.singleFrame
    (lz4Producer.compressUnbatched (.lz4Block payload block) (clearMessage payload)) 0

/-- Two bytes, which LZ4 writes as two literals, are handed out. -/
theorem unbatched_payload_received_short :
    (sentFrame [1, 2] [32, 1, 2]).payload = [32, 1, 2] ∧
      ∃ message, receiver.surfaced default (.lz4Block [1, 2] [32, 1, 2])
          (arrivalOf (sentFrame [1, 2] [32, 1, 2])) = [message] ∧
        HandsOut (.lz4Block [1, 2] [32, 1, 2]) message [1, 2] := by
  have seen := unbatched_payload_received default (Codecs.lz4Block_lawful [1, 2] [32, 1, 2])
    lz4Producer (clearMessage [1, 2]) "a" 0 0 1 (by decide +kernel) []
    [sentFrame [1, 2] [32, 1, 2]] (by decide +kernel) rfl (by decide) rfl rfl (by decide)
  obtain ⟨message, surfaced, handsOut⟩ := seen.alone _ rfl receiver
    (arrivalOf (sentFrame [1, 2] [32, 1, 2])) rfl ⟨rfl, rfl⟩
  refine ⟨by decide +kernel, message, surfaced, handsOut.mpr ?_⟩
  intro body _ _
  exact ⟨by decide, nofun⟩

/-- A payload that LZ4 writes into one frame is accepted, and is not handed out if it is empty or
above the bound of the receiver. -/
private theorem block_not_handed_out {payload block : Bytes} (bounded : payload.length < 2 ^ 32)
    (written : 0 < block.length) (small : block.length ≤ defaultMaxMessageSize)
    (outside : payload = [] ∨ maxFrameSize < payload.length) :
    (lz4Producer.queueSend default (.lz4Block payload block) (clearMessage payload) "a" 0 0).1 =
        .ok (.emit 1) ∧
      (lz4Producer.queueSend default (.lz4Block payload block) (clearMessage payload)
        "a" 0 0).2.outbound = [sentFrame payload block] ∧
      ¬ HandsOut (.lz4Block payload block) (plainMessage (arrivalOf (sentFrame payload block)))
        payload := by
  have compressed : compress (.lz4Block payload block) lz4Producer.compression
      (clearMessage payload).payload = some block := if_pos ⟨rfl, rfl⟩
  have body : (lz4Producer.compressUnbatched (.lz4Block payload block)
      (clearMessage payload)).payload = block := by
    rw [lz4Producer.compressUnbatched_of_some (clearMessage payload) _ rfl bounded (by decide)
      compressed]
  have fits : (lz4Producer.compressUnbatched (.lz4Block payload block)
      (clearMessage payload)).payload.length ≤ lz4Producer.maxMessageSize := by
    rw [body]
    exact small
  have room : lz4Producer.makeRoom default (.lz4Block payload block) (clearMessage payload) 0 =
      (false, lz4Producer) := rfl
  have queued : lz4Producer.queueSend default (.lz4Block payload block) (clearMessage payload)
      "a" 0 0 =
      (.ok (.emit 1), (lz4Producer.emitSingle
        (lz4Producer.compressUnbatched (.lz4Block payload block) (clearMessage payload))
        0 0 0).2) := by
    unfold queueSend queueSendReserved
    rw [if_neg (by decide), room]
    simp only [offer, Bool.false_eq_true, if_false, if_neg (Nat.not_lt.mpr fits)]
    rfl
  have handsOut : HandsOut (.lz4Block payload block)
      (plainMessage (arrivalOf (sentFrame payload block))) payload ↔
        Recoverable (.lz4Block payload block) lz4Producer (clearMessage payload) :=
    handsOut_alone_iff (Codecs.lz4Block_lawful payload block) rfl bounded fits ⟨rfl, rfl⟩
  rw [queued]
  refine ⟨rfl, rfl, fun handed => ?_⟩
  obtain ⟨within, stamped⟩ := handsOut.mp handed block (by decide) compressed
  rcases outside with empty | large
  · exact Nat.ne_of_gt written (stamped empty small)
  · exact Nat.not_le.mpr large within

private def oversized : Bytes :=
  List.replicate (maxFrameSize + 1) 0

/-- What LZ4 makes of it: a literal, one match over all but the last six bytes, and these. -/
private def oversizedBlock : Bytes :=
  [31, 0, 1, 0] ++ List.replicate 20560 255 ++ [55] ++ [96, 0, 0, 0, 0, 0, 0]

/-- An empty payload, and one above the bound of the receiver, are accepted and never handed out. -/
theorem payload_not_handed_out :
    ((lz4Producer.queueSend default (.lz4Block [] [0]) (clearMessage []) "a" 0 0).1 =
        .ok (.emit 1) ∧
      (lz4Producer.queueSend default (.lz4Block [] [0]) (clearMessage []) "a" 0 0).2.outbound =
        [sentFrame [] [0]] ∧
      ¬ HandsOut (.lz4Block [] [0]) (plainMessage (arrivalOf (sentFrame [] [0]))) []) ∧
    oversizedBlock.length = 20572 ∧
    (lz4Producer.queueSend default (.lz4Block oversized oversizedBlock) (clearMessage oversized)
        "a" 0 0).1 = .ok (.emit 1) ∧
      (lz4Producer.queueSend default (.lz4Block oversized oversizedBlock) (clearMessage oversized)
        "a" 0 0).2.outbound = [sentFrame oversized oversizedBlock] ∧
      ¬ HandsOut (.lz4Block oversized oversizedBlock)
        (plainMessage (arrivalOf (sentFrame oversized oversizedBlock))) oversized := by
  have length : oversized.length = maxFrameSize + 1 := List.length_replicate
  have size : oversizedBlock.length = 20572 := by
    rw [oversizedBlock, List.length_append, List.length_append, List.length_append,
      List.length_replicate]
    rfl
  refine ⟨block_not_handed_out (by decide) (by decide) (by decide) (.inl rfl), size,
    block_not_handed_out ?_ ?_ ?_ (.inr ?_)⟩
  · rw [length]
    decide
  · rw [size]
    decide
  · rw [size]
    decide
  · rw [length]
    exact Nat.lt_succ_self _

end Magnetar.Runtime.Receive
