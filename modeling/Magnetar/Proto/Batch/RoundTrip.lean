import Magnetar.Proto.Consumer.Surfacing
import Magnetar.Proto.Producer.State

/-!
Contract: a consumer reads back the batch that a producer packed.

Owns: the splitter on what the packer writes, in front of any bytes, the members of a flushed batch
under every codec, and the messages that a new consumer queues for it: all that the members carry,
so that the one thing lost is the base64 flag of a key.

Does not own: batches that no producer of this repository writes.
-/

namespace Magnetar.Proto.Batch

open Library Pb External Compress Framing BatchAck Consumer Producer Producer.ProducerState
  ConsumerState

variable (single : Prost SingleMessageMetadata) (codecs : Codecs)

variable {members : List BatchMember} {producer : ProducerState}

/-! ### The splitter -/

/-- A member that the packed layout can hold. -/
structure Packs (member : BatchMember) : Prop where
  roundTrips : single.RoundTrips member.1
  short : (single.encode member.1).length < 2 ^ 32
  size : member.1.payloadSize = member.2.length

variable {single}

theorem packMember_append (member : BatchMember) (rest : Bytes) :
    packMember single member ++ rest =
      BigEndian.put 4 (single.encode member.1).length ++
        (single.encode member.1 ++ (member.2 ++ rest)) := by
  simp [packMember]

theorem nextBatchMember_packMember {member : BatchMember} (packs : Packs single member)
    (rest : Bytes) :
    nextBatchMember single (packMember single member ++ rest) = some (member, rest) := by
  obtain ⟨metadata, payload⟩ := member
  have size : metadata.payloadSize = payload.length := packs.size
  have decoded : single.decode (single.encode metadata) = some metadata := packs.roundTrips
  have read := BigEndian.get_take_put_append 4 (single.encode metadata).length
    (single.encode metadata ++ (payload ++ rest)) packs.short
  rw [packMember_append, nextBatchMember]
  simp only [read, BigEndian.drop_put_append]
  simp [decoded, size]

/-- The members come back in order, whatever follows them. -/
theorem takeBatchMembers_flatMap (packs : ∀ member ∈ members, Packs single member) (rest : Bytes) :
    takeBatchMembers single members.length (members.flatMap (packMember single) ++ rest) =
      members := by
  induction members with
  | nil => rfl
  | cons _ _ ih =>
    obtain ⟨here, later⟩ := List.forall_mem_cons.mp packs
    rw [List.flatMap_cons, List.append_assoc, List.length_cons, takeBatchMembers,
      nextBatchMember_packMember here]
    exact congrArg _ (ih later)

theorem splitBatchBody_flatMap (packs : ∀ member ∈ members, Packs single member) :
    splitBatchBody single (members.flatMap (packMember single)) members.length =
      (members, true) := by
  have taken := takeBatchMembers_flatMap packs []
  rw [List.append_nil] at taken
  simp [splitBatchBody, taken]

/-! ### What a producer collects and flushes -/

/-- Each send with its reservation and its time, added to the batch in order. -/
def collect (producer : ProducerState) (sends : List (OutgoingMessage × Nat × Nat)) :
    ProducerState :=
  sends.foldl (fun producer send => (producer.addToBatch send.1 send.2.1 send.2.2).2) producer

/-- What goes into the batch for a message. -/
def packed (msg : OutgoingMessage) : BatchMember :=
  (memberMetadata msg, msg.payload)

theorem collect_batch (producer : ProducerState) (sends : List (OutgoingMessage × Nat × Nat)) :
    (collect producer sends).batch.messages =
      producer.batch.messages ++ sends.map fun send => packed send.1 := by
  induction sends generalizing producer with
  | nil => simp [collect]
  | cons send _ ih =>
    have first : (producer.addToBatch send.1 send.2.1 send.2.2).2.batch.messages =
        producer.batch.messages ++ [packed send.1] := rfl
    refine (ih _).trans ?_
    rw [first, List.append_assoc, List.map_cons]
    rfl

theorem collect_closed (producer : ProducerState) (sends : List (OutgoingMessage × Nat × Nat)) :
    (collect producer sends).closed = producer.closed := by
  induction sends generalizing producer with
  | nil => rfl
  | cons _ _ ih => exact ih _

theorem collect_outbound (producer : ProducerState) (sends : List (OutgoingMessage × Nat × Nat)) :
    (collect producer sends).outbound = producer.outbound := by
  induction sends generalizing producer with
  | nil => rfl
  | cons _ _ ih => exact ih _

variable {sends : List (OutgoingMessage × Nat × Nat)}

theorem flushBatch_collect (single : Prost SingleMessageMetadata) (codecs : Codecs)
    (opened : producer.closed = false) (nonempty : sends ≠ []) (publishTimeMs : Nat) :
    ((collect producer sends).flushBatch single codecs publishTimeMs).2.outbound =
      producer.outbound ++ [(collect producer sends).batchFrame single codecs publishTimeMs] := by
  have filled : (collect producer sends).batch.isEmpty = false := by
    rw [BatchContainer.isEmpty, collect_batch]
    simpa using fun _ => nonempty
  rw [ProducerState.flushBatch, filled, collect_closed, opened]
  simp [collect_outbound]

variable {publishTimeMs : Nat}

theorem flushed_frame {single : Prost SingleMessageMetadata} {codecs : Codecs}
    (opened : producer.closed = false) (nonempty : sends ≠ []) {frame : OutboundFrame}
    (flushed : ((collect producer sends).flushBatch single codecs publishTimeMs).2.outbound =
      producer.outbound ++ [frame]) :
    frame = (collect producer sends).batchFrame single codecs publishTimeMs := by
  rw [flushBatch_collect single codecs opened nonempty] at flushed
  exact (List.singleton_inj.mp (List.append_cancel_left flushed)).symm

/-! ### The members of a flushed batch -/

variable {codecs}

theorem length_le_flatMap_packMember (single : Prost SingleMessageMetadata)
    {member : BatchMember} (inside : member ∈ members) :
    4 + (single.encode member.1).length + member.2.length ≤
      (members.flatMap (packMember single)).length := by
  induction members with
  | nil => cases inside
  | cons _ _ ih =>
    rw [List.flatMap_cons, List.length_append]
    rcases List.mem_cons.mp inside with rfl | later
    · have whole : (packMember single member).length =
          4 + (single.encode member.1).length + member.2.length := by
        simp [packMember, Nat.add_assoc]
      omega
    · have fits := ih later
      omega

theorem length_members_le_flatMap (single : Prost SingleMessageMetadata)
    (members : List BatchMember) :
    members.length ≤ (members.flatMap (packMember single)).length := by
  induction members with
  | nil => exact le_rfl
  | cons first =>
    rw [List.flatMap_cons, List.length_append, List.length_cons]
    have written : 4 ≤ (packMember single first).length := by
      simp [packMember]
    omega

variable {msg : OutgoingMessage}

theorem packs_of_short (roundTrips : single.RoundTrips (memberMetadata msg))
    (metadata : (single.encode (memberMetadata msg)).length < 2 ^ 32)
    (payload : msg.payload.length < 2 ^ 31) : Packs single (packed msg) := by
  refine ⟨roundTrips, metadata, ?_⟩
  show min (msg.payload.length : Int) (2 ^ 31 - 1) = msg.payload.length
  omega

theorem packs_of_bounded
    (inside : packed msg ∈ members) (roundTrips : single.RoundTrips (memberMetadata msg))
    (bounded : (members.flatMap (packMember single)).length ≤ maxFrameSize) :
    Packs single (packed msg) := by
  have fits : 4 + (single.encode (memberMetadata msg)).length + msg.payload.length ≤
      (members.flatMap (packMember single)).length :=
    length_le_flatMap_packMember single inside
  have limit : maxFrameSize < 2 ^ 31 := by decide
  exact packs_of_short roundTrips (by omega) (by omega)

theorem asI32_of_lt {value : Nat} (small : value < 2 ^ 31) : asI32 value = value := by
  have value : (BitVec.ofNat 32 value).toNat = value := by
    rw [BitVec.toNat_ofNat]
    omega
  rw [asI32, BitVec.toInt_eq_toNat_of_lt (by omega), value]

section

variable (single : Prost SingleMessageMetadata)

theorem batchBody_cases (codecs : Codecs) (producer : ProducerState) :
    producer.batchBody single codecs =
        (producer.batch.messages.flatMap (packMember single), .none,
          producer.batch.currentSizeBytes) ∨
      ∃ body, producer.compression ≠ .none ∧
        compress codecs producer.compression
          (producer.batch.messages.flatMap (packMember single)) = some body ∧
        producer.batchBody single codecs =
          (body, producer.compression,
            (producer.batch.messages.flatMap (packMember single)).length) := by
  unfold batchBody
  dsimp only
  by_cases coded : producer.compression ≠ .none
  · rw [if_pos coded]
    cases compressed : compress codecs producer.compression
        (producer.batch.messages.flatMap (packMember single)) with
    | none => exact .inl rfl
    | some body => exact .inr ⟨body, coded, rfl, rfl⟩
  · rw [if_neg coded]
    exact .inl rfl

theorem batchMetadata_codec (codecs : Codecs) (producer : ProducerState) (publishTimeMs : Nat) :
    (producer.batchMetadata single codecs publishTimeMs).compression =
        (if (producer.batchBody single codecs).2.1 ≠ .none then
          some (producer.batchBody single codecs).2.1.toPb else none) ∧
      (producer.batchMetadata single codecs publishTimeMs).uncompressedSize =
        if (producer.batchBody single codecs).2.2 < 2 ^ 32 then
          some (producer.batchBody single codecs).2.2 else none := by
  unfold batchMetadata stampTxn
  dsimp only
  split <;> exact ⟨rfl, rfl⟩

theorem batchMetadata_shape (codecs : Codecs) (producer : ProducerState) (publishTimeMs : Nat) :
    (producer.batchMetadata single codecs publishTimeMs).numMessagesInBatch =
        some (asI32 producer.batch.messages.length) ∧
      (producer.batchMetadata single codecs publishTimeMs).chunkId = none ∧
      (producer.batchMetadata single codecs publishTimeMs).numChunksFromMsg = none := by
  unfold batchMetadata stampTxn
  dsimp only
  split <;> exact ⟨rfl, rfl, rfl⟩

theorem batchBody_of_plain (codecs : Codecs)
    (plain : (producer.batchMetadata single codecs publishTimeMs).compression = none) :
    (producer.batchBody single codecs).1 =
      producer.batch.messages.flatMap (packMember single) := by
  rcases batchBody_cases single codecs producer with body | ⟨body, coded, _, whole⟩
  · rw [body]
  · have codec := (batchMetadata_codec single codecs producer publishTimeMs).1
    rw [plain, whole, if_pos coded] at codec
    cases codec

end

variable {metadata : MessageMetadata}

/-- A compressed body whose members all parse once it is decompressed is read in the Java layout. -/
theorem compressedBatchMembers_of_split {kind : CompressionKind}
    {body plaintext : Bytes} (sized : metadata.uncompressedSize = some plaintext.length)
    (inflated : decompress codecs kind body plaintext.length = some plaintext)
    (split : splitBatchBody single plaintext members.length = (members, true)) :
    compressedBatchMembers single codecs kind metadata body members.length = members := by
  unfold compressedBatchMembers
  rw [sized, Option.bind_some, inflated, Option.map_some, split]

/-- The body of a batch frame splits into the members that were packed, through the codec that the
frame names. -/
theorem unpackBatchMembers_batchBody (lawful : codecs.Lawful)
    (nonempty : producer.batch.messages ≠ [])
    (packs : ∀ member ∈ producer.batch.messages, Packs single member)
    (bounded : (producer.batch.messages.flatMap (packMember single)).length ≤ maxFrameSize)
    (publishTimeMs : Nat) :
    (unpackBatchMembers single codecs (producer.batchMetadata single codecs publishTimeMs)
      (producer.batchBody single codecs).1 producer.batch.messages.length).2 =
      producer.batch.messages := by
  have split := splitBatchBody_flatMap packs
  have filled : producer.batch.messages.isEmpty = false := by simpa using nonempty
  obtain ⟨codec, size⟩ := batchMetadata_codec single codecs producer publishTimeMs
  unfold unpackBatchMembers
  rcases batchBody_cases single codecs producer with body | ⟨body, coded, compressed, whole⟩
  · rw [codec, body]
    exact congrArg Prod.fst split
  · have small : (producer.batch.messages.flatMap (packMember single)).length < 2 ^ 32 :=
      lt_of_le_of_lt bounded (by decide)
    rw [whole, if_pos coded] at codec
    rw [whole, if_pos small] at size
    have members := compressedBatchMembers_of_split size
      (decompress_compress lawful compressed bounded) split
    rw [codec, whole, Option.map_some, CompressionKind.tryFrom_toPb]
    cases kind : producer.compression with
    | none => exact absurd kind coded
    | _ =>
      rw [kind] at members
      simp [members, filled]

/-! ### What a new consumer queues -/

variable {numInBatch : Int}

theorem isUnacked_of_lt {index : Nat} (inside : index < numInBatch.toNat) :
    (BatchAckEntry.fromDeliveredAckSet numInBatch []).isUnacked (index : Int) = true := by
  have below : index % 64 < 64 := Nat.mod_lt _ (by decide)
  rw [BatchAckEntry.isUnacked_fromDeliveredAckSet]
  show (decide (index < numInBatch.toNat) && (BitVec.allOnes 64).getLsbD (index % 64)) = true
  rw [BitVec.getLsbD_allOnes, decide_eq_true inside, decide_eq_true below]
  rfl

variable {d : Dispatch}

theorem memberMessages_all :
    memberMessages d metadata numInBatch
        (BatchAckEntry.fromDeliveredAckSet numInBatch [])
        ((List.range numInBatch.toNat).zip members) =
      ((List.range numInBatch.toNat).zip members).map fun member =>
        batchMessage d metadata numInBatch member.1 member.2 := by
  unfold memberMessages
  congr 1
  rw [List.filter_eq_self]
  intro member inside
  have listed := (List.of_mem_zip inside).1
  exact isUnacked_of_lt (List.mem_range.mp listed)

section

variable (handle : Nat) (topic subscription : String) (policy : ReceiverQueue.ReceiverQueuePolicy)
  (adjustInterval : Option Nat) (first : d.cmd.ackSet = [])

include handle topic subscription policy adjustInterval first

/-- A new consumer queues one message for each member of a dispatched batch, in order. -/
theorem deliver_queue (single : Prost SingleMessageMetadata) (codecs : Codecs)
    (batch : d.metadata.numMessagesInBatch = some numInBatch) (whole : d.metadata.chunkId = none) :
    ((withPolicy handle topic subscription policy adjustInterval).deliver
        single codecs d).1.queue =
      ((List.range numInBatch.toNat).zip
        (unpackBatchMembers single codecs d.metadata d.body numInBatch).2).map fun member =>
          batchMessage d
            (unpackBatchMembers single codecs d.metadata d.body numInBatch).1 numInBatch
            member.1 member.2 := by
  let fresh := withPolicy handle topic subscription policy adjustInterval
  have surfaces := (fresh.deliver_surfaces single codecs d).queue
  have messages : fresh.surfaced single codecs d =
      batchMessages single codecs d numInBatch :=
    surfaced_batch single codecs rfl whole batch
  have kept (messages : List IncomingMessage) : fresh.queued messages = messages :=
    List.filter_eq_self.mpr fun _ _ => rfl
  rw [messages] at surfaces
  refine surfaces.trans ?_
  refine (List.nil_append _).trans ((kept _).trans ?_)
  unfold batchMessages
  rw [first]
  exact memberMessages_all

theorem deliver_batchFrame_queue (lawful : codecs.Lawful) (nonempty : producer.batch.messages ≠ [])
    (packs : ∀ member ∈ producer.batch.messages, Packs single member)
    (bounded : (producer.batch.messages.flatMap (packMember single)).length ≤ maxFrameSize)
    (metadata : d.metadata = producer.batchMetadata single codecs publishTimeMs)
    (body : d.body = (producer.batchBody single codecs).1) :
    ∃ shared, ((withPolicy handle topic subscription policy adjustInterval).deliver
        single codecs d).1.queue =
      ((List.range producer.batch.messages.length).zip producer.batch.messages).map fun member =>
        batchMessage d shared producer.batch.messages.length member.1 member.2 := by
  obtain ⟨count, whole, _⟩ := batchMetadata_shape single codecs producer publishTimeMs
  have few : producer.batch.messages.length < 2 ^ 31 := by
    have members := length_members_le_flatMap single producer.batch.messages
    have limit : maxFrameSize < 2 ^ 31 := by decide
    omega
  rw [asI32_of_lt few, ← metadata] at count
  rw [← metadata] at whole
  have queue := deliver_queue handle topic subscription policy adjustInterval first single codecs
    count whole
  have unpacked := unpackBatchMembers_batchBody lawful nonempty packs bounded publishTimeMs
  rw [← metadata, ← body] at unpacked
  rw [unpacked, Int.toNat_natCast] at queue
  exact ⟨_, queue⟩

end

/-- The queued message is the sent one, at its position in the batch.  An absent flag reads as
`false`. -/
structure Carries (msg : OutgoingMessage) (index size : Nat) (incoming : IncomingMessage)
    (member : SingleMessageMetadata) : Prop where
  single : incoming.singleMetadata = some member
  payload : incoming.payload = msg.payload
  partitionKey : member.partitionKey = msg.metadata.partitionKey
  base64 : member.partitionKeyB64Encoded.getD false =
    msg.metadata.partitionKeyB64Encoded.getD false
  orderingKey : member.orderingKey = msg.metadata.orderingKey
  properties : member.properties = msg.metadata.properties
  eventTime : member.eventTime = msg.metadata.eventTime
  nullValue : member.nullValue = msg.metadata.nullValue
  nullPartitionKey : member.nullPartitionKey = msg.metadata.nullPartitionKey
  batchIndex : incoming.messageId.batchIndex = index
  batchSize : incoming.messageId.batchSize = size

def Queues (messages : List OutgoingMessage) (queue : List IncomingMessage) : Prop :=
  queue.length = messages.length ∧
    ∀ index msg incoming, messages[index]? = some msg → queue[index]? = some incoming →
      ∃ member, Carries msg index messages.length incoming member

def asQueued (d : Dispatch) (shared : MessageMetadata) (messages : List OutgoingMessage) :
    List IncomingMessage :=
  ((List.range messages.length).zip (messages.map packed)).map fun member =>
    ConsumerState.batchMessage d shared messages.length member.1 member.2

theorem getElem?_asQueued (d : Dispatch) (shared : MessageMetadata)
    {messages : List OutgoingMessage} {index : Nat} (found : messages[index]? = some msg) :
    (asQueued d shared messages)[index]? =
      some (batchMessage d shared messages.length index (packed msg)) := by
  have inside : index < messages.length := (List.getElem?_eq_some_iff.mp found).1
  have counted : (List.range messages.length)[index]? = some index := by
    rw [List.getElem?_range inside]
  have member : (messages.map packed)[index]? = some (packed msg) := by
    rw [List.getElem?_map, found]
    rfl
  rw [asQueued, List.getElem?_map, List.zip, List.getElem?_zipWith, counted, member]
  rfl

/-- All that is lost on the way is the base64 flag. -/
theorem queues_asQueued_iff (d : Dispatch) (shared : MessageMetadata)
    (messages : List OutgoingMessage) :
    Queues messages (asQueued d shared messages) ↔
      ∀ msg ∈ messages, msg.metadata.partitionKeyB64Encoded.getD false = false := by
  constructor
  · rintro ⟨_, carried⟩ msg inside
    obtain ⟨index, found⟩ := List.mem_iff_getElem?.mp inside
    obtain ⟨member, carries⟩ := carried index msg _ found (getElem?_asQueued d shared found)
    have written : member = memberMetadata msg := (Option.some.inj carries.single).symm
    rw [← carries.base64, written]
    rfl
  · intro plain
    refine ⟨by simp [asQueued], ?_⟩
    intro index msg incoming found queued
    rw [getElem?_asQueued d shared found, Option.some.injEq] at queued
    subst queued
    have unflagged := plain msg (List.mem_of_getElem? found)
    exact ⟨memberMetadata msg, rfl, rfl, rfl, unflagged.symm, rfl, rfl, rfl, rfl, rfl, rfl, rfl⟩

/-- Every non-empty list of messages that an open producer collects in an empty batch and flushes
under any codec, delivered to a new consumer without a bit set: exactly those messages are queued,
if and only if none of them flags its key as base64. -/
theorem batch_round_trip (lawful : codecs.Lawful) (producer : ProducerState)
    (opened : producer.closed = false) (empty : producer.batch.messages = [])
    (sends : List (OutgoingMessage × Nat × Nat)) (nonempty : sends ≠ [])
    (roundTrips : ∀ send ∈ sends, single.RoundTrips (memberMetadata send.1))
    (bounded : ((collect producer sends).batch.messages.flatMap (packMember single)).length ≤
      maxFrameSize)
    (publishTimeMs : Nat) (frame : OutboundFrame)
    (flushed : ((collect producer sends).flushBatch single codecs publishTimeMs).2.outbound =
      producer.outbound ++ [frame])
    (handle : Nat) (topic subscription : String) (policy : ReceiverQueue.ReceiverQueuePolicy)
    (adjustInterval : Option Nat) (d : Dispatch) (metadata : d.metadata = frame.metadata)
    (body : d.body = frame.payload) (first : d.cmd.ackSet = []) :
    Queues (sends.map Prod.fst)
        ((ConsumerState.withPolicy handle topic subscription policy adjustInterval).deliver
          single codecs d).1.queue ↔
      ∀ send ∈ sends, send.1.metadata.partitionKeyB64Encoded.getD false = false := by
  have same := flushed_frame opened nonempty flushed
  have members : (collect producer sends).batch.messages =
      sends.map fun send => packed send.1 := by
    rw [collect_batch, empty, List.nil_append]
  have packs : ∀ member ∈ (collect producer sends).batch.messages, Packs single member := by
    intro member inside
    have listed := inside
    rw [members] at listed
    obtain ⟨send, sent, rfl⟩ := List.mem_map.mp listed
    exact packs_of_bounded inside (roundTrips send sent) bounded
  have filled : (collect producer sends).batch.messages ≠ [] := by
    rw [members]
    simpa using nonempty
  obtain ⟨shared, queue⟩ := deliver_batchFrame_queue handle topic subscription policy
    adjustInterval first lawful filled packs bounded
    (metadata.trans (congrArg OutboundFrame.metadata same))
    (body.trans (congrArg OutboundFrame.payload same))
  have surfaced : ((ConsumerState.withPolicy handle topic subscription policy adjustInterval).deliver
      single codecs d).1.queue = asQueued d shared (sends.map Prod.fst) := by
    rw [queue, members, asQueued, List.length_map, List.length_map, List.map_map]
    rfl
  rw [surfaced, queues_asQueued_iff, List.forall_mem_map]

private def message (payload : Bytes) (base64 : Option Bool) : OutgoingMessage where
  payload := payload
  metadata := { partitionKeyB64Encoded := base64 }
  uncompressedSize := 0
  numMessages := 1
  txnId := none
  sourceMessageId := none

private def flushedFrame (codecs : Codecs) (sends : List (OutgoingMessage × Nat × Nat)) :
    OutboundFrame :=
  (collect (ProducerState.new 1 .lz4 100) sends).batchFrame memberOfSize codecs 5

private def twoSends : List (OutgoingMessage × Nat × Nat) :=
  [(message [1, 2] none, 0, 0), (message [3] (some false), 0, 1)]

/-- The body of the two sends and the block LZ4 makes of it, fifteen literals. -/
private def twoSendsLz4 : Codecs :=
  .lz4Block [0, 0, 0, 2, 24, 2, 1, 2, 0, 0, 0, 2, 24, 1, 3]
    [240, 0, 0, 0, 0, 2, 24, 2, 1, 2, 0, 0, 0, 2, 24, 1, 3]

/-- The body of a send of one byte and the block LZ4 makes of it, seven literals. -/
private def oneSendLz4 : Codecs :=
  .lz4Block [0, 0, 0, 2, 24, 1, 1] [112, 0, 0, 0, 2, 24, 1, 1]

private def dispatchOf (frame : OutboundFrame) : Dispatch where
  cmd := { consumerId := 7, messageId := { ledgerId := 1, entryId := 1 } }
  metadata := frame.metadata
  body := frame.payload

/-- Two messages under a codec come back. -/
theorem batch_round_trip_two :
    (flushedFrame twoSendsLz4 twoSends).payload =
        [240, 0, 0, 0, 0, 2, 24, 2, 1, 2, 0, 0, 0, 2, 24, 1, 3] ∧
      Queues [message [1, 2] none, message [3] (some false)]
        ((ConsumerState.withPolicy 7 "t" "s" (ReceiverQueue.fixed 10) none).deliver memberOfSize
          twoSendsLz4 (dispatchOf (flushedFrame twoSendsLz4 twoSends))).1.queue := by
  refine ⟨by decide +kernel, ?_⟩
  refine (batch_round_trip (Codecs.lz4Block_lawful _ _) (ProducerState.new 1 .lz4 100) rfl rfl
    twoSends (by simp [twoSends]) ?_ (by decide +kernel) 5 _ rfl 7 "t" "s" _ none _ rfl rfl rfl).mpr
    ?_
  · intro send sent
    rcases List.mem_pair.mp sent with rfl | rfl <;> rfl
  · intro send sent
    rcases List.mem_pair.mp sent with rfl | rfl <;> rfl

/-- A message whose key is base64 arrives without the flag. -/
theorem batch_loses_base64_flag :
    ¬ Queues [message [1] (some true)]
      ((ConsumerState.withPolicy 7 "t" "s" (ReceiverQueue.fixed 10) none).deliver memberOfSize
        oneSendLz4
        (dispatchOf (flushedFrame oneSendLz4 [(message [1] (some true), 0, 0)]))).1.queue := by
  rintro ⟨_, carried⟩
  have queue : (((ConsumerState.withPolicy 7 "t" "s" (ReceiverQueue.fixed 10) none).deliver
      memberOfSize oneSendLz4
        (dispatchOf (flushedFrame oneSendLz4 [(message [1] (some true), 0, 0)]))).1.queue.map
        IncomingMessage.singleMetadata) = [some { payloadSize := 1 }] := by
    decide +kernel
  obtain ⟨incoming, only, written⟩ := List.map_eq_singleton_iff.mp queue
  obtain ⟨member, carries⟩ := carried 0 (message [1] (some true)) incoming rfl (by rw [only]; rfl)
  have bare := carries.single
  rw [written, Option.some.injEq] at bare
  have flag := carries.base64
  rw [← bare] at flag
  cases flag

end Magnetar.Proto.Batch
