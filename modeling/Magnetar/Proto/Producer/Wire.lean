import Mathlib.Data.List.Chain
import Magnetar.Proto.Producer.Chunking

/-!
Contract: what the frames a producer stages carry, and the order of a stream of them.

Owns: the reading of a SEND frame (its id range, its place among the chunks of a message, its
routing metadata), the block of frames that stands for one message or one batch, the blocks the
encoders stage, and the order in which blocks make up a stream.

Does not own: when a block is staged and when it is released.
-/

namespace Magnetar.Proto.Producer

open Pb External OutboundFrame

/-! ### Reading a frame -/

/-- The fields of the metadata that the broker routes and delays a message by. -/
def routingOf (metadata : MessageMetadata) : Option Int × List String :=
  (metadata.deliverAtTime, metadata.replicateTo)

def OutgoingMessage.routing (msg : OutgoingMessage) : Option Int × List String :=
  routingOf msg.metadata

variable (frame : OutboundFrame) {seq : Nat}

namespace OutboundFrame

def lowest : Nat :=
  (frame.command.send.map (·.sequenceId)).getD 0

def highest : Nat :=
  (frame.command.send.map fun send => send.highestSequenceId.getD send.sequenceId).getD 0

/-- The sequence ids of a SEND frame: a range, of which the highest is written when it is not the
lowest. -/
def ids : List Nat :=
  List.range' frame.lowest (frame.highest + 1 - frame.lowest)

/-- The place of a frame among the chunks of its message.  A frame that is no chunk is the first
of one. -/
def chunkIndex : Int :=
  frame.metadata.chunkId.getD 0

def chunkCount : Int :=
  frame.metadata.numChunksFromMsg.getD 1

def routing : Option Int × List String :=
  routingOf frame.metadata

theorem mem_ids {frame : OutboundFrame} {id : Nat} :
    id ∈ frame.ids ↔ frame.lowest ≤ id ∧ id ≤ frame.highest := by
  rw [ids, List.mem_range'_1]
  omega

theorem range_of_ids {frame : OutboundFrame} {first count : Nat}
    (same : frame.ids = List.range' first (count + 1)) :
    frame.lowest = first ∧ frame.highest = first + count := by
  have members (id : Nat) : frame.lowest ≤ id ∧ id ≤ frame.highest ↔
      first ≤ id ∧ id < first + (count + 1) := by
    rw [← mem_ids, same, List.mem_range'_1]
  have bottom := members first
  have top := members (first + count)
  have below := members frame.lowest
  have above := members frame.highest
  omega

theorem ids_of_one {frame : OutboundFrame} {send : CommandSend}
    (isSend : frame.command.send = some send) (named : send.sequenceId = seq)
    (one : send.highestSequenceId = none) : frame.ids = [seq] := by
  have bottom : frame.lowest = seq := by simp [lowest, isSend, named]
  have top : frame.highest = seq := by simp [highest, isSend, one, named]
  rw [ids, bottom, top, Nat.add_sub_cancel_left]
  rfl

end OutboundFrame

/-! ### The order of a stream -/

/-- `next` is the next chunk of the message of `frame`, or starts a later message or batch after
the last chunk of that of `frame`. -/
def Follows (frame next : OutboundFrame) : Prop :=
  next.ids = frame.ids ∧ next.metadata.uuid = frame.metadata.uuid ∧
      next.chunkIndex = frame.chunkIndex + 1 ∨
    frame.highest < next.lowest ∧ frame.chunkIndex + 1 = frame.chunkCount ∧ next.chunkIndex = 0

/-- A stream of frames in order: it starts with the start of a message, and each frame is followed
by the next chunk or by a later message. -/
structure WireOrder (frames : List OutboundFrame) : Prop where
  starts : ∀ frame ∈ frames.head?, frame.chunkIndex = 0
  follows : frames.IsChain Follows
  ranged : ∀ frame ∈ frames, frame.lowest ≤ frame.highest

/-- No message is cut at the end of the stream. -/
def Complete (frames : List OutboundFrame) : Prop :=
  ∀ frame ∈ frames.getLast?, frame.chunkIndex + 1 = frame.chunkCount

def Precedes (first second : List OutboundFrame) : Prop :=
  ∀ frame ∈ first, ∀ next ∈ second, frame.highest < next.lowest

theorem WireOrder.nil : WireOrder [] :=
  ⟨by simp, .nil, by simp⟩

theorem Complete.nil : Complete [] := by
  simp [Complete]

section

variable {first second : List OutboundFrame}

/-- What has left so far of an ordered stream is ordered. -/
theorem WireOrder.of_append (order : WireOrder (first ++ second)) : WireOrder first := by
  refine ⟨?_, (List.isChain_append.mp order.follows).1, ?_⟩
  · intro frame head
    apply order.starts
    rw [List.head?_append, Option.mem_def.mp head]
    rfl
  · intro frame member
    exact order.ranged frame (List.mem_append_left _ member)

theorem WireOrder.append (one : WireOrder first) (two : WireOrder second)
    (complete : Complete first) (precedes : Precedes first second) :
    WireOrder (first ++ second) := by
  refine ⟨?_, List.isChain_append.mpr ⟨one.follows, two.follows, ?_⟩, ?_⟩
  · intro frame head
    rw [List.head?_append, Option.mem_def, Option.or_eq_some_iff] at head
    rcases head with inFirst | ⟨-, inSecond⟩
    · exact one.starts frame inFirst
    · exact two.starts frame inSecond
  · intro frame last next head
    exact .inr ⟨precedes frame (List.mem_of_getLast? last) next (List.mem_of_head? head),
      complete frame last, two.starts next head⟩
  · intro frame member
    exact (List.mem_append.mp member).elim (one.ranged frame) (two.ranged frame)

theorem Complete.append (one : Complete first) (two : Complete second) :
    Complete (first ++ second) := by
  intro frame last
  rw [List.getLast?_append, Option.mem_def, Option.or_eq_some_iff] at last
  rcases last with inSecond | ⟨-, inFirst⟩
  · exact two frame inSecond
  · exact one frame inFirst

end

variable {frames : List OutboundFrame}

theorem WireOrder.lowest_sorted (order : WireOrder frames) :
    (frames.map lowest).Pairwise (· ≤ ·) := by
  rw [← List.isChain_iff_pairwise, List.isChain_map]
  refine order.follows.imp_of_mem_imp ?_
  intro frame next member member' follows
  have filled := order.ranged frame member
  rcases follows with ⟨same, -, -⟩ | ⟨later, -, -⟩
  · have inside : next.lowest ∈ next.ids :=
      mem_ids.mpr ⟨le_refl _, order.ranged next member'⟩
    rw [same, mem_ids] at inside
    exact inside.1
  · omega

/-! ### Blocks -/

/-- The sends a frame carries.  `batches` says which messages go into batches. -/
inductive Carries (batches : OutgoingMessage → Bool) (frame : OutboundFrame) :
    List (Nat × OutgoingMessage) → Prop
  | alone {seq : Nat} {msg : OutgoingMessage} (apart : batches msg = false)
      (ids : frame.ids = [seq]) (routing : frame.routing = msg.routing) :
      Carries batches frame [(seq, msg)]
  /-- The metadata of a batch is the batch's own. -/
  | batch {sends : List (Nat × OutgoingMessage)} (filled : sends ≠ [])
      (joined : ∀ send ∈ sends, batches send.2 = true) (ids : frame.ids = sends.map Prod.fst)
      (routing : frame.routing = (none, [])) : Carries batches frame sends

variable {sends : List (Nat × OutgoingMessage)}

section

variable {batches : OutgoingMessage → Bool}

theorem Carries.ids_eq {frame : OutboundFrame} (carries : Carries batches frame sends) :
    frame.ids = sends.map Prod.fst := by
  cases carries with
  | alone _ ids => exact ids
  | batch _ _ ids => exact ids

theorem Carries.ranged {frame : OutboundFrame} (carries : Carries batches frame sends) :
    frame.lowest ≤ frame.highest := by
  have filled : frame.ids ≠ [] := by
    rw [carries.ids_eq]
    cases carries with
    | alone => simp
    | batch filled => simpa using filled
  obtain ⟨id, member⟩ := List.exists_mem_of_ne_nil _ filled
  obtain ⟨above, below⟩ := mem_ids.mp member
  omega

/-- The frames that stand for one message, or the frame that stands for one batch. -/
structure Block (batches : OutgoingMessage → Bool) (sends : List (Nat × OutgoingMessage))
    (frames : List OutboundFrame) : Prop where
  filled : frames ≠ []
  carries : ∀ frame ∈ frames, Carries batches frame sends
  stamped : ∀ frame ∈ frames, frame.sequenceId = frame.lowest
  pieces : ∀ (place : Nat) (frame : OutboundFrame), frames[place]? = some frame →
    frame.chunkIndex = place ∧ frame.chunkCount = frames.length
  uuid : ∀ frame ∈ frames, ∀ other ∈ frames, other.metadata.uuid = frame.metadata.uuid

namespace Block

theorem of_one {frame : OutboundFrame} (carries : Carries batches frame sends)
    (stamped : frame.sequenceId = frame.lowest) (index : frame.metadata.chunkId = none)
    (count : frame.metadata.numChunksFromMsg = none) : Block batches sends [frame] := by
  refine ⟨List.cons_ne_nil _ _, by simpa using carries, by simpa using stamped, ?_, by simp⟩
  intro place found member
  rw [List.getElem?_singleton] at member
  split at member
  case isTrue first =>
    cases member
    subst first
    simp [chunkIndex, chunkCount, index, count]
  case isFalse => cases member

theorem order (block : Block batches sends frames) : WireOrder frames := by
  refine ⟨?_, ?_, fun frame member => (block.carries frame member).ranged⟩
  · intro frame head
    rw [List.head?_eq_getElem?] at head
    simpa using (block.pieces 0 frame head).1
  · rw [List.isChain_iff_getElem]
    intro place inside
    have first := List.getElem_mem (Nat.lt_of_succ_lt inside)
    have second := List.getElem_mem inside
    refine .inl ⟨?_, block.uuid _ first _ second, ?_⟩
    · rw [(block.carries _ first).ids_eq, (block.carries _ second).ids_eq]
    · rw [(block.pieces place _ (List.getElem?_eq_getElem _)).1,
        (block.pieces (place + 1) _ (List.getElem?_eq_getElem _)).1]
      push_cast
      rfl

theorem complete (block : Block batches sends frames) : Complete frames := by
  intro frame last
  rw [List.getLast?_eq_getElem?] at last
  obtain ⟨index, count⟩ := block.pieces _ frame last
  have filled : 0 < frames.length := List.length_pos_iff.mpr block.filled
  rw [index, count]
  omega

end Block

/-- All chunks of one message, each once and in order. -/
def Whole (frames : List OutboundFrame) : Prop :=
  frames ≠ [] ∧ ∀ (place : Nat) (frame : OutboundFrame), frames[place]? = some frame →
    frame.chunkIndex = place ∧ frame.chunkCount = frames.length

theorem Block.whole (block : Block batches sends frames) : Whole frames :=
  ⟨block.filled, block.pieces⟩

variable {blocks : List (List OutboundFrame)}

/-- Blocks in order make an ordered, complete stream. -/
theorem blocks_order (sound : ∀ block ∈ blocks, ∃ sends, Block batches sends block)
    (ordered : blocks.Pairwise Precedes) :
    WireOrder blocks.flatten ∧ Complete blocks.flatten := by
  induction blocks with
  | nil => exact ⟨.nil, .nil⟩
  | cons first _ ih =>
    rw [List.pairwise_cons] at ordered
    obtain ⟨sends, block⟩ := sound first List.mem_cons_self
    obtain ⟨order, complete⟩ := ih
      (fun other member => sound other (List.mem_cons_of_mem _ member)) ordered.2
    refine ⟨block.order.append order block.complete ?_, block.complete.append complete⟩
    intro frame member next member'
    obtain ⟨other, inRest, inOther⟩ := List.mem_flatten.mp member'
    exact ordered.1 other inRest frame member next inOther

/-! ### The frames of one send -/

def carrying (seq : Nat) (frames : List OutboundFrame) : List OutboundFrame :=
  frames.filter fun frame => frame.ids.contains seq

theorem carrying_append (seq : Nat) (first second : List OutboundFrame) :
    carrying seq (first ++ second) = carrying seq first ++ carrying seq second :=
  List.filter_append _ _

theorem carrying_eq_self
    (all : ∀ frame ∈ frames, seq ∈ frame.ids) : carrying seq frames = frames := by
  rw [carrying, List.filter_eq_self]
  intro frame member
  exact List.contains_iff_mem.mpr (all frame member)

theorem carrying_eq_nil : carrying seq frames = [] ↔ ∀ frame ∈ frames, seq ∉ frame.ids := by
  simp [carrying, List.filter_eq_nil_iff]

/-- Of blocks in order, one carries a send. -/
theorem carrying_blocks (filled : ∀ block ∈ blocks, block ≠ [])
    (ordered : blocks.Pairwise Precedes) {block : List OutboundFrame} (member : block ∈ blocks)
    (all : ∀ frame ∈ block, seq ∈ frame.ids) :
    carrying seq blocks.flatten = block := by
  induction blocks with
  | nil => cases member
  | cons first rest ih =>
    rw [List.pairwise_cons] at ordered
    rw [List.flatten_cons, carrying_append]
    rcases List.mem_cons.mp member with rfl | later
    · -- Everything behind the block has higher ids.
      obtain ⟨frame, inBlock⟩ := List.exists_mem_of_ne_nil _ (filled block List.mem_cons_self)
      have bounds := mem_ids.mp (all frame inBlock)
      have behind : carrying seq rest.flatten = [] := by
        rw [carrying_eq_nil]
        intro next inRest inside
        obtain ⟨other, inOthers, inOther⟩ := List.mem_flatten.mp inRest
        have above := ordered.1 other inOthers frame inBlock next inOther
        have bounds' := mem_ids.mp inside
        omega
      rw [behind, List.append_nil, carrying_eq_self all]
    · obtain ⟨next, inBlock⟩ := List.exists_mem_of_ne_nil _ (filled block member)
      have bounds := mem_ids.mp (all next inBlock)
      have ahead : carrying seq first = [] := by
        rw [carrying_eq_nil]
        intro frame inFirst inside
        have below := ordered.1 block later frame inFirst next inBlock
        have bounds' := mem_ids.mp inside
        omega
      rw [ahead, List.nil_append]
      exact ih (fun other inRest => filled other (List.mem_cons_of_mem _ inRest))
        ordered.2 later

end

/-! ### What the encoders stage -/

variable {producer : ProducerState} {msg : OutgoingMessage}

namespace ProducerState

variable (single : Prost SingleMessageMetadata) (codecs : Codecs)

def batches (producer : ProducerState) (msg : OutgoingMessage) : Bool :=
  batchable msg && producer.batchingEnabled &&
    decide ((max msg.numMessages 1).toNat ≤ producer.maxMessagesInBatch) &&
    decide (msg.payload.length ≤ producer.maxBatchSizeBytes)

theorem canAddToBatch_iff (producer : ProducerState) (payloadSize : Nat) (numMessages : Int) :
    producer.canAddToBatch payloadSize numMessages = true ↔
      producer.batchingEnabled = true ∧ producer.closed = false ∧
        producer.batch.messages.length + (max numMessages 1).toNat ≤ producer.maxMessagesInBatch ∧
        producer.batch.currentSizeBytes + payloadSize ≤ producer.maxBatchSizeBytes := by
  unfold canAddToBatch
  cases producer.batchingEnabled <;> cases producer.closed <;> simp

theorem canJoin_batches (joins : producer.canJoin msg = true) : producer.batches msg = true := by
  rw [canJoin, Bool.and_eq_true, canAddToBatch_iff] at joins
  obtain ⟨plain, enabled, -, count, size⟩ := joins
  simp only [batches, Bool.and_eq_true, decide_eq_true_eq]
  exact ⟨⟨⟨plain, enabled⟩, by omega⟩, by omega⟩

/-- A message that an empty batch of an open producer refuses never goes into one. -/
theorem batches_of_apart (opened : producer.closed = false) (clear : producer.batch = {})
    (apart : producer.canJoin msg = false) : producer.batches msg = false := by
  rw [← Bool.not_eq_true] at apart ⊢
  intro joins
  simp only [batches, Bool.and_eq_true, decide_eq_true_eq] at joins
  obtain ⟨⟨⟨plain, enabled⟩, count⟩, size⟩ := joins
  apply apart
  rw [canJoin, Bool.and_eq_true, canAddToBatch_iff, clear]
  exact ⟨plain, enabled, opened, by simpa using count, by simpa using size⟩

theorem Reduces.batches {before after : ProducerState} (reduces : Reduces before after) :
    after.batches = before.batches := by
  rw [reduces.rest]
  rfl

theorem compressUnbatched_routing (producer : ProducerState) (msg : OutgoingMessage) :
    (producer.compressUnbatched codecs msg).routing = msg.routing := by
  unfold compressUnbatched
  split
  · rfl
  · split <;> rfl

theorem stampTxn_routing (txnId : Option TxnId) (metadata : MessageMetadata) :
    routingOf (stampTxn txnId metadata) = routingOf metadata := by
  unfold stampTxn
  split <;> rfl

theorem singleMetadata_routing (msg : OutgoingMessage) :
    routingOf (singleMetadata msg) = msg.routing := by
  unfold singleMetadata
  rw [stampTxn_routing]
  split <;> rfl

theorem singleFrame_block (room : ProducerState) (msg : OutgoingMessage) (publishTimeMs : Nat)
    {batches : OutgoingMessage → Bool} (apart : batches msg = false) :
    Block batches [(room.nextSequenceId, msg)]
      [room.singleFrame (room.compressUnbatched codecs msg) publishTimeMs] := by
  obtain ⟨index, count, -⟩ := singleMetadata_fields (room.compressUnbatched codecs msg)
  have routing := (singleMetadata_routing _).trans (compressUnbatched_routing codecs room msg)
  exact .of_one (.alone apart (ids_of_one rfl rfl rfl) routing) rfl index count

theorem computeTotalChunks_pos (payloadLen maxChunkSize : Nat) :
    0 < computeTotalChunks payloadLen maxChunkSize := by
  unfold computeTotalChunks
  split
  · decide
  · omega

theorem chunkFrames_block (room : ProducerState) (msg : OutgoingMessage) (uuid : String)
    (publishTimeMs : Nat) {batches : OutgoingMessage → Bool} (apart : batches msg = false) :
    Block batches [(room.nextSequenceId, msg)]
      ((List.range (computeTotalChunks (room.compressUnbatched codecs msg).payload.length
        room.maxChunkPayload)).map
          (room.chunkFrame (room.compressUnbatched codecs msg) uuid publishTimeMs)) := by
  have chunk := room.chunkMetadata_fields (room.compressUnbatched codecs msg) uuid publishTimeMs
  refine ⟨?_, ?_, ?_, ?_, ?_⟩
  · have some := computeTotalChunks_pos (room.compressUnbatched codecs msg).payload.length
      room.maxChunkPayload
    simp only [ne_eq, List.map_eq_nil_iff, List.range_eq_nil]
    omega
  · intro frame member
    obtain ⟨chunkIdx, -, rfl⟩ := List.mem_map.mp member
    refine .alone apart (ids_of_one rfl rfl rfl) ?_
    have routing : routingOf (room.chunkMetadata (room.compressUnbatched codecs msg) uuid
        publishTimeMs chunkIdx) = (room.compressUnbatched codecs msg).routing :=
      stampTxn_routing _ _
    exact routing.trans (compressUnbatched_routing codecs room msg)
  · intro frame member
    obtain ⟨chunkIdx, -, rfl⟩ := List.mem_map.mp member
    rfl
  · intro place frame found
    rw [List.getElem?_map, Option.map_eq_some_iff] at found
    obtain ⟨chunkIdx, inRange, rfl⟩ := found
    have same : place = chunkIdx := by
      obtain ⟨_, entry⟩ := List.getElem?_eq_some_iff.mp inRange
      simpa using entry
    subst same
    obtain ⟨index, -, -, count, -⟩ := chunk place
    simp [chunkIndex, chunkCount, chunkFrame, index, count]
  · intro frame member other member'
    obtain ⟨chunkIdx, -, rfl⟩ := List.mem_map.mp member
    obtain ⟨chunkIdx', -, rfl⟩ := List.mem_map.mp member'
    exact (chunk chunkIdx').2.1.trans (chunk chunkIdx).2.1.symm

/-- The frames of a message that goes out on its own are a block of that message. -/
theorem Encodes.block {room : ProducerState}
    (encodes : Encodes codecs room msg frames) {batches : OutgoingMessage → Bool}
    (apart : batches msg = false) : Block batches [(room.nextSequenceId, msg)] frames := by
  cases encodes with
  | single => exact singleFrame_block codecs room msg _ apart
  | chunked => exact chunkFrames_block codecs room msg _ _ apart

end ProducerState

/-! ### The batch container -/

/-- The container holds exactly these sends. -/
structure BatchContainer.Holds (batch : BatchContainer) (members : List (Nat × OutgoingMessage)) :
    Prop where
  messages : batch.messages =
    members.map fun send => (ProducerState.memberMetadata send.2, send.2.payload)
  lowest : batch.lowestSequenceId = members.head?.map Prod.fst
  highest : batch.highestSequenceId = members.getLast?.map Prod.fst
  empty : members = [] → batch = {}

variable {members : List (Nat × OutgoingMessage)} {batch : BatchContainer}

namespace BatchContainer

theorem Holds.nil : Holds {} [] :=
  ⟨rfl, rfl, rfl, fun _ => rfl⟩

theorem Holds.isEmpty (holds : batch.Holds members) : batch.isEmpty = members.isEmpty := by
  rw [BatchContainer.isEmpty, holds.messages, List.isEmpty_map]

/-- The ids a flush of the container would write. -/
def ids (batch : BatchContainer) : List Nat :=
  match batch.lowestSequenceId, batch.highestSequenceId with
  | some lowest, some highest => List.range' lowest (highest + 1 - lowest)
  | _, _ => []

theorem Holds.ids_eq (holds : batch.Holds members) {first : Nat}
    (consecutive : members.map Prod.fst = List.range' first members.length) :
    batch.ids = members.map Prod.fst := by
  have lowest : batch.lowestSequenceId = (members.map Prod.fst).head? := by
    rw [holds.lowest, List.head?_map]
  have highest : batch.highestSequenceId = (members.map Prod.fst).getLast? := by
    rw [holds.highest, List.getLast?_map]
  rw [ids, lowest, highest, consecutive]
  cases members.length with
  | zero => rfl
  | succ count =>
    have last : (List.range' first (count + 1)).getLast? = some (first + count) := by
      rw [List.range'_concat]
      simp
    rw [last, List.range'_succ, List.head?_cons]
    dsimp only
    rw [← List.range'_succ]
    congr 1
    omega

theorem Holds.withMember (holds : batch.Holds members) (msg : OutgoingMessage) (seq now : Nat) :
    (ProducerState.withMember batch msg seq now).Holds (members ++ [(seq, msg)]) := by
  refine ⟨?_, ?_, ?_, by simp⟩
  · simp [ProducerState.withMember, holds.messages]
  · rw [ProducerState.withMember, holds.lowest]
    cases members <;> rfl
  · simp [ProducerState.withMember]

end BatchContainer

namespace ProducerState

variable (single : Prost SingleMessageMetadata) (codecs : Codecs)

theorem batchMetadata_plain (producer : ProducerState) (publishTimeMs : Nat) :
    let metadata := producer.batchMetadata single codecs publishTimeMs
    routingOf metadata = (none, []) ∧ metadata.chunkId = none ∧
      metadata.numChunksFromMsg = none := by
  unfold batchMetadata stampTxn
  dsimp only
  split <;> exact ⟨rfl, rfl, rfl⟩

/-- The frame of a batch whose ids are consecutive carries exactly its members. -/
theorem batchFrame_block (holds : producer.batch.Holds members) {first count : Nat}
    (consecutive : members.map Prod.fst = List.range' first (count + 1))
    {batches : OutgoingMessage → Bool} (joined : ∀ send ∈ members, batches send.2 = true)
    (publishTimeMs : Nat) :
    Block batches members [producer.batchFrame single codecs publishTimeMs] := by
  have lowest : producer.batchLowest = first := by
    rw [batchLowest, holds.lowest, ← List.head?_map, consecutive]
    rfl
  have highest : producer.batchHighest = first + count := by
    rw [batchHighest, holds.highest, ← List.getLast?_map, consecutive, List.range'_concat]
    simp
  have top : (producer.batchFrame single codecs publishTimeMs).highest = first + count := by
    change producer.batchRange.getD producer.batchLowest = first + count
    rw [batchRange, lowest, highest]
    split
    · rfl
    · simp only [Option.getD_none]
      omega
  have bottom : (producer.batchFrame single codecs publishTimeMs).lowest = first := lowest
  have ids : (producer.batchFrame single codecs publishTimeMs).ids = members.map Prod.fst := by
    rw [ids, bottom, top, consecutive]
    congr 1
    omega
  have filled : members ≠ [] := by
    rintro rfl
    simp at consecutive
  obtain ⟨routing, index, pieces⟩ := batchMetadata_plain single codecs producer publishTimeMs
  exact .of_one (.batch filled joined ids routing) rfl index pieces

end ProducerState

end Magnetar.Proto.Producer
