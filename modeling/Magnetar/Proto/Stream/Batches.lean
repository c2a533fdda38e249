import Magnetar.Library.Outcome
import Magnetar.Proto.Batch.RoundTrip
import Magnetar.Proto.Stream.Receive

/-!
Contract: the aggregate receive path and the ordinary one on the same batch.

Owns: the second splitter on what the packer writes, the list of members that each path makes
visible, and when the two lists are the same.

Does not own: whether the accounting has room for the members.
-/

namespace Magnetar.Proto.Stream

open Library Pb External Batch BatchAck Consumer Producer Producer.ProducerState

/-! ### The second splitter -/

variable {members : List BatchMember}

section Splitter

variable {single : Prost SingleMessageMetadata} {Refusal : Type}

theorem nextStreamMember_packMember {member : BatchMember} (packs : Packs single member)
    (rest : Bytes) :
    (nextStreamMember single (packMember single member ++ rest) :
      Except (StreamConsumerModelError Refusal) _) = .ok (member, rest) := by
  obtain ⟨metadata, payload⟩ := member
  have size : metadata.payloadSize = payload.length := packs.size
  have decoded : single.decode (single.encode metadata) = some metadata := packs.roundTrips
  have read := BigEndian.get_take_put_append 4 (single.encode metadata).length
    (single.encode metadata ++ (payload ++ rest)) packs.short
  rw [packMember_append, nextStreamMember]
  simp only [read, BigEndian.drop_put_append, List.take_left', List.drop_left']
  simp [decoded, size]

theorem streamMembers_flatMap (packs : ∀ member ∈ members, Packs single member) :
    (streamMembers single members.length (members.flatMap (packMember single)) :
      Except (StreamConsumerModelError Refusal) _) = .ok members := by
  induction members with
  | nil => rfl
  | cons member others ih =>
    obtain ⟨here, later⟩ := List.forall_mem_cons.mp packs
    rw [List.flatMap_cons, List.length_cons, streamMembers, nextStreamMember_packMember here]
    show (streamMembers single others.length _ >>= fun members => pure (member :: members)) = _
    rw [ih later]
    rfl

end Splitter

/-! ### The visible members -/

/-- What the application sees of a batch member. -/
def visible (message : IncomingMessage) : Int × Bytes × Option SingleMessageMetadata :=
  (message.messageId.batchIndex, message.payload, message.singleMetadata)

/-- The visible members of a batch under one reading of its bit set. -/
def listed (unacked : Nat → Bool) (members : List BatchMember) :
    List (Int × Bytes × Option SingleMessageMetadata) :=
  (((List.range members.length).zip members).filter fun member => unacked member.1).map
    fun member => ((member.1 : Int), member.2.2, some member.2.1)

theorem listed_eq_iff (one other : Nat → Bool) (members : List BatchMember) :
    listed one members = listed other members ↔
      ∀ position < members.length, one position = other position := by
  have mem_listed (unacked : Nat → Bool) {position : Nat} (inside : position < members.length) :
      (position : Int) ∈ (listed unacked members).map Prod.fst ↔ unacked position = true := by
    unfold listed
    rw [List.map_map, List.mem_map]
    constructor
    · rintro ⟨member, found, same⟩
      have place : member.1 = position := Int.ofNat_inj.mp same
      rw [← place]
      exact (List.mem_filter.mp found).2
    · intro shown
      have paired : (position, members[position]) ∈ (List.range members.length).zip members := by
        refine List.mem_iff_getElem.mpr ⟨position, by simpa using inside, ?_⟩
        simp
      exact ⟨_, List.mem_filter.mpr ⟨paired, shown⟩, rfl⟩
  constructor
  · intro same position inside
    rw [Bool.eq_iff_iff, ← mem_listed one inside, ← mem_listed other inside, same]
  · intro agree
    unfold listed
    congr 1
    apply List.filter_congr
    intro member inside
    exact agree member.1 (List.mem_range.mp (List.of_mem_zip inside).1)

/-! ### Uncompressed batches -/

/-- A dispatched entry that announces these members and carries them as they were packed. -/
structure PlainBatch (single : Prost SingleMessageMetadata) (members : List BatchMember)
    (d : Dispatch) : Prop where
  packs : ∀ member ∈ members, Packs single member
  count : d.metadata.numMessagesInBatch = some (members.length : Int)
  whole : d.metadata.chunkId = none
  unchunked : d.metadata.numChunksFromMsg = none
  plain : d.metadata.compression = none
  body : d.body = members.flatMap (packMember single)

variable {single : Prost SingleMessageMetadata} {d : Dispatch}

theorem plainBatch_of_flush {codecs : Codecs}
    {producer : ProducerState} (few : producer.batch.messages.length < 2 ^ 31)
    (packs : ∀ member ∈ producer.batch.messages, Packs single member) {publishTimeMs : Nat}
    (metadata : d.metadata = producer.batchMetadata single codecs publishTimeMs)
    (body : d.body = (producer.batchBody single codecs).1) (plain : d.metadata.compression = none) :
    PlainBatch single producer.batch.messages d := by
  obtain ⟨count, whole, unchunked⟩ := batchMetadata_shape single codecs producer publishTimeMs
  rw [asI32_of_lt few] at count
  refine ⟨packs, ?_, ?_, ?_, plain, ?_⟩
  · rw [metadata, count]
  · rw [metadata, whole]
  · rw [metadata, unchunked]
  · rw [metadata] at plain
    rw [body, batchBody_of_plain single codecs plain]

/-! ### The aggregate path -/

/-- The accounting ended the call: it refused, or a size it is asked for overflows. -/
def StreamConsumerModelError.OfAccounting {Refusal : Type} : StreamConsumerModelError Refusal → Prop
  | .refused _ | .receiveSizeOverflow => True
  | .invalidChunkFrame _ | .invalidBatchFrame _ => False

section Aggregate

variable {single : Prost SingleMessageMetadata} {σ Action Refusal : Type}
  {accounting : Accounting σ Action Refusal}

open StreamConsumerModelError

theorem ends_asked {α : Type} (answer : Except Refusal α) :
    Ends OfAccounting (fun value => answer = .ok value) (asked answer) := by
  cases answer with
  | ok => rfl
  | error => trivial

theorem ends_sized (size : Option Nat) :
    Ends OfAccounting (fun _ => True)
      (sized size : Except (StreamConsumerModelError Refusal) Nat) := by
  cases size <;> trivial

theorem reserveAll_length {segmentId : SegmentId} {generation : ChildGeneration}
    {charges : List Nat} {staged next : σ} {retained : List BudgetReservationId}
    (reserved : accounting.reserveAll segmentId generation staged charges = .ok (retained, next)) :
    retained.length = charges.length := by
  induction charges generalizing staged retained next with
  | nil =>
    cases reserved
    rfl
  | cons bytes rest ih =>
    rw [Accounting.reserveAll] at reserved
    cases first : accounting.reserveRetained staged segmentId generation bytes with
    | error =>
      rw [first] at reserved
      cases reserved
    | ok one =>
      rw [first] at reserved
      cases later : accounting.reserveAll segmentId generation one.2 rest with
      | error =>
        simp [bind, Except.bind, later] at reserved
      | ok others =>
        simp only [bind, Except.bind, later] at reserved
        cases reserved
        rw [List.length_cons, List.length_cons, ih later]

/-- A batch is given one reservation for each charge. -/
theorem batchArrivedPreallocated_length {segmentId : SegmentId} {generation : ChildGeneration}
    {model next : σ} {flow : BudgetReservationId} {work : List BudgetReservationId}
    {charges : List Nat} {retained : List BudgetReservationId} {actions : List Action}
    (arrived : accounting.batchArrivedPreallocated segmentId generation model flow work charges =
      .ok (retained, actions, next)) : retained.length = charges.length := by
  unfold Accounting.batchArrivedPreallocated Accounting.completePreallocatedArrival at arrived
  split at arrived
  · cases arrived
  cases released : accounting.stageArrival model segmentId generation flow work charges with
  | error =>
    rw [released] at arrived
    cases arrived
  | ok staged =>
    cases reserved : accounting.reserveAll segmentId generation staged charges with
    | error =>
      simp [released, bind, Except.bind, reserved] at arrived
    | ok kept =>
      simp only [released, bind, Except.bind, reserved] at arrived
      split at arrived
      · cases arrived
      · cases arrived
        exact reserveAll_length reserved

/-- The members of a packed body that the bit set lists. -/
theorem expandBatch_flatMap (Refusal : Type)
    (packs : ∀ member ∈ members, Packs single member) {message : IncomingMessage}
    (body : message.payload = members.flatMap (packMember single))
    (messageIdData : BrokerMessageId) (ackSet : List Int64) :
    ∃ expanded, (expandBatch single message messageIdData ackSet members.length :
        Except (StreamConsumerModelError Refusal) _) = .ok expanded ∧
      expanded.map (fun member => visible member.1) =
        listed (fun position => (BatchAckEntry.fromAckSet members.length ackSet).isUnacked position)
          members := by
  unfold expandBatch
  rw [Int.toNat_natCast, body, streamMembers_flatMap packs]
  refine ⟨_, rfl, ?_⟩
  rw [List.map_map]
  rfl

/-- An expanded batch makes the members visible that the bit set lists, unless the accounting ends
the call. -/
theorem ends_finalizeBatch
    (packs : ∀ member ∈ members, Packs single member) {entry : StreamCompleteEntry}
    (body : entry.message.payload = members.flatMap (packMember single))
    (model : σ) (segmentId : SegmentId) (generation : ChildGeneration)
    (flow : BudgetReservationId) (transformWork : List BudgetReservationId) (topic : String) :
    Ends OfAccounting
      (fun result => result.1.messages.map (fun queued => visible queued.message) =
        listed (fun position =>
          (BatchAckEntry.fromAckSet members.length entry.ackSet).isUnacked position) members)
      (finalizeBatch single accounting model segmentId generation entry flow transformWork
        members.length topic) := by
  obtain ⟨expanded, expands, shown⟩ :=
    expandBatch_flatMap Refusal packs body entry.messageIdData entry.ackSet
  unfold finalizeBatch
  apply Ends.bind (ends_sized _)
  intro structural _
  apply Ends.bind (ends_asked _)
  rintro ⟨batchWork, reserved⟩ _
  rw [expands]
  show Ends _ _ (expanded.mapM _ >>= _)
  apply Ends.bind (Ends.mapM_length fun message _ => ends_sized _)
  intro charges counted
  split
  · rename_i nothing
    rw [List.isEmpty_iff] at nothing
    apply Ends.bind (ends_asked _)
    rintro ⟨actions, settled⟩ _
    rw [← shown, nothing]
    rfl
  · apply Ends.bind (ends_asked _)
    rintro ⟨retained, actions, settled⟩ arrived
    have paired : retained.length = expanded.length :=
      (batchArrivedPreallocated_length arrived).trans counted
    have first : (expanded.zip retained).map Prod.fst = expanded :=
      List.map_fst_zip paired.ge
    show ((expanded.zip retained).map _).map _ = _
    rw [← shown, List.map_map]
    conv_rhs => rw [← first, List.map_map]
    rfl

theorem ends_finalizeMessage (entry : StreamCompleteEntry) (model : σ) (segmentId : SegmentId)
    (generation : ChildGeneration) (transformWork : List BudgetReservationId) (topic : String) :
    Ends OfAccounting
      (fun result => result.1.messages.map (fun queued => visible queued.message) =
        [visible entry.message])
      (finalizeMessage accounting model segmentId generation entry transformWork topic) := by
  unfold finalizeMessage
  apply Ends.bind (ends_sized _)
  intro charge _
  apply Ends.bind (ends_asked _)
  rintro ⟨reservation, actions, settled⟩ _
  rfl

end Aggregate

/-! ### The ordinary path -/

section Ordinary

variable {single : Prost SingleMessageMetadata} (codecs : Codecs)

open ConsumerState

def queuedBy (single : Prost SingleMessageMetadata) (codecs : Codecs) (c : ConsumerState)
    (d : Dispatch) : List IncomingMessage :=
  (c.deliver single codecs d).1.queue.drop c.queue.length

/-- A consumer that takes the delivery queues the members that the bit set does not clear. -/
theorem visible_queuedBy
    (batch : PlainBatch single members d) {c : ConsumerState} (opened : c.receives = true)
    (alive : c.deadLetters d.redelivery = false) :
    (queuedBy single codecs c d).map visible =
      listed (fun position =>
        (BatchAckEntry.fromDeliveredAckSet members.length d.cmd.ackSet).isUnacked position)
        members := by
  have surfaced := surfaced_batch single codecs opened batch.whole batch.count
  have unpacked : unpackBatchMembers single codecs d.metadata d.body members.length =
      (d.metadata, members) := by
    unfold unpackBatchMembers
    rw [batch.plain, batch.body]
    exact congrArg (fun split => (d.metadata, split.1)) (splitBatchBody_flatMap batch.packs)
  have messages : c.surfaced single codecs d =
      memberMessages d d.metadata members.length
        (BatchAckEntry.fromDeliveredAckSet members.length d.cmd.ackSet)
        ((List.range members.length).zip members) := by
    rw [surfaced, batchMessages, unpacked]
    rfl
  have kept : c.queued (c.surfaced single codecs d) = c.surfaced single codecs d := by
    apply List.filter_eq_self.mpr
    intro message inside
    rw [messages] at inside
    obtain ⟨member, _, rfl⟩ := List.mem_map.mp inside
    show (!c.deadLetters d.redelivery) = true
    rw [alive]
    rfl
  have appended : (c.deliver single codecs d).1.queue = c.queue ++ c.surfaced single codecs d :=
    (c.deliver_surfaces single codecs d).queue.trans (congrArg (c.queue ++ ·) kept)
  rw [queuedBy, appended, List.drop_left, messages, memberMessages, List.map_map]
  rfl

end Ordinary

/-! ### Agreement -/

/-- The two paths on a plain batch. -/
theorem ends_finalizeEntry (codecs : Codecs) (batch : PlainBatch single members d)
    {c : ConsumerState} (receiving : c.receives = true)
    (alive : c.deadLetters d.redelivery = false) {σ Action Refusal : Type}
    (accounting : Accounting σ Action Refusal) (model : σ) (segmentId : SegmentId)
    (generation : ChildGeneration) (flow : BudgetReservationId)
    (transformWork : List BudgetReservationId) :
    Ends StreamConsumerModelError.OfAccounting
      (fun result =>
        result.1.messages.map (fun queued => visible queued.message) =
            (queuedBy single codecs c d).map visible ↔
          2 ≤ members.length ∧
            (d.cmd.ackSet = [] ∨ members.length ≤ 64 * d.cmd.ackSet.length))
      (finalizeEntry single accounting model segmentId generation
        (StreamReceiveState.whole (deferred d) flow) transformWork) := by
  have ordinary := visible_queuedBy codecs batch receiving alive
  have announced : (StreamReceiveState.whole (deferred d) flow).message.metadata.numMessagesInBatch =
      some (members.length : Int) := batch.count
  unfold finalizeEntry
  apply Ends.bind (ends_asked _)
  intro topic _
  rw [announced, Option.getD_some]
  by_cases several : 2 ≤ members.length
  · rw [if_pos (by omega)]
    refine (ends_finalizeBatch batch.packs batch.body model segmentId generation flow transformWork
      topic).mono ?_
    intro result shown
    rw [shown, ordinary, listed_eq_iff]
    have agree := BatchAckEntry.fromAckSet_agrees_iff (members.length : Int) d.cmd.ackSet
    rw [Int.toNat_natCast] at agree
    exact agree.trans (and_iff_right several).symm
  · rw [if_neg (by omega)]
    refine (ends_finalizeMessage _ model segmentId generation transformWork topic).mono ?_
    intro result shown
    rw [shown, ordinary]
    refine iff_of_false ?_ (fun both => several both.1)
    intro same
    have inside : visible (StreamReceiveState.whole (deferred d) flow).message ∈
        listed _ members := same ▸ List.mem_singleton_self _
    obtain ⟨member, _, seen⟩ := List.mem_map.mp inside
    cases congrArg (fun shown => shown.2.2) seen

/-- The two paths on the same frame: the aggregate path ends with the list of visible members that
the ordinary one queues, or not, or its accounting ends the call. -/
theorem batch_expansion_agrees_iff (single : Prost SingleMessageMetadata) (codecs : Codecs)
    (producer : ProducerState) (opened : producer.closed = false)
    (empty : producer.batch.messages = []) (sends : List (OutgoingMessage × Nat × Nat))
    (nonempty : sends ≠ []) (few : sends.length < 2 ^ 31)
    (roundTrips : ∀ send ∈ sends, single.RoundTrips (memberMetadata send.1))
    (short : ∀ send ∈ sends, send.1.payload.length < 2 ^ 31 ∧
      (single.encode (memberMetadata send.1)).length < 2 ^ 32)
    (publishTimeMs : Nat) (frame : OutboundFrame)
    (flushed : ((collect producer sends).flushBatch single codecs publishTimeMs).2.outbound =
      producer.outbound ++ [frame])
    (plain : frame.metadata.compression = none)
    (d : Dispatch) (metadata : d.metadata = frame.metadata) (body : d.body = frame.payload)
    (c : ConsumerState) (receiving : c.receives = true) (alive : c.deadLetters d.redelivery = false)
    {σ Action Refusal : Type} (accounting : Accounting σ Action Refusal)
    (state : StreamReceiveState) (model : σ) (segmentId : SegmentId) (generation : ChildGeneration)
    (flow : BudgetReservationId) (transformWork : List BudgetReservationId) :
    ∃ entry,
      state.acceptEntry accounting model segmentId generation flow (deferred d) =
        (.ok (.complete entry), state, model) ∧
      Ends StreamConsumerModelError.OfAccounting
        (fun result =>
          result.1.messages.map (fun queued => visible queued.message) =
              (queuedBy single codecs c d).map visible ↔
            2 ≤ sends.length ∧
              (d.cmd.ackSet = [] ∨ sends.length ≤ 64 * d.cmd.ackSet.length))
        (finalizeEntry single accounting model segmentId generation entry transformWork) := by
  have same := flushed_frame opened nonempty flushed
  have members : (collect producer sends).batch.messages =
      sends.map fun send => packed send.1 := by
    rw [collect_batch, empty, List.nil_append]
  have counted : (collect producer sends).batch.messages.length = sends.length := by
    rw [members, List.length_map]
  have packs : ∀ member ∈ (collect producer sends).batch.messages, Packs single member := by
    intro member inside
    rw [members] at inside
    obtain ⟨send, sent, rfl⟩ := List.mem_map.mp inside
    exact packs_of_short (roundTrips send sent) (short send sent).2 (short send sent).1
  have batch : PlainBatch single (collect producer sends).batch.messages d :=
    plainBatch_of_flush (counted ▸ few) packs
      (metadata.trans (congrArg OutboundFrame.metadata same))
      (body.trans (congrArg OutboundFrame.payload same)) (metadata ▸ plain)
  refine ⟨StreamReceiveState.whole (deferred d) flow, ?_, ?_⟩
  · unfold StreamReceiveState.acceptEntry
    rw [show (deferred d).message.metadata.numChunksFromMsg = none from batch.unchunked]
  · rw [← counted]
    exact ends_finalizeEntry codecs batch receiving alive accounting model segmentId generation
      flow transformWork

private def roomy : Accounting Unit Unit Unit where
  topic _ _ _ := .ok "t"
  structuralBytes _ _ _ _ _ := some 0
  retainedBytes _ _ _ := some 0
  chunkFrameBuffered _ _ _ _ _ _ := .ok (0, [], ())
  reserveBatchAssembly _ _ _ _ := .ok (0, ())
  messageArrivedPreallocated _ _ _ _ _ _ := .ok (0, [], ())
  chunkMessageArrived _ _ _ _ _ _ _ := .ok (0, [], ())
  invalidChildTransition _ _ _ := ()
  stageArrival _ _ _ _ _ _ := .ok ()
  reserveRetained _ _ _ _ := .ok (0, ())
  settleArrival _ _ _ _ _ := .ok ([], ())
  discardPreallocatedArrival _ _ _ _ _ := .ok ([], ())

private def oneByte (byte : UInt8) : OutgoingMessage × Nat × Nat :=
  ({ payload := [byte], metadata := {}, uncompressedSize := 0, numMessages := 1, txnId := none,
     sourceMessageId := none }, 0, 0)

private def flushedBatch (sends : List (OutgoingMessage × Nat × Nat)) : OutboundFrame :=
  (collect (ProducerState.new 1 .none 100) sends).batchFrame memberOfSize default 5

private def arriving (sends : List (OutgoingMessage × Nat × Nat)) (ackSet : List Int64) :
    Dispatch where
  cmd := { consumerId := 7, messageId := { ledgerId := 1, entryId := 1 }, ackSet }
  metadata := (flushedBatch sends).metadata
  body := (flushedBatch sends).payload

private def ordinaryConsumer : ConsumerState :=
  ConsumerState.withPolicy 7 "t" "s" (ReceiverQueue.fixed 10) none

/-- Two members of which the bit set lists one. -/
theorem batch_expansion_agrees_two :
    ∃ entry,
      StreamReceiveState.acceptEntry roomy {} () 0 0 0
          (deferred (arriving [oneByte 1, oneByte 2] [2])) = (.ok (.complete entry), {}, ()) ∧
      Ends StreamConsumerModelError.OfAccounting
        (fun result => result.1.messages.map (fun queued => visible queued.message) =
          (queuedBy memberOfSize default ordinaryConsumer
            (arriving [oneByte 1, oneByte 2] [2])).map visible)
        (finalizeEntry memberOfSize roomy () 0 0 entry []) := by
  have roundTrips : ∀ send ∈ [oneByte 1, oneByte 2],
      memberOfSize.RoundTrips (memberMetadata send.1) := by
    intro send sent
    rcases List.mem_pair.mp sent with rfl | rfl <;> rfl
  obtain ⟨entry, accepted, ends⟩ := batch_expansion_agrees_iff memberOfSize default
    (ProducerState.new 1 .none 100) rfl rfl [oneByte 1, oneByte 2] (by simp) (by decide)
    roundTrips (by decide) 5 (flushedBatch [oneByte 1, oneByte 2]) rfl rfl
    (arriving [oneByte 1, oneByte 2] [2]) rfl rfl ordinaryConsumer rfl rfl roomy {} () 0 0 0 []
  exact ⟨entry, accepted, ends.mono fun result agrees => agrees.mpr (by decide)⟩

/-- What an accounting with room for everything makes visible. -/
private def shownByAggregate (d : Dispatch) : List (Int × Bytes × Option SingleMessageMetadata) :=
  match StreamReceiveState.acceptEntry roomy {} () 0 0 0 (deferred d) with
  | (.ok (.complete entry), _, _) =>
    match finalizeEntry memberOfSize roomy () 0 0 entry [] with
    | .ok (transition, _) => transition.messages.map fun queued => visible queued.message
    | .error _ => []
  | _ => []

/-- A batch of one is shown with its framing, and a bit set of one word hides the member at 64. -/
theorem batch_expansions_differ :
    shownByAggregate (arriving [oneByte 7] []) = [(-1, [0, 0, 0, 2, 24, 1, 7], none)] ∧
      (queuedBy memberOfSize default ordinaryConsumer (arriving [oneByte 7] [])).map visible =
        [(0, [7], some { payloadSize := 1 })] ∧
      (shownByAggregate (arriving (List.replicate 65 (oneByte 7)) [-1])).length = 64 ∧
      (queuedBy memberOfSize default ordinaryConsumer
        (arriving (List.replicate 65 (oneByte 7)) [-1])).length = 65 := by
  decide +kernel

end Magnetar.Proto.Stream
