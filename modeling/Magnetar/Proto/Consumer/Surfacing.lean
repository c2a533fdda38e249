import Magnetar.Proto.Consumer.Deliver

/-!
Contract: the messages that one dispatch surfaces.

Owns: the list of messages of a dispatch for each of its three shapes, and what surfacing them does
to the receiver queue, the dead letters and the acknowledgement-timeout tracker; and which messages
the connection announces for it.

Does not own: the permits that a dispatch charges (`Consumer.Ledger`).
-/

namespace Magnetar.Proto.Consumer

open Pb External Batch BatchAck Trackers.Unacked

theorem Dispatch.chunk?_of_chunkId {d : Dispatch} (whole : d.metadata.chunkId = none) :
    d.chunk? = none := by
  unfold chunk?
  rw [whole]
  split
  · rename_i absurd
    cases absurd
  · rfl

namespace ConsumerState

variable (single : Prost SingleMessageMetadata) (codecs : Codecs)

/-! ### The messages of a dispatch -/

variable (c : ConsumerState) (d : Dispatch)

def plainMessage : IncomingMessage where
  messageId := { d.messageId with batchIndex := -1, batchSize := 0 }
  metadata := d.metadata
  payload := d.body
  redeliveryCount := d.redelivery
  brokerEntryMetadata := d.brokerEntryMetadata
  arrivedAt := d.now

/-- The members at the positions the broker still lists, as messages. -/
def memberMessages (metadata : MessageMetadata) (numInBatch : Int) (delivered : BatchAckEntry)
    (members : List (Nat × BatchMember)) : List IncomingMessage :=
  (members.filter fun member => delivered.isUnacked member.1).map fun member =>
    batchMessage d metadata numInBatch member.1 member.2

def batchMessages (numInBatch : Int) : List IncomingMessage :=
  let (metadata, members) := unpackBatchMembers single codecs d.metadata d.body numInBatch
  memberMessages d metadata numInBatch
    (BatchAckEntry.fromDeliveredAckSet numInBatch d.cmd.ackSet)
    ((List.range numInBatch.toNat).zip members)

/-- The logical message, once its last chunk is there. -/
def chunkMessages (total chunkId : Int) : List IncomingMessage :=
  match (c.bufferChunk d total chunkId).2 with
  | none => []
  | some entry =>
    if entry.receivedChunks < entry.expectedChunks then [] else [chunkedMessage d entry]

/-- Every message one dispatch surfaces, in order. -/
def surfaced : List IncomingMessage :=
  if c.closed || c.pendingSeek.isSome then []
  else
    match d.chunk? with
    | some (total, chunkId) => c.chunkMessages d total chunkId
    | none =>
      match d.metadata.numMessagesInBatch with
      | some numInBatch => batchMessages single codecs d numInBatch
      | none => [plainMessage d]

/-- Deliveries reach the consumer. -/
def receives : Bool :=
  !c.closed && !c.pendingSeek.isSome

section

variable {c : ConsumerState} {d : Dispatch} (opened : c.receives = true)
include opened

theorem surfaced_chunk {total chunkId : Int} (bounds : d.chunk? = some (total, chunkId)) :
    c.surfaced single codecs d = c.chunkMessages d total chunkId := by
  rw [receives, Bool.and_eq_true, Bool.not_eq_true', Bool.not_eq_true'] at opened
  unfold surfaced
  rw [if_neg (by simp [opened.1, opened.2]), bounds]

theorem surfaced_batch (whole : d.metadata.chunkId = none) {numInBatch : Int}
    (batch : d.metadata.numMessagesInBatch = some numInBatch) :
    c.surfaced single codecs d = batchMessages single codecs d numInBatch := by
  rw [receives, Bool.and_eq_true, Bool.not_eq_true', Bool.not_eq_true'] at opened
  unfold surfaced
  rw [if_neg (by simp [opened.1, opened.2]), Dispatch.chunk?_of_chunkId whole, batch]

theorem surfaced_plain (whole : d.metadata.chunkId = none)
    (lone : d.metadata.numMessagesInBatch = none) :
    c.surfaced single codecs d = [plainMessage d] := by
  rw [receives, Bool.and_eq_true, Bool.not_eq_true', Bool.not_eq_true'] at opened
  unfold surfaced
  rw [if_neg (by simp [opened.1, opened.2]), Dispatch.chunk?_of_chunkId whole, lone]

end

/-! ### Surfacing -/

def queued (messages : List IncomingMessage) : List IncomingMessage :=
  messages.filter fun message => !c.deadLetters message.redeliveryCount

/-- Put the messages under the acknowledgement timeout. -/
def trackAll (now : Nat) (messages : List IncomingMessage) (tracker : UnackedMessageTracker) :
    UnackedMessageTracker :=
  messages.foldl
    (fun tracker message =>
      tracker.addWithRedeliveryCount message.messageId message.redeliveryCount now)
    tracker

/-- `c'` is `c` after exactly these messages surfaced at `now`. -/
structure Surfaces (c : ConsumerState) (now : Nat) (messages : List IncomingMessage)
    (c' : ConsumerState) : Prop where
  queue : c'.queue = c.queue ++ c.queued messages
  deadLetters : c'.deadLetterPending = c.deadLetterPending ++
    messages.filter fun message => c.deadLetters message.redeliveryCount
  tracker : c'.unackedTracker = c.unackedTracker.map (trackAll now (c.queued messages))
  limit : c'.maxRedeliverCount = c.maxRedeliverCount
  table : c'.batchAckTracker = c.batchAckTracker

theorem Surfaces.nothing {c c' : ConsumerState} {now : Nat} (queue : c'.queue = c.queue)
    (dead : c'.deadLetterPending = c.deadLetterPending)
    (tracker : c'.unackedTracker = c.unackedTracker)
    (limit : c'.maxRedeliverCount = c.maxRedeliverCount)
    (table : c'.batchAckTracker = c.batchAckTracker) : c.Surfaces now [] c' where
  queue := by simpa [queued] using queue
  deadLetters := by simpa using dead
  tracker := by
    rw [tracker]
    cases c.unackedTracker <;> rfl
  limit := limit
  table := table

theorem deadLetters_congr {c c' : ConsumerState} (limit : c'.maxRedeliverCount = c.maxRedeliverCount)
    (redelivery : Nat) : c'.deadLetters redelivery = c.deadLetters redelivery := by
  rw [deadLetters, deadLetters, limit]

theorem Surfaces.trans {c c' c'' : ConsumerState} {now : Nat}
    {first second : List IncomingMessage} (earlier : c.Surfaces now first c')
    (later : c'.Surfaces now second c'') : c.Surfaces now (first ++ second) c'' := by
  have same : ∀ redelivery, c'.deadLetters redelivery = c.deadLetters redelivery :=
    deadLetters_congr earlier.limit
  have queues : c'.queued second = c.queued second := by simp only [queued, same]
  have appended : c.queued (first ++ second) = c.queued first ++ c.queued second := by
    simp [queued]
  refine ⟨?_, ?_, ?_, later.limit.trans earlier.limit, later.table.trans earlier.table⟩
  · rw [later.queue, earlier.queue, queues, appended, List.append_assoc]
  · rw [later.deadLetters, earlier.deadLetters, List.filter_append, List.append_assoc]
    simp only [same]
  · rw [later.tracker, earlier.tracker, queues, appended, Option.map_map]
    congr 1
    funext tracker
    simp [trackAll]

theorem Surfaces.after_nothing {c c' c'' : ConsumerState} {now : Nat}
    {messages : List IncomingMessage} (earlier : c.Surfaces now messages c')
    (later : c'.Surfaces now [] c'') : c.Surfaces now messages c'' := by
  have both := earlier.trans later
  rwa [List.append_nil] at both

section

variable (c : ConsumerState)

theorem classifyAndQueue_surfaces (message : IncomingMessage) (now : Nat) :
    c.Surfaces now [message] (c.classifyAndQueue message message.redeliveryCount now).1 := by
  rw [classifyAndQueue]
  by_cases exceeds : c.deadLetters message.redeliveryCount = true
  · rw [if_pos exceeds]
    refine ⟨?_, ?_, ?_, rfl, rfl⟩
    · simp [queued, exceeds, deadLetter, recordBrokerPermitConsumed, recordDispatchUnit]
    · simp [exceeds, deadLetter, recordBrokerPermitConsumed, recordDispatchUnit]
    · show c.unackedTracker = _
      simp only [queued, exceeds, Bool.not_true, Bool.false_eq_true, not_false_eq_true,
        List.filter_cons_of_neg, List.filter_nil]
      cases c.unackedTracker <;> rfl
  · rw [if_neg exceeds]
    refine ⟨?_, ?_, ?_, rfl, rfl⟩
    · simp [queued, exceeds, enqueue, recordDispatchUnit]
    · simp [exceeds, enqueue, recordDispatchUnit]
    · have kept : c.queued [message] = [message] := by simp [queued, exceeds]
      rw [kept]
      rfl

/-! ### Chunks -/

theorem evictOldestOf_surfaces (now : Nat) (order : List String) :
    c.Surfaces now [] (c.evictOldestOf order) := by
  induction order with
  | nil => exact Surfaces.nothing rfl rfl rfl rfl rfl
  | cons _ _ ih =>
    unfold evictOldestOf
    split
    · exact ih
    · exact Surfaces.nothing rfl rfl rfl rfl rfl

theorem openChunkBuffer_surfaces (d : Dispatch) (total chunkId : Int) :
    c.Surfaces d.now [] (c.openChunkBuffer d total chunkId).1 := by
  unfold openChunkBuffer
  extract_lets opened kept
  have opens : c.Surfaces d.now [] opened := Surfaces.nothing rfl rfl rfl rfl rfl
  have keeps : c.Surfaces d.now [] kept := by
    change c.Surfaces d.now [] (if _ then _ else _)
    split
    · exact opens.trans (evictOldestOf_surfaces opened d.now _)
    · exact opens
  split
  · exact keeps
  · exact keeps.trans (Surfaces.nothing rfl rfl rfl rfl rfl)

theorem bufferChunk_surfaces (d : Dispatch) (total chunkId : Int) :
    c.Surfaces d.now [] (c.bufferChunk d total chunkId).1 := by
  unfold bufferChunk
  split
  · exact Surfaces.nothing rfl rfl rfl rfl rfl
  split
  · exact Surfaces.nothing rfl rfl rfl rfl rfl
  split
  · split
    · exact Surfaces.nothing rfl rfl rfl rfl rfl
    · exact openChunkBuffer_surfaces c d total chunkId
  · unfold extendChunkBuffer
    split
    · exact Surfaces.nothing rfl rfl rfl rfl rfl
    · split <;> exact Surfaces.nothing rfl rfl rfl rfl rfl

theorem deliverChunk_surfaces (d : Dispatch) (total chunkId : Int) :
    c.Surfaces d.now (c.chunkMessages d total chunkId) (c.deliverChunk d total chunkId).1 := by
  have buffered := bufferChunk_surfaces c d total chunkId
  unfold deliverChunk chunkMessages
  generalize c.bufferChunk d total chunkId = result at buffered ⊢
  obtain ⟨kept, verdict⟩ := result
  cases verdict with
  | none => exact buffered
  | some entry =>
    dsimp only
    split
    · exact buffered.trans (Surfaces.nothing rfl rfl rfl rfl rfl)
    · have closes : kept.Surfaces d.now [] (kept.closeChunkBuffer d entry) :=
        Surfaces.nothing rfl rfl rfl rfl rfl
      exact buffered.trans (closes.trans (classifyAndQueue_surfaces _ (chunkedMessage d entry) d.now))

end

/-! ### Batches -/

theorem queueMembers_surfaces (metadata : MessageMetadata) (numInBatch : Int)
    (delivered : BatchAckEntry) (members : List (Nat × BatchMember)) (c : ConsumerState) :
    let messages := memberMessages d metadata numInBatch delivered members
    let result := queueMembers d metadata numInBatch delivered c members
    c.Surfaces d.now messages result.1 ∧ result.2 = messages.length := by
  induction members generalizing c with
  | nil => exact ⟨Surfaces.nothing rfl rfl rfl rfl rfl, rfl⟩
  | cons head _ ih =>
    obtain ⟨index, member⟩ := head
    unfold queueMembers
    by_cases listed : delivered.isUnacked index = true
    · rw [if_pos listed, memberMessages, List.filter_cons_of_pos (by exact listed), List.map_cons]
      have first := classifyAndQueue_surfaces c (batchMessage d metadata numInBatch index member)
        d.now
      exact ⟨first.trans (ih _).1, congrArg (· + 1) (ih _).2⟩
    · rw [if_neg listed, memberMessages, List.filter_cons_of_neg (by exact listed)]
      exact ih c

theorem recordUndecoded_surfaces (now undecoded : Nat) :
    c.Surfaces now [] (c.recordUndecoded undecoded) := by
  induction undecoded generalizing c with
  | zero => exact Surfaces.nothing rfl rfl rfl rfl rfl
  | succ _ ih =>
    have unit : c.Surfaces now [] c.recordDispatchUnit.recordBrokerPermitConsumed :=
      Surfaces.nothing rfl rfl rfl rfl rfl
    exact unit.trans (ih _)

theorem deliverBatch_surfaces (numInBatch : Int) :
    (c.trackBatchAcks d.messageId
        (BatchAckEntry.fromDeliveredAckSet numInBatch d.cmd.ackSet)).Surfaces d.now
      (batchMessages single codecs d numInBatch) (c.deliverBatch single codecs d numInBatch).1 := by
  unfold deliverBatch batchMessages
  exact (queueMembers_surfaces d _ numInBatch _ _ _).1.after_nothing
    (recordUndecoded_surfaces _ d.now _)

/-- The table of outstanding positions once the dispatch is merged into it. -/
def dispatchedTable : AList (fun _ : Nat × Nat => BatchAckEntry) :=
  if c.closed || c.pendingSeek.isSome then c.batchAckTracker
  else
    match d.chunk? with
    | some _ => c.batchAckTracker
    | none =>
      match d.metadata.numMessagesInBatch with
      | some numInBatch =>
        (c.trackBatchAcks d.messageId
          (BatchAckEntry.fromDeliveredAckSet numInBatch d.cmd.ackSet)).batchAckTracker
      | none => c.batchAckTracker

theorem deliver_surfaces :
    { c with batchAckTracker := c.dispatchedTable d }.Surfaces d.now (c.surfaced single codecs d)
      (c.deliver single codecs d).1 := by
  unfold deliver surfaced dispatchedTable
  by_cases isClosed : c.closed = true
  · rw [if_pos isClosed, if_pos (by simp [isClosed]), if_pos (by simp [isClosed])]
    exact Surfaces.nothing rfl rfl rfl rfl rfl
  by_cases seeking : c.pendingSeek.isSome = true
  · rw [if_neg isClosed, if_pos seeking, if_pos (by simp [seeking]), if_pos (by simp [seeking])]
    exact Surfaces.nothing rfl rfl rfl rfl rfl
  rw [if_neg isClosed, if_neg seeking, if_neg (by simp [isClosed, seeking]),
    if_neg (by simp [isClosed, seeking])]
  unfold deliverShape
  cases d.chunk? with
  | some chunk => exact deliverChunk_surfaces c d chunk.1 chunk.2
  | none =>
    cases d.metadata.numMessagesInBatch with
    | some numInBatch => exact deliverBatch_surfaces single codecs c d numInBatch
    | none => exact classifyAndQueue_surfaces c (plainMessage d) d.now

/-! ### Announcing -/

/-- How many messages the connection announces for the outcome of a delivery. -/
def announcedCount : Except ConsumerError DeliverOutcome → Nat
  | .ok (.delivered count) => count
  | _ => 0

/-- The tail of the queue that the connection clones into events. -/
def announced (count : Nat) : List IncomingMessage :=
  c.queue.drop (c.queue.length - count)

theorem queued_congr {c c' : ConsumerState} (limit : c'.maxRedeliverCount = c.maxRedeliverCount)
    (messages : List IncomingMessage) : c'.queued messages = c.queued messages := by
  simp only [queued, deadLetters_congr limit]

theorem classifyAndQueue_announced (message : IncomingMessage) (now : Nat) :
    announcedCount (.ok (c.classifyAndQueue message message.redeliveryCount now).2) =
      (c.queued [message]).length := by
  rw [classifyAndQueue]
  split
  case isTrue exceeds => simp [queued, exceeds, announcedCount]
  case isFalse within => simp [queued, within, announcedCount]

theorem deliverChunk_announced (total chunkId : Int) :
    announcedCount (.ok (c.deliverChunk d total chunkId).2) =
      (c.queued (c.chunkMessages d total chunkId)).length := by
  have limit := (c.bufferChunk_surfaces d total chunkId).limit
  unfold deliverChunk chunkMessages
  generalize c.bufferChunk d total chunkId = result at limit ⊢
  obtain ⟨kept, verdict⟩ := result
  cases verdict with
  | none => rfl
  | some entry =>
    dsimp only
    split
    · rfl
    · rw [← queued_congr (show (kept.closeChunkBuffer d entry).maxRedeliverCount = _ from limit)]
      exact classifyAndQueue_announced _ (chunkedMessage d entry) d.now

/-- Members of a batch share the redelivery count of their entry, so they are queued together. -/
theorem queued_batchMessages (numInBatch : Int) :
    c.queued (batchMessages single codecs d numInBatch) =
      if c.deadLetters d.redelivery then [] else batchMessages single codecs d numInBatch := by
  have shared : ∀ message ∈ batchMessages single codecs d numInBatch,
      c.deadLetters message.redeliveryCount = c.deadLetters d.redelivery := by
    intro message member
    obtain ⟨_, _, rfl⟩ := List.mem_map.mp member
    rfl
  unfold queued
  split
  case isTrue dead =>
    apply List.filter_eq_nil_iff.mpr
    intro message member
    simp [shared message member, dead]
  case isFalse alive =>
    apply List.filter_eq_self.mpr
    intro message member
    simp [shared message member, alive]

/-- The connection announces exactly what the delivery appended to the queue. -/
def AnnouncesQueued : Prop :=
  ∃ appended, (c.deliver single codecs d).1.queue = c.queue ++ appended ∧
    announcedCount (c.deliver single codecs d).2 = appended.length ∧
    (c.deliver single codecs d).1.announced (announcedCount (c.deliver single codecs d).2) = appended

/-- A batch reaches the consumer, with a member to surface and above the dead-letter limit. -/
def DeadLettersBatch : Prop :=
  c.receives = true ∧ d.chunk? = none ∧
    (∃ numInBatch, d.metadata.numMessagesInBatch = some numInBatch ∧
      batchMessages single codecs d numInBatch ≠ []) ∧
    c.deadLetters d.redelivery = true

theorem announcesQueued_iff_count :
    c.AnnouncesQueued single codecs d ↔
      announcedCount (c.deliver single codecs d).2 =
        (c.queued (c.surfaced single codecs d)).length := by
  have queue : (c.deliver single codecs d).1.queue =
      c.queue ++ c.queued (c.surfaced single codecs d) :=
    (deliver_surfaces single codecs c d).queue
  constructor
  · rintro ⟨appended, appends, counted, -⟩
    rw [counted, List.append_cancel_left (appends.symm.trans queue)]
  · intro counted
    refine ⟨_, queue, counted, ?_⟩
    rw [announced, queue, counted, List.length_append, Nat.add_sub_cancel, List.drop_left]

/-- The connection announces exactly what a delivery appended to the queue, unless the delivery is
a batch whose members go to the dead letters. -/
theorem deliver_announces_queued :
    c.AnnouncesQueued single codecs d ↔ ¬ c.DeadLettersBatch single codecs d := by
  rw [announcesQueued_iff_count]
  by_cases receiving : c.receives = true
  · have states := receiving
    rw [receives, Bool.and_eq_true, Bool.not_eq_true', Bool.not_eq_true'] at states
    have outcome : (c.deliver single codecs d).2 = .ok (c.deliverShape single codecs d).2 := by
      rw [deliver, if_neg (by simp [states.1]), if_neg (by simp [states.2])]
    rw [outcome, DeadLettersBatch, and_iff_right receiving, surfaced,
      if_neg (by simp [states.1, states.2])]
    unfold deliverShape
    cases d.chunk? with
    | some chunk =>
      exact iff_of_true (c.deliverChunk_announced d chunk.1 chunk.2) fun batch => nomatch batch.1
    | none =>
      cases d.metadata.numMessagesInBatch with
      | some numInBatch =>
        have counted : announcedCount (.ok (c.deliverBatch single codecs d numInBatch).2) =
            (batchMessages single codecs d numInBatch).length :=
          (queueMembers_surfaces d _ numInBatch _ _ _).2
        simp only [counted, queued_batchMessages, true_and, Option.some.injEq, exists_eq_left']
        cases c.deadLetters d.redelivery <;> simp
      | none =>
        exact iff_of_true (c.classifyAndQueue_announced (plainMessage d) d.now)
          fun batch => nomatch batch.2.1
  · -- A closed or seeking consumer refuses the frame: nothing is queued and nothing announced.
    refine iff_of_true ?_ fun batch => receiving batch.1
    unfold deliver surfaced
    by_cases isClosed : c.closed = true
    · simp [isClosed, announcedCount, queued]
    · have seeking : c.pendingSeek.isSome = true := by
        simpa [receives, isClosed, Option.isSome_iff_ne_none] using receiving
      simp [isClosed, seeking, announcedCount, queued]

/-- The one member of a batch goes to the dead letters, and the connection announces an older
message once more. -/
theorem batch_announces_older_message :
    let older := plainMessage { cmd := default }
    let c := { withPolicy 0 "t" "s" (ReceiverQueue.fixed 10) none with
      maxRedeliverCount := 1
      queue := [older] }
    let delivery := c.deliver memberOfSize default
      { cmd := { (default : CommandMessage) with redeliveryCount := some 2 }
        metadata := { numMessagesInBatch := some 1 }
        body := [0, 0, 0, 2, 24, 1, 7] }
    delivery.1.queue = c.queue ∧ announcedCount delivery.2 = 1 ∧
      delivery.1.announced 1 = [older] := by
  decide

end ConsumerState

end Magnetar.Proto.Consumer
