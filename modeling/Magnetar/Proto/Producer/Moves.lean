import Magnetar.Proto.Producer.Pending

/-!
Contract: what the calls of `producer.rs` can do to a producer, said once.

Owns: the ways a send ends (rejected, joined to the batch, or staged in frames of its own, with the
flushes around it), and the calls that only take sends, frames or the open gate away.

Does not own: the content of the staged frames.
-/

namespace Magnetar.Proto.Producer

open Pb External

variable {msg : OutgoingMessage} {after before room : ProducerState}

/-- A send without the task that waits for it. -/
def OpSend.unparked (op : OpSend) : OpSend :=
  { op with waker := none }

namespace ProducerState

variable (single : Prost SingleMessageMetadata) (codecs : Codecs)

/-! ### Room for a message -/

section

variable (producer : ProducerState) (msg : OutgoingMessage) (publishTimeMs : Nat)

/-- The pending batch is in the way: it is under another transaction, or the message cannot join
it. -/
def flushesFirst : Bool :=
  !producer.batch.isEmpty &&
    (producer.batchingEnabled && !producer.batch.matchesTxn msg.txnId || !producer.canJoin msg)

def roomFor : ProducerState :=
  if producer.flushesFirst msg then { producer with batch := {} } else producer

theorem flushesFirst_filled {producer : ProducerState} {msg : OutgoingMessage}
    (first : producer.flushesFirst msg = true) : producer.batch.isEmpty = false := by
  simp only [flushesFirst, Bool.and_eq_true, Bool.not_eq_true'] at first
  exact first.1

theorem flushBatch_open (filled : producer.batch.isEmpty = false)
    (opened : producer.closed = false) :
    (producer.flushBatch single codecs publishTimeMs).2 =
      { producer with
        outbound := producer.outbound ++ [producer.batchFrame single codecs publishTimeMs]
        batch := {} } := by
  simp [flushBatch, filled, opened]

/-- A batch is flushed at most once before a send. -/
theorem makeRoom_eq (opened : producer.closed = false) (msg : OutgoingMessage)
    (publishTimeMs : Nat) :
    producer.makeRoom single codecs msg publishTimeMs =
      if producer.flushesFirst msg then
        ((producer.roomFor msg).canJoin msg, (producer.flushBatch single codecs publishTimeMs).2)
      else ((producer.roomFor msg).canJoin msg, producer) := by
  unfold makeRoom roomFor flushesFirst
  cases filled : producer.batch.isEmpty with
  | true => simp [filled]
  | false =>
    have flushed := flushBatch_open single codecs producer publishTimeMs filled opened
    have empty : (producer.flushBatch single codecs publishTimeMs).2.batch.isEmpty = true := by
      rw [flushed]
      rfl
    have same : (producer.flushBatch single codecs publishTimeMs).2.canJoin msg =
        { producer with batch := {} }.canJoin msg := by
      rw [flushed]
      rfl
    cases foreign : producer.batchingEnabled && !producer.batch.matchesTxn msg.txnId with
    | true => simp [foreign, empty, same]
    | false => cases joins : producer.canJoin msg <;> simp [foreign, joins, filled, same]

end

/-! ### Sends -/

inductive Encodes (room : ProducerState) (msg : OutgoingMessage) : List OutboundFrame → Prop
  | single (publishTimeMs : Nat) :
      Encodes room msg [room.singleFrame (room.compressUnbatched codecs msg) publishTimeMs]
  | chunked (uuid : String) (publishTimeMs : Nat) :
      Encodes room msg
        ((List.range (computeTotalChunks (room.compressUnbatched codecs msg).payload.length
          room.maxChunkPayload)).map
            (room.chunkFrame (room.compressUnbatched codecs msg) uuid publishTimeMs))

/-- Where an accepted message goes: into the batch, or out in frames once no batch is left. -/
inductive Placed (room : ProducerState) (msg : OutgoingMessage) :
    BatchContainer → List OutboundFrame → Prop
  | joined (joins : room.canJoin msg = true) (now : Nat) :
      Placed room msg (withMember room.batch msg room.nextSequenceId now) []
  | framed (apart : room.canJoin msg = false) (clear : room.batch.isEmpty = true)
      {frames : List OutboundFrame} (encoded : Encodes codecs room msg frames) :
      Placed room msg room.batch frames

/-- The producer once a message is placed: it takes the next id and a pending send at the back. -/
structure Accepts (room : ProducerState) (msg : OutgoingMessage) (op : OpSend)
    (batch : BatchContainer) (after : ProducerState) : Prop where
  id : op.sequenceId = room.nextSequenceId
  placed : Placed codecs room msg batch op.replayFrames
  after_eq : after =
    { room.takeSequenceId.2 with
      outbound := room.outbound ++ op.replayFrames
      batch := batch }.pushPending op

namespace Accepts

variable {codecs} {room after : ProducerState} {msg : OutgoingMessage} {op : OpSend}
  {batch : BatchContainer}

section

variable (accepts : Accepts codecs room msg op batch after)

include accepts

theorem pending_eq : after.pending = room.pending ++ [op] := by
  rw [accepts.after_eq]
  rfl

theorem pendingIds_eq : after.pendingIds = room.pendingIds ++ [room.nextSequenceId] := by
  rw [pendingIds, accepts.pending_eq, List.map_append, List.map_singleton, accepts.id, pendingIds]

theorem outbound_eq : after.outbound = room.outbound ++ op.replayFrames := by
  rw [accepts.after_eq]
  rfl

theorem batch_eq : after.batch = batch := by
  rw [accepts.after_eq]
  rfl

theorem brokerReady_eq : after.brokerReady = room.brokerReady := by
  rw [accepts.after_eq]
  rfl

theorem nextSequenceId_eq (bounded : room.nextSequenceId + 1 < 2 ^ 64) :
    after.nextSequenceId = room.nextSequenceId + 1 := by
  rw [accepts.after_eq]
  exact Nat.mod_eq_of_lt bounded

end

end Accepts

/-- The producer itself, or the producer with its batch flushed. -/
def MaybeFlushed (before after : ProducerState) : Prop :=
  after = before ∨ ∃ publishTimeMs, after = (before.flushBatch single codecs publishTimeMs).2

theorem emitSingle_accepts (apart : room.canJoin msg = false) (clear : room.batch.isEmpty = true)
    (reservation publishTimeMs now : Nat) :
    ∃ op, Accepts codecs room msg op room.batch
      (room.emitSingle (room.compressUnbatched codecs msg) reservation publishTimeMs now).2 :=
  ⟨_, rfl, .framed apart clear (.single publishTimeMs), rfl⟩

theorem emitChunked_accepts
    (apart : room.canJoin msg = false) (clear : room.batch.isEmpty = true) (uuid : String)
    (reservation publishTimeMs now : Nat) :
    ∃ op, Accepts codecs room msg op room.batch
      (room.emitChunked (room.compressUnbatched codecs msg) uuid reservation publishTimeMs
        now).2 :=
  ⟨_, rfl, .framed apart clear (.chunked uuid publishTimeMs), rfl⟩

theorem addToBatch_accepts (joins : room.canJoin msg = true) (reservation now : Nat) :
    ∃ op, Accepts codecs room msg op (withMember room.batch msg room.nextSequenceId now)
      (room.addToBatch msg reservation now).2 := by
  let op : OpSend :=
    { sequenceId := room.nextSequenceId
      numMessages := 1
      waker := none
      receipt := none
      enqueuedAt := now
      replayFrames := []
      reservation }
  refine ⟨op, rfl, .joined joins now, ?_⟩
  rw [List.append_nil]
  rfl

theorem flushBatchIfFull_maybe (producer : ProducerState) (publishTimeMs : Nat) :
    MaybeFlushed single codecs producer
      (producer.flushBatchIfFull single codecs publishTimeMs) := by
  unfold flushBatchIfFull
  split
  · exact .inl rfl
  · dsimp only
    split
    · exact .inr ⟨publishTimeMs, rfl⟩
    · exact .inl rfl

/-- What is left in front of a message: a batch it can join, or none. -/
theorem makeRoom_leaves (producer : ProducerState) (opened : producer.closed = false)
    (msg : OutgoingMessage) (publishTimeMs : Nat) :
    ∃ room, MaybeFlushed single codecs producer room ∧
      producer.makeRoom single codecs msg publishTimeMs = (room.canJoin msg, room) ∧
      (room.canJoin msg = false → room.batch.isEmpty = true) := by
  rw [makeRoom_eq single codecs producer opened]
  by_cases first : producer.flushesFirst msg = true
  · have flushed := flushBatch_open single codecs producer publishTimeMs
      (flushesFirst_filled first) opened
    have joins : (producer.roomFor msg).canJoin msg =
        (producer.flushBatch single codecs publishTimeMs).2.canJoin msg := by
      rw [roomFor, if_pos first, flushed]
      rfl
    rw [if_pos first]
    refine ⟨_, .inr ⟨publishTimeMs, rfl⟩, by rw [joins], ?_⟩
    intro _
    rw [flushed]
    rfl
  · rw [if_neg first, roomFor, if_neg first]
    refine ⟨producer, .inl rfl, rfl, ?_⟩
    intro apart
    simp only [flushesFirst, apart] at first
    simpa using first

inductive Sends (producer : ProducerState) (msg : OutgoingMessage) :
    Except ProducerError SendDecision → ProducerState → Prop
  | rejected {error : ProducerError} {after : ProducerState}
      (flushed : MaybeFlushed single codecs producer after) :
      Sends producer msg (.error error) after
  | accepted {decision : SendDecision} {room accepted after : ProducerState} {op : OpSend}
      {batch : BatchContainer}
      (opened : producer.closed = false)
      (flushed : MaybeFlushed single codecs producer room)
      (accepts : Accepts codecs room msg op batch accepted)
      (filled : MaybeFlushed single codecs accepted after) :
      Sends producer msg (.ok decision) after

/-- A placed message and the flush it may set off. -/
theorem joinBatch_sends {producer : ProducerState}
    (opened : producer.closed = false) (flushed : MaybeFlushed single codecs producer room)
    (joins : room.canJoin msg = true) (reservation publishTimeMs now : Nat) :
    Sends single codecs producer msg
      (.ok (room.joinBatch single codecs msg reservation publishTimeMs now).1)
      (room.joinBatch single codecs msg reservation publishTimeMs now).2 := by
  obtain ⟨op, accepts⟩ := addToBatch_accepts codecs joins reservation now
  exact .accepted opened flushed accepts (flushBatchIfFull_maybe single codecs _ publishTimeMs)

theorem queueSendReserved_sends (producer : ProducerState) (msg : OutgoingMessage) (uuid : String)
    (reservation publishTimeMs now : Nat) :
    Sends single codecs producer msg
      (producer.queueSendReserved single codecs msg uuid reservation publishTimeMs now).1
      (producer.queueSendReserved single codecs msg uuid reservation publishTimeMs now).2.2 := by
  unfold queueSendReserved
  cases opened : producer.closed with
  | true =>
    rw [if_pos rfl]
    exact .rejected (.inl rfl)
  | false =>
    obtain ⟨room, flushed, made, clear⟩ :=
      makeRoom_leaves single codecs producer opened msg publishTimeMs
    rw [if_neg (by decide), made]
    simp only [offer]
    cases joins : room.canJoin msg with
    | true =>
      simp only [if_true]
      split
      · split
        · exact .rejected flushed
        · exact joinBatch_sends single codecs opened flushed joins reservation publishTimeMs now
      · exact joinBatch_sends single codecs opened flushed joins reservation publishTimeMs now
    | false =>
      obtain ⟨op, alone⟩ := emitSingle_accepts codecs joins (clear joins) reservation
        publishTimeMs now
      obtain ⟨op', pieces⟩ := emitChunked_accepts codecs joins (clear joins) uuid reservation
        publishTimeMs now
      simp only [Bool.false_eq_true, if_false]
      split
      · split
        · exact .rejected flushed
        · exact .accepted opened flushed pieces (.inl rfl)
      · exact .accepted opened flushed alone (.inl rfl)

theorem offer_reserved (room : ProducerState) (canBatch : Bool) (msg : OutgoingMessage)
    (uuid : String) (reservation publishTimeMs now : Nat) :
    let result := room.offer single codecs canBatch msg uuid reservation publishTimeMs now
    (∃ error, result = (.error error, reservation, room)) ∨
      ∃ decision after op, result = (.ok decision, 0, after) ∧
        after.pending = room.pending ++ [op] ∧ op.reservation = reservation := by
  have joined : (room.joinBatch single codecs msg reservation publishTimeMs now).2.pending =
      (room.addToBatch msg reservation now).2.pending := by
    rcases flushBatchIfFull_maybe single codecs (room.addToBatch msg reservation now).2
      publishTimeMs with same | ⟨_, flushed⟩
    · exact congrArg pending same
    · refine (congrArg pending flushed).trans ?_
      unfold flushBatch
      split <;> rfl
  simp only [offer]
  cases canBatch with
  | true =>
    simp only [if_true]
    split
    · split
      · exact .inl ⟨_, rfl⟩
      · exact .inr ⟨_, _, _, rfl, joined, rfl⟩
    · exact .inr ⟨_, _, _, rfl, joined, rfl⟩
  | false =>
    simp only [Bool.false_eq_true, if_false]
    split
    · split
      · exact .inl ⟨_, rfl⟩
      · exact .inr ⟨_, _, _, rfl, rfl, by rfl⟩
    · exact .inr ⟨_, _, _, rfl, rfl, by rfl⟩

/-- A send that is refused leaves the reservation with its caller and the producer as it was, but
for the pending batch, which may have been flushed.  One that is taken adds one pending send, and
the reservation moves into it. -/
theorem rejected_send_leaves_no_trace (producer : ProducerState) (msg : OutgoingMessage)
    (uuid : String) (reservation publishTimeMs now : Nat) :
    match producer.queueSendReserved single codecs msg uuid reservation publishTimeMs now with
    | (.error _, left, after) => left = reservation ∧
        (after = producer ∨ producer.batch.isEmpty = false ∧ after =
          { producer with
            outbound := producer.outbound ++ [producer.batchFrame single codecs publishTimeMs]
            batch := {} })
    | (.ok _, left, after) => left = 0 ∧
        ∃ op, after.pending = producer.pending ++ [op] ∧ op.reservation = reservation := by
  unfold queueSendReserved
  by_cases shut : producer.closed = true
  · rw [if_pos shut]
    exact ⟨rfl, .inl rfl⟩
  · have opened := Bool.eq_false_iff.2 shut
    rw [if_neg shut, makeRoom_eq single codecs producer opened]
    by_cases first : producer.flushesFirst msg = true
    · have filled := flushesFirst_filled first
      have flushed := flushBatch_open single codecs producer publishTimeMs filled opened
      rw [if_pos first]
      dsimp only
      rcases offer_reserved single codecs (producer.flushBatch single codecs publishTimeMs).2
        ((producer.roomFor msg).canJoin msg) msg uuid reservation publishTimeMs now with
        ⟨error, refused⟩ | ⟨decision, after, op, taken, added, owns⟩
      · rw [refused]
        exact ⟨rfl, .inr ⟨filled, flushed⟩⟩
      · rw [taken]
        rw [flushed] at added
        exact ⟨rfl, op, added, owns⟩
    · rw [if_neg first]
      dsimp only
      rcases offer_reserved single codecs producer ((producer.roomFor msg).canJoin msg) msg uuid
        reservation publishTimeMs now with ⟨error, refused⟩ | ⟨decision, after, op, taken, owns⟩
      · rw [refused]
        exact ⟨rfl, .inl rfl⟩
      · rw [taken]
        exact ⟨rfl, op, owns⟩

/-! ### Calls that only take away -/

/-- A call that takes pending sends away, and possibly every frame with the batch, and that may
close the producer or shut its gate. -/
structure Reduces (before after : ProducerState) : Prop where
  pending : (after.pending.map OpSend.unparked).Sublist (before.pending.map OpSend.unparked)
  frames : after.outbound = before.outbound ∧ after.batch = before.batch ∨
    after.outbound = [] ∧ after.batch = {}
  closed : before.closed = true → after.closed = true
  gate : after.brokerReady = true → before.brokerReady = true
  indexed : before.Indexed → after.Indexed
  rest : after =
    { before with
      pending := after.pending
      pendingIndex := after.pendingIndex
      lastSequenceIdPublished := after.lastSequenceIdPublished
      outbound := after.outbound
      batch := after.batch
      closed := after.closed
      brokerReady := after.brokerReady }

theorem Reduces.refl (producer : ProducerState) : Reduces producer producer :=
  ⟨List.Sublist.refl _, .inl ⟨rfl, rfl⟩, id, id, id, rfl⟩

theorem Reduces.pendingIds (reduces : Reduces before after) :
    after.pendingIds.Sublist before.pendingIds := by
  have ids (ops : List OpSend) :
      ops.map (·.sequenceId) = (ops.map OpSend.unparked).map (·.sequenceId) := by
    rw [List.map_map]
    rfl
  rw [ProducerState.pendingIds, ProducerState.pendingIds, ids, ids before.pending]
  exact reduces.pending.map _

theorem Reduces.mem_pending (reduces : Reduces before after)
    {op : OpSend} (member : op ∈ after.pending) :
    ∃ old ∈ before.pending, op.sequenceId = old.sequenceId ∧ op.replayFrames = old.replayFrames := by
  have inside := reduces.pending.subset (List.mem_map_of_mem member)
  obtain ⟨old, inBefore, same⟩ := List.mem_map.mp inside
  have id : old.unparked.sequenceId = op.unparked.sequenceId := by rw [same]
  have frames : old.unparked.replayFrames = op.unparked.replayFrames := by rw [same]
  exact ⟨old, inBefore, id.symm, frames.symm⟩

theorem Shrinks.reduces (shrinks : Shrinks before after)
    (indexed : before.Indexed → after.Indexed) : Reduces before after := by
  obtain ⟨fewer, index, published, same⟩ := shrinks
  rw [same] at indexed ⊢
  exact ⟨fewer.map _, .inl ⟨rfl, rfl⟩, id, id, indexed, rfl⟩

section

variable (producer : ProducerState)

theorem handleSendReceipt_reduces (receipt : CommandSendReceipt) :
    Reduces producer (producer.handleSendReceipt receipt).2 :=
  (producer.handleSendReceipt_shrinks receipt).reduces fun indexed =>
    (handleSendReceipt_acknowledges indexed receipt).indexed

theorem applySendError_reduces (err : CommandSendError) :
    Reduces producer (producer.applySendError err).2 := by
  refine (producer.applySendError_shrinks err).reduces ?_
  intro indexed
  cases found : producer.findPending err.sequenceId with
  | none =>
    rw [applySendError_none indexed found]
    exact indexed
  | some =>
    obtain ⟨index, taken, keys⟩ := applySendError_some indexed found
    rw [taken]
    exact indexed.remove rfl keys

theorem applySendError_published (err : CommandSendError) :
    (producer.applySendError err).2.lastSequenceIdPublished = producer.lastSequenceIdPublished := by
  have kept : (producer.removePending err.sequenceId).2.lastSequenceIdPublished =
      producer.lastSequenceIdPublished := by
    unfold removePending
    split
    · rfl
    · dsimp only
      split <;> rfl
  unfold applySendError
  split <;> simp_all

theorem drainTimedOutSends_reduces (now : Nat) :
    Reduces producer (producer.drainTimedOutSends now).2 :=
  (producer.drainTimedOutSends_shrinks now).reduces fun indexed =>
    drainTimedOutSends_indexed indexed now

theorem drainTimedOutSends_published (now : Nat) :
    (producer.drainTimedOutSends now).2.lastSequenceIdPublished =
      producer.lastSequenceIdPublished := by
  unfold drainTimedOutSends
  split <;> rfl

theorem setWaker_reduces (seq : Nat) (waker : Option Nat) :
    Reduces producer (producer.setWaker seq waker).2 := by
  have plan := producer.setWaker_plan seq waker OpSend.unparked fun _ _ => rfl
  have ids := producer.setWaker_plan seq waker (·.sequenceId) fun _ _ => rfl
  rw [producer.setWaker_rest]
  exact ⟨plan ▸ List.Sublist.refl _, .inl ⟨rfl, rfl⟩, id, id,
    fun indexed => indexed.congr ids rfl, rfl⟩

theorem setWaker_published (seq : Nat) (waker : Option Nat) :
    (producer.setWaker seq waker).2.lastSequenceIdPublished =
      producer.lastSequenceIdPublished := by
  rw [setWaker_rest]

theorem close_reduces : Reduces producer producer.close :=
  ⟨List.Sublist.refl _, .inl ⟨rfl, rfl⟩, fun _ => rfl, id,
    fun indexed => indexed.congr rfl rfl, rfl⟩

theorem shut_reduces : Reduces producer { producer with brokerReady := false } :=
  ⟨List.Sublist.refl _, .inl ⟨rfl, rfl⟩, id, by simp,
    fun indexed => indexed.congr rfl rfl, rfl⟩

end

theorem drainPendingSends_reduces
    (closing : Reduces before after) : Reduces before after.drainPendingSends.2 := by
  refine ⟨List.nil_sublist _, .inr ⟨rfl, rfl⟩, closing.closed, closing.gate,
    fun indexed => drainPendingSends_indexed (closing.indexed indexed), ?_⟩
  have rest := closing.rest
  rw [rest]
  rfl

end ProducerState

end Magnetar.Proto.Producer
