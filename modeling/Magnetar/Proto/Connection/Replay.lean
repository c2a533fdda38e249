import Magnetar.Proto.Connection.Frames
import Magnetar.Proto.Connection.Order

/-!
Contract: what an attach makes of the sends that were pending before it.

Owns: the answer to an open, the re-attach in place after a broker close and the sends it strands,
and the replay after resets: what was pending is set aside, waits behind everything accepted later,
and is staged again with its frames when the broker attaches the producer.

Does not own: sends that are settled meanwhile.
-/

namespace Magnetar.Proto.Connection

open Library.Machine Pb External Producer ProducerEntry ProducerSide

variable {single : Prost SingleMessageMetadata} {codecs : Codecs}

variable {first handle : Nat} {entry : ProducerEntry} {record : ProducerRecord}
  {side : ProducerSide}

/-! ### The answer to an open -/

/-- The broker answers the current open of a handle. -/
structure Answers (side : ProducerSide) (handle requestId : Nat) : Prop where
  pending : ∃ enqueuedAt,
    side.pendingRequests.lookup requestId = some (.producerOpen handle enqueuedAt)
  current : (side.entries handle).openIsCurrent requestId = true

variable (single codecs) in
/-- The producer is attached, and what it has staged may be released at once. -/
theorem Answers.step {requestId : Nat}
    (answers : Answers side handle requestId) (now : Nat) (producerName : String)
    (lastSequenceId : Option Int) :
    let after := (side.step single codecs
      (.frame now (.producerSuccess requestId producerName lastSequenceId))).entries handle
    after = (side.entries handle).attach producerName lastSequenceId ∨
      after = ((side.entries handle).attach producerName lastSequenceId).drainOutbound := by
  intro after
  obtain ⟨enqueuedAt, pending⟩ := answers.pending
  have simulates : after = run (entryStep single codecs) (side.entries handle)
      ([.attach producerName lastSequenceId] ++ side.drainOps) := by
    have ops : side.entryOps single codecs handle
        (.frame now (.producerSuccess requestId producerName lastSequenceId)) =
          [.attach producerName lastSequenceId] ++ side.drainOps := by
      simp only [entryOps, frameOps, successOps, pending, answers.current, if_true, onlyAt]
      rfl
    rw [← ops]
    exact step_simulates side _ handle
  rw [simulates, drainOps]
  split
  · exact .inr rfl
  · exact .inl rfl

/-! ### Re-attaching in place -/

variable (entry)

def ProducerEntry.containerIds : List Nat :=
  (entry.slot.map (·.state.batch.ids)).getD []

/-- All frames of the send are staged, once, or it is in the batch container, or settled. -/
def ProducerEntry.Covers (op : OpSend) : Prop :=
  Whole (carrying op.sequenceId entry.staging) ∧
      (op.replayFrames ≠ [] → carrying op.sequenceId entry.staging = op.replayFrames) ∨
    op.sequenceId ∈ entry.containerIds ∨
    op.sequenceId ∈ resolvedIds entry.log ∧ op.sequenceId ∉ entry.unsettledIds

theorem drainOutbound_covers (op : OpSend) : entry.drainOutbound.Covers op ↔ entry.Covers op := by
  have container : entry.drainOutbound.containerIds = entry.containerIds := by
    rcases entry.drainOutbound_cases with same | ⟨record, found, ready⟩
    · rw [same]
    · rw [drainOutbound_eq found ready, containerIds, containerIds, found]
      rfl
  rw [Covers, drainOutbound_staging, container, drainOutbound_log, drainOutbound_unsettledIds,
    Covers]

variable {entry}

variable {op : OpSend}

section Attach

variable {before after : ProducerEntry} {record record' : ProducerRecord}
  {lastSequenceId : Option Int}

section

variable (layout : Layout before) (slot : before.slot = some record)
  (attached : Attached before record lastSequenceId after record')

include layout slot attached

/-- A frame staged by an attach that carries a send without frames was staged before. -/
theorem ProducerEntry.Attached.staged_before (pending : op ∈ record.state.pending)
    (unframed : op.replayFrames = [])
    (member : op.sequenceId ∈ record'.state.outbound.flatMap OutboundFrame.ids) :
    op.sequenceId ∈ record.state.outbound.flatMap OutboundFrame.ids := by
  obtain ⟨earlier, members, staged, minted, stagedLayout⟩ := layout.slot record slot
  rw [attached.outbound_eq stagedLayout, List.flatten_append, ← stagedLayout.outbound,
    List.flatMap_append, List.mem_append] at member
  refine member.resolve_left ?_
  intro replayed
  obtain ⟨frame, inFrames, inside⟩ := List.mem_flatMap.mp replayed
  obtain ⟨other, among, inBlock, sameId⟩ :=
    replayFrames_ids (fun other among _ => (stagedLayout.of_replays among).1) inFrames inside
  have known : other ∈ before.snapshots ++ record.state.pending := by
    rcases List.mem_append.mp among with aside | fresh
    · exact List.mem_append_left _ aside
    · exact List.mem_append_right _ (List.mem_filter.mp (List.mem_filter.mp fresh).1).1
  have same : op = other := List.inj_on_of_nodup_map minted.unsettled_nodup
    (List.mem_append_right _ pending) known sameId.symm
  rw [← same, unframed] at inBlock
  exact List.not_mem_nil inBlock

/-- An attach covers every pending send exactly when each one without frames of its own was staged
or in the container. -/
theorem ProducerEntry.Attached.covers_iff :
    (∀ op ∈ record.state.pending, after.Covers op) ↔
      ∀ op ∈ record.state.pending, op.replayFrames = [] →
        op.sequenceId ∈ stagedIds record.state := by
  have staging := attached.staging_eq layout
  have layout' := layout.attach slot attached
  obtain ⟨name, index, state⟩ := attached.state
  have container : after.containerIds = record.state.batch.ids := by
    rw [containerIds, attached.slot, Option.map_some, Option.getD_some, state]
  have outbound : record'.state.outbound = before.snapshots.flatMap (·.replayFrames) ++
      ((unstaged record.state).flatMap (·.replayFrames) ++ record.state.outbound) := by rw [state]
  constructor
  · intro covers op pending unframed
    rcases covers op pending with ⟨whole, -⟩ | contained | ⟨-, settled⟩
    · obtain ⟨frame, inside⟩ := List.exists_mem_of_ne_nil _ whole.1
      obtain ⟨there, carries⟩ := List.mem_filter.mp inside
      rw [staging] at there
      refine List.mem_append_left _ (attached.staged_before layout slot pending unframed ?_)
      exact List.mem_flatMap.mpr ⟨frame, there, List.contains_iff_mem.mp carries⟩
    · rw [container] at contained
      exact List.mem_append_right _ contained
    · refine absurd ?_ settled
      rw [unsettledIds_of_some attached.slot, ProducerState.pendingIds, state]
      exact List.mem_append_right _ (List.mem_map_of_mem (List.mem_append_right _ pending))
  · intro staged op pending
    by_cases framed : op.replayFrames = []
    · rcases List.mem_append.mp (staged op pending framed) with inOutbound | contained
      · left
        rw [staging]
        refine ⟨layout'.carrying_whole attached.slot ?_, fun filled => absurd framed filled⟩
        rw [outbound, List.flatMap_append, List.flatMap_append]
        exact List.mem_append_right _ (List.mem_append_right _ inOutbound)
      · right; left
        rw [container]
        exact contained
    · obtain ⟨carried, whole⟩ :=
        attached.carrying_eq layout slot (List.mem_append_right _ pending) framed
      left
      rw [staging, carried]
      exact ⟨whole, fun _ => rfl⟩

end

end Attach

theorem drainOutbound_shut
    (shut : ∀ record, entry.slot = some record → record.state.brokerReady = false) :
    entry.drainOutbound = entry := by
  rcases entry.drainOutbound_cases with same | ⟨record, found, ready⟩
  · exact same
  · rw [shut record found] at ready
    cases ready

theorem drainProducerOutbound_requests (side : ProducerSide) :
    side.drainProducerOutbound.pendingRequests = side.pendingRequests := by
  unfold drainProducerOutbound
  split <;> rfl

/-- A broker close of a producer that may be re-attached shuts its gate and opens it again. -/
theorem closeProducer_reopens
    (eligible : (side.entries handle).reattachInPlaceIsEligible = true) (now : Nat) :
    let closed := side.step single codecs (.frame now (.closeProducer handle))
    closed.entries handle = (side.entries handle).shutGate.openEmitted side.nextRequestId ∧
      Answers closed handle side.nextRequestId := by
  intro closed
  let awake : ProducerSide := { side with lastActivity := some now }
  let emitted : ProducerSide :=
    (awake.modifyEntry handle ProducerEntry.shutGate).emitCommandProducer handle
  have result : closed = emitted.drainProducerOutbound := by
    have mayReattach : (awake.entries handle).reattachInPlaceIsEligible = true := eligible
    change (awake.handleCloseProducer handle).drainProducerOutbound = _
    rw [handleCloseProducer_eligible mayReattach]
  let reopened : ProducerEntry := (side.entries handle).shutGate.openEmitted side.nextRequestId
  have opened : emitted.entries handle = reopened := by
    simp [emitted, emitCommandProducer, ProducerSide.modifyEntry, request, awake, reopened]
  have still : reopened.drainOutbound = reopened := by
    apply drainOutbound_shut
    intro record there
    simp only [reopened, openEmitted, shutGate, modifyState, modifyRecord, Option.map_map] at there
    obtain ⟨found, -, rfl⟩ := Option.map_eq_some_iff.mp there
    rfl
  have entry : closed.entries handle = reopened := by
    rw [result, drainProducerOutbound]
    split
    · change (emitted.entries handle).drainOutbound = _
      rw [opened, still]
    · exact opened
  refine ⟨entry, ⟨some now, ?_⟩, ?_⟩
  · rw [result, drainProducerOutbound_requests]
    exact AList.lookup_insert _
  · simp only [reattachInPlaceIsEligible, Bool.and_eq_true, Option.any_eq_true] at eligible
    obtain ⟨-, record, found, -⟩ := eligible
    rw [entry]
    simp [reopened, openIsCurrent, openEmitted, shutGate, modifyState, modifyRecord, found]

theorem reattach_covers
    (layout : Layout (side.entries handle)) (slot : (side.entries handle).slot = some record)
    (eligible : (side.entries handle).reattachInPlaceIsEligible = true)
    (now later : Nat) (producerName : String) (lastSequenceId : Option Int) :
    let after := (run (step single codecs) side [.frame now (.closeProducer handle),
      .frame later (.producerSuccess side.nextRequestId producerName lastSequenceId)]).entries handle
    (∀ op ∈ record.state.pending, after.Covers op) ↔
      ∀ op ∈ record.state.pending, op.replayFrames = [] →
        op.sequenceId ∈ stagedIds record.state := by
  intro after
  let closed := side.step single codecs (.frame now (.closeProducer handle))
  obtain ⟨entry, answers⟩ : closed.entries handle =
      (side.entries handle).shutGate.openEmitted side.nextRequestId ∧
        Answers closed handle side.nextRequestId := closeProducer_reopens eligible now
  let reopened : ProducerRecord :=
    { record with
      state := { record.state with brokerReady := false }
      openRequestId := some side.nextRequestId }
  have slot' : (closed.entries handle).slot = some reopened := by
    rw [entry]
    simp [openEmitted, shutGate, modifyState, modifyRecord, slot, reopened]
  have layout' : Layout (closed.entries handle) := by
    have reduces : record.state.Reduces reopened.state := record.state.shut_reduces
    have keeps : Keeps (side.entries handle) (closed.entries handle) := by
      rw [entry]
      exact .silent (List.Sublist.refl _) rfl rfl
    exact layout.reduce slot slot' reduces keeps
  obtain ⟨record', attached⟩ := attach_attached slot' producerName lastSequenceId
  have covers := attached.covers_iff layout' slot'
  have answered : after = (closed.entries handle).attach producerName lastSequenceId ∨
      after = ((closed.entries handle).attach producerName lastSequenceId).drainOutbound :=
    answers.step single codecs later producerName lastSequenceId
  rcases answered with same | same
  · rw [same]
    exact covers
  · rw [same]
    simp only [drainOutbound_covers]
    exact covers

section InPlace

variable (single codecs)

/-- After a broker close on a live connection and the re-attach it sets off, every pending send is
staged whole and once, in the batch container or settled, exactly when every one without frames of
its own was still staged or in the container. -/
theorem reattach_covers_iff_batches_staged (config : ProducerConfig) (handle : Nat) (ops : List Op)
    (fits : Guarded (step single codecs) (fun side op => side.countersFit handle op = true)
      (start config) ops) (record : ProducerRecord)
    (slot : ((run (step single codecs) (start config) ops).entries handle).slot = some record)
    (eligible : ((run (step single codecs) (start config) ops).entries
      handle).reattachInPlaceIsEligible = true)
    (now later : Nat) (producerName : String) (lastSequenceId : Option Int) :
    let side := run (step single codecs) (start config) ops
    let after := (run (step single codecs) side [.frame now (.closeProducer handle),
      .frame later (.producerSuccess side.nextRequestId producerName lastSequenceId)]).entries handle
    (∀ op ∈ record.state.pending, after.Covers op) ↔
      ∀ op ∈ record.state.pending, op.replayFrames = [] →
        op.sequenceId ∈ stagedIds record.state :=
  reattach_covers (run_layout single codecs config fits) slot eligible now later producerName
    lastSequenceId

private def smallBatches : CreateProducerRequest :=
  { plainOpen with enableBatching := true, maxBatchSizeBytes := 4 }

/-- A large message is handed over, then a small one waits in the container. -/
private def largeThenSmall : List Op :=
  opening smallBatches none ++ [sending [1, 2, 3, 4, 5], .pollTransmit, sending []]

theorem reattach_covers_large_and_small :
    let side := run (step default default) (start {}) largeThenSmall
    ∃ record, (side.entries 0).slot = some record ∧ record.state.pendingIds = [0, 1] ∧
      ∀ op ∈ record.state.pending, ((run (step default default) side
        [.frame 1 (.closeProducer 0), .frame 1 (.producerSuccess 1 "p" none)]).entries 0).Covers op := by
  intro side
  obtain ⟨record, slot⟩ : ∃ record, (side.entries 0).slot = some record :=
    Option.isSome_iff_exists.mp (by decide +kernel)
  have pending : (side.entries 0).slot.map (·.state.pendingIds) = some [0, 1] := by decide +kernel
  have staged : ((side.entries 0).slot.all fun record => record.state.pending.all fun op =>
      !op.replayFrames.isEmpty || (stagedIds record.state).contains op.sequenceId) = true := by
    decide +kernel
  rw [slot] at pending staged
  refine ⟨record, slot, Option.some.inj pending, ?_⟩
  refine (reattach_covers_iff_batches_staged default default {} 0 largeThenSmall (by decide +kernel)
    record slot (by decide +kernel) 1 1 "p" none).mpr ?_
  intro op member unframed
  simpa [unframed] using List.all_eq_true.mp staged op member

/-- Two sends whose batch frame was handed over before the broker closed the producer are neither
staged again nor settled. -/
theorem reattach_strands_handed_batch :
    let after := (run (step default default) (start {}) (opening smallBatches none ++
      [sending [], sending [], .pollTransmit, .frame 1 (.closeProducer 0),
        .frame 1 (.producerSuccess 1 "p" none)])).entries 0
    after.unsettledIds = [0, 1] ∧ after.staging = [] ∧ after.buffered = [] ∧
      after.containerIds = [] ∧ resolvedIds after.log = [] := by
  decide +kernel

end InPlace

/-! ### Waiting for the broker after a reset -/

/-- The producer is not attached, and everything pending or staged is from `first` on. -/
structure Behind (first : Nat) (producer : ProducerState) : Prop where
  gate : producer.brokerReady = false
  next : first ≤ producer.nextSequenceId
  pending : ∀ seq ∈ producer.pendingIds, first ≤ seq
  staged : ∀ seq ∈ stagedIds producer, first ≤ seq

/-- The sends of `aside` are set aside, in front of those accepted since, and nothing noted in `log`
is lost. -/
structure Waiting (aside : List OpSend) (first : Nat) (log : List SendEvent)
    (entry : ProducerEntry) : Prop where
  layout : Layout entry
  slot : ∃ record, entry.slot = some record ∧ Behind first record.state
  snapshots : ∃ newer, entry.snapshots = aside ++ newer ∧ ∀ op ∈ newer, first ≤ op.sequenceId
  log : log <+: entry.log

/-- What happens to a handle while its producer waits to be attached again: resets, rebuilds that
find nothing to drop, sends, flushes, drains, polls and wakers. -/
def reconnects (entry : ProducerEntry) : EntryOp → Bool
  | .reset | .openEmitted _ | .queueSend _ _ _ _ _ | .flushBatch _ | .drainOutbound | .pollTransmit
  | .shutGate | .registerWaker _ _ | .unregisterWaker _ | .takeOutcome _ => true
  | .discardSnapshots => entry.snapshots.isEmpty
  | _ => false

theorem Behind.reduce {producer producer' : ProducerState}
    (behind : Behind first producer) (reduces : producer.Reduces producer') :
    Behind first producer' := by
  refine ⟨?_, ?_, fun seq member => behind.pending seq (reduces.pendingIds.subset member), ?_⟩
  · rw [← Bool.not_eq_true]
    intro ready
    have open_ := reduces.gate ready
    rw [behind.gate] at open_
    cases open_
  · rw [reduces.rest]
    exact behind.next
  · rcases reduces.frames with ⟨outbound, batch⟩ | ⟨outbound, batch⟩
    · rw [stagedIds, outbound, batch]
      exact behind.staged
    · rw [stagedIds, outbound, batch]
      exact fun _ member => absurd member List.not_mem_nil

namespace Waiting

variable {aside : List OpSend} {first : Nat} {log : List SendEvent} {entry after : ProducerEntry}
  {record : ProducerRecord}

theorem restate (waiting : Waiting aside first log entry) (layout : Layout after)
    {record' : ProducerRecord} (slot' : after.slot = some record')
    (behind : Behind first record'.state) (snapshots : after.snapshots = entry.snapshots)
    (grows : entry.log <+: after.log) : Waiting aside first log after :=
  ⟨layout, ⟨record', slot', behind⟩, snapshots ▸ waiting.snapshots, waiting.log.trans grows⟩

theorem flushed {state : ProducerState} (layout : Layout entry) (slot : entry.slot = some record)
    (behind : Behind first record.state) (flushed : record.state.MaybeFlushed single codecs state) :
    Behind first state := by
  rcases flushed with rfl | ⟨publishTimeMs, rfl⟩
  · exact behind
  · refine ⟨?_, ?_, ?_, ?_⟩
    · rw [flushBatch_brokerReady]
      exact behind.gate
    · rw [(flushed_nextSequenceId (.inr ⟨publishTimeMs, rfl⟩)).1]
      exact behind.next
    · rw [ProducerState.pendingIds, flushBatch_pending]
      exact behind.pending
    · rw [layout.flush_stagedIds slot publishTimeMs]
      exact behind.staged

theorem accepted {before after : ProducerEntry} {msg : OutgoingMessage}
    {batch : BatchContainer} {state : ProducerState} (layout : Layout before)
    (bounded : record.state.nextSequenceId + 1 < 2 ^ 64) (behind : Behind first record.state)
    (accepted : Accepted codecs before after msg record op batch state) : Behind first state := by
  have next := accepted.accepts.nextSequenceId_eq bounded
  have below := behind.next
  refine ⟨accepted.accepts.brokerReady_eq.trans behind.gate, by omega, ?_, ?_⟩
  · rw [accepted.accepts.pendingIds_eq, List.forall_mem_append, List.forall_mem_singleton]
    exact ⟨behind.pending, below⟩
  · intro seq member
    rcases accepted.mem_stagedIds layout member with older | rfl
    · exact behind.staged seq older
    · exact below

section

variable (waiting : Waiting aside first log entry)

include waiting

theorem queueSend (msg : OutgoingMessage) (uuid : String) (reservation publishTimeMs now : Nat)
    (regular : unwrapped entry (.queueSend msg uuid reservation publishTimeMs now) = true)
    (layout : Layout (entry.queueSend single codecs msg uuid reservation publishTimeMs now)) :
    Waiting aside first log
      (entry.queueSend single codecs msg uuid reservation publishTimeMs now) := by
  obtain ⟨record, slot, behind⟩ := waiting.slot
  have queued : Queued single codecs entry record msg _ :=
    queueSend_queued slot msg uuid reservation publishTimeMs now
  generalize entry.queueSend single codecs msg uuid reservation publishTimeMs now = after
    at queued layout
  cases queued with
  | rejected flushes =>
    exact waiting.restate layout rfl (flushed waiting.layout slot behind flushes) rfl
      (List.prefix_refl _)
  | @accepted room placed state op batch flushes opened next accepts filled =>
    have moved : Moves single codecs entry (entry.withState record room) :=
      flushed_moves slot flushes
    have roomLayout : Layout (entry.withState record room) :=
      moved.invariant Layout (fun _ _ layout move => layout.move move) waiting.layout
    have bounded : room.nextSequenceId + 1 < 2 ^ 64 := by
      rw [unwrapped, slot] at regular
      rw [next]
      exact of_decide_eq_true regular
    have acceptance : Accepted codecs (entry.withState record room)
        ((entry.withState record placed).observe [.minted record.state.nextSequenceId msg]) msg
        { record with state := room } op batch placed := accepted_of_room opened next accepts
    have inRoom := flushed waiting.layout slot behind flushes
    have onPlace := accepted roomLayout bounded inRoom acceptance
    have placedLayout := roomLayout.accept bounded acceptance
    exact waiting.restate layout rfl (flushed placedLayout rfl onPlace filled) rfl
      (List.prefix_append _ _)

theorem modifyRecord (update : ProducerRecord → ProducerRecord)
    (reduces : ∀ record : ProducerRecord, record.state.Reduces (update record).state) :
    Waiting aside first log (entry.modifyRecord update) := by
  obtain ⟨record, slot, behind⟩ := waiting.slot
  have slot' : (entry.modifyRecord update).slot = some (update record) := by
    simp [ProducerEntry.modifyRecord, slot]
  have layout : Layout (entry.modifyRecord update) :=
    waiting.layout.reduce slot slot' (reduces record) (.silent (List.Sublist.refl _) rfl rfl)
  exact waiting.restate layout slot' (behind.reduce (reduces record)) rfl (List.prefix_refl _)

/-- A further reset sets aside what was accepted meanwhile. -/
theorem reset (layout : Layout entry.reset) : Waiting aside first log entry.reset := by
  obtain ⟨record, slot, behind⟩ := waiting.slot
  obtain ⟨newer, snapshots, later⟩ := waiting.snapshots
  have reduces : record.state.Reduces
      { record.state.drainPendingSends.2 with brokerReady := false } :=
    ProducerState.drainPendingSends_reduces record.state.shut_reduces
  obtain ⟨slab, outcomes, events, result, -⟩ := reset_settles slot
  refine ⟨layout, ⟨_, (reset_settles slot).slot, behind.reduce reduces⟩,
    ⟨newer ++ replayable record, ?_, ?_⟩, ?_⟩
  · rw [result]
    change entry.snapshots ++ replayable record = _
    rw [snapshots, List.append_assoc]
  · rw [List.forall_mem_append]
    refine ⟨later, ?_⟩
    intro op member
    obtain ⟨old, pending, -, same, -⟩ := mem_replayable member
    rw [same]
    exact behind.pending _ (List.mem_map_of_mem pending)
  · rw [result]
    exact waiting.log.trans (List.prefix_append _ _)

theorem registerWaker (seq waker : Nat) (layout : Layout (entry.registerWaker seq waker)) :
    Waiting aside first log (entry.registerWaker seq waker) := by
  obtain ⟨record, slot, behind⟩ := waiting.slot
  unfold ProducerEntry.registerWaker at layout ⊢
  split
  case isTrue known =>
    rw [if_pos known] at layout
    exact waiting.restate layout slot behind rfl (List.prefix_append _ _)
  case isFalse unknown =>
    rw [if_neg unknown, slot] at layout
    rw [slot]
    dsimp only at layout ⊢
    split
    case isTrue parked =>
      rw [if_pos parked] at layout
      exact waiting.restate layout rfl
        (behind.reduce (record.state.setWaker_reduces seq (some waker))) rfl (List.prefix_refl _)
    case isFalse unparked =>
      rw [if_neg unparked] at layout
      exact waiting.restate layout rfl behind rfl (List.prefix_refl _)

theorem step {op : EntryOp}
    (regular : unwrapped entry op = true) (meets : reconnects entry op = true) :
    Waiting aside first log (entryStep single codecs entry op) := by
  have layout : Layout (entryStep single codecs entry op) := waiting.layout.step regular
  obtain ⟨record, slot, behind⟩ := waiting.slot
  cases op with
  | reset => exact waiting.reset layout
  | openEmitted => exact waiting.modifyRecord _ fun record => .refl record.state
  | queueSend => exact waiting.queueSend _ _ _ _ _ regular layout
  | flushBatch publishTimeMs =>
    have slot' : (entry.flushBatch single codecs publishTimeMs).slot = some
        { record with state := (record.state.flushBatch single codecs publishTimeMs).2 } := by
      simp [ProducerEntry.flushBatch, modifyState, ProducerEntry.modifyRecord, slot]
    exact waiting.restate layout slot'
      (flushed waiting.layout slot behind (.inr ⟨publishTimeMs, rfl⟩)) rfl (List.prefix_refl _)
  | drainOutbound =>
    have same : entry.drainOutbound = entry := by
      apply drainOutbound_shut
      intro found there
      cases slot.symm.trans there
      exact behind.gate
    change Waiting aside first log entry.drainOutbound
    rw [same]
    exact waiting
  | pollTransmit => exact waiting.restate layout slot behind rfl (List.prefix_append _ _)
  | shutGate => exact waiting.modifyRecord _ fun record => record.state.shut_reduces
  | registerWaker seq waker => exact waiting.registerWaker seq waker layout
  | unregisterWaker seq =>
    have dropped : Waiting aside first log { entry with slab := entry.slab.erase seq } :=
      waiting.restate (waiting.layout.still rfl (.silent (List.Sublist.refl _) rfl rfl)) slot
        behind rfl (List.prefix_refl _)
    exact dropped.modifyRecord _ fun record => record.state.setWaker_reduces seq none
  | takeOutcome => exact waiting.restate layout slot behind rfl (List.prefix_refl _)
  | discardSnapshots =>
    have empty : entry.snapshots = [] := List.isEmpty_iff.mp meets
    exact waiting.restate layout slot behind empty.symm (List.prefix_refl _)
  | _ => cases meets

end

end Waiting

/-! ### Replaying -/

/-- The sends of `aside` are pending again, and staged once each in front of everything newer. -/
structure Replays (aside : List OpSend) (first : Nat) (log : List SendEvent)
    (entry : ProducerEntry) : Prop where
  staging : ∃ rest, entry.staging = aside.flatMap (·.replayFrames) ++ rest ∧
    ∀ frame ∈ rest, ∀ id ∈ frame.ids, first ≤ id
  once : ∀ op ∈ aside, carrying op.sequenceId entry.staging = op.replayFrames
  unsettled : ∃ newer, entry.unsettledIds = aside.map (·.sequenceId) ++ newer ∧
    ∀ id ∈ newer, first ≤ id
  log : log <+: entry.log

variable {log : List SendEvent} {aside : List OpSend}

theorem Waiting.attach (waiting : Waiting aside first log entry) (producerName : String)
    (lastSequenceId : Option Int) :
    Replays aside first log (entry.attach producerName lastSequenceId) := by
  obtain ⟨record, slot, behind⟩ := waiting.slot
  obtain ⟨newer, snapshots, later⟩ := waiting.snapshots
  obtain ⟨record', attached⟩ := attach_attached slot producerName lastSequenceId
  obtain ⟨earlier, members, staged, minted, stagedLayout⟩ := waiting.layout.slot record slot
  obtain ⟨name, index, state⟩ := attached.state
  have staging := attached.staging_eq waiting.layout
  have asideReplayed : ∀ op ∈ newer, op.replayFrames ≠ [] →
      Replayed (batchedBy entry.log) earlier op := by
    intro op member _
    exact (stagedLayout.snapshots op (snapshots ▸ List.mem_append_right _ member)).1
  have pendingReplayed : ∀ op ∈ unstaged record.state, op.replayFrames ≠ [] →
      Replayed (batchedBy entry.log) earlier op := by
    intro op member framed
    exact (stagedLayout.pending op (List.mem_filter.mp member).1 framed).1
  refine ⟨?_, ?_, ?_, ?_⟩
  · refine ⟨newer.flatMap (·.replayFrames) ++
      ((unstaged record.state).flatMap (·.replayFrames) ++ record.state.outbound), ?_, ?_⟩
    · rw [staging, state]
      simp only [snapshots, List.flatMap_append, List.append_assoc]
    · rw [List.forall_mem_append, List.forall_mem_append]
      refine ⟨?_, ?_, ?_⟩
      · intro frame member id inside
        obtain ⟨op, among, -, rfl⟩ := replayFrames_ids asideReplayed member inside
        exact later op among
      · intro frame member id inside
        obtain ⟨op, among, -, rfl⟩ := replayFrames_ids pendingReplayed member inside
        exact behind.pending _ (List.mem_map_of_mem (List.mem_filter.mp among).1)
      · intro frame member id inside
        exact behind.staged id (List.mem_append_left _ (List.mem_flatMap.mpr ⟨frame, member, inside⟩))
  · intro op member
    have known : op ∈ entry.snapshots := snapshots ▸ List.mem_append_left _ member
    obtain ⟨msg, block, -⟩ := (stagedLayout.snapshots op known).1
    rw [staging]
    exact (attached.carrying_eq waiting.layout slot (List.mem_append_left _ known) block.filled).1
  · refine ⟨newer.map (·.sequenceId) ++ record.state.pendingIds, ?_, ?_⟩
    · rw [attach_unsettledIds, unsettledIds_of_some slot, snapshots, List.map_append,
        List.append_assoc]
    · rw [List.forall_mem_append, List.forall_mem_map]
      exact ⟨later, behind.pending⟩
  · rw [attached.log]
    exact waiting.log.trans (List.prefix_append _ _)

theorem Replays.drain (replays : Replays aside first log entry) :
    Replays aside first log entry.drainOutbound := by
  obtain ⟨staging, once, unsettled, log⟩ := replays
  constructor
  · rw [drainOutbound_staging]
    exact staging
  · rw [drainOutbound_staging]
    exact once
  · rw [drainOutbound_unsettledIds]
    exact unsettled
  · rw [drainOutbound_log]
    exact log

theorem reset_waits (layout : Layout entry) (slot : entry.slot = some record) :
    Waiting (entry.snapshots ++ replayable record) record.state.nextSequenceId entry.reset.log
      entry.reset := by
  have settles := reset_settles slot
  have snapshots : entry.reset.snapshots = entry.snapshots ++ replayable record := by
    obtain ⟨slab, outcomes, events, result, -⟩ := reset_settles slot
    rw [result]
    rfl
  refine ⟨(layout.disconnected slot).still settles.slot settles.keeps, ⟨_, settles.slot, ?_⟩,
    ⟨[], by rw [snapshots, List.append_nil], by simp⟩, List.prefix_refl _⟩
  exact ⟨rfl, le_refl _, fun _ member => absurd member List.not_mem_nil,
    fun _ member => absurd member List.not_mem_nil⟩

variable (entry record)

def ProducerEntry.kept : List OpSend :=
  entry.snapshots ++ record.state.pending.filter fun op => !op.replayFrames.isEmpty

theorem kept_ids :
    (entry.snapshots ++ replayable record).map (·.sequenceId) =
      (entry.kept record).map (·.sequenceId) := by
  rw [kept, List.map_append, List.map_append, replayable, List.map_map]
  rfl

theorem kept_frames :
    (entry.snapshots ++ replayable record).flatMap (·.replayFrames) =
      (entry.kept record).flatMap (·.replayFrames) := by
  rw [kept, List.flatMap_append, List.flatMap_append, replayable, List.flatMap_map]
  rfl

variable {entry record}

theorem mem_kept (member : op ∈ entry.kept record) :
    ∃ aside ∈ entry.snapshots ++ replayable record,
      aside.sequenceId = op.sequenceId ∧ aside.replayFrames = op.replayFrames := by
  rcases List.mem_append.mp member with set | pending
  · exact ⟨op, List.mem_append_left _ set, rfl, rfl⟩
  · exact ⟨op.unparked, List.mem_append_right _ (List.mem_map_of_mem pending), rfl, rfl⟩

theorem unframed_not_kept (layout : Layout entry) (slot : entry.slot = some record)
    (pending : op ∈ record.state.pending) (unframed : op.replayFrames = []) :
    op.sequenceId ∉ (entry.kept record).map (·.sequenceId) := by
  obtain ⟨earlier, members, staged, minted, stagedLayout⟩ := layout.slot record slot
  intro member
  obtain ⟨other, among, same⟩ := List.mem_map.mp member
  have known : other ∈ entry.snapshots ++ record.state.pending :=
    ((List.Sublist.refl _).append List.filter_sublist).subset among
  have equal : other = op := List.inj_on_of_nodup_map minted.unsettled_nodup known
    (List.mem_append_right _ pending) same
  have framed : other.replayFrames ≠ [] := by
    rcases List.mem_append.mp among with aside | framed
    · obtain ⟨msg, block, -⟩ := (stagedLayout.snapshots other aside).1
      exact block.filled
    · simpa using (List.mem_filter.mp framed).2
  rw [equal] at framed
  exact framed unframed

theorem kept_sorted (layout : Layout entry) (slot : entry.slot = some record) :
    ((entry.kept record).map (·.sequenceId)).Pairwise (· < ·) := by
  obtain ⟨earlier, members, staged, minted, -⟩ := layout.slot record slot
  refine (minted.sorted.sublist minted.unsettled).sublist (List.Sublist.map _ ?_)
  exact (List.Sublist.refl _).append List.filter_sublist

namespace Replays

variable {before after : ProducerEntry} {record : ProducerRecord} {first : Nat}
  {log : List SendEvent} {op : OpSend}

section

variable (replays : Replays (before.snapshots ++ replayable record) first log after)

include replays

theorem staging_kept :
    ∃ rest, after.staging = (before.kept record).flatMap (·.replayFrames) ++ rest ∧
      ∀ frame ∈ rest, ∀ id ∈ frame.ids, first ≤ id := by
  rw [← kept_frames]
  exact replays.staging

theorem unsettled_kept :
    ∃ newer, after.unsettledIds = (before.kept record).map (·.sequenceId) ++ newer ∧
      ∀ id ∈ newer, first ≤ id := by
  rw [← kept_ids]
  exact replays.unsettled

theorem of_kept (member : op ∈ before.kept record) :
    carrying op.sequenceId after.staging = op.replayFrames ∧
      op.sequenceId ∈ after.unsettledIds := by
  obtain ⟨aside, among, id, frames⟩ := mem_kept member
  obtain ⟨newer, unsettled, -⟩ := replays.unsettled_kept
  refine ⟨?_, ?_⟩
  · rw [← id, ← frames]
    exact replays.once aside among
  · rw [unsettled]
    exact List.mem_append_left _ (List.mem_map_of_mem member)

end

/-- A send that the reset could not set aside has failed in it, and its id is not used again. -/
theorem of_unframed (layout : Layout before) (slot : before.slot = some record)
    (replays : Replays (before.snapshots ++ replayable record) record.state.nextSequenceId
      before.reset.log after) (pending : op ∈ record.state.pending)
    (unframed : op.replayFrames = []) :
    (op.sequenceId, batchLost op) ∈ resolutions after.log ∧
      op.sequenceId ∉ after.unsettledIds := by
  obtain ⟨newer, unsettled, later⟩ := replays.unsettled_kept
  obtain ⟨events, log⟩ := replays.log
  refine ⟨?_, ?_⟩
  · rw [← log, resolutions_append, (reset_settles slot).resolutions_eq]
    refine List.mem_append_left _ (List.mem_append_right _ (List.mem_map.mpr ⟨op, ?_, rfl⟩))
    exact List.mem_filter.mpr ⟨pending, by simp [unframed]⟩
  · rw [unsettled, List.mem_append, not_or]
    refine ⟨unframed_not_kept layout slot pending unframed, fun member => ?_⟩
    have reused := later _ member
    have older : op.sequenceId < record.state.nextSequenceId := by
      apply layout.unsettled_lt slot
      rw [unsettledIds_of_some slot]
      exact List.mem_append_right _ (List.mem_map_of_mem pending)
    omega

end Replays

section Resets

variable (single codecs)

/-- From the first reset on, what it kept waits. -/
theorem window_waits (config : ProducerConfig) {ops window : List Op}
    (fits : Guarded (step single codecs) (fun side op => side.countersFit handle op = true)
      (start config) (ops ++ .reset :: window))
    (slot : ((run (step single codecs) (start config) ops).entries handle).slot = some record)
    (waits : Guarded (step single codecs)
      (GuardedAt single codecs (fun entry op => reconnects entry op = true) handle)
      (run (step single codecs) (start config) (ops ++ [.reset])) window) :
    let before := (run (step single codecs) (start config) ops).entries handle
    Waiting (before.snapshots ++ replayable record) record.state.nextSequenceId before.reset.log
      ((run (step single codecs) (start config) (ops ++ .reset :: window)).entries handle) := by
  intro before
  rw [List.append_cons, run_append]
  rw [List.append_cons, Guarded.append] at fits
  have layout : Layout before := run_layout single codecs config (Guarded.append.mp fits.1).1
  have started : (run (step single codecs) (start config) (ops ++ [.reset])).entries handle =
      before.reset := by
    rw [run_append]
    rfl
  exact run_guarded_invariant
    (run_keeps_reserved (start_reserved config) fits.1) fits.2
    (Waiting (before.snapshots ++ replayable record) record.state.nextSequenceId before.reset.log)
    (fun _ _ waiting regular meets => waiting.step regular meets) (started ▸ reset_waits layout slot)
    waits

/-- The answer to the open stages what waits. -/
theorem answer_replays {requestId : Nat} (waiting : Waiting aside first log (side.entries handle))
    (answers : Answers side handle requestId) (now : Nat) (producerName : String)
    (lastSequenceId : Option Int) :
    Replays aside first log ((step single codecs side
      (.frame now (.producerSuccess requestId producerName lastSequenceId))).entries handle) := by
  have attached := waiting.attach producerName lastSequenceId
  rcases answers.step single codecs now producerName lastSequenceId with same | same
  · rw [same]
    exact attached
  · rw [same]
    exact attached.drain

/-- Resets keep every pending send that has frames.  When the broker attaches the producer again,
the frames of these sends are staged in their order, each once and unchanged, in front of whatever
was accepted meanwhile, and the sends are pending again.  The others have failed. -/
theorem resets_replay_pending (config : ProducerConfig) (handle : Nat) (ops window : List Op)
    (fits : Guarded (step single codecs) (fun side op => side.countersFit handle op = true)
      (start config) (ops ++ .reset :: window)) (record : ProducerRecord)
    (slot : ((run (step single codecs) (start config) ops).entries handle).slot = some record)
    (waits : Guarded (step single codecs)
      (GuardedAt single codecs (fun entry op => reconnects entry op = true) handle)
      (run (step single codecs) (start config) (ops ++ [.reset])) window)
    (requestId : Nat)
    (answers : Answers (run (step single codecs) (start config) (ops ++ .reset :: window)) handle
      requestId)
    (now : Nat) (producerName : String) (lastSequenceId : Option Int) :
    let kept := ((run (step single codecs) (start config) ops).entries handle).kept record
    let after := (step single codecs
      (run (step single codecs) (start config) (ops ++ .reset :: window))
      (.frame now (.producerSuccess requestId producerName lastSequenceId))).entries handle
    (kept.map (·.sequenceId)).Pairwise (· < ·) ∧
      (∃ rest, after.staging = kept.flatMap (·.replayFrames) ++ rest ∧
        ∀ frame ∈ rest, ∀ id ∈ frame.ids, record.state.nextSequenceId ≤ id) ∧
      (∀ op ∈ kept, carrying op.sequenceId after.staging = op.replayFrames ∧
        op.sequenceId ∈ after.unsettledIds) ∧
      ∀ op ∈ record.state.pending, op.replayFrames = [] →
        (op.sequenceId, batchLost op) ∈ resolutions after.log ∧
          op.sequenceId ∉ after.unsettledIds := by
  intro kept after
  have layout := run_layout single codecs config (Guarded.append.mp fits).1
  have waiting := window_waits single codecs config fits slot waits
  have replays := answer_replays single codecs waiting answers now producerName lastSequenceId
  exact ⟨kept_sorted layout slot, replays.staging_kept, fun _ member => replays.of_kept member,
    fun _ pending unframed => replays.of_unframed layout slot pending unframed⟩

private def lostTwice : List Op :=
  [.reset, .rebuildProducer 0, sending [6, 7, 8, 9, 10], .frame 1 (.connected none)]

theorem resets_replay_large_not_small :
    let side := run (step default default) (start {}) largeThenSmall
    let after := (step default default
      (run (step default default) (start {}) (largeThenSmall ++ .reset :: lostTwice))
      (.frame 1 (.producerSuccess 1 "p" none))).entries 0
    ∃ record, (side.entries 0).slot = some record ∧
      ((side.entries 0).kept record).map (·.sequenceId) = [0] ∧
      (∀ op ∈ (side.entries 0).kept record, carrying op.sequenceId after.staging = op.replayFrames ∧
        op.sequenceId ∈ after.unsettledIds) ∧
      after.staging.map OutboundFrame.lowest = [0, 2] ∧ resolvedIds after.log = [1] := by
  intro side after
  obtain ⟨record, slot⟩ : ∃ record, (side.entries 0).slot = some record :=
    Option.isSome_iff_exists.mp (by decide +kernel)
  have ids : (side.entries 0).slot.map (fun record =>
      ((side.entries 0).kept record).map (·.sequenceId)) = some [0] := by decide +kernel
  rw [slot] at ids
  have replayed := resets_replay_pending default default {} 0 largeThenSmall lostTwice
    (by decide +kernel) record slot (by decide +kernel) 1
    ⟨⟨none, by decide +kernel⟩, by decide +kernel⟩ 1 "p" none
  exact ⟨record, slot, Option.some.inj ids, replayed.2.2.1, by decide +kernel, by decide +kernel⟩

/-- A producer that is being closed when the connection is lost is not opened again, and its
pending send is dropped without an outcome. -/
theorem rebuild_drops_closing_sends :
    let side := run (step default default) (start {}) (opening plainOpen none ++
      [sending [], .closeProducer 0 false, .reset, .rebuildProducer 0, .frame 1 (.connected none)])
    mintedIds (side.entries 0).log = [0] ∧ side.openRequestsOf 0 = [] ∧
      (side.entries 0).staging = [] ∧ (side.entries 0).unsettledIds = [] ∧
      resolvedIds (side.entries 0).log = [] := by
  decide +kernel

end Resets

end Magnetar.Proto.Connection
