import Mathlib.Logic.Relation
import Magnetar.Proto.Connection.Entries
import Magnetar.Proto.Producer.Moves

/-!
Contract: what an entry operation can do, said once.

Owns: the readings of a log that grows, the operations that only record outcomes and wake tasks,
the sends each operation settles, and the short list of moves every operation is made of.

Does not own: the invariants, which are proved move by move in the modules on top.
-/

namespace Magnetar.Proto.Connection

open Pb External Producer SendEvent

variable {settled : List (Nat × OpOutcome)} {entry : ProducerEntry} {record : ProducerRecord}

/-! ### A log that grows -/

section Log

variable (log events : List SendEvent)

@[simp]
theorem mintedSends_append : mintedSends (log ++ events) = mintedSends log ++ mintedSends events :=
  List.filterMap_append

@[simp]
theorem mintedIds_append : mintedIds (log ++ events) = mintedIds log ++ mintedIds events := by
  simp [mintedIds]

@[simp]
theorem resolutions_append : resolutions (log ++ events) = resolutions log ++ resolutions events :=
  List.filterMap_append

@[simp]
theorem resolvedIds_append : resolvedIds (log ++ events) = resolvedIds log ++ resolvedIds events := by
  simp [resolvedIds]

@[simp]
theorem handedFrames_append :
    handedFrames (log ++ events) = handedFrames log ++ handedFrames events :=
  List.filterMap_append

@[simp]
theorem attaches_append : attaches (log ++ events) = attaches log + attaches events :=
  List.countP_append

end Log

def SendEvent.acknowledged? : SendEvent → Option CommandSendReceipt
  | .acknowledged receipt => some receipt
  | _ => none

/-- The receipts that reached the producer. -/
def acknowledgements (log : List SendEvent) : List CommandSendReceipt :=
  log.filterMap SendEvent.acknowledged?

@[simp]
theorem acknowledgements_append (log events : List SendEvent) :
    acknowledgements (log ++ events) = acknowledgements log ++ acknowledgements events :=
  List.filterMap_append

/-- An event that accepts no send, attaches nothing and hands no frame over. -/
def SendEvent.isReply : SendEvent → Bool
  | .acknowledged _ | .resolved _ _ | .woken _ => true
  | _ => false

def Replies (events : List SendEvent) : Prop :=
  ∀ event ∈ events, event.isReply = true

theorem Replies.append {first second : List SendEvent} (one : Replies first)
    (two : Replies second) : Replies (first ++ second) := by
  intro event member
  exact (List.mem_append.mp member).elim (one event) (two event)

variable {events : List SendEvent}

theorem Replies.mintedSends (replies : Replies events) : mintedSends events = [] := by
  rw [Connection.mintedSends, List.filterMap_eq_nil_iff]
  intro event member
  have reply := replies event member
  cases event <;> simp_all [isReply, minted?]

theorem Replies.handedFrames (replies : Replies events) : handedFrames events = [] := by
  rw [Connection.handedFrames, List.filterMap_eq_nil_iff]
  intro event member
  have reply := replies event member
  cases event <;> simp_all [isReply, handed?]

theorem Replies.attaches (replies : Replies events) : attaches events = 0 := by
  rw [Connection.attaches, List.countP_eq_zero]
  intro event member
  have reply := replies event member
  cases event <;> simp_all [isReply, isAttached]

/-! ### Settling sends -/

/-- `after` differs from `before` by the outcomes of `settled`, by wakers and by a log of them. -/
structure Settles (before after : ProducerEntry) (settled : List (Nat × OpOutcome)) : Prop where
  rest : ∃ slab outcomes events,
    after = { before with slab := slab, outcomes := outcomes, log := before.log ++ events } ∧
      Replies events ∧ resolutions events = settled ∧ acknowledgements events = []

theorem Settles.refl (entry : ProducerEntry) : Settles entry entry [] :=
  ⟨entry.slab, entry.outcomes, [], by simp, by simp [Replies], rfl, rfl⟩

theorem Settles.trans {first second third : ProducerEntry}
    {settled' : List (Nat × OpOutcome)} (one : Settles first second settled)
    (two : Settles second third settled') : Settles first third (settled ++ settled') := by
  obtain ⟨slab, outcomes, events, rfl, replies, resolved, unacknowledged⟩ := one
  obtain ⟨slab', outcomes', events', rfl, replies', resolved', unacknowledged'⟩ := two
  refine ⟨slab', outcomes', events ++ events', ?_, replies.append replies', ?_, ?_⟩
  · simp
  · rw [resolutions_append, resolved, resolved']
  · rw [acknowledgements_append, unacknowledged, unacknowledged', List.nil_append]

namespace ProducerEntry

variable (entry : ProducerEntry)

theorem wake_settles (waker : Option Nat) : Settles entry (entry.wake waker) [] := by
  refine ⟨entry.slab, entry.outcomes, (waker.map woken).toList, rfl, ?_, ?_, ?_⟩
  · cases waker <;> simp [Replies, isReply]
  · cases waker <;> rfl
  · cases waker <;> rfl

theorem wakeDroppingSlab_settles (seq : Nat) (waker : Option Nat) :
    Settles entry (entry.wakeDroppingSlab seq waker) [] := by
  have dropped : Settles entry { entry with slab := entry.slab.erase seq } [] :=
    ⟨entry.slab.erase seq, entry.outcomes, [], by simp, by simp [Replies], rfl, rfl⟩
  exact dropped.trans (wake_settles _ _)

theorem recordOutcome_settles (seq : Nat) (outcome : OpOutcome) :
    Settles entry (entry.recordOutcome seq outcome) [(seq, outcome)] :=
  ⟨entry.slab, entry.outcomes.insert seq outcome, [.resolved seq outcome], rfl,
    by simp [Replies, isReply], rfl, rfl⟩

theorem settle_settles (op : OpSend) (outcome : OpOutcome) :
    Settles entry (entry.settle op outcome) [(op.sequenceId, outcome)] :=
  (entry.recordOutcome_settles op.sequenceId outcome).trans (wakeDroppingSlab_settles _ _ _)

theorem settleByBroker_settles (op : OpSend) (outcome : OpOutcome) :
    Settles entry (entry.settleByBroker op outcome) [(op.sequenceId, outcome)] := by
  have recorded := entry.recordOutcome_settles op.sequenceId outcome
  unfold settleByBroker
  split
  · exact recorded.trans (wake_settles _ _)
  · exact recorded.trans (wakeDroppingSlab_settles _ _ _)

/-- A fold of settling steps settles what its steps do, in order. -/
theorem foldl_settles {α : Type*} (update : ProducerEntry → α → ProducerEntry)
    (settled : α → List (Nat × OpOutcome))
    (one : ∀ entry item, Settles entry (update entry item) (settled item)) (items : List α) :
    Settles entry (items.foldl update entry) (items.flatMap settled) := by
  induction items generalizing entry with
  | nil => exact .refl entry
  | cons item _ ih =>
    exact (one entry item).trans (ih _)

theorem settleAll_settles (ops : List OpSend) (outcome : OpSend → OpOutcome) :
    Settles entry (entry.settleAll ops outcome)
      (ops.map fun op => (op.sequenceId, outcome op)) := by
  have all := entry.foldl_settles (fun entry op => entry.settle op (outcome op))
    (fun op => [(op.sequenceId, outcome op)]) (fun entry op => entry.settle_settles op _) ops
  rwa [← List.map_eq_flatMap] at all

theorem terminalizeSlab_settles (reason : String) :
    Settles entry (entry.terminalizeSlab reason)
      (entry.slab.keys.map fun seq => (seq, OpOutcome.terminal reason)) := by
  have all := entry.foldl_settles
    (fun entry seq =>
      (entry.recordOutcome seq (.terminal reason)).wakeDroppingSlab seq none)
    (fun seq => [(seq, OpOutcome.terminal reason)])
    (fun entry seq =>
      (entry.recordOutcome_settles seq _).trans (wakeDroppingSlab_settles _ _ _)) entry.slab.keys
  rwa [← List.map_eq_flatMap] at all

theorem sweepSlab_settles : Settles entry entry.sweepSlab [] := by
  refine ⟨∅, entry.outcomes, _, rfl, ?_, ?_, ?_⟩
  · intro event member
    obtain ⟨parked, _, rfl⟩ := List.mem_map.mp member
    rfl
  · rw [resolutions, List.filterMap_eq_nil_iff]
    intro event member
    obtain ⟨parked, _, rfl⟩ := List.mem_map.mp member
    rfl
  · rw [acknowledgements, List.filterMap_eq_nil_iff]
    intro event member
    obtain ⟨parked, _, rfl⟩ := List.mem_map.mp member
    rfl

/-! ### What each operation settles -/

variable {entry} {record : ProducerRecord}

def withState (entry : ProducerEntry) (record : ProducerRecord) (state : ProducerState) :
    ProducerEntry :=
  { entry with slot := some { record with state } }

/-- The outcome a send gets from a receipt, and from an error. -/
def receiptOutcome (resolved : OpSend × MessageId) : Nat × OpOutcome :=
  (resolved.1.sequenceId, .sendReceipt resolved.1.sequenceId resolved.2)

def errorOutcome (resolved : OpSend × Int × String) : Nat × OpOutcome :=
  (resolved.1.sequenceId, .sendError resolved.1.sequenceId resolved.2.1 resolved.2.2)

section

variable (found : entry.slot = some record)

include found

theorem sendReceipt_settles (receipt : CommandSendReceipt) :
    Settles
      ((entry.withState record (record.state.handleSendReceipt receipt).2).observe
        [.acknowledged receipt])
      (entry.sendReceipt receipt)
      ((record.state.handleSendReceipt receipt).1.map receiptOutcome) := by
  unfold sendReceipt
  rw [found]
  have all := foldl_settles
    ((entry.withState record (record.state.handleSendReceipt receipt).2).observe
      [.acknowledged receipt])
    settleByReceipt (fun resolved => [receiptOutcome resolved])
    (fun entry resolved => entry.settleByBroker_settles resolved.1 _)
    (record.state.handleSendReceipt receipt).1
  rwa [← List.map_eq_flatMap] at all

theorem sendError_settles (err : CommandSendError) :
    Settles (entry.withState record (record.state.applySendError err).2) (entry.sendError err)
      ((record.state.applySendError err).1.toList.map errorOutcome) := by
  unfold sendError
  rw [found]
  dsimp only
  generalize record.state.applySendError err = taken
  obtain ⟨resolved, state⟩ := taken
  cases resolved with
  | none => exact .refl _
  | some => exact settleByBroker_settles _ _ _

theorem timeoutPending_settles (now : Nat) :
    Settles (entry.withState record (record.state.drainTimedOutSends now).2)
      (entry.timeoutPending now)
      ((record.state.drainTimedOutSends now).1.map fun op => (op.sequenceId, sendTimedOut op)) := by
  unfold timeoutPending
  rw [found]
  exact settleAll_settles _ _ _

end

theorem timeoutSnapshots_settles (entry : ProducerEntry) (now : Nat) :
    Settles
      { entry with snapshots := entry.snapshots.drop (entry.expiredSnapshots now).length }
      (entry.timeoutSnapshots now)
      ((entry.expiredSnapshots now).map fun op => (op.sequenceId, sendTimedOut op)) :=
  settleAll_settles _ _ _

theorem terminalizeSlot_settles (found : entry.slot = some record)
    (update : ProducerState → ProducerState) (reason : String) :
    Settles (entry.withState record (update record.state).drainPendingSends.2)
      (entry.terminalizeSlot update reason)
      ((update record.state).pending.map fun op => (op.sequenceId, .terminal reason)) := by
  unfold terminalizeSlot
  rw [found]
  exact settleAll_settles _ _ _

variable (entry record)

theorem terminalizeSnapshotBucket_settles (reason : String) :
    Settles { entry with snapshots := [] } (entry.terminalizeSnapshotBucket reason)
      (entry.snapshots.map fun op => (op.sequenceId, .terminal reason)) :=
  settleAll_settles _ _ _

/-- The sends a reset can replay, and those it cannot. -/
def replayable : List OpSend :=
  (record.state.pending.filter fun op => !op.replayFrames.isEmpty).map OpSend.unparked

def unreplayable : List OpSend :=
  record.state.pending.filter fun op => op.replayFrames.isEmpty

/-- What a lost connection leaves, but for the sends it fails. -/
def disconnected : ProducerEntry :=
  { entry.withState record { record.state.drainPendingSends.2 with brokerReady := false } with
    snapshots := entry.snapshots ++ replayable record
    buffered := [] }

variable {entry record}

theorem snapshotPendingSends_eq (producer : ProducerState) :
    producer.snapshotPendingSends =
      ({ replayWakers := (producer.pending.filter fun op => !op.replayFrames.isEmpty).map
           fun op => (op.sequenceId, op.waker)
         dropped := producer.pending.filter fun op => op.replayFrames.isEmpty
         snapshots := (producer.pending.filter fun op => !op.replayFrames.isEmpty).map
           OpSend.unparked },
        { producer.drainPendingSends.2 with brokerReady := false }) := by
  rw [ProducerState.snapshotPendingSends, List.partition_eq_filter_filter]
  rfl

theorem setAside_settles (found : entry.slot = some record) :
    Settles
      { entry.withState record { record.state.drainPendingSends.2 with brokerReady := false } with
        snapshots := entry.snapshots ++ replayable record }
      entry.setAside
      ((unreplayable record).map fun op => (op.sequenceId, batchLost op)) := by
  unfold setAside replayable
  rw [found]
  dsimp only
  rw [snapshotPendingSends_eq]
  generalize record.state.pending.filter (fun op => !op.replayFrames.isEmpty) = kept
  have woken := foldl_settles
    (entry.withState record { record.state.drainPendingSends.2 with brokerReady := false })
    (fun entry parked => entry.wakeDroppingSlab parked.1 parked.2) (fun _ => [])
    (fun entry parked => entry.wakeDroppingSlab_settles parked.1 parked.2)
    (kept.map fun op => (op.sequenceId, op.waker))
  rw [List.flatMap_eq_nil_iff.mpr fun _ _ => rfl] at woken
  obtain ⟨slab, outcomes, events, same, replies, resolved, unacknowledged⟩ :=
    woken.trans (settleAll_settles _ (unreplayable record) batchLost)
  refine ⟨slab, outcomes, events, ?_, replies, resolved, unacknowledged⟩
  exact congrArg (fun settled : ProducerEntry =>
    { settled with snapshots := settled.snapshots ++ kept.map OpSend.unparked }) same

/-- The pending sends none of whose frames is staged, by the id of the frame. -/
def unstaged (producer : ProducerState) : List OpSend :=
  producer.pending.filter fun op => !(producer.outbound.map (·.sequenceId)).contains op.sequenceId

/-- What an attach makes of a producer: sends set aside and sends not staged go first. -/
structure Attached (before : ProducerEntry) (record : ProducerRecord) (lastSequenceId : Option Int)
    (after : ProducerEntry) (record' : ProducerRecord) : Prop where
  slot : after.slot = some record'
  snapshots : after.snapshots = []
  buffered : after.buffered = before.buffered
  log : after.log = before.log ++ [.attached lastSequenceId]
  state : ∃ name index, record'.state =
    { record.state with
      name := name
      lastSequenceIdPublished := lastSequenceId.getD (-1)
      outbound := before.snapshots.flatMap (·.replayFrames) ++
        ((unstaged record.state).flatMap (·.replayFrames) ++ record.state.outbound)
      pending := before.snapshots ++ record.state.pending
      pendingIndex := index
      brokerReady := true }
  indexed : record.state.Indexed →
    ((before.snapshots ++ record.state.pending).map (·.sequenceId)).Nodup → record'.state.Indexed

theorem attach_attached (found : entry.slot = some record) (producerName : String)
    (lastSequenceId : Option Int) :
    ∃ record', Attached entry record lastSequenceId (entry.attach producerName lastSequenceId)
      record' := by
  unfold attach
  rw [found]
  refine ⟨_, rfl, rfl, rfl, rfl, ?_, ?_⟩
  · split
    case isTrue empty =>
      rw [List.isEmpty_iff.mp empty]
      exact ⟨_, _, rfl⟩
    case isFalse => exact ⟨_, _, rfl⟩
  · intro indexed distinct
    split
    · exact indexed.congr rfl rfl
    · exact (ProducerState.replaySnapshots_indexed distinct).congr rfl rfl

theorem drainOutbound_eq
    (slot : entry.slot = some record) (ready : record.state.brokerReady = true) :
    entry.drainOutbound =
      { entry with
        slot := some { record with state := { record.state with outbound := [] } }
        buffered :=
          entry.buffered ++ record.state.outbound.map fun frame => (attaches entry.log, frame) } := by
  rw [drainOutbound, slot]
  simp [ready]

theorem drainOutbound_slot
    (slot : entry.slot = some record) (ready : record.state.brokerReady = true) :
    entry.drainOutbound.slot =
      some { record with state := { record.state with outbound := [] } } := by
  rw [drainOutbound_eq slot ready]

theorem drainOutbound_cases (entry : ProducerEntry) :
    entry.drainOutbound = entry ∨
      ∃ record, entry.slot = some record ∧ record.state.brokerReady = true := by
  cases found : entry.slot with
  | none => exact .inl (by simp [drainOutbound, found])
  | some record =>
    cases ready : record.state.brokerReady with
    | false => exact .inl (by simp [drainOutbound, found, ready])
    | true => exact .inr ⟨record, rfl, ready⟩

theorem drainOutbound_log (entry : ProducerEntry) : entry.drainOutbound.log = entry.log := by
  rcases entry.drainOutbound_cases with same | ⟨record, found, ready⟩
  · rw [same]
  · rw [drainOutbound_eq found ready]

end ProducerEntry

/-! ### Moves -/

open ProducerEntry

/-- Beside the slot, at most sends set aside are taken away and replies are logged. -/
structure Keeps (before after : ProducerEntry) : Prop where
  snapshots : after.snapshots.Sublist before.snapshots
  buffered : after.buffered = before.buffered
  log : ∃ events, after.log = before.log ++ events ∧ Replies events

variable {after before : ProducerEntry}

theorem Keeps.silent (snapshots : after.snapshots.Sublist before.snapshots)
    (buffered : after.buffered = before.buffered) (log : after.log = before.log) :
    Keeps before after :=
  ⟨snapshots, buffered, [], by rw [log, List.append_nil], by simp [Replies]⟩

theorem Keeps.trans {first second third : ProducerEntry} (one : Keeps first second)
    (two : Keeps second third) : Keeps first third := by
  obtain ⟨events, log, replies⟩ := one.log
  obtain ⟨events', log', replies'⟩ := two.log
  refine ⟨two.snapshots.trans one.snapshots, two.buffered.trans one.buffered, events ++ events',
    ?_, replies.append replies'⟩
  rw [log', log, List.append_assoc]

section

variable (settles : Settles before after settled)

include settles

theorem Settles.keeps : Keeps before after := by
  obtain ⟨slab, outcomes, events, rfl, replies, -⟩ := settles
  exact ⟨List.Sublist.refl _, rfl, events, rfl, replies⟩

theorem Settles.silent : acknowledgements after.log = acknowledgements before.log := by
  obtain ⟨slab, outcomes, events, rfl, -, -, unacknowledged⟩ := settles
  rw [acknowledgements_append, unacknowledged, List.append_nil]

theorem Settles.resolutions_eq : resolutions after.log = resolutions before.log ++ settled := by
  obtain ⟨slab, outcomes, events, rfl, -, resolved, -⟩ := settles
  rw [resolutions_append, resolved]

theorem Settles.slot : after.slot = before.slot := by
  obtain ⟨slab, outcomes, events, rfl, -⟩ := settles
  rfl

end

variable (single : Prost SingleMessageMetadata) (codecs : Codecs)

/-- What every entry operation but an open, an attach, a send, a receipt and a reset is made of. -/
inductive Move : ProducerEntry → ProducerEntry → Prop
  /-- A producer loses sends, frames or its open gate. -/
  | reduce {before after : ProducerEntry} {record record' : ProducerRecord}
      (slot : before.slot = some record) (slot' : after.slot = some record')
      (reduces : record.state.Reduces record'.state) (keeps : Keeps before after)
      (published : record'.state.lastSequenceIdPublished = record.state.lastSequenceIdPublished)
      (silent : acknowledgements after.log = acknowledgements before.log) :
      Move before after
  /-- No producer is left, and possibly nothing buffered. -/
  | vacate {before after : ProducerEntry} (slot' : after.slot = none)
      (keeps : Keeps before after ∨ Keeps { before with buffered := [] } after) :
      Move before after
  | flush {before : ProducerEntry} {record : ProducerRecord} (slot : before.slot = some record)
      (publishTimeMs : Nat) :
      Move before (before.withState record (record.state.flushBatch single codecs publishTimeMs).2)
  | drain {before : ProducerEntry} {record : ProducerRecord} (slot : before.slot = some record)
      (ready : record.state.brokerReady = true) : Move before before.drainOutbound
  | poll (before : ProducerEntry) : Move before before.pollTransmit

/-- A run of moves. -/
abbrev Moves : ProducerEntry → ProducerEntry → Prop :=
  Relation.ReflTransGen (Move single codecs)

variable {single codecs}

theorem Move.still (slot : after.slot = before.slot) (keeps : Keeps before after)
    (silent : acknowledgements after.log = acknowledgements before.log) :
    Move single codecs before after := by
  cases found : before.slot with
  | none => exact .vacate (slot.trans found) (.inl keeps)
  | some => exact .reduce found (slot.trans found) (.refl _) keeps rfl silent

/-- The record in the slot, if there is one, is exchanged for one with less in it. -/
theorem Moves.modifyRecord (entry : ProducerEntry) (update : ProducerRecord → ProducerRecord)
    (reduces : ∀ record : ProducerRecord, record.state.Reduces (update record).state)
    (published : ∀ record : ProducerRecord,
      (update record).state.lastSequenceIdPublished = record.state.lastSequenceIdPublished) :
    Moves single codecs entry (entry.modifyRecord update) := by
  cases found : entry.slot with
  | none =>
    have same : (entry.modifyRecord update).slot = none := by
      simp [ProducerEntry.modifyRecord, found]
    exact .single (.vacate same (.inl (.silent (List.Sublist.refl _) rfl rfl)))
  | some record =>
    have same : (entry.modifyRecord update).slot = some (update record) := by
      simp [ProducerEntry.modifyRecord, found]
    exact .single (.reduce found same (reduces record) (.silent (List.Sublist.refl _) rfl rfl)
      (published record) rfl)

theorem Moves.settle {middle : ProducerEntry} {state : ProducerState}
    (settles : Settles middle after settled) (found : entry.slot = some record)
    (slot : middle.slot = some { record with state }) (reduces : record.state.Reduces state)
    (keeps : Keeps entry middle)
    (published : state.lastSequenceIdPublished = record.state.lastSequenceIdPublished)
    (silent : middle.log = entry.log) : Moves single codecs entry after :=
  .single (.reduce found (settles.slot.trans slot) reduces (keeps.trans settles.keeps) published
    (settles.silent.trans (congrArg acknowledgements silent)))

theorem Moves.flushState (entry : ProducerEntry) (update : ProducerState → ProducerState)
    (flushes : ∀ state, ProducerState.MaybeFlushed single codecs state (update state)) :
    Moves single codecs entry (entry.modifyState update) := by
  cases found : entry.slot with
  | none =>
    have same : (entry.modifyState update).slot = none := by
      simp [modifyState, ProducerEntry.modifyRecord, found]
    exact .single (.vacate same (.inl (.silent (List.Sublist.refl _) rfl rfl)))
  | some record =>
    have result : entry.modifyState update = entry.withState record (update record.state) := by
      simp [modifyState, ProducerEntry.modifyRecord, withState, found]
    rw [result]
    rcases flushes record.state with same | ⟨publishTimeMs, flushed⟩
    · rw [same]
      exact .single (.reduce found rfl (.refl _) (.silent (List.Sublist.refl _) rfl rfl) rfl rfl)
    · rw [flushed]
      exact .single (.flush found publishTimeMs)

namespace ProducerEntry

section

variable (entry : ProducerEntry)

theorem terminalizeSlot_moves (update : ProducerState → ProducerState)
    (closing : ∀ state : ProducerState, state.Reduces (update state))
    (published : ∀ state : ProducerState,
      (update state).lastSequenceIdPublished = state.lastSequenceIdPublished) (reason : String) :
    Moves single codecs entry (entry.terminalizeSlot update reason) := by
  cases found : entry.slot with
  | none =>
    rw [show entry.terminalizeSlot update reason = entry by simp [terminalizeSlot, found]]
  | some record =>
    exact .settle (terminalizeSlot_settles found update reason) found rfl
      (ProducerState.drainPendingSends_reduces (closing record.state))
      (.silent (List.Sublist.refl _) rfl rfl) (published record.state) rfl

theorem terminalizeSnapshotBucket_moves (reason : String) :
    Moves single codecs entry (entry.terminalizeSnapshotBucket reason) := by
  have settles := entry.terminalizeSnapshotBucket_settles reason
  have emptied : Keeps entry { entry with snapshots := [] } :=
    .silent (List.nil_sublist _) rfl rfl
  exact .single (.still settles.slot (emptied.trans settles.keeps) settles.silent)

theorem failOpen_moves (reason : String) : Moves single codecs entry (entry.failOpen reason) := by
  have drained : Moves single codecs entry (entry.terminalizeSlot _ reason) :=
    entry.terminalizeSlot_moves (fun state => { state with closed := true, brokerReady := false })
      (fun _ => ⟨List.Sublist.refl _, .inl ⟨rfl, rfl⟩, fun _ => rfl, by simp,
        fun indexed => indexed.congr rfl rfl, rfl⟩) (fun _ => rfl) reason
  refine (drained.trans (terminalizeSnapshotBucket_moves _ reason)).tail ?_
  exact .vacate rfl (.inl (.silent (List.Sublist.refl _) rfl rfl))

theorem shutGate_moves : Moves single codecs entry entry.shutGate :=
  .modifyRecord entry _ (fun record => record.state.shut_reduces) fun _ => rfl

theorem openFailedTransiently_moves (maxRetries : Option Nat) (reason : String) :
    Moves single codecs entry (entry.openFailedTransiently maxRetries reason) := by
  have failed : Moves single codecs entry (entry.shutGate.modifyRecord _) :=
    entry.shutGate_moves.trans (Moves.modifyRecord entry.shutGate (fun record =>
      { record with
        transientOpenAttempts := min (record.transientOpenAttempts + 1) (2 ^ 32 - 1) })
      (fun record => .refl record.state) fun _ => rfl)
  unfold openFailedTransiently
  dsimp only
  split
  · exact failed
  · exact failed.trans (failOpen_moves _ reason)

theorem closeAcked_moves (requestId : Nat) :
    Moves single codecs entry (entry.closeAcked requestId) := by
  unfold closeAcked
  split
  · exact (entry.terminalizeSlot_moves id (fun state => .refl state) (fun _ => rfl) _).trans
      (terminalizeSnapshotBucket_moves _ _)
  · exact .refl

theorem failAll_moves (reason : String) : Moves single codecs entry (entry.failAll reason) := by
  have drained : Moves single codecs entry (entry.terminalizeSlot _ reason) :=
    entry.terminalizeSlot_moves (fun state => { state with closed := true })
      (fun state => state.close_reduces) (fun _ => rfl) reason
  refine (drained.trans (terminalizeSnapshotBucket_moves _ reason)).tail ?_
  have slab := terminalizeSlab_settles ((entry.terminalizeSlot
    (fun state => { state with closed := true }) reason).terminalizeSnapshotBucket reason) reason
  exact .still slab.slot slab.keeps slab.silent

end

theorem reset_settles (found : entry.slot = some record) :
    Settles (entry.disconnected record) entry.reset
      ((unreplayable record).map fun op => (op.sequenceId, batchLost op)) := by
  have settles := (setAside_settles found).trans entry.setAside.sweepSlab_settles
  rw [List.append_nil] at settles
  obtain ⟨slab, outcomes, events, same, rest⟩ := settles
  refine ⟨slab, outcomes, events, ?_, rest⟩
  rw [reset, same]
  rfl

section

variable (entry : ProducerEntry)

theorem reset_cases :
    entry.slot = none ∧ Move single codecs entry entry.reset ∨
      ∃ record, entry.slot = some record ∧ Settles (entry.disconnected record) entry.reset
        ((unreplayable record).map fun op => (op.sequenceId, batchLost op)) := by
  cases found : entry.slot with
  | none =>
    have same : entry.setAside = entry := by simp [setAside, found]
    have swept := entry.sweepSlab_settles
    have result : entry.reset = { entry.sweepSlab with buffered := [] } := by rw [reset, same]
    refine .inl ⟨rfl, ?_⟩
    rw [result]
    refine .vacate (swept.slot.trans found) (.inr ?_)
    obtain ⟨events, log, replies⟩ := swept.keeps.log
    exact ⟨swept.keeps.snapshots, rfl, events, log, replies⟩
  | some record => exact .inr ⟨record, rfl, reset_settles found⟩

theorem registerWaker_moves (seq waker : Nat) :
    Moves single codecs entry (entry.registerWaker seq waker) := by
  unfold registerWaker
  split
  · exact .single (.still rfl (entry.wake_settles _).keeps (entry.wake_settles _).silent)
  · cases found : entry.slot with
    | none => exact .single (.vacate rfl (.inl (.silent (List.Sublist.refl _) rfl rfl)))
    | some record =>
      dsimp only
      split
      · exact .single (.reduce found rfl (record.state.setWaker_reduces seq _)
          (.silent (List.Sublist.refl _) rfl rfl)
          (record.state.setWaker_published seq (some waker)) rfl)
      · exact .single (.reduce found rfl (.refl _) (.silent (List.Sublist.refl _) rfl rfl) rfl rfl)

theorem unregisterWaker_moves (seq : Nat) :
    Moves single codecs entry (entry.unregisterWaker seq) := by
  have dropped : Moves single codecs entry { entry with slab := entry.slab.erase seq } :=
    .single (.still rfl (.silent (List.Sublist.refl _) rfl rfl) rfl)
  exact dropped.trans (Moves.modifyRecord _ _
    (fun record => record.state.setWaker_reduces seq none)
    fun record => record.state.setWaker_published seq none)

theorem flushDueBatch_moves (publishTimeMs now : Nat) :
    Moves single codecs entry (entry.flushDueBatch single codecs publishTimeMs now) := by
  apply Moves.flushState entry
  intro state
  split
  · exact .inr ⟨publishTimeMs, rfl⟩
  · exact .inl rfl

theorem drainOutbound_moves : Moves single codecs entry entry.drainOutbound := by
  rcases entry.drainOutbound_cases with same | ⟨record, found, ready⟩
  · rw [same]
  · exact .single (.drain found ready)

end

/-- An operation on an empty slot that only acts through the slot. -/
theorem slotless (same : after = entry) : Moves single codecs entry after := by
  rw [same]

end ProducerEntry

structure Received (before : ProducerEntry) (record : ProducerRecord) (receipt : CommandSendReceipt)
    (after : ProducerEntry) (record' : ProducerRecord) : Prop where
  slot : after.slot = some record'
  state : record'.state = (record.state.handleSendReceipt receipt).2
  keeps : Keeps before after
  acknowledged : acknowledgements after.log = acknowledgements before.log ++ [receipt]

theorem sendReceipt_received (found : entry.slot = some record) (receipt : CommandSendReceipt) :
    ∃ record', Received entry record receipt (entry.sendReceipt receipt) record' := by
  have settles := sendReceipt_settles found receipt
  have noted : Keeps entry
      ((entry.withState record (record.state.handleSendReceipt receipt).2).observe
        [.acknowledged receipt]) :=
    ⟨List.Sublist.refl _, rfl, [.acknowledged receipt], rfl, by simp [Replies, isReply]⟩
  exact ⟨_, settles.slot, rfl, noted.trans settles.keeps,
    settles.silent.trans (acknowledgements_append _ _)⟩

/-- An operation that neither opens nor attaches a producer, nor sends, nor settles a receipt, nor
loses the connection. -/
def EntryOp.isPlain : EntryOp → Bool
  | .create _ _ _ | .attach _ _ | .queueSend _ _ _ _ _ | .sendReceipt _ | .reset => false
  | _ => true

theorem entryStep_moves (entry : ProducerEntry) {op : EntryOp} (plain : op.isPlain = true) :
    Moves single codecs entry (entryStep single codecs entry op) := by
  cases op with
  | create | queueSend | sendReceipt | attach | reset => cases plain
  | openEmitted =>
    exact .modifyRecord entry _ (fun record => .refl record.state) fun _ => rfl
  | flushBatch => exact .flushState entry _ fun state => .inr ⟨_, rfl⟩
  | flushDueBatch => exact entry.flushDueBatch_moves _ _
  | drainOutbound => exact entry.drainOutbound_moves
  | pollTransmit => exact .single (.poll entry)
  | sendError err =>
    cases found : entry.slot with
    | none => exact slotless (by simp [entryStep, sendError, found])
    | some record =>
      exact .settle (sendError_settles found err) found rfl
        (record.state.applySendError_reduces err)
        (.silent (List.Sublist.refl _) rfl rfl) (record.state.applySendError_published err) rfl
  | shutGate => exact entry.shutGate_moves
  | openFailedTransiently => exact entry.openFailedTransiently_moves _ _
  | failOpen reason => exact entry.failOpen_moves reason
  | dropSlot =>
    exact .single (.vacate rfl (.inl (.silent (List.Sublist.refl _) rfl rfl)))
  | closeRequested =>
    exact .modifyRecord entry _ (fun record => record.state.close_reduces) fun _ => rfl
  | closeAcked requestId => exact entry.closeAcked_moves requestId
  | cancelOpen => exact .single (.vacate rfl (.inl (.silent (List.nil_sublist _) rfl rfl)))
  | discardSnapshots =>
    exact .single (.still rfl (.silent (List.nil_sublist _) rfl rfl) rfl)
  | timeoutPending now =>
    cases found : entry.slot with
    | none => exact slotless (by simp [entryStep, timeoutPending, found])
    | some record =>
      exact .settle (timeoutPending_settles found now) found rfl
        (record.state.drainTimedOutSends_reduces now)
        (.silent (List.Sublist.refl _) rfl rfl)
        (record.state.drainTimedOutSends_published now) rfl
  | timeoutSnapshots now =>
    have settles := entry.timeoutSnapshots_settles now
    have dropped : Keeps entry
        { entry with snapshots := entry.snapshots.drop (entry.expiredSnapshots now).length } :=
      .silent (List.drop_sublist _ _) rfl rfl
    exact .single (.still settles.slot (dropped.trans settles.keeps) settles.silent)
  | failAll reason => exact entry.failAll_moves reason
  | registerWaker seq waker => exact entry.registerWaker_moves seq waker
  | unregisterWaker seq => exact entry.unregisterWaker_moves seq
  | takeOutcome => exact .single (.still rfl (.silent (List.Sublist.refl _) rfl rfl) rfl)

/-! ### Sends -/

variable (codecs) in
/-- The entry once a message is accepted by a producer with no batch in its way. -/
structure Accepted (before after : ProducerEntry) (msg : OutgoingMessage) (record : ProducerRecord)
    (op : OpSend) (batch : BatchContainer) (state : ProducerState) : Prop where
  slot : before.slot = some record
  opened : record.state.closed = false
  accepts : record.state.Accepts codecs msg op batch state
  after_eq : after =
    (before.withState record state).observe [.minted record.state.nextSequenceId msg]

theorem flushed_moves {state : ProducerState} (found : entry.slot = some record)
    (flushed : record.state.MaybeFlushed single codecs state) :
    Moves single codecs entry (entry.withState record state) := by
  rcases flushed with rfl | ⟨publishTimeMs, rfl⟩
  · exact .single (.reduce found rfl (.refl _) (.silent (List.Sublist.refl _) rfl rfl) rfl rfl)
  · exact .single (.flush found publishTimeMs)

theorem flushed_nextSequenceId {before after : ProducerState}
    (flushed : before.MaybeFlushed single codecs after) :
    after.nextSequenceId = before.nextSequenceId ∧ after.closed = before.closed := by
  rcases flushed with rfl | ⟨publishTimeMs, rfl⟩
  · exact ⟨rfl, rfl⟩
  · unfold ProducerState.flushBatch
    split <;> exact ⟨rfl, rfl⟩

variable (single codecs) in
/-- Every way a send can end, for an entry with a producer. -/
inductive Queued (entry : ProducerEntry) (record : ProducerRecord) (msg : OutgoingMessage) :
    ProducerEntry → Prop
  | rejected {state : ProducerState} (flushed : record.state.MaybeFlushed single codecs state) :
      Queued entry record msg (entry.withState record state)
  | accepted {room placed state : ProducerState} {op : OpSend} {batch : BatchContainer}
      (flushed : record.state.MaybeFlushed single codecs room) (opened : room.closed = false)
      (next : room.nextSequenceId = record.state.nextSequenceId)
      (accepts : room.Accepts codecs msg op batch placed)
      (filled : placed.MaybeFlushed single codecs state) :
      Queued entry record msg
        ((entry.withState record state).observe [.minted record.state.nextSequenceId msg])

theorem queueSend_queued (found : entry.slot = some record) (msg : OutgoingMessage) (uuid : String)
    (reservation publishTimeMs now : Nat) :
    Queued single codecs entry record msg
      (entry.queueSend single codecs msg uuid reservation publishTimeMs now) := by
  have sends := record.state.queueSendReserved_sends single codecs msg uuid reservation
    publishTimeMs now
  unfold queueSend
  rw [found]
  dsimp only
  generalize record.state.queueSendReserved single codecs msg uuid reservation publishTimeMs
    now = result at sends ⊢
  obtain ⟨outcome, left, state⟩ := result
  cases sends with
  | rejected flushed =>
    have silent : (entry.withState record state).observe [] = entry.withState record state := by
      simp [observe]
    change Queued single codecs entry record msg ((entry.withState record state).observe [])
    rw [silent]
    exact .rejected flushed
  | accepted opened flushed accepts filled =>
    obtain ⟨next, closed⟩ := flushed_nextSequenceId flushed
    exact .accepted flushed (closed.trans opened) next accepts filled

/-- The acceptance in the middle of an accepted send. -/
theorem accepted_of_room {msg : OutgoingMessage}
    {room placed : ProducerState} {op : OpSend} {batch : BatchContainer}
    (opened : room.closed = false) (next : room.nextSequenceId = record.state.nextSequenceId)
    (accepts : room.Accepts codecs msg op batch placed) :
    Accepted codecs (entry.withState record room)
      ((entry.withState record placed).observe [.minted record.state.nextSequenceId msg]) msg
      { record with state := room } op batch placed :=
  ⟨rfl, opened, accepts, by rw [← next]; rfl⟩

theorem queueSend_cases (entry : ProducerEntry) (msg : OutgoingMessage) (uuid : String)
    (reservation publishTimeMs now : Nat) :
    Moves single codecs entry
        (entry.queueSend single codecs msg uuid reservation publishTimeMs now) ∨
      ∃ room accepted record op batch state, Moves single codecs entry room ∧
        room.snapshots = entry.snapshots ∧
        room.slot.map (·.state.nextSequenceId) = entry.slot.map (·.state.nextSequenceId) ∧
        Accepted codecs room accepted msg record op batch state ∧
        Moves single codecs accepted
          (entry.queueSend single codecs msg uuid reservation publishTimeMs now) := by
  cases found : entry.slot with
  | none => exact .inl (slotless (by simp [queueSend, found]))
  | some record =>
    have queued : Queued single codecs entry record msg _ :=
      queueSend_queued found msg uuid reservation publishTimeMs now
    generalize entry.queueSend single codecs msg uuid reservation publishTimeMs now = after
      at queued
    cases queued with
    | rejected flushed => exact .inl (flushed_moves found flushed)
    | @accepted room placed state op batch flushed opened next accepts filled =>
      right
      let minted : ProducerEntry :=
        (entry.withState record placed).observe [.minted record.state.nextSequenceId msg]
      have sent : Moves single codecs minted
          (minted.withState { record with state := placed } state) :=
        flushed_moves rfl filled
      exact ⟨entry.withState record room, minted, { record with state := room }, op, batch,
        placed, flushed_moves found flushed, rfl, congrArg some next,
        accepted_of_room opened next accepts, sent⟩

/-! ### The invariant rule -/

/-- The sequence counter has room for one more id, and a new producer finds nothing set aside under
its handle. -/
def unwrapped (entry : ProducerEntry) : EntryOp → Bool
  | .create _ _ _ => entry.snapshots.isEmpty
  | .queueSend _ _ _ _ _ => entry.slot.all fun record => record.state.nextSequenceId + 1 < 2 ^ 64
  | _ => true

theorem Moves.invariant (invariant : ProducerEntry → Prop)
    (move : ∀ before after, invariant before → Move single codecs before after → invariant after)
    (moves : Moves single codecs before after)
    (initial : invariant before) : invariant after := by
  induction moves with
  | refl => exact initial
  | tail _ last ih => exact move _ _ ih last

/-- What an open, an attach, a receipt, an acceptance, a lost connection and every move preserve,
every operation preserves while the counters do not wrap and it meets `guard`. -/
theorem entryStep_invariant (guard : ProducerEntry → EntryOp → Prop)
    (invariant : ProducerEntry → Prop) (opens : ∀ entry handle maxMessageSize req, invariant entry →
      guard entry (.create handle maxMessageSize req) → entry.snapshots = [] →
      invariant (entry.create handle maxMessageSize req))
    (attaches : ∀ before after record record' producerName lastSequenceId, invariant before →
      guard before (.attach producerName lastSequenceId) → before.slot = some record →
      Attached before record lastSequenceId after record' → invariant after)
    (receives : ∀ before after record record' receipt, invariant before →
      guard before (.sendReceipt receipt) → before.slot = some record →
      Received before record receipt after record' → invariant after)
    (accepts : ∀ before after msg record op batch state, invariant before →
      record.state.nextSequenceId + 1 < 2 ^ 64 →
      Accepted codecs before after msg record op batch state → invariant after)
    (disconnects : ∀ before after record, invariant before → before.slot = some record →
      Settles (before.disconnected record) after
        ((unreplayable record).map fun op => (op.sequenceId, batchLost op)) → invariant after)
    (move : ∀ before after, invariant before → Move single codecs before after → invariant after)
    (entry : ProducerEntry) (op : EntryOp) (holds : invariant entry)
    (regular : unwrapped entry op = true) (meets : guard entry op) :
    invariant (entryStep single codecs entry op) := by
  cases plain : op.isPlain with
  | true => exact Moves.invariant invariant move (entryStep_moves entry plain) holds
  | false =>
    cases op with
    | create => exact opens entry _ _ _ holds meets (List.isEmpty_iff.mp regular)
    | attach producerName lastSequenceId =>
      cases found : entry.slot with
      | none =>
        have same : entryStep single codecs entry (.attach producerName lastSequenceId) =
            entry := by
          simp [entryStep, attach, found]
        rw [same]
        exact holds
      | some =>
        obtain ⟨record', attached⟩ := attach_attached found producerName lastSequenceId
        exact attaches _ _ _ _ producerName _ holds meets found attached
    | sendReceipt receipt =>
      cases found : entry.slot with
      | none =>
        have same : entryStep single codecs entry (.sendReceipt receipt) = entry := by
          simp [entryStep, sendReceipt, found]
        rw [same]
        exact holds
      | some =>
        obtain ⟨record', received⟩ := sendReceipt_received found receipt
        exact receives _ _ _ _ receipt holds meets found received
    | queueSend msg uuid reservation publishTimeMs now =>
      rcases queueSend_cases entry msg uuid reservation publishTimeMs now with
        only | ⟨room, accepted, record, op, batch, state, first, -, next, accepts', last⟩
      · exact Moves.invariant invariant move only holds
      · have bounded : record.state.nextSequenceId + 1 < 2 ^ 64 := by
          rw [accepts'.slot] at next
          obtain ⟨found, there, same⟩ := Option.map_eq_some_iff.mp next.symm
          have same : found.state.nextSequenceId = record.state.nextSequenceId := same
          rw [unwrapped, there] at regular
          rw [← same]
          exact of_decide_eq_true regular
        exact Moves.invariant invariant move last
          (accepts _ _ _ _ _ _ _ (Moves.invariant invariant move first holds) bounded accepts')
    | reset =>
      rcases reset_cases entry with ⟨-, only⟩ | ⟨record, found, settles⟩
      · exact move _ _ holds only
      · exact disconnects _ _ _ holds found settles
    | _ => cases plain

end Magnetar.Proto.Connection
