import Magnetar.Proto.Connection.Replay
import Magnetar.Proto.Connection.Replies
import Magnetar.Proto.Connection.Silence

/-!
Contract: how a chunked send ends.

Owns: that a send succeeds by a receipt for it and by nothing else, that a send keeps its frames
until it is settled, and what both mean for a message sent in chunks: the first receipt settles it
whole, and until it is settled every attach stages all of its chunks.

Does not own: the content of the chunks (`Producer.Chunking`).
-/

namespace Magnetar.Proto.Connection

open Library.Machine Pb External Producer ProducerEntry ProducerSide ProducerState

variable {single : Prost SingleMessageMetadata} {codecs : Codecs}

/-! ### Operations that only fail sends -/

/-- Every send settled meanwhile has failed. -/
def Fails (before after : ProducerEntry) : Prop :=
  ∃ events, after.log = before.log ++ events ∧ ∀ item ∈ resolutions events, item.2.isError = true

variable {settled : List (Nat × OpOutcome)}

namespace Fails

variable {before middle after : ProducerEntry}

theorem of_log (same : after.log = before.log) : Fails before after :=
  ⟨[], by rw [same, List.append_nil], fun _ member => absurd member List.not_mem_nil⟩

theorem trans (one : Fails before middle) (two : Fails middle after) : Fails before after := by
  obtain ⟨events, log, failed⟩ := one
  obtain ⟨events', log', failed'⟩ := two
  refine ⟨events ++ events', by rw [log', log, List.append_assoc], ?_⟩
  rw [resolutions_append, List.forall_mem_append]
  exact ⟨failed, failed'⟩

theorem of_settles (settles : Settles middle after settled)
    (same : middle.log = before.log) (failed : ∀ item ∈ settled, item.2.isError = true) :
    Fails before after := by
  obtain ⟨slab, outcomes, events, rfl, -, rfl, -⟩ := settles
  exact ⟨events, by rw [← same], failed⟩

theorem of_all {ops : List OpSend} {outcome : OpSend → OpOutcome}
    (settles : Settles middle after (ops.map fun op => (op.sequenceId, outcome op)))
    (same : middle.log = before.log) (failed : ∀ op, (outcome op).isError = true) :
    Fails before after :=
  of_settles settles same (List.forall_mem_map.mpr fun op _ => failed op)

section

variable (entry : ProducerEntry)

theorem terminalizeSlot (update : ProducerState → ProducerState)
    (reason : String) : Fails entry (entry.terminalizeSlot update reason) := by
  cases found : entry.slot with
  | none => exact of_log (by simp [ProducerEntry.terminalizeSlot, found])
  | some => exact of_all (terminalizeSlot_settles found update reason) rfl fun _ => rfl

theorem terminalizeSnapshotBucket (reason : String) :
    Fails entry (entry.terminalizeSnapshotBucket reason) :=
  of_all (terminalizeSnapshotBucket_settles entry reason) rfl fun _ => rfl

theorem failOpen (reason : String) : Fails entry (entry.failOpen reason) :=
  ((terminalizeSlot entry _ reason).trans (terminalizeSnapshotBucket _ reason)).trans (of_log rfl)

theorem failAll (reason : String) : Fails entry (entry.failAll reason) :=
  ((terminalizeSlot entry _ reason).trans (terminalizeSnapshotBucket _ reason)).trans
    (of_settles (terminalizeSlab_settles _ reason) rfl
      (List.forall_mem_map.mpr fun _ _ => rfl))

theorem openFailedTransiently (maxRetries : Option Nat) (reason : String) :
    Fails entry (entry.openFailedTransiently maxRetries reason) := by
  unfold ProducerEntry.openFailedTransiently
  dsimp only
  split
  · exact of_log rfl
  · exact (of_log rfl).trans (failOpen _ reason)

theorem closeAcked (requestId : Nat) : Fails entry (entry.closeAcked requestId) := by
  unfold ProducerEntry.closeAcked
  split
  · exact (terminalizeSlot entry id _).trans (terminalizeSnapshotBucket _ _)
  · exact of_log rfl

theorem reset : Fails entry entry.reset := by
  cases found : entry.slot with
  | none =>
    have same : entry.setAside = entry := by simp [setAside, found]
    have swept : Fails entry entry.sweepSlab :=
      of_settles entry.sweepSlab_settles rfl fun _ member => absurd member List.not_mem_nil
    rw [ProducerEntry.reset, same]
    exact swept.trans (of_log rfl)
  | some => exact of_all (reset_settles found) rfl fun _ => rfl

theorem registerWaker (seq waker : Nat) : Fails entry (entry.registerWaker seq waker) := by
  unfold ProducerEntry.registerWaker
  split
  · exact of_settles (entry.wake_settles _) rfl fun _ member => absurd member List.not_mem_nil
  · split
    · exact of_log rfl
    · dsimp only
      split <;> exact of_log rfl

theorem pollTransmit : Fails entry entry.pollTransmit := by
  refine ⟨entry.buffered.map SendEvent.ofReleased, rfl, ?_⟩
  intro item member
  obtain ⟨event, handed, resolved⟩ := List.mem_filterMap.mp member
  obtain ⟨released, -, rfl⟩ := List.mem_map.mp handed
  cases resolved

theorem attach (producerName : String) (lastSequenceId : Option Int) :
    Fails entry (entry.attach producerName lastSequenceId) := by
  cases found : entry.slot with
  | none => exact of_log (by simp [ProducerEntry.attach, found])
  | some =>
    obtain ⟨record', attached⟩ := attach_attached found producerName lastSequenceId
    exact ⟨[.attached lastSequenceId], attached.log, by simp [resolutions, SendEvent.resolved?]⟩

theorem queueSend (msg : OutgoingMessage) (uuid : String) (reservation publishTimeMs now : Nat) :
    Fails entry (entry.queueSend single codecs msg uuid reservation publishTimeMs now) := by
  rcases entry.queueSend_concludes msg uuid reservation publishTimeMs now with
    rejected | ⟨record, -, log, -⟩
  · obtain ⟨events, log, -, none⟩ := rejected.log
    exact ⟨events, log, by simp [none]⟩
  · exact ⟨_, log, by simp [resolutions, SendEvent.resolved?]⟩

end

end Fails

variable {op : EntryOp}

/-- Only a receipt makes a send succeed. -/
theorem entryStep_fails (entry : ProducerEntry)
    (opens : ∀ handle maxMessageSize req, op ≠ .create handle maxMessageSize req)
    (receives : ∀ receipt, op ≠ .sendReceipt receipt) :
    Fails entry (entryStep single codecs entry op) := by
  cases op with
  | create => exact absurd rfl (opens _ _ _)
  | queueSend msg uuid => exact .queueSend entry msg uuid _ _ _
  | drainOutbound => exact .of_log entry.drainOutbound_log
  | pollTransmit => exact .pollTransmit entry
  | sendReceipt receipt => exact absurd rfl (receives receipt)
  | sendError err =>
    cases found : entry.slot with
    | none => exact .of_log (by simp [entryStep, ProducerEntry.sendError, found])
    | some =>
      exact .of_settles (sendError_settles found err) rfl
        (List.forall_mem_map.mpr fun _ _ => rfl)
  | attach => exact .attach entry _ _
  | openFailedTransiently => exact .openFailedTransiently entry _ _
  | failOpen reason => exact .failOpen entry reason
  | closeAcked requestId => exact .closeAcked entry requestId
  | reset => exact .reset entry
  | timeoutPending now =>
    cases found : entry.slot with
    | none => exact .of_log (by simp [entryStep, ProducerEntry.timeoutPending, found])
    | some => exact .of_all (timeoutPending_settles found now) rfl fun _ => rfl
  | timeoutSnapshots now => exact .of_all (entry.timeoutSnapshots_settles now) rfl fun _ => rfl
  | failAll reason => exact .failAll entry reason
  | registerWaker seq waker => exact .registerWaker entry seq waker
  | _ => exact .of_log rfl

/-! ### Successes -/

/-- The send is covered by the last receipt of the log, and no attach came after it. -/
def ReceiptFor (seq : Nat) (log : List SendEvent) : Prop :=
  ∃ front receipt middle, log = front ++ .acknowledged receipt :: middle ∧
    covers receipt seq = true ∧ acknowledgements middle = [] ∧ attaches middle = 0

/-- Every success in the log follows its receipt. -/
def Answered (log : List SendEvent) : Prop :=
  ∀ earlier seq outcome later, log = earlier ++ .resolved seq outcome :: later →
    outcome.isError = false → ReceiptFor seq earlier

variable {record : ProducerRecord}

namespace Answered

variable {entry before after : ProducerEntry}

theorem fail (answered : Answered before.log) (fails : Fails before after) :
    Answered after.log := by
  obtain ⟨events, log, failed⟩ := fails
  intro earlier seq outcome later split succeeded
  rw [log] at split
  rcases append_eq_append_cons split with ⟨rest, old, -⟩ | ⟨first, -, new⟩
  · exact answered earlier seq outcome rest old succeeded
  · have member : (seq, outcome) ∈ resolutions events := by
      rw [new]
      exact List.mem_filterMap.mpr ⟨.resolved seq outcome, by simp, rfl⟩
    have error := failed _ member
    rw [succeeded] at error
    cases error

/-- What a receipt settles is noted right behind it. -/
theorem receipt (answered : Answered entry.log)
    (found : entry.slot = some record) (indexed : record.state.Indexed)
    (receipt : CommandSendReceipt) : Answered (entry.sendReceipt receipt).log := by
  obtain ⟨slab, outcomes, events, same, replies, resolved, unacknowledged⟩ :=
    sendReceipt_settles found receipt
  have log : (entry.sendReceipt receipt).log = entry.log ++ (.acknowledged receipt :: events) := by
    rw [same]
    exact List.append_assoc _ _ _
  intro earlier seq outcome later split succeeded
  rw [log] at split
  rcases append_eq_append_cons split with ⟨rest, old, -⟩ | ⟨first, rfl, new⟩
  · exact answered earlier seq outcome rest old succeeded
  · cases first with
    | nil => cases new
    | cons _ middle =>
      rw [List.cons_append, List.cons.injEq] at new
      obtain ⟨rfl, rfl⟩ := new
      rw [acknowledgements_append, List.append_eq_nil_iff] at unacknowledged
      refine ⟨entry.log, receipt, middle, rfl, ?_, unacknowledged.1, ?_⟩
      · have member : (seq, outcome) ∈
            (record.state.handleSendReceipt receipt).1.map receiptOutcome := by
          rw [← resolved]
          exact List.mem_filterMap.mpr ⟨.resolved seq outcome, by simp, rfl⟩
        obtain ⟨item, settled, named⟩ := List.mem_map.mp member
        have covered := (handleSendReceipt_resolves receipt indexed).1.subset
          (List.mem_map_of_mem settled)
        have id : item.1.sequenceId = seq := congrArg Prod.fst named
        rw [← id]
        exact (List.mem_filter.mp covered).2
      · apply Replies.attaches
        exact fun event member => replies event (List.mem_append_left _ member)

theorem step (layout : Layout entry) (answered : Answered entry.log) :
    Answered (entryStep single codecs entry op).log := by
  by_cases opens : ∃ handle maxMessageSize req, op = .create handle maxMessageSize req
  · obtain ⟨handle, maxMessageSize, req, rfl⟩ := opens
    intro earlier seq outcome later split
    have member : SendEvent.resolved seq outcome ∈ [SendEvent.opened req] := by
      change [SendEvent.opened req] = _ at split
      rw [split]
      simp
    cases List.mem_singleton.mp member
  by_cases receives : ∃ receipt, op = .sendReceipt receipt
  · obtain ⟨receipt, rfl⟩ := receives
    cases found : entry.slot with
    | none =>
      have same : entryStep single codecs entry (.sendReceipt receipt) = entry := by
        simp [entryStep, ProducerEntry.sendReceipt, found]
      rw [same]
      exact answered
    | some record => exact answered.receipt found (layout.indexed record found) receipt
  refine answered.fail (entryStep_fails entry ?_ ?_)
  · exact fun handle maxMessageSize req same => opens ⟨handle, maxMessageSize, req, same⟩
  · exact fun receipt same => receives ⟨receipt, same⟩

end Answered

variable {handle : Nat}

theorem run_answered (config : ProducerConfig) {ops : List Op}
    (fits : Guarded (step single codecs) (fun side op => side.countersFit handle op = true)
      (start config) ops) :
    Answered ((run (step single codecs) (start config) ops).entries handle).log := by
  have both := run_unwrapped_invariant
    (start_reserved config) fits (fun entry => Layout entry ∧ Answered entry.log)
    (fun _ _ holds regular => ⟨holds.1.step regular, holds.2.step holds.1⟩)
    ⟨.empty, by simp [Answered, start]⟩
  exact both.2

/-! ### A send keeps its frames -/

/-- The id is given out, and the send that has it, if it is unsettled, has these frames. -/
structure Holds (seq : Nat) (frames : List OutboundFrame) (entry : ProducerEntry) : Prop where
  below : ∀ record, entry.slot = some record → seq < record.state.nextSequenceId
  frames : ∀ op ∈ entry.unsettled, op.sequenceId = seq → op.replayFrames = frames

/-- An operation that neither gives the handle to a new producer nor drops the send without an
outcome. -/
def retains (seq : Nat) (entry : ProducerEntry) : EntryOp → Bool
  | .create _ _ _ => false
  | op => !(entry.lostIds op).contains seq

variable {entry : ProducerEntry}

theorem retains_not_lost {seq : Nat}
    (retained : retains seq entry op = true) : seq ∉ entry.lostIds op := by
  cases op with
  | create => cases retained
  | _ => simpa [retains] using retained

theorem mem_unsettled_of_some {op : OpSend} (found : entry.slot = some record) :
    op ∈ entry.unsettled ↔ op ∈ entry.snapshots ∨ op ∈ record.state.pending := by
  rw [unsettled, found, List.mem_append]
  rfl

theorem mem_unsettled_of_none {op : OpSend} (empty : entry.slot = none) :
    op ∈ entry.unsettled ↔ op ∈ entry.snapshots := by
  rw [unsettled, empty, List.mem_append]
  simp

variable {msg : OutgoingMessage}

namespace Holds

variable {seq : Nat} {frames : List OutboundFrame} {before after : ProducerEntry}
  {record record' : ProducerRecord}

section

variable (holds : Holds seq frames before)

include holds

/-- The sends of `after` are sends of `before`, with the same ids and frames. -/
theorem restate (below : ∀ record, after.slot = some record → seq < record.state.nextSequenceId)
    (known : ∀ op ∈ after.unsettled, ∃ old ∈ before.unsettled,
      op.sequenceId = old.sequenceId ∧ op.replayFrames = old.replayFrames) :
    Holds seq frames after := by
  refine ⟨below, ?_⟩
  intro op member id
  obtain ⟨old, among, sameId, sameFrames⟩ := known op member
  rw [sameFrames]
  exact holds.frames old among (sameId.symm.trans id)

theorem reduce (slot : before.slot = some record)
    (slot' : after.slot = some record') (reduces : record.state.Reduces record'.state)
    (snapshots : after.snapshots.Sublist before.snapshots) : Holds seq frames after := by
  refine holds.restate ?_ ?_
  · intro found there
    cases slot'.symm.trans there
    rw [reduces.rest]
    exact holds.below record slot
  · intro op member
    rcases (mem_unsettled_of_some slot').mp member with aside | pending
    · exact ⟨op, (mem_unsettled_of_some slot).mpr (.inl (snapshots.subset aside)), rfl, rfl⟩
    · obtain ⟨old, among, same⟩ := reduces.mem_pending pending
      exact ⟨old, (mem_unsettled_of_some slot).mpr (.inr among), same⟩

theorem vacate (empty : after.slot = none)
    (snapshots : after.snapshots.Sublist before.snapshots) : Holds seq frames after := by
  refine holds.restate ?_ ?_
  · intro record there
    rw [empty] at there
    cases there
  · intro op member
    have aside := snapshots.subset ((mem_unsettled_of_none empty).mp member)
    exact ⟨op, List.mem_append_left _ aside, rfl, rfl⟩

theorem move (moved : Move single codecs before after) : Holds seq frames after := by
  cases moved with
  | reduce slot slot' reduces keeps => exact holds.reduce slot slot' reduces keeps.snapshots
  | vacate empty keeps =>
    rcases keeps with keeps | keeps <;> exact holds.vacate empty keeps.snapshots
  | @flush record slot publishTimeMs =>
    refine holds.restate ?_ ?_
    · intro found there
      cases there
      rw [(flushed_nextSequenceId (.inr ⟨publishTimeMs, rfl⟩)).1]
      exact holds.below record slot
    · intro op member
      refine ⟨op, ?_, rfl, rfl⟩
      rw [mem_unsettled_of_some slot, ← flushBatch_pending record.state publishTimeMs]
      exact (mem_unsettled_of_some rfl).mp member
  | @drain record slot ready =>
    have slot' := drainOutbound_slot slot ready
    have snapshots : before.drainOutbound.snapshots = before.snapshots := by
      rw [drainOutbound_eq slot ready]
    refine holds.restate ?_ ?_
    · intro found there
      cases slot'.symm.trans there
      exact holds.below record slot
    · intro op member
      rw [mem_unsettled_of_some slot', snapshots] at member
      exact ⟨op, (mem_unsettled_of_some slot).mpr member, rfl, rfl⟩
  | poll => exact ⟨holds.below, holds.frames⟩

theorem attached {lastSequenceId : Option Int} (slot : before.slot = some record)
    (attached : Attached before record lastSequenceId after record') :
    Holds seq frames after := by
  obtain ⟨name, index, state⟩ := attached.state
  refine holds.restate ?_ ?_
  · intro found there
    cases attached.slot.symm.trans there
    rw [state]
    exact holds.below record slot
  · intro op member
    rw [mem_unsettled_of_some attached.slot, attached.snapshots, state] at member
    rcases member with none | all
    · cases none
    · exact ⟨op, (mem_unsettled_of_some slot).mpr (List.mem_append.mp all), rfl, rfl⟩

theorem accepted {op : OpSend} {batch : BatchContainer}
    {state : ProducerState} (bounded : record.state.nextSequenceId + 1 < 2 ^ 64)
    (accepted : Accepted codecs before after msg record op batch state) :
    Holds seq frames after := by
  have below := holds.below record accepted.slot
  have next := accepted.accepts.nextSequenceId_eq bounded
  have slot' : after.slot = some { record with state } := by rw [accepted.after_eq]; rfl
  have snapshots : after.snapshots = before.snapshots := by rw [accepted.after_eq]; rfl
  refine ⟨?_, ?_⟩
  · intro found there
    cases slot'.symm.trans there
    dsimp only
    omega
  · intro send member id
    rw [mem_unsettled_of_some slot', snapshots, accepted.accepts.pending_eq, List.mem_append,
      List.mem_singleton] at member
    rcases member with aside | pending | rfl
    · exact holds.frames send ((mem_unsettled_of_some accepted.slot).mpr (.inl aside)) id
    · exact holds.frames send ((mem_unsettled_of_some accepted.slot).mpr (.inr pending)) id
    · have fresh := accepted.accepts.id
      omega

theorem disconnected (slot : before.slot = some record)
    (settles : Settles (before.disconnected record) after settled) : Holds seq frames after := by
  obtain ⟨slab, outcomes, events, rfl, -⟩ := settles
  refine holds.restate ?_ ?_
  · intro found there
    cases there
    exact holds.below record slot
  · intro op member
    rcases (mem_unsettled_of_some rfl).mp member with aside | none
    · rcases List.mem_append.mp aside with older | replayed
      · exact ⟨op, (mem_unsettled_of_some slot).mpr (.inl older), rfl, rfl⟩
      · obtain ⟨old, pending, -, same⟩ := mem_replayable replayed
        exact ⟨old, (mem_unsettled_of_some slot).mpr (.inr pending), same⟩
    · cases none

end

theorem step (holds : Holds seq frames entry)
    (regular : unwrapped entry op = true) (retained : retains seq entry op = true) :
    Holds seq frames (entryStep single codecs entry op) := by
  refine entryStep_invariant (fun entry op => retains seq entry op = true) (Holds seq frames)
    ?_ ?_ ?_ ?_ ?_ ?_ entry op holds regular retained
  · intro entry handle maxMessageSize req _ taken
    cases taken
  · intro before after record record' _ _ holds _ slot attached
    exact holds.attached slot attached
  · intro before after record record' receipt holds _ slot received
    refine holds.reduce slot received.slot ?_ received.keeps.snapshots
    rw [received.state]
    exact record.state.handleSendReceipt_reduces receipt
  · intro before after msg record op batch state holds bounded accepted
    exact holds.accepted bounded accepted
  · intro before after record holds slot settles
    exact holds.disconnected slot settles
  · intro before after holds moved
    exact holds.move moved

end Holds

/-! ### Sends that are not lost -/

/-- The send has an outcome or is still to get one. -/
def Known (seq : Nat) (entry : ProducerEntry) : Prop :=
  seq ∈ resolvedIds entry.log ∨ seq ∈ entry.unsettledIds

namespace Known

variable {seq : Nat} {before after : ProducerEntry}

theorem grow (known : Known seq before) {events : List SendEvent}
    (log : after.log = before.log ++ events)
    (unsettled : seq ∈ before.unsettledIds → Known seq after) : Known seq after := by
  rcases known with resolved | waiting
  · left
    rw [log, resolvedIds_append]
    exact List.mem_append_left _ resolved
  · exact unsettled waiting

theorem conclude (known : Known seq before) {lost : List Nat}
    (concludes : Concludes before after settled lost) (retained : seq ∉ lost) :
    Known seq after := by
  obtain ⟨events, log, -, resolved⟩ := concludes.log
  refine known.grow log ?_
  intro waiting
  have accounted := concludes.unsettled.mem_iff.mpr waiting
  rw [List.mem_append, List.mem_append] at accounted
  rcases accounted with still | now | dropped
  · exact .inr still
  · left
    rw [log, resolvedIds_append, resolvedIds, resolvedIds, resolved]
    exact List.mem_append_right _ now
  · exact absurd dropped retained

theorem step (known : Known seq entry)
    (layout : Layout entry) (retained : retains seq entry op = true) :
    Known seq (entryStep single codecs entry op) := by
  cases accounted : op.isAccounted with
  | true =>
    obtain ⟨settled, concludes, -⟩ := entryStep_concludes entry layout.indexed accounted
    exact known.conclude concludes (retains_not_lost retained)
  | false =>
    cases op with
    | create => cases retained
    | attach producerName lastSequenceId =>
      obtain ⟨events, log, -⟩ := Fails.attach entry producerName lastSequenceId
      refine known.grow log fun waiting => .inr ?_
      change seq ∈ (entry.attach producerName lastSequenceId).unsettledIds
      rw [attach_unsettledIds]
      exact waiting
    | queueSend msg uuid reservation publishTimeMs now =>
      rcases entry.queueSend_concludes msg uuid reservation publishTimeMs now with
        rejected | ⟨record, -, log, unsettled, -⟩
      · exact known.conclude rejected List.not_mem_nil
      · refine known.grow log fun waiting => .inr ?_
        change seq ∈ (entry.queueSend single codecs msg uuid reservation publishTimeMs
          now).unsettledIds
        rw [unsettled]
        exact List.mem_append_left _ waiting
    | pollTransmit => exact known.grow rfl .inr
    | failAll reason =>
      obtain ⟨settled, concludes⟩ := entry.terminalize_concludes
        (fun state => { state with closed := true }) (fun _ => rfl) reason
      have failed := known.conclude concludes List.not_mem_nil
      obtain ⟨slab, outcomes, events, swept, -⟩ :=
        (entry.terminalize (fun state => { state with closed := true })
          reason).terminalizeSlab_settles reason
      change Known seq ((entry.terminalize _ reason).terminalizeSlab reason)
      rw [swept]
      exact failed.grow rfl .inr
    | _ => cases accounted

end Known

/-! ### Accepting a send with frames of its own -/

section Sending

variable {entry : ProducerEntry} {record : ProducerRecord} {msg : OutgoingMessage} {uuid : String}
  {reservation publishTimeMs now count : Nat}

section

variable
  (emits : (record.state.queueSendReserved single codecs msg uuid reservation publishTimeMs now).1 =
    .ok (.emit count))

include emits

theorem chunkFrames_of_emit (several : 2 ≤ count) :
    let sent := record.state.compressUnbatched codecs msg
    record.state.unbatchedFrames msg uuid publishTimeMs codecs =
        record.state.chunkFrames sent uuid publishTimeMs ∧
      (record.state.chunkFrames sent uuid publishTimeMs).length = count := by
  intro sent
  obtain ⟨room, op, -, -, frames, length⟩ :=
    queueSendReserved_emit single codecs emits
  rw [frames] at length
  have chunked : record.state.unbatchedFrames msg uuid publishTimeMs codecs =
      record.state.chunkFrames sent uuid publishTimeMs := by
    unfold unbatchedFrames at length ⊢
    dsimp only at length ⊢
    split
    · rfl
    · rename_i small
      rw [if_neg small, List.length_singleton] at length
      omega
  exact ⟨chunked, chunked ▸ length⟩

theorem queueSend_holds (layout : Layout entry) (slot : entry.slot = some record)
    (bounded : record.state.nextSequenceId + 1 < 2 ^ 64) :
    let after := entry.queueSend single codecs msg uuid reservation publishTimeMs now
    Holds record.state.nextSequenceId
        (record.state.unbatchedFrames msg uuid publishTimeMs codecs) after ∧
      Known record.state.nextSequenceId after := by
  intro after
  obtain ⟨room, op, flushed, accepts, frames, -⟩ :=
    queueSendReserved_emit single codecs emits
  obtain ⟨same, -⟩ := flushed_nextSequenceId flushed
  have next := accepts.nextSequenceId_eq (by rw [same]; exact bounded)
  have pending := accepts.pending_eq
  have id := accepts.id
  rw [flushed_pending flushed] at pending
  rw [same] at next id
  let state :=
    (record.state.queueSendReserved single codecs msg uuid reservation publishTimeMs now).2.2
  have slot' : after.slot = some { record with state } := by
    simp only [after, ProducerEntry.queueSend, slot]
    rfl
  have snapshots : after.snapshots = entry.snapshots := by
    simp only [after, ProducerEntry.queueSend, slot]
    rfl
  refine ⟨⟨?_, ?_⟩, .inr ?_⟩
  · intro found there
    cases slot'.symm.trans there
    rw [show state.nextSequenceId = _ from next]
    exact Nat.lt_succ_self _
  · intro send member sameId
    rw [mem_unsettled_of_some slot', snapshots] at member
    rw [pending, List.mem_append, List.mem_singleton, ← or_assoc,
      ← mem_unsettled_of_some slot] at member
    rcases member with older | rfl
    · have below := layout.unsettled_lt slot (List.mem_map_of_mem older)
      omega
    · exact frames
  · refine List.mem_map.mpr ⟨op, (mem_unsettled_of_some slot').mpr (.inr ?_), id⟩
    rw [pending]
    exact List.mem_append_right _ (List.mem_singleton_self op)

end

end Sending

/-! ### Waiting for the receipt -/

section Waiting

variable (single codecs)

/-- The send is unsettled.  A receipt for it that finds it pending settles it with success; neither
a lost connection nor a broker close settles it; and an attach stages exactly these frames for it
and leaves it unsettled. -/
structure AwaitsReceipt (side : ProducerSide) (handle seq : Nat) (frames : List OutboundFrame) :
    Prop where
  unsettled : seq ∈ (side.entries handle).unsettledIds
  receipt : ∀ now receipt, receipt.producerId = handle → covers receipt seq = true →
    (∃ record, (side.entries handle).slot = some record ∧ seq ∈ record.state.pendingIds) →
    let after := (step single codecs side (.frame now (.sendReceipt receipt))).entries handle
    (seq, .sendReceipt seq (ProducerState.receiptMessageId receipt)) ∈ resolutions after.log ∧
      seq ∉ after.unsettledIds
  reset : seq ∈ ((step single codecs side .reset).entries handle).unsettledIds
  closed : ∀ now, seq ∈
    ((step single codecs side (.frame now (.closeProducer handle))).entries handle).unsettledIds
  attach : ∀ requestId, Answers side handle requestId → ∀ now producerName lastSequenceId,
    let after := (step single codecs side
      (.frame now (.producerSuccess requestId producerName lastSequenceId))).entries handle
    carrying seq after.staging = frames ∧ seq ∈ after.unsettledIds

variable {single codecs} {side : ProducerSide} {handle seq : Nat} {frames : List OutboundFrame}

/-- An operation under the handle, and what it may release. -/
theorem run_then_drain (side : ProducerSide) (handle : Nat) (entry : ProducerEntry) (op : EntryOp) :
    let after := run (entryStep single codecs) entry (onlyAt handle handle [op] ++ side.drainOps)
    after = entryStep single codecs entry op ∨
      after = (entryStep single codecs entry op).drainOutbound := by
  rw [onlyAt, if_pos rfl, drainOps]
  split
  · exact .inr rfl
  · exact .inl rfl

theorem closeProducer_unsettledIds (side : ProducerSide) (handle now : Nat) :
    ((step single codecs side (.frame now (.closeProducer handle))).entries handle).unsettledIds =
      (side.entries handle).unsettledIds := by
  have shut (entry : ProducerEntry) : entry.shutGate.unsettledIds = entry.unsettledIds :=
    unsettledIds_modifyRecord entry _ fun _ => rfl
  have emitted (entry : ProducerEntry) (requestId : Nat) :
      (entry.openEmitted requestId).unsettledIds = entry.unsettledIds :=
    unsettledIds_modifyRecord entry _ fun _ => rfl
  rw [step_simulates side (.frame now (.closeProducer handle)) handle]
  simp only [entryOps, frameOps, closedByBrokerOps, drainOps, onlyAt, if_true]
  split <;> split <;> simp [run, entryStep, drainOutbound_unsettledIds, shut, emitted]

theorem receipt_settles_pending {receipt : CommandSendReceipt}
    (layout : Layout (side.entries handle)) (now : Nat) (named : receipt.producerId = handle)
    (covered : covers receipt seq = true) (slot : (side.entries handle).slot = some record)
    (pending : seq ∈ record.state.pendingIds) :
    let after := (step single codecs side (.frame now (.sendReceipt receipt))).entries handle
    (seq, .sendReceipt seq (receiptMessageId receipt)) ∈ resolutions after.log ∧
      seq ∉ after.unsettledIds := by
  intro after
  let entry := side.entries handle
  have indexed := layout.indexed record slot
  have settles := sendReceipt_settles slot receipt
  have concludes := sendReceipt_concludes slot indexed receipt
  obtain ⟨perm, messageIds⟩ := handleSendReceipt_resolves receipt indexed
  obtain ⟨item, settled, id⟩ :=
    List.mem_map.mp (perm.mem_iff.mpr (List.mem_filter.mpr ⟨pending, covered⟩))
  have news : (seq, .sendReceipt seq (receiptMessageId receipt)) ∈
      (record.state.handleSendReceipt receipt).1.map receiptOutcome :=
    List.mem_map.mpr ⟨item, settled, by rw [receiptOutcome, id, messageIds item settled]⟩
  have noted : (seq, .sendReceipt seq (receiptMessageId receipt)) ∈
      resolutions (entry.sendReceipt receipt).log := by
    rw [settles.resolutions_eq]
    exact List.mem_append_right _ news
  have gone : seq ∉ (entry.sendReceipt receipt).unsettledIds := by
    have distinct := concludes.unsettled.nodup_iff.mpr (layout.unsettledIds_nodup slot)
    rw [List.nodup_append] at distinct
    intro still
    exact distinct.2.2 seq still seq
      (List.mem_append_left _ (List.mem_map_of_mem news)) rfl
  have result : after = entry.sendReceipt receipt ∨
      after = (entry.sendReceipt receipt).drainOutbound := by
    simp only [after]
    rw [step_simulates side (.frame now (.sendReceipt receipt)) handle]
    simp only [entryOps, frameOps, named]
    exact run_then_drain { side with lastActivity := some now } handle entry (.sendReceipt receipt)
  rcases result with same | same
  · rw [same]
    exact ⟨noted, gone⟩
  · rw [same, drainOutbound_log, drainOutbound_unsettledIds]
    exact ⟨noted, gone⟩

section

variable (holds : Holds seq frames (side.entries handle)) (framed : frames ≠ [])
  (waiting : seq ∈ (side.entries handle).unsettledIds)

include holds framed waiting

theorem reset_unsettled : seq ∈ ((step single codecs side .reset).entries handle).unsettledIds := by
  change seq ∈ (side.entries handle).reset.unsettledIds
  obtain ⟨op, member, id⟩ := List.mem_map.mp waiting
  have kept : op.replayFrames = frames := holds.frames op member id
  cases found : (side.entries handle).slot with
  | none =>
    have same := (reset_concludes_empty found).unsettled.mem_iff.mpr waiting
    simpa using same
  | some record =>
    have snapshots : (side.entries handle).reset.snapshots =
        (side.entries handle).snapshots ++ replayable record := by
      obtain ⟨slab, outcomes, events, result, -⟩ := reset_settles found
      rw [result]
      rfl
    rw [unsettledIds_of_some (reset_settles found).slot, snapshots, ← id]
    refine List.mem_append_left _ ?_
    rw [kept_ids]
    apply List.mem_map_of_mem
    rcases (mem_unsettled_of_some found).mp member with aside | pending
    · exact List.mem_append_left _ aside
    · refine List.mem_append_right _ (List.mem_filter.mpr ⟨pending, ?_⟩)
      rw [kept]
      simpa using framed

theorem attach_stages (layout : Layout (side.entries handle)) {requestId : Nat}
    (answers : Answers side handle requestId) (now : Nat) (producerName : String)
    (lastSequenceId : Option Int) :
    let after := (step single codecs side
      (.frame now (.producerSuccess requestId producerName lastSequenceId))).entries handle
    carrying seq after.staging = frames ∧ seq ∈ after.unsettledIds := by
  intro after
  obtain ⟨record, slot, -⟩ : ∃ record, (side.entries handle).slot = some record ∧ _ :=
    Option.any_eq_true _ _ |>.mp answers.current
  obtain ⟨op, member, rfl⟩ := List.mem_map.mp waiting
  have kept : op.replayFrames = frames := holds.frames op member rfl
  obtain ⟨record', attached⟩ := attach_attached slot producerName lastSequenceId
  have carried := (attached.carrying_eq layout slot
    (List.mem_append.mpr ((mem_unsettled_of_some slot).mp member)) (kept ▸ framed)).1
  have attachedNow : carrying op.sequenceId
        ((side.entries handle).attach producerName lastSequenceId).staging = frames ∧
      op.sequenceId ∈ ((side.entries handle).attach producerName lastSequenceId).unsettledIds := by
    rw [attached.staging_eq layout, carried, attach_unsettledIds]
    exact ⟨kept, waiting⟩
  rcases answers.step single codecs now producerName lastSequenceId with same | same
  · rw [show after = _ from same]
    exact attachedNow
  · rw [show after = _ from same, drainOutbound_staging, drainOutbound_unsettledIds]
    exact attachedNow

theorem awaitsReceipt (layout : Layout (side.entries handle)) :
    AwaitsReceipt single codecs side handle seq frames where
  unsettled := waiting
  receipt := by
    rintro now receipt named covered ⟨record, slot, pending⟩
    exact receipt_settles_pending layout now named covered slot pending
  reset := reset_unsettled holds framed waiting
  closed now := by
    rw [closeProducer_unsettledIds]
    exact waiting
  attach requestId answers now producerName lastSequenceId :=
    attach_stages holds framed waiting layout answers now producerName lastSequenceId

end

end Waiting

section Chunked

variable (single codecs)

theorem sent_entry {side : ProducerSide} {sent : Op}
    {uuid : String} {reservation publishTimeMs now : Nat}
    (sends : sent = .send handle msg uuid reservation publishTimeMs now ∨
      sent = .slotQueueSend handle msg uuid reservation publishTimeMs now) :
    let queued :=
      (side.entries handle).queueSend single codecs msg uuid reservation publishTimeMs now
    (step single codecs side sent).entries handle = queued ∨
      (step single codecs side sent).entries handle = queued.drainOutbound := by
  intro queued
  rw [step_simulates side sent handle]
  rcases sends with rfl | rfl
  · simp only [entryOps]
    split
    · exact run_then_drain side handle _ (.queueSend msg uuid reservation publishTimeMs now)
    · simp only [onlyAt, if_true, List.append_nil]
      exact .inl rfl
  · simp only [entryOps, onlyAt, if_true]
    exact .inl rfl

structure Tracked (seq : Nat) (frames : List OutboundFrame) (entry : ProducerEntry) : Prop where
  layout : Layout entry
  holds : Holds seq frames entry
  known : Known seq entry

theorem run_tracked (config : ProducerConfig) {ops later : List Op} {sent : Op}
    {uuid : String} {reservation publishTimeMs now count : Nat}
    (sends : sent = .send handle msg uuid reservation publishTimeMs now ∨
      sent = .slotQueueSend handle msg uuid reservation publishTimeMs now)
    (fits : Guarded (step single codecs) (fun side op => side.countersFit handle op = true)
      (start config) (ops ++ sent :: later))
    (slot : ((run (step single codecs) (start config) ops).entries handle).slot = some record)
    (emits : (record.state.queueSendReserved single codecs msg uuid reservation publishTimeMs
      now).1 = .ok (.emit count))
    (retained : Guarded (step single codecs)
      (GuardedAt single codecs
        (fun entry op => retains record.state.nextSequenceId entry op = true) handle)
      (run (step single codecs) (start config) (ops ++ [sent])) later) :
    Tracked record.state.nextSequenceId
      (record.state.unbatchedFrames msg uuid publishTimeMs codecs)
      ((run (step single codecs) (start config) (ops ++ sent :: later)).entries handle) := by
  rw [List.append_cons, Guarded.append] at fits
  obtain ⟨earlierFits, sentFits⟩ := Guarded.append.mp fits.1
  have bounded : record.state.nextSequenceId + 1 < 2 ^ 64 := by
    have fit := sentFits.1
    simp only [ProducerSide.countersFit, Bool.and_eq_true] at fit
    rcases sends with rfl | rfl <;> simpa [sequenceLeft, slot] using fit.2
  obtain ⟨holds, known⟩ := queueSend_holds emits (run_layout single codecs config earlierFits) slot
    bounded
  have started : Tracked record.state.nextSequenceId
      (record.state.unbatchedFrames msg uuid publishTimeMs codecs)
      ((run (step single codecs) (start config) (ops ++ [sent])).entries handle) := by
    refine ⟨run_layout single codecs config fits.1, ?_, ?_⟩ <;> rw [run_append]
    · rcases sent_entry single codecs sends with same | same
      · exact same ▸ holds
      · have drained : Holds _ _ (entryStep single codecs _ .drainOutbound) := holds.step rfl rfl
        exact same ▸ drained
    · rcases sent_entry single codecs sends with same | same
      · exact same ▸ known
      · rw [Known, ← drainOutbound_log, ← drainOutbound_unsettledIds] at known
        exact same ▸ known
  rw [List.append_cons, run_append]
  exact run_guarded_invariant
    (run_keeps_reserved (start_reserved config) fits.1) fits.2 (Tracked _ _)
    (fun _ _ tracked regular meets => ⟨tracked.layout.step regular,
      tracked.holds.step regular meets, tracked.known.step tracked.layout meets⟩) started retained

/-- A message sent in two or more chunks succeeds only by a receipt for it on the current attach,
and the first such receipt that finds it pending settles it.  As long as it has no outcome, it
survives every lost connection and broker close, and every attach stages all of its chunks. -/
theorem chunked_send_awaits_first_receipt (config : ProducerConfig) (handle : Nat)
    (ops later : List Op) (sent : Op) (msg : OutgoingMessage) (uuid : String)
    (reservation publishTimeMs now count : Nat)
    (sends : sent = .send handle msg uuid reservation publishTimeMs now ∨
      sent = .slotQueueSend handle msg uuid reservation publishTimeMs now)
    (fits : Guarded (step single codecs) (fun side op => side.countersFit handle op = true)
      (start config) (ops ++ sent :: later)) (record : ProducerRecord)
    (slot : ((run (step single codecs) (start config) ops).entries handle).slot = some record)
    (emits : (record.state.queueSendReserved single codecs msg uuid reservation publishTimeMs
      now).1 = .ok (.emit count)) (several : 2 ≤ count)
    (retained : Guarded (step single codecs)
      (GuardedAt single codecs
        (fun entry op => retains record.state.nextSequenceId entry op = true) handle)
      (run (step single codecs) (start config) (ops ++ [sent])) later) :
    let seq := record.state.nextSequenceId
    let chunks := record.state.chunkFrames (record.state.compressUnbatched codecs msg) uuid
      publishTimeMs
    let side := run (step single codecs) (start config) (ops ++ sent :: later)
    let log := (side.entries handle).log
    chunks.length = count ∧
      (∀ earlier outcome rest, log = earlier ++ .resolved seq outcome :: rest →
        outcome.isError = false → ReceiptFor seq earlier) ∧
      (seq ∈ resolvedIds log ∨ AwaitsReceipt single codecs side handle seq chunks) := by
  intro seq chunks side log
  obtain ⟨frames, length⟩ := chunkFrames_of_emit emits several
  have framed : chunks ≠ [] := by
    apply List.ne_nil_of_length_pos
    rw [show chunks.length = count from length]
    omega
  refine ⟨length, fun earlier outcome rest => run_answered config fits earlier seq outcome rest, ?_⟩
  obtain ⟨layout, holds, known⟩ := run_tracked single codecs config sends fits slot emits retained
  rw [frames] at holds
  rcases known with resolved | waiting
  · exact .inl resolved
  · exact .inr (awaitsReceipt holds framed waiting layout)

/-- A connection for messages of two bytes, with a producer that chunks longer ones. -/
private def twoBytes : ProducerConfig := { maxMessageSize := 2 }

private def chunkedOpening : List Op := opening { plainOpen with enableChunking := true } none

private def lostOnce : List Op :=
  [.pollTransmit, .reset, .rebuildProducer 0, .frame 1 (.connected none)]

theorem chunked_send_staged_again :
    let side := run (step default default) (start twoBytes)
      (chunkedOpening ++ sending [1, 2, 3, 4, 5] :: lostOnce)
    let after := (step default default side (.frame 1 (.producerSuccess 1 "p" none))).entries 0
    (carrying 0 after.staging).map OutboundFrame.payload = [[1, 2], [3, 4], [5]] ∧
      0 ∈ after.unsettledIds := by
  intro side after
  let entry := (run (step default default) (start twoBytes) chunkedOpening).entries 0
  obtain ⟨record, slot⟩ : ∃ record, entry.slot = some record :=
    Option.isSome_iff_exists.mp (by decide +kernel)
  have next : entry.slot.map (·.state.nextSequenceId) = some 0 := by decide +kernel
  have emits : entry.slot.map (fun record => (record.state.queueSendReserved default default
      (plainMessage [1, 2, 3, 4, 5]) "u" 0 0 0).1) = some (.ok (.emit 3)) := by
    decide +kernel
  have payloads : entry.slot.map (fun record => (record.state.chunkFrames
      (record.state.compressUnbatched default (plainMessage [1, 2, 3, 4, 5])) "u" 0).map
        OutboundFrame.payload) = some [[1, 2], [3, 4], [5]] := by decide +kernel
  rw [slot, Option.map_some, Option.some.injEq] at next emits payloads
  have awaits := (chunked_send_awaits_first_receipt default default twoBytes 0 chunkedOpening
    lostOnce (sending [1, 2, 3, 4, 5]) _ "u" 0 0 0 3 (.inl rfl) (by decide +kernel) record slot
    emits (by decide) (by rw [next]; decide +kernel)).2.2
  rw [next] at awaits
  obtain ⟨staged, unsettled⟩ := (awaits.resolve_left (by decide +kernel)).attach 1
    ⟨⟨none, by decide +kernel⟩, by decide +kernel⟩ 1 "p" none
  refine ⟨?_, unsettled⟩
  rw [← payloads]
  exact congrArg (List.map OutboundFrame.payload) staged

/-- One receipt for three chunks that were handed over settles their send with success.  When the
connection is lost then, nothing is staged again. -/
theorem first_receipt_settles_three_chunks :
    let receipt : CommandSendReceipt := { producerId := 0, sequenceId := 0 }
    let answered := (run (step default default) (start twoBytes) (chunkedOpening ++
      [sending [1, 2, 3, 4, 5], .pollTransmit, .frame 1 (.sendReceipt receipt)])).entries 0
    let attached := (run (step default default) (start twoBytes) (chunkedOpening ++
      sending [1, 2, 3, 4, 5] :: .pollTransmit :: .frame 1 (.sendReceipt receipt) :: .reset ::
        [.rebuildProducer 0, .frame 2 (.connected none),
          .frame 2 (.producerSuccess 1 "p" none)])).entries 0
    (handedFrames answered.log).map (fun handed => (handed.2.sequenceId, handed.2.payload)) =
        [(0, [1, 2]), (0, [3, 4]), (0, [5])] ∧
      acknowledgements answered.log = [receipt] ∧
      resolutions answered.log =
        [(0, .sendReceipt 0 (ProducerState.receiptMessageId receipt))] ∧
      attached.staging = [] ∧ attached.unsettledIds = [] := by
  decide +kernel

end Chunked

end Magnetar.Proto.Connection
