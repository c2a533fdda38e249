import Magnetar.Proto.Connection.Effects

/-!
Contract: which sends an operation settles, and which it drops without an outcome.

Owns: the sends of an entry that have no outcome yet, the account of one operation (the sends it
settles and the sends it drops are exactly those it takes from the unsettled ones), and the account
of every operation that accepts nothing.

Does not own: what the accounts of a whole run add up to.
-/

namespace Magnetar.Proto.Connection

open Pb External Producer ProducerEntry ProducerState

variable {single : Prost SingleMessageMetadata} {codecs : Codecs}

/-! ### Unsettled sends -/

namespace ProducerEntry

/-- The sends that have no outcome yet: those set aside, then the pending ones. -/
def unsettled (entry : ProducerEntry) : List OpSend :=
  entry.snapshots ++ (entry.slot.map (·.state.pending)).getD []

def unsettledIds (entry : ProducerEntry) : List Nat :=
  entry.unsettled.map (·.sequenceId)

variable {entry : ProducerEntry} {record : ProducerRecord}

theorem unsettledIds_of_some (found : entry.slot = some record) :
    entry.unsettledIds = entry.snapshots.map (·.sequenceId) ++ record.state.pendingIds := by
  simp [unsettledIds, unsettled, found, pendingIds]

theorem unsettledIds_of_none (empty : entry.slot = none) :
    entry.unsettledIds = entry.snapshots.map (·.sequenceId) := by
  simp [unsettledIds, unsettled, empty]

theorem unsettledIds_withState (entry : ProducerEntry) (record : ProducerRecord)
    (state : ProducerState) :
    (entry.withState record state).unsettledIds =
      entry.snapshots.map (·.sequenceId) ++ state.pendingIds := by
  simp [unsettledIds, unsettled, withState, pendingIds]

theorem unsettledIds_modifyRecord (entry : ProducerEntry) (update : ProducerRecord → ProducerRecord)
    (same : ∀ record : ProducerRecord, (update record).state.pendingIds = record.state.pendingIds) :
    (entry.modifyRecord update).unsettledIds = entry.unsettledIds := by
  cases found : entry.slot with
  | none =>
    have empty : (entry.modifyRecord update).slot = none := by simp [modifyRecord, found]
    rw [unsettledIds_of_none empty, unsettledIds_of_none found]
    rfl
  | some record =>
    have there : (entry.modifyRecord update).slot = some (update record) := by
      simp [modifyRecord, found]
    rw [unsettledIds_of_some there, unsettledIds_of_some found, same]
    rfl

end ProducerEntry

/-! ### Accounts -/

/-- From `before` to `after` the sends of `settled` get their outcomes, those of `lost` are dropped
without one, and no other send leaves the unsettled ones or joins them. -/
structure Concludes (before after : ProducerEntry) (settled : List (Nat × OpOutcome))
    (lost : List Nat) : Prop where
  log : ∃ events, after.log = before.log ++ events ∧ Replies events ∧ resolutions events = settled
  unsettled : (after.unsettledIds ++ (settled.map Prod.fst ++ lost)).Perm before.unsettledIds
  past : after.past = before.past

namespace Concludes

variable {entry middle after : ProducerEntry} {settled settled' : List (Nat × OpOutcome)}
  {lost lost' : List Nat}

theorem trans (one : Concludes entry middle settled lost)
    (two : Concludes middle after settled' lost') :
    Concludes entry after (settled ++ settled') (lost ++ lost') := by
  obtain ⟨events, log, replies, resolved⟩ := one.log
  obtain ⟨events', log', replies', resolved'⟩ := two.log
  refine ⟨⟨events ++ events', ?_, replies.append replies', ?_⟩, ?_, two.past.trans one.past⟩
  · rw [log', log, List.append_assoc]
  · rw [resolutions_append, resolved, resolved']
  · have first := List.perm_iff_count.mp one.unsettled
    have second := List.perm_iff_count.mp two.unsettled
    rw [List.perm_iff_count]
    intro id
    have before := first id
    have then_ := second id
    simp only [List.count_append, List.map_append] at before then_ ⊢
    omega

/-- Sends are settled once they are taken from the unsettled ones. -/
theorem settle (settles : Settles middle after settled)
    (log : ∃ events, middle.log = entry.log ++ events ∧ Replies events ∧ resolutions events = [])
    (past : middle.past = entry.past)
    (taken : (middle.unsettledIds ++ settled.map Prod.fst).Perm entry.unsettledIds) :
    Concludes entry after settled [] := by
  obtain ⟨noted, before, quiet, silent⟩ := log
  obtain ⟨slab, outcomes, events, rfl, replies, resolved, -⟩ := settles
  refine ⟨⟨noted ++ events, ?_, quiet.append replies, ?_⟩, ?_, past⟩
  · rw [← List.append_assoc, ← before]
  · rw [resolutions_append, silent, resolved, List.nil_append]
  · rw [List.append_nil]
    exact taken

theorem still (log : after.log = entry.log) (past : after.past = entry.past)
    (unsettled : after.unsettledIds = entry.unsettledIds) : Concludes entry after [] [] := by
  refine ⟨⟨[], by rw [log, List.append_nil], by simp [Replies], rfl⟩, ?_, past⟩
  rw [unsettled]
  exact List.Perm.of_eq (List.append_nil _)

theorem refl (entry : ProducerEntry) : Concludes entry entry [] [] :=
  still rfl rfl rfl

theorem modifyRecord (entry : ProducerEntry) (update : ProducerRecord → ProducerRecord)
    (same : ∀ record : ProducerRecord, (update record).state.pendingIds = record.state.pendingIds) :
    Concludes entry (entry.modifyRecord update) [] [] :=
  still rfl rfl (unsettledIds_modifyRecord entry update same)

end Concludes

variable (entry : ProducerEntry)

theorem silent_log :
    ∃ events, entry.log = entry.log ++ events ∧ Replies events ∧ resolutions events = [] :=
  ⟨[], (List.append_nil _).symm, by simp [Replies], rfl⟩

namespace ProducerEntry

variable {entry : ProducerEntry} {record : ProducerRecord}

section

variable (entry : ProducerEntry) (update : ProducerState → ProducerState)

theorem terminalizeSlot_concludes
    (same : ∀ state : ProducerState, (update state).pending = state.pending) (reason : String) :
    ∃ settled, Concludes entry (entry.terminalizeSlot update reason) settled [] := by
  cases found : entry.slot with
  | none =>
    rw [show entry.terminalizeSlot update reason = entry by simp [terminalizeSlot, found]]
    exact ⟨[], .refl entry⟩
  | some =>
    refine ⟨_, .settle (terminalizeSlot_settles found update reason) (silent_log entry) rfl ?_⟩
    rw [unsettledIds_withState, unsettledIds_of_some found, same, List.map_map]
    exact List.Perm.of_eq (by simp [pendingIds, drainPendingSends])

theorem terminalizeSnapshotBucket_concludes (reason : String) :
    ∃ settled, Concludes entry (entry.terminalizeSnapshotBucket reason) settled [] := by
  refine ⟨_, .settle (entry.terminalizeSnapshotBucket_settles reason) (silent_log entry) rfl ?_⟩
  exact (List.perm_append_comm).trans (List.Perm.of_eq (by simp [unsettledIds, unsettled]))

theorem terminalizeSlot_slot (reason : String) :
    (entry.terminalizeSlot update reason).slot = entry.slot.map fun record =>
      { record with state := (update record.state).drainPendingSends.2 } := by
  cases found : entry.slot with
  | none => simp [terminalizeSlot, found]
  | some => exact (terminalizeSlot_settles found update reason).slot

theorem terminalizeSlot_snapshots (reason : String) :
    (entry.terminalizeSlot update reason).snapshots = entry.snapshots := by
  cases found : entry.slot with
  | none => simp [terminalizeSlot, found]
  | some =>
    obtain ⟨slab, outcomes, events, after, -⟩ := terminalizeSlot_settles found update reason
    rw [after]
    rfl

end

/-- Fail every unsettled send, with a change of the producer that keeps them pending before. -/
def terminalize (entry : ProducerEntry) (update : ProducerState → ProducerState) (reason : String) :
    ProducerEntry :=
  (entry.terminalizeSlot update reason).terminalizeSnapshotBucket reason

section

variable (entry : ProducerEntry)

theorem terminalize_slot (update : ProducerState → ProducerState) (reason : String) :
    (entry.terminalize update reason).slot = entry.slot.map fun record =>
      { record with state := (update record.state).drainPendingSends.2 } := by
  rw [terminalize, (terminalizeSnapshotBucket_settles _ reason).slot]
  exact entry.terminalizeSlot_slot update reason

theorem failAll_slot (reason : String) :
    (entry.failAll reason).slot = entry.slot.map fun record =>
      { record with state := { record.state with closed := true }.drainPendingSends.2 } := by
  let shut (state : ProducerState) : ProducerState := { state with closed := true }
  have same : entry.failAll reason = (entry.terminalize shut reason).terminalizeSlab reason := rfl
  rw [same, (terminalizeSlab_settles _ reason).slot]
  exact entry.terminalize_slot shut reason

section

variable (update : ProducerState → ProducerState)

include update

theorem terminalize_snapshots
    (reason : String) : (entry.terminalize update reason).snapshots = [] := by
  obtain ⟨slab, outcomes, events, same, -⟩ :=
    terminalizeSnapshotBucket_settles (entry.terminalizeSlot update reason) reason
  rw [terminalize, same]

theorem terminalize_unsettledIds
    (reason : String) : (entry.terminalize update reason).unsettledIds = [] := by
  have slot := entry.terminalize_slot update reason
  have clear := entry.terminalize_snapshots update reason
  cases found : entry.slot with
  | none =>
    rw [found] at slot
    rw [unsettledIds_of_none slot, clear, List.map_nil]
  | some =>
    rw [found] at slot
    rw [unsettledIds_of_some slot, clear]
    rfl

theorem terminalize_concludes
    (same : ∀ state : ProducerState, (update state).pending = state.pending) (reason : String) :
    ∃ settled, Concludes entry (entry.terminalize update reason) settled [] := by
  obtain ⟨settled, drained⟩ := entry.terminalizeSlot_concludes update same reason
  obtain ⟨settled', emptied⟩ :=
    terminalizeSnapshotBucket_concludes (entry.terminalizeSlot update reason) reason
  exact ⟨settled ++ settled', drained.trans emptied⟩

end

theorem failOpen_concludes (reason : String) :
    ∃ settled, Concludes entry (entry.failOpen reason) settled [] := by
  let giveUp (state : ProducerState) : ProducerState :=
    { state with closed := true, brokerReady := false }
  obtain ⟨settled, failed⟩ := entry.terminalize_concludes giveUp (fun _ => rfl) reason
  have vacated : Concludes (entry.terminalize giveUp reason) (entry.failOpen reason) [] [] := by
    refine .still rfl rfl ?_
    rw [terminalize_unsettledIds, unsettledIds_of_none rfl]
    exact congrArg (List.map _) (entry.terminalize_snapshots giveUp reason)
  have both := failed.trans vacated
  rw [List.append_nil] at both
  exact ⟨settled, both⟩

theorem openFailedTransiently_concludes (maxRetries : Option Nat) (reason : String) :
    ∃ settled, Concludes entry (entry.openFailedTransiently maxRetries reason) settled [] := by
  have shut := Concludes.modifyRecord entry
    (fun record => { record with state := { record.state with brokerReady := false } })
    fun _ => rfl
  have counted := shut.trans (Concludes.modifyRecord entry.shutGate (fun record =>
    { record with
      transientOpenAttempts := min (record.transientOpenAttempts + 1) (2 ^ 32 - 1) })
    fun _ => rfl)
  unfold openFailedTransiently
  dsimp only
  split
  · exact ⟨[], counted⟩
  · obtain ⟨settled, failed⟩ := failOpen_concludes _ reason
    exact ⟨settled, counted.trans failed⟩

theorem closeAcked_concludes (requestId : Nat) :
    ∃ settled, Concludes entry (entry.closeAcked requestId) settled [] := by
  unfold closeAcked
  split
  · exact entry.terminalize_concludes id (fun _ => rfl) producerClosedReason
  · exact ⟨[], .refl entry⟩

theorem registerWaker_concludes (seq waker : Nat) :
    Concludes entry (entry.registerWaker seq waker) [] [] := by
  unfold registerWaker
  split
  · exact .settle (entry.wake_settles (some waker)) (silent_log entry) rfl
      (List.Perm.of_eq (List.append_nil _))
  · cases found : entry.slot with
    | none =>
      refine .still rfl rfl ?_
      rw [unsettledIds_of_none found]
      exact unsettledIds_of_none rfl
    | some record =>
      dsimp only
      split
      · refine .still rfl rfl ?_
        have ids := record.state.setWaker_plan seq (some waker) (·.sequenceId) fun _ _ => rfl
        rw [unsettledIds_of_some found, unsettledIds_of_some rfl]
        exact congrArg (_ ++ ·) ids
      · refine .still rfl rfl ?_
        rw [unsettledIds_of_some found]
        exact unsettledIds_of_some rfl

theorem unregisterWaker_concludes (seq : Nat) :
    Concludes entry (entry.unregisterWaker seq) [] [] := by
  have dropped : Concludes entry { entry with slab := entry.slab.erase seq } [] [] :=
    .still rfl rfl rfl
  exact dropped.trans (.modifyRecord _ _ fun record =>
    record.state.setWaker_plan seq none (·.sequenceId) fun _ _ => rfl)

end

theorem flushBatch_pending (producer : ProducerState) (publishTimeMs : Nat) :
    (producer.flushBatch single codecs publishTimeMs).2.pending = producer.pending := by
  unfold ProducerState.flushBatch
  split <;> rfl

section

variable (entry : ProducerEntry)

theorem drainOutbound_unsettledIds : entry.drainOutbound.unsettledIds = entry.unsettledIds := by
  rcases entry.drainOutbound_cases with same | ⟨record, found, ready⟩
  · rw [same]
  · rw [drainOutbound_eq found ready, unsettledIds_of_some found, unsettledIds_of_some rfl]
    rfl

theorem drainOutbound_concludes : Concludes entry entry.drainOutbound [] [] := by
  rcases entry.drainOutbound_cases with same | ⟨record, found, ready⟩
  · rw [same]
    exact .refl entry
  · refine .still ?_ ?_ entry.drainOutbound_unsettledIds
    · rw [drainOutbound_eq found ready]
    · rw [drainOutbound_eq found ready]

theorem expiredSnapshots_split (now : Nat) :
    entry.snapshots = entry.expiredSnapshots now ++
      entry.snapshots.drop (entry.expiredSnapshots now).length := by
  unfold expiredSnapshots
  split
  · rfl
  · exact (List.prefix_iff_eq_append.mp (List.takeWhile_prefix _)).symm

theorem timeoutSnapshots_concludes (now : Nat) :
    Concludes entry (entry.timeoutSnapshots now)
      ((entry.expiredSnapshots now).map fun op => (op.sequenceId, sendTimedOut op)) [] := by
  refine .settle (entry.timeoutSnapshots_settles now) (silent_log entry) rfl ?_
  have split := congrArg (List.map (·.sequenceId)) (entry.expiredSnapshots_split now)
  rw [List.perm_iff_count]
  intro id
  simp only [unsettledIds, unsettled, List.map_append, List.map_map, split, List.count_append]
  have ids : (entry.expiredSnapshots now).map
      (Prod.fst ∘ fun op => (op.sequenceId, sendTimedOut op)) =
        (entry.expiredSnapshots now).map (·.sequenceId) := rfl
  rw [ids]
  omega

end

section

variable (found : entry.slot = some record)

include found

theorem timeoutPending_concludes (now : Nat) :
    Concludes entry (entry.timeoutPending now)
      ((record.state.drainTimedOutSends now).1.map fun op => (op.sequenceId, sendTimedOut op))
      [] := by
  refine .settle (timeoutPending_settles found now) (silent_log entry) rfl ?_
  have split := congrArg (List.map (·.sequenceId)) (record.state.drainTimedOutSends_split now)
  rw [List.map_append] at split
  rw [unsettledIds_withState, unsettledIds_of_some found, List.map_map, List.append_assoc]
  refine List.Perm.append_left _ (List.perm_append_comm.trans (List.Perm.of_eq ?_))
  exact split.symm

theorem sendError_concludes (indexed : record.state.Indexed) (err : CommandSendError) :
    Concludes entry (entry.sendError err)
      ((record.state.findPending err.sequenceId).toList.map fun op =>
        (op.sequenceId, .sendError op.sequenceId err.error err.message)) [] := by
  have settles := sendError_settles found err
  cases pending : record.state.findPending err.sequenceId with
  | none =>
    rw [applySendError_none indexed pending] at settles
    refine .settle settles (silent_log entry) rfl ?_
    rw [unsettledIds_withState, unsettledIds_of_some found]
    exact List.Perm.of_eq (List.append_nil _)
  | some op =>
    obtain ⟨index, taken, -⟩ := applySendError_some indexed pending
    obtain ⟨member, same⟩ := findPending_mem pending
    rw [taken] at settles
    refine .settle settles (silent_log entry) rfl ?_
    rw [unsettledIds_withState, unsettledIds_of_some found, List.append_assoc]
    refine List.Perm.append_left _ ?_
    have left : (record.state.pending.filter fun op => op.sequenceId != err.sequenceId).map
        (·.sequenceId) = record.state.pendingIds.erase err.sequenceId := by
      rw [indexed.distinct.erase_eq_filter, pendingIds, List.filter_map]
      rfl
    have present : err.sequenceId ∈ record.state.pendingIds :=
      same ▸ List.mem_map_of_mem member
    change ((record.state.pending.filter fun op => op.sequenceId != err.sequenceId).map
      (·.sequenceId) ++ [op.sequenceId]).Perm _
    rw [left, same]
    exact List.perm_append_comm.trans (List.perm_cons_erase present).symm

theorem sendReceipt_concludes (indexed : record.state.Indexed) (receipt : CommandSendReceipt) :
    Concludes entry (entry.sendReceipt receipt)
      ((record.state.handleSendReceipt receipt).1.map receiptOutcome) [] := by
  have acknowledges := handleSendReceipt_acknowledges indexed receipt
  have noted : Replies [.acknowledged receipt] := by simp [Replies, SendEvent.isReply]
  refine .settle (sendReceipt_settles found receipt)
    ⟨[.acknowledged receipt], rfl, noted, rfl⟩ rfl ?_
  have ids : ((record.state.handleSendReceipt receipt).1.map receiptOutcome).map Prod.fst =
        (record.state.pendingAmong (receiptRange receipt)).map (·.sequenceId) := by
    rw [acknowledges.resolved_eq, List.map_map, List.map_map]
    rfl
  have left : (record.state.handleSendReceipt receipt).2.pendingIds =
      record.state.pendingIds.filter fun id =>
        !(receiptRange receipt).contains id := by
    rw [pendingIds, acknowledges.pending_eq, pendingIds,
      List.filter_map]
    rfl
  change (((entry.withState record _).unsettledIds) ++ _).Perm _
  rw [unsettledIds_withState, unsettledIds_of_some found, List.append_assoc, ids, left]
  refine List.Perm.append_left _ (List.perm_append_comm.trans ?_)
  have taken := pendingAmong_perm indexed (receiptRange_nodup receipt)
  exact (taken.append_right _).trans (List.filter_append_perm _ _)

end

theorem disconnected_unsettledIds (entry : ProducerEntry) (record : ProducerRecord) :
    (entry.disconnected record).unsettledIds =
      entry.snapshots.map (·.sequenceId) ++ (replayable record).map (·.sequenceId) := by
  rw [unsettledIds_of_some rfl]
  simp [disconnected, pendingIds, drainPendingSends]

/-- A lost connection settles what it cannot replay, and sets the rest aside. -/
theorem reset_concludes (found : entry.slot = some record) :
    Concludes entry entry.reset
      ((unreplayable record).map fun op => (op.sequenceId, batchLost op)) [] := by
  refine .settle (reset_settles found) (silent_log entry) rfl ?_
  have partition := List.filter_append_perm (fun op : OpSend => !op.replayFrames.isEmpty)
    record.state.pending
  have kept : (replayable record).map (·.sequenceId) =
      (record.state.pending.filter fun op => !op.replayFrames.isEmpty).map (·.sequenceId) := by
    rw [replayable, List.map_map]
    rfl
  have dropped : ((unreplayable record).map fun op => (op.sequenceId, batchLost op)).map Prod.fst =
      (record.state.pending.filter fun op => !!op.replayFrames.isEmpty).map (·.sequenceId) := by
    rw [unreplayable, List.map_map]
    simp only [Bool.not_not]
    rfl
  rw [disconnected_unsettledIds, unsettledIds_of_some found, List.append_assoc, kept, dropped,
    ← List.map_append]
  exact List.Perm.append_left _ (partition.map _)

theorem reset_concludes_empty (empty : entry.slot = none) : Concludes entry entry.reset [] [] := by
  have same : entry.setAside = entry := by simp [setAside, empty]
  have swept : Concludes entry entry.sweepSlab [] [] :=
    .settle entry.sweepSlab_settles (silent_log entry) rfl (List.Perm.of_eq (List.append_nil _))
  rw [reset, same]
  exact ⟨swept.log, swept.unsettled, swept.past⟩

theorem reset_concludes_any (entry : ProducerEntry) :
    ∃ settled, Concludes entry entry.reset settled [] := by
  cases found : entry.slot with
  | none => exact ⟨[], reset_concludes_empty found⟩
  | some => exact ⟨_, reset_concludes found⟩

theorem attached_unsettledIds {after : ProducerEntry} {record' : ProducerRecord}
    {lastSequenceId : Option Int} (found : entry.slot = some record)
    (attached : Attached entry record lastSequenceId after record') :
    after.unsettledIds = entry.unsettledIds := by
  obtain ⟨name, index, state⟩ := attached.state
  rw [unsettledIds_of_some attached.slot, unsettledIds_of_some found, attached.snapshots,
    pendingIds, state]
  simp [pendingIds]

theorem attach_unsettledIds (entry : ProducerEntry) (producerName : String)
    (lastSequenceId : Option Int) :
    (entry.attach producerName lastSequenceId).unsettledIds = entry.unsettledIds := by
  cases found : entry.slot with
  | none => rw [show entry.attach producerName lastSequenceId = entry by simp [attach, found]]
  | some =>
    obtain ⟨record', attached⟩ := attach_attached found producerName lastSequenceId
    exact attached_unsettledIds found attached

theorem flushBatch_brokerReady (producer : ProducerState) (publishTimeMs : Nat) :
    (producer.flushBatch single codecs publishTimeMs).2.brokerReady = producer.brokerReady := by
  unfold ProducerState.flushBatch
  split <;> rfl

theorem flushed_pending {before after : ProducerState}
    (flushed : before.MaybeFlushed single codecs after) : after.pending = before.pending := by
  rcases flushed with rfl | ⟨publishTimeMs, rfl⟩
  · rfl
  · exact flushBatch_pending before publishTimeMs

theorem queueSend_concludes (entry : ProducerEntry) (msg : OutgoingMessage) (uuid : String)
    (reservation publishTimeMs now : Nat) :
    let after := entry.queueSend single codecs msg uuid reservation publishTimeMs now
    Concludes entry after [] [] ∨ ∃ record, entry.slot = some record ∧
      after.log = entry.log ++ [.minted record.state.nextSequenceId msg] ∧
      after.unsettledIds = entry.unsettledIds ++ [record.state.nextSequenceId] ∧
      after.past = entry.past := by
  intro after
  cases found : entry.slot with
  | none =>
    have same : after = entry := by simp [after, queueSend, found]
    rw [same]
    exact .inl (.refl entry)
  | some record =>
    have queued : Queued single codecs entry record msg after :=
      queueSend_queued found msg uuid reservation publishTimeMs now
    generalize after = sent at queued
    cases queued with
    | rejected flushed =>
      left
      refine .still rfl rfl ?_
      rw [unsettledIds_withState, unsettledIds_of_some found, pendingIds,
        flushed_pending flushed]
      rfl
    | @accepted room placed state op batch flushed opened next accepts filled =>
      right
      refine ⟨record, rfl, rfl, ?_, rfl⟩
      have pending : state.pending = record.state.pending ++ [op] := by
        rw [flushed_pending filled, accepts.pending_eq, flushed_pending flushed]
      change (entry.withState record state).unsettledIds = _
      rw [unsettledIds_withState, unsettledIds_of_some found, pendingIds, pending,
        List.map_append, ← List.append_assoc, List.map_singleton, accepts.id, next]
      rfl

end ProducerEntry

/-! ### The slab -/

namespace ProducerEntry

theorem mem_settleAll_slab (entry : ProducerEntry) (ops : List OpSend)
    (outcome : OpSend → OpOutcome) (key : Nat) :
    key ∈ (entry.settleAll ops outcome).slab ↔
      key ∉ ops.map (·.sequenceId) ∧ key ∈ entry.slab := by
  induction ops generalizing entry with
  | nil => simp [settleAll]
  | cons op rest ih =>
    have settled : (entry.settle op (outcome op)).slab = entry.slab.erase op.sequenceId := rfl
    have later := ih (entry.settle op (outcome op))
    rw [settled, AList.mem_erase] at later
    change key ∈ ((entry.settle op (outcome op)).settleAll rest outcome).slab ↔ _
    rw [later, List.map_cons, List.mem_cons, not_or]
    tauto

/-- Failing every unsettled send drops their wakers from the slab, and no other. -/
theorem mem_terminalize_slab (entry : ProducerEntry) (update : ProducerState → ProducerState)
    (same : ∀ state : ProducerState, (update state).pending = state.pending) (reason : String)
    (key : Nat) :
    key ∈ (entry.terminalize update reason).slab ↔
      key ∉ entry.unsettledIds ∧ key ∈ entry.slab := by
  have bucket := mem_settleAll_slab { entry.terminalizeSlot update reason with snapshots := [] }
    (entry.terminalizeSlot update reason).snapshots (fun _ => .terminal reason) key
  change key ∈ (entry.terminalize update reason).slab ↔ _ at bucket
  rw [bucket, terminalizeSlot_snapshots]
  cases found : entry.slot with
  | none =>
    rw [unsettledIds_of_none found]
    simp [terminalizeSlot, found]
  | some record =>
    have drained := mem_settleAll_slab
      (entry.withState record (update record.state).drainPendingSends.2)
      (update record.state).pending (fun _ => .terminal reason) key
    have result : (entry.withState record (update record.state).drainPendingSends.2).settleAll
        (update record.state).pending (fun _ => .terminal reason) =
          entry.terminalizeSlot update reason := by
      rw [terminalizeSlot, found]
      rfl
    rw [result, same] at drained
    rw [unsettledIds_of_some found, List.mem_append, not_or, and_assoc]
    exact and_congr_right fun _ => drained

end ProducerEntry

/-! ### The account of an operation -/

/-- The sends an operation drops without an outcome. -/
def ProducerEntry.lostIds : EntryOp → List Nat
  | .dropSlot => (entry.slot.map (·.state.pendingIds)).getD []
  | .cancelOpen => entry.unsettledIds
  | .discardSnapshots => entry.snapshots.map (·.sequenceId)
  | _ => []

/-- An operation that accepts no send, hands nothing over and does not sweep the slab. -/
def EntryOp.isAccounted : EntryOp → Bool
  | .create _ _ _ | .attach _ _ | .queueSend _ _ _ _ _ | .pollTransmit | .failAll _ => false
  | _ => true

def EntryOp.settles : EntryOp → Bool
  | .sendReceipt _ | .sendError _ | .openFailedTransiently _ _ | .failOpen _ | .closeAcked _
  | .reset | .timeoutPending _ | .timeoutSnapshots _ | .failAll _ => true
  | _ => false

theorem Concludes.lose {entry after : ProducerEntry} {lost : List Nat}
    (log : after.log = entry.log) (past : after.past = entry.past)
    (taken : (after.unsettledIds ++ lost).Perm entry.unsettledIds) :
    Concludes entry after [] lost :=
  ⟨⟨[], by rw [log, List.append_nil], by simp [Replies], rfl⟩, taken, past⟩

/-- An operation that acts through the slot alone, on an empty one. -/
theorem concludes_of_eq {entry after : ProducerEntry} (same : after = entry) :
    ∃ settled, Concludes entry after settled [] := by
  rw [same]
  exact ⟨[], .refl entry⟩

theorem entryStep_concludes {op : EntryOp}
    (indexed : ∀ record, entry.slot = some record → record.state.Indexed)
    (accounted : op.isAccounted = true) :
    ∃ settled, Concludes entry (entryStep single codecs entry op) settled (entry.lostIds op) ∧
      (op.settles = false → settled = []) := by
  -- What settles sends has its own account; everything else settles none.
  have settling {lost : List Nat} {after : ProducerEntry}
      (account : ∃ settled, Concludes entry after settled lost) (settles : op.settles = true) :
      ∃ settled, Concludes entry after settled lost ∧ (op.settles = false → settled = []) := by
    obtain ⟨settled, concludes⟩ := account
    exact ⟨settled, concludes, by simp [settles]⟩
  have idle {lost : List Nat} {after : ProducerEntry} (concludes : Concludes entry after [] lost) :
      ∃ settled, Concludes entry after settled lost ∧ (op.settles = false → settled = []) :=
    ⟨[], concludes, fun _ => rfl⟩
  cases op with
  | create | queueSend | pollTransmit | attach | failAll => cases accounted
  | openEmitted | shutGate | closeRequested => exact idle (.modifyRecord entry _ fun _ => rfl)
  | flushBatch =>
    exact idle (.modifyRecord entry _ fun record => congrArg (List.map _) (flushBatch_pending
      record.state _))
  | flushDueBatch publishTimeMs =>
    refine idle (.modifyRecord entry _ fun record => ?_)
    dsimp only
    split
    · exact congrArg (List.map _) (flushBatch_pending record.state publishTimeMs)
    · rfl
  | drainOutbound => exact idle entry.drainOutbound_concludes
  | sendReceipt receipt =>
    refine settling ?_ rfl
    cases found : entry.slot with
    | none => exact concludes_of_eq (by simp [entryStep, ProducerEntry.sendReceipt, found])
    | some record => exact ⟨_, sendReceipt_concludes found (indexed record found) receipt⟩
  | sendError err =>
    refine settling ?_ rfl
    cases found : entry.slot with
    | none => exact concludes_of_eq (by simp [entryStep, ProducerEntry.sendError, found])
    | some record => exact ⟨_, sendError_concludes found (indexed record found) err⟩
  | openFailedTransiently => exact settling (entry.openFailedTransiently_concludes _ _) rfl
  | failOpen reason => exact settling (entry.failOpen_concludes reason) rfl
  | dropSlot =>
    refine idle (.lose rfl rfl ?_)
    change (ProducerEntry.unsettledIds { entry with slot := none, createRequest := none } ++
      (entry.slot.map (·.state.pendingIds)).getD []).Perm _
    rw [unsettledIds_of_none rfl]
    refine List.Perm.of_eq ?_
    cases found : entry.slot with
    | none => simp [unsettledIds_of_none found]
    | some =>
      rw [unsettledIds_of_some found]
      rfl
  | closeAcked requestId => exact settling (entry.closeAcked_concludes requestId) rfl
  | cancelOpen => exact idle (.lose rfl rfl (List.Perm.refl _))
  | reset => exact settling entry.reset_concludes_any rfl
  | discardSnapshots =>
    refine idle (.lose rfl rfl (List.perm_append_comm.trans (List.Perm.of_eq ?_)))
    exact (List.map_append).symm
  | timeoutPending now =>
    refine settling ?_ rfl
    cases found : entry.slot with
    | none => exact concludes_of_eq (by simp [entryStep, ProducerEntry.timeoutPending, found])
    | some => exact ⟨_, timeoutPending_concludes found now⟩
  | timeoutSnapshots now => exact settling ⟨_, entry.timeoutSnapshots_concludes now⟩ rfl
  | registerWaker seq waker => exact idle (entry.registerWaker_concludes seq waker)
  | unregisterWaker seq => exact idle (entry.unregisterWaker_concludes seq)
  | takeOutcome => exact idle (.still rfl rfl rfl)

/-- The end of a connection settles every send, and with them only sends that have a waker on the
slab. -/
theorem failAll_concludes (reason : String)
    (parked : ∀ key, key ∈ entry.slab → key ∈ entry.unsettledIds) :
    ∃ settled, Concludes entry (entry.failAll reason) settled [] := by
  let shut (state : ProducerState) : ProducerState := { state with closed := true }
  obtain ⟨settled, failed⟩ := entry.terminalize_concludes shut (fun _ => rfl) reason
  have swept : (entry.terminalize shut reason).slab.keys = [] := by
    rw [List.eq_nil_iff_forall_not_mem]
    intro key member
    have left := (entry.mem_terminalize_slab shut (fun _ => rfl) reason key).mp
      (AList.mem_keys.mpr member)
    exact left.1 (parked key left.2)
  have same : entry.failAll reason = entry.terminalize shut reason := by
    change (entry.terminalize shut reason).terminalizeSlab reason = _
    rw [terminalizeSlab, swept, List.foldl_nil]
  rw [same]
  exact ⟨settled, failed⟩

end Magnetar.Proto.Connection
