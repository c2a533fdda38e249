import Magnetar.Proto.Connection.Frames
import Magnetar.Proto.Connection.Order
import Magnetar.Proto.Connection.Waiters

/-!
Contract: what the end of the session and the end of the connection resolve.

Owns: that `fail_all_pending` and `reset` answer every pending request once and complete every close
and unsubscribe that is waited for; that `fail_all_pending` settles every send and that the producer
takes no other; that `reset` settles exactly the sends it does not keep; and which calls the
connection refuses after its end.

Does not own: requests that nobody waits for, which end without an outcome.

The latch that `fail_all_pending` sets is read by the calls that end a consumer and by no other.  A
producer refuses sends because it is closed.  Every other call still registers its request, and no
driver is left to answer it.
-/

namespace Magnetar.Proto.Connection

open Library.Machine Pb External Producer ProducerEntry

/-! ### Requests -/

theorem RequestKind.isForgotten_of_answered {kind : RequestKind}
    (answered : kind.endsUnanswered = false) : kind.isForgotten = false := by
  cases kind <;> first | rfl | cases answered

namespace Ticket

variable {ticket : Ticket} {kind : RequestKind} {outcome : RequestOutcome}

theorem record_of_outcome (there : ticket.outcome = some outcome) :
    (ticket.record outcome).outcome = some outcome ∧
      (ticket.record outcome).stored = ticket.stored := by
  simp [record, store, unpark, there]

/-- The first two passes answer a pending request that somebody may wait for, once. -/
theorem endSession_answers (pending : ticket.kind = some kind)
    (answered : kind.endsUnanswered = false) (outcome : RequestOutcome) :
    ((ticket.endPending outcome).endParked outcome).outcome = some outcome ∧
      ((ticket.endPending outcome).endParked outcome).stored =
        if ticket.outcome = some outcome then ticket.stored else ticket.stored + 1 := by
  have ended : ticket.endPending outcome = ticket.forget.record outcome := by
    simp [endPending, pending, RequestKind.isForgotten_of_answered answered, answered]
  have woken : (ticket.forget.record outcome).parked = false := rfl
  rw [ended, endParked, woken, if_neg Bool.false_ne_true]
  exact ⟨rfl, rfl⟩

end Ticket

namespace RequestDesk

/-- The third pass finds the outcome of a lookup there and stores it again. -/
theorem endChanges_answers (desk : RequestDesk) {requestId : Nat} {ticket : Ticket}
    {kind : RequestKind} {outcome : RequestOutcome} (pending : ticket.kind = some kind)
    (answered : kind.endsUnanswered = false) :
    let after := (desk.endChanges outcome requestId).foldl Ticket.apply ticket
    after.outcome = some outcome ∧
      after.stored = if ticket.outcome = some outcome then ticket.stored else ticket.stored + 1 := by
  have recorded (count : Nat) (ended : Ticket) (there : ended.outcome = some outcome) :
      let after := (List.replicate count (TicketChange.record outcome)).foldl Ticket.apply ended
      after.outcome = some outcome ∧ after.stored = ended.stored := by
    induction count generalizing ended with
    | zero => exact ⟨there, rfl⟩
    | succ _ ih =>
      obtain ⟨still, same⟩ := Ticket.record_of_outcome there
      obtain ⟨last, stored⟩ := ih (ended.record outcome) still
      exact ⟨last, stored.trans same⟩
  obtain ⟨there, stored⟩ := Ticket.endSession_answers pending answered outcome
  obtain ⟨last, same⟩ := recorded
    ((desk.lookup.lookups.keys ++ desk.lookup.partitions.keys).count requestId) _ there
  exact ⟨last, same.trans stored⟩

/-- Nothing is pending any more, each request that somebody may wait for has the outcome, stored
once, and every close and unsubscribe that was waited for has the completion. -/
structure Resolved (desk after : RequestDesk) (outcome : RequestOutcome)
    (completion : CloseCompletion) : Prop where
  idle : ∀ requestId, (after.ticket requestId).kind = none
  answered : ∀ requestId kind, (desk.ticket requestId).kind = some kind →
    kind.endsUnanswered = false → (after.ticket requestId).outcome = some outcome ∧
      (after.ticket requestId).stored =
        if (desk.ticket requestId).outcome = some outcome then (desk.ticket requestId).stored
        else (desk.ticket requestId).stored + 1
  closes : ∀ handle consumer requestId origin, desk.consumers.lookup handle = some consumer →
    consumer.terminalOperation = .pending requestId origin →
      ∃ consumer', after.consumers.lookup handle = some consumer' ∧
        consumer'.terminalOperation = .complete (some requestId) origin completion
  unsubscribes : ∀ requestId, desk.unsubscribes.lookup requestId = some none →
    after.unsubscribes.lookup requestId = some (some completion)

section Resolved

variable {desk : RequestDesk}

/-- What the two ends share. -/
theorem Waits.resolves {op : DeskOp} {outcome : RequestOutcome} {completion : CloseCompletion}
    (waits : desk.Waits)
    (changes : ∀ requestId, desk.changes requestId op = desk.endChanges outcome requestId)
    (closes : ∀ handle consumer requestId origin, desk.consumers.lookup handle = some consumer →
      consumer.terminalOperation = .pending requestId origin →
        desk.awaitsPending handle consumer = true →
          ∃ consumer', desk.consumerAfter handle op = some consumer' ∧
            consumer'.terminalOperation = .complete (some requestId) origin completion)
    (ended : ∀ requestId,
      desk.unsubscribeAfter requestId op = desk.unsubscribeEnded completion requestId) :
    desk.Resolved (desk.step op) outcome completion where
  idle := by
    intro requestId
    rw [ticket_step, changes, kind_endChanges]
  answered := by
    intro requestId kind pending answered
    rw [ticket_step, changes]
    exact desk.endChanges_answers pending answered
  closes := by
    intro handle consumer requestId origin found operation
    rw [consumer_step]
    apply closes handle consumer requestId origin found operation
    exact waits.pending handle consumer found requestId (by rw [operation]; rfl)
  unsubscribes := by
    intro requestId uncompleted
    rw [unsubscribe_step, ended]
    exact waits.unsubscribeEnded completion uncompleted

theorem Waits.reset_resolves (waits : desk.Waits) :
    desk.Resolved (desk.step .reset) .sessionLost .sessionLost := by
  apply waits.resolves (fun _ => rfl) ?_ fun _ => rfl
  intro handle consumer requestId origin found operation awaits
  simp [consumerAfter, found, endOperation, awaits, operation]

theorem Waits.failAllPending_resolves (waits : desk.Waits) (reason : String) :
    desk.Resolved (desk.step (.failAllPending reason)) (.terminal reason) (.terminal reason) := by
  apply waits.resolves (fun _ => rfl) ?_ fun _ => rfl
  intro handle consumer requestId origin found operation awaits
  simp [consumerAfter, found, dropsWithConnection, endOperation, awaits, operation,
    ConsumerEnd.terminate]

end Resolved

/-! ### Calls after the end -/

/-- The connection has ended: the calls that close a consumer or its subscription return an error
and leave the requests as they are. -/
structure RefusesEnds (desk : RequestDesk) : Prop where
  closeConsumer : ∀ handle origin, (desk.closeConsumer handle origin).2 = .error .terminal ∧
    (desk.closeConsumer handle origin).1.tickets = desk.tickets
  unsubscribe : ∀ handle, (desk.unsubscribe handle).2 = .error .terminal ∧
    (desk.unsubscribe handle).1.tickets = desk.tickets
  forceCloseConsumerForget : ∀ handle, desk.forceCloseConsumerForget handle = desk

theorem refusesEnds_of_latched {desk : RequestDesk}
    (latched : desk.terminalAdmissionReason.isSome = true) : desk.RefusesEnds := by
  obtain ⟨reason, shut⟩ := Option.isSome_iff_exists.mp latched
  constructor
  · intro handle origin
    simp [RequestDesk.closeConsumer, shut, modifyConsumer]
  · intro handle
    simp [RequestDesk.unsubscribe, shut, modifyConsumer]
  · intro handle
    simp [RequestDesk.forceCloseConsumerForget, shut]

theorem latched_run (later : List DeskOp) (desk : RequestDesk)
    (latched : desk.terminalAdmissionReason.isSome = true) :
    (run RequestDesk.step desk later).terminalAdmissionReason.isSome = true := by
  induction later generalizing desk with
  | nil => exact latched
  | cons op _ ih =>
    exact ih (desk.step op) (desk.terminalAdmissionReason_step op latched)

end RequestDesk

/-! ### Sends -/

namespace ProducerEntry

variable {single : Prost SingleMessageMetadata} {codecs : Codecs}

/-- A terminal outcome stays while other sends get the same one. -/
theorem lookup_settleAll_terminal (ops : List OpSend) (reason : String) (seq : Nat)
    (entry : ProducerEntry) (settled : seq ∈ ops.map (·.sequenceId) ∨
      entry.outcomes.lookup seq = some (.terminal reason)) :
    (entry.settleAll ops fun _ => .terminal reason).outcomes.lookup seq =
      some (.terminal reason) := by
  induction ops generalizing entry with
  | nil => simpa [settleAll] using settled
  | cons op _ ih =>
    apply ih
    by_cases same : seq = op.sequenceId
    · subst same
      exact .inr (AList.lookup_insert _)
    · rcases settled with member | there
      · exact .inl ((List.mem_cons.mp member).resolve_left same)
      · exact .inr ((AList.lookup_insert_ne same).trans there)

variable (entry : ProducerEntry) (reason : String)

theorem lookup_terminalizeSlab (seq : Nat)
    (settled : entry.outcomes.lookup seq = some (.terminal reason)) :
    (entry.terminalizeSlab reason).outcomes.lookup seq = some (.terminal reason) := by
  have swept (keys : List Nat) (start : ProducerEntry)
      (there : start.outcomes.lookup seq = some (.terminal reason)) :
      (keys.foldl (fun entry key =>
        (entry.recordOutcome key (.terminal reason)).wakeDroppingSlab key none)
          start).outcomes.lookup seq = some (.terminal reason) := by
    induction keys generalizing start with
    | nil => exact there
    | cons key _ ih =>
      apply ih
      by_cases same : seq = key
      · subst same
        exact AList.lookup_insert _
      · exact (AList.lookup_insert_ne same).trans there
  exact swept _ entry settled

theorem failAll_outcomes :
    ∀ seq ∈ entry.unsettledIds,
      (entry.failAll reason).outcomes.lookup seq = some (.terminal reason) := by
  intro seq member
  apply lookup_terminalizeSlab
  apply lookup_settleAll_terminal
  rw [terminalizeSlot_snapshots]
  cases found : entry.slot with
  | none =>
    rw [unsettledIds_of_none found] at member
    exact .inl member
  | some =>
    rw [unsettledIds_of_some found] at member
    apply (List.mem_append.mp member).imp_right
    intro pending
    simp only [terminalizeSlot, found]
    exact lookup_settleAll_terminal _ reason seq _ (.inl pending)

theorem failAll_unsettledIds : (entry.failAll reason).unsettledIds = [] := by
  let shut (state : ProducerState) : ProducerState := { state with closed := true }
  obtain ⟨slab, outcomes, events, swept, -⟩ :=
    (entry.terminalize shut reason).terminalizeSlab_settles reason
  have same : entry.failAll reason = (entry.terminalize shut reason).terminalizeSlab reason := rfl
  rw [same, swept]
  exact entry.terminalize_unsettledIds shut reason

/-- No send is unsettled, and the producer, if one is there, takes none. -/
structure Shut (entry : ProducerEntry) : Prop where
  settled : entry.unsettledIds = []
  closed : ∀ record, entry.slot = some record → record.state.closed = true

theorem failAll_shut : (entry.failAll reason).Shut where
  settled := entry.failAll_unsettledIds reason
  closed := by
    intro record found
    rw [failAll_slot] at found
    obtain ⟨earlier, -, rfl⟩ := Option.map_eq_some_iff.mp found
    rfl

namespace Shut

variable {before after entry : ProducerEntry}

theorem sendIsAccepted_false (shut : Shut entry) (msg : OutgoingMessage) (uuid : String)
    (reservation publishTimeMs now : Nat) :
    entry.sendIsAccepted single codecs msg uuid reservation publishTimeMs now = false := by
  unfold sendIsAccepted
  cases found : entry.slot with
  | none => rfl
  | some record =>
    simp [ProducerState.queueSendReserved, shut.closed record found, Except.toOption]

theorem queueSend (shut : Shut entry) (msg : OutgoingMessage) (uuid : String)
    (reservation publishTimeMs now : Nat) :
    Shut (entry.queueSend single codecs msg uuid reservation publishTimeMs now) := by
  cases found : entry.slot with
  | none =>
    rw [show entry.queueSend single codecs msg uuid reservation publishTimeMs now = entry by
      simp [ProducerEntry.queueSend, found]]
    exact shut
  | some record =>
    have refused : entry.queueSend single codecs msg uuid reservation publishTimeMs now =
        (entry.withState record record.state).observe [] := by
      simp [ProducerEntry.queueSend, found, ProducerState.queueSendReserved,
        shut.closed record found, withState]
    rw [refused]
    refine ⟨?_, fun there same => shut.closed there (found.trans same)⟩
    have settled := shut.settled
    rw [unsettledIds_of_some found] at settled
    exact (unsettledIds_withState entry record record.state).trans settled

theorem of_subset (shut : Shut before) (fewer : after.unsettledIds ⊆ before.unsettledIds)
    (closed : ∀ record, after.slot = some record → record.state.closed = true) : Shut after where
  settled := by
    rw [shut.settled] at fewer
    exact List.subset_nil.mp fewer
  closed := closed

theorem move (shut : Shut before) (move : Move single codecs before after) : Shut after := by
  apply shut.of_subset move.unsettledIds_subset
  intro record' there
  cases move with
  | reduce slot slot' reduces =>
    cases slot'.symm.trans there
    exact reduces.closed (shut.closed _ slot)
  | vacate slot' =>
    rw [slot'] at there
    cases there
  | @flush record slot publishTimeMs =>
    cases there
    exact (flushed_nextSequenceId (.inr ⟨publishTimeMs, rfl⟩ :
      record.state.MaybeFlushed single codecs _)).2.trans (shut.closed record slot)
  | @drain record slot ready =>
    rw [drainOutbound_eq slot ready] at there
    cases there
    exact shut.closed record slot
  | poll => exact shut.closed record' there

/-- As long as no other producer takes the handle, it stays shut. -/
theorem step {op : EntryOp} (shut : Shut entry) (same : op.keepsProducer = true) :
    Shut (entryStep single codecs entry op) := by
  have other (regular : unwrapped entry op = true) : Shut (entryStep single codecs entry op) := by
    refine entryStep_invariant (fun _ op => op.keepsProducer = true) Shut ?_ ?_ ?_ ?_ ?_ ?_ entry op
      shut regular same
    · intro entry handle maxMessageSize req _ keeps
      cases keeps
    · intro before after record record' producerName lastSequenceId shut _ slot attached
      apply shut.of_subset (by rw [attached_unsettledIds slot attached]; exact List.Subset.refl _)
      intro found there
      cases attached.slot.symm.trans there
      obtain ⟨name, index, state⟩ := attached.state
      rw [state]
      exact shut.closed record slot
    · intro before after record record' receipt shut _ slot received
      have reduces : record.state.Reduces record'.state := by
        rw [received.state]
        exact record.state.handleSendReceipt_reduces receipt
      apply shut.of_subset (reduce_unsettledIds slot received.slot reduces received.keeps)
      intro found there
      cases received.slot.symm.trans there
      exact reduces.closed (shut.closed record slot)
    · intro before after msg record op batch state shut _ accepted
      have closed := shut.closed record accepted.slot
      rw [accepted.opened] at closed
      cases closed
    · intro before after record shut slot settles
      obtain ⟨slab, outcomes, events, rfl, -⟩ := settles
      refine shut.of_subset (disconnected_unsettledIds_subset slot) ?_
      intro found there
      cases there
      exact shut.closed record slot
    · exact fun before after shut move => shut.move move
  cases op with
  | create => cases same
  | queueSend => exact shut.queueSend _ _ _ _ _
  | _ => exact other rfl

end Shut

/-- What the end of the session does to the sends of one handle: those without a frame to replay
get an outcome, once, the others are set aside, and none has both. -/
structure CutOff (entry lost : ProducerEntry) : Prop where
  log : ∃ events, lost.log = entry.log ++ events ∧ (resolvedIds events).Nodup ∧
    (∀ seq ∈ resolvedIds events, seq ∉ lost.unsettledIds) ∧
    ∀ record, entry.slot = some record → ∀ op ∈ record.state.pending,
      (op.replayFrames = [] → op.sequenceId ∈ resolvedIds events) ∧
      (op.replayFrames ≠ [] → op.sequenceId ∈ lost.snapshots.map (·.sequenceId))

theorem reset_cutOff {entry : ProducerEntry} (layout : Layout entry) :
    CutOff entry entry.reset := by
  cases found : entry.slot with
  | none =>
    obtain ⟨⟨events, log, -, silent⟩, -, -⟩ := reset_concludes_empty found
    have none : resolvedIds events = [] := by rw [resolvedIds, silent, List.map_nil]
    refine ⟨events, log, ?_⟩
    simp [none, found]
  | some record =>
    obtain ⟨⟨events, log, -, resolved⟩, taken, -⟩ := reset_concludes found
    obtain ⟨slab, outcomes, swept, same, -⟩ := reset_settles found
    have ids : resolvedIds events = (unreplayable record).map (·.sequenceId) := by
      rw [resolvedIds, resolved, List.map_map]
      rfl
    have distinct := taken.nodup_iff.mpr (layout.unsettledIds_nodup found)
    rw [List.append_nil, ← resolved] at distinct
    obtain ⟨-, once, apart⟩ := List.nodup_append.mp distinct
    refine ⟨events, log, once, ?_, ?_⟩
    · exact fun seq member left => apart seq left seq member rfl
    · intro there found' op pending
      cases found.symm.trans found'
      constructor
      · intro frameless
        rw [ids]
        apply List.mem_map_of_mem
        simp [unreplayable, pending, frameless]
      · intro framed
        rw [same]
        change op.sequenceId ∈ (entry.snapshots ++ replayable record).map (·.sequenceId)
        rw [List.map_append, List.mem_append]
        right
        have kept : op ∈ record.state.pending.filter fun op => !op.replayFrames.isEmpty := by
          simp [pending, framed]
        rw [replayable, List.map_map]
        exact List.mem_map_of_mem kept

/-- The end of the connection: every send that was unsettled has the terminal outcome. -/
structure Ended (entry ended : ProducerEntry) (reason : String) : Prop where
  shut : ended.Shut
  outcomes : ∀ seq ∈ entry.unsettledIds, ended.outcomes.lookup seq = some (.terminal reason)

end ProducerEntry

/-! ### The connection -/

section Termination

open RequestDesk
open ProducerSide

variable (single : Prost SingleMessageMetadata) (codecs : Codecs)

/-- The end of a connection resolves everything, seen from the requests and from the sends of any
producer.  As long as nothing takes the request of a close or an unsubscribe away from its waiters,
`fail_all_pending` answers every pending request once, completes every close and unsubscribe, and
settles every send; afterwards the calls that end a consumer and the sends of the producer are
refused.  `reset` answers every pending request once, and as long as the counters of the producer do
not wrap it settles exactly the sends that it does not keep for replay. -/
theorem connection_end_resolves (ackResponseTimeout : Option Nat) (maxPending : Nat)
    (requests : List DeskOp)
    (kept : Guarded RequestDesk.step (fun desk op => desk.keepsWaiters op = true)
      (fresh ackResponseTimeout maxPending) requests)
    (config : ProducerConfig) (handle : Nat) (ops : List Op) (reason : String) :
    let desk := run RequestDesk.step (fresh ackResponseTimeout maxPending) requests
    let dead := desk.step (.failAllPending reason)
    let side := run (ProducerSide.step single codecs) (start config) ops
    let ended := side.step single codecs (.failAllPending reason)
    desk.Resolved dead (.terminal reason) (.terminal reason) ∧
    desk.Resolved (desk.step .reset) .sessionLost .sessionLost ∧
    (∀ later, (run RequestDesk.step dead later).RefusesEnds) ∧
    (side.entries handle).Ended (ended.entries handle) reason ∧
    (∀ later, Guarded (ProducerSide.step single codecs)
        (GuardedAt single codecs (fun _ op => op.keepsProducer = true) handle) ended later →
      let entry := (run (ProducerSide.step single codecs) ended later).entries handle
      entry.unsettledIds = [] ∧ ∀ msg uuid reservation publishTimeMs now,
        entry.sendIsAccepted single codecs msg uuid reservation publishTimeMs now = false) ∧
    (Guarded (ProducerSide.step single codecs) (fun side op => side.countersFit handle op = true)
        (start config) ops →
      (side.entries handle).CutOff ((side.step single codecs .reset).entries handle)) := by
  intro desk dead side ended
  have waits : desk.Waits :=
    run_invariant Waits (fun _ _ => Waits.step) (waits_fresh ackResponseTimeout maxPending) kept
  have shut : (ended.entries handle).Shut := (side.entries handle).failAll_shut reason
  refine ⟨waits.failAllPending_resolves reason, waits.reset_resolves, ?_, ?_, ?_, ?_⟩
  · exact fun later => refusesEnds_of_latched (latched_run later dead rfl)
  · exact ⟨shut, (side.entries handle).failAll_outcomes reason⟩
  · intro later guarded entry
    have stays : entry.Shut :=
      run_entry_invariant guarded Shut (fun _ _ shut same => shut.step same) shut
    exact ⟨stays.settled, stays.sendIsAccepted_false⟩
  · exact fun fits => reset_cutOff (run_layout single codecs config fits)

/-- A connection that ends with a seek, a close and an unsubscribe pending and with one send set
aside and one pending. -/
theorem everything_resolved_at_the_end :
    let requests := [DeskOp.subscribe, .subscribe, .reply (.success 0), .reply (.success 1),
      .seek 0, .closeConsumer 0 .reliable, .unsubscribe 1]
    let desk := run RequestDesk.step (fresh none 0) requests
    let ops := opening plainOpen none ++
      [sending [], .reset, .rebuildProducer 0, .frame 1 (.connected none),
        .frame 1 (.producerSuccess 1 "p" none), sending []]
    let side := run (ProducerSide.step default default) (start {}) ops
    desk.Resolved (desk.step (.failAllPending "closed")) (.terminal "closed") (.terminal "closed") ∧
    (desk.ticket 2).kind = some (.consumerSeek 0) ∧
    (desk.ticket 3).kind = some (.consumerClose 0) ∧
    desk.unsubscribes.lookup 4 = some none ∧
    (side.entries 0).unsettledIds = [0, 1] ∧
    (side.entries 0).Ended ((side.step default default (.failAllPending "closed")).entries 0)
      "closed" ∧
    (side.entries 0).CutOff ((side.step default default .reset).entries 0) := by
  intro requests desk ops side
  have resolved := connection_end_resolves default default none 0 requests (by decide +kernel) {} 0
    ops "closed"
  refine ⟨resolved.1, ?_, ?_, ?_, ?_, resolved.2.2.2.1, resolved.2.2.2.2.2 (by decide +kernel)⟩
  · decide +kernel
  · decide +kernel
  · decide +kernel
  · decide +kernel

/-- After the end of the connection a request for the last message id and a seek become pending on
a consumer that exists; and a close whose request was cancelled is never completed. -/
theorem requests_pending_after_the_end :
    let ended := run RequestDesk.step (fresh none 0)
      [.subscribe, .reply (.success 0), .failAllPending "closed", .getLastMessageId 0, .seek 0]
    let cancelled := run RequestDesk.step (fresh none 0)
      [.subscribe, .reply (.success 0), .closeConsumer 0 .reliable, .cancelRequest 1,
        .failAllPending "closed"]
    ended.terminalAdmissionReason = some "closed" ∧
    (ended.consumers.lookup 0).isSome = true ∧
    (ended.ticket 1).kind = some (.consumerGetLastMessageId 0) ∧
    (ended.ticket 1).outcome = none ∧
    (ended.ticket 2).kind = some (.consumerSeek 0) ∧
    (ended.ticket 2).outcome = none ∧
    (cancelled.consumers.lookup 0).map ConsumerEnd.terminalOperation =
      some (.pending 1 .reliable) := by
  decide +kernel

end Termination

end Magnetar.Proto.Connection
