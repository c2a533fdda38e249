import Magnetar.Proto.Connection.Frames
import Magnetar.Proto.Connection.Order

/-!
Contract: what is sent of a message after its send has failed.

Owns: the places where a frame of a send can wait (the buffer, the staged frames, the batch
container, the sends that may be replayed), that a send absent from all of them stays absent, and
the runs in which a failed send is never handed over afterwards.

Does not own: what was handed over before the failure.
-/

namespace Magnetar.Proto.Connection

open Library.Machine Pb External Producer ProducerEntry ProducerSide
open Trackers.Unacked (deadlineWithClamp)

variable {single : Prost SingleMessageMetadata} {codecs : Codecs}

variable {settled : List (Nat × OpOutcome)} {seq : Nat} {entry : ProducerEntry}

/-! ### Where the frames of a send wait -/

def handedIds (log : List SendEvent) : List Nat :=
  (handedFrames log).flatMap fun released => released.2.ids

theorem handedIds_append (log events : List SendEvent) :
    handedIds (log ++ events) = handedIds log ++ handedIds events := by
  rw [handedIds, handedFrames_append, List.flatMap_append, handedIds, handedIds]

def ProducerEntry.bufferedIds (entry : ProducerEntry) : List Nat :=
  entry.buffered.flatMap fun released => released.2.ids

/-- No frame of the send waits anywhere, none can be replayed, and its id is not given out again. -/
structure Quiet (entry : ProducerEntry) (seq : Nat) : Prop where
  unsettled : seq ∉ entry.unsettledIds
  buffered : seq ∉ entry.bufferedIds
  staged : ∀ record, entry.slot = some record → seq ∉ stagedIds record.state
  spent : ∀ record, entry.slot = some record →
    record.state.closed = true ∨ seq < record.state.nextSequenceId

variable {lost : List Nat}

namespace Quiet

variable {before after : ProducerEntry} {record record' : ProducerRecord} {seq : Nat}

section

variable (quiet : Quiet before seq)

include quiet

theorem reduce (slot : before.slot = some record)
    (slot' : after.slot = some record') (reduces : record.state.Reduces record'.state)
    (keeps : Keeps before after) : Quiet after seq := by
  refine ⟨?_, ?_, ?_, ?_⟩
  · exact fun member => quiet.unsettled (reduce_unsettledIds slot slot' reduces keeps member)
  · rw [bufferedIds, keeps.buffered]
    exact quiet.buffered
  · intro found there
    cases slot'.symm.trans there
    rcases reduces.frames with ⟨outbound, batch⟩ | ⟨outbound, batch⟩
    · rw [stagedIds, outbound, batch]
      exact quiet.staged record slot
    · rw [stagedIds, outbound, batch]
      exact List.not_mem_nil
  · intro found there
    cases slot'.symm.trans there
    have next : record'.state.nextSequenceId = record.state.nextSequenceId := by
      rw [reduces.rest]
    rw [next]
    exact (quiet.spent record slot).imp reduces.closed id

theorem vacate (empty : after.slot = none)
    (keeps : Keeps before after ∨ Keeps { before with buffered := [] } after) :
    Quiet after seq := by
  refine ⟨?_, ?_, by simp [empty], by simp [empty]⟩
  · exact fun member => quiet.unsettled (vacate_unsettledIds empty keeps member)
  · rcases keeps with keeps | keeps
    · rw [bufferedIds, keeps.buffered]
      exact quiet.buffered
    · rw [bufferedIds, keeps.buffered]
      exact List.not_mem_nil

theorem flush (layout : Layout before) (slot : before.slot = some record) (publishTimeMs : Nat) :
    Quiet (before.withState record (record.state.flushBatch single codecs publishTimeMs).2) seq := by
  refine ⟨?_, quiet.buffered, ?_, ?_⟩
  · rw [flush_unsettledIds slot publishTimeMs]
    exact quiet.unsettled
  · intro found there
    cases there
    rw [layout.flush_stagedIds slot publishTimeMs]
    exact quiet.staged record slot
  · intro found there
    cases there
    obtain ⟨next, closed⟩ :=
      flushed_nextSequenceId (.inr ⟨publishTimeMs, rfl⟩ : record.state.MaybeFlushed single codecs _)
    rw [next, closed]
    exact quiet.spent record slot

theorem drain (slot : before.slot = some record)
    (ready : record.state.brokerReady = true) : Quiet before.drainOutbound seq := by
  rw [drainOutbound_eq slot ready]
  have staged := quiet.staged record slot
  rw [stagedIds, List.mem_append, not_or] at staged
  refine ⟨?_, ?_, ?_, ?_⟩
  · intro member
    apply quiet.unsettled
    rw [unsettledIds_of_some slot]
    rw [unsettledIds_of_some rfl] at member
    exact member
  · rw [bufferedIds, List.flatMap_append, List.mem_append, not_or]
    refine ⟨quiet.buffered, ?_⟩
    rw [List.flatMap_map]
    exact staged.1
  · intro found there
    cases there
    exact staged.2
  · intro found there
    cases there
    exact quiet.spent record slot

theorem poll : Quiet before.pollTransmit seq :=
  ⟨quiet.unsettled, List.not_mem_nil, quiet.staged, quiet.spent⟩

theorem move (layout : Layout before)
    (move : Move single codecs before after) : Quiet after seq := by
  cases move with
  | reduce slot slot' reduces keeps => exact quiet.reduce slot slot' reduces keeps
  | vacate slot' keeps => exact quiet.vacate slot' keeps
  | flush slot publishTimeMs => exact quiet.flush layout slot publishTimeMs
  | drain slot ready => exact quiet.drain slot ready
  | poll => exact quiet.poll

theorem receive {receipt : CommandSendReceipt} (slot : before.slot = some record)
    (received : Received before record receipt after record') : Quiet after seq := by
  refine quiet.reduce slot received.slot ?_ received.keeps
  rw [received.state]
  exact record.state.handleSendReceipt_reduces receipt

end

theorem replays_absent {batches : OutgoingMessage → Bool} {minted : List (Nat × OutgoingMessage)}
    {sends : List OpSend} (absent : seq ∉ sends.map (·.sequenceId))
    (replayed : ∀ op ∈ sends, op.replayFrames ≠ [] → Replayed batches minted op) :
    seq ∉ (sends.flatMap (·.replayFrames)).flatMap OutboundFrame.ids := by
  intro member
  obtain ⟨frame, inFrames, inside⟩ := List.mem_flatMap.mp member
  obtain ⟨op, among, -, rfl⟩ := replayFrames_ids replayed inFrames inside
  exact absent (List.mem_map_of_mem among)

section

variable (quiet : Quiet before seq)

include quiet

theorem attach {lastSequenceId : Option Int} (layout : Layout before)
    (slot : before.slot = some record)
    (attached : Attached before record lastSequenceId after record') : Quiet after seq := by
  obtain ⟨earlier, members, blocks, minted, staged⟩ := layout.slot record slot
  obtain ⟨name, index, state⟩ := attached.state
  have absent := quiet.unsettled
  rw [unsettledIds_of_some slot, List.mem_append, not_or] at absent
  refine ⟨?_, ?_, ?_, ?_⟩
  · rw [attached_unsettledIds slot attached]
    exact quiet.unsettled
  · rw [bufferedIds, attached.buffered]
    exact quiet.buffered
  · intro found there
    cases attached.slot.symm.trans there
    have aside := replays_absent absent.1 fun op member _ => (staged.snapshots op member).1
    have unstagedIds : seq ∉ (ProducerEntry.unstaged record.state).map (·.sequenceId) :=
      fun member => absent.2 ((List.filter_sublist.map _).subset member)
    have again := replays_absent unstagedIds fun op member framed =>
      (staged.pending op (List.mem_filter.mp member).1 framed).1
    have staged := quiet.staged record slot
    rw [stagedIds, List.mem_append, not_or] at staged
    rw [stagedIds, state]
    simp only [List.flatMap_append, List.mem_append, not_or]
    exact ⟨⟨aside, again, staged.1⟩, staged.2⟩
  · intro found there
    cases attached.slot.symm.trans there
    rw [state]
    exact quiet.spent record slot

theorem disconnect (slot : before.slot = some record) : Quiet (before.disconnected record) seq := by
  refine ⟨?_, List.not_mem_nil, ?_, ?_⟩
  · exact fun member => quiet.unsettled (disconnected_unsettledIds_subset slot member)
  · intro found there
    cases there
    exact List.not_mem_nil
  · intro found there
    cases there
    exact quiet.spent record slot

theorem settle (settles : Settles before after settled) : Quiet after seq := by
  obtain ⟨slab, outcomes, events, rfl, -⟩ := settles
  exact ⟨quiet.unsettled, quiet.buffered, quiet.staged, quiet.spent⟩

theorem accept {msg : OutgoingMessage} {op : OpSend} {batch : BatchContainer}
    {state : ProducerState} (layout : Layout before)
    (bounded : record.state.nextSequenceId + 1 < 2 ^ 64)
    (accepted : Accepted codecs before after msg record op batch state) : Quiet after seq := by
  have older : seq < record.state.nextSequenceId :=
    (quiet.spent record accepted.slot).resolve_left (by simp [accepted.opened])
  have place : seq ∈ stagedIds state →
      seq ∈ stagedIds record.state ∨ seq = record.state.nextSequenceId :=
    accepted.mem_stagedIds layout
  have pendingIds := accepted.accepts.pendingIds_eq
  have next : state.nextSequenceId = record.state.nextSequenceId + 1 :=
    accepted.accepts.nextSequenceId_eq bounded
  obtain ⟨slot, opened, accepts, rfl⟩ := accepted
  refine ⟨?_, quiet.buffered, ?_, ?_⟩
  · change seq ∉ (before.withState record state).unsettledIds
    have absent := quiet.unsettled
    rw [unsettledIds_of_some slot] at absent
    rw [unsettledIds_withState, pendingIds, ← List.append_assoc, List.mem_append,
      List.mem_singleton, not_or]
    exact ⟨absent, by omega⟩
  · intro found there
    cases there
    intro member
    rcases place member with before | newest
    · exact quiet.staged record slot before
    · omega
  · intro found there
    cases there
    right
    change seq < state.nextSequenceId
    omega

end

/-- What is quiet stays so while the producer keeps its handle. -/
theorem step {op : EntryOp} (quiet : Quiet entry seq)
    (layout : Layout entry) (regular : unwrapped entry op = true)
    (same : op.keepsProducer = true) : Quiet (entryStep single codecs entry op) seq := by
  refine (entryStep_invariant (fun _ op => op.keepsProducer = true)
    (fun entry => Layout entry ∧ Quiet entry seq) ?_ ?_ ?_ ?_ ?_ ?_ entry op ⟨layout, quiet⟩ regular
    same).2
  · intro entry handle maxMessageSize req _ keeps
    cases keeps
  · intro before after record record' producerName lastSequenceId holds _ slot attached
    exact ⟨holds.1.attach slot attached, holds.2.attach holds.1 slot attached⟩
  · intro before after record record' receipt holds _ slot received
    exact ⟨holds.1.receive slot received, holds.2.receive slot received⟩
  · intro before after msg record op batch state holds bounded accepted
    exact ⟨holds.1.accept bounded accepted, holds.2.accept holds.1 bounded accepted⟩
  · intro before after record holds slot settles
    exact ⟨(holds.1.disconnected slot).still settles.slot settles.keeps,
      (holds.2.disconnect slot).settle settles⟩
  · intro before after holds move
    exact ⟨holds.1.move move, holds.2.move holds.1 move⟩

/-- A send that has just been settled is quiet once none of its frames waits. -/
theorem of_settled (layout : Layout before)
    (slot : before.slot = some record) (concludes : Concludes before after settled lost)
    (member : seq ∈ settled.map Prod.fst) (buffered : seq ∉ after.bufferedIds)
    (staged : ∀ record', after.slot = some record' → seq ∉ stagedIds record'.state ∧
      record'.state.nextSequenceId = record.state.nextSequenceId) : Quiet after seq := by
  have apart := concludes.unsettled.nodup_iff.mpr (layout.unsettledIds_nodup slot)
  rw [List.nodup_append] at apart
  have known : seq ∈ before.unsettledIds := concludes.unsettled.subset (by simp [member])
  refine ⟨?_, buffered, fun record' there => (staged record' there).1, ?_⟩
  · intro left
    exact apart.2.2 seq left seq (List.mem_append_left _ member) rfl
  · intro record' there
    right
    rw [(staged record' there).2]
    exact layout.unsettled_lt slot known

/-- Once every send is settled, only frames can still wait. -/
theorem of_cleared (settled : entry.unsettledIds = []) (buffered : seq ∉ entry.bufferedIds)
    (slot : ∀ record, entry.slot = some record → stagedIds record.state = [] ∧
      (record.state.closed = true ∨ seq < record.state.nextSequenceId)) : Quiet entry seq := by
  refine ⟨?_, buffered, ?_, fun record there => (slot record there).2⟩
  · rw [settled]
    exact List.not_mem_nil
  · intro record there
    rw [(slot record there).1]
    exact List.not_mem_nil

end Quiet

/-! ### Sends that have failed -/

/-- Every send that failed before a frame of it was handed over is quiet, and none of its frames
was handed over since. -/
structure Silence (entry : ProducerEntry) : Prop where
  layout : Layout entry
  silent : ∀ earlier seq outcome later,
    entry.log = earlier ++ .resolved seq outcome :: later → outcome.isError = true →
      seq ∉ handedIds earlier → seq ∉ handedIds later ∧ Quiet entry seq

/-- An event of a log that grew is an old one or a new one. -/
theorem append_eq_append_cons {α : Type*} {log events earlier later : List α} {event : α}
    (split : log ++ events = earlier ++ event :: later) :
    (∃ rest, log = earlier ++ event :: rest ∧ later = rest ++ events) ∨
      ∃ first, earlier = log ++ first ∧ events = first ++ event :: later := by
  rcases List.append_eq_append_iff.mp split with ⟨first, front, back⟩ | ⟨rest, front, back⟩
  · exact .inr ⟨first, front, back⟩
  · cases rest with
    | nil =>
      refine .inr ⟨[], ?_, back.symm⟩
      rw [front, List.append_nil, List.append_nil]
    | cons _ rest =>
      obtain ⟨rfl, rfl⟩ := back
      exact .inl ⟨rest, front, rfl⟩

variable (entry)

/-- The send was heard of by the transport, or no frame of it is in the buffer. -/
def unbuffered (seq : Nat) : Bool :=
  (handedIds entry.log).contains seq || !entry.bufferedIds.contains seq

/-- The send was heard of by the transport, or no frame of it waits. -/
def unframed (seq : Nat) : Bool :=
  (handedIds entry.log).contains seq || (!entry.bufferedIds.contains seq &&
    entry.slot.all fun record => !(stagedIds record.state).contains seq)

/-- The failures counted once one more open fails transiently. -/
def ProducerEntry.openFailures : Nat :=
  (entry.slot.map fun record => min (record.transientOpenAttempts + 1) (2 ^ 32 - 1)).getD
    (2 ^ 32 - 1)

/-- No frame waits of a send that the operation fails before any frame of it was handed over.  What
clears the staged frames along with the sends is about the buffer only. -/
def failsUnframed : EntryOp → Bool
  | .sendError err => entry.slot.all fun record =>
    (record.state.findPending err.sequenceId).isNone || unframed entry err.sequenceId
  | .timeoutPending now => entry.slot.all fun record =>
    record.state.sendTimeout.all fun timeout =>
      (record.state.pending.takeWhile fun op =>
        deadlineWithClamp op.enqueuedAt timeout ≤ now).all fun op => unframed entry op.sequenceId
  | .timeoutSnapshots now => (entry.expiredSnapshots now).all fun op => unframed entry op.sequenceId
  | .closeAcked requestId =>
    !(entry.slot.any fun record => record.closeRequest == some requestId) ||
      entry.unsettledIds.all (unbuffered entry)
  | .openFailedTransiently maxRetries _ =>
    shouldRetryAfterFailure maxRetries entry.openFailures ||
      entry.unsettledIds.all (unbuffered entry)
  | .failOpen _ => entry.unsettledIds.all (unbuffered entry)
  | .failAll _ => (entry.unsettledIds ++ entry.slab.keys).all (unbuffered entry)
  | _ => true

variable {entry}

theorem unbuffered_absent
    (clear : unbuffered entry seq = true) (unheard : seq ∉ handedIds entry.log) :
    seq ∉ entry.bufferedIds := by
  simpa [unbuffered, unheard] using clear

theorem unframed_absent (clear : unframed entry seq = true) (unheard : seq ∉ handedIds entry.log) :
    seq ∉ entry.bufferedIds ∧
      ∀ record, entry.slot = some record → seq ∉ stagedIds record.state := by
  have heard : (handedIds entry.log).contains seq = false := by simpa using unheard
  rw [unframed, heard, Bool.false_or, Bool.and_eq_true, Bool.not_eq_true'] at clear
  refine ⟨by simpa using clear.1, ?_⟩
  intro record there
  have staged := clear.2
  rw [there, Option.all_some, Bool.not_eq_true'] at staged
  simpa using staged

variable {events : List SendEvent}

namespace Silence

variable {entry before after : ProducerEntry}

theorem extend (silence : Silence before) (layout : Layout after)
    (log : after.log = before.log ++ events)
    (kept : ∀ seq, Quiet before seq → seq ∉ handedIds events ∧ Quiet after seq)
    (fresh : ∀ first seq outcome later, events = first ++ .resolved seq outcome :: later →
      outcome.isError = true → seq ∉ handedIds before.log →
        seq ∉ handedIds later ∧ Quiet after seq) : Silence after := by
  refine ⟨layout, ?_⟩
  intro earlier seq outcome later split failed unheard
  rw [log] at split
  rcases append_eq_append_cons split with ⟨rest, old, rfl⟩ | ⟨first, rfl, new⟩
  · obtain ⟨absent, quiet⟩ := silence.silent earlier seq outcome rest old failed unheard
    obtain ⟨unhanded, quiet⟩ := kept seq quiet
    rw [handedIds_append, List.mem_append, not_or]
    exact ⟨⟨absent, unhanded⟩, quiet⟩
  · rw [handedIds_append, List.mem_append, not_or] at unheard
    exact fresh first seq outcome later new failed unheard.1

/-- One operation later: the layout holds and what was quiet still is. -/
structure Next (before after : ProducerEntry) : Prop where
  silence : Silence before
  layout : Layout after
  kept : ∀ seq, Quiet before seq → Quiet after seq

/-- Events that hand nothing over, after which what has failed is quiet. -/
theorem Next.hush (next : Next before after)
    (log : after.log = before.log ++ events) (unhanded : handedFrames events = [])
    (fresh : ∀ seq outcome, (seq, outcome) ∈ resolutions events → outcome.isError = true →
      seq ∉ handedIds before.log → Quiet after seq) : Silence after := by
  have none : handedIds events = [] := by rw [handedIds, unhanded, List.flatMap_nil]
  refine next.silence.extend next.layout log (fun seq quiet => ⟨?_, next.kept seq quiet⟩) ?_
  · rw [none]
    exact List.not_mem_nil
  · intro first seq outcome later new failed unheard
    have rest : handedIds later = [] := by
      rw [new, handedIds_append] at none
      exact (List.append_eq_nil_iff.mp none).2
    refine ⟨?_, fresh seq outcome ?_ failed unheard⟩
    · rw [rest]
      exact List.not_mem_nil
    · rw [new]
      exact List.mem_filterMap.mpr ⟨.resolved seq outcome, by simp, rfl⟩

/-- An account whose failed sends are quiet. -/
theorem Next.conclude (next : Next before after) (concludes : Concludes before after settled lost)
    (fresh : ∀ seq outcome, (seq, outcome) ∈ settled → outcome.isError = true →
      seq ∉ handedIds before.log → Quiet after seq) : Silence after := by
  obtain ⟨events, log, replies, rfl⟩ := concludes.log
  exact next.hush log replies.handedFrames fresh

theorem poll (silence : Silence entry) (layout : Layout entry.pollTransmit) :
    Silence entry.pollTransmit := by
  refine silence.extend layout rfl ?_ ?_
  · intro seq quiet
    refine ⟨?_, quiet.poll⟩
    rw [handedIds, handedFrames_polled]
    exact quiet.buffered
  · intro first seq outcome later new
    have member : SendEvent.resolved seq outcome ∈ entry.buffered.map SendEvent.ofReleased := by
      rw [new]
      simp
    obtain ⟨released, -, same⟩ := List.mem_map.mp member
    cases same

/-- Sends are failed while the frames stay where they are. -/
theorem Next.fail {record : ProducerRecord} {state : ProducerState}
    (next : Next before after) (slot : before.slot = some record)
    (slot' : after.slot = some { record with state }) (shrinks : record.state.Shrinks state)
    (buffered : after.buffered = before.buffered) (concludes : Concludes before after settled [])
    (clear : ∀ seq ∈ settled.map Prod.fst, unframed before seq = true) : Silence after := by
  refine next.conclude concludes ?_
  intro seq outcome member _ unheard
  have settledNow : seq ∈ settled.map Prod.fst := List.mem_map_of_mem member
  obtain ⟨waiting, staged⟩ := unframed_absent (clear seq settledNow) unheard
  refine .of_settled next.silence.layout slot concludes settledNow ?_ ?_
  · rw [bufferedIds, buffered]
    exact waiting
  · intro record' there
    cases slot'.symm.trans there
    obtain ⟨index, published, same⟩ := shrinks.rest
    have frames : stagedIds state = stagedIds record.state := by rw [same]; rfl
    have next : state.nextSequenceId = record.state.nextSequenceId := by rw [same]
    refine ⟨?_, next⟩
    rw [frames]
    exact staged record slot

theorem terminalize_buffered (entry : ProducerEntry) (update : ProducerState → ProducerState)
    (reason : String) : (entry.terminalize update reason).buffered = entry.buffered := by
  have drained : (entry.terminalizeSlot update reason).buffered = entry.buffered := by
    cases found : entry.slot with
    | none => simp [terminalizeSlot, found]
    | some => exact (terminalizeSlot_settles found update reason).keeps.buffered
  exact (terminalizeSnapshotBucket_settles _ reason).keeps.buffered.trans drained

/-- The failed sends of an account are among the unsettled ones. -/
theorem settled_unsettled (concludes : Concludes before after settled lost) {outcome : OpOutcome}
    (member : (seq, outcome) ∈ settled) : seq ∈ before.unsettledIds := by
  apply concludes.unsettled.subset
  exact List.mem_append_right _ (List.mem_append_left _ (List.mem_map_of_mem member))

/-- Every send is failed and no producer is left. -/
theorem Next.giveUp (next : Next before after) (concludes : Concludes before after settled [])
    (vacant : after.slot = none)
    (emptied : after.snapshots = []) (buffered : after.buffered = before.buffered)
    (clear : before.unsettledIds.all (unbuffered before) = true) : Silence after := by
  refine next.conclude concludes ?_
  intro seq outcome member _ unheard
  have absent := unbuffered_absent
    (List.all_eq_true.mp clear seq (settled_unsettled concludes member)) unheard
  refine .of_cleared ?_ ?_ (by simp [vacant])
  · rw [unsettledIds_of_none vacant, emptied, List.map_nil]
  · rw [bufferedIds, buffered]
    exact absent

theorem failOpen (reason : String) (next : Next entry (entry.failOpen reason))
    (clear : entry.unsettledIds.all (unbuffered entry) = true) :
    Silence (entry.failOpen reason) := by
  obtain ⟨settled, concludes⟩ := entry.failOpen_concludes reason
  exact next.giveUp concludes rfl (entry.terminalize_snapshots _ reason)
    (terminalize_buffered entry _ reason) clear

theorem openFailedTransiently (maxRetries : Option Nat) (reason : String)
    (next : Next entry (entry.openFailedTransiently maxRetries reason))
    (clear : failsUnframed entry (.openFailedTransiently maxRetries reason) = true) :
    Silence (entry.openFailedTransiently maxRetries reason) := by
  let failed : ProducerEntry := entry.shutGate.modifyRecord fun record =>
    { record with transientOpenAttempts := min (record.transientOpenAttempts + 1) (2 ^ 32 - 1) }
  have counted : (failed.slot.map (·.transientOpenAttempts)).getD (2 ^ 32 - 1) =
      entry.openFailures := by
    simp only [failed, modifyRecord, shutGate, modifyState, Option.map_map, openFailures]
    rfl
  have result : entry.openFailedTransiently maxRetries reason =
      if shouldRetryAfterFailure maxRetries entry.openFailures then failed
      else failed.failOpen reason := by
    rw [← counted]
    rfl
  obtain ⟨settled, concludes⟩ := entry.openFailedTransiently_concludes maxRetries reason
  cases retries : shouldRetryAfterFailure maxRetries entry.openFailures with
  | true =>
    rw [retries, if_pos rfl] at result
    rw [result] at next ⊢
    exact next.hush (List.append_nil _).symm rfl (by simp [resolutions])
  | false =>
    rw [failsUnframed, retries, Bool.false_or] at clear
    rw [retries, if_neg Bool.false_ne_true] at result
    rw [result] at next concludes ⊢
    exact next.giveUp concludes rfl (failed.terminalize_snapshots _ reason)
      (terminalize_buffered failed _ reason) clear

theorem closeAcked (requestId : Nat) (next : Next entry (entry.closeAcked requestId))
    (clear : failsUnframed entry (.closeAcked requestId) = true) :
    Silence (entry.closeAcked requestId) := by
  cases requested : entry.slot.any fun record => record.closeRequest == some requestId with
  | false =>
    have same : entry.closeAcked requestId = entry := by
      simp [ProducerEntry.closeAcked, requested]
    rw [same]
    exact next.silence
  | true =>
    have same : entry.closeAcked requestId = entry.terminalize id producerClosedReason := by
      simp [ProducerEntry.closeAcked, requested, terminalize]
    rw [failsUnframed, requested, Bool.not_true, Bool.false_or] at clear
    rw [same] at next ⊢
    obtain ⟨settled, concludes⟩ := entry.terminalize_concludes id (fun _ => rfl)
      producerClosedReason
    refine next.conclude concludes ?_
    intro seq outcome member _ unheard
    have unsettled := settled_unsettled concludes member
    have absent := unbuffered_absent (List.all_eq_true.mp clear seq unsettled) unheard
    refine .of_cleared (entry.terminalize_unsettledIds _ _) ?_ ?_
    · rw [bufferedIds, terminalize_buffered]
      exact absent
    · intro record' there
      rw [terminalize_slot] at there
      obtain ⟨record, slot, rfl⟩ := Option.map_eq_some_iff.mp there
      have older : seq < record.state.nextSequenceId :=
        next.silence.layout.unsettled_lt slot unsettled
      exact ⟨rfl, .inr older⟩

theorem failAll (reason : String) (next : Next entry (entry.failAll reason))
    (clear : failsUnframed entry (.failAll reason) = true) : Silence (entry.failAll reason) := by
  let shut (state : ProducerState) : ProducerState := { state with closed := true }
  obtain ⟨settled, concludes⟩ := entry.terminalize_concludes shut (fun _ => rfl) reason
  obtain ⟨events, log, replies, resolved⟩ := concludes.log
  have swept := terminalizeSlab_settles (entry.terminalize shut reason) reason
  change Settles _ (entry.failAll reason) _ at swept
  obtain ⟨slab, outcomes, more, result, replies', resolved', -⟩ := swept
  have slabKeys : ∀ key ∈ (entry.terminalize shut reason).slab.keys, key ∈ entry.slab.keys := by
    intro key member
    exact AList.mem_keys.mp
      ((entry.mem_terminalize_slab shut (fun _ => rfl) reason key).mp (AList.mem_keys.mpr member)).2
  have grown : (entry.failAll reason).log = entry.log ++ (events ++ more) := by
    rw [result, ← List.append_assoc, ← log]
  refine next.hush grown ?_ ?_
  · rw [handedFrames_append, replies.handedFrames, replies'.handedFrames, List.append_nil]
  · intro seq outcome member _ unheard
    rw [resolutions_append, resolved, resolved', List.mem_append] at member
    have known : seq ∈ entry.unsettledIds ++ entry.slab.keys := by
      rcases member with failed | parked
      · exact List.mem_append_left _ (settled_unsettled concludes failed)
      · obtain ⟨key, inSlab, same⟩ := List.mem_map.mp parked
        obtain ⟨rfl, -⟩ := Prod.mk.inj same
        exact List.mem_append_right _ (slabKeys _ inSlab)
    have absent := unbuffered_absent (List.all_eq_true.mp clear seq known) unheard
    rw [result]
    refine .of_cleared (entry.terminalize_unsettledIds shut reason) ?_ ?_
    · rw [bufferedIds, terminalize_buffered]
      exact absent
    · intro record' there
      have slot : (entry.terminalize shut reason).slot = some record' := there
      rw [terminalize_slot] at slot
      obtain ⟨record, -, rfl⟩ := Option.map_eq_some_iff.mp slot
      exact ⟨rfl, .inl rfl⟩

/-- A lost connection fails what it cannot replay, and leaves no frame. -/
theorem reset (next : Next entry entry.reset) : Silence entry.reset := by
  cases found : entry.slot with
  | none =>
    exact next.conclude (reset_concludes_empty found) fun seq outcome member => by
      cases member
  | some =>
    have concludes := reset_concludes found
    refine next.conclude concludes ?_
    intro seq outcome member _ _
    refine .of_settled next.silence.layout found concludes (List.mem_map_of_mem member) ?_ ?_
    · exact List.not_mem_nil
    · intro record' there
      rw [(reset_settles found).slot] at there
      cases there
      exact ⟨List.not_mem_nil, rfl⟩

theorem sendReceipt (receipt : CommandSendReceipt) (next : Next entry (entry.sendReceipt receipt)) :
    Silence (entry.sendReceipt receipt) := by
  cases found : entry.slot with
  | none =>
    rw [show entry.sendReceipt receipt = entry by simp [ProducerEntry.sendReceipt, found]]
    exact next.silence
  | some record =>
    refine next.conclude
      (sendReceipt_concludes found (next.silence.layout.indexed record found) receipt) ?_
    intro seq outcome member failed
    obtain ⟨resolved, -, same⟩ := List.mem_map.mp member
    obtain ⟨-, rfl⟩ := Prod.mk.inj same
    cases failed

theorem sendError (err : CommandSendError) (next : Next entry (entry.sendError err))
    (clear : failsUnframed entry (.sendError err) = true) : Silence (entry.sendError err) := by
  cases found : entry.slot with
  | none =>
    rw [show entry.sendError err = entry by simp [ProducerEntry.sendError, found]]
    exact next.silence
  | some record =>
    have settles := sendError_settles found err
    refine next.fail found settles.slot (record.state.applySendError_shrinks err)
      settles.keeps.buffered
      (sendError_concludes found (next.silence.layout.indexed record found) err) ?_
    intro seq member
    rw [failsUnframed, found, Option.all_some, Bool.or_eq_true] at clear
    rw [List.map_map] at member
    obtain ⟨op, pending, rfl⟩ := List.mem_map.mp member
    rw [Option.mem_toList] at pending
    change unframed entry op.sequenceId = true
    rw [(ProducerState.findPending_mem pending).2]
    refine clear.resolve_left ?_
    rw [Option.mem_def.mp pending]
    exact Bool.false_ne_true

theorem timeoutPending (now : Nat) (next : Next entry (entry.timeoutPending now))
    (clear : failsUnframed entry (.timeoutPending now) = true) :
    Silence (entry.timeoutPending now) := by
  cases found : entry.slot with
  | none =>
    rw [show entry.timeoutPending now = entry by simp [ProducerEntry.timeoutPending, found]]
    exact next.silence
  | some record =>
    have settles := timeoutPending_settles found now
    refine next.fail found settles.slot (record.state.drainTimedOutSends_shrinks now)
      settles.keeps.buffered (timeoutPending_concludes found now) ?_
    intro seq member
    rw [List.map_map] at member
    obtain ⟨op, expired, rfl⟩ := List.mem_map.mp member
    rw [failsUnframed, found, Option.all_some] at clear
    unfold ProducerState.drainTimedOutSends at expired
    cases timeout : record.state.sendTimeout with
    | none => simp [timeout] at expired
    | some =>
      rw [timeout] at clear expired
      exact List.all_eq_true.mp clear op expired

theorem timeoutSnapshots (now : Nat) (next : Next entry (entry.timeoutSnapshots now))
    (clear : failsUnframed entry (.timeoutSnapshots now) = true) :
    Silence (entry.timeoutSnapshots now) := by
  have settles := entry.timeoutSnapshots_settles now
  have concludes := entry.timeoutSnapshots_concludes now
  cases found : entry.slot with
  | none =>
    have nothing : entry.expiredSnapshots now = [] := by simp [expiredSnapshots, found]
    rw [nothing] at concludes
    exact next.conclude concludes fun seq outcome member => by cases member
  | some record =>
    refine next.fail found (settles.slot.trans found) (.refl record.state)
      settles.keeps.buffered concludes ?_
    intro seq member
    rw [List.map_map] at member
    obtain ⟨op, expired, rfl⟩ := List.mem_map.mp member
    exact List.all_eq_true.mp clear op expired

theorem attach (producerName : String) (lastSequenceId : Option Int)
    (next : Next entry (entry.attach producerName lastSequenceId)) :
    Silence (entry.attach producerName lastSequenceId) := by
  cases found : entry.slot with
  | none =>
    rw [show entry.attach producerName lastSequenceId = entry by
      simp [ProducerEntry.attach, found]]
    exact next.silence
  | some =>
    obtain ⟨record', attached⟩ := attach_attached found producerName lastSequenceId
    exact next.hush attached.log rfl fun seq outcome member => by cases member

theorem queueSend (msg : OutgoingMessage) (uuid : String) (reservation publishTimeMs now : Nat)
    (next : Next entry (entry.queueSend single codecs msg uuid reservation publishTimeMs now)) :
    Silence (entry.queueSend single codecs msg uuid reservation publishTimeMs now) := by
  rcases entry.queueSend_concludes msg uuid reservation publishTimeMs now with
    rejected | ⟨record, -, log, -⟩
  · exact next.conclude rejected fun seq outcome member => by cases member
  · exact next.hush log rfl fun seq outcome member => by cases member

theorem create (clear : entry.snapshots = []) (handle maxMessageSize : Nat)
    (req : CreateProducerRequest) : Silence (entry.create handle maxMessageSize req) := by
  refine ⟨.create clear handle maxMessageSize req, ?_⟩
  intro earlier seq outcome later split
  have member : SendEvent.resolved seq outcome ∈ [SendEvent.opened req] := by
    rw [show [SendEvent.opened req] = _ from split]
    simp
  cases List.mem_singleton.mp member

theorem step {op : EntryOp} (silence : Silence entry) (regular : unwrapped entry op = true)
    (clear : failsUnframed entry op = true) : Silence (entryStep single codecs entry op) := by
  have layout : Layout (entryStep single codecs entry op) := silence.layout.step regular
  cases same : op.keepsProducer with
  | false =>
    cases op with
    | create => exact .create (List.isEmpty_iff.mp regular) _ _ _
    | _ => cases same
  | true =>
    have kept (seq : Nat) (quiet : Quiet entry seq) : Quiet (entryStep single codecs entry op) seq :=
      quiet.step silence.layout regular same
    have next : Next entry (entryStep single codecs entry op) := ⟨silence, layout, kept⟩
    cases settles : op.settles with
    | true =>
      cases op with
      | sendReceipt receipt => exact .sendReceipt receipt next
      | sendError err => exact .sendError err next clear
      | openFailedTransiently => exact .openFailedTransiently _ _ next clear
      | failOpen reason => exact .failOpen reason next clear
      | closeAcked requestId => exact .closeAcked requestId next clear
      | reset => exact .reset next
      | timeoutPending now => exact .timeoutPending now next clear
      | timeoutSnapshots now => exact .timeoutSnapshots now next clear
      | failAll reason => exact .failAll reason next clear
      | _ => cases settles
    | false =>
      cases accounted : op.isAccounted with
      | true =>
        obtain ⟨settled, concludes, none⟩ :=
          entryStep_concludes entry silence.layout.indexed accounted
        rw [none settles] at concludes
        exact next.conclude concludes fun seq outcome member => by cases member
      | false =>
        cases op with
        | attach => exact .attach _ _ next
        | queueSend => exact .queueSend _ _ _ _ _ next
        | pollTransmit => exact silence.poll layout
        | create => cases same
        | failAll => cases settles
        | _ => cases accounted

end Silence

theorem resolved_of_reading {log : List SendEvent} {position : Nat} {outcome : OpOutcome}
    (reading : log[position]?.bind SendEvent.resolved? = some (seq, outcome)) :
    log[position]? = some (.resolved seq outcome) := by
  obtain ⟨event, there, resolved⟩ := Option.bind_eq_some_iff.mp reading
  cases event <;> simp_all [SendEvent.resolved?]

section Failures

variable (single codecs)

/-- A send that fails before any frame of it was handed over is never handed over, nor does a frame
of it wait in the buffer. -/
theorem failed_send_stays_silent (config : ProducerConfig) (handle : Nat) (ops : List Op)
    (fits : Guarded (step single codecs) (fun side op => side.countersFit handle op = true)
      (start config) ops) (clear : Guarded (step single codecs)
      (GuardedAt single codecs (fun entry op => failsUnframed entry op = true) handle)
      (start config) ops)
    (position seq : Nat) (outcome : OpOutcome)
    (resolved : ((run (step single codecs) (start config) ops).entries handle).log[position]? =
      some (.resolved seq outcome))
    (failed : outcome.isError = true)
    (unheard : seq ∉ handedIds
      (((run (step single codecs) (start config) ops).entries handle).log.take position)) :
    let entry := (run (step single codecs) (start config) ops).entries handle
    seq ∉ handedIds (entry.log.drop (position + 1)) ∧ seq ∉ entry.bufferedIds := by
  intro entry
  have silence : Silence entry :=
    run_guarded_invariant (start_reserved config) fits Silence
      (fun _ _ silence regular meets => silence.step regular meets)
      ⟨.empty, by simp [start]⟩ clear
  obtain ⟨inside, there⟩ := List.getElem?_eq_some_iff.mp resolved
  have split : entry.log =
      entry.log.take position ++ .resolved seq outcome :: entry.log.drop (position + 1) := by
    rw [← there, ← List.drop_eq_getElem_cons inside, List.take_append_drop]
  obtain ⟨absent, quiet⟩ := silence.silent _ seq outcome _ split failed unheard
  exact ⟨absent, quiet.buffered⟩

private def batchedOpen : CreateProducerRequest := { plainOpen with enableBatching := true }

private def timedOpen : CreateProducerRequest := { plainOpen with sendTimeout := some 5 }

/-- A batched send is lost with its connection, and the next one is handed over alone. -/
private def lostBatch : List Op :=
  opening batchedOpen none ++ [sending [], .reset, .rebuildProducer 0, .frame 1 (.connected none),
    .frame 1 (.producerSuccess 1 "p" none), sending [], .flushProducer 0 0, .pollTransmit]

theorem lost_batch_stays_silent :
    let entry := (run (step default default) (start {}) lostBatch).entries 0
    handedIds entry.log = [1] ∧
      0 ∉ handedIds (entry.log.drop 4) ∧ 0 ∉ entry.bufferedIds :=
  ⟨by decide +kernel, failed_send_stays_silent default default {} 0 lostBatch (by decide +kernel)
    (by decide +kernel) 3 0 (.sendError 0 batchResetErrorCode batchResetErrorMessage)
    (resolved_of_reading (by decide +kernel)) rfl (by decide +kernel)⟩

/-- A send that times out before the broker has attached its producer. -/
private def timedOutOpen : List Op :=
  [.createProducer none timedOpen, sending [], .handleTimeout 0 5]

/-- Its frame stays staged, and is handed over once the producer is attached. -/
theorem timed_out_send_handed_over :
    let failed := (run (step default default) (start {}) timedOutOpen).entries 0
    let attached := (run (step default default) (start {}) (timedOutOpen ++
      [.frame 6 (.connected none), .frame 6 (.producerSuccess 0 "p" none), .pollTransmit])).entries 0
    resolutions failed.log = [(0, .sendError 0 sendTimeoutCode sendTimeoutMessage)] ∧
      handedIds failed.log = [] ∧ handedIds attached.log = [0] := by
  decide +kernel

end Failures

end Magnetar.Proto.Connection
