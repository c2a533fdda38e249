import Magnetar.Proto.Connection.Redelivery

/-!
Contract: what a cumulative acknowledgement settles.

Owns: the calls that send a cumulative acknowledgement, the ids that a dispatch lists, and the
redeliveries that a run asks for: after a cumulative acknowledgement that finds no other id at or
below its own under a tracker, no such id is asked for again until it is dispatched or negatively
acknowledged anew.

Does not own: acknowledgements inside a transaction.
-/

namespace Magnetar.Proto.Connection

open Library.Machine Pb External BatchAck Consumer Trackers.Ack Trackers.Nack AckSession
open Trackers.Unacked Trackers.Unacked.UnackedMessageTracker

variable {session : AckSession} {consumer : AckingConsumer} {ids : List MessageId}
  {id : MessageId} {now : Nat}

/-! ### Dispatches -/

/-- The dispatch lists the id: as a position its bit set leaves unacknowledged, or as the message
itself. -/
def Lists (d : Dispatch) (id : MessageId) : Prop :=
  match d.chunk?, d.metadata.numMessagesInBatch with
  | some _, _ => id = d.messageId
  | none, some numInBatch =>
    ∃ index : Nat,
      (BatchAckEntry.fromDeliveredAckSet numInBatch d.cmd.ackSet).isUnacked index = true ∧
        id = { d.messageId with batchIndex := index, batchSize := numInBatch }
  | none, none => id = { d.messageId with batchIndex := -1, batchSize := 0 }

variable (single : Prost SingleMessageMetadata) (codecs : Codecs) {message : IncomingMessage}

theorem messageId_of_chunkMessages {c : ConsumerState} {d : Dispatch} {total chunkId : Int}
    (member : message ∈ c.chunkMessages d total chunkId) :
    message.messageId = d.messageId := by
  unfold ConsumerState.chunkMessages at member
  split at member
  · cases member
  · split at member
    · cases member
    · rw [List.mem_singleton.mp member]
      rfl

theorem lists_of_surfaced {c : ConsumerState} {d : Dispatch}
    (member : message ∈ c.surfaced single codecs d) : Lists d message.messageId := by
  rw [ConsumerState.surfaced] at member
  by_cases shut : (c.closed || c.pendingSeek.isSome) = true
  · rw [if_pos shut] at member
    cases member
  · rw [if_neg shut] at member
    unfold Lists
    cases chunk : d.chunk? with
    | some =>
      rw [chunk] at member
      exact messageId_of_chunkMessages member
    | none =>
      rw [chunk] at member
      cases batch : d.metadata.numMessagesInBatch with
      | none =>
        rw [batch] at member
        rw [List.mem_singleton.mp member]
        rfl
      | some =>
        rw [batch] at member
        obtain ⟨⟨index, _⟩, inside, rfl⟩ := List.mem_map.mp member
        exact ⟨index, (List.mem_filter.mp inside).2, rfl⟩

/-! ### Calls -/

/-- The call dispatches the id or negatively acknowledges it. -/
def Revives (id : MessageId) : AckOp → Prop
  | .slot (.deliver d) => Lists d id
  | .negativeAck ids _ => id ∈ ids
  | .negativeAckWithDelay nacked _ _ => id = nacked
  | _ => False

/-- The call sends a cumulative acknowledgement of `upTo` outside any transaction. -/
def CumulativelyAcks (session : AckSession) (upTo : MessageId) : AckOp → Prop
  | .ack request _ =>
    request.ackType = .cumulative ∧ request.messageIds = [upTo] ∧ request.txnId = none
  | .ackGroupedCumulative id _ =>
    id = upTo ∧ ∀ tracker ∈ session.consumer.ackTracker, tracker.ackGroupTime = 0
  | .handleTimeout _ now =>
    ∃ handle, .sendCumulativeAck handle upTo ∈ AckSession.ackDue session.consumer now
  | .closeConsumer =>
    session.consumer.terminalOperation = .opened ∧
      ∃ tracker ∈ session.consumer.ackTracker, tracker.pendingCumulative = some upTo
  | _ => False

/-- Only a dispatch that lists the id puts it under the acknowledgement timeout. -/
theorem Unwatched.slotStep (unwatched : Unwatched consumer id) {op : SlotOp}
    (unlisted : ∀ d, op = .deliver d → ¬ Lists d id) :
    Unwatched { consumer with
      toConsumerState := Connection.slotStep single codecs consumer.toConsumerState op } id := by
  intro tracker member
  by_cases delivers : ∃ d, op = .deliver d
  · obtain ⟨d, rfl⟩ := delivers
    have moved := slotStep_deliver_unackedTracker single codecs consumer.toConsumerState d
    obtain ⟨earlier, held, rfl⟩ := Option.mem_map.mp (moved ▸ member)
    apply lacks_trackAll (unwatched earlier held)
    rintro message queued rfl
    exact unlisted d rfl (lists_of_surfaced single codecs (List.mem_filter.mp queued).1)
  · have same := slotStep_unackedTracker single codecs consumer.toConsumerState
      fun d equal => delivers ⟨d, equal⟩
    exact unwatched tracker (same ▸ member)

theorem isPending_addAll {tracker : NegativeAcksTracker} (others : id ∉ ids) (now : Nat) :
    (ids.foldl (fun kept id => kept.add id now) tracker).isPending id = tracker.isPending id := by
  induction ids generalizing tracker with
  | nil => rfl
  | cons _ _ ih =>
    rw [List.mem_cons, not_or] at others
    exact (ih others.2).trans (NegativeAcksTracker.isPending_add others.1)

theorem Unwatched.forgetUnacked (unwatched : Unwatched consumer id) (ids : List MessageId) :
    Unwatched (forgetUnacked consumer ids) id := by
  intro tracker member
  obtain ⟨earlier, held, rfl⟩ := Option.mem_map.mp member
  exact lacks_removeAll (unwatched earlier held) ids

variable {op : AckOp}

section

variable (settled : Settled session.consumer id)

include settled

theorem Settled.negativeAck (others : id ∉ ids) (now : Nat) :
    Settled (session.negativeAck ids now).consumer id := by
  have forgotten := Unwatched.forgetUnacked settled.unacked ids
  rw [AckSession.negativeAck]
  split
  · exact settled
  · dsimp only
    split
    · rename_i tracker held
      refine ⟨forgotten, ?_⟩
      rintro _ ⟨rfl⟩
      exact (isPending_addAll others now).trans (settled.nacked tracker held)
    · exact ⟨forgotten, settled.nacked⟩

theorem Settled.negativeAckWithDelay {nacked : MessageId} (other : id ≠ nacked) (delay now : Nat) :
    Settled (session.negativeAckWithDelay nacked delay now).consumer id := by
  have forgotten := Unwatched.forgetUnacked settled.unacked [nacked]
  rw [AckSession.negativeAckWithDelay]
  split
  · rename_i tracker held
    refine ⟨forgotten, ?_⟩
    rintro _ ⟨rfl⟩
    exact (NegativeAcksTracker.isPending_addWithDelay other).trans (settled.nacked tracker held)
  · exact ⟨forgotten, settled.nacked⟩

/-- An id that neither tracker holds stays out of them until it is revived. -/
theorem Settled.step (dead : ¬ Revives id op) :
    Settled (session.step single codecs op).consumer id := by
  cases op with
  | slot =>
    refine ⟨Unwatched.slotStep single codecs settled.unacked ?_, settled.nacked⟩
    rintro d rfl
    exact dead
  | negativeAck _ now => exact settled.negativeAck dead now
  | negativeAckWithDelay _ delay now => exact settled.negativeAckWithDelay dead delay now
  | handleTimeout stallTimeout now =>
    exact (handleTimeout_forgets session stallTimeout now).settled
      (settled.pollTrackers stallTimeout now)
  | _ => exact (step_forgets single codecs session rfl).settled settled

end

theorem LocatedTracker.forgetUnacked (located : LocatedTracker consumer) (ids : List MessageId) :
    LocatedTracker (forgetUnacked consumer ids) := by
  intro tracker member
  obtain ⟨earlier, held, rfl⟩ := Option.mem_map.mp member
  exact located_removeAll (located earlier held) ids

/-- The locator stays right in every call whose timer tick, if it has one, keeps it right. -/
theorem LocatedTracker.step (located : LocatedTracker session.consumer)
    (relocates : relocatesAt session op = true) :
    LocatedTracker (session.step single codecs op).consumer := by
  cases op with
  | slot op =>
    intro tracker member
    by_cases delivers : ∃ d, op = .deliver d
    · obtain ⟨d, rfl⟩ := delivers
      have moved := slotStep_deliver_unackedTracker single codecs session.consumer.toConsumerState d
      obtain ⟨earlier, held, rfl⟩ := Option.mem_map.mp (moved ▸ member)
      exact located_trackAll (located earlier held) _ _
    · have same := slotStep_unackedTracker single codecs session.consumer.toConsumerState
        fun d equal => delivers ⟨d, equal⟩
      exact located tracker (same ▸ member)
  | negativeAck ids now =>
    have forgotten := located.forgetUnacked ids
    show LocatedTracker (session.negativeAck ids now).consumer
    rw [AckSession.negativeAck]
    split
    · exact located
    · dsimp only
      split <;> exact forgotten
  | negativeAckWithDelay nacked delay now =>
    have forgotten := located.forgetUnacked [nacked]
    show LocatedTracker (session.negativeAckWithDelay nacked delay now).consumer
    rw [AckSession.negativeAckWithDelay]
    split <;> exact forgotten
  | handleTimeout =>
    exact (handleTimeout_forgets session _ _).located (located.pollTrackers relocates)
  | _ => exact (step_forgets single codecs session rfl).located located

/-! ### The acknowledgement itself -/

variable {upTo : MessageId}

theorem mem_forgottenIds_of_cumulative {actions : List AckAction} {handle : Nat}
    (acts : .sendCumulativeAck handle upTo ∈ actions) :
    upTo ∈ (actions.map actionRequest).flatMap forgottenIds := by
  rw [List.mem_flatMap]
  refine ⟨_, List.mem_map_of_mem acts, ?_⟩
  simp [actionRequest, forgottenIds, isRefused]

theorem mem_acknowledgedIds_of_cumulativelyAcks
    (acks : CumulativelyAcks session upTo op) : upTo ∈ acknowledgedIds session op := by
  cases op with
  | ack =>
    obtain ⟨cumulative, ids, outside⟩ := acks
    simp [acknowledgedIds, forgottenIds, isRefused, cumulative, ids, outside]
  | ackGroupedCumulative staged now =>
    obtain ⟨rfl, ungrouped⟩ := acks
    rw [acknowledgedIds, groupedIds]
    split
    · rename_i tracker held
      have immediate : tracker.addCumulative staged now =
          (tracker, [.sendCumulativeAck tracker.handle staged]) := if_pos (ungrouped tracker held)
      rw [immediate]
      exact mem_forgottenIds_of_cumulative (List.mem_singleton.mpr rfl)
    · simp [forgottenIds, isRefused]
  | handleTimeout =>
    obtain ⟨handle, acts⟩ := acks
    exact List.mem_append_right _ (mem_forgottenIds_of_cumulative acts)
  | closeConsumer =>
    obtain ⟨opened, tracker, held, staged⟩ := acks
    have acts : .sendCumulativeAck tracker.handle upTo ∈ tracker.flush.2 := by
      simp [AckGroupingTracker.flush, staged]
    rw [acknowledgedIds, flushedIds, if_pos opened, Option.mem_def.mp held]
    exact mem_forgottenIds_of_cumulative acts
  | _ => cases acks

/-- A cumulative acknowledgement takes its own id off both trackers. -/
theorem settled_of_cumulativelyAcks (located : LocatedTracker session.consumer)
    (relocates : relocatesAt session op = true) (acks : CumulativelyAcks session upTo op) :
    Settled (session.step single codecs op).consumer upTo := by
  have member := mem_acknowledgedIds_of_cumulativelyAcks acks
  cases op with
  | handleTimeout =>
    exact (handleTimeout_forgets session _ _).settles (located.pollTrackers relocates) member
  | slot | negativeAck | negativeAckWithDelay => cases acks
  | _ => exact (step_forgets single codecs session rfl).settles located member

/-! ### Redelivery requests -/

/-- The command asks for the id.  A request without ids asks for everything. -/
def AsksFor (id : MessageId) : AckCommand → Prop
  | .redeliver command => command.messageIds = [] ∨ id.toPb ∈ command.messageIds
  | .ack _ => False

def tickSends (session : AckSession) (stallTimeout : Option Nat) (now : Nat) : List AckCommand :=
  (session.handleTimeout stallTimeout now).sent.drop session.sent.length

theorem mergeSort_ne_nil (occupied : ¬ ids.isEmpty = true) : ids.mergeSort MessageId.le ≠ [] := by
  intro empty
  have length : (ids.mergeSort MessageId.le).length = ids.length := List.length_mergeSort ids
  rw [empty] at length
  exact occupied (List.isEmpty_iff.mpr (List.length_eq_zero_iff.mp length.symm))

theorem reap_nonempty {handle : Nat} {buckets : List Bucket}
    {locator : AList (fun _ : MessageId => Nat)} {group : RedeliverExpired}
    (member : group ∈ (reap handle now buckets locator).expired) : group.messageIds ≠ [] := by
  induction buckets generalizing locator with
  | nil => cases member
  | cons _ _ ih =>
    rw [reap] at member
    split at member
    · cases member
    · split at member
      · exact ih member
      · rename_i occupied
        rcases List.mem_cons.mp member with rfl | later
        · exact mergeSort_ne_nil occupied
        · exact ih later

theorem unackedDue_nonempty (member : ids ∈ unackedDue consumer now) : ids ≠ [] := by
  rw [unackedDue] at member
  split at member
  · obtain ⟨group, inside, rfl⟩ := List.mem_map.mp member
    rw [UnackedMessageTracker.poll] at inside
    split at inside
    · cases inside
    · dsimp only at inside
      split at inside
      · exact reap_nonempty inside
      · rename_i occupied
        rcases List.mem_append.mp inside with early | last
        · exact reap_nonempty early
        · rw [List.mem_singleton.mp last]
          exact mergeSort_ne_nil occupied
  · cases member

theorem nackDue_nonempty (member : ids ∈ nackDue consumer now) : ids ≠ [] := by
  rw [nackDue] at member
  split at member
  · obtain ⟨group, inside, rfl⟩ := List.mem_map.mp member
    rw [NegativeAcksTracker.poll] at inside
    split at inside
    · cases inside
    · rename_i occupied
      rw [List.mem_singleton.mp inside]
      exact mergeSort_ne_nil occupied
  · cases member

theorem Settled.not_due (settled : Settled consumer id)
    (due : ids ∈ nackDue consumer now ++ unackedDue consumer now) :
    id ∉ ids := by
  intro inside
  rcases List.mem_append.mp due with nacked | unacked
  · rw [nackDue] at nacked
    split at nacked
    · rename_i tracker held
      obtain ⟨group, member, rfl⟩ := List.mem_map.mp nacked
      have pending := NegativeAcksTracker.isPending_of_returned
        (List.mem_flatMap.mpr ⟨group, member, inside⟩)
      rw [settled.nacked tracker held] at pending
      cases pending
    · cases nacked
  · rw [unackedDue] at unacked
    split at unacked
    · rename_i tracker held
      obtain ⟨group, member, rfl⟩ := List.mem_map.mp unacked
      exact (settled.unacked tracker held).not_returned now
        (List.mem_flatMap.mpr ⟨group, member, inside⟩)
    · cases unacked

theorem ackAll_adds_acks (session : AckSession) (requests : List AckRequest) :
    ∃ added, (requests.foldl (fun session ack => session.ack ack) session).sent =
        session.sent ++ added ∧ ∀ command ∈ added, ∀ id, ¬ AsksFor id command := by
  induction requests generalizing session with
  | nil => exact ⟨[], by simp⟩
  | cons request _ ih =>
    obtain ⟨later, sent, acks⟩ := ih (session.ack request)
    rcases session.ackInner_cases request none with ⟨_, _, same⟩ | ⟨_, _, appended⟩
    · refine ⟨later, ?_, acks⟩
      rw [List.foldl_cons, sent, AckSession.ack, same]
    · let command := session.commandAck request (session.consumer.applyAck request none).2
      refine ⟨.ack command :: later, ?_, List.forall_mem_cons.mpr ⟨fun _ asks => asks, acks⟩⟩
      rw [List.foldl_cons, sent, AckSession.ack, appended, List.append_assoc]
      rfl

/-- A timer tick sends one request for each due group, then acknowledgements. -/
theorem tickSends_eq (session : AckSession) (stallTimeout : Option Nat) (now : Nat) :
    ∃ acks, tickSends session stallTimeout now =
        (nackDue session.consumer now ++ unackedDue session.consumer now).map
          (fun ids => .redeliver {
            consumerId := (pollTrackers session.consumer stallTimeout now).handle
            messageIds := ids.map MessageId.toPb }) ++ acks ∧
      ∀ command ∈ acks, ∀ id, ¬ AsksFor id command := by
  let requests := sweptAcks session.consumer now ++
    (ackDue session.consumer now).map actionRequest
  obtain ⟨acks, sent, silent⟩ := ackAll_adds_acks
    ((nackDue session.consumer now ++ unackedDue session.consumer now).foldl
      (fun session ids => session.emitRedeliverUnacked ids)
      { session with consumer := pollTrackers session.consumer stallTimeout now })
    requests
  rw [redeliverAll_sent, List.foldl_append, List.foldl_map] at sent
  refine ⟨acks, ?_, silent⟩
  have ticked : (session.handleTimeout stallTimeout now).sent = _ := sent
  rw [tickSends, ticked, List.append_assoc, List.drop_left]

theorem Settled.not_asked (settled : Settled session.consumer id) {stallTimeout : Option Nat}
    {command : AckCommand} (sent : command ∈ tickSends session stallTimeout now) :
    ¬ AsksFor id command := by
  obtain ⟨acks, sends, silent⟩ := tickSends_eq session stallTimeout now
  rw [sends] at sent
  rcases List.mem_append.mp sent with redelivers | acks
  · obtain ⟨ids, due, rfl⟩ := List.mem_map.mp redelivers
    rintro (everything | asked)
    · rcases List.mem_append.mp due with nacked | unacked
      · exact nackDue_nonempty nacked (List.map_eq_nil_iff.mp everything)
      · exact unackedDue_nonempty unacked (List.map_eq_nil_iff.mp everything)
    · obtain ⟨other, inside, same⟩ := List.mem_map.mp asked
      have equal : other = id := by
        rw [← MessageId.fromPb_toPb other, same, MessageId.fromPb_toPb]
      exact settled.not_due due (equal ▸ inside)
  · exact silent command acks id

/-! ### Runs -/

theorem LocatedTracker.run (located : LocatedTracker session.consumer) {ops : List AckOp}
    (relocates : Guarded (AckSession.step single codecs)
      (fun session op => relocatesAt session op = true) session ops) :
    LocatedTracker (run (AckSession.step single codecs) session ops).consumer :=
  run_invariant (fun session => LocatedTracker session.consumer)
    (fun _ _ located relocates => located.step single codecs relocates) located relocates

theorem Settled.run (settled : Settled session.consumer id)
    {ops : List AckOp} (dead : ∀ op ∈ ops, ¬ Revives id op) :
    Settled (run (AckSession.step single codecs) session ops).consumer id := by
  induction ops generalizing session with
  | nil => exact settled
  | cons _ _ ih =>
    obtain ⟨now, later⟩ := List.forall_mem_cons.mp dead
    exact ih (settled.step single codecs now) later

/-- A cumulative acknowledgement before which neither tracker holds another id at or below its own:
whatever follows, no timer tick asks for such an id until it is dispatched again or negatively
acknowledged. -/
theorem cumulative_ack_settles (session : AckSession) (located : LocatedTracker session.consumer)
    (earlier : List AckOp) (upTo : MessageId) (op : AckOp)
    (relocates : Guarded (AckSession.step single codecs)
      (fun session op => relocatesAt session op = true) session (earlier ++ [op]))
    (acks : CumulativelyAcks (run (AckSession.step single codecs) session earlier) upTo op)
    (below : ∀ id, id.le upTo = true → id ≠ upTo →
      Settled (run (AckSession.step single codecs) session earlier).consumer id) :
    ∀ id, id.le upTo = true → ∀ later : List AckOp, (∀ op ∈ later, ¬ Revives id op) →
      ∀ stallTimeout now,
        ∀ command ∈ tickSends
          (run (AckSession.step single codecs) session (earlier ++ op :: later)) stallTimeout now,
          ¬ AsksFor id command := by
  intro id atMost later dead stallTimeout now command sent
  obtain ⟨kept, last, _⟩ := Guarded.append.mp relocates
  have before := located.run single codecs kept
  have after : Settled
      ((run (AckSession.step single codecs) session earlier).step single codecs op).consumer id := by
    by_cases own : id = upTo
    · exact own ▸ settled_of_cumulativelyAcks single codecs before last acks
    · apply (below id atMost own).step single codecs
      intro revives
      cases op with
      | slot | negativeAck | negativeAckWithDelay => cases acks
      | _ => cases revives
  rw [run_append, run_cons] at sent
  exact (after.run single codecs dead).not_asked sent

/-- The first delivery of a plain entry. -/
def entryDispatch (entryId now : Nat) : Dispatch where
  cmd := { consumerId := 7, messageId := { ledgerId := 1, entryId } }
  now := now

private def timedSession : AckSession where
  consumer := {
    handle := 7, topic := "t", subscription := "s", receiverQueueSize := 10,
    policy := ReceiverQueue.fixed 10, unackedTracker := some (.new 7 10 none) }

/-- Entry 1 is acknowledged by itself, entry 2 cumulatively: the tick after the timeout asks for
neither. -/
theorem cumulative_ack_settles_run :
    MessageId.le ⟨1, 1, -1, -1, 0⟩ ⟨1, 2, -1, -1, 0⟩ = true ∧
      ¬ ∃ command ∈ tickSends (run (AckSession.step default default) timedSession
          [.slot (.deliver (entryDispatch 1 0)), .slot (.deliver (entryDispatch 2 1)),
            .ack { messageIds := [⟨1, 1, -1, -1, 0⟩], ackType := .individual } none,
            .ack { messageIds := [⟨1, 2, -1, -1, 0⟩], ackType := .cumulative } none]) none 20,
        AsksFor ⟨1, 1, -1, -1, 0⟩ command ∨ AsksFor ⟨1, 2, -1, -1, 0⟩ command := by
  have only : (run (AckSession.step default default) timedSession
      [.slot (.deliver (entryDispatch 1 0)), .slot (.deliver (entryDispatch 2 1)),
        .ack { messageIds := [⟨1, 1, -1, -1, 0⟩], ackType := .individual } none]
      ).consumer.unackedTracker.map
        (fun tracker => (heldIds tracker.buckets, tracker.backoffPending.keys)) =
      some ([⟨1, 2, -1, -1, 0⟩], []) := by
    decide +kernel
  have silent := cumulative_ack_settles default default timedSession (by
      rintro _ ⟨rfl⟩
      exact located_new 7 10 none)
    [.slot (.deliver (entryDispatch 1 0)), .slot (.deliver (entryDispatch 2 1)),
      .ack { messageIds := [⟨1, 1, -1, -1, 0⟩], ackType := .individual } none]
    ⟨1, 2, -1, -1, 0⟩
    (.ack { messageIds := [⟨1, 2, -1, -1, 0⟩], ackType := .cumulative } none)
    ⟨rfl, rfl, rfl, rfl, trivial⟩ ⟨rfl, rfl, rfl⟩ (by
      intro other _ differs
      refine ⟨?_, by rintro _ ⟨⟩⟩
      intro tracker member
      rw [Option.mem_def.mp member, Option.map_some, Option.some.injEq, Prod.mk.injEq] at only
      refine ⟨by simpa [only.1] using differs, ?_⟩
      rw [AList.mem_keys, only.2]
      exact List.not_mem_nil)
  refine ⟨by decide, ?_⟩
  rintro ⟨command, sent, first | second⟩
  · exact silent ⟨1, 1, -1, -1, 0⟩ (by decide) [] (by simp) none 20 command sent first
  · exact silent ⟨1, 2, -1, -1, 0⟩ (by decide) [] (by simp) none 20 command sent second

/-- Entries 1 and 2 are delivered and 2 is acknowledged cumulatively: when the timeout is over, the
tracker asks for entry 1. -/
theorem cumulative_ack_leaves_lower_id :
    MessageId.le ⟨1, 1, -1, -1, 0⟩ ⟨1, 2, -1, -1, 0⟩ = true ∧
      ∃ command ∈ tickSends (run (AckSession.step default default) timedSession
          [.slot (.deliver (entryDispatch 1 0)), .slot (.deliver (entryDispatch 2 1)),
            .ack { messageIds := [⟨1, 2, -1, -1, 0⟩], ackType := .cumulative } none]) none 20,
        AsksFor ⟨1, 1, -1, -1, 0⟩ command := by
  have sent : tickSends (run (AckSession.step default default) timedSession
      [.slot (.deliver (entryDispatch 1 0)), .slot (.deliver (entryDispatch 2 1)),
        .ack { messageIds := [⟨1, 2, -1, -1, 0⟩], ackType := .cumulative } none]) none 20 =
      [.redeliver { consumerId := 7, messageIds := [MessageId.toPb ⟨1, 1, -1, -1, 0⟩] }] := by
    decide +kernel
  rw [sent]
  exact ⟨rfl, _, List.mem_singleton.mpr rfl, .inr (List.mem_singleton.mpr rfl)⟩

end Magnetar.Proto.Connection
