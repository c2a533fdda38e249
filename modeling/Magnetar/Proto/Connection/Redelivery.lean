import Magnetar.Proto.Connection.AckEffects
import Magnetar.Proto.Consumer.Surfacing
import Magnetar.Proto.Trackers.Expiry

/-!
Contract: the ids that the two redelivery trackers of a consumer hold.

Owns: how each acknowledgement call and each other change of a consumer moves the
acknowledgement-timeout tracker and the negative-acknowledgement tracker, the ids that neither
holds, and the ids that a timer tick asks to have redelivered.

Does not own: which ids an acknowledgement should settle (`Connection.CumulativeAcks`).
-/

namespace Magnetar.Proto.Connection

open Library Pb External Consumer Trackers.Ack Trackers.Nack AckSession
  ConsumerState
open Trackers.Unacked Trackers.Unacked.UnackedMessageTracker

variable {id : MessageId} {tracker : UnackedMessageTracker}

/-! ### The two trackers -/

structure Settled (consumer : AckingConsumer) (id : MessageId) : Prop where
  unacked : ∀ tracker ∈ consumer.unackedTracker, Lacks tracker id
  nacked : ∀ tracker ∈ consumer.nackTracker, tracker.isPending id = false

variable (consumer : AckingConsumer)

def Unwatched (id : MessageId) : Prop :=
  ∀ tracker ∈ consumer.unackedTracker, Lacks tracker id

/-- The locator of the acknowledgement-timeout tracker is right. -/
def LocatedTracker : Prop :=
  ∀ tracker ∈ consumer.unackedTracker, Located tracker

/-- Both trackers were told to forget the ids, and nothing else happened to them. -/
structure Forgets (before : AckingConsumer) (ids : List MessageId) (after : AckingConsumer) :
    Prop where
  unacked : after.unackedTracker = before.unackedTracker.map fun tracker =>
    ids.foldl (fun kept id => kept.remove id) tracker
  nacked : after.nackTracker = before.nackTracker.map fun tracker =>
    ids.foldl (fun kept id => kept.remove id) tracker

theorem lacks_removeAll (lacks : Lacks tracker id) (ids : List MessageId) :
    Lacks (ids.foldl (fun kept id => kept.remove id) tracker) id := by
  induction ids generalizing tracker with
  | nil => exact lacks
  | cons removed _ ih => exact ih (lacks.remove removed)

theorem located_removeAll (located : Located tracker)
    (ids : List MessageId) : Located (ids.foldl (fun kept id => kept.remove id) tracker) := by
  induction ids generalizing tracker with
  | nil => exact located
  | cons removed _ ih => exact ih (located.remove removed).1

theorem lacks_remove (located : Located tracker)
    (id : MessageId) : Lacks (tracker.remove id) id := by
  apply Lacks.of_deadlines
  rw [(located.remove id).2, Deadlines.step_forget, if_pos rfl]

theorem lacks_removeAll_of_mem (located : Located tracker)
    {ids : List MessageId} (member : id ∈ ids) :
    Lacks (ids.foldl (fun kept id => kept.remove id) tracker) id := by
  induction ids generalizing tracker with
  | nil => cases member
  | cons removed rest ih =>
    rcases List.mem_cons.mp member with rfl | later
    · exact lacks_removeAll (lacks_remove located id) rest
    · exact ih (located.remove removed).1 later

theorem isPending_removeAll (tracker : NegativeAcksTracker) (id : MessageId)
    (ids : List MessageId) :
    (ids.foldl (fun kept id => kept.remove id) tracker).isPending id =
      (tracker.isPending id && decide (id ∉ ids)) := by
  induction ids generalizing tracker with
  | nil => simp
  | cons removed _ ih =>
    rw [List.foldl_cons, ih, NegativeAcksTracker.isPending_remove]
    by_cases same : id = removed <;> simp [same]

namespace Forgets

variable {before middle after : AckingConsumer} {ids others : List MessageId}

theorem nothing (unacked : after.unackedTracker = before.unackedTracker)
    (nacked : after.nackTracker = before.nackTracker) : Forgets before [] after where
  unacked := by
    rw [unacked]
    exact Option.map_id'.symm
  nacked := by
    rw [nacked]
    exact Option.map_id'.symm

theorem trans (first : Forgets before ids middle) (second : Forgets middle others after) :
    Forgets before (ids ++ others) after where
  unacked := by
    rw [second.unacked, first.unacked, Option.map_map]
    simp only [List.foldl_append]
    rfl
  nacked := by
    rw [second.nacked, first.nacked, Option.map_map]
    simp only [List.foldl_append]
    rfl

section

variable (forgets : Forgets before ids after)

include forgets

theorem unwatched (unwatched : Unwatched before id) : Unwatched after id := by
  intro tracker member
  rw [forgets.unacked] at member
  obtain ⟨earlier, held, rfl⟩ := Option.mem_map.mp member
  exact lacks_removeAll (unwatched earlier held) ids

theorem settled (settled : Settled before id) : Settled after id where
  unacked := forgets.unwatched settled.unacked
  nacked := by
    intro tracker member
    rw [forgets.nacked] at member
    obtain ⟨earlier, held, rfl⟩ := Option.mem_map.mp member
    rw [isPending_removeAll, settled.nacked earlier held]
    rfl

theorem located (located : LocatedTracker before) : LocatedTracker after := by
  intro tracker member
  rw [forgets.unacked] at member
  obtain ⟨earlier, held, rfl⟩ := Option.mem_map.mp member
  exact located_removeAll (located earlier held) ids

/-- A right locator finds every id that is to be forgotten. -/
theorem settles (located : LocatedTracker before) (member : id ∈ ids) : Settled after id where
  unacked := by
    intro tracker held
    rw [forgets.unacked] at held
    obtain ⟨earlier, there, rfl⟩ := Option.mem_map.mp held
    exact lacks_removeAll_of_mem (located earlier there) member
  nacked := by
    intro tracker held
    rw [forgets.nacked] at held
    obtain ⟨earlier, there, rfl⟩ := Option.mem_map.mp held
    rw [isPending_removeAll]
    simp [member]

end

end Forgets

/-! ### Acknowledgement calls -/

def forgottenIds (request : AckRequest) : List MessageId :=
  if isRefused request ∨ request.txnId.isSome then [] else request.messageIds

theorem applyAck_forgets (request : AckRequest) (messageIdData : Option (List MessageIdData)) :
    Forgets consumer (if request.txnId.isSome then [] else request.messageIds)
      (consumer.applyAck request messageIdData).1 := by
  rw [AckingConsumer.applyAck]
  cases request.txnId with
  | some => exact Forgets.nothing rfl rfl
  | none => exact ⟨rfl, rfl⟩

variable (session : AckSession)

theorem ackInner_forgets (request : AckRequest) (messageIdData : Option (List MessageIdData)) :
    Forgets session.consumer (forgottenIds request)
      (session.ackInner request messageIdData).consumer := by
  rcases session.ackInner_cases request messageIdData with ⟨refused, same, _⟩ | ⟨accepted, applied, _⟩
  · have none : forgottenIds request = [] := if_pos (.inl refused)
    rw [same, none]
    exact Forgets.nothing rfl rfl
  · have some : forgottenIds request = if request.txnId.isSome then [] else request.messageIds := by
      simp [forgottenIds, accepted]
    rw [applied, some]
    exact applyAck_forgets session.consumer request messageIdData

theorem ackAll_forgets (requests : List AckRequest) :
    Forgets session.consumer (requests.flatMap forgottenIds)
      (requests.foldl (fun session ack => session.ack ack) session).consumer := by
  induction requests generalizing session with
  | nil => exact Forgets.nothing rfl rfl
  | cons request _ ih =>
    exact (ackInner_forgets session request none).trans (ih _)

theorem dispatchAckActions_forgets (actions : List AckAction) :
    Forgets session.consumer ((actions.map actionRequest).flatMap forgottenIds)
      (session.dispatchAckActions actions).consumer := by
  have same : session.dispatchAckActions actions =
      (actions.map actionRequest).foldl (fun session ack => session.ack ack) session := by
    rw [List.foldl_map]
    rfl
  rw [same]
  exact ackAll_forgets session _

def committedIds (txnId : TxnId) : List MessageId :=
  match consumer.pendingTransactionalAcks.lookup txnId with
  | some pending => pending.acknowledgements.flatMap fun pending => pending.request.messageIds
  | none => []

theorem applyAll_forgets (acknowledgements : List PendingTransactionalAck)
    (consumer : AckingConsumer) :
    Forgets consumer (acknowledgements.flatMap fun pending => pending.request.messageIds)
      (acknowledgements.foldl (fun consumer acknowledgement =>
        (consumer.applyLocalAckState acknowledgement.request
          acknowledgement.messageIdData).1) consumer) := by
  induction acknowledgements generalizing consumer with
  | nil => exact Forgets.nothing rfl rfl
  | cons first _ ih =>
    have now : Forgets consumer first.request.messageIds
        (consumer.applyLocalAckState first.request first.messageIdData).1 := ⟨rfl, rfl⟩
    exact now.trans (ih _)

theorem settleTransactionalAcks_forgets (txnId : TxnId) (committed : Bool) :
    Forgets consumer (if committed then committedIds consumer txnId else [])
      (consumer.settleTransactionalAcks txnId committed) := by
  rw [AckingConsumer.settleTransactionalAcks, committedIds]
  cases consumer.pendingTransactionalAcks.lookup txnId with
  | none =>
    rw [ite_self]
    exact Forgets.nothing rfl rfl
  | some pending =>
    cases committed with
    | false => exact Forgets.nothing rfl rfl
    | true =>
      have later := applyAll_forgets pending.acknowledgements
        { consumer with
          pendingTransactionalAcks := consumer.pendingTransactionalAcks.erase txnId }
      exact ⟨later.unacked, later.nacked⟩

/-! ### Other changes of the consumer -/

/-- The consumer keeps its tracker and its table of outstanding positions. -/
structure SameTrackers (c c' : ConsumerState) : Prop where
  unacked : c'.unackedTracker = c.unackedTracker
  table : c'.batchAckTracker = c.batchAckTracker

theorem SameTrackers.refl (c : ConsumerState) : SameTrackers c c :=
  ⟨rfl, rfl⟩

theorem SameTrackers.trans {c c' c'' : ConsumerState} (first : SameTrackers c c')
    (second : SameTrackers c' c'') : SameTrackers c c'' :=
  ⟨second.unacked.trans first.unacked, second.table.trans first.table⟩

theorem adjustReceiverQueue_sameTrackers {c c' : ConsumerState} {now partitions : Nat}
    {flow : Option CommandFlow}
    (adjusted : c.adjustReceiverQueue now partitions = some (c', flow)) : SameTrackers c c' := by
  rcases adjustReceiverQueue_cases adjusted with
    ⟨_, rfl, _⟩ | ⟨_, _, _, ⟨_, rfl, _⟩ | ⟨_, rfl, _⟩⟩ <;> exact ⟨rfl, rfl⟩

theorem timerTick_sameTrackers (c : ConsumerState) (stallTimeout : Option Nat) (now : Nat) :
    SameTrackers c (((c.timerTick stallTimeout now).map Prod.fst).getD c) := by
  cases ticked : c.timerTick stallTimeout now with
  | none => exact SameTrackers.refl c
  | some result =>
    obtain ⟨next, flow⟩ := result
    obtain ⟨swept, tuned, watch, ⟨_, _, _, _, dropped⟩, rfl, ⟨_, adjusted⟩ | ⟨clock, rfl⟩⟩ :=
      timerTick_cases ticked
    · have sweeps : SameTrackers c swept := by
        rw [dropped]
        exact ⟨rfl, rfl⟩
      have kept := sweeps.trans (adjustReceiverQueue_sameTrackers adjusted)
      exact ⟨kept.unacked, kept.table⟩
    · rw [dropped]
      exact ⟨rfl, rfl⟩

theorem maybeFlow_sameTrackers (c : ConsumerState) : SameTrackers c c.maybeFlow.1 := by
  rcases c.maybeFlow_cases with ⟨same, _⟩ | ⟨_, _, same⟩ <;> rw [same] <;> exact ⟨rfl, rfl⟩

theorem popMessage_sameTrackers (c : ConsumerState) : SameTrackers c c.popMessage.1 := by
  rw [popMessage]
  split <;> exact ⟨rfl, rfl⟩

section Slot

variable (single : Prost SingleMessageMetadata) (codecs : Codecs)

/-- A delivery puts the messages it queues under the acknowledgement timeout. -/
theorem slotStep_deliver_unackedTracker (c : ConsumerState) (d : Dispatch) :
    (slotStep single codecs c (.deliver d)).unackedTracker =
      c.unackedTracker.map
        (trackAll d.now (c.queued (c.surfaced single codecs d))) :=
  (maybeFlow_sameTrackers _).unacked.trans (c.deliver_surfaces single codecs d).tracker

theorem slotStep_sameTrackers (c : ConsumerState) {op : SlotOp}
    (undelivering : ∀ d, op ≠ .deliver d) (connected : op ≠ .resetSession) :
    SameTrackers c (slotStep single codecs c op) := by
  cases op with
  | subscribeSent requestId action =>
    show SameTrackers c (c.subscribeSent requestId action)
    rw [subscribeSent]
    split
    · exact ⟨rfl, rfl⟩
    · split <;> exact ⟨rfl, rfl⟩
  | grantInitialFlow now =>
    show SameTrackers c (c.grantInitialFlow now).1
    rcases grantInitialFlow_cases c now with ⟨_, same⟩ | ⟨_, _, _, same⟩ <;> rw [same] <;>
      exact ⟨rfl, rfl⟩
  | deliver d => exact absurd rfl (undelivering d)
  | resetSession => exact absurd rfl connected
  | popMessage => exact (popMessage_sameTrackers c).trans (maybeFlow_sameTrackers _)
  | timerTick => exact timerTick_sameTrackers c _ _
  | _ => exact ⟨rfl, rfl⟩

theorem slotStep_unackedTracker (c : ConsumerState) {op : SlotOp}
    (undelivering : ∀ d, op ≠ .deliver d) :
    (slotStep single codecs c op).unackedTracker = c.unackedTracker := by
  by_cases lost : op = .resetSession
  · rw [lost]
    rfl
  · exact (slotStep_sameTrackers single codecs c undelivering lost).unacked

end Slot

/-! ### Deliveries -/

theorem lacks_trackAll (lacks : Lacks tracker id) (now : Nat) {messages : List IncomingMessage}
    (others : ∀ message ∈ messages, message.messageId ≠ id) :
    Lacks (trackAll now messages tracker) id := by
  induction messages generalizing tracker with
  | nil => exact lacks
  | cons message _ ih =>
    apply ih
    · exact lacks.addWithRedeliveryCount (others message List.mem_cons_self).symm _ now
    · exact fun other member => others other (List.mem_cons_of_mem _ member)

theorem located_trackAll (located : Located tracker) (now : Nat) (messages : List IncomingMessage) :
    Located (trackAll now messages tracker) := by
  induction messages generalizing tracker with
  | nil => exact located
  | cons message _ ih =>
    have relocates : tracker.relocates
        (.addWithRedeliveryCount message.messageId message.redeliveryCount now) = true := rfl
    exact ih (step_simulates located relocates).1

/-! ### Sessions -/

abbrev actionIds (actions : List AckAction) : List MessageId :=
  (actions.map AckSession.actionRequest).flatMap forgottenIds

def groupedIds
    (stage : AckGroupingTracker → AckGroupingTracker × List AckAction) (immediate : AckRequest) :
    List MessageId :=
  match session.consumer.ackTracker with
  | some tracker => actionIds (stage tracker).2
  | none => forgottenIds immediate

theorem ackGrouped_forgets
    (stage : AckGroupingTracker → AckGroupingTracker × List AckAction) (immediate : AckRequest) :
    Forgets session.consumer (groupedIds session stage immediate)
      (session.ackGrouped stage immediate).consumer := by
  rw [ackGrouped, groupedIds]
  cases staged : session.consumer.ackTracker with
  | none => exact ackInner_forgets session immediate none
  | some tracker =>
    have dispatched := dispatchAckActions_forgets
      (session.withAckTracker (stage tracker).1) (stage tracker).2
    exact ⟨dispatched.unacked, dispatched.nacked⟩

def flushedIds : List MessageId :=
  if session.consumer.terminalOperation = .opened then
    match session.consumer.ackTracker with
    | some tracker => actionIds tracker.flush.2
    | none => []
  else []

theorem closeConsumer_forgets :
    Forgets session.consumer (flushedIds session) session.closeConsumer.consumer := by
  rw [closeConsumer, flushedIds]
  by_cases opened : session.consumer.terminalOperation = .opened
  · rw [if_pos opened, if_pos opened]
    cases staged : session.consumer.ackTracker with
    | none => exact Forgets.nothing rfl rfl
    | some tracker =>
      obtain ⟨unacked, nacked⟩ :=
        dispatchAckActions_forgets (withAckTracker _ tracker.flush.1) tracker.flush.2
      exact ⟨unacked, nacked⟩
  · rw [if_neg opened, if_neg opened]
    exact Forgets.nothing rfl rfl

variable (stallTimeout : Option Nat)

/-- What a timer tick has made the trackers forget before it dispatches the due group. -/
theorem beforeDispatch_forgets (now : Nat) :
    Forgets (pollTrackers session.consumer stallTimeout now)
      ((sweptAcks session.consumer now).flatMap forgottenIds)
      (session.beforeDispatch stallTimeout now).consumer := by
  have acked := ackAll_forgets
    ((nackDue session.consumer now ++ unackedDue session.consumer now).foldl
      (fun session ids => session.emitRedeliverUnacked ids)
      { session with consumer := pollTrackers session.consumer stallTimeout now })
    (sweptAcks session.consumer now)
  rwa [redeliverAll_consumer] at acked

theorem handleTimeout_forgets (now : Nat) :
    Forgets (pollTrackers session.consumer stallTimeout now)
      ((sweptAcks session.consumer now).flatMap forgottenIds ++
        actionIds (ackDue session.consumer now))
      (session.handleTimeout stallTimeout now).consumer :=
  (beforeDispatch_forgets session stallTimeout now).trans
    (dispatchAckActions_forgets _ (ackDue session.consumer now))

theorem pollTrackers_unackedTracker (now : Nat) :
    (pollTrackers consumer stallTimeout now).unackedTracker =
      consumer.unackedTracker.map fun tracker => (tracker.poll now).1 :=
  (timerTick_sameTrackers _ stallTimeout now).unacked

theorem Unwatched.pollTrackers {consumer : AckingConsumer}
    (unwatched : Unwatched consumer id) (stallTimeout : Option Nat) (now : Nat) :
    Unwatched (pollTrackers consumer stallTimeout now) id := by
  intro tracker member
  rw [pollTrackers_unackedTracker] at member
  obtain ⟨earlier, held, rfl⟩ := Option.mem_map.mp member
  exact (unwatched earlier held).poll now

theorem Settled.pollTrackers {consumer : AckingConsumer}
    (settled : Settled consumer id) (stallTimeout : Option Nat) (now : Nat) :
    Settled (pollTrackers consumer stallTimeout now) id where
  unacked := Unwatched.pollTrackers settled.unacked stallTimeout now
  nacked := by
    intro tracker member
    obtain ⟨earlier, held, rfl⟩ := Option.mem_map.mp member
    exact NegativeAcksTracker.isPending_poll (settled.nacked earlier held)

/-- The condition on a timer tick under which the locator stays right. -/
def relocatesAt : AckOp → Bool
  | .handleTimeout _ now =>
    session.consumer.unackedTracker.all fun tracker => tracker.pollRelocates now
  | _ => true

theorem LocatedTracker.pollTrackers {session : AckSession}
    (located : LocatedTracker session.consumer) {stallTimeout : Option Nat} {now : Nat}
    (relocates : relocatesAt session (.handleTimeout stallTimeout now) = true) :
    LocatedTracker (pollTrackers session.consumer stallTimeout now) := by
  intro tracker member
  rw [pollTrackers_unackedTracker] at member
  obtain ⟨earlier, held, rfl⟩ := Option.mem_map.mp member
  rw [relocatesAt, Option.mem_def.mp held] at relocates
  have polls : earlier.relocates (.poll now) = true := relocates
  exact (step_simulates (located earlier held) polls).1

/-! ### Calls that acknowledge -/

/-- The ids that a call acknowledges: those of an accepted request outside any transaction, of a
group that it dispatches, of the chunks that a timer tick gives up, and of a committed transaction. -/
def acknowledgedIds : AckOp → List MessageId
  | .ack request _ => forgottenIds request
  | .ackGroupedIndividual id now =>
    groupedIds session (fun tracker => tracker.addIndividual id now)
      { messageIds := [id], ackType := .individual }
  | .ackGroupedCumulative id now =>
    groupedIds session (fun tracker => tracker.addCumulative id now)
      { messageIds := [id], ackType := .cumulative }
  | .handleTimeout _ now =>
    (AckSession.sweptAcks session.consumer now).flatMap forgottenIds ++
      actionIds (AckSession.ackDue session.consumer now)
  | .closeConsumer => flushedIds session
  | .settleTransactionalAcks txnId committed =>
    if committed then committedIds session.consumer txnId else []
  | _ => []

/-- The calls that do nothing to the two trackers but acknowledge. -/
def AckOp.isAcking : AckOp → Bool
  | .ack _ _ | .ackGroupedIndividual _ _ | .ackGroupedCumulative _ _ | .redeliverUnackedAll
  | .closeConsumer | .settleTransactionalAcks _ _ => true
  | _ => false

theorem step_forgets (single : Prost SingleMessageMetadata) (codecs : Codecs) (session : AckSession)
    {op : AckOp} (acks : op.isAcking = true) :
    Forgets session.consumer (acknowledgedIds session op)
      (session.step single codecs op).consumer := by
  cases op with
  | ack => exact ackInner_forgets session _ _
  | ackGroupedIndividual | ackGroupedCumulative => exact ackGrouped_forgets session _ _
  | redeliverUnackedAll => exact Forgets.nothing rfl rfl
  | closeConsumer => exact closeConsumer_forgets session
  | settleTransactionalAcks => exact settleTransactionalAcks_forgets session.consumer _ _
  | slot | negativeAck | negativeAckWithDelay | handleTimeout => cases acks

end Magnetar.Proto.Connection
