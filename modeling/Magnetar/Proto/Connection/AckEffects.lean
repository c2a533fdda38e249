import Magnetar.Proto.Connection.Acks

/-!
Contract: what each acknowledgement call sends and what it leaves alone.

Owns: the ids that go out with a request, the growth of the list of sent commands, and the trackers
that a call does not touch.

Does not own: any property of a run.
-/

namespace Magnetar.Proto.Pb.MessageId

theorem fromPb_toPb (id : MessageId) : fromPb id.toPb = id :=
  rfl

end Magnetar.Proto.Pb.MessageId

namespace Magnetar.Proto.Consumer

open Pb

/-! ### The ids of a request -/

/-- The walk over the ids changes nothing but the bit set of an id. -/
theorem ackMessageId_fromPb (ackType : AckType) (tracker : BatchAckTable) (id : MessageId)
    (data : MessageIdData) :
    MessageId.fromPb (ackMessageId ackType tracker id data).2 = MessageId.fromPb data := by
  rw [ackMessageId]
  split
  · rfl
  · dsimp only
    split
    · rfl
    · split <;> rfl

theorem ackMessageIds_fromPb (ackType : AckType) (tracker : BatchAckTable)
    (ids : List (MessageId × MessageIdData)) :
    (ackMessageIds ackType tracker ids).2.map MessageId.fromPb =
      ids.map fun pair => MessageId.fromPb pair.2 := by
  induction ids generalizing tracker with
  | nil => rfl
  | cons pair rest ih =>
    show MessageId.fromPb (ackMessageId ackType tracker pair.1 pair.2).2 ::
      (ackMessageIds ackType _ rest).2.map MessageId.fromPb = _
    rw [ih, ackMessageId_fromPb, List.map_cons]

theorem applyBatchAckState_fromPb (tracker : BatchAckTable) (ack : AckRequest) :
    (applyBatchAckState tracker ack none).2.map MessageId.fromPb = ack.messageIds := by
  have plain : plainAckMessageIds ack none = ack.messageIds.map MessageId.toPb := by
    apply List.ext_getElem?
    simp [plainAckMessageIds]
  have walked : (applyBatchAckState tracker ack none).2 =
      (ackMessageIds ack.ackType tracker
        (ack.messageIds.zip (plainAckMessageIds ack none))).2 := by
    rw [applyBatchAckState]
    cases ack.ackType <;> rfl
  have seconds : (ack.messageIds.zip (ack.messageIds.map MessageId.toPb)).map Prod.snd =
      ack.messageIds.map MessageId.toPb := List.map_snd_zip (by simp)
  calc (applyBatchAckState tracker ack none).2.map MessageId.fromPb
      = ((ack.messageIds.zip (ack.messageIds.map MessageId.toPb)).map Prod.snd).map
          MessageId.fromPb := by rw [walked, ackMessageIds_fromPb, plain, List.map_map]; rfl
    _ = ack.messageIds.map fun id => MessageId.fromPb id.toPb := by rw [seconds, List.map_map]; rfl
    _ = ack.messageIds := by simp [MessageId.fromPb_toPb]

variable (consumer : AckingConsumer)

namespace AckingConsumer

theorem applyAck_fromPb (ack : AckRequest) :
    (consumer.applyAck ack none).2.map MessageId.fromPb = ack.messageIds := by
  rw [applyAck]
  split
  · exact applyBatchAckState_fromPb _ ack
  · exact applyBatchAckState_fromPb _ ack

/-! ### What is left alone -/

theorem applyAck_ackTracker (ack : AckRequest) (messageIdData : Option (List MessageIdData)) :
    (consumer.applyAck ack messageIdData).1.ackTracker = consumer.ackTracker := by
  rw [applyAck]
  split <;> rfl

theorem settleTransactionalAcks_ackTracker (txnId : TxnId) (committed : Bool) :
    (consumer.settleTransactionalAcks txnId committed).ackTracker = consumer.ackTracker := by
  have folded (acknowledgements : List PendingTransactionalAck) (start : AckingConsumer) :
      (acknowledgements.foldl (fun consumer acknowledgement =>
        (consumer.applyLocalAckState acknowledgement.request
          acknowledgement.messageIdData).1) start).ackTracker = start.ackTracker := by
    induction acknowledgements generalizing start with
    | nil => rfl
    | cons _ _ ih => exact ih _
  rw [settleTransactionalAcks]
  split
  · rfl
  · split
    · exact folded _ _
    · rfl

end AckingConsumer

end Magnetar.Proto.Consumer

namespace Magnetar.Proto.Connection

open Pb Consumer Trackers.Ack

variable (session : AckSession)

variable (stallTimeout : Option Nat)

variable (request : AckRequest)

variable (messageIdData : Option (List MessageIdData))

variable (ids : List MessageId)

variable (now : Nat)

namespace AckSession

/-- A refused request changes no tracker and sends nothing; any other is applied and sent. -/
theorem ackInner_cases :
    (isRefused request = true ∧
      (session.ackInner request messageIdData).consumer = session.consumer ∧
      (session.ackInner request messageIdData).sent = session.sent) ∨
    (isRefused request = false ∧
      (session.ackInner request messageIdData).consumer =
        (session.consumer.applyAck request messageIdData).1 ∧
      (session.ackInner request messageIdData).sent = session.sent ++
        [.ack (session.commandAck request (session.consumer.applyAck request messageIdData).2)]) := by
  cases refused : isRefused request with
  | true => exact .inl ⟨rfl, by simp [ackInner, refused], by simp [ackInner, refused]⟩
  | false =>
    exact .inr ⟨rfl, by simp [ackInner, refused, send], by simp [ackInner, refused, send]⟩

theorem ackInner_ackTracker :
    (session.ackInner request messageIdData).consumer.ackTracker = session.consumer.ackTracker := by
  rcases session.ackInner_cases request messageIdData with ⟨_, same, _⟩ | ⟨_, applied, _⟩
  · rw [same]
  · rw [applied, AckingConsumer.applyAck_ackTracker]

theorem ackInner_sent : session.sent <+: (session.ackInner request messageIdData).sent := by
  rcases session.ackInner_cases request messageIdData with ⟨_, _, same⟩ | ⟨_, _, longer⟩
  · exact same ▸ List.prefix_rfl
  · rw [longer]
    exact List.prefix_append _ _

theorem dispatchAckActions_ackTracker (actions : List AckAction) :
    (session.dispatchAckActions actions).consumer.ackTracker = session.consumer.ackTracker := by
  induction actions generalizing session with
  | nil => rfl
  | cons _ _ ih =>
    exact (ih _).trans (session.ackInner_ackTracker _ none)

theorem dispatchAckActions_sent (actions : List AckAction) :
    session.sent <+: (session.dispatchAckActions actions).sent := by
  induction actions generalizing session with
  | nil => exact List.prefix_rfl
  | cons _ _ ih =>
    exact (session.ackInner_sent _ none).trans (ih _)

theorem ackGrouped_ackGroupTime
    {stage : AckGroupingTracker → AckGroupingTracker × List AckAction} {immediate : AckRequest}
    (kept : ∀ tracker, (stage tracker).1.ackGroupTime = tracker.ackGroupTime) :
    (session.ackGrouped stage immediate).consumer.ackTracker.map AckGroupingTracker.ackGroupTime =
      session.consumer.ackTracker.map AckGroupingTracker.ackGroupTime := by
  rw [ackGrouped]
  split
  · rename_i tracker staged
    rw [dispatchAckActions_ackTracker, staged]
    exact congrArg some (kept tracker)
  · exact congrArg _ (session.ackInner_ackTracker immediate none)

theorem emitRedeliverUnacked_sent : session.sent <+: (session.emitRedeliverUnacked ids).sent :=
  List.prefix_append _ _

theorem negativeAck_ackTracker :
    (session.negativeAck ids now).consumer.ackTracker = session.consumer.ackTracker := by
  rw [negativeAck]
  split
  · rfl
  · dsimp only
    split <;> rfl

theorem negativeAck_sent : session.sent <+: (session.negativeAck ids now).sent := by
  rw [negativeAck]
  split
  · exact session.emitRedeliverUnacked_sent []
  · dsimp only
    split
    · exact List.prefix_rfl
    · exact List.prefix_append _ _

theorem negativeAckWithDelay_ackTracker (id : MessageId) (delay now : Nat) :
    (session.negativeAckWithDelay id delay now).consumer.ackTracker =
      session.consumer.ackTracker := by
  rw [negativeAckWithDelay]
  split <;> rfl

theorem negativeAckWithDelay_sent (id : MessageId) (delay now : Nat) :
    session.sent <+: (session.negativeAckWithDelay id delay now).sent := by
  rw [negativeAckWithDelay]
  split
  · exact List.prefix_rfl
  · exact List.prefix_append _ _

/-! ### The timer and the close -/

/-- What a timer tick has done before it dispatches the due group. -/
def beforeDispatch (now : Nat) : AckSession :=
  (sweptAcks session.consumer now).foldl (fun session ack => session.ack ack)
    ((nackDue session.consumer now ++ unackedDue session.consumer now).foldl
      (fun session ids => session.emitRedeliverUnacked ids)
      { session with consumer := pollTrackers session.consumer stallTimeout now })

theorem handleTimeout_eq :
    session.handleTimeout stallTimeout now =
      (session.beforeDispatch stallTimeout now).dispatchAckActions (ackDue session.consumer now) :=
  rfl

theorem redeliverAll_consumer (groups : List (List MessageId)) :
    (groups.foldl (fun session ids => session.emitRedeliverUnacked ids) session).consumer =
      session.consumer := by
  induction groups generalizing session with
  | nil => rfl
  | cons _ _ ih => exact ih _

theorem redeliverAll_sent (groups : List (List MessageId)) :
    (groups.foldl (fun session ids => session.emitRedeliverUnacked ids) session).sent =
      session.sent ++ groups.map fun ids => .redeliver {
        consumerId := session.consumer.handle, messageIds := ids.map MessageId.toPb } := by
  induction groups generalizing session with
  | nil => simp
  | cons _ _ ih =>
    rw [List.foldl_cons, ih]
    simp [emitRedeliverUnacked, send]

theorem ackAll_ackTracker (requests : List AckRequest) :
    (requests.foldl (fun session ack => session.ack ack) session).consumer.ackTracker =
      session.consumer.ackTracker := by
  induction requests generalizing session with
  | nil => rfl
  | cons request _ ih =>
    exact (ih _).trans (session.ackInner_ackTracker request none)

theorem ackAll_sent (requests : List AckRequest) :
    session.sent <+: (requests.foldl (fun session ack => session.ack ack) session).sent := by
  induction requests generalizing session with
  | nil => exact List.prefix_rfl
  | cons request _ ih =>
    exact (session.ackInner_sent request none).trans (ih _)

theorem beforeDispatch_ackTracker :
    (session.beforeDispatch stallTimeout now).consumer.ackTracker =
      session.consumer.ackTracker.map fun tracker => (tracker.poll now).1 := by
  rw [beforeDispatch, ackAll_ackTracker, redeliverAll_consumer]
  rfl

theorem beforeDispatch_sent : session.sent <+: (session.beforeDispatch stallTimeout now).sent := by
  refine List.IsPrefix.trans ?_ (ackAll_sent _ _)
  rw [redeliverAll_sent]
  exact List.prefix_append _ _

end AckSession

end Magnetar.Proto.Connection
