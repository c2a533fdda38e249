import Magnetar.Proto.Connection.Registry
import Magnetar.Proto.Connection.Tickets

/-!
Contract: the consumers of a connection under its requests.

Owns: the consumer of each handle after each operation, and the unsubscribe operations after it.

Does not own: the requests themselves (`Connection.Tickets`).
-/

namespace Magnetar.Proto.Connection

open Library

/-- The reply may complete an operation of a consumer. -/
def ReplyFrame.concernsConsumers : ReplyFrame → Bool
  | .success _ => true
  | .error _ _ _ _ => true
  | _ => false

/-- The operation may change a consumer. -/
def DeskOp.concernsConsumers : DeskOp → Bool
  | .seek _ => true
  | .subscribe => true
  | .cancelConsumerSubscribe _ _ => true
  | .closeConsumer _ _ => true
  | .forceCloseConsumerForget _ => true
  | .unsubscribe _ => true
  | .reply frame => frame.concernsConsumers
  | .reset => true
  | .failAllPending _ => true
  | _ => false

variable (answered : Nat)

namespace RequestDesk

/-! ### One consumer -/

variable (desk : RequestDesk)

/-- A change of the consumer with this handle only. -/
def changedAt (named handle : Nat) (change : Option ConsumerEnd → Option ConsumerEnd) :
    Option ConsumerEnd :=
  if named = handle then change (desk.consumers.lookup handle) else desk.consumers.lookup handle

def closing (origin : CloseOrigin) (consumer : ConsumerEnd) : ConsumerEnd :=
  match desk.terminalAdmissionReason with
  | some reason => consumer.terminate origin reason
  | none =>
    match consumer.terminalOperation with
    | .opened =>
      { consumer with
        terminalOperation := .pending desk.nextRequestId origin
        closed := true }
    | _ => consumer

def unsubscribing (consumer : ConsumerEnd) : ConsumerEnd :=
  match desk.terminalAdmissionReason with
  | some reason => consumer.terminate .reliable reason
  | none =>
    match consumer.terminalOperation with
    | .opened => { consumer with terminalOperation := .unsubscribePending desk.nextRequestId }
    | _ => consumer

def forcing (consumer : ConsumerEnd) : ConsumerEnd :=
  if desk.terminalAdmissionReason.isSome then consumer
  else
    match consumer.terminalOperation with
    | .complete _ _ .success => consumer
    | .complete (some _) .reliable _ => { consumer with forcedCloseRetryIssued := true }
    | _ => consumer

def consumerAfterSuccess (answered handle : Nat) : Option ConsumerEnd :=
  match (desk.ticket answered).kind with
  | some (.consumerUnsubscribe named) =>
    desk.changedAt named handle fun consumer =>
      if desk.unsubscribeIsCurrent named answered then none else consumer
  | some (.consumerClose named) =>
    desk.changedAt named handle (Option.map fun consumer =>
      consumer.completeClose answered .success)
  | some (.consumerCloseForgotten named) =>
    desk.changedAt named handle (Option.map fun consumer =>
      consumer.completeClose answered .success)
  | some (.consumerSeek named) => desk.changedAt named handle (Option.map ConsumerEnd.seekAcked)
  | _ => desk.consumers.lookup handle

def consumerAfterError (answered : Nat) (code : Int) (message : String) (provisional : Bool)
    (handle : Nat) : Option ConsumerEnd :=
  match (desk.ticket answered).kind with
  | some (.consumerUnsubscribe named) =>
    desk.changedAt named handle fun consumer =>
      if desk.unsubscribeIsCurrent named answered then
        consumer.map fun consumer => { consumer with terminalOperation := .opened }
      else consumer
  | some (.consumerClose named) =>
    desk.changedAt named handle (Option.map fun consumer =>
      consumer.completeClose answered (.brokerError code message))
  | some (.consumerCloseForgotten named) =>
    desk.changedAt named handle (Option.map fun consumer =>
      consumer.completeClose answered (.brokerError code message))
  | some (.consumerSubscribe named) =>
    desk.changedAt named handle fun consumer => if provisional then none else consumer
  | _ => desk.consumers.lookup handle

/-- The consumer whose unsubscribe is pending goes away with the connection. -/
def dropsWithConnection (handle : Nat) (consumer : ConsumerEnd) : Bool :=
  match consumer.terminalOperation with
  | .unsubscribePending _ => desk.awaitsPending handle consumer
  | _ => false

def consumerAfter (handle : Nat) : DeskOp → Option ConsumerEnd
  | .seek named =>
    desk.changedAt named handle (Option.map fun consumer =>
      consumer.beginSeek desk.nextRequestId)
  | .subscribe => desk.changedAt desk.nextConsumerId handle fun _ => some {}
  | .cancelConsumerSubscribe named _ => desk.changedAt named handle fun _ => none
  | .closeConsumer named origin => desk.changedAt named handle (Option.map (desk.closing origin))
  | .forceCloseConsumerForget named => desk.changedAt named handle (Option.map desk.forcing)
  | .unsubscribe named => desk.changedAt named handle (Option.map desk.unsubscribing)
  | .reply (.success answered) => desk.consumerAfterSuccess answered handle
  | .reply (.error answered code message provisional) =>
    desk.consumerAfterError answered code message provisional handle
  | .reset =>
    (desk.consumers.lookup handle).map fun consumer =>
      { desk.endOperation .sessionLost handle consumer with pendingSeek := none }
  | .failAllPending reason =>
    (desk.consumers.lookup handle).bind fun consumer =>
      if desk.dropsWithConnection handle consumer then none
      else some ((desk.endOperation (.terminal reason) handle consumer).terminate .reliable reason)
  | _ => desk.consumers.lookup handle

/-! ### Operations that concern no consumer -/

/-- Everything that is kept about consumers is as it was. -/
structure SameConsumers (desk desk' : RequestDesk) : Prop where
  consumers : desk'.consumers = desk.consumers
  unsubscribes : desk'.unsubscribes = desk.unsubscribes
  terminalAdmissionReason : desk'.terminalAdmissionReason = desk.terminalAdmissionReason

theorem SameConsumers.refl : desk.SameConsumers desk :=
  ⟨rfl, rfl, rfl⟩

theorem SameConsumers.trans {desk desk' desk'' : RequestDesk} (first : desk.SameConsumers desk')
    (second : desk'.SameConsumers desk'') : desk.SameConsumers desk'' :=
  ⟨second.consumers.trans first.consumers, second.unsubscribes.trans first.unsubscribes,
    second.terminalAdmissionReason.trans first.terminalAdmissionReason⟩

theorem cancelRequest_sameConsumers (requestId : Nat) :
    desk.SameConsumers (desk.cancelRequest requestId) := by
  unfold cancelRequest
  dsimp only
  split <;> exact ⟨rfl, rfl, rfl⟩

theorem foldl_cancelRequest_sameConsumers (cancelled : List Nat) (desk : RequestDesk) :
    desk.SameConsumers (cancelled.foldl cancelRequest desk) := by
  induction cancelled generalizing desk with
  | nil => exact SameConsumers.refl desk
  | cons named _ ih =>
    exact (desk.cancelRequest_sameConsumers named).trans (ih _)

theorem endRequests_sameConsumers (outcome : RequestOutcome) :
    desk.SameConsumers (desk.endRequests outcome) := by
  have recorded (ids : List Nat) (start : RequestDesk) :
      start.SameConsumers (ids.foldl (fun desk named => desk.record named outcome) start) := by
    induction ids generalizing start with
    | nil => exact SameConsumers.refl start
    | cons named _ ih =>
      have first : start.SameConsumers (start.record named outcome) := ⟨rfl, rfl, rfl⟩
      exact first.trans (ih _)
  have mapped (update : Ticket → Ticket) : desk.SameConsumers (desk.mapTickets update) :=
    ⟨rfl, rfl, rfl⟩
  exact (mapped _).trans (recorded _ _)

theorem lookupWithBudget_sameConsumers (topic : String) (authoritative : Bool) (hopsRemaining : Nat)
    (encodes : Bool) :
    desk.SameConsumers (desk.lookupWithBudget topic authoritative hopsRemaining encodes) := by
  unfold lookupWithBudget
  dsimp only
  split
  · exact ⟨rfl, rfl, rfl⟩
  · split <;> exact ⟨rfl, rfl, rfl⟩

theorem reply_sameConsumers (frame : ReplyFrame) (aside : frame.concernsConsumers = false) :
    desk.SameConsumers (desk.handleReply frame) := by
  cases frame with
  | success | error => cases aside
  | ackResponse answered =>
    cases answered with
    | none => exact SameConsumers.refl desk
    | some =>
      simp only [handleReply, handleAckResponse]
      split <;> exact ⟨rfl, rfl, rfl⟩
  | lookupResponse | partitionedMetadataResponse | newTxnResponse | getSchemaResponse =>
    simp only [handleReply, handleLookupResponse, handlePartitionedMetadataResponse,
      handleNewTxnResponse, handleGetSchemaResponse]
    split <;> exact ⟨rfl, rfl, rfl⟩
  | _ => exact ⟨rfl, rfl, rfl⟩

theorem step_sameConsumers (op : DeskOp) (aside : op.concernsConsumers = false) :
    desk.SameConsumers (desk.step op) := by
  cases op with
  | lookupTopic | lookupRedirect => exact desk.lookupWithBudget_sameConsumers _ _ _ _
  | getPartitionedTopicMetadata =>
    simp only [step, getPartitionedTopicMetadata]
    split
    · exact ⟨rfl, rfl, rfl⟩
    · split <;> exact ⟨rfl, rfl, rfl⟩
  | cancelProducerOpen _ mayHold =>
    refine SameConsumers.trans ?_ (foldl_cancelRequest_sameConsumers _ _)
    cases mayHold <;> exact ⟨rfl, rfl, rfl⟩
  | ack | expireProducerOpen | releaseEndTxnWaiter | handleTimeout =>
    simp only [step, ack, expireProducerOpen, releaseEndTxnWaiter, handleTimeout]
    split <;> exact ⟨rfl, rfl, rfl⟩
  | endTxn | takeOutcome =>
    simp only [step, endTxn, takeOutcome]
    split
    · exact ⟨rfl, rfl, rfl⟩
    · split <;> exact ⟨rfl, rfl, rfl⟩
  | cancelRequest requestId => exact desk.cancelRequest_sameConsumers requestId
  | closeConsumerFrame _ url => cases url <;> exact ⟨rfl, rfl, rfl⟩
  | reply frame => exact desk.reply_sameConsumers frame aside
  | seek | subscribe | cancelConsumerSubscribe | closeConsumer | forceCloseConsumerForget
  | unsubscribe | reset | failAllPending => cases aside
  | _ => exact ⟨rfl, rfl, rfl⟩

/-! ### The consumer after each operation -/

section Lookups

variable (desk : RequestDesk)

/-- An operation on one consumer: what it does there, and that it does nothing elsewhere. -/
theorem eq_changedAt {desk desk' : RequestDesk} {named : Nat}
    {change : Option ConsumerEnd → Option ConsumerEnd}
    (here : desk'.consumers.lookup named = change (desk.consumers.lookup named))
    (elsewhere : ∀ handle, handle ≠ named →
      desk'.consumers.lookup handle = desk.consumers.lookup handle) (handle : Nat) :
    desk'.consumers.lookup handle = desk.changedAt named handle change := by
  unfold changedAt
  by_cases same : named = handle
  · subst same
    rw [if_pos rfl]
    exact here
  · rw [if_neg same]
    exact elsewhere handle (Ne.symm same)

theorem consumer_modifyConsumer (named handle : Nat) (update : ConsumerEnd → ConsumerEnd) :
    (desk.modifyConsumer named update).consumers.lookup handle =
      desk.changedAt named handle (Option.map update) :=
  eq_changedAt (Table.lookup_modify_self _ _ _)
    (fun _ differs => Table.lookup_modify_ne _ _ differs) handle

theorem consumer_removeConsumer (named handle : Nat) :
    (desk.removeConsumer named).consumers.lookup handle =
      desk.changedAt named handle fun _ => none :=
  eq_changedAt (AList.lookup_erase _ _) (fun _ differs => AList.lookup_erase_ne differs) handle

/-- Only the table of consumers counts. -/
theorem changedAt_congr {desk desk' : RequestDesk} (same : desk'.consumers = desk.consumers)
    (named handle : Nat) (change : Option ConsumerEnd → Option ConsumerEnd) :
    desk'.changedAt named handle change = desk.changedAt named handle change := by
  unfold changedAt
  rw [same]

theorem consumer_cancelConsumerSubscribe (named handle : Nat) (completed : Bool) :
    (desk.cancelConsumerSubscribe named completed).consumers.lookup handle =
      desk.changedAt named handle fun _ => none := by
  unfold cancelConsumerSubscribe
  rw [consumer_removeConsumer]
  apply changedAt_congr
  rw [(foldl_cancelRequest_sameConsumers _ _).consumers]
  split <;> rfl

theorem eq_changedAt_of_modify {desk desk' : RequestDesk} {named : Nat} {consumer : ConsumerEnd}
    {update change : ConsumerEnd → ConsumerEnd}
    (modified : desk'.consumers = Table.modify desk.consumers named update)
    (found : desk.consumers.lookup named = some consumer)
    (same : update consumer = change consumer) (handle : Nat) :
    desk'.consumers.lookup handle = desk.changedAt named handle (Option.map change) := by
  apply eq_changedAt
  · rw [modified, Table.lookup_modify_self, found, Option.map_some, Option.map_some, same]
  · intro other differs
    rw [modified]
    exact Table.lookup_modify_ne _ _ differs

theorem consumer_publishConsumerUnsubscribe (named answered handle : Nat)
    (completion : CloseCompletion) :
    (desk.publishConsumerUnsubscribe named answered completion false).consumers.lookup handle =
      desk.changedAt named handle fun consumer =>
        if desk.unsubscribeIsCurrent named answered then none else consumer := by
  unfold publishConsumerUnsubscribe
  by_cases current : desk.unsubscribeIsCurrent named answered = true
  · simp only [current, if_true]
    change (cancelConsumerSubscribe _ named false).consumers.lookup handle = _
    rw [consumer_cancelConsumerSubscribe]
    unfold changedAt
    by_cases same : named = handle
    · rw [if_pos same, if_pos same]
    · rw [if_neg same, if_neg same]
      exact Table.lookup_modify_ne _ _ (Ne.symm same)
  · simp only [current]
    exact eq_changedAt rfl (fun _ _ => rfl) handle

theorem consumer_closeConsumer (named handle : Nat) (origin : CloseOrigin) :
    (desk.closeConsumer named origin).1.consumers.lookup handle =
      desk.changedAt named handle (Option.map (desk.closing origin)) := by
  unfold closeConsumer closing
  cases desk.terminalAdmissionReason with
  | some => exact desk.consumer_modifyConsumer named handle _
  | none =>
    cases found : desk.consumers.lookup named with
    | none => exact eq_changedAt (by simp [found]) (fun _ _ => rfl) handle
    | some consumer =>
      dsimp only
      cases operation : consumer.terminalOperation with
      | opened => exact eq_changedAt_of_modify rfl found (by simp [operation]) handle
      | pending | unsubscribePending =>
        exact eq_changedAt (by simp [found, operation]) (fun _ _ => rfl) handle
      | complete requestId =>
        cases requestId <;>
          exact eq_changedAt (by simp [found, operation]) (fun _ _ => rfl) handle

theorem consumer_unsubscribe (named handle : Nat) :
    (desk.unsubscribe named).1.consumers.lookup handle =
      desk.changedAt named handle (Option.map desk.unsubscribing) := by
  unfold unsubscribe unsubscribing
  cases desk.terminalAdmissionReason with
  | some => exact desk.consumer_modifyConsumer named handle _
  | none =>
    cases found : desk.consumers.lookup named with
    | none => exact eq_changedAt (by simp [found]) (fun _ _ => rfl) handle
    | some consumer =>
      dsimp only
      cases operation : consumer.terminalOperation with
      | opened => exact eq_changedAt_of_modify rfl found (by simp [operation]) handle
      | pending | complete | unsubscribePending =>
        exact eq_changedAt (by simp [found, operation]) (fun _ _ => rfl) handle

theorem consumer_forceCloseConsumerForget (named handle : Nat) :
    (desk.forceCloseConsumerForget named).consumers.lookup handle =
      desk.changedAt named handle (Option.map desk.forcing) := by
  unfold forceCloseConsumerForget
  by_cases terminal : desk.terminalAdmissionReason.isSome = true
  · have kept : desk.forcing = id := by
      funext consumer
      rw [forcing, if_pos terminal]
      rfl
    rw [if_pos terminal, kept, Option.map_id_fun]
    exact eq_changedAt rfl (fun _ _ => rfl) handle
  · rw [if_neg terminal]
    cases found : desk.consumers.lookup named with
    | none => exact eq_changedAt (by simp [found]) (fun _ _ => rfl) handle
    | some consumer =>
      have still (kept : desk.forcing consumer = consumer) : desk.consumers.lookup handle =
          desk.changedAt named handle (Option.map desk.forcing) :=
        eq_changedAt (by rw [found, Option.map_some, kept]) (fun _ _ => rfl) handle
      have retried (once : desk.forcing consumer =
            { consumer with forcedCloseRetryIssued := true }) :
          ((desk.modifyConsumer named fun consumer =>
              { consumer with forcedCloseRetryIssued := true }).emitConsumerClose named
              true).consumers.lookup handle =
            desk.changedAt named handle (Option.map desk.forcing) :=
        eq_changedAt_of_modify rfl found once.symm handle
      dsimp only
      cases operation : consumer.terminalOperation with
      | complete requestId origin completion =>
        cases completion <;> cases requestId <;> cases origin <;>
          cases issued : consumer.forcedCloseRetryIssued <;>
          first
            | exact still (by cases consumer; simp_all [forcing])
            | exact retried (by simp [forcing, terminal, operation])
      | opened | pending | unsubscribePending => exact still (by simp [forcing, operation])

theorem consumer_handleSuccess (answered handle : Nat) :
    (desk.handleSuccess answered).consumers.lookup handle =
      desk.consumerAfterSuccess answered handle := by
  unfold handleSuccess consumerAfterSuccess
  cases (desk.ticket answered).kind with
  | none => rfl
  | some kind =>
    cases kind with
    | consumerUnsubscribe named =>
      exact (desk.forget answered).consumer_publishConsumerUnsubscribe named answered handle _
    | consumerClose named | consumerCloseForgotten named =>
      exact (desk.forget answered).consumer_modifyConsumer named handle _
    | consumerSeek named =>
      exact ((desk.forget answered).record answered .success).consumer_modifyConsumer named
        handle _
    | _ => rfl

theorem consumer_handleError (code : Int) (message : String) (provisional : Bool) (handle : Nat) :
    (desk.handleError answered code message provisional).consumers.lookup handle =
      desk.consumerAfterError answered code message provisional handle := by
  unfold handleError consumerAfterError
  cases (desk.ticket answered).kind with
  | none => rfl
  | some kind =>
    cases kind with
    | consumerUnsubscribe named =>
      have current : (desk.forget answered).unsubscribeIsCurrent named answered =
        desk.unsubscribeIsCurrent named answered := rfl
      simp only [publishConsumerUnsubscribe, current]
      cases desk.unsubscribeIsCurrent named answered with
      | true => exact consumer_modifyConsumer _ named handle _
      | false => exact eq_changedAt rfl (fun _ _ => rfl) handle
    | consumerClose named | consumerCloseForgotten named =>
      exact (desk.forget answered).consumer_modifyConsumer named handle _
    | consumerSubscribe named =>
      cases provisional with
      | true => exact (desk.forget answered).consumer_removeConsumer named handle
      | false => exact eq_changedAt rfl (fun _ _ => rfl) handle
    | _ => rfl

theorem consumer_failAllPending (reason : String) (handle : Nat) :
    (desk.failAllPending reason).consumers.lookup handle =
      desk.consumerAfter handle (.failAllPending reason) := by
  simp only [failAllPending, consumerAfter]
  rw [Table.lookup_retain, Table.lookup_mapWithKey]
  cases desk.consumers.lookup handle with
  | none => simp
  | some consumer =>
    change (if (!desk.dropsWithConnection handle consumer) = true then some _ else none) = _
    cases dropped : desk.dropsWithConnection handle consumer <;> simp [dropped]

theorem consumer_step (op : DeskOp) (handle : Nat) :
    (desk.step op).consumers.lookup handle = desk.consumerAfter handle op := by
  cases op with
  | seek named => exact (desk.request _).consumer_modifyConsumer named handle _
  | subscribe =>
    simp only [consumerAfter]
    apply eq_changedAt
    · exact AList.lookup_insert _
    · intro other differs
      exact AList.lookup_insert_ne differs
  | cancelConsumerSubscribe => exact desk.consumer_cancelConsumerSubscribe _ handle _
  | closeConsumer => exact desk.consumer_closeConsumer _ handle _
  | forceCloseConsumerForget named => exact desk.consumer_forceCloseConsumerForget named handle
  | unsubscribe named => exact desk.consumer_unsubscribe named handle
  | reset => exact Table.lookup_mapWithKey _ _ _
  | failAllPending reason => exact desk.consumer_failAllPending reason handle
  | reply frame =>
    cases frame with
    | success answered => exact desk.consumer_handleSuccess answered handle
    | error => exact desk.consumer_handleError _ _ _ _ handle
    | _ => rw [(desk.step_sameConsumers (.reply _) rfl).consumers, consumerAfter] <;> simp
  | _ =>
    rw [(desk.step_sameConsumers _ rfl).consumers]
    rfl

end Lookups

/-! ### The unsubscribe operations after each operation -/

/-- The operations after the answer to an unsubscribe: the first completion stays. -/
def unsubscribeAnswered (answered : Nat) (completion : CloseCompletion) (requestId : Nat) :
    Option (Option CloseCompletion) :=
  match (desk.ticket answered).kind with
  | some (.consumerUnsubscribe named) =>
    if desk.unsubscribeIsCurrent named answered ∧ requestId = answered then
      (desk.unsubscribes.lookup requestId).map fun earlier => earlier.or (some completion)
    else desk.unsubscribes.lookup requestId
  | _ => desk.unsubscribes.lookup requestId

def unsubscribeEnded (completion : CloseCompletion) (requestId : Nat) :
    Option (Option CloseCompletion) :=
  (desk.unsubscribes.lookup requestId).map fun earlier =>
    match (desk.ticket requestId).kind with
    | some (.consumerUnsubscribe handle) =>
      if desk.unsubscribeIsCurrent handle requestId then earlier.or (some completion) else earlier
    | _ => earlier

def unsubscribeAfter (requestId : Nat) :
    DeskOp → Option (Option CloseCompletion)
  | .unsubscribe named =>
    if (desk.terminalAdmissionReason.isNone && (desk.consumers.lookup named).any fun consumer =>
        consumer.terminalOperation == .opened) ∧ requestId = desk.nextRequestId then some none
    else desk.unsubscribes.lookup requestId
  | .reply (.success answered) => desk.unsubscribeAnswered answered .success requestId
  | .reply (.error answered code message _) =>
    desk.unsubscribeAnswered answered (.brokerError code message) requestId
  | .reset => desk.unsubscribeEnded .sessionLost requestId
  | .failAllPending reason => desk.unsubscribeEnded (.terminal reason) requestId
  | _ => desk.unsubscribes.lookup requestId

section Unsubscribes

variable (desk : RequestDesk)

theorem cancelConsumerSubscribe_rest (named : Nat) (completed : Bool) :
    (desk.cancelConsumerSubscribe named completed).unsubscribes = desk.unsubscribes ∧
      (desk.cancelConsumerSubscribe named completed).terminalAdmissionReason =
        desk.terminalAdmissionReason := by
  unfold cancelConsumerSubscribe
  constructor
  · exact (foldl_cancelRequest_sameConsumers _ _).unsubscribes.trans (by split <;> rfl)
  · exact (foldl_cancelRequest_sameConsumers _ _).terminalAdmissionReason.trans
      (by split <;> rfl)

theorem unsubscribe_completeUnsubscribe (answered requestId : Nat) (completion : CloseCompletion) :
    (desk.completeUnsubscribe answered completion).unsubscribes.lookup requestId =
      if requestId = answered then
        (desk.unsubscribes.lookup requestId).map fun earlier => earlier.or (some completion)
      else desk.unsubscribes.lookup requestId := by
  unfold completeUnsubscribe
  by_cases same : requestId = answered
  · subst same
    rw [if_pos rfl]
    exact Table.lookup_modify_self _ _ _
  · rw [if_neg same]
    exact Table.lookup_modify_ne _ _ same

theorem unsubscribe_publishConsumerUnsubscribe (named answered requestId : Nat)
    (completion : CloseCompletion) (reopen : Bool) :
    (desk.publishConsumerUnsubscribe named answered completion reopen).unsubscribes.lookup
        requestId =
      (if desk.unsubscribeIsCurrent named answered ∧ requestId = answered then
        (desk.unsubscribes.lookup requestId).map fun earlier => earlier.or (some completion)
      else desk.unsubscribes.lookup requestId) ∧
    (desk.publishConsumerUnsubscribe named answered completion reopen).terminalAdmissionReason =
      desk.terminalAdmissionReason := by
  unfold publishConsumerUnsubscribe
  cases current : desk.unsubscribeIsCurrent named answered with
  | false => simp
  | true =>
    have completed := desk.unsubscribe_completeUnsubscribe answered requestId completion
    simp only [true_and, if_true]
    rw [← completed]
    cases reopen with
    | true => exact ⟨rfl, rfl⟩
    | false =>
      rw [if_neg Bool.false_ne_true, (cancelConsumerSubscribe_rest _ _ _).1,
        (cancelConsumerSubscribe_rest _ _ _).2]
      exact ⟨rfl, rfl⟩

theorem unsubscribe_handleSuccess (answered requestId : Nat) :
    (desk.handleSuccess answered).unsubscribes.lookup requestId =
        desk.unsubscribeAnswered answered .success requestId ∧
      (desk.handleSuccess answered).terminalAdmissionReason = desk.terminalAdmissionReason := by
  unfold handleSuccess unsubscribeAnswered
  cases (desk.ticket answered).kind with
  | none => exact ⟨rfl, rfl⟩
  | some kind =>
    cases kind with
    | consumerUnsubscribe named =>
      exact (desk.forget answered).unsubscribe_publishConsumerUnsubscribe named answered
        requestId _ false
    | _ => exact ⟨rfl, rfl⟩

theorem unsubscribe_handleError (code : Int) (message : String)
    (provisional : Bool) (requestId : Nat) :
    (desk.handleError answered code message provisional).unsubscribes.lookup requestId =
        desk.unsubscribeAnswered answered (.brokerError code message) requestId ∧
      (desk.handleError answered code message provisional).terminalAdmissionReason =
        desk.terminalAdmissionReason := by
  unfold handleError unsubscribeAnswered
  cases (desk.ticket answered).kind with
  | none => exact ⟨rfl, rfl⟩
  | some kind =>
    cases kind with
    | consumerUnsubscribe named =>
      exact (desk.forget answered).unsubscribe_publishConsumerUnsubscribe named answered
        requestId _ true
    | consumerSubscribe => cases provisional <;> exact ⟨rfl, rfl⟩
    | _ => exact ⟨rfl, rfl⟩

theorem unsubscribe_unsubscribe (named requestId : Nat) :
    (desk.unsubscribe named).1.unsubscribes.lookup requestId =
      desk.unsubscribeAfter requestId (.unsubscribe named) := by
  unfold unsubscribe
  simp only [unsubscribeAfter]
  cases desk.terminalAdmissionReason with
  | some => simp [modifyConsumer]
  | none =>
    cases found : desk.consumers.lookup named with
    | none => simp
    | some consumer =>
      cases operation : consumer.terminalOperation with
      | opened =>
        by_cases same : requestId = desk.nextRequestId
        · subst same
          simp [operation]
          exact AList.lookup_insert _
        · simp only [operation, same, and_false, if_false]
          exact AList.lookup_insert_ne same
      | pending | complete | unsubscribePending => simp [operation]

theorem unsubscribe_step (op : DeskOp) (requestId : Nat) :
    (desk.step op).unsubscribes.lookup requestId = desk.unsubscribeAfter requestId op := by
  cases op with
  | cancelConsumerSubscribe | closeConsumer | forceCloseConsumerForget =>
    simp only [step, unsubscribeAfter, cancelConsumerSubscribe_rest, closeConsumer_rest,
      forceCloseConsumerForget_rest]
  | unsubscribe named => exact desk.unsubscribe_unsubscribe named requestId
  | reset | failAllPending => exact Table.lookup_mapWithKey _ _ _
  | seek | subscribe => rfl
  | reply frame =>
    cases frame with
    | success answered => exact (desk.unsubscribe_handleSuccess answered requestId).1
    | error => exact (desk.unsubscribe_handleError _ _ _ _ requestId).1
    | _ => rw [(desk.step_sameConsumers (.reply _) rfl).unsubscribes, unsubscribeAfter] <;> simp
  | _ =>
    rw [(desk.step_sameConsumers _ rfl).unsubscribes]
    rfl

end Unsubscribes

/-! ### The latch of the connection's end -/

section Latch

variable (desk : RequestDesk)

/-- Nothing opens the latch again. -/
theorem terminalAdmissionReason_step (op : DeskOp)
    (latched : desk.terminalAdmissionReason.isSome = true) :
    (desk.step op).terminalAdmissionReason.isSome = true := by
  obtain ⟨reason, shut⟩ := Option.isSome_iff_exists.mp latched
  cases op with
  | cancelConsumerSubscribe =>
    simp only [step]
    rw [(desk.cancelConsumerSubscribe_rest _ _).2]
    exact latched
  | closeConsumer => simp [step, closeConsumer, shut, modifyConsumer]
  | forceCloseConsumerForget => simp [step, forceCloseConsumerForget, shut]
  | unsubscribe => simp [step, RequestDesk.unsubscribe, shut, modifyConsumer]
  | reset => exact ((desk.endRequests_sameConsumers _).terminalAdmissionReason.symm ▸ latched)
  | failAllPending => rfl
  | seek | subscribe => exact latched
  | reply frame =>
    cases frame with
    | success answered =>
      simp only [step, handleReply]
      rw [(desk.unsubscribe_handleSuccess answered answered).2]
      exact latched
    | error answered =>
      simp only [step, handleReply]
      rw [(desk.unsubscribe_handleError answered _ _ _ answered).2]
      exact latched
    | _ =>
      rw [(desk.step_sameConsumers (.reply _) rfl).terminalAdmissionReason]
      exact latched
  | _ =>
    rw [(desk.step_sameConsumers _ rfl).terminalAdmissionReason]
    exact latched

end Latch

end RequestDesk

end Magnetar.Proto.Connection
