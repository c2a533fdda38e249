import Magnetar.Proto.Connection.Requests

/-!
Contract: the requests of a connection as a family of tickets.

Owns: the primitive changes of one request id, and the simulation (one operation of the connection acts
on each id as a short run of changes).

Does not own: the registry of lookups (`Connection.Registry`), or any particular property.
-/

namespace Magnetar.Proto.Connection

open Library Consumer Lookup Txn Ticket
open Trackers.Unacked (deadlineWithClamp)

/-- A primitive change of what is kept for one request id. -/
inductive TicketChange where
  /-- The id is handed out and the request is pending. -/
  | issue (kind : RequestKind)
  /-- The id is handed out and nothing is pending. -/
  | grant
  /-- The id is handed out and the request is answered on the spot. -/
  | answer (outcome : RequestOutcome)
  /-- The id is handed out and the request is refused without waking anybody. -/
  | refuse (outcome : RequestOutcome)
  | settle (outcome : RequestOutcome)
  | record (outcome : RequestOutcome)
  | forget
  | cancel
  | take
  | park
  | unpark
  | expireAck (message : String)
  | endSession (outcome : RequestOutcome)

/-- Which request is pending after the change. -/
def TicketChange.kindAfter (pending : Option RequestKind) : TicketChange → Option RequestKind
  | .issue kind => some kind
  | .grant => pending
  | .refuse _ => pending
  | .record _ => pending
  | .take => pending
  | .park => pending
  | .unpark => pending
  | _ => none

namespace Ticket

variable (ticket : Ticket)

def hand : Ticket :=
  { ticket with issued := ticket.issued + 1 }

def apply : TicketChange → Ticket
  | .issue kind => ticket.hand.pend kind
  | .grant => ticket.hand
  | .answer outcome => ticket.hand.forget.record outcome
  | .refuse outcome => ticket.hand.store outcome
  | .settle outcome => ticket.forget.record outcome
  | .record outcome => ticket.record outcome
  | .forget => ticket.forget
  | .cancel => ticket.cancel
  | .take => ticket.take
  | .park => ticket.park
  | .unpark => ticket.unpark
  | .expireAck message => ticket.expireAck message
  | .endSession outcome => (ticket.endPending outcome).endParked outcome

theorem kind_endSession (outcome : RequestOutcome) :
    ((ticket.endPending outcome).endParked outcome).kind = none := by
  have parked (ticket : Ticket) : (ticket.endParked outcome).kind = ticket.kind := by
    unfold endParked
    split <;> rfl
  rw [parked, endPending]
  cases pending : ticket.kind with
  | none => exact pending
  | some =>
    dsimp only
    split
    · rfl
    · split <;> rfl

theorem kind_apply (change : TicketChange) :
    (ticket.apply change).kind = change.kindAfter ticket.kind := by
  cases change with
  | park =>
    change ticket.park.kind = ticket.kind
    unfold park
    split <;> rfl
  | expireAck message =>
    change (ticket.expireAck message).kind = none
    unfold expireAck
    split <;> rfl
  | endSession outcome => exact ticket.kind_endSession outcome
  | _ => rfl

theorem take_of_empty {ticket : Ticket} (empty : ticket.outcome = none) : ticket.take = ticket := by
  cases ticket
  simp_all [take]

theorem cancel_cancel : ticket.cancel.cancel = ticket.cancel := by
  simp [cancel]

end Ticket

variable (desk : RequestDesk)

variable (handle : Nat)

variable (named : Nat)

variable (outcome : RequestOutcome) {desk' : RequestDesk} {change : TicketChange}
  {update : Ticket → Ticket}

namespace RequestDesk

/-! ### Reading a ticket after a change -/

theorem ticket_congr {desk : RequestDesk} (same : desk'.tickets = desk.tickets)
    (requestId : Nat) : desk'.ticket requestId = desk.ticket requestId := by
  unfold ticket
  rw [same]

theorem ticket_modifyTicket (named requestId : Nat) (update : Ticket → Ticket) :
    (desk.modifyTicket named update).ticket requestId =
      if named = requestId then update (desk.ticket requestId) else desk.ticket requestId := by
  unfold ticket modifyTicket
  by_cases same : named = requestId
  · subst same
    simp [ticket]
  · simp [AList.lookup_insert_ne (Ne.symm same), same]

variable (answered : Nat) (kind : RequestKind) (requestId : Nat)

theorem ticket_mapTickets (blank : update {} = {}) :
    (desk.mapTickets update).ticket requestId = update (desk.ticket requestId) := by
  unfold ticket mapTickets
  rw [Table.lookup_mapValues]
  cases desk.tickets.lookup requestId with
  | none => exact blank.symm
  | some => rfl

theorem mem_pendingOf :
    requestId ∈ desk.pendingOf kind ↔ (desk.ticket requestId).kind = some kind := by
  unfold pendingOf ticket
  constructor
  · intro member
    obtain ⟨⟨key, found⟩, entry, same⟩ := List.mem_map.mp member
    obtain ⟨inTable, pending⟩ := List.mem_filter.mp entry
    subst same
    rw [AList.mem_lookup_iff.mpr inTable]
    simpa using pending
  · intro pending
    cases found : desk.tickets.lookup requestId with
    | none => simp [found] at pending
    | some ticket =>
      rw [found] at pending
      refine List.mem_map.mpr ⟨⟨requestId, ticket⟩, List.mem_filter.mpr ⟨?_, ?_⟩, rfl⟩
      · exact AList.mem_lookup_iff.mp found
      · simpa using pending

theorem ticket_cancelRequest (named requestId : Nat) :
    (desk.cancelRequest named).ticket requestId =
      if named = requestId then (desk.ticket requestId).cancel else desk.ticket requestId := by
  rw [← ticket_modifyTicket]
  apply ticket_congr
  unfold cancelRequest
  dsimp only
  split <;> rfl

theorem ticket_foldl_cancelRequest (cancelled : List Nat) (desk : RequestDesk) (requestId : Nat) :
    (cancelled.foldl cancelRequest desk).ticket requestId =
      if requestId ∈ cancelled then (desk.ticket requestId).cancel else desk.ticket requestId := by
  induction cancelled generalizing desk with
  | nil => simp
  | cons named _ ih =>
    rw [List.foldl_cons, ih, ticket_cancelRequest]
    by_cases same : named = requestId
    · subst same
      simp [cancel_cancel]
    · simp [same, Ne.symm same]

theorem ticket_foldl_record (recorded : List Nat) (outcome : RequestOutcome) (desk : RequestDesk)
    (requestId : Nat) :
    (recorded.foldl (fun desk named => desk.record named outcome) desk).ticket requestId =
      (List.replicate (recorded.count requestId) (TicketChange.record outcome)).foldl apply
        (desk.ticket requestId) := by
  induction recorded generalizing desk with
  | nil => rfl
  | cons named _ ih =>
    rw [List.foldl_cons, ih, record, ticket_modifyTicket]
    by_cases same : named = requestId
    · subst same
      simp [List.replicate_succ, apply]
    · simp [same]

/-! ### The changes behind an operation -/

/-- Nothing, unless the operation names this id. -/
def changesAt (named requestId : Nat) (changes : List TicketChange) : List TicketChange :=
  if named = requestId then changes else []

/-- The id of the next request is handed out. -/
def issues : List TicketChange :=
  changesAt desk.nextRequestId requestId [.issue kind]

def lookupChanges (encodes : Bool) : List TicketChange :=
  if desk.lookup.hasCapacity then
    if encodes then [.issue .lookup] else [.grant]
  else [.answer (.lookupResponse (.failed 0 lookupRejectedMessage))]

def metadataChanges (topic : String) : List TicketChange :=
  if isPartitionTopic topic then [.answer (.partitionedMetadata 0 none)]
  else if desk.lookup.hasCapacity then [.issue .partitionedMetadata]
  else [.answer (.partitionedMetadata 0 (some (0, metadataRejectedMessage)))]

def cancels : List TicketChange :=
  if (desk.ticket requestId).kind = some kind then [.cancel] else []

def cancelSubscribeChanges (completed : Bool) (requestId : Nat) : List TicketChange :=
  (if (desk.consumers.lookup handle).any fun consumer =>
      !consumer.closed && (!(desk.pendingOf (.consumerSubscribe handle)).isEmpty || completed) then
    desk.issues (.consumerCloseForgotten handle) requestId
  else []) ++ desk.cancels (.consumerSubscribe handle) requestId

/-- The acknowledgements of the consumer are lost. -/
def orphans (handle requestId : Nat) : List TicketChange :=
  match (desk.ticket requestId).kind with
  | some (.ack named _) => if named = handle then [.expireAck orphanedAckMessage] else []
  | _ => []

def timeoutChanges (now requestId : Nat) : List TicketChange :=
  match desk.ackResponseTimeout, (desk.ticket requestId).kind with
  | some timeout, some (.ack _ enqueuedAt) =>
    if now ≥ deadlineWithClamp enqueuedAt timeout then [.expireAck ackTimeoutMessage] else []
  | _, _ => []

def successChanges : List TicketChange :=
  match kind with
  | .consumerUnsubscribe handle =>
    changesAt answered requestId [.forget] ++
      (if desk.unsubscribeIsCurrent handle answered then
        desk.cancels (.consumerSubscribe handle) requestId
      else [])
  | .consumerCloseForReattach handle =>
    changesAt answered requestId [.forget] ++ desk.orphans handle requestId
  | .consumerClose _ => changesAt answered requestId [.forget]
  | .consumerCloseForgotten _ => changesAt answered requestId [.forget]
  | .producerCloseForgotten _ => changesAt answered requestId [.forget]
  | .consumerSubscribe _ => changesAt answered requestId [.forget]
  | _ => changesAt answered requestId [.settle .success]

def errorChanges (code : Int) (message : String) (requestId : Nat) : List TicketChange :=
  match kind with
  | .consumerUnsubscribe _ => changesAt answered requestId [.forget]
  | .consumerClose _ => changesAt answered requestId [.forget]
  | .consumerCloseForgotten _ => changesAt answered requestId [.forget]
  | .consumerCloseForReattach _ => changesAt answered requestId [.forget]
  | .producerCloseForgotten _ => changesAt answered requestId [.forget]
  | .producerOpen _ => changesAt answered requestId [.forget]
  | .consumerSubscribe _ => changesAt answered requestId [.forget]
  | _ => changesAt answered requestId [.settle (.error code message)]

def replyChanges : ReplyFrame → List TicketChange
  | .producerSuccess answered => changesAt answered requestId [.forget]
  | .success answered =>
    match (desk.ticket answered).kind with
    | none => []
    | some kind => desk.successChanges answered kind requestId
  | .error answered code message _ =>
    match (desk.ticket answered).kind with
    | none => []
    | some kind => errorChanges answered kind code message requestId
  | .ackResponse none _ _ => []
  | .ackResponse (some answered) error message =>
    if (desk.ticket answered).kind.isSome then
      changesAt answered requestId
        [.settle
          (match message with
          | some message => .error (error.getD 0) message
          | none => .success)]
    else []
  | .lookupResponse answered response =>
    match desk.lookup.lookups.lookup answered with
    | none => []
    | some request =>
      changesAt request.chainOrigin requestId
        [.settle (.lookupResponse (translateLookupResponse response request))]
  | .partitionedMetadataResponse answered partitions error message =>
    match desk.lookup.partitions.lookup answered with
    | none => []
    | some _ =>
      changesAt answered requestId
        [.settle (.partitionedMetadata (partitions.getD 0)
          (error.map fun code => (code, message.getD "")))]
  | .getLastMessageIdResponse answered lastMessageId position =>
    changesAt answered requestId [.settle (.lastMessageId lastMessageId position)]
  | .watchTopicListSuccess answered topics =>
    changesAt answered requestId [.settle (.topicListSnapshot topics)]
  | .newTxnResponse answered reply txnId =>
    changesAt answered requestId
      (match (desk.txnClient.handleNewTxnResponse answered reply txnId).2 with
      | none => [.forget]
      | some result => [.settle (.newTxn result)])
  | .addPartitionToTxnResponse answered reply =>
    changesAt answered requestId
      [.settle (.addPartitionToTxn (desk.txnClient.handleAddPartitionResponse answered reply).2)]
  | .addSubscriptionToTxnResponse answered reply =>
    changesAt answered requestId
      [.settle (.addSubscriptionToTxn
        (desk.txnClient.handleAddSubscriptionResponse answered reply).2)]
  | .endTxnResponse answered reply =>
    changesAt answered requestId
      [.settle (.endTxn (desk.txnClient.handleEndTxnResponse answered reply).2)]
  | .tcClientConnectResponse answered reply =>
    changesAt answered requestId
      [.settle
        (match reply.error with
        | none => .success
        | some code => if code = 0 then .success else .error code (reply.message.getD ""))]
  | .getSchemaResponse answered schema errorCode errorMessage schemaVersion =>
    if (desk.ticket answered).kind = some .getSchema then
      changesAt answered requestId
        [.settle (.getSchemaResponse
          (match schema, errorCode with
          | some schema, none => .ok (schema, schemaVersion)
          | _, some code => .error (code, errorMessage.getD "")
          | none, none => .error (0, emptySchemaMessage)))]
    else []

/-- The passes of `reset` and `fail_all_pending` over one id. -/
def endChanges (outcome : RequestOutcome) (requestId : Nat) : List TicketChange :=
  .endSession outcome ::
    List.replicate ((desk.lookup.lookups.keys ++ desk.lookup.partitions.keys).count requestId)
      (.record outcome)

/-- What one operation does to the ticket of `requestId`. -/
def changes : DeskOp → List TicketChange
  | .lookupTopic _ _ encodes =>
    changesAt desk.nextRequestId requestId (desk.lookupChanges encodes)
  | .lookupRedirect _ _ _ encodes =>
    changesAt desk.nextRequestId requestId (desk.lookupChanges encodes)
  | .getPartitionedTopicMetadata topic =>
    changesAt desk.nextRequestId requestId (desk.metadataChanges topic)
  | .getSchema => desk.issues .getSchema requestId
  | .watchTopicList => desk.issues (.topicWatcher desk.nextWatcherId) requestId
  | .getLastMessageId handle => desk.issues (.consumerGetLastMessageId handle) requestId
  | .seek handle => desk.issues (.consumerSeek handle) requestId
  | .ack handle request now =>
    if isRefused request then
      changesAt desk.nextRequestId requestId
        [.refuse (.error invalidBatchAckCode invalidBatchAckMessage)]
    else desk.issues (.ack handle now) requestId
  | .openProducer handle => desk.issues (.producerOpen handle) requestId
  | .closeProducer handle forgotten =>
    desk.issues (if forgotten then .producerCloseForgotten handle else .producerClose handle)
      requestId
  | .cancelProducerOpen handle mayHold =>
    (if mayHold then desk.issues (.producerCloseForgotten handle) requestId else []) ++
      desk.cancels (.producerOpen handle) requestId
  | .expireProducerOpen expired =>
    match (desk.ticket expired).kind with
    | some (.producerOpen _) => changesAt expired requestId [.forget]
    | _ => []
  | .tcClientConnect => desk.issues .tcClientConnect requestId
  | .newTxn => desk.issues .newTxn requestId
  | .addPartitionToTxn _ _ => desk.issues .addPartitionToTxn requestId
  | .addSubscriptionToTxn _ _ _ => desk.issues .addSubscriptionToTxn requestId
  | .endTxn txn action =>
    if (desk.endTxnWaiters.lookup txn).isSome ||
        (desk.endTxnRequests.lookup (txn, action)).isSome then []
    else desk.issues .endTxn requestId
  | .releaseEndTxnWaiter _ _ => []
  | .registerWaker named => changesAt named requestId [.park]
  | .unregisterWaker named => changesAt named requestId [.unpark]
  | .takeOutcome named => changesAt named requestId [.take]
  | .cancelRequest named => changesAt named requestId [.cancel]
  | .subscribe => desk.issues (.consumerSubscribe desk.nextConsumerId) requestId
  | .resubscribe handle => desk.issues (.consumerSubscribe handle) requestId
  | .cancelConsumerSubscribe handle completed =>
    desk.cancelSubscribeChanges handle completed requestId
  | .closeConsumer handle origin =>
    if desk.terminalAdmissionReason.isNone && (desk.consumers.lookup handle).any fun consumer =>
        consumer.terminalOperation == .opened then
      desk.issues
        (if origin == .bestEffort then .consumerCloseForgotten handle else .consumerClose handle)
        requestId
    else []
  | .forceCloseConsumerForget handle =>
    if desk.terminalAdmissionReason.isNone && (desk.consumers.lookup handle).any fun consumer =>
        !consumer.forcedCloseRetryIssued &&
          (match consumer.terminalOperation with
          | .complete _ _ .success => false
          | .complete (some _) .reliable _ => true
          | _ => false) then
      desk.issues (.consumerCloseForgotten handle) requestId
    else []
  | .unsubscribe handle =>
    if desk.terminalAdmissionReason.isNone && (desk.consumers.lookup handle).any fun consumer =>
        consumer.terminalOperation == .opened then
      desk.issues (.consumerUnsubscribe handle) requestId
    else []
  | .closeForReattach handle => desk.issues (.consumerCloseForReattach handle) requestId
  | .handleTimeout now => desk.timeoutChanges now requestId
  | .closeConsumerFrame handle none => desk.orphans handle requestId
  | .closeConsumerFrame _ (some _) => []
  | .reply frame => desk.replyChanges requestId frame
  | .reset => desk.endChanges .sessionLost requestId
  | .failAllPending reason => desk.endChanges (.terminal reason) requestId

theorem eq_of_mem_changesAt {named requestId : Nat} {only : TicketChange}
    (member : change ∈ changesAt named requestId [only]) : change = only := by
  unfold changesAt at member
  split at member
  · exact List.mem_singleton.mp member
  · cases member

theorem eq_cancel_of_mem_cancels {desk : RequestDesk} {kind : RequestKind} {requestId : Nat}
    (member : change ∈ desk.cancels kind requestId) : change = .cancel := by
  unfold cancels at member
  split at member
  · exact List.mem_singleton.mp member
  · cases member

/-! ### The simulation -/

/-- Each ticket of `desk'` is that of `desk` after its changes. -/
def Follows (desk desk' : RequestDesk) (changes : Nat → List TicketChange) : Prop :=
  ∀ requestId, desk'.ticket requestId =
    (changes requestId).foldl Ticket.apply (desk.ticket requestId)

theorem Follows.of_tickets {desk desk'' : RequestDesk}
    {changes : Nat → List TicketChange} (follows : desk.Follows desk' changes)
    (same : desk''.tickets = desk'.tickets) : desk.Follows desk'' changes := by
  intro requestId
  rw [ticket_congr same]
  exact follows requestId

theorem follows_nil {desk : RequestDesk} (same : desk'.tickets = desk.tickets) :
    desk.Follows desk' fun _ => [] := by
  intro requestId
  exact ticket_congr same requestId

theorem modifyTicket_follows (applies : ∀ ticket : Ticket, update ticket = ticket.apply change) :
    desk.Follows (desk.modifyTicket named update) fun requestId =>
      changesAt named requestId [change] := by
  intro requestId
  rw [ticket_modifyTicket]
  by_cases same : named = requestId
  · simp [changesAt, same, applies]
  · simp [changesAt, same]

theorem request_follows : desk.Follows (desk.request kind) (desk.issues kind) := by
  intro requestId
  unfold request allocRequestId
  rw [ticket_modifyTicket, ticket_modifyTicket]
  by_cases same : desk.nextRequestId = requestId
  · simp only [issues, changesAt, same, if_true]
    rfl
  · simp only [issues, changesAt, same, if_false]
    rfl

theorem settle_follows :
    desk.Follows (desk.settle named outcome) fun requestId =>
      changesAt named requestId [.settle outcome] :=
  desk.modifyTicket_follows named fun _ => rfl

theorem forget_follows :
    desk.Follows (desk.forget named) fun requestId => changesAt named requestId [.forget] :=
  desk.modifyTicket_follows named fun _ => rfl

/-- Handing out an id and then changing its ticket is one change. -/
theorem alloc_follows (update : Ticket → Ticket)
    (same : desk'.tickets =
      (desk.allocRequestId.modifyTicket desk.nextRequestId update).tickets)
    (applies : ∀ ticket : Ticket, update ticket.hand = ticket.apply change) :
    desk.Follows desk' fun requestId => changesAt desk.nextRequestId requestId [change] := by
  intro requestId
  rw [ticket_congr same, allocRequestId, ticket_modifyTicket, ticket_modifyTicket]
  by_cases named : desk.nextRequestId = requestId
  · simp only [changesAt, named, if_true, List.foldl_cons, List.foldl_nil]
    exact applies _
  · simp only [changesAt, named, if_false, List.foldl_nil]
    rfl

theorem allocRequestId_follows (same : desk'.tickets = desk.allocRequestId.tickets) :
    desk.Follows desk' fun requestId => changesAt desk.nextRequestId requestId [.grant] := by
  intro requestId
  rw [ticket_congr same, allocRequestId, ticket_modifyTicket]
  by_cases named : desk.nextRequestId = requestId
  · simp only [changesAt, named, if_true]
    rfl
  · simp only [changesAt, named, if_false]
    rfl

theorem lookupWithBudget_follows (topic : String) (authoritative : Bool)
    (hopsRemaining : Nat) (encodes : Bool) :
    desk.Follows (desk.lookupWithBudget topic authoritative hopsRemaining encodes) fun requestId =>
      changesAt desk.nextRequestId requestId (desk.lookupChanges encodes) := by
  have registry : desk.allocRequestId.lookup = desk.lookup := rfl
  unfold lookupWithBudget lookupChanges LookupRegistry.insertLookup
  simp only [registry]
  cases desk.lookup.hasCapacity with
  | false => exact desk.alloc_follows (fun ticket => ticket.forget.record _) rfl fun _ => rfl
  | true =>
    cases encodes with
    | true => exact desk.alloc_follows (fun ticket => ticket.pend _) rfl fun _ => rfl
    | false => exact desk.allocRequestId_follows rfl

theorem getPartitionedTopicMetadata_follows (topic : String) :
    desk.Follows (desk.getPartitionedTopicMetadata topic) fun requestId =>
      changesAt desk.nextRequestId requestId (desk.metadataChanges topic) := by
  have registry : desk.allocRequestId.lookup = desk.lookup := rfl
  unfold getPartitionedTopicMetadata metadataChanges LookupRegistry.insertPartition
  simp only [registry]
  cases isPartitionTopic topic with
  | true => exact desk.alloc_follows (fun ticket => ticket.forget.record _) rfl fun _ => rfl
  | false =>
    cases desk.lookup.hasCapacity with
    | true => exact desk.alloc_follows (fun ticket => ticket.pend _) rfl fun _ => rfl
    | false => exact desk.alloc_follows (fun ticket => ticket.forget.record _) rfl fun _ => rfl

theorem takeOutcome_follows :
    desk.Follows (desk.takeOutcome named).1 fun requestId =>
      changesAt named requestId [.take] := by
  have taken : desk.Follows (desk.modifyTicket named take) fun requestId =>
      changesAt named requestId [.take] := desk.modifyTicket_follows named fun _ => rfl
  unfold takeOutcome
  cases found : (desk.ticket named).outcome with
  | none =>
    intro requestId
    by_cases same : named = requestId
    · subst same
      simp [changesAt, apply, take_of_empty found]
    · simp [changesAt, same]
  | some =>
    dsimp only
    split
    · exact taken
    · exact taken.of_tickets rfl

theorem cancelRequest_follows :
    desk.Follows (desk.cancelRequest named) fun requestId =>
      changesAt named requestId [.cancel] := by
  intro requestId
  rw [ticket_cancelRequest]
  by_cases same : named = requestId
  · simp [changesAt, same, apply]
  · simp [changesAt, same]

/-- Cancelling the pending requests of a kind, after a change that may hand out one more id. -/
theorem cancelAll_follows {desk : RequestDesk} {earlier : Nat → List TicketChange}
    (follows : desk.Follows desk' earlier) (kind : RequestKind) :
    desk.Follows ((desk.pendingOf kind).foldl cancelRequest desk') fun requestId =>
      earlier requestId ++ desk.cancels kind requestId := by
  intro requestId
  rw [ticket_foldl_cancelRequest, List.foldl_append, ← follows requestId]
  unfold cancels
  simp only [mem_pendingOf]
  split <;> rfl

theorem cancelProducerOpen_follows (mayHold : Bool) :
    desk.Follows (desk.cancelProducerOpen handle mayHold) fun requestId =>
      (if mayHold then desk.issues (.producerCloseForgotten handle) requestId else []) ++
        desk.cancels (.producerOpen handle) requestId := by
  unfold cancelProducerOpen
  apply cancelAll_follows
  cases mayHold with
  | true => exact desk.request_follows _
  | false => exact follows_nil rfl

theorem cancelConsumerSubscribe_follows (completed : Bool) :
    desk.Follows (desk.cancelConsumerSubscribe handle completed)
      (desk.cancelSubscribeChanges handle completed) := by
  unfold cancelConsumerSubscribe cancelSubscribeChanges
  refine Follows.of_tickets ?_ rfl
  apply cancelAll_follows
  split
  · exact desk.request_follows _
  · exact follows_nil rfl

theorem mapTickets_follows {changes : Nat → List TicketChange} (blank : update {} = {})
    (applies : ∀ requestId, update (desk.ticket requestId) =
      (changes requestId).foldl apply (desk.ticket requestId)) :
    desk.Follows (desk.mapTickets update) changes := by
  intro requestId
  rw [ticket_mapTickets desk requestId blank]
  exact applies requestId

theorem failAcksOrphanedByConsumerReattach_follows :
    desk.Follows (desk.failAcksOrphanedByConsumerReattach handle) (desk.orphans handle) := by
  apply desk.mapTickets_follows rfl
  intro requestId
  unfold orphans
  cases (desk.ticket requestId).kind with
  | none => rfl
  | some kind =>
    cases kind with
    | ack =>
      dsimp only
      split <;> rfl
    | _ => rfl

theorem handleTimeout_follows (now : Nat) :
    desk.Follows (desk.handleTimeout now) (desk.timeoutChanges now) := by
  unfold handleTimeout timeoutChanges
  cases desk.ackResponseTimeout with
  | none => exact follows_nil rfl
  | some =>
    apply desk.mapTickets_follows rfl
    intro requestId
    cases (desk.ticket requestId).kind with
    | none => rfl
    | some kind =>
      cases kind with
      | ack =>
        dsimp only
        split <;> rfl
      | _ => rfl

theorem Follows.trans {desk desk'' : RequestDesk}
    {earlier later : Nat → List TicketChange} (first : desk.Follows desk' earlier)
    (second : desk'.Follows desk'' later) :
    desk.Follows desk'' fun requestId => earlier requestId ++ later requestId := by
  intro requestId
  rw [second requestId, first requestId, List.foldl_append]

theorem Follows.congr {desk : RequestDesk} {changes changes' : Nat → List TicketChange}
    (follows : desk.Follows desk' changes)
    (same : ∀ requestId, changes requestId = changes' requestId) : desk.Follows desk' changes' := by
  intro requestId
  rw [← same requestId]
  exact follows requestId

theorem kind_forget (named requestId : Nat) :
    ((desk.forget named).ticket requestId).kind =
      if named = requestId then none else (desk.ticket requestId).kind := by
  rw [forget, ticket_modifyTicket]
  split <;> rfl

theorem forget_record_follows :
    desk.Follows ((desk.forget named).record named outcome) fun requestId =>
      changesAt named requestId [.settle outcome] := by
  intro requestId
  rw [record, forget, ticket_modifyTicket, ticket_modifyTicket]
  by_cases same : named = requestId
  · simp [changesAt, same, apply]
  · simp [changesAt, same]

/-- No close goes out for a consumer that is closed. -/
theorem cancelSubscribeChanges_of_closed {desk : RequestDesk} {handle : Nat}
    (closed : ∀ consumer, desk.consumers.lookup handle = some consumer → consumer.closed = true)
    (completed : Bool) (requestId : Nat) :
    desk.cancelSubscribeChanges handle completed requestId =
      desk.cancels (.consumerSubscribe handle) requestId := by
  unfold cancelSubscribeChanges
  cases found : desk.consumers.lookup handle with
  | none => rfl
  | some consumer => simp [closed consumer found]

theorem publishConsumerUnsubscribe_follows (handle requestId : Nat) (completion : CloseCompletion) :
    desk.Follows (desk.publishConsumerUnsubscribe handle requestId completion false) fun named =>
      if desk.unsubscribeIsCurrent handle requestId then
        desk.cancels (.consumerSubscribe handle) named
      else [] := by
  unfold publishConsumerUnsubscribe
  by_cases current : desk.unsubscribeIsCurrent handle requestId = true
  · simp only [current, if_true]
    let closing := (desk.completeUnsubscribe requestId completion).modifyConsumer handle
      fun consumer => { consumer with closed := true }
    have closed : ∀ consumer, closing.consumers.lookup handle = some consumer →
        consumer.closed = true := by
      intro consumer found
      rw [show closing.consumers = desk.consumers.modify handle fun consumer =>
        { consumer with closed := true } from rfl, Table.lookup_modify_self] at found
      obtain ⟨earlier, _, rfl⟩ := Option.map_eq_some_iff.mp found
      rfl
    exact (cancelConsumerSubscribe_follows closing handle false).congr
      (cancelSubscribeChanges_of_closed closed false)
  · simp only [current]
    exact follows_nil rfl

theorem handleSuccess_follows :
    desk.Follows (desk.handleSuccess answered) fun requestId =>
      desk.replyChanges requestId (.success answered) := by
  have forgotten := desk.forget_follows answered
  unfold handleSuccess
  simp only [replyChanges]
  cases pending : (desk.ticket answered).kind with
  | none => exact follows_nil rfl
  | some kind =>
    cases kind with
    | consumerUnsubscribe handle =>
      apply (forgotten.trans (publishConsumerUnsubscribe_follows _ handle answered _)).congr
      intro requestId
      have current : (desk.forget answered).unsubscribeIsCurrent handle answered =
        desk.unsubscribeIsCurrent handle answered := rfl
      simp only [successChanges, current, cancels, kind_forget]
      by_cases same : answered = requestId
      · subst same
        simp [pending]
      · simp [same]
    | consumerCloseForReattach handle =>
      apply (forgotten.trans (failAcksOrphanedByConsumerReattach_follows _ handle)).congr
      intro requestId
      simp only [successChanges, orphans, kind_forget]
      by_cases same : answered = requestId
      · subst same
        simp [pending]
      · simp [same]
    | consumerClose | consumerCloseForgotten => exact forgotten.of_tickets rfl
    | producerCloseForgotten | consumerSubscribe => exact forgotten
    | consumerSeek => exact (desk.forget_record_follows answered _).of_tickets rfl
    | _ => exact desk.forget_record_follows answered _

theorem handleError_follows (code : Int) (message : String) (provisional : Bool) :
    desk.Follows (desk.handleError answered code message provisional) fun requestId =>
      desk.replyChanges requestId (.error answered code message provisional) := by
  have forgotten := desk.forget_follows answered
  unfold handleError
  simp only [replyChanges]
  cases pending : (desk.ticket answered).kind with
  | none => exact follows_nil rfl
  | some kind =>
    cases kind with
    | consumerUnsubscribe =>
      apply forgotten.of_tickets
      unfold publishConsumerUnsubscribe
      dsimp only
      split <;> rfl
    | consumerClose | consumerCloseForgotten => exact forgotten.of_tickets rfl
    | consumerCloseForReattach | producerCloseForgotten | producerOpen => exact forgotten
    | consumerSubscribe => cases provisional <;> exact forgotten.of_tickets rfl
    | _ => exact desk.forget_record_follows answered _

theorem handleReply_follows (frame : ReplyFrame) :
    desk.Follows (desk.handleReply frame) fun requestId => desk.replyChanges requestId frame := by
  cases frame with
  | producerSuccess answered => exact desk.forget_follows answered
  | success answered => exact desk.handleSuccess_follows answered
  | error => exact desk.handleError_follows _ _ _ _
  | ackResponse answered =>
    cases answered with
    | none => exact follows_nil rfl
    | some answered =>
      simp only [handleReply, handleAckResponse, replyChanges]
      by_cases pending : (desk.ticket answered).kind.isSome = true
      · simp only [pending, if_true]
        exact desk.settle_follows answered _
      · simp only [pending]
        exact follows_nil rfl
  | lookupResponse answered =>
    simp only [handleReply, handleLookupResponse, replyChanges]
    cases desk.lookup.lookups.lookup answered with
    | none => exact follows_nil rfl
    | some request => exact desk.settle_follows request.chainOrigin _
  | partitionedMetadataResponse answered =>
    simp only [handleReply, handlePartitionedMetadataResponse, replyChanges]
    cases desk.lookup.partitions.lookup answered with
    | none => exact follows_nil rfl
    | some => exact desk.settle_follows answered _
  | newTxnResponse answered reply txnId =>
    simp only [handleReply, handleNewTxnResponse, replyChanges]
    cases (desk.txnClient.handleNewTxnResponse answered reply txnId).2 with
    | none => exact desk.forget_follows answered
    | some => exact desk.settle_follows answered _
  | getSchemaResponse answered =>
    simp only [handleReply, handleGetSchemaResponse, replyChanges]
    by_cases pending : (desk.ticket answered).kind = some .getSchema
    · simp only [pending, if_true]
      exact desk.settle_follows answered _
    · simp only [pending, if_false]
      exact follows_nil rfl
  | _ => exact desk.settle_follows _ _

theorem endRequests_follows :
    desk.Follows (desk.endRequests outcome) (desk.endChanges outcome) := by
  intro requestId
  unfold endRequests endChanges
  rw [ticket_foldl_record, ticket_mapTickets _ _ rfl]
  rfl

theorem endTxn_follows (txn : TxnId) (action : TxnAction) :
    desk.Follows (desk.endTxn txn action).1 fun requestId =>
      desk.changes requestId (.endTxn txn action) := by
  unfold endTxn
  simp only [changes]
  cases desk.endTxnWaiters.lookup txn with
  | some => exact follows_nil rfl
  | none =>
    cases desk.endTxnRequests.lookup (txn, action) with
    | some => exact follows_nil rfl
    | none => exact desk.request_follows _

theorem closeConsumer_follows (origin : CloseOrigin) :
    desk.Follows (desk.closeConsumer handle origin).1 fun requestId =>
      desk.changes requestId (.closeConsumer handle origin) := by
  unfold closeConsumer
  simp only [changes]
  cases desk.terminalAdmissionReason with
  | some => exact follows_nil rfl
  | none =>
    cases desk.consumers.lookup handle with
    | none => exact follows_nil rfl
    | some consumer =>
      cases operation : consumer.terminalOperation with
      | opened =>
        simp only [Option.isNone_none, Option.any_some, operation, BEq.rfl, Bool.and_self,
          if_true]
        exact (desk.request_follows _).of_tickets rfl
      | pending | unsubscribePending => simpa [operation] using follows_nil rfl
      | complete requestId =>
        cases requestId <;> simpa [operation] using follows_nil rfl

theorem unsubscribe_follows :
    desk.Follows (desk.unsubscribe handle).1 fun requestId =>
      desk.changes requestId (.unsubscribe handle) := by
  unfold unsubscribe
  simp only [changes]
  cases desk.terminalAdmissionReason with
  | some => exact follows_nil rfl
  | none =>
    cases desk.consumers.lookup handle with
    | none => exact follows_nil rfl
    | some consumer =>
      cases operation : consumer.terminalOperation with
      | opened =>
        simp only [Option.isNone_none, Option.any_some, operation, BEq.rfl, Bool.and_self,
          if_true]
        exact (desk.request_follows _).of_tickets rfl
      | pending | complete | unsubscribePending => simpa [operation] using follows_nil rfl

theorem forceCloseConsumerForget_follows :
    desk.Follows (desk.forceCloseConsumerForget handle) fun requestId =>
      desk.changes requestId (.forceCloseConsumerForget handle) := by
  unfold forceCloseConsumerForget
  simp only [changes]
  cases desk.terminalAdmissionReason with
  | some => exact follows_nil rfl
  | none =>
    cases desk.consumers.lookup handle with
    | none => exact follows_nil rfl
    | some consumer =>
      cases operation : consumer.terminalOperation with
      | opened | pending | unsubscribePending => simpa [operation] using follows_nil rfl
      | complete requestId origin completion =>
        cases completion <;> cases requestId <;> cases origin <;>
          cases issued : consumer.forcedCloseRetryIssued <;>
          simp only [operation, issued, Option.isSome_none, Option.isNone_none,
            Option.any_some, Bool.not_true, Bool.not_false, Bool.and_true, Bool.and_false,
            Bool.false_eq_true, if_true, if_false] <;>
          first
            | exact follows_nil rfl
            | exact desk.request_follows _

/-- The simulation: an operation of the connection acts on each id as the id's changes. -/
theorem step_follows (op : DeskOp) :
    desk.Follows (desk.step op) fun requestId => desk.changes requestId op := by
  cases op with
  | lookupTopic | lookupRedirect => exact desk.lookupWithBudget_follows _ _ _ _
  | getPartitionedTopicMetadata topic => exact desk.getPartitionedTopicMetadata_follows topic
  | getSchema | watchTopicList | getLastMessageId | openProducer | closeProducer
  | tcClientConnect | newTxn | addPartitionToTxn | addSubscriptionToTxn | subscribe
  | resubscribe | closeForReattach => exact desk.request_follows _
  | seek => exact (desk.request_follows _).of_tickets rfl
  | ack _ request =>
    simp only [step, ack, changes]
    cases isRefused request with
    | true => exact desk.alloc_follows (fun ticket => ticket.store _) rfl fun _ => rfl
    | false => exact desk.request_follows _
  | cancelProducerOpen => exact desk.cancelProducerOpen_follows _ _
  | expireProducerOpen expired =>
    simp only [step, expireProducerOpen, changes]
    cases (desk.ticket expired).kind with
    | none => exact follows_nil rfl
    | some kind =>
      cases kind with
      | producerOpen => exact desk.forget_follows expired
      | _ => exact follows_nil rfl
  | endTxn txn action => exact desk.endTxn_follows txn action
  | releaseEndTxnWaiter txn action =>
    apply follows_nil
    change (desk.releaseEndTxnWaiter txn action).tickets = desk.tickets
    unfold releaseEndTxnWaiter
    split <;> rfl
  | registerWaker | unregisterWaker => exact desk.modifyTicket_follows _ fun _ => rfl
  | takeOutcome named => exact desk.takeOutcome_follows named
  | cancelRequest named => exact desk.cancelRequest_follows named
  | cancelConsumerSubscribe => exact desk.cancelConsumerSubscribe_follows _ _
  | closeConsumer => exact desk.closeConsumer_follows _ _
  | forceCloseConsumerForget handle => exact desk.forceCloseConsumerForget_follows handle
  | unsubscribe handle => exact desk.unsubscribe_follows handle
  | handleTimeout now => exact desk.handleTimeout_follows now
  | closeConsumerFrame handle url =>
    cases url with
    | none => exact desk.failAcksOrphanedByConsumerReattach_follows handle
    | some => exact follows_nil rfl
  | reply frame => exact desk.handleReply_follows frame
  | reset | failAllPending => exact (desk.endRequests_follows _).of_tickets rfl

theorem ticket_step (op : DeskOp) (requestId : Nat) :
    (desk.step op).ticket requestId =
      (desk.changes requestId op).foldl apply (desk.ticket requestId) :=
  desk.step_follows op requestId

/-- No request is pending after the passes of `reset` and `fail_all_pending`. -/
theorem kind_endChanges (ticket : Ticket) :
    ((desk.endChanges outcome requestId).foldl apply ticket).kind = none := by
  have recorded (count : Nat) (ended : Ticket) (idle : ended.kind = none) :
      ((List.replicate count (TicketChange.record outcome)).foldl apply ended).kind =
        none := by
    induction count generalizing ended with
    | zero => exact idle
    | succ _ ih => exact ih _ idle
  rw [endChanges, List.foldl_cons]
  apply recorded
  exact ticket.kind_endSession outcome

end RequestDesk

end Magnetar.Proto.Connection
