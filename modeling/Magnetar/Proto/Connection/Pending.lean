import Magnetar.Proto.Connection.Tickets

/-!
Contract: how long a request is pending.

Owns: the request that an operation sends, the request it addresses, and the two facts that bound
the life of a pending request: what is pending after an operation was pending before it or has just
been sent, and what is pending stays so until an operation addresses it or the session ends.

Does not own: what becomes of the request (`Connection.Outcomes`).

Acknowledgements, opens, subscribes and schema requests are outside the second fact: they end by
timeouts and cancellations that do not name them.
-/

namespace Magnetar.Proto.Connection

open Lookup TicketChange

/-- Only an operation that addresses the request ends it while the session lasts. -/
def RequestKind.endures : RequestKind → Bool
  | .ack _ _ => false
  | .producerOpen _ => false
  | .consumerSubscribe _ => false
  | .getSchema => false
  | _ => true

/-- The session goes on after the operation. -/
def DeskOp.goesOn : DeskOp → Bool
  | .reset => false
  | .failAllPending _ => false
  | _ => true

variable {changes : List TicketChange}

namespace Ticket

theorem kind_foldl_cases {ticket : Ticket} {kind : RequestKind}
    (pending : (changes.foldl Ticket.apply ticket).kind = some kind) :
    ticket.kind = some kind ∨ .issue kind ∈ changes := by
  induction changes generalizing ticket with
  | nil => exact .inl pending
  | cons change _ ih =>
    rcases ih pending with before | later
    · rw [kind_apply] at before
      cases change with
      | issue =>
        rw [← Option.some.inj before]
        exact .inr List.mem_cons_self
      | grant | refuse | record | take | park | unpark => exact .inl before
      | _ => cases before
    · exact .inr (List.mem_cons_of_mem _ later)

theorem kind_foldl_of_idle {ticket : Ticket}
    (idle : ∀ change ∈ changes, ∀ pending, change.kindAfter pending = pending) :
    (changes.foldl Ticket.apply ticket).kind = ticket.kind := by
  induction changes generalizing ticket with
  | nil => rfl
  | cons change _ ih =>
    rw [List.foldl_cons, ih fun later member =>
      idle later (List.mem_cons_of_mem _ member), kind_apply]
    exact idle change List.mem_cons_self _

end Ticket

variable {cancelled sent : RequestKind} {op : DeskOp}

namespace RequestDesk

/-- The request that the operation sends under the next id. -/
def sends (desk : RequestDesk) : DeskOp → Option RequestKind
  | .lookupTopic _ _ encodes => if desk.lookup.hasCapacity && encodes then some .lookup else none
  | .lookupRedirect _ _ _ encodes =>
    if desk.lookup.hasCapacity && encodes then some .lookup else none
  | .getPartitionedTopicMetadata topic =>
    if !isPartitionTopic topic && desk.lookup.hasCapacity then some .partitionedMetadata
    else none
  | .getSchema => some .getSchema
  | .watchTopicList => some (.topicWatcher desk.nextWatcherId)
  | .getLastMessageId handle => some (.consumerGetLastMessageId handle)
  | .seek handle => some (.consumerSeek handle)
  | .ack handle request now => if isRefused request then none else some (.ack handle now)
  | .openProducer handle => some (.producerOpen handle)
  | .closeProducer handle forgotten =>
    some (if forgotten then .producerCloseForgotten handle else .producerClose handle)
  | .cancelProducerOpen handle mayHold =>
    if mayHold then some (.producerCloseForgotten handle) else none
  | .tcClientConnect => some .tcClientConnect
  | .newTxn => some .newTxn
  | .addPartitionToTxn _ _ => some .addPartitionToTxn
  | .addSubscriptionToTxn _ _ _ => some .addSubscriptionToTxn
  | .endTxn txn action =>
    if (desk.endTxnWaiters.lookup txn).isSome ||
        (desk.endTxnRequests.lookup (txn, action)).isSome then none
    else some .endTxn
  | .subscribe => some (.consumerSubscribe desk.nextConsumerId)
  | .resubscribe handle => some (.consumerSubscribe handle)
  | .cancelConsumerSubscribe handle completed =>
    if (desk.consumers.lookup handle).any fun consumer =>
        !consumer.closed &&
          (!(desk.pendingOf (.consumerSubscribe handle)).isEmpty || completed) then
      some (.consumerCloseForgotten handle)
    else none
  | .closeConsumer handle origin =>
    if desk.terminalAdmissionReason.isNone && (desk.consumers.lookup handle).any fun consumer =>
        consumer.terminalOperation == .opened then
      some (if origin == .bestEffort then .consumerCloseForgotten handle
        else .consumerClose handle)
    else none
  | .forceCloseConsumerForget handle =>
    if desk.terminalAdmissionReason.isNone && (desk.consumers.lookup handle).any fun consumer =>
        !consumer.forcedCloseRetryIssued &&
          (match consumer.terminalOperation with
          | .complete _ _ .success => false
          | .complete (some _) .reliable _ => true
          | _ => false) then
      some (.consumerCloseForgotten handle)
    else none
  | .unsubscribe handle =>
    if desk.terminalAdmissionReason.isNone && (desk.consumers.lookup handle).any fun consumer =>
        consumer.terminalOperation == .opened then
      some (.consumerUnsubscribe handle)
    else none
  | .closeForReattach handle => some (.consumerCloseForReattach handle)
  | _ => none

/-- The request that the operation may end. -/
def addressed (desk : RequestDesk) : DeskOp → Option Nat
  | .cancelRequest requestId => some requestId
  | .reply (.lookupResponse answered _) =>
    (desk.lookup.lookups.lookup answered).map LookupRequest.chainOrigin
  | .reply (.partitionedMetadataResponse answered _ _ _) =>
    (desk.lookup.partitions.lookup answered).map fun _ => answered
  | .reply (.getSchemaResponse _ _ _ _ _) => none
  | .reply frame => frame.requestId
  | _ => none

section Sent

variable {desk : RequestDesk} {requestId : Nat} {kind : RequestKind}

theorem issue_mem_issues (member : issue kind ∈ desk.issues sent requestId) :
    requestId = desk.nextRequestId ∧ sent = kind := by
  unfold issues changesAt at member
  split at member
  case isTrue same =>
    cases List.mem_singleton.mp member
    exact ⟨same.symm, rfl⟩
  case isFalse => cases member

theorem issue_not_mem_cancels : issue kind ∉ desk.cancels cancelled requestId := by
  intro member
  cases eq_cancel_of_mem_cancels member

theorem issue_not_mem_changesAt {named : Nat} {only : TicketChange}
    (other : only ≠ .issue kind) : issue kind ∉ changesAt named requestId [only] := by
  intro member
  exact other (eq_of_mem_changesAt member).symm

theorem issue_not_mem_orphans {handle : Nat} : issue kind ∉ desk.orphans handle requestId := by
  unfold orphans
  split
  · split <;> simp
  · simp

theorem issue_not_mem_reply (frame : ReplyFrame) :
    issue kind ∉ desk.replyChanges requestId frame := by
  have settled (named : Nat) (outcome : RequestOutcome) :
      issue kind ∉ changesAt named requestId [.settle outcome] :=
    issue_not_mem_changesAt (by simp)
  have forgotten (named : Nat) : issue kind ∉ changesAt named requestId [.forget] :=
    issue_not_mem_changesAt (by simp)
  cases frame with
  | producerSuccess answered => exact forgotten answered
  | success answered =>
    simp only [replyChanges]
    split
    · simp
    · unfold successChanges
      split
      · rw [List.mem_append]
        rintro (first | second)
        · exact forgotten answered first
        · split at second
          · exact issue_not_mem_cancels second
          · cases second
      · rw [List.mem_append]
        rintro (first | second)
        · exact forgotten answered first
        · exact issue_not_mem_orphans second
      all_goals first | exact forgotten answered | exact settled answered _
  | error answered =>
    simp only [replyChanges]
    split
    · simp
    · unfold errorChanges
      split <;> first | exact forgotten answered | exact settled answered _
  | ackResponse answered =>
    cases answered with
    | none => simp [replyChanges]
    | some answered =>
      simp only [replyChanges]
      split
      · exact settled answered _
      · simp
  | lookupResponse | partitionedMetadataResponse =>
    simp only [replyChanges]
    split
    · simp
    · exact settled _ _
  | newTxnResponse answered =>
    simp only [replyChanges]
    split
    · exact forgotten answered
    · exact settled answered _
  | getSchemaResponse answered =>
    simp only [replyChanges]
    split
    · exact settled answered _
    · simp
  | _ => exact settled _ _

theorem issue_mem_ite {condition : Bool} (member : issue kind ∈
      if condition then desk.issues sent requestId else []) :
    requestId = desk.nextRequestId ∧ (if condition then some sent else none) = some kind := by
  cases condition with
  | true =>
    obtain ⟨same, rfl⟩ := issue_mem_issues member
    exact ⟨same, rfl⟩
  | false => cases member

theorem issue_mem_ite_cancels {condition : Bool}
    (member : issue kind ∈
      (if condition then desk.issues sent requestId else []) ++
        desk.cancels cancelled requestId) :
    requestId = desk.nextRequestId ∧ (if condition then some sent else none) = some kind := by
  rcases List.mem_append.mp member with first | second
  · exact issue_mem_ite first
  · exact absurd second issue_not_mem_cancels

theorem issue_mem_lookup {encodes : Bool} (member : issue kind ∈
      changesAt desk.nextRequestId requestId (desk.lookupChanges encodes)) :
    requestId = desk.nextRequestId ∧
      (if desk.lookup.hasCapacity && encodes then some .lookup else none) = some kind := by
  unfold lookupChanges at member
  cases room : desk.lookup.hasCapacity with
  | false =>
    rw [room] at member
    exact absurd member (issue_not_mem_changesAt (by simp))
  | true =>
    rw [room] at member
    cases encodes with
    | true =>
      obtain ⟨same, rfl⟩ := issue_mem_issues member
      exact ⟨same, rfl⟩
    | false => exact absurd member (issue_not_mem_changesAt (by simp))

theorem issue_mem_metadata {topic : String} (member : issue kind ∈
      changesAt desk.nextRequestId requestId (desk.metadataChanges topic)) :
    requestId = desk.nextRequestId ∧
      desk.sends (.getPartitionedTopicMetadata topic) = some kind := by
  unfold metadataChanges at member
  simp only [sends]
  cases named : isPartitionTopic topic with
  | true =>
    rw [named] at member
    exact absurd member (issue_not_mem_changesAt (by simp))
  | false =>
    cases room : desk.lookup.hasCapacity with
    | true =>
      rw [named, room] at member
      obtain ⟨same, rfl⟩ := issue_mem_issues member
      exact ⟨same, rfl⟩
    | false =>
      rw [named, room] at member
      exact absurd member (issue_not_mem_changesAt (by simp))

theorem issue_mem_changes (member : issue kind ∈ desk.changes requestId op) :
    requestId = desk.nextRequestId ∧ desk.sends op = some kind := by
  have plain {sent : RequestKind} (issued : issue kind ∈ desk.issues sent requestId) :
      requestId = desk.nextRequestId ∧ some sent = some kind := by
    obtain ⟨same, rfl⟩ := issue_mem_issues issued
    exact ⟨same, rfl⟩
  have never {named : Nat} {only : TicketChange} (other : only ≠ .issue kind)
      (changed : issue kind ∈ changesAt named requestId [only]) : False :=
    issue_not_mem_changesAt other changed
  cases op with
  | lookupTopic | lookupRedirect => exact issue_mem_lookup member
  | getPartitionedTopicMetadata => exact issue_mem_metadata member
  | ack =>
    simp only [changes, sends] at member ⊢
    split at member
    · exact (never (by simp) member).elim
    · rw [if_neg ‹_›]
      exact plain member
  | cancelProducerOpen | cancelConsumerSubscribe => exact issue_mem_ite_cancels member
  | expireProducerOpen =>
    simp only [changes] at member
    split at member
    · exact (never (by simp) member).elim
    · cases member
  | endTxn =>
    simp only [changes, sends] at member ⊢
    split at member
    · cases member
    · rw [if_neg ‹_›]
      exact plain member
  | releaseEndTxnWaiter => cases member
  | registerWaker | unregisterWaker | takeOutcome | cancelRequest =>
    exact (never (by simp) member).elim
  | closeConsumer | forceCloseConsumerForget | unsubscribe => exact issue_mem_ite member
  | handleTimeout =>
    simp only [changes, timeoutChanges] at member
    split at member
    · split at member <;> simp at member
    · cases member
  | closeConsumerFrame _ url =>
    cases url with
    | none => exact absurd member issue_not_mem_orphans
    | some => cases member
  | reply frame => exact absurd member (issue_not_mem_reply frame)
  | reset | failAllPending => simp [changes, endChanges] at member
  | _ => exact plain member

theorem pending_before (pending : ((desk.step op).ticket requestId).kind = some kind) :
    (desk.ticket requestId).kind = some kind ∨
      (requestId = desk.nextRequestId ∧ desk.sends op = some kind) := by
  rw [ticket_step] at pending
  rcases Ticket.kind_foldl_cases pending with before | sent
  · exact .inl before
  · exact .inr (issue_mem_changes sent)

end Sent

section Spared

variable {desk : RequestDesk} {requestId : Nat} {kind : RequestKind}

theorem changesAt_ne {named : Nat} (differs : requestId ≠ named) (changes : List TicketChange) :
    changesAt named requestId changes = [] :=
  if_neg differs.symm

theorem issues_ne (differs : requestId ≠ desk.nextRequestId) (sent : RequestKind) :
    desk.issues sent requestId = [] :=
  changesAt_ne differs _

section

variable (pending : (desk.ticket requestId).kind = some kind)

include pending

theorem cancels_ne (differs : kind ≠ cancelled) : desk.cancels cancelled requestId = [] := by
  rw [cancels, pending, if_neg]
  exact fun same => differs (Option.some.inj same)

theorem orphans_of_endures
    (endures : kind.endures = true) (handle : Nat) : desk.orphans handle requestId = [] := by
  unfold orphans
  rw [pending]
  cases kind with
  | ack => cases endures
  | _ => rfl

theorem replyChanges_of_spared {frame : ReplyFrame} (endures : kind.endures = true)
    (spared : desk.addressed (.reply frame) ≠ some requestId) :
    desk.replyChanges requestId frame = [] := by
  have elsewhere {named : Nat} (changes : List TicketChange) (other : some named ≠ some requestId) :
      changesAt named requestId changes = [] :=
    changesAt_ne (fun same => other (congrArg some same.symm)) changes
  cases frame with
  | producerSuccess | newTxnResponse => exact elsewhere _ spared
  | success =>
    simp only [replyChanges]
    split
    · rfl
    · unfold successChanges
      have unsubscribed (handle : Nat) : desk.cancels (.consumerSubscribe handle) requestId = [] := by
        apply cancels_ne pending
        rintro rfl
        cases endures
      split <;> simp [elsewhere _ spared, unsubscribed, orphans_of_endures pending endures]
  | error =>
    simp only [replyChanges]
    split
    · rfl
    · unfold errorChanges
      split <;> exact elsewhere _ spared
  | ackResponse answered =>
    cases answered with
    | none => rfl
    | some =>
      simp only [replyChanges]
      split
      · exact elsewhere _ spared
      · rfl
  | lookupResponse | partitionedMetadataResponse =>
    simp only [replyChanges]
    simp only [addressed] at spared
    split
    · rfl
    case h_2 found =>
      rw [found] at spared
      exact elsewhere _ spared
  | getSchemaResponse answered =>
    simp only [replyChanges]
    by_cases asked : (desk.ticket answered).kind = some .getSchema
    · rw [if_pos asked]
      apply changesAt_ne
      rintro rfl
      rw [pending] at asked
      cases asked
      cases endures
    · rw [if_neg asked]
  | _ => exact elsewhere _ spared

end

/-- What is pending stays so, unless the operation addresses it or the session ends. -/
theorem pending_after (goesOn : op.goesOn = true)
    (pending : (desk.ticket requestId).kind = some kind) (endures : kind.endures = true)
    (differs : requestId ≠ desk.nextRequestId) (spared : desk.addressed op ≠ some requestId) :
    ((desk.step op).ticket requestId).kind = some kind := by
  rw [ticket_step, ← pending]
  apply Ticket.kind_foldl_of_idle
  have still {changes : List TicketChange} (empty : changes = []) :
      ∀ change ∈ changes, ∀ pending, change.kindAfter pending = pending := by
    rw [empty]
    simp
  have unsent (sent : RequestKind) := desk.issues_ne differs sent
  have idle (named : Nat) {only : TicketChange}
      (keeps : ∀ pending, only.kindAfter pending = pending) :
      ∀ change ∈ changesAt named requestId [only], ∀ pending,
        change.kindAfter pending = pending := by
    intro change member
    rw [eq_of_mem_changesAt member]
    exact keeps
  have uncancelled {cancelled : RequestKind} (short : cancelled.endures = false) :
      desk.cancels cancelled requestId = [] := by
    apply cancels_ne pending
    rintro rfl
    rw [endures] at short
    cases short
  cases op with
  | lookupTopic | lookupRedirect | getPartitionedTopicMetadata =>
    exact still (changesAt_ne differs _)
  | ack =>
    apply still
    simp only [changes]
    split
    · exact changesAt_ne differs _
    · exact unsent _
  | cancelProducerOpen =>
    apply still
    simp only [changes, unsent, ite_self, List.nil_append]
    exact uncancelled rfl
  | expireProducerOpen =>
    apply still
    simp only [changes]
    split
    case h_1 handle expiring =>
      apply changesAt_ne
      rintro rfl
      rw [pending] at expiring
      cases expiring
      cases endures
    case h_2 => rfl
  | endTxn =>
    apply still
    simp only [changes]
    split
    · rfl
    · exact unsent _
  | releaseEndTxnWaiter => exact still rfl
  | registerWaker | unregisterWaker | takeOutcome => exact idle _ fun _ => rfl
  | cancelRequest =>
    apply still
    exact changesAt_ne (fun same => spared (congrArg some same.symm)) _
  | cancelConsumerSubscribe =>
    apply still
    simp only [changes, cancelSubscribeChanges, unsent, ite_self, List.nil_append]
    exact uncancelled rfl
  | closeConsumer | forceCloseConsumerForget | unsubscribe =>
    apply still
    simp [changes, unsent]
  | handleTimeout =>
    apply still
    simp only [changes, timeoutChanges, pending]
    split
    case h_1 expiring =>
      cases expiring
      cases endures
    case h_2 => rfl
  | closeConsumerFrame handle url =>
    cases url with
    | none => exact still (orphans_of_endures pending endures handle)
    | some => exact still rfl
  | reply => exact still (replyChanges_of_spared pending endures spared)
  | reset | failAllPending => cases goesOn
  | _ => exact still (unsent _)

end Spared

end RequestDesk

end Magnetar.Proto.Connection
