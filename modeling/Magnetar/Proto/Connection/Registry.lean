import Magnetar.Proto.Connection.Requests

/-!
Contract: the registry of lookups under the operations of a connection.

Owns: the registry after each operation, and that every lookup in it answers its own request.

Does not own: whether an entry of the registry belongs to a request that is still pending
(`Connection.LookupSlots`).
-/

namespace Magnetar.Proto.Connection

open Library Lookup

variable (desk : RequestDesk)

variable (cancelled : List Nat)

variable (handle : Nat) {registry : LookupRegistry}

namespace RequestDesk

/-- The entries of the cancelled requests are given back. -/
def releaseLookups (registry : LookupRegistry) (cancelled : List Nat) : LookupRegistry :=
  cancelled.foldl (fun kept requestId => (kept.takeLookup requestId).takePartition requestId)
    registry

/-- The subscribe requests that the answer to an unsubscribe cancels. -/
def cancelledBySuccess (answered : Nat) : List Nat :=
  match (desk.ticket answered).kind with
  | some (.consumerUnsubscribe handle) =>
    if desk.unsubscribeIsCurrent handle answered then
      (desk.forget answered).pendingOf (.consumerSubscribe handle)
    else []
  | _ => []

def registryAfter : DeskOp → LookupRegistry
  | .lookupTopic topic authoritative _ =>
    (desk.lookup.insertLookup desk.nextRequestId
      { topic, authoritative, hopsRemaining := maxLookupRedirects,
        chainOrigin := desk.nextRequestId }).getD desk.lookup
  | .lookupRedirect topic authoritative hopsRemaining _ =>
    (desk.lookup.insertLookup desk.nextRequestId
      { topic, authoritative, hopsRemaining := min hopsRemaining maxLookupRedirects,
        chainOrigin := desk.nextRequestId }).getD desk.lookup
  | .getPartitionedTopicMetadata topic =>
    if isPartitionTopic topic then desk.lookup
    else (desk.lookup.insertPartition desk.nextRequestId).getD desk.lookup
  | .cancelRequest requestId => releaseLookups desk.lookup [requestId]
  | .cancelProducerOpen handle _ =>
    releaseLookups desk.lookup (desk.pendingOf (.producerOpen handle))
  | .cancelConsumerSubscribe handle _ =>
    releaseLookups desk.lookup (desk.pendingOf (.consumerSubscribe handle))
  | .reply (.success answered) =>
    releaseLookups desk.lookup (desk.cancelledBySuccess answered)
  | .reply (.lookupResponse answered _) =>
    if (desk.lookup.lookups.lookup answered).isSome then desk.lookup.takeLookup answered
    else desk.lookup
  | .reply (.partitionedMetadataResponse answered _ _ _) =>
    if (desk.lookup.partitions.lookup answered).isSome then desk.lookup.takePartition answered
    else desk.lookup
  | .reset => { maxPending := desk.lookup.maxPending }
  | _ => desk.lookup

theorem lookup_cancelRequest (requestId : Nat) :
    (desk.cancelRequest requestId).lookup = releaseLookups desk.lookup [requestId] := by
  unfold cancelRequest
  dsimp only
  split <;> rfl

theorem lookup_foldl_cancelRequest (desk : RequestDesk) :
    (cancelled.foldl cancelRequest desk).lookup = releaseLookups desk.lookup cancelled := by
  induction cancelled generalizing desk with
  | nil => rfl
  | cons _ _ ih =>
    rw [List.foldl_cons, ih, lookup_cancelRequest]
    rfl

theorem lookup_cancelConsumerSubscribe (completed : Bool) :
    (desk.cancelConsumerSubscribe handle completed).lookup =
      releaseLookups desk.lookup (desk.pendingOf (.consumerSubscribe handle)) := by
  change (List.foldl cancelRequest _ _).lookup = _
  rw [lookup_foldl_cancelRequest]
  split <;> rfl

theorem lookup_endRequests (outcome : RequestOutcome) :
    (desk.endRequests outcome).lookup = desk.lookup := by
  have kept : ∀ (recorded : List Nat) (start : RequestDesk),
      (recorded.foldl (fun desk named => desk.record named outcome) start).lookup =
        start.lookup := by
    intro recorded
    induction recorded with
    | nil => exact fun _ => rfl
    | cons _ _ ih => exact fun start => ih _
  exact kept _ _

theorem lookup_handleSuccess (answered : Nat) :
    (desk.handleSuccess answered).lookup =
      releaseLookups desk.lookup (desk.cancelledBySuccess answered) := by
  unfold handleSuccess cancelledBySuccess
  cases pending : (desk.ticket answered).kind with
  | none => rfl
  | some kind =>
    cases kind with
    | consumerUnsubscribe handle =>
      have current : (desk.forget answered).unsubscribeIsCurrent handle answered =
        desk.unsubscribeIsCurrent handle answered := rfl
      simp only [publishConsumerUnsubscribe, current]
      cases desk.unsubscribeIsCurrent handle answered with
      | false => rfl
      | true => exact lookup_cancelConsumerSubscribe _ handle false
    | _ => rfl

theorem lookup_handleReply (frame : ReplyFrame) :
    (desk.handleReply frame).lookup = desk.registryAfter (.reply frame) := by
  cases frame with
  | success answered => exact desk.lookup_handleSuccess answered
  | error answered _ _ provisional =>
    simp only [handleReply, handleError, registryAfter]
    cases (desk.ticket answered).kind with
    | none => rfl
    | some kind =>
      cases kind with
      | consumerUnsubscribe =>
        dsimp only [publishConsumerUnsubscribe]
        split <;> rfl
      | consumerSubscribe => cases provisional <;> rfl
      | _ => rfl
  | ackResponse answered =>
    cases answered with
    | none => rfl
    | some =>
      simp only [handleReply, handleAckResponse, registryAfter]
      split <;> rfl
  | lookupResponse answered =>
    simp only [handleReply, handleLookupResponse, registryAfter]
    cases desk.lookup.lookups.lookup answered <;> rfl
  | partitionedMetadataResponse answered =>
    simp only [handleReply, handlePartitionedMetadataResponse, registryAfter]
    cases desk.lookup.partitions.lookup answered <;> rfl
  | newTxnResponse | getSchemaResponse =>
    simp only [handleReply, handleNewTxnResponse, handleGetSchemaResponse, registryAfter]
    split <;> rfl
  | _ => rfl

theorem lookup_lookupWithBudget (topic : String) (authoritative : Bool)
    (hopsRemaining : Nat) (encodes : Bool) :
    (desk.lookupWithBudget topic authoritative hopsRemaining encodes).lookup =
      (desk.lookup.insertLookup desk.nextRequestId
        { topic, authoritative, hopsRemaining, chainOrigin := desk.nextRequestId }).getD
        desk.lookup := by
  have registry : desk.allocRequestId.lookup = desk.lookup := rfl
  unfold lookupWithBudget
  simp only [registry]
  cases desk.lookup.insertLookup desk.nextRequestId
      { topic, authoritative, hopsRemaining, chainOrigin := desk.nextRequestId } with
  | none => rfl
  | some registry => cases encodes <;> rfl

theorem closeConsumer_rest (origin : CloseOrigin) :
    (desk.closeConsumer handle origin).1.unsubscribes = desk.unsubscribes ∧
      (desk.closeConsumer handle origin).1.lookup = desk.lookup := by
  unfold closeConsumer
  split
  · exact ⟨rfl, rfl⟩
  · split
    · exact ⟨rfl, rfl⟩
    · split <;> exact ⟨rfl, rfl⟩

theorem lookup_unsubscribe : (desk.unsubscribe handle).1.lookup = desk.lookup := by
  unfold unsubscribe
  split
  · rfl
  · split
    · rfl
    · split <;> rfl

theorem forceCloseConsumerForget_rest :
    (desk.forceCloseConsumerForget handle).unsubscribes = desk.unsubscribes ∧
      (desk.forceCloseConsumerForget handle).lookup = desk.lookup := by
  unfold forceCloseConsumerForget
  split
  · exact ⟨rfl, rfl⟩
  · split
    · exact ⟨rfl, rfl⟩
    · split
      · exact ⟨rfl, rfl⟩
      · split <;> exact ⟨rfl, rfl⟩
      · exact ⟨rfl, rfl⟩

/-- What an operation of the connection leaves in the registry. -/
theorem lookup_step (op : DeskOp) : (desk.step op).lookup = desk.registryAfter op := by
  cases op with
  | lookupTopic | lookupRedirect => exact desk.lookup_lookupWithBudget _ _ _ _
  | getPartitionedTopicMetadata topic =>
    have registry : desk.allocRequestId.lookup = desk.lookup := rfl
    simp only [step, getPartitionedTopicMetadata, registryAfter, registry]
    cases isPartitionTopic topic with
    | true => rfl
    | false => cases desk.lookup.insertPartition desk.nextRequestId <;> rfl
  | cancelProducerOpen _ mayHold =>
    simp only [step, cancelProducerOpen, registryAfter]
    rw [lookup_foldl_cancelRequest]
    cases mayHold <;> rfl
  | ack | expireProducerOpen | releaseEndTxnWaiter | handleTimeout =>
    simp only [step, ack, expireProducerOpen, releaseEndTxnWaiter, handleTimeout, registryAfter]
    split <;> rfl
  | endTxn | takeOutcome =>
    simp only [step, endTxn, takeOutcome, registryAfter]
    split
    · rfl
    · split <;> rfl
  | cancelRequest requestId => exact desk.lookup_cancelRequest requestId
  | cancelConsumerSubscribe => exact desk.lookup_cancelConsumerSubscribe _ _
  | closeConsumer => exact (desk.closeConsumer_rest _ _).2
  | forceCloseConsumerForget handle => exact (desk.forceCloseConsumerForget_rest handle).2
  | unsubscribe handle => exact desk.lookup_unsubscribe handle
  | closeConsumerFrame _ url => cases url <;> rfl
  | reply frame => exact desk.lookup_handleReply frame
  | failAllPending => exact desk.lookup_endRequests _
  | _ => rfl

/-! ### The entries of the registry -/

theorem lookups_releaseLookups (registry : LookupRegistry) (requestId : Nat) :
    (releaseLookups registry cancelled).lookups.lookup requestId =
      if requestId ∈ cancelled then none else registry.lookups.lookup requestId := by
  rw [← Table.lookup_foldl_erase]
  congr 1
  induction cancelled generalizing registry with
  | nil => rfl
  | cons _ _ ih => exact ih _

theorem partitions_releaseLookups (registry : LookupRegistry) (requestId : Nat) :
    (releaseLookups registry cancelled).partitions.lookup requestId =
      if requestId ∈ cancelled then none else registry.partitions.lookup requestId := by
  rw [← Table.lookup_foldl_erase]
  congr 1
  induction cancelled generalizing registry with
  | nil => rfl
  | cons _ _ ih => exact ih _

/-- Every lookup of the registry answers its own request. -/
def Anchored : Prop :=
  ∀ requestId request, desk.lookup.lookups.lookup requestId = some request →
    request.chainOrigin = requestId

section

variable (anchored : ∀ requestId request, registry.lookups.lookup requestId = some request →
  request.chainOrigin = requestId)

include anchored

theorem Anchored.insertLookup {requestId named : Nat}
    {request : LookupRequest} {found : LookupRequest}
    (member : ((registry.insertLookup named request).getD registry).lookups.lookup requestId =
      some found)
    (origin : request.chainOrigin = named) : found.chainOrigin = requestId := by
  unfold LookupRegistry.insertLookup at member
  cases room : registry.hasCapacity with
  | false =>
    rw [room] at member
    exact anchored requestId found member
  | true =>
    rw [room] at member
    by_cases same : requestId = named
    · subst same
      rw [show request = found by simpa using member] at origin
      exact origin
    · apply anchored requestId found
      rw [← AList.lookup_insert_ne same]
      exact member

theorem Anchored.releaseLookups {cancelled : List Nat} {requestId : Nat} {found : LookupRequest}
    (member : (releaseLookups registry cancelled).lookups.lookup requestId = some found) :
    found.chainOrigin = requestId := by
  rw [lookups_releaseLookups] at member
  split at member
  · exact absurd member (by simp)
  · exact anchored requestId found member

end

theorem Anchored.step {desk : RequestDesk} (anchored : desk.Anchored) (op : DeskOp) :
    (desk.step op).Anchored := by
  intro requestId found member
  rw [lookup_step] at member
  cases op with
  | lookupTopic | lookupRedirect =>
    exact Anchored.insertLookup anchored member rfl
  | getPartitionedTopicMetadata topic =>
    apply anchored requestId found
    rw [← member]
    simp only [registryAfter, LookupRegistry.insertPartition]
    cases isPartitionTopic topic with
    | true => rfl
    | false => cases desk.lookup.hasCapacity <;> rfl
  | cancelRequest | cancelProducerOpen | cancelConsumerSubscribe =>
    exact Anchored.releaseLookups anchored member
  | reset => simp [registryAfter] at member
  | reply frame =>
    cases frame with
    | success => exact Anchored.releaseLookups anchored member
    | lookupResponse answered =>
      apply anchored requestId found
      simp only [registryAfter] at member
      split at member
      · by_cases same : requestId = answered
        · subst same
          simp [LookupRegistry.takeLookup] at member
        · rw [← AList.lookup_erase_ne same]
          exact member
      · exact member
    | partitionedMetadataResponse =>
      apply anchored requestId found
      rw [← member]
      simp only [registryAfter]
      split <;> rfl
    | _ => exact anchored requestId found member
  | _ => exact anchored requestId found member

end RequestDesk

end Magnetar.Proto.Connection
