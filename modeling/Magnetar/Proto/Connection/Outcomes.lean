import Magnetar.Proto.Connection.Registry
import Magnetar.Proto.Connection.Tickets

/-!
Contract: which requests get an outcome.

Owns: the books of one request id (each time it is handed out covers at most one outcome and at most
one request that is not collected), the replies that find what they answer still pending, and the
account of the outcome table over every run of such replies.

Does not own: what an outcome says, and the events that come with it.

Six replies (last message id, topic list, transaction coordinator, and the three that change a
transaction) store their outcome without asking for the request, a new transaction and a lookup ask
a table that a cancellation or an error leaves behind, and the end of a session answers whatever a
waker or the registry of lookups still names.
-/

namespace Magnetar.Proto.Connection

open Library Lookup Txn

variable {answered : Nat} {desk : RequestDesk} {ticket : Ticket}

/-- The change stores no outcome, whatever it finds. -/
def TicketChange.isQuiet : TicketChange → Bool
  | .answer _ => false
  | .refuse _ => false
  | .settle _ => false
  | .record _ => false
  | .expireAck _ => false
  | .endSession _ => false
  | _ => true

namespace Ticket

/-! ### One request id -/

/-- The books of one id: each time it is handed out covers at most one outcome, and at most one
request that is pending or to be collected. -/
structure Accounted (ticket : Ticket) : Prop where
  storedOnce : ticket.stored + ticket.kind.isSome.toNat ≤ ticket.issued
  uncollected :
    ticket.collected + ticket.outcome.isSome.toNat + ticket.kind.isSome.toNat ≤ ticket.issued

/-- A change that ends a request finds it pending, or finds the outcome there already. -/
def Solicited (ticket : Ticket) : TicketChange → Prop
  | .settle _ => ticket.kind.isSome
  | .record outcome => ticket.outcome = some outcome
  | .expireAck _ => ticket.kind.isSome
  | .endSession _ => ticket.parked → ticket.kind.isSome
  | _ => True

theorem stored_le_store (ticket : Ticket) (outcome : RequestOutcome) :
    (ticket.store outcome).stored ≤ ticket.stored + 1 := by
  simp only [store]
  split <;> omega

theorem Accounted.forget (accounted : ticket.Accounted) : ticket.forget.Accounted := by
  obtain ⟨storedOnce, uncollected⟩ := accounted
  constructor
  · change ticket.stored + 0 ≤ ticket.issued
    omega
  · change ticket.collected + ticket.outcome.isSome.toNat + 0 ≤ ticket.issued
    omega

/-- The pending request makes room for the outcome. -/
theorem Accounted.settle (accounted : ticket.Accounted)
    (pending : ticket.kind.isSome = true) (outcome : RequestOutcome) :
    (ticket.forget.record outcome).Accounted := by
  obtain ⟨storedOnce, uncollected⟩ := accounted
  rw [pending, Bool.toNat_true] at storedOnce uncollected
  constructor
  · have once := ticket.forget.stored_le_store outcome
    change (ticket.forget.store outcome).stored + 0 ≤ ticket.issued
    change _ ≤ ticket.stored + 1 at once
    omega
  · change ticket.collected + 1 + 0 ≤ ticket.issued
    omega

theorem Accounted.expireAck (accounted : ticket.Accounted)
    (pending : ticket.kind.isSome = true) (message : String) :
    (ticket.expireAck message).Accounted := by
  unfold Ticket.expireAck
  split
  · exact accounted.settle pending _
  · exact accounted.forget

theorem Accounted.endSession (accounted : ticket.Accounted)
    (awaited : ticket.parked = true → ticket.kind.isSome = true) (outcome : RequestOutcome) :
    ((ticket.endPending outcome).endParked outcome).Accounted := by
  unfold endPending
  cases pending : ticket.kind with
  | none =>
    have idle : ticket.parked = false := by
      simpa [pending] using awaited
    simpa [endParked, idle] using accounted
  | some =>
    have settled := accounted.settle (by rw [pending]; rfl) outcome
    dsimp only
    split
    · exact ⟨accounted.forget.storedOnce, accounted.forget.uncollected⟩
    · split
      · -- nobody is told through the table, unless a waker is parked all the same
        unfold endParked
        split
        · exact settled
        · exact accounted.forget
      · exact settled

/-- What a solicited change does to the books of its id. -/
theorem Accounted.apply {change : TicketChange} (accounted : ticket.Accounted)
    (solicited : ticket.Solicited change) : (ticket.apply change).Accounted := by
  obtain ⟨storedOnce, uncollected⟩ := id accounted
  cases change with
  | issue =>
    constructor
    · change ticket.stored + 1 ≤ ticket.issued + 1
      omega
    · change ticket.collected + ticket.outcome.isSome.toNat + 1 ≤ ticket.issued + 1
      omega
  | grant =>
    constructor
    · change ticket.stored + ticket.kind.isSome.toNat ≤ ticket.issued + 1
      omega
    · change ticket.collected + ticket.outcome.isSome.toNat + ticket.kind.isSome.toNat ≤
        ticket.issued + 1
      omega
  | answer outcome =>
    have once := ticket.hand.forget.stored_le_store outcome
    constructor
    · change (ticket.hand.forget.store outcome).stored + 0 ≤ ticket.issued + 1
      change _ ≤ ticket.stored + 1 at once
      omega
    · change ticket.collected + 1 + 0 ≤ ticket.issued + 1
      omega
  | refuse outcome =>
    have once := ticket.hand.stored_le_store outcome
    constructor
    · change (ticket.hand.store outcome).stored + ticket.kind.isSome.toNat ≤ ticket.issued + 1
      change _ ≤ ticket.stored + 1 at once
      omega
    · change ticket.collected + 1 + ticket.kind.isSome.toNat ≤ ticket.issued + 1
      omega
  | settle outcome => exact accounted.settle solicited outcome
  | record outcome =>
    have same : ticket.record outcome = ticket.unpark := by
      simp only [Solicited] at solicited
      simp [record, store, unpark, solicited]
    change (ticket.record outcome).Accounted
    rw [same]
    exact ⟨storedOnce, uncollected⟩
  | forget => exact accounted.forget
  | cancel =>
    constructor
    · change ticket.stored + 0 ≤ ticket.issued
      omega
    · simp only [Ticket.apply, cancel]
      cases pending : ticket.kind.isSome <;> cases kept : ticket.outcome.isSome <;>
        simp [pending, kept] at uncollected ⊢ <;> omega
  | take =>
    constructor
    · exact storedOnce
    · simp only [Ticket.apply, take]
      cases kept : ticket.outcome.isSome <;> simp [kept] at uncollected ⊢ <;> omega
  | park =>
    change ticket.park.Accounted
    unfold park
    split
    · exact accounted
    · exact ⟨storedOnce, uncollected⟩
  | unpark => exact ⟨storedOnce, uncollected⟩
  | expireAck message => exact accounted.expireAck solicited message
  | endSession outcome => exact accounted.endSession solicited outcome

theorem stored_apply_of_isQuiet {change : TicketChange}
    (quiet : change.isQuiet = true) : (ticket.apply change).stored = ticket.stored := by
  cases change with
  | park =>
    change ticket.park.stored = ticket.stored
    unfold park
    split <;> rfl
  | answer | refuse | settle | record | expireAck | endSession => cases quiet
  | _ => rfl

/-- The changes of one operation to one id: each is solicited, and an outcome is stored only where
the request was pending, or where the operation answers at once. -/
structure Orderly (ticket : Ticket) (changes : List TicketChange) (atOnce : Prop) : Prop where
  solicited : Machine.Guarded Ticket.apply Solicited ticket changes
  wasPending : (changes.foldl Ticket.apply ticket).stored = ticket.stored ∨
    ticket.kind.isSome = true ∨ atOnce

section Orderly

variable {ticket : Ticket} {changes : List TicketChange} {atOnce : Prop}

theorem orderly_of_isQuiet (quiet : ∀ change ∈ changes, change.isQuiet = true) :
    ticket.Orderly changes atOnce := by
  suffices both : Machine.Guarded Ticket.apply Solicited ticket changes ∧
      (changes.foldl Ticket.apply ticket).stored = ticket.stored from ⟨both.1, .inl both.2⟩
  induction changes generalizing ticket with
  | nil => exact ⟨trivial, rfl⟩
  | cons change _ ih =>
    have first : change.isQuiet = true := quiet change List.mem_cons_self
    have remaining := @ih (ticket.apply change)
      fun later member => quiet later (List.mem_cons_of_mem _ member)
    refine ⟨⟨?_, remaining.1⟩, ?_⟩
    · cases change <;> trivial
    · rw [List.foldl_cons, remaining.2, stored_apply_of_isQuiet first]

theorem orderly_of_pending (pending : ticket.kind.isSome = true)
    (solicited : Machine.Guarded Ticket.apply Solicited ticket changes) :
    ticket.Orderly changes atOnce :=
  ⟨solicited, .inr (.inl pending)⟩

theorem orderly_settle (pending : ticket.kind.isSome = true) (outcome : RequestOutcome) :
    ticket.Orderly [.settle outcome] atOnce :=
  orderly_of_pending pending ⟨pending, trivial⟩

theorem orderly_expireAck (pending : ticket.kind.isSome = true) (message : String) :
    ticket.Orderly [.expireAck message] atOnce :=
  orderly_of_pending pending ⟨pending, trivial⟩

/-- Storing what is there already. -/
theorem guarded_replicate_record {outcome : RequestOutcome} (kept : ticket.outcome = some outcome)
    (count : Nat) :
    Machine.Guarded Ticket.apply Solicited ticket (List.replicate count (.record outcome)) := by
  induction count generalizing ticket with
  | zero => trivial
  | succ _ ih => exact ⟨kept, ih rfl⟩

theorem orderly_changesAt {named requestId : Nat}
    (orderly : named = requestId → ticket.Orderly changes atOnce) :
    ticket.Orderly (RequestDesk.changesAt named requestId changes) atOnce := by
  unfold RequestDesk.changesAt
  split
  · exact orderly ‹_›
  · exact orderly_of_isQuiet (by simp)

end Orderly

end Ticket

variable {frame : ReplyFrame}

namespace RequestDesk

/-! ### The replies that find their request -/

variable (desk)

/-- The reply finds its request pending: the six that do not ask, and those that ask a table which
may have outlived the request. -/
def isSolicitedReply : ReplyFrame → Bool
  | .lookupResponse answered _ =>
    (desk.lookup.lookups.lookup answered).isNone || (desk.ticket answered).kind.isSome
  | .partitionedMetadataResponse answered _ _ _ =>
    (desk.lookup.partitions.lookup answered).isNone || (desk.ticket answered).kind.isSome
  | .getLastMessageIdResponse answered _ _ => (desk.ticket answered).kind.isSome
  | .watchTopicListSuccess answered _ => (desk.ticket answered).kind.isSome
  | .newTxnResponse answered _ _ =>
    (desk.txnClient.newTxnByRequest.lookup answered).isNone ||
      (desk.ticket answered).kind.isSome
  | .addPartitionToTxnResponse answered _ => (desk.ticket answered).kind.isSome
  | .addSubscriptionToTxnResponse answered _ => (desk.ticket answered).kind.isSome
  | .endTxnResponse answered _ => (desk.ticket answered).kind.isSome
  | .tcClientConnectResponse answered _ => (desk.ticket answered).kind.isSome
  | _ => true

/-- Every parked waker waits for a pending request, and every entry of the registry belongs to a
pending request whose outcome goes through the table. -/
def isTidy : Bool :=
  (desk.tickets.keys.all fun requestId =>
    !(desk.ticket requestId).parked || (desk.ticket requestId).kind.isSome) &&
  (desk.lookup.lookups.keys ++ desk.lookup.partitions.keys).all fun requestId =>
    (desk.ticket requestId).kind.any fun kind => !kind.endsUnanswered

def isSolicited : DeskOp → Bool
  | .reply frame => desk.isSolicitedReply frame
  | .reset => desk.isTidy
  | .failAllPending _ => desk.isTidy
  | _ => true

/-- The call stores the outcome of the request it has just numbered: the registry is full, the topic
is a partition, or the acknowledgement is refused. -/
def answersAtOnce : DeskOp → Bool
  | .lookupTopic _ _ _ => !desk.lookup.hasCapacity
  | .lookupRedirect _ _ _ _ => !desk.lookup.hasCapacity
  | .getPartitionedTopicMetadata topic => isPartitionTopic topic || !desk.lookup.hasCapacity
  | .ack _ request _ => isRefused request
  | _ => false

variable {desk}

section Orderly

variable {desk : RequestDesk} {requestId : Nat} {atOnce : Prop}

theorem orderly_issues (kind : RequestKind) :
    (desk.ticket requestId).Orderly (desk.issues kind requestId) atOnce := by
  apply Ticket.orderly_changesAt
  exact fun _ => Ticket.orderly_of_isQuiet (by simp [TicketChange.isQuiet])

theorem orderly_cancelSubscribe (handle : Nat) (completed : Bool) :
    (desk.ticket requestId).Orderly (desk.cancelSubscribeChanges handle completed requestId)
      atOnce := by
  apply Ticket.orderly_of_isQuiet
  intro change member
  rcases List.mem_append.mp member with issued | cancelled
  · split at issued
    · rw [eq_of_mem_changesAt issued]
      rfl
    · cases issued
  · rw [eq_cancel_of_mem_cancels cancelled]
    rfl

theorem orderly_orphans (handle : Nat) :
    (desk.ticket requestId).Orderly (desk.orphans handle requestId) atOnce := by
  unfold orphans
  split
  case h_1 named _ pending =>
    split
    · exact Ticket.orderly_expireAck (by rw [pending]; rfl) _
    · exact Ticket.orderly_of_isQuiet (by simp)
  case h_2 => exact Ticket.orderly_of_isQuiet (by simp)

theorem orderly_timeout (now : Nat) :
    (desk.ticket requestId).Orderly (desk.timeoutChanges now requestId) atOnce := by
  unfold timeoutChanges
  split
  case h_1 _ pending =>
    split
    · exact Ticket.orderly_expireAck (by rw [pending]; rfl) _
    · exact Ticket.orderly_of_isQuiet (by simp)
  case h_2 => exact Ticket.orderly_of_isQuiet (by simp)

theorem orderly_forget (answered : Nat) :
    (desk.ticket requestId).Orderly (changesAt answered requestId [.forget]) atOnce := by
  apply Ticket.orderly_changesAt
  exact fun _ => Ticket.orderly_of_isQuiet (by simp [TicketChange.isQuiet])

theorem orderly_settleAt (pending : (desk.ticket answered).kind.isSome = true)
    (outcome : RequestOutcome) :
    (desk.ticket requestId).Orderly (changesAt answered requestId [.settle outcome]) atOnce := by
  apply Ticket.orderly_changesAt
  rintro rfl
  exact Ticket.orderly_settle pending outcome

theorem orderly_success {kind : RequestKind} (pending : (desk.ticket answered).kind = some kind) :
    (desk.ticket requestId).Orderly (desk.successChanges answered kind requestId) atOnce := by
  have settled : (desk.ticket requestId).Orderly (changesAt answered requestId [.settle .success])
      atOnce := orderly_settleAt (by rw [pending]; rfl) .success
  cases kind with
  | consumerUnsubscribe =>
    apply Ticket.orderly_of_isQuiet
    intro change member
    rcases List.mem_append.mp member with forgotten | cancelled
    · rw [eq_of_mem_changesAt forgotten]
      rfl
    · split at cancelled
      · rw [eq_cancel_of_mem_cancels cancelled]
        rfl
      · cases cancelled
  | consumerCloseForReattach handle =>
    simp only [successChanges]
    by_cases same : answered = requestId
    · subst same
      have orphaned : desk.orphans handle answered = [] := by
        simp [orphans, pending]
      rw [orphaned, List.append_nil]
      exact orderly_forget answered
    · rw [changesAt, if_neg same, List.nil_append]
      exact orderly_orphans handle
  | consumerClose | consumerCloseForgotten | producerCloseForgotten | consumerSubscribe =>
    exact orderly_forget answered
  | _ => exact settled

theorem orderly_error {kind : RequestKind}
    (pending : (desk.ticket answered).kind = some kind) (code : Int) (message : String) :
    (desk.ticket requestId).Orderly (errorChanges answered kind code message requestId)
      atOnce := by
  have settled : (desk.ticket requestId).Orderly
      (changesAt answered requestId [.settle (.error code message)]) atOnce :=
    orderly_settleAt (by rw [pending]; rfl) (.error code message)
  cases kind with
  | consumerUnsubscribe | consumerClose | consumerCloseForgotten | consumerCloseForReattach
  | producerCloseForgotten | producerOpen | consumerSubscribe => exact orderly_forget answered
  | _ => exact settled

theorem orderly_reply (anchored : desk.Anchored) (solicited : desk.isSolicitedReply frame = true) :
    (desk.ticket requestId).Orderly (desk.replyChanges requestId frame) atOnce := by
  have idle : (desk.ticket requestId).Orderly [] atOnce := Ticket.orderly_of_isQuiet (by simp)
  cases frame with
  | producerSuccess answered => exact orderly_forget answered
  | success answered =>
    simp only [replyChanges]
    cases pending : (desk.ticket answered).kind with
    | none => exact idle
    | some => exact orderly_success pending
  | error answered code message =>
    simp only [replyChanges]
    cases pending : (desk.ticket answered).kind with
    | none => exact idle
    | some => exact orderly_error pending code message
  | ackResponse answered =>
    cases answered with
    | none => exact idle
    | some =>
      simp only [replyChanges]
      split
      · exact orderly_settleAt ‹_› _
      · exact idle
  | lookupResponse answered =>
    simp only [replyChanges]
    cases found : desk.lookup.lookups.lookup answered with
    | none => exact idle
    | some request =>
      simp only [isSolicitedReply, found, Option.isNone_some, Bool.false_or] at solicited
      dsimp only
      rw [anchored answered request found]
      exact orderly_settleAt solicited _
  | partitionedMetadataResponse answered =>
    simp only [replyChanges]
    cases found : desk.lookup.partitions.lookup answered with
    | none => exact idle
    | some =>
      simp only [isSolicitedReply, found, Option.isNone_some, Bool.false_or] at solicited
      exact orderly_settleAt solicited _
  | newTxnResponse answered reply =>
    simp only [replyChanges, TxnClient.handleNewTxnResponse]
    cases found : desk.txnClient.newTxnByRequest.lookup answered with
    | none => exact orderly_forget answered
    | some =>
      simp only [isSolicitedReply, found, Option.isNone_some, Bool.false_or] at solicited
      cases reply.failure with
      | none | some => exact orderly_settleAt solicited _
  | getSchemaResponse =>
    simp only [replyChanges]
    split
    · apply orderly_settleAt
      simp [*]
    · exact idle
  | getLastMessageIdResponse | watchTopicListSuccess | addPartitionToTxnResponse
  | addSubscriptionToTxnResponse | endTxnResponse | tcClientConnectResponse =>
    exact orderly_settleAt solicited _

theorem awaited_of_isTidy (tidy : desk.isTidy = true) (requestId : Nat)
    (parked : (desk.ticket requestId).parked = true) :
    (desk.ticket requestId).kind.isSome = true := by
  by_cases member : requestId ∈ desk.tickets.keys
  · have waiting := List.all_eq_true.mp (Bool.and_eq_true_iff.mp tidy).1 requestId member
    simpa [parked] using waiting
  · rw [ticket, AList.lookup_eq_none.mpr member] at parked
    cases parked

theorem answered_of_isTidy (tidy : desk.isTidy = true) {requestId : Nat}
    (held : requestId ∈ desk.lookup.lookups.keys ++ desk.lookup.partitions.keys) :
    ∃ kind, (desk.ticket requestId).kind = some kind ∧ kind.endsUnanswered = false := by
  have waiting := List.all_eq_true.mp (Bool.and_eq_true_iff.mp tidy).2 requestId held
  simpa [Option.any_eq_true] using waiting

theorem orderly_end (tidy : desk.isTidy = true) (outcome : RequestOutcome) :
    (desk.ticket requestId).Orderly (desk.endChanges outcome requestId) atOnce := by
  have awaited := awaited_of_isTidy tidy requestId
  unfold endChanges
  cases pending : (desk.ticket requestId).kind with
  | none =>
    have idle : (desk.ticket requestId).parked = false := by
      simpa [pending] using awaited
    have unheld : requestId ∉ desk.lookup.lookups.keys ++ desk.lookup.partitions.keys := by
      intro held
      obtain ⟨kind, found, _⟩ := answered_of_isTidy tidy held
      rw [pending] at found
      cases found
    rw [List.count_eq_zero_of_not_mem unheld]
    refine ⟨⟨awaited, trivial⟩, .inl ?_⟩
    simp [Ticket.apply, Ticket.endPending, Ticket.endParked, pending, idle]
  | some kind =>
    apply Ticket.orderly_of_pending (by rw [pending]; rfl)
    refine ⟨awaited, ?_⟩
    by_cases held : requestId ∈ desk.lookup.lookups.keys ++ desk.lookup.partitions.keys
    · apply Ticket.guarded_replicate_record
      obtain ⟨named, found, answered⟩ := answered_of_isTidy tidy held
      rw [pending, Option.some.injEq] at found
      subst found
      cases kind <;>
        simp_all [Ticket.apply, Ticket.endPending, Ticket.endParked, Ticket.record, Ticket.store,
          Ticket.unpark, RequestKind.isForgotten, RequestKind.endsUnanswered]
    · rw [List.count_eq_zero_of_not_mem held]
      trivial

theorem orderly_lookup (encodes : Bool) :
    (desk.ticket requestId).Orderly
      (changesAt desk.nextRequestId requestId (desk.lookupChanges encodes))
      ((!desk.lookup.hasCapacity) = true ∧ requestId = desk.nextRequestId) := by
  apply Ticket.orderly_changesAt
  intro named
  unfold lookupChanges
  split
  · split <;> exact Ticket.orderly_of_isQuiet (by simp [TicketChange.isQuiet])
  · exact ⟨⟨trivial, trivial⟩, .inr (.inr ⟨by simp [*], named.symm⟩)⟩

/-- One operation, seen from one id. -/
theorem orderly_step {op : DeskOp} (anchored : desk.Anchored)
    (solicited : desk.isSolicited op = true) :
    (desk.ticket requestId).Orderly (desk.changes requestId op)
      (desk.answersAtOnce op = true ∧ requestId = desk.nextRequestId) := by
  have idle {atOnce : Prop} : (desk.ticket requestId).Orderly [] atOnce :=
    Ticket.orderly_of_isQuiet (by simp)
  have quietAt (named : Nat) {change : TicketChange} (quiet : change.isQuiet = true)
      {atOnce : Prop} :
      (desk.ticket requestId).Orderly (changesAt named requestId [change]) atOnce :=
    Ticket.orderly_changesAt fun _ => Ticket.orderly_of_isQuiet (by simpa using quiet)
  cases op with
  | lookupTopic | lookupRedirect => exact orderly_lookup _
  | getPartitionedTopicMetadata =>
    simp only [changes, metadataChanges, answersAtOnce]
    apply Ticket.orderly_changesAt
    intro named
    split
    · exact ⟨⟨trivial, trivial⟩, .inr (.inr ⟨by simp [*], named.symm⟩)⟩
    · split
      · exact Ticket.orderly_of_isQuiet (by simp [TicketChange.isQuiet])
      · exact ⟨⟨trivial, trivial⟩, .inr (.inr ⟨by simp [*], named.symm⟩)⟩
  | ack =>
    simp only [changes, answersAtOnce]
    split
    · apply Ticket.orderly_changesAt
      intro named
      exact ⟨⟨trivial, trivial⟩, .inr (.inr ⟨by simp [*], named.symm⟩)⟩
    · exact orderly_issues _
  | cancelProducerOpen =>
    apply Ticket.orderly_of_isQuiet
    intro change member
    rcases List.mem_append.mp member with issued | cancelled
    · split at issued
      · rw [eq_of_mem_changesAt issued]
        rfl
      · cases issued
    · rw [eq_cancel_of_mem_cancels cancelled]
      rfl
  | expireProducerOpen expired =>
    simp only [changes]
    split
    · exact quietAt expired rfl
    · exact idle
  | endTxn =>
    simp only [changes]
    split
    · exact idle
    · exact orderly_issues _
  | releaseEndTxnWaiter => exact idle
  | registerWaker | unregisterWaker | takeOutcome | cancelRequest => exact quietAt _ rfl
  | cancelConsumerSubscribe => exact orderly_cancelSubscribe _ _
  | closeConsumer | forceCloseConsumerForget | unsubscribe =>
    simp only [changes]
    split
    · exact orderly_issues _
    · exact idle
  | handleTimeout now => exact orderly_timeout now
  | closeConsumerFrame handle url =>
    cases url with
    | none => exact orderly_orphans handle
    | some => exact idle
  | reply => exact orderly_reply anchored solicited
  | reset | failAllPending => exact orderly_end solicited _
  | _ => exact orderly_issues _

end Orderly

/-! ### Whole runs -/

structure Kept (desk : RequestDesk) : Prop where
  anchored : desk.Anchored
  accounted : ∀ requestId, (desk.ticket requestId).Accounted

theorem fresh_kept (ackResponseTimeout : Option Nat) (maxPending : Nat) :
    (fresh ackResponseTimeout maxPending).Kept := by
  constructor
  · intro requestId request found
    simp [fresh] at found
  · intro requestId
    constructor
    · exact Nat.le_refl 0
    · exact Nat.le_refl 0

theorem Kept.step {op : DeskOp} (kept : desk.Kept)
    (solicited : desk.isSolicited op = true) : (desk.step op).Kept := by
  refine ⟨kept.anchored.step op, fun requestId => ?_⟩
  rw [ticket_step]
  exact Machine.run_invariant Ticket.Accounted (fun _ _ => Ticket.Accounted.apply)
    (kept.accounted requestId) (orderly_step kept.anchored solicited).solicited

theorem kept_run {ops : List DeskOp} (kept : desk.Kept)
    (solicited : Machine.Guarded RequestDesk.step (fun desk op => desk.isSolicited op = true)
      desk ops) : (Machine.run RequestDesk.step desk ops).Kept :=
  Machine.run_invariant Kept (fun _ _ => Kept.step) kept solicited

def outcomeCount (desk : RequestDesk) : Nat :=
  desk.tickets.entries.countP fun entry => entry.2.outcome.isSome

/-- The requests that were sent and neither collected nor cancelled. -/
def uncollectedCount (desk : RequestDesk) : Nat :=
  (desk.tickets.entries.map fun entry => entry.2.issued - entry.2.collected).sum

theorem Kept.outcomeCount_le (kept : desk.Kept) : desk.outcomeCount ≤ desk.uncollectedCount := by
  have each : ∀ entry ∈ desk.tickets.entries,
      entry.2.outcome.isSome.toNat ≤ entry.2.issued - entry.2.collected := by
    rintro ⟨requestId, ticket⟩ member
    have accounted := kept.accounted requestId
    rw [RequestDesk.ticket, AList.mem_lookup_iff.mpr member] at accounted
    have room := accounted.uncollected
    simp only [Option.getD_some] at room ⊢
    omega
  unfold outcomeCount uncollectedCount
  generalize desk.tickets.entries = entries at each
  induction entries with
  | nil => exact Nat.le_refl 0
  | cons entry _ ih =>
    have later := ih fun other member => each other (List.mem_cons_of_mem _ member)
    have first := each entry List.mem_cons_self
    cases kept : entry.2.outcome.isSome <;> simp [kept] at first ⊢ <;> omega

section

variable (solicited : desk.isSolicitedReply frame = true) (named : frame.requestId = some answered)
  (ended : (desk.ticket answered).kind = none) (requestId : Nat)

include solicited named ended requestId

/-- A reply to an id that is not pending is read over, or takes the id out of the pending table,
where it is not. -/
theorem replyChanges_of_not_pending :
    desk.replyChanges requestId frame = [] ∨
      desk.replyChanges requestId frame = changesAt answered requestId [.forget] := by
  cases frame with
  | ackResponse =>
    cases named
    simp [replyChanges, ended]
  | newTxnResponse =>
    cases named
    simp only [isSolicitedReply, ended, Option.isSome_none, Bool.or_false,
      Option.isNone_iff_eq_none] at solicited
    simp [replyChanges, TxnClient.handleNewTxnResponse, solicited]
  | _ =>
    cases named
    simp_all [replyChanges, isSolicitedReply]

theorem outcome_reply_of_not_pending :
    ((desk.step (.reply frame)).ticket requestId).outcome =
      (desk.ticket requestId).outcome := by
  rw [ticket_step]
  change ((desk.replyChanges requestId frame).foldl Ticket.apply _).outcome = _
  rcases replyChanges_of_not_pending solicited named ended requestId with none | forgotten
  · rw [none]
    rfl
  · rw [forgotten, changesAt]
    split <;> rfl

end

/-- As long as every reply finds its request, an id gets at most one outcome each time it is handed
out, the table holds no more outcomes than requests are uncollected, an outcome is stored only for
a request that was pending or that the call answers at once, and a reply to an id that is not
pending changes no outcome. -/
theorem outcomes_only_for_pending (ackResponseTimeout : Option Nat) (maxPending : Nat)
    (ops : List DeskOp)
    (solicited : Machine.Guarded RequestDesk.step (fun desk op => desk.isSolicited op = true)
      (fresh ackResponseTimeout maxPending) ops) :
    let desk := Machine.run RequestDesk.step (fresh ackResponseTimeout maxPending) ops
    (∀ requestId, (desk.ticket requestId).stored ≤ (desk.ticket requestId).issued) ∧
    desk.outcomeCount ≤ desk.uncollectedCount ∧
    (∀ op, desk.isSolicited op = true → ∀ requestId,
      ((desk.step op).ticket requestId).stored ≠ (desk.ticket requestId).stored →
      (desk.ticket requestId).kind.isSome = true ∨
        (desk.answersAtOnce op = true ∧ requestId = desk.nextRequestId)) ∧
    ∀ frame answered, desk.isSolicited (.reply frame) = true →
      frame.requestId = some answered → (desk.ticket answered).kind = none → ∀ requestId,
        ((desk.step (.reply frame)).ticket requestId).outcome =
          (desk.ticket requestId).outcome := by
  intro desk
  have kept : desk.Kept := kept_run (fresh_kept ackResponseTimeout maxPending) solicited
  refine ⟨?_, kept.outcomeCount_le, ?_, ?_⟩
  · intro requestId
    exact Nat.le_trans (Nat.le_add_right _ _) (kept.accounted requestId).storedOnce
  · intro op asked requestId grew
    rw [ticket_step] at grew
    exact (orderly_step kept.anchored asked).wasPending.resolve_left grew
  · intro frame answered asked named ended
    exact outcome_reply_of_not_pending asked named ended

/-- A duplicated lookup reply, a late reply to a cancelled schema request, a topic name that is
answered at once, and the end of the session. -/
theorem one_outcome_for_duplicated_replies :
    let ops := [DeskOp.lookupTopic "t" false true, .reply (.lookupResponse 0 {}),
      .reply (.lookupResponse 0 {}), .getSchema, .cancelRequest 1,
      .reply (.getSchemaResponse 1 none none none none),
      .getPartitionedTopicMetadata "t-partition-3", .getLastMessageId 0, .registerWaker 3, .reset]
    let desk := Machine.run RequestDesk.step (fresh none 0) ops
    (∀ requestId, (desk.ticket requestId).stored ≤ (desk.ticket requestId).issued) ∧
    (desk.ticket 0).stored = 1 ∧ (desk.ticket 1).outcome = none ∧
    (desk.ticket 3).outcome = some .sessionLost ∧ desk.outcomeCount = 3 := by
  refine ⟨(outcomes_only_for_pending none 0 _ ?_).1, ?_⟩
  · decide +kernel
  · decide +kernel

/-- A reply that comes after the cancellation of its request leaves an outcome that nobody will
collect, as does one to an id that was never handed out; and a transaction whose request the broker
has refused gets a second outcome. -/
theorem outcome_for_cancelled_request :
    let late := Machine.run RequestDesk.step (fresh none 0)
      [.getLastMessageId 0, .cancelRequest 0,
        .reply (.getLastMessageIdResponse 0 ⟨7, 1, -1, -1, 0⟩ none)]
    let unsolicited := Machine.run RequestDesk.step (fresh none 0)
      [.reply (.tcClientConnectResponse 9 {})]
    let refused := Machine.run RequestDesk.step (fresh none 0)
      [.newTxn, .reply (.error 0 5 "refused" false), .takeOutcome 0,
        .reply (.newTxnResponse 0 {} { mostSigBits := 1, leastSigBits := 1 })]
    late.outcomeCount = 1 ∧ late.uncollectedCount = 0 ∧
    unsolicited.outcomeCount = 1 ∧ (unsolicited.ticket 9).issued = 0 ∧
    (refused.ticket 0).stored = 2 ∧ (refused.ticket 0).issued = 1 := by
  decide +kernel

end RequestDesk

end Magnetar.Proto.Connection
