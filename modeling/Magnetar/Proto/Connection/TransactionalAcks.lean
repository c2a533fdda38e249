import Magnetar.Proto.Connection.AckEffects

/-!
Contract: acknowledgements inside a transaction are all or nothing.

Owns: the comparison of a run with the run in which the acknowledgements of one transaction are left
out, with any other calls in between, and what the commit and the abort of that transaction leave of
the trackers.

Does not own: who calls `settle_transactional_acks`, and the bit sets that the acknowledgements of a
transaction go out with.
-/

namespace Magnetar.Proto.Connection

open Library Library.Machine Pb External Consumer Trackers.Ack Trackers.Nack Trackers.Unacked
  AckSession AckingConsumer

variable {op : AckOp} {request : AckRequest} {session : AckSession} {txnId : TxnId}
  (consumer : AckingConsumer)

/-- What an acknowledgement changes locally: the two redelivery trackers and the table of the batch
positions that are still owed. -/
def localState : Option UnackedMessageTracker × Option NegativeAcksTracker × BatchAckTable :=
  (consumer.unackedTracker, consumer.nackTracker, consumer.batchAckTracker)

def issuedInside (txnId : TxnId) : AckOp → Option PendingTransactionalAck
  | .ack request messageIdData =>
    if request.txnId = some txnId then some { request, messageIdData } else none
  | _ => none

def SettlesTxn (txnId : TxnId) : AckOp → Prop
  | .settleTransactionalAcks settled _ => settled = txnId
  | _ => False

/-! ### Consumers that differ in one transaction -/

/-- Two consumers that differ at most in what they hold of one transaction. -/
def AlikeBut (txnId : TxnId) (consumer consumer' : AckingConsumer) : Prop :=
  ∃ pending, consumer' = { consumer with pendingTransactionalAcks := pending } ∧
    ∀ other, other ≠ txnId →
      pending.lookup other = consumer.pendingTransactionalAcks.lookup other

namespace AlikeBut

variable {txnId : TxnId} {consumer consumer' : AckingConsumer}

theorem refl (txnId : TxnId) (consumer : AckingConsumer) : AlikeBut txnId consumer consumer :=
  ⟨consumer.pendingTransactionalAcks, rfl, fun _ _ => rfl⟩

section

variable (alike : AlikeBut txnId consumer consumer')

include alike

theorem localState_eq : localState consumer' = localState consumer := by
  obtain ⟨_, rfl, _⟩ := alike
  rfl

theorem applyLocalAckState (request : AckRequest) (messageIdData : Option (List MessageIdData)) :
    AlikeBut txnId (consumer.applyLocalAckState request messageIdData).1
      (consumer'.applyLocalAckState request messageIdData).1 := by
  obtain ⟨pending, rfl, same⟩ := alike
  exact ⟨pending, rfl, same⟩

/-- An acknowledgement of another transaction reads and writes that transaction only. -/
theorem applyTransactionalAck {other : TxnId} (differs : other ≠ txnId) (request : AckRequest)
    (messageIdData : Option (List MessageIdData)) :
    AlikeBut txnId (consumer.applyTransactionalAck other request messageIdData).1
      (consumer'.applyTransactionalAck other request messageIdData).1 := by
  obtain ⟨pending, rfl, same⟩ := alike
  have seeded (seed : PendingTransactionalAcks) (ids : List MessageId) :
      seedTransaction { consumer with pendingTransactionalAcks := pending } seed ids =
        consumer.seedTransaction seed ids := by
    induction ids generalizing seed with
    | nil => rfl
    | cons _ _ ih =>
      exact ih _
  unfold AckingConsumer.applyTransactionalAck
  dsimp only
  rw [same other differs, seeded]
  refine ⟨_, rfl, ?_⟩
  intro third apart
  by_cases equal : third = other
  · subst equal
    rw [AList.lookup_insert, AList.lookup_insert]
  · rw [AList.lookup_insert_ne equal, AList.lookup_insert_ne equal]
    exact same third apart

/-- An acknowledgement of the transaction itself is only recorded. -/
theorem recorded (request : AckRequest) (messageIdData : Option (List MessageIdData)) :
    AlikeBut txnId consumer (consumer'.applyTransactionalAck txnId request messageIdData).1 := by
  obtain ⟨pending, rfl, same⟩ := alike
  refine ⟨(AckingConsumer.applyTransactionalAck _ txnId request
    messageIdData).1.pendingTransactionalAcks, rfl, ?_⟩
  intro other differs
  exact (AList.lookup_insert_ne differs).trans (same other differs)

theorem applyAck
    (outside : request.txnId ≠ some txnId) (messageIdData : Option (List MessageIdData)) :
    AlikeBut txnId (consumer.applyAck request messageIdData).1
      (consumer'.applyAck request messageIdData).1 := by
  rw [AckingConsumer.applyAck, AckingConsumer.applyAck]
  cases within : request.txnId with
  | none => exact alike.applyLocalAckState request messageIdData
  | some =>
    apply alike.applyTransactionalAck
    rintro rfl
    exact outside within

theorem applyAll (acknowledgements : List PendingTransactionalAck) :
    AlikeBut txnId
      (acknowledgements.foldl (fun consumer acknowledgement =>
        (consumer.applyLocalAckState acknowledgement.request
          acknowledgement.messageIdData).1) consumer)
      (acknowledgements.foldl (fun consumer acknowledgement =>
        (consumer.applyLocalAckState acknowledgement.request
          acknowledgement.messageIdData).1) consumer') := by
  induction acknowledgements generalizing consumer consumer' with
  | nil => exact alike
  | cons first _ ih =>
    exact ih (alike.applyLocalAckState first.request first.messageIdData)

theorem settleTransactionalAcks {other : TxnId} (differs : other ≠ txnId) (committed : Bool) :
    AlikeBut txnId (consumer.settleTransactionalAcks other committed)
      (consumer'.settleTransactionalAcks other committed) := by
  obtain ⟨pending, rfl, same⟩ := alike
  unfold settleTransactionalAcks
  rw [same other differs]
  cases consumer.pendingTransactionalAcks.lookup other with
  | none => exact ⟨pending, rfl, same⟩
  | some recorded =>
    have erased : AlikeBut txnId
        { consumer with
          pendingTransactionalAcks := consumer.pendingTransactionalAcks.erase other }
        { consumer with pendingTransactionalAcks := pending.erase other } := by
      refine ⟨_, rfl, ?_⟩
      intro third apart
      by_cases equal : third = other
      · subst equal
        rw [AList.lookup_erase, AList.lookup_erase]
      · rw [AList.lookup_erase_ne equal, AList.lookup_erase_ne equal]
        exact same third apart
    cases committed with
    | false => exact erased
    | true => exact erased.applyAll recorded.acknowledgements

end

end AlikeBut

/-! ### Sessions that differ in one transaction -/

/-- Their consumers are alike, and the next request gets the same id in both. -/
structure SessionsAlike (txnId : TxnId) (session session' : AckSession) : Prop where
  consumer : AlikeBut txnId session.consumer session'.consumer
  counter : session'.nextRequestId = session.nextRequestId

variable {requests : List AckRequest} {immediate : AckRequest}

namespace SessionsAlike

variable {txnId : TxnId} {session session' : AckSession}

section

variable (alike : SessionsAlike txnId session session')

include alike

theorem ackInner
    (outside : request.txnId ≠ some txnId) (messageIdData : Option (List MessageIdData)) :
    SessionsAlike txnId (session.ackInner request messageIdData)
      (session'.ackInner request messageIdData) := by
  have counted (session : AckSession) :
      (session.ackInner request messageIdData).nextRequestId =
        (session.nextRequestId + 1) % 2 ^ 64 := by
    rw [AckSession.ackInner]
    split <;> rfl
  constructor
  · rcases session.ackInner_cases request messageIdData with ⟨refused, same, _⟩ | ⟨accepted, same, _⟩
    · rcases session'.ackInner_cases request messageIdData with ⟨_, same', _⟩ | ⟨accepted, _, _⟩
      · rw [same, same']
        exact alike.consumer
      · rw [refused] at accepted
        cases accepted
    · rcases session'.ackInner_cases request messageIdData with ⟨refused, _, _⟩ | ⟨_, same', _⟩
      · rw [refused] at accepted
        cases accepted
      · rw [same, same']
        exact alike.consumer.applyAck outside messageIdData
  · rw [counted, counted, alike.counter]

theorem ackAll (outside : ∀ request ∈ requests, request.txnId = none) :
    SessionsAlike txnId (requests.foldl (fun session ack => session.ack ack) session)
      (requests.foldl (fun session ack => session.ack ack) session') := by
  induction requests generalizing session session' with
  | nil => exact alike
  | cons _ _ ih =>
    obtain ⟨first, later⟩ := List.forall_mem_cons.mp outside
    apply ih _ later
    apply alike.ackInner
    rw [first]
    exact (Option.some_ne_none txnId).symm

theorem dispatchAckActions (actions : List AckAction) :
    SessionsAlike txnId (session.dispatchAckActions actions)
      (session'.dispatchAckActions actions) := by
  have folded (session : AckSession) : session.dispatchAckActions actions =
      (actions.map actionRequest).foldl (fun session ack => session.ack ack) session := by
    rw [List.foldl_map]
    rfl
  rw [folded, folded]
  apply alike.ackAll
  intro request member
  obtain ⟨action, _, rfl⟩ := List.mem_map.mp member
  cases action <;> rfl

theorem withAckTracker (tracker : AckGroupingTracker) :
    SessionsAlike txnId (session.withAckTracker tracker) (session'.withAckTracker tracker) := by
  obtain ⟨⟨pending, equal, same⟩, counter⟩ := alike
  refine ⟨⟨pending, ?_, same⟩, counter⟩
  rw [AckSession.withAckTracker, equal]
  rfl

theorem ackTracker_eq : session'.consumer.ackTracker = session.consumer.ackTracker := by
  obtain ⟨⟨_, equal, _⟩, _⟩ := alike
  rw [equal]

theorem ackGrouped (stage : AckGroupingTracker → AckGroupingTracker × List AckAction)
    (outside : immediate.txnId = none) :
    SessionsAlike txnId (session.ackGrouped stage immediate)
      (session'.ackGrouped stage immediate) := by
  rw [AckSession.ackGrouped, AckSession.ackGrouped, alike.ackTracker_eq]
  cases session.consumer.ackTracker with
  | some tracker =>
    exact (alike.withAckTracker (stage tracker).1).dispatchAckActions (stage tracker).2
  | none =>
    apply alike.ackInner
    rw [outside]
    exact (Option.some_ne_none txnId).symm

/-- The same change of both consumers, which neither looks at the transactions nor touches them. -/
theorem changed {next next' : AckSession} (change : AckingConsumer → AckingConsumer)
    (framed : ∀ consumer pending, change { consumer with pendingTransactionalAcks := pending } =
      { change consumer with pendingTransactionalAcks := pending })
    (left : next.consumer = change session.consumer)
    (right : next'.consumer = change session'.consumer)
    (counter : next'.nextRequestId = next.nextRequestId) : SessionsAlike txnId next next' := by
  obtain ⟨⟨pending, equal, same⟩, _⟩ := alike
  have frame := framed session.consumer session.consumer.pendingTransactionalAcks
  have untouched := congrArg pendingTransactionalAcks frame
  refine ⟨⟨pending, ?_, ?_⟩, counter⟩
  · rw [right, left, equal, framed]
  · intro other differs
    rw [same other differs, left]
    exact congrArg (fun table => table.lookup other) untouched.symm

end

/-- What a negative acknowledgement with ids does to the consumer. -/
private def nackChange (ids : List MessageId) (update : NegativeAcksTracker → NegativeAcksTracker)
    (consumer : AckingConsumer) : AckingConsumer :=
  { AckSession.forgetUnacked consumer ids with nackTracker := consumer.nackTracker.map update }

section

variable (alike : SessionsAlike txnId session session')

include alike

theorem nacked {call : AckSession → AckSession} (ids : List MessageId)
    (change : NegativeAcksTracker → NegativeAcksTracker)
    (does : ∀ session, (call session).consumer = nackChange ids change session.consumer ∧
      (call session).nextRequestId = session.nextRequestId) :
    SessionsAlike txnId (call session) (call session') := by
  refine alike.changed (nackChange ids change) (fun _ _ => rfl) (does _).1 (does _).1 ?_
  rw [(does _).2, (does _).2, alike.counter]

theorem negativeAck (ids : List MessageId) (now : Nat) :
    SessionsAlike txnId (session.negativeAck ids now) (session'.negativeAck ids now) := by
  by_cases empty : ids.isEmpty = true
  · rw [AckSession.negativeAck, AckSession.negativeAck, if_pos empty, if_pos empty]
    exact ⟨alike.consumer, alike.counter⟩
  · apply alike.nacked ids fun tracker => ids.foldl (fun kept id => kept.add id now) tracker
    intro session
    simp only [AckSession.negativeAck, if_neg empty, nackChange, AckSession.forgetUnacked]
    cases session.consumer.nackTracker <;> exact ⟨rfl, rfl⟩

theorem negativeAckWithDelay (nacked : MessageId) (delay now : Nat) :
    SessionsAlike txnId (session.negativeAckWithDelay nacked delay now)
      (session'.negativeAckWithDelay nacked delay now) := by
  apply alike.nacked [nacked] fun tracker => tracker.addWithDelay nacked delay now
  intro session
  simp only [AckSession.negativeAckWithDelay, nackChange, AckSession.forgetUnacked]
  cases session.consumer.nackTracker <;> exact ⟨rfl, rfl⟩

theorem handleTimeout (stallTimeout : Option Nat) (now : Nat) :
    SessionsAlike txnId (session.handleTimeout stallTimeout now)
      (session'.handleTimeout stallTimeout now) := by
  obtain ⟨pending, equal, _⟩ := alike.consumer
  have counts (groups : List (List MessageId)) (session : AckSession) :
      (groups.foldl (fun session ids => session.emitRedeliverUnacked ids) session).nextRequestId =
        session.nextRequestId := by
    induction groups generalizing session with
    | nil => rfl
    | cons _ _ ih => exact ih _
  have swept : sweptAcks session'.consumer now =
      sweptAcks session.consumer now := by rw [equal]; rfl
  have due : ackDue session'.consumer now =
      ackDue session.consumer now := by rw [equal]; rfl
  rw [handleTimeout_eq, handleTimeout_eq, due]
  apply dispatchAckActions
  rw [beforeDispatch, beforeDispatch, swept]
  apply ackAll
  · refine alike.changed (fun consumer => pollTrackers consumer stallTimeout now)
      (fun _ _ => rfl) (redeliverAll_consumer _ _)
      (redeliverAll_consumer _ _) ?_
    rw [counts, counts]
    exact alike.counter
  · exact fun _ => sweptAcks_outside

theorem closeConsumer : SessionsAlike txnId session.closeConsumer session'.closeConsumer := by
  have terminal : session'.consumer.terminalOperation = session.consumer.terminalOperation := by
    obtain ⟨_, equal, _⟩ := alike.consumer
    rw [equal]
  rw [AckSession.closeConsumer, AckSession.closeConsumer, terminal, alike.ackTracker_eq,
    alike.counter]
  by_cases opened : session.consumer.terminalOperation = .opened
  · rw [if_pos opened, if_pos opened]
    let closed (consumer : AckingConsumer) : AckingConsumer := { consumer with
      toConsumerState := consumer.toConsumerState.closeRequested session.nextRequestId }
    cases session.consumer.ackTracker with
    | none => exact alike.changed closed (fun _ _ => rfl) rfl rfl rfl
    | some tracker =>
      refine ((alike.changed closed (fun _ _ => rfl) ?_ ?_ ?_).withAckTracker
        tracker.flush.1).dispatchAckActions tracker.flush.2 <;> rfl
  · rw [if_neg opened, if_neg opened]
    exact alike

variable (single : Prost SingleMessageMetadata) (codecs : Codecs)

/-- Every call outside the transaction keeps the sessions alike. -/
theorem step (outside : issuedInside txnId op = none) (unsettled : ¬ SettlesTxn txnId op) :
    SessionsAlike txnId (session.step single codecs op) (session'.step single codecs op) := by
  cases op with
  | slot op =>
    exact alike.changed (fun consumer => { consumer with
      toConsumerState := slotStep single codecs consumer.toConsumerState op })
      (fun _ _ => rfl) rfl rfl alike.counter
  | ack =>
    apply alike.ackInner
    intro inside
    rw [issuedInside, if_pos inside] at outside
    cases outside
  | ackGroupedIndividual | ackGroupedCumulative => exact alike.ackGrouped _ rfl
  | negativeAck ids now => exact alike.negativeAck ids now
  | negativeAckWithDelay => exact alike.negativeAckWithDelay _ _ _
  | redeliverUnackedAll => exact ⟨alike.consumer, alike.counter⟩
  | handleTimeout => exact alike.handleTimeout _ _
  | closeConsumer => exact alike.closeConsumer
  | settleTransactionalAcks _ committed =>
    exact ⟨alike.consumer.settleTransactionalAcks unsettled committed, alike.counter⟩

end

end SessionsAlike

/-! ### The run without the transaction -/

/-- The calls inside the transaction are left out; they only take their request ids. -/
def skipping (single : Prost SingleMessageMetadata) (codecs : Codecs) (txnId : TxnId)
    (session : AckSession) (op : AckOp) : AckSession :=
  match issuedInside txnId op with
  | some _ => { session with nextRequestId := (session.nextRequestId + 1) % 2 ^ 64 }
  | none => session.step single codecs op

/-- The acknowledgements of the transaction, outside any transaction. -/
def issueOutside (session : AckSession) (acknowledgements : List PendingTransactionalAck) :
    AckSession :=
  acknowledgements.foldl (fun session acknowledgement =>
    session.ackInner { acknowledgement.request with txnId := none }
      acknowledgement.messageIdData) session

def recorded (txnId : TxnId) : List PendingTransactionalAck :=
  match consumer.pendingTransactionalAcks.lookup txnId with
  | some pending => pending.acknowledgements
  | none => []

def isAccepted (acknowledgement : PendingTransactionalAck) : Bool :=
  !isRefused acknowledgement.request

variable (single : Prost SingleMessageMetadata) (codecs : Codecs)

/-- An acknowledgement inside the transaction changes nothing but what is held of it. -/
theorem SessionsAlike.inside {session' : AckSession} (alike : SessionsAlike txnId session session')
    {acknowledgement : PendingTransactionalAck}
    (inside : issuedInside txnId op = some acknowledgement) :
    SessionsAlike txnId (skipping single codecs txnId session op)
      (session'.step single codecs op) := by
  have skipped : skipping single codecs txnId session op =
      { session with nextRequestId := (session.nextRequestId + 1) % 2 ^ 64 } := by
    rw [skipping, inside]
  rw [skipped]
  cases op with
  | ack request messageIdData =>
    have within : request.txnId = some txnId := by
      by_contra outside
      rw [issuedInside, if_neg outside] at inside
      cases inside
    have counted : (session'.ackInner request messageIdData).nextRequestId =
        (session.nextRequestId + 1) % 2 ^ 64 := by
      rw [AckSession.ackInner, alike.counter]
      split <;> rfl
    refine ⟨?_, counted⟩
    show AlikeBut txnId session.consumer (session'.ackInner request messageIdData).consumer
    rcases session'.ackInner_cases request messageIdData with ⟨_, kept, _⟩ | ⟨_, applied, _⟩
    · rw [kept]
      exact alike.consumer
    · rw [applied, AckingConsumer.applyAck, within]
      exact alike.consumer.recorded request messageIdData
  | _ => cases inside

theorem SessionsAlike.run {session' : AckSession}
    (alike : SessionsAlike txnId session session') {ops : List AckOp}
    (unsettled : ∀ op ∈ ops, ¬ SettlesTxn txnId op) :
    SessionsAlike txnId (Machine.run (skipping single codecs txnId) session ops)
      (Machine.run (AckSession.step single codecs) session' ops) := by
  induction ops generalizing session session' with
  | nil => exact alike
  | cons op _ ih =>
    obtain ⟨first, later⟩ := List.forall_mem_cons.mp unsettled
    apply ih _ later
    cases issued : issuedInside txnId op with
    | some => exact alike.inside single codecs issued
    | none =>
      rw [skipping, issued]
      exact alike.step single codecs issued first

/-! ### What is recorded -/

theorem ackInner_lookup
    (outside : request.txnId ≠ some txnId) (messageIdData : Option (List MessageIdData)) :
    (session.ackInner request messageIdData).consumer.pendingTransactionalAcks.lookup txnId =
      session.consumer.pendingTransactionalAcks.lookup txnId := by
  rcases session.ackInner_cases request messageIdData with ⟨_, same, _⟩ | ⟨_, applied, _⟩
  · rw [same]
  · rw [applied, AckingConsumer.applyAck]
    cases within : request.txnId with
    | none => rfl
    | some =>
      apply AList.lookup_insert_ne
      rintro rfl
      exact outside within

theorem ackAll_lookup (outside : ∀ request ∈ requests, request.txnId = none) :
    (requests.foldl (fun session ack => session.ack ack)
        session).consumer.pendingTransactionalAcks.lookup txnId =
      session.consumer.pendingTransactionalAcks.lookup txnId := by
  induction requests generalizing session with
  | nil => rfl
  | cons request _ ih =>
    obtain ⟨first, later⟩ := List.forall_mem_cons.mp outside
    have apart : request.txnId ≠ some txnId := by
      rw [first]
      exact (Option.some_ne_none txnId).symm
    exact (ih later).trans (ackInner_lookup apart none)

theorem dispatchAckActions_lookup (session : AckSession) (actions : List AckAction)
    (txnId : TxnId) :
    (session.dispatchAckActions actions).consumer.pendingTransactionalAcks.lookup txnId =
      session.consumer.pendingTransactionalAcks.lookup txnId := by
  have folded : session.dispatchAckActions actions =
      (actions.map actionRequest).foldl (fun session ack => session.ack ack) session := by
    rw [List.foldl_map]
    rfl
  rw [folded]
  apply ackAll_lookup
  intro request member
  obtain ⟨action, _, rfl⟩ := List.mem_map.mp member
  cases action <;> rfl

theorem ackGrouped_lookup (session : AckSession)
    (stage : AckGroupingTracker → AckGroupingTracker × List AckAction)
    (outside : immediate.txnId = none) (txnId : TxnId) :
    (session.ackGrouped stage immediate).consumer.pendingTransactionalAcks.lookup txnId =
      session.consumer.pendingTransactionalAcks.lookup txnId := by
  rw [AckSession.ackGrouped]
  split
  · exact dispatchAckActions_lookup _ _ txnId
  · apply ackInner_lookup
    rw [outside]
    exact (Option.some_ne_none txnId).symm

theorem step_lookup (session : AckSession)
    (outside : issuedInside txnId op = none) (unsettled : ¬ SettlesTxn txnId op) :
    (session.step single codecs op).consumer.pendingTransactionalAcks.lookup txnId =
      session.consumer.pendingTransactionalAcks.lookup txnId := by
  cases op with
  | slot | redeliverUnackedAll => rfl
  | ack =>
    apply ackInner_lookup
    intro inside
    rw [issuedInside, if_pos inside] at outside
    cases outside
  | ackGroupedIndividual | ackGroupedCumulative => exact ackGrouped_lookup session _ rfl txnId
  | negativeAck ids now =>
    show (session.negativeAck ids now).consumer.pendingTransactionalAcks.lookup txnId = _
    rw [AckSession.negativeAck]
    split
    · rfl
    · dsimp only
      split <;> rfl
  | negativeAckWithDelay nacked delay now =>
    show (session.negativeAckWithDelay nacked delay
      now).consumer.pendingTransactionalAcks.lookup txnId = _
    rw [AckSession.negativeAckWithDelay]
    split <;> rfl
  | handleTimeout stallTimeout now =>
    show (session.handleTimeout stallTimeout now).consumer.pendingTransactionalAcks.lookup txnId = _
    rw [handleTimeout_eq, dispatchAckActions_lookup, beforeDispatch,
      ackAll_lookup fun _ => sweptAcks_outside, redeliverAll_consumer]
    rfl
  | closeConsumer =>
    show session.closeConsumer.consumer.pendingTransactionalAcks.lookup txnId = _
    rw [AckSession.closeConsumer]
    split
    · split
      · exact dispatchAckActions_lookup _ _ txnId
      · rfl
    · rfl
  | settleTransactionalAcks other committed =>
    have differs : txnId ≠ other := fun equal => unsettled equal.symm
    have applied (acknowledgements : List PendingTransactionalAck) (consumer : AckingConsumer) :
        (acknowledgements.foldl (fun consumer acknowledgement =>
          (consumer.applyLocalAckState acknowledgement.request
            acknowledgement.messageIdData).1) consumer).pendingTransactionalAcks =
          consumer.pendingTransactionalAcks := by
      induction acknowledgements generalizing consumer with
      | nil => rfl
      | cons _ _ ih => exact ih _
    show (session.consumer.settleTransactionalAcks other
      committed).pendingTransactionalAcks.lookup txnId = _
    rw [settleTransactionalAcks]
    split
    · rfl
    · split
      · rw [applied]
        exact AList.lookup_erase_ne differs
      · exact AList.lookup_erase_ne differs

theorem seedTransaction_acknowledgements (pending : PendingTransactionalAcks)
    (ids : List MessageId) :
    (consumer.seedTransaction pending ids).acknowledgements = pending.acknowledgements := by
  induction ids generalizing pending with
  | nil => rfl
  | cons _ _ ih =>
    rw [seedTransaction, ih]
    split <;> rfl

theorem recorded_applyTransactionalAck (txnId : TxnId) (request : AckRequest)
    (messageIdData : Option (List MessageIdData)) :
    recorded (consumer.applyTransactionalAck txnId request messageIdData).1 txnId =
      recorded consumer txnId ++ [⟨request, messageIdData⟩] := by
  have before : ((consumer.pendingTransactionalAcks.lookup txnId).getD {}).acknowledgements =
      recorded consumer txnId := by
    rw [recorded]
    cases consumer.pendingTransactionalAcks.lookup txnId <;> rfl
  rw [recorded, AckingConsumer.applyTransactionalAck]
  rw [AList.lookup_insert]
  rw [seedTransaction_acknowledgements, before]

/-- What is recorded of the transaction are its accepted acknowledgements, in order. -/
theorem recorded_step (session : AckSession) (unsettled : ¬ SettlesTxn txnId op) :
    recorded (session.step single codecs op).consumer txnId =
      recorded session.consumer txnId ++ ((issuedInside txnId op).filter isAccepted).toList := by
  cases issued : issuedInside txnId op with
  | none =>
    rw [recorded, step_lookup single codecs session issued unsettled]
    exact (List.append_nil _).symm
  | some =>
    cases op with
    | ack request messageIdData =>
      have within : request.txnId = some txnId := by
        by_contra outside
        rw [issuedInside, if_neg outside] at issued
        cases issued
      rw [issuedInside, if_pos within] at issued
      cases issued
      show recorded (session.ackInner request messageIdData).consumer txnId = _
      rcases session.ackInner_cases request messageIdData with
        ⟨refused, kept, _⟩ | ⟨accepted, applied, _⟩
      · rw [kept]
        simp [isAccepted, refused]
      · rw [applied, AckingConsumer.applyAck, within]
        rw [recorded_applyTransactionalAck]
        simp [isAccepted, accepted, Option.filter_some]
    | _ => cases issued

theorem recorded_run {ops : List AckOp} (unsettled : ∀ op ∈ ops, ¬ SettlesTxn txnId op) :
    recorded (run (AckSession.step single codecs) session ops).consumer txnId =
      recorded session.consumer txnId ++
        (ops.filterMap (issuedInside txnId)).filter isAccepted := by
  induction ops generalizing session with
  | nil => exact (List.append_nil _).symm
  | cons op _ ih =>
    obtain ⟨first, later⟩ := List.forall_mem_cons.mp unsettled
    rw [run_cons, ih later, recorded_step single codecs session first,
      List.append_assoc]
    congr 1
    cases issued : issuedInside txnId op with
    | none => simp [issued]
    | some acknowledgement =>
      cases accepted : isAccepted acknowledgement <;>
        simp [issued, accepted, Option.filter_some]

/-! ### The end of the transaction -/

theorem settle_abort (txnId : TxnId) :
    localState (consumer.settleTransactionalAcks txnId false) = localState consumer := by
  rw [settleTransactionalAcks]
  split <;> rfl

theorem settle_commit (txnId : TxnId) :
    localState (consumer.settleTransactionalAcks txnId true) =
      localState ((recorded consumer txnId).foldl (fun consumer acknowledgement =>
        (consumer.applyLocalAckState acknowledgement.request
          acknowledgement.messageIdData).1) consumer) := by
  rw [settleTransactionalAcks, recorded]
  cases consumer.pendingTransactionalAcks.lookup txnId with
  | none => rfl
  | some pending =>
    have erased : AlikeBut txnId consumer
        { consumer with
          pendingTransactionalAcks := consumer.pendingTransactionalAcks.erase txnId } :=
      ⟨_, rfl, fun other differs => AList.lookup_erase_ne differs⟩
    exact (erased.applyAll pending.acknowledgements).localState_eq

/-- Outside any transaction the accepted acknowledgements are applied, in order. -/
theorem issueOutside_consumer (session : AckSession)
    (acknowledgements : List PendingTransactionalAck) :
    (issueOutside session acknowledgements).consumer =
      (acknowledgements.filter isAccepted).foldl (fun consumer acknowledgement =>
        (consumer.applyLocalAckState acknowledgement.request
          acknowledgement.messageIdData).1) session.consumer := by
  induction acknowledgements generalizing session with
  | nil => rfl
  | cons first rest ih =>
    have issued : issueOutside session (first :: rest) =
        issueOutside (session.ackInner { first.request with txnId := none }
          first.messageIdData) rest := rfl
    rw [issued, ih]
    rcases session.ackInner_cases { first.request with txnId := none } first.messageIdData with
      ⟨refused, kept, _⟩ | ⟨accepted, applied, _⟩
    · have rejected : isAccepted first = false := by
        exact congrArg Bool.not refused
      rw [kept, List.filter_cons_of_neg (by simp [rejected])]
    · have taken : isAccepted first = true := by
        exact congrArg Bool.not accepted
      rw [applied, List.filter_cons_of_pos taken]
      rfl

/-- From any state of a consumer that holds nothing of a transaction, through any calls: when the
transaction aborts, the trackers are as if its acknowledgements had never been issued, and when it
commits, as if they had been issued outside it, in their order, at that moment. -/
theorem transactional_acks_all_or_nothing (session : AckSession) (txnId : TxnId)
    (fresh : session.consumer.pendingTransactionalAcks.lookup txnId = none) (ops : List AckOp)
    (unsettled : ∀ op ∈ ops, ¬ SettlesTxn txnId op) :
    let issued := run (AckSession.step single codecs) session ops
    let skipped := run (skipping single codecs txnId) session ops
    localState (issued.consumer.settleTransactionalAcks txnId false) =
        localState skipped.consumer ∧
      localState (issued.consumer.settleTransactionalAcks txnId true) =
        localState (issueOutside skipped (ops.filterMap (issuedInside txnId))).consumer := by
  intro issued skipped
  have alike : SessionsAlike txnId skipped issued :=
    SessionsAlike.run single codecs ⟨AlikeBut.refl txnId session.consumer, rfl⟩ unsettled
  have acknowledged : recorded issued.consumer txnId =
      (ops.filterMap (issuedInside txnId)).filter isAccepted := by
    rw [recorded_run single codecs unsettled, recorded, fresh]
    rfl
  constructor
  · rw [settle_abort, alike.consumer.localState_eq]
  · rw [settle_commit, acknowledged, issueOutside_consumer]
    exact (alike.consumer.applyAll _).localState_eq

private def transaction : TxnId :=
  ⟨0, 1⟩

private def memberId (index : Int) : MessageId :=
  ⟨1, 1, -1, index, 2⟩

private def owingSession : AckSession where
  consumer := {
    handle := 7, topic := "t", subscription := "s", receiverQueueSize := 10,
    policy := ReceiverQueue.fixed 10, nackTracker := some (.new 7 5)
    batchAckTracker := (∅ : BatchAckTable).insert (1, 1) (.fresh 2) }

private def insideAck (index : Int) : AckOp :=
  .ack { messageIds := [memberId index], ackType := .individual, txnId := some transaction } none

/-- Both positions are acknowledged inside a transaction, and the first is negatively acknowledged in
between: the abort leaves both positions owed, and the commit leaves neither. -/
theorem transactional_acks_of_two_positions :
    let issued := run (AckSession.step default default) owingSession
      [insideAck 0, .negativeAck [memberId 0] 1, insideAck 1]
    let skipped := run (skipping default default transaction) owingSession
      [insideAck 0, .negativeAck [memberId 0] 1, insideAck 1]
    (localState (issued.consumer.settleTransactionalAcks transaction false) =
        localState skipped.consumer ∧
      localState (issued.consumer.settleTransactionalAcks transaction true) =
        localState (issueOutside skipped
          ([insideAck 0, .negativeAck [memberId 0] 1, insideAck 1].filterMap
            (issuedInside transaction))).consumer) ∧
      skipped.consumer.batchAckTracker.keys = [(1, 1)] ∧
      (issued.consumer.settleTransactionalAcks transaction true).batchAckTracker.keys = [] := by
  refine ⟨?_, by decide, by decide⟩
  apply transactional_acks_all_or_nothing default default owingSession transaction rfl
  simp [SettlesTxn, insideAck]

end Magnetar.Proto.Connection
