import Magnetar.Proto.Connection.ConsumerEnds
import Magnetar.Proto.Connection.Pending

/-!
Contract: those who wait for the close or the unsubscribe of a consumer.

Owns: that the request such a waiter depends on is pending, and that an unsubscribe without a
completion is its consumer's operation, over every run that ends no such request behind the
consumer's back.

Does not own: what the end of the session does with the waiters (`Connection.Termination`).

The result of a close is kept by the consumer and that of an unsubscribe by its operation, so both
are lost to their waiters when the pending request goes another way than through the reply: a
cancelled request, a reply of another kind, or a consumer that is dropped in between.
-/

namespace Magnetar.Proto.Connection

variable {provisional : Bool} {consumer : ConsumerEnd} {op : DeskOp} {code : Int}
  {handle named requestId : Nat} {message : String}

def TerminalOperation.awaited : TerminalOperation → Option Nat
  | .pending requestId _ => some requestId
  | .unsubscribePending requestId => some requestId
  | _ => none

/-- The operation of the consumer is as it was, or nobody waits any more and no unsubscribe was cut
short. -/
def ConsumerEnd.Concludes (consumer consumer' : ConsumerEnd) : Prop :=
  consumer'.terminalOperation = consumer.terminalOperation ∨
    (consumer'.terminalOperation.awaited = none ∧
      ∀ requestId, consumer.terminalOperation ≠ .unsubscribePending requestId)

theorem ConsumerEnd.terminate_concludes (consumer : ConsumerEnd) (origin : CloseOrigin)
    (reason : String) : consumer.Concludes (consumer.terminate origin reason) := by
  unfold terminate
  split
  case h_1 opened => exact .inr ⟨rfl, by simp [opened]⟩
  case h_2 => exact .inl rfl

theorem ConsumerEnd.completeClose_concludes (consumer : ConsumerEnd) (requestId : Nat)
    (completion : CloseCompletion) :
    consumer.Concludes (consumer.completeClose requestId completion) := by
  unfold completeClose
  split
  case h_1 pending =>
    split
    · exact .inr ⟨rfl, by simp [pending]⟩
    · exact .inl rfl
  case h_2 => exact .inl rfl

variable {change : Option ConsumerEnd → Option ConsumerEnd} {update : ConsumerEnd → ConsumerEnd}
  {completion : CloseCompletion} {consumer' : ConsumerEnd}

namespace RequestDesk

theorem forcing_concludes (desk : RequestDesk) (consumer : ConsumerEnd) :
    consumer.Concludes (desk.forcing consumer) := by
  unfold forcing
  split
  · exact .inl rfl
  · split <;> exact .inl rfl

def isAwaited (desk : RequestDesk) (requestId : Nat) : Bool :=
  desk.consumers.entries.any fun entry => entry.2.terminalOperation.awaited == some requestId

def waitsAt (desk : RequestDesk) (handle : Nat) : Bool :=
  (desk.consumers.lookup handle).any fun consumer => consumer.terminalOperation.awaited.isSome

/-- The operation takes nothing away from those who wait for a close or an unsubscribe: only a
success or an error answers its request, no id is handed out again while it is awaited, and no
consumer is dropped or replaced while its close or unsubscribe is under way. -/
def keepsWaiters (desk : RequestDesk) (op : DeskOp) : Bool :=
  !desk.isAwaited desk.nextRequestId &&
    match op with
    | .subscribe => !desk.waitsAt desk.nextConsumerId
    | .cancelConsumerSubscribe handle _ => !desk.waitsAt handle
    | .reply (.success _) => true
    | .reply (.error answered _ _ provisional) =>
      match (desk.ticket answered).kind with
      | some (.consumerSubscribe handle) => !(provisional && desk.waitsAt handle)
      | _ => true
    | op => (desk.addressed op).all fun requestId => !desk.isAwaited requestId

/-- The requests that close and unsubscribe wait for are pending, and each unsubscribe that has no
completion is the operation of a consumer. -/
structure Waits (desk : RequestDesk) : Prop where
  pending : ∀ handle consumer, desk.consumers.lookup handle = some consumer →
    ∀ requestId, consumer.terminalOperation.awaited = some requestId →
      desk.awaitsPending handle consumer = true
  current : ∀ requestId, desk.unsubscribes.lookup requestId = some none →
    ∃ handle, desk.unsubscribeIsCurrent handle requestId = true

theorem waits_fresh (ackResponseTimeout : Option Nat) (maxPending : Nat) :
    (fresh ackResponseTimeout maxPending).Waits where
  pending := by
    intro handle consumer found
    cases found
  current := by
    intro requestId uncompleted
    cases uncompleted

section Waits

variable {desk : RequestDesk}

theorem unsubscribeIsCurrent_iff :
    desk.unsubscribeIsCurrent handle requestId = true ↔
      ∃ consumer, desk.consumers.lookup handle = some consumer ∧
        consumer.terminalOperation = .unsubscribePending requestId := by
  unfold unsubscribeIsCurrent
  cases desk.consumers.lookup handle <;> simp

section

variable (found : desk.consumers.lookup handle = some consumer)
  (awaits : consumer.terminalOperation.awaited = some requestId)

include found awaits

theorem isAwaited_of_lookup : desk.isAwaited requestId = true := by
  apply List.any_eq_true.mpr
  refine ⟨⟨handle, consumer⟩, AList.mem_lookup_iff.mp found, ?_⟩
  simp [awaits]

theorem waitsAt_of_lookup : desk.waitsAt handle = true := by
  simp [waitsAt, found, awaits]

end

/-- The two forms of a consumer that waits for a pending request. -/
theorem awaitsPending_iff :
    desk.awaitsPending handle consumer = true ↔
      (∃ requestId origin, consumer.terminalOperation = .pending requestId origin ∧
        ((desk.ticket requestId).kind = some (.consumerClose handle) ∨
          (desk.ticket requestId).kind = some (.consumerCloseForgotten handle))) ∨
      ∃ requestId, consumer.terminalOperation = .unsubscribePending requestId ∧
        (desk.ticket requestId).kind = some (.consumerUnsubscribe handle) := by
  unfold awaitsPending
  cases consumer.terminalOperation <;> simp

/-- A request that the operation neither answers nor numbers again stays pending for its waiter. -/
theorem awaitsPending_step (awaits : desk.awaitsPending handle consumer = true)
    (same : consumer'.terminalOperation = consumer.terminalOperation)
    (waited : consumer'.terminalOperation.awaited = some requestId) (goesOn : op.goesOn = true)
    (differs : requestId ≠ desk.nextRequestId) (spared : desk.addressed op ≠ some requestId) :
    (desk.step op).awaitsPending handle consumer' = true := by
  rw [awaitsPending_iff]
  rcases awaitsPending_iff.mp awaits with ⟨pending, origin, operation, kind⟩ |
    ⟨pending, operation, kind⟩
  · rw [same, operation] at waited ⊢
    cases waited
    refine .inl ⟨requestId, origin, rfl, ?_⟩
    rcases kind with reliable | forgotten
    · exact .inl (pending_after goesOn reliable rfl differs spared)
    · exact .inr (pending_after goesOn forgotten rfl differs spared)
  · rw [same, operation] at waited ⊢
    cases waited
    exact .inr ⟨requestId, rfl, pending_after goesOn kind rfl differs spared⟩

def Former (desk : RequestDesk) (handle : Nat) (consumer' : ConsumerEnd) : Prop :=
  ∃ consumer, desk.consumers.lookup handle = some consumer ∧
    consumer'.terminalOperation = consumer.terminalOperation

/-- The unsubscribe of the consumer waits for the request. -/
def Pends (requestId : Nat) (found : Option ConsumerEnd) : Prop :=
  ∃ consumer, found = some consumer ∧
    consumer.terminalOperation = .unsubscribePending requestId

/-- The consumer had its operation before, and the operation does not address its request. -/
def FormerOperation (desk : RequestDesk) (op : DeskOp) (handle requestId : Nat)
    (consumer' : ConsumerEnd) : Prop :=
  desk.addressed op ≠ some requestId ∧
    ∃ consumer, desk.consumers.lookup handle = some consumer ∧
      consumer'.terminalOperation = consumer.terminalOperation

/-- What an operation that does not end the session has to keep. -/
theorem Waits.of_kept (waits : desk.Waits) (goesOn : op.goesOn = true)
    (free : desk.isAwaited desk.nextRequestId = false)
    (kept : ∀ handle consumer', desk.consumerAfter handle op = some consumer' →
      ∀ requestId, consumer'.terminalOperation.awaited = some requestId →
        (desk.step op).awaitsPending handle consumer' = true ∨
          desk.FormerOperation op handle requestId consumer')
    (still : ∀ handle consumer requestId, desk.consumers.lookup handle = some consumer →
      consumer.terminalOperation = .unsubscribePending requestId →
        desk.addressed op ≠ some requestId →
          Pends requestId (desk.consumerAfter handle op))
    (entered : ∀ requestId, desk.unsubscribeAfter requestId op = some none →
      (desk.unsubscribes.lookup requestId = some none ∧ desk.addressed op ≠ some requestId) ∨
        ∃ handle, (desk.step op).unsubscribeIsCurrent handle requestId = true) :
    (desk.step op).Waits where
  pending := by
    intro handle consumer' found requestId awaited
    rw [consumer_step] at found
    rcases kept handle consumer' found requestId awaited with pending | former
    · exact pending
    · obtain ⟨spared, consumer, before, same⟩ := former
      have earlier : consumer.terminalOperation.awaited = some requestId := same ▸ awaited
      apply awaitsPending_step (waits.pending handle consumer before requestId earlier) same awaited
        goesOn ?_ spared
      rintro rfl
      rw [isAwaited_of_lookup before earlier] at free
      cases free
  current := by
    intro requestId uncompleted
    rw [unsubscribe_step] at uncompleted
    rcases entered requestId uncompleted with ⟨before, spared⟩ | current
    · obtain ⟨handle, current⟩ := waits.current requestId before
      obtain ⟨consumer, found, operation⟩ := unsubscribeIsCurrent_iff.mp current
      refine ⟨handle, unsubscribeIsCurrent_iff.mpr ?_⟩
      rw [consumer_step]
      exact still handle consumer requestId found operation spared
    · exact current

/-! ### Changes of one consumer -/

theorem former_changedAt (absent : change none = none)
    (keeps : ∀ consumer consumer', change (some consumer) = some consumer' →
      consumer.Concludes consumer')
    (found : desk.changedAt named handle change = some consumer')
    (awaited : consumer'.terminalOperation.awaited = some requestId) :
    desk.Former handle consumer' := by
  unfold changedAt at found
  split at found
  · cases before : desk.consumers.lookup handle with
    | none =>
      rw [before, absent] at found
      cases found
    | some consumer =>
      rw [before] at found
      rcases keeps consumer consumer' found with same | concluded
      · exact ⟨consumer, before, same⟩
      · rw [concluded.1] at awaited
        cases awaited
  · exact ⟨consumer', found, rfl⟩

section

variable (found : desk.consumers.lookup handle = some consumer)
  (operation : consumer.terminalOperation = .unsubscribePending requestId)

include found operation

theorem still_map (keeps : ∀ consumer, ConsumerEnd.Concludes consumer (update consumer)) :
    Pends requestId (desk.changedAt named handle (Option.map update)) := by
  unfold changedAt
  split
  · refine ⟨update consumer, by rw [found]; rfl, ?_⟩
    rcases keeps consumer with same | concluded
    · rw [same, operation]
    · exact absurd operation (concluded.2 requestId)
  · exact ⟨consumer, found, operation⟩

theorem still_of_idle (idle : desk.waitsAt named = false) :
    Pends requestId (desk.changedAt named handle change) := by
  have waiting : desk.waitsAt handle = true := waitsAt_of_lookup found (by rw [operation]; rfl)
  refine ⟨consumer, ?_, operation⟩
  rw [changedAt, if_neg, found]
  rintro rfl
  rw [idle] at waiting
  cases waiting

end

/-- An operation that leaves the waiting consumers alone, and the unsubscribe operations. -/
theorem Waits.of_spared (waits : desk.Waits) (goesOn : op.goesOn = true)
    (free : desk.isAwaited desk.nextRequestId = false)
    (spared : ∀ requestId, desk.isAwaited requestId = true → desk.addressed op ≠ some requestId)
    (former : ∀ handle consumer', desk.consumerAfter handle op = some consumer' →
      ∀ requestId, consumer'.terminalOperation.awaited = some requestId →
        desk.Former handle consumer')
    (still : ∀ handle consumer requestId, desk.consumers.lookup handle = some consumer →
      consumer.terminalOperation = .unsubscribePending requestId →
        Pends requestId (desk.consumerAfter handle op))
    (same : ∀ requestId,
      desk.unsubscribeAfter requestId op = desk.unsubscribes.lookup requestId) :
    (desk.step op).Waits := by
  apply waits.of_kept goesOn free
  · intro handle consumer' found requestId awaited
    obtain ⟨consumer, before, operation⟩ := former handle consumer' found requestId awaited
    exact .inr ⟨spared requestId (isAwaited_of_lookup before (operation ▸ awaited)), consumer,
      before, operation⟩
  · exact fun handle consumer requestId found operation _ =>
      still handle consumer requestId found operation
  · intro requestId uncompleted
    rw [same] at uncompleted
    obtain ⟨handle, current⟩ := waits.current requestId uncompleted
    obtain ⟨consumer, found, operation⟩ := unsubscribeIsCurrent_iff.mp current
    exact .inl ⟨uncompleted, spared requestId (isAwaited_of_lookup found (by rw [operation]; rfl))⟩

theorem Waits.of_same (waits : desk.Waits) (goesOn : op.goesOn = true)
    (free : desk.isAwaited desk.nextRequestId = false)
    (spared : ∀ requestId, desk.isAwaited requestId = true → desk.addressed op ≠ some requestId)
    (consumers : ∀ handle, desk.consumerAfter handle op = desk.consumers.lookup handle)
    (same : ∀ requestId,
      desk.unsubscribeAfter requestId op = desk.unsubscribes.lookup requestId) :
    (desk.step op).Waits := by
  apply waits.of_spared goesOn free spared ?_ ?_ same
  · intro handle consumer' found requestId awaited
    exact ⟨consumer', by rw [← consumers, found], rfl⟩
  · intro handle consumer requestId found operation
    exact ⟨consumer, by rw [consumers, found], operation⟩

/-- An operation that changes one consumer: it leaves the operation of the consumer, concludes it,
or begins one on a consumer that was open. -/
theorem Waits.of_map (waits : desk.Waits) (goesOn : op.goesOn = true)
    (free : desk.isAwaited desk.nextRequestId = false)
    (spared : ∀ requestId, desk.addressed op ≠ some requestId)
    (changed : ∀ consumer, desk.consumers.lookup named = some consumer →
      consumer.Concludes (update consumer) ∨
        (consumer.terminalOperation = .opened ∧
          (desk.step op).awaitsPending named (update consumer) = true))
    (consumers : ∀ handle,
      desk.consumerAfter handle op = desk.changedAt named handle (Option.map update))
    (entered : ∀ requestId, desk.unsubscribeAfter requestId op = some none →
      desk.unsubscribes.lookup requestId = some none ∨
        ∃ handle, (desk.step op).unsubscribeIsCurrent handle requestId = true) :
    (desk.step op).Waits := by
  apply waits.of_kept goesOn free
  · intro handle consumer' found requestId awaited
    rw [consumers, changedAt] at found
    split at found
    case isFalse => exact .inr ⟨spared requestId, consumer', found, rfl⟩
    case isTrue same =>
      subst same
      obtain ⟨consumer, before, rfl⟩ := Option.map_eq_some_iff.mp found
      rcases changed consumer before with (same | concluded) | begun
      · exact .inr ⟨spared requestId, consumer, before, same⟩
      · rw [concluded.1] at awaited
        cases awaited
      · exact .inl begun.2
  · intro handle consumer requestId found operation _
    rw [consumers, changedAt]
    split
    case isFalse => exact ⟨consumer, found, operation⟩
    case isTrue same =>
      subst same
      refine ⟨update consumer, by rw [found]; rfl, ?_⟩
      rcases changed consumer found with (same | concluded) | begun
      · rw [same, operation]
      · exact absurd operation (concluded.2 requestId)
      · rw [operation] at begun
        cases begun.1
  · intro requestId uncompleted
    rcases entered requestId uncompleted with before | current
    · exact .inl ⟨before, spared requestId⟩
    · exact .inr current

/-! ### Replies -/

section Replies

variable {handle answered requestId : Nat} {consumer consumer' : ConsumerEnd}

theorem former_success (found : desk.consumerAfterSuccess answered handle = some consumer')
    (awaited : consumer'.terminalOperation.awaited = some requestId) :
    desk.Former handle consumer' := by
  unfold consumerAfterSuccess at found
  split at found
  case h_1 =>
    apply former_changedAt ?_ ?_ found awaited
    · split <;> rfl
    · intro consumer updated same
      split at same
      · cases same
      · cases same
        exact .inl rfl
  case h_2 | h_3 =>
    apply former_changedAt rfl ?_ found awaited
    rintro consumer _ ⟨⟩
    exact consumer.completeClose_concludes _ _
  case h_4 =>
    apply former_changedAt rfl ?_ found awaited
    rintro consumer _ ⟨⟩
    exact .inl rfl
  case h_5 => exact ⟨consumer', found, rfl⟩

theorem former_error
    (found : desk.consumerAfterError answered code message provisional handle = some consumer')
    (awaited : consumer'.terminalOperation.awaited = some requestId) :
    desk.Former handle consumer' := by
  unfold consumerAfterError changedAt at found
  split at found
  case h_1 =>
    split at found
    · split at found
      · obtain ⟨consumer, _, rfl⟩ := Option.map_eq_some_iff.mp found
        cases awaited
      · exact ⟨consumer', found, rfl⟩
    · exact ⟨consumer', found, rfl⟩
  case h_2 | h_3 =>
    apply former_changedAt rfl ?_ found awaited
    rintro consumer _ ⟨⟩
    exact consumer.completeClose_concludes _ _
  case h_4 =>
    split at found
    · split at found
      · cases found
      · exact ⟨consumer', found, rfl⟩
    · exact ⟨consumer', found, rfl⟩
  case h_5 => exact ⟨consumer', found, rfl⟩

/-- A consumer that waits on was not answered: the reply it waits for concludes its close, and
removes it or opens it again where it waits for its unsubscribe. -/
theorem Waits.unanswered (waits : desk.Waits) (before : desk.consumers.lookup handle = some consumer)
    (same : consumer'.terminalOperation = consumer.terminalOperation)
    (found : desk.consumerAfterSuccess answered handle = some consumer' ∨
      ∃ code message provisional,
        desk.consumerAfterError answered code message provisional handle = some consumer')
    (awaited : consumer'.terminalOperation.awaited = some requestId) : answered ≠ requestId := by
  rintro rfl
  have waited : consumer.terminalOperation.awaited = some answered := same ▸ awaited
  suffices ended : consumer'.terminalOperation.awaited = none by
    rw [ended] at awaited
    cases awaited
  rcases awaitsPending_iff.mp (waits.pending handle consumer before answered waited) with
    ⟨pending, origin, operation, kind⟩ | ⟨pending, operation, kind⟩
  · rw [operation] at waited
    cases waited
    rcases kind with kind | kind <;>
    · simp [consumerAfterSuccess, consumerAfterError, kind, changedAt, before,
        ConsumerEnd.completeClose, operation] at found
      rcases found with found | ⟨_, _, found⟩ <;> rw [← found] <;> rfl
  · rw [operation] at waited
    cases waited
    have current := unsubscribeIsCurrent_iff.mpr ⟨consumer, before, operation⟩
    simp [consumerAfterSuccess, consumerAfterError, kind, changedAt, current, before] at found
    rw [← found]
    rfl

theorem still_other (found : desk.consumers.lookup handle = some consumer)
    (operation : consumer.terminalOperation = .unsubscribePending requestId)
    (differs : answered ≠ requestId) :
    Pends requestId (desk.changedAt named handle fun consumer =>
      if desk.unsubscribeIsCurrent named answered then change consumer else consumer) := by
  unfold changedAt
  split
  case isTrue same =>
    subst same
    have other : ¬ desk.unsubscribeIsCurrent named answered = true := by
      simp [unsubscribeIsCurrent, found, operation, differs.symm]
    exact ⟨consumer, (if_neg other).trans found, operation⟩
  case isFalse => exact ⟨consumer, found, operation⟩

theorem still_success (found : desk.consumers.lookup handle = some consumer)
    (operation : consumer.terminalOperation = .unsubscribePending requestId)
    (differs : answered ≠ requestId) :
    Pends requestId (desk.consumerAfterSuccess answered handle) := by
  unfold consumerAfterSuccess
  split
  case h_1 => exact still_other found operation differs
  case h_2 | h_3 =>
    exact still_map found operation (fun consumer => consumer.completeClose_concludes _ _)
  case h_4 => exact still_map found operation (fun _ => .inl rfl)
  case h_5 => exact ⟨consumer, found, operation⟩

theorem still_error (kept : ∀ named, (desk.ticket answered).kind = some (.consumerSubscribe named) →
      provisional = true → desk.waitsAt named = false)
    (found : desk.consumers.lookup handle = some consumer)
    (operation : consumer.terminalOperation = .unsubscribePending requestId)
    (differs : answered ≠ requestId) :
    Pends requestId (desk.consumerAfterError answered code message provisional handle) := by
  unfold consumerAfterError
  split
  case h_1 => exact still_other found operation differs
  case h_2 | h_3 =>
    exact still_map found operation (fun consumer => consumer.completeClose_concludes _ _)
  case h_4 named kind =>
    cases provisional with
    | true => exact still_of_idle found operation (kept named kind rfl)
    | false =>
      refine ⟨consumer, ?_, operation⟩
      simp [changedAt, found]
  case h_5 => exact ⟨consumer, found, operation⟩

/-- The answer to an unsubscribe leaves only the others without a completion. -/
theorem Waits.uncompleted (waits : desk.Waits)
    (uncompleted : desk.unsubscribeAnswered answered completion requestId = some none) :
    desk.unsubscribes.lookup requestId = some none ∧ answered ≠ requestId := by
  have before : desk.unsubscribes.lookup requestId = some none := by
    unfold unsubscribeAnswered at uncompleted
    split at uncompleted
    · split at uncompleted
      · obtain ⟨earlier, found, completed⟩ := Option.map_eq_some_iff.mp uncompleted
        cases earlier <;> cases completed
      · exact uncompleted
    · exact uncompleted
  refine ⟨before, ?_⟩
  rintro rfl
  obtain ⟨handle, current⟩ := waits.current answered before
  obtain ⟨consumer, found, operation⟩ := unsubscribeIsCurrent_iff.mp current
  have awaits := waits.pending handle consumer found answered (by rw [operation]; rfl)
  have kind : (desk.ticket answered).kind = some (.consumerUnsubscribe handle) := by
    simpa [awaitsPending, operation] using awaits
  simp [unsubscribeAnswered, kind, current, before] at uncompleted

theorem Waits.success (waits : desk.Waits) (free : desk.isAwaited desk.nextRequestId = false) :
    (desk.step (.reply (.success answered))).Waits := by
  apply waits.of_kept rfl free
  · intro handle consumer' found requestId awaited
    obtain ⟨consumer, before, same⟩ := former_success found awaited
    refine .inr ⟨?_, consumer, before, same⟩
    intro addressed
    exact waits.unanswered before same (.inl found) awaited (Option.some.inj addressed)
  · intro handle consumer requestId found operation spared
    exact still_success found operation fun same => spared (congrArg some same)
  · intro requestId uncompleted
    obtain ⟨before, differs⟩ := waits.uncompleted uncompleted
    exact .inl ⟨before, fun addressed => differs (Option.some.inj addressed)⟩

theorem Waits.error (waits : desk.Waits) (free : desk.isAwaited desk.nextRequestId = false)
    (kept : ∀ named, (desk.ticket answered).kind = some (.consumerSubscribe named) →
      provisional = true → desk.waitsAt named = false) :
    (desk.step (.reply (.error answered code message provisional))).Waits := by
  apply waits.of_kept rfl free
  · intro handle consumer' found requestId awaited
    obtain ⟨consumer, before, same⟩ := former_error found awaited
    refine .inr ⟨?_, consumer, before, same⟩
    intro addressed
    exact waits.unanswered before same (.inr ⟨_, _, _, found⟩) awaited (Option.some.inj addressed)
  · intro handle consumer requestId found operation spared
    exact still_error kept found operation fun same => spared (congrArg some same)
  · intro requestId uncompleted
    obtain ⟨before, differs⟩ := waits.uncompleted uncompleted
    exact .inl ⟨before, fun addressed => differs (Option.some.inj addressed)⟩

end Replies

/-! ### Close, unsubscribe, and the end of the session -/

/-- A close is under way: its request was just sent, for a consumer that was open. -/
theorem closing_cases (desk : RequestDesk) (origin : CloseOrigin) (consumer : ConsumerEnd) :
    consumer.Concludes (desk.closing origin consumer) ∨
      (desk.terminalAdmissionReason = none ∧ consumer.terminalOperation = .opened ∧
        (desk.closing origin consumer).terminalOperation = .pending desk.nextRequestId origin) := by
  unfold closing
  split
  · exact .inl (consumer.terminate_concludes origin _)
  case h_2 alive =>
    split
    case h_1 opened => exact .inr ⟨alive, opened, rfl⟩
    case h_2 => exact .inl (.inl rfl)

theorem unsubscribing_cases (desk : RequestDesk) (consumer : ConsumerEnd) :
    consumer.Concludes (desk.unsubscribing consumer) ∨
      (desk.terminalAdmissionReason = none ∧ consumer.terminalOperation = .opened ∧
        (desk.unsubscribing consumer).terminalOperation =
          .unsubscribePending desk.nextRequestId) := by
  unfold unsubscribing
  split
  · exact .inl (consumer.terminate_concludes .reliable _)
  case h_2 alive =>
    split
    case h_1 opened => exact .inr ⟨alive, opened, rfl⟩
    case h_2 => exact .inl (.inl rfl)

theorem kind_sent {kind : RequestKind}
    (changes : desk.changes desk.nextRequestId op = desk.issues kind desk.nextRequestId) :
    ((desk.step op).ticket desk.nextRequestId).kind = some kind := by
  rw [ticket_step, changes]
  simp [issues, changesAt, Ticket.kind_apply, TicketChange.kindAfter]

theorem Waits.closeConsumer (waits : desk.Waits)
    (free : desk.isAwaited desk.nextRequestId = false) (named : Nat) (origin : CloseOrigin) :
    (desk.step (.closeConsumer named origin)).Waits := by
  apply waits.of_map rfl free (by simp [addressed]) ?_ (fun _ => rfl) fun _ => .inl
  intro consumer found
  rcases desk.closing_cases origin consumer with concluded | ⟨alive, opened, operation⟩
  · exact .inl concluded
  · have sent : ((desk.step (.closeConsumer named origin)).ticket desk.nextRequestId).kind =
        some (if origin == .bestEffort then .consumerCloseForgotten named
          else .consumerClose named) :=
      kind_sent (by simp [changes, alive, found, opened])
    refine .inr ⟨opened, awaitsPending_iff.mpr (.inl ⟨_, origin, operation, ?_⟩)⟩
    rw [sent]
    cases origin <;> simp

theorem Waits.unsubscribe (waits : desk.Waits)
    (free : desk.isAwaited desk.nextRequestId = false) (named : Nat) :
    (desk.step (.unsubscribe named)).Waits := by
  apply waits.of_map rfl free (by simp [addressed]) ?_ (fun _ => rfl)
  · intro requestId uncompleted
    simp only [unsubscribeAfter] at uncompleted
    split at uncompleted
    case isFalse => exact .inl uncompleted
    case isTrue begun =>
      obtain ⟨admitted, rfl⟩ := begun
      obtain ⟨alive, opened⟩ := Bool.and_eq_true_iff.mp admitted
      cases found : desk.consumers.lookup named with
      | none => simp [found] at opened
      | some consumer =>
        refine .inr ⟨named, unsubscribeIsCurrent_iff.mpr ⟨desk.unsubscribing consumer, ?_, ?_⟩⟩
        · rw [consumer_step]
          simp [consumerAfter, changedAt, found]
        · have operation : consumer.terminalOperation = .opened := by simpa [found] using opened
          simp [unsubscribing, Option.isNone_iff_eq_none.mp alive, operation]
  · intro consumer found
    rcases desk.unsubscribing_cases consumer with concluded | ⟨alive, opened, operation⟩
    · exact .inl concluded
    · have sent : ((desk.step (.unsubscribe named)).ticket desk.nextRequestId).kind =
          some (.consumerUnsubscribe named) :=
        kind_sent (by simp [changes, alive, found, opened])
      exact .inr ⟨opened, awaitsPending_iff.mpr (.inr ⟨_, operation, sent⟩)⟩

theorem awaited_endOperation (completion : CloseCompletion)
    (pending : ∀ requestId, consumer.terminalOperation.awaited = some requestId →
      desk.awaitsPending handle consumer = true) :
    (desk.endOperation completion handle consumer).terminalOperation.awaited = none := by
  unfold endOperation
  split
  · split <;> rfl
  case isFalse idle =>
    cases awaited : consumer.terminalOperation.awaited with
    | none => rfl
    | some requestId => exact absurd (pending requestId awaited) idle

theorem awaited_terminate (origin : CloseOrigin) (reason : String)
    (idle : consumer.terminalOperation.awaited = none) :
    (consumer.terminate origin reason).terminalOperation.awaited = none := by
  rcases consumer.terminate_concludes origin reason with same | concluded
  · rw [same, idle]
  · exact concluded.1

/-- The end of the session completes every unsubscribe. -/
theorem Waits.unsubscribeEnded (waits : desk.Waits) (completion : CloseCompletion)
    (uncompleted : desk.unsubscribes.lookup requestId = some none) :
    desk.unsubscribeEnded completion requestId = some (some completion) := by
  obtain ⟨handle, current⟩ := waits.current requestId uncompleted
  obtain ⟨consumer, found, operation⟩ := unsubscribeIsCurrent_iff.mp current
  have awaits := waits.pending handle consumer found requestId (by rw [operation]; rfl)
  have kind : (desk.ticket requestId).kind = some (.consumerUnsubscribe handle) := by
    simpa [awaitsPending, operation] using awaits
  simp [RequestDesk.unsubscribeEnded, uncompleted, kind, current]

theorem Waits.of_ended (waits : desk.Waits)
    (idle : ∀ handle consumer', desk.consumerAfter handle op = some consumer' →
      consumer'.terminalOperation.awaited = none)
    (ended : ∀ requestId,
      desk.unsubscribeAfter requestId op = desk.unsubscribeEnded completion requestId) :
    (desk.step op).Waits where
  pending := by
    intro handle consumer' found requestId awaited
    rw [consumer_step] at found
    rw [idle handle consumer' found] at awaited
    cases awaited
  current := by
    intro requestId uncompleted
    rw [unsubscribe_step, ended] at uncompleted
    have before : desk.unsubscribes.lookup requestId = some none := by
      obtain ⟨earlier, found, kept⟩ := Option.map_eq_some_iff.mp uncompleted
      cases earlier with
      | none => exact found
      | some =>
        split at kept
        · split at kept <;> cases kept
        · cases kept
    rw [waits.unsubscribeEnded completion before] at uncompleted
    cases uncompleted

/-- One operation takes nothing away from those who wait. -/
theorem Waits.step (waits : desk.Waits) (guarded : desk.keepsWaiters op = true) :
    (desk.step op).Waits := by
  obtain ⟨next, condition⟩ := Bool.and_eq_true_iff.mp guarded
  have free : desk.isAwaited desk.nextRequestId = false := by simpa using next
  have spares {addressed : Option Nat}
      (unawaited : (addressed.all fun requestId => !desk.isAwaited requestId) = true)
      (requestId : Nat) (awaited : desk.isAwaited requestId = true) :
      addressed ≠ some requestId := by
    rintro rfl
    simp [awaited] at unawaited
  cases op with
  | subscribe =>
    have idle : desk.waitsAt desk.nextConsumerId = false := by simpa using condition
    apply waits.of_spared rfl free (by simp [addressed]) ?_ ?_ fun _ => rfl
    · intro handle consumer' found requestId awaited
      simp only [consumerAfter, changedAt] at found
      split at found
      · cases found
        cases awaited
      · exact ⟨consumer', found, rfl⟩
    · intro handle consumer requestId found operation
      simp only [consumerAfter]
      exact still_of_idle found operation idle
  | cancelConsumerSubscribe named =>
    have idle : desk.waitsAt named = false := by simpa using condition
    apply waits.of_spared rfl free (by simp [addressed]) ?_ ?_ fun _ => rfl
    · intro handle consumer' found requestId awaited
      simp only [consumerAfter] at found
      exact former_changedAt rfl (by simp) found awaited
    · intro handle consumer requestId found operation
      simp only [consumerAfter]
      exact still_of_idle found operation idle
  | seek =>
    apply waits.of_map rfl free (by simp [addressed]) ?_ (fun _ => rfl) fun _ => .inl
    exact fun _ _ => .inl (.inl rfl)
  | forceCloseConsumerForget =>
    apply waits.of_map rfl free (by simp [addressed]) ?_ (fun _ => rfl) fun _ => .inl
    exact fun consumer _ => .inl (desk.forcing_concludes consumer)
  | closeConsumer => exact waits.closeConsumer free _ _
  | unsubscribe named => exact waits.unsubscribe free named
  | reset =>
    apply waits.of_ended ?_ fun _ => rfl
    intro handle consumer' found
    obtain ⟨consumer, before, rfl⟩ := Option.map_eq_some_iff.mp found
    exact awaited_endOperation .sessionLost (waits.pending handle consumer before)
  | failAllPending reason =>
    apply waits.of_ended ?_ fun _ => rfl
    intro handle consumer' found
    obtain ⟨consumer, before, ended⟩ := Option.bind_eq_some_iff.mp found
    split at ended
    · cases ended
    · cases ended
      exact awaited_terminate .reliable reason
        (awaited_endOperation (.terminal reason) (waits.pending handle consumer before))
  | reply frame =>
    cases frame with
    | success => exact waits.success free
    | error =>
      apply waits.error free
      intro named kind rejected
      simpa [kind, rejected] using condition
    | _ => exact waits.of_same rfl free (spares condition) (fun _ => rfl) fun _ => rfl
  | _ => exact waits.of_same rfl free (spares condition) (fun _ => rfl) fun _ => rfl

end Waits

end RequestDesk

end Magnetar.Proto.Connection
