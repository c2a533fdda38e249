import Magnetar.Proto.Connection.ConsumerEnds
import Magnetar.Proto.Connection.Pending

/-!
Contract: the seek that freezes a consumer.

Owns: that a consumer waits for a seek exactly while its latest seek is pending, over every run in
which that seek ends by its own success or by `reset`.

Does not own: what the freeze does to deliveries (`Connection.Consumers`).

A consumer is only told about a success, and not about which.  The success of an older seek
unfreezes a consumer whose latest seek is pending; an error, a cancellation, a reply of another kind
and the end of the connection leave it frozen for a seek that is over.
-/

namespace Magnetar.Proto.Connection

open Library

variable {consumer' : ConsumerEnd} {op : DeskOp} {handle requestId : Nat}

def ConsumerEnd.SameSeeks (consumer consumer' : ConsumerEnd) : Prop :=
  consumer'.pendingSeek = consumer.pendingSeek ∧ consumer'.lastSeek = consumer.lastSeek

theorem ConsumerEnd.terminate_sameSeeks (consumer : ConsumerEnd) (origin : CloseOrigin)
    (reason : String) : consumer.SameSeeks (consumer.terminate origin reason) := by
  unfold terminate
  split <;> exact ⟨rfl, rfl⟩

theorem ConsumerEnd.completeClose_sameSeeks (consumer : ConsumerEnd) (requestId : Nat)
    (completion : CloseCompletion) :
    consumer.SameSeeks (consumer.completeClose requestId completion) := by
  unfold completeClose
  split
  · split <;> exact ⟨rfl, rfl⟩
  · exact ⟨rfl, rfl⟩

variable {consumer : ConsumerEnd} {answered named : Nat}

namespace RequestDesk

variable (desk : RequestDesk)

theorem closing_sameSeeks (origin : CloseOrigin) (consumer : ConsumerEnd) :
    consumer.SameSeeks (desk.closing origin consumer) := by
  unfold closing
  split
  · exact consumer.terminate_sameSeeks origin _
  · split <;> exact ⟨rfl, rfl⟩

theorem unsubscribing_sameSeeks (consumer : ConsumerEnd) :
    consumer.SameSeeks (desk.unsubscribing consumer) := by
  unfold unsubscribing
  split
  · exact consumer.terminate_sameSeeks .reliable _
  · split <;> exact ⟨rfl, rfl⟩

theorem forcing_sameSeeks (consumer : ConsumerEnd) :
    consumer.SameSeeks (desk.forcing consumer) := by
  unfold forcing
  split
  · exact ⟨rfl, rfl⟩
  · split <;> exact ⟨rfl, rfl⟩

theorem endOperation_sameSeeks (completion : CloseCompletion) (handle : Nat)
    (consumer : ConsumerEnd) :
    consumer.SameSeeks (desk.endOperation completion handle consumer) := by
  unfold endOperation
  split
  · split <;> exact ⟨rfl, rfl⟩
  · exact ⟨rfl, rfl⟩

def isSeek (requestId : Nat) : Bool :=
  match (desk.ticket requestId).kind with
  | some (.consumerSeek _) => true
  | _ => false

/-- A consumer is frozen until the request is answered. -/
def awaitsSeek (requestId : Nat) : Bool :=
  desk.consumers.entries.any fun entry => entry.2.pendingSeek == some requestId

/-- The operation ends no seek behind its consumer's back: a success answers the seek the consumer
waits for, if it waits for one, and nothing else ends that one; and no id is handed out again while
a seek is pending under it. -/
def keepsSeeks (op : DeskOp) : Bool :=
  !desk.isSeek desk.nextRequestId &&
    match op with
    | .reply (.success answered) =>
      match (desk.ticket answered).kind with
      | some (.consumerSeek handle) =>
        (desk.consumers.lookup handle).all fun consumer =>
          consumer.pendingSeek.all fun awaited => awaited == answered
      | _ => true
    | .failAllPending _ => desk.consumers.entries.all fun entry => entry.2.pendingSeek.isNone
    | op => (desk.addressed op).all fun requestId => !desk.awaitsSeek requestId

/-- The consumer is frozen exactly while its latest seek is pending. -/
def FrozenBy (handle : Nat) (consumer : ConsumerEnd) : Prop :=
  ∀ requestId, consumer.pendingSeek = some requestId ↔
    consumer.lastSeek = some requestId ∧
      (desk.ticket requestId).kind = some (.consumerSeek handle)

def SeeksMatch : Prop :=
  ∀ handle consumer, desk.consumers.lookup handle = some consumer → desk.FrozenBy handle consumer

section SeeksMatch

variable {desk : RequestDesk}

theorem isSeek_of_kind (pending : (desk.ticket requestId).kind = some (.consumerSeek handle)) :
    desk.isSeek requestId = true := by
  simp [isSeek, pending]

theorem kind_of_isSeek (seeking : desk.isSeek requestId = true) :
    ∃ handle, (desk.ticket requestId).kind = some (.consumerSeek handle) := by
  unfold isSeek at seeking
  split at seeking
  · exact ⟨_, ‹_›⟩
  · cases seeking

theorem awaitsSeek_of_pendingSeek (found : desk.consumers.lookup handle = some consumer)
    (waits : consumer.pendingSeek = some requestId) : desk.awaitsSeek requestId = true := by
  apply List.any_eq_true.mpr
  refine ⟨⟨handle, consumer⟩, AList.mem_lookup_iff.mp found, ?_⟩
  simp [waits]

theorem SeeksMatch.isSeek_of_awaitsSeek (aligned : desk.SeeksMatch)
    (awaited : desk.awaitsSeek requestId = true) : desk.isSeek requestId = true := by
  obtain ⟨⟨handle, consumer⟩, member, waits⟩ := List.any_eq_true.mp awaited
  have found : desk.consumers.lookup handle = some consumer := AList.mem_lookup_iff.mpr member
  exact isSeek_of_kind ((aligned handle consumer found requestId).mp (by simpa using waits)).2

/-- Which seeks are pending after an operation that sends none and addresses none that is
awaited. -/
theorem FrozenBy.spared (frozen : desk.FrozenBy handle consumer)
    (free : desk.isSeek desk.nextRequestId = false) (goesOn : op.goesOn = true)
    (unsent : desk.sends op ≠ some (.consumerSeek handle))
    (spared : ∀ requestId, consumer.pendingSeek = some requestId →
      desk.addressed op ≠ some requestId) :
    (desk.step op).FrozenBy handle consumer := by
  intro requestId
  rw [frozen requestId]
  apply and_congr_right
  intro last
  constructor
  · intro pending
    have waits := (frozen requestId).mpr ⟨last, pending⟩
    apply pending_after goesOn pending rfl
    · rintro rfl
      rw [isSeek_of_kind pending] at free
      cases free
    · exact spared requestId waits
  · intro pending
    rcases pending_before pending with before | sent
    · exact before
    · exact absurd sent.2 unsent

theorem FrozenBy.congr
    (frozen : desk.FrozenBy handle consumer) (same : consumer.SameSeeks consumer') :
    desk.FrozenBy handle consumer' := by
  intro requestId
  rw [same.1, same.2]
  exact frozen requestId

def FormerSeeks (desk : RequestDesk) (handle : Nat) (consumer' : ConsumerEnd) : Prop :=
  ∃ consumer, desk.consumers.lookup handle = some consumer ∧ consumer.SameSeeks consumer'

theorem SeeksMatch.spared (aligned : desk.SeeksMatch)
    (free : desk.isSeek desk.nextRequestId = false) (goesOn : op.goesOn = true)
    (unsent : ∀ handle, desk.sends op ≠ some (.consumerSeek handle))
    (spared : ∀ requestId, desk.awaitsSeek requestId = true → desk.addressed op ≠ some requestId)
    (kept : ∀ handle consumer', desk.consumerAfter handle op = some consumer' →
      consumer' = {} ∨ desk.FormerSeeks handle consumer') :
    (desk.step op).SeeksMatch := by
  intro handle consumer' found
  rw [consumer_step] at found
  rcases kept handle consumer' found with rfl | ⟨consumer, before, same⟩
  · intro requestId
    simp
  · have frozen := aligned handle consumer before
    apply (frozen.spared free goesOn (unsent handle) ?_).congr same
    intro requestId waits
    exact spared requestId (awaitsSeek_of_pendingSeek before waits)

theorem formerSeeks_changedAt {change : Option ConsumerEnd → Option ConsumerEnd}
    (absent : change none = none)
    (keeps : ∀ consumer consumer', change (some consumer) = some consumer' →
      consumer.SameSeeks consumer')
    (found : desk.changedAt named handle change = some consumer') :
    desk.FormerSeeks handle consumer' := by
  unfold changedAt at found
  split at found
  · cases before : desk.consumers.lookup handle with
    | none =>
      rw [before, absent] at found
      cases found
    | some consumer =>
      rw [before] at found
      exact ⟨consumer, before, keeps consumer consumer' found⟩
  · exact ⟨consumer', found, rfl, rfl⟩

theorem formerSeeks_map {update : ConsumerEnd → ConsumerEnd}
    (keeps : ∀ consumer, ConsumerEnd.SameSeeks consumer (update consumer))
    (found : desk.changedAt named handle (Option.map update) = some consumer') :
    desk.FormerSeeks handle consumer' := by
  apply formerSeeks_changedAt rfl ?_ found
  intro consumer updated same
  cases same
  exact keeps consumer

theorem formerSeeks_success (other : desk.isSeek answered = false)
    (found : desk.consumerAfterSuccess answered handle = some consumer') :
    desk.FormerSeeks handle consumer' := by
  unfold consumerAfterSuccess at found
  unfold isSeek at other
  split at found
  case h_1 =>
    apply formerSeeks_changedAt ?_ ?_ found
    · split <;> rfl
    · intro consumer updated same
      split at same
      · cases same
      · cases same
        exact ⟨rfl, rfl⟩
  case h_2 | h_3 =>
    exact formerSeeks_map (fun consumer => consumer.completeClose_sameSeeks _ _) found
  case h_4 pending =>
    rw [pending] at other
    cases other
  case h_5 => exact ⟨consumer', found, rfl, rfl⟩

theorem formerSeeks_error {code : Int} {message : String} {provisional : Bool}
    (found : desk.consumerAfterError answered code message provisional handle = some consumer') :
    desk.FormerSeeks handle consumer' := by
  unfold consumerAfterError at found
  split at found
  case h_1 =>
    apply formerSeeks_changedAt ?_ ?_ found
    · split <;> rfl
    · intro consumer updated same
      split at same
      · cases same
        exact ⟨rfl, rfl⟩
      · cases same
        exact ⟨rfl, rfl⟩
  case h_2 | h_3 =>
    exact formerSeeks_map (fun consumer => consumer.completeClose_sameSeeks _ _) found
  case h_4 =>
    apply formerSeeks_changedAt ?_ ?_ found
    · split <;> rfl
    · intro consumer updated same
      split at same
      · cases same
      · cases same
        exact ⟨rfl, rfl⟩
  case h_5 => exact ⟨consumer', found, rfl, rfl⟩

/-- The success of the seek that the consumer waits for, or of one that is no longer its latest. -/
theorem SeeksMatch.success (aligned : desk.SeeksMatch)
    (free : desk.isSeek desk.nextRequestId = false)
    (pending : (desk.ticket answered).kind = some (.consumerSeek named))
    (current : ∀ consumer requestId, desk.consumers.lookup named = some consumer →
      consumer.pendingSeek = some requestId → requestId = answered) :
    (desk.step (.reply (.success answered))).SeeksMatch := by
  have ended : ((desk.step (.reply (.success answered))).ticket answered).kind = none := by
    rw [ticket_step]
    simp [changes, replyChanges, pending, successChanges, changesAt, Ticket.kind_apply,
      TicketChange.kindAfter]
  intro handle consumer' found
  rw [consumer_step] at found
  simp only [consumerAfter, consumerAfterSuccess, pending, changedAt] at found
  by_cases same : named = handle
  · subst same
    rw [if_pos rfl] at found
    obtain ⟨consumer, before, rfl⟩ := Option.map_eq_some_iff.mp found
    intro requestId
    constructor
    · intro waits
      cases waits
    · rintro ⟨last, stillPending⟩
      rcases pending_before stillPending with earlier | sent
      · have waits := (aligned named consumer before requestId).mpr ⟨last, earlier⟩
        rw [current consumer requestId before waits, ended] at stillPending
        cases stillPending
      · cases sent.2
  · rw [if_neg same] at found
    have frozen := aligned handle consumer' found
    apply frozen.spared free rfl (by simp [sends])
    intro requestId waits addressed
    cases addressed
    rw [((frozen answered).mp waits).2, Option.some.injEq] at pending
    cases pending
    exact same rfl

theorem SeeksMatch.seek (aligned : desk.SeeksMatch)
    (free : desk.isSeek desk.nextRequestId = false) (named : Nat) :
    (desk.step (.seek named)).SeeksMatch := by
  have sent : ((desk.step (.seek named)).ticket desk.nextRequestId).kind =
      some (.consumerSeek named) := by
    rw [ticket_step]
    simp [changes, issues, changesAt, Ticket.kind_apply, TicketChange.kindAfter]
  intro handle consumer' found
  rw [consumer_step] at found
  simp only [consumerAfter, changedAt] at found
  by_cases same : named = handle
  · subst same
    rw [if_pos rfl] at found
    obtain ⟨consumer, before, rfl⟩ := Option.map_eq_some_iff.mp found
    intro requestId
    constructor
    · intro waits
      cases waits
      exact ⟨rfl, sent⟩
    · exact fun latest => latest.1
  · rw [if_neg same] at found
    apply (aligned handle consumer' found).spared free rfl
    · simpa [sends] using same
    · simp [addressed]

/-- After the end of the session no seek is pending, so no consumer may wait for one. -/
theorem SeeksMatch.of_ended {outcome : RequestOutcome}
    (changes : ∀ requestId, desk.changes requestId op = desk.endChanges outcome requestId)
    (idle : ∀ handle consumer', desk.consumerAfter handle op = some consumer' →
      consumer'.pendingSeek = none) : (desk.step op).SeeksMatch := by
  intro handle consumer' found requestId
  rw [consumer_step] at found
  rw [idle handle consumer' found, ticket_step, changes, kind_endChanges]
  simp

/-- One operation keeps every consumer's freeze in step with its latest seek. -/
theorem SeeksMatch.step (aligned : desk.SeeksMatch)
    (guarded : desk.keepsSeeks op = true) : (desk.step op).SeeksMatch := by
  obtain ⟨next, condition⟩ := Bool.and_eq_true_iff.mp guarded
  have free : desk.isSeek desk.nextRequestId = false := by simpa using next
  have spares {addressed : Option Nat}
      (unawaited : (addressed.all fun requestId => !desk.awaitsSeek requestId) = true)
      (requestId : Nat) (awaited : desk.awaitsSeek requestId = true) :
      addressed ≠ some requestId := by
    rintro rfl
    simp [awaited] at unawaited
  have former {handle : Nat} {consumer' : ConsumerEnd}
      (found : desk.consumers.lookup handle = some consumer') :
      consumer' = {} ∨ desk.FormerSeeks handle consumer' :=
    .inr ⟨consumer', found, rfl, rfl⟩
  cases op with
  | seek named => exact aligned.seek free named
  | subscribe =>
    apply aligned.spared free rfl (by simp [sends]) (by simp [addressed])
    intro handle consumer' found
    simp only [consumerAfter, changedAt] at found
    split at found
    · cases found
      exact .inl rfl
    · exact former found
  | cancelConsumerSubscribe =>
    apply aligned.spared free rfl (by simp [sends]) (by simp [addressed])
    intro handle consumer' found
    simp only [consumerAfter] at found
    exact .inr (formerSeeks_changedAt rfl (by simp) found)
  | closeConsumer _ origin =>
    apply aligned.spared free rfl ?_ (by simp [addressed])
    · intro handle consumer' found
      exact .inr (formerSeeks_map (desk.closing_sameSeeks origin) found)
    · intro handle
      cases origin <;> simp [sends]
  | forceCloseConsumerForget =>
    apply aligned.spared free rfl (by simp [sends]) (by simp [addressed])
    intro handle consumer' found
    exact .inr (formerSeeks_map desk.forcing_sameSeeks found)
  | unsubscribe =>
    apply aligned.spared free rfl (by simp [sends]) (by simp [addressed])
    intro handle consumer' found
    exact .inr (formerSeeks_map desk.unsubscribing_sameSeeks found)
  | closeProducer _ forgotten =>
    apply aligned.spared free rfl ?_ (by simp [addressed])
    · exact fun _ _ found => former found
    · intro handle
      cases forgotten <;> simp [sends]
  | reset =>
    apply SeeksMatch.of_ended fun _ => rfl
    intro handle consumer' found
    obtain ⟨consumer, _, rfl⟩ := Option.map_eq_some_iff.mp found
    rfl
  | failAllPending =>
    apply SeeksMatch.of_ended fun _ => rfl
    intro handle consumer' found
    obtain ⟨consumer, before, ended⟩ := Option.bind_eq_some_iff.mp found
    have idle := List.all_eq_true.mp condition ⟨handle, consumer⟩ (AList.mem_lookup_iff.mp before)
    split at ended
    · cases ended
    · cases ended
      rw [(ConsumerEnd.terminate_sameSeeks _ _ _).1, (desk.endOperation_sameSeeks _ _ _).1]
      simpa using idle
  | reply frame =>
    cases frame with
    | success answered =>
      cases seeking : desk.isSeek answered with
      | true =>
        obtain ⟨named, pending⟩ := kind_of_isSeek seeking
        apply aligned.success free pending
        intro consumer requestId found waits
        simpa [pending, found, waits] using condition
      | false =>
        apply aligned.spared free rfl (by simp [sends])
        · rintro requestId awaited addressed
          cases addressed
          rw [aligned.isSeek_of_awaitsSeek awaited] at seeking
          cases seeking
        · exact fun _ _ found => .inr (formerSeeks_success seeking found)
    | error =>
      apply aligned.spared free rfl (by simp [sends]) (spares condition)
      exact fun _ _ found => .inr (formerSeeks_error found)
    | _ =>
      apply aligned.spared free rfl (by simp [sends]) (spares condition)
      exact fun _ _ found => former found
  | _ =>
    apply aligned.spared free rfl (by simp [sends]) (spares condition)
    exact fun _ _ found => former found

end SeeksMatch

/-- As long as no seek ends behind its consumer's back, a consumer waits for a seek in every state
of a run exactly when that is the last one sent for it and it is still pending. -/
theorem pending_seek_is_latest (ackResponseTimeout : Option Nat) (maxPending : Nat)
    (ops : List DeskOp)
    (guarded : Machine.Guarded RequestDesk.step (fun desk op => desk.keepsSeeks op = true)
      (fresh ackResponseTimeout maxPending) ops) :
    let desk := Machine.run RequestDesk.step (fresh ackResponseTimeout maxPending) ops
    ∀ handle consumer, desk.consumers.lookup handle = some consumer →
      ∀ requestId, consumer.pendingSeek = some requestId ↔
        consumer.lastSeek = some requestId ∧
          (desk.ticket requestId).kind = some (.consumerSeek handle) := by
  have initial : (fresh ackResponseTimeout maxPending).SeeksMatch := by
    intro handle consumer found
    cases found
  exact Machine.run_invariant SeeksMatch (fun _ _ => SeeksMatch.step) initial guarded

/-- Two overlapping seeks of which the first is rejected and the second succeeds, and a third that
the session's end abandons. -/
theorem overlapping_seeks_match :
    let ops := [DeskOp.subscribe, .reply (.success 0), .seek 0, .seek 0,
      .reply (.error 1 5 "seek rejected" false), .reply (.success 2), .seek 0]
    let desk := Machine.run RequestDesk.step (fresh none 0) ops
    (∀ handle consumer, desk.consumers.lookup handle = some consumer →
      ∀ requestId, consumer.pendingSeek = some requestId ↔
        consumer.lastSeek = some requestId ∧
          (desk.ticket requestId).kind = some (.consumerSeek handle)) ∧
    (desk.consumers.lookup 0).map ConsumerEnd.pendingSeek = some (some 3) ∧
    ((desk.step .reset).consumers.lookup 0).map ConsumerEnd.pendingSeek = some none := by
  refine ⟨pending_seek_is_latest none 0 _ ?_, ?_⟩
  · decide +kernel
  · decide +kernel

/-- The success of the first of two seeks unfreezes the consumer while the second is pending, and
an error leaves it frozen for a seek that is answered. -/
theorem seek_freeze_out_of_step :
    let seeking := [DeskOp.subscribe, .reply (.success 0), .seek 0]
    let older := Machine.run RequestDesk.step (fresh none 0)
      (seeking ++ [.seek 0, .reply (.success 1)])
    let rejected := Machine.run RequestDesk.step (fresh none 0)
      (seeking ++ [.reply (.error 1 5 "seek rejected" false)])
    (older.consumers.lookup 0).map (fun consumer => (consumer.pendingSeek, consumer.lastSeek)) =
      some (none, some 2) ∧
    (older.ticket 2).kind = some (.consumerSeek 0) ∧
    (rejected.consumers.lookup 0).map ConsumerEnd.pendingSeek = some (some 1) ∧
    (rejected.ticket 1).kind = none ∧
    (rejected.ticket 1).outcome = some (.error 5 "seek rejected") := by
  decide +kernel

end RequestDesk

end Magnetar.Proto.Connection
