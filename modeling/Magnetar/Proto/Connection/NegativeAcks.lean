import Magnetar.Proto.Connection.CumulativeAcks

/-!
Contract: what a negative acknowledgement asks for.

Owns: the deadline under which a consumer keeps a negatively acknowledged id, the redelivery requests
that such an acknowledgement causes over a whole run, and the acknowledgement timeout that it ends.

Does not own: requests without ids, which ask for everything and are on no id's account.
-/

namespace Magnetar.Proto.Connection

open Library Library.Machine Pb External Consumer Trackers.Nack Trackers.Unacked AckSession
open Trackers.Unacked.UnackedMessageTracker

variable {op : AckOp} {session : AckSession} {id : MessageId}

def Nacks (id : MessageId) : AckOp → Prop
  | .negativeAck ids _ => id ∈ ids
  | .negativeAckWithDelay nacked _ _ => id = nacked
  | _ => False

/-- The call is a positive individual acknowledgement of the id, outside any transaction. -/
def IndividuallyAcks (id : MessageId) : AckOp → Prop
  | .ack request _ =>
    request.ackType = .individual ∧ id ∈ request.messageIds ∧ request.txnId = none ∧
      isRefused request = false
  | _ => False

/-- The command asks for the id by name. -/
def Names (id : MessageId) : AckCommand → Bool
  | .redeliver command => decide (id.toPb ∈ command.messageIds)
  | .ack _ => false

/-- The redelivery requests that a call sends for negative acknowledgements: its own, or the first
ones of a timer tick, which stand for the due groups of the tracker. -/
def nackRequests (session : AckSession) : AckOp → List AckCommand
  | .negativeAck ids now => (session.negativeAck ids now).sent.drop session.sent.length
  | .negativeAckWithDelay id delay now =>
    (session.negativeAckWithDelay id delay now).sent.drop session.sent.length
  | .handleTimeout stallTimeout now =>
    (tickSends session stallTimeout now).take (AckSession.nackDue session.consumer now).length
  | _ => []

def asksFor (id : MessageId) (session : AckSession) (op : AckOp) : Nat :=
  (nackRequests session op).countP (Names id)

/-- When the tracker of negative acknowledgements will ask for the id. -/
def nackDeadline (consumer : AckingConsumer) (id : MessageId) : Option Nat :=
  consumer.nackTracker.bind fun tracker => tracker.pending.lookup id

variable (tracker : NegativeAcksTracker)

def nackedUntil : AckOp → Nat
  | .negativeAck _ now => deadlineWithClamp now tracker.redeliveryDelay
  | .negativeAckWithDelay _ delay now => deadlineWithClamp now delay
  | _ => 0

def sweeps (due : Nat) : AckOp → Bool
  | .handleTimeout _ now => decide (due ≤ now)
  | _ => false

/-! ### The requests -/

theorem names_redeliver (id : MessageId) (consumerId : Nat) (ids : List MessageId) :
    Names id (.redeliver { consumerId, messageIds := ids.map MessageId.toPb }) =
      decide (id ∈ ids) := by
  have named : id.toPb ∈ ids.map MessageId.toPb ↔ id ∈ ids := by
    constructor
    · intro member
      obtain ⟨other, inside, same⟩ := List.mem_map.mp member
      rwa [← MessageId.fromPb_toPb id, ← same, MessageId.fromPb_toPb]
    · exact List.mem_map_of_mem
  exact decide_eq_decide.mpr named

theorem nackRequests_handleTimeout (session : AckSession) (stallTimeout : Option Nat) (now : Nat) :
    nackRequests session (.handleTimeout stallTimeout now) =
      (nackDue session.consumer now).map fun ids => .redeliver {
        consumerId := (pollTrackers session.consumer stallTimeout now).handle
        messageIds := ids.map MessageId.toPb } := by
  obtain ⟨acks, sends, _⟩ := tickSends_eq session stallTimeout now
  rw [nackRequests, sends, List.map_append, List.append_assoc]
  exact List.take_left' (List.length_map _)

/-- A timer tick asks for an id once when its deadline is over. -/
theorem asksFor_handleTimeout (id : MessageId) (session : AckSession) (stallTimeout : Option Nat)
    (now : Nat) :
    asksFor id session (.handleTimeout stallTimeout now) =
      if (nackDeadline session.consumer id).any fun due => decide (due ≤ now) then 1 else 0 := by
  rw [asksFor, nackRequests_handleTimeout, List.countP_map]
  cases held : session.consumer.nackTracker with
  | none => simp [nackDue, nackDeadline, held]
  | some =>
    simp only [nackDue, nackDeadline, held, Option.bind_some, ← mem_dueIn]
    rw [NegativeAcksTracker.poll]
    split
    · rename_i empty
      simp [List.isEmpty_iff.mp empty]
    · simp [Function.comp_def, names_redeliver, List.countP_cons]

/-! ### Negative acknowledgements -/

def nackedIds : AckOp → List MessageId
  | .negativeAck ids _ => ids
  | .negativeAckWithDelay nacked _ _ => [nacked]
  | _ => []

def nackedTracker : AckOp → NegativeAcksTracker
  | .negativeAck ids now => ids.foldl (fun kept id => kept.add id now) tracker
  | .negativeAckWithDelay nacked delay now => tracker.addWithDelay nacked delay now
  | _ => tracker

theorem nacks_iff : Nacks id op ↔ id ∈ nackedIds op := by
  cases op with
  | negativeAckWithDelay => exact List.mem_singleton.symm
  | negativeAck => exact Iff.rfl
  | _ => exact ⟨fun impossible => impossible.elim, fun member => absurd member List.not_mem_nil⟩

variable (single : Prost SingleMessageMetadata) (codecs : Codecs)

/-- Without a tracker the ids are asked for at once.  With one they wait for it. -/
theorem step_nack (nacks : nackedIds op ≠ []) :
    session.step single codecs op =
      let forgotten := forgetUnacked session.consumer (nackedIds op)
      match session.consumer.nackTracker with
      | none => emitRedeliverUnacked { session with consumer := forgotten } (nackedIds op)
      | some tracker =>
        { session with
          consumer := { forgotten with nackTracker := some (nackedTracker tracker op) } } := by
  have same (ids : List MessageId) :
      (forgetUnacked session.consumer ids).nackTracker = session.consumer.nackTracker := rfl
  cases op with
  | negativeAck ids now =>
    have occupied : ids.isEmpty = false := List.isEmpty_eq_false_iff.mpr nacks
    show session.negativeAck ids now = _
    rw [negativeAck, occupied]
    simp only [same]
    cases session.consumer.nackTracker <;> rfl
  | negativeAckWithDelay nacked delay now =>
    show session.negativeAckWithDelay nacked delay now = _
    rw [negativeAckWithDelay]
    simp only [same]
    cases session.consumer.nackTracker <;> rfl
  | _ => exact absurd rfl nacks

theorem nackRequests_nack (session : AckSession) (nacks : nackedIds op ≠ []) :
    nackRequests session op = (session.step single codecs op).sent.drop session.sent.length := by
  cases op with
  | negativeAck | negativeAckWithDelay => rfl
  | _ => exact absurd rfl nacks

theorem asksFor_nack (id : MessageId) (session : AckSession) (nacks : nackedIds op ≠ []) :
    asksFor id session op =
      if session.consumer.nackTracker.isNone ∧ id ∈ nackedIds op then 1 else 0 := by
  -- What the ids and the messages are encoded as plays no part in what a call sends.
  rw [asksFor, nackRequests_nack default default session nacks, step_nack default default nacks]
  cases session.consumer.nackTracker with
  | none => simp [emitRedeliverUnacked, send, names_redeliver, List.countP_cons]
  | some => simp

/-- No other call asks for the id but a timer tick that finds it due. -/
theorem asksFor_of_not_nacks (others : ¬ Nacks id op) (session : AckSession) :
    asksFor id session op =
      if (nackDeadline session.consumer id).any fun due => sweeps due op then 1 else 0 := by
  rw [nacks_iff] at others
  have silent (nacks : nackedIds op ≠ []) : asksFor id session op = 0 := by
    rw [asksFor_nack id session nacks]
    exact if_neg fun found => others found.2
  cases op with
  | handleTimeout => exact asksFor_handleTimeout id session _ _
  | negativeAck ids =>
    by_cases empty : ids = []
    · subst empty
      simp [asksFor, nackRequests, negativeAck, emitRedeliverUnacked,
        send, Names, sweeps]
    · simp [silent empty, sweeps]
  | negativeAckWithDelay => simp [silent (List.cons_ne_nil _ _), sweeps]
  | _ => simp [asksFor, nackRequests, sweeps]

/-! ### The deadline -/

theorem lookup_addAll (id : MessageId) (ids : List MessageId) (now : Nat) :
    (ids.foldl (fun kept id => kept.add id now) tracker).pending.lookup id =
      if id ∈ ids then some (deadlineWithClamp now tracker.redeliveryDelay)
      else tracker.pending.lookup id := by
  induction ids generalizing tracker with
  | nil => simp
  | cons added rest ih =>
    rw [List.foldl_cons, ih]
    by_cases later : id ∈ rest
    · simp [later, NegativeAcksTracker.add, NegativeAcksTracker.addWithDelay]
    · by_cases same : id = added
      · subst same
        simp [NegativeAcksTracker.add, NegativeAcksTracker.addWithDelay]
      · simp [later, same, NegativeAcksTracker.add, NegativeAcksTracker.addWithDelay]

theorem lookup_nackedTracker (id : MessageId) (op : AckOp) :
    (nackedTracker tracker op).pending.lookup id =
      if id ∈ nackedIds op then some (nackedUntil tracker op) else tracker.pending.lookup id := by
  cases op with
  | negativeAck ids now => exact lookup_addAll tracker id ids now
  | negativeAckWithDelay nacked =>
    by_cases same : id = nacked
    · subst same
      simp [nackedTracker, nackedIds, nackedUntil, NegativeAcksTracker.addWithDelay]
    · simp [nackedTracker, nackedIds, NegativeAcksTracker.addWithDelay, same]
  | _ => rfl

theorem nackDeadline_nack (session : AckSession) (nacks : nackedIds op ≠ []) (id : MessageId) :
    nackDeadline (session.step single codecs op).consumer id =
      if id ∈ nackedIds op then
        session.consumer.nackTracker.map fun tracker => nackedUntil tracker op
      else nackDeadline session.consumer id := by
  rw [step_nack single codecs nacks]
  cases held : session.consumer.nackTracker with
  | none => simp [nackDeadline, emitRedeliverUnacked, send, forgetUnacked, held]
  | some => simp [nackDeadline, held, lookup_nackedTracker]

theorem lookup_removeAll (id : MessageId) (ids : List MessageId) :
    (ids.foldl (fun kept id => kept.remove id) tracker).pending.lookup id =
      if id ∈ ids then none else tracker.pending.lookup id := by
  have pending : (ids.foldl (fun kept id => kept.remove id) tracker).pending =
      ids.foldl (fun kept id => kept.erase id) tracker.pending := by
    induction ids generalizing tracker with
    | nil => rfl
    | cons _ _ ih => exact ih _
  rw [pending]
  exact Table.lookup_foldl_erase ids tracker.pending id

theorem Forgets.nackDeadline {before after : AckingConsumer} {ids : List MessageId}
    (forgets : Forgets before ids after) (id : MessageId) :
    nackDeadline after id = if id ∈ ids then none else nackDeadline before id := by
  unfold Connection.nackDeadline
  rw [forgets.nacked]
  cases before.nackTracker with
  | none => simp
  | some => simp [lookup_removeAll]

theorem nackDeadline_pollTrackers (consumer : AckingConsumer) (stallTimeout : Option Nat) (now : Nat)
    (id : MessageId) :
    nackDeadline (pollTrackers consumer stallTimeout now) id =
      (nackDeadline consumer id).filter fun due => decide (now < due) := by
  have polled : (pollTrackers consumer stallTimeout now).nackTracker =
      consumer.nackTracker.map fun tracker => (tracker.poll now).1 := rfl
  rw [nackDeadline, nackDeadline, polled]
  cases consumer.nackTracker with
  | none => rfl
  | some tracker =>
    show (tracker.poll now).1.pending.lookup id = _
    rw [NegativeAcksTracker.poll]
    split
    · rename_i empty
      have absent : id ∉ dueIn tracker.pending now := by
        rw [List.isEmpty_iff.mp empty]
        exact List.not_mem_nil
      rw [mem_dueIn] at absent
      cases found : tracker.pending.lookup id with
      | none => simp [found]
      | some due =>
        have ahead : now < due := by simpa [found] using absent
        rw [Option.bind_some, found, Option.filter_some, if_pos (decide_eq_true ahead)]
    · exact lookup_erase_dueIn tracker.pending now id

/-- A call that does not negatively acknowledge the id keeps its deadline, unless it acknowledges the
id or asks for it. -/
theorem nackDeadline_step (session : AckSession) (others : ¬ Nacks id op) :
    nackDeadline (session.step single codecs op).consumer id =
      if id ∈ acknowledgedIds session op then none
      else (nackDeadline session.consumer id).filter fun due => !sweeps due op := by
  have unswept (quiet : ∀ due, sweeps due op = false) :
      ((nackDeadline session.consumer id).filter fun due => !sweeps due op) =
        nackDeadline session.consumer id := by
    cases nackDeadline session.consumer id <;> simp [quiet]
  rw [nacks_iff] at others
  by_cases nacks : nackedIds op = []
  · cases op with
    | slot =>
      rw [unswept fun _ => rfl]
      rfl
    | negativeAck ids =>
      have empty : ids = [] := nacks
      subst empty
      rw [unswept fun _ => rfl]
      rfl
    | negativeAckWithDelay => cases nacks
    | handleTimeout stallTimeout now =>
      have forgets := (handleTimeout_forgets session stallTimeout now).nackDeadline id
      rw [nackDeadline_pollTrackers] at forgets
      have later (due : Nat) :
          (!sweeps due (.handleTimeout stallTimeout now)) = decide (now < due) := by
        rw [sweeps, ← decide_not, decide_eq_decide]
        exact Nat.not_le
      simp only [later]
      exact forgets
    | _ =>
      rw [unswept fun _ => rfl]
      exact (step_forgets single codecs session rfl).nackDeadline id
  · rw [nackDeadline_nack single codecs session nacks, if_neg others]
    cases op with
    | negativeAck | negativeAckWithDelay => exact (unswept fun _ => rfl).symm
    | _ => exact absurd rfl nacks

/-! ### Runs -/

/-- A timer tick at or after the deadline comes before any acknowledgement of the id. -/
def sweptFirst (id : MessageId) (due : Nat) : AckSession → List AckOp → Bool
  | _, [] => false
  | session, op :: rest =>
    sweeps due op ||
      (decide (id ∉ acknowledgedIds session op) &&
        sweptFirst id due (session.step single codecs op) rest)

variable {ops : List AckOp}

/-- An id without a deadline is not asked for until it is negatively acknowledged again. -/
theorem tally_of_no_deadline
    (none : nackDeadline session.consumer id = none) (others : ∀ op ∈ ops, ¬ Nacks id op) :
    tally (AckSession.step single codecs) (asksFor id) session ops = 0 := by
  induction ops generalizing session with
  | nil => rfl
  | cons op _ ih =>
    obtain ⟨other, later⟩ := List.forall_mem_cons.mp others
    have still : nackDeadline (session.step single codecs op).consumer id = Option.none := by
      rw [nackDeadline_step single codecs session other, none]
      exact ite_self _
    rw [tally, asksFor_of_not_nacks other session, none, ih still later]
    rfl

/-- An id with a deadline is asked for once, if the deadline is swept before the id is acknowledged. -/
theorem tally_of_deadline {due : Nat}
    (waits : nackDeadline session.consumer id = some due) (others : ∀ op ∈ ops, ¬ Nacks id op) :
    tally (AckSession.step single codecs) (asksFor id) session ops =
      if sweptFirst single codecs id due session ops then 1 else 0 := by
  induction ops generalizing session with
  | nil => rfl
  | cons op _ ih =>
    obtain ⟨other, later⟩ := List.forall_mem_cons.mp others
    have next := nackDeadline_step single codecs session other
    rw [waits, Option.filter_some] at next
    rw [tally, asksFor_of_not_nacks other session, waits, sweptFirst]
    cases swept : sweeps due op with
    | true =>
      have gone : nackDeadline (session.step single codecs op).consumer id = none := by
        rw [next]
        simp [swept]
      simp [swept, tally_of_no_deadline single codecs gone later]
    | false =>
      by_cases acked : id ∈ acknowledgedIds session op
      · rw [if_pos acked] at next
        simp [swept, acked, tally_of_no_deadline single codecs next later]
      · rw [if_neg acked] at next
        simp [swept, acked, ih (by simpa [swept] using next) later]

/-! ### The acknowledgement timeout -/

theorem unackedTracker_nack (session : AckSession) (nacks : nackedIds op ≠ []) :
    (session.step single codecs op).consumer.unackedTracker =
      (forgetUnacked session.consumer (nackedIds op)).unackedTracker := by
  rw [step_nack single codecs nacks]
  cases session.consumer.nackTracker <;> rfl

theorem unwatched_of_nacks (located : LocatedTracker session.consumer) (nacks : Nacks id op) :
    Unwatched (session.step single codecs op).consumer id := by
  rw [nacks_iff] at nacks
  intro tracker member
  rw [unackedTracker_nack single codecs session (List.ne_nil_of_mem nacks)] at member
  obtain ⟨earlier, held, rfl⟩ := Option.mem_map.mp member
  exact lacks_removeAll_of_mem (located earlier held) nacks

theorem Unwatched.step (unwatched : Unwatched session.consumer id)
    (undelivered : ∀ d, op = .slot (.deliver d) → ¬ Lists d id) :
    Unwatched (session.step single codecs op).consumer id := by
  by_cases nacks : nackedIds op = []
  · cases op with
    | slot =>
      apply Unwatched.slotStep single codecs unwatched
      rintro d rfl
      exact undelivered d rfl
    | negativeAck ids =>
      have empty : ids = [] := nacks
      subst empty
      exact unwatched
    | negativeAckWithDelay => cases nacks
    | handleTimeout stallTimeout now =>
      exact (handleTimeout_forgets session stallTimeout now).unwatched
        (unwatched.pollTrackers stallTimeout now)
    | _ => exact (step_forgets single codecs session rfl).unwatched unwatched
  · intro tracker member
    rw [unackedTracker_nack single codecs session nacks] at member
    exact unwatched.forgetUnacked (nackedIds op) tracker member

theorem Unwatched.run (unwatched : Unwatched session.consumer id)
    (undelivered : ∀ op ∈ ops, ∀ d, op = .slot (.deliver d) → ¬ Lists d id) :
    Unwatched (run (AckSession.step single codecs) session ops).consumer id := by
  induction ops generalizing session with
  | nil => exact unwatched
  | cons _ _ ih =>
    obtain ⟨now, later⟩ := List.forall_mem_cons.mp undelivered
    exact ih (unwatched.step single codecs now) later

theorem Unwatched.not_due {consumer : AckingConsumer}
    (unwatched : Unwatched consumer id) {now : Nat} {ids : List MessageId}
    (due : ids ∈ unackedDue consumer now) : id ∉ ids := by
  intro inside
  rw [unackedDue] at due
  split at due
  · rename_i tracker held
    obtain ⟨group, member, rfl⟩ := List.mem_map.mp due
    exact (unwatched tracker held).not_returned now (List.mem_flatMap.mpr ⟨group, member, inside⟩)
  · cases due

/-- In every run of a consumer, a negative acknowledgement of an id that is not negatively
acknowledged again: it causes one redelivery request for the id, at once where there is no tracker,
and otherwise when a timer tick finds its delay over before the id is acknowledged; none is sent from
a positive acknowledgement of the id on; and, where the locator of the acknowledgement-timeout
tracker has stayed right, that tracker does not report the id until it is dispatched again. -/
theorem nack_asks_once (session : AckSession) (located : LocatedTracker session.consumer)
    (earlier : List AckOp) (nack : AckOp) (id : MessageId) (nacks : Nacks id nack) :
    let start := run (AckSession.step single codecs) session earlier
    (∀ later : List AckOp, (∀ op ∈ later, ¬ Nacks id op) →
      tally (AckSession.step single codecs) (asksFor id) start (nack :: later) =
        match start.consumer.nackTracker with
        | none => 1
        | some tracker =>
          if sweptFirst single codecs id (nackedUntil tracker nack)
            (start.step single codecs nack) later then 1 else 0) ∧
      (∀ (before : List AckOp) (ack : AckOp) (after : List AckOp), IndividuallyAcks id ack →
        (∀ op ∈ after, ¬ Nacks id op) →
        tally (AckSession.step single codecs) (asksFor id)
          (run (AckSession.step single codecs) start (nack :: before)) (ack :: after) = 0) ∧
      (Guarded (AckSession.step single codecs) (fun session op => relocatesAt session op = true)
          session earlier →
        ∀ later : List AckOp, (∀ op ∈ later, ∀ d, op = .slot (.deliver d) → ¬ Lists d id) →
          ∀ now, ∀ ids ∈ AckSession.unackedDue
            (run (AckSession.step single codecs) start (nack :: later)).consumer now, id ∉ ids) := by
  intro start
  have named : id ∈ nackedIds nack := nacks_iff.mp nacks
  have occupied : nackedIds nack ≠ [] := List.ne_nil_of_mem named
  have deadline := nackDeadline_nack single codecs start occupied id
  rw [if_pos named] at deadline
  refine ⟨?_, ?_, ?_⟩
  · intro later others
    rw [tally, asksFor_nack id start occupied]
    cases held : start.consumer.nackTracker with
    | none =>
      rw [held] at deadline
      rw [tally_of_no_deadline single codecs deadline others]
      simp [named]
    | some =>
      rw [held] at deadline
      rw [tally_of_deadline single codecs deadline others]
      simp
  · intro before ack after acks others
    cases ack with
    | ack request messageIdData =>
      obtain ⟨_, member, outside, accepted⟩ := acks
      have acknowledged : id ∈ forgottenIds request := by
        simpa [forgottenIds, outside, accepted] using member
      have gone := (ackInner_forgets (run (AckSession.step single codecs) start (nack :: before))
        request messageIdData).nackDeadline id
      rw [if_pos acknowledged] at gone
      exact (Nat.zero_add _).trans (tally_of_no_deadline single codecs gone others)
    | _ => cases acks
  · intro relocates later undelivered now ids due
    have unwatched := unwatched_of_nacks single codecs (located.run single codecs relocates) nacks
    exact (unwatched.run single codecs undelivered).not_due due

/-- A session of a new consumer with an acknowledgement timeout of 10, and negative acknowledgements
that wait for 5 or are sent at once. -/
private def nackingSession (nackTracker : Option NegativeAcksTracker) : AckSession where
  consumer := {
    handle := 7, topic := "t", subscription := "s", receiverQueueSize := 10,
    policy := ReceiverQueue.fixed 10, unackedTracker := some (.new 7 10 none), nackTracker }

/-- Entry 1 is delivered at 0 and negatively acknowledged at 1: the tick at 6 asks for it, and no later
one does. -/
theorem nack_asks_at_its_deadline :
    tally (AckSession.step default default) (asksFor ⟨1, 1, -1, -1, 0⟩)
        (run (AckSession.step default default) (nackingSession (some (.new 7 5)))
          [.slot (.deliver (entryDispatch 1 0))])
        [.negativeAck [⟨1, 1, -1, -1, 0⟩] 1, .handleTimeout none 6, .handleTimeout none 20] = 1 ∧
      ¬ ∃ ids ∈ AckSession.unackedDue
        (run (AckSession.step default default)
          (run (AckSession.step default default) (nackingSession (some (.new 7 5)))
            [.slot (.deliver (entryDispatch 1 0))])
          [.negativeAck [⟨1, 1, -1, -1, 0⟩] 1, .handleTimeout none 6]).consumer 20,
        ⟨1, 1, -1, -1, 0⟩ ∈ ids := by
  have once := nack_asks_once default default (nackingSession (some (.new 7 5))) (by
      rintro _ ⟨rfl⟩
      exact located_new 7 10 none)
    [.slot (.deliver (entryDispatch 1 0))] (.negativeAck [⟨1, 1, -1, -1, 0⟩] 1) ⟨1, 1, -1, -1, 0⟩
    (List.mem_singleton.mpr rfl)
  constructor
  · rw [once.1 [.handleTimeout none 6, .handleTimeout none 20] (by simp [Nacks])]
    rfl
  · rintro ⟨ids, due, member⟩
    exact once.2.2 ⟨rfl, trivial⟩ [.handleTimeout none 6] (by simp) 20 ids due member

/-- Entry 1 is acknowledged, and the timer tick drops its empty bucket: the negative acknowledgement
of entry 2 looks for it in a bucket that is gone, and when the timeout is over the tracker asks for
entry 2 a second time. -/
theorem nacked_id_reported :
    Nacks ⟨1, 2, -1, -1, 0⟩ (.negativeAck [⟨1, 2, -1, -1, 0⟩] 11) ∧
      AckSession.unackedDue
        (run (AckSession.step default default) (nackingSession none)
          [.slot (.deliver (entryDispatch 1 0)),
            .ack { messageIds := [⟨1, 1, -1, -1, 0⟩], ackType := .individual } none,
            .slot (.deliver (entryDispatch 2 10)), .handleTimeout none 10,
            .negativeAck [⟨1, 2, -1, -1, 0⟩] 11]).consumer 20 = [[⟨1, 2, -1, -1, 0⟩]] := by
  refine ⟨List.mem_singleton.mpr rfl, ?_⟩
  decide +kernel

end Magnetar.Proto.Connection
