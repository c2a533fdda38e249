import Magnetar.Proto.Connection.Redelivery
import Magnetar.Proto.Consumer.BatchAcks

/-!
Contract: the acknowledgement commands of a consumer and the batch positions they report.

Owns: the requests that each call puts through, the changes of the table of outstanding positions
that a call stands for, and the truth of every command sent about an entry along every run that
acknowledges a position of it only while it owes one.

Does not own: the account of an entry itself (`Consumer.BatchAcks`), and acknowledgements inside a
transaction.
-/

namespace Magnetar.Proto.Connection

open Library.Machine Pb External BatchAck Consumer Trackers.Ack AckSession

/-! ### What a call puts through -/

/-- What a grouped call hands over: what the tracker releases, or without one the call itself. -/
def stagedRequests (stage : AckGroupingTracker → AckGroupingTracker × List AckAction)
    (immediate : AckRequest) :
    Option AckGroupingTracker → List (AckRequest × Option (List MessageIdData))
  | some tracker => (stage tracker).2.map fun action => (AckSession.actionRequest action, none)
  | none => [(immediate, none)]

variable (session : AckSession)

/-- The requests that a call hands to `ack_inner`, in order. -/
def requestsOf : AckOp → List (AckRequest × Option (List MessageIdData))
  | .ack request messageIdData => [(request, messageIdData)]
  | .ackGroupedIndividual messageId now =>
    stagedRequests (fun tracker => tracker.addIndividual messageId now)
      { messageIds := [messageId], ackType := .individual } session.consumer.ackTracker
  | .ackGroupedCumulative messageId now =>
    stagedRequests (fun tracker => tracker.addCumulative messageId now)
      { messageIds := [messageId], ackType := .cumulative } session.consumer.ackTracker
  | .handleTimeout _ now =>
    (AckSession.sweptAcks session.consumer now).map (fun request => (request, none)) ++
      (AckSession.ackDue session.consumer now).map fun action =>
        (AckSession.actionRequest action, none)
  | .closeConsumer =>
    if session.consumer.terminalOperation = .opened then
      match session.consumer.ackTracker with
      | some tracker => tracker.flush.2.map fun action => (AckSession.actionRequest action, none)
      | none => []
    else []
  | _ => []

/-- The changes of the table that the requests stand for.  A refused one changes nothing. -/
def ackedOps (requests : List (AckRequest × Option (List MessageIdData))) : List TableOp :=
  (requests.filter fun request => !isRefused request.1).map fun request =>
    .acked request.1 request.2

/-- The batch that an accepted dispatch brings. -/
def dispatchedOps (c : ConsumerState) (d : Dispatch) : List TableOp :=
  if c.closed || c.pendingSeek.isSome then []
  else
    match d.chunk? with
    | some _ => []
    | none =>
      match d.metadata.numMessagesInBatch with
      | some numInBatch => [.dispatched d.messageId.entryKey numInBatch d.cmd.ackSet]
      | none => []

def tableOps : AckOp → List TableOp
  | .slot (.deliver d) => dispatchedOps session.consumer.toConsumerState d
  | op => ackedOps (requestsOf session op)

/-- Neither a transaction nor the loss of the session. -/
def AtBatchLevel : AckOp → Prop
  | .ack request _ => request.txnId = none
  | .settleTransactionalAcks .. => False
  | .slot .resetSession => False
  | _ => True

/-! ### What a call sends -/

def ackedIds : AckCommand → Option (List MessageIdData)
  | .ack command => some command.messageId
  | .redeliver _ => none

def sentIds : List (List MessageIdData) :=
  session.sent.filterMap ackedIds

def answers : BatchAckTable → List TableOp → List (List MessageIdData)
  | _, [] => []
  | tracker, op :: rest => answer tracker op ++ answers (tableStep tracker op) rest

theorem answers_append (tracker : BatchAckTable) (first second : List TableOp) :
    answers tracker (first ++ second) =
      answers tracker first ++ answers (run tableStep tracker first) second := by
  induction first generalizing tracker with
  | nil => rfl
  | cons _ _ ih =>
    rw [List.cons_append, answers, answers, ih, List.append_assoc]
    rfl

/-- The table went through the changes, and their ids were sent. -/
structure Sends (before : AckSession) (ops : List TableOp) (after : AckSession) : Prop where
  table : after.consumer.batchAckTracker = run tableStep before.consumer.batchAckTracker ops
  sent : sentIds after = sentIds before ++ answers before.consumer.batchAckTracker ops

namespace Sends

variable {before middle after : AckSession} {ops others : List TableOp}

theorem nothing (table : after.consumer.batchAckTracker = before.consumer.batchAckTracker)
    (sent : sentIds after = sentIds before) : Sends before [] after :=
  ⟨table, by rw [sent, answers, List.append_nil]⟩

theorem trans (first : Sends before ops middle) (second : Sends middle others after) :
    Sends before (ops ++ others) after where
  table := by rw [second.table, first.table, run_append]
  sent := by
    rw [second.sent, first.sent, first.table, answers_append, List.append_assoc]

theorem congr (sends : Sends middle ops after)
    (table : middle.consumer.batchAckTracker = before.consumer.batchAckTracker)
    (sent : sentIds middle = sentIds before) : Sends before ops after where
  table := by rw [sends.table, table]
  sent := by rw [sends.sent, table, sent]

end Sends

theorem ackInner_sends {request : AckRequest} {messageIdData : Option (List MessageIdData)}
    (outside : request.txnId = none) :
    Sends session (ackedOps [(request, messageIdData)])
      (session.ackInner request messageIdData) := by
  rcases session.ackInner_cases request messageIdData with
    ⟨refused, same, sent⟩ | ⟨accepted, applied, sent⟩
  · have none : ackedOps [(request, messageIdData)] = [] := by simp [ackedOps, refused]
    rw [none]
    exact Sends.nothing (by rw [same]) (by rw [sentIds, sent, sentIds])
  · have one : ackedOps [(request, messageIdData)] = [.acked request messageIdData] := by
      simp [ackedOps, accepted]
    have plain : session.consumer.applyAck request messageIdData =
        session.consumer.applyLocalAckState request messageIdData := by
      rw [AckingConsumer.applyAck, outside]
    rw [one]
    refine ⟨?_, ?_⟩
    · rw [applied, plain]
      rfl
    · rw [sentIds, sent, List.filterMap_append, plain]
      rfl

theorem ackedOps_cons (request : AckRequest × Option (List MessageIdData))
    (rest : List (AckRequest × Option (List MessageIdData))) :
    ackedOps (request :: rest) = ackedOps [request] ++ ackedOps rest := by
  simp only [ackedOps, ← List.map_append, ← List.filter_append]
  rfl

theorem ackAll_sends {requests : List AckRequest}
    (outside : ∀ request ∈ requests, request.txnId = none) :
    Sends session (ackedOps (requests.map fun request => (request, none)))
      (requests.foldl (fun session ack => session.ack ack) session) := by
  induction requests generalizing session with
  | nil => exact Sends.nothing rfl rfl
  | cons _ _ ih =>
    obtain ⟨here, later⟩ := List.forall_mem_cons.mp outside
    rw [List.map_cons, ackedOps_cons]
    exact (ackInner_sends session here).trans (ih _ later)

theorem actionRequest_txnId (action : AckAction) :
    (actionRequest action).txnId = none := by
  cases action <;> rfl

section

variable (session : AckSession)

theorem dispatchAckActions_sends (actions : List AckAction) :
    Sends session (ackedOps (actions.map fun action => (actionRequest action, none)))
      (session.dispatchAckActions actions) := by
  have outside : ∀ request ∈ actions.map actionRequest, request.txnId = none := by
    intro request member
    obtain ⟨action, _, rfl⟩ := List.mem_map.mp member
    exact actionRequest_txnId action
  have all := ackAll_sends session outside
  rw [List.map_map, List.foldl_map] at all
  exact all

/-! ### Each call -/

theorem emitRedeliverUnacked_sentIds (ids : List MessageId) :
    sentIds (session.emitRedeliverUnacked ids) = sentIds session := by
  rw [sentIds, emitRedeliverUnacked, send, List.filterMap_append]
  exact List.append_nil _

theorem redeliverAll_sentIds (groups : List (List MessageId)) :
    sentIds (groups.foldl (fun session ids => session.emitRedeliverUnacked ids) session) =
      sentIds session := by
  induction groups generalizing session with
  | nil => rfl
  | cons ids _ ih =>
    exact (ih _).trans (emitRedeliverUnacked_sentIds session ids)

theorem negativeAck_sends (ids : List MessageId) (now : Nat) :
    Sends session [] (session.negativeAck ids now) := by
  rw [negativeAck]
  split
  · exact Sends.nothing rfl (emitRedeliverUnacked_sentIds session [])
  · dsimp only
    split
    · exact Sends.nothing rfl rfl
    · exact Sends.nothing rfl (emitRedeliverUnacked_sentIds _ ids)

theorem negativeAckWithDelay_sends (id : MessageId) (delay now : Nat) :
    Sends session [] (session.negativeAckWithDelay id delay now) := by
  rw [negativeAckWithDelay]
  split
  · exact Sends.nothing rfl rfl
  · exact Sends.nothing rfl (emitRedeliverUnacked_sentIds _ [id])

end

theorem ackedOps_append (first second : List (AckRequest × Option (List MessageIdData))) :
    ackedOps (first ++ second) = ackedOps first ++ ackedOps second := by
  simp only [ackedOps, List.filter_append, List.map_append]

theorem handleTimeout_sends (stallTimeout : Option Nat) (now : Nat) :
    Sends session (ackedOps (requestsOf session (.handleTimeout stallTimeout now)))
      (session.handleTimeout stallTimeout now) := by
  let polled : AckSession :=
    { session with consumer := pollTrackers session.consumer stallTimeout now }
  let redelivered := (nackDue session.consumer now ++
    unackedDue session.consumer now).foldl
      (fun session ids => session.emitRedeliverUnacked ids) polled
  have table : redelivered.consumer.batchAckTracker = session.consumer.batchAckTracker := by
    have same : redelivered.consumer = polled.consumer := redeliverAll_consumer polled _
    rw [same]
    exact (timerTick_sameTrackers _ stallTimeout now).table
  have sent : sentIds redelivered = sentIds session := redeliverAll_sentIds polled _
  have swept := ackAll_sends redelivered fun _ => @sweptAcks_outside _ session.consumer now
  rw [requestsOf, ackedOps_append]
  exact (swept.trans (dispatchAckActions_sends _ _)).congr table sent

theorem ackGrouped_sends (stage : AckGroupingTracker → AckGroupingTracker × List AckAction)
    {immediate : AckRequest} (outside : immediate.txnId = none) :
    Sends session (ackedOps (stagedRequests stage immediate session.consumer.ackTracker))
      (session.ackGrouped stage immediate) := by
  rw [ackGrouped]
  cases session.consumer.ackTracker with
  | some tracker =>
    exact (dispatchAckActions_sends (session.withAckTracker (stage tracker).1) _).congr rfl rfl
  | none => exact ackInner_sends session outside

theorem closeConsumer_sends :
    Sends session (ackedOps (requestsOf session .closeConsumer)) session.closeConsumer := by
  rw [closeConsumer, requestsOf]
  by_cases opened : session.consumer.terminalOperation = .opened
  · rw [if_pos opened, if_pos opened]
    cases session.consumer.ackTracker with
    | some tracker =>
      exact (dispatchAckActions_sends (withAckTracker _ tracker.flush.1) tracker.flush.2).congr
        rfl rfl
    | none => exact Sends.nothing rfl rfl
  · rw [if_neg opened, if_neg opened]
    exact Sends.nothing rfl rfl

section Step

variable (single : Prost SingleMessageMetadata) (codecs : Codecs)

theorem dispatchedOps_table (c : ConsumerState) (d : Dispatch) :
    c.dispatchedTable d = run tableStep c.batchAckTracker (dispatchedOps c d) := by
  unfold ConsumerState.dispatchedTable dispatchedOps
  by_cases shut : (c.closed || c.pendingSeek.isSome) = true
  · rw [if_pos shut, if_pos shut]
    rfl
  · rw [if_neg shut, if_neg shut]
    cases d.chunk? with
    | some => rfl
    | none => cases d.metadata.numMessagesInBatch <;> rfl

theorem answers_dispatchedOps (c : ConsumerState) (d : Dispatch) (tracker : BatchAckTable) :
    answers tracker (dispatchedOps c d) = [] := by
  unfold dispatchedOps
  split
  · rfl
  · cases d.chunk? with
    | some => rfl
    | none => cases d.metadata.numMessagesInBatch <;> rfl

theorem deliver_sends (session : AckSession) (d : Dispatch) :
    Sends session (dispatchedOps session.consumer.toConsumerState d)
      (session.step single codecs (.slot (.deliver d))) where
  table := by
    have merged : (slotStep single codecs session.consumer.toConsumerState
        (.deliver d)).batchAckTracker = session.consumer.toConsumerState.dispatchedTable d :=
      (maybeFlow_sameTrackers _).table.trans
        (session.consumer.toConsumerState.deliver_surfaces single codecs d).table
    exact merged.trans (dispatchedOps_table session.consumer.toConsumerState d)
  sent := by
    rw [answers_dispatchedOps, List.append_nil]
    rfl

/-- Every call outside transactions is its changes of the table, and sends their ids. -/
theorem step_sends (session : AckSession) {op : AckOp} (plain : AtBatchLevel op) :
    Sends session (tableOps session op) (session.step single codecs op) := by
  cases op with
  | slot op =>
    by_cases delivers : ∃ d, op = .deliver d
    · obtain ⟨d, rfl⟩ := delivers
      exact deliver_sends single codecs session d
    · have connected : op ≠ .resetSession := by
        rintro rfl
        exact plain
      have same := slotStep_sameTrackers single codecs session.consumer.toConsumerState
        (fun d equal => delivers ⟨d, equal⟩) connected
      have none : tableOps session (.slot op) = [] := by
        cases op with
        | deliver d => exact absurd ⟨d, rfl⟩ delivers
        | _ => rfl
      rw [none]
      exact Sends.nothing same.table rfl
  | ack => exact ackInner_sends session plain
  | ackGroupedIndividual | ackGroupedCumulative => exact ackGrouped_sends session _ rfl
  | negativeAck ids now => exact negativeAck_sends session ids now
  | negativeAckWithDelay id delay now => exact negativeAckWithDelay_sends session id delay now
  | redeliverUnackedAll => exact Sends.nothing rfl (emitRedeliverUnacked_sentIds session [])
  | handleTimeout => exact handleTimeout_sends session _ _
  | closeConsumer => exact closeConsumer_sends session
  | settleTransactionalAcks => cases plain

/-! ### Runs -/

/-- The changes of the table that a run stands for. -/
def tableOpsIn : AckSession → List AckOp → List TableOp
  | _, [] => []
  | session, op :: rest => tableOps session op ++ tableOpsIn (session.step single codecs op) rest

theorem run_sends (session : AckSession) {ops : List AckOp} (plain : ∀ op ∈ ops, AtBatchLevel op) :
    Sends session (tableOpsIn single codecs session ops)
      (run (step single codecs) session ops) := by
  induction ops generalizing session with
  | nil => exact Sends.nothing rfl rfl
  | cons _ _ ih =>
    obtain ⟨here, later⟩ := List.forall_mem_cons.mp plain
    exact (step_sends single codecs session here).trans (ih _ later)

/-- The account of the entry after a run that starts before its dispatch. -/
def accountAfter (key : EntryKey) (session : AckSession) (ops : List TableOp) : EntryAccount :=
  (run (accountStep key) (session.consumer.batchAckTracker, .undispatched) ops).2

/-- Every dispatched entry, in every run outside transactions and within one session whose changes
are all safe for it: each id of the entry goes out with exactly the positions that are still owed,
and without a bit set exactly when none is; these are the commands sent; what is owed only shrinks;
and the table holds the entry from its dispatch until it is settled. -/
theorem batch_acks_are_truthful (session : AckSession) (key : EntryKey)
    (untracked : session.consumer.batchAckTracker.lookup key = none) (ops : List AckOp)
    (plain : ∀ op ∈ ops, AtBatchLevel op)
    (safe : Guarded (accountStep key) (Safe key) (session.consumer.batchAckTracker, .undispatched)
      (tableOpsIn single codecs session ops)) :
    Guarded (accountStep key) (Truthful key) (session.consumer.batchAckTracker, .undispatched)
        (tableOpsIn single codecs session ops) ∧
      sentIds (run (AckSession.step single codecs) session ops) = sentIds session ++
        answers session.consumer.batchAckTracker (tableOpsIn single codecs session ops) ∧
      (∀ earlier later, tableOpsIn single codecs session ops = earlier ++ later →
        accountAfter key session earlier ≠ .undispatched →
          (accountAfter key session (earlier ++ later)).positions ⊆
            (accountAfter key session earlier).positions) ∧
      Consumer.Holds (accountAfter key session (tableOpsIn single codecs session ops))
        ((run (AckSession.step single codecs) session ops).consumer.batchAckTracker.lookup key) := by
  have start : Consumer.Holds .undispatched (session.consumer.batchAckTracker.lookup key) := untracked
  have sends := run_sends single codecs session plain
  obtain ⟨holds, truthful⟩ := run_truthful start safe
  refine ⟨truthful, sends.sent, ?_, ?_⟩
  · intro earlier later _ dispatched
    rw [accountAfter, run_append]
    exact run_positions_subset key dispatched later
  · rw [fst_run_accountStep] at holds
    rw [sends.table]
    exact holds

end Step

private def batchDispatch (numInBatch : Int) (ackSet : List Int64) : Dispatch where
  cmd := { consumerId := 7, messageId := { ledgerId := 1, entryId := 1 }, ackSet }
  metadata := { numMessagesInBatch := some numInBatch }

private def batchSession : AckSession where
  consumer := {
    handle := 7, topic := "t", subscription := "s", receiverQueueSize := 10,
    policy := ReceiverQueue.fixed 10 }

private def ackOf (ackType : AckType) (batchIndex batchSize : Int) : AckOp :=
  .ack { messageIds := [⟨1, 1, -1, batchIndex, batchSize⟩], ackType } none

/-- Positions 0 and 2 of a batch of 3 are listed.  Position 0 is acknowledged twice, then everything
up to 2: the first two commands leave position 2 open, the third has no bit set. -/
theorem batch_acks_are_truthful_run :
    ((sentIds (run (AckSession.step default default) batchSession
        [.slot (.deliver (batchDispatch 3 [5])), ackOf .individual 0 3, ackOf .individual 0 3,
          ackOf .cumulative 2 3])).map fun ids => ids.map MessageIdData.ackSet) =
        [[[4]], [[4]], [[]]] ∧
      (run (AckSession.step default default) batchSession
        [.slot (.deliver (batchDispatch 3 [5])), ackOf .individual 0 3, ackOf .individual 0 3,
          ackOf .cumulative 2 3]).consumer.batchAckTracker.lookup (1, 1) = none := by
  obtain ⟨_, sent, _, holds⟩ := batch_acks_are_truthful default default batchSession (1, 1) rfl
    [.slot (.deliver (batchDispatch 3 [5])), ackOf .individual 0 3, ackOf .individual 0 3,
      ackOf .cumulative 2 3]
    (by simp [AtBatchLevel, ackOf]) (by decide +kernel)
  refine ⟨?_, holds⟩
  decide +kernel

/-- Both positions of a batch of 2 are acknowledged, then position 1 once more: a new set is built,
and the third command reports position 0 as open.  And a dispatch that lists no position leaves an
entry that lists none. -/
theorem settled_entry_is_tracked_anew :
    (((sentIds (run (AckSession.step default default) batchSession
          [.slot (.deliver (batchDispatch 2 [])), ackOf .individual 0 2, ackOf .individual 1 2,
            ackOf .individual 1 2])).map fun ids => ids.map MessageIdData.ackSet) =
          [[[2]], [[]], [[1]]] ∧
        accountAfter (1, 1) batchSession (tableOpsIn default default batchSession
          [.slot (.deliver (batchDispatch 2 [])), ackOf .individual 0 2, ackOf .individual 1 2,
            ackOf .individual 1 2]) = .settled ∧
        (run (AckSession.step default default) batchSession
          [.slot (.deliver (batchDispatch 2 [])), ackOf .individual 0 2, ackOf .individual 1 2,
            ackOf .individual 1 2]).consumer.batchAckTracker.lookup (1, 1) ≠ none) ∧
      ((run (AckSession.step default default) batchSession
          [.slot (.deliver (batchDispatch 2 [0]))]).consumer.batchAckTracker.lookup (1, 1)).map
        BatchAckEntry.unacked = some [0] := by
  decide +kernel

end Magnetar.Proto.Connection
