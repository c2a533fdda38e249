import Magnetar.Proto.Connection.AckEffects

/-!
Contract: a group of acknowledgements that is flushed reaches the wire.

Owns: when a command covers an id, the staged ids of a run, the condition under which staging keeps
an id covered by what is pending, and the coverage of every staged id once the group is flushed.

Does not own: the answer of the broker.
-/

namespace Magnetar.Proto.Trackers.Ack.AckGroupingTracker

/-- A poll leaves the tracker alone until the window is over, and then flushes it. -/
theorem poll_cases (tracker : AckGroupingTracker) (now : Nat) :
    tracker.poll now = (tracker, []) ∨
      (∃ first ∈ tracker.lastFlush, tracker.ackGroupTime ≤ now - first) ∧
        tracker.poll now = tracker.flush := by
  rw [poll]
  cases tracker.lastFlush with
  | none => exact .inl rfl
  | some first =>
    by_cases early : now - first < tracker.ackGroupTime
    · exact .inl (if_pos early)
    · exact .inr ⟨⟨first, rfl, by omega⟩, if_neg early⟩

end Magnetar.Proto.Trackers.Ack.AckGroupingTracker

namespace Magnetar.Proto.Connection

open Library.Machine Pb External Consumer Trackers.Ack AckGroupingTracker AckSession

/-! ### Coverage -/

/-- A cumulative acknowledgement of `upTo` covers the earlier entries and, of its own entry, the
batch indexes up to its own; without a batch index it covers the whole entry. -/
def Covers (upTo id : MessageId) : Prop :=
  id.ledgerId < upTo.ledgerId ∨ id.ledgerId = upTo.ledgerId ∧
    (id.entryId < upTo.entryId ∨ id.entryId = upTo.entryId ∧
      (upTo.batchIndex < 0 ∨ 0 ≤ id.batchIndex ∧ id.batchIndex ≤ upTo.batchIndex))

theorem Covers.refl (id : MessageId) : Covers id id := by
  unfold Covers
  omega

theorem Covers.trans {last middle first : MessageId} (upper : Covers last middle)
    (lower : Covers middle first) : Covers last first := by
  unfold Covers at *
  omega

/-- Two ids of one entry, of which one names the whole entry and the other a position in it. -/
def Mixed (left right : MessageId) : Prop :=
  left.ledgerId = right.ledgerId ∧ left.entryId = right.entryId ∧
    ¬ (left.batchIndex < 0 ↔ right.batchIndex < 0)

instance (left right : MessageId) : Decidable (Mixed left right) :=
  inferInstanceAs (Decidable (_ ∧ _))

theorem cumulativeGt_eq_true {left right : MessageId} :
    cumulativeGt left right = true ↔
      right.ledgerId < left.ledgerId ∨ right.ledgerId = left.ledgerId ∧
        (right.entryId < left.entryId ∨ right.entryId = left.entryId ∧
          right.batchIndex < left.batchIndex) := by
  unfold cumulativeGt
  rcases Nat.lt_trichotomy left.ledgerId right.ledgerId with lower | same | higher
  · rw [Nat.compare_eq_lt.mpr lower]
    simp only [Bool.false_eq_true, false_iff]
    omega
  · rw [Nat.compare_eq_eq.mpr same]
    rcases Nat.lt_trichotomy left.entryId right.entryId with before | equal | after
    · rw [Nat.compare_eq_lt.mpr before]
      simp only [Bool.false_eq_true, false_iff]
      omega
    · rw [Nat.compare_eq_eq.mpr equal]
      simp only [decide_eq_true_eq, gt_iff_lt]
      omega
    · rw [Nat.compare_eq_gt.mpr after]
      simp only [true_iff]
      omega
  · rw [Nat.compare_eq_gt.mpr higher]
    simp only [true_iff]
    omega

/-- The kept id covers both, unless the two name one entry in different ways. -/
theorem greaterCumulative_covers {pending added : MessageId} (unmixed : ¬ Mixed added pending) :
    Covers (greaterCumulative (some pending) added) added ∧
      Covers (greaterCumulative (some pending) added) pending := by
  show Covers (if cumulativeGt added pending then added else pending) added ∧
    Covers (if cumulativeGt added pending then added else pending) pending
  unfold Mixed at unmixed
  by_cases greater : cumulativeGt added pending = true
  · rw [if_pos greater]
    rw [cumulativeGt_eq_true] at greater
    refine ⟨Covers.refl added, ?_⟩
    unfold Covers
    omega
  · rw [if_neg greater]
    rw [cumulativeGt_eq_true] at greater
    refine ⟨?_, Covers.refl pending⟩
    unfold Covers
    omega

def CoveredCumulatively (sent : List AckCommand) (id : MessageId) : Prop :=
  ∃ command, .ack command ∈ sent ∧ command.ackType = .cumulative ∧
    ∃ data ∈ command.messageId, Covers (MessageId.fromPb data) id

/-- An individual command with the id, or a cumulative one at or after it. -/
def Covered (sent : List AckCommand) (id : MessageId) : Prop :=
  (∃ command, .ack command ∈ sent ∧ command.ackType = .individual ∧
    ∃ data ∈ command.messageId, MessageId.fromPb data = id) ∨
  CoveredCumulatively sent id

variable {id : MessageId}

theorem CoveredCumulatively.mono {sent longer : List AckCommand}
    (covered : CoveredCumulatively sent id) (grown : sent <+: longer) :
    CoveredCumulatively longer id := by
  obtain ⟨command, member, rest⟩ := covered
  exact ⟨command, grown.subset member, rest⟩

theorem CoveredCumulatively.of_covers {sent : List AckCommand} {upTo : MessageId}
    (covered : CoveredCumulatively sent upTo) (below : Covers upTo id) :
    CoveredCumulatively sent id := by
  obtain ⟨command, member, kind, data, inside, above⟩ := covered
  exact ⟨command, member, kind, data, inside, above.trans below⟩

theorem Covered.mono {sent longer : List AckCommand}
    (covered : Covered sent id) (grown : sent <+: longer) : Covered longer id := by
  rcases covered with ⟨command, member, rest⟩ | cumulative
  · exact .inl ⟨command, grown.subset member, rest⟩
  · exact .inr (cumulative.mono grown)

variable {tracker : AckGroupingTracker}

namespace AckSession

section

variable (session : AckSession)

theorem ack_sent {request : AckRequest} (accepted : isRefused request = false) :
    ∃ command, .ack command ∈ (session.ack request).sent ∧ command.ackType = request.ackType ∧
      command.messageId.map MessageId.fromPb = request.messageIds := by
  rcases session.ackInner_cases request none with ⟨refused, _⟩ | ⟨_, _, sent⟩
  · rw [refused] at accepted
    cases accepted
  · refine ⟨session.commandAck request (session.consumer.applyAck request none).2, ?_, rfl,
      session.consumer.applyAck_fromPb request⟩
    show _ ∈ (session.ackInner request none).sent
    rw [sent]
    exact List.mem_append_right _ List.mem_cons_self

theorem ack_covers_cumulatively (id : MessageId) :
    CoveredCumulatively (session.ack { messageIds := [id], ackType := .cumulative }).sent id := by
  have accepted : isRefused { messageIds := [id], ackType := .cumulative } = false := rfl
  obtain ⟨command, member, kind, ids⟩ := session.ack_sent accepted
  obtain ⟨data, inside, same⟩ : ∃ data ∈ command.messageId, MessageId.fromPb data = id :=
    List.mem_map.mp (ids ▸ List.mem_cons_self)
  exact ⟨command, member, kind, data, inside, same ▸ Covers.refl _⟩

theorem ack_covers {ids : List MessageId}
    (wellFormed : ∀ other ∈ ids, isMalformed other = false) (inside : id ∈ ids) :
    Covered (session.ack { messageIds := ids, ackType := .individual }).sent id := by
  have accepted : isRefused { messageIds := ids, ackType := .individual } = false := by
    simpa [isRefused] using wellFormed
  obtain ⟨command, member, kind, same⟩ := session.ack_sent accepted
  exact .inl ⟨command, member, kind, List.mem_map.mp (same ▸ inside)⟩

theorem flush_covers_cumulative
    {pending : MessageId} (staged : pending ∈ tracker.pendingCumulative) :
    CoveredCumulatively (session.dispatchAckActions tracker.flush.2).sent pending := by
  have first : tracker.flush.2 = .sendCumulativeAck tracker.handle pending ::
      (if tracker.pendingIndividuals.isEmpty then [] else [.sendIndividualAck tracker.handle
        (tracker.pendingIndividuals.mergeSort MessageId.le)]) := by
    rw [flush, Option.mem_def.mp staged]
    rfl
  rw [first]
  exact (session.ack_covers_cumulatively pending).mono (dispatchAckActions_sent _ _)

theorem flush_covers_individual
    (wellFormed : ∀ id ∈ tracker.pendingIndividuals, isMalformed id = false)
    (staged : id ∈ tracker.pendingIndividuals) :
    Covered (session.dispatchAckActions tracker.flush.2).sent id := by
  have nonempty : ¬ tracker.pendingIndividuals.isEmpty = true := by
    rw [List.isEmpty_iff]
    exact List.ne_nil_of_mem staged
  rw [flush, if_neg nonempty, dispatchAckActions, List.foldl_append]
  refine ack_covers _ ?_ (List.mem_mergeSort.mpr staged)
  exact fun other member => wellFormed other (List.mem_mergeSort.mp member)

end

end AckSession

/-! ### Staged ids -/

/-- The staging calls that keep a group whole: an individual id is well formed, and a cumulative id
does not meet a pending one that names the same entry in the other way. -/
def StagesWhole (session : AckSession) : AckOp → Prop
  | .ackGroupedIndividual id _ => isMalformed id = false
  | .ackGroupedCumulative id _ =>
    ∀ tracker ∈ session.consumer.ackTracker, ∀ pending ∈ tracker.pendingCumulative,
      ¬ Mixed id pending
  | _ => True

/-- Every id staged in `history` is covered by a command or by what is pending. -/
structure GroupSafe (session : AckSession) (history : List AckOp) : Prop where
  wellFormed : ∀ tracker ∈ session.consumer.ackTracker, ∀ id ∈ tracker.pendingIndividuals,
    isMalformed id = false
  armed : ∀ tracker ∈ session.consumer.ackTracker,
    tracker.lastFlush = none ∨ tracker.ackGroupTime = 0 →
    tracker.pendingIndividuals = [] ∧ tracker.pendingCumulative = none
  individual : ∀ id now, .ackGroupedIndividual id now ∈ history →
    Covered session.sent id ∨
      ∃ tracker ∈ session.consumer.ackTracker, id ∈ tracker.pendingIndividuals
  cumulative : ∀ id now, .ackGroupedCumulative id now ∈ history →
    CoveredCumulatively session.sent id ∨
      ∃ tracker ∈ session.consumer.ackTracker, ∃ pending ∈ tracker.pendingCumulative,
        Covers pending id

def AckOp.stages : AckOp → Bool
  | .ackGroupedIndividual _ _ => true
  | .ackGroupedCumulative _ _ => true
  | _ => false

/-- The id that the call stages is covered or pending. -/
def AckOp.Holds (session : AckSession) : AckOp → Prop
  | .ackGroupedIndividual id _ => Covered session.sent id ∨
      ∃ tracker ∈ session.consumer.ackTracker, id ∈ tracker.pendingIndividuals
  | .ackGroupedCumulative id _ => CoveredCumulatively session.sent id ∨
      ∃ tracker ∈ session.consumer.ackTracker, ∃ pending ∈ tracker.pendingCumulative,
        Covers pending id
  | _ => True

variable {next : AckSession} {now : Nat} {op : AckOp}

namespace GroupSafe

variable {session : AckSession} {history : List AckOp}

section

variable (safe : GroupSafe session history)

include safe

/-- What was held stays so, and what the call stages is held. -/
theorem extend (own : op.stages = true → op.Holds next)
    (wellFormed : ∀ tracker ∈ next.consumer.ackTracker, ∀ id ∈ tracker.pendingIndividuals,
      isMalformed id = false)
    (armed : ∀ tracker ∈ next.consumer.ackTracker,
      tracker.lastFlush = none ∨ tracker.ackGroupTime = 0 →
      tracker.pendingIndividuals = [] ∧ tracker.pendingCumulative = none)
    (kept : ∀ staging : AckOp, staging.Holds session → staging.Holds next) :
    GroupSafe next (history ++ [op]) where
  wellFormed := wellFormed
  armed := armed
  individual := by
    intro id now member
    rcases List.mem_append.mp member with before | last
    · exact kept (.ackGroupedIndividual id now) (safe.individual id now before)
    · cases List.mem_singleton.mp last
      exact own rfl
  cumulative := by
    intro id now member
    rcases List.mem_append.mp member with before | last
    · exact kept (.ackGroupedCumulative id now) (safe.cumulative id now before)
    · cases List.mem_singleton.mp last
      exact own rfl

/-- Nothing joins the group. -/
theorem keep (own : op.stages = true → op.Holds next)
    (same : next.consumer.ackTracker = session.consumer.ackTracker)
    (grown : session.sent <+: next.sent) : GroupSafe next (history ++ [op]) := by
  refine safe.extend own (same ▸ safe.wellFormed) (same ▸ safe.armed) fun staging held => ?_
  cases staging with
  | ackGroupedIndividual =>
    rw [AckOp.Holds, same]
    exact held.imp_left fun covered => covered.mono grown
  | ackGroupedCumulative =>
    rw [AckOp.Holds, same]
    exact held.imp_left fun covered => covered.mono grown
  | _ => trivial

theorem flushed (unstaged : op.stages = false) (staged : session.consumer.ackTracker = some tracker)
    (emptied : next.consumer.ackTracker = some tracker.flush.1)
    (grown : session.sent <+: next.sent) :
    GroupSafe (next.dispatchAckActions tracker.flush.2) (history ++ [op]) := by
  have after : (next.dispatchAckActions tracker.flush.2).consumer.ackTracker =
      some tracker.flush.1 := (next.dispatchAckActions_ackTracker _).trans emptied
  have longer := grown.trans (next.dispatchAckActions_sent tracker.flush.2)
  refine safe.extend (by simp [unstaged]) ?_ ?_ fun staging held => ?_
  · intro flushed member id inside
    rw [after] at member
    cases member
    cases inside
  · intro flushed member _
    rw [after] at member
    cases member
    exact ⟨rfl, rfl⟩
  · cases staging with
    | ackGroupedIndividual =>
      rcases held with covered | ⟨_, held, inside⟩
      · exact .inl (covered.mono longer)
      · cases staged.symm.trans held
        exact .inl (next.flush_covers_individual (safe.wellFormed tracker staged) inside)
    | ackGroupedCumulative =>
      rcases held with covered | ⟨_, held, pending, inside, below⟩
      · exact .inl (covered.mono longer)
      · cases staged.symm.trans held
        exact .inl ((next.flush_covers_cumulative inside).of_covers below)
    | _ => trivial

theorem handleTimeout (stallTimeout : Option Nat) (now : Nat) :
    GroupSafe (session.handleTimeout stallTimeout now)
      (history ++ [.handleTimeout stallTimeout now]) := by
  rw [handleTimeout_eq]
  have grown := session.beforeDispatch_sent stallTimeout now
  have polled := session.beforeDispatch_ackTracker stallTimeout now
  cases staged : session.consumer.ackTracker with
  | none =>
    rw [staged] at polled
    rw [ackDue, staged]
    exact safe.keep nofun (polled.trans staged.symm) grown
  | some tracker =>
    rw [staged] at polled
    have due : ackDue session.consumer now = (tracker.poll now).2 := by
      rw [ackDue, staged]
    rw [due]
    rcases tracker.poll_cases now with waiting | ⟨_, flushed⟩
    · rw [Option.map_some, waiting] at polled
      rw [waiting]
      exact safe.keep nofun (polled.trans staged.symm) grown
    · rw [Option.map_some, flushed] at polled
      rw [flushed]
      exact safe.flushed rfl staged polled grown

theorem closeConsumer : GroupSafe session.closeConsumer (history ++ [.closeConsumer]) := by
  rw [AckSession.closeConsumer]
  split
  · split
    · rename_i tracker staged
      exact safe.flushed rfl staged rfl List.prefix_rfl
    · exact safe.keep nofun rfl List.prefix_rfl
  · exact safe.keep nofun rfl List.prefix_rfl

/-- The call stages an id, in a tracker that then holds whatever was pending. -/
theorem stage {joined : AckGroupingTracker} (own : op.Holds (session.withAckTracker joined))
    (staged : session.consumer.ackTracker = some tracker)
    (armed : joined.lastFlush = tracker.lastFlush.or (some now))
    (grouped : joined.ackGroupTime ≠ 0)
    (wellFormed : ∀ id ∈ joined.pendingIndividuals, isMalformed id = false)
    (individuals : tracker.pendingIndividuals ⊆ joined.pendingIndividuals)
    (cumulative : ∀ pending ∈ tracker.pendingCumulative, ∃ upTo ∈ joined.pendingCumulative,
      Covers upTo pending) : GroupSafe (session.withAckTracker joined) (history ++ [op]) := by
  refine safe.extend (fun _ => own) ?_ ?_ fun staging held => ?_
  · rintro _ ⟨rfl⟩
    exact wellFormed
  · rintro _ ⟨rfl⟩ (unarmed | ungrouped)
    · cases found : tracker.lastFlush <;> simp [armed, found] at unarmed
    · exact absurd ungrouped grouped
  · cases staging with
    | ackGroupedIndividual =>
      rcases held with covered | ⟨_, held, inside⟩
      · exact .inl covered
      · cases staged.symm.trans held
        exact .inr ⟨_, rfl, individuals inside⟩
    | ackGroupedCumulative =>
      rcases held with covered | ⟨_, held, pending, inside, below⟩
      · exact .inl covered
      · cases staged.symm.trans held
        obtain ⟨upTo, found, above⟩ := cumulative pending inside
        exact .inr ⟨_, rfl, upTo, found, above.trans below⟩
    | _ => trivial

/-- An id goes out at once unless there is a tracker that groups. -/
theorem ackGrouped {stage : AckGroupingTracker → AckGroupingTracker × List AckAction}
    {request : AckRequest} (own : ∀ session : AckSession, op.Holds (session.ack request))
    (alone : ∀ tracker, tracker.ackGroupTime = 0 →
      (session.withAckTracker (stage tracker).1).dispatchAckActions (stage tracker).2 =
        (session.withAckTracker tracker).ack request)
    (joins : ∀ tracker, session.consumer.ackTracker = some tracker → tracker.ackGroupTime ≠ 0 →
      GroupSafe ((session.withAckTracker (stage tracker).1).dispatchAckActions (stage tracker).2)
        (history ++ [op])) :
    GroupSafe (session.ackGrouped stage request) (history ++ [op]) := by
  rw [AckSession.ackGrouped]
  split
  · rename_i tracker staged
    by_cases ungrouped : tracker.ackGroupTime = 0
    · dsimp only
      rw [alone tracker ungrouped]
      exact safe.keep (fun _ => own _) ((ackInner_ackTracker _ _ none).trans staged.symm)
        ((session.withAckTracker tracker).ackInner_sent _ none)
    · exact joins tracker staged ungrouped
  · exact safe.keep (fun _ => own _) (session.ackInner_ackTracker _ none)
      (session.ackInner_sent _ none)

theorem ackGroupedIndividual (wellFormed : isMalformed id = false) :
    GroupSafe (session.ackGroupedIndividual id now)
      (history ++ [.ackGroupedIndividual id now]) := by
  apply safe.ackGrouped
  · exact fun session => .inl (session.ack_covers (by simpa using wellFormed) List.mem_cons_self)
  · intro tracker ungrouped
    rw [addIndividual, if_pos ungrouped]
    rfl
  · intro tracker staged grouped
    rw [addIndividual, if_neg grouped]
    refine safe.stage (.inr ⟨_, rfl, List.mem_insert_self⟩) staged rfl grouped ?_
      (fun _ => List.mem_insert_of_mem) fun pending inside => ⟨pending, inside, .refl pending⟩
    intro other inside
    rcases List.mem_insert_iff.mp inside with rfl | before
    · exact wellFormed
    · exact safe.wellFormed tracker staged other before

/-- What is pending afterwards covers the id and whatever was covered before. -/
theorem ackGroupedCumulative
    (unmixed : ∀ tracker ∈ session.consumer.ackTracker, ∀ pending ∈ tracker.pendingCumulative,
      ¬ Mixed id pending) :
    GroupSafe (session.ackGroupedCumulative id now)
      (history ++ [.ackGroupedCumulative id now]) := by
  apply safe.ackGrouped
  · exact fun session => .inl (session.ack_covers_cumulatively id)
  · intro tracker ungrouped
    rw [addCumulative, if_pos ungrouped]
    rfl
  · intro tracker staged grouped
    rw [addCumulative, if_neg grouped]
    refine safe.stage (.inr ⟨_, rfl, _, rfl, ?_⟩) staged rfl grouped
      (safe.wellFormed tracker staged) (List.Subset.refl _) fun pending inside => ⟨_, rfl, ?_⟩
    · cases found : tracker.pendingCumulative with
      | none => exact Covers.refl id
      | some pending => exact (greaterCumulative_covers (unmixed tracker staged pending found)).1
    · have kept := (greaterCumulative_covers (unmixed tracker staged pending inside)).2
      rwa [← Option.mem_def.mp inside] at kept

end

end GroupSafe

variable {session : AckSession} {history : List AckOp}

section Runs

variable (single : Prost SingleMessageMetadata) (codecs : Codecs)

theorem GroupSafe.step (safe : GroupSafe session history) (whole : StagesWhole session op) :
    GroupSafe (session.step single codecs op) (history ++ [op]) := by
  cases op with
  | slot => exact safe.keep nofun rfl List.prefix_rfl
  | ack request messageIdData =>
    exact safe.keep nofun (session.ackInner_ackTracker request messageIdData)
      (session.ackInner_sent request messageIdData)
  | ackGroupedIndividual => exact safe.ackGroupedIndividual whole
  | ackGroupedCumulative => exact safe.ackGroupedCumulative whole
  | negativeAck ids now =>
    exact safe.keep nofun (session.negativeAck_ackTracker ids now)
      (session.negativeAck_sent ids now)
  | negativeAckWithDelay id delay now =>
    exact safe.keep nofun (session.negativeAckWithDelay_ackTracker id delay now)
      (session.negativeAckWithDelay_sent id delay now)
  | redeliverUnackedAll => exact safe.keep nofun rfl (session.emitRedeliverUnacked_sent [])
  | handleTimeout => exact safe.handleTimeout _ _
  | closeConsumer => exact safe.closeConsumer
  | settleTransactionalAcks =>
    exact safe.keep nofun (session.consumer.settleTransactionalAcks_ackTracker _ _) List.prefix_rfl

theorem GroupSafe.run {ops : List AckOp} (safe : GroupSafe session history)
    (whole : Guarded (AckSession.step single codecs) StagesWhole session ops) :
    GroupSafe (run (AckSession.step single codecs) session ops) (history ++ ops) := by
  induction ops generalizing session history with
  | nil => simpa using safe
  | cons _ _ ih =>
    have next := ih (safe.step single codecs whole.1) whole.2
    rwa [List.append_assoc] at next

/-- Whether nothing is staged any more once the call is done: the window of the group is over at a
timer tick, the open consumer is closed, or acknowledgements are not grouped. -/
def Flushes (session : AckSession) (op : AckOp) : Prop :=
  match session.consumer.ackTracker with
  | none => True
  | some tracker =>
    tracker.ackGroupTime = 0 ∨
    (match op with
    | .handleTimeout _ now => ∀ first ∈ tracker.lastFlush, tracker.ackGroupTime ≤ now - first
    | .closeConsumer => session.consumer.terminalOperation = .opened
    | _ => False)

theorem step_ackGroupTime (session : AckSession) (op : AckOp) :
    (session.step single codecs op).consumer.ackTracker.map ackGroupTime =
      session.consumer.ackTracker.map ackGroupTime := by
  cases op with
  | slot | redeliverUnackedAll => rfl
  | ack => exact congrArg _ (session.ackInner_ackTracker _ _)
  | ackGroupedIndividual id now =>
    apply session.ackGrouped_ackGroupTime
    intro tracker
    show (tracker.addIndividual id now).1.ackGroupTime = _
    rw [addIndividual]
    split <;> rfl
  | ackGroupedCumulative id now =>
    apply session.ackGrouped_ackGroupTime
    intro tracker
    show (tracker.addCumulative id now).1.ackGroupTime = _
    rw [addCumulative]
    split <;> rfl
  | negativeAck ids now => exact congrArg _ (session.negativeAck_ackTracker ids now)
  | negativeAckWithDelay id delay now =>
    exact congrArg _ (session.negativeAckWithDelay_ackTracker id delay now)
  | handleTimeout stallTimeout now =>
    show (session.handleTimeout stallTimeout now).consumer.ackTracker.map _ = _
    rw [handleTimeout_eq, dispatchAckActions_ackTracker,
      beforeDispatch_ackTracker, Option.map_map]
    congr 1
    funext tracker
    show (tracker.poll now).1.ackGroupTime = _
    rcases tracker.poll_cases now with waiting | ⟨_, flushed⟩
    · rw [waiting]
    · rw [flushed]
      rfl
  | closeConsumer =>
    show session.closeConsumer.consumer.ackTracker.map _ = _
    rw [AckSession.closeConsumer]
    split
    · split
      · rename_i tracker staged
        rw [dispatchAckActions_ackTracker, staged]
        rfl
      · rfl
    · rfl
  | settleTransactionalAcks =>
    exact congrArg _ (session.consumer.settleTransactionalAcks_ackTracker _ _)

theorem GroupSafe.empty_of_flushes
    (safe : GroupSafe session history) (whole : StagesWhole session op)
    (flushes : Flushes session op) (tracker : AckGroupingTracker)
    (after : tracker ∈ (session.step single codecs op).consumer.ackTracker) :
    tracker.pendingIndividuals = [] ∧ tracker.pendingCumulative = none := by
  have next := safe.step single codecs whole
  have lengths := step_ackGroupTime single codecs session op
  rw [Option.mem_def.mp after] at lengths
  unfold Flushes at flushes
  cases staged : session.consumer.ackTracker with
  | none =>
    rw [staged] at lengths
    cases lengths
  | some before =>
    rw [staged] at lengths flushes
    rcases flushes with ungrouped | closing
    · exact next.armed tracker after (.inr ((Option.some.inj lengths).trans ungrouped))
    · cases op with
      | handleTimeout stallTimeout now =>
        have polled : some tracker = some (before.poll now).1 := by
          rw [← Option.mem_def.mp after]
          show (session.handleTimeout stallTimeout now).consumer.ackTracker = _
          rw [handleTimeout_eq, dispatchAckActions_ackTracker,
            beforeDispatch_ackTracker, staged]
          rfl
        cases polled
        cases started : before.lastFlush with
        | none =>
          have still : before.poll now = (before, []) := by
            rw [poll, started]
          rw [still]
          exact safe.armed before staged (.inl started)
        | some first =>
          have elapsed : ¬ now - first < before.ackGroupTime := by
            have := closing first started
            omega
          have flushed : before.poll now = before.flush := by
            rw [poll, started]
            exact if_neg elapsed
          rw [flushed]
          exact ⟨rfl, rfl⟩
      | closeConsumer =>
        have flushed : some tracker = some before.flush.1 := by
          rw [← Option.mem_def.mp after]
          show session.closeConsumer.consumer.ackTracker = _
          rw [AckSession.closeConsumer, if_pos closing]
          rw [staged]
          exact dispatchAckActions_ackTracker _ _
        cases flushed
        exact ⟨rfl, rfl⟩
      | _ => exact closing.elim

/-- In every run from a consumer with nothing staged in which every individual id staged is well
formed and no cumulative id meets a pending one that names its entry in the other way: once a call
flushes the group, an individual acknowledgement of every individual id staged, or a cumulative one
at or after it, has been sent, and a cumulative one at or after every cumulative id staged. -/
theorem flushed_group_is_covered (session : AckSession)
    (unstaged : ∀ tracker ∈ session.consumer.ackTracker,
      tracker.pendingIndividuals = [] ∧ tracker.pendingCumulative = none)
    (ops : List AckOp) (op : AckOp)
    (whole : Guarded (AckSession.step single codecs) StagesWhole session (ops ++ [op]))
    (flushes : Flushes (run (AckSession.step single codecs) session ops) op) :
    (∀ id now, .ackGroupedIndividual id now ∈ ops ++ [op] →
      Covered (run (AckSession.step single codecs) session (ops ++ [op])).sent id) ∧
    (∀ id now, .ackGroupedCumulative id now ∈ ops ++ [op] →
      CoveredCumulatively (run (AckSession.step single codecs) session (ops ++ [op])).sent id) := by
  have start : GroupSafe session [] := by
    refine ⟨?_, fun tracker member _ => unstaged tracker member, ?_, ?_⟩
    · intro tracker member id inside
      rw [(unstaged tracker member).1] at inside
      cases inside
    · intro id now member
      cases member
    · intro id now member
      cases member
  obtain ⟨before, last, _⟩ := Guarded.append.mp whole
  have reached := start.run single codecs before
  have safe := start.run single codecs whole
  have empty : ∀ tracker ∈ (run (AckSession.step single codecs) session
      (ops ++ [op])).consumer.ackTracker,
      tracker.pendingIndividuals = [] ∧ tracker.pendingCumulative = none := by
    rw [run_append]
    exact reached.empty_of_flushes single codecs last flushes
  constructor
  · intro id now member
    rcases safe.individual id now member with covered | ⟨tracker, held, inside⟩
    · exact covered
    · rw [(empty tracker held).1] at inside
      cases inside
  · intro id now member
    rcases safe.cumulative id now member with covered | ⟨tracker, held, pending, inside, _⟩
    · exact covered
    · rw [(empty tracker held).2] at inside
      cases inside

end Runs

def groupingSession (groupTime : Nat) : AckSession where
  consumer := {
    handle := 7, topic := "t", subscription := "s", receiverQueueSize := 10,
    policy := ReceiverQueue.fixed 10, ackTracker := some (.new 7 groupTime) }

/-- Two ids, staged one way each, are covered once the timer has flushed the group. -/
theorem flushed_group_is_covered_at_timer :
    Covered (run (AckSession.step default default) (groupingSession 5)
        [.ackGroupedIndividual ⟨1, 3, -1, 0, 2⟩ 0, .ackGroupedCumulative ⟨1, 2, -1, -1, 0⟩ 1,
          .handleTimeout none 5]).sent ⟨1, 3, -1, 0, 2⟩ ∧
      CoveredCumulatively (run (AckSession.step default default) (groupingSession 5)
        [.ackGroupedIndividual ⟨1, 3, -1, 0, 2⟩ 0, .ackGroupedCumulative ⟨1, 2, -1, -1, 0⟩ 1,
          .handleTimeout none 5]).sent ⟨1, 2, -1, -1, 0⟩ := by
  have covered := flushed_group_is_covered default default (groupingSession 5)
    (by rintro _ ⟨rfl⟩; exact ⟨rfl, rfl⟩)
    [.ackGroupedIndividual ⟨1, 3, -1, 0, 2⟩ 0, .ackGroupedCumulative ⟨1, 2, -1, -1, 0⟩ 1]
    (.handleTimeout none 5)
    ⟨rfl, by rintro _ ⟨rfl⟩ _ ⟨⟩, trivial, trivial⟩
    (.inr (by rintro _ ⟨rfl⟩; decide))
  exact ⟨covered.1 _ 0 (by simp), covered.2 _ 1 (by simp)⟩

/-- A malformed id in the group keeps every other individual id of it from being sent. -/
theorem flush_refused_of_malformed (session : AckSession)
    {malformed : MessageId} (staged : malformed ∈ tracker.pendingIndividuals)
    (wrong : isMalformed malformed = true) (uncumulative : tracker.pendingCumulative = none) :
    (session.dispatchAckActions tracker.flush.2).sent = session.sent := by
  have nonempty : ¬ tracker.pendingIndividuals.isEmpty = true := by
    rw [List.isEmpty_iff]
    exact List.ne_nil_of_mem staged
  let request : AckRequest :=
    { messageIds := tracker.pendingIndividuals.mergeSort MessageId.le, ackType := .individual }
  have refused : isRefused request = true := by
    simpa [request, isRefused] using ⟨malformed, staged, wrong⟩
  rw [flush, if_neg nonempty, uncumulative]
  rcases session.ackInner_cases request none with ⟨_, _, same⟩ | ⟨accepted, _⟩
  · exact same
  · rw [refused] at accepted
    cases accepted

/-- Position 5 of a batch of 2 in the group: neither it nor the entry staged before it is sent when
the window is over.  And a position staged after its whole entry takes the place of the entry. -/
theorem group_loses_ids :
    ¬ Covered (run (AckSession.step default default) (groupingSession 5)
        [.ackGroupedIndividual ⟨1, 1, -1, -1, 0⟩ 0, .ackGroupedIndividual ⟨1, 2, -1, 5, 2⟩ 1,
          .handleTimeout none 5]).sent ⟨1, 1, -1, -1, 0⟩ ∧
      ¬ CoveredCumulatively (run (AckSession.step default default) (groupingSession 5)
        [.ackGroupedCumulative ⟨1, 1, -1, -1, 0⟩ 0, .ackGroupedCumulative ⟨1, 1, -1, 0, 3⟩ 1,
          .handleTimeout none 5]).sent ⟨1, 1, -1, -1, 0⟩ := by
  constructor
  · have unsent : (run (AckSession.step default default) (groupingSession 5)
        [.ackGroupedIndividual ⟨1, 1, -1, -1, 0⟩ 0, .ackGroupedIndividual ⟨1, 2, -1, 5, 2⟩ 1,
          .handleTimeout none 5]).sent = [] :=
      flush_refused_of_malformed _
        (List.mem_insert_self : (⟨1, 2, -1, 5, 2⟩ : MessageId) ∈ [⟨1, 1, -1, -1, 0⟩].insert _)
        rfl rfl
    rw [unsent]
    rintro (⟨_, member, _⟩ | ⟨_, member, _⟩) <;> cases member
  · have only : (run (AckSession.step default default) (groupingSession 5)
        [.ackGroupedCumulative ⟨1, 1, -1, -1, 0⟩ 0, .ackGroupedCumulative ⟨1, 1, -1, 0, 3⟩ 1,
          .handleTimeout none 5]).sent = [.ack {
            consumerId := 7, ackType := .cumulative, requestId := some 0, messageId := [{
              ledgerId := 1, entryId := 1, partition := some (-1), batchIndex := some 0,
              batchSize := some 3, ackSet := [6] }] }] := by
      decide +kernel
    rw [only]
    rintro ⟨_, member, _, data, inside, covers⟩
    cases List.mem_singleton.mp member
    cases List.mem_singleton.mp inside
    unfold Covers at covers
    simp [MessageId.fromPb] at covers

end Magnetar.Proto.Connection
