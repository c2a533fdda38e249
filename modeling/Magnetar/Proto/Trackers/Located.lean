import Mathlib.Data.List.TakeWhile
import Magnetar.Library.Deadlines
import Magnetar.Proto.Trackers.Buckets

/-!
Contract: each call of the acknowledgement-timeout tracker as a step of a table of deadlines.

Owns: the calls as a machine, the invariant that ties the locator to the buckets, the condition
under which a poll keeps it, the simulation of a table of deadlines by every call, and the ids that
stay out of the tracker whether or not the invariant holds.

Does not own: what follows over whole runs (`Trackers.Expiry`), or who makes the calls.
-/

namespace Magnetar.Proto.Trackers.Unacked

open Library Library.Machine Pb Deadlines Bucket

/-! ### Calls -/

inductive TrackerOp where
  | add (messageId : MessageId) (now : Nat)
  | addWithRedeliveryCount (messageId : MessageId) (redeliveryCount now : Nat)
  | remove (messageId : MessageId)
  | poll (now : Nat)
  deriving DecidableEq, Repr

def TrackerOp.added? : TrackerOp → Option MessageId
  | .add messageId _ => some messageId
  | .addWithRedeliveryCount messageId _ _ => some messageId
  | _ => none

variable {tracker : UnackedMessageTracker} {due index : Nat}

namespace UnackedMessageTracker

variable (tracker)

def step : TrackerOp → UnackedMessageTracker
  | .add messageId now => tracker.add messageId now
  | .addWithRedeliveryCount messageId redeliveryCount now =>
    tracker.addWithRedeliveryCount messageId redeliveryCount now
  | .remove messageId => tracker.remove messageId
  | .poll now => (tracker.poll now).1

def returned : TrackerOp → List MessageId
  | .poll now => (tracker.poll now).2.flatMap RedeliverExpired.messageIds
  | _ => []

def len : Nat :=
  tracker.locator.keys.length + tracker.backoffPending.keys.length

/-- The tracker as a table of deadlines. -/
def deadlines : Deadlines MessageId := fun messageId =>
  (bucketDue tracker.buckets messageId).or (tracker.backoffPending.lookup messageId)

/-- The deadline of the bucket that an id added at `now` goes into. -/
def joinedDue (now : Nat) : Nat :=
  match tracker.buckets.getLast? with
  | some last =>
    if now < last.deadline then last.deadline else deadlineWithClamp now tracker.ackTimeout
  | none => deadlineWithClamp now tracker.ackTimeout

/-- What a call does to the table of deadlines. -/
def events : TrackerOp → List (Deadlines.Event MessageId)
  | .add messageId now =>
    if tracker.isDisabled then [] else [.track messageId (tracker.joinedDue now)]
  | .addWithRedeliveryCount messageId redeliveryCount now =>
    if tracker.isDisabled then []
    else
      match tracker.backoff with
      | none => [.track messageId (tracker.joinedDue now)]
      | some delayFor =>
        [.track messageId (deadlineWithClamp now (delayFor redeliveryCount))]
  | .remove messageId => [.forget messageId]
  | .poll now => if tracker.isDisabled then [] else [.expire now]

variable {tracker}

/-- The locator and the buckets agree, no id is tracked twice, and deadlines grow. -/
structure Located (tracker : UnackedMessageTracker) : Prop where
  indexes : Indexes tracker.buckets tracker.locator
  distinct : (heldIds tracker.buckets).Nodup
  apart : ∀ messageId ∈ tracker.backoffPending, messageId ∉ heldIds tracker.buckets
  ascending : tracker.buckets.Pairwise fun earlier later => earlier.deadline < later.deadline

namespace Located

variable {tracker : UnackedMessageTracker} {messageId : MessageId}

section

variable (located : Located tracker)

include located

theorem isTracked_iff (messageId : MessageId) :
    tracker.isTracked messageId = true ↔ tracker.deadlines messageId ≠ none := by
  rw [isTracked, Bool.or_eq_true, decide_eq_true_eq, decide_eq_true_eq,
    located.indexes.mem_iff, deadlines, ne_eq, Option.or_eq_none_iff, bucketDue_eq_none,
    AList.lookup_eq_none]
  tauto

theorem deadlines_of_free (free : tracker.isTracked messageId = false) :
    tracker.deadlines messageId = none := by
  by_contra tracked
  rw [(located.isTracked_iff messageId).mpr tracked] at free
  cases free

theorem bucketDue_of_pending (pending : messageId ∈ tracker.backoffPending) :
    bucketDue tracker.buckets messageId = none :=
  bucketDue_eq_none.mpr (located.apart messageId pending)

theorem unpending_of_bucketDue (held : bucketDue tracker.buckets messageId = some due) :
    tracker.backoffPending.lookup messageId = none := by
  rw [AList.lookup_eq_none]
  intro pending
  rw [located.bucketDue_of_pending pending] at held
  cases held

end

end Located

/-! ### Adding -/

/-- The newest bucket after it has been made sure that one is open. -/
theorem ensureCurrentBucket_spec (tracker : UnackedMessageTracker) (now : Nat) :
    ∃ earlier ids,
      tracker.ensureCurrentBucket now =
        ({ tracker with buckets := earlier ++ [{ deadline := tracker.joinedDue now, ids }] },
          earlier.length) ∧
      (tracker.buckets = earlier ++ [{ deadline := tracker.joinedDue now, ids }] ∨
        tracker.buckets = earlier ∧ ids = [] ∧
          tracker.joinedDue now = deadlineWithClamp now tracker.ackTimeout ∧
          ∀ last ∈ tracker.buckets.getLast?, last.deadline ≤ now) := by
  cases found : tracker.buckets.getLast? with
  | none =>
    have due : tracker.joinedDue now = deadlineWithClamp now tracker.ackTimeout := by
      simp [joinedDue, found]
    refine ⟨tracker.buckets, [], ?_, .inr ⟨rfl, rfl, due, by simp⟩⟩
    simp [ensureCurrentBucket, found, due]
  | some last =>
    obtain ⟨earlier, split⟩ := List.getLast?_eq_some_iff.mp found
    by_cases opened : now < last.deadline
    · have due : tracker.joinedDue now = last.deadline := by simp [joinedDue, found, opened]
      have same : tracker.buckets =
          earlier ++ [{ deadline := tracker.joinedDue now, ids := last.ids }] := by
        rw [due, split]
      refine ⟨earlier, last.ids, ?_, .inl same⟩
      have newest : tracker.buckets.length - 1 = earlier.length := by simp [split]
      rw [← same, ensureCurrentBucket, if_pos (by simp [found, opened]), newest]
    · have due : tracker.joinedDue now = deadlineWithClamp now tracker.ackTimeout := by
        simp [joinedDue, found, opened]
      refine ⟨tracker.buckets, [], ?_, .inr ⟨rfl, rfl, due, ?_⟩⟩
      · simp [ensureCurrentBucket, found, opened, due]
      · rintro other ⟨⟩
        omega

theorem add_eq {messageId : MessageId} {now : Nat}
    (enabled : tracker.isDisabled = false) (free : tracker.isTracked messageId = false) :
    ∃ earlier ids,
      tracker.add messageId now = { tracker with
        buckets := earlier ++
          [{ deadline := tracker.joinedDue now, ids := ids.insert messageId }]
        locator := tracker.locator.insert messageId earlier.length } ∧
      (tracker.buckets = earlier ++ [{ deadline := tracker.joinedDue now, ids }] ∨
        tracker.buckets = earlier ∧ ids = [] ∧
          tracker.joinedDue now = deadlineWithClamp now tracker.ackTimeout ∧
          ∀ last ∈ tracker.buckets.getLast?, last.deadline ≤ now) := by
  obtain ⟨earlier, ids, ensured, place⟩ := tracker.ensureCurrentBucket_spec now
  refine ⟨earlier, ids, ?_, place⟩
  rw [add, enabled, free, ensured]
  simp [modify_length_append]

theorem lt_deadlineWithClamp {base delta : Nat} (positive : 0 < delta) :
    base < deadlineWithClamp base delta := by
  unfold deadlineWithClamp
  have fallback : 0 < overflowFallback := by decide
  split <;> omega

theorem getElem?_concat_eq_some {α : Type*} {earlier : List α} {newest found : α} :
    (earlier ++ [newest])[index]? = some found ↔
      earlier[index]? = some found ∨ index = earlier.length ∧ newest = found := by
  rcases Nat.lt_trichotomy index earlier.length with below | rfl | above
  · have differs : index ≠ earlier.length := Nat.ne_of_lt below
    rw [List.getElem?_append_left below]
    simp [differs]
  · simp
  · have differs : index ≠ earlier.length := Nat.ne_of_gt above
    rw [List.getElem?_eq_none (by simp; omega), List.getElem?_eq_none (by omega)]
    simp [differs]

namespace Located

variable {tracker : UnackedMessageTracker} {messageId : MessageId}

theorem open_bucket (located : Located tracker)
    (later : ∀ bucket ∈ tracker.buckets, bucket.deadline < due) :
    let opened := { tracker with buckets := tracker.buckets ++ [{ deadline := due, ids := [] }] }
    Located opened ∧ opened.deadlines = tracker.deadlines := by
  have held : heldIds (tracker.buckets ++ [{ deadline := due, ids := [] }]) =
      heldIds tracker.buckets := by
    simp [heldIds]
  refine ⟨⟨?_, ?_, ?_, ?_⟩, ?_⟩
  · intro messageId index
    rw [located.indexes messageId index]
    simp only [getElem?_concat_eq_some]
    constructor
    · rintro ⟨bucket, found, inside⟩
      exact ⟨bucket, .inl found, inside⟩
    · rintro ⟨bucket, found | ⟨_, rfl⟩, inside⟩
      · exact ⟨bucket, found, inside⟩
      · cases inside
  · rw [held]
    exact located.distinct
  · rw [held]
    exact located.apart
  · rw [List.pairwise_append]
    refine ⟨located.ascending, List.pairwise_singleton _ _, ?_⟩
    intro bucket member newest last
    rw [List.mem_singleton.mp last]
    exact later bucket member
  · funext messageId
    simp [deadlines, bucketDue_append, bucketDue_cons, bucketDue_nil]

theorem indexes_insert (located : Located tracker) {earlier : List Bucket} {ids : List MessageId}
    (newest : tracker.buckets = earlier ++ [{ deadline := due, ids }])
    (absent : messageId ∉ heldIds earlier) :
    Indexes (earlier ++ [{ deadline := due, ids := ids.insert messageId }])
      (tracker.locator.insert messageId earlier.length) := by
  intro other index
  by_cases same : other = messageId
  · subst same
    simp only [AList.lookup_insert, Option.some.injEq, getElem?_concat_eq_some]
    constructor
    · rintro rfl
      exact ⟨_, .inr ⟨rfl, rfl⟩, List.mem_insert_self⟩
    · rintro ⟨bucket, found | ⟨at_end, _⟩, inside⟩
      · exact absurd (List.mem_flatMap.mpr ⟨bucket, List.mem_of_getElem? found, inside⟩) absent
      · exact at_end.symm
  · rw [AList.lookup_insert_ne same, located.indexes other index, newest]
    simp only [getElem?_concat_eq_some]
    constructor
    · rintro ⟨bucket, found | ⟨at_end, rfl⟩, inside⟩
      · exact ⟨bucket, .inl found, inside⟩
      · exact ⟨_, .inr ⟨at_end, rfl⟩, List.mem_insert_of_mem inside⟩
    · rintro ⟨bucket, found | ⟨at_end, rfl⟩, inside⟩
      · exact ⟨bucket, .inl found, inside⟩
      · exact ⟨_, .inr ⟨at_end, rfl⟩, ((List.mem_insert_iff).mp inside).resolve_left same⟩

/-- An id that is not tracked takes the deadline of the newest bucket. -/
theorem insert_newest (located : Located tracker) {earlier : List Bucket} {ids : List MessageId}
    (newest : tracker.buckets = earlier ++ [{ deadline := due, ids }])
    (free : tracker.deadlines messageId = none) :
    let inserted := { tracker with
      buckets := earlier ++ [{ deadline := due, ids := ids.insert messageId }]
      locator := tracker.locator.insert messageId earlier.length }
    Located inserted ∧
      inserted.deadlines = Deadlines.step tracker.deadlines (.track messageId due) := by
  rw [deadlines, Option.or_eq_none_iff, bucketDue_eq_none, AList.lookup_eq_none] at free
  obtain ⟨unheld, unpending⟩ := free
  have absent : messageId ∉ heldIds earlier ∧ messageId ∉ ids := by
    rw [newest, heldIds_append, List.mem_append, not_or] at unheld
    exact ⟨unheld.1, by simpa [heldIds] using unheld.2⟩
  have held : heldIds (earlier ++ [{ deadline := due, ids := ids.insert messageId }]) =
      heldIds earlier ++ messageId :: ids := by
    simp [heldIds, List.insert_of_not_mem absent.2]
  have heldBefore : heldIds tracker.buckets = heldIds earlier ++ ids := by
    rw [newest]
    simp [heldIds]
  have distinct : (heldIds earlier ++ messageId :: ids).Nodup := by
    rw [List.nodup_middle, List.nodup_cons, ← heldBefore]
    exact ⟨unheld, located.distinct⟩
  refine ⟨⟨located.indexes_insert newest absent.1, ?_, ?_, ?_⟩, ?_⟩
  · rw [held]
    exact distinct
  · intro other pending
    rw [held, List.mem_append, List.mem_cons]
    have apart := located.apart other pending
    rw [heldBefore, List.mem_append, not_or] at apart
    have differs : other ≠ messageId := by
      rintro rfl
      exact unpending pending
    tauto
  · have ascending := located.ascending
    rw [newest, List.pairwise_append] at ascending
    rw [List.pairwise_append]
    refine ⟨ascending.1, List.pairwise_singleton _ _, ?_⟩
    intro bucket member last atEnd
    rw [List.mem_singleton.mp atEnd]
    exact ascending.2.2 bucket member { deadline := due, ids } (List.mem_singleton_self _)
  · funext other
    rw [step_track, deadlines, deadlines, newest, bucketDue_append, bucketDue_append,
      bucketDue_cons, bucketDue_cons, bucketDue_nil]
    by_cases same : other = messageId
    · subst same
      rw [bucketDue_eq_none.mpr absent.1, AList.lookup_eq_none.mpr unpending]
      simp [absent.2]
    · simp [same]

theorem track_tracked (tracked : tracker.deadlines messageId ≠ none) :
    Deadlines.step tracker.deadlines (.track messageId due) = tracker.deadlines := by
  funext other
  rw [step_track]
  split
  case isTrue same =>
    subst same
    obtain ⟨kept, found⟩ := Option.ne_none_iff_exists'.mp tracked
    rw [found, Option.or_some, Option.getD_some]
  case isFalse => rfl

section

variable (located : Located tracker)

include located

theorem passed_of_newest {now : Nat}
    (passed : ∀ last ∈ tracker.buckets.getLast?, last.deadline ≤ now) :
    ∀ bucket ∈ tracker.buckets, bucket.deadline ≤ now := by
  intro bucket member
  obtain ⟨earlier, last, split⟩ : ∃ earlier last, tracker.buckets = earlier ++ [last] :=
    ⟨_, _, (List.dropLast_append_getLast (List.ne_nil_of_mem member)).symm⟩
  have ascending := located.ascending
  have elapsed : last.deadline ≤ now := passed last (by rw [split]; simp)
  rw [split, List.pairwise_append] at ascending
  rw [split, List.mem_append, List.mem_singleton] at member
  rcases member with older | rfl
  · have before := ascending.2.2 bucket older last (List.mem_singleton_self _)
    omega
  · exact elapsed

theorem add (enabled : tracker.isDisabled = false) (messageId : MessageId) (now : Nat) :
    Located (tracker.add messageId now) ∧ (tracker.add messageId now).deadlines =
      Deadlines.step tracker.deadlines (.track messageId (tracker.joinedDue now)) := by
  cases tracked : tracker.isTracked messageId with
  | true =>
    have same : tracker.add messageId now = tracker := by simp [UnackedMessageTracker.add, tracked]
    rw [same, track_tracked ((located.isTracked_iff messageId).mp tracked)]
    exact ⟨located, rfl⟩
  | false =>
    have free := located.deadlines_of_free tracked
    obtain ⟨earlier, ids, added, newest | ⟨rfl, rfl, due, passed⟩⟩ := add_eq enabled tracked
    · rw [added]
      exact located.insert_newest newest free
    · have positive : 0 < tracker.ackTimeout := by
        simpa [isDisabled, Nat.pos_iff_ne_zero] using enabled
      have later : ∀ bucket ∈ tracker.buckets, bucket.deadline < tracker.joinedDue now := by
        intro bucket member
        have elapsed := located.passed_of_newest passed bucket member
        have ahead : now < deadlineWithClamp now tracker.ackTimeout :=
          lt_deadlineWithClamp positive
        omega
      obtain ⟨opened, same⟩ := located.open_bucket later
      rw [added, ← same]
      exact opened.insert_newest rfl (same ▸ free)

theorem addWithRedeliveryCount (enabled : tracker.isDisabled = false)
    (messageId : MessageId) (redeliveryCount now : Nat) :
    Located (tracker.addWithRedeliveryCount messageId redeliveryCount now) ∧
      (tracker.addWithRedeliveryCount messageId redeliveryCount now).deadlines =
        run Deadlines.step tracker.deadlines
          (tracker.events (.addWithRedeliveryCount messageId redeliveryCount now)) := by
  rw [UnackedMessageTracker.addWithRedeliveryCount, events, enabled]
  cases backoff : tracker.backoff with
  | none => exact located.add enabled messageId now
  | some =>
    simp only [Bool.false_eq_true, if_false, run_cons, run_nil]
    split
    case isTrue tracked =>
      rw [track_tracked ((located.isTracked_iff messageId).mp tracked)]
      exact ⟨located, rfl⟩
    case isFalse untracked =>
      have free := located.deadlines_of_free (Bool.not_eq_true _ ▸ untracked)
      rw [deadlines, Option.or_eq_none_iff, bucketDue_eq_none] at free
      refine ⟨⟨located.indexes, located.distinct, ?_, located.ascending⟩, ?_⟩
      · intro other pending
        rcases (AList.mem_insert _).mp pending with rfl | pending
        · exact free.1
        · exact located.apart other pending
      · funext other
        rw [step_track, deadlines, deadlines]
        by_cases same : other = messageId
        · subst same
          simp [bucketDue_eq_none.mpr free.1, free.2]
        · simp [same, AList.lookup_insert_ne same]

/-! ### Removing -/

theorem indexes_erase (found : tracker.locator.lookup messageId = some index) :
    Indexes (tracker.buckets.modify index (without messageId))
      (tracker.locator.erase messageId) := by
  obtain ⟨bucket, atIndex, inside⟩ := (located.indexes messageId index).mp found
  have nodup : bucket.ids.Nodup := by
    have distinct := located.distinct
    rw [heldIds, List.nodup_flatMap] at distinct
    exact distinct.1 bucket (List.mem_of_getElem? atIndex)
  intro other place
  simp only [List.getElem?_modify]
  by_cases same : other = messageId
  · subst same
    rw [AList.lookup_erase]
    simp only [reduceCtorEq, false_iff, not_exists, not_and]
    intro kept atPlace again
    obtain ⟨before, atPlace', rfl⟩ := Option.map_eq_some_iff.mp atPlace
    split at again
    case isTrue here =>
      rw [← here, atIndex, Option.some.injEq] at atPlace'
      rw [← atPlace'] at again
      exact nodup.not_mem_erase again
    case isFalse elsewhere =>
      have again' := (located.indexes other place).mpr ⟨before, atPlace', again⟩
      rw [found, Option.some.injEq] at again'
      exact elsewhere again'
  · rw [AList.lookup_erase_ne same, located.indexes other place]
    constructor
    · rintro ⟨before, atPlace, here⟩
      refine ⟨_, by rw [atPlace]; rfl, ?_⟩
      split
      · exact (List.mem_erase_of_ne same).mpr here
      · exact here
    · rintro ⟨kept, atPlace, here⟩
      obtain ⟨before, atPlace', rfl⟩ := Option.map_eq_some_iff.mp atPlace
      refine ⟨before, atPlace', ?_⟩
      split at here
      · exact (List.mem_erase_of_ne same).mp here
      · exact here

theorem apart_erase (messageId : MessageId) :
    ∀ other ∈ tracker.backoffPending.erase messageId, other ∉ heldIds tracker.buckets :=
  fun other pending => located.apart other (AList.mem_erase.mp pending).2

theorem remove_unheld (found : tracker.locator.lookup messageId = none) :
    Located (tracker.remove messageId) ∧ (tracker.remove messageId).deadlines =
      Deadlines.step tracker.deadlines (.forget messageId) := by
  have unheld : messageId ∉ heldIds tracker.buckets := by
    rw [← located.indexes.mem_iff, ← AList.lookup_eq_none]
    exact found
  have removed : tracker.remove messageId = { tracker with
      locator := tracker.locator.erase messageId
      backoffPending := tracker.backoffPending.erase messageId } := by
    rw [UnackedMessageTracker.remove, found]
  have same : ∀ other index, (tracker.locator.erase messageId).lookup other = some index ↔
      tracker.locator.lookup other = some index := by
    intro other index
    by_cases equal : other = messageId
    · subst equal
      rw [AList.lookup_erase, found]
    · rw [AList.lookup_erase_ne equal]
  rw [removed]
  refine ⟨⟨?_, located.distinct, located.apart_erase messageId, located.ascending⟩, ?_⟩
  · intro other index
    rw [same]
    exact located.indexes other index
  · funext other
    rw [step_forget, deadlines, deadlines]
    by_cases equal : other = messageId
    · subst equal
      simp [bucketDue_eq_none.mpr unheld]
    · simp [equal, AList.lookup_erase_ne equal]

theorem remove_held (found : tracker.locator.lookup messageId = some index) :
    Located (tracker.remove messageId) ∧ (tracker.remove messageId).deadlines =
      Deadlines.step tracker.deadlines (.forget messageId) := by
  have removed : tracker.remove messageId = { tracker with
      buckets := tracker.buckets.modify index (without messageId)
      locator := tracker.locator.erase messageId
      backoffPending := tracker.backoffPending.erase messageId } := by
    rw [UnackedMessageTracker.remove, found]
  have indexes := located.indexes_erase found
  have fewer : (heldIds (tracker.buckets.modify index (without messageId))).Sublist
      (heldIds tracker.buckets) :=
    heldIds_modify _ (fun _ => List.erase_sublist) _ _
  rw [removed]
  refine ⟨⟨indexes, located.distinct.sublist fewer, ?_, ?_⟩, ?_⟩
  · intro other pending inside
    exact located.apart_erase messageId other pending (fewer.subset inside)
  · have same : (tracker.buckets.modify index (without messageId)).map deadline =
        tracker.buckets.map deadline :=
      deadlines_modify (without messageId) (fun _ => rfl) _ _
    rw [← List.pairwise_map, same, List.pairwise_map]
    exact located.ascending
  · funext other
    rw [step_forget, deadlines, deadlines]
    by_cases equal : other = messageId
    · subst equal
      have gone : bucketDue (tracker.buckets.modify index (without other)) other = none := by
        rw [bucketDue_eq_none, ← indexes.mem_iff, ← AList.lookup_eq_none, AList.lookup_erase]
      simp [gone]
    · have kept : bucketDue (tracker.buckets.modify index (without messageId)) other =
          bucketDue tracker.buckets other :=
        bucketDue_modify (without messageId) (fun _ => rfl)
          (fun _ => List.mem_erase_of_ne equal) _ _
      rw [kept, AList.lookup_erase_ne equal, if_neg equal]

theorem remove (messageId : MessageId) :
    Located (tracker.remove messageId) ∧ (tracker.remove messageId).deadlines =
      Deadlines.step tracker.deadlines (.forget messageId) := by
  cases found : tracker.locator.lookup messageId with
  | none => exact located.remove_unheld found
  | some => exact located.remove_held found

end

end Located

/-! ### Polling -/

variable (tracker)

/-- The buckets whose deadline has passed, up to the first that is still open. -/
def passed (now : Nat) : List Bucket :=
  tracker.buckets.takeWhile fun bucket => decide (bucket.deadline ≤ now)

def left (now : Nat) : List Bucket :=
  tracker.buckets.dropWhile fun bucket => decide (bucket.deadline ≤ now)

section

variable (handle now : Nat) (buckets : List Bucket) (locator : AList (fun _ : MessageId => Nat))

include handle now buckets locator

theorem reap_buckets :
    (reap handle now buckets locator).buckets =
      buckets.dropWhile fun bucket => decide (bucket.deadline ≤ now) := by
  induction buckets generalizing locator with
  | nil => rfl
  | cons bucket _ ih =>
    rw [reap]
    split
    case isTrue opened => simp [Nat.not_le.mpr opened]
    case isFalse elapsed =>
      have passed : bucket.deadline ≤ now := by omega
      split
      · simp [passed, ih]
      · simp [passed, ih]

theorem reap_expired :
    (reap handle now buckets locator).expired =
      ((buckets.takeWhile fun bucket => decide (bucket.deadline ≤ now)).filter fun bucket =>
        !bucket.ids.isEmpty).map fun bucket =>
          { handle, messageIds := bucket.ids.mergeSort MessageId.le } := by
  induction buckets generalizing locator with
  | nil => rfl
  | cons bucket _ ih =>
    rw [reap]
    split
    case isTrue opened => simp [Nat.not_le.mpr opened]
    case isFalse elapsed =>
      have passed : bucket.deadline ≤ now := by omega
      split
      case isTrue empty => simp [passed, empty, ih]
      case isFalse filled => simp [passed, filled, ih]

theorem reap_locator (silent : (reap handle now buckets locator).expired = []) :
    (reap handle now buckets locator).locator = locator := by
  induction buckets with
  | nil => rfl
  | cons _ _ ih =>
    rw [reap] at silent ⊢
    split
    · rfl
    · split
      case isTrue elapsed empty =>
        rw [if_neg elapsed, if_pos empty] at silent
        exact ih silent
      case isFalse elapsed filled =>
        rw [if_neg elapsed, if_neg filled] at silent
        cases silent

end

theorem passed_append_left (now : Nat) : tracker.buckets = tracker.passed now ++ tracker.left now :=
  List.takeWhile_append_dropWhile.symm

variable {tracker}

theorem passed_over {now : Nat} {bucket : Bucket}
    (member : bucket ∈ tracker.passed now) : bucket.deadline ≤ now := by
  simpa using List.mem_takeWhile_imp member

namespace Located

variable {tracker : UnackedMessageTracker}

section

variable (located : Located tracker)

include located

theorem left_open {now : Nat} {bucket : Bucket}
    (member : bucket ∈ tracker.left now) : now < bucket.deadline := by
  have ascending := located.ascending
  rw [tracker.passed_append_left now, List.pairwise_append] at ascending
  cases kept : tracker.left now with
  | nil => simp [kept] at member
  | cons first =>
    have opened : now < first.deadline := by
      have stops := List.head?_dropWhile_not (fun bucket : Bucket => decide (bucket.deadline ≤ now))
        tracker.buckets
      have head : (tracker.buckets.dropWhile fun bucket => decide (bucket.deadline ≤ now)).head? =
          some first := by
        rw [← left, kept]
        rfl
      rw [head] at stops
      simpa using stops
    rw [kept] at member ascending
    rcases List.mem_cons.mp member with rfl | later
    · exact opened
    · have after := List.rel_of_pairwise_cons ascending.2.1 later
      omega

theorem heldIds_split (now : Nat) :
    (heldIds (tracker.passed now) ++ heldIds (tracker.left now)).Nodup := by
  rw [← heldIds_append, ← passed_append_left]
  exact located.distinct

theorem bucketDue_left (now : Nat) (messageId : MessageId) :
    bucketDue (tracker.left now) messageId =
      (bucketDue tracker.buckets messageId).filter fun due => decide (now < due) := by
  have whole : bucketDue tracker.buckets messageId =
      (bucketDue (tracker.passed now) messageId).or (bucketDue (tracker.left now) messageId) := by
    rw [← bucketDue_append, ← passed_append_left]
  rw [whole]
  cases reaped : bucketDue (tracker.passed now) messageId with
  | none =>
    rw [Option.none_or]
    cases kept : bucketDue (tracker.left now) messageId with
    | none => rfl
    | some =>
      obtain ⟨bucket, member, _, rfl⟩ := holds_of_bucketDue kept
      rw [Option.filter_some, if_pos (decide_eq_true (located.left_open member))]
  | some =>
    obtain ⟨bucket, member, inside, rfl⟩ := holds_of_bucketDue reaped
    have elapsed := passed_over member
    have gone : bucketDue (tracker.left now) messageId = none := by
      rw [bucketDue_eq_none]
      intro again
      have apart := (List.nodup_append.mp (located.heldIds_split now)).2.2
      exact apart _ (List.mem_flatMap.mpr ⟨bucket, member, inside⟩) _ again rfl
    have notAhead : ¬ now < bucket.deadline := by omega
    rw [gone, Option.or_none, Option.filter_some, if_neg (by simpa using notAhead)]

/-- An id is reported by a passed bucket exactly when its deadline is over, and once. -/
theorem count_passed (now : Nat) (messageId : MessageId) :
    (heldIds (tracker.passed now)).count messageId =
      if (bucketDue tracker.buckets messageId).any fun due => decide (due ≤ now) then 1 else 0 := by
  have distinct := (List.nodup_append.mp (located.heldIds_split now)).1
  have reported : messageId ∈ heldIds (tracker.passed now) ↔
      ((bucketDue tracker.buckets messageId).any fun due => decide (due ≤ now)) = true := by
    rw [Option.any_eq_true]
    constructor
    · intro member
      obtain ⟨bucket, inPassed, inside⟩ := List.mem_flatMap.mp member
      refine ⟨bucket.deadline, ?_, decide_eq_true (passed_over inPassed)⟩
      rw [bucketDue_eq_some located.distinct]
      refine ⟨bucket, ?_, inside, rfl⟩
      rw [tracker.passed_append_left now]
      exact List.mem_append_left _ inPassed
    · rintro ⟨due, found, elapsed⟩
      obtain ⟨bucket, member, inside, rfl⟩ := holds_of_bucketDue found
      rw [tracker.passed_append_left now, List.mem_append] at member
      rcases member with inPassed | inLeft
      · exact List.mem_flatMap.mpr ⟨bucket, inPassed, inside⟩
      · have ahead := located.left_open inLeft
        have passed : bucket.deadline ≤ now := of_decide_eq_true elapsed
        omega
  rw [distinct.count]
  simp only [reported]

end

end Located

/-! ### A poll -/

theorem expired_perm (tracker : UnackedMessageTracker) (now : Nat) :
    ((reap tracker.handle now tracker.buckets tracker.locator).expired.flatMap
      RedeliverExpired.messageIds).Perm (heldIds (tracker.passed now)) := by
  rw [reap_expired, ← passed]
  induction tracker.passed now with
  | nil => simp [heldIds]
  | cons bucket _ ih =>
    rw [heldIds_cons]
    by_cases empty : bucket.ids = []
    · simpa [empty] using ih
    · have sorted : (bucket.ids.mergeSort MessageId.le).Perm bucket.ids :=
        List.mergeSort_perm _ _
      simpa [empty] using sorted.append ih

theorem returned_perm (enabled : tracker.isDisabled = false) (now : Nat) :
    (tracker.returned (.poll now)).Perm
      (heldIds (tracker.passed now) ++ tracker.backoffDue now) := by
  have expired := tracker.expired_perm now
  rw [returned, poll, enabled]
  simp only [Bool.false_eq_true, if_false]
  split
  case isTrue none =>
    rw [List.isEmpty_iff.mp none, List.append_nil]
    exact expired
  case isFalse =>
    rw [List.flatMap_append, List.flatMap_singleton]
    exact expired.append (List.mergeSort_perm _ _)

/-- A poll that drops buckets in front of ids that stay has ids to report. -/
def pollRelocates (tracker : UnackedMessageTracker) (now : Nat) : Bool :=
  (tracker.passed now).isEmpty || (tracker.passed now).any (fun bucket => !bucket.ids.isEmpty) ||
    (tracker.left now).all fun bucket => bucket.ids.isEmpty

/-- The locator and the buckets agree after such a poll. -/
theorem Located.indexes_poll (located : Located tracker)
    {now : Nat} (relocates : tracker.pollRelocates now = true) :
    let reaped := reap tracker.handle now tracker.buckets tracker.locator
    Indexes (tracker.left now)
      (if reaped.expired.isEmpty then reaped.locator else relocate 0 reaped.buckets ∅) := by
  intro reaped
  have buckets : reaped.buckets = tracker.left now := reap_buckets _ _ _ _
  have expired : reaped.expired.isEmpty = true ↔
      ∀ bucket ∈ tracker.passed now, bucket.ids = [] := by
    simp [reaped, reap_expired, passed]
  split
  case isFalse =>
    rw [buckets]
    exact relocate_indexes (List.nodup_append.mp (located.heldIds_split now)).2.1
  case isTrue silent =>
    have kept : reaped.locator = tracker.locator :=
      reap_locator _ _ _ _ (List.isEmpty_iff.mp silent)
    rw [expired] at silent
    rw [kept]
    have indexes := located.indexes
    rw [tracker.passed_append_left now] at indexes
    -- Nothing was reported, so either no bucket was dropped or no id is left in any.
    rcases Bool.or_eq_true_iff.mp relocates with dropped | empty
    · have none : tracker.passed now = [] := by
        rcases Bool.or_eq_true_iff.mp dropped with none | filled
        · exact List.isEmpty_iff.mp none
        · obtain ⟨bucket, member, filled⟩ := List.any_eq_true.mp filled
          simp [silent bucket member] at filled
      rwa [none, List.nil_append] at indexes
    · have nowhere (index : Nat) (bucket : Bucket) :
          (tracker.passed now ++ tracker.left now)[index]? = some bucket → bucket.ids = [] := by
        intro found
        rcases List.mem_append.mp (List.mem_of_getElem? found) with elapsed | opened
        · exact silent bucket elapsed
        · exact List.isEmpty_iff.mp (List.all_eq_true.mp empty bucket opened)
      intro messageId index
      rw [indexes messageId index]
      constructor
      · rintro ⟨bucket, found, inside⟩
        rw [nowhere index bucket found] at inside
        cases inside
      · rintro ⟨bucket, found, inside⟩
        have opened := List.all_eq_true.mp empty bucket (List.mem_of_getElem? found)
        rw [List.isEmpty_iff.mp opened] at inside
        cases inside

theorem Located.poll (located : Located tracker) (enabled : tracker.isDisabled = false) {now : Nat}
    (relocates : tracker.pollRelocates now = true) :
    Located (tracker.poll now).1 ∧
      (tracker.poll now).1.deadlines = Deadlines.step tracker.deadlines (.expire now) := by
  have indexes := located.indexes_poll relocates
  have polled : (tracker.poll now).1 = { tracker with
      buckets := tracker.left now
      locator :=
        let reaped := reap tracker.handle now tracker.buckets tracker.locator
        if reaped.expired.isEmpty then reaped.locator else relocate 0 reaped.buckets ∅
      backoffPending :=
        (tracker.backoffDue now).foldl (fun kept id => kept.erase id) tracker.backoffPending } := by
    rw [UnackedMessageTracker.poll, enabled, left, ← reap_buckets tracker.handle now _ tracker.locator]
    rfl
  have kept := (List.nodup_append.mp (located.heldIds_split now)).2.1
  rw [polled]
  refine ⟨⟨indexes, kept, ?_, ?_⟩, ?_⟩
  · intro messageId pending inside
    have before : messageId ∈ tracker.backoffPending := by
      rw [← AList.lookup_isSome] at pending ⊢
      rw [backoffDue, lookup_erase_dueIn] at pending
      cases found : tracker.backoffPending.lookup messageId with
      | none => simp [found] at pending
      | some => rfl
    apply located.apart messageId before
    rw [tracker.passed_append_left now, heldIds_append]
    exact List.mem_append_right _ inside
  · have ascending := located.ascending
    rw [tracker.passed_append_left now, List.pairwise_append] at ascending
    exact ascending.2.1
  · funext messageId
    rw [step_expire, deadlines, deadlines, located.bucketDue_left,
      backoffDue, lookup_erase_dueIn]
    cases held : bucketDue tracker.buckets messageId with
    | none => simp
    | some =>
      rw [located.unpending_of_bucketDue held, Option.or_none, Option.filter_none, Option.or_none]

/-- A poll returns an id once, if its deadline is over, and not at all before. -/
theorem Located.count_returned (located : Located tracker)
    (enabled : tracker.isDisabled = false) (now : Nat) (messageId : MessageId) :
    (tracker.returned (.poll now)).count messageId =
      reported messageId tracker.deadlines (.expire now) := by
  rw [(returned_perm enabled now).count_eq, List.count_append, located.count_passed,
    backoffDue, count_dueIn, reported, deadlines]
  cases held : bucketDue tracker.buckets messageId with
  | none => rw [Option.none_or, Option.any_none, if_neg Bool.false_ne_true, Nat.zero_add]
  | some => simp [located.unpending_of_bucketDue held]

/-! ### Absent ids -/

/-- The tracker holds the id nowhere, whatever its locator says. -/
structure Lacks (tracker : UnackedMessageTracker) (messageId : MessageId) : Prop where
  unbucketed : messageId ∉ heldIds tracker.buckets
  unpending : messageId ∉ tracker.backoffPending

namespace Lacks

variable {tracker : UnackedMessageTracker} {messageId : MessageId}

theorem of_deadlines (free : tracker.deadlines messageId = none) : Lacks tracker messageId := by
  rw [deadlines, Option.or_eq_none_iff] at free
  exact ⟨bucketDue_eq_none.mp free.1, AList.lookup_eq_none.mp free.2⟩

section

variable (lacks : Lacks tracker messageId)

include lacks

theorem add {added : MessageId} (differs : messageId ≠ added)
    (now : Nat) : Lacks (tracker.add added now) messageId := by
  by_cases ignored : (tracker.isDisabled || tracker.isTracked added) = true
  · rwa [UnackedMessageTracker.add, if_pos ignored]
  · have free := Bool.or_eq_false_iff.mp (Bool.not_eq_true _ ▸ ignored)
    obtain ⟨earlier, ids, same, place⟩ := @add_eq tracker added now free.1 free.2
    have before : messageId ∉ heldIds earlier ∧ messageId ∉ ids := by
      have unbucketed := lacks.unbucketed
      rcases place with joined | ⟨rfl, rfl, _⟩
      · rw [joined, heldIds_append, heldIds_cons] at unbucketed
        simp only [List.mem_append, not_or] at unbucketed
        exact ⟨unbucketed.1, unbucketed.2.1⟩
      · exact ⟨unbucketed, List.not_mem_nil⟩
    rw [same]
    refine ⟨?_, lacks.unpending⟩
    have absent : messageId ∉ ids.insert added :=
      fun inside => (List.mem_insert_iff.mp inside).elim differs before.2
    rw [heldIds_append, heldIds_cons, List.mem_append, List.mem_append, not_or, not_or]
    exact ⟨before.1, absent, List.not_mem_nil⟩

theorem addWithRedeliveryCount {added : MessageId}
    (differs : messageId ≠ added) (redeliveryCount now : Nat) :
    Lacks (tracker.addWithRedeliveryCount added redeliveryCount now) messageId := by
  rw [UnackedMessageTracker.addWithRedeliveryCount]
  split
  · exact lacks
  · split
    · exact lacks.add differs now
    · split
      · exact lacks
      · refine ⟨lacks.unbucketed, ?_⟩
        rw [AList.mem_insert]
        exact fun either => either.elim differs lacks.unpending

theorem remove (removed : MessageId) : Lacks (tracker.remove removed) messageId := by
  refine ⟨fun inside => lacks.unbucketed ?_, fun pending => lacks.unpending ?_⟩
  · rw [UnackedMessageTracker.remove] at inside
    split at inside
    · exact (heldIds_modify (without removed) (fun _ => List.erase_sublist) _ _).subset
        inside
    · exact inside
  · exact (AList.mem_erase.mp pending).2

theorem poll (now : Nat) : Lacks (tracker.poll now).1 messageId := by
  rw [UnackedMessageTracker.poll]
  split
  · exact lacks
  · refine ⟨fun inside => lacks.unbucketed ?_, ?_⟩
    · dsimp only at inside
      rw [reap_buckets] at inside
      rw [tracker.passed_append_left now, heldIds_append]
      exact List.mem_append_right _ inside
    · dsimp only
      rw [← AList.lookup_eq_none, backoffDue, lookup_erase_dueIn,
        AList.lookup_eq_none.mpr lacks.unpending]
      rfl

theorem not_returned (now : Nat) : messageId ∉ tracker.returned (.poll now) := by
  cases disabled : tracker.isDisabled with
  | true => simp [returned, UnackedMessageTracker.poll, disabled]
  | false =>
    rw [(returned_perm disabled now).mem_iff, List.mem_append, not_or]
    constructor
    · intro inside
      apply lacks.unbucketed
      rw [tracker.passed_append_left now, heldIds_append]
      exact List.mem_append_left _ inside
    · rw [backoffDue, mem_dueIn, AList.lookup_eq_none.mpr lacks.unpending]
      simp

end

end Lacks

end UnackedMessageTracker

end Magnetar.Proto.Trackers.Unacked
