import Magnetar.Proto.Trackers.Expiry

/-!
Contract: how early the acknowledgement-timeout tracker returns an id.

Owns: the window that an id joins when it is added, runs of adds and polls alone, in which no bucket
is ever empty, and the bound that follows: no id is returned before the window it joined is over.

Does not own: ids with a deadline of their own, which the redelivery backoff sets.
-/

namespace Magnetar.Proto.Trackers.Unacked

open Library Library.Machine Pb

variable {ops : List TrackerOp} {tracker : UnackedMessageTracker}

def TrackerOp.time? : TrackerOp → Option Nat
  | .add _ now => some now
  | .addWithRedeliveryCount _ _ now => some now
  | .remove _ => none
  | .poll now => some now

def TrackerOp.isRemove : TrackerOp → Bool
  | .remove _ => true
  | _ => false

variable {opened : Option Nat} {op : TrackerOp}

namespace UnackedMessageTracker

/-! ### The window an id joins -/

variable (tracker)

theorem reap_suffix (now : Nat) : (tracker.poll now).1.buckets <:+ tracker.buckets := by
  rw [poll]
  split
  · exact List.suffix_rfl
  · show (reap _ now tracker.buckets _).buckets <:+ _
    rw [reap_buckets]
    exact List.dropWhile_suffix _

/-- A call opens a bucket behind the others, or it opens none and may drop the oldest ones. -/
theorem step_deadlines (op : TrackerOp) :
    (∃ now, op.time? = some now ∧
      (tracker.step op).buckets.map Bucket.deadline =
        tracker.buckets.map Bucket.deadline ++ [deadlineWithClamp now tracker.ackTimeout]) ∨
    (tracker.step op).buckets.map Bucket.deadline <:+ tracker.buckets.map Bucket.deadline := by
  have adding (messageId : MessageId) (now : Nat) :
      (tracker.add messageId now).buckets.map Bucket.deadline =
          tracker.buckets.map Bucket.deadline ++ [deadlineWithClamp now tracker.ackTimeout] ∨
        (tracker.add messageId now).buckets.map Bucket.deadline =
          tracker.buckets.map Bucket.deadline := by
    by_cases ignored : (tracker.isDisabled || tracker.isTracked messageId) = true
    · exact .inr (by rw [add, if_pos ignored])
    · have free := Bool.or_eq_false_iff.mp (Bool.not_eq_true _ ▸ ignored)
      obtain ⟨earlier, ids, added, joined | ⟨rfl, _, due, _⟩⟩ :=
        @add_eq tracker messageId now free.1 free.2
      · exact .inr (by rw [added, joined]; simp)
      · exact .inl (by rw [added]; simp [due])
  cases op with
  | add messageId now =>
    rcases adding messageId now with opened | same
    · exact .inl ⟨now, rfl, opened⟩
    · exact .inr (same ▸ List.suffix_rfl)
  | addWithRedeliveryCount messageId _ now =>
    show (∃ _, _ ∧ (tracker.addWithRedeliveryCount _ _ _).buckets.map _ = _) ∨
      (tracker.addWithRedeliveryCount _ _ _).buckets.map _ <:+ _
    rw [addWithRedeliveryCount]
    split
    · exact .inr List.suffix_rfl
    · split
      · rcases adding messageId now with opened | same
        · exact .inl ⟨now, rfl, opened⟩
        · exact .inr (same ▸ List.suffix_rfl)
      · split <;> exact .inr List.suffix_rfl
  | remove messageId =>
    right
    show (tracker.remove messageId).buckets.map _ <:+ _
    rw [remove]
    split
    · rw [deadlines_modify (Bucket.without messageId) fun _ => rfl]
    · exact List.suffix_rfl
  | poll now => exact .inr ((tracker.reap_suffix now).map _)

/-- The time of the call that opened the newest bucket. -/
def newestOpened (tracker : UnackedMessageTracker) (opened : Option Nat) :
    List TrackerOp → Option Nat
  | [] => opened
  | op :: rest =>
    newestOpened (tracker.step op)
      (if tracker.buckets.length < (tracker.step op).buckets.length then op.time? else opened) rest

/-- The start of the window that an id added at `now`, after the calls, joins: the newest one while
it is open, else a new one. -/
def windowStart (tracker : UnackedMessageTracker) (ops : List TrackerOp) (now : Nat) : Nat :=
  if ((run step tracker ops).buckets.getLast?).any fun last => decide (now < last.deadline) then
    (tracker.newestOpened none ops).getD now
  else now

/-- The newest bucket is over a timeout after the time it was opened. -/
def Windowed (opened : Option Nat) : Prop :=
  ∀ due ∈ (tracker.buckets.map Bucket.deadline).getLast?,
    ∃ start ∈ opened, due = deadlineWithClamp start tracker.ackTimeout

variable {tracker}

theorem Windowed.step (windowed : Windowed tracker opened) (op : TrackerOp) :
    Windowed (tracker.step op)
      (if tracker.buckets.length < (tracker.step op).buckets.length then op.time? else opened) := by
  rw [Windowed, step_ackTimeout]
  rcases tracker.step_deadlines op with ⟨now, time, deadlines⟩ | kept
  · have longer := congrArg List.length deadlines
    rw [List.length_append, List.length_map, List.length_map, List.length_singleton] at longer
    have grows : tracker.buckets.length < (tracker.step op).buckets.length := by omega
    rw [if_pos grows, time, deadlines, List.getLast?_concat]
    intro due last
    exact ⟨now, rfl, (Option.some.inj last).symm⟩
  · have shorter := kept.length_le
    rw [List.length_map, List.length_map] at shorter
    rw [if_neg (by omega)]
    intro due last
    apply windowed due
    obtain ⟨dropped, split⟩ := kept
    rw [← split, List.getLast?_append, Option.mem_def.mp last]
    rfl

theorem Windowed.run (windowed : Windowed tracker opened) (ops : List TrackerOp) :
    Windowed (run UnackedMessageTracker.step tracker ops) (tracker.newestOpened opened ops) := by
  induction ops generalizing tracker opened with
  | nil => exact windowed
  | cons op _ ih => exact ih (windowed.step op)

theorem newestOpened_mem {start : Nat} (found : start ∈ tracker.newestOpened opened ops) :
    start ∈ opened ∨ start ∈ ops.filterMap TrackerOp.time? := by
  induction ops generalizing tracker opened with
  | nil => exact .inl found
  | cons _ _ ih =>
    rw [List.filterMap_cons]
    rcases ih found with now | later
    · split at now
      · rw [Option.mem_def.mp now]
        exact .inr List.mem_cons_self
      · exact .inl now
    · right
      split
      · exact later
      · exact List.mem_cons_of_mem _ later

section WindowStart

variable {handle ackTimeout : Nat} {backoff : Option (Nat → Nat)} {ops : List TrackerOp} {now : Nat}

theorem joinedDue_eq_windowStart :
    (run step (new handle ackTimeout backoff) ops).joinedDue now =
      deadlineWithClamp ((new handle ackTimeout backoff).windowStart ops now) ackTimeout := by
  have windowed : Windowed (new handle ackTimeout backoff) none := by simp [Windowed, new]
  have newest := windowed.run ops
  have timeout : (run step (new handle ackTimeout backoff) ops).ackTimeout = ackTimeout :=
    run_ackTimeout _ ops
  rw [Windowed, timeout] at newest
  rw [joinedDue, windowStart, timeout]
  cases found : (run step (new handle ackTimeout backoff) ops).buckets.getLast? with
  | none => rfl
  | some last =>
    by_cases opened : now < last.deadline
    · obtain ⟨start, started, due⟩ := newest last.deadline (by simp [found])
      rw [Option.any_some, decide_eq_true opened, if_pos rfl, Option.mem_def.mp started]
      exact (if_pos opened).trans due
    · rw [Option.any_some, decide_eq_false opened, if_neg Bool.false_ne_true]
      exact if_neg opened

theorem windowStart_le (times : ∀ time ∈ ops.filterMap TrackerOp.time?, time ≤ now) :
    (new handle ackTimeout backoff).windowStart ops now ≤ now := by
  rw [windowStart]
  split
  · cases found : (new handle ackTimeout backoff).newestOpened none ops with
    | none => exact Nat.le_refl now
    | some start =>
      rcases newestOpened_mem found with absent | member
      · cases absent
      · exact times start member
  · exact Nat.le_refl now

end WindowStart

/-! ### Runs without removals -/

def Filled (tracker : UnackedMessageTracker) : Prop :=
  ∀ bucket ∈ tracker.buckets, bucket.ids ≠ []

section

variable (filled : Filled tracker)

include filled

theorem Filled.add (messageId : MessageId) (now : Nat) : Filled (tracker.add messageId now) := by
  by_cases ignored : (tracker.isDisabled || tracker.isTracked messageId) = true
  · rwa [UnackedMessageTracker.add, if_pos ignored]
  · have free := Bool.or_eq_false_iff.mp (Bool.not_eq_true _ ▸ ignored)
    obtain ⟨earlier, ids, added, place⟩ := @add_eq tracker messageId now free.1 free.2
    have older : ∀ bucket ∈ earlier, bucket.ids ≠ [] := by
      intro bucket member
      apply filled bucket
      rcases place with joined | ⟨same, _⟩
      · rw [joined]
        exact List.mem_append_left _ member
      · rwa [same]
    rw [added]
    intro bucket member
    rcases List.mem_append.mp member with old | newest
    · exact older bucket old
    · rw [List.mem_singleton.mp newest]
      exact List.ne_nil_of_mem List.mem_insert_self

theorem Filled.step (kept : op.isRemove = false) : Filled (tracker.step op) := by
  cases op with
  | add => exact filled.add _ _
  | addWithRedeliveryCount messageId redeliveryCount now =>
    show Filled (tracker.addWithRedeliveryCount messageId redeliveryCount now)
    rw [addWithRedeliveryCount]
    split
    · exact filled
    · split
      · exact filled.add messageId now
      · split <;> exact filled
  | remove => cases kept
  | poll now => exact fun bucket member => filled bucket ((tracker.reap_suffix now).subset member)

theorem Filled.run (kept : ∀ op ∈ ops, op.isRemove = false) :
    Filled (run UnackedMessageTracker.step tracker ops) := by
  induction ops generalizing tracker with
  | nil => exact filled
  | cons op _ ih =>
    apply ih (filled.step (kept op List.mem_cons_self))
    exact fun other member => kept other (List.mem_cons_of_mem _ member)

theorem Filled.relocates (op : TrackerOp) : tracker.relocates op = true := by
  cases op with
  | add | addWithRedeliveryCount | remove => rfl
  | poll now =>
    show tracker.pollRelocates now = true
    cases dropped : tracker.passed now with
    | nil => simp [pollRelocates, dropped]
    | cons bucket =>
      have nonempty : bucket.ids ≠ [] := by
        apply filled bucket
        rw [tracker.passed_append_left now, dropped]
        exact List.mem_cons_self
      simp [pollRelocates, dropped, nonempty]

theorem Filled.relocating (kept : ∀ op ∈ ops, op.isRemove = false) : tracker.Relocating ops := by
  induction ops generalizing tracker with
  | nil => trivial
  | cons op _ ih =>
    refine ⟨filled.relocates op, ?_⟩
    apply ih (filled.step (kept op List.mem_cons_self))
    exact fun other member => kept other (List.mem_cons_of_mem _ member)

end

theorem mem_eventsIn {event : Deadlines.Event MessageId} (member : event ∈ tracker.eventsIn ops) :
    ∃ op ∈ ops, ∃ reached : UnackedMessageTracker, event ∈ reached.events op := by
  induction ops generalizing tracker with
  | nil => cases member
  | cons op _ ih =>
    rcases List.mem_append.mp member with now | later
    · exact ⟨op, List.mem_cons_self, tracker, now⟩
    · obtain ⟨other, inside, found⟩ := ih later
      exact ⟨other, List.mem_cons_of_mem _ inside, found⟩

theorem isRemove_of_forget
    {messageId : MessageId} (member : .forget messageId ∈ tracker.events op) :
    op.isRemove = true := by
  cases op with
  | add | poll => rw [events] at member; split at member <;> simp at member
  | addWithRedeliveryCount =>
    rw [events] at member
    split at member
    · cases member
    · split at member <;> simp at member
  | remove => rfl

theorem time_of_expire
    {now : Nat} (member : .expire now ∈ tracker.events op) : op.time? = some now := by
  cases op with
  | add => rw [events] at member; split at member <;> simp at member
  | addWithRedeliveryCount =>
    rw [events] at member
    split at member
    · cases member
    · split at member <;> simp at member
  | remove => simp [events] at member
  | poll =>
    rw [events] at member
    split at member
    · cases member
    · simp at member
      rw [member]
      rfl

/-- An id that falls due later than every call of a run without removals is not returned by it. -/
theorem not_returned_of_waiting (located : Located tracker)
    (filled : Filled tracker) {messageId : MessageId} {due now : Nat}
    (tracked : tracker.deadlines messageId = some due) (kept : ∀ op ∈ ops, op.isRemove = false)
    (times : ∀ time ∈ ops.filterMap TrackerOp.time?, time ≤ now) (early : now < due) :
    messageId ∉ (run step tracker ops).returned (.poll now) := by
  obtain ⟨reached, deadlines⟩ := run_simulates located (filled.relocating kept)
  have waiting : (run step tracker ops).deadlines messageId = some due := by
    rw [deadlines]
    apply Deadlines.run_of_waiting tracked
    · rintro event member rfl
      obtain ⟨op, inside, _, found⟩ := mem_eventsIn member
      exact Bool.false_ne_true ((kept op inside).symm.trans (isRemove_of_forget found))
    · rintro event member time rfl
      obtain ⟨op, inside, _, found⟩ := mem_eventsIn member
      have bounded := times time (List.mem_filterMap.mpr ⟨op, inside, time_of_expire found⟩)
      omega
  apply List.count_eq_zero.mp
  rw [count_returned reached, events]
  split
  · rfl
  · simp [tally, Deadlines.reported, waiting, early]

/-- In every run of adds and polls at times that do not go back, an id that is not tracked when it is
added at `time` without a redelivery backoff joins a window that started no later, and it is not
returned before that window, of the length of the timeout, is over. -/
theorem not_returned_in_window (handle ackTimeout : Nat) (backoff : Option (Nat → Nat))
    (earlier later : List TrackerOp) (op : TrackerOp) (messageId : MessageId) (time now : Nat)
    (plain : op = .add messageId time ∨
      backoff = none ∧ ∃ redeliveryCount,
        op = .addWithRedeliveryCount messageId redeliveryCount time)
    (kept : ∀ call ∈ earlier ++ op :: later, call.isRemove = false)
    (ordered : ((earlier ++ op :: (later ++ [.poll now])).filterMap TrackerOp.time?).Pairwise
      (· ≤ ·))
    (free : (run step (new handle ackTimeout backoff) earlier).isTracked messageId = false) :
    (new handle ackTimeout backoff).windowStart earlier time ≤ time ∧
      (now < deadlineWithClamp ((new handle ackTimeout backoff).windowStart earlier time)
          ackTimeout →
        messageId ∉
          (run step (new handle ackTimeout backoff) (earlier ++ op :: later)).returned
            (.poll now)) := by
  have timed : op.time? = some time := by
    rcases plain with rfl | ⟨_, _, rfl⟩ <;> rfl
  rw [List.filterMap_append, List.filterMap_cons_some timed, List.filterMap_append,
    List.pairwise_append, List.pairwise_cons, List.pairwise_append] at ordered
  obtain ⟨_, ⟨_, _, _, laterTimes⟩, earlierTimes⟩ := ordered
  have started : (new handle ackTimeout backoff).windowStart earlier time ≤ time :=
    windowStart_le fun before member => earlierTimes before member time List.mem_cons_self
  refine ⟨started, fun early => ?_⟩
  rw [List.forall_mem_append, List.forall_mem_cons] at kept
  obtain ⟨earlierKept, opKept, laterKept⟩ := kept
  have emptyFilled : Filled (new handle ackTimeout backoff) := by simp [Filled, new]
  rw [run_append, run_cons]
  generalize reached : run step (new handle ackTimeout backoff) earlier = tracker at free
  have filled : Filled tracker := reached ▸ emptyFilled.run earlierKept
  have located : Located tracker := reached ▸
    (run_simulates (located_new handle ackTimeout backoff) (emptyFilled.relocating earlierKept)).1
  have joined : tracker.joinedDue time = deadlineWithClamp
      ((new handle ackTimeout backoff).windowStart earlier time) ackTimeout :=
    reached ▸ joinedDue_eq_windowStart
  have configured : tracker.config = (ackTimeout, backoff) :=
    reached ▸ run_config (new handle ackTimeout backoff) earlier
  cases disabled : tracker.isDisabled with
  | true =>
    have still : (run step (tracker.step op) later).isDisabled = true := by
      rw [run_isDisabled, isDisabled, step_ackTimeout]
      exact disabled
    simp [returned, poll, still]
  | false =>
    have added : tracker.step op = tracker.add messageId time := by
      rcases plain with rfl | ⟨rfl, redeliveryCount, rfl⟩
      · rfl
      · have without : tracker.backoff = none := congrArg Prod.snd configured
        show tracker.addWithRedeliveryCount messageId redeliveryCount time = _
        rw [addWithRedeliveryCount, disabled, without]
        rfl
    obtain ⟨nextLocated, nextDeadlines⟩ := located.add disabled messageId time
    rw [← joined] at early
    have untracked := located.deadlines_of_free free
    have tracked : (tracker.step op).deadlines messageId = some (tracker.joinedDue time) := by
      rw [added, nextDeadlines, Deadlines.step_track, if_pos rfl, untracked, Option.none_or]
    refine not_returned_of_waiting (added ▸ nextLocated) (filled.step opKept) tracked laterKept
      ?_ early
    exact fun before member => laterTimes before member now (by simp [TrackerOp.time?])

/-- The second id of a window is not returned while the window, which the first one opened, lasts. -/
theorem not_returned_in_window_run :
    (new 7 10 none).windowStart [.add ⟨1, 1, -1, -1, 0⟩ 0] 9 = 0 ∧
      (⟨1, 2, -1, -1, 0⟩ : MessageId) ∉
        (run step (new 7 10 none) [.add ⟨1, 1, -1, -1, 0⟩ 0, .add ⟨1, 2, -1, -1, 0⟩ 9]).returned
          (.poll 9) :=
  ⟨by decide +kernel,
    (not_returned_in_window 7 10 none [.add ⟨1, 1, -1, -1, 0⟩ 0] [] (.add ⟨1, 2, -1, -1, 0⟩ 9)
      ⟨1, 2, -1, -1, 0⟩ 9 9 (.inl rfl) (by decide +kernel) (by decide +kernel)
      (by decide +kernel)).2 (by decide +kernel)⟩

/-- An id added one unit before the window of another is over is returned one unit later. -/
theorem returned_before_own_timeout :
    (10 : Nat) < 9 + 10 ∧
      (⟨1, 2, -1, -1, 0⟩ : MessageId) ∈
        (run step (new 7 10 none) [.add ⟨1, 1, -1, -1, 0⟩ 0, .add ⟨1, 2, -1, -1, 0⟩ 9]).returned
          (.poll 10) := by
  refine ⟨by decide, ?_⟩
  rw [(returned_perm rfl 10).mem_iff]
  decide +kernel

end UnackedMessageTracker

end Magnetar.Proto.Trackers.Unacked
