import Mathlib.Data.Finset.Card
import Magnetar.Proto.Trackers.Located

/-!
Contract: what the acknowledgement-timeout tracker amounts to over time.

Owns: the ids a run of calls returns, the calls that start and end the tracking of an id, the
simulation of a table of deadlines by every run, and what follows for every run: an id is returned
once for each time its tracking starts and never after it was removed.

Does not own: how early an id is returned (`Trackers.Windows`), or who makes the calls.
-/

namespace Magnetar.Proto.Trackers.Unacked

open Library Library.Machine Pb

variable {tracker : UnackedMessageTracker} {messageId : MessageId} {outstanding : Finset MessageId}

namespace UnackedMessageTracker

/-! ### Runs as histories of deadlines -/

variable (tracker messageId)

/-- A poll that drops buckets renumbers those that stay. -/
def relocates : TrackerOp → Bool
  | .poll now => tracker.pollRelocates now
  | _ => true

/-- In every state, the next call of the run is one that keeps the locator. -/
abbrev Relocating (ops : List TrackerOp) : Prop :=
  Guarded step (fun tracker op => tracker.relocates op = true) tracker ops

def returnedIn (tracker : UnackedMessageTracker) : List TrackerOp → List MessageId
  | [] => []
  | op :: rest => tracker.returned op ++ returnedIn (tracker.step op) rest

def eventsIn (tracker : UnackedMessageTracker) : List TrackerOp → List (Deadlines.Event MessageId)
  | [] => []
  | op :: rest => tracker.events op ++ eventsIn (tracker.step op) rest

/-- Whether a call starts the tracking of an id: an id that is tracked is not tracked anew. -/
def starts (tracker : UnackedMessageTracker) (op : TrackerOp) : Nat :=
  if op.added? = some messageId ∧ tracker.isDisabled = false ∧ tracker.isTracked messageId = false
  then 1 else 0

/-- Whether a call ends the tracking of an id without returning it. -/
def removes (tracker : UnackedMessageTracker) (op : TrackerOp) : Nat :=
  if op = .remove messageId ∧ tracker.isTracked messageId = true then 1 else 0

variable {tracker messageId}

/-- The ids that a call leaves added and not yet removed or returned. -/
def settle (outstanding : Finset MessageId) (tracker : UnackedMessageTracker) :
    TrackerOp → Finset MessageId
  | .add messageId _ =>
    if tracker.isDisabled then outstanding else insert messageId outstanding
  | .addWithRedeliveryCount messageId _ _ =>
    if tracker.isDisabled then outstanding else insert messageId outstanding
  | .remove messageId => outstanding.erase messageId
  | .poll now => outstanding \ (tracker.returned (.poll now)).toFinset

/-- The ids that a run leaves added and not yet removed or returned. -/
def settleIn (outstanding : Finset MessageId) (tracker : UnackedMessageTracker) :
    List TrackerOp → Finset MessageId
  | [] => outstanding
  | op :: rest => settleIn (settle outstanding tracker op) (tracker.step op) rest

section Step

variable {tracker : UnackedMessageTracker}

section

variable (located : Located tracker)

include located

/-- Every call is what its events are to the table of deadlines. -/
theorem step_simulates {op : TrackerOp} (relocates : tracker.relocates op = true) :
    Located (tracker.step op) ∧
      (tracker.step op).deadlines = run Deadlines.step tracker.deadlines (tracker.events op) := by
  cases disabled : tracker.isDisabled with
  | true =>
    cases op with
    | add => simpa [step, add, events, disabled] using located
    | addWithRedeliveryCount =>
      simpa [step, addWithRedeliveryCount, events, disabled] using located
    | remove messageId => exact located.remove messageId
    | poll => simpa [step, poll, events, disabled] using located
  | false =>
    cases op with
    | add messageId now => simpa [step, events, disabled] using located.add disabled messageId now
    | addWithRedeliveryCount => exact located.addWithRedeliveryCount disabled _ _ _
    | remove messageId => exact located.remove messageId
    | poll => simpa [step, events, disabled] using located.poll disabled relocates

theorem count_returned (messageId : MessageId) (op : TrackerOp) :
    (tracker.returned op).count messageId =
      tally Deadlines.step (Deadlines.reported messageId) tracker.deadlines
        (tracker.events op) := by
  cases op with
  | add =>
    show 0 = _
    rw [events]
    split <;> rfl
  | addWithRedeliveryCount =>
    show 0 = _
    rw [events]
    split
    · rfl
    · split <;> rfl
  | remove => rfl
  | poll =>
    cases disabled : tracker.isDisabled with
    | true => simp [returned, poll, events, disabled, tally]
    | false =>
      rw [located.count_returned disabled, events, disabled, if_neg Bool.false_ne_true]
      rfl

theorem starts_eq (messageId : MessageId) (op : TrackerOp) :
    starts messageId tracker op =
      tally Deadlines.step (Deadlines.started messageId) tracker.deadlines
        (tracker.events op) := by
  have free : tracker.isTracked messageId = false ↔ tracker.deadlines messageId = none := by
    rw [← Bool.not_eq_true, located.isTracked_iff, not_not]
  cases op with
  | add =>
    cases disabled : tracker.isDisabled <;>
      simp [starts, events, TrackerOp.added?, disabled, tally, Deadlines.started, free]
  | addWithRedeliveryCount =>
    cases disabled : tracker.isDisabled <;> cases backoff : tracker.backoff <;>
      simp [starts, events, TrackerOp.added?, disabled, backoff, tally, Deadlines.started, free]
  | remove => rfl
  | poll =>
    rw [events]
    split <;> rfl

theorem removes_eq (messageId : MessageId) (op : TrackerOp) :
    removes messageId tracker op =
      tally Deadlines.step (Deadlines.dropped messageId) tracker.deadlines
        (tracker.events op) := by
  cases op with
  | add | poll =>
    rw [events]
    split <;> rfl
  | addWithRedeliveryCount =>
    rw [events]
    split
    · rfl
    · split <;> rfl
  | remove removed =>
    by_cases same : removed = messageId
    · subst same
      simp [removes, events, tally, Deadlines.dropped, Deadlines.held, located.isTracked_iff,
        Option.isSome_iff_ne_none]
    · simp [removes, events, tally, Deadlines.dropped, same]

theorem mem_settle {op : TrackerOp} (relocates : tracker.relocates op = true)
    (same : messageId ∈ outstanding ↔ tracker.isTracked messageId = true) :
    messageId ∈ settle outstanding tracker op ↔ (tracker.step op).isTracked messageId = true := by
  obtain ⟨nextLocated, nextDeadlines⟩ := step_simulates located relocates
  rw [located.isTracked_iff] at same
  rw [nextLocated.isTracked_iff, nextDeadlines]
  cases op with
  | add =>
    cases disabled : tracker.isDisabled with
    | true => simpa [settle, events, disabled] using same
    | false => simp [settle, events, disabled, Deadlines.track_ne_none, same]
  | addWithRedeliveryCount =>
    cases disabled : tracker.isDisabled with
    | true => simpa [settle, events, disabled] using same
    | false =>
      cases backoff : tracker.backoff <;>
        simp [settle, events, disabled, backoff, Deadlines.track_ne_none, same]
  | remove =>
    simp [settle, events, Deadlines.forget_ne_none, same]
  | poll now =>
    have unreturned : messageId ∉ tracker.returned (.poll now) ↔
        (tracker.returned (.poll now)).count messageId = 0 := List.count_eq_zero.symm
    rw [count_returned located] at unreturned
    rw [settle, Finset.mem_sdiff, List.mem_toFinset, unreturned, same]
    cases disabled : tracker.isDisabled with
    | true => simp [events, disabled, tally]
    | false => simp [events, disabled, tally, Deadlines.expire_ne_none]

end

end Step

/-! ### Runs -/

theorem located_new (handle ackTimeout : Nat) (backoff : Option (Nat → Nat)) :
    Located (new handle ackTimeout backoff) where
  indexes := by
    intro messageId index
    simp [new]
  distinct := List.nodup_nil
  apart := by
    intro messageId pending
    simp [new, heldIds]
  ascending := List.Pairwise.nil

theorem run_simulates (located : Located tracker)
    {ops : List TrackerOp} (relocating : tracker.Relocating ops) :
    Located (run step tracker ops) ∧
      (run step tracker ops).deadlines =
        run Deadlines.step tracker.deadlines (tracker.eventsIn ops) := by
  induction ops generalizing tracker with
  | nil => exact ⟨located, rfl⟩
  | cons _ _ ih =>
    obtain ⟨nextLocated, nextDeadlines⟩ := step_simulates located relocating.1
    obtain ⟨lastLocated, lastDeadlines⟩ := ih nextLocated relocating.2
    refine ⟨lastLocated, ?_⟩
    rw [run_cons, lastDeadlines, nextDeadlines, eventsIn, run_append]

/-- What a call is worth in events, a run is worth in events. -/
theorem tally_eventsIn {measure : UnackedMessageTracker → TrackerOp → Nat}
    {worth : Deadlines MessageId → Deadlines.Event MessageId → Nat}
    (same : ∀ tracker op, Located tracker →
      measure tracker op = tally Deadlines.step worth tracker.deadlines (tracker.events op))
    (located : Located tracker) {ops : List TrackerOp} (relocating : tracker.Relocating ops) :
    tally step measure tracker ops =
      tally Deadlines.step worth tracker.deadlines (tracker.eventsIn ops) := by
  induction ops generalizing tracker with
  | nil => rfl
  | cons op _ ih =>
    obtain ⟨nextLocated, nextDeadlines⟩ := step_simulates located relocating.1
    rw [tally, eventsIn, tally_append, same tracker op located,
      ih nextLocated relocating.2, nextDeadlines]

theorem count_returnedIn (messageId : MessageId) (ops : List TrackerOp) :
    (tracker.returnedIn ops).count messageId =
      tally step (fun tracker op => (tracker.returned op).count messageId) tracker ops := by
  induction ops generalizing tracker with
  | nil => rfl
  | cons _ _ ih =>
    rw [returnedIn, List.count_append, ih, tally]

section Run

variable {tracker : UnackedMessageTracker} {ops : List TrackerOp}

section

variable (located : Located tracker)

include located

theorem held_eq (messageId : MessageId) :
    Deadlines.held tracker.deadlines messageId = if tracker.isTracked messageId then 1 else 0 := by
  have same : (tracker.deadlines messageId).isSome = tracker.isTracked messageId := by
    rw [Bool.eq_iff_iff, located.isTracked_iff, Option.isSome_iff_ne_none]
  rw [Deadlines.held, same]

/-- Every start of tracking ends in a return or a removal, or the id is tracked still. -/
theorem run_account (relocating : tracker.Relocating ops) (messageId : MessageId) :
    (if tracker.isTracked messageId then 1 else 0) + tally step (starts messageId) tracker ops =
      (tracker.returnedIn ops).count messageId + tally step (removes messageId) tracker ops +
        if (run step tracker ops).isTracked messageId then 1 else 0 := by
  have last := run_simulates located relocating
  rw [← held_eq located, ← held_eq last.1, last.2, count_returnedIn,
    tally_eventsIn (fun _ op located => starts_eq located messageId op) located relocating,
    tally_eventsIn (fun _ op located => removes_eq located messageId op) located relocating,
    tally_eventsIn (fun _ op located => count_returned located messageId op) located relocating]
  exact Deadlines.balance messageId _ _

/-- An id that is not tracked is not returned before it is added again. -/
theorem not_returned_of_untracked (relocating : tracker.Relocating ops)
    (free : tracker.isTracked messageId = false)
    (unadded : ∀ op ∈ ops, op.added? ≠ some messageId) :
    messageId ∉ tracker.returnedIn ops := by
  have account := run_account located relocating messageId
  have silent : tally step (starts messageId) tracker ops = 0 := by
    apply tally_eq_zero
    intro state op member
    exact if_neg fun started => unadded op member started.1
  rw [free, silent] at account
  apply List.count_eq_zero.mp
  simp only [Bool.false_eq_true, if_false] at account
  omega

theorem isTracked_remove (messageId : MessageId) :
    (tracker.remove messageId).isTracked messageId = false := by
  obtain ⟨removedLocated, removedDeadlines⟩ := located.remove messageId
  rw [← Bool.not_eq_true, removedLocated.isTracked_iff, removedDeadlines, Deadlines.step_forget,
    if_pos rfl]
  simp

theorem mem_settleIn (relocating : tracker.Relocating ops)
    (same : messageId ∈ outstanding ↔ tracker.isTracked messageId = true) :
    messageId ∈ settleIn outstanding tracker ops ↔
      (run step tracker ops).isTracked messageId = true := by
  induction ops generalizing tracker outstanding with
  | nil => exact same
  | cons _ _ ih =>
    have next := (step_simulates located relocating.1).1
    exact ih next relocating.2 (mem_settle located relocating.1 same)

theorem len_eq_card {tracked : Finset MessageId}
    (same : ∀ messageId, messageId ∈ tracked ↔ tracker.isTracked messageId = true) :
    tracker.len = tracked.card := by
  have apart : tracker.locator.keys.Disjoint tracker.backoffPending.keys := by
    intro messageId inBucket pending
    exact located.apart messageId pending ((located.indexes.mem_iff messageId).mp inBucket)
  have distinct : (tracker.locator.keys ++ tracker.backoffPending.keys).Nodup :=
    tracker.locator.keys_nodup.append tracker.backoffPending.keys_nodup apart
  have keys : tracked = (tracker.locator.keys ++ tracker.backoffPending.keys).toFinset := by
    ext messageId
    rw [same, List.mem_toFinset, List.mem_append, isTracked, Bool.or_eq_true, decide_eq_true_eq,
      decide_eq_true_eq, AList.mem_keys, AList.mem_keys]
  rw [keys, List.toFinset_card_of_nodup distinct, List.length_append, len]

end

end Run

/-! ### Configuration -/

def config (tracker : UnackedMessageTracker) : Nat × Option (Nat → Nat) :=
  (tracker.ackTimeout, tracker.backoff)

section

variable (tracker : UnackedMessageTracker)

theorem ensureCurrentBucket_config (now : Nat) :
    (tracker.ensureCurrentBucket now).1.config = tracker.config := by
  rw [ensureCurrentBucket]
  split <;> rfl

theorem add_config (messageId : MessageId) (now : Nat) :
    (tracker.add messageId now).config = tracker.config := by
  rw [add]
  split
  · rfl
  · exact tracker.ensureCurrentBucket_config now

theorem step_config (op : TrackerOp) : (tracker.step op).config = tracker.config := by
  cases op with
  | add => exact tracker.add_config _ _
  | addWithRedeliveryCount messageId redeliveryCount now =>
    show (tracker.addWithRedeliveryCount messageId redeliveryCount now).config = _
    rw [addWithRedeliveryCount]
    split
    · rfl
    · split
      · exact tracker.add_config messageId now
      · split <;> rfl
  | remove => rfl
  | poll now =>
    show (tracker.poll now).1.config = _
    rw [poll]
    split <;> rfl

theorem step_ackTimeout (op : TrackerOp) : (tracker.step op).ackTimeout = tracker.ackTimeout :=
  congrArg Prod.fst (tracker.step_config op)

theorem run_config (ops : List TrackerOp) : (run step tracker ops).config = tracker.config := by
  induction ops generalizing tracker with
  | nil => rfl
  | cons _ _ ih => rw [run_cons, ih, step_config]

theorem run_ackTimeout (ops : List TrackerOp) :
    (run step tracker ops).ackTimeout = tracker.ackTimeout :=
  congrArg Prod.fst (tracker.run_config ops)

theorem run_isDisabled (ops : List TrackerOp) :
    (run step tracker ops).isDisabled = tracker.isDisabled := by
  rw [isDisabled, run_ackTimeout, isDisabled]

end

theorem starts_of_disabled (disabled : tracker.isDisabled = true)
    (messageId : MessageId) (ops : List TrackerOp) :
    tally step (starts messageId) tracker ops = 0 := by
  induction ops generalizing tracker with
  | nil => rfl
  | cons op _ ih =>
    have nothing : starts messageId tracker op = 0 := if_neg (by simp [disabled])
    have still : (tracker.step op).isDisabled = true := by
      rw [isDisabled, step_ackTimeout]
      exact disabled
    rw [tally, nothing, ih still]

section Fresh

variable {handle ackTimeout : Nat} {backoff : Option (Nat → Nat)} {ops : List TrackerOp}

theorem isTracked_new (messageId : MessageId) :
    (new handle ackTimeout backoff).isTracked messageId = false := by
  simp [isTracked, new]

section

variable (relocating : (new handle ackTimeout backoff).Relocating ops)

include relocating

/-- The account of a run from a new tracker. -/
theorem new_account (messageId : MessageId) :
    tally step (starts messageId) (new handle ackTimeout backoff) ops =
      ((new handle ackTimeout backoff).returnedIn ops).count messageId +
        tally step (removes messageId) (new handle ackTimeout backoff) ops +
        if (run step (new handle ackTimeout backoff) ops).isTracked messageId then 1 else 0 := by
  have account := run_account (located_new handle ackTimeout backoff) relocating messageId
  rwa [isTracked_new, if_neg Bool.false_ne_true, Nat.zero_add] at account

section

variable (tracked : (run step (new handle ackTimeout backoff) ops).isTracked messageId = true)

include tracked

theorem enabled_of_isTracked :
    (run step (new handle ackTimeout backoff) ops).isDisabled = false := by
  rw [run_isDisabled]
  by_contra disabled
  have account := new_account relocating messageId
  rw [starts_of_disabled (Bool.not_eq_false _ ▸ disabled), tracked, if_pos rfl] at account
  omega

/-- An id that is tracked has a time from which on a poll returns it, once. -/
theorem poll_of_isTracked :
    ∃ due, ∀ now,
      ((run step (new handle ackTimeout backoff) ops).returned (.poll now)).count messageId =
        if due ≤ now then 1 else 0 := by
  have located := (run_simulates (located_new handle ackTimeout backoff) relocating).1
  have enabled := enabled_of_isTracked relocating tracked
  obtain ⟨due, found⟩ := Option.ne_none_iff_exists'.mp ((located.isTracked_iff messageId).mp tracked)
  refine ⟨due, fun now => ?_⟩
  rw [located.count_returned enabled, Deadlines.reported, found]
  simp

end

end

end Fresh

/-- In every run from a new tracker in which each poll that drops buckets before ids that stay has
an id to report: an id removed after its last add is returned by no later poll; for every id, the
adds that started its tracking are as many as the polls that returned it and the removals that
ended it, and one more while it is tracked; a tracked id is returned, once, by a poll from a certain
time on; and the ids tracked, as many as the length says, are those added and not yet removed or
returned. -/
theorem tracker_exact (handle ackTimeout : Nat) (backoff : Option (Nat → Nat))
    (ops : List TrackerOp) (relocating : (new handle ackTimeout backoff).Relocating ops) :
    (∀ messageId earlier later, ops = earlier ++ .remove messageId :: later →
      (∀ op ∈ later, op.added? ≠ some messageId) →
      messageId ∉ returnedIn
        (run step (new handle ackTimeout backoff) (earlier ++ [.remove messageId])) later) ∧
    (∀ messageId,
      tally step (starts messageId) (new handle ackTimeout backoff) ops =
        ((new handle ackTimeout backoff).returnedIn ops).count messageId +
          tally step (removes messageId) (new handle ackTimeout backoff) ops +
          if (run step (new handle ackTimeout backoff) ops).isTracked messageId then 1 else 0) ∧
    (∀ messageId, (run step (new handle ackTimeout backoff) ops).isTracked messageId = true →
      ∃ due, ∀ now,
        ((run step (new handle ackTimeout backoff) ops).returned (.poll now)).count messageId =
          if due ≤ now then 1 else 0) ∧
    (∀ messageId, messageId ∈ settleIn ∅ (new handle ackTimeout backoff) ops ↔
      (run step (new handle ackTimeout backoff) ops).isTracked messageId = true) ∧
    (run step (new handle ackTimeout backoff) ops).len =
      (settleIn ∅ (new handle ackTimeout backoff) ops).card := by
  have empty := located_new handle ackTimeout backoff
  have outstanding (messageId : MessageId) :
      messageId ∈ settleIn ∅ (new handle ackTimeout backoff) ops ↔
        (run step (new handle ackTimeout backoff) ops).isTracked messageId = true := by
    apply mem_settleIn empty relocating
    simp [isTracked_new]
  refine ⟨?_, new_account relocating, fun _ => poll_of_isTracked relocating, outstanding,
    len_eq_card (run_simulates empty relocating).1 outstanding⟩
  rintro messageId earlier later rfl unadded
  obtain ⟨before, _, after⟩ := Guarded.append.mp relocating
  have reached := (run_simulates empty before).1
  rw [run_append, run_cons, run_nil]
  exact not_returned_of_untracked (reached.remove messageId).1 after
    (isTracked_remove reached messageId) unadded

/-- Two ids in one window: the first is removed, the second is returned when the window is over. -/
theorem tracker_exact_run :
    (run step (new 7 10 none)
        [.add ⟨1, 1, -1, -1, 0⟩ 0, .add ⟨1, 2, -1, -1, 0⟩ 3, .remove ⟨1, 1, -1, -1, 0⟩,
          .poll 10]).len = 0 ∧
      (new 7 10 none).returnedIn
          [.add ⟨1, 1, -1, -1, 0⟩ 0, .add ⟨1, 2, -1, -1, 0⟩ 3, .remove ⟨1, 1, -1, -1, 0⟩,
            .poll 10] = [⟨1, 2, -1, -1, 0⟩] := by
  have exact := tracker_exact 7 10 none
    [.add ⟨1, 1, -1, -1, 0⟩ 0, .add ⟨1, 2, -1, -1, 0⟩ 3, .remove ⟨1, 1, -1, -1, 0⟩, .poll 10]
    (by decide +kernel)
  refine ⟨exact.2.2.2.2.trans ?_, ?_⟩ <;> decide +kernel

/-- A window whose only id was removed is dropped without renumbering the next one, so removing the
id of that one misses it: it is returned although it was removed after its last add. -/
theorem removed_id_returned :
    returnedIn
        (run step (new 7 10 none)
          [.add ⟨1, 1, -1, -1, 0⟩ 0, .remove ⟨1, 1, -1, -1, 0⟩, .add ⟨1, 2, -1, -1, 0⟩ 10,
            .poll 10, .remove ⟨1, 2, -1, -1, 0⟩]) [.poll 20] = [⟨1, 2, -1, -1, 0⟩] := by
  decide +kernel

end UnackedMessageTracker

end Magnetar.Proto.Trackers.Unacked
