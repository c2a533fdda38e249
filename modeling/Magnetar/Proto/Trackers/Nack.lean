import Magnetar.Proto.Trackers.Buckets

/-!
Contract: the negative-acknowledgement tracker of a consumer.

Owns: `NegativeAcksTracker` with adding, removing and polling, and the ids that are pending after
each.

Does not own: the backoff that picks a delay for one id, which the caller has computed.
-/

namespace Magnetar.Proto.Trackers.Nack

open Library Pb Trackers.Unacked

structure NegativeAcksTracker where
  handle : Nat
  redeliveryDelay : Nat
  pending : AList (fun _ : MessageId => Nat) := ∅

/-- `NackAction::RedeliverUnacked`. -/
structure RedeliverUnacked where
  handle : Nat
  messageIds : List MessageId
  deriving DecidableEq, Repr

variable (tracker : NegativeAcksTracker) {messageId : MessageId} {now : Nat}

namespace NegativeAcksTracker

def new (handle redeliveryDelay : Nat) : NegativeAcksTracker :=
  { handle, redeliveryDelay }

variable (messageId now)

def addWithDelay (delay now : Nat) : NegativeAcksTracker :=
  { tracker with
    pending := tracker.pending.insert messageId (deadlineWithClamp now delay) }

def add : NegativeAcksTracker :=
  tracker.addWithDelay messageId tracker.redeliveryDelay now

def remove : NegativeAcksTracker :=
  { tracker with pending := tracker.pending.erase messageId }

def poll : NegativeAcksTracker × List RedeliverUnacked :=
  let due := dueIn tracker.pending now
  if due.isEmpty then (tracker, [])
  else
    ({ tracker with pending := due.foldl (fun kept id => kept.erase id) tracker.pending },
      [{ handle := tracker.handle, messageIds := due.mergeSort MessageId.le }])

/-! ### Pending ids -/

def isPending : Bool :=
  decide (messageId ∈ tracker.pending)

variable {messageId now}

theorem isPending_add {tracker : NegativeAcksTracker} {added : MessageId}
    (differs : messageId ≠ added) :
    (tracker.add added now).isPending messageId = tracker.isPending messageId := by
  simp [isPending, add, addWithDelay, AList.mem_insert, differs]

theorem isPending_addWithDelay {tracker : NegativeAcksTracker} {added : MessageId}
    {delay : Nat} (differs : messageId ≠ added) :
    (tracker.addWithDelay added delay now).isPending messageId = tracker.isPending messageId := by
  simp [isPending, addWithDelay, AList.mem_insert, differs]

theorem isPending_remove (messageId removed : MessageId) :
    (tracker.remove removed).isPending messageId =
      (tracker.isPending messageId && decide (messageId ≠ removed)) := by
  by_cases same : messageId = removed <;> simp [isPending, remove, same]

theorem isPending_of_returned {tracker : NegativeAcksTracker}
    (returned : messageId ∈ (tracker.poll now).2.flatMap RedeliverUnacked.messageIds) :
    tracker.isPending messageId = true := by
  rw [poll] at returned
  split at returned
  · cases returned
  · have due : messageId ∈ dueIn tracker.pending now := by simpa using returned
    obtain ⟨deadline, found, _⟩ := (Option.any_eq_true _ _).mp (mem_dueIn.mp due)
    rw [isPending, decide_eq_true_eq, ← AList.lookup_isSome, found]
    rfl

theorem isPending_poll {tracker : NegativeAcksTracker}
    (absent : tracker.isPending messageId = false) :
    (tracker.poll now).1.isPending messageId = false := by
  have none : tracker.pending.lookup messageId = none :=
    AList.lookup_eq_none.mpr (of_decide_eq_false absent)
  rw [poll]
  split
  · exact absent
  · rw [isPending, decide_eq_false_iff_not, ← AList.lookup_eq_none, lookup_erase_dueIn, none]
    rfl

end NegativeAcksTracker

end Magnetar.Proto.Trackers.Nack
