import Mathlib.Data.List.AList
import Mathlib.Tactic.Ring
import Magnetar.Proto.Pb

/-!
Contract: the acknowledgement-timeout tracker of a consumer.

Owns: `UnackedMessageTracker` with its buckets, the two ways to add an id, removing an id and
polling for the ids whose time is up.

Does not own: what the calls amount to over time (`Trackers.Expiry`).  The redelivery backoff
multiplies floats, so the tracker carries the delay it assigns to each redelivery count as a
function.  A hash set of ids is a list without duplicates.
-/

namespace Magnetar.Proto.Trackers.Unacked

open Pb

/-- The last instant a Linux `Timespec` represents, in nanoseconds. -/
def instantMax : Nat := 2 ^ 63 * 1000000000 - 1

def overflowFallback : Nat := 3600 * 1000000000

def deadlineWithClamp (base delta : Nat) : Nat :=
  if base + delta ≤ instantMax then base + delta else base + overflowFallback

/-- The ids whose own deadline has passed. -/
def dueIn (pending : AList (fun _ : MessageId => Nat)) (now : Nat) : List MessageId :=
  pending.entries.filterMap fun entry => if entry.2 ≤ now then some entry.1 else none

structure Bucket where
  deadline : Nat
  ids : List MessageId

def Bucket.without (messageId : MessageId) (bucket : Bucket) : Bucket :=
  { bucket with ids := bucket.ids.erase messageId }

structure UnackedMessageTracker where
  handle : Nat
  ackTimeout : Nat
  backoff : Option (Nat → Nat) := none
  buckets : List Bucket := []
  locator : AList (fun _ : MessageId => Nat) := ∅
  backoffPending : AList (fun _ : MessageId => Nat) := ∅

namespace UnackedMessageTracker

/-- `new`, and `with_backoff` when there is one. -/
def new (handle ackTimeout : Nat) (backoff : Option (Nat → Nat)) : UnackedMessageTracker :=
  { handle, ackTimeout, backoff }

variable (tracker : UnackedMessageTracker) (messageId : MessageId)

def isDisabled : Bool :=
  tracker.ackTimeout == 0

/-- The newest bucket when it is still open at `now`, else a new one behind it. -/
def ensureCurrentBucket (now : Nat) : UnackedMessageTracker × Nat :=
  if (tracker.buckets.getLast?).any fun last => decide (now < last.deadline) then
    (tracker, tracker.buckets.length - 1)
  else
    let bucket : Bucket := { deadline := deadlineWithClamp now tracker.ackTimeout, ids := [] }
    ({ tracker with buckets := tracker.buckets ++ [bucket] }, tracker.buckets.length)

def isTracked : Bool :=
  decide (messageId ∈ tracker.locator) || decide (messageId ∈ tracker.backoffPending)

def add (now : Nat) : UnackedMessageTracker :=
  if tracker.isDisabled || tracker.isTracked messageId then tracker
  else
    let (tracker, index) := tracker.ensureCurrentBucket now
    { tracker with
      buckets := tracker.buckets.modify index fun bucket =>
        { bucket with ids := bucket.ids.insert messageId }
      locator := tracker.locator.insert messageId index }

def addWithRedeliveryCount (redeliveryCount now : Nat) : UnackedMessageTracker :=
  if tracker.isDisabled then tracker
  else
    match tracker.backoff with
    | none => tracker.add messageId now
    | some delayFor =>
      if tracker.isTracked messageId then tracker
      else
        { tracker with
          backoffPending := tracker.backoffPending.insert messageId
            (deadlineWithClamp now (delayFor redeliveryCount)) }

/-- An id is taken out of the bucket that the locator names. -/
def remove : UnackedMessageTracker :=
  { tracker with
    buckets :=
      match tracker.locator.lookup messageId with
      | some index => tracker.buckets.modify index (Bucket.without messageId)
      | none => tracker.buckets
    locator := tracker.locator.erase messageId
    backoffPending := tracker.backoffPending.erase messageId }

/-- `UnackedAction::RedeliverExpired`. -/
structure RedeliverExpired where
  handle : Nat
  messageIds : List MessageId
  deriving DecidableEq, Repr

/-- What the loop over the buckets has got to. -/
structure Reaped where
  buckets : List Bucket
  locator : AList (fun _ : MessageId => Nat)
  expired : List RedeliverExpired

/-- The loop of `poll`: buckets whose deadline has passed leave from the front, an empty one
without a word. -/
def reap (handle now : Nat) :
    List Bucket → AList (fun _ : MessageId => Nat) → Reaped
  | [], locator => { buckets := [], locator, expired := [] }
  | bucket :: rest, locator =>
    if bucket.deadline > now then { buckets := bucket :: rest, locator, expired := [] }
    else if bucket.ids.isEmpty then reap handle now rest locator
    else
      let reaped := reap handle now rest (bucket.ids.foldl (fun kept id => kept.erase id) locator)
      { reaped with
        expired := { handle, messageIds := bucket.ids.mergeSort MessageId.le } :: reaped.expired }

/-- The locator of a list of buckets, the first of which stands at `index`. -/
def relocate : (index : Nat) → List Bucket → AList (fun _ : MessageId => Nat) →
    AList (fun _ : MessageId => Nat)
  | _, [], locator => locator
  | index, bucket :: rest, locator =>
    relocate (index + 1) rest (bucket.ids.foldl (fun kept id => kept.insert id index) locator)

def backoffDue (now : Nat) : List MessageId :=
  dueIn tracker.backoffPending now

/-- The indices are rebuilt only when some bucket had ids to report. -/
def poll (now : Nat) : UnackedMessageTracker × List RedeliverExpired :=
  if tracker.isDisabled then (tracker, [])
  else
    let reaped := reap tracker.handle now tracker.buckets tracker.locator
    let due := tracker.backoffDue now
    ({ tracker with
        buckets := reaped.buckets
        locator := if reaped.expired.isEmpty then reaped.locator else relocate 0 reaped.buckets ∅
        backoffPending := due.foldl (fun kept id => kept.erase id) tracker.backoffPending },
      if due.isEmpty then reaped.expired
      else reaped.expired ++ [{ handle := tracker.handle, messageIds := due.mergeSort MessageId.le }])

end UnackedMessageTracker

end Magnetar.Proto.Trackers.Unacked
