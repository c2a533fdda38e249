import Mathlib.Data.List.Sort
import Magnetar.Proto.Pb

/-!
Contract: the acknowledgement-grouping tracker of a consumer.

Owns: `AckGroupingTracker` with its two ways to stage an id, the timer poll and the flush, and the
order in which one cumulative id takes the place of another.

Does not own: sending the acknowledgements that a flush names.  The ordered set of individual ids
is a list without duplicates that a flush sorts.
-/

namespace Magnetar.Proto.Trackers.Ack

open Pb

inductive AckAction where
  | sendIndividualAck (handle : Nat) (messageIds : List MessageId)
  | sendCumulativeAck (handle : Nat) (messageId : MessageId)
  deriving DecidableEq, Repr

structure AckGroupingTracker where
  handle : Nat
  ackGroupTime : Nat
  pendingIndividuals : List MessageId := []
  pendingCumulative : Option MessageId := none
  lastFlush : Option Nat := none

/-- `>` on ledger, entry and batch index. -/
def cumulativeGt (left right : MessageId) : Bool :=
  match Ord.compare left.ledgerId right.ledgerId with
  | .lt => false
  | .gt => true
  | .eq =>
    match Ord.compare left.entryId right.entryId with
    | .lt => false
    | .gt => true
    | .eq => decide (left.batchIndex > right.batchIndex)

variable (tracker : AckGroupingTracker)

namespace AckGroupingTracker

def new (handle ackGroupTime : Nat) : AckGroupingTracker :=
  { handle, ackGroupTime }

def addIndividual (messageId : MessageId) (now : Nat) : AckGroupingTracker × List AckAction :=
  if tracker.ackGroupTime = 0 then (tracker, [.sendIndividualAck tracker.handle [messageId]])
  else
    ({ tracker with
        pendingIndividuals := tracker.pendingIndividuals.insert messageId
        lastFlush := tracker.lastFlush.or (some now) },
      [])

/-- The cumulative id to keep: the one staged, unless the new one is greater. -/
def greaterCumulative (pending : Option MessageId) (messageId : MessageId) : MessageId :=
  match pending with
  | some existing => if cumulativeGt messageId existing then messageId else existing
  | none => messageId

def addCumulative (messageId : MessageId) (now : Nat) : AckGroupingTracker × List AckAction :=
  if tracker.ackGroupTime = 0 then (tracker, [.sendCumulativeAck tracker.handle messageId])
  else
    ({ tracker with
        pendingCumulative := some (greaterCumulative tracker.pendingCumulative messageId)
        lastFlush := tracker.lastFlush.or (some now) },
      [])

/-- The staged cumulative id goes first, then the individual ids in order. -/
def flush : AckGroupingTracker × List AckAction :=
  ({ tracker with pendingIndividuals := [], pendingCumulative := none, lastFlush := none },
    (tracker.pendingCumulative.map fun id => .sendCumulativeAck tracker.handle id).toList ++
      if tracker.pendingIndividuals.isEmpty then []
      else
        [.sendIndividualAck tracker.handle (tracker.pendingIndividuals.mergeSort MessageId.le)])

def poll (now : Nat) : AckGroupingTracker × List AckAction :=
  match tracker.lastFlush with
  | none => (tracker, [])
  | some first => if now - first < tracker.ackGroupTime then (tracker, []) else tracker.flush

end AckGroupingTracker

end Magnetar.Proto.Trackers.Ack
