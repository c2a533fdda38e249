import Mathlib.Tactic.Ring
import Magnetar.Library.Table

/-!
Contract: topic lookups (`lookup.rs`).

Owns: the names of partitions, the registry of the lookups in flight with its limit, and the outcome
that a lookup response is turned into.

Does not own: sending a lookup and delivering its outcome (`Connection.Requests`).
-/

namespace Magnetar.Proto.Lookup

open Library

def maxLookupRedirects : Nat := 5

/-- `str::rsplit_once`: the text before and after the last separator. -/
def rsplitOnce (separator : Char) (text : List Char) : Option (List Char × List Char) :=
  match text.reverse.dropWhile (· != separator) with
  | [] => none
  | _ :: front => some (front.reverse, (text.reverse.takeWhile (· != separator)).reverse)

def decimalValue (digits : List Char) : Nat :=
  digits.foldl (fun value digit => 10 * value + (digit.toNat - '0'.toNat)) 0

/-- `str::parse::<u32>` of a text of decimal digits. -/
def parseU32 (digits : List Char) : Option Nat :=
  if decimalValue digits < 2 ^ 32 then some (decimalValue digits) else none

/-- The partition a topic name ends in, if it is the name of one. -/
def topicPartitionIndex (topic : String) : Option Nat := do
  let (front, suffix) ← rsplitOnce '-' topic.toList
  if suffix.isEmpty || !suffix.all Char.isDigit then none
  else if !"-partition".toList.isSuffixOf front then none
  else if front.length = "-partition".length then none
  else parseU32 suffix

def isPartitionTopic (topic : String) : Bool :=
  (topicPartitionIndex topic).isSome

theorem rsplitOnce_eq_some_iff {separator : Char} {text front suffix : List Char} :
    rsplitOnce separator text = some (front, suffix) ↔
      text = front ++ separator :: suffix ∧ separator ∉ suffix := by
  unfold rsplitOnce
  constructor
  · intro split
    have parts := List.takeWhile_append_dropWhile (p := (· != separator)) (l := text.reverse)
    have stops := List.head?_dropWhile_not (· != separator) text.reverse
    have passes := List.all_takeWhile (p := (· != separator)) (l := text.reverse)
    cases found : text.reverse.dropWhile (· != separator) with
    | nil =>
      rw [found] at split
      cases split
    | cons last before =>
      rw [found] at split parts stops
      cases split
      obtain rfl : last = separator := by simpa using stops
      refine ⟨by simpa using congrArg List.reverse parts.symm, ?_⟩
      intro member
      simpa using List.all_eq_true.mp passes last (List.mem_reverse.mp member)
  · rintro ⟨rfl, last⟩
    have passes : ∀ c ∈ suffix.reverse, (c != separator) = true := by
      intro c member
      rw [bne_iff_ne]
      rintro rfl
      exact last (List.mem_reverse.mp member)
    rw [List.reverse_append, List.reverse_cons, List.append_assoc,
      List.dropWhile_append_of_pos passes, List.takeWhile_append_of_pos passes]
    simp

/-- A separator that does not occur again is the last one. -/
theorem length_le_of_last {separator : Char} {front suffix front' suffix' : List Char}
    (same : front ++ separator :: suffix = front' ++ separator :: suffix')
    (last : separator ∉ suffix) : front'.length ≤ front.length := by
  by_contra longer
  have read := congrArg (·[front'.length]?) same
  rw [List.getElem?_append_right (by omega), List.getElem?_append_right (by omega), Nat.sub_self,
    show front'.length - front.length = front'.length - front.length - 1 + 1 by omega] at read
  exact last (List.mem_of_getElem? read)

/-- A name is one of partition `index` exactly when it is a non-empty name, the marker and the
index in decimal digits, and the marker is then the last one in it. -/
theorem topicPartitionIndex_eq_some_iff (topic : String) (index : Nat) :
    topicPartitionIndex topic = some index ↔
      ∃ front digits, topic.toList = front ++ "-partition-".toList ++ digits ∧ front ≠ [] ∧
        digits ≠ [] ∧ (∀ digit ∈ digits, digit.isDigit = true) ∧ decimalValue digits = index ∧
        index < 2 ^ 32 ∧
        ∀ front' digits', topic.toList = front' ++ "-partition-".toList ++ digits' →
          front'.length ≤ front.length := by
  have marked (front digits : List Char) : front ++ "-partition-".toList ++ digits =
      (front ++ "-partition".toList) ++ '-' :: digits := by
    simp
  simp only [topicPartitionIndex, Option.bind_eq_bind, Option.bind_eq_some_iff, Prod.exists,
    rsplitOnce_eq_some_iff, marked]
  constructor
  · rintro ⟨front, digits, ⟨text, last⟩, parsed⟩
    split_ifs at parsed with shape named bare
    rw [Bool.not_eq_true', Bool.not_eq_false, List.isSuffixOf_iff_suffix] at named
    obtain ⟨name, rfl⟩ := named
    simp only [Bool.or_eq_true, not_or, List.isEmpty_iff, Bool.not_eq_true', Bool.not_eq_false,
      List.all_eq_true] at shape
    unfold parseU32 at parsed
    split_ifs at parsed with bounded
    cases parsed
    refine ⟨name, digits, text, ?_, shape.1, shape.2, rfl, bounded, ?_⟩
    · rintro rfl
      exact bare rfl
    · intro front' digits' text'
      simpa using length_le_of_last (text.symm.trans text') last
  · rintro ⟨name, digits, text, named, some, decimal, rfl, bounded, -⟩
    refine ⟨_, digits, ⟨text, ?_⟩, ?_⟩
    · intro member
      exact absurd (decimal '-' member) (by decide)
    · have longer : ¬ (name ++ "-partition".toList).length = "-partition".length := by
        simpa [show "-partition".length = 10 from rfl] using named
      rw [if_neg (by simpa [some] using decimal), if_neg (by simp), if_neg longer, parseU32,
        if_pos bounded]

structure LookupRequest where
  topic : String
  authoritative : Bool
  hopsRemaining : Nat
  chainOrigin : Nat
  deriving DecidableEq, Repr

inductive LookupOutcome where
  | connect (brokerServiceUrl brokerServiceUrlTls : Option String) (proxyThroughServiceUrl : Bool)
  | redirected (brokerServiceUrl brokerServiceUrlTls : Option String) (authoritative : Bool)
      (hopsRemaining : Nat)
  | failed (code : Int) (message : String)
  deriving DecidableEq, Repr

/-- `CommandLookupTopicResponse` without its request id. -/
structure LookupTopicResponse where
  brokerServiceUrl : Option String := none
  brokerServiceUrlTls : Option String := none
  response : Option Int := none
  authoritative : Option Bool := none
  error : Option Int := none
  message : Option String := none
  proxyThroughServiceUrl : Option Bool := none
  deriving DecidableEq, Repr

inductive LookupType where
  | redirect
  | connect
  | failed
  deriving DecidableEq, Repr

/-- An unknown or missing type counts as a failure. -/
def LookupType.ofWire : Option Int → LookupType
  | some 0 => .redirect
  | some 1 => .connect
  | _ => .failed

/-- A redirect that has no hop left fails. -/
def translateLookupResponse (response : LookupTopicResponse) (request : LookupRequest) :
    LookupOutcome :=
  match LookupType.ofWire response.response with
  | .connect =>
    .connect response.brokerServiceUrl response.brokerServiceUrlTls
      (response.proxyThroughServiceUrl.getD false)
  | .redirect =>
    if request.hopsRemaining = 0 then
      .failed 0 "lookup redirect cap exceeded (5 hops)"
    else
      .redirected response.brokerServiceUrl response.brokerServiceUrlTls
        (response.authoritative.getD true) (request.hopsRemaining - 1)
  | .failed => .failed (response.error.getD 0) (response.message.getD "")

/-- The lookups and the partition queries in flight.  A limit of zero is no limit. -/
structure LookupRegistry where
  lookups : Table Nat LookupRequest := ∅
  partitions : Table Nat Unit := ∅
  maxPending : Nat := 0

variable (registry : LookupRegistry)

namespace LookupRegistry

def totalPending : Nat :=
  registry.lookups.keys.length + registry.partitions.keys.length

def hasCapacity : Bool :=
  registry.maxPending == 0 || decide (registry.totalPending < registry.maxPending)

/-- `none` when the limit is reached. -/
def insertLookup (requestId : Nat) (request : LookupRequest) : Option LookupRegistry :=
  if registry.hasCapacity then
    some { registry with lookups := registry.lookups.insert requestId request }
  else none

def insertPartition (requestId : Nat) : Option LookupRegistry :=
  if registry.hasCapacity then
    some { registry with partitions := registry.partitions.insert requestId () }
  else none

/-- The registry after `take_lookup`; what it returns is the entry that was there. -/
def takeLookup (requestId : Nat) : LookupRegistry :=
  { registry with lookups := registry.lookups.erase requestId }

def takePartition (requestId : Nat) : LookupRegistry :=
  { registry with partitions := registry.partitions.erase requestId }

/-- The request waits for a lookup or a partition count. -/
def holds (requestId : Nat) : Bool :=
  (registry.lookups.lookup requestId).isSome || (registry.partitions.lookup requestId).isSome

end LookupRegistry

end Magnetar.Proto.Lookup
