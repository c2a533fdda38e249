import Mathlib.Data.List.Perm.Subperm
import Magnetar.Proto.Connection.Pending
import Magnetar.Proto.Connection.Registry

/-!
Contract: the limit on pending lookups.

Owns: that the registry of lookups holds exactly the lookups and partition queries that are pending,
over every run in which each of them ends by its own response, by cancellation or by `reset`, and
that the limit then refuses a lookup only when that many are outstanding.

Does not own: the outcome of a lookup.

The registry is only told about its own two responses, cancellation and `reset`.  An error for a
lookup, or any other reply that takes the request out of the pending table, leaves its entry behind.
-/

namespace Magnetar.Proto.Connection

open Library Lookup LookupRegistry

/-- The two tables of the registry. -/
inductive LookupSlot where
  | topic
  | partitions
  deriving DecidableEq

def LookupSlot.kind : LookupSlot → RequestKind
  | .topic => .lookup
  | .partitions => .partitionedMetadata

theorem LookupSlot.kind_injective : Function.Injective LookupSlot.kind := by
  intro one two same
  cases one <;> cases two <;> first | rfl | cases same

theorem LookupSlot.kind_endures (slot : LookupSlot) : slot.kind.endures = true := by
  cases slot <;> rfl

def holdsSlot (registry : LookupRegistry) (slot : LookupSlot) (requestId : Nat) : Bool :=
  match slot with
  | .topic => (registry.lookups.lookup requestId).isSome
  | .partitions => (registry.partitions.lookup requestId).isSome

variable {op : DeskOp}

namespace RequestDesk

/-- A lookup or a partition query is pending under the id. -/
def isLookup (desk : RequestDesk) (requestId : Nat) : Bool :=
  (desk.ticket requestId).kind == some .lookup ||
    (desk.ticket requestId).kind == some .partitionedMetadata

theorem isLookup_of_kind {desk : RequestDesk} {requestId : Nat} {slot : LookupSlot}
    (pending : (desk.ticket requestId).kind = some slot.kind) : desk.isLookup requestId = true := by
  unfold isLookup
  rw [pending]
  cases slot <;> rfl

/-- The operation takes no lookup out of the pending table behind the registry's back: an answer
other than its own response does, and so do a request that cannot be encoded, the end of the
connection, and an id that is handed out again while the lookup it named is pending. -/
def freesSlots (desk : RequestDesk) (op : DeskOp) : Bool :=
  !desk.isLookup desk.nextRequestId &&
    match op with
    | .lookupTopic _ _ encodes => encodes || !desk.lookup.hasCapacity
    | .lookupRedirect _ _ _ encodes => encodes || !desk.lookup.hasCapacity
    | .reply (.lookupResponse _ _) => true
    | .reply (.partitionedMetadataResponse _ _ _ _) => true
    | .reply (.getSchemaResponse _ _ _ _ _) => true
    | .reply frame => frame.requestId.all fun answered => !desk.isLookup answered
    | .failAllPending _ => desk.lookup.totalPending == 0
    | _ => true

/-- The registry names exactly the pending lookups. -/
structure Matched (desk : RequestDesk) : Prop where
  anchored : desk.Anchored
  slots : ∀ slot requestId,
    holdsSlot desk.lookup slot requestId = true ↔ (desk.ticket requestId).kind = some slot.kind

section Matched

variable {desk : RequestDesk}

/-- An operation that leaves the registry alone, sends no lookup and addresses none. -/
theorem Matched.of_registry (matched : desk.Matched)
    (free : desk.isLookup desk.nextRequestId = false) (goesOn : op.goesOn = true)
    (registry : ∀ slot requestId,
      holdsSlot (desk.registryAfter op) slot requestId = holdsSlot desk.lookup slot requestId)
    (unsent : ∀ slot : LookupSlot, desk.sends op ≠ some slot.kind)
    (spared : ∀ requestId, desk.isLookup requestId = true → desk.addressed op ≠ some requestId) :
    (desk.step op).Matched := by
  refine ⟨matched.anchored.step op, fun slot requestId => ?_⟩
  rw [lookup_step, registry, matched.slots]
  constructor
  · intro pending
    have lookup := isLookup_of_kind pending
    apply pending_after goesOn pending slot.kind_endures
    · rintro rfl
      rw [lookup] at free
      cases free
    · exact spared requestId lookup
  · intro pending
    rcases pending_before pending with before | sent
    · exact before
    · exact absurd sent.2 (unsent slot)

theorem Matched.holdsSlot_eq_false (matched : desk.Matched) {requestId : Nat}
    {slot : LookupSlot} (other : LookupSlot)
    (named : (desk.ticket requestId).kind = some slot.kind) (differs : other ≠ slot) :
    holdsSlot desk.lookup other requestId = false := by
  apply Bool.eq_false_iff.mpr
  intro held
  have again := (matched.slots other requestId).mp held
  rw [named, Option.some.injEq] at again
  exact differs (LookupSlot.kind_injective again.symm)

/-- Releasing requests of a kind that has no entry. -/
theorem Matched.releaseLookups (matched : desk.Matched) (kind : RequestKind)
    (plain : ∀ slot : LookupSlot, kind ≠ slot.kind) {cancelled : List Nat}
    (pending : ∀ requestId ∈ cancelled, (desk.ticket requestId).kind = some kind)
    (slot : LookupSlot) (requestId : Nat) :
    holdsSlot (releaseLookups desk.lookup cancelled) slot requestId =
      holdsSlot desk.lookup slot requestId := by
  have free : requestId ∈ cancelled → holdsSlot desk.lookup slot requestId = false := by
    intro member
    apply Bool.eq_false_iff.mpr
    intro held
    have named := (matched.slots slot requestId).mp held
    rw [pending requestId member, Option.some.injEq] at named
    exact plain slot named
  cases slot with
  | topic | partitions =>
    simp only [holdsSlot, lookups_releaseLookups, partitions_releaseLookups] at free ⊢
    split
    · exact (free ‹_›).symm
    · rfl

/-- The operation makes a lookup pending and enters it under the same id. -/
theorem Matched.opens (slot : LookupSlot) (matched : desk.Matched)
    (free : desk.isLookup desk.nextRequestId = false)
    (registry : ∀ other requestId, holdsSlot (desk.registryAfter op) other requestId =
      (holdsSlot desk.lookup other requestId ||
        (other == slot && requestId == desk.nextRequestId)))
    (issued : ∀ requestId, desk.changes requestId op = desk.issues slot.kind requestId) :
    (desk.step op).Matched := by
  refine ⟨matched.anchored.step op, fun other requestId => ?_⟩
  rw [lookup_step, registry, ticket_step, issued, Bool.or_eq_true, matched.slots]
  by_cases same : requestId = desk.nextRequestId
  · subst same
    have absent : (desk.ticket desk.nextRequestId).kind ≠ some other.kind := by
      intro pending
      rw [isLookup_of_kind pending] at free
      cases free
    have entered : ((desk.issues slot.kind desk.nextRequestId).foldl Ticket.apply
        (desk.ticket desk.nextRequestId)).kind = some slot.kind := by
      rw [issues, changesAt, if_pos rfl]
      rfl
    rw [entered, Option.some.injEq, LookupSlot.kind_injective.eq_iff]
    simpa [absent] using eq_comm
  · rw [issues_ne same]
    simp [same]

/-- The operation ends a request and takes it out of the registry. -/
theorem Matched.closes (closed : Nat) (change : TicketChange) (matched : desk.Matched)
    (elsewhere : ∀ slot requestId, requestId ≠ closed →
      holdsSlot (desk.registryAfter op) slot requestId = holdsSlot desk.lookup slot requestId)
    (released : ∀ slot, holdsSlot (desk.registryAfter op) slot closed = false)
    (changes : ∀ requestId, desk.changes requestId op = changesAt closed requestId [change])
    (ends : ∀ pending, change.kindAfter pending = none) :
    (desk.step op).Matched := by
  refine ⟨matched.anchored.step op, fun slot requestId => ?_⟩
  rw [lookup_step, ticket_step, changes]
  by_cases same : requestId = closed
  · subst same
    rw [released, changesAt, if_pos rfl, List.foldl_cons, List.foldl_nil, Ticket.kind_apply, ends]
    simp
  · rw [elsewhere slot requestId same, changesAt_ne same]
    exact matched.slots slot requestId

theorem Matched.clears (outcome : RequestOutcome) (matched : desk.Matched)
    (empty : ∀ slot requestId, holdsSlot (desk.registryAfter op) slot requestId = false)
    (changes : ∀ requestId, desk.changes requestId op = desk.endChanges outcome requestId) :
    (desk.step op).Matched := by
  refine ⟨matched.anchored.step op, fun slot requestId => ?_⟩
  rw [lookup_step, empty, ticket_step, changes, kind_endChanges]
  simp

section

variable (matched : desk.Matched)

include matched

section

variable (free : desk.isLookup desk.nextRequestId = false)

include free

theorem Matched.lookup {request : LookupRequest} {encodes : Bool}
    (encoded : (encodes || !desk.lookup.hasCapacity) = true) (goesOn : op.goesOn = true)
    (registry : desk.registryAfter op =
      (desk.lookup.insertLookup desk.nextRequestId request).getD desk.lookup)
    (sent : desk.sends op =
      if desk.lookup.hasCapacity && encodes then some .lookup else none)
    (unaddressed : desk.addressed op = none) (changes : ∀ requestId, desk.changes requestId op =
      changesAt desk.nextRequestId requestId (desk.lookupChanges encodes)) :
    (desk.step op).Matched := by
  cases room : desk.lookup.hasCapacity with
  | false =>
    apply matched.of_registry free goesOn
    · intro slot requestId
      rw [registry, insertLookup, room]
      rfl
    · simp [sent, room]
    · simp [unaddressed]
  | true =>
    have accepted : encodes = true := by simpa [room] using encoded
    apply Matched.opens .topic matched free
    · intro slot requestId
      rw [registry, insertLookup, room]
      cases slot with
      | topic =>
        by_cases same : requestId = desk.nextRequestId
        · subst same
          simp [holdsSlot]
        · simp [holdsSlot, same, AList.lookup_insert_ne same]
      | partitions => simp [holdsSlot]
    · intro requestId
      rw [changes, lookupChanges, room, accepted]
      rfl

theorem Matched.metadata (topic : String) :
    (desk.step (.getPartitionedTopicMetadata topic)).Matched := by
  by_cases sent : (!isPartitionTopic topic && desk.lookup.hasCapacity) = true
  · obtain ⟨whole, room⟩ := Bool.and_eq_true_iff.mp sent
    have named : isPartitionTopic topic = false := by simpa using whole
    apply Matched.opens .partitions matched free
    · intro slot requestId
      simp only [registryAfter, named, insertPartition, room]
      cases slot with
      | topic => simp [holdsSlot]
      | partitions =>
        by_cases same : requestId = desk.nextRequestId
        · subst same
          simp [holdsSlot]
        · simp [holdsSlot, same, AList.lookup_insert_ne same]
    · intro requestId
      simp only [changes, metadataChanges, named, room]
      rfl
  · apply matched.of_registry free rfl
    · intro slot requestId
      simp only [registryAfter, insertPartition]
      cases named : isPartitionTopic topic with
      | true => rfl
      | false =>
        have full : desk.lookup.hasCapacity = false := by simpa [named] using sent
        rw [full]
        rfl
    · simp [sends, sent]
    · simp [addressed]

theorem Matched.lookupResponse (answered : Nat) (response : LookupTopicResponse) :
    (desk.step (.reply (.lookupResponse answered response))).Matched := by
  cases found : desk.lookup.lookups.lookup answered with
  | none =>
    apply matched.of_registry free rfl
    · simp [registryAfter, found]
    · simp [sends]
    · simp [addressed, found]
  | some request =>
    have pending := (matched.slots .topic answered).mp (by simp [holdsSlot, found])
    apply Matched.closes answered
      (.settle (.lookupResponse (translateLookupResponse response request))) matched
    · intro slot requestId other
      simp only [registryAfter, found, Option.isSome_some, if_true]
      cases slot with
      | topic => simp [holdsSlot, takeLookup, AList.lookup_erase_ne other]
      | partitions => rfl
    · intro slot
      simp only [registryAfter, found, Option.isSome_some, if_true]
      cases slot with
      | topic => simp [holdsSlot, takeLookup]
      | partitions => exact matched.holdsSlot_eq_false .partitions pending (by decide)
    · intro requestId
      simp only [changes, replyChanges, found]
      rw [matched.anchored answered request found]
    · exact fun _ => rfl

theorem Matched.partitionedMetadataResponse (answered : Nat)
    (partitions : Option Nat) (error : Option Int) (message : Option String) :
    (desk.step
      (.reply (.partitionedMetadataResponse answered partitions error message))).Matched := by
  cases found : desk.lookup.partitions.lookup answered with
  | none =>
    apply matched.of_registry free rfl
    · simp [registryAfter, found]
    · simp [sends]
    · simp [addressed, found]
  | some =>
    have pending := (matched.slots .partitions answered).mp (by simp [holdsSlot, found])
    apply Matched.closes answered
      (.settle (.partitionedMetadata (partitions.getD 0)
        (error.map fun code => (code, message.getD "")))) matched
    · intro slot requestId other
      simp only [registryAfter, found, Option.isSome_some, if_true]
      cases slot with
      | topic => rfl
      | partitions => simp [holdsSlot, takePartition, AList.lookup_erase_ne other]
    · intro slot
      simp only [registryAfter, found, Option.isSome_some, if_true]
      cases slot with
      | topic => exact matched.holdsSlot_eq_false .topic pending (by decide)
      | partitions => simp [holdsSlot, takePartition]
    · intro requestId
      simp only [changes, replyChanges, found]
    · exact fun _ => rfl

end

theorem Matched.cancelRequest (named : Nat) : (desk.step (.cancelRequest named)).Matched := by
  apply Matched.closes named .cancel matched
  · intro slot requestId other
    cases slot with
    | topic => simp [holdsSlot, registryAfter, lookups_releaseLookups, other]
    | partitions => simp [holdsSlot, registryAfter, partitions_releaseLookups, other]
  · intro slot
    cases slot with
    | topic => simp [holdsSlot, registryAfter, lookups_releaseLookups]
    | partitions => simp [holdsSlot, registryAfter, partitions_releaseLookups]
  · exact fun _ => rfl
  · exact fun _ => rfl

theorem Matched.success (answered : Nat) (slot : LookupSlot) (requestId : Nat) :
    holdsSlot (desk.registryAfter (.reply (.success answered))) slot requestId =
      holdsSlot desk.lookup slot requestId := by
  simp only [registryAfter, cancelledBySuccess]
  cases pending : (desk.ticket answered).kind with
  | none => rfl
  | some kind =>
    cases kind with
    | consumerUnsubscribe handle =>
      dsimp only
      split
      · apply matched.releaseLookups (.consumerSubscribe handle)
        · intro slot
          cases slot <;> simp [LookupSlot.kind]
        · intro cancelled member
          rw [mem_pendingOf, kind_forget] at member
          split at member
          · cases member
          · exact member
      · rfl
    | _ => rfl

/-- A reply other than the registry's own finds no lookup under its id. -/
theorem Matched.reply {frame : ReplyFrame}
    (guarded : desk.freesSlots (.reply frame) = true) : (desk.step (.reply frame)).Matched := by
  obtain ⟨next, named⟩ := Bool.and_eq_true_iff.mp guarded
  have free : desk.isLookup desk.nextRequestId = false := by simpa using next
  have spared (answered : Option Nat)
      (other : (answered.all fun answered => !desk.isLookup answered) = true) (requestId : Nat)
      (lookup : desk.isLookup requestId = true) : answered ≠ some requestId := by
    rintro rfl
    simp [lookup] at other
  cases frame with
  | lookupResponse => exact matched.lookupResponse free _ _
  | partitionedMetadataResponse => exact matched.partitionedMetadataResponse free _ _ _ _
  | getSchemaResponse =>
    exact matched.of_registry free rfl (fun _ _ => rfl) (by simp [sends]) (by simp [addressed])
  | success answered =>
    exact matched.of_registry free rfl (matched.success answered) (by simp [sends])
      (spared _ named)
  | _ =>
    exact matched.of_registry free rfl (fun _ _ => rfl) (by simp [sends]) (spared _ named)

end

theorem holdsSlot_of_totalPending {registry : LookupRegistry} (empty : registry.totalPending = 0)
    (slot : LookupSlot) (requestId : Nat) : holdsSlot registry slot requestId = false := by
  unfold LookupRegistry.totalPending at empty
  have absent {α : Type} (table : Table Nat α) (short : table.keys.length = 0) :
      table.lookup requestId = none := by
    rw [AList.lookup_eq_none, AList.mem_keys, List.eq_nil_of_length_eq_zero short]
    simp
  cases slot with
  | topic => simp [holdsSlot, absent registry.lookups (by omega)]
  | partitions => simp [holdsSlot, absent registry.partitions (by omega)]

theorem Matched.step (matched : desk.Matched) (guarded : desk.freesSlots op = true) :
    (desk.step op).Matched := by
  obtain ⟨next, condition⟩ := Bool.and_eq_true_iff.mp guarded
  have free : desk.isLookup desk.nextRequestId = false := by simpa using next
  cases op with
  | lookupTopic | lookupRedirect =>
    exact matched.lookup free condition rfl rfl rfl rfl fun _ => rfl
  | getPartitionedTopicMetadata topic => exact matched.metadata free topic
  | cancelRequest named => exact matched.cancelRequest named
  | cancelProducerOpen | cancelConsumerSubscribe =>
    apply matched.of_registry free rfl
    · refine matched.releaseLookups _ ?_ fun _ member => (mem_pendingOf _ _ _).mp member
      intro slot
      cases slot <;> simp [LookupSlot.kind]
    · intro slot
      cases slot <;> simp [sends, LookupSlot.kind]
    · simp [addressed]
  | closeProducer _ origin | closeConsumer _ origin =>
    apply matched.of_registry free rfl (fun _ _ => rfl)
    · intro slot
      cases slot <;> cases origin <;> simp [sends, LookupSlot.kind]
    · simp [addressed]
  | reply => exact matched.reply guarded
  | reset =>
    apply Matched.clears .sessionLost matched
    · intro slot requestId
      cases slot <;> rfl
    · exact fun _ => rfl
  | failAllPending reason =>
    apply Matched.clears (.terminal reason) matched
    · exact holdsSlot_of_totalPending (by simpa [registryAfter] using condition)
    · exact fun _ => rfl
  | _ =>
    apply matched.of_registry free rfl (fun _ _ => rfl)
    · intro slot
      cases slot <;> simp [sends, LookupSlot.kind]
    · simp [addressed]

end Matched

/-! ### Whole runs -/

def pendingLookups (desk : RequestDesk) : Nat :=
  (desk.pendingOf .lookup).length + (desk.pendingOf .partitionedMetadata).length

theorem pendingOf_nodup (desk : RequestDesk) (kind : RequestKind) : (desk.pendingOf kind).Nodup := by
  have sub : (desk.pendingOf kind).Sublist desk.tickets.keys :=
    List.Sublist.map Sigma.fst List.filter_sublist
  exact sub.nodup desk.tickets.keys_nodup

/-- A table that names exactly the pending requests of a kind has as many entries. -/
theorem length_keys_eq_pendingOf {α : Type} (desk : RequestDesk) (table : Table Nat α)
    (kind : RequestKind) (names : ∀ requestId, (table.lookup requestId).isSome = true ↔
      (desk.ticket requestId).kind = some kind) :
    table.keys.length = (desk.pendingOf kind).length := by
  apply List.Perm.length_eq
  apply (List.perm_ext_iff_of_nodup table.keys_nodup (desk.pendingOf_nodup kind)).mpr
  intro requestId
  rw [mem_pendingOf, ← names, AList.lookup_isSome, AList.mem_keys]

theorem Matched.totalPending {desk : RequestDesk} (matched : desk.Matched) :
    desk.lookup.totalPending = desk.pendingLookups := by
  have topics := desk.length_keys_eq_pendingOf desk.lookup.lookups .lookup fun requestId =>
    matched.slots .topic requestId
  have queries := desk.length_keys_eq_pendingOf desk.lookup.partitions .partitionedMetadata
    fun requestId => matched.slots .partitions requestId
  unfold LookupRegistry.totalPending pendingLookups
  omega

theorem fresh_matched (ackResponseTimeout : Option Nat) (maxPending : Nat) :
    (fresh ackResponseTimeout maxPending).Matched := by
  constructor
  · intro requestId request found
    simp [fresh] at found
  · intro slot requestId
    cases slot <;> simp [fresh, holdsSlot, ticket]

theorem maxPending_releaseLookups (cancelled : List Nat) (registry : LookupRegistry) :
    (releaseLookups registry cancelled).maxPending = registry.maxPending := by
  induction cancelled generalizing registry with
  | nil => rfl
  | cons _ _ ih => exact ih _

theorem maxPending_step (desk : RequestDesk) (op : DeskOp) :
    (desk.step op).lookup.maxPending = desk.lookup.maxPending := by
  rw [lookup_step]
  unfold registryAfter insertLookup insertPartition
  split <;> first
    | rfl
    | exact maxPending_releaseLookups _ _
    | (split <;> first | rfl | split <;> rfl)

/-- As long as a lookup ends only by its own response, by cancellation or by `reset`, the registry
holds as many entries as lookups are pending, and it refuses one only when the limit is reached by
lookups that are really outstanding. -/
theorem lookup_slots_match_pending (ackResponseTimeout : Option Nat) (maxPending : Nat)
    (ops : List DeskOp)
    (guarded : Machine.Guarded RequestDesk.step (fun desk op => desk.freesSlots op = true)
      (fresh ackResponseTimeout maxPending) ops) :
    let desk := Machine.run RequestDesk.step (fresh ackResponseTimeout maxPending) ops
    desk.lookup.totalPending = desk.pendingLookups ∧
    (∀ requestId request, desk.lookup.insertLookup requestId request = none →
      0 < maxPending ∧ maxPending ≤ desk.pendingLookups) ∧
    ∀ requestId, desk.lookup.insertPartition requestId = none →
      0 < maxPending ∧ maxPending ≤ desk.pendingLookups := by
  intro desk
  have matched : desk.Matched := Machine.run_invariant Matched (fun _ _ => Matched.step)
    (fresh_matched ackResponseTimeout maxPending) guarded
  have limit : desk.lookup.maxPending = maxPending :=
    Machine.run_invariant (fun reached : RequestDesk => reached.lookup.maxPending = maxPending)
      (fun reached op same _ => (maxPending_step reached op).trans same) rfl guarded
  have refused (full : desk.lookup.hasCapacity = false) :
      0 < maxPending ∧ maxPending ≤ desk.pendingLookups := by
    simp only [LookupRegistry.hasCapacity, matched.totalPending, limit, Bool.or_eq_false_iff,
      beq_eq_false_iff_ne, decide_eq_false_iff_not] at full
    omega
  refine ⟨matched.totalPending, ?_, ?_⟩
  · intro requestId request rejected
    apply refused
    unfold LookupRegistry.insertLookup at rejected
    split at rejected
    case isTrue => cases rejected
    case isFalse full => exact Bool.eq_false_iff.mpr full
  · intro requestId rejected
    apply refused
    unfold LookupRegistry.insertPartition at rejected
    split at rejected
    case isTrue => cases rejected
    case isFalse full => exact Bool.eq_false_iff.mpr full

/-- A redirect, a cancelled query, a refusal at the limit, and the end of the session. -/
theorem refused_only_at_the_limit :
    let ops := [DeskOp.lookupTopic "t" false true,
      .reply (.lookupResponse 0 { response := some 0, brokerServiceUrl := some "pulsar://b" }),
      .lookupRedirect "t" true 19 true, .getPartitionedTopicMetadata "t", .cancelRequest 2,
      .getPartitionedTopicMetadata "u", .lookupTopic "v" false true]
    let desk := Machine.run RequestDesk.step (fresh none 2) ops
    desk.lookup.totalPending = desk.pendingLookups ∧ desk.pendingLookups = 2 ∧
    desk.lookup.hasCapacity = false ∧ (desk.step .reset).lookup.totalPending = 0 := by
  refine ⟨(lookup_slots_match_pending none 2 _ ?_).1, ?_⟩
  · decide +kernel
  · decide +kernel

/-- An error for a lookup answers it, and keeps its place: with a limit of one, no lookup is sent
any more although none is outstanding. -/
theorem lookup_refused_with_none_pending :
    let desk := Machine.run RequestDesk.step (fresh none 1)
      [.lookupTopic "t" false true, .reply (.error 0 6 "not found" false)]
    desk.pendingLookups = 0 ∧ desk.lookup.totalPending = 1 ∧
    (desk.ticket 0).outcome = some (.error 6 "not found") ∧
    ((desk.step (.lookupTopic "u" false true)).ticket 1).outcome =
      some (.lookupResponse (.failed 0 lookupRejectedMessage)) := by
  decide +kernel

end RequestDesk

end Magnetar.Proto.Connection
