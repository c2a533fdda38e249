import Mathlib.Data.Finset.Basic
import Mathlib.Data.Finset.Range
import Magnetar.Library.Machine
import Magnetar.Proto.Consumer.Acking

/-!
Contract: what the table of outstanding batch positions owes for one entry.

Owns: the two changes of the table, a dispatch and an acknowledgement, the account of one entry that
is kept from the dispatches and the acknowledged ids alone, the condition under which the table
agrees with it, the agreement along every run, and that every entry is well formed along any run.

Does not own: which calls of a consumer change the table (`Connection.BatchAcks`).
-/

namespace Magnetar.Proto.Consumer

open Library Library.Machine Pb BatchAck BatchAckEntry EntryKey

/-! ### The table -/

inductive TableOp where
  | dispatched (key : EntryKey) (numInBatch : Int) (ackSet : List Int64)
  | acked (request : AckRequest) (messageIdData : Option (List MessageIdData))

variable (ackType : AckType) (tracker : BatchAckTable) (key : EntryKey)

def trackDelivered (delivered : BatchAckEntry) : BatchAckTable :=
  match tracker.lookup key with
  | some existing => tracker.insert key (existing.intersectDelivered delivered)
  | none => tracker.insert key delivered

def tableStep : TableOp → BatchAckTable
  | .dispatched key numInBatch ackSet =>
    trackDelivered tracker key (BatchAckEntry.fromDeliveredAckSet numInBatch ackSet)
  | .acked request messageIdData => (applyBatchAckState tracker request messageIdData).1

/-- The ids that the change puts on the wire, one list for each command. -/
def answer : TableOp → List (List MessageIdData)
  | .dispatched .. => []
  | .acked request messageIdData => [(applyBatchAckState tracker request messageIdData).2]

/-! ### The account of one entry -/

/-- What an entry owes, by the dispatches and the acknowledged ids. -/
inductive EntryAccount where
  | undispatched
  /-- Dispatched, with the positions that neither side has acknowledged. -/
  | owing (numInBatch : Int) (positions : Finset Nat)
  /-- An acknowledgement has settled the last position. -/
  | settled
  deriving DecidableEq

/-- The positions that a dispatch lists as unacknowledged. -/
def listedPositions (numInBatch : Int) (ackSet : List Int64) : Finset Nat :=
  (Finset.range numInBatch.toNat).filter fun position =>
    (BatchAckEntry.deliveredWord ackSet (position / 64)).getLsbD (position % 64) = true

/-- The id acknowledges a position of the entry, or all of it. -/
def covers (id : MessageId) : Bool :=
  decide (id.entryKey = key) || (ackType == .cumulative && EntryKey.le key id.entryKey)

/-- What an id that covers the entry leaves of its positions. -/
def leaves (id : MessageId) (positions : Finset Nat) : Finset Nat :=
  if id.entryKey = key ∧ 0 ≤ id.batchIndex then
    match ackType with
    | .individual => positions.erase id.batchIndex.toNat
    | .cumulative => positions.filter fun position : Nat => id.batchIndex < position
  else ∅

namespace EntryAccount

def positions : EntryAccount → Finset Nat
  | .owing _ positions => positions
  | _ => ∅

def afterId (ackType : AckType) (key : EntryKey) (account : EntryAccount) (id : MessageId) :
    EntryAccount :=
  match account with
  | .owing numInBatch positions =>
    if covers ackType key id then
      if leaves ackType key id positions = ∅ then .settled
      else .owing numInBatch (leaves ackType key id positions)
    else .owing numInBatch positions
  | account => account

variable (account : EntryAccount)

def afterDispatch (numInBatch : Int) (ackSet : List Int64) : EntryAccount :=
  match account with
  | .undispatched => .owing numInBatch (listedPositions numInBatch ackSet)
  | .owing size positions => .owing size (positions ∩ listedPositions numInBatch ackSet)
  | .settled => .settled

def after (key : EntryKey) (account : EntryAccount) : TableOp → EntryAccount
  | .dispatched dispatchedKey numInBatch ackSet =>
    if dispatchedKey = key then account.afterDispatch numInBatch ackSet else account
  | .acked request _ => request.messageIds.foldl (afterId request.ackType key) account

/-- A position of the entry is acknowledged while the entry is owing; the whole of it cumulatively
or once it is settled, and with no bit set of the caller's. -/
def SafeId (ackType : AckType) (key : EntryKey) (account : EntryAccount) (id : MessageId)
    (data : MessageIdData) : Prop :=
  id.entryKey = key →
    if 0 ≤ id.batchIndex then account ≠ .undispatched ∧ account ≠ .settled
    else data.ackSet = [] ∧ (ackType = .cumulative ∨ account = .settled)

instance (ackType : AckType) (key : EntryKey) (account : EntryAccount) (id : MessageId)
    (data : MessageIdData) : Decidable (SafeId ackType key account id data) :=
  inferInstanceAs (Decidable (_ → _))

/-- A dispatch of the entry keeps its size and comes before it is settled. -/
def SafeDispatch (numInBatch : Int) : Prop :=
  match account with
  | .undispatched => True
  | .owing size _ => size = numInBatch
  | .settled => False

instance (numInBatch : Int) : Decidable (SafeDispatch account numInBatch) :=
  match account with
  | .undispatched => .isTrue trivial
  | .owing size _ => inferInstanceAs (Decidable (size = numInBatch))
  | .settled => .isFalse id

end EntryAccount

/-- The bit set lists exactly these positions, and is left out exactly when there are none. -/
def Tells (positions : Finset Nat) (ackSet : List Int64) : Prop :=
  (ackSet = [] ↔ positions = ∅) ∧
    ∀ position, testPosition (ackSet.map Int64.toBitVec) position = true ↔ position ∈ positions

/-- Each id of the entry goes out with the positions that are owed after it. -/
def TruthfulIds (ackType : AckType) (key : EntryKey) :
    EntryAccount → List (MessageId × MessageIdData) → Prop
  | _, [] => True
  | account, (id, sent) :: rest =>
    (id.entryKey = key → Tells (account.afterId ackType key id).positions sent.ackSet) ∧
      TruthfulIds ackType key (account.afterId ackType key id) rest

def SafeIds (ackType : AckType) (key : EntryKey) :
    EntryAccount → List (MessageId × MessageIdData) → Prop
  | _, [] => True
  | account, (id, data) :: rest =>
    account.SafeId ackType key id data ∧ SafeIds ackType key (account.afterId ackType key id) rest

instance SafeIds.decidable (ackType : AckType) (key : EntryKey) :
    ∀ (account : EntryAccount) (pairs : List (MessageId × MessageIdData)),
      Decidable (SafeIds ackType key account pairs)
  | _, [] => .isTrue trivial
  | account, (id, _) :: rest =>
    @instDecidableAnd _ _ inferInstance
      (SafeIds.decidable ackType key (account.afterId ackType key id) rest)

/-- The table with the account of the entry beside it. -/
abbrev Accounted := BatchAckTable × EntryAccount

variable (state : Accounted)

def accountStep (op : TableOp) : Accounted :=
  (tableStep state.1 op, state.2.after key op)

/-- A safe dispatch, or safe ids, of which there is one when the acknowledgement is cumulative. -/
def Safe : TableOp → Prop
  | .dispatched dispatchedKey numInBatch _ =>
    dispatchedKey = key → state.2.SafeDispatch numInBatch
  | .acked request messageIdData =>
    (request.ackType = .cumulative → request.messageIds.length ≤ 1) ∧
      SafeIds request.ackType key state.2
        (request.messageIds.zip (plainAckMessageIds request messageIdData))

instance Safe.decidable :
    ∀ op : TableOp, Decidable (Safe key state op)
  | .dispatched _ _ _ => inferInstanceAs (Decidable (_ → EntryAccount.SafeDispatch _ _))
  | .acked _ _ => inferInstanceAs (Decidable ((_ → _ ≤ 1) ∧ SafeIds _ _ _ _))

/-- Every command of the change tells the truth about the entry. -/
def Truthful : TableOp → Prop
  | .dispatched .. => True
  | .acked request messageIdData =>
    TruthfulIds request.ackType key state.2
      (request.messageIds.zip (applyBatchAckState state.1 request messageIdData).2)

/-! ### One entry of the table -/

/-- The entry of the table lists exactly the positions. -/
structure Lists (numInBatch : Int) (positions : Finset Nat) (entry : BatchAckEntry) : Prop where
  size : entry.batchSize = numInBatch
  formed : entry.WellFormed
  bits : ∀ position, testPosition entry.unacked position = true ↔ position ∈ positions

/-- The table holds the entry exactly while it is owing, with exactly what it owes. -/
def Holds : EntryAccount → Option BatchAckEntry → Prop
  | .owing numInBatch positions, found =>
    ∃ entry, found = some entry ∧ Lists numInBatch positions entry
  | _, found => found = none

theorem Lists.of_delivered (numInBatch : Int) (ackSet : List Int64) :
    Lists numInBatch (listedPositions numInBatch ackSet)
      (fromDeliveredAckSet numInBatch ackSet) := by
  refine ⟨rfl, .of_delivered numInBatch ackSet, ?_⟩
  intro position
  rw [← isUnacked_natCast, isUnacked_fromDeliveredAckSet]
  simp [listedPositions]

variable {size : Int} {positions : Finset Nat} {entry : BatchAckEntry}

variable (ackType : AckType)

section

variable (lists : Lists size positions entry)

include lists

theorem Lists.intersect (ackSet : List Int64) :
    Lists size (positions ∩ listedPositions size ackSet)
      (entry.intersectDelivered (fromDeliveredAckSet size ackSet)) := by
  obtain ⟨rfl, formed, bits⟩ := lists
  have delivered := Lists.of_delivered entry.batchSize ackSet
  refine ⟨rfl, formed.intersectDelivered _, ?_⟩
  intro position
  rw [testPosition_intersectDelivered (delivered.formed.length.trans formed.length.symm),
    Bool.and_eq_true, bits, delivered.bits, Finset.mem_inter]

theorem Lists.isFullyAcked : entry.isFullyAcked = true ↔ positions = ∅ := by
  rw [isFullyAcked_iff, Finset.eq_empty_iff_forall_notMem]
  simp only [← lists.bits, Bool.not_eq_true]

theorem Lists.tells (owes : positions.Nonempty) : Tells positions entry.ackSetI64 := by
  refine ⟨⟨?_, ?_⟩, ?_⟩
  · intro none
    obtain ⟨position, inside⟩ := owes
    have listed := (lists.bits position).mpr inside
    rw [← testPosition_ackSetI64, none] at listed
    cases listed
  · intro empty
    exact absurd empty owes.ne_empty
  · intro position
    rw [testPosition_ackSetI64]
    exact lists.bits position

theorem Lists.clear {index : Int} (positive : 0 ≤ index) :
    Lists size (positions.erase index.toNat) (entry.clear index) := by
  refine ⟨(batchSize_clear _ _).trans lists.size, lists.formed.clear positive, ?_⟩
  intro position
  rw [testPosition_clear lists.formed.bounded positive, Bool.and_eq_true, lists.bits,
    Finset.mem_erase, decide_eq_true_eq]
  have same : (position : Int) ≠ index ↔ position ≠ index.toNat := by omega
  rw [same, and_comm]

theorem Lists.clearThrough (index : Int) :
    Lists size (positions.filter fun position : Nat => index < position)
      (entry.clearBefore (index + 1)) := by
  obtain ⟨_, sameSize, _, cleared⟩ := clear_range lists.formed.bounded
    (min (index + 1) entry.batchSize).toNat
  refine ⟨sameSize.trans lists.size, lists.formed.clearBefore _, ?_⟩
  intro position
  have below : testPosition entry.unacked position = true → (position : Int) < entry.batchSize :=
    lists.formed.bounded position
  rw [clearBefore, cleared, Bool.and_eq_true, Finset.mem_filter, ← lists.bits,
    decide_eq_true_eq]
  constructor
  · rintro ⟨listed, past⟩
    have inside := below listed
    exact ⟨listed, by omega⟩
  · rintro ⟨listed, past⟩
    exact ⟨listed, by omega⟩

/-- Acknowledging a position leaves what the account says, and reports whether nothing is left. -/
theorem Lists.ackIn {id : MessageId} (positive : 0 ≤ id.batchIndex) :
    Lists size (leaves ackType id.entryKey id positions)
        (Consumer.ackIn ackType entry id.batchIndex).1 ∧
      ((Consumer.ackIn ackType entry id.batchIndex).2 = true ↔
        leaves ackType id.entryKey id positions = ∅) := by
  unfold leaves
  rw [if_pos ⟨rfl, positive⟩]
  cases ackType with
  | individual =>
    have cleared := lists.clear positive
    exact ⟨cleared, cleared.isFullyAcked⟩
  | cumulative =>
    have cleared := lists.clearThrough id.batchIndex
    exact ⟨cleared, cleared.isFullyAcked⟩

end

/-! ### One id -/

variable {tracker : BatchAckTable} {key : EntryKey} {id : MessageId} {data : MessageIdData}
  {account : EntryAccount}

theorem tells_nothing : Tells ∅ [] :=
  ⟨⟨fun _ => rfl, fun _ => rfl⟩, by simp [testPosition]⟩

theorem lookup_ackMessageId_ne (differs : id.entryKey ≠ key) :
    (ackMessageId ackType tracker id data).1.lookup key = tracker.lookup key := by
  have other : key ≠ id.entryKey := Ne.symm differs
  have seeded : (reseed tracker id.entryKey data).lookup key = tracker.lookup key := by
    unfold reseed
    repeat' split
    · exact AList.lookup_insert_ne other
    all_goals rfl
  unfold ackMessageId
  split
  · rfl
  · dsimp only
    split
    · exact seeded
    · split
      · exact (AList.lookup_erase_ne other).trans seeded
      · exact (AList.lookup_insert_ne other).trans seeded

/-- A position of a held entry is cleared; the entry goes with its last position, and the id goes
out with the others. -/
theorem ackMessageId_own (holds : Holds account (tracker.lookup key))
    (own : id.entryKey = key) (positive : 0 ≤ id.batchIndex) (data : MessageIdData)
    (owing : account ≠ .undispatched ∧ account ≠ .settled) :
    Holds (account.afterId ackType key id)
        ((ackMessageId ackType tracker id data).1.lookup key) ∧
      Tells (account.afterId ackType key id).positions
        (ackMessageId ackType tracker id data).2.ackSet := by
  subst own
  cases account with
  | undispatched => exact absurd rfl owing.1
  | settled => exact absurd rfl owing.2
  | owing _ positions =>
    obtain ⟨entry, found, lists⟩ := holds
    obtain ⟨left, empty⟩ := lists.ackIn ackType positive
    have kept : reseed tracker id.entryKey data = tracker := by simp [reseed, found]
    have covered : covers ackType id.entryKey id = true := by simp [covers]
    rw [ackMessageId, if_neg (by omega), EntryAccount.afterId]
    simp only [kept, found, covered, if_true]
    rcases acked : ackIn ackType entry id.batchIndex with ⟨rest, fully⟩
    rw [acked] at left empty
    cases fully with
    | true =>
      rw [AList.lookup_erase, if_pos (empty.mp rfl)]
      exact ⟨rfl, tells_nothing⟩
    | false =>
      have some : ¬ leaves ackType id.entryKey id positions = ∅ := by
        intro none
        cases empty.mpr none
      rw [AList.lookup_insert, if_neg some]
      exact ⟨⟨rest, rfl, left⟩, left.tells (Finset.nonempty_iff_ne_empty.mpr some)⟩

/-! ### One request -/

theorem afterId_individual_ne (differs : id.entryKey ≠ key) (account : EntryAccount) :
    account.afterId .individual key id = account := by
  cases account with
  | owing => simp [EntryAccount.afterId, covers, differs]
  | _ => rfl

/-- The walk over the ids of an individual acknowledgement. -/
theorem ackMessageIds_individual {pairs : List (MessageId × MessageIdData)}
    (holds : Holds account (tracker.lookup key)) (safe : SafeIds .individual key account pairs) :
    Holds ((pairs.map Prod.fst).foldl (EntryAccount.afterId .individual key) account)
        ((ackMessageIds .individual tracker pairs).1.lookup key) ∧
      TruthfulIds .individual key account
        ((pairs.map Prod.fst).zip (ackMessageIds .individual tracker pairs).2) := by
  induction pairs generalizing tracker account with
  | nil => exact ⟨holds, trivial⟩
  | cons pair _ ih =>
    obtain ⟨id, data⟩ := pair
    obtain ⟨here, later⟩ := safe
    have step : Holds (account.afterId .individual key id)
          ((ackMessageId .individual tracker id data).1.lookup key) ∧
        (id.entryKey = key → Tells (account.afterId .individual key id).positions
          (ackMessageId .individual tracker id data).2.ackSet) := by
      by_cases own : id.entryKey = key
      · have safe := here own
        by_cases positive : 0 ≤ id.batchIndex
        · rw [if_pos positive] at safe
          have acked := ackMessageId_own .individual holds own positive data safe
          exact ⟨acked.1, fun _ => acked.2⟩
        · rw [if_neg positive] at safe
          obtain ⟨bare, cumulative | rfl⟩ := safe
          · cases cumulative
          · rw [ackMessageId, if_pos (by omega)]
            exact ⟨holds, fun _ => bare ▸ tells_nothing⟩
      · rw [afterId_individual_ne own, lookup_ackMessageId_ne .individual own]
        exact ⟨holds, fun equal => absurd equal own⟩
    obtain ⟨held, truthful⟩ := ih step.1 later
    exact ⟨held, step.2, truthful⟩

theorem EntryKey.le_of_not_le {left right : EntryKey} (above : le left right = false) :
    le right left = true := by
  simp only [le, Bool.or_eq_false_iff, Bool.and_eq_false_iff, decide_eq_false_iff_not,
    beq_eq_false_iff_ne, Bool.or_eq_true, Bool.and_eq_true, decide_eq_true_eq, beq_iff_eq] at above ⊢
  omega

theorem EntryKey.eq_of_le_of_le {left right : EntryKey} (below : le left right = true)
    (above : le right left = true) : left = right := by
  simp only [le, Bool.or_eq_true, Bool.and_eq_true, decide_eq_true_eq, beq_iff_eq]
    at below above
  exact Prod.ext (by omega) (by omega)

/-- What pruning to one id leaves of an entry. -/
theorem lookup_pruneToHorizon (tracker : BatchAckTable) (id : MessageId) (key : EntryKey) :
    (pruneToHorizon tracker [id]).lookup key =
      if id.entryKey = key ∧ 0 ≤ id.batchIndex then tracker.lookup key
      else if covers .cumulative key id then none else tracker.lookup key := by
  have horizon : MessageId.greatest [id] = some id := rfl
  have named : ([id].any fun other =>
      decide (other.entryKey = id.entryKey) && decide (other.batchIndex ≥ 0)) =
      decide (id.batchIndex ≥ 0) := by
    simp
  have reflexive : le id.entryKey id.entryKey = true := by simp [le]
  unfold pruneToHorizon
  rw [horizon]
  dsimp only
  rw [named]
  by_cases own : id.entryKey = key
  · subst own
    have covered : covers .cumulative id.entryKey id = true := by simp [covers]
    by_cases positive : 0 ≤ id.batchIndex
    · rw [if_pos (by simpa using positive), Table.lookup_retain, if_pos reflexive,
        if_pos ⟨rfl, positive⟩]
    · have whole : ¬ (id.entryKey = id.entryKey ∧ 0 ≤ id.batchIndex) := fun both => positive both.2
      rw [if_neg (by simpa using positive), AList.lookup_erase, if_neg whole, if_pos covered]
  · have covered : covers .cumulative key id = le key id.entryKey := by
      simp [covers, own]
    have kept : (Table.retain tracker fun key => le id.entryKey key).lookup key =
        if le key id.entryKey then none else tracker.lookup key := by
      rw [Table.lookup_retain]
      cases above : le id.entryKey key with
      | true =>
        have outside : ¬ le key id.entryKey = true := fun below =>
          own (eq_of_le_of_le above below)
        rw [if_pos rfl, if_neg outside]
      | false => rw [if_neg Bool.false_ne_true, if_pos (le_of_not_le above)]
    have apart : ¬ (id.entryKey = key ∧ 0 ≤ id.batchIndex) := fun both => own both.1
    rw [if_neg apart, covered, ← kept]
    split
    · rfl
    · exact AList.lookup_erase_ne (Ne.symm own)

section

variable (holds : Holds account (tracker.lookup key))

include holds

/-- What an id acknowledged cumulatively leaves when it names no position of the entry. -/
theorem holds_afterId_whole (whole : ¬ (id.entryKey = key ∧ 0 ≤ id.batchIndex)) :
    Holds (account.afterId .cumulative key id)
      (if covers .cumulative key id then none else tracker.lookup key) := by
  cases account with
  | undispatched | settled =>
    rw [show tracker.lookup key = none from holds, ite_self]
    rfl
  | owing _ positions =>
    have nothing : leaves .cumulative key id positions = ∅ := if_neg whole
    rw [EntryAccount.afterId, if_pos nothing]
    split
    · rfl
    · exact holds

theorem ackCumulative_one (safe : account.SafeId .cumulative key id data) :
    Holds (account.afterId .cumulative key id)
        ((pruneToHorizon (ackMessageId .cumulative tracker id data).1 [id]).lookup key) ∧
      (id.entryKey = key → Tells (account.afterId .cumulative key id).positions
        (ackMessageId .cumulative tracker id data).2.ackSet) := by
  rw [lookup_pruneToHorizon]
  by_cases named : id.entryKey = key ∧ 0 ≤ id.batchIndex
  · have here := safe named.1
    rw [if_pos named.2] at here
    rw [if_pos named]
    have acked := ackMessageId_own .cumulative holds named.1 named.2 data here
    exact ⟨acked.1, fun _ => acked.2⟩
  · have same : (ackMessageId .cumulative tracker id data).1.lookup key = tracker.lookup key := by
      by_cases own : id.entryKey = key
      · have whole : id.batchIndex < 0 := by
          have negative : ¬ 0 ≤ id.batchIndex := fun positive => named ⟨own, positive⟩
          omega
        rw [ackMessageId, if_pos whole]
      · exact lookup_ackMessageId_ne .cumulative own
    rw [if_neg named, same]
    have held := holds_afterId_whole holds named
    refine ⟨held, ?_⟩
    intro own
    have negative : ¬ 0 ≤ id.batchIndex := fun positive => named ⟨own, positive⟩
    have here := safe own
    rw [if_neg negative] at here
    have nothing : (account.afterId .cumulative key id).positions = ∅ := by
      cases account with
      | owing _ positions =>
        have covered : covers .cumulative key id = true := by simp [covers, own]
        have none : leaves .cumulative key id positions = ∅ := if_neg named
        rw [EntryAccount.afterId, if_pos covered, if_pos none]
        rfl
      | _ => rfl
    rw [nothing, ackMessageId, if_pos (by omega)]
    exact here.1 ▸ tells_nothing

theorem applyBatchAckState_holds {request : AckRequest}
    {messageIdData : Option (List MessageIdData)}
    (one : request.ackType = .cumulative → request.messageIds.length ≤ 1)
    (safe : SafeIds request.ackType key account
      (request.messageIds.zip (plainAckMessageIds request messageIdData))) :
    Holds (request.messageIds.foldl (EntryAccount.afterId request.ackType key) account)
        ((applyBatchAckState tracker request messageIdData).1.lookup key) ∧
      TruthfulIds request.ackType key account
        (request.messageIds.zip (applyBatchAckState tracker request messageIdData).2) := by
  obtain ⟨messageIds, ackType, properties, txnId⟩ := request
  have paired : ((messageIds.zip (plainAckMessageIds
      { messageIds, ackType, properties, txnId } messageIdData)).map Prod.fst) = messageIds :=
    List.map_fst_zip (by simp [plainAckMessageIds])
  cases ackType with
  | individual =>
    have walked := ackMessageIds_individual holds safe
    rw [paired] at walked
    exact walked
  | cumulative =>
    match messageIds, one rfl with
    | [], _ => exact ⟨holds, trivial⟩
    | [id], _ =>
      have acked := ackCumulative_one holds safe.1
      exact ⟨acked.1, acked.2, trivial⟩

end

/-! ### Dispatches -/

theorem lookup_trackDelivered_ne (tracker : BatchAckTable) {other : EntryKey}
    (differs : other ≠ key) (delivered : BatchAckEntry) :
    (trackDelivered tracker other delivered).lookup key = tracker.lookup key := by
  unfold trackDelivered
  split <;> exact AList.lookup_insert_ne (Ne.symm differs)

theorem trackDelivered_holds {numInBatch : Int} {ackSet : List Int64}
    (holds : Holds account (tracker.lookup key)) (safe : account.SafeDispatch numInBatch) :
    Holds (account.afterDispatch numInBatch ackSet)
      ((trackDelivered tracker key
        (fromDeliveredAckSet numInBatch ackSet)).lookup key) := by
  rw [trackDelivered]
  cases account with
  | undispatched =>
    rw [show tracker.lookup key = none from holds]
    rw [AList.lookup_insert]
    exact ⟨_, rfl, Lists.of_delivered numInBatch ackSet⟩
  | owing size =>
    obtain ⟨entry, found, lists⟩ := holds
    obtain rfl : size = numInBatch := safe
    rw [found]
    rw [AList.lookup_insert]
    exact ⟨_, rfl, lists.intersect ackSet⟩
  | settled => cases safe

/-! ### Runs -/

variable {state : Accounted}

/-- A safe change keeps the table in agreement with the account, and what it sends is true. -/
theorem accountStep_holds (holds : Holds state.2 (state.1.lookup key))
    {op : TableOp} (safe : Safe key state op) :
    Holds (accountStep key state op).2 ((accountStep key state op).1.lookup key) ∧
      Truthful key state op := by
  cases op with
  | dispatched dispatchedKey =>
    refine ⟨?_, trivial⟩
    rw [accountStep, EntryAccount.after, tableStep]
    by_cases own : dispatchedKey = key
    · subst own
      rw [if_pos rfl]
      exact trackDelivered_holds holds (safe rfl)
    · rw [if_neg own, lookup_trackDelivered_ne state.1 own]
      exact holds
  | acked => exact applyBatchAckState_holds holds safe.1 safe.2

/-- Along a run of safe changes the table agrees with the account, and every command is true. -/
theorem run_truthful (holds : Holds state.2 (state.1.lookup key))
    {ops : List TableOp} (safe : Guarded (accountStep key) (Safe key) state ops) :
    Holds (run (accountStep key) state ops).2 ((run (accountStep key) state ops).1.lookup key) ∧
      Guarded (accountStep key) (Truthful key) state ops := by
  induction ops generalizing state with
  | nil => exact ⟨holds, trivial⟩
  | cons _ _ ih =>
    obtain ⟨here, later⟩ := safe
    have step := accountStep_holds holds here
    obtain ⟨kept, truthful⟩ := ih step.1 later
    exact ⟨kept, step.2, truthful⟩

variable (key account state)

theorem fst_run_accountStep (ops : List TableOp) :
    (run (accountStep key) state ops).1 = run tableStep state.1 ops := by
  induction ops generalizing state with
  | nil => rfl
  | cons op _ ih => exact ih (accountStep key state op)

/-! ### What goes out comes back -/

section

variable {tracker : BatchAckTable} (formed : Table.Every tracker WellFormed)

include formed

theorem ackMessageId_wellFormed (id : MessageId) (data : MessageIdData) :
    Table.Every (ackMessageId ackType tracker id data).1 WellFormed := by
  have seeded : Table.Every (reseed tracker id.entryKey data) WellFormed := by
    unfold reseed
    repeat' split
    · exact formed.insert _ (.of_ackSet _ _)
    all_goals exact formed
  unfold ackMessageId
  split
  · exact formed
  · rename_i positive
    dsimp only
    split
    · exact seeded
    · rename_i entry found
      have acked : (ackIn ackType entry id.batchIndex).1.WellFormed := by
        have tracked := seeded _ _ found
        cases ackType with
        | individual => exact tracked.clear (by omega)
        | cumulative => exact tracked.clearBefore _
      split
      · exact seeded.erase _
      · rename_i left result
        rw [result] at acked
        exact seeded.insert _ acked

theorem ackMessageIds_wellFormed (pairs : List (MessageId × MessageIdData)) :
    Table.Every (ackMessageIds ackType tracker pairs).1 WellFormed := by
  induction pairs generalizing tracker with
  | nil => exact formed
  | cons pair _ ih => exact ih (ackMessageId_wellFormed ackType formed pair.1 pair.2)

theorem pruneToHorizon_wellFormed (ids : List MessageId) :
    Table.Every (pruneToHorizon tracker ids) WellFormed := by
  unfold pruneToHorizon
  split
  · exact formed
  · dsimp only
    split
    · exact formed.retain _
    · exact (formed.retain _).erase _

theorem tableStep_wellFormed (op : TableOp) : Table.Every (tableStep tracker op) WellFormed := by
  cases op with
  | dispatched key numInBatch ackSet =>
    rw [tableStep, trackDelivered]
    split
    · rename_i existing found
      exact formed.insert _ ((formed _ _ found).intersectDelivered _)
    · exact formed.insert _ (.of_delivered numInBatch ackSet)
  | acked request messageIdData =>
    have walked := ackMessageIds_wellFormed request.ackType formed
      (request.messageIds.zip (plainAckMessageIds request messageIdData))
    rw [tableStep, applyBatchAckState]
    dsimp only
    split
    · exact walked
    · exact pruneToHorizon_wellFormed walked request.messageIds

theorem run_tableStep_wellFormed (ops : List TableOp) :
    Table.Every (run tableStep tracker ops) WellFormed := by
  induction ops generalizing tracker with
  | nil => exact formed
  | cons op _ ih => exact ih (tableStep_wellFormed formed op)

end

/-- The `ack_set` of a tracked entry, come back with a redelivery, lists what the entry lists. -/
theorem ack_set_reads_back (ops : List TableOp) (key : EntryKey) (entry : BatchAckEntry)
    (tracked : (run tableStep ∅ ops).lookup key = some entry) (position : Nat) :
    (fromDeliveredAckSet entry.batchSize entry.ackSetI64).isUnacked position =
      entry.isUnacked position := by
  have empty : Table.Every (∅ : BatchAckTable) WellFormed := by
    rintro _ _ ⟨⟩
  exact (run_tableStep_wellFormed empty ops key entry tracked).delivered_back position

/-- Acknowledged before its dispatch, and dispatched with another size, the entry keeps one of the
three positions that the acknowledgement's bit set lists. -/
theorem ack_set_reads_back_partial : (fromDeliveredAckSet 4 [4]).isUnacked 2 = true :=
  ack_set_reads_back
    [.acked { messageIds := [⟨1, 1, -1, 1, 4⟩], ackType := .individual }
        (some [{ ledgerId := 1, entryId := 1, batchSize := some 4, ackSet := [14] }]),
      .dispatched (1, 1) 3 []]
    (1, 1) ⟨4, [4]⟩ (by decide +kernel) 2

/-! ### What is owed only shrinks -/

theorem leaves_subset (id : MessageId) (positions : Finset Nat) :
    leaves ackType key id positions ⊆ positions := by
  unfold leaves
  split
  · cases ackType with
    | individual => exact Finset.erase_subset _ _
    | cumulative => exact Finset.filter_subset _ _
  · exact Finset.empty_subset _

theorem positions_afterId_subset (id : MessageId) :
    (account.afterId ackType key id).positions ⊆ account.positions := by
  cases account with
  | owing _ positions =>
    rw [EntryAccount.afterId]
    split
    · split
      · exact Finset.empty_subset _
      · exact leaves_subset ackType key id positions
    · exact Finset.Subset.refl _
  | _ => exact Finset.Subset.refl _

theorem positions_foldl_afterId_subset (ids : List MessageId) (account : EntryAccount) :
    (ids.foldl (EntryAccount.afterId ackType key) account).positions ⊆ account.positions := by
  induction ids generalizing account with
  | nil => exact Finset.Subset.refl _
  | cons id _ ih =>
    exact (ih _).trans (positions_afterId_subset ackType key account id)

theorem foldl_afterId_ne_undispatched (ids : List MessageId) {account : EntryAccount}
    (dispatched : account ≠ .undispatched) :
    ids.foldl (EntryAccount.afterId ackType key) account ≠ .undispatched := by
  induction ids generalizing account with
  | nil => exact dispatched
  | cons _ _ ih =>
    apply ih
    cases account with
    | undispatched => exact absurd rfl dispatched
    | settled => exact dispatched
    | owing =>
      rw [EntryAccount.afterId]
      repeat' split
      all_goals rintro ⟨⟩

variable {key account state}

/-- Once an entry is dispatched, no change adds a position to what it owes. -/
theorem run_positions_subset (key : EntryKey)
    (dispatched : state.2 ≠ .undispatched) (ops : List TableOp) :
    (run (accountStep key) state ops).2.positions ⊆ state.2.positions := by
  induction ops generalizing state with
  | nil => exact Finset.Subset.refl _
  | cons op _ ih =>
    have step : (accountStep key state op).2 ≠ .undispatched ∧
        (accountStep key state op).2.positions ⊆ state.2.positions := by
      obtain ⟨tracker, account⟩ := state
      cases op with
      | dispatched =>
        rw [accountStep, EntryAccount.after]
        split
        · cases account with
          | undispatched => exact absurd rfl dispatched
          | settled => exact ⟨dispatched, Finset.Subset.refl _⟩
          | owing => exact ⟨by rintro ⟨⟩, Finset.inter_subset_left⟩
        · exact ⟨dispatched, Finset.Subset.refl _⟩
      | acked =>
        exact ⟨foldl_afterId_ne_undispatched _ _ _ dispatched,
          positions_foldl_afterId_subset _ _ _ _⟩
    exact (ih step.1).trans step.2

end Magnetar.Proto.Consumer
