import Mathlib.Data.List.Perm.Basic
import Magnetar.Proto.Producer.Slot

/-!
Contract: the pending sends of a producer and the index beside them.

Owns: that the index knows exactly the pending sends, what each call of `producer.rs` takes out of
both, and the fan-out of a receipt over its range.

Does not own: the frames of the sends, and their outcomes.
-/

namespace Magnetar.Proto.Producer

open Library Pb

variable {receipt : CommandSendReceipt} {seqs : List Nat} {seq : Nat} {op : OpSend}
  {after producer : ProducerState}

/-! ### Lists of distinctly keyed records -/

section Keyed

variable {α : Type*} {key : α → Nat}

theorem eraseP_eq_filter_of_nodup {records : List α} (distinct : (records.map key).Nodup)
    (wanted : Nat) :
    records.eraseP (fun record => key record == wanted) =
      records.filter fun record => key record != wanted := by
  induction records with
  | nil => rfl
  | cons first rest ih =>
    rw [List.map_cons, List.nodup_cons] at distinct
    by_cases found : key first = wanted
    · subst found
      have others : rest.filter (fun record => key record != key first) = rest := by
        rw [List.filter_eq_self]
        intro record member
        rw [bne_iff_ne]
        intro same
        exact distinct.1 (same ▸ List.mem_map_of_mem member)
      simp [others]
    · rw [List.eraseP_cons_of_neg (by simpa using found), ih distinct.2,
        List.filter_cons_of_pos (by simpa using found)]

theorem eraseIdx_eq_filter_of_nodup {records : List α} (distinct : (records.map key).Nodup)
    {wanted position : Nat}
    (found : records.findIdx? (fun record => key record == wanted) = some position) :
    records.eraseIdx position = records.filter fun record => key record != wanted := by
  rw [← eraseP_eq_filter_of_nodup distinct, List.eraseP_eq_eraseIdx, found]

theorem find?_filter_ne {records : List α} {removed wanted : Nat} (differs : wanted ≠ removed) :
    (records.filter fun record => key record != removed).find? (fun record => key record == wanted) =
      records.find? fun record => key record == wanted := by
  rw [List.find?_filter]
  congr 1
  funext record
  by_cases same : key record = wanted
  · simp [same, differs]
  · simp [same]

end Keyed

variable {resolved : List (OpSend × MessageId)} {err : CommandSendError}

namespace ProducerState

def pendingIds (producer : ProducerState) : List Nat :=
  producer.pending.map (·.sequenceId)

def findPending (producer : ProducerState) (seq : Nat) : Option OpSend :=
  producer.pending.find? fun op => op.sequenceId == seq

/-- The index knows exactly the pending sends, and no two of them share an id. -/
structure Indexed (producer : ProducerState) : Prop where
  distinct : producer.pendingIds.Nodup
  keyed : ∀ seq, seq ∈ producer.pendingIndex ↔ seq ∈ producer.pendingIds

theorem findPending_eq_none_iff (producer : ProducerState) (seq : Nat) :
    producer.findPending seq = none ↔ seq ∉ producer.pendingIds := by
  simp [findPending, pendingIds, List.find?_eq_none]

theorem findPending_mem (found : producer.findPending seq = some op) :
    op ∈ producer.pending ∧ op.sequenceId = seq := by
  refine ⟨List.mem_of_find?_eq_some found, ?_⟩
  simpa using List.find?_some found

/-! ### What a call takes away -/

/-- A call that only takes pending sends away. -/
structure Shrinks (before after : ProducerState) : Prop where
  pending : after.pending.Sublist before.pending
  rest : ∃ index published, after =
    { before with
      pending := after.pending
      pendingIndex := index
      lastSequenceIdPublished := published }

theorem Shrinks.refl (producer : ProducerState) : Shrinks producer producer :=
  ⟨List.Sublist.refl _, _, _, rfl⟩

theorem Shrinks.trans {first second third : ProducerState} (one : Shrinks first second)
    (two : Shrinks second third) : Shrinks first third := by
  obtain ⟨fewer, index, published, same⟩ := one
  obtain ⟨fewer', index', published', same'⟩ := two
  refine ⟨fewer'.trans fewer, index', published', ?_⟩
  rw [same', same]

section

variable (producer : ProducerState)

theorem removePending_shrinks (seq : Nat) : Shrinks producer (producer.removePending seq).2 := by
  unfold removePending
  split
  · exact .refl producer
  · dsimp only
    split
    · exact ⟨List.Sublist.refl _, _, _, rfl⟩
    · exact ⟨List.eraseIdx_sublist _ _, _, _, rfl⟩

theorem applyReceipt_shrinks (receipt : CommandSendReceipt) :
    Shrinks producer (producer.applyReceipt receipt).2 := by
  have removed := removePending_shrinks producer receipt.sequenceId
  unfold applyReceipt
  split
  case h_1 producer' found =>
    rw [found] at removed
    exact removed
  case h_2 op producer' found =>
    rw [found] at removed
    exact removed.trans ⟨List.Sublist.refl _, _, _, rfl⟩

/-- By induction over the range of the receipt. -/
theorem handleSendReceipt_shrinks (receipt : CommandSendReceipt) :
    Shrinks producer (producer.handleSendReceipt receipt).2 := by
  unfold handleSendReceipt
  generalize ([] : List (OpSend × MessageId)) = resolved
  induction receiptRange receipt generalizing producer resolved with
  | nil => exact .refl producer
  | cons _ _ ih =>
    rw [List.foldl_cons]
    exact (applyReceipt_shrinks producer _).trans (ih _ _)

theorem applySendError_shrinks (err : CommandSendError) :
    Shrinks producer (producer.applySendError err).2 := by
  have removed := removePending_shrinks producer err.sequenceId
  unfold applySendError
  split
  case h_1 producer' found =>
    rw [found] at removed
    exact removed
  case h_2 op producer' found =>
    rw [found] at removed
    exact removed

theorem drainTimedOutSends_shrinks (now : Nat) :
    Shrinks producer (producer.drainTimedOutSends now).2 := by
  unfold drainTimedOutSends
  split
  · exact .refl producer
  · exact ⟨List.drop_sublist _ _, _, _, rfl⟩

/-! ### Taking one send out -/

theorem mem_shiftPendingIndexLeft (removedPosition seq : Nat) :
    seq ∈ (producer.shiftPendingIndexLeft removedPosition).pendingIndex ↔
      seq ∈ producer.pendingIndex := by
  rw [← AList.lookup_isSome, shiftPendingIndexLeft, Table.lookup_mapValues, Option.isSome_map,
    AList.lookup_isSome]

end

theorem Indexed.remove (indexed : producer.Indexed)
    (pending : after.pending = producer.pending.filter fun op => op.sequenceId != seq)
    (index : ∀ key, key ∈ after.pendingIndex ↔ key ≠ seq ∧ key ∈ producer.pendingIndex) :
    after.Indexed := by
  have ids : after.pendingIds = producer.pendingIds.filter (· != seq) := by
    rw [pendingIds, pending, pendingIds, List.filter_map]
    rfl
  constructor
  · rw [ids]
    exact indexed.distinct.filter _
  · intro key
    rw [index, indexed.keyed, ids, List.mem_filter, bne_iff_ne, and_comm]

theorem removePending_none (indexed : producer.Indexed)
    (absent : producer.findPending seq = none) : producer.removePending seq = (none, producer) := by
  have missing : producer.pendingIndex.lookup seq = none := by
    rw [AList.lookup_eq_none, indexed.keyed]
    exact (findPending_eq_none_iff producer seq).mp absent
  rw [removePending, missing]

theorem removePending_some (indexed : producer.Indexed)
    (found : producer.findPending seq = some op) :
    ∃ index, producer.removePending seq = (some op,
        { producer with
          pending := producer.pending.filter fun op => op.sequenceId != seq
          pendingIndex := index }) ∧
      ∀ key, key ∈ index ↔ key ≠ seq ∧ key ∈ producer.pendingIndex := by
  have known : seq ∈ producer.pendingIndex := by
    rw [indexed.keyed]
    obtain ⟨member, same⟩ := findPending_mem found
    exact same ▸ List.mem_map_of_mem member
  obtain ⟨position, stored⟩ := Option.isSome_iff_exists.mp (AList.lookup_isSome.mpr known)
  rw [findPending, List.find?_eq_bind_findIdx?_getElem?, Option.bind_eq_some_iff] at found
  obtain ⟨place, located, there⟩ := found
  let without : ProducerState := { producer with pendingIndex := producer.pendingIndex.erase seq }
  refine ⟨(without.shiftPendingIndexLeft place).pendingIndex, ?_, ?_⟩
  · simp only [removePending, stored, located, there,
      eraseIdx_eq_filter_of_nodup indexed.distinct located]
    rfl
  · intro key
    rw [mem_shiftPendingIndexLeft, AList.mem_erase]

/-! ### Receipts -/

/-- The message id a receipt gives, or the one that stands for none. -/
def receiptMessageId (receipt : CommandSendReceipt) : MessageId :=
  match receipt.messageId with
  | some id => MessageId.fromPb id
  | none => { ledgerId := 0, entryId := 0, partition := -1, batchIndex := -1, batchSize := 0 }

/-- What a receipt makes of one send it resolves. -/
def acknowledgedBy (receipt : CommandSendReceipt) (op : OpSend) : OpSend × MessageId :=
  ({ op with receipt := some (receiptMessageId receipt) }, receiptMessageId receipt)

theorem applyReceipt_none (indexed : producer.Indexed)
    (absent : producer.findPending receipt.sequenceId = none) :
    producer.applyReceipt receipt = (none, producer) := by
  rw [applyReceipt, removePending_none indexed absent]

theorem applyReceipt_some (indexed : producer.Indexed)
    (found : producer.findPending receipt.sequenceId = some op) :
    ∃ index, producer.applyReceipt receipt = (some (acknowledgedBy receipt op),
        { producer with
          pending := producer.pending.filter fun op => op.sequenceId != receipt.sequenceId
          pendingIndex := index
          lastSequenceIdPublished := asI64 receipt.sequenceId }) ∧
      ∀ key, key ∈ index ↔ key ≠ receipt.sequenceId ∧ key ∈ producer.pendingIndex := by
  obtain ⟨index, removed, keys⟩ := removePending_some indexed found
  refine ⟨index, ?_, keys⟩
  rw [applyReceipt, removed]
  rfl

def pendingAmong (producer : ProducerState) (seqs : List Nat) : List OpSend :=
  seqs.filterMap producer.findPending

/-- The largest acknowledged id, in the order the ids are applied. -/
def publishedAfter (producer : ProducerState) (seqs : List Nat) : Int :=
  (producer.pendingAmong seqs).getLast?.elim producer.lastSequenceIdPublished
    fun op => asI64 op.sequenceId

/-- The state after the receipts of a list of ids. -/
structure Acknowledges (producer : ProducerState) (receipt : CommandSendReceipt) (seqs : List Nat)
    (resolved : List (OpSend × MessageId)) (after : ProducerState) : Prop where
  resolved_eq : resolved = (producer.pendingAmong seqs).map (acknowledgedBy receipt)
  pending_eq : after.pending = producer.pending.filter fun op => !seqs.contains op.sequenceId
  indexed : after.Indexed
  published : after.lastSequenceIdPublished = producer.publishedAfter seqs

theorem pendingAmong_without (outside : seq ∉ seqs)
    (pending : after.pending = producer.pending.filter fun op => op.sequenceId != seq) :
    after.pendingAmong seqs = producer.pendingAmong seqs := by
  apply List.filterMap_congr
  intro wanted member
  rw [findPending, pending, findPending]
  exact find?_filter_ne fun same => outside (same ▸ member)

theorem Acknowledges.skip (acknowledges : producer.Acknowledges receipt seqs resolved after)
    (absent : producer.findPending seq = none) :
    producer.Acknowledges receipt (seq :: seqs) resolved after := by
  have among : producer.pendingAmong (seq :: seqs) = producer.pendingAmong seqs := by
    rw [pendingAmong, List.filterMap_cons_none absent, pendingAmong]
  refine ⟨among ▸ acknowledges.resolved_eq, ?_, acknowledges.indexed, ?_⟩
  · rw [acknowledges.pending_eq]
    apply List.filter_congr
    intro op member
    have differs : op.sequenceId ≠ seq := by
      rintro rfl
      exact (findPending_eq_none_iff producer _).mp absent (List.mem_map_of_mem member)
    simp [differs]
  · rw [acknowledges.published, publishedAfter, publishedAfter, among]

theorem Acknowledges.take {middle : ProducerState}
    (found : producer.findPending seq = some op) (outside : seq ∉ seqs)
    (pending : middle.pending = producer.pending.filter fun op => op.sequenceId != seq)
    (published : middle.lastSequenceIdPublished = asI64 seq)
    (acknowledges : middle.Acknowledges receipt seqs resolved after) :
    producer.Acknowledges receipt (seq :: seqs) (acknowledgedBy receipt op :: resolved) after := by
  have same : op.sequenceId = seq := (findPending_mem found).2
  have among : producer.pendingAmong (seq :: seqs) = op :: middle.pendingAmong seqs := by
    rw [pendingAmong_without outside pending, pendingAmong, List.filterMap_cons_some found,
      pendingAmong]
  refine ⟨by rw [among, acknowledges.resolved_eq, List.map_cons], ?_, acknowledges.indexed, ?_⟩
  · rw [acknowledges.pending_eq, pending, List.filter_filter]
    apply List.filter_congr
    intro other member
    by_cases equal : other.sequenceId = seq <;> simp [equal]
  · rw [acknowledges.published, publishedAfter, publishedAfter, among, List.getLast?_cons,
      published]
    cases (middle.pendingAmong seqs).getLast? with
    | none => simp [same]
    | some => rfl

/-- By induction over the ids, the pending sends and their index shrinking together. -/
theorem foldl_applyReceipt_acknowledges (receipt : CommandSendReceipt)
    (distinct : seqs.Nodup) (indexed : producer.Indexed) (earlier : List (OpSend × MessageId)) :
    ∃ resolved after,
      seqs.foldl (fun (resolved, producer) seq =>
        let (outcome, producer) :=
          applyReceipt producer { receipt with sequenceId := seq, highestSequenceId := none }
        (resolved ++ outcome.toList, producer)) (earlier, producer) = (earlier ++ resolved, after) ∧
      producer.Acknowledges receipt seqs resolved after := by
  induction seqs generalizing producer earlier with
  | nil =>
    exact ⟨[], producer, by simp, rfl, by simp, indexed, rfl⟩
  | cons seq _ ih =>
    rw [List.nodup_cons] at distinct
    rw [List.foldl_cons]
    let synth : CommandSendReceipt :=
      { receipt with sequenceId := seq, highestSequenceId := none }
    cases found : producer.findPending seq with
    | none =>
      have skipped : producer.applyReceipt synth = (none, producer) :=
        applyReceipt_none indexed found
      obtain ⟨resolved, after, folded, acknowledges⟩ :=
        ih distinct.2 indexed earlier
      refine ⟨resolved, after, ?_, acknowledges.skip found⟩
      dsimp only
      rw [skipped]
      simpa using folded
    | some op =>
      obtain ⟨index, taken, keys⟩ : ∃ index, producer.applyReceipt synth = _ ∧ _ :=
        applyReceipt_some indexed found
      let middle : ProducerState :=
        { producer with
          pending := producer.pending.filter fun op => op.sequenceId != seq
          pendingIndex := index
          lastSequenceIdPublished := asI64 seq }
      have takes : producer.applyReceipt synth = (some (acknowledgedBy receipt op), middle) :=
        taken
      have stillIndexed : middle.Indexed := indexed.remove rfl keys
      obtain ⟨resolved, after, folded, acknowledges⟩ :=
        ih distinct.2 stillIndexed (earlier ++ [acknowledgedBy receipt op])
      refine ⟨acknowledgedBy receipt op :: resolved, after, ?_,
        acknowledges.take found distinct.1 rfl rfl⟩
      dsimp only
      rw [takes]
      simpa using folded

def receiptHighest (receipt : CommandSendReceipt) : Nat :=
  let highestRaw := receipt.highestSequenceId.getD 0
  if highestRaw ≥ receipt.sequenceId ∧ highestRaw ≠ 2 ^ 64 - 1 then highestRaw
  else receipt.sequenceId

theorem le_receiptHighest (receipt : CommandSendReceipt) :
    receipt.sequenceId ≤ receiptHighest receipt := by
  unfold receiptHighest
  dsimp only
  split <;> omega

theorem mem_receiptRange {id : Nat} :
    id ∈ receiptRange receipt ↔ receipt.sequenceId ≤ id ∧ id ≤ receiptHighest receipt := by
  have bound := le_receiptHighest receipt
  change id ∈ List.range' _ (receiptHighest receipt + 1 - receipt.sequenceId) ↔ _
  rw [List.mem_range'_1]
  omega

/-- A receipt is applied to its last id last. -/
theorem receiptRange_concat (receipt : CommandSendReceipt) :
    ∃ earlier, receiptRange receipt = earlier ++ [receiptHighest receipt] := by
  have bound := le_receiptHighest receipt
  have count : receiptHighest receipt + 1 - receipt.sequenceId =
      receiptHighest receipt - receipt.sequenceId + 1 := by omega
  have last : receipt.sequenceId + 1 * (receiptHighest receipt - receipt.sequenceId) =
      receiptHighest receipt := by omega
  refine ⟨List.range' receipt.sequenceId (receiptHighest receipt - receipt.sequenceId), ?_⟩
  change List.range' _ (receiptHighest receipt + 1 - receipt.sequenceId) = _
  rw [count, List.range'_concat, last]

theorem receiptRange_nodup (receipt : CommandSendReceipt) : (receiptRange receipt).Nodup :=
  List.nodup_range' 1

section

variable (indexed : producer.Indexed)

include indexed

theorem handleSendReceipt_acknowledges (receipt : CommandSendReceipt) :
    producer.Acknowledges receipt (receiptRange receipt) (producer.handleSendReceipt receipt).1
      (producer.handleSendReceipt receipt).2 := by
  obtain ⟨resolved, after, folded, acknowledges⟩ :=
    foldl_applyReceipt_acknowledges receipt (receiptRange_nodup receipt) indexed []
  rw [handleSendReceipt, folded]
  exact acknowledges

/-- The ids a receipt resolves and the ids it leaves make up the ids there were. -/
theorem pendingAmong_perm (distinct : seqs.Nodup) :
    ((producer.pendingAmong seqs).map (·.sequenceId)).Perm
      (producer.pendingIds.filter fun id => seqs.contains id) := by
  have ids : (producer.pendingAmong seqs).map (·.sequenceId) =
      seqs.filter fun seq => decide (seq ∈ producer.pendingIds) := by
    rw [pendingAmong, List.map_filterMap, ← List.filterMap_eq_filter]
    apply List.filterMap_congr
    intro seq _
    cases found : producer.findPending seq with
    | none =>
      have absent := (findPending_eq_none_iff producer seq).mp found
      simp [Option.guard, absent]
    | some =>
      obtain ⟨member, same⟩ := findPending_mem found
      have present : seq ∈ producer.pendingIds := same ▸ List.mem_map_of_mem member
      simp [Option.guard, present, same]
  rw [ids, List.perm_ext_iff_of_nodup (distinct.filter _) (indexed.distinct.filter _)]
  intro seq
  simp [and_comm]

/-! ### Errors, timeouts and drains -/

theorem applySendError_none (absent : producer.findPending err.sequenceId = none) :
    producer.applySendError err = (none, producer) := by
  rw [applySendError, removePending_none indexed absent]

theorem applySendError_some (found : producer.findPending err.sequenceId = some op) :
    ∃ index, producer.applySendError err = (some (op, err.error, err.message),
        { producer with
          pending := producer.pending.filter fun op => op.sequenceId != err.sequenceId
          pendingIndex := index }) ∧
      ∀ key, key ∈ index ↔ key ≠ err.sequenceId ∧ key ∈ producer.pendingIndex := by
  obtain ⟨index, removed, keys⟩ := removePending_some indexed found
  refine ⟨index, ?_, keys⟩
  rw [applySendError, removed]

end

theorem mem_foldl_erase (ops : List OpSend) (index : Table Nat Nat) (key : Nat) :
    key ∈ ops.foldl (fun index op => index.erase op.sequenceId) index ↔
      key ∉ ops.map (·.sequenceId) ∧ key ∈ index := by
  induction ops generalizing index with
  | nil => simp
  | cons _ _ ih =>
    rw [List.foldl_cons, ih, AList.mem_erase]
    simp only [List.map_cons, List.mem_cons, not_or]
    tauto

theorem Indexed.dropFront (indexed : producer.Indexed)
    {front : List OpSend} (split : producer.pending = front ++ after.pending)
    (index : after.pendingIndex =
      front.foldl (fun index op => index.erase op.sequenceId) producer.pendingIndex) :
    after.Indexed := by
  have ids : producer.pendingIds = front.map (·.sequenceId) ++ after.pendingIds := by
    rw [pendingIds, split, List.map_append, pendingIds]
  have distinct := indexed.distinct
  rw [ids, List.nodup_append] at distinct
  refine ⟨distinct.2.1, ?_⟩
  intro key
  rw [index, mem_foldl_erase, indexed.keyed, ids, List.mem_append]
  constructor
  · rintro ⟨outside, inside | inside⟩
    · exact absurd inside outside
    · exact inside
  · intro inside
    exact ⟨fun front => distinct.2.2 key front key inside rfl, .inr inside⟩

theorem drainTimedOutSends_split (producer : ProducerState) (now : Nat) :
    producer.pending = (producer.drainTimedOutSends now).1 ++
      (producer.drainTimedOutSends now).2.pending := by
  unfold drainTimedOutSends
  split
  · rfl
  · exact (List.prefix_iff_eq_append.mp (List.takeWhile_prefix _)).symm

section

variable (indexed : producer.Indexed)

include indexed

theorem drainTimedOutSends_indexed (now : Nat) : (producer.drainTimedOutSends now).2.Indexed := by
  apply indexed.dropFront (producer.drainTimedOutSends_split now)
  unfold drainTimedOutSends
  split <;> rfl

theorem drainPendingSends_indexed : producer.drainPendingSends.2.Indexed :=
  indexed.dropFront (List.append_nil _).symm rfl

/-! ### New, replayed and parked sends -/

theorem Indexed.congr (pending : after.pendingIds = producer.pendingIds)
    (index : after.pendingIndex = producer.pendingIndex) : after.Indexed := by
  refine ⟨pending ▸ indexed.distinct, ?_⟩
  intro key
  rw [index, pending]
  exact indexed.keyed key

theorem pushPending_indexed
    (fresh : op.sequenceId ∉ producer.pendingIds) : (producer.pushPending op).Indexed := by
  have ids : (producer.pushPending op).pendingIds = producer.pendingIds ++ [op.sequenceId] := by
    simp [pendingIds, pushPending]
  constructor
  · rw [ids, List.nodup_append]
    refine ⟨indexed.distinct, List.nodup_singleton _, ?_⟩
    rintro id member other single rfl
    exact fresh (List.mem_singleton.mp single ▸ member)
  · intro key
    rw [ids, List.mem_append, List.mem_singleton, ← indexed.keyed, pushPending, AList.mem_insert,
      or_comm]

end

theorem mem_foldl_insert (placed : List (OpSend × Nat)) (index : Table Nat Nat) (key : Nat) :
    key ∈ placed.foldl (fun index (op, position) => index.insert op.sequenceId position) index ↔
      key ∈ placed.map (·.1.sequenceId) ∨ key ∈ index := by
  induction placed generalizing index with
  | nil => simp
  | cons _ _ ih =>
    rw [List.foldl_cons, ih, AList.mem_insert]
    simp only [List.map_cons, List.mem_cons]
    tauto

/-- A replay builds the index anew. -/
theorem replaySnapshots_indexed {snapshots : List OpSend}
    (distinct : ((snapshots ++ producer.pending).map (·.sequenceId)).Nodup) :
    (producer.replaySnapshots snapshots).Indexed := by
  refine ⟨distinct, ?_⟩
  intro key
  change key ∈ (snapshots ++ producer.pending).zipIdx.foldl _ ∅ ↔
    key ∈ (snapshots ++ producer.pending).map (·.sequenceId)
  rw [mem_foldl_insert]
  have ids : (snapshots ++ producer.pending).zipIdx.map (·.1.sequenceId) =
      (snapshots ++ producer.pending).map (·.sequenceId) := by
    conv_rhs => rw [← List.zipIdx_map_fst 0 (snapshots ++ producer.pending), List.map_map]
    rfl
  simp [ids]

theorem setWaker_plan {β : Type*} (producer : ProducerState) (seq : Nat) (waker : Option Nat)
    (reading : OpSend → β) (insensitive : ∀ op waker, reading { op with waker } = reading op) :
    (producer.setWaker seq waker).2.pending.map reading = producer.pending.map reading := by
  unfold setWaker
  split
  · rfl
  · split
    · apply List.ext_getElem?
      intro position
      simp only [List.getElem?_map, List.getElem?_modify]
      cases producer.pending[position]? with
      | none => rfl
      | some =>
        dsimp
        split
        · rw [insensitive]
        · rfl
    · rfl

theorem setWaker_rest (producer : ProducerState) (seq : Nat) (waker : Option Nat) :
    (producer.setWaker seq waker).2 =
      { producer with pending := (producer.setWaker seq waker).2.pending } := by
  unfold setWaker
  split
  · rfl
  · split <;> rfl

end ProducerState

end Magnetar.Proto.Producer
