import Magnetar.Proto.Connection.Order

/-!
Contract: which sends a reply of the broker settles.

Owns: that a receipt settles exactly the pending sends it covers and leaves every other send, waker
and outcome alone, and when an error for a frame settles every send of the frame.

Does not own: when the broker replies, nor what the futures do with an outcome.
-/

namespace Magnetar.Proto.Connection

open Library.Machine Pb Producer ProducerEntry ProducerSide ProducerState

/-- The sends a receipt is for: those of its range, or its first one when it has no range. -/
def covers (receipt : CommandSendReceipt) (id : Nat) : Bool :=
  match receipt.highestSequenceId with
  | none => id == receipt.sequenceId
  | some highest =>
    if highest = 2 ^ 64 - 1 ∨ highest < receipt.sequenceId then id == receipt.sequenceId
    else decide (receipt.sequenceId ≤ id) && decide (id ≤ highest)

/-- The loop of the source runs over the sends the receipt is for. -/
theorem mem_receiptRange_iff_covers {receipt : CommandSendReceipt} {id : Nat} :
    id ∈ receiptRange receipt ↔ covers receipt id = true := by
  rw [mem_receiptRange, receiptHighest, covers]
  cases receipt.highestSequenceId with
  | none =>
    simp only [Option.getD_none, beq_iff_eq]
    split <;> omega
  | some highest =>
    simp only [Option.getD_some]
    by_cases single : highest = 2 ^ 64 - 1 ∨ highest < receipt.sequenceId
    · rw [if_neg (by omega), if_pos single, beq_iff_eq]
      omega
    · rw [if_pos (by omega), if_neg single]
      simp

/-! ### The tables of outcomes and wakers -/

section Broker

variable (entry : ProducerEntry)

theorem settleByBroker_outcomes (op : OpSend) (outcome : OpOutcome) :
    (entry.settleByBroker op outcome).outcomes = entry.outcomes.insert op.sequenceId outcome := by
  unfold settleByBroker
  split <;> rfl

theorem settleByBroker_slab (op : OpSend) (outcome : OpOutcome) {seq : Nat}
    (other : seq ≠ op.sequenceId) :
    (entry.settleByBroker op outcome).slab.lookup seq = entry.slab.lookup seq := by
  unfold settleByBroker
  split
  · rfl
  · exact AList.lookup_erase_ne other

/-- The ids of `items` get their outcome, and no other key of either table changes. -/
theorem foldl_settleByBroker_tables (items : List (OpSend × MessageId)) (mid : MessageId)
    (named : ∀ item ∈ items, item.2 = mid) (seq : Nat) :
    let after := items.foldl settleByReceipt entry
    after.outcomes.lookup seq =
        (if seq ∈ items.map (·.1.sequenceId) then some (.sendReceipt seq mid)
        else entry.outcomes.lookup seq) ∧
      (seq ∉ items.map (·.1.sequenceId) → after.slab.lookup seq = entry.slab.lookup seq) := by
  induction items generalizing entry with
  | nil => simp
  | cons item _ ih =>
    obtain ⟨op, found⟩ := item
    obtain rfl : found = mid := named _ (List.mem_cons_self ..)
    have later := ih
      (entry.settleByBroker op (.sendReceipt op.sequenceId found))
      fun item member => named item (List.mem_cons_of_mem _ member)
    rw [List.foldl_cons, List.map_cons, settleByReceipt]
    constructor
    · rw [later.1, settleByBroker_outcomes]
      by_cases same : seq = op.sequenceId
      · subst same
        simp
      · rw [AList.lookup_insert_ne same]
        exact if_congr (by simp [same]) rfl rfl
    · intro outside
      rw [List.mem_cons, not_or] at outside
      rw [later.2 outside.2, settleByBroker_slab entry op _ outside.1]

end Broker

/-! ### Receipts -/

section Receipts

variable {producer : ProducerState} (receipt : CommandSendReceipt)

theorem handleSendReceipt_leaves (indexed : producer.Indexed) :
    (producer.handleSendReceipt receipt).2.pending =
      producer.pending.filter fun op => !covers receipt op.sequenceId := by
  rw [(handleSendReceipt_acknowledges indexed receipt).pending_eq]
  apply List.filter_congr
  intro op _
  rw [Bool.eq_iff_iff, Bool.not_eq_true', Bool.not_eq_true', ← Bool.not_eq_true,
    ← Bool.not_eq_true, List.contains_iff_mem, mem_receiptRange_iff_covers]

theorem handleSendReceipt_resolves (indexed : producer.Indexed) :
    ((producer.handleSendReceipt receipt).1.map (·.1.sequenceId)).Perm
        (producer.pendingIds.filter (covers receipt)) ∧
      ∀ item ∈ (producer.handleSendReceipt receipt).1,
        item.2 = receiptMessageId receipt := by
  rw [(handleSendReceipt_acknowledges indexed receipt).resolved_eq]
  constructor
  · have perm := pendingAmong_perm indexed (receiptRange_nodup receipt)
    have range : (fun id => (receiptRange receipt).contains id) = covers receipt := by
      funext id
      rw [Bool.eq_iff_iff, List.contains_iff_mem, mem_receiptRange_iff_covers]
    rw [range] at perm
    rw [List.map_map]
    exact perm
  · intro item member
    obtain ⟨op, -, rfl⟩ := List.mem_map.mp member
    rfl

end Receipts

/-- A receipt settles exactly the pending sends it covers, each once and with its own outcome.  The
other pending sends stay as they are and in their order, and so does every waker and outcome that
is not of a settled send, under this handle and under any other. -/
theorem receipt_settles_covered (side : ProducerSide) (receipt : CommandSendReceipt)
    (record : ProducerRecord) (slot : (side.entries receipt.producerId).slot = some record)
    (indexed : record.state.Indexed) :
    let entry := side.entries receipt.producerId
    let after := (side.handleSendReceipt receipt).entries receipt.producerId
    let settled := record.state.pendingIds.filter (covers receipt)
    (∃ record', after.slot = some record' ∧ record'.state.pending =
        record.state.pending.filter fun op => !covers receipt op.sequenceId) ∧
      (∃ news, resolutions after.log = resolutions entry.log ++ news ∧
        (news.map Prod.fst).Perm settled ∧ settled.Nodup ∧
        ∀ seq outcome, (seq, outcome) ∈ news →
          outcome = .sendReceipt seq (ProducerState.receiptMessageId receipt)) ∧
      (∀ seq, after.outcomes.lookup seq =
        if seq ∈ settled then some (.sendReceipt seq (ProducerState.receiptMessageId receipt))
        else entry.outcomes.lookup seq) ∧
      (∀ seq, seq ∉ settled → after.slab.lookup seq = entry.slab.lookup seq) ∧
      ∀ handle, handle ≠ receipt.producerId →
        (side.handleSendReceipt receipt).entries handle = side.entries handle := by
  intro entry after settled
  let news := (record.state.handleSendReceipt receipt).1.map receiptOutcome
  obtain ⟨perm, named⟩ := handleSendReceipt_resolves receipt indexed
  have same : after = entry.sendReceipt receipt := if_pos rfl
  have settles := sendReceipt_settles slot receipt
  have tables := foldl_settleByBroker_tables
    ((entry.withState record (record.state.handleSendReceipt receipt).2).observe
      [.acknowledged receipt]) _ _ named
  have folded : entry.sendReceipt receipt = (record.state.handleSendReceipt receipt).1.foldl
      settleByReceipt
      ((entry.withState record (record.state.handleSendReceipt receipt).2).observe
        [.acknowledged receipt]) := by
    rw [ProducerEntry.sendReceipt, slot]
    rfl
  rw [← folded, ← same] at tables
  rw [← same] at settles
  simp only [perm.mem_iff] at tables
  refine ⟨⟨_, settles.slot, handleSendReceipt_leaves receipt indexed⟩,
    ⟨news, ?_, ?_, indexed.distinct.filter _, ?_⟩, fun seq => (tables seq).1,
    fun seq outside => (tables seq).2 outside, fun handle other => if_neg other⟩
  · rw [settles.resolutions_eq]
    change resolutions (entry.log ++ [.acknowledged receipt]) ++ news = _
    rw [resolutions_append]
    exact List.append_assoc _ _ _
  · rw [List.map_map]
    exact perm
  · intro seq outcome member
    obtain ⟨item, inside, made⟩ := List.mem_map.mp member
    obtain ⟨rfl, rfl⟩ := Prod.mk.inj made
    rw [named item inside]

private def threeSent : ProducerSide :=
  run (step default default) (start {}) (opening plainOpen none ++
    [sending [], sending [], sending []])

private def firstTwo : CommandSendReceipt :=
  { producerId := 0, sequenceId := 0, highestSequenceId := some 1 }

/-- A receipt over the first two of three sends. -/
theorem receipt_settles_two_of_three :
    ∃ record record', (threeSent.entries 0).slot = some record ∧
      ((threeSent.handleSendReceipt firstTwo).entries 0).slot = some record' ∧
      record'.state.pending = record.state.pending.filter fun op =>
        !covers firstTwo op.sequenceId := by
  have opened : (threeSent.entries 0).slot.isSome = true := by decide +kernel
  obtain ⟨record, slot⟩ := Option.isSome_iff_exists.mp opened
  have indexed : record.state.Indexed :=
    run_indexed default default {} (by decide +kernel) slot
  obtain ⟨record', slot', pending⟩ :=
    (receipt_settles_covered threeSent firstTwo record slot indexed).1
  exact ⟨record, record', slot, slot', pending⟩

/-! ### Errors -/

/-- An error for a frame settles every pending send of the frame, each once, exactly when no send
of the frame but the first is pending. -/
theorem error_settles_frame_iff (side : ProducerSide) (err : CommandSendError)
    (record : ProducerRecord) (slot : (side.entries err.producerId).slot = some record)
    (indexed : record.state.Indexed) (frame : OutboundFrame)
    (names : err.sequenceId = frame.lowest) :
    let entry := side.entries err.producerId
    let after := (side.handleSendError err).entries err.producerId
    (∃ news record', resolutions after.log = resolutions entry.log ++ news ∧
        after.slot = some record' ∧
        ∀ id ∈ record.state.pendingIds, id ∈ frame.ids →
          (news.map Prod.fst).count id = 1 ∧
          (∀ outcome, (id, outcome) ∈ news → outcome.isError = true) ∧
          id ∉ record'.state.pendingIds) ↔
      ∀ id ∈ record.state.pendingIds, id ∈ frame.ids → id = frame.lowest := by
  intro entry after
  have same : after = entry.sendError err := if_pos rfl
  have settles := sendError_settles slot err
  rw [← same] at settles
  have log := settles.resolutions_eq
  constructor
  · rintro ⟨news, record', grown, -, settled⟩ id pending inside
    have exact : news = (record.state.applySendError err).1.toList.map errorOutcome :=
      List.append_cancel_left (grown.symm.trans log)
    have member : id ∈ news.map Prod.fst :=
      List.count_pos_iff.mp (by rw [(settled id pending inside).1]; exact Nat.one_pos)
    rw [exact] at member
    cases found : record.state.findPending err.sequenceId with
    | none => simp [ProducerState.applySendError_none indexed found] at member
    | some op =>
      obtain ⟨index, taken, -⟩ := ProducerState.applySendError_some indexed found
      have named : op.sequenceId = err.sequenceId := (ProducerState.findPending_mem found).2
      rw [taken] at member
      simp only [Option.toList_some, List.map_cons, List.map_nil, List.mem_singleton,
        errorOutcome] at member
      rw [member, named, names]
  · intro first
    refine ⟨_, _, log, settles.slot, ?_⟩
    intro id pending inside
    obtain rfl : id = err.sequenceId := (first id pending inside).trans names.symm
    cases found : record.state.findPending err.sequenceId with
    | none => exact absurd pending ((ProducerState.findPending_eq_none_iff _ _).mp found)
    | some op =>
      obtain ⟨index, taken, -⟩ := ProducerState.applySendError_some indexed found
      have named : op.sequenceId = err.sequenceId := (ProducerState.findPending_mem found).2
      rw [taken]
      refine ⟨by simp [errorOutcome, named], by simp [errorOutcome, OpOutcome.isError], ?_⟩
      simp [ProducerState.pendingIds]

private def errorFor (seq : Nat) : CommandSendError :=
  { producerId := 0, sequenceId := seq, error := 0, message := "" }

/-- Two sends in one batch. -/
private def batchOps : List Op :=
  opening { plainOpen with enableBatching := true } none ++ [sending [1], sending [2]]

private def batchOfTwo : OutboundFrame :=
  ((run (step default default) (start {}) batchOps).entries 0).frames.get ⟨0, by decide +kernel⟩

/-- The batch is handed over, and the second send gets a receipt of its own. -/
private def secondReceived : ProducerSide :=
  run (step default default) (start {})
    (batchOps ++ [.pollTransmit, .frame 0 (.sendReceipt { producerId := 0, sequenceId := 1 })])

/-- The error of a batch of which only the first send is pending. -/
theorem error_settles_first_of_batch :
    batchOfTwo.ids = [0, 1] ∧
      (secondReceived.entries 0).slot.map (·.state.pendingIds) = some [0] ∧
      ∃ record', ((secondReceived.handleSendError (errorFor 0)).entries 0).slot = some record' ∧
        0 ∉ record'.state.pendingIds := by
  have both : batchOfTwo.ids = [0, 1] := by decide +kernel
  have opened : (secondReceived.entries 0).slot.map (·.state.pendingIds) = some [0] := by
    decide +kernel
  obtain ⟨record, slot, pending⟩ := Option.map_eq_some_iff.mp opened
  have indexed : record.state.Indexed :=
    run_indexed default default {} (by decide +kernel) slot
  have names : (errorFor 0).sequenceId = batchOfTwo.lowest := by decide +kernel
  obtain ⟨news, record', -, slot', settled⟩ := (error_settles_frame_iff secondReceived (errorFor 0)
    record slot indexed batchOfTwo names).mpr (by
      intro id member _
      rw [pending, List.mem_singleton] at member
      exact member.trans names)
  exact ⟨both, opened, record', slot',
    (settled 0 (by rw [pending]; simp) (by rw [both]; simp)).2.2⟩

/-- Two sends in one batch, handed over in one frame. -/
private def batchSent : ProducerSide :=
  run (step default default) (start {}) (batchOps ++ [.pollTransmit])

/-- The error of the batch fails its first send and leaves the second one pending. -/
theorem batch_error_leaves_second :
    let before := batchSent.entries 0
    let after := (batchSent.handleSendError (errorFor 0)).entries 0
    (handedFrames before.log).map (fun released => released.2.ids) = [[0, 1]] ∧
      resolvedIds after.log = [0] ∧
      after.slot.map (·.state.pendingIds) = some [1] := by
  decide +kernel

end Magnetar.Proto.Connection
