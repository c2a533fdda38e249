import Magnetar.Proto.Connection.Layout
import Magnetar.Proto.Connection.Settlement

/-!
Contract: the sends whose frames a producer has staged.

Owns: the ids in the staged frames and the batch container and what a flush or an accepted message
does to them, the frames of the current attach, and that each send among these is there once and
whole.

Does not own: which sends an operation settles.
-/

namespace Magnetar.Proto.Connection

open Pb External Producer ProducerEntry

variable {single : Prost SingleMessageMetadata} {codecs : Codecs}

variable {seq : Nat} {entry : ProducerEntry} {record : ProducerRecord}

/-! ### Unsettled sends -/

theorem Layout.unsettledIds_nodup
    (layout : Layout entry) (slot : entry.slot = some record) : entry.unsettledIds.Nodup := by
  obtain ⟨earlier, members, blocks, minted, -⟩ := layout.slot record slot
  rw [unsettledIds_of_some slot, ProducerState.pendingIds, ← List.map_append]
  exact minted.unsettled_nodup

theorem Layout.unsettled_lt
    (layout : Layout entry) (slot : entry.slot = some record) (member : seq ∈ entry.unsettledIds) :
    seq < record.state.nextSequenceId := by
  obtain ⟨earlier, members, blocks, minted, -⟩ := layout.slot record slot
  rw [unsettledIds_of_some slot, ProducerState.pendingIds, ← List.map_append] at member
  obtain ⟨send, known, same⟩ := List.mem_map.mp (minted.unsettled.subset member)
  rw [← same]
  exact minted.lt_next known

section Moves

variable {before after : ProducerEntry} {record record' : ProducerRecord}

theorem reduce_unsettledIds (slot : before.slot = some record) (slot' : after.slot = some record')
    (reduces : record.state.Reduces record'.state) (keeps : Keeps before after) :
    after.unsettledIds ⊆ before.unsettledIds := by
  intro seq member
  rw [unsettledIds_of_some slot', List.mem_append] at member
  rw [unsettledIds_of_some slot, List.mem_append]
  exact member.imp (fun aside => (keeps.snapshots.map _).subset aside)
    fun pending => reduces.pendingIds.subset pending

theorem vacate_unsettledIds (empty : after.slot = none)
    (keeps : Keeps before after ∨ Keeps { before with buffered := [] } after) :
    after.unsettledIds ⊆ before.unsettledIds := by
  have snapshots : after.snapshots.Sublist before.snapshots :=
    keeps.elim Keeps.snapshots Keeps.snapshots
  intro seq member
  rw [unsettledIds_of_none empty] at member
  rw [unsettledIds, ProducerEntry.unsettled, List.map_append]
  exact List.mem_append_left _ ((snapshots.map _).subset member)

theorem flush_unsettledIds (slot : before.slot = some record) (publishTimeMs : Nat) :
    (before.withState record
      (record.state.flushBatch single codecs publishTimeMs).2).unsettledIds =
        before.unsettledIds := by
  rw [unsettledIds_withState, unsettledIds_of_some slot, ProducerState.pendingIds,
    flushBatch_pending, ProducerState.pendingIds]

theorem Move.unsettledIds_subset (move : Move single codecs before after) :
    after.unsettledIds ⊆ before.unsettledIds := by
  cases move with
  | reduce slot slot' reduces keeps => exact reduce_unsettledIds slot slot' reduces keeps
  | vacate slot' keeps => exact vacate_unsettledIds slot' keeps
  | flush slot publishTimeMs =>
    rw [flush_unsettledIds slot publishTimeMs]
    exact List.Subset.refl _
  | drain =>
    rw [drainOutbound_unsettledIds]
    exact List.Subset.refl _
  | poll => exact List.Subset.refl _

theorem disconnected_unsettledIds_subset (slot : before.slot = some record) :
    (before.disconnected record).unsettledIds ⊆ before.unsettledIds := by
  intro seq member
  rw [disconnected_unsettledIds, List.mem_append] at member
  rw [unsettledIds_of_some slot, List.mem_append]
  exact member.imp_right fun aside => (replayable_ids record).subset aside

end Moves

/-! ### Staged ids -/

def stagedIds (producer : ProducerState) : List Nat :=
  producer.outbound.flatMap OutboundFrame.ids ++ producer.batch.ids

/-- A flush moves the ids of the container to the staged frames. -/
theorem Layout.flush_stagedIds
    (layout : Layout entry) (slot : entry.slot = some record) (publishTimeMs : Nat) :
    stagedIds (record.state.flushBatch single codecs publishTimeMs).2 = stagedIds record.state := by
  obtain ⟨earlier, members, staged, minted, -⟩ := layout.slot record slot
  rcases minted.flush publishTimeMs with same | ⟨frame, flushed, block⟩
  · rw [same]
  · obtain ⟨first, consecutive, -⟩ := minted.members_consecutive
    have carried : frame.ids = record.state.batch.ids := by
      rw [minted.holds.ids_eq consecutive]
      exact (block.carries frame (List.mem_singleton_self frame)).ids_eq
    have emptied : BatchContainer.ids {} = [] := rfl
    rw [flushed, stagedIds, stagedIds]
    simp only [List.flatMap_append, List.flatMap_singleton, carried, emptied, List.append_nil]

/-- An accepted message stages its own id, or joins the container with it. -/
theorem Accepted.mem_stagedIds {before after : ProducerEntry} {msg : OutgoingMessage}
    {op : OpSend} {batch : BatchContainer} {state : ProducerState}
    (accepted : Accepted codecs before after msg record op batch state)
    (layout : Layout before) (member : seq ∈ stagedIds state) :
    seq ∈ stagedIds record.state ∨ seq = record.state.nextSequenceId := by
  obtain ⟨earlier, members, blocks, minted, -⟩ := layout.slot record accepted.slot
  have placed := accepted.accepts.placed
  rw [stagedIds, accepted.accepts.outbound_eq, accepted.accepts.batch_eq,
    List.flatMap_append] at member
  generalize op.replayFrames = frames at placed member
  cases placed with
  | joined _ now =>
    obtain ⟨first, consecutive, reached⟩ := minted.members_consecutive
    have longer : (members ++ [(record.state.nextSequenceId, msg)]).map Prod.fst =
        List.range' first (members ++ [(record.state.nextSequenceId, msg)]).length := by
      rw [List.map_append, consecutive, List.length_append, List.length_singleton,
        List.range'_concat, reached]
      simp
    have held := minted.holds.withMember msg record.state.nextSequenceId now
    rw [held.ids_eq longer, List.map_append, ← minted.holds.ids_eq consecutive,
      List.flatMap_nil, List.append_nil, ← List.append_assoc] at member
    exact (List.mem_append.mp member).imp id List.mem_singleton.mp
  | framed apart clear encoded =>
    have alone : record.state.batches msg = false :=
      ProducerState.batches_of_apart accepted.opened (minted.holds.empty (by
        rw [minted.holds.isEmpty] at clear
        exact List.isEmpty_iff.mp clear)) apart
    have block := encoded.block codecs alone
    rw [List.append_assoc, List.mem_append, List.mem_append] at member
    rcases member with staged | fresh | contained
    · exact .inl (List.mem_append_left _ staged)
    · right
      obtain ⟨frame, inFrames, inside⟩ := List.mem_flatMap.mp fresh
      rw [(block.carries frame inFrames).ids_eq, List.map_singleton, List.mem_singleton] at inside
      exact inside
    · exact .inl (List.mem_append_right _ contained)

theorem replayFrames_ids {batches : OutgoingMessage → Bool} {minted : List (Nat × OutgoingMessage)}
    {sends : List OpSend}
    (replayed : ∀ op ∈ sends, op.replayFrames ≠ [] → Replayed batches minted op)
    {frame : OutboundFrame} (member : frame ∈ sends.flatMap (·.replayFrames))
    (inside : seq ∈ frame.ids) :
    ∃ op ∈ sends, frame ∈ op.replayFrames ∧ op.sequenceId = seq := by
  obtain ⟨op, among, inFrames⟩ := List.mem_flatMap.mp member
  obtain ⟨msg, block, -⟩ := replayed op among (List.ne_nil_of_mem inFrames)
  rw [(block.carries frame inFrames).ids_eq, List.map_singleton, List.mem_singleton] at inside
  exact ⟨op, among, inFrames, inside.symm⟩

/-! ### The frames of the current attach -/

/-- The frames the current attach has released, then those still staged. -/
def ProducerEntry.staging (entry : ProducerEntry) : List OutboundFrame :=
  entry.stream (attaches entry.log) ++ (entry.slot.map (·.state.outbound)).getD []

theorem drainOutbound_staging (entry : ProducerEntry) :
    entry.drainOutbound.staging = entry.staging := by
  rcases entry.drainOutbound_cases with same | ⟨record, found, ready⟩
  · rw [same]
  · have streams := drainOutbound_stream found ready (attaches entry.log)
    rw [if_pos rfl] at streams
    rw [staging, drainOutbound_log, streams, drainOutbound_slot found ready, staging, found]
    exact List.append_nil _

variable {lastSequenceId : Option Int} {record' : ProducerRecord}

theorem ProducerEntry.Attached.staging_eq {before after : ProducerEntry} (layout : Layout before)
    (attached : Attached before record lastSequenceId after record') :
    after.staging = record'.state.outbound := by
  obtain ⟨-, count, -⟩ := attached.readings
  have fresh : after.stream (attaches after.log) = [] := by
    rw [attached.stream_eq, count]
    exact layout.released.future _ (Nat.lt_succ_self _)
  rw [staging, fresh, attached.slot]
  rfl

/-- A staged send is there once and whole. -/
theorem Layout.carrying_whole (layout : Layout entry) (slot : entry.slot = some record)
    (member : seq ∈ record.state.outbound.flatMap OutboundFrame.ids) :
    Whole (carrying seq record.state.outbound) := by
  obtain ⟨earlier, members, staged, -, stagedLayout⟩ := layout.slot record slot
  obtain ⟨frame, inOutbound, inside⟩ := List.mem_flatMap.mp member
  rw [stagedLayout.outbound] at inOutbound ⊢
  obtain ⟨block, inStaged, inBlock⟩ := List.mem_flatten.mp inOutbound
  obtain ⟨sends, sound, -⟩ := stagedLayout.blocks block inStaged
  have all : ∀ other ∈ block, seq ∈ other.ids := by
    intro other inBlock'
    rw [(sound.carries other inBlock').ids_eq, ← (sound.carries frame inBlock).ids_eq]
    exact inside
  have filled : ∀ block ∈ staged, block ≠ [] := by
    intro other inStaged'
    obtain ⟨sends', sound', -⟩ := stagedLayout.blocks other inStaged'
    exact sound'.filled
  rw [carrying_blocks filled stagedLayout.ordered inStaged all]
  exact sound.whole

theorem ProducerEntry.Attached.carrying_eq {before after : ProducerEntry} {op : OpSend}
    (layout : Layout before) (slot : before.slot = some record)
    (attached : Attached before record lastSequenceId after record')
    (member : op ∈ before.snapshots ++ record.state.pending) (framed : op.replayFrames ≠ []) :
    carrying op.sequenceId record'.state.outbound = op.replayFrames ∧ Whole op.replayFrames := by
  obtain ⟨earlier, members, staged, minted, stagedLayout⟩ := layout.slot record slot
  obtain ⟨msg, block, -⟩ := stagedLayout.replayed member framed
  refine ⟨?_, block.whole⟩
  rw [attached.outbound_eq stagedLayout]
  refine carrying_blocks ?_ (stagedLayout.replays_ordered minted)
    (stagedLayout.replays_block member framed) ?_
  · intro other inBlocks
    obtain ⟨sends, sound, -⟩ := stagedLayout.replays_sound other inBlocks
    exact sound.filled
  · intro frame inFrames
    rw [(block.carries frame inFrames).ids_eq]
    exact List.mem_singleton_self _

end Magnetar.Proto.Connection
