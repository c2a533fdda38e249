import Magnetar.Proto.Connection.Sequence

/-!
Contract: the order of one producer's frames on the wire, and the routing metadata in them.

Owns: that every run keeps the layout while its counters do not wrap, the order of the frames each
attach hands to the transport, and which frames keep the routing metadata of their messages.

Does not own: which sends are replayed after a loss (`Connection.Replay`).
-/

namespace Magnetar.Proto.Connection

open Library.Machine Pb External Producer ProducerSide

variable (single : Prost SingleMessageMetadata) (codecs : Codecs)

section

variable (config : ProducerConfig) {handle : Nat} {ops : List Op}
  (fits : Guarded (step single codecs) (fun side op => side.countersFit handle op = true) (start
    config) ops)

include config fits

theorem run_layout : Layout ((run (step single codecs) (start config) ops).entries handle) :=
  run_unwrapped_invariant
    (start_reserved config) fits Layout (fun _ _ layout regular => layout.step regular) .empty

theorem run_indexed {record : ProducerRecord}
    (slot : ((run (step single codecs) (start config) ops).entries handle).slot = some record) :
    record.state.Indexed :=
  (run_layout single codecs config fits).indexed record slot

variable {record : ProducerRecord}
  (slot : ((run (step single codecs) (start config) ops).entries handle).slot = some record)

include slot

/-- The sends set aside or pending stand in the order of their ids, all behind the next one, and the
index has the pending ones. -/
theorem unsettled_sends_in_order :
    let ids := (((run (step single codecs) (start config) ops).entries handle).snapshots ++
      record.state.pending).map (·.sequenceId)
    ids.Pairwise (· < ·) ∧ (∀ id ∈ ids, id < record.state.nextSequenceId) ∧
      ∀ id, id ∈ record.state.pendingIndex ↔ id ∈ record.state.pendingIds := by
  obtain ⟨_, _, _, minted, -⟩ := (run_layout single codecs config fits).slot record slot
  refine ⟨minted.sorted.sublist minted.unsettled, ?_, minted.indexed.keyed⟩
  intro id member
  obtain ⟨send, known, rfl⟩ := List.mem_map.mp (minted.unsettled.subset member)
  exact minted.lt_next known

/-- The open batch holds the newest sends, each of them one to batch, and no other. -/
theorem batch_holds_newest_sends :
    ∃ members, record.state.batch.Holds members ∧
      let log := ((run (step single codecs) (start config) ops).entries handle).log
      members <:+ mintedSends log ∧ ∀ send ∈ members, batchedBy log send.2 = true := by
  obtain ⟨earlier, members, _, minted, -⟩ :=
    (run_layout single codecs config fits).slot record slot
  exact ⟨members, minted.holds, ⟨earlier, minted.split.symm⟩, minted.joined⟩

end

private def batching : ProducerEntry :=
  (run (step default default) (start {}) (opening { plainOpen with enableBatching := true } none ++
    [sending [], sending []])).entries 0

private theorem batching_slot : ∃ record, batching.slot = some record :=
  Option.isSome_iff_exists.mp (by decide +kernel)

theorem unsettled_sends_of_batch : ∃ record, batching.slot = some record ∧
    ((batching.snapshots ++ record.state.pending).map (·.sequenceId)).Pairwise (· < ·) := by
  obtain ⟨record, slot⟩ := batching_slot
  exact ⟨record, slot, (unsettled_sends_in_order default default {} (by decide +kernel) slot).1⟩

theorem batch_holds_two_sends : ∃ record members, batching.slot = some record ∧
    record.state.batch.Holds members ∧ members <:+ mintedSends batching.log := by
  obtain ⟨record, slot⟩ := batching_slot
  obtain ⟨members, holds, newest, -⟩ :=
    batch_holds_newest_sends default default {} (by decide +kernel) slot
  exact ⟨record, members, slot, holds, newest⟩

theorem handed_prefix (entry : ProducerEntry) (attach : Nat) :
    releasedIn attach (handedFrames entry.log) <+: entry.stream attach := by
  rw [ProducerEntry.stream, releasedIn_append]
  exact List.prefix_append _ _

/-- The frames that one attach hands to the transport are in order: the lowest ids never decrease,
each frame carries a run of consecutively minted sends, and the chunks of a message follow each
other without a gap. -/
theorem attach_hands_frames_in_order (config : ProducerConfig) (handle : Nat) (ops : List Op)
    (fits : Guarded (step single codecs) (fun side op => side.countersFit handle op = true)
      (start config) ops) (attach : Nat) :
    let log := ((run (step single codecs) (start config) ops).entries handle).log
    let frames := releasedIn attach (handedFrames log)
    WireOrder frames ∧ (frames.map OutboundFrame.lowest).Pairwise (· ≤ ·) ∧
      ∀ frame ∈ frames, ∃ sends, frame.ids = sends.map Prod.fst ∧ sends <:+: mintedSends log := by
  intro log frames
  have layout := run_layout single codecs config fits
  obtain ⟨rest, stream⟩ := handed_prefix
    ((run (step single codecs) (start config) ops).entries handle) attach
  have order : WireOrder frames := by
    have whole := layout.released.order attach
    rw [← stream] at whole
    exact whole.of_append
  refine ⟨order, order.lowest_sorted, ?_⟩
  intro frame member
  have inStream : frame ∈
      ((run (step single codecs) (start config) ops).entries handle).stream attach := by
    rw [← stream]
    exact List.mem_append_left _ member
  obtain ⟨sends, carries, inside⟩ := layout.released.carries attach frame inStream
  exact ⟨sends, carries.ids_eq, inside⟩

/-- The pieces of a chunked message, and a message after it. -/
theorem attach_hands_chunks_in_order :
    WireOrder (releasedIn 1 (handedFrames ((run (step default default) (start { maxMessageSize := 2 })
      (opening { plainOpen with enableChunking := true } none ++
        [sending [1, 2, 3, 4, 5], sending [6], .pollTransmit])).entries 0).log)) :=
  (attach_hands_frames_in_order default default { maxMessageSize := 2 } 0 _ (by decide +kernel) 1).1

/-- With an initial sequence id of `u64::MAX` the second send is id zero. -/
theorem wrapped_ids_decrease :
    (releasedIn 1 (handedFrames ((run (step default default) (start {})
      (opening { plainOpen with initialSequenceId := some (2 ^ 64 - 1) } none ++
        [sending [], sending [], .pollTransmit])).entries 0).log)).map
          OutboundFrame.lowest = [2 ^ 64 - 1, 0] := by
  decide +kernel

/-! ### Routing metadata -/

/-- The SEND frames of a producer: handed over, buffered and staged. -/
def ProducerEntry.frames (entry : ProducerEntry) : List OutboundFrame :=
  (handedFrames entry.log ++ entry.buffered).map Prod.snd ++
    (entry.slot.map (·.state.outbound)).getD []

theorem Layout.frame_carries {entry : ProducerEntry} (layout : Layout entry) {frame : OutboundFrame}
    (member : frame ∈ entry.frames) :
    ∃ sends, Carries (batchedBy entry.log) frame sends ∧ sends ⊆ mintedSends entry.log := by
  rcases List.mem_append.mp member with released | staged
  · obtain ⟨⟨attach, found⟩, inside, rfl⟩ := List.mem_map.mp released
    have streamed : found ∈ entry.stream attach :=
      List.mem_map.mpr ⟨(attach, found), List.mem_filter.mpr ⟨inside, beq_self_eq_true _⟩, rfl⟩
    obtain ⟨sends, carries, within⟩ := layout.released.carries attach found streamed
    exact ⟨sends, carries, within.subset⟩
  · cases slot : entry.slot with
    | none => simp [slot] at staged
    | some record =>
      rw [slot] at staged
      obtain ⟨earlier, members, blocks, minted, stagedLayout⟩ := layout.slot record slot
      obtain ⟨sends, carries, within⟩ := stagedLayout.carries staged
      refine ⟨sends, carries, ?_⟩
      rw [minted.split]
      exact List.Subset.trans within.subset (List.subset_append_left _ _)

theorem Growing.unique {entry : ProducerEntry} (growing : Growing entry) {seq : Nat}
    {msg msg' : OutgoingMessage} (one : (seq, msg) ∈ mintedSends entry.log)
    (two : (seq, msg') ∈ mintedSends entry.log) : msg' = msg := by
  have distinct : ((mintedSends entry.log).map Prod.fst).Nodup :=
    growing.increasing.imp Nat.ne_of_lt
  exact (Prod.mk.inj (List.inj_on_of_nodup_map distinct two one rfl)).2

/-- A message with a delivery time or a list of clusters keeps them in every frame that carries it
exactly when its producer does not batch it. -/
theorem routing_survives_iff_unbatched (config : ProducerConfig) (handle : Nat) (ops : List Op)
    (fits : Guarded (step single codecs) (fun side op => side.countersFit handle op = true)
      (start config) ops) :
    let entry := (run (step single codecs) (start config) ops).entries handle
    ∀ seq msg, (seq, msg) ∈ mintedSends entry.log → msg.routing ≠ (none, []) →
      ∀ frame ∈ entry.frames, seq ∈ frame.ids →
        (frame.routing = msg.routing ↔ batchedBy entry.log msg = false) := by
  intro entry seq msg minted routed frame member inside
  have layout : Layout entry := run_layout single codecs config fits
  have growing : Growing entry := run_growing config fits
  obtain ⟨sends, carries, within⟩ := layout.frame_carries member
  rw [carries.ids_eq] at inside
  obtain ⟨⟨id, sent⟩, inSends, rfl⟩ := List.mem_map.mp inside
  obtain rfl : sent = msg := growing.unique minted (within inSends)
  cases carries with
  | alone apart _ routing =>
    obtain ⟨-, rfl⟩ := Prod.mk.inj (List.mem_singleton.mp inSends)
    simp [routing, apart]
  | batch _ joined _ routing =>
    have batched := joined _ inSends
    rw [routing, batched]
    simp [routed.symm]

private def delayed : OutgoingMessage :=
  { plainMessage [1] with metadata := { deliverAtTime := some 7 } }

private def delayedAlone : ProducerEntry :=
  (run (step default default) (start {})
    (opening plainOpen none ++ [.send 0 delayed "u" 0 0 0])).entries 0

theorem routing_survives_unbatched_delay :
    ∃ frame ∈ delayedAlone.frames, frame.routing = (some 7, []) := by
  have minted : mintedSends delayedAlone.log = [(0, delayed)] := rfl
  have staged : (delayedAlone.frames.map OutboundFrame.ids) = [[0]] := by decide +kernel
  obtain ⟨frame, alone, inside⟩ := List.map_eq_singleton_iff.mp staged
  have member : frame ∈ delayedAlone.frames := alone ▸ List.mem_singleton_self frame
  refine ⟨frame, member, ?_⟩
  exact (routing_survives_iff_unbatched default default {} 0 _ (by decide +kernel) 0 delayed
    (minted ▸ List.mem_singleton_self _) (by decide) frame member (inside ▸ List.mem_singleton_self
      _)).mpr (by decide +kernel)

/-- A delayed message in a batch is delivered at once. -/
theorem batch_drops_delay :
    let entry := (run (step default default) (start {})
      (opening { plainOpen with enableBatching := true } none ++
        [.send 0 delayed "u" 0 0 0, .flushProducer 0 0])).entries 0
    mintedIds entry.log = [0] ∧
      entry.frames.map (fun frame => (frame.ids, frame.routing)) = [([0], none, [])] := by
  decide +kernel

end Magnetar.Proto.Connection
