import Magnetar.Proto.Connection.Effects
import Magnetar.Proto.Producer.Wire

/-!
Contract: where the frames of a producer are, and in which order.

Owns: the layout invariant (the sends minted so far are those of the batch container after those of
the staged blocks and of the stream, in the order of their ids), and that every move keeps it.

Does not own: what follows from the layout for a whole run.
-/

namespace Magnetar.Proto.Connection

open Pb External Producer ProducerEntry ProducerState SendEvent

variable {staged : List (List OutboundFrame)} {earlier members : List (Nat × OutgoingMessage)}
  {lastSequenceId : Option Int} {msg : OutgoingMessage} {batches : OutgoingMessage → Bool}
  {after before entry : ProducerEntry} {record record' : ProducerRecord}
  {producer producer' state : ProducerState}

/-! ### Which messages are batched -/

def SendEvent.opened? : SendEvent → Option CreateProducerRequest
  | .opened req => some req
  | _ => none

/-- A batch of a producer opened with `req` would take the message, if it were empty. -/
def requestBatches (req : CreateProducerRequest) (msg : OutgoingMessage) : Bool :=
  ProducerState.batchable msg && req.enableBatching &&
    decide ((max msg.numMessages 1).toNat ≤ req.maxMessagesInBatch) &&
    decide (msg.payload.length ≤ req.maxBatchSizeBytes)

def batchedBy (log : List SendEvent) (msg : OutgoingMessage) : Bool :=
  (log.findSome? SendEvent.opened?).any fun req => requestBatches req msg

theorem batchedBy_append {log events : List SendEvent}
    (reopens : ∀ event ∈ events, event.opened? = none) :
    batchedBy (log ++ events) = batchedBy log := by
  have silent : events.findSome? opened? = none := List.findSome?_eq_none_iff.mpr reopens
  funext msg
  rw [batchedBy, List.findSome?_append, silent, Option.or_none, batchedBy]

theorem Replies.opened {events : List SendEvent} (replies : Replies events) :
    ∀ event ∈ events, event.opened? = none := by
  intro event member
  have reply := replies event member
  cases event <;> simp_all [isReply, opened?]

/-! ### The stream of an attach -/

def ProducerEntry.stream (entry : ProducerEntry) (attach : Nat) : List OutboundFrame :=
  releasedIn attach (handedFrames entry.log ++ entry.buffered)

theorem stream_congr (handed : handedFrames after.log = handedFrames before.log)
    (buffered : after.buffered = before.buffered) (attach : Nat) :
    after.stream attach = before.stream attach := by
  rw [stream, handed, buffered, stream]

theorem releasedIn_append (attach : Nat) (first second : List (Nat × OutboundFrame)) :
    releasedIn attach (first ++ second) = releasedIn attach first ++ releasedIn attach second := by
  simp [releasedIn]

theorem releasedIn_tagged (attach tag : Nat) (frames : List OutboundFrame) :
    releasedIn attach (frames.map fun frame => (tag, frame)) =
      if tag = attach then frames else [] := by
  induction frames with
  | nil => simp [releasedIn]
  | cons =>
    unfold releasedIn at *
    by_cases same : tag = attach
    · simp_all
    · simp_all

/-! ### The layout -/

/-- A send can be replayed: its frames are a block of its own. -/
structure Replayed (batches : OutgoingMessage → Bool) (minted : List (Nat × OutgoingMessage))
    (op : OpSend) : Prop where
  block : ∃ msg, Block batches [(op.sequenceId, msg)] op.replayFrames ∧
    (op.sequenceId, msg) ∈ minted

/-- The staged frames are blocks of sends minted before those in the container, in order.  What is
set aside or was released comes before them, and a pending send is among them or comes before. -/
structure Staged (entry : ProducerEntry) (producer : ProducerState)
    (earlier : List (Nat × OutgoingMessage)) (staged : List (List OutboundFrame)) : Prop where
  outbound : producer.outbound = staged.flatten
  blocks : ∀ block ∈ staged, ∃ sends, Block (batchedBy entry.log) sends block ∧ sends <:+: earlier
  ordered : staged.Pairwise Precedes
  pending : ∀ op ∈ producer.pending, op.replayFrames ≠ [] →
    Replayed (batchedBy entry.log) earlier op ∧
      (op.replayFrames ∈ staged ∨ ∀ block ∈ staged, Precedes op.replayFrames block)
  snapshots : ∀ op ∈ entry.snapshots, Replayed (batchedBy entry.log) earlier op ∧
    ∀ block ∈ staged, Precedes op.replayFrames block
  gate : producer.brokerReady = true → Complete (entry.stream (attaches entry.log)) ∧
    ∀ block ∈ staged, Precedes (entry.stream (attaches entry.log)) block
  streamed : ∀ attach, ∀ frame ∈ entry.stream attach, ∀ id ∈ frame.ids, id ∈ earlier.map Prod.fst

/-- The ids minted so far are consecutive, the last of them are in the container, and the sends
that are not settled stand in their order. -/
structure Minted (entry : ProducerEntry) (producer : ProducerState)
    (earlier members : List (Nat × OutgoingMessage)) : Prop where
  split : mintedSends entry.log = earlier ++ members
  holds : producer.batch.Holds members
  joined : ∀ send ∈ members, batchedBy entry.log send.2 = true
  consecutive : ∃ first, mintedIds entry.log =
      List.range' first (mintedSends entry.log).length ∧
    producer.nextSequenceId = first + (mintedSends entry.log).length
  unsettled : ((entry.snapshots ++ producer.pending).map (·.sequenceId)).Sublist
    (mintedIds entry.log)
  indexed : producer.Indexed
  config : producer.batches = batchedBy entry.log

/-- What has been released is in order, and carries minted sends. -/
structure Released (entry : ProducerEntry) : Prop where
  order : ∀ attach, WireOrder (entry.stream attach)
  future : ∀ attach, attaches entry.log < attach → entry.stream attach = []
  carries : ∀ attach, ∀ frame ∈ entry.stream attach, ∃ sends,
    Carries (batchedBy entry.log) frame sends ∧ sends <:+: mintedSends entry.log

structure Layout (entry : ProducerEntry) : Prop where
  released : Released entry
  slot : ∀ record, entry.slot = some record → ∃ earlier members staged,
    Minted entry record.state earlier members ∧ Staged entry record.state earlier staged

theorem Layout.indexed (layout : Layout entry) (record : ProducerRecord)
    (slot : entry.slot = some record) : record.state.Indexed := by
  obtain ⟨earlier, members, staged, minted, -⟩ := layout.slot record slot
  exact minted.indexed

/-! ### Order from ids -/

theorem precedes_of_ids {first second : List OutboundFrame}
    (ranged : ∀ frame ∈ first, frame.lowest ≤ frame.highest)
    (ranged' : ∀ frame ∈ second, frame.lowest ≤ frame.highest)
    (below : ∀ frame ∈ first, ∀ id ∈ frame.ids, ∀ next ∈ second, ∀ id' ∈ next.ids, id < id') :
    Precedes first second := by
  intro frame member next member'
  have top : frame.highest ∈ frame.ids :=
    OutboundFrame.mem_ids.mpr ⟨ranged frame member, le_refl _⟩
  have bottom : next.lowest ∈ next.ids :=
    OutboundFrame.mem_ids.mpr ⟨le_refl _, ranged' next member'⟩
  exact below frame member _ top next member' _ bottom

variable {sends : List (Nat × OutgoingMessage)}

theorem blocks_precede {sends' : List (Nat × OutgoingMessage)} {first second : List OutboundFrame}
    (one : Block batches sends first) (two : Block batches sends' second)
    (below : ∀ send ∈ sends, ∀ send' ∈ sends', send.1 < send'.1) : Precedes first second := by
  apply precedes_of_ids (fun frame member => (one.carries frame member).ranged)
    (fun frame member => (two.carries frame member).ranged)
  intro frame member id inside next member' id' inside'
  rw [(one.carries frame member).ids_eq] at inside
  rw [(two.carries next member').ids_eq] at inside'
  obtain ⟨send, inSends, rfl⟩ := List.mem_map.mp inside
  obtain ⟨send', inSends', rfl⟩ := List.mem_map.mp inside'
  exact below send inSends send' inSends'

namespace Minted

variable {entry : ProducerEntry} {producer : ProducerState}
  {earlier members : List (Nat × OutgoingMessage)}

section

variable (minted : Minted entry producer earlier members)

include minted

theorem sorted : (mintedIds entry.log).Pairwise (· < ·) := by
  obtain ⟨first, ids, -⟩ := minted.consecutive
  rw [ids]
  exact List.pairwise_lt_range'

theorem unsettled_nodup : ((entry.snapshots ++ producer.pending).map (·.sequenceId)).Nodup :=
  (minted.sorted.imp Nat.ne_of_lt).sublist minted.unsettled

theorem lt_next {send : Nat × OutgoingMessage}
    (member : send ∈ mintedSends entry.log) : send.1 < producer.nextSequenceId := by
  obtain ⟨first, ids, next⟩ := minted.consecutive
  have inIds : send.1 ∈ mintedIds entry.log := List.mem_map_of_mem member
  rw [ids, List.mem_range'_1] at inIds
  omega

theorem next_fresh : producer.nextSequenceId ∉ producer.pendingIds := by
  intro pending
  have unsettled : producer.nextSequenceId ∈ mintedIds entry.log := by
    apply minted.unsettled.subset
    rw [List.map_append]
    exact List.mem_append_right _ pending
  obtain ⟨send, member, same⟩ := List.mem_map.mp unsettled
  have below := minted.lt_next member
  omega

theorem earlier_lt_members
    {send send' : Nat × OutgoingMessage} (one : send ∈ earlier) (two : send' ∈ members) :
    send.1 < send'.1 := by
  have sorted := minted.sorted
  rw [mintedIds, minted.split, List.map_append, List.pairwise_append] at sorted
  exact sorted.2.2 _ (List.mem_map_of_mem one) _ (List.mem_map_of_mem two)

/-- The members of the container are consecutive, up to the id that comes next. -/
theorem members_consecutive :
    ∃ first, members.map Prod.fst = List.range' first members.length ∧
      producer.nextSequenceId = first + members.length := by
  obtain ⟨first, ids, next⟩ := minted.consecutive
  rw [minted.split, List.length_append] at next
  refine ⟨first + earlier.length, ?_, by omega⟩
  rw [mintedIds, minted.split, List.map_append, List.length_append] at ids
  have tail := congrArg (List.drop earlier.length) ids
  rw [List.drop_left' (by simp), List.drop_range'] at tail
  rw [tail]
  simp

end

end Minted

theorem Released.congr (released : Released before)
    (streams : ∀ attach, after.stream attach = before.stream attach)
    (attached : attaches before.log ≤ attaches after.log)
    (batched : batchedBy after.log = batchedBy before.log)
    (minted : mintedSends before.log <+: mintedSends after.log) : Released after := by
  constructor
  · intro attach
    rw [streams]
    exact released.order attach
  · intro attach later
    rw [streams]
    exact released.future attach (by omega)
  · intro attach frame member
    rw [streams] at member
    obtain ⟨sends, carries, inside⟩ := released.carries attach frame member
    rw [batched]
    exact ⟨sends, carries, inside.trans minted.isInfix⟩

/-! ### Moves that take away -/

namespace Keeps

variable {before after : ProducerEntry}

section

variable (keeps : Keeps before after)

include keeps

theorem mintedSends_eq : mintedSends after.log = mintedSends before.log := by
  obtain ⟨events, log, replies⟩ := keeps.log
  rw [log, mintedSends_append, replies.mintedSends, List.append_nil]

theorem mintedIds_eq : mintedIds after.log = mintedIds before.log := by
  rw [mintedIds, keeps.mintedSends_eq, mintedIds]

theorem attaches_eq : attaches after.log = attaches before.log := by
  obtain ⟨events, log, replies⟩ := keeps.log
  rw [log, attaches_append, replies.attaches, Nat.add_zero]

theorem batchedBy_eq : batchedBy after.log = batchedBy before.log := by
  obtain ⟨events, log, replies⟩ := keeps.log
  rw [log, batchedBy_append replies.opened]

theorem stream_eq (attach : Nat) : after.stream attach = before.stream attach := by
  obtain ⟨events, log, replies⟩ := keeps.log
  apply stream_congr _ keeps.buffered
  rw [log, handedFrames_append, replies.handedFrames, List.append_nil]

theorem released (released : Released before) : Released after :=
  released.congr keeps.stream_eq keeps.attaches_eq.ge keeps.batchedBy_eq
    (keeps.mintedSends_eq ▸ List.prefix_rfl)

end

end Keeps

/-- A buffer that is lost leaves what was handed over. -/
theorem Released.unbuffer (released : Released entry) : Released { entry with buffered := [] } := by
  have shorter (attach : Nat) : entry.stream attach =
      { entry with buffered := [] }.stream attach ++ releasedIn attach entry.buffered := by
    simp only [stream, List.append_nil]
    exact releasedIn_append _ _ _
  constructor
  · intro attach
    have order := released.order attach
    rw [shorter] at order
    exact order.of_append
  · intro attach later
    have nothing := released.future attach later
    rw [shorter] at nothing
    exact (List.append_eq_nil_iff.mp nothing).1
  · intro attach frame member
    apply released.carries attach frame
    rw [shorter]
    exact List.mem_append_left _ member

variable {op : OpSend}

theorem Replayed.congr {minted : List (Nat × OutgoingMessage)}
    {op' : OpSend} (replayed : Replayed batches minted op)
    (id : op'.sequenceId = op.sequenceId) (frames : op'.replayFrames = op.replayFrames) :
    Replayed batches minted op' := by
  obtain ⟨msg, block, member⟩ := replayed
  exact ⟨msg, by rw [id, frames]; exact block, by rw [id]; exact member⟩

variable {more : List (Nat × OutgoingMessage)}

theorem Replayed.mono {minted : List (Nat × OutgoingMessage)}
    (replayed : Replayed batches minted op) : Replayed batches (minted ++ more) op := by
  obtain ⟨msg, block, member⟩ := replayed
  exact ⟨msg, block, List.mem_append_left _ member⟩

/-- The slot layout once sends, frames or the open gate are gone. -/
theorem Staged.reduce (layout : Staged before producer earlier staged) (keeps : Keeps before after)
    (reduces : producer.Reduces producer') (kept : producer'.outbound = producer.outbound) :
    Staged after producer' earlier staged := by
  refine ⟨kept.trans layout.outbound, ?_, layout.ordered, ?_, ?_, ?_, ?_⟩
  · rw [keeps.batchedBy_eq]
    exact layout.blocks
  · intro op member framed
    obtain ⟨old, inBefore, id, frames⟩ := reduces.mem_pending member
    rw [frames] at framed ⊢
    obtain ⟨replayed, place⟩ := layout.pending old inBefore framed
    rw [keeps.batchedBy_eq]
    exact ⟨replayed.congr id frames, place⟩
  · intro op member
    rw [keeps.batchedBy_eq]
    exact layout.snapshots op (keeps.snapshots.subset member)
  · intro ready
    rw [keeps.attaches_eq, keeps.stream_eq]
    exact layout.gate (reduces.gate ready)
  · intro attach
    rw [keeps.stream_eq]
    exact layout.streamed attach

theorem Staged.clear (layout : Staged before producer earlier staged) (keeps : Keeps before after)
    (reduces : producer.Reduces producer') (cleared : producer'.outbound = []) :
    Staged after producer' (earlier ++ more) [] := by
  refine ⟨cleared, by simp, .nil, ?_, ?_, ?_, ?_⟩
  · intro op member framed
    obtain ⟨old, inBefore, id, frames⟩ := reduces.mem_pending member
    rw [frames] at framed
    obtain ⟨replayed, -⟩ := layout.pending old inBefore framed
    rw [keeps.batchedBy_eq]
    exact ⟨(replayed.congr id frames).mono, .inr (by simp)⟩
  · intro op member
    rw [keeps.batchedBy_eq]
    exact ⟨(layout.snapshots op (keeps.snapshots.subset member)).1.mono, by simp⟩
  · intro ready
    rw [keeps.attaches_eq, keeps.stream_eq]
    exact ⟨(layout.gate (reduces.gate ready)).1, by simp⟩
  · intro attach frame member id inside
    rw [keeps.stream_eq] at member
    rw [List.map_append]
    exact List.mem_append_left _ (layout.streamed attach frame member id inside)

/-- The container keeps its members, or they join the earlier ones. -/
theorem Minted.reduce {earlier' members' : List (Nat × OutgoingMessage)}
    (minted : Minted before producer earlier members) (keeps : Keeps before after)
    (reduces : producer.Reduces producer') (split : earlier' ++ members' = earlier ++ members)
    (fewer : members'.Sublist members) (holds : producer'.batch.Holds members') :
    Minted after producer' earlier' members' := by
  refine ⟨?_, holds, ?_, ?_, ?_, reduces.indexed minted.indexed, ?_⟩
  · rw [keeps.mintedSends_eq, minted.split, split]
  · intro send member
    rw [keeps.batchedBy_eq]
    exact minted.joined send (fewer.subset member)
  · have next : producer'.nextSequenceId = producer.nextSequenceId := by rw [reduces.rest]
    rw [keeps.mintedIds_eq, keeps.mintedSends_eq, next]
    exact minted.consecutive
  · rw [keeps.mintedIds_eq]
    refine List.Sublist.trans ?_ minted.unsettled
    rw [List.map_append, List.map_append]
    exact (keeps.snapshots.map _).append reduces.pendingIds
  · rw [keeps.batchedBy_eq, reduces.batches]
    exact minted.config

section

variable (layout : Layout before)

include layout

theorem Layout.reduce (slot : before.slot = some record)
    (slot' : after.slot = some record') (reduces : record.state.Reduces record'.state)
    (keeps : Keeps before after) : Layout after := by
  refine ⟨keeps.released layout.released, ?_⟩
  intro found there
  cases slot'.symm.trans there
  obtain ⟨earlier, members, staged, minted, stagedLayout⟩ := layout.slot record slot
  rcases reduces.frames with ⟨outbound, batch⟩ | ⟨outbound, batch⟩
  · exact ⟨earlier, members, staged,
      minted.reduce keeps reduces rfl (List.Sublist.refl _) (batch ▸ minted.holds),
      stagedLayout.reduce keeps reduces outbound⟩
  · exact ⟨earlier ++ members, [], [],
      minted.reduce keeps reduces (List.append_nil _) (List.nil_sublist _) (batch ▸ .nil),
      stagedLayout.clear keeps reduces outbound⟩

theorem Layout.receive {receipt : CommandSendReceipt} (slot : before.slot = some record)
    (received : Received before record receipt after record') : Layout after := by
  refine layout.reduce slot received.slot ?_ received.keeps
  rw [received.state]
  exact record.state.handleSendReceipt_reduces receipt

theorem Layout.vacate (slot' : after.slot = none)
    (keeps : Keeps before after ∨ Keeps { before with buffered := [] } after) : Layout after := by
  refine ⟨?_, by simp [slot']⟩
  rcases keeps with keeps | keeps
  · exact keeps.released layout.released
  · exact keeps.released layout.released.unbuffer

theorem Layout.still
    (slot : after.slot = before.slot) (keeps : Keeps before after) : Layout after := by
  cases found : before.slot with
  | none => exact layout.vacate (slot.trans found) (.inl keeps)
  | some => exact layout.reduce found (slot.trans found) (.refl _) keeps

end

/-! ### A lost connection -/

theorem replayable_ids (record : ProducerRecord) :
    ((replayable record).map (·.sequenceId)).Sublist record.state.pendingIds := by
  rw [replayable, List.map_map]
  exact List.filter_sublist.map _

theorem mem_replayable (member : op ∈ replayable record) :
    ∃ old ∈ record.state.pending, old.replayFrames ≠ [] ∧ op.sequenceId = old.sequenceId ∧
      op.replayFrames = old.replayFrames := by
  obtain ⟨old, inside, rfl⟩ := List.mem_map.mp member
  obtain ⟨inPending, framed⟩ := List.mem_filter.mp inside
  exact ⟨old, inPending, by simpa using framed, rfl, rfl⟩

theorem Layout.disconnected (layout : Layout entry) (slot : entry.slot = some record) :
    Layout (entry.disconnected record) := by
  obtain ⟨earlier, members, staged, minted, stagedLayout⟩ := layout.slot record slot
  have released := layout.released.unbuffer
  refine ⟨⟨released.order, released.future, released.carries⟩, ?_⟩
  intro found there
  cases there
  have shorter (attach : Nat) {frame : OutboundFrame}
      (member : frame ∈ (entry.disconnected record).stream attach) :
      frame ∈ entry.stream attach := by
    have handed : (entry.disconnected record).stream attach =
        releasedIn attach (handedFrames entry.log) :=
      congrArg (releasedIn attach) (List.append_nil _)
    rw [handed] at member
    rw [stream, releasedIn_append]
    exact List.mem_append_left _ member
  refine ⟨earlier ++ members, [], [], ⟨?_, .nil, by simp, minted.consecutive, ?_,
      (drainPendingSends_indexed minted.indexed).congr rfl rfl, minted.config⟩,
    ⟨rfl, by simp, .nil, by simp [drainPendingSends], ?_, by simp, ?_⟩⟩
  · rw [List.append_nil]
    exact minted.split
  · refine List.Sublist.trans ?_ minted.unsettled
    simp only [ProducerEntry.disconnected, drainPendingSends, List.map_append,
      List.append_nil]
    exact (List.Sublist.refl _).append (replayable_ids record)
  · intro op member
    refine ⟨?_, by simp⟩
    rcases List.mem_append.mp member with older | taken
    · exact (stagedLayout.snapshots op older).1.mono
    · obtain ⟨old, inPending, framed, id, frames⟩ := mem_replayable taken
      exact ((stagedLayout.pending old inPending framed).1.congr id frames).mono
  · intro attach frame member id inside
    rw [List.map_append]
    exact List.mem_append_left _
      (stagedLayout.streamed attach frame (shorter attach member) id inside)

/-! ### Staging -/

/-- Beside the slot and the sends accepted, nothing has changed. -/
structure Undisturbed (before after : ProducerEntry) : Prop where
  snapshots : after.snapshots = before.snapshots
  streams : ∀ attach, after.stream attach = before.stream attach
  attached : attaches after.log = attaches before.log
  batched : batchedBy after.log = batchedBy before.log

theorem Undisturbed.withState (entry : ProducerEntry) (record : ProducerRecord)
    (state : ProducerState) : Undisturbed entry (entry.withState record state) :=
  ⟨rfl, fun _ => rfl, rfl, rfl⟩

theorem Undisturbed.accepted {seq : Nat}
    (same : after = (before.withState record state).observe [.minted seq msg]) :
    Undisturbed before after := by
  subst same
  refine ⟨rfl, stream_congr ?_ rfl, ?_, batchedBy_append ?_⟩
  · change handedFrames (before.log ++ [.minted seq msg]) = _
    rw [handedFrames_append]
    exact List.append_nil _
  · change attaches (before.log ++ [.minted seq msg]) = _
    rw [attaches_append]
    rfl
  · intro event member
    rw [List.mem_singleton] at member
    subst member
    rfl

variable {frames : List OutboundFrame}

theorem Replayed.precedes
    (replayed : Replayed batches earlier op) (block : Block batches sends frames)
    (younger : ∀ send ∈ earlier, ∀ send' ∈ sends, send.1 < send'.1) :
    Precedes op.replayFrames frames := by
  obtain ⟨msg, own, member⟩ := replayed
  apply blocks_precede own block
  intro send inOwn send' inSends
  rw [List.mem_singleton] at inOwn
  subst inOwn
  exact younger _ member send' inSends

/-- A block of sends younger than the earlier ones goes to the back. -/
theorem Staged.stage (layout : Staged before producer earlier staged)
    (released : Released before) (undisturbed : Undisturbed before after)
    (block : Block (batchedBy before.log) sends frames)
    (younger : ∀ send ∈ earlier, ∀ send' ∈ sends, send.1 < send'.1)
    (outbound : producer'.outbound = producer.outbound ++ frames)
    (gate : producer'.brokerReady = producer.brokerReady)
    (pending : ∀ op ∈ producer'.pending, op ∈ producer.pending ∨
      op.replayFrames = frames ∧ ∃ msg, sends = [(op.sequenceId, msg)]) :
    Staged after producer' (earlier ++ sends) (staged ++ [frames]) := by
  have behind (first : List OutboundFrame) (older : ∀ block ∈ staged, Precedes first block)
      (last : Precedes first frames) : ∀ block ∈ staged ++ [frames], Precedes first block := by
    rw [List.forall_mem_append, List.forall_mem_singleton]
    exact ⟨older, last⟩
  refine ⟨?_, ?_, ?_, ?_, ?_, ?_, ?_⟩
  · rw [outbound, layout.outbound, List.flatten_append, List.flatten_singleton]
  · rw [undisturbed.batched, List.forall_mem_append, List.forall_mem_singleton]
    refine ⟨?_, sends, block, (List.suffix_append _ _).isInfix⟩
    intro other member
    obtain ⟨sends', block', inside⟩ := layout.blocks other member
    exact ⟨sends', block', inside.trans (List.prefix_append _ _).isInfix⟩
  · rw [List.pairwise_append]
    refine ⟨layout.ordered, List.pairwise_singleton _ _, ?_⟩
    intro other older
    rw [List.forall_mem_singleton]
    obtain ⟨sends', block', inside⟩ := layout.blocks other older
    apply blocks_precede block' block
    intro send inSends
    exact younger send (inside.subset inSends)
  · intro op member framed
    rw [undisturbed.batched]
    rcases pending op member with older | ⟨own, msg, rfl⟩
    · obtain ⟨replayed, place⟩ := layout.pending op older framed
      refine ⟨replayed.mono, ?_⟩
      rcases place with among | first
      · exact .inl (List.mem_append_left _ among)
      · exact .inr (behind _ first (replayed.precedes block younger))
    · refine ⟨⟨msg, own ▸ block, by simp⟩, .inl ?_⟩
      rw [own]
      exact List.mem_append_right _ (List.mem_singleton_self _)
  · intro op member
    rw [undisturbed.snapshots] at member
    obtain ⟨replayed, first⟩ := layout.snapshots op member
    rw [undisturbed.batched]
    exact ⟨replayed.mono, behind _ first (replayed.precedes block younger)⟩
  · intro ready
    rw [gate] at ready
    obtain ⟨complete, first⟩ := layout.gate ready
    rw [undisturbed.attached, undisturbed.streams]
    refine ⟨complete, behind _ first ?_⟩
    -- A released frame has only earlier ids, which are below those of the block.
    apply precedes_of_ids (released.order _).ranged
      (fun next member => (block.carries next member).ranged)
    intro frame member id inside next member' id' inside'
    rw [(block.carries next member').ids_eq] at inside'
    obtain ⟨send, inEarlier, rfl⟩ := List.mem_map.mp (layout.streamed _ frame member id inside)
    obtain ⟨send', inSends, rfl⟩ := List.mem_map.mp inside'
    exact younger send inEarlier send' inSends
  · intro attach frame member id inside
    rw [undisturbed.streams] at member
    rw [List.map_append]
    exact List.mem_append_left _ (layout.streamed attach frame member id inside)

/-- A send without frames leaves the staging as it is. -/
theorem Staged.join
    (layout : Staged before producer earlier staged) (undisturbed : Undisturbed before after)
    (outbound : producer'.outbound = producer.outbound)
    (gate : producer'.brokerReady = producer.brokerReady)
    (pending : ∀ op ∈ producer'.pending, op ∈ producer.pending ∨ op.replayFrames = []) :
    Staged after producer' earlier staged := by
  refine ⟨outbound.trans layout.outbound, ?_, layout.ordered, ?_, ?_, ?_, ?_⟩
  · rw [undisturbed.batched]
    exact layout.blocks
  · intro op member framed
    rw [undisturbed.batched]
    rcases pending op member with older | plain
    · exact layout.pending op older framed
    · exact absurd plain framed
  · rw [undisturbed.snapshots, undisturbed.batched]
    exact layout.snapshots
  · rw [gate, undisturbed.attached, undisturbed.streams]
    exact layout.gate
  · intro attach
    rw [undisturbed.streams]
    exact layout.streamed attach

theorem Undisturbed.released (undisturbed : Undisturbed before after)
    (minted : mintedSends after.log = mintedSends before.log ++ more)
    (released : Released before) : Released after :=
  released.congr undisturbed.streams undisturbed.attached.ge undisturbed.batched
    (minted ▸ List.prefix_append _ _)

/-! ### Flushes and accepted sends -/

variable {single : Prost SingleMessageMetadata} {codecs : Codecs}

/-- A flush does nothing, or stages one frame that carries the members of the container. -/
theorem Minted.flush (minted : Minted entry producer earlier members) (publishTimeMs : Nat) :
    (producer.flushBatch single codecs publishTimeMs).2 = producer ∨
      ∃ frame, (producer.flushBatch single codecs publishTimeMs).2 =
          { producer with outbound := producer.outbound ++ [frame], batch := {} } ∧
        Block (batchedBy entry.log) members [frame] := by
  by_cases idle : producer.batch.isEmpty = true ∨ producer.closed = true
  · exact .inl (by simp [ProducerState.flushBatch, idle])
  · rw [not_or, Bool.not_eq_true, Bool.not_eq_true] at idle
    obtain ⟨filled, opened⟩ := idle
    have flushed := flushBatch_open single codecs producer publishTimeMs filled opened
    obtain ⟨count, length⟩ : ∃ count, members.length = count + 1 := by
      apply Nat.exists_eq_succ_of_ne_zero
      rw [minted.holds.isEmpty] at filled
      simpa using filled
    obtain ⟨first, consecutive, -⟩ := minted.members_consecutive
    rw [length] at consecutive
    exact .inr ⟨_, flushed, batchFrame_block single codecs minted.holds consecutive
      minted.joined publishTimeMs⟩

theorem Layout.flush (layout : Layout entry)
    (slot : entry.slot = some record) (publishTimeMs : Nat) :
    Layout (entry.withState record (record.state.flushBatch single codecs publishTimeMs).2) := by
  obtain ⟨earlier, members, staged, minted, stagedLayout⟩ := layout.slot record slot
  rcases minted.flush publishTimeMs with same | ⟨frame, flushed, block⟩
  · rw [same]
    exact layout.reduce slot rfl (.refl _) (.silent (List.Sublist.refl _) rfl rfl)
  · rw [flushed]
    have undisturbed := Undisturbed.withState entry record
      { record.state with outbound := record.state.outbound ++ [frame], batch := {} }
    refine ⟨undisturbed.released (List.append_nil _).symm layout.released, ?_⟩
    intro found there
    cases there
    refine ⟨earlier ++ members, [], staged ++ [[frame]],
      ⟨?_, .nil, by simp, minted.consecutive, minted.unsettled,
        minted.indexed.congr rfl rfl, minted.config⟩,
      stagedLayout.stage layout.released undisturbed block
        (fun send one send' two => minted.earlier_lt_members one two) rfl rfl
        fun op member => .inl member⟩
    rw [List.append_nil]
    exact minted.split

variable {batch : BatchContainer}

theorem Accepted.minted_eq (accepted : Accepted codecs before after msg record op batch state) :
    mintedSends after.log = mintedSends before.log ++ [(record.state.nextSequenceId, msg)] := by
  rw [accepted.after_eq]
  exact mintedSends_append _ _

theorem Accepted.minted {earlier' members' : List (Nat × OutgoingMessage)}
    (accepted : Accepted codecs before after msg record op batch state)
    (bounded : record.state.nextSequenceId + 1 < 2 ^ 64)
    (minted : Minted before record.state earlier members)
    (split : earlier' ++ members' = earlier ++ members ++ [(record.state.nextSequenceId, msg)])
    (holds : state.batch.Holds members')
    (joined : ∀ send ∈ members', batchedBy before.log send.2 = true) :
    Minted after state earlier' members' := by
  have undisturbed := Undisturbed.accepted accepted.after_eq
  have mintedSends := accepted.minted_eq
  have mintedIds : mintedIds after.log = mintedIds before.log ++ [record.state.nextSequenceId] := by
    simp [mintedIds, mintedSends]
  refine ⟨?_, holds, ?_, ?_, ?_, ?_, ?_⟩
  · rw [mintedSends, minted.split, split]
  · rw [undisturbed.batched]
    exact joined
  · obtain ⟨first, ids, next⟩ := minted.consecutive
    refine ⟨first, ?_, ?_⟩
    · rw [mintedIds, ids, mintedSends, List.length_append, List.length_singleton,
        List.range'_concat, next]
      simp
    · rw [accepted.accepts.nextSequenceId_eq bounded, mintedSends, List.length_append, next]
      rfl
  · rw [undisturbed.snapshots, accepted.accepts.pending_eq, ← List.append_assoc, List.map_append,
      mintedIds]
    apply minted.unsettled.append
    rw [List.map_singleton, accepted.accepts.id]
  · rw [accepted.accepts.after_eq]
    apply pushPending_indexed
    · exact minted.indexed.congr rfl rfl
    · intro pending
      rw [accepted.accepts.id] at pending
      exact minted.next_fresh pending
  · rw [undisturbed.batched, ← minted.config, accepted.accepts.after_eq]
    rfl

theorem Layout.accept (layout : Layout before) (bounded : record.state.nextSequenceId + 1 < 2 ^ 64)
    (accepted : Accepted codecs before after msg record op batch state) : Layout after := by
  obtain ⟨earlier, members, staged, minted, stagedLayout⟩ := layout.slot record accepted.slot
  have undisturbed := Undisturbed.accepted accepted.after_eq
  refine ⟨undisturbed.released accepted.minted_eq layout.released, ?_⟩
  intro found there
  have found_eq : found = { record with state } := by
    rw [accepted.after_eq] at there
    exact (Option.some.inj there).symm
  subst found_eq
  have gate := accepted.accepts.brokerReady_eq
  have pending := accepted.accepts.pending_eq
  have outbound := accepted.accepts.outbound_eq
  have container := accepted.accepts.batch_eq
  have placed := accepted.accepts.placed
  generalize frames_eq : op.replayFrames = frames at placed outbound
  cases placed with
  | joined joins now =>
    refine ⟨earlier, members ++ [(record.state.nextSequenceId, msg)], staged,
      accepted.minted bounded minted (List.append_assoc _ _ _).symm ?_ ?_,
      stagedLayout.join undisturbed (by rw [outbound, List.append_nil]) gate ?_⟩
    · rw [container]
      exact minted.holds.withMember msg _ now
    · rw [List.forall_mem_append, List.forall_mem_singleton, ← minted.config]
      exact ⟨minted.config ▸ minted.joined, canJoin_batches joins⟩
    · rw [pending, List.forall_mem_append, List.forall_mem_singleton]
      exact ⟨fun older member => .inl member, .inr frames_eq⟩
  | framed apart clear encoded =>
    have none : members = [] := by
      rw [minted.holds.isEmpty] at clear
      exact List.isEmpty_iff.mp clear
    subst none
    have alone : batchedBy before.log msg = false := by
      rw [← minted.config]
      exact batches_of_apart accepted.opened (minted.holds.empty rfl) apart
    have block := encoded.block codecs alone
    refine ⟨earlier ++ [(record.state.nextSequenceId, msg)], [], staged ++ [frames],
      accepted.minted bounded minted (by simp) ?_ (by simp),
      stagedLayout.stage layout.released undisturbed block ?_ outbound gate ?_⟩
    · rw [container]
      exact minted.holds
    · intro send member
      rw [List.forall_mem_singleton]
      apply minted.lt_next
      rw [minted.split]
      exact List.mem_append_left _ member
    · rw [pending, List.forall_mem_append, List.forall_mem_singleton]
      exact ⟨fun older member => .inl member, .inr ⟨frames_eq, msg, by rw [accepted.accepts.id]⟩⟩

/-! ### Releasing and replaying -/

theorem handedFrames_polled (buffered : List (Nat × OutboundFrame)) :
    handedFrames (buffered.map ofReleased) = buffered := by
  rw [handedFrames, List.filterMap_map]
  exact List.filterMap_some

theorem polled_silent (buffered : List (Nat × OutboundFrame)) :
    let events := buffered.map ofReleased
    mintedSends events = [] ∧ attaches events = 0 ∧ ∀ event ∈ events, event.opened? = none := by
  refine ⟨?_, ?_, ?_⟩
  · rw [mintedSends, List.filterMap_eq_nil_iff]
    rintro event member
    obtain ⟨released, _, rfl⟩ := List.mem_map.mp member
    rfl
  · rw [attaches, List.countP_eq_zero]
    rintro event member
    obtain ⟨released, _, rfl⟩ := List.mem_map.mp member
    simp [ofReleased, isAttached]
  · rintro event member
    obtain ⟨released, _, rfl⟩ := List.mem_map.mp member
    rfl

theorem Minted.congr (minted : Minted before producer earlier members)
    (sends : mintedSends after.log = mintedSends before.log)
    (batched : batchedBy after.log = batchedBy before.log)
    (unsettled : (after.snapshots ++ producer'.pending).map (·.sequenceId) =
      (before.snapshots ++ producer.pending).map (·.sequenceId))
    (batch : producer'.batch = producer.batch)
    (next : producer'.nextSequenceId = producer.nextSequenceId)
    (indexed : producer'.Indexed) (config : producer'.batches = producer.batches) :
    Minted after producer' earlier members := by
  have ids : mintedIds after.log = mintedIds before.log := by rw [mintedIds, sends, mintedIds]
  refine ⟨sends.trans minted.split, batch ▸ minted.holds, batched ▸ minted.joined, ?_, ?_, indexed,
    ?_⟩
  · rw [ids, sends, next]
    exact minted.consecutive
  · rw [unsettled, ids]
    exact minted.unsettled
  · rw [config, batched]
    exact minted.config

theorem Layout.poll (layout : Layout entry) : Layout entry.pollTransmit := by
  obtain ⟨minted, attached, unopened⟩ := polled_silent entry.buffered
  have sends : mintedSends entry.pollTransmit.log = mintedSends entry.log := by
    change mintedSends (entry.log ++ _) = _
    rw [mintedSends_append, minted, List.append_nil]
  have undisturbed : Undisturbed entry entry.pollTransmit := by
    refine ⟨rfl, ?_, ?_, batchedBy_append unopened⟩
    · intro attach
      change releasedIn attach (handedFrames (entry.log ++ _) ++ []) = _
      rw [List.append_nil, handedFrames_append, handedFrames_polled, stream]
    · change attaches (entry.log ++ _) = _
      rw [attaches_append, attached, Nat.add_zero]
  have same : mintedSends entry.pollTransmit.log = mintedSends entry.log ++ [] := by
    rw [sends, List.append_nil]
  refine ⟨undisturbed.released same layout.released, ?_⟩
  intro record slot
  obtain ⟨earlier, members, staged, mintedLayout, stagedLayout⟩ := layout.slot record slot
  exact ⟨earlier, members, staged,
    mintedLayout.congr sends undisturbed.batched rfl rfl rfl mintedLayout.indexed rfl,
    stagedLayout.join undisturbed rfl rfl fun op member => .inl member⟩

theorem drainOutbound_stream
    (slot : entry.slot = some record) (ready : record.state.brokerReady = true) (attach : Nat) :
    entry.drainOutbound.stream attach = entry.stream attach ++
      if attaches entry.log = attach then record.state.outbound else [] := by
  rw [drainOutbound_eq slot ready, stream, stream]
  rw [← List.append_assoc, releasedIn_append, releasedIn_tagged]

variable {frame : OutboundFrame}

/-- Every staged frame carries sends minted before those in the container. -/
theorem Staged.carries (layout : Staged entry producer earlier staged)
    (member : frame ∈ producer.outbound) :
    ∃ sends, Carries (batchedBy entry.log) frame sends ∧ sends <:+: earlier := by
  rw [layout.outbound, List.mem_flatten] at member
  obtain ⟨frames, inStaged, inFrames⟩ := member
  obtain ⟨sends, block, inside⟩ := layout.blocks frames inStaged
  exact ⟨sends, block.carries frame inFrames, inside⟩

theorem Staged.order (layout : Staged entry producer earlier staged) :
    WireOrder producer.outbound ∧ Complete producer.outbound := by
  have sound : ∀ frames ∈ staged, ∃ sends, Block (batchedBy entry.log) sends frames := by
    intro frames member
    obtain ⟨sends, block, -⟩ := layout.blocks frames member
    exact ⟨sends, block⟩
  rw [layout.outbound]
  exact blocks_order sound layout.ordered

/-- A frame of a drained entry was released before, or was staged. -/
theorem mem_drainOutbound_stream
    (slot : entry.slot = some record) (ready : record.state.brokerReady = true) {attach : Nat}
    (member : frame ∈ entry.drainOutbound.stream attach) :
    frame ∈ entry.stream attach ∨ frame ∈ record.state.outbound := by
  rw [drainOutbound_stream slot ready, List.mem_append] at member
  refine member.imp_right ?_
  split
  · exact id
  · exact fun inNone => absurd inNone List.not_mem_nil

theorem Staged.precedes
    (layout : Staged entry producer earlier staged) (ready : producer.brokerReady = true) :
    Precedes (entry.stream (attaches entry.log)) producer.outbound := by
  intro frame member next member'
  rw [layout.outbound, List.mem_flatten] at member'
  obtain ⟨frames, inStaged, inFrames⟩ := member'
  exact (layout.gate ready).2 frames inStaged frame member next inFrames

section

variable (slot : entry.slot = some record) (ready : record.state.brokerReady = true)

include slot ready

theorem Released.drain (released : Released entry)
    (minted : Minted entry record.state earlier members)
    (layout : Staged entry record.state earlier staged) : Released entry.drainOutbound := by
  have streams := drainOutbound_stream slot ready
  refine ⟨?_, ?_, ?_⟩
  · intro attach
    rw [streams]
    split
    case isTrue current =>
      subst current
      exact (released.order _).append layout.order.1 (layout.gate ready).1 (layout.precedes ready)
    case isFalse =>
      rw [List.append_nil]
      exact released.order attach
  · intro attach later
    rw [drainOutbound_log] at later
    rw [streams, if_neg (Nat.ne_of_lt later), List.append_nil]
    exact released.future attach later
  · intro attach frame member
    rw [drainOutbound_log]
    rcases mem_drainOutbound_stream slot ready member with older | staged
    · exact released.carries attach frame older
    · obtain ⟨sends, carries, inside⟩ := layout.carries staged
      rw [minted.split]
      exact ⟨sends, carries, inside.trans (List.prefix_append _ _).isInfix⟩

/-- Drained, nothing is staged, and what was staged completes the stream. -/
theorem Staged.drain (layout : Staged entry record.state earlier staged) :
    Staged entry.drainOutbound { record.state with outbound := [] } earlier [] := by
  refine ⟨rfl, by simp, .nil, ?_, ?_, ?_, ?_⟩
  · intro op member framed
    rw [drainOutbound_log]
    exact ⟨(layout.pending op member framed).1, .inr (by simp)⟩
  · intro op member
    rw [drainOutbound_eq slot ready] at member
    rw [drainOutbound_log]
    exact ⟨(layout.snapshots op member).1, by simp⟩
  · intro _
    rw [drainOutbound_log, drainOutbound_stream slot ready, if_pos rfl]
    exact ⟨(layout.gate ready).1.append layout.order.2, by simp⟩
  · intro attach frame member id inside
    rcases mem_drainOutbound_stream slot ready member with older | staged
    · exact layout.streamed attach frame older id inside
    · obtain ⟨sends, carries, inEarlier⟩ := layout.carries staged
      rw [carries.ids_eq] at inside
      exact (inEarlier.map Prod.fst).subset inside

theorem Layout.drain (layout : Layout entry) : Layout entry.drainOutbound := by
  obtain ⟨earlier, members, staged, minted, stagedLayout⟩ := layout.slot record slot
  refine ⟨layout.released.drain slot ready minted stagedLayout, ?_⟩
  intro found there
  cases (drainOutbound_slot slot ready).symm.trans there
  have minted' : Minted entry.drainOutbound { record.state with outbound := [] } earlier members :=
    minted.congr (by rw [drainOutbound_log]) (by rw [drainOutbound_log])
      (by rw [drainOutbound_eq slot ready]) rfl rfl (minted.indexed.congr rfl rfl) rfl
  exact ⟨earlier, members, [], minted', stagedLayout.drain slot ready⟩

end

/-! ### Attaching -/

/-- The frames of a send that can be replayed are stamped with its id. -/
theorem Replayed.stamped
    {minted : List (Nat × OutgoingMessage)} (replayed : Replayed batches minted op)
    (member : frame ∈ op.replayFrames) :
    frame.sequenceId = op.sequenceId ∧ frame.highest = op.sequenceId := by
  obtain ⟨msg, block, -⟩ := replayed
  have ids : frame.ids = List.range' op.sequenceId 1 := (block.carries frame member).ids_eq
  obtain ⟨lowest, highest⟩ := OutboundFrame.range_of_ids ids
  exact ⟨(block.stamped frame member).trans lowest, highest⟩

/-- A pending send with frames is staged exactly when a staged frame is stamped with its id. -/
theorem Staged.unstaged_iff
    (layout : Staged entry producer earlier staged) (member : op ∈ producer.pending)
    (framed : op.replayFrames ≠ []) :
    op ∈ unstaged producer ↔ op.replayFrames ∉ staged := by
  obtain ⟨replayed, place⟩ := layout.pending op member framed
  obtain ⟨frame, inFrames⟩ := List.exists_mem_of_ne_nil _ framed
  have stamped := replayed.stamped inFrames
  simp only [unstaged, List.mem_filter, member, true_and, Bool.not_eq_true', List.contains_eq_mem,
    decide_eq_false_iff_not]
  rw [not_iff_not]
  constructor
  · intro stampedSo
    rcases place with among | first
    · exact among
    · obtain ⟨other, inOutbound, same⟩ := List.mem_map.mp stampedSo
      rw [layout.outbound, List.mem_flatten] at inOutbound
      obtain ⟨frames, inStaged, inside⟩ := inOutbound
      obtain ⟨sends, block, -⟩ := layout.blocks frames inStaged
      have below := first frames inStaged frame inFrames other inside
      have lowest := block.stamped other inside
      omega
  · intro among
    apply List.mem_map.mpr
    refine ⟨frame, ?_, stamped.1⟩
    rw [layout.outbound]
    exact List.mem_flatten.mpr ⟨_, among, inFrames⟩

variable (entry producer)

def replays : List OpSend :=
  entry.snapshots ++ (unstaged producer).filter fun op => !op.replayFrames.isEmpty

theorem replays_frames :
    entry.snapshots.flatMap (·.replayFrames) ++ (unstaged producer).flatMap (·.replayFrames) =
      ((replays entry producer).map (·.replayFrames)).flatten := by
  have framed (ops : List OpSend) :
      ops.flatMap (·.replayFrames) =
        (ops.filter fun op => !op.replayFrames.isEmpty).flatMap (·.replayFrames) := by
    induction ops with
    | nil => rfl
    | cons op _ ih =>
      cases frames : op.replayFrames with
      | nil | cons => simp [frames, ih]
  rw [framed (unstaged producer), ← List.flatMap_append, List.flatMap_def, replays]

variable {entry producer}

section Replays

variable {entry : ProducerEntry} {producer : ProducerState}
  {earlier members : List (Nat × OutgoingMessage)} {staged : List (List OutboundFrame)}

/-- A replayed send has a block of its own that comes before everything staged. -/
theorem Staged.of_replays (layout : Staged entry producer earlier staged)
    (member : op ∈ replays entry producer) :
    Replayed (batchedBy entry.log) earlier op ∧ ∀ block ∈ staged, Precedes op.replayFrames block := by
  rcases List.mem_append.mp member with aside | fresh
  · exact layout.snapshots op aside
  · obtain ⟨inUnstaged, filled⟩ := List.mem_filter.mp fresh
    have framed : op.replayFrames ≠ [] := by simpa using filled
    have inPending : op ∈ producer.pending := (List.mem_filter.mp inUnstaged).1
    obtain ⟨replayed, place⟩ := layout.pending op inPending framed
    exact ⟨replayed,
      place.resolve_left ((layout.unstaged_iff inPending framed).mp inUnstaged)⟩

theorem Minted.replays_sorted (minted : Minted entry producer earlier members) :
    (replays entry producer).Pairwise fun op op' => op.sequenceId < op'.sequenceId := by
  have fewer : (replays entry producer).Sublist (entry.snapshots ++ producer.pending) :=
    (List.Sublist.refl _).append (List.filter_sublist.trans List.filter_sublist)
  have sorted := minted.sorted.sublist minted.unsettled
  rw [List.pairwise_map] at sorted
  exact sorted.sublist fewer

section

variable (layout : Staged entry producer earlier staged)

include layout

/-- The blocks staged by an attach are in order. -/
theorem Staged.replays_ordered (minted : Minted entry producer earlier members) :
    ((replays entry producer).map (·.replayFrames) ++ staged).Pairwise Precedes := by
  rw [List.pairwise_append, List.pairwise_map]
  refine ⟨?_, layout.ordered, ?_⟩
  · refine minted.replays_sorted.imp_of_mem ?_
    intro op op' member member' below
    obtain ⟨⟨msg, block, -⟩, -⟩ := layout.of_replays member
    obtain ⟨⟨msg', block', -⟩, -⟩ := layout.of_replays member'
    apply blocks_precede block block'
    simpa using below
  · intro frames inReplays other inStaged
    obtain ⟨op, member, rfl⟩ := List.mem_map.mp inReplays
    exact (layout.of_replays member).2 other inStaged

/-- Every block an attach leaves staged carries sends minted before those in the container. -/
theorem Staged.replays_sound :
    ∀ block ∈ (replays entry producer).map (·.replayFrames) ++ staged, ∃ sends,
      Block (batchedBy entry.log) sends block ∧ sends <:+: earlier := by
  rw [List.forall_mem_append]
  refine ⟨?_, layout.blocks⟩
  intro frames inReplays
  obtain ⟨op, member, rfl⟩ := List.mem_map.mp inReplays
  obtain ⟨⟨msg, block, inEarlier⟩, -⟩ := layout.of_replays member
  obtain ⟨front, back, split⟩ := List.append_of_mem inEarlier
  exact ⟨_, block, front, back, by simp [split]⟩

theorem Staged.replayed
    (member : op ∈ entry.snapshots ++ producer.pending) (framed : op.replayFrames ≠ []) :
    Replayed (batchedBy entry.log) earlier op := by
  rcases List.mem_append.mp member with aside | pending
  · exact (layout.snapshots op aside).1
  · exact (layout.pending op pending framed).1

/-- The frames of every unsettled send that has any are one of these blocks. -/
theorem Staged.replays_block
    (member : op ∈ entry.snapshots ++ producer.pending) (framed : op.replayFrames ≠ []) :
    op.replayFrames ∈ (replays entry producer).map (·.replayFrames) ++ staged := by
  by_cases waits : op ∈ replays entry producer
  · exact List.mem_append_left _ (List.mem_map_of_mem waits)
  · rw [replays, List.mem_append, not_or, List.mem_filter, not_and] at waits
    have pending := (List.mem_append.mp member).resolve_left waits.1
    have staged : ¬ op ∈ unstaged producer := fun inside => waits.2 inside (by simpa using framed)
    rw [layout.unstaged_iff pending framed, not_not] at staged
    exact List.mem_append_right _ staged

end

end Replays

section

variable (attached : Attached before record lastSequenceId after record')

include attached

theorem ProducerEntry.Attached.stream_eq
    (attach : Nat) : after.stream attach = before.stream attach := by
  apply stream_congr _ attached.buffered
  rw [attached.log, handedFrames_append]
  exact List.append_nil _

theorem ProducerEntry.Attached.readings :
    mintedSends after.log = mintedSends before.log ∧
      attaches after.log = attaches before.log + 1 ∧ batchedBy after.log = batchedBy before.log := by
  rw [attached.log]
  refine ⟨?_, attaches_append _ _, batchedBy_append ?_⟩
  · rw [mintedSends_append]
    exact List.append_nil _
  · simp [opened?]

theorem ProducerEntry.Attached.outbound_eq
    (layout : Staged before record.state earlier staged) :
    record'.state.outbound =
      ((replays before record.state).map (·.replayFrames) ++ staged).flatten := by
  obtain ⟨name, index, state⟩ := attached.state
  rw [state, List.flatten_append, ← replays_frames, ← layout.outbound, List.append_assoc]

end

theorem Layout.attach (layout : Layout before) (slot : before.slot = some record)
    (attached : Attached before record lastSequenceId after record') : Layout after := by
  obtain ⟨sends, count, batched⟩ := attached.readings
  have streams := attached.stream_eq
  obtain ⟨earlier, members, staged, minted, stagedLayout⟩ := layout.slot record slot
  refine ⟨layout.released.congr streams (by omega) batched (sends ▸ List.prefix_rfl), ?_⟩
  intro found there
  cases attached.slot.symm.trans there
  obtain ⟨name, index, state⟩ := attached.state
  refine ⟨earlier, members, (replays before record.state).map (·.replayFrames) ++ staged,
    minted.congr sends batched ?_ (by rw [state]) (by rw [state])
      (attached.indexed minted.indexed minted.unsettled_nodup) (by rw [state]; rfl),
    ⟨?_, ?_, stagedLayout.replays_ordered minted, ?_, ?_, ?_, ?_⟩⟩
  · rw [attached.snapshots, state]
    rfl
  · exact attached.outbound_eq stagedLayout
  · rw [batched]
    exact stagedLayout.replays_sound
  · intro op member framed
    rw [state] at member
    rw [batched]
    exact ⟨stagedLayout.replayed member framed, .inl (stagedLayout.replays_block member framed)⟩
  · simp [attached.snapshots]
  · intro _
    have fresh : after.stream (attaches after.log) = [] := by
      rw [streams, count]
      exact layout.released.future _ (Nat.lt_succ_self _)
    rw [fresh]
    exact ⟨.nil, by simp [Precedes]⟩
  · intro attach
    rw [streams]
    exact stagedLayout.streamed attach

/-! ### Every operation -/

theorem createProducer_state (handle maxMessageSize : Nat) (req : CreateProducerRequest) :
    let producer := createProducer handle maxMessageSize req
    producer.batch = {} ∧ producer.outbound = [] ∧ producer.pending = [] ∧
      producer.pendingIndex = ∅ ∧ producer.brokerReady = false ∧
      producer.batches = requestBatches req := by
  unfold createProducer
  cases req.initialSequenceId with
  | none => exact ⟨rfl, rfl, rfl, rfl, rfl, rfl⟩
  | some =>
    unfold setInitialSequenceId
    dsimp only
    split <;> exact ⟨rfl, rfl, rfl, rfl, rfl, rfl⟩

theorem Layout.create (clear : entry.snapshots = [])
    (handle maxMessageSize : Nat) (req : CreateProducerRequest) :
    Layout (entry.create handle maxMessageSize req) := by
  have streams (attach : Nat) : (entry.create handle maxMessageSize req).stream attach = [] := rfl
  obtain ⟨batch, outbound, pending, index, gate, config⟩ :=
    createProducer_state handle maxMessageSize req
  refine ⟨⟨?_, ?_, ?_⟩, ?_⟩
  · intro attach
    exact .nil
  · intro attach _
    exact streams attach
  · intro attach frame member
    exact absurd member List.not_mem_nil
  intro record there
  cases there
  refine ⟨[], [], [], ⟨rfl, ?_, by simp, ⟨_, rfl, rfl⟩, ?_, ?_, ?_⟩,
    ⟨outbound, by simp, .nil, ?_, ?_, ?_, ?_⟩⟩
  · rw [batch]
    exact .nil
  · change ((entry.snapshots ++ _).map _).Sublist []
    rw [clear, pending]
    exact List.Sublist.refl _
  · refine ⟨?_, ?_⟩
    · rw [pendingIds, pending]
      exact List.nodup_nil
    · intro seq
      rw [pendingIds, pending, index]
      simp
  · rw [config]
    rfl
  · simp [pending]
  · change ∀ op ∈ entry.snapshots, _
    simp [clear]
  · simp [gate]
  · intro attach frame member
    exact absurd member List.not_mem_nil

theorem Layout.move (layout : Layout before)
    (move : Move single codecs before after) : Layout after := by
  cases move with
  | reduce slot slot' reduces keeps => exact layout.reduce slot slot' reduces keeps
  | vacate slot' keeps => exact layout.vacate slot' keeps
  | flush slot publishTimeMs => exact layout.flush slot publishTimeMs
  | drain slot ready => exact layout.drain slot ready
  | poll => exact layout.poll

theorem Layout.empty : Layout {} :=
  ⟨⟨fun _ => .nil, fun _ _ => rfl, by simp [stream, releasedIn, handedFrames]⟩, by simp⟩

theorem Layout.step {op : EntryOp} (layout : Layout entry)
    (regular : unwrapped entry op = true) : Layout (entryStep single codecs entry op) :=
  entryStep_invariant (fun _ _ => True) Layout
    (fun _ handle maxMessageSize req _ _ clear => .create clear handle maxMessageSize req)
    (fun _ _ _ _ _ _ layout _ slot attached => layout.attach slot attached)
    (fun _ _ _ _ _ layout _ slot received => layout.receive slot received)
    (fun _ _ _ _ _ _ _ layout bounded accepted => layout.accept bounded accepted)
    (fun _ _ _ layout slot settles => (layout.disconnected slot).still settles.slot settles.keeps)
    (fun _ _ layout move => layout.move move) entry op layout regular trivial

end Magnetar.Proto.Connection
