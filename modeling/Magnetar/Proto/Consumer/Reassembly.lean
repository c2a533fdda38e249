import Mathlib.Data.Finset.Card
import Mathlib.Data.Finset.Range
import Magnetar.Proto.Consumer.Ledger
import Magnetar.Proto.Consumer.Surfacing

/-!
Contract: the chunks of one message, however they arrive.

Owns: what each delivery does to the buffer of one uuid, under the two caps, and that the chunks of
a message, in any order that starts with the first and between any frames of other uuids, queue one
message with the payloads put together.

Does not own: which frames a producer stages (`Producer.Chunking`).
-/

namespace Magnetar.Proto.Consumer

open Library.Machine Pb External

variable {frames : List Dispatch}

namespace ConsumerState

variable (single : Prost SingleMessageMetadata) (codecs : Codecs)

/-! ### The caps -/

/-- The frame opens a buffer: the first chunk of a message that is not pending. -/
def opensBuffer (c : ConsumerState) (d : Dispatch) : Bool :=
  match d.chunk? with
  | some (total, chunkId) =>
    decide (chunkId = 0) && decide (total ≤ maxChunkTotal) &&
      (c.chunkReassembly.lookup d.uuid).isNone
  | none => false

/-- Neither cap is exceeded: no message is evicted for this frame, and a further chunk of `uuid` fits
under the byte ceiling. -/
def WithinCaps (uuid : String) (c : ConsumerState) (d : Dispatch) : Prop :=
  (c.opensBuffer d = true → c.maxPendingChunkedMessage = 0 ∨
    c.chunkReassembly.entries.length + 1 ≤ c.maxPendingChunkedMessage) ∧
  (d.uuid = uuid → (c.chunkReassembly.lookup uuid).isSome = true →
    satAdd64 c.chunkBufferedBytes d.body.length ≤ maxBufferedChunkBytes)

variable {c : ConsumerState} {d : Dispatch} {uuid : String}

variable (c d)

theorem deliver_control : (c.deliver single codecs d).1.control = c.control :=
  (deliver_charged single codecs c d).control

theorem receives_deliver : (c.deliver single codecs d).1.receives = c.receives := by
  have same := deliver_control single codecs c d
  have closed : (c.deliver single codecs d).1.closed = c.closed := congrArg Control.closed same
  have seeking : (c.deliver single codecs d).1.pendingSeek = c.pendingSeek :=
    congrArg Control.pendingSeek same
  rw [receives, receives, closed, seeking]

variable {c d}

theorem deliver_of_receives (opened : c.receives = true) :
    (c.deliver single codecs d).1 = (c.deliverShape single codecs d).1 := by
  rw [receives, Bool.and_eq_true, Bool.not_eq_true', Bool.not_eq_true'] at opened
  rw [deliver, if_neg (by simp [opened.1]), if_neg (by simp [opened.2])]

/-! ### Buffers -/

theorem classifyAndQueue_chunkReassembly (c : ConsumerState) (message : IncomingMessage)
    (redelivery now : Nat) :
    (c.classifyAndQueue message redelivery now).1.chunkReassembly = c.chunkReassembly := by
  unfold classifyAndQueue
  split <;> rfl

theorem queueMembers_chunkReassembly (d : Dispatch) (metadata : MessageMetadata) (numInBatch : Int)
    (delivered : BatchAck.BatchAckEntry) (members : List (Nat × Batch.BatchMember))
    (c : ConsumerState) :
    (queueMembers d metadata numInBatch delivered c members).1.chunkReassembly =
      c.chunkReassembly := by
  induction members generalizing c with
  | nil => rfl
  | cons _ _ ih =>
    unfold queueMembers
    split
    · exact (ih _).trans (classifyAndQueue_chunkReassembly c _ _ _)
    · exact ih c

theorem recordUndecoded_chunkReassembly (c : ConsumerState) (undecoded : Nat) :
    (c.recordUndecoded undecoded).chunkReassembly = c.chunkReassembly := by
  induction undecoded generalizing c with
  | zero => rfl
  | succ _ ih => exact ih _

theorem openChunkBuffer_of_room (fresh : c.chunkReassembly.lookup d.uuid = none)
    (room : c.maxPendingChunkedMessage = 0 ∨
      c.chunkReassembly.entries.length + 1 ≤ c.maxPendingChunkedMessage)
    (total chunkId : Int) :
    let opened := { c with
      chunkReassembly := c.chunkReassembly.insert d.uuid (newChunkBuffer d total)
      chunkReassemblyOrder := c.chunkReassemblyOrder ++ [d.uuid] }
    c.openChunkBuffer d total chunkId =
      ((opened.storeChunk d chunkId (newChunkBuffer d total)).1,
        some (opened.storeChunk d chunkId (newChunkBuffer d total)).2) := by
  intro opened
  have absent : d.uuid ∉ c.chunkReassembly := AList.lookup_eq_none.mp fresh
  have length : opened.chunkReassembly.entries.length = c.chunkReassembly.entries.length + 1 := by
    rw [AList.entries_insert_of_notMem absent]
    rfl
  have kept : ¬ (decide (opened.maxPendingChunkedMessage > 0) &&
      decide (opened.chunkReassembly.entries.length > opened.maxPendingChunkedMessage)) = true := by
    have same : opened.maxPendingChunkedMessage = c.maxPendingChunkedMessage := rfl
    simp only [Bool.and_eq_true, decide_eq_true_eq]
    omega
  have found : opened.chunkReassembly.lookup d.uuid = some (newChunkBuffer d total) :=
    AList.lookup_insert _
  unfold openChunkBuffer
  extract_lets remaining
  have same : remaining = opened := if_neg kept
  rw [same, found]

theorem lookup_bufferChunk_ne (differs : d.uuid ≠ uuid) {total chunkId : Int}
    (bounds : d.chunk? = some (total, chunkId)) (within : WithinCaps uuid c d) :
    (c.bufferChunk d total chunkId).1.chunkReassembly.lookup uuid =
      c.chunkReassembly.lookup uuid := by
  have other : uuid ≠ d.uuid := Ne.symm differs
  unfold bufferChunk
  split
  · rfl
  split
  · rfl
  rename_i bounded
  split
  · rename_i fresh
    split
    · rfl
    · rename_i first
      have opens : c.opensBuffer d = true := by
        rw [opensBuffer, bounds]
        simp only [ne_eq, Decidable.not_not] at first
        simp only [gt_iff_lt, not_lt] at bounded
        simp [first, fresh, bounded]
      rw [openChunkBuffer_of_room fresh (within.1 opens)]
      show ((c.chunkReassembly.insert d.uuid _).insert d.uuid _).lookup uuid = _
      rw [AList.lookup_insert_ne other, AList.lookup_insert_ne other]
  · unfold extendChunkBuffer
    split
    · rfl
    · split <;> exact AList.lookup_insert_ne other

theorem lookup_deliver_ne (opened : c.receives = true) (differs : d.uuid ≠ uuid)
    (within : WithinCaps uuid c d) :
    (c.deliver single codecs d).1.chunkReassembly.lookup uuid =
      c.chunkReassembly.lookup uuid := by
  rw [deliver_of_receives single codecs opened]
  unfold deliverShape
  cases bounds : d.chunk? with
  | some chunk =>
    obtain ⟨total, chunkId⟩ := chunk
    have buffered := lookup_bufferChunk_ne differs bounds within
    show (c.deliverChunk d total chunkId).1.chunkReassembly.lookup uuid = _
    unfold deliverChunk
    generalize c.bufferChunk d total chunkId = result at buffered ⊢
    obtain ⟨kept, verdict⟩ := result
    cases verdict with
    | none => exact buffered
    | some =>
      dsimp only
      split
      · exact buffered
      · rw [completeChunked, classifyAndQueue_chunkReassembly]
        exact (AList.lookup_erase_ne (Ne.symm differs)).trans buffered
  | none =>
    cases d.metadata.numMessagesInBatch with
    | some numInBatch =>
      have same : (c.deliverBatch single codecs d numInBatch).1.chunkReassembly =
          c.chunkReassembly := by
        unfold deliverBatch
        rw [recordUndecoded_chunkReassembly, queueMembers_chunkReassembly]
        rfl
      exact congrArg (AList.lookup uuid) same
    | none => exact congrArg (AList.lookup uuid) (classifyAndQueue_chunkReassembly c _ _ _)

/-! ### The chunks of one message -/

/-- The frame is chunk `index` of the message. -/
structure IsChunk (uuid : String) (total : Nat) (chunk : Nat → Bytes) (d : Dispatch) (index : Nat) :
    Prop where
  uuid : d.uuid = uuid
  bounds : d.chunk? = some ((total : Int), (index : Int))
  body : d.body = chunk index

/-- The buffer of the message holds the received chunks. -/
structure Buffered (c : ConsumerState) (uuid : String) (total : Nat) (chunk : Nat → Bytes)
    (received : Finset Nat) (entry : ChunkBuffer) : Prop where
  found : c.chunkReassembly.lookup uuid = some entry
  expected : entry.expectedChunks = total
  count : entry.receivedChunks = received.card
  payloads : ∀ index : Nat, entry.chunkPayloads.lookup (index : Int) =
    if index ∈ received then some (chunk index) else none

def withChunk (entry : ChunkBuffer) (index : Nat) (body : Bytes) : ChunkBuffer :=
  { entry with
    chunkPayloads := entry.chunkPayloads.insert (index : Int) body
    receivedChunks := entry.receivedChunks + 1 }

variable {total : Nat} {chunk : Nat → Bytes} {received : Finset Nat} {entry : ChunkBuffer}
  {index : Nat}

theorem deliver_chunk (opened : c.receives = true) {count chunkId : Int}
    (bounds : d.chunk? = some (count, chunkId)) :
    (c.deliver single codecs d).1 = (c.deliverChunk d count chunkId).1 := by
  rw [deliver_of_receives single codecs opened, deliverShape, bounds]

theorem lookup_withChunk (stored : ∀ place : Nat, entry.chunkPayloads.lookup (place : Int) =
      if place ∈ received then some (chunk place) else none) (place : Nat) :
    (withChunk entry index (chunk index)).chunkPayloads.lookup (place : Int) =
      if place ∈ insert index received then some (chunk place) else none := by
  show (entry.chunkPayloads.insert (index : Int) (chunk index)).lookup (place : Int) = _
  by_cases same : place = index
  · subst same
    rw [AList.lookup_insert, if_pos (Finset.mem_insert_self _ _)]
  · have differs : (place : Int) ≠ index := by omega
    rw [AList.lookup_insert_ne differs, stored]
    simp [same]

theorem deliverChunk_partly {count chunkId : Int} {kept : ConsumerState} {next : ChunkBuffer}
    (stored : c.bufferChunk d count chunkId = (kept, some next))
    (partly : next.receivedChunks < next.expectedChunks) :
    (c.deliverChunk d count chunkId).1.chunkReassembly = kept.chunkReassembly ∧
      c.chunkMessages d count chunkId = [] := by
  rw [deliverChunk, chunkMessages, stored]
  simp only [if_pos partly]
  exact ⟨rfl, trivial⟩

theorem deliver_first (opened : c.receives = true) (fresh : c.chunkReassembly.lookup uuid = none)
    (first : IsChunk uuid total chunk d 0) (several : 2 ≤ total)
    (bounded : (total : Int) ≤ maxChunkTotal) (within : WithinCaps uuid c d) :
    Buffered (c.deliver single codecs d).1 uuid total chunk {0}
        (withChunk (newChunkBuffer d total) 0 (chunk 0)) ∧
      c.surfaced single codecs d = [] := by
  obtain ⟨rfl, bounds, body⟩ := first
  have opens : c.opensBuffer d = true := by
    rw [opensBuffer, bounds]
    simp [fresh, bounded]
  have inside : ¬ (((0 : Nat) : Int) < 0 ∨ ((0 : Nat) : Int) ≥ total) := by omega
  have stored : c.bufferChunk d total (0 : Nat) = c.openChunkBuffer d total (0 : Nat) := by
    unfold bufferChunk
    rw [if_neg inside, if_neg (by omega), fresh]
    rfl
  rw [openChunkBuffer_of_room fresh (within.1 opens)] at stored
  have partly : (withChunk (newChunkBuffer d total) 0 d.body).receivedChunks <
      (withChunk (newChunkBuffer d total) 0 d.body).expectedChunks := by
    show (0 : Int) + 1 < total
    omega
  obtain ⟨kept, silent⟩ := deliverChunk_partly stored partly
  have empty : ∀ place : Nat, (newChunkBuffer d total).chunkPayloads.lookup (place : Int) =
      if place ∈ (∅ : Finset Nat) then some (chunk place) else none := fun _ => rfl
  refine ⟨⟨?_, rfl, rfl, ?_⟩, ?_⟩
  · rw [deliver_chunk single codecs opened bounds, kept, ← body]
    exact AList.lookup_insert _
  · exact lookup_withChunk empty
  · exact (surfaced_chunk single codecs opened bounds).trans silent

section

variable (buffered : Buffered c uuid total chunk received entry)
  (next : IsChunk uuid total chunk d index) (new : index ∉ received) (inside : index < total)
  (bounded : (total : Int) ≤ maxChunkTotal) (within : WithinCaps uuid c d)

include buffered next new inside bounded within

theorem bufferChunk_next :
    c.bufferChunk d total index =
      ((c.storeChunk d index entry).1, some (withChunk entry index d.body)) := by
  obtain ⟨rfl, bounds, body⟩ := next
  have counted : ¬ ((index : Int) < 0 ∨ (index : Int) ≥ total) := by omega
  have fits := within.2 rfl (by rw [buffered.found]; rfl)
  have absent : (index : Int) ∉ entry.chunkPayloads := by
    rw [← AList.lookup_eq_none, buffered.payloads, if_neg new]
  unfold bufferChunk
  rw [if_neg counted, if_neg (by omega), buffered.found]
  show c.extendChunkBuffer d index entry = _
  unfold extendChunkBuffer
  rw [if_neg (by omega), if_neg absent]
  rfl

theorem deliver_next (opened : c.receives = true) (partly : received.card + 1 < total) :
    Buffered (c.deliver single codecs d).1 uuid total chunk (insert index received)
        (withChunk entry index (chunk index)) ∧
      c.surfaced single codecs d = [] := by
  have stored := bufferChunk_next buffered next new inside bounded within
  have pending : (withChunk entry index d.body).receivedChunks <
      (withChunk entry index d.body).expectedChunks := by
    show entry.receivedChunks + 1 < entry.expectedChunks
    rw [buffered.count, buffered.expected]
    omega
  obtain ⟨kept, silent⟩ := deliverChunk_partly stored pending
  refine ⟨⟨?_, buffered.expected, ?_, lookup_withChunk buffered.payloads⟩, ?_⟩
  · rw [deliver_chunk single codecs opened next.bounds, kept, ← next.body, ← next.uuid]
    exact AList.lookup_insert _
  · show entry.receivedChunks + 1 = _
    rw [buffered.count, Finset.card_insert_of_notMem new]
    rfl
  · exact (surfaced_chunk single codecs opened next.bounds).trans silent

theorem surfaced_last (opened : c.receives = true) (last : received.card + 1 = total) :
    c.surfaced single codecs d = [chunkedMessage d (withChunk entry index (chunk index))] := by
  have stored := bufferChunk_next buffered next new inside bounded within
  have complete : ¬ (withChunk entry index d.body).receivedChunks <
      (withChunk entry index d.body).expectedChunks := by
    show ¬ entry.receivedChunks + 1 < entry.expectedChunks
    rw [buffered.count, buffered.expected]
    omega
  rw [surfaced_chunk single codecs opened next.bounds, chunkMessages, stored, ← next.body]
  simp only [if_neg complete]

end

theorem assembleChunks_all (expected : entry.expectedChunks = total)
    (stored : ∀ place : Nat, entry.chunkPayloads.lookup (place : Int) =
      if place ∈ Finset.range total then some (chunk place) else none) :
    assembleChunks entry = (List.range total).flatMap chunk := by
  rw [assembleChunks, expected, Int.toNat_natCast]
  apply List.flatMap_congr
  intro place listed
  rw [stored, if_pos (Finset.mem_range.mpr (List.mem_range.mp listed))]
  rfl

/-! ### Runs -/

def deliverStep (c : ConsumerState) (d : Dispatch) : ConsumerState :=
  (c.deliver single codecs d).1

def framesOf (uuid : String) (frames : List Dispatch) : List Dispatch :=
  frames.filter fun d => d.uuid = uuid

def surfacedBy (uuid : String) : ConsumerState → List Dispatch → List IncomingMessage
  | _, [] => []
  | c, d :: rest =>
    (if d.uuid = uuid then c.surfaced single codecs d else []) ++
      surfacedBy uuid (deliverStep single codecs c d) rest

/-- What the frames of `uuid` put at the end of one of the consumer's lists. -/
def appendedBy (list : ConsumerState → List IncomingMessage) (uuid : String) :
    ConsumerState → List Dispatch → List IncomingMessage
  | _, [] => []
  | c, d :: rest =>
    (if d.uuid = uuid then (list (deliverStep single codecs c d)).drop (list c).length else []) ++
      appendedBy list uuid (deliverStep single codecs c d) rest

theorem deadLetters_deliverStep (c : ConsumerState) (d : Dispatch) :
    (deliverStep single codecs c d).deadLetters = c.deadLetters :=
  funext (deadLetters_congr (congrArg Control.maxRedeliverCount (deliver_control single codecs c d)))

/-- Of the surfaced messages each list takes those it is for. -/
theorem appendedBy_eq {list : ConsumerState → List IncomingMessage} (takes : Bool → Bool)
    (appends : ∀ c d, list (deliverStep single codecs c d) = list c ++
      (c.surfaced single codecs d).filter fun message =>
        takes (c.deadLetters message.redeliveryCount))
    (frames : List Dispatch) (c : ConsumerState) :
    appendedBy single codecs list uuid c frames =
      (surfacedBy single codecs uuid c frames).filter fun message =>
        takes (c.deadLetters message.redeliveryCount) := by
  induction frames generalizing c with
  | nil => rfl
  | cons _ _ ih =>
    rw [appendedBy, surfacedBy, ih, deadLetters_deliverStep, List.filter_append,
      appends, List.drop_left]
    split <;> rfl

theorem appendedBy_queue (frames : List Dispatch) (c : ConsumerState) :
    appendedBy single codecs queue uuid c frames =
      (surfacedBy single codecs uuid c frames).filter fun message =>
        !c.deadLetters message.redeliveryCount :=
  appendedBy_eq single codecs not (fun c d => (c.deliver_surfaces single codecs d).queue) frames c

theorem appendedBy_deadLetterPending (frames : List Dispatch) (c : ConsumerState) :
    appendedBy single codecs deadLetterPending uuid c frames =
      (surfacedBy single codecs uuid c frames).filter fun message =>
        c.deadLetters message.redeliveryCount :=
  appendedBy_eq single codecs id (fun c d => (c.deliver_surfaces single codecs d).deadLetters)
    frames c

theorem surfacedBy_of_none (none : framesOf uuid frames = []) :
    surfacedBy single codecs uuid c frames = [] := by
  induction frames generalizing c with
  | nil => rfl
  | cons d _ ih =>
    by_cases own : d.uuid = uuid
    · rw [framesOf, List.filter_cons_of_pos (by simpa using own)] at none
      cases none
    · rw [framesOf, List.filter_cons_of_neg (by simpa using own)] at none
      rw [surfacedBy, if_neg own, ih none]
      rfl

/-- The metadata of a chunked message: those of its first chunk without the chunk fields. -/
def withoutChunkFields (metadata : MessageMetadata) : MessageMetadata :=
  { metadata with numChunksFromMsg := none, chunkId := none, totalChunkMsgSize := none }

/-- The message is the chunks put together, with what its first chunk says of it. -/
structure Assembled (total : Nat) (chunk : Nat → Bytes) (metadata : MessageMetadata)
    (redelivery : Nat) (message : IncomingMessage) : Prop where
  payload : message.payload = (List.range total).flatMap chunk
  metadata : message.metadata = withoutChunkFields metadata
  redelivery : message.redeliveryCount = redelivery

theorem assembled_last (opened : c.receives = true)
    (buffered : Buffered c uuid total chunk received entry)
    (next : IsChunk uuid total chunk d index) (new : index ∉ received) (inside : index < total)
    (bounded : (total : Int) ≤ maxChunkTotal) (within : WithinCaps uuid c d)
    (counted : received ⊆ Finset.range total) (last : received.card + 1 = total) :
    ∃ message, c.surfaced single codecs d = [message] ∧
      Assembled total chunk entry.firstMetadata entry.redeliveryCount message := by
  have everywhere : insert index received = Finset.range total := by
    apply Finset.eq_of_subset_of_card_le
    · exact Finset.insert_subset (Finset.mem_range.mpr inside) counted
    · rw [Finset.card_insert_of_notMem new, Finset.card_range, last]
  have stored : ∀ place : Nat,
      (withChunk entry index (chunk index)).chunkPayloads.lookup (place : Int) =
        if place ∈ Finset.range total then some (chunk place) else none := by
    rw [← everywhere]
    exact lookup_withChunk buffered.payloads
  exact ⟨_, surfaced_last single codecs buffered next new inside bounded within opened last,
    assembleChunks_all buffered.expected stored, rfl, rfl⟩

/-- A pending message surfaces once its other chunks have arrived. -/
theorem surfacedBy_pending (bounded : (total : Int) ≤ maxChunkTotal)
    {ids : List Nat} (opened : c.receives = true)
    (buffered : Buffered c uuid total chunk received entry)
    (within : Guarded (deliverStep single codecs) (WithinCaps uuid) c frames)
    (chunks : List.Forall₂ (IsChunk uuid total chunk) (framesOf uuid frames) ids)
    (distinct : ids.Nodup) (new : ∀ index ∈ ids, index ∉ received ∧ index < total)
    (counted : received ⊆ Finset.range total) (awaited : ids ≠ [])
    (all : received.card + ids.length = total) :
    ∃ message, surfacedBy single codecs uuid c frames = [message] ∧
      Assembled total chunk entry.firstMetadata entry.redeliveryCount message := by
  induction frames generalizing c received entry ids with
  | nil =>
    cases chunks
    exact absurd rfl awaited
  | cons d rest ih =>
    obtain ⟨here, later⟩ := within
    have opens : (deliverStep single codecs c d).receives = true :=
      (receives_deliver single codecs c d).trans opened
    by_cases own : d.uuid = uuid
    · rw [framesOf, List.filter_cons_of_pos (by simpa using own)] at chunks
      rw [surfacedBy, if_pos own]
      cases chunks with
      | cons next others =>
        rename_i index remaining
        obtain ⟨fresh, apart⟩ := List.nodup_cons.mp distinct
        obtain ⟨⟨unseen, inside⟩, unseenOthers⟩ := List.forall_mem_cons.mp new
        rw [List.length_cons] at all
        rcases eq_or_ne remaining [] with rfl | more
        · have silent : framesOf uuid rest = [] := List.forall₂_nil_right_iff.mp others
          rw [surfacedBy_of_none single codecs silent, List.append_nil]
          exact assembled_last single codecs opened buffered next unseen inside bounded here
            counted all
        · have := List.length_pos_of_ne_nil more
          obtain ⟨kept, silent⟩ := deliver_next single codecs buffered next unseen inside
            bounded here opened (by omega)
          rw [silent, List.nil_append]
          show ∃ message, _ ∧ Assembled total chunk
            (withChunk entry index (chunk index)).firstMetadata
            (withChunk entry index (chunk index)).redeliveryCount message
          refine ih opens kept later others apart ?_ ?_ more ?_
          · intro place listed
            obtain ⟨unseenPlace, insidePlace⟩ := unseenOthers place listed
            refine ⟨?_, insidePlace⟩
            rw [Finset.mem_insert, not_or]
            exact ⟨fun same => fresh (same ▸ listed), unseenPlace⟩
          · exact Finset.insert_subset (Finset.mem_range.mpr inside) counted
          · rw [Finset.card_insert_of_notMem unseen]
            omega
    · rw [framesOf, List.filter_cons_of_neg (by simpa using own)] at chunks
      have kept : Buffered (deliverStep single codecs c d) uuid total chunk received entry :=
        ⟨(lookup_deliver_ne single codecs opened own here).trans buffered.found,
          buffered.expected, buffered.count, buffered.payloads⟩
      rw [surfacedBy, if_neg own, List.nil_append]
      exact ih opens kept later chunks distinct new counted awaited all

/-- The chunks of a message that is not yet pending, the first one first, surface it. -/
theorem surfacedBy_chunks (bounded : (total : Int) ≤ maxChunkTotal)
    {first : Dispatch} {others : List Dispatch} {ids : List Nat} (opened : c.receives = true)
    (fresh : c.chunkReassembly.lookup uuid = none)
    (within : Guarded (deliverStep single codecs) (WithinCaps uuid) c frames)
    (inOrder : framesOf uuid frames = first :: others)
    (chunks : List.Forall₂ (IsChunk uuid total chunk) (first :: others) (0 :: ids))
    (each : (0 :: ids).Perm (List.range total)) (several : 2 ≤ total) :
    ∃ message, surfacedBy single codecs uuid c frames = [message] ∧
      Assembled total chunk first.metadata first.redelivery message := by
  induction frames generalizing c with
  | nil => cases inOrder
  | cons d _ ih =>
    obtain ⟨here, later⟩ := within
    have opens : (deliverStep single codecs c d).receives = true :=
      (receives_deliver single codecs c d).trans opened
    by_cases own : d.uuid = uuid
    · rw [framesOf, List.filter_cons_of_pos (by simpa using own)] at inOrder
      obtain ⟨rfl, rfl⟩ := List.cons.inj inOrder
      obtain ⟨zeroth, following⟩ := List.forall₂_cons.mp chunks
      obtain ⟨kept, silent⟩ := deliver_first single codecs opened fresh zeroth several bounded here
      obtain ⟨zeroNew, distinct⟩ := List.nodup_cons.mp (each.nodup_iff.mpr List.nodup_range)
      have counted : ids.length + 1 = total := by
        simpa using each.length_eq
      rw [surfacedBy, if_pos own, silent, List.nil_append]
      refine surfacedBy_pending single codecs bounded opens kept later following distinct
        ?_ ?_ ?_ ?_
      · intro index listed
        have inside : index < total :=
          List.mem_range.mp (each.mem_iff.mp (List.mem_cons_of_mem _ listed))
        refine ⟨fun zero => zeroNew ?_, inside⟩
        rw [Finset.mem_singleton] at zero
        exact zero ▸ listed
      · rw [Finset.singleton_subset_iff, Finset.mem_range]
        omega
      · apply List.ne_nil_of_length_pos
        omega
      · rw [Finset.card_singleton]
        omega
    · rw [framesOf, List.filter_cons_of_neg (by simpa using own)] at inOrder
      have absent : (deliverStep single codecs c d).chunkReassembly.lookup uuid = none :=
        (lookup_deliver_ne single codecs opened own here).trans fresh
      rw [surfacedBy, if_neg own, List.nil_append]
      exact ih opens absent later inOrder

end ConsumerState

end Magnetar.Proto.Consumer
