import Magnetar.Library.Machine
import Magnetar.Library.Outcome
import Magnetar.Proto.Stream.Receive

/-!
Contract: the chunk chains of a stream consumer.

Owns: that a chain holds chunks of one message only, each once, and that the message it completes to
is the concatenation of its chunks, of the announced size, whatever is fed in between.

Does not own: what the accounting answers, which may be anything.
-/

namespace Magnetar.Proto.Stream

open Library Library.Machine Pb Consumer

/-! ### Chunks in order -/

theorem insertChunk_perm (chunkId : Int) (payload : Bytes) (payloads : List (Int × Bytes)) :
    (insertChunk chunkId payload payloads).Perm ((chunkId, payload) :: payloads) := by
  fun_induction insertChunk chunkId payload payloads with
  | case1 => rfl
  | case2 => rfl
  | case3 entry rest _ ih => exact (ih.cons entry).trans (.swap _ _ _)

theorem insertChunk_ordered {chunkId : Int} {payload : Bytes} {payloads : List (Int × Bytes)}
    (ordered : payloads.Pairwise fun first second => first.1 < second.1)
    (fresh : ∀ part ∈ payloads, part.1 ≠ chunkId) :
    (insertChunk chunkId payload payloads).Pairwise fun first second => first.1 < second.1 := by
  fun_induction insertChunk chunkId payload payloads with
  | case1 => exact List.pairwise_singleton _ _
  | case2 entry rest below =>
    refine List.pairwise_cons.mpr ⟨?_, ordered⟩
    intro part there
    rcases List.mem_cons.mp there with rfl | later
    · exact below
    · exact below.trans ((List.pairwise_cons.mp ordered).1 part later)
  | case3 entry rest above ih =>
    rw [List.pairwise_cons] at ordered
    rw [List.forall_mem_cons] at fresh
    refine List.pairwise_cons.mpr ⟨?_, ih ordered.2 fresh.2⟩
    intro part there
    rcases List.mem_cons.mp ((insertChunk_perm _ _ _).subset there) with rfl | later
    · exact lt_of_le_of_ne (not_lt.mp above) fresh.1
    · exact ordered.1 part later

/-- As many increasing ids as an interval has are that interval. -/
theorem fst_getElem {parts : List (Int × Bytes)} {low : Int}
    (ordered : parts.Pairwise fun first second => first.1 < second.1)
    (ranged : ∀ part ∈ parts, low ≤ part.1 ∧ part.1 < low + parts.length) (index : Nat)
    (inside : index < parts.length) : parts[index].1 = low + index := by
  induction parts generalizing low index with
  | nil => cases inside
  | cons first rest ih =>
    rw [List.pairwise_cons] at ordered
    rw [List.forall_mem_cons] at ranged
    have later : ∀ index (inside : index < rest.length), rest[index].1 = low + 1 + index := by
      refine fun index inside => ih ordered.2 ?_ index inside
      intro part there
      have above := ordered.1 part there
      have bounds := ranged.2 part there
      grind
    cases index with
    | succ index => grind
    | zero =>
      cases rest with
      | nil => grind
      | cons second others =>
        have next := later 0 (by simp)
        have above := ordered.1 second (by simp)
        grind

/-! ### What a chain holds -/

/-- The entry announces chunk `chunkId` of a message. -/
structure IsChunk (entry : DeferredIncomingMessage) (uuid : String) (total : Int) (size : Nat)
    (chunkId : Int) : Prop where
  uuid : entry.message.metadata.uuid = some uuid
  total : entry.message.metadata.numChunksFromMsg = some total
  size : entry.message.metadata.totalChunkMsgSize = some (size : Int)
  chunkId : entry.message.metadata.chunkId = some chunkId

/-- The chain holds chunks of its message, each once, out of the entries `fed` to it. -/
structure Gathers (fed : List DeferredIncomingMessage) (chunk : PendingStreamChunk) : Prop where
  ordered : chunk.payloads.Pairwise fun first second => first.1 < second.1
  ranged : ∀ part ∈ chunk.payloads, 0 ≤ part.1 ∧ part.1 < chunk.expectedChunks
  parts : ∀ part ∈ chunk.payloads, ∃ entry ∈ fed, entry.message.payload = part.2 ∧
    IsChunk entry chunk.uuid chunk.expectedChunks chunk.totalSize part.1

/-- A message that `last` completes from chunks is the concatenation of as many parts as `last`
announces, of the size it announces: each part is the chunk at its index, of the uuid of `last`. -/
def StreamEntryAcceptance.Assembles {Action : Type} (fed : List DeferredIncomingMessage)
    (last : DeferredIncomingMessage) : StreamEntryAcceptance Action → Prop
  | .buffered _ => True
  | .complete whole =>
    match whole.completion with
    | .message _ => True
    | .chunk _ _ => ∃ uuid chunkId, ∃ parts : List Bytes, whole.message.payload = parts.flatten ∧
      IsChunk last uuid parts.length whole.message.payload.length chunkId ∧
      ∀ (index : Nat) part, parts[index]? = some part → ∃ entry ∈ fed ++ [last],
        entry.message.payload = part ∧
          IsChunk entry uuid parts.length whole.message.payload.length index

namespace Gathers

variable {fed : List DeferredIncomingMessage} {chunk : PendingStreamChunk}
  {entry : DeferredIncomingMessage}

theorem mono (gathers : Gathers fed chunk) : Gathers (fed ++ [entry]) chunk where
  ordered := gathers.ordered
  ranged := gathers.ranged
  parts part there := by
    obtain ⟨found, member, isPart⟩ := gathers.parts part there
    exact ⟨found, List.mem_append_left _ member, isPart⟩

theorem insert (gathers : Gathers fed chunk) {chunkId : Int} (assembly : BudgetReservationId)
    (fresh : ∀ part ∈ chunk.payloads, part.1 ≠ chunkId)
    (ranged : 0 ≤ chunkId ∧ chunkId < chunk.expectedChunks)
    (isChunk : IsChunk entry chunk.uuid chunk.expectedChunks chunk.totalSize chunkId) :
    Gathers (fed ++ [entry]) { chunk with
      payloads := insertChunk chunkId entry.message.payload chunk.payloads, assembly } := by
  have mem := fun part there =>
    List.mem_cons.mp ((insertChunk_perm chunkId entry.message.payload chunk.payloads).subset
      (a := part) there)
  refine ⟨insertChunk_ordered gathers.ordered fresh, ?_, ?_⟩
  · intro part there
    rcases mem part there with rfl | before
    · exact ranged
    · exact gathers.ranged part before
  · intro part there
    rcases mem part there with rfl | before
    · exact ⟨entry, by simp, rfl, isChunk⟩
    · exact gathers.mono.parts part before

/-- A chain that is as long as its message holds all of it, in order. -/
theorem chunk_at (gathers : Gathers fed chunk)
    (full : (chunk.payloads.length : Int) = chunk.expectedChunks) {index : Nat} {part : Bytes}
    (there : (chunk.payloads.map Prod.snd)[index]? = some part) :
    ∃ entry ∈ fed, entry.message.payload = part ∧
      IsChunk entry chunk.uuid chunk.payloads.length chunk.totalSize index := by
  rw [List.getElem?_map, Option.map_eq_some_iff] at there
  obtain ⟨found, there, rfl⟩ := there
  obtain ⟨inside, rfl⟩ := List.getElem?_eq_some_iff.mp there
  have ranged : ∀ part ∈ chunk.payloads, 0 ≤ part.1 ∧ part.1 < 0 + chunk.payloads.length := by
    rw [full, Int.zero_add]
    exact gathers.ranged
  have number := fst_getElem gathers.ordered ranged index inside
  rw [Int.zero_add] at number
  rw [full, ← number]
  exact gathers.parts _ (List.getElem_mem inside)

end Gathers

namespace StreamReceiveState

variable {σ Action Refusal : Type} {entry : DeferredIncomingMessage}

theorem ends_chunkHeader {total : Int}
    (announced : entry.message.metadata.numChunksFromMsg = some total) :
    Ends (fun _ => True)
      (fun header => header.total = total ∧ (0 ≤ header.chunkId ∧ header.chunkId < total) ∧
        IsChunk entry header.uuid total header.totalSize header.chunkId)
      (chunkHeader entry.message.metadata total :
        Except (StreamConsumerModelError Refusal) ChunkHeader) := by
  unfold chunkHeader
  dsimp only
  split
  · trivial
  split
  · trivial
  split
  case h_2 => trivial
  case h_1 chunkId found =>
    split
    · trivial
    case isFalse inside =>
      split
      case h_2 => trivial
      case h_1 size announcedSize =>
        split
        case h_2 => trivial
        case h_1 uuid named =>
          obtain ⟨sized, positive⟩ := Option.filter_eq_some_iff.mp announcedSize
          have nonnegative : (size.toNat : Int) = size :=
            Int.toNat_of_nonneg (Int.le_of_lt (of_decide_eq_true positive))
          rw [not_or, not_lt, not_le] at inside
          exact ⟨rfl, inside, named, announced, sized.trans (congrArg some nonnegative.symm), found⟩

theorem ends_checkContinuation (existing : Option PendingStreamChunk) (header : ChunkHeader) :
    Ends (fun _ => True)
      (fun _ => ∀ chunk, existing = some chunk → chunk.uuid = header.uuid ∧
        chunk.expectedChunks = header.total ∧ chunk.totalSize = header.totalSize ∧
        ∀ part ∈ chunk.payloads, part.1 ≠ header.chunkId)
      (checkContinuation existing header :
        Except (StreamConsumerModelError Refusal) Unit) := by
  unfold checkContinuation
  split
  · split
    · trivial
    · intro chunk absent
      cases absent
  case h_2 chunk =>
    split
    · trivial
    case isFalse same =>
      split
      · trivial
      case isFalse lacks =>
        simp only [PendingStreamChunk.hasChunk, List.any_eq_true, beq_iff_eq, not_exists,
          not_and] at lacks
        simp only [not_or, not_not] at same
        intro found there
        cases there
        exact ⟨same.1, same.2.1, same.2.2, lacks⟩

variable (accounting : Accounting σ Action Refusal)

/-- An accepted entry joins the chain of its child or completes it, and touches no other.  A refused
one leaves every chain as it is. -/
def Accepts (state : StreamReceiveState) (owner : BudgetReservationOwner)
    (fed : List DeferredIncomingMessage) (entry : DeferredIncomingMessage)
    (received : Received σ Action Refusal) : Prop :=
  Ends (fun _ => received.2.1 = state)
    (fun acceptance => acceptance.Assembles fed entry ∧
      ∀ other chunk, received.2.1.chunks.lookup other = some chunk →
        if other = owner then Gathers (fed ++ [entry]) chunk
        else state.chunks.lookup other = some chunk)
    received.1

variable {state : StreamReceiveState} {segmentId : SegmentId} {generation : ChildGeneration}
  {fed : List DeferredIncomingMessage}

section Chunk

variable {header : ChunkHeader}
  (isChunk : IsChunk entry header.uuid header.total header.totalSize header.chunkId)
  (joins : ∀ chunk assembly, state.chunks.lookup (segmentId, generation) = some chunk →
    Gathers (fed ++ [entry]) { chunk with
      payloads := insertChunk header.chunkId entry.message.payload chunk.payloads, assembly })

include isChunk joins

theorem completeChunk_accepts (model : σ) (flow : BudgetReservationId)
    (same : ∀ chunk, state.chunks.lookup (segmentId, generation) = some chunk →
      chunk.uuid = header.uuid ∧ chunk.expectedChunks = header.total ∧
        chunk.totalSize = header.totalSize ∧
        ((chunk.payloads.length + 1 : Nat) : Int) = header.total) :
    Accepts state (segmentId, generation) fed entry
      (state.completeChunk model segmentId generation flow entry header :
        Received σ Action Refusal) := by
  unfold completeChunk
  split
  · rfl
  case h_2 chunk found =>
    split
    · rfl
    case isFalse sized =>
      obtain ⟨sameUuid, sameTotal, sameSize, last⟩ := same chunk found
      have perm := insertChunk_perm header.chunkId entry.message.payload chunk.payloads
      have size : ((insertChunk header.chunkId entry.message.payload chunk.payloads).flatMap
          Prod.snd).length = header.totalSize := by
        rw [(perm.flatMap_right _).length_eq, List.flatMap_cons, List.length_append,
          List.length_flatMap, ← not_not.mp sized, Nat.add_comm]
        rfl
      have count : (((insertChunk header.chunkId entry.message.payload chunk.payloads).map
          Prod.snd).length : Int) = header.total := by
        rw [List.length_map, perm.length_eq, List.length_cons, last]
      refine ⟨⟨header.uuid, header.chunkId, _, rfl, ?_, fun index part there => ?_⟩,
        fun other kept there => ?_⟩
      · rw [count]
        exact size ▸ isChunk
      · have at_index := (joins chunk chunk.assembly found).chunk_at (by
          rw [← List.length_map Prod.snd, count, sameTotal]) there
        rw [List.length_map, ← sameUuid]
        exact size ▸ sameSize ▸ at_index
      · have differs : other ≠ (segmentId, generation) := by
          rintro rfl
          simp [removeChild] at there
        rwa [if_neg differs, ← AList.lookup_erase_ne differs]

theorem bufferChunk_accepts (model : σ) (flow : BudgetReservationId)
    (ranged : 0 ≤ header.chunkId ∧ header.chunkId < header.total) :
    Accepts state (segmentId, generation) fed entry
      (state.bufferChunk accounting model segmentId generation flow entry header) := by
  unfold bufferChunk
  dsimp only
  split
  · rfl
  cases accounting.chunkFrameBuffered model segmentId generation flow _ _ with
  | error => rfl
  | ok answer =>
    refine ⟨trivial, fun other kept there => ?_⟩
    split
    case isTrue same =>
      subst same
      cases (AList.lookup_insert _).symm.trans there
      split
      case h_1 chunk found => exact joins chunk _ found
      case h_2 =>
        refine ⟨List.pairwise_singleton _ _, ?_, ?_⟩
        · simpa using ranged
        · simpa using .inr isChunk
    case isFalse differs => rwa [← AList.lookup_insert_ne differs]

end Chunk

variable (gathered : ∀ chunk, state.chunks.lookup (segmentId, generation) = some chunk →
  Gathers fed chunk)

include gathered

theorem acceptChunk_accepts (model : σ) (flow : BudgetReservationId) {total : Int}
    (announced : entry.message.metadata.numChunksFromMsg = some total) :
    Accepts state (segmentId, generation) fed entry
      (state.acceptChunk accounting model segmentId generation flow entry total) := by
  unfold acceptChunk
  have headed := @ends_chunkHeader Refusal entry total announced
  cases read : (chunkHeader entry.message.metadata total :
      Except (StreamConsumerModelError Refusal) ChunkHeader) with
  | error => rfl
  | ok header =>
    rw [read] at headed
    obtain ⟨rfl, ranged, isChunk⟩ := headed
    dsimp only
    have checked := @ends_checkContinuation Refusal
      (state.chunks.lookup (segmentId, generation)) header
    cases continued : (checkContinuation (state.chunks.lookup (segmentId, generation)) header :
        Except (StreamConsumerModelError Refusal) Unit) with
    | error => rfl
    | ok =>
      rw [continued] at checked
      have joins : ∀ chunk assembly, state.chunks.lookup (segmentId, generation) = some chunk →
          Gathers (fed ++ [entry]) { chunk with
            payloads := insertChunk header.chunkId entry.message.payload chunk.payloads,
            assembly } := by
        intro chunk assembly found
        obtain ⟨sameUuid, sameTotal, sameSize, fresh⟩ := checked chunk found
        refine (gathered chunk found).insert assembly fresh (sameTotal ▸ ranged) ?_
        rwa [sameUuid, sameTotal, sameSize]
      dsimp only
      split
      case isTrue last =>
        refine completeChunk_accepts isChunk joins model flow fun chunk found => ?_
        obtain ⟨sameUuid, sameTotal, sameSize, -⟩ := checked chunk found
        rw [found, Option.elim_some] at last
        exact ⟨sameUuid, sameTotal, sameSize, by omega⟩
      case isFalse => exact bufferChunk_accepts accounting isChunk joins model flow ranged

theorem acceptEntry_accepts (entry : DeferredIncomingMessage) (model : σ)
    (flow : BudgetReservationId) :
    Accepts state (segmentId, generation) fed entry
      (state.acceptEntry accounting model segmentId generation flow entry) := by
  have whole (flow : BudgetReservationId) :
      Accepts state (segmentId, generation) fed entry
        ((.ok (.complete (whole entry flow)), state, model) : Received σ Action Refusal) := by
    refine ⟨trivial, fun other chunk there => ?_⟩
    split
    case isTrue same => exact (gathered chunk (same ▸ there)).mono
    case isFalse => exact there
  unfold acceptEntry
  split
  · exact whole flow
  case h_2 total announced =>
    split
    · exact whole flow
    · exact acceptChunk_accepts accounting gathered model flow announced

omit gathered

/-- The receive state, with the entries accepted from each child since its chain began. -/
structure Feed where
  receive : StreamReceiveState := {}
  fed : BudgetReservationOwner → List DeferredIncomingMessage := fun _ => []

/-- An entry is fed in whatever state the accounting is in, or a child is forgotten. -/
inductive FeedOp (σ : Type) where
  | accept (model : σ) (segmentId : SegmentId) (generation : ChildGeneration)
      (flow : BudgetReservationId) (entry : DeferredIncomingMessage)
  | removeChild (segmentId : SegmentId) (generation : ChildGeneration)

namespace Feed

def step (feed : Feed) : FeedOp σ → Feed
  | .removeChild segmentId generation =>
    { receive := feed.receive.removeChild segmentId generation
      fed := Function.update feed.fed (segmentId, generation) [] }
  | .accept model segmentId generation flow entry =>
    let (answer, receive, _) :=
      feed.receive.acceptEntry accounting model segmentId generation flow entry
    { receive
      fed := Function.update feed.fed (segmentId, generation)
        (if (receive.chunks.lookup (segmentId, generation)).isSome then
          match answer with
          | .ok _ => feed.fed (segmentId, generation) ++ [entry]
          | .error _ => feed.fed (segmentId, generation)
        else []) }

/-- Every chain is of one message. -/
def Gathered (feed : Feed) : Prop :=
  ∀ owner chunk, feed.receive.chunks.lookup owner = some chunk → Gathers (feed.fed owner) chunk

theorem Gathered.step {feed : Feed} (gathered : feed.Gathered) (op : FeedOp σ) :
    (feed.step accounting op).Gathered := by
  cases op with
  | removeChild segmentId generation =>
    intro owner chunk there
    have differs : owner ≠ (segmentId, generation) := by
      rintro rfl
      simp [Feed.step, removeChild] at there
    rw [Feed.step, removeChild, AList.lookup_erase_ne differs] at there
    have same : (feed.step accounting (.removeChild segmentId generation)).fed owner =
        feed.fed owner := Function.update_of_ne differs _ _
    rw [same]
    exact gathered owner chunk there
  | accept model segmentId generation flow entry =>
    have accepts := acceptEntry_accepts accounting (gathered (segmentId, generation)) entry model
      flow
    rcases accepted : feed.receive.acceptEntry accounting model segmentId generation flow entry with
      ⟨answer, receive, next⟩
    rw [accepted] at accepts
    simp only [Feed.step, accepted]
    intro owner chunk there
    dsimp only at there ⊢
    cases answer with
    | error =>
      cases (accepts : receive = feed.receive)
      by_cases same : owner = (segmentId, generation)
      · subst same
        simpa [there] using gathered _ chunk there
      · simpa [Function.update_of_ne same] using gathered owner chunk there
    | ok =>
      have found := accepts.2 owner chunk there
      by_cases same : owner = (segmentId, generation)
      · subst same
        rw [if_pos rfl] at found
        simpa [there] using found
      · rw [if_neg same] at found
        simpa [Function.update_of_ne same] using gathered owner chunk found

end Feed

end StreamReceiveState

end Magnetar.Proto.Stream
