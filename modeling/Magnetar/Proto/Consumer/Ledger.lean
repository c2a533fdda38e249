import Magnetar.Library.CreditWindow
import Magnetar.Library.Machine
import Magnetar.Proto.Consumer.Deliver

/-!
Contract: the flow-permit ledger of one consumer.

Owns: the credit window a consumer state mirrors, the units a dispatch charges, the simulation
of every permit operation by a move of the window, and conservation over whole runs.

Does not own: the broker's own counter (`Consumer.Broker`).
-/

namespace Magnetar.Proto.Consumer

open Library Library.CreditWindow Pb External Batch BatchAck ReceiverQueue

namespace ConsumerState

variable (c : ConsumerState)

def window : Window where
  balance := c.permitBalance
  refunds := c.consumedSinceFlow
  held := c.queue.length

def arrival (redelivery : Nat) : Arrival :=
  if c.deadLetters redelivery then .refunded else .held

/-! ### The units a dispatch charges -/

def chunkUnits (d : Dispatch) (total chunkId : Int) : List Arrival :=
  match (c.bufferChunk d total chunkId).2 with
  | none => []
  | some entry =>
    if entry.receivedChunks < entry.expectedChunks then [.refunded]
    else [c.arrival entry.redeliveryCount]

variable (single : Prost SingleMessageMetadata) (codecs : Codecs)

/-- One unit per surfaced member, then one refund per listed position that did not decode. -/
def batchUnits (c : ConsumerState) (d : Dispatch) (numInBatch : Int) : List Arrival :=
  let delivered := BatchAckEntry.fromDeliveredAckSet numInBatch d.cmd.ackSet
  let members := (unpackBatchMembers single codecs d.metadata d.body numInBatch).2
  let surfaced := ((List.range numInBatch.toNat).zip members).countP fun member =>
    delivered.isUnacked member.1
  List.replicate surfaced (c.arrival d.redelivery) ++
    List.replicate (undecodedCount numInBatch delivered members.length) .refunded

def shapeUnits (c : ConsumerState) (d : Dispatch) : List Arrival :=
  match d.chunk? with
  | some (total, chunkId) => c.chunkUnits d total chunkId
  | none =>
    match d.metadata.numMessagesInBatch with
    | some numInBatch => c.batchUnits single codecs d numInBatch
    | none => [c.arrival d.redelivery]

/-- Every unit one dispatch charges against the permit balance, in order. -/
def dispatchUnits (c : ConsumerState) (d : Dispatch) : List Arrival :=
  if c.closed || c.pendingSeek.isSome then [] else c.shapeUnits single codecs d

/-! ### What no delivery touches -/

/-- The part of a consumer's state that deciding on a flow reads and no delivery writes. -/
structure Control where
  handle : Nat
  receiverQueueSize : Nat
  policy : ReceiverQueuePolicy
  adjustInterval : Option Nat
  lastAdjustAt : Option Nat
  grantedPermits : Nat
  manualFlowPermits : Nat
  pendingSeek : Option Nat
  terminalOperation : ConsumerTerminalOperation
  closed : Bool
  hasEverAttached : Bool
  terminalFailure : Option String
  subscribeWaiterId : Option Nat
  subscribeWaiterRequest : Option Nat
  subscribeWaiterCompleted : Bool
  flowOnSubscribeAck : Bool
  flowOnSubscribeAckRequest : Option Nat
  initialGrantDue : Bool
  maxRedeliverCount : Nat
  paused : Bool
  reachedEndOfTopic : Bool

def control : Control where
  handle := c.handle
  receiverQueueSize := c.receiverQueueSize
  policy := c.policy
  adjustInterval := c.adjustInterval
  lastAdjustAt := c.lastAdjustAt
  grantedPermits := c.grantedPermits
  manualFlowPermits := c.manualFlowPermits
  pendingSeek := c.pendingSeek
  terminalOperation := c.terminalOperation
  closed := c.closed
  hasEverAttached := c.hasEverAttached
  terminalFailure := c.terminalFailure
  subscribeWaiterId := c.subscribeWaiterId
  subscribeWaiterRequest := c.subscribeWaiterRequest
  subscribeWaiterCompleted := c.subscribeWaiterCompleted
  flowOnSubscribeAck := c.flowOnSubscribeAck
  flowOnSubscribeAckRequest := c.flowOnSubscribeAckRequest
  initialGrantDue := c.initialGrantDue
  maxRedeliverCount := c.maxRedeliverCount
  paused := c.paused
  reachedEndOfTopic := c.reachedEndOfTopic

theorem arrival_congr {c c' : ConsumerState} (same : c'.control = c.control) (redelivery : Nat) :
    c'.arrival redelivery = c.arrival redelivery := by
  have limit : c'.maxRedeliverCount = c.maxRedeliverCount :=
    congrArg Control.maxRedeliverCount same
  unfold arrival deadLetters
  rw [limit]

/-! ### Each delivery is a burst of arrivals -/

/-- `c'` is `c` after exactly these units arrived, with nothing a flow decision reads changed. -/
structure Charged (c : ConsumerState) (units : List Arrival) (c' : ConsumerState) : Prop where
  window : c'.window = c.window.arriveAll u32Max units
  control : c'.control = c.control

theorem Charged.trans {c c' c'' : ConsumerState} {first second : List Arrival}
    (earlier : c.Charged first c') (later : c'.Charged second c'') :
    c.Charged (first ++ second) c'' where
  window := by rw [later.window, earlier.window, Window.arriveAll_append]
  control := later.control.trans earlier.control

section

variable (c : ConsumerState)

theorem classifyAndQueue_charged (message : IncomingMessage) (redelivery now : Nat) :
    c.Charged [c.arrival redelivery] (c.classifyAndQueue message redelivery now).1 := by
  unfold classifyAndQueue arrival
  by_cases exceeds : c.deadLetters redelivery = true
  · rw [if_pos exceeds, if_pos exceeds]
    exact ⟨rfl, rfl⟩
  · rw [if_neg exceeds, if_neg exceeds]
    refine ⟨?_, rfl⟩
    simp [ConsumerState.window, enqueue, recordDispatchUnit, Window.arrive]

theorem evictOldestOf_charged (order : List String) : c.Charged [] (c.evictOldestOf order) := by
  induction order with
  | nil => exact ⟨rfl, rfl⟩
  | cons _ _ ih =>
    unfold evictOldestOf
    split
    · exact ih
    · exact ⟨rfl, rfl⟩

variable (d : Dispatch)

theorem openChunkBuffer_charged (total chunkId : Int) :
    c.Charged [] (c.openChunkBuffer d total chunkId).1 := by
  unfold openChunkBuffer
  extract_lets opened kept
  have keptCharged : c.Charged [] kept := by
    change c.Charged [] (if _ then _ else _)
    split
    · exact ⟨(evictOldestOf_charged opened _).window, (evictOldestOf_charged opened _).control⟩
    · exact ⟨rfl, rfl⟩
  split
  · exact keptCharged
  · exact ⟨keptCharged.window, keptCharged.control⟩

theorem extendChunkBuffer_charged (chunkId : Int) (entry : ChunkBuffer) :
    c.Charged [] (c.extendChunkBuffer d chunkId entry).1 := by
  unfold extendChunkBuffer
  split
  · exact ⟨rfl, rfl⟩
  · split <;> exact ⟨rfl, rfl⟩

/-- Buffering a chunk moves no permit: the charge comes once its fate is known. -/
theorem bufferChunk_charged (total chunkId : Int) :
    c.Charged [] (c.bufferChunk d total chunkId).1 := by
  unfold bufferChunk
  split
  · exact ⟨rfl, rfl⟩
  split
  · exact ⟨rfl, rfl⟩
  split
  · split
    · exact ⟨rfl, rfl⟩
    · exact openChunkBuffer_charged c d total chunkId
  · exact extendChunkBuffer_charged c d chunkId _

theorem completeChunked_charged (entry : ChunkBuffer) :
    c.Charged [c.arrival entry.redeliveryCount] (c.completeChunked d entry).1 := by
  have closed : c.Charged [] (c.closeChunkBuffer d entry) := ⟨rfl, rfl⟩
  rw [← arrival_congr closed.control]
  exact closed.trans (classifyAndQueue_charged _ _ entry.redeliveryCount d.now)

theorem deliverChunk_charged (total chunkId : Int) :
    c.Charged (c.chunkUnits d total chunkId) (c.deliverChunk d total chunkId).1 := by
  have buffered := bufferChunk_charged c d total chunkId
  unfold deliverChunk chunkUnits
  generalize c.bufferChunk d total chunkId = result at buffered ⊢
  obtain ⟨kept, verdict⟩ := result
  cases verdict with
  | none => exact buffered
  | some entry =>
    dsimp only
    split
    · have unit : kept.Charged [.refunded] kept.recordBrokerPermitConsumed.recordDispatchUnit :=
        ⟨rfl, rfl⟩
      exact buffered.trans unit
    · rw [← arrival_congr buffered.control]
      exact buffered.trans (completeChunked_charged kept d entry)

end

theorem queueMembers_charged (d : Dispatch) (metadata : MessageMetadata) (numInBatch : Int)
    (delivered : BatchAckEntry) (members : List (Nat × BatchMember)) (c : ConsumerState) :
    c.Charged
      (List.replicate (members.countP fun member => delivered.isUnacked member.1)
        (c.arrival d.redelivery))
      (queueMembers d metadata numInBatch delivered c members).1 := by
  induction members generalizing c with
  | nil => exact ⟨rfl, rfl⟩
  | cons head _ ih =>
    obtain ⟨index, member⟩ := head
    unfold queueMembers
    by_cases listed : delivered.isUnacked index = true
    · rw [if_pos listed, List.countP_cons, if_pos listed, List.replicate_succ]
      have queued := classifyAndQueue_charged c
        (batchMessage d metadata numInBatch index member) d.redelivery d.now
      have remaining := ih
        (c.classifyAndQueue (batchMessage d metadata numInBatch index member)
          d.redelivery d.now).1
      rw [arrival_congr queued.control] at remaining
      exact queued.trans remaining
    · rw [if_neg listed, List.countP_cons, if_neg listed]
      exact ih c

section

variable (c : ConsumerState)

theorem recordUndecoded_charged (undecoded : Nat) :
    c.Charged (List.replicate undecoded .refunded) (c.recordUndecoded undecoded) := by
  induction undecoded generalizing c with
  | zero => exact ⟨rfl, rfl⟩
  | succ _ ih =>
    have unit : c.Charged [.refunded] c.recordDispatchUnit.recordBrokerPermitConsumed :=
      ⟨rfl, rfl⟩
    exact unit.trans (ih _)

theorem deliverBatch_charged (d : Dispatch) (numInBatch : Int) :
    c.Charged (c.batchUnits single codecs d numInBatch)
      (c.deliverBatch single codecs d numInBatch).1 := by
  unfold deliverBatch batchUnits
  have tracked : c.Charged [] (c.trackBatchAcks d.messageId
      (BatchAckEntry.fromDeliveredAckSet numInBatch d.cmd.ackSet)) := ⟨rfl, rfl⟩
  rw [← arrival_congr tracked.control]
  exact (tracked.trans (queueMembers_charged d _ numInBatch _ _ _)).trans
    (recordUndecoded_charged _ _)

theorem deliverShape_charged (d : Dispatch) :
    c.Charged (c.shapeUnits single codecs d) (c.deliverShape single codecs d).1 := by
  unfold deliverShape shapeUnits
  cases d.chunk? with
  | some chunk => exact deliverChunk_charged c d chunk.1 chunk.2
  | none =>
    cases d.metadata.numMessagesInBatch with
    | some numInBatch => exact deliverBatch_charged single codecs c d numInBatch
    | none => exact classifyAndQueue_charged c _ d.redelivery d.now

theorem deliver_charged (d : Dispatch) :
    c.Charged (c.dispatchUnits single codecs d) (c.deliver single codecs d).1 := by
  unfold deliver dispatchUnits
  by_cases isClosed : c.closed = true
  · rw [if_pos isClosed, if_pos (by simp [isClosed])]
    exact ⟨rfl, rfl⟩
  by_cases seeking : c.pendingSeek.isSome = true
  · rw [if_neg isClosed, if_pos seeking, if_pos (by simp [seeking])]
    exact ⟨rfl, rfl⟩
  rw [if_neg isClosed, if_neg seeking, if_neg (by simp [isClosed, seeking])]
  exact deliverShape_charged single codecs c d

/-! ### The remaining permit operations -/

theorem popMessage_control :
    c.popMessage.1.control = { c.control with
      manualFlowPermits := c.popMessage.1.manualFlowPermits } := by
  unfold popMessage
  split <;> rfl

theorem popMessage_window :
    (c.queue = [] ∧ c.popMessage.1 = c) ∨
      (1 ≤ c.window.held ∧ c.popMessage.1.window = c.window.release u32Max) := by
  unfold popMessage
  cases queued : c.queue with
  | nil => exact .inl ⟨rfl, rfl⟩
  | cons =>
    right
    simp [window, queued, Window.release, recordBrokerPermitConsumed, satAdd]

/-- A flow goes out exactly when the refund has reached the threshold of a consumer that may
flow, and then returns the whole refund. -/
theorem maybeFlow_cases :
    (c.maybeFlow = (c, none) ∧ (c.flowHeld = true ∨ c.consumedSinceFlow < c.flowThreshold)) ∨
      (c.flowHeld = false ∧ c.flowThreshold ≤ c.consumedSinceFlow ∧
        c.maybeFlow =
          ({ c with
              consumedSinceFlow := 0
              grantedPermits := satAdd c.grantedPermits c.consumedSinceFlow
              permitBalance := satAdd c.permitBalance c.consumedSinceFlow
              stallWatch := none },
            some { consumerId := c.handle, messagePermits := c.consumedSinceFlow })) := by
  unfold maybeFlow
  by_cases holds : c.flowHeld = true
  · rw [if_pos holds]
    exact .inl ⟨rfl, .inl holds⟩
  by_cases below : c.consumedSinceFlow < c.flowThreshold
  · rw [if_neg holds, if_pos below]
    exact .inl ⟨rfl, .inr below⟩
  · rw [if_neg holds, if_neg below]
    exact .inr ⟨Bool.eq_false_iff.mpr holds, Nat.le_of_not_lt below, rfl⟩

theorem maybeFlow_window :
    c.maybeFlow.1.window = c.window ∨ c.maybeFlow.1.window = c.window.replenish u32Max := by
  rcases c.maybeFlow_cases with ⟨stays, _⟩ | ⟨_, _, flows⟩
  · exact .inl (by rw [stays])
  · exact .inr (by rw [flows]; rfl)

theorem initialFlow_window (sized : c.receiverQueueSize ≠ 0) :
    c.initialFlow.1.window =
      { balance := asU32 c.receiverQueueSize, refunds := 0, held := c.queue.length } := by
  simp [initialFlow, window, sized]

end

/-- The permits a feedback tick to `target` adds: none unless the queue grows, and then what the
new size exceeds every grant of the attach by. -/
def growth (target : Nat) : Nat :=
  if max target 1 ≤ c.receiverQueueSize then 0 else asU32 (max target 1) - c.grantedPermits

/-- A consumer that a feedback tick leaves at its size. -/
def adjustHeld : Bool :=
  c.closed || c.pendingSeek.isSome || c.paused || c.terminalFailure.isSome || c.grantedPermits == 0

theorem adjustReceiverQueue_cases {c c' : ConsumerState} {now partitions : Nat}
    {flow : Option CommandFlow} (adjusted : c.adjustReceiverQueue now partitions = some (c', flow)) :
    (c.adjustHeld = true ∧ c' = { c with lastAdjustAt := some now } ∧ flow = none) ∨
      (c.adjustHeld = false ∧ ∃ target, c.policy.adjust (c.flowStats partitions) = some target ∧
        ((c.growth target = 0 ∧
            c' = { c with lastAdjustAt := some now, receiverQueueSize := max target 1 } ∧
            flow = none) ∨
          (c.growth target ≠ 0 ∧
            c' = ({ c with
              lastAdjustAt := some now
              receiverQueueSize := max target 1 }.grant (c.growth target)).1 ∧
            flow = some { consumerId := c.handle, messagePermits := c.growth target }))) := by
  unfold adjustReceiverQueue at adjusted
  dsimp only at adjusted
  split at adjusted
  · rename_i gated
    cases adjusted
    exact .inl ⟨by simp [adjustHeld, gated], rfl, rfl⟩
  rename_i open_
  split at adjusted
  · rename_i ungranted
    cases adjusted
    exact .inl ⟨by simp [adjustHeld, show c.grantedPermits = 0 from ungranted], rfl, rfl⟩
  rename_i granted
  right
  refine ⟨by simp only [adjustHeld, Bool.or_eq_false_iff, beq_eq_false_iff_ne]; simp_all, ?_⟩
  obtain ⟨target, sized, resized⟩ := Option.bind_eq_some_iff.mp adjusted
  refine ⟨target, sized, ?_⟩
  unfold growth
  by_cases shrinks : max target 1 ≤ c.receiverQueueSize
  · simp only [shrinks, if_true, Option.some.injEq, Prod.mk.injEq] at resized ⊢
    exact .inl ⟨trivial, resized.1.symm, resized.2.symm⟩
  · simp only [shrinks, if_false] at resized ⊢
    split at resized
    · rename_i covered
      cases resized
      exact .inl ⟨covered, rfl, rfl⟩
    · rename_i short
      cases resized
      exact .inr ⟨short, rfl, rfl⟩

/-! ### Runs of permit operations -/

inductive PermitOp where
  | deliver (dispatch : Dispatch)
  | recordMarkerConsumed
  | popMessage
  | maybeFlow

def permitStep (c : ConsumerState) : PermitOp → ConsumerState
  | .deliver dispatch => (c.deliver single codecs dispatch).1
  | .recordMarkerConsumed => c.recordMarkerConsumed
  | .popMessage => c.popMessage.1
  | .maybeFlow => c.maybeFlow.1

/-- The units the frame behind an operation charges. -/
def permitUnits (c : ConsumerState) : PermitOp → List Arrival
  | .deliver dispatch => c.dispatchUnits single codecs dispatch
  | .recordMarkerConsumed => [.refunded]
  | .popMessage => []
  | .maybeFlow => []

/-- The frame behind an operation charges no more units than the balance holds. -/
def Covered (c : ConsumerState) (op : PermitOp) : Prop :=
  (c.permitUnits single codecs op).length ≤ c.permitBalance

theorem permitStep_total (c : ConsumerState) (op : PermitOp)
    (covered : c.Covered single codecs op) (bounded : c.window.total ≤ u32Max) :
    (c.permitStep single codecs op).window.total = c.window.total := by
  cases op with
  | deliver dispatch =>
    have charged := c.deliver_charged single codecs dispatch
    change (c.deliver single codecs dispatch).1.window.total = _
    rw [charged.window]
    exact Window.total_arriveAll _ covered bounded
  | recordMarkerConsumed =>
    change (c.window.arrive u32Max .refunded).total = _
    exact Window.total_arrive .refunded covered bounded
  | popMessage =>
    change c.popMessage.1.window.total = _
    rcases c.popMessage_window with ⟨_, unchanged⟩ | ⟨holds, released⟩
    · rw [unchanged]
    · rw [released]
      exact Window.total_release holds bounded
  | maybeFlow =>
    change c.maybeFlow.1.window.total = _
    rcases c.maybeFlow_window with unchanged | replenished
    · rw [unchanged]
    · rw [replenished]
      exact Window.total_replenish bounded

theorem run_permitStep_total {start : ConsumerState} {ops : List PermitOp}
    (bounded : start.window.total ≤ u32Max)
    (guarded : Machine.Guarded (permitStep single codecs) (Covered single codecs) start ops) :
    (Machine.run (permitStep single codecs) start ops).window.total = start.window.total := by
  refine Machine.run_invariant (fun c => c.window.total = start.window.total) ?_ rfl guarded
  intro c op conserved covered
  rw [permitStep_total single codecs c op covered (conserved ▸ bounded), conserved]

/-- A consumer of a fixed receiver queue keeps its whole window accounted for, from the initial
flow on and over every covered run, exactly when its size fits the `u32` the flow is cut to. -/
theorem fixed_window_conserved (size : Nat) (positive : 1 ≤ size) :
    (∀ (single : Prost SingleMessageMetadata) (codecs : Codecs) (start : ConsumerState)
        (ops : List PermitOp),
        start.policy = fixed size → start.receiverQueueSize = size → start.queue = [] →
        Machine.Guarded (permitStep single codecs) (Covered single codecs)
          start.initialFlow.1 ops →
        let c := Machine.run (permitStep single codecs) start.initialFlow.1 ops
        c.permitBalance + c.consumedSinceFlow + c.queue.length = size) ↔
      size < 2 ^ 32 := by
  constructor
  · intro conserved
    have granted := conserved default default (withPolicy 0 "" "" (fixed size) none) []
      rfl rfl rfl trivial
    have sized : size ≠ 0 := by omega
    have cut : asU32 size = size := by
      simpa [withPolicy, fixed, initialFlow, sized] using granted
    rw [← cut]
    exact Nat.mod_lt _ (by decide)
  · intro fits single codecs start ops _ sized empty guarded
    have window : start.initialFlow.1.window = { balance := size, refunds := 0, held := 0 } := by
      rw [initialFlow_window start (by omega), sized, empty, asU32, Nat.mod_eq_of_lt fits]
      rfl
    have total : start.initialFlow.1.window.total = size := by
      rw [window]
      rfl
    have conserved := run_permitStep_total single codecs
      (by rw [total]; exact Nat.le_pred_of_lt fits) guarded
    exact conserved.trans total

theorem fixed_window_conserved_default :
    (∀ (single : Prost SingleMessageMetadata) (codecs : Codecs) (start : ConsumerState)
        (ops : List PermitOp),
        start.policy = fixed 1000 → start.receiverQueueSize = 1000 → start.queue = [] →
        Machine.Guarded (permitStep single codecs) (Covered single codecs)
          start.initialFlow.1 ops →
        let c := Machine.run (permitStep single codecs) start.initialFlow.1 ops
        c.permitBalance + c.consumedSinceFlow + c.queue.length = 1000) ↔
      1000 < 2 ^ 32 :=
  fixed_window_conserved 1000 (by decide)

/-- A queue of `2 ^ 32` messages is granted no permit at all. -/
theorem fixed_window_lost_at_two_pow_32 :
    let start := withPolicy 1 "persistent://public/default/t" "s" (fixed (2 ^ 32)) none
    start.queue = [] ∧ start.receiverQueueSize = 2 ^ 32 ∧
      start.initialFlow.2.messagePermits = 0 ∧
      start.initialFlow.1.permitBalance + start.initialFlow.1.consumedSinceFlow +
        start.initialFlow.1.queue.length ≠ 2 ^ 32 := by
  decide

end ConsumerState

end Magnetar.Proto.Consumer
