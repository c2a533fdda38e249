import Magnetar.Proto.Consumer.Ledger

/-!
Contract: one attach of a consumer seen from both ends of the connection.

Owns: the broker's own permit counter, the two-party system of one attach, and the relation
between the broker's counter and the client's mirror of it over every run.

Does not own: how an attach starts or ends.
-/

namespace Magnetar.Proto.Consumer

open Library Library.CreditWindow Pb External BatchAck ReceiverQueue BatchAckEntry

/-! ### What the broker charges -/

variable (d : Dispatch)

/-- The batch size of a dispatch that takes the batch path. -/
def Dispatch.batch? : Option Int :=
  match d.chunk? with
  | some _ => none
  | none => d.metadata.numMessagesInBatch

/-- Bit `position` of the ack set the broker sent; a word it did not send has no bit set. -/
def ackBit (ackSet : List Int64) (position : Nat) : Bool :=
  (ackSet[position / 64]?).any fun word => word.toBitVec.getLsbD (position % 64)

/-- The permits the broker takes for a frame: one, or one per position it still lists. -/
def Dispatch.brokerCharge : Nat :=
  match d.batch? with
  | none => 1
  | some numInBatch =>
    if d.cmd.ackSet = [] then numInBatch.toNat
    else (List.range numInBatch.toNat).countP (ackBit d.cmd.ackSet)

/-- The positions of a batch that a present ack set has no word for: the broker does not charge
them, and the client reads them as outstanding. -/
def Dispatch.unlisted : Nat :=
  match d.batch? with
  | none => 0
  | some numInBatch =>
    if d.cmd.ackSet = [] then 0 else numInBatch.toNat - 64 * d.cmd.ackSet.length

theorem deliveredWord_eq_ackBit (ackSet : List Int64) (position : Nat)
    (inside : position / 64 < ackSet.length) :
    (deliveredWord ackSet (position / 64)).getLsbD (position % 64) =
      ackBit ackSet position := by
  unfold deliveredWord ackBit
  rw [List.getElem?_eq_getElem inside]
  rfl

theorem deliveredWord_past (ackSet : List Int64) (position : Nat)
    (past : ackSet.length ≤ position / 64) :
    (deliveredWord ackSet (position / 64)).getLsbD (position % 64) = true ∧
      ackBit ackSet position = false := by
  have below : position % 64 < 64 := Nat.mod_lt _ (by decide)
  unfold deliveredWord ackBit
  rw [List.getElem?_eq_none past]
  exact ⟨by rw [Option.elim_none, BitVec.getLsbD_allOnes, decide_eq_true below], rfl⟩

/-- Two readings of a range that agree below `covered`, and of which one takes every position from
there on and the other none. -/
theorem countP_range_split {wide narrow : Nat → Bool} {covered : Nat}
    (agree : ∀ position < covered, wide position = narrow position)
    (past : ∀ position, covered ≤ position → wide position = true ∧ narrow position = false)
    (count : Nat) :
    (List.range count).countP wide = (List.range count).countP narrow + (count - covered) := by
  induction count with
  | zero => simp
  | succ count ih =>
    rw [List.range_succ, List.countP_append, List.countP_append, ih, List.countP_singleton,
      List.countP_singleton]
    by_cases inside : count < covered
    · rw [agree count inside]
      omega
    · obtain ⟨taken, left⟩ := past count (by omega)
      simp only [taken, left, if_true, Bool.false_eq_true, if_false]
      omega

theorem countP_isUnacked_eq_brokerCharge (numInBatch : Int)
    (batched : d.batch? = some numInBatch) :
    (List.range numInBatch.toNat).countP (fun index : Nat =>
      (fromDeliveredAckSet numInBatch d.cmd.ackSet).isUnacked index) =
      d.brokerCharge + d.unlisted := by
  have listed : (List.range numInBatch.toNat).countP (fun index : Nat =>
      (fromDeliveredAckSet numInBatch d.cmd.ackSet).isUnacked index) =
      (List.range numInBatch.toNat).countP fun index =>
        (deliveredWord d.cmd.ackSet (index / 64)).getLsbD (index % 64) := by
    apply List.countP_congr
    intro index member
    rw [isUnacked_fromDeliveredAckSet, decide_eq_true (List.mem_range.mp member), Bool.true_and]
  have split := @countP_range_split _ _ (64 * d.cmd.ackSet.length)
    (fun position inside => deliveredWord_eq_ackBit d.cmd.ackSet position (by omega))
    (fun position past => deliveredWord_past d.cmd.ackSet position (by omega)) numInBatch.toNat
  rw [listed, split]
  simp only [Dispatch.brokerCharge, Dispatch.unlisted, batched]
  by_cases absent : d.cmd.ackSet = []
  · have none : (List.range numInBatch.toNat).countP (ackBit []) = 0 := by simp [ackBit]
    rw [if_pos absent, if_pos absent, absent, none]
    simp
  · rw [if_neg absent, if_neg absent]

namespace ConsumerState

variable (single : Prost SingleMessageMetadata) (codecs : Codecs)

/-- The members that decode and the positions past them are all the positions of the batch. -/
theorem countP_zip_add_countP_drop {β : Type} (positions : List Nat) (members : List β)
    (listed : Nat → Bool) :
    ((positions.zip members).countP fun member => listed member.1) +
      (positions.drop members.length).countP listed = positions.countP listed := by
  induction positions generalizing members with
  | nil => simp
  | cons _ _ ih =>
    cases members with
    | nil => simp
    | cons _ others =>
      have remaining := ih others
      simp only [List.zip_cons_cons, List.countP_cons, List.length_cons,
        List.drop_succ_cons]
      omega

variable (c : ConsumerState)

theorem batchUnits_length (d : Dispatch) (numInBatch : Int) :
    (c.batchUnits single codecs d numInBatch).length =
      (List.range numInBatch.toNat).countP (fun index : Nat =>
        (fromDeliveredAckSet numInBatch d.cmd.ackSet).isUnacked index) := by
  unfold batchUnits undecodedCount
  rw [List.length_append, List.length_replicate, List.length_replicate]
  exact countP_zip_add_countP_drop _ _ fun index : Nat =>
    (fromDeliveredAckSet numInBatch d.cmd.ackSet).isUnacked index

theorem classifyAndQueue_not_dropped (message : IncomingMessage) (redelivery now : Nat) :
    (c.classifyAndQueue message redelivery now).2 ≠ .dropped := by
  unfold classifyAndQueue
  split <;> simp

theorem deliverChunk_outcome (d : Dispatch) (total chunkId : Int) :
    ((c.deliverChunk d total chunkId).2 = .dropped ∧ c.chunkUnits d total chunkId = []) ∨
      ((c.deliverChunk d total chunkId).2 ≠ .dropped ∧
        (c.chunkUnits d total chunkId).length = 1) := by
  unfold deliverChunk chunkUnits
  generalize c.bufferChunk d total chunkId = result
  obtain ⟨kept, verdict⟩ := result
  cases verdict with
  | none => exact .inl ⟨rfl, rfl⟩
  | some =>
    right
    dsimp only
    split
    · exact ⟨by simp, rfl⟩
    · exact ⟨classifyAndQueue_not_dropped _ _ _ _, rfl⟩

/-- What the client charges for a frame against what the broker took for it.  For a dropped frame
the broker took one permit and the client charges nothing; for any other the client also charges
the positions that the ack set does not reach. -/
theorem dispatchUnits_brokerCharge (d : Dispatch) (isOpen : c.closed = false)
    (notSeeking : c.pendingSeek = none) :
    ((c.deliver single codecs d).2 = .ok .dropped ∧
        c.dispatchUnits single codecs d = [] ∧ d.brokerCharge = 1 ∧ d.unlisted = 0) ∨
      ((c.deliver single codecs d).2 ≠ .ok .dropped ∧
        (c.dispatchUnits single codecs d).length = d.brokerCharge + d.unlisted) := by
  have units : c.dispatchUnits single codecs d = c.shapeUnits single codecs d := by
    rw [dispatchUnits, if_neg (by simp [isOpen, notSeeking])]
  have outcome : (c.deliver single codecs d).2 = .ok (c.deliverShape single codecs d).2 := by
    rw [deliver, if_neg (by simp [isOpen]), if_neg (by simp [notSeeking])]
  rw [units, outcome]
  simp only [Except.ok.injEq, ne_eq]
  unfold deliverShape shapeUnits
  cases chunked : d.chunk? with
  | some chunk =>
    have charge : d.brokerCharge = 1 ∧ d.unlisted = 0 := by
      simp [Dispatch.brokerCharge, Dispatch.unlisted, Dispatch.batch?, chunked]
    rcases c.deliverChunk_outcome d chunk.1 chunk.2 with ⟨dropped, none⟩ | ⟨kept, one⟩
    · exact .inl ⟨dropped, none, charge⟩
    · exact .inr ⟨kept, by rw [one, charge.1, charge.2]⟩
  | none =>
    right
    have batch : d.batch? = d.metadata.numMessagesInBatch := by
      simp [Dispatch.batch?, chunked]
    cases batched : d.metadata.numMessagesInBatch with
    | some numInBatch =>
      refine ⟨by simp [deliverBatch], ?_⟩
      exact (batchUnits_length single codecs c d numInBatch).trans
        (countP_isUnacked_eq_brokerCharge d numInBatch (batch.trans batched))
    | none =>
      refine ⟨classifyAndQueue_not_dropped _ _ _ _, ?_⟩
      simp [Dispatch.brokerCharge, Dispatch.unlisted, batch, batched]

end ConsumerState

/-! ### One attach -/

/-- The two ends of an attach: the client's consumer and the permits the broker has left, negative
once a batch overdrew them.  With them, what the two ends count differently: the chunk frames the
client dropped, the positions it charged although no ack set listed them, and the shortfalls that
stood when permits were sent, on top of which the client counts from zero. -/
structure Attach where
  consumer : ConsumerState
  available : Int
  droppedChunks : Nat
  unlisted : Nat
  overdrawn : Nat

inductive AttachOp where
  | frame (dispatch : Dispatch)
  | marker
  | pop
  | flow
  /-- `Connection::flow`, the only source of permits for a queue of size zero. -/
  | explicitFlow (permits : Nat)

variable {attach : Attach}

namespace Attach

variable (single : Prost SingleMessageMetadata) (codecs : Codecs)

def begin (start : ConsumerState) : Attach where
  consumer := start.initialFlow.1
  available := start.initialFlow.2.messagePermits
  droppedChunks := 0
  unlisted := 0
  overdrawn := 0

/-- The broker's permits as the client counts them, below zero while the broker is overdrawn. -/
def seen (attach : Attach) : Int :=
  attach.available + attach.droppedChunks + attach.overdrawn - attach.unlisted

/-- The broker gets the permits of a flow. -/
def receive (attach : Attach) (permits : Nat) : Attach :=
  { attach with
    available := attach.available + permits
    overdrawn := attach.overdrawn + (-attach.seen).toNat }

def step (attach : Attach) : AttachOp → Attach
  | .frame dispatch =>
    let (consumer, outcome) := attach.consumer.deliver single codecs dispatch
    { attach with
      consumer := consumer
      available := attach.available - dispatch.brokerCharge
      droppedChunks :=
        match outcome with
        | .ok .dropped => attach.droppedChunks + 1
        | _ => attach.droppedChunks
      unlisted := attach.unlisted + dispatch.unlisted }
  | .marker =>
    { attach with
      consumer := attach.consumer.recordMarkerConsumed
      available := attach.available - 1 }
  | .pop => { attach with consumer := attach.consumer.popMessage.1 }
  | .flow =>
    match attach.consumer.maybeFlow with
    | (consumer, some flow) => { attach.receive flow.messagePermits with consumer := consumer }
    | (consumer, none) => { attach with consumer := consumer }
  | .explicitFlow permits =>
    { attach.receive permits with consumer := attach.consumer.addFlow permits }

/-- No flow takes the client's balance past the width of its counter. -/
def Fits (attach : Attach) : AttachOp → Prop
  | .flow => ∀ flow ∈ attach.consumer.maybeFlow.2,
      attach.consumer.permitBalance + flow.messagePermits ≤ u32Max
  | .explicitFlow permits => attach.consumer.permitBalance + permits ≤ u32Max
  | _ => True

instance (attach : Attach) (op : AttachOp) : Decidable (attach.Fits op) :=
  match op with
  | .frame _ | .marker | .pop => .isTrue trivial
  | .flow => inferInstanceAs (Decidable (∀ flow ∈ attach.consumer.maybeFlow.2, _))
  | .explicitFlow _ => inferInstanceAs (Decidable (_ ≤ _))

structure Mirrored (attach : Attach) : Prop where
  isOpen : attach.consumer.closed = false
  notSeeking : attach.consumer.pendingSeek = none
  mirrors : (attach.consumer.permitBalance : Int) = max attach.seen 0

theorem begin_mirrored (start : ConsumerState) (isOpen : start.closed = false)
    (notSeeking : start.pendingSeek = none) : (begin start).Mirrored := by
  refine ⟨isOpen, notSeeking, ?_⟩
  have same : (begin start).consumer.permitBalance = start.initialFlow.2.messagePermits := rfl
  rw [same]
  simp only [seen, begin]
  omega

section

variable (mirrored : attach.Mirrored)

include mirrored

theorem Mirrored.frame (dispatch : Dispatch) :
    (attach.step single codecs (.frame dispatch)).Mirrored := by
  have charged := attach.consumer.deliver_charged single codecs dispatch
  have mirrors := mirrored.mirrors
  refine ⟨?_, ?_, ?_⟩
  · exact (congrArg ConsumerState.Control.closed charged.control).trans mirrored.isOpen
  · exact (congrArg ConsumerState.Control.pendingSeek charged.control).trans mirrored.notSeeking
  · have balance : (attach.step single codecs (.frame dispatch)).consumer.permitBalance =
        attach.consumer.permitBalance -
          (attach.consumer.dispatchUnits single codecs dispatch).length :=
      (congrArg Window.balance charged.window).trans (Window.arriveAll_balance _)
    rw [balance]
    rcases attach.consumer.dispatchUnits_brokerCharge single codecs dispatch mirrored.isOpen
        mirrored.notSeeking with ⟨dropped, units, one, listed⟩ | ⟨kept, length⟩
    · -- A dropped chunk: the broker's permit is gone, the client's view of it is not.
      simp only [step, Attach.seen, dropped, units, one, listed, List.length_nil] at mirrors ⊢
      omega
    · simp only [step, Attach.seen, length] at mirrors ⊢
      omega

theorem Mirrored.marker : (attach.step single codecs .marker).Mirrored := by
  have mirrors := mirrored.mirrors
  refine ⟨mirrored.isOpen, mirrored.notSeeking, ?_⟩
  change ((attach.consumer.permitBalance - 1 : Nat) : Int) = _
  simp only [step, Attach.seen] at mirrors ⊢
  omega

theorem Mirrored.pop : (attach.step single codecs .pop).Mirrored := by
  have control := attach.consumer.popMessage_control
  refine ⟨?_, ?_, ?_⟩
  · exact (congrArg ConsumerState.Control.closed control).trans mirrored.isOpen
  · exact (congrArg ConsumerState.Control.pendingSeek control).trans mirrored.notSeeking
  · have balance : attach.consumer.popMessage.1.permitBalance = attach.consumer.permitBalance := by
      rcases attach.consumer.popMessage_window with ⟨_, unchanged⟩ | ⟨_, released⟩
      · rw [unchanged]
      · exact congrArg Window.balance released
    change (attach.consumer.popMessage.1.permitBalance : Int) = max attach.seen 0
    rw [balance]
    exact mirrored.mirrors

/-- Permits that fit raise both counts alike: the shortfall is written off, because the client's
balance had stopped at zero. -/
theorem Mirrored.receive {permits : Nat}
    (fits : attach.consumer.permitBalance + permits ≤ u32Max) :
    ((satAdd attach.consumer.permitBalance permits : Nat) : Int) =
      max (attach.receive permits).seen 0 := by
  have mirrors := mirrored.mirrors
  simp only [Attach.receive, Attach.seen, satAdd] at mirrors ⊢
  omega

theorem Mirrored.flow (fits : attach.Fits .flow) : (attach.step single codecs .flow).Mirrored := by
  rcases attach.consumer.maybeFlow_cases with ⟨stays, _⟩ | ⟨_, _, flows⟩
  · have unchanged : attach.step single codecs .flow = attach := by simp [step, stays]
    rw [unchanged]
    exact mirrored
  · simp only [Fits, flows, Option.mem_def, Option.some.injEq, forall_eq'] at fits
    simp only [step, flows]
    exact ⟨mirrored.isOpen, mirrored.notSeeking, mirrored.receive fits⟩

end

theorem step_mirrored (attach : Attach) (op : AttachOp) (mirrored : attach.Mirrored)
    (fits : attach.Fits op) : (attach.step single codecs op).Mirrored := by
  cases op with
  | frame dispatch => exact mirrored.frame single codecs dispatch
  | marker => exact mirrored.marker single codecs
  | pop => exact mirrored.pop single codecs
  | flow => exact mirrored.flow single codecs fits
  | explicitFlow => exact ⟨mirrored.isOpen, mirrored.notSeeking, mirrored.receive fits⟩

/-- Over every run of one attach the client's balance is the broker's remaining permits, plus one
for each chunk frame the client dropped and the shortfalls it wrote off, less one for each position
it charged that no ack set listed; and zero while that is negative. -/
theorem permitBalance_mirrors_broker (start : ConsumerState) (ops : List AttachOp)
    (isOpen : start.closed = false) (notSeeking : start.pendingSeek = none)
    (fits : Machine.Guarded (step single codecs) Fits (begin start) ops) :
    let attach := Machine.run (step single codecs) (begin start) ops
    (attach.consumer.permitBalance : Int) =
      max (attach.available + attach.droppedChunks + attach.overdrawn - attach.unlisted) 0 :=
  (Machine.run_invariant Mirrored (fun attach op => step_mirrored single codecs attach op)
    (begin_mirrored start isOpen notSeeking) fits).mirrors

private def chunkFrame (entry : Nat) (uuid : String) (chunkId : Int) : Dispatch where
  cmd := { consumerId := 1, messageId := { ledgerId := 1, entryId := entry } }
  metadata := { uuid := some uuid, numChunksFromMsg := some 2, chunkId := some chunkId }
  body := [0]

private def batchFrame (numInBatch : Int) (ackSet : List Int64) : Dispatch where
  cmd := { consumerId := 1, messageId := { ledgerId := 1, entryId := 0 }, ackSet := ackSet }
  metadata := { numMessagesInBatch := some numInBatch }

private def startOf (size maxPending : Nat) : ConsumerState :=
  { ConsumerState.withPolicy 1 "t" "s" (fixed size) none with
    maxPendingChunkedMessage := maxPending }

private def chunkRun : List AttachOp :=
  [.frame (chunkFrame 0 "a" 0), .pop, .frame (chunkFrame 1 "b" 0), .frame (chunkFrame 2 "a" 1)]

/-- An evicted chunk, then two batches that overdraw the broker, the second with an ack set that
does not reach its last position. -/
private def overdrawingRun : List AttachOp :=
  chunkRun ++ [.frame (batchFrame 9 []), .flow, .frame (batchFrame 65 [-1]), .flow]

private def after (start : ConsumerState) (ops : List AttachOp) : Attach :=
  Machine.run (step default default) (begin start) ops

private def overdrawnAttach : Attach :=
  after (startOf 10 1) overdrawingRun

theorem permitBalance_mirrors_broker_overdrawn :
    overdrawnAttach.available = 10 ∧ overdrawnAttach.droppedChunks = 1 ∧
      overdrawnAttach.overdrawn = 55 ∧ overdrawnAttach.unlisted = 1 ∧
      (overdrawnAttach.consumer.permitBalance : Int) =
        max (overdrawnAttach.available + overdrawnAttach.droppedChunks +
          overdrawnAttach.overdrawn - overdrawnAttach.unlisted) 0 := by
  refine ⟨by decide +kernel, by decide +kernel, by decide +kernel, by decide +kernel, ?_⟩
  unfold overdrawnAttach after
  exact permitBalance_mirrors_broker default default (startOf 10 1) overdrawingRun rfl rfl
    (by decide +kernel)

/-- Four runs after which the client's balance is not the broker's: the second chunk of a
message that another message's first chunk evicted, a batch whose ack set has no word for its
last position, a flow sent after a batch overdrew the permits, and a flow past the width of the
client's counter. -/
theorem permitBalance_drifts :
    ((after (startOf 10 1) chunkRun).available = 7 ∧
      (after (startOf 10 1) chunkRun).consumer.permitBalance = 8) ∧
    ((after (startOf 100 10) [.frame (batchFrame 65 [-1])]).available = 36 ∧
      (after (startOf 100 10) [.frame (batchFrame 65 [-1])]).consumer.permitBalance = 35) ∧
    ((after (startOf 2 10) [.frame (batchFrame 3 []), .flow]).available = 2 ∧
      (after (startOf 2 10) [.frame (batchFrame 3 []), .flow]).consumer.permitBalance = 3) ∧
    (after (startOf 10 1) [.explicitFlow u32Max]).available = u32Max + 10 ∧
      (after (startOf 10 1) [.explicitFlow u32Max]).consumer.permitBalance = u32Max := by
  decide +kernel

end Attach

end Magnetar.Proto.Consumer
