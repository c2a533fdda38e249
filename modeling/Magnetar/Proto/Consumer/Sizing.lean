import Magnetar.Proto.Consumer.Ledger

/-!
Contract: whether automatic queue sizing can leave a consumer without a way to its next flow.

Owns: the runs that mix permit operations with sizing ticks, the condition on a tick that grows
the queue, and the floor under the window that this condition keeps.

Does not own: the policy itself, nor when a tick is due.
-/

namespace Magnetar.Proto.Consumer.ConsumerState

open Library Library.CreditWindow Pb External ReceiverQueue

inductive SizedOp where
  | permit (op : PermitOp)
  | adjustReceiverQueue (now partitions : Nat)

variable (single : Prost SingleMessageMetadata) (codecs : Codecs)

/-- A tick in which the policy panics takes the consumer nowhere. -/
def sizedStep (c : ConsumerState) : SizedOp → ConsumerState
  | .permit op => c.permitStep single codecs op
  | .adjustReceiverQueue now partitions =>
    ((c.adjustReceiverQueue now partitions).map Prod.fst).getD c

/-- A tick that grows the queue leaves, with what it adds, at least the new flow threshold in the
window: permits out, refunds owed and messages held. -/
def growthCovered (c : ConsumerState) : SizedOp → Bool
  | .permit _ => true
  | .adjustReceiverQueue _ partitions =>
    (c.policy.adjust (c.flowStats partitions)).all fun target =>
      decide (c.adjustHeld = false → c.receiverQueueSize < max target 1 →
        max (max target 1 / 2) 1 ≤
          c.permitBalance + c.consumedSinceFlow + c.queue.length +
            (max target 1 - c.grantedPermits))

/-- A consumer of an automatic queue that can always reach its next flow. -/
structure Fed (auto : Auto) (c : ConsumerState) : Prop where
  policy : c.policy = auto.policy
  sized : c.receiverQueueSize ≤ max auto.min Auto.absoluteMax
  floor : c.flowThreshold ≤ c.window.total

theorem flowThreshold_le (c : ConsumerState) : c.flowThreshold ≤ u32Max := by
  have bounded : c.flowThreshold < 2 ^ 32 := Nat.mod_lt _ (by decide)
  unfold u32Max
  omega

theorem flowThreshold_of_lt {c : ConsumerState} (small : c.receiverQueueSize < 2 ^ 32) :
    c.flowThreshold = max (c.receiverQueueSize / 2) 1 := by
  unfold flowThreshold asU32
  apply Nat.mod_eq_of_lt
  omega

variable {auto : Auto} {c c' : ConsumerState}

/-- With the threshold in the window, an empty balance leaves it to the refund and the queue. -/
theorem Fed.not_starved (fed : c.Fed auto) : c.isFlowStarved = false := by
  have floor : c.flowThreshold ≤ c.permitBalance + c.consumedSinceFlow + c.queue.length := fed.floor
  unfold isFlowStarved
  rw [Bool.and_eq_false_iff, beq_eq_false_iff_ne, decide_eq_false_iff_not]
  omega

theorem Fed.of_window (fed : c.Fed auto) (policy : c'.policy = c.policy)
    (sized : c'.receiverQueueSize = c.receiverQueueSize)
    (floor : c.flowThreshold ≤ c'.window.total) : c'.Fed auto where
  policy := policy.trans fed.policy
  sized := sized.symm ▸ fed.sized
  floor := by
    have same : c'.flowThreshold = c.flowThreshold := by
      unfold flowThreshold
      rw [sized]
    rw [same]
    exact floor

theorem permitStep_fed (fed : c.Fed auto) (op : PermitOp) :
    (c.permitStep single codecs op).Fed auto := by
  have reachable := c.flowThreshold_le
  cases op with
  | deliver d =>
    have charged := c.deliver_charged single codecs d
    apply fed.of_window (congrArg Control.policy charged.control)
      (congrArg Control.receiverQueueSize charged.control)
    rw [charged.window]
    exact Window.floor_arriveAll _ reachable fed.floor
  | recordMarkerConsumed =>
    apply fed.of_window (rfl : c.recordMarkerConsumed.policy = c.policy) rfl
    exact Window.floor_arrive .refunded reachable fed.floor
  | popMessage =>
    rcases c.popMessage_window with ⟨_, unchanged⟩ | ⟨holds, released⟩
    · rw [show c.permitStep single codecs .popMessage = c from unchanged]
      exact fed
    · apply fed.of_window (congrArg Control.policy c.popMessage_control)
        (congrArg Control.receiverQueueSize c.popMessage_control)
      rw [released]
      exact Window.floor_release reachable fed.floor holds
  | maybeFlow =>
    rcases c.maybeFlow_cases with ⟨stays, _⟩ | ⟨_, _, flows⟩
    · rw [show c.permitStep single codecs .maybeFlow = c from congrArg Prod.fst stays]
      exact fed
    · rw [show c.permitStep single codecs .maybeFlow = _ from congrArg Prod.fst flows]
      have kept : c.flowThreshold ≤ (c.window.replenish u32Max).total :=
        Window.floor_replenish reachable fed.floor
      exact fed.of_window rfl rfl kept

/-- A tick keeps the floor: a smaller queue has a smaller threshold, a larger one is covered. -/
theorem adjustReceiverQueue_fed (fed : c.Fed auto) (floorFits : auto.min < 2 ^ 32)
    {now partitions : Nat} {flow : Option CommandFlow}
    (covered : c.growthCovered (.adjustReceiverQueue now partitions) = true)
    (adjusted : c.adjustReceiverQueue now partitions = some (c', flow)) : c'.Fed auto := by
  rcases adjustReceiverQueue_cases adjusted with ⟨_, rfl, _⟩ | ⟨active, target, tuned, resized⟩
  · exact fed.of_window rfl rfl fed.floor
  have bounds : auto.min ≤ target ∧ target ≤ max auto.min Auto.absoluteMax := by
    rw [fed.policy] at tuned
    exact Auto.adjust_bounds tuned
  have absolute : Auto.absoluteMax = 1000000 := rfl
  have newSmall : max target 1 < 2 ^ 32 := by omega
  have oldSmall : c.receiverQueueSize < 2 ^ 32 := by
    have sized := fed.sized
    omega
  have oldFloor : max (c.receiverQueueSize / 2) 1 ≤ c.window.total := by
    rw [← flowThreshold_of_lt oldSmall]
    exact fed.floor
  -- What the window holds once the growth is granted reaches the new threshold.
  have newFloor : max (max target 1 / 2) 1 ≤ c.window.total + c.growth target := by
    by_cases shrinks : max target 1 ≤ c.receiverQueueSize
    · omega
    · have enough : max (max target 1 / 2) 1 ≤
          c.window.total + (max target 1 - c.grantedPermits) := by
        simp only [growthCovered, tuned, Option.all_some, decide_eq_true_eq] at covered
        exact covered active (by omega)
      have truncated : asU32 (max target 1) = max target 1 := Nat.mod_eq_of_lt newSmall
      rw [growth, if_neg shrinks, truncated]
      exact enough
  have reachable : max (max target 1 / 2) 1 ≤ u32Max := by
    unfold u32Max
    omega
  rcases resized with ⟨still, rfl, _⟩ | ⟨_, rfl, _⟩
  · refine ⟨fed.policy, by dsimp only; omega, ?_⟩
    rw [flowThreshold_of_lt (by exact newSmall)]
    rw [still] at newFloor
    exact newFloor
  · refine ⟨fed.policy, by simp only [grant]; omega, ?_⟩
    rw [flowThreshold_of_lt (by exact newSmall)]
    simp only [window, Window.total, grant, satAdd] at newFloor ⊢
    omega

theorem initialFlow_fed (floorFits : auto.min < 2 ^ 32) (policy : c.policy = auto.policy)
    (sized : c.receiverQueueSize = auto.policy.initial) : c.initialFlow.1.Fed auto := by
  have size : c.receiverQueueSize = max auto.min 1 := sized
  have absolute : Auto.absoluteMax = 1000000 := rfl
  have small : c.receiverQueueSize < 2 ^ 32 := by omega
  refine ⟨policy, ?_, ?_⟩
  · change c.receiverQueueSize ≤ _
    omega
  · have truncated : asU32 c.receiverQueueSize = c.receiverQueueSize := Nat.mod_eq_of_lt small
    rw [flowThreshold_of_lt (by exact small), initialFlow_window c (by omega), truncated]
    change max (c.receiverQueueSize / 2) 1 ≤ c.receiverQueueSize + 0 + c.queue.length
    omega

/-- An automatically sized consumer is never starved in a run whose growing ticks are covered. -/
theorem auto_never_starved (auto : Auto) (floorFits : auto.min < 2 ^ 32) (start : ConsumerState)
    (policy : start.policy = auto.policy)
    (sized : start.receiverQueueSize = auto.policy.initial) (ops : List SizedOp)
    (covered : Machine.Guarded (sizedStep single codecs)
      (fun c op => c.growthCovered op = true) start.initialFlow.1 ops) :
    (Machine.run (sizedStep single codecs) start.initialFlow.1 ops).isFlowStarved = false := by
  apply Fed.not_starved
  refine Machine.run_invariant (Fed auto) ?_ (initialFlow_fed floorFits policy sized) covered
  intro c op fed growth
  cases op with
  | permit op => exact permitStep_fed single codecs fed op
  | adjustReceiverQueue now partitions =>
    change (((c.adjustReceiverQueue now partitions).map Prod.fst).getD c).Fed auto
    cases adjusted : c.adjustReceiverQueue now partitions with
    | none => exact fed
    | some => exact adjustReceiverQueue_fed fed floorFits growth adjusted

private def autoConsumer : ConsumerState :=
  withPolicy 0 "orders" "billing" (Auto.new 2 1024).policy (some 10)

private def emptyFrame : Dispatch :=
  { cmd := { consumerId := 0, messageId := { ledgerId := 1, entryId := 1 } }
    metadata := { producerName := "p" } }

/-- Take a message and return its permit at once. -/
private def turnover : List SizedOp :=
  [.permit (.deliver emptyFrame), .permit .popMessage, .permit .maybeFlow]

private def drainThenGrow : List SizedOp :=
  [.permit (.deliver emptyFrame), .permit (.deliver emptyFrame), .adjustReceiverQueue 10 1]

theorem auto_never_starved_first_growth :
    (Machine.run (sizedStep default default) autoConsumer.initialFlow.1
      drainThenGrow).isFlowStarved = false :=
  auto_never_starved default default (Auto.new 2 1024) (by decide) autoConsumer rfl rfl
    drainThenGrow (by decide)

/-- Six refills make the grants of the attach exceed the next two sizes, so two ticks raise the
threshold to four over a window of two. -/
theorem auto_starved_after_refills :
    (Machine.run (sizedStep default default) autoConsumer.initialFlow.1
      ((List.replicate 6 turnover).flatten ++ drainThenGrow ++
        [.adjustReceiverQueue 20 1])).isFlowStarved = true := by
  decide

end Magnetar.Proto.Consumer.ConsumerState
