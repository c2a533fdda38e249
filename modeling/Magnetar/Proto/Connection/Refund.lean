import Magnetar.Proto.Connection.Slots

/-!
Contract: when the refund a consumer has earned is returned to the broker.

Owns: the operations that credit a refund without returning it, the condition under which each
of them leaves the refund below the flow threshold, and the invariant that follows for every
state a connection reaches.

Does not own: how many permits are outstanding.
-/

namespace Magnetar.Proto.Connection

open Library Library.CreditWindow Pb External Consumer ReceiverQueue ConsumerState

/-- The refund at which a queue of this size flows: half of it, at least one. -/
def refundThreshold (receiverQueueSize : Nat) : Nat :=
  max (receiverQueueSize / 2) 1

/-- The consumer takes part in automatic flow control. -/
def Flowing (c : ConsumerState) : Prop :=
  c.closed = false ∧ c.paused = false ∧ 0 < c.receiverQueueSize

instance : DecidablePred Flowing :=
  fun c => inferInstanceAs (Decidable (c.closed = false ∧ c.paused = false ∧ _))

/-- Where the code credits a refund, or lowers the threshold, without trying to return it: a
marker, a resume and a sizing tick.  The step leaves the refund below the threshold. -/
def leavesRefundSmall (c : ConsumerState) : SlotOp → Bool
  | .recordMarkerConsumed =>
    decide (Flowing c → c.consumedSinceFlow + 1 < refundThreshold c.receiverQueueSize)
  | .setPaused paused =>
    decide (Flowing { c with paused := paused } →
      c.consumedSinceFlow < refundThreshold c.receiverQueueSize)
  | .timerTick _ now =>
    decide (adjustIsDue c now = true → c.adjustHeld = false →
      (c.policy.adjust (c.flowStats 1)).all
        (fun target => c.consumedSinceFlow < refundThreshold (max target 1)) = true)
  | _ => true

/-- No refund a flow is due for is outstanding, and a seeking consumer has nothing to pop. -/
structure RefundSent (c : ConsumerState) : Prop where
  small : Flowing c → c.consumedSinceFlow < refundThreshold c.receiverQueueSize
  seeking : c.pendingSeek.isSome = true → c.queue = []

variable (single : Prost SingleMessageMetadata) (codecs : Codecs)
variable {c c' : ConsumerState}

theorem refundThreshold_pos (size : Nat) : 0 < refundThreshold size := by
  unfold refundThreshold
  omega

/-- An operation on fields that no flow decision reads. -/
theorem RefundSent.frame (sent : RefundSent c) (closed : c.closed = true → c'.closed = true)
    (paused : c'.paused = c.paused) (sized : c'.receiverQueueSize = c.receiverQueueSize)
    (consumed : c'.consumedSinceFlow = c.consumedSinceFlow)
    (seeking : c'.pendingSeek.isSome = true → c.pendingSeek.isSome = true)
    (queue : c'.queue = c.queue) : RefundSent c' where
  small := by
    rintro ⟨open', running, positive⟩
    have stillOpen : c.closed = false := by
      by_contra shut
      simp [closed (by simpa using shut)] at open'
    rw [consumed, sized]
    exact sent.small ⟨stillOpen, paused ▸ running, sized ▸ positive⟩
  seeking seeks := queue.trans (sent.seeking (seeking seeks))

theorem RefundSent.of_zero (consumed : c'.consumedSinceFlow = 0)
    (seeking : c'.pendingSeek.isSome = true → c'.queue = []) : RefundSent c' where
  small _ := consumed ▸ refundThreshold_pos _
  seeking := seeking

/-- Where a flow is tried, only a seeking consumer can be left with a refund. -/
theorem maybeFlow_refundSent (seeking : c.pendingSeek.isSome = true → RefundSent c) :
    RefundSent c.maybeFlow.1 := by
  rcases c.maybeFlow_cases with ⟨stays, reason⟩ | ⟨free, _, flowed⟩
  · rw [stays]
    by_cases seeks : c.pendingSeek.isSome = true
    · exact seeking seeks
    refine ⟨?_, fun seeks' => absurd seeks' seeks⟩
    rintro ⟨isOpen, running, positive⟩
    dsimp only at isOpen running positive ⊢
    rcases reason with held | below
    · simp [flowHeld, isOpen, running, seeks] at held
      omega
    · have truncated : c.flowThreshold ≤ refundThreshold c.receiverQueueSize := Nat.mod_le _ _
      exact below.trans_le truncated
  · rw [flowed]
    apply RefundSent.of_zero rfl
    intro seeks
    simp only [flowHeld, Bool.or_eq_false_iff] at free
    exact absurd seeks (by simp [free.1.1.2])

section

variable (sent : RefundSent c)

include sent

theorem deliver_refundSent (d : Dispatch) :
    RefundSent (c.deliver single codecs d).1.maybeFlow.1 := by
  have charged := c.deliver_charged single codecs d
  have control := charged.control
  apply maybeFlow_refundSent
  intro seeks
  have sameSeek : (c.deliver single codecs d).1.pendingSeek = c.pendingSeek :=
    congrArg ConsumerState.Control.pendingSeek control
  rw [sameSeek] at seeks
  -- A seeking consumer drops the frame.
  have window : (c.deliver single codecs d).1.window = c.window := by
    rw [charged.window, dispatchUnits, if_pos (by simp [seeks])]
    rfl
  have empty : (c.deliver single codecs d).1.queue = [] := by
    have length : (c.deliver single codecs d).1.queue.length = c.queue.length :=
      congrArg Window.held window
    rw [sent.seeking seeks] at length
    exact List.length_eq_zero_iff.mp length
  exact sent.frame (congrArg ConsumerState.Control.closed control).trans
    (congrArg ConsumerState.Control.paused control)
    (congrArg ConsumerState.Control.receiverQueueSize control)
    (congrArg Window.refunds window) (fun _ => seeks) (empty.trans (sent.seeking seeks).symm)

theorem popMessage_refundSent : RefundSent c.popMessage.1.maybeFlow.1 := by
  apply maybeFlow_refundSent
  intro seeks
  have sameSeek : c.popMessage.1.pendingSeek = c.pendingSeek :=
    congrArg ConsumerState.Control.pendingSeek c.popMessage_control
  rw [sameSeek] at seeks
  have nothing : c.popMessage.1 = c := by
    unfold popMessage
    rw [sent.seeking seeks]
  rw [nothing]
  exact sent

theorem grantInitialFlow_refundSent (now : Nat) : RefundSent (c.grantInitialFlow now).1 := by
  rcases grantInitialFlow_cases c now with ⟨_, unchanged⟩ | ⟨_, clock, watch, granted⟩
  · rw [unchanged]
    exact sent
  · rw [granted]
    exact RefundSent.of_zero rfl sent.seeking

theorem recordMarkerConsumed_refundSent (small : leavesRefundSmall c .recordMarkerConsumed = true) :
    RefundSent c.recordMarkerConsumed where
  small flowing := by
    have below := of_decide_eq_true small flowing
    change satAdd c.consumedSinceFlow 1 < refundThreshold c.receiverQueueSize
    unfold satAdd
    omega
  seeking := sent.seeking

theorem timerTick_refundSent {stallTimeout : Option Nat} {now : Nat}
    {flow : Option CommandFlow} (small : leavesRefundSmall c (.timerTick stallTimeout now) = true)
    (ticked : c.timerTick stallTimeout now = some (c', flow)) : RefundSent c' := by
  obtain ⟨swept, tuned, watch, ⟨_, _, _, _, rfl⟩, rfl, adjusted⟩ := timerTick_cases ticked
  rcases adjusted with ⟨due, adjusted⟩ | ⟨clock, rfl⟩
  · rcases adjustReceiverQueue_cases adjusted with
      ⟨_, rfl, _⟩ | ⟨active, target, sized, resized⟩
    · exact sent.frame id rfl rfl rfl id rfl
    have below : c.consumedSinceFlow < refundThreshold (max target 1) := by
      have bounded := of_decide_eq_true small due active
      rw [show c.policy.adjust (c.flowStats 1) = some target from sized] at bounded
      simpa using bounded
    rcases resized with ⟨_, rfl, _⟩ | ⟨_, rfl, _⟩
    · exact ⟨fun _ => below, sent.seeking⟩
    · exact ⟨fun _ => below, sent.seeking⟩
  · exact sent.frame id rfl rfl rfl id rfl

theorem subscribeSent_refundSent (requestId : Nat)
    (action : SubscribeAckAction) : RefundSent (c.subscribeSent requestId action) := by
  unfold subscribeSent
  dsimp only
  split
  · exact sent.frame id rfl rfl rfl id rfl
  · split <;> exact sent.frame id rfl rfl rfl id rfl

/-- One slot operation that leaves no refund outstanding keeps none outstanding. -/
theorem slotStep_refundSent {op : SlotOp}
    (small : leavesRefundSmall c op = true) : RefundSent (slotStep single codecs c op) := by
  cases op with
  | subscribeSent => exact subscribeSent_refundSent sent _ _
  | deliver d => exact deliver_refundSent single codecs sent d
  | popMessage => exact popMessage_refundSent sent
  | recordMarkerConsumed => exact recordMarkerConsumed_refundSent sent small
  | grantInitialFlow now => exact grantInitialFlow_refundSent sent now
  | setPaused =>
    exact ⟨of_decide_eq_true small, sent.seeking⟩
  | timerTick stallTimeout now =>
    change RefundSent (((c.timerTick stallTimeout now).map Prod.fst).getD c)
    cases ticked : c.timerTick stallTimeout now with
    | none => exact sent
    | some => exact timerTick_refundSent sent small ticked
  | zeroPermits => exact RefundSent.of_zero rfl sent.seeking
  | resetSession | beginSeek => exact RefundSent.of_zero rfl fun _ => rfl
  | seekAcked =>
    have found : (c.seekAcked.1).pendingSeek.isSome = false := rfl
    exact sent.frame id rfl rfl rfl (fun seeks => absurd seeks (by simp [slotStep, found])) rfl
  | closeRequested => exact sent.frame (fun _ => rfl) rfl rfl rfl id rfl
  | subscribeFailed | addFlow | subscribeAcked | completionConsumed | waiterAbandoned
  | closeAcked | unsubscribeRequested | unsubscribeRefused | reachedEndOfTopic | activeChange
  | clearStallWatch => exact sent.frame id rfl rfl rfl id rfl

end

/-- In every state a connection takes a consumer to, by steps that leave no refund outstanding
where the code does not try to return it, an open, running and not seeking consumer owes the
broker less than its flow threshold. -/
theorem refund_sent_in_every_state (side : ConsumerSide) (req : SubscribeRequest)
    (ops : List SideOp)
    (kept : Machine.Guarded (ConsumerSide.step single codecs)
      (ConsumerSide.KeepsSlot side.nextConsumerId) (side.subscribe req) ops)
    (small : Machine.Guarded (slotStep single codecs) (fun c op => leavesRefundSmall c op = true)
      ((ConsumerSide.newConsumer side.nextConsumerId req).subscribeSent side.nextRequestId
        .notifyWaiter)
      (ConsumerSide.slotTrace single codecs side.nextConsumerId (side.subscribe req) ops)) :
    ∃ c, (Machine.run (ConsumerSide.step single codecs) (side.subscribe req) ops).consumers.lookup
        side.nextConsumerId = some c ∧
      (c.closed = false → c.paused = false → c.pendingSeek = none → 0 < c.receiverQueueSize →
        c.consumedSinceFlow < max (c.receiverQueueSize / 2) 1) := by
  have born := side.subscribe_lookup_self req
  refine ⟨_, ConsumerSide.run_slotTrace single codecs born kept, ?_⟩
  have sent := Machine.run_invariant RefundSent
    (fun c op sent small => slotStep_refundSent single codecs sent small)
    (subscribeSent_refundSent (RefundSent.of_zero rfl fun seeks => by cases seeks) _ _) small
  intro isOpen running _ positive
  exact sent.small ⟨isOpen, running, positive⟩

private def refundRequest (policy : ReceiverQueuePolicy) : SubscribeRequest :=
  { topic := "orders"
    subscription := "billing"
    receiverQueuePolicy := some policy
    receiverQueueAdjustInterval := some 10 }

private def refundFrame (markerType : Option Int) (body : Bytes) : Dispatch :=
  { cmd := { consumerId := 0, messageId := { ledgerId := 1, entryId := 1 } }
    metadata := { producerName := "p", markerType := markerType }
    body := body }

private def attachOps : List SideOp :=
  [.setHandshakeState .connected, .successFrame 0 0,
    .consumeInitialConsumerSubscribeCompletion 0, .initialFlow 0 0]

private def afterAttach (policy : ReceiverQueuePolicy) (ops : List SideOp) : ConsumerSide :=
  Machine.run (ConsumerSide.step default default)
    (({ } : ConsumerSide).subscribe (refundRequest policy)) (attachOps ++ ops)

private def smallRefunds : List SideOp :=
  attachOps ++
    [.messageFrame (refundFrame (some 10) []), .messageFrame (refundFrame none [7]),
      .setPaused 0 true, .popMessage 0, .setPaused 0 false, .timeoutConsumer none 0 10]

theorem refund_sent_after_marker_and_resume :
    ∃ c, (Machine.run (ConsumerSide.step default default)
        (({ } : ConsumerSide).subscribe (refundRequest (fixed 8))) smallRefunds).consumers.lookup 0 =
          some c ∧
      (c.closed = false → c.paused = false → c.pendingSeek = none → 0 < c.receiverQueueSize →
        c.consumedSinceFlow < max (c.receiverQueueSize / 2) 1) :=
  refund_sent_in_every_state default default { } (refundRequest (fixed 8)) smallRefunds
    (by decide) (by decide)

/-- Granted permits, queue size and refund of the consumer at handle 0 when it may flow. -/
private def flowingRefund (side : ConsumerSide) : Option (Nat × Nat × Nat) :=
  (side.consumers.lookup 0).bind fun c =>
    if c.closed || c.paused || c.pendingSeek.isSome then none
    else some (c.grantedPermits, c.receiverQueueSize, c.consumedSinceFlow)

/-- A whole threshold of refund stays with the client after a marker frame, after a resume and
after a tick that halves the queue. -/
theorem refund_kept_by_marker_resume_and_shrink :
    flowingRefund (afterAttach (fixed 2) [.messageFrame (refundFrame (some 10) [])]) =
        some (2, 2, 1) ∧
      flowingRefund (afterAttach (fixed 2)
        [.setPaused 0 true, .messageFrame (refundFrame none []), .popMessage 0,
          .setPaused 0 false]) = some (2, 2, 1) ∧
      flowingRefund (afterAttach (Auto.new 2 1).policy
        [.messageFrame (refundFrame none []), .messageFrame (refundFrame none []),
          .timeoutConsumer none 0 10, .popMessage 0, .messageFrame (refundFrame none [7]),
          .timeoutConsumer none 0 20]) = some (4, 2, 1) := by
  refine ⟨?_, ?_, ?_⟩ <;> decide

end Magnetar.Proto.Connection
