import Magnetar.Proto.Connection.Slots

/-!
Contract: the receiver window of a fixed queue over every way a consumer is re-attached.

Owns: what a re-attach and an overdrawn frame add to the window, and the bound on the permits a
consumer has out, owes and holds, in every state a connection reaches.

Does not own: the window of a consumer whose policy resizes the queue.
-/

namespace Magnetar.Proto.Connection

open Library Library.CreditWindow Pb External Consumer ReceiverQueue ConsumerState

/-- What a window holds beyond its size: the messages that were still queued when the attach got
its initial flow, and the units its frames have charged beyond the balance since. -/
structure Excess where
  retained : Nat := 0
  overdraft : Nat := 0
  deriving DecidableEq, Repr

variable (single : Prost SingleMessageMetadata) (codecs : Codecs)

def slotExcess (c : ConsumerState) (excess : Excess) : SlotOp → Excess
  | .grantInitialFlow _ =>
    if c.owesInitialFlow then { retained := c.queue.length, overdraft := 0 } else excess
  | .deliver dispatch =>
    { excess with
      overdraft := excess.overdraft +
        ((c.dispatchUnits single codecs dispatch).length - c.permitBalance) }
  | .recordMarkerConsumed =>
    { excess with overdraft := excess.overdraft + (1 - c.permitBalance) }
  | _ => excess

def runExcess : ConsumerState → Excess → List SlotOp → Excess
  | _, excess, [] => excess
  | c, excess, op :: rest =>
    runExcess (slotStep single codecs c op) (slotExcess single codecs c excess op) rest

def SlotOp.addsFlow : SlotOp → Bool
  | .addFlow _ => true
  | _ => false

/-- A consumer of a fixed queue that was granted nothing but its initial flows and its refunds. -/
structure FixedWindow (size : Nat) (excess : Excess) (c : ConsumerState) : Prop where
  policy : c.policy = fixed size
  sized : c.receiverQueueSize = size
  automatic : c.manualFlowPermits = 0
  ungranted : size = 0 → c.grantedPermits = 0
  bounded : c.window.total ≤ size + excess.retained + excess.overdraft

variable {size : Nat} {excess : Excess} {c c' : ConsumerState}

section

variable (fits : FixedWindow size excess c)

include fits

section

variable (policy : c'.policy = c.policy) (sized : c'.receiverQueueSize = c.receiverQueueSize)
  (manual : c'.manualFlowPermits = c.manualFlowPermits)

include policy sized manual

/-- An operation that leaves queue sizing and grants alone need only keep the bound. -/
theorem FixedWindow.of_control (granted : c.grantedPermits = 0 → c'.grantedPermits = 0)
    {excess' : Excess} (bounded : c'.window.total ≤ size + excess'.retained + excess'.overdraft) :
    FixedWindow size excess' c' where
  policy := policy.trans fits.policy
  sized := sized.trans fits.sized
  automatic := manual.trans fits.automatic
  ungranted unsized := granted (fits.ungranted unsized)
  bounded := bounded

theorem FixedWindow.frame (granted : c'.grantedPermits = c.grantedPermits)
    (window : c'.window = c.window) : FixedWindow size excess c' :=
  fits.of_control policy sized manual granted.trans (window ▸ fits.bounded)

end

theorem subscribeSent_fixedWindow (requestId : Nat)
    (action : SubscribeAckAction) : FixedWindow size excess (c.subscribeSent requestId action) := by
  unfold subscribeSent
  dsimp only
  split
  · exact fits.frame rfl rfl rfl rfl rfl
  · split <;> exact fits.frame rfl rfl rfl rfl rfl

/-- Permits taken back and messages dropped only make room. -/
theorem FixedWindow.shrink (policy : c'.policy = c.policy)
    (sized : c'.receiverQueueSize = c.receiverQueueSize) (manual : c'.manualFlowPermits = 0)
    (granted : c'.grantedPermits = 0) (smaller : c'.window.total ≤ c.window.total) :
    FixedWindow size excess c' :=
  fits.of_control policy sized (manual.trans fits.automatic.symm) (fun _ => granted)
    (smaller.trans fits.bounded)

theorem deliver_fixedWindow (d : Dispatch) :
    FixedWindow size (slotExcess single codecs c excess (.deliver d))
      (c.deliver single codecs d).1 := by
  have charged := c.deliver_charged single codecs d
  have control := charged.control
  apply fits.of_control (congrArg ConsumerState.Control.policy control)
    (congrArg ConsumerState.Control.receiverQueueSize control)
    (congrArg ConsumerState.Control.manualFlowPermits control)
    (congrArg ConsumerState.Control.grantedPermits control).trans
  have raised : (c.window.arriveAll u32Max (c.dispatchUnits single codecs d)).total ≤ _ :=
    Window.total_arriveAll_le _
  have before := fits.bounded
  have balance : c.window.balance = c.permitBalance := rfl
  rw [charged.window]
  simp only [slotExcess]
  omega

theorem recordMarkerConsumed_fixedWindow :
    FixedWindow size (slotExcess single codecs c excess .recordMarkerConsumed)
      c.recordMarkerConsumed := by
  apply fits.of_control (rfl : c.recordMarkerConsumed.policy = c.policy) rfl rfl id
  have raised : (c.window.arrive u32Max .refunded).total ≤ _ := Window.total_arrive_le .refunded
  have before := fits.bounded
  have balance : c.window.balance = c.permitBalance := rfl
  change (c.window.arrive u32Max .refunded).total ≤ _
  simp only [slotExcess]
  omega

theorem popMessage_fixedWindow : FixedWindow size excess c.popMessage.1 := by
  rcases c.popMessage_window with ⟨_, unchanged⟩ | ⟨holds, released⟩
  · rw [unchanged]
    exact fits
  have manual : c.popMessage.1.manualFlowPermits = 0 := by
    have automatic := fits.automatic
    unfold popMessage
    split <;> simp [automatic, recordBrokerPermitConsumed]
  have control := c.popMessage_control
  apply fits.of_control (congrArg ConsumerState.Control.policy control)
    (congrArg ConsumerState.Control.receiverQueueSize control) (manual.trans fits.automatic.symm)
    (congrArg ConsumerState.Control.grantedPermits control).trans
  rw [released]
  exact (Window.total_release_le holds).trans fits.bounded

theorem maybeFlow_fixedWindow : FixedWindow size excess c.maybeFlow.1 := by
  rcases c.maybeFlow_cases with ⟨stays, _⟩ | ⟨flows, _, flowed⟩
  · rw [stays]
    exact fits
  · have sized : c.receiverQueueSize ≠ 0 := by
      simp only [flowHeld, Bool.or_eq_false_iff, beq_eq_false_iff_ne] at flows
      exact flows.2
    rw [flowed]
    refine ⟨fits.policy, fits.sized, fits.automatic, ?_, ?_⟩
    · intro unsized
      exact absurd (fits.sized.trans unsized) sized
    · have replenished : (c.window.replenish u32Max).total ≤ c.window.total :=
        Window.total_replenish_le
      exact replenished.trans fits.bounded

theorem grantInitialFlow_fixedWindow (now : Nat) :
    FixedWindow size (slotExcess single codecs c excess (.grantInitialFlow now))
      (c.grantInitialFlow now).1 := by
  rcases grantInitialFlow_cases c now with ⟨paid, unchanged⟩ | ⟨owes, clock, watch, granted⟩
  · rw [unchanged, slotExcess, if_neg (by simp [paid])]
    exact fits
  have permits : c.initialFlow.1.permitBalance ≤ size := by
    have truncated : asU32 c.receiverQueueSize ≤ c.receiverQueueSize := Nat.mod_le _ _
    have sized := fits.sized
    have automatic := fits.automatic
    unfold initialFlow
    dsimp only
    split <;> omega
  rw [granted, slotExcess, if_pos owes]
  refine ⟨fits.policy, fits.sized, fits.automatic, ?_, ?_⟩
  · intro unsized
    have empty : c.receiverQueueSize = 0 := fits.sized.trans unsized
    simp [initialFlow, empty, fits.automatic]
  · change c.initialFlow.1.permitBalance + 0 + c.queue.length ≤ size + c.queue.length + 0
    omega

/-- A feedback tick asks a fixed policy for the size it already has. -/
theorem timerTick_fixedWindow {stallTimeout : Option Nat} {now : Nat} {flow : Option CommandFlow}
    (ticked : c.timerTick stallTimeout now = some (c', flow)) : FixedWindow size excess c' := by
  obtain ⟨swept, tuned, watch, ⟨_, _, _, _, rfl⟩, rfl, adjusted⟩ := timerTick_cases ticked
  rcases adjusted with ⟨_, adjusted⟩ | ⟨clock, rfl⟩
  · rcases adjustReceiverQueue_cases adjusted with
      ⟨_, rfl, _⟩ | ⟨active, target, sized, resized⟩
    · exact fits.frame rfl rfl rfl rfl rfl
    have granted : c.grantedPermits ≠ 0 := by
      simp only [adjustHeld, Bool.or_eq_false_iff, beq_eq_false_iff_ne] at active
      exact active.2
    have positive : size ≠ 0 := fun unsized => granted (fits.ungranted unsized)
    have same : target = size := by
      rw [fits.policy] at sized
      exact (Option.some_inj.mp sized).symm
    have kept : max target 1 = c.receiverQueueSize := by
      rw [same, fits.sized]
      omega
    rcases resized with ⟨_, rfl, _⟩ | ⟨grows, _, _⟩
    · exact fits.frame rfl kept rfl rfl rfl
    · exact absurd (if_pos kept.le) grows
  · exact fits.frame rfl rfl rfl rfl rfl

/-- One slot operation keeps the window within its size and the excess. -/
theorem slotStep_fixedWindow {op : SlotOp} (automatic : op.addsFlow = false) :
    FixedWindow size (slotExcess single codecs c excess op) (slotStep single codecs c op) := by
  cases op with
  | subscribeSent => exact subscribeSent_fixedWindow fits _ _
  | deliver d => exact maybeFlow_fixedWindow (deliver_fixedWindow single codecs fits d)
  | recordMarkerConsumed => exact recordMarkerConsumed_fixedWindow single codecs fits
  | popMessage => exact maybeFlow_fixedWindow (popMessage_fixedWindow fits)
  | grantInitialFlow now => exact grantInitialFlow_fixedWindow single codecs fits now
  | addFlow => cases automatic
  | timerTick stallTimeout now =>
    change FixedWindow size excess (((c.timerTick stallTimeout now).map Prod.fst).getD c)
    cases ticked : c.timerTick stallTimeout now with
    | none => exact fits
    | some => exact timerTick_fixedWindow fits ticked
  | zeroPermits =>
    have smaller : c.zeroPermits.window.total ≤ c.window.total := by
      simp only [window, Window.total, zeroPermits]
      omega
    exact fits.shrink rfl rfl fits.automatic rfl smaller
  | resetSession =>
    have emptied : c.resetSession.window.total = 0 := rfl
    exact fits.shrink rfl rfl fits.automatic rfl (emptied ▸ Nat.zero_le _)
  | beginSeek requestId =>
    have emptied : (c.beginSeek requestId).window.total = 0 := rfl
    exact fits.shrink rfl rfl rfl rfl (emptied ▸ Nat.zero_le _)
  | subscribeFailed reason =>
    have smaller : (c.subscribeFailed reason).window.total ≤ c.window.total := by
      simp only [window, Window.total, subscribeFailed]
      omega
    exact fits.shrink rfl rfl rfl rfl smaller
  | subscribeAcked | completionConsumed | waiterAbandoned | closeRequested | closeAcked
  | unsubscribeRequested | unsubscribeRefused | reachedEndOfTopic | activeChange | clearStallWatch
  | setPaused | seekAcked =>
    exact fits.frame rfl rfl rfl rfl rfl

theorem run_fixedWindow {ops : List SlotOp} (automatic : ∀ op ∈ ops, op.addsFlow = false) :
    FixedWindow size (runExcess single codecs c excess ops)
      (Machine.run (slotStep single codecs) c ops) := by
  induction ops generalizing c excess with
  | nil => exact fits
  | cons op _ ih =>
    have stepped := slotStep_fixedWindow single codecs fits (automatic op List.mem_cons_self)
    exact ih stepped fun later member =>
      automatic later (List.mem_cons_of_mem op member)

end

/-! ### Every state a connection reaches -/

namespace ConsumerSide

theorem slotOps_addsFlow (side : ConsumerSide) (handle : Nat) (c : ConsumerState) {op : SideOp}
    (automatic : ∀ permits, op ≠ .flow handle permits) :
    ∀ slotOp ∈ side.slotOps handle c op, slotOp.addsFlow = false := by
  intro slotOp member
  have noneAdded : (side.slotOps handle c op).all (fun slotOp => !slotOp.addsFlow) = true := by
    cases op with
    | flow named permits =>
      have elsewhere : named ≠ handle := fun same => automatic permits (same ▸ rfl)
      simp [slotOps, onlyAt, elsewhere]
    | subscribe _ | reset | resubscribeConsumerInPlace _ | setHandshakeState _ => rfl
    | _ =>
      simp only [slotOps, onlyAt, resubscribeOps]
      (repeat' split) <;> rfl
  simpa using List.all_eq_true.mp noneAdded slotOp member

theorem slotTrace_addsFlow (handle : Nat) (side : ConsumerSide) {ops : List SideOp}
    (automatic : ∀ permits, .flow handle permits ∉ ops) :
    ∀ slotOp ∈ slotTrace single codecs handle side ops, slotOp.addsFlow = false := by
  induction ops generalizing side with
  | nil => simp [slotTrace]
  | cons op rest ih =>
    intro slotOp member
    have later : ∀ permits, .flow handle permits ∉ rest := fun permits inRest =>
      automatic permits (List.mem_cons_of_mem op inRest)
    rcases List.mem_append.mp member with now | afterwards
    · cases found : side.consumers.lookup handle with
      | none => simp [found] at now
      | some c =>
        rw [found] at now
        apply side.slotOps_addsFlow handle c _ slotOp now
        intro permits same
        exact automatic permits (same ▸ List.mem_cons_self)
    · exact ih _ later slotOp afterwards

/-- The excess of the consumer at `handle` after a run, counted from its state now. -/
def windowExcess (handle : Nat) (side : ConsumerSide) (ops : List SideOp) : Excess :=
  match side.consumers.lookup handle with
  | some c => runExcess single codecs c {} (slotTrace single codecs handle side ops)
  | none => {}

end ConsumerSide

theorem newConsumer_fixedWindow (handle requestId : Nat) {req : SubscribeRequest}
    (policy : req.receiverQueuePolicy.getD (fixed req.receiverQueueSize) = fixed size) :
    FixedWindow size {}
      ((ConsumerSide.newConsumer handle req).subscribeSent requestId .notifyWaiter) := by
  apply subscribeSent_fixedWindow
  refine ⟨policy, ?_, rfl, fun _ => rfl, Nat.zero_le _⟩
  change (req.receiverQueuePolicy.getD (fixed req.receiverQueueSize)).initial = size
  rw [policy]
  rfl

/-- In every state a connection takes a fixed-queue consumer to, through deliveries, pops, closes,
re-attaches and resets, the permits out, the refunds owed and the messages held exceed the queue
size by no more than the messages kept at the last grant and the units overdrawn since. -/
theorem fixed_window_bounded_across_reattach (size : Nat) (side : ConsumerSide)
    (req : SubscribeRequest) (ops : List SideOp)
    (policy : req.receiverQueuePolicy.getD (fixed req.receiverQueueSize) = fixed size)
    (kept : Machine.Guarded (ConsumerSide.step single codecs)
      (ConsumerSide.KeepsSlot side.nextConsumerId) (side.subscribe req) ops)
    (automatic : ∀ permits, SideOp.flow side.nextConsumerId permits ∉ ops) :
    ∃ c, (Machine.run (ConsumerSide.step single codecs) (side.subscribe req) ops).consumers.lookup
        side.nextConsumerId = some c ∧
      c.permitBalance + c.consumedSinceFlow + c.queue.length ≤
        size +
          ((side.subscribe req).windowExcess single codecs side.nextConsumerId ops).retained +
          ((side.subscribe req).windowExcess single codecs side.nextConsumerId ops).overdraft := by
  have born := side.subscribe_lookup_self req
  have fits := run_fixedWindow single codecs
    (newConsumer_fixedWindow side.nextConsumerId side.nextRequestId policy)
    (ConsumerSide.slotTrace_addsFlow single codecs side.nextConsumerId (side.subscribe req)
      automatic)
  refine ⟨_, ConsumerSide.run_slotTrace single codecs born kept, ?_⟩
  unfold ConsumerSide.windowExcess
  rw [born]
  exact fits.bounded

private def reattachRequest : SubscribeRequest :=
  { topic := "orders", subscription := "billing", receiverQueueSize := 2 }

private def reattachMessage : Dispatch :=
  { cmd := { consumerId := 0, messageId := { ledgerId := 1, entryId := 1 } }
    metadata := { producerName := "p" } }

/-- Attach, grant two permits, take one message, be closed by the broker and re-attach. -/
private def reattachRun : List SideOp :=
  [.setHandshakeState .connected, .successFrame 0 0,
    .consumeInitialConsumerSubscribeCompletion 0, .initialFlow 0 0,
    .messageFrame reattachMessage, .closeConsumerFrame 0 none, .successFrame 1 0]

theorem fixed_window_bounded_across_reattach_closed :
    (({ } : ConsumerSide).subscribe reattachRequest).windowExcess default default 0 reattachRun =
        { retained := 1 } ∧
      ∃ c, (Machine.run (ConsumerSide.step default default)
          (({ } : ConsumerSide).subscribe reattachRequest) reattachRun).consumers.lookup 0 = some c ∧
        c.permitBalance + c.consumedSinceFlow + c.queue.length ≤ 2 + 1 + 0 := by
  have retained : (({ } : ConsumerSide).subscribe reattachRequest).windowExcess default default 0
      reattachRun = { retained := 1 } := by decide
  have bounded := fixed_window_bounded_across_reattach default default 2 { } reattachRequest
    reattachRun rfl (by decide) (by simp [reattachRun])
  refine ⟨retained, ?_⟩
  exact bounded

/-- The message kept over the close and the full new grant together exceed the queue. -/
theorem fixed_window_exceeded_on_reattach :
    ((Machine.run (ConsumerSide.step default default)
      (({ } : ConsumerSide).subscribe reattachRequest) reattachRun).consumers.lookup 0).map
        (fun c => (c.permitBalance, c.consumedSinceFlow, c.queue.length)) = some (2, 0, 1) := by
  decide

end Magnetar.Proto.Connection
