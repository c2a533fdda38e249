import Magnetar.Proto.Connection.Slots

/-!
Contract: the initial flow of an attach.

Owns: which slot operations attach a consumer, which of them emit a full initial flow and which
take its permits back; and the rule that two grants of one attach have a reason between them.

Does not own: the size of the window a grant opens.
-/

namespace Magnetar.Proto.Connection

open Library Pb External Consumer

/-- A `CommandSubscribe` goes out: a new attach begins. -/
def SlotOp.attaches : SlotOp → Bool
  | .subscribeSent _ _ => true
  | _ => false

/-- Taken at `c`, the operation stages the flow command of a full initial grant. -/
def SlotOp.grants (c : ConsumerState) : SlotOp → Bool
  | .grantInitialFlow now => (c.grantInitialFlow now).2.isSome
  | _ => false

/-- The permits the consumer was granted are void: the broker closed its side, or the client gave
them up with the session, with a seek or with the subscription. -/
def SlotOp.voidsPermits : SlotOp → Bool
  | .zeroPermits => true
  | .resetSession => true
  | .beginSeek _ => true
  | .subscribeFailed _ => true
  | _ => false

/-- The operation is the zeroing on a close that the broker sent or answered. -/
def SlotOp.closes : SlotOp → Bool
  | .zeroPermits => true
  | _ => false

variable (single : Prost SingleMessageMetadata) (codecs : Codecs)

/-! ### What a grant leaves behind, and what keeps it -/

/-- `c'` owes no initial flow that `c` did not owe, and has permits if `c` had. -/
structure KeepsGrant (c c' : ConsumerState) : Prop where
  due : c.initialGrantDue = false → c'.initialGrantDue = false
  permits : c.grantedPermits ≠ 0 → c'.grantedPermits ≠ 0

namespace KeepsGrant

variable {c c' c'' : ConsumerState}

theorem of_eq (due : c'.initialGrantDue = c.initialGrantDue)
    (permits : c'.grantedPermits = c.grantedPermits) : KeepsGrant c c' where
  due := due.trans
  permits held := permits ▸ held

theorem of_control (control : c'.control = c.control) : KeepsGrant c c' :=
  of_eq (congrArg ConsumerState.Control.initialGrantDue control)
    (congrArg ConsumerState.Control.grantedPermits control)

theorem refl (c : ConsumerState) : KeepsGrant c c :=
  of_eq rfl rfl

theorem trans (earlier : KeepsGrant c c') (later : KeepsGrant c' c'') : KeepsGrant c c'' where
  due settled := later.due (earlier.due settled)
  permits held := later.permits (earlier.permits held)

end KeepsGrant

theorem satAdd_ne_zero {left : Nat} (right : Nat) (positive : left ≠ 0) :
    satAdd left right ≠ 0 := by
  unfold satAdd u32Max
  omega

variable {c : ConsumerState}

theorem keepsGrant_of_added {c' : ConsumerState} (permits : Nat)
    (due : c'.initialGrantDue = c.initialGrantDue)
    (added : c'.grantedPermits = satAdd c.grantedPermits permits) : KeepsGrant c c' where
  due := due.trans
  permits held := added ▸ satAdd_ne_zero permits held

theorem maybeFlow_keepsGrant (c : ConsumerState) : KeepsGrant c c.maybeFlow.1 := by
  rcases c.maybeFlow_cases with ⟨stays, _⟩ | ⟨_, _, flowed⟩
  · rw [stays]
    exact .refl c
  · rw [flowed]
    exact keepsGrant_of_added c.consumedSinceFlow rfl rfl

theorem timerTick_keepsGrant {c' : ConsumerState} {stallTimeout : Option Nat} {now : Nat}
    {flow : Option CommandFlow} (ticked : c.timerTick stallTimeout now = some (c', flow)) :
    KeepsGrant c c' := by
  obtain ⟨swept, tuned, watch, ⟨_, _, _, _, rfl⟩, rfl, adjusted⟩ := timerTick_cases ticked
  rcases adjusted with ⟨_, adjusted⟩ | ⟨clock, rfl⟩
  · rcases ConsumerState.adjustReceiverQueue_cases adjusted with
      ⟨_, rfl, _⟩ | ⟨_, target, _, ⟨_, rfl, _⟩ | ⟨_, rfl, _⟩⟩
    · exact .of_eq rfl rfl
    · exact .of_eq rfl rfl
    · exact keepsGrant_of_added _ rfl rfl
  · exact .of_eq rfl rfl

variable {op : SlotOp}

theorem initialGrantDue_of_grants (granted : op.grants c = true) :
    (slotStep single codecs c op).initialGrantDue = false := by
  cases op with
  | grantInitialFlow now =>
    rcases grantInitialFlow_cases c now with ⟨_, unchanged⟩ | ⟨_, clock, watch, given⟩
    · simp [SlotOp.grants, unchanged] at granted
    · rw [slotStep, given]
      rfl
  | _ => cases granted

theorem owesInitialFlow_of_grants (granted : op.grants c = true) : c.owesInitialFlow = true := by
  cases op with
  | grantInitialFlow now =>
    rcases grantInitialFlow_cases c now with ⟨_, unchanged⟩ | ⟨owes, _⟩
    · simp [SlotOp.grants, unchanged] at granted
    · exact owes
  | _ => cases granted

/-! ### Whole stretches of one attach -/

/-- An operation that neither attaches, grants nor voids permits leaves the last grant standing. -/
theorem slotStep_keepsGrant (attached : op.attaches = false)
    (ungranted : op.grants c = false) (valid : op.voidsPermits = false) :
    KeepsGrant c (slotStep single codecs c op) := by
  cases op with
  | subscribeSent => cases attached
  | grantInitialFlow now =>
    rcases grantInitialFlow_cases c now with ⟨_, unchanged⟩ | ⟨owes, _⟩
    · rw [slotStep, unchanged]
      exact .refl c
    · simp [SlotOp.grants, ConsumerState.grantInitialFlow, owes] at ungranted
  | zeroPermits | resetSession | beginSeek | subscribeFailed => cases valid
  | addFlow permits => exact keepsGrant_of_added permits rfl rfl
  | deliver d =>
    exact (KeepsGrant.of_control (c.deliver_charged single codecs d).control).trans
      (maybeFlow_keepsGrant _)
  | popMessage =>
    have control := c.popMessage_control
    have popped : KeepsGrant c c.popMessage.1 :=
      .of_eq (congrArg ConsumerState.Control.initialGrantDue control)
        (congrArg ConsumerState.Control.grantedPermits control)
    exact popped.trans (maybeFlow_keepsGrant _)
  | timerTick stallTimeout now =>
    change KeepsGrant c (((c.timerTick stallTimeout now).map Prod.fst).getD c)
    cases ticked : c.timerTick stallTimeout now with
    | none => exact .refl c
    | some => exact timerTick_keepsGrant ticked
  | subscribeAcked | completionConsumed | waiterAbandoned | closeRequested | closeAcked
  | unsubscribeRequested | unsubscribeRefused
  | reachedEndOfTopic | activeChange | clearStallWatch | recordMarkerConsumed | setPaused
  | seekAcked => exact .of_eq rfl rfl

theorem initialGrantDue_slotStep (attached : op.attaches = false)
    (settled : c.initialGrantDue = false) :
    (slotStep single codecs c op).initialGrantDue = false := by
  by_cases granted : op.grants c = true
  · exact initialGrantDue_of_grants single codecs granted
  by_cases voided : op.voidsPermits = true
  · cases op with
    | zeroPermits | resetSession | beginSeek | subscribeFailed => exact settled
    | _ => cases voided
  · simp only [Bool.not_eq_true] at granted voided
    exact (slotStep_keepsGrant single codecs attached granted voided).due settled

abbrev Ungranted (c : ConsumerState) (ops : List SlotOp) : Prop :=
  Machine.Guarded (slotStep single codecs) (fun c op => op.grants c = false) c ops

theorem initialGrantDue_run {ops : List SlotOp}
    (attached : ∀ op ∈ ops, op.attaches = false) (settled : c.initialGrantDue = false) :
    (Machine.run (slotStep single codecs) c ops).initialGrantDue = false := by
  induction ops generalizing c with
  | nil => exact settled
  | cons op _ ih =>
    apply ih
    · exact fun later member => attached later (List.mem_cons_of_mem op member)
    · exact initialGrantDue_slotStep single codecs (attached op List.mem_cons_self) settled

theorem run_keepsGrant {ops : List SlotOp}
    (attached : ∀ op ∈ ops, op.attaches = false) (ungranted : Ungranted single codecs c ops)
    (valid : ∀ op ∈ ops, op.voidsPermits = false) :
    KeepsGrant c (Machine.run (slotStep single codecs) c ops) := by
  induction ops generalizing c with
  | nil => exact .refl c
  | cons op _ ih =>
    have first : KeepsGrant c (slotStep single codecs c op) :=
      slotStep_keepsGrant single codecs (attached op List.mem_cons_self) ungranted.1
        (valid op List.mem_cons_self)
    apply first.trans
    apply ih
    · exact fun later member => attached later (List.mem_cons_of_mem op member)
    · exact ungranted.2
    · exact fun later member => valid later (List.mem_cons_of_mem op member)

/-- One stretch of a consumer's life, from the grant `first` at `c` to the grant `second`: no
attach begins on it and no grant lies between the two. -/
structure Regrant (c : ConsumerState) (first : SlotOp) (between : List SlotOp) (second : SlotOp) :
    Prop where
  granted : first.grants c = true
  attached : ∀ op ∈ between, op.attaches = false
  ungranted : Ungranted single codecs (slotStep single codecs c first) between
  again : second.grants (Machine.run (slotStep single codecs) c (first :: between)) = true

/-- The second grant of one attach goes to a consumer that is starved, or has no permits: they
were voided since, or the grant before was of no permits. -/
theorem Regrant.reason {first second : SlotOp} {between : List SlotOp}
    (regrant : Regrant single codecs c first between second) :
    (Machine.run (slotStep single codecs) c (first :: between)).isFlowStarved = true ∨
      (Machine.run (slotStep single codecs) c (first :: between)).grantedPermits = 0 ∧
        ((∃ op ∈ between, op.voidsPermits = true) ∨
          (slotStep single codecs c first).grantedPermits = 0) := by
  have settled := initialGrantDue_run single codecs regrant.attached
    (initialGrantDue_of_grants single codecs regrant.granted)
  have owes := owesInitialFlow_of_grants regrant.again
  simp only [ConsumerState.owesInitialFlow, Machine.run_cons, settled, Bool.false_or,
    Bool.or_eq_true, beq_iff_eq] at owes ⊢
  apply owes.symm.imp_right
  intro empty
  refine ⟨empty, ?_⟩
  by_cases voided : ∃ op ∈ between, op.voidsPermits = true
  · exact .inl voided
  · right
    by_contra held
    have kept := run_keepsGrant single codecs regrant.attached regrant.ungranted fun op member =>
      Bool.eq_false_iff.mpr fun voids => voided ⟨op, member, voids⟩
    exact kept.permits held empty

/-! ### Every run of a connection -/

def ConsumerSide.subscribed (side : ConsumerSide) (req : SubscribeRequest) : ConsumerState :=
  (newConsumer side.nextConsumerId req).subscribeSent side.nextRequestId .notifyWaiter

/-- A run of the connection takes the consumer through the slot operations of its trace, an
operation of the connection stages the subscribes and flows that its slot operations send, and two
consecutive grants on the trace with no attach between them have a reason: the consumer is
starved, or it has no permits because a close, a seek, a reset or a failed subscribe voided them
since, or because the earlier grant was of none. -/
theorem one_initial_grant_per_attach (side : ConsumerSide) (req : SubscribeRequest)
    (ops : List SideOp)
    (kept : Machine.Guarded (ConsumerSide.step single codecs)
      (ConsumerSide.KeepsSlot side.nextConsumerId) (side.subscribe req) ops) :
    (Machine.run (ConsumerSide.step single codecs) (side.subscribe req) ops).consumers.lookup
        side.nextConsumerId =
      some (Machine.run (slotStep single codecs) (side.subscribed req)
        (ConsumerSide.slotTrace single codecs side.nextConsumerId (side.subscribe req) ops)) ∧
      (∀ (state : ConsumerSide) op, op.subscribes = false →
        (∀ handle, state.drops handle op = false) → op ≠ .reset → state.Relays single codecs op) ∧
      ∀ before first between second after,
        ConsumerSide.slotTrace single codecs side.nextConsumerId (side.subscribe req) ops =
          before ++ first :: between ++ second :: after →
        Regrant single codecs (Machine.run (slotStep single codecs) (side.subscribed req) before)
          first between second →
        let c := Machine.run (slotStep single codecs) (side.subscribed req)
          (before ++ first :: between)
        c.isFlowStarved = true ∨
          c.grantedPermits = 0 ∧
            ((∃ op ∈ between, op.voidsPermits = true) ∨
              (Machine.run (slotStep single codecs) (side.subscribed req)
                (before ++ [first])).grantedPermits = 0) := by
  refine ⟨ConsumerSide.run_slotTrace single codecs (side.subscribe_lookup_self req) kept,
    fun state _ => state.step_relays, ?_⟩
  intro before first between second after _ regrant
  simpa only [Machine.run_append, Machine.run_cons, Machine.run_nil] using regrant.reason

private def pairRequest : SubscribeRequest :=
  { topic := "orders", subscription := "billing", receiverQueueSize := 2 }

/-- Attach, take two requests for the flow, be moved to another broker, and be asked again. -/
private def movedRun : List SideOp :=
  [.setHandshakeState .connected, .successFrame 0 0,
    .consumeInitialConsumerSubscribeCompletion 0, .initialFlow 0 0, .initialFlow 0 1,
    .closeConsumerFrame 0 (some "pulsar://other"), .initialFlow 0 2]

private def after (ops : List SlotOp) : ConsumerState :=
  Machine.run (slotStep default default) (({ } : ConsumerSide).subscribed pairRequest) ops

private theorem moved_regrant :
    Regrant default default (after [.subscribeAcked 0, .completionConsumed])
      (.grantInitialFlow 0) [.grantInitialFlow 1, .zeroPermits] (.grantInitialFlow 2) where
  granted := by decide
  attached := by decide
  ungranted := by decide
  again := by decide

theorem granted_again_after_close :
    let c := after [.subscribeAcked 0, .completionConsumed, .grantInitialFlow 0,
      .grantInitialFlow 1, .zeroPermits]
    c.isFlowStarved = true ∨
      c.grantedPermits = 0 ∧
        ((∃ op ∈ [SlotOp.grantInitialFlow 1, .zeroPermits], op.voidsPermits = true) ∨
          (after [.subscribeAcked 0, .completionConsumed, .grantInitialFlow 0]).grantedPermits =
            0) :=
  (one_initial_grant_per_attach default default { } pairRequest movedRun (by decide)).2.2
    [.subscribeAcked 0, .completionConsumed] (.grantInitialFlow 0)
    [.grantInitialFlow 1, .zeroPermits] (.grantInitialFlow 2) [] rfl moved_regrant

private def strayMessage : Dispatch :=
  { cmd := { consumerId := 0, messageId := { ledgerId := 1, entryId := 1 } }
    metadata := { producerName := "p" } }

/-- Attach and grant; seek, be told that it succeeded, take a message, and be made active. -/
private def seekRun : List SideOp :=
  [.setHandshakeState .connected, .successFrame 0 0,
    .consumeInitialConsumerSubscribeCompletion 0, .initialFlow 0 0,
    .seek 0 (.publishTime 7), .successFrame 1 0, .messageFrame strayMessage,
    .activeConsumerChangeFrame 0 true 0]

/-- The promotion after a seek grants a second time in one attach, to a consumer that is not
starved (a message waits in its queue) and that the broker never closed. -/
theorem granted_again_after_seek :
    ∃ before first between second,
      ConsumerSide.slotTrace default default 0 (({ } : ConsumerSide).subscribe pairRequest)
          seekRun = before ++ first :: between ++ [second] ∧
        Regrant default default (after before) first between second ∧
        (after (before ++ first :: between)).isFlowStarved = false ∧
        ∀ op ∈ between, op.closes = false := by
  refine ⟨[.subscribeAcked 0, .completionConsumed], .grantInitialFlow 0,
    [.beginSeek 1, .seekAcked, .deliver strayMessage, .activeChange true], .grantInitialFlow 0,
    rfl, ⟨?_, ?_, ?_, ?_⟩, ?_, ?_⟩ <;> decide

end Magnetar.Proto.Connection
