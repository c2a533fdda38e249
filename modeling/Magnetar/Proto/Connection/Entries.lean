import Magnetar.Library.Machine
import Magnetar.Proto.Connection.Producers

/-!
Contract: the producer side of a connection as a family of independent entry machines.

Owns: the primitive operations of an entry, the simulation (one step of the connection acts on each
entry as a short run of entry operations), and the rule that lifts what every entry operation
preserves to every run of the connection.

Does not own: any particular property.
-/

namespace Magnetar.Proto.Connection

open Library.Machine Pb External Producer ProducerEntry

/-- A primitive change of one entry. -/
inductive EntryOp where
  | create (handle maxMessageSize : Nat) (req : CreateProducerRequest)
  | openEmitted (requestId : Nat)
  | queueSend (msg : OutgoingMessage) (uuid : String) (reservation publishTimeMs now : Nat)
  | flushBatch (publishTimeMs : Nat)
  | flushDueBatch (publishTimeMs now : Nat)
  | drainOutbound
  | pollTransmit
  | sendReceipt (receipt : CommandSendReceipt)
  | sendError (err : CommandSendError)
  | attach (producerName : String) (lastSequenceId : Option Int)
  | shutGate
  | openFailedTransiently (maxRetries : Option Nat) (reason : String)
  | failOpen (reason : String)
  | dropSlot
  | closeRequested (requestId : Nat)
  | closeAcked (requestId : Nat)
  | cancelOpen
  | reset
  | discardSnapshots
  | timeoutPending (now : Nat)
  | timeoutSnapshots (now : Nat)
  | failAll (reason : String)
  | registerWaker (seq waker : Nat)
  | unregisterWaker (seq : Nat)
  | takeOutcome (seq : Nat)

variable (single : Prost SingleMessageMetadata) (codecs : Codecs)

def entryStep (entry : ProducerEntry) : EntryOp → ProducerEntry
  | .create handle maxMessageSize req => entry.create handle maxMessageSize req
  | .openEmitted requestId => entry.openEmitted requestId
  | .queueSend msg uuid reservation publishTimeMs now =>
    entry.queueSend single codecs msg uuid reservation publishTimeMs now
  | .flushBatch publishTimeMs => entry.flushBatch single codecs publishTimeMs
  | .flushDueBatch publishTimeMs now => entry.flushDueBatch single codecs publishTimeMs now
  | .drainOutbound => entry.drainOutbound
  | .pollTransmit => entry.pollTransmit
  | .sendReceipt receipt => entry.sendReceipt receipt
  | .sendError err => entry.sendError err
  | .attach producerName lastSequenceId => entry.attach producerName lastSequenceId
  | .shutGate => entry.shutGate
  | .openFailedTransiently maxRetries reason => entry.openFailedTransiently maxRetries reason
  | .failOpen reason => entry.failOpen reason
  | .dropSlot => entry.dropSlot
  | .closeRequested requestId => entry.closeRequested requestId
  | .closeAcked requestId => entry.closeAcked requestId
  | .cancelOpen => entry.cancelOpen
  | .reset => entry.reset
  | .discardSnapshots => entry.discardSnapshots
  | .timeoutPending now => entry.timeoutPending now
  | .timeoutSnapshots now => entry.timeoutSnapshots now
  | .failAll reason => entry.failAll reason
  | .registerWaker seq waker => entry.registerWaker seq waker
  | .unregisterWaker seq => entry.unregisterWaker seq
  | .takeOutcome seq => (entry.takeOutcome seq).1

variable {side side' : ProducerSide} {named : Nat} {guard : ProducerEntry → EntryOp → Prop}
  {ops : Nat → List EntryOp}

namespace ProducerSide

/-! ### The entry operations behind a step -/

/-- Nothing, unless the step names this entry. -/
def onlyAt (named handle : Nat) (ops : List EntryOp) : List EntryOp :=
  if handle = named then ops else []

def drainOps (side : ProducerSide) : List EntryOp :=
  if side.state = .connected then [.drainOutbound] else []

/-- An open is emitted for a live producer. -/
def retryOps (side : ProducerSide) (named handle : Nat) : List EntryOp :=
  if (side.entries named).isLive then onlyAt named handle [.openEmitted side.nextRequestId] else []

def closeOps (handle : Nat) : ProducerSide → List Nat → List EntryOp
  | _, [] => []
  | side, named :: rest =>
    onlyAt named handle [.closeRequested side.nextRequestId] ++
      closeOps handle (side.closeProducer named true) rest

variable (side)

def reclaimOps (handle : Nat) (code : Int) (reclosed : List Nat) : List EntryOp :=
  if code = producerBusyCode then
    closeOps handle side (reclosed.filter side.abandoned.contains)
  else []

def refusedOp (named : Nat) (code : Int) (message : String) : EntryOp :=
  let established := (side.entries named).slot.any (·.hasEverAttached)
  if isRetryableOpenError code && established then
    .openFailedTransiently side.config.maxRetries message
  else if established then .failOpen message
  else .dropSlot

def successOps (handle requestId : Nat) (producerName : String) (lastSequenceId : Option Int) :
    List EntryOp :=
  match side.pendingRequests.lookup requestId with
  | some (.producerOpen named _) =>
    if (side.entries named).openIsCurrent requestId then
      onlyAt named handle [.attach producerName lastSequenceId] ++ side.drainOps
    else []
  | _ => side.drainOps

def closeAckOps (handle requestId : Nat) : List EntryOp :=
  match side.pendingRequests.lookup requestId with
  | some (.producerClose named) | some (.producerCloseForgotten named) =>
    onlyAt named handle [.closeAcked requestId]
  | _ => []

def errorOps (handle requestId : Nat) (code : Int) (message : String) (reclosed : List Nat) :
    List EntryOp :=
  match side.pendingRequests.lookup requestId with
  | some (.producerOpen named _) =>
    if (side.entries named).openIsCurrent requestId then
      let answered := side.forgetRequest requestId
      answered.reclaimOps handle code reclosed ++
        (onlyAt named handle
          [(answered.reclaimBusyProducerName code reclosed).refusedOp named code message] ++
          side.drainOps)
    else []
  | _ => side.drainOps

def closedByBrokerOps (named : Nat) : List EntryOp :=
  if (side.entries named).reattachInPlaceIsEligible then
    [.shutGate, .openEmitted side.nextRequestId]
  else [.shutGate]

def frameOps (handle : Nat) : ProducerFrame → List EntryOp
  | .connected _ => [.drainOutbound]
  | .sendReceipt receipt =>
    onlyAt receipt.producerId handle [.sendReceipt receipt] ++ side.drainOps
  | .sendError err => onlyAt err.producerId handle [.sendError err] ++ side.drainOps
  | .producerSuccess requestId producerName lastSequenceId =>
    side.successOps handle requestId producerName lastSequenceId
  | .success requestId => side.closeAckOps handle requestId ++ side.drainOps
  | .error requestId code message reclosed =>
    side.errorOps handle requestId code message reclosed
  | .closeProducer named => onlyAt named handle (side.closedByBrokerOps named) ++ side.drainOps
  | .other => side.drainOps

def sweepOps (publishTimeMs now : Nat) : List EntryOp :=
  .flushDueBatch publishTimeMs now :: (side.drainOps ++ [.timeoutPending now, .timeoutSnapshots now])

def expireOps (handle : Nat) (expired : List (Nat × Nat)) : List EntryOp :=
  expired.flatMap fun (_, named) =>
    onlyAt named handle [.openFailedTransiently side.config.maxRetries producerOpenTimeoutMessage]

/-- What one step of the connection does to the entry at `handle`. -/
def entryOps (handle : Nat) : Op → List EntryOp
  | .createProducer reattach req =>
    onlyAt (side.handleFor reattach) handle
      [.create (side.handleFor reattach)
          (side.brokerMaxMessageSize.getD side.config.maxMessageSize) req,
        .openEmitted side.nextRequestId]
  | .slotQueueSend named msg uuid reservation publishTimeMs now =>
    onlyAt named handle [.queueSend msg uuid reservation publishTimeMs now]
  | .send named msg uuid reservation publishTimeMs now =>
    onlyAt named handle [.queueSend msg uuid reservation publishTimeMs now] ++
      (if (side.entries named).sendIsAccepted single codecs msg uuid reservation publishTimeMs now
      then side.drainOps else [])
  | .slotFlushBatch named publishTimeMs => onlyAt named handle [.flushBatch publishTimeMs]
  | .flushProducer named publishTimeMs =>
    onlyAt named handle [.flushBatch publishTimeMs] ++ side.drainOps
  | .drainProducerOutbound => side.drainOps
  | .pollTransmit => side.drainOps ++ [.pollTransmit]
  | .frame now frame => { side with lastActivity := some now }.frameOps handle frame
  | .handleTimeout publishTimeMs now =>
    side.sweepOps publishTimeMs now ++
      side.expireOps handle ((side.sweepSends single codecs publishTimeMs now).expiredOpens now)
  | .reset => [.reset]
  | .rebuildProducer named =>
    if (side.entries named).isLive then onlyAt named handle [.openEmitted side.nextRequestId]
    else onlyAt named handle [.discardSnapshots]
  | .retryProducerOpen named => side.retryOps named handle
  | .retryProducerOpenIfCurrent named failedRequestId =>
    if side.producerOpenRetryIsCurrent named failedRequestId then side.retryOps named handle
    else []
  | .closeProducer named _ => onlyAt named handle [.closeRequested side.nextRequestId]
  | .cancelProducerOpen named => onlyAt named handle [.cancelOpen]
  | .failProducerOpen named reason => onlyAt named handle [.failOpen reason]
  | .failAllPending reason => [.failAll reason]
  | .registerWaker named seq waker => onlyAt named handle [.registerWaker seq waker]
  | .unregisterWaker named seq => onlyAt named handle [.unregisterWaker seq]
  | .takeOutcome named seq => onlyAt named handle [.takeOutcome seq]
  | .setHandshakeState _ => []
  | .otherActivity _ => []
  | .otherRequest => []

/-! ### What a call leaves of the session -/

def handles : Nat × List Nat :=
  (side.nextProducerId, side.abandoned)

variable {side}

/-- The session goes on: its state is as it was, and an open that is pending now was pending before
or is of a producer in `opened`. -/
structure GoesOn (opened : Nat → Prop) (side side' : ProducerSide) : Prop where
  state : side'.state = side.state
  opens : ∀ handle requestId enqueuedAt,
    side'.pendingRequests.lookup requestId = some (.producerOpen handle enqueuedAt) →
      opened handle ∨
        side.pendingRequests.lookup requestId = some (.producerOpen handle enqueuedAt)

/-- The session goes on, with the producer ids it had. -/
structure KeepsHandles (opened : Nat → Prop) (side side' : ProducerSide) : Prop
    extends GoesOn opened side side' where
  handles : side'.handles = side.handles

section Sessions

variable {opened opened' : Nat → Prop} {side side' side'' : ProducerSide}

theorem GoesOn.of_tables (state : side'.state = side.state)
    (requests : side'.pendingRequests = side.pendingRequests) : GoesOn opened side side' where
  state := state
  opens := by
    intro handle requestId enqueuedAt pending
    rw [requests] at pending
    exact .inr pending

theorem GoesOn.trans (first : GoesOn opened side side') (second : GoesOn opened side' side'') :
    GoesOn opened side side'' where
  state := second.state.trans first.state
  opens := by
    intro handle requestId enqueuedAt pending
    rcases second.opens handle requestId enqueuedAt pending with new | before
    · exact .inl new
    · exact first.opens handle requestId enqueuedAt before

namespace KeepsHandles

theorem refl (side : ProducerSide) : KeepsHandles opened side side :=
  ⟨.of_tables rfl rfl, rfl⟩

theorem trans (first : KeepsHandles opened side side')
    (second : KeepsHandles opened side' side'') : KeepsHandles opened side side'' :=
  ⟨first.toGoesOn.trans second.toGoesOn, second.handles.trans first.handles⟩

/-- Entries are no part of it. -/
theorem modifyEntry (keeps : KeepsHandles opened side side') (named : Nat)
    (update : ProducerEntry → ProducerEntry) :
    KeepsHandles opened side (side'.modifyEntry named update) :=
  ⟨⟨keeps.state, keeps.opens⟩, keeps.handles⟩

theorem drained (keeps : KeepsHandles opened side side') :
    KeepsHandles opened side side'.drainProducerOutbound := by
  unfold drainProducerOutbound
  split
  · exact ⟨⟨keeps.state, keeps.opens⟩, keeps.handles⟩
  · exact keeps

theorem foldl {α : Type} {update : ProducerSide → α → ProducerSide}
    (keeps : ∀ side item, KeepsHandles opened side (update side item)) (items : List α)
    (side : ProducerSide) : KeepsHandles opened side (items.foldl update side) := by
  induction items generalizing side with
  | nil => exact refl side
  | cons item _ ih => exact (keeps side item).trans (ih _)

section

variable (side : ProducerSide)

theorem forgetRequest (requestId : Nat) :
    KeepsHandles opened side (side.forgetRequest requestId) := by
  refine ⟨⟨rfl, ?_⟩, rfl⟩
  intro handle other enqueuedAt pending
  by_cases answered : other = requestId
  · subst answered
    simp [ProducerSide.forgetRequest] at pending
  · exact .inr ((AList.lookup_erase_ne answered).symm.trans pending)

theorem request {kind : ProducerRequestKind}
    (asked : ∀ handle enqueuedAt, kind = .producerOpen handle enqueuedAt → opened handle) :
    KeepsHandles opened side (side.request kind) := by
  refine ⟨⟨rfl, ?_⟩, rfl⟩
  intro handle requestId enqueuedAt pending
  by_cases taken : requestId = side.nextRequestId
  · subst taken
    simp only [ProducerSide.request, AList.lookup_insert] at pending
    exact .inl (asked handle enqueuedAt (Option.some.inj pending))
  · exact .inr ((AList.lookup_insert_ne taken).symm.trans pending)

theorem closeProducer (named : Nat) (forget : Bool) :
    KeepsHandles opened side (side.closeProducer named forget) := by
  apply (request side ?_).modifyEntry
  intro handle enqueuedAt
  cases forget <;> simp

theorem emitCommandProducer (emitted : opened named) :
    KeepsHandles opened side (side.emitCommandProducer named) := by
  apply (request side ?_).modifyEntry
  rintro handle enqueuedAt ⟨⟩
  exact emitted

theorem retryProducerOpen (emitted : opened named) :
    KeepsHandles opened side (side.retryProducerOpen named) := by
  unfold ProducerSide.retryProducerOpen
  split
  · exact emitCommandProducer side emitted
  · exact refl side

theorem reclaimBusyProducerName (code : Int) (reclosed : List Nat) :
    KeepsHandles opened side (side.reclaimBusyProducerName code reclosed) := by
  unfold ProducerSide.reclaimBusyProducerName
  split
  · exact foldl (fun side named => closeProducer side named true) _ side
  · exact refl side

theorem openRefused (named : Nat) (code : Int) (message : String) :
    KeepsHandles opened side (side.openRefused named code message) := by
  unfold ProducerSide.openRefused
  dsimp only
  split
  · exact (refl side).modifyEntry named _
  · split <;> exact (refl side).modifyEntry named _

theorem handleSuccess (requestId : Nat) :
    KeepsHandles opened side (side.handleSuccess requestId) := by
  have answered : KeepsHandles opened side (side.forgetRequest requestId) :=
    forgetRequest side requestId
  unfold ProducerSide.handleSuccess
  dsimp only
  split
  · exact answered.modifyEntry _ _
  · exact answered.modifyEntry _ _
  · exact answered

theorem handleCloseProducer (emitted : opened named) :
    KeepsHandles opened side (side.handleCloseProducer named) := by
  have shut : KeepsHandles opened side (side.modifyEntry named shutGate) :=
    (refl side).modifyEntry named _
  unfold ProducerSide.handleCloseProducer
  split
  · exact shut.trans (retryProducerOpen _ emitted)
  · exact shut

end

end KeepsHandles

end Sessions

/-! ### The simulation -/

/-- `side'` has each entry of `side` after that entry's operations. -/
def Simulates (side side' : ProducerSide) (ops : Nat → List EntryOp) : Prop :=
  ∀ handle, side'.entries handle =
    run (entryStep single codecs) (side.entries handle) (ops handle)

variable {single codecs}

theorem Simulates.of_entries (same : side'.entries = side.entries) :
    Simulates single codecs side side' fun _ => [] := by
  intro handle
  rw [same]
  rfl

theorem Simulates.trans {side'' : ProducerSide} {first second : Nat → List EntryOp}
    (earlier : Simulates single codecs side side' first)
    (later : Simulates single codecs side' side'' second) :
    Simulates single codecs side side'' fun handle => first handle ++ second handle := by
  intro handle
  rw [later handle, earlier handle, run_append]

/-- Tables other than the entries may change first. -/
theorem Simulates.from_entries {base : ProducerSide}
    (simulates : Simulates single codecs base side' ops) (same : base.entries = side.entries) :
    Simulates single codecs side side' ops := by
  intro handle
  rw [simulates handle, same]

theorem Simulates.congr {ops' : Nat → List EntryOp}
    (simulates : Simulates single codecs side side' ops) (same : ∀ handle, ops handle = ops' handle) :
    Simulates single codecs side side' ops' := by
  intro handle
  rw [simulates handle, same]

theorem modifyEntry_simulates (side : ProducerSide) (named : Nat)
    (update : ProducerEntry → ProducerEntry) (ops : List EntryOp)
    (acts : ∀ entry, update entry = run (entryStep single codecs) entry ops) :
    Simulates single codecs side (side.modifyEntry named update)
      fun handle => onlyAt named handle ops := by
  intro handle
  unfold modifyEntry onlyAt
  by_cases same : handle = named
  · simp [same, acts]
  · simp [same]

theorem mapEntries_simulates (side : ProducerSide) (update : ProducerEntry → ProducerEntry)
    (ops : List EntryOp) (acts : ∀ entry, update entry = run (entryStep single codecs) entry ops) :
    Simulates single codecs side (side.mapEntries update) fun _ => ops := by
  intro handle
  exact acts (side.entries handle)

theorem drainProducerOutbound_simulates (side : ProducerSide) :
    Simulates single codecs side side.drainProducerOutbound fun _ => side.drainOps := by
  unfold drainProducerOutbound drainOps
  split
  · exact mapEntries_simulates side _ [.drainOutbound] fun _ => rfl
  · exact .of_entries rfl

theorem Simulates.drained
    (simulates : Simulates single codecs side side' ops) (state : side'.state = side.state) :
    Simulates single codecs side side'.drainProducerOutbound
      fun handle => ops handle ++ side.drainOps := by
  have drained : side'.drainOps = side.drainOps := by
    unfold drainOps
    rw [state]
  rw [← drained]
  exact simulates.trans (drainProducerOutbound_simulates side')

section

variable (side : ProducerSide)

theorem emitCommandProducer_simulates (named : Nat) :
    Simulates single codecs side (side.emitCommandProducer named)
      fun handle => onlyAt named handle [.openEmitted side.nextRequestId] :=
  (modifyEntry_simulates _ named _ [.openEmitted side.nextRequestId] fun _ => rfl).from_entries rfl

theorem createProducer_simulates (reattach : Option Nat) (req : CreateProducerRequest) :
    Simulates single codecs side (side.createProducer reattach req)
      fun handle => side.entryOps single codecs handle (.createProducer reattach req) := by
  let started : ProducerSide := side.takeProducerId reattach
  have entries : started.entries = side.entries := by
    unfold started takeProducerId
    split <;> rfl
  have requestId : started.nextRequestId = side.nextRequestId := by
    unfold started takeProducerId
    split <;> rfl
  have created : Simulates single codecs started
      (started.modifyEntry (side.handleFor reattach) fun entry =>
        entry.create (side.handleFor reattach)
          (side.brokerMaxMessageSize.getD side.config.maxMessageSize) req)
      (fun handle => onlyAt (side.handleFor reattach) handle
        [.create (side.handleFor reattach)
          (side.brokerMaxMessageSize.getD side.config.maxMessageSize) req]) :=
    modifyEntry_simulates started _ _ _ fun _ => rfl
  have opened := created.trans (emitCommandProducer_simulates _ (side.handleFor reattach))
  apply (opened.from_entries entries).congr
  intro handle
  simp only [entryOps, onlyAt]
  split
  · simp [modifyEntry, requestId]
  · rfl

theorem retryProducerOpen_simulates (named : Nat) :
    Simulates single codecs side (side.retryProducerOpen named)
      fun handle => side.retryOps named handle := by
  unfold retryProducerOpen retryOps
  split
  · exact emitCommandProducer_simulates side named
  · exact .of_entries rfl

theorem closeProducer_simulates (named : Nat) (forget : Bool) :
    Simulates single codecs side (side.closeProducer named forget)
      fun handle => onlyAt named handle [.closeRequested side.nextRequestId] :=
  (modifyEntry_simulates _ named _ [.closeRequested side.nextRequestId]
    fun _ => rfl).from_entries rfl

theorem foldl_closeProducer_simulates (handles : List Nat) :
    Simulates single codecs side
      (handles.foldl (fun side handle => side.closeProducer handle true) side)
      fun handle => closeOps handle side handles := by
  induction handles generalizing side with
  | nil => exact .of_entries rfl
  | cons named _ ih =>
    exact (closeProducer_simulates side named true).trans (ih _)

theorem reclaimBusyProducerName_simulates (code : Int) (reclosed : List Nat) :
    Simulates single codecs side (side.reclaimBusyProducerName code reclosed)
      fun handle => side.reclaimOps handle code reclosed := by
  unfold reclaimBusyProducerName reclaimOps
  split
  · exact foldl_closeProducer_simulates side _
  · exact .of_entries rfl

theorem openRefused_simulates (named : Nat) (code : Int) (message : String) :
    Simulates single codecs side (side.openRefused named code message)
      fun handle => onlyAt named handle [side.refusedOp named code message] := by
  unfold openRefused refusedOp
  dsimp only
  split
  · exact modifyEntry_simulates side named _
      [.openFailedTransiently side.config.maxRetries message] fun _ => rfl
  · split
    · exact modifyEntry_simulates side named _ [.failOpen message] fun _ => rfl
    · exact modifyEntry_simulates side named _ [.dropSlot] fun _ => rfl

theorem rememberAbandoned_entries (handle : Nat) :
    (side.rememberAbandoned handle).entries = side.entries := by
  unfold rememberAbandoned
  split <;> rfl

theorem cancelProducerOpen_simulates (named : Nat) :
    Simulates single codecs side (side.cancelProducerOpen named)
      fun handle => onlyAt named handle [.cancelOpen] := by
  -- The close before the cancel only touches the slot that the cancel takes away.
  have forgotten (base : ProducerSide) (requestIds : List Nat) :
      (requestIds.foldl forgetRequest base).entries = base.entries := by
    induction requestIds generalizing base with
    | nil => rfl
    | cons _ _ ih => exact ih _
  intro handle
  unfold cancelProducerOpen onlyAt
  dsimp only [modifyEntry]
  rw [forgotten]
  by_cases same : handle = named
  · subst same
    rw [if_pos rfl, if_pos rfl]
    split
    · rw [rememberAbandoned_entries, closeProducer, modifyEntry]
      dsimp only
      rw [if_pos rfl]
      rfl
    · rfl
  · rw [if_neg same, if_neg same]
    split
    · rw [rememberAbandoned_entries, closeProducer, modifyEntry]
      dsimp only
      rw [if_neg same]
      rfl
    · rfl

theorem handleProducerSuccess_simulates (requestId : Nat)
    (producerName : String) (lastSequenceId : Option Int) :
    Simulates single codecs side (side.handleProducerSuccess requestId producerName lastSequenceId)
      fun handle => side.successOps handle requestId producerName lastSequenceId := by
  have drained : Simulates single codecs side (side.forgetRequest requestId).drainProducerOutbound
      fun _ => side.drainOps :=
    (drainProducerOutbound_simulates (side.forgetRequest requestId)).from_entries rfl
  unfold handleProducerSuccess successOps
  cases side.pendingRequests.lookup requestId with
  | none => exact drained
  | some kind =>
    cases kind with
    | producerOpen named =>
      change Simulates single codecs side
        (if (side.entries named).openIsCurrent requestId then _ else _) _
      by_cases current : (side.entries named).openIsCurrent requestId = true
      · simp only [current, if_true]
        have attached : Simulates single codecs side
            ((side.forgetRequest requestId).modifyEntry named fun entry =>
              entry.attach producerName lastSequenceId)
            (fun handle => onlyAt named handle [.attach producerName lastSequenceId]) :=
          (modifyEntry_simulates _ named _ [.attach producerName lastSequenceId]
            fun _ => rfl).from_entries rfl
        exact attached.drained rfl
      · simp only [current]
        exact .of_entries rfl
    | producerClose | producerCloseForgotten => exact drained

theorem handleSuccess_simulates (requestId : Nat) :
    Simulates single codecs side (side.handleSuccess requestId)
      fun handle => side.closeAckOps handle requestId := by
  unfold handleSuccess closeAckOps
  cases side.pendingRequests.lookup requestId with
  | none => exact .of_entries rfl
  | some kind =>
    cases kind with
    | producerOpen => exact .of_entries rfl
    | producerClose named | producerCloseForgotten named =>
      exact (modifyEntry_simulates _ named _ [.closeAcked requestId]
        fun _ => rfl).from_entries rfl

theorem handleError_simulates (requestId : Nat) (code : Int)
    (message : String) (reclosed : List Nat) :
    Simulates single codecs side (side.handleError requestId code message reclosed)
      fun handle => side.errorOps handle requestId code message reclosed := by
  let answered := side.forgetRequest requestId
  have drained : Simulates single codecs side answered.drainProducerOutbound
      fun _ => side.drainOps :=
    (drainProducerOutbound_simulates answered).from_entries rfl
  unfold handleError errorOps
  cases side.pendingRequests.lookup requestId with
  | none => exact drained
  | some kind =>
    cases kind with
    | producerOpen named =>
      change Simulates single codecs side
        (if (side.entries named).openIsCurrent requestId then _ else _) _
      by_cases current : (side.entries named).openIsCurrent requestId = true
      · simp only [current, if_true]
        have reclaimed : Simulates single codecs side
            (answered.reclaimBusyProducerName code reclosed)
            (fun handle => answered.reclaimOps handle code reclosed) :=
          (reclaimBusyProducerName_simulates answered code reclosed).from_entries rfl
        have refused := reclaimed.trans
          (openRefused_simulates (answered.reclaimBusyProducerName code reclosed) named code
            message)
        have sameState : ((answered.reclaimBusyProducerName code reclosed).openRefused named
            code message).state = side.state := by
          have kept : KeepsHandles (fun _ => True) answered _ :=
            (KeepsHandles.reclaimBusyProducerName answered code reclosed).trans
              (.openRefused _ named code message)
          exact kept.state
        apply (refused.drained sameState).congr
        intro handle
        rw [List.append_assoc]
      · simp only [current]
        exact .of_entries rfl
    | producerClose | producerCloseForgotten => exact drained

end

theorem shutGate_isLive {entry : ProducerEntry}
    (eligible : entry.reattachInPlaceIsEligible = true) : entry.shutGate.isLive = true := by
  simp only [reattachInPlaceIsEligible, Bool.and_eq_true, Option.any_eq_true]
    at eligible
  obtain ⟨stored, record, found, ⟨opened, -⟩, -⟩ := eligible
  simp only [isLive, shutGate, modifyState,
    modifyRecord, found, stored, Option.map_some, Option.any_some, opened,
    Bool.and_self]

theorem handleCloseProducer_eligible
    (eligible : (side.entries named).reattachInPlaceIsEligible = true) :
    side.handleCloseProducer named =
      (side.modifyEntry named shutGate).emitCommandProducer named := by
  have live : ((side.modifyEntry named shutGate).entries named).isLive = true := by
    simpa [modifyEntry] using shutGate_isLive eligible
  rw [handleCloseProducer, if_pos eligible, retryProducerOpen, if_pos live]

section

variable (side : ProducerSide)

theorem handleCloseProducer_simulates (named : Nat) :
    Simulates single codecs side (side.handleCloseProducer named)
      fun handle => onlyAt named handle (side.closedByBrokerOps named) := by
  have shut : Simulates single codecs side (side.modifyEntry named shutGate)
      (fun handle => onlyAt named handle [.shutGate]) :=
    modifyEntry_simulates side named _ _ fun _ => rfl
  unfold closedByBrokerOps
  by_cases eligible : (side.entries named).reattachInPlaceIsEligible = true
  · rw [if_pos eligible, handleCloseProducer_eligible eligible]
    apply (shut.trans (emitCommandProducer_simulates _ named)).congr
    intro handle
    unfold onlyAt
    split <;> rfl
  · rw [if_neg eligible, handleCloseProducer, if_neg eligible]
    exact shut

theorem handleFrame_simulates (now : Nat) (frame : ProducerFrame) :
    Simulates single codecs side (side.handleFrame now frame)
      fun handle => { side with lastActivity := some now }.frameOps handle frame := by
  let awake : ProducerSide := { side with lastActivity := some now }
  have sameEntries : awake.entries = side.entries := rfl
  cases frame with
  | connected =>
    exact (drainProducerOutbound_simulates { awake with state := .connected, brokerMaxMessageSize :=
      _ }).from_entries rfl
  | sendReceipt receipt =>
    have received : Simulates single codecs awake (awake.handleSendReceipt receipt)
        (fun handle => onlyAt receipt.producerId handle [.sendReceipt receipt]) :=
      modifyEntry_simulates awake _ _ _ fun _ => rfl
    exact (received.drained rfl).from_entries sameEntries
  | sendError err =>
    have received : Simulates single codecs awake (awake.handleSendError err)
        (fun handle => onlyAt err.producerId handle [.sendError err]) :=
      modifyEntry_simulates awake _ _ _ fun _ => rfl
    exact (received.drained rfl).from_entries sameEntries
  | producerSuccess => exact (handleProducerSuccess_simulates awake _ _ _).from_entries sameEntries
  | success requestId =>
    have kept : KeepsHandles (fun _ => True) awake (awake.handleSuccess requestId) :=
      .handleSuccess awake requestId
    exact ((handleSuccess_simulates awake requestId).drained kept.state).from_entries sameEntries
  | error => exact (handleError_simulates awake _ _ _ _).from_entries sameEntries
  | closeProducer producerId =>
    have kept : KeepsHandles (fun _ => True) awake (awake.handleCloseProducer producerId) :=
      .handleCloseProducer awake trivial
    exact ((handleCloseProducer_simulates awake producerId).drained kept.state).from_entries
      sameEntries
  | other => exact (drainProducerOutbound_simulates awake).from_entries sameEntries

theorem sweepSends_simulates (publishTimeMs now : Nat) :
    Simulates single codecs side (side.sweepSends single codecs publishTimeMs now)
      fun _ => side.sweepOps publishTimeMs now := by
  have flushed : Simulates single codecs side
      (side.mapEntries fun entry => entry.flushDueBatch single codecs publishTimeMs now)
      (fun _ => [.flushDueBatch publishTimeMs now]) :=
    mapEntries_simulates side _ _ fun _ => rfl
  have pending (base : ProducerSide) : Simulates single codecs base
      (base.mapEntries fun entry => entry.timeoutPending now) (fun _ => [.timeoutPending now]) :=
    mapEntries_simulates base _ _ fun _ => rfl
  have aside (base : ProducerSide) : Simulates single codecs base
      (base.mapEntries fun entry => entry.timeoutSnapshots now)
      (fun _ => [.timeoutSnapshots now]) :=
    mapEntries_simulates base _ _ fun _ => rfl
  apply (((flushed.drained rfl).trans (pending _)).trans (aside _)).congr
  intro handle
  simp [sweepOps]

theorem foldl_expire_simulates (maxRetries : Option Nat)
    (budget : side.config.maxRetries = maxRetries) (expired : List (Nat × Nat)) :
    Simulates single codecs side
      (expired.foldl (fun side (requestId, handle) =>
        side.expirePendingProducerOpen requestId handle) side)
      fun handle => expired.flatMap fun (_, named) =>
        onlyAt named handle [.openFailedTransiently maxRetries producerOpenTimeoutMessage] := by
  induction expired generalizing side with
  | nil => exact .of_entries rfl
  | cons first _ ih =>
    obtain ⟨requestId, named⟩ := first
    have one : Simulates single codecs side (side.expirePendingProducerOpen requestId named)
        (fun handle => onlyAt named handle
          [.openFailedTransiently maxRetries producerOpenTimeoutMessage]) := by
      unfold expirePendingProducerOpen
      rw [budget]
      exact (modifyEntry_simulates _ named _
        [.openFailedTransiently maxRetries producerOpenTimeoutMessage]
        fun _ => rfl).from_entries rfl
    exact one.trans (ih _ budget)

theorem sweepSends_config (publishTimeMs now : Nat) :
    (side.sweepSends single codecs publishTimeMs now).config = side.config := by
  unfold sweepSends drainProducerOutbound
  dsimp only
  split <;> rfl

/-- One step of the connection acts on every entry as its entry operations. -/
theorem step_simulates (op : Op) :
    Simulates single codecs side (side.step single codecs op)
      fun handle => side.entryOps single codecs handle op := by
  cases op with
  | createProducer => exact createProducer_simulates side _ _
  | slotQueueSend => exact modifyEntry_simulates side _ _ [.queueSend _ _ _ _ _] fun _ => rfl
  | send named msg uuid reservation publishTimeMs now =>
    have queued : Simulates single codecs side
        (side.slotQueueSend single codecs named msg uuid reservation publishTimeMs now)
        (fun handle => onlyAt named handle
          [.queueSend msg uuid reservation publishTimeMs now]) :=
      modifyEntry_simulates side named _ _ fun _ => rfl
    simp only [step, ProducerSide.send, entryOps]
    split
    · exact queued.drained rfl
    · apply queued.congr
      intro handle
      rw [List.append_nil]
  | slotFlushBatch => exact modifyEntry_simulates side _ _ [.flushBatch _] fun _ => rfl
  | flushProducer named publishTimeMs =>
    have flushed : Simulates single codecs side
        (side.slotFlushBatch single codecs named publishTimeMs)
        (fun handle => onlyAt named handle [.flushBatch publishTimeMs]) :=
      modifyEntry_simulates side named _ _ fun _ => rfl
    exact flushed.drained rfl
  | drainProducerOutbound => exact drainProducerOutbound_simulates side
  | pollTransmit =>
    exact (drainProducerOutbound_simulates side).trans
      (mapEntries_simulates _ _ [.pollTransmit] fun _ => rfl)
  | frame now frame => exact handleFrame_simulates side now frame
  | handleTimeout publishTimeMs now =>
    exact (sweepSends_simulates side publishTimeMs now).trans
      (foldl_expire_simulates _ side.config.maxRetries
        (congrArg ProducerConfig.maxRetries (sweepSends_config side publishTimeMs now)) _)
  | reset => exact (mapEntries_simulates _ _ [.reset] fun _ => rfl).from_entries rfl
  | rebuildProducer named =>
    simp only [step, rebuildProducer, entryOps]
    split
    · exact emitCommandProducer_simulates side named
    · exact modifyEntry_simulates side named _ [.discardSnapshots] fun _ => rfl
  | retryProducerOpen named => exact retryProducerOpen_simulates side named
  | retryProducerOpenIfCurrent named =>
    simp only [step, retryProducerOpenIfCurrent, entryOps]
    split
    · exact retryProducerOpen_simulates side named
    · exact .of_entries rfl
  | closeProducer => exact closeProducer_simulates side _ _
  | cancelProducerOpen named => exact cancelProducerOpen_simulates side named
  | failProducerOpen => exact modifyEntry_simulates side _ _ [.failOpen _] fun _ => rfl
  | failAllPending reason =>
    exact (mapEntries_simulates _ _ [.failAll reason] fun _ => rfl).from_entries rfl
  | registerWaker => exact modifyEntry_simulates side _ _ [.registerWaker _ _] fun _ => rfl
  | unregisterWaker named seq =>
    exact modifyEntry_simulates side named _ [.unregisterWaker seq] fun _ => rfl
  | takeOutcome named seq =>
    exact modifyEntry_simulates side named _ [.takeOutcome seq] fun _ => rfl
  | setHandshakeState | otherActivity | otherRequest => exact .of_entries rfl

end

/-! ### Whole runs of one entry -/

variable (single codecs)

variable (guard)

/-- Every entry operation that a step takes at `handle` meets `guard`. -/
def GuardedAt (handle : Nat) (side : ProducerSide) (op : Op) : Prop :=
  Guarded (entryStep single codecs) guard (side.entries handle)
    (side.entryOps single codecs handle op)

instance [∀ entry op, Decidable (guard entry op)] (handle : Nat) (side : ProducerSide) (op : Op) :
    Decidable (GuardedAt single codecs guard handle side op) :=
  inferInstanceAs (Decidable (Guarded _ _ _ _))

variable {guard}

def entryTrace (handle : Nat) : ProducerSide → List Op → List EntryOp
  | _, [] => []
  | side, op :: rest =>
    side.entryOps single codecs handle op ++
      entryTrace handle (side.step single codecs op) rest

theorem run_entries (handle : Nat) (side : ProducerSide) (ops : List Op) :
    (run (step single codecs) side ops).entries handle =
      run (entryStep single codecs) (side.entries handle)
        (entryTrace single codecs handle side ops) := by
  induction ops generalizing side with
  | nil => rfl
  | cons op _ ih =>
    rw [run_cons, ih, step_simulates side op handle, entryTrace, run_append]

variable {single codecs}

section

variable {handle : Nat} {ops : List Op}
  (guarded : Guarded (step single codecs) (GuardedAt single codecs guard handle) side ops)

include guarded

theorem guarded_entryTrace :
    Guarded (entryStep single codecs) guard (side.entries handle)
      (entryTrace single codecs handle side ops) := by
  induction ops generalizing side with
  | nil => exact trivial
  | cons op _ ih =>
    obtain ⟨meets, remaining⟩ := guarded
    rw [entryTrace, Guarded.append]
    refine ⟨meets, ?_⟩
    rw [← step_simulates side op handle]
    exact ih remaining

/-- The invariant rule of the connection: what every guarded entry operation preserves, the entry
keeps over every run guarded at its handle. -/
theorem run_entry_invariant (invariant : ProducerEntry → Prop)
    (preserved : ∀ entry op, invariant entry → guard entry op →
      invariant (entryStep single codecs entry op)) (initial : invariant (side.entries handle)) :
    invariant ((run (step single codecs) side ops).entries handle) := by
  rw [run_entries]
  exact run_invariant invariant preserved initial (guarded_entryTrace guarded)

end

end ProducerSide

end Magnetar.Proto.Connection
