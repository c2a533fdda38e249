import Magnetar.Proto.Connection.Effects

/-!
Contract: a new producer finds nothing set aside under its handle.

Owns: the handles that no producer has had yet, the handles of abandoned opens, and that an open
takes one of these two.  With it, the conditions on the counters of a run.

Does not own: the sends themselves.
-/

namespace Magnetar.Proto.Connection

open Library.Machine Pb External Producer ProducerEntry

variable {single : Prost SingleMessageMetadata} {codecs : Codecs}

variable {handle : Nat} {side : ProducerSide}

/-! ### Entries -/

theorem Move.snapshots {before after : ProducerEntry} (move : Move single codecs before after) :
    after.snapshots.Sublist before.snapshots := by
  cases move with
  | reduce _ _ _ keeps => exact keeps.snapshots
  | vacate _ keeps => exact keeps.elim Keeps.snapshots Keeps.snapshots
  | flush | poll => exact List.Sublist.refl _
  | drain slot ready =>
    rw [drainOutbound_eq slot ready]

theorem Move.vacant {before after : ProducerEntry} (move : Move single codecs before after)
    (empty : before.slot = none) : after.slot = none := by
  cases move with
  | reduce slot | flush slot | drain slot => simp [empty] at slot
  | vacate slot' => exact slot'
  | poll => exact empty

theorem attach_snapshots (entry : ProducerEntry) (producerName : String)
    (lastSequenceId : Option Int) :
    (entry.attach producerName lastSequenceId).snapshots.Sublist entry.snapshots := by
  unfold attach
  split
  · exact List.Sublist.refl _
  · exact List.nil_sublist _

theorem sendReceipt_snapshots (entry : ProducerEntry) (receipt : CommandSendReceipt) :
    (entry.sendReceipt receipt).snapshots.Sublist entry.snapshots := by
  cases found : entry.slot with
  | none =>
    rw [show entry.sendReceipt receipt = entry by simp [sendReceipt, found]]
  | some =>
    obtain ⟨record', received⟩ := sendReceipt_received found receipt
    exact received.keeps.snapshots

theorem queueSend_snapshots (entry : ProducerEntry) (msg : OutgoingMessage) (uuid : String)
    (reservation publishTimeMs now : Nat) :
    (entry.queueSend single codecs msg uuid reservation publishTimeMs now).snapshots =
      entry.snapshots := by
  unfold queueSend
  split <;> rfl

variable {entry : ProducerEntry}

theorem entryStep_unset {op : EntryOp} (keepsConnection : op ≠ .reset)
    (clear : entry.snapshots = []) : (entryStep single codecs entry op).snapshots = [] := by
  cases plain : op.isPlain with
  | true =>
    refine Moves.invariant (fun entry => entry.snapshots = []) ?_
      (entryStep_moves entry plain) clear
    intro before after none move
    exact List.sublist_nil.mp (none ▸ move.snapshots)
  | false =>
    cases op with
    | create => exact clear
    | attach => exact List.sublist_nil.mp (clear ▸ attach_snapshots entry _ _)
    | queueSend => exact (queueSend_snapshots entry _ _ _ _ _).trans clear
    | sendReceipt receipt =>
      exact List.sublist_nil.mp (clear ▸ sendReceipt_snapshots entry receipt)
    | reset => exact absurd rfl keepsConnection
    | _ => cases plain

/-- A handle under which nothing is kept. -/
def Vacant (entry : ProducerEntry) : Prop :=
  entry.slot = none ∧ entry.snapshots = []

theorem entryStep_vacant {op : EntryOp}
    (opens : ∀ handle maxMessageSize req, op ≠ .create handle maxMessageSize req)
    (vacant : Vacant entry) : Vacant (entryStep single codecs entry op) := by
  have moves (before after : ProducerEntry) (vacant : Vacant before)
      (move : Move single codecs before after) : Vacant after :=
    ⟨move.vacant vacant.1, List.sublist_nil.mp (vacant.2 ▸ move.snapshots)⟩
  cases plain : op.isPlain with
  | true => exact Moves.invariant Vacant moves (entryStep_moves entry plain) vacant
  | false =>
    cases op with
    | create => exact absurd rfl (opens _ _ _)
    | attach producerName lastSequenceId =>
      rw [show entryStep single codecs entry (.attach producerName lastSequenceId) = entry by
        simp [entryStep, attach, vacant.1]]
      exact vacant
    | queueSend msg uuid reservation publishTimeMs now =>
      rw [show entryStep single codecs entry
        (.queueSend msg uuid reservation publishTimeMs now) = entry by
          simp [entryStep, queueSend, vacant.1]]
      exact vacant
    | sendReceipt receipt =>
      rw [show entryStep single codecs entry (.sendReceipt receipt) = entry by
        simp [entryStep, sendReceipt, vacant.1]]
      exact vacant
    | reset =>
      rcases reset_cases entry with ⟨-, only⟩ | ⟨record, found, -⟩
      · exact moves _ _ vacant only
      · simp [vacant.1] at found
    | _ => cases plain

/-! ### Steps -/

/-- An operation that neither opens nor attaches a producer, nor sends, releases frames or loses the
connection. -/
def EntryOp.isQuiet : EntryOp → Bool
  | .create _ _ _ | .openEmitted _ | .attach _ _ | .queueSend _ _ _ _ _ | .drainOutbound
  | .reset => false
  | _ => true

/-- An operation that neither opens a producer, nor sends, nor loses the connection. -/
def EntryOp.isSteady : EntryOp → Bool
  | .create _ _ _ | .queueSend _ _ _ _ _ | .reset => false
  | _ => true

def ProducerFrame.isQuiet : ProducerFrame → Bool
  | .connected _ | .producerSuccess _ _ _ | .closeProducer _ => false
  | _ => true

namespace ProducerSide

variable {ops : List EntryOp} {op : Op} {req : CreateProducerRequest}

/-- A step that opens no producer, takes no message, and keeps the session as it is. -/
def Op.isQuiet : Op → Bool
  | .createProducer _ _ | .slotQueueSend _ _ _ _ _ _ | .send _ _ _ _ _ _ | .reset
  | .rebuildProducer _ | .retryProducerOpen _ | .retryProducerOpenIfCurrent _ _
  | .setHandshakeState _ => false
  | .frame _ received => received.isQuiet
  | _ => true

section Quiet

variable {p : EntryOp → Bool} {side : ProducerSide} {handle : Nat}

theorem onlyAt_all {named : Nat} (all : ops.all p = true) :
    (onlyAt named handle ops).all p = true := by
  unfold onlyAt
  split
  · exact all
  · rfl

variable (quiet : ∀ op : EntryOp, op.isQuiet = true → p op = true)
  (drains : side.drainOps.all p = true)

include quiet in
theorem onlyAt_quiet {named : Nat} {op : EntryOp} (isQuiet : op.isQuiet = true) :
    (onlyAt named handle [op]).all p = true :=
  onlyAt_all (by simp [quiet op isQuiet])

include quiet in
theorem closeOps_all (side : ProducerSide) (reclosed : List Nat) :
    (closeOps handle side reclosed).all p = true := by
  induction reclosed generalizing side with
  | nil => rfl
  | cons _ _ ih =>
    rw [closeOps, List.all_append, Bool.and_eq_true]
    exact ⟨onlyAt_quiet quiet rfl, ih _⟩

theorem refusedOp_isQuiet (side : ProducerSide) (named : Nat) (code : Int) (message : String) :
    (side.refusedOp named code message).isQuiet = true := by
  unfold refusedOp
  dsimp only
  split
  · rfl
  · split <;> rfl

include quiet drains in
theorem errorOps_all (requestId : Nat) (code : Int) (message : String) (reclosed : List Nat) :
    (side.errorOps handle requestId code message reclosed).all p = true := by
  unfold errorOps reclaimOps
  split
  · split
    · simp only [List.all_append, Bool.and_eq_true, drains, and_true]
      refine ⟨?_, onlyAt_quiet quiet (refusedOp_isQuiet _ _ _ _)⟩
      split
      · exact closeOps_all quiet _ _
      · rfl
    · rfl
  · exact drains

include quiet drains in
theorem frameOps_all {frame : ProducerFrame} (isQuiet : frame.isQuiet = true) :
    (side.frameOps handle frame).all p = true := by
  cases frame with
  | connected | producerSuccess | closeProducer => cases isQuiet
  | sendReceipt | sendError =>
    simp only [frameOps, List.all_append, Bool.and_eq_true]
    exact ⟨onlyAt_quiet quiet rfl, drains⟩
  | success =>
    simp only [frameOps, closeAckOps, List.all_append, Bool.and_eq_true]
    refine ⟨?_, drains⟩
    split
    · exact onlyAt_quiet quiet rfl
    · exact onlyAt_quiet quiet rfl
    · rfl
  | error => exact errorOps_all quiet drains _ _ _ _
  | other => exact drains

include quiet drains in
theorem entryOps_all (isQuiet : op.isQuiet = true) :
    (side.entryOps single codecs handle op).all p = true := by
  cases op with
  | createProducer | slotQueueSend | send | reset | rebuildProducer | retryProducerOpen
  | retryProducerOpenIfCurrent | setHandshakeState => cases isQuiet
  | flushProducer =>
    simp only [entryOps, List.all_append, Bool.and_eq_true]
    exact ⟨onlyAt_quiet quiet rfl, drains⟩
  | drainProducerOutbound => exact drains
  | pollTransmit =>
    simp only [entryOps, List.all_append, Bool.and_eq_true]
    exact ⟨drains, by simp [quiet .pollTransmit rfl]⟩
  | frame now frame =>
    have awake : { side with lastActivity := some now }.drainOps.all p = true := drains
    exact frameOps_all quiet awake isQuiet
  | handleTimeout =>
    simp only [entryOps, sweepOps, expireOps, List.all_append, List.all_cons, Bool.and_eq_true,
      List.all_flatMap, List.all_nil]
    refine ⟨⟨quiet _ rfl, drains, quiet _ rfl, quiet _ rfl, trivial⟩, ?_⟩
    rw [List.all_eq_true]
    intro expired _
    exact onlyAt_quiet quiet rfl
  | failAllPending reason => simp [entryOps, quiet (.failAll reason) rfl]
  | otherActivity | otherRequest => rfl
  | _ => exact onlyAt_quiet quiet rfl

end Quiet

theorem drainOps_steady (side : ProducerSide) : side.drainOps.all EntryOp.isSteady = true := by
  unfold drainOps
  split <;> rfl

theorem retryOps_steady (side : ProducerSide) (named handle : Nat) :
    (side.retryOps named handle).all EntryOp.isSteady = true := by
  unfold retryOps
  split
  · exact onlyAt_all rfl
  · rfl

/-- A step that opens no producer, takes no message and keeps the connection. -/
def Op.isSteady : Op → Bool
  | .createProducer _ _ | .slotQueueSend _ _ _ _ _ _ | .send _ _ _ _ _ _ | .reset => false
  | _ => true

theorem entryOps_steady (side : ProducerSide) (handle : Nat) (steady : op.isSteady = true) :
    (side.entryOps single codecs handle op).all EntryOp.isSteady = true := by
  have quiet (op : EntryOp) : op.isQuiet = true → op.isSteady = true := by
    cases op <;> simp [EntryOp.isQuiet, EntryOp.isSteady]
  cases isQuiet : op.isQuiet with
  | true => exact entryOps_all quiet (drainOps_steady side) isQuiet
  | false =>
    cases op with
    | createProducer | slotQueueSend | send | reset => cases steady
    | rebuildProducer =>
      simp only [entryOps]
      split <;> exact onlyAt_all rfl
    | retryProducerOpen named => exact retryOps_steady side named handle
    | retryProducerOpenIfCurrent named =>
      simp only [entryOps]
      split
      · exact retryOps_steady side named handle
      · rfl
    | setHandshakeState => rfl
    | frame now frame =>
      cases frame with
      | connected => rfl
      | producerSuccess =>
        simp only [entryOps, frameOps, successOps]
        split
        · split
          · rw [List.all_append, Bool.and_eq_true]
            exact ⟨onlyAt_all rfl, drainOps_steady _⟩
          · rfl
        · exact drainOps_steady _
      | closeProducer =>
        simp only [entryOps, frameOps, closedByBrokerOps, List.all_append, Bool.and_eq_true]
        refine ⟨onlyAt_all ?_, drainOps_steady _⟩
        split <;> rfl
      | _ => cases isQuiet
    | _ => cases isQuiet

variable (single codecs) in
/-- What a send does to an entry: the send itself, then steady operations. -/
theorem sendOps_steady (side : ProducerSide) (named handle : Nat) (msg : OutgoingMessage)
    (uuid : String) (reservation publishTimeMs now : Nat) :
    ∃ rest, rest.all EntryOp.isSteady = true ∧
      side.entryOps single codecs handle (.send named msg uuid reservation publishTimeMs now) =
        onlyAt named handle [.queueSend msg uuid reservation publishTimeMs now] ++ rest := by
  refine ⟨_, ?_, rfl⟩
  split
  · exact drainOps_steady side
  · rfl

/-! ### The session -/

section Session

variable {opened : Nat → Prop}

section

variable (side : ProducerSide)

theorem handleError_keepsHandles (requestId : Nat) (code : Int)
    (message : String) (reclosed : List Nat) :
    KeepsHandles opened side (side.handleError requestId code message reclosed) := by
  have answered : KeepsHandles opened side (side.forgetRequest requestId) :=
    .forgetRequest side requestId
  unfold handleError
  dsimp only
  split
  · split
    · exact ((answered.trans (.reclaimBusyProducerName _ code reclosed)).trans
        (.openRefused _ _ code message)).drained
    · exact answered
  · exact answered.drained

theorem handleProducerSuccess_keepsHandles (requestId : Nat)
    (producerName : String) (lastSequenceId : Option Int) :
    KeepsHandles opened side
      (side.handleProducerSuccess requestId producerName lastSequenceId) := by
  have answered : KeepsHandles opened side (side.forgetRequest requestId) :=
    .forgetRequest side requestId
  unfold handleProducerSuccess
  dsimp only
  split
  · split
    · exact (answered.modifyEntry _ _).drained
    · exact answered
  · exact answered.drained

theorem handleTimeout_keepsHandles (publishTimeMs now : Nat) :
    KeepsHandles opened side (side.handleTimeout single codecs publishTimeMs now) := by
  have drained (base : ProducerSide) : KeepsHandles opened base base.drainProducerOutbound :=
    (KeepsHandles.refl base).drained
  have swept : KeepsHandles opened side (side.sweepSends single codecs publishTimeMs now) :=
    ⟨⟨(drained _).state, (drained _).opens⟩, (drained _).handles⟩
  refine swept.trans (.foldl ?_ _ _)
  rintro base ⟨requestId, named⟩
  exact (KeepsHandles.forgetRequest base requestId).modifyEntry named _

theorem frame_keepsHandles (now : Nat) {frame : ProducerFrame} (isQuiet : frame.isQuiet = true) :
    KeepsHandles opened side (side.handleFrame now frame) := by
  let awake : ProducerSide := { side with lastActivity := some now }
  have kept : KeepsHandles opened side awake := ⟨.of_tables rfl rfl, rfl⟩
  cases frame with
  | connected | producerSuccess | closeProducer => cases isQuiet
  | sendReceipt | sendError => exact (kept.modifyEntry _ _).drained
  | success requestId => exact (kept.trans (.handleSuccess awake requestId)).drained
  | error => exact kept.trans (handleError_keepsHandles awake _ _ _ _)
  | other => exact kept.drained

variable (single codecs) in
/-- A quiet step leaves the session alone. -/
theorem step_keepsHandles (isQuiet : op.isQuiet = true)
    (cancels : ∀ handle, op ≠ .cancelProducerOpen handle) :
    KeepsHandles opened side (side.step single codecs op) := by
  have same : KeepsHandles opened side side := .refl side
  cases op with
  | createProducer | slotQueueSend | send | reset | rebuildProducer | retryProducerOpen
  | retryProducerOpenIfCurrent | setHandshakeState => cases isQuiet
  | cancelProducerOpen handle => exact absurd rfl (cancels handle)
  | flushProducer => exact (same.modifyEntry _ _).drained
  | drainProducerOutbound => exact same.drained
  | pollTransmit => exact ⟨⟨same.drained.state, same.drained.opens⟩, same.drained.handles⟩
  | frame now => exact frame_keepsHandles side now isQuiet
  | handleTimeout => exact handleTimeout_keepsHandles side _ _
  | closeProducer => exact .closeProducer side _ _
  | failAllPending => exact ⟨⟨rfl, fun _ _ _ pending => by cases pending⟩, rfl⟩
  | otherRequest =>
    have forgotten : KeepsHandles opened side (side.forgetRequest side.nextRequestId) :=
      .forgetRequest side _
    exact ⟨⟨rfl, forgotten.opens⟩, rfl⟩
  | _ => exact ⟨.of_tables rfl rfl, rfl⟩

end

end Session

variable (single codecs) in
/-- Only an open, a cancelled open and a reset touch the producer ids. -/
theorem step_handles (side : ProducerSide)
    (opens : ∀ reattach req, op ≠ .createProducer reattach req)
    (cancels : ∀ handle, op ≠ .cancelProducerOpen handle) (keeps : op ≠ .reset) :
    (side.step single codecs op).handles = side.handles := by
  have same : KeepsHandles (fun _ => True) side side := .refl side
  have retried (handle : Nat) : KeepsHandles (fun _ => True) side (side.retryProducerOpen handle) :=
    .retryProducerOpen side trivial
  cases isQuiet : op.isQuiet with
  | true =>
    have kept : KeepsHandles (fun _ => True) side (side.step single codecs op) :=
      step_keepsHandles single codecs side isQuiet cancels
    exact kept.handles
  | false =>
    cases op with
    | createProducer => exact absurd rfl (opens _ _)
    | reset => exact absurd rfl keeps
    | slotQueueSend | setHandshakeState => rfl
    | send =>
      simp only [step, ProducerSide.send]
      split
      · exact (same.modifyEntry _ _).drained.handles
      · rfl
    | rebuildProducer =>
      simp only [step, rebuildProducer]
      split <;> rfl
    | retryProducerOpen handle => exact (retried handle).handles
    | retryProducerOpenIfCurrent handle =>
      simp only [step, retryProducerOpenIfCurrent]
      split
      · exact (retried handle).handles
      · rfl
    | frame now frame =>
      let awake : ProducerSide := { side with lastActivity := some now }
      have kept : KeepsHandles (fun _ => True) side awake := ⟨.of_tables rfl rfl, rfl⟩
      cases frame with
      | connected =>
        have drained (base : ProducerSide) :
            KeepsHandles (fun _ => True) base base.drainProducerOutbound :=
          (KeepsHandles.refl base).drained
        exact (drained _).handles
      | producerSuccess =>
        exact (kept.trans (handleProducerSuccess_keepsHandles awake _ _ _)).handles
      | closeProducer =>
        exact (kept.trans (.handleCloseProducer awake trivial)).drained.handles
      | _ => cases isQuiet
    | _ => cases isQuiet

/-! ### The invariant -/

/-- Nothing is kept under an id not given yet, and nothing is set aside under an abandoned one. -/
structure Reserved (side : ProducerSide) : Prop where
  fresh : ∀ handle, side.nextProducerId ≤ handle → Vacant (side.entries handle)
  abandoned : ∀ handle ∈ side.abandoned,
    handle < side.nextProducerId ∧ (side.entries handle).snapshots = []

variable (single codecs) in
/-- Operations that open nothing and keep the connection. -/
theorem run_reserved (steady : ∀ op ∈ ops, op ≠ .reset ∧
      ∀ handle maxMessageSize req, op ≠ .create handle maxMessageSize req)
    (entry : ProducerEntry) :
    (Vacant entry → Vacant (run (entryStep single codecs) entry ops)) ∧
      (entry.snapshots = [] → (run (entryStep single codecs) entry ops).snapshots = []) := by
  induction ops generalizing entry with
  | nil => exact ⟨id, id⟩
  | cons op _ ih =>
    rw [List.forall_mem_cons] at steady
    obtain ⟨vacant, clear⟩ := ih steady.2 (entryStep single codecs entry op)
    exact ⟨fun holds => vacant (entryStep_vacant steady.1.2 holds),
      fun holds => clear (entryStep_unset steady.1.1 holds)⟩

theorem keeps_of_steady (steady : ops.all EntryOp.isSteady = true) :
    ∀ op ∈ ops, op ≠ .reset ∧
      ∀ handle maxMessageSize req, op ≠ .create handle maxMessageSize req := by
  intro op member
  have isSteady := List.all_eq_true.mp steady op member
  constructor
  · rintro rfl
    cases isSteady
  · rintro handle maxMessageSize req rfl
    cases isSteady

variable (single codecs) in
theorem entryOps_keeps (side : ProducerSide) (handle : Nat)
    (opens : ∀ reattach req, op ≠ .createProducer reattach req) (keeps : op ≠ .reset) :
    ∀ entryOp ∈ side.entryOps single codecs handle op, entryOp ≠ .reset ∧
      ∀ handle maxMessageSize req, entryOp ≠ .create handle maxMessageSize req := by
  have queued (named : Nat) (msg : OutgoingMessage) (uuid : String)
      (reservation publishTimeMs now : Nat) :
      ∀ entryOp ∈ onlyAt named handle [.queueSend msg uuid reservation publishTimeMs now],
        entryOp ≠ .reset ∧
          ∀ handle maxMessageSize req, entryOp ≠ .create handle maxMessageSize req := by
    unfold onlyAt
    split <;> simp
  cases steady : op.isSteady with
  | true => exact keeps_of_steady (entryOps_steady side handle steady)
  | false =>
    cases op with
    | createProducer => exact absurd rfl (opens _ _)
    | reset => exact absurd rfl keeps
    | slotQueueSend => exact queued _ _ _ _ _ _
    | send named msg uuid reservation publishTimeMs now =>
      obtain ⟨rest, restSteady, same⟩ := sendOps_steady single codecs side named handle
        msg uuid reservation publishTimeMs now
      rw [same, List.forall_mem_append]
      exact ⟨queued _ _ _ _ _ _, keeps_of_steady restSteady⟩
    | _ => cases steady

/-- An open has an id left to give, unless it takes over an abandoned one. -/
def idsLeft (side : ProducerSide) : Op → Bool
  | .createProducer reattach _ =>
    (side.reattachAbandoned reattach).isSome || decide (side.nextProducerId + 1 < 2 ^ 64)
  | _ => true

theorem createProducer_handles (side : ProducerSide) (reattach : Option Nat)
    (req : CreateProducerRequest) :
    (side.createProducer reattach req).handles = (side.takeProducerId reattach).handles :=
  rfl

section

variable (reserved : Reserved side) {reattach : Option Nat}
  (left : side.idsLeft (.createProducer reattach req) = true)

include reserved left

/-- An open takes an abandoned id, or the next one and moves the counter past it. -/
theorem createProducer_takes :
    side.handleFor reattach < (side.createProducer reattach req).nextProducerId ∧
      side.nextProducerId ≤ (side.createProducer reattach req).nextProducerId ∧
      (side.createProducer reattach req).abandoned = side.abandoned ∧
      (side.entries (side.handleFor reattach)).snapshots = [] := by
  have handles := createProducer_handles side reattach req
  simp only [ProducerSide.handles, takeProducerId] at handles
  cases taken : side.reattachAbandoned reattach with
  | some id =>
    rw [taken] at handles
    obtain ⟨next, abandoned⟩ := Prod.mk.inj handles
    have named : side.handleFor reattach = id := by simp [handleFor, taken]
    have member : id ∈ side.abandoned := by
      rw [reattachAbandoned, Option.filter_eq_some_iff] at taken
      simpa using taken.2
    obtain ⟨below, clear⟩ := reserved.abandoned id member
    rw [named, next]
    exact ⟨below, le_refl _, abandoned, clear⟩
  | none =>
    rw [taken] at handles
    obtain ⟨next, abandoned⟩ := Prod.mk.inj handles
    have room : side.nextProducerId + 1 < 2 ^ 64 := by simpa [idsLeft, taken] using left
    have named : side.handleFor reattach = side.nextProducerId := by simp [handleFor, taken]
    rw [named, next, Nat.mod_eq_of_lt room]
    exact ⟨Nat.lt_succ_self _, Nat.le_succ _, abandoned,
      (reserved.fresh side.nextProducerId (le_refl _)).2⟩

theorem Reserved.create : Reserved (side.createProducer reattach req) := by
  obtain ⟨below, grows, abandoned, clear⟩ := createProducer_takes reserved left
  have entries : Simulates default default side (side.createProducer reattach req) _ :=
    createProducer_simulates side reattach req
  have elsewhere {handle : Nat} (other : handle ≠ side.handleFor reattach) :
      (side.createProducer reattach req).entries handle = side.entries handle := by
    rw [entries handle]
    simp only [entryOps, onlyAt, if_neg other]
    rfl
  have there : ((side.createProducer reattach req).entries (side.handleFor reattach)).snapshots =
      (side.entries (side.handleFor reattach)).snapshots := by
    rw [entries]
    simp only [entryOps, onlyAt, if_pos]
    rfl
  constructor
  · intro handle above
    rw [elsewhere (by omega)]
    exact reserved.fresh handle (by omega)
  · intro handle member
    rw [abandoned] at member
    obtain ⟨old, unset⟩ := reserved.abandoned handle member
    refine ⟨by omega, ?_⟩
    by_cases same : handle = side.handleFor reattach
    · rw [same, there, clear]
    · rw [elsewhere same, unset]

end

theorem cancelProducerOpen_handles (side : ProducerSide) (handle : Nat) :
    (side.cancelProducerOpen handle).nextProducerId = side.nextProducerId ∧
      ∀ other ∈ (side.cancelProducerOpen handle).abandoned, other ∈ side.abandoned ∨
        other = handle ∧ (side.entries handle).slot.isSome = true := by
  have forgotten (base : ProducerSide) (requestIds : List Nat) :
      KeepsHandles (fun _ => True) base (requestIds.foldl forgetRequest base) :=
    .foldl KeepsHandles.forgetRequest requestIds base
  have next (base : ProducerSide) (requestIds : List Nat) :
      (requestIds.foldl forgetRequest base).nextProducerId = base.nextProducerId :=
    congrArg Prod.fst (forgotten base requestIds).handles
  have abandoned (base : ProducerSide) (requestIds : List Nat) :
      (requestIds.foldl forgetRequest base).abandoned = base.abandoned :=
    congrArg Prod.snd (forgotten base requestIds).handles
  unfold cancelProducerOpen
  dsimp only [modifyEntry]
  rw [next, abandoned]
  split
  case isTrue held =>
    have filled : (side.entries handle).slot.isSome = true := by
      rw [brokerMayHoldRegistration, Option.any_eq_true] at held
      obtain ⟨record, found, -⟩ := held
      rw [found]
      rfl
    unfold rememberAbandoned
    split
    · refine ⟨rfl, ?_⟩
      intro other member
      rcases List.mem_cons.mp member with same | old
      · exact .inr ⟨same, filled⟩
      · exact .inl old
    · exact ⟨rfl, fun other member => .inl member⟩
  case isFalse => exact ⟨rfl, fun other member => .inl member⟩

theorem Reserved.cancel (reserved : Reserved side) (handle : Nat) :
    Reserved (side.cancelProducerOpen handle) := by
  obtain ⟨next, abandoned⟩ := cancelProducerOpen_handles side handle
  have entries : Simulates default default side (side.cancelProducerOpen handle) _ :=
    cancelProducerOpen_simulates side handle
  have steady (other : Nat) : ∀ op ∈ onlyAt handle other [.cancelOpen], _ :=
    keeps_of_steady (onlyAt_all rfl)
  constructor
  · intro other above
    rw [next] at above
    rw [entries other]
    exact (run_reserved _ _ (steady other) _).1 (reserved.fresh other above)
  · intro other member
    rw [next, entries other]
    rcases abandoned other member with old | ⟨rfl, filled⟩
    · obtain ⟨below, clear⟩ := reserved.abandoned other old
      exact ⟨below, (run_reserved _ _ (steady other) _).2 clear⟩
    · constructor
      · by_contra above
        rw [(reserved.fresh other (by omega)).1] at filled
        cases filled
      · rw [onlyAt, if_pos rfl]
        rfl

theorem Reserved.step (reserved : Reserved side)
    (left : side.idsLeft op = true) : Reserved (side.step single codecs op) := by
  by_cases creates : ∃ reattach req, op = .createProducer reattach req
  · obtain ⟨reattach, req, rfl⟩ := creates
    exact reserved.create left
  by_cases cancels : ∃ handle, op = .cancelProducerOpen handle
  · obtain ⟨handle, rfl⟩ := cancels
    exact reserved.cancel handle
  by_cases resets : op = .reset
  · subst resets
    refine ⟨?_, by simp [ProducerSide.step, ProducerSide.reset, mapEntries]⟩
    intro handle above
    have vacant : Vacant (entryStep single codecs (side.entries handle) .reset) :=
      entryStep_vacant (by simp) (reserved.fresh handle above)
    exact vacant
  have opens : ∀ reattach req, op ≠ .createProducer reattach req :=
    fun reattach req same => creates ⟨reattach, req, same⟩
  have handles := step_handles single codecs side opens
    (fun handle same => cancels ⟨handle, same⟩) resets
  obtain ⟨next, abandoned⟩ := Prod.mk.inj handles
  have steady (handle : Nat) := run_reserved single codecs
    (entryOps_keeps single codecs side handle opens resets) (side.entries handle)
  constructor
  · intro handle above
    rw [step_simulates side op handle]
    exact (steady handle).1 (reserved.fresh handle (next ▸ above))
  · intro handle member
    rw [abandoned] at member
    rw [next, step_simulates side op handle]
    obtain ⟨below, clear⟩ := reserved.abandoned handle member
    exact ⟨below, (steady handle).2 clear⟩

/-! ### Runs whose counters do not wrap -/

/-- A send under `handle` has a sequence id to take and one left after it. -/
def sequenceLeft (handle : Nat) (side : ProducerSide) : Op → Bool
  | .slotQueueSend named _ _ _ _ _ | .send named _ _ _ _ _ =>
    named != handle || (side.entries handle).slot.all fun record =>
      record.state.nextSequenceId + 1 < 2 ^ 64
  | _ => true

/-- Neither the counter of producer ids nor the counter of sequence ids under `handle` wraps. -/
def countersFit (handle : Nat) (side : ProducerSide) (op : Op) : Bool :=
  side.idsLeft op && side.sequenceLeft handle op

theorem unwrapped_of_steady {op : EntryOp} (steady : op.isSteady = true) :
    unwrapped entry op = true := by
  cases op <;> first | rfl | cases steady

theorem guarded_of_steady (steady : ops.all EntryOp.isSteady = true) (entry : ProducerEntry) :
    Guarded (entryStep single codecs) (fun entry op => unwrapped entry op = true) entry ops := by
  induction ops generalizing entry with
  | nil => trivial
  | cons _ _ ih =>
    rw [List.all_cons, Bool.and_eq_true] at steady
    exact ⟨unwrapped_of_steady steady.1, ih steady.2 _⟩

theorem guardedAt_unwrapped (reserved : Reserved side) (fits : side.countersFit handle op = true) :
    GuardedAt single codecs (fun entry op => unwrapped entry op = true) handle side op := by
  rw [countersFit, Bool.and_eq_true] at fits
  obtain ⟨left, room⟩ := fits
  -- A message for another handle leaves this entry alone.
  have queued (named : Nat) (msg : OutgoingMessage) (uuid : String)
      (reservation publishTimeMs now : Nat)
      (room : (named != handle || (side.entries handle).slot.all fun record =>
        record.state.nextSequenceId + 1 < 2 ^ 64) = true) :
      Guarded (entryStep single codecs) (fun entry op => unwrapped entry op = true)
        (side.entries handle)
        (onlyAt named handle [.queueSend msg uuid reservation publishTimeMs now]) := by
    unfold onlyAt
    split
    case isTrue same =>
      subst same
      simp only [bne_self_eq_false, Bool.false_or] at room
      exact ⟨room, trivial⟩
    case isFalse => trivial
  unfold GuardedAt
  cases steady : op.isSteady with
  | true => exact guarded_of_steady (entryOps_steady side handle steady) _
  | false =>
    cases op with
    | createProducer =>
      obtain ⟨-, -, -, clear⟩ := createProducer_takes reserved left
      simp only [entryOps, onlyAt]
      split
      case isTrue same =>
        subst same
        refine ⟨?_, rfl, trivial⟩
        change (side.entries _).snapshots.isEmpty = true
        rw [clear]
        rfl
      case isFalse => trivial
    | reset => exact ⟨rfl, trivial⟩
    | slotQueueSend => exact queued _ _ _ _ _ _ room
    | send named msg uuid reservation publishTimeMs now =>
      obtain ⟨rest, restSteady, same⟩ := sendOps_steady single codecs side named handle msg uuid
        reservation publishTimeMs now
      rw [same, Guarded.append]
      exact ⟨queued named msg uuid reservation publishTimeMs now room,
        guarded_of_steady restSteady _⟩
    | _ => cases steady

def start (config : ProducerConfig) : ProducerSide :=
  { config }

theorem start_reserved (config : ProducerConfig) : Reserved (start config) :=
  ⟨fun _ _ => ⟨rfl, rfl⟩, by simp [start]⟩

section

variable (reserved : Reserved side) {ops : List Op}
  (fits : Guarded (step single codecs) (fun side op => side.countersFit handle op = true) side ops)

include reserved fits

theorem guarded_unwrapped :
    Guarded (step single codecs)
      (GuardedAt single codecs (fun entry op => unwrapped entry op = true) handle) side ops := by
  induction ops generalizing side with
  | nil => trivial
  | cons op _ ih =>
    obtain ⟨fit, remaining⟩ := fits
    have left : side.idsLeft op = true := by
      rw [countersFit, Bool.and_eq_true] at fit
      exact fit.1
    exact ⟨guardedAt_unwrapped reserved fit, ih (reserved.step left) remaining⟩

theorem run_keeps_reserved : Reserved (run (step single codecs) side ops) := by
  refine run_invariant Reserved ?_ reserved fits
  intro side op reserved fit
  rw [countersFit, Bool.and_eq_true] at fit
  exact reserved.step fit.1

/-- The invariant rule for runs whose counters do not wrap. -/
theorem run_unwrapped_invariant (invariant : ProducerEntry → Prop)
    (preserved : ∀ entry op, invariant entry → unwrapped entry op = true →
      invariant (entryStep single codecs entry op)) (initial : invariant (side.entries handle)) :
    invariant ((run (step single codecs) side ops).entries handle) :=
  run_entry_invariant (guarded_unwrapped reserved fits) invariant preserved initial

/-- The same with a further guard on the operations under the handle. -/
theorem run_guarded_invariant {guard : ProducerEntry → EntryOp → Prop}
    (invariant : ProducerEntry → Prop)
    (preserved : ∀ entry op, invariant entry → unwrapped entry op = true → guard entry op →
      invariant (entryStep single codecs entry op)) (initial : invariant (side.entries handle))
    (guarded : Guarded (step single codecs) (GuardedAt single codecs guard handle) side ops) :
    invariant ((run (step single codecs) side ops).entries handle) := by
  have regular := guarded_entryTrace (guarded_unwrapped reserved fits)
  rw [run_entries]
  exact run_invariant invariant
    (fun entry op holds meets => preserved entry op holds meets.1 meets.2) initial
    (regular.and (guarded_entryTrace guarded))

end

/-! ### Small runs -/

def plainOpen : CreateProducerRequest where
  producerName := some "p"
  initialSequenceId := none
  compression := .none
  enableBatching := false
  enableChunking := false
  maxBatchSizeBytes := 128 * 1024
  maxMessagesInBatch := 2
  sendTimeout := none
  batchingMaxPublishDelay := none

def plainMessage (payload : Bytes) : OutgoingMessage where
  payload := payload
  metadata := {}
  uncompressedSize := 0
  numMessages := 1
  txnId := none
  sourceMessageId := none

def opening (req : CreateProducerRequest) (lastSequenceId : Option Int) : List Op :=
  [.createProducer none req, .frame 0 (.connected none),
    .frame 0 (.producerSuccess 0 "p" lastSequenceId)]

def sending (payload : Bytes) : Op :=
  .send 0 (plainMessage payload) "u" 0 0 0

end ProducerSide

end Magnetar.Proto.Connection
