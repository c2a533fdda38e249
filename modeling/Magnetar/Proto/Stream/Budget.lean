import Magnetar.Library.Machine
import Magnetar.Proto.Stream.Receive

/-!
Contract: the receive budget of an aggregate stream consumer (`ReceiverBudgetState`).

Owns: the ledger of data reservations and its calls, and what every sequence of calls keeps: the
bytes in use are those of the live reservations, they stay within the data limit, the headroom for
delivery authority is never lent to payload, no id is given out twice, and a refused call changes
nothing.

Does not own: which child holds which reservation.
-/

namespace Magnetar.Proto.Stream

open Library Library.Machine Framing

def controlPlaneCleanupReserve : Nat := 64 * 1024

def minRetainedMessageReservation : Nat := 64

def deliveryAuthorityOverhead : Nat := 64

def deliveryAckGenerationOverhead : Nat := 8

def positionComponentNodeOverhead : Nat := 256

def maxPositionComponents : Nat := 4096

def maxStreamPositionSize : Nat := 1024 * 1024

def receiverBudgetAuthorityHeadroom : Nat :=
  5 * maxStreamPositionSize + 3 * maxPositionComponents * positionComponentNodeOverhead +
    2 * deliveryAuthorityOverhead + deliveryAckGenerationOverhead

/-- `usize::MAX` and `u64::MAX`. -/
def wordMax : Nat := 2 ^ 64 - 1

def saturatingAdd (left right : Nat) : Nat := min (left + right) wordMax

inductive BudgetUse where
  | flowPermit | retainedMessage | chunkAssembly | decompression | batchAssembly | orderingBarrier
  | deliveryLease | deliveredPositionMetadata | retiringChild
  deriving DecidableEq

inductive BudgetError where
  | budgetTooSmall (bytes minimum : Nat)
  | exhausted (requested available : Nat)
  | messageTooLargeForBudget (required limit : Nat)
  | preallocationExceeded (required reserved : Nat)
  | controlReserveExhausted (requested available : Nat)
  | unknownReservation (reservation : BudgetReservationId)
  | reservationUseMismatch (reservation : BudgetReservationId) (actual expected : BudgetUse)
  | reservationOwnerMismatch (reservation : BudgetReservationId)
      (actual : Option BudgetReservationOwner) (expected : BudgetReservationOwner)
  | reservationIdExhausted
  deriving DecidableEq

/-- The least total that `ReceiverBudget::bytes` accepts. -/
def minimumBudget : Nat :=
  saturatingAdd (saturatingAdd maxFrameSize receiverBudgetAuthorityHeadroom)
    controlPlaneCleanupReserve

/-- A total that the constructor has accepted. -/
structure ReceiverBudget where
  limit : Nat
  accepted : minimumBudget ≤ limit
  representable : limit ≤ wordMax

def ReceiverBudget.bytes (total : Nat) (representable : total ≤ wordMax) :
    Except BudgetError ReceiverBudget :=
  if accepted : minimumBudget ≤ total then .ok { limit := total, accepted, representable }
  else .error (.budgetTooSmall total minimumBudget)

def ReceiverBudget.dataLimit (budget : ReceiverBudget) : Nat :=
  budget.limit - controlPlaneCleanupReserve

structure DataReservation where
  use : BudgetUse
  bytes : Nat
  authorityBytes : Nat
  owner : Option BudgetReservationOwner
  deriving DecidableEq

structure ReceiverBudgetState where
  budget : ReceiverBudget
  dataUsed : Nat := 0
  controlUsed : Nat := 0
  nextId : Nat := 0
  reservations : Table BudgetReservationId DataReservation := ∅

/-- The answer of a call and the ledger it leaves, which a refused call leaves too. -/
abbrev Answer (α : Type) := Except BudgetError α × ReceiverBudgetState

namespace ReceiverBudgetState

variable (state : ReceiverBudgetState)

def dataAvailable : Nat :=
  state.budget.dataLimit - state.dataUsed

def authorityUsed : Nat :=
  state.reservations.entries.foldl (fun used entry => saturatingAdd used entry.2.authorityBytes) 0

variable (reservation : BudgetReservationId) (owner : BudgetReservationOwner)
  (expected use : BudgetUse) (bytes : Nat)

/-- A retained message is charged for its queue node at least. -/
def charge : Nat :=
  if use = .retainedMessage then max bytes minRetainedMessageReservation else bytes

/-- Position metadata is authority as a whole, and nothing else is unless the caller says so. -/
def defaultAuthority : Nat :=
  if use = .deliveredPositionMetadata then bytes else 0

def effectiveLimit (authorityBytes : Nat) : Nat :=
  state.budget.dataLimit - (receiverBudgetAuthorityHeadroom - authorityBytes)

def reserveInner (owner : Option BudgetReservationOwner) : Answer BudgetReservationId :=
  let bytes := charge use bytes
  let authorityBytes := defaultAuthority use bytes
  let available := state.dataAvailable -
    (receiverBudgetAuthorityHeadroom - saturatingAdd state.authorityUsed authorityBytes)
  if bytes > state.budget.dataLimit then
    (.error (.messageTooLargeForBudget bytes state.budget.dataLimit), state)
  else if bytes > state.effectiveLimit authorityBytes then
    (.error (.messageTooLargeForBudget bytes (state.effectiveLimit authorityBytes)), state)
  else if bytes > available then (.error (.exhausted bytes available), state)
  else if state.nextId = wordMax then (.error .reservationIdExhausted, state)
  else
    (.ok state.nextId,
      { state with
        nextId := state.nextId + 1
        dataUsed := state.dataUsed + bytes
        reservations :=
          state.reservations.insert state.nextId { use, bytes, authorityBytes, owner } })

def reserve : Answer BudgetReservationId :=
  state.reserveInner use bytes none

def reserveOwned : Answer BudgetReservationId :=
  state.reserveInner use bytes (some owner)

def reserveFlow : Answer BudgetReservationId :=
  let flowAvailable :=
    state.dataAvailable - (receiverBudgetAuthorityHeadroom - state.authorityUsed)
  if maxFrameSize > flowAvailable then (.error (.exhausted maxFrameSize flowAvailable), state)
  else state.reserve .flowPermit maxFrameSize

/-- Resize a reservation in place, which keeps its owner. -/
def transferInner (newUse : BudgetUse) (bytes : Nat) (authorityBytes : Option Nat) : Answer Unit :=
  match state.reservations.lookup reservation with
  | none => (.error (.unknownReservation reservation), state)
  | some current =>
    let bytes := charge newUse bytes
    let authorityBytes := authorityBytes.getD (defaultAuthority newUse bytes)
    let authorityUsed :=
      saturatingAdd (state.authorityUsed - current.authorityBytes) authorityBytes
    let available := saturatingAdd state.dataAvailable current.bytes -
      (receiverBudgetAuthorityHeadroom - authorityUsed)
    if current.use ≠ expected then
      (.error (.reservationUseMismatch reservation current.use expected), state)
    else if bytes > state.effectiveLimit authorityBytes then
      (.error (.messageTooLargeForBudget bytes (state.effectiveLimit authorityBytes)), state)
    else if bytes > available then (.error (.exhausted bytes available), state)
    else
      (.ok (),
        { state with
          dataUsed := state.dataUsed - current.bytes + bytes
          reservations := state.reservations.insert reservation
            { use := newUse, bytes, authorityBytes, owner := current.owner } })

def transfer (newUse : BudgetUse) (bytes : Nat) : Answer Unit :=
  state.transferInner reservation expected newUse bytes none

def owned : Except BudgetError DataReservation :=
  match state.reservations.lookup reservation with
  | none => .error (.unknownReservation reservation)
  | some entry =>
    if entry.owner ≠ some owner then
      .error (.reservationOwnerMismatch reservation entry.owner owner)
    else if entry.use ≠ expected then
      .error (.reservationUseMismatch reservation entry.use expected)
    else .ok entry

/-- `transfer_owned`, or with authority bytes `transfer_owned_with_authority`. -/
def transferOwned (newUse : BudgetUse) (bytes : Nat) (authorityBytes : Option Nat) : Answer Unit :=
  match state.owned reservation owner expected with
  | .error error => (.error error, state)
  | .ok _ => state.transferInner reservation expected newUse bytes authorityBytes

def release : Answer Unit :=
  match state.reservations.lookup reservation with
  | none => (.error (.unknownReservation reservation), state)
  | some entry =>
    (.ok (),
      { state with
        dataUsed := state.dataUsed - entry.bytes
        reservations := state.reservations.erase reservation })

def reserveControl : Answer Unit :=
  let available := controlPlaneCleanupReserve - state.controlUsed
  if bytes > available then (.error (.controlReserveExhausted bytes available), state)
  else (.ok (), { state with controlUsed := state.controlUsed + bytes })

def releaseControl : ReceiverBudgetState :=
  { state with controlUsed := state.controlUsed - bytes }

/-- The reservations of an owner, in no particular order. -/
def ownedBy : List BudgetReservationId :=
  (state.reservations.entries.filter fun entry => entry.2.owner = some owner).map Sigma.fst

def releaseOwner : List BudgetReservationId × ReceiverBudgetState :=
  (state.ownedBy owner,
    (state.ownedBy owner).foldl (fun kept reservation => (kept.release reservation).2) state)

end ReceiverBudgetState

/-! ### Sequences of calls -/

inductive BudgetOp where
  | reserveFlow
  | reserve (use : BudgetUse) (bytes : Nat)
  | reserveOwned (owner : BudgetReservationOwner) (use : BudgetUse) (bytes : Nat)
  | transfer (reservation : BudgetReservationId) (expected newUse : BudgetUse) (bytes : Nat)
  | transferOwned (reservation : BudgetReservationId) (owner : BudgetReservationOwner)
      (expected newUse : BudgetUse) (bytes : Nat) (authorityBytes : Option Nat)
  | release (reservation : BudgetReservationId)
  | releaseOwner (owner : BudgetReservationOwner)
  | reserveControl (bytes : Nat)
  | releaseControl (bytes : Nat)

/-- The authority a caller names is part of what it reserves. -/
def BudgetOp.isBacked : BudgetOp → Bool
  | .transferOwned _ _ _ newUse bytes authorityBytes =>
    authorityBytes.all (· ≤ ReceiverBudgetState.charge newUse bytes)
  | _ => true

variable (reservation : BudgetReservationId)

namespace ReceiverBudgetState

/-- The same answer in other words. -/
def said {α β : Type} (answer : Answer α) (f : α → β) : Answer β :=
  (answer.1.map f, answer.2)

variable (state : ReceiverBudgetState)

/-- A call, which answers with the id it gives out if it gives out one. -/
def call : BudgetOp → Answer (Option BudgetReservationId)
  | .reserveFlow => said state.reserveFlow some
  | .reserve use bytes => said (state.reserve use bytes) some
  | .reserveOwned owner use bytes => said (state.reserveOwned owner use bytes) some
  | .transfer reservation expected newUse bytes =>
    said (state.transfer reservation expected newUse bytes) fun _ => none
  | .transferOwned reservation owner expected newUse bytes authorityBytes =>
    said (state.transferOwned reservation owner expected newUse bytes authorityBytes) fun _ => none
  | .release reservation => said (state.release reservation) fun _ => none
  | .releaseOwner owner => (.ok none, (state.releaseOwner owner).2)
  | .reserveControl bytes => said (state.reserveControl bytes) fun _ => none
  | .releaseControl bytes => (.ok none, state.releaseControl bytes)

def step (op : BudgetOp) : ReceiverBudgetState :=
  (state.call op).2

def issued (state : ReceiverBudgetState) : List BudgetOp → List BudgetReservationId
  | [] => []
  | op :: rest =>
    match (state.call op).1 with
    | .ok (some id) => id :: (state.step op).issued rest
    | _ => (state.step op).issued rest

/-! ### What every call keeps -/

theorem foldl_saturatingAdd {α : Type} (measure : α → Nat) (items : List α) (start : Nat)
    (fits : start + (items.map measure).sum ≤ wordMax) :
    items.foldl (fun used item => saturatingAdd used (measure item)) start =
      start + (items.map measure).sum := by
  induction items generalizing start with
  | nil => rfl
  | cons item rest ih =>
    rw [List.map_cons, List.sum_cons, ← Nat.add_assoc] at fits ⊢
    have first : saturatingAdd start (measure item) = start + measure item :=
      Nat.min_eq_left (by omega)
    rw [List.foldl_cons, first, ih _ fits]

def bytesReserved : Nat := Table.sumOf state.reservations (·.bytes)

def authorityReserved : Nat :=
  Table.sumOf state.reservations (·.authorityBytes)

/-- The bytes in use are those of the live reservations and stay within the limit, authority is part
of a reservation, and what is free covers the authority that may still be asked for. -/
structure Balanced (state : ReceiverBudgetState) : Prop where
  used : state.dataUsed = state.bytesReserved
  within : state.dataUsed ≤ state.budget.dataLimit
  backed : ∀ id entry, state.reservations.lookup id = some entry →
    entry.authorityBytes ≤ entry.bytes
  headroom : state.dataUsed + receiverBudgetAuthorityHeadroom ≤
    state.budget.dataLimit + state.authorityReserved
  fresh : ∀ id entry, state.reservations.lookup id = some entry → id < state.nextId

theorem headroom_le_dataLimit (budget : ReceiverBudget) :
    receiverBudgetAuthorityHeadroom ≤ budget.dataLimit := by
  have accepted := budget.accepted
  simp only [minimumBudget, saturatingAdd, wordMax, maxFrameSize, receiverBudgetAuthorityHeadroom,
    maxStreamPositionSize, maxPositionComponents, positionComponentNodeOverhead,
    deliveryAuthorityOverhead, deliveryAckGenerationOverhead, ReceiverBudget.dataLimit,
    controlPlaneCleanupReserve] at accepted ⊢
  omega

theorem balanced_new (budget : ReceiverBudget) : Balanced { budget } where
  used := rfl
  within := Nat.zero_le _
  backed := by simp
  headroom := by
    have fits := headroom_le_dataLimit budget
    dsimp only
    omega
  fresh := by simp

namespace Balanced

variable {state : ReceiverBudgetState}

section

variable (balanced : Balanced state)

include balanced

theorem authority_le : state.authorityReserved ≤ state.dataUsed := by
  rw [balanced.used]
  exact Table.sumOf_le_sumOf _ balanced.backed

theorem authorityUsed_eq : state.authorityUsed = state.authorityReserved := by
  have part := balanced.authority_le
  have within := balanced.within
  have representable := state.budget.representable
  unfold ReceiverBudget.dataLimit at within
  have fits : 0 + state.authorityReserved ≤ wordMax := by omega
  have sum := foldl_saturatingAdd (fun entry : (_ : Nat) × DataReservation =>
    entry.2.authorityBytes) state.reservations.entries 0 fits
  exact sum.trans (Nat.zero_add _)

/-- A reservation is written, in place of one or under a new id. -/
theorem put {id nextId : Nat} (entry : DataReservation)
    (issued : id < nextId) (later : state.nextId ≤ nextId)
    (backed : entry.authorityBytes ≤ entry.bytes)
    (within : state.dataUsed + entry.bytes ≤ state.budget.dataLimit +
      ((state.reservations.lookup id).map (·.bytes)).getD 0)
    (headroom : state.dataUsed + entry.bytes + receiverBudgetAuthorityHeadroom +
        ((state.reservations.lookup id).map (·.authorityBytes)).getD 0 ≤
      state.budget.dataLimit + ((state.reservations.lookup id).map (·.bytes)).getD 0 +
        state.authorityReserved + entry.authorityBytes) :
    Balanced { state with
      nextId
      dataUsed :=
        state.dataUsed - ((state.reservations.lookup id).map (·.bytes)).getD 0 + entry.bytes
      reservations := state.reservations.insert id entry } := by
  have used := balanced.used
  have bytes := Table.sumOf_insert state.reservations (·.bytes) id entry
  have rest := Table.sumOf_erase state.reservations (·.bytes) id
  have authority := Table.sumOf_insert state.reservations (·.authorityBytes) id entry
  simp only [bytesReserved, authorityReserved] at used headroom
  refine ⟨?_, ?_, ?_, ?_, ?_⟩ <;> simp only [bytesReserved, authorityReserved]
  · omega
  · omega
  · intro other found there
    by_cases same : other = id
    · subst same
      rw [AList.lookup_insert] at there
      cases there
      exact backed
    · rw [AList.lookup_insert_ne same] at there
      exact balanced.backed other found there
  · omega
  · intro other found there
    by_cases same : other = id
    · exact same ▸ issued
    · rw [AList.lookup_insert_ne same] at there
      exact Nat.lt_of_lt_of_le (balanced.fresh other found there) later

theorem erase {id : Nat} {entry : DataReservation}
    (found : state.reservations.lookup id = some entry) :
    Balanced { state with
      dataUsed := state.dataUsed - entry.bytes
      reservations := state.reservations.erase id } := by
  have used := balanced.used
  have within := balanced.within
  have headroom := balanced.headroom
  have part := balanced.backed id entry found
  have bytes := Table.sumOf_erase state.reservations (·.bytes) id
  have authority := Table.sumOf_erase state.reservations (·.authorityBytes) id
  simp only [found, Option.map_some, Option.getD_some] at bytes authority
  simp only [bytesReserved, authorityReserved] at used headroom
  have kept : ∀ other value, (state.reservations.erase id).lookup other = some value →
      state.reservations.lookup other = some value := by
    intro other value there
    by_cases same : other = id
    · rw [same, AList.lookup_erase] at there
      cases there
    · rwa [AList.lookup_erase_ne same] at there
  refine ⟨?_, ?_, ?_, ?_, ?_⟩ <;> simp only [bytesReserved, authorityReserved]
  · omega
  · omega
  · exact fun other value there => balanced.backed other value (kept other value there)
  · omega
  · exact fun other value there => balanced.fresh other value (kept other value there)

end

end Balanced

/-- A refused call changes nothing, no call loses the balance, moves the limit or takes back an id,
and an id is given out only by counting past it. -/
structure Sound (state : ReceiverBudgetState) (answer : Answer (Option BudgetReservationId)) :
    Prop where
  refused : ∀ error, answer.1 = .error error → answer.2 = state
  balanced : Balanced state → Balanced answer.2
  budget : answer.2.budget = state.budget
  later : state.nextId ≤ answer.2.nextId
  counted : ∀ id, answer.1 = .ok (some id) → id = state.nextId ∧ answer.2.nextId = id + 1

theorem Sound.of_error {state : ReceiverBudgetState} (error : BudgetError) :
    Sound state (.error error, state) :=
  ⟨fun _ _ => rfl, id, rfl, Nat.le_refl _, nofun⟩

variable (state : ReceiverBudgetState)

theorem defaultAuthority_le (use : BudgetUse) (bytes : Nat) :
    defaultAuthority use bytes ≤ bytes := by
  unfold defaultAuthority
  split <;> omega

theorem reserveInner_sound (use : BudgetUse) (bytes : Nat) (owner : Option BudgetReservationOwner) :
    Sound state (said (state.reserveInner use bytes owner) some) := by
  simp only [reserveInner]
  split_ifs with tooLarge overLimit noRoom usedUp
  · exact .of_error _
  · exact .of_error _
  · exact .of_error _
  · exact .of_error _
  refine ⟨nofun, fun balanced => ?_, rfl, Nat.le_succ _, ?_⟩
  · have absent : state.reservations.lookup state.nextId = none := by
      cases found : state.reservations.lookup state.nextId with
      | none => rfl
      | some entry => exact absurd (balanced.fresh _ _ found) (Nat.lt_irrefl _)
    have within := balanced.within
    have headroom := balanced.headroom
    rw [balanced.authorityUsed_eq, dataAvailable, saturatingAdd] at noRoom
    have written := balanced.put
      ⟨use, charge use bytes, defaultAuthority use (charge use bytes), owner⟩
      (Nat.lt_succ_self state.nextId) (Nat.le_succ _) (defaultAuthority_le _ _)
    simp only [absent, Option.map_none, Option.getD_none] at written
    exact written (by omega) (by omega)
  · intro id given
    cases given
    exact ⟨rfl, rfl⟩

theorem reserveFlow_sound : Sound state (said state.reserveFlow some) := by
  simp only [reserveFlow]
  split_ifs
  · exact .of_error _
  · exact state.reserveInner_sound .flowPermit maxFrameSize none

theorem transferInner_sound (expected newUse : BudgetUse)
    (bytes : Nat) (authorityBytes : Option Nat)
    (backed : authorityBytes.all (· ≤ charge newUse bytes)) :
    Sound state (said (state.transferInner reservation expected newUse bytes authorityBytes)
      fun _ => none) := by
  unfold transferInner
  split
  · exact .of_error _
  case _ current found =>
    dsimp only
    split_ifs with otherUse overLimit noRoom
    · exact .of_error _
    · exact .of_error _
    · exact .of_error _
    refine ⟨nofun, fun balanced => ?_, rfl, Nat.le_refl _, nofun⟩
    have authority : authorityBytes.getD (defaultAuthority newUse (charge newUse bytes)) ≤
        charge newUse bytes := by
      cases authorityBytes with
      | none => exact defaultAuthority_le _ _
      | some amount => simpa using backed
    have within := balanced.within
    have headroom := balanced.headroom
    have part := balanced.backed reservation current found
    have held := Table.sumOf_erase state.reservations (·.authorityBytes) reservation
    rw [balanced.authorityUsed_eq, dataAvailable, saturatingAdd, saturatingAdd] at noRoom
    have written := balanced.put
      ⟨newUse, charge newUse bytes,
        authorityBytes.getD (defaultAuthority newUse (charge newUse bytes)), current.owner⟩
      (balanced.fresh reservation current found) (Nat.le_refl _) authority
    simp only [found, Option.map_some, Option.getD_some] at written held
    simp only [authorityReserved] at written noRoom headroom
    generalize receiverBudgetAuthorityHeadroom = needed at written noRoom headroom
    generalize state.budget.dataLimit = limit at written noRoom headroom within
    exact written (by omega) (by omega)

theorem transferOwned_sound (owner : BudgetReservationOwner)
    (expected newUse : BudgetUse) (bytes : Nat) (authorityBytes : Option Nat)
    (backed : authorityBytes.all (· ≤ charge newUse bytes)) :
    Sound state (said (state.transferOwned reservation owner expected newUse bytes authorityBytes)
      fun _ => none) := by
  unfold transferOwned
  split
  · exact .of_error _
  · exact state.transferInner_sound _ _ _ _ _ backed

theorem release_sound : Sound state (said (state.release reservation) fun _ => none) := by
  unfold release
  split
  · exact .of_error _
  case _ entry found =>
    exact ⟨nofun, fun balanced => balanced.erase found, rfl, Nat.le_refl _, nofun⟩

/-- `release_owner` never fails, so only what a release keeps is carried along the fold. -/
theorem releaseOwner_sound (owner : BudgetReservationOwner) :
    Sound state (.ok none, (state.releaseOwner owner).2) := by
  unfold releaseOwner
  generalize state.ownedBy owner = ids
  induction ids generalizing state with
  | nil => exact ⟨nofun, id, rfl, Nat.le_refl _, nofun⟩
  | cons reservation rest ih =>
    have first := state.release_sound reservation
    have others := ih (state.release reservation).2
    exact ⟨nofun, fun balanced => others.balanced (first.balanced balanced),
      others.budget.trans first.budget, first.later.trans others.later, nofun⟩

theorem reserveControl_sound (bytes : Nat) :
    Sound state (said (state.reserveControl bytes) fun _ => none) := by
  simp only [reserveControl]
  split_ifs
  · exact .of_error _
  · exact ⟨nofun, fun balanced => { balanced with }, rfl, Nat.le_refl _, nofun⟩

theorem call_sound {op : BudgetOp} (backed : op.isBacked) : Sound state (state.call op) := by
  cases op with
  | reserveFlow => exact state.reserveFlow_sound
  | reserve use bytes => exact state.reserveInner_sound use bytes none
  | reserveOwned => exact state.reserveInner_sound _ _ (some _)
  | transfer => exact state.transferInner_sound _ _ _ _ none rfl
  | transferOwned reservation owner expected newUse bytes authorityBytes =>
    exact state.transferOwned_sound _ _ _ _ _ _ backed
  | release => exact state.release_sound _
  | releaseOwner owner => exact state.releaseOwner_sound owner
  | reserveControl bytes => exact state.reserveControl_sound bytes
  | releaseControl bytes =>
    exact ⟨nofun, fun balanced => { balanced with }, rfl, Nat.le_refl _, nofun⟩

theorem issued_increasing (ops : List BudgetOp) (backed : ∀ op ∈ ops, op.isBacked) :
    (∀ id ∈ state.issued ops, state.nextId ≤ id) ∧ (state.issued ops).Pairwise (· < ·) := by
  induction ops generalizing state with
  | nil => simp [issued]
  | cons op rest ih =>
    rw [List.forall_mem_cons] at backed
    have sound := state.call_sound backed.1
    obtain ⟨above, ordered⟩ := ih (state.step op) backed.2
    have from_here : ∀ id ∈ (state.step op).issued rest, state.nextId ≤ id :=
      fun id there => sound.later.trans (above id there)
    rw [issued]
    split
    case _ first given =>
      obtain ⟨rfl, past⟩ := sound.counted first given
      refine ⟨List.forall_mem_cons.mpr ⟨Nat.le_refl _, from_here⟩,
        List.pairwise_cons.mpr ⟨?_, ordered⟩⟩
      exact fun id there => Nat.lt_of_lt_of_le (past ▸ Nat.lt_succ_self _) (above id there)
    · exact ⟨from_here, ordered⟩

theorem run_balanced {ops : List BudgetOp} (backed : ∀ op ∈ ops, op.isBacked)
    (balanced : Balanced state) :
    Balanced (run step state ops) ∧ (run step state ops).budget = state.budget := by
  induction ops generalizing state with
  | nil => exact ⟨balanced, rfl⟩
  | cons op rest ih =>
    rw [List.forall_mem_cons] at backed
    have sound := state.call_sound backed.1
    obtain ⟨after, same⟩ := ih (state.step op) backed.2 (sound.balanced balanced)
    exact ⟨after, same.trans sound.budget⟩

/-- Whatever is called, the books balance, payload leaves the headroom for delivery authority, no id
is given out twice and a refused call changes nothing. -/
theorem budget_accounted (budget : ReceiverBudget) (ops : List BudgetOp)
    (backed : ∀ op ∈ ops, op.isBacked) :
    let state := run step { budget } ops
    state.dataUsed = state.bytesReserved ∧
      state.dataUsed ≤ budget.dataLimit ∧
      receiverBudgetAuthorityHeadroom - state.authorityUsed ≤ state.dataAvailable ∧
      (issued { budget } ops).Nodup ∧
      ∀ op error, op.isBacked → (state.call op).1 = .error error → state.step op = state := by
  intro state
  obtain ⟨balanced, same⟩ : Balanced state ∧ state.budget = budget :=
    run_balanced { budget } backed (balanced_new budget)
  have within := balanced.within
  have headroom := balanced.headroom
  refine ⟨balanced.used, same ▸ within, ?_, ?_, ?_⟩
  · rw [balanced.authorityUsed_eq, dataAvailable]
    omega
  · exact (issued_increasing { budget } ops backed).2.imp Nat.ne_of_lt
  · exact fun op error isBacked failed => (state.call_sound isBacked).refused error failed

/-- A permit becomes a retained message, that message is leased with the authority to settle it, and
another permit is given back. -/
private def deliveryOps : List BudgetOp :=
  [.reserveOwned (0, 0) .flowPermit maxFrameSize,
    .transferOwned 0 (0, 0) .flowPermit .retainedMessage 100 none,
    .transferOwned 0 (0, 0) .retainedMessage .deliveryLease 200 (some 64),
    .reserveFlow, .transfer 1 .flowPermit .flowPermit 50, .release 1]

theorem budget_accounted_for_a_delivery :
    ∃ budget : ReceiverBudget,
      let state := run step { budget } deliveryOps
      state.dataUsed = 200 ∧ state.authorityUsed = 64 ∧ issued { budget } deliveryOps = [0, 1] ∧
        state.dataUsed = state.bytesReserved ∧ state.dataUsed ≤ budget.dataLimit ∧
        receiverBudgetAuthorityHeadroom - state.authorityUsed ≤ state.dataAvailable := by
  have accounted := budget_accounted ⟨wordMax, by decide, Nat.le_refl _⟩ deliveryOps (by decide)
  exact ⟨⟨wordMax, by decide, Nat.le_refl _⟩, by decide +kernel, by decide +kernel,
    by decide +kernel, accounted.1, accounted.2.1, accounted.2.2.1⟩

end ReceiverBudgetState

end Magnetar.Proto.Stream
