import Magnetar.Library.Machine
import Magnetar.Proto.Txn

/-!
Contract: the states that a transaction goes through.

Owns: the calls and replies of the coordinator's client as one run, and that a transaction only
moves forward until it is forgotten and is sent one end at most, over every run that ends it while it
is open and in which none of its requests fails once it is ended.

Does not own: who waits for an end (`Connection.Requests`).

The client writes a state without looking at the one before.  An add request that fails after the
end turns a committed transaction into an errored one, and an errored transaction is sent every end
that is asked for.
-/

namespace Magnetar.Proto.Txn

open Library Library.Machine
open Consumer (TxnId)

inductive TxnOp where
  | newTxn (requestId : Nat)
  | addPartition (requestId : Nat) (txn : TxnId) (topic : String)
  | addSubscription (requestId : Nat) (txn : TxnId) (subscription topic : String)
  | endTxn (requestId : Nat) (txn : TxnId) (action : TxnAction)
  | newTxnResponse (requestId : Nat) (reply : TxnReply) (txnId : TxnId)
  | addPartitionResponse (requestId : Nat) (reply : TxnReply)
  | addSubscriptionResponse (requestId : Nat) (reply : TxnReply)
  | endTxnResponse (requestId : Nat) (reply : TxnReply)
  | forget (txn : TxnId)

def TxnOp.ends (txn : TxnId) : TxnOp → Bool
  | .endTxn _ named _ => named == txn
  | _ => false

def TxnOp.forgets (txn : TxnId) : TxnOp → Bool
  | .forget named => named == txn
  | _ => false

/-- The state while an end is in flight. -/
def TxnAction.ending : TxnAction → TxnState
  | .commit => .committing
  | .abort => .aborting

/-- How far a transaction has come. -/
def TxnState.rank : TxnState → Nat
  | .opened => 0
  | .committing | .aborting => 1
  | .committed | .aborted | .errored => 2

namespace TxnClient

variable (client : TxnClient)

def step : TxnOp → TxnClient
  | .newTxn requestId => client.newTxn requestId
  | .addPartition requestId txn topic => client.addPartition requestId txn topic
  | .addSubscription requestId txn subscription topic =>
    client.addSubscription requestId txn subscription topic
  | .endTxn requestId txn action => client.endTxn requestId txn action
  | .newTxnResponse requestId reply txnId => (client.handleNewTxnResponse requestId reply txnId).1
  | .addPartitionResponse requestId reply => (client.handleAddPartitionResponse requestId reply).1
  | .addSubscriptionResponse requestId reply =>
    (client.handleAddSubscriptionResponse requestId reply).1
  | .endTxnResponse requestId reply => (client.handleEndTxnResponse requestId reply).1
  | .forget txn => client.forget txn

def state (txn : TxnId) : Option TxnState :=
  (client.transactions.lookup txn).map (·.state)

variable (txn : TxnId)

/-- The reply to a request about `asked` fails no transaction whose end has been sent. -/
def sparesEnd (reply : TxnReply) (asked : Option TxnId) : Bool :=
  reply.failure.isNone || asked != some txn ||
    (client.state txn).all fun state => state == .opened || state == .errored

def endInFlight : Bool :=
  client.endTxnByRequest.entries.any fun entry => entry.2.txn == txn

/-- The transaction is ended while it is open, none of its requests fails after that, and its id is
not handed out a second time while it is tracked or its end is in flight. -/
def orderly : TxnOp → Bool
  | .endTxn _ named _ => named != txn || client.state txn == some .opened
  | .newTxnResponse requestId reply named =>
    (client.newTxnByRequest.lookup requestId).isNone || reply.failure.isSome || named != txn ||
      (client.state txn).isNone && !client.endInFlight txn
  | .addPartitionResponse requestId reply =>
    client.sparesEnd txn reply ((client.addPartitionByRequest.lookup requestId).map (·.txn))
  | .addSubscriptionResponse requestId reply =>
    client.sparesEnd txn reply ((client.addSubscriptionByRequest.lookup requestId).map (·.txn))
  | _ => true

/-- One end of the transaction is in flight at most, and its state says which unless it is
forgotten. -/
structure Sane : Prop where
  ending : ∀ requestId action, client.endTxnByRequest.lookup requestId = some ⟨txn, action⟩ →
    client.state txn = none ∨ client.state txn = some action.ending
  single : ∀ one two action action', client.endTxnByRequest.lookup one = some ⟨txn, action⟩ →
    client.endTxnByRequest.lookup two = some ⟨txn, action'⟩ → one = two

end TxnClient

/-- A transaction that is tracked stays so, in the same state or in a later one. -/
def Forward : Option TxnState → Option TxnState → Prop
  | none, _ => True
  | some _, none => False
  | some before, some after => after = before ∨ before.rank < after.rank

/-! ### One operation -/

attribute [local grind cases] TxnAction

attribute [local grind] TxnAction.ending TxnState.rank Forward TxnClient.sparesEnd

section

variable {client after : TxnClient} {txn named : TxnId} {op : TxnOp}

theorem state_of_modify (txn : TxnId) {update : TransactionMetadata → TransactionMetadata}
    (modified : after.transactions = client.transactions.modify named update) :
    after.state txn = if txn = named then
        (client.transactions.lookup txn).map fun metadata => (update metadata).state
      else client.state txn := by
  unfold TxnClient.state
  rw [modified]
  split
  case isTrue here =>
    rw [here, Table.lookup_modify_self, Option.map_map]
    rfl
  case isFalse differs => rw [Table.lookup_modify_ne _ _ differs]

theorem state_of_setState (txn : TxnId) {state : TxnState} (modified : after.transactions =
      client.transactions.modify named fun metadata => { metadata with state }) :
    after.state txn = if txn = named then (client.state txn).map fun _ => state
      else client.state txn := by
  rw [state_of_modify txn modified, TxnClient.state, Option.map_map]
  rfl

theorem state_endTxn (client : TxnClient) (txn named : TxnId) (sent : Nat) (action : TxnAction) :
    (client.endTxn sent named action).state txn = if txn = named then
      (client.state txn).map fun _ => action.ending else client.state txn := by
  cases action <;> exact state_of_setState txn rfl

namespace TxnClient.Sane

variable (sane : client.Sane txn)

include sane

theorem of_same (state : after.state txn = client.state txn)
    (flying : after.endTxnByRequest = client.endTxnByRequest) :
    after.Sane txn ∧ Forward (client.state txn) (after.state txn) := by
  obtain ⟨ending, single⟩ := sane
  rw [← flying, ← state] at *
  refine ⟨⟨ending, single⟩, ?_⟩
  cases after.state txn with
  | none => trivial
  | some => exact .inl rfl

theorem of_failure {reply : TxnReply} {error : TxnError} (failed : reply.failure = some error)
    (spares : client.sparesEnd txn reply (some named) = true)
    (modified : after.transactions = client.transactions.modify named fun metadata =>
      { metadata with state := .errored })
    (flying : after.endTxnByRequest = client.endTxnByRequest) :
    after.Sane txn ∧ Forward (client.state txn) (after.state txn) := by
  obtain ⟨ending, single⟩ := sane
  have moved := state_of_setState txn modified
  cases tracked : client.state txn <;> refine ⟨⟨?_, ?_⟩, ?_⟩ <;> grind

theorem endTxn (sent : Nat) (action : TxnAction)
    (isOpen : txn = named → client.state txn = some .opened) :
    (client.endTxn sent named action).Sane txn ∧
      Forward (client.state txn) ((client.endTxn sent named action).state txn) := by
  obtain ⟨ending, single⟩ := sane
  have moved := state_endTxn client txn named sent action
  have flying : (client.endTxn sent named action).endTxnByRequest =
      client.endTxnByRequest.insert sent ⟨named, action⟩ := rfl
  cases tracked : client.state txn <;> refine ⟨⟨?_, ?_⟩, ?_⟩ <;>
    grind [AList.lookup_insert, AList.lookup_insert_ne]

theorem endTxnResponse (answered : Nat) (reply : TxnReply) :
    (client.handleEndTxnResponse answered reply).1.Sane txn ∧
      Forward (client.state txn) ((client.handleEndTxnResponse answered reply).1.state txn) := by
  obtain ⟨ending, single⟩ := id sane
  unfold TxnClient.handleEndTxnResponse
  cases found : client.endTxnByRequest.lookup answered with
  | none => exact sane.of_same rfl rfl
  | some pending =>
    obtain ⟨named, action⟩ := pending
    have answers (final : TxnState) (closed : final.rank = 2) (after : TxnClient)
        (moved : after.state txn = if txn = named then (client.state txn).map fun _ => final
          else client.state txn)
        (flying : after.endTxnByRequest = client.endTxnByRequest.erase answered) :
        after.Sane txn ∧ Forward (client.state txn) (after.state txn) := by
      cases tracked : client.state txn <;> refine ⟨⟨?_, ?_⟩, ?_⟩ <;>
        grind [AList.lookup_erase, AList.lookup_erase_ne]
    cases reply.failure with
    | some => exact answers .errored rfl _ (state_of_setState txn rfl) rfl
    | none => cases action <;> exact answers _ rfl _ (state_of_setState txn rfl) rfl

theorem forget (named : TxnId) :
    (client.forget named).Sane txn ∧
      (named ≠ txn → Forward (client.state txn) ((client.forget named).state txn)) := by
  by_cases here : named = txn
  · have gone : (client.forget named).state txn = none := by
      simp [TxnClient.forget, TxnClient.state, here]
    exact ⟨⟨fun _ _ _ => .inl gone, sane.single⟩, fun other => absurd here other⟩
  · have same : (client.forget named).state txn = client.state txn := by
      simp [TxnClient.forget, TxnClient.state, AList.lookup_erase_ne (Ne.symm here)]
    obtain ⟨still, forward⟩ := sane.of_same same rfl
    exact ⟨still, fun _ => forward⟩

theorem step (orderly : client.orderly txn op = true) :
    (client.step op).Sane txn ∧
      (op.forgets txn = false → Forward (client.state txn) ((client.step op).state txn)) := by
  suffices kept : (∀ named, op ≠ .forget named) →
      (client.step op).Sane txn ∧ Forward (client.state txn) ((client.step op).state txn) by
    cases op with
    | forget named =>
      obtain ⟨still, forward⟩ := sane.forget named
      exact ⟨still, fun other => forward (by simpa [TxnOp.forgets] using other)⟩
    | _ =>
      obtain ⟨still, forward⟩ := kept nofun
      exact ⟨still, fun _ => forward⟩
  intro remembers
  cases op with
  | newTxn | addPartition | addSubscription => exact sane.of_same rfl rfl
  | endTxn requestId named action =>
    apply sane.endTxn
    rintro rfl
    simpa [TxnClient.orderly] using orderly
  | newTxnResponse requestId reply named =>
    obtain ⟨ending, single⟩ := id sane
    simp only [TxnClient.step, TxnClient.handleNewTxnResponse]
    simp only [TxnClient.orderly] at orderly
    split
    · exact sane.of_same rfl rfl
    case h_2 found =>
      split
      · exact sane.of_same rfl rfl
      case h_2 succeeds =>
        by_cases here : named = txn
        · obtain ⟨fresh, landed⟩ : client.state txn = none ∧ client.endInFlight txn = false := by
            simpa [found, succeeds, here] using orderly
          refine ⟨⟨fun requestId action flying => ?_, single⟩, by rw [fresh]; trivial⟩
          rw [TxnClient.endInFlight, List.any_eq_false] at landed
          exact absurd (by simp) (landed _ (AList.mem_lookup_iff.mp flying))
        · refine sane.of_same ?_ rfl
          simp [TxnClient.state, AList.lookup_insert_ne (Ne.symm here)]
  | addPartitionResponse | addSubscriptionResponse =>
    simp only [TxnClient.step, TxnClient.handleAddPartitionResponse,
      TxnClient.handleAddSubscriptionResponse]
    simp only [TxnClient.orderly] at orderly
    split
    · exact sane.of_same rfl rfl
    case h_2 found =>
      rw [found] at orderly
      split
      case h_1 failed => exact sane.of_failure failed orderly rfl rfl
      case h_2 =>
        refine sane.of_same ?_ rfl
        rw [state_of_modify txn rfl]
        exact ite_self _
  | endTxnResponse requestId reply => exact sane.endTxnResponse requestId reply
  | forget named => exact absurd rfl (remembers named)

end TxnClient.Sane

/-! ### Every run -/

theorem ends_once {ops : List TxnOp} (sane : client.Sane txn)
    (orderly : Guarded TxnClient.step (fun client op => client.orderly txn op = true) client ops) :
    ops.countP (·.ends txn) ≤ 1 + ops.countP (·.forgets txn) ∧
      ∀ state, client.state txn = some state → 0 < state.rank →
        ops.countP (·.ends txn) ≤ ops.countP (·.forgets txn) := by
  induction ops generalizing client with
  | nil => simp
  | cons op rest ih =>
    obtain ⟨still, forward⟩ := sane.step orderly.1
    obtain ⟨once, never⟩ := ih still orderly.2
    cases sends : op.ends txn with
    | false =>
      cases drops : op.forgets txn with
      | true =>
        simp only [List.countP_cons, sends, drops, if_true, Bool.false_eq_true, if_false]
        exact ⟨by omega, fun _ _ _ => by omega⟩
      | false =>
        simp only [List.countP_cons, sends, drops, Bool.false_eq_true, if_false]
        refine ⟨once, fun state tracked ahead => ?_⟩
        have moved := forward drops
        cases after : (client.step op).state txn <;> grind
    | true =>
      cases op with
      | endTxn requestId named action =>
        obtain rfl : named = txn := by simpa [TxnOp.ends] using sends
        have isOpen : client.state named = some .opened := by
          simpa [TxnClient.orderly] using orderly.1
        have moved : (client.endTxn requestId named action).state named = some action.ending := by
          rw [state_endTxn, if_pos rfl, isOpen]
          rfl
        have nothing := never action.ending moved (by cases action <;> decide)
        have remembers : (TxnOp.endTxn requestId named action).forgets named = false := rfl
        simp only [List.countP_cons, sends, remembers]
        grind
      | _ => cases sends

/-- A final state stays until the transaction is forgotten. -/
theorem stays_final {ops : List TxnOp} {final : TxnState} (closed : final.rank = 2)
    (sane : client.Sane txn) (reached : client.state txn = some final)
    (orderly : Guarded TxnClient.step (fun client op => client.orderly txn op = true) client ops)
    (remembered : ∀ op ∈ ops, op.forgets txn = false) :
    (run TxnClient.step client ops).state txn = some final := by
  induction ops generalizing client with
  | nil => exact reached
  | cons op rest ih =>
    obtain ⟨here, later⟩ := List.forall_mem_cons.mp remembered
    obtain ⟨still, forward⟩ := sane.step orderly.1
    have moved := forward here
    rw [reached] at moved
    refine ih still ?_ orderly.2 later
    cases after : (client.step op).state txn with
    | none => grind
    | some next => cases next <;> grind

/-- Over every orderly run of calls and replies, a transaction that is committed, aborted or errored
stays so until it is forgotten, and no transaction is sent a second end but after it was forgotten. -/
theorem txn_moves_forward (coordinatorId : Nat) (txn : TxnId) (first second : List TxnOp)
    (orderly : Guarded TxnClient.step (fun client op => client.orderly txn op = true)
      { coordinatorId } (first ++ second)) :
    let before := run TxnClient.step { coordinatorId } first
    (∀ final ∈ [TxnState.committed, .aborted, .errored], before.state txn = some final →
      (∀ op ∈ second, op.forgets txn = false) →
      (run TxnClient.step before second).state txn = some final) ∧
    (first ++ second).countP (·.ends txn) ≤ 1 + (first ++ second).countP (·.forgets txn) := by
  intro before
  have fresh : TxnClient.Sane { coordinatorId } txn := by constructor <;> simp
  obtain ⟨early, late⟩ := Guarded.append.mp orderly
  have sane : before.Sane txn := run_invariant (·.Sane txn)
    (fun _ _ sane orderly => (sane.step orderly).1) fresh early
  refine ⟨fun final closed reached remembered => ?_, (ends_once fresh orderly).1⟩
  have last : final.rank = 2 := by
    simp only [List.mem_cons, List.not_mem_nil, or_false] at closed
    rcases closed with rfl | rfl | rfl <;> rfl
  exact stays_final last sane reached late remembered

/-- A transaction that is opened, gets a partition and is committed. -/
def committing : List TxnOp :=
  [.newTxn 0, .newTxnResponse 0 {} ⟨0, 7⟩, .addPartition 1 ⟨0, 7⟩ "t", .endTxn 2 ⟨0, 7⟩ .commit,
    .endTxnResponse 2 {}]

/-- The partition is answered late, and the transaction is forgotten. -/
def forgetting : List TxnOp :=
  [.addPartitionResponse 1 {}, .forget ⟨0, 7⟩, .endTxnResponse 2 {}]

theorem txn_moves_forward_committed :
    (run TxnClient.step {} (committing ++ [.addPartitionResponse 1 {}])).state ⟨0, 7⟩ =
        some .committed ∧
      (committing ++ forgetting).countP (·.ends ⟨0, 7⟩) ≤
        1 + (committing ++ forgetting).countP (·.forgets ⟨0, 7⟩) :=
  ⟨(txn_moves_forward 0 ⟨0, 7⟩ committing [.addPartitionResponse 1 {}] (by decide)).1 .committed
      (by decide) (by decide) (by decide),
    (txn_moves_forward 0 ⟨0, 7⟩ committing forgetting (by decide)).2⟩

/-- The partition fails late, and two more ends are sent. -/
theorem txn_moves_back :
    let failed := committing ++ [.addPartitionResponse 1 { error := some 22 }]
    let after := run TxnClient.step {} (failed ++
      [.endTxn 3 ⟨0, 7⟩ .abort, .endTxn 4 ⟨0, 7⟩ .commit])
    (run TxnClient.step {} committing).state ⟨0, 7⟩ = some .committed ∧
      (run TxnClient.step {} failed).state ⟨0, 7⟩ = some .errored ∧
      after.state ⟨0, 7⟩ = some .committing ∧
      after.endTxnByRequest.lookup 3 = some ⟨⟨0, 7⟩, .abort⟩ ∧
      after.endTxnByRequest.lookup 4 = some ⟨⟨0, 7⟩, .commit⟩ := by
  decide

end

end Magnetar.Proto.Txn
