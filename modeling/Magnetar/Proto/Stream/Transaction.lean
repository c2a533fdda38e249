import Mathlib.Data.Finset.Card
import Magnetar.Library.Machine
import Magnetar.Proto.Consumer.Acking
import Magnetar.Proto.Stream.Budget

/-!
Contract: the admission gate of an aggregate transaction (`AggregateTransaction`).

Owns: its calls, and that it decides once, commits only what has succeeded and admits nothing
afterwards, whatever the order of the calls.

Does not own: the end-transaction command that a decision leads to (`Txn`).
-/

namespace Magnetar.Proto.Stream

open Library Library.Machine
open Consumer (TxnId)

abbrev TransactionOperationId := Nat

inductive AggregateTransactionState where
  | opened | commitClosing | commitIssued | abortClosing | abortIssued | committed | aborted
  | unknown
  deriving DecidableEq

inductive TransactionDecision where
  | wait (pending : Nat)
  | issueCommit
  | issueAbort
  | transactionPoisoned
  deriving DecidableEq

inductive AggregateTransactionError where
  | admissionClosed (txnId : TxnId)
  | unknownOperation (operation : TransactionOperationId)
  | invalidTransition (state : AggregateTransactionState)
  | operationIdExhausted
  deriving DecidableEq

structure AggregateTransaction where
  txnId : TxnId
  state : AggregateTransactionState := .opened
  nextOperation : Nat := 0
  pending : Finset TransactionOperationId := ∅
  poisoned : Bool := false

inductive TransactionOp where
  | admitOperation
  | settle (operation : TransactionOperationId) (succeeded : Bool)
  | beginCommit
  | beginAbort
  | decision
  | finish (outcome : AggregateTransactionState)
  deriving DecidableEq

inductive TransactionAnswer where
  | admitted (operation : TransactionOperationId)
  | settled
  | decided (decision : TransactionDecision)
  | finished
  | refused (error : AggregateTransactionError)
  deriving DecidableEq

namespace AggregateTransaction

variable (txn : AggregateTransaction)

/-- The call `admit`. -/
def admitOperation : TransactionAnswer × AggregateTransaction :=
  if txn.state ≠ .opened then (.refused (.admissionClosed txn.txnId), txn)
  else if txn.nextOperation = wordMax then (.refused .operationIdExhausted, txn)
  else
    (.admitted txn.nextOperation,
      { txn with
        nextOperation := txn.nextOperation + 1
        pending := insert txn.nextOperation txn.pending })

def settle (operation : TransactionOperationId) (succeeded : Bool) :
    TransactionAnswer × AggregateTransaction :=
  if operation ∉ txn.pending then (.refused (.unknownOperation operation), txn)
  else
    (.settled,
      { txn with
        pending := txn.pending.erase operation
        poisoned := txn.poisoned || !succeeded })

/-- Readiness, judged again after every result. -/
def decision : TransactionDecision × AggregateTransaction :=
  if txn.pending ≠ ∅ then (.wait txn.pending.card, txn)
  else
    match txn.state with
    | .commitClosing =>
      if txn.poisoned then (.transactionPoisoned, txn)
      else (.issueCommit, { txn with state := .commitIssued })
    | .abortClosing => (.issueAbort, { txn with state := .abortIssued })
    | _ => (.wait 0, txn)

/-- Close admission and report readiness. -/
def closing (state : AggregateTransactionState) : TransactionAnswer × AggregateTransaction :=
  ({ txn with state }).decision.map .decided id

def beginCommit : TransactionAnswer × AggregateTransaction :=
  match txn.state with
  | .opened | .commitClosing => txn.closing .commitClosing
  | state => (.refused (.invalidTransition state), txn)

/-- A commit that a failure has poisoned may still be aborted. -/
def beginAbort : TransactionAnswer × AggregateTransaction :=
  match txn.state with
  | .opened | .abortClosing => txn.closing .abortClosing
  | .commitClosing =>
    if txn.poisoned then txn.closing .abortClosing
    else (.refused (.invalidTransition .commitClosing), txn)
  | state => (.refused (.invalidTransition state), txn)

def finish (outcome : AggregateTransactionState) : TransactionAnswer × AggregateTransaction :=
  if txn.pending = ∅ ∧ ¬(txn.state = .commitClosing ∧ txn.poisoned = true) ∧
      (txn.state = .commitIssued ∨ txn.state = .abortIssued) ∧
      (outcome = .committed ∨ outcome = .aborted ∨ outcome = .unknown) then
    (.finished, { txn with state := outcome })
  else (.refused (.invalidTransition txn.state), txn)

def call : TransactionOp → TransactionAnswer × AggregateTransaction
  | .admitOperation => txn.admitOperation
  | .settle operation succeeded => txn.settle operation succeeded
  | .beginCommit => txn.beginCommit
  | .beginAbort => txn.beginAbort
  | .decision => txn.decision.map .decided id
  | .finish outcome => txn.finish outcome

def step (op : TransactionOp) : AggregateTransaction :=
  (txn.call op).2

def history (txn : AggregateTransaction) : List TransactionOp →
    List (TransactionOp × TransactionAnswer)
  | [] => []
  | op :: rest => (op, (txn.call op).1) :: (txn.step op).history rest

end AggregateTransaction

/-- An end-transaction command is to be issued. -/
def TransactionAnswer.issues (answer : TransactionAnswer) : Prop :=
  answer = .decided .issueCommit ∨ answer = .decided .issueAbort

/-- A commit or an abort begins. -/
def begins (entry : TransactionOp × TransactionAnswer) : Prop :=
  (entry.1 = .beginCommit ∨ entry.1 = .beginAbort) ∧ ∃ decision, entry.2 = .decided decision

/-- No end-transaction command has been issued. -/
def AggregateTransactionState.undecided : AggregateTransactionState → Bool
  | .opened | .commitClosing | .abortClosing => true
  | _ => false

/-- What a call can do. -/
structure Advances (txn : AggregateTransaction) (op : TransactionOp)
    (result : TransactionAnswer × AggregateTransaction) : Prop where
  pending : ∀ id ∈ txn.pending,
    id ∈ result.2.pending ∨ ∃ succeeded, op = .settle id succeeded ∧ result.1 = .settled
  admitted : ∀ id, result.1 = .admitted id → txn.state = .opened ∧ id ∈ result.2.pending
  poisoned : txn.poisoned = true → result.2.poisoned = true
  failed : ∀ id, op = .settle id false → result.1 = .settled → result.2.poisoned = true
  closed : txn.state ≠ .opened → result.2.state ≠ .opened
  begun : begins (op, result.1) → result.2.state ≠ .opened
  final : txn.state.undecided = false → result.2.state.undecided = false
  issued : result.1.issues →
    txn.pending = ∅ ∧ txn.state.undecided = true ∧ result.2.state.undecided = false
  commits : result.1 = .decided .issueCommit → txn.poisoned = false

attribute [local simp] TransactionAnswer.issues begins AggregateTransactionState.undecided

namespace AggregateTransaction

variable {txn : AggregateTransaction} {op : TransactionOp}

theorem advances_refused (error : AggregateTransactionError) :
    Advances txn op (.refused error, txn) := by
  constructor <;> simp

section

variable {state : AggregateTransactionState} (same : state.undecided = txn.state.undecided)
  (shut : state = .opened → txn.state = .opened ∧ op = .decision)

include same shut

theorem advances_waiting {decision : TransactionDecision}
    (waits : ¬(TransactionAnswer.decided decision).issues) :
    Advances txn op (.decided decision, { txn with state }) := by
  constructor
  case begun =>
    rintro ⟨begins, -⟩ opened
    simp [(shut opened).2] at begins
  case closed => exact fun closed opened => closed (shut opened).1
  case final => exact same.trans
  all_goals simp_all

/-- Readiness is judged in the state as it is, or in one that closes admission. -/
theorem closing_advances : Advances txn op (txn.closing state) := by
  unfold closing decision
  split
  · exact advances_waiting same shut (by simp)
  split
  · split
    · exact advances_waiting same shut (by simp)
    · constructor <;> simp_all
  · constructor <;> simp_all
  · exact advances_waiting same shut (by simp)

end

theorem call_advances (txn : AggregateTransaction) (op : TransactionOp) :
    Advances txn op (txn.call op) := by
  cases op with
  | admitOperation =>
    rw [call, admitOperation]
    split_ifs
    · exact advances_refused _
    · exact advances_refused _
    · constructor <;> simp_all
  | settle operation succeeded =>
    rw [call, settle]
    split_ifs
    · constructor
      case pending =>
        intro id there
        by_cases same : id = operation
        · exact .inr ⟨succeeded, by rw [same], rfl⟩
        · exact .inl (Finset.mem_erase_of_ne_of_mem same there)
      all_goals simp_all
    · exact advances_refused _
  | beginCommit =>
    rw [call, beginCommit]
    split
    case h_3 => exact advances_refused _
    all_goals exact closing_advances (by simp_all) nofun
  | beginAbort =>
    rw [call, beginAbort]
    split
    case h_3 closing =>
      split
      · exact closing_advances (by simp [closing]) nofun
      · exact advances_refused _
    case h_4 => exact advances_refused _
    all_goals exact closing_advances (by simp_all) nofun
  | decision => exact closing_advances rfl fun opened => ⟨opened, rfl⟩
  | finish outcome =>
    rw [call, finish]
    split_ifs with valid
    · obtain ⟨-, -, -, rfl | rfl | rfl⟩ := valid <;> constructor <;> simp
    · exact advances_refused _

end AggregateTransaction

/-- The state knows of the calls before it what the next decision rests on. -/
structure Records (log : List (TransactionOp × TransactionAnswer)) (txn : AggregateTransaction) :
    Prop where
  outstanding : ∀ id, (.admitOperation, .admitted id) ∈ log →
    id ∈ txn.pending ∨ ∃ succeeded, (.settle id succeeded, .settled) ∈ log
  failed : ∀ id, (.settle id false, .settled) ∈ log → txn.poisoned = true
  begun : ∀ entry ∈ log, begins entry → txn.state ≠ .opened
  issued : ∀ entry ∈ log, entry.2.issues → txn.state.undecided = false

namespace Records

variable {log : List (TransactionOp × TransactionAnswer)} {txn after : AggregateTransaction}
  {op : TransactionOp} {answer : TransactionAnswer}

theorem step (records : Records log txn) (advances : Advances txn op (answer, after)) :
    Records (log ++ [(op, answer)]) after := by
  constructor
  · intro id there
    rw [List.mem_append, List.mem_singleton] at there
    rcases there with before | now
    · rcases records.outstanding id before with waits | ⟨succeeded, settled⟩
      · rcases advances.pending id waits with still | ⟨succeeded, rfl, rfl⟩
        · exact .inl still
        · exact .inr ⟨succeeded, by simp⟩
      · exact .inr ⟨succeeded, List.mem_append_left _ settled⟩
    · cases now
      exact .inl (advances.admitted id rfl).2
  · intro id there
    rw [List.mem_append, List.mem_singleton] at there
    rcases there with before | now
    · exact advances.poisoned (records.failed id before)
    · cases now
      exact advances.failed id rfl rfl
  · intro entry there begins
    rw [List.mem_append, List.mem_singleton] at there
    rcases there with before | rfl
    · exact advances.closed (records.begun entry before begins)
    · exact advances.begun begins
  · intro entry there issues
    rw [List.mem_append, List.mem_singleton] at there
    rcases there with before | rfl
    · exact advances.final (records.issued entry before issues)
    · exact (advances.issued issues).2.2

theorem run (records : Records log txn) (ops : List TransactionOp) :
    Records (log ++ txn.history ops) (Machine.run AggregateTransaction.step txn ops) := by
  induction ops generalizing log txn with
  | nil => rwa [AggregateTransaction.history, List.append_nil]
  | cons op rest ih =>
    have next := ih (records.step (txn.call_advances op))
    rwa [List.append_assoc] at next

end Records

/-- Whatever was called before, an end-transaction command is issued at most once and with nothing
outstanding, a commit only if everything has succeeded, and nothing is admitted once a commit or an
abort has begun or been issued. -/
theorem transaction_decides_once (txnId : TxnId) (ops : List TransactionOp) (op : TransactionOp) :
    let log := AggregateTransaction.history { txnId } ops
    let answer := ((run AggregateTransaction.step { txnId } ops).call op).1
    (answer.issues → (∀ entry ∈ log, ¬entry.2.issues) ∧
      ∀ id, (.admitOperation, .admitted id) ∈ log →
        ∃ succeeded, (.settle id succeeded, .settled) ∈ log) ∧
    (answer = .decided .issueCommit → ∀ id, (.admitOperation, .admitted id) ∈ log →
      (.settle id true, .settled) ∈ log ∧ (.settle id false, .settled) ∉ log) ∧
    ∀ id, answer = .admitted id → ∀ entry ∈ log, ¬begins entry ∧ ¬entry.2.issues := by
  intro log answer
  have fresh : Records [] ({ txnId } : AggregateTransaction) := by
    constructor <;> simp
  have records : Records log _ := fresh.run ops
  have advances := (run AggregateTransaction.step { txnId } ops).call_advances op
  have settled : answer.issues → ∀ id, (.admitOperation, .admitted id) ∈ log →
      ∃ succeeded, (.settle id succeeded, .settled) ∈ log := by
    intro issues id admitted
    rcases records.outstanding id admitted with waits | settled
    · rw [(advances.issued issues).1] at waits
      cases waits
    · exact settled
  refine ⟨fun issues => ⟨?_, settled issues⟩, ?_, ?_⟩
  · intro entry there before
    have decided := records.issued entry there before
    rw [(advances.issued issues).2.1] at decided
    cases decided
  · intro commits id admitted
    have clean := advances.commits commits
    have unfailed : (.settle id false, .settled) ∉ log := by
      intro failed
      rw [records.failed id failed] at clean
      cases clean
    obtain ⟨succeeded, there⟩ := settled (.inl commits) id admitted
    cases succeeded with
    | false => exact absurd there unfailed
    | true => exact ⟨there, unfailed⟩
  · intro id admitted entry there
    have opened := (advances.admitted id admitted).1
    refine ⟨fun begins => records.begun entry there begins opened, fun issues => ?_⟩
    have decided := records.issued entry there issues
    rw [opened] at decided
    cases decided

end Magnetar.Proto.Stream
