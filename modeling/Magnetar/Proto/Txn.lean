import Magnetar.Proto.Consumer.Acking

/-!
Contract: the client of the transaction coordinator (`txn.rs`).

Owns: the transactions it tracks, the coordinator requests in flight, and what each response does to
both.

Does not own: the wakers of a request, which the connection holds, and the commands themselves.
-/

namespace Magnetar.Proto.Txn

open Library
open Consumer (TxnId)

inductive TxnState where
  | opened
  | committing
  | committed
  | aborting
  | aborted
  | errored
  deriving DecidableEq, Repr

inductive TxnAction where
  | commit
  | abort
  deriving DecidableEq, Repr

inductive TxnError where
  | alreadyEnding (txnId : TxnId) (action : TxnAction)
  | conflict
  | notFound
  | timeout
  | aborted
  | broker (code : Int) (message : String)
  deriving DecidableEq, Repr

/-- `TxnError::from_broker`: the four transaction codes have a name, every other one is kept. -/
def TxnError.fromBroker (code : Int) (message : String) : TxnError :=
  if code = 23 then .conflict
  else if code = 24 || code = 20 then .notFound
  else if code = 21 then .aborted
  else .broker code message

structure TransactionMetadata where
  id : TxnId
  state : TxnState := .opened
  coordinatorId : Nat
  producedTopics : List String := []
  ackedSubscriptions : List (String × String) := []
  deriving DecidableEq, Repr

structure PendingAddPartition where
  txn : TxnId
  topic : String
  deriving DecidableEq, Repr

structure PendingAddSubscription where
  txn : TxnId
  subscription : String
  topic : String
  deriving DecidableEq, Repr

structure PendingEndTxn where
  txn : TxnId
  action : TxnAction
  deriving DecidableEq, Repr

/-- The error a coordinator response carries, if any. -/
structure TxnReply where
  error : Option Int := none
  message : Option String := none
  deriving DecidableEq, Repr

def TxnReply.failure (reply : TxnReply) : Option TxnError :=
  reply.error.map fun code => TxnError.fromBroker code (reply.message.getD "")

structure TxnClient where
  coordinatorId : Nat := 0
  newTxnByRequest : Table Nat Unit := ∅
  addPartitionByRequest : Table Nat PendingAddPartition := ∅
  addSubscriptionByRequest : Table Nat PendingAddSubscription := ∅
  endTxnByRequest : Table Nat PendingEndTxn := ∅
  transactions : Table TxnId TransactionMetadata := ∅

variable (client : TxnClient)

variable (requestId : Nat)

namespace TxnClient

variable (txn : TxnId) (reply : TxnReply)

def setState (state : TxnState) : TxnClient :=
  { client with
    transactions := client.transactions.modify txn fun metadata => { metadata with state := state } }

def newTxn : TxnClient :=
  { client with newTxnByRequest := client.newTxnByRequest.insert requestId () }

def addPartition (topic : String) : TxnClient :=
  { client with
    addPartitionByRequest := client.addPartitionByRequest.insert requestId { txn, topic } }

def addSubscription (subscription topic : String) : TxnClient :=
  { client with
    addSubscriptionByRequest :=
      client.addSubscriptionByRequest.insert requestId { txn, subscription, topic } }

def endTxn (action : TxnAction) : TxnClient :=
  { client with
    endTxnByRequest := client.endTxnByRequest.insert requestId { txn, action } }.setState txn
      (match action with
      | .commit => .committing
      | .abort => .aborting)

/-- A transaction is recorded when the coordinator has opened it.  `none` for a request that is not
in flight, whose response is dropped. -/
def handleNewTxnResponse (txnId : TxnId) : TxnClient × Option (Except TxnError TxnId) :=
  match client.newTxnByRequest.lookup requestId with
  | none => (client, none)
  | some _ =>
    let client := { client with newTxnByRequest := client.newTxnByRequest.erase requestId }
    match reply.failure with
    | some failure => (client, some (.error failure))
    | none =>
      ({ client with
          transactions := client.transactions.insert txnId
            { id := txnId, coordinatorId := client.coordinatorId } },
        some (.ok txnId))

/-- A response to a request that is not in flight counts as a success. -/
def handleAddPartitionResponse : TxnClient × Except TxnError Unit :=
  match client.addPartitionByRequest.lookup requestId with
  | none => (client, .ok ())
  | some pending =>
    let client :=
      { client with addPartitionByRequest := client.addPartitionByRequest.erase requestId }
    match reply.failure with
    | some failure => (client.setState pending.txn .errored, .error failure)
    | none =>
      ({ client with
          transactions := client.transactions.modify pending.txn fun metadata =>
            { metadata with
              producedTopics := metadata.producedTopics.insert pending.topic } },
        .ok ())

def handleAddSubscriptionResponse : TxnClient × Except TxnError Unit :=
  match client.addSubscriptionByRequest.lookup requestId with
  | none => (client, .ok ())
  | some pending =>
    let client :=
      { client with addSubscriptionByRequest := client.addSubscriptionByRequest.erase requestId }
    match reply.failure with
    | some failure => (client.setState pending.txn .errored, .error failure)
    | none =>
      ({ client with
          transactions := client.transactions.modify pending.txn fun metadata =>
            { metadata with
              ackedSubscriptions :=
                metadata.ackedSubscriptions ++ [(pending.subscription, pending.topic)] } },
        .ok ())

/-- A response to a request that is not in flight invents an errored transaction. -/
def handleEndTxnResponse : TxnClient × Except TxnError TxnState :=
  match client.endTxnByRequest.lookup requestId with
  | none => (client, .ok .errored)
  | some pending =>
    let client := { client with endTxnByRequest := client.endTxnByRequest.erase requestId }
    match reply.failure with
    | some failure => (client.setState pending.txn .errored, .error failure)
    | none =>
      let final : TxnState :=
        match pending.action with
        | .commit => .committed
        | .abort => .aborted
      (client.setState pending.txn final, .ok final)

def forget : TxnClient :=
  { client with transactions := client.transactions.erase txn }

end TxnClient

end Magnetar.Proto.Txn
