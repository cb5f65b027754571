import StatePort.Algorithm.Table
import StatePort.Daemon.Contract

/-!
# The ledger of deployment operations

The `deployment-operations` directory of `packages/execution-host/src/execution_host/ledger.py` and
what `_handle_line` of `daemon.py` does with it. Each operation is one document, named by the
operation's id and replaced atomically, and every function holds the lock of the ledger from its
first read to its last write, so a function is one transition of the directory. A crash can stop
`interrupt_deployment_operations` between two documents.

A document that is not of the shape written here is unreadable, and no function runs on it.
-/

namespace StatePort.Daemon

structure LedgerError where
  message : PyStr

inductive DeploymentState where
  | admitted | completed | interrupted
deriving DecidableEq

def DeploymentState.name : DeploymentState → String
  | .admitted => "admitted"
  | .completed => "completed"
  | .interrupted => "interrupted"

/-- A peer whose credentials a receipt can carry, with the grant that it presents. -/
structure Requester where
  peer : Peer
  grantId : Id
  uid_mem : -1 ≤ peer.uid ∧ peer.uid ≤ 2 ^ 31
  gid_mem : -1 ≤ peer.gid ∧ peer.gid ≤ 2 ^ 31
  pid_mem : -1 ≤ peer.pid ∧ peer.pid ≤ 2 ^ 31

/-- A document of the directory. -/
structure DeploymentOperation where
  operationId : Id
  requestDigest : Digest
  operation : Operation
  deploymentId : Wire
  requester : Requester
  state : DeploymentState
  (receivedAt updatedAt : PyStr)
  receipt : Option Wire

/-- The directory: one document for each operation id. -/
abbrev DeploymentOperations := Table (α := DeploymentOperation) fun entry => entry.operationId

/-- `{"status": ..., "receipt": ...}`. -/
inductive Admission where
  | admitted
  | replay (receipt : Wire)
  | inProgress

structure AdmissionRequest where
  operationId : Id
  requestDigest : Digest
  operation : Operation
  deploymentId : Wire
  requester : Requester
  at_ : PyStr

def AdmissionRequest.entry (request : AdmissionRequest) : DeploymentOperation where
  operationId := request.operationId
  requestDigest := request.requestDigest
  operation := request.operation
  deploymentId := request.deploymentId
  requester := request.requester
  state := .admitted
  receivedAt := request.at_
  updatedAt := request.at_
  receipt := none

variable (entry : DeploymentOperation)

/-- What a duplicate of an admitted request is told. -/
def DeploymentOperation.admission : Admission :=
  match entry.state, entry.receipt with
  | .completed, some receipt | .interrupted, some receipt => .replay receipt
  | _, _ => .inProgress

variable (operations : DeploymentOperations)

def admitDeploymentOperation (request : AdmissionRequest) :
    Except LedgerError (Admission × DeploymentOperations) :=
  match operations.find? request.operationId with
  | some existing =>
    if existing.requestDigest ≠ request.requestDigest then
      .error ⟨"deployment operation " ++ request.operationId.val ++
        " was reused for a different request"⟩
    else .ok (existing.admission, operations)
  | none => .ok (.admitted, operations.put request.entry)

def completeDeploymentOperation (py : Interpreter) (operations : DeploymentOperations)
    (operationId : Id) (requestDigest : Digest) (receipt : Wire) (at_ : PyStr) :
    Except LedgerError (DeploymentOperation × DeploymentOperations) :=
  match operations.find? operationId with
  | none => .error ⟨"deployment operation " ++ operationId.val ++ " was not admitted"⟩
  | some entry =>
    if entry.requestDigest ≠ requestDigest then
      .error ⟨"deployment operation " ++ operationId.val ++ " request digest changed"⟩
    else if entry.state ≠ .admitted then
      if entry.receipt.any fun existing => existing.pyEq py.valueOf receipt then
        .ok (entry, operations)
      else
        .error ⟨"deployment operation " ++ operationId.val ++ " is already " ++
          PyStr.of entry.state.name⟩
    else
      let entry := { entry with state := .completed, updatedAt := at_, receipt := some receipt }
      .ok (entry, operations.put entry)

variable (at_ : PyStr)

/-- The receipt of an operation whose daemon ended without one. -/
def interruptedReceipt : Wire :=
  receiptOf entry.operationId.val entry.requestDigest.val true .null
    (entry.requester.peer.record entry.requester.grantId.val)
    (.dict [("outcome", .str "failed"), ("operation", .str entry.operation.name), ("value", .null),
      ("failure", .dict [("code", .str "operation-interrupted"),
        ("message", .str ("the execution-host process ended before the deployment " ++
          "effect produced a durable receipt")),
        ("details", .dict [("runtimeEffectUncertain", .bool true),
          ("automaticReplay", .bool false)])])])
    nothingObserved
    (cleanupOf "not-required" ("daemon-owned transfer snapshots are reconciled separately; " ++
      "runtime effects require a new governed reconciliation operation"))
    (if entry.receivedAt = [] then at_ else entry.receivedAt) at_

/-- What the loop of `interrupt_deployment_operations` writes for one document. -/
def interruptOne (operations : DeploymentOperations) (operationId : Id) : DeploymentOperations :=
  match operations.find? operationId with
  | some entry =>
    if entry.state = .admitted then
      operations.put { entry with
        state := .interrupted, updatedAt := at_, receipt := some (interruptedReceipt entry at_) }
    else operations
  | none => operations

/-- `sorted(directory.glob("*.json"))`. -/
def sortedIds : List Id :=
  (operations.rows.map fun entry => entry.operationId).insertionSort fun a b =>
    !PyStr.isLess (b.val ++ ".json") (a.val ++ ".json")

/-- `interrupt_deployment_operations`, if it is stopped after `documents` of the documents; it comes
to its end if there are no more. -/
def interruptFirst (documents : ℕ) : DeploymentOperations :=
  ((sortedIds operations).take documents).foldl (interruptOne at_) operations

/-! ### The system -/

/-- What happens to the directory. A restart leaves it as it is. -/
inductive DeploymentEvent where
  | admission (request : AdmissionRequest)
  | complete (operationId : Id) (requestDigest : Digest) (receipt : Wire) (at_ : PyStr)
  | interrupt (at_ : PyStr) (documents : ℕ)
  | restart

/-- The directory after an event; an exception leaves it as it was. -/
def nextOperations (py : Interpreter) (operations : DeploymentOperations) :
    DeploymentEvent → DeploymentOperations
  | .admission request => afterTransaction operations (admitDeploymentOperation operations request)
  | .complete operationId requestDigest receipt at_ => afterTransaction operations
      (completeDeploymentOperation py operations operationId requestDigest receipt at_)
  | .interrupt at_ documents => interruptFirst operations at_ documents
  | .restart => operations

/-- The id that an event admits for execution, if it admits one. -/
def executed : DeploymentEvent → Option Id
  | .admission request =>
    match admitDeploymentOperation operations request with
    | .ok (.admitted, _) => some request.operationId
    | _ => none
  | _ => none

/-- The ids that are admitted for execution along a run, in their order. -/
def executions (py : Interpreter) (operations : DeploymentOperations) :
    List DeploymentEvent → List Id
  | [] => []
  | event :: events =>
    (executed operations event).toList ++ executions py (nextOperations py operations event) events

/-! ### The answer to a request -/

/-- What `_handle_line` does with a request for a deployment operation. -/
inductive DeploymentAnswer where
  | execute
  | receipt (value : Wire)
  | raises (error : Raised)

/-- The answer that `_handle_line` gives once the request has passed its other checks. -/
def answerDeployment (request : AdmissionRequest) (completedAt : PyStr) : DeploymentAnswer :=
  let refuse := fun (reason : String) (detail : PyStr) =>
    match refusalReceipt request.requestDigest.val request.operationId.val
      (request.requester.peer.record request.requester.grantId.val) reason detail request.at_
      completedAt with
    | .ok receipt => DeploymentAnswer.receipt receipt
    | .error e => .raises e
  match admitDeploymentOperation operations request with
  | .error e => refuse "operation-id-conflict" e.message
  | .ok (.admitted, _) => .execute
  | .ok (.inProgress, _) =>
    refuse "operation-in-progress" "the exact deployment operation is already admitted"
  | .ok (.replay receipt, _) =>
    match validateReceipt receipt with
    | .ok receipt => .receipt receipt
    | .error e => .raises e

end StatePort.Daemon
