import StatePort.Algorithm.Raise
import StatePort.Algorithm.Table
import StatePort.Document.Json

/-!
# The approval gate

`packages/approval-gate/src/approval_gate/gate.py`: the store of approval requests. Every operation
reads the store under its lock, checks, and replaces it; an operation that raises leaves it as it is.
`pyEq` is Python's equality of two documents, for which `1`, `True` and `1.0` are equal.
-/

namespace StatePort.Approval

/-- A `ValueError` or a `KeyError`, with its message. -/
inductive GateError where
  | value (message : String)
  | key (message : String)

/-! ### Requests -/

inductive Status where
  | pending | approved | rejected | cancelled
deriving DecidableEq

namespace Status

def name : Status → String
  | pending => "pending"
  | approved => "approved"
  | rejected => "rejected"
  | cancelled => "cancelled"

/-- The status that `transition` accepts under a name. -/
def decision? (name : String) : Option Status :=
  [approved, rejected, cancelled].find? fun status => status.name = name

end Status

abbrev Metadata := Table (Prod.fst : String × Json → String)

def mutableMetadataKeys : List String := ["decision", "execution"]

def requestMetadata (metadata : Metadata) : Metadata :=
  metadata.filter fun entry => entry.1 ∉ mutableMetadataKeys

structure ApprovalRequest where
  (id operation capability instanceId : String)
  status : Status
  reason : String
  metadata : Metadata
  (actor instancePath : String)

/-- The arguments with which a request is made. -/
structure Inputs where
  (operation capability instanceId reason : String)
  metadata : Metadata
  (actor instancePath : String)

namespace Inputs

variable (inputs : Inputs)

/-- The required arguments are given. -/
def given : Bool :=
  Str.strip inputs.operation ≠ "" && Str.strip inputs.capability ≠ "" &&
    Str.strip inputs.instanceId ≠ ""

def pending (id : String) : ApprovalRequest where
  id := id
  operation := inputs.operation
  capability := inputs.capability
  instanceId := inputs.instanceId
  status := .pending
  reason := inputs.reason
  metadata := inputs.metadata
  actor := inputs.actor
  instancePath := inputs.instancePath

end Inputs

namespace ApprovalRequest

variable (r : ApprovalRequest)

/-- The entry that `transition` records. -/
def decision (status : Status) (decidedBy decidedAt : String) : String × Json :=
  ("decision", Json.ofFields ([("actor", .str decidedBy), ("status", .str status.name)] ++
    if decidedAt = "" then [] else [("at", .str decidedAt)]))

/-- The request after a transition. -/
def transitioned (status : Status) (reason decidedBy decidedAt : String) : ApprovalRequest :=
  { r with
    status := status
    reason := reason
    metadata := if decidedBy = "" then r.metadata
      else r.metadata.put (decision status decidedBy decidedAt) }

def executed (metadata : Metadata) : ApprovalRequest :=
  { r with metadata := r.metadata.merge metadata }

end ApprovalRequest

/-! ### The store -/

/-- The requests of an `ApprovalGate`. -/
abbrev Gate := Table ApprovalRequest.id

variable (pyEq : Json → Json → Bool)

/-- Whether two dictionaries are equal. -/
def sameMetadata (a b : Metadata) : Bool :=
  a.rows.length = b.rows.length &&
    a.rows.all fun entry => (b.find? entry.1).any fun other => pyEq entry.2 other.2

/-- Whether two requests have equal immutable inputs. -/
def sameInputs (r candidate : ApprovalRequest) : Bool :=
  r.operation = candidate.operation && r.capability = candidate.capability &&
    r.instanceId = candidate.instanceId && r.actor = candidate.actor &&
    r.instancePath = candidate.instancePath &&
    sameMetadata pyEq (requestMetadata r.metadata) (requestMetadata candidate.metadata)

namespace Gate

variable (s : Gate)

/-- `request`, with the token that becomes the id. -/
def request (token : String) (inputs : Inputs) : Except GateError (ApprovalRequest × Gate) := do
  raiseIf (inputs.given = false) (.value "operation, capability, and instance_id are required")
  return (inputs.pending token, s.put (inputs.pending token))

def requestOnce (requestId : String) (inputs : Inputs) :
    Except GateError ((ApprovalRequest × Bool) × Gate) := do
  raiseIf (Str.strip requestId = "") (.value "request_id is required")
  raiseIf (inputs.given = false) (.value "operation, capability, and instance_id are required")
  raiseIf (∃ entry ∈ inputs.metadata.rows, entry.1 ∈ mutableMetadataKeys)
    (.value "approval request metadata uses a reserved lifecycle key")
  let candidate := inputs.pending (Str.strip requestId)
  match s.find? candidate.id with
  | some current =>
    raiseIf (sameInputs pyEq current candidate = false)
      (.value "approval request id is bound to different immutable inputs")
    return ((current, true), s)
  | none => return ((candidate, false), s.put candidate)

def transition (requestId status reason decidedBy decidedAt : String) :
    Except GateError (ApprovalRequest × Gate) :=
  match Status.decision? status with
  | none => .error (.value "invalid approval status")
  | some status =>
    match s.find? requestId with
    | none => .error (.key "unknown approval request")
    | some current => do
      raiseIf (current.status ≠ .pending) (.value "only pending approvals can transition")
      let updated := current.transitioned status reason decidedBy decidedAt
      return (updated, s.put updated)

def markExecuted (requestId : String) (metadata : Metadata) :
    Except GateError (ApprovalRequest × Gate) :=
  match s.find? requestId with
  | none => .error (.key "unknown approval request")
  | some current => do
    raiseIf (current.status ≠ .approved) (.value "only approved requests can be executed")
    let updated := current.executed metadata
    return (updated, s.put updated)

end Gate

/-! ### Calls -/

inductive Call where
  | request (token : String) (inputs : Inputs)
  | requestOnce (requestId : String) (inputs : Inputs)
  | transition (requestId status reason decidedBy decidedAt : String)
  | markExecuted (requestId : String) (metadata : Metadata)

/-- The store after a call. -/
def nextGate (s : Gate) : Call → Gate
  | .request token inputs => afterTransaction s (s.request token inputs)
  | .requestOnce requestId inputs => afterTransaction s (s.requestOnce pyEq requestId inputs)
  | .transition requestId status reason decidedBy decidedAt =>
    afterTransaction s (s.transition requestId status reason decidedBy decidedAt)
  | .markExecuted requestId metadata => afterTransaction s (s.markExecuted requestId metadata)

end StatePort.Approval
