import Mathlib.Data.List.Basic

/-!
# The states of a governed run

`packages/portable-execution/src/stateport_portable_execution/contracts.py`: the persisted lifecycle
of a run, the older statuses that existing clients read, the two transition tables, and the map from
a status to its lifecycle state.
-/

namespace StatePort.PortableExecution

/-- `LIFECYCLE_STATES`. -/
inductive Lifecycle where
  | draft | compiled | blockedCapability | awaitingRunApproval | approved | starting | running
  | succeeded | failed | cancelled | interrupted | timedOut | resultValidated | noMutation
  | proposalCreated | awaitingProposalApproval | proposalRejected | applying | applied
  | postValidated | closed | rolledBack
deriving DecidableEq

namespace Lifecycle

/-- `LIFECYCLE_TRANSITIONS`. -/
def transitions : Lifecycle → List Lifecycle
  | draft => [compiled, cancelled, failed]
  | compiled => [blockedCapability, awaitingRunApproval, failed, cancelled]
  | blockedCapability => [failed, closed]
  | awaitingRunApproval => [approved, cancelled, failed]
  | approved => [starting, cancelled, failed]
  | starting => [running, failed, timedOut, interrupted, cancelled]
  | running => [succeeded, failed, cancelled, interrupted, timedOut]
  | succeeded => [resultValidated, failed]
  | resultValidated => [noMutation, proposalCreated, failed]
  | noMutation => [closed]
  | proposalCreated => [awaitingProposalApproval, proposalRejected, failed]
  | awaitingProposalApproval => [proposalRejected, applying, failed]
  | proposalRejected => [closed]
  | applying => [applied, rolledBack, failed, interrupted]
  | applied => [postValidated, rolledBack, failed, interrupted]
  | postValidated => [closed, rolledBack, failed, interrupted]
  | failed => [closed, rolledBack]
  | cancelled => [closed]
  | interrupted => [starting, cancelled, closed, failed]
  | timedOut => [closed, starting]
  | rolledBack => [closed]
  | closed => []

/-- `allowed_lifecycle_transition`. -/
def allows (current target : Lifecycle) : Bool := current = target || target ∈ current.transitions

end Lifecycle

/-- `RUN_STATES`. -/
inductive Status where
  | requested | planned | awaitingApproval | approved | preparing | prepared | running
  | awaitingToolApproval | cancelling | cancelled | interrupted | timedOut | failed | completed
  | resultValidating | resultRejected | stateChangeProposed | stateChangeApproved
  | stateChangeRejected | applying | applied | applyFailed | archived
deriving DecidableEq

namespace Status

/-- `_TRANSITIONS`; nothing is reached from `awaiting_tool_approval`. -/
def transitions : Status → List Status
  | requested => [planned, failed]
  | planned => [awaitingApproval, failed]
  | awaitingApproval => [approved, cancelled, stateChangeRejected, failed]
  | approved => [preparing, cancelled, failed]
  | preparing => [prepared, failed, timedOut]
  | prepared => [running, cancelled, failed]
  | running => [completed, resultValidating, cancelling, cancelled, interrupted, timedOut, failed]
  | awaitingToolApproval => []
  | cancelling => [cancelled, failed]
  | completed => [resultValidating, archived]
  | resultValidating => [stateChangeProposed, completed, resultRejected, failed]
  | stateChangeProposed => [stateChangeApproved, stateChangeRejected, archived]
  | stateChangeApproved => [applying, failed]
  | stateChangeRejected => [archived]
  | applying => [applied, applyFailed, failed, interrupted]
  | applied => [archived, applyFailed, failed, interrupted]
  | failed => [archived]
  | cancelled => [archived]
  | timedOut => [archived]
  | interrupted => [planned, approved, cancelled, archived, failed]
  | resultRejected => [archived]
  | applyFailed => [archived]
  | archived => []

/-- `allowed_transition`. -/
def allows (current target : Status) : Bool := target ∈ current.transitions

/-- `lifecycle_for_status`. -/
def lifecycle : Status → Lifecycle
  | requested => .draft
  | planned => .compiled
  | awaitingApproval => .awaitingRunApproval
  | approved => .approved
  | preparing | prepared => .starting
  | running | awaitingToolApproval => .running
  | cancelling | cancelled => .cancelled
  | interrupted => .interrupted
  | timedOut => .timedOut
  | failed => .failed
  | completed => .succeeded
  | resultValidating => .resultValidated
  | resultRejected => .failed
  | stateChangeProposed => .proposalCreated
  | stateChangeApproved => .awaitingProposalApproval
  | stateChangeRejected => .proposalRejected
  | applying => .applying
  | applied => .applied
  | applyFailed => .rolledBack
  | archived => .closed

end Status

end StatePort.PortableExecution
