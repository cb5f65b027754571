import StatePort.ExecutionHost.RunAuthority

/-!
# Run leases

`RunLease` of `packages/runtime-contracts/src/runtime_contracts/alpha4.py` and `RunLeaseController`
of `packages/execution-host/src/execution_host/run_lease.py`: the lease of a managed agent run and
its transitions. A moment is a number of microseconds; the timestamps that the lifecycle writes have
this precision.
-/

namespace StatePort.ExecutionHost

open Authority (isId isDigest)

/-! ### Exceptions -/

/-- An exception of the run lifecycle: `RunRefused`, `RunAdapterUnavailable`, another
`RunLifecycleError`, `RunLeaseError`, or one of the operating system. -/
inductive RunError where
  | refused (message : String)
  | adapterUnavailable (message : String)
  | lifecycle (message : String)
  | lease (message : String)
  | os
deriving DecidableEq

/-! ### The lease -/

inductive LeaseState where
  | granted | renewed | expired | released | revoked
deriving DecidableEq

namespace LeaseState

def name : LeaseState → String
  | granted => "granted"
  | renewed => "renewed"
  | expired => "expired"
  | released => "released"
  | revoked => "revoked"

/-- `_HELD`. -/
def isHeld : LeaseState → Bool
  | granted | renewed => true
  | expired | released | revoked => false

/-- `_TERMINAL`. -/
def isTerminal (state : LeaseState) : Bool := !state.isHeld

def legal : LeaseState → List LeaseState
  | granted => [granted, renewed, expired, released, revoked]
  | renewed => [renewed, expired, released, revoked]
  | expired => [expired]
  | released => [released]
  | revoked => [revoked]

end LeaseState

/-- `_absolute_runtime_path`. -/
def isAbsoluteRuntimePath (s : String) : Bool :=
  Str.strip s ≠ "" && s.toList.length ≤ 256 && Str.startsWith s "/" &&
    Str.backslash ∉ s.toList && "..".toList ∉ pathParts s

/-- `RunLease`: a lease that `_validate` has accepted. -/
structure RunLease where
  (leaseId runId workspaceId executorKind imageDigest claimPath : String)
  (startedAt expiresAt : ℤ)
  state : LeaseState
  leaseId_valid : isId leaseId
  runId_valid : isId runId
  workspaceId_valid : isId workspaceId
  executorKind_valid : isId executorKind
  imageDigest_valid : isDigest imageDigest
  claimPath_valid : isAbsoluteRuntimePath claimPath

deriving instance DecidableEq for RunGrant, RunLease

/-! ### The controller -/

namespace RunLease

variable (lease : RunLease)

def transition (toState : LeaseState) : Except RunError RunLease := do
  raiseIf (toState ∉ lease.state.legal)
    (.lease ("illegal_lease_transition:" ++ lease.state.name ++ "->" ++ toState.name))
  return { lease with state := toState }

/-- `RunLeaseController.renew`. -/
def renew : Except RunError RunLease := lease.transition .renewed

/-- `RunLeaseController.expire`. -/
def expire : Except RunError RunLease := lease.transition .expired

/-- `RunLeaseController.release`. -/
def release : Except RunError RunLease :=
  if lease.state.isHeld then lease.transition .released else .ok lease

/-- `RunLeaseController.cancel`. -/
def cancel : Except RunError RunLease := lease.release

/-- `RunLeaseController.force_release`. -/
def forceRelease : RunLease :=
  if lease.state.isHeld then { lease with state := .revoked } else lease

end RunLease

end StatePort.ExecutionHost
