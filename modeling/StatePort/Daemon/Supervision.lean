import StatePort.Daemon.Boot

/-!
# Supervision

The supervisor of `packages/execution-host/src/execution_host/daemon.py`: it retries failed
cleanups, withdraws workloads whose grant is no longer live, and bounds the others by their timeout
or their inactivity. A pass over an entry holds the lock of the workload.
-/

namespace StatePort.Daemon

def maxCleanupRetryAttempts : ℕ := 5

section

variable (host : Host)

/-- Whether an observation verifies that nothing runs any more. -/
def isStopped (residual : Option Bool × Option Bool) : Bool :=
  residual.1 = some false || (residual.1 = some true && residual.2 = some false)

variable (entry : Entry)

/-- Stop the container of a workspace, and verify that it does not run. -/
def stopWorkspace : Run Bool := do
  _ ← Effect.attempt Failure.engine? (actOnOwned host .stop entry)
  let residual ← residualEvidence host entry.workloadId
  return isStopped residual

/-- A transition from the entry as the ledger has it now. -/
def transitionCurrent (state : State) (change : PyStr → Entry → Change) : Run Unit := do
  let found ← getEntry entry.workloadId
  let current := found.getD entry
  let at_ ← ask host.clock
  _ ← write fun ledger => transitionSnapshot ledger current state (change at_ current)
  return ()

/-! ### Failed cleanups -/

/-- The failed retries of a cleanup so far. -/
def Entry.cleanupRetries : ℕ :=
  (entry.receipts.filter fun receipt => receipt = .cleanupRetry).length

def Entry.cleanupTarget : State := entry.cleanupTargetState.getD .cancelled

/-- Escalate a cleanup, once. -/
def escalate : Run Unit :=
  if entry.cleanupEscalated then return ()
  else do
    _ ← residualEvidence host entry.workloadId
    let at_ ← ask host.clock
    _ ← write fun ledger => transitionSnapshot ledger entry .cleanupFailed
      { at_, receipt := some .cleanupEscalated, extra := [.cleanupEscalated] }
    return ()

/-- One retry: whether the cleanup is complete. -/
def retryEffect : Run Bool :=
  if entry.cleanupTarget = .stopped ∧ entry.spec.isWorkspace then stopWorkspace host entry
  else cleanupEngineEffect host entry.workloadId entry.snapshotPath "interrupted"

/-- What a cleanup that has been completed records. -/
def recoveredChange (at_ : PyStr) (current : Entry) : Change where
  at_
  exitStatus := current.cleanupExitStatus
  finishedAt := some (current.cleanupFinishedAt.getD at_)
  receipt := some .cleanupRecovered
  extra := [.cleanupTargetState none, .cleanupFinishedAt none, .cleanupExitStatus none,
    .validatorSnapshotPath none, .sourceSnapshotPath none]

def retryCleanup : Run Unit :=
  if maxCleanupRetryAttempts ≤ entry.cleanupRetries then escalate host entry
  else do
    if ← retryEffect host entry then
      transitionCurrent host entry entry.cleanupTarget recoveredChange
    else
      transitionCurrent host entry .cleanupFailed fun at_ _ =>
        { at_, receipt := some .cleanupRetry }

/-! ### Withdrawn authority -/

/-- The state of a workload whose authority was withdrawn. -/
def withdrawnState : State :=
  if entry.spec.isWorkspace then .stopped else .cancelled

/-- Stop a workspace, or remove the container of any other workload. -/
def withdrawEffect : Run Bool :=
  if entry.spec.isWorkspace then stopWorkspace host entry
  else cleanupEngineEffect host entry.workloadId entry.snapshotPath "authority-withdrawn"

/-- The part of `_enforce_grant_liveness` that acts on a grant that is not live. -/
def withdraw : Run Unit :=
  if ReceiptKind.authorityWithdrawn ∈ entry.receipts then return ()
  else if entry.state = .reserved then do
    let at_ ← ask host.clock
    _ ← write fun ledger => transitionSnapshot ledger entry .cancelled
      { at_, finishedAt := some at_, receipt := some .authorityWithdrawn }
    return ()
  else do
    if ← withdrawEffect host entry then
      transitionCurrent host entry (withdrawnState entry) fun at_ _ =>
        { at_, finishedAt := some at_, receipt := some .authorityWithdrawn }
    else
      transitionCurrent host entry .cleanupFailed fun at_ _ =>
        { at_, receipt := some .authorityWithdrawnCleanupFailure,
          extra := [.cleanupTargetState (withdrawnState entry), .cleanupFinishedAt at_] }

/-- `_enforce_grant_liveness`: whether the entry's grant is not live. -/
def enforceGrantLiveness : Run Bool := do
  let store ← ask host.grants
  match store.assertLive host.py entry.grantId entry.grantDigest with
  | .ok _ => return false
  | .error (.raised error) => Effect.raise (.raised error)
  | .error (.refusal _ _) => do
    withdraw host entry
    return true

/-! ### Timeouts -/

/-- What an observation after a stop leaves open. -/
def mayStillRun (observed : Info) : Bool :=
  observed.present = none || (observed.present = some true && observed.running = none) ||
    observed.running = some true

/-- Stop an overdue workload and observe it; whether it is verified to be stopped. -/
def stopOverdue : Run (Bool × Info) := do
  let stopped ← Effect.attempt Failure.engine? (actOnOwned host .stop entry)
  let observed ← safeInspect host entry.workloadId
  return (stopped.toOption.isSome && !mayStillRun observed, observed)

/-- The record of an overdue workload whose cleanup is incomplete. -/
def recordOverdueFailure (receipt : ReceiptKind) (target : State) (observed : Info) : Run Unit := do
  _ ← residualEvidence host entry.workloadId
  let at_ ← ask host.clock
  _ ← write fun ledger => transitionSnapshot ledger entry .cleanupFailed
    { at_, receipt := some receipt,
      extra := [.cleanupTargetState target, .cleanupFinishedAt at_,
        .cleanupExitStatus observed.exitStatus] }
  return ()

def superviseWorkspaceIdle : Run Unit :=
  if entry.spec.stopAfterIdle = false then return ()
  else do
    let idle ← ask fun world => host.idleFor world entry
    if idle.all fun seconds => seconds ≤ (entry.spec.timeoutSeconds : ℚ) then return ()
    else do
      let (stopped, observed) ← stopOverdue host entry
      if stopped then do
        let at_ ← ask host.clock
        _ ← write fun ledger => transitionSnapshot ledger entry .stopped
          { at_, exitStatus := observed.exitStatus, finishedAt := some at_,
            receipt := some .idleTimeout }
        return ()
      else recordOverdueFailure host entry .idleTimeoutCleanupFailure .stopped observed

/-- The timeout of a workload that is not a workspace. -/
def superviseTimeout (startedAt : PyStr) : Run Unit := do
  let elapsed ← ask fun world => host.elapsed world startedAt
  if elapsed.all fun seconds => seconds ≤ (entry.spec.timeoutSeconds : ℚ) then return ()
  else do
    let entry ← markSourceTermination host entry "timed_out"
    let (stopped, observed) ← stopOverdue host entry
    if stopped then do
      let entry ← captureSourceCommandOutput host entry "timed_out"
      let at_ ← ask host.clock
      _ ← write fun ledger => transitionSnapshot ledger entry .timedOut
        { at_, exitStatus := observed.exitStatus, finishedAt := some at_,
          receipt := some .supervisionTimeout }
      return ()
    else recordOverdueFailure host entry .supervisionTimeoutCleanupFailure .timedOut observed

/-- The exit of a source command; whether it has exited. -/
def superviseSourceCommand : Run Bool :=
  if entry.spec.kind = .agentRun ∧ entry.spec.hasSourceArchive then do
    let info ← safeInspect host entry.workloadId
    if info.present = some true ∧ info.running = some false then do
      let entry ← captureSourceCommandOutput host entry "exited"
      let at_ ← ask host.clock
      _ ← write fun ledger => transitionSnapshot ledger entry .exited
        { at_, finishedAt := some at_, exitStatus := info.exitStatus }
      return true
    else return false
  else return false

/-- A running workload whose grant is live. -/
def superviseRunning (startedAt : PyStr) : Run Unit := do
  if ← superviseSourceCommand host entry then return ()
  else if entry.spec.isWorkspace then superviseWorkspaceIdle host entry
  else superviseTimeout host entry startedAt

/-- A terminal entry whose command output may still be captured. -/
def superviseTerminal : Run Unit :=
  if entry.state = .removed then return ()
  else do
    _ ← captureSourceCommandOutput host entry (PyStr.of entry.state.name)
    return ()

def superviseEntry : Run Unit :=
  if entry.state = .cleanupFailed then retryCleanup host entry
  else if entry.state.isTerminal then superviseTerminal host entry
  else do
    if ← enforceGrantLiveness host entry then return ()
    else
      match entry.state, entry.startedAt with
      | .running, some startedAt => superviseRunning host entry startedAt
      | _, _ => return ()

/-- One round of the loop of `_supervise`: the entry is read anew under its lock, and a lost race is
left to the next sweep. -/
def superviseWorkload (workloadId : Id) : Run Unit := do
  _ ← Effect.attempt Failure.ledger? do
    match ← getEntry workloadId with
    | none => return ()
    | some entry => superviseEntry host entry
  return ()

/-- One sweep of `_supervise`. -/
def superviseAll : Run Unit := do
  let world ← Effect.state
  (allEntries world.ledger).forM fun entry => superviseWorkload host entry.workloadId

end

end StatePort.Daemon
