import StatePort.Algorithm.Run
import StatePort.Daemon.Supervision

/-!
# Operations of the clients

The handlers of `packages/execution-host/src/execution_host/daemon.py` for requests that reach the
engine or the ledger of workloads. A handler runs under the lock of its workload; `listWorkloads`
and `collectGarbage` take the locks of the workloads one after the other.

What a handler returns is given by the workload, its state and the outcome of the cleanup; the texts
and the metadata of its result are left out, and so are the operations on deployments, which neither
touch these containers nor this ledger.
-/

namespace StatePort.Daemon

open Effect

inductive CleanupOutcome where
  | notRequired | performed | failed

/-- What a handler returns. -/
structure Answer where
  workloadId : Option Id
  state : Option State
  exitStatus : Option ℤ
  cleanup : CleanupOutcome

/-- A caught exception: what is recorded of it, and what is raised in its place. -/
structure Caught where
  detail : PyStr
  failure : Failure

namespace Caught

/-- `except EngineError`. -/
def engine? : Failure → Option Caught
  | .engine message => some ⟨message, .refusal "engine-failure" message⟩
  | _ => none

/-- `except LedgerError`. -/
def conflict? : Failure → Option Caught
  | .ledger error => some ⟨error.message, .refusal "state-conflict" error.message⟩
  | _ => none

/-- `except _Refusal`, which is raised again. -/
def authority? : Failure → Option Caught
  | .refusal reason detail =>
    some ⟨PyStr.of reason ++ ": " ++ detail, .refusal reason detail⟩
  | _ => none

/-- `except _Refusal` of a validator, whose detail alone is recorded, and `except EngineError`. -/
def execution? : Failure → Option Caught
  | .refusal reason detail => some ⟨detail, .refusal reason detail⟩
  | failure => engine? failure

end Caught

section

variable (host : Host) {α : Type} (workloadId : Id)

/-- Run `x`; an effect whose record is lost by a caught exception is reconciled before the daemon
refuses. -/
def orReconcile (select : Failure → Option Caught) (workloadId : Id)
    (kind : Caught → ReceiptKind) (target : State) (snapshotPath : Option PyStr) (x : Run α) :
    Run α := do
  match ← attempt select x with
  | .ok a => return a
  | .error caught => do
    _ ← recordPostEffectReconciliation host workloadId (kind caught) caught.detail target
      snapshotPath
    raise caught.failure

def entryRequired : Run Entry := do
  match ← getEntry workloadId with
  | some entry => return entry
  | none =>
    raise (.refusal "unknown-workload" ("workload " ++ workloadId.val ++ " has no ledger entry"))

/-- The entry of a workload and the authority of the request over it. -/
def authorizedEntry (grant : Option Grant) : Run Entry := do
  let entry ← entryRequired workloadId
  assertActivationAuthority host entry grant
  return entry

def observedFor : Run Unit := do
  _ ← safeInspect host workloadId
  return ()

/-- A successful answer about a workload that is observed once more. -/
def answer (state : State) (exitStatus : Option ℤ) (cleanup : CleanupOutcome) : Run Answer := do
  observedFor host workloadId
  return ⟨some workloadId, some state, exitStatus, cleanup⟩

variable (spec : Spec)

def touchWorkspace (workloadId : Id) : Run Unit :=
  if spec.isWorkspace then touchActivity host workloadId else return ()

/-! ### Creation -/

variable (request : OperationRequest)

/-- The grant under which a request reserves. -/
def grantBinding (grant : Option Grant) : Except Failure GrantBinding :=
  match grant with
  | none => .ok ⟨request.grantId.val, none, 0⟩
  | some grant => do
    let digest ← (grant.digest host.py).mapError Failure.raised
    return ⟨grant.grantId.val, some digest, grant.revocationEpoch⟩

def limitsOf (grant : Option Grant) : Limits where
  maxActive := maxWorkloads
  maxPerGrant := (grant.map fun grant => grant.budgets.maxActiveWorkloads.toNat).getD 256

/-- The capabilities of the engine that a spec needs. -/
def checkCapabilities : Run Unit := do
  let seeds ← ask host.admits
  let commands ← ask host.admits
  let mounts ← ask host.admits
  if spec.sourceSeed.isSome ∧ seeds = false then
    refuse "workspace-seed-unavailable"
      "the engine does not implement verified fresh-volume source seeding"
  else if spec.hasSourceArchive ∧ commands = false then
    refuse "agent-command-unavailable" "the engine does not implement sealed source commands"
  else if spec.hasAgentProviderProfile = false then return ()
  else if mounts = false then
    refuse "agent-provider-unavailable"
      "the engine does not implement the sealed agent provider profile"
  else do
    match ← attempt Failure.engine? (askEngine fun world =>
        host.validateAgentProvider world spec) with
    | .ok _ => return ()
    | .error message => raise (.refusal "agent-provider-unavailable" message)

variable (existing : Option Entry)

/-- Whether the workspace is reserved again with the seed that it has. -/
def seedReusing : Bool :=
  spec.sourceSeed.isSome && existing.any fun entry => entry.sourceSeedStatus = some .complete

/-- The checks of a source seed before anything is reserved. -/
def admitSeed (hasSource : Bool) : Run Unit :=
  if spec.sourceSeed = none then return ()
  else do
    match ← attempt Failure.engine? (askEngine fun world =>
        host.sourceSeed world .validateCapability spec) with
    | .error message => raise (.refusal "workspace-seed-unavailable" message)
    | .ok _ =>
      if hasPartialSeed existing ∨ (seedReusing spec existing ∧ hasSource) then
        refuse "workspace-seed-recovery-refused"
          "only a completed source seed can be recovered, without a new archive"
      else if seedReusing spec existing = false ∧ hasSource = false then
        refuse "source-descriptor-required"
          "fresh workspace source initialization requires its exact archive descriptor"
      else return ()

variable (entry : Entry)

/-- A workspace whose container is gone and whose entry may be reserved again. -/
def isRecoverable : Bool :=
  entry.spec.isWorkspace && (entry.state = .removed || entry.state = .interrupted)

/-- Reserve a workspace again, if its container is verified to be gone. -/
def recoverReservation (existing : Entry) (binding : GrantBinding)
    (limits : Limits) : Run Entry := do
  let info ← safeInspect host spec.workloadId
  match info.present with
  | none =>
    refuse "container-identity-unavailable"
      "workspace recovery could not verify that the container name is free"
  | some true =>
    match containerIdentityError existing info with
    | some error => refuse "foreign-container" error
    | none =>
      refuse "container-present" "workspace recovery requires the retained container to be absent"
  | some false =>
    if binding.grantDigest = none then
      refuse "grant-identity-mismatch" "workspace recovery requires an exact durable grant identity"
    else do
      let at_ ← ask host.clock
      write fun ledger => reserveWorkspaceRecovery ledger spec at_ binding limits

/-- The reason with which a reservation is refused. -/
def reservationRefusal (detail : PyStr) : String :=
  if detail.hasSubstring "capacity" || detail.hasSubstring "budget" then "workload-limit"
  else if existing.any fun entry => entry.state = .removed || entry.state = .interrupted then
    "workspace-recovery-refused"
  else "duplicate-workload"

variable (binding : GrantBinding) (limits : Limits)

/-- The reservation of a workload, and the state from which it is recovered. -/
def reserveWorkload : Run (Entry × Option State) := do
  match existing.filter isRecoverable with
  | some entry => do
    let reservation ← recoverReservation host spec entry binding limits
    return (reservation, some entry.state)
  | none => do
    let at_ ← ask host.clock
    let reservation ← write fun ledger => reserve ledger spec at_ binding limits
    return (reservation, none)

def reserveOrRefuse : Run (Entry × Option State) := do
  match ← attempt Failure.ledger? (reserveWorkload host spec existing binding limits) with
  | .ok reserved => return reserved
  | .error error => raise (.refusal (reservationRefusal existing error.message) error.message)

variable (reservation : Entry)

/-- A reservation whose authority was withdrawn is given up. -/
def activateReservation (grant : Option Grant) (kind : ReceiptKind)
    (target : State) (snapshotPath : Option PyStr) : Run Unit := do
  match ← attempt Caught.authority? (assertActivationAuthority host reservation grant) with
  | .ok _ => return ()
  | .error caught => do
    _ ← removeSnapshotPath host snapshotPath
    let at_ ← ask host.clock
    let finishedAt ← ask host.clock
    _ ← write fun ledger => transitionSnapshot ledger reservation target
      { at_, finishedAt := some finishedAt, receipt := some kind }
    raise caught.failure

/-- What the `try` around a source seed catches. -/
def seedFailure? : Failure → Option PyStr
  | .engine message => some message
  | .refusal reason detail => some (PyStr.of reason ++ ": " ++ detail)
  | _ => none

/-- Remove the snapshot of a seed whose volume was not touched; whether it is gone. -/
def removeUnattempted (effectAttempted : Bool) (snapshotPath : Option PyStr) : Run Bool :=
  if effectAttempted then return false else removeSnapshotPath host snapshotPath

/-- The record of a seed that did not complete. -/
def failSeed (snapshotPath : Option PyStr) (effectAttempted : Bool) (detail : PyStr) : Run α := do
  let found ← getEntry reservation.workloadId
  let current := found.getD reservation
  let removed ← removeUnattempted host effectAttempted snapshotPath
  let retained := if removed then none else snapshotPath
  let quarantined := effectAttempted || retained.isSome
  let at_ ← ask host.clock
  _ ← write fun ledger => transitionSnapshot ledger current .failed
    { at_, receipt := some .workspaceSourceSeedRefused,
      extra := [.sourceSeedStatus (if quarantined then .failed else .notStarted),
        .sourceSnapshotPath retained] ++ failureFields .failed detail }
  if quarantined then
    refuse "workspace-seed-failed"
      "source initialization did not complete; partial volume and source evidence retained"
  else
    refuse "workspace-source-admission-refused"
      "source admission refused before any volume effect; an exact fresh retry remains possible"

/-- A transition of a reservation that stays reserved. -/
def noteReservation (receipt : Option ReceiptKind) (extra : List Extra) : Run Entry := do
  let at_ ← ask host.clock
  write fun ledger => transitionSnapshot ledger reservation .reserved { at_, receipt, extra }

/-- The steps of a seed before its volume is touched. -/
def prepareSeed (grant : Option Grant) (root : PyStr) : Run Entry := do
  let reservation ← noteReservation host reservation none [.sourceSnapshotPath root]
  assertActivationAuthority host reservation grant
  noteReservation host reservation none [.sourceSeedStatus .started]

/-- The steps of a seed from the first effect on its volume. -/
def performSeed (grant : Option Grant) (root : PyStr) : Run Entry := do
  askEngine fun world => host.sourceSeed world .seed spec
  assertActivationAuthority host reservation grant
  let reservation ← noteReservation host reservation (some .workspaceSourceSeeded)
    [.sourceSeedStatus .complete]
  askEngine fun world => host.sourceSeed world .finish spec
  if ← removeSnapshotPath host (some root) then
    noteReservation host reservation none [.sourceSnapshotPath none]
  else raise (.engine "source snapshot cleanup failed")

def freshSeed (grant : Option Grant) (seedId : PyStr) : Run Entry := do
  let reservation ← noteReservation host reservation none
    [.sourceSeedStatus .admitting, .sourceSeedId seedId]
  match ← ask fun world => host.stage world spec with
  | .error (detail, left) => failSeed host reservation left false detail
  | .ok root => do
    match ← attempt seedFailure? (prepareSeed host reservation grant root) with
    | .error detail => failSeed host reservation (some root) false detail
    | .ok started => do
      match ← attempt seedFailure? (performSeed host spec started grant root) with
      | .error detail => failSeed host started (some root) true detail
      | .ok seeded => return seeded

/-- A completed seed is verified before its volume is attached again. -/
def reuseSeed (target : State) : Run Entry := do
  match ← attempt Failure.engine? (askEngine fun world =>
      host.sourceSeed world .reconcile spec) with
  | .ok _ => return reservation
  | .error _ => do
    let at_ ← ask host.clock
    _ ← write fun ledger => transitionSnapshot ledger reservation target
      { at_, receipt := some .workspaceSeedRecoveryRefused }
    refuse "workspace-seed-recovery-refused" "retained source volume identity could not be verified"

/-- The source seed of a reservation, if its spec has one. -/
def seedReservation (reservation : Entry)
    (recoveringFrom : Option State) (grant : Option Grant) (seedId : PyStr) : Run Entry :=
  if spec.sourceSeed = none then return reservation
  else if seedReusing spec existing then
    reuseSeed host spec reservation (recoveringFrom.getD .failed)
  else freshSeed host spec reservation grant seedId

/-- The refusal of a source archive. -/
def refuseSource : Run α :=
  refuse "source-admission-refused" "agent source archive or authority failed exact admission"

/-- A source archive of which nothing was staged. -/
def rejectSource (detail : PyStr) : Run α := do
  let at_ ← ask host.clock
  let finishedAt ← ask host.clock
  _ ← write fun ledger => transitionSnapshot ledger reservation .failed
    { at_, finishedAt := some finishedAt, receipt := some .sourceAdmissionRefused,
      extra := failureFields .failed detail }
  refuseSource

/-- A source archive of which something was staged. -/
def withdrawSource (root detail : PyStr) : Run α := do
  _ ← recordPostEffectReconciliation host spec.workloadId .sourceAdmissionRefused
    (detail.take 280) .failed root
  refuseSource

/-- The snapshot of a source archive, if the spec has one. -/
def admitSource (grant : Option Grant) (hasSource : Bool) : Run (Option PyStr) :=
  if spec.hasSourceArchive = false then return none
  else if hasSource = false then rejectSource host reservation "agent source descriptor is absent"
  else do
    match ← ask fun world => host.stage world spec with
    | .error (detail, none) => rejectSource host reservation detail
    | .error (detail, some root) => withdrawSource host spec root detail
    | .ok root => do
      match ← attempt Failure.refusal?
          (assertActivationAuthority host reservation grant) with
      | .ok _ => return some root
      | .error refusal => withdrawSource host spec root refusal.2

/-- The container of a reservation, and the entry that records it. -/
def createContainer (target : State)
    (snapshotPath : Option PyStr) (engineKind conflictKind : ReceiptKind) (extra : List Extra) :
    Run Entry := do
  let containerId ← orReconcile host Caught.engine? spec.workloadId (fun _ => engineKind) target
    snapshotPath (askEngine fun world => host.create world spec)
  let at_ ← ask host.clock
  orReconcile host Caught.conflict? spec.workloadId (fun _ => conflictKind) target snapshotPath
    (write fun ledger => finalizeReserved ledger spec.workloadId at_ containerId
      (some reservation.version) extra)

/-- The id of a fresh source seed: a digest without its scheme. -/
def seedIdOf (spec : Spec) : PyStr :=
  (digestOf host.py (Wire.text (.dict [("operationId", .str request.operationId.val),
    ("specDigest", .str spec.digest.val)]))).val.drop 7

def opCreate (grant : Option Grant) (spec : Spec) (hasSource : Bool) : Run Answer := do
  checkCapabilities host spec
  let binding ← lift (grantBinding host request grant)
  let existing ← getEntry spec.workloadId
  admitSeed host spec existing hasSource
  let (reservation, recoveringFrom) ← reserveOrRefuse host spec existing binding (limitsOf grant)
  activateReservation host reservation grant .createAuthorityWithdrawn
    (recoveringFrom.getD .cancelled) none
  let reservation ← seedReservation host spec existing reservation recoveringFrom grant
    (seedIdOf host request spec)
  let snapshotPath ← admitSource host spec reservation grant hasSource
  _ ← createContainer host spec reservation (recoveringFrom.getD .failed) snapshotPath
    .createEngineFailure .createCasConflict
    (snapshotPath.map fun path => Extra.sourceSnapshotPath (some path)).toList
  touchWorkspace host spec spec.workloadId
  answer host spec.workloadId .created none .notRequired

/-! ### Start and stop -/

/-- The states from which a workload starts. -/
def isStartable : Bool :=
  entry.state = .created || (entry.spec.isWorkspace && entry.state = .stopped)

variable (grant : Option Grant) (workloadId : Id)

def opStart : Run Answer := do
  let entry ← entryRequired workloadId
  if entry.spec.sourceSeed.isSome ∧ entry.sourceSeedStatus ≠ some .complete then
    refuse "workspace-seed-incomplete" "partial source initialization cannot be started or adopted"
  else do
    assertActivationAuthority host entry grant
    if isStartable entry = false then
      refuse "invalid-state" s!"workload is {entry.state.name}; only a created workload can start"
    else do
      let targetId ← requireOwnedContainer host entry
      orReconcile host Caught.engine? entry.workloadId (fun _ => .startEngineFailure) .failed none
        (act host .start entry.workloadId targetId)
      orReconcile host Caught.authority? entry.workloadId (fun _ => .startAuthorityConflict)
        .cancelled none (assertActivationAuthority host entry grant)
      let startedAt ← ask host.clock
      _ ← orReconcile host Caught.conflict? entry.workloadId (fun _ => .startCasConflict)
        .failed none (write fun ledger => transitionSnapshot ledger entry .running
          { at_ := startedAt, startedAt := some startedAt })
      touchWorkspace host entry.spec entry.workloadId
      answer host entry.workloadId .running none .notRequired

def stoppedState : State := if spec.isWorkspace then .stopped else .exited

variable (info : Info)

/-- Whether an observation after a stop leaves open that the container still runs. -/
def stopUnverified : Bool :=
  info.present = none || (info.present = some true && decide (info.running ≠ some false))

/-- The record of a stop that has been verified. -/
def recordStop : Run Answer := do
  let finishedAt ← ask host.clock
  let entry ← captureSourceCommandOutput host entry "stopped"
  _ ← orReconcile host Caught.conflict? entry.workloadId (fun _ => .stopCasConflict) .failed none
    (write fun ledger => transitionSnapshot ledger entry (stoppedState entry.spec)
      { at_ := finishedAt, exitStatus := info.exitStatus, finishedAt := some finishedAt })
  touchWorkspace host entry.spec entry.workloadId
  answer host entry.workloadId (stoppedState entry.spec) info.exitStatus .performed

def opStop : Run Answer := do
  let entry ← authorizedEntry host workloadId grant
  if entry.state.isTerminal then
    refuse "invalid-state" s!"workload is already {entry.state.name}"
  else do
    let targetId ← requireOwnedContainer host entry
    let entry ← markSourceTermination host entry "stopped"
    match ← attempt Failure.engine? (act host .stop entry.workloadId targetId) with
    | .error message => raise (.refusal "engine-failure" message)
    | .ok _ => do
      let info ← safeInspect host entry.workloadId
      if stopUnverified info then do
        _ ← recordPostEffectReconciliation host entry.workloadId .stopVerificationFailure
          "the stop effect did not verify a non-running container" .failed none
        refuse "engine-failure" "workload stop could not verify a non-running container"
      else recordStop host entry info

/-! ### Observation -/

/-- An entry that is recorded as running and whose container is observed not to run. -/
def hasStopped : Bool :=
  entry.state = .running && info.present = some true && decide (info.running ≠ some true)

/-- The record of a stop that happened outside the daemon. -/
def recordExternalStop : Run State := do
  let finishedAt ← ask host.clock
  let entry ← captureSourceCommandOutput host entry "exited"
  _ ← residualEvidence host entry.workloadId
  _ ← write fun ledger => transitionSnapshot ledger entry (stoppedState entry.spec)
    { at_ := finishedAt, exitStatus := info.exitStatus, finishedAt := some finishedAt,
      receipt := some .externalStop }
  return stoppedState entry.spec

/-- The container of an observation must be the entry's. -/
def checkObservedContainer : Run Unit :=
  if info.present = some true then do
    _ ← requireOwnedContainer host entry
    return ()
  else return ()

def opStatus : Run Answer := do
  let entry ← authorizedEntry host workloadId grant
  let info ← safeInspect host entry.workloadId
  checkObservedContainer host entry info
  if hasStopped entry info then do
    let state ← recordExternalStop host entry info
    let entry ← entryRequired workloadId
    answer host entry.workloadId state entry.exitStatus .notRequired
  else answer host entry.workloadId entry.state entry.exitStatus .notRequired

/-- The output of a source command, which is captured if the command has ended. -/
def captureForLogs : Run Entry := do
  if entry.sourceCommandOutput.isSome then captureSourceCommandOutput host entry "exited"
  else do
    let info ← safeInspect host entry.workloadId
    if info.present = some true ∧ info.running = some false then
      captureSourceCommandOutput host entry
        (if entry.state.isTerminal then PyStr.of entry.state.name else "exited")
    else return entry

def readLogs : Run Answer := do
  let targetId ← requireOwnedContainer host entry
  match ← attempt Failure.engine? (askEngine fun world =>
      host.logs world entry.workloadId targetId) with
  | .error message => raise (.refusal "engine-failure" message)
  | .ok _ => answer host entry.workloadId entry.state none .notRequired

def opLogs : Run Answer := do
  let entry ← authorizedEntry host workloadId grant
  if entry.spec.hasSourceArchive then do
    let entry ← captureForLogs host entry
    if entry.sourceCommandOutput.isSome then
      answer host entry.workloadId entry.state none .notRequired
    else readLogs host entry
  else readLogs host entry

/-! ### Terminals and commands -/

/-- A running workspace whose container is observed to run. -/
def runningWorkspace (kindDetail stateDetail : String) : Run Entry := do
  let entry ← authorizedEntry host workloadId grant
  if entry.spec.isWorkspace = false then refuse "invalid-state" kindDetail
  else if entry.state ≠ .running then refuse "workspace-not-running" stateDetail
  else do
    let info ← safeInspect host entry.workloadId
    if info.present ≠ some true ∨ info.running ≠ some true then
      refuse "workspace-not-running" "workspace container is not running"
    else return entry

variable (expectedIdentity : Option Digest)

/-- Attach a terminal to the container of the entry. -/
def attachTerminal : Run Unit := do
  let exactId ← engineTarget host entry
  if expectedIdentity.any fun digest => digest ≠ digestOf host.py exactId then
    refuse "workspace-identity-changed" "workspace container changed after terminal preparation"
  else do
    act host .openTerminal entry.workloadId exactId
    let served ← ask host.admits
    if served then return ()
    else raise (.engine "terminal session socket ownership/mode validation failed")

def opOpenTerminal : Run Answer := do
  let entry ← runningWorkspace host grant workloadId
    "terminal attach requires a workspace workload" "terminal attach requires a running workspace"
  let free ← ask host.admits
  if free = false then refuse "terminal-limit" "daemon terminal session capacity is exhausted"
  else do
    match ← attempt Failure.engine? (attachTerminal host entry expectedIdentity) with
    | .error message => raise (.refusal "terminal-attach-failed" (message.take 300))
    | .ok _ => do
      touchActivity host entry.workloadId
      answer host entry.workloadId entry.state none .notRequired

/-- `_op_resize_terminal`, `_op_signal_terminal` and `_op_close_terminal`, which act on a session in
the daemon's memory that belongs to the workload. -/
def opTerminalSession : Run Answer := do
  let delivered ← ask host.admits
  if delivered = false then refuse "unknown-terminal" "terminal session is no longer active"
  else do
    touchActivity host workloadId
    return ⟨none, none, none, .performed⟩

def opExecWorkload : Run Answer := do
  let entry ← runningWorkspace host grant workloadId
    "typed exec requires a workspace workload" "typed exec requires a running workspace"
  match ← attempt Failure.engine? (actOnOwned host .exec entry) with
  | .error message => raise (.refusal "engine-failure" message)
  | .ok _ => do
    touchActivity host entry.workloadId
    answer host entry.workloadId entry.state none .notRequired

/-! ### Enumeration -/

def grantOwnsEntry (grant : Grant) : Except Failure Bool :=
  if entry.grantId ≠ grant.grantId.val then .ok false
  else do
    let digest ← (grant.digest host.py).mapError Failure.raised
    return entry.grantDigest.all fun recorded => recorded = digest

/-- The item of one workload; a stop outside the daemon is recorded. -/
def listOne : Run Unit := do
  match ← getEntry workloadId with
  | none => return ()
  | some entry => do
    let info ← safeInspect host workloadId
    if hasStopped entry info then do
      let finishedAt ← ask host.clock
      _ ← write fun ledger => transitionSnapshot ledger entry (stoppedState entry.spec)
        { at_ := finishedAt, exitStatus := info.exitStatus, finishedAt := some finishedAt }
      return ()
    else return ()

/-- The item of one workload that the grant covers and owns. -/
def listScoped (grant : Grant) (snapshot : Entry) : Run Unit :=
  if snapshot.workloadId ∈ grant.workloadIds then do
    if ← lift (grantOwnsEntry host snapshot grant) then listOne host snapshot.workloadId
    else return ()
  else return ()

/-- The items of the workloads in the scope of a grant. -/
def listAll : Run Unit := do
  let world ← state
  match grant with
  | none => return ()
  | some grant => (allEntries world.ledger).forM (listScoped host grant)

def opListWorkloads : Run Answer := do
  listAll host grant
  return ⟨none, none, none, .notRequired⟩

/-! ### Cancellation and removal -/

/-- The record of a cancellation whose container may still be there. -/
def recordCancelFailure (snapshotPath : Option PyStr) : Run Entry := do
  let at_ ← ask host.clock
  let finishedAt ← ask host.clock
  match ← attempt Failure.ledger? (write fun ledger =>
      transitionSnapshot ledger entry .cleanupFailed
        { at_, receipt := some .cancelCleanupFailure,
          extra := [.cleanupTargetState (some .cancelled), .cleanupFinishedAt finishedAt] ++
            (snapshotPath.map fun path => Extra.validatorSnapshotPath (some path)).toList }) with
  | .ok entry => return entry
  | .error error =>
    recordPostEffectReconciliation host entry.workloadId .cancelCasConflict error.message .cancelled
      snapshotPath

/-- The extra of a record after which no snapshot is left. -/
def noSnapshots : List Extra := [.validatorSnapshotPath none, .sourceSnapshotPath none]

def opCancel : Run Answer := do
  let entry ← authorizedEntry host workloadId grant
  if entry.state.isTerminal then
    refuse "invalid-state" s!"workload is already {entry.state.name}"
  else if entry.state = .reserved then do
    let at_ ← ask host.clock
    _ ← write fun ledger => transitionSnapshot ledger entry .cancelled
      { at_, finishedAt := some at_, receipt := some .cancelReservation }
    return ⟨some entry.workloadId, some .cancelled, none, .notRequired⟩
  else do
    _ ← assertOwnedContainer host entry true
    let complete ← cleanupEngineEffect host entry.workloadId entry.snapshotPath "cancelled"
    let found ← getEntry entry.workloadId
    let current := found.getD entry
    if complete = false then do
      let reconciled ← recordCancelFailure host current entry.snapshotPath
      answer host entry.workloadId reconciled.state none
        (if reconciled.state = .cleanupFailed then .failed else .performed)
    else do
      let at_ ← ask host.clock
      _ ← orReconcile host Caught.conflict? entry.workloadId (fun _ => .cancelCasConflict)
        .cancelled entry.snapshotPath (write fun ledger =>
          transitionSnapshot ledger current .cancelled
            { at_, finishedAt := some at_, receipt := some .cancel, extra := noSnapshots })
      answer host entry.workloadId .cancelled none .performed

def opRemove : Run Answer := do
  let entry ← authorizedEntry host workloadId grant
  _ ← assertOwnedContainer host entry true
  let complete ← cleanupEngineEffect host entry.workloadId entry.snapshotPath
    "removed_while_running"
  let found ← getEntry entry.workloadId
  let current := found.getD entry
  if complete = false then do
    _ ← recordPostEffectReconciliation host entry.workloadId .removeEngineFailure
      "engine workload absence could not be verified" .removed entry.snapshotPath
    refuse "engine-failure" "workload removal could not verify container absence"
  else do
    let at_ ← ask host.clock
    _ ← orReconcile host Caught.conflict? entry.workloadId (fun _ => .removeCasConflict)
      .removed current.snapshotPath (write fun ledger =>
        transitionSnapshot ledger current .removed { at_, extra := noSnapshots })
    return ⟨some entry.workloadId, some .removed, none, .performed⟩

/-! ### Validators -/

variable (running : Entry)

/-- The entry of a running validator, which nobody may have changed. -/
def unchangedValidator (detail : String) : Run Unit := do
  match ← getEntry running.workloadId with
  | none => refuse "state-conflict" detail
  | some current =>
    if current.state = .running ∧ current.version = running.version then return ()
    else refuse "state-conflict" detail

/-- An inspection of a validator that must succeed. -/
def inspectValidator : Run Info := do
  let info ← safeInspect host workloadId
  if info.present = none then raise (.engine "validator inspection failed") else return info

/-- The loop that observes a validator, whether it has timed out. It sleeps between two rounds, so
the deadline passes after as many rounds as there are sleeps in the timeout. -/
def pollValidator (running : Entry) : ℕ → Run (Bool × Info)
  | 0 => do
    let info ← inspectValidator host running.workloadId
    return (true, info)
  | rounds + 1 => do
    unchangedValidator running "validator durable state changed while execution was active"
    let info ← inspectValidator host running.workloadId
    if info.present = some false then
      refuse "state-conflict" "validator container disappeared while durable state remained running"
    else if info.running = some false then return (false, info)
    else do
      let overdue ← ask host.admits
      if overdue then return (true, info) else pollValidator running rounds

/-- Kill a validator that has timed out, and observe it. -/
def killValidator : Run Info := do
  _ ← attempt Failure.engine? do
    let entry ← entryRequired workloadId
    actOnOwned host .kill entry
  inspectValidator host workloadId

/-- The last observation of a validator. -/
def settleValidator (timedOut : Bool) (info : Info) : Run Info :=
  if timedOut then killValidator host workloadId else return info

/-- The observation of a validator up to its logs. -/
def observeValidator : Run (Bool × Info) := do
  let (timedOut, info) ← pollValidator host running (20 * running.spec.timeoutSeconds + 1)
  let info ← settleValidator host running.workloadId timedOut info
  unchangedValidator running "validator durable state changed before evidence collection"
  let entry ← entryRequired running.workloadId
  let targetId ← engineTarget host entry
  _ ← askEngine fun world => host.logs world running.workloadId targetId
  return (timedOut, info)

/-- The receipt of a validator whose observation failed. -/
def validatorFailureKind (caught : Caught) : ReceiptKind :=
  match caught.failure with
  | .refusal "engine-failure" _ => .validatorEngineFailure
  | _ => .validatorExecutionStateConflict

def recordValidator (timedOut : Bool) (info : Info) (finishedAt root : PyStr)
    (complete : Bool) : Run Unit := do
  let state : State := if timedOut then .timedOut else .exited
  if complete then do
    _ ← write fun ledger => transitionSnapshot ledger running state
      { at_ := finishedAt, exitStatus := info.exitStatus, finishedAt := some finishedAt,
        receipt := some .validatorRun, extra := noSnapshots }
    return ()
  else do
    let at_ ← ask host.clock
    _ ← write fun ledger => transitionSnapshot ledger running .cleanupFailed
      { at_, receipt := some .validatorRun,
        extra := [.cleanupTargetState (some state), .cleanupFinishedAt (some finishedAt),
          .cleanupExitStatus info.exitStatus, .validatorSnapshotPath (some root)] }
    return ()

/-- A validator from its start to its record. -/
def executeValidator (created : Entry) (root : PyStr) : Run Answer := do
  let workloadId := created.workloadId
  orReconcile host Caught.authority? workloadId (fun _ => .validatorStartAuthorityConflict)
    .cancelled (some root) (assertActivationAuthority host created grant)
  orReconcile host Caught.engine? workloadId (fun _ => .validatorStartEngineFailure) .failed
    (some root) (actOnOwned host .start created)
  orReconcile host Caught.authority? workloadId (fun _ => .validatorPostStartAuthorityConflict)
    .cancelled (some root) (assertActivationAuthority host created grant)
  let startedAt ← ask host.clock
  let running ← orReconcile host Caught.conflict? workloadId (fun _ => .validatorStartCasConflict)
    .failed (some root) (write fun ledger => transitionSnapshot ledger created .running
      { at_ := startedAt, startedAt := some startedAt })
  let (timedOut, info) ← orReconcile host Caught.execution? workloadId validatorFailureKind .failed
    (some root) (observeValidator host running)
  let finishedAt ← ask host.clock
  let complete ← cleanupEngineEffect host workloadId (some root) "interrupted"
  orReconcile host Caught.conflict? workloadId (fun _ => .validatorFinalizeCasConflict) .failed
    (some root) (recordValidator host running timedOut info finishedAt root complete)
  return ⟨some workloadId, none, info.exitStatus, if complete then .performed else .failed⟩

/-- The staged snapshot of a validator; what a refused one left is removed. -/
def stageValidator : Run PyStr := do
  match ← ask fun world => host.stage world spec with
  | .ok root => return root
  | .error (detail, left) => do
    _ ← removeSnapshotPath host left
    raise (.refusal "staging-identity-unreadable" detail)

/-- The reservation of a validator; without one its snapshot is removed. -/
def reserveValidator (root : PyStr) : Run Entry := do
  let at_ ← ask host.clock
  match ← attempt Failure.ledger? (write fun ledger =>
      reserve ledger spec at_ binding limits) with
  | .ok reservation => return reservation
  | .error error => do
    _ ← removeSnapshotPath host (some root)
    raise (.refusal
      (if error.message.hasSubstring "already has a ledger entry" then "duplicate-workload"
        else "workload-limit") error.message)

def opRunValidator (spec : Spec) : Run Answer :=
  if spec.kind ≠ .validatorRun then
    refuse "contract-violation" "runValidator requires a validator-run workload"
  else do
    let root ← stageValidator host spec
    let binding ← lift (grantBinding host request grant)
    let reservation ← reserveValidator host spec binding (limitsOf grant) root
    activateReservation host reservation grant .validatorAuthorityWithdrawn .cancelled (some root)
    let created ← createContainer host spec reservation .failed (some root)
      .validatorCreateEngineFailure .validatorCreateCasConflict
      [.validatorSnapshotPath (some root)]
    executeValidator host grant created root

/-! ### Garbage -/

/-- The workload of an enumerated container, if its name can be one. -/
def managedId (item : Managed) : Option Id :=
  item.workloadId.bind fun workloadId =>
    if h : isId workloadId then some ⟨workloadId, h⟩ else none

/-- Remove the container of a terminal entry. -/
def removeGarbage : Run Unit := do
  let targetId ← engineTarget host entry
  _ ← captureSourceCommandOutput host entry (PyStr.of entry.state.name)
  act host .remove entry.workloadId targetId
  if ← removeSnapshotPath host entry.sourceSnapshotPath then return ()
  else raise (.engine "source snapshot cleanup failed")

/-- What is caught for each container. -/
def garbageFailure? : Failure → Option PyStr
  | .engine message => some message
  | .ledger error => some error.message
  | _ => none

/-- One container of the enumeration; whether it is left. -/
def collectOne (item : Managed) : Run Bool := do
  if item.workloadId.all (fun workloadId => workloadId = []) then return false
  else
    match managedId item with
    -- No entry is stored under such a name: nothing owns the container.
    | none => return true
    | some workloadId =>
      match ← getEntry workloadId with
      | none => return true
      | some entry =>
        if entry.state.isTerminal = false then return false
        else do
          let result ← attempt garbageFailure? (removeGarbage host entry)
          return result.toOption.isNone

/-- The containers that could not be removed. -/
def collectAll : List Managed → Run ℕ
  | [] => return 0
  | item :: items => do
    let left ← collectOne host item
    let rest ← collectAll items
    return if left then rest + 1 else rest

def opCollectGarbage : Run Answer := do
  let managed ← askEngine host.listManaged
  let failures ← collectAll host managed
  if failures = 0 then return ⟨none, none, none, .performed⟩
  else refuse "engine-failure" "terminated managed containers could not be removed"

/-! ### Dispatch -/

/-- The requests of the clients that reach the engine or the ledger of workloads. -/
inductive Command where
  | createWorkload (spec : Spec) (hasSource : Bool)
  | start (workloadId : Id)
  | stop (workloadId : Id)
  | status (workloadId : Id)
  | logs (workloadId : Id)
  | cancel (workloadId : Id)
  | removeWorkload (workloadId : Id)
  | openTerminal (workloadId : Id) (expectedIdentity : Option Digest)
  | terminalSession (workloadId : Id)
  | execWorkload (workloadId : Id)
  | listWorkloads
  | collectGarbage
  | runValidator (spec : Spec)

def dispatch : Command → Run Answer
  | .createWorkload spec hasSource => opCreate host request grant spec hasSource
  | .start workloadId => opStart host grant workloadId
  | .stop workloadId => opStop host grant workloadId
  | .status workloadId => opStatus host grant workloadId
  | .logs workloadId => opLogs host grant workloadId
  | .cancel workloadId => opCancel host grant workloadId
  | .removeWorkload workloadId => opRemove host grant workloadId
  | .openTerminal workloadId expectedIdentity =>
    opOpenTerminal host grant workloadId expectedIdentity
  | .terminalSession workloadId => opTerminalSession host workloadId
  | .execWorkload workloadId => opExecWorkload host grant workloadId
  | .listWorkloads => opListWorkloads host grant
  | .collectGarbage => opCollectGarbage host
  | .runValidator spec => opRunValidator host request grant spec

/-- Everything that the daemon does: answer a request, supervise, and reconcile after a restart. -/
inductive Activity where
  | request (request : OperationRequest) (grant : Option Grant) (command : Command)
  | supervise
  | boot (at_ : PyStr)

/-- Carry out an activity. -/
def perform : Activity → Run Unit
  | .request request grant command => do
    _ ← dispatch host request grant command
    return ()
  | .supervise => superviseAll host
  | .boot at_ => do
    _ ← reconcileOnBoot host at_
    return ()

end

/-! ### Histories of the daemon -/

/-- An activity against any surroundings; the daemon is killed before its last `lost` actions. -/
structure Operated where
  host : Host
  activity : Activity
  lost : ℕ

def afterActivity (ledger : Ledger) (operated : Operated) : Ledger :=
  replay ledger
    ((perform operated.host operated.activity ⟨ledger, [], 0⟩).2.trace.drop operated.lost)

/-- The ledgers that the daemon can leave behind. -/
def Reachable (ledger : Ledger) : Prop :=
  StatePort.Run afterActivity anyEvent (Table.empty Entry.workloadId) ledger

end StatePort.Daemon
