import StatePort.Algorithm.Effect
import StatePort.Daemon.Grants
import StatePort.Daemon.Ledger

/-!
# The daemon and what surrounds it

The parts of `packages/execution-host/src/execution_host/daemon.py` that all operations share:
inspections, the ownership check before every engine effect, the capture of command output and the
cleanup of an effect whose record was lost.

A computation of the daemon runs on the ledger and on a trace of what it did to the engine and to
the ledger, newest first. The engine, the grant store, the staging area and the clock are `Host`:
they answer each question as they please, and may answer the same question differently the next
time, since every answer may depend on the whole world that the daemon has seen so far.

An operation on a workload holds the lock of that workload, so nobody else writes its entry
meanwhile. Terminal sessions, which live in memory only, and the texts of receipts are left out.
-/

namespace StatePort.Daemon

open Effect

/-- The engine calls that act on a container. -/
inductive Verb where
  | start | stop | kill | remove | exec | openTerminal

/-- What the daemon does to the engine and to the ledger. -/
inductive Event where
  | inspected (workloadId : Id) (info : Info)
  /-- A call with `expected_container_id`, whether or not it succeeds. -/
  | called (verb : Verb) (workloadId : Id) (containerId : PyStr)
  | wrote (entry : Entry)

/-- What the daemon has done, newest first, and the ledger that it has left. -/
structure World where
  ledger : Ledger
  trace : List Event
  /-- The number of questions asked so far. -/
  questions : ℕ

/-- The ledger after the actions of a trace, newest first. -/
def replay (ledger : Ledger) : List Event → Ledger
  | [] => ledger
  | .wrote entry :: earlier => (replay ledger earlier).put entry
  | _ :: earlier => replay ledger earlier

/-- The exceptions of the daemon. -/
inductive Failure where
  | refusal (reason : String) (detail : PyStr)
  | ledger (error : LedgerError)
  | engine (message : PyStr)
  | raised (error : Raised)

namespace Failure

/-- `except EngineError`. -/
def engine? : Failure → Option PyStr
  | .engine message => some message
  | _ => none

/-- `except LedgerError`. -/
def ledger? : Failure → Option LedgerError
  | .ledger error => some error
  | _ => none

/-- `except _Refusal`. -/
def refusal? : Failure → Option (String × PyStr)
  | .refusal reason detail => some (reason, detail)
  | _ => none

end Failure

/-- What `engine.logs` returns. -/
structure Logs where
  bytes : PyStr
  byteCount : ℕ
  truncated : Bool

/-- A container that the engine enumerates. -/
structure Managed where
  workloadId : Option PyStr
  labels : Option Labels

/-- The steps of a source seed that the engine performs. -/
inductive SeedStep where
  | validateCapability | reconcile | seed | finish

/-- The surroundings of the daemon. An engine call fails with the text of an `EngineError`. -/
structure Host where
  py : Interpreter
  inspect : World → Id → Except PyStr Info
  act : World → Verb → Id → PyStr → Except PyStr Unit
  logs : World → Id → PyStr → Except PyStr Logs
  create : World → Spec → Except PyStr PyStr
  listManaged : World → Except PyStr (List Managed)
  sourceSeed : World → SeedStep → Spec → Except PyStr Unit
  (validateAgentProvider verifyWorkspaceVolumes : World → Spec → Except PyStr Unit)
  /-- The root of a staged snapshot, or why staging was refused and what it left. -/
  stage : World → Spec → Except (PyStr × Option PyStr) PyStr
  /-- Why a snapshot could not be removed. -/
  removeSnapshot : World → PyStr → Option PyStr
  clock : World → PyStr
  grants : World → GrantStore
  /-- The seconds since an instant, if it can be parsed. -/
  elapsed : World → PyStr → Option ℚ
  /-- The seconds since the last activity of a workspace, if its stamp can be parsed. -/
  idleFor : World → Entry → Option ℚ
  /-- Whether a check that reads only the memory of the daemon passes. -/
  admits : World → Bool

/-- A computation of the daemon. -/
abbrev Run (α : Type) := Effect World Failure α

/-! ### Questions and records -/

def ask {α : Type} (question : World → α) : Run α := do
  let world ← state
  modify fun world => { world with questions := world.questions + 1 }
  return question world

/-- Ask the engine, which may raise `EngineError`. -/
def askEngine {α : Type} (question : World → Except PyStr α) : Run α := do
  match ← ask question with
  | .ok a => return a
  | .error message => raise (.engine message)

def record (event : Event) : Run Unit :=
  modify fun world => { world with trace := event :: world.trace }

/-- The entry of a workload: `ledger.get(workload_id)`. -/
def getEntry (workloadId : Id) : Run (Option Entry) := do
  let world ← state
  return world.ledger.find? workloadId

def write (method : Ledger → Except LedgerError (Entry × Ledger)) : Run Entry := do
  let world ← state
  match method world.ledger with
  | .error error => raise (.ledger error)
  | .ok (entry, ledger) =>
    modify fun world => { world with ledger, trace := .wrote entry :: world.trace }
    return entry

def raiseLedger {α : Type} (message : String) : Run α := raise (.ledger ⟨message⟩)

def refuse {α : Type} (reason detail : String) : Run α := raise (.refusal reason detail)

section

variable (host : Host)

/-- `engine.inspect(workload_id)`. -/
def inspect (workloadId : Id) : Run Info := do
  let info ← askEngine fun world => host.inspect world workloadId
  record (.inspected workloadId info)
  return info

/-- An engine call on a container. -/
def act (verb : Verb) (workloadId : Id) (containerId : PyStr) : Run Unit := do
  record (.called verb workloadId containerId)
  askEngine fun world => host.act world verb workloadId containerId

def failedInspection : Info where
  present := none
  running := none
  containerId := none
  labels := none
  imageDigest := none
  exitStatus := none
  workspaceImageVerified := false
  rootless := false
  user := none
  usernsMode := none

def safeInspect (workloadId : Id) : Run Info := do
  match ← attempt Failure.engine? (inspect host workloadId) with
  | .ok info => return info
  | .error _ => return failedInspection

/-! ### Ownership -/

/-- The daemon's `_container_identity_error`: no container is owned without an entry. -/
def ownershipError (entry : Option Entry) (info : Info) : Option String :=
  match entry with
  | none => some "no durable workload owns the container name"
  | some entry => containerIdentityError entry info

variable (entry : Entry)

/-- The id of a container that an inspection found to be the entry's. -/
def ownedContainer (info : Info) : Run PyStr :=
  match containerIdentityError entry info with
  | some error => refuse "foreign-container" error
  | none => return info.containerId.getD []

/-- `_assert_owned_container`; an absent container is `none` if it is allowed. -/
def assertOwnedContainer (allowAbsent : Bool) : Run (Option PyStr) := do
  let info ← safeInspect host entry.workloadId
  match info.present with
  | none => refuse "container-identity-unavailable" "container identity could not be inspected"
  | some false =>
    if allowAbsent then
      return none
    else
      refuse "container-absent" "the managed container is absent; no engine action was attempted"
  | some true => do
    let containerId ← ownedContainer entry info
    return some containerId

/-- `_assert_owned_container(entry)`. -/
def requireOwnedContainer : Run PyStr := do
  let containerId ← assertOwnedContainer host entry false
  return containerId.getD []

/-- `_engine_target`: refusals become engine errors. -/
def engineTarget : Run PyStr := do
  match ← attempt Failure.refusal? (requireOwnedContainer host entry) with
  | .ok containerId => return containerId
  | .error refusal => raise (.engine refusal.2)

/-- An engine call on the container of an entry. -/
def actOnOwned (verb : Verb) (entry : Entry) : Run Unit := do
  let containerId ← engineTarget host entry
  act host verb entry.workloadId containerId

/-! ### Source commands -/

def markSourceTermination (reason : String) : Run Entry :=
  if entry.spec.hasSourceArchive = false ∨ entry.sourceCommandOutput.isSome ∨
      entry.sourceTerminationReason.isSome then
    return entry
  else do
    let at_ ← ask host.clock
    write fun ledger => transitionSnapshot ledger entry entry.state
      { at_, extra := [.sourceTerminationReason reason] }

/-- The terminal inspection of a source command and its logs; `none` if no command started. -/
def observeSourceCommand : Run (Option (Info × Logs)) := do
  let info ← inspect host entry.workloadId
  if info.present = some false ∧ entry.containerId = none then
    return none
  else if info.present ≠ some true ∨ info.running ≠ some false then
    raiseLedger "source command terminal output is not observable"
  else if (containerIdentityError entry info).isSome then
    raiseLedger "source command output belongs to a foreign container"
  else do
    let logs ← askEngine fun world => host.logs world entry.workloadId (info.containerId.getD [])
    return some (info, logs)

/-- Why a source command ended. -/
def terminationReasonOf (reason : PyStr) : PyStr :=
  if entry.startedAt.isNone then PyStr.of "not-started"
  else entry.sourceTerminationReason.getD reason

/-- The evidence of a source command, if its output and status are valid. -/
def commandOutput (info : Info) (logs : Logs) (reason : PyStr) : Except Failure CommandOutput := do
  raiseIf (PyStr.isEncodable logs.bytes = false) (.raised (.unicodeEncodeError []))
  raiseIf (logs.byteCount ≠ PyStr.utf8Length logs.bytes ∨
    entry.spec.outputByteBound < logs.byteCount)
    (.ledger ⟨"source command output exceeded or invalidated its bound"⟩)
  raiseIf (info.exitStatus = none ∧ entry.startedAt.isSome)
    (.ledger ⟨"source command exit status is not observable"⟩)
  return {
    specDigest := entry.specDigest
    intact := true
    output := logs.bytes
    byteCount := logs.byteCount
    truncated := logs.truncated
    exitStatus := info.exitStatus
    terminationReason := terminationReasonOf entry reason }

/-- The output that an entry already has is the output of its own spec. -/
def CommandOutput.isValidFor (output : CommandOutput) (entry : Entry) : Bool :=
  output.intact && decide (output.specDigest = entry.specDigest)

def captureSourceCommandOutput (reason : PyStr) : Run Entry :=
  if entry.spec.kind ≠ .agentRun ∨ entry.spec.hasSourceArchive = false then return entry
  else
    match entry.sourceCommandOutput with
    | some existing =>
      if existing.isValidFor entry then return entry
      else raiseLedger "source command output identity is invalid"
    | none => do
      match ← attempt some (observeSourceCommand host entry) with
      | .error _ => raiseLedger "source command output could not be captured; container retained"
      | .ok none => return entry
      | .ok (some (info, logs)) => do
        let output ← lift (commandOutput entry info logs reason)
        let at_ ← ask host.clock
        write fun ledger => transitionSnapshot ledger entry entry.state
          { at_, receipt := some .sourceCommandOutput, extra := [.sourceCommandOutput output] }

/-! ### Cleanup -/

/-- `_residual_evidence`: whether the container is present, and whether it is running. -/
def residualEvidence (workloadId : Id) : Run (Option Bool × Option Bool) := do
  let info ← safeInspect host workloadId
  return (info.present, info.running)

/-- `_remove_snapshot_path`: whether nothing is left. -/
def removeSnapshotPath (snapshotPath : Option PyStr) : Run Bool :=
  match snapshotPath with
  | none => return true
  | some path => do
    let error ← ask fun world => host.removeSnapshot world path
    return error.isNone

variable (current : Entry)

/-- The reason with which the output of a cleaned-up command is captured. -/
def cleanupReason (wasRunning : Bool) (terminationReason : String) : PyStr :=
  if wasRunning then PyStr.of terminationReason
  else if current.state.isTerminal then PyStr.of current.state.name
  else PyStr.of "exited"

/-- The source command of a container that is about to be stopped. -/
def markCurrent (workloadId : Id) (terminationReason : String) : Run Unit := do
  match ← getEntry workloadId with
  | none => return ()
  | some current =>
    _ ← markSourceTermination host current terminationReason
    return ()

/-- The output of a command whose container is about to be removed. -/
def captureCurrent (workloadId : Id) (wasRunning : Bool) (terminationReason : String) :
    Run Unit := do
  match ← getEntry workloadId with
  | none => return ()
  | some current =>
    _ ← captureSourceCommandOutput host current (cleanupReason current wasRunning terminationReason)
    return ()

/-- Stop and remove the container of an inspection; `false` if its output could not be captured. -/
def stopAndRemove (workloadId : Id) (initial : Info) (terminationReason : String) : Run Bool := do
  let containerId := initial.containerId.getD []
  if initial.running = some true then markCurrent host workloadId terminationReason
  _ ← attempt Failure.engine? (act host .stop workloadId containerId)
  match ← attempt Failure.ledger? (captureCurrent host workloadId
      (initial.running = some true) terminationReason) with
  | .error _ => return false
  | .ok _ => do
    _ ← attempt Failure.engine? (act host .remove workloadId containerId)
    return true

/-- Whether the container is verified to be absent, and its snapshot removed. -/
def verifyAbsent (workloadId : Id) (snapshotPath : Option PyStr) : Run Bool := do
  let residual ← residualEvidence host workloadId
  if residual.1 = some false then removeSnapshotPath host snapshotPath else return false

/-- What an unfinished cleanup returns, after the residual has been observed. -/
def incomplete (workloadId : Id) : Run Bool := do
  _ ← residualEvidence host workloadId
  return false

/-- A source seed that was started and not completed. -/
def hasPartialSeed (entry : Option Entry) : Bool :=
  entry.any fun entry => entry.sourceSeedStatus = some .started ∨
    entry.sourceSeedStatus = some .failed

/-- `_cleanup_engine_effect`: whether the workload's container is verified to be gone. -/
def cleanupEngineEffect (workloadId : Id) (snapshotPath : Option PyStr)
    (terminationReason : String) : Run Bool := do
  let seeded ← getEntry workloadId
  if hasPartialSeed seeded then incomplete host workloadId
  else do
    let initial ← safeInspect host workloadId
    match initial.present with
    | none => incomplete host workloadId
    | some false => verifyAbsent host workloadId snapshotPath
    | some true => do
      let entry ← getEntry workloadId
      if (ownershipError entry initial).isSome then incomplete host workloadId
      else do
        let captured ← stopAndRemove host workloadId initial terminationReason
        if captured then verifyAbsent host workloadId snapshotPath
        else incomplete host workloadId

/-- The snapshot that an entry still holds. -/
def Entry.snapshotPath : Option PyStr :=
  entry.sourceSnapshotPath <|> entry.validatorSnapshotPath

def Entry.terminalOr (target : State) : State :=
  if entry.state.isTerminal then entry.state else target

/-- `_failure_fields` of a state that is `failed`. -/
def failureFields (state : State) (detail : PyStr) : List Extra :=
  if state = .failed then [.other "failureDetail" (.str detail)] else []

/-- What the reconciliation of an effect records in place of an entry. -/
def reconciledState (complete : Bool) (target : State) : State :=
  if complete then current.terminalOr target else .cleanupFailed

def reconciledExtra (complete : Bool) (target : State) (at_ : PyStr)
    (snapshotPath : Option PyStr) (detail : PyStr) : List Extra :=
  if complete then failureFields (current.terminalOr target) detail
  else [.cleanupTargetState (current.terminalOr target), .cleanupFinishedAt at_] ++
    failureFields (current.terminalOr target) detail ++
    (snapshotPath.map fun path => Extra.validatorSnapshotPath path).toList

/-- The attempts of `_record_post_effect_reconciliation` to record its outcome. -/
def recordReconciliation (workloadId : Id) (kind : ReceiptKind) (detail : PyStr) (target : State)
    (snapshotPath : Option PyStr) (complete : Bool) : ℕ → Run Entry
  | 0 => raiseLedger "effect cleanup could not be durably reconciled"
  | attempts + 1 => do
    match ← getEntry workloadId with
    | none => raiseLedger "workload vanished during effect cleanup"
    | some current => do
      let at_ ← ask host.clock
      match ← attempt Failure.ledger? (write fun ledger =>
          transitionSnapshot ledger current (reconciledState current complete target)
            { at_, finishedAt := some at_, receipt := some kind,
              extra := reconciledExtra current complete target at_ snapshotPath detail }) with
      | .ok entry => return entry
      | .error _ =>
        recordReconciliation workloadId kind detail target snapshotPath complete attempts

def recordPostEffectReconciliation (workloadId : Id) (kind : ReceiptKind) (detail : PyStr)
    (target : State) (snapshotPath : Option PyStr) : Run Entry := do
  let complete ← cleanupEngineEffect host workloadId snapshotPath "interrupted"
  recordReconciliation host workloadId kind detail target snapshotPath complete 16

/-! ### Authority and activity -/

/-- A refusal of the grant store is a refusal of the daemon. -/
def Failure.ofGrant : GrantFailure → Failure
  | .refusal reason detail => .refusal reason detail
  | .raised error => .raised error

def boundDigest (grant : Grant) : Except Failure Digest :=
  match entry.grantDigest with
  | some digest => .ok digest
  | none => (grant.digest host.py).mapError .raised

def assertActivationAuthority (grant : Option Grant) : Run Unit :=
  let mismatch := refuse "grant-identity-mismatch"
    "the activating grant does not own the durable workload reservation"
  match grant with
  | none => mismatch
  | some grant =>
    if grant.grantId.val ≠ entry.grantId then mismatch
    else do
      let expected ← lift (boundDigest host entry grant)
      let store ← ask host.grants
      _ ← lift ((store.assertLive host.py entry.grantId (some expected)).mapError Failure.ofGrant)
      return ()

def touchActivity (workloadId : Id) : Run Unit := do
  match ← getEntry workloadId with
  | none => return ()
  | some entry =>
    if entry.state.isTerminal then return ()
    else do
      let at_ ← ask host.clock
      _ ← write fun ledger => transitionSnapshot ledger entry entry.state
        { at_, extra := [.lastActivityAt at_] }
      return ()

end

end StatePort.Daemon
