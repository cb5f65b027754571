import StatePort.Goal.Session

/-!
# The coordinator of goal sessions

`packages/goal-execution/src/stateport_goal_execution/coordinator.py`, for one instance. The
coordinator keeps the session of the instance and the last projection of it in memory, and stores
each projection as the record of the instance. Every stored record carries a revision, one more than
that of the projection in memory or, if there is none, of the stored record. A restart loses what is
in memory.

A projection is given by the fields that the coordinator reads back: the revision, the state and the
backend. A record of more than 2 MiB is stored but never read. Arguments of an operation say what
Git, the backends and the file system do; the registry is shared with other instances, whose
operations may change it in between. A write that fails leaves the old record in place.
-/

namespace StatePort.Goal

open Effect

open Daemon (Interpreter Digest)

/-- The fields of a projection that are read back. -/
structure View where
  /-- `None` in the dictionary that `prepare` puts in place before it stores a record. -/
  revision : Option ℕ
  (state backendId : Option PyStr)

structure Record where
  view : View
  /-- More than 2 MiB. -/
  oversized : Bool

/-- What the file system does with a record. -/
inductive Write where
  | fails (e : Raised)
  | stores (oversized : Bool)

/-- The coordinator, for one instance, and the stored record. -/
structure Coordinator where
  registry : InstanceApprovalLeaseRegistry
  session : Option Session
  projection : Option View
  disk : Option Record
  /-- The revisions of all records that were stored, the last one first. -/
  persisted : List ℕ

/-- A coordinator in an operation, with what becomes of its next writes. -/
structure Working extends Coordinator where
  writes : List Write

/-- An operation of the coordinator. -/
abbrev Coordinated (α : Type) := Effect Working Raised α

variable (c : Coordinator)

namespace Coordinator

/-- A new service on an empty store. -/
def start : Coordinator := ⟨.new, none, none, none, []⟩

/-- The revision that the next record follows. -/
def previousRevision : ℕ :=
  match c.projection with
  | some view => view.revision.getD 0
  | none =>
    match c.disk with
    | some record => if record.oversized then 0 else record.view.revision.getD 0
    | none => 0

/-- `_projection`. -/
def view (session : Session) : View where
  revision := none
  state := some session.state.value
  backendId := c.projection.bind View.backendId

def stored (view : View) : View :=
  { view with revision := some (c.previousRevision + 1) }

end Coordinator

/-- `raise GovernanceRefusal(code, message)`. -/
def refuseWith {α : Type} (code message : PyStr) : Coordinated α :=
  raise (.governanceRefusal code message false)

/-- `if c: raise GovernanceRefusal(code, message)`. -/
def refuseWhen (c : Prop) [Decidable c] (code message : PyStr) : Coordinated PUnit :=
  if c then refuseWith code message else pure ⟨⟩

def persist (view : View) : Coordinated View := fun w =>
  let value := w.toCoordinator.stored view
  match w.writes.headD (.stores false) with
  | .fails e => (.error e, { w with writes := w.writes.tail })
  | .stores oversized =>
    (.ok value,
      { w with
        projection := some value
        disk := some ⟨value, oversized⟩
        persisted := (w.previousRevision + 1) :: w.persisted
        writes := w.writes.tail })

def notPrepared : View := ⟨some 0, some "not_prepared", none⟩

/-- The states of a record that is not in flight. -/
def View.isEnded (view : View) : Bool :=
  view.state ∈ [some (PyStr.of "closed"), some (PyStr.of "stopped"), some (PyStr.of "off")]

def inspect : Coordinated View := fun w =>
  match w.session with
  | some session => (.ok (w.projection.getD (w.view session)), w)
  | none =>
    match w.disk with
    | none => (.ok notPrepared, w)
    | some record =>
      if record.oversized then (.ok notPrepared, w)
      else if record.view.isEnded then (.ok record.view, w)
      else persist { record.view with state := some "stopped" } w

def requireRevision (expectedRevision : ℤ) : Coordinated PUnit := do
  refuseWhen (expectedRevision < 0) "revision_invalid" "goal execution revision is invalid"
  let view ← inspect
  refuseWhen (view.revision.map Int.ofNat ≠ some expectedRevision) "revision_stale"
    "goal execution state changed; inspect it again"

/-! ### Methods of the session -/

def onSession {α : Type} (method : Method α) : Coordinated α := fun w =>
  match w.session with
  | none => (.error .assertionError, w)
  | some session =>
    match method ⟨w.registry, session⟩ with
    | (result, g) => (result, { w with registry := g.registry, session := some g.session })

/-- `self._persist(instance_id, self._projection(session))`. -/
def persistSession : Coordinated PUnit := fun w =>
  match w.session with
  | none => (.error .assertionError, w)
  | some session => (do let _ ← persist (w.view session)) w

/-- `except GovernanceRefusal as exc`, if `exc.terminal`. -/
def terminal? : Raised → Option Raised
  | .governanceRefusal code message true => some (.governanceRefusal code message true)
  | _ => none

def transition (method : Method PUnit) : Coordinated PUnit := do
  match ← attempt terminal? (onSession method) with
  | .ok _ => pure ⟨⟩
  | .error e =>
    persistSession
    raise e

def stopAndPersist {α : Type} (code message : PyStr) : Coordinated α := do
  match ← attempt terminal? (onSession (refuse (α := PUnit) code message true)) with
  | .ok _ => raise .assertionError
  | .error e =>
    persistSession
    raise e

/-- A commit and its tree. -/
abbrev Identity := PyStr × PyStr

/-- `_bound_identity`, with what `_git_identity` returns or raises. -/
def boundIdentity (git : Except Raised Identity) : Coordinated Identity :=
  match git with
  | .ok identity => pure identity
  | .error (.governanceRefusal code _ _) =>
    stopAndPersist code "the selected project no longer matches its exact clean snapshot"
  | .error e => raise e

/-! ### Operations -/

/-- The arguments of `prepare`. -/
structure Prepare where
  /-- Nothing if the mode is unsupported. -/
  mode : Option OrchestratorMode
  expectedRevision : ℤ
  expectedBaseCommit : PyStr
  /-- What `_resolve_backend` returns or raises. -/
  backend : Except Raised PyStr
  git : Except Raised Identity
  /-- The contracts that `prepare` builds from the repository, or what it raises. -/
  contracts : Except Raised SessionArguments

/-- `prepare` with mode `off` stops a session that has not ended. -/
def disableSession : Coordinated PUnit := do
  let w ← state
  if (w.session.any fun session => !session.state.isTerminal) then
    _ ← attempt terminal? (onSession (refuse (α := PUnit) "operator_disabled"
      "the authenticated operator disabled CTO mode" true))
  else pure ⟨⟩

/-- `prepare` with mode `off`. -/
def prepareOff : Coordinated PUnit := do
  disableSession
  modify fun w => { w with session := none }
  _ ← persist ⟨none, some "off", none⟩

/-- The entry of `_projections` that `prepare` updates: an existing one keeps its revision. -/
def preparedView (projection : Option View) (backendId : PyStr) : View :=
  match projection with
  | some view => { view with backendId := some backendId }
  | none => ⟨none, none, some backendId⟩

variable (py : Interpreter)

/-- `prepare` with another mode. -/
def prepareSession (arguments : Prepare) (backendId : PyStr) : Coordinated PUnit := do
  let w ← state
  refuseWhen ((w.session.any fun session => !session.state.isTerminal)) "active_item_exists"
    "one goal item is already active for this application"
  let identity ← lift arguments.git
  refuseWhen (arguments.expectedBaseCommit ≠ identity.1) "base_drift"
    "repository base changed before CTO preparation"
  let contracts ← lift arguments.contracts
  let session ← fun w =>
    match newSession py contracts w.registry with
    | (result, registry) => (result, { w with registry })
  modify fun w =>
    { w with projection := some (preparedView w.projection backendId), session := some session }
  persistSession

def prepare (arguments : Prepare) : Coordinated PUnit :=
  match arguments.mode with
  | none => refuseWith "mode_unsupported" "CTO mode is unsupported"
  | some .off => do
    requireRevision arguments.expectedRevision
    prepareOff
  | some _ => do
    let backendId ← lift arguments.backend
    requireRevision arguments.expectedRevision
    prepareSession py arguments backendId

/-- The session of the instance, or a refusal. -/
def requireSession (code message : PyStr) : Coordinated Session := do
  let w ← state
  match w.session with
  | some session => pure session
  | none => refuseWith code message

/-- `approve`. -/
def coordinateApprove (expectedRevision : ℤ) (expectedPlanDigest actor : PyStr)
    (git : Except Raised Identity) : Coordinated PUnit := do
  requireRevision expectedRevision
  let session ← requireSession "proposal_not_prepared" "no CTO proposal is prepared"
  let identity ← boundIdentity git
  transition (approve py {
    actor, expectedPlanDigest
    currentBaseCommit := identity.1
    currentBaseTree := identity.2
    currentStateSnapshotDigest := session.plan.val.stateSnapshotDigest
    approvedPermissions := session.plan.val.requiredPermissions
    approvedSideEffectClass := session.plan.val.sideEffectClass
    approvedBudget := session.plan.val.maximumBudget })
  persistSession

/-- What a backend does with an execution that has begun. -/
inductive Execution where
  | returns (result : Checked ExecutionResult)
  /-- It raises, and nothing has been stored. -/
  | raises (e : Raised)
  /-- The repository is not the approved one any more: the session is stopped. -/
  | drifts (code message : PyStr)

/-- What `execute` does after `begin_execution`. -/
def executeBegun : Execution → Coordinated PUnit
  | .returns result => transition (recordExecution py result)
  | .raises e => raise e
  | .drifts code message => stopAndPersist code message

/-- What becomes of an exception of the execution: `except GovernanceRefusal` passes one of a stopped
session on, and every other exception stops the session. -/
def executionFailed (validated : Bool) (e : Raised) : Coordinated PUnit := do
  let w ← state
  match e with
  | .governanceRefusal code message terminal =>
    if terminal ∧ (w.session.any fun session => session.state = .stopped) then
      raise e
    else stopAndPersist code message
  | _ =>
    stopAndPersist (if validated then "execution_validation_failed" else "base_drift")
      "execution did not retain its exact validated snapshot"

/-- The arguments of `execute`. -/
structure Execute where
  expectedRevision : ℤ
  expectedPlanDigest : PyStr
  git : Except Raised Identity
  allowSyntheticBackend : Bool
  execution : Execution
  /-- Whether the repository is still the approved one after an exception. -/
  validated : Bool

/-- The backends that `execute` knows. -/
def knownBackends : List PyStr := ["fake", "opencode_container", "sandbox_bwrap"]

def execute (arguments : Execute) : Coordinated PUnit := do
  requireRevision arguments.expectedRevision
  let session ← requireSession "plan_identity_mismatch" "execution does not bind the prepared slice"
  let planDigest ← lift (digest py session.plan)
  refuseWhen (arguments.expectedPlanDigest ≠ planDigest.val) "plan_identity_mismatch"
    "execution does not bind the prepared slice"
  let identity ← boundIdentity arguments.git
  let w ← state
  let backendId := w.projection.bind View.backendId
  refuseWhen (backendId = some (PyStr.of "fake") ∧ arguments.allowSyntheticBackend = false)
    "goal_backend_unavailable"
    "the prepared slice names the test-only synthetic backend, which is not enabled on this service; execution is refused rather than fabricated"
  refuseWhen ((backendId.any fun backendId => backendId ∈ knownBackends) = false)
    "goal_backend_unavailable"
    "the prepared slice does not bind a configured execution backend; execution is refused rather than fabricated"
  let profileDigest ← lift (digest py session.profile)
  let delegationDigest ← lift (digest py session.delegation)
  transition (beginExecution {
    actor := session.delegation.val.implementerActor
    currentBaseCommit := identity.1
    currentBaseTree := identity.2
    currentStateSnapshotDigest := session.plan.val.stateSnapshotDigest
    currentOrchestratorProfileDigest := profileDigest.val
    currentPolicyDigest := session.effectivePolicyDigest
    currentDelegationPlanDigest := delegationDigest.val
    actualPermissions := session.plan.val.requiredPermissions
    sideEffectClass := session.plan.val.sideEffectClass
    currentBudgetCeiling := session.plan.val.maximumBudget })
  match ← attempt some (executeBegun py arguments.execution) with
  | .ok _ => pure ⟨⟩
  | .error e => executionFailed arguments.validated e
  persistSession

/-- The arguments of `review`. -/
structure Review where
  expectedRevision : ℤ
  expectedResultDigest : PyStr
  git : Except Raised Identity
  /-- Whether the review workspace exists already, or what the preparation of its parent raises. -/
  workspaceExists : Except Raised Bool
  /-- The isolation evidence of the first verification, or what the preparation of the workspace
  raises. -/
  isolation : Except Raised (Checked ReviewWorkspaceIsolation)
  /-- What the second verification returns, or nothing if it raises. -/
  verified : Option (Checked ReviewWorkspaceIsolation)
  /-- What the removal of the workspace raises. -/
  removal : Except Raised PUnit

/-- The review that the coordinator submits. -/
def coordinatedReview (session : Session) (result : Checked ExecutionResult)
    (isolation : Checked ReviewWorkspaceIsolation) : Except Raised (Checked ReviewRecord) := do
  let acceptanceDigest ← digest py session.acceptance
  let isolationDigest ← digest py isolation
  construct {
    reviewId := "review-provider-free-inspection-v1"
    itemId := result.val.itemId
    reviewerActor := session.delegation.val.reviewerActor
    functionalCommit := result.val.functionalCommit
    functionalTree := result.val.functionalTree
    testResultDigest := result.val.testResultDigest
    acceptanceContractDigest := acceptanceDigest.val
    isolationEvidenceDigest := isolationDigest.val
    contractVersions := result.val.contractVersions
    disposition := "accepted"
    : ReviewRecord }

/-- An exception that is not a refusal. -/
def unexpected? : Raised → Option Raised
  | .governanceRefusal _ _ _ => none
  | e => some e

variable (arguments : Review) (session : Session) (result : Checked ExecutionResult)

/-- The review of the prepared workspace. -/
def submitCoordinated : Coordinated PUnit := do
  let isolation ← lift arguments.isolation
  let review ← lift (coordinatedReview py session result isolation)
  transition (submitReview py review arguments.verified)

/-- The `try` of `review`: a refusal is passed on, another exception stops the session. -/
def reviewWorkspace : Coordinated PUnit := do
  match ← attempt unexpected? (submitCoordinated py arguments session result) with
  | .ok _ => pure ⟨⟩
  | .error _ =>
    stopAndPersist "review_isolation_invalid" "independent review workspace verification failed"

def review : Coordinated PUnit := do
  requireRevision arguments.expectedRevision
  let session ← requireSession "execution_identity_mismatch"
    "review does not bind the exact execution result"
  match session.executionResult with
  | none =>
    refuseWith "execution_identity_mismatch" "review does not bind the exact execution result"
  | some result =>
    let resultDigest ← lift (digest py result)
    refuseWhen (arguments.expectedResultDigest ≠ resultDigest.val) "execution_identity_mismatch"
      "review does not bind the exact execution result"
    let identity ← boundIdentity arguments.git
    if identity ≠ (result.val.functionalCommit, result.val.functionalTree) then
      stopAndPersist "base_drift" "repository identity changed before independent review"
    else
      let workspaceExists ← lift arguments.workspaceExists
      refuseWhen workspaceExists "review_workspace_exists"
        "review workspace identity already exists"
      let outcome ← attempt some (reviewWorkspace py arguments session result)
      -- `finally`
      lift arguments.removal
      match outcome with
      | .ok _ => persistSession
      | .error e => raise e

/-- The arguments of `close`. -/
structure Close where
  expectedRevision : ℤ
  (expectedReviewDigest actor : PyStr)
  git : Except Raised Identity
  guard : Guard

/-- `close`. -/
def coordinateClose (arguments : Close) : Coordinated PUnit := do
  requireRevision arguments.expectedRevision
  let session ← requireSession "review_identity_mismatch"
    "closure does not bind the accepted independent review"
  match session.review with
  | none =>
    refuseWith "review_identity_mismatch" "closure does not bind the accepted independent review"
  | some review =>
    let reviewDigest ← lift (digest py review)
    refuseWhen (arguments.expectedReviewDigest ≠ reviewDigest.val) "review_identity_mismatch"
      "closure does not bind the accepted independent review"
    let identity ← boundIdentity arguments.git
    if identity ≠ (review.val.functionalCommit, review.val.functionalTree) then
      stopAndPersist "base_drift" "repository identity changed before closure"
    else
      transition (Goal.close py arguments.actor arguments.guard)
      persistSession

/-! ### Histories -/

/-- An operation of the coordinator. -/
inductive Request where
  | inspect
  | prepare (arguments : Prepare)
  | approve (expectedRevision : ℤ) (expectedPlanDigest actor : PyStr) (git : Except Raised Identity)
  | execute (arguments : Execute)
  | review (arguments : Review)
  | close (arguments : Close)

def Request.run : Request → Coordinated PUnit
  | inspect => do let _ ← Goal.inspect
  | prepare arguments => Goal.prepare py arguments
  | approve expectedRevision expectedPlanDigest actor git =>
    coordinateApprove py expectedRevision expectedPlanDigest actor git
  | execute arguments => Goal.execute py arguments
  | review arguments => Goal.review py arguments
  | close arguments => coordinateClose py arguments

/-- What happens to the coordinator. -/
inductive ServiceEvent where
  /-- An operation on the instance, with what becomes of its writes. -/
  | request (request : Request) (writes : List Write)
  /-- The service is restarted. -/
  | restart
  /-- Operations on other instances have changed the registry. -/
  | elsewhere (registry : InstanceApprovalLeaseRegistry)

def Coordinator.next (c : Coordinator) : ServiceEvent → Coordinator
  | .request request writes => (request.run py { c with writes }).2.toCoordinator
  | .restart => { c with registry := .new, session := none, projection := none }
  | .elsewhere registry => { c with registry }

end StatePort.Goal
