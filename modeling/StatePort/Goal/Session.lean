import StatePort.Algorithm.Effect
import StatePort.Algorithm.Run
import StatePort.Goal.Contracts

/-!
# Governed goal sessions

The state machine of `packages/goal-execution/src/stateport_goal_execution/service.py`: a session
takes one proposed item through approval, execution, review and closure. The sessions of a process
share a registry of approval leases, at most one for each instance of an application.

A method runs on the registry and its own session, and what it has written before it raises stays
written. `approve` acquires the lease, sets it on the session and then computes the digest of the
delegation plan for the first time; the `try` that releases the lease starts only after that.

What the caller's callbacks and `verify_review_workspace` return or raise is an argument.
-/

namespace StatePort.Goal

open Effect

open Daemon (Interpreter Digest)

inductive GoalExecutionState where
  | proposalReady | approved | executing | awaitingReview | reviewed | closed | stopped
deriving DecidableEq

namespace GoalExecutionState

def value : GoalExecutionState → String
  | proposalReady => "proposal_ready"
  | approved => "approved"
  | executing => "executing"
  | awaitingReview => "awaiting_independent_review"
  | reviewed => "independently_reviewed"
  | closed => "closed"
  | stopped => "stopped"

/-- The states that no operation leaves. -/
def isTerminal (state : GoalExecutionState) : Bool := state ∈ [closed, stopped]

end GoalExecutionState

structure StopRecord where
  (code message stateBeforeStop : PyStr)

/-! ### Leases -/

abbrev InstanceKey := PyStr × PyStr

/-- The number of the token `goal-session-n` of a session. -/
abbrev Owner := ℕ

structure InstanceApprovalLease where
  leaseId : PyStr
  generation : ℕ
  (applicationId instanceId planDigest baseCommit baseTree stateSnapshotDigest : PyStr)
deriving DecidableEq

variable (lease : InstanceApprovalLease)

namespace InstanceApprovalLease

def toDict : Wire :=
  .dict [("formatVersion", .str "stateport.goal-instance-approval-lease/v1"),
    ("leaseId", .str lease.leaseId), ("generation", .int lease.generation),
    ("applicationId", .str lease.applicationId), ("instanceId", .str lease.instanceId),
    ("planDigest", .str lease.planDigest), ("baseCommit", .str lease.baseCommit),
    ("baseTree", .str lease.baseTree), ("stateSnapshotDigest", .str lease.stateSnapshotDigest)]

def key : InstanceKey := (lease.applicationId, lease.instanceId)

end InstanceApprovalLease

structure InstanceApprovalLeaseRegistry where
  active : InstanceKey → Option (InstanceApprovalLease × Owner)
  generations : InstanceKey → ℕ
  ownerSequence : Owner

variable (py : Interpreter)

namespace InstanceApprovalLeaseRegistry

/-- `InstanceApprovalLeaseRegistry()`. -/
def new : InstanceApprovalLeaseRegistry := ⟨fun _ => none, fun _ => 0, 0⟩

variable (registry : InstanceApprovalLeaseRegistry)

def allocateOwner : Owner × InstanceApprovalLeaseRegistry :=
  (registry.ownerSequence + 1, { registry with ownerSequence := registry.ownerSequence + 1 })

def nextGeneration (key : InstanceKey) : InstanceApprovalLeaseRegistry :=
  { registry with
    generations := Function.update registry.generations key (registry.generations key + 1) }

variable (lease : InstanceApprovalLease) (owner : Owner)

/-- `self._active[key] = (lease, owner)`. -/
def activate : InstanceApprovalLeaseRegistry :=
  { registry with active := Function.update registry.active lease.key (some (lease, owner)) }

/-- What a lease is asked for. -/
structure Request where
  (applicationId instanceId planDigest baseCommit baseTree stateSnapshotDigest : PyStr)

variable (request : Request)

/-- The document that identifies a lease. -/
def seedOf (generation : ℕ) : Wire :=
  .dict [("applicationId", .str request.applicationId), ("instanceId", .str request.instanceId),
    ("generation", .int generation), ("planDigest", .str request.planDigest),
    ("baseCommit", .str request.baseCommit), ("baseTree", .str request.baseTree),
    ("stateSnapshotDigest", .str request.stateSnapshotDigest)]

def leaseOf (generation : ℕ) (seed : Digest) : InstanceApprovalLease where
  leaseId := "instance-lease-" ++ shortDigest seed
  generation := generation
  applicationId := request.applicationId
  instanceId := request.instanceId
  planDigest := request.planDigest
  baseCommit := request.baseCommit
  baseTree := request.baseTree
  stateSnapshotDigest := request.stateSnapshotDigest

def acquire : Effect InstanceApprovalLeaseRegistry Raised (Option InstanceApprovalLease) := do
  let key : InstanceKey := (request.applicationId, request.instanceId)
  let registry ← state
  if (registry.active key).isSome then return none
  else
    let generation := registry.generations key + 1
    modify fun registry => registry.nextGeneration key
    let seed ← lift (canonicalDigest py (seedOf request generation))
    let lease := leaseOf request generation seed
    modify fun registry => registry.activate lease owner
    return some lease

def isActive : Bool :=
  registry.active lease.key = some (lease, owner)

def release : InstanceApprovalLeaseRegistry :=
  if registry.active lease.key = some (lease, owner) then
    { registry with active := Function.update registry.active lease.key none }
  else registry

end InstanceApprovalLeaseRegistry

/-! ### Sessions -/

/-- The arguments of `GoalExecutionSession`. -/
structure SessionArguments where
  profile : Checked OrchestratorProfile
  policy : Checked CtoModePolicy
  bootstrap : BootstrapProposal
  plan : Checked SlicePlan
  delegation : Checked DelegationPlan
  acceptance : Checked AcceptanceContract
  reviewRequirement : Checked ReviewRequirement
  effectiveCapabilities : List PyStr

/-- `GoalExecutionSession`. -/
structure Session extends SessionArguments where
  effectivePolicyDigest : PyStr
  leaseOwner : Owner
  instanceLease : Option InstanceApprovalLease := none
  state : GoalExecutionState := .proposalReady
  approval : Option (Checked ApprovalRecord) := none
  executionResult : Option (Checked ExecutionResult) := none
  review : Option (Checked ReviewRecord) := none
  closure : Option (Checked ClosureDecision) := none
  receipt : Option (Checked GoalExecutionReceipt) := none
  stopRecord : Option StopRecord := none

def SessionArguments.key (session : SessionArguments) : InstanceKey :=
  (session.plan.val.applicationId, session.plan.val.instanceId)

variable (arguments : SessionArguments)

/-- The identities that profile, manifest, proposal and plan share. -/
def checkIdentities : Except Raised Unit := do
  let profile := arguments.profile.val
  let manifest := arguments.bootstrap.manifest.val
  let proposal := arguments.bootstrap.proposal.val
  let plan := arguments.plan.val
  raiseIf (profile.mode ∉ arguments.policy.val.allowedModes)
    (.valueError "orchestrator mode is not permitted by policy")
  raiseIf (profile.applicationId ≠ manifest.applicationId ∨
      plan.applicationId ≠ manifest.applicationId)
    (.valueError "orchestrator, manifest and plan application identities differ")
  raiseIf (plan.instanceId ≠ manifest.instanceId)
    (.valueError "manifest and plan instance identities differ")
  let manifestDigest ← digest py arguments.bootstrap.manifest
  raiseIf (plan.manifestDigest ≠ manifestDigest.val ∨ proposal.manifestDigest ≠ manifestDigest.val)
    (.valueError "bootstrap manifest identity does not match the proposal or slice")
  let proposalDigest ← digest py arguments.bootstrap.proposal
  raiseIf (plan.proposalDigest ≠ proposalDigest.val)
    (.valueError "slice plan is not bound to the proposal")
  -- Reached with the digest of the profile only if the identities before it agree.
  let unbound := Raised.valueError
    "originating intent, mode and profile require a fresh governed proposal"
  raiseIf (¬ (manifest.intentDigest = proposal.intentDigest ∧
      proposal.intentDigest = plan.intentDigest ∧
      manifest.originatingMode = proposal.originatingMode ∧
      proposal.originatingMode = plan.originatingMode ∧ plan.originatingMode = profile.mode ∧
      manifest.orchestratorProfileDigest = proposal.orchestratorProfileDigest ∧
      proposal.orchestratorProfileDigest = plan.orchestratorProfileDigest)) unbound
  let profileDigest ← digest py arguments.profile
  raiseIf (plan.orchestratorProfileDigest ≠ profileDigest.val) unbound

/-- The item, the reviewer, the versions and the capabilities. -/
def checkItem : Except Raised Unit := do
  let profile := arguments.profile.val
  let plan := arguments.plan.val
  let delegation := arguments.delegation.val
  let acceptance := arguments.acceptance.val
  let requirement := arguments.reviewRequirement.val
  raiseIf (plan.itemId ≠ arguments.bootstrap.proposal.val.recommendedItemId)
    (.valueError "this bounded session may contain only the recommended item")
  match arguments.bootstrap.manifest.val.goalItems.find? fun item => item.val.itemId = plan.itemId with
  | none => throw (.valueError "slice item is not present in the bootstrap manifest")
  | some selected =>
    raiseIf (selected.val.domain ≠ profile.goalDomain)
      (.valueError "orchestrator profile and goal item domains differ")
    raiseIf (delegation.itemId ≠ plan.itemId ∨ acceptance.itemId ≠ plan.itemId ∨
        requirement.itemId ≠ plan.itemId)
      (.valueError "goal execution contracts are bound to different items")
    let acceptanceDigest ← digest py arguments.acceptance
    raiseIf (requirement.acceptanceContractDigest ≠ acceptanceDigest.val)
      (.valueError "review requirement is not bound to the acceptance contract")
    raiseIf (requirement.reviewerActor ≠ delegation.reviewerActor)
      (.valueError "delegation and review requirement name different reviewers")
    raiseIf (delegation.reviewerActor ∈
        [profile.orchestratorActor, plan.proposedBy, delegation.implementerActor])
      (.valueError "independent reviewer may not own proposal, orchestration or implementation")
    raiseIf (acceptance.requiredContractVersions ≠ plan.contractVersions)
      (.valueError "acceptance contract versions do not match the slice plan")
    let missing := profile.requiredCapabilities.filter fun capability =>
      capability ∉ arguments.effectiveCapabilities
    raiseIf (missing ≠ []) (.valueError
      ("independently resolved goal capabilities are required: " ++
        List.intercalate ", " (sorted missing)))

/-- `GoalExecutionSession(...)`. -/
def newSession : Effect InstanceApprovalLeaseRegistry Raised Session := do
  lift (checkIdentities py arguments)
  lift (checkItem py arguments)
  let effectiveCapabilities := sorted arguments.effectiveCapabilities
  let policyDigest ← lift (canonicalDigest py (.dict
    [("goalExecutionPolicy", Contract.toDict arguments.policy.val),
      ("effectiveCapabilities", texts effectiveCapabilities)]))
  let registry ← state
  modify fun registry => registry.allocateOwner.2
  return { arguments with
    effectiveCapabilities
    effectivePolicyDigest := policyDigest.val
    leaseOwner := registry.allocateOwner.1 }

/-- A session with the registry that it shares. -/
structure Governed where
  registry : InstanceApprovalLeaseRegistry
  session : Session

abbrev Method (α : Type) := Effect Governed Raised α

namespace Governed

/-- The session gives its lease back. -/
def released (g : Governed) : Governed :=
  match g.session.instanceLease with
  | none => g
  | some lease =>
    { registry := g.registry.release lease g.session.leaseOwner
      session := { g.session with instanceLease := none } }

def stopped (g : Governed) (code message : PyStr) : Governed :=
  released { g with session :=
    { g.session with
      state := .stopped
      stopRecord := some ⟨code, message, g.session.state.value⟩ } }

end Governed

def self : Method Session := fun g => (.ok g.session, g)

/-- Assignments to `self`. -/
def assign (f : Session → Session) : Method PUnit :=
  modify fun g => { g with session := f g.session }

def releaseInstanceLease : Method PUnit := modify Governed.released

def refuse {α : Type} (code message : PyStr) (terminal : Bool) : Method α := fun g =>
  (.error (.governanceRefusal code message terminal),
    if terminal && !g.session.state.isTerminal then g.stopped code message else g)

/-- `if c: self._refuse(...)`. -/
def refuseIf (c : Prop) [Decidable c] (code message : PyStr) (terminal : Bool) : Method PUnit :=
  if c then refuse code message terminal else pure ⟨⟩

def expect (expected : GoalExecutionState) : Method PUnit := do
  let session ← self
  refuseIf (session.state ≠ expected) "invalid_state_transition"
    (PyStr.of s!"operation requires {expected.value}; current state is {session.state.value}") false

def requireInstanceLease : Method InstanceApprovalLease := fun g =>
  match g.session.instanceLease with
  | some lease =>
    if g.registry.isActive lease g.session.leaseOwner then (.ok lease, g)
    else refuse "instance_approval_lease_lost"
      "the instance-scoped approval lease is no longer active" true g
  | none => refuse "instance_approval_lease_lost"
      "the instance-scoped approval lease is no longer active" true g

/-- `assert field is not None`. -/
def required {α : Type} (field : Option α) : Method α :=
  match field with
  | some value => pure value
  | none => raise .assertionError

/-! ### Approval -/

/-- The arguments of `approve`. -/
structure Approve where
  (actor expectedPlanDigest currentBaseCommit currentBaseTree currentStateSnapshotDigest : PyStr)
  approvedPermissions : List PyStr
  approvedSideEffectClass : PyStr
  approvedBudget : GoalBudget

/-- What `approve` checks before it asks for the lease; returns the digest of the plan. -/
def checkApproval (arguments : Approve) : Method Digest := do
  expect .proposalReady
  let session ← self
  let plan := session.plan.val
  refuseIf (session.profile.val.mode ∈ [OrchestratorMode.off, .advisory])
    "mode_does_not_permit_execution"
    (PyStr.of s!"{session.profile.val.mode.value} mode may propose but may not approve execution")
    false
  refuseIf (session.bootstrap.proposal.val.ambiguities ≠ []) "ambiguous_scope"
    "ambiguous scope requires human clarification" true
  refuseIf (arguments.actor ∈ [session.profile.val.orchestratorActor, plan.proposedBy,
      session.delegation.val.implementerActor, session.delegation.val.reviewerActor])
    "self_approval_forbidden" "work owners and reviewers may not approve their own slice" false
  let planDigest ← lift (digest py session.plan)
  refuseIf (arguments.expectedPlanDigest ≠ planDigest.val) "plan_identity_mismatch"
    "approval does not bind the exact slice plan" false
  refuseIf (arguments.currentBaseCommit ≠ plan.baseCommit ∨
      arguments.currentBaseTree ≠ plan.baseTree)
    "base_drift" "repository base changed before approval" true
  refuseIf (arguments.currentStateSnapshotDigest ≠ plan.stateSnapshotDigest) "base_drift"
    "canonical state snapshot changed before approval" true
  refuseIf (¬ arguments.approvedPermissions ⊆ plan.requiredPermissions) "permission_increase"
    "approval attempted to add permissions" true
  refuseIf (¬ plan.requiredPermissions ⊆ arguments.approvedPermissions)
    "approval_binding_mismatch" "approval must bind the plan's exact permission set" false
  refuseIf (arguments.approvedSideEffectClass ∉ safeSideEffects) "external_side_effect"
    "external or unknown effects require a different governed path" true
  refuseIf (arguments.approvedSideEffectClass ≠ plan.sideEffectClass)
    "approval_binding_mismatch" "approval must bind the plan's exact side-effect class" false
  refuseIf (arguments.approvedBudget ≠ plan.maximumBudget)
    "approval_binding_mismatch" "approval must bind the plan's exact budget" false
  return planDigest

def leaseRequest (session : Session) (arguments : Approve) (planDigest : Digest) :
    InstanceApprovalLeaseRegistry.Request where
  applicationId := session.plan.val.applicationId
  instanceId := session.plan.val.instanceId
  planDigest := planDigest.val
  baseCommit := arguments.currentBaseCommit
  baseTree := arguments.currentBaseTree
  stateSnapshotDigest := arguments.currentStateSnapshotDigest

def onRegistry {α : Type} (x : Effect InstanceApprovalLeaseRegistry Raised α) : Method α := fun g =>
  match x g.registry with
  | (result, registry) => (result, { g with registry })

/-- The digests of the contracts that an approval names. -/
structure ApprovalDigests where
  (plan profile delegation acceptance : Digest)

/-- The digests as `approval_seed` computes them, in its order. -/
def approvalDigests (session : Session) : Except Raised ApprovalDigests := do
  let plan ← digest py session.plan
  let profile ← digest py session.profile
  let delegation ← digest py session.delegation
  let acceptance ← digest py session.acceptance
  return { plan, profile, delegation, acceptance }

variable (session : Session) (arguments : Approve) (digests : ApprovalDigests)

def approvalSeed (lease : InstanceApprovalLease) : Wire :=
  .dict [("plan", .str digests.plan.val), ("intent", .str session.plan.val.intentDigest),
    ("originatingMode", .str session.plan.val.originatingMode.value),
    ("profile", .str digests.profile.val), ("policy", .str session.effectivePolicyDigest),
    ("delegation", .str digests.delegation.val), ("acceptance", .str digests.acceptance.val),
    ("actor", .str arguments.actor), ("baseCommit", .str arguments.currentBaseCommit),
    ("baseTree", .str arguments.currentBaseTree),
    ("state", .str arguments.currentStateSnapshotDigest), ("instanceLease", lease.toDict)]

def approvalRecord (lease : InstanceApprovalLease) (seed : Digest) : ApprovalRecord where
  approvalId := "approval-" ++ shortDigest seed
  applicationId := session.plan.val.applicationId
  instanceId := session.plan.val.instanceId
  itemId := session.plan.val.itemId
  planDigest := digests.plan.val
  intentDigest := session.plan.val.intentDigest
  originatingMode := session.plan.val.originatingMode
  orchestratorProfileDigest := digests.profile.val
  policyDigest := session.effectivePolicyDigest
  delegationPlanDigest := digests.delegation.val
  acceptanceContractDigest := digests.acceptance.val
  contractVersions := session.plan.val.contractVersions
  approverActor := arguments.actor
  baseCommit := arguments.currentBaseCommit
  baseTree := arguments.currentBaseTree
  stateSnapshotDigest := arguments.currentStateSnapshotDigest
  instanceLeaseId := lease.leaseId
  instanceLeaseGeneration := lease.generation
  approvedPermissions := sorted arguments.approvedPermissions
  approvedSideEffectClass := arguments.approvedSideEffectClass
  approvedBudget := arguments.approvedBudget

/-- `ApprovalRecord(...)`, as `approve` builds it. -/
def makeApproval (lease : InstanceApprovalLease) : Except Raised (Checked ApprovalRecord) := do
  let seed ← canonicalDigest py (approvalSeed session arguments digests lease)
  construct (approvalRecord session arguments digests lease seed)

def approve : Method PUnit := do
  let planDigest ← checkApproval py arguments
  let session ← self
  let lease? ← onRegistry (InstanceApprovalLeaseRegistry.acquire py session.leaseOwner
    (leaseRequest session arguments planDigest))
  match lease? with
  | none =>
    refuse "instance_approval_conflict" "another approved item already owns this instance" false
  | some lease =>
    assign fun session => { session with instanceLease := some lease }
    -- An exception of these digests does not reach the handler below.
    let digests ← lift (approvalDigests py session)
    match makeApproval py session arguments digests lease with
    | .error e =>
      releaseInstanceLease
      raise e
    | .ok approval =>
      assign fun session => { session with approval := some approval, state := .approved }

/-! ### Execution -/

/-- The arguments of `begin_execution`. -/
structure BeginExecution where
  (actor currentBaseCommit currentBaseTree currentStateSnapshotDigest : PyStr)
  (currentOrchestratorProfileDigest currentPolicyDigest currentDelegationPlanDigest : PyStr)
  actualPermissions : List PyStr
  sideEffectClass : PyStr
  currentBudgetCeiling : GoalBudget
  ambiguityDetected : Bool := false

def beginExecution (arguments : BeginExecution) : Method PUnit := do
  let session ← self
  match session.approval with
  | none => refuse "unapproved_item" "execution requires an explicit exact approval" false
  | some approval =>
    expect .approved
    let lease ← requireInstanceLease
    refuseIf (lease.leaseId ≠ approval.val.instanceLeaseId ∨
        lease.generation ≠ approval.val.instanceLeaseGeneration)
      "instance_approval_lease_lost" "approval and instance lease identities differ" true
    refuseIf (arguments.actor ≠ session.delegation.val.implementerActor)
      "implementer_identity_mismatch" "execution actor does not match the delegation plan" false
    refuseIf arguments.ambiguityDetected "ambiguous_scope"
      "execution discovered ambiguous scope" true
    refuseIf (arguments.currentBaseCommit ≠ approval.val.baseCommit ∨
        arguments.currentBaseTree ≠ approval.val.baseTree ∨
        arguments.currentStateSnapshotDigest ≠ approval.val.stateSnapshotDigest)
      "base_drift" "approved repository or state identity drifted" true
    refuseIf (arguments.currentOrchestratorProfileDigest ≠
          approval.val.orchestratorProfileDigest ∨
        arguments.currentPolicyDigest ≠ approval.val.policyDigest ∨
        arguments.currentDelegationPlanDigest ≠ approval.val.delegationPlanDigest)
      "policy_drift" "approved profile, policy or delegation identity drifted" true
    refuseIf (¬ arguments.actualPermissions ⊆ approval.val.approvedPermissions)
      "permission_increase" "execution attempted to gain permissions" true
    refuseIf (arguments.sideEffectClass ∉ safeSideEffects ∨
        arguments.sideEffectClass ≠ approval.val.approvedSideEffectClass)
      "external_side_effect" "execution side-effect boundary changed" true
    refuseIf (approval.val.approvedBudget.fitsWithin arguments.currentBudgetCeiling = false)
      "budget_exceeded" "current budget no longer covers the approved slice" true
    assign fun session => { session with state := .executing }

def recordExecution (result : Checked ExecutionResult) : Method PUnit := do
  expect .executing
  let session ← self
  let approval ← required session.approval
  _ ← requireInstanceLease
  refuseIf (result.val.itemId ≠ session.plan.val.itemId) "execution_identity_mismatch"
    "execution result is not bound to the approved item and plan" true
  let planDigest ← lift (digest py session.plan)
  refuseIf (result.val.planDigest ≠ planDigest.val) "execution_identity_mismatch"
    "execution result is not bound to the approved item and plan" true
  refuseIf (result.val.implementerActor ≠ session.delegation.val.implementerActor)
    "implementer_identity_mismatch" "execution result names an unexpected implementer" true
  refuseIf (¬ result.val.actualPermissions ⊆ approval.val.approvedPermissions)
    "permission_increase" "execution result records unapproved permissions" true
  refuseIf (result.val.externalSideEffectsObserved ∨
      result.val.sideEffectClass ∉ safeSideEffects ∨
      result.val.sideEffectClass ≠ approval.val.approvedSideEffectClass)
    "external_side_effect" "execution observed an unapproved external side effect" true
  refuseIf (result.val.usedBudget.fitsWithin approval.val.approvedBudget = false)
    "budget_exceeded" "execution exceeded the approved budget" true
  refuseIf (result.val.contractVersions ≠ session.plan.val.contractVersions)
    "contract_version_mismatch" "execution used different contract versions" true
  refuseIf (result.val.testsPassed = false ∨ result.val.repositoryClean = false)
    "acceptance_failed" "execution did not pass validation with a clean repository" true
  assign fun session => { session with executionResult := some result, state := .awaitingReview }

/-! ### Review -/

def bindingMismatch : PyStr :=
  "review must bind the exact commit, tree, tests, acceptance contract and versions"

/-- `submit_review`; `verified` is what `verify_review_workspace` returns, or nothing if it raises. -/
def submitReview (review : Checked ReviewRecord)
    (verified : Option (Checked ReviewWorkspaceIsolation)) : Method PUnit := do
  expect .awaitingReview
  let session ← self
  let result ← required session.executionResult
  let approval ← required session.approval
  _ ← requireInstanceLease
  refuseIf (review.val.reviewerActor ∈ [session.profile.val.orchestratorActor,
        session.plan.val.proposedBy, session.delegation.val.implementerActor,
        approval.val.approverActor] ∨
      review.val.reviewerActor ≠ session.reviewRequirement.val.reviewerActor)
    "reviewer_not_independent" "reviewer does not satisfy role separation" true
  match verified with
  | none =>
    refuse "review_isolation_invalid"
      "StatePort could not verify the required review-workspace isolation" true
  | some isolation =>
    refuseIf (¬ (review.val.itemId = result.val.itemId ∧
        review.val.functionalCommit = result.val.functionalCommit ∧
        review.val.functionalTree = result.val.functionalTree ∧
        review.val.testResultDigest = result.val.testResultDigest))
      "review_binding_mismatch" bindingMismatch true
    let acceptanceDigest ← lift (digest py session.acceptance)
    refuseIf (¬ (review.val.acceptanceContractDigest = acceptanceDigest.val ∧
        review.val.contractVersions = result.val.contractVersions))
      "review_binding_mismatch" bindingMismatch true
    let isolationDigest ← lift (digest py isolation)
    refuseIf (¬ (review.val.isolationEvidenceDigest = isolationDigest.val ∧
        isolation.val.reviewerActor = review.val.reviewerActor ∧
        isolation.val.functionalCommit = review.val.functionalCommit ∧
        isolation.val.functionalTree = review.val.functionalTree ∧
        isolation.val.workspaceIsolation = session.reviewRequirement.val.workspaceIsolation))
      "review_binding_mismatch" bindingMismatch true
    assign fun session => { session with review := some review }
    refuseIf (review.val.accepted = false) "critical_review_failed"
      "independent critical review reproduced a defect" true
    assign fun session => { session with state := .reviewed }

/-! ### Closure -/

inductive Guard where
  | absent
  | returns (unchanged : Bool)
  | raises

/-- `closure_guard is not None and not closure_guard()`. -/
def Guard.drifted : Guard → Except Raised Bool
  | absent => .ok false
  | returns unchanged => .ok (!unchanged)
  | raises => .error .callbackError

def closingDocuments (decidedBy : PyStr)
    (approval : Checked ApprovalRecord) (result : Checked ExecutionResult)
    (review : Checked ReviewRecord) :
    Except Raised (Checked ClosureDecision × Checked GoalExecutionReceipt) := do
  let resultDigest ← digest py result
  let reviewDigest ← digest py review
  let closureSeed ← canonicalDigest py (.dict [("itemId", .str session.plan.val.itemId),
    ("result", .str resultDigest.val), ("review", .str reviewDigest.val),
    ("decidedBy", .str decidedBy)])
  let closure ← construct {
    decisionId := "closure-" ++ shortDigest closureSeed
    itemId := session.plan.val.itemId
    decidedBy
    status := "closed"
    functionalCommit := result.val.functionalCommit
    functionalTree := result.val.functionalTree
    testResultDigest := result.val.testResultDigest
    reviewDigest := reviewDigest.val
    reasons := ["acceptance criteria passed", "independent exact-identity review accepted"]
    : ClosureDecision }
  let approvalDigest ← digest py approval
  let closureDigest ← digest py closure
  let receiptSeed ← canonicalDigest py (.dict [("approval", .str approvalDigest.val),
    ("execution", .str resultDigest.val), ("review", .str reviewDigest.val),
    ("closure", .str closureDigest.val)])
  let receipt ← construct {
    receiptId := "receipt-" ++ shortDigest receiptSeed
    applicationId := session.plan.val.applicationId
    instanceId := session.plan.val.instanceId
    itemId := session.plan.val.itemId
    approvalDigest := approvalDigest.val
    executionResultDigest := resultDigest.val
    reviewDigest := reviewDigest.val
    closureDecisionDigest := closureDigest.val
    routingDeviationRetained := session.delegation.val.routingDeviated
    : GoalExecutionReceipt }
  return (closure, receipt)

def close (decidedBy : PyStr) (guard : Guard) : Method PUnit := do
  expect .reviewed
  _ ← requireInstanceLease
  let session ← self
  let approval ← required session.approval
  let result ← required session.executionResult
  let review ← required session.review
  refuseIf (decidedBy ∈ [session.profile.val.orchestratorActor, session.plan.val.proposedBy,
      session.delegation.val.implementerActor, review.val.reviewerActor,
      approval.val.approverActor])
    "closure_authority_not_independent" "closure authority must be independent of slice roles" false
  let (closure, receipt) ← lift (closingDocuments py session decidedBy approval result review)
  let drifted ← lift guard.drifted
  refuseIf drifted "base_drift" "repository identity changed at the closure boundary" true
  assign fun session =>
    { session with closure := some closure, receipt := some receipt, state := .closed }
  releaseInstanceLease

/-! ### Processes -/

inductive Call where
  | approve (arguments : Approve)
  | beginExecution (arguments : BeginExecution)
  | recordExecution (result : Checked ExecutionResult)
  | submitReview (review : Checked ReviewRecord)
      (verified : Option (Checked ReviewWorkspaceIsolation))
  | close (decidedBy : PyStr) (guard : Guard)
  | requestNextItem
  | stop (code message : PyStr)

def Call.method : Call → Method PUnit
  | approve arguments => Goal.approve py arguments
  | beginExecution arguments => Goal.beginExecution arguments
  | recordExecution result => Goal.recordExecution py result
  | submitReview review verified => Goal.submitReview py review verified
  | close decidedBy guard => Goal.close py decidedBy guard
  | requestNextItem => refuse "next_item_unapproved"
      "the protocol stops before the next item; prepare and approve a fresh exact slice" false
  | stop code message => refuse code message true

/-- A registry and the sessions that share it. -/
structure Process where
  registry : InstanceApprovalLeaseRegistry
  sessions : List Session

/-- What happens in a process. -/
inductive Event where
  /-- A session is built. -/
  | new (arguments : SessionArguments)
  /-- A method of a session is called. -/
  | call (index : ℕ) (call : Call)

namespace Process

/-- A process before its first session. -/
def start : Process := ⟨.new, []⟩

def next (process : Process) : Event → Process
  | .new arguments =>
    match newSession py arguments process.registry with
    | (.ok session, registry) => ⟨registry, process.sessions ++ [session]⟩
    | (.error _, registry) => { process with registry }
  | .call index call =>
    match process.sessions[index]? with
    | none => process
    | some session =>
      let after := (call.method py ⟨process.registry, session⟩).2
      ⟨after.registry, process.sessions.set index after.session⟩

end Process

end StatePort.Goal
