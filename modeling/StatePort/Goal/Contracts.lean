import StatePort.Daemon.Contract

/-!
# Contracts of governed goal execution

The contracts of `packages/goal-execution/src/stateport_goal_execution/contracts.py` that a session
is built from and that it builds. Each is a frozen dataclass whose `__post_init__` validates the
fields; `Checked` is a value that passed. The checks look at trimmed texts, and the fields keep the
texts as they were given.

The digest of a contract is the digest of its document. It raises `UnicodeEncodeError` where a text
of the document has a lone surrogate: `_text` does not look for one, and only identifiers, digests,
Git hashes and permissions exclude it by their patterns.

`_ID`, `_DIGEST` and `canonical_digest` are those of the execution host.
-/

namespace StatePort.Goal

open PyStr

open Daemon (Interpreter Digest isId isDigest)

/-- An exception of the package. -/
inductive Raised where
  /-- `GoalContractError`. -/
  | contractError (message : PyStr)
  | valueError (message : PyStr)
  | unicodeEncodeError (message : PyStr)
  | assertionError
  | governanceRefusal (code message : PyStr) (terminal : Bool)
  /-- What a callback of the caller raises. -/
  | callbackError
deriving DecidableEq

inductive OrchestratorMode where
  | off | advisory | assisted | managedApprovedQueue
deriving DecidableEq

namespace OrchestratorMode

def value : OrchestratorMode → String
  | off => "off"
  | advisory => "advisory"
  | assisted => "assisted"
  | managedApprovedQueue => "managed_approved_queue"

/-- `tuple(OrchestratorMode)`. -/
def all : List OrchestratorMode := [off, advisory, assisted, managedApprovedQueue]

end OrchestratorMode

/-! ### Texts -/

variable (value : PyStr) (label : String)

def text (maximum : ℕ) : Except Raised PyStr := do
  raiseIf (strip value = [] ∨ maximum < value.length)
    (.contractError s!"{label} must be a non-empty bounded string")
  raiseIf (value.any (fun c => c.val < 32 && c ≠ 10 && c ≠ 9))
    (.contractError s!"{label} contains control characters")
  return strip value

def identifier : Except Raised PyStr := do
  let result ← text value label 128
  raiseIf (isId result = false) (.contractError s!"{label} is not a safe identifier")
  return result

/-- `_digest`. -/
def checkDigest : Except Raised PyStr := do
  let result ← text value label 71
  raiseIf (isDigest result = false) (.contractError s!"{label} must be a sha256 digest")
  return result

/-- `_GIT_SHA`: `[0-9a-f]{40,64}`. -/
def isGitSha (s : PyStr) : Bool :=
  40 ≤ s.length && s.length ≤ 64 && s.all Daemon.PyStr.isLowerHex

def gitSha : Except Raised PyStr := do
  let result ← text value label 64
  raiseIf (isGitSha result = false) (.contractError s!"{label} must be an immutable Git SHA")
  return result

/-- The bounds of a sequence of texts. -/
def checkItems (result : List PyStr) (nonempty : Bool) (message : String) : Except Raised Unit :=
  raiseIf (128 < result.length ∨ (nonempty ∧ result = []) ∨ ¬ result.Nodup) (.contractError message)

variable (values : List PyStr)

def items (label : String) (identifiers nonempty : Bool) : Except Raised (List PyStr) := do
  let result ← values.mapM fun value =>
    if identifiers then identifier value label else text value label 512
  checkItems result nonempty s!"{label} must be a unique bounded sequence"
  return result

/-- `_PERMISSION`: `[a-z][a-z0-9._-]{1,127}`. -/
def isPermission : PyStr → Bool
  | [] => false
  | c :: cs => Daemon.PyStr.isBetween 'a' 'z' c && 1 ≤ cs.length && cs.length ≤ 127 &&
    cs.all fun c => Daemon.PyStr.isBetween 'a' 'z' c || Daemon.PyStr.isAsciiDigit c || c ∈ of "._-"

/-- `sorted(values)`. -/
def sorted : List PyStr :=
  values.insertionSort fun a b => isLess b a = false

def permissions (label : String) : Except Raised (List PyStr) := do
  let result ← items values label false true
  raiseIf (result.any (fun value => !isPermission value))
    (.contractError s!"{label} contains an invalid permission")
  return sorted result

def safeRelativePath : Except Raised PyStr := do
  let result ← text value label 512
  let parts := (result.map fun c => if c = 92 then 47 else c).splitOn 47
  raiseIf (startsWith result "/" ∨ 92 ∈ result ∨
      [] ∈ parts ∨ of "." ∈ parts ∨ of ".." ∈ parts)
    (.contractError s!"{label} must be a repository-relative non-traversing path")
  return result

def paths (label : String) (nonempty : Bool) : Except Raised (List PyStr) := do
  let result ← values.mapM fun value => safeRelativePath value label
  checkItems result nonempty s!"{label} must be a unique bounded path sequence"
  return result

def sideEffects : List PyStr := ["none", "idempotent", "compensated", "external", "unknown"]

def safeSideEffects : List PyStr := ["none", "idempotent"]

def reviewDispositions : List PyStr :=
  ["accepted", "accepted_with_bounded_followups", "rejected_with_reproduced_defects"]

def closureStatuses : List PyStr := ["closed", "reopened", "stopped"]

/-- The isolation that reviews are made in. -/
def cleanWorktree : PyStr := "clean_detached_read_only_worktree"

/-! ### Documents -/

/-- The words of `_SECRET_FIELD`. -/
def secretWords : List String :=
  Daemon.secretWords ++ ["privatekey", "private_key", "private-key"]

/-- `_SECRET_FIELD.search(key)`. -/
def isSecretField (key : PyStr) : Bool :=
  let folded := key.map Daemon.foldCase
  secretWords.any fun word => hasSubstring folded word

mutual

def noSecretFields (location : PyStr) : Wire → Except Raised Unit
  | .dict fields => noSecretsInFields location fields
  | .list items => noSecretsInItems location 0 items
  | _ => .ok ()

def noSecretsInItems (location : PyStr) (index : ℕ) : List Wire → Except Raised Unit
  | [] => .ok ()
  | item :: items => do
    noSecretFields (location ++ of "[" ++ ofNat index ++ of "]") item
    noSecretsInItems location (index + 1) items

def noSecretsInFields (location : PyStr) : List (PyStr × Wire) → Except Raised Unit
  | [] => .ok ()
  | (key, item) :: fields => do
    raiseIf (isSecretField key) (.contractError
      (of "credential-like field is forbidden at " ++ location ++ of "." ++ key))
    noSecretFields (location ++ of "." ++ key) item
    noSecretsInFields location fields

end

@[irreducible] def canonicalDigest (py : Interpreter) (value : Wire) : Except Raised Digest := do
  raiseIf (isEncodable value.text = false) (.unicodeEncodeError (py.encodeMessage value.text))
  return Daemon.digestOf py value.text

/-- `digest.split(":", 1)[1][:24]`. -/
def shortDigest (digest : Digest) : PyStr := (digest.val.drop 7).take 24

/-- A sequence of texts as a document. -/
def texts : Wire := .list (values.map .str)

/-- `_Contract`. -/
class Contract (α : Type) where
  toDict : α → Wire
  /-- `__post_init__`. -/
  postInit : α → Except Raised Unit

/-- A contract that passed its `__post_init__`. -/
abbrev Checked (α : Type) [Contract α] :=
  { contract : α // Contract.postInit contract = .ok () }

section

variable {α : Type} [Contract α]

/-- The constructor of a dataclass. -/
def construct (contract : α) : Except Raised (Checked α) :=
  match h : Contract.postInit contract with
  | .ok () => .ok ⟨contract, h⟩
  | .error e => .error e

/-- `_Contract.digest`. -/
@[irreducible] def digest (py : Interpreter) (contract : Checked α) : Except Raised Digest := do
  noSecretFields "$" (Contract.toDict contract.val)
  canonicalDigest py (Contract.toDict contract.val)

lemma construct_eq_ok {contract : α} {checked : Checked α} (h : construct contract = .ok checked) :
    checked.val = contract := by
  unfold construct at h
  split at h
  · cases h
    rfl
  · cases h

end

/-! ### Budgets -/

/-- `GoalBudget`, of non-negative integers. -/
structure GoalBudget where
  (token costMinor timeSeconds steps : ℕ)
deriving DecidableEq

namespace GoalBudget

def toDict (budget : GoalBudget) : Wire :=
  .dict [("token", .int budget.token), ("costMinor", .int budget.costMinor),
    ("timeSeconds", .int budget.timeSeconds), ("steps", .int budget.steps)]

def fitsWithin (budget ceiling : GoalBudget) : Bool :=
  budget.token ≤ ceiling.token && budget.costMinor ≤ ceiling.costMinor &&
    budget.timeSeconds ≤ ceiling.timeSeconds && budget.steps ≤ ceiling.steps

end GoalBudget

/-! ### What a session is built from -/

structure OrchestratorProfile where
  (profileId applicationId orchestratorActor : PyStr)
  mode : OrchestratorMode := .advisory
  capability : PyStr := "goal_execution"
  goalDomain : PyStr := "development"
  maximumActiveItems : ℤ := 1
  maySelfApprove : Bool := false
  backgroundLoop : Bool := false

instance : Contract OrchestratorProfile where
  toDict c :=
    .dict [("formatVersion", .str "stateport.orchestrator-profile/v1"),
      ("profileId", .str c.profileId), ("applicationId", .str c.applicationId),
      ("orchestratorActor", .str c.orchestratorActor), ("mode", .str c.mode.value),
      ("capability", .str c.capability), ("goalDomain", .str c.goalDomain),
      ("maximumActiveItems", .int c.maximumActiveItems), ("maySelfApprove", .bool c.maySelfApprove),
      ("backgroundLoop", .bool c.backgroundLoop)]
  postInit c := do
    _ ← identifier c.profileId "orchestrator profile id"
    _ ← identifier c.applicationId "application id"
    _ ← identifier c.orchestratorActor "orchestrator actor"
    raiseIf (c.capability ≠ of "goal_execution" ∧ c.capability ≠ of "cto_orchestration")
      (.contractError "orchestrator profile must use a governed goal capability")
    _ ← identifier c.goalDomain "goal domain"
    raiseIf (c.maximumActiveItems ≠ 1) (.contractError "exactly one approved item may be active")
    raiseIf (c.maySelfApprove ∨ c.backgroundLoop)
      (.contractError "self-approval and background backlog loops are forbidden")

def OrchestratorProfile.requiredCapabilities (profile : OrchestratorProfile) : List PyStr :=
  if profile.capability = of "cto_orchestration" then
    ["goal_execution", "cto_orchestration"]
  else ["goal_execution"]

/-- The rules of `full_rerun_allowed_only_for`. -/
def fullRerunRules : List PyStr :=
  ["controlled_benchmark", "material_defect", "unsafe_execution", "irrecoverable_provenance",
    "explicit_human_request"]

/-- The stop conditions that no policy leaves out. -/
def requiredStops : List PyStr :=
  ["ambiguous_scope", "permission_increase", "critical_review_failed", "base_drift",
    "budget_exceeded", "external_side_effect", "next_item_unapproved"]

structure CtoModePolicy where
  defaultMode : OrchestratorMode := .advisory
  allowedModes : List OrchestratorMode := OrchestratorMode.all
  requireExplicitApproval : Bool := true
  requireIndependentReview : Bool := true
  maximumActiveItems : ℤ := 1
  routingDeviationInvalidatesOutput : Bool := false
  stopConditions : List PyStr :=
    ["ambiguous_scope", "permission_increase", "critical_review_failed", "base_drift",
      "budget_exceeded", "external_side_effect", "policy_drift", "next_item_unapproved"]
  fullRerunAllowedOnlyFor : List PyStr := fullRerunRules

instance : Contract CtoModePolicy where
  toDict c :=
    .dict [("formatVersion", .str "stateport.cto-mode-policy/v1"),
      ("defaultMode", .str c.defaultMode.value),
      ("allowedModes", texts (c.allowedModes.map fun mode => of mode.value)),
      ("requireExplicitApproval", .bool c.requireExplicitApproval),
      ("requireIndependentReview", .bool c.requireIndependentReview),
      ("maximumActiveItems", .int c.maximumActiveItems),
      ("routingDeviation",
        .dict [("invalidatesOutput", .bool c.routingDeviationInvalidatesOutput)]),
      ("stopConditions", texts c.stopConditions),
      ("fullRerunAllowedOnlyFor", texts c.fullRerunAllowedOnlyFor)]
  postInit c := do
    raiseIf (c.defaultMode ≠ .advisory) (.contractError "CTO mode must default to advisory")
    raiseIf (c.allowedModes ≠ OrchestratorMode.all)
      (.contractError "CTO policy must explicitly support all four governed modes")
    raiseIf (c.requireExplicitApproval = false ∨ c.requireIndependentReview = false)
      (.contractError "approval and independent review are mandatory")
    raiseIf (c.maximumActiveItems ≠ 1)
      (.contractError "CTO policy permits one active approved item")
    raiseIf c.routingDeviationInvalidatesOutput
      (.contractError "model identity alone may not invalidate correct output")
    let stops ← items c.stopConditions "stop conditions" true true
    raiseIf (¬ requiredStops ⊆ stops)
      (.contractError "CTO policy is missing mandatory stop conditions")
    raiseIf (¬ (c.fullRerunAllowedOnlyFor ⊆ fullRerunRules ∧
        fullRerunRules ⊆ c.fullRerunAllowedOnlyFor))
      (.contractError "CTO policy has an unsafe full-rerun rule")

structure GoalItem where
  (itemId domain objective userValue : PyStr)
  (dependencies scope exclusions : List PyStr)
  ownerRole : PyStr
  (requiredPermissions acceptanceCriteria validationCommands : List PyStr)
  sideEffectClass : PyStr
  evidenceRequirements : List PyStr
  status : PyStr := "proposed"

instance : Contract GoalItem where
  toDict c :=
    .dict [("formatVersion", .str "stateport.goal-item/v1"), ("itemId", .str c.itemId),
      ("domain", .str c.domain), ("objective", .str c.objective), ("userValue", .str c.userValue),
      ("dependencies", texts c.dependencies), ("scope", texts c.scope),
      ("exclusions", texts c.exclusions), ("ownerRole", .str c.ownerRole),
      ("requiredPermissions", texts c.requiredPermissions),
      ("acceptanceCriteria", texts c.acceptanceCriteria),
      ("validationCommands", texts c.validationCommands),
      ("sideEffectClass", .str c.sideEffectClass),
      ("evidenceRequirements", texts c.evidenceRequirements), ("status", .str c.status)]
  postInit c := do
    _ ← identifier c.itemId "goal item id"
    _ ← identifier c.domain "goal domain"
    _ ← text c.objective "goal objective" 500
    _ ← text c.userValue "goal user value" 500
    _ ← items c.dependencies "goal dependencies" true false
    _ ← items c.scope "goal scope" false true
    _ ← items c.exclusions "goal exclusions" false true
    _ ← identifier c.ownerRole "goal owner role"
    _ ← permissions c.requiredPermissions "permissions"
    _ ← items c.acceptanceCriteria "acceptance criteria" false true
    _ ← items c.validationCommands "validation commands" false true
    raiseIf (c.sideEffectClass ∉ sideEffects)
      (.contractError "goal side-effect class is unsupported")
    _ ← items c.evidenceRequirements "evidence requirements" false true
    raiseIf (c.status ≠ of "proposed")
      (.contractError "bootstrap may only create proposed goal items")

structure ProjectBootstrapManifest where
  (manifestId applicationId instanceId intentDigest : PyStr)
  originatingMode : OrchestratorMode
  (orchestratorProfileDigest repositoryRelativePath repositoryDigest baseCommit baseTree : PyStr)
  (stateSnapshotDigest privacyClassification : PyStr)
  (inspectedFiles architectureBoundaries sourceOfTruthMap risks : List PyStr)
  goalItems : List (Checked GoalItem)
  proposalOnly : Bool := true
  networkUsed : Bool := false
  canonicalStateEffect : PyStr := "none"

instance : Contract ProjectBootstrapManifest where
  toDict c :=
    .dict [("formatVersion", .str "stateport.project-bootstrap-manifest/v1"),
      ("manifestId", .str c.manifestId), ("applicationId", .str c.applicationId),
      ("instanceId", .str c.instanceId), ("intentDigest", .str c.intentDigest),
      ("originatingMode", .str c.originatingMode.value),
      ("orchestratorProfileDigest", .str c.orchestratorProfileDigest),
      ("repository",
        .dict [("relativePath", .str c.repositoryRelativePath),
          ("digest", .str c.repositoryDigest), ("baseCommit", .str c.baseCommit),
          ("baseTree", .str c.baseTree),
          ("stateSnapshotDigest", .str c.stateSnapshotDigest)]),
      ("privacyClassification", .str c.privacyClassification),
      ("inspectedFiles", texts c.inspectedFiles),
      ("architectureBoundaries", texts c.architectureBoundaries),
      ("sourceOfTruthMap", texts c.sourceOfTruthMap), ("risks", texts c.risks),
      ("goalItems", .list (c.goalItems.map fun item => Contract.toDict item.val)),
      ("proposalOnly", .bool c.proposalOnly), ("networkUsed", .bool c.networkUsed),
      ("canonicalStateEffect", .str c.canonicalStateEffect)]
  postInit c := do
    _ ← identifier c.manifestId "bootstrap manifest id"
    _ ← identifier c.applicationId "application id"
    _ ← identifier c.instanceId "instance id"
    _ ← checkDigest c.intentDigest "intent digest"
    _ ← checkDigest c.orchestratorProfileDigest "bootstrap orchestrator profile digest"
    _ ← safeRelativePath c.repositoryRelativePath "repository relative path"
    _ ← checkDigest c.repositoryDigest "repository digest"
    _ ← gitSha c.baseCommit "base commit"
    _ ← gitSha c.baseTree "base tree"
    _ ← checkDigest c.stateSnapshotDigest "state snapshot digest"
    raiseIf (c.privacyClassification ≠ of "public_safe")
      (.contractError "bootstrap fixture must be explicitly public-safe")
    _ ← c.inspectedFiles.mapM fun path => safeRelativePath path "inspected file"
    raiseIf (c.inspectedFiles = [] ∨ ¬ c.inspectedFiles.Nodup)
      (.contractError "inspected files must be non-empty and unique")
    _ ← items c.architectureBoundaries "architecture boundaries" false true
    _ ← items c.sourceOfTruthMap "source-of-truth map" false true
    _ ← items c.risks "risk register" false true
    raiseIf (¬ (1 ≤ c.goalItems.length ∧ c.goalItems.length ≤ 7))
      (.contractError "bootstrap must produce a short strategic goal list")
    let ids := c.goalItems.map fun item => item.val.itemId
    raiseIf (¬ ids.Nodup) (.contractError "bootstrap goal item ids must be unique")
    raiseIf (∃ item ∈ c.goalItems, ¬ item.val.dependencies ⊆ ids)
      (.contractError "goal dependencies must reference this bootstrap manifest")
    raiseIf (c.proposalOnly = false ∨ c.networkUsed ∨ c.canonicalStateEffect ≠ of "none")
      (.contractError "bootstrap inspection must remain offline and proposal-only")

structure GoalProposal where
  (proposalId manifestDigest intentDigest : PyStr)
  originatingMode : OrchestratorMode
  (orchestratorProfileDigest proposedBy : PyStr)
  itemIds : List PyStr
  recommendedItemId : PyStr
  ambiguities : List PyStr := []
  approvalStatus : PyStr := "unapproved"
  canonicalStateEffect : PyStr := "none"
  nextItemRequiresNewApproval : Bool := true

instance : Contract GoalProposal where
  toDict c :=
    .dict [("formatVersion", .str "stateport.goal-proposal/v1"), ("proposalId", .str c.proposalId),
      ("manifestDigest", .str c.manifestDigest), ("intentDigest", .str c.intentDigest),
      ("originatingMode", .str c.originatingMode.value),
      ("orchestratorProfileDigest", .str c.orchestratorProfileDigest),
      ("proposedBy", .str c.proposedBy), ("itemIds", texts c.itemIds),
      ("recommendedItemId", .str c.recommendedItemId), ("ambiguities", texts c.ambiguities),
      ("approvalStatus", .str c.approvalStatus),
      ("canonicalStateEffect", .str c.canonicalStateEffect),
      ("nextItemRequiresNewApproval", .bool c.nextItemRequiresNewApproval)]
  postInit c := do
    _ ← identifier c.proposalId "goal proposal id"
    _ ← checkDigest c.manifestDigest "bootstrap manifest digest"
    _ ← checkDigest c.intentDigest "proposal intent digest"
    _ ← checkDigest c.orchestratorProfileDigest "proposal orchestrator profile digest"
    _ ← identifier c.proposedBy "proposal actor"
    let itemIds ← items c.itemIds "proposal item ids" true true
    _ ← identifier c.recommendedItemId "recommended item id"
    raiseIf (c.recommendedItemId ∉ itemIds)
      (.contractError "recommended item must be present in the proposal")
    _ ← items c.ambiguities "proposal ambiguities" false false
    raiseIf (c.approvalStatus ≠ of "unapproved" ∨ c.canonicalStateEffect ≠ of "none")
      (.contractError "a proposal cannot approve itself or alter canonical state")
    raiseIf (c.nextItemRequiresNewApproval = false)
      (.contractError "every next item requires a new explicit approval")

structure BootstrapProposal where
  manifest : Checked ProjectBootstrapManifest
  proposal : Checked GoalProposal

structure SlicePlan where
  (planId applicationId instanceId itemId manifestDigest proposalDigest intentDigest : PyStr)
  originatingMode : OrchestratorMode
  (orchestratorProfileDigest baseCommit baseTree stateSnapshotDigest : PyStr)
  requiredPermissions : List PyStr
  sideEffectClass : PyStr
  maximumBudget : GoalBudget
  (validationCommands contractVersions : List PyStr)
  proposedBy : PyStr
  networkPolicy : PyStr := "disabled"
  approvalRequired : Bool := true

instance : Contract SlicePlan where
  toDict c :=
    .dict [("formatVersion", .str "stateport.slice-plan/v1"), ("planId", .str c.planId),
      ("applicationId", .str c.applicationId), ("instanceId", .str c.instanceId),
      ("itemId", .str c.itemId), ("manifestDigest", .str c.manifestDigest),
      ("proposalDigest", .str c.proposalDigest), ("intentDigest", .str c.intentDigest),
      ("originatingMode", .str c.originatingMode.value),
      ("orchestratorProfileDigest", .str c.orchestratorProfileDigest),
      ("baseCommit", .str c.baseCommit), ("baseTree", .str c.baseTree),
      ("stateSnapshotDigest", .str c.stateSnapshotDigest),
      ("requiredPermissions", texts c.requiredPermissions),
      ("sideEffectClass", .str c.sideEffectClass), ("maximumBudget", c.maximumBudget.toDict),
      ("validationCommands", texts c.validationCommands),
      ("contractVersions", texts c.contractVersions), ("proposedBy", .str c.proposedBy),
      ("networkPolicy", .str c.networkPolicy), ("approvalRequired", .bool c.approvalRequired)]
  postInit c := do
    _ ← identifier c.planId "slice plan id"
    _ ← identifier c.applicationId "application id"
    _ ← identifier c.instanceId "instance id"
    _ ← identifier c.itemId "goal item id"
    _ ← checkDigest c.manifestDigest "manifest digest"
    _ ← checkDigest c.proposalDigest "proposal digest"
    _ ← checkDigest c.intentDigest "slice intent digest"
    _ ← checkDigest c.orchestratorProfileDigest "slice orchestrator profile digest"
    _ ← gitSha c.baseCommit "base commit"
    _ ← gitSha c.baseTree "base tree"
    _ ← checkDigest c.stateSnapshotDigest "state snapshot digest"
    _ ← permissions c.requiredPermissions "permissions"
    raiseIf (c.sideEffectClass ∉ sideEffects)
      (.contractError "slice side-effect class is unsupported")
    _ ← items c.validationCommands "slice validation commands" false true
    _ ← items c.contractVersions "slice contract versions" false true
    _ ← identifier c.proposedBy "slice proposer"
    raiseIf (c.networkPolicy ≠ of "disabled" ∨ c.approvalRequired = false)
      (.contractError "this bounded slice must be offline and approval-bound")

structure DelegationPlan where
  (planId itemId implementerActor reviewerActor intendedProfile actualProfile : PyStr)
  (readScope writeScope : List PyStr)
  routingDeviationReason : Option PyStr := none
  routingDeviationInvalidatesOutput : Bool := false
  independentReadOnlyReview : Bool := true

def DelegationPlan.routingDeviated (delegation : DelegationPlan) : Bool :=
  delegation.intendedProfile ≠ delegation.actualProfile

/-- A text or `None`. -/
def optional : Option PyStr → Wire
  | none => .null
  | some value => .str value

instance : Contract DelegationPlan where
  toDict c :=
    .dict [("formatVersion", .str "stateport.delegation-plan/v1"),
      ("planId", .str c.planId), ("itemId", .str c.itemId),
      ("implementerActor", .str c.implementerActor),
      ("reviewerActor", .str c.reviewerActor),
      ("intendedProfile", .str c.intendedProfile),
      ("actualProfile", .str c.actualProfile),
      ("readScope", texts c.readScope), ("writeScope", texts c.writeScope),
      ("routingDeviation",
        .dict [("occurred", .bool c.routingDeviated),
          ("reason", optional c.routingDeviationReason),
          ("invalidatesOutput", .bool c.routingDeviationInvalidatesOutput)]),
      ("independentReadOnlyReview", .bool c.independentReadOnlyReview)]
  postInit c := do
    _ ← identifier c.planId "delegation plan id"
    _ ← identifier c.itemId "goal item id"
    _ ← identifier c.implementerActor "implementer actor"
    _ ← identifier c.reviewerActor "reviewer actor"
    raiseIf (c.implementerActor = c.reviewerActor)
      (.contractError "implementer and independent reviewer must differ")
    _ ← identifier c.intendedProfile "intended profile"
    _ ← identifier c.actualProfile "actual profile"
    _ ← paths c.readScope "delegation read scope" true
    _ ← paths c.writeScope "delegation write scope" true
    raiseIf (c.routingDeviated ≠ c.routingDeviationReason.isSome)
      (.contractError "routing deviations require an exact reason and exact matches do not")
    match c.routingDeviationReason with
    | none => pure ()
    | some reason => _ ← text reason "routing deviation reason" 500
    raiseIf c.routingDeviationInvalidatesOutput
      (.contractError "routing deviation alone may not invalidate output")
    raiseIf (c.independentReadOnlyReview = false)
      (.contractError "delegated work requires independent read-only review")

structure AcceptanceContract where
  (contractId itemId : PyStr)
  (criteria validationCommands requiredContractVersions : List PyStr)
  requireCleanRepository : Bool := true
  requireReceipt : Bool := true

instance : Contract AcceptanceContract where
  toDict c :=
    .dict [("formatVersion", .str "stateport.acceptance-contract/v1"),
      ("contractId", .str c.contractId), ("itemId", .str c.itemId), ("criteria", texts c.criteria),
      ("validationCommands", texts c.validationCommands),
      ("requiredContractVersions", texts c.requiredContractVersions),
      ("requireCleanRepository", .bool c.requireCleanRepository),
      ("requireReceipt", .bool c.requireReceipt)]
  postInit c := do
    _ ← identifier c.contractId "acceptance contract id"
    _ ← identifier c.itemId "goal item id"
    _ ← items c.criteria "acceptance criteria" false true
    _ ← items c.validationCommands "acceptance validation commands" false true
    _ ← items c.requiredContractVersions "required contract versions" false true
    raiseIf (c.requireCleanRepository = false ∨ c.requireReceipt = false)
      (.contractError "clean repository and closure receipt are mandatory")

structure ReviewRequirement where
  (requirementId itemId acceptanceContractDigest reviewerActor : PyStr)
  bindExactCommit : Bool := true
  bindExactTree : Bool := true
  bindExactTests : Bool := true
  bindExactContractVersions : Bool := true
  independentReadOnly : Bool := true
  workspaceIsolation : PyStr := cleanWorktree
  critical : Bool := true

instance : Contract ReviewRequirement where
  toDict c :=
    .dict [("formatVersion", .str "stateport.review-requirement/v1"),
      ("requirementId", .str c.requirementId), ("itemId", .str c.itemId),
      ("acceptanceContractDigest", .str c.acceptanceContractDigest),
      ("reviewerActor", .str c.reviewerActor), ("bindExactCommit", .bool c.bindExactCommit),
      ("bindExactTree", .bool c.bindExactTree), ("bindExactTests", .bool c.bindExactTests),
      ("bindExactContractVersions", .bool c.bindExactContractVersions),
      ("independentReadOnly", .bool c.independentReadOnly),
      ("workspaceIsolation", .str c.workspaceIsolation), ("critical", .bool c.critical)]
  postInit c := do
    _ ← identifier c.requirementId "review requirement id"
    _ ← identifier c.itemId "goal item id"
    _ ← checkDigest c.acceptanceContractDigest "acceptance contract digest"
    _ ← identifier c.reviewerActor "reviewer actor"
    raiseIf ((c.bindExactCommit && c.bindExactTree &&
        c.bindExactTests && c.bindExactContractVersions &&
        c.independentReadOnly && c.critical) = false)
      (.contractError "high-risk closure requires exact independent critical review")
    raiseIf (c.workspaceIsolation ≠ cleanWorktree) (.contractError
      "independent review requires an exact clean detached read-only worktree")

/-! ### What a session records -/

structure ApprovalRecord where
  (approvalId applicationId instanceId itemId planDigest intentDigest : PyStr)
  originatingMode : OrchestratorMode
  (orchestratorProfileDigest policyDigest delegationPlanDigest acceptanceContractDigest : PyStr)
  contractVersions : List PyStr
  (approverActor baseCommit baseTree stateSnapshotDigest instanceLeaseId : PyStr)
  instanceLeaseGeneration : ℕ
  approvedPermissions : List PyStr
  approvedSideEffectClass : PyStr
  approvedBudget : GoalBudget
  status : PyStr := "approved"
  explicit : Bool := true

instance : Contract ApprovalRecord where
  toDict c :=
    .dict [("formatVersion", .str "stateport.goal-approval/v1"), ("approvalId", .str c.approvalId),
      ("applicationId", .str c.applicationId), ("instanceId", .str c.instanceId),
      ("itemId", .str c.itemId), ("planDigest", .str c.planDigest),
      ("intentDigest", .str c.intentDigest), ("originatingMode", .str c.originatingMode.value),
      ("orchestratorProfileDigest", .str c.orchestratorProfileDigest),
      ("policyDigest", .str c.policyDigest), ("delegationPlanDigest", .str c.delegationPlanDigest),
      ("acceptanceContractDigest", .str c.acceptanceContractDigest),
      ("contractVersions", texts c.contractVersions), ("approverActor", .str c.approverActor),
      ("baseCommit", .str c.baseCommit), ("baseTree", .str c.baseTree),
      ("stateSnapshotDigest", .str c.stateSnapshotDigest),
      ("instanceLeaseId", .str c.instanceLeaseId),
      ("instanceLeaseGeneration", .int c.instanceLeaseGeneration),
      ("approvedPermissions", texts c.approvedPermissions),
      ("approvedSideEffectClass", .str c.approvedSideEffectClass),
      ("approvedBudget", c.approvedBudget.toDict), ("status", .str c.status),
      ("explicit", .bool c.explicit)]
  postInit c := do
    _ ← identifier c.approvalId "approval id"
    _ ← identifier c.applicationId "approved application id"
    _ ← identifier c.instanceId "approved instance id"
    _ ← identifier c.itemId "goal item id"
    _ ← checkDigest c.planDigest "plan digest"
    _ ← checkDigest c.intentDigest "approved intent digest"
    _ ← checkDigest c.orchestratorProfileDigest "orchestrator profile digest"
    _ ← checkDigest c.policyDigest "goal execution policy digest"
    _ ← checkDigest c.delegationPlanDigest "delegation plan digest"
    _ ← checkDigest c.acceptanceContractDigest "acceptance contract digest"
    _ ← items c.contractVersions "approved contract versions" false true
    _ ← identifier c.approverActor "approver actor"
    _ ← gitSha c.baseCommit "approved base commit"
    _ ← gitSha c.baseTree "approved base tree"
    _ ← checkDigest c.stateSnapshotDigest "approved state snapshot digest"
    _ ← identifier c.instanceLeaseId "instance approval lease id"
    raiseIf (c.instanceLeaseGeneration < 1)
      (.contractError "instance approval lease generation must be positive")
    _ ← permissions c.approvedPermissions "approved permissions"
    raiseIf (c.approvedSideEffectClass ∉ safeSideEffects)
      (.contractError "unsafe side effects cannot receive this bounded approval")
    raiseIf (c.status ≠ of "approved" ∨ c.explicit = false)
      (.contractError "execution requires an explicit approved record")

structure ExecutionResult where
  (resultId itemId planDigest implementerActor functionalCommit functionalTree : PyStr)
  testResultDigest : PyStr
  (contractVersions actualPermissions : List PyStr)
  sideEffectClass : PyStr
  usedBudget : GoalBudget
  (testsPassed repositoryClean : Bool)
  externalSideEffectsObserved : Bool := false

instance : Contract ExecutionResult where
  toDict c :=
    .dict [("formatVersion", .str "stateport.goal-execution-result/v1"),
      ("resultId", .str c.resultId), ("itemId", .str c.itemId), ("planDigest", .str c.planDigest),
      ("implementerActor", .str c.implementerActor), ("functionalCommit", .str c.functionalCommit),
      ("functionalTree", .str c.functionalTree), ("testResultDigest", .str c.testResultDigest),
      ("contractVersions", texts c.contractVersions),
      ("actualPermissions", texts c.actualPermissions), ("sideEffectClass", .str c.sideEffectClass),
      ("usedBudget", c.usedBudget.toDict), ("testsPassed", .bool c.testsPassed),
      ("repositoryClean", .bool c.repositoryClean),
      ("externalSideEffectsObserved", .bool c.externalSideEffectsObserved)]
  postInit c := do
    _ ← identifier c.resultId "execution result id"
    _ ← identifier c.itemId "goal item id"
    _ ← checkDigest c.planDigest "plan digest"
    _ ← identifier c.implementerActor "implementer actor"
    _ ← gitSha c.functionalCommit "functional commit"
    _ ← gitSha c.functionalTree "functional tree"
    _ ← checkDigest c.testResultDigest "test result digest"
    _ ← items c.contractVersions "execution contract versions" false true
    _ ← permissions c.actualPermissions "actual permissions"
    raiseIf (c.sideEffectClass ∉ sideEffects)
      (.contractError "execution side-effect class is unsupported")

structure ReviewWorkspaceIsolation where
  (evidenceId reviewerActor implementationWorkspaceDigest reviewWorkspaceDigest : PyStr)
  (functionalCommit functionalTree : PyStr)
  verifierId : PyStr := "stateport.review-workspace-verifier.v1"
  workspaceIsolation : PyStr := cleanWorktree
  headDetached : Bool := true
  workspaceClean : Bool := true
  filesystemReadOnly : Bool := true
  separateFromImplementation : Bool := true

instance : Contract ReviewWorkspaceIsolation where
  toDict c :=
    .dict [("formatVersion", .str "stateport.review-workspace-isolation/v1"),
      ("evidenceId", .str c.evidenceId), ("reviewerActor", .str c.reviewerActor),
      ("implementationWorkspaceDigest", .str c.implementationWorkspaceDigest),
      ("reviewWorkspaceDigest", .str c.reviewWorkspaceDigest),
      ("functionalCommit", .str c.functionalCommit), ("functionalTree", .str c.functionalTree),
      ("verifierId", .str c.verifierId), ("workspaceIsolation", .str c.workspaceIsolation),
      ("headDetached", .bool c.headDetached), ("workspaceClean", .bool c.workspaceClean),
      ("filesystemReadOnly", .bool c.filesystemReadOnly),
      ("separateFromImplementation", .bool c.separateFromImplementation)]
  postInit c := do
    _ ← identifier c.evidenceId "review isolation evidence id"
    _ ← identifier c.reviewerActor "review isolation actor"
    _ ← checkDigest c.implementationWorkspaceDigest "implementation workspace digest"
    _ ← checkDigest c.reviewWorkspaceDigest "review workspace digest"
    raiseIf (c.implementationWorkspaceDigest = c.reviewWorkspaceDigest)
      (.contractError "review and implementation workspaces must have distinct identities")
    _ ← gitSha c.functionalCommit "isolated review commit"
    _ ← gitSha c.functionalTree "isolated review tree"
    raiseIf (c.verifierId ≠ of "stateport.review-workspace-verifier.v1")
      (.contractError "review isolation verifier is unsupported")
    raiseIf (c.workspaceIsolation ≠ cleanWorktree)
      (.contractError "review isolation must be clean, detached and read-only")
    raiseIf ((c.headDetached && c.workspaceClean &&
        c.filesystemReadOnly && c.separateFromImplementation) = false)
      (.contractError "review isolation evidence must prove every isolation property")

structure ReviewRecord where
  (reviewId itemId reviewerActor functionalCommit functionalTree testResultDigest : PyStr)
  (acceptanceContractDigest isolationEvidenceDigest : PyStr)
  contractVersions : List PyStr
  disposition : PyStr
  criticalFindings : List PyStr := []
  readOnly : Bool := true
  workspaceIdentity : PyStr := cleanWorktree
  workspaceClean : Bool := true
  ownedOriginalImplementation : Bool := false

def ReviewRecord.accepted (review : ReviewRecord) : Bool :=
  review.disposition = of "accepted" || review.disposition = of "accepted_with_bounded_followups"

instance : Contract ReviewRecord where
  toDict c :=
    .dict [("formatVersion", .str "stateport.goal-review/v1"), ("reviewId", .str c.reviewId),
      ("itemId", .str c.itemId), ("reviewerActor", .str c.reviewerActor),
      ("functionalCommit", .str c.functionalCommit), ("functionalTree", .str c.functionalTree),
      ("testResultDigest", .str c.testResultDigest),
      ("acceptanceContractDigest", .str c.acceptanceContractDigest),
      ("isolationEvidenceDigest", .str c.isolationEvidenceDigest),
      ("contractVersions", texts c.contractVersions), ("disposition", .str c.disposition),
      ("criticalFindings", texts c.criticalFindings), ("readOnly", .bool c.readOnly),
      ("workspaceIdentity", .str c.workspaceIdentity), ("workspaceClean", .bool c.workspaceClean),
      ("ownedOriginalImplementation", .bool c.ownedOriginalImplementation)]
  postInit c := do
    _ ← identifier c.reviewId "review id"
    _ ← identifier c.itemId "goal item id"
    _ ← identifier c.reviewerActor "reviewer actor"
    _ ← gitSha c.functionalCommit "reviewed commit"
    _ ← gitSha c.functionalTree "reviewed tree"
    _ ← checkDigest c.testResultDigest "reviewed test result digest"
    _ ← checkDigest c.acceptanceContractDigest "reviewed acceptance contract digest"
    _ ← checkDigest c.isolationEvidenceDigest "review isolation evidence digest"
    _ ← items c.contractVersions "reviewed contract versions" false true
    raiseIf (c.disposition ∉ reviewDispositions)
      (.contractError "review disposition is unsupported")
    _ ← items c.criticalFindings "critical review findings" false false
    raiseIf (c.readOnly = false) (.contractError "independent acceptance must be read-only")
    raiseIf (c.workspaceIdentity ≠ cleanWorktree) (.contractError
      "review workspace must use the exact clean detached read-only isolation")
    raiseIf (c.workspaceClean = false ∨ c.ownedOriginalImplementation)
      (.contractError "independent acceptance requires a clean workspace and separate ownership")
    raiseIf (c.disposition ≠ of "rejected_with_reproduced_defects" ∧ c.criticalFindings ≠ [])
      (.contractError "accepted review cannot contain critical findings")
    raiseIf (c.disposition = of "rejected_with_reproduced_defects" ∧ c.criticalFindings = [])
      (.contractError "rejection requires a concrete reproduced defect")

structure ClosureDecision where
  (decisionId itemId decidedBy status functionalCommit functionalTree testResultDigest : PyStr)
  reviewDigest : PyStr
  reasons : List PyStr

instance : Contract ClosureDecision where
  toDict c :=
    .dict [("formatVersion", .str "stateport.closure-decision/v1"),
      ("decisionId", .str c.decisionId), ("itemId", .str c.itemId), ("decidedBy", .str c.decidedBy),
      ("status", .str c.status), ("functionalCommit", .str c.functionalCommit),
      ("functionalTree", .str c.functionalTree), ("testResultDigest", .str c.testResultDigest),
      ("reviewDigest", .str c.reviewDigest), ("reasons", texts c.reasons)]
  postInit c := do
    _ ← identifier c.decisionId "closure decision id"
    _ ← identifier c.itemId "goal item id"
    _ ← identifier c.decidedBy "closure authority"
    raiseIf (c.status ∉ closureStatuses) (.contractError "closure status is unsupported")
    _ ← gitSha c.functionalCommit "closure commit"
    _ ← gitSha c.functionalTree "closure tree"
    _ ← checkDigest c.testResultDigest "closure test result digest"
    _ ← checkDigest c.reviewDigest "closure review digest"
    _ ← items c.reasons "closure reasons" false true

structure GoalExecutionReceipt where
  (receiptId applicationId instanceId itemId approvalDigest executionResultDigest : PyStr)
  (reviewDigest closureDecisionDigest : PyStr)
  routingDeviationRetained : Bool
  nextItemStatus : PyStr := "stopped_unapproved"
  canonicalStateEffect : PyStr := "none"

instance : Contract GoalExecutionReceipt where
  toDict c :=
    .dict [("formatVersion", .str "stateport.goal-execution-receipt/v1"),
      ("receiptId", .str c.receiptId), ("applicationId", .str c.applicationId),
      ("instanceId", .str c.instanceId), ("itemId", .str c.itemId),
      ("approvalDigest", .str c.approvalDigest),
      ("executionResultDigest", .str c.executionResultDigest),
      ("reviewDigest", .str c.reviewDigest),
      ("closureDecisionDigest", .str c.closureDecisionDigest),
      ("routingDeviationRetained", .bool c.routingDeviationRetained),
      ("nextItemStatus", .str c.nextItemStatus),
      ("canonicalStateEffect", .str c.canonicalStateEffect)]
  postInit c := do
    _ ← identifier c.receiptId "receipt id"
    _ ← identifier c.applicationId "application id"
    _ ← identifier c.instanceId "instance id"
    _ ← identifier c.itemId "goal item id"
    _ ← checkDigest c.approvalDigest "approval digest"
    _ ← checkDigest c.executionResultDigest "execution result digest"
    _ ← checkDigest c.reviewDigest "review digest"
    _ ← checkDigest c.closureDecisionDigest "closure decision digest"
    raiseIf (c.nextItemStatus ≠ of "stopped_unapproved")
      (.contractError "receipt must stop before an unapproved next item")
    raiseIf (c.canonicalStateEffect ≠ of "none")
      (.contractError "this provider-free proof cannot mutate canonical state")

end StatePort.Goal
