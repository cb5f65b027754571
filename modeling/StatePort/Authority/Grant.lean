import StatePort.Authority.Basic

/-!
# Policies and grants

`AuthorityPolicy.mode_for`, `prepare_grant` with its scope and limit checks, and `_base_mode` of
`packages/governed-runner/src/governed_runner/authority.py`.

A `RawGrant` is the mapping that a caller supplies or that a file holds; a `Grant` is what
`prepareGrant` makes of it. What every manager checks alike is a field of the validated types:
`BranchPattern`, and the bounds in `Limits`.
-/

namespace StatePort.Authority

/-! ### Policies -/

structure ProfileDefinition where
  default : Mode
  (autoWithReceipt approveScopeOnce autoAndNotify deny : List String)

/-- The parts of `AuthorityPolicy` that decisions read. -/
structure AuthorityPolicy where
  defaultProfile : Profile
  actions : List String
  profiles : Profile → ProfileDefinition
  (hardDeny mergeRequirements subagentDefaultDeny : List String)
  policyDigest : String

structure RepositoryIdentity where
  (repositoryKey repositoryRoot : String)
  origin : Option String
deriving DecidableEq

/-- An `AuthorityManager`: the policy and the repository that it observes. -/
structure Manager where
  policy : AuthorityPolicy
  identity : RepositoryIdentity

/-- A mapping from actions to modes. -/
abbrev CustomPolicies := List (String × Mode)

/-- `set(custom) != set(actions)` does not hold. -/
def sameActions (custom : CustomPolicies) (actions : List String) : Bool :=
  custom.all (fun p => p.1 ∈ actions) && actions.all fun a => a ∈ custom.map Prod.fst

/-- The mode that a profile's action groups give an action. -/
def ProfileDefinition.modeOf (definition : ProfileDefinition) (action : String) : Mode :=
  if action ∈ definition.autoWithReceipt then .autoWithReceipt
  else if action ∈ definition.approveScopeOnce then .approveScopeOnce
  else if action ∈ definition.autoAndNotify then .autoAndNotify
  else if action ∈ definition.deny then .deny
  else definition.default

/-- `AuthorityPolicy.mode_for`. -/
def modeFor (policy : AuthorityPolicy) (profile : Profile) (action : String)
    (custom : Option CustomPolicies) : Except AuthorityError Mode := do
  raiseIf (action ∉ policy.actions)
    (.error "invalid_contract" "unknown authority profile or action")
  if profile = .custom then
    match custom with
    | none => .error (.error "invalid_grant" "custom profile requires one policy for every action")
    | some custom =>
      raiseIf (sameActions custom policy.actions = false)
        (.error "invalid_grant" "custom profile requires one policy for every action")
      match custom.lookup action with
      | some mode => return mode
      | none =>
        .error (.error "invalid_grant" "custom profile requires one policy for every action")
  else
    return (policy.profiles profile).modeOf action

/-! ### Scopes -/

structure DeploymentSource where
  (repositoryIdentity projectPath : String)
deriving DecidableEq

structure RawScope where
  repository : RepositoryIdentity
  (branchPattern sliceId applicationId runId : Option String)
  paths : List String
  deploymentSources : Option (List DeploymentSource)

structure Scope where
  repository : RepositoryIdentity
  branchPattern : Option BranchPattern
  (sliceId applicationId runId : Option String)
  paths : List String
  deploymentSources : Option (List DeploymentSource)

def Scope.raw (s : Scope) : RawScope where
  repository := s.repository
  branchPattern := s.branchPattern.map Subtype.val
  sliceId := s.sliceId
  applicationId := s.applicationId
  runId := s.runId
  paths := s.paths
  deploymentSources := s.deploymentSources

/-- One selector of `deploymentSources`. -/
def validateSource (source : DeploymentSource) : Except AuthorityError DeploymentSource := do
  raiseIf (isDigest source.repositoryIdentity = false)
    (.error "invalid_grant" "deployment source repository identity is invalid")
  match normalizedPath source.projectPath with
  | .ok projectPath => return ⟨source.repositoryIdentity, projectPath⟩
  | .error _ => .error (.error "invalid_grant" "deployment source project path is invalid")

/-- The order in which selectors are sorted: by repository, then by path. -/
def DeploymentSource.before (a b : DeploymentSource) : Prop :=
  a.repositoryIdentity < b.repositoryIdentity ∨
    (a.repositoryIdentity = b.repositoryIdentity ∧ a.projectPath ≤ b.projectPath)

instance (a b : DeploymentSource) : Decidable (a.before b) :=
  inferInstanceAs (Decidable (_ ∨ _ ∧ _))

/-- The sorted selectors of `deploymentSources`. -/
def validateSources (sources : List DeploymentSource) :
    Except AuthorityError (List DeploymentSource) := do
  raiseIf (sources = [])
    (.error "invalid_grant" "deployment source scope must be a non-empty exact list")
  let normalized ← sources.mapM validateSource
  let canonical := normalized.insertionSort DeploymentSource.before
  raiseIf (¬ canonical.Nodup)
    (.error "invalid_grant" "deployment source selectors contain duplicates")
  return canonical

def validateScope (m : Manager) (value : RawScope) : Except AuthorityError Scope := do
  raiseIf (value.repository.repositoryKey ≠ m.identity.repositoryKey)
    (.error "invalid_grant" "grant repository key does not match the observed repository")
  raiseIf (value.repository.repositoryRoot ≠ m.identity.repositoryRoot)
    (.error "invalid_grant" "grant repository root does not match the observed repository")
  let origin ← safeOrigin value.repository.origin
  raiseIf (origin ≠ m.identity.origin)
    (.error "invalid_grant" "grant repository origin does not match the observed repository")
  let branchPattern ← value.branchPattern.mapM checkBranchPattern
  let sliceId ← value.sliceId.mapM (identifier · "sliceId")
  let applicationId ← value.applicationId.mapM (identifier · "applicationId")
  let runId ← value.runId.mapM (identifier · "runId")
  raiseIf (value.paths = [])
    (.error "invalid_grant" "grant scope paths must be a non-empty unique list")
  let paths ← value.paths.mapM normalizedPath
  raiseIf (¬ paths.Nodup) (.error "invalid_grant" "grant scope paths normalize to duplicates")
  let deploymentSources ← value.deploymentSources.mapM validateSources
  return ⟨m.identity, branchPattern, sliceId, applicationId, runId, paths, deploymentSources⟩

/-! ### Limits -/

structure RawLimits where
  (maxActions maxDurationSeconds : Option ℤ)
  maxCostUsd : Option Number
  network : NetworkMode
  (allowedDomains providers secretCapabilities : List String)

structure Limits where
  (maxActions maxDurationSeconds : Option ℕ)
  maxCostUsd : Option ℚ≥0
  network : NetworkMode
  (allowedDomains providers secretCapabilities : List String)
  maxActions_pos : ∀ n ∈ maxActions, 0 < n
  maxDurationSeconds_pos : ∀ n ∈ maxDurationSeconds, 0 < n
  allowedDomains_eq_nil : network ≠ .allowlisted → allowedDomains = []

def Limits.raw (l : Limits) : RawLimits where
  maxActions := l.maxActions.map Int.ofNat
  maxDurationSeconds := l.maxDurationSeconds.map Int.ofNat
  maxCostUsd := l.maxCostUsd.map fun (c : ℚ≥0) => Number.finite c
  network := l.network
  allowedDomains := l.allowedDomains
  providers := l.providers
  secretCapabilities := l.secretCapabilities

/-- An integer limit: absent or at least one. -/
def positiveLimit (value : Option ℤ) (name : String) :
    Except AuthorityError {n : Option ℕ // ∀ k ∈ n, 0 < k} :=
  match value with
  | none => .ok ⟨none, by simp⟩
  | some n =>
    if h : 0 < n then .ok ⟨some n.toNat, by simpa using h⟩
    else .error (.error "invalid_grant" (name ++ " is invalid"))

/-- A list limit: unique texts of bounded length. -/
def boundedTexts (items : List String) (name : String) (bound : ℕ) :
    Except AuthorityError Unit := do
  raiseIf (¬ items.Nodup) (.error "invalid_grant" (name ++ " must be a unique list"))
  raiseIf (∃ item ∈ items, item.toList.length < 1 ∨ bound < item.toList.length)
    (.error "invalid_grant" (name ++ " contains an invalid value"))

def validateLimits (value : RawLimits) : Except AuthorityError Limits := do
  let maxActions ← positiveLimit value.maxActions "maxActions"
  let maxDurationSeconds ← positiveLimit value.maxDurationSeconds "maxDurationSeconds"
  let maxCostUsd ← value.maxCostUsd.mapM (cost · (.error "invalid_grant" "maxCostUsd is invalid"))
  boundedTexts value.allowedDomains "allowedDomains" 253
  raiseIf (∃ item ∈ value.allowedDomains, isDomain item = false)
    (.error "invalid_grant" "allowedDomains contains an invalid domain")
  boundedTexts value.providers "providers" 128
  boundedTexts value.secretCapabilities "secretCapabilities" 128
  raiseIf (value.network = .denied ∧ value.allowedDomains ≠ [])
    (.error "invalid_grant" "denied network grants cannot carry allowed domains")
  if h : value.network ≠ .allowlisted → value.allowedDomains = [] then
    return ⟨maxActions.1, maxDurationSeconds.1, maxCostUsd, value.network, value.allowedDomains,
      value.providers, value.secretCapabilities, maxActions.2, maxDurationSeconds.2, h⟩
  else
    .error (.error "invalid_grant" "unrestricted network grants do not use an allowlist")

/-! ### Grants -/

structure Subject where
  actorId : String
  role : Role

structure RawGrant where
  grantId : String
  kind : GrantKind
  profile : Profile
  subject : Subject
  scope : RawScope
  (allow requireApproval forbid : List String)
  customPolicies : CustomPolicies
  limits : RawLimits
  issuedAt : ℕ
  expiresWhen : ExpiryMode
  expiresAt : Option ℕ
  ownerDirectiveId : String
  parentGrantId : Option String
  canDelegate : Bool
  /-- Absent in grants that predate policy binding. -/
  policyDigest : Option String
  /-- Filled by `prepareGrant` when omitted. -/
  grantDigest : Option String

/-- The body over which a grant's digest is taken. -/
structure GrantBody where
  grantId : String
  kind : GrantKind
  profile : Profile
  subject : Subject
  scope : Scope
  (allow requireApproval forbid : List String)
  customPolicies : CustomPolicies
  limits : Limits
  issuedAt : ℕ
  expiresWhen : ExpiryMode
  expiresAt : Option ℕ
  ownerDirectiveId : String
  parentGrantId : Option String
  canDelegate : Bool
  policyDigest : Option String

structure Grant extends GrantBody where
  grantDigest : String

def Grant.id (g : Grant) : String := g.grantId

def Grant.raw (g : Grant) : RawGrant where
  grantId := g.grantId
  kind := g.kind
  profile := g.profile
  subject := g.subject
  scope := g.scope.raw
  allow := g.allow
  requireApproval := g.requireApproval
  forbid := g.forbid
  customPolicies := g.customPolicies
  limits := g.limits.raw
  issuedAt := g.issuedAt
  expiresWhen := g.expiresWhen
  expiresAt := g.expiresAt
  ownerDirectiveId := g.ownerDirectiveId
  parentGrantId := g.parentGrantId
  canDelegate := g.canDelegate
  policyDigest := g.policyDigest
  grantDigest := some g.grantDigest

def validateActionList (m : Manager) (value : List String) (label : String) :
    Except AuthorityError Unit :=
  raiseIf (¬ value.Nodup ∨ ∃ item ∈ value, item ∉ m.policy.actions)
    (.error "invalid_grant" (label ++ " must contain unique known action classes"))

/-- The expiry of a grant: a time after its issuance exactly when it expires by time. -/
def validateExpiry (value : RawGrant) (scope : Scope) : Except AuthorityError Unit := do
  raiseIf (value.expiresWhen = .sliceClosed ∧ scope.sliceId = none)
    (.error "invalid_grant" "slice-closed expiry requires a slice scope")
  raiseIf (value.expiresWhen = .runClosed ∧ scope.runId = none)
    (.error "invalid_grant" "run-closed expiry requires a run scope")
  match value.expiresWhen, value.expiresAt with
  | .timestamp, none =>
    .error (.error "invalid_grant" "expiresAt must be a UTC timestamp ending in Z")
  | .timestamp, some expiresAt =>
    raiseIf (expiresAt ≤ value.issuedAt)
      (.error "invalid_grant" "grant expiry must follow issuance")
  | _, some _ => .error (.error "invalid_grant" "expiresAt is only valid for timestamp expiry")
  | _, none => return ()

/-- `prepare_grant`. `digest` is the digest of a grant's body. -/
def prepareGrant (digest : GrantBody → String) (m : Manager) (value : RawGrant) :
    Except AuthorityError Grant := do
  raiseIf (∃ d ∈ value.policyDigest, isDigest d = false)
    (.error "invalid_grant" "grant policy digest is invalid")
  raiseIf (isGrantId value.grantId = false) (.error "invalid_grant" "grant id is invalid")
  let actorId ← identifier value.subject.actorId "subject actor id"
  let scope ← validateScope m value.scope
  validateActionList m value.allow "allow"
  validateActionList m value.requireApproval "requireApproval"
  validateActionList m value.forbid "forbid"
  raiseIf ((∃ a ∈ value.allow, a ∈ value.requireApproval) ∨ (∃ a ∈ value.allow, a ∈ value.forbid) ∨
      ∃ a ∈ value.requireApproval, a ∈ value.forbid)
    (.error "conflicting_policy_rules" "grant action lists overlap")
  raiseIf (∃ p ∈ value.customPolicies, p.1 ∉ m.policy.actions)
    (.error "invalid_grant" "custom action policies are invalid")
  raiseIf (value.profile = .custom ∧ sameActions value.customPolicies m.policy.actions = false)
    (.error "invalid_grant" "custom grants must classify every action")
  raiseIf (value.profile ≠ .custom ∧ value.customPolicies ≠ [])
    (.error "invalid_grant" "non-custom grants cannot carry custom action policies")
  let limits ← validateLimits value.limits
  validateExpiry value scope
  let ownerDirectiveId ← identifier value.ownerDirectiveId "owner directive id"
  raiseIf (∃ p ∈ value.parentGrantId, isGrantId p = false)
    (.error "invalid_grant" "parent grant id is invalid")
  raiseIf (value.subject.role = .subagent ∧ value.parentGrantId = none)
    (.error "invalid_grant" "subagent grants require a parent grant")
  raiseIf (value.subject.role ≠ .subagent ∧ value.parentGrantId ≠ none)
    (.error "invalid_grant" "only subagent grants may name a parent grant")
  raiseIf (value.subject.role = .subagent ∧ value.canDelegate)
    (.error "invalid_grant" "subagents cannot delegate authority")
  let body : GrantBody :=
    { grantId := value.grantId
      kind := value.kind
      profile := value.profile
      subject := ⟨actorId, value.subject.role⟩
      scope := scope
      allow := value.allow
      requireApproval := value.requireApproval
      forbid := value.forbid
      customPolicies := value.customPolicies
      limits := limits
      issuedAt := value.issuedAt
      expiresWhen := value.expiresWhen
      expiresAt := value.expiresAt
      ownerDirectiveId := ownerDirectiveId
      parentGrantId := value.parentGrantId
      canDelegate := value.canDelegate
      policyDigest := value.policyDigest }
  raiseIf (∃ d ∈ value.grantDigest, d ≠ digest body)
    (.error "invalid_grant" "grant digest is invalid")
  return ⟨body, digest body⟩

def baseMode (m : Manager) (grant : Grant) (action : String) : Except AuthorityError Mode := do
  let mode ← modeFor m.policy grant.profile action (some grant.customPolicies)
  if action ∈ grant.forbid then
    return .deny
  else if action ∈ grant.requireApproval then
    return .askEachTime
  else if action ∈ grant.allow then
    return .autoWithReceipt
  else
    return mode

end StatePort.Authority
