import StatePort.Authority.Records

/-!
# Usage, status and scope of grants

`_grant_usage_unlocked`, `_grant_status_unlocked`, `_grant_live_for_reserved_unlocked`,
`_scope_matches` and `_assert_child_is_narrower` of
`packages/governed-runner/src/governed_runner/authority.py`.

The two walks along the parents of a grant recurse on the number of stored grants; a longer walk is a
cycle, on which Python's recursion limit raises.
-/

namespace StatePort.Authority

variable (H : Body → String)

/-! ### Usage -/

def familyIds (grants : List Grant) (grantId : String) : List String :=
  grantId :: (grants.filter (·.parentGrantId = some grantId)).map (·.grantId)

/-- The receipt counts towards the family: authorised by one of its grants. -/
def Receipt.chargedTo (family : List String) (r : Receipt) : Bool :=
  r.authorizedBy.type = .grant && r.authorizedBy.id ∈ family && r.decision = .authorized

/-- The reservation counts towards the family. -/
def Reservation.chargedTo (family : List String) (v : Reservation) : Bool :=
  v.decision.authorizedBy.type = .grant && v.decision.authorizedBy.id ∈ family &&
    v.decision.decision = .authorized

/-- A dictionary built from a list of items: a later item replaces an earlier one. -/
def dictGet (items : List (String × ℚ≥0)) (k : String) : Option ℚ≥0 := items.reverse.lookup k

/-- What one request costs the family: its actual cost, or else its estimate. -/
def requestCost (receipts : List Receipt) (reservations : List Reservation) (requestId : String) :
    ℚ≥0 :=
  (dictGet (receipts.map fun r => (r.requestId, r.actualCostUsd)) requestId).getD
    ((dictGet (reservations.map fun v => (v.requestId, v.decision.estimatedCostUsd))
      requestId).getD 0)

/-- `_grant_usage_unlocked`: the distinct requests of the family and their cost. -/
def grantUsage (m : Manager) (s : Store) (grantId : String) : Except AuthorityError (ℕ × ℚ≥0) := do
  let grants ← loadGrants H m s
  let family := familyIds grants grantId
  let receipts := (← loadReceipts H s).filter (Receipt.chargedTo family)
  let reservations := (← loadReservations H s).filter (Reservation.chargedTo family)
  let requestIds := (receipts.map (·.requestId) ++ reservations.map (·.requestId)).dedup
  return (requestIds.length, (requestIds.map (requestCost receipts reservations)).sum)

/-! ### Status -/

/-- The closing of a slice or run, as `_scope_closure_path(…).exists()` finds it. -/
def scopeClosed (s : Store) (kind : ClosureKind) (scopeId : Option String) (label : String) :
    Except AuthorityError Bool := do
  let scopeId ← identifier (scopeId.getD "") label
  return s.closures.contains (kind, scopeId)

/-- Whether a grant has expired by time or by the closing of its slice or run. -/
def expired (s : Store) (now : ℕ) (grant : Grant) : Except AuthorityError Bool :=
  match grant.expiresWhen with
  | .timestamp => return grant.expiresAt.any (· ≤ now)
  | .sliceClosed => scopeClosed s .slice grant.scope.sliceId "slice id"
  | .runClosed => scopeClosed s .run grant.scope.runId "run id"
  | .revoked | .oneAction => return false

variable (m : Manager) (s : Store) (now : ℕ) (grant : Grant)

/-- `_grant_expiry_status_unlocked`. -/
def grantExpiryStatus : Except AuthorityError GrantStatus := do
  if (← expired s now grant) then
    return .expired
  let (uses, _) ← grantUsage H m s grant.grantId
  if (grant.expiresWhen = .oneAction ∨ grant.kind = .oneTime) ∧ 1 ≤ uses then
    return .consumed
  if ∃ n ∈ grant.limits.maxActions, n ≤ uses then
    return .budgetExhausted
  return .active

def recursionError : AuthorityError := .error "RecursionError" "maximum recursion depth exceeded"

/-- `_grant_status_unlocked`, along at most `fuel` parents. -/
def grantStatusAux (m : Manager) (s : Store) (now : ℕ) :
    ℕ → Grant → Except AuthorityError GrantStatus
  | 0, _ => .error recursionError
  | fuel + 1, grant =>
    if s.revocations.contains grant.grantId then
      return .revoked
    else if grant.policyDigest = none then
      return .policyUnbound
    else if grant.policyDigest ≠ some m.policy.policyDigest then
      return .policyChanged
    else
      match grant.parentGrantId with
      | none => grantExpiryStatus H m s now grant
      | some parentId => do
        let parent ← loadGrant H m s parentId
        let status ← grantStatusAux m s now fuel parent
        if status ≠ .active then
          return .parentInactive
        else
          grantExpiryStatus H m s now grant

/-- `_grant_status_unlocked`. -/
def grantStatus : Except AuthorityError GrantStatus :=
  grantStatusAux H m s now (s.grants.rows.length + 1) grant

/-- `_grant_live_for_reserved_unlocked`, along at most `fuel` parents. -/
def grantLiveAux (m : Manager) (s : Store) (now : ℕ) : ℕ → Grant → Except AuthorityError Bool
  | 0, _ => .error recursionError
  | fuel + 1, grant =>
    if s.revocations.contains grant.grantId ∨
        grant.policyDigest ≠ some m.policy.policyDigest then
      return false
    else
      match grant.parentGrantId with
      | none => return !(← expired s now grant)
      | some parentId => do
        let parent ← loadGrant H m s parentId
        if !(← grantLiveAux m s now fuel parent) then
          return false
        else
          return !(← expired s now grant)

/-- `_grant_live_for_reserved_unlocked`. -/
def grantLive : Except AuthorityError Bool :=
  grantLiveAux H m s now (s.grants.rows.length + 1) grant

/-! ### Scope -/

/-- `any(_path_is_within(path, prefix) for prefix in roots)`. -/
def withinSome (roots : List String) (path : String) : Bool := roots.any (pathIsWithin path)

/-- An exact id that a scope may require. -/
def idOutside (expected actual : Option String) : Prop := expected ≠ none ∧ actual ≠ expected

instance (expected actual : Option String) : Decidable (idOutside expected actual) :=
  inferInstanceAs (Decidable (_ ∧ _))

/-- The source is not one of the selected ones. -/
def sourceOutside (selectors : Option (List DeploymentSource)) (source : SourceIdentity) : Prop :=
  ¬ ∃ items ∈ selectors, ∃ item ∈ items,
    item.repositoryIdentity = source.repositoryIdentity ∧ item.projectPath = source.projectPath

instance (selectors : Option (List DeploymentSource)) (source : SourceIdentity) :
    Decidable (sourceOutside selectors source) :=
  inferInstanceAs (Decidable (¬ _))

/-- `_scope_matches`: the reason why the scope does not match, if there is one. -/
def scopeMismatch (scope : Scope) (branch sliceId applicationId runId : Option String)
    (paths : List String) (source : Option SourceIdentity) : Option String :=
  if ∃ p ∈ scope.branchPattern, ∃ b ∈ branch, Glob.fnmatchcase b p.1 = false then
    some "branch_outside_grant"
  else if idOutside scope.sliceId sliceId then some "sliceId_outside_grant"
  else if idOutside scope.applicationId applicationId then some "applicationId_outside_grant"
  else if idOutside scope.runId runId then some "runId_outside_grant"
  else if ∃ path ∈ paths, withinSome scope.paths path = false then some "path_outside_grant"
  else if ∃ src ∈ source, sourceOutside scope.deploymentSources src then
    some "deployment_source_outside_grant"
  else none

/-! ### Delegation -/

/-- A child's limit stays below its parent's. -/
def limitExceeds {α : Type} [LT α] (child parent : Option α) : Prop :=
  ∃ p ∈ parent, ∀ c ∈ child, p < c

instance (child parent : Option ℕ) : Decidable (limitExceeds child parent) :=
  inferInstanceAs (Decidable (∃ p ∈ parent, ∀ c ∈ child, p < c))

instance (child parent : Option ℚ≥0) : Decidable (limitExceeds child parent) :=
  inferInstanceAs (Decidable (∃ p ∈ parent, ∀ c ∈ child, p < c))

/-- The deployment sources of a child are among its parent's. -/
def sourcesExceed (child parent : Option (List DeploymentSource)) : Prop :=
  ∃ cs ∈ child, ∀ ps ∈ parent, ¬ cs ⊆ ps

instance (child parent : Option (List DeploymentSource)) : Decidable (sourcesExceed child parent) :=
  inferInstanceAs (Decidable (∃ cs ∈ child, ∀ ps ∈ parent, ¬ cs ⊆ ps))

/-- The scope checks of `_assert_child_is_narrower`. -/
def assertScopeNarrower (child parent : Scope) : Except AuthorityError Unit := do
  raiseIf (patternNarrower (child.branchPattern.map (·.1)) (parent.branchPattern.map (·.1)) = false)
    (.refusal "delegation_scope_broadened" "subagent branch scope exceeds its parent")
  raiseIf (idOutside parent.sliceId child.sliceId)
    (.refusal "delegation_scope_broadened" "subagent sliceId scope exceeds its parent")
  raiseIf (idOutside parent.applicationId child.applicationId)
    (.refusal "delegation_scope_broadened" "subagent applicationId scope exceeds its parent")
  raiseIf (idOutside parent.runId child.runId)
    (.refusal "delegation_scope_broadened" "subagent runId scope exceeds its parent")
  raiseIf (∃ path ∈ child.paths, withinSome parent.paths path = false)
    (.refusal "delegation_scope_broadened" "subagent file scope exceeds its parent")
  raiseIf (sourcesExceed child.deploymentSources parent.deploymentSources)
    (.refusal "delegation_scope_broadened" "subagent deployment source scope exceeds its parent")

def assertModeNarrower (child parent : Grant) (action : String) : Except AuthorityError Unit := do
  let childMode ← baseMode m child action
  let parentMode ← baseMode m parent action
  raiseIf (parentMode.permissiveness < childMode.permissiveness)
    (.refusal "delegation_authority_broadened" ("subagent action exceeds parent: " ++ action))

/-- The limit checks of `_assert_child_is_narrower`. -/
def assertLimitsNarrower (child parent : Limits) : Except AuthorityError Unit := do
  raiseIf (limitExceeds child.maxActions parent.maxActions)
    (.refusal "delegation_budget_broadened" "subagent maxActions exceeds its parent")
  raiseIf (limitExceeds child.maxDurationSeconds parent.maxDurationSeconds)
    (.refusal "delegation_budget_broadened" "subagent maxDurationSeconds exceeds its parent")
  raiseIf (limitExceeds child.maxCostUsd parent.maxCostUsd)
    (.refusal "delegation_budget_broadened" "subagent maxCostUsd exceeds its parent")
  raiseIf (parent.network.rank < child.network.rank)
    (.refusal "delegation_capability_broadened" "subagent network scope exceeds its parent")
  raiseIf (parent.network = .allowlisted ∧ ¬ child.allowedDomains ⊆ parent.allowedDomains)
    (.refusal "delegation_capability_broadened" "subagent domains exceed its parent")
  raiseIf (¬ child.providers ⊆ parent.providers)
    (.refusal "delegation_capability_broadened" "subagent providers exceed its parent")
  raiseIf (¬ child.secretCapabilities ⊆ parent.secretCapabilities)
    (.refusal "delegation_capability_broadened" "subagent secretCapabilities exceed its parent")

def assertChildIsNarrower (child parent : Grant) : Except AuthorityError Unit := do
  raiseIf (parent.canDelegate = false)
    (.refusal "delegation_not_allowed" "parent grant cannot delegate")
  let status ← grantStatus H m s now parent
  raiseIf (status ≠ .active) (.refusal "grant_inactive" "parent grant is not active")
  assertScopeNarrower child.scope parent.scope
  m.policy.actions.forM (assertModeNarrower m child parent)
  assertLimitsNarrower child.limits parent.limits

end StatePort.Authority
