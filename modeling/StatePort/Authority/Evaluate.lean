import StatePort.Authority.Status

/-!
# Evaluation of a request

`AuthorityManager.evaluate` of `packages/governed-runner/src/governed_runner/authority.py`. The
verdict is one mutable pair of policy and reason that a cascade of checks overwrites; here each
check is one `overwrite`.
-/

namespace StatePort.Authority

variable (H : Body → String)

/-! ### Requests -/

structure Request where
  (action actorId : String)
  (grantId branch sliceId applicationId runId : Option String)
  paths : List String
  estimatedCostUsd : Number
  estimatedDurationSeconds : ℤ
  domains : List String
  provider : Option String
  (secretCapabilities assurances : List String)
  sourceIdentity : Option SourceIdentity
  requestId : Option String

/-- What the argument checks make of a request. -/
structure CheckedRequest where
  requestId : String
  paths : List String
  estimatedCostUsd : ℚ≥0
  estimatedDurationSeconds : ℕ
  sourceIdentity : Option SourceIdentity

def checkSourceDigest (value name : String) : Except AuthorityError Unit :=
  raiseIf (isDigest value = false)
    (.error "invalid_contract" ("requested source " ++ name ++ " is invalid"))

/-- `_normalized_source_identity`, for a value that is not `None`. -/
def normalizedSourceIdentity (value : SourceIdentity) : Except AuthorityError SourceIdentity := do
  checkSourceDigest value.repositoryIdentity "repositoryIdentity"
  checkSourceDigest value.treeDigest "treeDigest"
  checkSourceDigest value.dirtyDigest "dirtyDigest"
  checkSourceDigest value.descriptorDigest "descriptorDigest"
  raiseIf (isCommit value.commit = false)
    (.error "invalid_contract" "requested source commit is invalid")
  let projectPath ← normalizedPath value.projectPath
  return { value with projectPath := projectPath }

/-- The branch of an action: an exact safe ref. -/
def checkBranch (branch : String) : Except AuthorityError Unit := do
  let parsed ← branchPattern branch
  raiseIf ('*' ∈ parsed.toList)
    (.error "invalid_contract" "action branch must be an exact safe ref")

/-- Unique texts that all pass a lexical check. -/
def checkTexts (items : List String) (ok : String → Bool) (detail : String) :
    Except AuthorityError Unit :=
  raiseIf (¬ items.Nodup ∨ ∃ item ∈ items, ok item = false) (.error "invalid_contract" detail)

/-- What only some actions must or may supply. -/
def checkActionInputs (req : Request) (source : Option SourceIdentity) :
    Except AuthorityError Unit := do
  let preflightOnly := "preflight_only" ∈ req.assurances
  raiseIf (preflightOnly ∧ (req.assurances ≠ ["preflight_only"] ∨ req.runId ≠ none ∨ source ≠ none))
    (.error "invalid_contract" "preflight-only authority may bind only an unresolved exact scope")
  raiseIf (req.action = "plan_deployment" ∧ req.runId = none ∧ source = none ∧ ¬ preflightOnly)
    (.error "invalid_contract" "initial deployment planning requires an exact source identity")
  raiseIf (req.action ≠ "plan_deployment" ∧ source ≠ none)
    (.error "invalid_contract" "source identity may only be bound to deployment planning")

/-- The argument checks of `evaluate`; `token` is what `secrets.token_hex(16)` draws. -/
def checkRequest (m : Manager) (token : String) (req : Request) :
    Except AuthorityError CheckedRequest := do
  raiseIf (req.action ∉ m.policy.actions)
    (.error "invalid_contract" "unknown authority action class")
  _ ← identifier req.actorId "actor id"
  let requestId := req.requestId.getD ("authority_request_" ++ token)
  raiseIf (isRequestId requestId = false)
    (.error "invalid_contract" "authority request id is invalid")
  _ ← req.branch.mapM checkBranch
  let paths ← req.paths.mapM normalizedPath
  raiseIf (req.action ∈ pathBoundActions ∧ paths = [])
    (.error "invalid_contract" (req.action ++ " requires exact repository-relative paths"))
  raiseIf (req.action ∈ branchBoundActions ∧ req.branch = none)
    (.error "invalid_contract" (req.action ++ " requires an exact branch"))
  raiseIf (req.estimatedDurationSeconds < 0)
    (.error "invalid_contract" "estimated duration is invalid")
  let estimate ← cost req.estimatedCostUsd (.error "invalid_contract" "estimated cost is invalid")
  checkTexts req.domains isDomain "requested domains are invalid"
  checkTexts req.secretCapabilities isId "requested secret capabilities are invalid"
  raiseIf (∃ p ∈ req.provider, isId p = false)
    (.error "invalid_contract" "requested provider is invalid")
  checkTexts req.assurances isActionName "action assurances are invalid"
  raiseIf (req.action = "network_access" ∧ req.domains = [])
    (.error "invalid_contract" "network access requires exact requested domains")
  raiseIf (req.action = "provider_access" ∧ req.provider = none)
    (.error "invalid_contract" "provider access requires an exact provider")
  raiseIf (req.action = "real_secret_use" ∧ req.secretCapabilities = [])
    (.error "invalid_contract" "real-secret use requires exact capability identifiers")
  let source ← req.sourceIdentity.mapM normalizedSourceIdentity
  checkActionInputs req source
  _ ← req.sliceId.mapM (identifier · "slice id")
  _ ← req.applicationId.mapM (identifier · "application id")
  _ ← req.runId.mapM (identifier · "run id")
  return ⟨requestId, paths, estimate, req.estimatedDurationSeconds.toNat, source⟩

/-! ### The selected grant -/

variable (grant : Grant)

/-- `_scope_matches` of a grant for the request. -/
def requestMismatch (req : Request) (c : CheckedRequest) : Option String :=
  scopeMismatch grant.scope req.branch req.sliceId req.applicationId req.runId c.paths
    c.sourceIdentity

variable (m : Manager) (s : Store) (now : ℕ) (req : Request) (c : CheckedRequest)

/-- The id of a stored grant if it is an active grant of the actor whose scope matches. -/
def candidate (stored : Grant) : Except AuthorityError (Option String) := do
  let grant ← prepareGrant (fun b => H (.grant b)) m stored.raw
  if grant.subject.actorId ≠ req.actorId then
    return none
  else if (← grantStatus H m s now grant) ≠ .active then
    return none
  else
    return if requestMismatch grant req c = none then some grant.grantId else none

/-- The grant id that the request names or that is its only candidate, and whether there are several
candidates. -/
def selectGrant : Except AuthorityError (Option String × Bool) :=
  match req.grantId with
  | some grantId => return (some grantId, false)
  | none => do
    let candidates ← s.grants.rows.mapM (candidate H m s now req c)
    match candidates.filterMap id with
    | [] => return (none, false)
    | [grantId] => return (some grantId, false)
    | _ :: _ :: _ => return (none, true)

/-! ### The cascade -/

/-- The effective policy and its reason. -/
abbrev Effective := Mode × String

/-- One assignment of the cascade. -/
def overwrite (c : Prop) [Decidable c] (new old : Effective) : Effective := if c then new else old

/-- Network use that a grant must cover. -/
def networkRequested : Prop := req.domains ≠ [] ∨ req.action = "network_access"

instance (req : Request) : Decidable (networkRequested req) :=
  inferInstanceAs (Decidable (_ ∨ _))

/-- The policy of an active grant of the actor, before its limits. -/
def scopedEffective (configured : Mode) : Effective :=
  match requestMismatch grant req c with
  | some reason => (.deny, reason)
  | none =>
    if req.action ∈ grant.forbid then (.deny, "grant_forbids_action")
    else if req.action ∈ grant.requireApproval then (.askEachTime, "grant_requires_approval")
    else if req.action ∈ grant.allow then (.autoWithReceipt, "standing_scope_approved")
    else (configured, "profile_policy")

/-- The denials that follow the scope check. -/
def deniedEffective (grant : Grant) (req : Request) (uses : ℕ) (e : Effective) : Effective :=
  let e := overwrite (grant.subject.role = .subagent ∧ req.action ∈ m.policy.subagentDefaultDeny)
    (.deny, "subagent_default_deny") e
  overwrite (∃ n ∈ grant.limits.maxActions, n ≤ uses) (.deny, "action_budget_exceeded") e

/-- The limit checks, each of which asks for approval. -/
def limitedEffective (limits : Limits) (req : Request) (c : CheckedRequest) (actualCost : ℚ≥0)
    (e : Effective) : Effective :=
  let e := overwrite (∃ n ∈ limits.maxDurationSeconds, n < c.estimatedDurationSeconds)
    (.askEachTime, "time_budget_exceeded") e
  let e := overwrite (∃ n ∈ limits.maxCostUsd, n < actualCost + c.estimatedCostUsd)
    (.askEachTime, "cost_budget_exceeded") e
  let e := overwrite (networkRequested req ∧ limits.network = .denied)
    (.askEachTime, "network_outside_grant") e
  let e := overwrite (networkRequested req ∧ limits.network = .allowlisted ∧
      ¬ req.domains ⊆ limits.allowedDomains)
    (.askEachTime, "network_domain_outside_grant") e
  let e := overwrite (∃ p ∈ req.provider, p ∉ limits.providers)
    (.askEachTime, "provider_outside_grant") e
  overwrite (¬ req.secretCapabilities ⊆ limits.secretCapabilities)
    (.askEachTime, "secret_capability_outside_grant") e

/-- The policy that a selected grant gives the request. -/
def grantEffective (grant : Grant) (configured : Mode) : Except AuthorityError Effective := do
  let status ← grantStatus H m s now grant
  if status ≠ .active then
    return (.deny, "grant_" ++ status.name)
  else if grant.subject.actorId ≠ req.actorId then
    return (.deny, "actor_outside_grant")
  else
    let usage ← grantUsage H m s grant.grantId
    return limitedEffective grant.limits req c usage.2
      (deniedEffective m grant req usage.1 (scopedEffective grant req c configured))

/-- The merge assurances that the request lacks. -/
def missingAssurances (action : String) (assurances : List String) : List String :=
  if action = "merge" then
    (m.policy.mergeRequirements.filter (· ∉ assurances)).insertionSort (· ≤ ·)
  else []

def dirtySource : Prop :=
  req.action = "plan_deployment" ∧ req.runId = none ∧ ∃ src ∈ c.sourceIdentity, src.dirty

instance (req : Request) (c : CheckedRequest) : Decidable (dirtySource req c) :=
  inferInstanceAs (Decidable (_ ∧ _ ∧ _))

def pausedFor (control : Control) (action : String) : Prop :=
  control.paused ∧ action ∉ pauseExemptActions

instance (control : Control) (action : String) : Decidable (pausedFor control action) :=
  inferInstanceAs (Decidable (_ ∧ _))

/-- The checks that come last, whatever the grant says. -/
def finalEffective (control : Control) (conflict : Bool) (req : Request)
    (c : CheckedRequest) (e : Effective) : Effective :=
  let e := overwrite conflict (.deny, "conflicting_policy_rules") e
  let e := overwrite (req.action ∈ m.policy.hardDeny) (.deny, "non_negotiable_policy") e
  let e := overwrite (pausedFor control req.action) (.deny, "autonomous_execution_paused") e
  let e := overwrite (missingAssurances m req.action req.assurances ≠ [])
    (.askEachTime, "merge_assurance_missing") e
  overwrite (dirtySource req c) (.deny, "dirty_source") e

/-- What the selection of a grant contributes to the decision. -/
structure Basis where
  profile : Profile
  configured : Mode
  authorizedBy : AuthorizedBy
  effective : Effective

def Profile.name : Profile → String
  | guarded => "guarded"
  | balanced => "balanced"
  | delegated => "delegated"
  | custom => "custom"

/-- The basis without a grant: the default profile, which only grantless actions may use. -/
def defaultBasis (configured : Mode) : Basis where
  profile := m.policy.defaultProfile
  configured := configured
  authorizedBy := ⟨.policyDefault, "profile:" ++ m.policy.defaultProfile.name, none⟩
  effective := overwrite (req.action ∉ grantlessActions)
    (.approveScopeOnce, "standing_grant_required") (configured, "profile_default")

/-- The basis that a selected grant gives. -/
def grantBasis (grantId : String) : Except AuthorityError Basis := do
  let grant ← loadGrant H m s grantId
  let configured ← modeFor m.policy grant.profile req.action (some grant.customPolicies)
  let effective ← grantEffective H m s now req c grant configured
  return ⟨grant.profile, configured, ⟨.grant, grantId, some grant.grantDigest⟩, effective⟩

/-- The basis of the decision and whether several grants compete. -/
def basis : Except AuthorityError (Basis × Bool) := do
  let (selected, conflict) ← selectGrant H m s now req c
  let configured ← modeFor m.policy m.policy.defaultProfile req.action none
  match selected with
  | none => return (defaultBasis m req configured, conflict)
  | some grantId => return (← grantBasis H m s now req c grantId, conflict)

def decisionBody (b : Basis) (e : Effective) : DecisionBody where
  requestId := c.requestId
  action := req.action
  actorId := req.actorId
  authorizedBy := b.authorizedBy
  scope := ⟨m.identity, req.branch, req.sliceId, req.applicationId, req.runId, c.paths⟩
  profile := b.profile
  configuredPolicy := b.configured
  policy := e.1
  decision := e.1.verdict
  reason := e.2
  missingAssurances := missingAssurances m req.action req.assurances
  estimatedCostUsd := c.estimatedCostUsd
  estimatedDurationSeconds := c.estimatedDurationSeconds
  requestedCapabilities :=
    ⟨req.domains, req.provider, req.secretCapabilities, req.assurances.insertionSort (· ≤ ·),
      c.sourceIdentity⟩
  decidedAt := now

def Decision.ofBody (body : DecisionBody) : Decision := ⟨body, H (.decision body)⟩

/-- `AuthorityManager.evaluate` at the clock reading `now`. -/
def evaluate (token : String) (req : Request) : Except AuthorityError Decision := do
  let c ← checkRequest m token req
  let control ← loadControl H s
  let (b, conflict) ← basis H m s now req c
  return .ofBody H (decisionBody m now req c b (finalEffective m control conflict req c b.effective))

end StatePort.Authority
