import StatePort.Algorithm.Run
import StatePort.Authority.Evaluate

/-!
# Operations on the authority store

The methods of `AuthorityManager` that change its store
(`packages/governed-runner/src/governed_runner/authority.py`). Each takes the store lock once, so
it is modelled as one atomic step at one clock reading; its `Outcome` lists the durable writes it
makes, in order, and what it returns or raises. A method that raises keeps the writes it has made.

`next` runs one operation of an `Event`, of which only the first `completed` writes reach the disk:
a crash inside the locked section is an event that completes fewer writes than it has.
-/

namespace StatePort.Authority

variable (H : Body → String)

/-- The writes of an operation and its result. -/
structure Outcome (α : Type) where
  writes : List Write
  result : Except AuthorityError α

/-- An operation with one write, which comes after all its checks. -/
def Outcome.ofExcept {α : Type} : Except AuthorityError (α × Write) → Outcome α
  | .ok (a, w) => ⟨[w], .ok a⟩
  | .error e => ⟨[], .error e⟩

/-- `_atomic_json(…, create_only=True)` of a file that exists. -/
def createOnly (taken : Bool) (name : String) : Except AuthorityError Unit :=
  raiseIf taken (.error "duplicate_record" ("authority record already exists: " ++ name ++ ".json"))

/-! ### Decisions handed in -/

def validateDecisionContract (d : Decision) : Except AuthorityError Unit := do
  raiseIf (d.decisionDigest ≠ H (.decision d.toDecisionBody))
    (.error "invalid_contract" "authority decision digest is invalid")
  raiseIf (isRequestId d.requestId = false)
    (.error "invalid_contract" "authority request id is invalid")
  let assurances := d.requestedCapabilities.assurances
  raiseIf ((∃ item ∈ assurances, isId item = false) ∨
      assurances ≠ assurances.dedup.insertionSort (· ≤ ·))
    (.error "invalid_contract" "authority assurances are invalid")
  _ ← d.requestedCapabilities.sourceIdentity.mapM normalizedSourceIdentity

def decisionLifetime : ℕ := 300 * 1000000

/-- The effective policy that re-validation computes for a grant's decision. -/
def revalidatedPolicy (m : Manager) (grant : Grant) (d : Decision) (configured : Mode)
    (actualCost : ℚ≥0) : Mode :=
  let limits := grant.limits
  let requested := d.requestedCapabilities
  let e : Mode :=
    if d.action ∈ grant.forbid then .deny
    else if d.action ∈ grant.requireApproval then .askEachTime
    else if d.action ∈ grant.allow then .autoWithReceipt
    else configured
  let e := if grant.subject.role = .subagent ∧ d.action ∈ m.policy.subagentDefaultDeny then .deny
    else e
  let e := if ∃ n ∈ limits.maxDurationSeconds, n < d.estimatedDurationSeconds then .askEachTime
    else e
  let e := if ∃ n ∈ limits.maxCostUsd, n < actualCost + d.estimatedCostUsd then .askEachTime else e
  let e := if requested.domains ≠ [] ∧ (limits.network = .denied ∨
      (limits.network = .allowlisted ∧ ¬ requested.domains ⊆ limits.allowedDomains)) then
    .askEachTime else e
  let e := if ∃ p ∈ requested.provider, p ∉ limits.providers then .askEachTime else e
  if ¬ requested.secretCapabilities ⊆ limits.secretCapabilities then .askEachTime else e

def assertScopeMatches (scope : Scope) (d : Decision) : Except AuthorityError Unit :=
  match scopeMismatch scope d.scope.branch d.scope.sliceId d.scope.applicationId d.scope.runId
      d.scope.paths d.requestedCapabilities.sourceIdentity with
  | some reason => .error (.error reason "authority scope changed before reservation")
  | none => .ok ()

variable (m : Manager) (s : Store) (now : ℕ)

/-- The grant's part of `_revalidate_authorized_unlocked`. -/
def revalidateGrant (d : Decision) : Except AuthorityError Unit := do
  let grant ← loadGrant H m s d.authorizedBy.id
  let status ← grantStatus H m s now grant
  raiseIf (status ≠ .active)
    (.error "grant_inactive" "authority grant became inactive before reservation")
  raiseIf (d.authorizedBy.digest ≠ some grant.grantDigest ∨ grant.subject.actorId ≠ d.actorId ∨
      d.profile ≠ grant.profile)
    (.error "grant_identity_changed" "authority grant identity changed")
  assertScopeMatches grant.scope d
  let configured ← modeFor m.policy grant.profile d.action (some grant.customPolicies)
  let expectedMissing := missingAssurances m d.action d.requestedCapabilities.assurances
  raiseIf (d.missingAssurances ≠ expectedMissing ∨ expectedMissing ≠ [])
    (.error "merge_assurance_missing" "required merge assurances are not durably bound")
  let usage ← grantUsage H m s d.authorizedBy.id
  let effective := revalidatedPolicy m grant d configured usage.2
  raiseIf (d.configuredPolicy ≠ configured ∨ d.policy ≠ effective ∨ effective.isAuto = false)
    (.error "authority_policy_changed" "effective authority changed before reservation")

/-- The default profile's part of `_revalidate_authorized_unlocked`. -/
def revalidateDefault (d : Decision) : Except AuthorityError Unit := do
  let configured ← modeFor m.policy m.policy.defaultProfile d.action none
  raiseIf (d.action ∉ grantlessActions ∨ d.configuredPolicy ≠ configured ∨ d.policy ≠ configured ∨
      configured.isAuto = false)
    (.error "standing_grant_required" "action requires a canonical grant")

/-- The part of `_revalidate_authorized_unlocked` that depends on the source of the authority. -/
def revalidateSource (d : Decision) : Except AuthorityError Unit :=
  match d.authorizedBy.type with
  | .grant => revalidateGrant H m s now d
  | .policyDefault => revalidateDefault m d
  | .ownerDirective => .error (.error "invalid_contract" "authority source is invalid")

/-- `_revalidate_authorized_unlocked`. -/
def revalidateAuthorized (d : Decision) : Except AuthorityError Unit := do
  validateDecisionContract H d
  raiseIf (d.decision ≠ .authorized)
    (.error "authority_not_authorized" "only authorized decisions may be reserved")
  raiseIf (d.action ∉ m.policy.actions)
    (.error "invalid_contract" "authority decision action is invalid")
  raiseIf (d.scope.repository ≠ m.identity)
    (.error "repository_identity_uncertain"
      "authority decision repository identity changed before reservation")
  raiseIf (now < d.decidedAt ∨ d.decidedAt + decisionLifetime < now)
    (.error "decision_expired" "authority decision was not reserved promptly")
  let control ← loadControl H s
  raiseIf (pausedFor control d.action)
    (.error "autonomous_execution_paused" "authority execution is paused")
  revalidateSource H m s now d
  raiseIf (d.action ∈ m.policy.hardDeny) (.error "non_negotiable_policy" "action is hard denied")

/-! ### Reserve and claim -/

/-- `_reserve_evaluated_decision`. -/
def reserveEvaluated (d : Decision) : Except AuthorityError Reservation := do
  revalidateAuthorized H m s now d
  let reservationId ← reservationIdOf d.requestId
  let body : ReservationBody := ⟨reservationId, d.requestId, d, now⟩
  createOnly (s.reservations.contains d.requestId) reservationId
  return ⟨body, H (.reservation body)⟩

/-- The grant of a reserved decision is still the same and live. -/
def assertGrantLive (d : Decision) : Except AuthorityError Unit :=
  if d.authorizedBy.type = .grant then do
    let grant ← loadGrant H m s d.authorizedBy.id
    raiseIf (d.authorizedBy.digest ≠ some grant.grantDigest)
      (.error "grant_inactive" "reserved authority grant is no longer live")
    let live ← grantLive H m s now grant
    raiseIf (live = false) (.error "grant_inactive" "reserved authority grant is no longer live")
  else
    return ()

/-- `claim_reserved_decision`. -/
def claimReserved (d : Decision) : Except AuthorityError (Reservation × Claim) := do
  validateDecisionContract H d
  let reservation ← loadReservation H s d.requestId
  raiseIf (reservation.decision ≠ d)
    (.error "authority_reservation_mismatch" "reserved decision differs from the requested effect")
  let receipts ← loadReceipts H s
  raiseIf (∃ r ∈ receipts, r.requestId = d.requestId)
    (.error "authority_reservation_finalized" "authority reservation is already finalized")
  let claimId ← claimIdOf d.requestId
  raiseIf (s.claims.contains d.requestId)
    (.error "authority_reservation_already_claimed"
      "authority reservation was already claimed for an effect")
  let control ← loadControl H s
  raiseIf (pausedFor control d.action)
    (.error "autonomous_execution_paused" "authority execution is paused")
  assertGrantLive H m s now d
  let body : ClaimBody := ⟨claimId, d.requestId, reservation.reservationId,
    reservation.reservationDigest, d.decisionDigest, now⟩
  return (reservation, ⟨body, H (.claim body)⟩)

/-! ### Record -/

/-- The arguments of `record_action` beside the decision. -/
structure RecordArgs where
  resultStatus : ActionResult
  summary : String
  code : Option String
  resource : List (String × ResourceValue)
  actualCostUsd : Number
  startedAt : Option ℕ
  reservation : Option Reservation
  claim : Option Claim

/-- The reservation and the claim that an authorised action is finalised with. -/
def finalizedRefs (d : Decision) (args : RecordArgs) :
    Except AuthorityError (Reservation × Option Claim) := do
  raiseIf (args.reservation = none)
    (.error "authority_reservation_required"
      "authorized actions must be durably reserved before execution")
  let reservation ← loadReservation H s d.requestId
  raiseIf (args.reservation ≠ some reservation ∨ reservation.decision ≠ d)
    (.error "authority_reservation_mismatch" "action finalization does not match its reservation")
  _ ← claimIdOf d.requestId
  if s.claims.contains d.requestId then
    let claim ← loadClaim H s d.requestId
    raiseIf (args.claim ≠ some claim)
      (.error "authority_claim_mismatch" "action finalization does not match its effect claim")
    raiseIf (args.resultStatus.executed = false)
      (.error "authority_claim_outcome_mismatch"
        "a claimed action cannot be finalized as unexecuted")
    return (reservation, some claim)
  else
    raiseIf args.resultStatus.executed
      (.error "authority_claim_required" "executed actions require an exact pre-effect claim")
    raiseIf (args.claim ≠ none)
      (.error "authority_claim_mismatch" "unexecuted action supplied a nonexistent effect claim")
    return (reservation, none)

/-- What a receipt refers to: nothing, unless its decision is authorised. -/
def recordRefs (d : Decision) (args : RecordArgs) :
    Except AuthorityError (Option (Reservation × Option Claim)) :=
  if d.decision = .authorized then do
    return some (← finalizedRefs H s d args)
  else
    return none

/-- A text of 1 to 1024 characters that is not blank. -/
def checkBoundedText (value detail : String) : Except AuthorityError Unit :=
  raiseIf (Str.strip value = "" ∨ 1024 < value.toList.length) (.error "invalid_contract" detail)

/-- The receipt that `record_action` writes. -/
def receiptBody (d : Decision) (args : RecordArgs) (actualCost : ℚ≥0)
    (refs : Option (Reservation × Option Claim)) (receiptId : String) (started now : ℕ) :
    ReceiptBody where
  receiptId := receiptId
  requestId := d.requestId
  action := d.action
  actorId := d.actorId
  authorizedBy := d.authorizedBy
  scope := d.scope
  profile := d.profile
  configuredPolicy := d.configuredPolicy
  policy := d.policy
  decision := d.decision
  result := ⟨args.resultStatus, args.code, Str.strip args.summary, args.resource⟩
  startedAt := started
  completedAt := now
  estimatedCostUsd := d.estimatedCostUsd
  actualCostUsd := actualCost
  decisionDigest := d.decisionDigest
  reservation := refs.map fun x => ⟨x.1.reservationId, x.1.reservationDigest⟩
  claim := (refs.bind (·.2)).map fun c => ⟨c.claimId, c.claimDigest⟩

/-- A new receipt: its id must be well formed and free. -/
def newReceipt (body : ReceiptBody) : Except AuthorityError Receipt := do
  raiseIf (isReceiptId body.receiptId = false)
    (.error "invalid_contract" "authority receipt id is invalid")
  createOnly (s.receipts.contains body.receiptId) body.receiptId
  return ⟨body, H (.receipt body)⟩

/-- `record_action`; `token` is what `secrets.token_hex(16)` draws. -/
def recordAction (token : String) (d : Decision) (args : RecordArgs) :
    Except AuthorityError Receipt := do
  validateDecisionContract H d
  checkBoundedText args.summary "action receipt summary is invalid"
  raiseIf (∃ code ∈ args.code, isId code = false)
    (.error "invalid_contract" "action result code is invalid")
  let actualCost ← cost args.actualCostUsd
    (.error "invalid_contract" "actual action cost is invalid")
  raiseIf (d.decision ≠ .authorized ∧ args.resultStatus.executed)
    (.error "invalid_contract" "refused decisions cannot claim execution")
  let refs ← recordRefs H s d args
  let receipts ← loadReceipts H s
  raiseIf (∃ r ∈ receipts, r.requestId = d.requestId)
    (.error "duplicate_record" "authority request is already finalized")
  let started := args.startedAt.getD d.decidedAt
  raiseIf (now < started) (.error "invalid_clock" "action completion precedes its start")
  newReceipt H s (receiptBody d args actualCost refs ("authority_receipt_" ++ token) started now)

/-! ### Owner operations -/

/-- What `secrets.token_hex(16)` draws for an owner's request and receipt. -/
structure OwnerTokens where
  (request receipt : String)

variable (tokens : OwnerTokens)

def OwnerTokens.requestId : String := "authority_request_" ++ tokens.request

def ownerDecisionBody (actorId ownerDirectiveId : String) : DecisionBody where
  requestId := tokens.requestId
  action := "modify_authority_policy"
  actorId := actorId
  authorizedBy := ⟨.ownerDirective, ownerDirectiveId, none⟩
  scope := ⟨m.identity, none, none, none, none, []⟩
  profile := m.policy.defaultProfile
  configuredPolicy := .askEachTime
  policy := .autoWithReceipt
  decision := .authorized
  reason := "explicit_owner_directive"
  missingAssurances := []
  estimatedCostUsd := 0
  estimatedDurationSeconds := 0
  requestedCapabilities := ⟨[], none, [], [], none⟩
  decidedAt := now

/-- `_owner_receipt_unlocked`. -/
def ownerReceipt
    (actorId ownerDirectiveId summary : String) (resource : List (String × ResourceValue)) :
    Except AuthorityError Receipt :=
  let d := Decision.ofBody H (ownerDecisionBody m now tokens actorId ownerDirectiveId)
  newReceipt H s
    { receiptId := "authority_receipt_" ++ tokens.receipt
      requestId := d.requestId
      action := d.action
      actorId := d.actorId
      authorizedBy := d.authorizedBy
      scope := d.scope
      profile := d.profile
      configuredPolicy := d.configuredPolicy
      policy := d.policy
      decision := d.decision
      result := ⟨.succeeded, none, summary, resource⟩
      startedAt := now
      completedAt := now
      estimatedCostUsd := 0
      actualCostUsd := 0
      decisionDigest := d.decisionDigest
      reservation := none
      claim := none }

/-- An owner operation: writes, the owner's receipt, and writes after it. -/
def Outcome.withReceipt {α : Type} (before : List Write) (receipt : Except AuthorityError Receipt)
    (after : List Write) (value : Receipt → α) : Outcome α :=
  match receipt with
  | .ok r => ⟨before ++ .receipt r :: after, .ok (value r)⟩
  | .error e => ⟨before, .error e⟩

/-- A child is checked against its parent. -/
def assertNarrowerThanParent (grant : Grant) : Except AuthorityError Unit :=
  match grant.parentGrantId with
  | none => .ok ()
  | some parentId => do
    let parent ← loadGrant H m s parentId
    assertChildIsNarrower H m s now grant parent

/-- The checks of `activate_grant`. -/
def activationChecks (value : RawGrant) (ownerActorId : String) : Except AuthorityError Grant := do
  let grant ← prepareGrant (fun b => H (.grant b)) m value
  _ ← identifier ownerActorId "owner actor id"
  raiseIf (grant.policyDigest ≠ some m.policy.policyDigest)
    (.error "invalid_grant" "new grants must bind the exact active authority policy")
  assertNarrowerThanParent H m s now grant
  createOnly (s.grants.contains grant.grantId) grant.grantId
  return grant

def activateGrant (value : RawGrant) (ownerActorId : String) : Outcome (Grant × Receipt) :=
  match activationChecks H m s now value ownerActorId with
  | .error e => ⟨[], .error e⟩
  | .ok grant =>
    .withReceipt [.grant grant]
      (ownerReceipt H m s now tokens ownerActorId grant.ownerDirectiveId
        "Owner-authorized standing authority grant was activated"
        [("grantId", .text grant.grantId), ("grantDigest", .text grant.grantDigest)])
      [] fun r => (grant, r)

/-- `_begin_recovery_attention`: no other marker may be open. -/
def beginRecoveryAttention (operation targetId : String) :
    Except AuthorityError RecoveryAttention := do
  raiseIf (s.recovery.rows ≠ [])
    (.refusal "authority_recovery_required"
      "authority state has an unresolved pause or revocation transaction")
  return ⟨operation, targetId, now⟩

/-- The checks of `set_paused`, up to the control record and the marker it writes. -/
def pauseChecks (paused : Bool) (actorId ownerDirectiveId reason : String)
    (expectedControlDigest : Option String) : Except AuthorityError (RecoveryAttention × Control) := do
  _ ← identifier actorId "actor id"
  _ ← identifier ownerDirectiveId "owner directive id"
  checkBoundedText reason "pause change requires a bounded reason"
  let prior ← loadControl H s
  raiseIf (∃ d ∈ expectedControlDigest, d ≠ prior.controlDigest)
    (.refusal "authority_digest_mismatch" "authority control changed since it was reviewed")
  raiseIf (prior.paused = paused)
    (.refusal "authority_state_unchanged" "authority control is already in the requested state")
  let attention ← beginRecoveryAttention s now "pause" ownerDirectiveId
  let body : ControlBody := ⟨prior.revision + 1, paused, some (Str.strip reason), some actorId,
    some ownerDirectiveId, some now⟩
  return (attention, ⟨body, H (.control body)⟩)

def setPaused (paused : Bool)
    (actorId ownerDirectiveId reason : String) (expectedControlDigest : Option String) :
    Outcome (Control × Receipt) :=
  match pauseChecks H s now paused actorId ownerDirectiveId reason expectedControlDigest with
  | .error e => ⟨[], .error e⟩
  | .ok (attention, control) =>
    .withReceipt [.attention attention, .control control]
      (ownerReceipt H m s now tokens actorId ownerDirectiveId
        (if paused then "Autonomous execution was paused" else "Autonomous execution was resumed")
        [("paused", .flag paused), ("controlDigest", .text control.controlDigest)])
      [.clearAttention "pause" ownerDirectiveId] fun r => (control, r)

variable (grantId actorId ownerDirectiveId reason : String) (expectedGrantDigest : Option String)

/-- The checks of `revoke_grant`, up to the marker and the revocation it would write. -/
def revocationChecks : Except AuthorityError (RecoveryAttention × Revocation) := do
  _ ← identifier actorId "actor id"
  _ ← identifier ownerDirectiveId "owner directive id"
  checkBoundedText reason "revocation requires a bounded reason"
  let grant ← loadGrant H m s grantId
  raiseIf (∃ d ∈ expectedGrantDigest, d ≠ grant.grantDigest)
    (.refusal "authority_digest_mismatch" "authority grant changed since it was reviewed")
  let attention ← beginRecoveryAttention s now "revoke" grantId
  let body : RevocationBody :=
    ⟨grantId, grant.grantDigest, actorId, ownerDirectiveId, Str.strip reason, now⟩
  return (attention, ⟨body, H (.revocation body)⟩)

/-- `revoke_grant`; revoking a revoked grant only adds a receipt. -/
def revokeGrant : Outcome (Revocation × Receipt) :=
  match revocationChecks H m s now grantId actorId ownerDirectiveId reason expectedGrantDigest with
  | .error e => ⟨[], .error e⟩
  | .ok (attention, revocation) =>
    match s.revocations.find? grantId with
    | some existing =>
      .withReceipt [.attention attention]
        (ownerReceipt H m s now tokens actorId ownerDirectiveId
          "Owner confirmed an already-revoked authority grant"
          [("grantId", .text grantId), ("revocationDigest", .text existing.revocationDigest)])
        [.clearAttention "revoke" grantId] fun r => (existing, r)
    | none =>
      .withReceipt [.attention attention, .revocation revocation]
        (ownerReceipt H m s now tokens actorId ownerDirectiveId
          "Owner revoked a standing authority grant"
          [("grantId", .text grantId), ("revocationDigest", .text revocation.revocationDigest)])
        [.clearAttention "revoke" grantId] fun r => (revocation, r)

def ClosureKind.label : ClosureKind → String
  | slice => "slice id"
  | run => "run id"

/-- The checks of `close_scope`. -/
def closureChecks (kind : ClosureKind) (scopeId actorId : String) : Except AuthorityError Unit := do
  _ ← identifier actorId "actor id"
  _ ← identifier scopeId kind.label

/-- `close_scope`; closing a closed scope returns its record. -/
def closeScope (kind : ClosureKind) (scopeId actorId : String) : Outcome ScopeClosure :=
  match closureChecks kind scopeId actorId with
  | .error e => ⟨[], .error e⟩
  | .ok _ =>
    match s.closures.find? (kind, scopeId) with
    | some existing => ⟨[], .ok existing⟩
    | none =>
      let body : ScopeClosureBody := ⟨kind, scopeId, actorId, now⟩
      ⟨[.closure ⟨body, H (.closure body)⟩], .ok ⟨body, H (.closure body)⟩⟩

/-! ### Events -/

inductive Op where
  | evaluate (token : String) (req : Request)
  | reserve (d : Decision)
  | claim (d : Decision)
  | record (token : String) (d : Decision) (args : RecordArgs)
  | activateGrant (tokens : OwnerTokens) (value : RawGrant) (ownerActorId : String)
  | setPaused (tokens : OwnerTokens) (paused : Bool) (actorId ownerDirectiveId reason : String)
      (expectedControlDigest : Option String)
  | revokeGrant (tokens : OwnerTokens) (grantId actorId ownerDirectiveId reason : String)
      (expectedGrantDigest : Option String)
  | closeScope (kind : ClosureKind) (scopeId actorId : String)

/-- A locked section: the manager that runs it, the time, the operation, and how many of its writes
reach the disk before the process ends or the section does. -/
structure Event where
  manager : Manager
  now : ℕ
  op : Op
  completed : ℕ

def writes (e : Event) : List Write :=
  match e.op with
  | .evaluate _ _ => []
  | .reserve d => (Outcome.ofExcept do
      let v ← reserveEvaluated H e.manager s e.now d
      return (v, Write.reservation v)).writes
  | .claim d => (Outcome.ofExcept do
      let (_, c) ← claimReserved H e.manager s e.now d
      return (c, Write.claim c)).writes
  | .record token d args => (Outcome.ofExcept do
      let r ← recordAction H s e.now token d args
      return (r, Write.receipt r)).writes
  | .activateGrant tokens value ownerActorId =>
    (activateGrant H e.manager s e.now tokens value ownerActorId).writes
  | .setPaused tokens paused actorId ownerDirectiveId reason expected =>
    (setPaused H e.manager s e.now tokens paused actorId ownerDirectiveId reason expected).writes
  | .revokeGrant tokens grantId actorId ownerDirectiveId reason expected =>
    (revokeGrant H e.manager s e.now tokens grantId actorId ownerDirectiveId reason expected).writes
  | .closeScope kind scopeId actorId => (closeScope H s e.now kind scopeId actorId).writes

def next (e : Event) : Store :=
  ((writes H s e).take e.completed).foldl Store.apply s

end StatePort.Authority
