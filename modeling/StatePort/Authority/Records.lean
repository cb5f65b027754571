import StatePort.Algorithm.Table
import StatePort.Authority.Grant

/-!
# Authority records and their store

The records that `AuthorityManager` keeps below its repository store, one JSON file each: grants,
revocations, reservations, claims, receipts, recovery markers, scope closures and the control file;
and the `_load_…_unlocked` functions that read them back with their checks.

A record type `R` extends its body `RBody` by the digest over the body. The digest function is a
parameter: nothing here depends on which one it is. Directories are tables whose key is what the
file name is computed from; the loaders return the files in directory order, which no caller
depends on.
-/

namespace StatePort.Authority

/-! ### Decisions -/

/-- The `type` of an `authorizedBy` reference. -/
inductive AuthorityType where
  | grant
  | policyDefault
  | ownerDirective
deriving DecidableEq

structure AuthorizedBy where
  type : AuthorityType
  id : String
  digest : Option String
deriving DecidableEq

structure ActionScope where
  repository : RepositoryIdentity
  (branch sliceId applicationId runId : Option String)
  paths : List String
deriving DecidableEq

structure SourceIdentity where
  (repositoryIdentity projectPath commit treeDigest : String)
  dirty : Bool
  (dirtyDigest descriptorDigest : String)
deriving DecidableEq

structure RequestedCapabilities where
  domains : List String
  provider : Option String
  (secretCapabilities assurances : List String)
  sourceIdentity : Option SourceIdentity
deriving DecidableEq

structure DecisionBody where
  (requestId action actorId : String)
  authorizedBy : AuthorizedBy
  scope : ActionScope
  profile : Profile
  (configuredPolicy policy : Mode)
  decision : Verdict
  reason : String
  missingAssurances : List String
  estimatedCostUsd : ℚ≥0
  estimatedDurationSeconds : ℕ
  requestedCapabilities : RequestedCapabilities
  decidedAt : ℕ
deriving DecidableEq

structure Decision extends DecisionBody where
  decisionDigest : String
deriving DecidableEq

/-! ### Reservations, claims and receipts -/

structure ReservationBody where
  (reservationId requestId : String)
  decision : Decision
  reservedAt : ℕ
deriving DecidableEq

structure Reservation extends ReservationBody where
  reservationDigest : String
deriving DecidableEq

def Reservation.request (v : Reservation) : String := v.requestId

structure ClaimBody where
  (claimId requestId reservationId reservationDigest decisionDigest : String)
  claimedAt : ℕ
deriving DecidableEq

structure Claim extends ClaimBody where
  claimDigest : String
deriving DecidableEq

def Claim.request (c : Claim) : String := c.requestId

/-- A value of the mapping that describes the resource an action touched. -/
inductive ResourceValue where
  | text (value : String)
  | flag (value : Bool)

structure ReceiptResult where
  status : ActionResult
  code : Option String
  summary : String
  resource : List (String × ResourceValue)

structure ReservationRef where
  (reservationId reservationDigest : String)
deriving DecidableEq

structure ClaimRef where
  (claimId claimDigest : String)
deriving DecidableEq

structure ReceiptBody where
  (receiptId requestId action actorId : String)
  authorizedBy : AuthorizedBy
  scope : ActionScope
  profile : Profile
  (configuredPolicy policy : Mode)
  decision : Verdict
  result : ReceiptResult
  (startedAt completedAt : ℕ)
  (estimatedCostUsd actualCostUsd : ℚ≥0)
  decisionDigest : String
  reservation : Option ReservationRef
  claim : Option ClaimRef

structure Receipt extends ReceiptBody where
  receiptDigest : String

def Receipt.id (r : Receipt) : String := r.receiptId

/-- `status in {"succeeded", "failed"}`. -/
def ActionResult.executed : ActionResult → Bool
  | succeeded | failed => true
  | refused | notExecuted => false

/-! ### Control records -/

structure ControlBody where
  revision : ℕ
  paused : Bool
  (reason actorId ownerDirectiveId : Option String)
  changedAt : Option ℕ

structure Control extends ControlBody where
  controlDigest : String

structure RevocationBody where
  (grantId grantDigest actorId ownerDirectiveId reason : String)
  revokedAt : ℕ

structure Revocation extends RevocationBody where
  revocationDigest : String

def Revocation.grant (r : Revocation) : String := r.grantId

/-- A marker of an unfinished pause or revocation. -/
structure RecoveryAttention where
  (operation targetId : String)
  detectedAt : ℕ

def RecoveryAttention.target (a : RecoveryAttention) : String × String := (a.operation, a.targetId)

inductive ClosureKind where
  | slice
  | run
deriving DecidableEq

structure ScopeClosureBody where
  kind : ClosureKind
  (scopeId actorId : String)
  closedAt : ℕ

structure ScopeClosure extends ScopeClosureBody where
  closureDigest : String

def ScopeClosure.scope (c : ScopeClosure) : ClosureKind × String := (c.kind, c.scopeId)

/-- The bodies that `_digest` is applied to; their `schema` fields keep them apart. -/
inductive Body where
  | grant (body : GrantBody)
  | decision (body : DecisionBody)
  | reservation (body : ReservationBody)
  | claim (body : ClaimBody)
  | receipt (body : ReceiptBody)
  | control (body : ControlBody)
  | revocation (body : RevocationBody)
  | closure (body : ScopeClosureBody)

/-! ### The store -/

/-- The repository store of an `AuthorityManager`. -/
structure Store where
  grants : Table Grant.id
  revocations : Table Revocation.grant
  reservations : Table Reservation.request
  claims : Table Claim.request
  receipts : Table Receipt.id
  recovery : Table RecoveryAttention.target
  closures : Table ScopeClosure.scope
  control : Option Control

/-- The store of a repository without authority records. -/
def Store.empty : Store where
  grants := Table.empty _
  revocations := Table.empty _
  reservations := Table.empty _
  claims := Table.empty _
  receipts := Table.empty _
  recovery := Table.empty _
  closures := Table.empty _
  control := none

/-- One durable change: an `_atomic_json` call, or the removal of a recovery marker. -/
inductive Write where
  | grant (g : Grant)
  | revocation (r : Revocation)
  | reservation (v : Reservation)
  | claim (c : Claim)
  | receipt (r : Receipt)
  | attention (a : RecoveryAttention)
  | clearAttention (operation targetId : String)
  | control (c : Control)
  | closure (c : ScopeClosure)

def Store.apply (s : Store) : Write → Store
  | .grant g => { s with grants := s.grants.insert g }
  | .revocation r => { s with revocations := s.revocations.insert r }
  | .reservation v => { s with reservations := s.reservations.insert v }
  | .claim c => { s with claims := s.claims.insert c }
  | .receipt r => { s with receipts := s.receipts.insert r }
  | .attention a => { s with recovery := s.recovery.insert a }
  | .clearAttention operation targetId =>
    { s with recovery := s.recovery.erase (operation, targetId) }
  | .control c => { s with control := some c }
  | .closure c => { s with closures := s.closures.insert c }

/-! ### Loading -/

section

variable (H : Body → String)

/-- `_load_grant_unlocked`: a stored grant is validated again by the manager that reads it. -/
def loadGrant (m : Manager) (s : Store) (grantId : String) : Except AuthorityError Grant := do
  raiseIf (isGrantId grantId = false) (.error "invalid_contract" "grant id is invalid")
  match s.grants.find? grantId with
  | none => .error (.error "grant_not_found" "authority grant does not exist")
  | some g => prepareGrant (fun b => H (.grant b)) m g.raw

/-- The grants of the store, as every scan of the grant directory reads them. -/
def loadGrants (m : Manager) (s : Store) : Except AuthorityError (List Grant) :=
  s.grants.rows.mapM fun g => prepareGrant (fun b => H (.grant b)) m g.raw

variable (requestId : String)

/-- The part of a request id after its fixed beginning. -/
def requestSuffix : String :=
  String.ofList (requestId.toList.drop "authority_request_".length)

/-- `_reservation_id`. -/
def reservationIdOf : Except AuthorityError String := do
  raiseIf (isRequestId requestId = false)
    (.error "invalid_contract" "authority request id is invalid")
  return "authority_reservation_" ++ requestSuffix requestId

/-- `_claim_id`. -/
def claimIdOf : Except AuthorityError String := do
  raiseIf (isRequestId requestId = false)
    (.error "invalid_contract" "authority request id is invalid")
  return "authority_claim_" ++ requestSuffix requestId

def checkReservation (v : Reservation) : Except AuthorityError Reservation := do
  let reservationId ← reservationIdOf v.requestId
  raiseIf (v.reservationDigest ≠ H (.reservation v.toReservationBody) ∨
      v.requestId ≠ v.decision.requestId ∨ v.reservationId ≠ reservationId)
    (.error "invalid_authority_state" "authority reservation is malformed or has an invalid digest")
  raiseIf (v.decision.decisionDigest ≠ H (.decision v.decision.toDecisionBody))
    (.error "invalid_authority_state" "reserved authority decision has an invalid digest")
  return v

/-- `_load_reservations_unlocked`. -/
def loadReservations (s : Store) : Except AuthorityError (List Reservation) :=
  s.reservations.rows.mapM (checkReservation H)

/-- `_read_json` of a file that may be missing. -/
def readRecord {α : Type} (file : Option α) (name : String) : Except AuthorityError α :=
  match file with
  | some r => .ok r
  | none => .error (.error "invalid_authority_state"
      ("authority record is missing, unsafe, or oversized: " ++ name ++ ".json"))

/-- `_load_reservation_unlocked`. -/
def loadReservation (s : Store) (requestId : String) : Except AuthorityError Reservation := do
  let reservationId ← reservationIdOf requestId
  let reservation ← readRecord (s.reservations.find? requestId) reservationId
  let reservations ← loadReservations H s
  raiseIf (reservations.filter (·.reservationId = reservationId) ≠ [reservation])
    (.error "invalid_authority_state" "authority reservation identity is invalid")
  return reservation

/-- `_load_claim_unlocked`. -/
def loadClaim (s : Store) (requestId : String) : Except AuthorityError Claim := do
  let claimId ← claimIdOf requestId
  let claim ← readRecord (s.claims.find? requestId) claimId
  raiseIf (claim.claimId ≠ claimId ∨ claim.requestId ≠ requestId ∨
      claim.claimDigest ≠ H (.claim claim.toClaimBody))
    (.error "invalid_authority_state" "authority claim is malformed or has an invalid digest")
  let reservation ← loadReservation H s requestId
  raiseIf (claim.reservationId ≠ reservation.reservationId ∨
      claim.reservationDigest ≠ reservation.reservationDigest ∨
      claim.decisionDigest ≠ reservation.decision.decisionDigest)
    (.error "invalid_authority_state" "authority claim does not bind its canonical reservation")
  return claim

/-- A receipt of an action that was authorised, other than by its owner, and carried out. -/
def Receipt.executed (r : Receipt) : Bool :=
  r.decision = .authorized && r.result.status.executed && r.authorizedBy.type ≠ .ownerDirective

def checkReservationRef (s : Store) (r : Receipt) : Except AuthorityError Unit :=
  match r.reservation with
  | some ref => do
    let reservation ← loadReservation H s r.requestId
    raiseIf (ref ≠ ⟨reservation.reservationId, reservation.reservationDigest⟩ ∨
        reservation.decision.decisionDigest ≠ r.decisionDigest)
      (.error "invalid_authority_state" "authority receipt reservation binding is invalid")
  | none =>
    raiseIf r.executed
      (.error "invalid_authority_state" "executed authority receipt lacks a reservation")

def checkClaimRef (s : Store) (r : Receipt) : Except AuthorityError Unit :=
  match r.claim with
  | some ref => do
    let claim ← loadClaim H s r.requestId
    raiseIf (ref ≠ ⟨claim.claimId, claim.claimDigest⟩)
      (.error "invalid_authority_state" "authority receipt claim binding is invalid")
  | none =>
    raiseIf r.executed
      (.error "invalid_authority_state" "executed authority receipt lacks an effect claim")

def checkReceipt (s : Store) (r : Receipt) : Except AuthorityError Receipt := do
  raiseIf (r.receiptDigest ≠ H (.receipt r.toReceiptBody))
    (.error "invalid_authority_state" "authority receipt digest is invalid")
  checkReservationRef H s r
  checkClaimRef H s r
  return r

/-- `_load_receipts_unlocked`. -/
def loadReceipts (s : Store) : Except AuthorityError (List Receipt) :=
  s.receipts.rows.mapM (checkReceipt H s)

/-- The control record of a store that was never paused. -/
def initialControl : Control :=
  let body : ControlBody := ⟨0, false, none, none, none, none⟩
  ⟨body, H (.control body)⟩

/-- An identifier that must be present. -/
def requiredIdentifier (value : Option String) (label : String) : Except AuthorityError Unit := do
  _ ← identifier (value.getD "") label

/-- `_control_unlocked`. -/
def loadControl (s : Store) : Except AuthorityError Control :=
  match s.control with
  | none => .ok (initialControl H)
  | some control => do
    raiseIf (control.revision < 1)
      (.error "invalid_authority_state" "authority control revision is invalid")
    requiredIdentifier control.actorId "control actor id"
    requiredIdentifier control.ownerDirectiveId "control owner directive id"
    raiseIf (control.changedAt = none)
      (.error "invalid_grant" "control changedAt must be a UTC timestamp ending in Z")
    raiseIf (control.controlDigest ≠ H (.control control.toControlBody))
      (.error "invalid_authority_state" "authority control digest is invalid")
    return control

end

end StatePort.Authority
