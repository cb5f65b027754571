import StatePort.Algorithm.Raise
import StatePort.Python.Basic

/-!
# The capability broker

`packages/sensitive-data-gateway/src/stateport_sensitive_data/broker.py`: an in-memory store of
secrets, and a broker that hands out grants to use them once.

`execute` is modelled up to the call of its handler. What follows the handler sanitizes the output
and writes nothing, so every tree of calls, handlers that call the broker included, is a list of
`Event`s, and `next` is one of them.
-/

namespace StatePort.SensitiveData

open Function

inductive Raised where
  | brokerRefusal (code : String)
  | valueError (message : String)
  | keyError
deriving DecidableEq

def refuseIf (condition : Prop) [Decidable condition] (code : String) : Except Raised Unit :=
  raiseIf condition (.brokerRefusal code)

/-- The entry of a map, or what is raised if there is none. -/
def entry {α : Type} (found : Option α) (e : Raised) : Except Raised α :=
  found.elim (.error e) .ok

/-- The fields of a requirement that the broker goes by. -/
structure SecretRequirement where
  (capability scope : String)

inductive SecretStatus where
  | active
  | revoked
deriving DecidableEq

structure SecretMetadata where
  (secretId capability scope : String)
  status : SecretStatus

structure SecretReference where
  (referenceId secretId : String)

/-- What a secret is to be used for. -/
structure Use where
  (runId operation capability scope : String)
deriving DecidableEq

inductive RequestStatus where
  | pending
  | approved
deriving DecidableEq

structure CapabilityRequest extends Use where
  (requestId referenceId : String)
  status : RequestStatus

inductive GrantStatus where
  | available
  | expired
  | consumed
deriving DecidableEq

structure SecretUseGrant extends Use where
  (grantId requestId referenceId expiresAt : String)
  status : GrantStatus := .available

/-- The maps of the store and of the broker, and how many tokens they have drawn. -/
structure Broker where
  material : String → Option String := fun _ => none
  metadata : String → Option SecretMetadata := fun _ => none
  references : String → Option String := fun _ => none
  requests : String → Option CapabilityRequest := fun _ => none
  grants : String → Option SecretUseGrant := fun _ => none
  draws : ℕ := 0

namespace Broker

variable (broker : Broker) (referenceId : String)

/-- `metadata`. -/
def metadataOf : Except Raised SecretMetadata := do
  let secretId ← entry (broker.references referenceId) (.brokerRefusal "unknown_secret_reference")
  entry (broker.metadata secretId) .keyError

def revoke : Except Raised (SecretMetadata × Broker) := do
  let current ← broker.metadataOf referenceId
  let updated := { current with status := .revoked }
  return (updated, { broker with
    metadata := update broker.metadata current.secretId (some updated) })

/-- The metadata of a secret that is not revoked. -/
def activeMetadata : Except Raised SecretMetadata := do
  let metadata ← broker.metadataOf referenceId
  refuseIf (metadata.status ≠ .active) "secret_revoked"
  return metadata

/-- `_resolve_for_broker`. -/
def resolve : Except Raised String := do
  let metadata ← broker.activeMetadata referenceId
  entry (broker.material metadata.secretId) .keyError

/-- The value for a handler; `execute` has a code for every other error. -/
def valueFor : Except Raised String :=
  match broker.resolve referenceId with
  | .error .keyError => .error (.brokerRefusal "capability_failed_no_retry")
  | result => result

section

variable (token : ℕ → String)

/-- `create`; `token n` is the token that is drawn after `n` others. -/
def create (requirement : SecretRequirement) (value : String) :
    Except Raised (SecretReference × Broker) := do
  raiseIf (value.length < 16 ∨ Char.ofNat 0 ∈ value.toList)
    (.valueError "secret material must be a bounded non-empty value")
  let secretId := "secret." ++ token broker.draws
  let referenceId := "secretref." ++ token (broker.draws + 1)
  let metadata : SecretMetadata := ⟨secretId, requirement.capability, requirement.scope, .active⟩
  return (⟨referenceId, secretId⟩, { broker with
    material := update broker.material secretId (some value)
    references := update broker.references referenceId (some secretId)
    metadata := update broker.metadata secretId (some metadata)
    draws := broker.draws + 2 })

def request (reference : SecretReference) (use : Use) :
    Except Raised (CapabilityRequest × Broker) := do
  let metadata ← broker.activeMetadata reference.referenceId
  refuseIf ((metadata.capability, metadata.scope) ≠ (use.capability, use.scope))
    "capability_scope_mismatch"
  let request : CapabilityRequest :=
    ⟨use, "capreq." ++ token broker.draws, reference.referenceId, .pending⟩
  return (request, { broker with
    requests := update broker.requests request.requestId (some request)
    draws := broker.draws + 1 })

/-! ### Grants -/

-- `datetime.fromisoformat`: the moment and the offset from UTC.
variable (fromIsoFormat : String → Option (ℤ × Option ℤ))

def timestamp (value : String) : Except Raised ℤ :=
  match Str.endsWith value "Z",
    fromIsoFormat (String.ofList value.toList.dropLast ++ "+00:00") with
  | true, some (moment, some 0) => .ok moment
  | _, _ => .error (.brokerRefusal "invalid_grant_expiry")

/-- `approve`, with the request as it was found. -/
def approve (requestId expiresAt clock : String) :
    Except Raised ((CapabilityRequest × SecretUseGrant) × Broker) := do
  let request ← entry (broker.requests requestId) (.brokerRefusal "unknown_capability_request")
  refuseIf (request.status ≠ .pending) "capability_request_already_decided"
  _ ← broker.activeMetadata request.referenceId
  let expiry ← timestamp fromIsoFormat expiresAt
  let now ← timestamp fromIsoFormat clock
  refuseIf (expiry ≤ now) "grant_expiry_not_future"
  let grant : SecretUseGrant :=
    ⟨request.toUse, "grant." ++ token broker.draws, requestId, request.referenceId, expiresAt,
      .available⟩
  return ((request, grant), { broker with
    requests := update broker.requests requestId
      (some { request with status := .approved })
    grants := update broker.grants grant.grantId (some grant)
    draws := broker.draws + 1 })

/-- The grant that `execute` finds, and whether it has expired. -/
def usable (grantId : String) (use : Use) (clock : String) :
    Except Raised (SecretUseGrant × Bool) := do
  let grant ← entry (broker.grants grantId) (.brokerRefusal "unknown_grant")
  refuseIf (grant.status ≠ .available) "grant_already_consumed"
  refuseIf (grant.toUse ≠ use) "grant_binding_mismatch"
  let now ← timestamp fromIsoFormat clock
  let expiry ← timestamp fromIsoFormat grant.expiresAt
  return (grant, now ≥ expiry)

def setGrant (grantId : String) (grant : SecretUseGrant) (status : GrantStatus) : Broker :=
  { broker with grants := update broker.grants grantId (some { grant with status }) }

/-- `execute` up to the call of the handler, which receives the value. -/
def execute (grantId : String) (use : Use) (clock : String) : Except Raised String × Broker :=
  match broker.usable fromIsoFormat grantId use clock with
  | .error e => (.error e, broker)
  | .ok (grant, true) =>
    (.error (.brokerRefusal "grant_expired"), broker.setGrant grantId grant .expired)
  | .ok (grant, false) =>
    -- The grant is consumed whatever becomes of the call.
    (broker.valueFor grant.referenceId, broker.setGrant grantId grant .consumed)

end

end Broker

/-! ### Histories -/

/-- A broker, the requests that were approved with their grants, and the grants whose handlers were
called. -/
structure System where
  broker : Broker := {}
  granted : List (CapabilityRequest × SecretUseGrant) := []
  handled : List String := []

inductive Event where
  | create (requirement : SecretRequirement) (value : String)
  | revoke (referenceId : String)
  | request (reference : SecretReference) (use : Use)
  | approve (requestId expiresAt clock : String)
  | execute (grantId : String) (use : Use) (clock : String)

def next (token : ℕ → String) (fromIsoFormat : String → Option (ℤ × Option ℤ)) (s : System) :
    Event → System
  | .create requirement value =>
    { s with broker := afterTransaction s.broker (s.broker.create token requirement value) }
  | .revoke referenceId =>
    { s with broker := afterTransaction s.broker (s.broker.revoke referenceId) }
  | .request reference use =>
    { s with broker := afterTransaction s.broker (s.broker.request token reference use) }
  | .approve requestId expiresAt clock =>
    match s.broker.approve token fromIsoFormat requestId expiresAt clock with
    | .ok (granted, broker) => { s with broker, granted := granted :: s.granted }
    | .error _ => s
  | .execute grantId use clock =>
    match s.broker.execute fromIsoFormat grantId use clock with
    | (.ok _, broker) => { s with broker, handled := grantId :: s.handled }
    | (.error _, broker) => { s with broker }

end StatePort.SensitiveData
