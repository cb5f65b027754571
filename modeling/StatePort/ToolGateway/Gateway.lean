import StatePort.Algorithm.Effect
import StatePort.Python.Basic

/-!
# The model gateway

`packages/tool-gateway/src/stateport_tool_gateway/gateway.py`: the provider route of one run. A
request is admitted and its estimates are reserved in one section under the lock; the adapter is
called outside the lock; a second section settles the request.

`ModelGateway` holds the fields that the sections write. `System` adds the calls of `request` that
are under way, and `next` is one section, or the entry into the adapter, of one thread.
-/

namespace StatePort.ToolGateway

open Effect (lift modify raise state)

structure ModelRoute where
  (runId provider model : String)
  maxRequests : ℤ := 32
  maxTokens : ℤ := 10000
  maxCostMinor : ℤ := 0
  expiresAfterSeconds : ℤ := 3600

/-- `ModelGatewayError`, or whatever the adapter raises. -/
inductive Raised where
  | modelGatewayError (message : String)
  | adapter
deriving DecidableEq

def refuseIf (condition : Prop) [Decidable condition] (message : String) : Except Raised Unit :=
  raiseIf condition (.modelGatewayError message)

def ModelRoute.validate (route : ModelRoute) : Except Raised Unit := do
  refuseIf (∃ value ∈ [route.runId, route.provider, route.model], Str.strip value = "")
    "run, provider, and model are required"
  refuseIf (∃ value ∈ [route.maxRequests, route.maxTokens, route.expiresAfterSeconds], value ≤ 0)
    "model route limits must be positive"
  refuseIf (route.maxCostMinor < 0) "model route cost limit must be non-negative"

inductive LockedReason where
  | accountingInvariantViolated
  | usageExceededReservation
  | usageUnknown
deriving DecidableEq

def LockedReason.text : LockedReason → String
  | accountingInvariantViolated => "gateway-accounting-invariant-violated"
  | usageExceededReservation => "provider-usage-exceeded-reservation"
  | usageUnknown => "provider-effect-usage-unknown"

/-- The fields of a gateway that change; a digest is a `δ`. -/
structure ModelGateway (δ : Type) where
  tokenDigest : Option δ := none
  issuedAt : Option ℚ := none
  requests : ℕ := 0
  tokens : ℤ := 0
  costMinor : ℤ := 0
  reservedRequests : ℤ := 0
  reservedTokens : ℤ := 0
  reservedCostMinor : ℤ := 0
  revoked : Bool := false
  lockedReason : Option LockedReason := none
  unknownEffects : ℕ := 0
  overruns : ℕ := 0

/-- What a thread does while it holds the lock. -/
abbrev Locked (δ α : Type) := Effect (ModelGateway δ) Raised α

/-- A Python value that should be a non-negative integer. -/
inductive Value where
  | int (n : ℤ)
  | bool (b : Bool)
  | other

def Value.natural? : Value → Option ℕ
  | int (.ofNat n) => some n
  | _ => none

/-- The arguments of `request`; a token that is not a string is `none`. -/
structure Request where
  token : Option String
  (provider model : String)
  estimatedTokens : Value := .int 0
  estimatedCostMinor : Value := .int 0

def estimate (value : Value) (name : String) : Except Raised ℕ :=
  match value.natural? with
  | some n => .ok n
  | none => .error (.modelGatewayError (name ++ " estimate must be a non-negative integer"))

section

variable {δ : Type} [DecidableEq δ] (sha256 : String → δ) (route : ModelRoute)

/-- `sha256(token.encode("ascii"))`. -/
def presentedDigest (token : Option String) : Except Raised δ :=
  match token with
  | some text =>
    if text.toList.all fun c => c.toNat < 128 then .ok (sha256 text)
    else .error (.modelGatewayError "run-bound model token refused")
  | none => .error (.modelGatewayError "run-bound model token refused")

variable (gateway : ModelGateway δ)

def ModelGateway.requireUnlocked : Except Raised Unit :=
  match gateway.lockedReason with
  | none => .ok ()
  | some reason => .error (.modelGatewayError ("model route is locked: " ++ reason.text))

/-- `issue_token`; the token is drawn by `secrets`. -/
def issueToken (token : String) (now : ℚ) : Locked δ String := do
  let gateway ← state
  lift (refuseIf gateway.revoked "model route is revoked")
  lift gateway.requireUnlocked
  modify fun gateway => { gateway with tokenDigest := some (sha256 token), issuedAt := some now }
  return token

/-- The token that is in force. -/
def ModelGateway.issued : Except Raised (δ × ℚ) :=
  match gateway.revoked, gateway.tokenDigest, gateway.issuedAt with
  | false, some digest, some issuedAt => .ok (digest, issuedAt)
  | _, _, _ => .error (.modelGatewayError "model route is unavailable")

variable (adapter : Bool) (tokens costMinor : ℕ)

/-- The checks of an admission; `adapter` says whether one is configured. -/
def ModelGateway.authorize (presented : δ)
    (call : Request) (tokens costMinor : ℕ) (now : ℚ) : Except Raised Unit := do
  gateway.requireUnlocked
  let (digest, issuedAt) ← gateway.issued
  refuseIf (digest ≠ presented) "run-bound model token refused"
  refuseIf (now - issuedAt > route.expiresAfterSeconds) "run-bound model token expired"
  refuseIf (call.provider ≠ route.provider ∨ call.model ≠ route.model)
    "provider or model is outside the approved route"
  refuseIf (adapter = false) "no configured provider adapter is available"
  refuseIf (gateway.requests + 1 > route.maxRequests) "model request budget exhausted"
  refuseIf (gateway.tokens + gateway.reservedTokens + tokens > route.maxTokens)
    "model token budget exhausted by reserved estimate"
  refuseIf (gateway.costMinor + gateway.reservedCostMinor + costMinor > route.maxCostMinor)
    "model cost budget exhausted by reserved estimate"

def ModelGateway.reserve : ModelGateway δ :=
  { gateway with
    requests := gateway.requests + 1
    reservedRequests := gateway.reservedRequests + 1
    reservedTokens := gateway.reservedTokens + tokens
    reservedCostMinor := gateway.reservedCostMinor + costMinor }

/-- `request` up to the end of `_authorize_and_reserve`; returns the estimates. -/
def authorizeAndReserve (call : Request) (now : ℚ) : Locked δ (ℕ × ℕ) := do
  let tokens ← lift (estimate call.estimatedTokens "token")
  let costMinor ← lift (estimate call.estimatedCostMinor "cost")
  let presented ← lift (presentedDigest sha256 call.token)
  let gateway ← state
  lift (gateway.authorize route adapter presented call tokens costMinor now)
  modify (·.reserve tokens costMinor)
  return (tokens, costMinor)

def ModelGateway.release : ModelGateway δ :=
  { gateway with
    reservedRequests := gateway.reservedRequests - 1
    reservedTokens := gateway.reservedTokens - tokens
    reservedCostMinor := gateway.reservedCostMinor - costMinor }

/-- A reason that is already there stays. -/
def ModelGateway.lock (reason : LockedReason) : ModelGateway δ :=
  { gateway with lockedReason := gateway.lockedReason <|> some reason, tokenDigest := none }

def releaseReservation : Locked δ Unit := do
  modify (·.release tokens costMinor)
  let gateway ← state
  if min gateway.reservedRequests (min gateway.reservedTokens gateway.reservedCostMinor) < 0 then
    modify fun gateway => { gateway with
      lockedReason := some .accountingInvariantViolated, tokenDigest := none }
    raise (.modelGatewayError "model gateway accounting invariant violated")

/-- A request that holds a reservation: which of the admitted requests it is, and its estimates. -/
structure Admission where
  (slot tokens costMinor : ℕ)
deriving DecidableEq

variable (estimated : Admission)

/-- `overrun`, once the usage is charged. -/
def ModelGateway.isOverrun (tokens costMinor : ℕ) : Bool :=
  tokens > estimated.tokens || costMinor > estimated.costMinor ||
    gateway.tokens > route.maxTokens || gateway.costMinor > route.maxCostMinor

def settleKnown (tokens costMinor : ℕ) : Locked δ Unit := do
  releaseReservation estimated.tokens estimated.costMinor
  modify fun gateway => { gateway with
    tokens := gateway.tokens + tokens, costMinor := gateway.costMinor + costMinor }
  let gateway ← state
  if gateway.isOverrun route estimated tokens costMinor then
    modify fun gateway => { gateway with overruns := gateway.overruns + 1 }
    modify (·.lock .usageExceededReservation)
    raise (.modelGatewayError "provider usage exceeded its reserved budget")

def settleUnknown : Locked δ Unit := do
  releaseReservation estimated.tokens estimated.costMinor
  modify fun gateway => { gateway with
    tokens := max (gateway.tokens + estimated.tokens) route.maxTokens
    costMinor := max (gateway.costMinor + estimated.costMinor) route.maxCostMinor
    unknownEffects := gateway.unknownEffects + 1 }
  modify (·.lock .usageUnknown)

/-- How a call of the adapter ends. A mapping has the `tokens` and the `costMinor` of its `usage`;
`none` if that is absent or no mapping. -/
inductive AdapterResult where
  | raised
  | notMapping
  | mapping (usage : Option (Value × Value))

/-- `_usage`. -/
def usageOf (usage : Option (Value × Value)) : Except Raised (ℕ × ℕ) :=
  match usage with
  | none => .error (.modelGatewayError "provider adapter usage is malformed")
  | some (tokens, costMinor) =>
    match tokens.natural?, costMinor.natural? with
    | none, _ => .error (.modelGatewayError "provider token usage is malformed")
    | some _, none => .error (.modelGatewayError "provider cost usage is malformed")
    | some tokens, some costMinor => .ok (tokens, costMinor)

/-- The usage that a result reports, or what `request` raises instead. -/
def AdapterResult.usage : AdapterResult → Except Raised (ℕ × ℕ)
  | raised => .error .adapter
  | notMapping => .error (.modelGatewayError "provider adapter returned a non-object result")
  | mapping usage => usageOf usage

/-- `request` from the end of the adapter on; returns the usage. -/
def settle (result : AdapterResult) : Locked δ (ℕ × ℕ) :=
  match result.usage with
  | .error e => do
    settleUnknown route estimated
    raise e
  | .ok (tokens, costMinor) => do
    settleKnown route estimated tokens costMinor
    return (tokens, costMinor)

def revoke : Locked δ Unit :=
  modify fun gateway => { gateway with revoked := true, tokenDigest := none }

/-! ### Threads -/

/-- A gateway and the calls of `request` that were admitted: those that have not entered the adapter,
those that are in the adapter, and those that are settled, with what the adapter did. -/
structure System (δ : Type) where
  gateway : ModelGateway δ := {}
  admitted : List Admission := []
  calling : List Admission := []
  settled : List (Admission × AdapterResult) := []

/-- A new gateway. -/
def System.initial : System δ := {}

variable (s : System δ)

def System.inFlight : List Admission := s.admitted ++ s.calling

/-- Every request that has entered the adapter. -/
def System.adapterCalls : ℕ := s.calling.length + s.settled.length

inductive Event where
  | issueToken (token : String) (now : ℚ)
  | request (call : Request) (now : ℚ)
  | callAdapter (estimated : Admission)
  | adapterEnds (estimated : Admission) (result : AdapterResult)
  | revoke

/-- One atomic section of one thread; an event that no thread can make changes nothing. -/
def next : Event → System δ
  | .issueToken token now => { s with gateway := (issueToken sha256 token now s.gateway).2 }
  | .request call now =>
    match authorizeAndReserve sha256 route adapter call now s.gateway with
    | (.ok (tokens, costMinor), gateway) =>
      { s with gateway, admitted := s.admitted ++ [⟨s.gateway.requests, tokens, costMinor⟩] }
    | (.error _, gateway) => { s with gateway }
  | .callAdapter estimated =>
    if estimated ∈ s.admitted then
      { s with admitted := s.admitted.erase estimated, calling := s.calling ++ [estimated] }
    else s
  | .adapterEnds estimated result =>
    if estimated ∈ s.calling then
      { s with
        gateway := (settle route estimated result s.gateway).2
        calling := s.calling.erase estimated
        settled := s.settled ++ [(estimated, result)] }
    else s
  | .revoke => { s with gateway := (revoke s.gateway).2 }

end

end StatePort.ToolGateway
