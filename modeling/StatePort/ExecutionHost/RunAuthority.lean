import StatePort.Algorithm.Table
import StatePort.Authority.Basic
import StatePort.Document.Json

/-!
# Run authority

`packages/execution-host/src/execution_host/run_authority.py`: the owner's grants for managed agent
runs. `RunAuthority` keeps each grant in two indices, one by the execution key and one by the grant
id. The effect that `perform_if_live` performs may call the authority again; it is given by the
calls that it makes (`Call`).
-/

namespace StatePort.ExecutionHost

open Authority (isId isDigest)

/-- An exception: a `RunAuthorityError` with its message, or one that an effect raises. -/
inductive RunAuthorityError where
  | error (message : String)
  | effect

/-! ### Lexical checks -/

/-- `_IMAGE_REFERENCE`: `[^\s@]+@sha256:[0-9a-f]{64}`. -/
def isImageReference (s : String) : Bool :=
  let name := s.toList.takeWhile (· ≠ '@')
  name ≠ [] && name.all (fun c => !Str.isSpace c) &&
    isDigest (String.ofList (s.toList.drop (name.length + 1))) && '@' ∈ s.toList

/-- `_require_string`. -/
def isBounded (s : String) : Bool := Str.strip s ≠ "" && s.toList.length ≤ 1024

def requireId (value name : String) : Except RunAuthorityError String := do
  raiseIf (isId value = false) (.error (name ++ " is not a valid identifier"))
  return value

def requireDigest (value name : String) : Except RunAuthorityError String := do
  raiseIf (isDigest value = false) (.error (name ++ " must be a pinned sha256 digest"))
  return value

def requireImageReference (value : String) : Except RunAuthorityError String := do
  raiseIf (isImageReference value = false)
    (.error "claimed_image must be a digest-pinned image reference")
  return value

/-! ### Grants -/

/-- `RunGrant`: a grant that `__post_init__` has accepted. -/
structure RunGrant where
  (grantId executorKind claimedImage host scope issuedAt digestPin : String)
  revoked : Bool
  grantId_valid : isId grantId
  executorKind_valid : isId executorKind
  claimedImage_valid : isImageReference claimedImage
  host_valid : isId host
  scope_valid : isBounded scope
  issuedAt_valid : isBounded issuedAt
  digestPin_valid : isDigest digestPin

/-- The execution triplet that a grant is for. -/
structure RunKey where
  (executorKind claimedImage host : String)
deriving DecidableEq

namespace RunGrant

def key (g : RunGrant) : RunKey := ⟨g.executorKind, g.claimedImage, g.host⟩

/-- What `authority_digest` binds: everything but the revocation. -/
def identity (g : RunGrant) : Json :=
  Json.ofFields [("formatVersion", .str "stateport.run-authority-grant/v1"),
    ("grantId", .str g.grantId), ("executorKind", .str g.executorKind),
    ("claimedImage", .str g.claimedImage), ("host", .str g.host), ("scope", .str g.scope),
    ("issuedAt", .str g.issuedAt), ("digestPin", .str g.digestPin)]

variable (sha256 : List Char → String)

def authorityDigest (g : RunGrant) : String := "sha256:" ++ sha256 (g.identity.text .raw)

/-- `RunGrant(**{**grant.__dict__, "revoked": True})`. -/
def revoke (g : RunGrant) : RunGrant := { g with revoked := true }

end RunGrant

/-! ### The authority -/

structure RunAuthority where
  host : String
  grants : Table RunGrant.key
  byId : Table RunGrant.grantId

/-- What a caller claims for a grant. -/
structure Binding where
  imageDigest : Option String
  authorityGrantDigest : String

namespace RunAuthority

/-- `RunAuthority(host=host)`. -/
def new (host : String) : RunAuthority := ⟨host, Table.empty _, Table.empty _⟩

/-- `self._grants[grant.key()] = grant; self._by_id[grant.grant_id] = grant`. -/
def store (s : RunAuthority) (g : RunGrant) : RunAuthority :=
  { s with grants := s.grants.put g, byId := s.byId.put g }

variable (sha256 : List Char → String) (s : RunAuthority)

def register (g : RunGrant) : Except RunAuthorityError RunAuthority := do
  raiseIf (g.host ≠ s.host) (.error "grant host does not match the authority host")
  raiseIf (∃ existing ∈ s.byId.find? g.grantId,
      existing.authorityDigest sha256 ≠ g.authorityDigest sha256)
    (.error "grant id is already bound to another authorization")
  raiseIf (∃ keyed ∈ s.grants.find? g.key, keyed.grantId ≠ g.grantId)
    (.error "execution key is already bound to another grant id")
  raiseIf (∃ existing ∈ s.byId.find? g.grantId, existing.revoked ∧ g.revoked = false)
    (.error "a revoked grant cannot be reactivated")
  return s.store g

def revoke (grantId : String) : Except RunAuthorityError RunAuthority := do
  let id ← requireId grantId "grant_id"
  match s.byId.find? id with
  | none => return s
  | some g => if g.revoked then return s else return s.store g.revoke

variable (executorKind claimedImage host : String)

def lookup : Except RunAuthorityError (Option RunGrant) := do
  let kind ← requireId executorKind "executor_kind"
  let image ← requireImageReference claimedImage
  let host ← requireId host "host"
  return s.grants.find? ⟨kind, image, host⟩

/-- `_assert_live_locked`. -/
def assertLive (grantId : String) (b : Binding) : Except RunAuthorityError RunGrant := do
  let id ← requireId grantId "grant_id"
  match s.byId.find? id with
  | none => .error (.error "run_authority_grant_revoked")
  | some g =>
    let digest ← requireDigest b.authorityGrantDigest "authority_grant_digest"
    raiseIf (g.authorityDigest sha256 ≠ digest) (.error "run_authority_grant_identity_mismatch")
    raiseIf g.revoked (.error "run_authority_grant_revoked")
    raiseIf (b.imageDigest ≠ some g.digestPin) (.error "run_authority_digest_mismatch")
    return g

/-- `lookup`, where `authorize` calls it: any refusal becomes one. -/
def address : Except RunAuthorityError (Option RunGrant) :=
  match s.lookup executorKind claimedImage host with
  | .ok g => .ok g
  | .error _ => .error (.error "run authorization is not addressable on this host")

def authorize (b : Binding) : Except RunAuthorityError RunGrant := do
  match ← s.address executorKind claimedImage host with
  | none => .error (.error "run_authority_no_grant")
  | some g =>
    let digest ← requireDigest b.authorityGrantDigest "authority_grant_digest"
    raiseIf (g.authorityDigest sha256 ≠ digest) (.error "run_authority_grant_identity_mismatch")
    raiseIf g.revoked (.error "run_authority_grant_revoked")
    raiseIf (b.imageDigest.any isDigest = false) (.error "run_authority_digest_unset")
    raiseIf (b.imageDigest ≠ some g.digestPin) (.error "run_authority_digest_mismatch")
    return g

end RunAuthority

/-! ### Calls -/

/-- A call of the authority. The effect of `perform_if_live` makes calls of its own, under the same
lock, and then returns or raises. -/
inductive Call where
  | register (grant : RunGrant)
  | revoke (grantId : String)
  | authorize (executorKind claimedImage host : String) (binding : Binding)
  | assertLive (grantId : String) (binding : Binding)
  | performIfLive (grantId : String) (binding : Binding) (effect : List Call) (raises : Bool)

section

variable (sha256 : List Char → String)

/-- The authority that a call which may refuse leaves. -/
def orUnchanged (s : RunAuthority) (x : Except RunAuthorityError RunAuthority) :
    RunAuthority × Except RunAuthorityError Unit :=
  match x with
  | .ok s' => (s', .ok ())
  | .error e => (s, .error e)

mutual

/-- The authority after a call, and whether the call succeeds. -/
def exec (s : RunAuthority) : Call → RunAuthority × Except RunAuthorityError Unit
  | .register g => orUnchanged s (s.register sha256 g)
  | .revoke grantId => orUnchanged s (s.revoke grantId)
  | .authorize kind image host b => (s, (s.authorize sha256 kind image host b).map fun _ => ())
  | .assertLive grantId b => (s, (s.assertLive sha256 grantId b).map fun _ => ())
  | .performIfLive grantId b effect raises =>
    match s.assertLive sha256 grantId b with
    | .error e => (s, .error e)
    | .ok _ =>
      let s' := execAll s effect
      -- a withdrawal by the effect itself is detected before its result is returned
      if raises then (s', .error .effect)
      else (s', (s'.assertLive sha256 grantId b).map fun _ => ())

/-- The authority after the calls of an effect. -/
def execAll (s : RunAuthority) : List Call → RunAuthority
  | [] => s
  | call :: calls => execAll (exec s call).1 calls

end

def nextAuthority (s : RunAuthority) (call : Call) : RunAuthority := (exec sha256 s call).1

end

end StatePort.ExecutionHost
