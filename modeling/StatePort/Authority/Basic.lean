import StatePort.Algorithm.Glob
import StatePort.Algorithm.Raise
import StatePort.Python.Basic

/-!
# Authority vocabulary

The enumerations, lexical checks and scope comparisons of
`packages/governed-runner/src/governed_runner/authority.py`.
-/

namespace StatePort.Authority

/-- `AuthorityError`, its subclass `AuthorityRefusal`, and the `ValueError` with which the digest of
a record refuses a float that is not finite. -/
inductive AuthorityError where
  | error (code detail : String)
  | refusal (code detail : String)
  | valueError
deriving DecidableEq

/-! ### Enumerations -/

inductive Mode where
  | deny
  | askEachTime
  | approveScopeOnce
  | autoAndNotify
  | autoWithReceipt
deriving DecidableEq

inductive Profile where
  | guarded
  | balanced
  | delegated
  | custom
deriving DecidableEq

/-- A member of `AUTHORITY_DECISIONS`. -/
inductive Verdict where
  | authorized
  | approvalRequired
  | denied
deriving DecidableEq

/-- A member of `ACTION_RESULTS`. -/
inductive ActionResult where
  | succeeded
  | failed
  | refused
  | notExecuted

inductive GrantKind where
  | standing
  | oneTime
deriving DecidableEq

inductive ExpiryMode where
  | revoked
  | sliceClosed
  | runClosed
  | timestamp
  | oneAction
deriving DecidableEq

inductive Role where
  | primary
  | subagent
  | operator
deriving DecidableEq

inductive NetworkMode where
  | denied
  | allowlisted
  | unrestricted
deriving DecidableEq

inductive GrantStatus where
  | active
  | revoked
  | policyUnbound
  | policyChanged
  | parentInactive
  | expired
  | consumed
  | budgetExhausted
deriving DecidableEq

def GrantStatus.name : GrantStatus → String
  | active => "active"
  | revoked => "revoked"
  | policyUnbound => "policy_unbound"
  | policyChanged => "policy_changed"
  | parentInactive => "parent_inactive"
  | expired => "expired"
  | consumed => "consumed"
  | budgetExhausted => "budget_exhausted"

/-- `effective in {"auto_with_receipt", "auto_and_notify"}`. -/
def Mode.isAuto : Mode → Bool
  | autoWithReceipt | autoAndNotify => true
  | _ => false

/-- The decision that an effective policy stands for. -/
def Mode.verdict : Mode → Verdict
  | autoWithReceipt | autoAndNotify => .authorized
  | askEachTime | approveScopeOnce => .approvalRequired
  | deny => .denied

/-- The order in which a parent's policy bounds its child's. -/
def Mode.permissiveness : Mode → ℕ
  | deny => 0
  | askEachTime => 1
  | approveScopeOnce => 2
  | autoAndNotify => 3
  | autoWithReceipt => 3

def NetworkMode.rank : NetworkMode → ℕ
  | denied => 0
  | allowlisted => 1
  | unrestricted => 2

/-! ### Action classes -/

def grantlessActions : List String := ["inspect_repository", "analyze", "run_tests"]

def pathBoundActions : List String :=
  ["edit_scoped_files", "update_project_state", "commit", "plan_deployment", "apply_deployment",
    "observe_deployment", "collect_deployment_logs", "restart_deployment",
    "remove_deployment_runtime", "backup_deployment_data", "restore_deployment_data",
    "purge_deployment_data"]

def branchBoundActions : List String :=
  ["edit_scoped_files", "update_project_state", "commit", "create_managed_worktree",
    "export_workspace_evidence", "retire_owned_worktree", "push_private_branch",
    "push_integration_branch", "open_draft_pr", "merge", "tag", "plan_deployment",
    "apply_deployment", "observe_deployment", "collect_deployment_logs", "restart_deployment",
    "remove_deployment_runtime", "backup_deployment_data", "restore_deployment_data",
    "purge_deployment_data"]

def pauseExemptActions : List String := ["inspect_repository", "analyze"]

/-! ### Lexical checks -/

def isLowerHex (c : Char) : Bool := c.isDigit || ('a' ≤ c && c ≤ 'f')

variable (s : String)

/-- `_ID`: `[A-Za-z0-9][A-Za-z0-9._:-]{0,127}`. -/
def isId : Bool :=
  match s.toList with
  | [] => false
  | c :: cs => c.isAlphanum && cs.length ≤ 127 &&
    cs.all fun c => c.isAlphanum || c = '.' || c = '_' || c = ':' || c = '-'

/-- `_GRANT_ID`: `grant_[A-Za-z0-9][A-Za-z0-9._-]{2,95}`. -/
def isGrantId : Bool :=
  Str.startsWith s "grant_" && match s.toList.drop 6 with
  | [] => false
  | c :: cs => c.isAlphanum && 2 ≤ cs.length && cs.length ≤ 95 &&
    cs.all fun c => c.isAlphanum || c = '.' || c = '_' || c = '-'

/-- A fixed beginning followed by `n` lower-case hexadecimal digits. -/
def isHexId (start : String) (n : ℕ) (s : String) : Bool :=
  Str.startsWith s start && (s.toList.drop start.length).length = n &&
    (s.toList.drop start.length).all isLowerHex

/-- `_REQUEST_ID`. -/
def isRequestId : String → Bool := isHexId "authority_request_" 32

/-- `_RECEIPT_ID`. -/
def isReceiptId : String → Bool := isHexId "authority_receipt_" 32

/-- `_DIGEST`. -/
def isDigest : String → Bool := isHexId "sha256:" 64

/-- `[0-9a-f]{40,64}`. -/
def isCommit : Bool :=
  40 ≤ s.toList.length && s.toList.length ≤ 64 && s.toList.all isLowerHex

/-- `_ACTION`: `[a-z][a-z0-9_]{1,63}`. -/
def isActionName : Bool :=
  match s.toList with
  | [] => false
  | c :: cs => c.isLower && 1 ≤ cs.length && cs.length ≤ 63 &&
    cs.all fun c => c.isLower || c.isDigit || c = '_'

/-- One label of a domain name: at most 63 letters, digits and inner hyphens. -/
def isDomainLabel (cs : List Char) : Bool :=
  cs.length ≤ 63 && cs.all (fun c => c.isAlphanum || c = '-') &&
    (cs.head?.any Char.isAlphanum) && (cs.getLast?.any Char.isAlphanum)

/-- `_DOMAIN`. -/
def isDomain : Bool :=
  s.toList.length ≤ 253 && (s.toList.splitOn '.').all isDomainLabel

def identifier (value label : String) : Except AuthorityError String := do
  raiseIf (isId value = false) (.error "invalid_contract" (label ++ " must be a bounded identifier"))
  return value

/-! ### Costs -/

/-- A cost argument. The code rejects `x < 0`; a positive infinity or a NaN passes that check and
makes the digest of the record that it enters raise `ValueError`. -/
def cost (value : Number) (invalid : AuthorityError) : Except AuthorityError ℚ≥0 := do
  raiseIf value.isNegative invalid
  match value.nonneg? with
  | some c => return c
  | none => .error .valueError

/-! ### Paths -/

variable (value : String)

def normalizedPath : Except AuthorityError String := do
  raiseIf (value = "" ∨ Char.ofNat 0 ∈ value.toList ∨ '\\' ∈ value.toList)
    (.error "invalid_grant" "scope path is invalid")
  let parts := pathParts value
  raiseIf (value.toList.head? = some '/' ∨ ['.', '.'] ∈ parts)
    (.error "invalid_grant" "scope paths must be normalized repository-relative paths")
  return if parts = [] then "." else String.ofList (List.intercalate ['/'] parts)

def pathIsWithin (path root : String) : Bool :=
  root = "." || path = root || Str.startsWith path (root ++ "/")

/-! ### Branches -/

/-- The characters of a ref: letters, digits, dot, underscore, slash and hyphen. -/
def isRefChar (c : Char) : Bool := c.isAlphanum || c = '.' || c = '_' || c = '/' || c = '-'

/-- The pattern without its trailing wildcard. -/
def branchBase : List Char :=
  if Str.endsWith value "*" then value.toList.dropLast else value.toList

/-- `_branch_pattern`, for a value that is not `None`. -/
def branchPattern : Except AuthorityError String := do
  raiseIf (value.toList.length < 1 ∨ 255 < value.toList.length)
    (.error "invalid_grant" "branch pattern is invalid")
  raiseIf (∃ item ∈ ["..", "//", "@\x7b", "\\", "[", "]", "?"], Str.hasSubstring value item)
    (.error "invalid_grant" "branch pattern contains unsupported Git or glob syntax")
  raiseIf (1 < value.toList.count '*' ∨ ('*' ∈ value.toList ∧ Str.endsWith value "*" = false))
    (.error "invalid_grant" "branch pattern supports only one trailing wildcard")
  let base := branchBase value
  raiseIf (base = [] ∨ base.head? = some '/' ∨
      (base.getLast? = some '/' ∧ Str.endsWith value "*" = false) ∨ base.all isRefChar = false)
    (.error "invalid_grant" "branch pattern is not a safe ref pattern")
  return value

lemma eq_of_branchPattern_eq_ok {value r : String} (h : branchPattern value = .ok r) :
    r = value := by
  simp only [branchPattern, eq_ok_iff] at h
  obtain ⟨-, -, -, -, -, -, -, -, rfl⟩ := h
  rfl

/-- A value that `_branch_pattern` accepts. -/
def BranchPattern := {value : String // branchPattern value = .ok value}

instance : DecidableEq BranchPattern := inferInstanceAs (DecidableEq (Subtype _))

/-- `_branch_pattern` with its check as evidence. -/
def checkBranchPattern : Except AuthorityError BranchPattern :=
  match h : branchPattern value with
  | .ok r => .ok ⟨value, by rw [h, eq_of_branchPattern_eq_ok h]⟩
  | .error e => .error e

def patternNarrower (child parent : Option String) : Bool :=
  match parent, child with
  | none, _ => true
  | some _, none => false
  | some parent, some child =>
    if Str.endsWith parent "*" = false then child = parent
    else parent.toList.dropLast.isPrefixOf
      (if Str.endsWith child "*" then child.toList.dropLast else child.toList)

/-! ### Origins -/

/-- The network location that `urlsplit` finds: what stands between `//` and the next `/`, `?` or
`#`, after an optional scheme. -/
def netloc (url : List Char) : List Char :=
  let scheme := url.takeWhile (· ≠ ':')
  let rest :=
    if scheme.length < url.length ∧ scheme.head?.any Char.isAlpha ∧
        scheme.all (fun c => c.isAlphanum || c = '+' || c = '-' || c = '.') then
      url.drop (scheme.length + 1)
    else url
  if ['/', '/'].isPrefixOf rest then
    (rest.drop 2).takeWhile fun c => c ≠ '/' ∧ c ≠ '?' ∧ c ≠ '#'
  else []

def safeOrigin (value : Option String) : Except AuthorityError (Option String) :=
  match value with
  | none => .ok none
  | some text => do
    if text = "" then
      return none
    raiseIf ('\n' ∈ text.toList ∨ '\r' ∈ text.toList ∨ Char.ofNat 0 ∈ text.toList)
      (.error "repository_identity_uncertain" "repository origin is invalid")
    raiseIf ('@' ∈ netloc text.toList)
      (.error "repository_identity_uncertain" "repository origin may not contain credentials")
    return some text

end StatePort.Authority
