import StatePort.Daemon.Contract

/-!
# Provisioned grants

`packages/execution-host/src/execution_host/grants.py` and the documents that it validates. The
grant store is a directory of JSON documents that an operator writes; it is read anew for every
question, so a model of it is a function of the moment.

`assert_live` refuses with `GrantRefusal`. Validation of a document, its digest and the comparison
of two instants can raise other exceptions, which it does not turn into refusals.
-/

namespace StatePort.Daemon

/-! ### Lexical checks -/

def grantFormat : String := "stateport.execution-host-grant/v2"

def legacyGrantFormat : String := "stateport.execution-host-grant/v1"

def maxTimeoutSeconds : ℤ := 86400

def maxMemoryMaxBytes : ℤ := 1073741824

def maxPidsMax : ℤ := 512

def maxDeploymentArchiveBytes : ℤ := 512 * 1024 * 1024 + 64 * 1024 * 1024

def maxDeploymentFiles : ℤ := 10000

/-- `[a-z0-9._/:-]`. -/
def isImageChar (c : CodePoint) : Bool :=
  PyStr.isBetween 'a' 'z' c || PyStr.isAsciiDigit c || c ∈ PyStr.of "._/:-"

/-- `_IMAGE`: `[a-z0-9][a-z0-9._/:-]{0,255}@sha256:[0-9a-f]{64}`. -/
def isImage (s : PyStr) : Bool :=
  let name := s.takeWhile fun c => c ≠ PyStr.codePoint '@'
  (name.head?.any fun c => PyStr.isBetween 'a' 'z' c || PyStr.isAsciiDigit c) &&
    name.length ≤ 256 && name.all isImageChar && isDigest (s.drop (name.length + 1))

/-- `_GIT_SHA`: `[0-9a-f]{40}`. -/
def isGitSha (s : PyStr) : Bool := s.length = 40 && s.all PyStr.isLowerHex

variable (value : Wire)

/-- `validate_image_reference`. -/
def checkImageReference : Except Raised PyStr := do
  let reference ← checkString value "image.reference"
  raiseIf (isImage reference = false)
    (.valueError "image.reference must be a digest-pinned lowercase OCI reference")
  return reference

/-- `_iso_z`. -/
def checkIsoZ (name : PyStr) : Except Raised PyStr := do
  let s ← checkString value name
  raiseIf (s.getLast? ≠ some (PyStr.codePoint 'Z') ∨ 10 ∈ s ∨ 64 < s.length)
    (.valueError (name ++ " must be a bounded UTC timestamp"))
  return s

/-- `value in {...}`, for a set of strings: a list or an object raises `TypeError`. -/
def inSet (strings : List String) : Except Raised Bool := do
  raiseIf value.isUnhashable .typeError
  return strings.any fun s => value.isStr s

/-- `len(set(items)) != len(items)`, where no item is a list or an object. -/
def hasDuplicates (valueOf : FloatText → Number) : List Wire → Bool
  | [] => false
  | v :: vs => (vs.any fun w => v.pyEq valueOf w) || hasDuplicates valueOf vs

variable (py : Interpreter)

/-- `len(set(items)) != len(items)`. -/
def checkDuplicates (items : List Wire) : Except Raised Bool := do
  raiseIf (items.any Wire.isUnhashable) .typeError
  return hasDuplicates py.valueOf items

/-! ### Grant documents -/

/-- `budgets` of a grant. -/
structure Budgets where
  (maxTimeoutSeconds maxOutputBytes maxMemoryMaxBytes maxPidsMax maxActiveWorkloads : ℤ)
  (maxCpuQuotaPercent maxDiskMaxBytes : ℤ)

/-- `deploymentScope` of a grant; its mode and adapter are fixed. -/
structure DeploymentScope where
  targetId : Id
  allowDataPurge : Bool
  (maxArchiveBytes maxFiles : ℤ)

/-- A validated grant document. -/
structure Grant where
  formatVersion : String
  grantId : Id
  peerUid : ℤ
  operations : List Operation
  workloadIds : List Id
  workloadKinds : List Kind
  workloadSpecDigests : List (Id × Digest)
  imageReference : PyStr
  baseRevision : Option PyStr
  (issuedAt expiresAt : PyStr)
  revocationEpoch : ℤ
  budgets : Budgets
  deploymentScope : Option DeploymentScope

def Budgets.document (budgets : Budgets) : Wire :=
  .dict [("maxTimeoutSeconds", .int budgets.maxTimeoutSeconds),
    ("maxOutputBytes", .int budgets.maxOutputBytes),
    ("maxMemoryMaxBytes", .int budgets.maxMemoryMaxBytes),
    ("maxPidsMax", .int budgets.maxPidsMax),
    ("maxActiveWorkloads", .int budgets.maxActiveWorkloads),
    ("maxCpuQuotaPercent", .int budgets.maxCpuQuotaPercent),
    ("maxDiskMaxBytes", .int budgets.maxDiskMaxBytes)]

def DeploymentScope.document (scope : DeploymentScope) : Wire :=
  .dict [("authorityMode", .str "canonical-control-plane"),
    ("targetAdapter", .str "rootless-podman-local"), ("targetId", .str scope.targetId.val),
    ("allowDataPurge", .bool scope.allowDataPurge), ("maxArchiveBytes", .int scope.maxArchiveBytes),
    ("maxFiles", .int scope.maxFiles)]

def Grant.document (grant : Grant) : Wire :=
  .dict ([(PyStr.of "formatVersion", Wire.str grant.formatVersion),
    (PyStr.of "grantId", .str grant.grantId.val), (PyStr.of "peerUid", .int grant.peerUid),
    (PyStr.of "operations", .list (grant.operations.map fun o => .str o.name)),
    (PyStr.of "workloadIds", .list (grant.workloadIds.map fun id => .str id.val)),
    (PyStr.of "workloadKinds", .list (grant.workloadKinds.map fun kind => .str kind.name)),
    (PyStr.of "workloadSpecDigests", .dict (grant.workloadSpecDigests.map fun item =>
      (item.1.val, .str item.2.val))),
    (PyStr.of "imageReference", .str grant.imageReference),
    (PyStr.of "baseRevision", (grant.baseRevision.map Wire.str).getD .null),
    (PyStr.of "issuedAt", .str grant.issuedAt), (PyStr.of "expiresAt", .str grant.expiresAt),
    (PyStr.of "revocationEpoch", .int grant.revocationEpoch),
    (PyStr.of "budgets", grant.budgets.document)] ++
    (grant.deploymentScope.map fun scope => (PyStr.of "deploymentScope", scope.document)).toList)

/-- `canonical_digest(grant)`. -/
def Grant.digest (grant : Grant) : Except Raised Digest :=
  canonicalDigest py grant.document

def kinds : List Kind :=
  [.agentRun, .capsuleService, .browserJourney, .terminal, .workspace, .validatorRun]

def Kind.ofWire? : Option Kind := kinds.find? fun kind => value.isStr kind.name

def grantKeys : List String :=
  ["formatVersion", "grantId", "peerUid", "operations", "workloadIds", "workloadKinds",
    "workloadSpecDigests", "imageReference", "baseRevision", "issuedAt", "expiresAt",
    "revocationEpoch", "budgets"]

/-- The operations of a grant: known, and each once. -/
def checkGrantOperations : Except Raised (List Operation) :=
  let message := "authority grant operations must be a unique subset of the contract operations"
  match value with
  | .list items => do
    raiseIf (items = [] ∨ Operation.all.length < items.length) (.valueError message)
    match items.mapM Operation.ofWire? with
    | none => valueError message
    | some operations => do
      raiseIf (¬ operations.Nodup) (.valueError message)
      return operations
  | _ => valueError message

def checkGrantKinds : Except Raised (List Kind) :=
  let message := "authority grant workloadKinds must be a unique subset of the workload kinds"
  match value with
  | .list items => do
    raiseIf (items = []) (.valueError message)
    match items.mapM Kind.ofWire? with
    | none => valueError message
    | some kinds => do
      raiseIf (¬ kinds.Nodup) (.valueError message)
      return kinds
  | _ => valueError message

def checkGrantWorkloadIds (value : Wire) : Except Raised (List Id) :=
  let message := "authority grant workloadIds must be a bounded unique list"
  match value with
  | .list items => do
    raiseIf (items = [] ∨ 256 < items.length) (.valueError message)
    let duplicated ← checkDuplicates py items
    raiseIf duplicated (.valueError message)
    items.mapM fun item => checkId item "workloadIds[]"
  | _ => valueError message

variable (operations : List Operation)

def checkDeploymentScope : Except Raised DeploymentScope := do
  let scope ← checkMapping value "deploymentScope"
    ["authorityMode", "targetAdapter", "targetId", "allowDataPurge", "maxArchiveBytes", "maxFiles"]
  raiseIf ((scope.get "authorityMode").isStr "canonical-control-plane" = false)
    (.valueError "deploymentScope.authorityMode is unsupported")
  raiseIf ((scope.get "targetAdapter").isStr "rootless-podman-local" = false)
    (.valueError "deploymentScope.targetAdapter is unsupported")
  let targetId ← checkId (scope.get "targetId") "deploymentScope.targetId"
  match scope.get "allowDataPurge" with
  | .bool allowDataPurge =>
    raiseIf (.purgeDeploymentData ∈ operations ∧ allowDataPurge = false)
      (.valueError "a grant covering purgeDeploymentData must explicitly allow data purge")
    let maxArchiveBytes ← checkInt (scope.get "maxArchiveBytes") "deploymentScope.maxArchiveBytes"
      1 maxDeploymentArchiveBytes
    let maxFiles ← checkInt (scope.get "maxFiles") "deploymentScope.maxFiles" 1 maxDeploymentFiles
    return { targetId, allowDataPurge, maxArchiveBytes, maxFiles }
  | _ => valueError "deploymentScope.allowDataPurge must be boolean"

/-- The scope that deployment operations require, and other grants must not have. -/
def checkGrantScope (data : Wire) (operations : List Operation) :
    Except Raised (Option DeploymentScope) :=
  if operations.any fun operation => operation ∈ Operation.deployment then do
    raiseIf ((data.get "formatVersion").isStr grantFormat = false ∨
      data.has "deploymentScope" = false)
      (.valueError "a grant with deployment operations requires a v2 deploymentScope")
    let scope ← checkDeploymentScope (data.get "deploymentScope") operations
    return some scope
  else do
    raiseIf (data.has "deploymentScope")
      (.valueError "deploymentScope requires at least one deployment operation")
    return none

def checkSpecDigests (workloadIds : List Id) : Except Raised (List (Id × Digest)) :=
  match value with
  | .dict fields => do
    raiseIf (256 < fields.length)
      (.valueError "authority grant workloadSpecDigests must be a bounded object")
    let digests ← fields.mapM fun field => do
      let key ← checkId (.str field.1) "workloadSpecDigests key"
      let digest ← checkDigest field.2 "workloadSpecDigests value"
      return (key, digest)
    raiseIf (∃ item ∈ digests, item.1 ∉ workloadIds)
      (.valueError "authority grant workloadSpecDigests names workloads outside its scope")
    raiseIf ((.createWorkload ∈ operations ∨ .runValidator ∈ operations) ∧
      ∃ id ∈ workloadIds, id ∉ digests.map Prod.fst)
      (.valueError ("a grant that may create workloads must bind the complete canonical " ++
        "sealed-spec digest of every workload in its scope"))
    return digests
  | _ => valueError "authority grant workloadSpecDigests must be a bounded object"

def checkBudgets : Except Raised Budgets := do
  let budgets ← checkMapping value "budgets"
    ["maxTimeoutSeconds", "maxOutputBytes", "maxMemoryMaxBytes", "maxPidsMax",
      "maxActiveWorkloads", "maxCpuQuotaPercent", "maxDiskMaxBytes"]
  let field := fun (name : String) (minimum maximum : ℤ) =>
    checkInt (budgets.get name) (PyStr.of s!"budgets.{name}") minimum maximum
  let timeout ← field "maxTimeoutSeconds" 1 maxTimeoutSeconds
  let output ← field "maxOutputBytes" 1 maxOutputBytes
  let memory ← field "maxMemoryMaxBytes" (16 * 1024 * 1024) maxMemoryMaxBytes
  let pids ← field "maxPidsMax" 16 maxPidsMax
  let active ← field "maxActiveWorkloads" 1 256
  let cpu ← field "maxCpuQuotaPercent" 1 800
  let disk ← field "maxDiskMaxBytes" (16 * 1024 * 1024) (4 * 1024 ^ 3)
  return ⟨timeout, output, memory, pids, active, cpu, disk⟩

/-- `baseRevision` of a grant. -/
def checkBaseRevision : Except Raised (Option PyStr) :=
  match value with
  | .null => .ok none
  | .str s =>
    if isGitSha s then .ok (some s)
    else valueError "authority grant baseRevision must be null or a full lowercase git sha"
  | _ => valueError "authority grant baseRevision must be null or a full lowercase git sha"

/-- The format of a grant document with these keys. -/
def checkGrantFormat : Except Raised String := do
  let formatVersion := value.get "formatVersion"
  raiseIf (value.isDict = false ∨ ¬ (hasKeys value grantKeys ∨
    (formatVersion.isStr grantFormat ∧ hasKeys value ("deploymentScope" :: grantKeys))))
    (.valueError "authority grant has an invalid shape")
  let known ← inSet formatVersion [grantFormat, legacyGrantFormat]
  raiseIf (known = false) (.valueError "authority grant has an invalid formatVersion")
  return if formatVersion.isStr grantFormat then grantFormat else legacyGrantFormat

def validateGrantDocument (value : Wire) : Except Raised Grant := do
  noSecrets "$" value
  let formatVersion ← checkGrantFormat value
  let grantId ← checkId (value.get "grantId") "grantId"
  let peerUid ← checkInt (value.get "peerUid") "peerUid" 0 (2 ^ 31 - 1)
  let operations ← checkGrantOperations (value.get "operations")
  let deploymentScope ← checkGrantScope value operations
  let workloadIds ← checkGrantWorkloadIds py (value.get "workloadIds")
  let workloadKinds ← checkGrantKinds (value.get "workloadKinds")
  let workloadSpecDigests ←
    checkSpecDigests (value.get "workloadSpecDigests") operations workloadIds
  let imageReference ← checkImageReference (value.get "imageReference")
  let baseRevision ← checkBaseRevision (value.get "baseRevision")
  let issuedAt ← checkIsoZ (value.get "issuedAt") "issuedAt"
  let expiresAt ← checkIsoZ (value.get "expiresAt") "expiresAt"
  let revocationEpoch ← checkInt (value.get "revocationEpoch") "revocationEpoch" 0 (2 ^ 31 - 1)
  let budgets ← checkBudgets (value.get "budgets")
  return { formatVersion, grantId, peerUid, operations, workloadIds, workloadKinds,
           workloadSpecDigests, imageReference, baseRevision, issuedAt, expiresAt,
           revocationEpoch, budgets, deploymentScope }

structure Revocation where
  (revokedGrantIds pausedGrantIds : List Id)
  revocationEpoch : ℤ

def checkIdList (field : String) : Except Raised (List Id) :=
  match value with
  | .list items => do
    raiseIf (4096 < items.length) (.valueError (PyStr.of s!"{field} must be a bounded list"))
    items.mapM fun item => checkId item (PyStr.of s!"{field}[]")
  | _ => valueError (PyStr.of s!"{field} must be a bounded list")

def validateRevocationDocument : Except Raised Revocation := do
  let data ← checkMapping value "revocation document"
    ["revokedGrantIds", "pausedGrantIds", "revocationEpoch"]
  let revocationEpoch ← checkInt (data.get "revocationEpoch") "revocationEpoch" 0 (2 ^ 31 - 1)
  let revokedGrantIds ← checkIdList (data.get "revokedGrantIds") "revokedGrantIds"
  let pausedGrantIds ← checkIdList (data.get "pausedGrantIds") "pausedGrantIds"
  return { revokedGrantIds, pausedGrantIds, revocationEpoch }

/-! ### The store -/

/-- `datetime.fromisoformat(...)`; only two instants of the same sort can be compared. -/
structure Instant where
  seconds : ℚ
  isAware : Bool

inductive StoredFile where
  | missing
  /-- Not a regular file, not UTF-8, or not JSON. -/
  | unreadable
  | document (value : Wire)

/-- The grant store at one moment: its files, the clock, and how instants are parsed, or the message
of the `ValueError`. -/
structure GrantStore where
  revocation : StoredFile
  grant : PyStr → StoredFile
  clock : PyStr
  parseInstant : PyStr → Except PyStr Instant

/-- Why a grant is not live: a typed refusal, or another exception. -/
inductive GrantFailure where
  | refusal (reason : String) (detail : PyStr)
  | raised (error : Raised)

/-- An exception that is caught as `ValueError` becomes a refusal. -/
def refuseValueError {α : Type} (x : Except Raised α) (detail : PyStr) : Except GrantFailure α :=
  match x with
  | .ok a => .ok a
  | .error e =>
    if e.isValueError then .error (.refusal "grant-store-corrupt" (detail ++ e.message))
    else .error (.raised e)

/-- An exception that nothing catches. -/
def passOn {α : Type} (x : Except Raised α) : Except GrantFailure α := x.mapError .raised

namespace GrantStore

variable (py : Interpreter) (store : GrantStore)

/-- `_revocation`. -/
def loadRevocation : Except GrantFailure Revocation :=
  match store.revocation with
  | .missing => .error (.refusal "revocation-state-missing"
      "the grant store revocation document is absent; refusing to fail open")
  -- A JSON `null` is taken for an unreadable document.
  | .unreadable | .document .null => .error (.refusal "grant-store-corrupt"
      "the grant store revocation document is unreadable; refusing to fail open")
  | .document value =>
    refuseValueError (validateRevocationDocument value) "revocation document is invalid: "

def loadGrant (grantId : PyStr) : Except GrantFailure Grant :=
  match store.grant grantId with
  | .missing | .unreadable | .document .null => .error (.refusal "grant-unknown"
      "no provisioned grant exists for the presented grant id")
  | .document value => do
    let grant ← refuseValueError (validateGrantDocument py value)
      "stored grant document is invalid: "
    raiseIf (grant.grantId.val ≠ grantId) (.refusal "grant-store-corrupt"
      "stored grant id does not match its file name")
    return grant

/-- `now >= expires`, which raises `TypeError` for instants of different sorts. -/
def checkExpiry (grant : Grant) : Except GrantFailure Unit :=
  let corrupt := fun (message : PyStr) => GrantFailure.refusal "grant-store-corrupt"
    ("grant timestamps are unparseable: " ++ message)
  match store.parseInstant store.clock with
  | .error message => .error (corrupt message)
  | .ok now =>
    match store.parseInstant grant.expiresAt with
    | .error message => .error (corrupt message)
    | .ok expires => do
      raiseIf (now.isAware ≠ expires.isAware) (.raised .typeError)
      raiseIf (expires.seconds ≤ now.seconds) (.refusal "grant-expired" "the grant expired")

def checkLiveness (grant : Grant) : Except GrantFailure Unit := do
  let revocation ← store.loadRevocation
  raiseIf (grant.grantId ∈ revocation.revokedGrantIds)
    (.refusal "grant-revoked" "the grant was explicitly revoked")
  raiseIf (grant.revocationEpoch < revocation.revocationEpoch)
    (.refusal "grant-revoked" "the grant predates the current revocation epoch")
  raiseIf (grant.grantId ∈ revocation.pausedGrantIds)
    (.refusal "grant-paused" "the grant is currently paused")
  store.checkExpiry grant

def checkBoundDigest (grant : Grant) (expectedDigest : Option Digest) : Except GrantFailure Unit :=
  match expectedDigest with
  | none => .ok ()
  | some expected => do
    let digest ← passOn (grant.digest py)
    raiseIf (digest ≠ expected) (.refusal "grant-digest-mismatch"
      "the live authority grant no longer matches the workload's bound grant digest")

def assertLive (grantId : PyStr) (expectedDigest : Option Digest) : Except GrantFailure Grant := do
  let grant ← store.loadGrant py grantId
  checkBoundDigest py grant expectedDigest
  store.checkLiveness grant
  return grant

end GrantStore

end StatePort.Daemon
