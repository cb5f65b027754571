import StatePort.Daemon.DeploymentLedger

/-!
# The ledger of workloads

The `workloads` directory of `packages/execution-host/src/execution_host/ledger.py`: one document
for each workload, named by its id and replaced atomically. Every method holds the lock of the
ledger from its first read to its write, so a method is one transition of the directory.

A sealed spec is given by the fields that the ledger and the daemon read and by its canonical
digest; a receipt by its kind. The fields of an entry that nothing reads are kept in `others`.
-/

namespace StatePort.Daemon

/-! ### Entries -/

/-- `helperPolicy` of a source seed. -/
inductive HelperPolicy where
  | development | signedDevelopment
deriving DecidableEq

structure SourceSeed where
  helperPolicy : Option HelperPolicy

/-- A sealed workload spec. -/
structure Spec where
  kind : Kind
  workloadId : Id
  imageReference : PyStr
  /-- A reference is pinned by the digest after its last `@`. -/
  pinned : PyStr.codePoint '@' ∈ imageReference
  sourceSeed : Option SourceSeed
  (hasSourceArchive hasAgentProviderProfile stopAfterIdle : Bool)
  (timeoutSeconds outputByteBound : ℕ)
  /-- `canonical_digest(spec)`. -/
  digest : Digest

/-- `reference.rsplit("@", 1)[1]`. -/
def Spec.imageDigest (spec : Spec) : PyStr :=
  (spec.imageReference.reverse.takeWhile fun c => c ≠ PyStr.codePoint '@').reverse

def Spec.isWorkspace (spec : Spec) : Bool := spec.kind = .workspace

inductive ReceiptKind where
  | sourceCommandOutput | workspaceRecoveryReserved | workspaceSeedAdmissionInterrupted
  | restartAdopt | restartRecovery
  | supervisionTimeout | supervisionTimeoutCleanupFailure | idleTimeout | idleTimeoutCleanupFailure
  | authorityWithdrawn | authorityWithdrawnCleanupFailure
  | cleanupRetry | cleanupEscalated | cleanupRecovered
  | createAuthorityWithdrawn | workspaceSeedRecoveryRefused | workspaceSourceSeeded
  | workspaceSourceSeedRefused | sourceAdmissionRefused | createEngineFailure | createCasConflict
  | startEngineFailure | startAuthorityConflict | startCasConflict
  | stopVerificationFailure | stopCasConflict | externalStop
  | cancelReservation | cancel | cancelCleanupFailure | cancelCasConflict
  | removeEngineFailure | removeCasConflict
  | validatorAuthorityWithdrawn | validatorCreateEngineFailure | validatorCreateCasConflict
  | validatorStartAuthorityConflict | validatorStartEngineFailure
  | validatorPostStartAuthorityConflict | validatorStartCasConflict
  | validatorExecutionStateConflict | validatorEngineFailure | validatorRun
  | validatorFinalizeCasConflict
  | other
deriving DecidableEq

/-- `sourceSeedStatus`. -/
inductive SeedStatus where
  | notStarted | admitting | started | complete | failed
deriving DecidableEq

/-- The recorded output of a source command; `intact` says that its evidence digest is that of its
other fields. -/
structure CommandOutput where
  specDigest : Digest
  intact : Bool
  output : PyStr
  byteCount : ℕ
  truncated : Bool
  exitStatus : Option ℤ
  terminationReason : PyStr

/-- A document of the directory. -/
structure Entry where
  workloadId : Id
  spec : Spec
  specDigest : Digest
  containerId : Option PyStr
  grantId : PyStr
  grantDigest : Option Digest
  grantEpoch : ℤ
  state : State
  version : ℕ
  (createdAt updatedAt : PyStr)
  (startedAt finishedAt : Option PyStr)
  exitStatus : Option ℤ
  receipts : List ReceiptKind
  lastActivityAt : Option PyStr
  cleanupTargetState : Option State
  cleanupFinishedAt : Option PyStr
  cleanupExitStatus : Option ℤ
  cleanupEscalated : Bool
  sourceSeedStatus : Option SeedStatus
  (sourceSeedId sourceSnapshotPath validatorSnapshotPath sourceTerminationReason : Option PyStr)
  sourceCommandOutput : Option CommandOutput
  others : List (String × Wire)

/-- The directory: one document for each workload id. -/
abbrev Ledger := Table (α := Entry) fun entry => entry.workloadId

/-- One item of the `extra` of a transition. No caller passes a field that the transition itself
writes, such as the state or the version. -/
inductive Extra where
  | containerId (id : PyStr)
  | lastActivityAt (at_ : PyStr)
  | cleanupTargetState (target : Option State)
  | cleanupFinishedAt (at_ : Option PyStr)
  | cleanupExitStatus (status : Option ℤ)
  | cleanupEscalated
  | sourceSeedStatus (status : SeedStatus)
  | sourceSeedId (id : PyStr)
  | sourceSnapshotPath (path : Option PyStr)
  | validatorSnapshotPath (path : Option PyStr)
  | sourceTerminationReason (reason : PyStr)
  | sourceCommandOutput (output : CommandOutput)
  | other (key : String) (value : Wire)

variable (entry : Entry)

/-- `entry[key] = value`. -/
def Entry.set : Extra → Entry
  | .containerId id => { entry with containerId := some id }
  | .lastActivityAt at_ => { entry with lastActivityAt := some at_ }
  | .cleanupTargetState target => { entry with cleanupTargetState := target }
  | .cleanupFinishedAt at_ => { entry with cleanupFinishedAt := at_ }
  | .cleanupExitStatus status => { entry with cleanupExitStatus := status }
  | .cleanupEscalated => { entry with cleanupEscalated := true }
  | .sourceSeedStatus status => { entry with sourceSeedStatus := some status }
  | .sourceSeedId id => { entry with sourceSeedId := some id }
  | .sourceSnapshotPath path => { entry with sourceSnapshotPath := path }
  | .validatorSnapshotPath path => { entry with validatorSnapshotPath := path }
  | .sourceTerminationReason reason => { entry with sourceTerminationReason := some reason }
  | .sourceCommandOutput output => { entry with sourceCommandOutput := some output }
  | .other key value => { entry with others := entry.others ++ [(key, value)] }

/-- What a transition writes besides the state: its keyword arguments. -/
structure Change where
  at_ : PyStr
  receipt : Option ReceiptKind := none
  exitStatus : Option ℤ := none
  startedAt : Option PyStr := none
  finishedAt : Option PyStr := none
  extra : List Extra := []

/-- The entry that a transition writes. -/
def Entry.transitioned (state : State) (change : Change) : Entry :=
  change.extra.foldl Entry.set { entry with
    state
    version := entry.version + 1
    updatedAt := change.at_
    exitStatus := change.exitStatus <|> entry.exitStatus
    startedAt := change.startedAt <|> entry.startedAt
    finishedAt := change.finishedAt <|> entry.finishedAt
    receipts := entry.receipts ++ change.receipt.toList }

/-! ### Methods -/

/-- What a transition requires of the entry that it finds. -/
structure Expected where
  states : Option (List State) := none
  version : Option ℕ := none

/-- `f"{sorted(expect_states)}"`. -/
def expectedText (states : List State) : PyStr :=
  let names := (states.map State.name).insertionSort fun a b => !Str.isLess b a
  "[" ++ List.intercalate ", " (names.map fun name => PyStr.of s!"'{name}'") ++
    "]"

variable (ledger : Ledger) (workloadId : Id)

def transition (state : State) (change : Change)
    (expected : Expected) : Except LedgerError (Entry × Ledger) :=
  match ledger.find? workloadId with
  | none => .error ⟨"workload " ++ workloadId.val ++ " has no ledger entry"⟩
  | some entry => do
    raiseIf (∃ states ∈ expected.states, entry.state ∉ states)
      ⟨"workload " ++ workloadId.val ++ PyStr.of s!" is {entry.state.name}; " ++
        "expected one of " ++ expectedText (expected.states.getD [])⟩
    raiseIf (∃ version ∈ expected.version, entry.version ≠ version)
      ⟨"workload " ++ workloadId.val ++ PyStr.of s!" is version {entry.version}; " ++
        PyStr.of s!"expected version {expected.version.getD 0}"⟩
    let entry := entry.transitioned state change
    return (entry, ledger.put entry)

/-- The entries that count against the capacity. -/
def activeEntries : List Entry :=
  ledger.rows.filter fun entry => !entry.state.isTerminal

/-- The number of active entries of a grant. -/
def activeOfGrant (grantId : PyStr) : ℕ :=
  ((activeEntries ledger).filter fun entry => entry.grantId = grantId).length

/-- `max_active` and `max_per_grant`. -/
structure Limits where
  (maxActive maxPerGrant : ℕ)

/-- The two capacity checks of a reservation. -/
def checkCapacity (limits : Limits) (grantId : PyStr) : Except LedgerError Unit := do
  raiseIf (limits.maxActive ≤ (activeEntries ledger).length)
    ⟨"daemon workload capacity is exhausted"⟩
  raiseIf (limits.maxPerGrant ≤ activeOfGrant ledger grantId)
    ⟨"the grant's active workload budget is exhausted"⟩

/-- The grant under which a workload is reserved. -/
structure GrantBinding where
  grantId : PyStr
  grantDigest : Option Digest
  grantEpoch : ℤ

variable (spec : Spec) (at_ : PyStr) (grant : GrantBinding)

def reservedEntry : Entry where
  workloadId := spec.workloadId
  spec
  specDigest := spec.digest
  containerId := none
  grantId := grant.grantId
  grantDigest := grant.grantDigest
  grantEpoch := grant.grantEpoch
  state := .reserved
  version := 1
  createdAt := at_
  updatedAt := at_
  startedAt := none
  finishedAt := none
  exitStatus := none
  receipts := []
  lastActivityAt := none
  cleanupTargetState := none
  cleanupFinishedAt := none
  cleanupExitStatus := none
  cleanupEscalated := false
  sourceSeedStatus := none
  sourceSeedId := none
  sourceSnapshotPath := none
  validatorSnapshotPath := none
  sourceTerminationReason := none
  sourceCommandOutput := none
  others := []

def reserve (limits : Limits) : Except LedgerError (Entry × Ledger) := do
  raiseIf (ledger.contains spec.workloadId)
    ⟨"workload " ++ spec.workloadId.val ++ " already has a ledger entry"⟩
  checkCapacity ledger limits grant.grantId
  let entry := reservedEntry spec at_ grant
  return (entry, ledger.put entry)

/-- The entry of a workspace that is reserved again. -/
def Entry.recovered (grantEpoch : ℤ) : Entry :=
  { entry with
    state := .reserved
    version := entry.version + 1
    updatedAt := at_
    startedAt := none
    finishedAt := none
    exitStatus := none
    containerId := none
    grantEpoch
    receipts := entry.receipts ++ [.workspaceRecoveryReserved] }

def reserveWorkspaceRecovery (limits : Limits) : Except LedgerError (Entry × Ledger) :=
  let workspace := "workspace " ++ spec.workloadId.val
  match ledger.find? spec.workloadId with
  | none => .error ⟨workspace ++ " has no recovery ledger entry"⟩
  | some entry => do
    raiseIf (entry.spec.isWorkspace = false ∨ spec.isWorkspace = false)
      ⟨"workload " ++ spec.workloadId.val ++ " is not a recoverable workspace"⟩
    raiseIf (entry.state ∉ [State.removed, .interrupted])
      ⟨workspace ++ PyStr.of s!" is {entry.state.name}; " ++
        "recovery requires removed or interrupted"⟩
    raiseIf (entry.specDigest ≠ spec.digest)
      ⟨workspace ++ " recovery spec does not match its sealed ledger"⟩
    raiseIf (entry.grantId ≠ grant.grantId ∨ entry.grantDigest ≠ grant.grantDigest)
      ⟨workspace ++ " recovery grant does not match its owner"⟩
    checkCapacity ledger limits grant.grantId
    let entry := entry.recovered at_ grant.grantEpoch
    return (entry, ledger.put entry)

def finalizeReserved (at_ containerId : PyStr)
    (expectVersion : Option ℕ) (extra : List Extra) : Except LedgerError (Entry × Ledger) :=
  transition ledger workloadId .created { at_, extra := extra ++ [.containerId containerId] }
    { states := some [.reserved], version := expectVersion }

def abortReserved (receipt : ReceiptKind) : Except LedgerError (Entry × Ledger) :=
  transition ledger workloadId .failed { at_, receipt := some receipt, finishedAt := some at_ }
    { states := some [.reserved] }

/-- `_transition_snapshot` of the daemon: a transition from the exact entry that was read. -/
def transitionSnapshot (entry : Entry) (state : State) (change : Change) :
    Except LedgerError (Entry × Ledger) :=
  transition ledger entry.workloadId state change
    { states := some [entry.state], version := some entry.version }

/-! ### Inspections -/

structure Labels where
  (managed workload kind : Option PyStr)

/-- What an inspection of a workload's container reports. `present` is `none` if it failed. -/
structure Info where
  (present running : Option Bool)
  containerId : Option PyStr
  labels : Option Labels
  imageDigest : Option PyStr
  exitStatus : Option ℤ
  (workspaceImageVerified rootless : Bool)
  (user usernsMode : Option PyStr)

def developmentSeedIdentityError (info : Info) : Option String :=
  match spec.sourceSeed.bind SourceSeed.helperPolicy with
  | none => none
  | some policy =>
    if policy = .signedDevelopment ∧ info.workspaceImageVerified = false then
      some "signed workspace base authority was not verified"
    else if info.rootless = false ∨ info.user ≠ some (PyStr.of "10001:10001") ∨
        info.usernsMode ≠ some (PyStr.of "host") then
      some "development seed workload user or rootless namespace differs"
    else none

def labelsError (labels : Labels) (workloadId : Id) (kind : Kind) : Option String :=
  if labels.managed ≠ some (PyStr.of "true") then some "container lacks the managed label"
  else if labels.workload ≠ some workloadId.val then some "container workload label does not match"
  else if labels.kind ≠ some (PyStr.of kind.name) then some "container kind label does not match"
  else none

/-- `_container_identity_error`, which the ledger and the daemon share. -/
def containerIdentityError (info : Info) : Option String :=
  match developmentSeedIdentityError entry.spec info with
  | some error => some error
  | none =>
    match info.containerId with
    | none => some "observed container ID is unavailable"
    | some containerId =>
      if containerId = [] then some "observed container ID is unavailable"
      else if entry.containerId.any fun expected => containerId ≠ expected then
        some "container ID does not match the durable ledger identity"
      else
        match info.labels with
        | none => some "container has no label mapping"
        | some labels =>
          match labelsError labels entry.workloadId entry.spec.kind with
          | some error => some error
          | none =>
            if info.imageDigest ≠ some entry.spec.imageDigest then
              some "container image digest does not match the sealed spec"
            else none

end StatePort.Daemon
