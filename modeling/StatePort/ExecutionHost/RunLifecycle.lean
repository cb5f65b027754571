import StatePort.ExecutionHost.RunLease

/-!
# The lifecycle of agent runs

`packages/execution-host/src/execution_host/agent_run_lifecycle.py`. Any number of
`AgentRunLifecycle` objects, in any number of processes, work on one state directory: its claim
files, one for each lease, and its workspace locks, which the operating system grants exclusively and
takes back when the object that holds them goes away (`Operation.crash`). A lifecycle object is
known by a number. An operation returns the state it leaves, the lease it has written and its result
(`Outcome`); `Write` says how the write of a claim ends.
-/

namespace StatePort.ExecutionHost

open Authority (isId isDigest)

/-! ### Tickets and state -/

structure RunTicket where
  (runId workspaceId executorKind imageDigest grantId authorityGrantDigest : String)
  startedAt : ℤ
  claimPath : String
  leaseExpiresAt : ℤ
  lease : RunLease

/-- A workspace lock that is held. `owner` is the lifecycle object in whose `_lock_files` it is, and
`claimPath` its key there; `runId` is the run for which `begin_run` took it. -/
structure Lock where
  workspaceId : String
  owner : ℕ
  (claimPath runId : String)

/-- A state directory, with the authority and the locks that are held. -/
structure Lifecycle where
  authority : RunAuthority
  claims : Table RunLease.claimPath
  locks : Table Lock.workspaceId

/-- The arguments of `AgentRunLifecycle(...)`. -/
structure LifecycleConfig where
  sha256 : List Char → String
  leasesDir : String
  leaseDurationSeconds : ℕ
  duration_pos : 0 < leaseDurationSeconds

namespace LifecycleConfig

variable (cfg : LifecycleConfig)

/-- `timedelta(seconds=self._lease_duration)`. -/
def leaseDuration : ℤ := cfg.leaseDurationSeconds * 1000000

def claimPath (leaseId : String) : String := cfg.leasesDir ++ "/" ++ leaseId ++ ".json"

end LifecycleConfig

/-- How `_atomic_write_json` ends: the file is replaced, or it is not, or an exception is raised after
it has been replaced. -/
inductive Write where
  | done
  | failed
  | raised
deriving DecidableEq

/-- What an operation does: the state it leaves, the lease that it has written, its result. -/
structure Outcome (α : Type) where
  state : Lifecycle
  written : Option RunLease
  result : Except RunError α

/-- `_require_id`. -/
def requireRunId (value name : String) : Except RunError String := do
  raiseIf (value = "" ∨ 128 < value.toList.length) (.refused (name ++ " is not a valid identifier"))
  return value

/-- The part of a run spec that `begin_run` reads. -/
structure RunSpec where
  (runId workspaceId imageDigest authorityGrantDigest : String)

namespace Lifecycle

/-- An empty state directory. -/
def new (authority : RunAuthority) : Lifecycle := ⟨authority, Table.empty _, Table.empty _⟩

variable (cfg : LifecycleConfig) (s : Lifecycle)

/-! ### Files and locks -/

/-- An operation that ends without having changed anything. -/
def stay {α : Type} (result : Except RunError α) : Outcome α := ⟨s, none, result⟩

def persistLease (lease : RunLease) : Lifecycle := { s with claims := s.claims.put lease }

variable (t : RunTicket)

def readLease : Except RunError RunLease :=
  match s.claims.find? t.claimPath with
  | none => .error (.lifecycle "lease claim is missing")
  | some lease => .ok lease

variable (i : ℕ)

/-- `_release_workspace_lock_path`. -/
def releaseLock (claimPath : String) : Lifecycle :=
  { s with locks := s.locks.filter fun lock => !(lock.owner = i && lock.claimPath = claimPath) }

/-- `_acquire_workspace_lock`, when the lock is free. A lock that `_lock_files` has under the same
claim path is closed when the entry is replaced. -/
def acquireLock (workspaceId claimPath runId : String) : Lifecycle :=
  { s with locks := (s.releaseLock i claimPath).locks.insert ⟨workspaceId, i, claimPath, runId⟩ }

variable (workspaceId : String)

/-- `_workspace_lock_is_held`. -/
def lockIsHeld : Bool := s.locks.contains workspaceId

/-- `try: self._persist_lease(lease) finally: self._release_workspace_lock(ticket)`. -/
def settle {α : Type} (i : ℕ) (t : RunTicket) (lease : RunLease) (write : Write)
    (result : Except RunError α) : Outcome α :=
  match write with
  | .done => ⟨(s.persistLease lease).releaseLock i t.claimPath, some lease, result⟩
  | .failed => ⟨s.releaseLock i t.claimPath, none, .error .os⟩
  | .raised => ⟨(s.persistLease lease).releaseLock i t.claimPath, some lease, .error .os⟩

/-! ### Which run is active -/

/-- The claims in the order of `sorted(self._leases_dir.glob("lease.*.json"))`. -/
def sortedClaims : List RunLease :=
  s.claims.rows.insertionSort fun a b => !Str.isLess b.claimPath a.claimPath

/-- The first claim of the workspace whose lease is held. -/
def firstHeld : Option RunLease :=
  s.sortedClaims.find? fun lease => lease.workspaceId = workspaceId && lease.state.isHeld

def activeFor : Except RunError (Option String) := do
  let workspaceId ← requireRunId workspaceId "workspaceId"
  match s.firstHeld workspaceId with
  | none => return none
  | some lease => if s.lockIsHeld workspaceId then return some lease.runId else return none

/-! ### Checks -/

def assertGranted : Except RunError Unit :=
  match s.authority.assertLive cfg.sha256 t.grantId ⟨some t.imageDigest, t.authorityGrantDigest⟩ with
  | .ok _ => .ok ()
  | .error (.error message) => .error (.refused message)
  | .error .effect => .error .os

def isExpired (clock : ℤ) : Bool := t.leaseExpiresAt ≤ clock

def assertLive (clock : ℤ) : Except RunError Unit := do
  s.assertGranted cfg t
  raiseIf (isExpired t clock) (.refused "run_lease_expired")
  let lease ← s.readLease t
  raiseIf (lease.state.isHeld = false) (.refused ("run_lease_" ++ lease.state.name))

/-! ### Operations -/

variable (spec : RunSpec) (executorKind claimedImage host : String)

/-- The grant under which `begin_run` starts a run. -/
def grantFor : Except RunError RunGrant := do
  _ ← requireRunId spec.runId "runId"
  _ ← requireRunId spec.workspaceId "workspaceId"
  match s.authority.authorize cfg.sha256 executorKind claimedImage host
    ⟨some spec.imageDigest, spec.authorityGrantDigest⟩ with
  | .ok grant => .ok grant
  | .error (.error message) => .error (.refused message)
  | .error .effect => .error .os

/-- The lease that `begin_run` creates; a record that `RunLease` refuses cannot be persisted. -/
def newLease (executorKind leaseId : String) (clock : ℤ) : Except RunError RunLease := do
  let executorKind ← requireRunId executorKind "executor_kind"
  if h : isId leaseId ∧ isId spec.runId ∧ isId spec.workspaceId ∧
      isId executorKind ∧ isDigest spec.imageDigest ∧
      isAbsoluteRuntimePath (cfg.claimPath leaseId) then
    return {
      leaseId := leaseId
      runId := spec.runId
      workspaceId := spec.workspaceId
      executorKind := executorKind
      imageDigest := spec.imageDigest
      claimPath := cfg.claimPath leaseId
      startedAt := clock
      expiresAt := clock + cfg.leaseDuration
      state := .granted
      leaseId_valid := h.1
      runId_valid := h.2.1
      workspaceId_valid := h.2.2.1
      executorKind_valid := h.2.2.2.1
      imageDigest_valid := h.2.2.2.2.1
      claimPath_valid := h.2.2.2.2.2 }
  else .error (.refused "run_lease_persist_failed")

/-- The ticket that `begin_run` returns. -/
def newTicket (grant : RunGrant) (lease : RunLease) : RunTicket where
  runId := spec.runId
  workspaceId := spec.workspaceId
  executorKind := executorKind
  imageDigest := spec.imageDigest
  grantId := grant.grantId
  authorityGrantDigest := spec.authorityGrantDigest
  startedAt := lease.startedAt
  claimPath := lease.claimPath
  leaseExpiresAt := lease.expiresAt
  lease := lease

/-- `begin_run`, with the token that names the lease. -/
def beginRun (clock : ℤ) (token : String) (write : Write) : Outcome RunTicket :=
  match s.grantFor cfg spec executorKind claimedImage host with
  | .error e => s.stay (.error e)
  | .ok grant =>
    let leaseId := "lease." ++ token
    let refused := s.releaseLock i (cfg.claimPath leaseId)
    if s.lockIsHeld spec.workspaceId then refused.stay (.error (.refused "run_single_in_flight"))
    else match newLease cfg spec executorKind leaseId clock with
      | .error e => refused.stay (.error e)
      | .ok lease =>
        match write with
        | .done =>
          ⟨(s.acquireLock i spec.workspaceId lease.claimPath spec.runId).persistLease lease,
            some lease, .ok (newTicket spec executorKind grant lease)⟩
        | .failed => refused.stay (.error (.refused "run_lease_persist_failed"))
        | .raised => ⟨refused.persistLease lease, some lease,
            .error (.refused "run_lease_persist_failed")⟩

/-- `_fail_expired`, and the refusal that its callers raise after it. -/
def failExpired {α : Type} (i : ℕ) (t : RunTicket) (write : Write) : Outcome α :=
  match s.readLease t with
  | .error e => s.stay (.error e)
  | .ok current =>
    match current.expire with
    | .error e => s.stay (.error e)
    | .ok expired => s.settle i t expired write (.error (.refused "run_lease_expired"))

/-- `renew_lease`, for a ticket that has not expired. -/
def renewCurrent (clock : ℤ) (write : Write) : Outcome RunTicket :=
  match s.readLease t with
  | .error e => s.stay (.error e)
  | .ok current =>
    if current.state.isTerminal then
      s.stay (.error (.refused ("run_lease_" ++ current.state.name)))
    else match { current with expiresAt := clock + cfg.leaseDuration }.renew with
      | .error e => s.stay (.error e)
      | .ok lease =>
        match write with
        | .done => ⟨s.persistLease lease, some lease,
            .ok { t with leaseExpiresAt := clock + cfg.leaseDuration, lease := lease }⟩
        | .failed => s.stay (.error .os)
        | .raised => ⟨s.persistLease lease, some lease, .error .os⟩

variable (i : ℕ) (t : RunTicket)

def renewLease (clock : ℤ) (write : Write) : Outcome RunTicket :=
  match s.assertGranted cfg t with
  | .error e => s.stay (.error e)
  | .ok () =>
    if isExpired t clock then s.failExpired i t write
    else s.renewCurrent cfg t clock write

def failIfExpired (clock : ℤ) (write : Write) : Outcome RunTicket :=
  if isExpired t clock then s.failExpired i t write else s.stay (.ok t)

def revokeRun (write : Write) : Outcome RunTicket :=
  match s.readLease t with
  | .error e => s.stay (.error e)
  | .ok current => s.settle i t current.forceRelease write (.ok t)

def release (write : Write) : Outcome RunTicket :=
  match s.readLease t with
  | .error e => s.stay (.error e)
  | .ok current =>
    match current.release with
    | .error e => s.stay (.error e)
    | .ok released => s.settle i t released write (.ok t)

def cancel (write : Write) : Outcome RunTicket :=
  match s.readLease t with
  | .error e => s.stay (.error e)
  | .ok current =>
    if current.state.isTerminal then (s.releaseLock i t.claimPath).stay (.ok t)
    else match current.cancel with
      | .error e => s.stay (.error e)
      | .ok released => s.settle i t released write (.ok t)

/-- What `invoke` raises for an exception of its checks. -/
def failedClosed : RunError → RunError
  | .lease _ => .adapterUnavailable "run adapter failed closed: RunLeaseError"
  | .os => .adapterUnavailable "run adapter failed closed: OSError"
  | e => e

/-- `invoke`, until the adapter's `run` is called: the result is `ok` exactly if it is reached. -/
def invoke (clock : ℤ) (typed : Bool) (write : Write) : Outcome Unit :=
  match s.assertGranted cfg t with
  | .error e => s.stay (.error (failedClosed e))
  | .ok () =>
    let checked := s.failIfExpired i t clock write
    match checked.result with
    | .error e => { checked with result := .error (failedClosed e) }
    | .ok _ =>
      if typed then s.stay (.ok ()) else s.stay (.error (.refused "run_adapter_is_not_typed"))

end Lifecycle

/-! ### Runs -/

/-- A call of a lifecycle object or of the authority, or the end of the process of an object. -/
inductive Operation where
  | authority (call : Call)
  | beginRun (i : ℕ) (spec : RunSpec) (executorKind claimedImage host : String) (clock : ℤ)
      (token : String) (write : Write)
  | renewLease (i : ℕ) (ticket : RunTicket) (clock : ℤ) (write : Write)
  | cancel (i : ℕ) (ticket : RunTicket) (write : Write)
  | revokeRun (i : ℕ) (ticket : RunTicket) (write : Write)
  | release (i : ℕ) (ticket : RunTicket) (write : Write)
  | failIfExpired (i : ℕ) (ticket : RunTicket) (clock : ℤ) (write : Write)
  | invoke (i : ℕ) (ticket : RunTicket) (clock : ℤ) (typed : Bool) (write : Write)
  | crash (i : ℕ)

namespace Outcome

/-- An outcome whose value does not matter. -/
def discard {α : Type} (o : Outcome α) : Outcome Unit :=
  ⟨o.state, o.written, o.result.map fun _ => ()⟩

end Outcome

variable (cfg : LifecycleConfig)

def perform (s : Lifecycle) : Operation → Outcome Unit
  | .authority call =>
    Lifecycle.stay { s with authority := nextAuthority cfg.sha256 s.authority call } (.ok ())
  | .beginRun i spec kind image host clock token write =>
    (s.beginRun cfg i spec kind image host clock token write).discard
  | .renewLease i t clock write => (s.renewLease cfg i t clock write).discard
  | .cancel i t write => (s.cancel i t write).discard
  | .revokeRun i t write => (s.revokeRun i t write).discard
  | .release i t write => (s.release i t write).discard
  | .failIfExpired i t clock write => (s.failIfExpired i t clock write).discard
  | .invoke i t clock typed write => s.invoke cfg i t clock typed write
  | .crash i => Lifecycle.stay { s with locks := s.locks.filter fun lock => lock.owner ≠ i } (.ok ())

def nextLifecycle (s : Lifecycle) (op : Operation) : Lifecycle := (perform cfg s op).state

end StatePort.ExecutionHost
