import StatePort.Daemon.Host

/-!
# Restart reconciliation

`reconcile_on_boot` of `packages/execution-host/src/execution_host/ledger.py`. It runs before the
daemon accepts work, so nobody else writes the ledger meanwhile, and its transitions expect nothing
of the entries that they find.
-/

namespace StatePort.Daemon

/-- What the report of a restart says of a workload. -/
inductive BootOutcome where
  | untouched
  | interrupted
  | adopted
  | orphanRemoved
  | failed (error : PyStr)

def Failure.text : Failure → PyStr
  | .refusal _ detail => detail
  | .ledger error => error.message
  | .engine message => message
  | .raised error => error.message

/-- `except Exception`: the failure becomes an item of the report. -/
def reported (x : Run BootOutcome) : Run BootOutcome := do
  match ← Effect.attempt some x with
  | .ok outcome => return outcome
  | .error failure => return .failed (failure.text.take 300)

section

variable (host : Host)

/-- A transition of the restart, which expects nothing. -/
def bootTransition (entry : Entry) (state : State) (change : Change) : Run Entry :=
  write fun ledger => transition ledger entry.workloadId state change {}

variable (at_ : PyStr) (entry : Entry)

/-- A workspace whose source seed is not complete; `none` if reconciliation goes on. -/
def reconcileSeed : Run (Option BootOutcome) :=
  match entry.sourceSeedStatus with
  | some .started | some .failed =>
    return some (.failed "incomplete workspace source seed retained; operator review required")
  | some .complete => do
    match ← Effect.attempt some (askEngine fun world =>
        host.sourceSeed world .reconcile entry.spec) with
    | .ok _ => return none
    | .error failure => return some (.failed (failure.text.take 300))
  | _ => do
    let outcome ← reported do
      let info ← inspect host entry.workloadId
      if info.present ≠ some false then
        raiseLedger "unstarted seed unexpectedly has a container; retained"
      else do
        _ ← bootTransition entry .interrupted
          { at_, receipt := some .workspaceSeedAdmissionInterrupted,
            extra := [.sourceSeedStatus .notStarted] }
        return .interrupted
    return some outcome

/-- Stop the container of an inspection, if it runs. -/
def stopOwned (info : Info) : Run Entry :=
  if info.running = some true then do
    let entry ← markSourceTermination host entry "daemon-restart"
    act host .stop entry.workloadId (info.containerId.getD [])
    return entry
  else return entry

/-- Stop and remove a container that an inspection found to be the entry's. -/
def removeOwned (info : Info) (reason : PyStr) : Run Unit := do
  let entry ← stopOwned host entry info
  _ ← captureSourceCommandOutput host entry reason
  act host .remove entry.workloadId (info.containerId.getD [])

/-- A terminal entry whose container may still be there. -/
def reconcileTerminal : Run BootOutcome :=
  if entry.state = .removed then return .untouched
  else reported do
    let info ← inspect host entry.workloadId
    if info.present = some true then
      match containerIdentityError entry info with
      | some error => return .failed error
      | none => do
        removeOwned host entry info (PyStr.of entry.state.name)
        return .orphanRemoved
    else return .untouched

def adoptedState (info : Info) : State := if info.running = some true then .running else .stopped

/-- A workspace survives the restart in the state in which its container is found. -/
def reconcileWorkspace : Run BootOutcome := do
  match ← Effect.attempt some (inspect host entry.workloadId) with
  | .error failure => return .failed (failure.text.take 300)
  | .ok info =>
    if info.present = some true then
      match containerIdentityError entry info with
      | some error => return .failed error
      | none => do
        match ← Effect.attempt some (askEngine fun world =>
            host.verifyWorkspaceVolumes world entry.spec) with
        | .error failure =>
          return .failed ("workspace volume identity mismatch: " ++ failure.text.take 240)
        | .ok _ => do
          _ ← bootTransition entry (adoptedState info)
            { at_, receipt := some .restartAdopt,
              startedAt := if info.running = some true then entry.startedAt else none }
          return .adopted
    else do
      _ ← bootTransition entry .interrupted { at_, receipt := some .restartRecovery }
      return .interrupted

/-- Any other workload is terminated. -/
def reconcileEphemeral : Run BootOutcome :=
  reported do
    let info ← inspect host entry.workloadId
    match if info.present = some true then containerIdentityError entry info else none with
    | some error => return .failed error
    | none => do
      if info.present = some true then removeOwned host entry info "exited"
      _ ← bootTransition entry .interrupted { at_, receipt := some .restartRecovery }
      return .interrupted

/-- An entry whose source seed, if it has one, is complete. -/
def reconcileSettled : Run BootOutcome :=
  if entry.state.isTerminal then reconcileTerminal host entry
  else if entry.spec.isWorkspace then reconcileWorkspace host at_ entry
  else reconcileEphemeral host at_ entry

/-- What the loop of `reconcile_on_boot` does for one entry. -/
def reconcileEntry : Run BootOutcome :=
  if entry.spec.isWorkspace ∧ entry.spec.sourceSeed.isSome then do
    match ← reconcileSeed host at_ entry with
    | some outcome => return outcome
    | none => reconcileSettled host at_ entry
  else reconcileSettled host at_ entry

/-- The loop of `reconcile_on_boot`. -/
def reconcileEntries (at_ : PyStr) : List Entry → Run (List (Id × BootOutcome))
  | [] => return []
  | entry :: entries => do
    let outcome ← reconcileEntry host at_ entry
    let outcomes ← reconcileEntries at_ entries
    return (entry.workloadId, outcome) :: outcomes

/-- `ledger.all()`, in the order of the file names. -/
def allEntries (ledger : Ledger) : List Entry :=
  ledger.rows.insertionSort fun a b =>
    !PyStr.isLess (b.workloadId.val ++ ".json") (a.workloadId.val ++ ".json")

/-- The workload that an enumerated container is labelled with, or what its labels lack. -/
def managedWorkload (item : Managed) : Except String PyStr :=
  match item.labels with
  | none => .error "managed container has no label mapping"
  | some labels =>
    match labels.workload, labels.kind with
    | some workloadId, some kind =>
      if labels.managed ≠ some (PyStr.of "true") ∨ workloadId = [] ∨ kind = [] ∨
          item.workloadId ≠ some workloadId then
        .error "container enumeration lacks exact managed workload/kind labels"
      else .ok workloadId
    | _, _ => .error "container enumeration lacks exact managed workload/kind labels"

/-- What the enumeration itself contributes to the failures, and the ids that it names. -/
def enumerate : List Managed → List PyStr → List PyStr × List PyStr
  | [], seen => ([], seen)
  | item :: items, seen =>
    match managedWorkload item with
    | .error error =>
      let rest := enumerate items seen
      (PyStr.of error :: rest.1, rest.2)
    | .ok workloadId =>
      if workloadId ∈ seen then
        let rest := enumerate items seen
        ("duplicate managed workload identity" :: rest.1, rest.2)
      else enumerate items (workloadId :: seen)

structure BootReport where
  outcomes : List (Id × BootOutcome)
  /-- The failures that belong to no entry of the ledger. -/
  failures : List PyStr

def reconcileOnBoot : Run BootReport := do
  let managed ← askEngine host.listManaged
  let world ← Effect.state
  -- Whatever a restart writes has the time of the restart.
  let outcomes ← reconcileEntries { host with clock := fun _ => at_ } at_ (allEntries world.ledger)
  let world ← Effect.state
  let enumerated := enumerate managed []
  let unreserved := enumerated.2.filter fun workloadId =>
    !world.ledger.rows.any fun entry => entry.workloadId.val = workloadId
  return {
    outcomes
    -- A managed container without an entry is retained, whatever its labels say.
    failures := enumerated.1 ++ unreserved.map fun _ =>
      PyStr.of "managed container has no reservation in this ledger; " ++
        PyStr.of "retained for operator reconciliation" }

end

/-! ### Histories of the ledger -/

inductive LedgerEvent where
  | reserve (spec : Spec) (at_ : PyStr) (grant : GrantBinding)
  | reserveWorkspaceRecovery (spec : Spec) (at_ : PyStr) (grant : GrantBinding)
  | finalizeReserved (workloadId : Id) (at_ containerId : PyStr) (expectVersion : Option ℕ)
      (extra : List Extra)
  | abortReserved (workloadId : Id) (at_ : PyStr) (receipt : ReceiptKind)
  | transition (workloadId : Id) (state : State) (change : Change) (expected : Expected)
  /-- A restart that reconciles, against any surroundings; the daemon is killed before its last
  `lost` actions. -/
  | reconcileOnBoot (host : Host) (at_ : PyStr) (lost : ℕ)

/-- The ledger after an event, if all reservations use the same limits. -/
def nextLedger (limits : Limits) (ledger : Ledger) : LedgerEvent → Ledger
  | .reserve spec at_ grant => afterTransaction ledger (reserve ledger spec at_ grant limits)
  | .reserveWorkspaceRecovery spec at_ grant =>
    afterTransaction ledger (reserveWorkspaceRecovery ledger spec at_ grant limits)
  | .finalizeReserved workloadId at_ containerId expectVersion extra =>
    afterTransaction ledger (finalizeReserved ledger workloadId at_ containerId expectVersion extra)
  | .abortReserved workloadId at_ receipt =>
    afterTransaction ledger (abortReserved ledger workloadId at_ receipt)
  | .transition workloadId state change expected =>
    afterTransaction ledger (transition ledger workloadId state change expected)
  | .reconcileOnBoot host at_ lost =>
    replay ledger ((reconcileOnBoot host at_ ⟨ledger, [], 0⟩).2.trace.drop lost)

/-- A transition does not move an entry from a terminal to a non-terminal state. -/
def LedgerEvent.isForward (ledger : Ledger) : LedgerEvent → Prop
  | .transition workloadId state _ _ => ∀ entry, ledger.find? workloadId = some entry →
      entry.state.isTerminal → state.isTerminal
  | _ => True

end StatePort.Daemon
