import StatePort.Algorithm.Run
import StatePort.PortableExecution.Recovery

/-!
# The operations of the service

`prepare`, `approve_run`, `cancel`, `execute`, `approve_proposal` and `reject_proposal` of
`packages/portable-execution/src/stateport_portable_execution/runtime.py`, and the service as a
machine: `perform` takes an operation and the state before it to the state after it. A crash stops
the service, and a start that ends normally makes it run again. `edit` is a change of an instance
by its owner.

The calls here follow one another; `Interleaving` has `execute` and `cancel` side by side.
-/

namespace StatePort.PortableExecution

open Effect (lift raise attempt state)

variable {δ : Type} [DecidableEq δ] (digests : Digests δ)

/-- The record that a call names, with its binding. -/
def requireRun (world : World δ) (runId : String) (binding : Binding) :
    Except Raised (Run (RunData δ)) :=
  match world.runs.get runId with
  | none => .error .other
  | some run => do
    raiseIf ((run.requireBinding binding).isOk = false) .other
    return run

/-! ### `prepare` -/

inductive PrepareStep where
  | checks | create | plan | block | recordResult | awaitApproval

/-- A call of `prepare`; `runId` is drawn by the service. -/
structure PrepareCall where
  (instanceId runId : String)
  identities : Identities
  isProposeOnly : Bool
  git : Option String
  /-- The negotiation accepts the run and the engine is available. -/
  isAccepted : Bool
  script : PrepareStep → Fault

/-- `self.store.create(record)`. -/
def createRun (call : PrepareCall) (world : World δ) : Except Raised (World δ) :=
  let before := digests.snapshot (snapshotFiles (world.tree call.instanceId))
  let data : RunData δ :=
    { identities := call.identities
      isProposeOnly := call.isProposeOnly
      canonicalStateBefore := before
      canonicalStateAfter := none
      baseGit := call.git
      proposal := none
      proposalPaths := []
      proposalApproval := none
      applyTransaction := none
      rollback := none
      closureReceipt := false }
  match world.runs.create call.runId call.instanceId .requested data with
  | none => .error .other
  | some runs => .ok { world with runs := runs }

/-- A run that no engine takes. -/
def blockRun (call : PrepareCall) : Job δ Unit := do
  act (call.script .block) fun world => callStore world call.runId fun run =>
    run.transition .failed .any ⟨some .blockedCapability, none, id⟩
  _ ← attempt Raised.caught (storeUpdate (call.script .recordResult) call.runId id)
  raise (.portableExecutionError "capability_negotiation_failed")

def prepare (call : PrepareCall) : Job δ Unit := do
  let world ← state
  act (call.script .checks) .ok
  lift (portableIf (world.requiresOperatorRecovery call.instanceId)
    "instance remains quarantined pending explicit operator recovery")
  lift (portableIf (call.isProposeOnly ∧ call.git = none)
    "write-capable runs require an exact instance Git HEAD")
  act (call.script .create) (createRun digests call)
  storeTransition (call.script .plan) call.runId .planned .any id
  if call.isAccepted then
    storeTransition (call.script .awaitApproval) call.runId .awaitingApproval .any id
  else blockRun call

/-! ### Approvals and cancellation -/

/-- A call that names a run: its transition may fail, a second one where there are two, and the
update that follows a cancellation. -/
structure RunCall where
  runId : String
  binding : Binding
  (fault second last : Fault)

def approveRun (call : RunCall) : Job δ Unit := do
  let world ← state
  let run ← lift (requireRun world call.runId call.binding)
  lift (portableIf (run.status ≠ .awaitingApproval) "run is not awaiting exact approval")
  storeTransition call.fault call.runId .approved call.binding id

/-- The transitions of `cancel` when no process is attached. -/
def cancelDetached (call : RunCall) : Job δ Unit := do
  storeTransition call.fault call.runId .cancelling call.binding id
  storeTransition call.second call.runId .cancelled .any id

/-- `cancel`, when no process is attached to the run. -/
def cancel (call : RunCall) : Job δ Unit := do
  let world ← state
  let run ← lift (requireRun world call.runId call.binding)
  match run.status with
  | .cancelled => pure ()
  | .running => do
    cancelDetached call
    _ ← attempt Raised.caught (storeUpdate call.last call.runId id)
  | .cancelling => do
    _ ← attempt Raised.caught (storeUpdate call.last call.runId id)
  | .awaitingApproval | .approved | .prepared | .interrupted => do
    storeTransition call.fault call.runId .cancelled call.binding id
    _ ← attempt Raised.caught (storeUpdate call.last call.runId id)
  | _ => raise (.portableExecutionError "run cannot be cancelled")

/-- What the operator approves. -/
def approvalOf (data : RunData δ) (proposal : Proposal) : Approval :=
  { proposal := proposal
    baseGit := data.baseGit
    executor := data.identities.executor
    sourceTree := data.identities.sourceTree
    paths := data.proposalPaths }

def approveProposal (call : RunCall) : Job δ Unit := do
  let world ← state
  let run ← lift (requireRun world call.runId call.binding)
  lift (portableIf (run.status ≠ .stateChangeProposed) "run has no pending state-change proposal")
  match run.data.proposal with
  | none => raise (.portableExecutionError "pending proposal identity drifted before approval")
  | some proposal =>
    storeTransition call.fault call.runId .stateChangeApproved call.binding fun data =>
      { data with proposalApproval := some (approvalOf run.data proposal) }

def rejectProposal (call : RunCall) : Job δ Unit := do
  let world ← state
  _ ← lift (requireRun world call.runId call.binding)
  storeTransition call.fault call.runId .stateChangeRejected call.binding id
  storeLifecycle call.second call.runId .closed id

/-! ### `execute` -/

inductive ExecuteStep where
  | checks | prepare | prepared | start | workerStarted | workerFinished | markTerminated
  | recordProcess | recordResult | observe | recordEvents | recordRunResult | markCompleted
  | markValidating | markRejected | propose | noMutation | closeRun | recordBundle

/-- How a worker that produces no result ends. -/
inductive Termination where
  | timeout | cancelled | failed
deriving DecidableEq

/-- The status of a run whose worker was terminated. -/
def Termination.status : Termination → Status
  | .timeout => .timedOut
  | .cancelled => .cancelled
  | .failed => .failed

/-- How a worker ends. -/
inductive WorkerOutcome where
  /-- A result that is valid, with the proposals in it. -/
  | completed (proposals : List Proposal)
  /-- `WorkerExecutionError`, or an error that `execute` takes for a failure. -/
  | terminated (termination : Termination)
  /-- Any other exception. -/
  | raised
deriving DecidableEq

structure ExecuteCall where
  runId : String
  binding : Binding
  sourceTree : String
  isInstanceOwned : Path → Bool
  outcome : WorkerOutcome
  script : ExecuteStep → Fault

/-- The transition after a worker that produced no result; it replaces `events`. -/
def markTerminated (call : ExecuteCall) (termination : Termination) : Job δ Unit := do
  act (call.script .markTerminated) fun world => callStore world call.runId fun run =>
    run.transition termination.status .any ⟨none, some [], id⟩
  _ ← attempt Raised.caught do
    storeUpdate (call.script .recordProcess) call.runId id
    storeUpdate (call.script .recordResult) call.runId id
  raise (.portableExecutionError "worker execution terminated")

/-- A proposal that the action may make. -/
def checkProposals (call : ExecuteCall) (data : RunData δ) (proposals : List Proposal) :
    Except Raised Proposal :=
  match proposals with
  | [proposal] => do
    portableIf (data.isProposeOnly = false) "action is not permitted to propose canonical mutation"
    validateProposalAuthority call.isInstanceOwned proposal
    return proposal
  | _ => .error (.portableExecutionError "exactly one typed state-change proposal is required")

def propose (call : ExecuteCall) (data : RunData δ) (proposals : List Proposal) : Job δ Unit :=
  match checkProposals call data proposals with
  | .error e => do
    storeTransition (call.script .markRejected) call.runId .resultRejected .any id
    _ ← attempt Raised.caught (storeUpdate (call.script .recordResult) call.runId id)
    raise e
  | .ok proposal =>
    storeTransition (call.script .propose) call.runId .stateChangeProposed .any fun data =>
      { data with proposal := some proposal, proposalPaths := proposal.paths }

/-- A result without proposals closes the run. -/
def closeUnchanged (call : ExecuteCall) : Job δ Unit := do
  storeLifecycle (call.script .noMutation) call.runId .noMutation id
  storeLifecycle (call.script .closeRun) call.runId .closed id

/-- `execute` after a worker with a result; the first update replaces `events`. -/
def completeRun (call : ExecuteCall) (run : Run (RunData δ)) (proposals : List Proposal) :
    Job δ Unit := do
  act (call.script .observe) .ok
  let world ← state
  let after := digests.snapshot (snapshotFiles (world.tree run.instanceId))
  act (call.script .recordEvents) fun world => callStore world call.runId fun run =>
    run.update .any ⟨none, some [], id⟩
  storeUpdate (call.script .recordRunResult) call.runId id
  storeTransition (call.script .markCompleted) call.runId .completed .any fun data =>
    { data with canonicalStateAfter := some after }
  storeTransition (call.script .markValidating) call.runId .resultValidating .any id
  if proposals = [] then closeUnchanged call else propose call run.data proposals
  storeUpdate (call.script .recordBundle) call.runId id

def execute (call : ExecuteCall) : Job δ Unit := do
  let world ← state
  let run ← lift (requireRun world call.runId call.binding)
  lift (portableIf (run.status ≠ .approved) "run requires exact approval before execution")
  act (call.script .checks) .ok
  lift (portableIf (call.sourceTree ≠ run.data.identities.sourceTree)
    "application source tree drifted after preparation")
  storeTransition (call.script .prepare) call.runId .preparing call.binding id
  storeTransition (call.script .prepared) call.runId .prepared .any id
  storeTransition (call.script .start) call.runId .running .any id
  storeUpdate (call.script .workerStarted) call.runId id
  storeUpdate (call.script .workerFinished) call.runId id
  match call.outcome with
  | .raised => raise .other
  | .terminated termination => markTerminated call termination
  | .completed proposals => completeRun digests call run proposals

/-! ### The service -/

structure Service (δ : Type) where
  world : World δ
  isRunning : Bool

inductive Operation where
  | prepare (call : PrepareCall)
  | approveRun (call : RunCall)
  | cancel (call : RunCall)
  | execute (call : ExecuteCall)
  | approveProposal (call : RunCall)
  | rejectProposal (call : RunCall)
  | apply (call : ApplyCall)
  | edit (instanceId : String) (tree : Tree)
  | stop
  | start (restart : Restart)

def Service.call (service : Service δ) (job : Job δ Unit) : Service δ :=
  if service.isRunning then
    let (result, world) := job service.world
    ⟨world, match result with
      | .error .crash => false
      | _ => true⟩
  else service

/-- A start of the service, which fails if the recovery does. -/
def Service.start (service : Service δ) (restart : Restart) : Service δ :=
  let (result, world) := recoverInterruptedApplies digests restart service.world
  ⟨world, result.isOk⟩

def perform (service : Service δ) : Operation → Service δ
  | .prepare call => service.call (prepare digests call)
  | .approveRun call => service.call (approveRun call)
  | .cancel call => service.call (cancel call)
  | .execute call => service.call (execute digests call)
  | .approveProposal call => service.call (approveProposal call)
  | .rejectProposal call => service.call (rejectProposal call)
  | .apply call => service.call (applyProposal digests call)
  | .edit instanceId tree => { service with world := service.world.setTree instanceId tree }
  | .stop => { service with isRunning := false }
  | .start restart => service.start digests restart

/-- A service that has no runs yet. -/
def initial (trees : String → Tree) : Service δ := ⟨⟨[], trees, [], []⟩, true⟩

end StatePort.PortableExecution
