import StatePort.Algorithm.Effect
import StatePort.PortableExecution.RunStore
import StatePort.PortableExecution.Snapshot

/-!
# Applying an approved proposal

`apply_proposal`, `_rollback_apply`, `_persist_apply_snapshot` and `_discard_apply_snapshot` of
`packages/portable-execution/src/stateport_portable_execution/runtime.py`.

An apply persists a durable snapshot of the instance, enters `applying`, lets the application write
into a staging copy, restores the canonical tree from a snapshot of that copy, and seals the run:
`applied`, `POST_VALIDATED`, a bundle, `CLOSED` with a closure receipt. One handler around all of it
rolls the tree back.

Every step that touches a file or the store may fail. A `Script` says what each step of a call does:
nothing goes wrong, or an exception is raised before, during or after its effect. `crash` is the end
of the process, which no handler sees. The lease of the instance is held by the call.
-/

namespace StatePort.PortableExecution

open Effect (lift raise attempt state)

inductive Raised where
  | portableExecutionError (message : String)
  | other
  | crash
deriving DecidableEq

/-- `except Exception`. -/
def Raised.caught : Raised → Option Raised
  | .crash => none
  | e => some e

/-- `except PortableExecutionError`. -/
def Raised.portable : Raised → Option Raised
  | .portableExecutionError message => some (.portableExecutionError message)
  | _ => none

/-! ### Records -/

/-- The identities that a run was prepared with. -/
structure Identities where
  (sourceTree descriptor actionContract source executor : String)
deriving DecidableEq

/-- A state-change proposal: the paths that it writes, and the rest of it. -/
structure Proposal where
  paths : List Path
  body : String
deriving DecidableEq

/-- What the operator approved. -/
structure Approval where
  proposal : Proposal
  baseGit : Option String
  (executor sourceTree : String)
  paths : List Path
deriving DecidableEq

/-- `applyTransaction`. -/
structure Transaction (δ : Type) where
  snapshotKey : String
  (snapshotDigest beforeDigest : δ)
  baseGit : Option String
  paths : List Path
  canonicalStateAfter : Option δ
  /-- `canonicalCommitStatus == "applied"`. -/
  committed : Bool
deriving DecidableEq

inductive Rollback where
  | completed | notRequired | failed | unknown
deriving DecidableEq

def Rollback.operatorInspectionRequired : Rollback → Bool
  | .completed | .notRequired => false
  | .failed | .unknown => true

/-- The fields of a run record that the store does not read. -/
structure RunData (δ : Type) where
  identities : Identities
  /-- `mutationPolicy == "propose_only"`. -/
  isProposeOnly : Bool
  canonicalStateBefore : δ
  canonicalStateAfter : Option δ
  baseGit : Option String
  proposal : Option Proposal
  proposalPaths : List Path
  proposalApproval : Option Approval
  applyTransaction : Option (Transaction δ)
  rollback : Option Rollback
  /-- There is a closure receipt; `_validate_run_closure_receipt` accepts what the service wrote. -/
  closureReceipt : Bool
deriving DecidableEq

structure DurableSnapshot (δ : Type) where
  (key runId : String)
  digest : δ
  content : Snapshot

/-- A seal: the instance, the run and the digest that its closure recorded. -/
structure Seal (δ : Type) where
  (instanceId runId : String)
  digest : δ

/-- The runs, the instance trees and the durable snapshots. `seals` is not stored: it is the list of
runs that were closed as applied so far, oldest first. -/
structure World (δ : Type) where
  runs : RunStore (RunData δ)
  trees : String → Tree
  snapshots : List (DurableSnapshot δ)
  seals : List (Seal δ)

abbrev Job (δ α : Type) := Effect (World δ) Raised α

variable {δ : Type} [DecidableEq δ]

namespace World

variable (world : World δ) (instanceId : String)

def tree : Tree := world.trees instanceId

def setTree (tree : Tree) : World δ :=
  { world with trees := Function.update world.trees instanceId tree }

def hasSnapshot (key : String) : Bool :=
  world.snapshots.any fun snapshot => snapshot.key = key

def findSnapshot (key : String) : Option (DurableSnapshot δ) :=
  world.snapshots.find? fun snapshot => snapshot.key = key

def addSnapshot (snapshot : DurableSnapshot δ) : World δ :=
  { world with snapshots := world.snapshots ++ [snapshot] }

def removeSnapshot (key : String) : World δ :=
  { world with snapshots := world.snapshots.filter fun snapshot => snapshot.key ≠ key }

/-- `_instance_requires_operator_recovery`. -/
def requiresOperatorRecovery : Bool :=
  world.runs.any fun run => run.instanceId = instanceId && run.status = .interrupted &&
    run.data.rollback.any Rollback.operatorInspectionRequired

end World

/-! ### Steps that may fail -/

/-- What a step does: nothing goes wrong, or an exception is raised before its effect, after it, or
when a tree is only partly rewritten. -/
inductive Fault where
  | none
  | before (e : Raised)
  | during (residue : Tree) (e : Raised)
  | after (e : Raised)

variable (fault : Fault)

/-- A step with an effect on the world. -/
def act (change : World δ → Except Raised (World δ)) : Job δ Unit := fun world =>
  match fault with
  | .before e | .during _ e => (.error e, world)
  | .none =>
    match change world with
    | .ok next => (.ok (), next)
    | .error e => (.error e, world)
  | .after e =>
    match change world with
    | .ok next => (.error e, next)
    | .error e' => (.error e', world)

/-- `restore_snapshot(root, snapshot)`. -/
def restoreTree (instanceId : String) (snapshot : Snapshot) : Job δ Unit :=
  fun world =>
    match fault with
    | .before e => (.error e, world)
    | .none => (.ok (), world.setTree instanceId (restoredTree snapshot))
    | .during residue e => (.error e, world.setTree instanceId residue)
    | .after e => (.error e, world.setTree instanceId (restoredTree snapshot))

variable (world : World δ) (runId : String)

/-- A call of the store, whose exceptions are `ValueError` and `KeyError`. -/
def callStore (change : Run (RunData δ) → Except StoreError (Run (RunData δ))) :
    Except Raised (World δ) :=
  match world.runs.modify runId change with
  | .ok runs => .ok { world with runs := runs }
  | .error _ => .error .other

/-- `self.store.transition(run_id, target, **fields)`. -/
def storeTransition (target : Status) (binding : Binding)
    (data : RunData δ → RunData δ) : Job δ Unit :=
  act fault fun world => callStore world runId fun run =>
    run.transition target binding (Fields.of data)

/-- `self.store.update(run_id, **fields)`. -/
def storeUpdate (data : RunData δ → RunData δ) : Job δ Unit :=
  act fault fun world => callStore world runId fun run => run.update .any (Fields.of data)

/-- `self.store.lifecycle_transition(run_id, target, **fields)`. -/
def storeLifecycle (target : Lifecycle) (data : RunData δ → RunData δ) : Job δ Unit :=
  act fault fun world => callStore world runId fun run => run.update .any ⟨some target, none, data⟩

/-- `_discard_apply_snapshot`. -/
def discardSnapshot (fault : Fault) (key : String) : Job δ Unit :=
  act fault fun world => .ok (world.removeSnapshot key)

/-! ### One call -/

/-- The steps of a call that may fail. -/
inductive Step where
  | checks | persist | publishSnapshot | syncSnapshots | beginApply | discardPrepared
  | makeRuntime | stage | writerStarted | writerFinished | validatorStarted | validatorFinished
  | recordTransaction | authorize | restore | recordReceipt | markApplied | markValidated
  | writeBundle | recordBundle | closeRun | discard | recordDisposition | recordRetained | markStale
  | rollbackRestore | markApplyFailed | retireBundles | markFailed | failedBundle
  | rollbackDiscard | rollbackDisposition
deriving DecidableEq

abbrev Script := Step → Fault

/-- What a call sees of the application and of the instance, and what the writer leaves in the
staging copy. -/
structure ApplyCall where
  runId : String
  binding : Binding
  identities : Identities
  /-- `ownership.get(path) == "instance"`. -/
  isInstanceOwned : Path → Bool
  /-- `_git_identity` of the instance before the transaction, of the staging copy, and of the
  instance before and after the commit. -/
  (git stagedGit gitAtCommit gitAfterCommit : Option String)
  (afterWriter validated : Snapshot)
  script : Script

variable (digests : Digests δ)

/-- `raise PortableExecutionError(message)`, on a condition. -/
def portableIf (condition : Prop) [Decidable condition] (message : String) : Except Raised Unit :=
  raiseIf condition (.portableExecutionError message)

variable (call : ApplyCall)

/-- The checks before the lease is taken. -/
def checkApproved : Except Raised (Run (RunData δ)) :=
  match world.runs.get call.runId with
  | none => .error .other
  | some run => do
    raiseIf ((run.requireBinding call.binding).isOk = false) .other
    portableIf (run.status ≠ .stateChangeApproved) "proposal requires exact approval before apply"
    portableIf (call.identities.sourceTree ≠ run.data.identities.sourceTree)
      "application source tree drifted before apply"
    return run

/-- `_validate_proposal_authority`, of the paths of a proposal. -/
def validateProposalAuthority (isInstanceOwned : Path → Bool) (proposal : Proposal) :
    Except Raised Unit :=
  portableIf (¬ ∀ path ∈ proposal.paths, isInstanceOwned path)
    "proposal path is not machine-readably instance-owned"

def checkApproval (data : RunData δ) : Except Raised (Approval × Proposal) :=
  match data.proposalApproval, data.proposal with
  | none, _ => .error (.portableExecutionError "proposal lacks exact operator approval")
  | some _, none => .error (.portableExecutionError "approved proposal identity drifted")
  | some approval, some proposal => do
    validateProposalAuthority call.isInstanceOwned proposal
    portableIf (proposal.paths ≠ data.proposalPaths ∨ approval.paths ≠ proposal.paths)
      "approved proposal path scope drifted"
    portableIf (approval.proposal ≠ proposal) "approval is not bound to the proposal"
    portableIf (approval.baseGit ≠ data.baseGit)
      "proposal approval is not bound to the base Git SHA"
    return (approval, proposal)

/-- The application is the one that the run was prepared with. -/
def checkIdentities (data : RunData δ) (approval : Approval) : Except Raised Unit := do
  portableIf (call.identities.descriptor ≠ data.identities.descriptor)
    "application descriptor drifted before apply"
  portableIf (call.identities.actionContract ≠ data.identities.actionContract)
    "application action contract drifted before apply"
  portableIf (call.identities.source ≠ data.identities.source)
    "application source identity drifted before apply"
  portableIf (call.identities.executor ≠ data.identities.executor ∨
      approval.executor ≠ call.identities.executor)
    "approved application executor identity drifted"
  portableIf (approval.sourceTree ≠ call.identities.sourceTree)
    "approved application source identity drifted"

/-- The checks under the lease; the paths of the proposal. -/
def checkBindings (run : Run (RunData δ)) : Except Raised (List Path) := do
  portableIf (world.requiresOperatorRecovery run.instanceId)
    "instance remains quarantined pending explicit operator recovery"
  portableIf (run.data.baseGit = none) "canonical apply requires a non-null exact base Git SHA"
  let (approval, proposal) ← checkApproval call run.data
  checkIdentities call run.data approval
  return proposal.paths

/-- A run that is stale fails for good. -/
def refuseStale (message : String) : Job δ Unit := do
  storeTransition (call.script .markStale) call.runId .failed .any id
  raise (.portableExecutionError message)

variable (call : ApplyCall) (run : Run (RunData δ)) (before : Snapshot)

/-- The instance and its Git base are those of the proposal. -/
def checkFresh : Job δ Unit :=
  if digests.snapshot before ≠ run.data.canonicalStateBefore then
    refuseStale call "proposal is stale because canonical state changed"
  else if call.git ≠ run.data.baseGit then
    refuseStale call "proposal base Git identity drifted"
  else pure ()

/-- `_persist_apply_snapshot`: a temporary directory that is renamed when it is complete. -/
def persistSnapshot : Job δ Unit := do
  let world ← state
  let digest := digests.snapshot before
  let key := digests.key call.runId digest
  lift (portableIf (world.hasSnapshot key) "apply snapshot identity already exists")
  act (call.script .persist) .ok
  act (call.script .publishSnapshot) fun world =>
    .ok (world.addSnapshot ⟨key, call.runId, digest, before⟩)
  act (call.script .syncSnapshots) .ok

variable (paths : List Path)

/-- The transaction that `applying` is entered with. -/
def preparedTransaction : Transaction δ :=
  let digest := digests.snapshot before
  { snapshotKey := digests.key call.runId digest
    snapshotDigest := digest
    beforeDigest := digest
    baseGit := run.data.baseGit
    paths := paths
    canonicalStateAfter := none
    committed := false }

/-- `applying`, or the snapshot is discarded. -/
def beginApply (transaction : Transaction δ) : Job δ Unit := do
  let entered ← attempt Raised.caught
    (storeTransition (call.script .beginApply) call.runId .applying call.binding fun data =>
      { data with applyTransaction := some transaction })
  match entered with
  | .ok () => pure ()
  | .error e => do
    discardSnapshot (call.script .discardPrepared) transaction.snapshotKey
    raise e

/-- The staging copy, the writer and the validator; the record follows their processes. -/
def runStaged : Job δ Unit := do
  act (call.script .stage) .ok
  storeUpdate (call.script .writerStarted) call.runId id
  storeUpdate (call.script .writerFinished) call.runId id
  storeUpdate (call.script .validatorStarted) call.runId id
  storeUpdate (call.script .validatorFinished) call.runId id

/-- The staging copy after the writer and the validator. -/
def checkStaged (world : World δ) (run : Run (RunData δ)) (before : Snapshot)
    (paths : List Path) : Except Raised Unit := do
  portableIf (changesExactly before call.afterWriter paths = false)
    "application writer changed paths outside the approved transaction"
  portableIf (call.stagedGit ≠ run.data.baseGit) "sandbox writer changed the instance Git base"
  portableIf (digests.snapshot call.validated ≠ digests.snapshot call.afterWriter)
    "post-apply validator mutated canonical state"
  portableIf (digests.snapshot (snapshotFiles (world.tree run.instanceId)) ≠
      digests.snapshot before ∨ call.gitAtCommit ≠ run.data.baseGit)
    "canonical state drifted while the apply lease was held"

/-- The tree is the one that was verified. -/
def checkCommitted (world : World δ) (run : Run (RunData δ)) : Except Raised Unit :=
  portableIf (digests.snapshot (snapshotFiles (world.tree run.instanceId)) ≠
      digests.snapshot call.validated ∨ call.gitAfterCommit ≠ run.data.baseGit)
    "trusted canonical commit did not match the verified staging snapshot"

/-- `CLOSED`, with the closure receipt. -/
def closeRun : Job δ Unit :=
  act (call.script .closeRun) fun world => do
    let closed ← callStore world call.runId fun run =>
      run.update .any ⟨some .closed, none, fun data => { data with closureReceipt := true }⟩
    return { closed with
      seals := closed.seals ++ [⟨run.instanceId, call.runId, digests.snapshot call.validated⟩] }

/-- What follows the seal: the durable snapshot is discarded and its disposition recorded. -/
def cleanUp (key : String) : Job δ Unit := do
  let discarded ← attempt Raised.portable do
    discardSnapshot (call.script .discard) key
    storeUpdate (call.script .recordDisposition) call.runId id
  match discarded with
  | .ok () => pure ()
  | .error _ => storeUpdate (call.script .recordRetained) call.runId id

/-- The transaction under the handler. -/
def runTransaction (transaction : Transaction δ) : Job δ Unit := do
  runStaged call
  let world ← state
  lift (checkStaged digests call world run before paths)
  let after := digests.snapshot call.validated
  let pending := { transaction with canonicalStateAfter := some after }
  storeUpdate (call.script .recordTransaction) call.runId fun data =>
    { data with applyTransaction := some pending }
  act (call.script .authorize) .ok
  restoreTree (call.script .restore) run.instanceId call.validated
  let world ← state
  lift (checkCommitted digests call world run)
  let committed := { pending with committed := true }
  storeUpdate (call.script .recordReceipt) call.runId fun data =>
    { data with applyTransaction := some committed, canonicalStateAfter := some after }
  storeTransition (call.script .markApplied) call.runId .applied .any fun data =>
    { data with applyTransaction := some committed, canonicalStateAfter := some after }
  storeLifecycle (call.script .markValidated) call.runId .postValidated id
  act (call.script .writeBundle) .ok
  storeUpdate (call.script .recordBundle) call.runId id
  closeRun digests call run
  cleanUp call transaction.snapshotKey

/-- The part of `_rollback_apply` that proves the rollback. -/
def proveRollback : Job δ Unit := do
  restoreTree (call.script .rollbackRestore) run.instanceId before
  let world ← state
  let restored := digests.snapshot (snapshotFiles (world.tree run.instanceId))
  lift (portableIf (restored ≠ digests.snapshot before)
    "rollback digest did not match the captured snapshot")
  storeTransition (call.script .markApplyFailed) call.runId .applyFailed .any fun data =>
    { data with
      rollback := some .completed, canonicalStateAfter := some restored, closureReceipt := false }
  act (call.script .retireBundles) .ok

def rollbackApply (key : String) : Job δ Unit := do
  let proven ← attempt Raised.caught (proveRollback digests call run before)
  match proven with
  | .error _ => do
    storeTransition (call.script .markFailed) call.runId .failed .any fun data =>
      { data with rollback := some .failed }
    raise (.portableExecutionError "canonical rollback could not be proven")
  | .ok () => do
    _ ← attempt Raised.caught (storeUpdate (call.script .failedBundle) call.runId id)
    let discarded ← attempt Raised.portable (discardSnapshot (call.script .rollbackDiscard) key)
    match discarded with
    | .ok () => pure ()
    | .error _ => storeUpdate (call.script .rollbackDisposition) call.runId id

def guardTransaction (transaction : Transaction δ) : Job δ Unit := do
  let finished ← attempt Raised.caught (runTransaction digests call run before paths transaction)
  match finished with
  | .ok () => pure ()
  | .error e => do
    rollbackApply digests call run before transaction.snapshotKey
    raise (match e with
      | .portableExecutionError message => .portableExecutionError message
      | _ => .portableExecutionError "filesystem transaction failed")

/-- `apply_proposal` from the durable snapshot on. -/
def transact : Job δ Unit := do
  persistSnapshot digests call before
  let transaction := preparedTransaction digests call run before paths
  beginApply call transaction
  act (call.script .makeRuntime) .ok
  guardTransaction digests call run before paths transaction

def applyProposal : Job δ Unit := do
  let world ← state
  let run ← lift (checkApproved world call)
  act (call.script .checks) .ok
  let paths ← lift (checkBindings world call run)
  let before := snapshotFiles (world.tree run.instanceId)
  checkFresh digests call run before
  transact digests call run before paths

end StatePort.PortableExecution
