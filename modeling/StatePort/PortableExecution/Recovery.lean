import StatePort.PortableExecution.Apply

/-!
# Recovery at the start of the service

`_recover_interrupted_applies` of
`packages/portable-execution/src/stateport_portable_execution/runtime.py`.

The records are read in order. An apply that was not closed is classified by the digest of the tree:
a newer sealed apply is preserved, an unchanged tree is left alone, and anything else is restored
from the durable snapshot. What cannot be decided is left to the operator. The durable snapshots
of the other records are discarded.
-/

namespace StatePort.PortableExecution

open Effect (lift raise attempt state)

variable {δ : Type} [DecidableEq δ] (digests : Digests δ)

/-- The steps of the recovery of one run that may fail. -/
inductive RecoveryStep where
  | discardLeftover | load | terminate | restore | recordRecovery | discard | recordDisposition
  | markInterrupted

/-- A start of the service: which runs have a live supervisor or a held lease, and which steps
fail. -/
structure Restart where
  isOwned : String → Bool
  script : String → RecoveryStep → Fault
  retire : Fault

variable (run : Run (RunData δ))

/-- An apply that was begun and not closed. -/
def Run.isUnclosed : Bool :=
  (run.status = .applying || run.status = .applied) && run.lifecycle ≠ .closed

/-- The record demands operator inspection. -/
def RunData.operatorInspectionRequired (data : RunData δ) : Bool :=
  data.rollback.any Rollback.operatorInspectionRequired

/-- The snapshot of a record that needs no recovery. -/
def discardLeftover (fault : Fault) (run : Run (RunData δ)) : Job δ Unit :=
  if run.status = .interrupted ∧ run.data.operatorInspectionRequired then pure ()
  else
    match run.data.applyTransaction with
    | none => pure ()
    | some transaction => do
      _ ← attempt Raised.portable (discardSnapshot fault transaction.snapshotKey)

/-- The transaction of an interrupted apply belongs to its record. -/
def checkTransaction : Except Raised (Transaction δ) :=
  match run.data.applyTransaction with
  | none => .error (.portableExecutionError "interrupted apply lacks a durable snapshot reference")
  | some transaction => do
    portableIf (transaction.beforeDigest ≠ transaction.snapshotDigest ∨
        run.data.canonicalStateBefore ≠ transaction.snapshotDigest ∨
        transaction.baseGit ≠ run.data.baseGit ∨ transaction.paths ≠ run.data.proposalPaths)
      "interrupted apply identity is incomplete"
    return transaction

variable (world : World δ)

/-- `_load_apply_snapshot`. -/
def loadSnapshot (runId key : String) (expected : δ) : Except Raised Snapshot :=
  match world.findSnapshot key with
  | none => .error (.portableExecutionError "durable apply snapshot is missing")
  | some stored => do
    portableIf (stored.runId ≠ runId ∨ stored.digest ≠ expected)
      "durable apply snapshot manifest drifted"
    portableIf (digests.snapshot stored.content ≠ expected) "durable apply snapshot content drifted"
    return stored.content

/-- `records[current_index + 1:]`. -/
def World.later (runId : String) : List (Run (RunData δ)) :=
  (world.runs.dropWhile fun run => run.runId ≠ runId).drop 1

/-- A sealed run of the instance that left the tree as it is. -/
def Run.isSealedAt (instanceId : String) (current : δ) : Bool :=
  run.instanceId = instanceId && run.status = .applied && run.lifecycle = .closed &&
    run.data.canonicalStateAfter = some current && run.data.closureReceipt

inductive Finding where
  | newerSealedApplyPreserved | sameRunNoMutation | sameRunRollback

/-- The classification of an interrupted apply. -/
def classify (run : Run (RunData δ)) (transaction : Transaction δ) : Except Raised Finding :=
  let current := digests.snapshot (snapshotFiles (world.tree run.instanceId))
  let later := world.later run.runId
  if later.any fun candidate => candidate.isSealedAt run.instanceId current then
    .ok .newerSealedApplyPreserved
  else if current = transaction.snapshotDigest then .ok .sameRunNoMutation
  else do
    portableIf (later.any fun candidate => candidate.instanceId = run.instanceId)
      "interrupted apply cannot overwrite unsealed newer instance work"
    portableIf (run.status = .applied ∧ (transaction.committed = false ∨
        transaction.canonicalStateAfter ≠ some current))
      "unclosed applied run does not match its durable apply identity"
    return .sameRunRollback

/-- The tree after the classification. -/
def settleTree (fault : Fault) (run : Run (RunData δ)) (before : Snapshot) (expected : δ) :
    Finding → Job δ Unit
  | .newerSealedApplyPreserved | .sameRunNoMutation => pure ()
  | .sameRunRollback => do
    restoreTree fault run.instanceId before
    let world ← state
    lift (portableIf (digests.snapshot (snapshotFiles (world.tree run.instanceId)) ≠ expected)
      "recovery rollback digest did not match")

def Finding.rollback : Finding → Rollback
  | .newerSealedApplyPreserved | .sameRunNoMutation => .notRequired
  | .sameRunRollback => .completed

variable (script : RecoveryStep → Fault)

/-- The recovery of a run under its lease. -/
def recoverTransaction (run : Run (RunData δ)) : Job δ Unit := do
  let transaction ← lift (checkTransaction run)
  act (script .load) .ok
  let world ← state
  let before ← lift
    (loadSnapshot digests world run.runId transaction.snapshotKey transaction.snapshotDigest)
  act (script .terminate) .ok
  let finding ← lift (classify digests world run transaction)
  settleTree digests (script .restore) run before transaction.snapshotDigest finding
  let world ← state
  let after := digests.snapshot (snapshotFiles (world.tree run.instanceId))
  storeTransition (script .recordRecovery) run.runId .applyFailed ⟨none, some run.revision⟩
    fun data => { data with
      applyTransaction :=
        some { transaction with canonicalStateAfter := some after, committed := false }
      canonicalStateAfter := some after
      rollback := some finding.rollback
      closureReceipt := false }
  discardSnapshot (script .discard) transaction.snapshotKey
  storeUpdate (script .recordDisposition) run.runId id

/-- What cannot be recovered is left to the operator. -/
def markInterrupted (runId : String) : Job δ Unit := do
  let world ← state
  match world.runs.get runId with
  | none => pure ()
  | some run =>
    if run.isUnclosed then do
      let marked ← attempt Raised.caught
        (storeTransition (script .markInterrupted) runId .interrupted ⟨none, some run.revision⟩
          fun data => { data with rollback := some .unknown, closureReceipt := false })
      match marked with
      | .ok () => pure ()
      | .error _ =>
        raise (.portableExecutionError "interrupted apply could not be reconciled safely")
    else pure ()

/-- One round of the recovery. -/
def recoverRun (restart : Restart) (run : Run (RunData δ)) : Job δ Unit :=
  if run.isUnclosed = false then discardLeftover (restart.script run.runId .discardLeftover) run
  else if restart.isOwned run.runId then pure ()
  else do
    let recovered ← attempt Raised.caught
      (recoverTransaction digests (restart.script run.runId) run)
    match recovered with
    | .ok () => pure ()
    | .error _ => markInterrupted (restart.script run.runId) run.runId

/-- The rollback that `recover_orphans` records for an apply. -/
def unproven (data : RunData δ) : RunData δ := { data with rollback := some .unknown }

def recoverInterruptedApplies (restart : Restart) : Job δ Unit := do
  let world ← state
  world.runs.forM (recoverRun digests restart)
  let owned := world.runs.filter fun run => run.isUnclosed && restart.isOwned run.runId
  Effect.modify fun world =>
    { world with runs := world.runs.recoverOrphans (owned.map Run.runId) unproven }
  act restart.retire .ok

end StatePort.PortableExecution
