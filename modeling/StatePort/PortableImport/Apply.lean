import StatePort.Algorithm.Effect

/-!
# The import of a portable instance

`apply_portable_import` of
`packages/portable-execution/src/stateport_portable_execution/runtime.py`, with the functions it
calls: the archive is restored into a directory of its own, the directory is registered in the
catalogue, and a receipt is published by a hard link. Each step of the file system may raise, before
or after its effect, or the process may stop there (`Fault`).

The plan is what `_portable_import_plan` makes of the archive, which nothing changes. The archive's
records say which files are restored; `verify_restored_target` compares them with the files that are
there. Names of
temporary files and of staging directories are random, so that what is left of them is not met again;
a receipt whose temporary file is left has two names.
-/

namespace StatePort.PortableImport

open Effect (lift raise attempt state)

/-- What a step raises when it fails. -/
inductive Failure where
  | osError | crash
deriving DecidableEq

/-- How a step of the file system ends. -/
inductive Fault where
  | none
  | before (failure : Failure)
  | after (failure : Failure)
deriving DecidableEq

/-- `PortableImportError.code`. -/
inductive Code where
  | stale | approvalInvalid | previewRefused | receiptRefused | receiptRecoveryRequired
  | replayRefused | rollbackFailed | applyRefused
deriving DecidableEq

inductive Raised where
  | portableImportError (code : Code)
  | osError
  /-- An error of the archive, of the catalogue or of the execution. -/
  | other
  | crash
deriving DecidableEq

/-- What `except Exception` catches. -/
def Raised.caught : Raised → Option Raised
  | .crash => none
  | e => some e

/-- What `except OSError` catches. -/
def Raised.osError? : Raised → Option Unit
  | .osError => some ()
  | _ => none

def Failure.raised : Failure → Raised
  | .osError => .osError
  | .crash => .crash

/-- Device and inode of a directory. -/
abbrev Identity := ℕ × ℕ

structure Plan where
  (planDigest archiveDigest archiveFileDigest sourceInstanceId sourceIdentity : String)
  (destinationInstanceId identityPolicy : String)
  fileCount : ℕ
deriving DecidableEq

structure Approval where
  (decision actorId actorRole : String)
deriving DecidableEq

/-- A receipt with status `applied`. -/
structure Receipt where
  plan : Plan
  approval : Approval
  targetIdentity : Identity
  /-- The file system of `catalogEntry`. -/
  catalogEntry : Identity

/-- What is stored for one plan; `κ` is the content of a directory. -/
structure Store (κ : Type) where
  destination : Option (Identity × κ)
  /-- The file system of the instance's entry in the catalogue. -/
  catalogue : Option Identity
  receipt : Option Receipt
  /-- The temporary file of the receipt is still there. -/
  hasTemporary : Bool
  /-- The record that demands an operator's inspection. -/
  recovery : Bool

inductive Step where
  | receiptStore | readReceipt | readInstance | preview | restore | observeRestored
  | observeDestination | validateApplication | register | observeCreated
  | openParent | openTemporary | stage | link | statPublished | syncPublished | recordRecovery
  | closeRecovery | unlinkTemporary | syncCleanup | closeTemporary | removeTemporary | closeParent
  | observeTarget | readCatalogue | removeTarget | forget
deriving DecidableEq

structure Call (κ : Type) where
  plan : Except Raised Plan
  expectedPlanDigest : String
  approval : Approval
  /-- The identity of the staging directory, which is renamed. -/
  identity : Identity
  /-- The files that the records of the archive describe. -/
  restored : κ
  /-- The number of bytes that are written for a receipt. -/
  receiptSize : Receipt → ℕ
  /-- The application and its source lock are valid. -/
  isApplication : Bool
  script : Step → Fault

variable {κ : Type}

abbrev Job (κ : Type) := Effect (Store κ) Raised

def act (fault : Fault) (change : Store κ → Store κ) : Job κ Unit := fun s =>
  match fault with
  | .none => (.ok (), change s)
  | .before failure => (.error failure.raised, s)
  | .after failure => (.error failure.raised, change s)

/-- `raise PortableImportError(code)`. -/
def refuse {α : Type} (code : Code) : Job κ α := raise (.portableImportError code)

/-- `if condition: raise e`. -/
def raiseWhen (condition : Prop) [Decidable condition] (e : Raised) : Job κ Unit :=
  if condition then raise e else pure ()

/-- `except OSError: raise PortableImportError(code)`. -/
def orRefuse (code : Code) (job : Job κ Unit) : Job κ Unit := do
  match ← attempt Raised.osError? job with
  | .ok _ => return ()
  | .error _ => refuse code

/-! ### The receipt -/

variable (call : Call κ)

/-- `_write_portable_import_recovery_state`, which swallows its errors, except those of closing its
descriptors. -/
def recordRecovery : Job κ Unit := do
  _ ← attempt Raised.osError?
    (act (call.script .recordRecovery) fun s => { s with recovery := true })
  act (call.script .closeRecovery) id

/-- A synchronisation of the receipt's directory. -/
def syncParent (step : Step) : Job κ Unit := do
  match ← attempt Raised.osError? (act (call.script step) id) with
  | .ok _ => return ()
  | .error _ => do
    recordRecovery call
    refuse .receiptRecoveryRequired

/-- The temporary file is written and linked, and unlinked. -/
def publishReceipt (receipt : Receipt) : Job κ Unit := do
  act (call.script .stage) id
  act (call.script .link) fun s => { s with receipt := some receipt, hasTemporary := true }
  act (call.script .statPublished) id
  syncParent call .syncPublished
  act (call.script .unlinkTemporary) fun s => { s with hasTemporary := false }
  syncParent call .syncCleanup

/-- `finally`: descriptors are closed and a temporary file is removed if that is possible. -/
def closeReceipt : Job κ Unit := do
  act (call.script .closeTemporary) id
  _ ← attempt Raised.osError?
    (act (call.script .removeTemporary) fun s => { s with hasTemporary := false })
  act (call.script .closeParent) id

def writePortableImportReceipt (receipt : Receipt) : Job κ Unit := do
  orRefuse .receiptRefused (act (call.script .openParent) id)
  match ← attempt Raised.caught (act (call.script .openTemporary) id) with
  | .error _ => do
    act (call.script .closeParent) id
    refuse .receiptRefused
  | .ok _ => do
    let published ← attempt Raised.caught (publishReceipt call receipt)
    closeReceipt call
    match published with
    | .ok _ => return ()
    | .error .osError => refuse .receiptRefused
    | .error e => raise e

def maxReceiptBytes : ℕ := 256 * 1024

/-- `_read_portable_import_receipt`: a receipt with a second name or of too many bytes is unsafe. -/
def readPortableImportReceipt : Job κ (Option Receipt) := do
  orRefuse .receiptRefused (act (call.script .readReceipt) id)
  let s ← state
  match s.receipt with
  | none => return none
  | some receipt =>
    if s.hasTemporary ∨ maxReceiptBytes < call.receiptSize receipt then refuse .receiptRefused
    else return some receipt

section

variable [DecidableEq κ]

/-- What a replay compares with the receipt, and with the records of the archive. -/
def isIntact (plan : Plan) (s : Store κ) (receipt : Receipt) : Bool :=
  receipt.plan = plan && receipt.approval = call.approval &&
    s.catalogue = some receipt.catalogEntry && receipt.targetIdentity = receipt.catalogEntry &&
    s.destination.any fun d => d.1 = receipt.targetIdentity && d.2 = call.restored

def portableImportReplay (plan : Plan) (receipt : Receipt) : Job κ Receipt := do
  orRefuse .replayRefused (act (call.script .readInstance) id)
  let s ← state
  if isIntact call plan s receipt then return receipt else refuse .replayRefused

end

/-! ### The rollback -/

def removeTarget (isThere : Bool) : Job κ Unit :=
  if isThere then do
    match ← attempt Raised.caught
        (act (call.script .removeTarget) fun s => { s with destination := none }) with
    | .ok _ => return ()
    | .error _ => refuse .rollbackFailed
  else pure ()

/-- The entry is removed, if it is the one of the destination. -/
def forgetEntry (isMatching : Bool) : Job κ Unit :=
  if isMatching then act (call.script .forget) fun s => { s with catalogue := none } else pure ()

/-- `_rollback_portable_import_destination` after its first check. -/
def removeDestination (identity : Identity) (entry : Option Identity) : Job κ Unit := do
  act (call.script .observeTarget) id
  let s ← state
  raiseWhen (s.destination.any (·.1 ≠ identity)) (.portableImportError .rollbackFailed)
  -- an entry that is not known is looked up, and an error of that is no entry
  let found ← attempt Raised.caught (act (call.script .readCatalogue) id)
  removeTarget call s.destination.isSome
  forgetEntry call (entry.or (if found.isOk then s.catalogue else none) = some identity)

def rollbackPortableImportDestination (expected entry : Option Identity) : Job κ Unit :=
  match expected with
  | none => refuse .rollbackFailed
  | some identity => orRefuse .rollbackFailed (removeDestination call identity entry)

/-! ### The import -/

/-- `import_portable`: the staging directory is renamed if there is no destination. -/
def importPortable : Job κ Unit := do
  let s ← state
  raiseWhen s.destination.isSome .other
  act (call.script .restore) fun s => { s with destination := some (call.identity, call.restored) }
  act (call.script .observeRestored) id

/-- The registration of the restored directory. -/
def registerDestination : Job κ Unit := do
  act (call.script .validateApplication) id
  raiseWhen (call.isApplication = false) .other
  let s ← state
  raiseWhen s.catalogue.isSome .other
  act (call.script .register) fun s => { s with catalogue := some call.identity }

def importInstanceArchive : Job κ Unit := do
  importPortable call
  match ← attempt Raised.caught (act (call.script .observeDestination) id) with
  | .error e => do
    rollbackPortableImportDestination call none none
    raise e
  | .ok _ =>
    match ← attempt Raised.caught (registerDestination call) with
    | .ok _ => return ()
    | .error e => do
      rollbackPortableImportDestination call (some call.identity) none
      raise e

/-- `preview_portable_import`: the dry run refuses a destination that exists. -/
def previewPortableImport : Job κ Unit := do
  orRefuse .previewRefused (act (call.script .preview) id)
  let s ← state
  raiseWhen s.destination.isSome (.portableImportError .previewRefused)

/-- An exception that is not a `PortableImportError` is raised as one. -/
def Raised.asRefusal : Raised → Raised
  | .portableImportError code => .portableImportError code
  | _ => .portableImportError .applyRefused

/-- The rollback after an exception, unless an inspection is demanded. -/
def retractImport (e : Raised) : Job κ Unit :=
  if e = .portableImportError .receiptRecoveryRequired then pure ()
  else rollbackPortableImportDestination call (some call.identity) (some call.identity)

/-- `apply_portable_import` once the directory is created and registered. -/
def finishImport (plan : Plan) : Job κ Receipt := do
  match ← attempt Raised.caught (act (call.script .observeCreated) id) with
  | .error e => do
    rollbackPortableImportDestination call none none
    raise e.asRefusal
  | .ok _ => do
    let receipt : Receipt := ⟨plan, call.approval, call.identity, call.identity⟩
    match ← attempt Raised.caught (writePortableImportReceipt call receipt) with
    | .ok _ => return receipt
    | .error e => do
      retractImport call e
      raise e.asRefusal

def portableImportApproval (approval : Approval) : Except Raised Unit :=
  raiseIf (approval.actorId = "" ∨ approval.actorRole = "" ∨ approval.decision ≠ "approve")
    (.portableImportError .approvalInvalid)

/-- `apply_portable_import` of an archive that has no receipt. -/
def importFresh (plan : Plan) : Job κ Receipt := do
  match ← attempt Raised.caught (do
      previewPortableImport call
      importInstanceArchive call) with
  | .error e => raise e.asRefusal
  | .ok _ => finishImport call plan

def applyPortableImport [DecidableEq κ] : Job κ Receipt := do
  let plan ← lift call.plan
  lift (raiseIf (call.expectedPlanDigest ≠ plan.planDigest) (.portableImportError .stale))
  lift (portableImportApproval call.approval)
  act (call.script .receiptStore) id
  match ← readPortableImportReceipt call with
  | some receipt => portableImportReplay call plan receipt
  | none => importFresh call plan

/-! ### An import -/

def Store.empty : Store κ := ⟨none, none, none, false, false⟩

/-- Paths and modes. -/
abbrev SampleFiles := List (String × ℕ)

def Call.accepted (script : Step → Fault) : Call SampleFiles where
  plan := .ok ⟨"plan", "archive", "file", "source", "identity", "destination", "preserve", 2⟩
  expectedPlanDigest := "plan"
  approval := ⟨"approve", "operator", "owner"⟩
  identity := (1, 7)
  restored := [("instance.yaml", 420), ("state", 420)]
  receiptSize _ := 1024
  isApplication := true
  script := script

end StatePort.PortableImport
