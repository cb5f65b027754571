import StatePort.Algorithm.Crash
import StatePort.Lifecycle.Receipt

/-!
# The upgrade transaction

`_apply_upgrade_locked` and `_recover_interrupted_upgrade`.

The state is the parent directory of the instance: the journal file and the directories that the
transaction moves about. The two functions are the lists of file-system operations that they carry
out, `applySteps` and `recoverSteps`; a crash stops such a list after some of them. An exception in
the course of an upgrade is a crash followed by a recovery. `os.replace` is atomic; `shutil.rmtree`
and `shutil.copytree` are one operation for each file and directory.

What staging does with the copied instance depends on the template; here it is any list of edits of
the stage, before and after the new lock is written into it.
-/

namespace StatePort.Lifecycle

/-! ### The parent directory -/

/-- The directories beside each other in the parent: the instance root, the stage, the backup, and
any other name. -/
inductive Slot where
  | root
  | stage
  | backup
  | other (name : String)
deriving DecidableEq

/-- The parent directory, as far as upgrades are concerned. -/
structure Disk where
  journal : Option (List Char)
  dirs : Slot → Option Dir

/-- An operation inside one directory. -/
inductive Edit where
  | put (path : RelPath) (node : Node)
  | remove (path : RelPath)
  | rename (source target : RelPath)

def Dir.edit (dir : Dir) : Edit → Dir
  | .put path node => dir.put path node
  | .remove path => dir.remove path
  | .rename source target => dir.rename source target

/-- An operation on the parent directory. -/
inductive Step where
  | writeJournal (text : List Char)
  | unlinkJournal
  | mkdir (slot : Slot) (inode : ℕ)
  | edit (slot : Slot) (edit : Edit)
  | rmdir (slot : Slot)
  | replace (source target : Slot)

namespace Disk

/-- The directory in `slot` becomes `dir`. -/
def setDir (disk : Disk) (slot : Slot) (dir : Option Dir) : Disk :=
  { disk with dirs := Function.update disk.dirs slot dir }

def exec (disk : Disk) : Step → Disk
  | .writeJournal text => { disk with journal := some text }
  | .unlinkJournal => { disk with journal := none }
  | .mkdir slot inode => disk.setDir slot (some ⟨inode, Table.empty _⟩)
  | .edit slot e => disk.setDir slot ((disk.dirs slot).map (·.edit e))
  | .rmdir slot => disk.setDir slot none
  | .replace source target => (disk.setDir target (disk.dirs source)).setDir source none

end Disk

/-! ### Composite operations -/

variable (order : Dir → List RelPath)

/-- The order in which `shutil.rmtree` removes the entries of a directory: all of them, and a
directory after what is in it. -/
def IsRemovalOrder : Prop :=
  ∀ dir, (order dir).Perm dir.paths ∧ (order dir).Pairwise fun p q => ¬ p <+: q

/-- `shutil.rmtree` of a directory that exists. -/
def rmtree (slot : Slot) (dir : Dir) : List Step :=
  (order dir).map (fun path => .edit slot (.remove path)) ++ [.rmdir slot]

/-- `if path.exists(): shutil.rmtree(path)`. -/
def rmtreeIfExists (slot : Slot) : Option Dir → List Step
  | none => []
  | some dir => rmtree order slot dir

/-- The edits by which `shutil.copytree` copies one entry; a file is created before it is
written. -/
def copyEntry (entry : Entry) : List Edit :=
  match entry.node with
  | .directory => [.put entry.path .directory]
  | .file content => [.put entry.path (.file (.text [])), .put entry.path (.file content)]

/-- `path.with_name(f".{path.name}.{hex}.tmp")`. -/
def temporaryPath (path : RelPath) (hex : String) : RelPath :=
  path.dropLast ++ ["." ++ path.getLast?.getD "" ++ "." ++ hex ++ ".tmp"]

/-- `_write_yaml` inside a directory: write a temporary file beside the target and rename it. -/
def writeYaml (path : RelPath) (hex : String) (text : List Char) : List Edit :=
  [.put (temporaryPath path hex) (.file (.text [])),
    .put (temporaryPath path hex) (.file (.text text)),
    .rename (temporaryPath path hex) path]

/-! ### The journal -/

/-- The phases that the journal records. -/
inductive Phase where
  | staging
  | originalMoved
  | stagePublished
  | receiptCommitted

def Phase.name : Phase → String
  | staging => "staging"
  | originalMoved => "original_moved"
  | stagePublished => "stage_published"
  | receiptCommitted => "receipt_committed"

variable (host : Host)

/-- `_upgrade_stage_path(instance_root).name`. -/
def stageName : String := "." ++ host.name ++ ".upgrade-stage"

/-- `_upgrade_backup_path(instance_root).name`. -/
def backupName : String := "." ++ host.name ++ ".upgrade-backup"

/-- `_upgrade_journal_path(instance_root).name`. -/
def journalName : String := "." ++ host.name ++ ".upgrade-transaction.yaml"

/-- The journal that earlier versions kept inside the instance. -/
def legacyJournalPath : RelPath := [".statedd", "upgrade-transaction.yaml"]

/-- The directory of this name in the parent. -/
def slotNamed (name : String) : Slot :=
  if name = stageName host then .stage
  else if name = backupName host then .backup
  else if name = host.name then .root
  else .other name

/-! ### One upgrade -/

/-- The input of one transaction: the instance, the inode that the stage gets, the plan and its
approval, and what staging does. `lock` is the staged lock as `materialize_instance` leaves it,
`retired` and `history` are what the transaction adds to it, and `validation` is what the validation
command does to the stage. The two `hex` strings name the temporary files. -/
structure Upgrade where
  pre : Dir
  stageInode : ℕ
  (plan approval : Value)
  appliedAt : String
  materialize : List Edit
  lock : Value
  (retired history : List Value)
  validation : List Edit
  (lockHex receiptHex : String)

namespace Upgrade

variable (u : Upgrade)

/-- `plan_value.get("retirements", [])`. -/
def retirements : Value := (u.plan.get? "retirements").getD (.list [])

def historyEvent : Value :=
  Value.ofFields [("event", .str "upgrade"), ("planDigest", u.plan.get "planDigest"),
    ("from", u.plan.get "current"), ("target", u.plan.get "target"),
    ("retirements", u.retirements), ("appliedAt", .str u.appliedAt)]

def stagedLock : Value :=
  (u.lock.set "retired" (.list u.retired)).set "history" (.list (u.history ++ [u.historyEvent]))

/-- The edits that write the staged lock and validate the stage. A lock that cannot be dumped
raises. -/
def lockEdits : List Edit :=
  match payload u.stagedLock with
  | none => []
  | some text => writeYaml lockPath u.lockHex text ++ u.validation

/-- The edits of the stage, up to the promotion. -/
def staging : List Edit :=
  u.pre.entries.rows.flatMap copyEntry ++ (u.materialize ++ u.lockEdits)

def staged : Dir := u.staging.foldl Dir.edit ⟨u.stageInode, Table.empty _⟩

/-- The receipt without its digest. -/
def receiptBody : Value :=
  Value.ofFields [("formatVersion", .str upgradeReceiptFormat), ("status", .str "applied"),
    ("idempotent", .bool false), ("planDigest", u.plan.get "planDigest"),
    ("lockDigest", .str (canonicalDigest host.hashBytes u.stagedLock)),
    ("approval", Value.ofFields [("planDigest", u.approval.get "planDigest"),
      ("approvedBy", u.approval.get "approvedBy"), ("approvedAt", u.approval.get "approvedAt")]),
    ("appliedAt", .str u.appliedAt),
    -- the receipt binds the root that the promotion has put in place
    ("current", (u.plan.get "current").set "rootIdentity" (instanceRootIdentity host u.staged)),
    ("target", u.plan.get "target"), ("files", u.plan.get "entries"),
    ("retirements", u.retirements), ("history", .list [u.historyEvent])]

def receipt : Value :=
  (u.receiptBody host).set "receiptDigest" (.str (receiptDigest host (u.receiptBody host)))

/-- The edits that write the receipt into the promoted instance. -/
def receiptEdits : List Edit :=
  match payload (u.receipt host) with
  | none => []
  | some text => writeYaml receiptPath u.receiptHex text

/-- The upgraded instance: the stage with its receipt. -/
def published : Dir := (u.receiptEdits host).foldl Dir.edit u.staged

def journal (phase : Phase) : Value :=
  Value.ofFields [("formatVersion", .str "statedd.upgrade-transaction/v2"),
    ("planDigest", u.plan.get "planDigest"), ("stageName", .str (stageName host)),
    ("backupName", .str (backupName host)), ("phase", .str phase.name)]

/-- The text of the journal; a mapping of scalars always has one. -/
def journalText (phase : Phase) : List Char := (payload (u.journal host phase)).getD []

/-- The parent directory when the transaction starts. -/
def start : Disk :=
  { journal := none
    dirs := fun slot => if slot = .root then some u.pre else none }

/-! ### Acceptance -/

/-- `isinstance(value, str) and value.strip()`. -/
def isFilled : Value → Bool
  | .str s => Str.strip s ≠ ""
  | _ => false

/-- Whether the approval is bound to the plan. -/
def isApproved : Bool :=
  u.approval.isDict &&
    u.approval.get "formatVersion" = .str "statedd.upgrade-approval/v1" &&
    u.approval.get "approved" = .bool true &&
    u.approval.get "planDigest" = u.plan.get "planDigest" &&
    u.approval.get "instanceId" = (u.plan.get "current").get "instanceId" &&
    u.approval.get "migrationSetDigest" = u.plan.get "migrationSetDigest" &&
    u.approval.get "retirementDigest" = u.plan.get "retirementDigest" &&
    u.approval.get "targetSource" = (u.plan.get "target").get "source" &&
    isFilled (u.approval.get "approvedBy") && isFilled (u.approval.get "approvedAt")

/-- The checks of `_apply_upgrade_locked` before it writes anything: `false` if the instance already
holds the receipt of this plan, and nothing is to be done. -/
def accept : Except Raised Bool := do
  let receipt ← receiptOf u.pre
  let valid ← holdsValidReceipt host u.pre
  raiseIf (receipt ≠ none ∧ valid = false)
    (lifecycleError "existing upgrade receipt is invalid or no longer matches the instance")
  raiseIf (u.plan.get "blocked" = .bool true ∨ u.plan.get "safe" ≠ .bool true)
    (lifecycleError "upgrade plan is blocked and cannot be applied")
  raiseIf (u.isApproved = false) (lifecycleError "approval is not bound to exact plan digest")
  return !(receipt.any fun receipt => receipt.get "planDigest" = u.plan.get "planDigest")

/-! ### Applying -/

/-- The steps from the committed receipt on: the backup and the journals go. -/
def cleanupSteps (order : Dir → List RelPath) : List Step :=
  .writeJournal (u.journalText host .receiptCommitted) :: rmtree order .backup u.pre ++
    (if (u.published host).nodeAt legacyJournalPath = none then []
      else [.edit .root (.remove legacyJournalPath)]) ++
    [.unlinkJournal]

/-- The steps from the promotion on. A receipt that cannot be dumped raises. -/
def promoteSteps (order : Dir → List RelPath) : List Step :=
  [.replace .root .backup, .writeJournal (u.journalText host .originalMoved),
    .replace .stage .root, .writeJournal (u.journalText host .stagePublished)] ++
    (u.receiptEdits host).map (.edit .root) ++
    if payload (u.receipt host) = none then [] else u.cleanupSteps host order

/-- The steps of `_apply_upgrade_locked`. -/
def applySteps (order : Dir → List RelPath) : List Step :=
  .writeJournal (u.journalText host .staging) :: .mkdir .stage u.stageInode ::
    u.staging.map (.edit .stage) ++
    if payload u.stagedLock = none then [] else u.promoteSteps host order

end Upgrade

/-! ### Recovering -/

/-- The journal that recovery goes by: the one in the parent, else the legacy one. -/
def findJournal (disk : Disk) : Except Raised (Option Value) :=
  match disk.journal with
  | some text => (readYaml text (journalName host)).map some
  | none =>
    readOptionalMapping ((disk.dirs .root).bind (·.nodeAt legacyJournalPath))
      "upgrade-transaction.yaml"

/-- The name of the stage in a journal whose names are valid. -/
def journalStage (journal : Value) : Except Raised String :=
  match journal.get "stageName", journal.get "backupName" with
  | .str stage, .str backup =>
    if pathParts stage = [stage.toList] ∧
        (Str.startsWith stage ".statedd-upgrade-" ∨ stage = stageName host) ∧
        pathParts backup = [backup.toList] ∧ backup = backupName host then .ok stage
    else .error (lifecycleError "upgrade journal paths are invalid; manual recovery is required")
  | _, _ => .error (lifecycleError "upgrade journal paths are invalid; manual recovery is required")

/-- Whether the instance holds the valid receipt of the journal's plan. -/
def isCommitted (journal : Value) (root : Option Dir) : Except Raised Bool :=
  match root with
  | none => .ok false
  | some dir => do
    let receipt ← receiptOf dir
    let valid ← holdsValidReceipt host dir
    return valid && receipt.any fun receipt => receipt.get "planDigest" = journal.get "planDigest"

/-- `if legacy_journal_path.exists(): legacy_journal_path.unlink()`. -/
def unlinkLegacy (root : Option Dir) : List Step :=
  if (root.bind (·.nodeAt legacyJournalPath)) = none then []
  else [.edit .root (.remove legacyJournalPath)]

/-- `if journal_path.exists(): journal_path.unlink()`. -/
def unlinkJournal (disk : Disk) : List Step :=
  if disk.journal = none then [] else [.unlinkJournal]

/-- Finish a committed upgrade. -/
def rollForward (stageSlot : Slot) (disk : Disk) : List Step :=
  rmtreeIfExists order stageSlot (disk.dirs stageSlot) ++
    rmtreeIfExists order .backup (disk.dirs .backup) ++ unlinkLegacy (disk.dirs .root) ++
    unlinkJournal disk

variable (order : Dir → List RelPath) (disk : Disk)

/-- Put the original instance back. -/
def restoreBackup : Except Raised (List Step) :=
  match disk.dirs .backup, disk.dirs .root with
  | some _, root => .ok (rmtreeIfExists order .root root ++ [.replace .backup .root])
  | none, some _ => .ok []
  | none, none => .error (lifecycleError "upgrade recovery has no original instance backup")

/-- Undo an upgrade that is not committed. -/
def rollBack (stageSlot : Slot) (disk : Disk) : Except Raised (List Step) := do
  let restore ← restoreBackup order disk
  let root := if (disk.dirs .backup).isSome then disk.dirs .backup else disk.dirs .root
  return restore ++ rmtreeIfExists order stageSlot (disk.dirs stageSlot) ++ unlinkLegacy root ++
    unlinkJournal disk

/-- Without a journal there may be nothing to recover. -/
def refuseOrphans : Except Raised (List Step) := do
  raiseIf ((disk.dirs .stage).isSome)
    (lifecycleError "orphaned upgrade stage requires manual recovery")
  raiseIf ((disk.dirs .backup).isSome)
    (lifecycleError "orphaned upgrade backup requires manual recovery")
  return []

/-- The steps of `_recover_interrupted_upgrade`, given the journal. -/
def recoverWith (journal : Value) : Except Raised (List Step) := do
  let stage ← journalStage host journal
  let committed ← isCommitted host journal (disk.dirs .root)
  if committed then return rollForward order (slotNamed host stage) disk
  else rollBack order (slotNamed host stage) disk

/-- The steps of `_recover_interrupted_upgrade`. -/
def recoverSteps : Except Raised (List Step) := do
  match ← findJournal host disk with
  | none => refuseOrphans disk
  | some journal => recoverWith host order disk journal

/-- `_recover_interrupted_upgrade` decides on `steps`. -/
def Recovery (steps : List Step) : Prop :=
  ∃ order, IsRemovalOrder order ∧ recoverSteps host order disk = .ok steps

end StatePort.Lifecycle
