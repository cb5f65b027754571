import StatePort.Algorithm.Table
import StatePort.Updater.Journal

/-!
# The journal records of the updater's store

The pending journal and the archived journals of `packages/updater/src/stateport_updater/store.py`,
with the reads and writes of `safe_io.py`. The pending journal is replaced in place; an archived
journal is written once, under the id of its transaction.

A file is a document or something that `read_json` refuses. `Disk` says how the operating system
carries out the writes. `create_json` does not remove what a failed write leaves, and a removal may
have taken place when its synchronisation fails.
-/

namespace StatePort.Updater

/-! ### Files -/

/-- The content of a file: a document, or one that `read_json` refuses with this code. -/
inductive Content where
  | document (value : Json)
  | unreadable (code : String)

/-- How a file is created: it is not; it is, but what it holds is cut or not synchronised; it is,
but its directory is not synchronised. -/
inductive Creation where
  | done
  | refused
  | cut (content : Content)
  | unsynced

/-- How a file is removed: it is not, or it is and its directory is not synchronised. -/
inductive Removal where
  | done
  | refused
  | unsynced
deriving DecidableEq

structure Disk where
  creation : Creation
  removal : Removal

def readJson (content : Content) (label : String) : Except StoreError Json :=
  match content with
  | .unreadable code => .error (.safeIo code ("could not read " ++ label))
  | .document value => do
    raiseIf (value.isDict = false) (.safeIo "state_invalid" (label ++ " must contain an object"))
    return value

def maxDocumentBytes : ℕ := 2 * 1024 * 1024

def maxDocumentDepth : ℕ := 64

def maxDocumentNodes : ℕ := 100000

def checkDocument (value : Json) (label : String) : Except StoreError Unit := do
  raiseIf (value.isFinite = false) .untyped
  raiseIf (maxDocumentBytes < ((value.text .raw).map Char.utf8Size).sum + 1)
    (.safeIo "document_too_large" (label ++ " exceeds the document size limit"))
  raiseIf (maxDocumentDepth < value.depth ∨ maxDocumentNodes < value.nodes)
    (.safeIo "document_too_complex" (label ++ " exceeds bounded complexity"))

/-- `create_json` for a file that does not exist: what the file holds then, and whether it raises.
-/
def createJson (creation : Creation) (value : Json) (label : String) :
    Option Content × Except StoreError Unit :=
  match checkDocument value label with
  | .error e => (none, .error e)
  | .ok () =>
    match creation with
    | .done => (some (.document value), .ok ())
    | .refused => (none, .error (.safeIo "state_write_failed" ("could not create " ++ label)))
    | .cut content =>
      (some content, .error (.safeIo "state_write_failed" ("could not create " ++ label)))
    | .unsynced => (some (.document value), .error .untyped)

/-! ### The store -/

/-- The pending journal and the archived journals, by the id of their transaction. -/
structure Store where
  pending : Option Content
  journals : Table (Prod.fst : String × Content → String)

namespace Store

variable (env : Contracts) (s : Store)

def sameJsonOrConflict (existing : Option (String × Content)) (value : Json) (label : String) :
    Except StoreError Bool :=
  match existing with
  | none => .ok false
  | some (_, content) => do
    let existing ← readJson content label
    raiseIf (existing.pyEq env.valueOf value = false)
      (.store "immutable_record_conflict" (label ++ " conflicts with an existing record"))
    return true

/-- The store with what a file of the directory of archived journals holds. -/
def withJournal (name : String) : Option Content → Store
  | none => s
  | some content => { s with journals := s.journals.insert (name, content) }

/-- `_save_immutable`, in the directory of archived journals. -/
def saveImmutable (creation : Creation) (identity : Json) (value : Json) (label : String) :
    Store × Except StoreError Unit :=
  match safeId identity (label ++ " id") with
  | .error e => (s, .error e)
  | .ok name =>
    match sameJsonOrConflict env (s.journals.find? name) value label with
    | .error e => (s, .error e)
    | .ok true => (s, .ok ())
    | .ok false =>
      (s.withJournal name (createJson creation value label).1, (createJson creation value label).2)

def loadPending : Except StoreError (Option Json) :=
  match s.pending with
  | none => .ok none
  | some (.unreadable code) => .error (.store code "could not read pending update journal")
  | some (.document value) => do
    raiseIf (value.isDict = false)
      (.store "state_invalid" "pending update journal must contain an object")
    let journal ← validatedJournal env value
    return some journal

/-- What `archive_journal` compares: the pending journal that is to be removed, if there is one. -/
def currentPending (validated : Json) (expectedDigest : Option String) :
    Except StoreError (Option Json) := do
  match ← s.loadPending env with
  | none => return none
  | some current =>
    raiseIf (∃ digest ∈ expectedDigest, current.get "journalDigest" ≠ .str digest)
      (.store "journal_conflict" "pending update journal changed before terminal archival")
    raiseIf (current.pyEq env.valueOf validated = false)
      (.store "journal_conflict" "pending update journal changed before archival")
    return some current

/-- `archive_journal`, after the journal has been archived. -/
def clearPending (removal : Removal) (validated : Json) (expectedDigest : Option String) :
    Store × Except StoreError Unit :=
  match s.currentPending env validated expectedDigest with
  | .error e => (s, .error e)
  | .ok none => (s, .ok ())
  | .ok (some _) =>
    match removal with
    | .done => ({ s with pending := none }, .ok ())
    | .refused =>
      (s, .error (.safeIo "state_write_failed" "could not remove pending update journal"))
    | .unsynced => ({ s with pending := none },
      .error (.safeIo "state_write_failed" "could not remove pending update journal"))

/-- `archive_journal`: the store that it leaves, and whether it raises. -/
def archiveJournal (disk : Disk) (journal : Json) (expectedDigest : Option String) :
    Store × Except StoreError Unit :=
  match validatedJournal env journal with
  | .error e => (s, .error e)
  | .ok validated =>
    match s.saveImmutable env disk.creation (validated.get "transactionId") validated
      "update journal" with
    | (archived, .error e) => (archived, .error e)
    | (archived, .ok ()) => archived.clearPending env disk.removal validated expectedDigest

end Store

end StatePort.Updater
