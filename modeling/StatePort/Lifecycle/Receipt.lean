import StatePort.Algorithm.Table
import StatePort.Lifecycle.Lock

/-!
# Instances and upgrade receipts

An instance is a directory: a table of regular files and directories by their path below the root,
and the inode of the root, which a rename of the directory keeps. Planning refuses an instance with
a symbolic link in it, so there are none here. `validAppliedReceipt` decides whether a receipt
describes the instance it is found in.
-/

namespace StatePort.Lifecycle

/-! ### Directories -/

/-- A path below a root, as its parts. -/
abbrev RelPath := List String

/-- The parts of `Path(value)`. -/
def relPath (value : String) : RelPath := (pathParts value).map String.ofList

/-- `path.as_posix()`. -/
def posix (path : RelPath) : String := if path = [] then "." else "/".intercalate path

inductive Node where
  | file (content : Content)
  | directory
deriving DecidableEq

/-- A file or directory with its path below the root. -/
structure Entry where
  path : RelPath
  node : Node

/-- The directory tree of an instance, with the inode of its root. -/
structure Dir where
  inode : ℕ
  entries : Table Entry.path

namespace Dir

variable (dir : Dir) (path : RelPath)

/-- What is at `path`; the root itself is a directory. -/
def nodeAt : Option Node :=
  if path = [] then some .directory else (dir.entries.find? path).map Entry.node

/-- Unlink the file or empty directory at `path`. -/
def remove : Dir := { dir with entries := dir.entries.erase path }

/-- Create the file or directory at `path`, or replace the file there. -/
def put (node : Node) : Dir :=
  { dir with entries := (dir.entries.erase path).insert ⟨path, node⟩ }

/-- `os.replace(source, target)` of a file. -/
def rename (source target : RelPath) : Dir :=
  match dir.nodeAt source with
  | some node => (dir.remove source).put target node
  | none => dir

/-- The paths of all files and directories below the root. -/
def paths : List RelPath := dir.entries.rows.map Entry.path

end Dir

/-! ### What the code sees of the host -/

/-- The surroundings of an instance: where its root is, the device it is on, the hash of bytes, and
the two functions of the source that ask Git. `describeTemplateSource` may read the files of the
instance below the path it is given. -/
structure Host where
  (rootPath name : String)
  device : ℤ
  hashBytes : Content → String
  checkRefFormat : String → Bool
  describeTemplateSource : Dir → RelPath → Except Raised Value

variable (host : Host)

/-- Resolve `.` and `..` lexically: `path` is what is resolved so far. -/
def resolveParts (path : RelPath) : List String → RelPath
  | [] => path
  | part :: parts => if part = ".." then resolveParts path.dropLast parts
    else resolveParts (path ++ [part]) parts

/-- `_confined`, as the path below the root. -/
def confined (relative label : String) : Except Raised RelPath := do
  let root := relPath host.rootPath
  let candidate := resolveParts root (relPath relative)
  raiseIf (root.isPrefixOf candidate = false) (lifecycleError (label ++ " escapes its root"))
  return candidate.drop root.length

variable (dir : Dir)

def instanceRootIdentity : Value :=
  Value.ofFields [("path", .str host.rootPath), ("device", .int host.device),
    ("inode", .int dir.inode)]

/-- `_instance_file_hash`: whether the path exists, its hash, and why it is not safe. -/
def instanceFileHash (path : String) : Bool × Option String × Option String :=
  match confined host path ("instance file " ++ path) with
  | .error _ => (false, none, some ("instance file " ++ path ++ " escapes its root"))
  | .ok target =>
    match dir.nodeAt target with
    | none => (false, none, none)
    | some .directory => (true, none, some "manifest-owned path is not a regular file")
    | some (.file content) => (true, some (host.hashBytes content), none)

/-- The record of one file below `tree`; directories have none. -/
def treeRecord (tree : RelPath) (entry : Entry) : Option Value :=
  match entry.node with
  | .file content => some (Value.ofFields
      [("path", .str (posix (entry.path.drop tree.length))), ("hash", .str (host.hashBytes content))])
  | .directory => none

def treeDigest (path : String) : Except Raised String := do
  let tree ← confined host path ("tree " ++ path)
  raiseIf (dir.nodeAt tree ≠ some .directory)
    (lifecycleError ("tree is not a safe directory: " ++ path))
  let below := dir.entries.rows.filter fun entry =>
    tree.isPrefixOf entry.path && entry.path.length ≠ tree.length
  let sorted := below.insertionSort fun a b => Str.lexLT Str.isLess b.path a.path = false
  return canonicalDigest host.hashBytes (.list (sorted.filterMap (treeRecord host tree)))

/-! ### Receipts -/

def upgradeReceiptFormat : String := "statedd.upgrade-receipt/v1"

def lockPath : RelPath := [".statedd", "lock.yaml"]

def receiptPath : RelPath := [".statedd", "upgrade-receipt.yaml"]

def receiptDigest (receipt : Value) : String :=
  canonicalDigest host.hashBytes (receipt.without "receiptDigest")

/-- `_source_descriptors_match`: two descriptors without the fields that only observe the
checkout. -/
def sourceDescriptorsMatch (left right : Value) : Bool :=
  (left.without "checkoutLocation").without "requestedRef" =
    (right.without "checkoutLocation").without "requestedRef"

/-- `_read_lock` of the instance. -/
def lockOf : Except Raised Value :=
  match dir.nodeAt lockPath with
  | some (.file content) => readLock host.checkRefFormat content
  | _ => .error (.unreadable "lock.yaml" .notText)

variable (entry : Value)

/-- Whether the loops over the lock look at the entry: it records a hash and the instance does not
own it. -/
def isLocked : Bool :=
  entry.get "materializedHash" ≠ .null && entry.get "owner" ≠ .str "instance"

/-- The text of an entry's path, which a validated lock has. -/
def entryPath : String := ((entry.get "path").str?).getD ""

/-- The locked file has its recorded hash. -/
def fileMatches : Bool :=
  match instanceFileHash host dir (entryPath entry) with
  | (true, some current, none) => entry.get "materializedHash" = .str current
  | _ => false

/-- The locked tree has its recorded digest. -/
def treeMatches : Except Raised Bool :=
  catching (do
    let digest ← treeDigest host dir (entryPath entry)
    return entry.get "materializedHash" = .str digest) false

/-- `all(...)` over checks that may raise, which stops at the first that fails. -/
def allOk {α : Type} (check : α → Except Raised Bool) : List α → Except Raised Bool
  | [] => .ok true
  | a :: as => do
    let passed ← check a
    if passed then allOk check as else return false

/-- The target's source is the lock's, or both are the source embedded in the instance. -/
def sourceMatches (target template : Value) : Except Raised Bool :=
  if target.get "source" = template.get "source" then .ok true
  else
    match template.get "sourcePath" with
    | .str relative =>
      if relative.toList.head? = some '/' then .ok false
      else catching (do
        let embedded ← confined host relative "receipt embedded source"
        if (target.get "source").isDict ∧ (template.get "source").isDict ∧
            sourceDescriptorsMatch (target.get "source") (template.get "source") then do
          let described ← host.describeTemplateSource dir embedded
          return sourceDescriptorsMatch (target.get "source") described
        else return false) false
    | _ => .ok false

/-- The part of `_valid_applied_receipt` that compares the receipt with the lock. -/
def receiptMatchesLock (receipt lock : Value) (dir : Dir) : Except Raised Bool :=
  let target := receipt.get "target"
  let template := lock.get "template"
  if (receipt.get "current").isDict = false ∨
      (receipt.get "current").get "rootIdentity" ≠ instanceRootIdentity host dir then .ok false
  else if receipt.get "lockDigest" ≠ .str (canonicalDigest host.hashBytes lock) then .ok false
  else if ((lock.get "files").items.filter isLocked).all (fileMatches host dir) = false then
    .ok false
  else do
    let trees ← allOk (treeMatches host dir) ((lock.get "trees").items.filter isLocked)
    if trees = false ∨ target.isDict = false then return false
    else do
      let source ← sourceMatches host dir target template
      return source && target.get "id" = template.get "id" &&
        target.get "version" = template.get "version"

def validAppliedReceipt (receipt : Value) (dir : Dir) : Except Raised Bool :=
  if receipt.isDict = false ∨ receipt.get "formatVersion" ≠ .str upgradeReceiptFormat then .ok false
  else if receipt.get "status" ≠ .str "applied" ∨
      receipt.get "receiptDigest" ≠ .str (receiptDigest host receipt) then .ok false
  else if (receipt.get "approval").isDict = false ∨
      (receipt.get "approval").get "planDigest" ≠ receipt.get "planDigest" then .ok false
  else
    match lockOf host dir with
    | .ok lock => receiptMatchesLock host receipt lock dir
    | .error e => if e.isLifecycleError then .ok false else .error e

/-- `_read_optional_mapping` of a file of the instance; a directory cannot be read. -/
def readOptionalMapping (node : Option Node) (label : String) : Except Raised (Option Value) :=
  match node with
  | none => .ok none
  | some (.file content) => (readContent content label).map some
  | some .directory => .error (.unreadable label .notText)

/-- The upgrade receipt that the instance holds. -/
def receiptOf : Except Raised (Option Value) :=
  readOptionalMapping (dir.nodeAt receiptPath) "upgrade-receipt.yaml"

/-- Whether the instance holds a valid receipt. -/
def holdsValidReceipt : Except Raised Bool := do
  match ← receiptOf dir with
  | none => return false
  | some receipt => validAppliedReceipt host receipt dir

end StatePort.Lifecycle
