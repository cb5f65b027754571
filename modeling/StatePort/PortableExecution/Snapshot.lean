import StatePort.Algorithm.Table

/-!
# Instance trees and their snapshots

`packages/governed-runner/src/governed_runner/state.py`. A snapshot holds the bytes of every regular
file and the directories below an instance root; it does not hold file modes. Restoring a snapshot
removes what is there and creates every file anew with mode `0o666` less the umask, so that no
restored file is executable.

`Digests` is what the service takes from SHA-256: digests of snapshots, which tell different
snapshots apart, and the names of durable snapshots, which tell runs apart.
-/

namespace StatePort.PortableExecution

/-- A path below the instance root. -/
abbrev Path := String

abbrev Bytes := List UInt8

inductive Entry where
  | file (content : Bytes) (executable : Bool)
  | directory
deriving DecidableEq

/-- What a snapshot records of a path. -/
inductive Node where
  | file (content : Bytes)
  | directory
deriving DecidableEq

/-- The entries below an instance root. -/
abbrev Tree := Table (Prod.fst : Path × Entry → Path)

/-- `StateSnapshot`. -/
abbrev Snapshot := Table (Prod.fst : Path × Node → Path)

def Entry.node : Entry → Node
  | .file content _ => .file content
  | .directory => .directory

/-- A file that `restore_snapshot` creates. -/
def Node.entry : Node → Entry
  | .file content => .file content false
  | .directory => .directory

@[simp] lemma Node.node_entry (node : Node) : node.entry.node = node := by
  cases node with
  | file content => rfl
  | directory => rfl

def snapshotFiles (tree : Tree) : Snapshot :=
  ⟨tree.rows.map fun row => (row.1, row.2.node), by
    rw [List.map_map]
    exact tree.nodup⟩

variable (snapshot : Snapshot)

/-- The tree that `restore_snapshot` leaves. -/
def restoredTree : Tree :=
  ⟨snapshot.rows.map fun row => (row.1, row.2.entry), by
    rw [List.map_map]
    exact snapshot.nodup⟩

def Tree.at? (tree : Tree) (path : Path) : Option Entry := (tree.find? path).map Prod.snd

def Snapshot.at? (path : Path) : Option Node :=
  (snapshot.find? path).map Prod.snd

lemma at?_snapshotFiles (tree : Tree) (path : Path) :
    (snapshotFiles tree).at? path = (tree.at? path).map Entry.node := by
  simp only [Snapshot.at?, Tree.at?, Table.find?, snapshotFiles, List.find?_map, Option.map_map]
  rfl

lemma at?_restoredTree (path : Path) :
    (restoredTree snapshot).at? path = (snapshot.at? path).map Node.entry := by
  simp only [Snapshot.at?, Tree.at?, Table.find?, restoredTree, List.find?_map, Option.map_map]
  rfl

/-! ### Differences -/

/-- An item of `filesChanged`: a path, or the path of a directory with a slash after it. -/
inductive Change where
  | path (path : Path)
  | slashed (path : Path)
deriving DecidableEq

def Node.content? : Node → Option Bytes
  | .file content => some content
  | .directory => none

variable (before after : Snapshot)

def changesAt (path : Path) : List Change :=
  let file (snapshot : Snapshot) := (snapshot.at? path).bind Node.content?
  let directory (snapshot : Snapshot) := snapshot.at? path = some .directory
  (if file before ≠ file after then [.path path] else []) ++
    if directory before ∧ ¬ directory after ∨ ¬ directory before ∧ directory after then
      [.slashed path] else []

/-- `diff_snapshots(before, after)["filesChanged"]`. -/
def filesChanged : List Change :=
  (before.rows.map Prod.fst ++ after.rows.map Prod.fst).flatMap (changesAt before after)

/-- `set(changes["filesChanged"]) == set(paths)`. -/
def changesExactly (paths : List Path) : Bool :=
  (filesChanged before after).all (fun change => change ∈ paths.map Change.path) &&
    paths.all fun path => .path path ∈ filesChanged before after

/-! ### Digests -/

/-- What the service takes from SHA-256. -/
structure Digests (δ : Type) where
  /-- `digest_snapshot`. -/
  snapshot : Snapshot → δ
  /-- `digest({"runId": run_id, "snapshotDigest": digest})[7:]`. -/
  key : String → δ → String
  /-- Snapshots with the same digest have the same files and directories. -/
  at?_eq_of_snapshot_eq : ∀ {s t : Snapshot}, snapshot s = snapshot t → ∀ path, s.at? path = t.at? path
  /-- Runs have different durable snapshots. -/
  runId_eq_of_key_eq : ∀ {r r' : String} {d d' : δ}, key r d = key r' d' → r = r'

/-- Snapshots as their own digests, and runs as the names of their durable snapshots. -/
def Digests.plain : Digests (List (Path × Node)) where
  snapshot s := s.rows
  key runId _ := runId
  at?_eq_of_snapshot_eq := by
    rintro ⟨rows, _⟩ ⟨rows', _⟩ h path
    cases h
    rfl
  runId_eq_of_key_eq := id

end StatePort.PortableExecution
