import StatePort.Document.Yaml

/-!
# Lifecycle documents

How `packages/statedd-core/src/statedd_core/lifecycle.py` writes and reads its documents (locks,
plans, receipts and journals): `_dump_yaml` on one side, `_read_yaml` on the other, and the digest
of a document.
-/

namespace StatePort.Lifecycle

open Yaml Str

/-- Why a document could not be read. -/
inductive ReadFailure where
  | notText
  | yaml (error : YamlError)
deriving DecidableEq

/-- An exception: a `LifecycleError` with its message and code, one that wraps the reason why a
document is unreadable, or an exception of another class. -/
inductive Raised where
  | lifecycleError (message : String) (code : String)
  | unreadable (label : String) (cause : ReadFailure)
  | typeError
deriving DecidableEq

/-- `LifecycleError(message)`. -/
def lifecycleError (message : String) : Raised := .lifecycleError message "lifecycle_error"

/-- Whether `except LifecycleError` catches the exception. -/
def Raised.isLifecycleError : Raised → Bool
  | .lifecycleError .. | .unreadable .. => true
  | .typeError => false

/-- `try: x except LifecycleError: return default`. -/
def catching {α : Type} (x : Except Raised α) (default : α) : Except Raised α :=
  match x with
  | .ok a => .ok a
  | .error e => if e.isLifecycleError then .ok default else .error e

/-! ### Writing -/

def quote (value : String) : List Char :=
  doubleQuote ::
    (value.toList.map fun c => if c = doubleQuote then apostrophe else c) ++
      [doubleQuote]

/-- Whether `str` writes a number: one of more than 4300 digits raises `ValueError`. -/
def isWritable (n : ℤ) : Bool := (Nat.toDigits 10 n.natAbs).length ≤ 4300

/-- A scalar as `_dump_yaml` writes it. The text of a list inside a list is Python's `str` of it,
which no lifecycle document needs and which has no text here. -/
def rendered : Value → Option (List Char)
  | .null => some "null".toList
  | .bool true => some "true".toList
  | .bool false => some "false".toList
  | .int n => if isWritable n then some (toString n).toList else none
  | .str s => some (quote s)
  | .list _ | .dict _ => none

def spaces (indent : ℕ) : List Char := List.replicate indent ' '

mutual

/-- The lines of the field whose name `head` ends in; a nested document starts at `nestedIndent`. -/
def dumpField (head : List Char) (nestedIndent : ℕ) : Value → Option (List (List Char))
  | .dict [] => some [head ++ [':', ' ', Char.ofNat 123, Char.ofNat 125]]
  | .dict (field :: fields) => do
    let lines ← dumpFields nestedIndent (field :: fields)
    return (head ++ [':']) :: lines
  | .list [] => some [head ++ [':', ' ', '[', ']']]
  | .list (item :: items) => do
    let lines ← dumpItems nestedIndent (item :: items)
    return (head ++ [':']) :: lines
  | value => do
    let text ← rendered value
    return [head ++ ':' :: ' ' :: text]

/-- `_dump_yaml` of a mapping. -/
def dumpFields (indent : ℕ) : List (String × Value) → Option (List (List Char))
  | [] => some []
  | (key, value) :: fields => do
    let lines ← dumpField (spaces indent ++ key.toList) (indent + 2) value
    let rest ← dumpFields indent fields
    return lines ++ rest

/-- The lines of one item of a list. A mapping continues two columns to the right of its dash; an
empty one has no first key, and `keys[0]` raises `IndexError`. -/
def dumpItem (indent : ℕ) : Value → Option (List (List Char))
  | .dict [] => none
  | .dict ((first, value) :: fields) => do
    let lines ← dumpField (spaces indent ++ '-' :: ' ' :: first.toList) (indent + 4) value
    let rest ← dumpFields (indent + 2) fields
    return lines ++ rest
  | value => do
    let text ← rendered value
    return [spaces indent ++ '-' :: ' ' :: text]

/-- `_dump_yaml` of a list. -/
def dumpItems (indent : ℕ) : List Value → Option (List (List Char))
  | [] => some []
  | item :: items => do
    let lines ← dumpItem indent item
    let rest ← dumpItems indent items
    return lines ++ rest

end

/-- `_dump_yaml` of a mapping at the top level. -/
def dumpYaml (data : Value) : Option (List (List Char)) := dumpFields 0 data.fields

/-- The payload that `_write_yaml` writes. -/
def payload (data : Value) : Option (List Char) := do
  let lines ← dumpYaml data
  return join ['\n'] lines ++ ['\n']

/-! ### Reading -/

/-- The text without a document marker on its first line. -/
def withoutMarker (text : List Char) : List Char :=
  match splitlines text with
  | [] => text
  | line :: lines =>
    if rstrip (lstrip line) = ['-', '-', '-'] then join ['\n'] lines ++ ['\n'] else text

/-- `_read_yaml`, given the text of the file. -/
def readYaml (text : List Char) (label : String) : Except Raised Value :=
  match parseYamlText (withoutMarker text) with
  | .error e => .error (.unreadable label (.yaml e))
  | .ok (.dict fields) => .ok (.dict fields)
  | .ok _ => .error (lifecycleError (label ++ " must contain a mapping"))

/-! ### Files -/

/-- The bytes of a file: a text in UTF-8, or bytes that no text has. -/
inductive Content where
  | text (chars : List Char)
  | binary (bytes : List UInt8)
deriving DecidableEq

/-- `_read_yaml`. -/
def readContent (content : Content) (label : String) : Except Raised Value :=
  match content with
  | .text chars => readYaml chars label
  | .binary _ => .error (.unreadable label .notText)

/-- `_canonical_digest`, over a hash of bytes. -/
def canonicalDigest (hashBytes : Content → String) (value : Value) : String :=
  hashBytes (.text value.json)

def requireString (value : Value) (name : String) : Except Raised String :=
  match value with
  | .str s => do
    raiseIf (strip s = "") (lifecycleError (name ++ " must be a non-empty string"))
    return s
  | _ => .error (lifecycleError (name ++ " must be a non-empty string"))

/-- `value in options`, where `options` is a set of strings: an unhashable value raises. -/
def memberOf (value : Value) (options : List String) : Except Raised Bool :=
  match value with
  | .list _ | .dict _ => .error .typeError
  | .str s => .ok (s ∈ options)
  | _ => .ok false

end StatePort.Lifecycle
