import StatePort.Algorithm.Raise
import StatePort.Document.Dumps

/-!
# The audit log

`packages/audit-log/src/audit_log/log.py`: a file of events, one JSON document on a line, each with
the hash of the one before it. Any number of `AuditLog` objects work on the file; an append takes
the lock, reads and verifies the file, and writes one line at its end.

A file is the list of the documents that `json.loads` reads from its lines. `pyEq` is Python's
equality of a value of a stored event with a value of the caller's data.
-/

namespace StatePort.Audit

/-- An exception of the log: a `ValueError` with its message, or one that Python raises for a line
that is no event and for data that cannot be written. -/
inductive AuditError where
  | value (message : String)
  | untyped
deriving DecidableEq

/-! ### Events -/

/-- `AuditEvent`, with the values that were read from a line. -/
structure AuditEvent where
  (sequence eventType actor subject timestamp data previousHash hash : Json)

namespace AuditEvent

/-- The document whose digest is taken; its fields are in the order of their keys. -/
def payload (event : AuditEvent) : Json :=
  .dict [("actor", event.actor), ("data", event.data), ("eventType", event.eventType),
    ("previousHash", event.previousHash), ("sequence", event.sequence),
    ("subject", event.subject), ("timestamp", event.timestamp)]

/-- `to_dict`, with its fields in the order of their keys. -/
def toDict (event : AuditEvent) : Json :=
  .dict [("actor", event.actor), ("data", event.data), ("eventType", event.eventType),
    ("hash", event.hash), ("previousHash", event.previousHash), ("sequence", event.sequence),
    ("subject", event.subject), ("timestamp", event.timestamp)]

def decode (line : Json) : Option AuditEvent := do
  let sequence ← line.get? "sequence"
  let eventType ← line.get? "eventType"
  let actor ← line.get? "actor"
  let subject ← line.get? "subject"
  let timestamp ← line.get? "timestamp"
  let data ← line.get? "data"
  let previousHash ← line.get? "previousHash"
  let hash ← line.get? "hash"
  return ⟨sequence, eventType, actor, subject, timestamp, data, previousHash, hash⟩

end AuditEvent

/-! ### Verification -/

/-- What the log takes from Python: the digest, the values of floats, and equality. -/
structure Env where
  sha256 : List Char → String
  valueOf : FloatText → Number
  pyEq : Json → PyData → Bool

variable (env : Env)

def expectedHash (event : AuditEvent) : String := "sha256:" ++ env.sha256
    (event.payload.text .ascii)

/-- `verify`, from the event with this index on. -/
def verifyFrom (previous : String) (index : ℕ) : List AuditEvent → Bool
  | [] => true
  | event :: events =>
    Json.sameNumber env.valueOf event.sequence (.int index) &&
      event.previousHash = .str previous && event.hash = .str (expectedHash env event) &&
      verifyFrom (expectedHash env event) (index + 1) events

def verify (events : List AuditEvent) : Bool := verifyFrom env "genesis" 1 events

variable (file : List Json)

def load : Except AuditError (List AuditEvent) :=
  match file.mapM AuditEvent.decode with
  | none => .error .untyped
  | some events => do
    raiseIf (verify env events = false) (.value "audit log integrity check failed")
    return events

/-! ### Appending -/

/-- The arguments of `append`, without the data. -/
structure Entry where
  (eventType actor subject timestamp : String)

def Entry.given (entry : Entry) : Bool :=
  [entry.eventType, entry.actor, entry.subject, entry.timestamp].all fun value =>
    Str.strip value ≠ ""

/-- The hash that the next event names. -/
def lastHash (events : List AuditEvent) : Json :=
  match events.getLast? with
  | none => .str "genesis"
  | some event => event.hash

/-- The event that `_append_current` creates for data which is written as `data`. -/
def newEvent (events : List AuditEvent) (entry : Entry) (data : Json) : AuditEvent :=
  let event : AuditEvent :=
    { sequence := .int (events.length + 1)
      eventType := .str entry.eventType
      actor := .str entry.actor
      subject := .str entry.subject
      timestamp := .str entry.timestamp
      data := data
      previousHash := lastHash events
      hash := .null }
  { event with hash := .str (expectedHash env event) }

/-- `_append_current`: the event, and the file with the line that is read back for it. -/
def appendCurrent (events : List AuditEvent) (entry : Entry)
    (data : List (PyKey × PyData)) : Except AuditError (AuditEvent × List Json) :=
  match (PyData.dict data).dumps env.valueOf with
  | none => .error .untyped
  | some doc =>
    .ok (newEvent env events entry doc, file ++ [(newEvent env events entry doc).toDict.loads])

/-- `append`; missing data is empty. -/
def append (entry : Entry) (data : Option (List (PyKey × PyData))) :
    Except AuditError (AuditEvent × List Json) := do
  raiseIf (entry.given = false) (.value "event_type, actor, subject, and timestamp are required")
  let events ← load env file
  appendCurrent env file events entry (data.getD [])

/-- The first event with the same type and the same values under the correlation keys. -/
def correlated (eventType : String) (data : List (PyKey × PyData)) (keys : List String) :
    List AuditEvent → Except AuditError (Option AuditEvent)
  | [] => .ok none
  | event :: events =>
    if event.eventType ≠ .str eventType then correlated eventType data keys events
    else if event.data.isDict = false then .error .untyped
    else if keys.all fun key => (data.lookup (.str key)).any (env.pyEq (event.data.get key)) then
      .ok (some event)
    else correlated eventType data keys events

def appendOnce (entry : Entry) (data : List (PyKey × PyData))
    (correlationKeys : List String) : Except AuditError ((AuditEvent × Bool) × List Json) := do
  raiseIf (entry.given = false) (.value "event_type, actor, subject, and timestamp are required")
  raiseIf (correlationKeys = [] ∨ ∃ key ∈ correlationKeys, PyKey.str key ∉ data.map Prod.fst)
    (.value "correlation_keys must name fields present in data")
  let events ← load env file
  match ← correlated env entry.eventType data correlationKeys events with
  | some event => return ((event, true), file)
  | none =>
    let (event, file) ← appendCurrent env file events entry data
    return ((event, false), file)

/-! ### Calls -/

/-- A call through any of the `AuditLog` objects. -/
inductive Call where
  | append (entry : Entry) (data : Option (List (PyKey × PyData)))
  | appendOnce (entry : Entry) (data : List (PyKey × PyData)) (correlationKeys : List String)

def nextFile : Call → List Json
  | .append entry data => afterTransaction file (append env file entry data)
  | .appendOnce entry data correlationKeys =>
    afterTransaction file (appendOnce env file entry data correlationKeys)

end StatePort.Audit
