import StatePort.Document.Equality
import StatePort.Lifecycle.Receipt

/-!
# Append-only records

`packages/statedd-core/src/statedd_core/append_only_policy.py`: the records of an append-only file may
only be extended, by a migration marker that the policy registers. `planAppendOnlyMarker` stages one
such update; `applyAppendOnlyUpdate` and `rollbackAppendOnlyUpdate` carry it out and take it back.

A record is Python data in which no dictionary has a key twice. Deep copies are the data itself.
-/

namespace StatePort.Lifecycle.AppendOnly

def migrationMarkerFormat : String := "statedd.migration-marker/v1"

def appendOnlyRollbackMode : String := "transactional_snapshot"

def migrationMarkerType : String := "migration_marker"

/-- What the module takes from Python: the digest of a text and the values of floats. -/
structure Env where
  sha256 : List Char → String
  valueOf : FloatText → Number

/-- Whether `_string` accepts a text. -/
def isNonEmpty (value : String) : Bool := Str.strip value ≠ ""

/-! ### Markers and policies -/

/-- `SENSITIVITIES`. -/
inductive Sensitivity where
  | isPublic | isInternal | isPrivate | isSecret
deriving DecidableEq

def Sensitivity.text : Sensitivity → String
  | .isPublic => "public"
  | .isInternal => "internal"
  | .isPrivate => "private"
  | .isSecret => "secret"

/-- `MigrationMarker`, with what its `__post_init__` checks. -/
structure MigrationMarker where
  (markerId sourceSchema targetSchema : String)
  sensitivity : Sensitivity
  markerId_nonEmpty : isNonEmpty markerId
  sourceSchema_nonEmpty : isNonEmpty sourceSchema
  targetSchema_nonEmpty : isNonEmpty targetSchema
  changes_schema : sourceSchema ≠ targetSchema
deriving DecidableEq

def MigrationMarker.recordId (marker : MigrationMarker) : String := "migration:" ++ marker.markerId

/-- `_policy_path`. The root has no first part and is no policy path either. -/
def isPolicyPath (path : String) : Bool :=
  isNonEmpty path && path.toList.head? ≠ some '/' && Str.backslash ∉ path.toList &&
    path = posix (relPath path) && (relPath path).all (· ≠ "..") &&
    (relPath path).head?.any (· ∉ [".git", ".statedd", ".stateport"])

/-- `AppendOnlyLifecyclePolicy`, with what its `__post_init__` checks. There is one rollback mode. -/
structure AppendOnlyLifecyclePolicy where
  path : String
  sensitivity : Sensitivity
  registeredMarkers : List MigrationMarker
  path_safe : isPolicyPath path
  markers_unique : (registeredMarkers.map MigrationMarker.markerId).Nodup
  markers_sensitivity : ∀ marker ∈ registeredMarkers, marker.sensitivity = sensitivity

namespace AppendOnlyLifecyclePolicy

def create (path : String) (sensitivity : Sensitivity) (registeredMarkers : List MigrationMarker) :
    Except Raised AppendOnlyLifecyclePolicy :=
  if hpath : isPolicyPath path then
    if hunique : (registeredMarkers.map MigrationMarker.markerId).Nodup then
      if hsensitivity : ∀ marker ∈ registeredMarkers, marker.sensitivity = sensitivity then
        .ok ⟨path, sensitivity, registeredMarkers, hpath, hunique, hsensitivity⟩
      else
        let mismatch := registeredMarkers.find? fun marker => marker.sensitivity ≠ sensitivity
        .error (lifecycleError ("marker '" ++ (mismatch.map MigrationMarker.markerId).getD "" ++
          "' sensitivity does not match policy"))
    else .error (lifecycleError "registered migration markers must be unique")
  else .error (lifecycleError "append-only path must be a safe relative data path")

def marker (policy : AppendOnlyLifecyclePolicy) (markerId : String) :
    Except Raised MigrationMarker :=
  match policy.registeredMarkers.find? fun marker => marker.markerId = markerId with
  | some marker => .ok marker
  | none => .error (lifecycleError ("migration marker is not registered: " ++ markerId))

end AppendOnlyLifecyclePolicy

/-! ### Records -/

variable (env : Env)

/-- A record, as the caller passes it. -/
structure Record where
  data : PyData
  wellFormed : data.isWellFormed env.valueOf

variable {env}

namespace Record

variable (record : Record env)

/-- The fields of a mapping; other data is no mapping. -/
def fields? : Option (List (PyKey × PyData)) :=
  match record.data with
  | .dict fields => some fields
  | _ => none

/-- `key in record`. -/
def has (key : String) : Bool := (record.fields?.getD []).any fun field => field.1 = .str key

/-- `record.get(key)`, if that is a text. -/
def text? (key : String) : Option String :=
  match (record.fields?.getD []).find? fun field => field.1 = .str key with
  | some (_, .str value) => some value
  | _ => none

/-- `record == other`. -/
def pyEq (other : Record env) : Bool := record.data.pyEq env.valueOf other.data

end Record

/-- `records == others`. -/
def sameRecords (records others : List (Record env)) : Bool :=
  PyData.pyEqItems env.valueOf (records.map Record.data) (others.map Record.data)

def MigrationMarker.asRecord (env : Env) (marker : MigrationMarker) : Record env where
  data := .dict
    [(.str "formatVersion", .str migrationMarkerFormat), (.str "recordId", .str marker.recordId),
      (.str "recordType", .str migrationMarkerType), (.str "markerId", .str marker.markerId),
      (.str "sourceSchema", .str marker.sourceSchema),
      (.str "targetSchema", .str marker.targetSchema),
      (.str "sensitivity", .str marker.sensitivity.text)]
  wellFormed := by
    simp [PyData.isWellFormed, PyData.isWellFormedFields, PyKey.keyId]

/-- `_string(record.get(key), label)`. -/
def requireText (record : Record env) (key label : String) : Except Raised String :=
  match record.text? key with
  | none => .error (lifecycleError (label ++ " must be a non-empty string"))
  | some value => do
    raiseIf (isNonEmpty value = false) (lifecycleError (label ++ " must be a non-empty string"))
    return value

/-- The record with an index is a mapping, can be written as JSON and has an id. -/
def recordIdOf (index : ℕ) (record : Record env) : Except Raised String := do
  let label := "append-only record " ++ toString index
  raiseIf (record.fields?.isNone) (lifecycleError (label ++ " must be a mapping"))
  raiseIf ((record.data.dumps env.valueOf).isNone ∨
      record.data.isWritable env.valueOf = false)
    (lifecycleError (label ++ " must contain JSON-compatible data"))
  requireText record "recordId" (label ++ ".recordId")

/-- The sensitivity of a record and its migration fields. -/
def checkRecord (policy : AppendOnlyLifecyclePolicy) (recordId : String) (record : Record env) :
    Except Raised Unit := do
  raiseIf (record.text? "sensitivity" ≠ some policy.sensitivity.text)
    (lifecycleError ("append-only record '" ++ recordId ++ "' sensitivity does not match policy"))
  if record.text? "recordType" = some migrationMarkerType then do
    let markerId ← requireText record "markerId" ("record " ++ recordId ++ ".markerId")
    let marker ← policy.marker markerId
    raiseIf (record.pyEq (marker.asRecord env) = false)
      (lifecycleError ("registered migration marker '" ++ markerId ++ "' was rewritten"))
  else
    raiseIf (["markerId", "sourceSchema", "targetSchema"].any record.has)
      (lifecycleError ("record '" ++ recordId ++ "' has unregistered migration fields"))

/-- The loop of `_normalise_records`, from an index on, with the ids seen by then. -/
def normaliseFrom (policy : AppendOnlyLifecyclePolicy) :
    ℕ → List String → List (Record env) → Except Raised (List (Record env))
  | _, _, [] => .ok []
  | index, seenIds, record :: records => do
    let recordId ← recordIdOf index record
    raiseIf (recordId ∈ seenIds)
      (lifecycleError ("append-only records contain duplicate recordId: " ++ recordId))
    checkRecord policy recordId record
    let normalised ← normaliseFrom policy (index + 1) (recordId :: seenIds) records
    return record :: normalised

def normaliseRecords (records : List (Record env)) (policy : AppendOnlyLifecyclePolicy) :
    Except Raised (List (Record env)) :=
  normaliseFrom policy 0 [] records

/-! ### Updates -/

variable (env)

structure AppendOnlyUpdate where
  (before after : List (Record env))
  marker : MigrationMarker
  policyPath : String
  sensitivity : Sensitivity
  registeredMarkers : List MigrationMarker
  updateDigest : String

def canonicalDigest (value : PyData) : Except Raised String :=
  match value.dumps env.valueOf with
  | some doc => .ok ("sha256:" ++ env.sha256 (doc.text .ascii))
  | none => .error .typeError

variable {env}

def updatePayload (policy : AppendOnlyLifecyclePolicy) (before after : List (Record env))
    (marker : MigrationMarker) : PyData :=
  .dict [(.str "path", .str policy.path), (.str "sensitivity", .str policy.sensitivity.text),
    (.str "before", .list (before.map Record.data)), (.str "after", .list (after.map Record.data)),
    (.str "marker", (marker.asRecord env).data), (.str "rollback", .str appendOnlyRollbackMode)]

def planAppendOnlyMarker (records : List (Record env)) (marker : MigrationMarker)
    (policy : AppendOnlyLifecyclePolicy) : Except Raised (AppendOnlyUpdate env) := do
  let registered ← policy.marker marker.markerId
  raiseIf (marker ≠ registered)
    (lifecycleError "migration marker does not match its registered definition")
  let before ← normaliseRecords records policy
  raiseIf (before.any (fun record => record.text? "recordType" = some migrationMarkerType &&
      record.text? "markerId" = some marker.markerId))
    (lifecycleError ("migration marker is already present: " ++ marker.markerId))
  let after := before ++ [marker.asRecord env]
  let digest ← canonicalDigest env (updatePayload policy before after marker)
  return ⟨before, after, marker, policy.path, policy.sensitivity, policy.registeredMarkers, digest⟩

/-- The policy that an update was planned under. -/
def AppendOnlyUpdate.policy (update : AppendOnlyUpdate env) :
    Except Raised AppendOnlyLifecyclePolicy :=
  AppendOnlyLifecyclePolicy.create update.policyPath update.sensitivity update.registeredMarkers

def validateUpdate (update : AppendOnlyUpdate env) : Except Raised Unit := do
  let policy ← update.policy
  let marker ← policy.marker update.marker.markerId
  raiseIf (marker ≠ update.marker) (lifecycleError "append-only update marker is not policy-bound")
  let before ← normaliseRecords update.before policy
  let after ← normaliseRecords update.after policy
  raiseIf (sameRecords before update.before = false ∨ sameRecords after update.after = false)
    (lifecycleError "append-only update contains non-canonical records")
  raiseIf (sameRecords after (before ++ [marker.asRecord env]) = false)
    (lifecycleError "append-only update may contain only one registered append")
  let digest ← canonicalDigest env (updatePayload policy before after marker)
  raiseIf (update.updateDigest ≠ digest) (lifecycleError "append-only update digest is invalid")

variable (currentRecords : List (Record env)) (update : AppendOnlyUpdate env)

def applyAppendOnlyUpdate : Except Raised (List (Record env)) := do
  validateUpdate update
  let policy ← update.policy
  let current ← normaliseRecords currentRecords policy
  raiseIf (sameRecords current update.before = false)
    (lifecycleError "append-only update is stale; historical records must remain unchanged")
  return update.after

def rollbackAppendOnlyUpdate : Except Raised (List (Record env)) := do
  validateUpdate update
  let policy ← update.policy
  let current ← normaliseRecords currentRecords policy
  raiseIf (sameRecords current update.after = false)
    (lifecycleError "append-only rollback would rewrite records added after this update")
  return update.before

end StatePort.Lifecycle.AppendOnly
