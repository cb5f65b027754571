import StatePort.Lifecycle.Documents

/-!
# The shape of a lock

`_validate_lock`: the checks that a lock passes before anything in it is looked at. `requireMember`,
`requireDigest` and `validateEntries` are the checks that recur; the entries of `files`, `trees` and
`retired` differ in the fields that `checkFile`, `checkTree` and `checkRetired` look at.
-/

namespace StatePort.Lifecycle

def lockFormat : String := "statedd.lock/v1"

def sourceDescriptorFormat : String := "statedd.source/v1"

def sourceDescriptorV2Format : String := "statedd.source/v2"

def owners : List String := ["template", "instance", "generated"]

def merges : List String := ["replace", "preserve", "append_only"]

def sensitivities : List String := ["public", "internal", "private", "secret"]

def retirementPolicies : List String := ["retain", "remove_if_unmodified"]

/-! ### Lexical checks -/

def isHexDigit (c : Char) : Bool := c.isDigit || ('a' ≤ c && c ≤ 'f')

/-- `_DIGEST`. -/
def isDigest (s : String) : Bool :=
  let cs := s.toList
  "sha256:".toList.isPrefixOf cs && cs.length = 71 && (cs.drop 7).all isHexDigit

/-- `_FULL_COMMIT` and `_FULL_TREE`. -/
def isFullGitId (cs : List Char) : Bool := cs.length = 40 && cs.all isHexDigit

variable (value : Value) (name : String)

/-- `_safe_relative_path`. `Path` has dropped the components `.` already, so the last check of the
source never fires. -/
def safeRelativePath : Except Raised String := do
  let path ← requireString value name
  raiseIf (Str.backslash ∈ path.toList)
    (lifecycleError (name ++ " must use portable '/' separators"))
  raiseIf (path.toList.head? = some '/' ∨ path.toList[1]? = some ':')
    (lifecycleError (name ++ " must be a relative path"))
  raiseIf (['.', '.'] ∈ pathParts path)
    (lifecycleError (name ++ " must not traverse parent directories"))
  return if pathParts path = [] then "." else String.ofList (Str.join ['/'] (pathParts path))

variable (checkRefFormat : String → Bool)

/-- `_safe_git_ref`, over `git check-ref-format`. -/
def safeGitRef (value : Value) : Except Raised String := do
  let ref ← requireString value "requested_ref"
  raiseIf (Str.startsWith ref "-" ∨
      ∃ token ∈ ["..", "@\x7b", "\\", "\n", "\r"], Str.hasSubstring ref token)
    (lifecycleError "requested_ref is not a safe Git ref")
  raiseIf (checkRefFormat ref = false ∧ ref ≠ "HEAD")
    (lifecycleError "requested_ref is not a valid Git ref")
  return ref

/-! ### Checks that recur -/

/-- `if value not in options: raise error`. -/
def requireMember (options : List String) (error : Raised) : Except Raised Unit := do
  let found ← memberOf value options
  raiseIf (found = false) error

/-- A field that has to hold a digest. -/
def requireDigest : Except Raised Unit := do
  let digest ← requireString value name
  raiseIf (isDigest digest = false)
    (.lifecycleError (name ++ " must be a sha256 digest") "incomplete_source_identity")

def requireBool (error : Raised) : Except Raised Unit :=
  match value with
  | .bool _ => .ok ()
  | _ => .error error

def requireDict (error : Raised) : Except Raised Unit :=
  raiseIf (value.isDict = false) error

/-- `if value is not None: _require_string(value, name)`. -/
def requireOptionalString : Except Raised Unit :=
  if value = .null then .ok ()
  else do
    _ ← requireString value name
    return ()

/-- `_require_string`, of which only the check is used. -/
def checkString : Except Raised Unit := do
  _ ← requireString value name
  return ()

/-! ### The template's source -/

variable (template source : Value)

/-- A source descriptor of the first version. -/
def validateSourceV1 : Except Raised Unit := do
  raiseIf (source.get "kind" ≠ .str "local")
    (lifecycleError "only local lock sources are supported")
  checkString (source.get "path") "lock.template.source.path"
  requireDigest (source.get "identity") "lock.template.source.identity"
  raiseIf (source.get "identity" ≠ template.get "sourceRevision")
    (.lifecycleError "lock source identity does not match sourceRevision"
      "source_provenance_mismatch")
  raiseIf (template.get "sourcePath" ≠ source.get "path")
    (.lifecycleError "lock source path does not match sourcePath" "source_provenance_mismatch")

/-- A field that has to hold a full Git id. -/
def requireGitId (field : String) : Except Raised Unit := do
  let value ← requireString (source.get field) ("lock.template.source." ++ field)
  raiseIf (isFullGitId (Str.lower value.toList) = false)
    (lifecycleError ("lock.template.source." ++ field ++ " must be a full Git id"))

def validateGitSource (source : Value) : Except Raised Unit := do
  raiseIf (source.get "sourceClass" ≠ .str "canonical_source" ∨
      source.get "productionEligible" ≠ .bool true)
    (lifecycleError "Git lock sources must be canonical and production eligible")
  requireGitId source "resolvedCommit"
  requireGitId source "resolvedTree"
  checkString (source.get "repository") "lock.template.source.repository"
  checkString (source.get "requestedRef") "lock.template.source.requestedRef"
  _ ← safeGitRef checkRefFormat (source.get "requestedRef")
  requireDigest (source.get "manifestDigest") "lock.template.source.manifestDigest"

/-- What a local source of the second version has to declare. -/
def validateLocalSource : Except Raised Unit :=
  raiseIf (source.get? "resolvedCommit" ≠ some .null)
    (.lifecycleError "local v2 lock source must explicitly declare resolvedCommit: null"
      "incomplete_source_identity")

/-- A source descriptor of the second version. -/
def validateSourceV2 (template source : Value) : Except Raised Unit := do
  requireMember (source.get "kind") ["local_development", "git"]
    (lifecycleError "unsupported v2 lock source kind")
  checkString (source.get "checkoutLocation") "lock.template.source.checkoutLocation"
  requireDigest (source.get "sourceDigest") "lock.template.source.sourceDigest"
  requireMember (source.get "sourceClass")
    ["canonical_source", "synthetic_fixture", "compatibility_fixture"]
    (lifecycleError "lock.template.source.sourceClass is invalid")
  requireBool (source.get "productionEligible")
    (lifecycleError "lock.template.source.productionEligible must be a boolean")
  if source.get "kind" = .str "git" then validateGitSource checkRefFormat source
    else validateLocalSource source
  raiseIf (template.get "sourcePath" ≠ source.get "checkoutLocation")
    (.lifecycleError "lock source checkoutLocation does not match sourcePath"
      "source_provenance_mismatch")
  raiseIf (source.get "sourceDigest" ≠ template.get "sourceRevision")
    (.lifecycleError "lock source digest does not match sourceRevision"
      "source_provenance_mismatch")

/-- The checks of `lock.template.source`. -/
def validateSource (template source : Value) : Except Raised Unit :=
  if source = .null then .ok ()
  else do
    requireDict source (lifecycleError "lock.template.source must be a mapping")
    if source.get "formatVersion" = .str sourceDescriptorFormat then
      validateSourceV1 template source
    else if source.get "formatVersion" = .str sourceDescriptorV2Format then
      validateSourceV2 checkRefFormat template source
    else .error (lifecycleError "lock.template.source.formatVersion is unsupported")

/-- The checks of `lock.template`. -/
def validateTemplate (template : Value) : Except Raised Unit := do
  requireDict template (lifecycleError "lock.template must be a mapping")
  checkString (template.get "id") "lock.template.id"
  checkString (template.get "version") "lock.template.version"
  requireDigest (template.get "sourceRevision") "lock.template.sourceRevision"
  requireOptionalString (template.get "sourcePath") "lock.template.sourcePath"
  validateSource checkRefFormat template (template.get "source")

/-! ### Entries -/

variable (label : String) (entry : Value)

/-- The hashes of an entry, each absent or a string. -/
def checkHashes (names : List String) : Except Raised Unit :=
  names.forM fun name => requireOptionalString (entry.get name) (label ++ "." ++ name)

/-- `entry.get("retirementPolicy", "retain")` and what it requires of the owner. -/
def checkRetirementPolicy : Except Raised Unit := do
  let policy := (entry.get? "retirementPolicy").getD (.str "retain")
  requireMember policy retirementPolicies (lifecycleError (label ++ ".retirementPolicy is invalid"))
  raiseIf (policy = .str "remove_if_unmodified" ∧ entry.get "owner" ≠ .str "generated")
    (lifecycleError (label ++ ".retirementPolicy removal requires generated ownership"))

/-- The fields of an entry of `lock.files`. -/
def checkFile : Except Raised Unit := do
  requireMember (entry.get "owner") owners (lifecycleError (label ++ ".owner is invalid"))
  requireMember (entry.get "merge") merges (lifecycleError (label ++ ".merge is invalid"))
  requireBool (entry.get "required") (lifecycleError (label ++ ".required must be a boolean"))
  requireMember (entry.get "sensitivity") sensitivities
    (lifecycleError (label ++ ".sensitivity is invalid"))
  checkRetirementPolicy label entry
  checkHashes label entry ["sourceHash", "materializedHash"]

/-- The fields of an entry of `lock.trees`. -/
def checkTree : Except Raised Unit := do
  requireMember (entry.get "owner") owners (lifecycleError (label ++ ".owner is invalid"))
  requireMember (entry.get "sensitivity") sensitivities
    (lifecycleError (label ++ ".sensitivity is invalid"))
  checkHashes label entry ["baselineHash", "materializedHash"]

/-- The fields of an entry of `lock.retired`. -/
def checkRetired : Except Raised Unit := do
  requireMember (entry.get "owner") owners (lifecycleError (label ++ ".owner is invalid"))
  checkRetirementPolicy label entry
  requireMember (entry.get "disposition") ["retained", "removed"]
    (lifecycleError (label ++ ".disposition is invalid"))
  checkHashes label entry ["baselineHash", "currentHash"]

/-- The entries of one list of the lock from `index` on, and the paths seen by then. A path may not
repeat one of `seen` or of `taken`. -/
def validateEntries (name : String) (check : String → Value → Except Raised Unit)
    (taken : List String) : ℕ → List String → List Value → Except Raised (List String)
  | _, seen, [] => .ok seen
  | index, seen, entry :: entries => do
    let label := name ++ "[" ++ toString index ++ "]"
    requireDict entry (lifecycleError (label ++ " must be a mapping"))
    let path ← safeRelativePath (entry.get "path") (label ++ ".path")
    raiseIf (path ∈ seen ∨ path ∈ taken)
      (lifecycleError (name ++ " contains duplicate path '" ++ path ++ "'"))
    check label entry
    validateEntries name check taken (index + 1) (seen ++ [path]) entries

variable (lock : Value)

/-- A field that has to hold a list; a missing one is empty. -/
def requireList (field : String) : Except Raised (List Value) :=
  match lock.get? field with
  | none => .ok []
  | some (.list items) => .ok items
  | some _ => .error (lifecycleError ("lock." ++ field ++ " must be a list"))

/-- `lock.files`, which may not be empty. -/
def requireFiles : Except Raised (List Value) :=
  match lock.get "files" with
  | .list (item :: items) => .ok (item :: items)
  | _ => .error (lifecycleError "lock.files must be a non-empty list")

/-- `lock.history`. -/
def validateHistory : Except Raised Unit :=
  match (lock.get? "history").getD (.list []) with
  | .list items =>
    raiseIf (items.any (fun item => !item.isDict))
      (lifecycleError "lock.history must be a list of mappings")
  | _ => .error (lifecycleError "lock.history must be a list of mappings")

def validateLock (lock : Value) : Except Raised Value := do
  raiseIf (lock.get "formatVersion" ≠ .str lockFormat)
    (lifecycleError ("lock formatVersion must be '" ++ lockFormat ++ "'"))
  checkString (lock.get "instanceId") "lock.instanceId"
  validateTemplate checkRefFormat (lock.get "template")
  let files ← requireFiles lock
  let seen ← validateEntries "lock.files" checkFile [] 0 [] files
  let trees ← requireList lock "trees"
  _ ← validateEntries "lock.trees" checkTree [] 0 [] trees
  let retired ← requireList lock "retired"
  _ ← validateEntries "lock.retired" checkRetired seen 0 [] retired
  validateHistory lock
  return lock

/-- `_read_lock`, given the content of the file. -/
def readLock (content : Content) : Except Raised Value := do
  let lock ← readContent content "lock.yaml"
  validateLock checkRefFormat lock

end StatePort.Lifecycle
