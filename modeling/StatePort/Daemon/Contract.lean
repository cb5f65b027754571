import StatePort.Algorithm.Raise
import StatePort.Document.Wire

/-!
# The contract of the execution host

The envelope of `packages/execution-host/src/execution_host/daemon_contract.py`: the operations and
the states of workloads, the lexical checks, the operation request and the receipt that answers it.

Validation raises `ValueError` with a message, or an exception that the source does not raise
itself: `TypeError` where a list or an object is looked up in a set, and `UnicodeEncodeError`, which
is a `ValueError`, where a text with a lone surrogate is encoded.
-/

namespace StatePort.Daemon

/-- An exception of the contract's functions. -/
inductive Raised where
  | valueError (message : PyStr)
  | unicodeEncodeError (message : PyStr)
  | typeError
deriving DecidableEq

/-- `except ValueError`. -/
def Raised.isValueError : Raised → Bool
  | .valueError _ | .unicodeEncodeError _ => true
  | .typeError => false

/-- `str(exc)` of a `ValueError`. -/
def Raised.message : Raised → PyStr
  | .valueError message | .unicodeEncodeError message => message
  | .typeError => []

/-- `raise ValueError(message)`. -/
def valueError {α : Type} (message : PyStr) : Except Raised α := .error (.valueError message)

/-! ### Operations and states -/

inductive Operation where
  | describeCapabilities | createWorkload | start | stop | status | logs | cancel | removeWorkload
  | openTerminal | resizeTerminal | signalTerminal | closeTerminal | execWorkload | listWorkloads
  | collectGarbage | runValidator
  | probeDeploymentTarget | applyDeployment | updateDeployment | observeDeployment
  | collectDeploymentLogs | restartDeployment | removeDeploymentRuntime | backupDeploymentData
  | restoreDeploymentData | purgeDeploymentData
deriving DecidableEq

namespace Operation

def name : Operation → String
  | describeCapabilities => "describeCapabilities"
  | createWorkload => "createWorkload"
  | start => "start"
  | stop => "stop"
  | status => "status"
  | logs => "logs"
  | cancel => "cancel"
  | removeWorkload => "removeWorkload"
  | openTerminal => "openTerminal"
  | resizeTerminal => "resizeTerminal"
  | signalTerminal => "signalTerminal"
  | closeTerminal => "closeTerminal"
  | execWorkload => "execWorkload"
  | listWorkloads => "listWorkloads"
  | collectGarbage => "collectGarbage"
  | runValidator => "runValidator"
  | probeDeploymentTarget => "probeDeploymentTarget"
  | applyDeployment => "applyDeployment"
  | updateDeployment => "updateDeployment"
  | observeDeployment => "observeDeployment"
  | collectDeploymentLogs => "collectDeploymentLogs"
  | restartDeployment => "restartDeployment"
  | removeDeploymentRuntime => "removeDeploymentRuntime"
  | backupDeploymentData => "backupDeploymentData"
  | restoreDeploymentData => "restoreDeploymentData"
  | purgeDeploymentData => "purgeDeploymentData"

/-- `DEPLOYMENT_OPERATIONS`. -/
def deployment : List Operation :=
  [probeDeploymentTarget, applyDeployment, updateDeployment, observeDeployment,
    collectDeploymentLogs, restartDeployment, removeDeploymentRuntime, backupDeploymentData,
    restoreDeploymentData, purgeDeploymentData]

/-- `OPERATIONS`. -/
def all : List Operation :=
  [describeCapabilities, createWorkload, start, stop, status, logs, cancel, removeWorkload,
    openTerminal, resizeTerminal, signalTerminal, closeTerminal, execWorkload, listWorkloads,
    collectGarbage, runValidator] ++ deployment

/-- The operation that a document names. -/
def ofWire? (value : Wire) : Option Operation :=
  all.find? fun operation => value.isStr operation.name

end Operation

/-- `WORKLOAD_KINDS`. -/
inductive Kind where
  | agentRun | capsuleService | browserJourney | terminal | workspace | validatorRun
deriving DecidableEq

def Kind.name : Kind → String
  | .agentRun => "agent-run"
  | .capsuleService => "capsule-service"
  | .browserJourney => "browser-journey"
  | .terminal => "terminal"
  | .workspace => "workspace"
  | .validatorRun => "validator-run"

/-- `WORKLOAD_STATES`, and the state of a reservation. -/
inductive State where
  | reserved | created | running | stopped | exited | timedOut | cancelled | interrupted | failed
  | cleanupFailed | removed
deriving DecidableEq

namespace State

def name : State → String
  | reserved => "reserved"
  | created => "created"
  | running => "running"
  | stopped => "stopped"
  | exited => "exited"
  | timedOut => "timed_out"
  | cancelled => "cancelled"
  | interrupted => "interrupted"
  | failed => "failed"
  | cleanupFailed => "cleanup_failed"
  | removed => "removed"

/-- `TERMINAL_STATES`. -/
def isTerminal (state : State) : Bool :=
  state ∈ [exited, timedOut, cancelled, interrupted, failed, removed]

end State

def receiptFormat : String := "stateport.execution-host-receipt/v1"

def maxOutputBytes : ℤ := 4 * 1024 * 1024

def maxWorkloads : ℕ := 64

/-! ### Lexical checks -/

variable (c : CodePoint)

namespace PyStr

/-- An ASCII character between two others. -/
def isBetween (low high : Char) (c : CodePoint) : Bool := low.toNat ≤ c.val && c.val ≤ high.toNat

def isAsciiDigit : Bool := isBetween '0' '9' c

def isAsciiAlnum : Bool :=
  isBetween 'a' 'z' c || isBetween 'A' 'Z' c || isAsciiDigit c

/-- `[0-9a-f]`. -/
def isLowerHex : Bool := isAsciiDigit c || isBetween 'a' 'f' c

end PyStr

/-- `_ID`: `[A-Za-z0-9][A-Za-z0-9._:-]{0,127}`. -/
def isId : PyStr → Bool
  | [] => false
  | c :: cs => PyStr.isAsciiAlnum c && cs.length ≤ 127 &&
    cs.all fun c => PyStr.isAsciiAlnum c || c ∈ PyStr.of "._:-"

/-- `_DIGEST`: `sha256:[0-9a-f]{64}`. -/
def isDigest (s : PyStr) : Bool :=
  PyStr.startsWith s "sha256:" && (s.drop 7).length = 64 && (s.drop 7).all PyStr.isLowerHex

/-- An identifier that passes `_id`. -/
abbrev Id := { s : PyStr // isId s }

instance : LawfulBEq Id := inferInstance

/-- A digest that passes `_digest`. -/
abbrev Digest := { s : PyStr // isDigest s }

/-- The code point that `re.IGNORECASE` compares in place of another, as far as ASCII letters are
concerned. -/
def foldCase : CodePoint :=
  if PyStr.isBetween 'A' 'Z' c then c + 32
  else if c = 0x130 ∨ c = 0x131 then 105
  else if c = 0x17f then 115
  else if c = 0x212a then 107
  else c

/-- The words of `_SECRET_KEY`. -/
def secretWords : List String :=
  ["apikey", "api_key", "api-key", "authorization", "cookie", "credential", "password", "secret",
    "accesstoken", "access_token", "access-token", "refreshtoken", "refresh_token",
    "refresh-token"]

/-- `_SECRET_KEY.search(key)`. -/
def isSecretKey (key : PyStr) : Bool :=
  let folded := key.map foldCase
  secretWords.any fun word => PyStr.hasSubstring folded word

mutual

def noSecrets (path : PyStr) : Wire → Except Raised Unit
  | .dict fields => noSecretFields path fields
  | .list items => noSecretItems path 0 items
  | _ => .ok ()

def noSecretItems (path : PyStr) (index : ℕ) : List Wire → Except Raised Unit
  | [] => .ok ()
  | item :: items => do
    noSecrets (path ++ "[" ++ PyStr.ofNat index ++ "]") item
    noSecretItems path (index + 1) items

def noSecretFields (path : PyStr) : List (PyStr × Wire) → Except Raised Unit
  | [] => .ok ()
  | (key, item) :: fields =>
    if isSecretKey key then
      match item with
      -- Only the exact empty representation of the deployment schema passes.
      | .list [] =>
        if key = "secrets" ∨ key = "secretCapabilities" then
          noSecretFields path fields
        else
          valueError ("credential-like field is forbidden at " ++ path ++ "." ++ key)
      | _ =>
        valueError ("credential-like field is forbidden at " ++ path ++ "." ++ key)
    else do
      noSecrets (path ++ "." ++ key) item
      noSecretFields path fields

end

variable (value : Wire) (name : PyStr)

/-- `_string`. -/
def checkString : Except Raised PyStr :=
  match value with
  | .str s => do
    raiseIf (PyStr.isBlank s) (.valueError (name ++ " must be a non-empty string"))
    return s
  | _ => valueError (name ++ " must be a non-empty string")

/-- `_id`. -/
def checkId : Except Raised Id := do
  let s ← checkString value name
  if h : isId s then return ⟨s, h⟩
  else valueError (name ++ " has invalid characters")

/-- `_digest`. -/
def checkDigest : Except Raised Digest := do
  let s ← checkString value name
  if h : isDigest s then return ⟨s, h⟩
  else valueError (name ++ " must be a sha256 digest")

/-- `_int`; `True` is not an integer here. -/
def checkInt (minimum maximum : ℤ) : Except Raised ℤ :=
  let message := name ++ PyStr.of s!" must be an integer in [{minimum}, {maximum}]"
  match value with
  | .int n => do
    raiseIf (¬ (minimum ≤ n ∧ n ≤ maximum)) (.valueError message)
    return n
  | _ => valueError message

/-- `set(value) == keys`, for an object. -/
def hasKeys (keys : List String) : Bool :=
  (value.fields.all fun field => field.1 ∈ keys.map PyStr.of) && keys.all fun key => value.has key

/-- `_mapping`. -/
def checkMapping (keys : List String) : Except Raised Wire := do
  raiseIf (value.isDict = false ∨ hasKeys value keys = false)
    (.valueError (name ++ " has an invalid shape"))
  return value

/-! ### Digests -/

/-- What validation takes from the interpreter: SHA-256 in hexadecimal digits, the values of floats,
and the message of a failed `encode`. -/
structure Interpreter where
  sha256 : PyStr → { hex : PyStr // hex.length = 64 ∧ hex.all PyStr.isLowerHex }
  valueOf : FloatText → Number
  encodeMessage : PyStr → PyStr

lemma isDigest_sha256 {hex : PyStr} (h : hex.length = 64 ∧ hex.all PyStr.isLowerHex) :
    isDigest ("sha256:" ++ hex) := by
  have hstart : PyStr.startsWith ("sha256:" ++ hex) "sha256:" := by
    simp [PyStr.startsWith]
  have hdrop : ("sha256:" ++ hex).drop 7 = hex := List.drop_left' (by decide)
  simp [isDigest, hstart, hdrop, h]

variable (py : Interpreter)

/-- `canonical_digest`, of a text that is already canonical. -/
def digestOf (text : PyStr) : Digest :=
  ⟨"sha256:" ++ (py.sha256 text).val, isDigest_sha256 (py.sha256 text).property⟩

def canonicalDigest (value : Wire) : Except Raised Digest := do
  raiseIf (PyStr.isEncodable value.text = false) (.unicodeEncodeError (py.encodeMessage value.text))
  return digestOf py value.text

/-- An interpreter in which every text has the same digest; runs on it can be evaluated. -/
def plainInterpreter : Interpreter where
  sha256 _ := ⟨List.replicate 64 (PyStr.codePoint '0'), by decide⟩
  valueOf _ := .nan
  encodeMessage _ := []

def plainDigest : Digest :=
  ⟨"sha256:" ++ List.replicate 64 (PyStr.codePoint '0'), by decide⟩

/-! ### Requests -/

structure OperationRequest where
  operationId : Id
  operation : Operation
  grantId : Id
  authorityGrantDigest : Digest
  (timeoutSeconds outputByteBound : ℤ)

/-! ### Receipts -/

/-- The credentials of a peer, as the socket reports them. -/
structure Peer where
  (uid gid pid : ℤ)

/-- `{**peer, "grantId": grantId}`. -/
def Peer.record (peer : Peer) (grantId : PyStr) : Wire :=
  .dict [("uid", .int peer.uid), ("gid", .int peer.gid), ("pid", .int peer.pid),
    ("grantId", .str grantId)]

/-- The observation of an operation that observed nothing. -/
def nothingObserved : Wire :=
  .dict [("engine", .null), ("engineVersion", .null), ("imageDigest", .null), ("exitStatus", .null),
    ("startedAt", .null), ("finishedAt", .null)]

def receiptOf (operationId requestDigest : PyStr) (accepted : Bool)
    (refusal requester result observed cleanup : Wire) (receivedAt completedAt : PyStr) : Wire :=
  .dict [("formatVersion", .str receiptFormat), ("operationId", .str operationId),
    ("requestDigest", .str requestDigest), ("accepted", .bool accepted), ("refusal", refusal),
    ("requester", requester), ("result", result), ("observed", observed), ("cleanup", cleanup),
    ("timestamps", .dict [("receivedAt", .str receivedAt), ("completedAt", .str completedAt)])]

def cleanupOf (outcome : String) (detail : PyStr) : Wire :=
  .dict [("outcome", .str outcome), ("detail", .str detail)]

def refusalReceipt (requestDigest operationId : PyStr) (requester : Wire) (reason detail : PyStr)
    (receivedAt completedAt : PyStr) : Except Raised Wire := do
  let reason ← checkId (.str reason) "refusal.reason"
  return receiptOf operationId requestDigest false
    (.dict [("reason", .str reason.val), ("detail", .str (detail.take 500))]) requester .null
    nothingObserved (cleanupOf "not-required" "request refused before execution") receivedAt
    completedAt

/-- The refusal of a receipt is present exactly if the request was not accepted. -/
def checkRefusal (accepted : Bool) (refusal : Wire) : Except Raised Unit :=
  if accepted then
    raiseIf (refusal.isNull = false) (.valueError "accepted receipt must not carry a refusal")
  else do
    let refusal ← checkMapping refusal "refusal" ["reason", "detail"]
    _ ← checkId (refusal.get "reason") "refusal.reason"
    _ ← checkString (refusal.get "detail") "refusal.detail"
    return ()

/-- A field of `observed` that is a string or `None`. -/
def checkObservedText (observed : Wire) (field : String) : Except Raised Unit :=
  match observed.get field with
  | .null | .str _ => .ok ()
  | _ => valueError (PyStr.of s!"observed.{field} must be a string or null")

def checkObserved : Except Raised Unit := do
  let observed ← checkMapping value "observed"
    ["engine", "engineVersion", "imageDigest", "exitStatus", "startedAt", "finishedAt"]
  checkObservedText observed "engine"
  checkObservedText observed "engineVersion"
  checkObservedText observed "imageDigest"
  checkObservedText observed "startedAt"
  checkObservedText observed "finishedAt"
  match observed.get "exitStatus" with
  | .null => return ()
  | status => do
    _ ← checkInt status "observed.exitStatus" (-1) 255
    return ()

def checkRequester : Except Raised Unit := do
  let requester ← checkMapping value "receipt.requester" ["uid", "gid", "pid", "grantId"]
  _ ← checkInt (requester.get "uid") "requester.uid" (-1) (2 ^ 31)
  _ ← checkInt (requester.get "gid") "requester.gid" (-1) (2 ^ 31)
  _ ← checkInt (requester.get "pid") "requester.pid" (-1) (2 ^ 31)
  _ ← checkId (requester.get "grantId") "requester.grantId"
  return ()

/-- `cleanup["outcome"] not in {...}` raises `TypeError` for a list or an object. -/
def checkCleanup : Except Raised Unit := do
  let cleanup ← checkMapping value "cleanup" ["outcome", "detail"]
  let outcome := cleanup.get "outcome"
  raiseIf outcome.isUnhashable .typeError
  raiseIf (outcome.isStr "not-required" = false ∧ outcome.isStr "performed" = false ∧
    outcome.isStr "failed" = false) (.valueError "cleanup.outcome is invalid")
  _ ← checkString (cleanup.get "detail") "cleanup.detail"
  return ()

def receiptKeys : List String :=
  ["formatVersion", "operationId", "requestDigest", "accepted", "refusal", "requester", "result",
    "observed", "cleanup", "timestamps"]

def validateReceipt : Except Raised Wire := do
  noSecrets "$" value
  let data ← checkMapping value "execution receipt" receiptKeys
  raiseIf ((data.get "formatVersion").isStr receiptFormat = false)
    (.valueError "receipt has an invalid formatVersion")
  _ ← checkId (data.get "operationId") "operationId"
  _ ← checkDigest (data.get "requestDigest") "requestDigest"
  match data.get "accepted" with
  | .bool accepted =>
    checkRefusal accepted (data.get "refusal")
    checkRequester (data.get "requester")
    checkObserved (data.get "observed")
    checkCleanup (data.get "cleanup")
    _ ← checkMapping (data.get "timestamps") "timestamps" ["receivedAt", "completedAt"]
    return data
  | _ => valueError "receipt.accepted must be boolean"

end StatePort.Daemon
