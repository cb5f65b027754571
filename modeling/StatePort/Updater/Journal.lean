import StatePort.Authority.Basic
import StatePort.Document.Json

/-!
# The update journal

`_validated_journal` of `packages/updater/src/stateport_updater/store.py`: the checks that a
document passes before the updater stores it as the journal of a transaction, and after it has read
one. The contracts of receipts and of failure evidence are those of the release package; they enter
as predicates (`Contracts`).

The checks of one `if` are made in the order in which Python evaluates them, since some of them
raise an untyped exception on values of the wrong type.
-/

namespace StatePort.Updater

open Authority (isDigest)

/-- An exception of the updater's store: `StoreError` and `SafeIOError` with their codes, or one
that is not typed. -/
inductive StoreError where
  | store (code message : String)
  | safeIo (code message : String)
  | untyped
deriving DecidableEq

/-- What the store takes from elsewhere: the digest, the values of floats and the contracts of the
release package. -/
structure Contracts where
  sha256 : List Char → String
  valueOf : FloatText → Number
  (isReceipt isFailureEvidence : Json → Bool)

/-! ### Lexical checks -/

def journalSchema : String := "stateport.internal-update-journal/v1"

def journalPlanSteps : List String :=
  ["verify", "backup", "pull", "stage", "dry-run-migrations", "start-successor",
    "health-successor", "browser-successor", "studystate-successor", "state-check-successor",
    "switch", "health-accepted-route", "state-check-accepted-route", "retain-predecessor"]

def journalInternalSteps : List String :=
  ["accepted-route-observation", "automatic-rollback", "discard-successor"]

def journalSteps : List String := journalPlanSteps ++ journalInternalSteps

/-- `SAFE_ID`: `[A-Za-z0-9][A-Za-z0-9._-]{0,127}`. -/
def isSafeId (s : String) : Bool :=
  match s.toList with
  | [] => false
  | c :: cs => c.isAlphanum && cs.length ≤ 127 &&
    cs.all fun c => c.isAlphanum || c = '.' || c = '_' || c = '-'

variable (value : Json)

def safeId (label : String) : Except StoreError String :=
  match value with
  | .str s => do
    raiseIf (isSafeId s = false) (.store "invalid_identity" (label ++ " is invalid"))
    return s
  | _ => .error (.store "invalid_identity" (label ++ " is invalid"))

/-- `StoreError("journal_invalid", message)`. -/
def journalInvalid (message : String) : StoreError := .store "journal_invalid" message

/-- The number that digits write, if all of them are ASCII digits. -/
def number? (cs : List Char) : Option ℕ :=
  if cs.all Char.isDigit then some (Str.ofDigits cs) else none

def daysIn (year month : ℕ) : ℕ :=
  if month = 2 then if year % 4 = 0 ∧ (year % 100 ≠ 0 ∨ year % 400 = 0) then 29 else 28
  else if month ∈ [4, 6, 9, 11] then 30 else 31

/-- Whether `_utc_timestamp` accepts a text: `YYYY-MM-DDTHH:MM:SSZ` for a moment that exists. Such
texts are ordered as the moments are. -/
def isUtcTimestamp (s : String) : Bool :=
  match s.toList with
  | [y1, y2, y3, y4, '-', m1, m2, '-', d1, d2, 'T', h1, h2, ':', n1, n2, ':', s1, s2, 'Z'] =>
    match number? [y1, y2, y3, y4], number? [m1, m2], number? [d1, d2], number? [h1, h2],
      number? [n1, n2], number? [s1, s2] with
    | some year, some month, some day, some hour, some minute, some second =>
      1 ≤ year && 1 ≤ month && month ≤ 12 && 1 ≤ day && day ≤ daysIn year month && hour < 24 &&
        minute < 60 && second < 60
    | _, _, _, _, _, _ => false
  | _ => false

def utcTimestamp (label : String) : Except StoreError String :=
  match value with
  | .str s => do
    raiseIf (isUtcTimestamp s = false) (journalInvalid (label ++ " is invalid"))
    return s
  | _ => .error (journalInvalid (label ++ " is invalid"))

/-! ### Access to documents -/

/-- `value in names`; lists and objects are not hashable. -/
def isIn (names : List String) : Except StoreError Bool :=
  match value with
  | .str s => .ok (s ∈ names)
  | .list _ | .dict _ => .error .untyped
  | _ => .ok false

/-- `value.get(key)`, which only objects have. -/
def getOf (key : String) : Except StoreError Json :=
  if value.isDict then .ok (value.get key) else .error .untyped

/-- Whether an object has exactly these keys. -/
def hasKeys (keys : List String) : Bool :=
  value.isDict && keys.all (fun key => (value.get? key).isSome) &&
    value.fields.all fun field => field.1 ∈ keys

variable (env : Contracts)

def journalDigest (journal : Json) : Except StoreError String := do
  let body := journal.without "journalDigest"
  raiseIf (body.isFinite = false) .untyped
  return "sha256:" ++ env.sha256 (body.text .raw)

/-! ### The checks -/

section

variable (journal : Json)

def journalKeys : List String :=
  ["schema", "transactionId", "planId", "planDigest", "authority", "currentReleaseId",
    "successorReleaseId", "phase", "effectDisposition", "intent", "steps", "preparedReceipt",
    "preparedFailureEvidence", "canonicalAuthorityReceipt", "startedAt", "updatedAt",
    "journalDigest"]

/-- The identity of the transaction derives from its plan. -/
def checkIdentity : Except StoreError Unit := do
  raiseIf (hasKeys journal journalKeys = false ∨ journal.get "schema" ≠ .str journalSchema)
    (journalInvalid "pending update journal has an invalid shape")
  for field in ["transactionId", "planId", "currentReleaseId", "successorReleaseId"] do
    _ ← safeId (journal.get field) field
  match journal.get "planDigest" with
  | .str planDigest =>
    raiseIf (isDigest planDigest = false) (journalInvalid "pending plan digest is invalid")
    let suffix := String.ofList ((planDigest.toList.drop "sha256:".length).take 32)
    raiseIf (journal.get "transactionId" ≠ .str ("update_txn_" ++ suffix) ∨
        journal.get "planId" ≠ .str ("update_plan_" ++ suffix) ∨
        journal.get "currentReleaseId" = journal.get "successorReleaseId")
      (journalInvalid "pending transaction identity does not derive from its exact plan")
  | _ => .error (journalInvalid "pending plan digest is invalid")

def unbound : StoreError := journalInvalid "authority scope does not bind the plan digest"

/-- The decision and the reservation bind the plan. -/
def checkDecision (decision reservation : Json) : Except StoreError Unit := do
  raiseIf (decision.get "decision" ≠ .str "authorized") unbound
  raiseIf ((← isIn (decision.get "action") ["apply_update", "rollback_update"]) = false) unbound
  let scope := (decision.get? "scope").getD (.dict [])
  raiseIf ((← getOf scope "runId") ≠ journal.get "planDigest") unbound
  raiseIf ((reservation.get "decision").pyEq env.valueOf decision = false) unbound
  raiseIf ((reservation.get "requestId").pyEq env.valueOf (decision.get "requestId") = false)
    unbound

/-- The claim binds the decision and the reservation. -/
def checkClaim (decision reservation claim : Json) : Except StoreError Unit :=
  raiseIf (claim ≠ .null ∧
      ((claim.get "requestId").pyEq env.valueOf (decision.get "requestId") = false ∨
        (claim.get "reservationId").pyEq env.valueOf (reservation.get "reservationId") = false ∨
        (claim.get "reservationDigest").pyEq env.valueOf (reservation.get "reservationDigest") =
          false ∨
        (claim.get "decisionDigest").pyEq env.valueOf (decision.get "decisionDigest") = false))
    (journalInvalid "authority claim does not bind its decision")

def checkAuthority : Except StoreError Unit := do
  let authority := journal.get "authority"
  raiseIf (hasKeys authority ["decision", "reservation", "claim"] = false)
    (journalInvalid "pending authority binding is invalid")
  let decision := authority.get "decision"
  let reservation := authority.get "reservation"
  let claim := authority.get "claim"
  raiseIf (decision.isDict = false ∨ reservation.isDict = false ∨
      claim ≠ .null ∧ claim.isDict = false)
    (journalInvalid "pending authority records are invalid")
  checkDecision env journal decision reservation
  checkClaim env decision reservation claim

def terminalPhases : List String :=
  ["reserved", "claimed", "claim_not_acquired", "failure_evidence_prepared",
    "retention_reconciliation_required", "cleanup_reconciliation_required", "receipt_prepared",
    "receipt_saved", "state_committed", "authority_finalization_pending", "authority_finalized",
    "link_saved", "completed", "reconciliation_required", "rollback_reconciliation_required"]

def allowedPhases : List String :=
  terminalPhases ++ journalSteps ++ journalSteps.map fun step => "intent_" ++ step

def checkPhase : Except StoreError Unit := do
  match journal.get "phase" with
  | .str phase => raiseIf (phase ∉ allowedPhases) (journalInvalid "pending update phase is invalid")
  | _ => .error (journalInvalid "pending update phase is invalid")
  raiseIf ((← isIn (journal.get "effectDisposition")
      ["not_applied", "partial", "applied", "rolled_back", "unknown"]) = false)
    (journalInvalid "pending effect disposition is invalid")

def checkIntent : Except StoreError Unit := do
  let intent := journal.get "intent"
  if intent = .null then return ()
  raiseIf (hasKeys intent ["step", "effect", "recordedAt"] = false)
    (journalInvalid "pending effect intent is invalid")
  raiseIf ((← isIn (intent.get "step") journalSteps) = false)
    (journalInvalid "pending effect intent is malformed")
  raiseIf ((← isIn (intent.get "effect") ["not_applied", "partial", "applied"]) = false)
    (journalInvalid "pending effect intent is malformed")
  let bound := match intent.get "step" with
    | .str step => ["intent_" ++ step]
    | _ => []
  raiseIf ((← isIn (journal.get "phase") (bound ++ ["reconciliation_required",
      "rollback_reconciliation_required", "cleanup_reconciliation_required",
      "retention_reconciliation_required"])) = false)
    (journalInvalid "pending phase does not bind its effect intent")
  _ ← utcTimestamp (intent.get "recordedAt") "pending effect intent timestamp"

/-- The name and the time of a step. -/
def checkStep (step : Json) : Except StoreError (String × String) := do
  raiseIf (hasKeys step ["step", "at", "evidence"] = false)
    (journalInvalid "pending update step is invalid")
  raiseIf ((← isIn (step.get "step") journalSteps) = false)
    (journalInvalid "pending update step evidence is invalid")
  raiseIf ((step.get "evidence").isDict = false)
    (journalInvalid "pending update step evidence is invalid")
  let moment ← utcTimestamp (step.get "at") "pending update step timestamp"
  match step.get "step" with
  | .str name => return (name, moment)
  | _ => .error .untyped

/-- The names and the times of the steps. -/
def checkSteps : Except StoreError (List (String × String)) :=
  match journal.get "steps" with
  | .list steps => do
    raiseIf (128 < steps.length) (journalInvalid "pending update steps are invalid")
    let checked ← steps.mapM checkStep
    let names := checked.map Prod.fst
    raiseIf (∃ name ∈ names, name ≠ "accepted-route-observation" ∧ 1 < names.count name)
      (journalInvalid "pending update steps repeat an effect or gate")
    return checked
  | _ => .error (journalInvalid "pending update steps are invalid")

/-- The prepared receipt is the one of this transaction. -/
def checkPrepared (stepNames : List String) : Except StoreError Unit := do
  let prepared := journal.get "preparedReceipt"
  if prepared = .null then return ()
  raiseIf (env.isReceipt prepared = false) (journalInvalid "prepared update receipt is invalid")
  let authority := journal.get "authority"
  let decision := authority.get "decision"
  let reservation := authority.get "reservation"
  let claim := authority.get "claim"
  let bound := prepared.get "authority"
  let pairs := [
    (prepared.get "planId", journal.get "planId"),
    (prepared.get "planDigest", journal.get "planDigest"),
    ((prepared.get "from").get "releaseId", journal.get "currentReleaseId"),
    ((prepared.get "attempted").get "releaseId", journal.get "successorReleaseId"),
    (bound.get "requestId", decision.get "requestId"),
    (bound.get "decisionDigest", decision.get "decisionDigest"),
    (bound.get "reservationId", reservation.get "reservationId"),
    (bound.get "reservationDigest", reservation.get "reservationDigest"),
    (bound.get "claimId", claim.get "claimId"),
    (bound.get "claimDigest", claim.get "claimDigest")]
  raiseIf (claim = .null ∨ (∃ pair ∈ pairs, pair.1.pyEq env.valueOf pair.2 = false) ∨
      "retain-predecessor" ∉ stepNames)
    (journalInvalid "prepared update receipt is not cross-bound to the pending transaction")

/-- The prepared failure evidence is that of this transaction, and there is one unless the receipt
accepts the update. -/
def checkFailure : Except StoreError Unit := do
  let prepared := journal.get "preparedReceipt"
  let failure := journal.get "preparedFailureEvidence"
  if failure ≠ .null then
    raiseIf (env.isFailureEvidence failure = false)
      (journalInvalid "prepared failure evidence is invalid")
    let pairs := [
      (failure.get "planId", journal.get "planId"),
      (failure.get "planDigest", journal.get "planDigest"),
      ((failure.get "successor").get "releaseId", journal.get "successorReleaseId")]
    raiseIf (∃ pair ∈ pairs, pair.1.pyEq env.valueOf pair.2 = false)
      (journalInvalid "prepared failure evidence is not bound to the pending transaction")
  raiseIf (prepared ≠ .null ∧
      ¬ (prepared.get "result" = .str "accepted" ↔ failure = .null))
    (journalInvalid "prepared receipt result does not match failure evidence state")

def unboundReceipt : StoreError :=
  journalInvalid "canonical authority receipt is not bound to the exact claim"

/-- The receipt of the authority is that of the claim. -/
def checkCanonical : Except StoreError Unit := do
  let canonical := journal.get "canonicalAuthorityReceipt"
  if canonical = .null then return ()
  raiseIf (canonical.isDict = false) (journalInvalid "canonical authority receipt is invalid")
  let authority := journal.get "authority"
  let claim := authority.get "claim"
  raiseIf (journal.get "preparedReceipt" = .null ∨ claim = .null)
    (journalInvalid "canonical authority receipt precedes the exact prepared outcome")
  raiseIf ((canonical.get "decisionDigest").pyEq env.valueOf
    ((authority.get "decision").get "decisionDigest") = false) unboundReceipt
  let claimId ← getOf ((canonical.get? "claim").getD (.dict [])) "claimId"
  raiseIf (claimId.pyEq env.valueOf (claim.get "claimId") = false) unboundReceipt
  match canonical.get "receiptId", canonical.get "receiptDigest" with
  | .str _, .str digest => raiseIf (isDigest digest = false) unboundReceipt
  | _, _ => .error unboundReceipt

/-- The times of the transaction are in order. -/
def checkTimes (stepTimes : List String) : Except StoreError Unit := do
  let started ← utcTimestamp (journal.get "startedAt") "pending update start timestamp"
  let updated ← utcTimestamp (journal.get "updatedAt") "pending update update timestamp"
  raiseIf (Str.isLess updated started ∨
      (stepTimes.zip stepTimes.tail).any (fun pair => Str.isLess pair.2 pair.1) ∨
      stepTimes.any (fun observed => Str.isLess observed started || Str.isLess updated observed) =
        true)
    (journalInvalid "pending update timestamps are inconsistent")
  let intent := journal.get "intent"
  if intent = .null then return ()
  let recorded ← utcTimestamp (intent.get "recordedAt") "pending effect intent timestamp"
  raiseIf (Str.isLess recorded started ∨ Str.isLess updated recorded)
    (journalInvalid "pending effect intent timestamp is inconsistent")

def checkDigest : Except StoreError Unit := do
  let digest ← journalDigest env journal
  raiseIf (journal.get "journalDigest" ≠ .str digest)
    (.store "journal_tampered" "pending update journal digest does not match")

/-- `_validated_journal`; the document is returned as it is. -/
def validatedJournal : Except StoreError Json := do
  raiseIf (journal.isDict = false) .untyped
  checkIdentity journal
  checkAuthority env journal
  checkPhase journal
  checkIntent journal
  let steps ← checkSteps journal
  checkPrepared env journal (steps.map Prod.fst)
  checkFailure env journal
  checkCanonical env journal
  checkTimes journal (steps.map Prod.snd)
  checkDigest env journal
  return journal

end

end StatePort.Updater
