import StatePort.Algorithm.Raise
import StatePort.Algorithm.Run
import StatePort.Algorithm.Table
import StatePort.Quota.Engine

/-!
# The usage ledger

`packages/quota-engine/src/quota_engine/ledger.py`: durable quota reservations in one SQLite table
with primary key `reservation_id`. Every method runs in one `BEGIN IMMEDIATE` transaction, so an
operation is a function from the table to a result and the table after the commit; a method that
raises rolls back, so an error carries no table.

The state of a ledger is `Ledger`; its operations are `reserve`, `commit` and `release`, and
`next` runs one of them.
-/

namespace StatePort.Quota

/-- The exception classes of the ledger. -/
inductive UsageLedgerError where
  | usageLedger (message : String)
  | reservationConflict (message : String)
  | reservationState (message : String)

structure Date where
  (year month day : ℕ)
deriving DecidableEq

structure Month where
  (year month : ℕ)
deriving DecidableEq

/-- A clock reading, already converted to UTC. -/
structure UtcTime where
  date : Date
  microsecond : ℕ

/-- `now.date().isoformat()`. -/
def UtcTime.usageDay (now : UtcTime) : Date := now.date

/-- `now.strftime("%Y-%m")`. -/
def UtcTime.usageMonth (now : UtcTime) : Month := ⟨now.date.year, now.date.month⟩

inductive Operation where
  | run
  | message
  | mutation
deriving DecidableEq

def Operation.name : Operation → String
  | run => "run"
  | message => "message"
  | mutation => "mutation"

def Operation.ofName? (name : String) : Option Operation :=
  [run, message, mutation].find? fun op => op.name = name

inductive Status where
  | active
  | committed
  | released
  | denied
deriving DecidableEq

def Status.name : Status → String
  | active => "active"
  | committed => "committed"
  | released => "released"
  | denied => "denied"

/-- The `CHECK` constraint over a row's state, which `_row_reservation` repeats. -/
def ValidState (status : Status) (actualCost : Option ℚ≥0) (terminalAt : Option UtcTime)
    (admitted : Bool) : Prop :=
  match status with
  | .active => actualCost = none ∧ terminalAt = none ∧ admitted
  | .committed => actualCost ≠ none ∧ terminalAt ≠ none ∧ admitted
  | .released => actualCost = none ∧ terminalAt ≠ none ∧ admitted
  | .denied => actualCost = none ∧ terminalAt ≠ none ∧ admitted = false

/-- A row of `usage_reservations`. -/
structure UsageReservation where
  (reservationId subjectId : String)
  operation : Operation
  estimatedCost : ℚ≥0
  actualCost : Option ℚ≥0
  status : Status
  reservedAt : UtcTime
  terminalAt : Option UtcTime
  usageDay : Date
  usageMonth : Month
  policy : QuotaPolicy
  usageBefore : UsageSnapshot
  (decisionCode decisionReason : String)
  admitted : Bool
  validState : ValidState status actualCost terminalAt admitted

/-- The table `usage_reservations`. -/
abbrev Ledger := Table UsageReservation.reservationId

structure ReservationOutcome where
  reservation : UsageReservation
  decision : QuotaDecision
  idempotent : Bool

def ReservationOutcome.allowed (o : ReservationOutcome) : Bool := o.decision.allowed

structure ReservationTransition where
  reservation : UsageReservation
  idempotent : Bool

/-! ### Argument checks -/

def identifier (value name : String) : Except UsageLedgerError String := do
  raiseIf (Str.strip value = "") (.usageLedger (name ++ " must be a non-empty string"))
  return Str.strip value

def cost (value : Number) (name : String) : Except UsageLedgerError ℚ≥0 :=
  match value.nonneg? with
  | some c => .ok c
  | none => .error (.usageLedger (name ++ " must be finite and non-negative"))

/-- `_identifier` followed by the membership test in `_OPERATIONS`. -/
def parseOperation (value : String) : Except UsageLedgerError Operation := do
  let name ← identifier value "operation"
  match Operation.ofName? name with
  | some op => return op
  | none => .error (.usageLedger "operation must be run, message, or mutation")

/-! ### The usage snapshot -/

variable (r : UsageReservation)

/-- `status IN ('active', 'committed')`: the row holds quota. -/
def UsageReservation.counted : Bool :=
  r.status = .active || r.status = .committed

/-- `SUM(CASE WHEN usage_day = ? AND operation = ? AND … THEN 1 ELSE 0 END)` for one row. -/
def UsageReservation.dailyWeight (subject : String) (day : Date) (op : Operation)
    (r : UsageReservation) : ℕ :=
  if r.subjectId = subject ∧ r.usageDay = day ∧ r.operation = op ∧ r.counted then 1 else 0

/-- `SUM(CASE WHEN usage_month = ? AND status = … THEN … ELSE 0 END)` for one row. -/
def UsageReservation.monthlyWeight (subject : String) (month : Month) (r : UsageReservation) :
    ℚ≥0 :=
  if r.subjectId = subject ∧ r.usageMonth = month then
    match r.status with
    | .active => r.estimatedCost
    | .committed => r.actualCost.getD 0
    | _ => 0
  else 0

variable (s : Ledger)

/-- The operations of a kind that a subject holds on a day. -/
def Ledger.dailyCount (subject : String) (day : Date) (op : Operation) : ℕ :=
  (s.rows.map (·.dailyWeight subject day op)).sum

def Ledger.monthlyCost (subject : String) (month : Month) : ℚ≥0 :=
  (s.rows.map (·.monthlyWeight subject month)).sum

def snapshotInTransaction (subject : String) (day : Date) (month : Month) : UsageSnapshot where
  runsToday := Ledger.dailyCount s subject day .run
  messagesToday := Ledger.dailyCount s subject day .message
  monthlyEuroEstimate := Ledger.monthlyCost s subject month

/-- `UsageLedger.snapshot` at the clock reading `now`. -/
def snapshot (subjectId : String) (now : UtcTime) : Except UsageLedgerError UsageSnapshot := do
  let subject ← identifier subjectId "subject_id"
  return snapshotInTransaction s subject now.usageDay now.usageMonth

variable (reservationId : String)

/-- `UsageLedger.get`. -/
def get : Except UsageLedgerError (Option UsageReservation) := do
  let id ← identifier reservationId "reservation_id"
  return s.find? id

/-! ### Reserve -/

/-- `_decision`: the decision that a stored row replays. -/
def decision : QuotaDecision :=
  ⟨r.admitted, r.decisionCode, r.decisionReason, r.usageBefore, r.policy⟩

def assertBinding (subject : String) (op : Operation) (estimate : ℚ≥0)
    (policy : QuotaPolicy) : Except UsageLedgerError Unit :=
  raiseIf (¬ (r.subjectId = subject ∧ r.operation = op ∧ r.estimatedCost = estimate ∧
      r.policy = policy))
    (.reservationConflict "reservation id is already bound to different immutable inputs")

/-- The part of a policy that limits one kind of operation. -/
def operationPolicy (policy : QuotaPolicy) (op : Operation) : QuotaPolicy where
  runsPerDay := if op = .run then policy.runsPerDay else none
  messagesPerDay := if op = .message then policy.messagesPerDay else none
  monthlyEuroEstimate := policy.monthlyEuroEstimate

/-- The decision on a new reservation: the engine's, but over the whole policy. -/
def decideNew (subject : String) (op : Operation) (policy : QuotaPolicy)
    (estimate : ℚ≥0) (now : UtcTime) : QuotaDecision :=
  let usage := snapshotInTransaction s subject now.usageDay now.usageMonth
  let evaluated := evaluate (operationPolicy policy op) usage op.name (.finite estimate)
  ⟨evaluated.allowed, evaluated.code, evaluated.reason, usage, policy⟩

/-- The inserted row: `active` when admitted, else `denied` and terminal at once. -/
def newRow (id subject : String) (op : Operation) (policy : QuotaPolicy) (estimate : ℚ≥0)
    (now : UtcTime) (d : QuotaDecision) : UsageReservation where
  reservationId := id
  subjectId := subject
  operation := op
  estimatedCost := estimate
  actualCost := none
  status := if d.allowed then .active else .denied
  reservedAt := now
  terminalAt := if d.allowed then none else some now
  usageDay := now.usageDay
  usageMonth := now.usageMonth
  policy := policy
  usageBefore := d.usage
  decisionCode := d.code
  decisionReason := d.reason
  admitted := d.allowed
  validState := by cases h : d.allowed <;> simp [ValidState]

/-- `UsageLedger.reserve` at the clock reading `now`. -/
def reserve (reservationId subjectId operation : String) (policy : QuotaPolicy)
    (estimatedCost : Number) (now : UtcTime) :
    Except UsageLedgerError (ReservationOutcome × Ledger) := do
  let id ← identifier reservationId "reservation_id"
  let subject ← identifier subjectId "subject_id"
  let op ← parseOperation operation
  let estimate ← cost estimatedCost "estimated_cost"
  match s.find? id with
  | some r =>
    assertBinding r subject op estimate policy
    return (⟨r, decision r, true⟩, s)
  | none =>
    let d := decideNew s subject op policy estimate now
    let row := newRow id subject op policy estimate now d
    return (⟨row, d, false⟩, s.insert row)

/-! ### Commit and release -/

variable (actual : ℚ≥0) (now : UtcTime) (r : UsageReservation)

/-- `SET status = 'committed', … WHERE … status = 'active'`. -/
def UsageReservation.setCommitted : UsageReservation :=
  if h : r.status = .active then
    { r with
      status := .committed
      actualCost := some actual
      terminalAt := some now
      validState := by
        have hv := r.validState
        rw [h] at hv
        exact ⟨by simp, by simp, hv.2.2⟩ }
  else r

/-- `SET status = 'released', … WHERE … status = 'active'`. -/
def UsageReservation.setReleased : UsageReservation :=
  if h : r.status = .active then
    { r with
      status := .released
      terminalAt := some now
      validState := by
        have hv := r.validState
        rw [h] at hv
        exact ⟨hv.1, by simp, hv.2.2⟩ }
  else r

@[simp] lemma UsageReservation.setCommitted_reservationId :
    (r.setCommitted actual now).reservationId = r.reservationId := by
  unfold setCommitted
  split_ifs <;> rfl

@[simp] lemma UsageReservation.setReleased_reservationId
    : (r.setReleased now).reservationId = r.reservationId := by
  unfold setReleased
  split_ifs <;> rfl

/-- The row that a transition is about. -/
def stored (id : String) : Except UsageLedgerError UsageReservation :=
  match s.find? id with
  | some r => .ok r
  | none => .error (.reservationState "usage reservation was not found")

/-- `UsageLedger.commit` at the clock reading `now`. -/
def commit (actualCost : Number) (now : UtcTime) :
    Except UsageLedgerError (ReservationTransition × Ledger) := do
  let id ← identifier reservationId "reservation_id"
  let actual ← cost actualCost "actual_cost"
  let r ← stored s id
  if r.status = .committed then
    raiseIf (r.actualCost ≠ some actual)
      (.reservationConflict "committed reservation is bound to a different actual cost")
    return (⟨r, true⟩, s)
  else
    raiseIf (r.status ≠ .active)
      (.reservationState ("only active reservations can be committed, not " ++ r.status.name))
    return (⟨r.setCommitted actual now, false⟩,
      s.update id (·.setCommitted actual now) (·.setCommitted_reservationId actual now))

/-- `UsageLedger.release` at the clock reading `now`. -/
def release : Except UsageLedgerError (ReservationTransition × Ledger) := do
  let id ← identifier reservationId "reservation_id"
  let r ← stored s id
  if r.status = .released then
    return (⟨r, true⟩, s)
  else
    raiseIf (r.status ≠ .active)
      (.reservationState ("only active reservations can be released, not " ++ r.status.name))
    return (⟨r.setReleased now, false⟩,
      s.update id (·.setReleased now) (·.setReleased_reservationId now))

/-! ### Histories -/

/-- One call of a method, with the clock reading it gets. -/
inductive Call where
  | reserve (reservationId subjectId operation : String) (policy : QuotaPolicy)
      (estimatedCost : Number) (now : UtcTime)
  | commit (reservationId : String) (actualCost : Number) (now : UtcTime)
  | release (reservationId : String) (now : UtcTime)

def next : Call → Ledger
  | .reserve id subject op policy estimate now =>
    afterTransaction s (reserve s id subject op policy estimate now)
  | .commit id actual now => afterTransaction s (commit s id actual now)
  | .release id now => afterTransaction s (release s id now)

end StatePort.Quota
