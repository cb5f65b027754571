import StatePort.Algorithm.Raise
import StatePort.Algorithm.Run
import StatePort.Algorithm.Table
import StatePort.Python.Basic

/-!
# The job queue

`packages/governed-runner/src/governed_runner/jobs.py`: a FIFO queue of jobs in one SQLite table.
Every mutating method runs in one `BEGIN IMMEDIATE` transaction and rolls back when it raises.

Timestamps are microseconds since 0001-01-01; their ISO texts, which the code compares, are of one
width and ordered alike. A JSON object is represented by what the queue reads of it.
-/

namespace StatePort.Jobs

open List

/-- The exception classes that a method of the queue raises. -/
inductive JobQueueError where
  | jobQueue (message : String)
  | jobConflict (message : String)
  | jobLease (message : String)
  | jobState (message : String)
  | overflow

inductive Status where
  | queued
  | leased
  | succeeded
  | failed
  | cancelled
deriving DecidableEq

/-- Membership in `TERMINAL_JOB_STATES`. -/
def Status.terminal : Status → Bool
  | succeeded | failed | cancelled => true
  | queued | leased => false

/-- The columns that the trigger `jobs_payload_immutable` protects, and the row number. -/
structure JobIdentity where
  sequence : ℕ
  (jobId formatVersion idempotencyKey payloadVersion payloadJson payloadDigest : String)
  createdAt : ℕ

/-- A row of the table `jobs`. -/
structure Job extends JobIdentity where
  status : Status
  (updatedAt attemptCount : ℕ)
  (leaseOwner leaseToken : Option String)
  leaseExpiresAt : Option ℕ
  (resultJson errorJson : Option String)

def Job.id (r : Job) : String := r.jobId

/-- The table `jobs`, in the order of its autoincremented `sequence`; `job_id` and
`idempotency_key` are `UNIQUE`. -/
structure Queue where
  jobs : Table Job.id
  keys_nodup : (jobs.rows.map (·.idempotencyKey)).Nodup
  sequence_eq : jobs.rows.map (·.sequence) = range' 1 jobs.rows.length

variable (q : Queue)

namespace Queue

def empty : Queue where
  jobs := Table.empty _
  keys_nodup := nodup_nil
  sequence_eq := rfl

/-- `INSERT`: the row gets the next sequence number; a taken id or key is an `IntegrityError`. -/
def insert (r : Job) : Option Queue :=
  if h : r.jobId ∉ q.jobs.rows.map Job.id ∧
      r.idempotencyKey ∉ q.jobs.rows.map (·.idempotencyKey) ∧
      r.sequence = q.jobs.rows.length + 1 then
    have hrows : (q.jobs.insert r).rows = q.jobs.rows ++ [r] :=
      Table.rows_insert fun b hb hk => h.1 (mem_map.mpr ⟨b, hb, hk⟩)
    some
      { jobs := q.jobs.insert r
        keys_nodup := by
          rw [hrows, map_append, nodup_append]
          refine ⟨q.keys_nodup, by simp, ?_⟩
          rintro k hk k' hk' rfl
          rw [map_singleton, mem_singleton] at hk'
          exact h.2.1 (hk' ▸ hk)
        sequence_eq := by
          rw [hrows, map_append, q.sequence_eq, length_append, length_singleton,
            range'_concat]
          simp [h.2.2, Nat.add_comm] }
  else none

/-- `UPDATE … WHERE job_id = ?` of columns outside the identity. -/
def update (jobId : String) (f : Job → Job)
    (hf : ∀ r, (f r).toJobIdentity = r.toJobIdentity) : Queue :=
  have hcol {β : Type} (g : JobIdentity → β) :
      (q.jobs.update jobId f fun r => congrArg JobIdentity.jobId (hf r)).rows.map
        (fun r => g r.toJobIdentity) = q.jobs.rows.map fun r => g r.toJobIdentity := by
    simp only [Table.update, map_map]
    refine map_congr_left fun r _ => ?_
    simp only [Function.comp_apply]
    split_ifs
    · rw [hf]
    · rfl
  { jobs := q.jobs.update jobId f fun r => congrArg JobIdentity.jobId (hf r)
    keys_nodup := by
      rw [hcol JobIdentity.idempotencyKey]
      exact q.keys_nodup
    sequence_eq := by
      rw [hcol JobIdentity.sequence, q.sequence_eq]
      simp [Table.update] }

end Queue

/-! ### Records -/

structure Lease where
  (owner token : Option String)
  expiresAt : Option ℕ

/-- The mapping that `_record` returns for a row. -/
structure JobRecord extends JobIdentity where
  status : Status
  (updatedAt attemptCount : ℕ)
  lease : Option Lease
  (result error : Option String)

/-- `_record`: the lease is shown only while it is held. -/
def Job.record (r : Job) : JobRecord where
  toJobIdentity := r.toJobIdentity
  status := r.status
  updatedAt := r.updatedAt
  attemptCount := r.attemptCount
  lease := if r.status = .leased then some ⟨r.leaseOwner, r.leaseToken, r.leaseExpiresAt⟩ else none
  result := r.resultJson
  error := r.errorJson

/-! ### Arguments -/

def requiredString (value field : String) : Except JobQueueError String := do
  raiseIf (Str.strip value = "") (.jobQueue (field ++ " must be a non-empty string"))
  return Str.strip value

/-- Rounding to the nearest integer, ties to even, as `timedelta` rounds to microseconds. -/
def roundHalfEven (x : ℚ) : ℤ :=
  if x - ⌊x⌋ < 1 / 2 ∨ (x - ⌊x⌋ = 1 / 2 ∧ ⌊x⌋ % 2 = 0) then ⌊x⌋ else ⌊x⌋ + 1

/-- `_lease_duration`, in microseconds. -/
def leaseDuration (value : Number) : Except JobQueueError ℕ :=
  match value with
  | .finite x =>
    if 0 < x then .ok (roundHalfEven (x * 1000000)).toNat
    else .error (.jobQueue "lease_seconds must be a positive finite number")
  | _ => .error (.jobQueue "lease_seconds must be a positive finite number")

/-- `datetime.max`. -/
def maxTimestamp : ℕ := 315537897599999999

/-- `current + duration`, which overflows after the year 9999. -/
def expiry (now duration : ℕ) : Except JobQueueError ℕ := do
  raiseIf (maxTimestamp < now + duration) .overflow
  return now + duration

/-- A JSON object: its canonical text, or the message with which `json.dumps` refuses it, and the
text under `formatVersion`, if there is one. -/
structure Mapping where
  json : Except String String
  formatVersion : Option String

def canonicalMapping (value : Mapping) (field : String) : Except JobQueueError String :=
  match value.json with
  | .ok text => .ok text
  | .error exc => .error (.jobQueue (field ++ " must be JSON serializable: " ++ exc))

def hexDigit (n : ℕ) : Char := Char.ofNat (if n < 10 then 48 + n else 87 + n)

/-- A character inside a JSON string, with `ensure_ascii=False`. -/
def jsonChar (c : Char) : List Char :=
  if c = '"' then ['\\', '"']
  else if c = '\\' then ['\\', '\\']
  else if c = '\n' then ['\\', 'n']
  else if c = '\r' then ['\\', 'r']
  else if c = '\t' then ['\\', 't']
  else if c.toNat = 12 then ['\\', 'f']
  else if c.toNat = 8 then ['\\', 'b']
  else if c.toNat < 32 then
    ['\\', 'u', '0', '0', hexDigit (c.toNat / 16), hexDigit (c.toNat % 16)]
  else [c]

def jsonString (s : String) : String :=
  "\"" ++ String.ofList (s.toList.flatMap jsonChar) ++ "\""

/-- `json.dumps({key: value})`. -/
def jsonField (key value : String) : String :=
  "\x7b" ++ jsonString key ++ ":" ++ jsonString value ++ "\x7d"

/-- The error that a worker reports: a text or a JSON object. -/
inductive JobError where
  | message (text : String)
  | mapping (value : Mapping)

def errorJson : JobError → Except JobQueueError String
  | .message text => .ok (jsonField "message" text)
  | .mapping value => canonicalMapping value "error"

/-! ### Admission -/

def jobFormat : String := "stateport.job/v1"

/-- The row that `enqueue` inserts. -/
def newJob (jobId key payloadVersion payloadJson digest : String) (now : ℕ) : Job where
  sequence := q.jobs.rows.length + 1
  jobId := jobId
  formatVersion := jobFormat
  idempotencyKey := key
  payloadVersion := payloadVersion
  payloadJson := payloadJson
  payloadDigest := digest
  createdAt := now
  status := .queued
  updatedAt := now
  attemptCount := 0
  leaseOwner := none
  leaseToken := none
  leaseExpiresAt := none
  resultJson := none
  errorJson := none

variable (sha256 : String → String)

/-- `JobQueue.enqueue`. `sha256` is the hexadecimal digest of a text and `generated` the suffix
that `secrets.token_hex(16)` draws. -/
def enqueue (q : Queue) (idempotencyKey : String) (payload : Mapping)
    (jobId : Option String) (generated : String) (now : ℕ) :
    Except JobQueueError (JobRecord × Queue) := do
  let key ← requiredString idempotencyKey "idempotency_key"
  let payloadJson ← canonicalMapping payload "payload"
  let payloadVersion ← requiredString (payload.formatVersion.getD "") "payload.formatVersion"
  let digest := "sha256:" ++ sha256 payloadJson
  let requestedJobId ← jobId.mapM (requiredString · "job_id")
  let generatedJobId := requestedJobId.getD ("job:" ++ generated)
  match q.jobs.rows.find? (·.idempotencyKey = key) with
  | some existing =>
    raiseIf (existing.payloadDigest ≠ digest)
      (.jobConflict "idempotency key is bound to a different payload")
    raiseIf (∃ requested ∈ requestedJobId, existing.jobId ≠ requested)
      (.jobConflict "idempotency key is bound to a different job id")
    return (existing.record, q)
  | none =>
    let row := newJob q generatedJobId key payloadVersion payloadJson digest now
    match q.insert row with
    | some q' => return (row.record, q')
    | none => .error (.jobConflict "job id or idempotency key already exists")

/-! ### Leasing -/

/-- The `WHERE` clause of the claim: queued, or leased and expired. -/
def Job.claimable (now : ℕ) (r : Job) : Bool :=
  r.status = .queued || (r.status = .leased && r.leaseExpiresAt.any (· ≤ now))

/-- `SET status = 'leased', …`. -/
def Job.setLeased (now : ℕ) (owner token : String) (expires : ℕ) (r : Job) : Job :=
  { r with
    status := .leased
    updatedAt := now
    attemptCount := r.attemptCount + 1
    leaseOwner := some owner
    leaseToken := some token
    leaseExpiresAt := some expires
    resultJson := none
    errorJson := none }

/-- `JobQueue.claim`, where `secrets.token_urlsafe(32)` draws `token`. -/
def claim (workerId : String) (leaseSeconds : Number) (now : ℕ) (token : String) :
    Except JobQueueError (Option JobRecord × Queue) := do
  let owner ← requiredString workerId "worker_id"
  let duration ← leaseDuration leaseSeconds
  let expires ← expiry now duration
  match q.jobs.rows.find? (Job.claimable now) with
  | none => return (none, q)
  | some candidate =>
    return (some (candidate.setLeased now owner token expires).record,
      q.update candidate.jobId (Job.setLeased now owner token expires) fun _ => rfl)

/-- `SELECT * FROM jobs WHERE job_id = ?`, which must find a row that is not terminal. -/
def liveRow (jobId : String) : Except JobQueueError Job :=
  match q.jobs.find? jobId with
  | none => .error (.jobState "job was not found")
  | some row => do
    raiseIf row.status.terminal (.jobState "terminal jobs are immutable")
    return row

variable (q : Queue) (jobId leaseToken : String)

def leasedForUpdate (now : ℕ) : Except JobQueueError Job := do
  let row ← liveRow q jobId
  raiseIf (row.status ≠ .leased) (.jobLease "job is not leased")
  raiseIf (row.leaseToken ≠ some leaseToken) (.jobLease "lease token does not match")
  raiseIf (¬ ∃ expires ∈ row.leaseExpiresAt, now < expires) (.jobLease "job lease has expired")
  return row

def Job.setExpiry (now expires : ℕ) (r : Job) : Job :=
  { r with updatedAt := now, leaseExpiresAt := some expires }

/-- `JobQueue.heartbeat`. -/
def heartbeat (leaseSeconds : Number) (now : ℕ) : Except JobQueueError (JobRecord × Queue) := do
  let identifier ← requiredString jobId "job_id"
  let credential ← requiredString leaseToken "lease_token"
  let duration ← leaseDuration leaseSeconds
  let expires ← expiry now duration
  let row ← leasedForUpdate q identifier credential now
  return ((row.setExpiry now expires).record,
    q.update identifier (Job.setExpiry now expires) fun _ => rfl)

/-- Leave the lease with a new status. -/
def Job.setUnleased (status : Status) (now : ℕ) (result error : Option String) (r : Job) : Job :=
  { r with
    status := status
    updatedAt := now
    leaseOwner := none
    leaseToken := none
    leaseExpiresAt := none
    resultJson := result
    errorJson := error }

def finish (status : Status) (result : Option Mapping)
    (error : Option JobError) (now : ℕ) : Except JobQueueError (JobRecord × Queue) := do
  let identifier ← requiredString jobId "job_id"
  let credential ← requiredString leaseToken "lease_token"
  raiseIf (status ≠ .succeeded ∧ status ≠ .failed)
    (.jobState "finish status must be succeeded or failed")
  let resultJson ← result.mapM (canonicalMapping · "result")
  let errorJson ← error.mapM errorJson
  let row ← leasedForUpdate q identifier credential now
  return ((row.setUnleased status now resultJson errorJson).record,
    q.update identifier (Job.setUnleased status now resultJson errorJson) fun _ => rfl)

/-- `JobQueue.complete`. -/
def complete (result : Option Mapping) (now : ℕ) : Except JobQueueError (JobRecord × Queue) :=
  finish q jobId leaseToken .succeeded result none now

/-- `JobQueue.fail`. -/
def fail (error : JobError) (now : ℕ) : Except JobQueueError (JobRecord × Queue) :=
  finish q jobId leaseToken .failed none (some error) now

/-- `JobQueue.requeue`. -/
def requeue (jobId leaseToken reason : String) (now : ℕ) :
    Except JobQueueError (JobRecord × Queue) := do
  let identifier ← requiredString jobId "job_id"
  let credential ← requiredString leaseToken "lease_token"
  let errorJson := if reason = "" then none else some (jsonField "reason" reason)
  let row ← leasedForUpdate q identifier credential now
  return ((row.setUnleased .queued now none errorJson).record,
    q.update identifier (Job.setUnleased .queued now none errorJson) fun _ => rfl)

/-- Unlike the transitions of a lease holder, a cancellation keeps `result_json`. -/
def Job.setCancelled (now : ℕ) (error : String) (r : Job) : Job :=
  r.setUnleased .cancelled now r.resultJson (some error)

/-- `JobQueue.cancel`. -/
def cancel (jobId reason : String) (now : ℕ) : Except JobQueueError (JobRecord × Queue) := do
  let identifier ← requiredString jobId "job_id"
  let row ← liveRow q identifier
  return ((row.setCancelled now (jsonField "reason" reason)).record,
    q.update identifier (Job.setCancelled now (jsonField "reason" reason)) fun _ => rfl)

/-- `JobQueue.get`. -/
def get : Except JobQueueError (Option JobRecord) := do
  let identifier ← requiredString jobId "job_id"
  return (q.jobs.find? identifier).map Job.record

/-- `JobQueue.list`, for a recognised status. -/
def list (status : Option Status) : List JobRecord :=
  (q.jobs.rows.filter fun r => ∀ s ∈ status, r.status = s).map Job.record

/-! ### Histories -/

/-- One call of a mutating method, with the clock reading and the random text it gets. -/
inductive Call where
  | enqueue (idempotencyKey : String) (payload : Mapping) (jobId : Option String)
      (generated : String) (now : ℕ)
  | claim (workerId : String) (leaseSeconds : Number) (now : ℕ) (token : String)
  | heartbeat (jobId leaseToken : String) (leaseSeconds : Number) (now : ℕ)
  | complete (jobId leaseToken : String) (result : Option Mapping) (now : ℕ)
  | fail (jobId leaseToken : String) (error : JobError) (now : ℕ)
  | requeue (jobId leaseToken reason : String) (now : ℕ)
  | cancel (jobId reason : String) (now : ℕ)

def perform : Call → Except JobQueueError (Option JobRecord × Queue)
  | .enqueue key payload jobId generated now => do
    let (r, q') ← enqueue sha256 q key payload jobId generated now
    return (some r, q')
  | .claim workerId leaseSeconds now token => claim q workerId leaseSeconds now token
  | .heartbeat jobId leaseToken leaseSeconds now => do
    let (r, q') ← heartbeat q jobId leaseToken leaseSeconds now
    return (some r, q')
  | .complete jobId leaseToken result now => do
    let (r, q') ← complete q jobId leaseToken result now
    return (some r, q')
  | .fail jobId leaseToken error now => do
    let (r, q') ← fail q jobId leaseToken error now
    return (some r, q')
  | .requeue jobId leaseToken reason now => do
    let (r, q') ← requeue q jobId leaseToken reason now
    return (some r, q')
  | .cancel jobId reason now => do
    let (r, q') ← cancel q jobId reason now
    return (some r, q')

def next (c : Call) : Queue :=
  afterTransaction q (perform sha256 q c)

end StatePort.Jobs
