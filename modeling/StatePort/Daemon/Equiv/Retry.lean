import StatePort.Daemon.Equiv.Operations

/-!
# Retries of a refused source admission

A creation whose source archive is refused before the volume is touched raises
`workspace-source-admission-refused` and tells the client that an exact fresh retry remains
possible. It leaves the entry of the workload in the state `failed`, and a reservation is refused as
a duplicate as long as the entry is neither `removed` nor `interrupted`. So the retry is refused as
well, until a restart of the daemon has recorded the entry as interrupted.
-/

namespace StatePort.Daemon

open Effect

variable {host : Host} {request : OperationRequest} {grant : Option Grant} {spec : Spec} {id : Id}

/-! ### Retries -/

/-- A creation whose source admission was refused. -/
structure RefusedAdmission (spec : Spec) (grant : Grant) where
  host : Host
  request : OperationRequest
  hasSource : Bool
  world : World
  refused : refusalReason (opCreate host request (some grant) spec hasSource world).1 =
    some "workspace-source-admission-refused"

def RefusedAdmission.after {grant : Grant} (refused : RefusedAdmission spec grant) : Ledger :=
  (opCreate refused.host refused.request (some grant) spec refused.hasSource refused.world).2.ledger

/-- A creation with a source archive whose checks pass up to the reservation. -/
structure Retry (spec : Spec) (grant : Grant) (ledger : Ledger) where
  host : Host
  request : OperationRequest
  world : World
  starts : world.ledger = ledger
  capable : World
  checked : checkCapabilities host spec world = (.ok (), capable)
  binding : GrantBinding
  bound : grantBinding host request (some grant) = .ok binding
  admitted : World
  seeded : admitSeed host spec (ledger.find? spec.workloadId) true capable = (.ok (), admitted)

def Retry.outcome {grant : Grant} {ledger : Ledger} (retry : Retry spec grant ledger) :
    Except Failure Answer :=
  (opCreate retry.host retry.request (some grant) spec true retry.world).1

def Retry.IsDuplicate {grant : Grant} {ledger : Ledger} (retry : Retry spec grant ledger) : Prop :=
  refusalReason retry.outcome = some "duplicate-workload"

/-- The entry of the workload is removed or interrupted. -/
def HasEnded (id : Id) (ledger : Ledger) : Prop :=
  ∃ entry, ledger.find? id = some entry ∧ entry.isEnded

/-- What a reservation of a workload with an entry raises. -/
def duplicateMessage (spec : Spec) : PyStr :=
  PyStr.of "workload " ++ spec.workloadId.val ++ PyStr.of " already has a ledger entry"

/-- The message is taken for that of an exhausted limit. -/
def namesLimit (spec : Spec) : Bool :=
  (duplicateMessage spec).hasSubstring "capacity" || (duplicateMessage spec).hasSubstring "budget"

lemma hasFailed_after {grant : Grant} (refused : RefusedAdmission spec grant) :
    HasFailed spec.workloadId refused.after := by
  obtain ⟨failure, hreason, hrefused⟩ := exists_createRefused refused.refused
  exact hrefused.2 hreason

lemma find?_afterActivity (operated : Operated)
    (h : (ledger.find? id).isSome) :
    ((afterActivity ledger operated).find? id).isSome := by
  unfold afterActivity
  induction List.drop operated.lost
      (perform operated.host operated.activity ⟨ledger, [], 0⟩).2.trace with
  | nil => exact h
  | cons event earlier ih =>
    cases event with
    | wrote entry =>
      rw [replay, Table.find?_put]
      split_ifs
      · rfl
      · exact ih
    | _ => exact ih

/-- A workload with an entry that is neither removed nor interrupted is not reserved. -/
lemma reserveWorkload_of_not_ended {existing : Entry} {binding : GrantBinding} {limits : Limits}
    {w : World} (hfind : w.ledger.find? spec.workloadId = some existing)
    (hended : existing.isEnded = false) :
    reserveWorkload host spec (some existing) binding limits w =
      (.error (.ledger ⟨duplicateMessage spec⟩), { w with questions := w.questions + 1 }) := by
  have hfilter : (some existing).filter isRecoverable = none := by
    rw [Option.filter_some, if_neg]
    rw [isRecoverable, Bool.and_eq_true]
    rintro ⟨_, hstate⟩
    rw [Entry.isEnded, hstate] at hended
    cases hended
  have hcontains : w.ledger.contains spec.workloadId :=
    (Table.contains_iff w.ledger).mpr ⟨existing, (Table.find?_eq_some_iff _).mp hfind⟩
  unfold reserveWorkload
  rw [hfilter]
  show (ask host.clock >>= fun at_ => _) w = _
  rw [bind_apply_ok (show ask host.clock w =
    (.ok (host.clock w), { w with questions := w.questions + 1 }) from rfl)]
  have hreserve : reserve w.ledger spec (host.clock w) binding limits =
      .error ⟨duplicateMessage spec⟩ := by
    rw [reserve, raiseIf, if_pos hcontains]
    rfl
  refine bind_apply_error ?_
  rw [write, bind_apply_ok (show state _ = (.ok _, _) from rfl), hreserve]
  rfl

variable {owner : Grant} {ledger : Ledger}

/-- A retry that finds such an entry is refused. -/
lemma outcome_of_not_ended (retry : Retry spec owner ledger) {existing : Entry}
    (hfind : ledger.find? spec.workloadId = some existing) (hended : existing.isEnded = false) :
    retry.outcome = .error (.refusal
      (if namesLimit spec then "workload-limit" else "duplicate-workload")
      (duplicateMessage spec)) := by
  have hasked : ∀ w : World, w.ledger = ledger →
      { w with questions := w.questions + 1 }.ledger = ledger := fun _ h => h
  have hcapable : retry.capable.ledger = ledger := by
    have hkeeps : Outcome (fun _ w => w.ledger = ledger) (Raises fun w => w.ledger = ledger)
        (checkCapabilities retry.host spec retry.world) :=
      orderly_checkCapabilities hasked retry.world retry.starts
    rw [retry.checked] at hkeeps
    exact hkeeps
  have hadmitted : retry.admitted.ledger = ledger := by
    have hkeeps : Outcome (fun _ w => w.ledger = ledger) (Raises fun w => w.ledger = ledger)
        (admitSeed retry.host spec (ledger.find? spec.workloadId) true retry.capable) :=
      orderly_admitSeed hasked _ true retry.capable hcapable
    rw [retry.seeded] at hkeeps
    exact hkeeps
  have hfound : getEntry spec.workloadId retry.capable = (.ok (some existing), retry.capable) := by
    show (Except.ok (retry.capable.ledger.find? spec.workloadId), retry.capable) = _
    rw [hcapable, hfind]
  have hseeded := retry.seeded
  rw [hfind] at hseeded
  have hreason : reservationRefusal (some existing) (duplicateMessage spec) =
      if namesLimit spec then "workload-limit" else "duplicate-workload" := by
    unfold reservationRefusal namesLimit
    have hany : ((some existing).any fun entry =>
        entry.state = .removed || entry.state = .interrupted) = false := hended
    rw [hany]
    rfl
  have hreserve : reserveOrRefuse retry.host spec (some existing) retry.binding
      (limitsOf (some owner)) retry.admitted =
        (.error (.refusal (if namesLimit spec then "workload-limit" else "duplicate-workload")
          (duplicateMessage spec)),
          { retry.admitted with questions := retry.admitted.questions + 1 }) := by
    have hattempt : Effect.attempt Failure.ledger? (reserveWorkload retry.host spec (some existing)
        retry.binding (limitsOf (some owner))) retry.admitted =
          (.ok (.error ⟨duplicateMessage spec⟩),
            { retry.admitted with questions := retry.admitted.questions + 1 }) :=
      attempt_apply_error (reserveWorkload_of_not_ended (by rw [hadmitted, hfind]) hended) rfl
    rw [reserveOrRefuse, bind_apply_ok hattempt, ← hreason]
    rfl
  unfold Retry.outcome opCreate
  rw [bind_apply_ok retry.checked, bind_apply_ok (show Effect.lift _ retry.capable = _ by
    rw [retry.bound]; rfl), bind_apply_ok hfound, bind_apply_ok hseeded, bind_apply_error hreserve]

lemma isDuplicate_iff (retry : Retry spec owner ledger)
    (hentry : (ledger.find? spec.workloadId).isSome) :
    retry.IsDuplicate ↔ ¬ HasEnded spec.workloadId ledger ∧ namesLimit spec = false := by
  obtain ⟨existing, hfind⟩ := Option.isSome_iff_exists.mp hentry
  constructor
  · intro hduplicate
    have hended : existing.isEnded = false := by
      obtain ⟨failure, hreason, hrefused⟩ := exists_createRefused hduplicate
      rw [retry.starts, hfind] at hrefused
      exact hrefused.1 hreason
    refine ⟨?_, ?_⟩
    · rintro ⟨found, hfound, hfoundEnded⟩
      cases hfind.symm.trans hfound
      cases hfoundEnded.symm.trans hended
    · rw [Retry.IsDuplicate, outcome_of_not_ended retry hfind hended] at hduplicate
      by_contra hlimit
      rw [if_pos (by simpa using hlimit)] at hduplicate
      exact absurd (Option.some.inj hduplicate) (by decide)
  · rintro ⟨hended, hlimit⟩
    have hopen : existing.isEnded = false :=
      Bool.eq_false_of_not_eq_true fun h => hended ⟨existing, hfind, h⟩
    rw [Retry.IsDuplicate, outcome_of_not_ended retry hfind hopen, hlimit]
    rfl

/-- An id that makes the message mention a limit is refused all the same. -/
lemma refused_of_namesLimit (retry : Retry spec owner ledger)
    (hentry : (ledger.find? spec.workloadId).isSome) (hended : ¬ HasEnded spec.workloadId ledger)
    (hlimit : namesLimit spec) : refusalReason retry.outcome = some "workload-limit" := by
  obtain ⟨existing, hfind⟩ := Option.isSome_iff_exists.mp hentry
  have hopen : existing.isEnded = false :=
    Bool.eq_false_of_not_eq_true fun h => hended ⟨existing, hfind, h⟩
  rw [outcome_of_not_ended retry hfind hopen, if_pos hlimit]
  rfl

lemma not_hasEnded_of_hasFailed (h : HasFailed id ledger) : ¬ HasEnded id ledger := by
  rintro ⟨entry, hentry, hended⟩
  obtain ⟨failed, hfailed, hstate⟩ := h
  cases hfailed.symm.trans hentry
  rw [Entry.isEnded, hstate] at hended
  cases hended

lemma isSome_find?_foldl (between : List Operated)
    (h : (ledger.find? id).isSome) :
    ((between.foldl afterActivity ledger).find? id).isSome := by
  induction between generalizing ledger with
  | nil => exact h
  | cons operated between ih => exact ih (find?_afterActivity operated h)

/-- **The retry of a refused source admission.** Whatever the daemon does in between, a retry with
the same spec and grant whose checks pass is refused as a duplicate exactly if the entry of the
workload is then neither removed nor interrupted and its id does not make the message of the ledger
mention a limit. With an id that does, it is refused for the limit. Right after the refusal the entry
is neither. -/
theorem retried_admission_iff {grant : Grant} (refused : RefusedAdmission spec grant)
    (between : List Operated)
    (retry : Retry spec grant (between.foldl afterActivity refused.after)) :
    (retry.IsDuplicate ↔
      ¬ HasEnded spec.workloadId (between.foldl afterActivity refused.after) ∧
        namesLimit spec = false) ∧
      (¬ HasEnded spec.workloadId (between.foldl afterActivity refused.after) →
        namesLimit spec → refusalReason retry.outcome = some "workload-limit") ∧
      ¬ HasEnded spec.workloadId refused.after := by
  have hfailed := hasFailed_after refused
  obtain ⟨entry, hfind, -⟩ := id hfailed
  have hentry : (refused.after.find? spec.workloadId).isSome := by
    rw [hfind]
    rfl
  have hlater := isSome_find?_foldl between hentry
  exact ⟨isDuplicate_iff retry hlater, refused_of_namesLimit retry hlater,
    not_hasEnded_of_hasFailed hfailed⟩

/-! ### A retry that is refused -/

section

def plainWorkload : Id := ⟨"w", by decide⟩

def plainGrant : Grant where
  formatVersion := grantFormat
  grantId := ⟨"g", by decide⟩
  peerUid := 0
  operations := [.createWorkload, .start, .cancel]
  workloadIds := [plainWorkload]
  workloadKinds := [.workspace]
  workloadSpecDigests := [(plainWorkload, plainDigest)]
  imageReference := "i@" ++ plainDigest.val
  baseRevision := none
  issuedAt := "2026-01-01T00:00:00Z"
  expiresAt := "2027-01-01T00:00:00Z"
  revocationEpoch := 0
  budgets := ⟨1, 1, 16 * 1024 * 1024, 16, 1, 1, 16 * 1024 * 1024⟩
  deploymentScope := none

/-- A store in which the grant has not expired, and is paused or not. -/
def plainStore (paused : Bool) : GrantStore where
  revocation := .document (.dict [("revokedGrantIds", .list []),
    ("pausedGrantIds", .list (if paused then [.str plainGrant.grantId.val] else [])),
    ("revocationEpoch", .int 0)])
  grant _ := .document plainGrant.document
  clock := "2026-06-01T00:00:00Z"
  parseInstant s := .ok ⟨if s = plainGrant.expiresAt then 1 else 0, true⟩

def plainSpec : Spec where
  kind := .workspace
  workloadId := plainWorkload
  imageReference := plainGrant.imageReference
  pinned := by decide
  sourceSeed := none
  hasSourceArchive := false
  hasAgentProviderProfile := false
  stopAfterIdle := true
  timeoutSeconds := 1
  outputByteBound := 1
  digest := plainDigest

/-- The container of the workspace. -/
def plainInfo (running : Bool) : Info where
  present := some true
  running := some running
  containerId := some "c"
  labels := some ⟨some "true", some plainWorkload.val, some "workspace"⟩
  imageDigest := some plainDigest.val
  exitStatus := none
  workspaceImageVerified := true
  rootless := true
  user := none
  usernsMode := none

/-- An engine whose inspections show the container of the workspace, and whose calls all succeed or
all fail. -/
def plainHost (paused running : Bool) (result : Except PyStr Unit) : Host where
  py := plainInterpreter
  inspect _ _ := .ok (plainInfo running)
  act _ _ _ _ := result
  logs _ _ _ := .ok ⟨[], 0, false⟩
  create _ _ := .ok "c"
  listManaged _ := .ok []
  sourceSeed _ _ _ := .ok ()
  validateAgentProvider _ _ := .ok ()
  verifyWorkspaceVolumes _ _ := .ok ()
  stage _ _ := .ok []
  removeSnapshot _ _ := none
  clock _ := "2026-06-01T00:00:00Z"
  grants _ := plainStore paused
  elapsed _ _ := some 0
  idleFor _ _ := some 0
  admits _ := true

/-- A request of the client that holds the grant. -/
def plainOperationId : Id := ⟨"o", by decide⟩

def seededSpec : Spec := { plainSpec with sourceSeed := some ⟨none⟩ }

def creationRequest : OperationRequest where
  operationId := plainOperationId
  operation := .createWorkload
  grantId := plainGrant.grantId
  authorityGrantDigest := plainDigest
  timeoutSeconds := 1
  outputByteBound := 1

/-- The host refuses the archive and leaves nothing behind. -/
def refusingHost : Host :=
  { plainHost false false (.ok ()) with stage := fun _ _ => .error (PyStr.of "digest", none) }

def emptyWorld : World := ⟨Table.empty Entry.workloadId, [], 0⟩

def sampleRefused : RefusedAdmission seededSpec plainGrant :=
  ⟨refusingHost, creationRequest, true, emptyWorld, by decide +kernel⟩

/-- The host of the retry creates the workload where it has no entry. -/
lemma created_outcome :
    (opCreate (plainHost false false (.ok ())) creationRequest (some plainGrant) seededSpec true
      emptyWorld).1.toOption.isSome := by
  decide +kernel

lemma plainGrant_digest : plainGrant.digest plainInterpreter = .ok plainDigest := by
  refine eq_ok_of_toOption ?_
  decide +kernel

/-- The checks of a retry pass where the entry has no seed. -/
def freshRetry {ledger : Ledger}
    (hhalfway : hasPartialSeed (ledger.find? seededSpec.workloadId) = false)
    (hreusing : seedReusing seededSpec (ledger.find? seededSpec.workloadId) = false) :
    Retry seededSpec plainGrant ledger where
  host := plainHost false false (.ok ())
  request := creationRequest
  world := ⟨ledger, [], 0⟩
  starts := rfl
  capable := ⟨ledger, [], 3⟩
  checked := rfl
  binding := ⟨plainGrant.grantId.val, some plainDigest, 0⟩
  bound := by
    rw [grantBinding, show (plainHost false false (.ok ())).py = plainInterpreter from rfl,
      plainGrant_digest]
    rfl
  admitted := ⟨ledger, [], 4⟩
  seeded := by
    rw [admitSeed, hhalfway, hreusing]
    rfl

lemma after_sampleRefused :
    hasPartialSeed (sampleRefused.after.find? seededSpec.workloadId) = false ∧
    seedReusing seededSpec (sampleRefused.after.find? seededSpec.workloadId) = false ∧
    (checkCapacity sampleRefused.after (limitsOf (some plainGrant))
      plainGrant.grantId.val).toOption =
      some () := by
  decide +kernel

def sampleRetry : Retry seededSpec plainGrant sampleRefused.after :=
  freshRetry after_sampleRefused.1 after_sampleRefused.2.1

/-- **An exact fresh retry is refused.** The host works, the archive is admitted where the workload
has no entry, and there is room for the workload. -/
theorem fresh_retry_refused :
    ∃ (refused : RefusedAdmission seededSpec plainGrant)
      (retry : Retry seededSpec plainGrant refused.after),
      retry.IsDuplicate ∧
        checkCapacity refused.after (limitsOf (some plainGrant)) retry.binding.grantId = .ok () ∧
        ∃ answer, (opCreate retry.host retry.request (some plainGrant) seededSpec true
          emptyWorld).1 = .ok answer := by
  obtain ⟨answer, hanswer⟩ := Option.isSome_iff_exists.mp created_outcome
  refine ⟨sampleRefused, sampleRetry, ?_, eq_ok_of_toOption after_sampleRefused.2.2, answer,
    eq_ok_of_toOption hanswer⟩
  rw [Retry.IsDuplicate]
  decide +kernel

end

end StatePort.Daemon
