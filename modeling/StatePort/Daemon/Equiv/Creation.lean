import StatePort.Daemon.Equiv.Reasons

/-!
# Creations

Every part of a creation keeps whatever is closed and raises ordinary failures only, with two
exceptions. The reservation is refused as a duplicate if the entry that it finds has not ended, and
a seed that fails before its volume is touched leaves a failed entry. `Closed.triple_opCreate` puts
the parts together.
-/

namespace StatePort.Daemon

open Effect

variable {host : Host} {id : Id} {entry : Entry} {K P : World → Prop} {α : Type}
  {request : OperationRequest} {grant : Option Grant} {spec : Spec} {r : Entry}

/-! ### Refusals -/

/-- The entry of a workload says that a reservation is no duplicate. -/
def Entry.isEnded (entry : Entry) : Bool := entry.state = .removed || entry.state = .interrupted

def HasFailed (id : Id) (ledger : Ledger) : Prop :=
  ∃ entry, ledger.find? id = some entry ∧ entry.state = .failed

/-- How a creation is refused that has reserved its entry: never as a duplicate, and a source
admission only where the entry has been recorded as failed. -/
def SeedRefused (id : Id) (failure : Failure) (w : World) : Prop :=
  failure.reason? ≠ some "duplicate-workload" ∧
    (failure.reason? = some "workspace-source-admission-refused" → HasFailed id w.ledger)

/-- How a creation is refused that finds this entry of its workload. -/
def CreateRefused (id : Id) (existing : Option Entry) (failure : Failure) (w : World) : Prop :=
  (failure.reason? = some "duplicate-workload" → existing.any Entry.isEnded = false) ∧
    (failure.reason? = some "workspace-source-admission-refused" → HasFailed id w.ledger)

variable {failure : Failure} {w : World}

lemma SeedRefused.create (h : SeedRefused id failure w) (existing : Option Entry) :
    CreateRefused id existing failure w :=
  ⟨fun heq => absurd heq h.1, h.2⟩

lemma Raises.seed (h : Raises K failure w) : K w ∧ SeedRefused id failure w :=
  ⟨h.1, h.2.1, fun heq => absurd heq h.2.2⟩

/-! ### Questions -/

section

variable (hasked : ∀ w, K w → K { w with questions := w.questions + 1 })
include hasked

lemma orderly_checkCapabilities : Orderly K (checkCapabilities host spec) := by
  refine .bind (triple_ask hasked _) fun seeds => .bind (triple_ask hasked _)
    fun commands => .bind (triple_ask hasked _) fun mounts => ?_
  split_ifs
  · exact triple_refusal (by decide)
  · exact triple_refusal (by decide)
  · exact .pure fun _ h => h
  · exact triple_refusal (by decide)
  · exact triple_attempt (orderly_askEngine hasked _) (fun _ => .pure fun _ h => h)
      (fun _ _ _ _ => triple_refusal (by decide)) fun _ _ h => h

lemma orderly_admitSeed (existing : Option Entry) (hasSource : Bool) :
    Orderly K (admitSeed host spec existing hasSource) := by
  rw [admitSeed]
  by_cases hseed : spec.sourceSeed = none
  · rw [if_pos hseed]
    exact .pure fun _ h => h
  · rw [if_neg hseed]
    refine triple_attempt (orderly_askEngine hasked _) (fun _ => ?_)
      (fun _ _ _ _ => triple_refusal (by decide)) fun _ _ h => h
    dsimp only
    split_ifs
    · exact triple_refusal (by decide)
    · exact triple_refusal (by decide)
    · exact .pure fun _ h => h

end

namespace Closed

variable (hK : Closed K)
include hK

/-! ### Parts -/

lemma safeInspect (id : Id) : Orderly K (safeInspect host id) :=
  orderly_safeInspect (hK.stable id)

lemma removeSnapshotPath (snapshotPath : Option PyStr) :
    Orderly K (removeSnapshotPath host snapshotPath) :=
  orderly_removeSnapshotPath hK.asked snapshotPath

lemma assertActivationAuthority (entry : Entry) (grant : Option Grant) :
    Orderly K (assertActivationAuthority host entry grant) :=
  orderly_assertActivationAuthority hK.asked

lemma triple_transition {state : State} {change : Change}
    (h : ∀ target, Extra.cleanupTargetState target ∉ change.extra) :
    Triple K (write fun ledger => Daemon.transitionSnapshot ledger entry state change)
      (fun written w => K w ∧ written.workloadId = entry.workloadId ∧
        Current written w ∧ written.state = state) (Raises K) := by
  refine triple_write (fun w written ledger hw hok => ?_)
    fun _ error hw _ => ⟨hw, Failure.isOrdinary_ledger error⟩
  obtain ⟨old, hfind, -, -, rfl, rfl⟩ := transitionSnapshot_eq_ok_iff.mp hok
  refine ⟨hK.written w _ hw (proper_transitioned hfind (Change.settles_of_notMem h)), ?_,
    find?_put_self rfl, transitioned_state⟩
  rw [transitioned_workloadId, workloadId_of_find? hfind]

lemma touchActivity (id : Id) : Orderly K (touchActivity host id) := by
  refine .bind (keeps_getEntry id) fun found => ?_
  cases found with
  | none => exact .pure fun _ h => h
  | some entry =>
    dsimp only
    split_ifs
    · exact .pure fun _ h => h
    · refine .bind (hK.ask _) fun at_ => ?_
      exact .bind_pure (hK.transition (by simp))

lemma touchWorkspace (spec : Spec) (id : Id) : Orderly K (touchWorkspace host spec id) := by
  rw [Daemon.touchWorkspace]
  split_ifs
  · exact hK.touchActivity id
  · exact .pure fun _ h => h

lemma answer (id : Id) (state : State) (exitStatus : Option ℤ)
    (cleanup : CleanupOutcome) : Orderly K (answer host id state exitStatus cleanup) :=
  .bind_pure (.bind_pure (hK.safeInspect id))

section

variable {select : Failure → Option Caught} {kind : Caught → ReceiptKind} {target : State}
  {snapshotPath : Option PyStr} {x : Run α} {Q : α → World → Prop}

/-- An effect whose record was lost is reconciled; then its failure is raised. -/
lemma reconciled {p : Failure → Prop} (hp : ∀ failure : Failure, failure.IsOrdinary → p failure)
    (hselect : ∀ failure caught, p failure → select failure = some caught → p caught.failure)
    (htarget : target.isTerminal)
    (hx : Triple P x Q fun failure w => K w ∧ p failure) :
    Triple P (orReconcile host select id kind target snapshotPath x) Q
      fun failure w => K w ∧ p failure := by
  refine .attempt_bind hx (fun a => .pure fun _ h => h)
    (fun failure caught hcaught w hw => ?_) fun _ _ _ h => h
  refine Triple.bind (((hK.workload _).recordPostEffectReconciliation htarget
    (kind caught) caught.detail
    snapshotPath).mono_error fun _ _ h => ⟨h.1, hp _ h.2⟩) (fun _ => ?_) w hw.1
  exact Triple.raise fun _ h => ⟨h, hselect failure caught hw.2 hcaught⟩

lemma orReconcile (htarget : target.isTerminal) (hx : Triple P x Q fun _ => K) :
    Triple P (orReconcile host select id kind target snapshotPath x) Q fun _ => K :=
  (hK.reconciled (p := fun _ => True) (fun _ _ => trivial) (fun _ _ _ _ => trivial) htarget
    (hx.mono_error fun _ _ h => ⟨h, trivial⟩)).mono_error fun _ _ h => h.1

end

/-! ### Reservations -/

variable {at_ : PyStr} {binding : GrantBinding} {limits : Limits}

lemma reserve :
    Triple K (write fun ledger => reserve ledger spec at_ binding limits)
      (fun r w => r.workloadId = spec.workloadId ∧ K w) (Raises K) := by
  refine triple_write (fun w entry ledger hw h => ?_)
    fun _ error h _ => ⟨h, Failure.isOrdinary_ledger error⟩
  rw [Daemon.reserve] at h
  simp only [bind_eq_ok, pure_eq_ok, Prod.mk.injEq] at h
  obtain ⟨-, -, -, -, rfl, rfl⟩ := h
  refine ⟨rfl, hK.written w _ hw (Or.inl fun _ htarget => ?_)⟩
  cases htarget

/-- A workspace that is reserved again keeps its cleanup target. -/
lemma reserveWorkspaceRecovery :
    Triple K (write fun ledger => reserveWorkspaceRecovery ledger spec at_ binding limits)
      (fun r w => r.workloadId = spec.workloadId ∧ K w) (Raises K) := by
  refine triple_write (fun w entry ledger hw h => ?_)
    fun _ error h _ => ⟨h, Failure.isOrdinary_ledger error⟩
  rw [Daemon.reserveWorkspaceRecovery] at h
  cases hfind : w.ledger.find? spec.workloadId with
  | none => simp [hfind] at h
  | some old =>
    rw [hfind] at h
    simp only [bind_eq_ok, pure_eq_ok, Prod.mk.injEq] at h
    obtain ⟨-, -, -, -, -, -, -, -, -, -, rfl, rfl⟩ := h
    have hid := workloadId_of_find? hfind
    refine ⟨hid, hK.written w _ hw (Or.inr ⟨old, ?_, rfl, rfl⟩)⟩
    change w.ledger.find? old.workloadId = some old
    rw [hid]
    exact hfind

lemma recoverReservation (existing : Entry) (binding : GrantBinding) (limits : Limits) :
    Triple K (recoverReservation host spec existing binding limits)
      (fun r w => r.workloadId = spec.workloadId ∧ K w) (Raises K) := by
  refine .bind (hK.safeInspect _) fun info => ?_
  match info.present with
  | none => exact triple_refusal (by decide)
  | some true =>
    dsimp only
    cases containerIdentityError existing info with
    | some error | none => exact triple_refusal (by decide)
  | some false =>
    dsimp only
    split_ifs
    · exact triple_refusal (by decide)
    · exact .bind (hK.ask _) fun _ => hK.reserveWorkspaceRecovery

section

variable (existing : Option Entry) (binding : GrantBinding) (limits : Limits)

/-- A workspace is recovered from a terminal state. -/
lemma reserveWorkload :
    Triple K (reserveWorkload host spec existing binding limits)
      (fun reserved w => (reserved.1.workloadId = spec.workloadId ∧
        ∀ state ∈ reserved.2, state.isTerminal) ∧ K w) (Raises K) := by
  rw [Daemon.reserveWorkload]
  cases hfound : existing.filter isRecoverable with
  | none =>
    refine .bind (hK.ask _) fun at_ => .bind hK.reserve fun r => ?_
    exact .pure fun _ h => ⟨⟨h.1, nofun⟩, h.2⟩
  | some entry =>
    have hrecoverable : isRecoverable entry := (Option.filter_eq_some_iff.mp hfound).2
    refine .bind (hK.recoverReservation entry binding limits) fun r => ?_
    refine .pure fun _ h => ⟨⟨h.1, fun state hstate => ?_⟩, h.2⟩
    cases hstate
    rw [isRecoverable, Bool.and_eq_true, Bool.or_eq_true, decide_eq_true_iff,
      decide_eq_true_iff] at hrecoverable
    rcases hrecoverable.2 with hstate | hstate
    · rw [hstate]; rfl
    · rw [hstate]; rfl

/-- A reservation that is refused is refused as a duplicate only if the entry has not ended. -/
lemma reserveOrRefuse :
    Triple K (reserveOrRefuse host spec existing binding limits)
      (fun reserved w => (reserved.1.workloadId = spec.workloadId ∧
        ∀ state ∈ reserved.2, state.isTerminal) ∧ K w)
      fun failure w => K w ∧ CreateRefused id existing failure w := by
  refine triple_attempt (hK.reserveWorkload existing binding limits)
    (fun reserved => .pure fun _ h => h) (fun _ error _ _ => .raise fun _ h => ⟨h, ?_⟩)
    fun _ _ h => ⟨h.1, h.seed.2.create existing⟩
  refine ⟨fun heq => ?_, fun heq => ?_⟩
  · have hreason := Option.some.inj heq
    unfold reservationRefusal at hreason
    split_ifs at hreason with hlimit hended
    · exact absurd hreason (by decide)
    · exact absurd hreason (by decide)
    · exact Bool.eq_false_of_not_eq_true hended
  · have hreason := Option.some.inj heq
    unfold reservationRefusal at hreason
    split_ifs at hreason
    all_goals exact absurd hreason (by decide)

end

lemma activateReservation (r : Entry) (kind : ReceiptKind) (target : State)
    (snapshotPath : Option PyStr) :
    Orderly K (activateReservation host r grant kind target snapshotPath) := by
  refine triple_attempt (hK.assertActivationAuthority r grant)
    (fun _ => .pure fun _ h => h) (fun failure caught hordinary hcaught => ?_) fun _ _ h => h
  refine .bind (hK.removeSnapshotPath snapshotPath) fun _ => .bind
    (hK.ask _) fun at_ => .bind (hK.ask _) fun finishedAt => ?_
  exact .bind (hK.transition (by simp)) fun _ =>
    .raise fun _ h => ⟨h, authority?_isOrdinary hordinary hcaught⟩

/-! ### Seeds -/

lemma failSeed (hid : r.workloadId = id) (snapshotPath : Option PyStr)
    (effectAttempted : Bool) (detail : PyStr) :
    Triple K (failSeed host r snapshotPath effectAttempted detail : Run α) (fun _ => K)
      fun failure w => K w ∧ SeedRefused id failure w := by
  have hfound : Triple K (getEntry r.workloadId)
      (fun found w => (found.getD r).workloadId = id ∧ K w)
      fun failure w => K w ∧ SeedRefused id failure w := by
    intro w hw
    show ((w.ledger.find? r.workloadId).getD r).workloadId = id ∧ _
    cases hfind : w.ledger.find? r.workloadId with
    | none => exact ⟨hid, hw⟩
    | some entry => exact ⟨(workloadId_of_find? hfind).trans hid, hw⟩
  have hremoved : Orderly K (removeUnattempted host effectAttempted snapshotPath) := by
    rw [removeUnattempted]
    split_ifs
    · exact .pure fun _ h => h
    · exact hK.removeSnapshotPath snapshotPath
  refine .bind_of hfound fun found hcurrent => ?_
  refine .bind (hremoved.mono_error fun _ _ h => h.seed) fun removed =>
    .bind (hK.ask _) fun at_ => ?_
  refine .bind ((hK.triple_transition (by simp [notMem_failureFields])).mono_error
    fun _ _ h => h.seed) fun failed => ?_
  cases hquarantined : effectAttempted ||
      Option.isSome (if removed then none else snapshotPath) with
  | true =>
    simp only [if_true]
    exact .raise fun _ h =>
      ⟨h.1, fun heq => absurd heq (by decide), fun heq => absurd heq (by decide)⟩
  | false =>
    simp only [Bool.false_eq_true, if_false]
    refine .raise fun w h => ⟨h.1, fun heq => absurd heq (by decide), fun _ => ?_⟩
    obtain ⟨-, hfailed, hfind, hstate⟩ := h
    exact ⟨failed, by rw [← hcurrent, ← hfailed]; exact hfind, hstate⟩

lemma noteReservation (r : Entry) (receipt : Option ReceiptKind)
    {extra : List Extra} (h : ∀ target, Extra.cleanupTargetState target ∉ extra) :
    Triple K (noteReservation host r receipt extra)
      (fun noted w => noted.workloadId = r.workloadId ∧ K w) (Raises K) :=
  .bind (hK.ask _) fun _ =>
    (hK.triple_transition h).mono_post (fun _ _ h => ⟨h.2.1, h.1⟩) fun _ _ h => h

lemma prepareSeed (r : Entry) (root : PyStr) :
    Triple K (prepareSeed host r grant root)
      (fun started w => started.workloadId = r.workloadId ∧ K w) (Raises K) := by
  refine .bind_of (hK.noteReservation _ _ (by simp)) fun noted hnoted => ?_
  refine .bind (hK.assertActivationAuthority noted grant) fun _ => ?_
  rw [← hnoted]
  exact hK.noteReservation _ _ (by simp)

lemma performSeed (r : Entry) (root : PyStr) :
    Orderly K (performSeed host spec r grant root) := by
  refine .bind (hK.askEngine _) fun _ => ?_
  refine .bind (hK.assertActivationAuthority r grant) fun _ => ?_
  refine .bind_of (hK.noteReservation _ _ (by simp)) fun seeded _ => ?_
  refine .bind (hK.askEngine _) fun _ => ?_
  refine .bind (hK.removeSnapshotPath _) fun removed => ?_
  split_ifs
  · exact (hK.noteReservation _ _ (by simp)).mono_post (fun _ _ h => h.2) fun _ _ h => h
  · exact .raise fun _ h => ⟨h, Failure.isOrdinary_engine _⟩

lemma freshSeed (hid : r.workloadId = id) (seedId : PyStr) :
    Triple K (freshSeed host spec r grant seedId) (fun _ => K)
      fun failure w => K w ∧ SeedRefused id failure w := by
  refine .bind_of ((hK.noteReservation _ _ (by simp)).mono_error fun _ _ h => h.seed)
    fun noted hnoted => ?_
  have hnoted : noted.workloadId = id := hnoted.trans hid
  refine .bind (hK.ask _) fun staged => ?_
  match staged with
  | .error (detail, left) => exact hK.failSeed hnoted left false detail
  | .ok root =>
    refine triple_attempt (hK.prepareSeed noted root) (fun started => .of_and fun hstarted => ?_)
      (fun _ detail _ _ => hK.failSeed hnoted (some root) false detail) fun _ _ h => h.seed
    exact triple_attempt (hK.performSeed started root) (fun seeded => .pure fun _ h => h)
      (fun _ detail _ _ => hK.failSeed (hstarted.trans hnoted) (some root) true detail)
      fun _ _ h => h.seed

lemma reuseSeed (r : Entry) (target : State) : Orderly K (reuseSeed host spec r target) := by
  refine triple_attempt (hK.askEngine _) (fun _ => .pure fun _ h => h)
    (fun _ _ _ _ => ?_) fun _ _ h => h
  refine .bind (hK.ask _) fun at_ => ?_
  exact .bind (hK.transition (by simp)) fun _ => triple_refusal (by decide)

lemma seedReservation (hid : r.workloadId = id) (existing : Option Entry)
    (recoveringFrom : Option State) (seedId : PyStr) :
    Triple K (seedReservation host spec existing r recoveringFrom grant seedId)
      (fun _ => K) fun failure w => K w ∧ SeedRefused id failure w := by
  rw [Daemon.seedReservation]
  split_ifs
  · exact .pure fun _ h => h
  · exact (hK.reuseSeed r _).mono_error fun _ _ h => h.seed
  · exact hK.freshSeed hid seedId

/-! ### Sources -/

lemma rejectSource (r : Entry) (detail : PyStr) :
    Orderly K (rejectSource host r detail : Run α) := by
  refine .bind (hK.ask _) fun at_ => .bind (hK.ask _) fun finishedAt => ?_
  exact .bind (hK.transition (by simp [notMem_failureFields])) fun _ => triple_refusal (by decide)

lemma withdrawSource (root detail : PyStr) :
    Orderly K (withdrawSource host spec root detail : Run α) :=
  .bind ((hK.workload _).recordPostEffectReconciliation rfl _ _ _) fun _ => triple_refusal
    (by decide)

lemma admitSource (r : Entry) (hasSource : Bool) :
    Orderly K (admitSource host spec r grant hasSource) := by
  rw [Daemon.admitSource]
  split_ifs
  · exact .pure fun _ h => h
  · exact hK.rejectSource _ _
  · refine .bind (hK.ask _) fun staged => ?_
    match staged with
    | .error (detail, none) => exact hK.rejectSource _ _
    | .error (detail, some root) => exact hK.withdrawSource _ _
    | .ok root =>
      exact triple_attempt (hK.assertActivationAuthority r grant)
        (fun _ => .pure fun _ h => h) (fun _ _ _ _ => hK.withdrawSource _ _) fun _ _ h => h

/-! ### Containers -/

/-- A container that has been created is recorded in the entry, which is bound from then on. -/
lemma createContainer 
    {engineKind conflictKind : ReceiptKind} {extra : List Extra}
    (htarget : target.isTerminal)
    (hextra : ∀ target, Extra.cleanupTargetState target ∉ extra) :
    Triple K (createContainer host spec r target snapshotPath engineKind conflictKind
      extra) (fun created w => K w ∧ Bound created w) (Raises K) := by
  refine .bind (hK.reconciled (fun _ h => h) (fun failure caught _ hcaught => ?_) htarget
    (hK.askEngine _)) fun containerId => ?_
  · cases failure with
    | engine message =>
      cases hcaught
      exact Failure.isOrdinary_refusal (by decide)
    | _ => cases hcaught
  refine .bind (hK.ask _) fun at_ =>
    hK.reconciled (fun _ h => h) (fun failure caught _ hcaught => ?_) htarget ?_
  · cases failure with
    | ledger error =>
      cases hcaught
      exact Failure.isOrdinary_refusal (by decide)
    | _ => cases hcaught
  refine triple_write (fun w created ledger hw h => ?_)
    fun _ error h _ => ⟨h, Failure.isOrdinary_ledger error⟩
  obtain ⟨old, hfind, -, -, rfl, rfl⟩ := transition_eq_ok_iff.mp h
  refine ⟨hK.written w _ hw (proper_transitioned hfind (Change.settles_of_notMem ?_)),
    Current.bound (find?_put_self rfl)⟩
  intro target hmem
  rcases List.mem_append.mp hmem with hmem | hmem
  · exact hextra target hmem
  · cases List.mem_singleton.mp hmem

/-- **How a creation is refused.** It is refused as a duplicate only if the entry that it finds is
neither removed nor interrupted, and a refused source admission leaves a failed entry. -/
theorem triple_opCreate (existing : Option Entry) (hasSource : Bool) :
    Triple (fun w => K w ∧ w.ledger.find? spec.workloadId = existing)
      (opCreate host request grant spec hasSource) (fun _ => K)
      fun failure w => K w ∧ CreateRefused spec.workloadId existing failure w := by
  have hcreate : ∀ failure w, Raises K failure w →
      K w ∧ CreateRefused spec.workloadId existing failure w :=
    fun _ _ h => ⟨h.1, h.seed.2.create existing⟩
  refine .bind ((orderly_checkCapabilities fun w h => ⟨hK.asked w h.1, h.2⟩).mono_error
    fun _ _ h => hcreate _ _ ⟨h.1.1, h.2⟩) fun _ => ?_
  refine .bind (.lift (fun _ h _ _ => h) fun _ h failure hfailure =>
    hcreate _ _ ⟨h.1, raisesOnly_grantBinding failure hfailure⟩) fun binding => ?_
  refine .bind (Q := fun found w => found = existing ∧ K w)
    (fun w hw => ⟨hw.2, hw.1⟩) fun found => .of_and fun hfound => ?_
  subst hfound
  refine .bind ((orderly_admitSeed hK.asked found hasSource).mono_error hcreate) fun _ => ?_
  refine .bind_of (hK.reserveOrRefuse found binding _) fun reserved hreserved => ?_
  obtain ⟨r, recoveringFrom⟩ := reserved
  have htarget : (recoveringFrom.getD .failed).isTerminal := by
    cases recoveringFrom with
    | none => rfl
    | some state => exact hreserved.2 state rfl
  refine .bind ((hK.activateReservation _ _ _ _).mono_error hcreate) fun _ => ?_
  refine .bind ((hK.seedReservation hreserved.1 found _ _).mono_error
    fun _ _ h => ⟨h.1, h.2.create found⟩) fun seeded => ?_
  refine .bind ((hK.admitSource seeded hasSource).mono_error hcreate) fun snapshotPath => ?_
  have hextra : ∀ target, Extra.cleanupTargetState target ∉
      (snapshotPath.map fun path => Extra.sourceSnapshotPath (some path)).toList := by
    cases snapshotPath <;> simp
  refine .bind ((hK.createContainer htarget hextra).mono_post (fun _ _ h => h.1) hcreate)
    fun created => ?_
  refine .bind ((hK.touchWorkspace spec _).mono_error hcreate) fun _ => ?_
  exact (hK.answer _ _ _ _).mono_error hcreate

lemma opCreate (hasSource : Bool) : Keeps K (opCreate host request grant spec hasSource) :=
  fun w h => (hK.triple_opCreate _ hasSource).mono_error (fun _ _ h => h.1) w ⟨h, rfl⟩

end Closed

lemma closed_true : Closed fun _ => True where
  asked _ _ := trivial
  workload _ :=
    { asked := fun _ _ => trivial
      inspected := fun _ _ _ => trivial
      called := fun _ _ _ _ _ => trivial
      written := fun _ _ _ _ _ => trivial }

lemma exists_createRefused {hasSource : Bool} {reason : String}
    (h : refusalReason (opCreate host request grant spec hasSource w).1 = some reason) :
    ∃ failure : Failure, failure.reason? = some reason ∧ CreateRefused spec.workloadId
      (w.ledger.find? spec.workloadId) failure
      (opCreate host request grant spec hasSource w).2 := by
  have houtcome : Outcome (fun _ _ => True) (fun failure after => True ∧ CreateRefused
      spec.workloadId (w.ledger.find? spec.workloadId) failure after)
      (opCreate host request grant spec hasSource w) :=
    closed_true.triple_opCreate _ hasSource w ⟨trivial, rfl⟩
  cases hrun : opCreate host request grant spec hasSource w with
  | mk result after =>
    rw [hrun] at houtcome h
    cases result with
    | ok answer => cases h
    | error failure => exact ⟨failure, h, houtcome.2⟩

end StatePort.Daemon
