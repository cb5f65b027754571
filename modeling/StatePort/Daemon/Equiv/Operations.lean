import StatePort.Daemon.Equiv.Creation

/-!
# What the operations of the clients keep

Every handler keeps whatever is closed (`Closed.dispatch`), and with the supervisor and the restart
so does everything that the daemon does (`Closed.perform`). A handler that acts on a container
carries along that its entry is bound, and after the inspection that the container is verified.
-/

namespace StatePort.Daemon

open Effect

variable {host : Host} {id : Id} {entry : Entry} {K I P : World → Prop} {α : Type}
  {request : OperationRequest} {grant : Option Grant} {spec : Spec}

/-- An entry that must be there is the one in the ledger. -/
lemma triple_entryRequired (id : Id) :
    Triple K (entryRequired id)
      (fun entry w => K w ∧ Current entry w ∧ entry.workloadId = id)
      fun _ => K := by
  refine .bind (triple_getCurrent id) fun found => ?_
  cases found with
  | none => exact .raise fun _ h => h.1
  | some entry => exact .pure fun _ h => ⟨h.1, h.2 entry rfl⟩

variable (running : Entry)

lemma keeps_unchangedValidator (detail : String) :
    Keeps K (unchangedValidator running detail) := by
  refine .bind (keeps_getEntry _) fun found => ?_
  cases found with
  | none => exact .raise _
  | some current =>
    dsimp only
    split_ifs
    · exact .pure _
    · exact .raise _

section

variable (hK : Closed K)
include hK

lemma Closed.bound (entry : Entry) : Stable entry.workloadId fun w => K w ∧ Bound entry w :=
  (hK.stable entry.workloadId).and (stable_bound entry)

lemma Closed.authorizedEntry (id : Id) (grant : Option Grant) :
    Triple K (authorizedEntry host id grant) (fun entry w => K w ∧ Bound entry w) fun _ => K := by
  refine .bind (triple_entryRequired id) fun entry => ?_
  refine .bind_pure ((orderly_assertActivationAuthority (hK.bound entry).asked).kept.kept.mono_pre
    fun _ h => ⟨h.1, h.2.1.bound⟩)

/-! ### Start and stop -/

lemma Closed.opStart : Keeps K (opStart host grant id) := by
  refine Triple.bind (triple_entryRequired id) fun entry => ?_
  refine Triple.mono (P := fun w => K w ∧ Bound entry w) ?_
    (fun _ h => ⟨h.1, h.2.1.bound⟩) (fun _ _ h => h) fun _ _ h => h
  have hstable := hK.bound entry
  by_cases hseed : entry.spec.sourceSeed.isSome ∧ entry.sourceSeedStatus ≠ some .complete
  · rw [if_pos hseed]
    exact .raise fun _ h => h.1
  rw [if_neg hseed]
  refine .bind (orderly_assertActivationAuthority hstable.asked).kept.kept fun _ => ?_
  split_ifs
  · exact .raise fun _ h => h.1
  refine .bind ((triple_requireOwnedContainer hstable fun _ h => h.2).mono_error
    fun _ _ h => h.1) fun targetId => ?_
  refine .bind (Q := fun _ => K) (hK.orReconcile rfl ?_) fun _ => ?_
  · exact (orderly_act (hstable.and (stable_verified entry.workloadId targetId)) .start
      fun _ h => h.2).mono_post (fun _ _ h => h.1.1) fun _ _ h => h.1.1.1
  refine .bind (hK.orReconcile rfl (hK.assertActivationAuthority entry grant).kept) fun _ => ?_
  refine .bind (hK.ask _) fun startedAt => ?_
  refine .bind (hK.orReconcile rfl (hK.transition (by simp)).kept) fun _ => ?_
  exact .bind (hK.touchWorkspace _ _).kept fun _ => (hK.answer _ _ _ _).kept

lemma Closed.recordStop (info : Info) :
    Triple (fun w => K w ∧ Bound entry w) (recordStop host entry info) (fun _ => K) fun _ => K := by
  refine .bind (keeps_ask (hK.bound entry) _) fun finishedAt => ?_
  refine .bind (Q := fun _ => K) ((orderly_captureSourceCommandOutput (hK.bound entry)
    (fun _ h => h.2) _).mono_post (fun _ _ h => h.1) fun _ _ h => h.1.1) fun captured => ?_
  refine .bind (hK.orReconcile rfl (hK.transition (by simp)).kept) fun _ => ?_
  exact .bind (hK.touchWorkspace _ _).kept fun _ => (hK.answer _ _ _ _).kept

lemma Closed.opStop : Keeps K (opStop host grant id) := by
  refine Triple.bind (hK.authorizedEntry id grant) fun entry => ?_
  have hstable := hK.bound entry
  split_ifs
  · exact Triple.raise fun _ h => h.1
  refine Triple.bind ((triple_requireOwnedContainer hstable fun _ h => h.2).mono_error
    fun _ _ h => h.1) fun targetId => ?_
  -- The container stays verified while the reason of its end is noted.
  have hverified := hstable.and (stable_verified entry.workloadId targetId)
  refine Triple.bind ((triple_markBound hverified (fun _ h => h.1.2) _).mono_error
    fun _ _ h => h.1.1.1) fun marked => ?_
  by_cases hsame : SameIdentity marked entry
  · rw [hsame.workloadId]
    refine Triple.bind ((Orderly.attempt (orderly_act hverified .stop fun _ h => h.2)).mono
      (fun _ h => h.1) (fun _ _ h => h) fun _ _ h => h.1.1.1) fun result => ?_
    cases result with
    | error message => exact Triple.raise fun _ h => h.1.1
    | ok _ =>
      refine Triple.bind ((orderly_safeInspect hstable).kept.kept.mono_pre fun _ h => h.1)
        fun info => ?_
      split_ifs
      · exact Triple.bind ((hK.workload _).recordPostEffectReconciliation rfl _ _ _).kept.dropping
          fun _ => Keeps.raise _
      · exact (hK.recordStop info).mono_pre fun _ h => ⟨h.1, hsame.bound h.2⟩
  · exact fun _ h => absurd h.2 hsame

/-! ### Observation -/

lemma Closed.opStatus : Keeps K (opStatus host grant id) := by
  refine Triple.bind (hK.authorizedEntry id grant) fun entry => ?_
  have hstable := hK.bound entry
  refine Triple.bind (orderly_safeInspect hstable).kept.kept fun info => ?_
  refine Triple.bind (Q := fun _ w => K w ∧ Bound entry w) ?_ fun _ => ?_
  · rw [checkObservedContainer]
    split_ifs
    · exact .bind ((triple_requireOwnedContainer hstable fun _ h => h.2).mono_error
        fun _ _ h => h.1) fun _ => .pure fun _ h => h.1
    · exact .pure fun _ h => h
  split_ifs
  · refine .bind (Q := fun _ => K) ?_ fun state => ?_
    · refine .bind (keeps_ask hstable _) fun finishedAt => ?_
      refine .bind (Q := fun _ => K) ((orderly_captureSourceCommandOutput hstable
        (fun _ h => h.2) _).mono_post (fun _ _ h => h.1) fun _ _ h => h.1.1)
        fun captured => ?_
      refine .bind (orderly_residualEvidence (hK.stable _)).kept fun _ => ?_
      exact Triple.bind_pure (hK.transition (by simp)).kept
    · refine .bind (triple_entryRequired id) fun current => ?_
      exact (hK.answer _ _ _ _).kept.dropping
  · exact (hK.answer _ _ _ _).kept.dropping

lemma Closed.readLogs :
    Triple (fun w => K w ∧ Bound entry w) (readLogs host entry) (fun _ => K) fun _ => K := by
  have hstable := hK.bound entry
  refine Triple.bind ((triple_requireOwnedContainer hstable fun _ h => h.2).mono_post
    (fun _ _ h => h.1) fun _ _ h => h.1) fun targetId => ?_
  refine Triple.bind (Orderly.attempt (orderly_askEngine hstable.asked _)).kept.kept fun result =>
    ?_
  cases result with
  | error message => exact Triple.raise fun _ h => h.1
  | ok _ => exact (hK.answer _ _ _ _).kept.dropping

lemma Closed.captureForLogs :
    Triple (fun w => K w ∧ Bound entry w) (captureForLogs host entry)
      (fun captured w => (K w ∧ Bound entry w) ∧ SameIdentity captured entry)
      fun _ => K := by
  have hstable := hK.bound entry
  have hcapture : ∀ reason, Triple (fun w => K w ∧ Bound entry w)
      (captureSourceCommandOutput host entry reason)
      (fun captured w => (K w ∧ Bound entry w) ∧ SameIdentity captured entry)
      fun _ => K := fun reason =>
    (triple_captureBound hstable (fun _ h => h.2) reason).kept.kept
  rw [Daemon.captureForLogs]
  by_cases houtput : entry.sourceCommandOutput.isSome
  · rw [if_pos houtput]
    exact hcapture _
  · rw [if_neg houtput]
    refine .bind (orderly_safeInspect hstable).kept.kept fun info => ?_
    by_cases hended : info.present = some true ∧ info.running = some false
    · rw [if_pos hended]
      exact hcapture _
    · rw [if_neg hended]
      exact .pure fun _ h => ⟨h, SameIdentity.refl entry⟩

lemma Closed.opLogs : Keeps K (opLogs host grant id) := by
  refine Triple.bind (hK.authorizedEntry id grant) fun entry => ?_
  split_ifs
  · refine Triple.bind hK.captureForLogs (triple_snapshot fun captured _ => ?_)
    split_ifs
    · exact (hK.answer _ _ _ _).kept.dropping
    · exact hK.readLogs
  · exact hK.readLogs

/-! ### Terminals and commands -/

lemma Closed.runningWorkspace (kindDetail stateDetail : String) :
    Triple K (runningWorkspace host grant id kindDetail stateDetail)
      (fun entry w => K w ∧ Bound entry w) fun _ => K := by
  refine .bind (hK.authorizedEntry id grant) fun entry => ?_
  split_ifs
  · exact .raise fun _ h => h.1
  · exact .raise fun _ h => h.1
  · refine .bind (orderly_safeInspect (hK.bound entry)).kept.kept fun info => ?_
    split_ifs
    · exact .raise fun _ h => h.1
    · exact .pure fun _ h => h

variable (expectedIdentity : Option Digest)

lemma Closed.attachTerminal :
    Keeps (fun w => K w ∧ Bound entry w) (attachTerminal host entry expectedIdentity) := by
  have hstable := hK.bound entry
  refine Triple.bind (triple_engineTarget hstable fun _ h => h.2) fun exactId => ?_
  split_ifs
  · exact Triple.raise fun _ h => h.1
  · refine Triple.bind ((orderly_act (hstable.and (stable_verified entry.workloadId exactId))
      .openTerminal fun _ h => h.2).mono_post (fun _ _ h => h.1) fun _ _ h => h.1.1)
      fun _ => ?_
    refine Keeps.bind (keeps_ask hstable _) fun served => ?_
    split_ifs
    · exact Keeps.pure _
    · exact Keeps.raise _

lemma Closed.opOpenTerminal : Keeps K (opOpenTerminal host grant id expectedIdentity) := by
  refine Triple.bind (hK.runningWorkspace _ _) fun entry => ?_
  refine Triple.bind (keeps_ask (hK.bound entry) _) fun free => ?_
  split_ifs
  · exact Triple.raise fun _ h => h.1
  · refine Triple.bind (Keeps.attempt (hK.attachTerminal expectedIdentity)).kept fun result => ?_
    cases result with
    | error message => exact Triple.raise fun _ h => h.1
    | ok _ => exact Triple.bind (hK.touchActivity _).kept.dropping fun _ => (hK.answer _ _ _ _).kept

lemma Closed.opTerminalSession : Keeps K (opTerminalSession host id) := by
  refine .bind (hK.ask _) fun delivered => ?_
  split_ifs
  · exact .raise _
  · exact .bind_pure (hK.touchActivity _).kept

lemma Closed.opExecWorkload : Keeps K (opExecWorkload host grant id) := by
  refine Triple.bind (hK.runningWorkspace _ _) fun entry => ?_
  refine Triple.bind (Keeps.attempt (keeps_actOnOwned (hK.bound entry) (fun _ h => h.2)
    .exec)).kept fun result => ?_
  cases result with
  | error message => exact Triple.raise fun _ h => h.1
  | ok _ => exact Triple.bind (hK.touchActivity _).kept.dropping fun _ => (hK.answer _ _ _ _).kept

/-! ### Enumeration -/

lemma Closed.listOne (id : Id) : Keeps K (listOne host id) := by
  refine .bind (keeps_getEntry id) fun found => ?_
  cases found with
  | none => exact .pure _
  | some entry =>
    refine .bind (hK.safeInspect _).kept fun info => ?_
    split_ifs
    · refine .bind (hK.ask _) fun finishedAt => ?_
      exact .bind_pure (hK.transition (by simp)).kept
    · exact .pure _

lemma Closed.opListWorkloads : Keeps K (opListWorkloads host grant) := by
  refine .bind (.bind .state fun w => ?_) fun _ => .pure _
  cases grant with
  | none => exact .pure _
  | some grant =>
    refine .forM fun snapshot _ => ?_
    rw [listScoped]
    split_ifs
    · refine .bind (.lift _) fun owned => ?_
      split_ifs
      · exact hK.listOne _
      · exact .pure _
    · exact .pure _

/-! ### Cancellation and removal -/

lemma Closed.recordCancelFailure (snapshotPath : Option PyStr) :
    Keeps K (recordCancelFailure host entry snapshotPath) := by
  refine .bind (hK.ask _) fun at_ => .bind (hK.ask _) fun finishedAt => ?_
  refine .bind (.attempt (hK.transitionSnapshot (fun _ old _ _ target hmem => ?_)
    fun _ h => h).kept) fun result => ?_
  · have htarget : target = .cancelled := by
      cases snapshotPath with
      | none | some path => simpa using hmem
    rw [htarget]
    exact Or.inl rfl
  · cases result with
    | ok recorded => exact .pure _
    | error error => exact ((hK.workload _).recordPostEffectReconciliation rfl _ _ _).kept

lemma Closed.opCancel : Keeps K (opCancel host grant id) := by
  refine Triple.bind (hK.authorizedEntry id grant) fun entry => ?_
  have hstable := hK.bound entry
  split_ifs
  · exact Triple.raise fun _ h => h.1
  · refine Triple.bind (hK.ask _).dropping fun at_ => ?_
    exact Triple.bind_pure (hK.transition (by simp)).kept
  · refine Triple.bind (Q := fun _ => K) ((triple_assertOwnedContainer hstable (fun _ h => h.2)
      true).mono_post (fun _ _ h => h.1.1) fun _ _ h => h.1) fun _ => ?_
    refine Keeps.bind (orderly_cleanupEngineEffect (hK.stable _) _ _).kept fun complete => ?_
    refine Keeps.bind (keeps_getEntry _) fun found => ?_
    split_ifs
    · exact Keeps.bind (hK.recordCancelFailure _) fun reconciled => (hK.answer _ _ _ _).kept
    · refine Keeps.bind (hK.ask _) fun at_ => ?_
      refine Keeps.bind (hK.orReconcile rfl (hK.transition ?_).kept) fun _ =>
        (hK.answer _ _ _ _).kept
      simp [noSnapshots]

lemma Closed.opRemove : Keeps K (opRemove host grant id) := by
  refine Triple.bind (hK.authorizedEntry id grant) fun entry => ?_
  refine Triple.bind (Q := fun _ => K) ((triple_assertOwnedContainer (hK.bound entry)
    (fun _ h => h.2) true).mono_post (fun _ _ h => h.1.1) fun _ _ h => h.1) fun _ => ?_
  refine Keeps.bind (orderly_cleanupEngineEffect (hK.stable _) _ _).kept fun complete => ?_
  refine .bind (keeps_getEntry _) fun found => ?_
  split_ifs
  · exact .bind ((hK.workload _).recordPostEffectReconciliation rfl _ _ _).kept fun _ => .raise _
  · refine .bind (hK.ask _) fun at_ => ?_
    refine .bind_pure (hK.orReconcile rfl (hK.transition ?_).kept)
    simp [noSnapshots]

/-! ### Validators -/

lemma Closed.inspectValidator (id : Id) : Keeps K (inspectValidator host id) := by
  refine .bind (hK.safeInspect id).kept fun info => ?_
  split_ifs
  · exact .raise _
  · exact .pure _

lemma Closed.pollValidator (rounds : ℕ) : Keeps K (pollValidator host running rounds) := by
  induction rounds with
  | zero => exact .bind_pure (hK.inspectValidator _)
  | succ rounds ih =>
    refine .bind (keeps_unchangedValidator running _) fun _ => ?_
    refine .bind (hK.inspectValidator _) fun info => ?_
    split_ifs
    · exact .raise _
    · exact .pure _
    · refine .bind (hK.ask _) fun overdue => ?_
      split_ifs
      · exact .pure _
      · exact ih

lemma Closed.killValidator (id : Id) : Keeps K (killValidator host id) := by
  refine Keeps.bind (Keeps.attempt (Triple.bind (triple_entryRequired id) fun entry => ?_))
    fun _ => hK.inspectValidator id
  exact (keeps_actOnOwned (hK.bound entry) (fun _ h => h.2) .kill).mono
    (fun _ h => ⟨h.1, h.2.1.bound⟩) (fun _ _ h => h.1) fun _ _ h => h.1

lemma Closed.observeValidator : Keeps K (observeValidator host running) := by
  refine .bind (hK.pollValidator running _) fun polled => ?_
  obtain ⟨timedOut, info⟩ := polled
  have hsettled : Keeps K (settleValidator host running.workloadId timedOut info) := by
    rw [settleValidator]
    split_ifs
    · exact hK.killValidator _
    · exact .pure _
  refine .bind hsettled fun info => ?_
  refine .bind (keeps_unchangedValidator running _) fun _ => ?_
  refine Triple.bind (triple_entryRequired _) fun entry => ?_
  refine Triple.bind (Q := fun _ => K) ((triple_engineTarget (hK.bound entry) fun _ h => h.2).mono
    (fun _ h => ⟨h.1, h.2.1.bound⟩) (fun _ _ h => h.1.1) fun _ _ h => h.1) fun targetId => ?_
  exact Triple.bind_pure (hK.askEngine _).kept

lemma Closed.recordValidator (timedOut : Bool) (info : Info)
    (finishedAt root : PyStr) (complete : Bool) :
    Keeps K (recordValidator host running timedOut info finishedAt root complete) := by
  rw [Daemon.recordValidator]
  cases complete with
  | true =>
    rw [if_pos rfl]
    exact .bind_pure (hK.transition (by simp [noSnapshots])).kept
  | false =>
    rw [if_neg Bool.false_ne_true]
    refine .bind (hK.ask _) fun at_ => ?_
    refine .bind (hK.transitionSnapshot (fun _ old _ _ target hmem => ?_) fun _ h => h).kept
      fun _ => .pure _
    have htarget : target = if timedOut then .timedOut else .exited := by simpa using hmem
    rw [htarget]
    cases timedOut with
    | true | false => exact Or.inl rfl

lemma Closed.executeValidator (created : Entry) (root : PyStr) :
    Triple (fun w => K w ∧ Bound created w)
      (executeValidator host grant created root) (fun _ => K) fun _ => K := by
  have hstable := hK.bound created
  refine Triple.bind (hK.orReconcile rfl
    (orderly_assertActivationAuthority hstable.asked).kept.kept)
    fun _ => ?_
  refine Triple.bind (hK.orReconcile rfl (keeps_actOnOwned hstable (fun _ h => h.2) .start).kept)
    fun _ => ?_
  refine Triple.bind (Q := fun _ => K) (hK.orReconcile rfl
    (hK.assertActivationAuthority created grant).kept.dropping) fun _ => ?_
  refine Keeps.bind (hK.ask _) fun startedAt => ?_
  refine Keeps.bind (hK.orReconcile rfl (hK.transition (by simp)).kept) fun running => ?_
  refine Keeps.bind (hK.orReconcile rfl (hK.observeValidator running)) fun observed => ?_
  refine Keeps.bind (hK.ask _) fun finishedAt => ?_
  refine Keeps.bind (orderly_cleanupEngineEffect (hK.stable _) _ _).kept fun complete => ?_
  exact Triple.bind_pure (hK.orReconcile rfl (hK.recordValidator _ _ _ _ _ _))

lemma Closed.opRunValidator : Keeps K (opRunValidator host request grant spec) := by
  rw [Daemon.opRunValidator]
  split_ifs
  · exact .raise _
  refine .bind (.bind (hK.ask _) fun staged => ?_) fun root => ?_
  · match staged with
    | .ok root => exact .pure _
    | .error (detail, left) => exact .bind (hK.removeSnapshotPath left).kept fun _ => .raise _
  refine .bind (.lift _) fun binding => ?_
  refine .bind (.bind (hK.ask _) fun at_ => .bind (.attempt
    (hK.reserve.mono_post (fun _ _ h => h.2) fun _ _ h => h.1)) fun result => ?_) fun reservation =>
      ?_
  · cases result with
    | ok reservation => exact .pure _
    | error error => exact .bind (hK.removeSnapshotPath _).kept fun _ => .raise _
  refine .bind (hK.activateReservation _ _ _ _).kept fun _ => ?_
  refine Triple.bind ((hK.createContainer rfl (by simp)).mono_error fun _ _ h => h.1)
    fun created => ?_
  exact hK.executeValidator created root

/-! ### Garbage -/

lemma Closed.removeGarbage :
    Triple (fun w => K w ∧ Bound entry w) (removeGarbage host entry) (fun _ => K) fun _ => K := by
  have hstable := hK.bound entry
  refine .bind ((triple_engineTarget hstable fun _ h => h.2).mono_error fun _ _ h => h.1)
    fun targetId => ?_
  have hverified := hstable.and (stable_verified entry.workloadId targetId)
  refine .bind ((orderly_captureSourceCommandOutput hverified (fun _ h => h.1.2) _).mono_error
    fun _ _ h => h.1.1.1) fun _ => ?_
  refine .bind (Q := fun _ => K) ((orderly_act hverified .remove fun _ h => h.2).mono_post
    (fun _ _ h => h.1.1) fun _ _ h => h.1.1.1) fun _ => ?_
  refine .bind (hK.removeSnapshotPath _).kept fun removed => ?_
  split_ifs
  · exact Keeps.pure _
  · exact Keeps.raise _

lemma Closed.collectOne (item : Managed) : Keeps K (collectOne host item) := by
  rw [Daemon.collectOne]
  split_ifs
  · exact Keeps.pure _
  · cases managedId item with
    | none => exact Keeps.pure _
    | some id =>
      refine Triple.bind (triple_getCurrent id) fun found => ?_
      cases found with
      | none => exact Triple.pure fun _ h => h.1
      | some entry =>
        dsimp only
        split_ifs
        · exact Triple.pure fun _ h => h.1
        · refine Triple.bind ((Triple.attempt_of_always hK.removeGarbage).mono_pre
            (fun _ h => ⟨h.1, (h.2 entry rfl).1.bound⟩))
            fun _ => Keeps.pure _

lemma Closed.collectAll (items : List Managed) : Keeps K (collectAll host items) := by
  induction items with
  | nil => exact .pure _
  | cons item items ih => exact .bind (hK.collectOne item) fun _ => .bind_pure ih

lemma Closed.opCollectGarbage : Keeps K (opCollectGarbage host) := by
  refine .bind (hK.askEngine _).kept fun managed => ?_
  refine .bind (hK.collectAll managed) fun failures => ?_
  split_ifs
  · exact .pure _
  · exact .raise _

/-! ### Everything -/

lemma Closed.dispatch (command : Command) : Keeps K (dispatch host request grant command) := by
  cases command with
  | createWorkload spec hasSource => exact hK.opCreate hasSource
  | start id => exact hK.opStart
  | stop id => exact hK.opStop
  | status id => exact hK.opStatus
  | logs id => exact hK.opLogs
  | cancel id => exact hK.opCancel
  | removeWorkload id => exact hK.opRemove
  | openTerminal id expectedIdentity => exact hK.opOpenTerminal expectedIdentity
  | terminalSession id => exact hK.opTerminalSession
  | execWorkload id => exact hK.opExecWorkload
  | listWorkloads => exact hK.opListWorkloads
  | collectGarbage => exact hK.opCollectGarbage
  | runValidator spec => exact hK.opRunValidator

/-- Everything that the daemon does keeps whatever is closed. -/
lemma Closed.perform (activity : Activity) : Keeps K (perform host activity) := by
  cases activity with
  | request request grant command => exact .bind_pure (hK.dispatch command)
  | supervise => exact hK.superviseAll
  | boot at_ => exact .bind_pure (hK.reconcileOnBoot at_)

end

end StatePort.Daemon
