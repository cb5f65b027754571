import StatePort.Algorithm.Commute
import StatePort.PortableExecution.Equiv.Changes

/-!
# Crashes before an apply begins

`apply_proposal` publishes the durable snapshot of a run and then enters `applying`. The snapshot
has a name that is computed from the run, so that a later attempt finds the name taken; the recovery
at a start looks at the snapshots that records name, and no record names this one yet.

`retry_eq_iff`: a later attempt ends as if the first had not been made exactly if the crash came
before the snapshot was published.
-/

namespace StatePort.PortableExecution

open Effect List Digests World

open Effect (Commutes lift raise)

variable {δ : Type} {d : Digests δ} {runId instanceId : String}
  {change : Run (RunData δ) → Except StoreError (Run (RunData δ))} {script : RecoveryStep → Fault}

/-! ### Recovery and a snapshot that no record names -/

variable (key : String) (edit : List (DurableSnapshot δ) → List (DurableSnapshot δ))

/-- A change of the durable snapshots that only concerns those of one name. -/
structure Beside : Prop where
  find {other : String} (h : other ≠ key) (snapshots : List (DurableSnapshot δ)) :
    (edit snapshots).find? (fun s => s.key = other) = snapshots.find? fun s => s.key = other
  remove {other : String} (h : other ≠ key) (snapshots : List (DurableSnapshot δ)) :
    (edit snapshots).filter (fun s => s.key ≠ other) = edit
      (snapshots.filter fun s => s.key ≠ other)

def World.edited (w : World δ) : World δ :=
  { w with snapshots := edit w.snapshots }

lemma beside_add (snapshot : DurableSnapshot δ) : Beside snapshot.key (· ++ [snapshot]) where
  find h snapshots := by simp [find?_append, Ne.symm h]
  remove h snapshots := by simp [filter_append, Ne.symm h]

lemma beside_remove : Beside key (List.filter fun s : DurableSnapshot δ => s.key ≠ key) where
  find h snapshots := by
    rw [find?_filter]
    congr 1
    funext s
    have hs : s.key = _ → s.key ≠ key := fun heq => heq ▸ h
    simpa using hs
  remove h snapshots := filter_comm _ _ _

variable {w : World δ}

section

variable {key : String} {edit : List (DurableSnapshot δ) → List (DurableSnapshot δ)} {fault : Fault}
  {run : Run (RunData δ)}

lemma commutes_act {change : World δ → Except Raised (World δ)}
    (h : ∀ w, change (w.edited edit) = (change w).map (World.edited edit)) :
    Commutes (World.edited edit) (act fault change) := by
  intro w
  have hw := h w
  cases fault with
  | before e => rfl
  | during residue e => rfl
  | none =>
    cases hchange : change w with
    | error e | ok w' => simp only [act, hw, hchange, Except.map]
  | after e =>
    cases hchange : change w with
    | error e | ok w' => simp only [act, hw, hchange, Except.map]

lemma commutes_act_ok :
    Commutes (World.edited edit) (act fault (.ok : World δ → Except Raised (World δ))) :=
  commutes_act fun _ => rfl

lemma commutes_callStore :
    Commutes (World.edited edit) (act fault fun w : World δ => callStore w runId change) := by
  refine commutes_act fun w => ?_
  have hruns : (w.edited edit).runs = w.runs := rfl
  rw [callStore, callStore, hruns]
  cases w.runs.modify runId _ with
  | ok runs => rfl
  | error e => rfl

lemma commutes_restoreTree {content : Snapshot} :
    Commutes (World.edited edit) (restoreTree fault instanceId content : Job δ Unit) := by
  intro w
  cases fault with
  | before e => rfl
  | none => rfl
  | during residue e => rfl
  | after e => rfl

lemma commutes_markInterrupted :
    Commutes (World.edited edit) (markInterrupted script runId : Job δ Unit) := by
  refine .bind_state (fun _ => rfl) fun w => ?_
  split
  · exact .pure ()
  · split_ifs
    · refine .bind (.attempt commutes_callStore) fun marked => ?_
      cases marked with
      | ok _ => exact .pure ()
      | error e => exact .raise _
    · exact .pure ()

variable (hedit : Beside key edit)

include hedit

lemma commutes_discardSnapshot {other : String} (hother : other ≠ key) :
    Commutes (World.edited edit) (discardSnapshot fault other : Job δ Unit) := by
  refine commutes_act fun w => ?_
  simp only [removeSnapshot, World.edited, Except.map, hedit.remove hother]

lemma commutes_discardLeftover
    (hrun : ∀ t, run.data.applyTransaction = some t → t.snapshotKey ≠ key) :
    Commutes (World.edited edit) (discardLeftover fault run) := by
  unfold discardLeftover
  split_ifs
  · exact .pure ()
  · split
    · exact .pure ()
    · rename_i transaction htransaction
      exact .bind (.attempt (commutes_discardSnapshot hedit (hrun transaction htransaction)))
        fun _ => .pure ()

variable [DecidableEq δ]

section

variable (hrun : ∀ t, run.data.applyTransaction = some t → t.snapshotKey ≠ key)
include hrun

lemma commutes_recoverTransaction :
    Commutes (World.edited edit) (recoverTransaction d script run) := by
  refine .bind_lift fun transaction htransaction => ?_
  have hkey : transaction.snapshotKey ≠ key :=
    hrun transaction (checkTransaction_eq_ok htransaction).1
  refine .bind commutes_act_ok fun _ => .bind_state (fun w => ?_) fun w => .bind (.lift _)
    fun before =>
    .bind commutes_act_ok fun _ => .bind (.lift _) fun finding => .bind ?_ fun _ =>
    .bind_state (fun _ => rfl) fun w => .bind commutes_callStore fun _ =>
    .bind (commutes_discardSnapshot hedit hkey) fun _ => commutes_callStore
  · have hload : loadSnapshot d (w.edited edit) run.runId transaction.snapshotKey
        transaction.snapshotDigest = loadSnapshot d w run.runId transaction.snapshotKey
          transaction.snapshotDigest := by
      simp only [loadSnapshot, findSnapshot, World.edited, hedit.find hkey]
    simp only [hload]
    rfl
  · cases finding with
    | newerSealedApplyPreserved | sameRunNoMutation => exact .pure ()
    | sameRunRollback =>
      exact .bind commutes_restoreTree fun _ => .bind_state (fun _ => rfl) fun _ => .lift _

lemma commutes_recoverRun {restart : Restart} :
    Commutes (World.edited edit) (recoverRun d restart run) := by
  unfold recoverRun
  split_ifs
  · exact commutes_discardLeftover hedit hrun
  · exact .pure ()
  · refine .bind (.attempt (commutes_recoverTransaction hedit hrun)) fun recovered => ?_
    cases recovered with
    | ok _ => exact .pure ()
    | error e => exact commutes_markInterrupted

end

/-- **A start neither sees nor changes a snapshot that no record names.** -/
theorem recoverInterruptedApplies_edited (restart : Restart)
    (hw : ∀ run ∈ w.runs, ∀ t, run.data.applyTransaction = some t → t.snapshotKey ≠ key) :
    (recoverInterruptedApplies d restart (w.edited edit)).2 =
      (recoverInterruptedApplies d restart w).2.edited edit := by
  unfold recoverInterruptedApplies
  rw [state_bind, state_bind]
  refine congrArg Prod.snd (Commutes.bind ?_ (fun _ => ?_) w)
  · exact .forM fun run hrun => commutes_recoverRun hedit (hw run hrun)
  · exact .bind (.modify fun _ => rfl) fun _ => commutes_act_ok

end

variable (w) in
/-- There is no durable snapshot of that name. -/
abbrev Absent : Prop := w.hasSnapshot key = false

variable {key : String}

lemma removeSnapshot_of_absent (h : Absent key w) : w.removeSnapshot key = w := by
  have hkept : w.snapshots.filter (fun s => s.key ≠ key) = w.snapshots :=
    filter_eq_self.mpr fun s hs => by simpa using any_eq_false.mp h s hs
  rw [removeSnapshot, hkept]

/-- A snapshot that is not there is not there after a start. -/
lemma absent_recoverInterruptedApplies [DecidableEq δ]
    (restart : Restart) (habsent : Absent key w)
    (hw : ∀ run ∈ w.runs, ∀ t, run.data.applyTransaction = some t → t.snapshotKey ≠ key) :
    Absent key (recoverInterruptedApplies d restart w).2 := by
  have hsame : (recoverInterruptedApplies d restart _).2 = _ :=
    recoverInterruptedApplies_edited (beside_remove key) restart hw
  have hedited : w.edited (List.filter fun s => s.key ≠ key) = w := removeSnapshot_of_absent habsent
  rw [hedited] at hsame
  rw [hsame]
  simp [Absent, hasSnapshot, World.edited]

/-! ### The crash -/

variable (call : ApplyCall)

variable (d) in
def publishedSnapshot (before : Snapshot) : DurableSnapshot δ :=
  ⟨d.key call.runId (d.snapshot before), call.runId, d.snapshot before, before⟩

/-- The refusal of a call that finds the name of its snapshot taken. -/
def taken : Raised := .portableExecutionError "apply snapshot identity already exists"

/-- The attempt to enter `applying` stops before the record changes, and the snapshot stays. -/
def ApplyCall.stopsPrepared : Bool :=
  match call.script .beginApply with
  | .none | .after _ => false
  | .before e | .during _ e =>
    e = .crash || match call.script .discardPrepared with
      | .before _ | .during _ _ => true
      | .none | .after _ => false

/-- The snapshot is published and not removed. -/
def ApplyCall.leavesPublished : Bool :=
  (call.script .persist).isNone && match call.script .publishSnapshot with
    | .before _ | .during _ _ => false
    | .after _ => true
    | .none => !(call.script .syncSnapshots).isNone || call.stopsPrepared

/-- A call that stops before it enters `applying` has published its snapshot and not removed it. -/
def ApplyCall.leavesSnapshot : Bool :=
  (call.script .checks).isNone && call.leavesPublished

/-- A run whose apply was begun. -/
def IsLate (runId : String) (w : World δ) : Prop :=
  ∃ run, w.runs.get runId = some run ∧ run.status.isLate

lemma isLate_of_isApplying (h : IsApplying runId w) : IsLate runId w := by
  obtain ⟨run, hrun, hstatus⟩ := h
  exact ⟨run, hrun, by rw [hstatus]; rfl⟩

/-- A run whose apply was begun never awaits it again. -/
lemma isLate_of_reaches {wipes : Bool}
    (h : Relation.ReflTransGen (Alters d wipes) w w') (hw : w.WellFormed d)
    (hlate : IsLate runId w) : IsLate runId w' := by
  induction h with
  | refl => exact hlate
  | @tail u v hreaches halters ih =>
    obtain ⟨run, hrun, hstatus⟩ := ih
    have hwell := (wellFormed_of_reaches hreaches hw).runs run (RunStore.get_eq_some hrun).1
    cases halters with
    | records hruns =>
      obtain ⟨changed, hchanged, hadvance⟩ := get_of_records hruns hrun
      exact ⟨changed, hchanged, hadvance.isLate hwell hstatus⟩
    | create hruns hnew hfresh =>
      refine ⟨run, ?_, hstatus⟩
      rw [RunStore.get] at hrun ⊢
      rw [hruns, find?_append, hrun]
      rfl

section

variable {call : ApplyCall} {w w' : World δ} {before : Snapshot}

variable (d call before) in
/-- What a crash before `applying` leaves behind: nothing, or the durable snapshot. -/
def Leaves (leaves : Bool) (w w' : World δ) : Prop :=
  w' = w ∧ leaves = false ∨
    w' = w.addSnapshot (publishedSnapshot d call before) ∧ leaves ∧
      Absent (publishedSnapshot d call before).key w

/-- A snapshot is discarded and the exception is raised again: how that can stop the process. -/
lemma discard_crash {e : Raised} (he : e ≠ .crash)
    (h : (discardSnapshot fault key >>= fun _ => raise e : Job δ Unit) w = (.error .crash, w')) :
    w' = w ∧ fault.isEarly .crash ∨ w' = w.removeSnapshot key ∧ fault = .after .crash := by
  rcases bind_inv h with ⟨_, hdiscard, heq⟩ | ⟨_, u, -, hraise⟩
  · cases heq
    rcases act_eq_error hdiscard with ⟨rfl, hearly | herror⟩ | ⟨hafter, hok⟩
    · exact .inl ⟨rfl, hearly⟩
    · cases herror
    · cases hok
      exact .inr ⟨rfl, hafter⟩
  · cases hraise
    exact absurd rfl he

/-- How an attempt to enter `applying` can stop the process before the record changes. -/
lemma beginApply_crash {transaction : Transaction δ}
    (h : beginApply call transaction w = (.error .crash, w'))
    (hallowed : ∃ u, callStore w call.runId (fun run => run.transition .applying call.binding
      (Fields.of fun data => { data with applyTransaction := some transaction })) = .ok u)
    (hlate : ¬ IsLate call.runId w') :
    w' = w ∧ call.stopsPrepared ∨
      w' = w.removeSnapshot transaction.snapshotKey ∧ call.stopsPrepared = false := by
  obtain ⟨u, hu⟩ := hallowed
  have hlate' : IsLate call.runId u := by
    obtain ⟨run, changed, -, hok, hafter⟩ := get_of_callStore hu fun run changed hok => by
      rw [(Run.transition_eq_ok hok).2.2, Run.moved]
    exact ⟨changed, hafter, by rw [(Run.transition_eq_ok hok).2.2]; rfl⟩
  rcases bind_inv h with ⟨_, hattempt, heq⟩ | ⟨entered, v, hattempt, hrest⟩
  · -- The process stops in the transition itself.
    cases heq
    rcases act_eq_error (attempt_eq_error hattempt).1 with
      ⟨rfl, hearly | herror⟩ | ⟨-, hok⟩
    · left
      refine ⟨rfl, ?_⟩
      unfold ApplyCall.stopsPrepared
      revert hearly
      cases call.script .beginApply <;> simp_all [Fault.isEarly]
    · cases hu.symm.trans herror
    · cases hu.symm.trans hok
      exact absurd hlate' hlate
  · cases entered with
    | ok _ => cases hrest
    | error e =>
      -- The transition raised, and the process stops while the snapshot is discarded.
      obtain ⟨e', hraised, hcaught⟩ := attempt_eq_caught hattempt
      have he : e ≠ .crash := by
        rintro rfl
        cases e' <;> cases hcaught
      have hsame : e' = e := by cases e' <;> cases hcaught <;> rfl
      rcases act_eq_error hraised with ⟨rfl, hearly | herror⟩ | ⟨-, hok⟩
      · unfold ApplyCall.stopsPrepared
        rcases discard_crash he hrest with ⟨rfl, hstops⟩ | ⟨rfl, hstops⟩
        · left
          refine ⟨rfl, ?_⟩
          revert hearly hstops
          cases call.script .beginApply <;> cases call.script .discardPrepared <;>
            simp_all [Fault.isEarly]
        · right
          refine ⟨rfl, ?_⟩
          rw [hstops]
          revert hearly
          cases call.script .beginApply <;> simp_all [Fault.isEarly]
      · cases hu.symm.trans herror
      · cases hu.symm.trans hok
        refine absurd ?_ hlate
        rcases discard_crash he hrest with ⟨rfl, -⟩ | ⟨rfl, -⟩
        · exact hlate'
        · exact hlate'

/-- A snapshot that was not there is gone after it is removed. -/
lemma removeSnapshot_addSnapshot {snapshot : DurableSnapshot δ} (h : Absent snapshot.key w) :
    (w.addSnapshot snapshot).removeSnapshot snapshot.key = w := by
  conv_rhs => rw [← removeSnapshot_of_absent h]
  simp [addSnapshot, removeSnapshot, filter_append]

/-- How the publication of the durable snapshot ends. -/
lemma persistSnapshot_eq : persistSnapshot d call before w =
    if w.hasSnapshot (publishedSnapshot d call before).key then (.error taken, w)
    else match call.script .persist with
      | .before e | .during _ e | .after e => (.error e, w)
      | .none =>
        match call.script .publishSnapshot with
        | .before e | .during _ e => (.error e, w)
        | .after e => (.error e, w.addSnapshot (publishedSnapshot d call before))
        | .none =>
          match call.script .syncSnapshots with
          | .before e | .during _ e | .after e =>
            (.error e, w.addSnapshot (publishedSnapshot d call before))
          | .none => (.ok (), w.addSnapshot (publishedSnapshot d call before)) := by
  unfold persistSnapshot
  rw [state_bind, portableIf, raiseIf]
  change (lift (if w.hasSnapshot (publishedSnapshot d call before).key then _ else _) >>=
    _ : Job δ _) w = _
  cases w.hasSnapshot (publishedSnapshot d call before).key with
  | true => rfl
  | false =>
    cases call.script .persist with
    | none =>
      cases call.script .publishSnapshot with
      | none => cases call.script .syncSnapshots <;> rfl
      | _ => rfl
    | _ => rfl

/-- The snapshot is published, or the process stops while it is. -/
lemma persistSnapshot_ends {result : Except Raised Unit}
    (h : persistSnapshot d call before w = (result, w'))
    (hresult : ∀ e, result = .error e → e = .crash) :
    (result = .error .crash ∧ Leaves d call before call.leavesPublished w w') ∨
      result = .ok () ∧ w' = w.addSnapshot (publishedSnapshot d call before) ∧
        Absent (publishedSnapshot d call before).key w ∧
        call.leavesPublished = call.stopsPrepared := by
  rw [persistSnapshot_eq] at h
  unfold Leaves ApplyCall.leavesPublished
  split_ifs at h with hpresent
  · cases h
    cases hresult taken rfl
  · rw [Bool.not_eq_true] at hpresent
    cases hpersist : call.script .persist with
    | none =>
      cases hpublish : call.script .publishSnapshot with
      | none =>
        cases hsync : call.script .syncSnapshots <;> rw [hpersist, hpublish, hsync] at h <;>
          cases h <;> simp_all [Fault.isNone, Absent]
      | _ => rw [hpersist, hpublish] at h; cases h; simp_all [Fault.isNone, Absent]
    | _ => rw [hpersist] at h; cases h; simp_all [Fault.isNone]

lemma callStore_of_get {run changed : Run (RunData δ)} (hget : w.runs.get runId = some run)
    (hchange : change run = .ok changed) :
    ∃ u, callStore w runId change = .ok u := by
  have hmodify : ∀ runs : RunStore (RunData δ), runs.get runId = some run →
      ∃ next, runs.modify runId change = .ok next := by
    intro runs hruns
    induction runs with
    | nil => cases hruns
    | cons first runs ih =>
      rw [RunStore.get, find?_cons] at hruns
      rw [RunStore.modify]
      by_cases hid : first.runId = runId
      · simp only [hid, decide_true, Option.some.injEq] at hruns
        rw [if_pos hid, hruns, hchange]
        exact ⟨_, rfl⟩
      · simp only [hid, decide_false] at hruns
        obtain ⟨next, hnext⟩ := ih hruns
        rw [if_neg hid, hnext]
        exact ⟨_, rfl⟩
  obtain ⟨next, hnext⟩ := hmodify w.runs hget
  exact ⟨_, by rw [callStore, hnext]⟩

/-- A run that awaits its apply may enter `applying`. -/
lemma transition_applying {run : Run (RunData δ)} {fields : RunData δ → RunData δ}
    (hrun : run.WellFormed d) (hstatus : run.status = .stateChangeApproved)
    (hbinding : run.requireBinding call.binding = .ok ()) :
    run.transition .applying call.binding (Fields.of fields) =
      .ok (run.moved .applying .applying (Fields.of fields)) := by
  simp only [Run.transition, hbinding, hstatus, hrun.approved hstatus, Fields.of]
  rfl

variable [DecidableEq δ] {run : Run (RunData δ)} {paths : List Path}

lemma transact_crash (h : transact d call run before paths w = (.error .crash, w'))
    (hw : w.WellFormed d) (hget : w.runs.get call.runId = some run)
    (hstatus : run.status = .stateChangeApproved)
    (hbinding : run.requireBinding call.binding = .ok ()) (hlate : ¬ IsLate call.runId w') :
    Leaves d call before call.leavesPublished w w' := by
  rcases bind_inv h with ⟨_, hpersist, heq⟩ | ⟨_, u, hpersist, hrest⟩
  · cases heq
    rcases persistSnapshot_ends hpersist (by simp) with ⟨-, hleaves⟩ | ⟨hok, -⟩
    · exact hleaves
    · cases hok
  obtain ⟨hcrash, -⟩ | ⟨-, rfl, habsent, hleaves⟩ := persistSnapshot_ends hpersist nofun
  · cases hcrash
  have hwell : (w.addSnapshot (publishedSnapshot d call before)).WellFormed d :=
    ⟨hw.ids, hw.runs⟩
  rcases bind_inv hrest with ⟨_, hbegin, heq⟩ | ⟨_, v, hbegin, htail⟩
  · cases heq
    have hrun := hw.runs run (RunStore.get_eq_some hget).1
    rcases beginApply_crash hbegin
      (callStore_of_get hget (transition_applying hrun hstatus hbinding)) hlate with
      ⟨rfl, hstops⟩ | ⟨hremoved, hstops⟩
    · exact .inr ⟨rfl, by rw [hleaves, hstops], habsent⟩
    · left
      refine ⟨?_, by rw [hleaves, hstops]⟩
      rw [hremoved]
      exact removeSnapshot_addSnapshot habsent
  · -- The record has entered `applying`, and stays late.
    exfalso
    have hbegun : Effect.Trace (Alters d false) (fun _ => True)
        (beginApply call (preparedTransaction d call run before paths))
        fun _ => IsApplying call.runId := trace_beginApply call rfl
    have htrace : Effect.Trace (Alters d false) (IsApplying call.runId) (do
        act (call.script .makeRuntime) .ok
        guardTransaction d call run before paths
          (preparedTransaction d call run before paths)) fun _ _ => True :=
      .bind trace_act_ok fun _ => trace_guardTransaction call run before paths rfl
    have hfirst := hbegun (w.addSnapshot (publishedSnapshot d call before)) trivial
    rw [hbegin] at hfirst
    have happlying : IsApplying call.runId v := hfirst.2 () rfl
    have hreaches := (htrace v happlying).1
    rw [htail] at hreaches
    exact hlate (isLate_of_reaches hreaches (wellFormed_of_reaches hfirst.1 hwell)
      (isLate_of_isApplying happlying))

/-- The checks of a call pass. -/
structure Ready (digests : Digests δ) (call : ApplyCall) (w : World δ) (run : Run (RunData δ))
    (paths : List Path) : Prop where
  approved : checkApproved w call = .ok run
  bindings : checkBindings w call run = .ok paths
  fresh : digests.snapshot (snapshotFiles (w.tree run.instanceId)) = run.data.canonicalStateBefore
  git : call.git = run.data.baseGit

/-- With the checks passed, a call is its transaction. -/
lemma applyProposal_of_ready (h : Ready d call w run paths)
    (hchecks : call.script .checks = .none) :
    applyProposal d call w =
      transact d call run (snapshotFiles (w.tree run.instanceId)) paths w := by
  unfold applyProposal
  rw [state_bind, h.approved, lift_ok_bind, hchecks]
  rw [bind_apply_ok (show act .none .ok w = (.ok (), w) from rfl), h.bindings, lift_ok_bind]
  have hfresh : checkFresh d call run (snapshotFiles (w.tree run.instanceId)) w = (.ok (), w) := by
    rw [checkFresh, if_neg (not_not.mpr h.fresh), if_neg (not_not.mpr h.git)]
    rfl
  rw [bind_apply_ok hfresh]

/-- **What a crash before `applying` leaves behind**: nothing, or the durable snapshot. -/
theorem applyProposal_crash (h : applyProposal d call w = (.error .crash, w'))
    (hready : Ready d call w run paths) (hw : w.WellFormed d)
    (hlate : ¬ IsLate call.runId w') :
    Leaves d call (snapshotFiles (w.tree run.instanceId)) call.leavesSnapshot w w' := by
  obtain ⟨hget, hstatus, hbinding⟩ := checkApproved_eq_ok hready.approved
  by_cases hchecks : call.script .checks = .none
  · rw [applyProposal_of_ready hready hchecks] at h
    have hleaves : call.leavesSnapshot = call.leavesPublished := by
      simp [ApplyCall.leavesSnapshot, hchecks, Fault.isNone]
    rw [hleaves]
    exact transact_crash h hw hget hstatus hbinding hlate
  · -- The process stops before anything was written.
    left
    unfold applyProposal at h
    rw [state_bind, hready.approved, lift_ok_bind] at h
    rcases bind_inv h with ⟨_, hstop, heq⟩ | ⟨_, u, hpassed, -⟩
    · cases heq
      have hsame : w' = w := by
        rcases act_eq_error hstop with ⟨hsame, -⟩ | ⟨-, hok⟩
        · exact hsame
        · cases hok
          rfl
      refine ⟨hsame, ?_⟩
      rw [ApplyCall.leavesSnapshot, Bool.and_eq_false_iff]
      left
      cases hfault : call.script .checks <;> simp_all [Fault.isNone]
    · exact absurd (act_eq_ok hpassed).1 hchecks

end

/-! ### The retry -/

/-- The process stops at a step, before its effect. -/
def stopsAt (step : Step) : Script := fun s => if s = step then .before .crash else .none

section

variable {call : ApplyCall} {w : World δ} {before : Snapshot} {run : Run (RunData δ)}
  {paths : List Path}

/-- No record names the snapshot of a run that awaits its apply: the run has no transaction yet, and
the snapshots of other runs have other names. -/
lemma unnamed_of_approved (hw : w.WellFormed d) (hget : w.runs.get call.runId = some run)
    (hstatus : run.status = .stateChangeApproved) :
    ∀ r ∈ w.runs, ∀ t, r.data.applyTransaction = some t →
      t.snapshotKey ≠ (publishedSnapshot d call before).key := by
  intro r hr t ht hkey
  have hrun := hw.runs r hr
  rw [hrun.named t ht] at hkey
  have hid : r.runId = call.runId := d.runId_eq_of_key_eq hkey
  have hsame : r = run :=
    inj_on_of_nodup_map hw.ids hr (RunStore.get_eq_some hget).1
      (hid.trans (RunStore.get_eq_some hget).2.symm)
  have hlater := hrun.late (by rw [ht]; simp)
  rw [hsame, hstatus] at hlater
  cases hlater

variable [DecidableEq δ]

/-- A retry that stops when it publishes its snapshot. -/
def ApplyCall.interrupted (call : ApplyCall) : ApplyCall :=
  { call with script := stopsAt .publishSnapshot }

/-- Whether a call finds its name taken shows before it publishes its snapshot. -/
lemma transact_interrupted :
    (transact d call.interrupted run before paths w).1 = .error
      (if w.hasSnapshot (publishedSnapshot d call before).key then taken else .crash) := by
  have hpersist : persistSnapshot d call.interrupted before w = (.error
      (if w.hasSnapshot (publishedSnapshot d call before).key then taken else .crash), w) := by
    rw [persistSnapshot_eq]
    exact (apply_ite (fun e => (Except.error e, w)) _ _ _).symm
  unfold transact
  rw [bind_apply_error hpersist]

lemma retry_ne
    (hready : Ready d call (w.addSnapshot (publishedSnapshot d call before)) run paths)
    (hbefore : d.snapshot before = run.data.canonicalStateBefore)
    (habsent : Absent (publishedSnapshot d call before).key w) :
    (applyProposal d call.interrupted
        (w.addSnapshot (publishedSnapshot d call before))).1 ≠
      (applyProposal d call.interrupted w).1 := by
  obtain ⟨happroved, hbindings, hfresh, hgit⟩ := hready
  have hwith : Ready d call.interrupted
      (w.addSnapshot (publishedSnapshot d call before)) run paths :=
    ⟨happroved, hbindings, hfresh, hgit⟩
  have hwithout : Ready d call.interrupted w run paths := ⟨happroved, hbindings, hfresh, hgit⟩
  -- The instance is as it was, and so is the name of its snapshot.
  have hkey : (publishedSnapshot d call (snapshotFiles (w.tree run.instanceId))).key =
      (publishedSnapshot d call before).key := by
    change d.key call.runId _ = d.key call.runId _
    rw [hwithout.fresh, hbefore]
  have hpresent : (w.addSnapshot (publishedSnapshot d call before)).hasSnapshot
      (publishedSnapshot d call (snapshotFiles (w.tree run.instanceId))).key := by
    rw [hkey]
    simp [hasSnapshot, addSnapshot]
  rw [← hkey] at habsent
  rw [applyProposal_of_ready hwith rfl, applyProposal_of_ready hwithout rfl, transact_interrupted,
    transact_interrupted, if_pos (by exact hpresent), habsent]
  nofun

/-- **A retry is not affected by a crash before `applying` exactly if the durable snapshot of the
interrupted attempt was not left behind**: it ends as it would have ended without that attempt. The
checks of the call pass before the crash and after the start, which is to say that the instance, the
source, the descriptor, the action contract and the approval are unchanged. -/
theorem retry_eq_iff (trees : String → Tree) (operations : List Operation) {w' : World δ}
    (hready : Ready d call (operations.foldl (perform d) (initial trees)).world run paths)
    (hcrash : applyProposal d call
      (operations.foldl (perform d) (initial trees)).world = (.error .crash, w'))
    (hbefore : ∃ r, w'.runs.get call.runId = some r ∧ r.status = .stateChangeApproved)
    (restart : Restart)
    (hrestart : Ready d call (recoverInterruptedApplies d restart w').2 run paths) :
    (∀ retry : ApplyCall, retry.runId = call.runId →
        (applyProposal d retry (recoverInterruptedApplies d restart w').2).1 =
          (applyProposal d retry (recoverInterruptedApplies d restart
            (operations.foldl (perform d) (initial trees)).world).2).1) ↔
      call.leavesSnapshot = false := by
  have hw : (operations.foldl (perform d) (initial trees : Service δ)).world.WellFormed
      d := wellFormed_foldl (wellFormed_initial trees) operations
  revert hready hcrash hw
  generalize (operations.foldl (perform d) (initial trees : Service δ)).world = w
  intro hready hcrash hw
  have hlate : ¬ IsLate call.runId w' := by
    obtain ⟨r, hr, hstatus⟩ := hbefore
    rintro ⟨r', hr', hlate⟩
    cases hr.symm.trans hr'
    rw [hstatus] at hlate
    cases hlate
  rcases applyProposal_crash hcrash hready hw hlate with ⟨rfl, hleaves⟩ | ⟨hadded, hleaves, habsent⟩
  · exact iff_of_true (fun _ _ => rfl) hleaves
  · refine iff_of_false (fun hsame => ?_) (by rw [hleaves]; nofun)
    obtain ⟨hget, hstatus, -⟩ := checkApproved_eq_ok hready.approved
    have hrecovered : (recoverInterruptedApplies d restart w').2 =
        (recoverInterruptedApplies d restart w).2.addSnapshot
          (publishedSnapshot d call (snapshotFiles (w.tree run.instanceId))) := by
      rw [hadded]
      exact recoverInterruptedApplies_edited (beside_add _) restart
        (unnamed_of_approved hw hget hstatus)
    rw [hrecovered] at hrestart hsame
    have hstays : Absent (publishedSnapshot d call (snapshotFiles
        (w.tree run.instanceId))).key (recoverInterruptedApplies d restart w).2 :=
      absent_recoverInterruptedApplies restart habsent (unnamed_of_approved hw hget hstatus)
    exact retry_ne hrestart hready.fresh hstays (hsame call.interrupted rfl)

/-- The checks of a call, as one test. -/
def isReady (d : Digests δ) (call : ApplyCall) (w : World δ) : Bool :=
  match checkApproved w call with
  | .error _ => false
  | .ok run =>
    (checkBindings w call run).isOk &&
      d.snapshot (snapshotFiles (w.tree run.instanceId)) = run.data.canonicalStateBefore &&
      call.git = run.data.baseGit

end

/-! ### Two crashes -/

section

def sampleTree : Tree := ⟨[("state", .file [0] false)], by decide⟩

/-- What the writer makes of it. -/
def sampleAfter : Snapshot := ⟨[("state", .file [1])], by decide⟩

def sampleIdentities : Identities := ⟨"tree", "descriptor", "action", "source", "executor"⟩

/-- A run that is prepared, executed and approved. -/
def approvedProposal : List Operation :=
  [.prepare ⟨"instance", "run", sampleIdentities, true, some "head", true, fun _ => .none⟩,
    .approveRun ⟨"run", .any, .none, .none, .none⟩,
    .execute ⟨"run", .any, "tree", fun _ => true, .completed [⟨["state"], "write"⟩], fun _ =>
      .none⟩,
    .approveProposal ⟨"run", .any, .none, .none, .none⟩]

/-- An apply of that run whose writer leaves `after`. -/
def applyTo (after : Snapshot) (script : Script) : ApplyCall :=
  ⟨"run", .any, sampleIdentities, fun _ => true, some "head", some "head", some "head", some "head",
    after, after, script⟩

def sampleApply (script : Script) : ApplyCall := applyTo sampleAfter script

/-- A start in which nothing fails. -/
def plainRestart : Restart := ⟨fun _ => false, fun _ _ => .none, .none⟩

/-- The world in which the run awaits its apply. -/
def awaitingWorld : World (List (Path × Node)) :=
  (approvedProposal.foldl (perform plain) (initial fun _ => sampleTree)).world

def awaitingRun : Run (RunData (List (Path × Node))) :=
  (awaitingWorld.runs.get "run").get (by decide +kernel)

/-- A crash while the durable snapshot is synced leaves it behind: the retry is refused, though it
would have been applied. -/
theorem crash_strands_approved_run :
    (applyProposal plain (sampleApply (stopsAt .syncSnapshots)) awaitingWorld).1 =
        .error .crash ∧
      (((applyProposal plain (sampleApply (stopsAt .syncSnapshots)) awaitingWorld).2.runs.get
        "run").map Run.status) = some .stateChangeApproved ∧
      isReady plain (sampleApply fun _ => .none) (recoverInterruptedApplies plain
        plainRestart (applyProposal plain (sampleApply (stopsAt .syncSnapshots))
          awaitingWorld).2).2 ∧
      (applyProposal plain (sampleApply fun _ => .none) (recoverInterruptedApplies
        plain plainRestart (applyProposal plain
          (sampleApply (stopsAt .syncSnapshots)) awaitingWorld).2).2).1 = .error taken ∧
      (applyProposal plain (sampleApply fun _ => .none) (recoverInterruptedApplies
        plain plainRestart awaitingWorld).2).1 = .ok () := by
  decide +kernel

/-- A crash while the durable snapshot is prepared leaves nothing: every retry ends as it would have
ended without it. -/
theorem retry_after_early_crash :
    (sampleApply (stopsAt .persist)).leavesSnapshot = false ∧
      ∀ retry : ApplyCall, retry.runId = "run" →
        (applyProposal plain retry (recoverInterruptedApplies plain plainRestart
          (applyProposal plain (sampleApply (stopsAt .persist)) awaitingWorld).2).2).1 =
        (applyProposal plain retry (recoverInterruptedApplies plain plainRestart
          awaitingWorld).2).1 := by
  have hready : Ready plain (sampleApply (stopsAt .persist)) awaitingWorld awaitingRun ["state"] :=
    ⟨by decide +kernel, by decide +kernel, by decide +kernel, by decide +kernel⟩
  have hleaves : (sampleApply (stopsAt .persist)).leavesSnapshot = false := by decide
  refine ⟨hleaves, (retry_eq_iff (fun _ => sampleTree) approvedProposal hready
    (Prod.ext (by decide +kernel) rfl) ⟨awaitingRun, by decide +kernel, by decide +kernel⟩
      plainRestart
    ⟨?_, ?_, ?_, ?_⟩).mpr hleaves⟩
  all_goals decide +kernel

end

end StatePort.PortableExecution
