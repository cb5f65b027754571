import StatePort.Algorithm.Trace
import StatePort.PortableExecution.Service

/-!
# What the service may do to its records

Every operation is a sequence of changes of the records: a call of the store moves one record
(`Advance`), `prepare` adds one, and a start marks orphans. `reaches_perform` says so for every
operation, so that an invariant of the records needs one argument per kind of change.

`wipes` tells the calls of `execute` that replace the events of a run.
-/

namespace StatePort.PortableExecution

open List StatePort.PortableExecution.Run

open Effect (Trace Moves lift raise attempt state)

variable {δ : Type} {d : Digests δ} {wipes : Bool} {t : Transaction δ}

/-! ### Steps that may fail -/

/-- No exception is raised. -/
def Fault.isNone : Fault → Bool
  | .none => true
  | _ => false

/-- The exception is raised before the effect. -/
def Fault.isEarly (e : Raised) : Fault → Prop
  | .before e' | .during _ e' => e' = e
  | _ => False

variable {instanceId : String} {snapshot : Snapshot}

section

variable {R : World δ → World δ → Prop} {P : World δ → Prop} {Q : Unit → World δ → Prop}
  {fault : Fault} {change : World δ → Except Raised (World δ)}

variable (fault change) in
/-- How a step ends: with an exception and without its effect, or with its effect. -/
lemma act_cases (w : World δ) :
    (∃ e, act fault change w = (.error e, w) ∧ (fault.isEarly e ∨ change w = .error e)) ∨
      ∃ w', change w = .ok w' ∧ (fault = .none ∧ act fault change w = (.ok (), w') ∨
        ∃ e, fault = .after e ∧ act fault change w = (.error e, w')) := by
  cases fault with
  | before e | during residue e => exact .inl ⟨e, rfl, .inl rfl⟩
  | none =>
    cases hchange : change w with
    | error e => exact .inl ⟨e, by simp only [act, hchange], .inr rfl⟩
    | ok w' => exact .inr ⟨w', rfl, .inl ⟨rfl, by simp only [act, hchange]⟩⟩
  | after e =>
    cases hchange : change w with
    | error e => exact .inl ⟨e, by simp only [act, hchange], .inr rfl⟩
    | ok w' => exact .inr ⟨w', rfl, .inr ⟨e, rfl, by simp only [act, hchange]⟩⟩

/-- A step does what its effect does, or nothing. -/
lemma trace_act (h : ∀ w w', P w → change w = .ok w' → R w w' ∧ Q () w') :
    Trace R P (act fault change) Q := by
  intro w hw
  rcases act_cases fault change w with ⟨e, hact, -⟩ | ⟨w', hchange, ⟨-, hact⟩ | ⟨e, -, hact⟩⟩
  · rw [hact]
    exact ⟨.refl, nofun⟩
  · rw [hact]
    exact ⟨.single (h w w' hw hchange).1, fun _ _ => (h w w' hw hchange).2⟩
  · rw [hact]
    exact ⟨.single (h w w' hw hchange).1, nofun⟩

lemma trace_act_ok : Trace R P (act fault .ok) fun _ => P := by
  intro w hw
  cases fault with
  | before e | during residue e => exact ⟨.refl, nofun⟩
  | none => exact ⟨.refl, fun _ _ => hw⟩
  | after e => exact ⟨.refl, nofun⟩

lemma moves_act (h : ∀ w w', change w = .ok w' → R w w') : Moves R (act fault change) :=
  trace_act fun w w' _ hw' => ⟨h w w' hw', trivial⟩

lemma moves_act_ok : Moves R (act fault .ok) := trace_act_ok

lemma keeps_act (h : ∀ w w', P w → change w = .ok w' → P w') :
    Effect.Keeps P (act fault change) := by
  intro w hw
  rcases act_cases fault change w with ⟨e, hact, -⟩ | ⟨w', hchange, ⟨-, hact⟩ | ⟨e, -, hact⟩⟩
  · rw [hact]
    exact hw
  · rw [hact]
    exact h w w' hw hchange
  · rw [hact]
    exact h w w' hw hchange

lemma keeps_act_ok : Effect.Keeps P (act fault .ok) :=
  keeps_act fun _ _ hw h => by
    cases h
    exact hw

lemma act_eq_ok {w w' : World δ} (h : act fault change w = (.ok (), w')) :
    fault = .none ∧ change w = .ok w' := by
  rcases act_cases fault change w with ⟨e, hact, -⟩ | ⟨w'', hchange, ⟨hnone, hact⟩ | ⟨e, -, hact⟩⟩
  · cases hact.symm.trans h
  · cases hact.symm.trans h
    exact ⟨hnone, hchange⟩
  · cases hact.symm.trans h

lemma act_eq_error {w w' : World δ} {e : Raised} (h : act fault change w = (.error e, w')) :
    (w' = w ∧ (fault.isEarly e ∨ change w = .error e)) ∨ fault = .after e ∧ change w = .ok w' := by
  rcases act_cases fault change w with ⟨_, hact, hwhy⟩ | ⟨_, hchange, ⟨-, hact⟩ | ⟨_, hafter, hact⟩⟩
  · cases hact.symm.trans h
    exact .inl ⟨rfl, hwhy⟩
  · cases hact.symm.trans h
  · cases hact.symm.trans h
    exact .inr ⟨hafter, hchange⟩

/-- A step that returns has raised nothing. -/
lemma trace_act_isNone (h : Moves R (act fault change)) :
    Trace R P (act fault change) fun _ _ => fault.isNone := by
  intro w _
  refine ⟨(h w trivial).1, fun _ hok => ?_⟩
  rw [(act_eq_ok (Prod.ext hok rfl)).1]
  rfl

lemma trace_restoreTree (hR : ∀ w tree, R w (World.setTree w instanceId tree))
    (hP : ∀ w tree, P w → P (World.setTree w instanceId tree)) :
    Trace R P (restoreTree fault instanceId snapshot) fun _ => P := by
  intro w hw
  cases fault with
  | before e => exact ⟨.refl, nofun⟩
  | none => exact ⟨.single (hR w _), fun _ _ => hP w _ hw⟩
  | during residue e | after e => exact ⟨.single (hR w _), nofun⟩

end

/-! ### Changes -/

/-- The statuses of a run whose apply was begun. -/
def Status.isLate : Status → Bool
  | .applying | .applied | .applyFailed | .failed | .interrupted | .cancelled | .archived => true
  | _ => false

/-- A transaction is new only if it names the durable snapshot of the run. -/
def Evolves (d : Digests δ) (run changed : Run (RunData δ)) : Prop :=
  ∀ t, changed.data.applyTransaction = some t →
    run.data.applyTransaction = some t ∨
      t.snapshotKey = d.key run.runId t.snapshotDigest ∧ changed.status.isLate

/-- The events are kept, or replaced where that is allowed. -/
def Fields.keeps (fields : Fields (RunData δ)) (wipes : Bool) : Prop :=
  fields.events = none ∨ wipes ∧ fields.events = some []

/-- What the store may do to a record. -/
inductive Advance (d : Digests δ) (wipes : Bool) : Run (RunData δ) → Run (RunData δ) → Prop
  | refl (run) : Advance d wipes run run
  | transition {run changed target binding fields}
      (h : run.transition target binding fields = .ok changed)
      (hlifecycle : fields.lifecycle = none ∨ target = .failed) (hevents : fields.keeps wipes)
      (hevolves : Evolves d run changed) : Advance d wipes run changed
  | update {run changed binding fields} (h : run.update binding fields = .ok changed)
      (hlifecycle : ∀ l ∈ fields.lifecycle, l ∈ [Lifecycle.postValidated, .noMutation, .closed])
      (hevents : fields.keeps wipes) (hevolves : Evolves d run changed) :
      Advance d wipes run changed
  | orphaned {run} (h : run.isInFlight) : Advance d wipes run (run.orphaned unproven)

/-- A record as `prepare` creates it. -/
structure Fresh (run : Run (RunData δ)) : Prop where
  status : run.status = .requested
  events : run.events = []
  moves : run.moves = []
  transaction : run.data.applyTransaction = none

/-- What the service may do to the records. -/
inductive Alters (d : Digests δ) (wipes : Bool) : World δ → World δ → Prop
  | records {w w'} (h : List.Forall₂ (Advance d wipes) w.runs w'.runs) :
      Alters d wipes w w'
  | create {w w' run} (hruns : w'.runs = w.runs ++ [run])
      (hnew : ∀ r ∈ w.runs, r.runId ≠ run.runId) (hfresh : Fresh run) : Alters d wipes w w'

lemma Alters.of_runs_eq {w w' : World δ} (h : w'.runs = w.runs) : Alters d wipes w w' :=
  .records (h ▸ forall₂_same.mpr fun run _ => .refl run)

lemma Alters.congr {w w' w'' : World δ} (h : w''.runs = w'.runs) (hw : Alters d wipes w w') :
    Alters d wipes w w'' := by
  cases hw with
  | records hruns => exact .records (h ▸ hruns)
  | create hruns hnew hfresh => exact .create (h ▸ hruns) hnew hfresh

/-! ### Calls of the store -/

section

variable {w w' : World δ} {runId : String}
    {change : Run (RunData δ) → Except StoreError (Run (RunData δ))}

section

variable (h : callStore w runId change = .ok w')
include h

/-- A store call that is not refused changes the record that `get` finds. -/
lemma callStore_eq_ok :
    ∃ before run changed after, w.runs = before ++ run :: after ∧ run.runId = runId ∧
      w.runs.get runId = some run ∧ (∀ r ∈ before, r.runId ≠ runId) ∧ change run = .ok changed ∧
      w' = { w with runs := before ++ changed :: after } := by
  unfold callStore at h
  cases hmodify : w.runs.modify runId change with
  | error e =>
    rw [hmodify] at h
    cases h
  | ok runs =>
    rw [hmodify] at h
    cases h
    obtain ⟨before, run, changed, after, hruns, hrun, hbefore, hchange, rfl⟩ :=
      RunStore.modify_eq_ok hmodify
    refine ⟨before, run, changed, after, hruns, hrun, ?_, hbefore, hchange, rfl⟩
    rw [RunStore.get, hruns, find?_append, find?_cons_of_pos (by simpa using hrun)]
    rw [find?_eq_none.mpr (by simpa using hbefore)]
    rfl

lemma alters_of_callStore
    (hadvance : ∀ run changed, w.runs.get runId = some run → run.runId = runId →
      change run = .ok changed → Advance d wipes run changed) :
    Alters d wipes w w' := by
  obtain ⟨before, run, changed, after, hruns, hrun, hget, -, hchange, rfl⟩ := callStore_eq_ok h
  have hsame (runs : List (Run (RunData δ))) : List.Forall₂ (Advance d wipes) runs runs :=
    forall₂_same.mpr fun r _ => .refl r
  refine .records ?_
  rw [hruns]
  exact rel_append (hsame before) (.cons (hadvance run changed hget hrun hchange) (hsame after))

/-- What `get` finds after a store call. -/
lemma get_of_callStore (hchange : ∀ run changed,
      change run = .ok changed → changed.runId = run.runId) :
    ∃ run changed, w.runs.get runId = some run ∧ change run = .ok changed ∧
      w'.runs.get runId = some changed := by
  obtain ⟨before, run, changed, after, -, hrun, hget, hbefore, hok, rfl⟩ := callStore_eq_ok h
  refine ⟨run, changed, hget, hok, ?_⟩
  have hid : changed.runId = runId := by rw [hchange run changed hok, hrun]
  change (before ++ changed :: after).find? _ = _
  rw [find?_append, find?_cons_of_pos (by simpa using hid)]
  rw [find?_eq_none.mpr (by simpa using hbefore)]
  rfl

end

/-- A store call replaced the record of a run, and nothing else. -/
structure Touches (w w' : World δ) (runId : String) (run changed : Run (RunData δ)) : Prop where
  before : w.runs.get runId = some run
  after : w'.runs.get runId = some changed
  trees : w'.trees = w.trees
  snapshots : w'.snapshots = w.snapshots
  seals : w'.seals = w.seals

lemma touches_of_callStore (h : callStore w runId change = .ok w') (hchange : ∀ run changed,
      change run = .ok changed → changed.runId = run.runId) :
    ∃ run changed, change run = .ok changed ∧ Touches w w' runId run changed := by
  obtain ⟨run, changed, hbefore, hok, hafter⟩ := get_of_callStore h hchange
  obtain ⟨_, _, _, _, -, -, -, -, -, hnext⟩ := callStore_eq_ok h
  exact ⟨run, changed, hok, hbefore, hafter, by rw [hnext], by rw [hnext], by rw [hnext]⟩

end

variable {run : Run (RunData δ)}

/-- The record that passed the first checks. -/
lemma checkApproved_eq_ok {w : World δ} {call : ApplyCall} (h : checkApproved w call = .ok run) :
    w.runs.get call.runId = some run ∧ run.status = .stateChangeApproved ∧
      run.requireBinding call.binding = .ok () := by
  unfold checkApproved at h
  cases hget : w.runs.get call.runId with
  | none =>
    rw [hget] at h
    cases h
  | some found =>
    rw [hget] at h
    simp only [portableIf, eq_ok_iff, not_not] at h
    obtain ⟨hbinding, hstatus, -, rfl⟩ := h
    refine ⟨rfl, hstatus, ?_⟩
    cases hresult : found.requireBinding call.binding with
    | ok u => rfl
    | error e =>
      rw [hresult] at hbinding
      exact absurd rfl hbinding

namespace Run

variable {run : Run (RunData δ)} {fields : Fields (RunData δ)}

@[simp] lemma updated_runId : (run.updated fields).runId = run.runId := by
  unfold updated
  split
  · rfl
  · split_ifs <;> rfl

@[simp] lemma updated_status : (run.updated fields).status = run.status := by
  unfold updated
  split
  · rfl
  · split_ifs <;> rfl

@[simp] lemma updated_data : (run.updated fields).data = fields.data run.data := by
  unfold updated
  split
  · rfl
  · split_ifs <;> rfl

end Run

/-- What a call writes into `applyTransaction`, if it is not what was there. -/
def Names (d : Digests δ) (runId : String) (late : Bool) (data : RunData δ → RunData δ) : Prop :=
  ∀ old t, (data old).applyTransaction = some t →
    old.applyTransaction = some t ∨ t.snapshotKey = d.key runId t.snapshotDigest ∧ late

variable {runId : String} {late : Bool} {data : RunData δ → RunData δ}

lemma Names.of_eq (h : ∀ old, (data old).applyTransaction = old.applyTransaction) :
    Names d runId late data :=
  fun old _ ht => .inl (by rw [← ht, h old])

section

variable {fault : Fault} {runId : String} {target : Status} {binding : Binding}
  {fields : Fields (RunData δ)} {data : RunData δ → RunData δ}

/-- The run has a status. -/
def HasStatus (status : Status) (runId : String) (w : World δ) : Prop :=
  ∃ run, w.runs.get runId = some run ∧ run.status = status

lemma trace_transition (hlifecycle : fields.lifecycle = none ∨ target = .failed)
    (hevents : fields.keeps wipes) (hdata : Names d runId target.isLate fields.data) :
    Trace (Alters d wipes) (fun _ => True) (act fault fun world : World δ =>
      callStore world runId fun run => run.transition target binding fields)
      fun _ => HasStatus target runId := by
  refine trace_act fun w w' _ h => ⟨alters_of_callStore h fun run changed _ hrun hok => ?_, ?_⟩
  · refine .transition hok hlifecycle hevents fun t ht => ?_
    obtain ⟨-, -, rfl⟩ := transition_eq_ok hok
    rw [hrun]
    exact hdata run.data t ht
  · obtain ⟨run, changed, -, hok, hafter⟩ := get_of_callStore h fun run changed hok => by
      rw [(transition_eq_ok hok).2.2, moved]
    exact ⟨changed, hafter, by rw [(transition_eq_ok hok).2.2, moved]⟩

/-- An update of the store that leaves the transaction alone. -/
lemma moves_update
    (hlifecycle : ∀ l ∈ fields.lifecycle, l ∈ [Lifecycle.postValidated, .noMutation, .closed])
    (hevents : fields.keeps wipes)
    (hdata : ∀ old, (fields.data old).applyTransaction = old.applyTransaction) :
    Moves (Alters d wipes) (act fault fun world : World δ => callStore world runId fun run =>
      run.update binding fields) := by
  refine moves_act fun w w' h => alters_of_callStore h fun run changed _ _ hok => ?_
  refine .update hok hlifecycle hevents fun t ht => ?_
  obtain ⟨-, rfl⟩ := update_eq_ok hok
  rw [updated_data, hdata] at ht
  exact .inl ht

lemma moves_storeTransition (hdata : Names d runId target.isLate data) :
    Moves (Alters d wipes) (storeTransition fault runId target binding data) :=
  (trace_transition (.inl rfl) (.inl rfl) hdata).moves

lemma moves_storeUpdate
    (hdata : ∀ old, (data old).applyTransaction = old.applyTransaction) :
    Moves (Alters d wipes) (storeUpdate fault runId data) :=
  moves_update nofun (.inl rfl) hdata

lemma moves_storeLifecycle {target : Lifecycle}
    (htarget : target ∈ [Lifecycle.postValidated, .noMutation, .closed])
    (hdata : ∀ old, (data old).applyTransaction = old.applyTransaction) :
    Moves (Alters d wipes) (storeLifecycle fault runId target data) :=
  moves_update (by simpa using htarget) (.inl rfl) hdata

lemma moves_discardSnapshot {key : String} :
    Moves (Alters d wipes) (discardSnapshot fault key : Job δ Unit) :=
  moves_act fun w w' h => by
    cases h
    exact .of_runs_eq rfl

lemma moves_restoreTree :
    Moves (Alters d wipes) (restoreTree fault instanceId snapshot : Job δ Unit) :=
  trace_restoreTree (fun _ _ => .of_runs_eq rfl) fun _ _ _ => trivial

end

/-! ### The operations -/

section

lemma alters_createRun {w w' : World δ} {call : PrepareCall}
    (h : createRun d call w = .ok w') : Alters d wipes w w' := by
  unfold createRun at h
  dsimp only at h
  split at h
  · cases h
  · rename_i runs hcreate
    cases h
    unfold RunStore.create at hcreate
    split_ifs at hcreate with hany
    cases hcreate
    refine .create rfl (fun r hr heq => hany ?_) ⟨rfl, rfl, rfl, rfl⟩
    rw [any_eq_true]
    exact ⟨r, hr, by simpa using heq⟩

section

variable (call : RunCall)

lemma moves_approveRun : Moves (Alters d wipes) (approveRun call : Job δ Unit) :=
  .bind .state fun _ => .bind (.lift _) fun _ => .bind (.lift _) fun _ =>
    moves_storeTransition (.of_eq fun _ => rfl)

lemma moves_cancel : Moves (Alters d wipes) (cancel call : Job δ Unit) := by
  have hplain {fault : Fault} {target : Status} {binding : Binding} : Moves (Alters d wipes)
      (storeTransition fault call.runId target binding id : Job δ Unit) :=
    moves_storeTransition (.of_eq fun _ => rfl)
  have hlast : Moves (Alters d wipes) (do
      _ ← attempt Raised.caught (storeUpdate call.last call.runId id) : Job δ Unit) :=
    .bind (.attempt (moves_storeUpdate fun _ => rfl)) fun _ => .pure ()
  refine .bind .state fun _ => .bind (.lift _) fun run => ?_
  split
  · exact .pure ()
  · exact .bind (.bind hplain fun _ => hplain) fun _ => hlast
  · exact hlast
  all_goals first
    | exact .bind hplain fun _ => hlast
    | exact .raise _

lemma moves_approveProposal : Moves (Alters d wipes) (approveProposal call : Job δ Unit) := by
  refine .bind .state fun _ => .bind (.lift _) fun run => .bind (.lift _) fun _ => ?_
  split
  · exact .raise _
  · exact moves_storeTransition (.of_eq fun _ => rfl)

lemma moves_rejectProposal : Moves (Alters d wipes) (rejectProposal call : Job δ Unit) :=
  .bind .state fun _ => .bind (.lift _) fun _ =>
    .bind (moves_storeTransition (.of_eq fun _ => rfl)) fun _ => moves_storeLifecycle (by decide)
      fun _ => rfl

end

lemma moves_prepare (call : PrepareCall) : Moves (Alters d wipes) (prepare d call) := by
  have hplain {fault : Fault} {target : Status} : Moves (Alters d wipes)
      (storeTransition fault call.runId target .any id : Job δ Unit) :=
    moves_storeTransition (.of_eq fun _ => rfl)
  refine .bind .state fun world => .bind moves_act_ok fun _ => .bind (.lift _) fun _ =>
    .bind (.lift _) fun _ => .bind (moves_act fun _ _ => alters_createRun) fun _ =>
    .bind hplain fun _ => ?_
  split_ifs
  · exact hplain
  · refine .bind (trace_transition (.inr rfl) (.inl rfl) (.of_eq fun _ => rfl)).moves fun _ =>
      .bind (.attempt (moves_storeUpdate fun _ => rfl)) fun _ => .raise _

/-- A call whose worker ends and whose end is seen by `execute`. -/
def ExecuteCall.endsWorker (call : ExecuteCall) : Bool :=
  [ExecuteStep.checks, .prepare, .prepared, .start, .workerStarted, .workerFinished].all
    (fun step => (call.script step).isNone) && call.outcome ≠ .raised

variable {fault : Fault}

section

variable (call : ExecuteCall)

private lemma moves_plain {target : Status} {binding : Binding} :
    Moves (Alters d wipes) (storeTransition fault call.runId target binding id : Job δ Unit) :=
  moves_storeTransition (.of_eq fun _ => rfl)

private lemma moves_record :
    Moves (Alters d wipes) (storeUpdate fault call.runId id : Job δ Unit) :=
  moves_storeUpdate fun _ => rfl

lemma moves_markTerminated (termination : Termination) :
    Moves (Alters d true) (markTerminated call termination : Job δ Unit) :=
  .bind (trace_transition (.inl rfl) (.inr ⟨rfl, rfl⟩) (.of_eq fun _ => rfl)).moves fun _ =>
    .bind (.attempt (.bind (moves_record call) fun _ => moves_record call)) fun _ => .raise _

lemma moves_propose (data : RunData δ) (proposals : List Proposal) :
    Moves (Alters d wipes) (propose call data proposals) := by
  unfold propose
  split
  · exact .bind (moves_plain call) fun _ => .bind (.attempt (moves_record call)) fun _ => .raise _
  · exact moves_storeTransition (.of_eq fun _ => rfl)

lemma moves_completeRun (run : Run (RunData δ)) (proposals : List Proposal) :
    Moves (Alters d true) (completeRun d call run proposals) := by
  have hevents : Moves (Alters d true) (act (call.script .recordEvents) fun world : World δ =>
      callStore world call.runId fun run => run.update .any ⟨none, some [], id⟩) :=
    moves_update nofun (.inr ⟨rfl, rfl⟩) fun _ => rfl
  refine .bind moves_act_ok fun _ => .bind .state fun world => .bind hevents fun _ =>
    .bind (moves_record call) fun _ => .bind (moves_storeTransition (.of_eq fun _ => rfl)) fun _ =>
    .bind (moves_plain call) fun _ => ?_
  split_ifs
  · exact .bind (.bind (moves_storeLifecycle (by decide) fun _ => rfl) fun _ =>
      moves_storeLifecycle (by decide) fun _ => rfl) fun _ => moves_record call
  · exact .bind (moves_propose call _ _) fun _ => moves_record call

/-- `execute` replaces the events only if it sees the end of its worker. -/
lemma moves_execute : Moves (Alters d call.endsWorker) (execute d call) := by
  refine .bind .state fun _ => .bind (.lift _) fun run => .bind (.lift _) fun _ =>
    .bind_fact (trace_act_isNone moves_act_ok) fun hchecks _ => .bind (.lift _) fun _ =>
    .bind_fact (trace_act_isNone (moves_plain call)) fun hprepare _ =>
    .bind_fact (trace_act_isNone (moves_plain call)) fun hprepared _ =>
    .bind_fact (trace_act_isNone (moves_plain call)) fun hstart _ =>
    .bind_fact (trace_act_isNone (moves_record call)) fun hstarted _ =>
    .bind_fact (trace_act_isNone (moves_record call)) fun hfinished _ => ?_
  have hends (hne : call.outcome ≠ .raised) : call.endsWorker := by
    simp [ExecuteCall.endsWorker, *]
  split
  · exact .raise _
  · rename_i termination houtcome
    rw [hends (by rw [houtcome]; nofun)]
    exact moves_markTerminated call _
  · rename_i proposals houtcome
    rw [hends (by rw [houtcome]; nofun)]
    exact moves_completeRun call run _

end

section

variable (call : ApplyCall)

/-- The run is being applied. -/
abbrev IsApplying (runId : String) : World δ → Prop := HasStatus .applying runId

lemma trace_storeUpdate_applying (hdata : Names d runId true data) :
    Trace (Alters d wipes) (IsApplying runId) (storeUpdate fault runId data)
      fun _ => IsApplying runId := by
  refine trace_act fun w w' hw h => ?_
  obtain ⟨applying, happlying, hstatus⟩ := hw
  constructor
  · refine alters_of_callStore h fun run changed hget hrun hok => .update hok nofun (.inl rfl) ?_
    obtain ⟨-, rfl⟩ := update_eq_ok hok
    have hsame : applying = run := Option.some.inj (happlying.symm.trans hget)
    rintro t ht
    rw [updated_data] at ht
    rw [updated_status, ← hsame, hstatus, hsame, hrun]
    exact hdata run.data t ht
  · obtain ⟨run, changed, hget, hok, hafter⟩ := get_of_callStore h fun run changed hok => by
      rw [(update_eq_ok hok).2, updated_runId]
    have hsame : applying = run := Option.some.inj (happlying.symm.trans hget)
    refine ⟨changed, hafter, ?_⟩
    rw [(update_eq_ok hok).2, updated_status, ← hsame, hstatus]

/-- A transaction as the record keeps it names the durable snapshot. -/
lemma names_transaction (hlate : late) (hdata : ∀ old, ∃ transaction,
      (data old).applyTransaction = some transaction ∧
        transaction.snapshotKey = d.key runId transaction.snapshotDigest) :
    Names d runId late data := by
  rintro old t ht
  obtain ⟨transaction, htransaction, hkey⟩ := hdata old
  cases htransaction.symm.trans ht
  exact .inr ⟨hkey, hlate⟩

lemma trace_beginApply
    (hkey : t.snapshotKey = d.key call.runId t.snapshotDigest) :
    Trace (Alters d wipes) (fun _ => True) (beginApply call t) fun _ => IsApplying call.runId := by
  refine .bind (trace_transition (.inl rfl) (.inl rfl)
    (names_transaction rfl fun _ => ⟨_, rfl, hkey⟩)).attempt fun entered => ?_
  cases entered with
  | ok _ => exact .pure fun w hw => hw () rfl
  | error e => exact .bind moves_discardSnapshot.trace fun _ => .raise

/-- What the closing update and the seal keep. -/
lemma keeps_closeRun {P : World δ → Prop}
    (hupdate : ∀ w w', P w → callStore w call.runId (fun run => run.update .any
      ⟨some .closed, none, fun data => { data with closureReceipt := true }⟩) = .ok w' → P w')
    (hseals : ∀ w seals, P w → P { w with seals := seals }) :
    Effect.Keeps P (closeRun d call run) := by
  refine keeps_act fun w w' hw h => ?_
  simp only [eq_ok_iff] at h
  obtain ⟨closed, hclosed, rfl⟩ := h
  exact hseals closed _ (hupdate w closed hw hclosed)

lemma moves_closeRun (run : Run (RunData δ)) : Moves (Alters d wipes) (closeRun d call run) := by
  refine moves_act fun w w' h => ?_
  simp only [eq_ok_iff] at h
  obtain ⟨closed, hclosed, rfl⟩ := h
  refine Alters.congr (show _ = closed.runs from rfl) (alters_of_callStore hclosed ?_)
  intro run changed _ _ hok
  refine .update hok (by simp) (.inl rfl) fun t ht => .inl ?_
  rw [(update_eq_ok hok).2, updated_data] at ht
  exact ht

lemma moves_cleanUp (key : String) : Moves (Alters d wipes) (cleanUp call key : Job δ Unit) := by
  refine .bind (.attempt (.bind moves_discardSnapshot fun _ => moves_storeUpdate fun _ => rfl))
    fun discarded => ?_
  cases discarded with
  | ok _ => exact .pure ()
  | error e => exact moves_storeUpdate fun _ => rfl

lemma moves_persistSnapshot (before : Snapshot) :
    Moves (Alters d wipes) (persistSnapshot d call before) := by
  refine .bind .state fun w => .bind (.lift _) fun _ => .bind moves_act_ok fun _ =>
    .bind (moves_act fun w w' h => ?_) fun _ => moves_act_ok
  cases h
  exact .of_runs_eq rfl

variable [DecidableEq δ]

section

variable (run : Run (RunData δ)) (before : Snapshot) (paths : List Path)

lemma trace_runTransaction (hkey : t.snapshotKey = d.key call.runId t.snapshotDigest) :
    Trace (Alters d wipes) (IsApplying call.runId)
      (runTransaction d call run before paths t) fun _ _ => True := by
  have hrecord {fault : Fault} : Trace (Alters d wipes) (IsApplying call.runId)
      (storeUpdate fault call.runId id : Job δ Unit) fun _ => IsApplying call.runId :=
    trace_storeUpdate_applying (.of_eq fun _ => rfl)
  have hstaged : Trace (Alters d wipes) (IsApplying call.runId) (runStaged call : Job δ Unit)
      fun _ => IsApplying call.runId :=
    .bind trace_act_ok fun _ => .bind hrecord fun _ => .bind hrecord fun _ => .bind hrecord fun _ =>
      hrecord
  refine .bind hstaged fun _ => .bind .state fun _ => .bind (.lift fun _ h _ _ => h) fun _ =>
    .bind (trace_storeUpdate_applying (names_transaction rfl fun _ => ⟨_, rfl, hkey⟩)) fun _ =>
    .bind trace_act_ok fun _ =>
    .bind (trace_restoreTree (fun _ _ => .of_runs_eq rfl) fun _ _ h => h) fun _ =>
    .bind .state fun _ => .bind (.lift fun _ h _ _ => h) fun _ =>
    .bind (trace_storeUpdate_applying (names_transaction rfl fun _ => ⟨_, rfl, hkey⟩)) fun _ =>
    Moves.trace ?_
  refine .bind (moves_storeTransition (names_transaction rfl fun _ => ⟨_, rfl, hkey⟩)) fun _ =>
    .bind (moves_storeLifecycle (by decide) fun _ => rfl) fun _ => .bind moves_act_ok fun _ =>
    .bind (moves_storeUpdate fun _ => rfl) fun _ => .bind (moves_closeRun call run) fun _ =>
    moves_cleanUp call _

lemma moves_rollbackApply (key : String) :
    Moves (Alters d wipes) (rollbackApply d call run before key) := by
  have hprove : Moves (Alters d wipes) (proveRollback d call run before) :=
    .bind moves_restoreTree fun _ => .bind .state fun _ => .bind (.lift _) fun _ =>
      .bind (moves_storeTransition (.of_eq fun _ => rfl)) fun _ => moves_act_ok
  refine .bind (.attempt hprove) fun proven => ?_
  cases proven with
  | error e => exact .bind (moves_storeTransition (.of_eq fun _ => rfl)) fun _ => .raise _
  | ok _ =>
    refine .bind (.attempt (moves_storeUpdate fun _ => rfl)) fun _ =>
      .bind (.attempt moves_discardSnapshot) fun discarded => ?_
    cases discarded with
    | ok _ => exact .pure ()
    | error e => exact moves_storeUpdate fun _ => rfl

lemma moves_checkFresh : Moves (Alters d wipes) (checkFresh d call run before) := by
  have hstale (message : String) : Moves (Alters d wipes) (refuseStale call message : Job δ Unit) :=
    .bind (moves_storeTransition (.of_eq fun _ => rfl)) fun _ => .raise _
  unfold checkFresh
  split_ifs
  · exact hstale _
  · exact hstale _
  · exact .pure ()

lemma trace_guardTransaction (hkey : t.snapshotKey = d.key call.runId t.snapshotDigest) :
    Trace (Alters d wipes) (IsApplying call.runId)
      (guardTransaction d call run before paths t) fun _ _ => True := by
  refine .bind (trace_runTransaction call run before paths hkey).attempt fun finished =>
    Moves.trace ?_
  cases finished with
  | ok _ => exact .pure ()
  | error e => exact .bind (moves_rollbackApply call run _ _) fun _ => .raise _

lemma moves_transact : Moves (Alters d wipes) (transact d call run before paths) :=
  .bind (moves_persistSnapshot call _) fun _ => Trace.bind (trace_beginApply call rfl) fun _ =>
    .bind trace_act_ok fun _ => trace_guardTransaction call run before paths rfl

end

lemma moves_applyProposal : Moves (Alters d wipes) (applyProposal d call) :=
  .bind .state fun _ => .bind (.lift _) fun run => .bind moves_act_ok fun _ =>
    .bind (.lift _) fun paths => .bind (moves_checkFresh call run _) fun _ =>
    moves_transact call run _ paths

end

end

/-! ### Well-formed records -/

/-- The transaction of a record names the durable snapshot of the run, and a run that was
interrupted starts no more. -/
structure Run.WellFormed (digests : Digests δ) (run : Run (RunData δ)) : Prop where
  named : ∀ transaction, run.data.applyTransaction = some transaction →
    transaction.snapshotKey = digests.key run.runId transaction.snapshotDigest
  late : run.data.applyTransaction ≠ none → run.status.isLate
  interrupted : run.status = .interrupted → run.lifecycle = .interrupted ∨ run.lifecycle = .closed
  approved : run.status = .stateChangeApproved → run.lifecycle = .awaitingProposalApproval

/-- Every record is well formed, and no two have the same identity. -/
structure World.WellFormed (digests : Digests δ) (w : World δ) : Prop where
  ids : (w.runs.map Run.runId).Nodup
  runs : ∀ run ∈ w.runs, run.WellFormed digests

/-- A late status is left for a late one, unless the run was interrupted. -/
lemma isLate_of_allows {current target : Status} (hlate : current.isLate)
    (hallows : current.allows target) (h : current ≠ .interrupted) :
    target.isLate := by
  revert hlate hallows h
  cases current <;> first
    | exact fun hlate => absurd hlate (by decide)
    | exact fun _ _ h => absurd rfl h
    | (cases target <;> decide)

/-- An interrupted run is left for a late status. -/
lemma isLate_of_interrupted {lifecycle : Lifecycle} {target : Status}
    (hlifecycle : lifecycle = .interrupted ∨ lifecycle = .closed)
    (hallows : Status.interrupted.allows target)
    (hnext : lifecycle.allows target.lifecycle) : target.isLate := by
  rcases hlifecycle with rfl | rfl
  all_goals
    revert hallows hnext
    cases target <;> decide

/-- An update does not move an interrupted lifecycle, except to close it. -/
lemma closed_of_interrupted {lifecycle target : Lifecycle}
    (hlifecycle : lifecycle = .interrupted ∨ lifecycle = .closed)
    (htarget : target ∈ [Lifecycle.postValidated, .noMutation, .closed])
    (hallows : lifecycle.allows target) : target = .closed := by
  rcases hlifecycle with rfl | rfl
  all_goals
    revert htarget hallows
    cases target <;> decide

/-- No update moves the lifecycle of a proposal that awaits its apply. -/
lemma not_allows_of_awaiting {target : Lifecycle}
    (htarget : target ∈ [Lifecycle.postValidated, .noMutation, .closed]) :
    Lifecycle.awaitingProposalApproval.allows target = false := by
  revert htarget
  cases target <;> decide

namespace Advance

variable {run changed : Run (RunData δ)}

section

variable (h : Advance d wipes run changed)
include h

lemma runId_eq : changed.runId = run.runId := by
  cases h with
  | refl => rfl
  | transition hok =>
    rw [(transition_eq_ok hok).2.2]
    rfl
  | update hok => rw [(update_eq_ok hok).2, updated_runId]
  | orphaned => rfl

lemma evolves : Evolves d run changed := by
  cases h with
  | refl => exact fun t ht => .inl ht
  | transition hok hlifecycle hevents hevolves
  | update hok hlifecycle hevents hevolves => exact hevolves
  | orphaned hflight =>
    intro t ht
    left
    rw [← ht]
    simp only [Run.orphaned]
    split_ifs <;> rfl

/-- **A late run stays late.** -/
theorem isLate (hrun : run.WellFormed d) (hlate : run.status.isLate) : changed.status.isLate := by
  cases h with
  | refl => exact hlate
  | @transition _ target binding fields hok hlifecycle =>
    obtain ⟨hallows, hnext, rfl⟩ := transition_eq_ok hok
    change target.isLate
    by_cases hinterrupted : run.status = .interrupted
    · rcases hlifecycle with hnone | rfl
      · rw [hnone] at hnext
        exact isLate_of_interrupted (hrun.interrupted hinterrupted) (hinterrupted ▸ hallows) hnext
      · rfl
    · exact isLate_of_allows hlate hallows hinterrupted
  | update hok =>
    rw [(update_eq_ok hok).2, updated_status]
    exact hlate
  | orphaned => rfl

/-- The lifecycle of a run that a transition leaves interrupted, or approved for its apply. -/
private lemma lifecycle_of_status
    (hrun : run.WellFormed d) :
    (changed.status = .interrupted →
        changed.lifecycle = .interrupted ∨ changed.lifecycle = .closed) ∧
      (changed.status = .stateChangeApproved → changed.lifecycle = .awaitingProposalApproval) := by
  cases h with
  | refl => exact ⟨hrun.interrupted, hrun.approved⟩
  | @transition _ target binding fields hok hlifecycle =>
    obtain ⟨-, -, rfl⟩ := transition_eq_ok hok
    have hnone : target ≠ .failed → fields.lifecycle = none := hlifecycle.resolve_right
    simp only [moved]
    constructor
    · rintro rfl
      rw [hnone (by decide)]
      exact .inl rfl
    · rintro rfl
      rw [hnone (by decide)]
      rfl
  | @update _ binding fields hok hlifecycle =>
    obtain ⟨hallows, rfl⟩ := update_eq_ok hok
    rw [updated_status, updated]
    split
    · exact ⟨hrun.interrupted, hrun.approved⟩
    · rename_i l hl
      have hmem := hlifecycle l (by rw [hl]; rfl)
      have hallowed := hallows l hl
      split_ifs
      · exact ⟨hrun.interrupted, hrun.approved⟩
      · refine ⟨fun h => .inr (closed_of_interrupted (hrun.interrupted h) hmem hallowed),
          fun h => ?_⟩
        rw [hrun.approved h, not_allows_of_awaiting hmem] at hallowed
        cases hallowed
  | orphaned => exact ⟨fun _ => .inl rfl, nofun⟩

/-- **Every change of a record keeps it well formed.** -/
theorem wellFormed (hrun : run.WellFormed d) : changed.WellFormed d := by
  refine ⟨fun t ht => ?_, fun hsome => ?_, (h.lifecycle_of_status hrun).1,
    (h.lifecycle_of_status hrun).2⟩
  · rw [h.runId_eq]
    rcases h.evolves t ht with hold | hnew
    · exact hrun.named t hold
    · exact hnew.1
  · obtain ⟨t, ht⟩ := Option.ne_none_iff_exists'.mp hsome
    rcases h.evolves t ht with hold | hnew
    · exact h.isLate hrun (hrun.late (by rw [hold]; simp))
    · exact hnew.2

end

end Advance

lemma exists_of_mem_records {R : Run (RunData δ) → Run (RunData δ) → Prop}
    {runs runs' : List (Run (RunData δ))} (h : List.Forall₂ R runs runs') :
    ∀ changed ∈ runs', ∃ run ∈ runs, R run changed := by
  induction h with
  | nil => simp
  | @cons run changed runs runs' hrun _ ih =>
    rintro r (_ | ⟨_, hr⟩)
    · exact ⟨run, mem_cons_self, hrun⟩
    · obtain ⟨old, hold, hR⟩ := ih r hr
      exact ⟨old, mem_cons_of_mem _ hold, hR⟩

/-- What became of the record that `get` finds. -/
lemma get_of_records {runs runs' : RunStore (RunData δ)}
    (h : List.Forall₂ (Advance d wipes) runs runs')
    (hget : runs.get runId = some run) :
    ∃ changed, runs'.get runId = some changed ∧ Advance d wipes run changed := by
  induction h with
  | nil => cases hget
  | @cons first changed runs runs' hfirst _ ih =>
    rw [RunStore.get, find?_cons] at hget
    simp only [RunStore.get, find?_cons, hfirst.runId_eq]
    by_cases hid : first.runId = runId
    · simp only [hid, decide_true] at hget ⊢
      cases hget
      exact ⟨changed, rfl, hfirst⟩
    · simp only [hid, decide_false] at hget ⊢
      exact ih hget

/-- **Every change keeps the records well formed.** -/
theorem Alters.wellFormed {w w' : World δ} (h : Alters d wipes w w') (hw : w.WellFormed d) :
    w'.WellFormed d := by
  cases h with
  | records hruns =>
    have hids : w'.runs.map Run.runId = w.runs.map Run.runId := by
      generalize w.runs = runs, w'.runs = runs' at hruns
      induction hruns with
      | nil => rfl
      | cons hadvance _ ih => rw [map_cons, map_cons, hadvance.runId_eq, ih]
    refine ⟨hids ▸ hw.ids, fun run hrun => ?_⟩
    obtain ⟨old, hold, hadvance⟩ := exists_of_mem_records hruns run hrun
    exact hadvance.wellFormed (hw.runs old hold)
  | @create run hruns hnew hfresh =>
    refine ⟨?_, fun r hr => ?_⟩
    · rw [hruns, map_append, map_singleton, nodup_append]
      refine ⟨hw.ids, nodup_singleton _, ?_⟩
      rintro id hid _ hmem rfl
      obtain ⟨r, hr, rfl⟩ := mem_map.mp hid
      exact hnew r hr (mem_singleton.mp hmem)
    · rw [hruns, mem_append, mem_singleton] at hr
      rcases hr with hr | rfl
      · exact hw.runs r hr
      · refine ⟨fun t ht => ?_, fun h => absurd hfresh.transaction h, fun h => ?_, fun h => ?_⟩
        · cases hfresh.transaction.symm.trans ht
        · cases hfresh.status.symm.trans h
        · cases hfresh.status.symm.trans h

lemma wellFormed_of_reaches {w w' : World δ}
    (h : Relation.ReflTransGen (Alters d wipes) w w') (hw : w.WellFormed d) :
    w'.WellFormed d := by
  induction h with
  | refl => exact hw
  | tail _ halters ih => exact halters.wellFormed ih

/-! ### Starts -/

section

variable {run : Run (RunData δ)}

lemma moves_discardLeftover (fault : Fault) :
    Moves (Alters d wipes) (discardLeftover fault run) := by
  unfold discardLeftover
  split_ifs
  · exact .pure ()
  · split
    · exact .pure ()
    · exact .bind (.attempt moves_discardSnapshot) fun _ => .pure ()

variable (script : RecoveryStep → Fault)

lemma moves_markInterrupted (runId : String) :
    Moves (Alters d wipes) (markInterrupted script runId : Job δ Unit) := by
  refine .bind .state fun w => ?_
  split
  · exact .pure ()
  · split_ifs
    · refine .bind (.attempt (moves_storeTransition (.of_eq fun _ => rfl))) fun marked => ?_
      cases marked with
      | ok _ => exact .pure ()
      | error e => exact .raise _
    · exact .pure ()

variable [DecidableEq δ]

lemma checkTransaction_eq_ok {transaction : Transaction δ}
    (h : checkTransaction run = .ok transaction) :
    run.data.applyTransaction = some transaction ∧
      run.data.canonicalStateBefore = transaction.snapshotDigest := by
  unfold checkTransaction at h
  cases hsome : run.data.applyTransaction with
  | none =>
    rw [hsome] at h
    cases h
  | some t =>
    rw [hsome] at h
    simp only [portableIf, eq_ok_iff, not_or, not_not] at h
    obtain ⟨⟨-, hbefore, -, -⟩, rfl⟩ := h
    exact ⟨rfl, hbefore⟩

lemma moves_settleTree (fault : Fault) (before : Snapshot) (expected : δ) (finding : Finding) :
    Moves (Alters d wipes) (settleTree d fault run before expected finding) := by
  cases finding with
  | newerSealedApplyPreserved | sameRunNoMutation => exact .pure ()
  | sameRunRollback => exact .bind moves_restoreTree fun _ => .bind .state fun _ => .lift _

lemma moves_recoverTransaction (hrun : run.WellFormed d) :
    Moves (Alters d wipes) (recoverTransaction d script run) := by
  refine Trace.bind (Q := fun transaction _ => run.data.applyTransaction = some transaction)
    (Trace.lift fun _ _ t ht => (checkTransaction_eq_ok ht).1) fun transaction w htransaction => ?_
  have hkey := hrun.named transaction htransaction
  refine Moves.bind moves_act_ok (fun _ => .bind .state fun _ => .bind (.lift _) fun before =>
    .bind moves_act_ok fun _ => .bind (.lift _) fun finding =>
    .bind (moves_settleTree _ _ _ _) fun _ => .bind .state fun _ =>
    .bind (moves_storeTransition (names_transaction rfl fun _ => ⟨_, rfl, by exact hkey⟩)) fun _ =>
    .bind moves_discardSnapshot fun _ => moves_storeUpdate fun _ => rfl) w trivial

lemma moves_recoverRun (restart : Restart) (hrun : run.WellFormed d) :
    Moves (Alters d wipes) (recoverRun d restart run) := by
  unfold recoverRun
  split_ifs
  · exact moves_discardLeftover _
  · exact .pure ()
  · refine .bind (.attempt (moves_recoverTransaction _ hrun)) fun recovered => ?_
    cases recovered with
    | ok _ => exact .pure ()
    | error e => exact moves_markInterrupted _ _

omit [DecidableEq δ] in
lemma alters_recoverOrphans (w : World δ) (active : List String) :
    Alters d wipes w { w with runs := w.runs.recoverOrphans active unproven } := by
  refine .records (forall₂_map_right_iff.mpr (forall₂_same.mpr fun run _ => ?_))
  split_ifs with h
  · exact .orphaned h.2
  · exact .refl run

/-- **The recovery at a start of the service.** -/
theorem moves_recoverInterruptedApplies (restart : Restart) :
    Trace (Alters d wipes) (World.WellFormed d)
      (recoverInterruptedApplies d restart) fun _ _ => True := by
  refine .bind_state fun w hw => ?_
  have hloop : Moves (Alters d wipes) (w.runs.forM (recoverRun d restart)) :=
    .forM fun run hrun => moves_recoverRun restart (hw.runs run hrun)
  refine .bind hloop.trace fun _ => .bind (.modify (fun w _ => alters_recoverOrphans w _)
    fun _ _ => trivial) fun _ => moves_act_ok

end

/-! ### Every operation -/

section

variable [DecidableEq δ] {service : Service δ}

omit [DecidableEq δ] in
lemma Service.reaches_call {R : World δ → World δ → Prop} {job : Job δ Unit} (h : Moves R job) :
    Relation.ReflTransGen R service.world (service.call job).world := by
  unfold Service.call
  split_ifs
  · exact (h service.world trivial).1
  · exact .refl

/-- An operation in which no worker ends. -/
def Operation.isQuiet : Operation → Bool
  | .execute call => !call.endsWorker
  | _ => true

section

variable (hservice : service.world.WellFormed d) (operation : Operation)
include hservice

/-- **Every operation is a sequence of changes**, and only the end of a worker replaces events. -/
theorem reaches_perform :
    Relation.ReflTransGen (Alters d (!operation.isQuiet)) service.world
      (perform d service operation).world := by
  cases operation with
  | prepare call => exact Service.reaches_call (moves_prepare call)
  | approveRun call => exact Service.reaches_call (moves_approveRun call)
  | cancel call => exact Service.reaches_call (moves_cancel call)
  | execute call =>
    rw [Operation.isQuiet, Bool.not_not]
    exact Service.reaches_call (moves_execute call)
  | approveProposal call => exact Service.reaches_call (moves_approveProposal call)
  | rejectProposal call => exact Service.reaches_call (moves_rejectProposal call)
  | apply call => exact Service.reaches_call (moves_applyProposal call)
  | edit instanceId tree => exact .single (.of_runs_eq rfl)
  | stop => exact .refl
  | start restart => exact (moves_recoverInterruptedApplies restart service.world hservice).1

lemma wellFormed_perform : (perform d service operation).world.WellFormed d :=
  wellFormed_of_reaches (reaches_perform hservice operation) hservice

end

omit [DecidableEq δ] in
lemma wellFormed_initial (trees : String → Tree) :
    (initial trees : Service δ).world.WellFormed d :=
  ⟨nodup_nil, fun _ h => absurd h not_mem_nil⟩

/-- **The records of a service are well formed at every moment of its history.** -/
theorem wellFormed_foldl (hservice : service.world.WellFormed d)
    (operations : List Operation) :
    (operations.foldl (perform d) service).world.WellFormed d := by
  induction operations generalizing service with
  | nil => exact hservice
  | cons operation operations ih => exact ih (wellFormed_perform hservice operation)

end

end StatePort.PortableExecution
