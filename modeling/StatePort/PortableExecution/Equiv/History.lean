import StatePort.PortableExecution.Equiv.Changes

/-!
# The history of a run

`events` should tell every transition of a run and only grow. Every call of the store appends the
entry of its own transition (`Advance.history`), so that this holds as long as the events are not
replaced. `execute` replaces them when its worker ends: it passes the events that the worker
reported, which are none.
-/

namespace StatePort.PortableExecution

open List Effect

variable {δ : Type} {d : Digests δ} {w w' : World δ}

/-- The events of the run are the entries of its transitions, in order. -/
def Run.IsComplete (run : Run (RunData δ)) : Prop :=
  List.Forall₂ (fun event move => event.describes move) run.events run.moves

/-- A change of a record that keeps its events appends the entry of its transition. -/
lemma Advance.history {run changed : Run (RunData δ)} (h : Advance d false run changed)
    (hrun : run.IsComplete) : changed.IsComplete ∧ run.events <+: changed.events := by
  have happend (event : Event) (move : Move) (hdescribes : event.describes move) :
      List.Forall₂ (fun event move => event.describes move)
        (run.events ++ [event]) (run.moves ++ [move]) :=
    rel_append hrun (.cons hdescribes .nil)
  cases h with
  | refl => exact ⟨hrun, prefix_rfl⟩
  | @transition _ target binding fields hok hlifecycle hevents hevolves =>
    obtain ⟨-, -, rfl⟩ := Run.transition_eq_ok hok
    have hnone : fields.events = none := hevents.resolve_right (by simp)
    rw [Run.IsComplete, Run.moved, hnone]
    exact ⟨happend _ _ (by simp [Event.describes]), prefix_append _ _⟩
  | @update _ binding fields hok hlifecycle hevents hevolves =>
    obtain ⟨-, rfl⟩ := Run.update_eq_ok hok
    have hnone : fields.events = none := hevents.resolve_right (by simp)
    rw [Run.IsComplete, Run.updated]
    split
    · rw [hnone]
      exact ⟨hrun, prefix_rfl⟩
    · split_ifs
      · rw [hnone]
        exact ⟨hrun, prefix_rfl⟩
      · rw [hnone]
        exact ⟨happend _ _ (by simp [Event.describes]), prefix_append _ _⟩
  | orphaned hflight => exact ⟨happend _ _ (by simp [Event.describes]), prefix_append _ _⟩

/-- The records are well formed and every run has a complete history. -/
structure World.Told (digests : Digests δ) (w : World δ) : Prop where
  wellFormed : w.WellFormed digests
  complete : ∀ run ∈ w.runs, run.IsComplete

/-- No run is lost and the events of every run only grow. -/
def Grows (w w' : World δ) : Prop :=
  ∀ runId run, w.runs.get runId = some run →
    ∃ run', w'.runs.get runId = some run' ∧ run.events <+: run'.events

lemma Grows.refl (w : World δ) : Grows w w := fun _ run hrun => ⟨run, hrun, prefix_rfl⟩

lemma Grows.trans {w'' : World δ} (h : Grows w w') (h' : Grows w' w'') : Grows w w'' := by
  intro runId run hrun
  obtain ⟨run', hrun', hevents⟩ := h runId run hrun
  obtain ⟨run'', hrun'', hevents'⟩ := h' runId run' hrun'
  exact ⟨run'', hrun'', hevents.trans hevents'⟩

/-- **A change that keeps the events keeps the histories.** -/
theorem Alters.told (h : Alters d false w w') (hw : w.Told d) : w'.Told d ∧ Grows w w' := by
  have hwell := h.wellFormed hw.wellFormed
  cases h with
  | records hruns =>
    refine ⟨⟨hwell, fun changed hchanged => ?_⟩, fun runId run hrun => ?_⟩
    · obtain ⟨run, hrun, hadvance⟩ := exists_of_mem_records hruns changed hchanged
      exact (hadvance.history (hw.complete run hrun)).1
    · obtain ⟨changed, hchanged, hadvance⟩ := get_of_records hruns hrun
      have hcomplete := hw.complete run (RunStore.get_eq_some hrun).1
      exact ⟨changed, hchanged, (hadvance.history hcomplete).2⟩
  | @create new hruns hnew hfresh =>
    refine ⟨⟨hwell, fun run hrun => ?_⟩, fun runId run hrun => ⟨run, ?_, prefix_rfl⟩⟩
    · rw [hruns, mem_append, mem_singleton] at hrun
      rcases hrun with hrun | rfl
      · exact hw.complete run hrun
      · rw [Run.IsComplete, hfresh.events, hfresh.moves]
        exact .nil
    · rw [RunStore.get] at hrun ⊢
      rw [hruns, find?_append, hrun]
      rfl

lemma told_of_reaches (h : Relation.ReflTransGen (Alters d false) w w')
    (hw : w.Told d) : w'.Told d ∧ Grows w w' := by
  induction h with
  | refl => exact ⟨hw, Grows.refl w⟩
  | tail _ halters ih =>
    obtain ⟨htold, hgrows⟩ := ih
    obtain ⟨htold', hgrows'⟩ := halters.told htold
    exact ⟨htold', hgrows.trans hgrows'⟩

/-! ### Operations that keep the events -/

/-- The operation is not an `execute` of an approved run that sees the end of its worker. -/
def KeepsEvents (service : Service δ) (operation : Operation) : Prop :=
  ∀ call, operation = .execute call → ∀ run, service.world.runs.get call.runId = some run →
    run.status = .approved → call.endsWorker = false

lemma execute_of_not_approved {call : ExecuteCall}
    (h : ∀ run, w.runs.get call.runId = some run → run.status ≠ .approved) :
    (execute d call w).2 = w := by
  have hrefused : ∀ run, requireRun w call.runId call.binding = .ok run →
    run.status ≠ .approved := by
    intro run hrun
    unfold requireRun at hrun
    cases hget : w.runs.get call.runId with
    | none =>
      rw [hget] at hrun
      cases hrun
    | some found =>
      rw [hget] at hrun
      simp only [eq_ok_iff] at hrun
      rw [← hrun.2]
      exact h found hget
  unfold execute
  rw [state_bind]
  cases hrun : requireRun w call.runId call.binding with
  | error e => rw [bind_apply_error (lift_apply (s := w))]
  | ok run =>
    rw [lift_ok_bind]
    rw [portableIf, raiseIf, if_pos (hrefused run hrun)]
    rw [bind_apply_error (lift_apply (s := w))]

variable [DecidableEq δ] {service : Service δ}

/-- **Step.** -/
theorem told_perform (hservice : service.world.Told d) {operation : Operation}
    (hkeeps : KeepsEvents service operation) :
    (perform d service operation).world.Told d ∧
      Grows service.world (perform d service operation).world := by
  by_cases hquiet : operation.isQuiet
  · have hreaches := reaches_perform hservice.wellFormed operation
    rw [hquiet] at hreaches
    exact told_of_reaches hreaches hservice
  · cases operation with
    | execute call =>
      have hsame : (perform d service (.execute call)).world = service.world := by
        change (service.call _).world = _
        unfold Service.call
        split_ifs
        · refine execute_of_not_approved fun run hrun happroved => hquiet ?_
          rw [Operation.isQuiet, hkeeps call rfl run hrun happroved]
          rfl
        · rfl
      rw [hsame]
      exact ⟨hservice, Grows.refl _⟩
    | _ => exact absurd rfl hquiet

omit [DecidableEq δ] in
def Service.eventsOf (service : Service δ) (runId : String) : List Event :=
  ((service.world.runs.get runId).map Run.events).getD []

omit [DecidableEq δ] in
/-- The transitions of a run so far. -/
def Service.movesOf (service : Service δ) (runId : String) : List Move :=
  ((service.world.runs.get runId).map Run.moves).getD []

omit [DecidableEq δ] in
lemma eventsOf_of_grows {service' : Service δ} (h : Grows service.world service'.world)
    (runId : String) : service.eventsOf runId <+: service'.eventsOf runId := by
  unfold Service.eventsOf
  cases hrun : service.world.runs.get runId with
  | none => exact nil_prefix
  | some run =>
    obtain ⟨run', hrun', hevents⟩ := h runId run hrun
    rw [hrun']
    exact hevents

omit [DecidableEq δ] in
lemma describes_of_told (h : service.world.Told d) (runId : String) :
    List.Forall₂ (fun event move => event.describes move)
      (service.eventsOf runId) (service.movesOf runId) := by
  unfold Service.eventsOf Service.movesOf
  cases hrun : service.world.runs.get runId with
  | none => exact .nil
  | some run => exact h.complete run (RunStore.get_eq_some hrun).1

/-- **The history of a run is complete and append-only** along all operations in which no approved
run is executed to the end of its worker. -/
theorem history_of_keepsEvents (hservice : service.world.Told d)
    {operations : List Operation}
    (hkeeps : Run.Along (perform d) KeepsEvents service operations) (runId : String)
    {earlier later : List Operation} (hearlier : earlier <+: later)
    (hlater : later <+: operations) :
    (earlier.foldl (perform d) service).eventsOf runId <+:
        (later.foldl (perform d) service).eventsOf runId ∧
      List.Forall₂ (fun event move => event.describes move)
        ((later.foldl (perform d) service).eventsOf runId)
        ((later.foldl (perform d) service).movesOf runId) := by
  -- Each step takes a world with complete histories to one in which they have grown.
  have halong : Run.Along (perform d) (fun s operation =>
      s.world.Told d ∧ (perform d s operation).world.Told d ∧
        Grows s.world (perform d s operation).world) service operations := by
    clear hlater
    induction operations generalizing service with
    | nil => trivial
    | cons operation operations ih =>
      have hstep := told_perform hservice hkeeps.1
      exact ⟨⟨hservice, hstep⟩, ih hstep.1 hkeeps.2⟩
  have hprefixes := (Run.along_iff_prefixes (R := fun s t : Service δ =>
      s.world.Told d ∧ t.world.Told d ∧ Grows s.world t.world)
    (fun s t h => ⟨h.2.1, h.2.1, Grows.refl _⟩)
    (fun s t r h h' => ⟨h.1, h'.2.1, h.2.2.trans h'.2.2⟩)
    ⟨hservice, hservice, Grows.refl _⟩ operations).mp halong earlier later hearlier hlater
  exact ⟨eventsOf_of_grows hprefixes.2.2 runId, describes_of_told hprefixes.2.1 runId⟩

/-! ### Walks in the transition tables -/

/-- A move along the tables, perhaps of the lifecycle alone, or the end of a run in flight. -/
def Move.isLegal (move : Move) : Bool :=
  (move.statusAfter = move.statusBefore || move.statusBefore.allows move.statusAfter) &&
      move.lifecycleBefore.allows move.lifecycleAfter ||
    move.statusBefore ∈ [Status.preparing, .prepared, .running, .cancelling, .applying] &&
      move.statusAfter = .interrupted && move.lifecycleAfter = .interrupted

/-- Where legal moves lead to, if each one starts where the one before it ended. -/
def replay (moves : List Move) : Option Status :=
  moves.foldlM (fun status move =>
    if move.statusBefore = status ∧ move.isLegal then some move.statusAfter else none) .requested

/-- Every run is where its moves lead. -/
def World.Replays (w : World δ) : Prop := ∀ run ∈ w.runs, replay run.moves = some run.status

variable {wipes : Bool}

omit [DecidableEq δ] in
lemma Advance.replays {run changed : Run (RunData δ)} (h : Advance d wipes run changed)
    (hrun : replay run.moves = some run.status) : replay changed.moves = some changed.status := by
  have happend (move : Move) (hbefore : move.statusBefore = run.status) (hlegal : move.isLegal) :
      replay (run.moves ++ [move]) = some move.statusAfter := by
    rw [replay, foldlM_append, ← replay, hrun]
    simp [hbefore, hlegal]
  cases h with
  | refl => exact hrun
  | transition hok =>
    obtain ⟨hstatus, hlifecycle, rfl⟩ := Run.transition_eq_ok hok
    exact happend _ rfl (by simp [Move.isLegal, hstatus, hlifecycle])
  | update hok =>
    obtain ⟨hlifecycle, rfl⟩ := Run.update_eq_ok hok
    rw [Run.updated]
    split
    · exact hrun
    · next target htarget =>
      split_ifs
      · exact hrun
      · exact happend _ rfl (by simp [Move.isLegal, hlifecycle target htarget])
  | orphaned hflight => exact happend _ rfl (by simp_all [Move.isLegal, Run.isInFlight])

omit [DecidableEq δ] in
lemma replays_of_reaches (h : Relation.ReflTransGen (Alters d wipes) w w') (hw : w.Replays) :
    w'.Replays := by
  induction h with
  | refl => exact hw
  | tail _ halters ih =>
    intro run hrun
    cases halters with
    | records hruns =>
      obtain ⟨old, hold, hadvance⟩ := exists_of_mem_records hruns run hrun
      exact hadvance.replays (ih old hold)
    | create hruns _ hfresh =>
      obtain hrun | hrun := mem_append.mp (hruns ▸ hrun)
      · exact ih run hrun
      · -- a new run has not moved yet
        rw [mem_singleton.mp hrun, hfresh.moves, hfresh.status]
        rfl

/-- **Every history is a walk.** Whatever a service does, crashes and restarts included, the
recorded moves of each run lead from `requested` along the transition tables to its status. -/
theorem replays_foldl (d : Digests δ) (trees : String → Tree) (operations : List Operation) :
    (operations.foldl (perform d) (initial trees)).world.Replays := by
  refine (foldlRecOn operations (perform d) (motive := fun service : Service δ =>
    service.world.WellFormed d ∧ service.world.Replays)
    ⟨wellFormed_initial trees, fun _ h => absurd h not_mem_nil⟩ ?_).2
  rintro service ⟨hwell, hreplays⟩ operation -
  exact ⟨wellFormed_perform hwell operation,
    replays_of_reaches (reaches_perform hwell operation) hreplays⟩

/-- **Records stay consistent.** No two runs ever have the same id, and the status of a run, its
lifecycle state and its apply transaction agree. -/
theorem records_wellFormed (d : Digests δ) (trees : String → Tree) (operations : List Operation) :
    (operations.foldl (perform d) (initial trees)).world.WellFormed d :=
  wellFormed_foldl (wellFormed_initial trees) operations

/-! ### An execution -/

section

def approvedRun : List Operation :=
  [.prepare ⟨"instance", "run", ⟨"tree", "descriptor", "action", "source", "executor"⟩, true,
      some "head", true, fun _ => .none⟩,
    .approveRun ⟨"run", .any, .none, .none, .none⟩]

def failedExecution : Operation :=
  .execute ⟨"run", .any, "tree", fun _ => true, .terminated .failed, fun _ => .none⟩

def emptyService : Service (List (Path × Node)) := initial fun _ => ⟨[], nodup_nil⟩

lemma told_emptyService : emptyService.world.Told Digests.plain :=
  ⟨wellFormed_initial _, fun _ h => absurd h not_mem_nil⟩

/-- The approval of a run is kept in its history. -/
theorem history_of_approvedRun :
    emptyService.eventsOf "run" <+:
        (approvedRun.foldl (perform Digests.plain) emptyService).eventsOf "run" ∧
      List.Forall₂ (fun event move => event.describes move)
        ((approvedRun.foldl (perform Digests.plain) emptyService).eventsOf "run")
        ((approvedRun.foldl (perform Digests.plain) emptyService).movesOf "run") := by
  have hkeeps : Run.Along (perform Digests.plain) KeepsEvents emptyService approvedRun :=
    ⟨nofun, nofun, trivial⟩
  have hstart : [] <+: approvedRun := nil_prefix
  exact history_of_keepsEvents told_emptyService hkeeps "run" hstart prefix_rfl

/-- An execution removes the entries of what came before it, and of its own start. -/
theorem execution_removes_history :
    ¬ (approvedRun.foldl (perform Digests.plain) emptyService).eventsOf "run" <+:
        ((approvedRun ++ [failedExecution]).foldl (perform Digests.plain) emptyService).eventsOf
          "run" ∧
      ∃ move ∈ ((approvedRun ++ [failedExecution]).foldl (perform Digests.plain)
          emptyService).movesOf "run",
        ∀ event ∈ ((approvedRun ++ [failedExecution]).foldl (perform Digests.plain)
          emptyService).eventsOf "run", event.describes move = false := by
  decide +kernel

end

end StatePort.PortableExecution
