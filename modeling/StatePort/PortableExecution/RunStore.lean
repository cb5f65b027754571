import StatePort.Algorithm.Raise
import StatePort.PortableExecution.Contracts

/-!
# The store of governed runs

`RunStore` of `packages/portable-execution/src/stateport_portable_execution/store.py`. A record has
a status, a lifecycle state, a revision and a list of events; what else it holds is not read by the
store (`Run.data`). `transition` and `update` change the record with a given identity, and
`recoverOrphans` marks the runs that a dead process has left behind.

A caller passes fields that replace those of the record. Among them may be `events`, which
`transition` takes over before it appends its own entry and `update` takes over last.

`Run.moves` is not part of the record: it is what happened to its status and lifecycle so far.
-/

namespace StatePort.PortableExecution

/-- An entry of `events`; its actor, reason and time are not read. -/
inductive Event where
  | stateTransition (source target : Status)
  | lifecycleTransition (source target : Lifecycle)
deriving DecidableEq

/-- A change of the status, of the lifecycle state, or of both. -/
structure Move where
  (statusBefore statusAfter : Status)
  (lifecycleBefore lifecycleAfter : Lifecycle)
deriving DecidableEq

/-- The entry tells the change. -/
def Event.describes (event : Event) (move : Move) : Bool :=
  match event with
  | .stateTransition source target => source = move.statusBefore && target = move.statusAfter
  | .lifecycleTransition source target =>
    source = move.lifecycleBefore && target = move.lifecycleAfter &&
      move.statusBefore = move.statusAfter

structure Run (ρ : Type) where
  (runId instanceId : String)
  status : Status
  lifecycle : Lifecycle
  revision : ℕ
  events : List Event
  moves : List Move
  data : ρ
deriving DecidableEq

inductive StoreError where
  | unknownRun
  | runInstanceMismatch
  | runRevisionStale
  | invalidRunTransition (current target : Status)
  | invalidLifecycleTransition (current target : Lifecycle)

/-- `expected_instance_id` and `expected_revision`. -/
structure Binding where
  instanceId : Option String
  revision : Option ℕ

/-- Nothing is expected. -/
def Binding.any : Binding := ⟨none, none⟩

/-- The fields that a caller passes. -/
structure Fields (ρ : Type) where
  lifecycle : Option Lifecycle
  events : Option (List Event)
  data : ρ → ρ

/-- Fields that name neither a lifecycle state nor events. -/
def Fields.of {ρ : Type} (data : ρ → ρ) : Fields ρ := ⟨none, none, data⟩

variable {ρ : Type}

namespace Run

variable (run : Run ρ) (binding : Binding)

def requireBinding : Except StoreError Unit := do
  raiseIf (binding.instanceId.any (· ≠ run.instanceId)) .runInstanceMismatch
  raiseIf (binding.revision.any (· ≠ run.revision)) .runRevisionStale

/-- What `transition` writes. -/
def moved (target : Status) (lifecycle : Lifecycle) (fields : Fields ρ) : Run ρ :=
  { run with
    status := target
    lifecycle := lifecycle
    revision := run.revision + 1
    events := fields.events.getD run.events ++ [.stateTransition run.status target]
    moves := run.moves ++ [⟨run.status, target, run.lifecycle, lifecycle⟩]
    data := fields.data run.data }

/-- `transition`, of the record itself. -/
def transition (target : Status) (binding : Binding) (fields : Fields ρ) :
    Except StoreError (Run ρ) := do
  run.requireBinding binding
  raiseIf (run.status.allows target = false) (.invalidRunTransition run.status target)
  let lifecycle := fields.lifecycle.getD target.lifecycle
  raiseIf (run.lifecycle.allows lifecycle = false)
    (.invalidLifecycleTransition run.lifecycle lifecycle)
  return run.moved target lifecycle fields

/-- What `update` writes. -/
def updated (fields : Fields ρ) : Run ρ :=
  match fields.lifecycle with
  | none =>
    { run with
      revision := run.revision + 1
      events := fields.events.getD run.events
      data := fields.data run.data }
  | some target =>
    if run.lifecycle = target then
      { run with
        revision := run.revision + 1
        events := fields.events.getD run.events
        data := fields.data run.data }
    else
      { run with
        lifecycle := target
        revision := run.revision + 1
        events := fields.events.getD (run.events ++ [.lifecycleTransition run.lifecycle target])
        moves := run.moves ++ [⟨run.status, run.status, run.lifecycle, target⟩]
        data := fields.data run.data }

/-- `update`, of the record itself. No caller passes a status. -/
def update (fields : Fields ρ) : Except StoreError (Run ρ) := do
  run.requireBinding binding
  raiseIf (fields.lifecycle.any (fun target => !run.lifecycle.allows target))
    (.invalidLifecycleTransition run.lifecycle (fields.lifecycle.getD run.lifecycle))
  return run.updated fields

/-- A status in which a process was working on the run. -/
def isInFlight : Bool :=
  run.status ∈ [Status.preparing, .prepared, .running, .cancelling, .applying]

/-- What `recover_orphans` writes; `unproven` is the rollback that is recorded for an apply. -/
def orphaned (unproven : ρ → ρ) : Run ρ :=
  { run with
    status := .interrupted
    lifecycle := .interrupted
    revision := run.revision + 1
    events := run.events ++ [.stateTransition run.status .interrupted]
    moves := run.moves ++ [⟨run.status, .interrupted, run.lifecycle, .interrupted⟩]
    data := if run.status = .applying then unproven run.data else run.data }

end Run

/-! ### The store -/

/-- The runs, oldest first. -/
abbrev RunStore (ρ : Type) := List (Run ρ)

namespace RunStore

variable (runs : RunStore ρ)

def get (runId : String) : Option (Run ρ) :=
  runs.find? fun run => run.runId = runId

/-- Change the record with an identity. -/
def modify (runs : RunStore ρ) (runId : String) (change : Run ρ → Except StoreError (Run ρ)) :
    Except StoreError (RunStore ρ) :=
  match runs with
  | [] => .error .unknownRun
  | run :: runs =>
    if run.runId = runId then do
      let changed ← change run
      return changed :: runs
    else do
      let rest ← modify runs runId change
      return run :: rest

def create (runId instanceId : String) (status : Status) (data : ρ) : Option (RunStore ρ) :=
  if runs.any fun run => run.runId = runId then none
  else some (runs ++ [⟨runId, instanceId, status, status.lifecycle, 0, [], [], data⟩])

def recoverOrphans (active : List String) (unproven : ρ → ρ) : RunStore ρ :=
  runs.map fun run =>
    if run.runId ∉ active ∧ run.isInFlight then run.orphaned unproven else run

end RunStore

/-! ### What a store call does -/

namespace Run

variable {run next : Run ρ} {target : Status} {binding : Binding} {fields : Fields ρ}

lemma transition_eq_ok (h : run.transition target binding fields = .ok next) :
    run.status.allows target ∧
      run.lifecycle.allows (fields.lifecycle.getD target.lifecycle) ∧
      next = run.moved target (fields.lifecycle.getD target.lifecycle) fields := by
  simp only [transition, eq_ok_iff, Bool.not_eq_false] at h
  exact ⟨h.2.1, h.2.2.1, h.2.2.2.symm⟩

lemma update_eq_ok (h : run.update binding fields = .ok next) :
    (∀ l, fields.lifecycle = some l → run.lifecycle.allows l) ∧ next = run.updated fields := by
  simp only [update, eq_ok_iff] at h
  refine ⟨fun l hl => ?_, h.2.2.symm⟩
  have hallowed := h.2.1
  rw [hl] at hallowed
  simpa using hallowed

end Run

namespace RunStore

variable {runs next : RunStore ρ} {runId : String} {change : Run ρ → Except StoreError (Run ρ)}

/-- **One record changes and the others stay.** -/
theorem modify_eq_ok (h : runs.modify runId change = .ok next) :
    ∃ before run changed after, runs = before ++ run :: after ∧ run.runId = runId ∧
      (∀ r ∈ before, r.runId ≠ runId) ∧ change run = .ok changed ∧
      next = before ++ changed :: after := by
  induction runs generalizing next with
  | nil => cases h
  | cons first runs ih =>
    rw [modify] at h
    by_cases hid : first.runId = runId
    · rw [if_pos hid, bind_eq_ok] at h
      obtain ⟨changed, hchange, hnext⟩ := h
      rw [pure_eq_ok] at hnext
      exact ⟨[], first, changed, runs, rfl, hid, by simp, hchange, hnext.symm⟩
    · rw [if_neg hid, bind_eq_ok] at h
      obtain ⟨rest, hrest, hnext⟩ := h
      rw [pure_eq_ok] at hnext
      obtain ⟨before, run, changed, after, hruns, hrun, hbefore, hchange, hrest⟩ := ih hrest
      refine ⟨first :: before, run, changed, after, by rw [hruns]; rfl, hrun, ?_, hchange,
        by rw [← hnext, hrest]; rfl⟩
      rintro r (_ | ⟨_, hr⟩)
      · exact hid
      · exact hbefore r hr

lemma get_eq_some (h : runs.get runId = some run) : run ∈ runs ∧ run.runId = runId :=
  ⟨List.mem_of_find?_eq_some h, by simpa using List.find?_some h⟩

end RunStore

end StatePort.PortableExecution
