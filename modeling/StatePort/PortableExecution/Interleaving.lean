import Mathlib.Logic.Function.Basic
import StatePort.PortableExecution.Service

/-!
# `execute` and `cancel` side by side

`execute` and `cancel` of `packages/portable-execution/src/stateport_portable_execution/runtime.py`,
step by step. A call of the store is one step, since the store locks its file; so is a look at
`_active_processes` under its lock. Between two steps of one call any other call may make a step.

One call of `execute` and any number of calls of `cancel` work on one run. `Action` says which call
makes its next step; how the worker ends is part of the action, and so is an exception of what
`execute` computes between two of its steps.
-/

namespace StatePort.PortableExecution

/-- What the result of a worker holds. -/
inductive Result where
  | noProposal | proposal | invalidProposal

/-- How the worker of an `execute` ends. -/
inductive Ending where
  | completed (result : Result)
  | terminated (termination : Termination)
  | raised

/-- The next step of `execute`. -/
inductive Phase where
  | idle
  | preparing (binding : Binding)
  | prepared
  | starting
  | registering
  | working
  | terminating (termination : Termination)
  /-- The updates after a termination that are still to come. -/
  | recordingTermination (remaining : ℕ)
  | leaving
  | completing (result : Result)
  | recordingEvents (result : Result)
  | recordingResult (result : Result)
  | markingCompleted (result : Result)
  | markingValidating (result : Result)
  | proposing
  | rejecting
  | noMutation
  | closing
  | recordingBundle
  | done

/-- The next step of a `cancel`. -/
inductive CancelPhase where
  | idle
  | reading (binding : Binding)
  | looking (binding : Binding)
  /-- The transition to `cancelling`; a process was attached or not. -/
  | moving (binding : Binding) (attached : Bool)
  /-- The transition to `cancelled` when no process was attached. -/
  | detached
  | direct (binding : Binding)
  | recording
  | done

/-- One run, its calls, and whether a process is attached to it. -/
structure Session where
  record : Run Unit
  phase : Phase
  cancels : ℕ → CancelPhase
  isActive : Bool

inductive Action where
  /-- `execute` is called; `passes` tells whether the application is what it was. -/
  | execute (binding : Binding) (passes : Bool)
  /-- The next step of `execute`; `raises` tells whether what it computes first raises. -/
  | advance (raises : Bool)
  /-- The worker's process is recorded. -/
  | observe
  | workerEnds (ending : Ending)
  | cancel (call : ℕ) (binding : Binding)
  /-- The next step of a `cancel`; `written` tells whether its bundle can be written. -/
  | advanceCancel (call : ℕ) (written : Bool)

namespace Session

variable (session : Session)

/-- A transition after which `execute` goes on; a refusal ends it. -/
def move (target : Status) (binding : Binding) (events : Option (List Event))
    (next refused : Phase) : Session :=
  match session.record.transition target binding ⟨none, events, id⟩ with
  | .ok record => { session with record := record, phase := next }
  | .error _ => { session with phase := refused }

/-- An update after which `execute` goes on. -/
def amend (fields : Fields Unit) (next : Phase) : Session :=
  match session.record.update .any fields with
  | .ok record => { session with record := record, phase := next }
  | .error _ => { session with phase := .done }

def afterValidation : Result → Phase
  | .noProposal => .noMutation
  | .proposal => .proposing
  | .invalidProposal => .rejecting

/-- The next step of `execute`, except for the end of its worker. -/
def advance (raises : Bool) : Session :=
  match session.phase with
  | .idle | .working | .done => session
  | .preparing binding => session.move .preparing binding none .prepared .done
  | .prepared => session.move .prepared .any none .starting .done
  | .starting => session.move .running .any none .registering .done
  | .registering =>
    -- "run already has an active process"
    if session.isActive then { session with phase := .done }
    else { session with isActive := true, phase := .working }
  | .terminating termination =>
    session.move termination.status .any (some []) (.recordingTermination 3) .leaving
  | .recordingTermination 0 => { session with phase := .leaving }
  | .recordingTermination (remaining + 1) =>
    -- an exception is caught here, and the termination is raised
    if raises then { session with phase := .leaving }
    else
      { session with
        record := session.record.updated (Fields.of id)
        phase := .recordingTermination remaining }
  | .leaving => { session with isActive := false, phase := .done }
  | .completing result => { session with isActive := false, phase := .recordingEvents result }
  | .recordingEvents result =>
    if raises then { session with phase := .done }
    else session.amend ⟨none, some [], id⟩ (.recordingResult result)
  | .recordingResult result =>
    if raises then { session with phase := .done }
    else session.amend (Fields.of id) (.markingCompleted result)
  | .markingCompleted result => session.move .completed .any none (.markingValidating result) .done
  | .markingValidating result =>
    session.move .resultValidating .any none (afterValidation result) .done
  | .proposing => session.move .stateChangeProposed .any none .recordingBundle .done
  | .rejecting => session.move .resultRejected .any none .recordingBundle .done
  | .noMutation => session.amend ⟨some .noMutation, none, id⟩ .closing
  | .closing => session.amend ⟨some .closed, none, id⟩ .recordingBundle
  | .recordingBundle =>
    if raises then { session with phase := .done }
    else session.amend (Fields.of id) .done

/-- The first step of `execute`. -/
def execute (binding : Binding) (passes : Bool) : Session :=
  match session.phase with
  | .idle =>
    if (session.record.requireBinding binding).isOk ∧ session.record.status = .approved ∧
        passes then
      { session with phase := .preparing binding }
    else { session with phase := .done }
  | _ => session

def workerEnds (ending : Ending) : Session :=
  match session.phase with
  | .working =>
    match ending with
    | .completed result => { session with phase := .completing result }
    | .terminated termination => { session with phase := .terminating termination }
    | .raised => { session with phase := .leaving }
  | _ => session

/-- The worker's process is recorded. -/
def observe : Session :=
  match session.phase with
  | .working => { session with record := session.record.updated (Fields.of id) }
  | _ => session

/-- What a `cancel` does next. -/
def setCancel (call : ℕ) (next : CancelPhase) : Session :=
  { session with cancels := Function.update session.cancels call next }

/-- A transition of a `cancel`; a refusal ends it. -/
def moveCancel (call : ℕ) (target : Status) (binding : Binding) (next : CancelPhase) : Session :=
  match session.record.transition target binding (Fields.of id) with
  | .ok record => { session with record := record }.setCancel call next
  | .error _ => session.setCancel call .done

/-- The first step of `cancel`: what it does depends on the status that it reads. -/
def readStatus (record : Run Unit) (binding : Binding) : CancelPhase :=
  if (record.requireBinding binding).isOk then
    match record.status with
    | .running => .looking binding
    | .cancelling => .recording
    | .awaitingApproval | .approved | .prepared | .interrupted => .direct binding
    | _ => .done
  else .done

/-- The next step of a `cancel`. -/
def advanceCancel (call : ℕ) (written : Bool) : Session :=
  match session.cancels call with
  | .idle | .done => session
  | .reading binding => session.setCancel call (readStatus session.record binding)
  | .looking binding => session.setCancel call (.moving binding session.isActive)
  | .moving binding attached =>
    session.moveCancel call .cancelling binding (if attached then .recording else .detached)
  | .detached => session.moveCancel call .cancelled .any .recording
  | .direct binding => session.moveCancel call .cancelled binding .recording
  | .recording =>
    if written then
      { session with record := session.record.updated (Fields.of id) }.setCancel call .done
    else session.setCancel call .done

/-- A call of `cancel`. -/
def cancel (call : ℕ) (binding : Binding) : Session :=
  match session.cancels call with
  | .idle => session.setCancel call (.reading binding)
  | _ => session

def step : Action → Session
  | .execute binding passes => session.execute binding passes
  | .advance raises => session.advance raises
  | .observe => session.observe
  | .workerEnds ending => session.workerEnds ending
  | .cancel call binding => session.cancel call binding
  | .advanceCancel call written => session.advanceCancel call written

end Session

end StatePort.PortableExecution
