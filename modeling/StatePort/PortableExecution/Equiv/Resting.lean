import StatePort.PortableExecution.Interleaving

/-!
# No run is left half way

A status is *half way* if `execute` or `cancel` is expected to move the run on. `Phase.covers` says
which half-way statuses a phase of `execute` will still move; a run that is `cancelling` is also in
good hands while a `cancel` that found no process has its second transition before it.

* `covered_step`: a steady step keeps the run covered.
* `resting_of_steady`: after steady steps, when no call is under way, the run is not half way.

A step is steady (`Session.Steady`) unless the worker of a run that is being cancelled ends in
another way than by being cancelled, `execute` leaves with an exception while the run is `running`,
or a `cancel` marks the run after its worker has ended. In each of these cases the status table or
the lifecycle table refuses the transition that would have moved the run on.
-/

namespace StatePort.PortableExecution

variable {target : Status} {events : Option (List Event)} {next : CancelPhase}

/-- A status in which some call has still to move the run. -/
def Status.isHalfWay : Status → Bool
  | .preparing | .prepared | .running | .cancelling => true
  | _ => false

/-- A status in which the lifecycle state is the one of the status. -/
def Status.isTracked : Status → Bool
  | .approved | .preparing | .prepared | .running | .cancelling => true
  | _ => false

/-- The status will be moved on from this phase of `execute`. -/
def Phase.covers (phase : Phase) : Status → Bool
  | .preparing => match phase with
    | .prepared => true
    | _ => false
  | .prepared => match phase with
    | .starting => true
    | _ => false
  | .running => match phase with
    | .registering | .working | .terminating _ | .completing _ | .recordingEvents _
    | .recordingResult _ | .markingCompleted _ => true
    | _ => false
  | .cancelling => match phase with
    | .working | .terminating .cancelled => true
    | _ => false
  | _ => true

/-- A process may be attached in this phase of `execute`. -/
def Phase.isAttached : Phase → Bool
  | .working | .terminating _ | .recordingTermination _ | .leaving | .completing _ => true
  | _ => false

/-- `execute` has found the run `running` after its worker had ended. -/
def Phase.isPast : Phase → Bool
  | .markingValidating _ | .proposing | .rejecting | .noMutation | .closing => true
  | _ => false

/-- A status that only `execute` leaves. -/
def Status.isValidated : Status → Bool
  | .completed | .resultValidating => true
  | _ => false

/-- Both tables allow the transition, from the lifecycle state of the status. -/
def Status.leadsTo (status target : Status) : Bool :=
  status.isTracked && status.allows target && status.lifecycle.allows target.lifecycle

namespace Session

/-- A `cancel` that found no process has its second transition before it. -/
def IsDetached (s : Session) : Prop := ∃ call, s.cancels call = .detached

/-- The status will be moved on. -/
def IsTended (s : Session) : Prop :=
  s.phase.covers s.record.status ∨ s.record.status = .cancelling ∧ s.IsDetached

/-- Whatever is half way will be moved on. -/
structure Covered (session : Session) : Prop where
  tracked : session.record.status.isTracked →
    session.record.lifecycle = session.record.status.lifecycle
  tended : session.IsTended
  attached : session.isActive → session.phase.isAttached
  past : session.phase.isPast → session.record.status.isValidated

/-- The condition under which a step keeps the run covered. -/
def Steady (s : Session) : Action → Prop
  | .workerEnds ending =>
    ending ≠ .raised ∧ (s.record.status = .cancelling → ending = .terminated .cancelled)
  | .advance raises => raises → s.record.status ≠ .running
  | .advanceCancel call _ =>
    ∀ binding, s.cancels call = .moving binding true → s.phase = .working
  | _ => True

/-- No call is under way. -/
structure IsQuiet (session : Session) : Prop where
  execute : session.phase = .idle ∨ session.phase = .done
  cancels : ∀ call, session.cancels call = .idle ∨ session.cancels call = .done

variable {s : Session}

/-! ### Transitions -/

section

variable (h : s.Covered)
include h

/-- A transition that both tables allow is not refused. -/
lemma Covered.exists_transition {fields : Fields Unit}
    (hfields : fields.lifecycle = none) (hleads : s.record.status.leadsTo target) :
    ∃ record, s.record.transition target .any fields = .ok record := by
  refine ⟨s.record.moved target target.lifecycle fields, ?_⟩
  simp only [Status.leadsTo, Bool.and_eq_true] at hleads
  obtain ⟨⟨htracked, hstatus⟩, hlifecycle⟩ := hleads
  rw [← h.tracked htracked] at hlifecycle
  simp [Run.transition, Run.requireBinding, Binding.any, raiseIf, hfields, hstatus, hlifecycle,
    bind, Except.bind, pure, Except.pure]

/-- A transition of `execute` to a status that the next phase covers. If it is refused, the status
was one at which `execute` may stop. -/
lemma Covered.move {binding : Binding} {next refused : Phase}
    (hnext : next.covers target)
    (hattached : s.phase.isAttached → next.isAttached ∧ refused.isAttached)
    (hpast : next.isPast → target.isValidated) (hpast' : refused.isPast = false)
    (hrefused : s.phase.covers s.record.status →
      refused.covers s.record.status ∨
      ∃ record, s.record.transition target binding ⟨none, events, id⟩ = .ok record) :
    (s.move target binding events next refused).Covered := by
  unfold Session.move
  cases hmoved : s.record.transition target binding ⟨none, events, id⟩ with
  | ok record =>
    obtain ⟨-, -, rfl⟩ := Run.transition_eq_ok hmoved
    exact ⟨fun _ => rfl, .inl hnext, fun ha => (hattached (h.attached ha)).1, hpast⟩
  | error e =>
    refine ⟨h.tracked, ?_, fun ha => (hattached (h.attached ha)).2, by simp [hpast']⟩
    rcases h.tended with hcovers | hdetached
    · rcases hrefused hcovers with hrests | ⟨record, hok⟩
      · exact .inl hrests
      · cases hmoved.symm.trans hok
    · exact .inr hdetached

/-- The same with conditions on the two phases and the target alone. -/
lemma Covered.move_any {phase next refused : Phase}
    (hphase : s.phase = phase) (hnext : next.covers target)
    (hattached : phase.isAttached → next.isAttached ∧ refused.isAttached)
    (hpast : next.isPast → target.isValidated) (hpast' : refused.isPast = false)
    (hrefused : ∀ status, phase.covers status → refused.covers status ∨
      status.leadsTo target) :
    (s.move target .any events next refused).Covered := by
  subst hphase
  refine h.move hnext hattached hpast hpast' fun hcovers => ?_
  rcases hrefused _ hcovers with hrests | hleads
  · exact .inl hrests
  · exact .inr (h.exists_transition rfl hleads)

/-- An update of `execute` that leaves the lifecycle state. -/
lemma Covered.record : { s with record := s.record.updated ⟨none, events, id⟩ }.Covered :=
  ⟨h.tracked, h.tended, h.attached, h.past⟩

/-- `execute` goes on without a transition, to a phase that covers the same statuses. -/
lemma Covered.goto {phase next : Phase} {isActive : Bool}
    (hphase : s.phase = phase)
    (hcovers : phase.covers s.record.status → next.covers s.record.status)
    (hattached : isActive → next.isAttached) (hpast : next.isPast = false) :
    { s with isActive := isActive, phase := next }.Covered :=
  ⟨h.tracked, h.tended.imp_left (hphase ▸ hcovers), hattached, by simp [hpast]⟩

lemma Covered.not_isActive (hphase : s.phase.isAttached = false) : s.isActive ≠ true := by
  intro ha
  have hattached := h.attached ha
  cases hphase.symm.trans hattached

/-- A step of `execute` that computes something and stores it, without a transition: an exception
ends `execute`, and the run is not `running` then. -/
lemma Covered.amend {phase next : Phase} {raises : Bool}
    (hsteady : s.Steady (.advance raises)) (hphase : s.phase = phase)
    (hattached : phase.isAttached = false) (hpast : next.isPast = false)
    (hcovers : ∀ status, phase.covers status → next.covers status ∧
      (status = .running ∨ Phase.done.covers status)) :
    (if raises then { s with phase := .done }
      else s.amend ⟨none, events, id⟩ next).Covered := by
  have hidle := h.not_isActive (hphase ▸ hattached)
  split_ifs with hraises
  · exact h.goto hphase (fun hc => (hcovers _ hc).2.resolve_left (hsteady hraises))
      (fun ha => absurd ha hidle) rfl
  · exact h.record.goto hphase (fun hc => (hcovers _ hc).1) (fun ha => absurd ha hidle) hpast

/-- An update of the lifecycle state of a validated run. -/
lemma Covered.amend_lifecycle {target : Lifecycle} {next : Phase}
    (hpast : s.phase.isPast) (hattached : s.phase.isAttached = false) :
    (s.amend ⟨some target, none, id⟩ next).Covered := by
  have hidle := h.not_isActive hattached
  have hvalidated := h.past hpast
  have huntracked : s.record.status.isTracked = false := by
    revert hvalidated
    cases s.record.status <;> simp [Status.isValidated, Status.isTracked]
  have hrests : ∀ phase : Phase, phase.covers s.record.status := by
    intro phase
    revert hvalidated
    cases s.record.status <;> simp [Status.isValidated, Phase.covers]
  unfold Session.amend
  cases hupdate : s.record.update .any ⟨some target, none, id⟩ with
  | error e => exact ⟨h.tracked, .inl (hrests _), fun ha => absurd ha hidle, fun _ => hvalidated⟩
  | ok record =>
    obtain ⟨-, rfl⟩ := Run.update_eq_ok hupdate
    have hstatus : (s.record.updated ⟨some target, none, id⟩).status = s.record.status := by
      unfold Run.updated
      dsimp only
      split_ifs <;> rfl
    refine ⟨?_, .inl ?_, fun ha => absurd ha hidle, fun _ => ?_⟩
    · show (s.record.updated ⟨some target, none, id⟩).status.isTracked → _
      rw [hstatus, huntracked]
      simp
    · show next.covers (s.record.updated ⟨some target, none, id⟩).status
      rw [hstatus]
      exact hrests next
    · show (s.record.updated ⟨some target, none, id⟩).status.isValidated
      rw [hstatus]
      exact hvalidated

/-! ### The steps of `execute` -/

/-- A step of `execute` keeps the run covered unless it raises while the run is `running`. -/
lemma covered_advance (raises : Bool)
    (hsteady : s.Steady (.advance raises)) : (s.advance raises).Covered := by
  unfold Session.advance
  cases hphase : s.phase with
  | idle | working | done => exact h
  | preparing binding =>
    refine h.move rfl (by simp [hphase, Phase.isAttached]) (by simp [Phase.isPast]) rfl ?_
    rw [hphase]
    intro hcovers
    left
    revert hcovers
    cases s.record.status <;> simp [Phase.covers]
  | prepared | starting =>
    exact h.move_any hphase rfl (by decide) (by decide) rfl (by intro t; cases t <;> decide)
  | registering =>
    rw [if_neg (h.not_isActive (by rw [hphase]; rfl))]
    exact h.goto hphase (by cases s.record.status <;> decide) (fun _ => rfl) rfl
  | terminating termination =>
    cases termination <;>
      exact h.move_any hphase rfl (by decide) (by decide) rfl (by intro t; cases t <;> decide)
  | recordingTermination remaining =>
    have hcovers (next : Phase) (hc : (Phase.recordingTermination remaining).covers
        s.record.status) : next.covers s.record.status := by
      revert hc
      cases s.record.status <;> simp [Phase.covers]
    cases remaining with
    | zero => exact h.goto hphase (hcovers _) (fun _ => rfl) rfl
    | succ remaining =>
      dsimp only
      split_ifs
      · exact h.goto hphase (hcovers _) (fun _ => rfl) rfl
      · exact h.record.goto hphase (hcovers _) (fun _ => rfl) rfl
  | leaving => exact h.goto hphase (by cases s.record.status <;> decide) nofun rfl
  | completing result =>
    exact h.goto hphase (by cases s.record.status <;> simp [Phase.covers]) nofun rfl
  | recordingEvents result | recordingResult result =>
    exact h.amend hsteady hphase rfl rfl (by intro t; cases t <;> simp [Phase.covers])
  | markingCompleted result =>
    exact h.move_any hphase rfl (by simp [Phase.isAttached]) (by simp [Status.isValidated]) rfl
      (by intro t; cases t <;> simp [Phase.covers]; decide)
  | markingValidating result =>
    have hnext : (afterValidation result).covers .resultValidating := by
      cases result <;> rfl
    exact h.move_any hphase hnext (by simp [Phase.isAttached]) (by simp [Status.isValidated]) rfl
      (by intro t; cases t <;> simp [Phase.covers])
  | proposing | rejecting =>
    exact h.move_any hphase rfl (by decide) (by decide) rfl (by intro t; cases t <;> decide)
  | noMutation | closing => exact h.amend_lifecycle (by rw [hphase]; rfl) (by rw [hphase]; rfl)
  | recordingBundle =>
    exact h.amend hsteady hphase rfl rfl (by intro t; cases t <;> simp [Phase.covers])

lemma covered_workerEnds (ending : Ending)
    (hsteady : s.Steady (.workerEnds ending)) : (s.workerEnds ending).Covered := by
  unfold Session.workerEnds
  split
  case h_1 hphase =>
    obtain ⟨hraised, hcancelling⟩ := hsteady
    cases ending with
    | raised => exact absurd rfl hraised
    | completed result =>
      refine h.goto hphase ?_ (fun _ => rfl) rfl
      cases hstatus : s.record.status <;> simp [Phase.covers]
      cases hcancelling hstatus
    | terminated termination =>
      refine h.goto hphase ?_ (fun _ => rfl) rfl
      cases hstatus : s.record.status <;> simp [Phase.covers]
      cases hcancelling hstatus
      rfl
  case h_2 => exact h

lemma covered_execute (binding : Binding) (passes : Bool) :
    (s.execute binding passes).Covered := by
  unfold Session.execute
  split
  case h_1 hphase =>
    have hidle := h.not_isActive (by rw [hphase]; rfl)
    have hcovers (next : Phase) (hc : Phase.idle.covers s.record.status) :
        next.covers s.record.status := by
      revert hc
      cases s.record.status <;> simp [Phase.covers]
    split_ifs
    · exact h.goto hphase (hcovers _) (fun ha => absurd ha hidle) rfl
    · exact h.goto hphase (hcovers _) (fun ha => absurd ha hidle) rfl
  case h_2 => exact h

lemma covered_observe : s.observe.Covered := by
  unfold Session.observe
  split
  · exact h.record
  · exact h

end

/-! ### The steps of `cancel` -/

/-- Another `cancel` keeps its second transition before it. -/
lemma IsDetached.setCancel (h : s.IsDetached) {call : ℕ}
    (hcall : s.cancels call ≠ .detached) : (s.setCancel call next).IsDetached := by
  obtain ⟨other, hother⟩ := h
  refine ⟨other, ?_⟩
  have hne : other ≠ call := by
    rintro rfl
    exact hcall hother
  show Function.update s.cancels call next other = .detached
  rw [Function.update_of_ne hne]
  exact hother

/-- A step of a `cancel` that is not its second transition. -/
lemma Covered.setCancel (h : s.Covered) {call : ℕ}
    (hcall : s.cancels call ≠ .detached) : (s.setCancel call next).Covered :=
  ⟨h.tracked, h.tended.imp_right (.imp_right (·.setCancel hcall)), h.attached, h.past⟩

/-- A status that `cancel` moves on is not one that only `execute` leaves. -/
lemma not_isValidated_of_allows {status : Status} (h : status.allows target)
    (htarget : target = .cancelling ∨ target = .cancelled) : status.isValidated = false := by
  rcases htarget with rfl | rfl <;> revert h <;> cases status <;> decide

/-- A transition of a `cancel`. If it is refused, the `cancel` was not needed. -/
lemma Covered.moveCancel (h : s.Covered) {call : ℕ} {binding : Binding}
    (htarget : target = .cancelling ∨ target = .cancelled)
    (hnext : target = .cancelling → next = .detached ∨ s.phase = .working)
    (hcall : s.cancels call = .detached → binding = .any ∧ target = .cancelled) :
    (s.moveCancel call target binding next).Covered := by
  unfold Session.moveCancel
  cases hmoved : s.record.transition target binding (Fields.of id) with
  | ok record =>
    obtain ⟨hallows, -, rfl⟩ := Run.transition_eq_ok hmoved
    refine ⟨fun _ => rfl, ?_, h.attached, fun hpast => ?_⟩
    · rcases htarget with rfl | rfl
      · rcases hnext rfl with rfl | hworking
        · exact .inr ⟨rfl, call, Function.update_self ..⟩
        · left
          show s.phase.covers .cancelling
          rw [hworking]
          rfl
      · exact .inl rfl
    · have hvalidated := h.past hpast
      rw [not_isValidated_of_allows hallows htarget] at hvalidated
      cases hvalidated
  | error e =>
    by_cases hdetached : s.cancels call = .detached
    · refine ⟨h.tracked, .inl ?_, h.attached, h.past⟩
      rcases h.tended with hcovers | ⟨hstatus, -⟩
      · exact hcovers
      · -- both tables allow the second transition
        obtain ⟨rfl, rfl⟩ := hcall hdetached
        have hleads : s.record.status.leadsTo .cancelled := by
          rw [hstatus]
          rfl
        obtain ⟨record, hok⟩ : ∃ record, s.record.transition .cancelled .any (Fields.of id) =
            .ok record := h.exists_transition rfl hleads
        cases hmoved.symm.trans hok
    · exact h.setCancel hdetached

lemma covered_advanceCancel (h : s.Covered) (call : ℕ) (written : Bool)
    (hsteady : s.Steady (.advanceCancel call written)) :
    (s.advanceCancel call written).Covered := by
  unfold Session.advanceCancel
  cases hcall : s.cancels call with
  | idle | done => exact h
  | reading binding | looking binding => exact h.setCancel (by simp [hcall])
  | moving binding attached =>
    refine h.moveCancel (.inl rfl) (fun _ => ?_) (by simp [hcall])
    cases attached with
    | true => exact .inr (hsteady binding hcall)
    | false => exact .inl rfl
  | detached => exact h.moveCancel (.inr rfl) (by simp) (fun _ => ⟨rfl, rfl⟩)
  | direct binding => exact h.moveCancel (.inr rfl) (by simp) (by simp [hcall])
  | recording =>
    dsimp only
    split_ifs
    · exact h.record.setCancel (by simp [hcall])
    · exact h.setCancel (by simp [hcall])

lemma covered_cancel (h : s.Covered) (call : ℕ) (binding : Binding) :
    (s.cancel call binding).Covered := by
  unfold Session.cancel
  split
  case h_1 hcall => exact h.setCancel (by simp [hcall])
  case h_2 => exact h

/-- **A steady step keeps the run covered.** -/
theorem covered_step (s : Session) (action : Action) (h : s.Covered)
    (hsteady : s.Steady action) : (s.step action).Covered := by
  cases action with
  | execute binding passes => exact covered_execute h binding passes
  | advance raises => exact covered_advance h raises hsteady
  | observe => exact covered_observe h
  | workerEnds ending => exact covered_workerEnds h ending hsteady
  | cancel call binding => exact covered_cancel h call binding
  | advanceCancel call written => exact covered_advanceCancel h call written hsteady

/-! ### Whole schedules -/

/-- A session in which nothing has been called. -/
def ofRun (record : Run Unit) : Session := ⟨record, .idle, fun _ => .idle, false⟩

/-- When no call is under way, a covered run is not half way. -/
lemma Covered.not_isHalfWay (h : s.Covered) (hquiet : s.IsQuiet) :
    s.record.status.isHalfWay = false := by
  rcases h.tended with hcovers | ⟨-, call, hcall⟩
  · revert hcovers
    rcases hquiet.execute with hphase | hphase <;> rw [hphase] <;> cases s.record.status <;> decide
  · rcases hquiet.cancels call with hidle | hdone
    · cases hidle.symm.trans hcall
    · cases hdone.symm.trans hcall

/-- **No run is left half way** by steady steps of one `execute` and any number of `cancel`. -/
theorem resting_of_steady (record : Run Unit) (actions : List Action)
    (hrests : record.status.isHalfWay = false)
    (happroved : record.status = .approved → record.lifecycle = .approved)
    (hsteady : Run.Along step Steady (ofRun record) actions)
    (hquiet : (actions.foldl step (ofRun record)).IsQuiet) :
    (actions.foldl step (ofRun record)).record.status.isHalfWay = false := by
  have hstart : (ofRun record).Covered := by
    refine ⟨fun htracked => ?_, .inl ?_, by simp [ofRun], by simp [ofRun, Phase.isPast]⟩
    · show record.lifecycle = record.status.lifecycle
      cases hstatus : record.status <;>
        simp_all [Status.isHalfWay, Status.isTracked, ofRun, Status.lifecycle]
    · show Phase.idle.covers record.status
      revert hrests
      cases record.status <;> decide
  exact ((Run.along hsteady).invariant covered_step hstart).not_isHalfWay hquiet

/-- A run that may be executed. -/
def readyRun : Run Unit := ⟨"run", "instance", .approved, .approved, 2, [], [], ()⟩

/-- `execute` up to its worker, and a `cancel` that finds the process and marks the run. -/
def cancelWhileWorking : List Action :=
  [.execute .any true, .advance false, .advance false, .advance false, .advance false, .observe,
    .cancel 0 .any, .advanceCancel 0 true, .advanceCancel 0 true, .advanceCancel 0 true,
    .advanceCancel 0 true]

def stopWorker : List Action :=
  [.workerEnds (.terminated .cancelled), .advance false, .advance false, .advance false,
    .advance false, .advance false, .advance false]

def finishWorker : List Action :=
  [.workerEnds (.completed .noProposal), .advance false, .advance false, .advance false,
    .advance false]

/-- A worker that is stopped leaves the run `cancelled`. -/
theorem resting_of_stopWorker :
    ((cancelWhileWorking ++ stopWorker).foldl step (ofRun readyRun)).record.status.isHalfWay =
      false := by
  refine resting_of_steady readyRun (cancelWhileWorking ++ stopWorker) rfl (fun _ => rfl) ?_ ?_
  · -- the `cancel` marks the run while its worker is working
    exact ⟨trivial, nofun, nofun, nofun, nofun, trivial, trivial, fun _ _ => rfl, fun _ _ => rfl,
      fun _ _ => rfl, fun _ _ => rfl, ⟨nofun, fun _ => rfl⟩, nofun, nofun, nofun, nofun, nofun,
      nofun, trivial⟩
  · refine ⟨.inr rfl, fun call => ?_⟩
    cases call with
    | zero => exact .inr rfl
    | succ call => exact .inl rfl

/-- The worker has a result after the run was marked, `completed` is refused, and the run stays
`cancelling` with no call under way. -/
theorem completion_leaves_cancelling :
    ((cancelWhileWorking ++ finishWorker).foldl step (ofRun readyRun)).IsQuiet ∧
      ((cancelWhileWorking ++ finishWorker).foldl step (ofRun readyRun)).record.status =
        .cancelling := by
  refine ⟨⟨.inr rfl, fun call => ?_⟩, rfl⟩
  cases call with
  | zero => exact .inr rfl
  | succ call => exact .inl rfl

end Session

end StatePort.PortableExecution
