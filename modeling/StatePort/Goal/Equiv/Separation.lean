import StatePort.Goal.Equiv.Leases

/-!
# Separation of duties

`Governance` says, state by state, what the transitions of a session have checked: who approved,
what was executed within the approval, who reviewed which commit and who closed. It is an invariant
of every session of a process (`governed_history`), so a closed session has a receipt that binds
an approval, a result and an accepted review of the same plan, commit and tree (`Bound`).

The actors are compared as they are spelled, while the contracts validate their trimmed spelling.
`separation_of_duties_iff` says that the trimmed actors of a closed session are separated exactly if
no two of the compared ones are different spellings of one identifier.
-/

namespace StatePort.Goal

open List

open Daemon (Interpreter Digest)

variable {py : Interpreter}

/-! ### Roles -/

/-- The actors of a session that has been closed. -/
structure Roles where
  (orchestrator proposer implementer reviewer approver closer : PyStr)

namespace Roles

/-- The actors that must differ: whoever approves, reviews and closes from the owners of the work and
from each other. -/
def compared (roles : Roles) : List (PyStr × PyStr) :=
  [(roles.approver, roles.orchestrator), (roles.approver, roles.proposer),
    (roles.approver, roles.implementer), (roles.reviewer, roles.orchestrator),
    (roles.reviewer, roles.proposer), (roles.reviewer, roles.implementer),
    (roles.closer, roles.orchestrator), (roles.closer, roles.proposer),
    (roles.closer, roles.implementer), (roles.approver, roles.reviewer),
    (roles.approver, roles.closer), (roles.reviewer, roles.closer)]

/-- The actors differ when they are read as identifiers by `read`. -/
def Separated (read : PyStr → PyStr) (roles : Roles) : Prop :=
  ∀ pair ∈ roles.compared, read pair.1 ≠ read pair.2

/-- Two of the actors are different spellings of one identifier. -/
def Respelled (roles : Roles) : Prop :=
  ∃ pair ∈ roles.compared, pair.1 ≠ pair.2 ∧ PyStr.strip pair.1 = PyStr.strip pair.2

/-- Actors that are spelled differently are separated unless two spellings are of one identifier. -/
lemma separated_strip_iff {roles : Roles} (h : roles.Separated id) :
    roles.Separated PyStr.strip ↔ ¬ roles.Respelled := by
  constructor
  · rintro hseparated ⟨pair, hpair, _, hsame⟩
    exact hseparated pair hpair hsame
  · intro hrespelled pair hpair hsame
    exact hrespelled ⟨pair, hpair, h pair hpair, hsame⟩

end Roles

def Session.roles? (session : Session) : Option Roles := do
  let approval ← session.approval
  let review ← session.review
  let closure ← session.closure
  return {
    orchestrator := session.profile.val.orchestratorActor
    proposer := session.plan.val.proposedBy
    implementer := session.delegation.val.implementerActor
    reviewer := review.val.reviewerActor
    approver := approval.val.approverActor
    closer := closure.val.decidedBy }

/-- The receipt of a session binds an approval, a result within it and an accepted review of the same
plan, commit and tree. -/
structure Bound (py : Interpreter) (session : Session) (approval : Checked ApprovalRecord)
    (result : Checked ExecutionResult) (review : Checked ReviewRecord)
    (receipt : Checked GoalExecutionReceipt) : Prop where
  hasApproval : session.approval = some approval
  hasResult : session.executionResult = some result
  hasReview : session.review = some review
  hasReceipt : session.receipt = some receipt
  approvalDigest : ∃ digested, digest py approval = .ok digested ∧
    receipt.val.approvalDigest = digested.val
  resultDigest : ∃ digested, digest py result = .ok digested ∧
    receipt.val.executionResultDigest = digested.val
  reviewDigest : ∃ digested, digest py review = .ok digested ∧
    receipt.val.reviewDigest = digested.val
  plan : ∃ digested, digest py session.plan = .ok digested ∧
    approval.val.planDigest = digested.val ∧ result.val.planDigest = digested.val
  commit : review.val.functionalCommit = result.val.functionalCommit
  tree : review.val.functionalTree = result.val.functionalTree
  accepted : review.val.accepted
  within : Within result.val approval.val

/-! ### The invariant -/

/-- What the transitions of a session have checked by now. -/
structure Governance (py : Interpreter) (session : Session) : Prop where
  approved : ∀ approval, session.approval = some approval → Approved py session approval.val
  executed : ∀ result, session.executionResult = some result → Executed py session result.val
  unexecuted : session.state ∈ [.proposalReady, .approved, .executing] →
    session.executionResult = none
  reviewed : session.state ∈ [.reviewed, .closed] → ∀ review, session.review = some review →
    Reviewed session review.val
  closed : session.state = .closed → ∃ closure receipt, session.closure = some closure ∧
    session.receipt = some receipt ∧ Closed py session closure.val receipt.val

namespace Governance

lemma fresh {registry : InstanceApprovalLeaseRegistry} {session : Session}
    (h : Fresh py registry session) : Governance py session := by
  refine ⟨?_, ?_, fun _ => h.result, ?_, ?_⟩
  · intro approval happroval
    cases h.approval.symm.trans happroval
  · intro result hresult
    cases h.result.symm.trans hresult
  · intro hstate
    rw [h.state] at hstate
    simp at hstate
  · intro hstate
    cases h.state.symm.trans hstate

/-- The approval and the result stay good while they and the contracts stay the same. -/
lemma of_same {session after : Session} (h : Governance py session)
    (harguments : after.toSessionArguments = session.toSessionArguments)
    (happroval : after.approval = session.approval)
    (hresult : after.executionResult = session.executionResult)
    (hunexecuted : after.state ∈ [.proposalReady, .approved, .executing] →
      after.executionResult = none)
    (hreviewed : after.state ∈ [.reviewed, .closed] → ∀ review, after.review = some review →
      Reviewed after review.val)
    (hclosed : after.state = .closed → ∃ closure receipt, after.closure = some closure ∧
      after.receipt = some receipt ∧ Closed py after closure.val receipt.val) :
    Governance py after := by
  refine ⟨fun approval ha => ?_, fun result hr => ?_, hunexecuted, hreviewed, hclosed⟩
  · have happroved := h.approved approval (happroval ▸ ha)
    exact ⟨by rw [harguments]; exact happroved.apart, by rw [harguments]; exact happroved.plan⟩
  · have hexecuted := h.executed result (hresult ▸ hr)
    exact ⟨by rw [harguments]; exact hexecuted.plan,
      by rw [harguments]; exact hexecuted.implementer, by rw [happroval]; exact hexecuted.within⟩

/-- **Step lemma.** -/
theorem move {leaks : Prop} {g t : Governed} (h : Governance py g.session)
    (hmove : Move py leaks g t) : Governance py t.session := by
  cases hmove with
  | same => exact h
  | counted lease hready =>
    exact h.of_same rfl rfl rfl h.unexecuted (by simp [hready]) (by simp [hready])
  | leaked lease hlease =>
    have hready : (g.acquired lease).session.state = .proposalReady := hlease.ready
    exact h.of_same rfl rfl rfl h.unexecuted (by simp [hready]) (by simp [hready])
  | granted lease approval hlease happroval =>
    -- Nothing has been executed yet, so no result refers to an earlier approval.
    have hnone : g.session.executionResult = none := h.unexecuted (by simp [hlease.ready])
    refine ⟨fun a ha => ?_, fun r hr => ?_, fun _ => hnone, by simp, by simp⟩
    · cases ha
      exact ⟨happroval.apart, happroval.plan⟩
    · rw [show g.session.executionResult = some r from hr] at hnone
      cases hnone
  | began hstate =>
    exact h.of_same rfl rfl rfl (fun _ => h.unexecuted (by simp [hstate])) (by simp) (by simp)
  | recorded result hstate hresult =>
    refine ⟨fun a ha => ?_, fun r hr => ?_, by simp, by simp, by simp⟩
    · exact ⟨(h.approved a ha).apart, (h.approved a ha).plan⟩
    · cases hr
      exact ⟨hresult.plan, hresult.implementer, hresult.within⟩
  | reviewed review hstate hreview =>
    refine h.of_same rfl rfl rfl (by simp) (fun _ v hv => ?_) (by simp)
    cases hv
    exact ⟨hreview.apart, hreview.approver, hreview.result, hreview.accepted⟩
  | ended review code message hstate =>
    rw [Governed.stopped, session_released]
    exact h.of_same rfl rfl rfl (by simp) (by simp) (by simp)
  | closed closure receipt hstate hclosed =>
    have hreviewed := h.reviewed (by simp [hstate])
    rw [session_released]
    refine h.of_same rfl rfl rfl (by simp) (fun _ v hv => ?_) fun _ => ?_
    · exact ⟨(hreviewed v hv).apart, (hreviewed v hv).approver, (hreviewed v hv).result,
        (hreviewed v hv).accepted⟩
    · exact ⟨closure, receipt, rfl, rfl, ⟨hclosed.bound⟩⟩

end Governance

/-- Every session of a process has been governed so far. -/
def Process.Governed (py : Interpreter) (process : Process) : Prop :=
  ∀ session ∈ process.sessions, Governance py session

lemma governed_next (process : Process) (event : Event) (h : process.Governed py) :
    (process.next py event).Governed py := by
  rcases Process.next_cases py process event with hnext | ⟨session, hfresh, hnext⟩ |
    ⟨i, call, session, t, _, hs, hmove, hnext⟩
  · rwa [hnext]
  · rw [hnext]
    intro other hother
    rcases mem_append.mp hother with hold | hadded
    · exact h other hold
    · rw [mem_singleton.mp hadded]
      exact Governance.fresh hfresh
  · rw [hnext]
    intro other hother
    rcases mem_or_eq_of_mem_set hother with hold | hchanged
    · exact h other hold
    · rw [hchanged]
      exact (h session (mem_of_getElem? hs)).move hmove

/-- **Run lemma.** -/
theorem governed_history (py : Interpreter) (events : List Event) :
    (events.foldl (Process.next py) Process.start).Governed py :=
  Run.invariant (I := Process.Governed py) (fun s e h _ => governed_next s e h)
    (Run.foldl events Process.start) (by simp [Process.Governed, Process.start])

/-! ### Closed sessions -/

structure ClosedSession (py : Interpreter) where
  events : List Event
  index : ℕ
  session : Session
  found : (events.foldl (Process.next py) Process.start).sessions[index]? = some session
  closed : session.state = .closed

namespace ClosedSession

lemma governance (closed : ClosedSession py) : Governance py closed.session :=
  governed_history py closed.events closed.session (mem_of_getElem? closed.found)

/-- The actors of a closed session are spelled differently, and its receipt binds its records. -/
lemma separated_bound (closed : ClosedSession py) :
    (∃ roles, closed.session.roles? = some roles ∧ roles.Separated id) ∧
      ∃ approval result review receipt, Bound py closed.session approval result review receipt := by
  have h := closed.governance
  obtain ⟨closure, receipt, hclosure, hreceipt, ⟨approval, result, review, approvalDigest,
    resultDigest, reviewDigest, happroval, hresult, hreview, hcloser, hbound⟩⟩ :=
    h.closed closed.closed
  have happroved := h.approved approval happroval
  have hexecuted := h.executed result hresult
  have hreviewed := h.reviewed (by simp [closed.closed]) review hreview
  obtain ⟨planDigest, hplan, happrovedPlan⟩ := happroved.plan
  obtain ⟨planDigest', hplan', hexecutedPlan⟩ := hexecuted.plan
  obtain ⟨approval', happroval', hwithin⟩ := hexecuted.within
  obtain ⟨approval'', happroval'', hreviewer⟩ := hreviewed.approver
  obtain ⟨result', hresult', _, hcommit, htree, _⟩ := hreviewed.result
  -- The records that the later checks were about are the ones that the session has.
  rw [hplan] at hplan'
  rw [happroval] at happroval' happroval''
  rw [hresult] at hresult'
  cases hplan'
  cases happroval'
  cases happroval''
  cases hresult'
  constructor
  · refine ⟨_, by simp only [Session.roles?, happroval, hreview, hclosure]; rfl, ?_⟩
    have hapart := happroved.apart
    have hreviewerApart := hreviewed.apart
    simp only [mem_cons, not_mem_nil, or_false, not_or] at hapart hreviewerApart hcloser
    intro pair hpair
    simp only [Roles.compared, mem_cons, not_mem_nil, or_false] at hpair
    rcases hpair with rfl | rfl | rfl | rfl | rfl | rfl | rfl | rfl | rfl | rfl | rfl | rfl
    · exact hapart.1
    · exact hapart.2.1
    · exact hapart.2.2.1
    · exact hreviewerApart.1
    · exact hreviewerApart.2.1
    · exact hreviewerApart.2.2
    · exact hcloser.1
    · exact hcloser.2.1
    · exact hcloser.2.2.1
    · exact Ne.symm hreviewer
    · exact Ne.symm hcloser.2.2.2.2
    · exact Ne.symm hcloser.2.2.2.1
  · obtain ⟨happrovalDigest, hboundApproval, hresultDigest, hboundResult, hreviewDigest,
      hboundReview, _⟩ := hbound
    exact ⟨approval, result, review, receipt,
      ⟨happroval, hresult, hreview, hreceipt, ⟨approvalDigest, happrovalDigest, hboundApproval⟩,
        ⟨resultDigest, hresultDigest, hboundResult⟩, ⟨reviewDigest, hreviewDigest, hboundReview⟩,
        ⟨planDigest, hplan, happrovedPlan, hexecutedPlan⟩, hcommit, htree, hreviewed.accepted,
        hwithin⟩⟩

end ClosedSession

/-- **Separation of duties.** In a closed session whoever approved, reviewed and closed is separated
from the owners of the work and from each other, as identifiers, and the receipt binds an approval, a
result within it and an accepted review of the same plan, commit and tree, exactly if no two of the
compared actors are different spellings of one identifier. -/
theorem separation_of_duties_iff (py : Interpreter) (closed : ClosedSession py) :
    ((∃ roles, closed.session.roles? = some roles ∧ roles.Separated PyStr.strip) ∧
      ∃ approval result review receipt, Bound py closed.session approval result review receipt) ↔
      ∃ roles, closed.session.roles? = some roles ∧ ¬ roles.Respelled := by
  obtain ⟨⟨roles, hroles, hseparated⟩, hbound⟩ := closed.separated_bound
  constructor
  · rintro ⟨⟨other, hother, hstrip⟩, _⟩
    cases hroles.symm.trans hother
    exact ⟨roles, hroles, (Roles.separated_strip_iff hseparated).mp hstrip⟩
  · rintro ⟨other, hother, hrespelled⟩
    cases hroles.symm.trans hother
    exact ⟨⟨roles, hroles, (Roles.separated_strip_iff hseparated).mpr hrespelled⟩, hbound⟩

/-! ### An approver who is the implementer -/

section

open Daemon (plainInterpreter plainDigest)

def plainBegin : BeginExecution where
  actor := "implementer"
  currentBaseCommit := plainSha
  currentBaseTree := plainSha
  currentStateSnapshotDigest := plainDigest.val
  currentOrchestratorProfileDigest := plainDigest.val
  currentPolicyDigest := plainDigest.val
  currentDelegationPlanDigest := plainDigest.val
  actualPermissions := ["read"]
  sideEffectClass := "none"
  currentBudgetCeiling := plainBudget

def plainResult : Checked ExecutionResult :=
  ⟨{ resultId := "r", itemId := "item", planDigest := plainDigest.val,
     implementerActor := "implementer", functionalCommit := plainSha, functionalTree := plainSha,
     testResultDigest := plainDigest.val, contractVersions := ["1"], actualPermissions := ["read"],
     sideEffectClass := "none", usedBudget := plainBudget, testsPassed := true,
     repositoryClean := true }, by decide +kernel⟩

def plainReview : Checked ReviewRecord :=
  ⟨{ reviewId := "r", itemId := "item", reviewerActor := "reviewer", functionalCommit := plainSha,
     functionalTree := plainSha, testResultDigest := plainDigest.val,
     acceptanceContractDigest := plainDigest.val, isolationEvidenceDigest := plainDigest.val,
     contractVersions := ["1"], disposition := "accepted" }, by decide +kernel⟩

def plainIsolation : Checked ReviewWorkspaceIsolation :=
  ⟨{ evidenceId := "e", reviewerActor := "reviewer",
     implementationWorkspaceDigest := plainDigest.val,
     reviewWorkspaceDigest := PyStr.of "sha256:" ++ List.replicate 64 (PyStr.codePoint '1'),
     functionalCommit := plainSha, functionalTree := plainSha }, by decide +kernel⟩

/-- A slice from its proposal to its closure. -/
def closingEvents (approver : PyStr) : List Event :=
  [.new (argumentsOf plainDelegation), .call 0 (.approve (plainApprove approver)),
    .call 0 (.beginExecution plainBegin), .call 0 (.recordExecution plainResult),
    .call 0 (.submitReview plainReview (some plainIsolation)), .call 0 (.close "closer" .absent)]

/-- Whether the slice is closed with duties that are separated. -/
def closesSeparated (approver : PyStr) : Option (GoalExecutionState × Bool) :=
  (((closingEvents approver).foldl (Process.next plainInterpreter) Process.start).sessions[0]?).bind
    fun session => session.roles?.map fun roles => (session.state,
      decide (∀ pair ∈ roles.compared, PyStr.strip pair.1 ≠ PyStr.strip pair.2))

lemma exists_closed {approver : PyStr} {separated : Bool}
    (h : closesSeparated approver = some (.closed, separated)) :
    ∃ closed : ClosedSession plainInterpreter, closed.events = closingEvents approver ∧
      ∃ roles, closed.session.roles? = some roles ∧
        (roles.Separated PyStr.strip ↔ separated) := by
  obtain ⟨session, hs, hmap⟩ := Option.bind_eq_some_iff.mp h
  obtain ⟨roles, hroles, hfields⟩ := Option.map_eq_some_iff.mp hmap
  obtain ⟨hclosed, hseparated⟩ := Prod.mk.inj hfields
  refine ⟨⟨_, 0, session, hs, hclosed⟩, rfl, roles, hroles, ?_⟩
  rw [← hseparated, decide_eq_true_iff]
  rfl

/-- The implementer approves the slice under its name with a blank after it. -/
def respelledEvents : List Event := closingEvents "implementer "

lemma closesSeparated_approvers :
    closesSeparated "implementer " = some (.closed, false) ∧
      closesSeparated "approver" = some (.closed, true) := by
  decide +kernel

/-- The slice is closed, approved by its implementer. -/
theorem respelled_approver_closes :
    ∃ closed : ClosedSession plainInterpreter, closed.events = respelledEvents ∧
      ∃ roles, closed.session.roles? = some roles ∧ ¬ roles.Separated PyStr.strip := by
  obtain ⟨closed, hevents, roles, hroles, hseparated⟩ := exists_closed closesSeparated_approvers.1
  exact ⟨closed, hevents, roles, hroles, by simp [hseparated]⟩

/-- With an approver of its own the duties are separated, and the receipt binds the records. -/
theorem separated_approver_closes :
    ∃ closed : ClosedSession plainInterpreter, closed.events = closingEvents "approver" ∧
      (∃ roles, closed.session.roles? = some roles ∧ roles.Separated PyStr.strip) ∧
      ∃ approval result review receipt,
        Bound plainInterpreter closed.session approval result review receipt := by
  obtain ⟨closed, hevents, roles, hroles, hseparated⟩ := exists_closed closesSeparated_approvers.2
  exact ⟨closed, hevents, ⟨roles, hroles, hseparated.mpr rfl⟩, closed.separated_bound.2⟩

end

end StatePort.Goal
