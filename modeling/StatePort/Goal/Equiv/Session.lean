import StatePort.Algorithm.Trace
import StatePort.Goal.Session

/-!
# What the methods of a session do

`Move` lists the ways in which a method can change the registry and its session, with what it has
checked by then; `move_method` says that there is no other way. Everything else about sessions is
derived from it.

Two moves are not what the protocol is about. An approval whose record is refused has used up a
generation (`counted`). An approval whose delegation plan has no digest leaves a session that is
still `proposal_ready` with the active lease of its instance (`leaked`).
-/

namespace StatePort.Goal

open InstanceApprovalLeaseRegistry

open Daemon (Interpreter Digest)
open Effect

variable {py : Interpreter} {leaks : Prop} {g : Governed} {session : Session}

/-! ### Moves -/

variable (py session) in
/-- What `approve` has checked about the approval that it records. -/
structure Approved (approval : ApprovalRecord) : Prop where
  apart : approval.approverActor ∉ [session.profile.val.orchestratorActor,
    session.plan.val.proposedBy, session.delegation.val.implementerActor,
    session.delegation.val.reviewerActor]
  plan : ∃ planDigest, digest py session.plan = .ok planDigest ∧
    approval.planDigest = planDigest.val

/-- The result of an execution stays within an approval. -/
structure Within (result : ExecutionResult) (approval : ApprovalRecord) : Prop where
  permissions : result.actualPermissions ⊆ approval.approvedPermissions
  observed : result.externalSideEffectsObserved = false
  sideEffectClass : result.sideEffectClass = approval.approvedSideEffectClass
  budget : result.usedBudget.fitsWithin approval.approvedBudget

variable (py session) in
/-- What `record_execution` has checked about the result that it records. -/
structure Executed (result : ExecutionResult) : Prop where
  plan : ∃ planDigest, digest py session.plan = .ok planDigest ∧ result.planDigest = planDigest.val
  implementer : result.implementerActor = session.delegation.val.implementerActor
  within : ∃ approval, session.approval = some approval ∧ Within result approval.val

/-- What `submit_review` has checked about the review that it accepts. -/
structure Reviewed (session : Session) (review : ReviewRecord) : Prop where
  apart : review.reviewerActor ∉ [session.profile.val.orchestratorActor,
    session.plan.val.proposedBy, session.delegation.val.implementerActor]
  approver : ∃ approval, session.approval = some approval ∧
    review.reviewerActor ≠ approval.val.approverActor
  result : ∃ result, session.executionResult = some result ∧
    review.itemId = result.val.itemId ∧
    review.functionalCommit = result.val.functionalCommit ∧
    review.functionalTree = result.val.functionalTree ∧
    review.testResultDigest = result.val.testResultDigest
  accepted : review.accepted

variable (py session) in
/-- The documents of a closure, and what `close` has checked about who closes. -/
structure Closed (closure : ClosureDecision) (receipt : GoalExecutionReceipt) : Prop where
  bound : ∃ approval result review approvalDigest resultDigest reviewDigest,
    session.approval = some approval ∧ session.executionResult = some result ∧
    session.review = some review ∧
    closure.decidedBy ∉ [session.profile.val.orchestratorActor, session.plan.val.proposedBy,
      session.delegation.val.implementerActor, review.val.reviewerActor,
      approval.val.approverActor] ∧
    digest py approval = .ok approvalDigest ∧ receipt.approvalDigest = approvalDigest.val ∧
    digest py result = .ok resultDigest ∧ receipt.executionResultDigest = resultDigest.val ∧
    digest py review = .ok reviewDigest ∧ receipt.reviewDigest = reviewDigest.val ∧
    closure.functionalCommit = result.val.functionalCommit ∧
    closure.functionalTree = result.val.functionalTree

namespace Governed

variable (lease : InstanceApprovalLease)

section

variable (g)

/-- The lease of a session is acquired: the next generation of its instance, owned by the
session. -/
def acquired : Governed where
  registry := (g.registry.nextGeneration g.session.key).activate lease g.session.leaseOwner
  session := { g.session with instanceLease := some lease }

/-- `approve` may acquire `lease`. -/
structure Acquires : Prop where
  ready : g.session.state = .proposalReady
  free : g.registry.active g.session.key = none
  key : lease.key = g.session.key
  generation : lease.generation = g.registry.generations g.session.key + 1

end

end Governed

/-- The ways in which a method changes the registry and its session; a lease is leaked only if
`leaks` holds. -/
inductive Move (py : Interpreter) (leaks : Prop) (g : Governed) : Governed → Prop
  | same : Move py leaks g g
  | counted (lease : Option InstanceApprovalLease) (hready : g.session.state = .proposalReady)
      (hlease : lease = none ∨ lease = g.session.instanceLease) :
      Move py leaks g
        { registry := g.registry.nextGeneration g.session.key
          session := { g.session with instanceLease := lease } }
  | leaked (lease : InstanceApprovalLease) (hlease : g.Acquires lease) (hleaks : leaks) :
      Move py leaks g (g.acquired lease)
  | granted (lease : InstanceApprovalLease) (approval : Checked ApprovalRecord)
      (hlease : g.Acquires lease) (happroval : Approved py g.session approval.val) :
      Move py leaks g { g.acquired lease with
        session := { (g.acquired lease).session with
          approval := some approval, state := .approved } }
  | began (hstate : g.session.state = .approved) :
      Move py leaks g { g with session := { g.session with state := .executing } }
  | recorded (result : Checked ExecutionResult) (hstate : g.session.state = .executing)
      (hresult : Executed py g.session result.val) :
      Move py leaks g { g with session :=
        { g.session with executionResult := some result, state := .awaitingReview } }
  | reviewed (review : Checked ReviewRecord) (hstate : g.session.state = .awaitingReview)
      (hreview : Reviewed g.session review.val) :
      Move py leaks g { g with session := { g.session with review := some review, state := .reviewed } }
  | ended (review : Option (Checked ReviewRecord)) (code message : PyStr)
      (hstate : g.session.state.isTerminal = false) :
      Move py leaks g (Governed.stopped { g with session := { g.session with review } } code message)
  | closed (closure : Checked ClosureDecision) (receipt : Checked GoalExecutionReceipt)
      (hstate : g.session.state = .reviewed)
      (hclosed : Closed py g.session closure.val receipt.val) :
      Move py leaks g (Governed.released { g with session :=
        { g.session with closure := some closure, receipt := some receipt, state := .closed } })

/-! ### Steps that check -/

/-- The exception leaves a move of `g`. -/
abbrev Moved (py : Interpreter) (leaks : Prop) (g : Governed) : Raised → Governed → Prop := fun _ t => Move py leaks g t

lemma triple_refuse {α : Type} {Q : α → Governed → Prop} (code message : PyStr)
    (terminal : Bool) : Triple (· = g) (refuse code message terminal) Q (Moved py leaks g) := by
  rintro t rfl
  show Move py leaks t (if terminal && !t.session.state.isTerminal then t.stopped code message else t)
  by_cases h : (terminal && !t.session.state.isTerminal)
  · rw [if_pos h]
    have hstate : t.session.state.isTerminal = false := by simp_all
    exact Move.ended t.session.review code message hstate
  · rw [if_neg h]
    exact Move.same

lemma refuseIf_pos {c : Prop} [Decidable c] (hc : c) (code message : PyStr) (terminal : Bool) :
    refuseIf c code message terminal = refuse code message terminal := if_pos hc

lemma refuseIf_neg {c : Prop} [Decidable c] (hc : ¬ c) (code message : PyStr) (terminal : Bool) :
    refuseIf c code message terminal = pure ⟨⟩ := if_neg hc

lemma triple_refuseIf {c : Prop} [Decidable c] (code message : PyStr) (terminal : Bool) :
    Triple (· = g) (refuseIf c code message terminal) (fun _ t => ¬ c ∧ t = g) (Moved py leaks g) := by
  by_cases hc : c
  · rw [refuseIf_pos hc]
    exact triple_refuse code message terminal
  · rw [refuseIf_neg hc]
    exact .pure fun t ht => ⟨hc, ht⟩

section

variable {α : Type} {Q : α → Governed → Prop}

lemma bind_self {f : Session → Method α} (h : Triple (· = g) (f g.session) Q (Moved py leaks g)) :
    Triple (· = g) (self >>= f) Q (Moved py leaks g) := by
  rintro t rfl
  exact h t rfl

lemma bind_refuseIf {c : Prop} [Decidable c] {code message : PyStr} {terminal : Bool}
    {f : PUnit → Method α} (h : ¬ c → Triple (· = g) (f ⟨⟩) Q (Moved py leaks g)) :
    Triple (· = g) (refuseIf c code message terminal >>= f) Q (Moved py leaks g) :=
  .bind_of (triple_refuseIf code message terminal) fun _ => h

end

lemma triple_lift {α : Type} (x : Except Raised α) :
    Triple (· = g) (Effect.lift x) (fun a t => x = .ok a ∧ t = g) (Moved py leaks g) := by
  rintro t rfl
  cases x with
  | ok a => exact ⟨rfl, rfl⟩
  | error e => exact Move.same

lemma triple_required {α : Type} (field : Option α) :
    Triple (· = g) (required field) (fun a t => field = some a ∧ t = g) (Moved py leaks g) := by
  cases field with
  | some a => exact .pure fun t ht => ⟨rfl, ht⟩
  | none =>
    refine .raise fun t ht => ?_
    rw [ht]
    exact Move.same

lemma triple_expect (expected : GoalExecutionState) :
    Triple (· = g) (expect expected) (fun _ t => g.session.state = expected ∧ t = g)
      (Moved py leaks g) := by
  refine bind_self ?_
  refine .mono_post (triple_refuseIf _ _ _) (fun _ t h => ?_) fun _ _ h => h
  exact ⟨not_not.mp h.1, h.2⟩

lemma triple_requireInstanceLease :
    Triple (· = g) requireInstanceLease
      (fun lease t => g.session.instanceLease = some lease ∧ t = g) (Moved py leaks g) := by
  rintro t rfl
  unfold requireInstanceLease
  cases hlease : t.session.instanceLease with
  | none => exact triple_refuse _ _ _ t rfl
  | some lease =>
    by_cases hactive : t.registry.isActive lease t.session.leaseOwner
    · simp only [hactive, if_true]
      exact ⟨rfl, rfl⟩
    · simp only [hactive]
      exact triple_refuse _ _ _ t rfl

/-! ### Approval -/

variable (py g) in
/-- What `approve` knows once its checks have passed. -/
structure Approvable (arguments : Approve) (planDigest : Digest) : Prop where
  ready : g.session.state = .proposalReady
  apart : arguments.actor ∉ [g.session.profile.val.orchestratorActor,
    g.session.plan.val.proposedBy, g.session.delegation.val.implementerActor,
    g.session.delegation.val.reviewerActor]
  plan : digest py g.session.plan = .ok planDigest

lemma triple_checkApproval (arguments : Approve) :
    Triple (· = g) (checkApproval py arguments)
      (fun planDigest t => Approvable py g arguments planDigest ∧ t = g) (Moved py leaks g) := by
  refine .bind_of (triple_expect _) fun _ hready => ?_
  refine bind_self ?_
  refine bind_refuseIf fun _ => ?_
  refine bind_refuseIf fun _ => ?_
  refine bind_refuseIf fun hapart => ?_
  refine .bind_of (triple_lift _) fun planDigest hplan => ?_
  iterate 8 refine bind_refuseIf fun _ => ?_
  exact .pure fun t ht => ⟨⟨hready, hapart, hplan⟩, ht⟩

variable {arguments : Approve} {t : Governed}

lemma approvable_of_checkApproval {planDigest : Digest}
    (hrun : checkApproval py arguments g = (.ok planDigest, t)) :
    Approvable py g arguments planDigest := by
  have hcheck : Outcome (fun planDigest t => Approvable py g arguments planDigest ∧ t = g)
      (Moved py True g) (checkApproval py arguments g) := triple_checkApproval arguments g rfl
  rw [hrun] at hcheck
  exact hcheck.1

variable (registry : InstanceApprovalLeaseRegistry)

variable (py) in
/-- `acquire` finds the instance taken, raises after it has counted a generation, or gives out a
lease of the next generation. -/
lemma acquire_cases (owner : Owner) (request : InstanceApprovalLeaseRegistry.Request) :
    let key : InstanceKey := (request.applicationId, request.instanceId)
    let outcome := acquire py owner request registry
    outcome = (.ok none, registry) ∨
      (∃ e, outcome = (.error e, registry.nextGeneration key)) ∨
      ∃ lease : InstanceApprovalLease, registry.active key = none ∧ lease.key = key ∧
        lease.generation = registry.generations key + 1 ∧
        outcome = (.ok (some lease), (registry.nextGeneration key).activate lease owner) := by
  intro key outcome
  by_cases htaken : (registry.active key).isSome
  · left
    show (if (registry.active key).isSome then _ else _ : Effect _ _ _) registry = _
    rw [if_pos htaken]
    rfl
  · right
    have houtcome : outcome = (Effect.lift (canonicalDigest py
        (seedOf request (registry.generations key + 1))) >>= fun seed =>
          let lease := leaseOf request (registry.generations key + 1) seed
          Effect.modify (fun registry => registry.activate lease owner) >>= fun _ =>
            pure (some lease)) (registry.nextGeneration key) := by
      show (if (registry.active key).isSome then _ else _ : Effect _ _ _) registry = _
      rw [if_neg htaken]
      rfl
    cases hseed : canonicalDigest py
        (seedOf request (registry.generations key + 1)) with
    | error e =>
      left
      refine ⟨e, ?_⟩
      rw [houtcome, hseed]
      rfl
    | ok seed =>
      right
      refine ⟨leaseOf request (registry.generations key + 1) seed, ?_, rfl, rfl, ?_⟩
      · simpa using htaken
      · rw [houtcome, hseed]
        rfl

variable {lease : InstanceApprovalLease}

/-- A lease that was just acquired is given back: only the generation has changed. -/
lemma released_acquired (h : g.Acquires lease) :
    (g.acquired lease).released =
      { registry := g.registry.nextGeneration g.session.key
        session := { g.session with instanceLease := none } } := by
  have hactive : ((g.registry.nextGeneration g.session.key).activate lease
      g.session.leaseOwner).active lease.key = some (lease, g.session.leaseOwner) :=
    Function.update_self ..
  have hfree : Function.update g.registry.active lease.key none = g.registry.active := by
    rw [h.key, ← h.free, Function.update_eq_self]
  have hreleased : ((g.registry.nextGeneration g.session.key).activate lease
      g.session.leaseOwner).release lease g.session.leaseOwner =
      g.registry.nextGeneration g.session.key := by
    unfold release
    rw [if_pos hactive]
    simp only [activate, nextGeneration, Function.update_idem, hfree]
  show Governed.mk (((g.registry.nextGeneration g.session.key).activate lease
    g.session.leaseOwner).release lease g.session.leaseOwner) _ = _
  rw [hreleased]
  rfl

variable {digests : ApprovalDigests} {approval : Checked ApprovalRecord}

lemma makeApproval_eq_ok (h : makeApproval py session arguments digests lease = .ok approval) :
    approval.val.approverActor = arguments.actor ∧ approval.val.planDigest = digests.plan.val := by
  simp only [makeApproval, bind_eq_ok] at h
  obtain ⟨seed, _, hconstruct⟩ := h
  rw [construct_eq_ok hconstruct]
  exact ⟨rfl, rfl⟩

lemma plan_of_approvalDigests (h : approvalDigests py session = .ok digests) :
    digest py session.plan = .ok digests.plan := by
  simp only [approvalDigests, eq_ok_iff] at h
  obtain ⟨plan, hplan, _, _, _, _, _, _, rfl⟩ := h
  exact hplan

variable (py g) in
/-- The call is an approval that gets its lease although a digest of its record raises. -/
def Call.Leaks : Call → Prop
  | .approve arguments => ∃ planDigest lease registry e,
      checkApproval py arguments g = (.ok planDigest, g) ∧
      acquire py g.session.leaseOwner
        (leaseRequest g.session arguments planDigest) g.registry = (.ok (some lease), registry) ∧
      approvalDigests py g.session = .error e
  | _ => False

lemma triple_approve (arguments : Approve) :
    Triple (· = g) (approve py arguments) (fun _ => Move py (Call.Leaks py g (.approve arguments)) g)
      (Moved py (Call.Leaks py g (.approve arguments)) g) := by
  rintro t rfl
  have hcheck : Outcome (fun planDigest t' => Approvable py t arguments planDigest ∧ t' = t)
      (Moved py (Call.Leaks py t (.approve arguments)) t) (checkApproval py arguments t) :=
    triple_checkApproval arguments t rfl
  cases hrun : checkApproval py arguments t with
  | mk outcome t' =>
  rw [hrun] at hcheck
  cases outcome with
  | error e =>
    rw [approve, bind_apply_error hrun]
    exact hcheck
  | ok planDigest =>
  obtain ⟨happrovable, hsame⟩ := hcheck
  rw [hsame] at hrun
  rw [approve, bind_apply_ok hrun, bind_apply_ok (show self t = (.ok t.session, t) from rfl)]
  rcases acquire_cases py t.registry t.session.leaseOwner
    (leaseRequest t.session arguments planDigest) with htaken | ⟨e, hraised⟩ | ⟨lease, hlease⟩
  · rw [bind_apply_ok (show onRegistry _ t = (.ok none, t) by simp [onRegistry, htaken])]
    exact triple_refuse _ _ _ t rfl
  · rw [bind_apply_error (show onRegistry _ t =
      (.error e, ⟨t.registry.nextGeneration t.session.key, t.session⟩) by
        simp only [onRegistry, hraised]
        rfl)]
    exact Move.counted t.session.instanceLease happrovable.ready (.inr rfl)
  · obtain ⟨hfree, hkey, hgeneration, hacquired⟩ := hlease
    have hacquires : t.Acquires lease := ⟨happrovable.ready, hfree, hkey, hgeneration⟩
    rw [bind_apply_ok (show onRegistry _ t =
      (.ok (some lease), ⟨(t.acquired lease).registry, t.session⟩) by
        simp only [onRegistry, hacquired]
        rfl)]
    show Outcome _ _ ((Effect.lift (approvalDigests py t.session) >>= _) (t.acquired lease))
    cases hdigests : approvalDigests py t.session with
    | error e =>
      exact Move.leaked lease hacquires ⟨planDigest, lease, _, e, hrun, hacquired, hdigests⟩
    | ok digests =>
      rw [lift_ok_bind]
      cases hmake : makeApproval py t.session arguments digests lease with
      | error e =>
        show Move py _ t (t.acquired lease).released
        rw [released_acquired hacquires]
        exact Move.counted none happrovable.ready (.inl rfl)
      | ok approval =>
        obtain ⟨hactor, hplan⟩ := makeApproval_eq_ok hmake
        refine Move.granted lease approval hacquires ⟨?_, digests.plan,
          plan_of_approvalDigests hdigests, hplan⟩
        rw [hactor]
        exact happrovable.apart

/-! ### Execution, review and closure -/

lemma triple_beginExecution (arguments : BeginExecution) :
    Triple (· = g) (beginExecution arguments) (fun _ => Move py leaks g) (Moved py leaks g) := by
  refine bind_self ?_
  cases happroval : g.session.approval with
  | none => exact triple_refuse _ _ _
  | some approval =>
    refine .bind_of (triple_expect _) fun _ hstate => ?_
    refine .bind_of triple_requireInstanceLease fun lease _ => ?_
    iterate 8 refine bind_refuseIf fun _ => ?_
    rintro t rfl
    exact Move.began hstate

lemma triple_recordExecution (result : Checked ExecutionResult) :
    Triple (· = g) (recordExecution py result) (fun _ => Move py leaks g) (Moved py leaks g) := by
  refine .bind_of (triple_expect _) fun _ hstate => ?_
  refine bind_self ?_
  refine .bind_of (triple_required _) fun approval happroval => ?_
  refine .bind_of triple_requireInstanceLease fun lease _ => ?_
  refine bind_refuseIf fun _ => ?_
  refine .bind_of (triple_lift _) fun planDigest hdigest => ?_
  refine bind_refuseIf fun hplan => ?_
  refine bind_refuseIf fun himplementer => ?_
  refine bind_refuseIf fun hpermissions => ?_
  refine bind_refuseIf fun heffects => ?_
  refine bind_refuseIf fun hbudget => ?_
  refine bind_refuseIf fun _ => ?_
  refine bind_refuseIf fun _ => ?_
  push Not at heffects
  have hwithin : Within result.val approval.val :=
    ⟨not_not.mp hpermissions, by simpa using heffects.1, heffects.2.2, by simpa using hbudget⟩
  rintro t rfl
  exact Move.recorded result hstate
    ⟨⟨planDigest, hdigest, not_not.mp hplan⟩, not_not.mp himplementer, approval, happroval, hwithin⟩

lemma triple_submitReview (review : Checked ReviewRecord)
    (verified : Option (Checked ReviewWorkspaceIsolation)) :
    Triple (· = g) (submitReview py review verified) (fun _ => Move py leaks g) (Moved py leaks g) := by
  refine .bind_of (triple_expect _) fun _ hstate => ?_
  refine bind_self ?_
  refine .bind_of (triple_required _) fun result hresult => ?_
  refine .bind_of (triple_required _) fun approval happroval => ?_
  refine .bind_of triple_requireInstanceLease fun lease _ => ?_
  refine bind_refuseIf fun hapart => ?_
  cases verified with
  | none => exact triple_refuse _ _ _
  | some isolation =>
    refine bind_refuseIf fun hbound => ?_
    refine .bind_of (triple_lift _) fun _ _ => ?_
    refine bind_refuseIf fun _ => ?_
    refine .bind_of (triple_lift _) fun _ _ => ?_
    refine bind_refuseIf fun _ => ?_
    simp only [List.mem_cons, not_or, not_not] at hapart
    have hroles : review.val.reviewerActor ∉ [g.session.profile.val.orchestratorActor,
        g.session.plan.val.proposedBy, g.session.delegation.val.implementerActor] := by
      simp only [List.mem_cons, List.not_mem_nil, or_false, not_or]
      exact ⟨hapart.1.1, hapart.1.2.1, hapart.1.2.2.1⟩
    rintro t rfl
    cases haccepted : review.val.accepted with
    | true =>
      rw [refuseIf_neg (by simp)]
      exact Move.reviewed review hstate ⟨hroles, ⟨approval, happroval, hapart.1.2.2.2.1⟩,
        ⟨result, hresult, not_not.mp hbound⟩, haccepted⟩
    | false =>
      -- The review is recorded before the session is stopped.
      rw [refuseIf_pos rfl]
      have hopen : t.session.state.isTerminal = false := by
        rw [hstate]
        rfl
      show Move py leaks t (if (true && !t.session.state.isTerminal) then _ else _)
      rw [if_pos (by simp [hopen])]
      exact Move.ended (some review) _ _ hopen

lemma closingDocuments_eq_ok {decidedBy : PyStr}
    {result : Checked ExecutionResult} {review : Checked ReviewRecord}
    {closure : Checked ClosureDecision} {receipt : Checked GoalExecutionReceipt}
    (h : closingDocuments py session decidedBy approval result review = .ok (closure, receipt)) :
    ∃ approvalDigest resultDigest reviewDigest, closure.val.decidedBy = decidedBy ∧
      digest py approval = .ok approvalDigest ∧ receipt.val.approvalDigest = approvalDigest.val ∧
      digest py result = .ok resultDigest ∧
      receipt.val.executionResultDigest = resultDigest.val ∧
      digest py review = .ok reviewDigest ∧ receipt.val.reviewDigest = reviewDigest.val ∧
      closure.val.functionalCommit = result.val.functionalCommit ∧
      closure.val.functionalTree = result.val.functionalTree := by
  simp only [closingDocuments, eq_ok_iff, Prod.mk.injEq] at h
  obtain ⟨resultDigest, hresult, reviewDigest, hreview, _, _, decision, hdecision, approvalDigest,
    happroval, _, _, _, _, document, hdocument, rfl, rfl⟩ := h
  have hclosure := construct_eq_ok hdecision
  have hreceipt := construct_eq_ok hdocument
  refine ⟨approvalDigest, resultDigest, reviewDigest, ?_, happroval, ?_, hresult, ?_, hreview, ?_,
    ?_, ?_⟩
  · rw [hclosure]
  · rw [hreceipt]
  · rw [hreceipt]
  · rw [hreceipt]
  · rw [hclosure]
  · rw [hclosure]

lemma triple_close (decidedBy : PyStr) (guard : Guard) :
    Triple (· = g) (close py decidedBy guard) (fun _ => Move py leaks g) (Moved py leaks g) := by
  refine .bind_of (triple_expect _) fun _ hstate => ?_
  refine .bind_of triple_requireInstanceLease fun lease _ => ?_
  refine bind_self ?_
  refine .bind_of (triple_required _) fun approval happroval => ?_
  refine .bind_of (triple_required _) fun result hresult => ?_
  refine .bind_of (triple_required _) fun review hreview => ?_
  refine bind_refuseIf fun hapart => ?_
  refine .bind_of (triple_lift _) fun documents hdocuments => ?_
  obtain ⟨closure, receipt⟩ := documents
  obtain ⟨approvalDigest, resultDigest, reviewDigest, hdecided, hbound⟩ :=
    closingDocuments_eq_ok hdocuments
  refine .bind_of (triple_lift _) fun drifted _ => ?_
  refine bind_refuseIf fun _ => ?_
  rintro t rfl
  refine Move.closed closure receipt hstate ⟨approval, result, review, approvalDigest,
    resultDigest, reviewDigest, happroval, hresult, hreview, ?_, hbound⟩
  rw [hdecided]
  exact hapart

/-- **Step lemma.** Every method makes one of the moves. -/
theorem move_method (py : Interpreter) (call : Call) (g : Governed) :
    Move py (call.Leaks py g) g (call.method py g).2 := by
  have htriple : Triple (· = g) (call.method py) (fun _ => Move py (call.Leaks py g) g)
      (Moved py (call.Leaks py g) g) := by
    cases call with
    | approve arguments => exact triple_approve arguments
    | beginExecution arguments => exact triple_beginExecution arguments
    | recordExecution result => exact triple_recordExecution result
    | submitReview review verified => exact triple_submitReview review verified
    | close decidedBy guard => exact triple_close decidedBy guard
    | requestNextItem | stop code message => exact triple_refuse _ _ _
  exact htriple.apply_always rfl

/-! ### What moves keep -/

lemma session_released (g : Governed) :
    g.released.session = { g.session with instanceLease := none } := by
  unfold Governed.released
  cases hlease : g.session.instanceLease with
  | none =>
    show g.session = _
    rw [← hlease]
  | some lease => rfl

lemma Move.state_of_isTerminal (h : Move py leaks g t)
    (hterminal : g.session.state.isTerminal) : t.session.state = g.session.state := by
  cases h with
  | same => rfl
  | counted => rfl
  | leaked => rfl
  | granted lease approval hlease => rw [hlease.ready] at hterminal; cases hterminal
  | began hstate | recorded result hstate | reviewed review hstate
  | ended review code message hstate
  | closed closure receipt hstate => rw [hstate] at hterminal; cases hterminal

/-! ### New sessions -/

variable (py) in
/-- A session as its constructor leaves it. -/
structure Fresh (session : Session) : Prop where
  owner : session.leaseOwner = registry.ownerSequence + 1
  lease : session.instanceLease = none
  state : session.state = .proposalReady
  approval : session.approval = none
  result : session.executionResult = none
  profile : ∃ profileDigest, digest py session.profile = .ok profileDigest
  acceptance : ∃ acceptanceDigest, digest py session.acceptance = .ok acceptanceDigest

variable {arguments : SessionArguments}

lemma profile_of_checkIdentities (h : checkIdentities py arguments = .ok ()) :
    ∃ profileDigest, digest py arguments.profile = .ok profileDigest := by
  simp only [checkIdentities, eq_ok_iff] at h
  obtain ⟨_, _, _, _, _, _, _, _, _, _, profileDigest, hprofile, _⟩ := h
  exact ⟨profileDigest, hprofile⟩

lemma acceptance_of_checkItem (h : checkItem py arguments = .ok ()) :
    ∃ acceptanceDigest, digest py arguments.acceptance = .ok acceptanceDigest := by
  simp only [checkItem, eq_ok_iff] at h
  obtain ⟨_, h⟩ := h
  split at h
  · cases h
  · simp only [eq_ok_iff] at h
    obtain ⟨_, _, acceptanceDigest, hacceptance, _⟩ := h
    exact ⟨acceptanceDigest, hacceptance⟩

variable (py arguments) in
/-- The constructor refuses and changes nothing, or returns a fresh session. -/
lemma newSession_cases (registry : InstanceApprovalLeaseRegistry) :
    (∃ e, newSession py arguments registry = (.error e, registry)) ∨
      ∃ session, newSession py arguments registry = (.ok session, registry.allocateOwner.2) ∧
        Fresh py registry session := by
  unfold newSession
  cases hidentities : checkIdentities py arguments with
  | error e => exact .inl ⟨e, rfl⟩
  | ok _ =>
    cases hitem : checkItem py arguments with
    | error e => exact .inl ⟨e, rfl⟩
    | ok _ =>
      cases hpolicy : canonicalDigest py (.dict
          [("goalExecutionPolicy", Contract.toDict arguments.policy.val),
            ("effectiveCapabilities", texts (sorted arguments.effectiveCapabilities))]) with
      | error e => exact .inl ⟨e, by simp only [hpolicy]; rfl⟩
      | ok policyDigest =>
        have hprofile := profile_of_checkIdentities hidentities
        have hacceptance := acceptance_of_checkItem hitem
        refine .inr ⟨_, by simp only [hpolicy]; rfl, ?_⟩
        exact ⟨rfl, rfl, rfl, rfl, rfl, hprofile, hacceptance⟩

end StatePort.Goal
