import StatePort.Daemon.Operations
import StatePort.Daemon.Equiv.Invariants

/-!
# Reasons of refusals

`Failure.IsOrdinary` are the failures that report neither a duplicate workload nor a refused source
admission. What the host functions and the checks of a grant raise is ordinary.
-/

namespace StatePort.Daemon

open Effect Failure

variable {host : Host} {request : OperationRequest} {grant : Option Grant} {spec : Spec} {α : Type}
  {reason : String} {entry : Entry} {K : World → Prop} {x : Run α} {Q : α → World → Prop}

/-! ### Reasons -/

/-- The reason with which an operation was refused. -/
def refusalReason : Except Failure α → Option String
  | .ok _ => none
  | .error failure => failure.reason?

section

variable {detail : PyStr}
  (h : reason ≠ "duplicate-workload" ∧ reason ≠ "workspace-source-admission-refused")
include h

lemma Failure.isOrdinary_refusal : (Failure.refusal reason detail).IsOrdinary :=
  ⟨fun heq => h.1 (Option.some.inj heq), fun heq => h.2 (Option.some.inj heq)⟩

lemma triple_refusal : Triple K (Effect.raise (.refusal reason detail) : Run α) Q (Raises K) :=
  .raise fun _ hK => ⟨hK, isOrdinary_refusal h⟩

end

/-! ### Authority -/

/-- A failure of the grant store that becomes an ordinary failure. -/
abbrev GrantFailure.IsOrdinary (failure : GrantFailure) : Prop :=
  (Failure.ofGrant failure).IsOrdinary

lemma raisesOnly_refuseValueError (x : Except Raised α) (detail : PyStr) :
    RaisesOnly GrantFailure.IsOrdinary (refuseValueError x detail) := by
  unfold refuseValueError
  cases x with
  | ok a => exact .ok a
  | error e =>
    dsimp only
    split_ifs
    · exact .error (isOrdinary_refusal (by decide))
    · exact .error (isOrdinary_raised e)

lemma raisesOnly_passOn (x : Except Raised α) :
    RaisesOnly GrantFailure.IsOrdinary (passOn x) := by
  cases x with
  | ok a => exact .ok a
  | error e => exact .error (isOrdinary_raised e)

variable (py : Interpreter) (store : GrantStore) (grantId : PyStr)

lemma raisesOnly_loadGrant : RaisesOnly GrantFailure.IsOrdinary (store.loadGrant py grantId) := by
  unfold GrantStore.loadGrant
  split
  case h_4 =>
    exact .bind (raisesOnly_refuseValueError _ _) fun _ _ =>
      .bind (.check (isOrdinary_refusal (by decide))) fun _ _ => .ok _
  all_goals exact .error (isOrdinary_refusal (by decide))

lemma raisesOnly_loadRevocation : RaisesOnly GrantFailure.IsOrdinary store.loadRevocation := by
  unfold GrantStore.loadRevocation
  split
  case h_4 => exact raisesOnly_refuseValueError _ _
  all_goals exact .error (isOrdinary_refusal (by decide))

lemma raisesOnly_checkExpiry (grant : Grant) :
    RaisesOnly GrantFailure.IsOrdinary (store.checkExpiry grant) := by
  unfold GrantStore.checkExpiry
  dsimp only
  split
  · exact .error (isOrdinary_refusal (by decide))
  split
  · exact .error (isOrdinary_refusal (by decide))
  · exact .bind (.check (isOrdinary_raised _)) fun _ _ => .check (isOrdinary_refusal (by decide))

lemma raisesOnly_assertLive (expectedDigest : Option Digest) :
    RaisesOnly GrantFailure.IsOrdinary (store.assertLive py grantId expectedDigest) := by
  refine .bind (raisesOnly_loadGrant py store grantId) fun grant _ => ?_
  refine .bind ?_ fun _ _ => .bind ?_ fun _ _ => .ok grant
  · cases expectedDigest with
    | none => exact .ok ()
    | some expected =>
      exact .bind (raisesOnly_passOn _) fun _ _ => .check (isOrdinary_refusal (by decide))
  · refine .bind (raisesOnly_loadRevocation store) fun revocation _ => ?_
    refine .bind (.check (isOrdinary_refusal (by decide))) fun _ _ => ?_
    refine .bind (.check (isOrdinary_refusal (by decide))) fun _ _ => ?_
    refine .bind (.check (isOrdinary_refusal (by decide))) fun _ _ => ?_
    exact raisesOnly_checkExpiry store grant

lemma raisesOnly_mapError {ε : Type} {P : Failure → Prop} {x : Except ε α} {f : ε → Failure}
    (h : RaisesOnly (fun e => P (f e)) x) : RaisesOnly P (x.mapError f) := by
  cases x with
  | ok a => exact .ok a
  | error e => exact .error (h e rfl)

lemma orderly_assertActivationAuthority
    (hasked : ∀ w, K w → K { w with questions := w.questions + 1 }) :
    Orderly K (assertActivationAuthority host entry grant) := by
  unfold assertActivationAuthority
  cases grant with
  | none => exact triple_refusal (by decide)
  | some grant =>
    dsimp only
    split_ifs
    · exact triple_refusal (by decide)
    · refine .bind (Orderly.lift ?_) fun expected => .bind (triple_ask hasked _) fun store =>
        .bind_pure (Orderly.lift ?_)
      · unfold boundDigest
        cases entry.grantDigest with
        | some digest => exact .ok digest
        | none => exact raisesOnly_mapError fun e _ => isOrdinary_raised e
      · exact raisesOnly_mapError (raisesOnly_assertLive host.py store _ _)

lemma raisesOnly_grantBinding :
    RaisesOnly Failure.IsOrdinary (grantBinding host request grant) := by
  cases grant with
  | none => exact .ok _
  | some grant => exact .bind (raisesOnly_mapError fun e _ => isOrdinary_raised e) fun _ _ => .ok _

lemma authority?_isOrdinary {failure : Failure} {caught : Caught} (h : failure.IsOrdinary)
    (hcaught : Caught.authority? failure = some caught) : caught.failure.IsOrdinary := by
  cases failure with
  | refusal reason detail =>
    cases hcaught
    exact h
  | _ => cases hcaught

/-- `try: x`, where what is raised is ordinary. -/
lemma triple_attempt {β δ : Type} {select : Failure → Option δ} {f : Except δ α → Run β}
    {R : β → World → Prop} {E : Failure → World → Prop} (hx : Triple K x Q (Raises K))
    (hok : ∀ a, Triple (Q a) (f (.ok a)) R E)
    (hcaught : ∀ failure d, failure.IsOrdinary → select failure = some d →
      Triple K (f (.error d)) R E)
    (hraised : ∀ failure w, Raises K failure w → E failure w) :
    Triple K (Effect.attempt select x >>= f) R E :=
  .attempt_bind hx hok (fun failure d h w hw =>
    hcaught failure d hw.2 h w hw.1) fun failure w _ h => hraised failure w h

end StatePort.Daemon
