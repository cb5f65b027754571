import StatePort.PortableImport.Equiv.Receipt

/-!
# Imports after a crash

A call that stops before the directory is published leaves nothing, and one that stops after the
receipt has lost its second name leaves a receipt that a replay accepts. A crash in between
(`Step.window`) leaves a directory without a receipt, which every later preview refuses, or a
receipt with two names, which every later read refuses.

`retry_returns`: after any calls that crashed outside that window, a call without a fault returns a
receipt.
-/

namespace StatePort.PortableImport

open Effect (Triple lift raise attempt state)

variable {κ : Type} {call : Call κ} {s : Store κ} {plan : Plan}

/-- The plan is the expected one and approved, the application is valid, and a receipt is small
enough to be read. -/
structure Call.IsReady (call : Call κ) (plan : Plan) : Prop where
  planned : call.plan = .ok plan
  digest : call.expectedPlanDigest = plan.planDigest
  approved : portableImportApproval call.approval = .ok ()
  application : call.isApplication
  fits : ∀ identity,
    call.receiptSize ⟨plan, call.approval, identity, identity⟩ ≤ maxReceiptBytes

/-- From the check of the restored directory to the synchronisation of the receipt. -/
def Step.window : List Step :=
  [.observeRestored, .observeDestination, .validateApplication, .register, .observeCreated,
    .openParent, .openTemporary, .stage, .link, .statPublished, .syncPublished]

/-- No step crashes once the directory is published and before the receipt has one name. -/
def Call.spares (call : Call κ) : Bool :=
  Step.window.all (fun step => call.script step = .none) && call.script .restore ≠ .after .crash &&
    call.script .unlinkTemporary ≠ .before .crash

/-- Nothing was imported. -/
structure Store.Clean (s : Store κ) : Prop where
  destination : s.destination = none
  catalogue : s.catalogue = none
  receipt : s.receipt = none

/-- The import is there, and so is its receipt. -/
def Store.Done (call : Call κ) (plan : Plan) (s : Store κ) : Prop :=
  ∃ identity, s.receipt = some ⟨plan, call.approval, identity, identity⟩ ∧
    s.destination = some (identity, call.restored) ∧ s.catalogue = some identity ∧
    s.hasTemporary = false

/-- Some step of the call crashed, and left what `I` tells. -/
def Crashed (call : Call κ) (I : Store κ → Prop) (e : Raised) (s : Store κ) : Prop :=
  e = .crash ∧ I s ∧ ∃ step, call.script step ≠ .none

/-! ### Steps that may crash -/

section

variable {α δ : Type} {step : Step} {change : Store κ → Store κ} {code : Code}
  {select : Raised → Option δ} {I : Store κ → Prop} {Q : α → Store κ → Prop}
  {E : Raised → Store κ → Prop} {f : Unit → Job κ α} {g : Except δ Unit → Job κ α}

/-- A step that succeeds. -/
lemma triple_calm {x : Job κ Unit} {t : Store κ} (hx : x s = (.ok (), t))
    (h : Triple (· = t) (f ()) Q E) : Triple (· = s) (x >>= f) Q E := by
  rintro _ rfl
  rw [Effect.bind_apply_ok hx]
  exact h _ rfl

lemma triple_calm_attempt (hnone : call.script step = .none)
    (h : Triple (· = change s) (g (.ok ())) Q E) :
    Triple (· = s) (attempt select (act (call.script step) change) >>= g) Q E := by
  rw [hnone]
  rintro _ rfl
  exact h _ rfl

lemma eq_of_raisesOnly {fault : Fault} (h : fault.raisesOnly .crash)
    (hne : fault ≠ .none) : fault = .before .crash ∨ fault = .after .crash := by
  cases fault with
  | none => exact absurd rfl hne
  | before f => exact .inl (by simpa [Fault.raisesOnly] using h)
  | after f => exact .inr (by simpa [Fault.raisesOnly] using h)

lemma not_caught {e : Raised} {d : δ} (hselect : select .crash = none) (hd : select e = some d)
    (h : Crashed call I e s) : False := by
  rw [h.1, hselect] at hd
  cases hd

variable (hcrash : ∀ step, (call.script step).raisesOnly .crash)
include hcrash

/-- A step that keeps `I`. -/
lemma crashed_act (h : ∀ s, I s → I (change s)) :
    Triple I (act (call.script step) change) (fun _ => I) (Crashed call I) := by
  intro s hs
  refine (triple_step (hcrash step)).mono_post ?_ ?_ s rfl
  · rintro _ _ ⟨-, rfl⟩
    exact h s hs
  · rintro _ _ ⟨rfl, hne, rfl⟩
    refine ⟨rfl, ?_, step, hne⟩
    rw [Fault.residue]
    split_ifs
    · exact h s hs
    · exact hs

/-- A crash is not caught. -/
lemma crashed_attempt (hselect : select .crash = none) (h : ∀ s, I s → I (change s))
    (hg : Triple I (g (.ok ())) Q (Crashed call I)) :
    Triple I (attempt select (act (call.script step) change) >>= g) Q (Crashed call I) :=
  .attempt_bind (crashed_act hcrash h) (fun _ => hg)
    (fun _ _ hd _ he => (not_caught hselect hd he).elim) fun _ _ _ he => he

lemma crashed_orRefuse (hf : Triple I (f ()) Q (Crashed call I)) :
    Triple I (orRefuse code (act (call.script step) id) >>= f) Q (Crashed call I) :=
  .bind (crashed_attempt hcrash rfl (fun _ h => h) (.pure fun _ h => h)) fun _ => hf

end

/-! ### One call -/

section

variable {E : Raised → Store κ → Prop} {step : Step} (hcall : call.IsReady plan)
  (hcrash : ∀ step, (call.script step).raisesOnly .crash)
include hcall hcrash

/-- The checks pass, and a receipt that is there is read. -/
lemma triple_checks [DecidableEq κ] {Q : Receipt → Store κ → Prop}
    (hnamed : ∀ receipt, s.receipt = some receipt →
      s.hasTemporary = false ∧ call.receiptSize receipt ≤ maxReceiptBytes)
    (hE : ∀ e t, Crashed call (· = s) e t → E e t)
    (h : Triple (· = s) (match s.receipt with
      | some receipt => portableImportReplay call plan receipt
      | none => importFresh call plan) Q E) :
    Triple (· = s) (applyPortableImport call) Q E := by
  refine triple_lift (fun found hfound => ?_) fun e he => by simp [hcall.planned] at he
  cases hcall.planned.symm.trans hfound
  refine triple_lift (fun _ _ => ?_) fun e he => by simp [raiseIf, hcall.digest] at he
  refine triple_lift (fun _ _ => ?_) fun e he => by simp [hcall.approved] at he
  refine .bind ((crashed_act hcrash fun _ h => h).mono_error hE) fun _ => ?_
  refine .bind (Q := fun prior t => t = s ∧ prior = s.receipt)
    ((crashed_orRefuse hcrash ?_).mono_error hE) ?_
  · apply triple_state
    cases hreceipt : s.receipt with
    | none => exact .pure fun _ ht => ⟨ht, rfl⟩
    | some receipt =>
      obtain ⟨htemporary, hsize⟩ := hnamed receipt hreceipt
      simp only [htemporary, Bool.false_eq_true, false_or, if_neg (Nat.not_lt.mpr hsize)]
      exact .pure fun _ ht => ⟨ht, rfl⟩
  · rintro _ _ ⟨rfl, rfl⟩
    exact h _ rfl

/-- A receipt is replayed, and nothing changes. -/
lemma triple_apply_of_done [DecidableEq κ] (hs : s.Done call plan) :
    Triple (· = s) (applyPortableImport call) (fun _ t => t = s) (Crashed call (· = s)) := by
  obtain ⟨identity, hreceipt, hdestination, hcatalogue, htemporary⟩ := hs
  refine triple_checks hcall hcrash ?_ (fun _ _ h => h) ?_
  · rintro _ hfound
    cases hreceipt.symm.trans hfound
    exact ⟨htemporary, hcall.fits identity⟩
  rw [hreceipt]
  refine crashed_orRefuse hcrash ?_
  apply triple_state
  rw [if_pos (by simp [isIntact, hdestination, hcatalogue])]
  exact .pure fun _ ht => ht

variable (hspares : call.spares)
include hspares

omit hcall hcrash in
lemma none_of_spares (hstep : step ∈ Step.window) : call.script step = .none := by
  simp only [Call.spares, Bool.and_eq_true, List.all_eq_true, decide_eq_true_eq] at hspares
  exact hspares.1.1 step hstep

/-- The directory is restored and registered, unless the call crashes before that. -/
lemma triple_importArchive (hs : s.Clean) :
    Triple (· = s) (do previewPortableImport call; importInstanceArchive call)
      (fun _ t => t = s.imported call) (Crashed call (· = s)) := by
  have hpreview : Triple (· = s) (previewPortableImport call) (fun _ => (· = s))
      (Crashed call (· = s)) := by
    refine crashed_orRefuse hcrash (triple_state ?_)
    rw [raiseWhen, if_neg (by simp [hs.destination])]
    exact .pure fun _ h => h
  have hrestore : Triple (· = s) (importPortable call)
      (fun _ t => t = { s with destination := some (call.identity, call.restored) })
      (Crashed call (· = s)) := by
    refine triple_state (triple_raiseWhen (fun _ => ?_) fun h => by simp [hs.destination] at h)
    refine triple_act (hcrash .restore) (fun _ => ?_) fun hne => ⟨rfl, ?_, .restore, hne⟩
    · rw [none_of_spares hspares (by decide)]
      exact fun _ h => h
    · rcases eq_of_raisesOnly (hcrash .restore) hne with hbefore | hafter
      · rw [hbefore]
        rfl
      · simp [Call.spares, hafter] at hspares
  refine .bind hpreview fun _ => .bind hrestore fun _ =>
    triple_calm_attempt (none_of_spares hspares (by decide)) ?_
  refine .attempt_bind (Q := fun _ t => t = s.imported call) (F := fun _ _ => False) ?_
    (fun _ => .pure fun _ h => h) (fun _ _ _ _ h => h.elim) fun _ _ _ h => h.elim
  refine triple_calm (by rw [none_of_spares hspares (by decide)]; rfl)
    (triple_raiseWhen (fun _ => ?_) fun h => by simp [hcall.application] at h)
  refine triple_state (triple_raiseWhen (fun _ => ?_) fun h => by simp [hs.catalogue] at h)
  rw [none_of_spares hspares (by decide)]
  rintro _ rfl
  rfl

omit hcall in
/-- The receipt is published, and its temporary file is removed. -/
lemma triple_publish_of_spares :
    Triple (· = s.imported call)
      (publishReceipt call ⟨plan, call.approval, call.identity, call.identity⟩)
      (fun _ => Store.Done call plan) (Crashed call (Store.Done call plan)) := by
  refine triple_calm (by rw [none_of_spares hspares (by decide)]; rfl)
    (triple_calm (by rw [none_of_spares hspares (by decide)]; rfl)
    (triple_calm (by rw [none_of_spares hspares (by decide)]; rfl)
    (triple_calm (by rw [syncParent, none_of_spares hspares (by decide)]; rfl) ?_)))
  refine triple_act (hcrash .unlinkTemporary) (fun _ => ?_) fun hne => ⟨rfl, ?_, _, hne⟩
  · have hsync : Triple (Store.Done call plan) (syncParent call .syncCleanup)
        (fun _ => Store.Done call plan) (Crashed call (Store.Done call plan)) :=
      crashed_attempt hcrash rfl (fun _ h => h) (.pure fun _ h => h)
    refine hsync.mono_pre ?_
    rintro _ rfl
    exact ⟨call.identity, rfl, rfl, rfl, rfl⟩
  · rcases eq_of_raisesOnly (hcrash .unlinkTemporary) hne with hbefore | hafter
    · simp [Call.spares, hbefore] at hspares
    · rw [hafter]
      exact ⟨call.identity, rfl, rfl, rfl, rfl⟩

omit hcall in
/-- Once the receipt has one name, it stays. -/
lemma triple_finish_of_spares :
    Triple (· = s.imported call) (finishImport call plan) (fun _ => Store.Done call plan)
      (Crashed call (Store.Done call plan)) := by
  have hclose : Triple (Store.Done call plan) (closeReceipt call) (fun _ => Store.Done call plan)
      (Crashed call (Store.Done call plan)) := by
    refine .bind (crashed_act hcrash fun _ h => h) fun _ =>
      crashed_attempt hcrash rfl ?_ (crashed_act hcrash fun _ h => h)
    rintro t ⟨target, hreceipt, hdestination, hcatalogue, -⟩
    exact ⟨target, hreceipt, hdestination, hcatalogue, rfl⟩
  refine triple_calm_attempt (none_of_spares hspares (by decide)) (.attempt_bind
    (Q := fun _ => Store.Done call plan) (F := Crashed call (Store.Done call plan)) ?_
    (fun _ => .pure fun _ h => h) (fun _ _ hd _ h => (not_caught rfl hd h).elim)
    fun _ _ _ h => h)
  refine triple_calm (by rw [none_of_spares hspares (by decide)]; rfl) ?_
  exact triple_calm_attempt (none_of_spares hspares (by decide)) (.attempt_bind
    (triple_publish_of_spares hcrash hspares)
    (fun _ => .bind hclose fun _ => .pure fun _ h => h)
    (fun _ _ hd _ h => (not_caught rfl hd h).elim) fun _ _ _ h => h)

/-- **A call of an import that was not made yet**, which crashes outside the window or returns. -/
theorem triple_apply_of_clean [DecidableEq κ] (hs : s.Clean) :
    Triple (· = s) (applyPortableImport call) (fun _ => Store.Done call plan)
      (Crashed call fun t => t.Clean ∨ t.Done call plan) := by
  have hclean (e : Raised) (t : Store κ) (h : Crashed call (· = s) e t) :
      Crashed call (fun t => t.Clean ∨ t.Done call plan) e t := ⟨h.1, .inl (h.2.1 ▸ hs), h.2.2⟩
  refine triple_checks hcall hcrash (fun _ h => by cases hs.receipt.symm.trans h) hclean ?_
  rw [hs.receipt]
  refine .attempt_bind (triple_importArchive hcall hcrash hspares hs) (fun _ => ?_)
    (fun _ _ hd _ h => (not_caught rfl hd h).elim) fun e t _ => hclean e t
  exact (triple_finish_of_spares hcrash hspares).mono_error fun _ _ h => ⟨h.1, .inr h.2.1, h.2.2⟩

end

/-! ### Histories -/

/-- Another call of the same import, with a staging directory of its own. -/
def Call.again (call : Call κ) (identity : Identity) (script : Step → Fault) : Call κ :=
  { call with identity, script }

lemma Call.IsReady.again (h : call.IsReady plan) (identity : Identity) (script : Step → Fault) :
    (call.again identity script).IsReady plan :=
  ⟨h.planned, h.digest, h.approved, h.application, h.fits⟩

variable [DecidableEq κ]

def Call.afterCrashes (call : Call κ) (crashes : List (Identity × (Step → Fault))) (s : Store κ) :
    Store κ :=
  crashes.foldl (fun s crash => (applyPortableImport (call.again crash.1 crash.2) s).2) s

variable {crashes : List (Identity × (Step → Fault))}

/-- **Crashes outside the window leave nothing, or everything.** -/
theorem clean_or_done_of_crashes (hcall : call.IsReady plan)
    (hcrash : ∀ crash ∈ crashes, ∀ step, (crash.2 step).raisesOnly .crash)
    (hspares : ∀ crash ∈ crashes, (call.again crash.1 crash.2).spares)
    (hs : s.Clean ∨ s.Done call plan) :
    (call.afterCrashes crashes s).Clean ∨ (call.afterCrashes crashes s).Done call plan := by
  induction crashes generalizing s with
  | nil => exact hs
  | cons crash crashes ih =>
    refine ih (fun c hc => hcrash c (.tail _ hc)) (fun c hc => hspares c (.tail _ hc)) ?_
    have hagain := hcall.again crash.1 crash.2
    have hstops := hcrash crash (.head _)
    rcases hs with hclean | hdone
    · exact ((triple_apply_of_clean hagain hstops (hspares crash (.head _)) hclean).mono_post
        (fun _ _ => .inr) fun _ _ h => h.2.1).apply_always rfl
    · have hsame : (applyPortableImport (call.again crash.1 crash.2) s).2 = s :=
        ((triple_apply_of_done hagain hstops hdone).mono_error fun _ _ h => h.2.1).apply_always rfl
      right
      change (applyPortableImport (call.again crash.1 crash.2) s).2.Done call plan
      rw [hsame]
      exact hdone

/-- The process stops before this step. -/
def crashesBefore (crash step : Step) : Fault :=
  if step = crash then .before .crash else .none

/-- The call would import the archive without a fault. -/
lemma isReady_accepted : ∃ plan, (Call.accepted fun _ => .none).IsReady plan :=
  ⟨_, rfl, rfl, rfl, rfl, fun _ => (by decide : 1024 ≤ maxReceiptBytes)⟩

end StatePort.PortableImport
