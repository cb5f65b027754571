import StatePort.Algorithm.Trace
import StatePort.PortableImport.Apply

/-!
# A receipt implies an import

`Store.Truthful` says that a receipt is there only with the directory and the entry it names, or
with a record that demands an inspection. Once the receipt is linked, an error other than a failed
synchronisation makes the caller roll the import back and leaves the receipt behind; so does a
failed synchronisation if the record that demands an inspection cannot be closed.

`truthful_iff`: a call in which steps raise `OSError` keeps the store truthful exactly if it does
not do that (`Call.retracts`).
-/

namespace StatePort.PortableImport

open Effect (Keeps Triple lift raise attempt state)

variable {κ : Type} {call : Call κ} {s : Store κ} {fault : Fault} {failure : Failure}
  {change : Store κ → Store κ}

/-! ### Steps -/

def Fault.raisesOnly (failure : Failure) : Fault → Bool
  | .none => true
  | .before f | .after f => f = failure

def Fault.takesEffect : Fault → Bool
  | .before _ => false
  | _ => true

variable (fault change) in
/-- The state that a step leaves if it raises. -/
def Fault.residue (s : Store κ) : Store κ :=
  if fault.takesEffect then change s else s

@[simp] lemma residue_id : fault.residue id s = s := ite_self s

section

variable {α β δ : Type} {Q : α → Store κ → Prop} {E : Raised → Store κ → Prop}

/-- What a step does. -/
lemma triple_step (hfault : fault.raisesOnly failure) :
    Triple (· = s) (act fault change) (fun _ t => fault = .none ∧ t = change s) fun e t =>
      e = failure.raised ∧ fault ≠ .none ∧ t = fault.residue change s := by
  rintro _ rfl
  cases fault with
  | none => exact ⟨rfl, rfl⟩
  | before f | after f =>
    obtain rfl : f = failure := by simpa [Fault.raisesOnly] using hfault
    exact ⟨rfl, nofun, rfl⟩

variable {f : Unit → Job κ α}

/-- A step, and what comes after it. -/
lemma triple_act (hfault : fault.raisesOnly failure)
    (hok : fault = .none → Triple (· = change s) (f ()) Q E)
    (herror : fault ≠ .none → E failure.raised (fault.residue change s)) :
    Triple (· = s) (act fault change >>= f) Q E := by
  refine .bind ((triple_step hfault).mono_error ?_) ?_
  · rintro _ _ ⟨rfl, hne, rfl⟩
    exact herror hne
  · rintro _ t ⟨hnone, rfl⟩
    exact hok hnone _ rfl

/-- A step without an effect. -/
lemma triple_read (hfault : fault.raisesOnly failure)
    (hok : fault = .none → Triple (· = s) (f ()) Q E)
    (herror : fault ≠ .none → E failure.raised s) :
    Triple (· = s) (act fault id >>= f) Q E :=
  triple_act hfault hok fun hne => by
    rw [residue_id]
    exact herror hne

/-- A step whose exceptions are caught. -/
lemma triple_attempt {select : Raised → Option δ} {d : δ}
    (hselect : select failure.raised = some d) (hfault : fault.raisesOnly failure)
    {f : Except δ Unit → Job κ α} (hok : fault = .none → Triple (· = change s) (f (.ok ())) Q E)
    (herror : fault ≠ .none → Triple (· = fault.residue change s) (f (.error d)) Q E) :
    Triple (· = s) (attempt select (act fault change) >>= f) Q E := by
  refine .attempt_bind (triple_step hfault) ?_ ?_ ?_
  · rintro _ _ ⟨hnone, rfl⟩
    exact hok hnone _ rfl
  · rintro _ d' hd _ ⟨rfl, hne, rfl⟩
    cases hselect.symm.trans hd
    exact herror hne _ rfl
  · rintro _ _ hnone ⟨rfl, -, -⟩
    cases hselect.symm.trans hnone

lemma osError?_osError : Failure.osError.raised.osError? = some () := rfl

lemma caught_osError : Failure.osError.raised.caught = some .osError := rfl

/-- A step without an effect whose `OSError` becomes a refusal. -/
lemma triple_orRefuse {code : Code} (hfault : fault.raisesOnly .osError)
    (hok : fault = .none → Triple (· = s) (f ()) Q E)
    (herror : fault ≠ .none → E (.portableImportError code) s) :
    Triple (· = s) (orRefuse code (act fault id) >>= f) Q E := by
  refine .bind (Q := fun _ t => fault = .none ∧ t = s) ?_ ?_
  · refine triple_attempt osError?_osError hfault (fun hnone => .pure fun t ht => ⟨hnone, ht⟩)
      fun hne => .raise ?_
    rintro _ rfl
    rw [residue_id]
    exact herror hne
  · rintro _ t ⟨hnone, rfl⟩
    exact hok hnone t rfl

lemma triple_raiseWhen {condition : Prop} [Decidable condition] {e : Raised}
    (hok : ¬ condition → Triple (· = s) (f ()) Q E) (herror : condition → E e s) :
    Triple (· = s) (raiseWhen condition e >>= f) Q E := by
  rintro _ rfl
  by_cases hcondition : condition
  · rw [raiseWhen, if_pos hcondition]
    exact herror hcondition
  · rw [raiseWhen, if_neg hcondition]
    exact hok hcondition _ rfl

/-- The state is read. -/
lemma triple_state {f : Store κ → Job κ α} (h : Triple (· = s) (f s) Q E) :
    Triple (· = s) (state >>= f) Q E := by
  rintro _ rfl
  exact h _ rfl

lemma triple_lift {y : Except Raised β} {f : β → Job κ α}
    (hok : ∀ b, y = .ok b → Triple (· = s) (f b) Q E) (herror : ∀ e, y = .error e → E e s) :
    Triple (· = s) (lift y >>= f) Q E := by
  rintro _ rfl
  cases y with
  | ok b => exact hok b rfl _ rfl
  | error e => exact herror e rfl

lemma keeps_act {I : Store κ → Prop} (h : ∀ s, I s → I (change s)) :
    Keeps I (act fault change) := by
  intro s hs
  cases fault with
  | none => exact h s hs
  | before _ => exact hs
  | after _ => exact h s hs

end

/-! ### Calls -/

variable {receipt : Receipt}

section

variable (s)

/-- The directory and the entry that a receipt names. -/
def Store.Holds (receipt : Receipt) : Prop :=
  s.destination.map Prod.fst = some receipt.targetIdentity ∧
    s.catalogue = some receipt.targetIdentity

/-- A receipt is there only if what it tells is there, or an inspection is demanded. -/
def Store.Truthful : Prop :=
  ∀ receipt, s.receipt = some receipt → s.Holds receipt ∨ s.recovery

/-- The store after the directory is registered. -/
def Store.imported (call : Call κ) : Store κ :=
  { s with destination := some (call.identity, call.restored), catalogue := some call.identity }

end

/-- The plan is the expected one, and it is approved. -/
def Call.isAccepted (call : Call κ) : Bool :=
  (match call.plan with
    | .ok plan => call.expectedPlanDigest = plan.planDigest
    | .error _ => false) && (portableImportApproval call.approval).isOk

/-- The steps before the receipt is written. -/
def Step.early : List Step :=
  [.receiptStore, .readReceipt, .preview, .restore, .observeRestored, .observeDestination,
    .validateApplication, .register, .observeCreated]

/-- The call imports the archive, and comes to its receipt. -/
def Call.imports (call : Call κ) (s : Store κ) : Bool :=
  call.isAccepted && s.receipt.isNone && s.destination.isNone && s.catalogue.isNone &&
    call.isApplication && Step.early.all fun step => call.script step = .none

section

variable (call)

/-- The temporary file of the receipt is written and linked. -/
def Call.links : Bool :=
  [Step.openParent, .openTemporary, .stage].all (fun step => call.script step = .none) &&
    (call.script .link).takesEffect

/-- A synchronisation fails, and so does closing the record that demands an inspection. -/
def Call.unclosed (step : Step) : Bool :=
  call.script step ≠ .none && call.script .closeRecovery ≠ .none

/-- The link, the check of it or the removal of the temporary file raises, or what a failed
synchronisation has to record. -/
def Call.breaks : Bool :=
  call.script .link ≠ .none || call.script .statPublished ≠ .none ||
    call.unclosed .syncPublished || call.script .syncPublished = .none &&
      (call.script .unlinkTemporary ≠ .none || call.unclosed .syncCleanup)

/-- After the receipt is linked, something other than a synchronisation raises. -/
def Call.isRefused : Bool :=
  call.breaks || call.script .closeTemporary ≠ .none || call.script .closeParent ≠ .none

/-- A synchronisation fails, and the record that demands an inspection is written. -/
def Call.records : Bool :=
  call.script .link = .none && call.script .statPublished = .none &&
    (call.script .syncPublished ≠ .none ||
      call.script .unlinkTemporary = .none && call.script .syncCleanup ≠ .none) &&
    (call.script .recordRecovery).takesEffect

/-- The rollback removes the directory. -/
def Call.removes : Bool :=
  call.script .observeTarget = .none && (call.script .removeTarget).takesEffect

/-- The directory is removed after its receipt was linked, and no inspection is demanded. -/
def Call.retracts : Bool := call.isRefused && !call.records && call.removes

/-- The store ends truthful exactly if no import was retracted whose receipt is linked. -/
def Settled (s t : Store κ) : Prop :=
  t.Truthful ↔ ¬ (call.imports s ∧ call.links ∧ call.retracts ∧ s.recovery = false)

end

lemma not_imports {step : Step} (hstep : step ∈ Step.early) (hne : call.script step ≠ .none) :
    call.imports s = false := by
  have hall : Step.early.all (fun step => call.script step = .none) = false := by
    rw [List.all_eq_false]
    exact ⟨step, hstep, by simpa using hne⟩
  rw [Call.imports, hall, Bool.and_false]

variable {t : Store κ}

/-- A call that leaves no receipt. -/
lemma settled_of_receipt_eq_none (ht : t.receipt = none)
    (h : call.imports s = false ∨ call.links = false) : Settled call s t := by
  refine iff_of_true (fun receipt hreceipt => ?_) fun ⟨himports, hlinks, _⟩ => ?_
  · cases ht.symm.trans hreceipt
  · rw [himports, hlinks] at h
    simp at h

section

variable (hsoft : ∀ step, (call.script step).raisesOnly .osError)
include hsoft

/-! ### The receipt -/

/-- The record that demands an inspection is written if that is possible. -/
lemma triple_recordRecovery :
    Triple (· = s) (recordRecovery call)
      (fun _ t => call.script .closeRecovery = .none ∧
        t = { s with recovery := s.recovery || (call.script .recordRecovery).takesEffect })
      fun e t => call.script .closeRecovery ≠ .none ∧ e = .osError ∧
        t = { s with recovery := s.recovery || (call.script .recordRecovery).takesEffect } := by
  have hclose {u : Store κ} (hu : u =
      { s with recovery := s.recovery || (call.script .recordRecovery).takesEffect }) :
      Triple (· = u) (act (call.script .closeRecovery) id : Job κ Unit)
        (fun _ t => call.script .closeRecovery = .none ∧
          t = { s with recovery := s.recovery || (call.script .recordRecovery).takesEffect })
        fun e t => call.script .closeRecovery ≠ .none ∧ e = .osError ∧
          t = { s with recovery := s.recovery || (call.script .recordRecovery).takesEffect } := by
    refine (triple_step (hsoft .closeRecovery)).mono_post ?_ ?_
    · rintro _ _ ⟨hnone, rfl⟩
      exact ⟨hnone, hu⟩
    · rintro _ _ ⟨rfl, hne, rfl⟩
      exact ⟨hne, rfl, by rw [residue_id, hu]⟩
  refine triple_attempt osError?_osError (hsoft .recordRecovery) (fun hnone => hclose ?_)
    fun _ => hclose ?_
  · simp [hnone, Fault.takesEffect]
  · rw [Fault.residue]
    cases (call.script .recordRecovery).takesEffect <;> simp

/-- A synchronisation succeeds, or an inspection is demanded if that can be recorded. -/
lemma triple_syncParent {step : Step} :
    Triple (· = s) (syncParent call step) (fun _ t => call.script step = .none ∧ t = s) fun e t =>
      call.script step ≠ .none ∧
        (e = .osError ∧ call.unclosed step ∨
          e = .portableImportError .receiptRecoveryRequired ∧ call.unclosed step = false) ∧
        t = { s with recovery := s.recovery || (call.script .recordRecovery).takesEffect } := by
  refine triple_attempt osError?_osError (hsoft step)
    (fun hnone => .pure fun t ht => ⟨hnone, ht⟩) fun hne => ?_
  rw [residue_id]
  refine .bind ((triple_recordRecovery hsoft).mono_error ?_) fun _ => .raise ?_
  · rintro _ _ ⟨hclose, rfl, ht⟩
    exact ⟨hne, .inl ⟨rfl, by simp [Call.unclosed, hne, hclose]⟩, ht⟩
  · rintro _ ⟨hclose, ht⟩
    exact ⟨hne, .inr ⟨rfl, by simp [Call.unclosed, hclose]⟩, ht⟩

variable (call s receipt t) in
/-- What a call has done once its receipt is written, or is not. -/
structure Written : Prop where
  receipt : t.receipt = if call.links then some receipt else s.receipt
  destination : t.destination = s.destination
  catalogue : t.catalogue = s.catalogue
  recovery : t.recovery = (s.recovery || call.links && call.records)

omit hsoft in
lemma Written.of_not_links {receipt : Receipt} (h : call.links = false) :
    Written call s receipt s :=
  ⟨by simp [h], rfl, rfl, by simp [h]⟩

/-- How the temporary file is linked and unlinked. -/
lemma triple_publishReceipt (hparent : call.script .openParent = .none)
    (htemporary : call.script .openTemporary = .none) :
    Triple (· = s) (publishReceipt call receipt)
      (fun _ t => Written call s receipt t ∧ call.links ∧ call.breaks = false)
      fun e t => Written call s receipt t ∧
        (e = .osError ∧ (call.links → call.breaks) ∨
          e = .portableImportError .receiptRecoveryRequired ∧ call.breaks = false) := by
  refine triple_read (hsoft .stage) (fun hstage => ?_) fun hne => ?_
  rotate_left
  · have hlinks : call.links = false := by simp [Call.links, hne]
    exact ⟨.of_not_links hlinks, .inl ⟨rfl, by simp [hlinks]⟩⟩
  have hlinks : call.links = (call.script .link).takesEffect := by
    simp [Call.links, hparent, htemporary, hstage]
  refine triple_act (hsoft .link) (fun hlink => ?_) fun hne => ?_
  rotate_left
  · refine ⟨?_, .inl ⟨rfl, by simp [Call.breaks, hne]⟩⟩
    rw [Fault.residue, ← hlinks]
    split_ifs with h
    · exact ⟨by simp [h], rfl, rfl, by simp [Call.records, hne]⟩
    · exact .of_not_links (by simpa using h)
  replace hlinks : call.links := by rw [hlinks, hlink]; rfl
  -- from here on the receipt is there
  have hthere (hasTemporary recovery : Bool) (h : call.records = recovery) :
      Written call s receipt { s with
        receipt := some receipt, hasTemporary, recovery := s.recovery || recovery } :=
    ⟨by simp [hlinks], rfl, rfl, by simp [hlinks, h]⟩
  refine triple_read (hsoft .statPublished) (fun hstat => ?_) fun hne => ?_
  rotate_left
  · exact ⟨by simpa using hthere true false (by simp [Call.records, hne]),
      .inl ⟨rfl, by simp [Call.breaks, hne]⟩⟩
  refine .bind ((triple_syncParent hsoft).mono_error ?_) ?_
  · rintro _ _ ⟨hne, hraised, rfl⟩
    refine ⟨hthere true _ (by simp [Call.records, hlink, hstat, hne]), ?_⟩
    obtain ⟨rfl, hunclosed⟩ | ⟨rfl, hclosed⟩ := hraised
    · exact .inl ⟨rfl, by simp [Call.breaks, hunclosed]⟩
    · exact .inr ⟨rfl, by simp [Call.breaks, hlink, hstat, hne, hclosed]⟩
  rintro _ _ ⟨hsync, rfl⟩
  refine triple_act (hsoft .unlinkTemporary) (fun hunlink => ?_) (fun hne => ?_) _ rfl
  · have hbreaks : call.breaks = call.unclosed .syncCleanup := by
      simp [Call.breaks, Call.unclosed, hlink, hstat, hsync, hunlink]
    refine (triple_syncParent hsoft).mono_post ?_ ?_
    · rintro _ _ ⟨hcleanup, rfl⟩
      have hrecords : call.records = false := by simp [Call.records, hsync, hcleanup]
      exact ⟨by simpa using hthere false false hrecords, hlinks,
        by simp [hbreaks, Call.unclosed, hcleanup]⟩
    · rintro _ _ ⟨hne, hraised, rfl⟩
      refine ⟨hthere false _ (by simp [Call.records, hlink, hstat, hsync, hunlink, hne]), ?_⟩
      exact hraised.imp (.imp_right fun h _ => hbreaks.trans h) (.imp_right hbreaks.trans)
  · have hrecords : call.records = false := by simp [Call.records, hsync, hne]
    refine ⟨?_, .inl ⟨rfl, by simp [Call.breaks, hsync, hne]⟩⟩
    rw [Fault.residue]
    split_ifs
    · simpa using hthere false false hrecords
    · simpa using hthere true false hrecords

/-- `finally` leaves alone what was written. -/
lemma triple_closeReceipt (h : Written call s receipt t) : Triple (· = t) (closeReceipt call)
      (fun _ u => Written call s receipt u ∧ call.isRefused = call.breaks)
      fun e u => Written call s receipt u ∧ e = .osError ∧ call.isRefused := by
  refine triple_read (hsoft .closeTemporary) (fun htemporary => ?_)
    fun hne => ⟨h, rfl, by simp [Call.isRefused, hne]⟩
  have hlast {u : Store κ} (hu : Written call s receipt u) :
      Triple (· = u) (act (call.script .closeParent) id : Job κ Unit)
        (fun _ u => Written call s receipt u ∧ call.isRefused = call.breaks)
        fun e u => Written call s receipt u ∧ e = .osError ∧ call.isRefused := by
    refine (triple_step (hsoft .closeParent)).mono_post ?_ ?_
    · rintro _ _ ⟨hnone, rfl⟩
      exact ⟨hu, by simp [Call.isRefused, htemporary, hnone]⟩
    · rintro _ _ ⟨rfl, hne, rfl⟩
      exact ⟨by rwa [residue_id], rfl, by simp [Call.isRefused, hne]⟩
  have hremoved : Written call s receipt { t with hasTemporary := false } :=
    ⟨h.receipt, h.destination, h.catalogue, h.recovery⟩
  refine triple_attempt osError?_osError (hsoft .removeTemporary) (fun _ => hlast hremoved)
    fun _ => hlast ?_
  rw [Fault.residue]
  split_ifs
  · exact hremoved
  · exact h

/-- **How the receipt is written.** -/
theorem triple_writePortableImportReceipt : Triple (· = s) (writePortableImportReceipt call receipt)
      (fun _ t => Written call s receipt t ∧ call.links ∧ call.isRefused = false)
      fun e t => Written call s receipt t ∧ e ≠ .crash ∧ (call.links →
        (call.isRefused ↔ e ≠ .portableImportError .receiptRecoveryRequired)) := by
  have hnone {step : Step} (hstep : step ∈ [Step.openParent, .openTemporary, .stage])
      (hne : call.script step ≠ .none) : call.links = false := by
    rw [Call.links, Bool.and_eq_false_iff, List.all_eq_false]
    exact .inl ⟨step, hstep, by simpa using hne⟩
  refine triple_orRefuse (hsoft .openParent) (fun hparent => ?_) fun hne =>
    have hlinks := hnone (by decide) hne
    ⟨.of_not_links hlinks, nofun, by simp [hlinks]⟩
  refine triple_attempt caught_osError (hsoft .openTemporary) (fun htemporary => ?_) fun hne => ?_
  rotate_left
  · have hlinks := hnone (by decide) hne
    rw [residue_id]
    exact triple_read (hsoft .closeParent)
      (fun _ => .raise fun _ ht => ht ▸ ⟨.of_not_links hlinks, nofun, by simp [hlinks]⟩)
      fun _ => ⟨.of_not_links hlinks, nofun, by simp [hlinks]⟩
  have hclose {t : Store κ} (ht : Written call s receipt t) :=
    (triple_closeReceipt hsoft ht).mono_error (F := fun e u => Written call s receipt u ∧
      e ≠ .crash ∧ (call.links →
        (call.isRefused ↔ e ≠ .portableImportError .receiptRecoveryRequired))) <| by
      rintro _ _ ⟨hu, rfl, hrefused⟩
      exact ⟨hu, nofun, fun _ => iff_of_true hrefused nofun⟩
  refine .attempt_bind (triple_publishReceipt hsoft hparent htemporary) ?_ ?_ ?_
  · rintro _ t ⟨ht, hlinks, hbreaks⟩
    refine Triple.bind (hclose ht) (fun _ => Triple.pure ?_) t rfl
    rintro u ⟨hu, hrefused⟩
    exact ⟨hu, hlinks, hrefused.trans hbreaks⟩
  · rintro _ e hcaught t ⟨ht, ⟨rfl, hbreaks⟩ | ⟨rfl, hbreaks⟩⟩
    all_goals
      cases hcaught
      refine Triple.bind (hclose ht) (fun _ => Triple.raise ?_) t rfl
      rintro u ⟨hu, hrefused⟩
      refine ⟨hu, nofun, fun hlinks => ?_⟩
      simp [hrefused, hbreaks, hlinks]
  · rintro e t hnone ⟨-, ⟨rfl, -⟩ | ⟨rfl, -⟩⟩ <;> cases hnone

/-! ### The rollback -/

/-- The directory is gone, or nothing has changed. -/
structure Removed (call : Call κ) (t u : Store κ) : Prop where
  receipt : u.receipt = t.receipt
  recovery : u.recovery = t.recovery
  gone : call.removes → u.destination = none
  kept : call.removes = false → u.destination = t.destination ∧ u.catalogue = t.catalogue

/-- The directory is removed, and its entry is forgotten if it is the one. -/
lemma triple_removeTarget (hobserve : call.script .observeTarget = .none) (isMatching : Bool) :
    Triple (· = t) (do removeTarget call true; forgetEntry call isMatching)
      (fun _ => Removed call t) fun _ => Removed call t := by
  refine .bind (Q := fun _ u => call.script .removeTarget = .none ∧
    u = { t with destination := none }) ?_ ?_
  · refine triple_attempt caught_osError (hsoft .removeTarget)
      (fun hnone => .pure fun _ hu => ⟨hnone, hu⟩) fun hne => .raise ?_
    rintro _ rfl
    rw [Fault.residue]
    split_ifs with heffect
    · exact ⟨rfl, rfl, fun _ => rfl, by simp [Call.removes, hobserve, heffect]⟩
    · exact ⟨rfl, rfl, by simp [Call.removes, heffect], fun _ => ⟨rfl, rfl⟩⟩
  · rintro _ _ ⟨hnone, rfl⟩
    have hremoves : call.removes := by
      simp [Call.removes, hobserve, hnone, Fault.takesEffect]
    have hkeeps : Keeps (Removed call t) (forgetEntry call isMatching) := by
      rw [forgetEntry]
      split_ifs
      · exact keeps_act fun _ h => ⟨h.receipt, h.recovery, h.gone, by simp [hremoves]⟩
      · exact .pure ()
    exact hkeeps _ ⟨rfl, rfl, fun _ => rfl, by simp [hremoves]⟩

/-- **What a rollback of the import leaves.** -/
theorem triple_rollback (entry : Option Identity)
    (hthere : t.destination = some (call.identity, call.restored)) :
    Triple (· = t) (rollbackPortableImportDestination call (some call.identity) entry)
      (fun _ => Removed call t) fun _ => Removed call t := by
  have hbody : Triple (· = t) (removeDestination call call.identity entry)
      (fun _ => Removed call t) fun _ => Removed call t := by
    refine triple_read (hsoft .observeTarget) (fun hobserve => ?_) fun hne =>
      ⟨rfl, rfl, by simp [Call.removes, hne], fun _ => ⟨rfl, rfl⟩⟩
    refine triple_state (triple_raiseWhen (fun _ => ?_) fun hother => by simp [hthere] at hother)
    rw [hthere]
    refine triple_attempt caught_osError (hsoft .readCatalogue)
      (fun _ => triple_removeTarget hsoft hobserve _) fun _ => ?_
    rw [residue_id]
    exact triple_removeTarget hsoft hobserve _
  refine .bind (Triple.attempt_of_always hbody) fun result => ?_
  cases result with
  | ok _ => exact .pure fun _ h => h
  | error _ => exact .raise fun _ h => h

omit hsoft in
/-- The import stays, and a receipt tells it. -/
lemma settled_of_written {receipt : Receipt} (hnone : s.receipt = none)
    (hidentity : receipt.targetIdentity = call.identity)
    (h : Written call (s.imported call) receipt t)
    (hrefused : call.links → call.retracts = false) : Settled call s t := by
  cases hlinks : call.links with
  | false =>
    refine settled_of_receipt_eq_none ?_ (.inr hlinks)
    rw [h.receipt, hlinks]
    exact hnone
  | true =>
    refine iff_of_true (fun other hother => .inl ?_) (by simp [hrefused hlinks])
    rw [h.receipt, hlinks] at hother
    cases hother
    exact ⟨by rw [h.destination, hidentity]; rfl, by rw [h.catalogue, hidentity]; rfl⟩

omit hsoft in
/-- The import is rolled back, and the receipt stays. -/
lemma settled_of_removed {receipt : Receipt} {t u : Store κ} (himports : call.imports s)
    (hnone : s.receipt = none) (hidentity : receipt.targetIdentity = call.identity)
    (h : Written call (s.imported call) receipt t)
    (hrefused : call.links → call.isRefused) (hu : Removed call t u) :
    Settled call s u := by
  cases hlinks : call.links with
  | false =>
    refine settled_of_receipt_eq_none ?_ (.inr hlinks)
    rw [hu.receipt, h.receipt, hlinks]
    exact hnone
  | true =>
    cases hremoves : call.removes with
    | false =>
      obtain ⟨hdestination, hcatalogue⟩ := hu.kept hremoves
      refine settled_of_written hnone hidentity ⟨?_, ?_, ?_, ?_⟩ (by simp [Call.retracts, hremoves])
      · rw [hu.receipt, h.receipt]
      · rw [hdestination, h.destination]
      · rw [hcatalogue, h.catalogue]
      · rw [hu.recovery, h.recovery]
    | true =>
      have htruthful : u.Truthful ↔ u.recovery := by
        refine ⟨fun htrue => ?_, fun hdemanded _ _ => .inr hdemanded⟩
        have hreceipt : u.receipt = some receipt := by rw [hu.receipt, h.receipt, hlinks]; rfl
        rcases htrue _ hreceipt with ⟨hthere, -⟩ | hdemanded
        · rw [hu.gone hremoves] at hthere
          cases hthere
        · exact hdemanded
      rw [Settled, htruthful, hu.recovery, h.recovery, Call.retracts, hrefused hlinks, hremoves,
        himports, hlinks]
      change (s.recovery || _) ↔ _
      cases s.recovery <;> cases call.records <;> simp

/-! ### The call -/

/-- A call that has registered its directory. -/
lemma triple_finishImport {plan : Plan} (hnone : s.receipt = none)
    (himports : call.script .observeCreated = .none → call.imports s) :
    Triple (· = s.imported call) (finishImport call plan) (fun _ => Settled call s)
      fun _ => Settled call s := by
  refine triple_attempt caught_osError (hsoft .observeCreated) (fun hcreated => ?_) fun hne => ?_
  rotate_left
  · refine .raise ?_
    rintro _ rfl
    rw [residue_id]
    exact settled_of_receipt_eq_none hnone (.inl (not_imports (by decide) hne))
  refine .attempt_bind (triple_writePortableImportReceipt hsoft) ?_ ?_ ?_
  · rintro _ t ⟨ht, -, hrefused⟩
    exact settled_of_written hnone rfl ht (by simp [Call.retracts, hrefused])
  · rintro e d hd t ⟨ht, hcrash, hrefused⟩
    obtain rfl : e = d := by
      cases e <;> first | exact absurd rfl hcrash | exact Option.some.inj hd
    have hretract : Triple (· = t) (retractImport call e) (fun _ => Settled call s)
        fun _ => Settled call s := by
      rw [retractImport]
      split_ifs with he
      · refine .pure ?_
        rintro _ rfl
        refine settled_of_written hnone rfl ht fun hlinks => ?_
        simp [Call.retracts, Bool.eq_false_iff.mpr fun h => (hrefused hlinks).mp h he]
      · have hremoved {u : Store κ} (hu : Removed call t u) : Settled call s u :=
          settled_of_removed (himports hcreated) hnone rfl ht (fun h => (hrefused h).mpr he) hu
        exact (triple_rollback hsoft _ ht.destination).mono_post (fun _ _ => hremoved)
          fun _ _ => hremoved
    exact Triple.bind hretract (fun _ => Triple.raise fun _ h => h) t rfl
  · rintro e _ hd ⟨-, hcrash, -⟩
    cases e <;> first | exact absurd rfl hcrash | cases hd

/-- A call that stops before its directory is registered. -/
def Stopped (call : Call κ) (s t : Store κ) : Prop :=
  t.receipt = s.receipt ∧ call.imports s = false

lemma triple_preview : Triple (· = s) (previewPortableImport call)
    (fun _ t => t = s ∧ s.destination = none ∧ call.script .preview = .none)
    fun _ => Stopped call s := by
  refine triple_orRefuse (hsoft .preview) (fun hnone => triple_state ?_)
    fun hne => ⟨rfl, not_imports (by decide) hne⟩
  rw [raiseWhen]
  split_ifs with hthere
  · refine .raise ?_
    rintro _ rfl
    exact ⟨rfl, by simp [Call.imports, Option.isSome_iff_ne_none.mp hthere]⟩
  · exact .pure fun _ ht => ⟨ht, by simpa using hthere, hnone⟩

lemma triple_importPortable (habsent : s.destination = none) :
    Triple (· = s) (importPortable call)
      (fun _ t => t = { s with destination := some (call.identity, call.restored) } ∧
        call.script .restore = .none ∧ call.script .observeRestored = .none)
      fun _ => Stopped call s := by
  refine triple_state (triple_raiseWhen (fun _ => ?_) fun h => by simp [habsent] at h)
  refine triple_act (hsoft .restore) (fun hnone => ?_)
    fun hne => ⟨by rw [Fault.residue]; split_ifs <;> rfl, not_imports (by decide) hne⟩
  refine (triple_step (hsoft .observeRestored)).mono_post (fun _ _ h => ⟨h.2, hnone, h.1⟩) ?_
  rintro _ _ ⟨-, hne, rfl⟩
  rw [residue_id]
  exact ⟨rfl, not_imports (by decide) hne⟩

lemma triple_registerDestination (hcatalogue : t.catalogue = s.catalogue) :
    Triple (· = t) (registerDestination call)
      (fun _ u => u = { t with catalogue := some call.identity } ∧ s.catalogue = none ∧
        call.isApplication ∧ call.script .validateApplication = .none ∧
        call.script .register = .none)
      fun _ u => u.receipt = t.receipt ∧ u.destination = t.destination ∧
        call.imports s = false := by
  refine triple_read (hsoft .validateApplication) (fun hvalidate => ?_)
    fun hne => ⟨rfl, rfl, not_imports (by decide) hne⟩
  refine triple_raiseWhen (fun happlication => triple_state (triple_raiseWhen (fun hnone => ?_)
    fun hsome => ?_)) fun hfalse => ⟨rfl, rfl, by simp [Call.imports, hfalse]⟩
  · rw [hcatalogue] at hnone
    refine (triple_step (hsoft .register)).mono_post (fun _ _ h => ⟨h.2, by simpa using hnone,
      by simpa using happlication, hvalidate, h.1⟩) ?_
    rintro _ _ ⟨-, hne, rfl⟩
    rw [Fault.residue]
    split_ifs <;> exact ⟨rfl, rfl, not_imports (by decide) hne⟩
  · rw [hcatalogue] at hsome
    exact ⟨rfl, rfl, by simp [Call.imports, Option.isSome_iff_ne_none.mp hsome]⟩

/-- The directory is there and registered, or the call stops. -/
lemma triple_importInstanceArchive (habsent : s.destination = none) :
    Triple (· = s) (importInstanceArchive call)
      (fun _ t => t = s.imported call ∧ s.catalogue = none ∧ call.isApplication ∧
        ∀ step ∈ [Step.restore, .observeRestored, .observeDestination, .validateApplication,
          .register], call.script step = .none)
      fun _ => Stopped call s := by
  refine .bind (triple_importPortable hsoft habsent) ?_
  rintro _ _ ⟨rfl, hrestore, hrestored⟩
  refine triple_attempt caught_osError (hsoft .observeDestination) (fun hobserved => ?_)
    (fun hne => ?_) _ rfl
  rotate_left
  · refine .raise ?_
    rintro _ rfl
    rw [residue_id]
    exact ⟨rfl, not_imports (by decide) hne⟩
  refine .attempt_bind (triple_registerDestination hsoft (s := s) rfl) ?_ ?_ ?_
  · rintro _ _ ⟨rfl, hcatalogue, happlication, hvalidate, hregister⟩
    refine ⟨rfl, hcatalogue, happlication, ?_⟩
    simp [hrestore, hrestored, hobserved, hvalidate, hregister]
  · rintro _ _ - t ⟨hreceipt, hdestination, himports⟩
    have hstopped {u : Store κ} (hu : Removed call t u) : Stopped call s u :=
      ⟨hu.receipt.trans hreceipt, himports⟩
    refine Triple.bind ((triple_rollback hsoft none hdestination).mono_error fun _ _ => hstopped)
      (fun _ => .raise fun _ => hstopped) t rfl
  · exact fun _ _ _ h => ⟨h.1, h.2.2⟩

/-- A call of an import that has no receipt. -/
lemma triple_importFresh {plan : Plan} (haccepted : call.isAccepted)
    (hnone : s.receipt = none) (hstore : call.script .receiptStore = .none)
    (hread : call.script .readReceipt = .none) :
    Triple (· = s) (importFresh call plan) (fun _ => Settled call s) fun _ => Settled call s := by
  have hstopped {t : Store κ} (h : Stopped call s t) : Settled call s t :=
    settled_of_receipt_eq_none (h.1.trans hnone) (.inl h.2)
  have himport : Triple (· = s) (do previewPortableImport call; importInstanceArchive call)
      (fun _ t => t = s.imported call ∧
        (call.script .observeCreated = .none → call.imports s)) fun _ => Stopped call s := by
    refine .bind (triple_preview hsoft) ?_
    rintro _ _ ⟨rfl, habsent, hpreview⟩
    refine (triple_importInstanceArchive hsoft habsent).mono_post ?_ (fun _ _ h => h) _ rfl
    rintro _ _ ⟨rfl, hcatalogue, happlication, hsteps⟩
    refine ⟨rfl, fun hcreated => ?_⟩
    simp only [List.mem_cons, List.not_mem_nil, or_false, forall_eq_or_imp, forall_eq] at hsteps
    simp [Call.imports, haccepted, hnone, habsent, hcatalogue, happlication, Step.early, hstore,
      hread, hpreview, hsteps, hcreated]
  refine .attempt_bind himport ?_ (fun _ _ _ => .raise fun _ => hstopped) fun _ _ _ => hstopped
  rintro _ _ ⟨rfl, himports⟩
  exact triple_finishImport hsoft hnone himports _ rfl

/-- **A call in which steps raise `OSError` keeps the store truthful exactly if it does not retract
an import whose receipt is linked.** -/
theorem truthful_iff [DecidableEq κ] (hs : s.Truthful) :
    (applyPortableImport call s).2.Truthful ↔ ¬ (call.imports s ∧ call.links ∧
      call.retracts ∧ s.recovery = false) := by
  have hsame (h : call.imports s = false) : Settled call s s := iff_of_true hs (by simp [h])
  have hsettled : Triple (· = s) (applyPortableImport call) (fun _ => Settled call s)
      fun _ => Settled call s := by
    refine triple_lift (fun plan hplan => ?_)
      fun e he => hsame (by simp [Call.imports, Call.isAccepted, he])
    refine triple_lift (fun _ hdigest => ?_) fun e he => hsame ?_
    rotate_left
    · rw [raiseIf] at he
      split_ifs at he with hdigest
      simp [Call.imports, Call.isAccepted, hplan, hdigest]
    rw [raiseIf_eq_ok, not_not] at hdigest
    refine triple_lift (fun _ happroval => ?_) fun e he =>
      hsame (by simp [Call.imports, Call.isAccepted, he, Except.isOk, Except.toBool])
    refine triple_read (hsoft .receiptStore) (fun hstore => ?_)
      fun hne => hsame (not_imports (by decide) hne)
    cases hreceipt : s.receipt with
    | some receipt =>
      -- a receipt that was there is read, and nothing is written
      have hprior := hsame (by simp [Call.imports, hreceipt])
      refine .bind (Q := fun prior t => t = s ∧ prior = some receipt)
        (triple_orRefuse (hsoft .readReceipt) (fun _ => triple_state ?_) fun _ => hprior) ?_
      · simp only [hreceipt]
        split_ifs
        · exact .raise fun _ ht => ht ▸ hprior
        · exact .pure fun _ ht => ⟨ht, rfl⟩
      · rintro _ _ ⟨rfl, rfl⟩
        refine triple_orRefuse (hsoft .readInstance) (fun _ => ?_) (fun _ => hprior) _ rfl
        apply triple_state
        split_ifs
        · exact .pure fun _ ht => ht ▸ hprior
        · exact .raise fun _ ht => ht ▸ hprior
    | none =>
      refine .bind (Q := fun prior t => t = s ∧ prior = none ∧
          call.script .readReceipt = .none) (triple_orRefuse (hsoft .readReceipt)
        (fun hread => triple_state ?_) fun hne => hsame (not_imports (by decide) hne)) ?_
      · rw [hreceipt]
        exact .pure fun _ ht => ⟨ht, rfl, hread⟩
      · rintro _ _ ⟨rfl, rfl, hread⟩
        refine triple_importFresh hsoft ?_ hreceipt hstore hread _ rfl
        simp [Call.isAccepted, hplan, hdigest, happroval, Except.isOk, Except.toBool]
  exact hsettled.apply_always rfl

end

/-- The temporary file of the receipt cannot be removed. -/
def keepsTemporary (step : Step) : Fault :=
  if step = .unlinkTemporary then .before .osError else .none

lemma raisesOnly_keepsTemporary (step : Step) :
    ((Call.accepted keepsTemporary).script step).raisesOnly .osError := by
  cases step <;> rfl

lemma truthful_empty : (Store.empty : Store SampleFiles).Truthful := nofun

/-- The receipt of an import that was rolled back: the call is refused, the directory and the entry
are gone, and the receipt is there. -/
theorem unlink_leaves_receipt :
    let call := Call.accepted keepsTemporary
    let after := (applyPortableImport call .empty).2
    (∀ step, (call.script step).raisesOnly .osError) ∧
      (Store.empty : Store SampleFiles).Truthful ∧
      (applyPortableImport call .empty).1 = .error (.portableImportError .receiptRefused) ∧
      after.receipt.isSome ∧ after.destination = none ∧ after.catalogue = none ∧
      after.recovery = false ∧ ¬ after.Truthful := by
  refine ⟨raisesOnly_keepsTemporary, truthful_empty, rfl, rfl, rfl, rfl, rfl, fun htruthful => ?_⟩
  rcases htruthful _ rfl with ⟨hthere, -⟩ | hdemanded
  · cases hthere
  · cases hdemanded

/-- A synchronisation that fails. -/
def failsToSync (step : Step) : Fault :=
  if step = .syncCleanup then .before .osError else .none

/-- The receipt is there with the import, and an inspection is demanded. -/
theorem truthful_accepted :
    (applyPortableImport (Call.accepted failsToSync) .empty).1 =
        .error (.portableImportError .receiptRecoveryRequired) ∧
      (applyPortableImport (Call.accepted failsToSync) .empty).2.Truthful :=
  ⟨rfl, (truthful_iff (fun step => by cases step <;> rfl) truthful_empty).2 (by decide)⟩

end StatePort.PortableImport
