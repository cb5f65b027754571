import StatePort.Daemon.Equiv.Boot
import StatePort.Daemon.Equiv.Supervision

/-!
# Invariants of the whole daemon

`ClosedAt workloadId K` says that `K` is kept by all that the daemon does for a workload: it asks,
inspects, acts on verified containers, and writes entries that are `Proper`: a cleanup target that
is recorded is one in which a cleanup can end. `Closed K` says so of all workloads.

Supervision of a workload keeps what is closed at it (`ClosedAt.superviseWorkload`); a sweep and a
restart keep what is closed (`Closed.superviseAll`, `Closed.reconcileOnBoot`).
-/

namespace StatePort.Daemon

open Effect

variable {host : Host} {id : Id} {entry old : Entry} {K I : World → Prop} {α : Type}
  {change : Change} {state : State}

/-! ### Proper writes -/

/-- The recorded target of a cleanup, if there is one, is one in which it can end. -/
def Entry.HasSettledTarget (entry : Entry) : Prop :=
  ∀ target ∈ entry.cleanupTargetState, Settles entry.spec target

/-- The entry has a target in which a cleanup can end, or keeps the one that it had. -/
def Proper (ledger : Ledger) (entry : Entry) : Prop :=
  entry.HasSettledTarget ∨ ∃ old, ledger.find? entry.workloadId = some old ∧
    entry.spec = old.spec ∧ entry.cleanupTargetState = old.cleanupTargetState

/-- Every target that the change records is one in which a cleanup can end. -/
def Change.Settles (change : Change) (spec : Spec) : Prop :=
  ∀ target, Extra.cleanupTargetState (some target) ∈ change.extra → Daemon.Settles spec target

lemma cleanupTargetState_foldl (extra : List Extra) (entry : Entry) :
    (extra.foldl Entry.set entry).cleanupTargetState = entry.cleanupTargetState ∨
      Extra.cleanupTargetState (extra.foldl Entry.set entry).cleanupTargetState ∈ extra := by
  induction extra generalizing entry with
  | nil => exact Or.inl rfl
  | cons x extra ih =>
    rw [List.foldl_cons]
    rcases ih (entry.set x) with hsame | hmem
    · cases x with
      | cleanupTargetState target =>
        right
        rw [hsame]
        exact List.mem_cons_self
      | _ => exact Or.inl hsame
    · exact Or.inr (List.mem_cons_of_mem x hmem)

lemma proper_transitioned {ledger : Ledger} (hfind : ledger.find? id = some old)
    (h : change.Settles old.spec) : Proper ledger (old.transitioned state change) := by
  rcases cleanupTargetState_foldl change.extra { old with
      state
      version := old.version + 1
      updatedAt := change.at_
      exitStatus := change.exitStatus <|> old.exitStatus
      startedAt := change.startedAt <|> old.startedAt
      finishedAt := change.finishedAt <|> old.finishedAt
      receipts := old.receipts ++ change.receipt.toList } with hsame | hmem
  · refine Or.inr ⟨old, ?_, transitioned_spec, hsame⟩
    rw [transitioned_workloadId, workloadId_of_find? hfind]
    exact hfind
  · refine Or.inl fun target htarget => ?_
    rw [transitioned_spec]
    refine h target ?_
    rw [Entry.transitioned, Option.mem_def] at htarget
    rw [htarget] at hmem
    exact hmem

lemma Change.settles_of_notMem {spec : Spec}
    (h : ∀ target, Extra.cleanupTargetState target ∉ change.extra) : change.Settles spec :=
  fun target hmem => absurd hmem (h (some target))

lemma Change.IsNote.notMem (h : change.IsNote) (target : Option State) :
    Extra.cleanupTargetState target ∉ change.extra :=
  fun hmem => by cases h.extra _ hmem

lemma Supervised.settles (h : Supervised old state change) : change.Settles old.spec := by
  cases h with
  | note hnote => exact Change.settles_of_notMem hnote.notMem
  | pending _ hextra => exact Change.settles_of_notMem hextra
  | recovered at_ _ => exact fun _ hmem => by simp [recoveredChange] at hmem
  | ended _ _ _ hextra => exact Change.settles_of_notMem hextra
  | failed _ _ hends hextra hrest =>
    intro target hmem
    rw [hextra, List.mem_cons] at hmem
    rcases hmem with heq | hmem
    · cases heq
      exact hends.1
    · exact absurd hmem (hrest _)

lemma notMem_failureFields {detail : PyStr} (target : Option State) :
    Extra.cleanupTargetState target ∉ failureFields state detail := by
  rw [failureFields]
  split_ifs <;> simp

/-! ### Closed invariants -/

/-- `K` is kept by all that the daemon does for a workload. -/
structure ClosedAt (workloadId : Id) (K : World → Prop) : Prop where
  asked : ∀ world, K world → K { world with questions := world.questions + 1 }
  inspected : ∀ world info, K world →
    K { world with trace := .inspected workloadId info :: world.trace }
  called : ∀ world verb containerId, K world → Verified workloadId containerId world →
    K { world with trace := .called verb workloadId containerId :: world.trace }
  written : ∀ world entry, entry.workloadId = workloadId → K world → Proper world.ledger entry →
    K (world.written entry)

/-! ### Snapshots of an entry -/

/-- A bound entry stays bound under another snapshot of it. -/
lemma SameIdentity.bound {snapshot : Entry} (h : SameIdentity snapshot entry) {w : World}
    (hbound : Bound entry w) : Bound snapshot w := by
  obtain ⟨current, hfind, hsame⟩ := hbound
  exact ⟨current, h.workloadId ▸ hfind,
    hsame.trans ⟨h.workloadId.symm, h.spec.symm, h.containerId.symm⟩⟩

variable {E : Failure → World → Prop}

/-- What is done with a snapshot of the entry that is still bound. -/
lemma triple_snapshot {f : Entry → Run α} {Q : α → World → Prop}
    (h : ∀ snapshot, SameIdentity snapshot entry →
      Triple (fun w => K w ∧ Bound snapshot w) (f snapshot) Q E) (snapshot : Entry) :
    Triple (fun w => (K w ∧ Bound entry w) ∧ SameIdentity snapshot entry) (f snapshot) Q E := by
  by_cases hsame : SameIdentity snapshot entry
  · exact (h snapshot hsame).mono_pre fun _ h => ⟨h.1.1, hsame.bound h.1.2⟩
  · exact fun w h => absurd h.2 hsame

section

variable (hK : ClosedAt id K)
include hK

lemma ClosedAt.stable : Stable id K where
  asked := hK.asked
  inspected := hK.inspected
  called := hK.called
  noted w old change h hfind hnote := by
    refine hK.written w _ ?_ h (proper_transitioned hfind (Change.settles_of_notMem ?_))
    · rw [transitioned_workloadId, workloadId_of_find? hfind]
    · exact fun _ hmem => by cases hnote.extra _ hmem

lemma ClosedAt.transitionSnapshot (hid : entry.workloadId = id)
    (hchange : ∀ w old, I w → w.ledger.find? entry.workloadId = some old →
      change.Settles old.spec) (hI : ∀ w, I w → K w) :
    Triple I (write fun ledger => transitionSnapshot ledger entry state change) (fun _ => K)
      (Raises K) := by
  refine triple_write (fun w entry' ledger hw h => ?_)
    fun w error hw _ => ⟨hI w hw, Failure.isOrdinary_ledger error⟩
  obtain ⟨old, hfind, -, -, rfl, rfl⟩ := transitionSnapshot_eq_ok_iff.mp h
  refine hK.written w _ ?_ (hI w hw) (proper_transitioned hfind (hchange w old hw hfind))
  rw [transitioned_workloadId, workloadId_of_find? hfind, hid]

/-! ### The reconciliation of an effect -/

lemma ClosedAt.recordReconciliation {target : State} (htarget : target.isTerminal)
    (kind : ReceiptKind) (detail : PyStr) (snapshotPath : Option PyStr) (complete : Bool)
    (attempts : ℕ) :
    Orderly K (recordReconciliation host id kind detail target snapshotPath complete attempts) := by
  induction attempts with
  | zero => exact .raise fun _ h => ⟨h, Failure.isOrdinary_ledger _⟩
  | succ attempts ih =>
    refine .bind (triple_getCurrent id) fun found => ?_
    cases found with
    | none => exact .raise fun _ h => ⟨h.1, Failure.isOrdinary_ledger _⟩
    | some current =>
      by_cases hid : current.workloadId = id
      · refine .bind (triple_ask hK.asked _).dropping fun at_ => ?_
        have hsettles : ∀ spec, (⟨at_, some kind, none, none, some at_, reconciledExtra current
            complete target at_ snapshotPath detail⟩ : Change).Settles spec := by
          intro spec recorded hmem
          -- Only an incomplete cleanup records a target, and it is terminal.
          have hrecorded : recorded = current.terminalOr target := by
            cases complete with
            | true => exact absurd hmem (notMem_failureFields _)
            | false =>
              cases snapshotPath with
              | none | some path => simpa [reconciledExtra, notMem_failureFields] using hmem
          left
          rw [hrecorded, Entry.terminalOr]
          split_ifs with hterminal
          · exact hterminal
          · exact htarget
        refine .bind (Orderly.attempt (hK.transitionSnapshot hid
          (fun _ old _ _ => hsettles old.spec) fun _ h => h)) fun result => ?_
        cases result with
        | ok entry => exact .pure fun _ h => h
        | error error => exact ih
      · exact fun w h => absurd (h.2 current rfl).2 hid

lemma ClosedAt.recordPostEffectReconciliation {target : State}
    (htarget : target.isTerminal) (kind : ReceiptKind) (detail : PyStr)
    (snapshotPath : Option PyStr) :
    Orderly K (recordPostEffectReconciliation host id kind detail target snapshotPath) :=
  .bind (orderly_cleanupEngineEffect hK.stable snapshotPath _) fun _ =>
    hK.recordReconciliation htarget kind detail snapshotPath _ _

/-! ### Supervision -/

lemma ClosedAt.supervised : SupervisedAt id K where
  asked := hK.asked
  inspected := hK.inspected
  called := hK.called
  transitioned w old state change h hfind hsupervised := by
    refine hK.written w _ ?_ h (proper_transitioned hfind hsupervised.settles)
    rw [transitioned_workloadId, workloadId_of_find? hfind]

end

/-! ### The whole daemon -/

/-- `K` is kept by all that the daemon does. -/
structure Closed (K : World → Prop) : Prop where
  asked : ∀ world, K world → K { world with questions := world.questions + 1 }
  workload : ∀ workloadId, ClosedAt workloadId K

lemma Change.OfBoot.settles {spec : Spec} (h : change.OfBoot) : change.Settles spec := by
  refine Change.settles_of_notMem fun target hmem => ?_
  obtain ⟨status, hstatus⟩ := h _ hmem
  cases hstatus

section

variable (hK : Closed K)
include hK

lemma Closed.stable (id : Id) : Stable id K := (hK.workload id).stable

lemma Closed.written (w : World) (entry : Entry) (h : K w)
    (hentry : Proper w.ledger entry) : K (w.written entry) :=
  (hK.workload entry.workloadId).written w entry rfl h hentry

lemma Closed.ask (question : World → α) : Triple K (ask question) (fun _ => K) E :=
  triple_ask hK.asked question

lemma Closed.askEngine (question : World → Except PyStr α) : Orderly K (askEngine question) :=
  orderly_askEngine hK.asked question

lemma Closed.transitionSnapshot
    (hchange : ∀ w old, I w → w.ledger.find? entry.workloadId = some old →
      change.Settles old.spec) (hI : ∀ w, I w → K w) :
    Triple I (write fun ledger => transitionSnapshot ledger entry state change) (fun _ => K)
      (Raises K) :=
  (hK.workload entry.workloadId).transitionSnapshot rfl hchange hI

lemma Closed.transition (h : ∀ target, Extra.cleanupTargetState target ∉ change.extra) :
    Orderly K (write fun ledger => Daemon.transitionSnapshot ledger entry state change) :=
  hK.transitionSnapshot (fun _ _ _ _ => Change.settles_of_notMem h) fun _ h => h

lemma Closed.superviseAll : Keeps K (superviseAll host) :=
  keeps_superviseAll fun id => (hK.workload id).supervised

/-! ### Restarts -/

lemma Closed.reconcileOnBoot (at_ : PyStr) : Keeps K (reconcileOnBoot host at_) := by
  refine triple_reconcileOnBoot hK.asked (fun _ h => h) fun _ entry _ _ =>
    ⟨hK.stable entry.workloadId, fun w old state change h hfind _ _ hchange => ?_⟩
  exact hK.written w _ h (proper_transitioned hfind hchange.settles)

end

end StatePort.Daemon
