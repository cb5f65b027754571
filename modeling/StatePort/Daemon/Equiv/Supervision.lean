import StatePort.Daemon.Supervision
import StatePort.Daemon.Equiv.Host

/-!
# The transitions of supervision

`Supervised old` lists the transitions that a supervision pass makes from an entry: notes, what a
pending cleanup records, and the end of a workload that is alive. A pass reads its entry under the
lock of the workload and writes only notes before its last transition, so what it has read stays
true up to notes (`Held`).

`SupervisedAt workloadId K` says that `K` is kept by these transitions and by what a pass does to
the engine; then a pass keeps `K` (`SupervisedAt.superviseWorkload`), and so does a sweep over all
workloads (`keeps_superviseAll`).
-/

namespace StatePort.Daemon

open Effect

variable {host : Host} {id : Id} {e old : Entry} {K I : World → Prop} {α : Type}
  {change : Change} {state : State} {w : World}

/-! ### Transitions -/

/-- A cleanup of such a workload can end in the state: it is terminal, or the workload is a
workspace that is to be stopped. -/
def Settles (spec : Spec) (target : State) : Prop :=
  target.isTerminal ∨ (target = .stopped ∧ spec.isWorkspace)

/-- The states in which a workload ends that is alive. -/
def Ends (old : Entry) (target : State) : Prop :=
  Settles old.spec target ∧
    (target = withdrawnState old ∨ old.state = .reserved ∨ old.state = .running)

/-- The transitions that supervision makes from an entry. -/
inductive Supervised (old : Entry) : State → Change → Prop where
  | note {change : Change} (hnote : change.IsNote) : Supervised old old.state change
  /-- A cleanup that has failed stays pending. -/
  | pending {change : Change} (hstate : old.state = .cleanupFailed)
      (hextra : ∀ target, Extra.cleanupTargetState target ∉ change.extra) :
      Supervised old .cleanupFailed change
  /-- A cleanup has been completed. -/
  | recovered (at_ : PyStr) (hstate : old.state = .cleanupFailed) :
      Supervised old old.cleanupTarget (recoveredChange at_ old)
  /-- A workload that is alive has ended. -/
  | ended {state : State} {change : Change} (halive : old.state.isTerminal = false)
      (hstate : old.state ≠ .cleanupFailed) (hends : Ends old state)
      (hextra : ∀ target, Extra.cleanupTargetState target ∉ change.extra) :
      Supervised old state change
  /-- A workload that is alive is to end, and its cleanup has failed. -/
  | failed {change : Change} {target : State} {rest : List Extra}
      (halive : old.state.isTerminal = false) (hstate : old.state ≠ .cleanupFailed)
      (hends : Ends old target)
      (hextra : change.extra = .cleanupTargetState (some target) :: rest)
      (hrest : ∀ target, Extra.cleanupTargetState target ∉ rest) :
      Supervised old .cleanupFailed change

lemma settles_withdrawnState (e : Entry) : Settles e.spec (withdrawnState e) := by
  rw [withdrawnState]
  split_ifs with hworkspace
  · exact Or.inr ⟨rfl, hworkspace⟩
  · exact Or.inl rfl

lemma ends_withdrawnState (e : Entry) : Ends e (withdrawnState e) :=
  ⟨settles_withdrawnState e, Or.inl rfl⟩

/-! ### Snapshots -/

lemma OnlyNotes.withdrawnState (h : OnlyNotes old e) :
    withdrawnState old = Daemon.withdrawnState e := by
  rw [Daemon.withdrawnState, Daemon.withdrawnState, h.spec]

lemma OnlyNotes.cleanupTarget (h : OnlyNotes old e) : old.cleanupTarget = e.cleanupTarget := by
  rw [Entry.cleanupTarget, Entry.cleanupTarget, h.cleanupTargetState]

lemma Current.held (h : Current e w) : Held e w := ⟨e, h, OnlyNotes.refl e⟩

/-- An entry that is held stays held under another snapshot of it. -/
lemma OnlyNotes.held {snapshot : Entry} (h : OnlyNotes snapshot e) (hheld : Held e w) :
    Held snapshot w := by
  obtain ⟨current, hfind, hsame⟩ := hheld
  exact ⟨current, h.workloadId ▸ hfind, hsame.trans h.symm⟩

variable {E : Failure → World → Prop}

/-- What is done with a snapshot of the entry that is still held. -/
lemma triple_heldSnapshot {f : Entry → Run α} {Q : α → World → Prop}
    (h : ∀ snapshot, OnlyNotes snapshot e →
      Triple (fun w => K w ∧ Held snapshot w) (f snapshot) Q E) (snapshot : Entry) :
    Triple (fun w => (K w ∧ Held e w) ∧ OnlyNotes snapshot e) (f snapshot) Q E := by
  by_cases hsame : OnlyNotes snapshot e
  · exact (h snapshot hsame).mono_pre fun _ h => ⟨h.1.1, hsame.held h.1.2⟩
  · exact fun w h => absurd h.2 hsame

/-! ### Engine effects -/

section

variable (hI : Stable e.workloadId I) (hbound : ∀ w, I w → Bound e w)
include hI hbound

/-- A workspace is stopped under whatever is stable and binds its entry. -/
lemma keeps_stopWorkspace : Keeps I (stopWorkspace host e) := by
  refine .bind (.attempt (keeps_actOnOwned hI hbound .stop)) fun _ => ?_
  exact .bind_pure (orderly_residualEvidence hI).kept

lemma keeps_retryEffect : Keeps I (retryEffect host e) := by
  rw [retryEffect]
  split_ifs
  · exact keeps_stopWorkspace hI hbound
  · exact (orderly_cleanupEngineEffect hI _ _).kept

lemma keeps_withdrawEffect : Keeps I (withdrawEffect host e) := by
  rw [withdrawEffect]
  split_ifs
  · exact keeps_stopWorkspace hI hbound
  · exact (orderly_cleanupEngineEffect hI _ _).kept

lemma keeps_stopOverdue : Keeps I (stopOverdue host e) := by
  refine .bind (.attempt (keeps_actOnOwned hI hbound .stop)) fun _ => ?_
  exact .bind_pure (orderly_safeInspect hI).kept

end

variable {changeOf : PyStr → Entry → Change} {R : World → Prop}

/-- **A transition from the entry as it is now.** Nobody writes between the read and the write, so
it succeeds. -/
theorem triple_transitionCurrent (hI : Stable e.workloadId I)
    (hheld : ∀ w, I w → Held e w)
    (hR : ∀ w current at_, I w → w.ledger.find? e.workloadId = some current →
      OnlyNotes current e →
      R (w.written (current.transitioned state (changeOf at_ current)))) :
    Triple I (transitionCurrent host e state changeOf) (fun _ => R) E := by
  refine .bind (Q := fun found w => (I w ∧
    w.ledger.find? e.workloadId = found) ∧
    ∃ current, found = some current ∧ OnlyNotes current e) ?_ fun found => ?_
  · refine .bind_state fun w hw => .pure ?_
    rintro _ ⟨rfl, -⟩
    exact ⟨⟨hw, rfl⟩, hheld _ hw⟩
  by_cases hfound : ∃ current, found = some current ∧ OnlyNotes current e
  · obtain ⟨current, rfl, hsame⟩ := hfound
    have hread : ∀ w, I w ∧ w.ledger.find? e.workloadId = some current →
        I { w with questions := w.questions + 1 } ∧
          w.ledger.find? e.workloadId = some current :=
      fun w h => ⟨hI.asked w h.1, h.2⟩
    refine .bind ((triple_ask hread host.clock).mono_pre fun _ h => h.1) fun at_ => ?_
    have hwrite : ∀ w, I w ∧ w.ledger.find? e.workloadId = some current →
        transitionSnapshot w.ledger current state (changeOf at_ current) =
          .ok (current.transitioned state (changeOf at_ current),
            w.ledger.put (current.transitioned state (changeOf at_ current))) :=
      fun w h => transitionSnapshot_of_find? (hsame.workloadId ▸ h.2)
    refine .bind_pure (triple_write (fun w written ledger hw h => ?_) fun w error hw h => ?_)
    · have heq := (hwrite w hw).symm.trans h
      cases heq
      exact hR w current at_ hw.1 hw.2 hsame
    · have heq := (hwrite w hw).symm.trans h
      cases heq
  · exact fun w h => absurd h.2 hfound

/-! ### Passes -/

/-- `K` is kept by all that supervision of a workload does. -/
structure SupervisedAt (workloadId : Id) (K : World → Prop) : Prop where
  asked : ∀ world, K world → K { world with questions := world.questions + 1 }
  inspected : ∀ world info, K world →
    K { world with trace := .inspected workloadId info :: world.trace }
  called : ∀ world verb containerId, K world → Verified workloadId containerId world →
    K { world with trace := .called verb workloadId containerId :: world.trace }
  transitioned : ∀ world old state change, K world →
    world.ledger.find? workloadId = some old → Supervised old state change →
    K (world.written (old.transitioned state change))

lemma SupervisedAt.stable (hK : SupervisedAt id K) : Stable id K where
  asked := hK.asked
  inspected := hK.inspected
  called := hK.called
  noted w old _ h hfind hnote := hK.transitioned w old old.state _ h hfind (.note hnote)

/-- `x` keeps `K` where it starts with `entry` held. -/
abbrev KeepsHeld (K : World → Prop) (e : Entry) (x : Run α) : Prop :=
  Triple (fun w => K w ∧ Held e w) x (fun _ => K) fun _ => K

section

variable (hK : SupervisedAt e.workloadId K)
include hK

lemma SupervisedAt.held : Stable e.workloadId fun w => K w ∧ Held e w :=
  hK.stable.and (stable_held e)

lemma SupervisedAt.transitionSnapshot
    (h : ∀ old, OnlyNotes old e → Supervised old state change) :
    KeepsHeld K e (write fun ledger => transitionSnapshot ledger e state change) := by
  refine triple_write (fun w written ledger hw hwrite => ?_) fun _ _ hw _ => hw.1
  obtain ⟨old, hfind, -, -, rfl, rfl⟩ := transitionSnapshot_eq_ok_iff.mp hwrite
  obtain ⟨current, hcurrent, hsame⟩ := hw.2
  cases hcurrent.symm.trans hfind
  exact hK.transitioned w old state change hw.1 hfind (h old hsame)

lemma SupervisedAt.transitionCurrent (h : ∀ at_ current, OnlyNotes current e →
      Supervised current state (changeOf at_ current)) :
    KeepsHeld K e (transitionCurrent host e state changeOf) :=
  triple_transitionCurrent hK.held (fun _ h => h.2) fun w current at_ hw hfind hsame =>
    hK.transitioned w current state _ hw.1 hfind (h at_ current hsame)

/-! ### Failed cleanups -/

lemma SupervisedAt.escalate (hstate : e.state = .cleanupFailed) :
    KeepsHeld K e (escalate host e) := by
  rw [Daemon.escalate]
  split_ifs
  · exact .pure fun _ h => h.1
  · refine .bind (orderly_residualEvidence hK.held).kept.kept fun _ => ?_
    refine .bind (keeps_ask hK.held _) fun at_ => ?_
    refine Triple.bind_pure (hK.transitionSnapshot fun old hsame => ?_)
    exact .pending (hsame.state.trans hstate) (by simp)

lemma SupervisedAt.retryCleanup (hstate : e.state = .cleanupFailed) :
    KeepsHeld K e (retryCleanup host e) := by
  rw [Daemon.retryCleanup]
  split_ifs
  · exact hK.escalate hstate
  · refine .bind (keeps_retryEffect hK.held fun _ h => h.2.bound).kept fun complete => ?_
    split_ifs
    · refine hK.transitionCurrent fun at_ current hsame => ?_
      rw [← hsame.cleanupTarget]
      exact .recovered at_ (hsame.state.trans hstate)
    · exact hK.transitionCurrent fun at_ current hsame =>
        .pending (hsame.state.trans hstate) (by simp)

/-! ### Workloads that are alive -/

section

variable (halive : e.state.isTerminal = false) (hstate : e.state ≠ .cleanupFailed)
include halive hstate

lemma SupervisedAt.withdraw :
    KeepsHeld K e (withdraw host e) := by
  rw [Daemon.withdraw]
  split_ifs with _ hreserved
  · exact .pure fun _ h => h.1
  · refine .bind (keeps_ask hK.held _) fun at_ => ?_
    refine Triple.bind_pure (hK.transitionSnapshot fun old hsame => ?_)
    exact .ended (hsame.state ▸ halive) (hsame.state ▸ hstate)
      ⟨Or.inl rfl, Or.inr (Or.inl (hsame.state.trans hreserved))⟩ (by simp)
  · refine .bind (keeps_withdrawEffect hK.held fun _ h => h.2.bound).kept fun complete => ?_
    split_ifs
    · refine hK.transitionCurrent fun at_ current hsame => ?_
      rw [← hsame.withdrawnState]
      exact .ended (hsame.state ▸ halive) (hsame.state ▸ hstate) (ends_withdrawnState current)
        (by simp)
    · refine hK.transitionCurrent fun at_ current hsame => ?_
      rw [← hsame.withdrawnState]
      exact .failed (hsame.state ▸ halive) (hsame.state ▸ hstate) (ends_withdrawnState current)
        rfl (by simp)

lemma SupervisedAt.enforceGrantLiveness :
    Triple (fun w => K w ∧ Held e w) (enforceGrantLiveness host e)
      (fun dead w => K w ∧ (dead = false → Held e w)) fun _ => K := by
  refine .bind (keeps_ask hK.held host.grants) fun store => ?_
  cases store.assertLive host.py e.grantId e.grantDigest with
  | ok grant => exact .pure fun _ h => ⟨h.1, fun _ => h.2⟩
  | error failure =>
    cases failure with
    | raised error => exact .raise fun _ h => h.1
    | refusal reason detail =>
      exact .bind (hK.withdraw halive hstate) fun _ => .pure fun _ h => ⟨h, nofun⟩

end

/-! ### Running workloads -/

omit hK in
/-- The last transition of a workload that runs. -/
lemma supervised_ended {target : State} (hrunning : e.state = .running)
    (htarget : Settles e.spec target) (hsame : OnlyNotes old e)
    (hextra : ∀ target, Extra.cleanupTargetState target ∉ change.extra) :
    Supervised old target change := by
  have hold : old.state = .running := hsame.state.trans hrunning
  refine .ended (by rw [hold]; rfl) (by rw [hold]; decide) ⟨?_, Or.inr (Or.inr hold)⟩ hextra
  rw [hsame.spec]
  exact htarget

lemma SupervisedAt.recordOverdueFailure {receipt : ReceiptKind} {target : State}
    {observed : Info} (hrunning : e.state = .running) (htarget : Settles e.spec target) :
    KeepsHeld K e (recordOverdueFailure host e receipt target observed) := by
  refine Triple.bind (orderly_residualEvidence hK.held).kept.kept fun _ => ?_
  refine Triple.bind (keeps_ask hK.held host.clock) fun at_ => ?_
  refine Triple.bind_pure (hK.transitionSnapshot fun old hsame => ?_)
  have hold : old.state = .running := hsame.state.trans hrunning
  refine .failed (by rw [hold]; rfl) (by rw [hold]; decide) ⟨?_, Or.inr (Or.inr hold)⟩ rfl (by simp)
  rw [hsame.spec]
  exact htarget

lemma SupervisedAt.superviseWorkspaceIdle (hrunning : e.state = .running)
    (hworkspace : e.spec.isWorkspace) :
    KeepsHeld K e (superviseWorkspaceIdle host e) := by
  have htarget : Settles e.spec .stopped := Or.inr ⟨rfl, hworkspace⟩
  rw [Daemon.superviseWorkspaceIdle]
  split_ifs
  · exact .pure fun _ h => h.1
  · refine .bind (keeps_ask hK.held _) fun idle => ?_
    split_ifs
    · exact .pure fun _ h => h.1
    · refine .bind (keeps_stopOverdue hK.held fun _ h => h.2.bound).kept fun result => ?_
      obtain ⟨stopped, observed⟩ := result
      cases stopped with
      | false => exact hK.recordOverdueFailure hrunning htarget
      | true =>
        refine .bind (keeps_ask hK.held _) fun at_ => ?_
        refine Triple.bind_pure (hK.transitionSnapshot fun old hsame => ?_)
        exact supervised_ended hrunning htarget hsame (by simp)

/-- The output of the command of an entry that is held is captured. -/
lemma SupervisedAt.captureSourceCommandOutput (reason : PyStr) :
    Triple (fun w => K w ∧ Held e w)
      (captureSourceCommandOutput host e reason)
      (fun captured w => (K w ∧ Held e w) ∧ OnlyNotes captured e)
      fun _ => K :=
  (triple_captureSourceCommandOutput hK.held (keptByNotes_onlyNotes e) (OnlyNotes.refl e)
    (fun _ h => h.2) reason).kept.kept

section

variable (hrunning : e.state = .running)
include hrunning

lemma SupervisedAt.superviseTimeout (startedAt : PyStr) :
    KeepsHeld K e (superviseTimeout host e startedAt) := by
  refine .bind (keeps_ask hK.held _) fun elapsed => ?_
  split_ifs
  · exact .pure fun _ h => h.1
  · refine .bind ((triple_markSourceTermination hK.held (keptByNotes_onlyNotes e)
      (OnlyNotes.refl e) (fun _ h => h.2) _).kept.kept)
      (triple_heldSnapshot fun marked hsame => ?_)
    have hmarked : SupervisedAt marked.workloadId K := hsame.workloadId ▸ hK
    have hstate : marked.state = .running := hsame.state.trans hrunning
    refine .bind (keeps_stopOverdue hmarked.held fun _ h => h.2.bound).kept fun result => ?_
    obtain ⟨stopped, observed⟩ := result
    cases stopped with
    | false => exact hmarked.recordOverdueFailure hstate (Or.inl rfl)
    | true =>
      refine .bind (hmarked.captureSourceCommandOutput _)
        (triple_heldSnapshot fun captured hsame' => ?_)
      have hcaptured : SupervisedAt captured.workloadId K := hsame'.workloadId ▸ hmarked
      refine .bind (keeps_ask hcaptured.held _) fun at_ => ?_
      refine Triple.bind_pure (hcaptured.transitionSnapshot fun old hold => ?_)
      exact supervised_ended (hsame'.state.trans hstate) (Or.inl rfl) hold (by simp)

lemma SupervisedAt.superviseSourceCommand :
    Triple (fun w => K w ∧ Held e w) (superviseSourceCommand host e)
      (fun exited w => K w ∧ (exited = false → Held e w)) fun _ => K := by
  rw [Daemon.superviseSourceCommand]
  split_ifs
  · refine .bind (orderly_safeInspect hK.held).kept.kept fun info => ?_
    split_ifs
    · refine .bind (hK.captureSourceCommandOutput _) (triple_heldSnapshot fun captured hsame => ?_)
      have hcaptured : SupervisedAt captured.workloadId K := hsame.workloadId ▸ hK
      refine .bind (keeps_ask hcaptured.held _) fun at_ => ?_
      refine .bind (hcaptured.transitionSnapshot fun old hold => ?_) fun _ => ?_
      · exact supervised_ended (hsame.state.trans hrunning) (Or.inl rfl) hold (by simp)
      · exact .pure fun _ h => ⟨h, nofun⟩
    · exact .pure fun _ h => ⟨h.1, fun _ => h.2⟩
  · exact .pure fun _ h => ⟨h.1, fun _ => h.2⟩

lemma SupervisedAt.superviseRunning (startedAt : PyStr) :
    KeepsHeld K e (superviseRunning host e startedAt) := by
  refine .bind (hK.superviseSourceCommand hrunning) fun exited => ?_
  cases exited with
  | true => exact .pure fun _ h => h.1
  | false =>
    rw [if_neg Bool.false_ne_true]
    split_ifs with hworkspace
    · exact (hK.superviseWorkspaceIdle hrunning hworkspace).mono_pre fun _ h => ⟨h.1, h.2 rfl⟩
    · exact (hK.superviseTimeout hrunning startedAt).mono_pre fun _ h => ⟨h.1, h.2 rfl⟩

end

/-! ### Entries -/

lemma SupervisedAt.superviseTerminal : KeepsHeld K e (superviseTerminal host e) := by
  rw [Daemon.superviseTerminal]
  split_ifs
  · exact .pure fun _ h => h.1
  · exact .bind (hK.captureSourceCommandOutput _) fun _ => .pure fun _ h => h.1.1

lemma SupervisedAt.superviseEntry : KeepsHeld K e (superviseEntry host e) := by
  rw [Daemon.superviseEntry]
  split_ifs with hpending hterminal
  · exact hK.retryCleanup hpending
  · exact hK.superviseTerminal
  · have halive : e.state.isTerminal = false := Bool.eq_false_iff.mpr hterminal
    refine .bind (hK.enforceGrantLiveness halive hpending) fun dead => ?_
    cases dead with
    | true => exact .pure fun _ h => h.1
    | false =>
      rw [if_neg Bool.false_ne_true]
      split
      · next startedAt hrunning _ =>
        exact (hK.superviseRunning hrunning startedAt).mono_pre fun _ h => ⟨h.1, h.2 rfl⟩
      · exact .pure fun _ h => h.1

end

/-- The entry of a workload is supervised if there is one. -/
lemma triple_superviseWorkload (hR : ∀ e, e.workloadId = id →
      Triple (fun w => I w ∧ Current e w) (superviseEntry host e) (fun _ => R)
        fun _ => R) (hkept : ∀ w, I w → R w) :
    Triple I (superviseWorkload host id) (fun _ => R) fun _ => R := by
  refine .bind_pure (Triple.attempt_of_always
    (.bind ((triple_getCurrent id).mono_error fun _ _ h => hkept _ h)
    fun found => ?_))
  cases found with
  | none => exact .pure fun _ h => hkept _ h.1
  | some e =>
    by_cases hid : e.workloadId = id
    · exact (hR e hid).mono_pre (fun _ h => ⟨h.1, (h.2 e rfl).1⟩)
    · exact fun w h => absurd (h.2 e rfl).2 hid

/-- **A supervision pass** over a workload. -/
theorem SupervisedAt.superviseWorkload (hK : SupervisedAt id K) :
    Keeps K (superviseWorkload host id) := by
  refine triple_superviseWorkload (fun e hid => ?_) fun _ h => h
  subst hid
  exact hK.superviseEntry.mono_pre fun _ h => ⟨h.1, h.2.held⟩

/-- **A sweep** over all workloads. -/
theorem keeps_superviseAll (hK : ∀ id, SupervisedAt id K) : Keeps K (superviseAll host) :=
  .bind .state fun _ => .forM fun e _ => (hK e.workloadId).superviseWorkload

end StatePort.Daemon
