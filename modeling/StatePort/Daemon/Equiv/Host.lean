import StatePort.Daemon.Host
import StatePort.Daemon.Equiv.Ledger

/-!
# What the shared parts of the daemon keep

`Stable workloadId I` lists what an operation on a workload may do at any time without breaking `I`:
ask, inspect, act on a container that it has verified to be the workload's, and take a note in the
entry (the reason of a termination, the output of a command, the last activity), which changes
neither its state nor its identity.

* `stable_verified`: what has been verified stays verified.
* `keeps_actOnOwned`, `orderly_markSourceTermination`, `orderly_captureSourceCommandOutput`,
  `orderly_cleanupEngineEffect`: the parts keep whatever is stable.

Most parts are `Orderly`: what they raise is neither the refusal of a duplicate workload nor that of
a source admission.
-/

namespace StatePort.Daemon

open Effect Failure

variable {host : Host} {id : Id} {c : PyStr} {entry old : Entry} {info : Info} {I J : World → Prop}
  {α : Type} {change : Change}

/-! ### Failures -/

def Failure.reason? : Failure → Option String
  | .refusal reason _ => some reason
  | _ => none

/-- Neither a duplicate nor a refused source admission. -/
def Failure.IsOrdinary (failure : Failure) : Prop :=
  failure.reason? ≠ some "duplicate-workload" ∧
    failure.reason? ≠ some "workspace-source-admission-refused"

lemma Failure.isOrdinary_ledger (error : LedgerError) : (ledger error).IsOrdinary :=
  ⟨nofun, nofun⟩

lemma Failure.isOrdinary_engine (message : PyStr) : (engine message).IsOrdinary :=
  ⟨nofun, nofun⟩

lemma Failure.isOrdinary_raised (error : Raised) : (raised error).IsOrdinary :=
  ⟨nofun, nofun⟩

/-- An ordinary failure after which `K` holds. -/
abbrev Raises (K : World → Prop) (failure : Failure) (w : World) : Prop :=
  K w ∧ failure.IsOrdinary

/-- `K` is kept, and what is raised is ordinary. -/
abbrev Orderly (K : World → Prop) (x : Run α) : Prop := Triple K x (fun _ => K) (Raises K)

lemma Orderly.attempt {δ : Type} {select : Failure → Option δ} {x : Run α} (hx : Orderly I x) :
    Orderly I (Effect.attempt select x) :=
  Triple.attempt (hx.mono_error fun _ _ h => ⟨fun _ _ => h.1, fun _ => h⟩)

lemma Orderly.lift {x : Except Failure α} (h : RaisesOnly Failure.IsOrdinary x) :
    Orderly I (Effect.lift x) :=
  Triple.lift (fun _ hI _ _ => hI) fun _ hI e he => ⟨hI, h e he⟩

/-! ### Notes -/

/-- The items that a note writes. -/
def Extra.isNote : Extra → Bool
  | .lastActivityAt _ | .sourceTerminationReason _ | .sourceCommandOutput _ => true
  | _ => false

structure Change.IsNote (change : Change) : Prop where
  receipt : ∀ kind ∈ change.receipt, kind = .sourceCommandOutput
  extra : ∀ x ∈ change.extra, x.isNote

/-- The world after an entry has been written. -/
def World.written (w : World) (entry : Entry) : World :=
  { w with ledger := w.ledger.put entry, trace := .wrote entry :: w.trace }

lemma Change.IsNote.sameIdentity (h : change.IsNote) (state : State) :
    SameIdentity (entry.transitioned state change) entry :=
  sameIdentity_transitioned fun _ hmem => by cases h.extra _ hmem

lemma Change.IsNote.cleanupTargetState (h : change.IsNote) (state : State) :
    (entry.transitioned state change).cleanupTargetState = entry.cleanupTargetState :=
  transitioned_cleanupTargetState fun _ hmem => by cases h.extra _ hmem

/-! ### Verified containers -/

/-- The ledger has an entry with the identity of `entry`. -/
def Bound (entry : Entry) (w : World) : Prop :=
  ∃ current, w.ledger.find? entry.workloadId = some current ∧ SameIdentity current entry

/-- An inspection of the workload has reported `info`. -/
def Seen (id : Id) (info : Info) (w : World) : Prop :=
  Event.inspected id info ∈ w.trace

/-- An inspection of the workload has found this container, and it matches the workload's entry in
the ledger. -/
def Verified (id : Id) (c : PyStr) (w : World) : Prop :=
  ∃ entry info, w.ledger.find? id = some entry ∧ Seen id info w ∧
    info.present = some true ∧ containerIdentityError entry info = none ∧
    info.containerId = some c

lemma Bound.verified (h : Bound entry w)
    (hseen : Seen entry.workloadId info w) (hpresent : info.present = some true)
    (hmatch : containerIdentityError entry info = none) :
    Verified entry.workloadId (info.containerId.getD []) w := by
  obtain ⟨current, hfind, hsame⟩ := h
  obtain ⟨c, hid⟩ := exists_containerId hmatch
  refine ⟨current, info, hfind, hseen, hpresent, ?_, by rw [hid, Option.getD_some]⟩
  rw [hsame.containerIdentityError]
  exact hmatch

/-! ### Stability -/

/-- `I` is kept by everything that the shared parts of an operation do. -/
structure Stable (workloadId : Id) (I : World → Prop) : Prop where
  asked : ∀ world, I world → I { world with questions := world.questions + 1 }
  inspected : ∀ world info, I world →
    I { world with trace := .inspected workloadId info :: world.trace }
  called : ∀ world verb containerId, I world → Verified workloadId containerId world →
    I { world with trace := .called verb workloadId containerId :: world.trace }
  noted : ∀ world old change, I world → world.ledger.find? workloadId = some old →
    Change.IsNote change → I (world.written (old.transitioned old.state change))

lemma Stable.and (hI : Stable id I) (hJ : Stable id J) : Stable id fun w => I w ∧ J w where
  asked w h := ⟨hI.asked w h.1, hJ.asked w h.2⟩
  inspected w info h := ⟨hI.inspected w info h.1, hJ.inspected w info h.2⟩
  called w verb c h hverified :=
    ⟨hI.called w verb c h.1 hverified, hJ.called w verb c h.2 hverified⟩
  noted w old change h hfind hnote :=
    ⟨hI.noted w old change h.1 hfind hnote, hJ.noted w old change h.2 hfind hnote⟩

def KeptByNotes (S : Entry → Prop) : Prop :=
  ∀ entry change, S entry → Change.IsNote change → S (entry.transitioned entry.state change)

lemma stable_found (hS : KeptByNotes S) (id : Id) :
    Stable id fun w => ∃ current, w.ledger.find? id = some current ∧ S current where
  asked _ h := h
  inspected _ _ h := h
  called _ _ _ h _ := h
  noted w old change h hfind hnote := by
    obtain ⟨current, hcurrent, hsame⟩ := h
    cases hcurrent.symm.trans hfind
    refine ⟨old.transitioned old.state change, find?_put_self ?_, hS old change hsame hnote⟩
    rw [transitioned_workloadId, workloadId_of_find? hfind]

lemma keptByNotes_sameIdentity (entry : Entry) : KeptByNotes (SameIdentity · entry) :=
  fun old _ hsame hnote => (hnote.sameIdentity old.state).trans hsame

lemma stable_bound (entry : Entry) : Stable entry.workloadId (Bound entry) :=
  stable_found (keptByNotes_sameIdentity entry) entry.workloadId

/-- Two entries that differ by notes only. -/
structure OnlyNotes (current entry : Entry) : Prop extends SameIdentity current entry where
  state : current.state = entry.state
  cleanupTargetState : current.cleanupTargetState = entry.cleanupTargetState

lemma OnlyNotes.refl (entry : Entry) : OnlyNotes entry entry := ⟨SameIdentity.refl entry, rfl, rfl⟩

lemma OnlyNotes.symm {first second : Entry} (h : OnlyNotes first second) :
    OnlyNotes second first :=
  ⟨⟨h.workloadId.symm, h.spec.symm, h.containerId.symm⟩, h.state.symm, h.cleanupTargetState.symm⟩

lemma OnlyNotes.trans {first second third : Entry} (h : OnlyNotes first second)
    (h' : OnlyNotes second third) : OnlyNotes first third :=
  ⟨h.toSameIdentity.trans h'.toSameIdentity, h.state.trans h'.state,
    h.cleanupTargetState.trans h'.cleanupTargetState⟩

lemma onlyNotes_transitioned (h : change.IsNote) :
    OnlyNotes (entry.transitioned entry.state change) entry :=
  ⟨h.sameIdentity entry.state, transitioned_state, h.cleanupTargetState entry.state⟩

lemma keptByNotes_onlyNotes (entry : Entry) : KeptByNotes (OnlyNotes · entry) :=
  fun _ _ hsame hnote => (onlyNotes_transitioned hnote).trans hsame

/-- The ledger has the entry, up to notes. -/
def Held (entry : Entry) (w : World) : Prop :=
  ∃ current, w.ledger.find? entry.workloadId = some current ∧ OnlyNotes current entry

lemma Held.bound (h : Held entry w) : Bound entry w := by
  obtain ⟨current, hfind, hsame⟩ := h
  exact ⟨current, hfind, hsame.toSameIdentity⟩

lemma stable_held (entry : Entry) : Stable entry.workloadId (Held entry) :=
  stable_found (keptByNotes_onlyNotes entry) entry.workloadId

lemma stable_verified (id : Id) (c : PyStr) : Stable id (Verified id c) where
  asked _ h := h
  inspected _ _ h := by
    obtain ⟨entry, info, hfind, hseen, hfound⟩ := h
    exact ⟨entry, info, hfind, List.mem_cons_of_mem _ hseen, hfound⟩
  called _ _ _ h _ := by
    obtain ⟨entry, info, hfind, hseen, hfound⟩ := h
    exact ⟨entry, info, hfind, List.mem_cons_of_mem _ hseen, hfound⟩
  noted w old change h hfind hnote := by
    obtain ⟨entry, info, hentry, hseen, hpresent, hmatch, hid⟩ := h
    have heq : entry = old := Option.some.inj (hentry.symm.trans hfind)
    refine ⟨old.transitioned old.state change, info, find?_put_self ?_,
      List.mem_cons_of_mem _ hseen, hpresent, ?_, hid⟩
    · rw [transitioned_workloadId, workloadId_of_find? hfind]
    · rw [(hnote.sameIdentity old.state).containerIdentityError, ← heq]
      exact hmatch

/-! ### Histories -/

/-- `P` holds of every action of a trace, given the ledger and the actions before it. -/
def Always (P : Ledger → List Event → Event → Prop) (ledger : Ledger) : List Event → Prop
  | [] => True
  | event :: earlier => P (replay ledger earlier) earlier event ∧ Always P ledger earlier

lemma Always.drop {ledger : Ledger}
    {trace : List Event} (h : Always P ledger trace) (n : ℕ) : Always P ledger (trace.drop n) := by
  induction n generalizing trace with
  | zero => exact h
  | succ n ih =>
    cases trace with
    | nil => trivial
    | cons event earlier => exact ih h.2

/-- The world is what a trace of actions with `P` has made of a ledger. -/
def History (P : Ledger → List Event → Event → Prop) (ledger : Ledger) (w : World) : Prop :=
  w.ledger = replay ledger w.trace ∧ Always P ledger w.trace

namespace History

variable {P : Ledger → List Event → Event → Prop} {ledger : Ledger} {w : World}

variable (P ledger) in
lemma start (questions : ℕ) : History P ledger ⟨ledger, [], questions⟩ := ⟨rfl, trivial⟩

lemma inspected (h : History P ledger w)
    (hevent : P w.ledger w.trace (.inspected id info)) :
    History P ledger { w with trace := .inspected id info :: w.trace } :=
  ⟨h.1, h.1 ▸ hevent, h.2⟩

lemma called {verb : Verb} (h : History P ledger w)
    (hevent : P w.ledger w.trace (.called verb id c)) :
    History P ledger { w with trace := .called verb id c :: w.trace } :=
  ⟨h.1, h.1 ▸ hevent, h.2⟩

lemma written (h : History P ledger w)
    (hevent : P w.ledger w.trace (.wrote entry)) :
    History P ledger (w.written entry) :=
  ⟨congrArg (fun t => Table.put t entry) h.1, h.1 ▸ hevent, h.2⟩

/-- What a computation that keeps a history leaves behind. -/
lemma trace_of_keeps {x : Run α}
    (hx : Keeps (History P ledger) x) (questions : ℕ) :
    Always P ledger (x ⟨ledger, [], questions⟩).2.trace := by
  have hend := hx _ (History.start P ledger questions)
  cases hrun : x ⟨ledger, [], questions⟩ with
  | mk result w =>
    rw [hrun] at hend
    cases result with
    | ok a | error e => exact hend.2

end History

/-! ### Questions and inspections -/

section

variable {E : Failure → World → Prop}

/-- The entry that has just been read is the one in the ledger. -/
lemma triple_getEntry (id : Id) :
    Triple I (getEntry id) (fun found w => I w ∧ w.ledger.find? id = found) E :=
  fun _ h => ⟨h, rfl⟩

lemma keeps_getEntry (id : Id) : Triple I (getEntry id) (fun _ => I) E :=
  fun _ h => h

variable (hasked : ∀ w, I w → I { w with questions := w.questions + 1 })
include hasked

lemma triple_ask (question : World → α) : Triple I (ask question) (fun _ => I) E := by
  refine .bind_state fun world _ => ?_
  refine .bind_pure (.modify fun w hw => ?_)
  exact hasked w hw.2

lemma orderly_askEngine (question : World → Except PyStr α) : Orderly I (askEngine question) := by
  refine .bind (triple_ask hasked question) fun answer => ?_
  cases answer with
  | ok a => exact .pure fun _ h => h
  | error message => exact .raise fun _ h => ⟨h, Failure.isOrdinary_engine message⟩

lemma orderly_removeSnapshotPath (snapshotPath : Option PyStr) :
    Orderly I (removeSnapshotPath host snapshotPath) := by
  cases snapshotPath with
  | none => exact .pure fun _ h => h
  | some path => exact .bind_pure (triple_ask hasked _)

end

variable {E : Failure → World → Prop}

section

variable (hI : Stable id I)
include hI

lemma keeps_ask (question : World → α) : Triple I (ask question) (fun _ => I) E :=
  triple_ask hI.asked question

lemma triple_inspect :
    Triple I (inspect host id) (fun info w => I w ∧ Seen id info w) (Raises I) := by
  refine .bind (orderly_askEngine hI.asked _) fun info => ?_
  refine .bind_pure (.modify fun w h => ?_)
  exact ⟨hI.inspected w info h, List.mem_cons_self⟩

lemma orderly_inspect : Orderly I (inspect host id) :=
  (triple_inspect hI).mono_post (fun _ _ h => h.1) fun _ _ h => h

/-- An inspection that reports a container has been made. -/
lemma triple_safeInspect :
    Triple I (safeInspect host id)
      (fun info w => I w ∧ (info.present = some true → Seen id info w))
      (Raises I) := by
  refine .bind (.attempt (Q := fun result w => I w ∧
    ∀ info, result = .ok info → Seen id info w) ?_) fun result => ?_
  · refine (triple_inspect hI).mono_post (fun info w h => ⟨h.1, ?_⟩) fun _ _ h => ?_
    · intro info' heq
      cases heq
      exact h.2
    · exact ⟨fun _ _ => ⟨h.1, fun _ heq => by cases heq⟩, fun _ => h⟩
  · cases result with
    | ok info => exact .pure fun _ h => ⟨h.1, fun _ => h.2 info rfl⟩
    | error message => exact .pure fun _ h => ⟨h.1, fun hpresent => by cases hpresent⟩

lemma orderly_safeInspect : Orderly I (safeInspect host id) :=
  (triple_safeInspect hI).mono_post (fun _ _ h => h.1) fun _ _ h => h

lemma orderly_residualEvidence : Orderly I (residualEvidence host id) :=
  .bind_pure (orderly_safeInspect hI)

lemma orderly_act (verb : Verb) (h : ∀ w, I w → Verified id c w) :
    Orderly I (act host verb id c) := by
  refine .bind (.modify fun w hw => ?_) fun _ => orderly_askEngine hI.asked _
  exact hI.called w verb c hw (h w hw)

end

/-! ### Ownership -/

section

variable (hI : Stable entry.workloadId I) (hbound : ∀ w, I w → Bound entry w)
include hI hbound

lemma triple_assertOwnedContainer (allowAbsent : Bool) :
    Triple I (assertOwnedContainer host entry allowAbsent)
      (fun result w => I w ∧ (allowAbsent = false → result.isSome) ∧
        ∀ c ∈ result, Verified entry.workloadId c w) fun _ => I := by
  refine .bind (triple_safeInspect hI).kept fun info => ?_
  cases hpresent : info.present with
  | none => exact .raise fun _ h => h.1
  | some present =>
    cases present with
    | false =>
      dsimp only
      split_ifs with hallow
      · refine .pure fun _ h => ⟨h.1, fun hfalse => ?_, fun _ hid => by cases hid⟩
        cases hallow.symm.trans hfalse
      · exact .raise fun _ h => h.1
    | true =>
      dsimp only
      rw [ownedContainer]
      cases hmatch : containerIdentityError entry info with
      | some error =>
        refine .bind (Q := fun _ _ => False) (.raise fun w h => h.1) fun _ => ?_
        exact fun _ h => h.elim
      | none =>
        refine .bind (.pure (Q := fun id w => I w ∧
          Verified entry.workloadId id w) fun w h => ⟨h.1, ?_⟩) fun id => ?_
        · exact (hbound w h.1).verified (h.2 rfl) hpresent hmatch
        · refine .pure fun w h => ⟨h.1, fun _ => rfl, fun id' hid' => ?_⟩
          cases hid'
          exact h.2

lemma triple_requireOwnedContainer :
    Triple I (requireOwnedContainer host entry)
      (fun c w => I w ∧ Verified entry.workloadId c w)
      fun _ => I := by
  refine .bind (triple_assertOwnedContainer hI hbound false) fun result => ?_
  refine .pure fun w h => ⟨h.1, ?_⟩
  obtain ⟨c, rfl⟩ := Option.isSome_iff_exists.mp (h.2.1 rfl)
  exact h.2.2 c rfl

lemma triple_engineTarget :
    Triple I (engineTarget host entry)
      (fun c w => I w ∧ Verified entry.workloadId c w)
      fun _ => I := by
  refine .bind (.attempt (Q := fun result w => I w ∧
    ∀ c, result = .ok c → Verified entry.workloadId c w) ?_)
    fun result => ?_
  · refine (triple_requireOwnedContainer hI hbound).mono_post
      (fun c w h => ⟨h.1, ?_⟩) fun _ _ h => ?_
    · intro containerId' heq
      cases heq
      exact h.2
    · exact ⟨fun _ _ => ⟨h, fun _ heq => by cases heq⟩, fun _ => h⟩
  · cases result with
    | ok c => exact .pure fun _ h => ⟨h.1, h.2 c rfl⟩
    | error refusal => exact .raise fun _ h => h.1

lemma keeps_actOnOwned (verb : Verb) : Keeps I (actOnOwned host verb entry) := by
  refine Triple.bind (triple_engineTarget hI hbound) fun c => ?_
  exact (orderly_act (hI.and (stable_verified entry.workloadId c)) verb
    fun _ h => h.2).mono_post (fun _ _ h => h.1) fun _ _ h => h.1.1

end

/-! ### Notes in the entry -/

/-- A method of the ledger: what it writes and what it leaves if it fails. -/
lemma triple_write {method : Ledger → Except LedgerError (Entry × Ledger)}
    {P : World → Prop} {Q : Entry → World → Prop}
    (hok : ∀ w entry ledger, P w → method w.ledger = .ok (entry, ledger) →
      Q entry { w with ledger, trace := .wrote entry :: w.trace })
    (herror : ∀ w error, P w → method w.ledger = .error error →
      E (.ledger error) w) : Triple P (write method) Q E := by
  refine .bind_state fun w hw => ?_
  cases hmethod : method w.ledger with
  | error error =>
    refine .raise ?_
    rintro found ⟨rfl, -⟩
    exact herror found error hw hmethod
  | ok result =>
    refine .bind_pure (.modify ?_)
    rintro found ⟨rfl, -⟩
    exact hok found result.1 result.2 hw hmethod

lemma keeps_observeSourceCommand (hI : Stable entry.workloadId I) :
    Keeps I (observeSourceCommand host entry) := by
  refine .bind (orderly_inspect hI).kept fun info => ?_
  split_ifs
  · exact .pure _
  · exact .raise _
  · exact .raise _
  · exact .bind_pure (orderly_askEngine hI.asked _).kept

lemma raisesOnly_commandOutput (entry : Entry) (info : Info) (logs : Logs) (reason : PyStr) :
    RaisesOnly Failure.IsOrdinary (commandOutput entry info logs reason) :=
  .bind (.check (Failure.isOrdinary_raised _)) fun _ _ =>
    .bind (.check (Failure.isOrdinary_ledger _)) fun _ _ =>
      .bind (.check (Failure.isOrdinary_ledger _)) fun _ _ => .ok _

section

variable {S : Entry → Prop} (hI : Stable entry.workloadId I) (hS : KeptByNotes S) (hentry : S entry)
  (hfound : ∀ w, I w → ∃ current, w.ledger.find? entry.workloadId = some current ∧ S current)
include hI hS hfound

/-- A note is written into the entry as the ledger has it. -/
lemma triple_note (hnote : change.IsNote) :
    Triple I (write fun ledger => transitionSnapshot ledger entry entry.state change)
      (fun entry' w => I w ∧ S entry') (Raises I) := by
  refine triple_write (fun w entry' ledger hw h => ?_)
    fun _ error hw _ => ⟨hw, Failure.isOrdinary_ledger error⟩
  obtain ⟨old, hfind, hstate, -, rfl, rfl⟩ := transitionSnapshot_eq_ok_iff.mp h
  obtain ⟨current, hcurrent, hknown⟩ := hfound w hw
  have heq : current = old := Option.some.inj (hcurrent.symm.trans hfind)
  rw [← hstate]
  exact ⟨hI.noted w old change hw hfind hnote, hS old change (heq ▸ hknown) hnote⟩

include hentry

lemma triple_markSourceTermination (reason : String) :
    Triple I (markSourceTermination host entry reason)
      (fun entry' w => I w ∧ S entry') (Raises I) := by
  rw [markSourceTermination]
  split_ifs
  · exact .pure fun _ h => ⟨h, hentry⟩
  · refine .bind (keeps_ask hI _) fun at_ => triple_note hI hS hfound ⟨nofun, fun x hx => ?_⟩
    rw [List.mem_singleton.mp hx]
    rfl

lemma triple_captureSourceCommandOutput (reason : PyStr) :
    Triple I (captureSourceCommandOutput host entry reason)
      (fun entry' w => I w ∧ S entry') (Raises I) := by
  rw [captureSourceCommandOutput]
  split_ifs
  · exact .pure fun _ h => ⟨h, hentry⟩
  · cases entry.sourceCommandOutput with
    | some existing =>
      dsimp only
      split_ifs
      · exact .pure fun _ h => ⟨h, hentry⟩
      · exact .raise fun _ h => ⟨h, Failure.isOrdinary_ledger _⟩
    | none =>
      refine .attempt_bind (keeps_observeSourceCommand hI) (fun observed => ?_)
        (fun _ _ _ => .raise fun _ h => ⟨h, Failure.isOrdinary_ledger _⟩) fun _ _ h => nomatch h
      match observed with
      | none => exact .pure fun _ h => ⟨h, hentry⟩
      | some (info, logs) =>
        refine .bind (Orderly.lift (raisesOnly_commandOutput _ _ _ _)) fun output => ?_
        refine .bind (keeps_ask hI _) fun at_ => triple_note hI hS hfound ⟨?_, fun x hx => ?_⟩
        · rintro kind ⟨⟩
          rfl
        · rw [List.mem_singleton.mp hx]
          rfl

end

section

variable (hI : Stable entry.workloadId I) (hbound : ∀ w, I w → Bound entry w)
include hI hbound

lemma triple_markBound (reason : String) :
    Triple I (markSourceTermination host entry reason)
      (fun entry' w => I w ∧ SameIdentity entry' entry) (Raises I) :=
  triple_markSourceTermination hI (keptByNotes_sameIdentity entry) (SameIdentity.refl entry) hbound
    reason

lemma triple_captureBound (reason : PyStr) :
    Triple I (captureSourceCommandOutput host entry reason)
      (fun entry' w => I w ∧ SameIdentity entry' entry) (Raises I) :=
  triple_captureSourceCommandOutput hI (keptByNotes_sameIdentity entry) (SameIdentity.refl entry)
    hbound reason

lemma orderly_markSourceTermination (reason : String) :
    Orderly I (markSourceTermination host entry reason) :=
  (triple_markBound hI hbound reason).mono_post (fun _ _ h => h.1) fun _ _ h => h

lemma orderly_captureSourceCommandOutput (reason : PyStr) :
    Orderly I (captureSourceCommandOutput host entry reason) :=
  (triple_captureBound hI hbound reason).mono_post (fun _ _ h => h.1) fun _ _ h => h

end

/-! ### Cleanup -/

/-- What is known of an entry that has just been read or written. -/
def Current (entry : Entry) (w : World) : Prop :=
  w.ledger.find? entry.workloadId = some entry

lemma Current.bound (h : Current entry w) : Bound entry w :=
  ⟨entry, h, SameIdentity.refl entry⟩

lemma triple_getCurrent (id : Id) :
    Triple I (getEntry id) (fun found w => I w ∧
      ∀ entry, found = some entry → Current entry w ∧ entry.workloadId = id) E := by
  refine (triple_getEntry id).mono_post (fun found w h => ⟨h.1, ?_⟩) fun _ _ h => h
  rintro entry rfl
  have hid := workloadId_of_find? h.2
  exact ⟨by rw [Current, hid]; exact h.2, hid⟩

lemma orderly_withCurrent {f : Entry → Run Unit}
    (hf : ∀ current, current.workloadId = id →
      Orderly (fun w => I w ∧ Bound current w) (f current)) :
    Orderly I (getEntry id >>= fun found =>
      match found with
      | none => return ()
      | some current => f current) := by
  refine Triple.bind (triple_getEntry _) fun found => ?_
  cases found with
  | none => exact Triple.pure fun _ h => h.1
  | some current =>
    have hsound : ∀ w, I w ∧ w.ledger.find? id = some current →
        current.workloadId = id := fun _ h => workloadId_of_find? h.2
    by_cases hid : current.workloadId = id
    · refine (hf current hid).mono (fun w h => ⟨h.1, current, ?_, SameIdentity.refl current⟩)
        (fun _ _ h => h.1) fun _ _ h => ⟨h.1.1, h.2⟩
      rw [hid]
      exact h.2
    · exact fun w h => absurd (hsound w h) hid

section

variable (hI : Stable id I)
include hI

lemma orderly_markCurrent (reason : String) : Orderly I (markCurrent host id reason) := by
  refine orderly_withCurrent fun current hid => ?_
  subst hid
  exact .bind_pure (orderly_markSourceTermination (hI.and (stable_bound current)) (fun _ h => h.2)
    reason)

lemma orderly_captureCurrent (wasRunning : Bool) (reason : String) :
    Orderly I (captureCurrent host id wasRunning reason) := by
  refine orderly_withCurrent fun current hid => ?_
  subst hid
  exact .bind_pure (orderly_captureSourceCommandOutput (hI.and (stable_bound current))
    (fun _ h => h.2) _)

lemma orderly_verifyAbsent (snapshotPath : Option PyStr) :
    Orderly I (verifyAbsent host id snapshotPath) := by
  refine .bind (orderly_residualEvidence hI) fun residual => ?_
  split_ifs
  · exact orderly_removeSnapshotPath hI.asked snapshotPath
  · exact .pure fun _ h => h

lemma orderly_incomplete : Orderly I (incomplete host id) :=
  .bind_pure (orderly_residualEvidence hI)

/-- The container of an inspection that matches the entry is stopped and removed. -/
lemma orderly_stopAndRemove (reason : String)
    (h : ∀ w, I w → Verified id (info.containerId.getD []) w) :
    Orderly I (stopAndRemove host id info reason) := by
  rw [stopAndRemove]
  dsimp only
  split_ifs
  on_goal 1 => refine .bind (orderly_markCurrent hI reason) fun _ => ?_
  all_goals
    refine .bind (Orderly.attempt (orderly_act hI .stop h)) fun _ => ?_
    refine .bind (Orderly.attempt (orderly_captureCurrent hI _ reason)) fun captured => ?_
    cases captured with
    | error _ => exact .pure fun _ h => h
    | ok _ => exact .bind_pure (Orderly.attempt (orderly_act hI .remove h))

lemma orderly_cleanupEngineEffect (snapshotPath : Option PyStr) (reason : String) :
    Orderly I (cleanupEngineEffect host id snapshotPath reason) := by
  refine .bind (keeps_getEntry id) fun seeded => ?_
  split_ifs
  · exact orderly_incomplete hI
  refine Triple.bind (triple_safeInspect hI) fun initial => ?_
  cases hpresent : initial.present with
  | none => exact (orderly_incomplete hI).mono_pre fun _ h => h.1
  | some present =>
    cases present with
    | false => exact (orderly_verifyAbsent hI snapshotPath).mono_pre fun _ h => h.1
    | true =>
      -- The entry that the inspection is compared with is the one in the ledger.
      refine Triple.bind (Q := fun found w => (I w ∧ Seen id initial w) ∧
        w.ledger.find? id = found) ?_ fun found => ?_
      · exact (triple_getEntry _).mono_pre fun _ h => ⟨h.1, h.2 rfl⟩
      split_ifs with howned
      · exact (orderly_incomplete hI).mono_pre fun _ h => h.1.1
      · have hverified : ∀ w, (I w ∧ Seen id initial w) ∧
            w.ledger.find? id = found →
            Verified id (initial.containerId.getD []) w := by
          rintro w ⟨⟨-, hseen⟩, hfind⟩
          cases found with
          | none => exact absurd rfl howned
          | some current =>
            have hmatch : containerIdentityError current initial = none := by
              simpa [ownershipError] using howned
            have hid := workloadId_of_find? hfind
            subst hid
            exact Bound.verified ⟨current, hfind, SameIdentity.refl current⟩ hseen hpresent hmatch
        have hstable := hI.and (stable_verified id (initial.containerId.getD []))
        refine .mono (P := fun w => I w ∧
          Verified id (initial.containerId.getD []) w) ?_
          (fun w h => ⟨h.1.1, hverified w h⟩) (fun _ _ h => h) fun _ _ h => h
        refine .bind ((orderly_stopAndRemove hstable reason fun _ h => h.2).mono_post
          (fun _ _ h => h.1) fun _ _ h => ⟨h.1.1, h.2⟩) fun captured => ?_
        split_ifs
        · exact orderly_verifyAbsent hI snapshotPath
        · exact orderly_incomplete hI

end

end StatePort.Daemon
