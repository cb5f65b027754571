import StatePort.Goal.Coordinator
import StatePort.Goal.Equiv.Leases

/-!
# Revisions of goal records

`Tracks` relates the projection in memory and the stored record to the revisions that were stored so
far. The next record follows the last one (`Follows`), unless the projection carries no revision or
the stored record cannot be read; an operation on a session that passes the check of the revision is
in neither situation, and keeps to that (`Live`).

A `prepare` after a restart is different. It puts a projection without a revision in place before it
stores the record, so that the revision starts from 1 again (`Lost`); the same happens when the
stored record is too large to be read. `revisions_increase_iff` says that the revisions of a history
increase exactly if no `prepare` stores a record in that situation.
-/

namespace StatePort.Goal

open Coordinator List

open Daemon (Interpreter Digest)
open Effect

variable {py : Interpreter} {c : Coordinator} {w : Working}

/-! ### The invariant -/

section

variable (c)

/-- The next record follows the last one that was stored. -/
def Coordinator.Follows : Prop := c.previousRevision = c.persisted.headD 0

/-- The projection of the session carries no revision, so that no operation passes the check of the
revision. -/
def Coordinator.IsBare : Prop :=
  c.session.isSome ∧ ∃ view, c.projection = some view ∧ view.revision = none

/-- The last revision is in a record that is too large to be read. -/
def Coordinator.IsUnread : Prop :=
  c.projection = none ∧ ∃ record, c.disk = some record ∧ record.oversized

/-- The revisions increase so far, and the last one is known, bare projections and unread records
apart. -/
structure Coordinator.Tracks : Prop where
  increasing : c.persisted.Pairwise (· > ·)
  positive : ∀ r ∈ c.persisted, 1 ≤ r
  disk : (c.disk.map fun record => record.view.revision) = c.persisted.head?.map some
  session : c.session.isSome → c.projection.isSome
  known : c.Follows ∨ c.IsBare ∨ c.IsUnread

/-- A `prepare` that stores a record now does not know the last revision. -/
def Coordinator.Lost (mode : OrchestratorMode) : Prop :=
  c.projection = none ∧ ∃ record, c.disk = some record ∧
    (record.oversized ∨ (record.view.isEnded ∧ mode ≠ .off))

end

variable (py c) in
/-- The event is a `prepare` that stores a record without knowing the last revision. -/
def Coordinator.Resets (event : ServiceEvent) : Prop :=
  ∃ arguments mode writes, event = .request (.prepare arguments) writes ∧
    arguments.mode = some mode ∧ c.Lost mode ∧ (c.next py event).persisted ≠ c.persisted

/-- The revision that the record of a `prepare` follows. -/
def Coordinator.base (c : Coordinator) : OrchestratorMode → ℕ
  | .off => c.previousRevision
  | _ => (c.projection.bind View.revision).getD 0

namespace Coordinator

variable {view : View} {mode : OrchestratorMode}

lemma tracks_start : start.Tracks :=
  ⟨Pairwise.nil, nofun, rfl, nofun, .inl rfl⟩

lemma Tracks.last (h : c.Tracks) {record : Record} (hdisk : c.disk = some record) :
    ∃ r rest, c.persisted = r :: rest ∧ record.view.revision = some r := by
  have hlast := h.disk
  rw [hdisk] at hlast
  cases hpersisted : c.persisted with
  | nil => simp [hpersisted] at hlast
  | cons r rest => exact ⟨r, rest, rfl, by simpa [hpersisted] using hlast⟩

lemma Tracks.empty (h : c.Tracks) (hdisk : c.disk = none) : c.persisted = [] := by
  simpa [hdisk] using h.disk

lemma base_eq (hview : c.projection = some view) : c.base mode = c.previousRevision := by
  cases mode <;> simp [base, previousRevision, hview]

section

variable (h : c.Tracks)
include h

/-- Where no session has a bare projection, the last revision is known or cannot be read. -/
lemma Tracks.follows (hbare : ¬ c.IsBare) (hread : ¬ c.IsUnread) : c.Follows :=
  h.known.resolve_right (not_or_intro hbare hread)

lemma Tracks.persisted (hfollows : c.Follows) (view : View) (oversized : Bool) :
    Tracks { c with
      projection := some (c.stored view)
      disk := some ⟨c.stored view, oversized⟩
      persisted := (c.previousRevision + 1) :: c.persisted } := by
  have hlarger : ∀ r ∈ c.persisted, c.previousRevision + 1 > r := by
    intro r hr
    cases hpersisted : c.persisted with
    | nil => simp [hpersisted] at hr
    | cons last rest =>
      rw [Follows, hpersisted, headD_cons] at hfollows
      have hincreasing := h.increasing
      rw [hpersisted] at hr hincreasing
      rcases mem_cons.mp hr with rfl | hrest
      · omega
      · have := (pairwise_cons.mp hincreasing).1 r hrest
        omega
  refine ⟨pairwise_cons.mpr ⟨hlarger, h.increasing⟩, ?_, rfl, fun _ => rfl, .inl rfl⟩
  intro r hr
  rcases mem_cons.mp hr with rfl | hrest
  · omega
  · exact h.positive r hrest

lemma Tracks.withRegistry (registry : InstanceApprovalLeaseRegistry) :
    Tracks { c with registry } :=
  ⟨h.increasing, h.positive, h.disk, h.session, h.known⟩

lemma Tracks.withSession (hsome : c.session.isSome)
    (registry : InstanceApprovalLeaseRegistry) (session : Session) :
    Tracks { c with registry, session := some session } :=
  ⟨h.increasing, h.positive, h.disk, fun _ => h.session hsome,
    h.known.imp_right (Or.imp_left fun hbare => ⟨rfl, hbare.2⟩)⟩

lemma Tracks.withoutSession (hknown : c.Follows ∨ c.projection = none) :
    Tracks { c with session := none } := by
  refine ⟨h.increasing, h.positive, h.disk, nofun, ?_⟩
  rcases hknown with hfollows | hnone
  · exact .inl hfollows
  · rcases h.known with hfollows | ⟨_, view, hview, _⟩ | hunread
    · exact .inl hfollows
    · cases hnone.symm.trans hview
    · exact .inr (.inr hunread)

/-- A session is put in place with a projection that carries the last revision or none. -/
lemma Tracks.prepared (session : Session)
    (hview : view.revision = c.projection.bind View.revision) :
    Tracks { c with session := some session, projection := some view } := by
  refine ⟨h.increasing, h.positive, h.disk, fun _ => rfl, ?_⟩
  cases hr : view.revision with
  | none => exact .inr (.inl ⟨rfl, view, rfl, hr⟩)
  | some r =>
    obtain ⟨old, hold, hrevision⟩ := Option.bind_eq_some_iff.mp (hview.symm.trans hr)
    have hfollows : c.Follows := by
      refine h.follows ?_ ?_
      · rintro ⟨_, bare, hbare, hnone⟩
        cases hold.symm.trans hbare
        cases hnone.symm.trans hrevision
      · rintro ⟨hnone, _⟩
        cases hnone.symm.trans hold
    refine .inl (Eq.trans ?_ hfollows)
    simp [previousRevision, hold, hr, hrevision]

end

end Coordinator

/-! ### Operations on a session -/

/-- The next record follows the last one. -/
structure Live (w : Working) : Prop where
  tracks : w.toCoordinator.Tracks
  follows : w.toCoordinator.Follows

/-- An invariant that speaks of the coordinator only does not depend on the writes to come. -/
abbrev Tracked (w : Working) : Prop := w.toCoordinator.Tracks

lemma keeps_persist (view : View) : Keeps Live (persist view) := by
  intro w hw
  unfold persist
  cases w.writes.headD (.stores false) with
  | fails e => exact ⟨hw.tracks, hw.follows⟩
  | stores oversized => exact ⟨hw.tracks.persisted hw.follows view oversized, rfl⟩

variable {I : Working → Prop} {α : Type}

lemma keeps_onSession_of (method : Method α)
    (hI : ∀ w registry session, w.session.isSome → I w →
      I { w with registry, session := some session }) : Keeps I (onSession method) := by
  intro w hw
  unfold onSession
  cases hsession : w.session with
  | none => exact hw
  | some session =>
    dsimp only
    cases method ⟨w.registry, session⟩ with
    | mk result g =>
      have hreplaced := hI w g.registry g.session (by simp [hsession]) hw
      cases result with
      | ok a | error e => exact hreplaced

lemma keeps_onSession (method : Method α) : Keeps Live (onSession method) :=
  keeps_onSession_of method fun _ registry session hsome hw =>
    ⟨hw.tracks.withSession hsome registry session, hw.follows⟩

lemma keeps_persistSession : Keeps Live persistSession := by
  intro w hw
  unfold persistSession
  cases w.session with
  | none => exact hw
  | some session => exact (Keeps.bind (keeps_persist _) fun _ => Keeps.pure _) w hw

lemma keeps_refuseWith (code message : PyStr) :
    Keeps I (refuseWith code message : Coordinated α) :=
  .raise _

lemma keeps_refuseWhen {c : Prop} [Decidable c] (code message : PyStr) :
    Keeps I (refuseWhen c code message) := by
  unfold refuseWhen
  by_cases hc : c
  · rw [if_pos hc]
    exact keeps_refuseWith code message
  · rw [if_neg hc]
    exact .pure _

lemma keeps_transition (method : Method PUnit) : Keeps Live (transition method) := by
  refine .bind (.attempt (keeps_onSession method)) fun outcome => ?_
  cases outcome with
  | ok _ => exact .pure _
  | error e => exact .bind keeps_persistSession fun _ => .raise e

lemma keeps_stopAndPersist (code message : PyStr) :
    Keeps Live (stopAndPersist code message : Coordinated α) := by
  refine .bind (.attempt (keeps_onSession _)) fun outcome => ?_
  cases outcome with
  | ok _ => exact .raise _
  | error e => exact .bind keeps_persistSession fun _ => .raise e

lemma keeps_boundIdentity (git : Except Raised Identity) : Keeps Live (boundIdentity git) := by
  unfold boundIdentity
  split
  · exact .pure _
  · exact keeps_stopAndPersist _ _
  · exact .raise _

lemma keeps_executeBegun (execution : Execution) : Keeps Live (executeBegun py execution) := by
  cases execution with
  | returns result => exact keeps_transition _
  | raises e => exact .raise e
  | drifts code message => exact keeps_stopAndPersist code message

lemma keeps_executionFailed (validated : Bool) (e : Raised) :
    Keeps Live (executionFailed validated e) := by
  refine .bind .state fun w => ?_
  split
  · split_ifs
    · exact .raise _
    · exact keeps_stopAndPersist _ _
  · exact keeps_stopAndPersist _ _

lemma keeps_reviewWorkspace (arguments : Review) (session : Session)
    (result : Checked ExecutionResult) :
    Keeps Live (reviewWorkspace py arguments session result) := by
  have hsubmit : Keeps Live (submitCoordinated py arguments session result) :=
    .bind (.lift _) fun _ => .bind (.lift _) fun _ => keeps_transition _
  refine .bind (.attempt hsubmit) fun outcome => ?_
  cases outcome with
  | ok _ => exact .pure _
  | error e => exact keeps_stopAndPersist _ _

/-! ### The check of the revision -/

/-- Without a session, `inspect` reads the stored record and stores that of a session that did not
survive a restart. -/
lemma inspect_cases (hsession : w.session = none) :
    (∃ view, inspect w = (.ok view, w) ∧
      ∀ record, w.disk = some record → record.oversized ∨ record.view.isEnded) ∨
    ∃ view record, inspect w = persist view w ∧ w.disk = some record ∧
      record.oversized = false ∧ record.view.isEnded = false := by
  unfold inspect
  simp only [hsession]
  cases hdisk : w.disk with
  | none => exact .inl ⟨_, rfl, nofun⟩
  | some record =>
    by_cases hoversized : record.oversized
    · refine .inl ⟨notPrepared, by simp [hoversized], fun other hother => ?_⟩
      cases hother
      exact .inl hoversized
    · by_cases hended : record.view.isEnded
      · refine .inl ⟨record.view, by simp [hoversized, hended], fun other hother => ?_⟩
        cases hother
        exact .inr hended
      · refine .inr ⟨{ record.view with state := some (PyStr.of "stopped") }, record, ?_, rfl,
          by simpa using hoversized, by simpa using hended⟩
        show (if record.oversized then (_, w) else if record.view.isEnded then (_, w)
          else persist _ w) = _
        rw [if_neg hoversized, if_neg hended]

lemma inspect_of_session {session : Session} (hsession : w.session = some session)
    (hw : Tracked w) : ∃ view, w.projection = some view ∧ inspect w = (.ok view, w) := by
  obtain ⟨view, hview⟩ := Option.isSome_iff_exists.mp (hw.session (by simp [hsession]))
  refine ⟨view, hview, ?_⟩
  unfold inspect
  simp only [hsession, hview, Option.getD_some]

/-- Where a `prepare` of the mode has lost the last revision, nothing has happened yet. -/
structure Found (mode : OrchestratorMode) (w t : Working) : Prop where
  tracks : Tracked t
  same : w.toCoordinator.Lost mode → t = w

lemma triple_inspect (hw : Tracked w) (mode : OrchestratorMode) :
    Triple (· = w) inspect
      (fun view t => Found mode w t ∧ ∀ r, view.revision = some r →
        ¬ w.toCoordinator.Lost mode → t.base mode = t.persisted.headD 0)
      fun _ => Found mode w := by
  rintro w rfl
  have hsame : Found mode w w := ⟨hw, fun _ => rfl⟩
  cases hsession : w.session with
  | some session =>
    obtain ⟨view, hview, hrun⟩ := inspect_of_session hsession hw
    rw [hrun]
    refine ⟨hsame, fun r hr _ => (base_eq hview).trans (hw.follows ?_ ?_)⟩
    · rintro ⟨_, bare, hbare, hnone⟩
      cases hview.symm.trans hbare
      cases hnone.symm.trans hr
    · rintro ⟨hnone, _⟩
      cases hnone.symm.trans hview
  | none =>
    have hbare : ¬ w.IsBare := by simp [Coordinator.IsBare, hsession]
    rcases inspect_cases hsession with ⟨view, hrun, hended⟩ |
      ⟨view, record, hrun, hdisk, hreadable, hended⟩
    · rw [hrun]
      refine ⟨hsame, fun _ _ hlost => ?_⟩
      cases hprojection : w.projection with
      | some view =>
        refine (base_eq hprojection).trans (hw.follows hbare fun hunread => ?_)
        cases hunread.1.symm.trans hprojection
      | none =>
        -- the stored record is not the one of an ended session, or the mode is `off`
        cases hdisk : w.disk with
        | none =>
          rw [hw.empty hdisk]
          cases mode <;> simp [Coordinator.base, previousRevision, hprojection, hdisk]
        | some record =>
          have hunread : ¬ w.IsUnread := fun ⟨_, record, hdisk, hoversized⟩ =>
            hlost ⟨hprojection, record, hdisk, .inl hoversized⟩
          have hoff : mode = .off := by
            by_contra hoff
            have hrecord := (hended record hdisk).resolve_left fun hoversized =>
              hunread ⟨hprojection, record, hdisk, hoversized⟩
            exact hlost ⟨hprojection, record, hdisk, .inr ⟨hrecord, hoff⟩⟩
          rw [hoff]
          exact hw.follows hbare hunread
    · rw [hrun]
      have hlost : ¬ w.Lost mode := by
        rintro ⟨_, other, hother, hrecord⟩
        cases hdisk.symm.trans hother
        simp [hreadable, hended] at hrecord
      have hfollows : w.Follows := by
        refine hw.follows hbare ?_
        rintro ⟨_, other, hother, hoversized⟩
        cases hdisk.symm.trans hother
        cases hreadable.symm.trans hoversized
      unfold persist
      cases w.writes.headD (.stores false) with
      | fails e => exact ⟨hw, fun h => absurd h hlost⟩
      | stores oversized =>
        refine ⟨⟨hw.persisted hfollows view oversized, fun h => absurd h hlost⟩, fun _ _ _ => ?_⟩
        cases mode <;> rfl

/-- The check of the revision finds the last one, or the caller has lost it. -/
lemma triple_requireRevision (hw : Tracked w) (mode : OrchestratorMode) (expectedRevision : ℤ) :
    Triple (· = w) (requireRevision expectedRevision)
      (fun _ t => Found mode w t ∧
        (¬ w.toCoordinator.Lost mode → t.base mode = t.persisted.headD 0))
      fun _ => Found mode w := by
  refine .bind (Q := fun _ => (· = w)) ?_ fun _ => .bind (triple_inspect hw mode) fun view => ?_
  · refine .mono_error (keeps_refuseWhen _ _) ?_
    rintro _ w rfl
    exact ⟨hw, fun _ => rfl⟩
  · rintro t ⟨hfound, hbase⟩
    unfold refuseWhen
    by_cases hstale : view.revision.map Int.ofNat ≠ some expectedRevision
    · rw [if_pos hstale]
      exact hfound
    · rw [if_neg hstale]
      obtain ⟨r, hr, _⟩ := Option.map_eq_some_iff.mp (not_not.mp hstale)
      exact ⟨hfound, hbase r hr⟩

/-- After the check, an operation on the session starts from a live one. -/
lemma keeps_afterRevision {expectedRevision : ℤ} {code message : PyStr}
    {continue' : Session → Coordinated PUnit} (h : ∀ session, Keeps Live (continue' session)) :
    Keeps Tracked (do
      requireRevision expectedRevision
      let session ← requireSession code message
      continue' session) := by
  intro w hw
  refine Triple.bind ((triple_requireRevision hw .off expectedRevision).mono_error
    fun _ _ h => h.tracks) (fun _ => Triple.bind (Q := fun _ => Live) ?_ fun session => ?_) w rfl
  · rintro t ⟨hfound, hbase⟩
    rw [requireSession, bind_apply_ok (show state t = (.ok t, t) from rfl)]
    cases hsession : t.session with
    | none => exact hfound.tracks
    | some session =>
      refine ⟨hfound.tracks, hbase fun hlost => ?_⟩
      -- a session has a projection
      have hprojection := hw.session (by simp [← hfound.same hlost, hsession])
      simp [hlost.1] at hprojection
  · exact .mono_post (h session) (fun _ _ hw => hw.tracks) fun _ _ hw => hw.tracks

lemma keeps_coordinateApprove (expectedRevision : ℤ) (expectedPlanDigest actor : PyStr)
    (git : Except Raised Identity) :
    Keeps Tracked (coordinateApprove py expectedRevision expectedPlanDigest actor git) :=
  keeps_afterRevision fun _ => .bind (keeps_boundIdentity git) fun _ =>
    .bind (keeps_transition _) fun _ => keeps_persistSession

lemma keeps_execute (arguments : Execute) : Keeps Tracked (execute py arguments) := by
  refine keeps_afterRevision fun session => ?_
  refine .bind (.lift _) fun _ => ?_
  refine .bind (keeps_refuseWhen _ _) fun _ => ?_
  refine .bind (keeps_boundIdentity _) fun _ => ?_
  refine .bind .state fun _ => ?_
  refine .bind (keeps_refuseWhen _ _) fun _ => ?_
  refine .bind (keeps_refuseWhen _ _) fun _ => ?_
  refine .bind (.lift _) fun _ => ?_
  refine .bind (.lift _) fun _ => ?_
  refine .bind (keeps_transition _) fun _ => ?_
  refine .bind (.attempt (keeps_executeBegun _)) fun outcome => ?_
  cases outcome with
  | ok _ => exact keeps_persistSession
  | error e => exact .bind (keeps_executionFailed _ e) fun _ => keeps_persistSession

lemma keeps_review (arguments : Review) : Keeps Tracked (review py arguments) := by
  refine keeps_afterRevision fun session => ?_
  cases session.executionResult with
  | none => exact keeps_refuseWith _ _
  | some result =>
    refine .bind (.lift _) fun _ => ?_
    refine .bind (keeps_refuseWhen _ _) fun _ => ?_
    refine .bind (keeps_boundIdentity _) fun identity => ?_
    by_cases hdrift : identity ≠ (result.val.functionalCommit, result.val.functionalTree)
    · rw [if_pos hdrift]
      exact keeps_stopAndPersist _ _
    · rw [if_neg hdrift]
      refine .bind (.lift _) fun _ => ?_
      refine .bind (keeps_refuseWhen _ _) fun _ => ?_
      refine .bind (.attempt (keeps_reviewWorkspace _ _ _)) fun outcome => ?_
      refine .bind (.lift _) fun _ => ?_
      cases outcome with
      | ok _ => exact keeps_persistSession
      | error e => exact .raise e

lemma keeps_coordinateClose (arguments : Close) : Keeps Tracked (coordinateClose py arguments) := by
  refine keeps_afterRevision fun session => ?_
  cases session.review with
  | none => exact keeps_refuseWith _ _
  | some review =>
    refine .bind (.lift _) fun _ => ?_
    refine .bind (keeps_refuseWhen _ _) fun _ => ?_
    refine .bind (keeps_boundIdentity _) fun identity => ?_
    by_cases hdrift : identity ≠ (review.val.functionalCommit, review.val.functionalTree)
    · rw [if_pos hdrift]
      exact keeps_stopAndPersist _ _
    · rw [if_neg hdrift]
      exact .bind (keeps_transition _) fun _ => keeps_persistSession

/-! ### Preparations -/

section

variable {mode : OrchestratorMode} {b : ℕ} {revisions : List ℕ}

variable (mode b revisions) in
/-- A `prepare` of the mode stores the revision after `b`. -/
structure Based (w : Working) : Prop where
  tracks : Tracked w
  base : w.base mode = b
  persisted : w.persisted = revisions
  known : b = revisions.headD 0 ∨ w.projection = none

/-- Nothing was stored. -/
structure Unchanged (revisions : List ℕ) (w : Working) : Prop where
  tracks : Tracked w
  persisted : w.persisted = revisions

/-- The revision after `b` was stored, which keeps the order if `b` is the last one. -/
structure Stored (b : ℕ) (revisions : List ℕ) (w : Working) : Prop where
  persisted : w.persisted = (b + 1) :: revisions
  tracks : b = revisions.headD 0 → Tracked w

lemma Based.unchanged (h : Based mode b revisions w) : Unchanged revisions w :=
  ⟨h.tracks, h.persisted⟩

lemma triple_persist (view : View) :
    Triple (fun w => Unchanged revisions w ∧ w.previousRevision = b) (persist view)
      (fun _ => Stored b revisions) fun _ => Unchanged revisions := by
  rintro w ⟨⟨htracks, rfl⟩, rfl⟩
  unfold persist
  cases w.writes.headD (.stores false) with
  | fails e => exact ⟨htracks, rfl⟩
  | stores oversized => exact ⟨rfl, fun hlast => htracks.persisted hlast view oversized⟩

lemma triple_persistSession :
    Triple (fun w => (Unchanged revisions w ∧ w.previousRevision = b) ∧ w.session.isSome)
      persistSession (fun _ => Stored b revisions) fun _ => Unchanged revisions := by
  rintro w ⟨hw, hsession⟩
  obtain ⟨session, hsession⟩ := Option.isSome_iff_exists.mp hsession
  unfold persistSession
  simp only [hsession]
  exact Triple.bind_pure (k := fun _ => ()) (triple_persist _) w hw

/-- A session that is stopped stays in place. -/
lemma keeps_disableSession : Keeps (Based .off b revisions) disableSession := by
  refine .bind .state fun before => ?_
  split_ifs
  · refine .bind (.attempt (keeps_onSession_of _ fun w registry session hsome hw => ?_))
      fun _ => .pure _
    exact ⟨hw.tracks.withSession hsome registry session, hw.base, hw.persisted, hw.known⟩
  · exact .pure _

lemma triple_prepareOff :
    Triple (Based .off b revisions) prepareOff (fun _ => Stored b revisions)
      fun _ => Unchanged revisions := by
  refine .bind (.mono_error keeps_disableSession fun _ _ h => h.unchanged) fun _ => ?_
  refine .bind (.modify fun w hw => ⟨⟨hw.tracks.withoutSession ?_, hw.persisted⟩, hw.base⟩)
    fun _ => .bind_pure (triple_persist _)
  refine hw.known.imp_left fun hlast => ?_
  rw [Coordinator.Follows, hw.persisted, ← hlast]
  exact hw.base

lemma preparedView_revision (projection : Option View) (backendId : PyStr) :
    (preparedView projection backendId).revision = projection.bind View.revision := by
  cases projection with
  | none => rfl
  | some view => rfl

/-- Up to its last two steps `prepareSession` only reads and builds the session, which changes the
registry. -/
lemma triple_prepareSession (hmode : mode ≠ .off) (arguments : Prepare) (backendId : PyStr) :
    Triple (Based mode b revisions) (prepareSession py arguments backendId)
      (fun _ => Stored b revisions) fun _ => Unchanged revisions := by
  have hkeeps {α : Type} {x : Coordinated α} (hx : Keeps (Based mode b revisions) x) :
      Triple (Based mode b revisions) x (fun _ => Based mode b revisions)
        fun _ => Unchanged revisions := .mono_error hx fun _ _ h => h.unchanged
  refine .bind (hkeeps .state) fun before => ?_
  refine .bind (hkeeps (keeps_refuseWhen _ _)) fun _ => ?_
  refine .bind (hkeeps (.lift _)) fun identity => ?_
  refine .bind (hkeeps (keeps_refuseWhen _ _)) fun _ => ?_
  refine .bind (hkeeps (.lift _)) fun contracts => ?_
  refine .bind (hkeeps fun w hw => ?_) fun session =>
    .bind (.modify fun w hw => ⟨⟨⟨?_, hw.persisted⟩, ?_⟩, rfl⟩) fun _ => triple_persistSession
  · unfold Outcome
    cases newSession py contracts w.registry with
    | mk result registry =>
      have hregistry : Based mode b revisions { w with registry } :=
        ⟨hw.tracks.withRegistry registry, hw.base, hw.persisted, hw.known⟩
      cases result with
      | ok session | error e => exact hregistry
  · exact hw.tracks.prepared session (preparedView_revision w.projection backendId)
  · have hbase := hw.base
    rw [← hbase]
    show (preparedView w.projection backendId).revision.getD 0 = _
    rw [preparedView_revision]
    cases mode with
    | off => exact absurd rfl hmode
    | _ => rfl

section

variable (mode)

/-- What a `prepare` leaves: it stores the next revision, or revision 1 if the last one is lost. -/
structure Prepared (w t : Working) : Prop where
  tracks : ¬ w.toCoordinator.Lost mode → Tracked t
  lost : w.toCoordinator.Lost mode → t.persisted = 1 :: w.persisted

/-- What a `prepare` that raises leaves: nothing is stored if the last revision is lost. -/
structure Refused (w t : Working) : Prop where
  tracks : Tracked t
  lost : w.toCoordinator.Lost mode → t.persisted = w.persisted

end

lemma triple_afterRevision (hw : Tracked w) (expectedRevision : ℤ) {job : Coordinated PUnit}
    (hjob : ∀ {b revisions}, Triple (Based mode b revisions) job (fun _ => Stored b revisions)
      fun _ => Unchanged revisions) :
    Triple (· = w) (do requireRevision expectedRevision; job) (fun _ => Prepared mode w)
      fun _ => Refused mode w := by
  refine .bind ((triple_requireRevision hw mode expectedRevision).mono_error fun _ _ h =>
    ⟨h.tracks, fun hlost => by rw [h.same hlost]⟩) fun _ t ht => ?_
  obtain ⟨hfound, hbase⟩ := ht
  by_cases hlost : w.Lost mode
  · obtain rfl := hfound.same hlost
    have hzero : t.base mode = 0 := by
      obtain ⟨hnone, record, hdisk, hrecord⟩ := hlost
      cases mode <;> simp_all [Coordinator.base, previousRevision]
    refine (hjob.mono_post ?_ ?_) t ⟨hw, hzero, rfl, .inr hlost.1⟩
    · exact fun _ _ h => ⟨absurd hlost, fun _ => h.persisted⟩
    · exact fun _ _ h => ⟨h.tracks, fun _ => h.persisted⟩
  · refine (hjob.mono_post ?_ ?_) t ⟨hfound.tracks, hbase hlost, rfl, .inl rfl⟩
    · exact fun _ _ h => ⟨fun _ => h.tracks rfl, fun h => absurd h hlost⟩
    · exact fun _ _ h => ⟨h.tracks, fun h => absurd h hlost⟩

lemma triple_prepare {arguments : Prepare} (hmode : arguments.mode = some mode)
    (hw : Tracked w) :
    Triple (· = w) (prepare py arguments) (fun _ => Prepared mode w) fun _ => Refused mode w := by
  unfold prepare
  rw [hmode]
  cases mode with
  | off => exact triple_afterRevision hw _ triple_prepareOff
  | _ =>
    refine .bind (Q := fun _ => (· = w)) (.mono_error (Keeps.lift _) ?_) fun backendId => ?_
    · rintro _ _ rfl
      exact ⟨hw, fun _ => rfl⟩
    · exact triple_afterRevision hw _ (triple_prepareSession (by simp) arguments backendId)

end

/-! ### Histories -/

namespace Coordinator

/-- An operation that is no `prepare` keeps the revisions in order. -/
lemma tracks_request (h : c.Tracks) (request : Request) (writes : List Write)
    (hprepare : ∀ arguments, request ≠ .prepare arguments) :
    (c.next py (.request request writes)).Tracks := by
  have hkeeps : Keeps Tracked (request.run py) := by
    cases request with
    | inspect =>
      intro w hw
      refine Triple.bind ((triple_inspect hw .off).mono_error fun _ _ h => h.tracks)
        (fun _ => Triple.pure fun _ h => h.1.tracks) w rfl
    | prepare arguments => exact absurd rfl (hprepare arguments)
    | approve expectedRevision expectedPlanDigest actor git =>
      exact keeps_coordinateApprove expectedRevision expectedPlanDigest actor git
    | execute arguments => exact keeps_execute arguments
    | review arguments => exact keeps_review arguments
    | close arguments => exact keeps_coordinateClose arguments
  exact Triple.apply_always hkeeps h

/-- A restart leaves the last revision in the stored record, which may be too large to be read. -/
lemma tracks_restart (h : c.Tracks) : (c.next py .restart).Tracks := by
  refine ⟨h.increasing, h.positive, h.disk, nofun, ?_⟩
  cases hdisk : c.disk with
  | none =>
    refine .inl ?_
    simp [next, Follows, previousRevision, hdisk, h.empty hdisk]
  | some record =>
    by_cases hoversized : record.oversized
    · exact .inr (.inr ⟨rfl, record, hdisk, hoversized⟩)
    · obtain ⟨r, rest, hpersisted, hr⟩ := h.last hdisk
      refine .inl ?_
      simp [next, Follows, previousRevision, hdisk, hoversized, hpersisted, hr]

lemma not_increasing_of_lost (h : c.Tracks) (hlost : c.Lost mode) :
    ¬ (1 :: c.persisted).Pairwise (· > ·) := by
  intro hincreasing
  obtain ⟨_, record, hdisk, _⟩ := hlost
  obtain ⟨r, rest, hpersisted, _⟩ := h.last hdisk
  have hmem : r ∈ c.persisted := by simp [hpersisted]
  have hlarger := (pairwise_cons.mp hincreasing).1 r hmem
  have hpositive := h.positive r hmem
  omega

/-- **The step lemma.** An event keeps the revisions in order, or is a `prepare` that breaks the
order because it has lost the last revision. -/
theorem next_cases (py : Interpreter) (h : c.Tracks) (event : ServiceEvent) :
    (¬ c.Resets py event ∧ (c.next py event).Tracks) ∨
      (c.Resets py event ∧ ¬ (c.next py event).persisted.Pairwise (· > ·)) := by
  cases event with
  | restart => exact .inl ⟨by simp [Resets], tracks_restart h⟩
  | elsewhere registry => exact .inl ⟨by simp [Resets], h.withRegistry registry⟩
  | request request writes =>
    by_cases hprepare : ∃ arguments, request = .prepare arguments
    swap
    · refine .inl ⟨?_, tracks_request h request writes (not_exists.mp hprepare)⟩
      rintro ⟨arguments, _, _, hrequest, _⟩
      cases hrequest
      exact hprepare ⟨arguments, rfl⟩
    obtain ⟨arguments, rfl⟩ := hprepare
    cases hmode : arguments.mode with
    | none =>
      refine .inl ⟨by simp [Resets, hmode], ?_⟩
      show (prepare py arguments { c with writes }).2.toCoordinator.Tracks
      unfold prepare
      rw [hmode]
      exact h
    | some mode =>
      have houtcome : Outcome (fun _ => Prepared mode { c with writes })
          (fun _ => Refused mode { c with writes }) (prepare py arguments { c with writes }) :=
        triple_prepare hmode h _ rfl
      cases hrun : prepare py arguments { c with writes } with
      | mk result w =>
        have hnext : c.next py (.request (.prepare arguments) writes) = w.toCoordinator :=
          congrArg (Working.toCoordinator ∘ Prod.snd) hrun
        have hresets : c.Resets py (.request (.prepare arguments) writes) ↔
            c.Lost mode ∧ w.persisted ≠ c.persisted := by
          simp [Resets, hmode, hnext]
        rw [hrun] at houtcome
        rw [hresets, hnext]
        cases result with
        | error _ =>
          exact .inl ⟨fun ⟨hlost, hchanged⟩ => hchanged (houtcome.lost hlost), houtcome.tracks⟩
        | ok _ =>
          by_cases hlost : c.Lost mode
          · have hpersisted : w.persisted = 1 :: c.persisted := houtcome.lost hlost
            rw [hpersisted]
            exact .inr ⟨⟨hlost, cons_ne_self _ _⟩, not_increasing_of_lost h hlost⟩
          · exact .inl ⟨fun h => hlost h.1, houtcome.tracks hlost⟩

end Coordinator

/-- **The revisions of an instance.** At every moment of a history of operations and restarts each
record that was stored has a larger revision than every record before it, exactly if no `prepare`
stores a record after a restart while the stored record is that of an ended session (unless the mode
is `off`) or too large to be read. -/
theorem revisions_increase_iff (py : Interpreter) (events : List ServiceEvent) :
    (∀ earlier, earlier <+: events →
      (earlier.foldl (next py) start).persisted.Pairwise (· > ·)) ↔
      Run.Along (next py) (fun c event => ¬ c.Resets py event) start events := by
  refine Run.forall_prefix_iff_along (P := fun c => c.persisted.Pairwise (· > ·))
    (I := Coordinator.Tracks) ?_ ?_ tracks_start List.Pairwise.nil events
  · intro c event h
    rcases next_cases py h event with ⟨hkeeps, htracks⟩ | ⟨hresets, hnot⟩
    · exact iff_of_true htracks.increasing hkeeps
    · exact iff_of_false hnot (not_not_intro hresets)
  · intro c event h hincreasing
    rcases next_cases py h event with ⟨_, htracks⟩ | ⟨_, hnot⟩
    · exact htracks
    · exact absurd hincreasing hnot

/-! ### A revision that is used again -/

section

open Daemon (plainInterpreter)

def prepareMode (mode : OrchestratorMode) (expectedRevision : ℤ) : ServiceEvent :=
  .request (.prepare {
    mode := some mode
    expectedRevision
    expectedBaseCommit := plainSha
    backend := .ok "sandbox_bwrap"
    git := .ok (plainSha, plainSha)
    contracts := .ok (argumentsOf plainDelegation) }) []

/-- The mode is set to `off` twice, and after a restart a proposal is prepared for revision 2. -/
def disabledEvents : List ServiceEvent :=
  [prepareMode .off 0, prepareMode .off 1, .restart, prepareMode .assisted 2]

lemma disabled_revisions :
    (disabledEvents.foldl (next plainInterpreter) start).persisted = [1, 2, 1] := by
  decide +kernel

/-- The record that is stored after revision 2 has revision 1. -/
theorem restarted_prepare_reuses_revision :
    ¬ (disabledEvents.foldl (next plainInterpreter) start).persisted.Pairwise (· > ·) := by
  rw [disabled_revisions]
  decide

end

end StatePort.Goal
