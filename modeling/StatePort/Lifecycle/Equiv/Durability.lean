import StatePort.Algorithm.Run
import StatePort.Lifecycle.Equiv.Atomicity

/-!
# A committed upgrade and later edits

After an upgrade is committed the instance is edited, and recovery may still find the journal and
the backup of the upgrade. `durable_iff_staysCommitted` says exactly when recovery leaves the
instance alone: the instance still holds the valid receipt of the journal's plan or there is no
backup, the journal does not name the instance as its stage, and the instance has no legacy journal.
An edit of a file that the lock records makes the receipt invalid, so that recovery puts the backup
back (`edited_upgrade_is_rolled_back`).
-/

namespace StatePort.Lifecycle

/-! ### After the commit -/

namespace Upgrade

variable (host : Host) (u : Upgrade) (order : Dir → List RelPath)

/-- The steps up to the receipt. -/
def commitSteps : List Step :=
  .writeJournal (u.journalText host .staging) :: .mkdir .stage u.stageInode ::
    u.staging.map (.edit .stage) ++
    ([.replace .root .backup, .writeJournal (u.journalText host .originalMoved),
      .replace .stage .root, .writeJournal (u.journalText host .stagePublished)] ++
      (u.receiptEdits host).map (.edit .root))

/-- The parent directory when the journal is in the phase `receipt_committed` and `k` steps of the
clean-up have been carried out. -/
def afterCommit (k : ℕ) : Disk :=
  runSteps Disk.exec (runSteps Disk.exec u.start (u.commitSteps host))
    ((u.cleanupSteps host order).take (k + 1))

end Upgrade

/-! ### What happens later -/

/-- An event after the commit: an edit of the instance, or a recovery that stops after `k` steps. -/
inductive Later where
  | edit (e : Edit)
  | recover (order : Dir → List RelPath) (k : ℕ)

variable (host : Host)

/-- The steps of a recovery, none if it raises. -/
def recoveryOf (order : Dir → List RelPath) (disk : Disk) : List Step :=
  match recoverSteps host order disk with
  | .ok steps => steps
  | .error _ => []

def later (disk : Disk) : Later → Disk
  | .edit e => disk.exec (.edit .root e)
  | .recover order k => runSteps Disk.exec disk ((recoveryOf host order disk).take k)

/-- The instance is in place, with these contents. -/
def HasRoot (dir : Dir) (disk : Disk) : Prop := disk.dirs .root = some dir

/-- The recovery neither replaces the instance nor removes a file of it. -/
def keepsInstance (disk : Disk) : Later → Prop
  | .edit _ => True
  | .recover order _ => ∀ dir, HasRoot dir disk →
      Throughout Disk.exec (HasRoot dir) disk (recoveryOf host order disk)

/-- Recovery has no reason to touch the instance `dir`. -/
structure Spared (disk : Disk) (dir : Dir) (stageSlot : Slot) (committed : Bool) : Prop where
  stage : stageSlot ≠ .root
  legacy : dir.nodeAt legacyJournalPath = none
  backup : committed ∨ disk.dirs .backup = none

/-- A recovery that gets as far as looking for the receipt has no reason to touch the instance. -/
def staysCommitted (disk : Disk) : Later → Prop
  | .edit _ => True
  | .recover _ _ => ∀ dir journal stage committed, HasRoot dir disk →
      findJournal host disk = .ok (some journal) → journalStage host journal = .ok stage →
      isCommitted host journal (some dir) = .ok committed →
        Spared disk dir (slotNamed host stage) committed

/-! ### Steps that leave the instance alone -/

section

variable {disk : Disk} {dir : Dir} {slot : Slot} {order : Dir → List RelPath}

lemma HasRoot.setDir (h : HasRoot dir disk) (hslot : slot ≠ .root) (other : Option Dir) :
    HasRoot dir (disk.setDir slot other) := by
  unfold HasRoot
  rw [disk.dirs_setDir_of_ne hslot.symm]
  exact h

lemma HasRoot.throughout_rmtreeIfExists (h : HasRoot dir disk) (hslot : slot ≠ .root)
    (order : Dir → List RelPath) (other : Option Dir) :
    Throughout Disk.exec (HasRoot dir) disk (rmtreeIfExists order slot other) :=
  disk.throughout_rmtreeIfExists (fun _ _ h => h.setDir hslot _) h order other

lemma HasRoot.throughout_unlinkJournal (h : HasRoot dir disk) (other : Disk) :
    Throughout Disk.exec (HasRoot dir) disk (unlinkJournal other) := by
  unfold unlinkJournal
  split_ifs
  · exact .nil h
  · exact .cons h (.nil h)

/-- Removing the instance does not leave it alone. -/
lemma not_throughout_rmtree_root {steps : List Step} :
    ¬ Throughout Disk.exec (HasRoot dir) disk
      (rmtreeIfExists order .root (disk.dirs .root) ++ steps) := by
  intro hkeep
  have hgone := (throughout_append_iff.mp hkeep).1.last
  rw [disk.runSteps_rmtreeIfExists .root order rfl] at hgone
  have hnone : (disk.setDir .root none).dirs .root = none := disk.dirs_setDir_self
  exact absurd (hgone.symm.trans hnone) (by simp)

/-- Unlinking the journals leaves the instance alone exactly if it has no legacy journal. -/
lemma throughout_unlink_iff (h : HasRoot dir disk) (other : Disk) :
    Throughout Disk.exec (HasRoot dir) disk (unlinkLegacy (some dir) ++ unlinkJournal other) ↔
      dir.nodeAt legacyJournalPath = none := by
  constructor
  · intro hkeep
    by_contra hlegacy
    have hunlink : unlinkLegacy (some dir) = [.edit .root (.remove legacyJournalPath)] := by
      simp [unlinkLegacy, hlegacy]
    rw [hunlink] at hkeep
    have hremoved := (throughout_append_iff.mp hkeep).1.last
    have hroot : (runSteps Disk.exec disk [.edit .root (.remove legacyJournalPath)]).dirs .root =
        some (dir.remove legacyJournalPath) := by
      have hdir : disk.dirs .root = some dir := h
      simp [Disk.exec, hdir, Dir.edit]
    have hsame : dir.remove legacyJournalPath = dir := Option.some.inj (hroot.symm.trans hremoved)
    apply hlegacy
    rw [← hsame]
    exact dir.nodeAt_remove_self (by decide)
  · intro hlegacy
    rw [Upgrade.unlinkLegacy_eq_nil hlegacy]
    exact h.throughout_unlinkJournal other

/-- Finishing the upgrade leaves the instance alone exactly if the instance is not the stage and has
no legacy journal. -/
lemma throughout_rollForward_iff (h : HasRoot dir disk) :
    Throughout Disk.exec (HasRoot dir) disk (rollForward order slot disk) ↔
      slot ≠ .root ∧ dir.nodeAt legacyJournalPath = none := by
  have hdir : disk.dirs .root = some dir := h
  rw [rollForward, hdir, List.append_assoc]
  by_cases hslot : slot = .root
  · rw [hslot, List.append_assoc]
    exact ⟨fun hkeep => absurd hkeep not_throughout_rmtree_root, fun hcond => absurd rfl hcond.1⟩
  · have hstage : Throughout Disk.exec (HasRoot dir) disk
        (rmtreeIfExists order slot (disk.dirs slot)) := h.throughout_rmtreeIfExists hslot order _
    have hne : Slot.backup ≠ .root := by decide
    have hbackup := hstage.append
      (hstage.last.throughout_rmtreeIfExists hne order (disk.dirs .backup))
    rw [throughout_append_iff, throughout_unlink_iff hbackup.last]
    exact ⟨fun hkeep => ⟨hslot, hkeep.2⟩, fun hcond => ⟨hbackup, hcond.2⟩⟩

/-- Undoing an upgrade leaves the instance alone exactly if, moreover, there is no backup. -/
lemma throughout_rollBack_iff (h : HasRoot dir disk) {steps : List Step}
    (hsteps : rollBack order slot disk = .ok steps) :
    Throughout Disk.exec (HasRoot dir) disk steps ↔
      slot ≠ .root ∧ dir.nodeAt legacyJournalPath = none ∧ disk.dirs .backup = none := by
  cases hbackup : disk.dirs .backup with
  | some backup =>
    simp only [rollBack, restoreBackup, hbackup, ok_bind, pure_eq_ok, List.append_assoc] at hsteps
    rw [← hsteps]
    exact ⟨fun hkeep => absurd hkeep not_throughout_rmtree_root, fun hcond => by simp at hcond⟩
  | none =>
    rw [Upgrade.rollBack_eq_rollForward h hbackup, Except.ok.injEq] at hsteps
    rw [← hsteps, throughout_rollForward_iff h, and_iff_left rfl]

end

/-! ### Durability -/

variable {host} {disk : Disk} {dir : Dir}

/-- With the instance in place, undoing does not raise. -/
lemma exists_rollBack (h : HasRoot dir disk)
    (order : Dir → List RelPath) (slot : Slot) : ∃ steps, rollBack order slot disk = .ok steps := by
  cases hbackup : disk.dirs .backup with
  | some backup => simp [rollBack, restoreBackup, hbackup, pure, Except.pure]
  | none => exact ⟨_, Upgrade.rollBack_eq_rollForward h hbackup⟩

/-- A recovery that gets as far as looking for the receipt leaves the instance alone exactly if it
has no reason to touch it. -/
lemma throughout_recoveryOf_iff (h : HasRoot dir disk)
    {journal : Value} {stage : String} {committed : Bool}
    (hfind : findJournal host disk = .ok (some journal))
    (hstage : journalStage host journal = .ok stage)
    (hcommitted : isCommitted host journal (some dir) = .ok committed)
    (order : Dir → List RelPath) :
    Throughout Disk.exec (HasRoot dir) disk (recoveryOf host order disk) ↔
      Spared disk dir (slotNamed host stage) committed := by
  have hdir : disk.dirs .root = some dir := h
  cases committed with
  | true =>
    have hsteps : recoveryOf host order disk = rollForward order (slotNamed host stage) disk := by
      simp [recoveryOf, recoverSteps, hfind, recoverWith, hstage, hdir, hcommitted, pure,
        Except.pure]
    rw [hsteps, throughout_rollForward_iff h]
    exact ⟨fun hcond => ⟨hcond.1, hcond.2, .inl rfl⟩, fun hspared =>
      ⟨hspared.stage, hspared.legacy⟩⟩
  | false =>
    obtain ⟨steps, hback⟩ := exists_rollBack h order (slotNamed host stage)
    have hsteps : recoveryOf host order disk = steps := by
      simp [recoveryOf, recoverSteps, hfind, recoverWith, hstage, hdir, hcommitted, hback]
    rw [hsteps, throughout_rollBack_iff h hback]
    constructor
    · rintro ⟨hslot, hlegacy, hbackup⟩
      exact ⟨hslot, hlegacy, .inr hbackup⟩
    · intro hspared
      exact ⟨hspared.stage, hspared.legacy, hspared.backup.resolve_left (by decide)⟩

/-- A recovery that raises before, or finds no journal, does nothing. -/
lemma recoveryOf_eq_nil (h : HasRoot dir disk) (order : Dir → List RelPath)
    (hnone : ∀ journal stage committed, findJournal host disk = .ok (some journal) →
      journalStage host journal = .ok stage → isCommitted host journal (some dir) ≠ .ok committed) :
    recoveryOf host order disk = [] := by
  have hdir : disk.dirs .root = some dir := h
  unfold recoveryOf
  cases hrecover : recoverSteps host order disk with
  | error e => rfl
  | ok steps =>
    simp only [recoverSteps, bind_eq_ok] at hrecover
    obtain ⟨journal?, hfind, hsteps⟩ := hrecover
    cases journal? with
    | none =>
      simp only [refuseOrphans, eq_ok_iff] at hsteps
      exact hsteps.2.2.symm
    | some journal =>
      simp only [recoverWith, bind_eq_ok, hdir] at hsteps
      obtain ⟨stage, hstage, committed, hcommitted, -⟩ := hsteps
      exact absurd hcommitted (hnone journal stage committed hfind hstage)

/-- An event leaves the instance alone exactly if recovery has no reason to touch it. -/
lemma keepsInstance_iff_staysCommitted (disk : Disk) (event : Later) :
    keepsInstance host disk event ↔ staysCommitted host disk event := by
  cases event with
  | edit e => exact Iff.rfl
  | recover order k =>
    constructor
    · intro hkeep dir journal stage committed h hfind hstage hcommitted
      exact (throughout_recoveryOf_iff h hfind hstage hcommitted order).mp (hkeep dir h)
    · intro hstays dir h
      by_cases hfound : ∃ journal stage committed, findJournal host disk = .ok (some journal) ∧
          journalStage host journal = .ok stage ∧
          isCommitted host journal (some dir) = .ok committed
      · obtain ⟨journal, stage, committed, hfind, hstage, hcommitted⟩ := hfound
        exact (throughout_recoveryOf_iff h hfind hstage hcommitted order).mpr
          (hstays dir journal stage committed h hfind hstage hcommitted)
      · rw [recoveryOf_eq_nil h order fun journal stage committed hfind hstage hcommitted =>
          hfound ⟨journal, stage, committed, hfind, hstage, hcommitted⟩]
        exact .nil h

/-- **Durability.** However far the clean-up of a committed upgrade got, along every sequence of
later edits and recoveries, recovery leaves the instance alone exactly if the instance stays
committed wherever recovery runs. -/
theorem durable_iff_staysCommitted (host : Host) (u : Upgrade) (order : Dir → List RelPath) (k : ℕ)
    (events : List Later) :
    Run.Along (later host) (keepsInstance host) (u.afterCommit host order k) events ↔
      Run.Along (later host) (staysCommitted host) (u.afterCommit host order k) events :=
  Run.along_congr keepsInstance_iff_staysCommitted _ _

/-- An edit that keeps the receipt valid and adds no legacy journal keeps the condition. -/
theorem staysCommitted_edit {disk : Disk} {dir edited : Dir} {journal : Value} {order k e}
    (hjournal : disk.journal ≠ none) (hfind : findJournal host disk = .ok (some journal))
    (hroot : HasRoot dir disk) (hcommitted : isCommitted host journal (some dir) = .ok true)
    (h : staysCommitted host disk (.recover order k))
    (hedited : HasRoot edited (later host disk (.edit e)))
    (hlegacy : edited.nodeAt legacyJournalPath = none)
    (hvalid : isCommitted host journal (some edited) = .ok true) :
    staysCommitted host (later host disk (.edit e)) (.recover order k) := by
  intro dir' journal' stage committed hroot' hfind' hstage hcommitted'
  obtain ⟨text, htext⟩ := Option.ne_none_iff_exists'.mp hjournal
  have hsame : (later host disk (.edit e)).journal = some text := htext
  rw [findJournal, hsame] at hfind'
  rw [findJournal, htext] at hfind
  cases hfind.symm.trans hfind'
  cases hedited.symm.trans hroot'
  cases hvalid.symm.trans hcommitted'
  refine ⟨(h dir journal stage true hroot ?_ hstage hcommitted).stage, hlegacy, .inl rfl⟩
  rw [findJournal, htext]
  exact hfind

/-- The instance after the upgrade, with its file edited. -/
def sampleEdited : Disk :=
  later sampleHost ((sampleUpgrade "ops").afterCommit sampleHost deepestFirst 0)
    (.edit (.put ["a"] (.file (.text [Str.apostrophe]))))

/-- **A rolled back upgrade.** The upgrade is committed, its receipt is valid, and a file of its
template is edited before the clean-up is finished. Recovery puts the backup back: the upgrade and
the edit are lost. -/
theorem edited_upgrade_is_rolled_back :
    (sampleUpgrade "ops").accept sampleHost = .ok true ∧ IsRemovalOrder deepestFirst ∧
      holdsValidReceipt sampleHost ((sampleUpgrade "ops").published sampleHost) = .ok true ∧
      (sampleEdited.dirs .root).bind (·.nodeAt ["a"]) = some (.file (.text [Str.apostrophe])) ∧
      ((later sampleHost sampleEdited (.recover deepestFirst 100)).dirs .root).bind
        (·.nodeAt ["a"]) = some (.file (.text ['1'])) := by
  exact ⟨accept_sampleUpgrade, isRemovalOrder_deepestFirst,
    holdsValidReceipt_of_isCommitted isCommitted_sampleUpgrade, by decide +kernel,
    by decide +kernel⟩

end StatePort.Lifecycle
