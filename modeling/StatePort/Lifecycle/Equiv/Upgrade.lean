import StatePort.Lifecycle.Upgrade

/-!
# Upgrades are atomic under crashes

An interrupted upgrade is in one of six situations (`Interrupted`): nothing has been written, the
stage is being built beside the original instance, the original is in the backup and nothing is in
its place, an instance without the receipt of this plan is in its place, the committed instance is
in its place, or the transaction is over. Every prefix of the upgrade leaves one of them
(`throughout_applySteps`), every prefix of a recovery leaves one of them again
(`throughout_recovery`), and a recovery that completes leaves the first or the last
(`outcome_of_recovery`).

Recovery tells the fourth from the fifth by reading the receipt back from its file. A receipt that
does not read back as valid is rolled back although it is committed, and by then the removal of the
backup may have begun.
-/

namespace StatePort.Lifecycle

open List Disk

/-! ### Editing directories -/

namespace Dir

variable (dir : Dir) {path other : RelPath}

lemma nodeAt_put (other : RelPath) (node : Node) (h : path ≠ []) :
    (dir.put other node).nodeAt path = if other = path then some node else dir.nodeAt path := by
  have hfind := dir.entries.find?_insert_erase (k := path) (Entry.mk other node)
  simp only [nodeAt, put, if_neg h, hfind]
  split_ifs
  · rfl
  · rfl

lemma nodeAt_remove_self (h : path ≠ []) : (dir.remove path).nodeAt path = none := by
  simp [nodeAt, remove, h]

lemma nodeAt_remove_of_ne (h : path ≠ other) :
    (dir.remove other).nodeAt path = dir.nodeAt path := by
  simp only [nodeAt, remove, dir.entries.find?_erase_of_ne h]

end Dir

/-- The edit writes or removes what is at `path`. -/
def Edit.Touches (path : RelPath) : Edit → Prop
  | .put other _ => other = path
  | .remove other => other = path
  | .rename source target => source = path ∨ target = path

variable {path : RelPath}

section

variable (hpath : path ≠ [])
include hpath

/-- An edit elsewhere leaves a path alone. -/
lemma nodeAt_edit (dir : Dir) {e : Edit}
    (h : ¬ e.Touches path) : (dir.edit e).nodeAt path = dir.nodeAt path := by
  cases e with
  | put other node =>
    have hne : other ≠ path := h
    change (dir.put other node).nodeAt path = _
    rw [dir.nodeAt_put _ _ hpath, if_neg hne]
  | remove other => exact dir.nodeAt_remove_of_ne fun heq => h heq.symm
  | rename source target =>
    obtain ⟨hsource, htarget⟩ := not_or.mp h
    change (dir.rename source target).nodeAt path = _
    unfold Dir.rename
    split
    · rw [Dir.nodeAt_put _ _ _ hpath, if_neg htarget, dir.nodeAt_remove_of_ne fun heq => hsource heq.symm]
    · rfl

lemma nodeAt_edits {edits : List Edit}
    (h : ∀ e ∈ edits, ¬ e.Touches path) (dir : Dir) :
    (edits.foldl Dir.edit dir).nodeAt path = dir.nodeAt path := by
  induction edits generalizing dir with
  | nil => rfl
  | cons e edits ih =>
    rw [foldl_cons, ih fun e he => h e (mem_cons_of_mem _ he)]
    exact nodeAt_edit hpath dir (h e mem_cons_self)

/-- Copying one entry puts it at its path and leaves all others alone. -/
lemma nodeAt_copyEntry (entry : Entry) (dir : Dir) :
    ((copyEntry entry).foldl Dir.edit dir).nodeAt path =
      if entry.path = path then some entry.node else dir.nodeAt path := by
  cases hnode : entry.node with
  | directory =>
    simp only [copyEntry, hnode, foldl_cons, foldl_nil]
    exact dir.nodeAt_put _ _ hpath
  | file content =>
    simp only [copyEntry, hnode, foldl_cons, foldl_nil]
    change ((dir.put _ _).put _ _).nodeAt path = _
    rw [Dir.nodeAt_put _ _ _ hpath, dir.nodeAt_put _ _ hpath]
    split_ifs
    · rfl
    · rfl

/-- A copied tree has every entry of the original. -/
lemma nodeAt_copytree {rows : List Entry}
    (hnodup : (rows.map Entry.path).Nodup) (dir : Dir) :
    ((rows.flatMap copyEntry).foldl Dir.edit dir).nodeAt path =
      ((rows.find? fun entry => entry.path = path).map Entry.node).or (dir.nodeAt path) := by
  induction rows generalizing dir with
  | nil => simp
  | cons entry rows ih =>
    obtain ⟨hfresh, hnodup⟩ := nodup_cons.mp hnodup
    rw [flatMap_cons, foldl_append, ih hnodup, nodeAt_copyEntry hpath]
    by_cases heq : entry.path = path
    · -- the other entries have other paths, so the copy of this one stays
      have hnone : rows.find? (fun entry => entry.path = path) = none := by
        rw [find?_eq_none]
        intro other hmem
        simp only [decide_eq_true_eq]
        intro hother
        exact hfresh (mem_map.mpr ⟨other, hmem, hother.trans heq.symm⟩)
      simp [heq, hnone]
    · simp [heq]

end

/-! ### The receipt before the commit -/

/-- The temporary file of a document is not a document of `.statedd`. -/
lemma temporaryPath_ne {name hex : String} (hname : name.toList.head? ≠ some '.') :
    temporaryPath path hex ≠ [".statedd", name] := by
  intro heq
  have hlast := congrArg List.getLast? heq
  simp only [temporaryPath, getLast?_append, getLast?_singleton, Option.some_or,
    getLast?_cons_cons, Option.some.injEq] at hlast
  rw [← hlast] at hname
  simp [String.toList_append] at hname

lemma temporaryPath_ne_receiptPath (path : RelPath) (hex : String) :
    temporaryPath path hex ≠ receiptPath :=
  temporaryPath_ne (by decide)

lemma not_touches_receipt_of_mem_writeYaml (hpath : path ≠ receiptPath)
    {hex : String} {text : List Char} :
    ∀ e ∈ writeYaml path hex text, ¬ e.Touches receiptPath := by
  have htemp := temporaryPath_ne_receiptPath path hex
  simp [writeYaml, Edit.Touches, htemp, hpath]

lemma receiptOf_congr {dir dir' : Dir} (h : dir.nodeAt receiptPath = dir'.nodeAt receiptPath) :
    receiptOf dir = receiptOf dir' := by
  rw [receiptOf, receiptOf, h]

namespace Upgrade

variable (u : Upgrade)

/-- Staging does not write the receipt. -/
def LeavesReceipt : Prop := ∀ e ∈ u.materialize ++ u.validation, ¬ e.Touches receiptPath

/-- The directory holds no receipt of this plan. -/
def Unclaimed (dir : Dir) : Prop :=
  ∀ receipt, receiptOf dir = .ok (some receipt) → receipt.get "planDigest" ≠ u.plan.get "planDigest"

variable {u}

/-- The stage holds the receipt of the original instance. -/
lemma receiptOf_staged (h : u.LeavesReceipt) : receiptOf u.staged = receiptOf u.pre := by
  have hpath : receiptPath ≠ [] := by decide
  have hlock : ∀ e ∈ u.lockEdits, ¬ e.Touches receiptPath := by
    intro e he
    unfold lockEdits at he
    split at he
    · simp at he
    · obtain he | he := mem_append.mp he
      · exact not_touches_receipt_of_mem_writeYaml (by decide) e he
      · exact h e (mem_append_right _ he)
  have hedits : ∀ e ∈ u.materialize ++ u.lockEdits, ¬ e.Touches receiptPath := by
    intro e he
    obtain he | he := mem_append.mp he
    · exact h e (mem_append_left _ he)
    · exact hlock e he
  refine receiptOf_congr ?_
  rw [staged, staging, foldl_append, nodeAt_edits hpath hedits,
    nodeAt_copytree hpath u.pre.entries.nodup]
  simp [Dir.nodeAt, hpath, Table.find?]

/-- An accepted upgrade starts from an instance without the receipt of its plan. -/
lemma unclaimed_pre {host : Host} (h : u.accept host = .ok true) : u.Unclaimed u.pre := by
  simp only [accept, eq_ok_iff] at h
  obtain ⟨receipt?, hread, _, _, _, _, _, hnone⟩ := h
  intro receipt hreceipt
  cases hreceipt.symm.trans hread
  simpa using hnone

lemma Unclaimed.congr {dir dir' : Dir} (h : u.Unclaimed dir)
    (hnode : dir'.nodeAt receiptPath = dir.nodeAt receiptPath) : u.Unclaimed dir' := by
  intro receipt hreceipt
  exact h receipt (by rw [← receiptOf_congr hnode, hreceipt])

variable {dir : Dir}

lemma Unclaimed.remove (h : u.Unclaimed dir) (path : RelPath) :
    u.Unclaimed (dir.remove path) := by
  by_cases hpath : receiptPath = path
  · intro receipt hreceipt
    rw [receiptOf, ← hpath, dir.nodeAt_remove_self (by decide)] at hreceipt
    cases hreceipt
  · exact h.congr (dir.nodeAt_remove_of_ne hpath)

lemma Unclaimed.put_temporary (h : u.Unclaimed dir) (hex : String) (node : Node) :
    u.Unclaimed (dir.put (temporaryPath receiptPath hex) node) := by
  have hnode := dir.nodeAt_put (temporaryPath receiptPath hex) node
    (show receiptPath ≠ [] by decide)
  rw [if_neg (temporaryPath_ne_receiptPath receiptPath hex)] at hnode
  exact h.congr hnode

/-- Recovery takes an instance for committed when it holds the valid receipt of the journal's
plan. -/
lemma exists_receipt_of_isCommitted {host : Host} {journal : Value}
    (h : isCommitted host journal (some dir) = .ok true) :
    ∃ receipt, receiptOf dir = .ok (some receipt) ∧ validAppliedReceipt host receipt dir = .ok true ∧
      receipt.get "planDigest" = journal.get "planDigest" := by
  simp only [isCommitted, eq_ok_iff, Bool.and_eq_true] at h
  obtain ⟨receipt?, hread, valid, hholds, rfl, hany⟩ := h
  cases receipt? with
  | none => simp at hany
  | some receipt =>
    rw [holdsValidReceipt, hread] at hholds
    exact ⟨receipt, hread, hholds, by simpa using hany⟩

lemma not_committed_of_unclaimed {host : Host} (h : u.Unclaimed dir)
    {journal : Value} (hjournal : journal.get "planDigest" = u.plan.get "planDigest") :
    isCommitted host journal (some dir) ≠ .ok true := by
  intro hcommitted
  obtain ⟨receipt, hread, -, hdigest⟩ := exists_receipt_of_isCommitted hcommitted
  exact h receipt hread (hdigest.trans hjournal)

end Upgrade

/-! ### Changing one directory -/

namespace Disk

variable (disk : Disk) {slot other : Slot} {dir dir' : Option Dir}

@[simp] lemma journal_setDir : (disk.setDir slot dir).journal = disk.journal := rfl

@[simp] lemma dirs_setDir_self : (disk.setDir slot dir).dirs slot = dir :=
  Function.update_self ..

@[simp] lemma dirs_setDir_of_ne (h : other ≠ slot) :
    (disk.setDir slot dir).dirs other = disk.dirs other :=
  Function.update_of_ne h ..

@[simp] lemma setDir_setDir : (disk.setDir slot dir).setDir slot dir' = disk.setDir slot dir' := by
  simp [setDir]

lemma setDir_eq_self (h : disk.dirs slot = dir) : disk.setDir slot dir = disk := by
  rw [← h, setDir, Function.update_eq_self]

lemma runSteps_edits (edits : List Edit) :
    runSteps exec disk (edits.map (.edit slot)) =
      disk.setDir slot ((disk.dirs slot).map fun dir => edits.foldl Dir.edit dir) := by
  induction edits generalizing disk with
  | nil => exact (disk.setDir_eq_self (by simp)).symm
  | cons e edits ih =>
    rw [map_cons, runSteps_cons, ih]
    simp only [exec, dirs_setDir_self, setDir_setDir, Option.map_map]
    rfl

section

variable (slot : Slot) (order : Dir → List RelPath)

/-- `shutil.rmtree` removes a directory and changes nothing else. -/
lemma runSteps_rmtree (d : Dir) :
    runSteps exec disk (rmtree order slot d) = disk.setDir slot none := by
  have hmap : (order d).map (fun path => Step.edit slot (.remove path)) =
      ((order d).map Edit.remove).map (.edit slot) := by
    rw [map_map]
    rfl
  rw [rmtree, runSteps_append, hmap, runSteps_edits]
  simp [exec]

lemma runSteps_rmtreeIfExists
    (h : disk.dirs slot = dir) :
    runSteps exec disk (rmtreeIfExists order slot dir) = disk.setDir slot none := by
  cases dir with
  | none => exact (disk.setDir_eq_self h).symm
  | some d => exact disk.runSteps_rmtree slot order d

end

/-- What does not depend on a directory holds throughout its edits. -/
lemma throughout_edits {I : Disk → Prop} (hI : ∀ disk dir, I disk → I (disk.setDir slot dir))
    (h : I disk) (edits : List Edit) :
    Throughout exec I disk (edits.map (.edit slot)) := by
  refine (throughout_of_preserved ?_ h).1
  intro disk h step hstep
  obtain ⟨e, -, rfl⟩ := mem_map.mp hstep
  exact hI _ _ h

/-- What does not depend on a directory holds throughout its removal. -/
lemma throughout_rmtreeIfExists {I : Disk → Prop}
    (hI : ∀ disk dir, I disk → I (disk.setDir slot dir)) (h : I disk)
    (order : Dir → List RelPath) (dir : Option Dir) :
    Throughout exec I disk (rmtreeIfExists order slot dir) := by
  cases dir with
  | none => exact .nil h
  | some d =>
    refine (throughout_of_preserved ?_ h).1
    intro disk h step hstep
    simp only [rmtreeIfExists, rmtree, mem_append, mem_map, mem_singleton] at hstep
    obtain ⟨path, -, rfl⟩ | rfl := hstep
    · exact hI _ _ h
    · exact hI _ _ h

end Disk

/-! ### The situations of an interrupted upgrade -/

/-- No upgrade is in progress: the instance is `dir`, and there is no stage, backup or journal. -/
structure AtRest (dir : Dir) (disk : Disk) : Prop where
  journal : disk.journal = none
  root : disk.dirs .root = some dir
  stage : disk.dirs .stage = none
  backup : disk.dirs .backup = none

namespace Upgrade

variable (host : Host) (u : Upgrade)

/-- The journal is the one of this upgrade, in some phase. -/
def Journaled (disk : Disk) : Prop := ∃ phase, disk.journal = some (u.journalText host phase)

/-- The stage is being built, or removed, beside the original instance. -/
structure Staging (disk : Disk) : Prop where
  journal : u.Journaled host disk
  root : disk.dirs .root = some u.pre
  backup : disk.dirs .backup = none

/-- The original instance is in the backup, and nothing is in its place. -/
structure Displaced (disk : Disk) : Prop where
  journal : u.Journaled host disk
  root : disk.dirs .root = none
  backup : disk.dirs .backup = some u.pre

/-- The original instance is in the backup, and an instance that is not committed in its place. -/
structure Promoted (disk : Disk) : Prop where
  journal : u.Journaled host disk
  root : ∃ dir, disk.dirs .root = some dir ∧ u.Unclaimed dir
  backup : disk.dirs .backup = some u.pre

/-- The committed instance is in place. -/
structure Committed (disk : Disk) : Prop where
  journal : u.Journaled host disk
  root : disk.dirs .root = some (u.published host)

/-- What a crash leaves of an upgrade, or of a recovery. -/
inductive Interrupted (disk : Disk) : Prop
  | untouched (h : AtRest u.pre disk)
  | staging (h : u.Staging host disk)
  | displaced (h : u.Displaced host disk)
  | promoted (h : u.Promoted host disk)
  | committed (h : u.Committed host disk)
  | finished (h : AtRest (u.published host) disk)

/-- What recovery relies on: the files that it reads back say what was written to them, and the
upgrade brings no journal of its own into the instance. -/
structure Recoverable : Prop where
  /-- A journal that recovery accepts names this plan and the stage. -/
  journal : ∀ phase journal stage, readYaml (u.journalText host phase) (journalName host) = .ok journal →
    journalStage host journal = .ok stage →
      stage = stageName host ∧ journal.get "planDigest" = u.plan.get "planDigest"
  /-- The receipt, read from its file, is valid and names this plan. -/
  receipt : ∃ receipt, receiptOf (u.published host) = .ok (some receipt) ∧
    validAppliedReceipt host receipt (u.published host) = .ok true ∧
      receipt.get "planDigest" = u.plan.get "planDigest"
  /-- Neither the original nor the upgraded instance has a legacy journal. -/
  legacy : u.pre.nodeAt legacyJournalPath = none ∧
    (u.published host).nodeAt legacyJournalPath = none

variable {host u} {disk : Disk} {dir : Option Dir} {steps : List Step}

lemma Staging.setDir_stage (h : u.Staging host disk) : u.Staging host (disk.setDir .stage dir) :=
  ⟨h.journal, by simp [h.root], by simp [h.backup]⟩

lemma Committed.setDir_stage (h : u.Committed host disk) :
    u.Committed host (disk.setDir .stage dir) :=
  ⟨h.journal, by simp [h.root]⟩

lemma Committed.setDir_backup (h : u.Committed host disk) :
    u.Committed host (disk.setDir .backup dir) :=
  ⟨h.journal, by simp [h.root]⟩

/-! ### Recovery -/

/-- Recovery has nothing to do when no upgrade is in progress. -/
lemma eq_nil_of_recovery_atRest {root : Dir} (hlegacy : root.nodeAt legacyJournalPath = none)
    (hdisk : AtRest root disk) (h : Recovery host disk steps) : steps = [] := by
  obtain ⟨order, -, h⟩ := h
  have hjournal : findJournal host disk = .ok none := by
    simp [findJournal, hdisk.journal, hdisk.root, hlegacy, readOptionalMapping]
  simp only [recoverSteps, hjournal, ok_bind, refuseOrphans, eq_ok_iff] at h
  exact h.2.2.symm

/-- With the journal in place, recovery rolls forward or back. -/
lemma recovery_cases (hu : u.Recoverable host) (hdisk : u.Journaled host disk)
    (h : Recovery host disk steps) :
    ∃ order journal, journal.get "planDigest" = u.plan.get "planDigest" ∧
      ((isCommitted host journal (disk.dirs .root) = .ok true ∧
          steps = rollForward order .stage disk) ∨
        (isCommitted host journal (disk.dirs .root) = .ok false ∧
          rollBack order .stage disk = .ok steps)) := by
  obtain ⟨order, -, h⟩ := h
  obtain ⟨phase, hphase⟩ := hdisk
  simp only [recoverSteps, findJournal, hphase, bind_eq_ok] at h
  obtain ⟨journal?, hread, h⟩ := h
  obtain ⟨journal, hjournal, rfl⟩ := exists_of_map_eq_ok hread
  simp only [recoverWith, bind_eq_ok] at h
  obtain ⟨stage, hstage, committed, hcommitted, h⟩ := h
  obtain ⟨rfl, hdigest⟩ := hu.journal phase journal stage hjournal hstage
  have hslot : slotNamed host (stageName host) = .stage := if_pos rfl
  rw [hslot] at h
  refine ⟨order, journal, hdigest, ?_⟩
  cases committed with
  | true =>
    rw [if_pos rfl, pure_eq_ok] at h
    exact Or.inl ⟨hcommitted, h.symm⟩
  | false => exact Or.inr ⟨hcommitted, h⟩

lemma unlinkJournal_of_journaled (h : u.Journaled host disk) :
    unlinkJournal disk = [.unlinkJournal] := by
  obtain ⟨phase, hphase⟩ := h
  simp [unlinkJournal, hphase]

lemma unlinkLegacy_eq_nil {root : Dir} (h : root.nodeAt legacyJournalPath = none) :
    unlinkLegacy (some root) = [] := by
  simp [unlinkLegacy, h]

/-- Without a backup there is nothing to put back. -/
lemma rollBack_eq_rollForward {order : Dir → List RelPath} {root : Dir}
    (hroot : disk.dirs .root = some root) (hbackup : disk.dirs .backup = none) :
    rollBack order slot disk = .ok (rollForward order slot disk) := by
  simp [rollBack, restoreBackup, rollForward, hroot, hbackup, rmtreeIfExists, pure, Except.pure]

/-- Removing the stage and the journal beside the original instance leaves it at rest. -/
lemma Staging.clear (h : u.Staging host disk) (order : Dir → List RelPath) :
    Throughout exec (u.Interrupted host) disk
        (rmtreeIfExists order .stage (disk.dirs .stage) ++ [.unlinkJournal]) ∧
      AtRest u.pre (runSteps exec disk
        (rmtreeIfExists order .stage (disk.dirs .stage) ++ [.unlinkJournal])) := by
  have hcleared : u.Staging host (disk.setDir .stage none) := h.setDir_stage
  have hrest : AtRest u.pre ((disk.setDir .stage none).exec .unlinkJournal) :=
    ⟨rfl, hcleared.root, by simp [exec], hcleared.backup⟩
  have hremoval : Throughout exec (u.Interrupted host) disk
      (rmtreeIfExists order .stage (disk.dirs .stage)) :=
    (disk.throughout_rmtreeIfExists (fun _ _ h => h.setDir_stage) h order _).mono
      fun _ h => .staging h
  have hrun := disk.runSteps_rmtreeIfExists .stage order rfl
  rw [runSteps_append, hrun]
  refine ⟨hremoval.append ?_, hrest⟩
  rw [hrun]
  exact .cons (.staging hcleared) (.nil (.untouched hrest))

lemma Staging.recovery (hu : u.Recoverable host) (hdisk : u.Staging host disk)
    (h : Recovery host disk steps) :
    ∃ order, steps = rmtreeIfExists order .stage (disk.dirs .stage) ++ [.unlinkJournal] := by
  obtain ⟨order, _, -, hsteps⟩ := recovery_cases hu hdisk.journal h
  rw [rollBack_eq_rollForward hdisk.root hdisk.backup, Except.ok.injEq] at hsteps
  have hforward : rollForward order .stage disk = steps :=
    hsteps.elim (fun h => h.2.symm) fun h => h.2
  refine ⟨order, ?_⟩
  simp [← hforward, rollForward, hdisk.root, hdisk.backup, unlinkLegacy_eq_nil hu.legacy.1,
    unlinkJournal_of_journaled hdisk.journal, rmtreeIfExists]

/-- Putting the backup back makes room for the removal of the stage. -/
lemma Displaced.replace (h : u.Displaced host disk) :
    u.Staging host (disk.exec (.replace .backup .root)) :=
  ⟨h.journal, by simp [exec, h.backup], by simp [exec]⟩

/-- Recovery from a displaced instance, with or without one in its place. -/
lemma Displaced.restore (h : u.Displaced host disk) (order : Dir → List RelPath) :
    Throughout exec (u.Interrupted host) disk (.replace .backup .root ::
        (rmtreeIfExists order .stage (disk.dirs .stage) ++ [.unlinkJournal])) ∧
      AtRest u.pre (runSteps exec disk (.replace .backup .root ::
        (rmtreeIfExists order .stage (disk.dirs .stage) ++ [.unlinkJournal]))) := by
  have hstage : (disk.exec (.replace .backup .root)).dirs .stage = disk.dirs .stage := by
    simp [exec]
  obtain ⟨hall, hrest⟩ := h.replace.clear order
  rw [hstage] at hall hrest
  exact ⟨.cons (.displaced h) hall, hrest⟩

/-- Removing the files of an instance that is not committed does not commit it. -/
lemma Promoted.throughout_rmtree (h : u.Promoted host disk) (order : Dir → List RelPath)
    (dir : Dir) : Throughout exec (u.Interrupted host) disk (rmtree order .root dir) := by
  have hremove : ∀ disk, u.Promoted host disk →
      ∀ step ∈ (order dir).map (fun path => Step.edit .root (.remove path)),
        u.Promoted host (disk.exec step) := by
    intro disk h step hstep
    obtain ⟨path, -, rfl⟩ := mem_map.mp hstep
    obtain ⟨root, hroot, hunclaimed⟩ := h.root
    exact ⟨h.journal, ⟨root.remove path, by simp [exec, hroot, Dir.edit], hunclaimed.remove path⟩,
      by simp [exec, h.backup]⟩
  obtain ⟨hall, hend⟩ := throughout_of_preserved hremove h
  refine (hall.mono fun _ h => .promoted h).append (.cons (.promoted hend) (.nil (.displaced ?_)))
  exact ⟨hend.journal, by simp [exec], by simp [exec, hend.backup]⟩

lemma Promoted.displaced (h : u.Promoted host disk) : u.Displaced host (disk.setDir .root none) :=
  ⟨h.journal, by simp, by simp [h.backup]⟩

/-- The two results of an upgrade: the original instance, or the upgraded one with its valid
receipt. -/
def Settled (host : Host) (u : Upgrade) (disk : Disk) : Prop :=
  AtRest u.pre disk ∨
    (AtRest (u.published host) disk ∧ holdsValidReceipt host (u.published host) = .ok true)

section

variable (hu : u.Recoverable host)
include hu

lemma holdsValidReceipt_published : holdsValidReceipt host (u.published host) = .ok true := by
  obtain ⟨receipt, hread, hvalid, -⟩ := hu.receipt
  simp [holdsValidReceipt, hread, hvalid]

/-- Recovery of a displaced instance puts it back. -/
lemma Displaced.recovery (hdisk : u.Displaced host disk)
    (h : Recovery host disk steps) :
    Throughout exec (u.Interrupted host) disk steps ∧ AtRest u.pre (runSteps exec disk steps) := by
  obtain ⟨order, journal, -, ⟨hcommitted, -⟩ | ⟨-, h⟩⟩ := recovery_cases hu hdisk.journal h
  · rw [hdisk.root] at hcommitted
    cases hcommitted
  · simp only [rollBack, restoreBackup, hdisk.root, hdisk.backup, ok_bind, pure_eq_ok,
      Option.isSome_some, if_true, unlinkLegacy_eq_nil hu.legacy.1,
      unlinkJournal_of_journaled hdisk.journal, rmtreeIfExists, nil_append,
      append_nil, cons_append] at h
    rw [← h]
    exact hdisk.restore order

/-- Recovery of an instance that is not committed removes it and puts the original back. -/
lemma Promoted.recovery (hdisk : u.Promoted host disk)
    (h : Recovery host disk steps) :
    Throughout exec (u.Interrupted host) disk steps ∧ AtRest u.pre (runSteps exec disk steps) := by
  obtain ⟨root, hroot, hunclaimed⟩ := hdisk.root
  obtain ⟨order, journal, hdigest, ⟨hcommitted, -⟩ | ⟨-, h⟩⟩ := recovery_cases hu hdisk.journal h
  · rw [hroot] at hcommitted
    exact absurd hcommitted (not_committed_of_unclaimed hunclaimed hdigest)
  · simp only [rollBack, restoreBackup, hroot, hdisk.backup, ok_bind, pure_eq_ok,
      Option.isSome_some, if_true, unlinkLegacy_eq_nil hu.legacy.1,
      unlinkJournal_of_journaled hdisk.journal, rmtreeIfExists, append_nil,
      append_assoc, singleton_append] at h
    have hstage : (disk.setDir .root none).dirs .stage = disk.dirs .stage := by simp
    obtain ⟨hall, hrest⟩ := hdisk.displaced.restore order
    rw [hstage] at hall hrest
    have hrun := disk.runSteps_rmtree .root order root
    rw [← h, runSteps_append, hrun]
    exact ⟨(hdisk.throughout_rmtree order root).append (hrun ▸ hall), hrest⟩

/-- Recovery of a committed upgrade removes what is left of the transaction. -/
lemma Committed.recovery (hdisk : u.Committed host disk)
    (h : Recovery host disk steps) :
    Throughout exec (u.Interrupted host) disk steps ∧
      AtRest (u.published host) (runSteps exec disk steps) := by
  obtain ⟨receipt, hread, -, hreceipt⟩ := hu.receipt
  obtain ⟨order, journal, hdigest, ⟨-, rfl⟩ | ⟨hcommitted, -⟩⟩ := recovery_cases hu hdisk.journal h
  · have hclear : rollForward order .stage disk =
        rmtreeIfExists order .stage (disk.dirs .stage) ++
          (rmtreeIfExists order .backup (disk.dirs .backup) ++ [.unlinkJournal]) := by
      simp [rollForward, hdisk.root, unlinkLegacy_eq_nil hu.legacy.2,
        unlinkJournal_of_journaled hdisk.journal]
    -- first the stage goes, then the backup, then the journal
    have hstage : u.Committed host (disk.setDir .stage none) := hdisk.setDir_stage
    have hbackup : (disk.setDir .stage none).dirs .backup = disk.dirs .backup := by simp
    have hboth : u.Committed host ((disk.setDir .stage none).setDir .backup none) :=
      hstage.setDir_backup
    have hrest : AtRest (u.published host)
        (((disk.setDir .stage none).setDir .backup none).exec .unlinkJournal) :=
      ⟨rfl, hboth.root, by simp [exec], by simp [exec]⟩
    have hrunStage := disk.runSteps_rmtreeIfExists .stage order rfl
    have hrunBackup := runSteps_rmtreeIfExists _ .backup order hbackup
    have hremoveStage := disk.throughout_rmtreeIfExists (fun _ _ h => Committed.setDir_stage h) hdisk
      order (disk.dirs .stage)
    have hremoveBackup := throughout_rmtreeIfExists _
      (fun _ _ h => Committed.setDir_backup h) hstage order (disk.dirs .backup)
    rw [hclear, runSteps_append, runSteps_append, hrunStage, hrunBackup]
    refine ⟨(hremoveStage.mono fun _ h => .committed h).append ?_, hrest⟩
    rw [hrunStage]
    refine (hremoveBackup.mono fun _ h => .committed h).append ?_
    rw [hrunBackup]
    exact .cons (.committed hboth) (.nil (.finished hrest))
  · rw [hdisk.root] at hcommitted
    simp [isCommitted, hread, holdsValidReceipt_published hu, hreceipt, hdigest, pure, Except.pure]
      at hcommitted

/-- **One recovery.** Recovery of an interrupted upgrade leaves an interrupted upgrade wherever it
crashes, and settles it if it completes. -/
theorem Interrupted.recovery (hdisk : u.Interrupted host disk)
    (h : Recovery host disk steps) :
    Throughout exec (u.Interrupted host) disk steps ∧
      Settled host u (runSteps exec disk steps) := by
  cases hdisk with
  | untouched hdisk =>
    obtain rfl := eq_nil_of_recovery_atRest hu.legacy.1 hdisk h
    exact ⟨.nil (.untouched hdisk), Or.inl hdisk⟩
  | staging hdisk =>
    obtain ⟨order, rfl⟩ := hdisk.recovery hu h
    obtain ⟨hall, hrest⟩ := hdisk.clear order
    exact ⟨hall, Or.inl hrest⟩
  | displaced hdisk | promoted hdisk =>
    obtain ⟨hall, hrest⟩ := hdisk.recovery hu h
    exact ⟨hall, Or.inl hrest⟩
  | committed hdisk =>
    obtain ⟨hall, hrest⟩ := hdisk.recovery hu h
    exact ⟨hall, Or.inr ⟨hrest, holdsValidReceipt_published hu⟩⟩
  | finished hdisk =>
    obtain rfl := eq_nil_of_recovery_atRest hu.legacy.2 hdisk h
    exact ⟨.nil (.finished hdisk), Or.inr ⟨hdisk, holdsValidReceipt_published hu⟩⟩

end

/-! ### The upgrade itself -/

lemma Displaced.writeJournal (h : u.Displaced host disk) (phase : Phase) :
    u.Displaced host (disk.exec (.writeJournal (u.journalText host phase))) :=
  ⟨⟨phase, rfl⟩, h.root, h.backup⟩

lemma Committed.writeJournal (h : u.Committed host disk) (phase : Phase) :
    u.Committed host (disk.exec (.writeJournal (u.journalText host phase))) :=
  ⟨⟨phase, rfl⟩, h.root⟩

lemma Committed.throughout_cleanupSteps (hu : u.Recoverable host) (h : u.Committed host disk)
    (hstage : disk.dirs .stage = none) (order : Dir → List RelPath) :
    Throughout exec (u.Interrupted host) disk (u.cleanupSteps host order) := by
  set disk' := disk.exec (.writeJournal (u.journalText host .receiptCommitted)) with hdisk'
  have hjournal : u.Committed host disk' := h.writeJournal .receiptCommitted
  have hbackup : u.Committed host (disk'.setDir .backup none) := hjournal.setDir_backup
  have hrest : AtRest (u.published host) ((disk'.setDir .backup none).exec .unlinkJournal) :=
    ⟨rfl, hbackup.root, by simp [exec, hdisk', hstage], by simp [exec]⟩
  have hremove := disk'.throughout_rmtreeIfExists (fun _ _ h => Committed.setDir_backup h) hjournal
    order (some u.pre)
  rw [cleanupSteps, if_pos hu.legacy.2, append_nil, cons_append]
  refine .cons (.committed h) ((hremove.mono fun _ h => .committed h).append ?_)
  rw [rmtreeIfExists, disk'.runSteps_rmtree]
  exact .cons (.committed hbackup) (.nil (.finished hrest))

/-- The receipt commits the upgrade by its last step, which renames it into place. -/
lemma Promoted.throughout_receiptEdits (hstaged : u.Unclaimed u.staged)
    (h : u.Promoted host disk) (hroot : disk.dirs .root = some u.staged) :
    Throughout exec (u.Interrupted host) disk ((u.receiptEdits host).map (.edit .root)) := by
  cases htext : payload (u.receipt host) with
  | none =>
    simp only [receiptEdits, htext, map_nil]
    exact .nil (.promoted h)
  | some text =>
    have hpublished : u.published host =
        (writeYaml receiptPath u.receiptHex text).foldl Dir.edit u.staged := by
      simp only [published, receiptEdits, htext]
    have hput : ∀ {disk : Disk} {dir : Dir} (content : Content), u.Promoted host disk →
        disk.dirs .root = some dir → u.Unclaimed dir →
          u.Promoted host (disk.exec
            (.edit .root (.put (temporaryPath receiptPath u.receiptHex) (.file content)))) := by
      intro disk dir content h hroot hdir
      have hdir' := hdir.put_temporary u.receiptHex (.file content)
      exact ⟨h.journal, ⟨_, by simp [exec, hroot, Dir.edit], hdir'⟩, by simp [exec, h.backup]⟩
    have hempty := hput (.text []) h hroot hstaged
    have hwritten := hput (.text text) hempty (by simp [exec, hroot]; rfl)
      (hstaged.put_temporary u.receiptHex _)
    simp only [receiptEdits, htext, writeYaml, map_cons, map_nil]
    refine .cons (.promoted h) (.cons (.promoted hempty) (.cons (.promoted hwritten)
      (.nil (.committed ⟨h.journal, ?_⟩))))
    rw [hpublished]
    simp [exec, hroot, writeYaml]

/-- The steps from the published stage on. -/
lemma Promoted.throughout_commit (hu : u.Recoverable host) (hstaged : u.Unclaimed u.staged)
    (h : u.Promoted host disk) (hroot : disk.dirs .root = some u.staged)
    (hstage : disk.dirs .stage = none) (order : Dir → List RelPath) :
    Throughout exec (u.Interrupted host) disk ((u.receiptEdits host).map (.edit .root) ++
      if payload (u.receipt host) = none then [] else u.cleanupSteps host order) := by
  have hedits := h.throughout_receiptEdits hstaged hroot
  split_ifs with htext
  · rwa [append_nil]
  · have hrun : runSteps exec disk ((u.receiptEdits host).map (.edit .root)) =
        disk.setDir .root (some (u.published host)) := by
      rw [runSteps_edits, hroot]
      rfl
    have hcommitted : u.Committed host (disk.setDir .root (some (u.published host))) :=
      ⟨h.journal, by simp⟩
    refine hedits.append ?_
    rw [hrun]
    exact hcommitted.throughout_cleanupSteps hu (by simp [hstage]) order

lemma Staging.replace (h : u.Staging host disk) :
    u.Displaced host (disk.exec (.replace .root .backup)) :=
  ⟨h.journal, by simp [exec], by simp [exec, h.root]⟩

lemma Displaced.promote (hstaged : u.Unclaimed u.staged) (h : u.Displaced host disk)
    (hstage : disk.dirs .stage = some u.staged) :
    u.Promoted host (disk.exec (.replace .stage .root)) :=
  ⟨h.journal, ⟨u.staged, by simp [exec, hstage], hstaged⟩, by simp [exec, h.backup]⟩

lemma Promoted.writeJournal (h : u.Promoted host disk) (phase : Phase) :
    u.Promoted host (disk.exec (.writeJournal (u.journalText host phase))) :=
  ⟨⟨phase, rfl⟩, h.root, h.backup⟩

/-- The steps from the promotion on. -/
lemma Staging.throughout_promoteSteps (hu : u.Recoverable host) (hstaged : u.Unclaimed u.staged)
    (h : u.Staging host disk) (hstage : disk.dirs .stage = some u.staged)
    (order : Dir → List RelPath) :
    Throughout exec (u.Interrupted host) disk (u.promoteSteps host order) := by
  have hmoved := h.replace
  have hrecorded := hmoved.writeJournal .originalMoved
  have hstage' : ((disk.exec (.replace .root .backup)).exec
      (.writeJournal (u.journalText host .originalMoved))).dirs .stage = some u.staged := by
    simp [exec, hstage]
  have hplaced := hrecorded.promote hstaged hstage'
  have hpublished := hplaced.writeJournal .stagePublished
  rw [promoteSteps, append_assoc, cons_append, cons_append, cons_append, cons_append, nil_append]
  refine .cons (.staging h) (.cons (.displaced hmoved) (.cons (.displaced hrecorded)
    (.cons (.promoted hplaced) ?_)))
  exact hpublished.throughout_commit hu hstaged (by simp [exec, hstage]) (by simp [exec]) order

/-- **The upgrade.** Wherever an upgrade crashes, it leaves one of the situations that recovery
expects. -/
theorem throughout_applySteps (hu : u.Recoverable host) (hstaged : u.Unclaimed u.staged)
    (order : Dir → List RelPath) :
    Throughout exec (u.Interrupted host) u.start (u.applySteps host order) := by
  have hstart : AtRest u.pre u.start := ⟨rfl, rfl, rfl, rfl⟩
  have hjournal : u.Staging host (u.start.exec (.writeJournal (u.journalText host .staging))) :=
    ⟨⟨.staging, rfl⟩, rfl, rfl⟩
  set disk := (u.start.exec (.writeJournal (u.journalText host .staging))).exec
    (.mkdir .stage u.stageInode) with hdisk
  have hmkdir : u.Staging host disk := hjournal.setDir_stage
  have hstage : disk.dirs .stage = some ⟨u.stageInode, Table.empty _⟩ := by
    simp [hdisk, exec]
  have hedits : Throughout exec (u.Interrupted host) disk (u.staging.map (.edit .stage)) :=
    (disk.throughout_edits (fun _ _ h => h.setDir_stage) hmkdir u.staging).mono
      fun _ h => .staging h
  have hrun : runSteps exec disk (u.staging.map (.edit .stage)) =
      disk.setDir .stage (some u.staged) := by
    rw [runSteps_edits, hstage]
    rfl
  have hbuilt : u.Staging host (disk.setDir .stage (some u.staged)) := hmkdir.setDir_stage
  rw [applySteps, cons_append, cons_append]
  refine .cons (.untouched hstart) (.cons (.staging hjournal) (hedits.append ?_))
  rw [hrun]
  split_ifs
  · exact .nil (.staging hbuilt)
  · exact hbuilt.throughout_promoteSteps hu hstaged (by simp) order

end Upgrade

end StatePort.Lifecycle
