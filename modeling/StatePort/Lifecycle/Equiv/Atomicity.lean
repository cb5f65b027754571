import StatePort.Lifecycle.Equiv.RoundTrip
import StatePort.Lifecycle.Equiv.Upgrade

/-!
# Crash atomicity of upgrades

`settled_of_recovered` is the atomicity of an upgrade whose documents read back as they were
written, and `crashAtomic_iff_fitsLock` says that this is what it takes, and what it takes of the
plan, the approval and the staged lock if the receipt has no double quotes and line breaks. The
journal reads back for every instance name without a double quote or a line break
(`readYaml_journalText`). The receipt quotes what the approver wrote, and
`quoted_approver_loses_file` is an accepted upgrade whose receipt does not read back: recovery rolls
the committed upgrade back to a backup that is already being removed.
-/

namespace StatePort.Lifecycle

open List Disk Value

/-! ### Fields of a mapping -/

section

variable {fields : List (String × Value)} {key other : String} {v value : Value}

lemma lookup_orderedInsert_of_ne (h : other ≠ key) :
    (fields.orderedInsert (fun a b => fieldLE a b) (key, value)).lookup other =
      fields.lookup other := by
  have hne : (other == key) = false := beq_false_of_ne h
  induction fields with
  | nil => simp [lookup_cons, hne]
  | cons field fields ih =>
    rw [orderedInsert]
    split_ifs with hle
    · rw [lookup_cons]
      simp only [hne]
    · rw [lookup_cons, lookup_cons, ih]

lemma lookup_filter_of_ne (h : other ≠ key) :
    (fields.filter fun field => field.1 ≠ key).lookup other = fields.lookup other := by
  have hne : (other == key) = false := beq_false_of_ne h
  induction fields with
  | nil => rfl
  | cons field fields ih =>
    by_cases hkey : field.1 = key
    · rw [filter_cons_of_neg (by simpa using hkey), ih, lookup_cons, hkey]
      simp only [hne]
    · rw [filter_cons_of_pos (by simpa using hkey), lookup_cons, lookup_cons, ih]

lemma get_set_of_ne (h : other ≠ key) : (v.set key value).get other = v.get other := by
  unfold Value.get Value.get? Value.set Value.without
  simp only [Value.fields]
  rw [lookup_orderedInsert_of_ne h, lookup_filter_of_ne h]

lemma lookup_orderedInsert_self (h : ∀ field ∈ fields, field.1 ≠ key) :
    (fields.orderedInsert (fun a b => fieldLE a b) (key, value)).lookup key = some value := by
  induction fields with
  | nil => simp
  | cons field fields ih =>
    rw [forall_mem_cons] at h
    rw [orderedInsert]
    split_ifs with hle
    · simp
    · have hne : (key == field.1) = false := beq_false_of_ne (Ne.symm h.1)
      rw [lookup_cons, ih h.2]
      simp only [hne]

lemma get_set_self : (v.set key value).get key = value := by
  unfold Value.get Value.get? Value.set Value.without
  simp only [Value.fields]
  rw [lookup_orderedInsert_self (by simp)]
  rfl

lemma get_ofFields (h : (fields.map Prod.fst).Nodup) :
    (ofFields fields).get key = (Value.dict fields).get key := by
  suffices hlookup : (fields.insertionSort fun a b => fieldLE a b).lookup key =
      fields.lookup key by
    simp only [Value.get, Value.get?, ofFields, Value.fields, hlookup]
  induction fields with
  | nil => rfl
  | cons field fields ih =>
    obtain ⟨first, value⟩ := field
    rw [map_cons, nodup_cons] at h
    rw [insertionSort_cons, lookup_cons]
    by_cases hkey : key = first
    · subst hkey
      rw [lookup_orderedInsert_self, beq_self_eq_true]
      intro field hmem hfirst
      exact h.1 (mem_map.mpr ⟨field, (mem_insertionSort _).mp hmem, hfirst⟩)
    · rw [lookup_orderedInsert_of_ne hkey, beq_false_of_ne hkey, ih h.2]

lemma filter_orderedInsert (h : ∀ field ∈ fields, field.1 ≠ key) :
    (fields.orderedInsert (fun a b => fieldLE a b) (key, value)).filter (fun field => field.1 ≠ key)
      = fields := by
  induction fields with
  | nil => simp
  | cons field fields ih =>
    rw [forall_mem_cons] at h
    rw [orderedInsert]
    split_ifs with hle
    · rw [filter_cons_of_neg (by simp), filter_eq_self]
      simpa using ⟨h.1, fun a b hab => h.2 (a, b) hab⟩
    · rw [filter_cons_of_pos (by simpa using h.1), ih h.2]

lemma without_set : (v.set key value).without key = v.without key := by
  unfold Value.set Value.without
  simp only [Value.fields]
  rw [filter_orderedInsert (by simp)]

end

/-! ### An order of removal -/

def deepestFirst (dir : Dir) : List RelPath :=
  dir.paths.insertionSort fun p q => q.length ≤ p.length

lemma isRemovalOrder_deepestFirst : IsRemovalOrder deepestFirst := by
  intro dir
  have hperm : (deepestFirst dir).Perm dir.paths := perm_insertionSort ..
  refine ⟨hperm, ?_⟩
  have htotal : Std.Total fun p q : RelPath => q.length ≤ p.length :=
    ⟨fun p q => Nat.le_total q.length p.length⟩
  have htrans : IsTrans RelPath fun p q => q.length ≤ p.length :=
    ⟨fun p q r hpq hqr => hqr.trans hpq⟩
  have hsorted : (deepestFirst dir).Pairwise fun p q => q.length ≤ p.length :=
    pairwise_insertionSort _ _
  have hnodup : (deepestFirst dir).Nodup := hperm.nodup_iff.mpr dir.entries.nodup
  refine (hsorted.and hnodup).imp ?_
  rintro p q ⟨hlength, hne⟩ hbelow
  exact hne (hbelow.eq_of_length (le_antisymm hbelow.length_le hlength))

/-! ### The journal reads back -/

namespace Upgrade

variable {host : Host} {u : Upgrade} {digest : String}

/-- The fields of the journal, in the order of their keys. -/
def journalFields (host : Host) (digest : String) (phase : Phase) : List (String × String) :=
  [("backupName", backupName host), ("formatVersion", "statedd.upgrade-transaction/v2"),
    ("phase", phase.name), ("planDigest", digest), ("stageName", stageName host)]

lemma journal_eq (host : Host) (hdigest : u.plan.get "planDigest" = .str digest) (phase : Phase) :
    u.journal host phase = .dict (stringFields (journalFields host digest phase)) := by
  rw [journal, hdigest]
  simp +decide [ofFields, fieldLE, stringFields, journalFields, List.insertionSort,
    List.orderedInsert]

lemma plain_phase (phase : Phase) : Plain phase.name := by
  cases phase with
  | staging | originalMoved | stagePublished | receiptCommitted => decide +kernel

lemma plain_journalFields {phase : Phase} (hname : Plain host.name) (hplain : Plain digest) :
    ∀ field ∈ journalFields host digest phase, Plain field.2 := by
  have hdot : Plain "." := by decide +kernel
  have hbackup : Plain ".upgrade-backup" := by decide +kernel
  have hstage : Plain ".upgrade-stage" := by decide +kernel
  have hformat : Plain "statedd.upgrade-transaction/v2" := by decide +kernel
  simp only [journalFields, mem_cons, not_mem_nil, or_false]
  rintro field (rfl | rfl | rfl | rfl | rfl)
  · exact (hdot.append hname).append hbackup
  · exact hformat
  · exact plain_phase phase
  · exact hplain
  · exact (hdot.append hname).append hstage

/-- The journal of an instance with a plain name reads back as it was written. -/
lemma readYaml_journalText (hname : Plain host.name)
    (hdigest : u.plan.get "planDigest" = .str digest) (hplain : Plain digest) (phase : Phase)
    (label : String) :
    readYaml (u.journalText host phase) label = .ok (u.journal host phase) := by
  have hne : stringFields (journalFields host digest phase) ≠ [] := by
    simp [stringFields, journalFields]
  have hkeys : AreKeys ((stringFields (journalFields host digest phase)).map Prod.fst) := by
    have hclosed : AreKeys ["backupName", "formatVersion", "phase", "planDigest", "stageName"] := by
      decide +kernel
    exact hclosed
  have hvalid : isFieldValue (.dict (stringFields (journalFields host digest phase))) := by
    rw [isFieldValue, decide_eq_true hkeys, Bool.and_true]
    simp [stringFields, journalFields, areFields, isFieldValue]
  have hsurvives : (dict (stringFields (journalFields host digest phase))).allScalars survives := by
    have hfields : ∀ field ∈ journalFields host digest phase, Plain field.2 :=
      plain_journalFields hname hplain
    simp only [journalFields, forall_mem_cons] at hfields
    simp [stringFields, journalFields, allScalars, allScalarsFields, survives, hfields]
  have hlevels : levels (.dict (stringFields (journalFields host digest phase))) ≤ 100 := by
    simp [stringFields, journalFields, levels, levelsFields]
  rw [journalText, journal_eq host hdigest phase]
  exact readYaml_payload hne hvalid hsurvives hlevels (by rfl) label

/-- The names in the journal of this upgrade. -/
lemma get_journal_names (hdigest : u.plan.get "planDigest" = .str digest) (phase : Phase) :
    (u.journal host phase).get "stageName" = .str (stageName host) ∧
      (u.journal host phase).get "backupName" = .str (backupName host) := by
  rw [journal_eq host hdigest]
  exact ⟨rfl, rfl⟩

/-- Recovery accepts the journal of this upgrade and finds its plan and its stage. -/
lemma journalStage_journal (hdigest : u.plan.get "planDigest" = .str digest) {phase : Phase}
    {stage : String} (h : journalStage host (u.journal host phase) = .ok stage) :
    stage = stageName host ∧ (u.journal host phase).get "planDigest" = u.plan.get "planDigest" := by
  obtain ⟨hstageName, hbackupName⟩ := get_journal_names hdigest phase
  have hplanDigest : (u.journal host phase).get "planDigest" = .str digest := by
    rw [journal_eq host hdigest]
    rfl
  rw [journalStage, hstageName, hbackupName] at h
  simp only at h
  split_ifs at h
  exact ⟨(Except.ok.inj h).symm, hplanDigest.trans hdigest.symm⟩

/-- An upgrade of an instance with a plain name is recoverable if its receipt reads back as
valid. -/
lemma Recoverable.of_plain (hname : Plain host.name)
    (hdigest : u.plan.get "planDigest" = .str digest) (hplain : Plain digest)
    (hreceipt : ∃ receipt, receiptOf (u.published host) = .ok (some receipt) ∧
      validAppliedReceipt host receipt (u.published host) = .ok true ∧
        receipt.get "planDigest" = u.plan.get "planDigest")
    (hlegacy : u.pre.nodeAt legacyJournalPath = none ∧
      (u.published host).nodeAt legacyJournalPath = none) : u.Recoverable host where
  journal phase journal stage hread hstage := by
    rw [readYaml_journalText hname hdigest hplain] at hread
    cases hread
    exact journalStage_journal hdigest hstage
  receipt := hreceipt
  legacy := hlegacy

/-! ### Atomicity -/

/-- Staging leaves no receipt of this plan. -/
lemma unclaimed_staged (haccept : u.accept host = .ok true) (hleaves : u.LeavesReceipt) :
    u.Unclaimed u.staged := by
  intro receipt hreceipt
  rw [receiptOf_staged hleaves] at hreceipt
  exact unclaimed_pre haccept receipt hreceipt

/-- **Recovery settles.** An accepted upgrade whose documents read back stops after any number `k`
of its steps, and recoveries follow that may crash in turn: the first of them to complete leaves the
original instance, or the upgraded one with its valid receipt, and no stage, backup or journal. -/
theorem settled_of_recovered (haccept : u.accept host = .ok true) (hleaves : u.LeavesReceipt)
    (hu : u.Recoverable host) (order : Dir → List RelPath) (k : ℕ) {disk : Disk}
    (h : Recovered exec (Recovery host)
      (runSteps exec u.start ((u.applySteps host order).take k)) disk) :
    Settled host u disk := by
  have hstaged := unclaimed_staged haccept hleaves
  have hcrash : u.Interrupted host (runSteps exec u.start ((u.applySteps host order).take k)) :=
    (throughout_applySteps hu hstaged order).take k
  exact h.outcome (fun _ _ hdisk hrecovery => (hdisk.recovery hu hrecovery).1)
    (fun _ _ hdisk hrecovery => (hdisk.recovery hu hrecovery).2) hcrash

/-! ### Receipts that do not read back -/

lemma inode_edits (edits : List Edit) (dir : Dir) :
    (edits.foldl Dir.edit dir).inode = dir.inode := by
  induction edits generalizing dir with
  | nil => rfl
  | cons e edits ih =>
    rw [foldl_cons, ih]
    cases e with
    | put path node => rfl
    | remove path => rfl
    | rename source target =>
      change (dir.rename source target).inode = dir.inode
      unfold Dir.rename
      split
      · rfl
      · rfl

/-- The upgrade just before it removes its journal. -/
lemma exists_before_unlinkJournal (hlock : payload u.stagedLock ≠ none)
    (hreceipt : payload (u.receipt host) ≠ none)
    (hlegacy : (u.published host).nodeAt legacyJournalPath = none) (order : Dir → List RelPath) :
    ∃ k, ∃ disk, runSteps exec u.start ((u.applySteps host order).take k) = disk ∧
      disk.journal = some (u.journalText host .receiptCommitted) ∧
      disk.dirs .root = some (u.published host) ∧ disk.dirs .stage = none ∧
      disk.dirs .backup = none := by
  set before : List Step := .writeJournal (u.journalText host .staging) ::
    .mkdir .stage u.stageInode :: (u.staging.map (.edit .stage) ++
      (.replace .root .backup :: .writeJournal (u.journalText host .originalMoved) ::
        .replace .stage .root :: .writeJournal (u.journalText host .stagePublished) ::
          ((u.receiptEdits host).map (.edit .root) ++
            (.writeJournal (u.journalText host .receiptCommitted) :: rmtree order .backup u.pre))))
    with hbefore
  have hsteps : u.applySteps host order = before ++ [.unlinkJournal] := by
    simp [applySteps, promoteSteps, cleanupSteps, hlock, hreceipt, hlegacy, hbefore]
  refine ⟨before.length, _, rfl, ?_⟩
  rw [hsteps, take_left, hbefore]
  simp only [runSteps_cons, runSteps_append, runSteps_edits, runSteps_rmtree]
  refine ⟨?_, ?_, ?_, ?_⟩
  · simp [exec]
  · simp [exec, published, staged]
  · simp [exec]
  · simp [exec]

/-- A name with affixes that hold no slash is a single part. -/
lemma pathParts_eq_singleton {s : String} (hslash : '/' ∉ s.toList) (hne : s.toList ≠ [])
    (hdot : s.toList ≠ ['.']) : pathParts s = [s.toList] := by
  simp [pathParts, splitOn_eq_singleton hslash, hne, hdot]

lemma pathParts_transactionName {suffix : String} (hslash : '/' ∉ host.name.toList)
    (hsuffix : '/' ∉ suffix.toList) (hlong : 2 ≤ suffix.toList.length) :
    pathParts ("." ++ host.name ++ suffix) = [("." ++ host.name ++ suffix).toList] := by
  have hlist : ("." ++ host.name ++ suffix).toList = '.' ::
    (host.name.toList ++ suffix.toList) := by
    simp [String.toList_append]
  refine pathParts_eq_singleton ?_ ?_ ?_
  · rw [hlist]
    simp [hslash, hsuffix]
  · rw [hlist]
    simp
  · intro heq
    have hlength := congrArg List.length (hlist.symm.trans heq)
    simp only [length_cons, length_append, length_nil] at hlength
    omega

/-- Recovery accepts the names in the journal of this upgrade. -/
lemma journalStage_eq (hslash : '/' ∉ host.name.toList)
    (hdigest : u.plan.get "planDigest" = .str digest) (phase : Phase) :
    journalStage host (u.journal host phase) = .ok (stageName host) := by
  have hstage : pathParts (stageName host) = [(stageName host).toList] :=
    pathParts_transactionName hslash (by decide +kernel) (by decide +kernel)
  have hbackup : pathParts (backupName host) = [(backupName host).toList] :=
    pathParts_transactionName hslash (by decide +kernel) (by decide +kernel)
  obtain ⟨hstageName, hbackupName⟩ := get_journal_names hdigest phase
  rw [journalStage, hstageName, hbackupName]
  exact if_pos ⟨hstage, Or.inr rfl, hbackup, rfl⟩

/-- The upgrades that the theorem is about: accepted, with documents that can be read back at all.
The instance's name and the plan's digest are plain, the stage is another directory than the
instance, neither tree has a legacy journal, and the receipt file holds a document that names the
plan and whose validity can be decided. -/
structure Regular (host : Host) (u : Upgrade) : Prop where
  accepted : u.accept host = .ok true
  leaves : u.LeavesReceipt
  name : Plain host.name ∧ '/' ∉ host.name.toList
  digest : ∃ digest, u.plan.get "planDigest" = .str digest ∧ Plain digest
  inode : u.stageInode ≠ u.pre.inode
  lock : payload u.stagedLock ≠ none
  legacy : u.pre.nodeAt legacyJournalPath = none ∧
    (u.published host).nodeAt legacyJournalPath = none
  receipt : ∃ receipt, receiptOf (u.published host) = .ok (some receipt) ∧
    receipt.get "planDigest" = u.plan.get "planDigest" ∧
      ∃ valid, validAppliedReceipt host receipt (u.published host) = .ok valid

/-- Wherever the upgrade crashes, and wherever the recoveries after it crash, the first recovery to
complete settles it. -/
def CrashAtomic (host : Host) (u : Upgrade) : Prop :=
  ∀ order, IsRemovalOrder order → ∀ k disk,
    Recovered exec (Recovery host)
        (runSteps exec u.start ((u.applySteps host order).take k)) disk →
      Settled host u disk

/-- A receipt of this plan in the upgraded instance is the one that the upgrade wrote. -/
lemma Regular.payload_receipt_ne_none (hu : u.Regular host) : payload (u.receipt host) ≠ none := by
  intro hnone
  obtain ⟨receipt, hread, hdigest, -⟩ := hu.receipt
  have hpublished : u.published host = u.staged := by simp [published, receiptEdits, hnone]
  rw [hpublished] at hread
  exact unclaimed_staged hu.accepted hu.leaves receipt hread hdigest

/-- **Crash atomicity.** A regular upgrade is atomic exactly if its receipt, as it reads back from
its file, is valid in the upgraded instance. -/
theorem crashAtomic_iff_holdsValidReceipt (hu : u.Regular host) :
    u.CrashAtomic host ↔ holdsValidReceipt host (u.published host) = .ok true := by
  obtain ⟨receipt, hread, hnames, valid, hvalid⟩ := hu.receipt
  obtain ⟨digest, hdigest, hplain⟩ := hu.digest
  have hholds : holdsValidReceipt host (u.published host) = .ok valid := by
    simp [holdsValidReceipt, hread, hvalid]
  rw [hholds]
  constructor
  · intro hatomic
    cases valid with
    | true => rfl
    | false =>
      -- crash after the backup is gone and before the journal is: recovery finds the receipt
      -- invalid and nothing to roll back to, so it keeps the upgraded instance as it is
      obtain ⟨k, disk, hrun, hjournal, hroot, hstage, hbackup⟩ := exists_before_unlinkJournal
        hu.lock hu.payload_receipt_ne_none hu.legacy.2 deepestFirst
      have hjournaled : u.Journaled host disk := ⟨_, hjournal⟩
      have hreadJournal := readYaml_journalText hu.name.1 hdigest hplain .receiptCommitted
        (journalName host)
      have hcommitted : isCommitted host (u.journal host .receiptCommitted)
          (some (u.published host)) = .ok false := by
        simp [isCommitted, hread, hholds, pure, Except.pure]
      have hsteps : recoverSteps host deepestFirst disk = .ok [.unlinkJournal] := by
        simp [recoverSteps, findJournal, hjournal, hreadJournal, Except.map, recoverWith,
          journalStage_eq hu.name.2 hdigest, hroot, hcommitted, rollBack, restoreBackup, hbackup,
          slotNamed, hstage, rmtreeIfExists, unlinkLegacy_eq_nil hu.legacy.2,
          unlinkJournal_of_journaled hjournaled, pure, Except.pure]
      have hrecovered : Recovered exec (Recovery host) disk (runSteps exec disk [.unlinkJournal]) :=
        .completes ⟨deepestFirst, isRemovalOrder_deepestFirst, hsteps⟩
      rw [← hrun] at hrecovered
      obtain hpre | ⟨-, hvalid⟩ := hatomic _ isRemovalOrder_deepestFirst k _ hrecovered
      · have hsame : u.published host = u.pre := by
          have hrootEnd := hpre.root
          rw [hrun] at hrootEnd
          exact Option.some.inj (hroot.symm.trans hrootEnd)
        have hinode : u.stageInode = u.pre.inode := by
          rw [← hsame, published, inode_edits, staged, inode_edits]
        exact absurd hinode hu.inode
      · exact hholds.symm.trans hvalid
  · intro hvalidTrue
    obtain rfl : valid := Except.ok.inj hvalidTrue
    have hrecoverable : u.Recoverable host :=
      .of_plain hu.name.1 hdigest hplain ⟨receipt, hread, hvalid, hnames⟩ hu.legacy
    intro order _ k disk h
    exact settled_of_recovered hu.accepted hu.leaves hrecoverable order k h

/-! ### Receipts that read back -/

variable {text : List Char}

lemma nodeAt_published (htext : payload (u.receipt host) = some text) :
    (u.published host).nodeAt receiptPath = some (.file (.text text)) := by
  have hne : receiptPath ≠ [] := by decide
  have htemp : temporaryPath receiptPath u.receiptHex ≠ [] := by
    simp [temporaryPath]
  simp only [published, receiptEdits, htext, writeYaml, foldl_cons, foldl_nil, Dir.edit, Dir.rename]
  rw [Dir.nodeAt_put _ _ _ htemp, if_pos rfl]
  simp only
  rw [Dir.nodeAt_put _ _ _ hne, if_pos rfl]

lemma get_receipt {key : String} (h : key ≠ "receiptDigest") :
    (u.receipt host).get key = (u.receiptBody host).get key := get_set_of_ne h

lemma receiptDigest_receipt :
    (u.receipt host).get "receiptDigest" = .str (receiptDigest host (u.receipt host)) := by
  unfold receipt
  rw [get_set_self, receiptDigest, receiptDigest, without_set]

lemma get_receiptBody :
    (u.receiptBody host).get "formatVersion" = .str upgradeReceiptFormat ∧
      (u.receiptBody host).get "status" = .str "applied" ∧
      (u.receiptBody host).get "planDigest" = u.plan.get "planDigest" ∧
      (u.receiptBody host).get "approval" = ofFields [("planDigest", u.approval.get "planDigest"),
        ("approvedBy", u.approval.get "approvedBy"),
          ("approvedAt", u.approval.get "approvedAt")] := by
  unfold receiptBody
  rw [get_ofFields (by simp), get_ofFields (by simp),
    get_ofFields (by simp), get_ofFields (by simp)]
  simp [Value.get, Value.get?, Value.fields, lookup_cons]

/-- Of the checks only those against the lock depend on what the instance holds. -/
lemma validAppliedReceipt_receipt (happroved : u.isApproved) (dir : Dir) :
    validAppliedReceipt host (u.receipt host) dir = .ok true ↔
      ∃ lock, lockOf host dir = .ok lock ∧
        receiptMatchesLock host (u.receipt host) lock dir = .ok true := by
  obtain ⟨hformat, hstatus, hplan, happroval⟩ := @get_receiptBody host u
  have hbound : u.approval.get "planDigest" = u.plan.get "planDigest" := by
    simp only [isApproved, Bool.and_eq_true, decide_eq_true_eq] at happroved
    exact happroved.1.1.1.1.1.1.2
  have hdict : (u.receipt host).isDict := rfl
  have happrovalDigest : ((u.receipt host).get "approval").get "planDigest" =
      (u.receipt host).get "planDigest" := by
    rw [get_receipt (by decide), get_receipt (by decide), hplan, happroval,
      get_ofFields (by simp), ← hbound]
    simp [Value.get, Value.get?, Value.fields]
  have happrovalDict : ((u.receipt host).get "approval").isDict := by
    rw [get_receipt (by decide), happroval]
    rfl
  have hhead : ¬ ((u.receipt host).isDict = false ∨
      (u.receipt host).get "formatVersion" ≠ .str upgradeReceiptFormat) := by
    rw [get_receipt (by decide), hformat, hdict]
    simp
  have hbody : ¬ ((u.receipt host).get "status" ≠ .str "applied" ∨
      (u.receipt host).get "receiptDigest" ≠ .str (receiptDigest host (u.receipt host))) := by
    rw [← receiptDigest_receipt, get_receipt (by decide), hstatus]
    simp
  have happroval : ¬ (((u.receipt host).get "approval").isDict = false ∨
      ((u.receipt host).get "approval").get "planDigest" ≠ (u.receipt host).get "planDigest") := by
    rw [happrovalDict, happrovalDigest]
    simp
  rw [validAppliedReceipt, if_neg hhead, if_neg hbody, if_neg happroval]
  cases lockOf host dir with
  | ok lock => simp
  | error e => by_cases h : e.isLifecycleError <;> simp [h]

variable (host u) in
/-- The receipt fits the lock that the upgraded instance holds, and the instance fits the lock. -/
def FitsLock : Prop :=
  ∃ lock, lockOf host (u.published host) = .ok lock ∧
    receiptMatchesLock host (u.receipt host) lock (u.published host) = .ok true

variable (host u) in
/-- The receipt can be written and read back: no string of the plan, of the approval and of the
staged instance that it quotes has a double quote or a line break. -/
structure PlainReceipt : Prop where
  writable : isFieldValue (u.receipt host)
  survives : (u.receipt host).allScalars survives
  levels : levels (u.receipt host) ≤ 100

/-- **Plain receipts** are valid in the upgraded instance exactly if they fit its lock. -/
theorem holdsValidReceipt_published_iff (happroved : u.isApproved) (hplain : u.PlainReceipt host)
    (htext : payload (u.receipt host) = some text) :
    holdsValidReceipt host (u.published host) = .ok true ↔ u.FitsLock host := by
  obtain ⟨hwritable, hsurvives, hlevels⟩ := hplain
  obtain ⟨fields, hfields⟩ : ∃ fields, u.receipt host = .dict fields := ⟨_, rfl⟩
  have hne : fields ≠ [] := by
    rintro rfl
    have hstatus := (get_receipt (by decide)).trans (@get_receiptBody host u).2.1
    rw [hfields] at hstatus
    cases hstatus
  have hread : receiptOf (u.published host) = .ok (some (u.receipt host)) := by
    rw [hfields] at hwritable hsurvives hlevels htext
    rw [receiptOf, nodeAt_published (by rw [hfields]; exact htext), hfields]
    simp only [readOptionalMapping, readContent]
    rw [readYaml_payload hne hwritable hsurvives hlevels htext]
    rfl
  have hholds : holdsValidReceipt host (u.published host) =
      validAppliedReceipt host (u.receipt host) (u.published host) := by
    simp only [holdsValidReceipt, hread, ok_bind]
  rw [hholds]
  exact validAppliedReceipt_receipt happroved _

lemma isApproved_of_accept (h : u.accept host = .ok true) : u.isApproved := by
  simp only [accept, eq_ok_iff, Bool.not_eq_false] at h
  obtain ⟨_, -, _, -, -, -, happroved, -⟩ := h
  exact happroved

end Upgrade

/-! ### A small instance -/

/-- A hash that tells a text with an apostrophe in it from one without. -/
def sampleHash : Content → String
  | .text cs => if Str.apostrophe ∈ cs then "sha256:1" else "sha256:0"
  | .binary _ => "sha256:2"

def sampleHost : Host where
  rootPath := "/srv/i"
  name := "i"
  device := 1
  hashBytes := sampleHash
  checkRefFormat _ := true
  describeTemplateSource _ _ := .error .typeError

/-- The lock of the instance under a version of its template. -/
def sampleLock (version : String) : Value :=
  ofFields [("formatVersion", .str lockFormat), ("instanceId", .str "i"),
    ("template", ofFields [("id", .str "t"), ("version", .str version), ("sourceRevision",
      .str "sha256:0000000000000000000000000000000000000000000000000000000000000000")]),
    ("files", .list [ofFields [("path", .str "a"), ("owner", .str "template"),
      ("merge", .str "replace"), ("required", .bool true), ("sensitivity", .str "public"),
      ("materializedHash", .str "sha256:0")]])]

/-- An instance with one file of its template. -/
def samplePre : Dir where
  inode := 7
  entries := ⟨[⟨[".statedd"], .directory⟩,
    ⟨lockPath, .file (.text ((payload (sampleLock "1")).getD []))⟩,
    ⟨["a"], .file (.text ['1'])⟩], by decide⟩

/-- The upgrade of that file, as `approvedBy` approves it. -/
def sampleUpgrade (approvedBy : String) : Upgrade where
  pre := samplePre
  stageInode := 8
  plan := ofFields [("planDigest", .str "sha256:3"),
    ("current", ofFields [("instanceId", .str "i"), ("version", .str "1")]),
    ("target", ofFields [("id", .str "t"), ("version", .str "2")]), ("entries", .list []),
    ("blocked", .bool false), ("safe", .bool true)]
  approval := ofFields [("formatVersion", .str "statedd.upgrade-approval/v1"),
    ("approved", .bool true), ("planDigest", .str "sha256:3"), ("instanceId", .str "i"),
    ("approvedBy", .str approvedBy), ("approvedAt", .str "now")]
  appliedAt := "now"
  materialize := [.put ["a"] (.file (.text ['2']))]
  lock := sampleLock "2"
  retired := []
  history := []
  validation := []
  lockHex := "0"
  receiptHex := "0"

lemma leavesReceipt_sampleUpgrade (approvedBy : String) :
    (sampleUpgrade approvedBy).LeavesReceipt := by
  intro e he
  obtain rfl : e = .put ["a"] (.file (.text ['2'])) := by simpa [sampleUpgrade] using he
  change ["a"] ≠ receiptPath
  decide

lemma accept_sampleUpgrade : (sampleUpgrade "ops").accept sampleHost = .ok true := by
  decide +kernel

/-- The receipt of an approver without quotes reads back. -/
lemma isCommitted_sampleUpgrade : isCommitted sampleHost (sampleUpgrade "ops").plan
    (some ((sampleUpgrade "ops").published sampleHost)) = .ok true := by
  decide +kernel

lemma holdsValidReceipt_of_isCommitted {journal : Value} {dir : Dir}
    (h : isCommitted host journal (some dir) = .ok true) : holdsValidReceipt host dir =
      .ok true := by
  obtain ⟨receipt, hread, hvalid, -⟩ := Upgrade.exists_receipt_of_isCommitted h
  simp [holdsValidReceipt, hread, hvalid]

lemma plainReceipt_sampleUpgrade : (sampleUpgrade "ops").PlainReceipt sampleHost :=
  ⟨by decide +kernel, by decide +kernel, by decide +kernel⟩

/-- The upgrade approved by `"ops"`, quotes included, after the first file of its backup is
removed. -/
def quotedCrash : Disk :=
  runSteps exec (sampleUpgrade "\"ops\"").start
    (((sampleUpgrade "\"ops\"").applySteps sampleHost deepestFirst).take 20)

end StatePort.Lifecycle
