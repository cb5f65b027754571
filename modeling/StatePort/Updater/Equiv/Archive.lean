import StatePort.Updater.Store

/-!
# Archiving a journal

`archive_journal` archives the journal first and compares it with the pending journal afterwards. A
journal that is valid and not archived yet is therefore in the archive when the comparison fails,
and the archive is written once: the current journal of the same transaction can no longer be
archived. What a failed write leaves in the archive has the same effect. `archive_harmless_iff` says
when an exception leaves the store as it was.
-/

namespace StatePort.Updater

variable {env : Contracts} {s s' : Store} {disk : Disk} {removal : Removal} {journal v : Json}
  {expected : Option String} {name : String} {content : Content}

namespace Store

section

variable (env s disk journal expected)

/-- An exception leaves the store as it was, and no other archival fails because of it. -/
def Harmless : Prop :=
  ∀ e, (s.archiveJournal env disk journal expected).2 = .error e →
    (s.archiveJournal env disk journal expected).1 = s ∧
    ∀ disk' journal' expected', (s.archiveJournal env disk' journal' expected').2 = .ok () →
      ((s.archiveJournal env disk journal expected).1.archiveJournal env disk' journal'
        expected').2 = .ok ()

/-- The pending journal is `v`, with the digest that the caller expects. -/
def IsPending (v : Json) : Prop :=
  ∃ current, s.loadPending env = .ok (some current) ∧
    (∀ digest ∈ expected, current.get "journalDigest" = .str digest) ∧ current.pyEq env.valueOf v

/-- What has to be so for an archival that raises to leave no trace. -/
structure Traceless : Prop where
  /-- A journal that would be archived anew cannot be created, or it is created, and there is no
  pending journal or it is the pending one and is removed. -/
  new : ∀ v name, validatedJournal env journal = .ok v →
    safeId (v.get "transactionId") ("update journal" ++ " id") = .ok name →
    s.journals.find? name = none → checkDocument v "update journal" = .ok () →
      disk.creation = .refused ∨ disk.creation = .done ∧
        (s.loadPending env = .ok none ∨ s.IsPending env expected v ∧ disk.removal = .done)
  /-- The removal of a journal that is archived already is synchronised if it takes place. -/
  archived : ∀ v name, validatedJournal env journal = .ok v →
    safeId (v.get "transactionId") ("update journal" ++ " id") = .ok name →
    sameJsonOrConflict env (s.journals.find? name) v "update journal" = .ok true →
      s.IsPending env expected v → disk.removal ≠ .unsynced

/-- An archival that raises leaves the store as it was. -/
def Unchanged (r : Store × Except StoreError Unit) : Prop := ∀ e, r.2 = .error e → r.1 = s

end

lemma harmless_iff_unchanged :
    s.Harmless env disk journal expected ↔
      s.Unchanged (s.archiveJournal env disk journal expected) := by
  refine ⟨fun h e herror => (h e herror).1, fun h e herror => ⟨h e herror, ?_⟩⟩
  intro disk' journal' expected' hok
  rwa [h e herror]

/-! ### The comparison with the pending journal -/

lemma currentPending_eq_none :
    s.currentPending env v expected = .ok none ↔ s.loadPending env = .ok none := by
  simp only [currentPending, bind_eq_ok]
  constructor
  · rintro ⟨_ | current, hload, h⟩
    · exact hload
    · simp only [eq_ok_iff, reduceCtorEq, and_false] at h
  · exact fun hload => ⟨none, hload, rfl⟩

lemma exists_currentPending :
    (∃ current, s.currentPending env v expected = .ok (some current)) ↔
      s.IsPending env expected v := by
  simp only [currentPending, bind_eq_ok, IsPending]
  constructor
  · rintro ⟨found, _ | current, hload, h⟩
    · cases h
    · simp only [eq_ok_iff, Bool.not_eq_false] at h
      obtain ⟨hdigest, hsame, -⟩ := h
      refine ⟨current, hload, fun digest hmem => ?_, hsame⟩
      by_contra hne
      exact hdigest ⟨digest, hmem, hne⟩
  · rintro ⟨current, hload, hdigest, hsame⟩
    refine ⟨current, some current, hload, ?_⟩
    simp only [eq_ok_iff, and_true, hsame, Bool.true_eq_false, not_false_eq_true]
    rintro ⟨digest, hmem, hne⟩
    exact hne (hdigest digest hmem)

/-- Clearing succeeds if there is no pending journal, or if it is the given one and is removed. -/
lemma clearPending_eq_ok :
    (s.clearPending env removal v expected).2 = .ok () ↔
      s.loadPending env = .ok none ∨ s.IsPending env expected v ∧ removal = .done := by
  rw [← @currentPending_eq_none _ _ v expected, ← exists_currentPending]
  unfold clearPending
  cases hcurrent : s.currentPending env v expected with
  | error e => simp
  | ok found =>
    cases found with
    | none => simp
    | some current => cases removal <;> simp

/-- Clearing that raises changes the store only if a removal is not synchronised. -/
lemma clearPending_unchanged :
    s.Unchanged (s.clearPending env removal v expected) ↔
      (s.IsPending env expected v → removal ≠ .unsynced) := by
  rw [← exists_currentPending]
  unfold clearPending
  cases hcurrent : s.currentPending env v expected with
  | error e => simp [Unchanged]
  | ok found =>
    cases found with
    | none => simp [Unchanged]
    | some current =>
      have hpending : s.pending ≠ none := by
        intro hnone
        have hload : s.loadPending env = .ok none := by rw [loadPending, hnone]
        rw [currentPending_eq_none.mpr hload] at hcurrent
        cases hcurrent
      cases removal with
      | done | refused => simp [Unchanged]
      | unsynced =>
        refine iff_of_false (fun h => hpending ?_) fun h => h ⟨current, rfl⟩ rfl
        exact (congrArg Store.pending (h _ rfl)).symm

/-! ### The record in the archive -/

lemma sameJsonOrConflict_eq_false {existing : Option (String × Content)} {label : String} :
    sameJsonOrConflict env existing v label = .ok false ↔ existing = none := by
  cases existing with
  | none => simp [sameJsonOrConflict]
  | some record =>
    simp only [sameJsonOrConflict, eq_ok_iff, reduceCtorEq, iff_false]
    rintro ⟨_, -, -, h⟩
    cases h

lemma ne_withJournal (hnew : s.journals.find? name = none) :
    (s.withJournal name (some content)) ≠ s := by
  intro hsame
  have hrows : (s.journals.insert (name, content)).rows = s.journals.rows :=
    congrArg (fun s => s.journals.rows) hsame
  rw [Table.rows_insert (s.journals.find?_eq_none_iff.mp hnew)] at hrows
  simpa using congrArg List.length hrows

lemma journals_clearPending :
    (s.clearPending env removal v expected).1.journals = s.journals := by
  unfold clearPending
  cases s.currentPending env v expected with
  | error e => rfl
  | ok found =>
    cases found with
    | none => rfl
    | some current => cases removal <;> rfl

/-- A record that is new is in the archive when clearing raises. -/
lemma clearPending_unchanged_of_new (hnew : s.journals.find? name = none) :
    s.Unchanged ((s.withJournal name (some content)).clearPending env removal v expected) ↔
      s.loadPending env = .ok none ∨ s.IsPending env expected v ∧ removal = .done := by
  refine Iff.trans ?_
    (@clearPending_eq_ok env (s.withJournal name (some content)) removal v expected)
  cases hresult : ((s.withJournal name (some content)).clearPending env removal v expected).2 with
  | ok _ => simp [Unchanged, hresult]
  | error e =>
    simp only [Unchanged, hresult, Except.error.injEq, forall_eq', reduceCtorEq, iff_false]
    intro hsame
    refine @ne_withJournal _ _ content hnew ?_
    have hjournals := congrArg Store.journals hsame
    rw [journals_clearPending] at hjournals
    exact congrArg (Store.mk s.pending) hjournals

lemma traceless_iff (hvalid : validatedJournal env journal = .ok v)
    (hname : safeId (v.get "transactionId") ("update journal" ++ " id") = .ok name) :
    s.Traceless env disk journal expected ↔
      (s.journals.find? name = none → checkDocument v "update journal" = .ok () →
        disk.creation = .refused ∨ disk.creation = .done ∧
          (s.loadPending env = .ok none ∨ s.IsPending env expected v ∧ disk.removal = .done)) ∧
      (sameJsonOrConflict env (s.journals.find? name) v "update journal" = .ok true →
        s.IsPending env expected v → disk.removal ≠ .unsynced) := by
  constructor
  · exact fun h => ⟨h.new v name hvalid hname, h.archived v name hvalid hname⟩
  · rintro ⟨hnew, harchived⟩
    constructor
    all_goals
      intro v' name' hvalid' hname'
      cases hvalid.symm.trans hvalid'
      cases hname.symm.trans hname'
    · exact hnew
    · exact harchived

/-- A journal that is not archived yet. -/
lemma unchanged_saveImmutable_of_new (hnew : s.journals.find? name = none)
    (hcheck : checkDocument v "update journal" = .ok ()) :
    s.Unchanged (match (s.withJournal name (createJson disk.creation v "update journal").1,
        (createJson disk.creation v "update journal").2) with
      | (archived, .error e) => (archived, .error e)
      | (archived, .ok ()) => archived.clearPending env disk.removal v expected) ↔
      disk.creation = .refused ∨ disk.creation = .done ∧
        (s.loadPending env = .ok none ∨ s.IsPending env expected v ∧ disk.removal = .done) := by
  unfold createJson
  rw [hcheck]
  cases disk.creation with
  | done =>
    simp only [reduceCtorEq, false_or, true_and]
    exact clearPending_unchanged_of_new hnew
  | refused => simp [Unchanged, withJournal]
  | cut content => simpa [Unchanged] using ne_withJournal hnew
  | unsynced => simpa [Unchanged] using ne_withJournal hnew

/-- **Archive.** A call of `archive_journal` that raises leaves the store as it was, and no later
archival fails because of it, if and only if it is traceless. -/
theorem archive_harmless_iff (env : Contracts) (s : Store) (disk : Disk) (journal : Json)
    (expected : Option String) :
    s.Harmless env disk journal expected ↔ s.Traceless env disk journal expected := by
  rw [harmless_iff_unchanged, archiveJournal]
  cases hvalid : validatedJournal env journal with
  | error e => exact ⟨fun _ => ⟨by simp [hvalid], by simp [hvalid]⟩, fun _ _ _ => rfl⟩
  | ok v =>
    dsimp only
    unfold saveImmutable
    cases hname : safeId (v.get "transactionId") ("update journal" ++ " id") with
    | error e =>
      refine ⟨fun _ => ⟨?_, ?_⟩, fun _ _ _ => rfl⟩
      all_goals
        intro v' name hvalid' hname'
        cases hvalid.symm.trans hvalid'
        cases hname.symm.trans hname'
    | ok name =>
      rw [traceless_iff hvalid hname]
      dsimp only
      cases hsame : sameJsonOrConflict env (s.journals.find? name) v "update journal" with
      | error e =>
        have hold : s.journals.find? name ≠ none := fun hnone => by
          rw [sameJsonOrConflict_eq_false.mpr hnone] at hsame
          cases hsame
        refine ⟨fun _ => ⟨fun hnone => absurd hnone hold, fun htrue => ?_⟩, fun _ _ _ => rfl⟩
        cases htrue
      | ok same =>
        cases same with
        | true =>
          have hold : s.journals.find? name ≠ none := fun hnone => by
            rw [sameJsonOrConflict_eq_false.mpr hnone] at hsame
            cases hsame
          exact clearPending_unchanged.trans
            ⟨fun h => ⟨fun hnone => absurd hnone hold, fun _ => h⟩, fun h => h.2 rfl⟩
        | false =>
          have hnew := sameJsonOrConflict_eq_false.mp hsame
          simp only [hnew, true_implies, Except.ok.injEq, Bool.false_eq_true, false_implies,
            and_true]
          cases hcheck : checkDocument v "update journal" with
          | error e => simp [createJson, hcheck, Unchanged, withJournal]
          | ok _ => exact (unchanged_saveImmutable_of_new hnew hcheck).trans (by simp)

end Store

/-! ### A stale journal -/

def sampleContracts : Contracts where
  sha256 := fun _ => "0000000000000000000000000000000000000000000000000000000000000000"
  valueOf := fun _ => .nan
  isReceipt := fun _ => false
  isFailureEvidence := fun _ => false

def sampleDigest : String :=
  "sha256:0000000000000000000000000000000000000000000000000000000000000000"

def sampleDecision : Json := .dict [("action", .str "apply_update"),
    ("decision", .str "authorized"),
  ("requestId", .str "q"), ("scope", .dict [("runId", .str sampleDigest)])]

/-- The journal of a transaction in one of its phases. -/
def sampleJournal (phase : String) : Json := .dict [
  ("authority", .dict [("claim", .null), ("decision", sampleDecision),
    ("reservation", .dict [("decision", sampleDecision), ("requestId", .str "q")])]),
  ("canonicalAuthorityReceipt", .null),
  ("currentReleaseId", .str "r1"),
  ("effectDisposition", .str "not_applied"),
  ("intent", .null),
  ("journalDigest", .str sampleDigest),
  ("phase", .str phase),
  ("planDigest", .str sampleDigest),
  ("planId", .str "update_plan_00000000000000000000000000000000"),
  ("preparedFailureEvidence", .null),
  ("preparedReceipt", .null),
  ("schema", .str journalSchema),
  ("startedAt", .str "2026-01-01T00:00:00Z"),
  ("steps", .list []),
  ("successorReleaseId", .str "r2"),
  ("transactionId", .str "update_txn_00000000000000000000000000000000"),
  ("updatedAt", .str "2026-01-01T00:00:00Z")]

/-- The transaction has been claimed. -/
def sampleStore : Store := ⟨some (.document (sampleJournal "claimed")), Table.empty _⟩

/-- The archival of the journal from before the claim is refused and leaves a record, because of
which the current journal cannot be archived any more. -/
theorem stale_journal_blocks_archive :
    (sampleStore.archiveJournal sampleContracts ⟨.done, .done⟩ (sampleJournal "claimed") none).2 =
      .ok () ∧
    (sampleStore.archiveJournal sampleContracts ⟨.done, .done⟩ (sampleJournal "reserved") none).2 =
      .error (.store "journal_conflict" "pending update journal changed before archival") ∧
    ((sampleStore.archiveJournal sampleContracts ⟨.done, .done⟩ (sampleJournal "reserved")
      none).1.archiveJournal sampleContracts ⟨.done, .done⟩ (sampleJournal "claimed") none).2 =
        .error (.store "immutable_record_conflict"
          "update journal conflicts with an existing record") := by
  decide +kernel

end StatePort.Updater
