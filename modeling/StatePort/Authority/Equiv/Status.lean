import StatePort.Authority.Equiv.Load

/-!
# What an active or live grant guarantees

`grantStatus` says `active` only for a grant that is not revoked, whose parent is active, and whose
family has used less than its action budget (`grantStatusAux_active`, `grantExpiryStatus_active`);
`grantLive` says true only for a grant that is not revoked and whose parent is live.
-/

namespace StatePort.Authority

variable {H : Body → String} {m : Manager} {s : Store} {now : ℕ} {grant : Grant}

def Store.Revoked (s : Store) (grantId : String) : Prop :=
  ∃ r ∈ s.revocations.rows, r.grantId = grantId

lemma contains_revocations {grantId : String} :
    s.revocations.contains grantId ↔ s.Revoked grantId :=
  s.revocations.contains_iff

/-! ### Status -/

/-- An active grant has room for one more action in its family. -/
lemma grantExpiryStatus_active (h : grantExpiryStatus H m s now grant = .ok .active) :
    ∃ usage, grantUsage H m s grant.grantId = .ok usage ∧
      (grant.expiresWhen = .oneAction ∨ grant.kind = .oneTime → usage.1 = 0) ∧
      ∀ n ∈ grant.limits.maxActions, usage.1 < n := by
  simp only [grantExpiryStatus, bind_eq_ok] at h
  obtain ⟨e, -, h⟩ := h
  cases e with
  | true => simp at h
  | false =>
    simp only [Bool.false_eq_true, if_false, bind_eq_ok] at h
    obtain ⟨usage, husage, h⟩ := h
    split_ifs at h with hone hmax
    · simp at h
    · simp at h
    · refine ⟨usage, husage, ?_, ?_⟩
      · intro hkind
        by_contra hne
        exact hone ⟨hkind, Nat.one_le_iff_ne_zero.mpr hne⟩
      · intro n hn
        by_contra hle
        exact hmax ⟨n, hn, not_lt.mp hle⟩

/-- An active grant is not revoked, its parents are active, and it has not expired. -/
lemma grantStatusAux_active {fuel : ℕ}
    (h : grantStatusAux H m s now (fuel + 1) grant = .ok .active) :
    ¬ s.Revoked grant.grantId ∧
      (∀ parentId ∈ grant.parentGrantId, ∃ parent, loadGrant H m s parentId = .ok parent ∧
        grantStatusAux H m s now fuel parent = .ok .active) ∧
      grantExpiryStatus H m s now grant = .ok .active := by
  rw [grantStatusAux] at h
  split_ifs at h with hrevoked hunbound hchanged
  · simp at h
  · simp at h
  · simp at h
  · rw [contains_revocations] at hrevoked
    split at h
    · next hparent =>
      exact ⟨hrevoked, by simp [hparent], h⟩
    · next parentId hparent =>
      simp only [bind_eq_ok] at h
      obtain ⟨parent, hload, status, hstatus, h⟩ := h
      split_ifs at h with hactive
      · simp at h
      · rw [not_not] at hactive
        subst hactive
        refine ⟨hrevoked, ?_, h⟩
        intro p hp
        rw [hparent, Option.mem_some_iff] at hp
        subst hp
        exact ⟨parent, hload, hstatus⟩

/-- A live grant is not revoked, and its parents are live. -/
lemma grantLiveAux_true {fuel : ℕ} (h : grantLiveAux H m s now (fuel + 1) grant = .ok true) :
    ¬ s.Revoked grant.grantId ∧
      ∀ parentId ∈ grant.parentGrantId, ∃ parent, loadGrant H m s parentId = .ok parent ∧
        grantLiveAux H m s now fuel parent = .ok true := by
  rw [grantLiveAux] at h
  split_ifs at h with hdead
  · simp at h
  · rw [not_or, contains_revocations] at hdead
    refine ⟨hdead.1, ?_⟩
    intro p hp
    split at h
    · next hparent => simp [hparent] at hp
    · next parentId hparent =>
      rw [hparent, Option.mem_some_iff] at hp
      subst hp
      simp only [bind_eq_ok] at h
      obtain ⟨parent, hload, live, hlive, h⟩ := h
      cases live with
      | false => simp at h
      | true => exact ⟨parent, hload, hlive⟩

end StatePort.Authority
