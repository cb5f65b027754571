import StatePort.Authority.Status

/-!
# What the loaders return

A loader returns the stored records after checking them: `loadReservations`, `loadReceipts` and the
single-record loaders return rows of the store, and a grant that is read back agrees with the stored
one in everything that its status depends on (`SameGrant`).
-/

namespace StatePort.Authority

variable {H : Body → String} {m : Manager} {s : Store}

/-! ### Reservations, claims and receipts -/

lemma checkReservation_eq_ok {v w : Reservation} (h : checkReservation H v = .ok w) :
    w = v ∧ v.requestId = v.decision.requestId := by
  simp only [checkReservation, bind_eq_ok, raiseIf_eq_ok, pure_eq_ok] at h
  obtain ⟨_, -, _, hbind, _, -, rfl⟩ := h
  push Not at hbind
  exact ⟨rfl, hbind.2.1⟩

lemma loadReservations_eq_ok {vs : List Reservation} (h : loadReservations H s = .ok vs) :
    vs = s.reservations.rows :=
  eq_of_mapM_check (fun _ _ hv => (checkReservation_eq_ok hv).1) h

lemma readRecord_eq_ok {α : Type} {file : Option α} {name : String} {r : α} :
    readRecord file name = .ok r ↔ file = some r := by
  cases file <;> simp [readRecord]

/-- A loaded reservation is the stored row of its request. -/
lemma loadReservation_eq_ok {requestId : String} {v : Reservation}
    (h : loadReservation H s requestId = .ok v) :
    v ∈ s.reservations.rows ∧ v.requestId = requestId := by
  simp only [loadReservation, bind_eq_ok, readRecord_eq_ok, pure_eq_ok] at h
  obtain ⟨_, -, v', hv, _, -, _, -, rfl⟩ := h
  exact s.reservations.find?_eq_some_iff.mp hv

lemma loadClaim_eq_ok {requestId : String} {c : Claim} (h : loadClaim H s requestId = .ok c) :
    c ∈ s.claims.rows ∧ c.requestId = requestId := by
  simp only [loadClaim, bind_eq_ok, readRecord_eq_ok, pure_eq_ok] at h
  obtain ⟨_, -, c', hc, _, -, _, -, _, -, rfl⟩ := h
  exact s.claims.find?_eq_some_iff.mp hc

lemma checkReceipt_eq_ok {r r' : Receipt} (h : checkReceipt H s r = .ok r') : r' = r := by
  simp only [checkReceipt, bind_eq_ok, pure_eq_ok] at h
  obtain ⟨_, -, _, -, _, -, rfl⟩ := h
  rfl

lemma loadReceipts_eq_ok {rs : List Receipt} (h : loadReceipts H s = .ok rs) :
    rs = s.receipts.rows :=
  eq_of_mapM_check (fun _ _ hr => checkReceipt_eq_ok hr) h

/-! ### Grants -/

/-- Two grants agree in everything that status and delegation depend on. -/
structure SameGrant (g g' : Grant) : Prop where
  grantId : g'.grantId = g.grantId
  kind : g'.kind = g.kind
  limits : g'.limits = g.limits
  expiresWhen : g'.expiresWhen = g.expiresWhen
  parentGrantId : g'.parentGrantId = g.parentGrantId

lemma positiveLimit_ofNat {n : Option ℕ} {name : String} {r : {k : Option ℕ // ∀ i ∈ k, 0 < i}}
    (h : positiveLimit (n.map Int.ofNat) name = .ok r) : r.1 = n := by
  cases n with
  | none =>
    cases h
    rfl
  | some k =>
    simp only [Option.map_some, positiveLimit] at h
    split_ifs at h
    cases h
    rfl

lemma cost_finite {c : ℚ≥0} {e : AuthorityError} : cost (.finite c) e = .ok c := by
  have hneg : Number.isNegative (.finite c) = false := by simp [Number.isNegative]
  simp [cost, hneg, raiseIf, pure, Except.pure]

/-- Validated limits pass their own check unchanged. -/
lemma validateLimits_raw {l l' : Limits} (h : validateLimits l.raw = .ok l') : l' = l := by
  simp only [validateLimits, bind_eq_ok] at h
  obtain ⟨a, ha, d, hd, c, hc, -, -, -, -, -, -, -, -, -, -, h⟩ := h
  split_ifs at h
  rw [pure_eq_ok] at h
  subst h
  have ha' := positiveLimit_ofNat ha
  have hd' := positiveLimit_ofNat hd
  have hc' : c = l.maxCostUsd := by
    cases hl : l.maxCostUsd with
    | none =>
      simp only [Limits.raw, hl, Option.map_none] at hc
      exact (Except.ok.inj hc).symm
    | some x =>
      simp only [Limits.raw, hl, Option.map_some, Option.mapM_some, cost_finite] at hc
      exact (Except.ok.inj hc).symm
  cases l
  simp only [Limits.mk.injEq]
  exact ⟨ha', hd', hc', rfl, rfl, rfl, rfl⟩

variable {digest : GrantBody → String} {g : Grant}

/-- What `prepareGrant` keeps of the value that it is given. -/
lemma prepareGrant_eq_ok {value : RawGrant} (h : prepareGrant digest m value = .ok g) :
    g.grantId = value.grantId ∧ g.kind = value.kind ∧ validateLimits value.limits = .ok g.limits ∧
      g.expiresWhen = value.expiresWhen ∧ g.parentGrantId = value.parentGrantId := by
  simp only [prepareGrant, bind_eq_ok, pure_eq_ok] at h
  obtain ⟨_, -, _, -, _, -, scope, -, _, -, _, -, _, -, _, -, _, -, _, -, _, -, limits, hlimits, _, -,
    _, -, _, -, _, -, _, -, _, -, _, -, rfl⟩ := h
  exact ⟨rfl, rfl, hlimits, rfl, rfl⟩

/-- A stored grant that is validated again agrees with itself. -/
lemma sameGrant_of_prepareGrant {g g' : Grant}
    (h : prepareGrant digest m g.raw = .ok g') : SameGrant g g' := by
  obtain ⟨hid, hkind, hlimits, hexpires, hparent⟩ := prepareGrant_eq_ok h
  exact ⟨hid, hkind, validateLimits_raw hlimits, hexpires, hparent⟩

/-- A loaded grant is a stored one, validated again. -/
lemma loadGrant_eq_ok {grantId : String} {g' : Grant} (h : loadGrant H m s grantId = .ok g') :
    ∃ g ∈ s.grants.rows, g.grantId = grantId ∧ SameGrant g g' := by
  simp only [loadGrant, bind_eq_ok] at h
  obtain ⟨_, -, h⟩ := h
  split at h
  · cases h
  · next g hg =>
    obtain ⟨hmem, hid⟩ := s.grants.find?_eq_some_iff.mp hg
    exact ⟨g, hmem, hid, sameGrant_of_prepareGrant h⟩

lemma grantId_of_loadGrant {grantId : String} (h : loadGrant H m s grantId = .ok g) :
    g.grantId = grantId := by
  obtain ⟨stored, -, hid, hsame⟩ := loadGrant_eq_ok h
  rw [hsame.grantId, hid]

/-- The family of a grant does not depend on whether the grants are read back. -/
lemma familyIds_loadGrants {gs : List Grant} (h : loadGrants H m s = .ok gs) (grantId : String) :
    familyIds gs grantId = familyIds s.grants.rows grantId := by
  have hall := forall₂_of_mapM_eq_ok h
  clear h
  unfold familyIds
  congr 1
  generalize s.grants.rows = rows at hall
  induction hall with
  | nil => rfl
  | cons hg _ ih =>
    have hsame := sameGrant_of_prepareGrant hg
    rw [List.filter_cons, List.filter_cons, hsame.parentGrantId]
    split_ifs
    · rw [List.map_cons, List.map_cons, hsame.grantId, ih]
    · exact ih

end StatePort.Authority
