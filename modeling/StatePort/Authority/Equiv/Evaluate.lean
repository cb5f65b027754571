import StatePort.Authority.Equiv.Operations

/-!
# What a decision says

The cascade of `evaluate`, read from its end: `finalEffective_fst` and `limitedEffective_fst` give the
policy that the last check to apply sets, and `grantEffective_eq_ok` what a selected grant
contributes. From them come what an authorised decision guarantees (`authorized_of_evaluate`) and
when a reason for denial is overridden (`denied_iff_not_softened`).
-/

namespace StatePort.Authority

variable {H : Body → String} {m : Manager} {s : Store} {now : ℕ} {token : String} {req : Request}
  {c : CheckedRequest} {control : Control} {grant : Grant} {d : Decision} {configured : Mode}
  {e : Effective} {grantId : String} {conflict : Bool}

lemma Mode.verdict_eq_denied {mode : Mode} : mode.verdict = .denied ↔ mode = .deny := by
  cases mode <;> simp [Mode.verdict]

lemma Mode.verdict_eq_authorized {mode : Mode} :
    mode.verdict = .authorized ↔ mode.isAuto := by
  cases mode <;> simp [Mode.verdict, Mode.isAuto]

/-! ### The cascade -/

lemma overwrite_fst (p : Prop) [Decidable p] (new old : Effective) :
    (overwrite p new old).1 = if p then new.1 else old.1 := by
  unfold overwrite
  split_ifs <;> rfl

/-- Some limit check of the grant asks for approval; the last check comes first. -/
def limitFires (limits : Limits) (req : Request) (c : CheckedRequest) (actualCost : ℚ≥0) : Prop :=
  ¬ req.secretCapabilities ⊆ limits.secretCapabilities ∨
    (∃ p ∈ req.provider, p ∉ limits.providers) ∨
    (networkRequested req ∧ limits.network = .allowlisted ∧
      ¬ req.domains ⊆ limits.allowedDomains) ∨
    (networkRequested req ∧ limits.network = .denied) ∨
    (∃ n ∈ limits.maxCostUsd, n < actualCost + c.estimatedCostUsd) ∨
    ∃ n ∈ limits.maxDurationSeconds, n < c.estimatedDurationSeconds

instance (limits : Limits) (req : Request) (c : CheckedRequest) (actualCost : ℚ≥0) :
    Decidable (limitFires limits req c actualCost) :=
  inferInstanceAs (Decidable (_ ∨ _ ∨ _ ∨ _ ∨ _ ∨ _))

/-- The limit checks replace whatever came before them. -/
lemma limitedEffective_fst (limits : Limits) (req : Request) (c : CheckedRequest)
    (actualCost : ℚ≥0) (e : Effective) :
    (limitedEffective limits req c actualCost e).1 =
      if limitFires limits req c actualCost then .askEachTime else e.1 := by
  simp only [limitedEffective, overwrite_fst, ← ite_or]
  rfl

variable (m control conflict) in
lemma finalEffective_fst (req : Request) (c : CheckedRequest) (e : Effective) :
    (finalEffective m control conflict req c e).1 =
      if dirtySource req c then .deny
      else if missingAssurances m req.action req.assurances ≠ [] then .askEachTime
      else if pausedFor control req.action then .deny
      else if req.action ∈ m.policy.hardDeny then .deny
      else if conflict then .deny
      else e.1 := by
  simp only [finalEffective, overwrite_fst]

/-- The grant's own reasons for denial. -/
def grantDenies (m : Manager) (grant : Grant) (req : Request) (c : CheckedRequest) (uses : ℕ) : Prop :=
  requestMismatch grant req c ≠ none ∨ req.action ∈ grant.forbid ∨
    (grant.subject.role = .subagent ∧ req.action ∈ m.policy.subagentDefaultDeny) ∨
    ∃ n ∈ grant.limits.maxActions, n ≤ uses

lemma deniedEffective_of_grantDenies {uses : ℕ} (h : grantDenies m grant req c uses) :
    (deniedEffective m grant req uses (scopedEffective grant req c configured)).1 = .deny := by
  simp only [deniedEffective, overwrite_fst]
  split_ifs with hbudget hrole
  · rfl
  · rfl
  · unfold scopedEffective
    obtain hscope | hforbid | hsub | hmax := h
    · cases hm : requestMismatch grant req c with
      | none => exact absurd hm hscope
      | some reason => rfl
    · cases requestMismatch grant req c with
      | none => simp [hforbid]
      | some reason => rfl
    · exact absurd hsub hrole
    · exact absurd hmax hbudget

/-- Outside those reasons the grant's lists and the configured mode decide. -/
lemma deniedEffective_of_not_grantDenies {uses : ℕ} (h : ¬ grantDenies m grant req c uses) :
    (deniedEffective m grant req uses (scopedEffective grant req c configured)).1 =
      if req.action ∈ grant.requireApproval then .askEachTime
      else if req.action ∈ grant.allow then .autoWithReceipt
      else configured := by
  simp only [grantDenies, not_or, not_not] at h
  obtain ⟨hscope, hforbid, hrole, hbudget⟩ := h
  simp only [deniedEffective, overwrite_fst, if_neg hbudget, if_neg hrole, scopedEffective, hscope,
    if_neg hforbid]
  split_ifs <;> rfl

/-! ### Inversion -/

/-- What a selected grant contributes: a denial unless it is an active grant of the actor, and then
what its limits and lists say. -/
lemma grantEffective_eq_ok (h : grantEffective H m s now req c grant configured = .ok e) :
    ∃ status, grantStatus H m s now grant = .ok status ∧
      ((status ≠ .active ∨ grant.subject.actorId ≠ req.actorId) ∧ e.1 = .deny ∨
        (status = .active ∧ grant.subject.actorId = req.actorId) ∧
          ∃ usage, grantUsage H m s grant.grantId = .ok usage ∧
            e.1 = if limitFires grant.limits req c usage.2 then .askEachTime
              else (deniedEffective m grant req usage.1 (scopedEffective grant req c configured)).1) := by
  simp only [grantEffective, bind_eq_ok] at h
  obtain ⟨status, hstatus, h⟩ := h
  refine ⟨status, hstatus, ?_⟩
  split_ifs at h with hactive hactor
  · rw [pure_eq_ok] at h
    subst h
    exact .inl ⟨.inl hactive, rfl⟩
  · rw [pure_eq_ok] at h
    subst h
    exact .inl ⟨.inr hactor, rfl⟩
  · simp only [eq_ok_iff] at h
    obtain ⟨usage, husage, rfl⟩ := h
    exact .inr ⟨⟨not_not.mp hactive, not_not.mp hactor⟩, usage, husage, limitedEffective_fst ..⟩

/-- Several candidates mean that none is selected. -/
lemma selectGrant_some (h : selectGrant H m s now req c = .ok (some grantId, conflict)) :
    conflict = false := by
  unfold selectGrant at h
  split at h
  · rw [pure_eq_ok] at h
    exact (Prod.mk.inj h).2.symm
  · simp only [bind_eq_ok] at h
    obtain ⟨candidates, -, h⟩ := h
    split at h
    · simp at h
    · rw [pure_eq_ok] at h
      exact (Prod.mk.inj h).2.symm
    · simp at h

/-- The basis is the default profile's, or that of a selected grant. -/
lemma basis_eq_ok {b : Basis} (h : basis H m s now req c = .ok (b, conflict)) :
    (selectGrant H m s now req c = .ok (none, conflict) ∧
        ∃ configured, b = defaultBasis m req configured) ∨
      ∃ grantId, selectGrant H m s now req c = .ok (some grantId, conflict) ∧
        grantBasis H m s now req c grantId = .ok b := by
  simp only [basis, bind_eq_ok] at h
  obtain ⟨⟨selected, conflict'⟩, hselect, configured, -, h⟩ := h
  cases selected with
  | none =>
    simp only [pure_eq_ok, Prod.mk.injEq] at h
    obtain ⟨rfl, rfl⟩ := h
    exact .inl ⟨hselect, configured, rfl⟩
  | some grantId =>
    simp only [eq_ok_iff, Prod.mk.injEq] at h
    obtain ⟨b', hb, rfl, rfl⟩ := h
    exact .inr ⟨grantId, hselect, hb⟩

lemma grantBasis_eq_ok {b : Basis} (h : grantBasis H m s now req c grantId = .ok b) :
    ∃ grant configured, loadGrant H m s grantId = .ok grant ∧
      modeFor m.policy grant.profile req.action (some grant.customPolicies) = .ok configured ∧
      grantEffective H m s now req c grant configured = .ok b.effective ∧
      b.authorizedBy = ⟨.grant, grantId, some grant.grantDigest⟩ := by
  simp only [grantBasis, eq_ok_iff] at h
  obtain ⟨grant, hload, configured, hmode, effective, heffective, rfl⟩ := h
  exact ⟨grant, configured, hload, hmode, heffective, rfl⟩

lemma evaluate_eq_ok (h : evaluate H m s now token req = .ok d) :
    ∃ c control b conflict, checkRequest m token req = .ok c ∧ loadControl H s = .ok control ∧
      basis H m s now req c = .ok (b, conflict) ∧
      d = .ofBody H (decisionBody m now req c b
        (finalEffective m control conflict req c b.effective)) := by
  simp only [evaluate, eq_ok_iff] at h
  obtain ⟨c, hc, control, hcontrol, ⟨b, conflict⟩, hb, rfl⟩ := h
  exact ⟨c, control, b, conflict, hc, hcontrol, hb, rfl⟩

/-! ### Authorised decisions -/

variable (H m s now req c) in
/-- What an authorised decision under a grant guarantees. -/
structure AuthorizedUnder (policy : Mode) (grant : Grant) : Prop where
  active : grantStatus H m s now grant = .ok .active
  actor : grant.subject.actorId = req.actorId
  scope : requestMismatch grant req c = none
  limits : ∃ usage, grantUsage H m s grant.grantId = .ok usage ∧
    ¬ limitFires grant.limits req c usage.2
  mode : baseMode m grant req.action = .ok policy

lemma baseMode_of_modeFor
    (h : modeFor m.policy grant.profile req.action (some grant.customPolicies) = .ok configured)
    (hforbid : req.action ∉ grant.forbid) :
    baseMode m grant req.action = .ok
      (if req.action ∈ grant.requireApproval then .askEachTime
        else if req.action ∈ grant.allow then .autoWithReceipt
        else configured) := by
  simp only [baseMode, h, ok_bind, if_neg hforbid]
  split_ifs <;> rfl

/-- A final policy that is automatic was set by the basis. -/
lemma eq_of_finalEffective_isAuto
    (h : (finalEffective m control conflict req c e).1.isAuto) :
    ¬ pausedFor control req.action ∧ (finalEffective m control conflict req c e).1 = e.1 := by
  rw [finalEffective_fst] at h ⊢
  split_ifs at h ⊢ with hdirty hmissing hpaused hhard hconflict
  · cases h
  · cases h
  · cases h
  · cases h
  · cases h
  · exact ⟨hpaused, rfl⟩

/-- A selected grant with an automatic policy covers the request. -/
lemma authorizedUnder_of_isAuto
    (hmode : modeFor m.policy grant.profile req.action (some grant.customPolicies) = .ok configured)
    (h : grantEffective H m s now req c grant configured = .ok e) (hauto : e.1.isAuto) :
    AuthorizedUnder H m s now req c e.1 grant := by
  obtain ⟨status, hstatus, ⟨-, hdeny⟩ | ⟨⟨rfl, hactor⟩, usage, husage, he⟩⟩ := grantEffective_eq_ok h
  · rw [hdeny] at hauto
    cases hauto
  · have hlimits : ¬ limitFires grant.limits req c usage.2 := by
      intro hfires
      rw [he, if_pos hfires] at hauto
      cases hauto
    rw [if_neg hlimits] at he
    have hdenies : ¬ grantDenies m grant req c usage.1 := by
      intro hdenies
      rw [he, deniedEffective_of_grantDenies hdenies] at hauto
      cases hauto
    rw [deniedEffective_of_not_grantDenies hdenies] at he
    simp only [grantDenies, not_or, not_not] at hdenies
    refine ⟨hstatus, hactor, hdenies.1, ⟨usage, husage, hlimits⟩, ?_⟩
    rw [baseMode_of_modeFor hmode hdenies.2.1, he]

/-- An authorised decision is made while authority is not paused for the action, and under a grant
only if the grant covers the request. -/
lemma authorized_of_evaluate (h : evaluate H m s now token req = .ok d)
    (hauth : d.decision = .authorized) :
    d.action = req.action ∧
      (∃ control, loadControl H s = .ok control ∧ ¬ pausedFor control req.action) ∧
      (d.authorizedBy.type = .grant →
        ∃ c grant, checkRequest m token req = .ok c ∧ loadGrant H m s d.authorizedBy.id = .ok grant ∧
          AuthorizedUnder H m s now req c d.policy grant) := by
  obtain ⟨c, control, b, conflict, hc, hcontrol, hb, rfl⟩ := evaluate_eq_ok h
  have hauto := Mode.verdict_eq_authorized.mp hauth
  obtain ⟨hpaused, heq⟩ := eq_of_finalEffective_isAuto hauto
  refine ⟨rfl, ⟨control, hcontrol, hpaused⟩, ?_⟩
  intro htype
  obtain ⟨-, configured, rfl⟩ | ⟨grantId, -, hbasis⟩ := basis_eq_ok hb
  · cases htype
  · obtain ⟨grant, configured, hload, hmode, heffective, hby⟩ := grantBasis_eq_ok hbasis
    rw [heq] at hauto
    refine ⟨c, grant, hc, ?_, ?_⟩
    · change loadGrant H m s b.authorizedBy.id = .ok grant
      rw [hby]
      exact hload
    · change AuthorizedUnder H m s now req c (finalEffective m control conflict req c b.effective).1
        grant
      rw [heq]
      exact authorizedUnder_of_isAuto hmode heffective hauto

/-! ### Denied decisions -/

variable (H m s now req c grant) in
/-- The grant that decides about the request. -/
def selectedGrant : Prop :=
  ∃ grantId, selectGrant H m s now req c = .ok (some grantId, false) ∧
    loadGrant H m s grantId = .ok grant

variable (H m s now req c) in
/-- A reason for denial: a non-negotiable deny, a pause, or a selected grant that is inactive, forbids
the action, does not match the scope or has used up its actions. -/
def denyReason : Prop :=
  req.action ∈ m.policy.hardDeny ∨
    (∃ control, loadControl H s = .ok control ∧ pausedFor control req.action) ∨
    ∃ grant, selectedGrant H m s now req c grant ∧
      (grantStatus H m s now grant ≠ .ok .active ∨ req.action ∈ grant.forbid ∨
        requestMismatch grant req c ≠ none ∨
        ∃ usage, grantUsage H m s grant.grantId = .ok usage ∧
          ∃ n ∈ grant.limits.maxActions, n ≤ usage.1)

variable (H m s now req c) in
/-- A later check replaces a denial by a request for approval: a merge assurance is missing, or,
where the denial is the grant's and the grant is an active one of the actor, one of its limit checks
fires. A dirty source denies in any case. -/
def softened : Prop :=
  ¬ dirtySource req c ∧
    (missingAssurances m req.action req.assurances ≠ [] ∨
      req.action ∉ m.policy.hardDeny ∧
        (∀ control, loadControl H s = .ok control → ¬ pausedFor control req.action) ∧
        ∃ grant, selectedGrant H m s now req c grant ∧
          grantStatus H m s now grant = .ok .active ∧ grant.subject.actorId = req.actorId ∧
          ∃ usage, grantUsage H m s grant.grantId = .ok usage ∧
            limitFires grant.limits req c usage.2)

/-- With a reason of its own a selected grant denies, unless a limit check fires. -/
lemma grantEffective_deny_iff (h : grantEffective H m s now req c grant configured = .ok e)
    (hreason : grantStatus H m s now grant ≠ .ok .active ∨ req.action ∈ grant.forbid ∨
      requestMismatch grant req c ≠ none ∨
      ∃ usage, grantUsage H m s grant.grantId = .ok usage ∧ ∃ n ∈ grant.limits.maxActions, n ≤
      usage.1) :
    e.1 = .deny ↔ ¬ (grantStatus H m s now grant = .ok .active ∧
      grant.subject.actorId = req.actorId ∧
      ∃ usage, grantUsage H m s grant.grantId = .ok usage ∧
        limitFires grant.limits req c usage.2) := by
  obtain ⟨status, hstatus, ⟨hout, hdeny⟩ | ⟨⟨rfl, hactor⟩, usage, husage, he⟩⟩ :=
    grantEffective_eq_ok h
  · refine iff_of_true hdeny ?_
    rintro ⟨hactive, hactor, -⟩
    obtain hstat | hact := hout
    · rw [hstatus] at hactive
      exact hstat (Except.ok.inj hactive)
    · exact hact hactor
  · rw [he]
    have hdenies : grantDenies m grant req c usage.1 := by
      obtain hact | hforbid | hscope | ⟨usage', husage', hmax⟩ := hreason
      · exact absurd hstatus hact
      · exact .inr (.inl hforbid)
      · exact .inl hscope
      · cases husage.symm.trans husage'
        exact .inr (.inr (.inr hmax))
    rw [deniedEffective_of_grantDenies hdenies]
    split_ifs with hfires
    · simp [hstatus, hactor, husage, hfires]
    · simp [hstatus, hactor, husage, hfires]

/-- **When a reason for denial stands.** If there is a reason to deny, the decision is a denial
exactly when no later check of the cascade softens it. -/
theorem denied_iff_not_softened (h : evaluate H m s now token req = .ok d)
    (hc : checkRequest m token req = .ok c) (hreason : denyReason H m s now req c) :
    d.decision = .denied ↔ ¬ softened H m s now req c := by
  obtain ⟨c', control, b, conflict, hc', hcontrol, hb, rfl⟩ := evaluate_eq_ok h
  cases hc.symm.trans hc'
  change (finalEffective m control conflict req c b.effective).1.verdict = .denied ↔ _
  have hcontrols : (∀ control, loadControl H s = .ok control → ¬ pausedFor control req.action) ↔
      ¬ pausedFor control req.action := by
    simp [hcontrol]
  rw [Mode.verdict_eq_denied, finalEffective_fst, softened, hcontrols]
  split_ifs with hdirty hmissing hpaused hhard hconflict
  · simp [hdirty]
  · simp [hdirty, hmissing]
  · simp [hmissing, hpaused]
  · simp [hmissing, hhard]
  · -- several candidates: none is selected
    refine iff_of_true rfl ?_
    rintro ⟨-, hmiss | ⟨-, -, grant, ⟨grantId, hselect, -⟩, -⟩⟩
    · exact hmissing hmiss
    · obtain ⟨hnone, -⟩ | ⟨grantId', hselect', -⟩ := basis_eq_ok hb
      · rw [hselect] at hnone
        simp at hnone
      · have := selectGrant_some hselect'
        cases this.symm.trans hconflict
  · -- the selected grant is the only reason left
    obtain hhard' | ⟨control', hcontrol', hpaused'⟩ | ⟨grant, hselected, hgrant⟩ := hreason
    · exact absurd hhard' hhard
    · cases hcontrol.symm.trans hcontrol'
      exact absurd hpaused' hpaused
    · have hunique : ∀ grant', selectedGrant H m s now req c grant' → grant' = grant := by
        rintro grant' ⟨grantId', hselect', hload'⟩
        obtain ⟨grantId, hselect, hload⟩ := hselected
        rw [hselect] at hselect'
        obtain ⟨hid, -⟩ := Prod.mk.inj (Except.ok.inj hselect')
        cases hid
        rw [hload] at hload'
        exact (Except.ok.inj hload').symm
      have heffective : ∃ configured,
          grantEffective H m s now req c grant configured = .ok b.effective := by
        obtain ⟨grantId, hselect, hload⟩ := hselected
        obtain ⟨hnone, -⟩ | ⟨grantId', hselect', hbasis⟩ := basis_eq_ok hb
        · rw [hselect] at hnone
          simp at hnone
        · rw [hselect] at hselect'
          obtain ⟨hid, -⟩ := Prod.mk.inj (Except.ok.inj hselect')
          cases hid
          obtain ⟨grant', configured, hload', -, heffective, -⟩ := grantBasis_eq_ok hbasis
          cases hload.symm.trans hload'
          exact ⟨configured, heffective⟩
      obtain ⟨configured, heffective⟩ := heffective
      rw [grantEffective_deny_iff heffective hgrant, not_iff_not]
      constructor
      · intro hfires
        exact ⟨hdirty, .inr ⟨hhard, hpaused, grant, hselected, hfires⟩⟩
      · rintro ⟨-, hmiss | ⟨-, -, grant', hselected', hfires⟩⟩
        · exact absurd hmiss hmissing
        · rwa [hunique grant' hselected'] at hfires

/-- The action is forbidden by a grant that is selected and active. -/
lemma denyReason_of_forbid (hselect : selectGrant H m s now req c = .ok (some grantId, false))
    (hload : (loadGrant H m s grantId).map (fun g => decide (req.action ∈ g.forbid)) = .ok true) :
    denyReason H m s now req c := by
  obtain ⟨grant, hgrant, hforbid⟩ := exists_of_map_eq_ok hload
  exact .inr (.inr ⟨grant, ⟨grantId, hselect, hgrant⟩, .inr (.inl (of_decide_eq_true hforbid))⟩)

/-- A forbidden action whose duration exceeds the grant's limit is not denied: the limit check comes
later and asks for approval. -/
theorem denial_softened_by_duration :
    ¬ ∀ (H : Body → String) (m : Manager) (s : Store) (now : ℕ) (token : String) (req : Request)
      (c : CheckedRequest) (d : Decision), evaluate H m s now token req = .ok d →
      checkRequest m token req = .ok c → denyReason H m s now req c → d.decision = .denied := by
  intro h
  have heval : (evaluate sampleDigest sampleManager (sampleRoot ["run_tests"]) 2 (sampleToken 0)
      (sampleRequest "agent" "grant_root" 1 100)).map (fun d => d.decision) =
      .ok .approvalRequired := by decide +kernel
  obtain ⟨d, hd, hverdict⟩ := exists_of_map_eq_ok heval
  obtain ⟨c, -, -, -, hc, -⟩ := evaluate_eq_ok hd
  have hdenied := h _ _ _ _ _ _ c d hd hc (denyReason_of_forbid rfl (by decide +kernel))
  cases hverdict.symm.trans hdenied

/-- Within the grant's limits the same request is denied. -/
theorem denied_iff_not_softened_within_limits :
    ∃ (c : CheckedRequest) (d : Decision), denyReason sampleDigest sampleManager
        (sampleRoot ["run_tests"]) 2 (sampleRequest "agent" "grant_root" 1 5) c ∧
      evaluate sampleDigest sampleManager (sampleRoot ["run_tests"]) 2 (sampleToken 0)
        (sampleRequest "agent" "grant_root" 1 5) = .ok d ∧ d.decision = .denied ∧
      ¬ softened sampleDigest sampleManager (sampleRoot ["run_tests"]) 2
        (sampleRequest "agent" "grant_root" 1 5) c := by
  have heval : (evaluate sampleDigest sampleManager (sampleRoot ["run_tests"]) 2 (sampleToken 0)
      (sampleRequest "agent" "grant_root" 1 5)).map (fun d => d.decision) = .ok .denied := by
    decide +kernel
  obtain ⟨d, hd, hverdict⟩ := exists_of_map_eq_ok heval
  obtain ⟨c, -, -, -, hc, -⟩ := evaluate_eq_ok hd
  have hreason : denyReason sampleDigest sampleManager (sampleRoot ["run_tests"]) 2
      (sampleRequest "agent" "grant_root" 1 5) c :=
    denyReason_of_forbid rfl (by decide +kernel)
  exact ⟨c, d, hreason, hd, hverdict, (denied_iff_not_softened hd hc hreason).mp hverdict⟩

end StatePort.Authority
