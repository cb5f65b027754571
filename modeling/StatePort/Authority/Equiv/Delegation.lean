import StatePort.Authority.Equiv.Evaluate

/-!
# Delegation attenuates

Every comparison of `_assert_child_is_narrower` is sound: a request that is inside the child's scope
and limits is inside its parent's. For branches this rests on what a validated pattern matches
(`fnmatchcase_branchPattern`): one ref, or all refs with a given beginning. The comparisons together
give `child_request_within_parent`.
-/

namespace StatePort.Authority

variable {H : Body → String} {m : Manager}

/-! ### Branch patterns -/

lemma plain_of_isRefChar {c : Char} (h : isRefChar c) : Glob.Plain c := by
  refine ⟨?_, ?_, ?_⟩
  all_goals
    rintro rfl
    revert h
    decide

/-- The pattern without its wildcard consists of characters without a meaning of their own. -/
lemma plain_branchBase (p : BranchPattern) : ∀ c ∈ branchBase p.1, Glob.Plain c := by
  have h := p.2
  simp only [branchPattern, eq_ok_iff, not_or] at h
  obtain ⟨-, -, -, ⟨-, -, -, hchars⟩, -⟩ := h
  rw [Bool.not_eq_false, List.all_eq_true] at hchars
  exact fun c hc => plain_of_isRefChar (hchars c hc)

lemma toList_of_endsWith_star {value : String} (h : Str.endsWith value "*") :
    value.toList = branchBase value ++ ['*'] := by
  rw [branchBase, if_pos h]
  obtain ⟨stem, hstem⟩ := List.isSuffixOf_iff_suffix.mp h
  change stem ++ ['*'] = value.toList at hstem
  rw [← hstem, List.dropLast_concat]

lemma branchBase_of_not_endsWith_star {value : String} (h : Str.endsWith value "*" = false) :
    branchBase value = value.toList := by
  rw [branchBase, h, if_neg Bool.false_ne_true]

/-- A validated pattern matches one ref, or the refs with a given beginning. -/
lemma fnmatchcase_branchPattern (p : BranchPattern) (branch : String) :
    Glob.fnmatchcase branch p.1 ↔
      if Str.endsWith p.1 "*" then branchBase p.1 <+: branch.toList
      else branch.toList = branchBase p.1 := by
  rw [Glob.fnmatchcase, Glob.accepts_iff]
  split_ifs with hstar
  · rw [toList_of_endsWith_star hstar, Glob.fnmatchTokens_plain_star (plain_branchBase p),
      Glob.mem_lang_letters_star]
  · rw [Bool.not_eq_true] at hstar
    rw [← branchBase_of_not_endsWith_star hstar, Glob.fnmatchTokens_plain (plain_branchBase p),
      Glob.mem_lang_letters]

/-- **Soundness of `_pattern_narrower`.** What a narrower pattern matches, the wider one matches. -/
theorem fnmatchcase_of_patternNarrower {child parent : BranchPattern}
    (h : patternNarrower (some child.1) (some parent.1)) {branch : String}
    (hmatch : Glob.fnmatchcase branch child.1) :
    Glob.fnmatchcase branch parent.1 := by
  simp only [patternNarrower] at h
  split_ifs at h with hexact hchild
  · have heq : child = parent := Subtype.ext (of_decide_eq_true h)
    rwa [← heq]
  all_goals
    rw [Bool.not_eq_false] at hexact
    rw [fnmatchcase_branchPattern] at hmatch ⊢
    rw [if_pos hexact, branchBase, if_pos hexact]
    have hstem := List.isPrefixOf_iff_prefix.mp h
  · rw [if_pos hchild, branchBase, if_pos hchild] at hmatch
    exact hstem.trans hmatch
  · rw [if_neg hchild, branchBase, if_neg hchild] at hmatch
    rwa [hmatch]

/-! ### Paths -/

lemma pathIsWithin_iff {path root : String} :
    pathIsWithin path root ↔ root = "." ∨ path = root ∨ root.toList ++ ['/'] <+: path.toList := by
  simp only [pathIsWithin, Bool.or_eq_true, decide_eq_true_eq, Str.startsWith_iff,
    String.toList_append, or_assoc]
  exact Iff.rfl

/-- **Containment of paths is transitive.** -/
theorem pathIsWithin_trans {path root root' : String} (h : pathIsWithin path root)
    (h' : pathIsWithin root root') : pathIsWithin path root' := by
  rw [pathIsWithin_iff] at h h' ⊢
  obtain hdot | rfl | hpre' := h'
  · exact .inl hdot
  · exact h
  · right
    right
    obtain rfl | rfl | hpre := h
    · -- nothing is strictly above the repository root
      obtain ⟨rest, hrest⟩ := hpre'
      change (root'.toList ++ ['/']) ++ rest = ['.'] at hrest
      have hmem : '/' ∈ ['.'] := by
        rw [← hrest]
        simp
      exact absurd hmem (by decide)
    · exact hpre'
    · exact hpre'.trans ((List.prefix_append _ _).trans hpre)

lemma withinSome_trans {roots roots' : List String} {path : String}
    (hroots : ∀ root ∈ roots, withinSome roots' root) (h : withinSome roots path) :
    withinSome roots' path := by
  simp only [withinSome, List.any_eq_true] at hroots h ⊢
  obtain ⟨root, hroot, hpath⟩ := h
  obtain ⟨root', hroot', hwithin⟩ := hroots root hroot
  exact ⟨root', hroot', pathIsWithin_trans hpath hwithin⟩

/-! ### Scopes -/

/-- A request inside a scope, check by check. -/
structure ScopeAdmits (scope : Scope) (branch sliceId applicationId runId : Option String)
    (paths : List String) (source : Option SourceIdentity) : Prop where
  branch : ∀ p ∈ scope.branchPattern, ∀ b ∈ branch, Glob.fnmatchcase b p.1
  sliceId : ¬ idOutside scope.sliceId sliceId
  applicationId : ¬ idOutside scope.applicationId applicationId
  runId : ¬ idOutside scope.runId runId
  paths : ∀ path ∈ paths, withinSome scope.paths path
  source : ∀ src ∈ source, ¬ sourceOutside scope.deploymentSources src

variable {branch sliceId applicationId runId : Option String} {paths : List String}
  {source : Option SourceIdentity}

lemma scopeMismatch_eq_none_iff {scope : Scope} :
    scopeMismatch scope branch sliceId applicationId runId paths source = none ↔
      ScopeAdmits scope branch sliceId applicationId runId paths source := by
  unfold scopeMismatch
  split_ifs with hbranch hslice happ hrun hpaths hsource
  · refine iff_of_false (by simp) fun h => ?_
    obtain ⟨p, hp, b, hb, hno⟩ := hbranch
    rw [h.branch p hp b hb] at hno
    cases hno
  · exact iff_of_false (by simp) fun h => h.sliceId hslice
  · exact iff_of_false (by simp) fun h => h.applicationId happ
  · exact iff_of_false (by simp) fun h => h.runId hrun
  · refine iff_of_false (by simp) fun h => ?_
    obtain ⟨path, hpath, hno⟩ := hpaths
    rw [h.paths path hpath] at hno
    cases hno
  · refine iff_of_false (by simp) fun h => ?_
    obtain ⟨src, hsrc, hout⟩ := hsource
    exact h.source src hsrc hout
  · refine iff_of_true rfl ⟨?_, hslice, happ, hrun, ?_, ?_⟩
    · intro p hp b hb
      by_contra hno
      exact hbranch ⟨p, hp, b, hb, Bool.eq_false_of_not_eq_true hno⟩
    · intro path hpath
      by_contra hno
      exact hpaths ⟨path, hpath, Bool.eq_false_of_not_eq_true hno⟩
    · intro src hsrc hout
      exact hsource ⟨src, hsrc, hout⟩

lemma idOutside_trans {child parent actual : Option String} (hchild : ¬ idOutside child actual)
    (hparent : ¬ idOutside parent child) : ¬ idOutside parent actual := by
  simp only [idOutside, not_and, not_not] at hchild hparent ⊢
  intro hsome
  have heq : child = parent := hparent hsome
  rw [← heq] at hsome ⊢
  exact hchild hsome

/-- **Scopes attenuate.** What a narrower scope admits, the wider one admits. -/
theorem scopeAdmits_of_narrower {child parent : Scope} {x : Unit}
    (h : assertScopeNarrower child parent = .ok x)
    (hchild : ScopeAdmits child branch sliceId applicationId runId paths source) :
    ScopeAdmits parent branch sliceId applicationId runId paths source := by
  simp only [assertScopeNarrower, eq_ok_iff] at h
  obtain ⟨hbranch, hslice, happ, hrun, hpaths, hsources⟩ := h
  rw [Bool.not_eq_false] at hbranch
  refine ⟨?_, idOutside_trans hchild.sliceId hslice, idOutside_trans hchild.applicationId happ,
    idOutside_trans hchild.runId hrun, ?_, ?_⟩
  · intro p hp b hb
    rw [Option.mem_def] at hp
    rw [hp, Option.map_some] at hbranch
    -- a parent with a pattern has only children with one
    cases hc : child.branchPattern with
    | none =>
      rw [hc] at hbranch
      cases hbranch
    | some q =>
      rw [hc, Option.map_some] at hbranch
      exact fnmatchcase_of_patternNarrower hbranch (hchild.branch q hc b hb)
  · intro path hpath
    refine withinSome_trans (fun root hroot => ?_) (hchild.paths path hpath)
    by_contra hno
    exact hpaths ⟨root, hroot, Bool.eq_false_of_not_eq_true hno⟩
  · intro src hsrc hout
    have hin := hchild.source src hsrc
    simp only [sourceOutside, not_not] at hin hout
    obtain ⟨items, hitems, item, hitem, hmatch⟩ := hin
    refine hsources ⟨items, hitems, fun ps hps hsub => ?_⟩
    exact hout ⟨ps, hps, item, hsub hitem, hmatch⟩

/-! ### Limits -/

/-- A value below a child's limit is below its parent's. -/
lemma le_of_not_limitExceeds {α : Type} [LinearOrder α] {child parent : Option α} {x : α}
    (h : ¬ limitExceeds child parent) (hchild : ∀ n ∈ child, x ≤ n) : ∀ n ∈ parent, x ≤ n := by
  intro n hn
  by_contra hlt
  refine h ⟨n, hn, fun c hc => ?_⟩
  exact lt_of_lt_of_le (not_le.mp hlt) (hchild c hc)

variable {req : Request} {c : CheckedRequest}

/-- **Limits attenuate.** A request that fires no limit check of the child fires none of its parent's,
usage aside. -/
theorem not_limitFires_of_narrower {child parent : Limits} {x : Unit}
    (h : assertLimitsNarrower child parent = .ok x)
    {actualCost : ℚ≥0} (hchild : ¬ limitFires child req c actualCost) :
    ¬ limitFires parent req c 0 := by
  simp only [assertLimitsNarrower, eq_ok_iff] at h
  obtain ⟨-, hduration, hcost, hnetwork, hdomains, hproviders, hsecrets⟩ := h
  simp only [limitFires, not_or, not_not, not_exists, not_and, not_lt] at hchild ⊢
  obtain ⟨hsecrets', hprovider', hdomains', hnetwork', hcost', hduration'⟩ := hchild
  rw [not_not] at hproviders hsecrets
  refine ⟨List.Subset.trans hsecrets' hsecrets, fun p hp => hproviders (hprovider' p hp), ?_, ?_,
    ?_, le_of_not_limitExceeds hduration hduration'⟩
  · intro hreq hallow
    -- a child below an allowlisted parent that may use the network is allowlisted itself
    have hlisted : child.network = .allowlisted := by
      rw [hallow] at hnetwork
      cases hn : child.network with
      | denied => exact absurd hn (hnetwork' hreq)
      | allowlisted => rfl
      | unrestricted =>
        rw [hn] at hnetwork
        exact absurd (by decide) hnetwork
    have hsub : child.allowedDomains ⊆ parent.allowedDomains := by
      by_contra hsub
      exact hdomains ⟨hallow, hsub⟩
    exact List.Subset.trans (hdomains' hreq hlisted) hsub
  · intro hreq hdenied
    rw [hdenied] at hnetwork
    cases hn : child.network with
    | denied => exact hnetwork' hreq hn
    | allowlisted | unrestricted =>
      rw [hn] at hnetwork
      exact hnetwork (by decide)
  · refine le_of_not_limitExceeds hcost fun n hn => ?_
    calc 0 + c.estimatedCostUsd = c.estimatedCostUsd := zero_add _
      _ ≤ actualCost + c.estimatedCostUsd := le_add_of_nonneg_left zero_le
      _ ≤ n := hcost' n hn

/-! ### Modes -/

lemma mem_actions_of_checkRequest {token : String}
    (h : checkRequest m token req = .ok c) : req.action ∈ m.policy.actions := by
  simp only [checkRequest, eq_ok_iff] at h
  exact not_not.mp h.1

/-- **Delegation attenuates.** A request that is authorised under a child grant is inside the scope
and the limits of every parent that the child was found narrower than, and the parent's mode for the
action is not stricter than the policy it was authorised with. -/
theorem child_request_within_parent {s s₀ : Store} {now now₀ : ℕ} {token : String} {req : Request}
    {c : CheckedRequest} {d : Decision} {child parent : Grant}
    (hnarrow : assertChildIsNarrower H m s₀ now₀ child parent = .ok ())
    (heval : evaluate H m s now token req = .ok d) (hc : checkRequest m token req = .ok c)
    (hauth : d.decision = .authorized) (htype : d.authorizedBy.type = .grant)
    (hchild : loadGrant H m s d.authorizedBy.id = .ok child) :
    requestMismatch parent req c = none ∧ ¬ limitFires parent.limits req c 0 ∧
      ∃ mode, baseMode m parent req.action = .ok mode ∧
        d.policy.permissiveness ≤ mode.permissiveness := by
  obtain ⟨-, -, hgrant⟩ := authorized_of_evaluate heval hauth
  obtain ⟨c', grant, hc', hload, hunder⟩ := hgrant htype
  cases hc.symm.trans hc'
  cases hchild.symm.trans hload
  simp only [assertChildIsNarrower, eq_ok_iff] at hnarrow
  obtain ⟨-, -, -, -, hscope, hmodes, hlimits⟩ := hnarrow
  refine ⟨?_, ?_, ?_⟩
  · have hadmits := scopeMismatch_eq_none_iff.mp hunder.scope
    exact scopeMismatch_eq_none_iff.mpr (scopeAdmits_of_narrower hscope hadmits)
  · obtain ⟨usage, -, hfires⟩ := hunder.limits
    exact not_limitFires_of_narrower hlimits hfires
  · have hmode := forM_eq_ok hmodes req.action (mem_actions_of_checkRequest hc)
    simp only [assertModeNarrower, eq_ok_iff] at hmode
    obtain ⟨childMode, hchildMode, mode, hparentMode, hle⟩ := hmode
    cases hunder.mode.symm.trans hchildMode
    exact ⟨mode, hparentMode, not_lt.mp hle⟩

/-- A request that is authorised under a child of the sample grant. -/
theorem child_request_within_parent_sample :
    ∃ (c : CheckedRequest) (parent : Grant),
      loadGrant sampleDigest sampleManager sampleFamily "grant_root" = .ok parent ∧
        requestMismatch parent (sampleRequest "a" "grant_a-child" 10 5) c = none ∧
        ¬ limitFires parent.limits (sampleRequest "a" "grant_a-child" 10 5) c 0 := by
  have heval : (evaluate sampleDigest sampleManager sampleFamily 2 (sampleToken 5)
      (sampleRequest "a" "grant_a-child" 10 5)).map (fun d => (d.decision, d.authorizedBy.type,
        d.authorizedBy.id)) = .ok (.authorized, .grant, "grant_a-child") := by decide +kernel
  obtain ⟨d, hd, hfields⟩ := exists_of_map_eq_ok heval
  simp only [Prod.mk.injEq] at hfields
  obtain ⟨hauth, htype, hid⟩ := hfields
  obtain ⟨c, -, -, -, hc, -⟩ := evaluate_eq_ok hd
  have hgrants : (do
      let child ← loadGrant sampleDigest sampleManager sampleFamily "grant_a-child"
      let parent ← loadGrant sampleDigest sampleManager sampleFamily "grant_root"
      assertChildIsNarrower sampleDigest sampleManager sampleFamily 2 child parent) = .ok () := by
    decide +kernel
  simp only [bind_eq_ok] at hgrants
  obtain ⟨child, hchild, parent, hparent, hnarrow⟩ := hgrants
  rw [← hid] at hchild
  obtain ⟨hscope, hlimits, -⟩ := child_request_within_parent hnarrow hd hc hauth htype hchild
  exact ⟨c, parent, hparent, hscope, hlimits⟩

end StatePort.Authority
