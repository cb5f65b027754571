import StatePort.Algorithm.Run
import StatePort.Algorithm.Trace
import StatePort.ToolGateway.Gateway

/-!
# Budgets of the model gateway

`balanced_next`: whatever the threads do, what is reserved is what the requests in flight have
reserved, what is recorded is what the settled requests were charged, and an unlocked route is
within its limits. `refused_of_isClosed`: a route that is revoked or locked admits nothing more.
-/

namespace StatePort.ToolGateway

open List Effect ModelGateway

open Effect (Triple)

variable {δ : Type} {sha256 : String → δ} {route : ModelRoute} {adapter : Bool} {g : ModelGateway δ}
  {s : System δ} {estimated : Admission} {result : AdapterResult}

/-! ### The sections -/

variable (route g) in
/-- What an admission has checked. -/
structure Admissible (tokens costMinor : ℕ) : Prop where
  unlocked : g.lockedReason = none
  standing : g.revoked = false
  requests : (g.requests : ℤ) + 1 ≤ route.maxRequests
  tokens : g.tokens + g.reservedTokens + tokens ≤ route.maxTokens
  costMinor : g.costMinor + g.reservedCostMinor + costMinor ≤ route.maxCostMinor

lemma admissible_of_authorize [DecidableEq δ] {presented : δ} {call : Request}
    {tokens costMinor : ℕ} {now : ℚ}
    (h : g.authorize route adapter presented call tokens costMinor now = .ok ()) :
    Admissible route g tokens costMinor := by
  simp only [authorize, refuseIf, bind_eq_ok, raiseIf_eq_ok, not_lt, gt_iff_lt] at h
  obtain ⟨_, hunlocked, _, hissued, -, -, -, -, -, -, -, -, _, hrequests, _, htokens, hcost⟩ := h
  refine ⟨?_, ?_, hrequests, htokens, hcost⟩
  · unfold requireUnlocked at hunlocked
    split at hunlocked
    · assumption
    · cases hunlocked
  · unfold issued at hissued
    split at hissued
    · assumption
    · cases hissued

/-- A request is refused, or it is admitted and its estimates are reserved. -/
lemma authorizeAndReserve_cases [DecidableEq δ] (sha256 : String → δ) (route : ModelRoute)
    (adapter : Bool) (call : Request) (now : ℚ) (g : ModelGateway δ) :
    (∃ e, authorizeAndReserve sha256 route adapter call now g = (.error e, g)) ∨
      ∃ tokens costMinor, authorizeAndReserve sha256 route adapter call now g =
          (.ok (tokens, costMinor), g.reserve tokens costMinor) ∧
        Admissible route g tokens costMinor := by
  unfold authorizeAndReserve
  cases estimate call.estimatedTokens "token" with
  | error e => exact .inl ⟨e, rfl⟩
  | ok tokens =>
    cases estimate call.estimatedCostMinor "cost" with
    | error e => exact .inl ⟨e, rfl⟩
    | ok costMinor =>
      cases presentedDigest sha256 call.token with
      | error e => exact .inl ⟨e, rfl⟩
      | ok presented =>
        simp only [lift_ok_bind, state_bind]
        cases hauthorize :
            g.authorize route adapter presented call tokens costMinor now with
        | error e => exact .inl ⟨e, rfl⟩
        | ok _ => exact .inr ⟨tokens, costMinor, rfl, admissible_of_authorize hauthorize⟩

/-- What a settled request makes of the recorded tokens and cost. -/
def charge (route : ModelRoute) (recorded : ℤ × ℤ) (settled : Admission × AdapterResult) : ℤ × ℤ :=
  match settled.2.usage with
  | .ok (tokens, costMinor) => (recorded.1 + tokens, recorded.2 + costMinor)
  | .error _ =>
    (max (recorded.1 + settled.1.tokens) route.maxTokens,
      max (recorded.2 + settled.1.costMinor) route.maxCostMinor)

variable (route estimated result) in
/-- What the settlement of a request does to a gateway. -/
structure Settles (g after : ModelGateway δ) : Prop where
  requests : after.requests = g.requests
  revoked : after.revoked = g.revoked
  reservedRequests : after.reservedRequests = g.reservedRequests - 1
  reservedTokens : after.reservedTokens = g.reservedTokens - estimated.tokens
  reservedCostMinor : after.reservedCostMinor = g.reservedCostMinor - estimated.costMinor
  charged : (after.tokens, after.costMinor) =
    charge route (g.tokens, g.costMinor) (estimated, result)
  unlocked : after.lockedReason = none → g.lockedReason = none ∧
    after.tokens ≤ g.tokens + estimated.tokens ∧
    after.costMinor ≤ g.costMinor + estimated.costMinor

lemma lockedReason_lock (reason : LockedReason) : (g.lock reason).lockedReason ≠ none := by
  unfold lock
  cases g.lockedReason <;> nofun

/-- While a reservation is held, its settlement finds it. -/
lemma settles_settle (hrequests : 1 ≤ g.reservedRequests)
    (htokens : estimated.tokens ≤ g.reservedTokens)
    (hcost : estimated.costMinor ≤ g.reservedCostMinor) :
    Settles route estimated result g (settle route estimated result g).2 := by
  have hrelease : Triple (· = g) (releaseReservation estimated.tokens estimated.costMinor)
      (fun _ after => after = g.release estimated.tokens estimated.costMinor)
      fun _ => Settles route estimated result g := by
    rintro _ rfl
    simp only [releaseReservation, modify_bind, state_bind]
    rw [if_neg (by simp only [release]; omega)]
    rfl
  refine Triple.apply_always (P := (· = g)) ?_ rfl
  unfold settle
  split
  next e husage =>
    have hcharge : charge route (g.tokens, g.costMinor) (estimated, result) =
        (max (g.tokens + estimated.tokens) route.maxTokens,
          max (g.costMinor + estimated.costMinor) route.maxCostMinor) := by
      rw [charge, husage]
    refine .bind (.bind hrelease fun _ => ?_) fun _ => .raise fun _ h => h
    rintro _ rfl
    exact ⟨rfl, rfl, rfl, rfl, rfl, hcharge.symm, fun h => absurd h (lockedReason_lock _)⟩
  next tokens costMinor husage =>
    have hcharge : charge route (g.tokens, g.costMinor) (estimated, result) =
        (g.tokens + tokens, g.costMinor + costMinor) := by
      rw [charge, husage]
    refine .bind_pure (.bind hrelease fun _ => ?_)
    rintro _ rfl
    simp only [modify_bind, state_bind]
    split_ifs with hoverrun
    · exact ⟨rfl, rfl, rfl, rfl, rfl, hcharge.symm, fun h => absurd h (lockedReason_lock _)⟩
    · simp only [isOverrun, Bool.not_eq_true, Bool.or_eq_false_iff,
        decide_eq_false_iff_not, gt_iff_lt, not_lt, and_assoc] at hoverrun
      obtain ⟨htokens, hcost, -, -⟩ := hoverrun
      refine ⟨rfl, rfl, rfl, rfl, rfl, hcharge.symm, fun h => ⟨h, ?_, ?_⟩⟩
      · exact add_le_add_right (by exact_mod_cast htokens) _
      · exact add_le_add_right (by exact_mod_cast hcost) _

variable (sha256 g) in
lemma issueToken_cases (token : String) (now : ℚ) :
    ∃ digest issued, (issueToken sha256 token now g).2 =
      { g with tokenDigest := digest, issuedAt := issued } := by
  unfold issueToken
  rw [state_bind]
  cases refuseIf g.revoked "model route is revoked" with
  | error e => exact ⟨_, _, rfl⟩
  | ok _ =>
    cases g.requireUnlocked with
    | error e => exact ⟨_, _, rfl⟩
    | ok _ => exact ⟨_, _, rfl⟩

/-! ### The books -/

variable (route g) in
/-- The counters of a gateway are those of the requests in flight and of the settled requests. -/
structure Books (inFlight : List Admission)
    (settled : List (Admission × AdapterResult)) : Prop where
  reservedRequests : g.reservedRequests = inFlight.length
  reservedTokens : g.reservedTokens = (inFlight.map fun a => (a.tokens : ℤ)).sum
  reservedCostMinor : g.reservedCostMinor = (inFlight.map fun a => (a.costMinor : ℤ)).sum
  requests : g.requests ≤ route.maxRequests
  /-- Every admitted request is in flight or settled, and it is so once. -/
  once : ((inFlight ++ settled.map Prod.fst).map Admission.slot).Perm (List.range g.requests)
  charged : (g.tokens, g.costMinor) = settled.foldl (charge route) (0, 0)
  within : g.lockedReason = none →
    g.tokens + g.reservedTokens ≤ route.maxTokens ∧
      g.costMinor + g.reservedCostMinor ≤ route.maxCostMinor

namespace Books

variable {inFlight inFlight' : List Admission} {settled : List (Admission × AdapterResult)}

lemma perm (h : Books route g inFlight settled) (hperm : inFlight.Perm inFlight') :
    Books route g inFlight' settled where
  reservedRequests := by rw [h.reservedRequests, hperm.length_eq]
  reservedTokens := by rw [h.reservedTokens, (hperm.map _).sum_eq]
  reservedCostMinor := by rw [h.reservedCostMinor, (hperm.map _).sum_eq]
  requests := h.requests
  once := ((hperm.symm.append_right _).map _).trans h.once
  charged := h.charged
  within := h.within

lemma reserve {tokens costMinor : ℕ} (h : Books route g inFlight settled)
    (hadmissible : Admissible route g tokens costMinor) :
    Books route (g.reserve tokens costMinor)
      (⟨g.requests, tokens, costMinor⟩ :: inFlight) settled where
  reservedRequests := by simp [ModelGateway.reserve, h.reservedRequests]
  reservedTokens := by simp [ModelGateway.reserve, h.reservedTokens, add_comm]
  reservedCostMinor := by simp [ModelGateway.reserve, h.reservedCostMinor, add_comm]
  requests := hadmissible.requests
  once := by
    have hcons := (h.once.cons g.requests).trans (perm_append_singleton _ _).symm
    rw [← range_succ] at hcons
    exact hcons
  charged := h.charged
  within _ := by
    have htokens := hadmissible.tokens
    have hcost := hadmissible.costMinor
    simp only [ModelGateway.reserve]
    omega

lemma settle {after : ModelGateway δ} (h : Books route g (estimated :: inFlight) settled)
    (hsettles : Settles route estimated result g after) :
    Books route after inFlight (settled ++ [(estimated, result)]) where
  reservedRequests := by simp [hsettles.reservedRequests, h.reservedRequests]
  reservedTokens := by simp [hsettles.reservedTokens, h.reservedTokens]
  reservedCostMinor := by simp [hsettles.reservedCostMinor, h.reservedCostMinor]
  requests := by rw [hsettles.requests]; exact h.requests
  once := by
    rw [hsettles.requests, show (settled ++ [(estimated, result)]).map Prod.fst =
      settled.map Prod.fst ++ [estimated] from map_append, ← append_assoc]
    exact ((perm_append_singleton _ _).map _).trans h.once
  charged := by rw [hsettles.charged, h.charged, foldl_append]; rfl
  within hunlocked := by
    obtain ⟨hunlocked, htokens, hcost⟩ := hsettles.unlocked hunlocked
    have hwithin := h.within hunlocked
    rw [hsettles.reservedTokens, hsettles.reservedCostMinor]
    omega

lemma settles (h : Books route g (estimated :: inFlight) settled) :
    Settles route estimated result g (ToolGateway.settle route estimated result g).2 := by
  have htokens : 0 ≤ (inFlight.map fun a => (a.tokens : ℤ)).sum := sum_nonneg (by simp)
  have hcost : 0 ≤ (inFlight.map fun a => (a.costMinor : ℤ)).sum := sum_nonneg (by simp)
  refine settles_settle ?_ ?_ ?_
  · simp [h.reservedRequests]
  · simp [h.reservedTokens, htokens]
  · simp [h.reservedCostMinor, hcost]

end Books

/-! ### Runs -/

variable (route s) in
/-- The books are kept. -/
abbrev System.Balanced : Prop :=
  Books route s.gateway s.inFlight s.settled

/-- A request that ends was in flight. -/
lemma inFlight_perm_cons (h : estimated ∈ s.calling) :
    s.inFlight.Perm (estimated :: (s.admitted ++ s.calling.erase estimated)) :=
  ((perm_cons_erase h).append_left _).trans perm_middle

/-- A request that enters the adapter stays in flight. -/
lemma inFlight_perm_call (h : estimated ∈ s.admitted) :
    s.inFlight.Perm (s.admitted.erase estimated ++ (s.calling ++ [estimated])) := by
  rw [← append_assoc]
  exact ((perm_cons_erase h).append_right _).trans (perm_append_singleton _ _).symm

lemma balanced_initial (h : route.validate = .ok ()) :
    (System.initial : System δ).Balanced route := by
  simp only [ModelRoute.validate, refuseIf, bind_eq_ok, raiseIf_eq_ok] at h
  obtain ⟨_, -, _, hlimits, hcost⟩ := h
  simp at hlimits
  exact ⟨rfl, rfl, rfl, by simp [System.initial]; omega, .refl _, rfl,
    fun _ => by simp [System.initial]; omega⟩

variable [DecidableEq δ]

/-- **Step.** -/
theorem balanced_next (h : s.Balanced route) (event : Event) :
    (next sha256 route adapter s event).Balanced route := by
  cases event with
  | issueToken token now =>
    obtain ⟨digest, issued, hissue⟩ := issueToken_cases sha256 s.gateway token now
    simp only [next, hissue]
    exact ⟨h.1, h.2, h.3, h.4, h.5, h.6, h.7⟩
  | request call now =>
    obtain ⟨e, hrefused⟩ | ⟨tokens, costMinor, hadmitted, hadmissible⟩ :=
      authorizeAndReserve_cases sha256 route adapter call now s.gateway
    · simp only [next, hrefused]
      exact h
    · simp only [next, hadmitted]
      refine (h.reserve hadmissible).perm ?_
      simp only [System.inFlight, append_assoc]
      exact perm_middle.symm
  | callAdapter estimated =>
    simp only [next]
    split_ifs with hmem
    · exact h.perm (inFlight_perm_call hmem)
    · exact h
  | adapterEnds estimated result =>
    simp only [next]
    split_ifs with hmem
    · have hfirst := h.perm (inFlight_perm_cons hmem)
      exact hfirst.settle hfirst.settles
    · exact h
  | revoke => exact ⟨h.1, h.2, h.3, h.4, h.5, h.6, h.7⟩

/-- The route is revoked or locked. -/
def ModelGateway.IsClosed (g : ModelGateway δ) : Prop :=
  g.revoked ∨ g.lockedReason ≠ none

variable (sha256 route adapter) in
lemma refused_of_isClosed (h : g.IsClosed) (call : Request) (now : ℚ) :
    ∃ e, authorizeAndReserve sha256 route adapter call now g = (.error e, g) := by
  obtain hrefused | ⟨_, _, -, hadmissible⟩ :=
    authorizeAndReserve_cases sha256 route adapter call now g
  · exact hrefused
  · rcases h with hrevoked | hlocked
    · cases hadmissible.standing.symm.trans hrevoked
    · exact absurd hadmissible.unlocked hlocked

/-- **Step.** A closed route stays closed. -/
theorem isClosed_next (h : s.Balanced route) (hclosed : s.gateway.IsClosed) (event : Event) :
    (next sha256 route adapter s event).gateway.IsClosed := by
  cases event with
  | issueToken token now =>
    obtain ⟨digest, issued, hissue⟩ := issueToken_cases sha256 s.gateway token now
    simp only [next, hissue]
    exact hclosed
  | request call now =>
    obtain ⟨e, hrefused⟩ := refused_of_isClosed sha256 route adapter hclosed call now
    simp only [next, hrefused]
    exact hclosed
  | callAdapter estimated =>
    simp only [next]
    split_ifs
    · exact hclosed
    · exact hclosed
  | adapterEnds estimated result =>
    simp only [next]
    split_ifs with hmem
    · have hsettles : Settles route estimated result s.gateway _ :=
        (h.perm (inFlight_perm_cons hmem)).settles
      exact hclosed.imp (fun hrevoked => hsettles.revoked.trans hrevoked)
        fun hlocked hunlocked => hlocked (hsettles.unlocked hunlocked).1
    · exact hclosed
  | revoke => exact .inl rfl

/-- **Budgets hold under every interleaving.** In every state of every history the books are kept,
nothing reserved is negative, and the adapter was called at most `max_requests` times; if the route
is revoked or locked, every later request is refused; and `revoke` closes it. -/
theorem budgets_hold (hroute : route.validate = .ok ()) (earlier later : List Event) :
    let s := earlier.foldl (next sha256 route adapter) .initial
    let t := later.foldl (next sha256 route adapter) s
    s.Balanced route ∧ 0 ≤ s.gateway.reservedRequests ∧ 0 ≤ s.gateway.reservedTokens ∧
      0 ≤ s.gateway.reservedCostMinor ∧ s.adapterCalls ≤ route.maxRequests ∧
      (s.gateway.IsClosed → ∀ call now, ∃ e,
        authorizeAndReserve sha256 route adapter call now t.gateway = (.error e, t.gateway)) ∧
      (next sha256 route adapter s .revoke).gateway.IsClosed := by
  intro s t
  have hbooks : s.Balanced route :=
    (Run.foldl earlier System.initial).invariant (I := System.Balanced route)
      (fun _ event h _ => balanced_next h event) (balanced_initial hroute)
  refine ⟨hbooks, ?_, ?_, ?_, ?_, fun hclosed => ?_, .inl rfl⟩
  · simp [hbooks.reservedRequests]
  · rw [hbooks.reservedTokens]
    exact sum_nonneg (by simp)
  · rw [hbooks.reservedCostMinor]
    exact sum_nonneg (by simp)
  · have hlength := hbooks.once.length_eq
    have hrequests := hbooks.requests
    simp only [System.inFlight, length_map, length_append, length_range] at hlength
    simp only [System.adapterCalls]
    omega
  · have hlater : t.Balanced route ∧ t.gateway.IsClosed :=
      (Run.foldl later s).invariant (I := fun s => s.Balanced route ∧ s.gateway.IsClosed)
        (fun _ event h _ => ⟨balanced_next h.1 event, isClosed_next h.1 h.2 event⟩)
        ⟨hbooks, hclosed⟩
    exact refused_of_isClosed sha256 route adapter hlater.2

def sampleRoute : ModelRoute where
  runId := "run"
  provider := "provider"
  model := "model"
  maxRequests := 2
  maxTokens := 10

/-- Two requests are in the adapter at once; the usage of the second stays unknown. -/
def sampleHistory : List Event :=
  [.issueToken "token" 0,
    .request ⟨some "token", "provider", "model", .int 4, .int 0⟩ 1, .callAdapter ⟨0, 4, 0⟩,
    .request ⟨some "token", "provider", "model", .int 6, .int 0⟩ 2, .callAdapter ⟨1, 6, 0⟩,
    .adapterEnds ⟨0, 4, 0⟩ (.mapping (some (.int 3, .int 0))), .adapterEnds ⟨1, 6, 0⟩ .raised]

/-- Both are settled, and the route is locked. -/
theorem budgets_hold_sample :
    let s := sampleHistory.foldl (next id sampleRoute true) .initial
    s.adapterCalls = 2 ∧ s.gateway.tokens = 10 ∧ s.gateway.lockedReason = some .usageUnknown ∧
      s.Balanced sampleRoute := by
  intro s
  have hroute : sampleRoute.validate = .ok () := by decide
  exact ⟨by decide +kernel, by decide +kernel, by decide +kernel,
    (budgets_hold hroute sampleHistory []).1⟩

end StatePort.ToolGateway
