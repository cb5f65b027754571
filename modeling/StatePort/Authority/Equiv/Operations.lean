import StatePort.Authority.Operations
import StatePort.Authority.Equiv.Status

/-!
# What an operation writes

For each operation, what its success has checked and what record it writes; and `next_effect`: an
event reserves, claims or records one action, or is an operation of the owner, which touches neither
reservations nor claims.
-/

namespace StatePort.Authority

open List

variable {H : Body → String} {m : Manager} {s s' : Store} {now : ℕ} {d : Decision} {v : Reservation}
  {tokens : OwnerTokens} {actorId ownerDirectiveId : String} {e : Event}

/-! ### Re-validation and reservation -/

/-- A policy that stays automatic through the limit checks has passed the cost check. -/
lemma cost_le_of_revalidatedPolicy {grant : Grant} {configured : Mode} {actualCost : ℚ≥0}
    (h : (revalidatedPolicy m grant d configured actualCost).isAuto) :
    ∀ n ∈ grant.limits.maxCostUsd, actualCost + d.estimatedCostUsd ≤ n := by
  intro n hn
  by_contra hlt
  have hcost : ∃ n ∈ grant.limits.maxCostUsd, n < actualCost + d.estimatedCostUsd :=
    ⟨n, hn, not_le.mp hlt⟩
  simp only [revalidatedPolicy, if_pos hcost] at h
  split_ifs at h <;> cases h

/-- What a successful re-validation under a grant has checked. -/
lemma revalidateGrant_eq_ok {x : Unit} (h : revalidateGrant H m s now d = .ok x) :
    ∃ grant usage, loadGrant H m s d.authorizedBy.id = .ok grant ∧
      grantStatus H m s now grant = .ok .active ∧
      grantUsage H m s d.authorizedBy.id = .ok usage ∧
      ∀ n ∈ grant.limits.maxCostUsd, usage.2 + d.estimatedCostUsd ≤ n := by
  simp only [revalidateGrant, eq_ok_iff] at h
  obtain ⟨grant, hload, status, hstatus, hactive, -, -, configured, -, -, usage, husage, hauto⟩ := h
  rw [not_not] at hactive
  subst hactive
  push Not at hauto
  have hmode := Bool.eq_true_of_not_eq_false hauto.2.2
  exact ⟨grant, usage, hload, hstatus, husage, cost_le_of_revalidatedPolicy hmode⟩

lemma revalidateAuthorized_eq_ok {x : Unit} (h : revalidateAuthorized H m s now d = .ok x) :
    d.decision = .authorized ∧
      (∃ control, loadControl H s = .ok control ∧ ¬ pausedFor control d.action) ∧
      d.authorizedBy.type ≠ .ownerDirective ∧
      (d.authorizedBy.type = .grant → revalidateGrant H m s now d = .ok ()) := by
  simp only [revalidateAuthorized, eq_ok_iff] at h
  obtain ⟨-, hauth, -, -, -, control, hcontrol, hpaused, hsource, -⟩ := h
  unfold revalidateSource at hsource
  refine ⟨not_not.mp hauth, ⟨control, hcontrol, hpaused⟩, ?_, ?_⟩
  · intro howner
    simp [howner] at hsource
  · intro hgrant
    simpa [hgrant] using hsource

/-- What a successful reservation has checked and what it writes. -/
lemma reserveEvaluated_eq_ok (h : reserveEvaluated H m s now d = .ok v) :
    revalidateAuthorized H m s now d = .ok () ∧ v.decision = d ∧ v.requestId = d.requestId ∧
      ∀ w ∈ s.reservations.rows, w.requestId ≠ v.requestId := by
  simp only [reserveEvaluated, createOnly, eq_ok_iff] at h
  obtain ⟨hval, id, -, hnew, rfl⟩ := h
  rw [Bool.not_eq_true, Table.contains_eq_false_iff] at hnew
  exact ⟨hval, rfl, rfl, hnew⟩

/-! ### Claims -/

/-- What a successful claim has checked and what it writes. -/
lemma claimReserved_eq_ok {c : Claim} (h : claimReserved H m s now d = .ok (v, c)) :
    (v ∈ s.reservations.rows ∧ v.decision = d ∧ v.requestId = d.requestId) ∧
      (∀ r ∈ s.receipts.rows, r.requestId ≠ d.requestId) ∧
      (∀ c' ∈ s.claims.rows, c'.requestId ≠ c.requestId) ∧
      (∃ control, loadControl H s = .ok control ∧ ¬ pausedFor control d.action) ∧
      assertGrantLive H m s now d = .ok () ∧
      c.requestId = d.requestId ∧ c.reservationId = v.reservationId ∧
      c.reservationDigest = v.reservationDigest ∧ c.decisionDigest = d.decisionDigest := by
  simp only [claimReserved, eq_ok_iff, Prod.mk.injEq] at h
  obtain ⟨-, v', hv, hd, rs, hrs, hreceipts, id, -, hclaims, control, hcontrol, hpaused, hlive, rfl,
    rfl⟩ := h
  obtain ⟨hmem, hreq⟩ := loadReservation_eq_ok hv
  obtain rfl := loadReceipts_eq_ok hrs
  rw [Bool.not_eq_true, Table.contains_eq_false_iff] at hclaims
  push Not at hreceipts
  exact ⟨⟨hmem, not_not.mp hd, hreq⟩, hreceipts, hclaims, ⟨control, hcontrol, hpaused⟩, hlive, rfl,
    rfl, rfl, rfl⟩

/-! ### Receipts -/

/-- The reservation and claim of an authorised action that is finalised. -/
lemma finalizedRefs_eq_ok {args : RecordArgs} {c : Option Claim}
    (h : finalizedRefs H s d args = .ok (v, c)) :
    (v ∈ s.reservations.rows ∧ v.decision = d ∧ v.requestId = d.requestId) ∧
      (args.resultStatus.executed → ∃ c ∈ s.claims.rows, c.requestId = d.requestId) ∧
      (args.resultStatus.executed = false → ∀ c ∈ s.claims.rows, c.requestId ≠ d.requestId) := by
  simp only [finalizedRefs, eq_ok_iff] at h
  obtain ⟨-, v', hv, hmatch, id, -, h⟩ := h
  obtain ⟨hmem, hreq⟩ := loadReservation_eq_ok hv
  push Not at hmatch
  split_ifs at h with hclaimed
  · simp only [eq_ok_iff, Prod.mk.injEq] at h
    obtain ⟨c', hc', -, hexec, rfl, -⟩ := h
    refine ⟨⟨hmem, hmatch.2, hreq⟩, fun _ => ⟨c', loadClaim_eq_ok hc'⟩, ?_⟩
    intro hno
    exact absurd hno hexec
  · simp only [eq_ok_iff, Prod.mk.injEq] at h
    obtain ⟨hexec, -, rfl, -⟩ := h
    rw [Bool.not_eq_true, Table.contains_eq_false_iff] at hclaimed
    refine ⟨⟨hmem, hmatch.2, hreq⟩, ?_, fun _ => hclaimed⟩
    intro hyes
    exact absurd hyes hexec

lemma newReceipt_eq_ok {body : ReceiptBody} {r : Receipt} (h : newReceipt H s body = .ok r) :
    r.toReceiptBody = body ∧ ∀ r' ∈ s.receipts.rows, r'.receiptId ≠ r.receiptId := by
  simp only [newReceipt, createOnly, eq_ok_iff] at h
  obtain ⟨-, hnew, rfl⟩ := h
  rw [Bool.not_eq_true, Table.contains_eq_false_iff] at hnew
  exact ⟨rfl, hnew⟩

/-- The receipt copies the decision: every field that the two records share is equal. -/
structure Receipt.IsOf (r : Receipt) (d : Decision) : Prop where
  requestId : r.requestId = d.requestId
  action : r.action = d.action
  actorId : r.actorId = d.actorId
  authorizedBy : r.authorizedBy = d.authorizedBy
  scope : r.scope = d.scope
  profile : r.profile = d.profile
  configuredPolicy : r.configuredPolicy = d.configuredPolicy
  policy : r.policy = d.policy
  decision : r.decision = d.decision
  estimatedCostUsd : r.estimatedCostUsd = d.estimatedCostUsd
  decisionDigest : r.decisionDigest = d.decisionDigest

/-- What a successful `record_action` has checked and what it writes. -/
lemma recordAction_eq_ok {token : String} {args : RecordArgs} {r : Receipt}
    (h : recordAction H s now token d args = .ok r) :
    r.IsOf d ∧ r.result.status = args.resultStatus ∧
      args.actualCostUsd.nonneg? = some r.actualCostUsd ∧
      (d.decision ≠ .authorized → args.resultStatus.executed = false) ∧
      (d.decision = .authorized → ∃ refs, finalizedRefs H s d args = .ok refs) ∧
      (∀ r' ∈ s.receipts.rows, r'.requestId ≠ d.requestId) ∧
      ∀ r' ∈ s.receipts.rows, r'.receiptId ≠ r.receiptId := by
  simp only [recordAction, eq_ok_iff] at h
  obtain ⟨-, -, -, c, hc, hexec, refs, hrefs, rs, hrs, hreceipts, -, hnew⟩ := h
  obtain ⟨hbody, hid⟩ := newReceipt_eq_ok hnew
  obtain rfl := loadReceipts_eq_ok hrs
  push Not at hreceipts
  have hcost : args.actualCostUsd.nonneg? = some c := by
    simp only [cost, eq_ok_iff] at hc
    obtain ⟨-, hc⟩ := hc
    split at hc
    · next c' hc' =>
      cases hc
      exact hc'
    · cases hc
  obtain ⟨body, digest⟩ := r
  obtain rfl : body = _ := hbody
  refine ⟨⟨rfl, rfl, rfl, rfl, rfl, rfl, rfl, rfl, rfl, rfl, rfl⟩, rfl, hcost, ?_, ?_, hreceipts, hid⟩
  · intro hne
    by_contra hyes
    exact hexec ⟨hne, Bool.eq_true_of_not_eq_false hyes⟩
  · intro hauth
    rw [recordRefs, if_pos hauth, bind_eq_ok] at hrefs
    obtain ⟨x, hx, -⟩ := hrefs
    exact ⟨x, hx⟩

/-! ### Owner operations -/

variable {summary : String} {resource : List (String × ResourceValue)}

lemma ownerReceipt_eq_ok {r : Receipt}
    (h : ownerReceipt H m s now tokens actorId ownerDirectiveId summary resource = .ok r) :
    r.requestId = tokens.requestId ∧ r.authorizedBy.type = .ownerDirective ∧
      ∀ r' ∈ s.receipts.rows, r'.receiptId ≠ r.receiptId := by
  obtain ⟨hbody, hid⟩ := newReceipt_eq_ok h
  obtain ⟨body, digest⟩ := r
  obtain rfl : body = _ := hbody
  exact ⟨rfl, rfl, hid⟩

variable {value : RawGrant} {ownerActorId : String} {g : Grant}

lemma activationChecks_eq_ok (h : activationChecks H m s now value ownerActorId = .ok g) :
    assertNarrowerThanParent H m s now g = .ok () ∧
      ∀ g' ∈ s.grants.rows, g'.grantId ≠ g.grantId := by
  simp only [activationChecks, createOnly, eq_ok_iff] at h
  obtain ⟨g', -, -, -, -, hparent, hnew, rfl⟩ := h
  rw [Bool.not_eq_true, Table.contains_eq_false_iff] at hnew
  exact ⟨hparent, hnew⟩

/-- A child is activated below an active parent. -/
lemma assertNarrowerThanParent_eq_ok {x : Unit}
    (h : assertNarrowerThanParent H m s now g = .ok x) :
    ∀ parentId ∈ g.parentGrantId, ∃ parent, loadGrant H m s parentId = .ok parent ∧
      grantStatus H m s now parent = .ok .active := by
  intro parentId hparent
  rw [Option.mem_def] at hparent
  simp only [assertNarrowerThanParent, hparent, assertChildIsNarrower, eq_ok_iff] at h
  obtain ⟨parent, hload, -, status, hstatus, hactive, -⟩ := h
  rw [not_not] at hactive
  subst hactive
  exact ⟨parent, hload, hstatus⟩

/-! ### What an event does to the store -/

/-- A change outside grants, reservations, claims and receipts that withdraws no revocation. -/
structure Quiet (s s' : Store) : Prop where
  grants : s'.grants = s.grants
  revocations : s.revocations.rows ⊆ s'.revocations.rows
  reservations : s'.reservations = s.reservations
  claims : s'.claims = s.claims
  receipts : s'.receipts = s.receipts

/-- The writes that make such a change. -/
def Write.IsQuiet : Write → Prop
  | .revocation _ | .attention _ | .clearAttention _ _ | .control _ | .closure _ => True
  | .grant _ | .reservation _ | .claim _ | .receipt _ => False

lemma quiet_apply {w : Write} (hw : w.IsQuiet) : Quiet s (s.apply w) := by
  cases w with
  | revocation r => exact ⟨rfl, fun _ h => Table.mem_insert_of_mem r h, rfl, rfl, rfl⟩
  | attention a | clearAttention operation targetId | control c
  | closure c => exact ⟨rfl, Subset.refl _, rfl, rfl, rfl⟩
  | grant g | reservation v | claim c | receipt r => exact hw.elim

lemma quiet_foldl {ws : List Write} (hws : ∀ w ∈ ws, w.IsQuiet) :
    Quiet s (ws.foldl Store.apply s) := by
  induction ws generalizing s with
  | nil => exact ⟨rfl, Subset.refl _, rfl, rfl, rfl⟩
  | cons w ws ih =>
    have h₁ : Quiet s (s.apply w) := quiet_apply (hws w mem_cons_self)
    have h₂ := ih (s := s.apply w) fun w hw => hws w (mem_cons_of_mem _ hw)
    rw [foldl_cons]
    exact ⟨h₂.grants.trans h₁.grants, Subset.trans h₁.revocations h₂.revocations,
      h₂.reservations.trans h₁.reservations, h₂.claims.trans h₁.claims,
      h₂.receipts.trans h₁.receipts⟩

/-- What an owner draws for the request id of the receipt. -/
def Op.ownerTokens : Op → Option OwnerTokens
  | .activateGrant tokens _ _ => some tokens
  | .setPaused tokens _ _ _ _ _ => some tokens
  | .revokeGrant tokens _ _ _ _ _ => some tokens
  | _ => none

variable (H e) in
/-- The effect of an owner's operation: reservations and claims stay, and at most one grant that
passed its checks and one receipt of the owner are added. -/
structure OwnerChange (s s' : Store) : Prop where
  grants : s'.grants = s.grants ∨ ∃ value ownerActorId g,
    activationChecks H e.manager s e.now value ownerActorId = .ok g ∧ s'.grants = s.grants.insert g
  revocations : s.revocations.rows ⊆ s'.revocations.rows
  reservations : s'.reservations = s.reservations
  claims : s'.claims = s.claims
  receipts : s'.receipts = s.receipts ∨ ∃ tokens ∈ e.op.ownerTokens, ∃ r : Receipt,
    r.requestId = tokens.requestId ∧ r.authorizedBy.type = .ownerDirective ∧
      (∀ r' ∈ s.receipts.rows, r'.receiptId ≠ r.receiptId) ∧ s'.receipts = s.receipts.insert r

inductive Effect (H : Body → String) (s : Store) (e : Event) : Store → Prop
  | reserved {d : Decision} {v : Reservation} (hop : e.op = .reserve d)
      (h : reserveEvaluated H e.manager s e.now d = .ok v) :
      Effect H s e { s with reservations := s.reservations.insert v }
  | claimed {d : Decision} {v : Reservation} {c : Claim} (hop : e.op = .claim d)
      (h : claimReserved H e.manager s e.now d = .ok (v, c)) :
      Effect H s e { s with claims := s.claims.insert c }
  | recorded {token : String} {d : Decision} {args : RecordArgs} {r : Receipt}
      (hop : e.op = .record token d args) (h : recordAction H s e.now token d args = .ok r) :
      Effect H s e { s with receipts := s.receipts.insert r }
  | owner {s' : Store} (h : OwnerChange H e s s') : Effect H s e s'

lemma ownerChange_of_quiet (h : Quiet s s') : OwnerChange H e s s' :=
  ⟨.inl h.grants, h.revocations, h.reservations, h.claims, .inl h.receipts⟩

lemma ownerChange_refl (e : Event) (s : Store) : OwnerChange H e s s :=
  ownerChange_of_quiet ⟨rfl, Subset.refl _, rfl, rfl, rfl⟩

variable (n : ℕ)

/-- The writes of an owner's operation that reach the disk: some of those before the receipt, or all
of them, the receipt and some of those after it. -/
lemma take_withReceipt {α : Type} (before : List Write) (receipt : Except AuthorityError Receipt)
    (after : List Write) (value : Receipt → α) (n : ℕ) :
    (∃ k, (Outcome.withReceipt before receipt after value).writes.take n = before.take k) ∨
      ∃ r k, receipt = .ok r ∧ (Outcome.withReceipt before receipt after value).writes.take n =
        before ++ .receipt r :: after.take k := by
  cases receipt with
  | error e => exact .inl ⟨n, rfl⟩
  | ok r =>
    rcases Nat.lt_or_ge before.length n with hn | hn
    · right
      obtain ⟨k, rfl⟩ : ∃ k, n = before.length + (k + 1) := ⟨n - before.length - 1, by omega⟩
      refine ⟨r, k, rfl, ?_⟩
      change (before ++ .receipt r :: after).take _ = _
      rw [take_length_add_append, take_succ_cons]
    · left
      refine ⟨n, ?_⟩
      change (before ++ .receipt r :: after).take _ = _
      rw [take_append_of_le_length hn]

section

variable (htokens : tokens ∈ e.op.ownerTokens)
include htokens

/-- Pausing and revoking: the writes beside the receipt are quiet. -/
lemma ownerChange_withReceipt {α : Type} {before after : List Write} {value : Receipt → α}
    (hbefore : ∀ w ∈ before, w.IsQuiet)
    (hafter : ∀ w ∈ after, w.IsQuiet) (n : ℕ) :
    OwnerChange H e s (((Outcome.withReceipt before
      (ownerReceipt H m s now tokens actorId ownerDirectiveId summary resource)
      after value).writes.take n).foldl Store.apply s) := by
  obtain ⟨k, hk⟩ | ⟨r, k, hr, hk⟩ := take_withReceipt before
    (ownerReceipt H m s now tokens actorId ownerDirectiveId summary resource) after value n
  · rw [hk]
    exact ownerChange_of_quiet (quiet_foldl fun w hw => hbefore w (mem_of_mem_take hw))
  · rw [hk, foldl_append, foldl_cons]
    obtain ⟨hreq, htype, hid⟩ := ownerReceipt_eq_ok hr
    have h₁ : Quiet s (before.foldl Store.apply s) := quiet_foldl hbefore
    have h₂ := quiet_foldl (s := (before.foldl Store.apply s).apply (.receipt r))
      fun w (hw : w ∈ after.take k) => hafter w (mem_of_mem_take hw)
    refine ⟨.inl (h₂.grants.trans h₁.grants), Subset.trans h₁.revocations h₂.revocations,
      h₂.reservations.trans h₁.reservations, h₂.claims.trans h₁.claims, .inr ?_⟩
    refine ⟨tokens, htokens, r, hreq, htype, hid, ?_⟩
    rw [h₂.receipts, ← h₁.receipts]
    rfl

lemma ownerChange_activateGrant (n : ℕ) :
    OwnerChange H e s (((activateGrant H e.manager s e.now tokens value ownerActorId).writes.take
      n).foldl Store.apply s) := by
  unfold activateGrant
  split
  · rw [take_nil]
    exact ownerChange_refl e s
  · next g hg =>
    obtain ⟨k, hk⟩ | ⟨r, k, hr, hk⟩ := take_withReceipt [.grant g]
      (ownerReceipt H e.manager s e.now tokens ownerActorId g.ownerDirectiveId
        "Owner-authorized standing authority grant was activated"
        [("grantId", .text g.grantId), ("grantDigest", .text g.grantDigest)]) []
      (fun r => (g, r)) n
    · rw [hk]
      cases k with
      | zero => exact ownerChange_refl e s
      | succ k =>
        rw [take_succ_cons, take_nil]
        exact ⟨.inr ⟨value, ownerActorId, g, hg, rfl⟩, Subset.refl _, rfl, rfl, .inl rfl⟩
    · rw [hk, take_nil]
      obtain ⟨hreq, htype, hid⟩ := ownerReceipt_eq_ok hr
      exact ⟨.inr ⟨value, ownerActorId, g, hg, rfl⟩, Subset.refl _, rfl, rfl,
        .inr ⟨tokens, htokens, r, hreq, htype, hid, rfl⟩⟩

lemma ownerChange_setPaused {paused : Bool}
    {reason : String} {expected : Option String} (n : ℕ) :
    OwnerChange H e s (((setPaused H m s now tokens paused actorId ownerDirectiveId reason
      expected).writes.take n).foldl Store.apply s) := by
  unfold setPaused
  split
  · rw [take_nil]
    exact ownerChange_refl e s
  · exact ownerChange_withReceipt htokens (by simp [Write.IsQuiet]) (by simp [Write.IsQuiet]) n

lemma ownerChange_revokeGrant (m : Manager) (now : ℕ)
    (grantId actorId ownerDirectiveId reason : String) (expected : Option String) (n : ℕ) :
    OwnerChange H e s (((revokeGrant H m s now tokens grantId actorId ownerDirectiveId reason
      expected).writes.take n).foldl Store.apply s) := by
  unfold revokeGrant
  split
  · rw [take_nil]
    exact ownerChange_refl e s
  · split
    · exact ownerChange_withReceipt htokens (by simp [Write.IsQuiet]) (by simp [Write.IsQuiet]) n
    · exact ownerChange_withReceipt htokens (by simp [Write.IsQuiet]) (by simp [Write.IsQuiet]) n

end

lemma isQuiet_of_mem_closeScope {kind : ClosureKind} {scopeId : String} {w : Write}
    (hw : w ∈ (closeScope H s now kind scopeId actorId).writes) : w.IsQuiet := by
  unfold closeScope at hw
  split at hw
  · simp at hw
  · split at hw
    · simp at hw
    · rw [mem_singleton] at hw
      subst hw
      trivial

/-- The writes of an operation that makes at most one. -/
lemma writes_ofExcept_map {α β : Type} {x : Except AuthorityError α} {f : α → β} {w : α → Write}
    {n : ℕ} (P : List Write → Prop) (hnil : P []) (hone : ∀ a, x = .ok a → P [w a]) :
    P ((Outcome.ofExcept do
      let a ← x
      return (f a, w a)).writes.take n) := by
  cases x with
  | error e =>
    change P (take n [])
    rwa [take_nil]
  | ok a =>
    cases n with
    | zero => exact hnil
    | succ n =>
      change P (take (n + 1) [w a])
      rw [take_succ_cons, take_nil]
      exact hone a rfl

lemma next_effect (s : Store) (e : Event) : Effect H s e (next H s e) := by
  obtain ⟨m, now, op, n⟩ := e
  cases op with
  | evaluate token req =>
    simp only [next, writes, take_nil]
    exact .owner (ownerChange_refl _ _)
  | reserve d =>
    refine writes_ofExcept_map (fun ws => Effect H s _ (ws.foldl Store.apply s))
      (.owner (ownerChange_refl _ _)) ?_
    intro v hv
    exact .reserved rfl hv
  | claim d =>
    refine writes_ofExcept_map (fun ws => Effect H s _ (ws.foldl Store.apply s))
      (.owner (ownerChange_refl _ _)) ?_
    intro x hx
    exact .claimed rfl hx
  | record token d args =>
    refine writes_ofExcept_map (fun ws => Effect H s _ (ws.foldl Store.apply s))
      (.owner (ownerChange_refl _ _)) ?_
    intro r hr
    exact .recorded rfl hr
  | activateGrant tokens value ownerActorId =>
    exact .owner (ownerChange_activateGrant (e := ⟨m, now, _, n⟩) rfl n)
  | setPaused tokens paused actorId ownerDirectiveId reason expected =>
    exact .owner (ownerChange_setPaused (e := ⟨m, now, _, n⟩) rfl n)
  | revokeGrant tokens grantId actorId ownerDirectiveId reason expected =>
    exact .owner (ownerChange_revokeGrant rfl m now _ _ _ _ _ n)
  | closeScope kind scopeId actorId =>
    refine .owner (ownerChange_of_quiet (quiet_foldl fun w hw => ?_))
    exact isQuiet_of_mem_closeScope (mem_of_mem_take hw)

/-! ### A sample repository -/

def sampleDigest (_ : Body) : String :=
  "sha256:0000000000000000000000000000000000000000000000000000000000000000"

def sampleManager : Manager where
  policy :=
    { defaultProfile := .guarded
      actions := ["analyze", "run_tests", "merge"]
      profiles := fun _ => ⟨.askEachTime, ["run_tests"], [], [], []⟩
      hardDeny := []
      mergeRequirements := ["exact_head_verified"]
      subagentDefaultDeny := []
      policyDigest := "sha256:0000000000000000000000000000000000000000000000000000000000000000" }
  identity := ⟨"repository", "/repository", none⟩

/-- A grant of at most 60 seconds an action and 10 USD in all. -/
def sampleGrant (grantId actorId : String) (parentGrantId : Option String) (forbid : List String) :
    RawGrant where
  grantId := grantId
  kind := .standing
  profile := .guarded
  subject := ⟨actorId, if parentGrantId = none then .primary else .subagent⟩
  scope := ⟨sampleManager.identity, none, none, none, none, ["."], none⟩
  allow := []
  requireApproval := []
  forbid := forbid
  customPolicies := []
  limits := ⟨some 2, some 60, some (.finite 10), .denied, [], [], []⟩
  issuedAt := 0
  expiresWhen := .revoked
  expiresAt := none
  ownerDirectiveId := "directive"
  parentGrantId := parentGrantId
  canDelegate := parentGrantId = none
  policyDigest := some sampleManager.policy.policyDigest
  grantDigest := none

def sampleToken : String := String.ofList (replicate 31 '0' ++ [n.digitChar])

def sampleRequest (actorId grantId : String) (cost : ℚ) (duration : ℤ) : Request where
  action := "run_tests"
  actorId := actorId
  grantId := some grantId
  branch := none
  sliceId := none
  applicationId := none
  runId := none
  paths := []
  estimatedCostUsd := .finite cost
  estimatedDurationSeconds := duration
  domains := []
  provider := none
  secretCapabilities := []
  assurances := []
  sourceIdentity := none
  requestId := none

def sampleActivate (value : RawGrant) : Event :=
  ⟨sampleManager, 1, .activateGrant ⟨sampleToken n, sampleToken n⟩ value "owner", 2⟩

section

variable (s)

/-- `reserve_action` without anything between its two locked sections. -/
def sampleReserve (req : Request) : Event :=
  match evaluate sampleDigest sampleManager s 2 (sampleToken n) req with
  | .ok d => ⟨sampleManager, 2, .reserve d, 1⟩
  | .error _ => ⟨sampleManager, 2, .evaluate (sampleToken n) req, 1⟩

/-- `claim_reserved_decision` of the newest reservation. -/
def sampleClaim : Event :=
  match s.reservations.rows.getLast? with
  | some v => ⟨sampleManager, 3, .claim v.decision, 1⟩
  | none => ⟨sampleManager, 3, .evaluate "" (sampleRequest "" "" 0 0), 0⟩

/-- `record_action` of the newest reservation, at its estimated cost. -/
def sampleRecord (status : ActionResult) : Event :=
  match s.reservations.rows.getLast? with
  | some v => ⟨sampleManager, 4, .record (sampleToken n) v.decision ⟨status, "done", none, [],
      .finite v.decision.estimatedCostUsd, none, some v, s.claims.find? v.requestId⟩, 1⟩
  | none => ⟨sampleManager, 4, .evaluate "" (sampleRequest "" "" 0 0), 0⟩

lemma ownerTokens_sampleReserve (req : Request) :
    (sampleReserve s n req).op.ownerTokens = none := by
  unfold sampleReserve
  split <;> rfl

lemma ownerTokens_sampleClaim : (sampleClaim s).op.ownerTokens = none := by
  unfold sampleClaim
  split <;> rfl

lemma ownerTokens_sampleRecord (status : ActionResult) :
    (sampleRecord s n status).op.ownerTokens = none := by
  unfold sampleRecord
  split <;> rfl

end

/-- The grant `grant_root` of the actor `agent`, with the actions `forbid` forbidden. -/
def sampleRoot (forbid : List String) : Store :=
  next sampleDigest Store.empty (sampleActivate 0 (sampleGrant "grant_root" "agent" none forbid))

/-- The grant with a child for the actor `a`. -/
def sampleFamily : Store :=
  next sampleDigest (sampleRoot [])
    (sampleActivate 1 (sampleGrant "grant_a-child" "a" (some "grant_root") []))

/-- One reservation of 4 USD under a child. -/
def sampleReserved : Store :=
  next sampleDigest sampleFamily
    (sampleReserve sampleFamily 3 (sampleRequest "a" "grant_a-child" 4 5))

def sampleClaimed : Store := next sampleDigest sampleReserved (sampleClaim sampleReserved)

def sampleFinished : Store :=
  next sampleDigest sampleClaimed (sampleRecord sampleClaimed 7 .succeeded)

example : (sampleFinished.grants.rows.length, sampleFinished.reservations.rows.length,
    sampleFinished.claims.rows.length, sampleFinished.receipts.rows.length) = (2, 1, 1, 3) := by
  decide +kernel

end StatePort.Authority
