import StatePort.Jobs.Queue

/-!
# Lease safety of the job queue

A call inserts one job, leases one job, or rewrites one live job without giving it a new token
(`next_effect`). `World` adds to the queue the log of the claims that leased a job. A stored lease
token is the token of the last claim of its job (`Fenced`), which makes the tokens fences: a holder
whose job was claimed again can no longer act on it (`lease_safety`).
-/

namespace StatePort.Jobs

open List Prod

variable {sha256 : String → String} {q q' : Queue} {jobId leaseToken : String} {r : Job} {now : ℕ}
  {rec : JobRecord} {c : Call}

/-! ### The table -/

lemma mem_update {f : Job → Job} (hf : ∀ r, (f r).toJobIdentity = r.toJobIdentity) {b : Job} :
    b ∈ (q.update jobId f hf).jobs.rows ↔
      ∃ r ∈ q.jobs.rows, (if r.jobId = jobId then f r else r) = b := by
  simp only [Queue.update, Table.update, mem_map]
  exact Iff.rfl

lemma mem_of_insert_eq_some (h : q.insert r = some q') {b : Job} :
    b ∈ q'.jobs.rows ↔ b ∈ q.jobs.rows ∨ b = r := by
  unfold Queue.insert at h
  split_ifs at h with hnew
  cases h
  exact Table.mem_insert fun b hb hk => hnew.1 (mem_map.mpr ⟨b, hb, hk⟩)

lemma eq_of_jobId_eq {r' : Job} (hr : r ∈ q.jobs.rows) (hr' : r' ∈ q.jobs.rows)
    (h : r.jobId = r'.jobId) : r = r' :=
  q.jobs.eq_of_key_eq hr hr' h

lemma eq_of_idempotencyKey_eq {r' : Job} (hr : r ∈ q.jobs.rows) (hr' : r' ∈ q.jobs.rows)
    (h : r.idempotencyKey = r'.idempotencyKey) : r = r' :=
  inj_on_of_nodup_map q.keys_nodup hr hr' h

/-! ### What a call does -/

lemma requiredString_eq_ok {value field s : String} :
    requiredString value field = .ok s ↔ Str.strip value ≠ "" ∧ Str.strip value = s := by
  simp only [requiredString, bind_eq_ok, raiseIf_eq_ok, pure_eq_ok]
  simp

lemma liveRow_eq_ok :
    liveRow q jobId = .ok r ↔ r ∈ q.jobs.rows ∧ r.jobId = jobId ∧ r.status.terminal = false := by
  unfold liveRow
  split
  · next h =>
    have := q.jobs.find?_eq_none_iff.mp h
    simp only [reduceCtorEq, false_iff]
    rintro ⟨hr, hid, -⟩
    exact this r hr hid
  · next row h =>
    obtain ⟨hrow, hid⟩ := q.jobs.find?_eq_some_iff.mp h
    simp only [bind_eq_ok, raiseIf_eq_ok, pure_eq_ok, exists_const, Bool.not_eq_true]
    constructor
    · rintro ⟨hlive, rfl⟩
      exact ⟨hrow, hid, hlive⟩
    · rintro ⟨hr, hid', hlive⟩
      obtain rfl := eq_of_jobId_eq hr hrow (hid'.trans hid.symm)
      exact ⟨hlive, rfl⟩

/-- The row that a lease holder may rewrite: leased under its token and not expired. -/
lemma leasedForUpdate_eq_ok :
    leasedForUpdate q jobId leaseToken now = .ok r ↔
      r ∈ q.jobs.rows ∧ r.jobId = jobId ∧ r.status = .leased ∧ r.leaseToken = some leaseToken ∧
        ∃ expires ∈ r.leaseExpiresAt, now < expires := by
  simp only [leasedForUpdate, bind_eq_ok, raiseIf_eq_ok, pure_eq_ok, exists_const, not_not,
    liveRow_eq_ok]
  constructor
  · rintro ⟨r, ⟨hr, hid, -⟩, hleased, htoken, hexp, rfl⟩
    exact ⟨hr, hid, hleased, htoken, hexp⟩
  · rintro ⟨hr, hid, hleased, htoken, hexp⟩
    exact ⟨r, ⟨hr, hid, by rw [hleased]; rfl⟩, hleased, htoken, hexp, rfl⟩

/-- A claim that leased a job. -/
structure Claim where
  (jobId token : String)
deriving DecidableEq

/-- The claim that a call makes, if it is one that leases a job. -/
def claimOf (sha256 : String → String) (q : Queue) (c : Call) : List Claim :=
  match c, perform sha256 q c with
  | .claim _ _ _ token, .ok (some r, _) => [⟨r.jobId, token⟩]
  | _, _ => []

/-- What one call does to the table, and the claim that it makes. -/
inductive Effect (q : Queue) : Call → List Claim → Queue → Prop where
  | unchanged (c : Call) : Effect q c [] q
  | inserted {c : Call} {r : Job} {q' : Queue} (htoken : r.leaseToken = none)
      (hq' : q.insert r = some q') : Effect q c [] q'
  | leased {workerId : String} {leaseSeconds : Number} {now : ℕ} {token : String} {r : Job}
      {owner : String} {expires : ℕ} (hr : r ∈ q.jobs.rows) (hlive : r.status.terminal = false) :
      Effect q (.claim workerId leaseSeconds now token) [⟨r.jobId, token⟩]
        (q.update r.jobId (Job.setLeased now owner token expires) fun _ => rfl)
  | rewritten {c : Call} {r : Job} {f : Job → Job}
      (hf : ∀ r, (f r).toJobIdentity = r.toJobIdentity) (hr : r ∈ q.jobs.rows)
      (hlive : r.status.terminal = false)
      (htoken : (f r).leaseToken = r.leaseToken ∨ (f r).leaseToken = none) :
      Effect q c [] (q.update r.jobId f hf)

lemma terminal_eq_false_of_claimable (h : r.claimable now) : r.status.terminal = false := by
  unfold Job.claimable at h
  cases hs : r.status <;> simp_all [Status.terminal]

lemma enqueue_effect {key : String} {payload : Mapping} {jobId : Option String}
    {generated : String} (c : Call)
    (h : enqueue sha256 q key payload jobId generated now = .ok (rec, q')) :
    Effect q c [] q' := by
  simp only [enqueue, bind_eq_ok] at h
  obtain ⟨key', -, json, -, version, -, requested, -, h⟩ := h
  split at h
  · simp only [bind_eq_ok, pure_eq_ok, mk.injEq] at h
    obtain ⟨-, -, -, -, -, rfl⟩ := h
    exact .unchanged _
  · split at h
    · next hins =>
      simp only [pure_eq_ok, mk.injEq] at h
      obtain ⟨-, rfl⟩ := h
      exact .inserted rfl hins
    · cases h

lemma claim_effect {workerId : String} {leaseSeconds : Number} {token : String}
    {rec : Option JobRecord} (h : claim q workerId leaseSeconds now token = .ok (rec, q')) :
    Effect q (.claim workerId leaseSeconds now token)
      (rec.toList.map fun r => ⟨r.jobId, token⟩) q' := by
  simp only [claim, bind_eq_ok] at h
  obtain ⟨owner, -, duration, -, expires, -, h⟩ := h
  split at h
  · simp only [pure_eq_ok, mk.injEq] at h
    obtain ⟨rfl, rfl⟩ := h
    exact .unchanged _
  · next candidate hfind =>
    simp only [pure_eq_ok, mk.injEq] at h
    obtain ⟨rfl, rfl⟩ := h
    exact .leased (r := candidate) (mem_of_find?_eq_some hfind)
      (terminal_eq_false_of_claimable (find?_some hfind))

lemma cancel_effect {reason : String} (c : Call) (h : cancel q jobId reason now = .ok (rec, q')) :
    Effect q c [] q' := by
  simp only [cancel, bind_eq_ok, liveRow_eq_ok, pure_eq_ok, mk.injEq] at h
  obtain ⟨id, -, r, ⟨hr, rfl, hlive⟩, -, rfl⟩ := h
  exact .rewritten _ hr hlive (.inr rfl)

/-- The job and the token that a call of a lease holder presents. -/
def Call.lease? : Call → Option (String × String)
  | .heartbeat jobId leaseToken _ _ => some (jobId, leaseToken)
  | .complete jobId leaseToken _ _ => some (jobId, leaseToken)
  | .fail jobId leaseToken _ _ => some (jobId, leaseToken)
  | .requeue jobId leaseToken _ _ => some (jobId, leaseToken)
  | _ => none

/-- A lease holder's call rewrites the row that is leased under its token. -/
lemma leased_of_perform {rec : Option JobRecord} (hc : c.lease? = some (jobId, leaseToken))
    (h : perform sha256 q c = .ok (rec, q')) :
    ∃ r ∈ q.jobs.rows, r.jobId = Str.strip jobId ∧ r.status = .leased ∧
      r.leaseToken = some (Str.strip leaseToken) ∧
      ∃ (f : Job → Job) (hf : ∀ r, (f r).toJobIdentity = r.toJobIdentity),
        ((f r).leaseToken = r.leaseToken ∨ (f r).leaseToken = none) ∧
          q' = q.update (Str.strip jobId) f hf := by
  cases c with
  | enqueue _ _ _ _ _ => cases hc
  | claim _ _ _ _ => cases hc
  | cancel _ _ _ => cases hc
  | heartbeat _ _ leaseSeconds now =>
    cases hc
    simp only [perform, heartbeat, bind_eq_ok, leasedForUpdate_eq_ok, requiredString_eq_ok,
      pure_eq_ok, mk.injEq] at h
    obtain ⟨⟨_, _⟩, ⟨id, ⟨-, rfl⟩, credential, ⟨-, rfl⟩, -, -, expires, -, r,
      ⟨hr, hid, hleased, ht, -⟩, -, rfl⟩, -, rfl⟩ := h
    exact ⟨r, hr, hid, hleased, ht, Job.setExpiry now expires, fun _ => rfl, .inl rfl, rfl⟩
  | complete _ _ _ now | fail _ _ _ now =>
    cases hc
    simp only [perform, complete, fail, finish, bind_eq_ok, leasedForUpdate_eq_ok,
      requiredString_eq_ok, pure_eq_ok, mk.injEq] at h
    obtain ⟨⟨_, _⟩, ⟨id, ⟨-, rfl⟩, credential, ⟨-, rfl⟩, -, -, _, -, _, -, r,
      ⟨hr, hid, hleased, ht, -⟩, -, rfl⟩, -, rfl⟩ := h
    exact ⟨r, hr, hid, hleased, ht, Job.setUnleased _ _ _ _, fun _ => rfl, .inr rfl, rfl⟩
  | requeue _ _ reason now =>
    cases hc
    simp only [perform, requeue, bind_eq_ok, leasedForUpdate_eq_ok, requiredString_eq_ok,
      pure_eq_ok, mk.injEq] at h
    obtain ⟨⟨_, _⟩, ⟨id, ⟨-, rfl⟩, credential, ⟨-, rfl⟩, r, ⟨hr, hid, hleased, ht, -⟩, -, rfl⟩,
      -, rfl⟩ := h
    exact ⟨r, hr, hid, hleased, ht, Job.setUnleased _ _ _ _, fun _ => rfl, .inr rfl, rfl⟩

lemma perform_effect {rec : Option JobRecord} (h : perform sha256 q c = .ok (rec, q')) :
    Effect q c (claimOf sha256 q c) q' := by
  unfold claimOf
  rw [h]
  cases hlease : c.lease? with
  | some lease =>
    obtain ⟨r, hr, hid, hleased, -, f, hf, htoken, rfl⟩ := leased_of_perform hlease h
    rw [← hid]
    have hrewritten : Effect q c [] (q.update r.jobId f hf) :=
      .rewritten hf hr (by rw [hleased]; rfl) htoken
    cases c with
    | claim => cases hlease
    | _ => exact hrewritten
  | none =>
    cases c with
    | claim workerId leaseSeconds now token =>
      have := claim_effect h
      cases rec <;> exact this
    | enqueue key payload jobId generated now =>
      simp only [perform, bind_eq_ok, pure_eq_ok, mk.injEq] at h
      obtain ⟨⟨r, q''⟩, h, -, rfl⟩ := h
      exact enqueue_effect _ h
    | cancel jobId reason now =>
      simp only [perform, bind_eq_ok, pure_eq_ok, mk.injEq] at h
      obtain ⟨⟨r, q''⟩, h, -, rfl⟩ := h
      exact cancel_effect _ h
    | _ => cases hlease

lemma next_effect (q : Queue) (c : Call) : Effect q c (claimOf sha256 q c) (next sha256 q c) := by
  unfold next
  cases h : perform sha256 q c with
  | ok x => exact perform_effect h
  | error e =>
    have hclaim : claimOf sha256 q c = [] := by
      unfold claimOf
      rw [h]
      cases c <;> rfl
    rw [hclaim]
    exact .unchanged _

/-! ### Jobs are never lost, and terminal jobs never change -/

/-- After a call every job is there with its identity, and unchanged if it was terminal. -/
lemma exists_mem_of_effect {claims : List Claim} (he : Effect q c claims q')
    (hr : r ∈ q.jobs.rows) :
    ∃ r' ∈ q'.jobs.rows, r'.toJobIdentity = r.toJobIdentity ∧ (r.status.terminal → r' = r) := by
  -- A rewriting hits one live row and keeps identities.
  have hupdate {r₀ : Job} {f : Job → Job} (hf : ∀ r, (f r).toJobIdentity = r.toJobIdentity)
      (hr₀ : r₀ ∈ q.jobs.rows) (hlive : r₀.status.terminal = false) :
      ∃ r' ∈ (q.update r₀.jobId f hf).jobs.rows, r'.toJobIdentity = r.toJobIdentity ∧
        (r.status.terminal → r' = r) := by
    by_cases hid : r.jobId = r₀.jobId
    · refine ⟨f r, (mem_update hf).mpr ⟨r, hr, if_pos hid⟩, hf r, ?_⟩
      intro hterminal
      rw [eq_of_jobId_eq hr hr₀ hid, hlive] at hterminal
      cases hterminal
    · exact ⟨r, (mem_update hf).mpr ⟨r, hr, if_neg hid⟩, rfl, fun _ => rfl⟩
  cases he with
  | unchanged => exact ⟨r, hr, rfl, fun _ => rfl⟩
  | inserted _ hq' => exact ⟨r, (mem_of_insert_eq_some hq').mpr (.inl hr), rfl, fun _ => rfl⟩
  | leased hr₀ hlive => exact hupdate (f := Job.setLeased _ _ _ _) (fun _ => rfl) hr₀ hlive
  | rewritten hf hr₀ hlive => exact hupdate hf hr₀ hlive

/-- In every later state a job is there with its identity, and unchanged if it was terminal. -/
lemma exists_mem_of_run (h : Run (next sha256) anyEvent q q') (hr : r ∈ q.jobs.rows) :
    ∃ r' ∈ q'.jobs.rows, r'.toJobIdentity = r.toJobIdentity ∧ (r.status.terminal → r' = r) := by
  refine h.invariant (I := fun q => ∃ r' ∈ q.jobs.rows, r'.toJobIdentity = r.toJobIdentity ∧
    (r.status.terminal → r' = r)) ?_ ⟨r, hr, rfl, fun _ => rfl⟩
  rintro q c ⟨r', hr', hid, hsame⟩ -
  obtain ⟨r'', hr'', hid', hsame'⟩ := exists_mem_of_effect (next_effect q c) hr'
  refine ⟨r'', hr'', hid'.trans hid, ?_⟩
  intro hterminal
  have heq := hsame hterminal
  rw [← heq]
  exact hsame' (heq ▸ hterminal)

/-! ### Fencing -/

/-- The queue with the log of its claims, oldest first. -/
structure World where
  queue : Queue
  claims : List Claim

def World.init : World := ⟨Queue.empty, []⟩

def World.next (sha256 : String → String) (w : World) (c : Call) : World :=
  ⟨Jobs.next sha256 w.queue c, w.claims ++ claimOf sha256 w.queue c⟩

/-- The alphabet of `secrets.token_urlsafe`. -/
def urlsafe (token : String) : Bool :=
  token.toList.all fun c => c.isAlphanum || c = '-' || c = '_'

/-- `secrets.token_urlsafe` draws, for each claim, a token that no earlier claim has. -/
def FreshTokens (w : World) : Call → Prop
  | .claim _ _ _ token => urlsafe token ∧ ∀ k ∈ w.claims, k.token ≠ token
  | _ => True

/-- Tokens are drawn once, and a stored lease token is that of the last claim of its job. -/
structure Fenced (w : World) : Prop where
  urlsafe : ∀ k ∈ w.claims, urlsafe k.token
  nodup : (w.claims.map Claim.token).Nodup
  last : ∀ r ∈ w.queue.jobs.rows, ∀ token ∈ r.leaseToken, ∃ before after,
    w.claims = before ++ ⟨r.jobId, token⟩ :: after ∧ ∀ k ∈ after, k.jobId ≠ r.jobId

lemma fenced_init : Fenced World.init where
  urlsafe := by simp [World.init]
  nodup := nodup_nil
  last := by simp [World.init, Queue.empty]

lemma fenced_next {w : World} (hw : Fenced w) (hc : FreshTokens w c) :
    Fenced (w.next sha256 c) := by
  have he : Effect w.queue c (claimOf sha256 w.queue c) (Jobs.next sha256 w.queue c) :=
    next_effect w.queue c
  unfold World.next
  generalize claimOf sha256 w.queue c = claims, Jobs.next sha256 w.queue c = q' at he
  -- A call that makes no claim leaves the log alone and gives no row a new token.
  have hquiet (hlast : ∀ r ∈ q'.jobs.rows, ∀ token ∈ r.leaseToken,
      ∃ r' ∈ w.queue.jobs.rows, r'.jobId = r.jobId ∧ token ∈ r'.leaseToken) :
      Fenced ⟨q', w.claims ++ []⟩ := by
    rw [append_nil]
    refine ⟨hw.urlsafe, hw.nodup, ?_⟩
    intro r hr token htoken
    obtain ⟨r', hr', hid, htoken'⟩ := hlast r hr token htoken
    exact hid ▸ hw.last r' hr' token htoken'
  cases he with
  | unchanged =>
    refine hquiet ?_
    intro r hr token htoken
    exact ⟨r, hr, rfl, htoken⟩
  | inserted hnone hq' =>
    refine hquiet ?_
    intro r hr token htoken
    rcases (mem_of_insert_eq_some hq').mp hr with hr | rfl
    · exact ⟨r, hr, rfl, htoken⟩
    · simp [hnone] at htoken
  | rewritten hf hr₀ _ htoken₀ =>
    refine hquiet ?_
    intro r hr token htoken
    obtain ⟨r', hr', rfl⟩ := (mem_update hf).mp hr
    split_ifs at htoken with hid
    · obtain rfl := eq_of_jobId_eq hr' hr₀ hid
      rw [if_pos rfl]
      rcases htoken₀ with h | h
      · exact ⟨r', hr', (congrArg JobIdentity.jobId (hf r')).symm, h ▸ htoken⟩
      · simp [h] at htoken
    · rw [if_neg hid]
      exact ⟨r', hr', rfl, htoken⟩
  | @leased _ _ _ token r₀ _ _ hr₀ _ =>
    obtain ⟨hsafe, hfresh⟩ := hc
    refine ⟨?_, ?_, ?_⟩
    · intro k hk
      rcases mem_append.mp hk with hk | hk
      · exact hw.urlsafe k hk
      · rw [mem_singleton.mp hk]
        exact hsafe
    · rw [map_append, nodup_append]
      refine ⟨hw.nodup, by simp, ?_⟩
      rintro a ha b hb rfl
      obtain ⟨k, hk, rfl⟩ := mem_map.mp ha
      exact hfresh k hk (by simpa using hb)
    · intro r hr token' htoken'
      obtain ⟨r', hr', rfl⟩ := (mem_update (f := Job.setLeased _ _ token _) fun _ => rfl).mp hr
      split_ifs at htoken' with hid
      · -- The claimed row: the claim just logged is its last one.
        rw [if_pos hid]
        cases htoken'
        refine ⟨w.claims, [], ?_, by simp⟩
        rw [← hid]
        rfl
      · rw [if_neg hid]
        obtain ⟨before, after, heq, hafter⟩ := hw.last r' hr' token' htoken'
        refine ⟨before, after ++ [⟨r₀.jobId, token⟩], by simp [heq], ?_⟩
        intro k hk
        rcases mem_append.mp hk with hk | hk
        · exact hafter k hk
        · rw [mem_singleton.mp hk]
          exact fun h => hid h.symm

lemma strip_of_urlsafe {token : String} (h : urlsafe token) : Str.strip token = token := by
  refine Str.strip_eq_self ?_
  intro c hc
  have hc' := all_eq_true.mp h c hc
  simp only [Bool.or_eq_true, decide_eq_true_eq] at hc'
  rcases hc' with (halnum | rfl) | rfl
  · exact Str.isSpace_of_isAlphanum halnum
  · rfl
  · rfl

/-- A call that presents the token of a logged claim fails once the claim's job is claimed again. -/
lemma perform_eq_error_of_later_claim {w : World} (hw : Fenced w) {before after : List Claim}
    {k k' : Claim} (hclaims : w.claims = before ++ k :: after) (hk' : k' ∈ after)
    (hjob : k'.jobId = k.jobId) (hc : c.lease? = some (jobId, k.token)) :
    ∃ e, perform sha256 w.queue c = .error e := by
  cases h : perform sha256 w.queue c with
  | error e => exact ⟨e, rfl⟩
  | ok x =>
    exfalso
    have hk : k ∈ w.claims := by simp [hclaims]
    obtain ⟨r, hr, -, -, htoken, -⟩ := leased_of_perform hc h
    rw [strip_of_urlsafe (hw.urlsafe k hk)] at htoken
    obtain ⟨before', after', hclaims', hlast⟩ := hw.last r hr k.token htoken
    -- Tokens occur once in the log, so the two splittings are at the same claim.
    have hsplit : before.map Claim.token ++ k.token :: after.map Claim.token =
        before'.map Claim.token ++ k.token :: after'.map Claim.token := by
      have := congrArg (List.map Claim.token) (hclaims.symm.trans hclaims')
      simpa using this
    have hnodup := hw.nodup
    rw [hclaims, map_append, map_cons, nodup_append, nodup_cons] at hnodup
    obtain ⟨-, ⟨hnotin, -⟩, hdisj⟩ := hnodup
    have hlen : before.length = before'.length := by
      have hbefore : k.token ∉ before.map Claim.token :=
        fun hmem => hdisj _ hmem _ mem_cons_self rfl
      have := congrArg List.length ((append_cons_inj_of_notMem hbefore hnotin).mp hsplit).1
      simpa using this
    obtain ⟨-, htail⟩ := append_inj (hclaims.symm.trans hclaims') hlen
    obtain ⟨hkr, rfl⟩ := List.cons.inj htail
    exact hlast k' hk' (hjob.trans (congrArg Claim.jobId hkr))

/-- The queue of a world evolves by itself; the log only watches. -/
lemma run_queue {ok : World → Call → Prop} {w w' : World} (h : Run (World.next sha256) ok w w') :
    Run (next sha256) anyEvent w.queue w'.queue := by
  refine h.invariant (I := fun v => Run (next sha256) anyEvent w.queue v.queue) ?_ (Run.refl _)
  intro v c hv _
  exact hv.step trivial

/-- **Lease safety.** In every history in which each claim draws a fresh token, a heartbeat, result
or requeue under the token of a claim fails and changes nothing once the job of that claim has been
claimed again; terminal jobs never change; and an idempotency key belongs to one job, whose identity
and payload never change. -/
theorem lease_safety {w : World} (h : Run (World.next sha256) FreshTokens World.init w) :
    (∀ before k after, w.claims = before ++ k :: after → (∃ k' ∈ after, k'.jobId = k.jobId) →
      ∀ c jobId, c.lease? = some (jobId, k.token) →
        (∃ e, perform sha256 w.queue c = .error e) ∧ next sha256 w.queue c = w.queue) ∧
    (∀ w', Run (World.next sha256) FreshTokens w w' →
      ∀ r ∈ w.queue.jobs.rows, r.status.terminal → r ∈ w'.queue.jobs.rows) ∧
    (∀ r ∈ w.queue.jobs.rows, ∀ r' ∈ w.queue.jobs.rows,
      r.idempotencyKey = r'.idempotencyKey → r = r') ∧
    (∀ w', Run (World.next sha256) FreshTokens w w' → ∀ r ∈ w.queue.jobs.rows,
      ∃ r' ∈ w'.queue.jobs.rows, r'.idempotencyKey = r.idempotencyKey ∧ r'.jobId = r.jobId ∧
        r'.payloadJson = r.payloadJson ∧ r'.payloadDigest = r.payloadDigest) := by
  have hw : Fenced w := h.invariant (fun _ _ hv hc => fenced_next hv hc) fenced_init
  refine ⟨?_, ?_, ?_, ?_⟩
  · rintro before k after hclaims ⟨k', hk', hjob⟩ c jobId hc
    obtain ⟨e, he⟩ := perform_eq_error_of_later_claim hw hclaims hk' hjob hc
    refine ⟨⟨e, he⟩, ?_⟩
    rw [next, he]
    rfl
  · intro w' hrun r hr hterminal
    obtain ⟨r', hr', -, hsame⟩ := exists_mem_of_run (run_queue hrun) hr
    exact hsame hterminal ▸ hr'
  · intro r hr r' hr' hkey
    exact eq_of_idempotencyKey_eq hr hr' hkey
  · intro w' hrun r hr
    obtain ⟨r', hr', hid, -⟩ := exists_mem_of_run (run_queue hrun) hr
    exact ⟨r', hr', congrArg JobIdentity.idempotencyKey hid, congrArg JobIdentity.jobId hid,
      congrArg JobIdentity.payloadJson hid, congrArg JobIdentity.payloadDigest hid⟩

/-- A job leased for a minute, claimed again after its expiry: the first worker's heartbeat fails.
-/
theorem lease_safety_after_expiry :
    let w := [Call.enqueue "key" ⟨.ok "\x7b\x7d", some "v1"⟩ (some "job") "" 0,
      Call.claim "alice" (.finite 60) 0 "t1", Call.claim "bob" (.finite 60) 60000000 "t2"].foldl
        (World.next id) World.init
    w.claims = [⟨"job", "t1"⟩, ⟨"job", "t2"⟩] ∧
      ∃ e, perform id w.queue (.heartbeat "job" "t1" (.finite 60) 60000001) = .error e := by
  intro w
  have hclaims : w.claims = [⟨"job", "t1"⟩, ⟨"job", "t2"⟩] := by decide +kernel
  have hrun : Run (World.next id) FreshTokens World.init w := by
    refine Run.along ⟨trivial, ?_, ?_, trivial⟩
    · exact ⟨rfl, by decide +kernel⟩
    · exact ⟨rfl, by decide +kernel⟩
  refine ⟨hclaims, ?_⟩
  exact ((lease_safety hrun).1 [] ⟨"job", "t1"⟩ [⟨"job", "t2"⟩] hclaims
    ⟨_, mem_singleton.mpr rfl, rfl⟩ _ "job" rfl).1

end StatePort.Jobs
