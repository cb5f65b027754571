import StatePort.Algorithm.Run
import StatePort.SensitiveData.Broker

/-!
# Every use of a secret is granted once

Requests and grants are kept the same way: under an identifier that was drawn, and open until they
are spent (`Kept`). A new token makes a new identifier, so nothing that is spent is opened again.
So are the secrets, which are open until they are revoked.
-/

namespace StatePort.SensitiveData

open Broker Function

variable {token : ℕ → String} {fromIsoFormat : String → Option (ℤ × Option ℤ)} {n m : ℕ}
  {kind id : String} {s : System}

@[simp] lemma entry_eq_ok {α : Type} {found : Option α} {a : α} {e : Raised} :
    entry found e = .ok a ↔ found = some a := by
  cases found <;> simp [entry]

/-! ### Maps of what can be used once -/

variable (token n kind id) in
/-- The identifier was made of one of the first `n` tokens. -/
def Drawn : Prop := ∃ i < n, id = kind ++ token i

lemma Drawn.mono (h : Drawn token n kind id) (hle : n ≤ m) : Drawn token m kind id := by
  obtain ⟨i, hi, hid⟩ := h
  exact ⟨i, hi.trans_le hle, hid⟩

/-- What holds of the new entry and of the others holds of every entry. -/
lemma forall_update {α : Type} {P : String → α → Prop} {map : String → Option α} {a : α}
    (hnew : P id a) (hold : ∀ other b, other ≠ id → map other = some b → P other b)
    (other : String) (b : α) (h : update map id (some a) other = some b) : P other b := by
  by_cases hid : other = id
  · subst hid
    rw [update_self] at h
    exact Option.some.inj h ▸ hnew
  · rw [update_of_ne hid] at h
    exact hold other b hid h

/-- The entries of the map that are open were not spent, and none was spent twice. -/
structure Kept {α : Type} (token : ℕ → String) (kind : String) (IsOpen : α → Prop) (n : ℕ)
    (map : String → Option α) (spent : List String) : Prop where
  known : ∀ id a, map id = some a → Drawn token n kind id ∧ (IsOpen a → id ∉ spent)
  drawn : ∀ id ∈ spent, Drawn token n kind id
  nodup : spent.Nodup

namespace Kept

variable {α : Type} {IsOpen : α → Prop} {map : String → Option α} {spent : List String} {a b : α}
  (h : Kept token kind IsOpen n map spent)
include h

lemma mono (hle : n ≤ m) : Kept token kind IsOpen m map spent where
  known id a hfound := ⟨(h.known id a hfound).1.mono hle, (h.known id a hfound).2⟩
  drawn id hid := (h.drawn id hid).mono hle
  nodup := h.nodup

/-- A new entry has a new identifier. -/
lemma add (hunique : token.Injective) (a : α) :
    Kept token kind IsOpen (n + 1) (update map (kind ++ token n) (some a)) spent := by
  have hmono := h.mono (Nat.le_succ n)
  refine ⟨forall_update ⟨⟨n, Nat.lt_succ_self n, rfl⟩, fun _ hmem => ?_⟩
    fun id b _ => hmono.known id b, hmono.drawn, h.nodup⟩
  obtain ⟨i, hi, hid⟩ := h.drawn _ hmem
  exact hi.ne' (hunique ((String.append_right_inj kind).mp hid))

lemma close (hfound : map id = some a) (hclosed : ¬ IsOpen b) :
    Kept token kind IsOpen n (update map id (some b)) spent :=
  ⟨forall_update ⟨(h.known id a hfound).1, fun hopen => absurd hopen hclosed⟩
    fun id b _ => h.known id b, h.drawn, h.nodup⟩

lemma spend (hfound : map id = some a) (hnew : id ∉ spent) (hclosed : ¬ IsOpen b) :
    Kept token kind IsOpen n (update map id (some b)) (id :: spent) := by
  have hdrawn := (h.known id a hfound).1
  refine ⟨forall_update ⟨hdrawn, fun hopen => absurd hopen hclosed⟩ fun other b hne hother => ?_,
    List.forall_mem_cons.mpr ⟨hdrawn, h.drawn⟩, List.nodup_cons.mpr ⟨hnew, h.nodup⟩⟩
  obtain ⟨hother, hspent⟩ := h.known other b hother
  exact ⟨hother, fun hb => List.not_mem_cons_of_ne_of_not_mem hne (hspent hb)⟩

end Kept

/-! ### Calls -/

variable (fromIsoFormat) in
/-- The grant can be used at this moment. -/
structure Usable (broker : Broker) (id : String)
    (use : Use) (clock : String) (grant : SecretUseGrant) (expired : Bool) : Prop where
  found : broker.grants id = some grant
  available : grant.status = .available
  toUse : grant.toUse = use
  moment : ∃ now expiry, timestamp fromIsoFormat clock = .ok now ∧
    timestamp fromIsoFormat grant.expiresAt = .ok expiry ∧ expired = decide (now ≥ expiry)

variable {broker : Broker} {use : Use}

lemma usable_of_eq_ok {clock : String} {grant : SecretUseGrant}
    {expired : Bool} (h : broker.usable fromIsoFormat id use clock = .ok (grant, expired)) :
    Usable fromIsoFormat broker id use clock grant expired := by
  simp only [usable, refuseIf, eq_ok_iff, entry_eq_ok, Prod.mk.injEq, not_not] at h
  obtain ⟨_, hfound, hstatus, huse, now, hnow, expiry, hexpiry, rfl, rfl⟩ := h
  exact ⟨hfound, hstatus, huse, now, expiry, hnow, hexpiry, rfl⟩

/-- A handler is called only if the grant is usable and the secret is resolved. -/
lemma execute_eq_ok {clock value : String}
    (h : (broker.execute fromIsoFormat id use clock).1 = .ok value) :
    ∃ grant, Usable fromIsoFormat broker id use clock grant false ∧
      broker.resolve grant.referenceId = .ok value := by
  unfold execute at h
  split at h
  next => cases h
  next => cases h
  next grant husable =>
    refine ⟨grant, usable_of_eq_ok husable, ?_⟩
    simp only [valueFor] at h
    split at h
    · cases h
    · exact h

lemma revoke_eq_ok {referenceId : String} {result : SecretMetadata × Broker}
    (h : broker.revoke referenceId = .ok result) :
    ∃ id current, broker.references referenceId = some id ∧ broker.metadata id = some current ∧
      result = ({ current with status := .revoked }, { broker with
        metadata := update broker.metadata current.secretId
          (some { current with status := .revoked }) }) := by
  simp only [revoke, metadataOf, eq_ok_iff, entry_eq_ok] at h
  obtain ⟨current, ⟨id, hreference, hcurrent⟩, rfl⟩ := h
  exact ⟨id, current, hreference, hcurrent, rfl⟩

/-! ### Histories -/

/-- The grant stands for one that was given for the request. -/
structure GivenFor (granted : List (CapabilityRequest × SecretUseGrant))
    (request : CapabilityRequest) (grant : SecretUseGrant) : Prop where
  granted : (request, { grant with status := .available }) ∈ granted
  toUse : request.toUse = grant.toUse
  referenceId : request.referenceId = grant.referenceId

variable (token) in
/-- The secrets of `revoked` are not active, and the references `references` lead to `secretId`. -/
structure Secrets (broker : Broker) (secretId : String) (revoked references : List String) :
    Prop where
  metadata : Kept token "secret." (SecretMetadata.status · = .active) broker.draws broker.metadata
    revoked
  references : Kept token "secretref." (· ≠ secretId) broker.draws broker.references references
  named : ∀ id metadata, broker.metadata id = some metadata → metadata.secretId = id

variable {secretId referenceId : String} {revoked references : List String}

variable (token s secretId revoked references) in
/-- What holds of the maps after every history. -/
structure Sound : Prop where
  requests : Kept token "capreq." (CapabilityRequest.status · = .pending) s.broker.draws
    s.broker.requests (s.granted.map (·.2.requestId))
  grants : Kept token "grant." (SecretUseGrant.status · = .available) s.broker.draws
    s.broker.grants s.handled
  given : ∀ id grant, s.broker.grants id = some grant →
    grant.grantId = id ∧ ∃ request, GivenFor s.granted request grant
  secrets : Secrets token s.broker secretId revoked references

lemma kept_empty {α : Type} {IsOpen : α → Prop} : Kept token kind IsOpen 0 (fun _ => none) [] :=
  ⟨nofun, nofun, List.nodup_nil⟩

lemma sound_initial : Sound token {} secretId [] [] :=
  ⟨kept_empty, kept_empty, nofun, kept_empty, kept_empty, nofun⟩

/-- **Step.** -/
theorem sound_next (hunique : token.Injective) (h : Sound token s secretId revoked references)
    (event : Event) :
    Sound token (next token fromIsoFormat s event) secretId revoked references := by
  cases event with
  | create requirement value =>
    simp only [next]
    cases hcreate : s.broker.create token requirement value with
    | error e => exact h
    | ok result =>
      simp only [create, eq_ok_iff] at hcreate
      obtain ⟨_, -, rfl⟩ := hcreate
      have hle : s.broker.draws ≤ s.broker.draws + 2 := Nat.le_add_right _ 2
      have hsucc := Nat.le_succ s.broker.draws
      exact ⟨h.requests.mono hle, h.grants.mono hle, h.given,
        (h.secrets.metadata.add hunique _).mono (Nat.le_succ _),
        (h.secrets.references.mono hsucc).add hunique _,
        forall_update rfl fun id metadata _ => h.secrets.named id metadata⟩
  | revoke referenceId =>
    simp only [next]
    cases hrevoke : s.broker.revoke referenceId with
    | error e => exact h
    | ok result =>
      obtain ⟨id, current, -, hcurrent, rfl⟩ := revoke_eq_ok hrevoke
      obtain rfl := h.secrets.named id current hcurrent
      exact ⟨h.requests, h.grants, h.given, h.secrets.metadata.close hcurrent (by simp),
        h.secrets.references, forall_update rfl fun id metadata _ => h.secrets.named id metadata⟩
  | request reference use =>
    simp only [next]
    cases hrequest : s.broker.request token reference use with
    | error e => exact h
    | ok result =>
      simp only [request, eq_ok_iff] at hrequest
      obtain ⟨_, -, _, -, rfl⟩ := hrequest
      have hle := Nat.le_succ s.broker.draws
      exact ⟨h.requests.add hunique _, h.grants.mono hle, h.given,
        h.secrets.metadata.mono hle, h.secrets.references.mono hle, h.secrets.named⟩
  | approve requestId expiresAt clock =>
    simp only [next]
    split
    next happrove =>
      simp only [approve, refuseIf, eq_ok_iff, entry_eq_ok, Prod.mk.injEq, not_not] at happrove
      obtain ⟨request, hfound, hpending, _, -, _, -, _, -, -, rfl, rfl⟩ := happrove
      have hnew := (h.requests.known _ _ hfound).2 hpending
      have hle := Nat.le_succ s.broker.draws
      refine ⟨(h.requests.spend hfound hnew (by simp)).mono hle,
        h.grants.add hunique _,
        forall_update ⟨rfl, request, List.mem_cons_self, rfl, rfl⟩ fun id grant _ hgrant => ?_,
        h.secrets.metadata.mono hle, h.secrets.references.mono hle, h.secrets.named⟩
      obtain ⟨hid, other, hgiven⟩ := h.given id grant hgrant
      exact ⟨hid, other, List.mem_cons_of_mem _ hgiven.granted, hgiven.toUse, hgiven.referenceId⟩
    next => exact h
  | execute grantId use clock =>
    simp only [next, execute]
    cases husable : s.broker.usable fromIsoFormat grantId use clock with
    | error e => exact h
    | ok found =>
      obtain ⟨grant, expired⟩ := found
      obtain ⟨hfound, hopen, -⟩ := usable_of_eq_ok husable
      obtain ⟨hid, request, hgiven⟩ := h.given grantId grant hfound
      have hkept : ∀ status, status ≠ .available →
          Sound token { s with broker := s.broker.setGrant grantId grant status } secretId revoked
            references := fun _ hclosed =>
        ⟨h.requests, h.grants.close hfound hclosed,
          forall_update ⟨hid, request, hgiven.1, hgiven.2, hgiven.3⟩ fun id other _ =>
            h.given id other, h.secrets.metadata, h.secrets.references, h.secrets.named⟩
      cases expired with
      | true => exact hkept .expired nofun
      | false =>
        have hconsumed := hkept .consumed nofun
        cases hvalue : s.broker.valueFor grant.referenceId with
        | error e => simpa only [hvalue] using hconsumed
        | ok value =>
          simp only [hvalue]
          have hnew := (h.grants.known _ _ hfound).2 hopen
          exact ⟨h.requests, h.grants.spend hfound hnew (by simp), hconsumed.given,
            hconsumed.secrets⟩

/-- A revocation adds its secret to those that are revoked. -/
lemma Sound.revoke {result : SecretMetadata × Broker} (hunique : token.Injective)
    (h : ∀ secretId, Sound token s secretId [] [])
    (hrevoke : s.broker.revoke referenceId = .ok result) :
    ∃ secretId, Sound token (next token fromIsoFormat s (.revoke referenceId)) secretId [secretId]
      [referenceId] := by
  obtain ⟨secretId, current, hreference, hcurrent, hresult⟩ := revoke_eq_ok hrevoke
  have hsecrets := (h secretId).secrets
  have hsound : Sound token (next token fromIsoFormat s (.revoke referenceId)) secretId [] [] :=
    sound_next hunique (h secretId) _
  simp only [next, hrevoke] at hsound ⊢
  obtain rfl := hsecrets.named secretId current hcurrent
  have hkept := hsecrets.references.spend hreference List.not_mem_nil (not_not.mpr rfl)
  rw [← hreference, update_eq_self] at hkept
  subst hresult
  exact ⟨_, hsound.requests, hsound.grants, hsound.given,
    hsecrets.metadata.spend hcurrent List.not_mem_nil (by simp), hkept, hsound.secrets.named⟩

/-- A secret that is revoked is not handed out. -/
lemma Secrets.execute_ne_ok {clock value : String} {grant : SecretUseGrant}
    (h : Secrets token broker secretId [secretId] [grant.referenceId])
    (hgrant : broker.grants id = some grant) :
    (broker.execute fromIsoFormat id use clock).1 ≠ .ok value := by
  intro hvalue
  obtain ⟨found, husable, hresolve⟩ := execute_eq_ok hvalue
  cases husable.found.symm.trans hgrant
  simp only [resolve, activeMetadata, metadataOf, refuseIf, eq_ok_iff, entry_eq_ok,
    not_not] at hresolve
  obtain ⟨_, ⟨metadata, ⟨other, hreference, hmetadata⟩, hactive, rfl⟩, -⟩ := hresolve
  by_cases hid : other = secretId
  · subst hid
    exact (h.metadata.known _ _ hmetadata).2 hactive List.mem_cons_self
  · exact (h.references.known _ _ hreference).2 hid List.mem_cons_self

variable (fromIsoFormat s) in
/-- The history allows the handler to receive the value: a request for the secret and for this use
was approved by the grant, which has not expired and was not used, and the secret is not revoked. -/
structure Authorized (id : String)
    (use : Use) (clock value : String) (request : CapabilityRequest) (grant : SecretUseGrant) :
    Prop where
  granted : (request, grant) ∈ s.granted
  grantId : grant.grantId = id
  toUse : request.toUse = use
  unexpired : ∃ now expiry, timestamp fromIsoFormat clock = .ok now ∧
    timestamp fromIsoFormat grant.expiresAt = .ok expiry ∧ now < expiry
  unused : id ∉ s.handled
  unrevoked : ∃ metadata, s.broker.metadataOf request.referenceId = .ok metadata ∧
    metadata.status ≠ .revoked ∧ s.broker.material metadata.secretId = some value

lemma Sound.authorized {clock value : String} (h : Sound token s secretId [] [])
    (hvalue : (s.broker.execute fromIsoFormat id use clock).1 = .ok value) :
    ∃ request grant, Authorized fromIsoFormat s id use clock value request grant := by
  obtain ⟨grant, husable, hresolve⟩ := execute_eq_ok hvalue
  obtain ⟨hid, request, hgiven⟩ := h.given id grant husable.found
  obtain ⟨now, expiry, hnow, hexpiry, hlt⟩ := husable.moment
  simp only [resolve, activeMetadata, refuseIf, eq_ok_iff, entry_eq_ok, not_not] at hresolve
  obtain ⟨_, ⟨metadata, hmetadata, hactive, rfl⟩, hmaterial⟩ := hresolve
  refine ⟨request, _, hgiven.granted, hid, hgiven.toUse.trans husable.toUse,
    ⟨now, expiry, hnow, hexpiry, by simpa using hlt⟩,
    (h.grants.known id grant husable.found).2 husable.available, metadata, ?_, ?_, hmaterial⟩
  · rw [hgiven.referenceId]
    exact hmetadata
  · rw [hactive]
    decide

/-- **Secrets are used once, and as approved.** After every history whose tokens are unique, no
request has been approved twice, no grant has been used twice, and `execute` calls a handler only if
the history allows it. Once the secret of a reference is revoked, `execute` never hands it out. -/
theorem secret_use_authorized (hunique : token.Injective) (events : List Event) :
    let s := events.foldl (next token fromIsoFormat) {}
    (s.granted.map (·.2.requestId)).Nodup ∧ s.handled.Nodup ∧ (∀ id use clock value,
      (s.broker.execute fromIsoFormat id use clock).1 = .ok value →
      ∃ request grant, Authorized fromIsoFormat s id use clock value request grant) ∧
    ∀ referenceId revoked, s.broker.revoke referenceId = .ok revoked → ∀ later : List Event,
      let t := later.foldl (next token fromIsoFormat)
        (next token fromIsoFormat s (.revoke referenceId))
      ∀ id grant, t.broker.grants id = some grant → grant.referenceId = referenceId →
        ∀ use clock value, (t.broker.execute fromIsoFormat id use clock).1 ≠ .ok value := by
  intro s
  have h (secretId : String) : Sound token s secretId [] [] :=
    (Run.foldl events ({} : System)).invariant (I := fun s => Sound token s secretId [] [])
      (fun _ event h _ => sound_next hunique h event) sound_initial
  refine ⟨(h "").requests.nodup, (h "").grants.nodup, fun _ _ _ _ => (h "").authorized, ?_⟩
  intro referenceId revoked hrevoke later t id grant hgrant href use clock value
  obtain ⟨secretId, hstart⟩ := Sound.revoke hunique h hrevoke
  have hlater : Sound token t secretId [secretId] [referenceId] :=
    (Run.foldl later _).invariant (I := fun s => Sound token s secretId [secretId] [referenceId])
      (fun _ event h _ => sound_next hunique h event) hstart
  rw [← href] at hlater
  exact hlater.secrets.execute_ne_ok hgrant

/-- A secret is created, its use is requested, and the request is approved for two days. -/
def sampleHistory : List Event :=
  [.create ⟨"capability", "scope"⟩ "0123456789abcdef",
    .request ⟨"secretref.1", "secret.0"⟩ ⟨"run", "operation", "capability", "scope"⟩,
    .approve "capreq.2" "2026-06-03T00:00:00Z" "2026-06-01T00:00:00Z"]

/-- The days of June 2026 as moments. -/
def sampleMoment (value : String) : Option (ℤ × Option ℤ) :=
  if value = "2026-06-01T00:00:00+00:00" then some (1, some 0)
  else if value = "2026-06-02T00:00:00+00:00" then some (2, some 0)
  else if value = "2026-06-03T00:00:00+00:00" then some (3, some 0)
  else none

theorem secret_use_authorized_sample :
    let s := sampleHistory.foldl (next (String.ofList ∘ Nat.toDigits 10) sampleMoment) {}
    ∃ request grant, Authorized sampleMoment s "grant.3" ⟨"run", "operation", "capability", "scope"⟩
      "2026-06-02T00:00:00Z" "0123456789abcdef" request grant := by
  intro s
  exact (secret_use_authorized (fun _ _ h => toDigits_injective (String.ofList_injective h))
    sampleHistory).2.2.1 _ _ _ _ (by decide +kernel)

end StatePort.SensitiveData
