import StatePort.Authority.Equiv.Evaluate

/-!
# Withdrawal is final

A revocation is never taken back, and from then on nothing is authorised, reserved or claimed under
the grant or its children; while authority is paused the same holds for every action that is not
exempt (`withdrawal_is_final`). Both rest on one rule: if no step reserves or claims a blocked
decision, the blocked reservations and claims at the end of a run were there at its start
(`blocked_of_run`).
-/

namespace StatePort.Authority

variable {H : Body → String} {m : Manager} {s s' t : Store} {now : ℕ} {e : Event} {g : String}
  {grant : Grant}

/-! ### Blocked decisions -/

/-- Nothing is reserved or claimed for a decision while it is blocked. -/
structure Blocking (H : Body → String) (ok : Store → Event → Prop) (B : Store → Decision → Prop) :
    Prop where
  /-- No allowed event blocks a decision. -/
  back : ∀ {s e s' d}, ok s e → Effect H s e s' → B s' d → B s d
  reserve : ∀ {s e d v}, ok s e → reserveEvaluated H e.manager s e.now d = .ok v → ¬ B s d
  claim : ∀ {s e d v c}, ok s e → claimReserved H e.manager s e.now d = .ok (v, c) → ¬ B s d

/-- The blocked reservations and claims of `t` are in `s`. -/
def BlockedOld (B : Store → Decision → Prop) (s t : Store) : Prop :=
  (∀ v ∈ t.reservations.rows, B t v.decision → v ∈ s.reservations.rows) ∧
    ∀ c ∈ t.claims.rows, ∀ v ∈ t.reservations.rows, v.requestId = c.requestId →
      B t v.decision → c ∈ s.claims.rows

variable {ok : Store → Event → Prop} {B : Store → Decision → Prop}

lemma blockedOld_effect (hB : Blocking H ok B) {s₀ : Store} (hs : BlockedOld B s₀ s) (he : ok s e)
    (h : Effect H s e s') : BlockedOld B s₀ s' := by
  have hback : ∀ {d}, B s' d → B s d := hB.back he h
  cases h with
  | @reserved d v hop h =>
    obtain ⟨-, rfl, -, hnew⟩ := reserveEvaluated_eq_ok h
    have hfree : ¬ B s v.decision := hB.reserve he h
    refine ⟨fun w hw hblocked => ?_, fun c hc w hw hreq hblocked => ?_⟩
    · obtain hw | rfl := (Table.mem_insert hnew).mp hw
      · exact hs.1 w hw (hback hblocked)
      · exact absurd (hback hblocked) hfree
    · obtain hw | rfl := (Table.mem_insert hnew).mp hw
      · exact hs.2 c hc w hw hreq (hback hblocked)
      · exact absurd (hback hblocked) hfree
  | @claimed d v c hop h =>
    have hfree : ¬ B s d := hB.claim he h
    obtain ⟨⟨hv, rfl, hvreq⟩, -, hnew, -, -, hcreq, -⟩ := claimReserved_eq_ok h
    refine ⟨fun w hw hblocked => hs.1 w hw (hback hblocked), fun c' hc' w hw hreq hblocked => ?_⟩
    obtain hc' | rfl := (Table.mem_insert hnew).mp hc'
    · exact hs.2 c' hc' w hw hreq (hback hblocked)
    · -- the reservation of a new claim is the one that the claim was made for
      have hwv : w = v := s.reservations.eq_of_key_eq hw hv (hreq.trans (hcreq.trans hvreq.symm))
      rw [hwv] at hblocked
      exact absurd (hback hblocked) hfree
  | recorded hop h =>
    exact ⟨fun w hw hblocked => hs.1 w hw (hback hblocked),
      fun c hc w hw hreq hblocked => hs.2 c hc w hw hreq (hback hblocked)⟩
  | owner h =>
    unfold BlockedOld
    rw [h.reservations, h.claims]
    exact ⟨fun w hw hblocked => hs.1 w hw (hback hblocked),
      fun c hc w hw hreq hblocked => hs.2 c hc w hw hreq (hback hblocked)⟩

/-- Along a run nothing blocked is added. -/
lemma blocked_of_run (hB : Blocking H ok B) (h : Run (next H) ok s t) : BlockedOld B s t := by
  refine h.invariant (I := BlockedOld B s)
    (fun t e hst he => blockedOld_effect hB hst he (next_effect t e)) ?_
  exact ⟨fun _ hv _ => hv, fun _ hc _ _ _ _ => hc⟩

/-! ### Revocation -/

/-- The decision is authorised by the grant or by one of its children. -/
def Store.Under (s : Store) (g : String) (d : Decision) : Prop :=
  d.authorizedBy.type = .grant ∧ (d.authorizedBy.id = g ∨
    ∃ child ∈ s.grants.rows, child.grantId = d.authorizedBy.id ∧ child.parentGrantId = some g)

/-- Neither the grant nor its parent is revoked. -/
def Store.Standing (s : Store) (grant : Grant) : Prop :=
  ¬ s.Revoked grant.grantId ∧ ∀ p ∈ grant.parentGrantId, ¬ s.Revoked p

lemma standing_of_active (h : grantStatus H m s now grant = .ok .active) : s.Standing grant := by
  obtain ⟨hself, hparents, -⟩ := grantStatusAux_active h
  refine ⟨hself, fun p hp => ?_⟩
  obtain ⟨parent, hload, hactive⟩ := hparents p hp
  cases hfuel : s.grants.rows.length with
  | zero =>
    rw [hfuel] at hactive
    cases hactive
  | succ k =>
    rw [hfuel] at hactive
    have hnot := (grantStatusAux_active hactive).1
    rwa [grantId_of_loadGrant hload] at hnot

lemma standing_of_live (h : grantLive H m s now grant = .ok true) : s.Standing grant := by
  obtain ⟨hself, hparents⟩ := grantLiveAux_true h
  refine ⟨hself, fun p hp => ?_⟩
  obtain ⟨parent, hload, hlive⟩ := hparents p hp
  cases hfuel : s.grants.rows.length with
  | zero =>
    rw [hfuel] at hlive
    cases hlive
  | succ k =>
    rw [hfuel] at hlive
    have hnot := (grantLiveAux_true hlive).1
    rwa [grantId_of_loadGrant hload] at hnot

/-- A decision whose grant still stands is not under a revoked one. -/
lemma not_under_of_standing {d : Decision} (hload : loadGrant H m s d.authorizedBy.id = .ok grant)
    (hstanding : s.Standing grant) (hrevoked : s.Revoked g) : ¬ s.Under g d := by
  obtain ⟨stored, hstored, hid, hsame⟩ := loadGrant_eq_ok hload
  rintro ⟨-, hself | ⟨child, hchild, hchildId, hparent⟩⟩
  · refine hstanding.1 ?_
    rwa [hsame.grantId, hid, hself]
  · obtain rfl := s.grants.eq_of_key_eq hstored hchild (hid.trans hchildId.symm)
    refine hstanding.2 g ?_ hrevoked
    rw [hsame.parentGrantId, hparent]
    exact rfl

/-- The grants of a store in which the parent is revoked gain no child of it. -/
lemma under_of_effect (hrevoked : s.Revoked g) (h : Effect H s e s') {d : Decision}
    (hunder : s'.Under g d) : s.Under g d := by
  cases h with
  | reserved hop h | claimed hop h | recorded hop h => exact hunder
  | owner h =>
    obtain ⟨htype, hself | ⟨child, hchild, hid, hparent⟩⟩ := hunder
    · exact ⟨htype, .inl hself⟩
    · obtain hsame | ⟨value, ownerActorId, new, hchecks, hinsert⟩ := h.grants
      · rw [hsame] at hchild
        exact ⟨htype, .inr ⟨child, hchild, hid, hparent⟩⟩
      · obtain ⟨hnarrow, hnew⟩ := activationChecks_eq_ok hchecks
        rw [hinsert] at hchild
        obtain hchild | rfl := (Table.mem_insert hnew).mp hchild
        · exact ⟨htype, .inr ⟨child, hchild, hid, hparent⟩⟩
        · -- a child is activated only below an active parent
          obtain ⟨parent, hload, hactive⟩ := assertNarrowerThanParent_eq_ok hnarrow g hparent
          have hnot := (standing_of_active hactive).1
          rw [grantId_of_loadGrant hload] at hnot
          exact absurd hrevoked hnot

lemma revoked_of_effect (hrevoked : s.Revoked g) (h : Effect H s e s') : s'.Revoked g := by
  cases h with
  | reserved hop h | claimed hop h | recorded hop h => exact hrevoked
  | owner h =>
    obtain ⟨r, hr, hid⟩ := hrevoked
    exact ⟨r, h.revocations hr, hid⟩

variable (H g) in
lemma blocking_revoked :
    Blocking H (fun s e => anyEvent s e ∧ s.Revoked g) (fun s d => s.Under g d) where
  back he h hunder := under_of_effect he.2 h hunder
  reserve he h hunder := by
    obtain ⟨hval, -⟩ := reserveEvaluated_eq_ok h
    obtain ⟨-, -, -, hgrant⟩ := revalidateAuthorized_eq_ok hval
    obtain ⟨grant, -, hload, hactive, -⟩ := revalidateGrant_eq_ok (hgrant hunder.1)
    exact not_under_of_standing hload (standing_of_active hactive) he.2 hunder
  claim he h hunder := by
    obtain ⟨-, -, -, -, hlive, -⟩ := claimReserved_eq_ok h
    rw [assertGrantLive, if_pos hunder.1] at hlive
    simp only [eq_ok_iff] at hlive
    obtain ⟨grant, hload, -, live, hgrant, htrue⟩ := hlive
    rw [Bool.not_eq_false] at htrue
    subst htrue
    exact not_under_of_standing hload (standing_of_live hgrant) he.2 hunder

lemma revoked_of_revokeGrant {tokens : OwnerTokens} {actorId ownerDirectiveId reason : String}
    {expected : Option String} {x : Revocation × Receipt}
    (h : (revokeGrant H m s now tokens g actorId ownerDirectiveId reason expected).result = .ok x) :
    ((revokeGrant H m s now tokens g actorId ownerDirectiveId reason expected).writes.foldl
      Store.apply s).Revoked g := by
  revert h
  unfold revokeGrant
  split
  · intro h
    cases h
  · next attention revocation hchecks =>
    have hid : revocation.grantId = g := by
      simp only [revocationChecks, eq_ok_iff, Prod.mk.injEq] at hchecks
      obtain ⟨_, -, _, -, _, -, _, -, _, -, _, -, -, rfl⟩ := hchecks
      rfl
    split
    · next existing hexisting =>
      obtain ⟨hmem, hkey⟩ := s.revocations.find?_eq_some_iff.mp hexisting
      unfold Outcome.withReceipt
      split
      · intro _
        exact ⟨existing, hmem, hkey⟩
      · intro h
        cases h
    · next hnone =>
      rw [Table.find?_eq_none_iff, ← hid] at hnone
      unfold Outcome.withReceipt
      split
      · intro _
        exact ⟨revocation, (Table.mem_insert hnone).mpr (.inr rfl), hid⟩
      · intro h
        cases h

variable (m s now) in
/-- The revocation itself adds no reservation and no claim. -/
lemma records_of_revokeGrant (tokens : OwnerTokens)
    (grantId actorId ownerDirectiveId reason : String) (expected : Option String) :
    let s' := (revokeGrant H m s now tokens grantId actorId ownerDirectiveId reason
      expected).writes.foldl Store.apply s
    s'.reservations = s.reservations ∧ s'.claims = s.claims := by
  have h := ownerChange_revokeGrant (H := H) (s := s)
    (e := ⟨m, now, .revokeGrant tokens grantId actorId ownerDirectiveId reason expected, 0⟩) rfl
    m now grantId actorId ownerDirectiveId reason expected
    (revokeGrant H m s now tokens grantId actorId ownerDirectiveId reason expected).writes.length
  rw [List.take_length] at h
  exact ⟨h.reservations, h.claims⟩

/-! ### Pause -/

/-- Autonomous execution is paused. -/
def Store.Paused (s : Store) : Prop := ∃ control ∈ s.control, control.paused

instance (s : Store) : Decidable s.Paused :=
  inferInstanceAs (Decidable (∃ control ∈ s.control, _))

lemma paused_of_loadControl (hs : s.Paused) {control : Control}
    (h : loadControl H s = .ok control) : control.paused := by
  obtain ⟨stored, hstored, hpaused⟩ := hs
  rw [Option.mem_def] at hstored
  simp only [loadControl, hstored, eq_ok_iff] at h
  obtain ⟨_, -, _, -, _, -, _, -, _, -, rfl⟩ := h
  exact hpaused

/-- An action that passes the pause check of a paused store is exempt. -/
lemma exempt_of_not_pausedFor (hs : s.Paused) {action : String}
    (h : ∃ control, loadControl H s = .ok control ∧ ¬ pausedFor control action) :
    action ∈ pauseExemptActions := by
  obtain ⟨control, hcontrol, hnot⟩ := h
  by_contra hmem
  exact hnot ⟨paused_of_loadControl hs hcontrol, hmem⟩

lemma blocking_paused (H : Body → String) :
    Blocking H (fun s _ => s.Paused) (fun _ d => d.action ∉ pauseExemptActions) where
  back _ _ hblocked := hblocked
  reserve he h hblocked := by
    obtain ⟨hval, -⟩ := reserveEvaluated_eq_ok h
    obtain ⟨-, hcontrol, -⟩ := revalidateAuthorized_eq_ok hval
    exact hblocked (exempt_of_not_pausedFor he hcontrol)
  claim he h hblocked := by
    obtain ⟨-, -, -, hcontrol, -⟩ := claimReserved_eq_ok h
    exact hblocked (exempt_of_not_pausedFor he hcontrol)

/-! ### Both -/

/-- **Withdrawal is final.** After a successful `revoke_grant`, whatever operations follow, no
evaluation authorises anything under the grant or a child of it, and the reservations and claims
under them are those from before the revocation. While authority is paused, no evaluation authorises
an action that is not exempt, and no such action is reserved or claimed. -/
theorem withdrawal_is_final {tokens : OwnerTokens} {actorId ownerDirectiveId reason : String}
    {expected : Option String} {x : Revocation × Receipt} {p q : Store}
    (hrevoke : (revokeGrant H m s now tokens g actorId ownerDirectiveId reason expected).result =
      .ok x)
    (hrun : Run (next H) anyEvent ((revokeGrant H m s now tokens g actorId ownerDirectiveId reason
      expected).writes.foldl Store.apply s) t)
    (hpaused : Run (next H) (fun s _ => s.Paused) p q) :
    ((∀ m' now' token req d, evaluate H m' t now' token req = .ok d → d.decision = .authorized →
          ¬ t.Under g d) ∧
        (∀ v ∈ t.reservations.rows, t.Under g v.decision → v ∈ s.reservations.rows) ∧
        ∀ c ∈ t.claims.rows, ∀ v ∈ t.reservations.rows, v.requestId = c.requestId →
          t.Under g v.decision → c ∈ s.claims.rows) ∧
      ((∀ m' now' token req d, q.Paused → evaluate H m' q now' token req = .ok d →
          d.decision = .authorized → d.action ∈ pauseExemptActions) ∧
        (∀ v ∈ q.reservations.rows, v.decision.action ∉ pauseExemptActions →
          v ∈ p.reservations.rows) ∧
        ∀ c ∈ q.claims.rows, ∀ v ∈ q.reservations.rows, v.requestId = c.requestId →
          v.decision.action ∉ pauseExemptActions → c ∈ p.claims.rows) := by
  obtain ⟨hreservations, hclaims⟩ := records_of_revokeGrant (H := H) m s now tokens g actorId
    ownerDirectiveId reason expected
  have hrevoked := revoked_of_revokeGrant hrevoke
  have hstep : ∀ s e, Store.Revoked s g → anyEvent s e → (next H s e).Revoked g :=
    fun s e hs _ => revoked_of_effect hs (next_effect s e)
  have hold := blocked_of_run (blocking_revoked H g) (hrun.strengthen hstep hrevoked)
  have hrevoked' : t.Revoked g := hrun.invariant (I := fun t => t.Revoked g) hstep hrevoked
  refine ⟨⟨?_, ?_, ?_⟩, ?_, blocked_of_run (blocking_paused H) hpaused⟩
  · intro m' now' token req d heval hauth hunder
    obtain ⟨-, -, hgrant⟩ := authorized_of_evaluate heval hauth
    obtain ⟨c, grant, -, hload, hcover⟩ := hgrant hunder.1
    exact not_under_of_standing hload (standing_of_active hcover.active) hrevoked' hunder
  · rw [← hreservations]
    exact hold.1
  · rw [← hclaims]
    exact hold.2
  · intro m' now' token req d hq heval hauth
    obtain ⟨haction, hcontrol, -⟩ := authorized_of_evaluate heval hauth
    rw [haction]
    exact exempt_of_not_pausedFor hq hcontrol

/-- Autonomous execution in the sample repository is paused. -/
def samplePaused : Store :=
  next sampleDigest sampleFamily ⟨sampleManager, 3,
    .setPaused ⟨sampleToken 8, sampleToken 8⟩ true "owner" "directive" "stop" none, 4⟩

/-- The reserved decision of a child cannot be claimed once its parent is revoked, and nothing is
reserved during a pause. -/
theorem withdrawal_is_final_sample :
    let revoke := revokeGrant sampleDigest sampleManager sampleReserved 3
      ⟨sampleToken 9, sampleToken 9⟩ "grant_root" "owner" "directive" "stop" none
    let s := revoke.writes.foldl Store.apply sampleReserved
    let t := next sampleDigest s (sampleClaim sampleReserved)
    let q := next sampleDigest samplePaused
      (sampleReserve sampleFamily 3 (sampleRequest "a" "grant_a-child" 4 5))
    s.Revoked "grant_root" ∧
      (∀ c ∈ t.claims.rows, ∀ v ∈ t.reservations.rows, v.requestId = c.requestId →
        t.Under "grant_root" v.decision → c ∈ sampleReserved.claims.rows) ∧
      ∀ v ∈ q.reservations.rows, v.decision.action ∉ pauseExemptActions →
        v ∈ samplePaused.reservations.rows := by
  intro revoke s t q
  have hresult : revoke.result.map (fun _ => ()) = .ok () := by decide +kernel
  obtain ⟨x, hx, -⟩ := exists_of_map_eq_ok hresult
  have hrun : Run (next sampleDigest) anyEvent s t := (Run.refl _).step trivial
  have hpaused : Run (next sampleDigest) (fun s _ => s.Paused) samplePaused q := by
    refine (Run.refl _).step ?_
    decide +kernel
  obtain ⟨⟨-, -, hclaims⟩, -, hreservations, -⟩ := withdrawal_is_final hx hrun hpaused
  exact ⟨revoked_of_revokeGrant hx, hclaims, hreservations⟩

end StatePort.Authority
