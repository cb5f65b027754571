import StatePort.Authority.Equiv.Operations

/-!
# The reserve, claim and record protocol

`Store.Linked` says how the records of a store hang together: reservations hold authorised decisions
of stored grants, claims bind reservations, and the receipts of authorised actions belong to
reservations, executed ones to claims. Every event keeps it (`linked_next`), so it holds of every
store that grows from the empty one; `claims_and_receipts_linked` is what follows for requests.
-/

namespace StatePort.Authority

open Table

variable {H : Body → String} {s s' t : Store} {e : Event} {v : Reservation} {d : Decision}
  {r : Receipt} {ok : Store → Event → Prop}

/-- The claim names the reservation and its decision. -/
structure Claim.Binds (c : Claim) (v : Reservation) : Prop where
  requestId : c.requestId = v.requestId
  reservationId : c.reservationId = v.reservationId
  reservationDigest : c.reservationDigest = v.reservationDigest
  decisionDigest : c.decisionDigest = v.decision.decisionDigest

def Receipt.OfAction (r : Receipt) : Prop := r.authorizedBy.type ≠ .ownerDirective

/-- How the records of a store hang together. -/
structure Store.Linked (s : Store) : Prop where
  reservation : ∀ v ∈ s.reservations.rows, v.requestId = v.decision.requestId ∧
    v.decision.decision = .authorized ∧ v.decision.authorizedBy.type ≠ .ownerDirective
  reservation_grant : ∀ v ∈ s.reservations.rows, v.decision.authorizedBy.type = .grant →
    ∃ g ∈ s.grants.rows, g.grantId = v.decision.authorizedBy.id
  parent : ∀ g ∈ s.grants.rows, ∀ p ∈ g.parentGrantId, ∃ g' ∈ s.grants.rows, g'.grantId = p
  claim : ∀ c ∈ s.claims.rows, ∃ v ∈ s.reservations.rows, c.Binds v
  receipt : ∀ r ∈ s.receipts.rows, r.OfAction → r.decision = .authorized →
    ∃ v ∈ s.reservations.rows, r.IsOf v.decision
  receipt_unique : ∀ r ∈ s.receipts.rows, ∀ r' ∈ s.receipts.rows, r.OfAction → r'.OfAction →
    r.requestId = r'.requestId → r = r'
  executed : ∀ r ∈ s.receipts.rows, r.OfAction → r.result.status.executed →
    r.decision = .authorized ∧ ∃ c ∈ s.claims.rows, c.requestId = r.requestId
  unexecuted : ∀ r ∈ s.receipts.rows, r.OfAction → r.decision = .authorized →
    r.result.status.executed = false → ∀ c ∈ s.claims.rows, c.requestId ≠ r.requestId

lemma linked_empty : Store.empty.Linked := by
  constructor <;> simp [Store.empty]

/-- Reservations are determined by the request of their decision. -/
lemma Store.Linked.reservation_unique (h : s.Linked) {w : Reservation}
    (hv : v ∈ s.reservations.rows) (hw : w ∈ s.reservations.rows)
    (hreq : v.decision.requestId = w.decision.requestId) : v = w := by
  refine s.reservations.eq_of_key_eq hv hw ?_
  change v.requestId = w.requestId
  rw [(h.reservation v hv).1, (h.reservation w hw).1, hreq]

/-! ### One event -/

variable {m : Manager} {now : ℕ}

lemma linked_reserved (hs : s.Linked) (h : reserveEvaluated H m s now d = .ok v) :
    Store.Linked { s with reservations := s.reservations.insert v } := by
  obtain ⟨hval, rfl, hreq, hnew⟩ := reserveEvaluated_eq_ok h
  obtain ⟨hauth, -, howner, hgrant⟩ := revalidateAuthorized_eq_ok hval
  have hmem : ∀ w, w ∈ (s.reservations.insert v).rows ↔ w ∈ s.reservations.rows ∨ w = v :=
    fun w => mem_insert hnew
  refine ⟨?_, ?_, hs.parent, ?_, ?_, hs.receipt_unique, hs.executed, hs.unexecuted⟩
  · intro w hw
    obtain hw | rfl := (hmem w).mp hw
    · exact hs.reservation w hw
    · exact ⟨hreq, hauth, howner⟩
  · intro w hw htype
    obtain hw | rfl := (hmem w).mp hw
    · exact hs.reservation_grant w hw htype
    · obtain ⟨grant, -, hload, -⟩ := revalidateGrant_eq_ok (hgrant htype)
      obtain ⟨g, hg, hid, -⟩ := loadGrant_eq_ok hload
      exact ⟨g, hg, hid⟩
  · intro c hc
    obtain ⟨w, hw, hbinds⟩ := hs.claim c hc
    exact ⟨w, (hmem w).mpr (.inl hw), hbinds⟩
  · intro r hr haction hdecision
    obtain ⟨w, hw, hof⟩ := hs.receipt r hr haction hdecision
    exact ⟨w, (hmem w).mpr (.inl hw), hof⟩

lemma linked_claimed {c : Claim} (hs : s.Linked) (h : claimReserved H m s now d = .ok (v, c)) :
    Store.Linked { s with claims := s.claims.insert c } := by
  obtain ⟨⟨hv, rfl, hvreq⟩, hreceipts, hnew, -, -, hreq, hid, hdigest, hdecision⟩ :=
    claimReserved_eq_ok h
  have hmem : ∀ c', c' ∈ (s.claims.insert c).rows ↔ c' ∈ s.claims.rows ∨ c' = c :=
    fun c' => mem_insert hnew
  refine ⟨hs.reservation, hs.reservation_grant, hs.parent, ?_, hs.receipt, hs.receipt_unique, ?_,
    ?_⟩
  · intro c' hc'
    obtain hc' | rfl := (hmem c').mp hc'
    · exact hs.claim c' hc'
    · exact ⟨v, hv, hreq.trans hvreq.symm, hid, hdigest, hdecision⟩
  · intro r hr haction hexec
    obtain ⟨hauth, c', hc', hreq'⟩ := hs.executed r hr haction hexec
    exact ⟨hauth, c', (hmem c').mpr (.inl hc'), hreq'⟩
  · intro r hr haction hauth hexec c' hc'
    obtain hc' | rfl := (hmem c').mp hc'
    · exact hs.unexecuted r hr haction hauth hexec c' hc'
    · -- a request with a receipt cannot be claimed
      rw [hreq]
      exact (hreceipts r hr).symm

lemma linked_recorded {token : String} {args : RecordArgs} (hs : s.Linked)
    (h : recordAction H s now token d args = .ok r) :
    Store.Linked { s with receipts := s.receipts.insert r } := by
  obtain ⟨hof, hstatus, -, hunauth, hrefs, hreceipts, hnew⟩ := recordAction_eq_ok h
  have hmem : ∀ r', r' ∈ (s.receipts.insert r).rows ↔ r' ∈ s.receipts.rows ∨ r' = r :=
    fun r' => mem_insert hnew
  have hother : ∀ r' ∈ s.receipts.rows, r'.requestId ≠ r.requestId := by
    intro r' hr'
    rw [hof.requestId]
    exact hreceipts r' hr'
  refine ⟨hs.reservation, hs.reservation_grant, hs.parent, hs.claim, ?_, ?_, ?_, ?_⟩
  · intro r' hr' haction hauth
    obtain hr' | rfl := (hmem r').mp hr'
    · exact hs.receipt r' hr' haction hauth
    · rw [hof.decision] at hauth
      obtain ⟨⟨v, c⟩, hrefs⟩ := hrefs hauth
      obtain ⟨⟨hv, rfl, -⟩, -⟩ := finalizedRefs_eq_ok hrefs
      exact ⟨v, hv, hof⟩
  · exact injOn_insert hnew hs.receipt_unique hother
  · intro r' hr' haction hexec
    obtain hr' | rfl := (hmem r').mp hr'
    · exact hs.executed r' hr' haction hexec
    · rw [hstatus] at hexec
      have hauth : d.decision = .authorized := by
        by_contra hne
        rw [hunauth hne] at hexec
        cases hexec
      obtain ⟨⟨v, c⟩, hrefs⟩ := hrefs hauth
      obtain ⟨-, hclaimed, -⟩ := finalizedRefs_eq_ok hrefs
      rw [hof.decision, hof.requestId]
      exact ⟨hauth, hclaimed hexec⟩
  · intro r' hr' haction hauth hexec
    obtain hr' | rfl := (hmem r').mp hr'
    · exact hs.unexecuted r' hr' haction hauth hexec
    · rw [hof.decision] at hauth
      rw [hstatus] at hexec
      obtain ⟨⟨v, c⟩, hrefs⟩ := hrefs hauth
      obtain ⟨-, -, hunclaimed⟩ := finalizedRefs_eq_ok hrefs
      rw [hof.requestId]
      exact hunclaimed hexec

/-- The grants after an owner's operation: those before it, and possibly one with a new id whose
parent is stored. -/
lemma OwnerChange.mem_grants (h : OwnerChange H e s s') :
    (∀ g ∈ s.grants.rows, g ∈ s'.grants.rows) ∧
      ∀ g ∈ s'.grants.rows, g ∈ s.grants.rows ∨
        (∀ g' ∈ s.grants.rows, g'.grantId ≠ g.grantId) ∧
          assertNarrowerThanParent H e.manager s e.now g = .ok () := by
  obtain hsame | ⟨value, ownerActorId, g, hchecks, hinsert⟩ := h.grants
  · rw [hsame]
    exact ⟨fun g hg => hg, fun g hg => .inl hg⟩
  · obtain ⟨hparent, hnew⟩ := activationChecks_eq_ok hchecks
    rw [hinsert]
    refine ⟨fun g' hg' => mem_insert_of_mem g hg', ?_⟩
    intro g' hg'
    obtain hg' | rfl := (mem_insert hnew).mp hg'
    · exact .inl hg'
    · exact .inr ⟨hnew, hparent⟩

/-- The receipts of actions are not touched by an owner's operation. -/
lemma OwnerChange.mem_receipts (h : OwnerChange H e s s') (hr : r ∈ s'.receipts.rows)
    (haction : r.OfAction) : r ∈ s.receipts.rows := by
  obtain hsame | ⟨tokens, -, r', -, htype, hnew, hinsert⟩ := h.receipts
  · rwa [hsame] at hr
  · rw [hinsert] at hr
    obtain hr | rfl := (mem_insert hnew).mp hr
    · exact hr
    · exact absurd htype haction

lemma linked_owner (hs : s.Linked) (h : OwnerChange H e s s') : s'.Linked := by
  obtain ⟨hgrants, hgrants'⟩ := h.mem_grants
  constructor
  · rw [h.reservations]
    exact hs.reservation
  · intro v hv htype
    rw [h.reservations] at hv
    obtain ⟨g, hg, hid⟩ := hs.reservation_grant v hv htype
    exact ⟨g, hgrants g hg, hid⟩
  · intro g hg p hp
    obtain hg | ⟨-, hparent⟩ := hgrants' g hg
    · obtain ⟨g', hg', hid⟩ := hs.parent g hg p hp
      exact ⟨g', hgrants g' hg', hid⟩
    · obtain ⟨parent, hload, -⟩ := assertNarrowerThanParent_eq_ok hparent p hp
      obtain ⟨g', hg', hid, -⟩ := loadGrant_eq_ok hload
      exact ⟨g', hgrants g' hg', hid⟩
  · rw [h.claims, h.reservations]
    exact hs.claim
  · intro r hr haction
    rw [h.reservations]
    exact hs.receipt r (h.mem_receipts hr haction) haction
  · intro r hr r' hr' haction haction'
    exact hs.receipt_unique r (h.mem_receipts hr haction) r' (h.mem_receipts hr' haction') haction
      haction'
  · intro r hr haction
    rw [h.claims]
    exact hs.executed r (h.mem_receipts hr haction) haction
  · intro r hr haction
    rw [h.claims]
    exact hs.unexecuted r (h.mem_receipts hr haction) haction

lemma linked_effect (hs : s.Linked) (h : Effect H s e s') : s'.Linked := by
  cases h with
  | reserved hop h => exact linked_reserved hs h
  | claimed hop h => exact linked_claimed hs h
  | recorded hop h => exact linked_recorded hs h
  | owner h => exact linked_owner hs h

lemma linked_next (hs : s.Linked) (e : Event) : (next H s e).Linked :=
  linked_effect hs (next_effect s e)

/-! ### Runs -/

lemma Store.Linked.run (hs : s.Linked) (h : Run (next H) ok s t) : t.Linked :=
  h.invariant (I := Store.Linked) (fun _ e hs _ => linked_next hs e) hs

lemma receipts_subset_effect (h : Effect H s e s') : s.receipts.rows ⊆ s'.receipts.rows := by
  cases h with
  | reserved hop h | claimed hop h => exact List.Subset.refl _
  | recorded hop h => exact fun _ hr => mem_insert_of_mem _ hr
  | owner h =>
    obtain hsame | ⟨-, -, r, -, -, -, hinsert⟩ := h.receipts
    · rw [hsame]
      exact List.Subset.refl _
    · rw [hinsert]
      exact fun _ hr => mem_insert_of_mem r hr

lemma receipts_subset_of_run (h : Run (next H) ok s t) : s.receipts.rows ⊆ t.receipts.rows :=
  h.invariant (I := fun t => s.receipts.rows ⊆ t.receipts.rows)
    (fun t e hst _ => List.Subset.trans hst (receipts_subset_effect (next_effect t e)))
    (List.Subset.refl _)

/-- What an owner draws for a request id differs from the ids of the receipts that are there:
`secrets.token_hex(16)` does not repeat. -/
def freshOwnerTokens (s : Store) (e : Event) : Prop :=
  ∀ tokens ∈ e.op.ownerTokens, ∀ r ∈ s.receipts.rows, r.requestId ≠ tokens.requestId

instance (s : Store) (e : Event) : Decidable (freshOwnerTokens s e) :=
  inferInstanceAs (Decidable (∀ tokens ∈ e.op.ownerTokens, _))

lemma freshOwnerTokens_of_none (h : e.op.ownerTokens = none) : freshOwnerTokens s e := by
  intro tokens htokens
  cases h.symm.trans htokens

/-- One receipt per request. -/
def Store.OneReceipt (s : Store) : Prop :=
  ∀ r ∈ s.receipts.rows, ∀ r' ∈ s.receipts.rows, r.requestId = r'.requestId → r = r'

lemma oneReceipt_insert (hs : s.OneReceipt)
    (hid : ∀ r' ∈ s.receipts.rows, r'.receiptId ≠ r.receiptId)
    (hnew : ∀ r' ∈ s.receipts.rows, r'.requestId ≠ r.requestId)
    (hs' : s'.receipts = s.receipts.insert r) :
    s'.OneReceipt := by
  unfold Store.OneReceipt
  rw [hs']
  intro r₁ h₁ r₂ h₂ hreq
  exact injOn_insert (P := fun _ => True) hid (fun b hb c hc _ _ => hs b hb c hc) hnew r₁ h₁ r₂
    h₂ trivial trivial hreq

lemma oneReceipt_effect (hs : s.OneReceipt) (hfresh : freshOwnerTokens s e)
    (h : Effect H s e s') : s'.OneReceipt := by
  cases h with
  | reserved hop h => exact hs
  | claimed hop h => exact hs
  | recorded hop h =>
    obtain ⟨hof, -, -, -, -, hreceipts, hnew⟩ := recordAction_eq_ok h
    refine oneReceipt_insert hs hnew (fun r' hr' => ?_) rfl
    rw [hof.requestId]
    exact hreceipts r' hr'
  | owner h =>
    obtain hsame | ⟨tokens, htokens, r, hreq, -, hnew, hinsert⟩ := h.receipts
    · unfold Store.OneReceipt
      rw [hsame]
      exact hs
    · refine oneReceipt_insert hs hnew (fun r' hr' => ?_) hinsert
      rw [hreq]
      exact hfresh tokens htokens r' hr'

/-- A request that was finalised without execution is never claimed later. -/
lemma unclaimed_of_run (hs : s.Linked) (h : Run (next H) ok s t) (hv : v ∈ s.reservations.rows)
    (hr : r ∈ s.receipts.rows) (hof : r.IsOf v.decision)
    (hexec : r.result.status.executed = false) :
    ∀ c ∈ t.claims.rows, c.requestId ≠ v.requestId := by
  obtain ⟨hreq, hauth, howner⟩ := hs.reservation v hv
  have ht : t.Linked := hs.run h
  have haction : r.OfAction := by
    unfold Receipt.OfAction
    rwa [hof.authorizedBy]
  rw [hreq, ← hof.requestId]
  exact ht.unexecuted r (receipts_subset_of_run h hr) haction (hof.decision.trans hauth) hexec

/-- **Claims and receipts.** In every store that grows from the empty one, under any interleaving of
operations and crashes: each claim binds exactly one reservation; a request has at most one claim
and at most one receipt; a receipt of an executed action belongs to a claim of the same decision;
and a reserved decision with a receipt that says it was not executed has no claim, then or ever
after. -/
theorem claims_and_receipts_linked (h : Run (next H) freshOwnerTokens Store.empty s) :
    (∀ c ∈ s.claims.rows, ∃! v, v ∈ s.reservations.rows ∧ c.Binds v) ∧
      (∀ c ∈ s.claims.rows, ∀ c' ∈ s.claims.rows, c.requestId = c'.requestId → c = c') ∧
      (∀ r ∈ s.receipts.rows, ∀ r' ∈ s.receipts.rows, r.requestId = r'.requestId → r = r') ∧
      (∀ r ∈ s.receipts.rows, r.authorizedBy.type ≠ .ownerDirective →
        r.result.status.executed →
        ∃ v ∈ s.reservations.rows, r.IsOf v.decision ∧ ∃ c ∈ s.claims.rows, c.Binds v) ∧
      ∀ v ∈ s.reservations.rows, ∀ r ∈ s.receipts.rows, r.IsOf v.decision →
        r.result.status.executed = false →
        ∀ t, Run (next H) freshOwnerTokens s t → ∀ c ∈ t.claims.rows,
          c.requestId ≠ v.requestId := by
  have hs : s.Linked := linked_empty.run h
  have hone : s.OneReceipt :=
    h.invariant (I := Store.OneReceipt) (fun s e hs hfresh => oneReceipt_effect hs hfresh
      (next_effect s e))
      (by simp [Store.OneReceipt, Store.empty])
  refine ⟨?_, fun c hc c' hc' => s.claims.eq_of_key_eq hc hc', hone, ?_, ?_⟩
  · intro c hc
    obtain ⟨v, hv, hbinds⟩ := hs.claim c hc
    refine ⟨v, ⟨hv, hbinds⟩, ?_⟩
    rintro w ⟨hw, hwbinds⟩
    exact s.reservations.eq_of_key_eq hw hv (hwbinds.requestId.symm.trans hbinds.requestId)
  · intro r hr haction hexec
    obtain ⟨hauth, c, hc, hreq⟩ := hs.executed r hr haction hexec
    obtain ⟨v, hv, hof⟩ := hs.receipt r hr haction hauth
    obtain ⟨w, hw, hbinds⟩ := hs.claim c hc
    -- both reservations are the one of the receipt's request
    have hvw : w = v := by
      refine hs.reservation_unique hw hv ?_
      rw [← (hs.reservation w hw).1, ← hbinds.requestId, hreq, hof.requestId]
    subst hvw
    exact ⟨w, hw, hof, c, hc, hbinds⟩
  · intro v hv r hr hof hexec t ht
    exact unclaimed_of_run hs ht hv hr hof hexec

/-- A reservation that is claimed and recorded as succeeded. -/
theorem claims_and_receipts_linked_finished :
    sampleFinished.claims.rows.length = 1 ∧
      ∀ c ∈ sampleFinished.claims.rows, ∃! v, v ∈ sampleFinished.reservations.rows ∧ c.Binds v := by
  have hfamily : Run (next sampleDigest) freshOwnerTokens Store.empty sampleFamily :=
    ((Run.refl _).step (by decide +kernel)).step (by decide +kernel)
  have hfinished : Run (next sampleDigest) freshOwnerTokens Store.empty sampleFinished := by
    refine ((hfamily.step ?_).step ?_).step ?_
    · exact freshOwnerTokens_of_none (ownerTokens_sampleReserve _ _ _)
    · exact freshOwnerTokens_of_none (ownerTokens_sampleClaim _)
    · exact freshOwnerTokens_of_none (ownerTokens_sampleRecord _ _ _)
  exact ⟨by decide +kernel, (claims_and_receipts_linked hfinished).1⟩

/-! ### Histories -/

/-- The record of a write is in the store. -/
def Store.Has (s : Store) : Write → Prop
  | .grant grant => grant ∈ s.grants.rows
  | .revocation revocation => revocation ∈ s.revocations.rows
  | .reservation v => v ∈ s.reservations.rows
  | .claim claim => claim ∈ s.claims.rows
  | .receipt receipt => receipt ∈ s.receipts.rows
  | _ => False

/-- No event loses a record. -/
lemma has_effect (h : Effect H s e s') : s.Has ≤ s'.Has := by
  have hreceipts := receipts_subset_effect h
  intro w hw
  cases h with
  | reserved =>
    cases w with
    | reservation v => exact Table.mem_insert_of_mem _ hw
    | _ => exact hw
  | claimed =>
    cases w with
    | claim claim => exact Table.mem_insert_of_mem _ hw
    | _ => exact hw
  | recorded =>
    cases w with
    | receipt receipt => exact hreceipts hw
    | _ => exact hw
  | owner h =>
    cases w with
    | grant grant => exact h.mem_grants.1 _ hw
    | revocation revocation => exact h.revocations hw
    | reservation v => exact (congrArg (v ∈ ·.rows) h.reservations).mpr hw
    | claim claim => exact (congrArg (claim ∈ ·.rows) h.claims).mpr hw
    | receipt receipt => exact hreceipts hw
    | _ => exact hw

/-- **Records are kept.** After any events, crashes between two writes included, every grant,
revocation, reservation, claim and receipt is there as it was written, and the records refer to each
other as they should. -/
theorem records_kept (H : Body → String) (earlier later : List Event) :
    let s := earlier.foldl (next H) Store.empty
    let t := later.foldl (next H) s
    s.Has ≤ t.Has ∧ t.Linked := by
  intro s t
  refine ⟨?_, linked_empty.run ((Run.foldl earlier _).trans (Run.foldl later _))⟩
  exact List.foldlRecOn later _ (motive := fun t => s.Has ≤ t.Has) le_rfl
    fun t ht e _ => ht.trans (has_effect (next_effect t e))

end StatePort.Authority
