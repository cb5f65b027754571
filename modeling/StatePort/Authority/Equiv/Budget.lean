import StatePort.Authority.Equiv.Protocol

/-!
# Budgets of a delegation family

A grant and its children share what is charged to the grant. `Store.charged` lists the reservations
of a family and `grantUsage_eq_ok` shows that `_grant_usage_unlocked` counts exactly these and sums
their charges, whatever receipts there are.

* Action budgets hold in every store (`action_budget_holds`): a reservation under a child is checked
  against the parent's count as well, because an inactive parent makes the child inactive.
* Cost budgets hold along runs in which a reservation under a child leaves room in its parent's cost
  budget (`cost_budget_holds`); the code compares with the child's budget only
  (`children_overspend_parent`).
-/

namespace StatePort.Authority

open List Store

variable {H : Body → String} {m : Manager} {s s' : Store} {now : ℕ} {e : Event} {grantId : String}
  {family : List String} {v : Reservation} {r : Receipt} {d : Decision}

/-! ### The reservations of a family -/

lemma mem_familyIds {grants : List Grant} {id : String} :
    id ∈ familyIds grants grantId ↔
      id = grantId ∨ ∃ child ∈ grants, child.parentGrantId = some grantId ∧ child.grantId = id := by
  simp [familyIds, and_assoc]

lemma chargedTo_iff :
    v.chargedTo family ↔ v.decision.authorizedBy.type = .grant ∧
      v.decision.authorizedBy.id ∈ family ∧ v.decision.decision = .authorized := by
  simp [Reservation.chargedTo, and_assoc]

lemma receipt_chargedTo_iff :
    r.chargedTo family ↔ r.authorizedBy.type = .grant ∧ r.authorizedBy.id ∈ family ∧
      r.decision = .authorized := by
  simp [Receipt.chargedTo, and_assoc]

/-- A receipt under a grant is one of an action. -/
lemma ofAction_of_grant (h : r.authorizedBy.type = .grant) : r.OfAction := by
  unfold Receipt.OfAction
  rw [h]
  decide

/-- The reservations that are charged to a grant: its own and those of its children. -/
def Store.charged (s : Store) (grantId : String) : List Reservation :=
  s.reservations.rows.filter (Reservation.chargedTo (familyIds s.grants.rows grantId))

/-- A new reservation is charged to the families that its grant belongs to. -/
lemma charged_reserved (hnew : ∀ w ∈ s.reservations.rows, w.requestId ≠ v.requestId)
    (grantId : String) :
    Store.charged { s with reservations := s.reservations.insert v } grantId =
      s.charged grantId ++ if v.chargedTo (familyIds s.grants.rows grantId) then [v] else [] := by
  unfold Store.charged
  rw [Table.rows_insert hnew, filter_append, filter_cons, filter_nil]

/-- New grants have no reservations yet, so that no family's charges change. -/
lemma charged_owner (hs : s.Linked) (h : OwnerChange H e s s') (grantId : String) :
    s'.charged grantId = s.charged grantId := by
  obtain ⟨hgrants, hgrants'⟩ := h.mem_grants
  unfold Store.charged
  rw [h.reservations]
  refine filter_congr fun v hv => ?_
  rw [Bool.eq_iff_iff, chargedTo_iff, chargedTo_iff]
  refine and_congr_right fun htype => and_congr_left fun _ => ?_
  rw [mem_familyIds, mem_familyIds]
  refine or_congr_right ⟨?_, ?_⟩
  · rintro ⟨child, hchild, hparent, hid⟩
    obtain hchild | ⟨hfresh, -⟩ := hgrants' child hchild
    · exact ⟨child, hchild, hparent, hid⟩
    · obtain ⟨g, hg, hgid⟩ := hs.reservation_grant v hv htype
      exact absurd (hgid.trans hid.symm) (hfresh g hg)
  · rintro ⟨child, hchild, hparent, hid⟩
    exact ⟨child, hgrants child hchild, hparent, hid⟩

/-- Nothing is charged to an id without a grant. -/
lemma charged_eq_nil (hs : s.Linked) (hfree : ∀ g ∈ s.grants.rows, g.grantId ≠ grantId) :
    s.charged grantId = [] := by
  refine filter_eq_nil_iff.mpr fun v hv hcharged => ?_
  obtain ⟨htype, hfamily, -⟩ := chargedTo_iff.mp hcharged
  obtain hself | ⟨child, hchild, hparent, -⟩ := mem_familyIds.mp hfamily
  · obtain ⟨g, hg, hid⟩ := hs.reservation_grant v hv htype
    exact hfree g hg (hid.trans hself)
  · obtain ⟨g, hg, hid⟩ := hs.parent child hchild grantId hparent
    exact hfree g hg hid

/-! ### Usage -/

section

variable (s v)

/-- The receipt that settles the cost of a reservation. -/
def Store.settled : Option Receipt :=
  s.receipts.rows.find? fun r =>
    r.requestId = v.requestId ∧ r.authorizedBy.type ≠ .ownerDirective ∧ r.decision = .authorized

/-- What a reservation costs: the actual cost once there is a receipt, and the estimate until then.
-/
def Store.charge : ℚ≥0 :=
  match s.settled v with
  | some r => r.actualCostUsd
  | none => v.decision.estimatedCostUsd

end

/-- The cost that is charged to a grant and its children. -/
def Store.familyCost (s : Store) (grantId : String) : ℚ≥0 :=
  ((s.charged grantId).map s.charge).sum

lemma settled_eq_some_iff (hs : s.Linked) :
    s.settled v = some r ↔
      r ∈ s.receipts.rows ∧ r.requestId = v.requestId ∧ r.OfAction ∧ r.decision = .authorized := by
  constructor
  · intro h
    have hprop := find?_some h
    rw [decide_eq_true_eq] at hprop
    exact ⟨mem_of_find?_eq_some h, hprop⟩
  · rintro ⟨hr, hreq, haction, hauth⟩
    cases h : s.settled v with
    | none =>
      have := find?_eq_none.mp h r hr
      rw [decide_eq_true_eq] at this
      exact absurd ⟨hreq, haction, hauth⟩ this
    | some r' =>
      have hprop := find?_some h
      rw [decide_eq_true_eq] at hprop
      rw [hs.receipt_unique r' (mem_of_find?_eq_some h) r hr hprop.2.1 haction
        (hprop.1.trans hreq.symm)]

lemma settled_eq_none_iff :
    s.settled v = none ↔ ∀ r ∈ s.receipts.rows, r.requestId = v.requestId → r.OfAction →
      r.decision ≠ .authorized := by
  simp [Store.settled, Receipt.OfAction]

/-- The receipts that are charged to a family settle its reservations. -/
lemma chargedTo_of_settled (hs : s.Linked) (hv : v ∈ s.reservations.rows)
    (h : s.settled v = some r) (family : List String) :
    r.chargedTo family = v.chargedTo family := by
  obtain ⟨hr, hreq, haction, hauth⟩ := (settled_eq_some_iff hs).mp h
  obtain ⟨w, hw, hof⟩ := hs.receipt r hr haction hauth
  have hvw : w = v := by
    refine hs.reservation_unique hw hv ?_
    rw [← hof.requestId, hreq, (hs.reservation v hv).1]
  subst hvw
  rw [Bool.eq_iff_iff, receipt_chargedTo_iff, chargedTo_iff, hof.authorizedBy, hof.decision]

lemma settled_of_chargedTo (hs : s.Linked) (hr : r ∈ s.receipts.rows)
    (hcharged : r.chargedTo family) :
    ∃ v ∈ s.reservations.rows, v.chargedTo family ∧ s.settled v = some r := by
  obtain ⟨htype, -, hauth⟩ := receipt_chargedTo_iff.mp hcharged
  have haction := ofAction_of_grant htype
  obtain ⟨v, hv, hof⟩ := hs.receipt r hr haction hauth
  have hsettled : s.settled v = some r := by
    refine (settled_eq_some_iff hs).mpr ⟨hr, ?_, haction, hauth⟩
    rw [hof.requestId, (hs.reservation v hv).1]
  refine ⟨v, hv, ?_, hsettled⟩
  rw [← chargedTo_of_settled hs hv hsettled family]
  exact hcharged

/-- Its request is that of a reservation that is charged to the grant. -/
lemma requestId_mem_charged (hs : s.Linked) (hr : r ∈ s.receipts.rows)
    (hcharged : r.chargedTo (familyIds s.grants.rows grantId)) :
    r.requestId ∈ (s.charged grantId).map (·.requestId) := by
  obtain ⟨v, hv, hvcharged, hsettled⟩ := settled_of_chargedTo hs hr hcharged
  refine mem_map.mpr ⟨v, mem_filter.mpr ⟨hv, hvcharged⟩, ?_⟩
  exact ((settled_eq_some_iff hs).mp hsettled).2.1.symm

variable {α : Type} {l : List α} {f : α → String} {g : α → ℚ≥0}

/-- A dictionary holds the value of the only item with a key. -/
lemma dictGet_map_eq_some {a : α} (ha : a ∈ l) (hunique : ∀ b ∈ l, f b = f a → b = a) :
    dictGet (l.map fun b => (f b, g b)) (f a) = some (g a) := by
  cases h : dictGet (l.map fun b => (f b, g b)) (f a) with
  | none =>
    have hmem : (f a, g a) ∈ (l.map fun b => (f b, g b)).reverse :=
      mem_reverse.mpr (mem_map.mpr ⟨a, ha, rfl⟩)
    exact absurd rfl (bne_iff_ne.mp (lookup_eq_none_iff.mp h _ hmem))
  | some c =>
    obtain ⟨before, after, hsplit, -⟩ := lookup_eq_some_iff.mp h
    have hmem : (f a, c) ∈ (l.map fun b => (f b, g b)).reverse := by simp [hsplit]
    obtain ⟨b, hb, heq⟩ := mem_map.mp (mem_reverse.mp hmem)
    obtain ⟨hkey, rfl⟩ := Prod.mk.inj heq
    rw [hunique b hb hkey]

lemma dictGet_map_eq_none {k : String}
    (h : ∀ a ∈ l, f a ≠ k) : dictGet (l.map fun a => (f a, g a)) k = none := by
  unfold dictGet
  rw [lookup_eq_none_iff]
  intro p hp
  rw [mem_reverse, mem_map] at hp
  obtain ⟨a, ha, rfl⟩ := hp
  rw [bne_iff_ne]
  exact fun h' => h a ha h'.symm

/-- The cost of a charged request, as usage computes it from the two dictionaries. -/
lemma requestCost_charged (hs : s.Linked) (hv : v ∈ s.reservations.rows)
    (hcharged : v.chargedTo family) :
    requestCost (s.receipts.rows.filter (Receipt.chargedTo family))
      (s.reservations.rows.filter (Reservation.chargedTo family)) v.requestId = s.charge v := by
  unfold requestCost Store.charge
  cases hsettled : s.settled v with
  | some r =>
    have hr := (settled_eq_some_iff hs).mp hsettled
    have hmem : r ∈ s.receipts.rows.filter (Receipt.chargedTo family) := by
      rw [mem_filter, chargedTo_of_settled hs hv hsettled family]
      exact ⟨hr.1, hcharged⟩
    rw [← hr.2.1, dictGet_map_eq_some (f := fun r : Receipt => r.requestId) hmem]
    · rfl
    · intro r' hr' hreq
      rw [mem_filter] at hr'
      have haction := ofAction_of_grant (receipt_chargedTo_iff.mp hr'.2).1
      exact hs.receipt_unique r' hr'.1 r hr.1 haction hr.2.2.1 hreq
  | none =>
    have hnone : ∀ r ∈ s.receipts.rows.filter (Receipt.chargedTo family),
      r.requestId ≠ v.requestId := by
      intro r hr hreq
      rw [mem_filter] at hr
      obtain ⟨w, hw, -, hw'⟩ := settled_of_chargedTo hs hr.1 hr.2
      obtain ⟨-, hreq', haction, hauth⟩ := (settled_eq_some_iff hs).mp hw'
      exact settled_eq_none_iff.mp hsettled r hr.1 hreq haction hauth
    rw [dictGet_map_eq_none hnone, dictGet_map_eq_some (f := fun v : Reservation => v.requestId)
      (mem_filter.mpr ⟨hv, hcharged⟩)]
    · rfl
    · intro w hw hreq
      rw [mem_filter] at hw
      exact s.reservations.eq_of_key_eq hw.1 hv hreq

/-- **Usage.** The usage of a grant is the number of reservations that are charged to it, and their
cost. -/
theorem grantUsage_eq_ok (hs : s.Linked) {usage : ℕ × ℚ≥0}
    (h : grantUsage H m s grantId = .ok usage) :
    usage = ((s.charged grantId).length, s.familyCost grantId) := by
  simp only [grantUsage, eq_ok_iff] at h
  obtain ⟨grants, hgrants, receipts, hreceipts, reservations, hreservations, rfl⟩ := h
  obtain rfl := loadReceipts_eq_ok hreceipts
  obtain rfl := loadReservations_eq_ok hreservations
  rw [familyIds_loadGrants hgrants]
  -- the requests of the receipts are among those of the reservations
  have hsub : (s.receipts.rows.filter (Receipt.chargedTo (familyIds s.grants.rows grantId))).map
      (·.requestId) ⊆ (s.charged grantId).map (·.requestId) := by
    intro id hid
    obtain ⟨r, hr, rfl⟩ := mem_map.mp hid
    obtain ⟨hr, hcharged⟩ := mem_filter.mp hr
    exact requestId_mem_charged hs hr hcharged
  have hnodup : ((s.charged grantId).map (·.requestId)).Nodup :=
    s.reservations.nodup.sublist (filter_sublist.map _)
  have hids : ((s.receipts.rows.filter (Receipt.chargedTo (familyIds s.grants.rows grantId))).map
      (·.requestId) ++ (s.charged grantId).map (·.requestId)).dedup =
      (s.charged grantId).map (·.requestId) := by
    rw [dedup_append, hnodup.dedup, List.Subset.union_eq_right hsub]
  have hcost : ((s.charged grantId).map (·.requestId)).map (requestCost
      (s.receipts.rows.filter (Receipt.chargedTo (familyIds s.grants.rows grantId)))
      (s.charged grantId)) = (s.charged grantId).map s.charge := by
    rw [map_map]
    refine map_congr_left fun v hv => ?_
    obtain ⟨hv, hcharged⟩ := mem_filter.mp hv
    exact requestCost_charged hs hv hcharged
  change (List.length (_ ++ (s.charged grantId).map _).dedup, List.sum (List.map (requestCost _
    (s.charged grantId)) (_ ++ (s.charged grantId).map _).dedup)) = _
  rw [hids, hcost, length_map, Store.familyCost]

/-! ### Room for one more action -/

/-- An active grant has room for one more action, in its own family and in its parent's. -/
lemma usage_of_active {grant g : Grant} {fuel : ℕ} (hload : loadGrant H m s grantId = .ok grant)
    (hactive : grantStatusAux H m s now (fuel + 1) grant = .ok .active) (hg : g ∈ s.grants.rows)
    (hid : g.grantId = grantId) :
    ∃ usage, grantUsage H m s g.grantId = .ok usage ∧
      (g.expiresWhen = .oneAction ∨ g.kind = .oneTime → usage.1 = 0) ∧
      ∀ n ∈ g.limits.maxActions, usage.1 < n := by
  obtain ⟨stored, hstored, hstoredId, hsame⟩ := loadGrant_eq_ok hload
  obtain rfl := s.grants.eq_of_key_eq hstored hg (hstoredId.trans hid.symm)
  obtain ⟨-, -, hexpiry⟩ := grantStatusAux_active hactive
  obtain ⟨usage, husage, hone, hmax⟩ := grantExpiryStatus_active hexpiry
  rw [hsame.grantId] at husage
  rw [hsame.expiresWhen, hsame.kind] at hone
  rw [hsame.limits] at hmax
  exact ⟨usage, husage, hone, hmax⟩

/-- A reservation finds room in the action budget of every family that it is charged to. -/
lemma room_of_reserved (hs : s.Linked) (h : reserveEvaluated H m s now d = .ok v) {g : Grant}
    (hg : g ∈ s.grants.rows) (hcharged : v.chargedTo (familyIds s.grants.rows g.grantId)) :
    (g.expiresWhen = .oneAction ∨ g.kind = .oneTime → (s.charged g.grantId).length = 0) ∧
      ∀ n ∈ g.limits.maxActions, (s.charged g.grantId).length < n := by
  obtain ⟨hval, rfl, -, -⟩ := reserveEvaluated_eq_ok h
  obtain ⟨htype, hfamily, -⟩ := chargedTo_iff.mp hcharged
  obtain ⟨-, -, -, hgrant⟩ := revalidateAuthorized_eq_ok hval
  obtain ⟨grant, -, hload, hactive, -⟩ := revalidateGrant_eq_ok (hgrant htype)
  have hroom : ∃ usage, grantUsage H m s g.grantId = .ok usage ∧
      (g.expiresWhen = .oneAction ∨ g.kind = .oneTime → usage.1 = 0) ∧
      ∀ n ∈ g.limits.maxActions, usage.1 < n := by
    obtain hself | ⟨child, hchild, hparent, hchildId⟩ := mem_familyIds.mp hfamily
    · exact usage_of_active hload hactive hg hself.symm
    · -- the status of a child depends on its parent's
      obtain ⟨stored, hstored, hstoredId, hsame⟩ := loadGrant_eq_ok hload
      obtain rfl := s.grants.eq_of_key_eq hstored hchild (hstoredId.trans hchildId.symm)
      obtain ⟨-, hparents, -⟩ := grantStatusAux_active hactive
      have hmem : g.grantId ∈ grant.parentGrantId := by
        rw [hsame.parentGrantId, hparent]
        exact rfl
      obtain ⟨parent, hloadParent, hactiveParent⟩ := hparents g.grantId hmem
      obtain ⟨fuel, hfuel⟩ : ∃ fuel, s.grants.rows.length = fuel + 1 := by
        refine Nat.exists_eq_succ_of_ne_zero fun hzero => ?_
        rw [length_eq_zero_iff] at hzero
        rw [hzero] at hg
        cases hg
      rw [hfuel] at hactiveParent
      exact usage_of_active hloadParent hactiveParent hg rfl
  obtain ⟨usage, husage, hone, hmax⟩ := hroom
  rw [grantUsage_eq_ok hs husage] at hone hmax
  exact ⟨hone, hmax⟩

/-! ### Action budgets -/

/-- No family has more reservations than its grant allows. -/
def Store.WithinActions (s : Store) : Prop :=
  ∀ g ∈ s.grants.rows,
    (g.expiresWhen = .oneAction ∨ g.kind = .oneTime → (s.charged g.grantId).length ≤ 1) ∧
      ∀ n ∈ g.limits.maxActions, (s.charged g.grantId).length ≤ n

lemma withinActions_effect (hs : s.Linked) (hbudget : s.WithinActions) (h : Effect H s e s') :
    s'.WithinActions := by
  cases h with
  | @reserved d v hop h =>
    intro g hg
    obtain ⟨hone, hmax⟩ := hbudget g hg
    obtain ⟨-, -, -, hnew⟩ := reserveEvaluated_eq_ok h
    rw [charged_reserved hnew]
    split_ifs with hcharged
    · obtain ⟨hone', hmax'⟩ := room_of_reserved hs h hg hcharged
      rw [length_append, length_singleton]
      exact ⟨fun hkind => by rw [hone' hkind], fun n hn => hmax' n hn⟩
    · rw [append_nil]
      exact ⟨hone, hmax⟩
  | claimed hop h | recorded hop h => exact hbudget
  | owner h =>
    intro g hg
    rw [charged_owner hs h]
    obtain hg | ⟨hfresh, -⟩ := h.mem_grants.2 g hg
    · exact hbudget g hg
    · rw [charged_eq_nil hs hfresh]
      exact ⟨fun _ => Nat.zero_le 1, fun n _ => Nat.zero_le n⟩

/-- The requests that are reserved, or have a receipt as executed, under a grant of the family. -/
def Store.usedRequests (s : Store) (grantId : String) : List String :=
  let under (a : AuthorizedBy) : Bool := a.type = .grant && a.id ∈ familyIds s.grants.rows grantId
  ((s.reservations.rows.filter fun v => under v.decision.authorizedBy).map (·.requestId) ++
    (s.receipts.rows.filter fun r => under r.authorizedBy && r.result.status.executed).map
      (·.requestId)).dedup

/-- They are the requests of the reservations that are charged to the grant. -/
lemma length_usedRequests (hs : s.Linked) (grantId : String) :
    (s.usedRequests grantId).length ≤ (s.charged grantId).length := by
  have hsub : s.usedRequests grantId ⊆ (s.charged grantId).map (·.requestId) := by
    intro id hid
    simp only [Store.usedRequests, mem_dedup, mem_append, mem_map, mem_filter,
      Bool.and_eq_true, decide_eq_true_eq] at hid
    obtain ⟨v, ⟨hv, htype, hfamily⟩, rfl⟩ | ⟨r, ⟨hr, ⟨htype, hfamily⟩, hexec⟩, rfl⟩ := hid
    · refine mem_map.mpr ⟨v, mem_filter.mpr ⟨hv, ?_⟩, rfl⟩
      exact chargedTo_iff.mpr ⟨htype, hfamily, (hs.reservation v hv).2.1⟩
    · obtain ⟨hauth, -⟩ := hs.executed r hr (ofAction_of_grant htype) hexec
      exact requestId_mem_charged hs hr (receipt_chargedTo_iff.mpr ⟨htype, hfamily, hauth⟩)
  have hlen := ((nodup_dedup _).subperm hsub).length_le
  rwa [length_map] at hlen

/-- **Action budgets.** In every store that grows from the empty one, under any interleaving of
operations and crashes, at most `maxActions` distinct requests are reserved or executed under a
grant and its children, and at most one if the grant is for one action. -/
theorem action_budget_holds (h : Run (next H) anyEvent empty s) :
    ∀ g ∈ s.grants.rows,
      (∀ n ∈ g.limits.maxActions, (s.usedRequests g.grantId).length ≤ n) ∧
        (g.kind = .oneTime ∨ g.expiresWhen = .oneAction →
          (s.usedRequests g.grantId).length ≤ 1) := by
  have hinv : s.Linked ∧ s.WithinActions := by
    refine h.invariant (I := fun s => s.Linked ∧ s.WithinActions) ?_ ⟨linked_empty, ?_⟩
    · rintro s e ⟨hs, hbudget⟩ -
      exact ⟨linked_next hs e, withinActions_effect hs hbudget (next_effect s e)⟩
    · intro g hg
      cases hg
  obtain ⟨hs, hbudget⟩ := hinv
  intro g hg
  obtain ⟨hone, hmax⟩ := hbudget g hg
  have hle := length_usedRequests hs g.grantId
  exact ⟨fun n hn => hle.trans (hmax n hn), fun hkind => hle.trans (hone hkind.symm)⟩

/-- Two children of the sample grant. -/
def sampleSiblings : Store :=
  next sampleDigest sampleFamily
    (sampleActivate 2 (sampleGrant "grant_b-child" "b" (some "grant_root") []))

/-- Each of them spends 10 USD. -/
def sampleOverspent : Store :=
  let s := next sampleDigest sampleSiblings
    (sampleReserve sampleSiblings 3 (sampleRequest "a" "grant_a-child" 10 5))
  next sampleDigest s (sampleReserve s 4 (sampleRequest "b" "grant_b-child" 10 5))

/-- Together they use up the two actions of their parent and twice its 10 USD. -/
lemma sampleOverspent_spends : ∃ g ∈ sampleOverspent.grants.rows,
    (2 ∈ g.limits.maxActions ∧ (sampleOverspent.usedRequests g.grantId).length = 2) ∧
      ∃ c ∈ g.limits.maxCostUsd, c < sampleOverspent.familyCost g.grantId := by
  decide +kernel

theorem action_budget_holds_used_up :
    (∃ g ∈ sampleOverspent.grants.rows, 2 ∈ g.limits.maxActions ∧
        (sampleOverspent.usedRequests g.grantId).length = 2) ∧
      ∀ g ∈ sampleOverspent.grants.rows, ∀ n ∈ g.limits.maxActions,
        (sampleOverspent.usedRequests g.grantId).length ≤ n := by
  have hrun : Run (next sampleDigest) anyEvent empty sampleOverspent :=
    (((((Run.refl _).step trivial).step trivial).step trivial).step trivial).step trivial
  obtain ⟨g, hg, hused, -⟩ := sampleOverspent_spends
  exact ⟨⟨g, hg, hused⟩, fun g hg => (action_budget_holds hrun g hg).1⟩

/-! ### Cost budgets -/

/-- No family costs more than its grant allows. -/
def Store.WithinCost (s : Store) : Prop :=
  ∀ g ∈ s.grants.rows, ∀ c ∈ g.limits.maxCostUsd, s.familyCost g.grantId ≤ c

def Op.reserves : Op → Option Decision
  | .reserve d => some d
  | _ => none

def Op.records : Op → Option (Decision × RecordArgs)
  | .record _ d args => some (d, args)
  | _ => none

/-- The actual cost of an action is at most its estimate. -/
def actualWithinEstimate (_ : Store) (e : Event) : Prop :=
  ∀ x ∈ e.op.records, ∀ actual ∈ x.2.actualCostUsd.nonneg?, actual ≤ x.1.estimatedCostUsd

/-- A decision under a child that is reserved leaves its parent within its cost budget. -/
def parentHasRoom (s : Store) (e : Event) : Prop :=
  ∀ d ∈ e.op.reserves, d.authorizedBy.type = .grant →
    ∀ child ∈ s.grants.rows, child.grantId = d.authorizedBy.id →
      ∀ parent ∈ s.grants.rows, child.parentGrantId = some parent.grantId →
        ∀ c ∈ parent.limits.maxCostUsd, s.familyCost parent.grantId + d.estimatedCostUsd ≤ c

instance (s : Store) (e : Event) : Decidable (parentHasRoom s e) :=
  inferInstanceAs (Decidable (∀ d ∈ e.op.reserves, _))

/-- Receipts that do not settle a reservation leave its charge alone. -/
lemma charge_congr (h : s'.settled v = s.settled v) : s'.charge v = s.charge v := by
  unfold Store.charge
  rw [h]

section

variable (hs : s.Linked)
include hs

lemma settled_owner (hs' : s'.Linked) (h : OwnerChange H e s s') (v : Reservation) :
    s'.settled v = s.settled v := by
  refine Option.ext fun r => ?_
  rw [settled_eq_some_iff hs, settled_eq_some_iff hs']
  have hsub : s.receipts.rows ⊆ s'.receipts.rows := receipts_subset_effect (.owner h)
  constructor
  · rintro ⟨hr, hreq, haction, hauth⟩
    exact ⟨h.mem_receipts hr haction, hreq, haction, hauth⟩
  · rintro ⟨hr, hrest⟩
    exact ⟨hsub hr, hrest⟩

/-- A receipt lowers the charge of the reservation that it settles, and no other. -/
lemma charge_recorded {token : String} {args : RecordArgs}
    (h : recordAction H s now token d args = .ok r)
    (hactual : ∀ actual ∈ args.actualCostUsd.nonneg?, actual ≤ d.estimatedCostUsd)
    (hv : v ∈ s.reservations.rows) :
    Store.charge { s with receipts := s.receipts.insert r } v ≤ s.charge v := by
  have hs' := linked_recorded hs h
  obtain ⟨hof, -, hcost, -, hrefs, hreceipts, hnew⟩ := recordAction_eq_ok h
  have hmem : ∀ r', r' ∈ (s.receipts.insert r).rows ↔ r' ∈ s.receipts.rows ∨ r' = r :=
    fun r' => Table.mem_insert hnew
  cases hsettled : Store.settled { s with receipts := s.receipts.insert r } v with
  | none =>
    have hold : s.settled v = none := by
      rw [settled_eq_none_iff] at hsettled ⊢
      exact fun r' hr' => hsettled r' ((hmem r').mpr (.inl hr'))
    exact (charge_congr (hsettled.trans hold.symm)).le
  | some r' =>
    obtain ⟨hr', hreq, haction, hauth⟩ := (settled_eq_some_iff hs').mp hsettled
    obtain hr' | rfl := (hmem r').mp hr'
    · have hold : s.settled v = some r' := (settled_eq_some_iff hs).mpr ⟨hr', hreq, haction, hauth⟩
      exact (charge_congr (hsettled.trans hold.symm)).le
    · -- the new receipt: its request had none before
      have hold : s.settled v = none := by
        rw [settled_eq_none_iff]
        intro r₁ hr₁ hreq₁
        rw [← hreq, hof.requestId] at hreq₁
        exact absurd hreq₁ (hreceipts r₁ hr₁)
      rw [hof.decision] at hauth
      obtain ⟨⟨w, c⟩, hrefs⟩ := hrefs hauth
      obtain ⟨⟨hw, rfl, hwreq⟩, -⟩ := finalizedRefs_eq_ok hrefs
      obtain rfl : v = w := by
        refine s.reservations.eq_of_key_eq hv hw ?_
        change v.requestId = w.requestId
        rw [← hreq, hof.requestId, hwreq]
      unfold Store.charge
      rw [hsettled, hold]
      exact hactual _ hcost

lemma charge_reserved (h : reserveEvaluated H m s now d = .ok v) :
    s.charge v = d.estimatedCostUsd := by
  obtain ⟨-, rfl, hreq, hnew⟩ := reserveEvaluated_eq_ok h
  have hnone : s.settled v = none := by
    rw [settled_eq_none_iff]
    intro r hr hreq' haction hauth
    obtain ⟨w, hw, hof⟩ := hs.receipt r hr haction hauth
    refine hnew w hw ?_
    rw [(hs.reservation w hw).1, ← hof.requestId, hreq']
  unfold Store.charge
  rw [hnone]

lemma familyCost_reserved (h : reserveEvaluated H m s now d = .ok v)
    (grantId : String) :
    Store.familyCost { s with reservations := s.reservations.insert v } grantId =
      s.familyCost grantId +
        if v.chargedTo (familyIds s.grants.rows grantId) then d.estimatedCostUsd else 0 := by
  obtain ⟨-, -, -, hnew⟩ := reserveEvaluated_eq_ok h
  have hcharge := charge_reserved hs h
  unfold Store.familyCost
  rw [charged_reserved hnew, map_append, sum_append]
  split_ifs
  · rw [map_singleton, sum_singleton]
    exact congrArg _ hcharge
  · rfl

/-- A reservation stays within the cost budget of its own grant, which the code checks, and of the
grant's parent, for which there is room. -/
lemma cost_room_of_reserved (hroom : parentHasRoom s e) (hop : e.op = .reserve d)
    (h : reserveEvaluated H e.manager s e.now d = .ok v) {g : Grant} (hg : g ∈ s.grants.rows)
    (hcharged : v.chargedTo (familyIds s.grants.rows g.grantId)) :
    ∀ c ∈ g.limits.maxCostUsd, s.familyCost g.grantId + d.estimatedCostUsd ≤ c := by
  obtain ⟨hval, rfl, -, -⟩ := reserveEvaluated_eq_ok h
  obtain ⟨htype, hfamily, -⟩ := chargedTo_iff.mp hcharged
  obtain hself | ⟨child, hchild, hparent, hid⟩ := mem_familyIds.mp hfamily
  · obtain ⟨-, -, -, hgrant⟩ := revalidateAuthorized_eq_ok hval
    obtain ⟨grant, usage, hload, -, husage, hcost⟩ := revalidateGrant_eq_ok (hgrant htype)
    obtain ⟨stored, hstored, hstoredId, hsame⟩ := loadGrant_eq_ok hload
    obtain rfl := s.grants.eq_of_key_eq hstored hg (hstoredId.trans hself)
    rw [hself] at husage
    rw [grantUsage_eq_ok hs husage, hsame.limits] at hcost
    exact hcost
  · have hmem : v.decision ∈ e.op.reserves := by
      rw [hop]
      exact rfl
    exact hroom v.decision hmem htype child hchild hid g hg hparent

lemma withinCost_effect (hs' : s'.Linked) (hbudget : s.WithinCost)
    (hactual : actualWithinEstimate s e) (hroom : parentHasRoom s e) (h : Effect H s e s') :
    s'.WithinCost := by
  cases h with
  | reserved hop h =>
    intro g hg c hc
    rw [familyCost_reserved hs h]
    split_ifs with hcharged
    · exact cost_room_of_reserved hs hroom hop h hg hcharged c hc
    · rw [add_zero]
      exact hbudget g hg c hc
  | claimed hop h => exact hbudget
  | @recorded token d args r hop h =>
    intro g hg c hc
    have hmem : (d, args) ∈ e.op.records := by
      rw [hop]
      exact rfl
    refine le_trans (sum_le_sum fun v hv => ?_) (hbudget g hg c hc)
    exact charge_recorded hs h (hactual _ hmem) (mem_of_mem_filter hv)
  | owner h =>
    intro g hg c hc
    have hcost : s'.familyCost g.grantId = s.familyCost g.grantId := by
      unfold Store.familyCost
      rw [charged_owner hs h]
      refine congrArg List.sum (map_congr_left fun v _ => ?_)
      exact charge_congr (settled_owner hs hs' h v)
    rw [hcost]
    obtain hg | ⟨hfresh, -⟩ := h.mem_grants.2 g hg
    · exact hbudget g hg c hc
    · rw [Store.familyCost, charged_eq_nil hs hfresh]
      exact zero_le

end

/-- **Cost budgets.** Along every run in which actual costs stay within their estimates and each
reservation under a child leaves room in its parent's budget, no grant's family costs more than the
grant allows. -/
theorem cost_budget_holds
    (h : Run (next H) (fun s e => actualWithinEstimate s e ∧ parentHasRoom s e) empty s) :
    ∀ g ∈ s.grants.rows, ∀ c ∈ g.limits.maxCostUsd, s.familyCost g.grantId ≤ c := by
  have hinv : s.Linked ∧ s.WithinCost := by
    refine h.invariant (I := fun s => s.Linked ∧ s.WithinCost) ?_ ⟨linked_empty, ?_⟩
    · rintro s e ⟨hs, hbudget⟩ ⟨hactual, hroom⟩
      exact ⟨linked_next hs e,
        withinCost_effect hs (linked_next hs e) hbudget hactual hroom (next_effect s e)⟩
    · intro g hg
      cases hg
  exact hinv.2

lemma actualWithinEstimate_sampleReserve (s : Store) (n : ℕ) (req : Request) :
    actualWithinEstimate s (sampleReserve s n req) := by
  unfold sampleReserve
  split
  all_goals
    intro x hx
    cases hx

/-- The child's reservation of 4 USD leaves room in its parent's 10 USD. -/
theorem cost_budget_holds_reserved :
    sampleReserved.familyCost "grant_root" = 4 ∧
      ∀ g ∈ sampleReserved.grants.rows, ∀ c ∈ g.limits.maxCostUsd,
        sampleReserved.familyCost g.grantId ≤ c := by
  have hfamily : Run (next sampleDigest) (fun s e => actualWithinEstimate s e ∧ parentHasRoom s e)
      empty sampleFamily := by
    refine ((Run.refl _).step ⟨?_, ?_⟩).step ⟨?_, ?_⟩
    all_goals
      intro d hd
      cases hd
  have hrun : Run (next sampleDigest) (fun s e => actualWithinEstimate s e ∧ parentHasRoom s e)
      empty sampleReserved :=
    hfamily.step ⟨actualWithinEstimate_sampleReserve _ _ _, by decide +kernel⟩
  exact ⟨by decide +kernel, cost_budget_holds hrun⟩

variable (H s e) in
/-- Only decisions that `evaluate` has just returned are reserved. -/
def fromEvaluate : Prop :=
  ∀ d ∈ e.op.reserves, ∃ token req, evaluate H e.manager s e.now token req = .ok d

lemma fromEvaluate_sampleReserve (s : Store) (n : ℕ) (req : Request) :
    fromEvaluate sampleDigest s (sampleReserve s n req) := by
  unfold sampleReserve
  split
  · next d hd =>
    intro d' hd'
    cases hd'
    exact ⟨sampleToken n, req, hd⟩
  · intro d' hd'
    cases hd'

/-- Two children with the budget of their parent spend it twice. -/
theorem children_overspend_parent :
    ¬ ∀ (H : Body → String) (s : Store),
      Run (next H) (fun s e => actualWithinEstimate s e ∧ fromEvaluate H s e) empty s →
        ∀ g ∈ s.grants.rows, ∀ c ∈ g.limits.maxCostUsd, s.familyCost g.grantId ≤ c := by
  intro h
  have hsiblings : Run (next sampleDigest) (fun s e => actualWithinEstimate s e ∧
      fromEvaluate sampleDigest s e) empty sampleSiblings := by
    refine (((Run.refl _).step ⟨?_, ?_⟩).step ⟨?_, ?_⟩).step ⟨?_, ?_⟩
    all_goals
      intro d hd
      cases hd
  have hrun : Run (next sampleDigest) (fun s e => actualWithinEstimate s e ∧
      fromEvaluate sampleDigest s e) empty sampleOverspent :=
    (hsiblings.step ⟨actualWithinEstimate_sampleReserve _ _ _,
      fromEvaluate_sampleReserve _ _ _⟩).step
      ⟨actualWithinEstimate_sampleReserve _ _ _, fromEvaluate_sampleReserve _ _ _⟩
  obtain ⟨g, hg, -, c, hc, hlt⟩ := sampleOverspent_spends
  exact absurd (h sampleDigest sampleOverspent hrun g hg c hc) (not_le.mpr hlt)

end StatePort.Authority
