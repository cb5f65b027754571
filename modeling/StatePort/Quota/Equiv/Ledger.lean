import StatePort.Quota.Ledger

/-!
# Correctness of the usage ledger

A subject's *account* is the list of its reservations that hold quota, `Ledger.holding`; a
reservation is charged at its actual cost once that is known and at its estimate before. The sums
that the SQL query computes are the account's totals (`dailyCount_eq`, `monthlyCost_eq`).

A call inserts, commits or releases at most one row (`next_effect`). From this, in every history
whose reservations use one policy per subject, no account exceeds its limits (`never_overbooks`),
and an allowed outcome holds quota except when it replays a released reservation
(`honoured_along_iff`).
-/

namespace StatePort.Quota

open Table List UsageReservation Str

/-! ### Accounts -/

variable (s : Ledger)

/-- The reservations of a subject that hold quota. -/
def Ledger.holding (subject : String) : List UsageReservation :=
  s.rows.filter fun r => r.subjectId = subject ∧ r.counted

/-- What a reservation is charged at: its actual cost, or its estimate while that is unknown. -/
def UsageReservation.charge (r : UsageReservation) : ℚ≥0 := r.actualCost.getD r.estimatedCost

lemma dailyCount_eq (subject : String) (day : Date) (op : Operation) :
    Ledger.dailyCount s subject day op =
      (s.holding subject).countP fun r => r.usageDay = day ∧ r.operation = op := by
  unfold Ledger.dailyCount Ledger.holding
  rw [countP_filter]
  induction s.rows with
  | nil => rfl
  | cons r rows ih =>
    rw [map_cons, sum_cons, countP_cons, ih, dailyWeight, add_comm]
    congr 1
    by_cases h : r.subjectId = subject <;> by_cases h' : r.counted <;> simp [h, h']

/-- The weight of a row in the monthly sum is its charge, if it holds quota in that month. -/
lemma monthlyWeight_eq (r : UsageReservation) (subject : String) (month : Month) :
    r.monthlyWeight subject month =
      if (r.subjectId = subject ∧ r.counted) ∧ r.usageMonth = month then r.charge else 0 := by
  have hv := r.validState
  unfold monthlyWeight counted UsageReservation.charge
  cases hs : r.status with
  | active =>
    rw [hs] at hv
    simp [hv.1]
  | committed =>
    rw [hs] at hv
    obtain ⟨actual, hactual⟩ := Option.ne_none_iff_exists'.mp hv.1
    simp [hactual]
  | released => simp
  | denied => simp

lemma monthlyCost_eq (subject : String) (month : Month) : Ledger.monthlyCost s subject month =
      (((s.holding subject).filter (·.usageMonth = month)).map (·.charge)).sum := by
  unfold Ledger.monthlyCost Ledger.holding
  rw [filter_filter]
  induction s.rows with
  | nil => rfl
  | cons r rows ih =>
    rw [map_cons, sum_cons, filter_cons, ih, monthlyWeight_eq]
    split_ifs <;> simp_all

/-! ### What a call does -/

lemma identifier_eq_ok {value name id : String} :
    identifier value name = .ok id ↔ strip value ≠ "" ∧ strip value = id := by
  simp only [identifier, bind_eq_ok, raiseIf_eq_ok, pure_eq_ok]
  simp

variable {r : UsageReservation} {subject : String} {op : Operation} {estimate : ℚ≥0}
  {policy : QuotaPolicy}

lemma assertBinding_eq_ok {x : Unit} :
    assertBinding r subject op estimate policy = .ok x ↔
      r.subjectId = subject ∧ r.operation = op ∧ r.estimatedCost = estimate ∧
        r.policy = policy := by
  rw [assertBinding, raiseIf_eq_ok, not_not]

/-- What one call does to the table: it inserts, commits or releases at most one row. -/
inductive Effect (s : Ledger) : Call → Ledger → Prop where
  | unchanged (c : Call) : Effect s c s
  | inserted {reservationId subjectId operation : String} {policy : QuotaPolicy}
      {estimatedCost : Number} {now : UtcTime} {id : String} {op : Operation} {estimate : ℚ≥0}
      (hnew : ∀ r ∈ s.rows, r.reservationId ≠ id) :
      Effect s (.reserve reservationId subjectId operation policy estimatedCost now)
        (s.insert (newRow id (strip subjectId) op policy estimate now
          (decideNew s (strip subjectId) op policy estimate now)))
  | committed {reservationId : String} {actualCost : Number} {now : UtcTime} {id : String}
      {actual : ℚ≥0} :
      Effect s (.commit reservationId actualCost now)
        (s.update id (·.setCommitted actual now) (·.setCommitted_reservationId actual now))
  | released {reservationId : String} {now : UtcTime} {id : String} :
      Effect s (.release reservationId now)
        (s.update id (·.setReleased now) (·.setReleased_reservationId now))

variable {s s' : Ledger} {reservationId subjectId operation : String} {estimatedCost : Number}
  {now : UtcTime}

/-- A successful `reserve` replays the stored row or inserts a new one. -/
lemma reserve_cases {o : ReservationOutcome}
    (h : reserve s reservationId subjectId operation policy estimatedCost now = .ok (o, s')) :
    ∃ id op estimate, identifier reservationId "reservation_id" = .ok id ∧
      identifier subjectId "subject_id" = .ok (strip subjectId) ∧
      parseOperation operation = .ok op ∧ cost estimatedCost "estimated_cost" = .ok estimate ∧
      ((∃ r ∈ s.rows, r.reservationId = id ∧ r.subjectId = strip subjectId ∧
          r.operation = op ∧ r.estimatedCost = estimate ∧ r.policy = policy ∧
          o = ⟨r, decision r, true⟩ ∧ s' = s) ∨
        ((∀ r ∈ s.rows, r.reservationId ≠ id) ∧
          o.decision = decideNew s (strip subjectId) op policy estimate now ∧
          o.reservation = newRow id (strip subjectId) op policy estimate now o.decision ∧
          s' = s.insert o.reservation)) := by
  simp only [reserve, bind_eq_ok] at h
  obtain ⟨id, hid, subject, hsubject, op, hop, estimate, hestimate, h⟩ := h
  obtain rfl := (identifier_eq_ok.mp hsubject).2
  refine ⟨id, op, estimate, hid, hsubject, hop, hestimate, ?_⟩
  split at h
  · next r hr =>
    obtain ⟨hmem, hkey⟩ := s.find?_eq_some_iff.mp hr
    simp only [bind_eq_ok, pure_eq_ok, Prod.mk.injEq, assertBinding_eq_ok] at h
    obtain ⟨-, ⟨hs, ho, he, hp⟩, rfl, rfl⟩ := h
    exact .inl ⟨r, hmem, hkey, hs, ho, he, hp, rfl, rfl⟩
  · next hnone =>
    simp only [pure_eq_ok, Prod.mk.injEq] at h
    obtain ⟨rfl, rfl⟩ := h
    exact .inr ⟨s.find?_eq_none_iff.mp hnone, rfl, rfl, rfl⟩

lemma next_effect (s : Ledger) (c : Call) : Effect s c (next s c) := by
  cases c with
  | reserve reservationId subjectId operation policy estimatedCost now =>
    change Effect s _ (afterTransaction s _)
    cases h : reserve s reservationId subjectId operation policy estimatedCost now with
    | error e => exact .unchanged _
    | ok x =>
      obtain ⟨o, s'⟩ := x
      obtain ⟨id, op, estimate, -, -, -, -, hcase⟩ := reserve_cases h
      rcases hcase with ⟨r, -, -, -, -, -, -, -, hs⟩ | ⟨hnew, hd, hr, hs⟩
      · subst hs
        exact .unchanged _
      · rw [hr, hd] at hs
        subst hs
        exact .inserted hnew
  | commit reservationId actualCost now =>
    change Effect s _ (afterTransaction s _)
    cases h : commit s reservationId actualCost now with
    | error e => exact .unchanged _
    | ok x =>
      simp only [commit, bind_eq_ok] at h
      obtain ⟨id, -, actual, -, r, -, h⟩ := h
      split_ifs at h
      · simp only [bind_eq_ok, pure_eq_ok] at h
        obtain ⟨-, -, rfl⟩ := h
        exact .unchanged _
      · simp only [bind_eq_ok, pure_eq_ok] at h
        obtain ⟨-, -, rfl⟩ := h
        exact .committed
  | release reservationId now =>
    change Effect s _ (afterTransaction s _)
    cases h : release s reservationId now with
    | error e => exact .unchanged _
    | ok x =>
      simp only [release, bind_eq_ok] at h
      obtain ⟨id, -, r, -, h⟩ := h
      split_ifs at h
      · rw [pure_eq_ok] at h
        subst h
        exact .unchanged _
      · simp only [bind_eq_ok, pure_eq_ok] at h
        obtain ⟨-, -, rfl⟩ := h
        exact .released

/-! ### Rows under a transition -/

section

variable (r : UsageReservation) (actual : ℚ≥0) (now : UtcTime)

section

variable (subject : String)

lemma dailyWeight_setCommitted (day : Date) (op : Operation) :
    (r.setCommitted actual now).dailyWeight subject day op = r.dailyWeight subject day op := by
  unfold setCommitted
  split_ifs with h
  · simp [dailyWeight, counted, h]
  · rfl

lemma dailyWeight_setReleased_le (day : Date) (op : Operation) :
    (r.setReleased now).dailyWeight subject day op ≤ r.dailyWeight subject day op := by
  unfold setReleased
  split_ifs with h
  · simp [dailyWeight, counted]
  · exact le_rfl

lemma monthlyWeight_setCommitted_le (month : Month)
    (hactual : r.status = .active → actual ≤ r.estimatedCost) :
    (r.setCommitted actual now).monthlyWeight subject month ≤ r.monthlyWeight subject month := by
  unfold setCommitted
  split_ifs with h
  · simp only [monthlyWeight, h]
    split_ifs
    · exact hactual h
    · exact le_rfl
  · exact le_rfl

lemma monthlyWeight_setReleased_le (month : Month) :
    (r.setReleased now).monthlyWeight subject month ≤ r.monthlyWeight subject month := by
  unfold setReleased
  split_ifs with h
  · simp only [monthlyWeight, ite_self]
    exact zero_le
  · exact le_rfl

end

end

/-! ### The new row -/

/-- The daily limit of a policy on one kind of operation. -/
def QuotaPolicy.dailyLimit (policy : QuotaPolicy) : Operation → Option ℕ
  | .run => policy.runsPerDay
  | .message => policy.messagesPerDay
  | .mutation => none

lemma Operation.strip_name_ne_empty (op : Operation) : strip op.name ≠ "" := by
  cases op <;> decide

/-- An admitting decision leaves room for the new operation under the limits that concern it. -/
lemma decideNew_allowed_iff :
    (decideNew s subject op policy estimate now).allowed ↔
      (∀ l ∈ policy.dailyLimit op, s.dailyCount subject now.usageDay op < l) ∧
        ∀ l ∈ policy.monthlyEuroEstimate, s.monthlyCost subject now.usageMonth + estimate ≤ l := by
  simp only [decideNew, evaluate_allowed_iff, Number.nonneg?_finite, operationPolicy,
    snapshotInTransaction, exhausted, exceeded]
  cases op <;> simp [Operation.strip_name_ne_empty, QuotaPolicy.dailyLimit]

section

variable {s : Ledger} {id subject : String} {op : Operation} {policy : QuotaPolicy}
  {estimate : ℚ≥0} {now : UtcTime}

lemma counted_newRow (d : QuotaDecision) :
    (newRow id subject op policy estimate now d).counted = d.allowed := by
  cases h : d.allowed <;> simp [counted, newRow, h]

/-- The row that is inserted keeps the day's count of every operation within its limit. -/
lemma dailyCount_add_newRow_le {subject' : String} {day : Date} {op' : Operation} {l : ℕ}
    (hlimit : subject' = subject → l ∈ policy.dailyLimit op')
    (hs : s.dailyCount subject' day op' ≤ l) :
    s.dailyCount subject' day op' +
      (newRow id subject op policy estimate now
        (decideNew s subject op policy estimate now)).dailyWeight subject' day op' ≤ l := by
  unfold dailyWeight
  rw [counted_newRow]
  split_ifs with h
  · obtain ⟨rfl, rfl, rfl, hallowed⟩ := h
    exact (decideNew_allowed_iff.mp hallowed).1 l (hlimit rfl)
  · exact hs

/-- The row that is inserted keeps every monthly cost within its limit. -/
lemma monthlyCost_add_newRow_le {subject' : String} {month : Month} {l : ℚ≥0}
    (hlimit : subject' = subject → l ∈ policy.monthlyEuroEstimate)
    (hs : s.monthlyCost subject' month ≤ l) :
    s.monthlyCost subject' month +
      (newRow id subject op policy estimate now
        (decideNew s subject op policy estimate now)).monthlyWeight subject' month ≤ l := by
  rw [monthlyWeight_eq, counted_newRow]
  split_ifs with h
  · obtain ⟨⟨rfl, hallowed⟩, rfl⟩ := h
    exact (decideNew_allowed_iff.mp hallowed).2 l (hlimit rfl)
  · rw [add_zero]
    exact hs

end

/-! ### Limits over histories -/

variable (pol : String → QuotaPolicy)

/-- Every reservation for a subject is made under the subject's one policy. -/
def UsesPolicy (_ : Ledger) : Call → Prop
  | .reserve _ subjectId _ policy _ _ => policy = pol (strip subjectId)
  | _ => True

/-- Every committed actual cost is at most its estimate. -/
def Ledger.Honest (s : Ledger) : Prop :=
  ∀ r ∈ s.rows, ∀ actual ∈ r.actualCost, actual ≤ r.estimatedCost

/-- A row with a recorded cost is not active, so no transition rewrites it. -/
lemma status_ne_active_of_mem_actualCost {actual : ℚ≥0}
    (h : actual ∈ r.actualCost) : r.status ≠ .active := by
  intro ha
  have hv := r.validState
  rw [ha] at hv
  simp [hv.1] at h

/-- A call never rewrites a recorded cost, so costs that are honest afterwards were so before. -/
lemma honest_of_effect {c : Call} (he : Effect s c s') (h : s'.Honest) :
    s.Honest := by
  intro r hr actual hactual
  have hna := status_ne_active_of_mem_actualCost hactual
  cases he with
  | unchanged => exact h r hr actual hactual
  | inserted hnew => exact h r ((mem_insert hnew).mpr (.inl hr)) actual hactual
  | committed =>
    refine h r (mem_update.mpr ⟨r, hr, ?_⟩) actual hactual
    simp [setCommitted, hna]
  | released =>
    refine h r (mem_update.mpr ⟨r, hr, ?_⟩) actual hactual
    simp [setReleased, hna]

/-- No account exceeds the limits of its subject. -/
structure WithinLimits (s : Ledger) : Prop where
  daily : ∀ subject day op, ∀ l ∈ (pol subject).dailyLimit op, s.dailyCount subject day op ≤ l
  monthly : s.Honest → ∀ subject month, ∀ l ∈ (pol subject).monthlyEuroEstimate,
    s.monthlyCost subject month ≤ l

lemma withinLimits_empty : WithinLimits pol (Table.empty _) where
  daily _ _ _ l _ := Nat.zero_le l
  monthly _ _ _ _ _ := zero_le

/-- One call keeps every account within its limits. -/
lemma withinLimits_of_effect {pol : String → QuotaPolicy} {c : Call}
    (he : Effect s c s') (hs : WithinLimits pol s) (hc : UsesPolicy pol s c) :
    WithinLimits pol s' := by
  have hhonest : s'.Honest → s.Honest := honest_of_effect he
  cases he with
  | unchanged => exact hs
  | inserted hnew =>
    constructor
    · intro subject day op l hl
      rw [Ledger.dailyCount, sum_insert _ hnew]
      refine dailyCount_add_newRow_le ?_ (hs.daily subject day op l hl)
      rintro rfl
      exact hc.symm ▸ hl
    · intro h subject month l hl
      rw [Ledger.monthlyCost, sum_insert _ hnew]
      refine monthlyCost_add_newRow_le ?_ (hs.monthly (hhonest h) subject month l hl)
      rintro rfl
      exact hc.symm ▸ hl
  | committed =>
    constructor
    · intro subject day op l hl
      refine le_trans (sum_update_le _ ?_) (hs.daily subject day op l hl)
      intro r _ _
      exact (dailyWeight_setCommitted r _ _ subject day op).le
    · intro h subject month l hl
      refine le_trans (sum_update_le _ ?_) (hs.monthly (hhonest h) subject month l hl)
      intro r hr hk
      refine monthlyWeight_setCommitted_le r _ _ subject month ?_
      intro ha
      -- The committed row itself is honest in the new table.
      have := h _ (mem_update.mpr ⟨r, hr, if_pos hk⟩)
      simpa [setCommitted, ha] using this
  | released =>
    constructor
    · intro subject day op l hl
      refine le_trans (sum_update_le _ ?_) (hs.daily subject day op l hl)
      intro r _ _
      exact dailyWeight_setReleased_le r _ subject day op
    · intro h subject month l hl
      refine le_trans (sum_update_le _ ?_) (hs.monthly (hhonest h) subject month l hl)
      intro r _ _
      exact monthlyWeight_setReleased_le r _ subject month

/-- **Admission never overbooks.** In every history whose reservations use one policy per subject,
the runs and messages that a subject holds on a day are at most the daily limits and, if committed
costs are at most their estimates, the charges it holds in a month are at most the monthly limit. -/
theorem never_overbooks (pol : String → QuotaPolicy) {s : Ledger}
    (h : Run next (UsesPolicy pol) (Table.empty _) s) (subject : String) :
    (∀ day, ∀ l ∈ (pol subject).runsPerDay,
      ((s.holding subject).filter fun r => r.usageDay = day ∧ r.operation = .run).length ≤ l) ∧
    (∀ day, ∀ l ∈ (pol subject).messagesPerDay,
      ((s.holding subject).filter fun r => r.usageDay = day ∧ r.operation = .message).length ≤ l) ∧
    ((∀ r ∈ s.rows, ∀ actual ∈ r.actualCost, actual ≤ r.estimatedCost) →
      ∀ month, ∀ l ∈ (pol subject).monthlyEuroEstimate,
        (((s.holding subject).filter (·.usageMonth = month)).map (·.charge)).sum ≤ l) := by
  have hw : WithinLimits pol s :=
    h.invariant (fun s c hs hc => withinLimits_of_effect (next_effect s c) hs hc)
      (withinLimits_empty pol)
  refine ⟨?_, ?_, ?_⟩
  · intro day l hl
    rw [← countP_eq_length_filter, ← dailyCount_eq]
    exact hw.daily subject day .run l hl
  · intro day l hl
    rw [← countP_eq_length_filter, ← dailyCount_eq]
    exact hw.daily subject day .message l hl
  · intro hhonest month l hl
    rw [← monthlyCost_eq]
    exact hw.monthly hhonest subject month l hl

/-- Two run reservations against a daily limit of one and a monthly limit of five: the second is
denied, and committing the first at its estimate keeps the month within its limit. -/
theorem never_overbooks_second_run_denied :
    let now : UtcTime := ⟨⟨2026, 7, 1⟩, 0⟩
    let policy : QuotaPolicy := ⟨some 1, none, some 5⟩
    let s := [Call.reserve "r1" "acme" "run" policy (.finite 3) now,
      Call.reserve "r2" "acme" "run" policy (.finite 1) now,
      Call.commit "r1" (.finite 3) now].foldl next (Table.empty _)
    (s.rows.map (·.status) = [.committed, .denied]) ∧
    ((s.holding "acme").filter fun r => r.usageDay = now.usageDay ∧ r.operation = .run).length ≤ 1 ∧
    (((s.holding "acme").filter (·.usageMonth = now.usageMonth)).map (·.charge)).sum ≤ 5 := by
  intro now policy s
  have hrun : Run next (UsesPolicy fun _ => policy) (Table.empty _) s :=
    Run.along ⟨rfl, rfl, trivial, trivial⟩
  obtain ⟨hruns, -, hcost⟩ := never_overbooks (fun _ => policy) hrun "acme"
  exact ⟨by decide +kernel, hruns now.usageDay 1 rfl,
    hcost (by decide +kernel) now.usageMonth 5 rfl⟩

/-! ### Replays -/

/-- The outcome of a call of `reserve` is honoured: if it says allowed, the reservation that it
names holds quota in the ledger that the call leaves. -/
def Honoured (s : Ledger) : Call → Prop
  | .reserve reservationId subjectId operation policy estimatedCost now =>
    ∀ o s', reserve s reservationId subjectId operation policy estimatedCost now = .ok (o, s') →
      o.allowed → ∃ r ∈ s'.rows, r.reservationId = o.reservation.reservationId ∧ r.counted
  | _ => True

/-- The call reserves again, with the inputs that it is bound to, a reservation that is released. -/
def ReplaysReleased (s : Ledger) : Call → Prop
  | .reserve reservationId subjectId operation policy estimatedCost _ =>
    ∃ r ∈ s.rows, r.status = .released ∧
      identifier reservationId "reservation_id" = .ok r.reservationId ∧
      identifier subjectId "subject_id" = .ok r.subjectId ∧
      parseOperation operation = .ok r.operation ∧
      cost estimatedCost "estimated_cost" = .ok r.estimatedCost ∧ policy = r.policy
  | _ => False

/-- A row whose decision is admitting holds quota unless it is released. -/
lemma counted_iff_of_admitted (h : r.admitted) : r.counted ↔ r.status ≠ .released := by
  have hv := r.validState
  unfold counted
  cases hs : r.status with
  | denied =>
    rw [hs] at hv
    simp [hv.2.2] at h
  | _ => simp

/-- A released reservation still says admitted. -/
lemma admitted_of_released (h : r.status = .released) : r.admitted := by
  have hv := r.validState
  rw [h] at hv
  exact hv.2.2

/-- A call of `reserve` with the inputs that a stored row is bound to returns that row. -/
lemma reserve_replay (hr : r ∈ s.rows) (now : UtcTime)
    (hid : identifier reservationId "reservation_id" = .ok r.reservationId)
    (hsubject : identifier subjectId "subject_id" = .ok r.subjectId)
    (hop : parseOperation operation = .ok r.operation)
    (hcost : cost estimatedCost "estimated_cost" = .ok r.estimatedCost) :
    reserve s reservationId subjectId operation r.policy estimatedCost now =
      .ok (⟨r, decision r, true⟩, s) := by
  have hfind : s.find? r.reservationId = some r := s.find?_eq_some_iff.mpr ⟨hr, rfl⟩
  have hbind : assertBinding r r.subjectId r.operation r.estimatedCost r.policy = .ok () :=
    assertBinding_eq_ok.mpr ⟨rfl, rfl, rfl, rfl⟩
  simp [reserve, hid, hsubject, hop, hcost, hfind, hbind]

lemma honoured_iff (s : Ledger) (c : Call) : Honoured s c ↔ ¬ ReplaysReleased s c := by
  cases c with
  | commit _ _ _ | release _ _ => simp [Honoured, ReplaysReleased]
  | reserve reservationId subjectId operation policy estimatedCost now =>
    constructor
    · rintro h ⟨r, hr, hreleased, hid, hsubject, hop, hcost, rfl⟩
      have hadmitted := admitted_of_released hreleased
      obtain ⟨r', hr', hkey, hcounted⟩ :=
        h _ _ (reserve_replay hr now hid hsubject hop hcost) hadmitted
      rw [s.eq_of_key_eq hr' hr hkey] at hcounted
      exact (counted_iff_of_admitted hadmitted).mp hcounted hreleased
    · intro h o s' hok hallowed
      obtain ⟨id, op, estimate, hid, hsubject, hop, hcost, hcase⟩ := reserve_cases hok
      rcases hcase with ⟨r, hr, rfl, hsub, rfl, rfl, rfl, rfl, rfl⟩ | ⟨hnew, hd, hrow, rfl⟩
      · refine ⟨r, hr, rfl, (counted_iff_of_admitted hallowed).mpr ?_⟩
        intro hreleased
        exact h ⟨r, hr, hreleased, hid, by rw [hsubject, hsub], hop, hcost, rfl⟩
      · have hkey : ∀ r ∈ s.rows, r.reservationId ≠ o.reservation.reservationId := by
          rw [hrow]
          exact hnew
        refine ⟨o.reservation, (mem_insert hkey).mpr (.inr rfl), rfl, ?_⟩
        rw [hrow, counted_newRow]
        exact hallowed

/-- **Replays.** In a history of calls, every allowed outcome names a reservation that holds quota
exactly when no call replays a released reservation. -/
theorem honoured_along_iff (s : Ledger) (calls : List Call) :
    Run.Along next Honoured s calls ↔ Run.Along next (fun s c => ¬ ReplaysReleased s c) s calls :=
  Run.along_congr honoured_iff s calls

/-- Reserve, release and reserve again: the third call returns the stored admitting decision, and
the reservation that it names is released. -/
theorem replay_after_release_not_honoured :
    let now : UtcTime := ⟨⟨2026, 7, 1⟩, 0⟩
    let policy : QuotaPolicy := ⟨some 1, none, none⟩
    ¬ Run.Along next Honoured (Table.empty _)
      [.reserve "r1" "acme" "run" policy (.finite 0) now, .release "r1" now,
        .reserve "r1" "acme" "run" policy (.finite 0) now] := by
  intro now policy
  rintro ⟨-, -, h, -⟩
  refine (honoured_iff _ _).mp h ?_
  exact ⟨_, mem_singleton.mpr rfl, rfl, rfl, rfl, rfl, rfl, rfl⟩

/-! ### Reservations over time -/

/-- What may become of a row. -/
inductive UsageReservation.Becomes (r : UsageReservation) : UsageReservation → Prop where
  | refl : Becomes r r
  | committed (actual : ℚ≥0) (now : UtcTime) : Becomes r (r.setCommitted actual now)
  | released (now : UtcTime) : Becomes r (r.setReleased now)

/-- Every row is still there, as it was or settled. -/
def Ledger.Keeps (s t : Ledger) : Prop := ∀ r ∈ s.rows, ∃ r' ∈ t.rows, r.Becomes r'

variable {r' : UsageReservation}

lemma UsageReservation.Becomes.eq_of_settled (h : r.Becomes r') (hr : r.status ≠ .active) :
    r' = r := by
  cases h with
  | refl => rfl
  | committed => simp [setCommitted, hr]
  | released => simp [setReleased, hr]

lemma UsageReservation.Becomes.settled (h : r.Becomes r') : r' = r ∨ r'.status ≠ .active := by
  cases h with
  | refl => exact .inl rfl
  | committed => by_cases hr : r.status = .active <;> simp [setCommitted, hr]
  | released => by_cases hr : r.status = .active <;> simp [setReleased, hr]

lemma keeps_effect {c : Call} (he : Effect s c s') : s.Keeps s' := by
  intro r hr
  cases he with
  | unchanged => exact ⟨r, hr, .refl⟩
  | inserted hnew => exact ⟨r, (mem_insert hnew).mpr (.inl hr), .refl⟩
  | committed =>
    refine ⟨_, mem_update.mpr ⟨r, hr, rfl⟩, ?_⟩
    split_ifs
    exacts [.committed _ _, .refl]
  | released =>
    refine ⟨_, mem_update.mpr ⟨r, hr, rfl⟩, ?_⟩
    split_ifs
    exacts [.released _, .refl]

/-- **A reservation is settled once.** No calls remove a row, change its decision or settle it anew.
-/
theorem settled_once (s : Ledger) (calls : List Call) : s.Keeps (calls.foldl next s) := by
  induction calls generalizing s with
  | nil => exact fun r hr => ⟨r, hr, .refl⟩
  | cons c calls ih =>
    intro r hr
    obtain ⟨r', hr', hstep⟩ := keeps_effect (next_effect s c) r hr
    obtain ⟨r'', hr'', hrun⟩ := ih _ r' hr'
    refine ⟨r'', hr'', ?_⟩
    obtain rfl | hsettled := hstep.settled
    · exact hrun
    · -- the first call has settled the row, so the others leave it alone
      rwa [hrun.eq_of_settled hsettled]

end StatePort.Quota
