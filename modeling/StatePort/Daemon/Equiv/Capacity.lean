import StatePort.Algorithm.Run
import StatePort.Daemon.Equiv.Boot

/-!
# Capacity is never overbooked

A write is `Steady` if it replaces an entry by a later version of it under the same grant, and by
one that is not terminal only if the old one was not. Steady writes do not raise any count of active
entries (`WithinCapacity.put`). Transitions are steady, a restart makes only steady writes
(`steady_reconcileOnBoot`), and a reservation has counted before it writes.

* `withinCapacity_next`: every event keeps the limits.
* `laterVersion_next`: every event leaves an entry as it is or raises its version.
* `neverOverbooked`: both over whole histories; and of two transitions that expect one version, the
  second fails.
-/

namespace StatePort.Daemon

open Effect Table

variable {l ledger' : Ledger} {id : Id} {e old : Entry} {limits : Limits} {event : LedgerEvent}
  {state : State} {change : Change}

/-! ### Steady writes -/

/-- The entry replaces one of the same grant and a lower version, and is terminal if that was. -/
structure Supersedes (entry old : Entry) : Prop where
  grantId : entry.grantId = old.grantId
  version : old.version < entry.version
  isTerminal : old.state.isTerminal → entry.state.isTerminal

/-- The entry supersedes the one that the ledger has of the workload. -/
def Steady (l : Ledger) (e : Entry) : Prop :=
  ∃ old, l.find? e.workloadId = some old ∧ Supersedes e old

lemma supersedes_transitioned (h : old.state.isTerminal → state.isTerminal) :
    Supersedes (old.transitioned state change) old := by
  refine ⟨transitioned_grantId, ?_, ?_⟩
  · rw [transitioned_version]
    exact Nat.lt_succ_self _
  · rw [transitioned_state]
    exact h

lemma steady_transitioned (hfind : l.find? id = some old)
    (h : old.state.isTerminal → state.isTerminal) :
    Steady l (old.transitioned state change) := by
  refine ⟨old, ?_, supersedes_transitioned h⟩
  rw [transitioned_workloadId, workloadId_of_find? hfind]
  exact hfind

/-! ### Counts -/

/-- The number of active entries under the grants with `p`. -/
def activeCount (l : Ledger) (p : PyStr → Bool) : ℕ :=
  l.rows.countP fun e => !e.state.isTerminal && p e.grantId

lemma length_activeEntries : (activeEntries l).length = activeCount l fun _ => true := by
  simp [activeEntries, activeCount, List.countP_eq_length_filter]

lemma activeOfGrant_eq (grantId : PyStr) :
    activeOfGrant l grantId = activeCount l fun other => other = grantId := by
  rw [activeOfGrant, activeEntries, List.filter_filter, activeCount, List.countP_eq_length_filter]
  simp only [Bool.and_comm]

lemma activeCount_put_le (h : Steady l e) (p : PyStr → Bool) :
    activeCount (l.put e) p ≤ activeCount l p := by
  obtain ⟨old, hfind, hsupersedes⟩ := h
  refine countP_put_le l hfind fun hactive => ?_
  rw [Bool.and_eq_true, Bool.not_eq_true'] at hactive ⊢
  refine ⟨?_, hsupersedes.grantId ▸ hactive.2⟩
  by_contra hterminal
  have hentry := hsupersedes.isTerminal (by simpa using hterminal)
  rw [hactive.1] at hentry
  cases hentry

/-- The limits hold: in all, and for each grant. -/
structure WithinCapacity (limits : Limits) (ledger : Ledger) : Prop where
  active : (activeEntries ledger).length ≤ limits.maxActive
  perGrant : ∀ grantId, activeOfGrant ledger grantId ≤ limits.maxPerGrant

lemma withinCapacity_empty : WithinCapacity limits (empty Entry.workloadId) :=
  ⟨Nat.zero_le _, fun _ => Nat.zero_le _⟩

lemma WithinCapacity.put (h : WithinCapacity limits l) (hsteady : Steady l e) :
    WithinCapacity limits (l.put e) := by
  constructor
  · have hle := activeCount_put_le hsteady fun _ => true
    rw [← length_activeEntries, ← length_activeEntries] at hle
    exact hle.trans h.active
  · intro grantId
    have hle := activeCount_put_le hsteady fun other => other = grantId
    rw [← activeOfGrant_eq, ← activeOfGrant_eq] at hle
    exact hle.trans (h.perGrant grantId)

lemma checkCapacity_eq_ok_iff {grantId : PyStr} {x : Unit} :
    checkCapacity l limits grantId = .ok x ↔
      (activeEntries l).length < limits.maxActive ∧
        activeOfGrant l grantId < limits.maxPerGrant := by
  rw [checkCapacity]
  simp only [eq_ok_iff, not_le]

/-- A write for which there was room, under the grant for which it was counted. -/
lemma WithinCapacity.put_of_room (h : WithinCapacity limits l)
    (hactive : (activeEntries l).length < limits.maxActive)
    (hgrant : activeOfGrant l e.grantId < limits.maxPerGrant) :
    WithinCapacity limits (l.put e) := by
  constructor
  · have hle : activeCount (l.put e) (fun _ => true) ≤ activeCount l (fun _ => true) + 1 :=
      countP_put_le_succ l _ e
    rw [← length_activeEntries, ← length_activeEntries] at hle
    omega
  · intro grantId
    by_cases hid : e.grantId = grantId
    · have hle : activeCount (l.put e) (fun other => other = grantId) ≤
          activeCount l (fun other => other = grantId) + 1 :=
        countP_put_le_succ l _ e
      rw [← activeOfGrant_eq, ← activeOfGrant_eq] at hle
      rw [hid] at hgrant
      omega
    · -- The entry does not count for another grant, and at most makes one disappear.
      have hother : activeOfGrant (l.put e) grantId ≤ activeOfGrant l grantId := by
        rw [activeOfGrant_eq, activeOfGrant_eq, activeCount, activeCount, rows_put,
          List.countP_append, List.countP_singleton]
        simp only [decide_eq_false hid, Bool.and_false, Bool.false_eq_true, if_false, Nat.add_zero]
        exact List.Sublist.countP_le List.filter_sublist
      exact hother.trans (h.perGrant grantId)

/-! ### A restart -/

def SteadyWrite (l : Ledger) (_ : List Event) (event : Event) : Prop :=
  ∀ e, event = .wrote e → Steady l e

lemma stable_steady (l : Ledger) (workloadId : Id) :
    Stable workloadId (History SteadyWrite l) where
  asked _ h := h
  inspected _ _ h := h.inspected fun _ heq => by cases heq
  called _ _ _ h _ := h.called fun _ heq => by cases heq
  noted w old change h hfind _ := by
    refine h.written fun e heq => ?_
    cases heq
    exact steady_transitioned hfind id

lemma boots_steady (l : Ledger) (entry : Entry) : Boots (History SteadyWrite l) entry where
  stable := stable_steady l entry.workloadId
  written w old state change h hfind hsame hstate _ := by
    refine h.written fun e heq => ?_
    cases heq
    refine steady_transitioned hfind fun hterminal => ?_
    obtain rfl | ⟨hactive, -⟩ := hstate
    · rfl
    · rw [hsame.state, hactive] at hterminal
      cases hterminal

lemma steady_reconcileOnBoot (host : Host) (at_ : PyStr) (l : Ledger) (questions : ℕ) :
    Always SteadyWrite l (reconcileOnBoot host at_ ⟨l, [], questions⟩).2.trace :=
  History.trace_of_keeps (triple_reconcileOnBoot (fun _ h => h) (fun _ h => h)
    fun _ e _ _ => boots_steady l e) questions

/-- What steady writes keep, a trace of steady writes keeps. -/
lemma replay_induction {Q : Ledger → Prop} {trace : List Event}
    (h : Always SteadyWrite l trace)
    (hput : ∀ l e, Q l → Steady l e → Q (l.put e)) (hQ : Q l) :
    Q (replay l trace) := by
  induction trace with
  | nil => exact hQ
  | cons event earlier ih =>
    cases event with
    | inspected id info | called verb id containerId => exact ih h.2
    | wrote e => exact hput _ e (ih h.2) (h.1 e rfl)

/-! ### One event -/

/-- What a method that may fail does to the ledger. -/
lemma afterTransaction_induction {Q : Ledger → Prop} {x : Except LedgerError (Entry × Ledger)}
    (hQ : Q l) (h : ∀ entry ledger', x = .ok (entry, ledger') → Q ledger') :
    Q (afterTransaction l x) := by
  cases hx : x with
  | error e => exact hQ
  | ok result => exact h result.1 result.2 hx

variable {spec : Spec} {at_ : PyStr} {grant : GrantBinding}

lemma reserve_eq_ok (h : reserve l spec at_ grant limits = .ok (e, ledger')) :
    l.find? e.workloadId = none ∧ (activeEntries l).length < limits.maxActive ∧
      activeOfGrant l e.grantId < limits.maxPerGrant ∧ ledger' = l.put e := by
  rw [reserve] at h
  simp only [eq_ok_iff, Prod.mk.injEq, checkCapacity_eq_ok_iff] at h
  obtain ⟨hfree, ⟨hactive, hgrant⟩, rfl, rfl⟩ := h
  refine ⟨?_, hactive, hgrant, rfl⟩
  rw [find?_eq_none_iff]
  exact (contains_eq_false_iff l).mp (Bool.eq_false_iff.mpr hfree)

lemma reserveWorkspaceRecovery_eq_ok
    (h : reserveWorkspaceRecovery l spec at_ grant limits = .ok (e, ledger')) :
    ∃ old, l.find? e.workloadId = some old ∧ old.version < e.version ∧
      (activeEntries l).length < limits.maxActive ∧
      activeOfGrant l e.grantId < limits.maxPerGrant ∧ ledger' = l.put e := by
  rw [reserveWorkspaceRecovery] at h
  cases hfind : l.find? spec.workloadId with
  | none => simp [hfind] at h
  | some old =>
    rw [hfind] at h
    simp only [eq_ok_iff, Prod.mk.injEq, checkCapacity_eq_ok_iff, not_or, ne_eq, not_not] at h
    obtain ⟨-, -, -, ⟨hgrantId, -⟩, ⟨hactive, hgrant⟩, rfl, rfl⟩ := h
    refine ⟨old, ?_, Nat.lt_succ_self old.version, hactive, ?_, rfl⟩
    · change l.find? old.workloadId = some old
      rw [workloadId_of_find? hfind]
      exact hfind
    · change activeOfGrant l old.grantId < limits.maxPerGrant
      rw [hgrantId]
      exact hgrant

lemma withinCapacity_next (h : WithinCapacity limits l) (hevent : event.isForward l) :
    WithinCapacity limits (nextLedger limits l event) := by
  -- Transitions differ only in what they expect.
  have htransition : ∀ id state change expected,
      (∀ old, l.find? id = some old → (∀ states ∈ expected.states, old.state ∈ states) →
        old.state.isTerminal → state.isTerminal) →
      WithinCapacity limits (afterTransaction l (transition l id state change expected)) := by
    intro id state change expected hforward
    refine afterTransaction_induction h fun e ledger' hok => ?_
    obtain ⟨old, hfind, hstates, -, rfl, rfl⟩ := transition_eq_ok_iff.mp hok
    exact h.put (steady_transitioned hfind (hforward old hfind hstates))
  -- A reservation expects an entry that is reserved, which is not terminal.
  have hreserved : ∀ (old : Entry) (expected : Expected) (p : Prop),
      expected.states = some [.reserved] → (∀ states ∈ expected.states, old.state ∈ states) →
      old.state.isTerminal → p := by
    intro old expected p hexpected hstates hterminal
    have hstate := List.mem_singleton.mp (hstates _ hexpected)
    rw [hstate] at hterminal
    cases hterminal
  cases event with
  | reserve spec at_ grant =>
    refine afterTransaction_induction h fun e ledger' hok => ?_
    obtain ⟨-, hactive, hgrant, rfl⟩ := reserve_eq_ok hok
    exact h.put_of_room hactive hgrant
  | reserveWorkspaceRecovery spec at_ grant =>
    refine afterTransaction_induction h fun e ledger' hok => ?_
    obtain ⟨old, -, -, hactive, hgrant, rfl⟩ := reserveWorkspaceRecovery_eq_ok hok
    exact h.put_of_room hactive hgrant
  | finalizeReserved id at_ containerId expectVersion extra
  | abortReserved id at_ receipt =>
    exact htransition _ _ _ _ fun old _ hstates => hreserved old _ _ rfl hstates
  | transition id state change expected =>
    exact htransition _ _ _ _ fun old hfind _ => hevent old hfind
  | reconcileOnBoot host at_ lost =>
    exact replay_induction ((steady_reconcileOnBoot host at_ l 0).drop lost)
      (fun _ _ h hsteady => h.put hsteady) h

/-- The ledger still has every entry, unchanged or in a later version. -/
def LaterVersions (earlier later : Ledger) : Prop :=
  ∀ id e, earlier.find? id = some e →
    ∃ entry', later.find? id = some entry' ∧ (entry' = e ∨ e.version < entry'.version)

namespace LaterVersions

lemma refl (l : Ledger) : LaterVersions l l :=
  fun _ e h => ⟨e, h, Or.inl rfl⟩

lemma trans {first second third : Ledger} (h : LaterVersions first second)
    (h' : LaterVersions second third) : LaterVersions first third := by
  intro id e hfind
  obtain ⟨entry', hfind', hentry'⟩ := h id e hfind
  obtain ⟨entry'', hfind'', hentry''⟩ := h' id entry' hfind'
  refine ⟨entry'', hfind'', ?_⟩
  rcases hentry' with rfl | hlt
  · exact hentry''
  · rcases hentry'' with rfl | hlt'
    · exact Or.inr hlt
    · exact Or.inr (hlt.trans hlt')

/-- An entry is written under a new id, or in place of a lower version. -/
lemma put (h : ∀ old, l.find? e.workloadId = some old → old.version < e.version) :
    LaterVersions l (l.put e) := by
  intro id old hfind
  rw [find?_put]
  by_cases hid : e.workloadId = id
  · rw [if_pos hid]
    exact ⟨e, rfl, Or.inr (h old (hid ▸ hfind))⟩
  · rw [if_neg hid]
    exact ⟨old, hfind, Or.inl rfl⟩

lemma put_of_steady (h : Steady l e) : LaterVersions l (l.put e) := by
  obtain ⟨found, hfound, hsupersedes⟩ := h
  refine put fun old hfind => ?_
  cases hfound.symm.trans hfind
  exact hsupersedes.version

lemma transition {expected : Expected}
    (h : transition l id state change expected = .ok (e, ledger')) :
    LaterVersions l ledger' := by
  obtain ⟨found, hfound, -, -, rfl, rfl⟩ := transition_eq_ok_iff.mp h
  refine put fun old hfind => ?_
  rw [transitioned_workloadId, workloadId_of_find? hfound] at hfind
  cases hfound.symm.trans hfind
  rw [transitioned_version]
  exact Nat.lt_succ_self _

end LaterVersions

/-- Every event leaves an entry as it is or raises its version. -/
lemma laterVersions_next (l : Ledger) (event : LedgerEvent) :
    LaterVersions l (nextLedger limits l event) := by
  have hrefl := LaterVersions.refl l
  cases event with
  | reserve spec at_ grant =>
    refine afterTransaction_induction hrefl fun e ledger' hok => ?_
    obtain ⟨hfree, -, -, rfl⟩ := reserve_eq_ok hok
    refine LaterVersions.put fun old hfind => ?_
    cases hfree.symm.trans hfind
  | reserveWorkspaceRecovery spec at_ grant =>
    refine afterTransaction_induction hrefl fun e ledger' hok => ?_
    obtain ⟨found, hfound, hversion, -, -, rfl⟩ := reserveWorkspaceRecovery_eq_ok hok
    refine LaterVersions.put fun old hfind => ?_
    cases hfound.symm.trans hfind
    exact hversion
  | finalizeReserved id at_ containerId expectVersion extra
  | abortReserved id at_ receipt | transition id state change expected =>
    exact afterTransaction_induction hrefl fun _ _ hok => LaterVersions.transition hok
  | reconcileOnBoot host at_ lost =>
    exact replay_induction ((steady_reconcileOnBoot host at_ l 0).drop lost)
      (fun _ _ h hsteady => h.trans (LaterVersions.put_of_steady hsteady)) hrefl

/-! ### Histories -/

lemma laterVersions_of_run (h : StatePort.Run (nextLedger limits) anyEvent l ledger') :
    LaterVersions l ledger' := by
  refine h.invariant (I := LaterVersions l) (fun later event hlater _ => ?_) (LaterVersions.refl l)
  exact hlater.trans (laterVersions_next later event)

/-- What the limits of the reservations guarantee. -/
structure NeverOverbookedBy (limits : Limits) : Prop where
  /-- The limits hold in every ledger that is reached from the empty one. -/
  capacity : ∀ l, StatePort.Run (nextLedger limits) (fun l event => event.isForward l)
      (empty Entry.workloadId) l →
    (activeEntries l).length ≤ limits.maxActive ∧
      ∀ grantId, activeOfGrant l grantId ≤ limits.maxPerGrant
  /-- Along every history an entry stays as it is, or its version rises. -/
  versions : ∀ earlier later, StatePort.Run (nextLedger limits) anyEvent earlier later →
    ∀ id e, earlier.find? id = some e →
      ∃ entry', later.find? id = some entry' ∧ (entry' = e ∨ e.version < entry'.version)
  /-- After a transition that expected a version, none that expects it succeeds. -/
  once : ∀ l id state change expected e ledger₁ ledger₂ version,
    transition l id state change expected = .ok (e, ledger₁) →
    version ∈ expected.version → StatePort.Run (nextLedger limits) anyEvent ledger₁ ledger₂ →
    ∀ state' change' expected', version ∈ expected'.version →
      ∀ result, transition ledger₂ id state' change' expected' ≠ .ok result

theorem neverOverbooked (limits : Limits) : NeverOverbookedBy limits where
  capacity l hrun := by
    have hwithin : WithinCapacity limits l :=
      hrun.invariant (I := WithinCapacity limits) (fun _ _ h hevent => withinCapacity_next h hevent)
        withinCapacity_empty
    exact ⟨hwithin.active, hwithin.perGrant⟩
  versions earlier later hrun := laterVersions_of_run hrun
  once l id state change expected e ledger₁ ledger₂ version hok hexpected hrun
      state' change' expected' hexpected' result hsecond := by
    obtain ⟨old, hfind, -, hversion, rfl, rfl⟩ := transition_eq_ok_iff.mp hok
    have hwritten : (l.put (old.transitioned state change)).find? id =
        some (old.transitioned state change) := by
      refine find?_put_self ?_
      rw [transitioned_workloadId, workloadId_of_find? hfind]
    obtain ⟨later, hlater, hnewer⟩ := laterVersions_of_run hrun id _ hwritten
    obtain ⟨found, hfound, -, hversion', -, -⟩ := transition_eq_ok_iff.mp hsecond
    have heq : found = later := Option.some.inj (hfound.symm.trans hlater)
    have hexact : later.version = version := heq ▸ hversion' version hexpected'
    have hfirst : old.version = version := hversion version hexpected
    rcases hnewer with rfl | hlt
    · rw [transitioned_version] at hexact
      omega
    · rw [transitioned_version] at hlt
      omega

end StatePort.Daemon
