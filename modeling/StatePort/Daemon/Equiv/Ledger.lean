import StatePort.Daemon.Ledger

/-!
# Transitions of the ledger

* `transition_eq_ok_iff`: when a transition succeeds, and what it writes.
* `foldl_set`, and the fields of a transitioned entry: a transition keeps the workload, its spec and
  its grant, appends to the receipts and counts the version up by one.
* `SameIdentity`: the fields of an entry that an inspection is compared with.
-/

namespace StatePort.Daemon

variable {ledger ledger' : Ledger} {id : Id} {entry old : Entry} {state : State}
  {change : Change} {expected : Expected} {info : Info}

lemma workloadId_of_find? (h : ledger.find? id = some entry) : entry.workloadId = id :=
  ((Table.find?_eq_some_iff ledger).mp h).2

/-! ### Fields -/

/-- A field that no item of `extra` sets is not changed by `extra`. -/
lemma foldl_set {β : Type*} {field : Entry → β} {extra : List Extra}
    (h : ∀ entry, ∀ x ∈ extra, field (Entry.set entry x) = field entry) (entry : Entry) :
    field (extra.foldl Entry.set entry) = field entry := by
  induction extra generalizing entry with
  | nil => rfl
  | cons x extra ih =>
    rw [List.foldl_cons, ih fun entry y hy => h entry y (List.mem_cons_of_mem x hy)]
    exact h entry x List.mem_cons_self

section

@[simp] lemma transitioned_state : (entry.transitioned state change).state = state :=
  foldl_set (fun _ x _ => by cases x <;> rfl) _

@[simp] lemma transitioned_version :
    (entry.transitioned state change).version = entry.version + 1 :=
  foldl_set (fun _ x _ => by cases x <;> rfl) _

@[simp] lemma transitioned_workloadId :
    (entry.transitioned state change).workloadId = entry.workloadId :=
  foldl_set (fun _ x _ => by cases x <;> rfl) _

@[simp] lemma transitioned_spec : (entry.transitioned state change).spec = entry.spec :=
  foldl_set (fun _ x _ => by cases x <;> rfl) _

@[simp] lemma transitioned_grantId : (entry.transitioned state change).grantId = entry.grantId :=
  foldl_set (fun _ x _ => by cases x <;> rfl) _

lemma transitioned_containerId (h : ∀ id, Extra.containerId id ∉ change.extra) :
    (entry.transitioned state change).containerId = entry.containerId := by
  refine foldl_set (fun entry x hx => ?_) _
  cases x with
  | containerId id => exact absurd hx (h id)
  | _ => rfl

lemma transitioned_cleanupTargetState (h : ∀ target,
    Extra.cleanupTargetState target ∉ change.extra) :
    (entry.transitioned state change).cleanupTargetState = entry.cleanupTargetState := by
  refine foldl_set (fun entry x hx => ?_) _
  cases x with
  | cleanupTargetState target => exact absurd hx (h target)
  | _ => rfl

end

/-! ### Success -/

lemma transition_eq_ok_iff :
    transition ledger id state change expected = .ok (entry, ledger') ↔
      ∃ old, ledger.find? id = some old ∧ (∀ states ∈ expected.states, old.state ∈ states) ∧
        (∀ version ∈ expected.version, old.version = version) ∧
        entry = old.transitioned state change ∧ ledger' = ledger.put entry := by
  rw [transition]
  cases hfind : ledger.find? id with
  | none => simp
  | some old =>
    simp only [eq_ok_iff, Prod.mk.injEq, not_exists, not_and, not_not, ne_eq, Option.some.injEq,
      exists_eq_left']
    constructor
    · rintro ⟨hstates, hversion, rfl, rfl⟩
      exact ⟨hstates, hversion, rfl, rfl⟩
    · rintro ⟨hstates, hversion, rfl, rfl⟩
      exact ⟨hstates, hversion, rfl, rfl⟩

/-- A transition from a snapshot succeeds only if the entry has kept its state and its version. -/
lemma transitionSnapshot_eq_ok_iff {snapshot : Entry} :
    transitionSnapshot ledger snapshot state change = .ok (entry, ledger') ↔
      ∃ old, ledger.find? snapshot.workloadId = some old ∧ old.state = snapshot.state ∧
        old.version = snapshot.version ∧ entry = old.transitioned state change ∧
        ledger' = ledger.put entry := by
  rw [transitionSnapshot, transition_eq_ok_iff]
  simp only [Option.mem_def, Option.some.injEq, forall_eq', List.mem_singleton]

/-- A transition from the entry as the ledger has it succeeds. -/
lemma transitionSnapshot_of_find? (h : ledger.find? entry.workloadId = some entry) :
    transitionSnapshot ledger entry state change =
      .ok (entry.transitioned state change, ledger.put (entry.transitioned state change)) :=
  transitionSnapshot_eq_ok_iff.mpr ⟨entry, h, rfl, rfl, rfl, rfl⟩

lemma find?_put_self (h : entry.workloadId = id) : (ledger.put entry).find? id = some entry := by
  rw [Table.find?_put, if_pos h]

/-! ### Identity -/

/-- The fields of two entries that an inspection is compared with agree. -/
structure SameIdentity (entry old : Entry) : Prop where
  workloadId : entry.workloadId = old.workloadId
  spec : entry.spec = old.spec
  containerId : entry.containerId = old.containerId

lemma SameIdentity.refl (entry : Entry) : SameIdentity entry entry := ⟨rfl, rfl, rfl⟩

lemma SameIdentity.trans {first second third : Entry} (h : SameIdentity first second)
    (h' : SameIdentity second third) : SameIdentity first third :=
  ⟨h.workloadId.trans h'.workloadId, h.spec.trans h'.spec, h.containerId.trans h'.containerId⟩

lemma SameIdentity.containerIdentityError (h : SameIdentity entry old) :
    containerIdentityError entry info = Daemon.containerIdentityError old info := by
  rw [Daemon.containerIdentityError, Daemon.containerIdentityError, h.workloadId, h.spec,
    h.containerId]

lemma sameIdentity_transitioned (h : ∀ id, Extra.containerId id ∉ change.extra) :
    SameIdentity (entry.transitioned state change) entry :=
  ⟨transitioned_workloadId, transitioned_spec, transitioned_containerId h⟩

/-- An inspection that matches an entry names a container. -/
lemma exists_containerId (h : containerIdentityError entry info = none) :
    ∃ containerId, info.containerId = some containerId := by
  rw [containerIdentityError] at h
  cases hseed : developmentSeedIdentityError entry.spec info with
  | some error => rw [hseed] at h; cases h
  | none =>
    rw [hseed] at h
    cases hid : info.containerId with
    | none => rw [hid] at h; cases h
    | some containerId => exact ⟨containerId, rfl⟩

end StatePort.Daemon
