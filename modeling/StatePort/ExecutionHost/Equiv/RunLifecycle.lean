import StatePort.ExecutionHost.Equiv.RunAuthority
import StatePort.ExecutionHost.RunLifecycle

/-!
# What the operations of the lifecycle do

`Effect cfg s op s' written` lists what an operation can do to the claims and the locks, and which
lease it has written; `effect_perform` says that it does nothing else. Two properties of whole runs
follow.

`invoke` reaches the adapter with a live grant, but it judges the lease by the ticket alone
(`invoke_eq_ok`). Which tickets are safe to present follows from the operations before:
`leasedUntil` says until when they have leased a claim.

A lease that is settled keeps its state. A renewal is kept if a ticket which has expired is
presented only when the persisted lease has lapsed as well, and if renewals do not shorten leases
(`Current`).
-/

namespace StatePort.ExecutionHost

open Lifecycle LeaseState

variable {cfg : LifecycleConfig} {s s' : Lifecycle} {op : Operation} {spec : RunSpec}
  {kind image host : String}

/-! ### Leases -/

namespace LeaseState

variable {state : LeaseState}

lemma isTerminal_eq_true : state.isTerminal ↔ state.isHeld = false := by
  simp [isTerminal]

lemma expired_mem_legal : expired ∈ state.legal ↔ state.isHeld ∨ state = .expired := by
  cases state <;> decide

lemma released_mem_legal (h : state.isHeld) : released ∈ state.legal := by
  cases state with
  | granted | renewed => decide
  | expired | released | revoked => cases h

lemma renewed_mem_legal (h : state.isHeld) : renewed ∈ state.legal := by
  cases state with
  | granted | renewed => decide
  | expired | released | revoked => cases h

end LeaseState

variable {state : LeaseState}

namespace RunLease

variable {lease lease' : RunLease}

lemma transition_eq_ok : lease.transition state = .ok lease' ↔
    state ∈ lease.state.legal ∧ { lease with state := state } = lease' := by
  simp only [transition, eq_ok_iff, not_not]

section

variable (lease)

/-- A lease in the state that an operation settles it in. -/
def inState (state : LeaseState) : RunLease := { lease with state := state }

/-- The state in which an operation other than a renewal may leave a lease. -/
def Settles (state : LeaseState) : Prop :=
  state.isHeld = false ∧ (lease.state.isHeld = false → state = lease.state)

def renewedUntil (expiresAt : ℤ) : RunLease :=
  { lease with expiresAt := expiresAt, state := .renewed }

end

lemma renew_eq (h : lease.state.isHeld) {expiresAt : ℤ} :
    { lease with expiresAt := expiresAt }.renew = .ok (lease.renewedUntil expiresAt) :=
  transition_eq_ok.mpr ⟨renewed_mem_legal h, rfl⟩

lemma expire_eq_ok (h : lease.expire = .ok lease') :
    lease' = lease.inState .expired ∧ lease.Settles .expired := by
  obtain ⟨hlegal, rfl⟩ := transition_eq_ok.mp h
  refine ⟨rfl, rfl, fun hsettled => ?_⟩
  obtain hheld | hexpired := expired_mem_legal.mp hlegal
  · cases hsettled.symm.trans hheld
  · exact hexpired.symm

lemma release_eq (lease : RunLease) :
    ∃ state, lease.release = .ok (lease.inState state) ∧ lease.Settles state := by
  unfold release
  split_ifs with hheld
  · refine ⟨.released, ?_, rfl, fun hsettled => ?_⟩
    · exact transition_eq_ok.mpr ⟨released_mem_legal hheld, rfl⟩
    · cases hheld.symm.trans hsettled
  · exact ⟨lease.state, rfl, Bool.eq_false_of_not_eq_true hheld, fun _ => rfl⟩

lemma forceRelease_eq (lease : RunLease) :
    ∃ state, lease.forceRelease = lease.inState state ∧ lease.Settles state := by
  unfold forceRelease
  split_ifs with hheld
  · refine ⟨.revoked, rfl, rfl, fun hsettled => ?_⟩
    cases hheld.symm.trans hsettled
  · exact ⟨lease.state, rfl, Bool.eq_false_of_not_eq_true hheld, fun _ => rfl⟩

end RunLease

/-! ### Effects -/

namespace Operation

/-- The lifecycle object and the ticket of an operation on a ticket. -/
def subject? : Operation → Option (ℕ × RunTicket)
  | renewLease i t _ _ | cancel i t _ | revokeRun i t _ | release i t _ | failIfExpired i t _ _
  | invoke i t _ _ _ => some (i, t)
  | authority _ | beginRun _ _ _ _ _ _ _ _ | crash _ => none

/-- The clock at which an operation is evaluated. -/
def clock? : Operation → Option ℤ
  | beginRun _ _ _ _ _ clock _ _ | renewLease _ _ clock _ | failIfExpired _ _ clock _
  | invoke _ _ clock _ _ => some clock
  | authority _ | cancel _ _ _ | revokeRun _ _ _ | release _ _ _ | crash _ => none

/-- How the write of an operation ends. -/
def write : Operation → Write
  | beginRun _ _ _ _ _ _ _ p | renewLease _ _ _ p | cancel _ _ p | revokeRun _ _ p | release _ _ p
  | failIfExpired _ _ _ p | invoke _ _ _ _ p => p
  | authority _ | crash _ => .done

end Operation

/-- What an operation can do to the claims and the locks. -/
inductive Effect (cfg : LifecycleConfig) (s : Lifecycle) (op : Operation) :
    Lifecycle → Option RunLease → Prop
  | unchanged {s' : Lifecycle} : s'.claims = s.claims → s'.locks = s.locks → Effect cfg s op s' none
  | crashed (i : ℕ) : op = .crash i →
      Effect cfg s op { s with locks := s.locks.filter fun lock => lock.owner ≠ i } none
  | begun {i : ℕ} {spec : RunSpec} {kind image host token : String} {clock : ℤ}
      {lease : RunLease} : op = .beginRun i spec kind image host clock token .done →
      s.lockIsHeld spec.workspaceId = false → lease.claimPath = cfg.claimPath ("lease." ++ token) →
      lease.workspaceId = spec.workspaceId → lease.runId = spec.runId → lease.state = .granted →
      lease.expiresAt = clock + cfg.leaseDuration → Effect cfg s op
        ((s.acquireLock i spec.workspaceId lease.claimPath spec.runId).persistLease lease)
          (some lease)
  | abandoned {i : ℕ} {spec : RunSpec} {kind image host token : String} {clock : ℤ}
      {lease : RunLease} : op = .beginRun i spec kind image host clock token .raised →
      s.lockIsHeld spec.workspaceId = false → lease.claimPath = cfg.claimPath ("lease." ++ token) →
      lease.workspaceId = spec.workspaceId → lease.state = .granted →
      lease.expiresAt = clock + cfg.leaseDuration →
      Effect cfg s op ((s.releaseLock i lease.claimPath).persistLease lease) (some lease)
  | refused {i : ℕ} {spec : RunSpec} {kind image host token : String} {clock : ℤ}
      {write : Write} : op = .beginRun i spec kind image host clock token write →
      Effect cfg s op (s.releaseLock i (cfg.claimPath ("lease." ++ token))) none
  | renewed {i : ℕ} {t : RunTicket} {clock : ℤ} {write : Write} {current : RunLease} :
      op = .renewLease i t clock write → isExpired t clock = false →
      s.claims.find? t.claimPath = some current → current.state.isHeld →
      Effect cfg s op (s.persistLease (current.renewedUntil (clock + cfg.leaseDuration)))
        (some (current.renewedUntil (clock + cfg.leaseDuration)))
  | settled {i : ℕ} {t : RunTicket} {current : RunLease} {state : LeaseState} :
      op.subject? = some (i, t) → (∀ clock ∈ op.clock?, isExpired t clock) →
      s.claims.find? t.claimPath = some current → current.Settles state →
      Effect cfg s op ((s.persistLease (current.inState state)).releaseLock i t.claimPath)
        (some (current.inState state))
  | unwritten {i : ℕ} {t : RunTicket} {current : RunLease} :
      op.subject? = some (i, t) → (∀ clock ∈ op.clock?, isExpired t clock) →
      s.claims.find? t.claimPath = some current →
      (op.write = .failed ∨ current.state.isHeld = false) →
      Effect cfg s op (s.releaseLock i t.claimPath) none

variable {t : RunTicket} {lease : RunLease} {α : Type} {write : Write} {clock : ℤ}

namespace Lifecycle

lemma readLease_eq_ok : s.readLease t = .ok lease ↔ s.claims.find? t.claimPath = some lease := by
  unfold readLease
  cases s.claims.find? t.claimPath with
  | none => simp
  | some lease' => simp

lemma effect_stay (s : Lifecycle) : Effect cfg s op s none := .unchanged rfl rfl

variable {i : ℕ} {t : RunTicket}

section

variable (hwrite : op.write = write)
include hwrite

lemma effect_settle {current : RunLease}
    (result : Except RunError α)
    (hop : op.subject? = some (i, t))
    (hclock : ∀ clock ∈ op.clock?, isExpired t clock)
    (hread : s.claims.find? t.claimPath = some current) (hstate : current.Settles state) :
    Effect cfg s op (s.settle i t (current.inState state) write result).state
      (s.settle i t (current.inState state) write result).written := by
  unfold settle
  cases write with
  | done | raised => exact .settled hop hclock hread hstate
  | failed => exact .unwritten hop hclock hread (.inl hwrite)

lemma effect_failExpired (hop : op.subject? = some (i, t))
    (hclock : ∀ clock ∈ op.clock?, isExpired t clock) :
    Effect cfg s op (s.failExpired (α := α) i t write).state
      (s.failExpired (α := α) i t write).written := by
  unfold failExpired
  split
  · exact s.effect_stay
  · next current hread =>
    split
    · exact s.effect_stay
    · next expired hexpire =>
      obtain ⟨rfl, hstate⟩ := RunLease.expire_eq_ok hexpire
      exact effect_settle hwrite _ hop hclock (readLease_eq_ok.mp hread) hstate

lemma effect_failIfExpired
    (hop : op.subject? = some (i, t)) (hclock : op.clock? = some clock) :
    Effect cfg s op (s.failIfExpired i t clock write).state
      (s.failIfExpired i t clock write).written := by
  unfold failIfExpired
  split_ifs with hexpired
  · refine effect_failExpired hwrite hop ?_
    rw [hclock]
    rintro _ ⟨⟩
    exact hexpired
  · exact s.effect_stay

end

lemma effect_release :
    Effect cfg s (.release i t write) (s.release i t write).state
      (s.release i t write).written := by
  unfold release
  split
  · exact s.effect_stay
  · next current hread =>
    obtain ⟨state, hrelease, hstate⟩ := current.release_eq
    rw [hrelease]
    exact effect_settle rfl _ rfl nofun (readLease_eq_ok.mp hread) hstate

lemma effect_cancel :
    Effect cfg s (.cancel i t write) (s.cancel i t write).state
      (s.cancel i t write).written := by
  unfold cancel
  split
  · exact s.effect_stay
  · next current hread =>
    split_ifs with hterminal
    · exact .unwritten rfl nofun (readLease_eq_ok.mp hread) (.inr (isTerminal_eq_true.mp hterminal))
    · obtain ⟨state, hrelease, hstate⟩ := current.release_eq
      rw [RunLease.cancel, hrelease]
      exact effect_settle rfl _ rfl nofun (readLease_eq_ok.mp hread) hstate

lemma effect_revokeRun :
    Effect cfg s (.revokeRun i t write) (s.revokeRun i t write).state
      (s.revokeRun i t write).written := by
  unfold revokeRun
  split
  · exact s.effect_stay
  · next current hread =>
    obtain ⟨state, hrevoke, hstate⟩ := current.forceRelease_eq
    rw [hrevoke]
    exact effect_settle rfl _ rfl nofun (readLease_eq_ok.mp hread) hstate

lemma newLease_eq_ok {leaseId : String} (h : newLease cfg spec kind leaseId clock = .ok lease) :
    lease.claimPath = cfg.claimPath leaseId ∧ lease.workspaceId = spec.workspaceId ∧
      lease.runId = spec.runId ∧ lease.state = .granted ∧
      lease.expiresAt = clock + cfg.leaseDuration := by
  simp only [newLease, bind_eq_ok] at h
  obtain ⟨kind', -, h⟩ := h
  split_ifs at h
  cases h
  exact ⟨rfl, rfl, rfl, rfl, rfl⟩

lemma effect_beginRun {token : String} :
    Effect cfg s (.beginRun i spec kind image host clock token write)
      (s.beginRun cfg i spec kind image host clock token write).state
      (s.beginRun cfg i spec kind image host clock token write).written := by
  unfold beginRun
  split
  · exact s.effect_stay
  · by_cases hlock : s.lockIsHeld spec.workspaceId
    · rw [if_pos hlock]
      exact .refused rfl
    · rw [if_neg hlock]
      split
      · exact .refused rfl
      · next lease hnew =>
        obtain ⟨hpath, hworkspace, hrun, hstate, hexpires⟩ := newLease_eq_ok hnew
        have hfree := Bool.eq_false_of_not_eq_true hlock
        cases write with
        | done => exact .begun rfl hfree hpath hworkspace hrun hstate hexpires
        | failed => exact .refused rfl
        | raised =>
          rw [← hpath]
          exact .abandoned rfl hfree hpath hworkspace hstate hexpires

lemma effect_renewCurrent (hexpired : isExpired t clock = false) :
    Effect cfg s (.renewLease i t clock write) (s.renewCurrent cfg t clock write).state
      (s.renewCurrent cfg t clock write).written := by
  unfold renewCurrent
  split
  · exact s.effect_stay
  · next current hread =>
    by_cases hterminal : current.state.isTerminal
    · rw [if_pos hterminal]
      exact s.effect_stay
    · have hheld : current.state.isHeld := by simpa [isTerminal] using hterminal
      rw [if_neg hterminal, RunLease.renew_eq hheld]
      cases write with
      | done | raised => exact .renewed rfl hexpired (readLease_eq_ok.mp hread) hheld
      | failed => exact s.effect_stay

lemma effect_renewLease :
    Effect cfg s (.renewLease i t clock write) (s.renewLease cfg i t clock write).state
      (s.renewLease cfg i t clock write).written := by
  unfold renewLease
  split
  · exact s.effect_stay
  · split_ifs with hexpired
    · refine effect_failExpired rfl rfl ?_
      rintro _ ⟨⟩
      exact hexpired
    · exact effect_renewCurrent (Bool.eq_false_of_not_eq_true hexpired)

lemma effect_invoke {typed : Bool} :
    Effect cfg s (.invoke i t clock typed write) (s.invoke cfg i t clock typed write).state
      (s.invoke cfg i t clock typed write).written := by
  unfold invoke
  split
  · exact s.effect_stay
  · simp only
    split
    · exact effect_failIfExpired rfl rfl rfl
    · split_ifs
      · exact s.effect_stay
      · exact s.effect_stay

end Lifecycle

lemma nextLifecycle_beginRun (i : ℕ) (spec : RunSpec) (kind image host : String) (clock : ℤ)
    (token : String) (write : Write) :
    nextLifecycle cfg s (.beginRun i spec kind image host clock token write) =
      (s.beginRun cfg i spec kind image host clock token write).state :=
  rfl

/-- **Inversion.** An operation has one of the listed effects. -/
theorem effect_perform (cfg : LifecycleConfig) (s : Lifecycle) (op : Operation) :
    Effect cfg s op (nextLifecycle cfg s op) (perform cfg s op).written := by
  cases op with
  | authority call => exact .unchanged rfl rfl
  | beginRun i spec kind image host clock token write => exact effect_beginRun
  | renewLease i t clock write => exact effect_renewLease
  | cancel i t write => exact effect_cancel
  | revokeRun i t write => exact effect_revokeRun
  | release i t write => exact effect_release
  | failIfExpired i t clock write => exact effect_failIfExpired rfl rfl rfl
  | invoke i t clock typed write => exact effect_invoke
  | crash i => exact .crashed i rfl

/-! ### The gate of `invoke` -/

variable (s t clock) in
/-- The persisted lease of a ticket is held and has not lapsed. -/
def Lifecycle.PersistedLive : Prop :=
  ∃ lease, s.claims.find? t.claimPath = some lease ∧ lease.state.isHeld ∧ clock < lease.expiresAt

section

variable (cfg s)

/-- The adapter is reached only with a lease that is held and has not lapsed and with a grant that
is not revoked. -/
def Gated : Operation → Prop
  | .invoke i t clock typed write => (s.invoke cfg i t clock typed write).result = .ok () →
      s.PersistedLive t clock ∧ ∃ g, s.authority.byId.find? t.grantId = some g ∧ g.revoked = false
  | _ => True

end

namespace Lifecycle

variable {i : ℕ} {t : RunTicket} {clock : ℤ} {typed : Bool} {write : Write}

lemma failExpired_result (s : Lifecycle) (i : ℕ) (t : RunTicket) (write : Write) :
    ∃ e, (s.failExpired (α := α) i t write).result = .error e := by
  unfold failExpired settle
  split
  · exact ⟨_, rfl⟩
  · split
    · exact ⟨_, rfl⟩
    · cases write <;> exact ⟨_, rfl⟩

/-- `invoke` judges the lease by its ticket. -/
lemma invoke_eq_ok : (s.invoke cfg i t clock typed write).result = .ok () ↔
    s.assertGranted cfg t = .ok () ∧ isExpired t clock = false ∧ typed := by
  unfold invoke
  cases hgranted : s.assertGranted cfg t with
  | error e => simp [stay]
  | ok u =>
    simp only [true_and]
    unfold failIfExpired
    cases hexpired : isExpired t clock with
    | false => cases typed <;> simp [stay]
    | true =>
      obtain ⟨e, he⟩ := failExpired_result (α := RunTicket) s i t write
      simp [he]

lemma grant_of_assertGranted (h : s.assertGranted cfg t = .ok ()) :
    ∃ g, s.authority.byId.find? t.grantId = some g ∧ g.revoked = false := by
  unfold assertGranted at h
  split at h
  · next g hlive =>
    obtain ⟨-, hfind, -, -, hrevoked, -⟩ := RunAuthority.assertLive_eq_ok.mp hlive
    exact ⟨g, hfind, hrevoked⟩
  · cases h
  · cases h

end Lifecycle

/-! ### Which tickets are safe to present -/

/-- Until when an operation leases the claim that it writes, if it does: `begin_run` does, and
`renew_lease` of a ticket that has not expired. -/
def Operation.leasesUntil (cfg : LifecycleConfig) : Operation → Option ℤ
  | beginRun _ _ _ _ _ clock _ _ => some (clock + cfg.leaseDuration)
  | renewLease _ t clock _ => if isExpired t clock then none else some (clock + cfg.leaseDuration)
  | _ => none

/-- Until when a claim is leased after one more operation: what has written the claim last counts.
-/
def nextLeased (cfg : LifecycleConfig) (path : String) (leased : Option ℤ) (s : Lifecycle)
    (op : Operation) : Option ℤ :=
  if (perform cfg s op).written.any (·.claimPath = path) then op.leasesUntil cfg else leased

/-- Until when operations that are made one after the other have leased a claim. -/
def leasedUntil (cfg : LifecycleConfig) (path : String) (leased : Option ℤ) (s : Lifecycle) :
    List Operation → Option ℤ
  | [] => leased
  | op :: ops => leasedUntil cfg path (nextLeased cfg path leased s op) (nextLifecycle cfg s op) ops

namespace Effect

variable {written : Option RunLease}

lemma find?_claims (h : Effect cfg s op s' written) (path : String) :
    s'.claims.find? path =
      if written.any (·.claimPath = path) then written else s.claims.find? path := by
  have hput (claims : Table RunLease.claimPath) (lease : RunLease) : (claims.put lease).find? path =
      if (some lease).any (·.claimPath = path) then some lease else claims.find? path := by
    simp
  cases h with
  | unchanged hclaims _ => rw [hclaims]; rfl
  | crashed | refused | unwritten => rfl
  | begun | abandoned | renewed | settled => exact hput s.claims _

/-- The lease that an operation writes is held exactly if the operation leases it. -/
lemma leasesUntil (h : Effect cfg s op s' (some lease)) :
    (if lease.state.isHeld then some lease.expiresAt else none) = op.leasesUntil cfg := by
  cases h with
  | begun hop _ _ _ _ hstate hexpires | abandoned hop _ _ _ hstate hexpires =>
    rw [hop, hstate, hexpires]
    rfl
  | renewed hop hexpired _ _ =>
    simp [hop, Operation.leasesUntil, hexpired, RunLease.renewedUntil, isHeld]
  | settled hop hclock _ hstate =>
    rw [RunLease.inState, hstate.1]
    cases op with
    | renewLease i t clock write =>
      cases hop
      rw [Operation.leasesUntil, if_pos (hclock clock rfl)]
      rfl
    | beginRun => cases hop
    | _ => rfl

end Effect

/-- What the directory says about a claim. -/
def Lifecycle.persistedUntil (s : Lifecycle) (path : String) : Option ℤ :=
  (s.claims.find? path).bind fun lease => if lease.state.isHeld then some lease.expiresAt else none

lemma persistedLive_iff :
    s.PersistedLive t clock ↔ ∃ e, s.persistedUntil t.claimPath = some e ∧ clock < e := by
  unfold PersistedLive persistedUntil
  cases s.claims.find? t.claimPath with
  | none => simp
  | some lease => cases hheld : lease.state.isHeld <;> simp [hheld]

lemma persistedUntil_nextLifecycle (cfg : LifecycleConfig) (s : Lifecycle) (op : Operation)
    (path : String) : (nextLifecycle cfg s op).persistedUntil path =
      nextLeased cfg path (s.persistedUntil path) s op := by
  have heffect := effect_perform cfg s op
  unfold nextLeased Lifecycle.persistedUntil
  rw [heffect.find?_claims path]
  split_ifs with hpath
  · obtain ⟨lease, hwritten, -⟩ := (Option.any_eq_true _ _).mp hpath
    rw [hwritten] at heffect ⊢
    exact heffect.leasesUntil
  · rfl

/-- **Leases.** The directory says what the operations have done. -/
theorem persistedUntil_foldl (cfg : LifecycleConfig) (path : String) (s : Lifecycle)
    (ops : List Operation) : (ops.foldl (nextLifecycle cfg) s).persistedUntil path =
      leasedUntil cfg path (s.persistedUntil path) s ops := by
  induction ops generalizing s with
  | nil => rfl
  | cons op ops ih =>
    rw [List.foldl_cons, ih, leasedUntil, persistedUntil_nextLifecycle]

variable (cfg) in
/-- A ticket that passes the checks of `invoke` is safe to present after the given operations: what
has written its claim last was `begin_run` or a renewal, and its lease lasts beyond the clock. -/
def SafeToPresent (start : Lifecycle) (earlier : List Operation) : Operation → Prop
  | .invoke _ t clock typed _ => typed →
      (earlier.foldl (nextLifecycle cfg) start).assertGranted cfg t = .ok () →
      isExpired t clock = false →
      ∃ e, leasedUntil cfg t.claimPath none start earlier = some e ∧ clock < e
  | _ => True

lemma gated_iff_safeToPresent {start : Lifecycle} (hstart : start.claims = Table.empty _)
    (earlier : List Operation) (op : Operation) :
    Gated cfg (earlier.foldl (nextLifecycle cfg) start) op ↔
      SafeToPresent cfg start earlier op := by
  cases op with
  | invoke i t clock typed write =>
    have hnone : start.persistedUntil t.claimPath = none := by
      rw [Lifecycle.persistedUntil, hstart]
      rfl
    simp only [Gated, SafeToPresent, invoke_eq_ok, persistedLive_iff,
      persistedUntil_foldl cfg t.claimPath start earlier, hnone]
    constructor
    · intro h htyped hgranted hexpired
      exact (h ⟨hgranted, hexpired, htyped⟩).1
    · rintro h ⟨hgranted, hexpired, htyped⟩
      exact ⟨h htyped hgranted hexpired, grant_of_assertGranted hgranted⟩
  | _ => exact Iff.rfl

/-- **Gate.** From an empty state directory on, `invoke` reaches the adapter only with a persisted
lease that is held and has not lapsed and with a grant that is not revoked, if and only if every
ticket that is presented to it is safe to present after the operations before. -/
theorem invoke_gated_iff (cfg : LifecycleConfig) (authority : RunAuthority)
    (ops : List Operation) :
    Run.Along (nextLifecycle cfg) (Gated cfg) (.new authority) ops ↔
      ∀ earlier op later, ops = earlier ++ op :: later →
        SafeToPresent cfg (.new authority) earlier op := by
  rw [Run.along_iff_forall_append]
  exact forall₄_congr fun earlier op _ _ => gated_iff_safeToPresent rfl earlier op

def sampleConfig : LifecycleConfig where
  sha256 := fun _ => "0000000000000000000000000000000000000000000000000000000000000000"
  leasesDir := "/l"
  leaseDurationSeconds := 1
  duration_pos := by decide

def sampleSpec : RunSpec := ⟨"r", "w", zeroDigest, zeroDigest⟩

def sampleLease : RunLease where
  leaseId := "lease.0"
  runId := "r"
  workspaceId := "w"
  executorKind := "agent"
  imageDigest := zeroDigest
  claimPath := "/l/lease.0.json"
  startedAt := 0
  expiresAt := 1000000
  state := .granted
  leaseId_valid := by decide +kernel
  runId_valid := by decide +kernel
  workspaceId_valid := by decide +kernel
  executorKind_valid := sampleGrant.executorKind_valid
  imageDigest_valid := sampleGrant.digestPin_valid
  claimPath_valid := by decide +kernel

def sampleTicket : RunTicket := newTicket sampleSpec "agent" sampleGrant sampleLease

/-- A state directory under an authority with one grant. -/
def sampleStart : Lifecycle :=
  nextLifecycle sampleConfig (.new (.new "h")) (.authority (.register sampleGrant))

/-- The directory in which the sample run is in flight. -/
def sampleBegun : Lifecycle :=
  (sampleStart.acquireLock 0 "w" "/l/lease.0.json" "r").persistLease sampleLease

lemma beginRun_sampleStart :
    sampleStart.beginRun sampleConfig 0 sampleSpec "agent" sampleGrant.claimedImage "h" 0 "0"
      .done =
      ⟨sampleBegun, some sampleLease, .ok sampleTicket⟩ := by
  have hauthorized : sampleStart.grantFor sampleConfig sampleSpec "agent" sampleGrant.claimedImage
    "h" =
      .ok sampleGrant := by decide +kernel
  have hnew : newLease sampleConfig sampleSpec "agent" ("lease." ++ "0") 0 =
      .ok sampleLease := by decide +kernel
  have hlock : sampleStart.lockIsHeld sampleSpec.workspaceId = false := by decide +kernel
  simp only [beginRun, hauthorized, hlock, hnew]
  rfl

lemma nextLifecycle_sampleStart : nextLifecycle sampleConfig sampleStart
    (.beginRun 0 sampleSpec "agent" sampleGrant.claimedImage "h" 0 "0" .done) = sampleBegun := by
  rw [nextLifecycle_beginRun, beginRun_sampleStart]

lemma assertGranted_sampleTicket (h : s.authority = sampleStart.authority) :
    s.assertGranted sampleConfig sampleTicket = .ok () := by
  unfold assertGranted
  rw [h]
  decide +kernel

/-- After the release of its lease a ticket still passes the gate. -/
theorem released_lease_reaches_adapter :
    (sampleStart.beginRun sampleConfig 0 sampleSpec "agent" sampleGrant.claimedImage "h" 0 "0"
      .done).result = .ok sampleTicket ∧
    ¬ Run.Along (nextLifecycle sampleConfig) (Gated sampleConfig) sampleStart
      [.beginRun 0 sampleSpec "agent" sampleGrant.claimedImage "h" 0 "0" .done,
        .release 0 sampleTicket .done, .invoke 0 sampleTicket 1 true .done] := by
  refine ⟨congrArg Outcome.result beginRun_sampleStart, ?_⟩
  rintro ⟨-, -, hgated, -⟩
  rw [nextLifecycle_sampleStart] at hgated
  have hreached : ((sampleBegun.release 0 sampleTicket .done).state.invoke sampleConfig 0
    sampleTicket
      1 true .done).result = .ok () :=
    invoke_eq_ok.mpr ⟨assertGranted_sampleTicket (by rfl), by decide, rfl⟩
  obtain ⟨⟨lease, hfind, hheld, -⟩, -⟩ := hgated hreached
  have hstate : ((sampleBegun.release 0 sampleTicket .done).state.claims.find?
      sampleTicket.claimPath).map (fun lease => lease.state.isHeld) = some false := by
    decide +kernel
  have hheld' : some lease.state.isHeld = some false := by
    rw [← hstate]
    exact (congrArg (Option.map fun lease : RunLease => lease.state.isHeld) hfind).symm
  rw [hheld] at hheld'
  cases hheld'

/-! ### The state of a persisted lease -/

variable (cfg s) in
/-- The token of a new lease names no claim. -/
def FreshToken : Operation → Prop
  | .beginRun _ _ _ _ _ _ token _ => s.claims.find? (cfg.claimPath ("lease." ++ token)) = none
  | _ => True

variable (cfg s op) in
/-- A ticket that has expired is presented only when the persisted lease has lapsed, and a renewal
does not shorten the lease. -/
def Current : Prop :=
  FreshToken cfg s op ∧
    ∀ i t clock lease, op.subject? = some (i, t) → op.clock? = some clock →
      s.claims.find? t.claimPath = some lease →
      (isExpired t clock → lease.expiresAt ≤ clock) ∧
      ∀ write, op = .renewLease i t clock write → lease.expiresAt ≤ clock + cfg.leaseDuration

/-- How an operation can change a claim. -/
inductive Rewrites (cfg : LifecycleConfig) (op : Operation) (lease : RunLease) : RunLease → Prop
  | same : Rewrites cfg op lease lease
  | renewed {i : ℕ} {t : RunTicket} {clock : ℤ} {write : Write} :
      op = .renewLease i t clock write → t.claimPath = lease.claimPath →
      lease.state.isHeld →
      Rewrites cfg op lease (lease.renewedUntil (clock + cfg.leaseDuration))
  | settled {state : LeaseState} : lease.Settles state → Rewrites cfg op lease (lease.inState state)

namespace Effect

variable {written : Option RunLease} {path : String} {lease : RunLease}

/-- A claim that is written again is written in its place. -/
lemma rewrites_put {current new : RunLease}
    (hread : s.claims.find? t.claimPath = some current) (hnew : new.claimPath = current.claimPath)
    (hfind : s.claims.find? path = some lease)
    (h : t.claimPath = current.claimPath → Rewrites cfg op current new) :
    ∃ lease', (s.claims.put new).find? path = some lease' ∧ Rewrites cfg op lease lease' := by
  have hcurrent := (s.claims.find?_eq_some_iff.mp hread).2
  rw [Table.find?_put]
  split_ifs with hpath
  · rw [← hpath, hnew, hcurrent, hread] at hfind
    cases hfind
    exact ⟨new, rfl, h hcurrent.symm⟩
  · exact ⟨lease, hfind, .same⟩

/-- A claim stays where it is and changes as its lease may. -/
lemma rewrites (h : Effect cfg s op s' written) (hfresh : FreshToken cfg s op)
    (hfind : s.claims.find? path = some lease) :
    ∃ lease', s'.claims.find? path = some lease' ∧ Rewrites cfg op lease lease' := by
  cases h with
  | unchanged hclaims _ => exact ⟨lease, by rw [hclaims, hfind], .same⟩
  | crashed i _ | refused _ | unwritten _ _ _ _ => exact ⟨lease, hfind, .same⟩
  | begun hop _ hpath _ _ _ _ | abandoned hop _ hpath _ _ _ =>
    subst hop
    refine ⟨lease, ?_, .same⟩
    change (s.claims.put _).find? path = _
    rw [Table.find?_put, if_neg, hfind]
    rintro rfl
    rw [hpath, hfresh] at hfind
    cases hfind
  | renewed hop _ hread hheld =>
    exact rewrites_put hread rfl hfind fun hpath => .renewed hop hpath hheld
  | settled _ _ hread hstate => exact rewrites_put hread rfl hfind fun _ => .settled hstate

end Effect

variable {path : String}

lemma settled_of_run (hstate : state.isHeld = false)
    (h : Run (nextLifecycle cfg) (FreshToken cfg) s s')
    (hs : ∃ lease, s.claims.find? path = some lease ∧ lease.state = state) :
    ∃ lease, s'.claims.find? path = some lease ∧ lease.state = state := by
  refine h.invariant (I := fun s => ∃ lease, s.claims.find? path = some lease ∧ lease.state = state)
    (fun s op hs hfresh => ?_) hs
  obtain ⟨lease, hfind, rfl⟩ := hs
  obtain ⟨lease', hfind', hrewrites⟩ := (effect_perform cfg s op).rewrites hfresh hfind
  refine ⟨lease', hfind', ?_⟩
  cases hrewrites with
  | same => rfl
  | renewed _ _ hheld => cases hstate.symm.trans hheld
  | settled hsettles => exact hsettles.2 hstate

/-- The persisted lease lasts until `e` at least. -/
def Lifecycle.LastsUntil (s : Lifecycle) (path : String) (e : ℤ) : Prop :=
  ∃ lease, s.claims.find? path = some lease ∧ e ≤ lease.expiresAt

lemma Lifecycle.LastsUntil.run {e : ℤ} (hs : s.LastsUntil path e)
    (h : Run (nextLifecycle cfg) (Current cfg) s s') : s'.LastsUntil path e := by
  refine h.invariant (I := fun s => s.LastsUntil path e) (fun s op hs hcurrent => ?_) hs
  obtain ⟨lease, hfind, he⟩ := hs
  obtain ⟨lease', hfind', hrewrites⟩ := (effect_perform cfg s op).rewrites hcurrent.1 hfind
  refine ⟨lease', hfind', ?_⟩
  cases hrewrites with
  | same => exact he
  | @renewed i t clock write hop hpath _ =>
    have hkey := (s.claims.find?_eq_some_iff.mp hfind).2
    have hread : s.claims.find? t.claimPath = some lease := by rw [hpath, hkey, hfind]
    subst hop
    exact he.trans (((hcurrent.2 i t clock lease rfl rfl hread).2 write rfl))
  | settled _ => exact he

/-- An operation at a clock at which the lease has to last does not write that it has expired. -/
lemma Effect.state_ne_expired {e clock : ℤ}
    (h : Effect cfg s op s' (some lease)) (hs : s.LastsUntil path e) (hcurrent : Current cfg s op)
    (hclock : op.clock? = some clock) (hlt : clock < e) (hpath : lease.claimPath = path) :
    lease.state ≠ .expired := by
  intro hexpired
  obtain ⟨persisted, hfind, he⟩ := hs
  cases h with
  | begun _ _ _ _ _ hgranted _ | abandoned _ _ _ _ hgranted _ => cases hgranted.symm.trans hexpired
  | renewed _ _ _ _ => cases hexpired
  | @settled i t current state hop hjudged hread _ =>
    have hkey : t.claimPath = path := by
      rw [← hpath]
      exact (s.claims.find?_eq_some_iff.mp hread).2.symm
    obtain rfl : current = persisted := by
      rw [← hkey, hread] at hfind
      exact Option.some.inj hfind
    have hlapsed := (hcurrent.2 i t clock current hop hclock hread).1 (hjudged clock hclock)
    omega

lemma Lifecycle.lastsUntil_of_renewLease {t t' : RunTicket}
    (h : (s.renewLease cfg i t clock write).result = .ok t') :
    (s.renewLease cfg i t clock write).state.LastsUntil t'.claimPath t'.leaseExpiresAt := by
  cases hgranted : s.assertGranted cfg t with
  | error e => simp [renewLease, hgranted, stay] at h
  | ok u =>
    cases hexpired : isExpired t clock with
    | true =>
      obtain ⟨e, he⟩ := failExpired_result (α := RunTicket) s i t write
      simp [renewLease, hgranted, hexpired, he] at h
    | false =>
      simp only [renewLease, hgranted, hexpired, Bool.false_eq_true, if_false] at h ⊢
      cases hread : s.readLease t with
      | error e => simp [renewCurrent, hread, stay] at h
      | ok current =>
        by_cases hterminal : current.state.isTerminal
        · simp [renewCurrent, hread, hterminal, stay] at h
        · have hheld : current.state.isHeld := by
            simpa [isTerminal] using hterminal
          cases write with
          | failed | raised => simp [renewCurrent, hread, hterminal, RunLease.renew_eq hheld,
              stay] at h
          | done =>
            simp only [renewCurrent, hread, hterminal, RunLease.renew_eq hheld, Bool.false_eq_true,
              if_false, Except.ok.injEq] at h ⊢
            subst h
            refine ⟨current.renewedUntil (clock + cfg.leaseDuration), ?_, le_rfl⟩
            change (s.claims.put _).find? t.claimPath = _
            rw [Table.find?_put, if_pos]
            exact (s.claims.find?_eq_some_iff.mp (readLease_eq_ok.mp hread)).2

/-- **Renewal.** After a renewal until `e`, in every run in which a ticket that has expired is
presented only when the persisted lease has lapsed and renewals do not shorten leases, no operation
at a clock before `e` writes that the lease has expired. The state of a persisted lease that is
settled is never replaced. -/
theorem renewal_kept (cfg : LifecycleConfig) :
    (∀ s i t clock write t', (renewLease cfg s i t clock write).result = .ok t' →
      ∀ s', Run (nextLifecycle cfg) (Current cfg)
        (renewLease cfg s i t clock write).state s' →
      ∀ op clock' lease, Current cfg s' op → op.clock? = some clock' → clock' < t'.leaseExpiresAt →
        (perform cfg s' op).written = some lease → lease.claimPath = t'.claimPath →
        lease.state ≠ .expired) ∧
    ∀ s s' path lease, Run (nextLifecycle cfg) (FreshToken cfg) s s' →
      s.claims.find? path = some lease → lease.state.isTerminal →
      ∃ lease', s'.claims.find? path = some lease' ∧ lease'.state = lease.state := by
  refine ⟨fun s i t clock write t' hrenew s' hrun op clock' lease hcurrent hclock hlt hwritten
    hpath => ?_, fun s s' path lease hrun hfind hterminal => ?_⟩
  · have hlasts := (Lifecycle.lastsUntil_of_renewLease hrenew).run hrun
    have heffect := effect_perform cfg s' op
    rw [hwritten] at heffect
    exact heffect.state_ne_expired hlasts hcurrent hclock hlt hpath
  · exact settled_of_run (isTerminal_eq_true.mp hterminal) hrun ⟨lease, hfind, rfl⟩

def sampleRenewed : RunTicket :=
  { sampleTicket with leaseExpiresAt := 1500000, lease := sampleLease.renewedUntil 1500000 }

lemma renewLease_sampleBegun :
    (sampleBegun.renewLease sampleConfig 0 sampleTicket 500000 .done) =
      ⟨sampleBegun.persistLease sampleRenewed.lease, some sampleRenewed.lease,
        .ok sampleRenewed⟩ := by
  have hgranted : sampleBegun.assertGranted sampleConfig sampleTicket = .ok () :=
    assertGranted_sampleTicket rfl
  have hexpired : isExpired sampleTicket 500000 = false := by decide
  have hread : sampleBegun.readLease sampleTicket = .ok sampleLease := by decide +kernel
  simp only [renewLease, hgranted, hexpired, renewCurrent, hread]
  rfl

/-- The directory after the renewal and one more renewal of the renewed ticket. -/
def sampleTwice : Lifecycle :=
  nextLifecycle sampleConfig (sampleBegun.renewLease sampleConfig 0 sampleTicket 500000 .done).state
    (.renewLease 0 sampleRenewed 1000000 .done)

/-- A renewal of a ticket that has not expired, of a lease that does not last longer than renewed.
-/
lemma current_renewLease {clock e : ℤ} (hexpired : isExpired sampleRenewed clock = false)
    (hfind : (s.claims.find? sampleRenewed.claimPath).map RunLease.expiresAt = some e)
    (he : e ≤ clock + sampleConfig.leaseDuration) :
    Current sampleConfig s (.renewLease 0 sampleRenewed clock .done) := by
  refine ⟨trivial, ?_⟩
  rintro i t clock' lease ⟨⟩ ⟨⟩ hlease
  rw [hlease] at hfind
  cases hfind
  exact ⟨fun h => (by cases hexpired.symm.trans h), fun _ _ => he⟩

theorem renewal_kept_sampleRenewed :
    (sampleBegun.renewLease sampleConfig 0 sampleTicket 500000 .done).result = .ok sampleRenewed ∧
    ∃ lease, (perform sampleConfig sampleTwice
      (.renewLease 0 sampleRenewed 1200000 .done)).written =
        some lease ∧ lease.claimPath = sampleRenewed.claimPath ∧ lease.state ≠ .expired := by
  have hrenew := congrArg Outcome.result renewLease_sampleBegun
  have hrun : Run (nextLifecycle sampleConfig) (Current sampleConfig)
      (sampleBegun.renewLease sampleConfig 0 sampleTicket 500000 .done).state sampleTwice :=
    (Run.refl _).step (current_renewLease (by decide) (e := 1500000) (by decide +kernel)
      (by decide))
  have hcurrent : Current sampleConfig sampleTwice (.renewLease 0 sampleRenewed 1200000 .done) :=
    current_renewLease (by decide) (e := 2000000) (by decide +kernel) (by decide)
  have hpath : ((perform sampleConfig sampleTwice
      (.renewLease 0 sampleRenewed 1200000 .done)).written).map RunLease.claimPath =
        some sampleRenewed.claimPath := by decide +kernel
  obtain ⟨lease, hwritten, hpath⟩ := Option.map_eq_some_iff.mp hpath
  exact ⟨hrenew, lease, hwritten, hpath, (renewal_kept sampleConfig).1 _ _ _ _ _ _ hrenew _ hrun _
    1200000 lease hcurrent rfl (by decide) hwritten hpath⟩

/-- A ticket from before the renewal makes the lease expire before its new end. -/
theorem older_ticket_expires_renewed_lease :
    nextLifecycle sampleConfig sampleStart
      (.beginRun 0 sampleSpec "agent" sampleGrant.claimedImage "h" 0 "0" .done) = sampleBegun ∧
    (sampleBegun.renewLease sampleConfig 0 sampleTicket 500000 .done).result = .ok sampleRenewed ∧
    (perform sampleConfig (sampleBegun.renewLease sampleConfig 0 sampleTicket 500000 .done).state
      (.failIfExpired 0 sampleTicket 1200000 .done)).written =
        some (sampleRenewed.lease.inState .expired) ∧
    (1200000 : ℤ) < sampleRenewed.leaseExpiresAt := by
  rw [renewLease_sampleBegun]
  exact ⟨nextLifecycle_sampleStart, rfl, by decide +kernel, by decide⟩

end StatePort.ExecutionHost
