import StatePort.Goal.Equiv.Session

/-!
# One approved item for each instance

The sessions of a process share one registry. `OneApprovedItem` says that at most one session of an
instance is between approval and the end, and that exactly those sessions hold the active lease of
their instance. `one_approved_item_iff` says when this holds throughout a history, together with
the finality of the ends and the order of the generations: exactly if no approval gets a lease
although the digest of its delegation plan raises.

The invariant is `Consistent`. A call changes one session and at most the lease of its instance, so
`Consistent.set` needs only what happens there; the cases of `Move` provide it.
-/

namespace StatePort.Goal

open List Function Process Governed

open Daemon (Interpreter Digest)

variable {py : Interpreter} {p : Process} {session after : Session} {i : ℕ}
  {lease : InstanceApprovalLease} {g : Governed}

/-- The states of a session that owns the approved item of its instance. -/
def GoalExecutionState.isHolding (state : GoalExecutionState) : Bool :=
  state ∈ [approved, executing, awaitingReview, reviewed]

namespace Process

/-- Whether a session holds the active lease of its instance. -/
def HoldsLease (p : Process) (session : Session) : Prop :=
  ∃ lease, p.registry.active session.key = some (lease, session.leaseOwner)

/-- At most one session of an instance has an approved item, and exactly the sessions with one hold
the active leases. -/
structure OneApprovedItem (process : Process) : Prop where
  unique : ∀ (i j : ℕ) (s t : Session), process.sessions[i]? = some s → process.sessions[j]? = some t →
    s.key = t.key → s.state.isHolding → t.state.isHolding → i = j
  holds : ∀ (i : ℕ) (s : Session), process.sessions[i]? = some s →
    (s.state.isHolding ↔ process.HoldsLease s)
  owned : ∀ key lease owner, process.registry.active key = some (lease, owner) →
    ∃ (i : ℕ) (s : Session), process.sessions[i]? = some s ∧ s.key = key ∧ s.leaseOwner = owner

/-- The sessions that have ended are still there, in the same state. -/
def KeepsEnded (p later : Process) : Prop :=
  ∀ (i : ℕ) (s : Session), p.sessions[i]? = some s → s.state.isTerminal →
    ∃ t : Session, later.sessions[i]? = some t ∧ t.state = s.state

/-- The leases of an instance that are given out from one moment to the next. -/
def granted (key : InstanceKey) (p later : Process) : List InstanceApprovalLease :=
  match later.registry.active key with
  | none => []
  | some (lease, owner) =>
    if p.registry.active key = some (lease, owner) then [] else [lease]

/-- The leases of an instance that are given out in a history, in order. -/
def leases (py : Interpreter) (key : InstanceKey) : Process → List Event → List InstanceApprovalLease
  | _, [] => []
  | p, event :: events =>
    granted key p (p.next py event) ++ leases py key (p.next py event) events

variable (py p) in
/-- The event is an approval that gets its lease although the digest of the delegation plan
raises. -/
def Leaks (event : Event) : Prop :=
  ∃ (index : ℕ) (arguments : Approve) (session : Session) (planDigest : Digest)
      (lease : InstanceApprovalLease) (registry : InstanceApprovalLeaseRegistry) (e : Raised),
    event = .call index (.approve arguments) ∧ p.sessions[index]? = some session ∧
    checkApproval py arguments ⟨p.registry, session⟩ =
      (.ok planDigest, ⟨p.registry, session⟩) ∧
    InstanceApprovalLeaseRegistry.acquire py session.leaseOwner
      (leaseRequest session arguments planDigest) p.registry = (.ok (some lease), registry) ∧
    digest py session.delegation = .error e

end Process

/-! ### The invariant -/

variable (registry : InstanceApprovalLeaseRegistry)

/-- The session has its lease exactly while it holds the item. -/
structure Fits (session : Session) : Prop where
  held : session.state.isHolding → ∃ lease, session.instanceLease = some lease ∧
    lease.key = session.key ∧ registry.active session.key = some (lease, session.leaseOwner)
  idle : session.state.isHolding = false → session.instanceLease = none

section

variable (py)

/-- The digests that the constructor of a session has computed. -/
structure HasDigests (arguments : SessionArguments) : Prop where
  profile : ∃ profileDigest, digest py arguments.profile = .ok profileDigest
  acceptance : ∃ acceptanceDigest, digest py arguments.acceptance = .ok acceptanceDigest

/-- The session at a position of a process. -/
structure Member (i : ℕ) (session : Session) : Prop extends Fits registry session where
  owner : session.leaseOwner = i + 1
  digests : HasDigests py session.toSessionArguments

/-- What holds at every moment of a history in which nothing leaks. -/
structure Consistent (process : Process) : Prop where
  sequence : process.registry.ownerSequence = process.sessions.length
  member : ∀ (i : ℕ) (s : Session), process.sessions[i]? = some s → Member py process.registry i s
  owned : ∀ key lease owner, process.registry.active key = some (lease, owner) →
    ∃ (i : ℕ) (s : Session), process.sessions[i]? = some s ∧ s.key = key ∧ s.leaseOwner = owner ∧
      s.state.isHolding

end

namespace Consistent

lemma start : Consistent py Process.start :=
  ⟨rfl, fun _ _ h => by simp [Process.start] at h, nofun⟩

section

variable (h : Consistent py p)
include h

lemma oneApprovedItem : p.OneApprovedItem where
  unique i j s t hs ht hkey hholds hholdt := by
    obtain ⟨lease, _, _, hactive⟩ := (h.member i s hs).held hholds
    obtain ⟨lease', _, _, hactive'⟩ := (h.member j t ht).held hholdt
    -- Both own the active lease of the instance, and owners are numbered by position.
    rw [hkey, hactive'] at hactive
    have howner : t.leaseOwner = s.leaseOwner := by simp_all
    rw [(h.member i s hs).owner, (h.member j t ht).owner] at howner
    exact (Nat.succ.inj howner).symm
  holds i s hs := by
    constructor
    · intro hhold
      obtain ⟨lease, _, _, hactive⟩ := (h.member i s hs).held hhold
      exact ⟨lease, hactive⟩
    · rintro ⟨lease, hactive⟩
      obtain ⟨j, t, ht, _, howner, hhold⟩ := h.owned _ _ _ hactive
      rw [(h.member j t ht).owner, (h.member i s hs).owner] at howner
      obtain rfl : j = i := Nat.succ.inj howner
      cases hs.symm.trans ht
      exact hhold
  owned key lease owner hactive := by
    obtain ⟨i, s, hs, hkey, howner, _⟩ := h.owned key lease owner hactive
    exact ⟨i, s, hs, hkey, howner⟩

lemma new (hfresh : Fresh py p.registry session) :
    Consistent py ⟨p.registry.allocateOwner.2, p.sessions ++ [session]⟩ := by
  refine ⟨?_, fun i s hs => ?_, fun key lease owner hactive => ?_⟩
  · show p.registry.ownerSequence + 1 = (p.sessions ++ [session]).length
    rw [h.sequence, length_append]
    rfl
  · rw [getElem?_append] at hs
    split_ifs at hs with hi
    · have hmember := h.member i s hs
      exact ⟨⟨hmember.held, hmember.idle⟩, hmember.owner, hmember.digests⟩
    · rw [getElem?_singleton] at hs
      split_ifs at hs with hlast
      cases hs
      obtain rfl : i = p.sessions.length := by omega
      refine ⟨⟨fun hhold => ?_, fun _ => hfresh.lease⟩, ?_, hfresh.profile, hfresh.acceptance⟩
      · rw [hfresh.state] at hhold
        cases hhold
      · rw [hfresh.owner, h.sequence]
  · obtain ⟨i, s, hs, hrest⟩ := h.owned key lease owner hactive
    have hi : i < p.sessions.length := (List.getElem?_eq_some_iff.mp hs).1
    exact ⟨i, s, by rw [List.getElem?_append_left hi, hs], hrest⟩

variable (hs : p.sessions[i]? = some session)
include hs

variable {registry} in
/-- One session changes, and at most its own lease. -/
lemma set (harguments : after.toSessionArguments = session.toSessionArguments)
    (howner : after.leaseOwner = session.leaseOwner)
    (hsequence : registry.ownerSequence = p.registry.ownerSequence)
    (hothers : ∀ key lease owner, key ≠ session.key ∨ owner ≠ session.leaseOwner →
      (registry.active key = some (lease, owner) ↔ p.registry.active key =
      some (lease, owner)))
    (hfits : Fits registry after)
    (howned : ∀ lease, registry.active session.key = some (lease, session.leaseOwner) →
      after.state.isHolding) :
    Consistent py ⟨registry, p.sessions.set i after⟩ := by
  have hi : i < p.sessions.length := (List.getElem?_eq_some_iff.mp hs).1
  have hself : (p.sessions.set i after)[i]? = some after := List.getElem?_set_self hi
  have hother : ∀ j : ℕ, j ≠ i → (p.sessions.set i after)[j]? = p.sessions[j]? :=
    fun j hj => getElem?_set_ne (Ne.symm hj)
  have hmember := h.member i session hs
  refine ⟨?_, fun j s hj => ?_, fun key lease owner hactive => ?_⟩
  · show registry.ownerSequence = (p.sessions.set i after).length
    rw [hsequence, h.sequence, length_set]
  · by_cases hji : j = i
    · subst hji
      cases hself.symm.trans hj
      exact ⟨hfits, howner.trans hmember.owner, by rw [harguments]; exact hmember.digests⟩
    · rw [hother j hji] at hj
      have hkept := h.member j s hj
      refine ⟨⟨fun hhold => ?_, hkept.idle⟩, hkept.owner, hkept.digests⟩
      obtain ⟨lease, hlease, hleaseKey, hactive⟩ := hkept.held hhold
      have hne : s.leaseOwner ≠ session.leaseOwner := by
        rw [hkept.owner, hmember.owner]
        exact fun heq => hji (Nat.succ.inj heq)
      exact ⟨lease, hlease, hleaseKey, (hothers _ _ _ (.inr hne)).mpr hactive⟩
  · by_cases hsame : key = session.key ∧ owner = session.leaseOwner
    · obtain ⟨rfl, rfl⟩ := hsame
      exact ⟨i, after, hself, by rw [harguments], howner, howned lease hactive⟩
    · have hne : key ≠ session.key ∨ owner ≠ session.leaseOwner := by tauto
      obtain ⟨j, s, hj, hrest⟩ := h.owned key lease owner ((hothers _ _ _ hne).mp hactive)
      have hji : j ≠ i := by
        rintro rfl
        cases hs.symm.trans hj
        rcases hne with hne | hne
        · exact hne hrest.1.symm
        · exact hne hrest.2.1.symm
      exact ⟨j, s, by rw [hother j hji]; exact hj, hrest⟩

/-- The session holds the item if it owns the active lease of its instance. -/
lemma holding_of_active
    (hactive : p.registry.active session.key = some (lease, session.leaseOwner)) :
    session.state.isHolding :=
  (h.oneApprovedItem.holds i session hs).mpr ⟨lease, hactive⟩

section

variable (harguments : after.toSessionArguments = session.toSessionArguments)
  (howner : after.leaseOwner = session.leaseOwner)
  (hlease : after.instanceLease = session.instanceLease)
include harguments howner hlease

/-- The session changes and the registry does not. -/
lemma setSession
    (hstate : after.state.isHolding = session.state.isHolding) :
    Consistent py ⟨p.registry, p.sessions.set i after⟩ := by
  have hfits := h.member i session hs
  refine h.set hs harguments howner rfl (fun _ _ _ _ => Iff.rfl) ⟨?_, ?_⟩ ?_
  · rw [hstate, hlease, howner, harguments]
    exact hfits.held
  · rw [hstate, hlease]
    exact hfits.idle
  · intro lease hactive
    rw [hstate]
    exact h.holding_of_active hs hactive

/-- The session gives its lease back and does not hold the item any more. -/
lemma released
    (hstate : after.state.isHolding = false) :
    let t := released ⟨p.registry, after⟩
    Consistent py ⟨t.registry, p.sessions.set i t.session⟩ := by
  have hfits := h.member i session hs
  cases hholding : session.state.isHolding with
  | false =>
    have hnone : after.instanceLease = none := hlease.trans (hfits.idle hholding)
    have hreleased : Governed.released ⟨p.registry, after⟩ = ⟨p.registry, after⟩ := by
      simp only [Governed.released, hnone]
    rw [hreleased]
    exact h.setSession hs harguments howner hlease (hstate.trans hholding.symm)
  | true =>
    obtain ⟨lease, hsome, hkey, hactive⟩ := hfits.held hholding
    have hreleased : Governed.released ⟨p.registry, after⟩ =
        ⟨{ p.registry with
            active := update p.registry.active session.key none },
          { after with instanceLease := none }⟩ := by
      simp only [Governed.released, hlease, hsome, InstanceApprovalLeaseRegistry.release, hkey,
        howner, hactive, if_true]
    rw [hreleased]
    refine h.set hs harguments howner rfl ?_ ⟨?_, fun _ => rfl⟩ ?_
    · intro key other owner hne
      by_cases hsame : key = session.key
      · subst hsame
        have hother : owner ≠ session.leaseOwner := by tauto
        simp only [update_self, hactive]
        simp [Ne.symm hother]
      · simp only [update_of_ne hsame]
    · intro hhold
      cases hstate.symm.trans hhold
    · intro other hother
      simp only [update_self] at hother
      cases hother

end

/-- The session gets the lease of its instance, which was free. -/
lemma granted (hacquires : Acquires ⟨p.registry, session⟩ lease)
    (harguments : after.toSessionArguments = session.toSessionArguments)
    (howner : after.leaseOwner = session.leaseOwner) (hlease : after.instanceLease = some lease)
    (hstate : after.state.isHolding) :
    Consistent py ⟨(acquired ⟨p.registry, session⟩ lease).registry,
      p.sessions.set i after⟩ := by
  have hactive : (acquired ⟨p.registry, session⟩ lease).registry.active =
      update p.registry.active session.key (some (lease, session.leaseOwner)) := by
    rw [← hacquires.key]
    rfl
  refine h.set hs harguments howner rfl ?_ ⟨fun _ => ⟨lease, hlease, ?_, ?_⟩, ?_⟩ fun _ _ => hstate
  · intro key other owner hne
    rw [hactive]
    by_cases hsame : key = session.key
    · subst hsame
      have hother : owner ≠ session.leaseOwner := by tauto
      have hfree : p.registry.active session.key = none := hacquires.free
      simp [hfree, Ne.symm hother]
    · rw [update_of_ne hsame]
  · rw [harguments]
    exact hacquires.key
  · rw [hactive, harguments, howner, update_self]
  · intro hidle
    cases hstate.symm.trans hidle

/-- **Step lemma.** A move that leaks nothing keeps the sessions consistent. -/
theorem move {t : Governed} (hmove : Move py False ⟨p.registry, session⟩ t) :
    Consistent py ⟨t.registry, p.sessions.set i t.session⟩ := by
  cases hmove with
  | same => exact h.setSession hs rfl rfl rfl rfl
  | counted lease hready hlease =>
    have hidle : session.instanceLease = none := (h.member i session hs).idle (by
      rw [show session.state = .proposalReady from hready]
      rfl)
    have hnone : lease = none := by
      rcases hlease with hnone | hsame
      · exact hnone
      · exact hsame.trans hidle
    -- Only the generation changes, and no session looks at it.
    have hsame : Consistent py ⟨p.registry,
        p.sessions.set i { session with instanceLease := lease }⟩ :=
      h.setSession hs rfl rfl (hnone.trans hidle.symm) rfl
    refine ⟨hsame.sequence, fun j s hj => ?_, hsame.owned⟩
    have hmember := hsame.member j s hj
    exact ⟨⟨hmember.held, hmember.idle⟩, hmember.owner, hmember.digests⟩
  | leaked lease hlease hleaks => exact hleaks.elim
  | granted lease approval hlease happroval => exact h.granted hs hlease rfl rfl rfl rfl
  | began hstate =>
    refine h.setSession hs rfl rfl rfl ?_
    rw [show session.state = .approved from hstate]
    rfl
  | recorded result hstate hresult =>
    refine h.setSession hs rfl rfl rfl ?_
    rw [show session.state = .executing from hstate]
    rfl
  | reviewed review hstate hreview =>
    refine h.setSession hs rfl rfl rfl ?_
    rw [show session.state = .awaitingReview from hstate]
    rfl
  | ended review code message hstate
  | closed closure receipt hstate hclosed => exact h.released hs rfl rfl rfl rfl

end

end Consistent

/-! ### Leaks -/

/-- With the digests that its constructor has computed, a session lacks a digest of its approval
only if the delegation plan has none. -/
lemma approvalDigests_eq_error_iff {planDigest : Digest}
    (hplan : digest py session.plan = .ok planDigest)
    (hdigests : HasDigests py session.toSessionArguments) :
    (∃ e, approvalDigests py session = .error e) ↔ ∃ e, digest py session.delegation = .error e := by
  obtain ⟨profileDigest, hprofile⟩ := hdigests.profile
  obtain ⟨acceptanceDigest, hacceptance⟩ := hdigests.acceptance
  cases hdelegation : digest py session.delegation with
  | error e => simp [approvalDigests, hplan, hprofile, hdelegation]
  | ok delegationDigest =>
    simp [approvalDigests, hplan, hprofile, hdelegation, hacceptance, pure, Except.pure]

/-- An approval that leaks stops right after the lease is set. -/
lemma acquired_of_leaks {call : Call} (h : call.Leaks py g) :
    ∃ lease, g.Acquires lease ∧ (call.method py g).2 = g.acquired lease := by
  cases call with
  | approve arguments =>
    obtain ⟨planDigest, lease, registry, e, hcheck, hacquired, hdigests⟩ := h
    have happrovable := approvable_of_checkApproval hcheck
    rcases acquire_cases py g.registry g.session.leaseOwner
      (leaseRequest g.session arguments planDigest) with htaken | ⟨e', hraised⟩ | hlease
    · cases hacquired.symm.trans htaken
    · cases hacquired.symm.trans hraised
    · obtain ⟨lease', hfree, hkey, hgeneration, houtcome⟩ := hlease
      refine ⟨lease', ⟨happrovable.ready, hfree, hkey, hgeneration⟩, ?_⟩
      show (approve py arguments g).2 = _
      rw [approve, Effect.bind_apply_ok hcheck,
        Effect.bind_apply_ok (show self g = (.ok g.session, g) from rfl),
        Effect.bind_apply_ok (show onRegistry _ g =
          (.ok (some lease'), ⟨(g.acquired lease').registry, g.session⟩) by
            simp only [onRegistry, houtcome]
            rfl)]
      show (((Effect.lift (approvalDigests py g.session) >>= _ : Method PUnit))
        (g.acquired lease')).2 = _
      rw [hdigests]
      rfl
  | _ => exact h.elim

namespace Process

lemma next_call (call : Call) (hs : p.sessions[i]? = some session) :
    p.next py (.call i call) =
      ⟨(call.method py ⟨p.registry, session⟩).2.registry,
        p.sessions.set i (call.method py ⟨p.registry, session⟩).2.session⟩ := by
  simp only [next, hs]

variable (py p) in
/-- What an event does: nothing, a new session, or a move of one session. -/
lemma next_cases (event : Event) : p.next py event = p ∨
    (∃ session, Fresh py p.registry session ∧ p.next py event =
      ⟨p.registry.allocateOwner.2, p.sessions ++ [session]⟩) ∨
    ∃ i call session t, event = .call i call ∧ p.sessions[i]? = some session ∧
      Move py (call.Leaks py ⟨p.registry, session⟩) ⟨p.registry, session⟩ t ∧
      p.next py event = ⟨t.registry, p.sessions.set i t.session⟩ := by
  cases event with
  | new arguments =>
    rcases newSession_cases py arguments p.registry with ⟨e, hrefused⟩ | ⟨session, hnew, hfresh⟩
    · exact .inl (by simp only [next, hrefused])
    · exact .inr (.inl ⟨session, hfresh, by simp only [next, hnew]⟩)
  | call i call =>
    cases hs : p.sessions[i]? with
    | none => exact .inl (by simp only [next, hs])
    | some session =>
      exact .inr (.inr ⟨i, call, session, _, rfl, hs, move_method py call _, next_call call hs⟩)

lemma leaks_call_iff {call : Call} (h : Consistent py p)
    (hs : p.sessions[i]? = some session) :
    p.Leaks py (.call i call) ↔ call.Leaks py ⟨p.registry, session⟩ := by
  have hdigests := (h.member i session hs).digests
  constructor
  · rintro ⟨index, arguments, other, planDigest, lease, registry, e, hevent, hother, hcheck,
      hacquired, hdelegation⟩
    cases hevent
    cases hs.symm.trans hother
    have happrovable := approvable_of_checkApproval hcheck
    obtain ⟨e', he'⟩ :=
      (approvalDigests_eq_error_iff happrovable.plan hdigests).mpr ⟨e, hdelegation⟩
    exact ⟨planDigest, lease, registry, e', hcheck, hacquired, he'⟩
  · intro hleaks
    cases call with
    | approve arguments =>
      obtain ⟨planDigest, lease, registry, e, hcheck, hacquired, happroval⟩ := hleaks
      have happrovable := approvable_of_checkApproval hcheck
      obtain ⟨e', he'⟩ := (approvalDigests_eq_error_iff happrovable.plan hdigests).mp ⟨e, happroval⟩
      exact ⟨i, arguments, session, planDigest, lease, registry, e', rfl, hs, hcheck, hacquired,
        he'⟩
    | _ => exact hleaks.elim

/-- An event that leaks nothing keeps the sessions consistent. -/
lemma consistent_next {event : Event} (h : Consistent py p)
    (hleaks : ¬ p.Leaks py event) : Consistent py (p.next py event) := by
  rcases next_cases py p event with hnext | ⟨session, hfresh, hnext⟩ |
    ⟨i, call, session, t, rfl, hs, hmove, hnext⟩
  · rwa [hnext]
  · rw [hnext]
    exact h.new hfresh
  · rw [leaks_call_iff h hs] at hleaks
    rw [eq_false hleaks] at hmove
    rw [hnext]
    exact h.move hs hmove

/-- After a leak, a session without an approved item holds the lease of its instance. -/
lemma not_oneApprovedItem_of_leaks {event : Event} (h : Consistent py p)
    (hleaks : p.Leaks py event) : ¬ (p.next py event).OneApprovedItem := by
  intro hone
  obtain ⟨i, arguments, session, _, _, _, _, rfl, hs, _⟩ := id hleaks
  obtain ⟨lease, hacquires, hafter⟩ := acquired_of_leaks ((leaks_call_iff h hs).mp hleaks)
  rw [next_call _ hs, hafter] at hone
  have hi : i < p.sessions.length := (List.getElem?_eq_some_iff.mp hs).1
  have hholds := (hone.holds i _ (List.getElem?_set_self hi)).mpr ⟨lease, by
    show update p.registry.active lease.key (some (lease, session.leaseOwner))
      session.key = _
    rw [show lease.key = session.key from hacquires.key, update_self]
    rfl⟩
  rw [show (acquired ⟨p.registry, session⟩ lease).session.state = .proposalReady
    from hacquires.ready] at hholds
  cases hholds

/-! ### Ends and generations -/

variable (py p) in
lemma keepsEnded_next (event : Event) : p.KeepsEnded (p.next py event) := by
  intro j s hj hterminal
  have hlt : j < p.sessions.length := (List.getElem?_eq_some_iff.mp hj).1
  rcases next_cases py p event with hnext | ⟨session, _, hnext⟩ |
    ⟨i, call, session, t, _, hs, hmove, hnext⟩
  · exact ⟨s, by rw [hnext, hj], rfl⟩
  · exact ⟨s, by rw [hnext, getElem?_append_left hlt, hj], rfl⟩
  · rw [hnext]
    by_cases hji : j = i
    · subst hji
      cases hs.symm.trans hj
      exact ⟨_, getElem?_set_self hlt, hmove.state_of_isTerminal hterminal⟩
    · exact ⟨s, by rw [getElem?_set_ne (Ne.symm hji), hj], rfl⟩

lemma KeepsEnded.trans {first second third : Process} (h : first.KeepsEnded second)
    (h' : second.KeepsEnded third) : first.KeepsEnded third := by
  intro i s hs hterminal
  obtain ⟨t, ht, hstate⟩ := h i s hs hterminal
  obtain ⟨u, hu, hstate'⟩ := h' i t ht (by rw [hstate]; exact hterminal)
  exact ⟨u, hu, hstate'.trans hstate⟩

lemma KeepsEnded.refl (p : Process) : p.KeepsEnded p :=
  fun _ s hs _ => ⟨s, hs, rfl⟩

/-- The generations of an instance do not go back, and a lease that was not active before is of a
generation that was not there before. -/
structure Later (registry after : InstanceApprovalLeaseRegistry) (key : InstanceKey) : Prop where
  generations : registry.generations key ≤ after.generations key
  active : ∀ lease owner, after.active key = some (lease, owner) →
    registry.active key = some (lease, owner) ∨
      (registry.generations key < lease.generation ∧ lease.generation ≤ after.generations key)

variable (registry : InstanceApprovalLeaseRegistry)

lemma Later.refl (key : InstanceKey) : Later registry registry key :=
  ⟨le_rfl, fun _ _ h => .inl h⟩

lemma later_nextGeneration (counted key : InstanceKey) :
    Later registry (registry.nextGeneration counted) key := by
  refine ⟨?_, fun _ _ h => .inl h⟩
  show _ ≤ update registry.generations counted _ key
  by_cases hkey : key = counted
  · rw [hkey, update_self]
    omega
  · rw [update_of_ne hkey]

lemma later_released (session : Session)
    (key : InstanceKey) : Later registry (released ⟨registry, session⟩).registry key := by
  unfold released
  split
  · exact Later.refl _ key
  · rename_i lease _
    show Later registry (registry.release lease session.leaseOwner) key
    unfold InstanceApprovalLeaseRegistry.release
    by_cases hactive : registry.active lease.key = some (lease, session.leaseOwner)
    · rw [if_pos hactive]
      refine ⟨le_rfl, fun other owner hother => ?_⟩
      by_cases hkey : key = lease.key
      · subst hkey
        simp at hother
      · simp only [update_of_ne hkey] at hother
        exact .inl hother
    · rw [if_neg hactive]
      exact Later.refl _ key

lemma later_acquired (h : g.Acquires lease) (key : InstanceKey) :
    Later g.registry (g.acquired lease).registry key := by
  refine ⟨(later_nextGeneration g.registry g.session.key key).generations, ?_⟩
  intro other owner hother
  change update g.registry.active lease.key _ key = _ at hother
  by_cases hkey : key = lease.key
  · subst hkey
    rw [update_self] at hother
    cases hother
    right
    show _ ∧ _ ≤ update g.registry.generations g.session.key _ lease.key
    rw [h.generation, h.key, update_self]
    omega
  · rw [update_of_ne hkey] at hother
    exact .inl hother

lemma later_move {leaks : Prop} {t : Governed} (h : Move py leaks g t) (key : InstanceKey) :
    Later g.registry t.registry key := by
  cases h with
  | same => exact Later.refl _ key
  | counted => exact later_nextGeneration _ _ key
  | leaked lease hlease | granted lease approval hlease => exact later_acquired hlease key
  | began | recorded | reviewed => exact Later.refl _ key
  | ended | closed => exact later_released _ _ key

variable (py p) in
lemma later_next (event : Event) (key : InstanceKey) :
    Later p.registry (p.next py event).registry key := by
  rcases next_cases py p event with hnext | ⟨_, _, hnext⟩ | ⟨_, _, _, _, _, _, hmove, hnext⟩
  · rw [hnext]
    exact Later.refl _ key
  · rw [hnext]
    exact ⟨le_rfl, fun _ _ h => .inl h⟩
  · rw [hnext]
    exact later_move hmove key

lemma generation_of_mem_granted {key : InstanceKey} {later : Process}
    (h : Later p.registry later.registry key) (hlease : lease ∈ granted key p later) :
    p.registry.generations key < lease.generation ∧
      lease.generation ≤ later.registry.generations key := by
  unfold granted at hlease
  cases hactive : later.registry.active key with
  | none => simp [hactive] at hlease
  | some pair =>
    obtain ⟨other, owner⟩ := pair
    simp only [hactive] at hlease
    by_cases hold : p.registry.active key = some (other, owner)
    · simp [hold] at hlease
    · rw [if_neg hold, mem_singleton] at hlease
      rw [hlease]
      exact (h.active other owner hactive).resolve_left hold

lemma pairwise_granted (key : InstanceKey) (p later : Process) :
    ((granted key p later).map (·.generation)).Pairwise (· < ·) := by
  unfold granted
  split
  · exact Pairwise.nil
  · split_ifs
    · exact Pairwise.nil
    · exact pairwise_singleton _ _

section

variable (py)

/-- The leases of a history have increasing generations, all later than where it starts. -/
lemma leases_increase (key : InstanceKey) (p : Process) (events : List Event) :
    (∀ lease ∈ leases py key p events, p.registry.generations key < lease.generation) ∧
      ((leases py key p events).map (·.generation)).Pairwise (· < ·) := by
  induction events generalizing p with
  | nil => exact ⟨fun _ h => by simp [leases] at h, Pairwise.nil⟩
  | cons event events ih =>
    have hlater := later_next py p event key
    obtain ⟨hafter, hrest⟩ := ih (p.next py event)
    constructor
    · intro lease hlease
      rcases mem_append.mp hlease with hnow | hthen
      · exact (generation_of_mem_granted hlater hnow).1
      · exact lt_of_le_of_lt hlater.generations (hafter lease hthen)
    · show ((granted key p _ ++ leases py key _ events).map _).Pairwise _
      rw [map_append]
      refine pairwise_append.mpr ⟨pairwise_granted key p _, hrest, ?_⟩
      simp only [mem_map]
      rintro _ ⟨lease, hnow, rfl⟩ _ ⟨lease', hthen, rfl⟩
      exact lt_of_le_of_lt (generation_of_mem_granted hlater hnow).2 (hafter lease' hthen)

lemma keepsEnded_history (events : List Event) :
    ∀ earlier later, earlier <+: later → later <+: events →
      KeepsEnded (earlier.foldl (next py) start) (later.foldl (next py) start) :=
  (Run.along_iff_prefixes (fun _ _ _ => KeepsEnded.refl _) (fun _ _ _ => KeepsEnded.trans)
    (KeepsEnded.refl _) events).mp (Run.along_of_forall (fun s e => keepsEnded_next py s e) _ events)

lemma oneApprovedItem_history (events : List Event) :
    (∀ earlier, earlier <+: events → (earlier.foldl (next py) start).OneApprovedItem) ↔
      Run.Along (next py) (fun p event => ¬ p.Leaks py event) start events := by
  have hstart : Consistent py start := Consistent.start
  refine Run.forall_prefix_iff_along (fun p event h => ?_) (fun p event h hone => ?_)
    hstart hstart.oneApprovedItem events
  · constructor
    · intro hone hleaks
      exact not_oneApprovedItem_of_leaks h hleaks hone
    · intro hleaks
      exact (consistent_next h hleaks).oneApprovedItem
  · exact consistent_next h fun hleaks => not_oneApprovedItem_of_leaks h hleaks hone

end

end Process

/-- **One approved item for each instance.** In a history of sessions that share one registry, at
every moment at most one session of an instance is approved, executing, awaiting review or reviewed
and exactly these sessions hold the active leases, sessions that have ended stay as they are, and
the generations of the leases increase, exactly if no approval gets its lease although the digest of
its delegation plan raises. -/
theorem one_approved_item_iff (py : Interpreter) (events : List Event) :
    ((∀ earlier, earlier <+: events →
        (earlier.foldl (next py) Process.start).OneApprovedItem) ∧
      (∀ earlier later, earlier <+: later → later <+: events →
        Process.KeepsEnded (earlier.foldl (next py) Process.start)
          (later.foldl (next py) Process.start)) ∧
      ∀ key, ((leases py key Process.start events).map (·.generation)).Pairwise (· < ·)) ↔
      Run.Along (next py) (fun p event => ¬ p.Leaks py event) Process.start events := by
  rw [← oneApprovedItem_history py events]
  constructor
  · intro h
    exact h.1
  · intro h
    exact ⟨h, keepsEnded_history py events,
      fun key => (leases_increase py key Process.start events).2⟩

/-! ### A lease that is leaked -/

section

open Daemon (plainInterpreter plainDigest)

def plainSha : PyStr := replicate 40 (PyStr.codePoint '0')

def plainBudget : GoalBudget := ⟨1, 1, 1, 1⟩

def plainProfile : Checked OrchestratorProfile :=
  ⟨{ profileId := "p", applicationId := "a", orchestratorActor := "orchestrator",
     mode := .assisted }, by decide +kernel⟩

def plainPolicy : Checked CtoModePolicy := ⟨{}, by decide +kernel⟩

def plainItem : Checked GoalItem :=
  ⟨{ itemId := "item", domain := "development", objective := "o", userValue := "v",
     dependencies := [], scope := ["s"], exclusions := ["e"], ownerRole := "owner",
     requiredPermissions := ["read"], acceptanceCriteria := ["c"], validationCommands := ["v"],
     sideEffectClass := "none", evidenceRequirements := ["e"] }, by decide +kernel⟩

def plainManifest : Checked ProjectBootstrapManifest :=
  ⟨{ manifestId := "m", applicationId := "a", instanceId := "i", intentDigest := plainDigest.val,
     originatingMode := .assisted, orchestratorProfileDigest := plainDigest.val,
     repositoryRelativePath := "r", repositoryDigest := plainDigest.val, baseCommit := plainSha,
     baseTree := plainSha, stateSnapshotDigest := plainDigest.val,
     privacyClassification := "public_safe", inspectedFiles := ["f"],
     architectureBoundaries := ["b"], sourceOfTruthMap := ["t"], risks := ["r"],
     goalItems := [plainItem] }, by decide +kernel⟩

def plainProposal : Checked GoalProposal :=
  ⟨{ proposalId := "p", manifestDigest := plainDigest.val, intentDigest := plainDigest.val,
     originatingMode := .assisted, orchestratorProfileDigest := plainDigest.val,
     proposedBy := "orchestrator", itemIds := ["item"], recommendedItemId := "item" },
    by decide +kernel⟩

def plainPlan : Checked SlicePlan :=
  ⟨{ planId := "s", applicationId := "a", instanceId := "i", itemId := "item",
     manifestDigest := plainDigest.val, proposalDigest := plainDigest.val,
     intentDigest := plainDigest.val, originatingMode := .assisted,
     orchestratorProfileDigest := plainDigest.val, baseCommit := plainSha, baseTree := plainSha,
     stateSnapshotDigest := plainDigest.val, requiredPermissions := ["read"],
     sideEffectClass := "none", maximumBudget := plainBudget, validationCommands := ["v"],
     contractVersions := ["1"], proposedBy := "orchestrator" }, by decide +kernel⟩

/-- A delegation plan that may read one path. -/
def delegationOf (path : PyStr) : DelegationPlan where
  planId := "d"
  itemId := "item"
  implementerActor := "implementer"
  reviewerActor := "reviewer"
  intendedProfile := "p"
  actualProfile := "p"
  readScope := [path]
  writeScope := ["w"]

def plainAcceptance : Checked AcceptanceContract :=
  ⟨{ contractId := "c", itemId := "item", criteria := ["c"], validationCommands := ["v"],
     requiredContractVersions := ["1"] }, by decide +kernel⟩

def plainRequirement : Checked ReviewRequirement :=
  ⟨{ requirementId := "r", itemId := "item", acceptanceContractDigest := plainDigest.val,
     reviewerActor := "reviewer" }, by decide +kernel⟩

def argumentsOf (delegation : Checked DelegationPlan) : SessionArguments where
  profile := plainProfile
  policy := plainPolicy
  bootstrap := ⟨plainManifest, plainProposal⟩
  plan := plainPlan
  delegation := delegation
  acceptance := plainAcceptance
  reviewRequirement := plainRequirement
  effectiveCapabilities := ["goal_execution"]

def plainApprove (actor : PyStr) : Approve where
  actor := actor
  expectedPlanDigest := plainDigest.val
  currentBaseCommit := plainSha
  currentBaseTree := plainSha
  currentStateSnapshotDigest := plainDigest.val
  approvedPermissions := ["read"]
  approvedSideEffectClass := "none"
  approvedBudget := plainBudget

def plainDelegation : Checked DelegationPlan := ⟨delegationOf "r", by decide +kernel⟩

/-- A read scope with a lone surrogate passes the checks of the delegation plan. -/
def surrogateDelegation : Checked DelegationPlan := ⟨delegationOf [0xd800], by decide +kernel⟩

/-- A session is built and approved. -/
def leakingEvents : List Event :=
  [.new (argumentsOf surrogateDelegation), .call 0 (.approve (plainApprove "approver"))]

/-- The session is still `proposal_ready` and owns the active lease of its instance. -/
lemma leaking_session :
    (((leakingEvents.foldl (next plainInterpreter) Process.start).sessions[0]?).map
      fun session => (session.state, session.leaseOwner, session.key)) =
        some (.proposalReady, 1, (PyStr.of "a", PyStr.of "i")) ∧
    (((leakingEvents.foldl (next plainInterpreter) Process.start).registry.active
      (PyStr.of "a", PyStr.of "i")).map Prod.snd) = some 1 := by
  decide +kernel

/-- An approval raises and leaves its lease active, so that the instance is taken by a session that
has no approved item. -/
theorem failed_approval_keeps_lease :
    ¬ (leakingEvents.foldl (next plainInterpreter) Process.start).OneApprovedItem := by
  intro hone
  obtain ⟨hsession, hactive⟩ := leaking_session
  obtain ⟨session, hs, hfields⟩ := Option.map_eq_some_iff.mp hsession
  obtain ⟨⟨lease, owner⟩, hlease, howner⟩ := Option.map_eq_some_iff.mp hactive
  simp only [Prod.mk.injEq] at hfields
  have hholds := (hone.holds 0 session hs).mpr ⟨lease, by
    rw [hfields.2.2, hfields.2.1, hlease, show owner = 1 from howner]⟩
  rw [hfields.1] at hholds
  cases hholds

end

end StatePort.Goal
