import StatePort.ExecutionHost.Equiv.RunLifecycle

/-!
# One run in flight for a workspace

`holder` is the run whose ticket holds the lock of a workspace. `active_for` does not ask the lock
for it: it takes the first claim of the workspace whose lease is held, if anybody holds the lock.
The two agree until a run begins behind a claim that was left behind, or the claim of the holder is
settled by somebody else (`LeavesHolderFirst`).
-/

namespace StatePort.ExecutionHost

open Table

variable {cfg : LifecycleConfig} {s s' : Lifecycle} {op : Operation} {current lease : RunLease}

/-! ### The holder and the active run -/

namespace Lifecycle

section

variable (s)

/-- The run whose ticket holds the lock of the workspace. -/
def holder (workspaceId : String) : Option String :=
  (s.locks.find? workspaceId).map Lock.runId

def HoldsLock (t : RunTicket) : Prop :=
  ∃ lock ∈ s.locks.rows, lock.workspaceId = t.workspaceId ∧ lock.claimPath = t.claimPath

/-- The first claim of the workspace whose lease is held is the one of the lock. -/
def HolderFirst (workspaceId : String) : Prop :=
  ∀ lock, s.locks.find? workspaceId = some lock →
    ∃ lease, s.firstHeld workspaceId = some lease ∧ lease.runId = lock.runId

end

lemma HoldsLock.claimPath_eq {t t' : RunTicket} (h : s.HoldsLock t) (h' : s.HoldsLock t')
    (hworkspace : t.workspaceId = t'.workspaceId) : t.claimPath = t'.claimPath := by
  obtain ⟨lock, hlock, hw, hpath⟩ := h
  obtain ⟨lock', hlock', hw', hpath'⟩ := h'
  have heq : lock = lock' := s.locks.eq_of_key_eq hlock hlock' (by rw [hw, hw', hworkspace])
  rw [← hpath, ← hpath', heq]

lemma lockIsHeld_iff {w : String} : s.lockIsHeld w ↔ ∃ lock, s.locks.find? w = some lock := by
  simp only [lockIsHeld, contains_iff, find?_eq_some_iff]

/-- What is a workspace id for `active_for`. -/
def isWorkspaceId (w : String) : Prop := w ≠ "" ∧ w.toList.length ≤ 128

lemma activeFor_eq_ok {w : String} {r : Option String} : s.activeFor w = .ok r ↔
    isWorkspaceId w ∧
      (if s.lockIsHeld w then (s.firstHeld w).map RunLease.runId else none) = r := by
  simp only [activeFor, requireRunId, eq_ok_iff, not_or, not_lt, isWorkspaceId, and_assoc,
    exists_and_left, exists_eq_left']
  refine and_congr_right fun _ => and_congr_right fun _ => ?_
  cases s.firstHeld w with
  | none => simp
  | some lease => cases hlock : s.lockIsHeld w <;> simp

/-- `active_for` returns the holder exactly where the first held claim is the one of the holder. -/
lemma activeFor_eq_holder_iff {w : String} :
    s.activeFor w = .ok (s.holder w) ↔ isWorkspaceId w ∧ s.HolderFirst w := by
  rw [activeFor_eq_ok]
  refine and_congr_right fun _ => ?_
  unfold holder HolderFirst
  cases hlock : s.locks.find? w with
  | none =>
    have hfree : s.lockIsHeld w = false := by
      rw [Bool.eq_false_iff, ne_eq, lockIsHeld_iff, hlock]
      simp
    cases s.firstHeld w with
    | none | some lease => simp [hfree]
  | some lock =>
    have hheld : s.lockIsHeld w := lockIsHeld_iff.mpr ⟨lock, hlock⟩
    cases s.firstHeld w with
    | none | some lease => simp [hheld]

end Lifecycle

/-! ### The first claim that is held -/

namespace Lifecycle

variable {w : String} {p p' : RunLease → Bool} {first : RunLease}

lemma codes_injective : Function.Injective Str.codes := fun _ _ h =>
  String.toList_injective (List.map_injective_iff.mpr (fun _ _ => Char.toNat_inj.mp) h)

lemma pairwise_sortedClaims :
    s.sortedClaims.Pairwise fun a b => Str.codes a.claimPath ≤ Str.codes b.claimPath := by
  have hsorted := pairwise_insertionSort_key (fun lease : RunLease => Str.codes lease.claimPath)
    s.claims.rows
  unfold sortedClaims
  simpa only [Bool.not_eq_true', Str.isLess_eq_false_iff] using hsorted

/-- The first claim with a property is the one with the least path. -/
lemma find?_sortedClaims_eq_some : s.sortedClaims.find? p = some first ↔
    (first ∈ s.claims.rows ∧ p first) ∧ ∀ lease ∈ s.claims.rows, p lease →
      Str.codes first.claimPath ≤ Str.codes lease.claimPath := by
  have hmem (lease : RunLease) : lease ∈ s.sortedClaims ↔ lease ∈ s.claims.rows :=
    (List.perm_insertionSort _ _).mem_iff
  have hleast {first : RunLease} (h : s.sortedClaims.find? p = some first) :
      (first ∈ s.claims.rows ∧ p first) ∧ ∀ lease ∈ s.claims.rows, p lease →
        Str.codes first.claimPath ≤ Str.codes lease.claimPath := by
    refine ⟨⟨(hmem _).mp (List.mem_of_find?_eq_some h), List.find?_some h⟩, fun lease hlease hp =>
      ?_⟩
    obtain ⟨-, before, after, hsplit, hbefore⟩ := List.find?_eq_some_iff_append.mp h
    have hsorted := pairwise_sortedClaims (s := s)
    have hlease' := (hmem lease).mpr hlease
    rw [hsplit] at hsorted hlease'
    obtain hlease' | hlease' := List.mem_append.mp hlease'
    · exact absurd hp (by simpa using hbefore lease hlease')
    · obtain rfl | hlease' := List.mem_cons.mp hlease'
      · exact le_rfl
      · exact (List.pairwise_cons.mp (List.pairwise_append.mp hsorted).2.1).1 lease hlease'
  refine ⟨hleast, fun ⟨⟨hfirst, hp⟩, hall⟩ => ?_⟩
  cases h : s.sortedClaims.find? p with
  | none => exact absurd hp (List.find?_eq_none.mp h first ((hmem first).mpr hfirst))
  | some other =>
    obtain ⟨⟨hother, hpother⟩, hallother⟩ := hleast h
    have hcodes := le_antisymm (hallother first hfirst hp) (hall other hother hpother)
    rw [s.claims.eq_of_key_eq hother hfirst (codes_injective hcodes)]

/-- Which claim is the first one depends on the claims that have the property. -/
lemma find?_sortedClaims_congr
    (h : ∀ lease, lease ∈ s.claims.rows ∧ p lease ↔ lease ∈ s'.claims.rows ∧ p' lease) :
    s.sortedClaims.find? p = s'.sortedClaims.find? p' := by
  refine Option.ext fun first => ?_
  simp only [find?_sortedClaims_eq_some, h first, ← and_imp]
  exact and_congr_right fun _ => forall_congr' fun lease => by rw [h lease]

/-! ### When the holder stays first -/

section

variable (s)

/-- The first claim of the workspace of a lease, other than its own, whose lease is held. -/
def firstOther (lease : RunLease) : Option RunLease :=
  s.sortedClaims.find? fun other => other.workspaceId = lease.workspaceId && other.state.isHeld &&
    other.claimPath ≠ lease.claimPath

/-- `active_for` returns the holder of every workspace. -/
def Agrees : Prop := ∀ w, isWorkspaceId w → s.activeFor w = .ok (s.holder w)

end

lemma agrees_iff : s.Agrees ↔ ∀ w, isWorkspaceId w → s.HolderFirst w :=
  forall₂_congr fun _ hw => activeFor_eq_holder_iff.trans (and_iff_right hw)

lemma isWorkspaceId_workspaceId (lease : RunLease) : isWorkspaceId lease.workspaceId := by
  have hid := lease.workspaceId_valid
  unfold Authority.isId at hid
  unfold isWorkspaceId
  split at hid
  · cases hid
  · next c cs hcs =>
    simp only [Bool.and_eq_true, decide_eq_true_eq] at hid
    rw [hcs, List.length_cons]
    refine ⟨?_, by omega⟩
    intro hempty
    rw [hempty] at hcs
    cases hcs

lemma firstHeld_eq_some {w : String} {first : RunLease} : s.firstHeld w = some first ↔
    (first ∈ s.claims.rows ∧ first.workspaceId = w ∧ first.state.isHeld) ∧
      ∀ lease ∈ s.claims.rows, lease.workspaceId = w → lease.state.isHeld →
        Str.codes first.claimPath ≤ Str.codes lease.claimPath := by
  simp only [firstHeld, find?_sortedClaims_eq_some, Bool.and_eq_true, decide_eq_true_eq, and_imp]

/-- A workspace whose claims are the same and whose lock is the same or gone. -/
lemma HolderFirst.of_locks {w : String} (h : s.HolderFirst w)
    (hfirst : s'.firstHeld w = s.firstHeld w)
    (hlocks : ∀ lock ∈ s'.locks.rows, lock.workspaceId = w → lock ∈ s.locks.rows) :
    s'.HolderFirst w := by
  intro lock hlock
  obtain ⟨hmem, hw⟩ := s'.locks.find?_eq_some_iff.mp hlock
  rw [hfirst]
  exact h lock (s.locks.find?_eq_some_iff.mpr ⟨hlocks lock hmem hw, hw⟩)

lemma firstHeld_congr (hclaims : s'.claims = s.claims) (w : String) :
    s'.firstHeld w = s.firstHeld w := by
  rw [firstHeld, sortedClaims, hclaims]
  rfl

/-- A new claim changes nothing in another workspace. -/
lemma firstHeld_put_of_ne {w : String} (hfresh : s.claims.find? lease.claimPath = none)
    (hw : lease.workspaceId ≠ w) (hclaims : s'.claims = s.claims.put lease) :
    s'.firstHeld w = s.firstHeld w := by
  refine find?_sortedClaims_congr fun other => ?_
  rw [hclaims, mem_put]
  constructor
  · rintro ⟨rfl | ⟨hother, -⟩, hp⟩
    · simp [hw] at hp
    · exact ⟨hother, hp⟩
  · rintro ⟨hother, hp⟩
    exact ⟨.inr ⟨hother, s.claims.find?_eq_none_iff.mp hfresh other hother⟩, hp⟩

/-- A run begins: its claim comes first unless the first one that is there comes before it. -/
lemma holderFirst_begun {i : ℕ} (hfresh : s.claims.find? lease.claimPath = none)
    (hlock : s.lockIsHeld lease.workspaceId = false) (hheld : lease.state.isHeld) :
    ((s.acquireLock i lease.workspaceId lease.claimPath lease.runId).persistLease
        lease).HolderFirst lease.workspaceId ↔
      ∀ first, s.firstHeld lease.workspaceId = some first →
        Str.isLess first.claimPath lease.claimPath → first.runId = lease.runId := by
  set s' := (s.acquireLock i lease.workspaceId lease.claimPath lease.runId).persistLease lease
  have hrows (other : RunLease) : other ∈ s'.claims.rows ↔ other = lease ∨
    other ∈ s.claims.rows := by
    change other ∈ (s.claims.put lease).rows ↔ _
    rw [mem_put]
    refine or_congr_right ⟨And.left, fun hother => ⟨hother, ?_⟩⟩
    exact s.claims.find?_eq_none_iff.mp hfresh other hother
  have hfind : s'.locks.find? lease.workspaceId =
      some ⟨lease.workspaceId, i, lease.claimPath, lease.runId⟩ := by
    have hworkspace : ∀ lock ∈ (s.releaseLock i lease.claimPath).locks.rows,
        lock.workspaceId ≠ lease.workspaceId := fun lock hlock' =>
      (s.locks.contains_eq_false_iff.mp hlock) lock (mem_filter.mp hlock').1
    refine s'.locks.find?_eq_some_iff.mpr ⟨?_, rfl⟩
    change _ ∈ ((s.releaseLock i lease.claimPath).locks.insert _).rows
    exact (mem_insert hworkspace).mpr (.inr rfl)
  have hbefore {first : RunLease} (hfirst : s.firstHeld lease.workspaceId = some first)
      (hless : Str.isLess first.claimPath lease.claimPath) :
      s'.firstHeld lease.workspaceId = some first := by
    obtain ⟨⟨hmem, hw, hh⟩, hall⟩ := firstHeld_eq_some.mp hfirst
    refine firstHeld_eq_some.mpr ⟨⟨(hrows _).mpr (.inr hmem), hw, hh⟩, fun other hother hw' hh' =>
      ?_⟩
    obtain rfl | hother := (hrows other).mp hother
    · exact (Str.isLess_iff.mp hless).le
    · exact hall other hother hw' hh'
  constructor
  · intro h first hfirst hless
    obtain ⟨first', hfirst', hrun⟩ := h _ hfind
    rw [hbefore hfirst hless] at hfirst'
    cases hfirst'
    exact hrun
  · rintro h lock hlock'
    rw [hfind] at hlock'
    cases hlock'
    cases hfirst : s.firstHeld lease.workspaceId with
    | some first =>
      cases hless : Str.isLess first.claimPath lease.claimPath with
      | true => exact ⟨first, hbefore hfirst hless, h first hfirst hless⟩
      | false =>
        refine ⟨lease, firstHeld_eq_some.mpr ⟨⟨(hrows _).mpr (.inl rfl), rfl, hheld⟩, ?_⟩, rfl⟩
        intro other hother hw hh
        obtain rfl | hother := (hrows other).mp hother
        · exact le_rfl
        · exact (Str.isLess_eq_false_iff.mp hless).trans
            ((firstHeld_eq_some.mp hfirst).2 other hother hw hh)
    | none =>
      refine ⟨lease, firstHeld_eq_some.mpr ⟨⟨(hrows _).mpr (.inl rfl), rfl, hheld⟩, ?_⟩, rfl⟩
      intro other hother hw hh
      obtain rfl | hother := (hrows other).mp hother
      · exact le_rfl
      · have hsorted := (List.perm_insertionSort (fun a b : RunLease =>
          !Str.isLess b.claimPath a.claimPath) s.claims.rows).mem_iff.mpr hother
        have hnone := List.find?_eq_none.mp hfirst other hsorted
        simp [hw, hh] at hnone

/-- A lease is renewed: it stays held, and its claim stays where it is. -/
lemma HolderFirst.renewed {w : String} {current new : RunLease} (h : s.HolderFirst w)
    (hread : s.claims.find? new.claimPath = some current)
    (hworkspace : new.workspaceId = current.workspaceId) (hrun : new.runId = current.runId)
    (hheld : current.state.isHeld) (hnew : new.state.isHeld) : (s.persistLease new).HolderFirst
      w := by
  intro lock hlock
  obtain ⟨first, hfirst, hfirstRun⟩ := h lock hlock
  obtain ⟨⟨hmem, hw, hh⟩, hall⟩ := firstHeld_eq_some.mp hfirst
  obtain ⟨hcurrent, hpath⟩ := s.claims.find?_eq_some_iff.mp hread
  have hall' {codes : List ℕ} (hcodes : ∀ lease ∈ s.claims.rows, lease.workspaceId = w →
      lease.state.isHeld → codes ≤ Str.codes lease.claimPath) (other : RunLease)
      (hother : other ∈ (s.claims.put new).rows) (hw' : other.workspaceId = w)
      (hh' : other.state.isHeld) : codes ≤ Str.codes other.claimPath := by
    obtain rfl | ⟨hother, -⟩ := (mem_put _).mp hother
    · rw [← hpath]
      exact hcodes current hcurrent (by rw [← hworkspace, hw']) hheld
    · exact hcodes other hother hw' hh'
  by_cases hsame : first.claimPath = new.claimPath
  · obtain rfl : first = current := s.claims.eq_of_key_eq hmem hcurrent (by rw [hpath, hsame])
    refine ⟨new, firstHeld_eq_some.mpr ⟨⟨(mem_put _).mpr (.inl rfl), ?_, hnew⟩, ?_⟩, ?_⟩
    · rw [hworkspace, hw]
    · rw [← hsame]
      exact hall' hall
    · rw [hrun, hfirstRun]
  · exact ⟨first, firstHeld_eq_some.mpr ⟨⟨(mem_put _).mpr (.inr ⟨hmem, hsame⟩), hw, hh⟩,
      hall' hall⟩,
      hfirstRun⟩

/-- A lease is settled: the next claim that is held has to be the one of the lock that stays. -/
lemma holderFirst_settled {i : ℕ} {path : String} {current : RunLease}
    (hread : s.claims.find? lease.claimPath = some current)
    (hworkspace : lease.workspaceId = current.workspaceId) (hsettled : lease.state.isHeld = false)
    {w : String} : ((s.persistLease lease).releaseLock i path).HolderFirst w ↔
      if lease.workspaceId = w then
        ∀ lock, s.locks.find? w = some lock → ¬ (lock.owner = i ∧ lock.claimPath = path) →
          ∃ other, s.firstOther lease = some other ∧ other.runId = lock.runId
      else ∀ lock, s.locks.find? w = some lock → ¬ (lock.owner = i ∧ lock.claimPath = path) →
          ∃ first, s.firstHeld w = some first ∧ first.runId = lock.runId := by
  set s' := (s.persistLease lease).releaseLock i path
  obtain ⟨hcurrent, hpath⟩ := s.claims.find?_eq_some_iff.mp hread
  have hlocks (lock : Lock) : s'.locks.find? w = some lock ↔
      s.locks.find? w = some lock ∧ ¬ (lock.owner = i ∧ lock.claimPath = path) := by
    rw [find?_eq_some_iff, find?_eq_some_iff, and_right_comm]
    refine and_congr_left' (mem_filter.trans (and_congr_right' ?_))
    simp [imp_iff_not_or]
  have hfirst : s'.firstHeld w = if lease.workspaceId = w then s.firstOther lease
      else s.firstHeld w := by
    split_ifs with hw
    all_goals
      refine find?_sortedClaims_congr fun other => ?_
      change other ∈ (s.claims.put lease).rows ∧ _ ↔ _
      simp only [mem_put, Bool.and_eq_true, decide_eq_true_eq, ne_eq]
    · constructor
      · rintro ⟨rfl | ⟨hother, hne⟩, hw', hh⟩
        · cases hsettled.symm.trans hh
        · exact ⟨hother, ⟨hw'.trans hw.symm, hh⟩, hne⟩
      · rintro ⟨hother, ⟨hw', hh⟩, hne⟩
        exact ⟨.inr ⟨hother, hne⟩, hw'.trans hw, hh⟩
    · constructor
      · rintro ⟨rfl | ⟨hother, -⟩, hw', hh⟩
        · cases hsettled.symm.trans hh
        · exact ⟨hother, hw', hh⟩
      · rintro ⟨hother, hw', hh⟩
        refine ⟨.inr ⟨hother, fun hsame => hw ?_⟩, hw', hh⟩
        obtain rfl : other = current := s.claims.eq_of_key_eq hother hcurrent (by rw [hpath, hsame])
        rw [hworkspace, hw']
  unfold HolderFirst
  simp only [hlocks, hfirst, and_imp]
  split_ifs <;> rfl

end Lifecycle

variable (cfg s op) in
/-- A run begins before every claim of its workspace that is held, unless the first one is its own;
and where a lease is settled while somebody else's lock stays, the next claim that is held is the
one of the lock. -/
def LeavesHolderFirst : Prop :=
  ∀ lease, (perform cfg s op).written = some lease →
    (∀ i spec kind image host clock token, op = .beginRun i spec kind image host clock token .done →
      ∀ first, s.firstHeld lease.workspaceId = some first →
        Str.isLess first.claimPath lease.claimPath → first.runId = lease.runId) ∧
    ∀ i t, op.subject? = some (i, t) → lease.state.isHeld = false →
      ∀ lock, s.locks.find? lease.workspaceId = some lock →
        ¬ (lock.owner = i ∧ lock.claimPath = t.claimPath) →
        ∃ other, s.firstOther lease = some other ∧ other.runId = lock.runId

/-- **Step.** Where `active_for` returns the holders, it does so after an operation exactly if the
operation leaves the holders first. -/
theorem agrees_nextLifecycle (hs : s.Agrees) (hfresh : FreshToken cfg s op) :
    (nextLifecycle cfg s op).Agrees ↔ LeavesHolderFirst cfg s op := by
  have heffect := effect_perform cfg s op
  unfold LeavesHolderFirst
  rw [Lifecycle.agrees_iff] at hs ⊢
  generalize nextLifecycle cfg s op = s' at heffect ⊢
  generalize (perform cfg s op).written = written at heffect ⊢
  cases heffect with
  | unchanged hclaims hlocks =>
    refine iff_of_true (fun w hw => (hs w hw).of_locks (Lifecycle.firstHeld_congr hclaims w) ?_)
      fun _ hnone => by cases hnone
    rw [hlocks]
    exact fun _ hlock _ => hlock
  | crashed | refused | unwritten =>
    exact iff_of_true (fun w hw => (hs w hw).of_locks rfl fun _ hlock _ => (mem_filter.mp hlock).1)
      fun _ hnone => by cases hnone
  | @abandoned i spec kind image host token clock lease hop hlock hpath hworkspace hstate _ =>
    subst hop
    refine iff_of_true (fun w hw => ?_) ?_
    · by_cases hsame : lease.workspaceId = w
      · -- nobody holds the lock of the workspace
        intro lock hlock'
        obtain ⟨hmem, hw'⟩ := (Table.find?_eq_some_iff _).mp hlock'
        refine absurd ?_ (s.locks.contains_eq_false_iff.mp hlock lock (mem_filter.mp hmem).1)
        rw [hw', ← hsame, hworkspace]
      · refine (hs w hw).of_locks (Lifecycle.firstHeld_put_of_ne
          (by rw [hpath]; exact hfresh) hsame rfl)
          fun _ hlock _ => (mem_filter.mp hlock).1
    · rintro _ ⟨⟩
      exact ⟨fun _ _ _ _ _ _ _ hop => (by cases hop), fun _ _ hop => (by cases hop)⟩
  | @begun i spec kind image host token clock lease hop hlock hpath hworkspace hrun hstate _ =>
    subst hop
    have hfresh' : s.claims.find? lease.claimPath = none := by rw [hpath]; exact hfresh
    have hheld : lease.state.isHeld := by rw [hstate]; rfl
    rw [← hworkspace] at hlock ⊢
    rw [← hrun]
    have hbegun := Lifecycle.holderFirst_begun (i := i) hfresh' hlock hheld
    constructor
    · rintro h _ ⟨⟩
      exact ⟨fun _ _ _ _ _ _ _ _ => hbegun.mp (h _ (Lifecycle.isWorkspaceId_workspaceId lease)),
        fun _ _ hop => by cases hop⟩
    · intro h w hw
      by_cases hsame : lease.workspaceId = w
      · rw [← hsame]
        exact hbegun.mpr ((h lease rfl).1 _ _ _ _ _ _ _ rfl)
      · refine (hs w hw).of_locks (Lifecycle.firstHeld_put_of_ne hfresh' hsame rfl) ?_
        intro lock hlock' hw'
        have hworkspace' : ∀ lock ∈ (s.releaseLock i lease.claimPath).locks.rows,
            lock.workspaceId ≠ lease.workspaceId := fun lock hlock' =>
          (s.locks.contains_eq_false_iff.mp hlock) lock (mem_filter.mp hlock').1
        obtain hlock' | rfl := (mem_insert hworkspace').mp hlock'
        · exact (mem_filter.mp hlock').1
        · exact absurd hw' hsame
  | @renewed i t clock write current hop _ hread hheld =>
    have hpath := (s.claims.find?_eq_some_iff.mp hread).2
    rw [← hpath] at hread
    refine iff_of_true (fun w hw => (hs w hw).renewed hread rfl rfl hheld rfl) ?_
    rintro _ ⟨⟩
    refine ⟨?_, fun _ _ _ hsettled => by cases hsettled⟩
    rintro _ _ _ _ _ _ _ rfl
    cases hop
  | @settled i t current state hop _ hread hstate =>
    have hpath := (s.claims.find?_eq_some_iff.mp hread).2
    have hread' : s.claims.find? (current.inState state).claimPath = some current := by
      rw [← hread, ← hpath]
      rfl
    have hfirst (w : String) := @Lifecycle.holderFirst_settled _ _ i t.claimPath _ hread' rfl
      hstate.1 w
    constructor
    · rintro h _ ⟨⟩
      refine ⟨?_, ?_⟩
      · rintro _ _ _ _ _ _ _ rfl
        cases hop
      · intro i' t' hop' _
        cases hop.symm.trans hop'
        have hsame := (hfirst _).mp (h _ (Lifecycle.isWorkspaceId_workspaceId current))
        rwa [if_pos (by rfl)] at hsame
    · intro h w hw
      rw [hfirst]
      split_ifs with hsame
      · rw [← hsame]
        exact (h _ rfl).2 i t hop hstate.1
      · exact fun lock hlock _ => hs w hw lock hlock

lemma agrees_new (authority : RunAuthority) : (Lifecycle.new authority).Agrees :=
  Lifecycle.agrees_iff.mpr fun _ _ _ hlock => by cases hlock

lemma along_agrees_iff {ops : List Operation} (hs : s.Agrees)
    (hfresh : Run.Along (nextLifecycle cfg) (FreshToken cfg) s ops) :
    Run.Along (nextLifecycle cfg) (fun s op => (nextLifecycle cfg s op).Agrees) s ops ↔
      Run.Along (nextLifecycle cfg) (LeavesHolderFirst cfg) s ops := by
  induction ops generalizing s with
  | nil => exact Iff.rfl
  | cons op ops ih =>
    have hstep := agrees_nextLifecycle hs hfresh.1
    constructor
    · rintro ⟨hnext, hrest⟩
      exact ⟨hstep.mp hnext, (ih hnext hfresh.2).mp hrest⟩
    · rintro ⟨hleaves, hrest⟩
      exact ⟨hstep.mpr hleaves, (ih (hstep.mpr hleaves) hfresh.2).mpr hrest⟩

/-- **Single flight.** After every sequence of operations at most one ticket holds the lock of a
workspace. While the tokens of new leases are fresh, `active_for` returns the run of that ticket
after each operation if and only if each one leaves the holders first. -/
theorem single_in_flight (cfg : LifecycleConfig) (authority : RunAuthority) (ops : List Operation) :
    (∀ t t', (ops.foldl (nextLifecycle cfg) (.new authority)).HoldsLock t →
      (ops.foldl (nextLifecycle cfg) (.new authority)).HoldsLock t' →
      t.workspaceId = t'.workspaceId → t.claimPath = t'.claimPath) ∧
    (Run.Along (nextLifecycle cfg) (FreshToken cfg) (.new authority) ops →
      (Run.Along (nextLifecycle cfg) (fun s op => (nextLifecycle cfg s op).Agrees) (.new authority)
          ops ↔
        Run.Along (nextLifecycle cfg) (LeavesHolderFirst cfg) (.new authority) ops)) :=
  ⟨fun _ _ h h' hw => h.claimPath_eq h' hw, along_agrees_iff (agrees_new authority)⟩

/-- The directory after the process of the sample run has ended. -/
def sampleCrashed : Lifecycle := nextLifecycle sampleConfig sampleBegun (.crash 0)

/-- A second run in the same workspace. -/
def sampleSecond : RunSpec := { sampleSpec with runId := "q" }

/-- The claim of a run whose process has ended is taken for the run in flight. -/
theorem stale_claim_is_active :
    nextLifecycle sampleConfig sampleStart
      (.beginRun 0 sampleSpec "agent" sampleGrant.claimedImage "h" 0 "0" .done) = sampleBegun ∧
    (sampleCrashed.beginRun sampleConfig 1 sampleSecond "agent" sampleGrant.claimedImage "h" 1 "1"
      .done).state.holder "w" = some "q" ∧
    (sampleCrashed.beginRun sampleConfig 1 sampleSecond "agent" sampleGrant.claimedImage "h" 1 "1"
      .done).state.activeFor "w" = .ok (some "r") :=
  ⟨nextLifecycle_sampleStart, by decide +kernel, by decide +kernel⟩

end StatePort.ExecutionHost
