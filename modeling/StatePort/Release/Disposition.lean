import StatePort.Updater.Journal

/-!
# The dispositions of successive releases

`validate_successor_disposition_transition` checks a successor record against the one before it.
Each check is about two neighbours, so that the sequence numbers increase along a whole chain
(`Accepted.sequence_lt`), but a record without a time hides an earlier time, and a record of another
release an earlier status (`disposition_rolled_back`). `noRollback_of_steady` says that nothing else
does. `canonical_digest` is a parameter.
-/

namespace StatePort.Release

open Updater (number? daysIn)

/-- `ReleaseContractError(message)`. -/
structure ReleaseContractError where
  message : String
deriving DecidableEq

/-! ### Timestamps -/

/-- The numbers in a text of the form of `_TIMESTAMP`, from the year down to the second. -/
def matchTimestamp (value : String) : Option (List ℕ) :=
  match value.toList with
  | [y1, y2, y3, y4, '-', m1, m2, '-', d1, d2, 'T', h1, h2, ':', n1, n2, ':', s1, s2, 'Z'] =>
    [[y1, y2, y3, y4], [m1, m2], [d1, d2], [h1, h2], [n1, n2], [s1, s2]].mapM number?
  | _ => none

/-- Whether `strptime` finds a moment in these numbers. -/
def isMoment : List ℕ → Bool
  | [year, month, day, hour, minute, second] =>
    1 ≤ year && 1 ≤ month && month ≤ 12 && 1 ≤ day && day ≤ daysIn year month && hour < 24 &&
      minute < 60 && second < 60
  | _ => false

/-- `_parse_timestamp`; moments are ordered as their numbers are. -/
def parseTimestamp (value path : String) : Except ReleaseContractError (List ℕ) :=
  match matchTimestamp value with
  | none => .error ⟨path ++ ": timestamp must be whole-second UTC"⟩
  | some moment => do
    raiseIf (isMoment moment = false) ⟨path ++ ": timestamp is invalid"⟩
    return moment

lemma parseTimestamp_eq_ok {value path : String} {moment : List ℕ}
    (h : parseTimestamp value path = .ok moment) : matchTimestamp value = some moment := by
  unfold parseTimestamp at h
  split at h
  · cases h
  · rename_i found hfound
    simp only [eq_ok_iff] at h
    rw [hfound, h.2]

/-! ### Records -/

def successorFormat : String := "stateport.release-successor/v1"

inductive Status where
  | active
  | deprecated
  | withdrawn

def dispositionRank : Status → ℕ
  | .active => 0
  | .deprecated => 1
  | .withdrawn => 2

/-- A disposition; `time` is its field `at`. -/
structure Disposition where
  (formatVersion signedBy : String)
  sequence : ℤ
  status : Status
  (time reason previousDispositionDigest : Option String)

/-- A successor record, as far as its disposition is concerned; `releaseId` is that of its
qualification event. -/
structure Successor where
  formatVersion : Option String
  disposition : Disposition
  releaseId : Option String

/-- The moment of a disposition, if it has one. -/
def Successor.moment? (s : Successor) : Option (List ℕ) := s.disposition.time.bind matchTimestamp

/-- The check of two times, if both are given. -/
def checkTimes (previous current : Option String) : Except ReleaseContractError Unit :=
  match previous, current with
  | some previousAt, some currentAt => do
    let later ← parseTimestamp currentAt "successor.disposition.at"
    let earlier ← parseTimestamp previousAt "predecessor.disposition.at"
    raiseIf (later < earlier) ⟨"successor disposition timestamp is not monotonic"⟩
  | _, _ => .ok ()

variable (canonicalDigest : Disposition → String)

def validateSuccessorDispositionTransition (predecessor : Option Successor)
    (successor : Successor) :
    Except ReleaseContractError Unit := do
  raiseIf (successor.formatVersion ≠ some successorFormat)
    ⟨"unsupported successor disposition semantics"⟩
  let current := successor.disposition
  match predecessor with
  | none =>
    raiseIf (current.sequence ≠ 1 ∨ current.previousDispositionDigest ≠ none)
      ⟨"successor disposition does not start a monotonic chain"⟩
  | some predecessor =>
    if predecessor.formatVersion ≠ some successorFormat then
      raiseIf (current.sequence ≠ 1 ∨ current.previousDispositionDigest ≠ none)
        ⟨"successor disposition cannot roll back a v1 predecessor"⟩
    else
      let previous := predecessor.disposition
      raiseIf (current.sequence ≤ previous.sequence)
        ⟨"successor disposition sequence is not monotonic"⟩
      raiseIf (current.previousDispositionDigest ≠ some (canonicalDigest previous))
        ⟨"successor disposition does not name the exact predecessor"⟩
      checkTimes previous.time current.time
      raiseIf (predecessor.releaseId = successor.releaseId ∧
          dispositionRank current.status < dispositionRank previous.status)
        ⟨"successor disposition rolls back a predecessor status"⟩

/-! ### Chains -/

/-- A chain of records, the latest first: each is accepted against the one before it and is added as
`C` allows. -/
inductive Accepted (C : List Successor → Successor → Prop) : List Successor → Prop
  | nil : Accepted C []
  | cons {chain next} (hchain : Accepted C chain) (hnext : C chain next)
      (h : validateSuccessorDispositionTransition canonicalDigest chain.head? next = .ok ()) :
      Accepted C (next :: chain)

/-- Sequence numbers increase, and neither the times nor the statuses of one release go back. -/
structure NoRollback (chain : List Successor) : Prop where
  sequence : chain.Pairwise fun later earlier =>
    earlier.disposition.sequence < later.disposition.sequence
  times : chain.Pairwise fun later earlier => ∀ t ∈ earlier.moment?, ∀ t' ∈ later.moment?, t ≤ t'
  ranks : chain.Pairwise fun later earlier => earlier.releaseId = later.releaseId →
    dispositionRank earlier.disposition.status ≤ dispositionRank later.disposition.status

/-- A record with a time follows one with a time, or there was none; and its release is that of the
record before it, or a new one. -/
def Steady : List Successor → Successor → Prop
  | [], _ => True
  | previous :: earlier, next =>
    (next.disposition.time ≠ none → previous.disposition.time = none →
        ∀ r ∈ earlier, r.disposition.time = none) ∧
      (next.releaseId ≠ previous.releaseId → ∀ r ∈ earlier, r.releaseId ≠ next.releaseId)

variable {canonicalDigest} {C : List Successor → Successor → Prop} {chain : List Successor}
  {previous next : Successor}

lemma Accepted.formatVersion_eq (h : Accepted canonicalDigest C (next :: chain)) :
    next.formatVersion = some successorFormat := by
  cases h with
  | cons hchain hnext h =>
    simp only [validateSuccessorDispositionTransition, eq_ok_iff, not_not] at h
    exact h.1

/-- What the check says of two neighbours. -/
lemma Accepted.neighbours (h : Accepted canonicalDigest C (next :: previous :: chain)) :
    previous.disposition.sequence < next.disposition.sequence ∧
      checkTimes previous.disposition.time next.disposition.time = .ok () ∧
      (previous.releaseId = next.releaseId → dispositionRank previous.disposition.status ≤
        dispositionRank next.disposition.status) := by
  cases h with
  | cons hchain hnext h =>
    simp only [validateSuccessorDispositionTransition, List.head?_cons, hchain.formatVersion_eq,
      eq_ok_iff, ne_eq, not_true_eq_false, if_false, not_le, not_and, not_lt] at h
    exact ⟨h.2.1, h.2.2.2⟩

/-- Two times that are checked. -/
lemma moments_of_checkTimes
    (h : checkTimes previous.disposition.time next.disposition.time = .ok ())
    (hprevious : previous.disposition.time ≠ none) (hnext : next.disposition.time ≠ none) :
    ∃ earlier later, previous.moment? = some earlier ∧ next.moment? = some later ∧
      earlier ≤ later := by
  obtain ⟨previousAt, hprevious⟩ := Option.ne_none_iff_exists'.mp hprevious
  obtain ⟨currentAt, hnext⟩ := Option.ne_none_iff_exists'.mp hnext
  rw [hprevious, hnext] at h
  simp only [checkTimes, eq_ok_iff, not_lt] at h
  obtain ⟨later, hlater, earlier, hearlier, hle⟩ := h
  refine ⟨earlier, later, ?_, ?_, hle⟩
  · rw [Successor.moment?, hprevious]
    exact parseTimestamp_eq_ok hearlier
  · rw [Successor.moment?, hnext]
    exact parseTimestamp_eq_ok hlater

lemma time_ne_none_of_mem {t : List ℕ} (h : t ∈ next.moment?) : next.disposition.time ≠ none := by
  intro hnone
  rw [Successor.moment?, hnone] at h
  cases h

/-- What holds between neighbours and is carried on by the record between them. -/
lemma Accepted.pairwise {R : Successor → Successor → Prop} (h : Accepted canonicalDigest C chain)
    (hstep : ∀ next previous earlier, Accepted canonicalDigest C (next :: previous :: earlier) →
      R next previous ∧ ∀ r ∈ earlier, R previous r → R next r) : chain.Pairwise R := by
  induction h with
  | nil => exact .nil
  | @cons chain next hchain hnext h ih =>
    refine .cons (fun r hr => ?_) ih
    cases chain with
    | nil => cases hr
    | cons previous earlier =>
      obtain ⟨hprevious, hearlier⟩ := hstep _ _ _ (.cons hchain hnext h)
      rcases List.mem_cons.mp hr with rfl | hr
      · exact hprevious
      · exact hearlier r hr (List.rel_of_pairwise_cons ih hr)

/-- **Sequence numbers increase along every chain.** -/
theorem Accepted.sequence_lt (h : Accepted canonicalDigest C chain) : chain.Pairwise
    fun later earlier => earlier.disposition.sequence < later.disposition.sequence :=
  h.pairwise fun _ _ _ h => ⟨h.neighbours.1, fun _ _ hr => hr.trans h.neighbours.1⟩

lemma Accepted.steady (h : Accepted canonicalDigest C (next :: chain)) : C chain next := by
  cases h with
  | cons hchain hnext h => exact hnext

/-- **Nothing is rolled back along a chain whose records are added steadily.** -/
theorem noRollback_of_steady (h : Accepted canonicalDigest Steady chain) : NoRollback chain := by
  refine ⟨h.sequence_lt, h.pairwise fun next previous earlier h => ?_,
    h.pairwise fun next previous earlier h => ?_⟩
  · have hchecked := h.neighbours.2.1
    refine ⟨fun t ht t' ht' => ?_, fun r hr hle t ht t' ht' => ?_⟩
    · obtain ⟨first, last, hfirst, hlast, hle⟩ :=
        moments_of_checkTimes hchecked (time_ne_none_of_mem ht) (time_ne_none_of_mem ht')
      cases hfirst.symm.trans ht
      cases hlast.symm.trans ht'
      exact hle
    · -- the record between them has a time, which is compared with both
      have hprevious : previous.disposition.time ≠ none := fun hnone =>
        time_ne_none_of_mem ht (h.steady.1 (time_ne_none_of_mem ht') hnone r hr)
      obtain ⟨between, last, hbetween, hlast, hstep⟩ :=
        moments_of_checkTimes hchecked hprevious (time_ne_none_of_mem ht')
      cases hlast.symm.trans ht'
      exact (hle t ht between hbetween).trans hstep
  · have hstep := h.neighbours.2.2
    refine ⟨hstep, fun r hr hle hsame => ?_⟩
    have hprevious : next.releaseId = previous.releaseId := by
      by_contra hne
      exact h.steady.2 hne r hr hsame
    exact (hle (hsame.trans hprevious)).trans (hstep hprevious.symm)

/-- A record of a release, with a status and a time. -/
def sampleRecord (sequence : ℤ) (releaseId : String) (status : Status) (time : Option String)
    (previous : Option String) : Successor :=
  ⟨some successorFormat, ⟨"stateport.release-disposition/v2", "stateport.release-index/v1",
    sequence,
    status, time, none, previous⟩, some releaseId⟩

/-- Digests that tell dispositions apart by their sequence numbers. -/
def sampleDigest (disposition : Disposition) : String := toString disposition.sequence

/-- A release is withdrawn, another one is published, and the first is deprecated, at an earlier
time. -/
def rolledBack : List Successor :=
  [sampleRecord 3 "a" .deprecated (some "2026-01-01T00:00:00Z") (some "2"),
    sampleRecord 2 "b" .active none (some "1"),
    sampleRecord 1 "a" .withdrawn (some "2026-02-01T00:00:00Z") none]

theorem disposition_rolled_back :
    Accepted sampleDigest (fun _ _ => True) rolledBack ∧ ¬ NoRollback rolledBack :=
  ⟨.cons (.cons (.cons .nil trivial (by decide +kernel)) trivial (by decide +kernel)) trivial
      (by decide +kernel),
    fun h => absurd (List.rel_of_pairwise_cons h.ranks (.tail _ (.head _)) rfl) (by decide)⟩

/-- A release is deprecated and then withdrawn, and another one is published, without a time. -/
def withdrawnFirst : List Successor :=
  [sampleRecord 3 "b" .active none (some "2"),
    sampleRecord 2 "a" .withdrawn (some "2026-02-01T00:00:00Z") (some "1"),
    sampleRecord 1 "a" .deprecated (some "2026-01-01T00:00:00Z") none]

lemma accepted_withdrawnFirst : Accepted sampleDigest Steady withdrawnFirst := by
  refine .cons (.cons (.cons .nil trivial (by decide +kernel)) ?_ (by decide +kernel)) ?_
    (by decide +kernel)
  · exact ⟨fun _ _ _ hr => absurd hr List.not_mem_nil, fun hne => absurd rfl hne⟩
  · refine ⟨fun htime => absurd rfl htime, fun _ r hr => ?_⟩
    rw [List.mem_singleton.mp hr]
    decide

theorem withdrawn_release_stays_withdrawn :
    Accepted sampleDigest Steady withdrawnFirst ∧ NoRollback withdrawnFirst :=
  ⟨accepted_withdrawnFirst, noRollback_of_steady accepted_withdrawnFirst⟩

end StatePort.Release
