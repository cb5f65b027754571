import StatePort.Algorithm.Run
import StatePort.Approval.Gate

/-!
# What the approval gate keeps

`Keeps`: a request keeps its inputs, its recorded decision and a status that is not pending.
`Recorded`: execution metadata is on approved requests only. `request_once` guards both. The other
operations do not: `mark_executed` merges any metadata into the request, `transition` writes over a
decision that the request was made with, and `request` accepts the reserved keys. `Faithful` is the
condition on a call under which it keeps both, and `keeps_iff_faithful` says that it is exact.
-/

namespace StatePort.Approval

open Option Table ApprovalRequest

variable {pyEq : Json → Json → Bool} {s s' : Gate} {r r' : ApprovalRequest}
  {x : ApprovalRequest × Gate}

/-! ### What is kept -/

structure ApprovalRequest.Keeps (r r' : ApprovalRequest) : Prop where
  operation : r'.operation = r.operation
  capability : r'.capability = r.capability
  instanceId : r'.instanceId = r.instanceId
  actor : r'.actor = r.actor
  instancePath : r'.instancePath = r.instancePath
  metadata : ∀ k, k ∉ mutableMetadataKeys → r'.metadata.find? k = r.metadata.find? k
  decision : ∀ entry, r.metadata.find? "decision" = some entry →
    r'.metadata.find? "decision" = some entry
  status : r.status ≠ .pending → r'.status = r.status

lemma ApprovalRequest.Keeps.refl (r : ApprovalRequest) : r.Keeps r :=
  ⟨rfl, rfl, rfl, rfl, rfl, fun _ _ => rfl, fun _ h => h, fun _ => rfl⟩

namespace Gate

/-- Every request is kept. -/
def Keeps (s s' : Gate) : Prop :=
  ∀ id r, s.find? id = some r → ∃ r', s'.find? id = some r' ∧ r.Keeps r'

/-- Execution metadata is on approved requests only. -/
def Recorded (s : Gate) : Prop :=
  ∀ r ∈ s.rows, r.metadata.find? "execution" ≠ none → r.status = .approved

lemma Keeps.refl (s : Gate) : s.Keeps s := fun _ r h => ⟨r, h, .refl r⟩

lemma keeps_put_iff : Keeps s (s.put r') ↔ ∀ r, s.find? r'.id = some r → r.Keeps r' := by
  constructor
  · intro h r hfind
    obtain ⟨r'', hfind', hkeeps⟩ := h _ r hfind
    rw [find?_put, if_pos rfl] at hfind'
    rwa [Option.some.inj hfind']
  · intro h id r hfind
    rw [find?_put]
    split_ifs with hid
    · exact ⟨r', rfl, h r (hid ▸ hfind)⟩
    · exact ⟨r, hfind, .refl r⟩

lemma recorded_put_iff (hs : s.Recorded) : Recorded (s.put r') ↔
    (r'.metadata.find? "execution" ≠ none → r'.status = .approved) := by
  constructor
  · intro h
    exact h r' ((mem_put _).mpr (.inl rfl))
  · intro h r hr
    obtain rfl | ⟨hr, -⟩ := (mem_put _).mp hr
    · exact h
    · exact hs r hr

end Gate

/-! ### Calls -/

/-- A call keeps every request, and leaves execution metadata on approved requests only. -/
def KeepsRequests (pyEq : Json → Json → Bool) (s : Gate) (call : Call) : Prop :=
  s.Keeps (nextGate pyEq s call) ∧ (nextGate pyEq s call).Recorded

/-- What a caller has to respect. `request` gets a fresh token and no execution metadata;
`transition` records a decision where none is recorded; `mark_executed` adds execution metadata, a
decision where none is recorded, and otherwise only what the request has. -/
def Faithful (s : Gate) : Call → Prop
  | .request token inputs => inputs.given → inputs.metadata.find? "execution" = none ∧
      ∀ r, s.find? token = some r → r.Keeps (inputs.pending token)
  | .requestOnce _ _ => True
  | .transition requestId status _ decidedBy decidedAt =>
    ∀ status' ∈ Status.decision? status, ∀ r ∈ s.find? requestId, r.status = .pending →
      decidedBy ≠ "" → ∀ entry ∈ r.metadata.find? "decision",
        entry = decision status' decidedBy decidedAt
  | .markExecuted requestId metadata => ∀ r ∈ s.find? requestId, r.status = .approved →
      ∀ entry ∈ metadata.rows, entry.1 = "execution" ∨ r.metadata.find? entry.1 = some entry ∨
        entry.1 = "decision" ∧ r.metadata.find? "decision" = none

namespace Gate

variable {requestId status reason decidedBy decidedAt token : String} {inputs : Inputs}
  {metadata : Metadata}

lemma request_eq_ok : s.request token inputs = .ok x ↔
    inputs.given ∧ (inputs.pending token, s.put (inputs.pending token)) = x := by
  simp only [request, eq_ok_iff, Bool.not_eq_false]

lemma transition_eq_ok :
    s.transition requestId status reason decidedBy decidedAt = .ok x ↔
      ∃ status' r, Status.decision? status = some status' ∧ s.find? requestId = some r ∧
        r.status = .pending ∧ (r.transitioned status' reason decidedBy decidedAt,
          s.put (r.transitioned status' reason decidedBy decidedAt)) = x := by
  unfold transition
  cases Status.decision? status with
  | none => simp
  | some status' =>
    cases s.find? requestId with
    | none => simp
    | some r =>
      simp only [eq_ok_iff, not_not, ne_eq, Option.some.injEq, exists_and_left, exists_eq_left']

lemma markExecuted_eq_ok :
    s.markExecuted requestId metadata = .ok x ↔
      ∃ r, s.find? requestId = some r ∧ r.status = .approved ∧
        (r.executed metadata, s.put (r.executed metadata)) = x := by
  unfold markExecuted
  cases s.find? requestId with
  | none => simp
  | some r => simp only [eq_ok_iff, not_not, ne_eq, Option.some.injEq, exists_eq_left']

/-! ### The requests that are written -/

lemma find?_transitioned {status' : Status} (k : String) :
    (r.transitioned status' reason decidedBy decidedAt).metadata.find? k =
      if decidedBy ≠ "" ∧ k = "decision" then
        some (decision status' decidedBy decidedAt)
      else r.metadata.find? k := by
  simp only [transitioned]
  by_cases hby : decidedBy = ""
  · simp [hby]
  · rw [if_neg hby, find?_put]
    simp [hby, decision, eq_comm]

/-- A transition keeps the request if it writes over no other decision. -/
lemma keeps_transitioned_iff {status' : Status} (hpending : r.status = .pending) :
    r.Keeps (r.transitioned status' reason decidedBy decidedAt) ↔
      (decidedBy ≠ "" → ∀ entry ∈ r.metadata.find? "decision",
        entry = decision status' decidedBy decidedAt) := by
  constructor
  · intro h hby entry hentry
    have hkept := h.decision entry hentry
    rw [find?_transitioned, if_pos ⟨hby, rfl⟩] at hkept
    exact (Option.some.inj hkept).symm
  · intro h
    refine ⟨rfl, rfl, rfl, rfl, rfl, fun k hk => ?_, fun entry hentry => ?_, fun hne => ?_⟩
    · rw [find?_transitioned, if_neg]
      rintro ⟨-, rfl⟩
      exact hk (by decide)
    · rw [find?_transitioned]
      split_ifs with hby
      · rw [h hby.1 entry hentry]
      · exact hentry
    · exact absurd hpending hne

/-- An execution keeps the request if its metadata adds nothing but execution metadata and a
decision where none is recorded. -/
lemma keeps_executed_iff : r.Keeps (r.executed metadata) ↔
    ∀ entry ∈ metadata.rows, entry.1 = "execution" ∨ r.metadata.find? entry.1 = some entry ∨
      entry.1 = "decision" ∧ r.metadata.find? "decision" = none := by
  have hfind : ∀ k, (r.executed metadata).metadata.find? k =
      (metadata.find? k).or (r.metadata.find? k) := find?_merge _ _
  constructor
  · intro h entry hentry
    have hentry' := metadata.find?_eq_some_iff.mpr ⟨hentry, rfl⟩
    by_cases hexecution : entry.1 = "execution"
    · exact .inl hexecution
    refine .inr ?_
    by_cases hdecision : entry.1 = "decision"
    · cases hr : r.metadata.find? "decision" with
      | none => exact .inr ⟨hdecision, rfl⟩
      | some old =>
        have hkept := h.decision old hr
        rw [hfind, ← hdecision, hentry', some_or] at hkept
        rw [hdecision, hr, hkept]
        exact .inl rfl
    · have hkept := h.metadata entry.1 (by simp [mutableMetadataKeys, hdecision, hexecution])
      rw [hfind, hentry', some_or] at hkept
      exact .inl hkept.symm
  · intro h
    refine ⟨rfl, rfl, rfl, rfl, rfl, fun k hk => ?_, fun entry hentry => ?_, fun _ => rfl⟩
    · rw [hfind]
      cases hk' : metadata.find? k with
      | none => rw [none_or]
      | some entry =>
        obtain ⟨hmem, rfl⟩ := metadata.find?_eq_some_iff.mp hk'
        simp only [mutableMetadataKeys, List.mem_cons, List.not_mem_nil, or_false, not_or] at hk
        obtain hexecution | hsame | ⟨hdecision, -⟩ := h entry hmem
        · exact absurd hexecution hk.2
        · rw [some_or, hsame]
        · exact absurd hdecision hk.1
    · rw [hfind]
      cases hk' : metadata.find? "decision" with
      | none => rw [none_or, hentry]
      | some entry' =>
        obtain ⟨hmem, hkey⟩ := metadata.find?_eq_some_iff.mp hk'
        obtain hexecution | hsame | ⟨-, hnone⟩ := h entry' hmem
        · rw [hkey] at hexecution
          exact absurd hexecution (by decide)
        · rw [some_or, ← hsame, hkey, hentry]
        · cases hnone.symm.trans hentry

/-! ### Each call -/

section

variable (hs : s.Recorded)
include hs

lemma keepsRequests_self : s.Keeps s ∧ s.Recorded := ⟨.refl s, hs⟩

lemma keepsRequests_request_iff :
    KeepsRequests pyEq s (.request token inputs) ↔ Faithful s (.request token inputs) := by
  unfold KeepsRequests Faithful
  rw [nextGate]
  cases hcall : s.request token inputs with
  | error e =>
    refine iff_of_true (keepsRequests_self hs) fun hgiven => ?_
    rw [request_eq_ok.mpr ⟨hgiven, rfl⟩] at hcall
    cases hcall
  | ok x =>
    obtain ⟨hgiven, rfl⟩ := request_eq_ok.mp hcall
    have hpending : (inputs.pending token).status ≠ .approved := by simp [Inputs.pending]
    simp only [afterTransaction]
    rw [keeps_put_iff, recorded_put_iff hs]
    constructor
    · rintro ⟨hkeeps, hexecution⟩ -
      refine ⟨?_, hkeeps⟩
      by_contra hne
      exact hpending (hexecution hne)
    · intro h
      obtain ⟨hexecution, hkeeps⟩ := h hgiven
      exact ⟨hkeeps, fun hne => absurd hexecution hne⟩

lemma keepsRequests_requestOnce : KeepsRequests pyEq s (.requestOnce requestId inputs) := by
  unfold KeepsRequests
  rw [nextGate]
  cases hcall : s.requestOnce pyEq requestId inputs with
  | error e => exact keepsRequests_self hs
  | ok x =>
    simp only [requestOnce, eq_ok_iff] at hcall
    obtain ⟨-, -, hreserved, hcall⟩ := hcall
    split at hcall
    · simp only [eq_ok_iff] at hcall
      obtain ⟨-, rfl⟩ := hcall
      exact keepsRequests_self hs
    · next hfree =>
      cases hcall
      simp only [afterTransaction]
      rw [keeps_put_iff, recorded_put_iff hs]
      refine ⟨fun r hr => ?_, fun hexecution => ?_⟩
      · cases hfree.symm.trans hr
      · exfalso
        obtain ⟨entry, hentry⟩ := ne_none_iff_exists'.mp hexecution
        obtain ⟨hmem, hkey⟩ := (find?_eq_some_iff _).mp hentry
        exact hreserved ⟨entry, hmem, by rw [hkey]; decide⟩

lemma keepsRequests_transition_iff :
    KeepsRequests pyEq s (.transition requestId status reason decidedBy decidedAt) ↔
      Faithful s (.transition requestId status reason decidedBy decidedAt) := by
  unfold KeepsRequests Faithful
  rw [nextGate]
  cases hcall : s.transition requestId status reason decidedBy decidedAt with
  | error e =>
    refine iff_of_true (keepsRequests_self hs) fun status' hstatus r hr hpending => ?_
    rw [transition_eq_ok.mpr ⟨status', r, hstatus, hr, hpending, rfl⟩] at hcall
    cases hcall
  | ok x =>
    obtain ⟨status', r, hstatus, hr, hpending, rfl⟩ := transition_eq_ok.mp hcall
    obtain ⟨hmem, rfl⟩ := s.find?_eq_some_iff.mp hr
    simp only [afterTransaction]
    rw [keeps_put_iff, recorded_put_iff hs]
    have hexecution : (r.transitioned status' reason decidedBy decidedAt).metadata.find?
        "execution" = none := by
      rw [find?_transitioned, if_neg (by simp)]
      by_contra hne
      rw [hs r hmem hne] at hpending
      cases hpending
    constructor
    · rintro ⟨hkeeps, -⟩ status'' hstatus' r' hr' -
      cases hstatus.symm.trans hstatus'
      cases hr.symm.trans hr'
      exact (keeps_transitioned_iff hpending).mp (hkeeps r hr)
    · intro h
      refine ⟨fun r' hr' => ?_, fun hne => absurd hexecution hne⟩
      cases hr.symm.trans hr'
      exact (keeps_transitioned_iff hpending).mpr (h status' hstatus r hr hpending)

lemma keepsRequests_markExecuted_iff :
    KeepsRequests pyEq s (.markExecuted requestId metadata) ↔
      Faithful s (.markExecuted requestId metadata) := by
  unfold KeepsRequests Faithful
  rw [nextGate]
  cases hcall : s.markExecuted requestId metadata with
  | error e =>
    refine iff_of_true (keepsRequests_self hs) fun r hr happroved => ?_
    rw [markExecuted_eq_ok.mpr ⟨r, hr, happroved, rfl⟩] at hcall
    cases hcall
  | ok x =>
    obtain ⟨r, hr, happroved, rfl⟩ := markExecuted_eq_ok.mp hcall
    obtain ⟨hmem, rfl⟩ := s.find?_eq_some_iff.mp hr
    simp only [afterTransaction]
    rw [keeps_put_iff, recorded_put_iff hs]
    constructor
    · rintro ⟨hkeeps, -⟩ r' hr' -
      cases hr.symm.trans hr'
      exact keeps_executed_iff.mp (hkeeps r hr)
    · intro h
      refine ⟨fun r' hr' => ?_, fun _ => happroved⟩
      cases hr.symm.trans hr'
      exact keeps_executed_iff.mpr (h r hr happroved)

end

end Gate

/-- **Approval.** Along every sequence of calls from an empty store, every request keeps its inputs,
its decision and its settled status, and execution metadata is on approved requests only, exactly if
every call is faithful. -/
theorem keeps_iff_faithful (pyEq : Json → Json → Bool) (calls : List Call) :
    Run.Along (nextGate pyEq) (KeepsRequests pyEq) (empty _) calls ↔
      Run.Along (nextGate pyEq) (fun s call => Faithful s call) (empty _) calls := by
  refine Run.along_congr_of_invariant (I := Gate.Recorded) (fun s call hs => ?_)
    (fun s call _ hcall => hcall.2) (fun r hr => absurd hr List.not_mem_nil) calls
  cases call with
  | request token inputs => exact Gate.keepsRequests_request_iff hs
  | requestOnce requestId inputs => exact iff_of_true (Gate.keepsRequests_requestOnce hs) trivial
  | transition requestId status reason decidedBy decidedAt =>
    exact Gate.keepsRequests_transition_iff hs
  | markExecuted requestId metadata => exact Gate.keepsRequests_markExecuted_iff hs

/-- A request that is approved by `o`. -/
def sampleCalls : List Call :=
  [.requestOnce "r" ⟨"deploy", "c", "i", "", empty _, "a", "/p"⟩,
    .transition "r" "approved" "" "o" ""]

/-- The execution of an approved request replaces the decision that approved it. -/
theorem executed_request_loses_decision :
    ¬ Run.Along (nextGate fun a b => a = b) (KeepsRequests fun a b => a = b) (empty _)
      (sampleCalls ++ [.markExecuted "r" ((empty _).put ("decision", .str "x"))]) := by
  rintro ⟨-, -, ⟨hkeeps, -⟩, -⟩
  let approved := sampleCalls.foldl (nextGate fun a b => a = b) (empty _)
  have hbefore : ((approved.find? "r").bind fun r => r.metadata.find? "decision") =
      some (decision .approved "o" "") := by decide +kernel
  have hafter : ((nextGate (fun a b => a = b) approved (.markExecuted "r"
      ((empty _).put ("decision", .str "x")))).find? "r").bind
        (fun r => r.metadata.find? "decision") = some ("decision", .str "x") := by decide +kernel
  obtain ⟨r, hr, hdecision⟩ := bind_eq_some_iff.mp hbefore
  obtain ⟨r', hr', hkept⟩ := hkeeps "r" r hr
  have hsame := hkept.decision _ hdecision
  have hr'' : ((nextGate (fun a b => a = b) approved (.markExecuted "r"
      ((empty _).put ("decision", .str "x")))).find? "r") = some r' := hr'
  rw [hr''] at hafter
  rw [bind_some, hsame] at hafter
  exact absurd hafter (by decide +kernel)

end StatePort.Approval
