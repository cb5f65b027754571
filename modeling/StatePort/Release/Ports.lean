import StatePort.Release.Disposition

/-!
# The ports of a revision

`materialize_verified_quadlet_bundle` gives every port of every service two host ports, one for each
profile. The candidates for one port are an arithmetic progression modulo the span of the range.
Release validation demands a step that is coprime to the span and no more attempts than the span, so
that no candidate is probed twice (`candidate_inj`): a port whose attempts all fail has met as many
taken ports as there were attempts (`allocate_correct`). The seeds, which are digests, are a
parameter.
-/

namespace StatePort.Release

open List

structure PortPolicy where
  (rangeStart rangeEnd probeStep maximumAttempts : ℤ)

structure Service where
  serviceId : String
  ports : List String

/-- An item of `occupied_port_inputs`; `none` is a value of another type. -/
structure OccupiedPort where
  class_ : Option String
  port : Option ℤ
  identityDigest : Option String

/-- Service, profile and port name. -/
abbrev PortKey := String × String × String

/-- A key of `ports` and `probe_attempts` with its values. -/
structure Allocation where
  key : PortKey
  port : ℤ
  attempt : ℕ

variable (policy : PortPolicy)

def PortPolicy.span : ℤ := policy.rangeEnd - policy.rangeStart + 1

/-- The checks of the port policy in `_validate_cross_fields`. -/
def validatePortPolicy (position : ℕ) : Except ReleaseContractError Unit := do
  raiseIf (policy.span ≤ 1) ⟨s!"targets[{position}] port range is invalid"⟩
  raiseIf (policy.probeStep.gcd policy.span ≠ 1)
    ⟨s!"targets[{position}] port probe step cannot traverse the signed range"⟩
  raiseIf (policy.maximumAttempts > policy.span)
    ⟨s!"targets[{position}] port attempts exceed the collision-free traversal"⟩

/-- `normalized_occupied`, as far as the ports in it. -/
def occupiedPorts (inputs : List OccupiedPort) : Except ReleaseContractError (List ℤ) := do
  let used ← inputs.zipIdx.mapM fun (item, position) => do
    raiseIf (item.class_ ∉ ["current", "predecessor", "candidate", "observed-host"].map some)
      ⟨s!"occupied port input {position} has an invalid class"⟩
    match item.port with
    | none => .error ⟨s!"occupied port input {position} has an invalid port"⟩
    | some port => do
      raiseIf (item.identityDigest.all Authority.isDigest = false ∨ item.identityDigest = none)
        ⟨s!"occupied port input {position} has no exact identity digest"⟩
      return port
  raiseIf (∃ port ∈ used, port < 1 ∨ port > 65535)
    ⟨"occupied port input is outside the TCP port range"⟩
  return used

/-- The ports in the order in which they are allocated. -/
def portKeys (services : List Service) : List PortKey :=
  (services.insertionSort fun a b => Str.isLess b.serviceId a.serviceId = false).flatMap fun s =>
    ["validation", "accepted"].flatMap fun profile =>
      (s.ports.insertionSort fun a b => Str.isLess b a = false).map fun port =>
        (s.serviceId, profile, port)

def candidate (seed attempt : ℕ) : ℤ :=
  policy.rangeStart + (seed % policy.span + attempt * policy.probeStep) % policy.span

variable (seed : PortKey → ℕ) (occupied : List ℤ)

/-- One turn of the loop over the ports: the first candidate that is not in `used`. -/
def allocateOne (ports : List Allocation) (key : PortKey) :
    Except ReleaseContractError (List Allocation) :=
  match (range policy.maximumAttempts.toNat).find? fun attempt =>
      candidate policy (seed key) attempt ∉ occupied ++ ports.map Allocation.port with
  | none => .error ⟨"deterministic revision port range is exhausted"⟩
  | some attempt => .ok (ports ++ [⟨key, candidate policy (seed key) attempt, attempt⟩])

def allocate (keys : List PortKey) : Except ReleaseContractError (List Allocation) :=
  keys.foldlM (allocateOne policy seed occupied) []

variable {policy seed occupied} {position : ℕ} {ports ports' : List Allocation}

/-- A step that is coprime to the span comes back to a candidate only after the whole span. -/
lemma candidate_inj (h : validatePortPolicy policy position = .ok ()) (s : ℕ) {i j : ℕ}
    (hi : i < policy.maximumAttempts.toNat) (hj : j < policy.maximumAttempts.toNat)
    (heq : candidate policy s i = candidate policy s j) : i = j := by
  simp only [validatePortPolicy, eq_ok_iff, not_le, not_lt, not_not] at h
  obtain ⟨_, hgcd, hattempts⟩ := h
  have hmod : (s % policy.span + i * policy.probeStep : ℤ) ≡
      s % policy.span + j * policy.probeStep [ZMOD policy.span] := add_left_cancel heq
  have hdvd : policy.span ∣ (i - j : ℤ) * policy.probeStep := by
    rw [sub_mul]
    exact (hmod.add_left_cancel' _).symm.dvd
  have hzero : (i - j : ℤ) = 0 := by
    rw [Int.gcd_comm] at hgcd
    refine Int.eq_zero_of_abs_lt_dvd (Int.dvd_of_dvd_mul_left_of_gcd_one hdvd hgcd) ?_
    rw [abs_lt]
    omega
  omega

lemma candidate_inRange (h : validatePortPolicy policy position = .ok ()) (s attempt : ℕ) :
    policy.rangeStart ≤ candidate policy s attempt ∧
      candidate policy s attempt ≤ policy.rangeEnd := by
  simp only [validatePortPolicy, eq_ok_iff, not_le] at h
  have hpos : 0 < policy.span := by omega
  have hnonneg := Int.emod_nonneg (s % policy.span + attempt * policy.probeStep) hpos.ne'
  have hlt := Int.emod_lt_of_pos (s % policy.span + attempt * policy.probeStep) hpos
  simp only [candidate, PortPolicy.span] at *
  omega

/-- The port of every input is taken into account. -/
lemma mem_occupiedPorts {inputs : List OccupiedPort} {item : OccupiedPort} {port : ℤ}
    (h : occupiedPorts inputs = .ok occupied) (hitem : item ∈ inputs)
    (hport : item.port = some port) : port ∈ occupied := by
  simp only [occupiedPorts, eq_ok_iff] at h
  obtain ⟨used, hused, _, rfl⟩ := h
  rw [← zipIdx_map_fst 0 inputs] at hitem
  obtain ⟨numbered, hmem, rfl⟩ := mem_map.mp hitem
  obtain ⟨port', hport', hok⟩ := (mem_of_mapM_eq_ok hused).2 numbered hmem
  simp only [hport, eq_ok_iff] at hok
  obtain ⟨_, _, rfl⟩ := hok
  exact hport'

variable (policy occupied ports) in
/-- The ports allocated so far are distinct, in the range and free. -/
def Allocated : Prop :=
  (ports.map Allocation.port).Nodup ∧
    ∀ p ∈ ports, (policy.rangeStart ≤ p.port ∧ p.port ≤ policy.rangeEnd) ∧ p.port ∉ occupied

lemma Allocated.one (h : validatePortPolicy policy position = .ok ()) {key : PortKey}
    (hone : allocateOne policy seed occupied ports key = .ok ports')
    (hports : Allocated policy occupied ports) : Allocated policy occupied ports' := by
  unfold allocateOne at hone
  split at hone
  · cases hone
  · rename_i attempt hfind
    cases hone
    have hfree := find?_some hfind
    simp only [decide_eq_true_eq, mem_append, not_or] at hfree
    constructor
    · rw [map_append, nodup_append']
      refine ⟨hports.1, nodup_singleton _, disjoint_singleton.mpr hfree.2⟩
    · intro p hp
      obtain hp | hp := mem_append.mp hp
      · exact hports.2 p hp
      · rw [mem_singleton.mp hp]
        exact ⟨candidate_inRange h _ _, hfree.1⟩

variable (policy occupied ports) in
/-- The taken ports of the range. -/
def taken : Finset ℤ :=
  (occupied ++ ports.map Allocation.port).toFinset.filter fun port =>
    policy.rangeStart ≤ port ∧ port ≤ policy.rangeEnd

lemma le_card_taken (h : validatePortPolicy policy position = .ok ()) {key : PortKey}
    {e : ReleaseContractError} (hone : allocateOne policy seed occupied ports key = .error e) :
    policy.maximumAttempts ≤ (taken policy occupied ports).card := by
  unfold allocateOne at hone
  split at hone
  · rename_i hfind
    have hcard : (Finset.range policy.maximumAttempts.toNat).card ≤
        (taken policy occupied ports).card := by
      refine Finset.card_le_card_of_injOn (candidate policy (seed key)) ?_ ?_
      · intro attempt hattempt
        have hmem := find?_eq_none.mp hfind attempt (by simpa using hattempt)
        simp only [decide_eq_true_eq, not_not] at hmem
        exact Finset.mem_filter.mpr ⟨mem_toFinset.mpr hmem, candidate_inRange h _ _⟩
      · intro i hi j hj
        exact candidate_inj h _ (by simpa using hi) (by simpa using hj)
    rw [Finset.card_range] at hcard
    omega
  · cases hone

/-- Every key gets its port, in the order of the keys. -/
lemma map_key_of_foldlM {keys : List PortKey}
    (h : keys.foldlM (allocateOne policy seed occupied) ports = .ok ports') :
    ports'.map Allocation.key = ports.map Allocation.key ++ keys := by
  induction keys generalizing ports with
  | nil =>
    cases h
    simp
  | cons key keys ih =>
    rw [foldlM_cons, bind_eq_ok] at h
    obtain ⟨next, hone, hrest⟩ := h
    rw [ih hrest]
    unfold allocateOne at hone
    split at hone
    · cases hone
    · cases hone
      simp

/-- Allocation serves every key, is free of collisions and reports exhaustion only if as many ports of
the range as it attempts are occupied or allocated before. -/
theorem allocate_correct (h : validatePortPolicy policy position = .ok ()) (seed : PortKey → ℕ)
    (services : List Service) {inputs : List OccupiedPort}
    (hinputs : occupiedPorts inputs = .ok occupied) :
    (∀ ports, allocate policy seed occupied (portKeys services) = .ok ports →
        ports.map Allocation.key = portKeys services ∧
        (ports.map Allocation.port).Nodup ∧ ∀ p ∈ ports,
          policy.rangeStart ≤ p.port ∧ p.port ≤ policy.rangeEnd ∧
            ∀ item ∈ inputs, item.port ≠ some p.port) ∧
      (∀ s, ((range policy.maximumAttempts.toNat).map (candidate policy s)).Nodup) ∧
        ∀ e, allocate policy seed occupied (portKeys services) = .error e →
          ∃ done rest ports, portKeys services = done ++ rest ∧
            allocate policy seed occupied done = .ok ports ∧
              policy.maximumAttempts ≤ (taken policy occupied ports).card := by
  refine ⟨fun ports hports => ?_, fun s => ?_, fun e he => ?_⟩
  · obtain ⟨hnodup, hall⟩ := foldlM_invariant (fun _ _ _ _ hone => Allocated.one h hone) hports
      ⟨nodup_nil, by simp⟩
    refine ⟨by simpa using map_key_of_foldlM hports, hnodup, fun p hp => ?_⟩
    obtain ⟨⟨hstart, hend⟩, hfree⟩ := hall p hp
    exact ⟨hstart, hend, fun item hitem heq => hfree (mem_occupiedPorts hinputs hitem heq)⟩
  · refine (nodup_map_iff_inj_on nodup_range).mpr ?_
    intro i hi j hj
    exact candidate_inj h s (mem_range.mp hi) (mem_range.mp hj)
  · obtain ⟨done, key, rest, ports, hkeys, hdone, herror⟩ := exists_of_foldlM_eq_error he
    exact ⟨done, key :: rest, ports, hkeys, hdone, le_card_taken h herror⟩

/-- The one port of the range that is left serves one of the two profiles. -/
theorem allocate_exhausted :
    let policy : PortPolicy := ⟨8000, 8001, 1, 2⟩
    let digest := "sha256:" ++ String.ofList (replicate 64 'a')
    let services : List Service := [⟨"web", ["http"]⟩]
    validatePortPolicy policy 0 = .ok () ∧
      occupiedPorts [⟨"current", some 8000, digest⟩] = .ok [8000] ∧
        allocate policy (fun _ => 0) [8000] (portKeys services) =
          .error ⟨"deterministic revision port range is exhausted"⟩ ∧
          ∃ done rest ports, portKeys services = done ++ rest ∧
            allocate policy (fun _ => 0) [8000] done = .ok ports ∧
              policy.maximumAttempts ≤ (taken policy [8000] ports).card := by
  intro policy digest services
  have h : validatePortPolicy policy 0 = .ok () := by decide +kernel
  have hinputs : occupiedPorts [⟨"current", some 8000, digest⟩] = .ok [8000] := by decide +kernel
  have he : allocate policy (fun _ => 0) [8000] (portKeys services) =
      .error ⟨"deterministic revision port range is exhausted"⟩ := rfl
  exact ⟨h, hinputs, he, (allocate_correct h _ services hinputs).2.2 _ he⟩

end StatePort.Release
