import StatePort.Algorithm.Run
import StatePort.Document.Equiv.Json
import StatePort.ExecutionHost.RunLease

/-!
# The two indices of the run authority

`Coherent`: both indices hold the same grants. A grant id is withdrawn once a revoked grant is
stored under it. Every call changes the authority by registrations and revocations only, those of
the effects it performs included (`exec_invariant`); each of them keeps the indices coherent and
withdrawn ids withdrawn. The digest of a grant determines the grant up to its revocation
(`revoke_eq_of_authorityDigest_eq`), which is why a registration cannot move an id to another key.
-/

namespace StatePort.ExecutionHost

open String

variable {value grantId kind image host : String} {b : Binding}

/-! ### The digest -/

namespace RunGrant

variable {g g' : RunGrant}

/-- The fields of the identity, in the order of their keys. -/
lemma identity_eq (g : RunGrant) : g.identity = .dict
    [("claimedImage", .str g.claimedImage), ("digestPin", .str g.digestPin),
      ("executorKind", .str g.executorKind),
      ("formatVersion", .str "stateport.run-authority-grant/v1"), ("grantId", .str g.grantId),
      ("host", .str g.host), ("issuedAt", .str g.issuedAt), ("scope", .str g.scope)] := by
  simp +decide [identity, Json.ofFields, Json.fieldLE, List.insertionSort, List.orderedInsert]

/-- Grants with one digest differ in nothing but their revocation. -/
lemma revoke_eq_of_authorityDigest_eq
    (hsha : Function.Injective sha256) (h : g.authorityDigest sha256 = g'.authorityDigest sha256) :
    g.revoke = g'.revoke := by
  have htext : g.identity.text .raw = g'.identity.text .raw := by
    refine hsha (toList_injective ?_)
    have hlist := congrArg toList h
    simp only [authorityDigest, toList_append] at hlist
    exact List.append_cancel_left hlist
  have hidentity := Json.text_injective .raw htext
  rw [identity_eq, identity_eq] at hidentity
  simp only [Json.dict.injEq, List.cons.injEq, Prod.mk.injEq, Json.str.injEq, true_and,
    and_true] at hidentity
  obtain ⟨himage, hpin, hkind, hid, hhost, hissued, hscope⟩ := hidentity
  simp only [revoke, mk.injEq]
  exact ⟨hid, hkind, himage, hhost, hscope, hissued, hpin, trivial⟩

@[simp] lemma key_revoke (g : RunGrant) : g.revoke.key = g.key := rfl

@[simp] lemma grantId_revoke (g : RunGrant) : g.revoke.grantId = g.grantId := rfl

lemma key_eq_of_revoke_eq (h : g.revoke = g'.revoke) : g.key = g'.key := by
  rw [← g.key_revoke, h, g'.key_revoke]

end RunGrant

/-! ### What a call does -/

@[simp] lemma requireId_eq_ok {name v : String} :
    requireId value name = .ok v ↔ Authority.isId value ∧ value = v := by
  simp only [requireId, eq_ok_iff, Bool.not_eq_false]

@[simp] lemma requireDigest_eq_ok {name v : String} :
    requireDigest value name = .ok v ↔ Authority.isDigest value ∧ value = v := by
  simp only [requireDigest, eq_ok_iff, Bool.not_eq_false]

@[simp] lemma requireImageReference_eq_ok {v : String} :
    requireImageReference value = .ok v ↔ isImageReference value ∧ value = v := by
  simp only [requireImageReference, eq_ok_iff, Bool.not_eq_false]

namespace RunAuthority

variable {sha256 : List Char → String} {s s' : RunAuthority} {g : RunGrant}

lemma register_eq_ok (h : s.register sha256 g = .ok s') :
    (∀ e ∈ s.byId.find? g.grantId, e.authorityDigest sha256 = g.authorityDigest sha256) ∧
      (∀ e ∈ s.grants.find? g.key, e.grantId = g.grantId) ∧
      (∀ e ∈ s.byId.find? g.grantId, e.revoked → g.revoked) ∧ s' = s.store g := by
  simp only [register, eq_ok_iff] at h
  obtain ⟨-, hdigest, hkeyed, hrevoked, rfl⟩ := h
  refine ⟨fun e he => ?_, fun e he => ?_, fun e he hrev => ?_, rfl⟩
  · by_contra hne
    exact hdigest ⟨e, he, hne⟩
  · by_contra hne
    exact hkeyed ⟨e, he, hne⟩
  · by_contra hlive
    exact hrevoked ⟨e, he, hrev, Bool.eq_false_of_not_eq_true hlive⟩

lemma revoke_eq_ok (h : s.revoke grantId = .ok s') :
    s' = s ∨ ∃ g ∈ s.byId.rows, s' = s.store g.revoke := by
  simp only [revoke, bind_eq_ok] at h
  obtain ⟨id, -, h⟩ := h
  split at h
  · exact .inl (pure_eq_ok.mp h).symm
  · next g hfind =>
    split_ifs at h
    · exact .inl (pure_eq_ok.mp h).symm
    · exact .inr ⟨g, (s.byId.find?_eq_some_iff.mp hfind).1, (pure_eq_ok.mp h).symm⟩

end RunAuthority

section

variable {sha256 : List Char → String} {I : RunAuthority → Prop}

mutual

/-- **Calls.** What registrations and revocations preserve, every call preserves. -/
theorem exec_invariant (hregister : ∀ s g s', I s → s.register sha256 g = .ok s' → I s')
    (hrevoke : ∀ s grantId s', I s → s.revoke grantId = .ok s' → I s') :
    ∀ (call : Call) (s : RunAuthority), I s → I (exec sha256 s call).1
  | .register g, s, hs => by
    unfold exec orUnchanged
    split
    · next s' hs' => exact hregister s g s' hs hs'
    · exact hs
  | .revoke grantId, s, hs => by
    unfold exec orUnchanged
    split
    · next s' hs' => exact hrevoke s grantId s' hs hs'
    · exact hs
  | .authorize _ _ _ _, _, hs => hs
  | .assertLive _ _, _, hs => hs
  | .performIfLive grantId b effect raises, s, hs => by
    unfold exec
    split
    · exact hs
    · have heffect := execAll_invariant hregister hrevoke effect s hs
      simp only
      split_ifs
      · exact heffect
      · exact heffect

theorem execAll_invariant (hregister : ∀ s g s', I s → s.register sha256 g = .ok s' → I s')
    (hrevoke : ∀ s grantId s', I s → s.revoke grantId = .ok s' → I s') :
    ∀ (calls : List Call) (s : RunAuthority), I s → I (execAll sha256 s calls)
  | [], _, hs => hs
  | call :: calls, s, hs =>
    execAll_invariant hregister hrevoke calls _ (exec_invariant hregister hrevoke call s hs)

end

end

/-! ### Coherence -/

namespace RunAuthority

variable {sha256 : List Char → String} {s s' : RunAuthority} {g : RunGrant} {id : String}

/-- Both indices hold the same grants. -/
def Coherent (s : RunAuthority) : Prop := ∀ g, g ∈ s.grants.rows ↔ g ∈ s.byId.rows

/-- A revoked grant is stored under the id. -/
def Withdrawn (s : RunAuthority) (id : String) : Prop :=
  ∃ g, s.byId.find? id = some g ∧ g.revoked

/-- Storing a grant under its id and its key, if neither belongs to another grant. -/
lemma Coherent.store (hs : s.Coherent)
    (hid : ∀ e ∈ s.byId.rows, e.grantId = g.grantId → e.key = g.key)
    (hkey : ∀ e ∈ s.grants.rows, e.key = g.key → e.grantId = g.grantId) :
    (s.store g).Coherent := by
  intro b
  change b ∈ (s.grants.put g).rows ↔ b ∈ (s.byId.put g).rows
  rw [Table.mem_put, Table.mem_put, ← hs b]
  refine or_congr_right (and_congr_right fun hb => ?_)
  exact ⟨fun hne heq => hne (hid b ((hs b).mp hb) heq), fun hne heq => hne (hkey b hb heq)⟩

lemma Coherent.register (hsha : Function.Injective sha256) (hs : s.Coherent)
    (h : s.register sha256 g = .ok s') : s'.Coherent := by
  obtain ⟨hdigest, hkeyed, -, rfl⟩ := register_eq_ok h
  refine hs.store (fun e he heq => ?_) (fun e he heq => ?_)
  · have hfind := s.byId.find?_eq_some_iff.mpr ⟨he, heq⟩
    exact RunGrant.key_eq_of_revoke_eq
      (RunGrant.revoke_eq_of_authorityDigest_eq hsha (hdigest e hfind))
  · exact hkeyed e (s.grants.find?_eq_some_iff.mpr ⟨he, heq⟩)

lemma Coherent.revoke (hs : s.Coherent) (h : s.revoke grantId = .ok s') : s'.Coherent := by
  obtain rfl | ⟨g, hg, rfl⟩ := revoke_eq_ok h
  · exact hs
  · refine hs.store (fun e he heq => ?_) (fun e he heq => ?_)
    · rw [s.byId.eq_of_key_eq he hg heq, g.key_revoke]
    · rw [s.grants.eq_of_key_eq he ((hs g).mpr hg) heq, g.grantId_revoke]

/-! ### Withdrawal -/

/-- A withdrawn id stays withdrawn when a grant is stored that is revoked if it is under the id. -/
lemma Withdrawn.store (hs : s.Withdrawn id) (hg : g.grantId = id → g.revoked) :
    (s.store g).Withdrawn id := by
  obtain ⟨e, hfind, hrevoked⟩ := hs
  unfold Withdrawn
  change ∃ g', (s.byId.put g).find? id = some g' ∧ g'.revoked
  rw [Table.find?_put]
  split_ifs with hid
  · exact ⟨g, rfl, hg hid⟩
  · exact ⟨e, hfind, hrevoked⟩

lemma Withdrawn.register (hs : s.Withdrawn id) (h : s.register sha256 g = .ok s') :
    s'.Withdrawn id := by
  obtain ⟨-, -, hrevoked, rfl⟩ := register_eq_ok h
  refine hs.store ?_
  rintro rfl
  obtain ⟨e, hfind, he⟩ := hs
  exact hrevoked e hfind he

/-- The revocation of a registered id succeeds and withdraws it. -/
lemma exists_revoke (hfind : s.byId.find? id = some g) :
    ∃ s', s.revoke id = .ok s' ∧ s'.Withdrawn id := by
  obtain ⟨-, rfl⟩ := s.byId.find?_eq_some_iff.mp hfind
  have hid : requireId g.grantId "grant_id" = .ok g.grantId := by
    rw [requireId, raiseIf, if_neg (by simp [g.grantId_valid])]
    rfl
  rw [RunAuthority.revoke, hid, ok_bind, hfind]
  dsimp only
  split_ifs with hrevoked
  · exact ⟨s, rfl, g, hfind, hrevoked⟩
  · refine ⟨_, rfl, g.revoke, ?_, rfl⟩
    change (s.byId.put g.revoke).find? g.grantId = _
    rw [Table.find?_put, if_pos g.grantId_revoke]

lemma Withdrawn.revoke (hs : s.Withdrawn id) (h : s.revoke grantId = .ok s') :
    s'.Withdrawn id := by
  obtain rfl | ⟨g, -, rfl⟩ := revoke_eq_ok h
  · exact hs
  · exact hs.store fun _ => rfl

/-! ### What succeeds -/

lemma assertLive_eq_ok : s.assertLive sha256 id b = .ok g ↔
    Authority.isId id ∧ s.byId.find? id = some g ∧
      Authority.isDigest b.authorityGrantDigest ∧
      g.authorityDigest sha256 = b.authorityGrantDigest ∧ g.revoked = false ∧
      b.imageDigest = some g.digestPin := by
  unfold assertLive
  simp only [bind_eq_ok, requireId_eq_ok, and_assoc, exists_and_left, exists_eq_left']
  refine and_congr_right fun _ => ?_
  cases hfind : s.byId.find? id with
  | none => simp
  | some e =>
    simp only [eq_ok_iff, requireDigest_eq_ok, and_assoc, exists_and_left, exists_eq_left',
      Bool.not_eq_true, not_not, ne_eq, Option.some.injEq]
    constructor
    · rintro ⟨hdigest, heq, hlive, himage, rfl⟩
      exact ⟨rfl, hdigest, heq, hlive, himage⟩
    · rintro ⟨rfl, hdigest, heq, hlive, himage⟩
      exact ⟨hdigest, heq, hlive, himage, rfl⟩

lemma authorize_eq_ok (h : s.authorize sha256 kind image host b = .ok g) :
    g ∈ s.grants.rows ∧ Authority.isDigest b.authorityGrantDigest ∧
      g.authorityDigest sha256 = b.authorityGrantDigest ∧ g.revoked = false ∧
      b.imageDigest = some g.digestPin := by
  simp only [authorize, bind_eq_ok] at h
  obtain ⟨found, haddress, h⟩ := h
  cases found with
  | none => cases h
  | some e =>
    have hfind : s.grants.find? ⟨kind, image, host⟩ = some e := by
      unfold address at haddress
      split at haddress
      · next g' hlookup =>
        cases haddress
        simp only [lookup, eq_ok_iff, requireId_eq_ok, requireImageReference_eq_ok, and_assoc,
          exists_and_left, exists_eq_left'] at hlookup
        exact hlookup.2.2.2
      · cases haddress
    simp only [eq_ok_iff, requireDigest_eq_ok, and_assoc, exists_and_left, exists_eq_left',
      Bool.not_eq_true, not_not, ne_eq] at h
    obtain ⟨hdigest, heq, hlive, -, himage, rfl⟩ := h
    exact ⟨(s.grants.find?_eq_some_iff.mp hfind).1, hdigest, heq, hlive, himage⟩

/-- No check succeeds for a withdrawn id. -/
lemma Withdrawn.assertLive (hs : s.Withdrawn id) (b : Binding) :
    ∃ e, s.assertLive sha256 id b = .error e := by
  obtain ⟨g, hfind, hrevoked⟩ := hs
  cases hlive : s.assertLive sha256 id b with
  | error e => exact ⟨e, rfl⟩
  | ok g' =>
    obtain ⟨-, hfind', -, -, hlive', -⟩ := assertLive_eq_ok.mp hlive
    cases hfind.symm.trans hfind'
    cases hrevoked.symm.trans hlive'

/-- No authorization returns the grant of a withdrawn id. -/
lemma Withdrawn.authorize (hs : s.Withdrawn id) (hcoherent : s.Coherent)
    (h : s.authorize sha256 kind image host b = .ok g) :
    g.grantId ≠ id := by
  rintro rfl
  obtain ⟨hg, -, -, hlive, -⟩ := authorize_eq_ok h
  obtain ⟨e, hfind, hrevoked⟩ := hs
  have hfind' := s.byId.find?_eq_some_iff.mpr ⟨(hcoherent g).mp hg, rfl⟩
  cases hfind.symm.trans hfind'
  cases hrevoked.symm.trans hlive

lemma assertLive_of_authorize (hcoherent : s.Coherent)
    (h : s.authorize sha256 kind image host b = .ok g) :
    s.assertLive sha256 g.grantId b = .ok g := by
  obtain ⟨hg, hdigest, heq, hlive, himage⟩ := authorize_eq_ok h
  have hfind := s.byId.find?_eq_some_iff.mpr ⟨(hcoherent g).mp hg, rfl⟩
  exact assertLive_eq_ok.mpr ⟨g.grantId_valid, hfind, hdigest, heq, hlive, himage⟩

/-! ### Runs -/

lemma coherent_new (host : String) : (new host).Coherent := fun _ => Iff.rfl

lemma Coherent.run (hsha : Function.Injective sha256) (hs : s.Coherent)
    (h : Run (nextAuthority sha256) anyEvent s s') : s'.Coherent := by
  refine h.invariant (I := Coherent) (fun s call hs _ => ?_) hs
  exact exec_invariant (fun _ _ _ hs h => hs.register hsha h) (fun _ _ _ hs h => hs.revoke h)
    call s hs

lemma Withdrawn.run (hs : s.Withdrawn id) (h : Run (nextAuthority sha256) anyEvent s s') :
    s'.Withdrawn id := by
  refine h.invariant (I := fun s => s.Withdrawn id) (fun s call hs _ => ?_) hs
  exact exec_invariant (I := fun s => s.Withdrawn id) (fun _ _ _ hs h => hs.register h)
    (fun _ _ _ hs h => hs.revoke h) call s hs

end RunAuthority

/-- **Run authority.** After every sequence of calls the two indices hold the same grants, each
under its own key and its own id; an id that is withdrawn stays withdrawn, and no authorization,
check or effect succeeds for it again; `revoke` withdraws every registered id; and a grant that
`authorize` returns is live. -/
theorem run_authority_coherent {sha256 : List Char → String} (hsha : Function.Injective sha256)
    {host : String} {s : RunAuthority}
    (h : Run (nextAuthority sha256) anyEvent (RunAuthority.new host) s) :
    (∀ g, (s.grants.find? g.key = some g ↔ s.byId.find? g.grantId = some g)) ∧
    (∀ id, s.Withdrawn id → ∀ s', Run (nextAuthority sha256) anyEvent s s' →
      s'.Withdrawn id ∧
      (∀ kind image host b g, s'.authorize sha256 kind image host b = .ok g → g.grantId ≠ id) ∧
      (∀ b, ∃ e, s'.assertLive sha256 id b = .error e) ∧
      ∀ b effect raises, ∃ e, (exec sha256 s' (.performIfLive id b effect raises)).2 = .error e) ∧
    (∀ id g, s.byId.find? id = some g → (nextAuthority sha256 s (.revoke id)).Withdrawn id) ∧
    ∀ kind image host b g, s.authorize sha256 kind image host b = .ok g →
      s.assertLive sha256 g.grantId b = .ok g := by
  have hs : s.Coherent := (RunAuthority.coherent_new host).run hsha h
  refine ⟨fun g => ?_, fun id hid s' hrun => ?_, fun id g hfind => ?_,
    fun kind image host b g hauth => ?_⟩
  · rw [s.grants.find?_eq_some_iff, s.byId.find?_eq_some_iff, hs g]
    exact ⟨fun hg => ⟨hg.1, rfl⟩, fun hg => ⟨hg.1, rfl⟩⟩
  · have hid' := hid.run hrun
    refine ⟨hid', fun kind image host b g hauth => hid'.authorize (hs.run hsha hrun) hauth,
      hid'.assertLive, fun b effect raises => ?_⟩
    obtain ⟨e, he⟩ : ∃ e, s'.assertLive sha256 id b = .error e := hid'.assertLive b
    exact ⟨e, by simp [exec, he]⟩
  · obtain ⟨s', hrevoke, hid⟩ := RunAuthority.exists_revoke hfind
    rwa [nextAuthority, exec, hrevoke]
  · exact RunAuthority.assertLive_of_authorize hs hauth

def zeroDigest : String := "sha256:0000000000000000000000000000000000000000000000000000000000000000"

def sampleGrant : RunGrant where
  grantId := "g"
  executorKind := "agent"
  claimedImage := "i@sha256:0000000000000000000000000000000000000000000000000000000000000000"
  host := "h"
  scope := "s"
  issuedAt := "now"
  digestPin := zeroDigest
  revoked := false
  grantId_valid := by decide +kernel
  executorKind_valid := by decide +kernel
  claimedImage_valid := by decide +kernel
  host_valid := by decide +kernel
  scope_valid := by decide +kernel
  issuedAt_valid := by decide +kernel
  digestPin_valid := by decide +kernel

/-- An authority whose only grant has been revoked. -/
def sampleAuthority : RunAuthority :=
  [Call.register sampleGrant, .revoke "g"].foldl (nextAuthority ofList) (.new "h")

theorem run_authority_coherent_revoked : sampleAuthority.Withdrawn "g" ∧
    ∀ b, ∃ e, sampleAuthority.assertLive String.ofList "g" b = .error e := by
  have hsha : Function.Injective String.ofList := fun a b h => by
    have hlist := congrArg String.toList h
    rwa [String.toList_ofList, String.toList_ofList] at hlist
  have hid : sampleAuthority.Withdrawn "g" := ⟨sampleGrant.revoke, by decide +kernel, rfl⟩
  have hrun : Run (nextAuthority String.ofList) anyEvent (.new "h") sampleAuthority := Run.foldl _ _
  exact ⟨hid, ((run_authority_coherent hsha hrun).2.1 "g" hid _ (Run.refl _)).2.2.1⟩

end StatePort.ExecutionHost
