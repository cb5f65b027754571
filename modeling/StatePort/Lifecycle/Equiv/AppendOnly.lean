import StatePort.Lifecycle.AppendOnly

/-!
# Applying and rolling back append-only updates

`normaliseRecords` returns the records it is given, and accepts them exactly if it accepts each of
them and their ids are distinct (`normaliseRecords_eq_ok`). Planning accepts the records it is given;
applying also accepts those records with the marker's appended. The two differ in one case: a record
that is no marker may have the marker's id. `roundTrips_iff` says that an update can be applied and
rolled back exactly if no record has it.
-/

namespace StatePort.Lifecycle.AppendOnly

open List

variable {env : Env} {policy : AppendOnlyLifecyclePolicy} {records result : List (Record env)}

/-! ### Accepted records -/

variable (policy) in
/-- What the loop checks of one record by itself. -/
structure Accepts (record : Record env) (recordId : String) : Prop where
  isMapping : record.fields?.isSome
  isJson : (record.data.dumps env.valueOf).isSome
  isWritable : record.data.isWritable env.valueOf
  text_recordId : record.text? "recordId" = some recordId
  nonEmpty : isNonEmpty recordId
  checked : checkRecord policy recordId record = .ok ()

lemma requireText_eq_ok {record : Record env} {key label value : String} :
    requireText record key label = .ok value ↔
      record.text? key = some value ∧ isNonEmpty value := by
  unfold requireText
  cases htext : record.text? key with
  | none => simp
  | some text =>
    simp only [eq_ok_iff, Bool.not_eq_false, Option.some.injEq]
    constructor
    · rintro ⟨hne, rfl⟩
      exact ⟨rfl, hne⟩
    · rintro ⟨rfl, hne⟩
      exact ⟨hne, rfl⟩

lemma recordIdOf_eq_ok {index : ℕ} {record : Record env} {recordId : String} :
    recordIdOf index record = .ok recordId ↔
      record.fields?.isSome ∧ (record.data.dumps env.valueOf).isSome ∧
        record.data.isWritable env.valueOf ∧ record.text? "recordId" = some recordId ∧
        isNonEmpty recordId := by
  simp only [recordIdOf, eq_ok_iff, requireText_eq_ok, not_or, Bool.not_eq_true, Bool.not_eq_false,
    Option.isNone_eq_false_iff, and_assoc]

def recordIds (records : List (Record env)) : List (Option String) :=
  records.map fun record => record.text? "recordId"

/-- The loop accepts records exactly if each is accepted and no id occurs twice. -/
lemma normaliseFrom_eq_ok :
    ∀ {index : ℕ} {seenIds : List String} {result : List (Record env)},
      normaliseFrom policy index seenIds records = .ok result ↔
        result = records ∧ (∀ record ∈ records, ∃ recordId, Accepts policy record recordId) ∧
          (recordIds records).Nodup ∧ ∀ seen ∈ seenIds, some seen ∉ recordIds records := by
  induction records with
  | nil =>
    intro index seenIds result
    simp [normaliseFrom, recordIds, eq_comm]
  | cons record records ih =>
    intro index seenIds result
    simp only [normaliseFrom, eq_ok_iff, ih]
    constructor
    · rintro ⟨recordId, hid, hfresh, hchecked, rest, ⟨rfl, haccepts, hnodup, hseen⟩, rfl⟩
      obtain ⟨hmapping, hjson, hwritable, htext, hne⟩ := recordIdOf_eq_ok.mp hid
      refine ⟨rfl, ?_, ?_, ?_⟩
      · rintro other (_ | ⟨_, hother⟩)
        · exact ⟨recordId, hmapping, hjson, hwritable, htext, hne, hchecked⟩
        · exact haccepts other hother
      · rw [recordIds, map_cons, nodup_cons, htext]
        exact ⟨hseen recordId mem_cons_self, hnodup⟩
      · intro seen hmem
        rw [recordIds, map_cons, mem_cons, htext, not_or]
        refine ⟨?_, hseen seen (mem_cons_of_mem _ hmem)⟩
        intro heq
        exact hfresh (Option.some.inj heq ▸ hmem)
    · rintro ⟨rfl, haccepts, hnodup, hseen⟩
      obtain ⟨recordId, haccept⟩ := haccepts record mem_cons_self
      rw [recordIds, map_cons, nodup_cons, haccept.text_recordId] at hnodup
      refine ⟨recordId, recordIdOf_eq_ok.mpr ⟨haccept.isMapping, haccept.isJson,
        haccept.isWritable, haccept.text_recordId, haccept.nonEmpty⟩, ?_, haccept.checked, records,
        ⟨rfl, fun other hother => haccepts other (mem_cons_of_mem _ hother), hnodup.2, ?_⟩,
        rfl⟩
      · intro hmem
        refine hseen recordId hmem ?_
        rw [recordIds, map_cons, haccept.text_recordId]
        exact mem_cons_self
      · rintro seen (_ | ⟨_, hmem⟩)
        · exact hnodup.1
        · exact fun hrest => hseen seen hmem (mem_cons_of_mem _ hrest)

lemma normaliseRecords_eq_ok :
    normaliseRecords records policy = .ok result ↔
      result = records ∧ (∀ record ∈ records, ∃ recordId, Accepts policy record recordId) ∧
        (recordIds records).Nodup := by
  simp [normaliseRecords, normaliseFrom_eq_ok]

/-- Accepted records equal themselves, since none has a number that differs from itself. -/
lemma sameRecords_refl (h : ∀ record ∈ records, ∃ recordId, Accepts policy record recordId) :
    sameRecords records records := by
  induction records with
  | nil => rfl
  | cons record records ih =>
    obtain ⟨recordId, haccept⟩ := h record mem_cons_self
    have hhead := PyData.pyEq_refl record.data record.wellFormed haccept.isWritable
    have htail := ih fun other hother => h other (mem_cons_of_mem _ hother)
    simp only [sameRecords, map_cons, PyData.pyEqItems, Bool.and_eq_true]
    exact ⟨hhead, htail⟩

/-! ### Refusals -/

/-- The computation succeeds or raises a `LifecycleError`. -/
abbrev RaisesLifecycleErrors {α : Type} (x : Except Raised α) : Prop :=
  RaisesOnly (fun e => e.isLifecycleError) x

lemma raises_requireText (record : Record env) (key label : String) :
    RaisesLifecycleErrors (requireText record key label) := by
  unfold requireText
  split
  · exact .error rfl
  · exact .bind (.check rfl) fun _ _ => .ok _

section

variable (policy)

lemma raises_marker (markerId : String) : RaisesLifecycleErrors (policy.marker markerId) := by
  unfold AppendOnlyLifecyclePolicy.marker
  split
  · exact .ok _
  · exact .error rfl

lemma raises_checkRecord (recordId : String)
    (record : Record env) : RaisesLifecycleErrors (checkRecord policy recordId record) := by
  refine .bind (.check rfl) fun _ _ => ?_
  split_ifs
  · refine .bind (raises_requireText _ _ _) fun markerId _ => ?_
    exact .bind (raises_marker policy markerId) fun _ _ => .check rfl
  · exact .check rfl

end

lemma raises_normaliseFrom (records : List (Record env)) : ∀ (index : ℕ) (seenIds : List String),
    RaisesLifecycleErrors (normaliseFrom policy index seenIds records) := by
  induction records with
  | nil => exact fun _ _ => .ok _
  | cons record records ih =>
    intro index seenIds
    have hid : RaisesLifecycleErrors (recordIdOf index record) :=
      .bind (.check rfl) fun _ _ => .bind (.check rfl) fun _ _ => raises_requireText _ _ _
    refine .bind hid fun recordId _ => .bind (.check rfl) fun _ _ => ?_
    exact .bind (raises_checkRecord policy recordId record) fun _ _ => .bind (ih _ _) fun _ _ => .ok _

/-! ### Planned updates -/

variable (policy) in
lemma create_self :
    AppendOnlyLifecyclePolicy.create policy.path policy.sensitivity policy.registeredMarkers =
      .ok policy := by
  rw [AppendOnlyLifecyclePolicy.create, dif_pos policy.path_safe, dif_pos policy.markers_unique,
    dif_pos policy.markers_sensitivity]

lemma mem_of_marker_eq_ok {markerId : String} {marker : MigrationMarker}
    (h : policy.marker markerId = .ok marker) : marker ∈ policy.registeredMarkers := by
  unfold AppendOnlyLifecyclePolicy.marker at h
  split at h
  · rename_i found hfound
    cases h
    exact mem_of_find?_eq_some hfound
  · cases h

lemma isNonEmpty_recordId (marker : MigrationMarker) : isNonEmpty marker.recordId := by
  have htext : marker.recordId.toList = 'm' :: ("igration:".toList ++ marker.markerId.toList) := by
    rw [MigrationMarker.recordId, String.toList_append]
    rfl
  -- the text begins with a letter, so `lstrip` leaves it and `rstrip` stops there at the latest
  have hstrip : Str.rstrip (Str.lstrip marker.recordId.toList) ≠ [] := by
    have hleft : Str.lstrip marker.recordId.toList = marker.recordId.toList := by
      rw [htext]
      rfl
    rw [hleft, Str.rstrip, ne_eq, reverse_eq_nil_iff, dropWhile_eq_nil_iff]
    intro hall
    have hm : 'm' ∈ marker.recordId.toList.reverse := by simp [htext]
    exact absurd (hall 'm' hm) (by decide)
  simpa [isNonEmpty, Str.strip] using hstrip

/-- The record of a registered marker is accepted. -/
lemma accepts_asRecord {marker : MigrationMarker}
    (h : policy.marker marker.markerId = .ok marker) :
    Accepts policy (marker.asRecord env) marker.recordId where
  isMapping := rfl
  isJson := rfl
  isWritable := rfl
  text_recordId := rfl
  nonEmpty := isNonEmpty_recordId marker
  checked := by
    have hsensitivity := policy.markers_sensitivity marker (mem_of_marker_eq_ok h)
    have htext : (marker.asRecord env).text? "sensitivity" = some policy.sensitivity.text := by
      rw [← hsensitivity]
      rfl
    have htype : (marker.asRecord env).text? "recordType" = some migrationMarkerType := rfl
    have hsame : (marker.asRecord env).pyEq (marker.asRecord env) :=
      PyData.pyEq_refl _ (marker.asRecord env).wellFormed rfl
    simp only [checkRecord, eq_ok_iff, htext, htype, ne_eq, not_true_eq_false, not_false_eq_true,
      if_true, true_and]
    exact ⟨marker.markerId, requireText_eq_ok.mpr ⟨rfl, marker.markerId_nonEmpty⟩, marker, h,
      by simp [hsame]⟩

structure Planned (env : Env) where
  policy : AppendOnlyLifecyclePolicy
  records : List (Record env)
  marker : MigrationMarker
  update : AppendOnlyUpdate env
  planned : planAppendOnlyMarker records marker policy = .ok update

namespace Planned

variable (p : Planned env)

/-- The records after the update. -/
def extended : List (Record env) := p.records ++ [p.marker.asRecord env]

/-- The update can be applied to the records and rolled back from the result, and to no others. -/
def RoundTrips : Prop :=
  applyAppendOnlyUpdate p.records p.update = .ok p.extended ∧
    rollbackAppendOnlyUpdate p.extended p.update = .ok p.records ∧
    (∀ base, sameRecords base p.records = false →
      ∃ e, applyAppendOnlyUpdate base p.update = .error e ∧ e.isLifecycleError) ∧
    ∀ base, sameRecords base p.extended = false →
      ∃ e, rollbackAppendOnlyUpdate base p.update = .error e ∧ e.isLifecycleError

def NoCollision : Prop := ∀ record ∈ p.records, record.text? "recordId" ≠ some p.marker.recordId

/-- What planning has checked, and what the update holds. -/
lemma planned_eq : ∃ digest,
    p.policy.marker p.marker.markerId = .ok p.marker ∧
    (∀ record ∈ p.records, ∃ recordId, Accepts p.policy record recordId) ∧
    (recordIds p.records).Nodup ∧
    canonicalDigest env (updatePayload p.policy p.records p.extended p.marker) = .ok digest ∧
    p.update = ⟨p.records, p.extended, p.marker, p.policy.path, p.policy.sensitivity,
      p.policy.registeredMarkers, digest⟩ := by
  have h := p.planned
  simp only [planAppendOnlyMarker, eq_ok_iff, normaliseRecords_eq_ok, not_not] at h
  obtain ⟨registered, hregistered, rfl, before, ⟨rfl, haccepts, hnodup⟩, -, digest, hdigest,
    hupdate⟩ := h
  exact ⟨digest, hregistered, haccepts, hnodup, hdigest, hupdate.symm⟩

lemma accepts_extended : ∀ record ∈ p.extended, ∃ recordId, Accepts p.policy record recordId := by
  obtain ⟨-, hmarker, haccepts, -⟩ := p.planned_eq
  intro record hmem
  obtain hmem | hmem := mem_append.mp hmem
  · exact haccepts record hmem
  · rw [mem_singleton.mp hmem]
    exact ⟨_, accepts_asRecord hmarker⟩

lemma policy_update : p.update.policy = .ok p.policy := by
  obtain ⟨digest, -, -, -, -, hupdate⟩ := p.planned_eq
  rw [hupdate]
  exact create_self p.policy

/-- The ids of the extended records are distinct exactly if there is no collision. -/
lemma nodup_extended_iff : (recordIds p.extended).Nodup ↔ p.NoCollision := by
  obtain ⟨-, -, -, hnodup, -⟩ := p.planned_eq
  have hid : (p.marker.asRecord env).text? "recordId" = some p.marker.recordId := rfl
  simp only [extended, recordIds, map_append, map_cons, map_nil, hid]
  rw [← concat_eq_append, nodup_concat]
  constructor
  · rintro ⟨hfresh, -⟩ record hmem heq
    exact hfresh (mem_map.mpr ⟨record, hmem, heq⟩)
  · intro hcollision
    refine ⟨?_, hnodup⟩
    intro hmem
    obtain ⟨record, hrecord, heq⟩ := mem_map.mp hmem
    exact hcollision record hrecord heq

/-- An update passes its validation exactly if there is no collision. -/
lemma validateUpdate_eq_ok_iff : validateUpdate p.update = .ok () ↔ p.NoCollision := by
  have hpolicy := p.policy_update
  have hextended := p.accepts_extended
  obtain ⟨digest, hmarker, haccepts, hnodup, hdigest, hupdate⟩ := p.planned_eq
  rw [← p.nodup_extended_iff]
  constructor
  · intro h
    rw [hupdate] at h hpolicy
    simp only [validateUpdate, hpolicy, ok_bind, hmarker, eq_ok_iff, normaliseRecords_eq_ok] at h
    obtain ⟨-, before, -, after, ⟨-, -, hids⟩, -⟩ := h
    exact hids
  · intro hids
    have hbefore : normaliseRecords p.records p.policy = .ok p.records :=
      normaliseRecords_eq_ok.mpr ⟨rfl, haccepts, hnodup⟩
    have hafter : normaliseRecords p.extended p.policy = .ok p.extended :=
      normaliseRecords_eq_ok.mpr ⟨rfl, hextended, hids⟩
    have hsame : sameRecords p.records p.records := sameRecords_refl haccepts
    have hsame' : sameRecords p.extended p.extended := sameRecords_refl hextended
    rw [hupdate] at hpolicy ⊢
    simp only [validateUpdate, hpolicy, ok_bind, hmarker, hbefore, hafter, eq_ok_iff, hdigest]
    refine ⟨by simp, by simp [hsame, hsame'], ?_, by simp⟩
    change ¬ sameRecords p.extended p.extended = false
    simp [hsame']

end Planned

/-! ### Applying and rolling back -/

variable (policy) in
/-- What both operations do once the update is valid: `result`, if `base` is accepted and equals
`expected`. -/
def exchange (expected result : List (Record env))
    (message : String) (base : List (Record env)) : Except Raised (List (Record env)) := do
  let current ← normaliseRecords base policy
  raiseIf (sameRecords current expected = false) (lifecycleError message)
  return result

lemma exchange_eq_ok {base : List (Record env)} {message : String}
    (haccepts : ∀ record ∈ base, ∃ recordId, Accepts policy record recordId)
    (hnodup : (recordIds base).Nodup) : exchange policy base result message base = .ok result := by
  simp only [exchange, eq_ok_iff, normaliseRecords_eq_ok]
  exact ⟨base, ⟨rfl, haccepts, hnodup⟩, by simp [sameRecords_refl haccepts], trivial⟩

lemma exchange_refuses {base expected : List (Record env)} {message : String}
    (h : sameRecords base expected = false) :
    ∃ e, exchange policy expected result message base = .error e ∧ e.isLifecycleError := by
  cases hnormal : normaliseRecords base policy with
  | error e =>
    refine ⟨e, ?_, raises_normaliseFrom base 0 [] e hnormal⟩
    rw [exchange, hnormal, error_bind]
  | ok current =>
    obtain ⟨rfl, -⟩ := normaliseRecords_eq_ok.mp hnormal
    refine ⟨lifecycleError message, ?_, rfl⟩
    rw [exchange, hnormal, ok_bind, raiseIf, if_pos h, error_bind]

namespace Planned

variable (p : Planned env)

section

variable (h : validateUpdate p.update = .ok ()) (base : List (Record env))
include h

lemma apply_eq_exchange :
    applyAppendOnlyUpdate base p.update = exchange p.policy p.records p.extended
      "append-only update is stale; historical records must remain unchanged" base := by
  rw [applyAppendOnlyUpdate, h, ok_bind, p.policy_update, ok_bind]
  obtain ⟨digest, -, -, -, -, hupdate⟩ := p.planned_eq
  rw [hupdate]
  rfl

lemma rollback_eq_exchange :
    rollbackAppendOnlyUpdate base p.update = exchange p.policy p.extended p.records
      "append-only rollback would rewrite records added after this update" base := by
  rw [rollbackAppendOnlyUpdate, h, ok_bind, p.policy_update, ok_bind]
  obtain ⟨digest, -, -, -, -, hupdate⟩ := p.planned_eq
  rw [hupdate]
  rfl

end

/-- A planned update can be applied and rolled back exactly if no record has the marker's id. -/
theorem roundTrips_iff : p.RoundTrips ↔ p.NoCollision := by
  rw [← p.validateUpdate_eq_ok_iff]
  constructor
  · rintro ⟨happly, -⟩
    simp only [applyAppendOnlyUpdate, bind_eq_ok] at happly
    obtain ⟨_, hvalid, -⟩ := happly
    exact hvalid
  · intro hvalid
    obtain ⟨-, -, haccepts, hnodup, -⟩ := p.planned_eq
    have hids := p.nodup_extended_iff.mpr (p.validateUpdate_eq_ok_iff.mp hvalid)
    refine ⟨?_, ?_, ?_, ?_⟩
    · rw [p.apply_eq_exchange hvalid]
      exact exchange_eq_ok haccepts hnodup
    · rw [p.rollback_eq_exchange hvalid]
      exact exchange_eq_ok p.accepts_extended hids
    · intro base hother
      rw [p.apply_eq_exchange hvalid]
      exact exchange_refuses hother
    · intro base hother
      rw [p.rollback_eq_exchange hvalid]
      exact exchange_refuses hother

end Planned

/-! ### A collision -/

def collisionEnv : Env where
  sha256 := String.ofList
  valueOf _ := .nan

def collisionMarker : MigrationMarker where
  markerId := "m"
  sourceSchema := "a"
  targetSchema := "b"
  sensitivity := .isPublic
  markerId_nonEmpty := by decide
  sourceSchema_nonEmpty := by decide
  targetSchema_nonEmpty := by decide
  changes_schema := by decide

def collisionPolicy : AppendOnlyLifecyclePolicy where
  path := "log"
  sensitivity := .isPublic
  registeredMarkers := [collisionMarker]
  path_safe := by decide
  markers_unique := by decide
  markers_sensitivity := by decide

/-- An ordinary record with the id that the marker's record will have. -/
def collisionRecord : Record collisionEnv where
  data := .dict [(.str "recordId", .str "migration:m"), (.str "sensitivity", .str "public")]
  wellFormed := by decide

/-- The plan for it succeeds, and applying it is refused because of a duplicate id. -/
theorem ordinary_record_with_marker_id :
    ∃ p : Planned collisionEnv, p.records = [collisionRecord] ∧
      applyAppendOnlyUpdate p.records p.update = .error (lifecycleError
        "append-only records contain duplicate recordId: migration:m") ∧ ¬ p.RoundTrips := by
  obtain ⟨update, hupdate⟩ : ∃ update,
      planAppendOnlyMarker [collisionRecord] collisionMarker collisionPolicy = .ok update := ⟨_, rfl⟩
  have happly : applyAppendOnlyUpdate [collisionRecord] update = .error (lifecycleError
      "append-only records contain duplicate recordId: migration:m") := by
    cases hupdate
    rfl
  refine ⟨⟨_, _, _, update, hupdate⟩, rfl, happly, ?_⟩
  rintro ⟨hok, -⟩
  exact nomatch happly.symm.trans hok

end StatePort.Lifecycle.AppendOnly
