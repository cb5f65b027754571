import StatePort.Document.Dumps

/-!
# What is read back

Data whose keys are strings is read back as it was written (`loads_dumps`): the order in which
`json.dumps` writes such keys is the order of the keys that `json.loads` reads.
-/

namespace StatePort

open List Prod Json

variable {fields : List (String × Json)}

/-! ### The order of fields -/

lemma Json.fieldLE_iff {a b : String × Json} :
    Json.fieldLE a b ↔ Str.codes a.1 ≤ Str.codes b.1 := by
  simp only [Json.fieldLE, Bool.not_eq_true', Str.isLess_eq_false_iff]

instance : Std.Total fun a b : String × Json => fieldLE a b where
  total a b := by
    simp only [fieldLE_iff]
    exact le_total _ _

instance : IsTrans (String × Json) fun a b => fieldLE a b where
  trans a b c := by
    simp only [fieldLE_iff]
    exact le_trans

namespace Json

lemma insertionSort_insertionSort (fields : List (String × Json)) :
    (fields.insertionSort fun a b => fieldLE a b).insertionSort
      (fun a b => fieldLE a b) = fields.insertionSort fun a b => fieldLE a b :=
  (pairwise_insertionSort _ fields).insertionSort_eq

lemma lastWins_eq (h : (fields.map fst).Nodup) : lastWins fields = fields := by
  induction fields with
  | nil => rfl
  | cons field fields ih =>
    rw [map_cons, nodup_cons] at h
    rw [lastWins, if_neg h.1, ih h.2]

lemma loadsItems_eq {items : List Json} (h : ∀ v ∈ items, v.loads = v) :
    loadsItems items = items := by
  induction items with
  | nil => rfl
  | cons v vs ih => rw [loadsItems, h v mem_cons_self, ih fun w hw => h w (mem_cons_of_mem _ hw)]

lemma loadsFields_eq (h : ∀ field ∈ fields, field.2.loads = field.2) :
    loadsFields fields = fields := by
  induction fields with
  | nil => rfl
  | cons field fields ih =>
    obtain ⟨k, v⟩ := field
    have hv : v.loads = v := h (k, v) mem_cons_self
    rw [loadsFields, hv, ih fun field hfield => h field (mem_cons_of_mem _ hfield)]

/-- An object with sorted fields and distinct keys, all of whose values are read back, is. -/
lemma loads_ofFields (hkeys : (fields.map fst).Nodup)
    (hvalues : ∀ field ∈ fields, field.2.loads = field.2) :
    (ofFields fields).loads = ofFields fields := by
  have hperm := perm_insertionSort (fun a b => fieldLE a b) fields
  unfold ofFields
  rw [loads, loadsFields_eq fun field hfield => hvalues field (hperm.mem_iff.mp hfield),
    lastWins_eq ((hperm.map fst).nodup_iff.mpr hkeys), ofFields, insertionSort_insertionSort]

lemma loadsFields_eq_map : loadsFields fields = fields.map (map id loads) := by
  induction fields with
  | nil => rfl
  | cons field fields ih => rw [loadsFields, ih]; rfl

lemma get?_ofFields {key : String} {v : Json} (hkeys : (fields.map fst).Nodup)
    (hmem : (key, v) ∈ fields) : (ofFields fields).get? key = some v := by
  have hperm := perm_insertionSort (fun a b => fieldLE a b) fields
  have hkeys' := (hperm.map fst).nodup_iff.mpr hkeys
  obtain ⟨before, after, hfields⟩ := mem_iff_append.mp (hperm.mem_iff.mpr hmem)
  refine lookup_eq_some_iff.mpr ⟨before, after, hfields, fun field hfield => ?_⟩
  rw [hfields, map_append, nodup_append] at hkeys'
  exact bne_iff_ne.mpr
    (hkeys'.2.2 field.1 (mem_map_of_mem hfield) key mem_cons_self).symm

/-- A field of an object with distinct keys is read back under its key. -/
lemma get?_loads {key : String} {v : Json} (hkeys : (fields.map fst).Nodup)
    (hmem : (key, v) ∈ fields) : (dict fields).loads.get? key = some v.loads := by
  have hkeys' : ((loadsFields fields).map fst).Nodup := by
    rw [loadsFields_eq_map, List.map_map]
    exact hkeys
  rw [loads, lastWins_eq hkeys']
  refine get?_ofFields hkeys' ?_
  rw [loadsFields_eq_map]
  exact mem_map_of_mem (f := Prod.map id loads) hmem

end Json

lemma PyKey.exists_str {key : PyKey} (h : key.isStr) : ∃ s, key = .str s := by
  cases key with
  | str s => exact ⟨s, rfl⟩
  | _ => cases h

namespace PyData

variable {valueOf : FloatText → Number}

/-- The fields of an object with string keys, under the texts of their keys. -/
def texts (fields : List (PyKey × Json)) : List (String × Json) :=
  fields.map fun field => (field.1.text, field.2)

/-- String keys are sorted as the texts that they are. -/
lemma sortFields_eq {fields : List (PyKey × Json)}
    (h : ∀ field ∈ fields, field.1.isStr) :
    Json.dict (sortFields valueOf fields) = Json.ofFields (texts fields) := by
  refine congrArg Json.dict (map_insertionSort _ _ _ _ fun a ha b hb => ?_)
  obtain ⟨s, hs⟩ := PyKey.exists_str (h a ha)
  obtain ⟨t, ht⟩ := PyKey.exists_str (h b hb)
  simp only [hs, ht, PyKey.isLess, PyKey.text, fieldLE]

lemma dumpsItems_eq_some {items : List PyData} {docs : List Json}
    (h : dumpsItems valueOf items = some docs) :
    ∀ doc ∈ docs, ∃ v ∈ items, v.dumps valueOf = some doc := by
  induction items generalizing docs with
  | nil =>
    obtain rfl : [] = docs := Option.some.inj h
    simp
  | cons v vs ih =>
    simp only [dumpsItems, Option.bind_eq_bind, Option.bind_eq_some_iff, Option.pure_def,
      Option.some.injEq] at h
    obtain ⟨doc, hdoc, docs', hdocs, rfl⟩ := h
    intro d hd
    obtain rfl | hd := mem_cons.mp hd
    · exact ⟨v, mem_cons_self, hdoc⟩
    · obtain ⟨w, hw, hwd⟩ := ih hdocs d hd
      exact ⟨w, mem_cons_of_mem _ hw, hwd⟩

variable {docs : List (PyKey × Json)}

lemma dumpsFields_eq_some {fields : List (PyKey × PyData)}
    (h : dumpsFields valueOf fields = some docs) :
    docs = fields.map (map id fun v => (v.dumps valueOf).getD .null) ∧
      ∀ field ∈ fields, field.2.dumps valueOf = some ((field.2.dumps valueOf).getD .null) := by
  induction fields generalizing docs with
  | nil =>
    obtain rfl : [] = docs := Option.some.inj h
    simp
  | cons field fields ih =>
    simp only [dumpsFields, Option.bind_eq_bind, Option.bind_eq_some_iff, Option.pure_def,
      Option.some.injEq] at h
    obtain ⟨doc, hdoc, docs', hdocs, rfl⟩ := h
    obtain ⟨rfl, hvalues⟩ := ih hdocs
    exact ⟨by simp [Prod.map, hdoc], forall_mem_cons.mpr ⟨by simp [hdoc], hvalues⟩⟩

lemma nodup_texts (hstr : ∀ doc ∈ docs, doc.1.isStr)
    (hnodup : (docs.map fst).Nodup) : ((texts docs).map fst).Nodup := by
  have htexts : (texts docs).map fst = (docs.map fst).map PyKey.text := by
    simp [texts]
  rw [htexts]
  refine hnodup.map_on fun k hk l hl htext => ?_
  obtain ⟨a, ha, rfl⟩ := mem_map.mp hk
  obtain ⟨b, hb, rfl⟩ := mem_map.mp hl
  obtain ⟨s, hs⟩ := PyKey.exists_str (hstr a ha)
  obtain ⟨t, ht⟩ := PyKey.exists_str (hstr b hb)
  rw [hs, ht] at htext ⊢
  exact congrArg PyKey.str htext

lemma PyKey.isStr_of_sortable {keys : List PyKey} {s : String}
    (h : PyKey.sortable valueOf keys) (hmem : PyKey.str s ∈ keys) : ∀ key ∈ keys, key.isStr := by
  simp only [PyKey.sortable, Bool.or_eq_true, decide_eq_true_eq, all_eq_true] at h
  obtain (hone | hstr) | hnumber := h
  · intro key hkey
    have hlength : keys.length = 1 := le_antisymm hone (length_pos_of_mem hmem)
    obtain ⟨only, rfl⟩ := length_eq_one_iff.mp hlength
    rw [mem_singleton.mp hkey, ← mem_singleton.mp hmem]
    rfl
  · exact hstr
  · cases hnumber _ hmem

/-- What is read back under a key of an object that has a string as a key. -/
lemma get?_loads_dumps {fields : List (PyKey × PyData)} {doc : Json} {key : String} {v : PyData}
    (hnodup : (fields.map fst).Nodup) (h : (PyData.dict fields).dumps valueOf = some doc)
    (hmem : (PyKey.str key, v) ∈ fields) :
    ∃ d, v.dumps valueOf = some d ∧ doc.loads.get? key = some d.loads := by
  rw [dumps] at h
  split_ifs at h with hsortable
  obtain ⟨docs, hdocs, rfl⟩ := Option.map_eq_some_iff.mp h
  obtain ⟨hdocs, hvalues⟩ := dumpsFields_eq_some hdocs
  have hkeys : docs.map fst = fields.map fst := by simp [hdocs]
  have hstr : ∀ doc ∈ docs, doc.1.isStr := fun doc hdoc =>
    PyKey.isStr_of_sortable hsortable (mem_map_of_mem hmem) _ (hkeys ▸ mem_map_of_mem hdoc)
  have hperm : sortFields valueOf docs ~ texts docs := (perm_insertionSort _ docs).map _
  refine ⟨_, hvalues _ hmem, Json.get?_loads ?_ (hperm.mem_iff.mpr ?_)⟩
  · exact (hperm.map fst).nodup_iff.mpr (nodup_texts hstr (hkeys ▸ hnodup))
  · exact mem_map.mpr ⟨_, hdocs ▸ mem_map_of_mem hmem, rfl⟩

mutual

/-- **Round trip.** Data whose keys are strings is read back as it was written. -/
theorem loads_dumps : ∀ v : PyData, v.isStrKeyed → ∀ doc, v.dumps valueOf = some doc →
    doc.loads = doc
  | .none, _, doc, h | .bool b, _, doc, h | .int n, _, doc, h | .float x, _, doc, h
  | .str s, _, doc, h => by cases Option.some.inj h; rfl
  | .object, _, doc, h => by cases h
  | .list items, hkeys, doc, h => by
    simp only [dumps, Option.map_eq_some_iff] at h
    obtain ⟨docs, hdocs, rfl⟩ := h
    rw [loads, loadsItems_eq]
    intro d hd
    obtain ⟨v, hv, hdump⟩ := dumpsItems_eq_some hdocs d hd
    exact loads_dumps_items items hkeys v hv d hdump
  | .dict fields, hkeys, doc, h => by
    simp only [isStrKeyed, Bool.and_eq_true, decide_eq_true_eq, all_eq_true] at hkeys
    obtain ⟨⟨hstr, hnodup⟩, hfields⟩ := hkeys
    rw [dumps] at h
    split_ifs at h with hsortable
    obtain ⟨docs, hdocs, rfl⟩ := Option.map_eq_some_iff.mp h
    obtain ⟨hdocs', hvalues⟩ := dumpsFields_eq_some hdocs
    have hkeys' : docs.map fst = fields.map fst := by simp [hdocs']
    have hstr' : ∀ doc ∈ docs, doc.1.isStr := fun doc hdoc =>
      hstr doc.1 (hkeys' ▸ mem_map_of_mem hdoc)
    rw [sortFields_eq hstr']
    refine loads_ofFields (nodup_texts hstr' (hkeys' ▸ hnodup)) fun field hfield => ?_
    obtain ⟨doc, hdoc, rfl⟩ := mem_map.mp hfield
    obtain ⟨f, hf, rfl⟩ := mem_map.mp (hdocs' ▸ hdoc)
    exact loads_dumps_fields fields hfields f.2 (mem_map_of_mem hf) _ (hvalues f hf)

theorem loads_dumps_items : ∀ items : List PyData, isStrKeyedItems items →
    ∀ v ∈ items, ∀ doc, v.dumps valueOf = some doc → doc.loads = doc
  | [], _, _, hv, _, _ => absurd hv not_mem_nil
  | w :: ws, hkeys, v, hv, doc, h => by
    simp only [isStrKeyedItems, Bool.and_eq_true] at hkeys
    obtain hvw | hv := mem_cons.mp hv
    · exact loads_dumps w hkeys.1 doc (hvw ▸ h)
    · exact loads_dumps_items ws hkeys.2 v hv doc h

theorem loads_dumps_fields : ∀ fields : List (PyKey × PyData), isStrKeyedFields fields →
    ∀ v ∈ fields.map snd, ∀ doc, v.dumps valueOf = some doc → doc.loads = doc
  | [], _, _, hv, _, _ => absurd hv not_mem_nil
  | (_, w) :: ws, hkeys, v, hv, doc, h => by
    simp only [isStrKeyedFields, Bool.and_eq_true] at hkeys
    obtain hvw | hv := mem_cons.mp hv
    · have hvw : v = w := hvw
      exact loads_dumps w hkeys.1 doc (hvw ▸ h)
    · exact loads_dumps_fields ws hkeys.2 v hv doc h

end

end PyData

end StatePort
