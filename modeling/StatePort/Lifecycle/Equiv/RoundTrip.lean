import StatePort.Lifecycle.Equiv.Reading

/-!
# Round trip of lifecycle documents

`parse_yaml_text` on the text that `_dump_yaml` writes for a document. If no string has a line break,
the parser follows the layout to its end (`parseYamlText_textOf`); otherwise it does not return the
document (`oneLine_of_parse`). So a document is read back exactly if its strings are plain, its
numbers are not too long and it is not nested too deeply (`parse_payload_iff`).
-/

namespace StatePort.Lifecycle

open Yaml Value

/-! ### Documents -/

/-- Whether a scalar is read back as it was: a string is plain, and a number is not too long. -/
def survives : Value → Bool
  | .str s => decide (Plain s)
  | .int n => isWritable n
  | _ => true

lemma plain_iff {s : String} : Plain s ↔ stringBreaks s = 0 ∧ unquoted s = s := by
  rw [unquoted_eq_iff, stringBreaks, breaks_eq_zero_iff, Plain, List.all_eq_true, OneLine,
    ← forall₂_and]
  refine forall₂_congr fun c _ => ?_
  simp [and_comm]

lemma survives_eq : survives = fun v => isWritten v && (isOneLine v && isKept unquoted v) := by
  funext v
  cases v with
  | str s =>
    simp only [survives, isWritten, isOneLine, isKept, plain_iff, Bool.true_and]
    exact Bool.decide_and _ _
  | _ => simp [survives, isWritten, isOneLine, isKept]

lemma allScalars_survives (v : Value) : v.allScalars survives ↔
    v.allScalars isWritten ∧ v.allScalars isOneLine ∧ v.mapStrings unquoted = v := by
  rw [survives_eq, allScalars_and, allScalars_and, Bool.and_eq_true, Bool.and_eq_true,
    mapStrings_eq_iff]

section

variable {fields : List (String × Value)} (hne : fields ≠ [])
  (hvalid : isFieldValue (.dict fields))

include hne hvalid

omit hvalid in
lemma isBlock_dict : (dict fields).isBlock := by
  obtain ⟨field, fields, rfl⟩ := List.exists_cons_of_ne_nil hne
  rfl

omit hvalid in
/-- A document starts at indentation zero. -/
lemma parseLines_follows {lines : List Line} {tail : Option (List Line)}
    (h : Follows (below 0 (.dict fields)) lines tail) :
    parseLines 100 lines = (do
      match ← parseBlock 100 lines 0 with
      | (value, []) => return value
      | (_, line :: _) => .error (.unexpectedContent line.lineno line.content)) := by
  obtain ⟨p, hp, hstart⟩ := head?_below (isBlock_dict hne) 0
  obtain ⟨line, lines, rfl, hindent, -⟩ := h.head hp
  rewrite [parseLines, hindent, hstart]
  rfl

/-- A document without line breaks is read back, its double quotes apart, if `max_depth` allows. -/
lemma parseYamlText_textOf (hone : (dict fields).allScalars isOneLine)
    (hwritten : (dict fields).allScalars isWritten) :
    parseYamlText (textOf (layoutFields 0 fields)) =
      unlessTooDeep (levels (.dict fields)) 100 ((dict fields).mapStrings unquoted) := by
  obtain ⟨lines, hpreprocess, hfollows⟩ := exists_follows (placed_below 0 (.dict fields) hvalid)
    ((oneLine_below 0 (.dict fields) hvalid).mpr hone).2
  have hread : _ = _ := blockReads (.dict fields) hvalid hwritten (isBlock_dict hne) 100 0 lines
    (some []) hfollows (by simp [Ends])
  rw [below] at hpreprocess
  rw [parseYamlText, hpreprocess, ok_bind, parseLines_follows hne hfollows, hread]
  exact unlessTooDeep_map rfl

/-- The first line of a document holds a colon, so it is not a document marker. -/
lemma withoutMarker_textOf (hone : (dict fields).allScalars isOneLine) :
    withoutMarker (textOf (layoutFields 0 fields)) = textOf (layoutFields 0 fields) := by
  have hplaced : ∀ line ∈ layoutFields 0 fields, Placed line := placed_below 0 (.dict fields) hvalid
  have hlines : ∀ line ∈ layoutFields 0 fields, OneLine line.2 :=
    ((oneLine_below 0 (.dict fields) hvalid).mpr hone).2
  obtain ⟨⟨key, value⟩, fields, rfl⟩ := List.exists_cons_of_ne_nil hne
  have htrimmed : Trimmed (key.toList ++ ':' :: value.afterColon) :=
    (hplaced _ List.mem_cons_self).trimmed
  have hmarker : key.toList ++ ':' :: value.afterColon ≠ ['-', '-', '-'] := by
    intro heq
    have hcolon : ':' ∈ key.toList ++ ':' :: value.afterColon := by simp
    rw [heq] at hcolon
    simp at hcolon
  have hfirst : rawLine (0, key.toList ++ ':' :: value.afterColon) =
      key.toList ++ ':' :: value.afterColon := rfl
  rw [withoutMarker, splitlines_textOf hlines, layoutFields, List.cons_append, List.map_cons]
  simp only [hfirst, htrimmed.lstrip, htrimmed.rstrip, if_neg hmarker]

/-- **Reading back.** A document without double quotes and line breaks is read as it was
written. -/
theorem readYaml_payload (hsurvives : (dict fields).allScalars survives)
    (hlevels : levels (.dict fields) ≤ 100) {text : List Char}
    (htext : payload (.dict fields) = some text) (label : String) :
    readYaml text label = .ok (.dict fields) := by
  obtain ⟨hwritten, hone, hkept⟩ := (allScalars_survives _).mp hsurvives
  have hfields : areFields fields := by
    simp only [isFieldValue, Bool.and_eq_true] at hvalid
    exact hvalid.1
  rw [payload_eq hne hfields] at htext
  obtain rfl := Option.some.inj ((if_pos hwritten).symm.trans htext)
  rw [readYaml, withoutMarker_textOf hne hvalid hone,
    parseYamlText_textOf hne hvalid hone hwritten, hkept, unlessTooDeep, if_pos hlevels]

/-- A document that is read back has no line break in its strings. -/
lemma oneLine_of_parse (hwritten : (dict fields).allScalars isWritten)
    (h : parseYamlText (textOf (layoutFields 0 fields)) = .ok (.dict fields)) :
    (dict fields).allScalars isOneLine := by
  by_contra hbreak
  rw [← oneLine_below 0 _ hvalid, afterColon_block (isBlock_dict hne)] at hbreak
  have hlines : ¬ ∀ line ∈ below 0 (.dict fields), OneLine line.2 :=
    fun hlines => hbreak ⟨by simp [OneLine], hlines⟩
  simp only [parseYamlText, preprocessYaml, bind_eq_ok] at h
  obtain ⟨lines, hpreprocess, hparse⟩ := h
  have hfollows : Follows (below 0 (.dict fields)) lines none :=
    follows_of_break (placed_below 0 _ hvalid) hlines hpreprocess
  rw [parseLines_follows hne hfollows, bind_eq_ok] at hparse
  obtain ⟨⟨w, rest⟩, hw, hrest⟩ := hparse
  have hwrong := blockReads _ hvalid hwritten (isBlock_dict hne) _ _ _ none hfollows (by simp) w rest hw
  cases rest with
  | nil => exact hwrong (pure_eq_ok.mp hrest)
  | cons line rest => cases hrest

end

/-- **Round trip.** A document is read back from the text that is written for it exactly if its
strings have no double quote and no line break, its numbers have at most 4300 digits, and it needs
no more than the default `max_depth`. -/
theorem parse_payload_iff (d : Document) :
    (∃ text, payload d.toValue = some text ∧ parseYamlText text = .ok d.toValue) ↔
      d.toValue.allScalars survives ∧ levels d.toValue ≤ 100 := by
  obtain ⟨fields, hvalid⟩ := d
  unfold Document.toValue
  by_cases hne : fields = []
  · subst hne
    have hparse : parseYamlText ['\n'] = .ok (.dict []) := by decide
    exact ⟨fun _ => ⟨rfl, Nat.zero_le _⟩, fun _ => ⟨['\n'], rfl, hparse⟩⟩
  have hfields : areFields fields := by
    simp only [isFieldValue, Bool.and_eq_true] at hvalid
    exact hvalid.1
  rw [payload_eq hne hfields, allScalars_survives]
  constructor
  · rintro ⟨text, htext, hparse⟩
    rw [someIf] at htext
    split_ifs at htext with hwritten
    cases htext
    have hone := oneLine_of_parse hne hvalid hwritten hparse
    rw [parseYamlText_textOf hne hvalid hone hwritten, unlessTooDeep] at hparse
    split_ifs at hparse with hlevels
    exact ⟨⟨hwritten, hone, Except.ok.inj hparse⟩, hlevels⟩
  · rintro ⟨⟨hwritten, hone, hkept⟩, hlevels⟩
    refine ⟨_, if_pos hwritten, ?_⟩
    rw [parseYamlText_textOf hne hvalid hone hwritten, hkept, unlessTooDeep, if_pos hlevels]

/-- An instance with a double quote in its name. -/
def quotedDocument : Document where
  fields := [("name", .str (String.ofList ['a', Str.doubleQuote]))]
  valid := by decide

/-- The name is read back with an apostrophe. -/
theorem double_quote_is_lost :
    ∃ text, payload quotedDocument.toValue = some text ∧
      parseYamlText text = .ok (.dict [("name", .str (String.ofList ['a', Str.apostrophe]))]) ∧
      parseYamlText text ≠ .ok quotedDocument.toValue := by
  refine ⟨_, rfl, ?_⟩
  decide

end StatePort.Lifecycle
