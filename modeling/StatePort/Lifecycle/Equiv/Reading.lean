import StatePort.Lifecycle.Equiv.Scalars

/-!
# Reading documents back, line by line

`parse_yaml_text` on the lines that `_dump_yaml` writes for a document. The parser follows the
layout. If it gets to the end, it returns the document with an apostrophe for every double quote,
or runs out of `max_depth`. If a line is cut by a line break in a string, what is left of the line is
read as a scalar, which has no line break and so is another value (`blockReads`).
-/

namespace StatePort.Lifecycle

open Yaml Value List Str Prod

/-! ### Depth -/

/-- The levels of the fields that follow the first one of an item: `parse_mapping` reads them one
level deeper, which only matters for blocks. -/
def oneDeeper (n : ℕ) : ℕ := if n = 0 then 0 else n + 1

mutual

/-- The `max_depth` that a value needs. -/
def levels : Value → ℕ
  | .dict (field :: fields) => 1 + levelsFields (field :: fields)
  | .list (item :: items) => 1 + levelsItems (item :: items)
  | _ => 0

def levelsFields : List (String × Value) → ℕ
  | [] => 0
  | (_, value) :: fields => max (levels value) (levelsFields fields)

def levelsItems : List Value → ℕ
  | [] => 0
  | item :: items => max (levelsItem item) (levelsItems items)

def levelsItem : Value → ℕ
  | .dict ((_, value) :: fields) => max (levels value) (oneDeeper (levelsFields fields))
  | _ => 0

end

/-- What is returned if `max_depth` suffices. -/
def unlessTooDeep {α : Type} (needed depth : ℕ) (a : α) : Except YamlError α :=
  if needed ≤ depth then .ok a else .error .tooDeep

lemma unlessTooDeep_zero (depth : ℕ) (a : α) : unlessTooDeep 0 depth a = .ok a :=
  if_pos (Nat.zero_le _)

variable {α β : Type} {a : α} {b : β} {f : α → Except YamlError β}

lemma unlessTooDeep_bind (h : f a = unlessTooDeep n depth b) :
    (unlessTooDeep m depth a >>= f) = unlessTooDeep (max m n) depth b := by
  rw [unlessTooDeep]
  by_cases hm : m ≤ depth
  · rw [if_pos hm, ok_bind, h]
    exact if_congr (by omega) rfl rfl
  · rw [if_neg hm, error_bind]
    exact (if_neg (by omega)).symm

lemma unlessTooDeep_map
    (h : f a = .ok b) : (unlessTooDeep m depth a >>= f) = unlessTooDeep m depth b := by
  rw [unlessTooDeep]
  by_cases hm : m ≤ depth
  · rw [if_pos hm, ok_bind, h]
    exact (if_pos hm).symm
  · rw [if_neg hm, error_bind]
    exact (if_neg hm).symm

/-- The fields after the first one of an item are read one level deeper. -/
lemma unlessTooDeep_pred (m depth : ℕ) (a : α) :
    unlessTooDeep m (depth - 1) a = unlessTooDeep (oneDeeper m) depth a := by
  unfold unlessTooDeep oneDeeper
  refine if_congr ?_ rfl rfl
  split_ifs <;> omega

lemma unlessTooDeep_succ (m depth : ℕ) (a : α) :
    unlessTooDeep (1 + m) (depth + 1) a = unlessTooDeep m depth a :=
  if_congr (by omega) rfl rfl

/-! ### Scalars on one line -/

lemma beforeComment_subset (inQuote : Option Char) (escaped : Bool) (previous : Option Char)
    (cs : List Char) : beforeComment inQuote escaped previous cs ⊆ cs := by
  induction cs generalizing inQuote escaped previous with
  | nil => simp [beforeComment]
  | cons c cs ih =>
    rw [beforeComment]
    split_ifs <;> first
      | exact cons_subset_cons _ (ih _ _ _)
      | exact nil_subset _

variable {cs : List Char} {v : Value}

lemma plainScalar_eq_ok (h : plainScalar cs = .ok v) : v = .str (String.ofList cs) := by
  simp only [plainScalar, eq_ok_iff] at h
  exact h.2.2.2.2.symm

lemma subset_of_scalarOf {s : String} (h : scalarOf cs = .ok (.str s)) :
    s.toList ⊆ cs := by
  have hplain : plainScalar cs = .ok (.str s) → s.toList ⊆ cs := by
    intro hcs
    obtain rfl := Value.str.inj (plainScalar_eq_ok hcs)
    rw [String.toList_ofList]
    exact Subset.refl _
  unfold scalarOf at h
  split_ifs at h
  · cases h
    exact nil_subset _
  · cases h
  · cases h
  · cases h
  · cases h
  · cases h
  · cases h
    rw [String.toList_ofList]
    exact ((dropLast_sublist _).trans (drop_sublist _ _)).subset
  · cases hint : int? cs with
    | some n => rw [hint] at h; cases h
    | none => rw [hint] at h; exact hplain h
  · exact hplain h

/-- A string that is read as a scalar has no line break. -/
lemma oneLine_of_scalar (hcs : OneLine cs) {s : String}
    (h : scalar cs = .ok (.str s)) : OneLine s.toList := by
  have hcomment : stripInlineComment (rstrip (lstrip cs)) ⊆ cs :=
    Subset.trans (rstrip_subset _)
      (Subset.trans (beforeComment_subset _ _ _ _) (strip_subset _))
  exact oneLine_of_subset hcs (Subset.trans (subset_of_scalarOf h) hcomment)

lemma exists_str_of_break (hblock : v.isBlock = false) (hv : ¬ OneLine v.scalarText) :
    ∃ s cs, v = .str s ∧ v.scalarText = doubleQuote :: cs ∧ ¬ OneLine s.toList := by
  rw [oneLine_scalarText hblock] at hv
  cases v with
  | str s =>
    refine ⟨s, _, rfl, rfl, fun hs => hv ?_⟩
    exact decide_eq_true (breaks_eq_zero_iff.mpr hs)
  | list items =>
    cases items with
    | nil => exact absurd rfl hv
    | cons item items => cases hblock
  | dict fields =>
    cases fields with
    | nil => exact absurd rfl hv
    | cons field fields => cases hblock
  | _ => exact absurd rfl hv

lemma strip_quote (spaces : List Char) (hspaces : ∀ c ∈ spaces, isSpace c)
    (cs : List Char) : rstrip (lstrip (spaces ++ doubleQuote :: cs)) =
      doubleQuote :: rstrip cs := by
  rw [lstrip, dropWhile_append_of_pos hspaces, dropWhile_cons_of_neg (by decide)]
  exact rstrip_append [] (by decide) cs

/-- What is left of the line of a string is read as another value. -/
lemma scalar_cut {s : String} (hs : ¬ OneLine s.toList) (cs : List Char) :
    scalar (doubleQuote :: rstrip (cut cs)) ≠ .ok (.str s) := by
  rw [rstrip_cut]
  exact fun h => hs (oneLine_of_scalar ((oneLine_cons (by decide)).mpr (oneLine_cut cs)) h)

/-! ### Following the layout -/

variable (indent : ℕ)

/-- What follows a block is indented less. -/
def Ends (rest : List Line) : Prop :=
  ∀ line ∈ rest.head?, line.indent < indent ∧ line.content ≠ []

variable {rest : List Line}

lemma Ends.mono {indent indent' : ℕ} (h : Ends indent rest)
    (hle : indent ≤ indent') : Ends indent' rest :=
  fun line hline => ⟨(h line hline).1.trans_le hle, (h line hline).2⟩

variable {more : List Line} {line : Line}

section

variable {layout layout' : List (ℕ × List Char)} {lines : List Line} {tail : Option (List Line)}

lemma Follows.append_cases (h : Follows (layout ++ layout') lines tail) :
    tail = none ∧ Follows layout lines none ∨
      ∃ more, Follows layout lines (some more) ∧ Follows layout' more tail := by
  induction layout generalizing lines with
  | nil => exact .inr ⟨lines, .done lines, h⟩
  | cons p layout ih =>
    rw [cons_append] at h
    cases h with
    | cut hbreak hline hne => exact .inl ⟨rfl, .cut hbreak hline hne⟩
    | next hline h =>
      obtain ⟨rfl, hcut⟩ | ⟨more, h, hmore⟩ := ih h
      · exact .inl ⟨rfl, .next hline hcut⟩
      · exact .inr ⟨more, .next hline h, hmore⟩

lemma Follows.length_eq (h : Follows layout lines (some more)) :
    lines.length = layout.length + more.length := by
  induction layout generalizing lines with
  | nil =>
    cases h
    exact (Nat.zero_add _).symm
  | cons p layout ih =>
    cases h with
    | next hline h => rw [length_cons, length_cons, ih h, Nat.add_right_comm]

/-- The first line is at its place, cut or not. -/
lemma Follows.head {p : ℕ × List Char} (h : Follows layout lines tail)
    (hp : layout.head? = some p) : ∃ line rest, lines = line :: rest ∧ line.indent = p.1 ∧
      (p.2 ≠ [] → line.content ≠ []) ∧ (tail = none ∨ line.content = p.2) := by
  cases h with
  | done rest => cases hp
  | cut hbreak hline hne =>
    cases hp
    obtain ⟨hindent, hcontent⟩ := mk.inj hline
    exact ⟨_, _, rfl, hindent, fun _ => by rwa [hcontent], .inl rfl⟩
  | next hline h =>
    cases hp
    subst hline
    exact ⟨_, _, rfl, rfl, id, .inr rfl⟩

lemma Follows.ends {start indent : ℕ} (h : Follows layout lines tail)
    (hrest : ∀ rest ∈ tail, Ends indent rest)
    (hfirst : ∀ p ∈ layout.head?, p.1 = start ∧ p.2 ≠ []) (hstart : start < indent) :
    Ends indent lines := by
  cases layout with
  | nil =>
    cases h
    exact hrest _ rfl
  | cons p layout =>
    obtain ⟨line, rest, rfl, hindent, hcontent, -⟩ := h.head rfl
    obtain ⟨hp, hne⟩ := hfirst p rfl
    intro l hl
    cases hl
    exact ⟨by rw [hindent, hp]; exact hstart, hcontent hne⟩

lemma Follows.rstrip {p : ℕ × List Char}
    (h : Follows (p :: layout) (line :: lines) tail) (hp : Placed p) :
    rstrip line.content = line.content := by
  cases h with
  | cut hbreak hline hne =>
    rw [(mk.inj hline).2]
    exact rstrip_cut _
  | next hline h =>
    subst hline
    exact hp.trimmed.rstrip

end

variable (fields : List (String × Value))

lemma head?_layoutFields :
    ∀ line ∈ (layoutFields indent fields).head?, line.1 = indent ∧ line.2 ≠ [] := by
  intro line hline
  cases fields with
  | nil => cases hline
  | cons field fields =>
    cases hline
    exact ⟨rfl, by simp⟩

lemma head?_layoutItem (v : Value) :
    ∃ line, (layoutItem indent v).head? = some line ∧ line.1 = indent ∧ isItem line.2 := by
  cases v with
  | dict fields =>
    cases fields with
    | nil | cons field fields => exact ⟨_, rfl, rfl, rfl⟩
  | _ => exact ⟨_, rfl, rfl, rfl⟩

lemma head?_layoutItems (items : List Value) :
    ∀ line ∈ (layoutItems indent items).head?, line.1 = indent ∧ isItem line.2 := by
  intro line hline
  cases items with
  | nil => cases hline
  | cons item items =>
    obtain ⟨first, hfirst, h⟩ := head?_layoutItem indent item
    rw [layoutItems, head?_append, hfirst] at hline
    cases hline
    exact h

lemma ne_nil_of_isItem (h : isItem cs) : cs ≠ [] := by
  rintro rfl
  cases h

/-! ### Outcomes -/

/-- What a parser makes of lines that follow a layout: the expected value and the lines that are
left, if `max_depth` suffices, and nothing but a wrong value from lines that are cut. -/
def Outcome (needed depth : ℕ) (expected : α) (wrong : α → Prop)
    (result : Except YamlError (α × List Line)) : Option (List Line) → Prop
  | some rest => result = unlessTooDeep needed depth (expected, rest)
  | none => ∀ a rest, result = .ok (a, rest) → wrong a

section

variable {α β : Type} {m n depth : ℕ} {a : α} {b : β} {wrong : α → Prop} {wrong' : β → Prop}
  {tail : Option (List Line)} {f : α × List Line → Except YamlError (β × List Line)}

lemma Outcome.bind (h : Outcome n depth b wrong' (f (a, more)) tail) :
    Outcome (max m n) depth b wrong' (unlessTooDeep m depth (a, more) >>= f) tail := by
  cases tail with
  | some rest => exact unlessTooDeep_bind h
  | none =>
    intro b rest hb
    rw [unlessTooDeep] at hb
    split_ifs at hb
    · exact h b rest hb
    · cases hb

variable {x : Except YamlError (α × List Line)}

lemma Outcome.map (h : Outcome m depth a wrong x tail) (hok : ∀ rest, f (a, rest) = .ok (b, rest))
    (hwrong : ∀ a rest b rest', wrong a → f (a, rest) = .ok (b, rest') → wrong' b) :
    Outcome m depth b wrong' (x >>= f) tail := by
  cases tail with
  | some rest =>
    rw [Outcome] at h ⊢
    rw [h]
    exact unlessTooDeep_map (hok rest)
  | none =>
    intro b rest hb
    obtain ⟨⟨a, rest'⟩, ha, hb⟩ := bind_eq_ok.mp hb
    exact hwrong _ _ _ _ (h _ _ ha) hb

lemma Outcome.mono {b' : β} {wrong : β → Prop} {x : Except YamlError (β × List Line)}
    (h : Outcome m depth b wrong x tail) (hb : b = b') (hwrong : ∀ c, wrong c → wrong' c) :
    Outcome m depth b' wrong' x tail := by
  subst hb
  cases tail with
  | some rest => exact h
  | none => exact fun c rest hc => hwrong c (h c rest hc)

/-- The fields after the first one of an item are read one level deeper. -/
lemma Outcome.oneDeeper
    (h : Outcome m (depth - 1) a wrong x tail) : Outcome (oneDeeper m) depth a wrong x tail := by
  cases tail with
  | some rest => exact h.trans (unlessTooDeep_pred _ _ _)
  | none => exact h

lemma Outcome.tooDeep {needed : ℕ} (h : 0 < needed) :
    Outcome needed 0 a wrong (.error .tooDeep) tail := by
  cases tail with
  | some rest => exact (if_neg (by omega)).symm
  | none => exact fun _ _ hok => nomatch hok

lemma Outcome.succ (h : Outcome m depth a wrong x tail) :
    Outcome (1 + m) (depth + 1) a wrong x tail := by
  cases tail with
  | some rest => exact h.trans (unlessTooDeep_succ _ _ _).symm
  | none => exact h

end

/-- A value that needs lines of its own is read from them. -/
def BlockReads (v : Value) : Prop :=
  ∀ depth indent lines tail, Follows (below indent v) lines tail →
    (∀ rest ∈ tail, Ends indent rest) →
    Outcome (levels v) depth (v.mapStrings unquoted) (· ≠ v) (parseBlock depth lines indent) tail

def Differs (mapping fields : List (String × Value)) : Prop :=
  ∃ p ∈ mapping, ∃ q ∈ fields, p.1 = q.1 ∧ p.2 ≠ q.2

/-- The fields of a mapping are read from their lines. -/
def FieldsRead : Prop :=
  ∀ depth indent fuel mapping lines tail, Follows (layoutFields indent fields) lines tail →
    (∀ rest ∈ tail, Ends indent rest) → lines.length ≤ fuel →
    (mapping.map fst ++ fields.map fst).Nodup →
    Outcome (levelsFields fields) depth (mapping ++ mapStringsFields unquoted fields)
      (Differs · fields) (mappingLoop (parseBlock depth) indent fuel mapping lines) tail

/-- The items of a list are read from their lines. -/
def ItemsRead (items : List Value) : Prop :=
  ∀ depth indent fuel before before' lines tail, Follows (layoutItems indent items) lines tail →
    (∀ rest ∈ tail, Ends indent rest) → lines.length ≤ fuel → before.length = before'.length →
    Outcome (levelsItems items) depth (before ++ mapStringsItems unquoted items)
      (· ≠ before' ++ items)
      (sequenceLoop (parseBlock depth) (parseBlock (depth - 1)) indent fuel before lines) tail

def ItemReads (v : Value) : Prop :=
  ∀ indent line lines tail, Follows (layoutItem indent v) (line :: lines) tail →
    (∀ rest ∈ tail, Ends (indent + 1) rest) → isItem line.content ∧
      ∀ depth, Outcome (levelsItem v) depth (v.mapStrings unquoted) (· ≠ v)
        (parseItem (parseBlock depth) (parseBlock (depth - 1))
          (rstrip (lstrip (line.content.drop 2))) lines indent line.lineno) tail

/-! ### Fields -/

lemma below_scalar (h : v.isBlock = false) (indent : ℕ) : below indent v = [] := by
  cases v with
  | list items =>
    cases items with
    | nil => rfl
    | cons item items => cases h
  | dict fields =>
    cases fields with
    | nil => rfl
    | cons field fields => cases h
  | _ => rfl

lemma levels_scalar (h : v.isBlock = false) : levels v = 0 := by
  cases v with
  | list items =>
    cases items with
    | nil => rfl
    | cons item items => cases h
  | dict fields =>
    cases fields with
    | nil => rfl
    | cons field fields => cases h
  | _ => rfl

/-- A block starts at its indentation. -/
lemma head?_below (h : v.isBlock) (indent : ℕ) :
    ∃ line, (below indent v).head? = some line ∧ line.1 = indent := by
  cases v with
  | list items =>
    cases items with
    | nil => cases h
    | cons item items =>
      obtain ⟨line, hline, hindent, -⟩ := head?_layoutItem indent item
      refine ⟨line, ?_, hindent⟩
      rw [below, layoutItems, head?_append, hline, Option.some_or]
  | dict fields =>
    cases fields with
    | nil => cases h
    | cons field fields => exact ⟨_, rfl, rfl⟩
  | _ => cases h

lemma scalarText_ne_blockMark (v : Value) : ¬ (v.scalarText = ['|'] ∨ v.scalarText = ['>']) := by
  cases v with
  | int n =>
    rintro (h | h)
    · exact head?_int_ne n (c := '|') (by decide) (by decide) (congrArg head? h)
    · exact head?_int_ne n (c := '>') (by decide) (by decide) (congrArg head? h)
  | null => decide
  | bool b => cases b <;> decide
  | str s => simp [scalarText, quote, doubleQuote]
  | list items | dict fields => simp [scalarText]

variable {lines : List Line} {tail : Option (List Line)}

/-- A block is read from the lines below its key. -/
lemma parseFieldValue_block (hv : v.isBlock) {depth indent nested : ℕ}
    (hnested : indent < nested)
    (h : Follows (below nested v) lines tail) :
    parseFieldValue (parseBlock depth) lines indent (rstrip (lstrip v.afterColon)) =
      parseBlock depth lines nested := by
  obtain ⟨first, hfirst, hstart⟩ := head?_below hv nested
  obtain ⟨line, rest, rfl, hindent, -⟩ := h.head hfirst
  rw [afterColon_block hv]
  change parseNested (parseBlock depth) (line :: rest) indent (.dict []) = _
  rw [parseNested, hindent, hstart, if_pos hnested]

lemma parseFieldValue_scalar (hv : v.isBlock = false)
    (hwritten : v.allScalars isWritten) (block : BlockParser) (lines : List Line)
    (indent : ℕ) : parseFieldValue block lines indent (rstrip (lstrip v.afterColon)) =
      .ok (v.mapStrings unquoted, lines) := by
  have htrimmed := trimmed_scalarText v
  have hstrip : lstrip (' ' :: v.scalarText) = v.scalarText :=
    htrimmed.lstrip_append [' '] (forall_mem_singleton.mpr (by decide))
  rw [afterColon_scalar hv, hstrip, htrimmed.rstrip, parseFieldValue,
    if_neg (scalarText_ne_blockMark v), if_neg htrimmed.ne_nil, scalar_scalarText hv hwritten]
  rfl

/-- The value of a field is read from what follows its colon, as another one if its lines are cut. -/
lemma value_follows (hblock : v.isBlock → BlockReads v)
    (hwritten : v.allScalars isWritten) {a : List Char} (ha : OneLine a)
    {n nested indent : ℕ} (hnested : indent < nested)
    (h : Follows ((n, a ++ ':' :: v.afterColon) :: (below nested v ++ layout)) (line :: lines) tail)
    (hends : ∀ more, Follows layout more tail → Ends nested more) :
    line.indent = n ∧ ∃ text, line.content = a ++ ':' :: text ∧
      ((tail = none ∧ ∀ depth w rest, parseFieldValue (parseBlock depth) lines indent
          (rstrip (lstrip text)) = .ok (w, rest) → w ≠ v) ∨
        ∃ more, Follows layout more tail ∧ more.length ≤ lines.length ∧
          ∀ depth, parseFieldValue (parseBlock depth) lines indent (rstrip (lstrip text)) =
            unlessTooDeep (levels v) depth (v.mapStrings unquoted, more)) := by
  cases h with
  | cut hbreak hline hne =>
    obtain ⟨hindent, hcontent⟩ := mk.inj hline
    have hcolon : OneLine (a ++ [':', ' ']) :=
      oneLine_append.mpr ⟨ha, by simp [OneLine, isLineBreak]⟩
    cases hv : v.isBlock with
    | true =>
      rw [afterColon_block hv] at hbreak
      exact absurd (oneLine_append.mpr ⟨ha, by simp [OneLine, isLineBreak]⟩) hbreak
    | false =>
      rw [afterColon_scalar hv] at hbreak hcontent
      have hsplit : ∀ cs, a ++ ':' :: ' ' :: cs = (a ++ [':', ' ']) ++ cs := by simp
      rw [hsplit, oneLine_append, not_and] at hbreak
      obtain ⟨s, cs, rfl, htext, hs⟩ := exists_str_of_break hv (hbreak hcolon)
      refine ⟨hindent, [' '] ++ doubleQuote :: cut cs, ?_, .inl ⟨rfl, fun depth w rest hw => ?_⟩⟩
      · rw [hcontent, htext, singleton_append, hsplit (_ :: cut cs),
          ← cut_append hcolon (by decide)]
        exact congrArg cut (hsplit _)
      · rw [strip_quote [' '] (by simp [isSpace]), parseFieldValue,
          if_neg (by simp [doubleQuote]), if_neg (by simp)] at hw
        simp only [eq_ok_iff, mk.injEq] at hw
        obtain ⟨w, hw, rfl, -⟩ := hw
        rintro rfl
        exact scalar_cut hs _ hw
  | next hline h =>
    obtain ⟨hindent, hcontent⟩ := mk.inj hline
    refine ⟨hindent, v.afterColon, hcontent, ?_⟩
    cases hv : v.isBlock with
    | true =>
      obtain ⟨rfl, hcut⟩ | ⟨more, h, hmore⟩ := h.append_cases
      · refine .inl ⟨rfl, fun depth w rest hw => ?_⟩
        rw [parseFieldValue_block hv hnested hcut] at hw
        exact hblock hv _ _ _ _ hcut (by simp) w rest hw
      · refine .inr ⟨more, hmore, by rw [h.length_eq]; exact Nat.le_add_left _ _, fun depth => ?_⟩
        rw [parseFieldValue_block hv hnested h]
        refine hblock hv _ _ _ _ h fun rest hrest => ?_
        cases hrest
        exact hends _ hmore
    | false =>
      rw [below_scalar hv, nil_append] at h
      refine .inr ⟨lines, h, le_rfl, fun depth => ?_⟩
      rw [parseFieldValue_scalar hv hwritten, levels_scalar hv, unlessTooDeep_zero]

variable {indent fuel : ℕ} {lines rest : List Line}

lemma subset_mappingLoop {block : BlockParser} {mapping mapping' : List (String × Value)}
    (h : mappingLoop block indent fuel mapping lines = .ok (mapping', rest)) :
    mapping ⊆ mapping' := by
  induction fuel generalizing mapping lines with
  | zero =>
    cases h
    exact Subset.refl _
  | succ fuel ih =>
    cases lines with
    | nil =>
      cases h
      exact Subset.refl _
    | cons line lines =>
      rw [mappingLoop] at h
      split_ifs at h
      · exact ih h
      · cases h
        exact Subset.refl _
      · simp only [bind_eq_ok] at h
        obtain ⟨_, _, _, _, _, _, hloop⟩ := h
        exact Subset.trans (subset_append_left _ _) (ih hloop)

/-- A loop stops at what follows its block. -/
lemma mappingLoop_rest (block : BlockParser)
    (h : Ends indent rest) (fuel : ℕ) (mapping : List (String × Value)) :
    mappingLoop block indent fuel mapping rest = .ok (mapping, rest) := by
  cases fuel with
  | zero => rfl
  | succ fuel =>
    cases rest with
    | nil => rfl
    | cons line rest =>
      obtain ⟨hindent, hcontent⟩ := h line rfl
      rw [mappingLoop, if_neg hcontent, if_pos (.inl hindent.ne)]

lemma fieldsRead_nil : FieldsRead [] := by
  intro depth indent fuel mapping lines tail h hrest _ _
  cases h
  rw [Outcome, mappingLoop_rest _ (hrest _ rfl), levelsFields, unlessTooDeep_zero, mapStringsFields,
    append_nil]

variable {key : String} {value : Value} {fields : List (String × Value)}

lemma fieldsRead_cons (hkey : IsKey key) (hblock : value.isBlock → BlockReads value)
    (hwritten : value.allScalars isWritten) (hfields : FieldsRead fields) :
    FieldsRead ((key, value) :: fields) := by
  intro depth indent fuel mapping lines tail h hrest hfuel hnodup
  rw [layoutFields, cons_append] at h
  obtain ⟨line, lines, rfl, -⟩ := h.head rfl
  obtain ⟨fuel, rfl⟩ : ∃ n, fuel = n + 1 := ⟨fuel - 1, by simp at hfuel; omega⟩
  have hfresh : key ∉ mapping.map fst := by
    intro hmem
    exact (nodup_append.mp hnodup).2.2 _ hmem _ (by simp) rfl
  have hnested : indent < indent + 2 := by omega
  obtain ⟨hindent, text, hcontent, hvalue⟩ :=
    value_follows hblock hwritten (oneLine_isKey hkey) hnested h fun more hmore =>
      -- the lines of the other fields end the value
      hmore.ends (fun rest hr => (hrest rest hr).mono (by omega)) (head?_layoutFields indent fields)
        hnested
  rw [mappingLoop, hcontent, if_neg (by simp), hindent, if_neg (by simp [isItem_key hkey]),
    splitKeyValue_key hkey]
  simp only [ok_bind, String.ofList_toList, raiseIf, if_neg hfresh]
  obtain ⟨rfl, hwrong⟩ | ⟨more, hmore, hlength, hvalue⟩ := hvalue
  · intro mapping' rest hloop
    obtain ⟨⟨w, lines'⟩, hw, hloop⟩ := bind_eq_ok.mp hloop
    exact ⟨(key, w), subset_mappingLoop hloop (by simp), (key, value), by simp, rfl,
      hwrong _ _ _ hw⟩
  · rw [hvalue, levelsFields]
    refine Outcome.bind ((hfields depth indent fuel _ more tail hmore hrest ?_ ?_).mono ?_ ?_)
    · simp at hfuel
      omega
    · simpa using hnodup
    · simp [mapStringsFields]
    · rintro mapping' ⟨p, hp, q, hq, hpq⟩
      exact ⟨p, hp, q, mem_cons_of_mem _ hq, hpq⟩

/-! ### Items -/

lemma span_isKeyChar {cs tail : List Char} (h : ∀ c ∈ cs, isKeyChar c)
    (htail : ∀ c ∈ tail.head?, isKeyChar c = false) : (cs ++ tail).span isKeyChar = (cs, tail) := by
  rw [span_eq_takeWhile_dropWhile, takeWhile_append_of_pos h, dropWhile_append_of_pos h]
  cases tail with
  | nil => simp
  | cons c tail => simp [htail c rfl]

lemma startsWithKey_eq (text : List Char) : startsWithKey text = match text.span isKeyChar with
      | (key, ':' :: _) => decide (key ≠ [])
      | _ => false := rfl

lemma startsWithKey_key (h : IsKey key) (tail : List Char) :
    startsWithKey (key.toList ++ ':' :: tail) := by
  have hcolon : ∀ c ∈ (':' :: tail).head?, isKeyChar c = false := by
    intro c hc
    cases hc
    decide
  rw [startsWithKey_eq, span_isKeyChar h.chars hcolon]
  simp [h.ne_nil]

/-- A scalar does not start with a key and a colon. -/
lemma startsWithKey_scalarText (hdict : v.isDict = false)
    (hlist : v.isBlock = false) : startsWithKey v.scalarText = false := by
  cases v with
  | null => decide
  | bool b => cases b <;> decide
  | int n =>
    have hspan : ((toString n).toList ++ []).span isKeyChar = ((toString n).toList, []) :=
      span_isKeyChar (fun c hc => isKeyChar_of_mem_int hc) (by simp)
    rw [append_nil] at hspan
    rw [scalarText, startsWithKey_eq, hspan]
  | str s => rfl
  | list items =>
    cases items with
    | nil => decide
    | cons item items => cases hlist
  | dict fields => cases hdict

/-- A loop keeps the items it has in front. -/
lemma prefix_sequenceLoop {block inner : BlockParser} {items items' : List Value}
    (h : sequenceLoop block inner indent fuel items lines = .ok (items', rest)) :
    items <+: items' := by
  induction fuel generalizing items lines with
  | zero =>
    cases h
    exact prefix_rfl
  | succ fuel ih =>
    cases lines with
    | nil =>
      cases h
      exact prefix_rfl
    | cons line lines =>
      rw [sequenceLoop] at h
      split_ifs at h
      · exact ih h
      · cases h
        exact prefix_rfl
      · simp only [bind_eq_ok] at h
        obtain ⟨_, _, hloop⟩ := h
        exact (prefix_append _ _).trans (ih hloop)

lemma Differs.ofFields_ne {mapping fields : List (String × Value)} (h : Differs mapping fields)
    (hkeys : (fields.map fst).Nodup) : Value.ofFields mapping ≠ .dict fields := by
  obtain ⟨p, hp, q, hq, hkey, hvalue⟩ := h
  intro heq
  have hperm := perm_insertionSort (fun a b => Value.fieldLE a b) mapping
  rw [Value.dict.inj heq] at hperm
  exact hvalue (congrArg snd (inj_on_of_nodup_map hkeys (hperm.mem_iff.mpr hp) hq hkey))

/-- The fields that follow the first one of an item. -/
lemma parseExtra_fields (hfields : FieldsRead fields) (hkeys : (key :: fields.map fst).Nodup)
    {depth indent lineno : ℕ}
    (h : Follows (layoutFields (indent + 2) fields) lines tail)
    (hrest : ∀ rest ∈ tail, Ends (indent + 1) rest) :
    Outcome (levelsFields fields) depth (mapStringsFields unquoted fields) (Differs · fields)
      (parseExtra (parseBlock depth) key.toList lines indent lineno) tail := by
  obtain ⟨hkey, hnodup⟩ := nodup_cons.mp hkeys
  cases fields with
  | nil =>
    cases h
    have hends := hrest _ rfl
    rw [Outcome, levelsFields, unlessTooDeep_zero]
    cases lines with
    | nil => rfl
    | cons line rest =>
      have hindent := (hends line rfl).1
      rw [parseExtra, if_neg (by omega)]
      rfl
  | cons field fields =>
    have hloop := hfields depth (indent + 2) _ [] lines tail h
      (fun rest hr => (hrest rest hr).mono (by omega)) le_rfl (by simpa using hnodup)
    obtain ⟨line, lines, rfl, hindent, -⟩ := h.head rfl
    rw [parseExtra, hindent, if_pos (by omega), parseMapping]
    refine hloop.map (fun rest => ?_) fun extra rest extra' rest' hwrong hok => ?_
    · simp only [nil_append, raiseIf, map_fst_mapStringsFields, String.ofList_toList, if_neg hkey]
      rfl
    · simp only [eq_ok_iff, mk.injEq] at hok
      obtain ⟨-, rfl, -⟩ := hok
      exact hwrong

lemma itemReads_scalar (hdict : v.isDict = false) (hblock : v.isBlock = false)
    (hwritten : v.allScalars isWritten) : ItemReads v := by
  intro indent line lines tail h hrest
  rw [layoutItem_scalar indent hdict] at h
  cases h with
  | cut hbreak hline hne =>
    have hdash : OneLine ['-', ' '] := by simp [OneLine, isLineBreak]
    have hv : ¬ OneLine v.scalarText := fun hv => hbreak (oneLine_append.mpr ⟨hdash, hv⟩)
    obtain ⟨s, cs, rfl, htext, hs⟩ := exists_str_of_break hblock hv
    have hcontent : line.content = ['-', ' '] ++ doubleQuote :: cut cs := by
      rw [(mk.inj hline).2, htext]
      exact cut_append hdash (by decide) cs
    refine ⟨by rw [hcontent]; rfl, fun depth w rest hw => ?_⟩
    rw [hcontent, show ∀ cs, (['-', ' '] ++ cs).drop 2 = [] ++ cs from fun _ => rfl,
      strip_quote [] (by simp), parseItem, if_neg (by simp),
      if_neg (by simp [startsWithKey, doubleQuote, span_eq_takeWhile_dropWhile])] at hw
    simp only [eq_ok_iff, mk.injEq] at hw
    obtain ⟨w, hw, rfl, -⟩ := hw
    rintro rfl
    exact scalar_cut hs _ hw
  | next hline h =>
    cases h
    have htrimmed := trimmed_scalarText v
    have hcontent : line.content = '-' :: ' ' :: v.scalarText := (mk.inj hline).2
    have hlevels : levelsItem v = 0 := by
      cases v with
      | dict fields => cases hdict
      | _ => rfl
    refine ⟨by rw [hcontent]; rfl, fun depth => ?_⟩
    rw [hcontent, drop_succ_cons, drop_succ_cons, drop_zero, htrimmed.lstrip,
      htrimmed.rstrip, parseItem, if_neg htrimmed.ne_nil,
      if_neg (by simp [startsWithKey_scalarText hdict hblock]), scalar_scalarText hblock hwritten,
      Outcome, hlevels, unlessTooDeep_zero]
    rfl

lemma itemReads_dict (hkeys : AreKeys (((key, value) :: fields).map fst))
    (hblock : value.isBlock → BlockReads value)
    (hwritten : value.allScalars isWritten) (hfields : FieldsRead fields) :
    ItemReads (.dict ((key, value) :: fields)) := by
  intro indent line lines tail h hrest
  have hkey : IsKey key := hkeys.head
  have hdash : OneLine ('-' :: ' ' :: key.toList) :=
    (oneLine_cons (by decide)).mpr ((oneLine_cons (by decide)).mpr (oneLine_isKey hkey))
  have hnested : indent < indent + 4 := by omega
  rw [layoutItem, cons_append] at h
  obtain ⟨-, text, hcontent, hvalue⟩ :=
    value_follows hblock hwritten hdash hnested h fun more hmore =>
      hmore.ends (fun rest hr => (hrest rest hr).mono (by omega))
        (head?_layoutFields (indent + 2) fields) (by omega)
  have hspace : isSpace ':' = false := by decide
  have hright : rstrip text = text := by
    have hstrip := h.rstrip (placed_append (a := '-' :: ' ' :: key.toList) (c := '-') rfl (by decide)
      (getLast?_afterColon value))
    rw [hcontent, rstrip_append _ hspace] at hstrip
    simpa using hstrip
  have hleft : lstrip (key.toList ++ ':' :: text) = key.toList ++ ':' :: text := by
    obtain ⟨c, cs, hcs⟩ := exists_cons_of_ne_nil hkey.ne_nil
    have hc := isSpace_of_isKeyChar (hkey.chars c (by simp [hcs]))
    rw [hcs, cons_append, lstrip, dropWhile_cons_of_neg (by simp [hc])]
  have htext : line.content.drop 2 = key.toList ++ ':' :: text := by rw [hcontent]; rfl
  refine ⟨by rw [hcontent]; rfl, fun depth => ?_⟩
  rw [htext, hleft, rstrip_append _ hspace, hright, parseItem, if_neg (by simp),
    if_pos (startsWithKey_key hkey _), splitKeyValue_key hkey, ok_bind, levelsItem]
  simp only [String.ofList_toList]
  obtain ⟨rfl, hwrong⟩ | ⟨more, hmore, -, hvalue⟩ := hvalue
  · intro w rest hw
    simp only [eq_ok_iff, mk.injEq] at hw
    obtain ⟨⟨first, lines'⟩, hfirst, ⟨extra, rest'⟩, -, rfl, -⟩ := hw
    exact Differs.ofFields_ne ⟨(key, first), by simp, (key, value), by simp, rfl,
      hwrong _ _ _ hfirst⟩ hkeys.nodup
  · rw [hvalue]
    refine Outcome.bind ((parseExtra_fields hfields hkeys.nodup hmore hrest).oneDeeper.map
      (fun rest => ?_) fun extra rest w rest' hwrong hok => ?_)
    · have hsorted : AreKeys (((key, value.mapStrings unquoted) ::
          mapStringsFields unquoted fields).map fst) := by
        rw [map_cons, map_fst_mapStringsFields]
        exact hkeys
      simp only [hsorted.ofFields_eq]
      rfl
    · cases hok
      obtain ⟨p, hp, q, hq, hpq⟩ := hwrong
      exact Differs.ofFields_ne ⟨p, mem_cons_of_mem _ hp, q, mem_cons_of_mem _ hq, hpq⟩ hkeys.nodup

/-- A loop stops at what follows its block. -/
lemma sequenceLoop_rest (block inner : BlockParser)
    (h : Ends indent rest) (fuel : ℕ) (items : List Value) :
    sequenceLoop block inner indent fuel items rest = .ok (items, rest) := by
  cases fuel with
  | zero => rfl
  | succ fuel =>
    cases rest with
    | nil => rfl
    | cons line rest =>
      obtain ⟨hindent, hcontent⟩ := h line rfl
      rw [sequenceLoop, if_neg hcontent, if_pos (.inl hindent.ne)]

lemma itemsRead_nil : ItemsRead [] := by
  intro depth indent fuel before before' lines tail h hrest _ _
  cases h
  rw [Outcome, sequenceLoop_rest _ _ (hrest _ rfl), levelsItems, unlessTooDeep_zero,
    mapStringsItems, append_nil]

lemma itemsRead_cons {item : Value} {items : List Value} (hitem : ItemReads item)
    (hitems : ItemsRead items) : ItemsRead (item :: items) := by
  intro depth indent fuel before before' lines tail h hrest hfuel hbefore
  obtain ⟨p, hp, hindent, -⟩ := head?_layoutItem indent item
  rw [layoutItems] at h
  obtain ⟨line, lines, rfl, hline, -⟩ := h.head (by rw [head?_append, hp, Option.some_or])
  obtain ⟨fuel, rfl⟩ : ∃ n, fuel = n + 1 := ⟨fuel - 1, by simp at hfuel; omega⟩
  rw [hindent] at hline
  obtain ⟨rfl, hcut⟩ | ⟨more, h, hmore⟩ := h.append_cases
  · obtain ⟨hcontent, hwrong⟩ := hitem indent line lines none hcut (by simp)
    intro items' rest hloop
    rw [sequenceLoop, if_neg (ne_nil_of_isItem hcontent), hline, if_neg (by simp [hcontent])] at hloop
    obtain ⟨⟨w, lines'⟩, hw, hloop⟩ := bind_eq_ok.mp hloop
    obtain ⟨more, rfl⟩ := prefix_sequenceLoop hloop
    intro heq
    rw [append_assoc] at heq
    exact hwrong depth _ _ hw (cons.inj (append_inj_right heq hbefore)).1
  · have hends : ∀ rest ∈ some more, Ends (indent + 1) rest := by
      intro rest hr
      cases hr
      refine hmore.ends (fun rest hr => (hrest rest hr).mono (by omega)) (fun l hl => ?_)
        (Nat.lt_succ_self indent)
      obtain ⟨h1, h2⟩ := head?_layoutItems indent items l hl
      exact ⟨h1, ne_nil_of_isItem h2⟩
    obtain ⟨hcontent, hread⟩ := hitem indent line lines (some more) h hends
    rw [sequenceLoop, if_neg (ne_nil_of_isItem hcontent), hline, if_neg (by simp [hcontent])]
    simp only [show _ = _ from hread depth]
    rw [levelsItems]
    refine Outcome.bind ((hitems depth indent fuel _ (before' ++ [item]) more tail hmore hrest ?_
      (by simpa using hbefore)).mono (by simp [mapStringsItems]) (by simp))
    have hlength := h.length_eq
    have hpos := length_pos_of_mem (mem_of_mem_head? hp)
    omega

/-! ### Blocks -/

/-- A parser of blocks, in terms of those one and two levels below. -/
lemma parseBlock_succ (depth : ℕ) :
    parseBlock (depth + 1) = parseBlockWith (parseBlock depth) (parseBlock (depth - 1)) := by
  cases depth with
  | zero => rfl
  | succ depth => rfl

lemma blockReads_dict (hne : fields ≠ [])
    (hkeys : AreKeys (fields.map fst)) (hfields : FieldsRead fields) :
    BlockReads (.dict fields) := by
  intro depth indent lines tail h hrest
  obtain ⟨⟨key, value⟩, fields, rfl⟩ := exists_cons_of_ne_nil hne
  rw [levels]
  cases depth with
  | zero => exact .tooDeep (Nat.lt_add_right _ Nat.one_pos)
  | succ depth =>
    have hloop := hfields depth indent _ [] lines tail h hrest le_rfl (by simpa using hkeys.nodup)
    rw [below] at h
    obtain ⟨line, lines, rfl, hindent, -, hcontent⟩ := h.head rfl
    rw [parseBlock_succ, parseBlockWith, hindent, if_neg (lt_irrefl _)]
    split_ifs with hitem
    · obtain rfl | hcontent := hcontent
      · -- a list is no mapping
        intro w rest hw
        obtain ⟨_, -, hw⟩ := bind_eq_ok.mp hw
        cases hw
        nofun
      · rw [hcontent, isItem_key hkeys.head] at hitem
        cases hitem
    · refine (hloop.map (fun rest => ?_) fun mapping rest w rest' hwrong hok => ?_).succ
      · have hsorted : AreKeys ((mapStringsFields unquoted ((key, value) :: fields)).map fst) := by
          rw [map_fst_mapStringsFields]
          exact hkeys
        simp only [nil_append, hsorted.ofFields_eq]
        rfl
      · cases hok
        exact hwrong.ofFields_ne hkeys.nodup

lemma blockReads_list {items : List Value} (hne : items ≠ []) (hitems : ItemsRead items) :
    BlockReads (.list items) := by
  intro depth indent lines tail h hrest
  obtain ⟨item, items, rfl⟩ := exists_cons_of_ne_nil hne
  rw [levels]
  cases depth with
  | zero => exact .tooDeep (Nat.lt_add_right _ Nat.one_pos)
  | succ depth =>
    have hloop := hitems depth indent _ [] [] lines tail h hrest le_rfl rfl
    obtain ⟨p, hp, hstart, hisItem⟩ := head?_layoutItem indent item
    obtain ⟨line, lines, rfl, hindent, -, hcontent⟩ :=
      h.head (by rw [below, layoutItems, head?_append, hp, Option.some_or])
    rw [parseBlock_succ, parseBlockWith, hindent, hstart, if_neg (lt_irrefl _)]
    split_ifs with hitem
    · rw [parseSequence]
      refine (hloop.map (b := Value.list (mapStringsItems unquoted (item :: items))) (fun rest => rfl)
        fun items' rest w rest' hwrong hok => ?_).succ
      cases hok
      exact fun heq => hwrong (Value.list.inj heq)
    · obtain rfl | hcontent := hcontent
      · -- a mapping is no list
        intro w rest hw
        obtain ⟨_, -, hw⟩ := bind_eq_ok.mp hw
        cases hw
        nofun
      · rw [hcontent, hisItem] at hitem
        exact absurd rfl hitem

mutual

/-- **Following the layout.** A value that the lifecycle code writes is read from its lines. -/
theorem blockReads : ∀ v : Value, isFieldValue v → v.allScalars isWritten →
    v.isBlock → BlockReads v
  | .list (item :: items), h, hwritten, _ =>
    blockReads_list (cons_ne_nil _ _) (itemsRead (item :: items) h hwritten)
  | .dict (field :: fields), h, hwritten, _ => by
    simp only [isFieldValue, Bool.and_eq_true, decide_eq_true_eq] at h
    exact blockReads_dict (cons_ne_nil _ _) h.2 (fieldsRead (field :: fields) h.2 h.1 hwritten)

theorem fieldsRead : ∀ fields : List (String × Value), AreKeys (fields.map fst) →
    areFields fields → allScalarsFields isWritten fields → FieldsRead fields
  | [], _, _, _ => fieldsRead_nil
  | (key, value) :: fields, hkeys, h, hwritten => by
    simp only [areFields, Bool.and_eq_true] at h
    simp only [allScalarsFields, Bool.and_eq_true] at hwritten
    exact fieldsRead_cons hkeys.head (blockReads value h.1 hwritten.1) hwritten.1
      (fieldsRead fields hkeys.tail h.2 hwritten.2)

theorem itemsRead : ∀ items : List Value, areItems items →
    allScalarsItems isWritten items → ItemsRead items
  | [], _, _ => itemsRead_nil
  | item :: items, h, hwritten => by
    simp only [areItems, Bool.and_eq_true] at h
    simp only [allScalarsItems, Bool.and_eq_true] at hwritten
    exact itemsRead_cons (itemReads item h.1 hwritten.1) (itemsRead items h.2 hwritten.2)

theorem itemReads : ∀ v : Value, isItemValue v → v.allScalars isWritten → ItemReads v
  | .null, _, hwritten | .bool _, _, hwritten | .int _, _, hwritten | .str _, _, hwritten =>
    itemReads_scalar rfl rfl hwritten
  | .dict ((key, value) :: fields), h, hwritten => by
    simp only [isItemValue, areFields, Bool.and_eq_true, decide_eq_true_eq] at h
    simp only [allScalars, allScalarsFields, Bool.and_eq_true] at hwritten
    exact itemReads_dict h.2 (blockReads value h.1.1 hwritten.1) hwritten.1
      (fieldsRead fields h.2.tail h.1.2 hwritten.2)

end

end StatePort.Lifecycle
