import StatePort.Lifecycle.Documents

/-!
# Reading documents back

What `_dump_yaml` writes, line by line, and what `parse_yaml_text` makes of it. A string survives
the way through a file if it has no double quote and no line break (`Plain`): `_quote` writes a
double quote as an apostrophe, and a line break inside a quoted string ends the line.
-/

namespace StatePort.Lifecycle

open Yaml List Str

variable {cs : List Char} {c : Char} {key : String}

/-! ### Texts -/

/-- A text that `strip` leaves alone: it starts and ends with a character that is not white space. -/
structure Trimmed (cs : List Char) : Prop where
  head : ∃ c, cs.head? = some c ∧ isSpace c = false
  last : ∃ c, cs.getLast? = some c ∧ isSpace c = false

lemma Trimmed.ne_nil (h : Trimmed cs) : cs ≠ [] := by
  rintro rfl
  obtain ⟨c, hc, -⟩ := h.head
  cases hc

lemma Trimmed.lstrip_append (h : Trimmed cs) (spaces : List Char)
    (hspaces : ∀ c ∈ spaces, isSpace c) : lstrip (spaces ++ cs) = cs := by
  obtain ⟨c, hc, hspace⟩ := h.head
  obtain ⟨cs, rfl⟩ : ∃ cs', cs = c :: cs' := by
    cases cs with
    | nil => cases hc
    | cons d cs => exact ⟨cs, by rw [Option.some.inj hc]⟩
  rw [lstrip, dropWhile_append_of_pos hspaces, dropWhile_cons_of_neg (by simp [hspace])]

lemma Trimmed.lstrip (h : Trimmed cs) : lstrip cs = cs :=
  h.lstrip_append [] (by simp)

lemma Trimmed.rstrip (h : Trimmed cs) : rstrip cs = cs := by
  obtain ⟨c, hc, hspace⟩ := h.last
  have hreverse : cs.reverse.head? = some c := by rw [head?_reverse, hc]
  cases hcs : cs.reverse with
  | nil => simp [hcs] at hreverse
  | cons d ds =>
    rw [hcs] at hreverse
    obtain rfl : d = c := Option.some.inj hreverse
    rw [Str.rstrip, hcs, dropWhile_cons_of_neg (by simp [hspace]), ← hcs, reverse_reverse]

def OneLine (cs : List Char) : Prop := ∀ c ∈ cs, isLineBreak c = false

/-- The number of line breaks in a text. -/
def breaks (cs : List Char) : ℕ := cs.countP isLineBreak

lemma breaks_eq_zero_iff : breaks cs = 0 ↔ OneLine cs := by
  simp [breaks, OneLine, countP_eq_zero]

lemma oneLine_append {ds : List Char} : OneLine (cs ++ ds) ↔ OneLine cs ∧ OneLine ds :=
  forall_mem_append

lemma oneLine_cons (h : isLineBreak c = false) : OneLine (c :: cs) ↔ OneLine cs := by
  simp [OneLine, h]

lemma oneLine_of_subset {ds : List Char} (h : OneLine ds) (hsub : cs ⊆ ds) : OneLine cs :=
  fun c hc => h c (hsub hc)

lemma rstrip_subset (cs : List Char) : rstrip cs ⊆ cs := by
  intro c hc
  rw [rstrip, mem_reverse] at hc
  exact mem_reverse.mp ((dropWhile_sublist _).subset hc)

lemma strip_subset (cs : List Char) : rstrip (lstrip cs) ⊆ cs :=
  List.Subset.trans (rstrip_subset _) (dropWhile_sublist _).subset

lemma splitlinesFrom_append {rest line : List Char} (h : OneLine cs) :
    splitlinesFrom line (cs ++ '\n' :: rest) = (line.reverse ++ cs) :: splitlinesFrom [] rest := by
  induction cs generalizing line with
  | nil =>
    rw [nil_append, splitlinesFrom, if_pos (by decide), append_nil]
    intro cs hc
    simp at hc
  | cons c cs ih =>
    have hc := h c mem_cons_self
    rw [cons_append, splitlinesFrom, if_neg (by simp [hc]),
      ih fun d hd => h d (mem_cons_of_mem _ hd)]
    · simp
    · rintro cs' rfl
      simp [isLineBreak] at hc

/-- The lines of a payload are the lines that were joined. -/
lemma splitlines_flatMap {lines : List (List Char)} (h : ∀ line ∈ lines, OneLine line) :
    splitlines (lines.flatMap fun line => line ++ ['\n']) = lines := by
  induction lines with
  | nil => rfl
  | cons line lines ih =>
    have hrest := ih fun line hline => h line (mem_cons_of_mem _ hline)
    rw [splitlines] at hrest ⊢
    rw [flatMap_cons, append_assoc, singleton_append,
      splitlinesFrom_append (h line mem_cons_self), hrest, reverse_nil, nil_append]

lemma join_append_newline {lines : List (List Char)} (h : lines ≠ []) :
    join ['\n'] lines ++ ['\n'] = lines.flatMap fun line => line ++ ['\n'] := by
  induction lines with
  | nil => exact absurd rfl h
  | cons line lines ih =>
    cases lines with
    | nil => simp [join, List.intercalate]
    | cons line' lines =>
      have hrest := ih (by simp)
      rw [flatMap_cons, ← hrest]
      simp [join, List.intercalate]

/-! ### Keys and strings -/

/-- The characters of a key that a sequence item may start with. -/
def isKeyChar (c : Char) : Bool := c.isAlphanum || c = '_' || c = '.' || c = '-'

/-- A key of a lifecycle document. -/
structure IsKey (key : String) : Prop where
  ne_nil : key.toList ≠ []
  all_chars : key.toList.all isKeyChar

lemma IsKey.chars (h : IsKey key) : ∀ c ∈ key.toList, isKeyChar c :=
  all_eq_true.mp h.all_chars

/-- A string that survives the way through a file. -/
def Plain (s : String) : Prop :=
  s.toList.all (fun c => c ≠ doubleQuote && !isLineBreak c)

instance (s : String) : Decidable (Plain s) :=
  inferInstanceAs (Decidable (_ = true))

lemma Plain.append {s t : String} (hs : Plain s) (ht : Plain t) : Plain (s ++ t) := by
  rw [Plain, String.toList_append, all_append, Bool.and_eq_true]
  exact ⟨hs, ht⟩

lemma isLineBreak_eq_false (h : isSpace c = false) : isLineBreak c = false := by
  simp only [isSpace, isLineBreak, Bool.or_eq_false_iff, Bool.and_eq_false_iff,
    decide_eq_false_iff_not, beq_eq_false_iff_ne] at h ⊢
  omega

lemma isSpace_of_isKeyChar (h : isKeyChar c) : isSpace c = false := by
  simp only [isKeyChar, Bool.or_eq_true, decide_eq_true_eq] at h
  obtain ((h | rfl) | rfl) | rfl := h
  · exact isSpace_of_isAlphanum h
  · decide
  · decide
  · decide

lemma ne_of_isKeyChar {d : Char} (h : isKeyChar c) (hd : isKeyChar d = false) : c ≠ d := by
  rintro rfl
  cases h.symm.trans hd

lemma trimmed_of_isKey (h : IsKey key) : Trimmed key.toList := by
  have hspace := fun c hc => isSpace_of_isKeyChar (h.chars c hc)
  constructor
  · exact ⟨_, head?_eq_some_head h.ne_nil, hspace _ (head_mem _)⟩
  · exact ⟨_, getLast?_eq_some_getLast h.ne_nil, hspace _ (getLast_mem _)⟩

lemma quote_eq {s : String} (h : ∀ c ∈ s.toList, c ≠ doubleQuote) :
    quote s = doubleQuote :: (s.toList ++ [doubleQuote]) := by
  have hmap : (s.toList.map fun c => if c = doubleQuote then apostrophe else c) = s.toList := by
    conv_rhs => rw [← map_id s.toList]
    refine map_congr_left fun c hc => ?_
    rw [if_neg (h c hc), id]
  rw [quote, hmap, cons_append]

lemma trimmed_quote (s : String) : Trimmed (quote s) := by
  constructor
  · exact ⟨doubleQuote, rfl, by decide⟩
  · exact ⟨doubleQuote, getLast?_concat, by decide⟩

/-- Inside double quotes there is no comment, up to the closing quote. -/
lemma beforeComment_quoted (h : ∀ c ∈ cs, c ≠ doubleQuote) (escaped : Bool)
    (previous : Option Char) :
    beforeComment (some doubleQuote) escaped previous (cs ++ [doubleQuote]) =
      cs ++ [doubleQuote] := by
  induction cs generalizing escaped previous with
  | nil =>
    cases escaped with
    | true => rfl
    | false => rfl
  | cons c cs ih =>
    have hrest := ih fun d hd => h d (mem_cons_of_mem _ hd)
    have hc := h c mem_cons_self
    have hne : some doubleQuote ≠ some c := fun heq => hc (Option.some.inj heq).symm
    rw [cons_append, beforeComment]
    by_cases hescaped : escaped
    · rw [if_pos hescaped, hrest]
    rw [if_neg hescaped]
    by_cases hbackslash : c = backslash
    · rw [if_pos hbackslash, hrest]
    rw [if_neg hbackslash]
    by_cases hquote : c = apostrophe ∨ c = doubleQuote
    · -- an apostrophe does not close a double quote
      rw [if_pos hquote, if_neg hne, if_neg (by simp)]
      exact congrArg (c :: ·) (hrest false (some c))
    · rw [if_neg hquote, if_neg (by simp), hrest]

/-- A string without double quotes reads back from its quoted form. -/
lemma scalar_quote {s : String} (h : ∀ c ∈ s.toList, c ≠ doubleQuote) :
    scalar (quote s) = .ok (.str s) := by
  have htrimmed := trimmed_quote s
  have hcomment : stripInlineComment (quote s) = quote s := by
    have hquoted := beforeComment_quoted h false (some doubleQuote)
    have hbefore : beforeComment none false none (quote s) = quote s := by
      rw [quote_eq h, beforeComment, if_neg (by simp), if_neg (by decide), if_pos (by decide)]
      simp only [reduceCtorEq, if_false, if_true, hquoted]
    rw [stripInlineComment, hbefore, htrimmed.rstrip]
  rw [scalar, htrimmed.lstrip, htrimmed.rstrip, hcomment, quote_eq h, scalarOf]
  have hlower : ∀ word : List Char, word.head? ≠ some doubleQuote →
      lower (doubleQuote :: (s.toList ++ [doubleQuote])) ≠ word := by
    rintro word hword rfl
    exact hword rfl
  have hlast : (doubleQuote :: (s.toList ++ [doubleQuote])).getLast? = some doubleQuote := by
    rw [← cons_append, getLast?_concat]
  rw [if_neg (by simp), if_neg (by simp [doubleQuote]), if_neg (by simp [doubleQuote]),
    if_neg (hlower _ (by decide)), if_neg (hlower _ (by decide)), if_neg (hlower _ (by decide)),
    if_pos (Or.inl (by simp [isQuotedBy, hlast]))]
  simp

/-! ### Lines -/

/-- The key of a line, and what follows its colon. -/
lemma splitKeyValue_key (h : IsKey key) (tail : List Char) (lineno : ℕ) :
    splitKeyValue (key.toList ++ ':' :: tail) lineno =
      .ok (key.toList, rstrip (lstrip tail)) := by
  have htrimmed := trimmed_of_isKey h
  have hcolon : ∀ c ∈ key.toList, decide (c ≠ ':') := by
    intro c hc
    exact decide_eq_true (ne_of_isKeyChar (h.chars c hc) (by decide))
  have hspan : (key.toList ++ ':' :: tail).span (· ≠ ':') = (key.toList, ':' :: tail) := by
    rw [span_eq_takeWhile_dropWhile, takeWhile_append_of_pos hcolon, dropWhile_append_of_pos hcolon]
    simp
  have hmem : ':' ∈ key.toList ++ ':' :: tail := by simp
  simp only [splitKeyValue, hspan, raiseIf, hmem, not_true_eq_false, if_false, ok_bind,
    htrimmed.lstrip, htrimmed.rstrip, h.ne_nil, drop_succ_cons, drop_zero]
  rfl

lemma isItem_key (h : IsKey key) (tail : List Char) :
    isItem (key.toList ++ ':' :: tail) = false := by
  -- a dash that starts a key is followed by another character of the key or by the colon
  obtain ⟨c, cs, hcs⟩ := exists_cons_of_ne_nil h.ne_nil
  rw [isItem, hcs, cons_append]
  cases cs with
  | nil => simp [List.isPrefixOf]
  | cons d ds =>
    have hd : isKeyChar d := h.chars d (by simp [hcs])
    have hne : d ≠ ' ' := ne_of_isKeyChar hd (by decide)
    simp [List.isPrefixOf, Ne.symm hne]

/-- The document of a mapping of strings. -/
def stringFields (fields : List (String × String)) : List (String × Value) :=
  fields.map fun field => (field.1, .str field.2)

end StatePort.Lifecycle
