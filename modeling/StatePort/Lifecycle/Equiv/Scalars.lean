import StatePort.Lifecycle.Equiv.Layout

/-!
# Reading scalars back

`scalar` on what `_dump_yaml` writes for a scalar (`scalar_scalarText`): a number of at most 4300
digits is read back from its text, and a string from its quoted form, with an apostrophe for every
double quote.
-/

namespace StatePort.Lifecycle

open Yaml Value List Str

/-! ### Strings -/

/-- The string that is read for a quoted one. -/
def unquoted (s : String) : String :=
  String.ofList (s.toList.map fun c => if c = doubleQuote then apostrophe else c)

lemma unquoted_ne_doubleQuote (s : String) : ∀ c ∈ (unquoted s).toList, c ≠ doubleQuote := by
  intro c hc
  rw [unquoted, String.toList_ofList] at hc
  obtain ⟨d, -, rfl⟩ := mem_map.mp hc
  by_cases hd : d = doubleQuote
  · rw [if_pos hd]
    decide
  · rw [if_neg hd]
    exact hd

lemma quote_unquoted (s : String) : quote (unquoted s) = quote s := by
  rw [quote_eq (unquoted_ne_doubleQuote s), quote, unquoted, String.toList_ofList, cons_append]

lemma unquoted_eq_iff {s : String} :
    unquoted s = s ↔ ∀ c ∈ s.toList, c ≠ doubleQuote := by
  constructor
  · intro h
    rw [← h]
    exact unquoted_ne_doubleQuote s
  · intro h
    have hquote := quote_unquoted s
    rw [quote_eq (unquoted_ne_doubleQuote s), quote_eq h] at hquote
    exact String.toList_injective (append_cancel_right (List.cons.inj hquote).2)

/-- Without quotes, backslashes and number signs there is no comment. -/
lemma beforeComment_plain {cs : List Char}
    (h : ∀ c ∈ cs, c ∉ [backslash, apostrophe, doubleQuote, '#'])
    (previous : Option Char) : beforeComment none false previous cs = cs := by
  induction cs generalizing previous with
  | nil => rfl
  | cons c cs ih =>
    have hc := h c mem_cons_self
    simp only [mem_cons, not_mem_nil, or_false, not_or] at hc
    rw [beforeComment, if_neg (by simp), if_neg hc.1, if_neg (not_or.mpr ⟨hc.2.1, hc.2.2.1⟩),
      if_neg (fun heq => hc.2.2.2 heq.1), ih fun d hd => h d (mem_cons_of_mem _ hd)]

/-! ### Numbers -/

lemma digit?_of_isDigit {c : Char} (h : c.isDigit) :
    digit? c = some (c.toNat - '0'.toNat) := by
  simp only [Char.isDigit, Bool.and_eq_true, decide_eq_true_eq, ge_iff_le, UInt32.le_iff_toNat_le] at h
  have hrange : 48 ≤ c.toNat ∧ c.toNat ≤ 57 := h
  have hfind : digitZeros.find? (fun z => z ≤ c.toNat && c.toNat ≤ z + 9) = some 48 := by
    unfold digitZeros
    exact find?_cons_of_pos (by simp; omega)
  rw [digit?, hfind]
  rfl

lemma ofDigits_toDigits (n : ℕ) : ofDigits (Nat.toDigits 10 n) = n := by
  have hfold : ∀ (cs : List Char) (m : ℕ), (∀ c ∈ cs, c.isDigit) →
      cs.foldl (fun n c => 10 * n + (digit? c).getD 0) m = Nat.ofDigitChars 10 cs m := by
    intro cs
    induction cs with
    | nil => exact fun _ _ => rfl
    | cons c cs ih =>
      intro m h
      rw [foldl_cons, digit?_of_isDigit (h c mem_cons_self),
        ih _ fun d hd => h d (mem_cons_of_mem _ hd)]
      rfl
  rw [ofDigits, hfold _ _ fun c hc => isDigit_of_mem_toDigits hc, Nat.ofDigitChars_ten_toDigits]

lemma unsigned_int (n : ℤ) : unsigned ['-'] (toString n).toList = Nat.toDigits 10 n.natAbs := by
  rw [toList_toString_int]
  split_ifs with h
  · rw [nil_append]
    cases hdigits : Nat.toDigits 10 n.natAbs with
    | nil => rfl
    | cons c cs =>
      have hc : c ∉ ['-'] := by
        intro hmem
        obtain rfl := mem_singleton.mp hmem
        exact toDigits_ne_cons_dash _ _ hdigits
      rw [unsigned, if_neg hc]
  · rfl

lemma int?_int {n : ℤ} (h : isWritable n) : int? (toString n).toList = some n := by
  have hlength : ¬ 4300 < (Nat.toDigits 10 n.natAbs).length := by
    simpa [isWritable] using h
  simp only [int?, unsigned_int, if_neg hlength, ofDigits_toDigits]
  rw [toList_toString_int]
  split_ifs with hsign hdash hdash
  · rw [nil_append] at hdash
    obtain ⟨cs, hcs⟩ : ∃ cs, Nat.toDigits 10 n.natAbs = '-' :: cs := by
      cases hdigits : Nat.toDigits 10 n.natAbs with
      | nil => simp [hdigits] at hdash
      | cons c cs =>
        rw [hdigits] at hdash
        exact ⟨cs, by rw [Option.some.inj hdash]⟩
    exact absurd hcs (toDigits_ne_cons_dash _ _)
  · exact congrArg some (by omega)
  · exact congrArg some (by omega)
  · exact absurd rfl hdash

lemma toLower_of_isDigit {c : Char} (h : c.isDigit) : c.toLower = c := by
  simp only [Char.isDigit, Bool.and_eq_true, decide_eq_true_eq, ge_iff_le,
    UInt32.le_iff_toNat_le] at h
  have hle : c.val.toNat ≤ 57 := h.2
  unfold Char.toLower
  rw [dif_neg]
  simp only [UInt32.le_iff_toNat_le, ge_iff_le]
  rintro ⟨hge, -⟩
  have hge' : 65 ≤ c.val.toNat := hge
  omega

lemma lower_int (n : ℤ) : lower (toString n).toList = (toString n).toList := by
  rw [lower]
  conv_rhs => rw [← map_id (toString n).toList]
  refine map_congr_left fun c hc => ?_
  obtain hdigit | rfl := isDigit_or_dash hc
  · exact toLower_of_isDigit hdigit
  · decide

/-- The text of a number starts with a digit or a dash. -/
lemma head?_int_ne (n : ℤ) {c : Char} (hdigit : c.isDigit = false) (hdash : c ≠ '-') :
    (toString n).toList.head? ≠ some c := by
  intro hhead
  have hmem : c ∈ (toString n).toList := mem_of_mem_head? hhead
  obtain hc | hc := isDigit_or_dash hmem
  · cases hdigit.symm.trans hc
  · exact hdash hc

lemma trimmed_int (n : ℤ) : Trimmed (toString n).toList := trimmed_scalarText (.int n)

lemma stripInlineComment_int (n : ℤ) :
    stripInlineComment (toString n).toList = (toString n).toList := by
  rw [stripInlineComment, beforeComment_plain, (trimmed_int n).rstrip]
  intro c hc hmem
  have hkey := isKeyChar_of_mem_int hc
  simp only [mem_cons, not_mem_nil, or_false] at hmem
  obtain rfl | rfl | rfl | rfl := hmem
  · exact absurd hkey (by decide)
  · exact absurd hkey (by decide)
  · exact absurd hkey (by decide)
  · exact absurd hkey (by decide)

lemma isInteger_int (n : ℤ) : isInteger (toString n).toList := by
  rw [isInteger, unsigned_int, isDigits, Bool.and_eq_true]
  refine ⟨by simp [Nat.toDigits_ne_nil], all_eq_true.mpr fun c hc => ?_⟩
  rw [digit?_of_isDigit (isDigit_of_mem_toDigits hc)]
  rfl

lemma scalar_int {n : ℤ} (h : isWritable n) : scalar (toString n).toList = .ok (.int n) := by
  have htrimmed := trimmed_int n
  have hword : ∀ (word : List Char) (c : Char), word.head? = some c → c.isDigit = false → c ≠ '-' →
      (toString n).toList ≠ word := by
    rintro word c hhead hdigit hdash rfl
    exact head?_int_ne n hdigit hdash hhead
  have hquoted : ∀ q : Char, q.isDigit = false → q ≠ '-' → ¬ isQuotedBy q (toString n).toList := by
    intro q hdigit hdash hquoted
    simp only [isQuotedBy, Bool.and_eq_true, decide_eq_true_eq] at hquoted
    exact head?_int_ne n hdigit hdash hquoted.1
  rw [scalar, htrimmed.lstrip, htrimmed.rstrip, stripInlineComment_int, scalarOf, lower_int,
    if_neg htrimmed.ne_nil,
    if_neg (not_or.mpr ⟨hword _ '[' rfl (by decide) (by decide),
      hword _ '[' rfl (by decide) (by decide)⟩),
    if_neg (not_or.mpr ⟨hword _ (Char.ofNat 123) rfl (by decide) (by decide),
      hword _ (Char.ofNat 123) rfl (by decide) (by decide)⟩),
    if_neg (hword "null".toList 'n' rfl (by decide) (by decide)),
    if_neg (hword "true".toList 't' rfl (by decide) (by decide)),
    if_neg (hword "false".toList 'f' rfl (by decide) (by decide)),
    if_neg (not_or.mpr ⟨hquoted _ (by decide) (by decide), hquoted _ (by decide) (by decide)⟩),
    if_pos (isInteger_int n), int?_int h]

/-! ### Scalars -/

/-- A scalar is read back, its double quotes apart. -/
lemma scalar_scalarText {v : Value} (hblock : v.isBlock = false)
    (hwritten : v.allScalars isWritten) :
    scalar v.scalarText = .ok (v.mapStrings unquoted) := by
  cases v with
  | null => decide
  | bool b => cases b <;> decide
  | int n => exact scalar_int hwritten
  | str s =>
    have hquote := scalar_quote (unquoted_ne_doubleQuote s)
    rw [quote_unquoted] at hquote
    exact hquote
  | list items =>
    cases items with
    | nil => decide
    | cons item items => cases hblock
  | dict fields =>
    cases fields with
    | nil => decide
    | cons field fields => cases hblock

end StatePort.Lifecycle
