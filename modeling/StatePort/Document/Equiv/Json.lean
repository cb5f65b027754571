import StatePort.Algorithm.Code
import StatePort.Document.Json

/-!
# The text of a document determines the document

`text_injective`: two documents with the same text are the same. A text ends where a comma or a
closing bracket follows it (`isStop`); numbers are told from what follows them by that, and
everything else delimits itself. The kind of a document is the first character of its text
(`Kind`).
-/

namespace StatePort

open List

variable {c : Char} {v : Json}

/-! ### Strings -/

namespace Escape

variable (esc : Escape)

lemma write_inj (c d : Char) (r s : List Char) (h : esc.write c ++ r = esc.write d ++ s) :
    c = d ∧ r = s := by
  have hread := congrArg readChar h
  rw [esc.readable, esc.readable, Option.some.injEq, Prod.mk.injEq] at hread
  exact hread

/-- A string delimits itself. -/
lemma string_inj {a b : String} {r s : List Char}
    (h : esc.string a ++ r = esc.string b ++ s) : a = b ∧ r = s := by
  simp only [string, cons_append, append_assoc, cons.injEq, true_and] at h
  have hread : ∀ c ∈ a.toList, ReadsBack (fun _ => True) esc.write c :=
    fun c _ d r s _ _ => esc.write_inj c d r s
  obtain ⟨hchars, hrest⟩ := flatMap_inj (fun _ _ _ _ => trivial) hread esc.opens h
  exact ⟨String.toList_injective hchars, hrest⟩

end Escape

namespace Json

variable (esc : Escape)

/-! ### Where a text ends -/

/-- The characters that may follow a document. -/
def isStop (c : Char) : Prop := c = ',' ∨ c = ']' ∨ c = Char.ofNat 125

instance : DecidablePred isStop := fun c =>
  inferInstanceAs (Decidable (c = ',' ∨ c = ']' ∨ c = Char.ofNat 125))

lemma not_isStop_of_isDigit (h : c.isDigit) : ¬ isStop c := by
  rintro (rfl | rfl | rfl)
  · exact absurd h (by decide)
  · exact absurd h (by decide)
  · exact absurd h (by decide)

lemma not_isStop_of_isNumberChar (h : isNumberChar c) : ¬ isStop c := by
  rw [isNumberChar, Bool.or_eq_true, decide_eq_true_eq] at h
  obtain h | h := h
  · exact not_isStop_of_isDigit h
  · simp only [mem_cons, not_mem_nil, or_false] at h
    obtain rfl | rfl | rfl | rfl := h
    all_goals decide

lemma not_isStop_of_mem_int {n : ℤ} (h : c ∈ (toString n).toList) : ¬ isStop c := by
  rw [toList_toString_int, mem_append] at h
  obtain h | h := h
  · split_ifs at h
    · cases h
    · obtain rfl := mem_singleton.mp h
      decide
  · exact not_isStop_of_isDigit (isDigit_of_mem_toDigits h)

/-- The words for the numbers that JSON cannot write. -/
def floatWords : List (List Char) := ["NaN".toList, "Infinity".toList, "-Infinity".toList]

lemma isFloatText_cases {cs : List Char} (h : isFloatText cs) : cs ∈ floatWords ∨
    ((∀ c ∈ cs, isNumberChar c) ∧ (∃ c ∈ cs.head?, c.isDigit ∨ c = '-') ∧
      ∃ c ∈ cs, c = '.' ∨ c = 'e') := by
  simp only [isFloatText, Bool.or_eq_true, decide_eq_true_eq, Bool.and_eq_true, all_eq_true,
    Option.any_eq_true, any_eq_true] at h
  obtain h | ⟨⟨hall, hhead⟩, hany⟩ := h
  · exact .inl h
  · exact .inr ⟨hall, hhead, hany⟩

lemma not_isStop_of_mem_float {x : FloatText} (h : c ∈ x.text) : ¬ isStop c := by
  obtain hword | ⟨hall, -⟩ := isFloatText_cases x.valid
  · have hwords : floatWords.all (fun cs => cs.all fun c => ¬ isStop c) := by decide
    have hcs := all_eq_true.mp (all_eq_true.mp hwords x.text hword) c h
    exact of_decide_eq_true hcs
  · exact not_isStop_of_isNumberChar (hall c h)

lemma int_ne_float (n : ℤ) (x : FloatText) : (toString n).toList ≠ x.text := by
  intro h
  have hint : ∀ c ∈ x.text, c.isDigit ∨ c = '-' := by
    intro c hc
    rw [← h, toList_toString_int, mem_append] at hc
    obtain hc | hc := hc
    · split_ifs at hc
      · cases hc
      · exact .inr (mem_singleton.mp hc)
    · exact .inl (isDigit_of_mem_toDigits hc)
  obtain hword | ⟨-, -, c, hc, hpoint⟩ := isFloatText_cases x.valid
  · have hwords : floatWords.all (fun cs => cs.any fun c => !(c.isDigit || c = '-')) := by
      decide
    obtain ⟨c, hc, hother⟩ := any_eq_true.mp (all_eq_true.mp hwords x.text hword)
    have hnumber := hint c hc
    simp only [Bool.not_eq_true', Bool.or_eq_false_iff, decide_eq_false_iff_not] at hother
    obtain hdigit | hdash := hnumber
    · rw [hother.1] at hdigit
      cases hdigit
    · exact hother.2 hdash
  · obtain rfl | rfl := hpoint
    · exact absurd (hint _ hc) (by decide)
    · exact absurd (hint _ hc) (by decide)

/-! ### The first character -/

/-- What the first character of a text tells about the document. -/
inductive Kind where
  | null
  | true
  | false
  | number
  | string
  | list
  | dict
  | stop
deriving DecidableEq

def kindOf (c : Char) : Kind :=
  if isStop c then .stop
  else if c = 'n' then .null
  else if c = 't' then .true
  else if c = 'f' then .false
  else if c = Str.doubleQuote then .string
  else if c = '[' then .list
  else if c = Char.ofNat 123 then .dict
  else .number

def kind : Json → Kind
  | .null => .null
  | .bool b => if b then .true else .false
  | .int _ | .float _ => .number
  | .str _ => .string
  | .list _ => .list
  | .dict _ => .dict

lemma kindOf_of_isDigit (h : c.isDigit) : kindOf c = .number := by
  have hne : ∀ d : Char, d.isDigit = false → c ≠ d := by
    rintro d hd rfl
    cases h.symm.trans hd
  simp only [kindOf, if_neg (not_isStop_of_isDigit h), if_neg (hne 'n' (by decide)), if_neg (hne 't' (by decide)),
    if_neg (hne 'f' (by decide)), if_neg (hne Str.doubleQuote (by decide)),
    if_neg (hne '[' (by decide)), if_neg (hne (Char.ofNat 123) (by decide))]

lemma kindOf_number (h : c.isDigit ∨ c = '-') : kindOf c = .number := by
  obtain h | rfl := h
  · exact kindOf_of_isDigit h
  · decide

lemma exists_head_int (n : ℤ) :
    ∃ c cs, (toString n).toList = c :: cs ∧ (c.isDigit ∨ c = '-') := by
  rw [toList_toString_int]
  split_ifs
  · cases hdigits : Nat.toDigits 10 n.natAbs with
    | nil => exact absurd hdigits Nat.toDigits_ne_nil
    | cons c cs =>
      refine ⟨c, cs, rfl, .inl (isDigit_of_mem_toDigits (n := n.natAbs) ?_)⟩
      rw [hdigits]
      exact mem_cons_self
  · exact ⟨'-', _, rfl, .inr rfl⟩

lemma exists_head_float (x : FloatText) : ∃ c cs, x.text = c :: cs ∧ kindOf c = .number := by
  obtain hword | ⟨-, ⟨c, hc, hnumber⟩, -⟩ := isFloatText_cases x.valid
  · have hwords : floatWords.all (fun cs => cs.head?.any fun c => kindOf c = .number) := by
      decide
    have hhead := all_eq_true.mp hwords x.text hword
    obtain ⟨c, hc, hkind⟩ := (Option.any_eq_true _ _).mp hhead
    obtain ⟨cs, hcs⟩ := head?_eq_some_iff.mp hc
    exact ⟨c, cs, hcs, of_decide_eq_true hkind⟩
  · obtain ⟨cs, hcs⟩ := head?_eq_some_iff.mp hc
    exact ⟨c, cs, hcs, kindOf_number hnumber⟩

lemma exists_head_text (v : Json) : ∃ c cs, v.text esc = c :: cs ∧ kindOf c = v.kind := by
  cases v with
  | null => exact ⟨_, _, rfl, by decide⟩
  | bool b =>
    cases b with
    | true | false => exact ⟨_, _, rfl, by decide⟩
  | int n =>
    obtain ⟨c, cs, htext, hnumber⟩ := exists_head_int n
    exact ⟨c, cs, htext, kindOf_number hnumber⟩
  | float x => exact exists_head_float x
  | str s => exact ⟨_, _, rfl, show kindOf Str.doubleQuote = .string by decide⟩
  | list items => exact ⟨_, _, rfl, show kindOf '[' = .list by decide⟩
  | dict fields => exact ⟨_, _, rfl, show kindOf (Char.ofNat 123) = .dict by decide⟩

lemma kind_cases (w : Json) : match w.kind with
    | .null => w = .null
    | .true => w = .bool true
    | .false => w = .bool false
    | .number => (∃ n, w = .int n) ∨ ∃ x, w = .float x
    | .string => ∃ s, w = .str s
    | .list => ∃ items, w = .list items
    | .dict => ∃ fields, w = .dict fields
    | .stop => False := by
  cases w with
  | null => rfl
  | bool b =>
    cases b with
    | true => rfl
    | false => rfl
  | int n => exact .inl ⟨n, rfl⟩
  | float x => exact .inr ⟨x, rfl⟩
  | str s => exact ⟨s, rfl⟩
  | list items => exact ⟨items, rfl⟩
  | dict fields => exact ⟨fields, rfl⟩

/-- Texts that start alike are texts of documents of one kind. -/
lemma kind_eq_of_text {w : Json} {r s : List Char} (h : v.text esc ++ r = w.text esc ++ s) :
    v.kind = w.kind := by
  obtain ⟨c, cs, hv, hkind⟩ := exists_head_text esc v
  obtain ⟨d, ds, hw, hkind'⟩ := exists_head_text esc w
  rw [hv, hw, cons_append, cons_append, cons.injEq] at h
  rw [← hkind, ← hkind', h.1]

/-- No document starts where one ends. -/
lemma text_opens (hc : isStop c) (v : Json) (r s : List Char) : v.text esc ++ r ≠ c :: s := by
  intro h
  obtain ⟨d, ds, hv, hkind⟩ := exists_head_text esc v
  rw [hv, cons_append, cons.injEq] at h
  have hstop : v.kind = .stop := by
    rw [← hkind, h.1, kindOf, if_pos hc]
  have hcases := kind_cases v
  rw [hstop] at hcases
  exact hcases

/-! ### Reading back -/

lemma number_cases (h : v.kind = .number) : (∃ n, v = .int n) ∨ ∃ x, v = .float x := by
  have hcases := kind_cases v
  rw [h] at hcases
  exact hcases

lemma not_isStop_of_mem_number (h : v.kind = .number) : ∀ c ∈ v.text esc, ¬ isStop c := by
  obtain ⟨n, rfl⟩ | ⟨x, rfl⟩ := number_cases h
  · exact fun c hc => not_isStop_of_mem_int hc
  · exact fun c hc => not_isStop_of_mem_float hc

lemma number_text_inj {w : Json} (hv : v.kind = .number) (hw : w.kind = .number)
    (h : v.text esc = w.text esc) : v = w := by
  obtain ⟨m, rfl⟩ | ⟨x, rfl⟩ := number_cases hv
  · obtain ⟨n, rfl⟩ | ⟨y, rfl⟩ := number_cases hw
    · rw [toString_int_injective h]
    · exact absurd h (int_ne_float m y)
  · obtain ⟨n, rfl⟩ | ⟨y, rfl⟩ := number_cases hw
    · exact absurd h.symm (int_ne_float n x)
    · obtain ⟨text, valid⟩ := x
      obtain rfl : text = y.text := h
      rfl

lemma readsBack_number (hv : v.kind = .number) : ReadsBack isStop (text esc) v := by
  intro w r s hr hs h
  have hw : w.kind = .number := (kind_eq_of_text esc h).symm.trans hv
  obtain ⟨htext, hrest⟩ := append_inj_of_stops (not_isStop_of_mem_number esc hv)
    (not_isStop_of_mem_number esc hw) hr hs h
  exact ⟨number_text_inj esc hv hw htext, hrest⟩

lemma readsBack_word (hv : ∀ w : Json, w.kind = v.kind → w = v) :
    ReadsBack isStop (text esc) v := by
  intro w r s _ _ h
  obtain rfl := hv w (kind_eq_of_text esc h).symm
  exact ⟨rfl, append_cancel_left h⟩

lemma textItems_eq_map (items : List Json) : textItems esc items = items.map (text esc) := by
  induction items with
  | nil => rfl
  | cons v vs ih => rw [textItems, ih, map_cons]

def fieldText (field : String × Json) : List Char := esc.string field.1 ++ ':' :: field.2.text esc

lemma textFields_eq_map (fields : List (String × Json)) :
    textFields esc fields = fields.map (fieldText esc) := by
  induction fields with
  | nil => rfl
  | cons field fields ih =>
    obtain ⟨k, v⟩ := field
    rw [textFields, ih, map_cons, fieldText]

lemma readsBack_field {k : String} (h : ReadsBack isStop (text esc) v) :
    ReadsBack isStop (fieldText esc) (k, v) := by
  rintro ⟨l, w⟩ r s hr hs heq
  simp only [fieldText, append_assoc, cons_append] at heq
  obtain ⟨rfl, hvalue⟩ := esc.string_inj heq
  obtain ⟨rfl, hrest⟩ := h w r s hr hs (cons.inj hvalue).2
  exact ⟨rfl, hrest⟩

lemma fieldText_opens (hc : c ≠ Str.doubleQuote) (field : String × Json) (r s : List Char) :
    fieldText esc field ++ r ≠ c :: s := by
  intro h
  simp only [fieldText, Escape.string, cons_append, cons.injEq] at h
  exact hc h.1.symm

lemma readsBack_str (t : String) : ReadsBack isStop (text esc) (.str t) := by
  intro w r s _ _ h
  have hcases := kind_cases w
  rw [← kind_eq_of_text esc h] at hcases
  obtain ⟨t', rfl⟩ := hcases
  obtain ⟨rfl, hrest⟩ := esc.string_inj h
  exact ⟨rfl, hrest⟩

lemma readsBack_list {items : List Json} (hitems : ∀ v ∈ items, ReadsBack isStop (text esc) v) :
    ReadsBack isStop (text esc) (.list items) := by
  intro w r s _ _ h
  have hcases := kind_cases w
  rw [← kind_eq_of_text esc h] at hcases
  obtain ⟨items', rfl⟩ := hcases
  simp only [text, textItems_eq_map, Str.join, cons_append, append_assoc, nil_append,
    cons.injEq, true_and] at h
  obtain ⟨rfl, hrest⟩ := intercalate_inj (show isStop ',' by decide) (show isStop ']' by decide)
    (by decide) (text_opens esc (by decide)) hitems h
  exact ⟨rfl, hrest⟩

/-- An object is read back if the values of its fields are. -/
lemma readsBack_dict {fields : List (String × Json)}
    (hfields : ∀ field ∈ fields, ReadsBack isStop (text esc) field.2) :
    ReadsBack isStop (text esc) (.dict fields) := by
  intro w r s _ _ h
  have hcases := kind_cases w
  rw [← kind_eq_of_text esc h] at hcases
  obtain ⟨fields', rfl⟩ := hcases
  simp only [text, textFields_eq_map, Str.join, cons_append, append_assoc,
    nil_append, cons.injEq, true_and] at h
  obtain ⟨rfl, hrest⟩ := intercalate_inj (show isStop ',' by decide)
    (show isStop (Char.ofNat 125) by decide) (by decide) (fieldText_opens esc (by decide))
    (fun field hfield => readsBack_field esc (hfields field hfield)) h
  exact ⟨rfl, hrest⟩

mutual

theorem readsBack_text : ∀ v : Json, ReadsBack isStop (text esc) v
  | .null | .bool true | .bool false => readsBack_word esc fun w hw => by
    have hcases := kind_cases w
    rw [hw] at hcases
    exact hcases
  | .int _ | .float _ => readsBack_number esc rfl
  | .str t => readsBack_str esc t
  | .list items => readsBack_list esc (readsBack_items items)
  | .dict fields => readsBack_dict esc (readsBack_values fields)

theorem readsBack_items : ∀ items : List Json, ∀ v ∈ items, ReadsBack isStop (text esc) v
  | [] => fun _ hv => absurd hv not_mem_nil
  | w :: items => by
    rintro v (_ | ⟨_, hv⟩)
    · exact readsBack_text w
    · exact readsBack_items items v hv

theorem readsBack_values : ∀ fields : List (String × Json),
    ∀ field ∈ fields, ReadsBack isStop (text esc) field.2
  | [] => fun _ hfield => absurd hfield not_mem_nil
  | (_, w) :: fields => by
    rintro field (_ | ⟨_, hfield⟩)
    · exact readsBack_text w
    · exact readsBack_values fields field hfield

end

/-- **Canonical text.** Two documents with the same text are the same. -/
theorem text_injective : Function.Injective (text esc) := by
  intro v w h
  refine (readsBack_text esc v w [] [] stops_nil stops_nil ?_).1
  rw [h]

end Json

end StatePort
