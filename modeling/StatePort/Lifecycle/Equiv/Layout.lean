import StatePort.Lifecycle.Equiv.Documents

/-!
# The lines of a lifecycle document

`Document` is a mapping as the lifecycle code writes it. Its lines are given by their indentation
and their content (`layoutFields`); `_dump_yaml` writes exactly these, unless a number is too long
(`dumpFields_eq`). The lines are read as they were written (`exists_follows`), up to the first one
with a line break in it (`follows_of_break`). There is one exactly if a string has a line break
(`oneLine_below`).
-/

namespace StatePort

open List Str

variable {v : Value} {key : String} {keys : List String} {c : Char} {cs : List Char}
  {layout : List (ℕ × List Char)}

namespace Value

/-! ### Scalars inside a document -/

section

variable (p q : Value → Bool)

mutual

/-- Every scalar in a document satisfies `p`. -/
def allScalars : Value → Bool
  | .list items => allScalarsItems items
  | .dict fields => allScalarsFields fields
  | v => p v

def allScalarsItems : List Value → Bool
  | [] => true
  | v :: vs => v.allScalars && allScalarsItems vs

def allScalarsFields : List (String × Value) → Bool
  | [] => true
  | (_, v) :: vs => v.allScalars && allScalarsFields vs

end

variable {p q}

mutual

theorem allScalars_and : ∀ v : Value,
    allScalars (fun w => p w && q w) v = (allScalars p v && allScalars q v)
  | .null | .bool _ | .int _ | .str _ => rfl
  | .list items => allScalarsItems_and items
  | .dict fields => allScalarsFields_and fields

theorem allScalarsItems_and : ∀ items : List Value,
    allScalarsItems (fun w => p w && q w) items = (allScalarsItems p items && allScalarsItems q items)
  | [] => rfl
  | v :: vs => by
    rw [allScalarsItems, allScalars_and v, allScalarsItems_and vs, allScalarsItems, allScalarsItems]
    ac_rfl

theorem allScalarsFields_and : ∀ fields : List (String × Value),
    allScalarsFields (fun w => p w && q w) fields =
      (allScalarsFields p fields && allScalarsFields q fields)
  | [] => rfl
  | (_, v) :: vs => by
    rw [allScalarsFields, allScalars_and v, allScalarsFields_and vs, allScalarsFields,
      allScalarsFields]
    ac_rfl

end

end

/-! ### Strings inside a document -/

section

variable (f : String → String)

mutual

/-- The document with its strings replaced. -/
def mapStrings : Value → Value
  | .str s => .str (f s)
  | .list items => .list (mapStringsItems items)
  | .dict fields => .dict (mapStringsFields fields)
  | v => v

def mapStringsItems : List Value → List Value
  | [] => []
  | v :: vs => v.mapStrings :: mapStringsItems vs

def mapStringsFields : List (String × Value) → List (String × Value)
  | [] => []
  | (k, v) :: vs => (k, v.mapStrings) :: mapStringsFields vs

end

/-- Whether a scalar stays as it is. -/
def isKept : Value → Bool
  | .str s => f s = s
  | _ => true

variable {f}

mutual

/-- A document stays as it is if its strings do. -/
theorem mapStrings_eq_iff : ∀ v : Value, v.mapStrings f = v ↔ v.allScalars (isKept f)
  | .null | .bool _ | .int _ | .str s => by simp [mapStrings, allScalars, isKept]
  | .list items => by simp [mapStrings, allScalars, mapStringsItems_eq_iff items]
  | .dict fields => by simp [mapStrings, allScalars, mapStringsFields_eq_iff fields]

theorem mapStringsItems_eq_iff : ∀ items : List Value,
    mapStringsItems f items = items ↔ allScalarsItems (isKept f) items
  | [] => by simp [mapStringsItems, allScalarsItems]
  | v :: vs => by
    simp [mapStringsItems, allScalarsItems, mapStrings_eq_iff v, mapStringsItems_eq_iff vs]

theorem mapStringsFields_eq_iff : ∀ fields : List (String × Value),
    mapStringsFields f fields = fields ↔ allScalarsFields (isKept f) fields
  | [] => by simp [mapStringsFields, allScalarsFields]
  | (k, v) :: vs => by
    simp [mapStringsFields, allScalarsFields, mapStrings_eq_iff v, mapStringsFields_eq_iff vs]

end

lemma map_fst_mapStringsFields (fields : List (String × Value)) :
    (mapStringsFields f fields).map Prod.fst = fields.map Prod.fst := by
  induction fields with
  | nil => rfl
  | cons field fields ih => simp [mapStringsFields, ih]

end

/-! ### What is written after a colon or a dash -/

/-- A value that is written on lines of its own. -/
def isBlock : Value → Bool
  | .dict (_ :: _) | .list (_ :: _) => true
  | _ => false

def scalarText : Value → List Char
  | .null => "null".toList
  | .bool true => "true".toList
  | .bool false => "false".toList
  | .int n => (toString n).toList
  | .str s => Lifecycle.quote s
  | .list _ => ['[', ']']
  | .dict _ => [Char.ofNat 123, Char.ofNat 125]

/-- What follows the colon of a field. -/
def afterColon (v : Value) : List Char := if v.isBlock then [] else ' ' :: v.scalarText

lemma afterColon_block (h : v.isBlock) : v.afterColon = [] := if_pos h

lemma afterColon_scalar (h : v.isBlock = false) : v.afterColon = ' ' :: v.scalarText :=
  if_neg (by simp [h])

end Value

namespace Lifecycle

open Yaml Value

/-! ### Documents -/

/-- Keys as the lifecycle code uses them, in the order of a mapping. -/
structure AreKeys (keys : List String) : Prop where
  isKey : ∀ key ∈ keys, key.toList ≠ [] ∧ key.toList.all isKeyChar
  increasing : keys.Pairwise fun a b => isLess a b

instance (keys : List String) : Decidable (AreKeys keys) :=
  decidable_of_iff ((∀ key ∈ keys, key.toList ≠ [] ∧ key.toList.all isKeyChar) ∧
    keys.Pairwise fun a b => isLess a b) ⟨fun h => ⟨h.1, h.2⟩, fun h => ⟨h.1, h.2⟩⟩

mutual

def isFieldValue : Value → Bool
  | .dict fields => areFields fields && decide (AreKeys (fields.map Prod.fst))
  | .list items => areItems items
  | _ => true

def areFields : List (String × Value) → Bool
  | [] => true
  | (_, value) :: fields => isFieldValue value && areFields fields

def areItems : List Value → Bool
  | [] => true
  | item :: items => isItemValue item && areItems items

/-- An item of a list: a scalar or a mapping that is not empty. -/
def isItemValue : Value → Bool
  | .dict [] => false
  | .dict (field :: fields) =>
    areFields (field :: fields) && decide (AreKeys ((field :: fields).map Prod.fst))
  | .list _ => false
  | _ => true

end

/-- A document that the lifecycle code may write. -/
structure Document where
  fields : List (String × Value)
  valid : isFieldValue (.dict fields)

def Document.toValue (d : Document) : Value := .dict d.fields

lemma AreKeys.head (h : AreKeys (key :: keys)) : IsKey key :=
  ⟨(h.isKey key mem_cons_self).1, (h.isKey key mem_cons_self).2⟩

lemma AreKeys.tail (h : AreKeys (key :: keys)) : AreKeys keys :=
  ⟨fun k hk => h.isKey k (mem_cons_of_mem _ hk), (pairwise_cons.mp h.increasing).2⟩

lemma isLess_irrefl (s : String) : isLess s s = false := by
  rw [isLess_eq_false_iff]

lemma AreKeys.nodup (h : AreKeys keys) : keys.Nodup := by
  refine h.increasing.imp fun {a b} hab => ?_
  rintro rfl
  rw [isLess_irrefl] at hab
  cases hab

variable {fields : List (String × Value)}

/-- Fields whose keys increase are in the order of a mapping. -/
lemma AreKeys.ofFields_eq (h : AreKeys (fields.map Prod.fst)) :
    Value.ofFields fields = .dict fields := by
  refine congrArg Value.dict (List.Pairwise.insertionSort_eq ?_)
  refine (pairwise_map.mp h.increasing).imp fun {a b} hab => ?_
  rw [Value.fieldLE, Bool.not_eq_true', isLess_eq_false_iff]
  exact (isLess_iff.mp hab).le

/-! ### Lines -/

mutual

/-- The lines of a value below the one it starts on, by their indentation and content. -/
def below (indent : ℕ) : Value → List (ℕ × List Char)
  | .dict fields => layoutFields indent fields
  | .list items => layoutItems indent items
  | _ => []

def layoutFields (indent : ℕ) : List (String × Value) → List (ℕ × List Char)
  | [] => []
  | (key, value) :: fields =>
    (indent, key.toList ++ ':' :: value.afterColon) :: below (indent + 2) value ++
      layoutFields indent fields

def layoutItems (indent : ℕ) : List Value → List (ℕ × List Char)
  | [] => []
  | item :: items => layoutItem indent item ++ layoutItems indent items

def layoutItem (indent : ℕ) : Value → List (ℕ × List Char)
  | .dict ((first, value) :: fields) =>
    (indent, '-' :: ' ' :: (first.toList ++ ':' :: value.afterColon)) :: below (indent + 4) value ++
      layoutFields (indent + 2) fields
  | value => [(indent, '-' :: ' ' :: value.scalarText)]

end

lemma layoutItem_scalar (indent : ℕ) (h : v.isDict = false) :
    layoutItem indent v = [(indent, '-' :: ' ' :: v.scalarText)] := by
  cases v with
  | dict fields => cases h
  | _ => rfl

def rawLine (line : ℕ × List Char) : List Char := spaces line.1 ++ line.2

/-- Whether a scalar is written. -/
def isWritten : Value → Bool
  | .int n => isWritable n
  | _ => true

/-- `some a` under a condition. -/
def someIf {α : Type*} (c : Bool) (a : α) : Option α := if c then some a else none

lemma rendered_eq (hdict : v.isDict = false) (hlist : ∀ items, v ≠ .list items) :
    rendered v = someIf (isWritten v) v.scalarText := by
  cases v with
  | null => rfl
  | bool b => cases b <;> rfl
  | int n => simp [rendered, someIf, isWritten, scalarText]
  | str s => rfl
  | list items => exact absurd rfl (hlist items)
  | dict fields => cases hdict

lemma someIf_bind {α β : Type*} (c c' : Bool) (a : α) (b : β) (f : α → β → β) :
    ((someIf c a).bind fun x => (someIf c' b).bind fun y => some (f x y)) =
      someIf (c && c') (f a b) := by
  cases c <;> cases c' <;> rfl

lemma someIf_map {α β : Type*} (c : Bool) (a : α) (f : α → β) :
    ((someIf c a).bind fun x => some (f x)) = someIf c (f a) := by
  cases c <;> rfl

mutual

theorem dumpField_eq (head : List Char) (nested : ℕ) : ∀ v : Value, isFieldValue v →
    dumpField head nested v = someIf (v.allScalars isWritten)
      ((head ++ ':' :: v.afterColon) :: (below nested v).map rawLine)
  | .null, _ | .bool true, _ | .bool false, _ | .str _, _ => rfl
  | .int n, _ => by
    simp only [dumpField, rendered_eq (v := .int n) rfl (by simp), Option.bind_eq_bind,
      Option.pure_def, someIf_map]
    rfl
  | .list [], _ => rfl
  | .list (item :: items), h => by
    simp only [dumpField, dumpItems_eq nested (item :: items) h, Option.bind_eq_bind,
      Option.pure_def, someIf_map]
    rfl
  | .dict [], _ => rfl
  | .dict (field :: fields), h => by
    simp only [isFieldValue, Bool.and_eq_true] at h
    simp only [dumpField, dumpFields_eq nested (field :: fields) h.1, Option.bind_eq_bind,
      Option.pure_def, someIf_map]
    rfl

theorem dumpFields_eq (indent : ℕ) : ∀ fields : List (String × Value), areFields fields →
    dumpFields indent fields = someIf (allScalarsFields isWritten fields)
      ((layoutFields indent fields).map rawLine)
  | [], _ => rfl
  | (key, value) :: fields, h => by
    simp only [areFields, Bool.and_eq_true] at h
    simp only [dumpFields, dumpField_eq _ _ value h.1, dumpFields_eq indent fields h.2,
      Option.bind_eq_bind, Option.pure_def, someIf_bind]
    simp [allScalarsFields, layoutFields, rawLine]

theorem dumpItems_eq (indent : ℕ) : ∀ items : List Value, areItems items →
    dumpItems indent items = someIf (allScalarsItems isWritten items)
      ((layoutItems indent items).map rawLine)
  | [], _ => rfl
  | item :: items, h => by
    simp only [areItems, Bool.and_eq_true] at h
    simp only [dumpItems, dumpItem_eq indent item h.1, dumpItems_eq indent items h.2,
      Option.bind_eq_bind, Option.pure_def, someIf_bind]
    simp [allScalarsItems, layoutItems]

theorem dumpItem_eq (indent : ℕ) : ∀ v : Value, isItemValue v →
    dumpItem indent v = someIf (v.allScalars isWritten) ((layoutItem indent v).map rawLine)
  | .null, _ | .bool true, _ | .bool false, _ | .str _, _ => rfl
  | .int n, _ => by
    simp only [dumpItem, rendered_eq (v := .int n) rfl (by simp), Option.bind_eq_bind,
      Option.pure_def, someIf_map]
    rfl
  | .dict ((first, value) :: fields), h => by
    simp only [isItemValue, areFields, Bool.and_eq_true] at h
    simp only [dumpItem, dumpField_eq _ _ value h.1.1, dumpFields_eq (indent + 2) fields h.1.2,
      Option.bind_eq_bind, Option.pure_def, someIf_bind]
    simp [allScalars, allScalarsFields, layoutItem, rawLine]

end

/-! ### Line breaks -/

def stringBreaks (s : String) : ℕ := breaks s.toList

/-- Whether a scalar has no line break. -/
def isOneLine : Value → Bool
  | .str s => stringBreaks s = 0
  | _ => true

lemma oneLine_isKey (h : IsKey key) : OneLine key.toList :=
  fun c hc => isLineBreak_eq_false (isSpace_of_isKeyChar (h.chars c hc))

lemma oneLine_quote {s : String} : OneLine (quote s) ↔ stringBreaks s = 0 := by
  have hchar : ∀ c : Char, isLineBreak (if c = doubleQuote then apostrophe else c) =
      isLineBreak c := by
    intro c
    split_ifs with hc
    · rw [hc]
      rfl
    · rfl
  rw [stringBreaks, breaks_eq_zero_iff, quote, cons_append, oneLine_cons (by decide),
    oneLine_append]
  simp only [OneLine, forall_mem_map, hchar, forall_mem_singleton]
  exact and_iff_left (by decide)

lemma isDigit_or_dash {n : ℤ} (h : c ∈ (toString n).toList) :
    c.isDigit ∨ c = '-' := by
  rw [toList_toString_int, mem_append] at h
  obtain h | h := h
  · split_ifs at h
    · cases h
    · exact .inr (mem_singleton.mp h)
  · exact .inl (isDigit_of_mem_toDigits h)

lemma isKeyChar_of_mem_int {n : ℤ} (h : c ∈ (toString n).toList) :
    isKeyChar c := by
  obtain h | rfl := isDigit_or_dash h
  · simp [isKeyChar, Char.isAlphanum, h]
  · decide

lemma oneLine_scalarText (hblock : v.isBlock = false) :
    OneLine v.scalarText ↔ v.allScalars isOneLine := by
  have htext : ∀ {cs : List Char}, breaks cs = 0 → (OneLine cs ↔ true) := fun h =>
    iff_of_true (breaks_eq_zero_iff.mp h) rfl
  cases v with
  | null => exact htext (by decide)
  | bool b => cases b <;> exact htext (by decide)
  | int n =>
    exact iff_of_true
      (fun c hc => isLineBreak_eq_false (isSpace_of_isKeyChar (isKeyChar_of_mem_int hc))) rfl
  | str s => simpa [scalarText, allScalars, isOneLine] using oneLine_quote
  | list items =>
    cases items with
    | nil => exact htext (by decide)
    | cons item items => cases hblock
  | dict fields =>
    cases fields with
    | nil => exact htext (by decide)
    | cons field fields => cases hblock

mutual

/-- The lines of a value have no line break exactly if its strings do not. -/
theorem oneLine_below (indent : ℕ) : ∀ v : Value, isFieldValue v →
    (OneLine v.afterColon ∧ (∀ line ∈ below indent v, OneLine line.2) ↔ v.allScalars isOneLine)
  | .null, _ | .bool _, _ | .int _, _ | .str _, _ | .list [], _ | .dict [], _ => by
    rw [afterColon_scalar rfl, oneLine_cons (by decide), oneLine_scalarText rfl]
    simp [below, layoutFields, layoutItems]
  | .list (item :: items), h => by
    rw [afterColon_block rfl, below, oneLine_items indent (item :: items) h]
    simp [OneLine, allScalars]
  | .dict (field :: fields), h => by
    simp only [isFieldValue, Bool.and_eq_true, decide_eq_true_eq] at h
    rw [afterColon_block rfl, below, oneLine_fields indent (field :: fields) h.2 h.1]
    simp [OneLine, allScalars]

theorem oneLine_fields (indent : ℕ) : ∀ fields : List (String × Value),
    AreKeys (fields.map Prod.fst) → areFields fields →
    ((∀ line ∈ layoutFields indent fields, OneLine line.2) ↔ allScalarsFields isOneLine fields)
  | [], _, _ => by simp [layoutFields, allScalarsFields]
  | (key, value) :: fields, hkeys, h => by
    simp only [areFields, Bool.and_eq_true] at h
    have hkey := oneLine_isKey hkeys.head
    rw [allScalarsFields, Bool.and_eq_true, ← oneLine_below (indent + 2) value h.1,
      ← oneLine_fields indent fields hkeys.tail h.2]
    simp [layoutFields, or_imp, forall_and, oneLine_append, hkey,
      oneLine_cons (c := ':') (by decide), and_assoc]

theorem oneLine_items (indent : ℕ) : ∀ items : List Value, areItems items →
    ((∀ line ∈ layoutItems indent items, OneLine line.2) ↔ allScalarsItems isOneLine items)
  | [], _ => by simp [layoutItems, allScalarsItems]
  | item :: items, h => by
    simp only [areItems, Bool.and_eq_true] at h
    rw [allScalarsItems, Bool.and_eq_true, ← oneLine_item indent item h.1,
      ← oneLine_items indent items h.2, layoutItems, forall_mem_append]

theorem oneLine_item (indent : ℕ) : ∀ v : Value, isItemValue v →
    ((∀ line ∈ layoutItem indent v, OneLine line.2) ↔ v.allScalars isOneLine)
  | .null, _ | .bool _, _ | .int _, _ | .str _, _ => by
    rw [layoutItem_scalar indent rfl, forall_mem_singleton, oneLine_cons (by decide),
      oneLine_cons (by decide), oneLine_scalarText rfl]
  | .dict ((first, value) :: fields), h => by
    simp only [isItemValue, areFields, Bool.and_eq_true, decide_eq_true_eq] at h
    have hkey := oneLine_isKey h.2.head
    rw [allScalars, allScalarsFields, Bool.and_eq_true, ← oneLine_below (indent + 4) value h.1.1,
      ← oneLine_fields (indent + 2) fields h.2.tail h.1.2]
    simp [layoutItem, or_imp, forall_and, oneLine_append, hkey,
      oneLine_cons (c := ':') (by decide), oneLine_cons (c := '-') (by decide),
      oneLine_cons (c := ' ') (by decide), and_assoc]

end

/-! ### Lines as they are read -/

/-- A line that starts with a character of a key or a dash, and does not end with white space. -/
structure Placed (line : ℕ × List Char) : Prop where
  head : ∃ c, line.2.head? = some c ∧ isKeyChar c
  last : ∃ c, line.2.getLast? = some c ∧ isSpace c = false

lemma Placed.trimmed {line : ℕ × List Char} (h : Placed line) : Trimmed line.2 := by
  obtain ⟨c, hc, hkey⟩ := h.head
  exact ⟨⟨c, hc, isSpace_of_isKeyChar hkey⟩, h.last⟩

lemma trimmed_of_forall (hne : cs ≠ []) (h : ∀ c ∈ cs, isSpace c = false) : Trimmed cs :=
  ⟨⟨_, head?_eq_some_head hne, h _ (head_mem _)⟩,
    ⟨_, getLast?_eq_some_getLast hne, h _ (getLast_mem _)⟩⟩

lemma trimmed_of_all (hne : cs ≠ []) (h : cs.all (fun c => !isSpace c)) : Trimmed cs :=
  trimmed_of_forall hne fun c hc => by simpa using all_eq_true.mp h c hc

lemma trimmed_scalarText (v : Value) : Trimmed v.scalarText := by
  cases v with
  | null => exact trimmed_of_all (by decide) (by decide)
  | bool b => cases b <;> exact trimmed_of_all (by decide) (by decide)
  | int n =>
    refine trimmed_of_forall ?_ fun c hc => isSpace_of_isKeyChar (isKeyChar_of_mem_int hc)
    rw [scalarText, toList_toString_int]
    simp [Nat.toDigits_ne_nil]
  | str s => exact trimmed_quote s
  | list items => exact (trimmed_of_all (by decide) (by decide) : Trimmed ['[', ']'])
  | dict fields =>
    exact (trimmed_of_all (by decide) (by decide) : Trimmed [Char.ofNat 123, Char.ofNat 125])

lemma placed_append {indent : ℕ} {a b : List Char} (hhead : a.head? = some c)
    (hc : isKeyChar c) (hlast : ∃ d, b.getLast? = some d ∧ isSpace d = false) :
    Placed (indent, a ++ b) := by
  obtain ⟨d, hd, hspace⟩ := hlast
  refine ⟨⟨c, ?_, hc⟩, d, ?_, hspace⟩
  · rw [head?_append, hhead, Option.some_or]
  · rw [getLast?_append, hd, Option.some_or]

/-- The line of a field ends with its colon or its value. -/
lemma getLast?_afterColon (v : Value) :
    ∃ d, (':' :: v.afterColon).getLast? = some d ∧ isSpace d = false := by
  cases hblock : v.isBlock with
  | true =>
    rw [afterColon_block hblock]
    exact ⟨':', rfl, by decide⟩
  | false =>
    obtain ⟨d, hd, hspace⟩ := (trimmed_scalarText v).last
    have happend : ':' :: ' ' :: v.scalarText = [':', ' '] ++ v.scalarText := rfl
    rw [afterColon_scalar hblock, happend, getLast?_append, hd, Option.some_or]
    exact ⟨d, rfl, hspace⟩

lemma placed_field (hkey : IsKey key) (v : Value) (indent : ℕ) :
    Placed (indent, key.toList ++ ':' :: v.afterColon) :=
  placed_append (head?_eq_some_head hkey.ne_nil) (hkey.chars _ (head_mem _)) (getLast?_afterColon v)

lemma placed_scalar (v : Value) (indent : ℕ) : Placed (indent, '-' :: ' ' :: v.scalarText) :=
  placed_append (a := ['-', ' ']) (c := '-') rfl (by decide) (trimmed_scalarText v).last

mutual

theorem placed_below (indent : ℕ) : ∀ v : Value, isFieldValue v →
    ∀ line ∈ below indent v, Placed line
  | .null, _ | .bool _, _ | .int _, _ | .str _, _ => by simp [below]
  | .list items, h => placed_items indent items h
  | .dict fields, h => by
    simp only [isFieldValue, Bool.and_eq_true, decide_eq_true_eq] at h
    exact placed_fields indent fields h.2 h.1

theorem placed_fields (indent : ℕ) : ∀ fields : List (String × Value),
    AreKeys (fields.map Prod.fst) → areFields fields →
    ∀ line ∈ layoutFields indent fields, Placed line
  | [], _, _ => by simp [layoutFields]
  | (key, value) :: fields, hkeys, h => by
    simp only [areFields, Bool.and_eq_true] at h
    simp only [layoutFields, cons_append, forall_mem_cons, forall_mem_append]
    exact ⟨placed_field hkeys.head value indent, placed_below (indent + 2) value h.1,
      placed_fields indent fields hkeys.tail h.2⟩

theorem placed_items (indent : ℕ) : ∀ items : List Value, areItems items →
    ∀ line ∈ layoutItems indent items, Placed line
  | [], _ => by simp [layoutItems]
  | item :: items, h => by
    simp only [areItems, Bool.and_eq_true] at h
    simp only [layoutItems, forall_mem_append]
    exact ⟨placed_item indent item h.1, placed_items indent items h.2⟩

theorem placed_item (indent : ℕ) : ∀ v : Value, isItemValue v →
    ∀ line ∈ layoutItem indent v, Placed line
  | .null, _ | .bool _, _ | .int _, _ | .str _, _ => by
    rw [layoutItem_scalar indent rfl, forall_mem_singleton]
    exact placed_scalar _ indent
  | .dict ((first, value) :: fields), h => by
    simp only [isItemValue, areFields, Bool.and_eq_true, decide_eq_true_eq] at h
    simp only [layoutItem, cons_append, forall_mem_cons, forall_mem_append]
    exact ⟨placed_append (a := '-' :: ' ' :: first.toList) (c := '-') rfl (by decide)
      (getLast?_afterColon value), placed_below (indent + 4) value h.1.1,
      placed_fields (indent + 2) fields h.2.tail h.1.2⟩

end

def place (line : Line) : ℕ × List Char := (line.indent, line.content)

/-- White space is stripped only after the last other character. -/
lemma rstrip_append (a : List Char) (hc : isSpace c = false) (cs : List Char) :
    rstrip (a ++ c :: cs) = a ++ c :: rstrip cs := by
  have hstop : List.dropWhile isSpace (c :: a.reverse) = c :: a.reverse :=
    dropWhile_cons_of_neg (by simp [hc])
  rw [rstrip, rstrip, reverse_append, reverse_cons, append_assoc,
    singleton_append, dropWhile_append, hstop]
  split_ifs with hnil
  · rw [isEmpty_iff.mp hnil]
    simp
  · simp

/-- A line that is no comment is read at its indentation. -/
lemma preprocessLine_rawLine (hspace : isSpace c = false) (hhash : c ≠ '#') (indent : ℕ)
    (cs : List Char) (lineno : ℕ) : preprocessLine (rawLine (indent, c :: cs)) lineno =
      .ok (some ⟨indent, rstrip (c :: cs), lineno⟩) := by
  have hne : c ≠ ' ' := by
    rintro rfl
    cases hspace
  have hspaces : ∀ d ∈ spaces indent, d = ' ' := fun d hd => (mem_replicate.mp hd).2
  have hindent : indentOf (rawLine (indent, c :: cs)) = indent := by
    rw [indentOf, rawLine, takeWhile_append_of_pos fun d hd => decide_eq_true (hspaces d hd)]
    simp [hne, spaces]
  have hstrip : lstrip (rawLine (indent, c :: cs)) = c :: cs := by
    rw [rawLine, lstrip, dropWhile_append_of_pos fun d hd => by rw [hspaces d hd]; decide,
      dropWhile_cons_of_neg (by simp [hspace])]
  have hdrop : (rawLine (indent, c :: cs)).drop indent = c :: cs := by
    rw [rawLine, drop_left' (by simp [spaces])]
  have htab : '\t' ∉ (rawLine (indent, c :: cs)).take indent := by
    rw [rawLine, take_left' (by simp [spaces])]
    exact fun hmem => absurd (hspaces _ hmem) (by decide)
  have hright : rstrip (c :: cs) = c :: rstrip cs := rstrip_append [] hspace cs
  have hcomment : (c :: rstrip cs).head? ≠ some '#' :=
    fun heq => hhash (Option.some.inj heq)
  simp only [preprocessLine, hindent, hstrip, hdrop, if_neg htab, hright, if_neg hcomment]
  rfl

lemma Placed.preprocessLine_eq {line : ℕ × List Char} (h : Placed line) (lineno : ℕ) :
    preprocessLine (rawLine line) lineno = .ok (some ⟨line.1, line.2, lineno⟩) := by
  obtain ⟨indent, cs⟩ := line
  obtain ⟨c, hc, hkey⟩ := h.head
  have hstrip := h.trimmed.rstrip
  cases cs with
  | nil => cases hc
  | cons d cs =>
    cases hc
    rw [preprocessLine_rawLine (isSpace_of_isKeyChar hkey) (ne_of_isKeyChar hkey (by decide))]
    exact congrArg (fun cs => Except.ok (some (Line.mk indent cs lineno))) hstrip

/-- What is left of a line that ends at its first line break. -/
def cut (cs : List Char) : List Char := rstrip (cs.takeWhile fun c => !isLineBreak c)

lemma oneLine_cut (cs : List Char) : OneLine (cut cs) :=
  fun _ hc => by simpa using mem_takeWhile_imp (rstrip_subset _ hc)

lemma cut_append {a : List Char} (ha : OneLine a) (hc : isSpace c = false) (cs : List Char) :
    cut (a ++ c :: cs) = a ++ c :: cut cs := by
  rw [cut, takeWhile_append_of_pos fun d hd => by rw [ha d hd]; rfl,
    takeWhile_cons_of_pos (by simp [isLineBreak_eq_false hc]), rstrip_append a hc, cut]

lemma rstrip_cut (cs : List Char) : rstrip (cut cs) = cut cs := by
  rw [cut, rstrip, rstrip, reverse_reverse, dropWhile_idempotent]

/-- The lines follow the layout to its end, where `rest` is left, or up to a line that is cut. -/
inductive Follows : List (ℕ × List Char) → List Line → Option (List Line) → Prop
  | done (rest : List Line) : Follows [] rest (some rest)
  | cut {p : ℕ × List Char} {layout : List (ℕ × List Char)} {line : Line} {lines : List Line}
      (hbreak : ¬ OneLine p.2) (hline : place line = (p.1, cut p.2)) (hne : cut p.2 ≠ []) :
      Follows (p :: layout) (line :: lines) none
  | next {p : ℕ × List Char} {layout : List (ℕ × List Char)} {line : Line} {lines : List Line}
      {tail : Option (List Line)} (hline : place line = p) (h : Follows layout lines tail) :
      Follows (p :: layout) (line :: lines) tail

/-- The text of lines, each of which ends with a newline. -/
def textOf (layout : List (ℕ × List Char)) : List Char :=
  (layout.map rawLine).flatMap fun line => line ++ ['\n']

lemma oneLine_spaces (n : ℕ) : OneLine (spaces n) := by
  intro c hc
  rw [(mem_replicate.mp hc).2]
  decide

lemma splitlines_textOf (h : ∀ line ∈ layout, OneLine line.2) :
    splitlines (textOf layout) = layout.map rawLine := by
  refine splitlines_flatMap fun raw hraw => ?_
  obtain ⟨line, hline, rfl⟩ := mem_map.mp hraw
  exact oneLine_append.mpr ⟨oneLine_spaces _, h line hline⟩

lemma follows_map_rawLine (h : ∀ p ∈ layout, Placed p) (lineno : ℕ) :
    ∃ lines, preprocessFrom lineno (layout.map rawLine) = .ok lines ∧
      Follows layout lines (some []) := by
  induction layout generalizing lineno with
  | nil => exact ⟨[], rfl, .done []⟩
  | cons p layout ih =>
    obtain ⟨lines, hlines, hfollows⟩ := ih (fun p hp => h p (mem_cons_of_mem _ hp)) (lineno + 1)
    refine ⟨⟨p.1, p.2, lineno⟩ :: lines, ?_, .next rfl hfollows⟩
    rw [map_cons, preprocessFrom, (h p mem_cons_self).preprocessLine_eq, ok_bind, hlines]
    rfl

/-- The lines that are written are the lines that are read. -/
lemma exists_follows (h : ∀ p ∈ layout, Placed p) (hone : ∀ p ∈ layout, OneLine p.2) :
    ∃ lines, preprocessYaml (textOf layout) = .ok lines ∧ Follows layout lines (some []) := by
  rw [preprocessYaml, splitlines_textOf hone]
  exact follows_map_rawLine h 1

lemma splitlinesFrom_cut (h : ¬ OneLine cs) (line rest : List Char) :
    ∃ more, splitlinesFrom line (cs ++ rest) =
      (line.reverse ++ cs.takeWhile fun c => !isLineBreak c) :: more := by
  induction cs generalizing line with
  | nil => exact absurd (by simp [OneLine]) h
  | cons c cs ih =>
    rw [cons_append]
    by_cases hc : isLineBreak c
    · rw [takeWhile_cons_of_neg (by simp [hc]), append_nil]
      generalize cs ++ rest = ds
      unfold splitlinesFrom
      split
      · contradiction
      · exact ⟨_, rfl⟩
      · rename_i heq
        obtain ⟨rfl, rfl⟩ := List.cons.inj heq
        exact ⟨_, if_pos hc⟩
    · rw [Bool.not_eq_true] at hc
      obtain ⟨more, hmore⟩ := ih (fun hcs => h ((oneLine_cons hc).mpr hcs)) (c :: line)
      refine ⟨more, ?_⟩
      rw [splitlinesFrom, if_neg (by simp [hc]), hmore, takeWhile_cons_of_pos (by simp [hc])]
      · simp
      · rintro ds rfl
        simp [isLineBreak] at hc

/-- A text with a line break in a line follows the layout up to there. -/
lemma follows_of_break (h : ∀ p ∈ layout, Placed p) (hbreak : ¬ ∀ p ∈ layout, OneLine p.2)
    {lineno : ℕ} {lines : List Line}
    (hlines : preprocessFrom lineno (splitlines (textOf layout)) = .ok lines) :
    Follows layout lines none := by
  induction layout generalizing lineno lines with
  | nil => exact absurd (by simp) hbreak
  | cons p layout ih =>
    have hplaced := h p mem_cons_self
    have htext : textOf (p :: layout) = rawLine p ++ '\n' :: textOf layout := by
      simp [textOf]
    rw [htext, splitlines] at hlines
    by_cases hp : OneLine p.2
    · have hraw : OneLine (rawLine p) := oneLine_append.mpr ⟨oneLine_spaces _, hp⟩
      rw [splitlinesFrom_append hraw, preprocessFrom,
        reverse_nil, nil_append, hplaced.preprocessLine_eq] at hlines
      simp only [ok_bind, eq_ok_iff] at hlines
      obtain ⟨lines, hlines, rfl⟩ := hlines
      refine .next rfl (ih (fun p hp => h p (mem_cons_of_mem _ hp)) (fun hall => ?_) hlines)
      exact hbreak (forall_mem_cons.mpr ⟨hp, hall⟩)
    · obtain ⟨indent, cs⟩ := p
      obtain ⟨c, hc, hkey⟩ := hplaced.head
      have hspace := isSpace_of_isKeyChar hkey
      cases cs with
      | nil => cases hc
      | cons d cs =>
        obtain rfl := Option.some.inj hc
        have hraw : ¬ OneLine (rawLine (indent, d :: cs)) :=
          fun hraw => hp (oneLine_append.mp hraw).2
        obtain ⟨more, hmore⟩ := splitlinesFrom_cut hraw [] ('\n' :: textOf layout)
        have hfirst : (rawLine (indent, d :: cs)).takeWhile (fun c => !isLineBreak c) =
            rawLine (indent, d :: cs.takeWhile fun c => !isLineBreak c) := by
          rw [rawLine, takeWhile_append_of_pos fun c hc => by rw [oneLine_spaces _ c hc]; rfl,
            takeWhile_cons_of_pos (by simp [isLineBreak_eq_false hspace])]
          rfl
        have hcut : cut (d :: cs) = d :: cut cs := cut_append (a := []) (by simp [OneLine]) hspace cs
        rw [hmore, reverse_nil, nil_append, preprocessFrom, hfirst,
          preprocessLine_rawLine hspace (ne_of_isKeyChar hkey (by decide))] at hlines
        simp only [ok_bind, eq_ok_iff] at hlines
        obtain ⟨lines, -, rfl⟩ := hlines
        refine .cut hp ?_ (by simp [hcut])
        rw [cut, takeWhile_cons_of_pos (by simp [isLineBreak_eq_false hspace])]
        rfl

lemma payload_eq (hne : fields ≠ []) (hvalid : areFields fields) :
    payload (.dict fields) = someIf (allScalarsFields isWritten fields)
      (textOf (layoutFields 0 fields)) := by
  obtain ⟨⟨key, value⟩, fields, rfl⟩ := exists_cons_of_ne_nil hne
  have hlayout : (layoutFields 0 ((key, value) :: fields)).map rawLine ≠ [] := by
    simp [layoutFields]
  simp only [payload, dumpYaml, Value.fields, dumpFields_eq 0 _ hvalid, Option.bind_eq_bind,
    Option.pure_def, someIf_map, join_append_newline hlayout]
  rfl

end Lifecycle

end StatePort
