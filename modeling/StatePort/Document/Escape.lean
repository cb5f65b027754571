import StatePort.Document.Value

/-!
# Escapes in JSON strings

`json.dumps` escapes the characters of a string in one of two ways: under `ensure_ascii` everything
outside ASCII becomes `\uXXXX`, a pair of surrogates where one does not suffice, and without it only
quotes, backslashes and control characters are escaped. `readChar` reads one character back, and an
`Escape` is a way of writing that `readChar` inverts.
-/

namespace StatePort

open List Value Str

variable {c : Char}

/-! ### Reading -/

def hexValue (c : Char) : ℕ := if c.isDigit then c.toNat - 48 else c.toNat - 87

/-- The number that four hexadecimal digits write. -/
def hexValue4 (a b c d : Char) : ℕ :=
  4096 * hexValue a + 256 * hexValue b + 16 * hexValue c + hexValue d

/-- The character that two surrogates make. -/
def ofSurrogates (high low : ℕ) : Char :=
  Char.ofNat (0x10000 + (high - 0xd800) * 1024 + (low - 0xdc00))

/-- The first character of a JSON string, after its opening quote, and the rest of the text. -/
def readChar : List Char → Option (Char × List Char)
  | [] => none
  | c :: cs =>
    if c ≠ backslash then some (c, cs)
    else
      match cs with
      | 'n' :: rest => some ('\n', rest)
      | 'r' :: rest => some ('\r', rest)
      | 't' :: rest => some ('\t', rest)
      | 'f' :: rest => some (Char.ofNat 12, rest)
      | 'b' :: rest => some (Char.ofNat 8, rest)
      | 'u' :: a :: b :: c :: d :: rest =>
        let n := hexValue4 a b c d
        if 0xd800 ≤ n ∧ n < 0xdc00 then
          match rest with
          | _ :: _ :: e :: f :: g :: h :: rest => some (ofSurrogates n (hexValue4 e f g h), rest)
          | _ => none
        else some (Char.ofNat n, rest)
      | c :: rest => some (c, rest)
      | [] => none

/-! ### Writing -/

/-- How the characters of a JSON string are written: each can be read back, and none looks like the
closing quote. -/
structure Escape where
  write : Char → List Char
  readable : ∀ c rest, readChar (write c ++ rest) = some (c, rest)
  opens : ∀ c rest tail, write c ++ rest ≠ doubleQuote :: tail

/-- One character of a JSON string without `ensure_ascii`. -/
def rawChar (c : Char) : List Char :=
  let n := c.toNat
  if c = doubleQuote then [backslash, doubleQuote]
  else if c = backslash then [backslash, backslash]
  else if n = 10 then [backslash, 'n']
  else if n = 13 then [backslash, 'r']
  else if n = 9 then [backslash, 't']
  else if n = 12 then [backslash, 'f']
  else if n = 8 then [backslash, 'b']
  else if n < 32 then unicodeEscape n
  else [c]

lemma hexValue_digitChar : ∀ d < 16, hexValue (Nat.digitChar d) = d := by decide

lemma hexValue4_hex4 {n : ℕ} (h : n < 65536) :
    hexValue4 (Nat.digitChar (n / 4096 % 16)) (Nat.digitChar (n / 256 % 16))
      (Nat.digitChar (n / 16 % 16)) (Nat.digitChar (n % 16)) = n := by
  unfold hexValue4
  rw [hexValue_digitChar _ (by omega), hexValue_digitChar _ (by omega),
    hexValue_digitChar _ (by omega), hexValue_digitChar _ (by omega)]
  omega

/-- A character below the surrogates, or above them in the basic plane, is read back. -/
lemma readChar_unicodeEscape (h : c.toNat < 65536) (rest : List Char) :
    readChar (unicodeEscape c.toNat ++ rest) = some (c, rest) := by
  have hvalid : c.toNat < 0xd800 ∨ 0xdfff < c.toNat := by
    obtain hlow | ⟨hhigh, -⟩ := c.valid
    · exact .inl hlow
    · exact .inr hhigh
  have hnot : ¬ (0xd800 ≤ c.toNat ∧ c.toNat < 0xdc00) := by omega
  simp only [unicodeEscape, hex4, map_cons, map_nil, cons_append,
    nil_append, readChar, ne_eq, not_true_eq_false, if_false, hexValue4_hex4 h, if_neg hnot,
    Char.ofNat_toNat]

/-- A character above the basic plane is read back from its surrogates. -/
lemma readChar_surrogates (h : 65536 ≤ c.toNat) (rest : List Char) :
    readChar (unicodeEscape (0xd800 + (c.toNat - 0x10000) / 1024) ++
      unicodeEscape (0xdc00 + (c.toNat - 0x10000) % 1024) ++ rest) = some (c, rest) := by
  have hlt : c.toNat < 0x110000 := by
    obtain hlow | ⟨-, hhigh⟩ := c.valid
    · exact lt_trans hlow (by decide)
    · exact hhigh
  have hhigh : 0xd800 + (c.toNat - 0x10000) / 1024 < 65536 := by omega
  have hlow : 0xdc00 + (c.toNat - 0x10000) % 1024 < 65536 := by omega
  have hsurrogate : 0xd800 ≤ 0xd800 + (c.toNat - 0x10000) / 1024 ∧
      0xd800 + (c.toNat - 0x10000) / 1024 < 0xdc00 := by omega
  have hchar : 0x10000 + (0xd800 + (c.toNat - 0x10000) / 1024 - 0xd800) * 1024 +
      (0xdc00 + (c.toNat - 0x10000) % 1024 - 0xdc00) = c.toNat := by omega
  simp only [unicodeEscape, hex4, map_cons, map_nil, cons_append,
    nil_append, readChar, ne_eq, not_true_eq_false, if_false, hexValue4_hex4 hhigh,
    hexValue4_hex4 hlow, if_pos hsurrogate, ofSurrogates, hchar, Char.ofNat_toNat]

lemma eq_ofNat_of_toNat_eq {n : ℕ} (h : c.toNat = n) : c = Char.ofNat n := by
  rw [← h, Char.ofNat_toNat]

lemma readChar_rawChar (c : Char) (rest : List Char) :
    readChar (rawChar c ++ rest) = some (c, rest) := by
  unfold rawChar
  simp only
  split_ifs with hquote hbackslash hn hr ht hf hb hcontrol
  · rw [hquote]
    rfl
  · rw [hbackslash]
    rfl
  · rw [eq_ofNat_of_toNat_eq hn]
    rfl
  · rw [eq_ofNat_of_toNat_eq hr]
    rfl
  · rw [eq_ofNat_of_toNat_eq ht]
    rfl
  · rw [eq_ofNat_of_toNat_eq hf]
    rfl
  · rw [eq_ofNat_of_toNat_eq hb]
    rfl
  · exact readChar_unicodeEscape (by omega) rest
  · simp [readChar, hbackslash]

lemma rawChar_opens (c : Char) (rest tail : List Char) :
    rawChar c ++ rest ≠ doubleQuote :: tail := by
  have hne : backslash ≠ doubleQuote := by decide
  unfold rawChar
  simp only
  split_ifs with hquote
  all_goals simp [unicodeEscape, hne]
  exact fun h => absurd h hquote

/-- Below 127 the two ways of writing a character agree. -/
lemma jsonChar_eq_rawChar (h : c.toNat < 127) : jsonChar c = rawChar c := by
  unfold jsonChar rawChar
  simp only
  split_ifs
  all_goals first | rfl | omega

lemma jsonChar_of_le (h : 127 ≤ c.toNat) : jsonChar c =
    if c.toNat < 0x10000 then unicodeEscape c.toNat
    else unicodeEscape (0xd800 + (c.toNat - 0x10000) / 1024) ++
      unicodeEscape (0xdc00 + (c.toNat - 0x10000) % 1024) := by
  have hquote : c ≠ doubleQuote := by
    rintro rfl
    exact absurd h (by decide)
  have hbackslash : c ≠ backslash := by
    rintro rfl
    exact absurd h (by decide)
  unfold jsonChar
  simp only [if_neg hquote, if_neg hbackslash]
  rw [if_neg (by omega), if_neg (by omega), if_neg (by omega), if_neg (by omega), if_neg (by omega),
    if_neg (by omega)]

lemma readChar_jsonChar (c : Char) (rest : List Char) :
    readChar (jsonChar c ++ rest) = some (c, rest) := by
  obtain h | h := Nat.lt_or_ge c.toNat 127
  · rw [jsonChar_eq_rawChar h]
    exact readChar_rawChar c rest
  · rw [jsonChar_of_le h]
    split_ifs with hplane
    · exact readChar_unicodeEscape hplane rest
    · exact readChar_surrogates (not_lt.mp hplane) rest

lemma jsonChar_opens (c : Char) (rest tail : List Char) :
    jsonChar c ++ rest ≠ doubleQuote :: tail := by
  have hne : backslash ≠ doubleQuote := by decide
  obtain h | h := Nat.lt_or_ge c.toNat 127
  · rw [jsonChar_eq_rawChar h]
    exact rawChar_opens c rest tail
  · rw [jsonChar_of_le h]
    split_ifs
    all_goals simp [unicodeEscape, hne]

namespace Escape

/-- `ensure_ascii=True`. -/
def ascii : Escape := ⟨jsonChar, readChar_jsonChar, jsonChar_opens⟩

/-- `ensure_ascii=False`. -/
def raw : Escape := ⟨rawChar, readChar_rawChar, rawChar_opens⟩

def string (esc : Escape) (s : String) : List Char :=
  doubleQuote :: s.toList.flatMap esc.write ++ [doubleQuote]

end Escape

end StatePort
