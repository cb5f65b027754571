import Mathlib

/-!
# Python strings, paths and numbers

The string methods that the modelled code calls, on the code points of a text, the parts of a
`PurePosixPath`, and the numbers it is given.
-/

namespace StatePort

open Nat

instance lawfulBEqListChar : LawfulBEq (List Char) := inferInstance

instance lawfulBEqListString : LawfulBEq (List String) := inferInstance

namespace Str

/-- `c.isspace()`: the code points that `str.strip` and `str.split` take for white space. -/
def isSpace (c : Char) : Bool :=
  let n := c.toNat
  (9 ≤ n && n ≤ 13) || (28 ≤ n && n ≤ 32) || n == 0x85 || n == 0xa0 || n == 0x1680 ||
    (0x2000 ≤ n && n ≤ 0x200a) || n == 0x2028 || n == 0x2029 || n == 0x202f || n == 0x205f ||
    n == 0x3000

variable (cs : List Char)

/-- `cs.lstrip()`. -/
def lstrip : List Char := cs.dropWhile isSpace

/-- `cs.rstrip()`. -/
def rstrip : List Char := (cs.reverse.dropWhile isSpace).reverse

/-- `s.strip()`. -/
def strip (s : String) : String := String.ofList (rstrip (lstrip s.toList))

/-- `s.startswith(p)`. -/
def startsWith (s p : String) : Bool := p.toList.isPrefixOf s.toList

/-- `s.endswith(p)`. -/
def endsWith (s p : String) : Bool := p.toList.isSuffixOf s.toList

lemma startsWith_iff {s p : String} : startsWith s p ↔ p.toList <+: s.toList := by
  simp [startsWith]

/-- A text without white space is its own stripping. -/
lemma strip_eq_self {s : String} (h : ∀ c ∈ s.toList, isSpace c = false) : strip s = s := by
  have hdrop : ∀ {cs : List Char}, (∀ c ∈ cs, isSpace c = false) → cs.dropWhile isSpace = cs := by
    intro cs hcs
    cases cs with
    | nil => rfl
    | cons c cs => simp [hcs c List.mem_cons_self]
  rw [strip, rstrip, lstrip, hdrop h, hdrop (by simpa using h), List.reverse_reverse,
    String.ofList_toList]

lemma isSpace_of_isAlphanum {c : Char} (h : c.isAlphanum) : isSpace c = false := by
  simp only [Char.isAlphanum, Char.isAlpha, Char.isUpper, Char.isLower, Char.isDigit,
    Bool.or_eq_true, Bool.and_eq_true, decide_eq_true_eq, ge_iff_le, UInt32.le_iff_toNat_le] at h
  change ((65 ≤ c.toNat ∧ c.toNat ≤ 90) ∨ (97 ≤ c.toNat ∧ c.toNat ≤ 122)) ∨
    (48 ≤ c.toNat ∧ c.toNat ≤ 57) at h
  simp only [isSpace, Bool.or_eq_false_iff, Bool.and_eq_false_iff, decide_eq_false_iff_not,
    beq_eq_false_iff_ne]
  omega

/-- The characters that Lean and Python both escape in a literal. -/
def doubleQuote : Char := Char.ofNat 34

def apostrophe : Char := Char.ofNat 39

def backslash : Char := Char.ofNat 92

/-- The line boundaries of `str.splitlines`. -/
def isLineBreak (c : Char) : Bool :=
  let n := c.toNat
  (10 ≤ n && n ≤ 13) || (28 ≤ n && n ≤ 30) || n == 0x85 || n == 0x2028 || n == 0x2029

/-- `cs.splitlines()`; `line` is the current line, reversed. -/
def splitlinesFrom (line : List Char) : List Char → List (List Char)
  | [] => if line = [] then [] else [line.reverse]
  | '\r' :: '\n' :: cs => line.reverse :: splitlinesFrom [] cs
  | c :: cs =>
    if isLineBreak c then line.reverse :: splitlinesFrom [] cs else splitlinesFrom (c :: line) cs

/-- `cs.splitlines()`. -/
def splitlines : List (List Char) := splitlinesFrom [] cs

/-- `sep.join(parts)`. -/
def join (sep : List Char) (parts : List (List Char)) : List Char := List.intercalate sep parts

/-- `a < b` for two sequences whose elements are compared by `lt`. -/
def lexLT {α : Type*} (lt : α → α → Bool) : List α → List α → Bool
  | _, [] => false
  | [], _ :: _ => true
  | a :: as, b :: bs => lt a b || (!lt b a && lexLT lt as bs)

/-- `s < t`, by code points. -/
def isLess (s t : String) : Bool := lexLT (fun c d => decide (c.toNat < d.toNat)) s.toList t.toList

/-- The order of sequences whose elements are compared by a number is that of the sequences of
numbers. -/
lemma lexLT_iff {α : Type*} (f : α → ℕ) (as bs : List α) :
    lexLT (fun a b => decide (f a < f b)) as bs ↔ as.map f < bs.map f := by
  induction as generalizing bs with
  | nil => cases bs <;> simp [lexLT]
  | cons a as ih =>
    cases bs with
    | nil => simp [lexLT]
    | cons b bs =>
      simp only [lexLT, List.map_cons, List.cons_lt_cons_iff, Bool.or_eq_true, Bool.and_eq_true,
        decide_eq_true_eq, Bool.not_eq_true', decide_eq_false_iff_not, ih]
      constructor
      · rintro (h | ⟨h, h'⟩)
        · exact .inl h
        · by_cases hlt : f a < f b
          · exact .inl hlt
          · exact .inr ⟨by omega, h'⟩
      · rintro (h | ⟨h, h'⟩)
        · exact .inl h
        · exact .inr ⟨by omega, h'⟩

/-- The code points of a text. -/
def codes (s : String) : List ℕ := s.toList.map Char.toNat

lemma isLess_iff {s t : String} : isLess s t ↔ codes s < codes t := lexLT_iff _ _ _

lemma isLess_eq_false_iff {s t : String} : isLess s t = false ↔ codes t ≤ codes s := by
  rw [← Bool.not_eq_true, isLess_iff, not_lt]

/-- `cs.lower()`, for a comparison with an ASCII word: no other code point is lowered to a letter of
the words that occur. -/
def lower : List Char := cs.map Char.toLower

/-- The code points of the digit zero in each script, after which the other nine follow. -/
def digitZeros : List ℕ :=
  [0x30, 0x660, 0x6f0, 0x7c0, 0x966, 0x9e6, 0xa66, 0xae6, 0xb66, 0xbe6, 0xc66, 0xce6, 0xd66, 0xde6,
    0xe50, 0xed0, 0xf20, 0x1040, 0x1090, 0x17e0, 0x1810, 0x1946, 0x19d0, 0x1a80, 0x1a90, 0x1b50,
    0x1bb0, 0x1c40, 0x1c50, 0xa620, 0xa8d0, 0xa900, 0xa9d0, 0xa9f0, 0xaa50, 0xabf0, 0xff10, 0x104a0,
    0x10d30, 0x11066, 0x110f0, 0x11136, 0x111d0, 0x112f0, 0x11450, 0x114d0, 0x11650, 0x116c0,
    0x11730, 0x118e0, 0x11950, 0x11c50, 0x11d50, 0x11da0, 0x11f50, 0x16a60, 0x16ac0, 0x16b50,
    0x1d7ce, 0x1d7d8, 0x1d7e2, 0x1d7ec, 0x1d7f6, 0x1e140, 0x1e2f0, 0x1e4f0, 0x1e950, 0x1fbf0]

/-- The value of a decimal digit, `none` for a character that `\d` does not match. -/
def digit? (c : Char) : Option ℕ :=
  (digitZeros.find? fun z => z ≤ c.toNat && c.toNat ≤ z + 9).map fun z => c.toNat - z

/-- Whether `re.fullmatch(r"\d+", cs)`. -/
def isDigits : Bool := cs ≠ [] && cs.all fun c => (digit? c).isSome

/-- The number that a string of digits writes. -/
def ofDigits : ℕ := cs.foldl (fun n c => 10 * n + (digit? c).getD 0) 0

/-- Whether `item` occurs in `value`. -/
def hasSubstring (value item : String) : Bool :=
  value.toList.tails.any fun t => item.toList.isPrefixOf t

end Str

/-- The parts of `PurePosixPath(value)`: empty and `.` components are dropped. -/
def pathParts (value : String) : List (List Char) :=
  (value.toList.splitOn '/').filter fun part => part ≠ [] ∧ part ≠ ['.']

/-- An `int` or `float`: a finite one is a rational number, and arithmetic on it is exact. -/
inductive Number where
  | finite (value : ℚ)
  | infinity
  | negInfinity
  | nan
deriving DecidableEq

/-- The value of a finite, non-negative number. -/
def Number.nonneg? : Number → Option ℚ≥0
  | finite q => if 0 ≤ q then some q.toNNRat else none
  | _ => none

/-- `x < 0`. -/
def Number.isNegative : Number → Bool
  | finite q => q < 0
  | negInfinity => true
  | _ => false

@[simp] lemma Number.nonneg?_finite (q : ℚ≥0) : (finite (q : ℚ)).nonneg? = some q := by
  simp [nonneg?]

/-! ### The text of an integer -/

/-- The text of an integer: a sign and digits. -/
lemma toList_toString_int (n : ℤ) :
    (toString n).toList = (if 0 ≤ n then [] else ['-']) ++ toDigits 10 n.natAbs := by
  change (Int.repr n).toList = _
  rw [Int.repr_eq_if]
  split_ifs with h
  · have habs : n.toNat = n.natAbs := by omega
    rw [repr_eq_ofList_toDigits, String.toList_ofList, List.nil_append, habs]
  · have habs : (-n).toNat = n.natAbs := by omega
    rw [String.toList_append, repr_eq_ofList_toDigits, habs]
    exact congrArg _ String.toList_ofList

lemma isDigit_of_mem_toDigits {n : ℕ} {c : Char} (h : c ∈ toDigits 10 n) :
    c.isDigit :=
  Nat.isDigit_of_mem_toDigits (by decide) (by decide) h

lemma toDigits_injective {m n : ℕ} (h : Nat.toDigits 10 m = Nat.toDigits 10 n) : m = n := by
  have hvalue := congrArg (fun cs => Nat.ofDigitChars 10 cs 0) h
  simpa only [ofDigitChars_ten_toDigits] using hvalue

/-- A text of digits does not start with a sign. -/
lemma toDigits_ne_cons_dash (n : ℕ) (cs : List Char) : toDigits 10 n ≠ '-' :: cs := by
  intro h
  have hmem : '-' ∈ toDigits 10 n := by
    rw [h]
    exact List.mem_cons_self
  exact absurd (isDigit_of_mem_toDigits hmem) (by decide)

/-- An integer is determined by its text. -/
lemma toString_int_injective {m n : ℤ} (h : (toString m).toList = (toString n).toList) :
    m = n := by
  rw [toList_toString_int, toList_toString_int] at h
  split_ifs at h with hm hn hn
  · have habs := toDigits_injective h
    omega
  · exact absurd h (toDigits_ne_cons_dash _ _)
  · exact absurd h.symm (toDigits_ne_cons_dash _ _)
  · have habs := toDigits_injective (List.cons.inj h).2
    omega
end StatePort
