import Mathlib.Computability.Language

/-!
# Shell wildcards

A pattern is a list of tokens over an alphabet `α`; a token stands for one letter of a set or for
any text. `lang` is the set of texts that a pattern stands for and `accepts` decides it
(`accepts_iff`). `fnmatchTokens` reads a pattern in the notation of Python's `fnmatch`.

A pattern of letters stands for one text (`mem_lang_letters`), and one that ends in a star for the
texts with a given beginning (`mem_lang_letters_star`).
-/

namespace StatePort.Glob

open List

variable {α : Type*}

/-- One letter of a set, or any text. -/
inductive Token (α : Type*) where
  | one (p : α → Bool)
  | star

/-- The letter `a`. -/
def Token.letter [DecidableEq α] (a : α) : Token α := .one fun b => b = a

def Token.any : Token α := .one fun _ => true

/-- The texts that a token stands for. -/
def Token.lang : Token α → Language α
  | one p => {w | ∃ a, p a ∧ w = [a]}
  | star => Set.univ

/-- The texts that a pattern stands for. -/
def lang (ts : List (Token α)) : Language α := (ts.map Token.lang).prod

/-- Whether a text matches a pattern. -/
def accepts : List (Token α) → List α → Bool
  | [], w => w.isEmpty
  | .one p :: ts, w => match w with
    | [] => false
    | a :: w => p a && accepts ts w
  | .star :: ts, w => w.tails.any (accepts ts)

variable {ts : List (Token α)} {w : List α}

lemma mem_lang_cons {t : Token α} :
    w ∈ lang (t :: ts) ↔ ∃ u v, u ∈ t.lang ∧ v ∈ lang ts ∧ u ++ v = w := by
  rw [lang, map_cons, prod_cons, Language.mem_mul]
  constructor
  · rintro ⟨u, hu, v, hv, rfl⟩
    exact ⟨u, v, hu, hv, rfl⟩
  · rintro ⟨u, v, hu, hv, rfl⟩
    exact ⟨u, hu, v, hv, rfl⟩

lemma mem_lang_one_cons {p : α → Bool} :
    w ∈ lang (.one p :: ts) ↔ ∃ a v, p a ∧ v ∈ lang ts ∧ a :: v = w := by
  rw [mem_lang_cons]
  constructor
  · rintro ⟨u, v, ⟨a, ha, rfl⟩, hv, rfl⟩
    exact ⟨a, v, ha, hv, rfl⟩
  · rintro ⟨a, v, ha, hv, rfl⟩
    exact ⟨[a], v, ⟨a, ha, rfl⟩, hv, rfl⟩

/-- `accepts` decides membership in the pattern's language. -/
lemma accepts_iff (ts : List (Token α)) (w : List α) : accepts ts w ↔ w ∈ lang ts := by
  induction ts generalizing w with
  | nil =>
    rw [accepts, List.isEmpty_iff]
    exact Iff.rfl
  | cons t ts ih =>
    cases t with
    | one p =>
      rw [mem_lang_one_cons]
      cases w with
      | nil => simp [accepts]
      | cons b w => simp [accepts, ih]
    | star =>
      rw [mem_lang_cons, accepts, any_eq_true]
      constructor
      · rintro ⟨v, hv, hacc⟩
        obtain ⟨u, rfl⟩ := (mem_tails v w).mp hv
        exact ⟨u, v, trivial, (ih v).mp hacc, rfl⟩
      · rintro ⟨u, v, -, hv, rfl⟩
        exact ⟨v, (mem_tails v _).mpr ⟨u, rfl⟩, (ih v).mpr hv⟩

section

variable [DecidableEq α]

lemma mem_lang_letter_cons {a : α} :
    w ∈ lang (.letter a :: ts) ↔ ∃ v ∈ lang ts, a :: v = w := by
  simp [Token.letter, mem_lang_one_cons]

/-- A pattern of letters stands for itself. -/
lemma mem_lang_letters {w v : List α} : v ∈ lang (w.map Token.letter) ↔ v = w := by
  induction w generalizing v with
  | nil => exact Iff.rfl
  | cons a w ih =>
    rw [map_cons, mem_lang_letter_cons]
    constructor
    · rintro ⟨u, hu, rfl⟩
      rw [ih.mp hu]
    · rintro rfl
      exact ⟨w, ih.mpr rfl, rfl⟩

/-- Letters followed by a star stand for the texts that begin with the letters. -/
lemma mem_lang_letters_star {w v : List α} :
    v ∈ lang (w.map Token.letter ++ [Token.star]) ↔ w <+: v := by
  induction w generalizing v with
  | nil =>
    rw [map_nil, nil_append, mem_lang_cons]
    constructor
    · intro _
      exact nil_prefix
    · intro _
      exact ⟨v, [], trivial, rfl, append_nil v⟩
  | cons a w ih =>
    rw [map_cons, cons_append, mem_lang_letter_cons]
    constructor
    · rintro ⟨u, hu, rfl⟩
      exact cons_prefix_cons.mpr ⟨rfl, ih.mp hu⟩
    · rintro ⟨u, rfl⟩
      exact ⟨w ++ u, ih.mpr (prefix_append _ _), rfl⟩

end

/-! ### The notation of `fnmatch` -/

/-- Membership in the body of a bracket expression: single characters and ranges. -/
def inBracket : List Char → Char → Bool
  | a :: '-' :: b :: rest, c => (a ≤ c && c ≤ b) || inBracket rest c
  | a :: rest, c => a = c || inBracket rest c
  | [], _ => false

/-- The body of a bracket expression and the text after its closing bracket. A closing bracket
that comes first belongs to the body. -/
def bracket : List Char → Option (List Char × List Char)
  | [] => none
  | c :: cs => match cs.span (· ≠ ']') with
    | (body, _ :: rest) => some (c :: body, rest)
    | (_, []) => none

/-- The tokens of a pattern. An unclosed bracket is a letter; `fuel` bounds the length. -/
def fnmatchTokensAux : ℕ → List Char → List (Token Char)
  | 0, _ => []
  | _ + 1, [] => []
  | fuel + 1, c :: cs =>
    if c = '*' then .star :: fnmatchTokensAux fuel cs
    else if c = '?' then .any :: fnmatchTokensAux fuel cs
    else if c = '[' then
      if cs.head? = some '!' then
        match bracket cs.tail with
        | some (body, rest) => .one (fun a => !inBracket body a) :: fnmatchTokensAux fuel rest
        | none => .letter c :: fnmatchTokensAux fuel cs
      else
        match bracket cs with
        | some (body, rest) => .one (inBracket body) :: fnmatchTokensAux fuel rest
        | none => .letter c :: fnmatchTokensAux fuel cs
    else .letter c :: fnmatchTokensAux fuel cs

def fnmatchTokens (pattern : List Char) : List (Token Char) :=
  fnmatchTokensAux pattern.length pattern

/-- `fnmatchcase(name, pattern)`. -/
def fnmatchcase (name pattern : String) : Bool :=
  accepts (fnmatchTokens pattern.toList) name.toList

/-- Characters without a meaning of their own are letters. -/
def Plain (c : Char) : Prop := c ≠ '*' ∧ c ≠ '?' ∧ c ≠ '['

variable {w : List Char}

lemma fnmatchTokensAux_append (hw : ∀ c ∈ w, Plain c) (fuel : ℕ) (rest : List Char) :
    fnmatchTokensAux (w.length + fuel) (w ++ rest) =
      w.map Token.letter ++ fnmatchTokensAux fuel rest := by
  induction w with
  | nil => simp
  | cons c w ih =>
    obtain ⟨hstar, hany, hbracket⟩ := hw c mem_cons_self
    have hrest := ih fun c hc => hw c (mem_cons_of_mem _ hc)
    have hlen : (c :: w).length + fuel = (w.length + fuel) + 1 := by
      rw [length_cons]
      omega
    rw [hlen, cons_append, fnmatchTokensAux, if_neg hstar, if_neg hany, if_neg hbracket, hrest]
    rfl

lemma fnmatchTokens_plain (hw : ∀ c ∈ w, Plain c) : fnmatchTokens w = w.map Token.letter := by
  have := fnmatchTokensAux_append hw 0 []
  simpa [fnmatchTokens, fnmatchTokensAux] using this

lemma fnmatchTokens_plain_star (hw : ∀ c ∈ w, Plain c) :
    fnmatchTokens (w ++ ['*']) = w.map Token.letter ++ [Token.star] := by
  have := fnmatchTokensAux_append hw 1 ['*']
  simpa [fnmatchTokens, fnmatchTokensAux] using this

end StatePort.Glob
