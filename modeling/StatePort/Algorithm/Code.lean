import Mathlib.Data.List.Basic

/-!
# Texts that can be read back in one way

A writer `f : α → List γ` puts values one after another into a text. `ReadsBack stop f a` says that
what `f` writes for `a` cannot be mistaken for anything else that `f` writes: where a text that
starts at the end of a token follows, the value and the rest of the text are determined. `Stops`
is that condition on the text that follows.

The rules build writers from writers: `append_inj_of_stops` for a token that contains no stop,
`flatMap_inj` for a sequence up to a closing mark, and `intercalate_inj` for a sequence with
separators.
-/

namespace StatePort

open List

variable {α γ : Type*} {stop : γ → Prop} {r : List γ} {as bs : List α}

/-- The text is empty or starts with a character at which a token ends. -/
def Stops (stop : γ → Prop) (r : List γ) : Prop := ∀ c ∈ r.head?, stop c

/-- What `f` writes for `a` is read back as `a`, wherever a token may end after it. -/
def ReadsBack (stop : γ → Prop) (f : α → List γ) (a : α) : Prop :=
  ∀ b r s, Stops stop r → Stops stop s → f a ++ r = f b ++ s → a = b ∧ r = s

lemma stops_nil : Stops stop [] := by
  intro c hc
  cases hc

lemma stops_cons {c : γ} (h : stop c) : Stops stop (c :: r) := by
  intro d hd
  obtain rfl : c = d := Option.some.inj hd
  exact h

/-- Two tokens without a stop in them, each followed by a stop, are the same if the texts are. -/
lemma append_inj_of_stops {t t' r' : List γ} (ht : ∀ c ∈ t, ¬ stop c) (ht' : ∀ c ∈ t', ¬ stop c)
    (hr : Stops stop r) (hr' : Stops stop r') (h : t ++ r = t' ++ r') : t = t' ∧ r = r' := by
  induction t generalizing t' with
  | nil =>
    cases t' with
    | nil => exact ⟨rfl, h⟩
    | cons c t' =>
      have hhead : c ∈ r.head? := by
        rw [nil_append] at h
        rw [h]
        rfl
      exact absurd (hr c hhead) (ht' c mem_cons_self)
  | cons c t ih =>
    cases t' with
    | nil =>
      have hhead : c ∈ r'.head? := by
        rw [nil_append] at h
        rw [← h]
        rfl
      exact absurd (hr' c hhead) (ht c mem_cons_self)
    | cons c' t' =>
      rw [cons_append, cons_append, List.cons.injEq] at h
      obtain ⟨rfl, h⟩ := h
      obtain ⟨rfl, hrest⟩ := ih (fun d hd => ht d (mem_cons_of_mem _ hd))
        (fun d hd => ht' d (mem_cons_of_mem _ hd)) h
      exact ⟨rfl, hrest⟩

/-- A sequence of items up to a closing mark, which starts no item. -/
lemma flatMap_inj {f : α → List γ} {close : γ}
    (hstops : ∀ (as : List α) r, Stops stop (as.flatMap f ++ close :: r))
    (hread : ∀ a ∈ as, ReadsBack stop f a) (hopen : ∀ a r s, f a ++ r ≠ close :: s) {s : List γ}
    (h : as.flatMap f ++ close :: r = bs.flatMap f ++ close :: s) : as = bs ∧ r = s := by
  induction as generalizing bs with
  | nil =>
    cases bs with
    | nil => exact ⟨rfl, (List.cons.inj h).2⟩
    | cons b bs =>
      rw [flatMap_cons, append_assoc] at h
      exact absurd h.symm (hopen b _ _)
  | cons a as ih =>
    cases bs with
    | nil =>
      rw [flatMap_cons, append_assoc] at h
      exact absurd h (hopen a _ _)
    | cons b bs =>
      rw [flatMap_cons, flatMap_cons, append_assoc, append_assoc] at h
      obtain ⟨rfl, htail⟩ := hread a mem_cons_self b _ _ (hstops as r) (hstops bs s) h
      obtain ⟨rfl, hrest⟩ := ih (fun a ha => hread a (mem_cons_of_mem _ ha)) htail
      exact ⟨rfl, hrest⟩

lemma intercalate_cons (sep : γ) (t : List γ) (ts : List (List γ)) :
    [sep].intercalate (t :: ts) = t ++ ts.flatMap (sep :: ·) := by
  induction ts generalizing t with
  | nil => simp
  | cons t' ts ih =>
    rw [intercalate_cons_cons, ih, flatMap_cons]
    simp

section

variable {f : α → List γ} {sep close : γ} (hsep : stop sep) (hclose : stop close)

include hsep hclose in
/-- After an item comes a separator or the closing mark. -/
lemma stops_separated (as : List α) (r : List γ) :
    Stops stop (as.flatMap (fun a => sep :: f a) ++ close :: r) := by
  cases as with
  | nil => exact stops_cons hclose
  | cons a as => exact stops_cons hsep

include hsep hclose in
/-- A sequence with separators up to a closing mark, which starts no item. -/
lemma intercalate_inj (hne : sep ≠ close) (hopen : ∀ a r s, f a ++ r ≠ close :: s)
    (hread : ∀ a ∈ as, ReadsBack stop f a) {s : List γ}
    (h : [sep].intercalate (as.map f) ++ close :: r = [sep].intercalate (bs.map f) ++ close :: s) :
    as = bs ∧ r = s := by
  cases as with
  | nil =>
    cases bs with
    | nil => exact ⟨rfl, (List.cons.inj h).2⟩
    | cons b bs =>
      rw [map_cons, intercalate_cons, append_assoc] at h
      exact absurd h.symm (hopen b _ _)
  | cons a as =>
    cases bs with
    | nil =>
      rw [map_cons, intercalate_cons, append_assoc] at h
      exact absurd h (hopen a _ _)
    | cons b bs =>
      simp only [map_cons, intercalate_cons, append_assoc, flatMap_map] at h
      obtain ⟨rfl, htail⟩ := hread a mem_cons_self b _ _ (stops_separated hsep hclose as r)
        (stops_separated hsep hclose bs s) h
      -- each of the other items comes with the separator before it
      obtain ⟨rfl, hrest⟩ := flatMap_inj (stops_separated hsep hclose)
        (fun a ha b r s hr hs h =>
          hread a (mem_cons_of_mem _ ha) b r s hr hs (List.cons.inj h).2)
        (fun a r s h => hne (List.cons.inj h).1) htail
      exact ⟨rfl, hrest⟩

end

end StatePort
