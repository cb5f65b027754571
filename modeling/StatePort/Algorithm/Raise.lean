import Mathlib.Tactic.SplitIfs
import Mathlib.Data.List.Forall2

/-!
# Computations that raise

The functions modelled here validate their input by a sequence of `if … : raise …` statements and
then compute. `Except ε` is that monad; `raiseIf c e` is one such statement. The lemmas invert a
successful run: `bind_eq_ok` peels one bind off, `raiseIf_eq_ok` turns a passed check into the
negation of its condition (`eq_ok_iff` is the set of these rules), and `forall₂_of_mapM_eq_ok`, `mem_of_mapM_eq_ok`, `map_of_mapM_eq_ok` and
`forM_eq_ok` read a check of a list element by element. `foldlM_invariant` is the rule for loops.
`RaisesOnly P` says which errors a computation may raise.
A stateful function returns its result with the new state; `afterTransaction` is the state that
others see.
-/

namespace StatePort

open List

universe u v

variable {ε : Type u} {α β : Type v} {x : Except ε α} {f : α → Except ε β}

/-- `if c: raise e`. -/
def raiseIf (c : Prop) [Decidable c] (e : ε) : Except ε Unit :=
  if c then .error e else .ok ()

@[simp] lemma raiseIf_eq_ok {c : Prop} [Decidable c] {e : ε} {x : Unit} :
    raiseIf c e = .ok x ↔ ¬ c := by
  unfold raiseIf
  split_ifs with h
  · simp [h]
  · simp [h]

/-- A bind succeeds exactly when both halves do. -/
@[simp] lemma bind_eq_ok {b : β} :
    (x >>= f) = .ok b ↔ ∃ a, x = .ok a ∧ f a = .ok b := by
  cases x with
  | error e | ok a => simp [bind, Except.bind]

/-- A check returns nothing but its success. -/
lemma exists_unit {p : Unit → Prop} : (∃ a, p a) ↔ p () :=
  ⟨fun ⟨_, h⟩ => h, fun h => ⟨(), h⟩⟩

@[simp] lemma ok_bind (a : α) (f : α → Except ε β) : (Except.ok a >>= f) = f a := rfl

@[simp] lemma error_bind (e : ε) (f : α → Except ε β) :
    ((Except.error e : Except ε α) >>= f) = .error e := rfl

@[simp] lemma pure_eq_ok {a b : α} : (pure a : Except ε α) = .ok b ↔ a = b := by
  simp [pure, Except.pure]

/-- The rules that invert a successful run; `simp` takes a conjunction for the set of its parts. -/
lemma eq_ok_iff :
    (∀ {ε α β : Type} {x : Except ε α} {f : α → Except ε β} {b : β},
        (x >>= f) = .ok b ↔ ∃ a, x = .ok a ∧ f a = .ok b) ∧
      (∀ {ε : Type} {c : Prop} [Decidable c] {e : ε} {x : Unit}, raiseIf c e = .ok x ↔ ¬ c) ∧
      (∀ {p : Unit → Prop}, (∃ a, p a) ↔ p ()) ∧
      ∀ {ε α : Type} {a b : α}, (pure a : Except ε α) = .ok b ↔ a = b :=
  ⟨bind_eq_ok, raiseIf_eq_ok, exists_unit, pure_eq_ok⟩

/-- A computation whose result has a known image succeeds. -/
lemma exists_of_map_eq_ok {f : α → β} {b : β} (h : x.map f = .ok b) :
    ∃ a, x = .ok a ∧ f a = b := by
  cases x with
  | error e => cases h
  | ok a => exact ⟨a, rfl, Except.ok.inj h⟩

/-- The state after a transaction that started in `s`: an exception rolls back. -/
def afterTransaction {α σ : Type*} (s : σ) : Except ε (α × σ) → σ
  | .ok (_, s') => s'
  | .error _ => s

/-- A check mapped over a list succeeds element by element. -/
lemma forall₂_of_mapM_eq_ok :
    ∀ {l : List α} {r : List β}, l.mapM f = .ok r → List.Forall₂ (fun a b => f a = .ok b) l r := by
  intro l
  induction l with
  | nil =>
    intro r h
    rw [mapM_nil, pure_eq_ok] at h
    rw [← h]
    exact List.Forall₂.nil
  | cons x l ih =>
    intro r h
    rw [mapM_cons] at h
    simp only [bind_eq_ok, pure_eq_ok] at h
    obtain ⟨b, hb, r', hr', rfl⟩ := h
    exact List.Forall₂.cons hb (ih hr')

/-- The results of a computation mapped over a list are those of its elements. -/
lemma mem_of_mapM_eq_ok {l : List α} {r : List β} (h : l.mapM f = .ok r) :
    (∀ b ∈ r, ∃ a ∈ l, f a = .ok b) ∧ ∀ a ∈ l, ∃ b ∈ r, f a = .ok b := by
  have hall := forall₂_of_mapM_eq_ok h
  clear h
  induction hall with
  | nil => simp
  | cons hab _ ih =>
    obtain ⟨hresults, helements⟩ := ih
    constructor
    · rintro c (_ | ⟨_, hc⟩)
      · exact ⟨_, mem_cons_self, hab⟩
      · obtain ⟨a, ha, heq⟩ := hresults c hc
        exact ⟨a, mem_cons_of_mem _ ha, heq⟩
    · rintro c (_ | ⟨_, hc⟩)
      · exact ⟨_, mem_cons_self, hab⟩
      · obtain ⟨b, hb, heq⟩ := helements c hc
        exact ⟨b, mem_cons_of_mem _ hb, heq⟩

/-- What every round of a loop preserves, the loop preserves. -/
lemma foldlM_invariant {α : Type*} {σ : Type v} {f : σ → α → Except ε σ} {P : σ → Prop}
    {l : List α} (hstep : ∀ a ∈ l, ∀ s s', f s a = .ok s' → P s → P s') {s s' : σ}
    (h : l.foldlM f s = .ok s') (hs : P s) : P s' := by
  induction l generalizing s with
  | nil =>
    rw [foldlM_nil, pure_eq_ok] at h
    rwa [← h]
  | cons a l ih =>
    rw [foldlM_cons, bind_eq_ok] at h
    obtain ⟨t, hfirst, hrest⟩ := h
    have ht : P t := hstep a mem_cons_self s t hfirst hs
    exact ih (fun b hb => hstep b (mem_cons_of_mem _ hb)) hrest ht

/-- A loop that raises has run up to the round that does. -/
lemma exists_of_foldlM_eq_error {α : Type*} {σ : Type v} {f : σ → α → Except ε σ} {l : List α}
    {s : σ} {e : ε} (h : l.foldlM f s = .error e) :
    ∃ done a rest t, l = done ++ a :: rest ∧ done.foldlM f s = .ok t ∧ f t a = .error e := by
  induction l generalizing s with
  | nil => cases h
  | cons a l ih =>
    rw [foldlM_cons] at h
    cases hone : f s a with
    | error e' =>
      rw [hone] at h
      cases h
      exact ⟨[], a, l, s, rfl, rfl, hone⟩
    | ok next =>
      rw [hone] at h
      obtain ⟨done, b, rest, t, rfl, hdone, herror⟩ := ih h
      refine ⟨a :: done, b, rest, t, rfl, ?_, herror⟩
      rw [foldlM_cons, hone]
      exact hdone

/-- A computation whose results tell what they are of, mapped over a list. -/
lemma map_of_mapM_eq_ok {g : β → α} (hg : ∀ a b, f a = .ok b → g b = a) {l : List α} {r : List β}
    (h : l.mapM f = .ok r) : r.map g = l := by
  have hall := forall₂_of_mapM_eq_ok h
  clear h
  induction hall with
  | nil => rfl
  | cons hab _ ih => rw [map_cons, hg _ _ hab, ih]

/-- A check that returns what it is given, mapped over a list, returns the list. -/
lemma eq_of_mapM_check {f : α → Except ε α} (hf : ∀ a b, f a = .ok b → b = a) {l r : List α}
    (h : l.mapM f = .ok r) : r = l := by
  rw [← map_of_mapM_eq_ok hf h, map_id']

lemma forM_eq_ok {α : Type*} {f : α → Except ε Unit} {l : List α} {x : Unit}
    (h : l.forM f = .ok x) : ∀ a ∈ l, f a = .ok () := by
  induction l with
  | nil => simp
  | cons b l ih =>
    change (f b >>= fun _ => l.forM f) = .ok x at h
    simp only [bind_eq_ok, exists_unit] at h
    rintro a (_ | ⟨_, ha⟩)
    · exact h.1
    · exact ih h.2 a ha

lemma eq_ok_of_toOption {a : α} (h : x.toOption = some a) : x = .ok a := by
  cases x with
  | ok b => exact congrArg Except.ok (Option.some.inj h)
  | error e => cases h

/-! ### Which errors are raised -/

/-- The computation succeeds or raises an error with `P`. -/
def RaisesOnly (P : ε → Prop) (x : Except ε α) : Prop := ∀ e, x = .error e → P e

namespace RaisesOnly

variable {P : ε → Prop}

lemma ok (a : α) : RaisesOnly P (.ok a : Except ε α) := nofun

lemma error {e : ε} (h : P e) : RaisesOnly P (.error e : Except ε α) := by
  rintro _ ⟨⟩
  exact h

lemma check {c : Prop} [Decidable c] {e : ε} (h : P e) : RaisesOnly P (raiseIf c e) := by
  unfold raiseIf
  split_ifs
  · exact error h
  · exact ok ()

lemma bind (hx : RaisesOnly P x) (hf : ∀ a, x = .ok a → RaisesOnly P (f a)) :
    RaisesOnly P (x >>= f) := by
  cases x with
  | error e => exact fun _ h => hx _ (by cases h; rfl)
  | ok a => exact hf a rfl

end RaisesOnly

end StatePort
