import Mathlib.Logic.Relation
import StatePort.Algorithm.Effect

/-!
# The changes that a computation makes

`Trace R P x Q` says that every write of `x` is an `R` step, whether `x` returns or raises, and that
`x`, started where `P` holds, returns where `Q` holds. What `R` preserves is then preserved by `x`,
so that one walk through a computation serves every invariant.
-/

namespace StatePort.Effect

universe u

variable {σ ε α β δ : Type u} {s : σ} {select : ε → Option δ}

/-- The writes of `x` are `R` steps; started where `P` holds, `x` returns where `Q` holds. -/
def Trace (R : σ → σ → Prop) (P : σ → Prop) (x : Effect σ ε α) (Q : α → σ → Prop) : Prop :=
  ∀ s, P s → Relation.ReflTransGen R s (x s).2 ∧ ∀ a, (x s).1 = .ok a → Q a (x s).2

/-- The writes of `x` are `R` steps. -/
def Moves (R : σ → σ → Prop) (x : Effect σ ε α) : Prop :=
  Trace R (fun _ => True) x fun _ _ => True

variable {R : σ → σ → Prop} {P P' : σ → Prop} {x : Effect σ ε α} {Q Q' : α → σ → Prop}
  {f : α → Effect σ ε β} {S : β → σ → Prop} {a : α} {e : ε}

lemma bind_inv {t : σ} {result : Except ε β} (h : (x >>= f) s = (result, t)) :
    (∃ e, x s = (.error e, t) ∧ result = .error e) ∨
      ∃ a u, x s = (.ok a, u) ∧ f a u = (result, t) := by
  cases hrun : x s with
  | mk first u =>
    cases first with
    | ok a =>
      rw [bind_apply_ok hrun] at h
      exact .inr ⟨a, u, rfl, h⟩
    | error e =>
      rw [bind_apply_error hrun] at h
      cases h
      exact .inl ⟨e, rfl, rfl⟩

/-- What `try: x` raises, `x` raised. -/
lemma attempt_eq_error {t : σ} (h : attempt select x s = (.error e, t)) :
    x s = (.error e, t) ∧ select e = none := by
  cases hrun : x s with
  | mk result u =>
    cases result with
    | ok a => simp [attempt, hrun] at h
    | error e' =>
      cases hselect : select e' with
      | some d => simp [attempt, hrun, hselect] at h
      | none =>
        simp only [attempt, hrun, hselect, Prod.mk.injEq, Except.error.injEq] at h
        exact ⟨by rw [h.1, h.2], by rw [← h.1, hselect]⟩

/-- What `try: x` caught, `x` raised. -/
lemma attempt_eq_caught {t : σ} {d : δ} (h : attempt select x s = (.ok (.error d), t)) :
    ∃ e, x s = (.error e, t) ∧ select e = some d := by
  cases hrun : x s with
  | mk result u =>
    cases result with
    | ok a => simp [attempt, hrun] at h
    | error e =>
      cases hselect : select e with
      | some d' =>
        simp only [attempt, hrun, hselect, Prod.mk.injEq, Except.ok.injEq, Except.error.injEq] at h
        exact ⟨e, by rw [h.2], by rw [hselect, h.1]⟩
      | none => simp [attempt, hrun, hselect] at h

lemma Triple.apply_always {I : σ → Prop} (hx : Triple P x (fun _ => I) fun _ => I) (hs : P s) :
    I (x s).2 := by
  have houtcome := hx s hs
  cases hrun : x s with
  | mk result t =>
    rw [hrun] at houtcome
    cases result with
    | ok a | error e => exact houtcome

namespace Trace

protected lemma pure (h : ∀ s, P s → Q a s) : Trace R P (pure a : Effect σ ε α) Q := by
  intro s hs
  refine ⟨.refl, fun b hb => ?_⟩
  cases hb
  exact h s hs

protected lemma raise : Trace R P (raise e : Effect σ ε α) Q := fun _ _ => ⟨.refl, nofun⟩

protected lemma lift {y : Except ε α} (h : ∀ s, P s → ∀ a, y = .ok a → Q a s) :
    Trace R P (lift y : Effect σ ε α) Q :=
  fun s hs => ⟨.refl, h s hs⟩

protected lemma state : Trace R P (state : Effect σ ε σ) fun _ => P :=
  fun _ hs => ⟨.refl, fun _ _ => hs⟩

protected lemma modify {g : σ → σ} {Q : PUnit → σ → Prop} (h : ∀ s, P s → R s (g s))
    (hQ : ∀ s, P s → Q ⟨⟩ (g s)) : Trace R P (modify g : Effect σ ε PUnit) Q :=
  fun s hs => ⟨.single (h s hs), fun _ _ => hQ s hs⟩

protected lemma bind (hx : Trace R P x Q) (hf : ∀ a, Trace R (Q a) (f a) S) :
    Trace R P (x >>= f) S := by
  intro s hs
  have hfirst := hx s hs
  cases hrun : x s with
  | mk result t =>
    rw [hrun] at hfirst
    cases result with
    | ok a =>
      rw [bind_apply_ok hrun]
      have hrest := hf a t (hfirst.2 a rfl)
      exact ⟨hfirst.1.trans hrest.1, hrest.2⟩
    | error e =>
      rw [bind_apply_error hrun]
      exact ⟨hfirst.1, nofun⟩

/-- The continuation of a read knows the state that was read. -/
lemma bind_state {f : σ → Effect σ ε β}
    (hf : ∀ s, P s → Trace R (fun t => t = s ∧ P t) (f s) S) : Trace R P (state >>= f) S := by
  intro s hs
  rw [state_bind]
  exact hf s hs s ⟨rfl, hs⟩

/-- A caught exception ends like a value. -/
protected lemma attempt (hx : Trace R P x Q) :
    Trace R P (attempt select x) fun result s => ∀ a, result = .ok a → Q a s := by
  intro s hs
  have hresult := hx s hs
  cases hrun : x s with
  | mk result t =>
    rw [hrun] at hresult
    cases result with
    | ok a =>
      rw [attempt_apply_ok hrun]
      refine ⟨hresult.1, fun b hb c hc => ?_⟩
      cases hb
      cases hc
      exact hresult.2 a rfl
    | error e =>
      cases hselect : select e with
      | some d =>
        rw [attempt_apply_error hrun hselect]
        refine ⟨hresult.1, fun b hb c hc => ?_⟩
        cases hb
        cases hc
      | none =>
        simp only [attempt, hrun, hselect]
        refine ⟨hresult.1, fun b hb => ?_⟩
        cases hb

/-- **Consequence.** -/
theorem mono (hx : Trace R P x Q) (hP : ∀ s, P' s → P s) (hQ : ∀ a s, Q a s → Q' a s) :
    Trace R P' x Q' :=
  fun s hs => ⟨(hx s (hP s hs)).1, fun a ha => hQ a _ ((hx s (hP s hs)).2 a ha)⟩

lemma moves (hx : Trace R (fun _ => True) x Q) : Moves R x :=
  hx.mono (fun _ hs => hs) fun _ _ _ => trivial

/-- **Loops.** -/
protected theorem forM {ι : Type u} {body : ι → Effect σ ε PUnit} {items : List ι}
    (h : ∀ i ∈ items, Trace R P (body i) fun _ => P) : Trace R P (items.forM body) fun _ => P := by
  induction items with
  | nil => exact .pure fun _ hs => hs
  | cons i items ih =>
    change Trace R P (body i >>= fun _ => items.forM body) _
    exact .bind (h i List.mem_cons_self) fun _ => ih fun j hj => h j (List.mem_cons_of_mem _ hj)

end Trace

namespace Moves

/-- Where nothing need be known, the writes are all there is to say. -/
lemma trace (hx : Moves R x) : Trace R P x fun _ _ => True :=
  .mono hx (fun _ _ => trivial) fun _ _ _ => trivial

protected lemma pure (a : α) : Moves R (pure a : Effect σ ε α) := Trace.pure fun _ _ => trivial

protected lemma raise (e : ε) : Moves R (raise e : Effect σ ε α) := Trace.raise

protected lemma lift (y : Except ε α) : Moves R (lift y : Effect σ ε α) :=
  Trace.lift fun _ _ _ _ => trivial

protected lemma state : Moves R (state : Effect σ ε σ) := Trace.state

protected lemma bind (hx : Moves R x) (hf : ∀ a, Moves R (f a)) : Moves R (x >>= f) :=
  Trace.bind hx hf

/-- A step that returns only if `p` holds passes `p` on. -/
lemma bind_fact {p : Prop} (hx : Trace R (fun _ => True) x fun _ _ => p)
    (hf : p → ∀ a, Moves R (f a)) : Moves R (x >>= f) :=
  Trace.bind hx fun a s hp => hf hp a s trivial

protected lemma attempt (hx : Moves R x) : Moves R (attempt select x) :=
  .mono (.attempt hx) (fun _ h => h) fun _ _ _ => trivial

end Moves

end StatePort.Effect
