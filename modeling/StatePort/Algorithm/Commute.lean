import StatePort.Algorithm.Effect

/-!
# Computations that do not see a change

`Commutes g x` says that `x` does the same whether the state was changed by `g` before it or is
changed by `g` after it: `x` neither reads nor writes what `g` adds.
-/

namespace StatePort.Effect

universe u

variable {σ ε α β δ : Type u} {g : σ → σ} {x : Effect σ ε α} {f : α → Effect σ ε β}

/-- `x` returns or raises the same on both sides of `g`, and leaves states that `g` relates. -/
def Commutes (g : σ → σ) (x : Effect σ ε α) : Prop := ∀ s, x (g s) = ((x s).1, g (x s).2)

namespace Commutes

protected lemma pure (a : α) : Commutes g (pure a : Effect σ ε α) := fun _ => rfl

protected lemma raise (e : ε) : Commutes g (raise e : Effect σ ε α) := fun _ => rfl

protected lemma lift (y : Except ε α) : Commutes g (lift y : Effect σ ε α) := fun _ => rfl

protected lemma modify {m : σ → σ} (h : ∀ s, m (g s) = g (m s)) :
    Commutes g (modify m : Effect σ ε PUnit) :=
  fun s => by rw [modify_apply, modify_apply, h]

protected lemma bind (hx : Commutes g x) (hf : ∀ a, Commutes g (f a)) : Commutes g (x >>= f) := by
  intro s
  have hfirst := hx s
  cases hrun : x s with
  | mk result t =>
    rw [hrun] at hfirst
    cases result with
    | ok a =>
      rw [bind_apply_ok hfirst, bind_apply_ok hrun]
      exact hf a t
    | error e => rw [bind_apply_error hfirst, bind_apply_error hrun]

/-- A computation that does not touch the state passes on what it found. -/
lemma bind_lift {y : Except ε α} (hf : ∀ a, y = .ok a → Commutes g (f a)) :
    Commutes g (lift y >>= f) := by
  cases y with
  | ok a => exact hf a rfl
  | error e => exact fun _ => rfl

/-- What is read may differ where the continuation does not see it. -/
lemma bind_state {f : σ → Effect σ ε β} (hread : ∀ s, f (g s) = f s)
    (hf : ∀ s, Commutes g (f s)) : Commutes g (state >>= f) := by
  intro s
  rw [state_bind, state_bind, hread]
  exact hf s s

protected lemma attempt {select : ε → Option δ} (hx : Commutes g x) :
    Commutes g (attempt select x) := by
  intro s
  have hboth := hx s
  cases hrun : x s with
  | mk result t =>
    rw [hrun] at hboth
    cases result with
    | ok a => rw [attempt_apply_ok hboth, attempt_apply_ok hrun]
    | error e =>
      cases hselect : select e with
      | some d => rw [attempt_apply_error hboth hselect, attempt_apply_error hrun hselect]
      | none => rw [attempt_apply_none hboth hselect, attempt_apply_none hrun hselect]

protected lemma forM {ι : Type u} {body : ι → Effect σ ε PUnit} {items : List ι}
    (h : ∀ i ∈ items, Commutes g (body i)) : Commutes g (items.forM body) := by
  induction items with
  | nil => exact .pure _
  | cons i items ih =>
    change Commutes g (body i >>= fun _ => items.forM body)
    exact .bind (h i List.mem_cons_self) fun _ => ih fun j hj => h j (List.mem_cons_of_mem _ hj)

end Commutes

end StatePort.Effect
