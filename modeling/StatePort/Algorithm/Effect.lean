import StatePort.Algorithm.Raise

/-!
# Computations on a state that may raise

`Effect σ ε α` is a computation that reads and writes a state `σ` and returns an `α` or raises an
`ε`. What it has written before it raises stays written. `attempt` turns some exceptions into
values, as `try` does for those that it names.

`Triple P x Q E` says that `x`, started where `P` holds, returns where `Q` holds or raises where `E`
holds. There is one rule for each way to build a computation; `forM` is the rule for loops.
-/

namespace StatePort

universe u

/-- A computation on `σ` that returns an `α` or raises an `ε`. -/
def Effect (σ ε α : Type u) : Type u := σ → Except ε α × σ

namespace Effect

variable {σ ε α β δ : Type u}

instance : Monad (Effect σ ε) where
  pure a := fun s => (.ok a, s)
  bind x f := fun s =>
    match x s with
    | (.ok a, t) => f a t
    | (.error e, t) => (.error e, t)

/-- `raise e`. -/
def raise (e : ε) : Effect σ ε α := fun s => (.error e, s)

def state : Effect σ ε σ := fun s => (.ok s, s)

/-- Write the state. -/
def modify (f : σ → σ) : Effect σ ε PUnit := fun s => (.ok ⟨⟩, f s)

/-- A computation that does not touch the state. -/
def lift (x : Except ε α) : Effect σ ε α := fun s => (x, s)

/-- `try: x`, for the exceptions that `select` names. -/
def attempt (select : ε → Option δ) (x : Effect σ ε α) : Effect σ ε (Except δ α) := fun s =>
  match x s with
  | (.ok a, t) => (.ok (.ok a), t)
  | (.error e, t) =>
    match select e with
    | some d => (.ok (.error d), t)
    | none => (.error e, t)

/-! ### What a computation does -/

variable {s t : σ} {x : Effect σ ε α} {f : α → Effect σ ε β} {a : α} {e : ε}

@[simp] lemma pure_apply : (pure a : Effect σ ε α) s = (.ok a, s) := rfl

@[simp] lemma raise_apply : (raise e : Effect σ ε α) s = (.error e, s) := rfl

@[simp] lemma state_apply : (state : Effect σ ε σ) s = (.ok s, s) := rfl

variable {g : σ → σ}

@[simp] lemma modify_apply : (modify g : Effect σ ε PUnit) s = (.ok ⟨⟩, g s) := rfl

@[simp] lemma lift_apply {y : Except ε α} : (lift y : Effect σ ε α) s = (y, s) := rfl

@[simp] lemma state_bind {g : σ → Effect σ ε β} : (state >>= g) s = g s s := rfl

@[simp] lemma modify_bind {f : PUnit → Effect σ ε β} :
    (modify g >>= f) s = f ⟨⟩ (g s) := rfl

@[simp] lemma lift_ok_bind : (lift (.ok a) >>= f) = f a := rfl

lemma bind_apply_ok (h : x s = (.ok a, t)) : (x >>= f) s = f a t := by
  change (match x s with
    | (.ok a, t) => f a t
    | (.error e, t) => (.error e, t)) = _
  rw [h]

lemma bind_apply_error (h : x s = (.error e, t)) : (x >>= f) s = (.error e, t) := by
  change (match x s with
    | (.ok a, t) => f a t
    | (.error e, t) => (.error e, t)) = _
  rw [h]

variable {select : ε → Option δ}

lemma attempt_apply_ok (h : x s = (.ok a, t)) : attempt select x s = (.ok (.ok a), t) := by
  simp only [attempt, h]

lemma attempt_apply_error {d : δ} (h : x s = (.error e, t))
    (hselect : select e = some d) : attempt select x s = (.ok (.error d), t) := by
  simp only [attempt, h, hselect]

lemma attempt_apply_none (h : x s = (.error e, t))
    (hselect : select e = none) : attempt select x s = (.error e, t) := by
  simp only [attempt, h, hselect]

/-! ### Triples -/

/-- The outcome of a computation satisfies `Q` or, if it raised, `E`. -/
def Outcome (Q : α → σ → Prop) (E : ε → σ → Prop) : Except ε α × σ → Prop
  | (.ok a, t) => Q a t
  | (.error e, t) => E e t

/-- Started where `P` holds, `x` returns where `Q` holds or raises where `E` holds. -/
def Triple (P : σ → Prop) (x : Effect σ ε α) (Q : α → σ → Prop) (E : ε → σ → Prop) : Prop :=
  ∀ s, P s → Outcome Q E (x s)

variable {ι : Type u} {body : ι → Effect σ ε PUnit} {items : List ι}

namespace Triple

variable {P P' : σ → Prop} {Q Q' : α → σ → Prop} {R : β → σ → Prop} {E F : ε → σ → Prop}

protected lemma pure (h : ∀ s, P s → Q a s) : Triple P (pure a) Q E := h

protected lemma raise (h : ∀ s, P s → E e s) : Triple P (raise e : Effect σ ε α) Q E := h

protected lemma modify {Q : PUnit → σ → Prop} (h : ∀ s, P s → Q ⟨⟩ (g s)) :
    Triple P (modify g) Q E := h

protected lemma bind (hx : Triple P x Q E) (hf : ∀ a, Triple (Q a) (f a) R E) :
    Triple P (x >>= f) R E := by
  intro s hs
  have hfirst := hx s hs
  cases hrun : x s with
  | mk result t =>
    cases result with
    | ok a =>
      rw [hrun] at hfirst
      rw [bind_apply_ok hrun]
      exact hf a t hfirst
    | error e =>
      rw [hrun] at hfirst
      rw [bind_apply_error hrun]
      exact hfirst

lemma bind_pure {k : α → β} (hx : Triple P x (fun a => R (k a)) E) :
    Triple P (x >>= fun a => pure (k a)) R E :=
  .bind hx fun _ => .pure fun _ h => h

/-- The continuation of a read knows the state that was read. -/
lemma bind_state {f : σ → Effect σ ε β}
    (hf : ∀ s, P s → Triple (fun t => t = s ∧ P t) (f s) R E) : Triple P (state >>= f) R E := by
  intro s hs
  rw [state_bind]
  exact hf s hs s ⟨rfl, hs⟩

/-- A step that keeps `P` passes on what it found out. -/
lemma bind_of {p : α → Prop} (hx : Triple P x (fun a s => p a ∧ P s) E)
    (hf : ∀ a, p a → Triple P (f a) R E) : Triple P (x >>= f) R E :=
  .bind hx fun a s hs => hf a hs.1 s hs.2

/-- An exception that is caught leaves what is needed of a value, any other what is needed of an
exception. -/
protected lemma attempt {Q : Except δ α → σ → Prop}
    (hx : Triple P x (fun a => Q (.ok a)) fun e t =>
      (∀ d, select e = some d → Q (.error d) t) ∧ (select e = none → E e t)) :
    Triple P (attempt select x) Q E := by
  intro s hs
  have hresult := hx s hs
  cases hrun : x s with
  | mk result t =>
    rw [hrun] at hresult
    cases result with
    | ok a =>
      rw [attempt_apply_ok hrun]
      exact hresult
    | error e =>
      cases hselect : select e with
      | some d =>
        rw [attempt_apply_error hrun hselect]
        exact hresult.1 d hselect
      | none =>
        rw [attempt_apply_none hrun hselect]
        exact hresult.2 hselect

/-- **Consequence.** -/
theorem mono (hx : Triple P x Q E) (hP : ∀ s, P' s → P s) (hQ : ∀ a s, Q a s → Q' a s)
    (hE : ∀ e s, E e s → F e s) : Triple P' x Q' F := by
  intro s hs
  have hrun := hx s (hP s hs)
  cases hx : x s with
  | mk result t =>
    rw [hx] at hrun
    cases result with
    | ok a => exact hQ a t hrun
    | error e => exact hE e t hrun

lemma mono_pre (hx : Triple P x Q E) (hP : ∀ s, P' s → P s) : Triple P' x Q E :=
  hx.mono hP (fun _ _ h => h) fun _ _ h => h

lemma mono_post (hx : Triple P x Q E) (hQ : ∀ a s, Q a s → Q' a s)
    (hE : ∀ e s, E e s → F e s) : Triple P x Q' F :=
  hx.mono (fun _ h => h) hQ hE

lemma mono_error (hx : Triple P x Q E) (hE : ∀ e s, E e s → F e s) : Triple P x Q F :=
  hx.mono_post (fun _ _ h => h) hE

/-- What is known besides `I` need not hold after an exception. -/
lemma kept {J : ε → σ → Prop} (hx : Triple P x Q fun e s => I s ∧ J e s) :
    Triple P x Q fun _ => I :=
  hx.mono_error fun _ _ h => h.1

lemma dropping {J : σ → Prop} (hx : Triple P x Q E) : Triple (fun s => P s ∧ J s) x Q E :=
  hx.mono_pre fun _ h => h.1

/-- **`try: x`**, and what comes after it. -/
theorem attempt_bind {f : Except δ α → Effect σ ε β}
    (hx : Triple P x Q F) (hok : ∀ a, Triple (Q a) (f (.ok a)) R E)
    (hcaught : ∀ e d, select e = some d → Triple (F e) (f (.error d)) R E)
    (hraised : ∀ e s, select e = none → F e s → E e s) :
    Triple P (Effect.attempt select x >>= f) R E := by
  intro s hs
  have hresult := hx s hs
  cases hrun : x s with
  | mk result t =>
    rw [hrun] at hresult
    cases result with
    | ok a =>
      rw [bind_apply_ok (attempt_apply_ok hrun)]
      exact hok a t hresult
    | error e =>
      cases hselect : select e with
      | some d =>
        rw [bind_apply_ok (attempt_apply_error hrun hselect)]
        exact hcaught e d hselect t hresult
      | none =>
        rw [bind_apply_error (attempt_apply_none hrun hselect)]
        exact hraised e t hselect hresult

lemma of_and {p : Prop} (h : p → Triple P x Q E) : Triple (fun s => p ∧ P s) x Q E :=
  fun s hs => h hs.1 s hs.2

/-- What holds however `x` ends holds after `try: x`. -/
lemma attempt_of_always {R : σ → Prop} (hx : Triple P x (fun _ => R) fun _ => R) :
    Triple P (Effect.attempt select x) (fun _ => R) fun _ => R :=
  .attempt (hx.mono_error fun _ _ h => ⟨fun _ _ => h, fun _ => h⟩)

/-- **Loops.** What every round keeps, the loop keeps. -/
protected theorem forM (h : ∀ i ∈ items, Triple P (body i) (fun _ => P) E) :
    Triple P (items.forM body) (fun _ => P) E := by
  induction items with
  | nil => exact .pure fun _ hs => hs
  | cons i items ih =>
    change Triple P (body i >>= fun _ => items.forM body) _ E
    exact .bind (h i List.mem_cons_self) fun _ => ih fun j hj => h j (List.mem_cons_of_mem _ hj)

/-- A computation that does not touch the state. -/
protected lemma lift {y : Except ε α} (hok : ∀ s, P s → ∀ a, y = .ok a → Q a s)
    (herror : ∀ s, P s → ∀ e, y = .error e → E e s) : Triple P (lift y) Q E := by
  intro s hs
  cases y with
  | ok a => exact hok s hs a rfl
  | error e => exact herror s hs e rfl

end Triple

/-! ### Invariants -/

/-- Whether `x` returns or raises, `I` holds afterwards if it held before. -/
def Keeps (I : σ → Prop) (x : Effect σ ε α) : Prop := Triple I x (fun _ => I) fun _ => I

namespace Keeps

variable {I : σ → Prop}

protected lemma pure (a : α) : Keeps I (pure a : Effect σ ε α) := fun _ h => h

protected lemma raise (e : ε) : Keeps I (raise e : Effect σ ε α) := fun _ h => h

protected lemma state : Keeps I (state : Effect σ ε σ) := fun _ h => h

protected lemma lift (y : Except ε α) : Keeps I (lift y : Effect σ ε α) := by
  intro s hs
  cases y with
  | ok a => exact hs
  | error e => exact hs

protected lemma bind (hx : Keeps I x) (hf : ∀ a, Keeps I (f a)) : Keeps I (x >>= f) :=
  Triple.bind hx hf

protected lemma attempt (hx : Keeps I x) : Keeps I (attempt select x) :=
  Triple.attempt_of_always hx

protected lemma forM (h : ∀ i ∈ items, Keeps I (body i)) : Keeps I (items.forM body) :=
  Triple.forM h

end Keeps

end Effect

end StatePort
