import Mathlib.Data.List.Basic

/-!
# Crashes and recovery

A program is a list of atomic operations on a durable state, and a crash stops it after some of
them. Recovery inspects the state that it finds and decides on operations of its own
(`recovery s steps`); it may crash in turn, and the next recovery starts from the state that it
left. `Recovered recovery s t` says that `t` is the state which the first recovery to complete
leaves, when the first one to start finds `s`.

`Throughout I s steps` says that `I` holds after every prefix of `steps`, which is what a crash can
leave of them. A property of the state that recovery leaves follows by `Recovered.outcome` from an
invariant that holds throughout each recovery.
-/

namespace StatePort

variable {σ ι : Type*} (exec : σ → ι → σ)

/-- The state after all of `steps`. -/
def runSteps (s : σ) (steps : List ι) : σ := steps.foldl exec s

/-- `I` holds before the first of `steps` and after each of them. -/
inductive Throughout (I : σ → Prop) : σ → List ι → Prop
  | nil {s : σ} (h : I s) : Throughout I s []
  | cons {s : σ} {step : ι} {steps : List ι} (h : I s)
    (hrest : Throughout I (exec s step) steps) : Throughout I s (step :: steps)

variable {exec} {I J : σ → Prop} {s t : σ} {step : ι} {steps rest : List ι}

@[simp] lemma runSteps_nil : runSteps exec s [] = s := rfl

@[simp] lemma runSteps_cons :
    runSteps exec s (step :: steps) = runSteps exec (exec s step) steps := rfl

@[simp] lemma runSteps_append :
    runSteps exec s (steps ++ rest) = runSteps exec (runSteps exec s steps) rest :=
  List.foldl_append

lemma Throughout.append (h : Throughout exec I s steps)
    (hrest : Throughout exec I (runSteps exec s steps) rest) :
    Throughout exec I s (steps ++ rest) := by
  induction h with
  | nil _ => exact hrest
  | cons h _ ih => exact .cons h (ih hrest)

/-- What every step preserves holds throughout, and at the end. -/
lemma throughout_of_preserved (hstep : ∀ s, J s → ∀ step ∈ steps, J (exec s step)) (hs : J s) :
    Throughout exec J s steps ∧ J (runSteps exec s steps) := by
  induction steps generalizing s with
  | nil => exact ⟨.nil hs, hs⟩
  | cons step steps ih =>
    have hnext := hstep s hs step List.mem_cons_self
    have hrest := ih (fun s hs step hmem => hstep s hs step (List.mem_cons_of_mem _ hmem)) hnext
    exact ⟨.cons hs hrest.1, hrest.2⟩

lemma Throughout.mono (hIJ : ∀ s, I s → J s) (h : Throughout exec I s steps) :
    Throughout exec J s steps := by
  induction h with
  | nil h => exact .nil (hIJ _ h)
  | cons h _ ih => exact .cons (hIJ _ h) ih

lemma Throughout.take (h : Throughout exec I s steps) (k : ℕ) :
    I (runSteps exec s (steps.take k)) := by
  induction h generalizing k with
  | nil h =>
    rw [List.take_nil]
    exact h
  | cons h _ ih =>
    cases k with
    | zero => exact h
    | succ k => exact ih k

lemma Throughout.last (h : Throughout exec I s steps) : I (runSteps exec s steps) := by
  have htake := h.take steps.length
  rwa [List.take_length] at htake

/-- A property holds throughout two programs in a row exactly if it holds throughout each. -/
lemma throughout_append_iff : Throughout exec I s (steps ++ rest) ↔
    Throughout exec I s steps ∧ Throughout exec I (runSteps exec s steps) rest := by
  constructor
  · intro h
    induction steps generalizing s with
    | nil =>
      cases h with
      | nil h => exact ⟨.nil h, .nil h⟩
      | cons h hrest => exact ⟨.nil h, .cons h hrest⟩
    | cons step steps ih =>
      cases h with
      | cons h hrest =>
        obtain ⟨hsteps, hrest⟩ := ih hrest
        exact ⟨.cons h hsteps, hrest⟩
  · rintro ⟨hsteps, hrest⟩
    exact hsteps.append hrest

variable (exec) in
/-- The first recovery to complete leaves `t`, if the first to start finds `s`. -/
inductive Recovered (recovery : σ → List ι → Prop) : σ → σ → Prop
  | completes {s : σ} {steps : List ι} (h : recovery s steps) :
    Recovered recovery s (runSteps exec s steps)
  | crashes {s t : σ} {steps : List ι} (k : ℕ) (h : recovery s steps)
    (hnext : Recovered recovery (runSteps exec s (steps.take k)) t) : Recovered recovery s t

/-- **Recovery rule.** If `I` holds throughout every recovery that starts with it, and every
recovery that starts with it ends in `Q`, then the first recovery to complete leaves `Q`. -/
theorem Recovered.outcome {recovery : σ → List ι → Prop} {Q : σ → Prop}
    (hcrash : ∀ s steps, I s → recovery s steps → Throughout exec I s steps)
    (hdone : ∀ s steps, I s → recovery s steps → Q (runSteps exec s steps))
    (h : Recovered exec recovery s t) (hs : I s) : Q t := by
  induction h with
  | completes h => exact hdone _ _ hs h
  | crashes k h _ ih => exact ih ((hcrash _ _ hs h).take k)

end StatePort
