import Mathlib.Logic.Relation

/-!
# Runs of a system under an assumption on its events

A system is a transition function `next : σ → ι → σ` on states and events; an event that the system
refuses leaves the state as it is. `Run next ok s t` says that `t` is reached from `s` by finitely
many events, each of which satisfies the assumption `ok` in the state it meets. Properties of whole
runs follow from one step lemma by `Run.invariant`; `Run.along` builds a run from a list of events.
-/

namespace StatePort

open List

variable {σ ι : Type*} {next : σ → ι → σ} {ok ok' : σ → ι → Prop} {s : σ} {I : σ → Prop}

variable (next ok) in
/-- `t` is reached from `s` by events that satisfy `ok` where they occur. -/
def Run : σ → σ → Prop :=
  Relation.ReflTransGen fun s t => ∃ e, ok s e ∧ next s e = t

/-- The assumption that allows every event. -/
def anyEvent (_ : σ) (_ : ι) : Prop := True

namespace Run

lemma refl (s : σ) : Run next ok s s := Relation.ReflTransGen.refl

lemma step {t : σ} (h : Run next ok s t) {e : ι} (he : ok t e) : Run next ok s (next t e) :=
  h.tail ⟨e, he, rfl⟩

lemma trans {t r : σ} (h : Run next ok s t) (h' : Run next ok t r) : Run next ok s r :=
  Relation.ReflTransGen.trans h h'

/-- **Invariant rule.** What every allowed event preserves holds at the end of a run if it holds at
its start. -/
theorem invariant (hstep : ∀ s e, I s → ok s e → I (next s e)) {t : σ} (h : Run next ok s t)
    (hs : I s) : I t := by
  induction h with
  | refl => exact hs
  | tail _ hst ih =>
    obtain ⟨e, he, rfl⟩ := hst
    exact hstep _ _ ih he

/-- Along a run that starts with an invariant, every event meets a state with the invariant. -/
lemma strengthen (hstep : ∀ s e, I s → ok s e → I (next s e)) {t : σ} (h : Run next ok s t)
    (hs : I s) : Run next (fun s e => ok s e ∧ I s) s t := by
  induction h with
  | refl => exact refl s
  | tail hrun hst ih =>
    obtain ⟨e, he, rfl⟩ := hst
    exact ih.step ⟨he, invariant hstep hrun hs⟩

/-- The events of `es` satisfy `ok` where they occur when they are fed to the system from `s`. -/
def Along (next : σ → ι → σ) (ok : σ → ι → Prop) : σ → List ι → Prop
  | _, [] => True
  | s, e :: es => ok s e ∧ Along next ok (next s e) es

/-- What every event does is done along every list of events. -/
lemma along_of_forall (hok : ∀ s e, ok s e) (s : σ) (es : List ι) : Along next ok s es := by
  induction es generalizing s with
  | nil => trivial
  | cons e es ih => exact ⟨hok s e, ih (next s e)⟩

/-- Two assumptions that agree everywhere hold along the same lists of events. -/
lemma along_congr (hok : ∀ s e, ok s e ↔ ok' s e) (s : σ) (es : List ι) :
    Along next ok s es ↔ Along next ok' s es := by
  induction es generalizing s with
  | nil => exact Iff.rfl
  | cons e es ih => exact and_congr (hok s e) (ih (next s e))

/-- Two assumptions hold along the same lists of events if they agree under an invariant that the
first one keeps. -/
lemma along_congr_of_invariant (hok : ∀ s e, I s → (ok s e ↔ ok' s e))
    (hstep : ∀ s e, I s → ok s e → I (next s e)) (hs : I s) (es : List ι) :
    Along next ok s es ↔ Along next ok' s es := by
  induction es generalizing s with
  | nil => exact Iff.rfl
  | cons e es ih =>
    constructor
    · rintro ⟨he, hes⟩
      exact ⟨(hok s e hs).mp he, (ih (hstep s e hs he)).mp hes⟩
    · rintro ⟨he, hes⟩
      have he' := (hok s e hs).mpr he
      exact ⟨he', (ih (hstep s e hs he')).mpr hes⟩

/-- An assumption holds along a list of events if it holds at each of them after the earlier ones. -/
lemma along_iff_forall_append {es : List ι} : Along next ok s es ↔
    ∀ earlier e later, es = earlier ++ e :: later → ok (earlier.foldl next s) e := by
  induction es generalizing s with
  | nil => simp [Along]
  | cons e es ih =>
    rw [Along, ih]
    constructor
    · rintro ⟨he, hes⟩ earlier e' later hsplit
      cases earlier with
      | nil =>
        cases hsplit
        exact he
      | cons first earlier =>
        cases hsplit
        exact hes earlier e' later rfl
    · intro h
      refine ⟨h [] e es rfl, fun earlier e' later hsplit => ?_⟩
      exact h (e :: earlier) e' later (by rw [hsplit]; rfl)

/-- A transitive relation holds from each state of a run to the next one exactly if it holds from
every state to every later one. -/
lemma along_iff_prefixes {R : σ → σ → Prop} (hrefl : ∀ s t, R s t → R t t)
    (htrans : ∀ s t r, R s t → R t r → R s r) (hs : R s s) (es : List ι) :
    Along next (fun s e => R s (next s e)) s es ↔
      ∀ earlier later, earlier <+: later → later <+: es →
        R (earlier.foldl next s) (later.foldl next s) := by
  induction es generalizing s with
  | nil =>
    refine ⟨fun _ earlier later hearlier hlater => ?_, fun _ => trivial⟩
    rw [prefix_nil] at hlater
    rw [hlater, prefix_nil] at hearlier
    rw [hearlier, hlater]
    exact hs
  | cons e es ih =>
    constructor
    · rintro ⟨he, hes⟩ earlier later hearlier hlater
      have hrest := (ih (hrefl _ _ he)).mp hes
      obtain rfl | ⟨later', rfl, hlater'⟩ := prefix_cons_iff.mp hlater
      · rw [prefix_nil] at hearlier
        rw [hearlier]
        exact hs
      · obtain rfl | ⟨earlier', rfl, hearlier'⟩ := prefix_cons_iff.mp hearlier
        · exact htrans _ _ _ he (hrest [] later' nil_prefix hlater')
        · exact hrest earlier' later' hearlier' hlater'
    · intro h
      have he : R s (next s e) := h [] [e] nil_prefix (by simp)
      refine ⟨he, (ih (hrefl _ _ he)).mpr fun earlier later hearlier hlater => ?_⟩
      exact h (e :: earlier) (e :: later) (by simpa using hearlier) (by simpa using hlater)

/-- A property holds at every moment of a history exactly if its events are allowed, provided that an
event keeps the property just if it is allowed and that an invariant says so. -/
lemma forall_prefix_iff_along {P : σ → Prop} (hok : ∀ s e, I s → (P (next s e) ↔ ok s e))
    (hstep : ∀ s e, I s → P (next s e) → I (next s e)) (hs : I s) (hP : P s) (es : List ι) :
    (∀ earlier, earlier <+: es → P (earlier.foldl next s)) ↔ Along next ok s es := by
  induction es generalizing s with
  | nil =>
    refine ⟨fun _ => trivial, fun _ earlier hearlier => ?_⟩
    rw [prefix_nil] at hearlier
    rw [hearlier]
    exact hP
  | cons e es ih =>
    constructor
    · intro h
      have he : P (next s e) := h [e] (by simp)
      refine ⟨(hok s e hs).mp he, (ih (hstep s e hs he) he).mp fun earlier hearlier => ?_⟩
      exact h (e :: earlier) (by simpa using hearlier)
    · rintro ⟨he, hes⟩ earlier hearlier
      have he' := (hok s e hs).mpr he
      obtain rfl | ⟨earlier', rfl, hearlier'⟩ := prefix_cons_iff.mp hearlier
      · exact hP
      · exact (ih (hstep s e hs he') he').mpr hes earlier' hearlier'

lemma along {es : List ι} : ∀ {s : σ}, Along next ok s es → Run next ok s (es.foldl next s) := by
  induction es with
  | nil =>
    intro s _
    exact refl s
  | cons e es ih =>
    intro s h
    exact ((refl s).step h.1).trans (ih h.2)

/-- Every list of events is a run when nothing is assumed of them. -/
lemma foldl (es : List ι) (s : σ) : Run next anyEvent s (es.foldl next s) := by
  induction es generalizing s with
  | nil => exact refl s
  | cons e es ih => exact ((refl s).step trivial).trans (ih _)

end Run

end StatePort
